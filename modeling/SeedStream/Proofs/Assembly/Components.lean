import Mathlib.Data.Set.Card
import Mathlib.Data.Set.Finite.Lemmas

/-!
# Connected spans of time

Of two spans that belong together the later one starts no more than a tolerance behind the end
of the other; spans that are linked by others belong together too. A stretch of such spans
opens at a time at which a span starts and before which whatever started has ended, the
tolerance counted in. There are as many stretches as such times, since within a stretch the
span that starts first opens it, and no link leads across an opening.
-/

set_option autoImplicit false

namespace SeedStream.Assembly

/-- Of two spans, the one that starts later starts no more than the tolerance behind the end
of the other. -/
def Adjoins (tolerance : Int) (a b : Int × Int) : Prop :=
  (a.1 ≤ b.1 → b.1 ≤ a.2 + tolerance) ∧ (b.1 ≤ a.1 → a.1 ≤ b.2 + tolerance)

def Linked (tolerance : Int) (spans : List (Int × Int)) (j k : Fin spans.length) : Prop :=
  Adjoins tolerance spans[j] spans[k]

noncomputable def components (tolerance : Int) (spans : List (Int × Int)) : Nat :=
  Nat.card (Quot (Linked tolerance spans))

/-- A span starts at the time `t`, and each that starts before has ended by then, the tolerance
counted in. -/
def Opens (tolerance : Int) (spans : List (Int × Int)) (t : Int) : Prop :=
  (∃ p ∈ spans, p.1 = t) ∧ ∀ p ∈ spans, p.1 < t → p.2 + tolerance < t

variable {tol tol' t : Int} {a b : Int × Int} {spans : List (Int × Int)} {j k : Fin spans.length}

theorem adjoins_of_start_eq (ha : a.1 ≤ a.2 + tol) (hb : b.1 ≤ b.2 + tol) (h : a.1 = b.1) :
    Adjoins tol a b :=
  ⟨fun _ => h ▸ ha, fun _ => h ▸ hb⟩

theorem Opens.before_iff (h : Opens tol spans t) (ha : a ∈ spans) (hb : b ∈ spans)
    (hab : Adjoins tol a b) : a.1 < t ↔ b.1 < t := by
  obtain ⟨hthere, hback⟩ := hab
  constructor
  · intro hlt
    have hend := h.2 a ha hlt
    omega
  · intro hlt
    have hend := h.2 b hb hlt
    omega

theorem Opens.component_iff (h : Opens tol spans t)
    (hjk : Quot.mk (Linked tol spans) j = Quot.mk (Linked tol spans) k) :
    spans[j].1 < t ↔ spans[k].1 < t := by
  have hlift := congrArg (Quot.lift (fun k : Fin spans.length => spans[k].1 < t) fun a b hab =>
    propext (h.before_iff (List.getElem_mem a.isLt) (List.getElem_mem b.isLt) hab)) hjk
  exact iff_of_eq hlift

theorem exists_earlier (h : ¬ Opens tol spans spans[k].1) :
    ∃ j : Fin spans.length, spans[j].1 < spans[k].1 ∧ Linked tol spans j k := by
  rw [Opens, not_and] at h
  have hsome := h ⟨spans[k], List.getElem_mem k.isLt, rfl⟩
  push Not at hsome
  obtain ⟨q, hq, hlt, hle⟩ := hsome
  obtain ⟨j, hj, rfl⟩ := List.getElem_of_mem hq
  exact ⟨⟨j, hj⟩, hlt, fun _ => hle, fun hge => absurd hlt (Int.not_lt.2 hge)⟩

theorem exists_opens (tol : Int) (k : Fin spans.length) : ∃ j : Fin spans.length,
    Quot.mk (Linked tol spans) j = Quot.mk (Linked tol spans) k ∧ Opens tol spans spans[j].1 := by
  obtain ⟨j, hj, hfirst⟩ := Set.exists_min_image
    {j | Quot.mk (Linked tol spans) j = Quot.mk (Linked tol spans) k} (fun j => spans[j].1)
    (Set.toFinite _) ⟨k, rfl⟩
  refine ⟨j, hj, ?_⟩
  by_contra hnot
  obtain ⟨m, hlt, hlink⟩ := exists_earlier hnot
  exact absurd hlt (Int.not_lt.2 (hfirst m ((Quot.sound hlink).trans hj)))

/-- There are as many components as times at which one of them opens. -/
theorem components_eq (h : ∀ p ∈ spans, p.1 ≤ p.2 + tol) :
    components tol spans = {t | Opens tol spans t}.ncard := by
  have hplace : ∀ t : {t | Opens tol spans t}, ∃ k : Fin spans.length, spans[k].1 = t := by
    rintro ⟨t, ⟨p, hp, rfl⟩, -⟩
    obtain ⟨k, hk, rfl⟩ := List.getElem_of_mem hp
    exact ⟨⟨k, hk⟩, rfl⟩
  choose place hplace using hplace
  rw [← Nat.card_coe_set_eq, components]
  refine (Nat.card_eq_of_bijective (fun t => Quot.mk (Linked tol spans) (place t))
    ⟨?_, ?_⟩).symm
  · intro t u htu
    have ht := t.2.component_iff htu
    have hu := u.2.component_iff htu
    rw [hplace, hplace] at ht hu
    apply Subtype.ext
    omega
  · intro component
    induction component using Quot.ind with
    | mk k =>
      obtain ⟨j, hj, hopens⟩ := exists_opens tol k
      refine ⟨⟨_, hopens⟩, (Quot.sound ?_).trans hj⟩
      exact adjoins_of_start_eq (h _ (List.getElem_mem _)) (h _ (List.getElem_mem _)) (hplace _)

theorem components_nil (tol : Int) : components tol [] = 0 := by
  rw [components_eq (by simp)]
  simp [Opens]

theorem finite_opens (tol : Int) (spans : List (Int × Int)) : {t | Opens tol spans t}.Finite := by
  refine (List.finite_toSet (spans.map Prod.fst)).subset ?_
  rintro t ⟨hstart, -⟩
  exact List.mem_map.2 hstart

theorem opens_congr {spans' : List (Int × Int)} (h : ∀ p, p ∈ spans ↔ p ∈ spans') :
    Opens tol spans t ↔ Opens tol spans' t := by
  simp only [Opens, h]

theorem components_perm {spans' : List (Int × Int)} (hp : spans.Perm spans')
    (h : ∀ p ∈ spans, p.1 ≤ p.2 + tol) : components tol spans = components tol spans' := by
  have h' : ∀ p ∈ spans', p.1 ≤ p.2 + tol := fun p hmem => h p (hp.mem_iff.2 hmem)
  have hopens : {t | Opens tol spans t} = {t | Opens tol spans' t} :=
    Set.ext fun t => opens_congr fun p => hp.mem_iff
  rw [components_eq h, components_eq h', hopens]

theorem opens_cons_apart (ha : a.1 ≤ a.2 + tol) (h : ∀ b ∈ spans, a.2 + tol < b.1) :
    Opens tol (a :: spans) t ↔ t = a.1 ∨ Opens tol spans t := by
  simp only [Opens, List.exists_mem_cons_iff, List.forall_mem_cons]
  constructor
  · rintro ⟨rfl | hsome, -, hall⟩
    · exact .inl rfl
    · exact .inr ⟨hsome, hall⟩
  · rintro (rfl | ⟨⟨b, hb, rfl⟩, hall⟩)
    · refine ⟨.inl rfl, fun hlt => absurd hlt (Int.lt_irrefl _), fun b hb hlt => ?_⟩
      have hafter := h b hb
      omega
    · exact ⟨.inr ⟨b, hb, rfl⟩, fun _ => h b hb, hall⟩

theorem opens_cons_joined (hab : a.1 ≤ b.1) (hlink : b.1 ≤ a.2 + tol) :
    Opens tol (a :: b :: spans) t ↔ Opens tol ((a.1, max a.2 b.2) :: spans) t := by
  simp only [Opens, List.exists_mem_cons_iff, List.forall_mem_cons]
  constructor
  · rintro ⟨hsome, ha, hb, hall⟩
    refine ⟨?_, fun hlt => ?_, hall⟩
    · rcases hsome with hat | rfl | hrest
      · exact .inl hat
      · exact .inl (by omega)
      · exact .inr hrest
    · have hend := ha hlt
      have hend' := hb (by omega)
      omega
  · rintro ⟨hsome, hunion, hall⟩
    refine ⟨hsome.imp_right .inr, fun hlt => ?_, fun hlt => ?_, hall⟩
    · have hend := hunion hlt
      omega
    · have hend := hunion (by omega)
      omega

section Ends

variable {α : Type} {l : List α} {start stop stop' : α → Int}

theorem Opens.of_ends_le (h : ∀ x ∈ l, stop x + tol ≤ stop' x + tol')
    (ho : Opens tol' (l.map fun x => (start x, stop' x)) t) :
    Opens tol (l.map fun x => (start x, stop x)) t := by
  obtain ⟨hsome, hall⟩ := ho
  simp only [Opens, List.mem_map, exists_exists_and_eq_and, forall_exists_index, and_imp,
    forall_apply_eq_imp_iff₂] at hsome hall ⊢
  refine ⟨hsome, fun x hx hlt => ?_⟩
  have hend := hall x hx hlt
  have hle := h x hx
  omega

theorem components_le_of_ends_le (hl : ∀ x ∈ l, start x ≤ stop x + tol)
    (h : ∀ x ∈ l, stop x + tol ≤ stop' x + tol') :
    components tol' (l.map fun x => (start x, stop' x)) ≤
      components tol (l.map fun x => (start x, stop x)) := by
  rw [components_eq, components_eq]
  · exact Set.ncard_le_ncard (fun t ht => Opens.of_ends_le h ht) (finite_opens _ _)
  · simpa using hl
  · simp only [List.mem_map, forall_exists_index, and_imp, forall_apply_eq_imp_iff₂]
    intro x hx
    exact (hl x hx).trans (h x hx)

end Ends

end SeedStream.Assembly
