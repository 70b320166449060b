import Mathlib.Data.List.Sort
import SeedStream.Proofs.Assembly.Fold

/-!
# Maximal runs

The instants of a channel fall into maximal runs of neighbours one interval
apart. The runs are determined by the instants. What an assembly puts out are
the runs of the instants it holds samples of, if these lie on one grid.
-/

set_option autoImplicit false

namespace SeedStream.Assembly
open Segment

/-- The maximal runs of the instants `C`, in the order of time. A run is its
first instant and the number of its instants, which are `i` apart. -/
structure Runs (i : Int) (C : Int → Prop) (runs : List (Int × Nat)) : Prop where
  nonempty : ∀ r ∈ runs, 0 < r.2
  covered : ∀ r ∈ runs, ∀ k < r.2, C (r.1 + i * k)
  complete : ∀ x, C x → ∃ r ∈ runs, ∃ k < r.2, x = r.1 + i * k
  first : ∀ r ∈ runs, ¬ C (r.1 - i)
  last : ∀ r ∈ runs, ¬ C (r.1 + i * r.2)
  ordered : runs.Pairwise fun a b => a.1 < b.1

variable {i d : Int} {C : Int → Prop} {runs others : List (Int × Nat)} {r r' : Int × Nat}

theorem Runs.start_mem (h : Runs i C runs) (h' : Runs i C others) (hr : r ∈ runs) :
    ∃ r' ∈ others, r'.1 = r.1 := by
  have hfirst : C (r.1 + i * (0 : Nat)) := h.covered r hr 0 (h.nonempty r hr)
  obtain ⟨r', hr', k, hk, hx⟩ := h'.complete _ hfirst
  cases k with
  | zero => exact ⟨r', hr', by simpa using hx.symm⟩
  | succ k =>
    have hbefore := h'.covered r' hr' k (Nat.lt_of_succ_lt hk)
    have heq : r'.1 + i * k = r.1 - i := by
      push_cast at hx
      rw [Int.mul_add] at hx
      omega
    rw [heq] at hbefore
    exact absurd hbefore (h.first r hr)

theorem Runs.length_le (h : Runs i C runs) (h' : Runs i C others) (hr : r ∈ runs)
    (hr' : r' ∈ others) (hs : r'.1 = r.1) : r'.2 ≤ r.2 := by
  by_contra hlt
  have hmem := h'.covered r' hr' r.2 (by omega)
  rw [hs] at hmem
  exact h.last r hr hmem

theorem Runs.mem_of_mem (h : Runs i C runs) (h' : Runs i C others) (hr : r ∈ runs) :
    r ∈ others := by
  obtain ⟨r', hr', hs⟩ := h.start_mem h' hr
  have hlen : r'.2 = r.2 :=
    Nat.le_antisymm (h.length_le h' hr hr' hs) (h'.length_le h hr' hr hs.symm)
  have heq : r' = r := Prod.ext hs hlen
  exact heq ▸ hr'

/-- There is one list of maximal runs. -/
theorem Runs.unique (h : Runs i C runs) (h' : Runs i C others) : runs = others := by
  have : Std.Irrefl fun a b : Int × Nat => a.1 < b.1 := ⟨fun a => Int.lt_irrefl a.1⟩
  have : Std.Antisymm fun a b : Int × Nat => a.1 < b.1 :=
    ⟨fun a b hab hba => absurd (Int.lt_trans hab hba) (Int.lt_irrefl _)⟩
  exact h.ordered.eq_of_mem_iff h'.ordered fun r => ⟨h.mem_of_mem h', h'.mem_of_mem h⟩

variable {segments out : List Segment} {o o' : Segment} {x : Int} {v : Int32}

theorem Usable.stop_eq (h : Usable i d o) : o.stop = o.start + i * o.samples.length := by
  rw [h.regular.stop_eq, h.regular.sound.length_samples]

theorem Usable.holds_iff (h : Usable i d o) :
    (∃ v, o.Holds x v) ↔ ∃ k < o.samples.length, x = o.start + i * k := by
  constructor
  · rintro ⟨v, hx⟩
    obtain ⟨k, hk, rfl⟩ := h.regular.holds_iff.1 hx
    exact ⟨k, (List.getElem?_eq_some_iff.1 hk).1, rfl⟩
  · rintro ⟨k, hk, rfl⟩
    exact ⟨_, h.regular.holds_iff.2 ⟨k, List.getElem?_eq_getElem hk, rfl⟩⟩

theorem Assembled.apart_cases (h : Assembled i d segments out) (hd : 0 ≤ i / d) (ho : o ∈ out)
    (ho' : o' ∈ out) : o = o' ∨ o.stop < o'.start ∨ o'.stop < o.start := by
  rcases pairwise_cases h.apart ho ho' with heq | hafter | hbefore
  · exact .inl heq
  · exact .inr (.inl (by omega))
  · exact .inr (.inr (by omega))

theorem Assembled.isolated (h : Assembled i d segments out) (hi : 0 < i) (hd : 0 ≤ i / d)
    (ho : o ∈ out) (ho' : o' ∈ out) (hx : o'.Holds x v) :
    x ≠ o.start - i ∧ x ≠ o.stop := by
  obtain ⟨hlo, hhi⟩ := (h.usable o' ho').regular.holds_span hi hx
  have hspan := (h.usable o ho).regular.length_le_stop hi
  rcases h.apart_cases hd ho ho' with rfl | hafter | hbefore
  · constructor <;> omega
  · constructor <;> omega
  · constructor <;> omega

/-- The segments put out are the maximal runs of the instants of their samples. -/
theorem Assembled.runs_of_instants (h : Assembled i d segments out) (hi : 0 < i) (hd : 0 ≤ i / d)
    (hC : ∀ x, C x ↔ ∃ o ∈ out, ∃ v, o.Holds x v) :
    Runs i C (out.map fun o => (o.start, o.samples.length)) where
  nonempty := by
    simp only [List.mem_map, forall_exists_index, and_imp, forall_apply_eq_imp_iff₂]
    intro o ho
    rw [(h.usable o ho).regular.sound.length_samples]
    exact (h.usable o ho).nonempty
  covered := by
    simp only [List.mem_map, forall_exists_index, and_imp, forall_apply_eq_imp_iff₂]
    intro o ho k hk
    exact (hC _).2 ⟨o, ho, (h.usable o ho).holds_iff.2 ⟨k, hk, rfl⟩⟩
  complete x hx := by
    obtain ⟨o, ho, hv⟩ := (hC x).1 hx
    obtain ⟨k, hk, hxk⟩ := (h.usable o ho).holds_iff.1 hv
    exact ⟨_, List.mem_map_of_mem ho, k, hk, hxk⟩
  first := by
    simp only [List.mem_map, forall_exists_index, and_imp, forall_apply_eq_imp_iff₂]
    intro o ho hx
    obtain ⟨o', ho', v, hv⟩ := (hC _).1 hx
    exact (h.isolated hi hd ho ho' hv).1 rfl
  last := by
    simp only [List.mem_map, forall_exists_index, and_imp, forall_apply_eq_imp_iff₂]
    intro o ho hx
    rw [← (h.usable o ho).stop_eq] at hx
    obtain ⟨o', ho', v, hv⟩ := (hC _).1 hx
    exact (h.isolated hi hd ho ho' hv).2 rfl
  ordered := by
    rw [List.pairwise_map]
    refine h.apart.imp_of_mem fun ho _ hab => ?_
    have hspan := (h.usable _ ho).regular.length_le_stop hi
    omega

end SeedStream.Assembly
