import Mathlib.Data.List.Pairwise
import SeedStream.Assembly
import SeedStream.Proofs.Segment.Merging

/-!
# The fold of an assembly

Sorted by their spans, the segments of a channel are folded each into the one
before it. Since the one at hand starts first, its samples never move again, so
a sample moves at most once and by at most the slack of one merge, however long
the chain of merges is. What is put out is apart by more than the tolerance.
-/

set_option autoImplicit false

namespace SeedStream.Assembly
open Segment

theorem pairwise_cases {α : Type} {r : α → α → Prop} {l : List α} (h : l.Pairwise r)
    {a b : α} (ha : a ∈ l) (hb : b ∈ l) : a = b ∨ r a b ∨ r b a := by
  by_cases hab : a = b
  · exact .inl hab
  · have hsymm : Std.Symm fun a b : α => r a b ∨ r b a := ⟨fun _ _ => Or.symm⟩
    have heither : l.Pairwise fun a b => r a b ∨ r b a := h.imp Or.inl
    exact .inr (heither.forall ha hb hab)

theorem spanLe_iff (a b : Segment) :
    spanLe a b = true ↔ a.start < b.start ∨ (a.start = b.start ∧ a.stop ≤ b.stop) := by
  simp only [spanLe, spanLeIn, compareSpanIn, stopIn, Arithmetic.hold, bne_iff_ne, ne_eq,
    Ordering.then_eq_gt, compare_gt_iff_gt, compare_eq_iff_eq]
  omega

theorem spanLe_trans (a b c : Segment) (hab : spanLe a b = true) (hbc : spanLe b c = true) :
    spanLe a c = true := by
  rw [spanLe_iff] at *
  omega

theorem spanLe_total (a b : Segment) : (spanLe a b || spanLe b a) = true := by
  rw [Bool.or_eq_true, spanLe_iff, spanLe_iff]
  omega

theorem sorted_starts (segments : List Segment) :
    (sorted segments).Pairwise fun a b => a.start ≤ b.start := by
  refine (List.pairwise_mergeSort spanLe_trans spanLe_total _).imp fun h => ?_
  rw [spanLe_iff] at h
  omega

theorem mem_sortedIn {m : Arithmetic} {segments : List Segment} {s : Segment} :
    s ∈ sortedIn m segments ↔ s ∈ segments ∧ 0 < s.length := by
  simp [sortedIn, Nat.pos_iff_ne_zero]

theorem mem_sorted {segments : List Segment} {s : Segment} :
    s ∈ sorted segments ↔ s ∈ segments ∧ 0 < s.length :=
  mem_sortedIn

/-- Segments in the order of their spans stay where they are, but for empty ones. -/
theorem sortedIn_of_ordered {m : Arithmetic} {segments filled : List Segment}
    (hf : (segments.filter fun s => s.length != 0) = filled)
    (h : filled.Pairwise fun a b => spanLeIn m a b = true) : sortedIn m segments = filled := by
  rw [sortedIn, hf]
  exact List.mergeSort_of_pairwise h

theorem filter_filled {segments : List Segment} (h : ∀ s ∈ segments, 0 < s.length) :
    (segments.filter fun s => s.length != 0) = segments :=
  List.filter_eq_self.2 fun s hs => by simpa using Nat.ne_of_gt (h s hs)

structure Usable (i d : Int) (s : Segment) : Prop where
  regular : s.Regular i d
  nonempty : 0 < s.length

/-- What a fold makes of the segment at hand and the later ones that follow. -/
structure Folded (i d : Int) (current : Segment) (rest out : List Segment) : Prop where
  usable : ∀ o ∈ out, Usable i d o
  origin : ∀ o ∈ out, ∃ s ∈ current :: rest, o.start = s.start ∧ o.rate = s.rate
  behind : ∀ o ∈ out, current.start ≤ o.start
  apart : out.Pairwise fun a b => a.stop + i / d < b.start
  drawn : ∀ o ∈ out, ∀ x v, o.Holds x v →
    current.Holds x v ∨ ∃ s ∈ rest, ∃ y, s.Holds y v ∧ |x - y| ≤ slack i d
  firm : ∀ x v, current.Holds x v → ∃ o ∈ out, o.Holds x v
  covered : ∀ s ∈ rest, ∀ y w, s.Holds y w →
    ∃ o ∈ out, ∃ x v, o.Holds x v ∧ |x - y| ≤ slack i d

variable {i d : Int} {current s target : Segment} {rest out : List Segment}

theorem starts_target (h : SameHead current target)
    (hsorted : (current :: s :: rest).Pairwise fun a b => a.start ≤ b.start) :
    (target :: rest).Pairwise fun a b => a.start ≤ b.start := by
  obtain ⟨hfirst, htail⟩ := List.pairwise_cons.1 hsorted
  apply List.Pairwise.cons _ htail.of_cons
  intro t ht
  rw [h.start]
  exact hfirst t (List.mem_cons_of_mem s ht)

theorem Usable.shrink (h : Usable i d s) : Usable i d s.shrink :=
  ⟨h.regular.shrink, h.nonempty⟩

theorem Usable.joined (he : Usable i d current) (h : Joined current s target) :
    Usable i d target := by
  refine ⟨h.regular he.regular, ?_⟩
  rw [← h.sound.length_samples, h.samples, List.length_append, he.regular.sound.length_samples]
  exact Nat.lt_add_right _ he.nonempty

theorem folded_nil (h : Usable i d current) : Folded i d current [] [current.shrink] where
  usable o ho := by
    rw [List.mem_singleton.1 ho]
    exact h.shrink
  origin o ho := ⟨current, List.mem_cons_self,
    by rw [List.mem_singleton.1 ho]; exact ⟨rfl, rfl⟩⟩
  behind o ho := by
    rw [List.mem_singleton.1 ho]
    exact Int.le_refl _
  apart := List.pairwise_singleton _ _
  drawn o ho x v hx := by
    rw [List.mem_singleton.1 ho, h.regular.sound.holds_shrink] at hx
    exact .inl hx
  firm x v hx := ⟨_, List.mem_singleton.2 rfl, (h.regular.sound.holds_shrink x v).2 hx⟩
  covered s hs := absurd hs List.not_mem_nil

theorem Folded.merged (hi : 0 < i) (hc : Usable i d current) (hs : Usable i d s)
    (hle : current.start ≤ s.start) (hgap : s.start - current.stop ≤ i / d)
    (hj : Joined current s target) (h : Folded i d target rest out) :
    Folded i d current (s :: rest) out where
  usable := h.usable
  origin o ho := by
    obtain ⟨t, ht, hstart, hrate⟩ := h.origin o ho
    rcases List.mem_cons.1 ht with rfl | ht
    · exact ⟨current, List.mem_cons_self, hstart.trans hj.head.start, hrate.trans hj.head.rate⟩
    · exact ⟨t, List.mem_cons_of_mem _ (List.mem_cons_of_mem _ ht), hstart, hrate⟩
  behind o ho := by
    rw [← hj.head.start]
    exact h.behind o ho
  apart := h.apart
  drawn o ho x v hx := by
    rcases h.drawn o ho x v hx with ht | ⟨t, ht, hnear⟩
    · rcases hj.drawn hi hc.regular hs.regular hgap ht with hcur | hlater
      · exact .inl hcur
      · exact .inr ⟨s, List.mem_cons_self, hlater⟩
    · exact .inr ⟨t, List.mem_cons_of_mem _ ht, hnear⟩
  firm x v hx := h.firm x v (hj.keeps hx)
  covered t ht y w hy := by
    rcases List.mem_cons.1 ht with rfl | ht
    · obtain ⟨x, v, hx, hnear⟩ := hj.covers hi hc.regular hs.regular hgap hle hy
      obtain ⟨o, ho, hox⟩ := h.firm x v hx
      exact ⟨o, ho, x, v, hox, hnear⟩
    · exact h.covered t ht y w hy

theorem Folded.refused (hd : 0 ≤ slack i d) (hc : Usable i d current)
    (hle : current.start ≤ s.start) (hgap : i / d < s.start - current.stop)
    (h : Folded i d s rest out) : Folded i d current (s :: rest) (current.shrink :: out) where
  usable o ho := by
    rcases List.mem_cons.1 ho with rfl | ho
    · exact hc.shrink
    · exact h.usable o ho
  origin o ho := by
    rcases List.mem_cons.1 ho with rfl | ho
    · exact ⟨current, List.mem_cons_self, rfl, rfl⟩
    · obtain ⟨t, ht, horigin⟩ := h.origin o ho
      exact ⟨t, List.mem_cons_of_mem _ ht, horigin⟩
  behind o ho := by
    rcases List.mem_cons.1 ho with rfl | ho
    · exact Int.le_refl _
    · exact hle.trans (h.behind o ho)
  apart := by
    apply List.Pairwise.cons _ h.apart
    intro o ho
    have hbehind := h.behind o ho
    change current.stop + i / d < o.start
    omega
  drawn o ho x v hx := by
    rcases List.mem_cons.1 ho with rfl | ho
    · exact .inl ((hc.regular.sound.holds_shrink x v).1 hx)
    · rcases h.drawn o ho x v hx with hsx | ⟨t, ht, hnear⟩
      · exact .inr ⟨s, List.mem_cons_self, x, hsx, by simpa using hd⟩
      · exact .inr ⟨t, List.mem_cons_of_mem _ ht, hnear⟩
  firm x v hx := ⟨_, List.mem_cons_self, (hc.regular.sound.holds_shrink x v).2 hx⟩
  covered t ht y w hy := by
    rcases List.mem_cons.1 ht with rfl | ht
    · obtain ⟨o, ho, hoy⟩ := h.firm y w hy
      exact ⟨o, List.mem_cons_of_mem _ ho, y, w, hoy, by simpa using hd⟩
    · obtain ⟨o, ho, hnear⟩ := h.covered t ht y w hy
      exact ⟨o, List.mem_cons_of_mem _ ho, hnear⟩

theorem slack_nonneg (hi : 0 < i) : 0 ≤ slack i d :=
  (Int.ediv_nonneg (Int.le_of_lt hi) (by decide)).trans (le_max_left _ _)

theorem foldFrom_folded (hi : 0 < i) (hd : 0 < d) (hc : Usable i d current)
    (hr : ∀ s ∈ rest, Usable i d s)
    (hsorted : (current :: rest).Pairwise fun a b => a.start ≤ b.start) :
    Folded i d current rest (foldFrom current rest).1 := by
  -- A merge changes the target, so the invariant must hold for every later one.
  induction rest generalizing current with
  | nil => exact folded_nil hc
  | cons s rest ih =>
    have hs := hr s List.mem_cons_self
    have hrest := fun t ht => hr t (List.mem_cons_of_mem s ht)
    obtain ⟨hfirst, htail⟩ := List.pairwise_cons.1 hsorted
    have hle := hfirst s List.mem_cons_self
    rcases mergeInto_later hi hd hc.regular hs.regular hle with
      ⟨hgap, text, hm⟩ | ⟨hgap, target, hm, hj⟩
    · rw [foldFrom_cons, hm]
      exact (ih hs hrest htail).refused (slack_nonneg hi) hc hle hgap
    · rw [foldFrom_cons, hm]
      have hsorted' := starts_target hj.head hsorted
      exact (ih (hc.joined hj) hrest hsorted').merged hi hc hs hle hgap hj

structure Assembled (i d : Int) (segments out : List Segment) : Prop where
  usable : ∀ o ∈ out, Usable i d o
  origin : ∀ o ∈ out, ∃ s ∈ segments, o.start = s.start ∧ o.rate = s.rate
  apart : out.Pairwise fun a b => a.stop + i / d < b.start
  drawn : ∀ o ∈ out, ∀ x v, o.Holds x v →
    ∃ s ∈ segments, ∃ y, s.Holds y v ∧ |x - y| ≤ slack i d
  covered : ∀ s ∈ segments, ∀ y w, s.Holds y w →
    ∃ o ∈ out, ∃ x v, o.Holds x v ∧ |x - y| ≤ slack i d

theorem Folded.assembled (hd : 0 ≤ slack i d) (h : Folded i d s rest out) :
    Assembled i d (s :: rest) out where
  usable := h.usable
  origin := h.origin
  apart := h.apart
  drawn o ho x v hx := by
    rcases h.drawn o ho x v hx with hs | ⟨t, ht, hnear⟩
    · exact ⟨s, List.mem_cons_self, x, hs, by simpa using hd⟩
    · exact ⟨t, List.mem_cons_of_mem _ ht, hnear⟩
  covered t ht y w hy := by
    rcases List.mem_cons.1 ht with rfl | ht
    · obtain ⟨o, ho, hoy⟩ := h.firm y w hy
      exact ⟨o, ho, y, w, hoy, by simpa using hd⟩
    · exact h.covered t ht y w hy

theorem foldAll_assembled (hi : 0 < i) (hd : 0 < d) {segments : List Segment}
    (hu : ∀ s ∈ segments, Usable i d s)
    (hsorted : segments.Pairwise fun a b => a.start ≤ b.start) :
    Assembled i d segments (foldAll segments).1 := by
  cases segments with
  | nil => constructor <;> simp [foldAll_nil]
  | cons s rest =>
    exact (foldFrom_folded hi hd (hu s List.mem_cons_self)
      (fun t ht => hu t (List.mem_cons_of_mem s ht)) hsorted).assembled (slack_nonneg hi)

/-- Assembling moves no sample by more than the slack, makes none up, and leaves
none without a sample as close as that. -/
theorem assemble_assembled (hi : 0 < i) (hd : 0 < d) {segments : List Segment}
    (hr : ∀ s ∈ segments, s.Regular i d) : Assembled i d segments (assemble segments).1 := by
  have hu : ∀ s ∈ sorted segments, Usable i d s := fun s hs =>
    ⟨hr s (mem_sorted.1 hs).1, (mem_sorted.1 hs).2⟩
  have h := foldAll_assembled hi hd hu (sorted_starts segments)
  have hsub : ∀ s ∈ sorted segments, s ∈ segments := fun s hs => (mem_sorted.1 hs).1
  constructor
  · exact h.usable
  · intro o ho
    obtain ⟨s, hs, horigin⟩ := h.origin o ho
    exact ⟨s, hsub s hs, horigin⟩
  · exact h.apart
  · intro o ho x v hx
    obtain ⟨s, hs, hnear⟩ := h.drawn o ho x v hx
    exact ⟨s, hsub s hs, hnear⟩
  · intro s hs y w hy
    exact h.covered s (mem_sorted.2 ⟨hs, (hr s hs).sound.length_pos hy⟩) y w hy

end SeedStream.Assembly
