import SeedStream.Proofs.Assembly.Fold

/-!
# Spacing and counts of an assembly

What is put out is in order and apart by more than the tolerance, whatever the
segments store. Each segment with samples is put out or counted as merged, and
between two that are put out a refusal is counted. Segments that are apart to begin
with are put out as they are.
-/

set_option autoImplicit false

namespace SeedStream.Assembly
open Segment

theorem refused_counts (e : StreamError) : (AssemblyStats.refused e).merges = 0 ∧
    (AssemblyStats.refused e).gaps + (AssemblyStats.refused e).intervalMismatches = 1 := by
  cases e <;> exact ⟨rfl, rfl⟩

theorem foldFrom_counts (current : Segment) (rest : List Segment) :
    (foldFrom current rest).1.length + (foldFrom current rest).2.merges = rest.length + 1 ∧
    (foldFrom current rest).1.length =
      (foldFrom current rest).2.gaps + (foldFrom current rest).2.intervalMismatches + 1 := by
  induction rest generalizing current with
  | nil => exact ⟨rfl, rfl⟩
  | cons s rest ih =>
    rw [foldFrom_cons]
    cases s.mergeInto current with
    | merged target =>
      have htarget := ih target
      simp only [AssemblyStats.add, AssemblyStats.merged, List.length_cons]
      omega
    | refused e target returned =>
      have hreturned := ih returned
      have hcounts := refused_counts e
      simp only [AssemblyStats.add, List.length_cons]
      omega

theorem foldAll_counts (segments : List Segment) :
    (foldAll segments).1.length + (foldAll segments).2.merges = segments.length ∧
    (foldAll segments).2.gaps + (foldAll segments).2.intervalMismatches =
      (foldAll segments).1.length - 1 ∧
    ((foldAll segments).1 = [] → segments = []) := by
  cases segments with
  | nil => exact ⟨rfl, rfl, fun _ => rfl⟩
  | cons s rest =>
    have hcounts := foldFrom_counts s rest
    simp only [foldAll_cons, List.length_cons]
    refine ⟨hcounts.1, by omega, ?_⟩
    intro hnil
    simp [hnil] at hcounts

variable {i d : Int} {current s : Segment} {rest segments : List Segment}

/-- Segments with samples, of one interval and divisor, in order and apart by more than
the tolerance. -/
structure Spaced (i d : Int) (segments : List Segment) : Prop where
  paced : ∀ s ∈ segments, s.Paced i d
  nonempty : ∀ s ∈ segments, 0 < s.length
  apart : segments.Pairwise fun a b => a.stop + i / d < b.start

theorem Spaced.start_lt_stop (h : Spaced i d segments) (hi : 0 < i) (hs : s ∈ segments) :
    s.start < s.stop := by
  have hlength := mul_succ_le hi (h.nonempty s hs)
  rw [(h.paced s hs).stop_eq]
  omega

theorem Spaced.starts (h : Spaced i d segments) (hi : 0 < i) (hd : 0 < d) :
    segments.Pairwise fun a b => a.start < b.start := by
  have htol : 0 ≤ i / d := Int.ediv_nonneg (Int.le_of_lt hi) (Int.le_of_lt hd)
  refine h.apart.imp_of_mem fun ha _ hapart => ?_
  have hspan := h.start_lt_stop hi ha
  omega

structure Spread (i d start : Int) (out : List Segment × AssemblyStats) : Prop where
  spaced : Spaced i d out.1
  behind : ∀ o ∈ out.1, start ≤ o.start
  matched : out.2.intervalMismatches = 0

theorem Spread.refused {out : List Segment × AssemblyStats} (hc : current.Paced i d)
    (hn : 0 < current.length) (hle : current.start ≤ s.start)
    (hgap : i / d < s.start - current.stop) (h : Spread i d s.start out) {e : StreamError}
    (he : (AssemblyStats.refused e).intervalMismatches = 0) :
    Spread i d current.start (current.shrink :: out.1, (AssemblyStats.refused e).add out.2) where
  spaced := by
    refine ⟨?_, ?_, ?_⟩
    · exact List.forall_mem_cons.2 ⟨⟨hc.interval, hc.divisor⟩, h.spaced.paced⟩
    · exact List.forall_mem_cons.2 ⟨hn, h.spaced.nonempty⟩
    · apply List.Pairwise.cons _ h.spaced.apart
      intro o ho
      have hbehind := h.behind o ho
      change current.stop + i / d < o.start
      omega
  behind := List.forall_mem_cons.2 ⟨Int.le_refl _, fun o ho => hle.trans (h.behind o ho)⟩
  matched := by
    have hrest := h.matched
    simp only [AssemblyStats.add]
    omega

theorem foldFrom_spread (hi : 0 < i) (hd : 0 < d) (hc : current.Paced i d)
    (hn : 0 < current.length) (hr : ∀ s ∈ rest, s.Paced i d)
    (hrn : ∀ s ∈ rest, 0 < s.length)
    (hsorted : (current :: rest).Pairwise fun a b => a.start ≤ b.start) :
    Spread i d current.start (foldFrom current rest) := by
  induction rest generalizing current with
  | nil =>
    refine ⟨⟨?_, ?_, List.pairwise_singleton _ _⟩, ?_, rfl⟩
    · exact List.forall_mem_singleton.2 ⟨hc.interval, hc.divisor⟩
    · exact List.forall_mem_singleton.2 hn
    · exact List.forall_mem_singleton.2 (Int.le_refl _)
  | cons s rest ih =>
    obtain ⟨hs, hrest⟩ := List.forall_mem_cons.1 hr
    obtain ⟨hsn, hrestn⟩ := List.forall_mem_cons.1 hrn
    obtain ⟨hfirst, htail⟩ := List.pairwise_cons.1 hsorted
    have hle := hfirst s List.mem_cons_self
    have hmerged : ∀ target, SameHead current target → current.length ≤ target.length →
        s.mergeInto current = .merged target →
        Spread i d current.start (foldFrom current (s :: rest)) := by
      intro target hh hlength hm
      have hsorted' := starts_target hh hsorted
      have hrun := ih (hc.of_head hh) (Nat.lt_of_lt_of_le hn hlength) hrest hrestn hsorted'
      rw [hh.start] at hrun
      rw [foldFrom_cons, hm]
      exact ⟨hrun.spaced, hrun.behind, (Nat.zero_add _).trans hrun.matched⟩
    rcases mergeInto_cases hi hd hc hs hle with ⟨hgap, text, hm⟩ | ⟨-, ⟨-, hm⟩ | hm⟩
    · rw [foldFrom_cons, hm]
      exact (ih hs hsn hrest hrestn htail).refused hc hn hle hgap rfl
    · exact hmerged current (.refl current) (Nat.le_refl _) hm
    · exact hmerged _ (extendBy_head current s).1 (extendBy_head current s).2 hm

theorem foldFrom_apart (hi : 0 < i) (hd : 0 < d) (hp : ∀ s ∈ current :: rest, s.Paced i d)
    (h : (current :: rest).Pairwise fun a b => a.stop + i / d < b.start) :
    (foldFrom current rest).1 = (current :: rest).map shrink := by
  induction rest generalizing current with
  | nil => rfl
  | cons s rest ih =>
    obtain ⟨hc, hrest⟩ := List.forall_mem_cons.1 hp
    have hs := hrest s List.mem_cons_self
    have hgap := (List.pairwise_cons.1 h).1 s List.mem_cons_self
    have htol : 0 ≤ i / d := Int.ediv_nonneg (Int.le_of_lt hi) (Int.le_of_lt hd)
    have hspan := hc.start_le_stop hi
    rcases mergeInto_cases hi hd hc hs (by omega) with ⟨-, text, hm⟩ | ⟨hnear, -⟩
    · rw [foldFrom_cons, hm]
      simp [ih hrest h.of_cons]
    · omega

theorem length_sorted (segments : List Segment) :
    (sorted segments).length + (segments.filter fun s => s.length == 0).length =
      segments.length := by
  have hsplit := segments.length_eq_length_filter_add fun s => s.length == 0
  rw [sorted_def, List.length_mergeSort, hsplit, Nat.add_comm]
  rfl

/-- Each segment is put out, merged into another or empty; between two that are put out a
gap or a mismatch is counted. -/
theorem assemble_counts (segments : List Segment) :
    (assemble segments).1.length + (assemble segments).2.merges +
      (assemble segments).2.emptyDiscarded = segments.length ∧
    (assemble segments).2.gaps + (assemble segments).2.intervalMismatches =
      (assemble segments).1.length - 1 := by
  obtain ⟨hlength, hgaps, -⟩ := foldAll_counts (sorted segments)
  have hempty := length_sorted segments
  rw [← hlength] at hempty
  exact ⟨hempty, hgaps⟩

theorem assemble_ne_nil (h : ∃ s ∈ segments, 0 < s.length) : (assemble segments).1 ≠ [] := by
  intro hnil
  obtain ⟨s, hs⟩ := h
  have hmem := mem_sorted.2 hs
  rw [(foldAll_counts (sorted segments)).2.2 hnil] at hmem
  exact List.not_mem_nil hmem

theorem assemble_spaced (hi : 0 < i) (hd : 0 < d) (hp : ∀ s ∈ segments, s.Paced i d) :
    Spaced i d (assemble segments).1 ∧ (assemble segments).2.intervalMismatches = 0 := by
  have hsorted := sorted_starts segments
  have hpaced : ∀ s ∈ sorted segments, s.Paced i d := fun s hs => hp s (mem_sorted.1 hs).1
  have hlength : ∀ s ∈ sorted segments, 0 < s.length := fun s hs => (mem_sorted.1 hs).2
  simp only [assemble_def]
  cases hs : sorted segments with
  | nil => exact ⟨⟨by simp [foldAll_nil], by simp [foldAll_nil], .nil⟩, rfl⟩
  | cons s rest =>
    rw [hs] at hsorted hpaced hlength
    obtain ⟨hsp, hrestp⟩ := List.forall_mem_cons.1 hpaced
    obtain ⟨hsn, hrestn⟩ := List.forall_mem_cons.1 hlength
    have hrun := foldFrom_spread hi hd hsp hsn hrestp hrestn hsorted
    exact ⟨hrun.spaced, hrun.matched⟩

theorem assemble_apart (hi : 0 < i) (hd : 0 < d) (hp : ∀ s ∈ segments, s.Paced i d)
    (h : segments.Pairwise fun a b => a.stop + i / d < b.start) :
    (assemble segments).1 = (segments.filter fun s => s.length != 0).map shrink ∧
      (assemble segments).2.merges = 0 := by
  have htol : 0 ≤ i / d := Int.ediv_nonneg (Int.le_of_lt hi) (Int.le_of_lt hd)
  have hfilled := h.filter fun s => s.length != 0
  have hsorted : sorted segments = segments.filter fun s => s.length != 0 := by
    apply sortedIn_of_ordered rfl
    apply hfilled.imp_of_mem
    intro a b ha _ hab
    have hspan := (hp a (List.mem_filter.1 ha).1).start_le_stop hi
    exact (spanLe_iff a b).2 (.inl (by omega))
  have hout : (assemble segments).1 = (segments.filter fun s => s.length != 0).map shrink := by
    simp only [assemble_def]
    rw [hsorted]
    have hpaced : ∀ s ∈ segments.filter fun s => s.length != 0, s.Paced i d := fun s hs =>
      hp s (List.mem_filter.1 hs).1
    cases hs : segments.filter fun s => s.length != 0 with
    | nil => rfl
    | cons s rest =>
      rw [hs] at hfilled hpaced
      exact foldFrom_apart hi hd hpaced hfilled
  refine ⟨hout, ?_⟩
  have hcounts := (assemble_counts segments).1
  have hlength := length_sorted segments
  rw [hout, List.length_map, ← hsorted] at hcounts
  change _ + (segments.filter fun s => s.length == 0).length = _ at hcounts
  omega

end SeedStream.Assembly
