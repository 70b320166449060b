import SeedStream.Proofs.Assembly.Fold
import SeedStream.Proofs.Segment.Extent

/-!
# The merges of an assembly

An assembly merges each segment with the one at hand, which may be the result of any
number of merges before. The segment at hand starts first, so the two keep their places,
and it reaches no farther than the slack of one merge behind the segments that came in.
-/

set_option autoImplicit false

namespace SeedStream

def MergeOutcome.counts : MergeOutcome → AssemblyStats
  | .merged _ => .merged
  | .refused e _ _ => .refused e

namespace Assembly
open Segment

def meetingsFrom (current : Segment) : List Segment → List (Segment × Segment)
  | [] => []
  | s :: rest =>
    (s, current) ::
      match s.mergeInto current with
      | .merged target => meetingsFrom target rest
      | .refused _ _ returned => meetingsFrom returned rest

/-- The merges of an assembly: each segment with the target that it is merged into. -/
def meetings (segments : List Segment) : List (Segment × Segment) :=
  match sorted segments with
  | [] => []
  | s :: rest => meetingsFrom s rest

theorem foldFrom_counted (current : Segment) (rest : List Segment) :
    (meetingsFrom current rest).map Prod.fst = rest ∧ (foldFrom current rest).2 =
      (meetingsFrom current rest).foldr (fun m n => (m.1.mergeInto m.2).counts.add n) {} := by
  induction rest generalizing current with
  | nil => exact ⟨rfl, rfl⟩
  | cons s rest ih =>
    rw [meetingsFrom, foldFrom_cons, List.map_cons, List.foldr_cons]
    cases s.mergeInto current with
    | merged target =>
      obtain ⟨hfirsts, hcounts⟩ := ih target
      simp only [MergeOutcome.counts, hfirsts, hcounts, and_self]
    | refused e target returned =>
      obtain ⟨hfirsts, hcounts⟩ := ih returned
      simp only [MergeOutcome.counts, hfirsts, hcounts, and_self]

variable {i d a b : Int} {current : Segment} {rest segments : List Segment}

structure Met (i d a b : Int) (m : Segment × Segment) : Prop where
  paced : m.1.Paced i d
  target : m.2.Paced i d
  ordered : m.2.start ≤ m.1.start
  within : m.1.Within a b
  reach : m.2.Within a (b + slack i d)

theorem meetingsFrom_met (hi : 0 < i) (hd : 0 < d) (hc : current.Regular i d)
    (hreach : current.Within a (b + slack i d)) (hr : ∀ s ∈ rest, s.Regular i d)
    (hw : ∀ s ∈ rest, s.Within a b)
    (hsorted : (current :: rest).Pairwise fun x y => x.start ≤ y.start) :
    ∀ m ∈ meetingsFrom current rest, Met i d a b m := by
  -- A merge changes the target, so the reach is kept for every later one.
  induction rest generalizing current with
  | nil => simp [meetingsFrom]
  | cons s rest ih =>
    obtain ⟨hs, hrest⟩ := List.forall_mem_cons.1 hr
    obtain ⟨hsw, hrestw⟩ := List.forall_mem_cons.1 hw
    obtain ⟨hfirst, htail⟩ := List.pairwise_cons.1 hsorted
    have hle := hfirst s List.mem_cons_self
    have hmet : Met i d a b (s, current) := ⟨hs.paced, hc.paced, hle, hsw, hreach⟩
    rw [meetingsFrom]
    refine List.forall_mem_cons.2 ⟨hmet, ?_⟩
    rcases mergeInto_later hi hd hc hs hle with ⟨-, text, hm⟩ | ⟨hgap, target, hm, hj⟩
    · rw [hm]
      have hslack := slack_nonneg (d := d) hi
      exact ih hs (hsw.mono (by omega)) hrest hrestw htail
    · rw [hm]
      have hsorted' := starts_target hj.head hsorted
      exact ih (hj.regular hc) (hj.within hi hc hs hgap hreach hsw) hrest hrestw hsorted'

/-- Whatever was merged before, a target reaches no farther than one slack behind the
segments of the channel. -/
theorem meetings_met (hi : 0 < i) (hd : 0 < d) (hr : ∀ s ∈ segments, s.Regular i d)
    (hw : ∀ s ∈ segments, s.Within a b) : ∀ m ∈ meetings segments, Met i d a b m := by
  have hsub : ∀ s ∈ sorted segments, s ∈ segments := fun s hs => (mem_sorted.1 hs).1
  have hstarts := sorted_starts segments
  unfold meetings
  cases hs : sorted segments with
  | nil => simp
  | cons s rest =>
    rw [hs] at hsub hstarts
    obtain ⟨hmem, hrest⟩ := List.forall_mem_cons.1 hsub
    have hslack := slack_nonneg (d := d) hi
    exact meetingsFrom_met hi hd (hr s hmem) ((hw s hmem).mono (by omega))
      (fun t ht => hr t (hrest t ht)) (fun t ht => hw t (hrest t ht)) hstarts

theorem assemble_within (hi : 0 < i) (hd : 0 < d) (hr : ∀ s ∈ segments, s.Regular i d)
    (hw : ∀ s ∈ segments, s.Within a b) {o : Segment} (ho : o ∈ (assemble segments).1) :
    o.Within a (b + slack i d) := by
  have hassembled := assemble_assembled hi hd hr
  have hslack := slack_nonneg (d := d) hi
  obtain ⟨s, hs, hstart, -⟩ := hassembled.origin o ho
  have hfirst := (hw s hs).start
  have hlast := ((hr s hs).length_le_stop hi).trans (hw s hs).stop
  refine ⟨hstart ▸ hfirst, (hassembled.usable o ho).regular.stop_le (by omega) ?_⟩
  intro x v hx
  obtain ⟨t, ht, y, hy, hnear⟩ := hassembled.drawn o ho x v hx
  have hspan := ((hr t ht).holds_span hi hy).2
  have hstop := (hw t ht).stop
  have hshift := (abs_le.1 hnear).2
  omega

end Assembly
end SeedStream
