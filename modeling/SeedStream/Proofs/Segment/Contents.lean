import SeedStream.Proofs.Segment.Reachable

/-!
# Merging sees contents only

A segment is its start, interval, rate, divisor and samples; which blocks hold the samples
and what else its pool keeps are left to its past. Segments of the same contents are merged
or refused for the same reason, and the results have the same contents again.
-/

set_option autoImplicit false

namespace SeedStream.Segment

structure Contents where
  start : Int
  interval : Int
  rate : Binary64
  jitterDivisor : Int
  samples : List Int32
deriving DecidableEq

namespace Contents

def stop (c : Contents) : Int := c.start + c.interval * c.samples.length

end Contents

def contents (s : Segment) :
    Contents := ⟨s.start, s.interval, s.rate, s.jitterDivisor, s.samples⟩

/-- Two sound segments that differ in their storage only. -/
structure Alike (s t : Segment) : Prop where
  left : s.Sound
  right : t.Sound
  head : SameHead s t
  samples : t.samples = s.samples

inductive AlikeOutcome : MergeOutcome → MergeOutcome → Prop
  | merged {target target' : Segment} (h : Alike target target') :
      AlikeOutcome (.merged target) (.merged target')
  | refused (error : StreamError) {target target' back back' : Segment}
      (h : Alike target target') (hb : Alike back back') :
      AlikeOutcome (.refused error target back) (.refused error target' back')

variable {s s' t t' target target' : Segment}

theorem Alike.length_eq (h : Alike s t) : t.length = s.length := by
  rw [← h.left.length_samples, ← h.right.length_samples, h.samples]

theorem Alike.stop_eq (h : Alike s t) : t.stop = s.stop := by
  rw [stop, stop, h.head.start, h.head.interval, h.length_eq]

theorem Alike.tolerance_eq (h : Alike s t) : t.tolerance = s.tolerance := by
  rw [tolerance, tolerance, h.head.interval, h.head.jitterDivisor]

theorem Alike.shrink (h : Alike s t) : Alike s.shrink t.shrink :=
  ⟨h.left.shrink.1, h.right.shrink.1,
    h.left.shrink.2.2.symm.trans (h.head.trans h.right.shrink.2.2), by
    rw [h.left.shrink.2.1, h.right.shrink.2.1, h.samples]⟩

section Merge

variable (hs : Alike s s') (ht : Alike t t')

include hs ht

theorem Alike.mergeRefusal_eq : s'.mergeRefusal t' = s.mergeRefusal t := by
  simp only [mergeRefusal_def, hs.head.interval, ht.head.interval, hs.head.start, ht.head.start,
    hs.stop_eq, ht.stop_eq, ht.tolerance_eq]

theorem Alike.coveredBy_eq : s'.coveredBy t' = s.coveredBy t := by
  rw [coveredBy_def, coveredBy_def, hs.head.start, ht.head.start, hs.stop_eq, ht.stop_eq]

theorem Alike.overlapCount_eq : s'.overlapCount t' = s.overlapCount t := by
  rw [overlapCount_def, overlapCount_def, hs.head.start, hs.head.interval, hs.length_eq, ht.stop_eq]

theorem Alike.extendBy : Alike (t.extendBy s) (t'.extendBy s') := by
  have hjoined := extendBy_joined ht.left hs.left
  have hjoined' := extendBy_joined ht.right hs.right
  refine ⟨hjoined.sound, hjoined'.sound, ?_, ?_⟩
  · exact hjoined.head.symm.trans (ht.head.trans hjoined'.head)
  · rw [hjoined.samples, hjoined'.samples, ht.samples, hs.samples, hs.overlapCount_eq ht]

theorem Alike.mergeInto : AlikeOutcome (s.mergeInto t) (s'.mergeInto t') := by
  rw [mergeInto_def, mergeInto_def]
  rw [hs.mergeRefusal_eq ht, ht.mergeRefusal_eq hs, hs.coveredBy_eq ht, ht.coveredBy_eq hs,
    hs.head.start, ht.head.start]
  cases s.mergeRefusal t with
  | some error => exact .refused error ht hs
  | none =>
    dsimp only
    split
    next => exact .merged ht
    next =>
      split
      next => exact .merged (hs.extendBy ht)
      next =>
        cases t.mergeRefusal s with
        | some error => exact .refused error hs ht
        | none =>
          dsimp only
          split
          next => exact .merged hs
          next => exact .merged (ht.extendBy hs)

end Merge

end SeedStream.Segment
