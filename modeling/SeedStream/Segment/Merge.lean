import SeedStream.Segment

/-!
# Merging two segments

Segments that touch or overlap become one. The segment that starts first keeps
its samples; the head of the other that lies inside it is dropped. A refused
merge hands both segments back.
-/

set_option autoImplicit false

namespace SeedStream

inductive MergeOutcome
  | merged (target : Segment)
  | refused (error : StreamError) (target returned : Segment)
deriving DecidableEq, Repr

namespace Segment

def mergeRefusalIn (m : Arithmetic) (s target : Segment) : Option StreamError :=
  let after := m.hold (s.start - target.stopIn m)
  let before := m.hold (target.start - s.stopIn m)
  if s.interval ≠ target.interval then some (.intervalMismatch target.interval s.interval)
  else if target.tolerance < after then
    some (.mergeRange after "segment starts after the end of the target")
  else if target.tolerance < before then
    some (.mergeRange before "target starts after the end of the segment")
  else none

def coveredByIn (m : Arithmetic) (s target : Segment) : Bool :=
  target.start ≤ s.start && s.stopIn m ≤ target.stopIn m

/-- The number of leading samples of a later segment that lie inside an earlier
one, in whole intervals; half an interval counts as one. -/
def overlapCountIn (m : Arithmetic) (s earlier : Segment) : Nat :=
  min (m.hold (earlier.stopIn m - s.start + s.interval / 2) / s.interval).toNat s.length

def adoptBlocks (target s : Segment) : Segment :=
  if s.blockSize = target.blockSize then
    match target.pool.absorb s.pool with
    | .ok (_, pool) => { target with pool := pool }
    | .error _ => target
  else target

def extendByIn (m : Arithmetic) (earlier later : Segment) : Segment :=
  (earlier.append (later.samples.drop (later.overlapCountIn m earlier))).adoptBlocks later

/-- Merge a segment into a target. A segment that starts before the target takes
its place, and the former target is merged into it. -/
def mergeIn (m : Arithmetic) (s target : Segment) : MergeOutcome :=
  match s.mergeRefusalIn m target with
  | some e => .refused e target s
  | none =>
    if s.coveredByIn m target then .merged target
    else if target.start ≤ s.start then .merged (target.extendByIn m s)
    else
      match target.mergeRefusalIn m s with
      | some e => .refused e s target
      | none =>
        if target.coveredByIn m s then .merged s else .merged (s.extendByIn m target)

section Exact

def mergeRefusal (s target : Segment) : Option StreamError := s.mergeRefusalIn .exact target

def coveredBy (s target : Segment) : Bool := s.coveredByIn .exact target

def overlapCount (s earlier : Segment) : Nat := s.overlapCountIn .exact earlier

def extendBy (earlier later : Segment) : Segment := earlier.extendByIn .exact later

def mergeInto (s target : Segment) : MergeOutcome := s.mergeIn .exact target

variable (s target : Segment)

theorem mergeRefusal_def : s.mergeRefusal target =
    if s.interval ≠ target.interval then some (.intervalMismatch target.interval s.interval)
    else if target.tolerance < s.start - target.stop then
      some (.mergeRange (s.start - target.stop) "segment starts after the end of the target")
    else if target.tolerance < target.start - s.stop then
      some (.mergeRange (target.start - s.stop) "target starts after the end of the segment")
    else none := rfl

theorem coveredBy_def : s.coveredBy target =
    (decide (target.start ≤ s.start) && decide (s.stop ≤ target.stop)) := rfl

theorem overlapCount_def : s.overlapCount target =
    min ((target.stop - s.start + s.interval / 2) / s.interval).toNat s.length := rfl

theorem extendBy_def : s.extendBy target =
    (s.append (target.samples.drop (target.overlapCount s))).adoptBlocks target := rfl

theorem mergeInto_def : s.mergeInto target =
    match s.mergeRefusal target with
    | some e => .refused e target s
    | none =>
      if s.coveredBy target then .merged target
      else if target.start ≤ s.start then .merged (target.extendBy s)
      else
        match target.mergeRefusal s with
        | some e => .refused e s target
        | none => if target.coveredBy s then .merged s else .merged (s.extendBy target) := rfl

end Exact

end Segment
end SeedStream
