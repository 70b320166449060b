import SeedStream.Processing.Setup

/-!
# The state of a channel

A channel has one open segment. A record that starts where the segment ends, up
to the tolerance, extends it; any other record closes it and opens the next.
What happens to the records is counted.
-/

set_option autoImplicit false

namespace SeedStream

structure ProcessingStats where
  received : Nat := 0
  /-- Records whose samples were taken. -/
  decoded : Nat := 0
  heartbeats : Nat := 0
  decodeErrors : Nat := 0
  rateDiscarded : Nat := 0
  filtered : Nat := 0
  overlaps : Nat := 0
  /-- Overlaps whose sequence number did not grow. -/
  outOfSequence : Nat := 0
  segmentsOpened : Nat := 0
  sourcesFinished : Nat := 0
deriving DecidableEq, Repr, Inhabited

namespace ProcessingStats

def add (a b : ProcessingStats) : ProcessingStats :=
  ⟨a.received + b.received, a.decoded + b.decoded, a.heartbeats + b.heartbeats,
    a.decodeErrors + b.decodeErrors, a.rateDiscarded + b.rateDiscarded, a.filtered + b.filtered,
    a.overlaps + b.overlaps, a.outOfSequence + b.outOfSequence,
    a.segmentsOpened + b.segmentsOpened, a.sourcesFinished + b.sourcesFinished⟩

end ProcessingStats
structure ChannelState where
  current : Option Segment := none
  closed : List Segment := []
  lastSequence : Option Nat := none
  timingQuality : List UInt8 := []
  calibrations : List CalibrationMarker := []
  records : Nat := 0
deriving DecidableEq, Repr, Inhabited

inductive Continuity
  | unopened
  | joins
  | gap
  | overlap
deriving DecidableEq, Repr

namespace ChannelState

def continuity (c : ChannelState) (start : Int) : Continuity :=
  match c.current with
  | none => .unopened
  | some s =>
    if s.tolerance < start - s.stop then .gap
    else if start - s.stop < -s.tolerance then .overlap
    else .joins

def segments (c : ChannelState) : List Segment :=
  c.closed ++ c.current.toList

def rollOver (c : ChannelState) (p : Setup) (h : Header) : Except StreamError ChannelState :=
  (Segment.create h.start h.rate p.blockSize).map fun s =>
    { c with closed := c.segments, current := some (s.withJitterDivisor p.jitterDivisor) }

def prepare (c : ChannelState) (p : Setup) (h : Header) : Except StreamError ChannelState :=
  if c.continuity h.start = .joins then .ok c else c.rollOver p h

def accept (c : ChannelState) (h : Header) (samples : List Int32) : ChannelState :=
  { c with
    current := c.current.map (·.append samples)
    lastSequence := some h.sequence
    timingQuality := c.timingQuality ++ h.timingQuality.toList
    calibrations := c.calibrations ++ h.calibration.toList
    records := c.records + 1 }

def regresses (c : ChannelState) (h : Header) : Bool :=
  match c.lastSequence with
  | some last => h.sequence ≤ last
  | none => false

def overlapCounts (c : ChannelState) (h : Header) : ProcessingStats :=
  if c.continuity h.start = .overlap then
    { overlaps := 1, outOfSequence := if c.regresses h then 1 else 0 }
  else {}

def openingCounts (c : ChannelState) (h : Header) : ProcessingStats :=
  { segmentsOpened := if c.continuity h.start = .joins then 0 else 1 }

def receive (c : ChannelState) (p : Setup) (h : Header) (record : Bytes) :
    ChannelState × ProcessingStats :=
  match c.prepare p h with
  | .error _ => (c, (c.overlapCounts h).add { rateDiscarded := 1 })
  | .ok d =>
    let counts := (c.overlapCounts h).add (c.openingCounts h)
    match p.decoder.samples h record with
    | .error _ => (d, counts.add { decodeErrors := 1 })
    | .ok samples => (d.accept h samples, counts.add { decoded := 1 })

end ChannelState
end SeedStream
