import SeedStream.Assembly
import SeedStream.Framing.Framer
import SeedStream.Processing.Channel

/-!
# The processor

A processor takes the records of all sources from one queue and keeps a state
for each channel. When all sources are finished it assembles the segments of
every channel. No record is fatal: one that cannot be used is counted.
-/

set_option autoImplicit false

namespace SeedStream

structure ChannelData where
  segments : List Segment
  timingQuality : List UInt8
  calibrations : List CalibrationMarker
  records : Nat
deriving DecidableEq, Repr, Inhabited

def ChannelData.sampleCount (d : ChannelData) : Nat :=
  d.segments.foldl (fun n s => n + s.length) 0

structure Processor where
  setup : Setup
  /-- In the order of first appearance, each channel once. -/
  channels : List (ChannelKey × ChannelState)
  stats : ProcessingStats

structure ProcessingResult where
  channels : List (ChannelKey × ChannelData)
  stats : ProcessingStats
  assembly : AssemblyStats
deriving DecidableEq, Repr

namespace Processor

def ofSetup (p : Setup) : Processor := ⟨p, [], {}⟩

/-- Change the state of a channel; one that is new starts from the empty state. -/
def updateIn (key : ChannelKey) (f : ChannelState → ChannelState × ProcessingStats) :
    List (ChannelKey × ChannelState) → List (ChannelKey × ChannelState) × ProcessingStats
  | [] =>
    let (c, counts) := f {}
    ([(key, c)], counts)
  | (k, c) :: rest =>
    if k.same key then
      let (d, counts) := f c
      ((k, d) :: rest, counts)
    else
      let (others, counts) := updateIn key f rest
      ((k, c) :: others, counts)

def count (p : Processor) (s : ProcessingStats) : Processor :=
  { p with stats := p.stats.add s }

def process (p : Processor) (record : Bytes) : Processor :=
  let q := p.count { received := 1 }
  match p.setup.classify record with
  | .heartbeat => q.count { heartbeats := 1 }
  | .undecodable => q.count { decodeErrors := 1 }
  | .badRate => q.count { rateDiscarded := 1 }
  | .filtered => q.count { filtered := 1 }
  | .data key h =>
    let (channels, counts) := updateIn key (fun c => c.receive p.setup h record) p.channels
    { q with channels }.count counts

def processAll (p : Processor) (records : List Bytes) : Processor :=
  records.foldl process p

theorem processAll_append (p : Processor) (a b : List Bytes) :
    p.processAll (a ++ b) = (p.processAll a).processAll b :=
  List.foldl_append

def assembleChannel (c : ChannelState) : ChannelData × AssemblyStats :=
  let (segments, stats) := assemble c.segments
  (⟨segments, c.timingQuality, c.calibrations, c.records⟩, stats)

def assembled (p : Processor) : List (ChannelKey × ChannelData × AssemblyStats) :=
  p.channels.map fun (key, c) => (key, assembleChannel c)

def keyLe (a b : ChannelKey × ChannelData) : Bool := a.1.le b.1

/-- Close all segments and assemble each channel. Channels without samples are dropped. -/
def finish (p : Processor) : ProcessingResult where
  channels :=
    ((p.assembled.map fun (key, data, _) => (key, data)).filter fun c =>
      !c.2.segments.isEmpty).mergeSort keyLe
  stats := p.stats
  assembly := (p.assembled.map fun (_, _, stats) => stats).foldl AssemblyStats.add {}

end Processor

/-- A processor at a queue: the sources that have finished, each once, and
whether the end of all streams has been seen. -/
structure Intake where
  processor : Processor
  finished : List Nat
  ended : Bool

namespace Intake

def take (t : Intake) : QueueItem → Intake
  | .record r => { t with processor := t.processor.process r.bytes }
  | .endOfSource source =>
    if t.finished.contains source then t
    else
      { t with
        processor := t.processor.count { sourcesFinished := 1 }
        finished := t.finished ++ [source] }
  | .endOfStream => { t with ended := true }

def isComplete (t : Intake) (expected : Nat) : Bool :=
  t.ended && expected ≤ t.finished.length

/-- Take items up to the one that completes the intake; the rest stays. -/
def takeUntil (t : Intake) (expected : Nat) : List QueueItem → Intake × List QueueItem
  | [] => (t, [])
  | item :: rest =>
    let u := t.take item
    if u.isComplete expected then (u, rest) else u.takeUntil expected rest

end Intake

/-- Take the items of a queue until all expected sources have finished, or all of
them. The items not taken are left. -/
def Processor.run (p : Processor) (expected : Nat) (items : List QueueItem) :
    Processor × List QueueItem :=
  let (t, left) := Intake.takeUntil ⟨p, [], false⟩ expected items
  (t.processor, left)

end SeedStream
