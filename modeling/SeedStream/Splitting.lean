import SeedStream.Coverage
import SeedStream.Processing.Processor

/-!
# Splitting streams

A run frames every source, takes the records of all of them and assembles them
by channel. Sources are read one after the other. The result is asked for
channels by name, and for the windows that channels have in common.
-/

set_option autoImplicit false

namespace SeedStream

structure SplitStats where
  sources : Nat := 0
  framing : FramingStats := {}
  processing : ProcessingStats := {}
  assembly : AssemblyStats := {}
  channels : Nat := 0
  segments : Nat := 0
deriving DecidableEq, Repr, Inhabited

structure SplitResult where
  channels : List (ChannelKey × ChannelData) := []
  stats : SplitStats := {}
deriving DecidableEq, Repr, Inhabited

namespace SplitResult

/-- The first channel with a name, which is the one with the lowest rate. -/
def channel? (r : SplitResult) (name : String) : Option (ChannelKey × ChannelData) :=
  r.channels.find? fun c => c.1.name == name

def channelCoverage (r : SplitResult) (name : String) : Except StreamError ChannelCoverage :=
  match r.channel? name with
  | none => .error (.other s!"unknown channel '{name}'")
  | some (_, data) => ChannelCoverage.ofSegments data.segments

def coverages (r : SplitResult) : List String → Except StreamError (List ChannelCoverage)
  | [] => .ok []
  | name :: rest => do
    let c ← r.channelCoverage name
    let cs ← r.coverages rest
    return c :: cs

def coverage (r : SplitResult) (names : List String) : Except StreamError (List Window) := do
  ChannelCoverage.intersect (← r.coverages names)

end SplitResult

namespace Splitting

def framers (quality : QualityFilter) (readers : List Reader) : List Framer :=
  readers.zipIdx.map fun (r, i) => Framer.ofReader r i quality (i + 1 == readers.length)

def sent (cancelled : Bool) (f : Framer) : List QueueItem × FramingStats :=
  f.run (if cancelled then some 0 else none)

def runWith (p : Setup) (quality : QualityFilter) (cancelled : Bool) (readers : List Reader) :
    SplitResult :=
  let streams := (framers quality readers).map (sent cancelled)
  let items := streams.flatMap (·.1)
  let out := ((Processor.ofSetup p).run readers.length items).1.finish
  { channels := out.channels
    stats :=
      { sources := readers.length
        framing := (streams.map (·.2)).foldl FramingStats.add {}
        processing := out.stats
        assembly := out.assembly
        channels := out.channels.length
        segments := out.channels.foldl (fun n c => n + c.2.segments.length) 0 } }

def run (s : Settings) (d : Decoder) (cancelled : Bool) (readers : List Reader) :
    Except SettingsError SplitResult := do
  let f ← s.validate
  let p ← Setup.ofSettings d s
  return if readers.isEmpty then {} else runWith p f.quality cancelled readers

end Splitting
end SeedStream
