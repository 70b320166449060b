import SeedStream.Segment

/-!
# Coverage

The windows in which a channel has data, the gaps between them, and the
windows in which several channels have data at once.
-/

set_option autoImplicit false

namespace SeedStream

/-- A window of uninterrupted data; its end does not belong to it. -/
structure Window where
  start : Int
  stop : Int
  interval : Int
deriving DecidableEq, Repr, Inhabited

namespace Window

def durationIn (m : Arithmetic) (w : Window) : Int := m.hold (w.stop - w.start)

def sampleCountIn (m : Arithmetic) (w : Window) : Int :=
  if w.interval = 0 then 0 else Int.tdiv (w.durationIn m) w.interval

def sampleCount (w : Window) : Int := w.sampleCountIn .exact

def text (w : Window) : String :=
  s!"{Timestamp.text w.start} - {Timestamp.text w.stop}"

def le (a b : Window) : Bool :=
  ((Ord.compare a.start b.start).then (Ord.compare a.stop b.stop)) != .gt

def ofSegmentIn (m : Arithmetic) (s : Segment) : Window := ⟨s.start, s.stopIn m, s.interval⟩

def ofSegment (s : Segment) : Window := ofSegmentIn .exact s

end Window

abbrev Gap := Int × Int

structure ChannelCoverage where
  interval : Int
  blocks : List Window
  gaps : List Gap
  blocks_ne_nil : blocks ≠ []
deriving DecidableEq, Repr

namespace ChannelCoverage

def gapsFrom (reach : Int) : List Window → List Gap
  | [] => []
  | w :: rest =>
    let later := gapsFrom (max reach w.stop) rest
    if reach < w.start then (reach, w.start) :: later else later

def gapsOf : List Window → List Gap
  | [] => []
  | w :: rest => gapsFrom w.stop rest

def ofBlocks (interval : Int) (windows : List Window) : Except StreamError ChannelCoverage :=
  match windows.find? fun w => w.interval != interval with
  | some bad => .error (.intervalMismatch interval bad.interval)
  | none =>
    let blocks := windows.mergeSort Window.le
    if h : blocks ≠ [] then .ok ⟨interval, blocks, gapsOf blocks, h⟩
    else .error (.other "channel has no data")

def ofSegmentsIn (m : Arithmetic) (segments : List Segment) :
    Except StreamError ChannelCoverage :=
  match segments with
  | [] => .error (.other "channel has no segments")
  | s :: _ => ofBlocks s.interval (segments.map (Window.ofSegmentIn m))

def ofSegments (segments : List Segment) : Except StreamError ChannelCoverage :=
  ofSegmentsIn .exact segments

def start (c : ChannelCoverage) : Int :=
  (c.blocks.head c.blocks_ne_nil).start

def stop (c : ChannelCoverage) : Int :=
  (c.blocks.map Window.stop).foldl max (c.blocks.head c.blocks_ne_nil).stop

/-- What remains of the time from `cursor` to `stop` outside the gaps. -/
def cutAt (interval stop : Int) : Int → List Gap → List Window
  | cursor, [] => if cursor < stop then [⟨cursor, stop, interval⟩] else []
  | cursor, (a, b) :: rest =>
    if b ≤ cursor then cutAt interval stop cursor rest
    else if stop ≤ a then if cursor < stop then [⟨cursor, stop, interval⟩] else []
    else if cursor < a then ⟨cursor, a, interval⟩ :: cutAt interval stop b rest
    else cutAt interval stop b rest

def clip (c : ChannelCoverage) (w : Window) : List Window :=
  let a := max w.start c.start
  let b := min w.stop c.stop
  if b ≤ a then [] else cutAt w.interval b a c.gaps

def restrict (c : ChannelCoverage) (windows : List Window) : List Window :=
  windows.flatMap c.clip

def intersect (channels : List ChannelCoverage) : Except StreamError (List Window) :=
  match channels with
  | [] => .ok []
  | first :: rest =>
    match channels.find? fun c => c.interval != first.interval with
    | some bad => .error (.intervalMismatch first.interval bad.interval)
    | none =>
      let common := rest.foldl (fun windows c => c.restrict windows) first.blocks
      .ok (common.mergeSort Window.le)

end ChannelCoverage
end SeedStream
