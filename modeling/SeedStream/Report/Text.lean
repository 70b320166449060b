import SeedStream.Report.Inspection
import SeedStream.Report.Structure
import SeedStream.Time.Timestamp

/-!
# Reports

What is shown of a run, of common windows, and of the records of an input:
lines for readers, or JSON.
-/

set_option autoImplicit false

namespace SeedStream

inductive Report
  | split (r : SplitResult) (details : Bool)
  | windows (names : List String) (windows : List Window)
  | records (input : String) (listing : RecordListing)
  | framing (input : String) (stats : FramingStats) (listing : RecordListing)
deriving DecidableEq, Repr

namespace Report

def segmentLine (s : SegmentSummary) : String :=
  s!"  {Timestamp.reportText s.start} - {Timestamp.reportText s.stop} | {s.samples} samples | " ++
    s!"{Duration.text (s.stop - s.start)} | crc32 " ++
    Text.padLeft '0' 8 (Text.hexDigits s.digest.toNat)

def timingLines (qualities : List UInt8) : List String :=
  if qualities.isEmpty then []
  else
    let total := qualities.foldl (fun n q => n + q.toNat) 0
    let mean := Binary64.ofRatio total qualities.length
    [s!"  Timing quality: {qualities.length} values, mean {mean.onePlaceText}"]

def calibrationLine (m : CalibrationMarker) : String :=
  s!"  Calibration: {Timestamp.reportText m.start} for {Duration.text m.duration} on " ++
    s!"{m.inputChannel} ({m.coupling}, {m.noiseType})"

def channelLines (details : Bool) (c : ChannelKey × ChannelData) : List String :=
  ["", s!"{c.1.name} | {c.1.text} ({c.2.records} records)"] ++
    c.2.segments.map (fun s => segmentLine s.summary) ++
    if details then timingLines c.2.timingQuality ++ c.2.calibrations.map calibrationLine else []

def splitLines (elapsed : Nat) (details : Bool) (r : SplitResult) : List String :=
  let s := r.stats
  [s!"=== Split: {s.sources} source(s) ===",
    s!"Channels: {s.channels} | Segments: {s.segments} | Records: {s.processing.decoded} | " ++
      s!"Elapsed: {Duration.secondsText elapsed}s"] ++
    r.channels.flatMap (channelLines details) ++
    ["", "Framing:", s!"  Bytes read: {s.framing.bytesRead}", s!"  Records: {s.framing.records}",
      s!"  Quality rejected: {s.framing.qualityRejected}",
      s!"  Discarded chunks: {s.framing.chunksDiscarded}",
      s!"  Heartbeats: {s.framing.heartbeats}", s!"  Truncated: {s.framing.truncated}",
      "Processing:", s!"  Decode errors: {s.processing.decodeErrors}",
      s!"  Bad sample rate: {s.processing.rateDiscarded}",
      s!"  Filtered: {s.processing.filtered}", s!"  Overlaps: {s.processing.overlaps}",
      s!"  Out of sequence: {s.processing.outOfSequence}", s!"  Merges: {s.assembly.merges}"]

def windowLine (w : Window) : String :=
  s!"  {Timestamp.reportText w.start} - {Timestamp.reportText w.stop}" ++
    s!" | {w.sampleCountIn .wrapping} samples | " ++ Duration.text (w.durationIn .wrapping)

def windowLines (names : List String) (windows : List Window) : List String :=
  let total := windows.foldl (fun n w => n + w.durationIn .wrapping) 0
  ["=== Coverage of " ++ ", ".intercalate names ++ " ==="] ++ windows.map windowLine ++
    [s!"Windows: {windows.length} | Total: {Duration.text total}"]

def headerLine (h : Header) : String :=
  Text.zeroPad 6 h.sequence ++ " " ++ String.ofList [Char.ofNat h.quality.toNat] ++
    s!" {RecordListing.channelName h} {Timestamp.reportText h.start} " ++
    Text.padLeft ' ' 5 (toString h.sampleCount.toNat) ++
    s!" samples @ {h.rate.plainText} Hz | enc {h.encoding.toNat} | {h.length} bytes"

def recordLines (input : String) (l : RecordListing) : List String :=
  s!"=== Records in {input} ===" :: l.headers.map headerLine ++
    if l.undecodable = 0 then [] else [s!"({l.undecodable} undecodable records skipped)"]

def framingLines (input : String) (s : FramingStats) (l : RecordListing) : List String :=
  [s!"=== {input} ===", s!"Bytes read: {s.bytesRead}", s!"Records: {s.records}",
    s!"Quality rejected: {s.qualityRejected}", s!"Discarded chunks: {s.chunksDiscarded}",
    s!"Heartbeats: {s.heartbeats}", s!"Truncated: {s.truncated}",
    s!"Undecodable: {l.undecodable}", "", "Channels:"] ++
    l.channelCounts.map fun (name, n) => s!"  {name}: {n} records"

def lines (elapsed : Nat) : Report → List String
  | .split r details => splitLines elapsed details r
  | .windows names ws => windowLines names ws
  | .records input listing => recordLines input listing
  | .framing input stats listing => framingLines input stats listing

def json (elapsed : Nat) : Report → JsonValue
  | .split r _ => r.json elapsed
  | .windows _ ws => .list (ws.map Window.json)
  | .records _ listing => .list (listing.headers.map Header.json)
  | .framing _ stats listing =>
    .object [("framing", stats.json),
      ("channels", .object (listing.channelCounts.map fun (name, n) => (name, .nat n))),
      ("undecodable", .nat listing.undecodable)]

def text (asJson : Bool) (elapsed : Nat) (r : Report) : String :=
  if asJson then (r.json elapsed).pretty "" ++ "\n"
  else String.join ((r.lines elapsed).map (· ++ "\n"))

end Report
end SeedStream
