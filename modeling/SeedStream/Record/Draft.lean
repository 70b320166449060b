import SeedStream.Record.Payload
import SeedStream.Text

/-!
# Writing records

A draft becomes a well-formed record: words in big-endian order, samples of four
bytes, blockette 1000 and, where asked for, blockettes 1001 and 320.
-/

set_option autoImplicit false

namespace SeedStream

structure Draft where
  network : String
  station : String
  location : String
  channel : String
  quality : UInt8 := 68
  sequence : Nat := 1
  start : Int := 0
  rate : Binary64 := ⟨0x3ff0000000000000⟩
  length : Nat := 512
  timingQuality : Option UInt8 := none
  calibration : Option CalibrationMarker := none
deriving DecidableEq, Repr

namespace Draft

def dataOffset (d : Draft) : Nat :=
  if d.calibration.isSome then 128 else 64

def capacity (d : Draft) : Nat :=
  (d.length - d.dataOffset) / 4

def lengthExponent? (length : Nat) : Option Nat :=
  [8, 9, 10, 11, 12, 13, 14].find? fun e => Nat.pow 2 e == length

def textField (width : Nat) (text : String) : Bytes :=
  let b := (Bytes.ofText text).take width
  b ++ List.replicate (width - b.length) Header.blank

def timeField (t : BinaryTime) : Bytes :=
  Bytes.ofNat 2 t.year.toNat ++ Bytes.ofNat 2 t.dayOfYear.toNat ++
    [t.hour, t.minute, t.second, 0] ++ Bytes.ofNat 2 t.fraction.toNat

def sequenceField (sequence : Nat) : Bytes :=
  Bytes.ofText (Text.zeroPad 6 (sequence % 1000000))

def hasMore (d : Draft) : Bool :=
  d.timingQuality.isSome || d.calibration.isSome

def blocketteCount (d : Draft) : Nat :=
  1 + (if d.timingQuality.isSome then 1 else 0) + (if d.calibration.isSome then 1 else 0)

def fixedHeader (d : Draft) (start : BinaryTime) (factor multiplier : Int16) (count : Nat) :
    Bytes :=
  sequenceField d.sequence ++ [d.quality, Header.blank] ++
    textField 5 d.station ++ textField 2 d.location ++ textField 3 d.channel ++
    textField 2 d.network ++ timeField start ++ Bytes.ofNat 2 count ++
    Bytes.ofNat 2 factor.toUInt16.toNat ++ Bytes.ofNat 2 multiplier.toUInt16.toNat ++
    [0, 0, 0, UInt8.ofNat d.blocketteCount] ++ Bytes.ofNat 4 0 ++ Bytes.ofNat 2 d.dataOffset ++
    Bytes.ofNat 2 48

def dataBlockette (d : Draft) (exponent : Nat) : Bytes :=
  Bytes.ofNat 2 1000 ++ Bytes.ofNat 2 (if d.hasMore then 56 else 0) ++
    [3, 1, UInt8.ofNat exponent, 0]

def timingBlockette (d : Draft) : Bytes :=
  match d.timingQuality with
  | none => []
  | some quality =>
    Bytes.ofNat 2 1001 ++ Bytes.ofNat 2 (if d.calibration.isSome then 64 else 0) ++
      [quality, 0, 0, 0]

/-- The duration of a calibration in ticks of 100 microseconds. -/
def ticks? (duration : Int) : Option Nat :=
  let ticks := Int.tdiv duration 100
  if 0 ≤ ticks ∧ ticks < 4294967296 then some ticks.toNat else none

def calibrationBlockette (m : CalibrationMarker) : Except StreamError Bytes :=
  match BinaryTime.ofMicros m.start with
  | .error e => .error e.toError
  | .ok start =>
    match ticks? m.duration with
    | none =>
      .error (.decode "RecordBuilder::build" s!"calibration duration {m.duration} out of range")
    | some ticks =>
      .ok (Bytes.ofNat 2 320 ++ Bytes.ofNat 2 0 ++ timeField start ++ [0, m.flags] ++
        Bytes.ofNat 4 ticks ++ Bytes.ofNat 4 m.peakToPeak.bits.toNat ++
        textField 3 m.inputChannel ++ [0] ++ Bytes.ofNat 4 m.referenceAmplitude.toNat ++
        textField 12 m.coupling ++ textField 12 m.rolloff ++ textField 8 m.noiseType)

def fillTo (length : Nat) (b : Bytes) : Bytes :=
  b ++ List.replicate (length - b.length) 0

def encode (d : Draft) (samples : List Int32) : Except StreamError Bytes :=
  match lengthExponent? d.length with
  | none =>
    .error (.config s!"record length {d.length} is not a power of two in 256..=16384")
  | some exponent =>
    if d.capacity < samples.length then
      .error (.decode "RecordBuilder::build"
        s!"{samples.length} samples exceed record capacity of {d.capacity}")
    else do
      let (factor, multiplier) ← SampleRate.toFactors d.rate
      let start ← match BinaryTime.ofMicros d.start with
        | .ok t => .ok t
        | .error e => .error e.toError
      let calibration ← match d.calibration with
        | none => .ok []
        | some m => calibrationBlockette m
      let head := d.fixedHeader start factor multiplier samples.length ++
        d.dataBlockette exponent ++ d.timingBlockette ++ calibration
      return fillTo d.length (fillTo d.dataOffset head ++ RawInteger.encode .big 4 samples)

def longPeriod : Draft :=
  { network := "IU", station := "ANMO", location := "00", channel := "LHZ" }

end Draft
end SeedStream
