import SeedStream.Record.Blockette
import SeedStream.SampleRate

/-!
# The header of a record

A record starts with 48 bytes: sequence number, quality, identifiers, start
time, number of samples, rate, flags and offsets. The byte order follows from
the start date. Blockette 1000 gives the encoding and the record's length;
blockettes 1001 and 320 may add a timing quality and a calibration.
-/

set_option autoImplicit false

namespace SeedStream

structure CalibrationMarker where
  start : Int
  flags : UInt8
  /-- In microseconds. -/
  duration : Int
  peakToPeak : Binary32
  inputChannel : String
  referenceAmplitude : UInt32
  coupling : String
  rolloff : String
  noiseType : String
deriving DecidableEq, Repr, Inhabited

structure Header where
  sequence : Nat
  quality : UInt8
  network : String
  station : String
  location : String
  channel : String
  startField : BinaryTime
  start : Int
  sampleCount : UInt16
  rateFactor : Int16
  rateMultiplier : Int16
  rate : Binary64
  activityFlags : UInt8
  ioFlags : UInt8
  qualityFlags : UInt8
  blocketteCount : UInt8
  timeCorrection : Int32
  dataOffset : UInt16
  firstBlockette : UInt16
  byteOrder : ByteOrder
  encoding : UInt8
  wordOrder : ByteOrder
  length : Nat
  timingQuality : Option UInt8
  calibration : Option CalibrationMarker
deriving DecidableEq, Repr, Inhabited

namespace Header

def frameSize : Nat := 256

def blank : UInt8 := 0x20

/-- Whether the identification block is that of a heartbeat: sequence number
zero and blanks up to the start time. -/
def heartbeatSignature (b : Bytes) : Except HeaderFault Bool :=
  if b.length < 20 then .ok false
  else do
    let f : Fields := ⟨b, .big⟩
    let sequence ← f.slice 0 6
    let rest ← f.slice 6 14
    return sequence == List.replicate 6 0x30 && rest.all (· == blank)

def isHeartbeatBytes (b : Bytes) : Bool :=
  match heartbeatSignature b with
  | .ok answer => answer
  | .error _ => false

/-- The number of six digits, of which blanks do not count. -/
def sequenceOf (value : Nat) : Bytes → Option Nat
  | [] => some value
  | x :: rest =>
    if 0x30 ≤ x.toNat ∧ x.toNat ≤ 0x39 then sequenceOf (value * 10 + (x.toNat - 0x30)) rest
    else if x = blank then sequenceOf value rest
    else none

def readSequence (f : Fields) : Except HeaderFault Nat := do
  let field ← f.slice 0 6
  match sequenceOf 0 field with
  | some n => .ok n
  | none => .error (.sequenceNumber field)

def isIdentifierByte (x : UInt8) : Bool :=
  let n := x.toNat
  (0x30 ≤ n && n ≤ 0x39) || (0x41 ≤ n && n ≤ 0x5a) || (0x61 ≤ n && n ≤ 0x7a) ||
    n == 0x20 || n == 0x2d

def checkIdentifiers (f : Fields) : Except HeaderFault Unit := do
  let _ ← readSequence f
  let fields ← f.slice 8 12
  match fields.find? fun x => !isIdentifierByte x with
  | some bad => .error (.identifier bad fields)
  | none => .ok ()

/-- Whether the start date is one that a recorder would write. -/
def hasPlausibleStart (f : Fields) : Except HeaderFault Bool := do
  let year ← f.u16 20
  let day ← f.u16 22
  return 1900 ≤ year.toNat && year.toNat ≤ 2100 && 1 ≤ day.toNat && day.toNat ≤ 366

def detectOrder (b : Bytes) : Except HeaderFault ByteOrder := do
  if ← hasPlausibleStart ⟨b, .big⟩ then return .big
  if ← hasPlausibleStart ⟨b, .little⟩ then return .little
  let field ← (⟨b, .big⟩ : Fields).slice 20 4
  throw (.startTime field)

/-- The record length `2 ^ exponent`, from 256 to 16384. -/
def lengthOfExponent (exponent : UInt8) : Except HeaderFault Nat :=
  if 8 ≤ exponent.toNat ∧ exponent.toNat ≤ 14 then .ok (Nat.pow 2 exponent.toNat)
  else .error (.lengthExponent exponent)

def crackLength (b : Bytes) : Except HeaderFault Nat := do
  if b.length < Blockette.fixedHeaderSize then throw (.shortChunk b.length)
  checkIdentifiers ⟨b, .big⟩
  let order ← detectOrder b
  let f : Fields := ⟨b, order⟩
  let blockettes ← Blockette.chain f
  match Blockette.last? blockettes Blockette.dataKind Blockette.dataSize b.length with
  | none => throw .noDataBlockette
  | some offset =>
    let exponent ← f.u8 (offset + 6)
    lengthOfExponent exponent

def readCalibration (f : Fields) (offset : Nat) : Except HeaderFault CalibrationMarker := do
  let start ← f.micros (offset + 4)
  let flags ← f.u8 (offset + 15)
  let ticks ← f.u32 (offset + 16)
  let peakToPeak ← f.binary32 (offset + 20)
  let inputChannel ← f.text (offset + 24) 3
  let referenceAmplitude ← f.u32 (offset + 28)
  let coupling ← f.text (offset + 32) 12
  let rolloff ← f.text (offset + 44) 12
  let noiseType ← f.text (offset + 56) 8
  return ⟨start, flags, ticks.toNat * 100, peakToPeak, inputChannel, referenceAmplitude, coupling,
    rolloff, noiseType⟩

/-- The byte order of samples by its code: zero means little. -/
def wordOrderOfCode (code : UInt8) : ByteOrder :=
  if code = 0 then .little else .big

def codeOfWordOrder : ByteOrder → Nat
  | .big => 1
  | .little => 0

def readDataBlockette (f : Fields) (offset : Nat) :
    Except HeaderFault (UInt8 × UInt8 × UInt8) := do
  let encoding ← f.u8 (offset + 4)
  let wordOrder ← f.u8 (offset + 5)
  let exponent ← f.u8 (offset + 6)
  return (encoding, wordOrder, exponent)

def checkDataOffset (offset : UInt16) (length : Nat) : Except HeaderFault Unit :=
  if offset.toNat ≠ 0 ∧
      (offset.toNat < Blockette.fixedHeaderSize ∨ length < offset.toNat) then
    .error (.dataOffset offset.toNat length)
  else .ok ()

def parse (b : Bytes) : Except HeaderFault Header := do
  if b.length < Blockette.fixedHeaderSize then throw (.shortRecord b.length)
  checkIdentifiers ⟨b, .big⟩
  let order ← detectOrder b
  let f : Fields := ⟨b, order⟩
  let sequence ← readSequence f
  let startField ← f.time 20
  let start ← f.micros 20
  let rateFactor ← f.i16 32
  let rateMultiplier ← f.i16 34
  let blockettes ← Blockette.chain f
  let data ← match Blockette.last? blockettes Blockette.dataKind Blockette.dataSize b.length with
    | none => throw .noDataBlockette
    | some offset => readDataBlockette f offset
  let length ← lengthOfExponent data.2.2
  if b.length < length then throw (.truncated b.length length)
  let dataOffset ← f.u16 44
  checkDataOffset dataOffset length
  let timingQuality ←
    match Blockette.last? blockettes Blockette.timingKind Blockette.timingSize b.length with
    | none => pure none
    | some offset => (f.u8 (offset + 4)).map some
  let calibration ←
    match Blockette.last? blockettes Blockette.calibrationKind Blockette.calibrationSize
      b.length with
    | none => pure none
    | some offset => (readCalibration f offset).map some
  let quality ← f.u8 6
  let station ← f.text 8 5
  let location ← f.text 13 2
  let channel ← f.text 15 3
  let network ← f.text 18 2
  let sampleCount ← f.u16 30
  let activityFlags ← f.u8 36
  let ioFlags ← f.u8 37
  let qualityFlags ← f.u8 38
  let blocketteCount ← f.u8 39
  let timeCorrection ← f.i32 40
  let firstBlockette ← f.u16 46
  return {
    sequence, quality, network, station, location, channel, startField, start, sampleCount
    rateFactor, rateMultiplier
    rate := SampleRate.ofFactors rateFactor rateMultiplier
    activityFlags, ioFlags, qualityFlags, blocketteCount, timeCorrection, dataOffset
    firstBlockette
    byteOrder := order
    encoding := data.1
    wordOrder := wordOrderOfCode data.2.1
    length, timingQuality, calibration }

def isHeartbeat (h : Header) : Bool :=
  h.sequence == 0 && h.quality == blank && h.station.isEmpty && h.location.isEmpty &&
    h.channel.isEmpty && h.network.isEmpty

end Header
end SeedStream
