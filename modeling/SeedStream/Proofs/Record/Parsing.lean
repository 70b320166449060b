import SeedStream.Proofs.Record.Length

/-!
# The fields of a parsed header

Behind the checks of its start, parsing reads one field after the other in one byte
order. It succeeds if every field can be read, and the header says what they hold.
-/

set_option autoImplicit false

namespace SeedStream.Header

def findData (f : Fields) (blockettes : List Blockette) :
    Except HeaderFault (UInt8 × UInt8 × UInt8) :=
  match Blockette.last? blockettes Blockette.dataKind Blockette.dataSize f.bytes.length with
  | none => .error .noDataBlockette
  | some offset => readDataBlockette f offset

def findTiming (f : Fields) (blockettes : List Blockette) : Except HeaderFault (Option UInt8) :=
  match Blockette.last? blockettes Blockette.timingKind Blockette.timingSize f.bytes.length with
  | none => .ok none
  | some offset => (f.u8 (offset + 4)).map some

def findCalibration (f : Fields) (blockettes : List Blockette) :
    Except HeaderFault (Option CalibrationMarker) :=
  match Blockette.last? blockettes Blockette.calibrationKind Blockette.calibrationSize
    f.bytes.length with
  | none => .ok none
  | some offset => (readCalibration f offset).map some

def checkStart (b : Bytes) : Except HeaderFault Unit :=
  if b.length < Blockette.fixedHeaderSize then .error (.shortRecord b.length) else .ok ()

def checkWhole (f : Fields) (length : Nat) : Except HeaderFault Unit :=
  if f.bytes.length < length then .error (.truncated f.bytes.length length) else .ok ()

def ofFields (f : Fields) : Except HeaderFault Header := do
  let sequence ← readSequence f
  let startField ← f.time 20
  let start ← f.micros 20
  let rateFactor ← f.i16 32
  let rateMultiplier ← f.i16 34
  let blockettes ← Blockette.chain f
  let data ← findData f blockettes
  let length ← lengthOfExponent data.2.2
  checkWhole f length
  let dataOffset ← f.u16 44
  checkDataOffset dataOffset length
  let timingQuality ← findTiming f blockettes
  let calibration ← findCalibration f blockettes
  let quality ← f.u8 6
  let station ← f.text 8 5
  let location ← f.text 13 2
  let channel ← f.text 15 3
  let network ← f.text 18 2
  let sampleCount ← f.u16 30
  let activityFlags ← f.u8 36
  let ioFlags ← f.u8 37
  let qualityFlags ← f.u8 38
  let blocketteCount ← f.u8 39
  let timeCorrection ← f.i32 40
  let firstBlockette ← f.u16 46
  return {
    sequence, quality, network, station, location, channel, startField, start, sampleCount
    rateFactor, rateMultiplier
    rate := SampleRate.ofFactors rateFactor rateMultiplier
    activityFlags, ioFlags, qualityFlags, blocketteCount, timeCorrection, dataOffset
    firstBlockette
    byteOrder := f.order
    encoding := data.1
    wordOrder := wordOrderOfCode data.2.1
    length, timingQuality, calibration }

/-- Parsing checks the start of a record, finds the byte order and reads the fields. -/
theorem parse_eq (b : Bytes) : parse b = (do
    checkStart b
    checkIdentifiers ⟨b, .big⟩
    let order ← detectOrder b
    ofFields ⟨b, order⟩) := by
  unfold parse checkStart
  by_cases hshort : b.length < Blockette.fixedHeaderSize
  · rw [if_pos hshort, if_pos hshort]
    rfl
  rw [if_neg hshort, if_neg hshort]
  refine bind_congr fun _ => bind_congr fun order => ?_
  unfold ofFields
  refine bind_congr fun sequence => bind_congr fun startField => bind_congr fun start =>
    bind_congr fun factor => bind_congr fun multiplier => bind_congr fun blockettes => ?_
  cases hdata : Blockette.last? blockettes Blockette.dataKind Blockette.dataSize b.length with
  | none =>
    rw [show findData ⟨b, order⟩ blockettes = .error .noDataBlockette by
      simp only [findData, hdata]]
    rfl
  | some offset =>
    rw [show findData ⟨b, order⟩ blockettes = readDataBlockette ⟨b, order⟩ offset by
      simp only [findData, hdata]]
    refine bind_congr fun data => bind_congr fun length => ?_
    by_cases hshort : b.length < length
    · rw [if_pos hshort, checkWhole, if_pos hshort]
      rfl
    rw [if_neg hshort, checkWhole, if_neg hshort]
    refine bind_congr fun dataOffset => bind_congr fun _ => ?_
    unfold findTiming findCalibration
    cases Blockette.last? blockettes Blockette.timingKind Blockette.timingSize b.length <;>
      cases Blockette.last? blockettes Blockette.calibrationKind Blockette.calibrationSize
        b.length <;> rfl

structure Reads (f : Fields) (blockettes : List Blockette) (h : Header) : Prop where
  byteOrder : h.byteOrder = f.order
  sequence : readSequence f = .ok h.sequence
  startField : f.time 20 = .ok h.startField
  start : f.micros 20 = .ok h.start
  rateFactor : f.i16 32 = .ok h.rateFactor
  rateMultiplier : f.i16 34 = .ok h.rateMultiplier
  rate : h.rate = SampleRate.ofFactors h.rateFactor h.rateMultiplier
  chain : Blockette.chain f = .ok blockettes
  data : ∃ wordOrder exponent, findData f blockettes = .ok (h.encoding, wordOrder, exponent) ∧
    h.wordOrder = wordOrderOfCode wordOrder ∧ lengthOfExponent exponent = .ok h.length
  whole : checkWhole f h.length = .ok ()
  dataOffset : f.u16 44 = .ok h.dataOffset
  payload : checkDataOffset h.dataOffset h.length = .ok ()
  timingQuality : findTiming f blockettes = .ok h.timingQuality
  calibration : findCalibration f blockettes = .ok h.calibration
  quality : f.u8 6 = .ok h.quality
  station : f.text 8 5 = .ok h.station
  location : f.text 13 2 = .ok h.location
  channel : f.text 15 3 = .ok h.channel
  network : f.text 18 2 = .ok h.network
  sampleCount : f.u16 30 = .ok h.sampleCount
  activityFlags : f.u8 36 = .ok h.activityFlags
  ioFlags : f.u8 37 = .ok h.ioFlags
  qualityFlags : f.u8 38 = .ok h.qualityFlags
  blocketteCount : f.u8 39 = .ok h.blocketteCount
  timeCorrection : f.i32 40 = .ok h.timeCorrection
  firstBlockette : f.u16 46 = .ok h.firstBlockette

variable {f : Fields} {h : Header} {b : Bytes}

theorem checkWhole_eq_ok {n : Nat} : checkWhole f n = .ok () ↔ n ≤ f.bytes.length := by
  unfold checkWhole
  rw [← Nat.not_lt]
  by_cases hshort : f.bytes.length < n <;> simp [hshort]

theorem ofFields_eq_ok : ofFields f = .ok h ↔ ∃ blockettes, Reads f blockettes h := by
  constructor
  · intro hf
    simp only [ofFields, bind_eq_ok] at hf
    obtain ⟨sequence, hsequence, startField, hstartField, start, hstart, factor, hfactor,
      multiplier, hmultiplier, blockettes, hchain, ⟨encoding, wordOrder, exponent⟩, hdata,
      length, hlength, ⟨⟩, hwhole, dataOffset, hoffset, ⟨⟩, hpayload, timing, htiming,
      calibration, hcalibration, quality, hquality, station, hstation, location, hlocation, channel,
      hchannel, network, hnetwork, sampleCount, hcount, activity, hactivity, io, hio, qualityFlags,
      hflags, blocketteCount, hblockettes, correction, hcorrection, firstBlockette, hfirst,
      hh⟩ := hf
    cases hh
    exact ⟨blockettes, rfl, hsequence, hstartField, hstart, hfactor, hmultiplier, rfl, hchain,
      ⟨wordOrder, exponent, hdata, rfl, hlength⟩, hwhole, hoffset, hpayload, htiming,
      hcalibration, hquality, hstation, hlocation, hchannel, hnetwork, hcount, hactivity, hio,
      hflags, hblockettes, hcorrection, hfirst⟩
  · rintro ⟨blockettes, hr⟩
    obtain ⟨wordOrder, exponent, hdata, hword, hlength⟩ := hr.data
    simp only [ofFields, hr.sequence, hr.startField, hr.start, hr.rateFactor, hr.rateMultiplier,
      hr.chain, hdata, hlength, hr.whole, hr.dataOffset, hr.payload, hr.timingQuality,
      hr.calibration, hr.quality, hr.station, hr.location, hr.channel, hr.network, hr.sampleCount,
      hr.activityFlags, hr.ioFlags, hr.qualityFlags, hr.blocketteCount, hr.timeCorrection,
      hr.firstBlockette, ← hr.byteOrder, ← hr.rate, ← hword, bind, Except.bind, pure,
      Except.pure]

theorem parse_eq_ok :
    parse b = .ok h ↔ 48 ≤ b.length ∧ checkIdentifiers ⟨b, .big⟩ = .ok () ∧
    ∃ order blockettes, detectOrder b = .ok order ∧ Reads ⟨b, order⟩ blockettes h := by
  have hstart : checkStart b = .ok () ↔ 48 ≤ b.length := by
    rw [checkStart, Blockette.fixedHeaderSize, ← Nat.not_lt]
    by_cases hshort : b.length < 48 <;> simp [hshort]
  rw [parse_eq]
  simp only [bind_eq_ok, ofFields_eq_ok]
  constructor
  · rintro ⟨⟨⟩, hlong, ⟨⟩, hids, order, horder, blockettes, hr⟩
    exact ⟨hstart.1 hlong, hids, order, blockettes, horder, hr⟩
  · rintro ⟨hlong, hids, order, blockettes, horder, hr⟩
    exact ⟨(), hstart.2 hlong, (), hids, order, horder, blockettes, hr⟩

theorem crackLength_of_parse (hp : parse b = .ok h) : crackLength b = .ok h.length := by
  obtain ⟨hlong, hids, order, blockettes, horder, hr⟩ := parse_eq_ok.1 hp
  obtain ⟨wordOrder, exponent, hdata, -, hlength⟩ := hr.data
  unfold findData at hdata
  split at hdata
  next => cases hdata
  next offset hlast =>
    simp only [readDataBlockette, bind_eq_ok] at hdata
    obtain ⟨encoding, -, code, -, x, hx, hall⟩ := hdata
    cases hall
    exact crackLength_eq_ok.2
      ⟨hlong, hids, order, horder, blockettes, hr.chain, offset, hlast, _, hx, hlength⟩

end SeedStream.Header
