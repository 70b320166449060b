import SeedStream.Proofs.Record.Draft
import SeedStream.Proofs.Record.Words

/-!
# Reading back what was written

A record of a well-formed draft has the length that it announces, in its first
chunk as in the whole, and gives back the draft and the samples.
-/

set_option autoImplicit false

namespace SeedStream
open Bytes

namespace Draft

theorem length_fillTo {n : Nat} {b : Bytes} (h : b.length ≤ n) : (fillTo n b).length = n := by
  rw [fillTo, List.length_append, List.length_replicate]
  exact Nat.add_sub_of_le h

theorem prefix_fillTo (n : Nat) (b : Bytes) : b <+: fillTo n b := List.prefix_append _ _

@[simp] theorem length_calibrationBytes (m : CalibrationMarker) (t : BinaryTime) (ticks : Nat) :
    (calibrationBytes m t ticks).length = 64 := by
  simp [calibrationBytes]

variable {d : Draft} {samples : List Int32} {t : BinaryTime} {factor multiplier : Int16}
  {count exponent : Nat} {calibration b : Bytes}

theorem Calibrates.length (h : d.Calibrates calibration) :
    calibration.length = if d.calibration.isSome then 64 else 0 := by
  unfold Calibrates at h
  cases hm : d.calibration with
  | none =>
    rw [hm] at h
    simp only at h
    rw [h]
    rfl
  | some m =>
    rw [hm] at h
    obtain ⟨t, -, rfl⟩ := h
    rw [length_calibrationBytes]
    rfl

theorem Calibrates.kind (h : d.Calibrates calibration) (hm : d.calibration.isSome = true) :
    ofNat 2 320 ++ ofNat 2 0 <+: calibration := by
  unfold Calibrates at h
  obtain ⟨m, hm⟩ := Option.isSome_iff_exists.1 hm
  rw [hm] at h
  obtain ⟨t, -, rfl⟩ := h
  simp only [calibrationBytes, List.append_assoc]
  rw [← List.append_assoc]
  exact List.prefix_append _ _

theorem head_le (h : calibration.length = if d.calibration.isSome then 64 else 0) :
    (d.head t factor multiplier count exponent calibration).length ≤ d.dataOffset := by
  rw [head, List.length_append, List.length_append, List.length_append, length_fixedHeader,
    length_dataBlockette, h, timingBlockette, dataOffset]
  cases d.timingQuality <;> cases d.calibration <;> simp

theorem Calibrates.head_le (h : d.Calibrates calibration) :
    (d.head t factor multiplier count exponent calibration).length ≤ d.dataOffset :=
  Draft.head_le h.length

theorem dataOffset_range : 64 ≤ d.dataOffset ∧ d.dataOffset ≤ 128 := by
  unfold dataOffset
  split <;> decide

theorem toNat_dataOffset : (UInt16.ofNat d.dataOffset).toNat = d.dataOffset := by
  have hhi := d.dataOffset_range.2
  exact UInt16.toNat_ofNat_of_lt (show d.dataOffset < 65536 by omega)

theorem Wellformed.payload_le (h : d.Wellformed samples) :
    d.dataOffset + samples.length * 4 ≤ d.length := by
  have hroom := h.room
  have hlen := h.length.le
  have hoffset := d.dataOffset_range.2
  unfold capacity at hroom
  omega

theorem Wellformed.toNat_count (h : d.Wellformed samples) :
    (UInt16.ofNat samples.length).toNat = samples.length := by
  have hpayload := h.payload_le
  have hlen := h.length.le_longest
  exact UInt16.toNat_ofNat_of_lt (show samples.length < 65536 by omega)

namespace Written

variable (w : d.Written samples t factor multiplier exponent calibration b)
include w

theorem length_eq : b.length = d.length := by
  rw [w.bytes]
  apply length_fillTo
  rw [List.length_append, length_fillTo w.calibrates.head_le, RawInteger.length_encode]
  exact w.wellformed.payload_le

theorem head_prefix : d.head t factor multiplier samples.length exponent calibration <+: b := by
  rw [w.bytes]
  exact (prefix_fillTo _ _).trans ((List.prefix_append _ _).trans (prefix_fillTo _ _))

theorem frame_le : Header.frameSize ≤ b.length := by
  rw [w.length_eq]
  exact w.wellformed.length.le

theorem head_prefix_chunk :
    d.head t factor multiplier samples.length exponent calibration <+: b.take Header.frameSize := by
  apply List.prefix_take_iff.2
  constructor
  · exact w.head_prefix
  · exact (w.calibrates.head_le.trans dataOffset_range.2).trans (by decide)

theorem payload_eq : ∃ rest, b.drop d.dataOffset = RawInteger.encode .big 4 samples ++ rest := by
  rw [w.bytes, fillTo, List.append_assoc, List.drop_left' (length_fillTo w.calibrates.head_le)]
  exact ⟨_, rfl⟩

end Written

theorem Wellformed.identifiers_allowed (h : d.Wellformed samples) :
    ∀ x ∈ d.identifierField, Header.isIdentifierByte x = true := by
  intro x hx
  simp only [identifierField, List.mem_append] at hx
  rcases hx with hx | hx | hx | hx
  · exact h.station.allowed_bytes x hx
  · exact h.location.allowed_bytes x hx
  · exact h.channel.allowed_bytes x hx
  · exact h.network.allowed_bytes x hx

namespace Located

variable (h : d.Located t factor multiplier count exponent calibration b)
include h

theorem readSequence (order : ByteOrder) :
    Header.readSequence ⟨b, order⟩ = .ok (d.sequence % 1000000) := by
  simp only [Header.readSequence, Fields.slice_at h.sequence (length_sequenceField _), bind,
    Except.bind, sequenceOf_sequenceField]

theorem checkIdentifiers (hw : d.Wellformed samples) :
    Header.checkIdentifiers ⟨b, .big⟩ = .ok () := by
  have hnone : (d.identifierField.find? fun x => !Header.isIdentifierByte x) = none := by
    rw [List.find?_eq_none]
    intro x hx
    rw [hw.identifiers_allowed x hx]
    decide
  simp only [Header.checkIdentifiers, h.readSequence,
    Fields.slice_at h.identifiers (length_identifierField d), bind, Except.bind, hnone]

theorem detectOrder (hyear : 1900 ≤ t.year.toNat ∧ t.year.toNat ≤ 2100)
    (hday : 1 ≤ t.dayOfYear.toNat ∧ t.dayOfYear.toNat ≤ 366) :
    Header.detectOrder b = .ok .big := by
  have h20 : (⟨b, .big⟩ : Fields).u16 20 = .ok t.year := by
    have hyear := Fields.u16_at h.start.left.left.left
    rwa [UInt16.ofNat_toNat] at hyear
  have h22 : (⟨b, .big⟩ : Fields).u16 22 = .ok t.dayOfYear := by
    have hday := Fields.u16_at (show b.At (20 + 2) _ by simpa using h.start.left.left.right)
    rwa [UInt16.ofNat_toNat] at hday
  have hplausible : Header.hasPlausibleStart ⟨b, .big⟩ = .ok true := by
    simp [Header.hasPlausibleStart, h20, h22, bind, Except.bind, pure, Except.pure, hyear, hday]
  simp only [Header.detectOrder, hplausible, bind, Except.bind, if_true, pure, Except.pure]

theorem identifiers_at : b.At 8 (textField 5 d.station) ∧ b.At 13 (textField 2 d.location) ∧
    b.At 15 (textField 3 d.channel) ∧ b.At 18 (textField 2 d.network) := by
  have h13 := h.identifiers.right
  rw [length_textField] at h13
  have h15 := h13.right
  rw [length_textField] at h15
  have h18 := h15.right
  rw [length_textField] at h18
  exact ⟨h.identifiers.left, h13.left, h15.left, h18⟩

theorem flags_at : b.At 36 [0] ∧ b.At 37 [0] ∧ b.At 38 [0] ∧
    b.At 39 [UInt8.ofNat d.blocketteCount] := by
  have hflags : b.At 36 ([0] ++ ([0] ++ ([0] ++ [UInt8.ofNat d.blocketteCount]))) := h.flags
  exact ⟨hflags.left, hflags.right.left, hflags.right.right.left, hflags.right.right.right⟩

theorem data_at : b.At 52 [3] ∧ b.At 53 [1] ∧ b.At 54 [UInt8.ofNat exponent] := by
  have hdata : b.At 52 ([3] ++ ([1] ++ ([UInt8.ofNat exponent] ++ [0]))) := by
    simpa [dataBlockette] using h.data.right
  exact ⟨hdata.left, hdata.right.left, hdata.right.right.left⟩

theorem readDataBlockette : Header.readDataBlockette ⟨b, .big⟩ 48 =
    .ok (3, 1, UInt8.ofNat exponent) := by
  obtain ⟨h52, h53, h54⟩ := h.data_at
  simp only [Header.readDataBlockette, Nat.reduceAdd, Fields.u8_at h52, Fields.u8_at h53,
    Fields.u8_at h54, bind, Except.bind, pure, Except.pure]

theorem readTimingQuality {quality : UInt8} (hq : d.timingQuality = some quality) :
    (⟨b, .big⟩ : Fields).u8 (56 + 4) = .ok quality := by
  have htiming := h.timing
  rw [timingBlockette, hq] at htiming
  exact Fields.u8_at (show b.At 60 ([quality] ++ [0, 0, 0]) from htiming.right).left

/-- Only the record of a heartbeat has the signature of one. -/
theorem isHeartbeat (hw : d.Wellformed samples) (hbeats : Header.isHeartbeatBytes b = true) :
    d.IsHeartbeat := by
  obtain ⟨-, hdigits, hblanks⟩ := (Header.isHeartbeatBytes_iff b).1 hbeats
  have hblank : ∀ x ∈ (b.drop 6).take 14, x = Header.blank := by
    simpa using hblanks
  obtain ⟨hstation, hlocation, hchannel, hnetwork⟩ := h.identifiers_at
  have hsequence : sequenceField d.sequence = List.replicate 6 0x30 := by
    have hslice := h.sequence.slice?
    rw [length_sequenceField, slice?,
      if_pos ⟨Nat.zero_le _, by simpa using h.sequence.le⟩] at hslice
    exact (Option.some.inj hslice).symm.trans hdigits
  have hzero : some (d.sequence % 1000000) = some 0 := by
    rw [← sequenceOf_sequenceField, hsequence]
    decide
  have hquality := h.quality.forall_mem hblank (by decide) (by simp) d.quality List.mem_cons_self
  refine ⟨Option.some.inj hzero, hquality, ?_, ?_, ?_, ?_⟩
  · exact hw.station.fits.eq_empty (hstation.forall_mem hblank (by decide) (by simp))
  · exact hw.location.fits.eq_empty (hlocation.forall_mem hblank (by decide) (by simp))
  · exact hw.channel.fits.eq_empty (hchannel.forall_mem hblank (by decide) (by simp))
  · exact hw.network.fits.eq_empty (hnetwork.forall_mem hblank (by decide) (by simp))

end Located

def header (d : Draft) (t : BinaryTime) (factor multiplier : Int16) (count : Nat) : Header where
  sequence := d.sequence % 1000000
  quality := d.quality
  network := d.network
  station := d.station
  location := d.location
  channel := d.channel
  startField := t
  start := d.start - d.start % 100
  sampleCount := UInt16.ofNat count
  rateFactor := factor
  rateMultiplier := multiplier
  rate := SampleRate.ofFactors factor multiplier
  activityFlags := 0
  ioFlags := 0
  qualityFlags := 0
  blocketteCount := UInt8.ofNat d.blocketteCount
  timeCorrection := 0
  dataOffset := UInt16.ofNat d.dataOffset
  firstBlockette := 48
  byteOrder := .big
  encoding := 3
  wordOrder := .big
  length := d.length
  timingQuality := d.timingQuality
  calibration := d.calibration

namespace Written

variable (w : d.Written samples t factor multiplier exponent calibration b)
include w

theorem located : d.Located t factor multiplier samples.length exponent calibration b :=
  Draft.located w.head_prefix

theorem located_chunk :
    d.Located t factor multiplier samples.length exponent calibration (b.take Header.frameSize) :=
  Draft.located w.head_prefix_chunk

theorem lengthOfExponent : Header.lengthOfExponent (UInt8.ofNat exponent) = .ok d.length := by
  have hx : (UInt8.ofNat exponent).toNat = exponent := by
    have hrange := w.range
    exact UInt8.toNat_ofNat_of_lt (show exponent < 256 by omega)
  rw [Header.lengthOfExponent_eq_ok, hx]
  exact ⟨w.range.1, w.range.2, w.length⟩

theorem crackLength : Header.crackLength (b.take Header.frameSize) = .ok b.length := by
  have h := w.located_chunk
  have hlen : (b.take Header.frameSize).length = Header.frameSize := by
    rw [List.length_take, Nat.min_eq_left w.frame_le]
  rw [w.length_eq]
  apply Header.crackLength_eq_ok.2
  refine ⟨?_, h.checkIdentifiers w.wellformed, .big, h.detectOrder w.year w.day, d.blockettes,
    h.chain w.calibrates.kind, 48, ?_, UInt8.ofNat exponent, ?_, w.lengthOfExponent⟩
  · rw [hlen]
    decide
  · rw [hlen]
    exact last?_data (by decide)
  · exact Fields.u8_at h.data_at.2.2

theorem readCalibration {m : CalibrationMarker} (hm : d.calibration = some m) :
    Header.readCalibration ⟨b, .big⟩ d.calibrationOffset = .ok m := by
  have hcalibrates := w.calibrates
  rw [Calibrates, hm] at hcalibrates
  obtain ⟨t, ht, hbytes⟩ := hcalibrates
  have hat := w.located.calibration
  rw [hbytes] at hat
  exact readCalibration_at (w.wellformed.calibration m hm) ht hat

theorem checkDataOffset :
    Header.checkDataOffset (UInt16.ofNat d.dataOffset) d.length = .ok () := by
  have hlen := w.wellformed.length.le
  have hrange := d.dataOffset_range
  rw [Header.checkDataOffset, toNat_dataOffset, if_neg]
  rw [Blockette.fixedHeaderSize]
  omega

theorem parse : Header.parse b = .ok (d.header t factor multiplier samples.length) := by
  have h := w.located
  have hw := w.wellformed
  have hlen : 256 ≤ b.length := w.frame_le
  have hwhole : ¬ b.length < d.length := Nat.not_lt.2 (Nat.le_of_eq w.length_eq.symm)
  have hnotShort : ¬ b.length < Blockette.fixedHeaderSize := by
    rw [Blockette.fixedHeaderSize]
    omega
  have hstart : (⟨b, .big⟩ : Fields).micros 20 = .ok (d.start - d.start % 100) := by
    simp only [Fields.micros, Fields.time_at h.start, bind, Except.bind, w.time]
  obtain ⟨h36, h37, h38, h39⟩ := h.flags_at
  obtain ⟨hstation, hlocation, hchannel, hnetwork⟩ := h.identifiers_at
  have hdata := d.last?_data (show 56 ≤ b.length by omega)
  have htiming := d.last?_timing (show 64 ≤ b.length by omega)
  have hcalibration := d.last?_calibration (show 128 ≤ b.length by omega)
  simp only [Header.parse, hnotShort, if_false, h.checkIdentifiers hw, h.detectOrder w.year w.day,
    h.readSequence, Fields.time_at h.start, hstart, Fields.i16_at h.factor,
    Fields.i16_at h.multiplier, h.chain w.calibrates.kind, hdata, h.readDataBlockette,
    w.lengthOfExponent, hwhole, Fields.u16_at h.dataOffset, w.checkDataOffset, htiming,
    hcalibration, Fields.u8_at h.quality, hw.station.fits.text_at hstation,
    hw.location.fits.text_at hlocation, hw.channel.fits.text_at hchannel,
    hw.network.fits.text_at hnetwork, Fields.u16_at h.count, Fields.u8_at h36,
    Fields.u8_at h37, Fields.u8_at h38, Fields.u8_at h39, Fields.i32_at h.correction,
    Fields.u16_at h.firstLink, bind, Except.bind, pure, Except.pure]
  -- What is left are the blockettes that a draft may do without.
  have hword : Header.wordOrderOfCode 1 = .big := rfl
  cases hq : d.timingQuality with
  | none =>
    cases hm : d.calibration with
    | none => simp [header, hq, hm, hword]
    | some m => simp [header, hq, hm, hword, w.readCalibration hm, Except.map]
  | some q =>
    cases hm : d.calibration with
    | none => simp [header, hq, hm, hword, h.readTimingQuality hq, Except.map]
    | some m =>
      simp [header, hq, hm, hword, h.readTimingQuality hq, w.readCalibration hm, Except.map]

theorem payload_drop : (d.header t factor multiplier samples.length).payload b =
    .ok (if samples = [] then [] else b.drop d.dataOffset) := by
  have hpayload := w.wellformed.payload_le
  have hrange := d.dataOffset_range
  have hle : d.dataOffset ≤ b.length := by
    rw [w.length_eq]
    omega
  have hslice : b.slice? d.dataOffset b.length = some (b.drop d.dataOffset) := by
    rw [slice?, if_pos ⟨hle, Nat.le_refl _⟩, ← List.length_drop, List.take_length]
  have hnone : UInt16.ofNat samples.length = 0 ∨ d.dataOffset = 0 ↔ samples = [] := by
    rw [← UInt16.toNat_inj, w.wellformed.toNat_count, UInt16.toNat_zero, List.length_eq_zero_iff,
      or_iff_left (by omega)]
  simp only [Header.payload, header, toNat_dataOffset, ← w.length_eq, Nat.min_self, hnone,
    if_neg (Nat.not_lt.2 hle), hslice]
  split <;> rfl

theorem samples_eq :
    Decoder.rawInteger.samples (d.header t factor multiplier samples.length) b = .ok samples := by
  obtain ⟨rest, hrest⟩ := w.payload_eq
  have hdecode : ∀ rest, RawInteger.decode (d.header t factor multiplier samples.length)
      (RawInteger.encode .big 4 samples ++ rest) = .ok samples :=
    fun rest => RawInteger.decode_encode (.inr ⟨rfl, rfl⟩)
      (fun x _ => RawInteger.hasRoom_four x) rfl
      w.wellformed.toNat_count
  rw [Decoder.samples, w.payload_drop]
  by_cases hnil : samples = []
  · subst hnil
    rfl
  · rw [if_neg hnil, hrest]
    simp only [Decoder.rawInteger, hdecode]

end Written
end Draft
end SeedStream
