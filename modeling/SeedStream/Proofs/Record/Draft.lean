import SeedStream.Proofs.Record.Layout
import SeedStream.Proofs.Record.Length
import SeedStream.Proofs.Time.Calendar

/-!
# Drafts that can be written

A draft is well-formed if every value fits its field and can be told from the
field again. Writing it succeeds, and the record has the length that it announces.
-/

set_option autoImplicit false

namespace SeedStream
open Bytes Calendar

structure CalibrationMarker.Wellformed (m : CalibrationMarker) : Prop where
  start : startOfYear 0 ≤ m.start ∧ m.start < startOfYear 65536
  startUnit : m.start % 100 = 0
  duration : 0 ≤ m.duration ∧ m.duration ≤ 4294967295 * 100
  durationUnit : m.duration % 100 = 0
  inputChannel : Fits 3 m.inputChannel
  coupling : Fits 12 m.coupling
  rolloff : Fits 12 m.rolloff
  noiseType : Fits 8 m.noiseType

namespace Draft

/-- A draft of which the record would be taken for a heartbeat. -/
def IsHeartbeat (d : Draft) : Prop :=
  d.sequence % 1000000 = 0 ∧ d.quality = Header.blank ∧ d.station = "" ∧ d.location = "" ∧
    d.channel = "" ∧ d.network = ""

structure Wellformed (d : Draft) (samples : List Int32) : Prop where
  length : Header.IsLength d.length
  room : samples.length ≤ d.capacity
  station : Identifier 5 d.station
  location : Identifier 2 d.location
  channel : Identifier 3 d.channel
  network : Identifier 2 d.network
  start : startOfYear 1900 ≤ d.start ∧ d.start < startOfYear 2101
  rate : ∃ factors, SampleRate.toFactors d.rate = .ok factors
  heard : ¬ d.IsHeartbeat
  calibration : ∀ m, d.calibration = some m → m.Wellformed

variable {m : CalibrationMarker} {b : Bytes} {offset : Nat}

def calibrationBytes (m : CalibrationMarker) (t : BinaryTime) (ticks : Nat) : Bytes :=
  ofNat 2 320 ++ ofNat 2 0 ++ timeField t ++ [0, m.flags] ++ ofNat 4 ticks ++
    ofNat 4 m.peakToPeak.bits.toNat ++ textField 3 m.inputChannel ++ [0] ++
    ofNat 4 m.referenceAmplitude.toNat ++ textField 12 m.coupling ++ textField 12 m.rolloff ++
    textField 8 m.noiseType

theorem ticks?_eq (h : 0 ≤ m.duration ∧ m.duration ≤ 4294967295 * 100) :
    ticks? m.duration = some (m.duration / 100).toNat := by
  rw [ticks?, Int.tdiv_eq_ediv_of_nonneg h.1, if_pos (by omega)]

theorem calibrationBlockette_ok (h : m.Wellformed) :
    ∃ t, calibrationBlockette m = .ok (calibrationBytes m t (m.duration / 100).toNat) ∧
      t.toMicros = .ok m.start := by
  obtain ⟨t, ht, hmicros, -⟩ := BinaryTime.ofMicros_spec 0 65535 (by decide) (by decide)
    h.start.1 h.start.2
  rw [h.startUnit, Int.sub_zero] at hmicros
  refine ⟨t, ?_, hmicros⟩
  rw [calibrationBlockette, ht]
  dsimp only
  rw [ticks?_eq h.duration]
  rfl

theorem calibrationBytes_eq {t : BinaryTime} {ticks : Nat} : calibrationBytes m t ticks =
    ofNat 2 320 ++ (ofNat 2 0 ++ (timeField t ++ ([0] ++ ([m.flags] ++ (ofNat 4 ticks ++
      (ofNat 4 m.peakToPeak.bits.toNat ++ (textField 3 m.inputChannel ++ ([0] ++
        (ofNat 4 m.referenceAmplitude.toNat ++ (textField 12 m.coupling ++
          (textField 12 m.rolloff ++ textField 8 m.noiseType))))))))))) := by
  simp [calibrationBytes]

theorem readCalibration_at (h : m.Wellformed) {t : BinaryTime} (ht : t.toMicros = .ok m.start)
    (hb : b.At offset (calibrationBytes m t (m.duration / 100).toNat)) :
    Header.readCalibration ⟨b, .big⟩ offset = .ok m := by
  rw [calibrationBytes_eq] at hb
  have h4 := hb.right.right
  have h14 := h4.right
  have h15 := h14.right
  have h16 := h15.right
  have h20 := h16.right
  have h24 := h20.right
  have h28 := h24.right.right
  have h32 := h28.right
  have h44 := h32.right
  have h56 := h44.right
  simp only [length_ofNat, length_timeField, length_textField, List.length_cons, List.length_nil,
    Nat.add_assoc, Nat.reduceAdd] at *
  have hticks : (((UInt32.ofNat (m.duration / 100).toNat).toNat : Int)) * 100 = m.duration := by
    have hlt : (m.duration / 100).toNat < 2 ^ 32 := by
      have := h.duration
      omega
    have hunit := h.durationUnit
    have hpos := h.duration.1
    rw [UInt32.toNat_ofNat', Nat.mod_eq_of_lt hlt]
    omega
  have hstart : (⟨b, .big⟩ : Fields).micros (offset + 4) = .ok m.start := by
    simp only [Fields.micros, Fields.time_at h4.left, bind, Except.bind, ht]
  simp only [Header.readCalibration, hstart, Fields.u8_at h15.left, Fields.u32_at h16.left,
    Fields.binary32_at h20.left, h.inputChannel.text_at h24.left, Fields.u32_at h28.left,
    h.coupling.text_at h32.left, h.rolloff.text_at h44.left, h.noiseType.text_at h56, bind,
    Except.bind, pure, Except.pure, hticks, UInt32.ofNat_toNat]

/-- Bytes that hold the calibration of a draft, or none if there is none. -/
def Calibrates (d : Draft) (bytes : Bytes) : Prop :=
  match d.calibration with
  | none => bytes = []
  | some m => ∃ t, t.toMicros = .ok m.start ∧
      bytes = calibrationBytes m t (m.duration / 100).toNat

structure Written (d : Draft) (samples : List Int32) (t : BinaryTime) (factor multiplier : Int16)
    (exponent : Nat) (calibration b : Bytes) : Prop where
  wellformed : d.Wellformed samples
  time : t.toMicros = .ok (d.start - d.start % 100)
  year : 1900 ≤ t.year.toNat ∧ t.year.toNat ≤ 2100
  day : 1 ≤ t.dayOfYear.toNat ∧ t.dayOfYear.toNat ≤ 366
  rate : SampleRate.toFactors d.rate = .ok (factor, multiplier)
  range : 8 ≤ exponent ∧ exponent ≤ 14
  length : d.length = 2 ^ exponent
  calibrates : d.Calibrates calibration
  bytes : b = fillTo d.length (fillTo d.dataOffset
    (d.head t factor multiplier samples.length exponent calibration) ++
      RawInteger.encode .big 4 samples)

theorem lengthExponent?_pow {e : Nat} (h : 8 ≤ e ∧ e ≤ 14) :
    lengthExponent? (2 ^ e) = some e := by
  have hcases : e = 8 ∨ e = 9 ∨ e = 10 ∨ e = 11 ∨ e = 12 ∨ e = 13 ∨ e = 14 := by omega
  rcases hcases with rfl | rfl | rfl | rfl | rfl | rfl | rfl <;> decide

namespace Wellformed

variable {d : Draft} {samples : List Int32}

theorem calibration_ok (h : d.Wellformed samples) : ∃ bytes : Bytes,
    (match d.calibration with
      | none => .ok []
      | some m => calibrationBlockette m : Except StreamError Bytes) = .ok bytes ∧
    d.Calibrates bytes := by
  unfold Calibrates
  cases hm : d.calibration with
  | none => exact ⟨[], rfl, rfl⟩
  | some m =>
    obtain ⟨t, hbytes, ht⟩ := calibrationBlockette_ok (h.calibration m hm)
    exact ⟨_, hbytes, t, ht, rfl⟩

theorem encode_ok (h : d.Wellformed samples) :
    ∃ t factor multiplier exponent calibration b, d.encode samples = .ok b ∧
      d.Written samples t factor multiplier exponent calibration b := by
  obtain ⟨e, hlo, hhi, hlen⟩ := h.length
  obtain ⟨⟨factor, multiplier⟩, hrate⟩ := h.rate
  obtain ⟨t, ht, hmicros, hyear, hyear', hday, hday'⟩ :=
    BinaryTime.ofMicros_spec 1900 2100 (by decide) (by decide) h.start.1 h.start.2
  obtain ⟨bytes, hbytes, hcalibrates⟩ := h.calibration_ok
  have hexp : lengthExponent? d.length = some e := by rw [hlen, lengthExponent?_pow ⟨hlo, hhi⟩]
  have hroom : ¬ d.capacity < samples.length := Nat.not_lt.2 h.room
  refine ⟨t, factor, multiplier, e, bytes, _, ?_, h, hmicros, ?_, ⟨hday, hday'⟩, hrate,
    ⟨hlo, hhi⟩, hlen, hcalibrates, rfl⟩
  · rw [encode, hexp]
    simp only [hroom, if_false, hrate, ht, bind, Except.bind, pure, Except.pure]
    cases hm : d.calibration with
    | none =>
      rw [hm] at hbytes
      cases hbytes
      rfl
    | some m =>
      rw [hm] at hbytes
      simp only [hbytes]
      rfl
  · omega

end Wellformed
end Draft
end SeedStream
