import SeedStream.Proofs.Record.RoundTrip

/-!
# Records of any draft

A draft that can be written may hold texts and times that no header gives back. Its
record still has the length asked for and begins with the head. So the first chunk
announces the length of the record or none: read in little-endian order, the first
link leads behind the chunk.
-/

set_option autoImplicit false

namespace SeedStream.Draft
open Bytes

variable {d : Draft} {samples : List Int32} {t : BinaryTime} {factor multiplier : Int16}
  {count exponent n : Nat} {calibration b : Bytes} {m : CalibrationMarker}

theorem lengthExponent?_eq_some (h : lengthExponent? n = some exponent) :
    8 ≤ exponent ∧ exponent ≤ 14 ∧ n = 2 ^ exponent := by
  have hmem := List.mem_of_find?_eq_some h
  have hpow := List.find?_some h
  simp only [List.mem_cons, List.not_mem_nil, or_false] at hmem
  rw [beq_iff_eq] at hpow
  exact ⟨by omega, by omega, hpow.symm⟩

theorem prefix_calibrationBytes (m : CalibrationMarker) (t : BinaryTime) (ticks : Nat) :
    ofNat 2 320 ++ ofNat 2 0 <+: calibrationBytes m t ticks := by
  rw [calibrationBytes_eq, ← List.append_assoc]
  exact List.prefix_append _ _

theorem calibrationBlockette_eq_ok (h : calibrationBlockette m = .ok calibration) :
    ∃ t ticks, calibration = calibrationBytes m t ticks := by
  unfold calibrationBlockette at h
  split at h
  next => cases h
  next t _ =>
    split at h
    next => cases h
    next ticks _ =>
      cases h
      exact ⟨t, ticks, rfl⟩

structure Calibrated (d : Draft) (calibration : Bytes) : Prop where
  length : calibration.length = if d.calibration.isSome then 64 else 0
  kind : d.calibration.isSome = true → ofNat 2 320 ++ ofNat 2 0 <+: calibration

theorem calibrated_none (h : d.calibration = none) : d.Calibrated [] where
  length := by simp [h]
  kind := by simp [h]

theorem calibrated_some (hm : d.calibration = some m)
    (h : calibrationBlockette m = .ok calibration) :
    d.Calibrated calibration := by
  obtain ⟨t, ticks, rfl⟩ := calibrationBlockette_eq_ok h
  exact ⟨by simp [hm], fun _ => prefix_calibrationBytes m t ticks⟩

theorem encode_eq_ok (h : d.encode samples = .ok b) : ∃ exponent t factor multiplier calibration,
    lengthExponent? d.length = some exponent ∧ samples.length ≤ d.capacity ∧
      d.Calibrated calibration ∧
      b = fillTo d.length (fillTo d.dataOffset
        (d.head t factor multiplier samples.length exponent calibration) ++
          RawInteger.encode .big 4 samples) := by
  unfold encode at h
  split at h
  next => cases h
  next exponent he =>
    split at h
    next => cases h
    next hroom =>
      obtain ⟨⟨factor, multiplier⟩, -, h⟩ := bind_eq_ok.1 h
      simp only at h
      split at h
      next t _ =>
        obtain ⟨_, ht, h⟩ := bind_eq_ok.1 h
        cases ht
        split at h
        next hm =>
          obtain ⟨_, hcalibration, h⟩ := bind_eq_ok.1 h
          cases hcalibration
          exact ⟨exponent, t, factor, multiplier, [], he, Nat.not_lt.1 hroom, calibrated_none hm,
            (Except.ok.inj h).symm⟩
        next m hm =>
          obtain ⟨calibration, hcalibration, h⟩ := bind_eq_ok.1 h
          exact ⟨exponent, t, factor, multiplier, calibration, he, Nat.not_lt.1 hroom,
            calibrated_some hm hcalibration, (Except.ok.inj h).symm⟩
      next =>
        obtain ⟨_, ht, -⟩ := bind_eq_ok.1 h
        cases ht

structure Headed (d : Draft) (t : BinaryTime) (factor multiplier : Int16) (count exponent : Nat)
    (calibration b : Bytes) : Prop where
  range : 8 ≤ exponent ∧ exponent ≤ 14
  length : d.length = 2 ^ exponent
  calibrated : d.Calibrated calibration
  size : b.length = d.length
  head : d.head t factor multiplier count exponent calibration <+: b

theorem headed_fillTo (hrange : 8 ≤ exponent ∧ exponent ≤ 14)
    (hlength : d.length = 2 ^ exponent) (hc : d.Calibrated calibration)
    (hroom : samples.length ≤ d.capacity) :
    d.Headed t factor multiplier samples.length exponent calibration
      (fillTo d.length (fillTo d.dataOffset
        (d.head t factor multiplier samples.length exponent calibration) ++
          RawInteger.encode .big 4 samples)) where
  range := hrange
  length := hlength
  calibrated := hc
  size := by
    have hle : 2 ^ 8 ≤ d.length := hlength ▸ Nat.pow_le_pow_right (Nat.zero_lt_succ 1) hrange.1
    have hoffset := d.dataOffset_range.2
    rw [capacity] at hroom
    apply length_fillTo
    rw [List.length_append, length_fillTo (head_le hc.length), RawInteger.length_encode]
    omega
  head := (prefix_fillTo _ _).trans ((List.prefix_append _ _).trans (prefix_fillTo _ _))

theorem headed_of_encode (h : d.encode samples = .ok b) :
    ∃ t factor multiplier exponent calibration,
    d.Headed t factor multiplier samples.length exponent calibration b := by
  obtain ⟨exponent, t, factor, multiplier, calibration, he, hroom, hc, hb⟩ := encode_eq_ok h
  obtain ⟨hlo, hhi, hlength⟩ := lengthExponent?_eq_some he
  refine ⟨t, factor, multiplier, exponent, calibration, ?_⟩
  rw [hb]
  exact headed_fillTo ⟨hlo, hhi⟩ hlength hc hroom

namespace Headed

variable (h : d.Headed t factor multiplier count exponent calibration b)
include h

theorem isLength : Header.IsLength b.length :=
  ⟨exponent, h.range.1, h.range.2, h.size.trans h.length⟩

theorem located : d.Located t factor multiplier count exponent calibration b :=
  Draft.located h.head

theorem located_chunk :
    d.Located t factor multiplier count exponent calibration (b.take Header.frameSize) :=
  Draft.located (List.prefix_take_iff.2
    ⟨h.head, ((head_le h.calibrated.length).trans dataOffset_range.2).trans (by decide)⟩)

theorem length_chunk : (b.take Header.frameSize).length = Header.frameSize := by
  rw [List.length_take]
  exact Nat.min_eq_left h.isLength.le

theorem lengthOfExponent : Header.lengthOfExponent (UInt8.ofNat exponent) = .ok b.length := by
  have hx : (UInt8.ofNat exponent).toNat = exponent := by
    have hrange := h.range
    exact UInt8.toNat_ofNat_of_lt (show exponent < 256 by omega)
  rw [Header.lengthOfExponent_eq_ok, hx]
  exact ⟨h.range.1, h.range.2, h.size.trans h.length⟩

/-- Read in little-endian order, the first link leads behind the first chunk. -/
theorem chain_little : Blockette.chain ⟨b.take Header.frameSize, .little⟩ = .ok [] := by
  have hlink : (⟨b.take Header.frameSize, .little⟩ : Fields).u16 46 = .ok 12288 := by
    rw [Fields.u16, Fields.word, Fields.slice_at h.located_chunk.firstLink (length_ofNat 2 48)]
    change Except.ok (UInt16.ofNat (value (ofNat 2 48).reverse)) = .ok 12288
    decide
  have hshort : (b.take Header.frameSize).length < 12288 + 4 := by
    rw [h.length_chunk]
    decide
  rw [Blockette.chain, Blockette.firstLinkOffset, hlink]
  change Blockette.chainFrom ⟨b.take Header.frameSize, .little⟩ 0 12288 = .ok []
  rw [Blockette.chainFrom, if_neg (by decide), if_neg (by decide), if_pos hshort]

/-- The first chunk announces no other length than that of the record. -/
theorem eq_of_crackLength (hn : Header.crackLength (b.take Header.frameSize) = .ok n) :
    n = b.length := by
  obtain ⟨-, -, order, -, blockettes, hchain, offset, hlast, x, hx, hlength⟩ :=
    Header.crackLength_eq_ok.1 hn
  cases order with
  | little =>
    cases h.chain_little.symm.trans hchain
    cases hlast
  | big =>
    cases (h.located_chunk.chain h.calibrated.kind).symm.trans hchain
    rw [h.length_chunk, last?_data (by decide)] at hlast
    cases hlast
    cases (Fields.u8_at h.located_chunk.data_at.2.2).symm.trans hx
    cases h.lengthOfExponent.symm.trans hlength
    rfl

end Headed
end SeedStream.Draft
