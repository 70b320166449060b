import SeedStream.Proofs.Record.Texts

/-!
# The layout of a written record

Every field of a draft lies at the offset where a header is read, whatever
blockettes the draft asks for, and the chain of blockettes links those that were
written. This holds of all bytes that begin with the head of a record, so of a
record and of its first chunk.
-/

set_option autoImplicit false

namespace SeedStream
open Bytes

theorem Fields.time_at {b : Bytes} {offset : Nat} {t : BinaryTime}
    (h : b.At offset (Draft.timeField t)) : (⟨b, .big⟩ : Fields).time offset = .ok t := by
  have hclock : b.At (offset + 4) ([t.hour] ++ ([t.minute] ++ ([t.second] ++ [0]))) := by
    simpa using h.left.right
  have hhour : (⟨b, .big⟩ : Fields).u8 (offset + 4) = .ok t.hour := u8_at hclock.left
  have hminute : (⟨b, .big⟩ : Fields).u8 (offset + 5) = .ok t.minute := u8_at hclock.right.left
  have hsecond : (⟨b, .big⟩ : Fields).u8 (offset + 6) = .ok t.second :=
    u8_at hclock.right.right.left
  have hyear := u16_at h.left.left.left
  have hday := u16_at (show b.At (offset + 2) _ by simpa using h.left.left.right)
  have hfraction := u16_at (show b.At (offset + 8) _ by simpa using h.right)
  simp [Fields.time, hyear, hday, hhour, hminute, hsecond, hfraction, bind, Except.bind, pure,
    Except.pure]

namespace Draft

@[simp] theorem length_timeField (t : BinaryTime) : (timeField t).length = 10 := by
  simp [timeField]

def identifierField (d : Draft) : Bytes :=
  textField 5 d.station ++ (textField 2 d.location ++ (textField 3 d.channel ++
    textField 2 d.network))

@[simp] theorem length_identifierField (d : Draft) : d.identifierField.length = 12 := by
  simp [identifierField]

def head (d : Draft) (t : BinaryTime) (factor multiplier : Int16) (count exponent : Nat)
    (calibration : Bytes) : Bytes :=
  d.fixedHeader t factor multiplier count ++ d.dataBlockette exponent ++ d.timingBlockette ++
    calibration

def calibrationOffset (d : Draft) : Nat := if d.timingQuality.isSome then 64 else 56

structure Located (d : Draft) (t : BinaryTime) (factor multiplier : Int16) (count exponent : Nat)
    (calibration b : Bytes) : Prop where
  sequence : b.At 0 (sequenceField d.sequence)
  quality : b.At 6 [d.quality]
  identifiers : b.At 8 d.identifierField
  start : b.At 20 (timeField t)
  count : b.At 30 (ofNat 2 count)
  factor : b.At 32 (ofNat 2 factor.toUInt16.toNat)
  multiplier : b.At 34 (ofNat 2 multiplier.toUInt16.toNat)
  flags : b.At 36 [0, 0, 0, UInt8.ofNat d.blocketteCount]
  correction : b.At 40 (ofNat 4 0)
  dataOffset : b.At 44 (ofNat 2 d.dataOffset)
  firstLink : b.At 46 (ofNat 2 48)
  data : b.At 48 (d.dataBlockette exponent)
  timing : b.At 56 d.timingBlockette
  calibration : b.At d.calibrationOffset calibration

variable {d : Draft} {t : BinaryTime} {factor multiplier : Int16} {count exponent : Nat}
  {b calibration : Bytes}

theorem fixedHeader_eq : d.fixedHeader t factor multiplier count =
    sequenceField d.sequence ++ ([d.quality] ++ ([Header.blank] ++ (d.identifierField ++
      (timeField t ++ (ofNat 2 count ++ (ofNat 2 factor.toUInt16.toNat ++
        (ofNat 2 multiplier.toUInt16.toNat ++ ([0, 0, 0, UInt8.ofNat d.blocketteCount] ++
          (ofNat 4 0 ++ (ofNat 2 d.dataOffset ++ ofNat 2 48)))))))))) := by
  simp [fixedHeader, identifierField]

theorem length_fixedHeader : (d.fixedHeader t factor multiplier count).length = 48 := by
  simp [fixedHeader]

theorem length_dataBlockette : (d.dataBlockette exponent).length = 8 := by
  simp [dataBlockette]

theorem length_timingBlockette :
    0 + 48 + 8 + d.timingBlockette.length = d.calibrationOffset := by
  unfold timingBlockette calibrationOffset
  cases d.timingQuality <;> simp

theorem located (h : d.head t factor multiplier count exponent calibration <+: b) :
    d.Located t factor multiplier count exponent calibration b := by
  have hall := at_zero h
  rw [head, List.append_assoc, List.append_assoc] at hall
  have hdata := hall.right.left
  have htiming := hall.right.right.left
  have hcalibration := hall.right.right.right
  rw [length_fixedHeader] at hdata
  rw [length_fixedHeader, length_dataBlockette] at htiming
  rw [length_fixedHeader, length_dataBlockette, length_timingBlockette] at hcalibration
  have h0 := hall.left
  rw [fixedHeader_eq] at h0
  have h6 := h0.right
  have h8 := h6.right.right
  have h20 := h8.right
  have h30 := h20.right
  have h32 := h30.right
  have h34 := h32.right
  have h36 := h34.right
  have h40 := h36.right
  have h44 := h40.right
  have h46 := h44.right
  simp only [length_sequenceField, length_identifierField, length_timeField, length_ofNat,
    List.length_cons, List.length_nil, Nat.reduceAdd] at *
  exact
    { sequence := h0.left
      quality := h6.left
      identifiers := h8.left
      start := h20.left
      count := h30.left
      factor := h32.left
      multiplier := h34.left
      flags := h36.left
      correction := h40.left
      dataOffset := h44.left
      firstLink := h46
      data := hdata
      timing := htiming
      calibration := hcalibration }

def blockettes (d : Draft) : List Blockette :=
  ⟨1000, 48⟩ :: ((if d.timingQuality.isSome then [⟨1001, 56⟩] else []) ++
    if d.calibration.isSome then [⟨320, d.calibrationOffset⟩] else [])

theorem chainFrom_end (f : Fields) (previous : Nat) :
    Blockette.chainFrom f previous 0 = .ok [] := by
  rw [Blockette.chainFrom, if_pos rfl]

theorem chainFrom_at {previous offset kind next : Nat}
    (h : b.At offset (ofNat 2 kind ++ ofNat 2 next)) (hlo : 48 ≤ offset) (hp : previous < offset)
    (hk : kind < 65536) (hn : next < 65536) :
    Blockette.chainFrom ⟨b, .big⟩ previous offset =
      (Blockette.chainFrom ⟨b, .big⟩ offset next).map (⟨kind, offset⟩ :: ·) := by
  have hle := h.le
  have hkind := Fields.u16_at h.left
  have hnext := Fields.u16_at h.right
  rw [List.length_append, length_ofNat, length_ofNat] at hle
  rw [length_ofNat] at hnext
  have hk' : (UInt16.ofNat kind).toNat = kind := UInt16.toNat_ofNat_of_lt hk
  have hn' : (UInt16.ofNat next).toNat = next := UInt16.toNat_ofNat_of_lt hn
  rw [Blockette.chainFrom, if_neg (by omega), if_neg (by rw [Blockette.fixedHeaderSize]; omega),
    if_neg (by simp only; omega), hkind, hnext]
  dsimp only
  rw [hk', hn']

/-- The rest of the chain behind the blockettes that come first. -/
theorem Located.chain_calibration (h : d.Located t factor multiplier count exponent calibration b)
    (hc : d.calibration.isSome = true → ofNat 2 320 ++ ofNat 2 0 <+: calibration) {previous : Nat}
    (hp : previous < d.calibrationOffset) :
    Blockette.chainFrom ⟨b, .big⟩ previous
        (if d.calibration.isSome then d.calibrationOffset else 0) =
      .ok (if d.calibration.isSome then [⟨320, d.calibrationOffset⟩] else []) := by
  by_cases hm : d.calibration.isSome = true
  · have hlo : 48 ≤ d.calibrationOffset := by
      unfold calibrationOffset
      split <;> decide
    rw [if_pos hm, if_pos hm, chainFrom_at (h.calibration.of_prefix (hc hm)) hlo hp (by decide)
      (by decide), chainFrom_end]
    rfl
  · rw [if_neg hm, if_neg hm, chainFrom_end]

theorem Located.chain_timing (h : d.Located t factor multiplier count exponent calibration b)
    (hc : d.calibration.isSome = true → ofNat 2 320 ++ ofNat 2 0 <+: calibration) :
    Blockette.chainFrom ⟨b, .big⟩ 48 (if d.hasMore then 56 else 0) =
      .ok ((if d.timingQuality.isSome then [⟨1001, 56⟩] else []) ++
        if d.calibration.isSome then [⟨320, d.calibrationOffset⟩] else []) := by
  cases hq : d.timingQuality with
  | none =>
    have hoffset : d.calibrationOffset = 56 := by simp [calibrationOffset, hq]
    have hrest := h.chain_calibration hc (show 48 < d.calibrationOffset by omega)
    rw [hoffset] at hrest ⊢
    simpa [hasMore, hq] using hrest
  | some q =>
    have hoffset : d.calibrationOffset = 64 := by simp [calibrationOffset, hq]
    have hrest := h.chain_calibration hc (show 56 < d.calibrationOffset by omega)
    have htiming := h.timing
    rw [timingBlockette, hq] at htiming
    have hnext : (if d.calibration.isSome then 64 else 0) < 65536 := by split <;> decide
    have hmore : d.hasMore = true := by simp [hasMore, hq]
    rw [hoffset] at hrest ⊢
    rw [hmore, if_pos rfl, chainFrom_at htiming.left (by decide) (by decide) (by decide) hnext,
      hrest]
    rfl

theorem Located.chain (h : d.Located t factor multiplier count exponent calibration b)
    (hc : d.calibration.isSome = true → ofNat 2 320 ++ ofNat 2 0 <+: calibration) :
    Blockette.chain ⟨b, .big⟩ = .ok d.blockettes := by
  have hfirst := Fields.u16_at h.firstLink
  have hdata := h.data
  rw [dataBlockette] at hdata
  have hnext : (if d.hasMore then 56 else 0) < 65536 := by split <;> decide
  rw [Blockette.chain, Blockette.firstLinkOffset, hfirst]
  change Blockette.chainFrom ⟨b, .big⟩ 0 48 = _
  rw [chainFrom_at hdata.left (by decide) (by decide) (by decide) hnext, h.chain_timing hc]
  rfl

theorem last?_data {size : Nat} (h : 56 ≤ size) :
    Blockette.last? d.blockettes Blockette.dataKind Blockette.dataSize size = some 48 := by
  unfold Blockette.last? blockettes Blockette.dataKind Blockette.dataSize
  cases d.timingQuality <;> cases d.calibration <;> simp [h]

theorem last?_timing {size : Nat} (h : 64 ≤ size) :
    Blockette.last? d.blockettes Blockette.timingKind Blockette.timingSize size =
      if d.timingQuality.isSome then some 56 else none := by
  unfold Blockette.last? blockettes Blockette.timingKind Blockette.timingSize
  cases d.timingQuality <;> cases d.calibration <;> simp [h]

theorem last?_calibration {size : Nat} (h : 128 ≤ size) :
    Blockette.last? d.blockettes Blockette.calibrationKind Blockette.calibrationSize size =
      if d.calibration.isSome then some d.calibrationOffset else none := by
  have hfit : d.calibrationOffset + 64 ≤ size := by
    unfold calibrationOffset
    split <;> omega
  unfold Blockette.last? blockettes Blockette.calibrationKind Blockette.calibrationSize
  cases d.timingQuality <;> cases d.calibration <;> simp [hfit]

end Draft
end SeedStream
