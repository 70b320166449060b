import SeedStream.Proofs.Record.Chain
import SeedStream.Proofs.Record.Parsing
import SeedStream.Record.Payload

/-!
# Fields in bounds

Reading a field checks that it lies in the buffer. The guards of a header see to it
that no check fails: the length of the fixed header, the room for a link, the room for
a blockette, and the length of the record. So whatever the bytes are, a fault of a header
is never a field out of bounds.
-/

set_option autoImplicit false

namespace SeedStream

variable {α β : Type}

/-- No field is asked for that does not lie in the buffer. -/
def InBounds (x : Except HeaderFault α) : Prop :=
  ∀ start stop size, x ≠ .error (.outOfBounds start stop size)

theorem inBounds_ok (a : α) : InBounds (.ok a : Except HeaderFault α) := by
  intro start stop size h
  cases h

theorem inBounds_error {e : HeaderFault}
    (h : ∀ start stop size, e ≠ .outOfBounds start stop size) :
    InBounds (.error e : Except HeaderFault α) := by
  intro start stop size he
  cases he
  exact h _ _ _ rfl

/-- The fault of a part that stays in bounds is that of a whole that does. -/
theorem InBounds.of_error {x : Except HeaderFault α} {e : HeaderFault} (hx : InBounds x)
    (h : x = .error e) : InBounds (.error e : Except HeaderFault β) :=
  inBounds_error fun start stop size he => hx start stop size (he ▸ h)

theorem inBounds_bind {x : Except HeaderFault α} {f : α → Except HeaderFault β}
    (hx : InBounds x) (hf : ∀ a, x = .ok a → InBounds (f a)) : InBounds (x >>= f) := by
  cases x with
  | error e => exact hx.of_error rfl
  | ok a => exact hf a rfl

theorem inBounds_map {x : Except HeaderFault α} {f : α → β} (hx : InBounds x) :
    InBounds (x.map f) := by
  cases x with
  | error e => exact hx.of_error rfl
  | ok a => exact inBounds_ok (f a)

namespace Fields

variable {f : Fields} {offset width : Nat}

theorem slice_inBounds (h : offset + width ≤ f.bytes.length) :
    InBounds (f.slice offset width) := by
  rw [slice, Bytes.slice?, if_pos ⟨Nat.le_add_right _ _, h⟩]
  exact inBounds_ok _

theorem word_inBounds (h : offset + width ≤ f.bytes.length) : InBounds (f.word offset width) :=
  inBounds_map (slice_inBounds h)

theorem u8_inBounds (h : offset + 1 ≤ f.bytes.length) : InBounds (f.u8 offset) :=
  inBounds_map (word_inBounds h)

theorem u16_inBounds (h : offset + 2 ≤ f.bytes.length) : InBounds (f.u16 offset) :=
  inBounds_map (word_inBounds h)

theorem i16_inBounds (h : offset + 2 ≤ f.bytes.length) : InBounds (f.i16 offset) :=
  inBounds_map (word_inBounds h)

theorem u32_inBounds (h : offset + 4 ≤ f.bytes.length) : InBounds (f.u32 offset) :=
  inBounds_map (word_inBounds h)

theorem i32_inBounds (h : offset + 4 ≤ f.bytes.length) : InBounds (f.i32 offset) :=
  inBounds_map (word_inBounds h)

theorem binary32_inBounds (h : offset + 4 ≤ f.bytes.length) : InBounds (f.binary32 offset) :=
  inBounds_map (u32_inBounds h)

theorem text_inBounds (h : offset + width ≤ f.bytes.length) : InBounds (f.text offset width) :=
  inBounds_map (slice_inBounds h)

theorem time_inBounds (h : offset + 10 ≤ f.bytes.length) : InBounds (f.time offset) :=
  inBounds_bind (u16_inBounds (by omega)) fun _ _ =>
  inBounds_bind (u16_inBounds (by omega)) fun _ _ =>
  inBounds_bind (u8_inBounds (by omega)) fun _ _ =>
  inBounds_bind (u8_inBounds (by omega)) fun _ _ =>
  inBounds_bind (u8_inBounds (by omega)) fun _ _ =>
  inBounds_bind (u16_inBounds (by omega)) fun _ _ => inBounds_ok _

theorem micros_inBounds (h : offset + 10 ≤ f.bytes.length) : InBounds (f.micros offset) := by
  refine inBounds_bind (time_inBounds h) fun t _ => ?_
  cases t.toMicros with
  | ok m => exact inBounds_ok m
  | error e => exact inBounds_error (by simp)

end Fields

namespace Blockette

variable {f : Fields} {blockettes : List Blockette} {x : Blockette}

theorem chainFrom_inBounds (f : Fields) (previous offset : Nat) :
    InBounds (chainFrom f previous offset) := by
  fun_induction chainFrom f previous offset with
  | case1 => exact inBounds_ok _
  | case2 => exact inBounds_error (by simp)
  | case3 => exact inBounds_ok _
  | case4 previous offset hz hgrow hlong kind next hnext hkind ih => exact inBounds_map ih
  | case5 previous offset hz hgrow hlong e hkind =>
    exact (Fields.u16_inBounds (by omega)).of_error hkind
  | case6 previous offset hz hgrow hlong e hnext =>
    exact (Fields.u16_inBounds (by omega)).of_error hnext

theorem chain_inBounds (h : 48 ≤ f.bytes.length) : InBounds (chain f) :=
  inBounds_bind (Fields.u16_inBounds h) fun _ _ => chainFrom_inBounds f _ _

theorem link_le_of_mem {previous offset : Nat} (h : chainFrom f previous offset = .ok blockettes)
    (hx : x ∈ blockettes) : x.offset + 4 ≤ f.bytes.length := by
  induction blockettes generalizing previous offset with
  | nil => exact absurd hx List.not_mem_nil
  | cons y ys ih =>
    rcases chainFrom_cases h with ⟨-, hnil⟩ | ⟨-, hnil⟩ |
      ⟨kind, next, rest, -, hle, -, -, hrest, hcons⟩
    · cases hnil
    · cases hnil
    · injection hcons with hy hys
      subst hy hys
      rcases List.mem_cons.1 hx with rfl | hx
      · exact hle
      · exact ih hrest hx

theorem last?_le {kind width size offset : Nat}
    (h : last? blockettes kind width size = some offset) :
    offset + width ≤ size := by
  obtain ⟨x, hx, rfl⟩ := Option.map_eq_some_iff.1 h
  have hmem := List.mem_of_getLast? hx
  have hboth := (List.mem_filter.1 hmem).2
  rw [Bool.and_eq_true, decide_eq_true_iff] at hboth
  exact hboth.2

end Blockette

namespace Header

variable {f : Fields} {blockettes : List Blockette} {offset : Nat}

theorem readSequence_inBounds (h : 48 ≤ f.bytes.length) : InBounds (readSequence f) := by
  refine inBounds_bind (Fields.slice_inBounds (by omega)) fun field _ => ?_
  cases sequenceOf 0 field with
  | none => exact inBounds_error (by simp)
  | some n => exact inBounds_ok n

theorem checkIdentifiers_inBounds (h : 48 ≤ f.bytes.length) : InBounds (checkIdentifiers f) := by
  refine inBounds_bind (readSequence_inBounds h) fun _ _ =>
    inBounds_bind (Fields.slice_inBounds (by omega)) fun fields _ => ?_
  split
  next => exact inBounds_error (by simp)
  next => exact inBounds_ok ()

theorem hasPlausibleStart_inBounds (h : 48 ≤ f.bytes.length) : InBounds (hasPlausibleStart f) :=
  inBounds_bind (Fields.u16_inBounds (by omega)) fun _ _ =>
  inBounds_bind (Fields.u16_inBounds (by omega)) fun _ _ => inBounds_ok _

theorem detectOrder_inBounds {b : Bytes} (h : 48 ≤ b.length) : InBounds (detectOrder b) := by
  refine inBounds_bind (hasPlausibleStart_inBounds h) fun big _ => ?_
  split
  next => exact inBounds_ok _
  next =>
    refine inBounds_bind (hasPlausibleStart_inBounds h) fun little _ => ?_
    split
    next => exact inBounds_ok _
    next =>
      exact inBounds_bind (Fields.slice_inBounds (show 20 + 4 ≤ b.length by omega)) fun _ _ =>
        inBounds_error (by simp)

theorem lengthOfExponent_inBounds (x : UInt8) : InBounds (lengthOfExponent x) := by
  unfold lengthOfExponent
  split
  next => exact inBounds_ok _
  next => exact inBounds_error (by simp)

theorem readDataBlockette_inBounds (h : offset + Blockette.dataSize ≤ f.bytes.length) :
    InBounds (readDataBlockette f offset) := by
  rw [Blockette.dataSize] at h
  exact inBounds_bind (Fields.u8_inBounds (by omega)) fun _ _ =>
    inBounds_bind (Fields.u8_inBounds (by omega)) fun _ _ =>
    inBounds_bind (Fields.u8_inBounds (by omega)) fun _ _ => inBounds_ok _

theorem readCalibration_inBounds (h : offset + Blockette.calibrationSize ≤ f.bytes.length) :
    InBounds (readCalibration f offset) := by
  rw [Blockette.calibrationSize] at h
  exact inBounds_bind (Fields.micros_inBounds (by omega)) fun _ _ =>
    inBounds_bind (Fields.u8_inBounds (by omega)) fun _ _ =>
    inBounds_bind (Fields.u32_inBounds (by omega)) fun _ _ =>
    inBounds_bind (Fields.binary32_inBounds (by omega)) fun _ _ =>
    inBounds_bind (Fields.text_inBounds (by omega)) fun _ _ =>
    inBounds_bind (Fields.u32_inBounds (by omega)) fun _ _ =>
    inBounds_bind (Fields.text_inBounds (by omega)) fun _ _ =>
    inBounds_bind (Fields.text_inBounds (by omega)) fun _ _ =>
    inBounds_bind (Fields.text_inBounds (by omega)) fun _ _ => inBounds_ok _

theorem findData_inBounds : InBounds (findData f blockettes) := by
  unfold findData
  split
  next => exact inBounds_error (by simp)
  next offset hlast => exact readDataBlockette_inBounds (Blockette.last?_le hlast)

theorem findTiming_inBounds : InBounds (findTiming f blockettes) := by
  unfold findTiming
  split
  next => exact inBounds_ok _
  next offset hlast =>
    have hle := Blockette.last?_le hlast
    rw [Blockette.timingSize] at hle
    exact inBounds_map (Fields.u8_inBounds (by omega))

theorem findCalibration_inBounds : InBounds (findCalibration f blockettes) := by
  unfold findCalibration
  split
  next => exact inBounds_ok _
  next offset hlast => exact inBounds_map (readCalibration_inBounds (Blockette.last?_le hlast))

theorem ofFields_inBounds (h : 48 ≤ f.bytes.length) : InBounds (ofFields f) := by
  have hwhole (length : Nat) : InBounds (checkWhole f length) := by
    unfold checkWhole
    split
    next => exact inBounds_error (by simp)
    next => exact inBounds_ok ()
  have hoffset (offset : UInt16) (length : Nat) : InBounds (checkDataOffset offset length) := by
    unfold checkDataOffset
    split
    next => exact inBounds_error (by simp)
    next => exact inBounds_ok ()
  exact inBounds_bind (readSequence_inBounds h) fun _ _ =>
    inBounds_bind (Fields.time_inBounds (by omega)) fun _ _ =>
    inBounds_bind (Fields.micros_inBounds (by omega)) fun _ _ =>
    inBounds_bind (Fields.i16_inBounds (by omega)) fun _ _ =>
    inBounds_bind (Fields.i16_inBounds (by omega)) fun _ _ =>
    inBounds_bind (Blockette.chain_inBounds h) fun _ _ =>
    inBounds_bind findData_inBounds fun _ _ =>
    inBounds_bind (lengthOfExponent_inBounds _) fun _ _ =>
    inBounds_bind (hwhole _) fun _ _ =>
    inBounds_bind (Fields.u16_inBounds (by omega)) fun _ _ =>
    inBounds_bind (hoffset _ _) fun _ _ =>
    inBounds_bind findTiming_inBounds fun _ _ =>
    inBounds_bind findCalibration_inBounds fun _ _ =>
    inBounds_bind (Fields.u8_inBounds (by omega)) fun _ _ =>
    inBounds_bind (Fields.text_inBounds (by omega)) fun _ _ =>
    inBounds_bind (Fields.text_inBounds (by omega)) fun _ _ =>
    inBounds_bind (Fields.text_inBounds (by omega)) fun _ _ =>
    inBounds_bind (Fields.text_inBounds (by omega)) fun _ _ =>
    inBounds_bind (Fields.u16_inBounds (by omega)) fun _ _ =>
    inBounds_bind (Fields.u8_inBounds (by omega)) fun _ _ =>
    inBounds_bind (Fields.u8_inBounds (by omega)) fun _ _ =>
    inBounds_bind (Fields.u8_inBounds (by omega)) fun _ _ =>
    inBounds_bind (Fields.u8_inBounds (by omega)) fun _ _ =>
    inBounds_bind (Fields.i32_inBounds (by omega)) fun _ _ =>
    inBounds_bind (Fields.u16_inBounds (by omega)) fun _ _ => inBounds_ok _

theorem parse_inBounds (b : Bytes) : InBounds (parse b) := by
  rw [parse_eq]
  unfold checkStart
  split
  next => exact inBounds_error (by simp)
  next hlong =>
    have h : 48 ≤ b.length := Nat.not_lt.1 hlong
    exact inBounds_bind (inBounds_ok ()) fun _ _ =>
      inBounds_bind (checkIdentifiers_inBounds h) fun _ _ =>
      inBounds_bind (detectOrder_inBounds h) fun _ _ => ofFields_inBounds h

theorem crackLength_inBounds (b : Bytes) : InBounds (crackLength b) := by
  unfold crackLength
  split
  next => exact inBounds_error (by simp)
  next hlong =>
    have h : 48 ≤ b.length := Nat.not_lt.1 hlong
    refine inBounds_bind (checkIdentifiers_inBounds h) fun _ _ =>
      inBounds_bind (detectOrder_inBounds h) fun _ _ =>
      inBounds_bind (Blockette.chain_inBounds h) fun _ _ => ?_
    split
    next => exact inBounds_error (by simp)
    next offset hlast =>
      have hle := Blockette.last?_le hlast
      rw [Blockette.dataSize] at hle
      exact inBounds_bind (Fields.u8_inBounds (show offset + 6 + 1 ≤ b.length by omega))
        fun _ _ => lengthOfExponent_inBounds _

theorem heartbeatSignature_ok (b : Bytes) : ∃ answer, heartbeatSignature b = .ok answer := by
  unfold heartbeatSignature
  split
  next => exact ⟨false, rfl⟩
  next hlong =>
    have hfirst : 6 ≤ b.length := by omega
    have hrest : 20 ≤ b.length := by omega
    simp [Fields.slice, Bytes.slice?, hfirst, hrest, bind, Except.bind, pure, Except.pure]

/-- The payload that a header gives lies in the record, whatever record it is applied to. -/
theorem payload_inBounds (h : Header) (record : Bytes) (start stop size : Nat) :
    h.payload record ≠ .error (.outOfBounds start stop size) := by
  unfold payload
  dsimp only
  split
  next => simp
  next =>
    split
    next => simp
    next hle =>
      have hstop : min h.length record.length ≤ record.length := Nat.min_le_right _ _
      rw [Bytes.slice?, if_pos ⟨Nat.not_lt.1 hle, hstop⟩]
      simp

end Header

theorem RawInteger.length_of_mem_words {width count : Nat} {b word : Bytes}
    (hb : count * width ≤ b.length) (h : word ∈ words width count b) : word.length = width := by
  induction count generalizing b with
  | zero => exact absurd h List.not_mem_nil
  | succ count ih =>
    rw [Nat.succ_mul] at hb
    rcases List.mem_cons.1 h with rfl | h
    · rw [List.length_take]
      omega
    · apply ih _ h
      rw [List.length_drop]
      omega

theorem RawInteger.decode_inBounds (h : Header) (payload : Bytes) (start stop size : Nat) :
    decode h payload ≠ .error (.outOfBounds start stop size) := by
  unfold decode
  dsimp only
  split
  next => simp
  next width _ =>
    split
    next => simp
    next hlong =>
      rw [Bytes.slice?, if_pos ⟨Nat.zero_le _, Nat.not_lt.1 hlong⟩]
      simp

end SeedStream
