import SeedStream.Proofs.Record.Located
import SeedStream.Proofs.Text.Ascii
import SeedStream.Record.Draft

/-!
# The texts of a record

A text that fits its field is read back, since the blanks behind it are trimmed
away. An identifier consists of bytes that a header may have. The six digits of a
sequence number give the number.
-/

set_option autoImplicit false

namespace SeedStream
open Bytes

structure Fits (width : Nat) (s : String) : Prop where
  ascii : ∀ c ∈ s.toList, c.toNat < 128
  room : s.length ≤ width
  trimmed : Text.trim s = s

/-- Letters, digits and `-`, and blanks between them, that have room in a field. -/
structure Identifier (width : Nat) (s : String) : Prop where
  allowed : ∀ c ∈ s.toList, c.isAlphanum = true ∨ c = '-' ∨ c = ' '
  room : s.length ≤ width
  trimmed : Text.trim s = s

instance (width : Nat) (s : String) : Decidable (Fits width s) :=
  decidable_of_iff ((s.toList.all fun c => c.toNat < 128) = true ∧ s.length ≤ width ∧
      Text.trim s = s)
    ⟨fun h => ⟨by simpa using h.1, h.2.1, h.2.2⟩,
      fun h => ⟨by simpa using h.ascii, h.room, h.trimmed⟩⟩

instance (width : Nat) (s : String) : Decidable (Identifier width s) :=
  decidable_of_iff ((s.toList.all fun c => c.isAlphanum || c == '-' || c == ' ') = true ∧
      s.length ≤ width ∧ Text.trim s = s)
    ⟨fun h => ⟨by simpa [or_assoc] using h.1, h.2.1, h.2.2⟩,
      fun h => ⟨by simpa [or_assoc] using h.allowed, h.room, h.trimmed⟩⟩

variable {width offset n : Nat} {s : String} {b : Bytes} {order : ByteOrder}

theorem isIdentifierByte_code {c : Char} (h : c.isAlphanum = true ∨ c = '-' ∨ c = ' ') :
    c.toNat < 128 ∧ Header.isIdentifierByte (code c) = true := by
  rcases h with h | rfl | rfl
  · have hcases := isAlphanum_cases h
    have hlt : c.toNat < 128 := by omega
    refine ⟨hlt, ?_⟩
    simp only [Header.isIdentifierByte, toNat_code hlt, Bool.or_eq_true, Bool.and_eq_true,
      decide_eq_true_eq, beq_iff_eq]
    omega
  · decide
  · decide

theorem Identifier.fits (h : Identifier width s) : Fits width s where
  ascii c hc := (isIdentifierByte_code (h.allowed c hc)).1
  room := h.room
  trimmed := h.trimmed

@[simp] theorem Draft.length_textField (width : Nat) (s : String) :
    (Draft.textField width s).length = width := by
  simp [Draft.textField]

namespace Fits

theorem length_ofText (h : Fits width s) : (ofText s).length = s.length := by
  rw [ofText_ascii h.ascii, List.length_map, String.length_toList]

theorem textField_eq (h : Fits width s) : Draft.textField width s =
    (s.toList ++ List.replicate (width - s.length) ' ').map code := by
  have hle : (ofText s).length ≤ width := h.length_ofText ▸ h.room
  rw [Draft.textField, List.take_of_length_le hle, h.length_ofText, ofText_ascii h.ascii,
    List.map_append, List.map_replicate]
  rfl

theorem text_at (h : Fits width s) (ht : b.At offset (Draft.textField width s)) :
    (⟨b, order⟩ : Fields).text offset width = .ok s := by
  have hascii : ∀ c ∈ s.toList ++ List.replicate (width - s.length) ' ', c.toNat < 128 := by
    intro c hc
    rcases List.mem_append.1 hc with hc | hc
    · exact h.ascii c hc
    · rw [List.eq_of_mem_replicate hc]
      decide
  have hblank : ∀ c ∈ List.replicate (width - s.length) ' ', Text.isBlank c = true := by
    intro c hc
    rw [List.eq_of_mem_replicate hc]
    decide
  have htrim : Text.trim (Text.Utf8.lenient (Draft.textField width s)) = s := by
    rw [h.textField_eq, Text.Utf8.lenient, Text.Utf8.lenientFrom_ascii hascii, Text.trim,
      String.toList_ofList, Text.trimChars_append hblank]
    exact h.trimmed
  rw [Fields.text, Fields.slice_at ht (Draft.length_textField width s)]
  exact congrArg Except.ok htrim

theorem injective {s' : String} (h : Fits width s) (h' : Fits width s')
    (heq : Draft.textField width s = Draft.textField width s') : s = s' := by
  have hs : (⟨Draft.textField width s, .big⟩ : Fields).text 0 width = .ok s :=
    h.text_at (at_zero (List.prefix_refl _))
  have hs' : (⟨Draft.textField width s, .big⟩ : Fields).text 0 width = .ok s' :=
    h'.text_at (heq ▸ at_zero (List.prefix_refl _))
  exact Except.ok.inj (hs.symm.trans hs')

theorem empty (width : Nat) : Fits width "" where
  ascii := by simp
  room := Nat.zero_le width
  trimmed := by decide

theorem eq_empty (h : Fits width s) (hb : ∀ x ∈ Draft.textField width s, x = Header.blank) :
    s = "" := by
  apply h.injective (empty width)
  have hall : Draft.textField width s = List.replicate width Header.blank :=
    List.eq_replicate_iff.2 ⟨Draft.length_textField width s, hb⟩
  rw [hall]
  simp [Draft.textField, ofText]

end Fits

theorem Identifier.allowed_bytes (h : Identifier width s) :
    ∀ x ∈ Draft.textField width s, Header.isIdentifierByte x = true := by
  rw [h.fits.textField_eq]
  simp only [List.mem_map, List.mem_append, forall_exists_index, and_imp]
  rintro x c (hc | hc) rfl
  · exact (isIdentifierByte_code (h.allowed c hc)).2
  · rw [List.eq_of_mem_replicate hc]
    decide

theorem sequenceOf_digits {l : List Char} (h : ∀ c ∈ l, c.isDigit = true) (v : Nat) :
    Header.sequenceOf v (l.map code) = some (Nat.ofDigitChars 10 l v) := by
  induction l generalizing v with
  | nil => rfl
  | cons c l ih =>
    have hdigit : 48 ≤ c.toNat ∧ c.toNat ≤ 57 := by
      have hc := h c List.mem_cons_self
      simp only [Char.isDigit, Bool.and_eq_true, decide_eq_true_eq, ge_iff_le,
        UInt32.le_iff_toNat_le] at hc
      exact hc
    have hcode : (code c).toNat = c.toNat := toNat_code (by omega)
    rw [List.map_cons, Header.sequenceOf, hcode, if_pos hdigit,
      ih fun d hd => h d (List.mem_cons_of_mem c hd), Nat.ofDigitChars_cons, Nat.mul_comm 10]
    rfl

theorem sequenceField_eq (n : Nat) : Draft.sequenceField n =
    (List.replicate (6 - (Nat.toDigits 10 (n % 1000000)).length) '0' ++
      Nat.toDigits 10 (n % 1000000)).map code := by
  have hascii : ∀ c ∈ (Text.zeroPad 6 (n % 1000000)).toList, c.toNat < 128 := by
    rw [Text.toList_zeroPad]
    intro c hc
    rcases List.mem_append.1 hc with hc | hc
    · rw [List.eq_of_mem_replicate hc]
      decide
    · exact (isIdentifierByte_code (.inl (by
        simp [Char.isAlphanum, Nat.isDigit_of_mem_toDigits (by decide) (by decide) hc]))).1
  rw [Draft.sequenceField, ofText_ascii hascii, Text.toList_zeroPad]

@[simp] theorem length_sequenceField (n : Nat) : (Draft.sequenceField n).length = 6 := by
  have hle := Text.length_toDigits_le (show 0 < 6 by decide)
    (Nat.mod_lt n (show 0 < 10 ^ 6 by decide))
  rw [sequenceField_eq, List.length_map, List.length_append, List.length_replicate]
  exact Nat.sub_add_cancel hle

theorem sequenceOf_sequenceField (n : Nat) :
    Header.sequenceOf 0 (Draft.sequenceField n) = some (n % 1000000) := by
  rw [sequenceField_eq, sequenceOf_digits, Nat.ofDigitChars_append, Nat.ofDigitChars_replicate_zero,
    Nat.mul_zero, Nat.ofDigitChars_ten_toDigits]
  intro c hc
  rcases List.mem_append.1 hc with hc | hc
  · rw [List.eq_of_mem_replicate hc]
    decide
  · exact Nat.isDigit_of_mem_toDigits (by decide) (by decide) hc

end SeedStream
