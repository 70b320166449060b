import Mathlib.Algebra.Order.Ring.Nat
import Mathlib.Data.List.Basic
import Mathlib.Data.List.TakeWhile
import SeedStream.Text
import SeedStream.Text.Utf8

/-!
# ASCII texts

The bytes of an ASCII text are the codes of its characters, and reading them as
UTF-8 gives the characters back. Blanks behind a text make no difference once it
is trimmed. A padded number has as many digits as asked for, if it has room.
-/

set_option autoImplicit false

namespace SeedStream

theorem isAlphanum_cases {c : Char} (h : c.isAlphanum = true) :
    (0x30 ≤ c.toNat ∧ c.toNat ≤ 0x39) ∨ (0x41 ≤ c.toNat ∧ c.toNat ≤ 0x5a) ∨
      (0x61 ≤ c.toNat ∧ c.toNat ≤ 0x7a) := by
  change ((decide (65 ≤ c.val ∧ c.val ≤ 90) ||
      (decide (97 ≤ c.val) && decide (c.val ≤ 122))) ||
    (decide (48 ≤ c.val) && decide (c.val ≤ 57))) = true at h
  simp only [Bool.or_eq_true, Bool.and_eq_true, decide_eq_true_eq, UInt32.le_iff_toNat_le] at h
  change ((65 ≤ c.toNat ∧ c.toNat ≤ 90) ∨ (97 ≤ c.toNat ∧ c.toNat ≤ 122)) ∨
    (48 ≤ c.toNat ∧ c.toNat ≤ 57) at h
  omega

def Bytes.code (c : Char) : UInt8 := UInt8.ofNat c.toNat

theorem Bytes.toNat_code {c : Char} (h : c.toNat < 128) : (Bytes.code c).toNat = c.toNat := by
  rw [Bytes.code, UInt8.toNat_ofNat', Nat.mod_eq_of_lt (Nat.lt_of_lt_of_le h (by decide))]

theorem Bytes.flatMap_encode {l : List Char} (h : ∀ c ∈ l, c.toNat < 128) :
    l.flatMap String.utf8EncodeChar = l.map Bytes.code := by
  rw [List.map_eq_flatMap]
  apply List.flatMap_congr
  intro c hc
  have hsize : c.utf8Size = 1 := by
    rw [Char.utf8Size_eq_one_iff, UInt32.le_iff_toNat_le]
    exact Nat.le_of_lt_succ (h c hc)
  rw [String.utf8EncodeChar_eq_singleton hsize]
  rfl

theorem Bytes.toList_loop (a : ByteArray) (i : Nat) (r : Bytes) :
    ByteArray.toList.loop a i r = r.reverse ++ a.data.toList.drop i := by
  fun_induction ByteArray.toList.loop a i r with
  | case1 i r hlt ih =>
    have hlen : i < a.data.toList.length := by simpa using hlt
    have hget : a.get! i = a.data.toList[i] := by
      rw [Array.getElem_toList, ← getElem!_pos a.data i (by simpa using hlt)]
      cases a
      rfl
    rw [ih, hget, List.reverse_cons, List.append_assoc, List.drop_eq_getElem_cons hlen]
    rfl
  | case2 i r hge =>
    have hlen : a.data.toList.length ≤ i := by simpa using hge
    rw [List.drop_of_length_le hlen, List.append_nil]

theorem Bytes.ofText_eq_toList (s : String) : Bytes.ofText s = s.toByteArray.data.toList := by
  rw [Bytes.ofText, String.toUTF8_eq_toByteArray, ByteArray.toList, Bytes.toList_loop]
  rfl

theorem Bytes.ofText_eq_flatMap (s : String) :
    Bytes.ofText s = s.toList.flatMap String.utf8EncodeChar := by
  have hbytes : s.toByteArray = s.toList.utf8Encode := by
    rw [← String.toByteArray_ofList, String.ofList_toList]
  rw [Bytes.ofText_eq_toList, hbytes, List.utf8Encode, List.toList_data_toByteArray]

theorem Bytes.ofText_ascii {s : String} (h : ∀ c ∈ s.toList, c.toNat < 128) :
    Bytes.ofText s = s.toList.map Bytes.code := by
  rw [Bytes.ofText_eq_flatMap, Bytes.flatMap_encode h]

namespace Text

theorem Utf8.lead_code {c : Char} (h : c.toNat < 128) : Utf8.lead (Bytes.code c) = .whole c := by
  unfold Utf8.lead
  rw [Bytes.toNat_code h, if_pos h, Char.ofNat_toNat]

theorem Utf8.lenientFrom_ascii {l : List Char} (h : ∀ c ∈ l, c.toNat < 128) :
    Utf8.lenientFrom none (l.map Bytes.code) = l := by
  induction l with
  | nil => rfl
  | cons c l ih =>
    rw [List.map_cons, Utf8.lenientFrom, Utf8.lead_code (h c List.mem_cons_self)]
    exact congrArg (c :: ·) (ih fun d hd => h d (List.mem_cons_of_mem c hd))

theorem trimChars_append {l blanks : List Char} (h : ∀ c ∈ blanks, isBlank c = true) :
    trimChars (l ++ blanks) = trimChars l := by
  have hdrop : ∀ l' : List Char, (∀ c ∈ l', isBlank c = true) → l'.dropWhile isBlank = [] :=
    fun l' hl => List.dropWhile_eq_nil_iff.2 hl
  rw [trimChars, trimChars, List.dropWhile_append]
  by_cases hl : l.dropWhile isBlank = []
  · rw [hl, hdrop blanks h]
    rfl
  · have hne : (l.dropWhile isBlank).isEmpty = false := List.isEmpty_eq_false_iff.2 hl
    have hrev : blanks.reverse.dropWhile isBlank = [] :=
      hdrop _ fun c hc => h c (List.mem_reverse.1 hc)
    rw [hne]
    simp only [Bool.false_eq_true, if_false]
    rw [List.reverse_append, List.dropWhile_append, hrev]
    rfl

theorem toList_zeroPad (width n : Nat) : (zeroPad width n).toList =
    List.replicate (width - (Nat.toDigits 10 n).length) '0' ++ Nat.toDigits 10 n := by
  have hdigits : (toString n).toList = Nat.toDigits 10 n := Nat.toList_repr
  rw [zeroPad, padLeft, String.toList_append, String.toList_ofList, hdigits,
    ← String.length_toList, hdigits]

theorem length_toDigits_le {width n : Nat} (hw : 0 < width) (h : n < 10 ^ width) :
    (Nat.toDigits 10 n).length ≤ width :=
  (Nat.length_toDigits_le_iff (by decide) hw).2 h

end Text
end SeedStream
