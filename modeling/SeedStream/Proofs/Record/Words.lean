import Mathlib.Data.Int.Basic
import SeedStream.Proofs.Record.Located
import SeedStream.Record.Payload

/-!
# Samples as words

Two or four bytes hold a sample in two's complement, in either byte order. The samples
of a record are read back from their words, and the words are those of the samples.
-/

set_option autoImplicit false

namespace SeedStream

namespace ByteOrder

@[simp] theorem length_write (order : ByteOrder) (width n : Nat) :
    (order.write width n).length = width := by
  cases order <;> simp [write]

theorem read_write (order : ByteOrder) (width n : Nat) :
    order.read (order.write width n) = n % 256 ^ width := by
  cases order with
  | big => exact Bytes.value_ofNat width n
  | little =>
    rw [read, write, List.reverse_reverse]
    exact Bytes.value_ofNat width n

theorem read_lt (order : ByteOrder) (b : Bytes) : order.read b < 256 ^ b.length := by
  cases order with
  | big => exact Bytes.value_lt b
  | little =>
    rw [read, ← List.length_reverse]
    exact Bytes.value_lt b.reverse

theorem write_read (order : ByteOrder) (b : Bytes) : order.write b.length (order.read b) = b := by
  cases order with
  | big => exact Bytes.ofNat_value b
  | little => rw [read, write, ← List.length_reverse, Bytes.ofNat_value, List.reverse_reverse]

end ByteOrder

namespace RawInteger

variable {order : ByteOrder} {width : Nat}

theorem length_encode (samples : List Int32) :
    (encode order width samples).length = samples.length * width := by
  induction samples with
  | nil => simp [encode]
  | cons x samples ih =>
    rw [encode] at ih
    rw [encode, List.flatMap_cons, List.length_append, ih, ByteOrder.length_write, List.length_cons,
      Nat.succ_mul, Nat.add_comm]

@[simp] theorem length_words (width count : Nat) (b : Bytes) :
    (words width count b).length = count := by
  induction count generalizing b with
  | zero => rfl
  | succ count ih => rw [words, List.length_cons, ih]

def Encodes (code : UInt8) (width : Nat) : Prop := code = 1 ∧ width = 2 ∨ code = 3 ∧ width = 4

theorem width?_eq_some {code : UInt8} : width? code = some width ↔ Encodes code width := by
  unfold width? Encodes
  by_cases hone : code = 1
  · simp [hone, eq_comm]
  · simp [hone, eq_comm]

theorem Encodes.width_eq {code : UInt8} (h : Encodes code width) : width = 2 ∨ width = 4 :=
  h.imp And.right And.right

theorem decode_eq_ok {h : Header} {payload : Bytes} {samples : List Int32} :
    decode h payload = .ok samples ↔ ∃ width, Encodes h.encoding width ∧
      h.sampleCount.toNat * width ≤ payload.length ∧
      samples = (words width h.sampleCount.toNat (payload.take (h.sampleCount.toNat * width))).map
        (sample h.wordOrder width) := by
  simp only [← width?_eq_some]
  unfold decode
  cases hwidth : width? h.encoding with
  | none => simp
  | some width =>
    by_cases hshort : payload.length < h.sampleCount.toNat * width
    · simp [hshort, Nat.not_le.2 hshort]
    · have hlong : h.sampleCount.toNat * width ≤ payload.length := Nat.not_lt.1 hshort
      simp [hshort, hlong, Bytes.slice?, eq_comm]

theorem decode_length {h : Header} {payload : Bytes} {xs : List Int32}
    (hx : decode h payload = .ok xs) : xs.length = h.sampleCount.toNat := by
  obtain ⟨width, -, -, rfl⟩ := decode_eq_ok.1 hx
  rw [List.length_map, length_words]

theorem words_encode (samples : List Int32) :
    words width samples.length (encode order width samples) =
      samples.map fun x => order.write width (x.toInt.emod (Nat.pow 256 width)).toNat := by
  induction samples with
  | nil => rfl
  | cons x samples ih =>
    rw [encode] at ih
    rw [encode, List.flatMap_cons, List.length_cons, words, List.take_left' (by simp),
      List.drop_left' (by simp), ih, List.map_cons]

/-- A number that has room in `width` bytes in two's complement. -/
def HasRoom (width : Nat) (x : Int32) : Prop :=
  -(Nat.pow 2 (8 * width - 1) : Int) ≤ x.toInt ∧ x.toInt < Nat.pow 2 (8 * width - 1)

instance (width : Nat) (x : Int32) : Decidable (HasRoom width x) :=
  inferInstanceAs (Decidable (_ ∧ _))

theorem hasRoom_four (x : Int32) : HasRoom 4 x := ⟨x.le_toInt, x.toInt_lt⟩

theorem hasRoom_iff (hw : width = 2 ∨ width = 4) {x : Int32} : HasRoom width x ↔
    -((256 ^ width : Nat) : Int) ≤ x.toInt * 2 ∧ x.toInt * 2 < (256 ^ width : Nat) := by
  unfold HasRoom
  rcases hw with rfl | rfl <;>
    simp only [Nat.pow_eq, Nat.reducePow, Nat.reduceMul, Nat.reduceSub] <;> omega

theorem bmod_bounds (hw : width = 2 ∨ width = 4) (n : Int) :
    -((256 ^ width : Nat) : Int) ≤ n.bmod (256 ^ width) * 2 ∧
      n.bmod (256 ^ width) * 2 < (256 ^ width : Nat) := by
  have hpos : 0 < 256 ^ width := Nat.pow_pos (Nat.zero_lt_succ 255)
  have heven : 256 ^ width % 2 = 0 := by rcases hw with rfl | rfl <;> rfl
  have hlo : -(((256 ^ width : Nat) : Int) / 2) ≤ n.bmod (256 ^ width) := Int.le_bmod hpos
  have hhi : n.bmod (256 ^ width) < (((256 ^ width : Nat) : Int) + 1) / 2 := Int.bmod_lt hpos
  omega

theorem toInt_sample (hw : width = 2 ∨ width = 4) (word : Bytes) :
    (sample order width word).toInt = Int.bmod (order.read word) (256 ^ width) := by
  have hsize : 256 ^ width ≤ Int32.size := by rcases hw with rfl | rfl <;> decide
  obtain ⟨hlo, hhi⟩ := bmod_bounds hw (order.read word)
  rw [sample, Int32.toInt_ofInt]
  apply Int.bmod_eq_of_le_mul_two
  · exact (Int.neg_le_neg (Int.ofNat_le.2 hsize)).trans hlo
  · exact hhi.trans_le (Int.ofNat_le.2 hsize)

theorem sample_hasRoom (hw : width = 2 ∨ width = 4) (word : Bytes) :
    HasRoom width (sample order width word) := by
  rw [hasRoom_iff hw, toInt_sample hw]
  exact bmod_bounds hw _

theorem write_sample (hw : width = 2 ∨ width = 4) {word : Bytes} (hlen : word.length = width) :
    order.write width ((sample order width word).toInt.emod (Nat.pow 256 width)).toNat = word := by
  have hread : order.read word < 256 ^ width := hlen ▸ order.read_lt word
  have hvalue : (sample order width word).toInt.emod (Nat.pow 256 width) = order.read word := by
    rw [toInt_sample hw]
    exact Int.bmod_emod.trans (Int.emod_eq_of_lt (Int.natCast_nonneg _) (Int.ofNat_lt.2 hread))
  rw [hvalue, Int.toNat_natCast, ← hlen, order.write_read]

theorem sample_write (hw : width = 2 ∨ width = 4) {x : Int32} (hx : HasRoom width x) :
    sample order width (order.write width (x.toInt.emod (Nat.pow 256 width)).toNat) = x := by
  have hpos : ((256 ^ width : Nat) : Int) ≠ 0 := by rcases hw with rfl | rfl <;> decide
  have hword : (order.read (order.write width (x.toInt.emod (Nat.pow 256 width)).toNat) : Int) =
      x.toInt % (256 ^ width : Nat) := by
    have hnat : ((x.toInt.emod (Nat.pow 256 width)).toNat : Int) = x.toInt % (256 ^ width : Nat) :=
      Int.toNat_of_nonneg (Int.emod_nonneg _ hpos)
    rw [ByteOrder.read_write, Int.natCast_emod, hnat, Int.emod_emod]
  have hroom := (hasRoom_iff hw).1 hx
  have hnumber : Int.bmod (x.toInt % (256 ^ width : Nat)) (256 ^ width) = x.toInt := by
    rw [Int.emod_bmod]
    exact Int.bmod_eq_of_le_mul_two hroom.1 hroom.2
  rw [sample, hword]
  exact (congrArg Int32.ofInt hnumber).trans x.ofInt_toInt

theorem decode_encode {h : Header} {samples : List Int32} (hencoding : Encodes h.encoding width)
    (hroom : ∀ x ∈ samples, HasRoom width x) (horder : h.wordOrder = order)
    (hcount : h.sampleCount.toNat = samples.length) {rest : Bytes} :
    decode h (encode order width samples ++ rest) = .ok samples := by
  have hlen : (encode order width samples).length = samples.length * width := length_encode samples
  have hfit : ¬ (encode order width samples ++ rest).length < samples.length * width := by
    rw [List.length_append, hlen]
    omega
  have hslice : (encode order width samples ++ rest).slice? 0 (samples.length * width) =
      some (encode order width samples) := by
    have hat : Bytes.At (encode order width samples ++ rest) 0 (encode order width samples) :=
      Bytes.at_zero (List.prefix_append _ _)
    have := hat.slice?
    rwa [Nat.zero_add, hlen] at this
  have hsamples : samples.map (fun x => sample order width
      (order.write width (x.toInt.emod (Nat.pow 256 width)).toNat)) = samples := by
    rw [List.map_congr_left fun x hx => sample_write hencoding.width_eq (hroom x hx), List.map_id']
  have hwidth : width? h.encoding = some width := width?_eq_some.2 hencoding
  simp only [decode, hwidth, hcount, if_neg hfit, hslice, words_encode, List.map_map, horder]
  exact congrArg Except.ok hsamples

end RawInteger
end SeedStream
