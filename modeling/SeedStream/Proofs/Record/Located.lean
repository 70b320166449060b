import Mathlib.Algebra.Order.Ring.Nat
import Mathlib.Data.List.Basic
import Mathlib.Data.List.Induction
import Mathlib.Tactic.Ring
import SeedStream.Record.Field

/-!
# Fields at their offsets

A field lies at an offset of a buffer if as many bytes precede it. The parts of
a field lie one behind the other, so the offsets of all fields of a record follow
from the order in which they were written. Reading a field gives what was
written.
-/

set_option autoImplicit false

namespace SeedStream

namespace Bytes

def At (b : Bytes) (offset : Nat) (field : Bytes) : Prop :=
  ∃ front back, b = front ++ (field ++ back) ∧ front.length = offset

variable {b x y : Bytes} {n : Nat}

theorem at_zero (h : x <+: b) : b.At 0 x := by
  obtain ⟨back, rfl⟩ := h
  exact ⟨[], back, rfl, rfl⟩

theorem At.left (h : b.At n (x ++ y)) : b.At n x := by
  obtain ⟨front, back, rfl, hn⟩ := h
  exact ⟨front, y ++ back, by simp, hn⟩

theorem At.right (h : b.At n (x ++ y)) : b.At (n + x.length) y := by
  obtain ⟨front, back, rfl, rfl⟩ := h
  exact ⟨front ++ x, back, by simp, by simp⟩

theorem At.of_prefix (h : b.At n x) (hp : y <+: x) : b.At n y := by
  obtain ⟨z, rfl⟩ := hp
  exact h.left

theorem At.le (h : b.At n x) : n + x.length ≤ b.length := by
  obtain ⟨front, back, rfl, rfl⟩ := h
  simp only [List.length_append]
  omega

theorem At.slice? (h : b.At n x) : b.slice? n (n + x.length) = some x := by
  have hle := h.le
  obtain ⟨front, back, rfl, rfl⟩ := h
  rw [Bytes.slice?, if_pos ⟨Nat.le_add_right _ _, hle⟩, List.drop_left, Nat.add_sub_cancel_left,
    List.take_left]

theorem At.getElem? {y : UInt8} (h : b.At n [y]) : b[n]? = some y := by
  obtain ⟨front, back, rfl, rfl⟩ := h
  simp

theorem At.forall_mem {start width : Nat} {p : UInt8 → Prop} (h : b.At n x)
    (hp : ∀ y ∈ (b.drop start).take width, p y) (hlo : start ≤ n)
    (hhi : n + x.length ≤ start + width) :
    ∀ y ∈ x, p y := by
  obtain ⟨front, back, rfl, rfl⟩ := h
  intro y hy
  apply hp
  rw [List.drop_append_of_le_length hlo, List.take_append, List.take_append]
  apply List.mem_append_right
  apply List.mem_append_left
  rw [List.take_of_length_le]
  · exact hy
  · rw [List.length_drop]
    omega

@[simp] theorem length_ofNat (width n : Nat) : (ofNat width n).length = width := by
  induction width generalizing n with
  | zero => rfl
  | succ width ih => simp [ofNat, ih]

theorem value_concat (b : Bytes) (x : UInt8) : value (b ++ [x]) = value b * 256 + x.toNat := by
  rw [value, List.foldl_append]
  rfl

theorem value_ofNat (width n : Nat) : value (ofNat width n) = n % 256 ^ width := by
  induction width generalizing n with
  | zero => simp [ofNat, value, Nat.mod_one]
  | succ width ih =>
    have hbyte : (UInt8.ofNat n).toNat = n % 256 := UInt8.toNat_ofNat'
    have hsplit : n % 256 ^ (width + 1) = n % 256 + 256 * (n / 256 % 256 ^ width) := by
      rw [Nat.pow_succ, Nat.mul_comm, Nat.mod_mul]
    rw [ofNat, value_concat, ih, hbyte, hsplit]
    omega

theorem value_lt (b : Bytes) : value b < 256 ^ b.length := by
  induction b using List.reverseRecOn with
  | nil => exact Nat.zero_lt_succ 0
  | append_singleton b x ih =>
    have hx := x.toNat_lt
    rw [value_concat, List.length_append, List.length_singleton, Nat.pow_succ]
    omega

theorem ofNat_value (b : Bytes) : ofNat b.length (value b) = b := by
  induction b using List.reverseRecOn with
  | nil => rfl
  | append_singleton b x ih =>
    have hx := x.toNat_lt
    have hlast : UInt8.ofNat (value b * 256 + x.toNat) = x := by
      rw [← UInt8.toNat_inj, UInt8.toNat_ofNat']
      omega
    have hrest : (value b * 256 + x.toNat) / 256 = value b := by omega
    rw [List.length_append, List.length_singleton, ofNat, value_concat, hlast, hrest, ih]

end Bytes

namespace Fields
open Bytes

variable {b x : Bytes} {offset n : Nat} {order : ByteOrder}

theorem slice_at (h : b.At offset x) {width : Nat} (hw : x.length = width) :
    (⟨b, order⟩ : Fields).slice offset width = .ok x := by
  subst hw
  rw [slice, h.slice?]

theorem word_at {width : Nat} (h : b.At offset (ofNat width n)) :
    (⟨b, .big⟩ : Fields).word offset width = .ok (n % 256 ^ width) := by
  rw [word, slice_at h (length_ofNat width n)]
  exact congrArg Except.ok (value_ofNat width n)

theorem u8_at {x : UInt8} (h : b.At offset [x]) : (⟨b, order⟩ : Fields).u8 offset = .ok x := by
  have hslice : (⟨b, order⟩ : Fields).slice offset 1 = .ok [x] := slice_at h rfl
  rw [u8, word, hslice]
  cases order <;> simp [Except.map, ByteOrder.read, value]

theorem u16_at (h : b.At offset (ofNat 2 n)) :
    (⟨b, .big⟩ : Fields).u16 offset = .ok (UInt16.ofNat n) := by
  rw [u16, word_at h]
  exact congrArg Except.ok UInt16.ofNat_mod_size

theorem i16_at {v : Int16} (h : b.At offset (ofNat 2 v.toUInt16.toNat)) :
    (⟨b, .big⟩ : Fields).i16 offset = .ok v := by
  have hlt : v.toUInt16.toNat < 256 ^ 2 := v.toUInt16.toNat_lt
  have hsame : Int16.ofNat (v.toUInt16.toNat % 256 ^ 2) = v := by
    rw [Nat.mod_eq_of_lt hlt]
    apply Int16.toBitVec_inj.1
    simp [Int16.ofNat]
  rw [i16, word_at h]
  exact congrArg Except.ok hsame

theorem u32_at (h : b.At offset (ofNat 4 n)) :
    (⟨b, .big⟩ : Fields).u32 offset = .ok (UInt32.ofNat n) := by
  rw [u32, word_at h]
  exact congrArg Except.ok UInt32.ofNat_mod_size

theorem i32_at (h : b.At offset (ofNat 4 n)) :
    (⟨b, .big⟩ : Fields).i32 offset = .ok (Int32.ofNat n) := by
  have hsame : Int32.ofNat (n % 256 ^ 4) = Int32.ofNat n := by
    apply Int32.toBitVec_inj.1
    exact BitVec.eq_of_toNat_eq (Nat.mod_mod n (256 ^ 4))
  rw [i32, word_at h]
  exact congrArg Except.ok hsame

theorem binary32_at {v : Binary32} (h : b.At offset (ofNat 4 v.bits.toNat)) :
    (⟨b, .big⟩ : Fields).binary32 offset = .ok v := by
  rw [binary32, u32_at h, UInt32.ofNat_toNat]
  rfl

end Fields
end SeedStream
