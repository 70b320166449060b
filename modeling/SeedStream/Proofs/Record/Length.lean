import Mathlib.Algebra.Order.Ring.Nat
import Mathlib.Data.List.Basic
import SeedStream.Record.Header

/-!
# The length of a record and the signature of a heartbeat

A header that gives a length gives a power of two from 256 to 16384, whence
lengths are whole numbers of chunks. The signature of a heartbeat is in the
first chunk.
-/

set_option autoImplicit false

namespace SeedStream

@[simp] theorem throw_ne_ok {ε α : Type} {e : ε} {a : α} :
    (throw e : Except ε α) ≠ .ok a := by
  intro h
  cases h

theorem bind_eq_ok {ε α β : Type} {x : Except ε α} {f : α → Except ε β} {b : β} :
    (x >>= f) = .ok b ↔ ∃ a, x = .ok a ∧ f a = .ok b := by
  cases x with
  | error e => simp [bind, Except.bind]
  | ok a => simp [bind, Except.bind]

namespace Header

def IsLength (n : Nat) : Prop := ∃ e, 8 ≤ e ∧ e ≤ 14 ∧ n = 2 ^ e

theorem IsLength.dvd {n : Nat} (h : IsLength n) : 256 ∣ n := by
  obtain ⟨e, hlo, -, rfl⟩ := h
  exact Nat.pow_dvd_pow 2 hlo

theorem IsLength.le {n : Nat} (h : IsLength n) : 256 ≤ n := by
  obtain ⟨e, hlo, -, rfl⟩ := h
  exact Nat.pow_le_pow_right (Nat.zero_lt_succ 1) hlo

theorem IsLength.le_longest {n : Nat} (h : IsLength n) : n ≤ 16384 := by
  obtain ⟨e, -, hhi, rfl⟩ := h
  exact Nat.pow_le_pow_right (Nat.zero_lt_succ 1) hhi

theorem lengthOfExponent_eq_ok {x : UInt8} {n : Nat} :
    lengthOfExponent x = .ok n ↔ 8 ≤ x.toNat ∧ x.toNat ≤ 14 ∧ n = 2 ^ x.toNat := by
  unfold lengthOfExponent
  by_cases hx : 8 ≤ x.toNat ∧ x.toNat ≤ 14
  · simp [hx, eq_comm]
  · rw [if_neg hx]
    constructor
    · intro h
      cases h
    · intro h
      exact absurd ⟨h.1, h.2.1⟩ hx

theorem crackLength_eq_ok {b : Bytes} {n : Nat} :
    crackLength b = .ok n ↔ 48 ≤ b.length ∧ checkIdentifiers ⟨b, .big⟩ = .ok () ∧
      ∃ order, detectOrder b = .ok order ∧ ∃ blockettes,
        Blockette.chain ⟨b, order⟩ = .ok blockettes ∧
        ∃ offset, Blockette.last? blockettes Blockette.dataKind Blockette.dataSize b.length =
            some offset ∧
          ∃ x, Fields.u8 ⟨b, order⟩ (offset + 6) = .ok x ∧ lengthOfExponent x = .ok n := by
  unfold crackLength
  by_cases hshort : b.length < 48
  · simp [Blockette.fixedHeaderSize, hshort, bind_eq_ok, Nat.not_le.2 hshort]
  · simp only [Blockette.fixedHeaderSize, hshort, if_false, bind_eq_ok, Nat.not_lt.1 hshort,
      true_and]
    constructor
    · rintro ⟨⟨⟩, hids, order, horder, blockettes, hchain, h⟩
      refine ⟨hids, order, horder, blockettes, hchain, ?_⟩
      split at h
      next => exact absurd h throw_ne_ok
      next offset hlast => exact ⟨offset, hlast, bind_eq_ok.1 h⟩
    · rintro ⟨hids, order, horder, blockettes, hchain, offset, hlast, h⟩
      refine ⟨(), hids, order, horder, blockettes, hchain, ?_⟩
      rw [hlast]
      exact bind_eq_ok.2 h

theorem crackLength_isLength {b : Bytes} {n : Nat} (h : crackLength b = .ok n) : IsLength n := by
  obtain ⟨-, -, -, -, -, -, -, -, x, -, hx⟩ := crackLength_eq_ok.1 h
  obtain ⟨hlo, hhi, hn⟩ := lengthOfExponent_eq_ok.1 hx
  exact ⟨x.toNat, hlo, hhi, hn⟩

theorem isHeartbeatBytes_iff (b : Bytes) :
    isHeartbeatBytes b = true ↔ 20 ≤ b.length ∧ b.take 6 = List.replicate 6 0x30 ∧
      ((b.drop 6).take 14).all (· == blank) = true := by
  by_cases hshort : b.length < 20
  · simp [isHeartbeatBytes, heartbeatSignature, hshort, Nat.not_le.2 hshort]
  · have hlong : 20 ≤ b.length := Nat.not_lt.1 hshort
    have hfirst : b.slice? 0 6 = some (b.take 6) := by
      simp [Bytes.slice?, show 6 ≤ b.length by omega]
    have hrest : b.slice? 6 20 = some ((b.drop 6).take 14) := by
      simp [Bytes.slice?, hlong]
    simp [isHeartbeatBytes, heartbeatSignature, hshort, hlong, Fields.slice, hfirst, hrest,
      bind, Except.bind, pure, Except.pure]

theorem isHeartbeatBytes_take (b : Bytes) {n : Nat} (h : 20 ≤ n) :
    isHeartbeatBytes (b.take n) = isHeartbeatBytes b := by
  rw [Bool.eq_iff_iff, isHeartbeatBytes_iff, isHeartbeatBytes_iff, List.length_take, List.take_take,
    List.drop_take, List.take_take, Nat.min_eq_left (show 6 ≤ n by omega),
    Nat.min_eq_left (show 14 ≤ n - 6 by omega)]
  simp [h]

end Header
end SeedStream
