import Mathlib.Data.List.Basic
import SeedStream.Framing.Reader

/-!
# Where a reader stops

A reader delivers something at every call, unless the call is interrupted, until it
stops: it fails, or says that the input has ended, at a position or behind the last
byte. Filling gets the next bytes, as many as are wanted and there are up to the stop,
however they are cut into bursts. A steady reader stops behind the last byte.
-/

set_option autoImplicit false

namespace SeedStream

inductive Stop
  | exhausted
  | failure
  /-- A call says that the input has ended, whether or not more follows. -/
  | pause
deriving DecidableEq, Repr

namespace Stop

/-- How an attempt to get bytes beyond the stop comes out. -/
def outcome : Stop → FillEnd
  | .failure => .failed
  | .exhausted | .pause => .ended

def failAt (s : Stop) (position : Nat) : Option Nat :=
  if s = .failure then some position else none

def pauseAt (s : Stop) (position : Nat) : Option Nat :=
  if s = .pause then some position else none

end Stop

namespace Reader

/-- The reader stops when it has delivered `n` more bytes. -/
structure Stops (r : Reader) (n : Nat) (s : Stop) : Prop where
  failAt : r.failAt = s.failAt (r.position + n)
  pauseAt : r.pauseAt = s.pauseAt (r.position + n)
  within : n ≤ r.rest.length
  last : s = .exhausted → n = r.rest.length
  burst : r.rest ≠ [] → ∀ m, 0 < r.burst m

variable {r r' : Reader} {want n : Nat} {s : Stop}

theorem Stops.reached_failAt (h : r.Stops n s) :
    r.reached r.failAt = true ↔ s = .failure ∧ n = 0 := by
  rw [h.failAt, Stop.failAt]
  by_cases hs : s = .failure
  · have hzero : r.position + n ≤ r.position ↔ n = 0 := by omega
    simp [hs, reached, hzero]
  · simp [hs, reached]

theorem Stops.reached_pauseAt (h : r.Stops n s) :
    r.reached r.pauseAt = true ↔ s = .pause ∧ n = 0 := by
  rw [h.pauseAt, Stop.pauseAt]
  by_cases hs : s = .pause
  · have hzero : r.position + n ≤ r.position ↔ n = 0 := by omega
    simp [hs, reached, hzero]
  · simp [hs, reached]

theorem upTo_ahead {mark : Option Nat} {m : Nat} (hm : 0 < m) (h : ¬ r.reached mark = true) :
    0 < r.upTo mark m := by
  cases mark with
  | none => exact hm
  | some p =>
    have hp : ¬ p ≤ r.position := by simpa [reached] using h
    simp only [upTo]
    omega

theorem portion_pos (hw : want ≠ 0) (hb : 0 < r.burst r.position)
    (hi : ¬ r.reached r.interrupts.head? = true) (hf : ¬ r.reached r.failAt = true)
    (hp : ¬ r.reached r.pauseAt = true) : 0 < r.portion want :=
  upTo_ahead (upTo_ahead (upTo_ahead (by omega) hi) hf) hp

theorem Stops.portion_le (h : r.Stops n s) (want : Nat) :
    min (r.portion want) r.rest.length ≤ n := by
  cases s with
  | exhausted =>
    rw [h.last rfl]
    exact Nat.min_le_right _ _
  | failure =>
    have hcut : ∀ m, r.upTo r.failAt m ≤ n := fun m => by
      simp only [h.failAt, Stop.failAt, if_true, upTo]
      omega
    have hle : r.portion want ≤ n := Nat.le_trans (upTo_le r _ _) (hcut _)
    omega
  | pause =>
    have hcut : ∀ m, r.upTo r.pauseAt m ≤ n := fun m => by
      simp only [h.pauseAt, Stop.pauseAt, if_true, upTo]
      omega
    have hle : r.portion want ≤ n := hcut _
    omega

/-- What a call does: it is interrupted, or finds the reader at its stop, or delivers some of
the bytes up to the stop. -/
theorem Stops.read_cases (h : r.Stops n s) (hw : want ≠ 0) :
    (∃ r', r.read want = .interrupted r' ∧ r'.Stops n s) ∨
    (n = 0 ∧ s.outcome = .failed ∧ r.read want = .failed r) ∨
    (n = 0 ∧ s.outcome = .ended ∧ ∃ r', r.read want = .ended r') ∨
    ∃ b r', r.read want = .delivered b r' ∧ b.length ≤ n ∧ r'.Stops (n - b.length) s := by
  unfold read
  by_cases hi : r.reached r.interrupts.head? = true
  · rw [if_pos hi]
    exact .inl ⟨_, rfl, h.failAt, h.pauseAt, h.within, h.last, h.burst⟩
  rw [if_neg hi]
  by_cases hf : r.reached r.failAt = true
  · obtain ⟨rfl, hn⟩ := h.reached_failAt.1 hf
    rw [if_pos hf]
    exact .inr (.inl ⟨hn, rfl, rfl⟩)
  rw [if_neg hf]
  by_cases hp : r.reached r.pauseAt = true
  · obtain ⟨rfl, hn⟩ := h.reached_pauseAt.1 hp
    rw [if_pos hp]
    exact .inr (.inr (.inl ⟨hn, rfl, _, rfl⟩))
  rw [if_neg hp]
  by_cases hr : r.rest = []
  · have hn : n = 0 := by
      have hle := h.within
      rw [hr] at hle
      exact Nat.le_zero.1 hle
    have hs : s.outcome = .ended := by
      cases s with
      | exhausted | pause => rfl
      | failure => exact absurd (h.reached_failAt.2 ⟨rfl, hn⟩) hf
    simp only [hr, List.take_nil, List.isEmpty_nil, if_true]
    exact .inr (.inr (.inl ⟨hn, hs, _, rfl⟩))
  · have hpos := portion_pos hw (h.burst hr _) hi hf hp
    have hle := h.portion_le want
    have hne : (r.rest.take (r.portion want)).isEmpty = false := by
      rw [List.isEmpty_eq_false_iff, ne_eq, List.take_eq_nil_iff]
      simp only [hr, or_false]
      omega
    have hwithin := h.within
    have hlast := h.last
    have hposition : r.position + min (r.portion want) r.rest.length +
        (n - min (r.portion want) r.rest.length) = r.position + n := by omega
    simp only [hne, Bool.false_eq_true, if_false]
    refine .inr (.inr (.inr ⟨_, _, rfl, ?_, ?_, ?_, ?_, ?_, fun _ => h.burst hr⟩))
    · rwa [List.length_take]
    · rw [List.length_take, hposition]
      exact h.failAt
    · rw [List.length_take, hposition]
      exact h.pauseAt
    · rw [List.length_take, List.length_drop]
      omega
    · intro hs
      rw [List.length_take, List.length_drop, hlast hs]
      omega

theorem Stops.fill (h : r.Stops n s) (want : Nat) :
    (r.fill want).got = r.rest.take (min want n) ∧
      (r.fill want).outcome = (if want ≤ n then .complete else s.outcome) ∧
      (want ≤ n → (r.fill want).reader.Stops (n - want) s) := by
  -- At each call one of the four cases is the call at hand.
  fun_induction Reader.fill r want generalizing n with
  | case1 r => simp [h]
  | case2 r want hw r' hread ih =>
    obtain ⟨r₁, hr, hnext⟩ | ⟨-, -, hr⟩ | ⟨-, -, r₁, hr⟩ | ⟨b, r₁, hr, -⟩ :=
      h.read_cases hw <;>
      cases hread.symm.trans hr
    rw [← (rest_of_interrupted hread).1]
    exact ih hnext
  | case3 r want hw r' hread =>
    obtain ⟨r₁, hr, -⟩ | ⟨hn, hs, hr⟩ | ⟨-, -, r₁, hr⟩ | ⟨b, r₁, hr, -⟩ :=
      h.read_cases hw <;>
      cases hread.symm.trans hr
    simp [hn, hs, hw]
  | case4 r want hw r' hread =>
    obtain ⟨r₁, hr, -⟩ | ⟨-, -, hr⟩ | ⟨hn, hs, r₁, hr⟩ | ⟨b, r₁, hr, -⟩ :=
      h.read_cases hw <;>
      cases hread.symm.trans hr
    simp [hn, hs, hw]
  | case5 r want hw b r' hread f =>
    rename_i ih
    obtain ⟨r₁, hr, -⟩ | ⟨-, -, hr⟩ | ⟨-, -, r₁, hr⟩ |
        ⟨b₁, r₁, hr, hle, hnext⟩ :=
      h.read_cases hw <;> cases hread.symm.trans hr
    obtain ⟨hrest, -, hshort, -⟩ := rest_of_delivered hread
    obtain ⟨hgot, hend, hstops⟩ := ih hnext
    refine ⟨?_, ?_, fun hwant => ?_⟩
    · rw [← hrest, List.take_append, List.take_of_length_le (by omega),
        show min want n - b.length = min (want - b.length) (n - b.length) by omega]
      exact congrArg (b ++ ·) hgot
    · exact hend.trans (if_congr (by omega) rfl rfl)
    · rw [show n - want = n - b.length - (want - b.length) by omega]
      exact hstops (by omega)

structure Steady (r : Reader) : Prop where
  failAt : r.failAt = none
  pauseAt : r.pauseAt = none
  burst : r.rest ≠ [] → ∀ n, 0 < r.burst n

theorem plain_steady (b : Bytes) : (plain b).Steady where
  failAt := rfl
  pauseAt := rfl
  burst h _ := List.length_pos_iff.2 h

theorem Steady.stops (h : r.Steady) : r.Stops r.rest.length .exhausted :=
  ⟨h.failAt, h.pauseAt, Nat.le_refl _, fun _ => rfl, h.burst⟩

theorem Stops.steady (h : r.Stops n .exhausted) : r.Steady :=
  ⟨h.failAt, h.pauseAt, h.burst⟩

theorem Steady.fill (h : r.Steady) (want : Nat) :
    (r.fill want).got = r.rest.take want ∧ (r.fill want).reader.rest = r.rest.drop want ∧
      (want ≤ r.rest.length → (r.fill want).reader.Steady) ∧
      (r.fill want).outcome = if want ≤ r.rest.length then .complete else .ended := by
  obtain ⟨hgot, hend, hstops⟩ := h.stops.fill want
  have htake : r.rest.take (min want r.rest.length) = r.rest.take want := by
    rw [← List.take_take, List.take_length]
  have hall := r.fill_append want
  rw [hgot, htake] at hall
  refine ⟨hgot.trans htake, ?_, fun hle => (hstops hle).steady, hend⟩
  exact List.append_cancel_left (hall.trans (List.take_append_drop want r.rest).symm)

end Reader
end SeedStream
