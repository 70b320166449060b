import SeedStream.Proofs.SampleRate.Decade

/-!
# The interval of an accepted rate

A period is at least one microsecond, and rounding below 1 Hz keeps it in its decade. The
longest one is a year, in the last decade, rounded to a step of 1000 s.
-/

set_option autoImplicit false

namespace SeedStream.SampleRate

theorem roundToStep_year {q : Nat} (h : q ≤ 31536499999999) :
    roundToStep q (roundingStep 7) ≤ 31536000000000 := by
  have hstep : roundingStep 7 = 1000000000 := by decide
  rw [hstep]
  unfold roundToStep
  clear hstep
  omega

namespace Accepted

variable {v : Nat × Nat}

theorem intervalOf_pos (h : Accepted v) : 0 < intervalOf v := by
  unfold intervalOf
  split
  next => exact h.le_wholeMicros (q := 1) (fractionLe_trans Nat.one_pos h.fast (by decide))
  next hslow =>
    exact Nat.lt_of_lt_of_le (by decide) (h.inDecade (fractionLe_of_not hslow)).second_le_rounded

theorem intervalOf_le (h : Accepted v) : intervalOf v ≤ 31536000000000 := by
  unfold intervalOf
  split
  next hsecond =>
    have hq : wholeMicros v ≤ 1000000 :=
      h.wholeMicros_le (fractionLe_trans Nat.one_pos (by decide) hsecond)
    exact Nat.le_trans hq (by decide)
  next hslow =>
    have hseven : decades v ≤ 7 := decades_le v
    rcases Nat.lt_or_eq_of_le hseven with hlt | heq
    · calc roundToStep (wholeMicros v) (roundingStep (decades v))
          ≤ 10 ^ (7 + decades v) := (h.inDecade (fractionLe_of_not hslow)).rounded_le
        _ ≤ 10 ^ 13 := Nat.pow_le_pow_right (by decide) (by omega)
        _ ≤ 31536000000000 := by decide
    · -- The step is 1000 s, and half of one above a year is not reached.
      rw [heq]
      apply roundToStep_year
      exact h.wholeMicros_le (fractionLe_trans (by decide) (by decide) h.slow)

end Accepted

theorem interval_eq_ok {rate : Binary64} {i : Int} (h : interval rate = .ok i) :
    ∃ m e, rate.read = .finite false m e ∧ Accepted (dyadic m e) ∧
      i = intervalOf (dyadic m e) := by
  unfold interval at h
  cases hr : rate.read with
  | nan => simp [hr] at h
  | infinite negative => simp [hr] at h
  | finite negative m e =>
    rw [hr] at h
    cases negative with
    | true => cases h
    | false =>
      dsimp only at h
      split at h
      next => cases h
      next hfast =>
        split at h
        next => cases h
        next hslow =>
          cases h
          have hden : 0 < (dyadic m e).2 := Nat.pow_pos (by decide)
          exact ⟨m, e, rfl, ⟨hden, by simpa using hfast, by simpa using hslow⟩, rfl⟩

theorem interval_pos {rate : Binary64} {i : Int} (h : interval rate = .ok i) : 0 < i := by
  obtain ⟨m, e, -, haccepted, rfl⟩ := interval_eq_ok h
  exact Int.natCast_pos.2 haccepted.intervalOf_pos

theorem interval_le {rate : Binary64} {i : Int} (h : interval rate = .ok i) :
    i ≤ 31536000000000 := by
  obtain ⟨m, e, -, haccepted, rfl⟩ := interval_eq_ok h
  exact Int.ofNat_le.2 haccepted.intervalOf_le

end SeedStream.SampleRate
