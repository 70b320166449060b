import SeedStream.Proofs.SampleRate.Interval

/-!
# The order of intervals

The bit patterns of doubles that are not negative stand in the order of their numbers. A
faster rate has a shorter period in the same or an earlier decade, and rounding periods to
the steps of their decades keeps their order, so no rate has a shorter interval than a faster
one. From 1 Hz up nothing is rounded, and periods are at most the second that bounds the
rounded ones below.
-/

set_option autoImplicit false

namespace SeedStream

/-- The pattern of a number that is not negative counts the mantissas of all smaller exponents,
then its own. -/
structure Binary64.Encodes (x : Binary64) (m : Nat) (e : Int) : Prop where
  rank : x.rank = (e - BinaryFormat.double.leastExponent).toNat * 2 ^ 52 + m
  least : BinaryFormat.double.leastExponent ≤ e
  lt : m < 2 ^ 53
  normal : BinaryFormat.double.leastExponent < e → 2 ^ 52 ≤ m

namespace Binary64

variable {x y : Binary64} {m m' : Nat} {e e' : Int}

theorem read_eq (x : Binary64) : x.read =
    let fraction : Nat := x.bits.toNat % 2 ^ 52
    let field : Nat := x.bits.toNat / 2 ^ 52 % 2 ^ 11
    let negative : Bool := x.bits.toNat / 2 ^ 63 % 2 == 1
    if field + 1 = 2 ^ 11 then
      if fraction = 0 then .infinite negative else .nan
    else if field = 0 then .finite negative fraction (-1074)
    else .finite negative (2 ^ 52 + fraction) (-1074 + field - 1) := rfl

theorem encodes_of_read (h : x.read = .finite false m e) : x.Encodes m e := by
  have hbits := x.bits.toNat_lt
  have hleast : BinaryFormat.double.leastExponent = -1074 := by decide
  rw [read_eq] at h
  dsimp only at h
  split_ifs at h with hlast hinfinite hzero
  all_goals
    injection h with hsign hm he
    have hpositive : x.bits.toNat / 2 ^ 63 % 2 ≠ 1 := by simpa using hsign
    have hrank : x.rank = x.bits.toNat := if_pos (by omega)
    exact ⟨by omega, by omega, by omega, by omega⟩

/-- The order of patterns is the order of numbers. -/
theorem Encodes.value_le (hx : x.Encodes m e) (hy : y.Encodes m' e') (h : x.rank ≤ y.rank) :
    fractionLe (dyadic m e) (dyadic m' e') = true := by
  rw [hx.rank, hy.rank] at h
  have hleast := hx.least
  have hleast' := hy.least
  rcases Int.lt_trichotomy e e' with hlt | rfl | hgt
  · exact dyadic_le_of_exponent hlt (Nat.le_of_lt hx.lt) (hy.normal (by omega))
  · exact dyadic_le_of_mantissa (by omega)
  · have hm := hx.normal (by omega)
    have hm' := hy.lt
    omega

end Binary64

namespace SampleRate

variable {v w : Nat × Nat}

theorem Accepted.intervalOf_antitone (hv : Accepted v) (hw : Accepted w)
    (h : fractionLe v w = true) : intervalOf w ≤ intervalOf v := by
  have hmicros := hv.wholeMicros_antitone hw h
  unfold intervalOf
  by_cases hsecond : fractionLe (1, 1) v = true
  · rw [if_pos hsecond, if_pos (fractionLe_trans hv.den_pos hsecond h)]
    exact hmicros
  · have hround := hv.inDecade (fractionLe_of_not hsecond)
    rw [if_neg hsecond]
    split
    next hfast =>
      calc wholeMicros w ≤ 1000000 :=
            hw.wholeMicros_le (fractionLe_trans Nat.one_pos (by decide) hfast)
        _ ≤ roundToStep (wholeMicros v) (roundingStep (decades v)) := hround.second_le_rounded
    next hslow =>
      exact (hw.inDecade (fractionLe_of_not hslow)).rounded_mono hround hmicros
        (decades_antitone hw.den_pos h)

theorem interval_antitone {slow fast : Binary64} {i j : Int} (hi : interval slow = .ok i)
    (hj : interval fast = .ok j) (h : slow.rank ≤ fast.rank) : j ≤ i := by
  obtain ⟨m, e, hread, hslow, rfl⟩ := interval_eq_ok hi
  obtain ⟨m', e', hread', hfast, rfl⟩ := interval_eq_ok hj
  have hle := (Binary64.encodes_of_read hread).value_le (Binary64.encodes_of_read hread') h
  exact Int.ofNat_le.2 (hslow.intervalOf_antitone hfast hle)

/-- Whole microseconds in a decade are rounded to a second or more and moved by half a step at
most, and longer periods in the same or later decades are not rounded to shorter ones. Hence
slower rates never have shorter intervals. -/
theorem periods_rounded :
    (∀ q k, InDecade q k →
      1000000 ≤ roundToStep q (roundingStep k) ∧
        q ≤ roundToStep q (roundingStep k) + roundingStep k / 2 ∧
        roundToStep q (roundingStep k) ≤ q + roundingStep k / 2) ∧
    (∀ q k r l, InDecade q k → InDecade r l → q ≤ r → k ≤ l →
      roundToStep q (roundingStep k) ≤ roundToStep r (roundingStep l)) ∧
    ∀ slow fast i j, interval slow = .ok i → interval fast = .ok j →
      slow.rank ≤ fast.rank → j ≤ i :=
  ⟨fun _ k h => ⟨h.second_le_rounded, le_roundToStep_add (roundingStep_pos k),
    roundToStep_le_add⟩, fun _ _ _ _ hq hr h hk => hq.rounded_mono hr h hk,
    fun _ _ _ _ hi hj h => interval_antitone hi hj h⟩

/-- Two rates on the two sides of a decade's end. The period of the slower one is cut one unit
short of its own decade. -/
theorem periods_rounded_of_jump :
    let slow : Binary64 := ⟨0x3f847ae147ae147c⟩
    let fast : Binary64 := ⟨0x3f847ae8011c8c5a⟩
    InDecade 99999499 1 ∧ InDecade 99999999 2 ∧
      1000000 ≤ roundToStep 99999999 (roundingStep 2) ∧
      roundToStep 99999499 (roundingStep 1) ≤ roundToStep 99999999 (roundingStep 2) ∧
      interval slow = .ok 100000000 ∧ interval fast = .ok 99999000 ∧ slow.rank ≤ fast.rank ∧
      (99999000 : Int) ≤ 100000000 := by
  have hfast : InDecade 99999499 1 := ⟨by decide, by decide⟩
  have hslow : InDecade 99999999 2 := ⟨by decide, by decide⟩
  have hi : interval ⟨0x3f847ae147ae147c⟩ = .ok 100000000 := by decide +kernel
  have hj : interval ⟨0x3f847ae8011c8c5a⟩ = .ok 99999000 := by decide +kernel
  have hrank : (⟨0x3f847ae147ae147c⟩ : Binary64).rank ≤
      (⟨0x3f847ae8011c8c5a⟩ : Binary64).rank := by
    decide
  exact ⟨hfast, hslow, (periods_rounded.1 _ _ hslow).1,
    periods_rounded.2.1 _ _ _ _ hfast hslow (by decide) (by decide), hi, hj, hrank,
    periods_rounded.2.2 _ _ _ _ hi hj hrank⟩

end SampleRate
end SeedStream
