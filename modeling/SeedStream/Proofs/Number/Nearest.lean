import Mathlib.Algebra.Order.Ring.Nat
import SeedStream.SampleRate

/-!
# Rounding to doubles keeps the order

The exponent of a fraction is settled by the two powers of two around it, so a larger
fraction has at least the exponent of a smaller one. With equal exponents the mantissas are
rounded on one grid, and a larger exponent outweighs any mantissas. Hence the nearest doubles
of two fractions, and the whole parts of those, stand in the order of the fractions.
-/

set_option autoImplicit false

namespace SeedStream

variable {n d n' d' m m' : Nat} {e e' t t' : Int} {u v w : Nat × Nat}

/-! ## The order of fractions -/

theorem fractionLe_trans (hv : 0 < v.2) (huv : fractionLe u v = true)
    (hvw : fractionLe v w = true) : fractionLe u w = true := by
  replace huv : u.1 * v.2 ≤ v.1 * u.2 := of_decide_eq_true huv
  replace hvw : v.1 * w.2 ≤ w.1 * v.2 := of_decide_eq_true hvw
  apply decide_eq_true
  apply Nat.le_of_mul_le_mul_right _ hv
  calc u.1 * w.2 * v.2 = u.1 * v.2 * w.2 := Nat.mul_right_comm _ _ _
    _ ≤ v.1 * u.2 * w.2 := Nat.mul_le_mul_right _ huv
    _ = v.1 * w.2 * u.2 := Nat.mul_right_comm _ _ _
    _ ≤ w.1 * v.2 * u.2 := Nat.mul_le_mul_right _ hvw
    _ = w.1 * u.2 * v.2 := Nat.mul_right_comm _ _ _

theorem fractionLe_of_not (h : ¬ fractionLe u v = true) : fractionLe v u = true :=
  decide_eq_true (Nat.le_of_not_le fun hle => h (decide_eq_true hle))

theorem div_le_div_of_fractionLe (hu : 0 < u.2) (hv : 0 < v.2) (h : fractionLe u v = true) :
    u.1 / u.2 ≤ v.1 / v.2 := by
  replace h : u.1 * v.2 ≤ v.1 * u.2 := of_decide_eq_true h
  rw [Nat.le_div_iff_mul_le hv]
  apply Nat.le_of_mul_le_mul_right _ hu
  calc u.1 / u.2 * v.2 * u.2 = u.1 / u.2 * u.2 * v.2 := Nat.mul_right_comm _ _ _
    _ ≤ u.1 * v.2 := Nat.mul_le_mul_right _ (Nat.div_mul_le_self _ _)
    _ ≤ v.1 * u.2 := h

theorem dyadic_le_of_mantissa (h : m ≤ m') : fractionLe (dyadic m e) (dyadic m' e) = true :=
  decide_eq_true (Nat.mul_le_mul_right _ (Nat.mul_le_mul_right _ h))

theorem dyadic_le_of_exponent (he : e < e') (hm : m ≤ 2 ^ 53) (hm' : 2 ^ 52 ≤ m') :
    fractionLe (dyadic m e) (dyadic m' e') = true := by
  apply decide_eq_true
  show m * 2 ^ e.toNat * 2 ^ (-e').toNat ≤ m' * 2 ^ e'.toNat * 2 ^ (-e).toNat
  calc m * 2 ^ e.toNat * 2 ^ (-e').toNat
      ≤ 2 ^ 53 * 2 ^ e.toNat * 2 ^ (-e').toNat :=
        Nat.mul_le_mul_right _ (Nat.mul_le_mul_right _ hm)
    _ = 2 ^ (53 + e.toNat + (-e').toNat) := by rw [Nat.pow_add, Nat.pow_add]
    _ ≤ 2 ^ (52 + e'.toNat + (-e).toNat) := Nat.pow_le_pow_right Nat.two_pos (by omega)
    _ = 2 ^ 52 * 2 ^ e'.toNat * 2 ^ (-e).toNat := by rw [Nat.pow_add, Nat.pow_add]
    _ ≤ m' * 2 ^ e'.toNat * 2 ^ (-e).toNat :=
        Nat.mul_le_mul_right _ (Nat.mul_le_mul_right _ hm')

/-! ## Rounding to whole numbers -/

/-- The quotients that are rounded to at most `m` are those below the half behind it, and
that half itself if `m` is even. -/
theorem roundHalfEven_le_iff (hd : 0 < d) : roundHalfEven n d ≤ m ↔
    2 * n < (2 * m + 1) * d ∨ 2 * n = (2 * m + 1) * d ∧ m % 2 = 0 := by
  have hsplit := Nat.div_add_mod n d
  have hrest := Nat.mod_lt n hd
  have hvalue : roundHalfEven n d = if 2 * (n % d) < d then n / d
      else if d < 2 * (n % d) then n / d + 1 else n / d + n / d % 2 := rfl
  rw [hvalue, Nat.add_mul, Nat.mul_assoc, Nat.one_mul]
  -- The remainder decides only if the whole part is `m` itself.
  rcases Nat.lt_trichotomy m (n / d) with hlt | rfl | hgt
  · have hscaled := Nat.mul_le_mul_left d (Nat.succ_le_of_lt hlt)
    rw [Nat.mul_succ, Nat.mul_comm d m] at hscaled
    split_ifs <;> omega
  · rw [Nat.mul_comm] at hsplit
    split_ifs <;> omega
  · have hscaled := Nat.mul_le_mul_left d (Nat.succ_le_of_lt hgt)
    rw [Nat.mul_succ, Nat.mul_comm d m] at hscaled
    split_ifs <;> omega

theorem roundHalfEven_mono (hd : 0 < d) (hd' : 0 < d') (h : n * d' ≤ n' * d) :
    roundHalfEven n d ≤ roundHalfEven n' d' := by
  have hround := (roundHalfEven_le_iff hd').1 (Nat.le_refl (roundHalfEven n' d'))
  generalize roundHalfEven n' d' = m at hround ⊢
  have hscaled : 2 * n * d' ≤ 2 * n' * d := by
    rw [Nat.mul_assoc, Nat.mul_assoc]
    exact Nat.mul_le_mul_left 2 h
  rw [roundHalfEven_le_iff hd]
  rcases hround with hlt | ⟨heq, heven⟩
  · left
    apply Nat.lt_of_mul_lt_mul_right (a := d')
    calc 2 * n * d' ≤ 2 * n' * d := hscaled
      _ < (2 * m + 1) * d' * d := Nat.mul_lt_mul_of_pos_right hlt hd
      _ = (2 * m + 1) * d * d' := Nat.mul_right_comm _ _ _
  · have hle : 2 * n ≤ (2 * m + 1) * d := by
      apply Nat.le_of_mul_le_mul_right _ hd'
      rwa [heq, Nat.mul_right_comm (2 * m + 1)] at hscaled
    rcases Nat.lt_or_eq_of_le hle with hlt | hsame
    · exact .inl hlt
    · exact .inr ⟨hsame, heven⟩

theorem roundHalfEven_le (hd : 0 < d) (h : n ≤ m * d) : roundHalfEven n d ≤ m := by
  rw [roundHalfEven_le_iff hd, Nat.add_mul, Nat.mul_assoc]
  omega

theorem le_roundHalfEven (hd : 0 < d) (h : m * d ≤ n) : m ≤ roundHalfEven n d := by
  have hround := (roundHalfEven_le_iff hd).1 (Nat.le_refl (roundHalfEven n d))
  by_contra hlt
  have hscaled := Nat.mul_le_mul_right d (Nat.succ_le_of_lt (Nat.not_le.1 hlt))
  rw [Nat.add_mul, Nat.mul_assoc] at hround
  rw [Nat.succ_mul] at hscaled
  omega

/-! ## The exponent of a fraction -/

/-- The fraction `n / d` lies below `2 ^ t`. -/
def BelowTwoPow (n d : Nat) (t : Int) : Prop :=
  (scaleDown n d t).1 < (scaleDown n d t).2

/-- The power may be split between the two sides in any way. -/
theorem belowTwoPow_iff {a b : Nat} (h : (b : Int) - a = t) :
    BelowTwoPow n d t ↔ n * 2 ^ a < d * 2 ^ b := by
  obtain ⟨c, ha, hb⟩ : ∃ c, a = (-t).toNat + c ∧ b = t.toNat + c :=
    ⟨a - (-t).toNat, by omega, by omega⟩
  rw [ha, hb, Nat.pow_add, Nat.pow_add, ← Nat.mul_assoc, ← Nat.mul_assoc,
    Nat.mul_lt_mul_right (Nat.two_pow_pos c)]
  rfl

theorem BelowTwoPow.mono (h : BelowTwoPow n d t) (ht : t ≤ t') : BelowTwoPow n d t' := by
  rw [belowTwoPow_iff (a := (-t).toNat) (b := t.toNat + (t' - t).toNat) (by omega)]
  rw [belowTwoPow_iff (a := (-t).toNat) (b := t.toNat) (by omega)] at h
  exact Nat.lt_of_lt_of_le h
    (Nat.mul_le_mul_left d (Nat.pow_le_pow_right Nat.two_pos (Nat.le_add_right _ _)))

theorem BelowTwoPow.of_le (h : BelowTwoPow n' d' t) (hd : 0 < d) (hle : n * d' ≤ n' * d) :
    BelowTwoPow n d t := by
  have ht : (t.toNat : Int) - (-t).toNat = t := by omega
  rw [belowTwoPow_iff ht] at h ⊢
  apply Nat.lt_of_mul_lt_mul_right (a := d')
  calc n * 2 ^ (-t).toNat * d' = n * d' * 2 ^ (-t).toNat := Nat.mul_right_comm _ _ _
    _ ≤ n' * d * 2 ^ (-t).toNat := Nat.mul_le_mul_right _ hle
    _ = n' * 2 ^ (-t).toNat * d := Nat.mul_right_comm _ _ _
    _ < d' * 2 ^ t.toNat * d := Nat.mul_lt_mul_of_pos_right h hd
    _ = d * 2 ^ t.toNat * d' := by ac_rfl

/-- The mantissa of a fraction at exponent `e` has at most `k` bits if the fraction lies below
`2 ^ (e + k)`. -/
theorem scaleDown_lt_iff (k : Nat) :
    (scaleDown n d e).1 < 2 ^ k * (scaleDown n d e).2 ↔ BelowTwoPow n d (e + k) := by
  rw [belowTwoPow_iff (a := (-e).toNat) (b := k + e.toNat) (by omega), Nat.pow_add,
    Nat.mul_left_comm]
  rfl

theorem belowTwoPow_log2 (hd : 0 < d) : BelowTwoPow n d (n.log2 - d.log2 + 1) := by
  rw [belowTwoPow_iff (a := d.log2) (b := n.log2 + 1) (by omega)]
  calc n * 2 ^ d.log2 < 2 ^ (n.log2 + 1) * 2 ^ d.log2 :=
        Nat.mul_lt_mul_of_pos_right Nat.lt_log2_self (Nat.two_pow_pos _)
    _ ≤ 2 ^ (n.log2 + 1) * d := Nat.mul_le_mul_left _ (Nat.log2_self_le (Nat.ne_of_gt hd))
    _ = d * 2 ^ (n.log2 + 1) := Nat.mul_comm _ _

theorem not_belowTwoPow_log2 (hn : 0 < n) : ¬ BelowTwoPow n d (n.log2 - d.log2 - 1) := by
  rw [belowTwoPow_iff (a := d.log2 + 1) (b := n.log2) (by omega), Nat.not_lt]
  calc d * 2 ^ n.log2 ≤ 2 ^ (d.log2 + 1) * 2 ^ n.log2 :=
        Nat.mul_le_mul_right _ (Nat.le_of_lt Nat.lt_log2_self)
    _ ≤ 2 ^ (d.log2 + 1) * n := Nat.mul_le_mul_left _ (Nat.log2_self_le (Nat.ne_of_gt hn))
    _ = n * 2 ^ (d.log2 + 1) := Nat.mul_comm _ _

/-- At its exponent a fraction has a mantissa of at most 53 bits, and no shorter one unless the
exponent is the least. -/
theorem doubleExponent_spec (hn : 0 < n) (hd : 0 < d) :
    BelowTwoPow n d (doubleExponent n d + 53) ∧
      (doubleExponent n d = BinaryFormat.double.leastExponent ∨
        ¬ BelowTwoPow n d (doubleExponent n d + 52)) := by
  obtain ⟨e, hexp, hbelow, habove⟩ : ∃ e : Int,
      doubleExponent n d = max e BinaryFormat.double.leastExponent ∧
        BelowTwoPow n d (e + 53) ∧ ¬ BelowTwoPow n d (e + 52) := by
    -- The lengths of the two numbers give the exponent up to one, the comparison the rest.
    refine ⟨_, rfl, ?_⟩
    have hcond := scaleDown_lt_iff (n := n) (d := d) (e := n.log2 - d.log2 - 52) 52
    rw [show (n.log2 - d.log2 - 52 + (52 : Nat) : Int) = n.log2 - d.log2 by omega] at hcond
    dsimp only [Nat.pow_eq]
    split
    next hlt =>
      have h := hcond.1 hlt
      exact ⟨h.mono (by omega), fun hlow => not_belowTwoPow_log2 hn (hlow.mono (by omega))⟩
    next hge =>
      exact ⟨(belowTwoPow_log2 hd).mono (by omega), fun h => hge (hcond.2 (h.mono (by omega)))⟩
  rw [hexp]
  refine ⟨hbelow.mono (by omega), ?_⟩
  rcases Int.le_total e BinaryFormat.double.leastExponent with hle | hle
  · exact .inl (Int.max_eq_right hle)
  · rw [Int.max_eq_left hle]
    exact .inr habove

theorem doubleExponent_mono (hn : 0 < n) (hd : 0 < d) (hn' : 0 < n') (hd' : 0 < d')
    (h : n * d' ≤ n' * d) : doubleExponent n d ≤ doubleExponent n' d' := by
  have hlow := (doubleExponent_spec hn hd).2
  have hhigh := (doubleExponent_spec hn' hd').1.of_le hd h
  have hleast : BinaryFormat.double.leastExponent ≤ doubleExponent n' d' := Int.le_max_right _ _
  by_contra hlt
  rcases hlow with heq | hnot
  · omega
  · exact hnot (hhigh.mono (by omega))

/-! ## The nearest double -/

theorem nearestDouble_fst (n d : Nat) : (nearestDouble n d).1 =
    roundHalfEven (scaleDown n d (doubleExponent n d)).1 (scaleDown n d (doubleExponent n d)).2 :=
  rfl

theorem nearestDouble_snd (n d : Nat) : (nearestDouble n d).2 = doubleExponent n d := rfl

theorem scaleDown_den_pos (n : Nat) (e : Int) (hd : 0 < d) : 0 < (scaleDown n d e).2 :=
  Nat.mul_pos hd (Nat.two_pow_pos _)

theorem nearestDouble_mantissa_le (hn : 0 < n) (hd : 0 < d) : (nearestDouble n d).1 ≤ 2 ^ 53 := by
  rw [nearestDouble_fst]
  apply roundHalfEven_le (scaleDown_den_pos _ _ hd)
  exact Nat.le_of_lt ((scaleDown_lt_iff 53).2 (doubleExponent_spec hn hd).1)

theorem le_nearestDouble_mantissa (hn : 0 < n) (hd : 0 < d)
    (he : BinaryFormat.double.leastExponent < (nearestDouble n d).2) :
    2 ^ 52 ≤ (nearestDouble n d).1 := by
  have hfull := (doubleExponent_spec hn hd).2.resolve_left (Int.ne_of_gt he)
  rw [nearestDouble_fst]
  apply le_roundHalfEven (scaleDown_den_pos _ _ hd)
  rwa [← Nat.not_lt, scaleDown_lt_iff]

theorem roundHalfEven_scaleDown_mono (hd : 0 < d) (hd' : 0 < d') (h : n * d' ≤ n' * d) :
    roundHalfEven (scaleDown n d e).1 (scaleDown n d e).2 ≤
      roundHalfEven (scaleDown n' d' e).1 (scaleDown n' d' e).2 := by
  apply roundHalfEven_mono (scaleDown_den_pos _ _ hd) (scaleDown_den_pos _ _ hd')
  show n * 2 ^ (-e).toNat * (d' * 2 ^ e.toNat) ≤ n' * 2 ^ (-e).toNat * (d * 2 ^ e.toNat)
  rw [Nat.mul_mul_mul_comm, Nat.mul_mul_mul_comm n']
  exact Nat.mul_le_mul_right _ h

theorem nearestDouble_mono (hn : 0 < n) (hd : 0 < d) (hn' : 0 < n') (hd' : 0 < d')
    (h : n * d' ≤ n' * d) :
    fractionLe (dyadic (nearestDouble n d).1 (nearestDouble n d).2)
      (dyadic (nearestDouble n' d').1 (nearestDouble n' d').2) = true := by
  have hexp := doubleExponent_mono hn hd hn' hd' h
  have hleast : BinaryFormat.double.leastExponent ≤ doubleExponent n d := Int.le_max_right _ _
  rcases Int.lt_or_eq_of_le hexp with hlt | heq
  · exact dyadic_le_of_exponent hlt (nearestDouble_mantissa_le hn hd)
      (le_nearestDouble_mantissa hn' hd' (Int.lt_of_le_of_lt hleast hlt))
  · rw [nearestDouble_snd, nearestDouble_snd, ← heq]
    apply dyadic_le_of_mantissa
    rw [nearestDouble_fst, nearestDouble_fst, ← heq]
    exact roundHalfEven_scaleDown_mono hd hd' h

/-! ## The whole part of the nearest double -/

theorem floorNearestDouble_mono (hn : 0 < n) (hd : 0 < d) (hn' : 0 < n') (hd' : 0 < d')
    (h : n * d' ≤ n' * d) : floorNearestDouble n d ≤ floorNearestDouble n' d' :=
  div_le_div_of_fractionLe (Nat.two_pow_pos _) (Nat.two_pow_pos _)
    (nearestDouble_mono hn hd hn' hd' h)

theorem doubleExponent_nonpos (hn : 0 < n) (hd : 0 < d) (hroom : n < 2 ^ 52 * d) :
    doubleExponent n d ≤ 0 := by
  have hbelow : BelowTwoPow n d 52 :=
    (belowTwoPow_iff (a := 0) (b := 52) (by decide)).2 (by omega)
  have hleast : BinaryFormat.double.leastExponent ≤ 0 := by decide
  rcases (doubleExponent_spec hn hd).2 with heq | hfull
  · omega
  · by_contra hpos
    exact hfull (hbelow.mono (by omega))

/-- With room for the whole part, a fraction is rounded at a binary place behind the point. -/
theorem floorNearestDouble_eq (hn : 0 < n) (hd : 0 < d) (hroom : n < 2 ^ 52 * d) :
    ∃ k, floorNearestDouble n d = roundHalfEven (n * 2 ^ k) d / 2 ^ k := by
  have he := doubleExponent_nonpos hn hd hroom
  have hzero : (doubleExponent n d).toNat = 0 := by omega
  refine ⟨(-doubleExponent n d).toNat, ?_⟩
  unfold floorNearestDouble nearestDouble scaleDown dyadic
  simp only [hzero, Nat.pow_eq, Nat.pow_zero, Nat.mul_one]

/-- Rounding does not carry a fraction across a whole number. -/
theorem le_floorNearestDouble (hn : 0 < n) (hd : 0 < d) (hroom : n < 2 ^ 52 * d)
    (h : m * d ≤ n) : m ≤ floorNearestDouble n d := by
  obtain ⟨k, hk⟩ := floorNearestDouble_eq hn hd hroom
  rw [hk, Nat.le_div_iff_mul_le (Nat.two_pow_pos k)]
  apply le_roundHalfEven hd
  rw [Nat.mul_right_comm]
  exact Nat.mul_le_mul_right _ h

theorem floorNearestDouble_le (hn : 0 < n) (hd : 0 < d) (hroom : n < 2 ^ 52 * d)
    (h : n ≤ m * d) : floorNearestDouble n d ≤ m := by
  obtain ⟨k, hk⟩ := floorNearestDouble_eq hn hd hroom
  have hscaled : n * 2 ^ k ≤ m * 2 ^ k * d := by
    rw [Nat.mul_right_comm]
    exact Nat.mul_le_mul_right _ h
  rw [hk]
  exact Nat.div_le_of_le_mul (Nat.mul_comm m _ ▸ roundHalfEven_le hd hscaled)

end SeedStream
