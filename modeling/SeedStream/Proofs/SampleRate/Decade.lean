import SeedStream.Proofs.Number.Nearest

/-!
# Decades of slow rates

A rate below 1 Hz belongs to a decade, and its period is rounded to a step that is a
ten-thousandth of the shortest period there. Both ends of a decade are multiples of the step,
so rounding stays between them, even for a quotient of doubles that ends one unit short of its
decade. Inside a decade rounding keeps the order, and across decades their ends do.
-/

set_option autoImplicit false

namespace SeedStream

/-- If a test that holds of an entry holds of all before it, the number of entries that pass
tells which ones do. -/
theorem lt_length_filter_iff {α : Type} {p : α → Bool} {l : List α}
    (hl : l.Pairwise fun a b => p b = true → p a = true) {k : Nat} (hk : k < l.length) :
    k < (l.filter p).length ↔ p l[k] = true := by
  induction l generalizing k with
  | nil => exact absurd hk (Nat.not_lt_zero k)
  | cons a l ih =>
    obtain ⟨hhead, htail⟩ := List.pairwise_cons.1 hl
    cases hp : p a with
    | true =>
      rw [List.filter_cons_of_pos hp, List.length_cons]
      cases k with
      | zero => simp [hp]
      | succ k => exact (Nat.succ_lt_succ_iff).trans (ih htail (Nat.lt_of_succ_lt_succ hk))
    | false =>
      have hno : ∀ b ∈ a :: l, ¬ p b = true := fun b hb hpb => by
        rcases List.mem_cons.1 hb with rfl | hb
        · simp [hpb] at hp
        · simp [hhead b hb hpb] at hp
      rw [List.filter_eq_nil_iff.2 hno]
      simp [hno _ (List.getElem_mem hk)]

namespace SampleRate

/-! ## Rounding to a step -/

variable {q r step k l : Nat}

theorem roundToStep_mono (h : q ≤ r) : roundToStep q step ≤ roundToStep r step :=
  Nat.mul_le_mul_right _ (Nat.div_le_div_right (Nat.add_le_add_right h _))

theorem roundToStep_mul (hstep : 0 < step) : roundToStep (q * step) step = q * step := by
  rw [roundToStep, Nat.add_comm, Nat.add_mul_div_right _ _ hstep,
    Nat.div_eq_of_lt (Nat.div_lt_self hstep (by decide)), Nat.zero_add]

/-- A multiple of the step is reached from half a step below it. -/
theorem mul_le_roundToStep (hstep : 0 < step) (h : r * step ≤ q + step / 2) :
    r * step ≤ roundToStep q step :=
  Nat.mul_le_mul_right _ ((Nat.le_div_iff_mul_le hstep).2 h)

theorem roundToStep_le_add : roundToStep q step ≤ q + step / 2 :=
  Nat.div_mul_le_self _ _

theorem le_roundToStep_add (hstep : 0 < step) : q ≤ roundToStep q step + step / 2 := by
  have hlt := Nat.lt_div_mul_add hstep (a := q + step / 2)
  rw [roundToStep]
  omega

theorem roundingStep_pos (k : Nat) : 0 < roundingStep k :=
  Nat.mul_pos (by decide) (Nat.pow_pos (by decide))

theorem decade_begins (k : Nat) : 10 ^ (6 + k) = 10 ^ 4 * roundingStep k := by
  rw [roundingStep, Nat.pow_eq, Nat.pow_add, ← Nat.mul_assoc]
  rfl

theorem decade_ends (k : Nat) : 10 ^ (7 + k) = 10 ^ 5 * roundingStep k := by
  rw [roundingStep, Nat.pow_eq, Nat.pow_add, ← Nat.mul_assoc]
  rfl

/-- The whole microseconds `q` of a period may belong to the decade `k` below 1 Hz. It lasts
from `10 ^ (6 + k)` to `10 ^ (7 + k)`, and a quotient of doubles may end one unit short of it. -/
structure InDecade (q k : Nat) : Prop where
  begins : 10 ^ (6 + k) - 1 ≤ q
  ends : q ≤ 10 ^ (7 + k)

namespace InDecade

theorem le_rounded (h : InDecade q k) : 10 ^ (6 + k) ≤ roundToStep q (roundingStep k) := by
  have hbegins := h.begins
  have hhalf : 1 ≤ roundingStep k / 2 := by
    have hpow : 1 ≤ 10 ^ k := Nat.one_le_pow _ _ (by decide)
    rw [roundingStep, Nat.pow_eq]
    omega
  rw [decade_begins] at hbegins ⊢
  exact mul_le_roundToStep (roundingStep_pos k) (by omega)

theorem rounded_le (h : InDecade q k) : roundToStep q (roundingStep k) ≤ 10 ^ (7 + k) := by
  have hends := h.ends
  rw [decade_ends] at hends ⊢
  calc roundToStep q (roundingStep k)
      ≤ roundToStep (10 ^ 5 * roundingStep k) (roundingStep k) := roundToStep_mono hends
    _ = 10 ^ 5 * roundingStep k := roundToStep_mul (roundingStep_pos k)

theorem second_le_rounded (h : InDecade q k) : 1000000 ≤ roundToStep q (roundingStep k) :=
  Nat.le_trans (Nat.pow_le_pow_right (by decide : 0 < 10) (Nat.le_add_right 6 k)) h.le_rounded

/-- Longer periods are not rounded to shorter ones, whichever decades they belong to. -/
theorem rounded_mono (hq : InDecade q k) (hr : InDecade r l) (h : q ≤ r) (hk : k ≤ l) :
    roundToStep q (roundingStep k) ≤ roundToStep r (roundingStep l) := by
  rcases Nat.lt_or_eq_of_le hk with hlt | rfl
  · calc roundToStep q (roundingStep k) ≤ 10 ^ (7 + k) := hq.rounded_le
      _ ≤ 10 ^ (6 + l) := Nat.pow_le_pow_right (by decide) (by omega)
      _ ≤ roundToStep r (roundingStep l) := hr.le_rounded
  · exact roundToStep_mono h

end InDecade

/-! ## The decade of a rate -/

variable {v w : Nat × Nat}

/-- The period of each bound is the end of a decade, or up to one unit less. -/
theorem decadeBounds_between : ∀ k (hk : k < decadeBounds.length),
    0 < decadeBounds[k].2 ∧ fractionLe (1000000, 10 ^ (7 + k)) decadeBounds[k] = true ∧
      fractionLe decadeBounds[k] (1000000, 10 ^ (7 + k) - 1) = true := by
  decide

theorem decadeBounds_ordered :
    decadeBounds.Pairwise fun a b => 0 < b.2 ∧ fractionLe b a = true := by
  decide

theorem lt_decades_iff (hk : k < decadeBounds.length) :
    k < decades v ↔ fractionLe v decadeBounds[k] = true :=
  lt_length_filter_iff
    (decadeBounds_ordered.imp fun h hv => fractionLe_trans h.1 hv h.2) hk

theorem decades_le (v : Nat × Nat) : decades v ≤ decadeBounds.length :=
  List.length_filter_le _ _

theorem decades_antitone (hw : 0 < w.2) (h : fractionLe v w = true) : decades w ≤ decades v := by
  rw [decades, decades, ← List.countP_eq_length_filter, ← List.countP_eq_length_filter]
  exact List.countP_mono_left fun b _ hb => fractionLe_trans hw h hb

theorem rate_le_begins (h : fractionLe v (1, 1) = true) :
    fractionLe v (1000000, 10 ^ (6 + decades v) - 1) = true := by
  cases hk : decades v with
  | zero => exact fractionLe_trans Nat.one_pos h (by decide)
  | succ k =>
    have hlt : k < decadeBounds.length := Nat.lt_of_lt_of_le (by omega) (decades_le v)
    have hbound := (lt_decades_iff hlt).1 (show k < decades v by omega)
    obtain ⟨hpos, -, hbegins⟩ := decadeBounds_between k hlt
    have hpow : 6 + (k + 1) = 7 + k := by omega
    rw [hpow]
    exact fractionLe_trans hpos hbound hbegins

structure Accepted (v : Nat × Nat) : Prop where
  den_pos : 0 < v.2
  fast : fractionLe v fastest = true
  slow : fractionLe slowest v = true

namespace Accepted

theorem bounds (h : Accepted v) :
    v.1 ≤ 1000000 * v.2 ∧ 4791834382764139 * v.2 ≤ v.1 * 151115727451828646838272 := by
  have hfast : v.1 * 1 ≤ 1000000 * v.2 := of_decide_eq_true h.fast
  have hslowest : slowest = (4791834382764139, 151115727451828646838272) := by decide
  have hslow := h.slow
  rw [hslowest] at hslow
  exact ⟨by omega, of_decide_eq_true hslow⟩

theorem num_pos (h : Accepted v) : 0 < v.1 := by
  have hden := h.den_pos
  have hbounds := h.bounds
  omega

theorem room (h : Accepted v) : 1000000 * v.2 < 2 ^ 52 * v.1 := by
  have hden := h.den_pos
  have hbounds := h.bounds
  omega

theorem period_pos (h : Accepted v) : 0 < 1000000 * v.2 :=
  Nat.mul_pos (by decide) h.den_pos

theorem le_wholeMicros (h : Accepted v) (hq : fractionLe v (1000000, q) = true) :
    q ≤ wholeMicros v := by
  apply le_floorNearestDouble h.period_pos h.num_pos h.room
  rw [Nat.mul_comm]
  exact of_decide_eq_true hq

theorem wholeMicros_le (h : Accepted v) (hq : fractionLe (1000000, q) v = true) :
    wholeMicros v ≤ q := by
  apply floorNearestDouble_le h.period_pos h.num_pos h.room
  rw [Nat.mul_comm q]
  exact of_decide_eq_true hq

theorem wholeMicros_antitone (hv : Accepted v) (hw : Accepted w) (h : fractionLe v w = true) :
    wholeMicros w ≤ wholeMicros v := by
  apply floorNearestDouble_mono hw.period_pos hw.num_pos hv.period_pos hv.num_pos
  have hle : v.1 * w.2 ≤ w.1 * v.2 := of_decide_eq_true h
  rw [Nat.mul_assoc, Nat.mul_assoc, Nat.mul_comm w.2, Nat.mul_comm v.2]
  exact Nat.mul_le_mul_left _ hle

theorem ends_le_rate (h : Accepted v) : fractionLe (1000000, 10 ^ (7 + decades v)) v = true := by
  rcases Nat.lt_or_eq_of_le (decades_le v) with hlt | heq
  · obtain ⟨hpos, hends, -⟩ := decadeBounds_between _ hlt
    have hnot := mt (lt_decades_iff hlt).2 (Nat.lt_irrefl _)
    exact fractionLe_trans hpos hends (fractionLe_of_not hnot)
  · have hlast : fractionLe (1000000, 10 ^ (7 + decades v)) slowest = true := by
      rw [heq]
      decide
    exact fractionLe_trans (by decide) hlast h.slow

theorem inDecade (h : Accepted v) (hle : fractionLe v (1, 1) = true) :
    InDecade (wholeMicros v) (decades v) :=
  ⟨h.le_wholeMicros (rate_le_begins hle), h.wholeMicros_le h.ends_le_rate⟩

end Accepted
end SampleRate
end SeedStream
