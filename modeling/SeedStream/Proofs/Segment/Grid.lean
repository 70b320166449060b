import SeedStream.Proofs.Segment.Merging

/-!
# Segments on one grid

Segments that start a whole number of intervals apart have their samples at common
instants, one interval apart. If the tolerance is at most half an interval, whatever lies
near an instant is at it. So a merge moves no sample: the earlier segment keeps all its
samples, and the later one gives those of the instants at which the earlier has none.
-/

set_option autoImplicit false

namespace SeedStream

theorem eq_of_near {i o x y : Int} (hx : i ∣ x - o) (hy : i ∣ y - o) (h : |x - y| < i) :
    x = y := by
  have hdvd : i ∣ x - y := by
    have hsub := Int.dvd_sub hx hy
    rwa [sub_sub_sub_cancel_right] at hsub
  have hzero := Int.eq_zero_of_abs_lt_dvd hdvd h
  omega

theorem tolerance_le_half {i d : Int} (hi : 0 < i) (hd : 2 ≤ d) : i / d ≤ i / 2 := by
  have hmul := Int.ediv_mul_le i (show d ≠ 0 by omega)
  have hnn : 0 ≤ i / d := Int.ediv_nonneg (Int.le_of_lt hi) (by omega)
  have htwo : i / d * 2 ≤ i / d * d := Int.mul_le_mul_of_nonneg_left hd hnn
  omega

theorem slack_lt {i d : Int} (hi : 0 < i) (hd : 2 ≤ d) : Segment.slack i d < i := by
  rw [Segment.slack, max_eq_left (tolerance_le_half hi hd)]
  omega

namespace Segment

variable {i d d' o x : Int} {v w : Int32} {s earlier later target : Segment}

theorem Regular.holds_unique (h : s.Regular i d) (hi : 0 < i) (hv : s.Holds x v)
    (hw : s.Holds x w) : v = w := by
  obtain ⟨k, hk, hxk⟩ := h.holds_iff.1 hv
  obtain ⟨j, hj, hxj⟩ := h.holds_iff.1 hw
  have hmul : i * (k : Int) = i * j := by omega
  obtain rfl : k = j := Int.ofNat.inj (Int.eq_of_mul_eq_mul_left (Int.ne_of_gt hi) hmul)
  rw [hk] at hj
  injection hj

theorem Regular.holds_grid (h : s.Regular i d) (hg : i ∣ s.start - o) (hx : s.Holds x v) :
    i ∣ x - o := by
  obtain ⟨k, -, rfl⟩ := h.holds_iff.1 hx
  rw [add_sub_right_comm]
  exact Int.dvd_add hg (Int.dvd_mul_right i k)

theorem Regular.stop_grid (h : s.Regular i d) (hg : i ∣ s.start - o) : i ∣ s.stop - o := by
  rw [h.stop_eq, add_sub_right_comm]
  exact Int.dvd_add hg (Int.dvd_mul_right i _)

section Joined

variable (h : Joined earlier later target) (hi : 0 < i) (hd : 2 ≤ d) (he : earlier.Regular i d)
  (hl : later.Regular i d') (hgap : later.start - earlier.stop ≤ i / d)
  (hge : i ∣ earlier.start - o) (hgl : i ∣ later.start - o)

include h hi hd he hl hgap hge hgl

theorem Joined.drawn_exactly (hx : target.Holds x v) : earlier.Holds x v ∨ later.Holds x v := by
  have hgt : i ∣ target.start - o := by rwa [h.head.start]
  rcases h.drawn hi he hl hgap hx with hx' | ⟨y, hy, hnear⟩
  · exact .inl hx'
  · obtain rfl : x = y := eq_of_near ((h.regular he).holds_grid hgt hx) (hl.holds_grid hgl hy)
      (lt_of_le_of_lt hnear (slack_lt hi hd))
    exact .inr hy

/-- The union has a sample wherever one of the two has one, and the earlier one prevails. -/
theorem Joined.holds_iff (hs : earlier.start ≤ later.start) : target.Holds x v ↔
    earlier.Holds x v ∨ (∀ w, ¬ earlier.Holds x w) ∧ later.Holds x v := by
  have hreg := h.regular he
  have hgt : i ∣ target.start - o := by rwa [h.head.start]
  constructor
  · intro hx
    by_cases hcov : ∃ w, earlier.Holds x w
    · obtain ⟨w, hw⟩ := hcov
      obtain rfl := hreg.holds_unique hi hx (h.keeps hw)
      exact .inl hw
    · have hnone := not_exists.1 hcov
      rcases h.drawn_exactly hi hd he hl hgap hge hgl hx with hx' | hx'
      · exact absurd hx' (hnone v)
      · exact .inr ⟨hnone, hx'⟩
  · rintro (hx | ⟨hnone, hx⟩)
    · exact h.keeps hx
    · obtain ⟨y, w, hy, hnear⟩ := h.covers hi he hl hgap hs hx
      obtain rfl : y = x := eq_of_near (hreg.holds_grid hgt hy) (hl.holds_grid hgl hx)
        (lt_of_le_of_lt hnear (slack_lt hi hd))
      rcases h.drawn_exactly hi hd he hl hgap hge hgl hy with hy' | hy'
      · exact absurd hy' (hnone w)
      · obtain rfl := hl.holds_unique hi hx hy'
        exact hy

theorem Joined.stop_eq : target.stop = max earlier.stop later.stop := by
  have hgt : i ∣ target.start - o := by rwa [h.head.start]
  have hgs : i ∣ max earlier.stop later.stop - o := by
    rcases le_total earlier.stop later.stop with hle | hle
    · rw [max_eq_right hle]
      exact hl.stop_grid hgl
    · rw [max_eq_left hle]
      exact he.stop_grid hge
  exact eq_of_near ((h.regular he).stop_grid hgt) hgs
    (lt_of_le_of_lt (h.stop_near hi he hl hgap) (slack_lt hi hd))

end Joined

end Segment
end SeedStream
