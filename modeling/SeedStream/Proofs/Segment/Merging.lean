import Mathlib.Algebra.Order.Group.Abs
import Mathlib.Algebra.Order.Ring.Int
import Mathlib.Tactic.Ring
import SeedStream.Proofs.Storage.Samples

/-!
# Merging a later segment into an earlier one

A merge never moves a sample of the earlier segment. The samples of the later
segment that it keeps move by at most half an interval or the tolerance, and
each sample that it drops lies as close to one of the earlier segment.
-/

set_option autoImplicit false

namespace SeedStream.Segment

/-- The sample `v` of the segment lies at the time `x`. -/
def Holds (s : Segment) (x : Int) (v : Int32) : Prop :=
  ∃ k : Nat, s.samples[k]? = some v ∧ x = s.start + s.interval * k

theorem holds_congr {s t : Segment} (h : SameHead s t) (hs : t.samples = s.samples) (x : Int)
    (v : Int32) : t.Holds x v ↔ s.Holds x v := by
  rw [Holds, Holds, hs, h.start, h.interval]

/-- The segment has the interval and the divisor of a channel. -/
structure Paced (i d : Int) (s : Segment) : Prop where
  interval : s.interval = i
  divisor : s.jitterDivisor = d

structure Regular (i d : Int) (s : Segment) : Prop where
  sound : s.Sound
  interval : s.interval = i
  divisor : s.jitterDivisor = d

variable {i d d' : Int} {s t earlier later : Segment}

theorem Paced.of_head (h : s.Paced i d) (hh : SameHead s t) : t.Paced i d :=
  ⟨hh.interval.trans h.interval, hh.jitterDivisor.trans h.divisor⟩

theorem Paced.stop_eq (h : s.Paced i d) : s.stop = s.start + i * s.length := by
  rw [stop, h.interval]

theorem Paced.tolerance_eq (h : s.Paced i d) : s.tolerance = i / d := by
  rw [tolerance, h.interval, h.divisor]

theorem Paced.start_le_stop (h : s.Paced i d) (hi : 0 < i) : s.start ≤ s.stop := by
  rw [h.stop_eq]
  have := Int.mul_nonneg (Int.le_of_lt hi) (Int.natCast_nonneg s.length)
  omega

theorem Regular.paced (h : s.Regular i d) : s.Paced i d := ⟨h.interval, h.divisor⟩

theorem Regular.stop_eq (h : s.Regular i d) : s.stop = s.start + i * s.length :=
  h.paced.stop_eq

theorem Regular.tolerance_eq (h : s.Regular i d) : s.tolerance = i / d :=
  h.paced.tolerance_eq

theorem Regular.holds_iff (h : s.Regular i d) {x : Int} {v : Int32} :
    s.Holds x v ↔ ∃ k : Nat, s.samples[k]? = some v ∧ x = s.start + i * k := by
  rw [Holds, h.interval]

theorem Regular.of_head (h : s.Regular i d) (ht : t.Sound) (hh : SameHead s t) : t.Regular i d :=
  ⟨ht, hh.interval.trans h.interval, hh.jitterDivisor.trans h.divisor⟩

theorem Regular.append (h : s.Regular i d) (xs : List Int32) : (s.append xs).Regular i d :=
  h.of_head (h.sound.append xs).1 (append_head s xs)

theorem Regular.holds_append (h : s.Regular i d) {xs : List Int32} {x : Int} {v : Int32} :
    (s.append xs).Holds x v ↔
      s.Holds x v ∨ ∃ j : Nat, xs[j]? = some v ∧ x = s.stop + i * j := by
  rw [(h.append xs).holds_iff, (h.sound.append xs).2, (append_head s xs).start, h.holds_iff,
    h.stop_eq, ← h.sound.length_samples]
  constructor
  · rintro ⟨k, hk, rfl⟩
    by_cases hlt : k < s.samples.length
    · rw [List.getElem?_append_left hlt] at hk
      exact .inl ⟨k, hk, rfl⟩
    · rw [List.getElem?_append_right (by omega)] at hk
      refine .inr ⟨_, hk, ?_⟩
      push_cast [Nat.le_of_not_lt hlt]
      ring
  · rintro (⟨k, hk, rfl⟩ | ⟨j, hj, rfl⟩)
    · refine ⟨k, ?_, rfl⟩
      rw [List.getElem?_append_left (List.getElem?_eq_some_iff.1 hk).1]
      exact hk
    · refine ⟨s.samples.length + j, ?_, by push_cast; ring⟩
      rw [List.getElem?_append_right (by omega), Nat.add_sub_cancel_left]
      exact hj

theorem Regular.shrink (h : s.Regular i d) : s.shrink.Regular i d :=
  h.of_head h.sound.shrink.1 h.sound.shrink.2.2

theorem Sound.holds_shrink (h : s.Sound) (x : Int) (v : Int32) :
    s.shrink.Holds x v ↔ s.Holds x v :=
  holds_congr h.shrink.2.2 h.shrink.2.1 x v

theorem Sound.length_pos (h : s.Sound) {x : Int} {v : Int32} (hx : s.Holds x v) : 0 < s.length := by
  obtain ⟨k, hk, -⟩ := hx
  have hlt := (List.getElem?_eq_some_iff.1 hk).1
  rw [h.length_samples] at hlt
  exact Nat.zero_lt_of_lt hlt

theorem Regular.length_le_stop (h : s.Regular i d) (hi : 0 < i) : s.start ≤ s.stop :=
  h.paced.start_le_stop hi

theorem mul_succ_le {k n : Nat} (hi : 0 < i) (h : k < n) : i * k + i ≤ i * n := by
  have hk : (k : Int) + 1 ≤ n := by omega
  calc i * k + i = i * (k + 1) := by ring
    _ ≤ i * n := Int.mul_le_mul_of_nonneg_left hk (Int.le_of_lt hi)

theorem Regular.holds_span (h : s.Regular i d) (hi : 0 < i) {x : Int} {v : Int32}
    (hx : s.Holds x v) : s.start ≤ x ∧ x + i ≤ s.stop := by
  obtain ⟨k, hk, rfl⟩ := h.holds_iff.1 hx
  have hlt : k < s.length := by
    rw [← h.sound.length_samples]
    exact (List.getElem?_eq_some_iff.1 hk).1
  have hnn := Int.mul_nonneg (Int.le_of_lt hi) (Int.natCast_nonneg k)
  have hle := mul_succ_le hi hlt
  rw [h.stop_eq]
  omega

/-- A time up to half an interval behind the last sample has a sample nearby. -/
theorem Regular.nearest (h : s.Regular i d) (hi : 0 < i) {y : Int} (hlo : s.start ≤ y)
    (hhi : y + i ≤ s.stop + i / 2) : ∃ x v, s.Holds x v ∧ |x - y| ≤ i / 2 := by
  rw [h.stop_eq] at hhi
  have hq := Int.mul_ediv_self_le (x := y - s.start + (i - 1) / 2) (Int.ne_of_gt hi)
  have hr := Int.lt_mul_ediv_self_add (x := y - s.start + (i - 1) / 2) hi
  have hn : 0 ≤ (y - s.start + (i - 1) / 2) / i := Int.ediv_nonneg (by omega) (Int.le_of_lt hi)
  obtain ⟨k, hk⟩ := Int.eq_ofNat_of_zero_le hn
  rw [hk] at hq hr
  have hlt : k < s.samples.length := by
    rw [h.sound.length_samples]
    by_contra hge
    have hmul : i * s.length ≤ i * k :=
      Int.mul_le_mul_of_nonneg_left (by omega) (Int.le_of_lt hi)
    omega
  refine ⟨s.start + i * k, s.samples[k],
    h.holds_iff.2 ⟨k, List.getElem?_eq_getElem hlt, rfl⟩, ?_⟩
  exact abs_le.2 ⟨by omega, by omega⟩

theorem extendByIn_head (m : Arithmetic) (earlier later : Segment) :
    SameHead earlier (earlier.extendByIn m later) ∧
      earlier.length ≤ (earlier.extendByIn m later).length := by
  have hadopt := adoptBlocks_head
    (earlier.append (later.samples.drop (later.overlapCountIn m earlier))) later
  refine ⟨(append_head _ _).trans hadopt.1, ?_⟩
  rw [extendByIn, hadopt.2, append_length]
  exact Nat.le_add_right _ _

theorem extendBy_head (earlier later : Segment) : SameHead earlier (earlier.extendBy later) ∧
    earlier.length ≤ (earlier.extendBy later).length :=
  extendByIn_head .exact earlier later

/-- The samples of the earlier segment, followed by those of the later one that
do not lie inside it. -/
structure Joined (earlier later target : Segment) : Prop where
  sound : target.Sound
  head : SameHead earlier target
  samples : target.samples = earlier.samples ++ later.samples.drop (later.overlapCount earlier)

theorem extendBy_joined (he : earlier.Sound) (hl : later.Sound) :
    Joined earlier later (earlier.extendBy later) := by
  obtain ⟨hsound, hsamples⟩ := he.append (later.samples.drop (later.overlapCount earlier))
  obtain ⟨hadopt, hsame, hhead⟩ := hsound.adoptBlocks hl
  exact ⟨hadopt, (append_head _ _).trans hhead, hsame.trans hsamples⟩

theorem covered_count (hi : 0 < i) (hl : later.Regular i d') (hc : later.stop ≤ earlier.stop) :
    later.overlapCount earlier = later.length := by
  rw [hl.stop_eq] at hc
  have hq : (later.length : Int) ≤ (earlier.stop - later.start + i / 2) / i := by
    rw [Int.le_ediv_iff_mul_le hi, Int.mul_comm]
    omega
  rw [overlapCount_def, hl.interval]
  omega

theorem covered_joined (hi : 0 < i) (he : earlier.Regular i d) (hl : later.Regular i d')
    (hc : later.stop ≤ earlier.stop) : Joined earlier later earlier := by
  refine ⟨he.sound, .refl _, ?_⟩
  rw [covered_count hi hl hc, ← hl.sound.length_samples, List.drop_length, List.append_nil]

/-- A merge of a later segment, whatever the segments store: refused behind a gap, or
nothing to add, or an extension. -/
theorem mergeInto_cases (hi : 0 < i) (hd : 0 < d) (he : earlier.Paced i d) (hl : later.Paced i d')
    (hs : earlier.start ≤ later.start) :
    (i / d < later.start - earlier.stop ∧
      ∃ text, later.mergeInto earlier =
        .refused (.mergeRange (later.start - earlier.stop) text) earlier later) ∨
    (later.start - earlier.stop ≤ i / d ∧
      (later.stop ≤ earlier.stop ∧ later.mergeInto earlier = .merged earlier ∨
        later.mergeInto earlier = .merged (earlier.extendBy later))) := by
  have htol : 0 ≤ i / d := Int.ediv_nonneg (Int.le_of_lt hi) (Int.le_of_lt hd)
  have hspan := hl.start_le_stop hi
  have hsame : ¬ later.interval ≠ earlier.interval := by simp [hl.interval, he.interval]
  by_cases hgap : i / d < later.start - earlier.stop
  · refine .inl ⟨hgap, "segment starts after the end of the target", ?_⟩
    rw [mergeInto_def, mergeRefusal_def, if_neg hsame, he.tolerance_eq, if_pos hgap]
  · refine .inr ⟨by omega, ?_⟩
    have hnone : later.mergeRefusal earlier = none := by
      rw [mergeRefusal_def, if_neg hsame, he.tolerance_eq, if_neg hgap, if_neg (by omega)]
    rw [mergeInto_def, hnone]
    by_cases hc : later.coveredBy earlier = true
    · have hstop : later.stop ≤ earlier.stop := by simp [coveredBy_def] at hc; exact hc.2
      exact .inl ⟨hstop, by simp [hc]⟩
    · exact .inr (by simp [hc, hs])

theorem mergeInto_later (hi : 0 < i) (hd : 0 < d) (he : earlier.Regular i d)
    (hl : later.Regular i d') (hs : earlier.start ≤ later.start) :
    (i / d < later.start - earlier.stop ∧
      ∃ text, later.mergeInto earlier =
        .refused (.mergeRange (later.start - earlier.stop) text) earlier later) ∨
    (later.start - earlier.stop ≤ i / d ∧
      ∃ target, later.mergeInto earlier = .merged target ∧ Joined earlier later target) := by
  rcases mergeInto_cases hi hd he.paced hl.paced hs with hgap | ⟨hgap, ⟨hstop, hm⟩ | hm⟩
  · exact .inl hgap
  · exact .inr ⟨hgap, earlier, hm, covered_joined hi he hl hstop⟩
  · exact .inr ⟨hgap, _, hm, extendBy_joined he.sound hl.sound⟩

/-- How far a merge may move a sample or be from one that it drops. -/
def slack (i d : Int) : Int := max (i / 2) (i / d)

variable {target : Segment}

theorem Joined.regular (h : Joined earlier later target) (he : earlier.Regular i d) :
    target.Regular i d :=
  he.of_head h.sound h.head

theorem Joined.keeps (h : Joined earlier later target) {x : Int} {v : Int32}
    (hx : earlier.Holds x v) : target.Holds x v := by
  obtain ⟨k, hk, rfl⟩ := hx
  refine ⟨k, ?_, by rw [h.head.start, h.head.interval]⟩
  rw [h.samples, List.getElem?_append_left (List.getElem?_eq_some_iff.1 hk).1]
  exact hk

theorem kept_shift (hi : 0 < i) (hl : later.Regular i d')
    (hgap : later.start - earlier.stop ≤ i / d) (hn : later.overlapCount earlier < later.length) :
    |earlier.stop - later.start - i * later.overlapCount earlier| ≤ slack i d := by
  have hcount : later.overlapCount earlier =
      ((earlier.stop - later.start + i / 2) / i).toNat := by
    rw [overlapCount_def, hl.interval] at hn ⊢
    omega
  have hq := Int.mul_ediv_self_le (x := earlier.stop - later.start + i / 2) (Int.ne_of_gt hi)
  have hr := Int.lt_mul_ediv_self_add (x := earlier.stop - later.start + i / 2) hi
  rw [hcount, slack]
  by_cases hneg : (earlier.stop - later.start + i / 2) / i < 0
  · -- no whole overlap: the later segment starts behind the end, within the tolerance
    have hlow : earlier.stop - later.start + i / 2 < 0 := by
      by_contra hge
      have := Int.ediv_nonneg (Int.not_lt.1 hge) (Int.le_of_lt hi)
      omega
    rw [Int.toNat_of_nonpos (Int.le_of_lt hneg)]
    exact abs_le.2 ⟨by omega, by omega⟩
  · rw [Int.toNat_of_nonneg (by omega)]
    exact abs_le.2 ⟨by omega, by omega⟩

theorem dropped_inside (hi : 0 < i) (hl : later.Regular i d) {k : Nat}
    (hk : k < later.overlapCount earlier) : later.start + i * k + i ≤ earlier.stop + i / 2 := by
  have hq := Int.mul_ediv_self_le (x := earlier.stop - later.start + i / 2) (Int.ne_of_gt hi)
  rw [overlapCount_def, hl.interval] at hk
  obtain ⟨n, hn⟩ : ∃ n : Nat, (earlier.stop - later.start + i / 2) / i = n :=
    Int.eq_ofNat_of_zero_le (by omega)
  rw [hn] at hq hk
  have hle := mul_succ_le hi (show k < n by omega)
  omega

theorem Joined.drawn (h : Joined earlier later target) (hi : 0 < i) (he : earlier.Regular i d)
    (hl : later.Regular i d') (hgap : later.start - earlier.stop ≤ i / d) {x : Int} {v : Int32}
    (hx : target.Holds x v) :
    earlier.Holds x v ∨ ∃ y, later.Holds y v ∧ |x - y| ≤ slack i d := by
  obtain ⟨k, hk, rfl⟩ := (h.regular he).holds_iff.1 hx
  rw [h.samples] at hk
  rw [h.head.start]
  by_cases hlt : k < earlier.samples.length
  · rw [List.getElem?_append_left hlt] at hk
    exact .inl (he.holds_iff.2 ⟨k, hk, rfl⟩)
  · rw [List.getElem?_append_right (by omega), List.getElem?_drop, he.sound.length_samples] at hk
    rw [he.sound.length_samples] at hlt
    have hn : later.overlapCount earlier < later.length := by
      have := (List.getElem?_eq_some_iff.1 hk).1
      rw [hl.sound.length_samples] at this
      omega
    have hshift : earlier.start + i * k -
        (later.start + i * (later.overlapCount earlier + (k - earlier.length) : Nat)) =
        earlier.stop - later.start - i * later.overlapCount earlier := by
      rw [he.stop_eq]
      push_cast [Nat.le_of_not_lt hlt]
      ring
    refine .inr ⟨_, hl.holds_iff.2 ⟨_, hk, rfl⟩, ?_⟩
    rw [hshift]
    exact kept_shift hi hl hgap hn

theorem Joined.kept (h : Joined earlier later target) (hi : 0 < i) (he : earlier.Regular i d)
    (hl : later.Regular i d') (hgap : later.start - earlier.stop ≤ i / d) {k : Nat} {v : Int32}
    (hk : later.overlapCount earlier ≤ k) (hv : later.samples[k]? = some v) :
    target.samples[earlier.length + (k - later.overlapCount earlier)]? = some v ∧
    |target.start + i * (earlier.length + (k - later.overlapCount earlier) : Nat) -
      (later.start + i * k)| ≤ slack i d := by
  have hlt := (List.getElem?_eq_some_iff.1 hv).1
  rw [hl.sound.length_samples] at hlt
  constructor
  · rw [h.samples, List.getElem?_append_right (by rw [he.sound.length_samples]; omega),
      he.sound.length_samples, Nat.add_sub_cancel_left, List.getElem?_drop, Nat.add_sub_of_le hk]
    exact hv
  · have hshift : target.start + i * (earlier.length + (k - later.overlapCount earlier) : Nat) -
        (later.start + i * k) = earlier.stop - later.start - i * later.overlapCount earlier := by
      rw [h.head.start, he.stop_eq]
      push_cast [hk]
      ring
    rw [hshift]
    exact kept_shift hi hl hgap (by omega)

theorem Joined.covers (h : Joined earlier later target) (hi : 0 < i) (he : earlier.Regular i d)
    (hl : later.Regular i d') (hgap : later.start - earlier.stop ≤ i / d)
    (hs : earlier.start ≤ later.start) {y : Int} {w : Int32} (hy : later.Holds y w) :
    ∃ x v, target.Holds x v ∧ |x - y| ≤ slack i d := by
  obtain ⟨k, hk, rfl⟩ := hl.holds_iff.1 hy
  have hnn := Int.mul_nonneg (Int.le_of_lt hi) (Int.natCast_nonneg k)
  by_cases hdrop : k < later.overlapCount earlier
  · obtain ⟨x, v, hx, hnear⟩ :=
      he.nearest hi (show earlier.start ≤ later.start + i * k by omega)
        (dropped_inside hi hl hdrop)
    exact ⟨x, v, h.keeps hx, hnear.trans (le_max_left _ _)⟩
  · obtain ⟨hplace, hnear⟩ := h.kept hi he hl hgap (Nat.le_of_not_lt hdrop) hk
    exact ⟨_, w, (h.regular he).holds_iff.2 ⟨_, hplace, rfl⟩, hnear⟩

theorem Joined.stop_eq_add (h : Joined earlier later target) (he : earlier.Regular i d)
    (hl : later.Regular i d') :
    target.stop = earlier.stop + i * (later.length - later.overlapCount earlier : Nat) := by
  have hle : later.overlapCount earlier ≤ later.length := Nat.min_le_right _ _
  have hlength : target.length = earlier.length + (later.length - later.overlapCount earlier) := by
    rw [← h.sound.length_samples, h.samples, List.length_append, List.length_drop,
      he.sound.length_samples, hl.sound.length_samples]
  rw [(h.regular he).stop_eq, h.head.start, he.stop_eq, hlength]
  push_cast [hle]
  ring

/-- A merge takes the end of the earlier segment to about where the union of the two ends. -/
theorem Joined.stop_near (h : Joined earlier later target) (hi : 0 < i)
    (he : earlier.Regular i d) (hl : later.Regular i d')
    (hgap : later.start - earlier.stop ≤ i / d) :
    |target.stop - max earlier.stop later.stop| ≤ slack i d := by
  have hle : later.overlapCount earlier ≤ later.length := Nat.min_le_right _ _
  have hstop := h.stop_eq_add he hl
  by_cases hn : later.overlapCount earlier < later.length
  · -- a sample is kept, so the later segment ends last, and its end moves with the sample
    have hlast : earlier.stop < later.stop := by
      by_contra hc
      rw [covered_count hi hl (by omega)] at hn
      omega
    have hshift : target.stop - later.stop =
        earlier.stop - later.start - i * later.overlapCount earlier := by
      rw [hstop, hl.stop_eq]
      push_cast [hle]
      ring
    rw [max_eq_right (by omega), hshift]
    exact kept_shift hi hl hgap hn
  · have hall : later.overlapCount earlier = later.length := by omega
    have hsame : target.stop = earlier.stop := by simp [hstop, hall]
    have hreach : later.stop ≤ earlier.stop + slack i d := by
      rw [slack, hl.stop_eq]
      cases hlen : later.length with
      | zero =>
        rw [Int.natCast_zero, Int.mul_zero]
        omega
      | succ n =>
        have hdrop := dropped_inside hi hl (show n < later.overlapCount earlier by omega)
        push_cast
        rw [Int.mul_add, Int.mul_one]
        omega
    have hnn : 0 ≤ slack i d := by
      rw [slack]
      omega
    rw [hsame]
    exact abs_le.2 ⟨by omega, by omega⟩

end SeedStream.Segment
