import SeedStream.Proofs.Segment.Merging

/-!
# How far a segment reaches

The end of a segment is computed from its start, its interval and its length, none of
which is bounded by itself. But it lies one interval behind the last sample, and a
sample has a time of its own nearby. A merge draws its samples from the two segments, so
its end is bounded by theirs, and the bound does not grow with the number of merges.
-/

set_option autoImplicit false

namespace SeedStream

def InRange (x : Int) : Prop := -2 ^ 62 < x ∧ x < 2 ^ 62

instance (x : Int) : Decidable (InRange x) := inferInstanceAs (Decidable (_ ∧ _))

namespace Segment

structure Within (a b : Int) (s : Segment) : Prop where
  start : a ≤ s.start
  stop : s.stop ≤ b

/-- The times of a segment are in range, and what they are computed from; so is its end
at every length it had on the way. -/
structure TimesInRange (s : Segment) : Prop where
  start : InRange s.start
  stop : InRange s.stop
  span : InRange (s.interval * s.length)
  tolerance : InRange s.tolerance
  growing : ∀ n ≤ s.length, InRange (s.start + s.interval * n)

/-- What is computed to merge a segment into a target is in range. The segment does not
start before the target, so the two do not change places. -/
structure MergeInRange (s target : Segment) : Prop where
  times : s.TimesInRange
  targetTimes : target.TimesInRange
  ordered : target.start ≤ s.start
  after : InRange (s.start - target.stop)
  before : InRange (target.start - s.stop)
  overlap : InRange (target.stop - s.start)
  rounded : InRange (target.stop - s.start + s.interval / 2)

variable {i d a b : Int} {s earlier later target : Segment}

theorem Within.mono {c : Int} (h : s.Within a b) (hc : b ≤ c) : s.Within a c :=
  ⟨h.start, h.stop.trans hc⟩

theorem Regular.stop_le (h : s.Regular i d) (hstart : s.start ≤ b)
    (hx : ∀ x v, s.Holds x v → x + i ≤ b) : s.stop ≤ b := by
  cases hn : s.length with
  | zero =>
    rw [h.stop_eq, hn]
    simpa using hstart
  | succ n =>
    have hlt : n < s.samples.length := by
      rw [h.sound.length_samples]
      omega
    have hlast := hx _ _ (h.holds_iff.2 ⟨n, List.getElem?_eq_getElem hlt, rfl⟩)
    calc s.stop = s.start + i * n + i := by
          rw [h.stop_eq, hn]
          push_cast
          ring
      _ ≤ b := hlast

/-- However far the earlier segment was extended before, a merge takes its end no more
than the slack behind the later one. -/
theorem Joined.within (h : Joined earlier later target) (hi : 0 < i) (he : earlier.Regular i d)
    (hl : later.Regular i d) (hgap : later.start - earlier.stop ≤ i / d)
    (hearlier : earlier.Within a (b + slack i d)) (hlater : later.Within a b) :
    target.Within a (b + slack i d) := by
  refine ⟨h.head.start ▸ hearlier.start, (h.regular he).stop_le ?_ ?_⟩
  · rw [h.head.start]
    exact (he.length_le_stop hi).trans hearlier.stop
  · intro x v hx
    rcases h.drawn hi he hl hgap hx with hx | ⟨y, hy, hnear⟩
    · exact (he.holds_span hi hx).2.trans hearlier.stop
    · have hspan := (hl.holds_span hi hy).2
      have hstop := hlater.stop
      have hshift := (abs_le.1 hnear).2
      omega

theorem slack_le (hi : 0 < i) : slack i d ≤ i :=
  max_le (Int.ediv_le_self _ (Int.le_of_lt hi)) (Int.ediv_le_self _ (Int.le_of_lt hi))

theorem Within.timesInRange (h : s.Within a b) (hp : s.Paced i d) (hi : 0 < i) (hd : 0 < d)
    (ha : -2 ^ 60 < a) (hb : b < 2 ^ 61) (hile : i ≤ 2 ^ 60) : s.TimesInRange := by
  have hspan := hp.start_le_stop hi
  have hstop := hp.stop_eq
  have htol : 0 ≤ i / d := Int.ediv_nonneg (Int.le_of_lt hi) (Int.le_of_lt hd)
  have htol' : i / d ≤ i := Int.ediv_le_self _ (Int.le_of_lt hi)
  obtain ⟨hfirst, hlast⟩ := h
  refine ⟨⟨by omega, by omega⟩, ⟨by omega, by omega⟩, ?_, ?_, ?_⟩
  · rw [hp.interval]
    exact ⟨by omega, by omega⟩
  · rw [hp.tolerance_eq]
    exact ⟨by omega, by omega⟩
  · intro n hn
    have hnn := Int.mul_nonneg (Int.le_of_lt hi) (Int.natCast_nonneg n)
    have hle : i * n ≤ i * s.length :=
      Int.mul_le_mul_of_nonneg_left (Int.ofNat_le.2 hn) (Int.le_of_lt hi)
    rw [hp.interval]
    exact ⟨by omega, by omega⟩

theorem Within.mergeInRange (hs : s.Within a b) (ht : target.Within a b) (hsp : s.Paced i d)
    (htp : target.Paced i d) (hle : target.start ≤ s.start) (hi : 0 < i) (hd : 0 < d)
    (ha : -2 ^ 60 < a) (hb : b < 2 ^ 61) (hile : i ≤ 2 ^ 60) : s.MergeInRange target := by
  have hspan := hsp.start_le_stop hi
  have htarget := htp.start_le_stop hi
  have hinterval := hsp.interval
  have hfirst := hs.start
  have hlast := hs.stop
  have htfirst := ht.start
  have htlast := ht.stop
  exact
    { times := hs.timesInRange hsp hi hd ha hb hile
      targetTimes := ht.timesInRange htp hi hd ha hb hile
      ordered := hle
      after := ⟨by omega, by omega⟩
      before := ⟨by omega, by omega⟩
      overlap := ⟨by omega, by omega⟩
      rounded := ⟨by omega, by omega⟩ }

end Segment
end SeedStream
