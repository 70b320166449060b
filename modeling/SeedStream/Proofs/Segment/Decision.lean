import SeedStream.Proofs.Segment.Reachable
import SeedStream.Proofs.Segment.Words

/-!
# What a merge comes to

A merge is refused if the intervals differ or if the gap between the two segments is wider
than the tolerance of the target. If the segment starts first, the two change places before
anything is merged, and the gap is measured again by the tolerance of the new target. Where
that one is narrower the merge may be refused after the exchange, and the two segments come
back in each other's place. Segments of one divisor are never handed back so, and their
union has one description in whichever order they are given. All of this is decided by
differences of times, and where 64 bits do not hold these, segments may be merged across the
widest of gaps.
-/

set_option autoImplicit false

namespace SeedStream.Segment

/-- Of a segment and its target the one that starts first; the target if both start together. -/
def leading (s t : Segment) : Segment := if t.start ≤ s.start then t else s

def trailing (s t : Segment) : Segment := if t.start ≤ s.start then s else t

/-- The time from the end of the segment that leads to the start of the other one. It is
below zero if they overlap. -/
def gap (s t : Segment) : Int := (trailing s t).start - (leading s t).stop

/-- The segment starts first, and the gap is narrow enough for the target but not for it. -/
def Exchanges (s t : Segment) : Prop :=
  s.interval = t.interval ∧ s.start < t.start ∧ s.tolerance < gap s t ∧
  gap s t ≤ t.tolerance

instance (s t : Segment) : Decidable (Exchanges s t) := inferInstanceAs (Decidable (_ ∧ _))

inductive Decision (s t : Segment) : MergeOutcome → Prop
  | mismatch (h : s.interval ≠ t.interval) :
      Decision s t (.refused (.intervalMismatch t.interval s.interval) t s)
  | apart (text : String) (hi : s.interval = t.interval) (h : t.tolerance < gap s t) :
      Decision s t (.refused (.mergeRange (gap s t) text) t s)
  | exchanged (text : String) (h : Exchanges s t) :
      Decision s t (.refused (.mergeRange (gap s t) text) s t)
  | merged {target : Segment} (hi : s.interval = t.interval) (h : gap s t ≤ t.tolerance)
      (hlead : gap s t ≤ (leading s t).tolerance)
      (hj : Joined (leading s t) (trailing s t) target) : Decision s t (.merged target)

variable {s t target : Segment}

theorem leading_of_le (h : t.start ≤ s.start) : leading s t = t := if_pos h

theorem trailing_of_le (h : t.start ≤ s.start) : trailing s t = s := if_pos h

theorem leading_of_lt (h : s.start < t.start) : leading s t = s := if_neg (Int.not_le.2 h)

theorem trailing_of_lt (h : s.start < t.start) : trailing s t = t := if_neg (Int.not_le.2 h)

theorem gap_of_le (h : t.start ≤ s.start) : gap s t = s.start - t.stop := by
  rw [gap, leading_of_le h, trailing_of_le h]

theorem gap_of_lt (h : s.start < t.start) : gap s t = t.start - s.stop := by
  rw [gap, leading_of_lt h, trailing_of_lt h]

theorem Proper.start_le_stop (h : s.Proper) : s.start ≤ s.stop :=
  Paced.start_le_stop ⟨rfl, rfl⟩ h.1

theorem Proper.tolerance_nonneg (h : s.Proper) : 0 ≤ s.tolerance :=
  Int.ediv_nonneg (Int.le_of_lt h.1) (Int.le_of_lt h.2)

/-- A segment that starts first and is not refused at once is the target of the former
target. -/
theorem mergeInto_reentered (h : s.start < t.start) (hnone : s.mergeRefusal t = none) :
    s.mergeInto t = t.mergeInto s := by
  have hbehind : ¬ t.start ≤ s.start := Int.not_le.2 h
  have hle : s.start ≤ t.start := Int.le_of_lt h
  rw [mergeInto_def, mergeInto_def, hnone]
  cases t.mergeRefusal s <;> simp [coveredBy_def, hbehind, hle]

/-- By the first look a segment that starts first is refused for the gap behind it alone. -/
theorem mergeRefusal_earlier (ht : t.Proper) (hi : s.interval = t.interval)
    (h : s.start < t.start) : s.mergeRefusal t =
      if t.tolerance < gap s t then
        some (.mergeRange (gap s t) "target starts after the end of the segment")
      else none := by
  have hspan := ht.start_le_stop
  have htol := ht.tolerance_nonneg
  rw [mergeRefusal_def, if_neg (by simp [hi]), if_neg (by omega), gap_of_lt h]

theorem decision_of_le (hs : s.Reachable) (ht : t.Reachable) (hi : s.interval = t.interval)
    (h : t.start ≤ s.start) : Decision s t (s.mergeInto t) := by
  have hgap := gap_of_le h
  have hregular : s.Regular t.interval s.jitterDivisor := ⟨hs.sound, hi, rfl⟩
  rcases mergeInto_later ht.proper.1 ht.proper.2 ht.regular hregular h with
    ⟨hwide, text, hm⟩ | ⟨hnarrow, target, hm, hj⟩
  · rw [hm, ← hgap]
    exact .apart text hi (hgap ▸ hwide)
  · rw [hm]
    refine .merged hi (hgap ▸ hnarrow) ?_ ?_
    · rw [leading_of_le h]
      exact hgap ▸ hnarrow
    · rwa [leading_of_le h, trailing_of_le h]

theorem decision_of_lt (hs : s.Reachable) (ht : t.Reachable) (hi : s.interval = t.interval)
    (h : s.start < t.start) : Decision s t (s.mergeInto t) := by
  have hgap := gap_of_lt h
  have hlook := mergeRefusal_earlier ht.proper hi h
  by_cases hfirst : t.tolerance < gap s t
  · rw [if_pos hfirst] at hlook
    rw [mergeInto_def, hlook]
    exact .apart _ hi hfirst
  · -- the two have changed places: now the tolerance of `s` counts
    rw [if_neg hfirst] at hlook
    rw [mergeInto_reentered h hlook]
    have hregular : t.Regular s.interval t.jitterDivisor := ⟨ht.sound, hi.symm, rfl⟩
    rcases mergeInto_later hs.proper.1 hs.proper.2 hs.regular hregular (Int.le_of_lt h) with
      ⟨hwide, text, hm⟩ | ⟨hnarrow, target, hm, hj⟩
    · rw [hm, ← hgap]
      exact .exchanged text ⟨hi, h, hgap ▸ hwide, Int.not_lt.1 hfirst⟩
    · rw [hm]
      refine .merged hi (Int.not_lt.1 hfirst) ?_ ?_
      · rw [leading_of_lt h]
        exact hgap ▸ hnarrow
      · rwa [leading_of_lt h, trailing_of_lt h]

theorem mergeInto_decision (hs : s.Reachable) (ht : t.Reachable) :
    Decision s t (s.mergeInto t) := by
  by_cases hi : s.interval = t.interval
  · rcases Int.lt_or_le s.start t.start with h | h
    · exact decision_of_lt hs ht hi h
    · exact decision_of_le hs ht hi h
  · rw [mergeInto_def, mergeRefusal_def, if_pos hi]
    exact .mismatch hi

theorem Exchanges.divisor_ne (h : s.Exchanges t) : s.jitterDivisor ≠ t.jitterDivisor := by
  intro hd
  obtain ⟨hi, -, hwide, hnarrow⟩ := h
  rw [tolerance, hi, hd] at hwide
  exact absurd hwide (Int.not_lt.2 hnarrow)

/-- Once the two have changed places, the gap is too wide for the new target. -/
theorem Exchanges.leading_tolerance (h : s.Exchanges t) :
    (leading s t).tolerance < gap s t := by
  rw [leading_of_lt h.2.1]
  exact h.2.2.1

theorem mismatch_refused (m : Arithmetic) (h : s.interval ≠ t.interval) :
    s.mergeIn m t = .refused (.intervalMismatch t.interval s.interval) t s := by
  simp only [mergeIn, mergeRefusalIn, if_pos h]

theorem mergeIn_decision (m : Arithmetic) (hs : s.Reachable) (ht : t.Reachable)
    (hw : FitWords s.interval 0 [s, t]) : Decision s t (s.mergeIn m t) := by
  by_cases hi : s.interval = t.interval
  · obtain ⟨a, b, hspan, hwithin⟩ := hw
    obtain ⟨hsw, hrest⟩ := List.forall_mem_cons.1 hwithin
    have htw := List.forall_mem_singleton.1 hrest
    have hpos := hs.proper.1
    have hpaced : t.Paced s.interval t.jitterDivisor := ⟨hi.symm, rfl⟩
    rw [mergeIn_eq m (hspan.mono (by omega)) hpos hsw hs.regular.paced htw hpaced]
    exact mergeInto_decision hs ht
  · rw [mismatch_refused m hi]
    exact .mismatch hi

/-- A refused merge hands both segments back, it may be in each other's place. Where 64 bits hold
the times, a merge is refused for different intervals, for a gap that is too wide for the
target, and for one that is too wide once the two have changed places. In this last case, which
takes two divisors, they come back exchanged; in the others both come back as they were. -/
theorem refused_returns (hs : s.Reachable) (ht : t.Reachable) :
    (∀ error target back, s.mergeIn .wrapping t = .refused error target back →
      (target, back) = (t, s) ∨ (target, back) = (s, t)) ∧
    (FitWords s.interval 0 [s, t] →
      ((∃ error target back, s.mergeIn .wrapping t = .refused error target back) ↔
        s.interval ≠ t.interval ∨ t.tolerance < gap s t ∨ s.Exchanges t) ∧
      ∀ error target back, s.mergeIn .wrapping t = .refused error target back →
        (target, back) = if s.Exchanges t then (s, t) else (t, s)) ∧
    (s.Exchanges t → s.jitterDivisor ≠ t.jitterDivisor) := by
  refine ⟨?_, fun hw => ?_, Exchanges.divisor_ne⟩
  · intro error target back hm
    cases hm ▸ mergeIn_outcome .wrapping s t with
    | refused => exact .inl rfl
    | exchanged => exact .inr rfl
  have hdecision := mergeIn_decision .wrapping hs ht hw
  refine ⟨⟨?_, ?_⟩, ?_⟩
  · rintro ⟨error, target, back, hm⟩
    cases hm ▸ hdecision with
    | mismatch h => exact .inl h
    | apart text hi h => exact .inr (.inl h)
    | exchanged text h => exact .inr (.inr h)
  · intro hwhy
    cases hm : s.mergeIn .wrapping t with
    | refused error target back => exact ⟨error, target, back, rfl⟩
    | merged target =>
      cases hm ▸ hdecision with
      | merged hi h hlead hj =>
        rcases hwhy with hne | hwide | hexchange
        · exact absurd hi hne
        · exact absurd hwide (Int.not_lt.2 h)
        · exact absurd hexchange.leading_tolerance (Int.not_lt.2 hlead)
  · intro error target back hm
    cases hm ▸ hdecision with
    | mismatch h => rw [if_neg fun hexchange => h hexchange.1]
    | apart text hi h => rw [if_neg fun hexchange => absurd h (Int.not_lt.2 hexchange.2.2.2)]
    | exchanged text h => rw [if_pos h]

/-- A gap of 0.4 s, of which the tolerance of one segment is a tenth of a second and that of
the other one half a second. Whichever is merged into the other, the second is handed back. -/
theorem refused_returns_of_gap :
    ∃ s t : Segment, s.Reachable ∧ t.Reachable ∧ FitWords s.interval 0 [s, t] ∧
      FitWords t.interval 0 [t, s] ∧ s.samples = [1, 2, 3] ∧ t.samples = [4, 5] ∧
      s.stop = 3000000 ∧ t.start = 3400000 ∧ s.Exchanges t ∧ ¬ t.Exchanges s ∧
      (∃ error, s.mergeIn .wrapping t = .refused error s t) ∧
      ∃ error, t.mergeIn .wrapping s = .refused error s t := by
  let s := everySecond 0 10 1 [1, 2, 3]
  let t := everySecond 3400000 2 1 [4, 5]
  have hs : s.Reachable := everySecond_reachable 0 10 1 [1, 2, 3]
  have ht : t.Reachable := everySecond_reachable 3400000 2 1 [4, 5]
  have hw : FitWords s.interval 0 [s, t] := ⟨0, 6000000, by decide +kernel, by decide +kernel⟩
  have hw' : FitWords t.interval 0 [t, s] := ⟨0, 6000000, by decide +kernel, by decide +kernel⟩
  have hexchange : s.Exchanges t := by decide +kernel
  have hkeep : ¬ t.Exchanges s := by decide +kernel
  have hwide : s.tolerance < gap t s := by decide +kernel
  obtain ⟨hthere, hback⟩ := (refused_returns hs ht).2.1 hw
  obtain ⟨hthere', hback'⟩ := (refused_returns ht hs).2.1 hw'
  obtain ⟨error, target, back, hm⟩ := hthere.2 (.inr (.inr hexchange))
  obtain ⟨error', target', back', hm'⟩ := hthere'.2 (.inr (.inl hwide))
  have hpair := hback _ _ _ hm
  have hpair' := hback' _ _ _ hm'
  rw [if_pos hexchange] at hpair
  rw [if_neg hkeep] at hpair'
  obtain ⟨rfl, rfl⟩ := Prod.mk.inj hpair
  obtain ⟨rfl, rfl⟩ := Prod.mk.inj hpair'
  exact ⟨s, t, hs, ht, hw, hw', by decide +kernel, by decide +kernel, by decide +kernel,
    by decide +kernel, hexchange, hkeep, ⟨error, hm⟩, error', hm'⟩

/-- A refused merge does not always leave the target as it was and hand the segment back. -/
theorem refused_returns_differs :
    ¬ ∀ (s t : Segment) (error : StreamError) (target back : Segment), s.Reachable →
      t.Reachable →
      s.mergeIn .wrapping t = .refused error target back →
      (SameHead t target ∧ target.samples = t.samples) ∧
        SameHead s back ∧ back.samples = s.samples := by
  intro hall
  let s := everySecond 0 10 1 [1, 2, 3]
  let t := everySecond 3400000 2 1 [4, 5]
  have hm : s.mergeIn .wrapping t =
      .refused (.mergeRange 400000 "segment starts after the end of the target") s t := by
    decide +kernel
  obtain ⟨⟨hhead, -⟩, -⟩ := hall _ _ _ _ _ (everySecond_reachable 0 10 1 [1, 2, 3])
    (everySecond_reachable 3400000 2 1 [4, 5]) hm
  exact absurd hhead.start (by decide)

/-- The samples at the head of a later segment that an earlier one takes the place of: the
overlap in whole intervals, half an interval counted as one, at least none and at most all. -/
def dropCount (i : Int) (earlier later : Segment) : Nat :=
  (min (max 0 ((earlier.stop - later.start + i / 2) / i)) later.length).toNat

variable {i d : Int} {earlier later : Segment}

theorem overlapCount_eq (h : later.interval = i) :
    later.overlapCount earlier = dropCount i earlier later := by
  rw [overlapCount_def, dropCount, h]
  omega

end SeedStream.Segment
