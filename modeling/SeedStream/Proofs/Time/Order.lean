import SeedStream.Proofs.Time.RoundTrip

/-!
# The order of time fields

Time fields are ordered by year, day, hour, minute, second and fraction in turn. Each part
counts less than one of the part before it, so valid fields are ordered as the points in time
they stand for. A leap second is the exception: it stands for the same point as the second
behind it, which is the first one of the next minute.
-/

set_option autoImplicit false

namespace SeedStream.BinaryTime
open Calendar

variable {t u : BinaryTime} {m n : Int}

/-- The parts of a time field, the largest unit first. -/
def parts (t : BinaryTime) : List Nat :=
  [t.year.toNat, t.dayOfYear.toNat, t.hour.toNat, t.minute.toNat, t.second.toNat,
    t.fraction.toNat]

def minutes (t : BinaryTime) : Int := t.days * 1440 + t.hour.toNat * 60 + t.minute.toNat

theorem toMicros_minutes : t.toMicros = .ok m ↔
    t.IsValid ∧ m = (t.minutes * 60 + t.second.toNat) * 1000000 + t.fraction.toNat * 100 := by
  rw [toMicros_eq_ok, clock, minutes]
  refine and_congr_right fun _ => ?_
  omega

namespace IsValid

theorem days_lt_iff (hv : t.IsValid) (hw : u.IsValid) : t.days < u.days ↔
    t.year.toNat < u.year.toNat ∨
      t.year.toNat = u.year.toNat ∧ t.dayOfYear.toNat < u.dayOfYear.toNat := by
  obtain ⟨hlo, hhi⟩ := hv.days_bounds
  obtain ⟨hlo', hhi'⟩ := hw.days_bounds
  rcases Nat.lt_trichotomy t.year.toNat u.year.toNat with hyear | hyear | hyear
  · have hle := daysBefore_le (show (t.year.toNat + 1 : Int) ≤ u.year.toNat by omega)
    omega
  · rw [days, days, dayNumber, dayNumber, hyear]
    omega
  · have hle := daysBefore_le (show (u.year.toNat + 1 : Int) ≤ t.year.toNat by omega)
    omega

theorem minutes_lt_iff (hv : t.IsValid) (hw : u.IsValid) : t.minutes < u.minutes ↔
    [t.year.toNat, t.dayOfYear.toNat, t.hour.toNat, t.minute.toNat] <
      [u.year.toNat, u.dayOfYear.toNat, u.hour.toNat, u.minute.toNat] := by
  have hlt := hv.days_lt_iff hw
  have hgt := hw.days_lt_iff hv
  have hhour := hv.hour
  have hhour' := hw.hour
  have hminute := hv.minute
  have hminute' := hw.minute
  simp only [List.cons_lt_cons_iff, List.lt_irrefl, and_false, or_false, minutes]
  omega

end IsValid

/-- The seconds of a minute and the fraction are less than a minute, so the minutes decide
first. -/
theorem parts_lt_iff (ht : t.second.toNat ≤ 59) (hu : u.second.toNat ≤ 59)
    (hm : t.toMicros = .ok m) (hn : u.toMicros = .ok n) : t.parts < u.parts ↔ m < n := by
  obtain ⟨hv, rfl⟩ := toMicros_minutes.1 hm
  obtain ⟨hw, rfl⟩ := toMicros_minutes.1 hn
  have hlt := hv.minutes_lt_iff hw
  have hgt := hw.minutes_lt_iff hv
  have hfraction := hv.fraction
  have hfraction' := hw.fraction
  simp only [List.cons_lt_cons_iff, List.lt_irrefl, and_false, or_false] at hlt hgt
  simp only [parts, List.cons_lt_cons_iff, List.lt_irrefl, and_false, or_false]
  omega

theorem toMicros_leap (hs : t.second = 60) :
    t.toMicros = .ok (m + 1000000) ↔ ({ t with second := 59 } : BinaryTime).toMicros = .ok m := by
  have hvalid : t.IsValid ↔ ({ t with second := 59 } : BinaryTime).IsValid :=
    ⟨fun h => ⟨h.first, h.last, h.hour, h.minute, (by decide : 59 ≤ 60), h.fraction⟩,
      fun h => ⟨h.first, h.last, h.hour, h.minute, hs ▸ Nat.le_refl 60, h.fraction⟩⟩
  have hminutes : ({ t with second := 59 } : BinaryTime).minutes = t.minutes := rfl
  rw [toMicros_minutes, toMicros_minutes, hvalid, hminutes, hs]
  refine and_congr_right fun _ => ?_
  simp only [UInt8.reduceToNat]
  omega

/-- The same fraction of the first second of the next minute, if its year has room in a field. -/
def nextMinute? (t : BinaryTime) : Option BinaryTime :=
  if t.minute.toNat < 59 then some { t with minute := t.minute + 1, second := 0 }
  else if t.hour.toNat < 23 then some { t with hour := t.hour + 1, minute := 0, second := 0 }
  else if (t.dayOfYear.toNat : Int) < yearLength t.year.toNat then
    some { t with dayOfYear := t.dayOfYear + 1, hour := 0, minute := 0, second := 0 }
  else if t.year.toNat < 65535 then
    some { t with year := t.year + 1, dayOfYear := 1, hour := 0, minute := 0, second := 0 }
  else none

theorem toNat_succ_byte {x : UInt8} (h : x.toNat < 255) : (x + 1).toNat = x.toNat + 1 := by
  rw [UInt8.toNat_add]
  exact Nat.mod_eq_of_lt (Nat.succ_lt_succ h)

theorem toNat_succ_word {x : UInt16} (h : x.toNat < 65535) : (x + 1).toNat = x.toNat + 1 := by
  rw [UInt16.toNat_add]
  exact Nat.mod_eq_of_lt (Nat.succ_lt_succ h)

/-- Where a part is counted up, every smaller one but the second is at its end. -/
theorem IsValid.nextMinute (hv : t.IsValid) (hu : t.nextMinute? = some u) :
    u.IsValid ∧ u.minutes = t.minutes + 1 ∧ u.second = 0 ∧ u.fraction = t.fraction := by
  have hlast := hv.last
  have hhour := hv.hour
  have hminute := hv.minute
  have hlength : ∀ year, 1 ≤ yearLength year ∧ yearLength year ≤ 366 := by
    intro year
    rcases yearLength_cases year with ⟨-, hlength⟩ | ⟨-, hlength⟩ <;> omega
  unfold nextMinute? at hu
  split at hu
  next hlt =>
    cases hu
    have hup := toNat_succ_byte (show t.minute.toNat < 255 by omega)
    refine ⟨⟨hv.first, hlast, hhour, hup ▸ hlt, Nat.zero_le _, hv.fraction⟩, ?_, rfl, rfl⟩
    simp only [minutes, days, hup]
    omega
  next =>
    split at hu
    next hlt =>
      cases hu
      have hup := toNat_succ_byte (show t.hour.toNat < 255 by omega)
      refine ⟨⟨hv.first, hlast, hup ▸ hlt, Nat.zero_le _, Nat.zero_le _, hv.fraction⟩, ?_,
        rfl, rfl⟩
      simp only [minutes, days, hup, UInt8.toNat_zero]
      omega
    next =>
      split at hu
      next hlt =>
        cases hu
        have hshort := (hlength t.year.toNat).2
        have hup := toNat_succ_word (show t.dayOfYear.toNat < 65535 by omega)
        refine ⟨⟨hup ▸ Nat.succ_pos _, ?_, Nat.zero_le _, Nat.zero_le _, Nat.zero_le _,
          hv.fraction⟩, ?_, rfl, rfl⟩
        · simp only [hup]
          omega
        · simp only [minutes, days, dayNumber, hup, UInt8.toNat_zero]
          omega
      next =>
        split at hu
        next hlt =>
          cases hu
          have hup : ((t.year + 1).toNat : Int) = t.year.toNat + 1 :=
            congrArg Nat.cast (toNat_succ_word hlt)
          have hsucc := daysBefore_succ t.year.toNat
          refine ⟨⟨Nat.le_refl 1, ?_, Nat.zero_le _, Nat.zero_le _, Nat.zero_le _,
            hv.fraction⟩, ?_, rfl, rfl⟩
          · exact (hlength _).1
          · simp only [minutes, days, dayNumber, hup, UInt8.toNat_zero, UInt16.toNat_one]
            omega
        next => cases hu

theorem toMicros_nextMinute (h : t.toMicros = .ok m) (hu : t.nextMinute? = some u) :
    u.toMicros = .ok (m + (60 - t.second.toNat) * 1000000) := by
  obtain ⟨hv, rfl⟩ := toMicros_minutes.1 h
  obtain ⟨hw, hminutes, hsecond, hfraction⟩ := hv.nextMinute hu
  refine toMicros_minutes.2 ⟨hw, ?_⟩
  rw [hminutes, hsecond, hfraction, UInt8.toNat_zero]
  omega

/-- Only the last minute of all years that a field has room for is not followed by another. -/
theorem startOfYear_le_of_nextMinute (h : t.toMicros = .ok m) (hs : t.second = 60)
    (hu : t.nextMinute? = none) : startOfYear 65536 ≤ m := by
  obtain ⟨hv, rfl⟩ := toMicros_minutes.1 h
  have hyear := t.year.toNat_lt
  have hsucc : daysBefore 65536 = daysBefore 65535 + yearLength 65535 := daysBefore_succ 65535
  unfold nextMinute? at hu
  split at hu
  next => cases hu
  next hminute =>
    split at hu
    next => cases hu
    next hhour =>
      split at hu
      next => cases hu
      next hday =>
        split at hu
        next => cases hu
        next hfull =>
          have hend : (t.year.toNat : Int) = 65535 := by omega
          rw [hend] at hday
          rw [hs, minutes, days, dayNumber, hend, startOfYear]
          simp only [UInt8.reduceToNat]
          omega

/-- Without leap seconds, time fields are ordered, part by part, as the points in time they stand
for. A leap second stands for a point if the second before it does, for the one a second later,
which is that of the next minute with the same fraction. -/
theorem micros_ordered :
    (∀ (t u : BinaryTime) m n, t.second.toNat ≤ 59 → u.second.toNat ≤ 59 →
      t.toMicros = .ok m → u.toMicros = .ok n → (t.parts < u.parts ↔ m < n)) ∧
    ∀ t : BinaryTime, t.second = 60 →
      (∀ m, t.toMicros = .ok (m + 1000000) ↔
        ({ t with second := 59 } : BinaryTime).toMicros = .ok m) ∧
      ∀ m, t.toMicros = .ok m → (∀ u, t.nextMinute? = some u → u.toMicros = .ok m) ∧
        (t.nextMinute? = none → startOfYear 65536 ≤ m) := by
  refine ⟨fun t u m n => parts_lt_iff, fun t hs => ⟨fun m => toMicros_leap hs, ?_⟩⟩
  intro m hm
  refine ⟨fun u hu => ?_, startOfYear_le_of_nextMinute hm hs⟩
  have hnext := toMicros_nextMinute hm hu
  rw [hs] at hnext
  simpa using hnext

/-- The last field of a leap year and the first one behind it, and the leap second at the end of
another leap year. -/
theorem micros_ordered_of_leap :
    toMicros ⟨2000, 366, 23, 59, 59, 9999⟩ = .ok 978307199999900 ∧
    toMicros ⟨2001, 1, 0, 0, 0, 0⟩ = .ok 978307200000000 ∧
    parts ⟨2000, 366, 23, 59, 59, 9999⟩ < parts ⟨2001, 1, 0, 0, 0, 0⟩ ∧
    toMicros ⟨2016, 366, 23, 59, 60, 5000⟩ = .ok (1483228799500000 + 1000000) ∧
    toMicros ⟨2016, 366, 23, 59, 59, 5000⟩ = .ok 1483228799500000 ∧
    nextMinute? ⟨2016, 366, 23, 59, 60, 5000⟩ = some ⟨2017, 1, 0, 0, 0, 5000⟩ ∧
    toMicros ⟨2017, 1, 0, 0, 0, 5000⟩ = .ok (1483228799500000 + 1000000) := by
  obtain ⟨horder, hleap⟩ := micros_ordered
  have hlast : toMicros ⟨2000, 366, 23, 59, 59, 9999⟩ = .ok 978307199999900 := rfl
  have hfirst : toMicros ⟨2001, 1, 0, 0, 0, 0⟩ = .ok 978307200000000 := rfl
  have hbefore : toMicros ⟨2016, 366, 23, 59, 59, 5000⟩ = .ok 1483228799500000 := rfl
  have hnext : nextMinute? ⟨2016, 366, 23, 59, 60, 5000⟩ = some ⟨2017, 1, 0, 0, 0, 5000⟩ :=
    rfl
  obtain ⟨hbehind, hminute⟩ := hleap ⟨2016, 366, 23, 59, 60, 5000⟩ rfl
  have hpoint := (hbehind _).2 hbefore
  exact ⟨hlast, hfirst, (horder _ _ _ _ (by decide) (by decide) hlast hfirst).2 (by decide),
    hpoint, hbefore, hnext, (hminute _ hpoint).1 _ hnext⟩

end SeedStream.BinaryTime
