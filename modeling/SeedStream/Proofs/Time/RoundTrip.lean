import SeedStream.Proofs.Time.Calendar

/-!
# Time fields and points in time

A time field with a day of the calendar and a time of the clock stands for one point in
time, and the points in time of the years that a field has room for are each cut to the
point of one field. So going from points to fields and back loses what lies below 100
microseconds, and going from fields to points and back loses nothing but a leap second.
-/

set_option autoImplicit false

namespace SeedStream.BinaryTime
open Calendar

variable {t : BinaryTime} {m : Int}

def days (t : BinaryTime) : Int := dayNumber t.year.toNat t.dayOfYear.toNat - epochDay

def clock (t : BinaryTime) : Int := t.hour.toNat * 3600 + t.minute.toNat * 60 + t.second.toNat

/-- The fields are those of a day of the calendar and of a time of the clock; only a leap
second comes behind the 59th. -/
structure IsValid (t : BinaryTime) : Prop where
  first : 1 ≤ t.dayOfYear.toNat
  last : (t.dayOfYear.toNat : Int) ≤ yearLength t.year.toNat
  hour : t.hour.toNat ≤ 23
  minute : t.minute.toNat ≤ 59
  second : t.second.toNat ≤ 60
  fraction : t.fraction.toNat ≤ 9999

theorem toMicros_eq_ok : t.toMicros = .ok m ↔
    t.IsValid ∧ m = (t.days * 86400 + t.clock) * 1000000 + t.fraction.toNat * 100 := by
  unfold toMicros
  dsimp only
  constructor
  · intro h
    split at h
    next => cases h
    next hdate =>
      split at h
      next => cases h
      next hfields =>
        split at h
        next => cases h
        next hclock =>
          cases h
          refine ⟨⟨by omega, by omega, by omega, by omega, by omega, by omega⟩, ?_⟩
          rw [days, clock]
          omega
  · rintro ⟨hv, rfl⟩
    have hfirst := hv.first
    have hlast := hv.last
    have hhour := hv.hour
    have hminute := hv.minute
    have hsecond := hv.second
    have hfraction := hv.fraction
    rw [if_neg (by omega), if_neg (by omega), if_neg (by omega), days, clock]
    congr 1
    omega

theorem IsValid.days_bounds (hv : t.IsValid) : daysBefore t.year.toNat - epochDay ≤ t.days ∧
    t.days < daysBefore (t.year.toNat + 1) - epochDay := by
  have hfirst := hv.first
  have hlast := hv.last
  rw [days, dayNumber, daysBefore_succ]
  omega

theorem IsValid.clock_bounds (hv : t.IsValid) : 0 ≤ t.clock ∧ t.clock ≤ 86400 := by
  have hhour := hv.hour
  have hminute := hv.minute
  have hsecond := hv.second
  rw [clock]
  omega

theorem range_of_ofMicros (h : ofMicros m = .ok t) :
    startOfYear 0 ≤ m ∧ m < startOfYear 65536 := by
  unfold ofMicros Timestamp.civil? at h
  dsimp only at h
  split at h
  next => cases h
  next c hc =>
    split at hc
    next =>
      cases hc
      dsimp only at h
      split at h
      next => cases h
      next hyear =>
        obtain ⟨hnumber, hday, hlen⟩ := yearAndDay_spec (m / 1000000 / 86400 + epochDay)
        generalize yearAndDay (m / 1000000 / 86400 + epochDay) = found at *
        have hsucc := daysBefore_succ found.1
        have hlo := daysBefore_le (show 0 ≤ found.1 by omega)
        have hhi := daysBefore_le (show found.1 + 1 ≤ 65536 by omega)
        rw [dayNumber] at hnumber
        rw [startOfYear, startOfYear]
        omega
    next => cases hc

/-- The point in time of a field whose second is no leap second is divided into the fields. -/
theorem IsValid.civil? (hv : t.IsValid) (hs : t.second.toNat ≤ 59)
    (hm : m = (t.days * 86400 + t.clock) * 1000000 + t.fraction.toNat * 100) :
    Timestamp.civil? m = some
      { year := t.year.toNat, day := t.dayOfYear.toNat, hour := t.hour.toNat
        minute := t.minute.toNat, second := t.second.toNat, micro := t.fraction.toNat * 100 } := by
  have hhour := hv.hour
  have hminute := hv.minute
  have hfraction := hv.fraction
  have hclock : 0 ≤ t.clock ∧ t.clock < 86400 := by
    rw [clock]
    omega
  have hseconds : m / 1000000 = t.days * 86400 + t.clock := by omega
  have hday : m / 1000000 / 86400 = t.days := by omega
  have hrest : m / 1000000 % 86400 = t.clock := by omega
  have hfound : yearAndDay (m / 1000000 / 86400 + epochDay) =
      ((t.year.toNat : Int), (t.dayOfYear.toNat : Int)) := by
    have hfirst := hv.first
    rw [hday, days, Int.sub_add_cancel]
    exact yearAndDay_dayNumber (by omega) hv.last
  have hrange : startOfYear 0 ≤ m ∧ m < startOfYear 65536 := by
    obtain ⟨hlo, hhi⟩ := hv.days_bounds
    have hyear := t.year.toNat_lt
    have hzero := daysBefore_le (show (0 : Int) ≤ t.year.toNat by omega)
    have htop := daysBefore_le (show (t.year.toNat + 1 : Int) ≤ 65536 by omega)
    rw [startOfYear, startOfYear]
    omega
  rw [civil?_eq hrange.1 hrange.2, hfound, hrest]
  simp only [Option.some.injEq, Timestamp.Civil.mk.injEq, true_and]
  rw [clock]
  omega

theorem ofMicros_toMicros (hs : t.second.toNat ≤ 59) (h : t.toMicros = .ok m) :
    ofMicros m = .ok t := by
  obtain ⟨hv, hm⟩ := toMicros_eq_ok.1 h
  have hyear := t.year.toNat_lt
  rw [ofMicros, hv.civil? hs hm]
  dsimp only
  rw [if_neg (by omega), Int.mul_ediv_cancel _ (by decide)]
  simp only [Int.toNat_natCast, UInt8.ofNat_toNat, UInt16.ofNat_toNat]

theorem toMicros_ofMicros (h : ofMicros m = .ok t) : t.toMicros = .ok (m - m % 100) := by
  obtain ⟨hlo, hhi⟩ := range_of_ofMicros h
  obtain ⟨t', ht', hmicros, -⟩ := ofMicros_spec 0 65535 (by decide) (by decide) hlo hhi
  cases h.symm.trans ht'
  exact hmicros

/-- Exactly the points in time of the years 0 to 65535 have a time field. The field of a point
stands for that point, cut to 100 microseconds, also before the epoch. A field that stands for
a point in time is the field of that point, unless its second is a leap second. -/
theorem micros_restored :
    (∀ m, (∃ t, ofMicros m = .ok t) ↔ startOfYear 0 ≤ m ∧ m < startOfYear 65536) ∧
    (∀ m t, ofMicros m = .ok t → t.toMicros = .ok (m - m % 100)) ∧
    ∀ (t : BinaryTime) m, t.second.toNat ≤ 59 → t.toMicros = .ok m →
      ofMicros m = .ok t := by
  refine ⟨fun m => ⟨?_, ?_⟩, fun m t => toMicros_ofMicros, fun t m => ofMicros_toMicros⟩
  · rintro ⟨t, ht⟩
    exact range_of_ofMicros ht
  · rintro ⟨hlo, hhi⟩
    obtain ⟨t, ht, -⟩ := ofMicros_spec 0 65535 (by decide) (by decide) hlo hhi
    exact ⟨t, ht⟩

/-- The microsecond before the epoch, and the last day of a year that is divisible by 400. -/
theorem micros_restored_of_ends :
    ofMicros (-1) = .ok ⟨1969, 365, 23, 59, 59, 9999⟩ ∧
    toMicros ⟨1969, 365, 23, 59, 59, 9999⟩ = .ok (-100) ∧
    (59 : UInt8).toNat ≤ 59 ∧
    toMicros ⟨2000, 366, 23, 59, 59, 9999⟩ = .ok 978307199999900 ∧
    ofMicros 978307199999900 = .ok ⟨2000, 366, 23, 59, 59, 9999⟩ := by
  obtain ⟨-, hcut, hback⟩ := micros_restored
  have hbefore : ofMicros (-1) = .ok ⟨1969, 365, 23, 59, 59, 9999⟩ := rfl
  have hlast : toMicros ⟨2000, 366, 23, 59, 59, 9999⟩ = .ok 978307199999900 := rfl
  exact ⟨hbefore, hcut _ _ hbefore, by decide, hlast, hback _ _ (by decide) hlast⟩

end SeedStream.BinaryTime
