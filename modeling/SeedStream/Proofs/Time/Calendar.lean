import Mathlib.Data.Int.Order.Basic
import SeedStream.Time.BinaryTime

/-!
# Dates and back

The year of a day and the place in the year are those of the day: counting the
days before the year and adding the place gives the day again. A time field made
of a point in time stands for that point, cut to 100 microseconds.
-/

set_option autoImplicit false

namespace SeedStream

namespace Calendar

def startOfYear (year : Int) : Int := (daysBefore year - epochDay) * 86400000000

theorem isLeap_iff (year : Int) :
    isLeap year = true ↔ year % 4 = 0 ∧ (year % 100 ≠ 0 ∨ year % 400 = 0) := by
  simp [isLeap]

theorem yearLength_cases (year : Int) :
    (isLeap year = true ∧ yearLength year = 366) ∨
      (isLeap year = false ∧ yearLength year = 365) := by
  unfold yearLength
  cases isLeap year
  · exact .inr ⟨rfl, rfl⟩
  · exact .inl ⟨rfl, rfl⟩

theorem daysBefore_succ (year : Int) :
    daysBefore (year + 1) = daysBefore year + yearLength year := by
  unfold daysBefore
  rcases yearLength_cases year with ⟨hleap, hlen⟩ | ⟨hleap, hlen⟩
  · rw [isLeap_iff] at hleap
    omega
  · rw [← Bool.not_eq_true, isLeap_iff] at hleap
    omega

theorem daysBefore_le {a b : Int} (h : a ≤ b) : daysBefore a ≤ daysBefore b := by
  unfold daysBefore
  omega

theorem daysBefore_cycles {a b c e : Int} (hb : 0 ≤ b ∧ b ≤ 3) (hc : 0 ≤ c ∧ c ≤ 24)
    (he : 0 ≤ e ∧ e ≤ 3) : daysBefore (400 * a + 100 * b + 4 * c + e + 1) =
      146097 * a + 36524 * b + 1461 * c + 365 * e := by
  have hfour : (400 * a + 100 * b + 4 * c + e + 1 - 1) / 4 = 100 * a + 25 * b + c := by omega
  have hcentury : (400 * a + 100 * b + 4 * c + e + 1 - 1) / 100 = 4 * a + b := by omega
  have hcycle : (400 * a + 100 * b + 4 * c + e + 1 - 1) / 400 = a := by omega
  rw [daysBefore, hfour, hcentury, hcycle]
  omega

/-- The fourth year of four is a leap year, except at the end of most centuries. -/
theorem yearLength_cycles {a b c : Int} (hc : 0 ≤ c ∧ c ≤ 24)
    (h : c = 24 → b = 3) : yearLength (400 * a + 100 * b + 4 * c + 3 + 1) = 366 := by
  have hleap : isLeap (400 * a + 100 * b + 4 * c + 3 + 1) = true := by
    rw [isLeap_iff]
    omega
  rw [yearLength, hleap]
  rfl

theorem yearAndDay_spec (number : Int) :
    dayNumber (yearAndDay number).1 (yearAndDay number).2 = number ∧
      1 ≤ (yearAndDay number).2 ∧
      (yearAndDay number).2 ≤ yearLength (yearAndDay number).1 := by
  unfold yearAndDay
  dsimp only
  generalize ha : number / 146097 = a
  generalize hr : number % 146097 = r
  generalize hb : min (r / 36524) 3 = b
  generalize hs : r - b * 36524 = s
  generalize hc : s / 1461 = c
  generalize hf : s % 1461 = f
  generalize he : min (f / 365) 3 = e
  have hb' : 0 ≤ b ∧ b ≤ 3 := by omega
  have hc' : 0 ≤ c ∧ c ≤ 24 := by omega
  have he' : 0 ≤ e ∧ e ≤ 3 := by omega
  refine ⟨?_, by omega, ?_⟩
  · rw [dayNumber, daysBefore_cycles hb' hc' he']
    omega
  -- Only the fourth year of a cycle has a last day with this place.
  · by_cases hlast : f - e * 365 = 365
    · have he3 : e = 3 := by omega
      subst he3
      rw [yearLength_cycles hc' (by omega)]
      omega
    · have hlen : 365 ≤ yearLength (400 * a + 100 * b + 4 * c + e + 1) := by
        rcases yearLength_cases (400 * a + 100 * b + 4 * c + e + 1) with
          ⟨-, hlen⟩ | ⟨-, hlen⟩ <;>
          omega
      omega

theorem year_bounds (number : Int) {first last : Int}
    (hlo : daysBefore first ≤ number)
    (hhi : number < daysBefore (last + 1)) :
    first ≤ (yearAndDay number).1 ∧ (yearAndDay number).1 ≤ last := by
  obtain ⟨hnumber, hday, hlen⟩ := yearAndDay_spec number
  have hsucc := daysBefore_succ (yearAndDay number).1
  rw [dayNumber] at hnumber
  constructor
  · by_contra hlt
    have hmono := daysBefore_le (show (yearAndDay number).1 + 1 ≤ first by omega)
    omega
  · by_contra hlt
    have hmono := daysBefore_le (show last + 1 ≤ (yearAndDay number).1 by omega)
    omega

theorem yearAndDay_dayNumber {year day : Int} (hday : 1 ≤ day) (hlen : day ≤ yearLength year) :
    yearAndDay (dayNumber year day) = (year, day) := by
  have hsucc := daysBefore_succ year
  have hnumber := (yearAndDay_spec (dayNumber year day)).1
  obtain ⟨hlo, hhi⟩ := year_bounds (dayNumber year day)
    (show daysBefore year ≤ _ by rw [dayNumber]; omega)
    (show _ < daysBefore (year + 1) by rw [dayNumber]; omega)
  generalize yearAndDay (dayNumber year day) = found at *
  have hyear : found.1 = year := by omega
  rw [hyear, dayNumber, dayNumber] at hnumber
  exact Prod.ext hyear (by omega)

end Calendar

namespace BinaryTime
open Calendar

theorem civil?_eq {m : Int} (hlo : startOfYear 0 ≤ m) (hhi : m < startOfYear 65536) :
    Timestamp.civil? m = some
      { year := (yearAndDay (m / 1000000 / 86400 + epochDay)).1
        day := (yearAndDay (m / 1000000 / 86400 + epochDay)).2
        hour := m / 1000000 % 86400 / 3600
        minute := m / 1000000 % 86400 / 60 % 60
        second := m / 1000000 % 86400 % 60
        micro := m % 1000000 } := by
  have hstart : startOfYear 0 = -62167219200000000 := by decide
  have hend : startOfYear 65536 = 2005949145600000000 := by decide
  have hrange : Timestamp.firstSecond ≤ m / 1000000 ∧ m / 1000000 ≤ Timestamp.lastSecond := by
    rw [Timestamp.firstSecond, Timestamp.lastSecond]
    omega
  rw [Timestamp.civil?, if_pos hrange]

theorem toNat_word {x : Int} (h : 0 ≤ x ∧ x < 65536) :
    ((UInt16.ofNat x.toNat).toNat : Int) = x := by
  have hlt : x.toNat < 2 ^ 16 := by omega
  rw [UInt16.toNat_ofNat', Nat.mod_eq_of_lt hlt]
  omega

theorem toNat_byte {x : Int} (h : 0 ≤ x ∧ x < 256) :
    ((UInt8.ofNat x.toNat).toNat : Int) = x := by
  have hlt : x.toNat < 2 ^ 8 := by omega
  rw [UInt8.toNat_ofNat', Nat.mod_eq_of_lt hlt]
  omega

theorem toMicros_eq {t : BinaryTime} {year day hour minute second fraction : Int}
    (hyear : (t.year.toNat : Int) = year) (hday : (t.dayOfYear.toNat : Int) = day)
    (hhour : (t.hour.toNat : Int) = hour) (hminute : (t.minute.toNat : Int) = minute)
    (hsecond : (t.second.toNat : Int) = second) (hfraction : (t.fraction.toNat : Int) = fraction)
    (hdate : 1 ≤ day ∧ day ≤ yearLength year) (hclock : hour < 24 ∧ minute < 60)
    (hfields : second < 60 ∧ fraction < 10000) :
    t.toMicros =
      .ok (((dayNumber year day - epochDay) * 86400 + hour * 3600 + minute * 60 + second) *
        1000000 + fraction * 100) := by
  rw [toMicros, hyear, hday, hhour, hminute, hsecond, hfraction, if_neg (by omega),
    if_neg (by omega), if_neg (by omega)]

theorem ofMicros_spec {m : Int} (first last : Int) (hfirst : 0 ≤ first) (hlast : last ≤ 65535)
    (hlo : startOfYear first ≤ m) (hhi : m < startOfYear (last + 1)) :
    ∃ t, ofMicros m = .ok t ∧ t.toMicros = .ok (m - m % 100) ∧
      first ≤ t.year.toNat ∧ t.year.toNat ≤ last ∧
      1 ≤ t.dayOfYear.toNat ∧ t.dayOfYear.toNat ≤ 366 := by
  have hzero := daysBefore_le hfirst
  have htop := daysBefore_le (show last + 1 ≤ 65536 by omega)
  rw [startOfYear] at hlo hhi
  have hcivil := civil?_eq (m := m) (by rw [startOfYear]; omega) (by rw [startOfYear]; omega)
  obtain ⟨hyear, hyear'⟩ := year_bounds (m / 1000000 / 86400 + epochDay)
    (show daysBefore first ≤ _ by omega) (show _ < daysBefore (last + 1) by omega)
  obtain ⟨hnumber, hday, hlen⟩ := yearAndDay_spec (m / 1000000 / 86400 + epochDay)
  generalize (yearAndDay (m / 1000000 / 86400 + epochDay)).1 = y at *
  generalize (yearAndDay (m / 1000000 / 86400 + epochDay)).2 = day at *
  have hlen' : day ≤ 366 := by
    rcases yearLength_cases y with ⟨-, h⟩ | ⟨-, h⟩ <;> omega
  have hy : ((UInt16.ofNat y.toNat).toNat : Int) = y := toNat_word (by omega)
  have hd : ((UInt16.ofNat day.toNat).toNat : Int) = day := toNat_word (by omega)
  have hmicros := toMicros_eq (t := ⟨.ofNat y.toNat, .ofNat day.toNat,
      .ofNat (m / 1000000 % 86400 / 3600).toNat, .ofNat (m / 1000000 % 86400 / 60 % 60).toNat,
      .ofNat (m / 1000000 % 86400 % 60).toNat, .ofNat (m % 1000000 / 100).toNat⟩)
    hy hd (toNat_byte (by omega)) (toNat_byte (by omega)) (toNat_byte (by omega))
    (toNat_word (by omega)) ⟨hday, hlen⟩ (by omega) (by omega)
  rw [ofMicros, hcivil]
  dsimp only
  rw [if_neg (by omega)]
  refine ⟨_, rfl, ?_, ?_⟩
  · rw [hmicros, hnumber]
    congr 1
    omega
  · dsimp only
    omega

end BinaryTime
end SeedStream
