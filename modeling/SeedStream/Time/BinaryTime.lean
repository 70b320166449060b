import SeedStream.Error
import SeedStream.Time.Timestamp

/-!
# The start time field of a record

A time field holds a year, a day of the year, a clock time and ten-thousandths
of a second. It stands for a point in time; a leap second counts as the second
after it.
-/

set_option autoImplicit false

namespace SeedStream

structure BinaryTime where
  year : UInt16
  dayOfYear : UInt16
  hour : UInt8
  minute : UInt8
  second : UInt8
  /-- Ten-thousandths of a second. -/
  fraction : UInt16
deriving DecidableEq, Repr, Inhabited

inductive TimeFault
  | date (year dayOfYear : UInt16)
  | fields (hour minute second : UInt8) (fraction : UInt16)
  | clock (hour minute : UInt8)
  | noDate (micros : Int)
  | noYear (year : Int)
deriving DecidableEq, Repr

namespace TimeFault

def message : TimeFault → String
  | .date year day => s!"invalid date {year.toNat}-{Text.zeroPad 3 day.toNat}"
  | .fields hour minute second fraction =>
    s!"invalid time {Text.zeroPad 2 hour.toNat}:{Text.zeroPad 2 minute.toNat}:" ++
      s!"{Text.zeroPad 2 second.toNat}.{Text.zeroPad 4 fraction.toNat}"
  | .clock hour minute => s!"invalid time {Text.zeroPad 2 hour.toNat}:{Text.zeroPad 2 minute.toNat}"
  | .noDate micros => s!"timestamp {micros} out of range"
  | .noYear year => s!"year {year} out of range"

def toError (f : TimeFault) : StreamError :=
  .decode "BTime" f.message

end TimeFault

namespace BinaryTime

def toMicros (t : BinaryTime) : Except TimeFault Int :=
  let year : Int := t.year.toNat
  let day : Int := t.dayOfYear.toNat
  if day < 1 ∨ Calendar.yearLength year < day then .error (.date t.year t.dayOfYear)
  else if 60 < t.second.toNat ∨ 9999 < t.fraction.toNat then
    .error (.fields t.hour t.minute t.second t.fraction)
  else if 23 < t.hour.toNat ∨ 59 < t.minute.toNat then .error (.clock t.hour t.minute)
  else
    let days := Calendar.dayNumber year day - Calendar.epochDay
    let seconds := days * 86400 + t.hour.toNat * 3600 + t.minute.toNat * 60 + t.second.toNat
    .ok (seconds * 1000000 + t.fraction.toNat * 100)

/-- The time field of a point in time, cut to 100 microseconds. -/
def ofMicros (micros : Int) : Except TimeFault BinaryTime :=
  match Timestamp.civil? micros with
  | none => .error (.noDate micros)
  | some c =>
    if c.year < 0 ∨ 65535 < c.year then .error (.noYear c.year)
    else .ok
      { year := UInt16.ofNat c.year.toNat
        dayOfYear := UInt16.ofNat c.day.toNat
        hour := UInt8.ofNat c.hour.toNat
        minute := UInt8.ofNat c.minute.toNat
        second := UInt8.ofNat c.second.toNat
        fraction := UInt16.ofNat (c.micro / 100).toNat }

end BinaryTime
end SeedStream
