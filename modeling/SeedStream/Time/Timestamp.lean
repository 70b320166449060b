import SeedStream.Number.Binary
import SeedStream.Text
import SeedStream.Time.Calendar

/-!
# Points and spans in time

A point in time is a number of microseconds since 1970-01-01 UTC. Dates exist
for the years -262143 to 262142; outside them only the number is shown. A span in
microseconds is shown to readers in its two largest units.
-/

set_option autoImplicit false

namespace SeedStream.Timestamp

def firstSecond : Int := -8334601228800
def lastSecond : Int := 8210266876799

structure Civil where
  year : Int
  day : Int
  hour : Int
  minute : Int
  second : Int
  micro : Int
deriving DecidableEq, Repr

def civil? (micros : Int) : Option Civil :=
  let seconds := micros / 1000000
  if firstSecond ≤ seconds ∧ seconds ≤ lastSecond then
    let (year, day) := Calendar.yearAndDay (seconds / 86400 + Calendar.epochDay)
    let clock := seconds % 86400
    some { year := year, day := day, hour := clock / 3600, minute := clock / 60 % 60,
           second := clock % 60, micro := micros % 1000000 }
  else none

/-- Four digits, and a sign outside the years 0 to 9999. -/
def yearText (year : Int) : String :=
  if 0 ≤ year ∧ year ≤ 9999 then Text.zeroPad 4 year.toNat
  else (if year < 0 then "-" else "+") ++ Text.zeroPad 4 year.natAbs

def textWith (dateMark timeMark tail : String) (micros : Int) : String :=
  match civil? micros with
  | none => s!"{micros} us"
  | some c =>
    let (month, day) := Calendar.monthAndDay c.year c.day
    let two := fun n : Int => Text.zeroPad 2 n.toNat
    yearText c.year ++ dateMark ++ two month ++ dateMark ++ two day ++ timeMark ++
      two c.hour ++ ":" ++ two c.minute ++ ":" ++ two c.second ++ "." ++
      Text.zeroPad 6 c.micro.toNat ++ tail

/-- For running text: `2023/11/14 22:13:20.000000`. -/
def text (micros : Int) : String := textWith "/" " " "" micros

/-- For reports: `2023-11-14T22:13:20.000000Z`. -/
def reportText (micros : Int) : String := textWith "-" "T" "Z" micros

end SeedStream.Timestamp

namespace SeedStream.Duration

/-- For instance `1d 1h`, `2h 0m`, `1m 30s`, `1.500s` or `40ms`. -/
def text (micros : Int) : String :=
  let seconds := Int.tdiv micros 1000000
  let millis := Int.tdiv (Int.tmod micros 1000000) 1000
  if 86400 ≤ seconds then s!"{seconds / 86400}d {seconds % 86400 / 3600}h"
  else if 3600 ≤ seconds then s!"{seconds / 3600}h {seconds % 3600 / 60}m"
  else if 60 ≤ seconds then s!"{seconds / 60}m {seconds % 60}s"
  else if 0 < seconds then s!"{seconds}." ++ Text.zeroPad 3 millis.toNat ++ "s"
  else s!"{millis}ms"

/-- Nanoseconds as seconds with three decimal places. -/
def secondsText (nanos : Nat) : String :=
  let millis := roundHalfEven nanos 1000000
  s!"{millis / 1000}." ++ Text.zeroPad 3 (millis % 1000)

end SeedStream.Duration
