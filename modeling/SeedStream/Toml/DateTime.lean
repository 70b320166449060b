import SeedStream.Text
import SeedStream.Time.Calendar

/-!
# Dates and times of TOML

A date of the Gregorian calendar, a time of day, or both with or without an
offset from universal time. Each is read into its normal form: `T` between date
and time, `Z` in capitals, at most nine digits behind the second without zeros
at the end, and no minus sign on an offset of nothing.
-/

set_option autoImplicit false

namespace SeedStream.Toml

def decimalValue (digits : List Char) : Nat :=
  digits.foldl (fun n c => n * 10 + (c.toNat - 0x30)) 0

def fixedDigits (count : Nat) (cs : List Char) : Option (Nat × List Char) :=
  let digits := cs.take count
  if digits.length = count ∧ digits.all Char.isDigit then
    some (decimalValue digits, cs.drop count)
  else none

def markedDigits (mark : Char) (count : Nat) : List Char → Option (Nat × List Char)
  | c :: cs => if c = mark then fixedDigits count cs else none
  | [] => none

def monthLength (year month : Nat) : Int :=
  (Calendar.monthLengths (Calendar.isLeap year)).getD (month - 1) 0

def readDate (cs : List Char) : Option (String × List Char) := do
  let (year, cs) ← fixedDigits 4 cs
  let (month, cs) ← markedDigits '-' 2 cs
  let (day, cs) ← markedDigits '-' 2 cs
  if 1 ≤ month ∧ month ≤ 12 ∧ 1 ≤ day ∧ (day : Int) ≤ monthLength year month then
    some (Text.zeroPad 4 year ++ "-" ++ Text.zeroPad 2 month ++ "-" ++ Text.zeroPad 2 day, cs)
  else none

def fractionText (digits : List Char) : String :=
  match ((digits.take 9).reverse.dropWhile (· == '0')).reverse with
  | [] => ""
  | kept => "." ++ String.ofList kept

/-- A time of day, and what follows. A minute may have 61 seconds. -/
def readTime (cs : List Char) : Option (String × List Char) := do
  let (hour, cs) ← fixedDigits 2 cs
  let (minute, cs) ← markedDigits ':' 2 cs
  let (second, cs) ← markedDigits ':' 2 cs
  let text := Text.zeroPad 2 hour ++ ":" ++ Text.zeroPad 2 minute ++ ":" ++ Text.zeroPad 2 second
  if 23 < hour ∨ 59 < minute ∨ 60 < second then none
  else match cs with
    | '.' :: rest =>
      match rest.takeWhile Char.isDigit with
      | [] => none
      | digits => some (text ++ fractionText digits, rest.dropWhile Char.isDigit)
    | _ => some (text, cs)

def readOffset (cs : List Char) : Option (String × List Char) :=
  match cs with
  | c :: rest =>
    if c = 'Z' ∨ c = 'z' then some ("Z", rest)
    else if c = '+' ∨ c = '-' then do
      let (hour, rest) ← fixedDigits 2 rest
      let (minute, rest) ← markedDigits ':' 2 rest
      let sign := if c = '-' ∧ 0 < hour + minute then "-" else "+"
      if hour ≤ 23 ∧ minute ≤ 59 then
        some (sign ++ Text.zeroPad 2 hour ++ ":" ++ Text.zeroPad 2 minute, rest)
      else none
    else some ("", cs)
  | [] => some ("", cs)

def readTimeBehind (cs : List Char) : Option (String × List Char) :=
  match cs with
  | c :: rest =>
    if c = 'T' ∨ c = 't' ∨ c = ' ' then
      match readTime rest with
      | some (time, after) =>
        (readOffset after).map fun (offset, after) => ("T" ++ time ++ offset, after)
      | none => some ("", cs)
    else some ("", cs)
  | [] => some ("", cs)

def readDateTime (cs : List Char) : Option (String × List Char) :=
  match readDate cs with
  | some (date, rest) => (readTimeBehind rest).map fun (time, rest) => (date ++ time, rest)
  | none => readTime cs

end SeedStream.Toml
