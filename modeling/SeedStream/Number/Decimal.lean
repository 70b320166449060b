import SeedStream.Number.Binary

/-!
# Decimal texts of binary numbers

The digits of a finite number are the fewest that read back as the number and,
among those, the nearest ones. How digits become text (where positional
notation ends, what follows a whole number) is a `DecimalStyle`.
-/

set_option autoImplicit false

namespace SeedStream

/-- The number `digits * 10 ^ exponent`. -/
structure Decimal where
  digits : Nat
  exponent : Int
deriving DecidableEq, Repr

inductive TieRule
  | up
  | even
deriving DecidableEq, Repr

/-- The open or closed interval of values that read as one binary number. All
bounds share the denominator `den`. -/
structure ReadBack where
  low : Nat
  value : Nat
  high : Nat
  den : Nat
  closed : Bool
deriving Repr

namespace ReadBack

/-- The interval around `mantissa * 2 ^ exponent`. Below a power of two the
numbers lie twice as close, unless it is the least exponent. -/
def ofDyadic (f : BinaryFormat) (mantissa : Nat) (exponent : Int) : ReadBack :=
  let tight := mantissa = Nat.pow 2 f.fractionBits ∧ f.leastExponent < exponent
  let (unit, den) := dyadic 1 (exponent - 2)
  { low := (4 * mantissa - if tight then 1 else 2) * unit
    value := 4 * mantissa * unit
    high := (4 * mantissa + 2) * unit
    den := den
    closed := mantissa % 2 == 0 }

def holds (r : ReadBack) (num den : Nat) : Bool :=
  if r.closed then r.low * den ≤ num * r.den && num * r.den ≤ r.high * den
  else r.low * den < num * r.den && num * r.den < r.high * den

/-- The grid point chosen among the two neighbours of the value on the grid of
multiples of `10 ^ e`, if one of them lies in the interval. -/
def onGrid (r : ReadBack) (tie : TieRule) (e : Int) : Option Nat :=
  let up := Nat.pow 10 e.toNat
  let down := Nat.pow 10 (-e).toNat
  let lower := r.value * down / (r.den * up)
  let lowerFits := r.holds (lower * up) down
  let upperFits := r.holds ((lower + 1) * up) down
  if lowerFits && upperFits then
    let rest := 2 * (r.value * down % (r.den * up))
    if rest < r.den * up then some lower
    else if r.den * up < rest then some (lower + 1)
    else match tie with
      | .up => some (lower + 1)
      | .even => some (lower + lower % 2)
  else if lowerFits then some lower
  else if upperFits then some (lower + 1)
  else none

def search (r : ReadBack) (tie : TieRule) : Nat → Int → Decimal
  | 0, e => ⟨r.value * Nat.pow 10 (-e).toNat / (r.den * Nat.pow 10 e.toNat), e⟩
  | fuel + 1, e =>
    match r.onGrid tie e with
    | some d => if d = 0 then search r tie fuel (e - 1) else ⟨d, e⟩
    | none => search r tie fuel (e - 1)

end ReadBack

def digitCount (n : Nat) : Nat :=
  (Nat.toDigits 10 n).length

/-- A number `k` with `num / den < 10 ^ k`, at most two too large. -/
def decimalScale (num den : Nat) : Int :=
  (digitCount num : Int) - (digitCount den : Int) + 1

def Decimal.trimZeros : Nat → Decimal → Decimal
  | 0, d => d
  | fuel + 1, d =>
    if d.digits ≠ 0 ∧ d.digits % 10 = 0 then trimZeros fuel ⟨d.digits / 10, d.exponent + 1⟩
    else d

/-- The fewest digits that read back as `mantissa * 2 ^ exponent`. -/
def shortestDecimal (f : BinaryFormat) (tie : TieRule) (mantissa : Nat) (exponent : Int) :
    Decimal :=
  let r := ReadBack.ofDyadic f mantissa exponent
  Decimal.trimZeros 20 (r.search tie 22 (decimalScale r.value r.den))

/-- How digits become text. A number whose first digit stands at a place between
`firstPlace` and `lastPlace` (1 is the units' place, 0 the tenths') is written
without an exponent. -/
structure DecimalStyle where
  tie : TieRule
  firstPlace : Option Int
  lastPlace : Option Int
  whole : String
  plus : String
deriving Repr

namespace DecimalStyle

def plain : DecimalStyle := ⟨.up, none, none, "", ""⟩

/-- Diagnostic text: an exponent below `1e-4` and from `1e16` on. -/
def diagnostic : DecimalStyle := ⟨.up, some (-3), some 16, ".0", ""⟩

def report : DecimalStyle := ⟨.even, some (-4), some 16, ".0", "+"⟩

def reportSingle : DecimalStyle := ⟨.even, some (-5), some 13, ".0", "+"⟩

def positional (s : DecimalStyle) (place : Int) : Bool :=
  (match s.firstPlace with | some p => p ≤ place | none => true) &&
    (match s.lastPlace with | some p => place ≤ p | none => true)

def zeros (n : Nat) : String :=
  String.ofList (List.replicate n '0')

def write (s : DecimalStyle) (d : Decimal) : String :=
  let digits := Nat.toDigits 10 d.digits
  let place : Int := digits.length + d.exponent
  if s.positional place then
    if 0 ≤ d.exponent then String.ofList digits ++ zeros d.exponent.toNat ++ s.whole
    else if 0 < place then
      String.ofList (digits.take place.toNat) ++ "." ++ String.ofList (digits.drop place.toNat)
    else "0." ++ zeros (-place).toNat ++ String.ofList digits
  else
    let tail := if digits.length ≤ 1 then "" else "." ++ String.ofList (digits.drop 1)
    let sign := if 0 < place then s.plus else ""
    String.ofList (digits.take 1) ++ tail ++ "e" ++ sign ++ toString (place - 1)

def text (s : DecimalStyle) (f : BinaryFormat) : BinaryReading → String
  | .nan => "NaN"
  | .infinite negative => if negative then "-inf" else "inf"
  | .finite negative mantissa exponent =>
    let sign := if negative then "-" else ""
    if mantissa = 0 then sign ++ "0" ++ s.whole
    else sign ++ s.write (shortestDecimal f s.tie mantissa exponent)

end DecimalStyle

def onePlace : BinaryReading → String
  | .nan => "NaN"
  | .infinite negative => if negative then "-inf" else "inf"
  | .finite negative mantissa exponent =>
    let (num, den) := dyadic mantissa exponent
    let tenths := roundHalfEven (10 * num) den
    (if negative then "-" else "") ++ toString (tenths / 10) ++ "." ++ toString (tenths % 10)

namespace Binary64

def plainText (x : Binary64) : String := DecimalStyle.plain.text .double x.read
def diagnosticText (x : Binary64) : String := DecimalStyle.diagnostic.text .double x.read
def onePlaceText (x : Binary64) : String := onePlace x.read

def reportText? (x : Binary64) : Option String :=
  match x.read with
  | .finite n m e => some (DecimalStyle.report.text .double (.finite n m e))
  | _ => none

end Binary64

def Binary32.reportText? (x : Binary32) : Option String :=
  match x.read with
  | .finite n m e => some (DecimalStyle.reportSingle.text .single (.finite n m e))
  | _ => none

end SeedStream
