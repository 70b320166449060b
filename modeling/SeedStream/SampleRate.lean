import SeedStream.Error

/-!
# Sample rates

A rate fixes a whole number of microseconds between samples. A record header
holds a rate as a factor and a multiplier. Both conversions are exact rational
arithmetic with one rounding to double precision where stated.
-/

set_option autoImplicit false

namespace SeedStream

def fractionLe (a b : Nat × Nat) : Bool :=
  a.1 * b.2 ≤ b.1 * a.2

namespace SampleRate

/-- The fastest rate: one sample per microsecond. -/
def fastest : Nat × Nat := (1000000, 1)

def slowest : Nat × Nat := dyadic 4791834382764139 (-77)

def tooFast (rate : Binary64) : StreamError :=
  .sampleRate rate "sample rate has exceeded 1 sample per microsecond"

def tooSlow (rate : Binary64) : StreamError :=
  .sampleRate rate "sample rate must be greater than 1 sample per year"

/-- For each `k` from 1, the largest double whose common logarithm, as a double,
is at most `-k`. -/
def decadeBounds : List (Nat × Nat) :=
  [dyadic 7205759403792794 (-56), dyadic 5764607523034236 (-59), dyadic 4611686018427390 (-62),
    dyadic 7378697629483824 (-66), dyadic 5902958103587062 (-69), dyadic 4722366482869650 (-72),
    dyadic 7555786372591440 (-76)]

def decades (rate : Nat × Nat) : Nat :=
  (decadeBounds.filter (fractionLe rate)).length

/-- The unit to which the intervals of slow rates are rounded. -/
def roundingStep (decades : Nat) : Nat :=
  100 * Nat.pow 10 decades

/-- The nearest multiple of `step`; a half goes up. -/
def roundToStep (q step : Nat) : Nat :=
  (q + step / 2) / step * step

def wholeMicros (rate : Nat × Nat) : Nat :=
  floorNearestDouble (1000000 * rate.2) rate.1

/-- The interval of an accepted rate. Below 1 Hz it is rounded to a step that
grows with the period. -/
def intervalOf (rate : Nat × Nat) : Nat :=
  if fractionLe (1, 1) rate then wholeMicros rate
  else roundToStep (wholeMicros rate) (roundingStep (decades rate))

def interval (rate : Binary64) : Except StreamError Int :=
  match rate.read with
  | .finite false mantissa exponent =>
    let value := dyadic mantissa exponent
    if !fractionLe value fastest then .error (tooFast rate)
    else if !fractionLe slowest value then .error (tooSlow rate)
    else .ok (intervalOf value)
  | .finite true _ _ => .error (tooSlow rate)
  | _ => .error (tooFast rate)

/-- The rate of a header's factor and multiplier. A positive number multiplies
and a negative one divides; zero means no rate. -/
def ofFactors (factor multiplier : Int16) : Binary64 :=
  let f := factor.toInt
  let m := multiplier.toInt
  if f = 0 ∨ m = 0 then .zero
  else if 0 < f ∧ 0 < m then .ofRatio (f.natAbs * m.natAbs) 1
  else if 0 < f then .ofRatio f.natAbs m.natAbs
  else if 0 < m then .ofRatio m.natAbs f.natAbs
  else .ofRatio 1 (f.natAbs * m.natAbs)

def factorLimit : Nat := 32767

/-- The double nearest to 1e-9. -/
def periodSlack : Nat × Nat := dyadic 4835703278458517 (-82)

def wholePeriod? (rate : Nat × Nat) : Option Nat :=
  let (m, e) := nearestDouble rate.2 rate.1
  let (num, den) := dyadic m e
  let seconds := roundHalfUp num den
  let off := (num - seconds * den) + (seconds * den - num)
  if rate.1 < rate.2 ∧ ¬ fractionLe periodSlack (off, den) ∧ seconds ≤ factorLimit then
    some seconds
  else none

def scaledFactor? (rate : Nat × Nat) (scale : Nat) : Option Nat :=
  let (m, e) := nearestDouble (rate.1 * scale) rate.2
  let (num, den) := dyadic m e
  let factor := roundHalfUp num den
  if 1 ≤ factor ∧ factor ≤ factorLimit then some factor else none

def scaledFactors? (rate : Nat × Nat) : List Nat → Option (Nat × Nat)
  | [] => none
  | scale :: scales =>
    match scaledFactor? rate scale with
    | some factor => some (factor, scale)
    | none => scaledFactors? rate scales

def toFactors (rate : Binary64) : Except StreamError (Int16 × Int16) :=
  match rate.read with
  | .finite false mantissa exponent =>
    let value := dyadic mantissa exponent
    if value.1 = 0 then .error (.sampleRate rate "rate must be positive")
    else if value.1 % value.2 = 0 ∧ value.1 / value.2 ≤ factorLimit then
      .ok (Int16.ofNat (value.1 / value.2), 1)
    else match wholePeriod? value with
      | some seconds => .ok (Int16.ofInt (-(seconds : Int)), 1)
      | none =>
        match scaledFactors? value [10000, 1000, 100, 10, 1] with
        | some (factor, scale) => .ok (Int16.ofNat factor, Int16.ofInt (-(scale : Int)))
        | none =>
          .error (.sampleRate rate "rate cannot be expressed as a header factor and multiplier")
  | _ => .error (.sampleRate rate "rate must be positive")

end SampleRate
end SeedStream
