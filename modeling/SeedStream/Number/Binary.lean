/-!
# Binary floating-point numbers as bit patterns

A number is kept as its bits and read as a sign and an exact product of a
natural mantissa and a power of two. Machine arithmetic does not occur: every
operation is a statement about naturals and is rounded once, to the nearest
representable number, a tie going to the even mantissa.
-/

set_option autoImplicit false

namespace SeedStream

structure BinaryFormat where
  fractionBits : Nat
  exponentBits : Nat
deriving DecidableEq, Repr

namespace BinaryFormat

def double : BinaryFormat := ⟨52, 11⟩
def single : BinaryFormat := ⟨23, 8⟩

def leastExponent (f : BinaryFormat) : Int :=
  2 - (Nat.pow 2 (f.exponentBits - 1) : Int) - (f.fractionBits : Int)

end BinaryFormat

/-- What a bit pattern stands for. A finite number is `mantissa * 2 ^ exponent`. -/
inductive BinaryReading
  | nan
  | infinite (negative : Bool)
  | finite (negative : Bool) (mantissa : Nat) (exponent : Int)
deriving DecidableEq, Repr

def BinaryFormat.read (f : BinaryFormat) (bits : Nat) : BinaryReading :=
  let fraction := bits % Nat.pow 2 f.fractionBits
  let field := bits / Nat.pow 2 f.fractionBits % Nat.pow 2 f.exponentBits
  let negative := bits / Nat.pow 2 (f.fractionBits + f.exponentBits) % 2 == 1
  if field + 1 = Nat.pow 2 f.exponentBits then
    if fraction = 0 then .infinite negative else .nan
  else if field = 0 then .finite negative fraction f.leastExponent
  else .finite negative (Nat.pow 2 f.fractionBits + fraction) (f.leastExponent + field - 1)

/-- The quotient of two naturals, rounded to the nearest natural; a half goes to
the even neighbour. -/
def roundHalfEven (num den : Nat) : Nat :=
  let whole := num / den
  let twice := 2 * (num % den)
  if twice < den then whole
  else if den < twice then whole + 1
  else whole + whole % 2

def roundHalfUp (num den : Nat) : Nat :=
  (2 * num + den) / (2 * den)

def scaleDown (num den : Nat) (e : Int) : Nat × Nat :=
  (num * Nat.pow 2 (-e).toNat, den * Nat.pow 2 e.toNat)

def dyadic (mantissa : Nat) (exponent : Int) : Nat × Nat :=
  (mantissa * Nat.pow 2 exponent.toNat, Nat.pow 2 (-exponent).toNat)

/-- The exponent at which `num / den` has a mantissa of exactly 53 bits, or the
least exponent if that is larger. -/
def doubleExponent (num den : Nat) : Int :=
  let e : Int := (num.log2 : Int) - (den.log2 : Int) - 52
  let (n, d) := scaleDown num den e
  let e := if n < Nat.pow 2 52 * d then e - 1 else e
  max e BinaryFormat.double.leastExponent

/-- The nearest double to a positive fraction, as mantissa and exponent. The
mantissa may be `2 ^ 53`, which is the same number one exponent higher. -/
def nearestDouble (num den : Nat) : Nat × Int :=
  let e := doubleExponent num den
  let (n, d) := scaleDown num den e
  (roundHalfEven n d, e)

def floorNearestDouble (num den : Nat) : Nat :=
  let (m, e) := nearestDouble num den
  let (n, d) := dyadic m e
  n / d

structure Binary64 where
  bits : UInt64
deriving DecidableEq, Repr, Inhabited

structure Binary32 where
  bits : UInt32
deriving DecidableEq, Repr, Inhabited

def Binary32.read (x : Binary32) : BinaryReading :=
  BinaryFormat.single.read x.bits.toNat

namespace Binary64

def read (x : Binary64) : BinaryReading :=
  BinaryFormat.double.read x.bits.toNat

def zero : Binary64 := ⟨0⟩
def infinity : Binary64 := ⟨0x7ff0000000000000⟩

def ofRatio (num den : Nat) : Binary64 :=
  if num = 0 then zero
  else
    let (m, e) := nearestDouble num den
    let bits := (e - BinaryFormat.double.leastExponent).toNat * Nat.pow 2 52 + m
    if infinity.bits.toNat ≤ bits then infinity else ⟨UInt64.ofNat bits⟩

/-- The place of a number in the total order of bit patterns: negative patterns
come first, larger magnitudes before smaller ones. -/
def rank (x : Binary64) : Int :=
  if x.bits.toNat < 9223372036854775808 then x.bits.toNat
  else 9223372036854775807 - (x.bits.toNat : Int)

def compare (x y : Binary64) : Ordering :=
  Ord.compare x.rank y.rank

def same (x y : Binary64) : Bool :=
  x.bits == y.bits

end Binary64
end SeedStream
