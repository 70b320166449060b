/-!
# Characters as sequences of bytes

A range of code points is cut into pieces. The UTF-8 forms of a piece are all
sequences of bytes of which each lies in a range of its own.
-/

set_option autoImplicit false

namespace SeedStream.ByteSequence

abbrev ByteRange := Nat × Nat

def bytes (n : Nat) : List Nat :=
  if n < 0x80 then [n]
  else if n < 0x800 then [0xc0 + n / 64, 0x80 + n % 64]
  else if n < 0x10000 then [0xe0 + n / 4096, 0x80 + n / 64 % 64, 0x80 + n % 64]
  else [0xf0 + n / 262144, 0x80 + n / 4096 % 64, 0x80 + n / 64 % 64, 0x80 + n % 64]

/-- The first code points of each length but the shortest. -/
def lengthStarts : List Nat := [0x80, 0x800, 0x10000]

/-- The numbers of code points that differ in the last bytes only. -/
def blockSizes : List Nat := [64, 4096, 262144]

/-- Where a range leaves a block that it does not fill. -/
def blockCut? (first last size : Nat) : Option Nat :=
  if first / size = last / size then none
  else if first % size ≠ 0 then some ((first / size + 1) * size)
  else if (last + 1) % size ≠ 0 then some (last / size * size)
  else none

/-- The first code point behind the first cut within a range. -/
def cut? (first last : Nat) : Option Nat :=
  match lengthStarts.find? fun n => first < n && n ≤ last with
  | some n => some n
  | none => if last < 0x80 then none else blockSizes.findSome? (blockCut? first last)

/-- The pieces of a range; no range needs more than a few cuts in a row. -/
def pieces : Nat → Nat → Nat → List (Nat × Nat)
  | 0, first, last => [(first, last)]
  | fuel + 1, first, last =>
    match cut? first last with
    | some n => pieces fuel first (n - 1) ++ pieces fuel n last
    | none => [(first, last)]

def scalars (first last : Nat) : List (Nat × Nat) :=
  if first < 0xe000 ∧ 0xd7ff < last then
    [(first, 0xd7ff), (0xe000, last)].filter fun p => p.1 ≤ p.2
  else [(first, last)]

def ofRange (first last : Nat) : List (List ByteRange) :=
  (scalars first last).flatMap fun (a, b) =>
    (pieces 16 a b).map fun (c, d) => (bytes c).zip (bytes d)

end SeedStream.ByteSequence
