import SeedStream.Unicode.CaseFold
import SeedStream.Unicode.Property

/-!
# Sets of characters

A set is a list of ranges of code points, ascending and apart from each other.
The complement is taken within the Unicode scalar values.
-/

set_option autoImplicit false

namespace SeedStream

structure CharSet where
  ranges : List (Nat × Nat)
deriving DecidableEq, Repr, Inhabited

namespace CharSet

def empty : CharSet := ⟨[]⟩

/-- Join the range from `a` to `b` with ascending ranges behind it that touch or
overlap it, and these among themselves. -/
def joinFrom (a b : Nat) : List (Nat × Nat) → List (Nat × Nat)
  | [] => [(a, b)]
  | (c, d) :: rest => if c ≤ b + 1 then joinFrom a (max b d) rest else (a, b) :: joinFrom c d rest

def join : List (Nat × Nat) → List (Nat × Nat)
  | [] => []
  | (a, b) :: rest => joinFrom a b rest

def ofRanges (ranges : List (Nat × Nat)) : CharSet :=
  ⟨join (ranges.mergeSort fun a b => a.1 ≤ b.1)⟩

def single (c : Char) : CharSet := ⟨[(c.toNat, c.toNat)]⟩

def range (a b : Char) : CharSet := ⟨[(a.toNat, b.toNat)]⟩

def isWithin (n : Nat) : List (Nat × Nat) → Bool
  | [] => false
  | (a, b) :: rest => a ≤ n && (n ≤ b || isWithin n rest)

def has (s : CharSet) (n : Nat) : Bool := isWithin n s.ranges

def contains (s : CharSet) (c : Char) : Bool := s.has c.toNat

def union (s t : CharSet) : CharSet := ofRanges (s.ranges ++ t.ranges)

def surrogates : Nat × Nat := (0xd800, 0xdfff)

def gapsFrom (first : Nat) : List (Nat × Nat) → List (Nat × Nat)
  | [] => if first ≤ 0x10ffff then [(first, 0x10ffff)] else []
  | (a, b) :: rest =>
    if first < a then (first, a - 1) :: gapsFrom (b + 1) rest else gapsFrom (b + 1) rest

def complement (s : CharSet) : CharSet :=
  ⟨gapsFrom 0 (ofRanges (surrogates :: s.ranges)).ranges⟩

def inter (s t : CharSet) : CharSet := (s.complement.union t.complement).complement
def diff (s t : CharSet) : CharSet := s.inter t.complement
def without (ranges except : List (Nat × Nat)) : CharSet :=
  (ofRanges ranges).diff (ofRanges except)

def symmDiff (s t : CharSet) : CharSet := (s.diff t).union (t.diff s)

def closeCase (s : CharSet) : CharSet :=
  ofRanges (s.ranges ++ (Unicode.foldClasses.filter (·.any s.has)).flatMap fun cs =>
    cs.map fun n => (n, n))

def closeAsciiCase (s : CharSet) : CharSet :=
  let letters := (List.range 26).filter fun i => s.has (0x41 + i) || s.has (0x61 + i)
  ofRanges (s.ranges ++ letters.flatMap fun i => [(0x41 + i, 0x41 + i), (0x61 + i, 0x61 + i)])

end CharSet
end SeedStream
