import SeedStream.Bytes

/-!
# UTF-8 texts

A machine reads one byte at a time; its state is the part of a character seen
so far. The strict reading refuses the first byte that no text continues with;
the lenient one writes U+FFFD for each longest invalid part.
-/

set_option autoImplicit false

namespace SeedStream.Text.Utf8

/-- A character begun: the value so far, the bytes still owed and the range of
the next one. -/
structure Begun where
  value : Nat
  owed : Nat
  low : Nat
  high : Nat
deriving DecidableEq, Repr

inductive Lead
  | whole (c : Char)
  | opens (p : Begun)
  | bad
deriving DecidableEq, Repr

def lead (x : UInt8) : Lead :=
  let n := x.toNat
  if n < 0x80 then .whole (Char.ofNat n)
  else if n < 0xc2 then .bad
  else if n < 0xe0 then .opens ⟨n - 0xc0, 1, 0x80, 0xbf⟩
  else if n = 0xe0 then .opens ⟨0, 2, 0xa0, 0xbf⟩
  else if n = 0xed then .opens ⟨0xd, 2, 0x80, 0x9f⟩
  else if n < 0xf0 then .opens ⟨n - 0xe0, 2, 0x80, 0xbf⟩
  else if n = 0xf0 then .opens ⟨0, 3, 0x90, 0xbf⟩
  else if n < 0xf4 then .opens ⟨n - 0xf0, 3, 0x80, 0xbf⟩
  else if n = 0xf4 then .opens ⟨4, 3, 0x80, 0x8f⟩
  else .bad

def Begun.fits (p : Begun) (x : UInt8) : Bool :=
  p.low ≤ x.toNat && x.toNat ≤ p.high

def Begun.next (p : Begun) (x : UInt8) : Lead :=
  let value := p.value * 64 + (x.toNat - 0x80)
  if p.owed ≤ 1 then .whole (Char.ofNat value) else .opens ⟨value, p.owed - 1, 0x80, 0xbf⟩

def replacement : Char := Char.ofNat 0xfffd

def lenientFrom : Option Begun → Bytes → List Char
  | none, [] => []
  | some _, [] => [replacement]
  | none, x :: b =>
    match lead x with
    | .whole c => c :: lenientFrom none b
    | .opens p => lenientFrom (some p) b
    | .bad => replacement :: lenientFrom none b
  | some p, x :: b =>
    if p.fits x then
      match p.next x with
      | .whole c => c :: lenientFrom none b
      | .opens q => lenientFrom (some q) b
      | .bad => replacement :: lenientFrom none b
    else
      replacement ::
        match lead x with
        | .whole c => c :: lenientFrom none b
        | .opens q => lenientFrom (some q) b
        | .bad => replacement :: lenientFrom none b

def lenient (b : Bytes) : String :=
  String.ofList (lenientFrom none b)

def strictFrom : Option Begun → Bytes → Option (List Char)
  | none, [] => some []
  | some _, [] => none
  | none, x :: b =>
    match lead x with
    | .whole c => (strictFrom none b).map (c :: ·)
    | .opens p => strictFrom (some p) b
    | .bad => none
  | some p, x :: b =>
    if p.fits x then
      match p.next x with
      | .whole c => (strictFrom none b).map (c :: ·)
      | .opens q => strictFrom (some q) b
      | .bad => none
    else none

def strict? (b : Bytes) : Option String :=
  (strictFrom none b).map String.ofList

end SeedStream.Text.Utf8
