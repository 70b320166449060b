import SeedStream.Pattern.Escape

/-!
# Bracketed classes

A class in brackets is a union of characters, ranges, named sets and further
classes, possibly negated. Unions are combined by `&&`, `--` and `~~`, from the
left. Where letters of both cases count as one, sets are closed under case
before they are combined or negated.
-/

set_option autoImplicit false

namespace SeedStream.Pattern

def Flags.closeCase (f : Flags) (s : CharSet) : CharSet :=
  if !f.ignoreCase then s else if f.unicode then s.closeCase else s.closeAsciiCase

/-- The set without the characters of another one. Without Unicode this would be
a set of bytes that are no text. -/
def negateIf (negated : Bool) (s : CharSet) : Scan CharSet := do
  if !negated then return s
  if (← Scan.flags).unicode then return s.complement else throw .notText

def Atom.set (bracketed : Bool) (a : Atom) : Scan CharSet := do
  let f ← Scan.flags
  match a with
  | .char c byByte =>
    if !f.unicode && 0x80 ≤ c.toNat && (byByte || bracketed) then throw .notText
    else return .single c
  | .kind k negated => negateIf negated (if f.unicode then k.unicode else k.ascii)
  | .property s negated =>
    if f.unicode then negateIf negated (f.closeCase s) else throw .notText
  | _ => throw .classItem

inductive SetOperator
  | inter
  | diff
  | symmDiff
deriving DecidableEq, Repr

def SetOperator.apply : SetOperator → CharSet → CharSet → CharSet
  | .inter, s, t => s.inter t
  | .diff, s, t => s.diff t
  | .symmDiff, s, t => s.symmDiff t

/-- A class that has not been closed: the operand and the operator in front, and
the ranges of the union that is being read. -/
structure OpenClass where
  negated : Bool
  left : Option (SetOperator × CharSet × Nat)
  ranges : List (Nat × Nat)
  items : Nat
  depth : Nat
deriving Repr

namespace OpenClass

def add (c : OpenClass) (s : CharSet) (depth : Nat) : OpenClass :=
  { c with ranges := s.ranges ++ c.ranges, items := c.items + 1, depth := max c.depth depth }

def value (c : OpenClass) (f : Flags) : CharSet × Nat :=
  let depth := if c.items ≤ 1 then c.depth else c.depth + 1
  match c.left with
  | none => (.ofRanges c.ranges, depth)
  | some (op, s, d) =>
    (op.apply (f.closeCase s) (f.closeCase (.ofRanges c.ranges)), max d depth + 1)

def operate (c : OpenClass) (f : Flags) (op : SetOperator) : OpenClass :=
  let (s, d) := c.value f
  { c with left := some (op, s, d), ranges := [], items := 0, depth := 0 }

end OpenClass

/-- The named ASCII class at the front, if there is one: whether it is negated,
its set, and what follows. -/
def asciiClass? : List Char → Option (Bool × CharSet × List Char)
  | '[' :: ':' :: cs =>
    let negated := cs.head? == some '^'
    let body := if negated then cs.drop 1 else cs
    match body.dropWhile (· != ':') with
    | ':' :: ']' :: rest =>
      (CharClass.ascii? (String.ofList (body.takeWhile (· != ':')))).map fun s =>
        (negated, s, rest)
    | _ => none
  | _ => none

/-- The start of a class: its negation, and the characters `-` and `]` that stand
for themselves there. -/
def openBracket : Scan OpenClass := do
  Scan.advanceToItem
  let negated := (← Scan.next .classUnclosed) == '^'
  if negated then Scan.advanceToItem
  let dashes ← Scan.run (· == '-')
  let start : OpenClass := ⟨negated, none, [], 0, 0⟩
  let opened := dashes.foldl (fun c d => c.add (.single d) 0) start
  if dashes.isEmpty && (← Scan.next .classUnclosed) == ']' then
    Scan.advanceToItem
    let _ ← Scan.next .classUnclosed
    return opened.add (.single ']') 0
  let _ ← Scan.next .classUnclosed
  return opened

def bracketAtom : Scan Atom := do
  let c ← Scan.next .classUnclosed
  if c = '\\' then escape
  else
    Scan.advance
    return .char c false

def bracketItem : Scan CharSet := do
  let a ← bracketAtom
  Scan.skipBlank
  let c ← Scan.next .classUnclosed
  let behind ← Scan.peekBehind
  if c ≠ '-' || behind == some ']' || behind == some '-' then a.set true
  else
    Scan.advanceToItem
    let b ← bracketAtom
    match a, b with
    | .char first _, .char last _ => do
      let _ ← a.set true
      let _ ← b.set true
      if last < first then throw .classRange else return .range first last
    | _, _ => throw .classRange

def bracketFrom : Nat → OpenClass → Scan (CharSet × Nat)
  | 0, _ => throw .nestedTooDeep
  | fuel + 1, c => do
    Scan.skipBlank
    let f ← Scan.flags
    match ← Scan.next .classUnclosed with
    | ']' => do
      Scan.advance
      let (s, depth) := c.value f
      return (← negateIf c.negated (f.closeCase s), depth + 1)
    | '[' => do
      match asciiClass? (← get).rest with
      | some (negated, s, rest) => do
        modify fun scanner => { scanner with rest }
        bracketFrom fuel (c.add (← negateIf negated (f.closeCase s)) 0)
      | none => do
        let (s, depth) ← bracketFrom fuel (← openBracket)
        bracketFrom fuel (c.add s depth)
    | _ =>
      if ← Scan.accept "&&" then bracketFrom fuel (c.operate f .inter)
      else if ← Scan.accept "--" then bracketFrom fuel (c.operate f .diff)
      else if ← Scan.accept "~~" then bracketFrom fuel (c.operate f .symmDiff)
      else bracketFrom fuel (c.add (← bracketItem) 0)

def bracket : Scan (CharSet × Nat) := do
  let c ← openBracket
  bracketFrom (← get).bound c

end SeedStream.Pattern
