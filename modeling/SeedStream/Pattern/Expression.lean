import SeedStream.Pattern.Boundary

/-!
# Expressions

An expression is built from texts, sets of characters and boundaries. Sequences
and choices lean to the right: the first part of one is never of its own kind.
The functions that build expressions keep them in the simplest of several
equivalent forms, on which the size of the machine for an expression depends.
-/

set_option autoImplicit false

namespace SeedStream

inductive Expression
  | empty
  | text (chars : List Char)
  /-- A character of a set, which has not exactly one. -/
  | one (set : CharSet)
  | at (b : Boundary) (words : CharSet)
  | group (index : Nat) (e : Expression)
  | follow (first rest : Expression)
  | either (first rest : Expression)
  /-- At least `low` times and, if there is a bound, at most `high` times. Short
  matches may be preferred, which does not change what matches. -/
  | times (e : Expression) (low : Nat) (high : Option Nat) (short : Bool)
deriving DecidableEq, Repr, Inhabited

namespace Expression

/-- The length of the shortest text that matches where no boundary prevents it;
nothing if a part can never match. -/
def leastLength : Expression → Option Nat
  | .empty | .at _ _ => some 0
  | .text cs => some cs.length
  | .one set => if set.ranges.isEmpty then none else some 1
  | .group _ e => e.leastLength
  | .follow a b => do return (← a.leastLength) + (← b.leastLength)
  | .either a b => do return min (← a.leastLength) (← b.leastLength)
  | .times e low _ _ => do return (← e.leastLength) * low

def ofSet (s : CharSet) : Expression :=
  match s.ranges with
  | [(a, b)] => if a = b then .text [Char.ofNat a] else .one s
  | _ => .one s

def ofBoundary (b : Boundary) (words : CharSet) : Expression :=
  .at b (if b.asksForWords then words else .empty)

def parts : Expression → List Expression
  | .follow a b => a :: b.parts
  | .empty => []
  | e => [e]

/-- Put a part in front of others: texts that meet become one. -/
def putBefore : Expression → List Expression → List Expression
  | .text cs, .text ds :: rest => .text (cs ++ ds) :: rest
  | e, rest => e :: rest

def ofParts : List Expression → Expression
  | [] => .empty
  | [e] => e
  | e :: rest => .follow e (ofParts rest)

def sequence (es : List Expression) : Expression :=
  ofParts ((es.flatMap parts).foldr putBefore [])

def branches : Expression → List Expression
  | .either a b => a :: b.branches
  | e => [e]

def ofBranches : List Expression → Expression
  | [] => .one .empty
  | [e] => e
  | e :: rest => .either e (ofBranches rest)

def letter? : Expression → Option Char
  | .text [c] => some c
  | _ => none

def set? : Expression → Option CharSet
  | .one s => some s
  | _ => none

def isSequence : Expression → Bool
  | .follow _ _ => true
  | _ => false

def mergedSet? (es : List Expression) : Option CharSet :=
  match es.mapM letter? with
  | some cs => some (.ofRanges (cs.map fun c => (c.toNat, c.toNat)))
  | none => (es.mapM set?).map fun sets => .ofRanges (sets.flatMap (·.ranges))

def commonParts (xs ys : List Expression) : List Expression :=
  ((xs.zip ys).takeWhile fun p => p.1 = p.2).map (·.1)

def commonLead : List Expression → List Expression
  | [] => []
  | e :: rest =>
    if isSequence e && rest.all isSequence then
      rest.foldl (fun lead f => commonParts lead f.parts) e.parts
    else []

def choiceOf (es : List Expression) : Expression :=
  let all := es.flatMap branches
  if all.length ≤ 1 then ofBranches all
  else match mergedSet? all with
    | some s => ofSet s
    | none => ofBranches all

/-- One of several expressions. What all branches begin with stands before the
choice between the rest. -/
def choice (es : List Expression) : Expression :=
  let all := es.flatMap branches
  let lead := commonLead all
  if all.length ≤ 1 || lead.isEmpty then choiceOf all
  else sequence (lead ++ [choiceOf (all.map fun e => sequence (e.parts.drop lead.length))])

/-- What is known of the matches of an expression: whether they take no
characters, and whether they all begin, or all end, where the text does. Only
conditions that stand before the first or behind the last character show this. -/
structure Outline where
  takesNothing : Bool
  startsText : Bool
  endsText : Bool
deriving DecidableEq, Repr

def outline : Expression → Outline
  | .empty => ⟨true, false, false⟩
  | .text _ | .one _ => ⟨false, false, false⟩
  | .at b _ => ⟨true, b == .textStart, b == .textEnd⟩
  | .group _ e => e.outline
  | .follow a b =>
    let p := a.outline
    let q := b.outline
    ⟨p.takesNothing && q.takesNothing, p.startsText || (p.takesNothing && q.startsText),
      q.endsText || (q.takesNothing && p.endsText)⟩
  | .either a b =>
    let p := a.outline
    let q := b.outline
    ⟨p.takesNothing && q.takesNothing, p.startsText && q.startsText, p.endsText && q.endsText⟩
  | .times e low high _ =>
    let p := e.outline
    ⟨p.takesNothing && high.isSome, low != 0 && p.startsText, low != 0 && p.endsText⟩

/-- An expression a number of times. What takes no characters need not be
repeated more than once. -/
def repeated (e : Expression) (low : Nat) (high : Option Nat) (short : Bool) : Expression :=
  let void := e.outline.takesNothing
  let least := if void then min low 1 else low
  let most := if void then some ((high.map (min · 1)).getD 1) else high
  if least = 0 ∧ most = some 0 then .empty
  else if least = 1 ∧ most = some 1 then e
  else .times e least most short

end Expression
end SeedStream
