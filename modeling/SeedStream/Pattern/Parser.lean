import SeedStream.Pattern.Bracket
import SeedStream.Pattern.Layout
import SeedStream.Pattern.Machine
import SeedStream.Unicode.Later

/-!
# Reading patterns

A pattern is a choice between sequences of items, each of which may be
repeated. Flags set within a group hold up to its end. Nesting and size are
limited. A pattern matches a text if some part of the text does.
-/

set_option autoImplicit false

namespace SeedStream

namespace Pattern

/-- A part of a pattern and how deep it is nested. Flags alone cannot be repeated. -/
structure Piece where
  expression : Expression
  depth : Nat
  isFlags : Bool := false
deriving Repr

def join (build : List Expression → Expression) : List Piece → Piece
  | [p] => ⟨p.expression, p.depth, false⟩
  | ps =>
    let deepest := (ps.map fun p => p.depth + 1).foldl max 0
    ⟨build (ps.reverse.map (·.expression)), deepest, false⟩

/-- The expression of an atom. A character stands for both of its cases where they
count as one. -/
def Atom.expression (a : Atom) : Scan Expression := do
  let f ← Scan.flags
  let words := if f.unicode then CharClass.Kind.word.unicode else CharClass.Kind.word.ascii
  match a with
  | .char _ _ => return .ofSet (f.closeCase (← a.set false))
  | .kind _ _ | .property _ _ => return .ofSet (← a.set false)
  | .boundary b => return .ofBoundary b words
  | .dot =>
    if !f.unicode then throw .notText
    else if f.dotAll then return .ofSet CharSet.empty.complement
    else if f.wideLines then return .ofSet (CharSet.ofRanges [(10, 10), (13, 13)]).complement
    else return .ofSet (CharSet.single '\n').complement
  | .lineStart =>
    return .ofBoundary (if !f.multiLine then .textStart
      else if f.wideLines then .wideLineStart else .lineStart) words
  | .lineEnd =>
    return .ofBoundary (if !f.multiLine then .textEnd
      else if f.wideLines then .wideLineEnd else .lineEnd) words

def simpleAtom : Scan Atom := do
  match ← Scan.next .unexpectedEnd with
  | '\\' => escape
  | '.' => letter .dot
  | '^' => letter .lineStart
  | '$' => letter .lineEnd
  | c => letter (.char c false)

def Flags.switch (f : Flags) (on : Bool) : Char → Flags
  | 'i' => { f with ignoreCase := on }
  | 'm' => { f with multiLine := on }
  | 's' => { f with dotAll := on }
  | 'R' => { f with wideLines := on }
  | 'u' => { f with unicode := on }
  | 'x' => { f with verbose := on }
  | 'U' => { f with preferShort := on }
  | _ => f

def Flags.switchAll (on : Bool) (f : Flags) : List Char → Flags
  | [] => f
  | '-' :: rest => switchAll false f rest
  | c :: rest => switchAll on (f.switch on c) rest

def flagLetters : List Char := ['i', 'm', 's', 'U', 'u', 'R', 'x', '-']

def flagItems : Nat → List Char → Scan (List Char)
  | 0, _ => throw .flags
  | fuel + 1, seen => do
    let c ← Scan.next .flags
    if c = ':' ∨ c = ')' then
      if seen.head? = some '-' then throw .flags else return seen.reverse
    else if flagLetters.contains c && !seen.contains c then
      Scan.advance
      flagItems fuel (c :: seen)
    else throw .flags

def isNameStart (c : Char) : Bool :=
  c == '_' || Unicode.Later.isAlphabetic c

def isNamePart (c : Char) : Bool :=
  isNameStart c || ['.', '[', ']'].contains c ||
    Unicode.Later.isNumeric c

def groupName : Scan Unit := do
  let s ← get
  let name := s.rest.takeWhile (· != '>')
  if !((s.rest.dropWhile (· != '>')).head? == some '>') then throw .groupName
  let valid := match name with
    | [] => false
    | c :: cs => isNameStart c && cs.all isNamePart
  let text := String.ofList name
  if !valid || s.names.contains text then throw .groupName
  set { s with rest := s.rest.drop (name.length + 1), names := text :: s.names }

def lookAroundMarks : List String := ["?=", "?!", "?<=", "?<!"]

inductive Opened
  | numbered (index : Nat)
  | plain (inner : Flags)
  | flags
deriving DecidableEq, Repr

def nextGroup : Scan Opened := do
  let s ← get
  set { s with groups := s.groups + 1 }
  return .numbered (s.groups + 1)

def openGroup : Scan Opened := do
  Scan.advanceToItem
  let s ← get
  if lookAroundMarks.any fun m => m.toList.isPrefixOf s.rest then throw .lookAround
  if ← Scan.accept "?P<" then
    groupName
    return ← nextGroup
  if ← Scan.accept "?<" then
    groupName
    return ← nextGroup
  if ← Scan.accept "?" then
    let items ← flagItems 10 []
    let inner := s.flags.switchAll true items
    if (← Scan.next .flags) = ')' then
      if items.isEmpty then throw .nothingToRepeat
      Scan.advance
      modify fun t => { t with flags := inner }
      return .flags
    else
      Scan.advance
      return .plain inner
  nextGroup

def nestingLimit : Nat := 250

def repeated (low : Nat) (high : Option Nat) (short : Bool) : List Piece → Scan (List Piece)
  | [] => throw .nothingToRepeat
  | p :: rest =>
    if p.isFlags then throw .nothingToRepeat
    else if nestingLimit ≤ p.depth then throw .nestedTooDeep
    else return ⟨.repeated p.expression low high short, p.depth + 1, false⟩ :: rest

/-- Whether short matches are preferred: a question mark behind a repetition
reverses the preference. -/
def preference : Scan Bool := do
  let marked ← Scan.accept "?"
  return marked != (← Scan.flags).preferShort

def simpleRepetition (low : Nat) (high : Option Nat) (items : List Piece) : Scan (List Piece) := do
  let _ ← repeated low high false items
  Scan.advance
  repeated low high (← preference) items

/-- The largest count, exclusive. -/
def countLimit : Nat := 4294967296

def count : Scan Nat := do
  modify fun s => { s with rest := s.rest.dropWhile Text.isBlank }
  let digits ← Scan.run Char.isDigit
  modify fun s => { s with rest := s.rest.dropWhile Text.isBlank }
  Scan.skipBlank
  let n := digits.foldl (fun n c => n * 10 + (c.toNat - 0x30)) 0
  if digits.isEmpty ∨ countLimit ≤ n then throw .repetition else return n

def countedRepetition (items : List Piece) : Scan (List Piece) := do
  let _ ← repeated 0 none false items
  Scan.advanceToItem
  let low ← count
  let high ← if (← Scan.next .repetition) = ',' then do
      Scan.advanceToItem
      if (← Scan.next .repetition) = '\x7d' then pure none else some <$> count
    else pure (some low)
  if (← Scan.next .repetition) ≠ '\x7d' then throw .repetition
  Scan.advanceToItem
  let short ← preference
  match high with
  | some n => if n < low then throw .repetition else repeated low high short items
  | none => repeated low high short items

def closeGroup (outer : Flags) : Scan Unit := do
  let _ ← Scan.next .groupUnclosed
  Scan.advance
  modify fun s => { s with flags := outer }

/-- The choices up to the end of a group or of the pattern, given the pieces of
the current one and the choices before it, both last one first. -/
def choices : Nat → List Piece → List Piece → Scan Piece
  | 0, _, _ => throw .nestedTooDeep
  | fuel + 1, items, before => do
    Scan.skipBlank
    match ← Scan.peek? with
    | none | some ')' => return join .choice (join .sequence items :: before)
    | some '|' => do
      Scan.advance
      choices fuel [] (join .sequence items :: before)
    | some '(' => do
      let outer ← Scan.flags
      let opened ← openGroup
      match opened with
      | .flags => choices fuel (⟨.empty, 0, true⟩ :: items) before
      | .plain inner => do
        modify fun s => { s with flags := inner }
        let p ← choices fuel [] []
        closeGroup outer
        choices fuel (⟨p.expression, p.depth + 1, false⟩ :: items) before
      | .numbered index => do
        let p ← choices fuel [] []
        closeGroup outer
        choices fuel (⟨.group index p.expression, p.depth + 1, false⟩ :: items) before
    | some '[' => do
      let (s, depth) ← bracket
      choices fuel (⟨.ofSet s, depth, false⟩ :: items) before
    | some '?' => choices fuel (← simpleRepetition 0 (some 1) items) before
    | some '*' => choices fuel (← simpleRepetition 0 none items) before
    | some '+' => choices fuel (← simpleRepetition 1 none items) before
    | some '\x7b' => choices fuel (← countedRepetition items) before
    | some _ => do
      let a ← simpleAtom
      choices fuel (⟨← a.expression, 0, false⟩ :: items) before

def parseExpression (text : String) : Except PatternFault Expression :=
  let bound := text.length + 1
  match StateT.run (choices bound [] []) ⟨text.toList, {}, [], 0, bound⟩ with
  | .error e => .error e
  | .ok (p, s) =>
    if !s.rest.isEmpty then .error .groupUnopened
    else if nestingLimit < p.depth then .error .nestedTooDeep
    else if !fits p.expression then .error .tooLarge
    else .ok p.expression

end Pattern

structure Pattern where
  text : String
  machine : Machine
deriving DecidableEq, Repr

namespace Pattern

def parse (text : String) : Except PatternFault Pattern :=
  (parseExpression text).map fun e => ⟨text, e.machine⟩

def isMatch (p : Pattern) (s : String) : Bool :=
  p.machine.occursIn s.toList

end Pattern
end SeedStream
