import SeedStream.Pattern.Expression
import SeedStream.Text

/-!
# Scanning a pattern

A scanner holds what is left of a pattern, the flags in force, the group names
seen, the number of groups opened, and a number that bounds loops over the text.
In verbose mode blanks and comments between items are skipped.
-/

set_option autoImplicit false

namespace SeedStream

inductive PatternFault
  | unexpectedEnd
  | groupUnclosed
  | groupUnopened
  | groupName
  | lookAround
  | flags
  | nothingToRepeat
  | repetition
  | escape
  | codePoint
  | property
  | classUnclosed
  | classItem
  | classRange
  /-- An item that can match what is no UTF-8 text. -/
  | notText
  | nestedTooDeep
  | tooLarge
deriving DecidableEq, Repr

namespace PatternFault

def message : PatternFault → String
  | .unexpectedEnd => "unexpected end of pattern"
  | .groupUnclosed => "unclosed group"
  | .groupUnopened => "unopened group"
  | .groupName => "invalid group name"
  | .lookAround => "look-around is not supported"
  | .flags => "invalid flags"
  | .nothingToRepeat => "repetition operator missing expression"
  | .repetition => "invalid repetition count"
  | .escape => "unrecognized escape sequence"
  | .codePoint => "invalid code point"
  | .property => "unknown property"
  | .classUnclosed => "unclosed character class"
  | .classItem => "invalid item in character class"
  | .classRange => "invalid character class range"
  | .notText => "pattern can match invalid UTF-8"
  | .nestedTooDeep => "exceeds the nesting limit"
  | .tooLarge => "exceeds the size limit"

end PatternFault

namespace Pattern

structure Flags where
  ignoreCase : Bool := false
  multiLine : Bool := false
  dotAll : Bool := false
  wideLines : Bool := false
  unicode : Bool := true
  verbose : Bool := false
  preferShort : Bool := false
deriving DecidableEq, Repr, Inhabited

structure Scanner where
  rest : List Char
  flags : Flags
  names : List String
  groups : Nat
  bound : Nat
deriving DecidableEq, Repr

abbrev Scan := StateT Scanner (Except PatternFault)

def skipBlankFrom (inComment : Bool) : List Char → List Char
  | [] => []
  | c :: cs =>
    if inComment then skipBlankFrom (c != '\n') cs
    else if Text.isBlank c then skipBlankFrom false cs
    else if c = '#' then skipBlankFrom true cs
    else c :: cs

def significantFrom (seen : Bool) : List Char → Option Char
  | [] => none
  | c :: cs =>
    if Text.isBlank c then significantFrom seen cs
    else if c = '#' && !seen then significantFrom true cs
    else some c

/-- The characters in front that satisfy a condition, and what follows, given those
seen before, last one first. In verbose mode blanks and comments are skipped. -/
def takeRun (verbose : Bool) (keep : Char → Bool) (inComment : Bool) (seen : List Char) :
    List Char → List Char × List Char
  | [] => (seen.reverse, [])
  | c :: cs =>
    if inComment then takeRun verbose keep (c != '\n') seen cs
    else if verbose && Text.isBlank c then takeRun verbose keep false seen cs
    else if verbose && c == '#' then takeRun verbose keep true seen cs
    else if keep c then takeRun verbose keep false (c :: seen) cs
    else (seen.reverse, c :: cs)

namespace Scan

def peek? : Scan (Option Char) := do return (← get).rest.head?

def flags : Scan Flags := do return (← get).flags

def advance : Scan Unit := modify fun s => { s with rest := s.rest.drop 1 }

def skipBlank : Scan Unit :=
  modify fun s => if s.flags.verbose then { s with rest := skipBlankFrom false s.rest } else s

def advanceToItem : Scan Unit := do
  advance
  skipBlank

def next (fault : PatternFault) : Scan Char := do
  match ← peek? with
  | some c => return c
  | none => throw fault

def accept (text : String) : Scan Bool := do
  let s ← get
  if text.toList.isPrefixOf s.rest then
    set { s with rest := s.rest.drop text.length }
    return true
  else return false

def peekBehind : Scan (Option Char) := do
  let s ← get
  let behind := s.rest.drop 1
  return if s.flags.verbose then significantFrom false behind else behind.head?

def run (keep : Char → Bool) : Scan (List Char) := do
  let s ← get
  let (seen, rest) := takeRun s.flags.verbose keep false [] s.rest
  set { s with rest }
  return seen

end Scan
end Pattern
end SeedStream
