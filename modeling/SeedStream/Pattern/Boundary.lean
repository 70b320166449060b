import SeedStream.Pattern.CharClass

/-!
# Boundaries

A boundary is a condition on the characters before and after a position. What
counts as a word character is given from outside.
-/

set_option autoImplicit false

namespace SeedStream

inductive Boundary
  | textStart
  | textEnd
  | lineStart
  | lineEnd
  /-- Line boundaries where a carriage return and line feed count as one end. -/
  | wideLineStart
  | wideLineEnd
  | word
  | noWord
  | wordStart
  | wordEnd
  | wordStartHalf
  | wordEndHalf
deriving DecidableEq, Repr

namespace Boundary

def asksForWords : Boundary → Bool
  | .word | .noWord | .wordStart | .wordEnd | .wordStartHalf | .wordEndHalf => true
  | _ => false

def isWord (words : CharSet) : Option Char → Bool
  | some c => words.contains c
  | none => false

def holds (b : Boundary) (words : CharSet) (before after : Option Char) : Bool :=
  match b with
  | .textStart => before.isNone
  | .textEnd => after.isNone
  | .lineStart => before.isNone || before == some '\n'
  | .lineEnd => after.isNone || after == some '\n'
  | .wideLineStart =>
    before.isNone || before == some '\n' || (before == some '\r' && after != some '\n')
  | .wideLineEnd =>
    after.isNone || after == some '\r' || (after == some '\n' && before != some '\r')
  | .word => isWord words before != isWord words after
  | .noWord => isWord words before == isWord words after
  | .wordStart => !isWord words before && isWord words after
  | .wordEnd => isWord words before && !isWord words after
  | .wordStartHalf => !isWord words before
  | .wordEndHalf => !isWord words after

end Boundary
end SeedStream
