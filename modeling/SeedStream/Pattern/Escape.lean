import SeedStream.Pattern.Scanner

/-!
# Escapes

What a backslash and the characters after it stand for: a character by itself,
by a letter or by its number, a named set, a property, or a boundary.
-/

set_option autoImplicit false

namespace SeedStream.Pattern

inductive Atom
  /-- A character, and whether it was given by two hexadecimal digits. -/
  | char (c : Char) (byByte : Bool)
  | kind (k : CharClass.Kind) (negated : Bool)
  | property (set : CharSet) (negated : Bool)
  | boundary (b : Boundary)
  | dot
  | lineStart
  | lineEnd
deriving DecidableEq, Repr

def isHexDigit (c : Char) : Bool :=
  c.isDigit || ('a' ≤ c && c ≤ 'f') || ('A' ≤ c && c ≤ 'F')

def hexDigitValue (c : Char) : Nat :=
  if c.isDigit then c.toNat - 0x30 else if c.toNat < 0x61 then c.toNat - 0x37 else c.toNat - 0x57

def hexValue (digits : List Char) : Nat :=
  digits.foldl (fun n c => n * 16 + hexDigitValue c) 0

def charOf (n : Nat) : Scan Char :=
  if n.isValidChar then return Char.ofNat n else throw .codePoint

def hexDigits : Nat → Scan (List Char)
  | 0 => return []
  | count + 1 => do
    let c ← Scan.next .unexpectedEnd
    if isHexDigit c then
      Scan.advanceToItem
      return c :: (← hexDigits count)
    else throw .codePoint

def hexChar (count : Nat) : Scan Atom := do
  Scan.advanceToItem
  if (← Scan.next .unexpectedEnd) = '\x7b' then
    Scan.advanceToItem
    let digits ← Scan.run isHexDigit
    if (← Scan.next .unexpectedEnd) ≠ '\x7d' then throw .codePoint
    Scan.advanceToItem
    if digits.isEmpty then throw .codePoint
    return .char (← charOf (hexValue digits)) false
  else
    let digits ← hexDigits count
    return .char (← charOf (hexValue digits)) (count == 2)

def cutAt (mark : List Char) : List Char → Option (List Char × List Char)
  | [] => none
  | c :: cs =>
    if mark.isPrefixOf (c :: cs) then some ([], (c :: cs).drop mark.length)
    else (cutAt mark cs).map fun p => (c :: p.1, p.2)

def namedProperty (name : List Char) : Option (CharSet × Bool) :=
  match cutAt ['!', '='] name with
  | some (n, v) =>
    (CharClass.valued? (String.ofList n) (String.ofList v)).map fun s => (s, true)
  | none =>
    match cutAt [':'] name <|> cutAt ['='] name with
    | some (n, v) =>
      (CharClass.valued? (String.ofList n) (String.ofList v)).map fun s => (s, false)
    | none => (CharClass.property? (String.ofList name)).map fun s => (s, false)

def propertyAtom (negated : Bool) : Scan Atom := do
  Scan.advanceToItem
  let c ← Scan.next .unexpectedEnd
  let found ← if c = '\x7b' then do
      Scan.advanceToItem
      let name ← Scan.run (· != '\x7d')
      let _ ← Scan.next .unexpectedEnd
      Scan.advance
      pure (namedProperty name)
    else if c = '\\' then throw .escape
    else do
      Scan.advanceToItem
      pure (namedProperty [c])
  match found with
  | some (set, inverse) => return .property set (negated != inverse)
  | none => throw .property

def isBoundaryNameChar (c : Char) : Bool :=
  c.isAlpha || c == '-'

/-- What follows `\b`: perhaps a name in braces, which may not be a repetition. -/
def wordBoundary : Scan Atom := do
  let s ← get
  if s.rest.head? ≠ some '\x7b' then return .boundary .word
  Scan.advanceToItem
  if !isBoundaryNameChar (← Scan.next .unexpectedEnd) then
    set s
    return .boundary .word
  let name ← Scan.run isBoundaryNameChar
  if (← Scan.next .escape) ≠ '\x7d' then throw .escape
  Scan.advance
  match String.ofList name with
  | "start" => return .boundary .wordStart
  | "end" => return .boundary .wordEnd
  | "start-half" => return .boundary .wordStartHalf
  | "end-half" => return .boundary .wordEndHalf
  | _ => throw .escape

/-- ASCII characters other than letters, digits and angles stand for themselves. -/
def isQuotable (c : Char) : Bool :=
  c.toNat < 0x80 && !c.isAlphanum && c != '<' && c != '>'

def letter (a : Atom) : Scan Atom := do
  Scan.advance
  return a

def escape : Scan Atom := do
  Scan.advance
  let c ← Scan.next .unexpectedEnd
  match c with
  | 'x' => hexChar 2
  | 'u' => hexChar 4
  | 'U' => hexChar 8
  | 'p' => propertyAtom false
  | 'P' => propertyAtom true
  | 'd' => letter (.kind .digit false)
  | 'D' => letter (.kind .digit true)
  | 's' => letter (.kind .space false)
  | 'S' => letter (.kind .space true)
  | 'w' => letter (.kind .word false)
  | 'W' => letter (.kind .word true)
  | 'a' => letter (.char '\x07' false)
  | 'f' => letter (.char '\x0c' false)
  | 't' => letter (.char '\t' false)
  | 'n' => letter (.char '\n' false)
  | 'r' => letter (.char '\r' false)
  | 'v' => letter (.char '\x0b' false)
  | 'A' => letter (.boundary .textStart)
  | 'z' => letter (.boundary .textEnd)
  | 'B' => letter (.boundary .noWord)
  | '<' => letter (.boundary .wordStart)
  | '>' => letter (.boundary .wordEnd)
  | 'b' => do
    Scan.advance
    wordBoundary
  | c => if isQuotable c then letter (.char c false) else throw .escape

end SeedStream.Pattern
