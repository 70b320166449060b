import SeedStream.Toml.Scalar
import SeedStream.Toml.Table

/-!
# Lines of TOML

A line is a header, a header of an array of tables, or a key with a value. A
value may reach over several lines. Arrays, braces and dotted keys are limited
in depth.
-/

set_option autoImplicit false

namespace SeedStream.Toml

def isBareKeyChar (c : Char) : Bool :=
  c.isAlphanum || c == '_' || c == '-'

def simpleKey : Reading String := do
  if ← Reading.accept "\"" then lineString '"'
  else if ← Reading.accept "'" then lineString '\''
  else
    let cs ← Reading.takeWhile isBareKeyChar
    if cs.isEmpty then throw .key else return String.ofList cs

def dottedKeyFrom : Nat → List String → Reading (List String)
  | 0, _ => throw .key
  | fuel + 1, seen => do
    Reading.blanks
    let key ← simpleKey
    Reading.blanks
    if ← Reading.accept "." then dottedKeyFrom fuel (key :: seen)
    else return (key :: seen).reverse

/-- The depth that nesting and dotted keys stay below. -/
def depthLimit : Nat := 80

def dottedKey : Reading (List String) := do
  let keys ← dottedKeyFrom (← Reading.bound) []
  if keys.length < depthLimit then return keys else throw .nesting

mutual

/-- A value. The first number bounds the work, the second is the depth left. -/
def valueFrom : Nat → Nat → Reading Value
  | 0, _ => throw .unexpected
  | fuel + 1, depth => do
    if let some s ← string? then return .string s
    match ← Reading.peek? with
    | some '[' => do
      let _ ← Reading.next .unexpected
      if depth = 0 then throw .nesting
      .array <$> arrayFrom fuel (depth - 1) []
    | some '\x7b' => do
      let _ ← Reading.next .unexpected
      if depth = 0 then throw .nesting
      Reading.blanks
      if ← Reading.accept "\x7d" then return .table .closed []
      .table .closed <$> bracedFrom fuel (depth - 1) []
    | some 't' => do
      Reading.expect "true" .unexpected
      return .boolean true
    | some 'f' => do
      Reading.expect "false" .unexpected
      return .boolean false
    | some _ => number
    | none => throw .unexpected

def arrayFrom : Nat → Nat → List Value → Reading (List Value)
  | 0, _, _ => throw .unexpected
  | fuel + 1, depth, seen => do
    Reading.arrayGap
    if ← Reading.accept "]" then return seen.reverse
    let v ← valueFrom fuel depth
    Reading.arrayGap
    if ← Reading.accept "," then arrayFrom fuel depth (v :: seen)
    else
      Reading.expect "]" .unexpected
      return (v :: seen).reverse

def bracedFrom : Nat → Nat → Entries → Reading Entries
  | 0, _, _ => throw .unexpected
  | fuel + 1, depth, entries => do
    let keys ← dottedKey
    Reading.expect "=" .unexpected
    Reading.blanks
    let v ← valueFrom fuel depth
    Reading.blanks
    match insert keys v entries with
    | none => throw .duplicate
    | some entries =>
      if ← Reading.accept "," then bracedFrom fuel depth entries
      else
        Reading.expect "\x7d" .unexpected
        return entries

end

def value : Reading Value := do
  valueFrom (2 * (← Reading.bound)) (depthLimit - 1)

inductive Line
  | header (keys : List String)
  | arrayHeader (keys : List String)
  | pair (keys : List String) (v : Value)
deriving Repr

/-- The next line that is not empty, if the text does not begin with a blank, a
comment or an end of line. -/
def line : Reading Line := do
  if ← Reading.accept "[[" then
    let keys ← dottedKey
    Reading.expect "]]" .unexpected
    Reading.lineEnd
    return .arrayHeader keys
  else if ← Reading.accept "[" then
    let keys ← dottedKey
    Reading.expect "]" .unexpected
    Reading.lineEnd
    return .header keys
  else
    let keys ← dottedKey
    Reading.expect "=" .unexpected
    Reading.blanks
    let v ← value
    Reading.lineEnd
    return .pair keys v

def linesFrom : Nat → List Line → Reading (List Line)
  | 0, _ => throw .unexpected
  | fuel + 1, seen => do
    Reading.blanks
    match ← Reading.peek? with
    | none => return seen.reverse
    | some '#' | some '\n' | some '\r' => do
      Reading.lineEnd
      linesFrom fuel seen
    | some _ => linesFrom fuel ((← line) :: seen)

def lines : Reading (List Line) := do
  linesFrom (← Reading.bound) []

end SeedStream.Toml
