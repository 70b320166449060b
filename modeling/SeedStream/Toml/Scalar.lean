import SeedStream.Toml.DateTime
import SeedStream.Toml.Reading

/-!
# Scalars of TOML

Strings in quotes, integers of 64 bits, numbers with a fraction or an exponent,
and dates and times.
-/

set_option autoImplicit false

namespace SeedStream.Toml

def isHexDigit (c : Char) : Bool :=
  c.isDigit || ('a' ≤ c && c ≤ 'f') || ('A' ≤ c && c ≤ 'F')

def digitValue (c : Char) : Nat :=
  if c.isDigit then c.toNat - 0x30 else if c.toNat < 0x61 then c.toNat - 0x37 else c.toNat - 0x57

def digitsValue (base : Nat) (digits : List Char) : Nat :=
  digits.foldl (fun n c => n * base + digitValue c) 0

/-! ## Strings -/

def codePoint (count : Nat) : Reading Char := do
  let cs ← get
  let digits := cs.take count
  let n := digitsValue 16 digits
  if digits.length = count ∧ digits.all isHexDigit ∧ n.isValidChar then
    set (cs.drop count)
    return Char.ofNat n
  else throw .stringBody

def escaped : Reading Char := do
  match ← Reading.next .stringBody with
  | 'b' => return '\x08'
  | 't' => return '\t'
  | 'n' => return '\n'
  | 'f' => return '\x0c'
  | 'r' => return '\r'
  | '"' => return '"'
  | '\\' => return '\\'
  | 'u' => codePoint 4
  | 'U' => codePoint 8
  | _ => throw .stringBody

def lineStringFrom (quote : Char) (escapes : Bool) : Nat → List Char → Reading String
  | 0, _ => throw .stringBody
  | fuel + 1, seen => do
    let c ← Reading.next .stringBody
    if c = quote then return String.ofList seen.reverse
    else if escapes && c == '\\' then lineStringFrom quote escapes fuel ((← escaped) :: seen)
    else if isPlainChar c then lineStringFrom quote escapes fuel (c :: seen)
    else throw .stringBody

/-- Step over blanks and ends of lines if the line ends here. -/
def lineContinuation : Reading Bool := do
  match newline? ((← get).dropWhile isBlankChar) with
  | some rest => do
    set (dropBlankLines rest)
    return true
  | none => return false

/-- The rest of a string over several lines. Two quotes in front of the closing
three belong to the string. -/
def blockStringFrom (quote : Char) (escapes : Bool) : Nat → List Char → Reading String
  | 0, _ => throw .stringBody
  | fuel + 1, seen => do
    if ← Reading.newline then blockStringFrom quote escapes fuel ('\n' :: seen)
    else
      let cs ← get
      let quotes := (cs.takeWhile (· == quote)).length
      if 3 ≤ quotes then
        let extra := min (quotes - 3) 2
        set (cs.drop (extra + 3))
        return String.ofList (seen.reverse ++ List.replicate extra quote)
      else
        let c ← Reading.next .stringBody
        if escapes && c == '\\' then
          if ← lineContinuation then blockStringFrom quote escapes fuel seen
          else blockStringFrom quote escapes fuel ((← escaped) :: seen)
        else if isPlainChar c then blockStringFrom quote escapes fuel (c :: seen)
        else throw .stringBody

def lineString (quote : Char) : Reading String := do
  lineStringFrom quote (quote == '"') (← Reading.bound) []

/-- A string that begins with three quotes, which have been read. An end of line
directly behind them does not count. -/
def blockString (quote : Char) : Reading String := do
  let _ ← Reading.newline
  blockStringFrom quote (quote == '"') (← Reading.bound) []

def string? : Reading (Option String) := do
  if ← Reading.accept "\"\"\"" then some <$> blockString '"'
  else if ← Reading.accept "'''" then some <$> blockString '\''
  else if ← Reading.accept "\"" then some <$> lineString '"'
  else if ← Reading.accept "'" then some <$> lineString '\''
  else return none

/-! ## Numbers -/

/-- The digits in front, with single underscores between them, and what follows.
An underscore counts only behind a digit. -/
def digitRunFrom (isDigit : Char → Bool) (behindDigit : Bool) :
    List Char → List Char × List Char
  | [] => ([], [])
  | c :: cs =>
    if isDigit c then
      let (digits, after) := digitRunFrom isDigit true cs
      (c :: digits, after)
    else if c == '_' && behindDigit && cs.head?.any isDigit then digitRunFrom isDigit false cs
    else ([], c :: cs)

def digitRun (isDigit : Char → Bool) (cs : List Char) : List Char × List Char :=
  digitRunFrom isDigit false cs

def signed : List Char → Bool × List Char
  | '-' :: cs => (true, cs)
  | '+' :: cs => (false, cs)
  | cs => (false, cs)

def wholePart (cs : List Char) : Option (List Char × List Char) :=
  match cs with
  | '0' :: rest => some (['0'], rest)
  | _ =>
    match digitRun Char.isDigit cs with
    | ([], _) => none
    | run => some run

def radix? : List Char → Option (Nat × (Char → Bool) × List Char)
  | '0' :: 'x' :: cs => some (16, isHexDigit, cs)
  | '0' :: 'o' :: cs => some (8, fun c => '0' ≤ c && c ≤ '7', cs)
  | '0' :: 'b' :: cs => some (2, fun c => c == '0' || c == '1', cs)
  | _ => none

def valueBound : Nat := 18446744073709551616

def boundedValue (base : Nat) (digits : List Char) : Nat :=
  digits.foldl (fun n c => min (n * base + digitValue c) valueBound) 0

def inWord (n : Int) : Bool :=
  -9223372036854775808 ≤ n && n ≤ 9223372036854775807

def integer? (cs : List Char) : Option (Value × List Char) :=
  match radix? cs with
  | some (base, isDigit, rest) =>
    match digitRun isDigit rest with
    | ([], _) => none
    | (digits, after) =>
      let n : Int := boundedValue base digits
      if inWord n then some (.integer n, after) else none
  | none =>
    let (negative, rest) := signed cs
    match wholePart rest with
    | none => none
    | some (digits, after) =>
      let n : Int := boundedValue 10 digits
      let n := if negative then -n else n
      if inWord n then some (.integer n, after) else none

def fraction? : List Char → Option (List Char × List Char)
  | '.' :: cs =>
    match digitRun Char.isDigit cs with
    | ([], _) => none
    | run => some run
  | _ => none

def exponent? (cs : List Char) : Option (Int × List Char) :=
  match cs with
  | c :: rest =>
    if c = 'e' ∨ c = 'E' then
      let (negative, rest) := signed rest
      match digitRun Char.isDigit rest with
      | ([], _) => none
      | (digits, after) =>
        let n : Int := boundedValue 10 digits
        some (if negative then -n else n, after)
    else none
  | [] => none

/-- The least number that has no finite double next to it. -/
def overflowBound : Nat := Nat.pow 2 1024 - Nat.pow 2 970

/-- Whether `digits * 10 ^ exponent` is too large for a double. Digits behind the
decimal point do not matter, since the bound is a whole number. -/
def overflows (digits : List Char) (exponent : Int) : Bool :=
  let significant := digits.dropWhile (· == '0')
  let size : Int := significant.length + exponent
  if significant.isEmpty || size < 300 then false
  else if 320 < size then true
  else
    let n := digitsValue 10 (significant.take size.toNat)
    overflowBound ≤ n * Nat.pow 10 exponent.toNat

def isNumberChar (c : Char) : Bool :=
  c.isAlphanum || c == '.' || c == '_' || c == '+' || c == '-'

def writtenFloat (cs : List Char) : Value :=
  .float (String.ofList (cs.takeWhile isNumberChar))

def decimal? (cs : List Char) : Option (Value × List Char) :=
  let (negative, rest) := signed cs
  match wholePart rest with
  | none => none
  | some (whole, after) =>
    let (digits, after, places, hasFraction) := match fraction? after with
      | some (digits, rest) => (whole ++ digits, rest, digits.length, true)
      | none => (whole, after, 0, false)
    let (exponent, after, hasExponent) := match exponent? after with
      | some (e, rest) => (e, rest, true)
      | none => (0, after, false)
    if !(hasFraction || hasExponent) then none
    else if !negative && overflows digits (exponent - places) then none
    else some (writtenFloat cs, after)

def special? (cs : List Char) : Option (Value × List Char) :=
  let (_, rest) := signed cs
  let word := String.ofList (rest.take 3)
  if word = "inf" ∨ word = "nan" then some (writtenFloat cs, rest.drop 3) else none

def dateTime? (cs : List Char) : Option (Value × List Char) :=
  (readDateTime cs).map fun (text, rest) => (.dateTime text, rest)

def number : Reading Value := do
  let cs ← get
  match dateTime? cs <|> decimal? cs <|> special? cs <|> integer? cs with
  | some (v, rest) => do
    set rest
    return v
  | none => throw .number

end SeedStream.Toml
