import SeedStream.Toml.Value

/-!
# Reading TOML text

Steps over blanks, ends of lines and comments. A line ends with a line feed,
perhaps after a carriage return. Control characters other than tabs are refused.
A reading knows a number that the length of the text stays below, which bounds
its loops.
-/

set_option autoImplicit false

namespace SeedStream.Toml

abbrev Reading := ReaderT Nat (StateT (List Char) (Except Fault))

def isBlankChar (c : Char) : Bool := c == ' ' || c == '\t'

def isPlainChar (c : Char) : Bool :=
  c == '\t' || (0x20 ≤ c.toNat && c.toNat != 0x7f)

def newline? : List Char → Option (List Char)
  | '\n' :: cs => some cs
  | '\r' :: '\n' :: cs => some cs
  | _ => none

def dropBlankLines : List Char → List Char
  | [] => []
  | '\r' :: '\n' :: cs => dropBlankLines cs
  | c :: cs => if isBlankChar c || c == '\n' then dropBlankLines cs else c :: cs

namespace Reading

def readAll {α : Type} (r : Reading α) (cs : List Char) : Except Fault α :=
  (StateT.run (ReaderT.run r (cs.length + 1)) cs).map (·.1)

def bound : Reading Nat := read

def peek? : Reading (Option Char) := do return (← get).head?

def next (fault : Fault) : Reading Char := do
  match ← get with
  | [] => throw fault
  | c :: cs => do
    set cs
    return c

def accept (text : String) : Reading Bool := do
  let cs ← get
  if text.toList.isPrefixOf cs then
    set (cs.drop text.length)
    return true
  else return false

def expect (text : String) (fault : Fault) : Reading Unit := do
  if !(← accept text) then throw fault

def takeWhile (keep : Char → Bool) : Reading (List Char) := do
  let cs ← get
  set (cs.dropWhile keep)
  return cs.takeWhile keep

def blanks : Reading Unit := do
  let _ ← takeWhile isBlankChar

def newline : Reading Bool := do
  match newline? (← get) with
  | some rest => do
    set rest
    return true
  | none => return false

def comment : Reading Unit := do
  if ← accept "#" then
    let _ ← takeWhile isPlainChar

def lineEnd : Reading Unit := do
  blanks
  comment
  if !(← newline) && !(← get).isEmpty then throw .unexpected

def arrayGapFrom : Nat → Reading Unit
  | 0 => return
  | fuel + 1 => do
    blanks
    if (← peek?) == some '#' then
      comment
      if !(← newline) then throw .unexpected
      arrayGapFrom fuel
    else if ← newline then arrayGapFrom fuel

def arrayGap : Reading Unit := do
  arrayGapFrom (← bound)

end Reading
end SeedStream.Toml
