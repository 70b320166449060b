import SeedStream.Unicode.Later

/-!
# Texts

Padded numbers; blanks, which are the characters with the Unicode property White_Space, and
trimming by them; texts in double quotes for diagnostics, in which quotes, backslashes and
characters without a shape of their own are escaped.
-/

set_option autoImplicit false

namespace SeedStream.Text

section Pad

def padLeft (fill : Char) (width : Nat) (s : String) : String :=
  String.ofList (List.replicate (width - s.length) fill) ++ s

def zeroPad (width n : Nat) : String :=
  padLeft '0' width (toString n)

def hexDigits (n : Nat) : String :=
  String.ofList (Nat.toDigits 16 n)

end Pad

section Blank

def isBlank (c : Char) : Bool :=
  let n := c.toNat
  (9 ≤ n && n ≤ 13) || n == 0x20 || n == 0x85 || n == 0xa0 || n == 0x1680 ||
    (0x2000 ≤ n && n ≤ 0x200a) || n == 0x2028 || n == 0x2029 || n == 0x202f ||
    n == 0x205f || n == 0x3000

def trimChars (cs : List Char) : List Char :=
  ((cs.dropWhile isBlank).reverse.dropWhile isBlank).reverse

def trim (s : String) : String :=
  String.ofList (trimChars s.toList)

/-- The parts of a list between separators; one part more than separators. -/
def splitChars (sep : Char) : List Char → List (List Char)
  | [] => [[]]
  | c :: cs =>
    if c = sep then [] :: splitChars sep cs
    else match splitChars sep cs with
      | [] => [[c]]
      | part :: parts => (c :: part) :: parts

def split (sep : Char) (s : String) : List String :=
  (splitChars sep s.toList).map String.ofList

end Blank

section Quote

def escapeChar (c : Char) : String :=
  match c with
  | '\x00' => "\\0"
  | '\t' => "\\t"
  | '\r' => "\\r"
  | '\n' => "\\n"
  | '"' => "\\\""
  | '\\' => "\\\\"
  | c =>
    if Unicode.Later.isGraphemeExtend c || !Unicode.Later.isPrintable c then
      "\\u\x7b" ++ hexDigits c.toNat ++ "\x7d"
    else String.ofList [c]

def quoted (s : String) : String :=
  "\"" ++ String.join (s.toList.map escapeChar) ++ "\""

def quotedList (texts : List String) : String :=
  "[" ++ ", ".intercalate (texts.map quoted) ++ "]"

end Quote

end SeedStream.Text
