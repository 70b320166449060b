import SeedStream.Number.Decimal
import SeedStream.Text

/-!
# JSON texts

Values are written with two blanks of indentation for each level and one member
or element on each line. A number that is not finite is written as `null`.
-/

set_option autoImplicit false

namespace SeedStream

inductive JsonValue
  | null
  | number (text : String)
  | text (s : String)
  | list (values : List JsonValue)
  | object (members : List (String × JsonValue))
deriving Repr, Inhabited

namespace JsonValue

def int (n : Int) : JsonValue := .number (toString n)
def nat (n : Nat) : JsonValue := .number (toString n)

def optional {α : Type} (f : α → JsonValue) : Option α → JsonValue
  | some x => f x
  | none => .null

def double (x : Binary64) : JsonValue := optional .number x.reportText?
def single (x : Binary32) : JsonValue := optional .number x.reportText?

def escapeChar (c : Char) : String :=
  match c with
  | '"' => "\\\""
  | '\\' => "\\\\"
  | '\n' => "\\n"
  | '\r' => "\\r"
  | '\t' => "\\t"
  | '\x08' => "\\b"
  | '\x0c' => "\\f"
  | c =>
    if c.toNat < 0x20 then "\\u" ++ Text.padLeft '0' 4 (Text.hexDigits c.toNat)
    else String.ofList [c]

def quote (s : String) : String :=
  "\"" ++ String.join (s.toList.map escapeChar) ++ "\""

mutual

def pretty (pad : String) : JsonValue → String
  | .null => "null"
  | .number t => t
  | .text s => quote s
  | .list [] => "[]"
  | .list values => "[\n" ++ prettyValues (pad ++ "  ") values ++ "\n" ++ pad ++ "]"
  | .object [] => "\x7b\x7d"
  | .object members => "\x7b\n" ++ prettyMembers (pad ++ "  ") members ++ "\n" ++ pad ++ "\x7d"

def prettyValues (pad : String) : List JsonValue → String
  | [] => ""
  | [v] => pad ++ pretty pad v
  | v :: rest => pad ++ pretty pad v ++ ",\n" ++ prettyValues pad rest

def prettyMembers (pad : String) : List (String × JsonValue) → String
  | [] => ""
  | [(key, v)] => pad ++ quote key ++ ": " ++ pretty pad v
  | (key, v) :: rest => pad ++ quote key ++ ": " ++ pretty pad v ++ ",\n" ++ prettyMembers pad rest

end

end JsonValue
end SeedStream
