/-!
# TOML values

Tables keep their keys in the order of the text. How a table came about decides
which later lines may still add to it.
-/

set_option autoImplicit false

namespace SeedStream.Toml

inductive TableKind
  /-- Written between braces, or the document itself. -/
  | closed
  | header
  /-- Named only as the parent of a header. -/
  | implied
  | dotted
deriving DecidableEq, Repr

inductive Value
  | string (s : String)
  | integer (n : Int)
  /-- A number with a fraction or an exponent, as it is written. -/
  | float (text : String)
  | boolean (b : Bool)
  | dateTime (text : String)
  | array (values : List Value)
  | table (kind : TableKind) (entries : List (String × Value))
  | tables (all : List (List (String × Value)))
deriving Repr, Inhabited

abbrev Entries := List (String × Value)

inductive Fault
  | unexpected
  | stringBody
  | number
  | key
  | duplicate
  | nesting
deriving DecidableEq, Repr

def Fault.message : Fault → String
  | .unexpected => "unexpected character"
  | .stringBody => "invalid string"
  | .number => "invalid number"
  | .key => "invalid key"
  | .duplicate => "duplicate key"
  | .nesting => "recursion limit exceeded"

end SeedStream.Toml
