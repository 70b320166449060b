import SeedStream.Bytes
import SeedStream.Error
import SeedStream.Text

/-!
# Selection by quality

An allow-list of quality letters, written with commas between them, or the word
`All`.
-/

set_option autoImplicit false

namespace SeedStream

inductive QualityFilter
  | all
  | only (letters : List UInt8)
deriving DecidableEq, Repr

namespace QualityFilter

def standardText : String := "D,R,Q,M"

def standard : QualityFilter := .only [68, 82, 81, 77]

instance : Inhabited QualityFilter := ⟨standard⟩

def accepts (f : QualityFilter) (quality : UInt8) : Bool :=
  match f with
  | .all => true
  | .only letters => letters.contains quality

def letter? : List Char → Option UInt8
  | [c] => if c.isAlpha then some (UInt8.ofNat c.toNat) else none
  | _ => none

def tokens (text : String) : List (List Char) :=
  ((Text.splitChars ',' text.toList).map Text.trimChars).filter fun t => !t.isEmpty

/-- The letters of tokens in the order of their first occurrence, or the first
token that is not a single letter. -/
def lettersFrom (seen : List UInt8) : List (List Char) → Except (List Char) (List UInt8)
  | [] => .ok seen
  | t :: rest =>
    match letter? t with
    | none => .error t
    | some x => lettersFrom (if seen.contains x then seen else seen ++ [x]) rest

def parse (text : String) : Except StreamError QualityFilter :=
  if Text.trim text = "All" then .ok .all
  else match lettersFrom [] (tokens text) with
    | .error t => .error (.config s!"invalid quality flag '{String.ofList t}' in '{text}'")
    | .ok [] => .error (.config "quality flag list is empty")
    | .ok letters => .ok (.only letters)

def text : QualityFilter → String
  | .all => "All"
  | .only letters =>
    ",".intercalate (letters.map fun x => String.ofList [Char.ofNat x.toNat])

end QualityFilter
end SeedStream
