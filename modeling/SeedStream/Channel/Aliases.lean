import SeedStream.Text

/-!
# Location aliases

A table that replaces location codes, after blanks around them are dropped. A
code without an entry stays as it is.
-/

set_option autoImplicit false

namespace SeedStream

/-- Pairs of a code and its replacement, each code once. -/
structure LocationAliases where
  entries : List (String × String)
deriving DecidableEq, Repr

namespace LocationAliases

def none : LocationAliases := ⟨[]⟩

/-- The table for empty codes, `--` and the old code `HR`. -/
def standard : LocationAliases := ⟨[("", "00"), ("--", "00"), ("HR", "10")]⟩

instance : Inhabited LocationAliases := ⟨standard⟩

def setIn (code replacement : String) : List (String × String) → List (String × String)
  | [] => [(code, replacement)]
  | (c, r) :: rest =>
    if c = code then (c, replacement) :: rest else (c, r) :: setIn code replacement rest

def insert (t : LocationAliases) (code replacement : String) : LocationAliases :=
  ⟨setIn code replacement t.entries⟩

def get? (t : LocationAliases) (code : String) : Option String :=
  t.entries.lookup code

def normalize (t : LocationAliases) (location : String) : String :=
  let code := Text.trim location
  (t.get? code).getD code

def size (t : LocationAliases) : Nat := t.entries.length

end LocationAliases
end SeedStream
