import SeedStream.Toml.Line

/-!
# TOML documents

The lines of a text build one table. A header names the table to which the
lines after it belong.
-/

set_option autoImplicit false

namespace SeedStream.Toml

structure Building where
  entries : Entries
  path : List String

namespace Building

def add (b : Building) : Line → Option Building
  | .header keys =>
    (update (openTable (keys.getLastD "")) keys.dropLast b.entries).map fun e => ⟨e, keys⟩
  | .arrayHeader keys =>
    (update (appendTable (keys.getLastD "")) keys.dropLast b.entries).map fun e => ⟨e, keys⟩
  | .pair keys v => (update (insert keys v) b.path b.entries).map fun e => ⟨e, b.path⟩

def addAll (b : Building) : List Line → Option Building
  | [] => some b
  | l :: rest =>
    match b.add l with
    | some c => c.addAll rest
    | none => none

end Building

/-- A byte order mark at the start does not count. -/
def dropMark : List Char → List Char
  | c :: cs => if c.toNat = 0xfeff then cs else c :: cs
  | [] => []

def parse (text : String) : Except Fault Entries :=
  match lines.readAll (dropMark text.toList) with
  | .error e => .error e
  | .ok lines =>
    match Building.addAll ⟨[], []⟩ lines with
    | some b => .ok b.entries
    | none => .error .duplicate

end SeedStream.Toml
