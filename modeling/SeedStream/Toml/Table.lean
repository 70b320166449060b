import SeedStream.Toml.Value

/-!
# Tables of a TOML document

Inserting values under dotted keys and opening tables by headers. A key is
given a value once, and a table has one header. A dotted key may add to tables
that only dotted keys have named; a header may complete one that was only a
parent of other headers.
-/

set_option autoImplicit false

namespace SeedStream.Toml

def replaceIn (key : String) (v : Value) : Entries → Entries
  | [] => [(key, v)]
  | (k, w) :: rest => if k = key then (k, v) :: rest else (k, w) :: replaceIn key v rest

def insert : List String → Value → Entries → Option Entries
  | [], _, _ => none
  | [key], v, entries =>
    match entries.lookup key with
    | some _ => none
    | none => some (entries ++ [(key, v)])
  | key :: rest, v, entries =>
    match entries.lookup key with
    | none => (insert rest v []).map fun sub => entries ++ [(key, .table .dotted sub)]
    | some (.table kind sub) =>
      if kind = .dotted ∨ (kind = .implied ∧ 1 < rest.length) then
        (insert rest v sub).map fun sub => replaceIn key (.table kind sub) entries
      else none
    | some (.tables (sub :: before)) =>
      if 1 < rest.length then
        (insert rest v sub).map fun sub => replaceIn key (.tables (sub :: before)) entries
      else none
    | some _ => none

/-- Change the entries of a table that was named by a header, in an array of
tables those of the last one. -/
def update (f : Entries → Option Entries) : List String → Entries → Option Entries
  | [], entries => f entries
  | key :: rest, entries =>
    match entries.lookup key with
    | none => (update f rest []).map fun sub => entries ++ [(key, .table .implied sub)]
    | some (.table kind sub) =>
      if kind = .closed then none
      else (update f rest sub).map fun sub => replaceIn key (.table kind sub) entries
    | some (.tables (sub :: before)) =>
      (update f rest sub).map fun sub => replaceIn key (.tables (sub :: before)) entries
    | some _ => none

def openTable (key : String) (entries : Entries) : Option Entries :=
  match entries.lookup key with
  | none => some (entries ++ [(key, .table .header [])])
  | some (.table .implied sub) => some (replaceIn key (.table .header sub) entries)
  | some _ => none

def appendTable (key : String) (entries : Entries) : Option Entries :=
  match entries.lookup key with
  | none => some (entries ++ [(key, .tables [[]])])
  | some (.tables all) => some (replaceIn key (.tables ([] :: all)) entries)
  | some _ => none

end SeedStream.Toml
