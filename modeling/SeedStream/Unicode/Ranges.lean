/-!
# Tables of code points

Tables are written as texts of runs and decoded once. A run has a length in
base 36 and a value of a fixed number of letters, of which the first is a
capital. A list of ranges has distances in base 36.
-/

set_option autoImplicit false

namespace SeedStream.Unicode

def base36Digit (c : Char) : Nat :=
  if c.isDigit then c.toNat - 48 else c.toNat - 87

def base36 (s : String) : Nat :=
  s.toList.foldl (fun n c => n * 36 + base36Digit c) 0

def decimal (s : String) : Nat :=
  s.toList.foldl (fun n c => n * 10 + (c.toNat - 48)) 0

/-- The runs of a text: `first` is the first code point of the run that is being
read, `length` what is read of its length. -/
def decodeRunsFrom (width : Nat) (first length : Nat) : Nat → List Char → List (Nat × String)
  | 0, _ => []
  | _, [] => []
  | fuel + 1, c :: cs =>
    if c.isUpper then
      (first, String.ofList ((c :: cs).take width)) ::
        decodeRunsFrom width (first + length) 0 fuel ((c :: cs).drop width)
    else decodeRunsFrom width first (length * 36 + base36Digit c) fuel cs

def decodeRuns (width : Nat) (text : String) : Array (Nat × String) :=
  let cs := text.toList
  (decodeRunsFrom width 0 0 (cs.length + 1) cs).toArray

def lookupFrom (table : Array (Nat × String)) (n : Nat) : Nat → Nat → Nat → Nat
  | 0, low, _ => low
  | fuel + 1, low, high =>
    if high ≤ low + 1 then low
    else
      let middle := (low + high) / 2
      if (table.getD middle (0, "")).1 ≤ n then lookupFrom table n fuel middle high
      else lookupFrom table n fuel low middle

def lookup (table : Array (Nat × String)) (n : Nat) : String :=
  (table.getD (lookupFrom table n 32 0 table.size) (0, "")).2

def runsWhere (table : Array (Nat × String)) (keep : String → Bool) : List (Nat × Nat) :=
  let starts := table.toList
  let stops := (starts.drop 1).map (·.1) ++ [0x110000]
  (starts.zip stops).filterMap fun (run, stop) =>
    if keep run.2 then some (run.1, stop - 1) else none

/-- Ranges by their distances: to the first code point from the end of the range
before, and from there to the last one. -/
def decodeRangesFrom (last : Nat) : List String → List (Nat × Nat)
  | [] => []
  | s :: rest =>
    match s.splitToList (· == ',') with
    | [gap] => (last + base36 gap, last + base36 gap) :: decodeRangesFrom (last + base36 gap) rest
    | [gap, extent] =>
      let first := last + base36 gap
      (first, first + base36 extent) :: decodeRangesFrom (first + base36 extent) rest
    | _ => decodeRangesFrom last rest

def decodeRanges (text : String) : List (Nat × Nat) :=
  decodeRangesFrom 0 (text.splitToList (· == ' '))

end SeedStream.Unicode
