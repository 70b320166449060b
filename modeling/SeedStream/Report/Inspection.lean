import SeedStream.Framing.Framer

/-!
# Inspection

The records of one input, without putting their samples together: the headers
in order, or how many records each channel has.
-/

set_option autoImplicit false

namespace SeedStream

structure RecordListing where
  headers : List Header
  undecodable : Nat
deriving DecidableEq, Repr

namespace RecordListing

def ofRecords : List RawRecord → RecordListing
  | [] => ⟨[], 0⟩
  | r :: rest =>
    let l := ofRecords rest
    match Header.parse r.bytes with
    | .ok h => { l with headers := h :: l.headers }
    | .error _ => { l with undecodable := l.undecodable + 1 }

def channelName (h : Header) : String :=
  s!"{h.network}_{h.station}_{h.location}_{h.channel}"

def countIn (name : String) : List (String × Nat) → List (String × Nat)
  | [] => [(name, 1)]
  | (s, n) :: rest =>
    if s = name then (s, n + 1) :: rest
    else if name < s then (name, 1) :: (s, n) :: rest
    else (s, n) :: countIn name rest

def channelCounts (l : RecordListing) : List (String × Nat) :=
  l.headers.foldl (fun counts h => countIn (channelName h) counts) []

end RecordListing

def Framer.first (f : Framer) : Nat → List RawRecord
  | 0 => []
  | n + 1 =>
    match f.next with
    | (none, _) => []
    | (some r, g) => r :: g.first n

end SeedStream
