import SeedStream.Record.Header

/-!
# Samples of a record

The payload of a record and its decoding into samples. Uncompressed integers of
two and four bytes are decoded here; a stream may bring a decoder of its own.
-/

set_option autoImplicit false

namespace SeedStream

def Header.payload (h : Header) (record : Bytes) : Except PayloadFault Bytes :=
  let start := h.dataOffset.toNat
  let stop := min h.length record.length
  if h.sampleCount = 0 ∨ start = 0 then .ok []
  else if stop < start then .error (.offset start stop)
  else match record.slice? start stop with
    | some b => .ok b
    | none => .error (.outOfBounds start stop record.length)

abbrev Decoder := Header → Bytes → Except StreamError (List Int32)

namespace RawInteger

def width? (encoding : UInt8) : Option Nat :=
  if encoding = 1 then some 2 else if encoding = 3 then some 4 else none

def words (width : Nat) : Nat → Bytes → List Bytes
  | 0, _ => []
  | count + 1, b => b.take width :: words width count (b.drop width)

def sample (order : ByteOrder) (width : Nat) (word : Bytes) : Int32 :=
  Int32.ofInt (Int.bmod (order.read word) (Nat.pow 256 width))

def decode (h : Header) (payload : Bytes) : Except PayloadFault (List Int32) :=
  let count := h.sampleCount.toNat
  match width? h.encoding with
  | none => .error (.encoding h.encoding)
  | some width =>
    if payload.length < count * width then
      .error (.tooShort count (count * width) payload.length)
    else match payload.slice? 0 (count * width) with
      | none => .error (.outOfBounds 0 (count * width) payload.length)
      | some b => .ok ((words width count b).map (sample h.wordOrder width))

def encode (order : ByteOrder) (width : Nat) (samples : List Int32) : Bytes :=
  samples.flatMap fun x => order.write width (x.toInt.emod (Nat.pow 256 width)).toNat

end RawInteger

namespace Decoder

def rawInteger : Decoder := fun h payload =>
  match RawInteger.decode h payload with
  | .ok samples => .ok samples
  | .error e => .error e.toError

def samples (d : Decoder) (h : Header) (record : Bytes) : Except StreamError (List Int32) :=
  match h.payload record with
  | .error e => .error e.toError
  | .ok payload => d h payload

end Decoder
end SeedStream
