/-!
# Byte strings and words

Reading a word from bytes and writing it back, in either byte order. A slice
outside the bytes is refused, never padded. The checksum of bytes is the 32-bit
cyclic redundancy check with all bits set at the start and the register
complemented at the end.
-/

set_option autoImplicit false

namespace SeedStream

abbrev Bytes := List UInt8

inductive ByteOrder
  | big
  | little
deriving DecidableEq, Repr, Inhabited

namespace Bytes

def slice? (b : Bytes) (start stop : Nat) : Option Bytes :=
  if start ≤ stop ∧ stop ≤ b.length then some ((b.drop start).take (stop - start)) else none

def value (b : Bytes) : Nat :=
  b.foldl (fun n x => n * 256 + x.toNat) 0

def ofNat : Nat → Nat → Bytes
  | 0, _ => []
  | width + 1, n => ofNat width (n / 256) ++ [UInt8.ofNat n]

def ofText (s : String) : Bytes := s.toUTF8.toList

def hexDigit (n : Nat) : Char :=
  if n < 10 then Char.ofNat (48 + n) else Char.ofNat (87 + n)

def hex (x : UInt8) : String :=
  String.ofList [hexDigit (x.toNat / 16), hexDigit (x.toNat % 16)]

end Bytes

namespace ByteOrder

def read (order : ByteOrder) (b : Bytes) : Nat :=
  match order with
  | .big => Bytes.value b
  | .little => Bytes.value b.reverse

def write (order : ByteOrder) (width n : Nat) : Bytes :=
  match order with
  | .big => Bytes.ofNat width n
  | .little => (Bytes.ofNat width n).reverse

end ByteOrder

namespace Checksum

/-- The reflected polynomial of IEEE 802.3. -/
def polynomial : UInt32 := 0xedb88320

def bitStep (r : UInt32) : UInt32 :=
  if r &&& 1 = 1 then (r >>> 1) ^^^ polynomial else r >>> 1

def byteStep (r : UInt32) (x : UInt8) : UInt32 :=
  bitStep <| bitStep <| bitStep <| bitStep <| bitStep <| bitStep <| bitStep <| bitStep <|
    r ^^^ x.toUInt32

def extend (r : UInt32) (b : Bytes) : UInt32 :=
  b.foldl byteStep r

def crc32 (b : Bytes) : UInt32 :=
  extend 0xffffffff b ^^^ 0xffffffff

end Checksum
end SeedStream
