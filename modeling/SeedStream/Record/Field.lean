import SeedStream.Record.Fault
import SeedStream.Text

/-!
# Fields of a record

Typed reading of a buffer in one byte order. A field that does not lie in the
buffer is a fault.
-/

set_option autoImplicit false

namespace SeedStream

structure Fields where
  bytes : Bytes
  order : ByteOrder
deriving DecidableEq, Repr

namespace Fields

def slice (f : Fields) (offset width : Nat) : Except HeaderFault Bytes :=
  match f.bytes.slice? offset (offset + width) with
  | some b => .ok b
  | none => .error (.outOfBounds offset (offset + width) f.bytes.length)

def word (f : Fields) (offset width : Nat) : Except HeaderFault Nat :=
  (f.slice offset width).map f.order.read

def u8 (f : Fields) (offset : Nat) : Except HeaderFault UInt8 :=
  (f.word offset 1).map UInt8.ofNat

def u16 (f : Fields) (offset : Nat) : Except HeaderFault UInt16 :=
  (f.word offset 2).map UInt16.ofNat

def i16 (f : Fields) (offset : Nat) : Except HeaderFault Int16 :=
  (f.word offset 2).map Int16.ofNat

def u32 (f : Fields) (offset : Nat) : Except HeaderFault UInt32 :=
  (f.word offset 4).map UInt32.ofNat

def i32 (f : Fields) (offset : Nat) : Except HeaderFault Int32 :=
  (f.word offset 4).map Int32.ofNat

def binary32 (f : Fields) (offset : Nat) : Except HeaderFault Binary32 :=
  (f.u32 offset).map Binary32.mk

def text (f : Fields) (offset width : Nat) : Except HeaderFault String :=
  (f.slice offset width).map fun b => Text.trim (Text.Utf8.lenient b)

def time (f : Fields) (offset : Nat) : Except HeaderFault BinaryTime := do
  let year ← f.u16 offset
  let day ← f.u16 (offset + 2)
  let hour ← f.u8 (offset + 4)
  let minute ← f.u8 (offset + 5)
  let second ← f.u8 (offset + 6)
  let fraction ← f.u16 (offset + 8)
  return ⟨year, day, hour, minute, second, fraction⟩

def micros (f : Fields) (offset : Nat) : Except HeaderFault Int := do
  let t ← f.time offset
  match t.toMicros with
  | .ok m => .ok m
  | .error e => .error (.time e)

end Fields
end SeedStream
