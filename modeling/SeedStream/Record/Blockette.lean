import SeedStream.Record.Field

/-!
# The blockette chain

Behind the fixed header lies a chain of blockettes. Each begins with its type
and the offset of the next one; zero ends the chain. Offsets must grow, so a
walk ends. A link behind the buffer ends it as well.
-/

set_option autoImplicit false

namespace SeedStream

structure Blockette where
  kind : Nat
  offset : Nat
deriving DecidableEq, Repr

namespace Blockette

def fixedHeaderSize : Nat := 48
def firstLinkOffset : Nat := 46

def calibrationKind : Nat := 320
def dataKind : Nat := 1000
def timingKind : Nat := 1001

def calibrationSize : Nat := 64
def dataSize : Nat := 8
def timingSize : Nat := 8

/-- The chain from a link on, given the offset of the blockette with the link. -/
def chainFrom (f : Fields) (previous offset : Nat) : Except HeaderFault (List Blockette) :=
  if offset = 0 then .ok []
  else if offset < fixedHeaderSize ∨ offset ≤ previous then .error (.chain offset)
  else if f.bytes.length < offset + 4 then .ok []
  else
    match f.u16 offset, f.u16 (offset + 2) with
    | .ok kind, .ok next => (chainFrom f offset next.toNat).map (⟨kind.toNat, offset⟩ :: ·)
    | .error e, _ => .error e
    | _, .error e => .error e
termination_by f.bytes.length - previous
decreasing_by omega

def chain (f : Fields) : Except HeaderFault (List Blockette) := do
  let first ← f.u16 firstLinkOffset
  chainFrom f 0 first.toNat

def last? (blockettes : List Blockette) (kind width size : Nat) : Option Nat :=
  ((blockettes.filter fun b => b.kind == kind && b.offset + width ≤ size).getLast?).map
    (·.offset)

end Blockette
end SeedStream
