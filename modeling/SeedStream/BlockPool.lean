import SeedStream.Error

/-!
# A pool of sample blocks

A pool owns blocks of one size. A block is known by its handle, its place in
the pool. Acquiring takes the handle released last or, if none is free, a fresh
block of zeros; a reused block keeps its old contents.
-/

set_option autoImplicit false

namespace SeedStream

abbrev Block := Array Int32

abbrev Handle := Nat

structure PoolStats where
  blockSize : Nat
  totalBlocks : Nat
  freeBlocks : Nat
  allocations : Nat
deriving DecidableEq, Repr

structure BlockPool where
  blockSize : Nat
  blocks : Array Block
  /-- The free handles, the one to be reused first in front. -/
  free : List Handle
  /-- The blocks made here; adopted ones do not count. -/
  allocations : Nat
  blockSize_pos : 0 < blockSize
deriving DecidableEq, Repr

namespace BlockPool

def defaultBlockSize : Nat := 4096

def empty (blockSize : Nat) (h : 0 < blockSize) : BlockPool :=
  ⟨blockSize, #[], [], 0, h⟩

instance : Inhabited BlockPool := ⟨empty defaultBlockSize (by decide)⟩

def create (blockSize : Nat) : Except StreamError BlockPool :=
  if h : 0 < blockSize then .ok (empty blockSize h)
  else .error (.config "block size must be greater than zero")

def acquire (p : BlockPool) : Handle × BlockPool :=
  match p.free with
  | h :: rest => (h, { p with free := rest })
  | [] =>
    (p.blocks.size,
      { p with
        blocks := p.blocks.push (Array.replicate p.blockSize 0)
        allocations := p.allocations + 1 })

def block (p : BlockPool) (h : Handle) : Block :=
  p.blocks.getD h #[]

def write (p : BlockPool) (h : Handle) (i : Nat) (x : Int32) : BlockPool :=
  { p with blocks := p.blocks.modify h fun b => b.setIfInBounds i x }

def adopt (p : BlockPool) (b : Block) : BlockPool :=
  { p with blocks := p.blocks.push b, free := p.blocks.size :: p.free }

def release (p : BlockPool) (b : Block) : Except StreamError BlockPool :=
  if b.size = p.blockSize then .ok (p.adopt b)
  else .error (.blockSizeMismatch p.blockSize b.size)

/-- Release blocks one after the other, up to the first that is refused. -/
def releaseAll (p : BlockPool) : List Block → Except StreamError BlockPool
  | [] => .ok p
  | b :: rest =>
    match p.release b with
    | .ok q => q.releaseAll rest
    | .error e => .error e

def absorb (p other : BlockPool) : Except StreamError (Nat × BlockPool) :=
  if other.blockSize = p.blockSize then
    (p.releaseAll other.blocks.toList).map fun q => (other.blocks.size, q)
  else .error (.blockSizeMismatch p.blockSize other.blockSize)

/-- Keep only the blocks of the given handles, in their order, and say how many
were dropped. The block of the `i`-th handle gets the handle `i`; nothing is
free afterwards. -/
def compact (p : BlockPool) (live : List Handle) : Nat × BlockPool :=
  let kept := live.filterMap (p.blocks[·]?)
  (p.blocks.size - kept.length, { p with blocks := kept.toArray, free := [] })

def stats (p : BlockPool) : PoolStats :=
  ⟨p.blockSize, p.blocks.size, p.free.length, p.allocations⟩

end BlockPool
end SeedStream
