import Std.Data.HashMap
import SeedStream.Pattern.ByteSequence
import SeedStream.Pattern.Expression

/-!
# Layouts

A pattern is refused if a machine for it that reads bytes would be too large.
There are two such machines: one reads a text from the front, the other from the
end. A layout counts the states of a machine in the order in which they are laid
out, and the bytes that they take.

Sequences of bytes in one set share their ends. Which ends are still known when
they come up again is decided by tables with a fixed number of slots, where the
last entry wins.
-/

set_option autoImplicit false

namespace SeedStream.Pattern

inductive Direction
  | forward
  | backward
deriving DecidableEq, Repr

structure Layout where
  states : Nat
  bytes : Nat
deriving DecidableEq, Repr

/-- The most memory that a machine for a pattern may take: ten mebibytes. -/
def sizeLimit : Nat := 10485760

namespace Layout

def empty : Layout := ⟨0, 0⟩

def state (list : Nat) (l : Layout) : Layout := ⟨l.states + 1, l.bytes + 32 + list⟩

def plain (count : Nat) (l : Layout) : Layout := ⟨l.states + count, l.bytes + 32 * count⟩

def reading (ways : Nat) (l : Layout) : Layout := l.state (8 * ways)

def forking (ways : Nat) (l : Layout) : Layout := l.state (4 * ways)

/-- Lay out so many copies, until the limit is passed. -/
def copies (copy : Layout → Layout) : Nat → Layout → Layout
  | 0, l => l
  | n + 1, l => if sizeLimit < l.bytes then l else copies copy n (copy l)

end Layout

/-- The slot of a key in a table of so many slots. -/
def slotOf (slots : UInt64) (key : List Nat) : UInt64 :=
  key.foldl (fun h n => (h ^^^ UInt64.ofNat n) * 1099511628211) 14695981039346656037 % slots

abbrev SlotTable := Std.HashMap UInt64 (List Nat × Nat)

/-- The state of a key, if the entry in its slot is for this key. -/
def SlotTable.find? (t : SlotTable) (slot : UInt64) (key : List Nat) : Option Nat :=
  match t.get? slot with
  | some (k, state) => if k = key then some state else none
  | none => none

def byteSequences (s : CharSet) : List (List ByteSequence.ByteRange) :=
  s.ranges.flatMap fun (a, b) => ByteSequence.ofRange a b

/-! Reading from the front: the sequences are kept as a tree, whose last path is
open. A node that is closed is laid out unless an equal one is known. -/

/-- A node on the open path: its ways out last one first, each by its range of
bytes and its target, and the range of the way out that is still open. -/
structure OpenNode where
  ways : List (List Nat)
  last : Option ByteSequence.ByteRange
deriving DecidableEq, Repr

def OpenNode.close (n : OpenNode) (target : Nat) : List (List Nat) :=
  match n.last with
  | some (a, b) => [a, b, target] :: n.ways
  | none => n.ways

/-- A tree of sequences: the open path has its deepest node first. -/
structure SequenceTree where
  layout : Layout
  known : SlotTable
  path : List OpenNode

namespace SequenceTree

def node (t : SequenceTree) (ways : List (List Nat)) : Nat × SequenceTree :=
  let key := ways.reverse.flatten
  let slot := slotOf 10000 key
  match SlotTable.find? t.known slot key with
  | some state => (state, t)
  | none =>
    let state := t.layout.states
    (state, { t with
      layout := t.layout.reading ways.length
      known := t.known.insert slot (key, state) })

def closePath (target : Nat) : Nat → SequenceTree → SequenceTree
  | 0, t =>
    match t.path with
    | n :: rest => { t with path := ⟨n.close target, none⟩ :: rest }
    | [] => t
  | count + 1, t =>
    match t.path with
    | n :: rest =>
      let (state, t) := node { t with path := rest } (n.close target)
      closePath state count t
    | [] => t

def shared : List ByteSequence.ByteRange → List OpenNode → Nat
  | r :: rs, n :: ns => if n.last = some r then shared rs ns + 1 else 0
  | _, _ => 0

/-- Open a way out of the deepest node, and a path behind it. -/
def openPath : List ByteSequence.ByteRange → List OpenNode → List OpenNode
  | r :: rs, n :: ns =>
    rs.foldl (fun path s => ⟨[], some s⟩ :: path) ({ n with last := some r } :: ns)
  | _, path => path

def add (target : Nat) (t : SequenceTree) (ranges : List ByteSequence.ByteRange) : SequenceTree :=
  let common := shared ranges t.path.reverse
  let t := closePath target (t.path.length - (common + 1)) t
  { t with path := openPath (ranges.drop common) t.path }

def finish (target : Nat) (t : SequenceTree) : Layout :=
  let t := closePath target (t.path.length - 1) t
  (node t ((t.path.head?.map (·.ways)).getD [])).2.layout

end SequenceTree

def forwardSet (s : CharSet) (l : Layout) : Layout :=
  let target := l.states
  let start : SequenceTree := ⟨l.plain 1, ∅, [⟨[], none⟩]⟩
  ((byteSequences s).foldl (SequenceTree.add target) start).finish target

/-! Reading from the end: each sequence is a chain to the common end of all, of
which the known links are used again. -/

/-- One more link of a chain: a state that reads a byte and goes on to another. -/
def backwardLink (chain : Nat × Layout × SlotTable) (r : ByteSequence.ByteRange) :
    Nat × Layout × SlotTable :=
  let (target, l, known) := chain
  let key := [target, r.1, r.2]
  let slot := slotOf 1000 key
  match SlotTable.find? known slot key with
  | some state => (state, l, known)
  | none => (l.states, l.plain 1, known.insert slot (key, l.states))

def backwardSet (s : CharSet) (l : Layout) : Layout :=
  let all := byteSequences s
  let target := l.states + 1
  let start : Layout × SlotTable := ((l.forking all.length).plain 1, ∅)
  (all.foldl (fun p ranges => (ranges.foldl backwardLink (target, p)).2) start).1

/-- A set of ASCII characters takes one state that reads and one behind it. Once
the limit is passed nothing more is laid out. -/
def Direction.set (d : Direction) (s : CharSet) (l : Layout) : Layout :=
  if sizeLimit < l.bytes then l
  else if s.ranges.all fun p => p.2 < 0x80 then (l.plain 1).reading s.ranges.length
  else match d with
    | .forward => forwardSet s l
    | .backward => backwardSet s l

/-! A choice between texts is laid out as a tree of their bytes. A node has its
ways out in groups: one that ends a text closes the group before it. -/

abbrev WayGroup := List (Nat × List (List Nat))

def addWay (b : Nat) (rest : List Nat) : WayGroup → WayGroup
  | [] => [(b, [rest])]
  | (c, rests) :: more =>
    if c = b then (c, rest :: rests) :: more else (c, rests) :: addWay b rest more

/-- The groups of a node, last one first. The end of a text opens a new group,
except when nothing but ends came before. -/
def wayGroups (groups : List WayGroup) : List (List Nat) → List WayGroup
  | [] => groups
  | [] :: texts =>
    if groups.length > 1 && groups.all (·.isEmpty) then wayGroups groups texts
    else wayGroups ([] :: groups) texts
  | (b :: rest) :: texts =>
    match groups with
    | g :: before => wayGroups (addWay b rest g :: before) texts
    | [] => wayGroups [addWay b rest []] texts

/-- The layout of a node from which some texts go on, and of the nodes behind it;
a node where all texts end takes no states. -/
def textTree : Nat → List (List Nat) → Layout → Layout
  | 0, _, l => l
  | fuel + 1, texts, l =>
    if texts.all (·.isEmpty) then l
    else
      let groups := wayGroups [[]] texts
      let used := groups.filter (!·.isEmpty)
      let l := used.foldl (fun l g =>
        let l := g.foldl (fun l way => textTree fuel way.2.reverse l) l
        if g.length = 1 then l.plain 1 else l.reading g.length) l
      l.forking (used.length + (groups.length - 1))

def textBytes (cs : List Char) : List Nat :=
  cs.flatMap fun c => ByteSequence.bytes c.toNat

def Direction.texts (d : Direction) (texts : List (List Char)) (l : Layout) : Layout :=
  let all := texts.map fun cs => if d = .forward then textBytes cs else (textBytes cs).reverse
  let longest := all.foldl (fun n bs => max n bs.length) 0
  textTree (longest + 1) all (l.plain 1)

def text? : Expression → Option (List Char)
  | .text cs => some cs
  | _ => none

/-- What stands behind a branch of a choice: with the second one come the state
that chooses and the one where the branches meet. -/
def closeBranch (l : Layout) : Nat → Layout
  | 0 => l
  | 1 => (l.forking 2).plain 1
  | _ => { l with bytes := l.bytes + 4 }

namespace Direction

/-- The layout of an expression that is a branch of a choice, or no branch at all
if `place` is zero. -/
def layout (d : Direction) : Expression → (place : Nat) → Layout → Layout
  | .either a b, place, l =>
    match if place = 0 then (Expression.branches (.either a b)).mapM text? else none with
    | some texts => d.texts texts l
    | none => layout d b (place + 1) (closeBranch (layout d a 0 l) place)
  | .empty, place, l => closeBranch (l.plain 1) place
  | .text cs, place, l => closeBranch (l.plain (textBytes cs).length) place
  | .one s, place, l => closeBranch (d.set s l) place
  | .at _ _, place, l => closeBranch (l.plain 1) place
  | .group _ e, place, l =>
    match d with
    | .forward => closeBranch ((layout d e 0 (l.plain 1)).plain 1) place
    | .backward => closeBranch (layout d e 0 l) place
  | .follow a b, place, l =>
    match d with
    | .forward => closeBranch (layout d b 0 (layout d a 0 l)) place
    | .backward => closeBranch (layout d a 0 (layout d b 0 l)) place
  | .times e low high _, place, l =>
    let copy := layout d e 0
    closeBranch (match low, high with
      | 0, some 1 => (copy (l.forking 2)).plain 1
      | 0, none =>
        if e.leastLength.any (0 < ·) then copy (l.forking 2)
        else (((copy l).forking 2).forking 2).plain 1
      | low, none => (Layout.copies copy low l).forking 2
      | low, some high =>
        let least := if low = 0 then l.plain 1 else Layout.copies copy low l
        if low = high then least
        else Layout.copies (fun l => copy (l.forking 2)) (high - low) (least.plain 1)) place

/-- In front of a machine that may begin anywhere stands a loop over all bytes. -/
def entrance (anchored : Bool) : Layout :=
  if anchored then Layout.empty.plain 1
  else ((Layout.empty.forking 2).plain 1).reading 1

/-- The layout of the machine for a pattern. From the front it has states that
note where the match begins and ends. -/
def whole (d : Direction) (e : Expression) : Layout :=
  match d with
  | .forward => (d.layout e 0 ((entrance e.outline.startsText).plain 1)).plain 2
  | .backward => (d.layout e 0 (entrance e.outline.endsText)).plain 1

end Direction

def fits (e : Expression) : Bool :=
  (Direction.forward.whole e).bytes ≤ sizeLimit &&
    (Direction.backward.whole e).bytes ≤ sizeLimit

end SeedStream.Pattern
