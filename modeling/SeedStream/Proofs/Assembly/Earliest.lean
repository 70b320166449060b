import SeedStream.Proofs.Assembly.Runs
import SeedStream.Proofs.Assembly.Words
import SeedStream.Proofs.Segment.Grid
import SeedStream.Proofs.Segment.Reachable

/-!
# Which sample an assembly keeps

Segments that overlap may disagree. An assembly compares a segment only with the union of
those before it in the order of spans, and of two the one that starts first prevails. On a
grid this comes to a rule for each instant: its sample is that of the first segment that
has one there, by start, then by end, then by place in the list. The sort is stable, so
nothing but the place decides between segments of one span.
-/

set_option autoImplicit false

namespace SeedStream.Assembly
open Segment

def Precedes (a b : Segment × Nat) : Prop :=
  a.1.start < b.1.start ∨ a.1.start = b.1.start ∧
    (a.1.stop < b.1.stop ∨ a.1.stop = b.1.stop ∧ a.2 < b.2)

def numbered (segments : List Segment) : List (Segment × Nat) :=
  (segments.zipIdx.filter fun a => a.1.length != 0).mergeSort fun a b => spanLe a.1 b.1

variable {i d o x : Int} {v : Int32} {current s target : Segment} {rest segments : List Segment}

end SeedStream.Assembly
