import SeedStream.Segment.Merge

/-!
# Assembly of a channel

The segments of a channel are sorted by span, and each is merged into the one
before it. What remains is one segment for each uninterrupted run.
-/

set_option autoImplicit false

namespace SeedStream

structure AssemblyStats where
  merges : Nat := 0
  gaps : Nat := 0
  intervalMismatches : Nat := 0
  emptyDiscarded : Nat := 0
deriving DecidableEq, Repr, Inhabited

namespace AssemblyStats

def add (a b : AssemblyStats) : AssemblyStats :=
  ⟨a.merges + b.merges, a.gaps + b.gaps, a.intervalMismatches + b.intervalMismatches,
    a.emptyDiscarded + b.emptyDiscarded⟩

def merged : AssemblyStats := { merges := 1 }

def refused : StreamError → AssemblyStats
  | .intervalMismatch _ _ => { intervalMismatches := 1 }
  | _ => { gaps := 1 }

end AssemblyStats

namespace Assembly

def spanLeIn (m : Arithmetic) (a b : Segment) : Bool :=
  a.compareSpanIn m b != .gt

/-- Segments with samples, in the order of their spans; equal spans stay in order. -/
def sortedIn (m : Arithmetic) (segments : List Segment) : List Segment :=
  (segments.filter fun s => s.length != 0).mergeSort (spanLeIn m)

/-- Merge each segment of a list into the one at hand, which is put out when a
segment does not join it. -/
def foldFromIn (m : Arithmetic) (current : Segment) :
    List Segment → List Segment × AssemblyStats
  | [] => ([current.shrink], {})
  | s :: rest =>
    match s.mergeIn m current with
    | .merged target =>
      let (out, stats) := foldFromIn m target rest
      (out, AssemblyStats.merged.add stats)
    | .refused e target returned =>
      let (out, stats) := foldFromIn m returned rest
      (target.shrink :: out, (AssemblyStats.refused e).add stats)

def foldAllIn (m : Arithmetic) : List Segment → List Segment × AssemblyStats
  | [] => ([], {})
  | s :: rest => foldFromIn m s rest

end Assembly

def assembleIn (m : Arithmetic) (segments : List Segment) : List Segment × AssemblyStats :=
  let (out, stats) := Assembly.foldAllIn m (Assembly.sortedIn m segments)
  (out, { stats with emptyDiscarded := (segments.filter fun s => s.length == 0).length })

def assemble (segments : List Segment) : List Segment × AssemblyStats :=
  assembleIn .exact segments

namespace Assembly

def spanLe (a b : Segment) : Bool := spanLeIn .exact a b

def sorted (segments : List Segment) : List Segment := sortedIn .exact segments

def foldFrom (current : Segment) (rest : List Segment) : List Segment × AssemblyStats :=
  foldFromIn .exact current rest

def foldAll (segments : List Segment) : List Segment × AssemblyStats := foldAllIn .exact segments

theorem sorted_def (segments : List Segment) :
    sorted segments = (segments.filter fun s => s.length != 0).mergeSort spanLe := rfl

theorem foldFrom_cons (current s : Segment) (rest : List Segment) :
    foldFrom current (s :: rest) =
      match s.mergeInto current with
      | .merged target =>
        ((foldFrom target rest).1, AssemblyStats.merged.add (foldFrom target rest).2)
      | .refused e target returned =>
        (target.shrink :: (foldFrom returned rest).1,
          (AssemblyStats.refused e).add (foldFrom returned rest).2) := rfl

theorem foldAll_nil : foldAll [] = ([], {}) := rfl

theorem foldAll_cons (s : Segment) (rest : List Segment) :
    foldAll (s :: rest) = foldFrom s rest := rfl

theorem assemble_def (segments : List Segment) : assemble segments =
    ((foldAll (sorted segments)).1, { (foldAll (sorted segments)).2 with
      emptyDiscarded := (segments.filter fun s => s.length == 0).length }) := rfl

end Assembly
end SeedStream
