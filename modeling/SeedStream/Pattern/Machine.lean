import SeedStream.Pattern.Expression

/-!
# Machines

A machine looks for a match of an expression in a text. It has numbered steps,
each of which reads a character, checks a boundary, or goes on at one or two
other steps. At each position of the text it holds all steps that a match begun
there or earlier can have reached, each of them once.
-/

set_option autoImplicit false

namespace SeedStream

inductive Step
  | read (set : CharSet) (next : Nat)
  | check (b : Boundary) (words : CharSet) (next : Nat)
  | fork (first second : Nat)
  | accept
deriving DecidableEq, Repr

structure Machine where
  steps : Array Step
  start : Nat
deriving DecidableEq, Repr

/-- Steps, and the number of the one at which they begin. -/
abbrev Entry := Nat × Array Step

def Entry.push (step : Nat → Step) (p : Entry) : Entry :=
  (p.2.size, p.2.push (step p.1))

namespace Expression

def enter : Expression → Entry → Entry
  | .empty, p => p
  | .text cs, p => cs.foldr (fun c q => q.push (.read (.single c))) p
  | .one s, p => p.push (.read s)
  | .at b words, p => p.push (.check b words)
  | .group _ e, p => e.enter p
  | .follow a b, p => a.enter (b.enter p)
  | .either a b, (next, steps) =>
    let (second, steps) := b.enter (next, steps)
    (a.enter (next, steps)).push fun first => .fork first second
  | .times e low high _, (next, steps) =>
    match high with
    | some n =>
      let optional := Nat.repeat (fun q => (e.enter q).push fun body => .fork body next) (n - low)
      Nat.repeat e.enter low (optional (next, steps))
    | none =>
      let loop := steps.size
      let (body, steps) := e.enter (loop, steps.push (.fork next next))
      let steps := steps.setIfInBounds loop (.fork body next)
      if low = 0 then (loop, steps) else Nat.repeat e.enter (low - 1) (body, steps)

def machine (e : Expression) : Machine :=
  let (start, steps) := e.enter (0, #[.accept])
  ⟨steps, start⟩

end Expression

namespace Machine

/-- What is known at a position: for each step the last position where it was
reached, the steps behind those that read a character, and whether a match ends. -/
structure Reached where
  seen : Array Nat
  next : List Nat
  accepted : Bool
deriving Repr

/-- Follow all steps from the given ones that read nothing. Each step is followed
once and leads to at most two, so twice their number bounds the work. -/
def spread (m : Machine) (place : Nat) (before after : Option Char) :
    Nat → List Nat → Reached → Reached
  | 0, _, r => r
  | _, [], r => r
  | fuel + 1, i :: rest, ⟨seen, next, accepted⟩ =>
    if seen.getD i 0 = place then spread m place before after fuel rest ⟨seen, next, accepted⟩
    else
      let seen := seen.setIfInBounds i place
      match m.steps.getD i .accept with
      | .accept => ⟨seen, next, true⟩
      | .read s j =>
        let taken := after.any s.contains
        spread m place before after fuel rest
          ⟨seen, if taken then j :: next else next, accepted⟩
      | .check b words j =>
        let go := b.holds words before after
        spread m place before after fuel (if go then j :: rest else rest) ⟨seen, next, accepted⟩
      | .fork j k => spread m place before after fuel (j :: k :: rest) ⟨seen, next, accepted⟩

/-- Whether a match ends in the rest of a text. -/
def findFrom (m : Machine) (place : Nat) (before : Option Char) (held : List Nat)
    (seen : Array Nat) (text : List Char) : Bool :=
  let begun := m.start :: held
  let fuel := 2 * m.steps.size + begun.length + 1
  let r := m.spread place before text.head? fuel begun ⟨seen, [], false⟩
  r.accepted || match text with
    | [] => false
    | c :: rest => findFrom m (place + 1) (some c) r.next r.seen rest

def occursIn (m : Machine) (text : List Char) : Bool :=
  m.findFrom 1 none [] (Array.replicate m.steps.size 0) text

end Machine
end SeedStream
