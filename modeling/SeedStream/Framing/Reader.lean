import SeedStream.Bytes

/-!
# Readers

A reader hands out bytes in pieces. Each call may be interrupted, may fail, may
say that the input has ended, or delivers at most what it was asked for. What a
call does is fixed by the position in the input, so that a reader is data and
reading it is a function.

Filling asks until enough bytes have come. Main statement: what was got,
followed by what is left, is what there was.
-/

set_option autoImplicit false

namespace SeedStream

structure Reader where
  rest : Bytes
  position : Nat
  /-- The most bytes that one call delivers at a position. -/
  burst : Nat → Nat
  /-- Positions at which one call is interrupted each, in ascending order. -/
  interrupts : List Nat
  failAt : Option Nat
  /-- A position at which one call says that the input has ended. -/
  pauseAt : Option Nat

inductive ReadResult
  | interrupted (r : Reader)
  | failed (r : Reader)
  | ended (r : Reader)
  | delivered (b : Bytes) (r : Reader)

namespace Reader

def plain (b : Bytes) : Reader :=
  let size := b.length
  { rest := b, position := 0, burst := fun _ => size, interrupts := [], failAt := none,
    pauseAt := none }

def unreadable : Reader :=
  { plain [] with failAt := some 0 }

def reached (r : Reader) : Option Nat → Bool
  | none => false
  | some p => p ≤ r.position

def upTo (r : Reader) (mark : Option Nat) (n : Nat) : Nat :=
  match mark with
  | none => n
  | some p => min n (p - r.position)

def portion (r : Reader) (want : Nat) : Nat :=
  r.upTo r.pauseAt <| r.upTo r.failAt <| r.upTo r.interrupts.head? <|
    min want (r.burst r.position)

def read (r : Reader) (want : Nat) : ReadResult :=
  if r.reached r.interrupts.head? then .interrupted { r with interrupts := r.interrupts.tail }
  else if r.reached r.failAt then .failed r
  else if r.reached r.pauseAt then .ended { r with pauseAt := none }
  else
    let b := r.rest.take (r.portion want)
    if b.isEmpty then .ended r
    else
      .delivered b
        { r with rest := r.rest.drop (r.portion want), position := r.position + b.length }

theorem upTo_le (r : Reader) (mark : Option Nat) (n : Nat) : r.upTo mark n ≤ n := by
  cases mark with
  | none => exact Nat.le_refl n
  | some p => exact Nat.min_le_left n _

theorem portion_le_want (r : Reader) (want : Nat) : r.portion want ≤ want := by
  have h1 := r.upTo_le r.pauseAt
  have h2 := r.upTo_le r.failAt
  have h3 := r.upTo_le r.interrupts.head?
  unfold portion
  exact Nat.le_trans (h1 _) (Nat.le_trans (h2 _) (Nat.le_trans (h3 _) (by omega)))

/-- The calls that a reader can still answer without ending. -/
def weight (r : Reader) : Nat :=
  r.interrupts.length + r.rest.length

theorem rest_of_interrupted {r r' : Reader} {want : Nat} (h : r.read want = .interrupted r') :
    r'.rest = r.rest ∧ r'.weight < r.weight := by
  unfold read at h
  split at h
  next hi =>
    injection h with h
    subst h
    refine ⟨rfl, ?_⟩
    cases hs : r.interrupts with
    | nil => simp [reached, hs] at hi
    | cons p ps => simp [weight, hs]
  next =>
    split at h
    next => cases h
    next =>
      split at h
      next => cases h
      next => simp only at h; split at h <;> cases h

theorem rest_of_failed {r r' : Reader} {want : Nat} (h : r.read want = .failed r') :
    r' = r := by
  unfold read at h
  split at h
  next => cases h
  next =>
    split at h
    next => injection h with h; exact h.symm
    next =>
      split at h
      next => cases h
      next => simp only at h; split at h <;> cases h

theorem rest_of_ended {r r' : Reader} {want : Nat} (h : r.read want = .ended r') :
    r'.rest = r.rest := by
  unfold read at h
  split at h
  next => cases h
  next =>
    split at h
    next => cases h
    next =>
      split at h
      next => injection h with h; subst h; rfl
      next =>
        simp only at h
        split at h
        next => injection h with h; subst h; rfl
        next => cases h

theorem rest_of_delivered {r r' : Reader} {want : Nat} {b : Bytes}
    (h : r.read want = .delivered b r') :
    b ++ r'.rest = r.rest ∧ b ≠ [] ∧ b.length ≤ want ∧ r'.interrupts = r.interrupts := by
  unfold read at h
  split at h
  next => cases h
  next =>
    split at h
    next => cases h
    next =>
      split at h
      next => cases h
      next =>
        simp only at h
        split at h
        next => cases h
        next hn =>
          injection h with h1 h2
          subst h1 h2
          have hw := r.portion_le_want want
          refine ⟨List.take_append_drop _ _, fun h0 => hn (by rw [h0]; rfl), ?_, rfl⟩
          simp only [List.length_take]
          omega

theorem weight_of_delivered {r r' : Reader} {want : Nat} {b : Bytes}
    (h : r.read want = .delivered b r') : r'.weight < r.weight := by
  obtain ⟨hr, hb, -, hi⟩ := rest_of_delivered h
  have hl := congrArg List.length hr
  have hp := List.length_pos_iff.2 hb
  simp only [List.length_append] at hl
  simp only [weight, hi]
  omega

end Reader

inductive FillEnd
  | complete
  | ended
  | failed
deriving DecidableEq, Repr

structure Fill where
  got : Bytes
  outcome : FillEnd
  reader : Reader

namespace Reader

def fill (r : Reader) (want : Nat) : Fill :=
  if want = 0 then ⟨[], .complete, r⟩
  else
    match _h : r.read want with
    | .interrupted r' => r'.fill want
    | .failed r' => ⟨[], .failed, r'⟩
    | .ended r' => ⟨[], .ended, r'⟩
    | .delivered b r' =>
      let f := r'.fill (want - b.length)
      ⟨b ++ f.got, f.outcome, f.reader⟩
termination_by r.weight
decreasing_by
  · exact (rest_of_interrupted _h).2
  · exact weight_of_delivered _h

theorem fill_append (r : Reader) (want : Nat) :
    (r.fill want).got ++ (r.fill want).reader.rest = r.rest := by
  fun_induction fill r want with
  | case1 => rfl
  | case2 r want _ r' h ih => rw [ih, (rest_of_interrupted h).1]
  | case3 r want _ r' h => rw [rest_of_failed h]; rfl
  | case4 r want _ r' h => rw [List.nil_append, rest_of_ended h]
  | case5 r want _ b r' h f ih =>
    rw [List.append_assoc]
    exact (congrArg (b ++ ·) ih).trans (rest_of_delivered h).1

theorem fill_length (r : Reader) (want : Nat) (h : (r.fill want).outcome = .complete) :
    (r.fill want).got.length = want := by
  fun_induction fill r want with
  | case1 => rfl
  | case2 r want _ r' hr ih => exact ih h
  | case3 => cases h
  | case4 => cases h
  | case5 r want _ b r' hr f ih =>
    have hl : f.got.length = want - b.length := ih h
    have hb := (rest_of_delivered hr).2.2.1
    simp only [List.length_append]
    omega

end Reader
end SeedStream
