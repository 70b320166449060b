import SeedStream.Proofs.Segment.Extent

/-!
# Times in 64 bits

A time that is computed in 64 bits wraps around where it does not fit. Where 64 bits hold the
times of two segments and all differences of these times, an interval added, nothing wraps
around, and the segments are compared, merged and refused as if the times were computed exactly.
-/

set_option autoImplicit false

namespace SeedStream

theorem Arithmetic.hold_eq (m : Arithmetic) {x : Int} (h : -2 ^ 63 ≤ x) (h' : x < 2 ^ 63) :
    m.hold x = x := by
  cases m with
  | exact => rfl
  | wrapping => exact Int.bmod_eq_of_le_mul_two (by omega) (by omega)

namespace Segment

structure WordSpan (i a b : Int) : Prop where
  first : -2 ^ 63 ≤ a
  last : b < 2 ^ 63
  wide : b - a + i ≤ 2 ^ 63

instance (i a b : Int) : Decidable (WordSpan i a b) :=
  decidable_of_iff (-2 ^ 63 ≤ a ∧ b < 2 ^ 63 ∧ b - a + i ≤ 2 ^ 63)
    ⟨fun h => ⟨h.1, h.2.1, h.2.2⟩, fun h => ⟨h.first, h.last, h.wide⟩⟩

instance (a b : Int) (s : Segment) : Decidable (s.Within a b) :=
  decidable_of_iff (a ≤ s.start ∧ s.stop ≤ b)
    ⟨fun h => ⟨h.1, h.2⟩, fun h => ⟨h.start, h.stop⟩⟩

/-- 64 bits hold the times of the segments and the differences of these, an interval added, with
`n` intervals to spare. -/
def FitWords (i : Int) (n : Nat) (segments : List Segment) : Prop :=
  ∃ a b, WordSpan i a (b + n * i) ∧ ∀ s ∈ segments, s.Within a b

variable {i d d' a b : Int} {s t : Segment}

theorem WordSpan.mono {c : Int} (hw : WordSpan i a b) (h : c ≤ b) : WordSpan i a c :=
  ⟨hw.first, by have := hw.last; omega, by have := hw.wide; omega⟩

section InRange

variable (m : Arithmetic) (hw : WordSpan i a b) (hi : 0 < i) (hs : s.Within a b)
  (hsp : s.Paced i d)

include hw hi hs hsp

theorem stopIn_eq : s.stopIn m = s.stop := by
  have hspan := hsp.start_le_stop hi
  have hfirst := hs.start
  have hlast := hs.stop
  have hlow := hw.first
  have hhigh := hw.last
  exact m.hold_eq (by omega) (by omega)

variable (ht : t.Within a b) (htp : t.Paced i d')

include ht htp

/-- What is computed to compare a start with an end. -/
theorem hold_start_sub_stop : m.hold (s.start - t.stopIn m) = s.start - t.stop := by
  have hspan := hsp.start_le_stop hi
  have hspan' := htp.start_le_stop hi
  have hfirst := hs.start
  have hlast := hs.stop
  have hfirst' := ht.start
  have hlast' := ht.stop
  have hwide := hw.wide
  rw [stopIn_eq m hw hi ht htp]
  exact m.hold_eq (by omega) (by omega)

theorem mergeRefusalIn_eq : s.mergeRefusalIn m t = s.mergeRefusal t := by
  have hafter := hold_start_sub_stop m hw hi hs hsp ht htp
  have hbefore := hold_start_sub_stop m hw hi ht htp hs hsp
  simp only [mergeRefusalIn, mergeRefusal_def, hafter, hbefore]

theorem coveredByIn_eq : s.coveredByIn m t = s.coveredBy t := by
  rw [coveredByIn, coveredBy_def, stopIn_eq m hw hi hs hsp, stopIn_eq m hw hi ht htp]

theorem overlapCountIn_eq : s.overlapCountIn m t = s.overlapCount t := by
  have hspan := hsp.start_le_stop hi
  have hspan' := htp.start_le_stop hi
  have hfirst := hs.start
  have hlast := hs.stop
  have hfirst' := ht.start
  have hlast' := ht.stop
  have hwide := hw.wide
  have hinterval := hsp.interval
  have hhold : m.hold (t.stopIn m - s.start + s.interval / 2) =
      t.stop - s.start + s.interval / 2 := by
    rw [stopIn_eq m hw hi ht htp]
    exact m.hold_eq (by omega) (by omega)
  rw [overlapCountIn, overlapCount_def, hhold]

theorem extendByIn_eq : t.extendByIn m s = t.extendBy s := by
  rw [extendByIn, overlapCountIn_eq m hw hi hs hsp ht htp]
  rfl

theorem mergeIn_eq : s.mergeIn m t = s.mergeInto t := by
  rw [mergeIn, mergeInto_def, mergeRefusalIn_eq m hw hi hs hsp ht htp,
    mergeRefusalIn_eq m hw hi ht htp hs hsp, coveredByIn_eq m hw hi hs hsp ht htp,
    coveredByIn_eq m hw hi ht htp hs hsp, extendByIn_eq m hw hi hs hsp ht htp,
    extendByIn_eq m hw hi ht htp hs hsp]

end InRange

end Segment
end SeedStream
