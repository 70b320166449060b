import SeedStream.Proofs.Segment.Reachable
import SeedStream.Proofs.Segment.Words

/-!
# Extracts of a segment

A segment gives out the samples of a range of times exactly if the range lies between its
start and its end. The places of the first and the last sample are found by division; they
are those of the samples whose times lie in the range, both ends included.
-/

set_option autoImplicit false

namespace SeedStream

namespace Segment

variable {a b : Int} {k : Nat} {s : Segment}

theorem containsRangeIn_iff {m : Arithmetic} :
    s.containsRangeIn m a b = true ↔ a ≤ b ∧ s.start ≤ a ∧ b ≤ s.stopIn m := by
  simp [containsRangeIn, and_assoc]

theorem containsRange_iff :
    s.containsRange a b = true ↔ a ≤ b ∧ s.start ≤ a ∧ b ≤ s.stop :=
  containsRangeIn_iff

def firstFrom (s : Segment) (a : Int) : Int := (a - s.start + s.interval - 1) / s.interval

def lastTo (s : Segment) (b : Int) : Int :=
  min ((b - s.start) / s.interval) ((s.length : Int) - 1)

theorem firstFrom_nonneg (hi : 0 < s.interval) (ha : s.start ≤ a) : 0 ≤ s.firstFrom a :=
  Int.ediv_nonneg (by omega) (Int.le_of_lt hi)

theorem firstFromIn_exact (hi : 0 < s.interval) (ha : s.start ≤ a) :
    s.firstFromIn .exact a = s.firstFrom a :=
  Int.tdiv_eq_ediv_of_nonneg (show 0 ≤ a - s.start + s.interval - 1 by omega)

theorem lastToIn_exact (hb : s.start ≤ b) : s.lastToIn .exact b = s.lastTo b :=
  congrArg (min · _) (Int.tdiv_eq_ediv_of_nonneg (show 0 ≤ b - s.start by omega))

theorem length_samples_le (s : Segment) : s.samples.length ≤ s.length :=
  List.length_take_le _ _

/-- Between the two places lies what is given out, also if the second is before the first. -/
theorem extractIn_places {m : Arithmetic} {first last : Int}
    (h : s.containsRangeIn m a b = true) (hfirst : s.firstFromIn m a = first)
    (hlast : s.lastToIn m b = last)
    (hcount : first ≤ last → m.count first = first.toNat ∧
      m.count (m.hold (last - first + 1)) = (last - first + 1).toNat) :
    s.extractIn m a b =
      .ok ((s.samples.drop first.toNat).take (last - first + 1).toNat) := by
  rw [extractIn, h, hfirst, hlast]
  by_cases hn : s.length = 0
  · have hnil : s.samples = [] :=
      List.length_eq_zero_iff.1 (Nat.le_zero.1 (hn ▸ s.length_samples_le))
    simp [hn, hnil]
  · by_cases hempty : last < first
    · have hnone : (last - first + 1).toNat = 0 := by omega
      simp [hn, hempty, hnone]
    · obtain ⟨hdrop, htake⟩ := hcount (Int.not_lt.1 hempty)
      simp [hn, hempty, hdrop, htake]

theorem extract_places (hi : 0 < s.interval) (h : s.containsRange a b = true) : s.extract a b =
    .ok ((s.samples.drop (s.firstFrom a).toNat).take (s.lastTo b - s.firstFrom a + 1).toNat) := by
  obtain ⟨hab, ha, -⟩ := containsRange_iff.1 h
  exact extractIn_places h (firstFromIn_exact hi ha) (lastToIn_exact (ha.trans hab)) fun _ =>
    ⟨rfl, rfl⟩

end Segment
end SeedStream
