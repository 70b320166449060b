import SeedStream.Proofs.Processing.Output
import SeedStream.Record.Draft

/-!
# Timing errors do not add up

However long the chains of records and merges are, what comes out is close to
what came in, and nothing that came in is far from what comes out.
-/

set_option autoImplicit false

namespace SeedStream.Processor

/-- With the interval `i` and the tolerance `t` of a channel, every sample put out
is one of a decoded record, displaced by at most `t + max (i / 2) t`, and every
sample of a decoded record has a sample put out as near as that. -/
theorem displacement_bounded (p : Setup) (hd : 1 ≤ p.jitterDivisor) (records : List Bytes)
    (key : ChannelKey) (data : ChannelData)
    (hm : (key, data) ∈ ((ofSetup p).processAll records).finish.channels) :
    ∃ i t : Int, SampleRate.interval key.rate = .ok i ∧ 0 < i ∧ t = i / p.jitterDivisor ∧
      (∀ s ∈ data.segments, s.interval = i ∧ s.tolerance = t) ∧
      (∀ s ∈ data.segments, ∀ (k : Nat) (v : Int32), s.samples[k]? = some v →
        ∃ r ∈ records, ∃ h xs, p.Decodes key r h xs ∧ ∃ j : Nat, xs[j]? = some v ∧
          |s.start + k * i - (h.start + j * i)| ≤ t + max (i / 2) t) ∧
      (∀ r ∈ records, ∀ h xs, p.Decodes key r h xs → ∀ j : Nat, j < xs.length →
        ∃ s ∈ data.segments, ∃ k : Nat, k < s.samples.length ∧
          |s.start + k * i - (h.start + j * i)| ≤ t + max (i / 2) t) := by
  obtain ⟨-, i, c, ho⟩ := output_of_mem hm
  have hdiv : p.divisor = p.jitterDivisor := max_eq_left hd
  have hslack : Segment.slack i p.divisor = max (i / 2) (i / p.jitterDivisor) := by
    rw [Segment.slack, hdiv]
  refine ⟨i, i / p.jitterDivisor, ho.interval, SampleRate.interval_pos ho.interval, rfl,
    ?_, ?_, ?_⟩
  · intro s hs
    have hreg := (ho.assembled.usable s hs).regular
    exact ⟨hreg.interval, hdiv ▸ hreg.tolerance_eq⟩
  · intro s hs k v hk
    have hreg := (ho.assembled.usable s hs).regular
    obtain ⟨y, hy, hnear⟩ := ho.drawn hs (hreg.holds_iff.2 ⟨k, hk, rfl⟩)
    obtain ⟨r, hr, h, xs, hxs, j, hj, rfl⟩ := Setup.yields_arrivals.1 hy
    rw [hslack, hdiv, mul_comm i, mul_comm i] at hnear
    exact ⟨r, hr, h, xs, hxs, j, hj, hnear⟩
  · intro r hr h xs hxs j hj
    obtain ⟨s, hs, x, v, hx, hnear⟩ := ho.covered
      (Setup.yields_arrivals.2 ⟨r, hr, h, xs, hxs, j, List.getElem?_eq_getElem hj, rfl⟩)
    obtain ⟨k, hk, rfl⟩ := (ho.assembled.usable s hs).regular.holds_iff.1 hx
    rw [hslack, hdiv, mul_comm i, mul_comm i] at hnear
    exact ⟨s, hs, k, (List.getElem?_eq_some_iff.1 hk).1, hnear⟩

/-- Two records of which the second begins 0.7 s before the first one ends. -/
theorem displacement_bounded_of_overlap :
    ∃ r₁ r₂ : Bytes, ∃ data : ChannelData,
      Draft.longPeriod.encode [1, 2, 3] = .ok r₁ ∧
      { Draft.longPeriod with start := 2300000 }.encode [3, 4] = .ok r₂ ∧
      (⟨"IU", "ANMO", "00", "LHZ", ⟨0x3ff0000000000000⟩⟩, data) ∈
        ((ofSetup ⟨.rawInteger, .standard, .all, 4, 2⟩).processAll
          [r₂, r₁]).finish.channels ∧
      ∃ s ∈ data.segments, ∃ k : Nat, k < s.samples.length ∧
        |s.start + k * 1000000 - 3300000| ≤ 1000000 := by
  let d := Draft.longPeriod
  let r₁ := (d.encode [1, 2, 3]).toOption.getD []
  let r₂ := ({ d with start := 2300000 }.encode [3, 4]).toOption.getD []
  let h := (Header.parse r₂).toOption.getD default
  have hmem : r₂ ∈ [r₂, r₁] := List.mem_cons_self
  have hx : Setup.Decodes ⟨.rawInteger, .standard, .all, 4, 2⟩
      ⟨"IU", "ANMO", "00", "LHZ", ⟨0x3ff0000000000000⟩⟩ r₂ h [3, 4] :=
    ⟨by decide +kernel, by decide +kernel⟩
  obtain ⟨data, hm⟩ := exists_mem_finish (by decide) hmem hx (by decide)
  obtain ⟨i, t, hi, -, ht, -, -, hcovered⟩ := displacement_bounded _ (by decide) _ _ _ hm
  obtain ⟨s, hs, k, hk, hnear⟩ := hcovered r₂ hmem h _ hx 1 (by decide)
  have hstart : h.start = 2300000 := by decide +kernel
  have hi' : SampleRate.interval ⟨0x3ff0000000000000⟩ = .ok 1000000 := by decide +kernel
  obtain rfl : 1000000 = i := by
    have hboth := hi'.symm.trans hi
    injection hboth
  rw [hstart, ht] at hnear
  refine ⟨r₁, r₂, data, by decide +kernel, by decide +kernel, hm, s, hs, k, hk, ?_⟩
  exact hnear

end SeedStream.Processor
