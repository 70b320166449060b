import SeedStream.Proofs.Coverage.Assembled
import SeedStream.Proofs.Processing.Output
import SeedStream.Proofs.Segment.Extract
import SeedStream.Record.Draft
import SeedStream.Splitting

/-!
# Extracts of common windows

A window that channels have in common lies inside one segment of each of them. The
samples of a segment in a window, both ends included, are as many as intervals fit into
the window, or one more. So the extracts of channels differ by one sample at most,
however their samples lie to each other and to the ends of the window.
-/

set_option autoImplicit false

namespace SeedStream

section Grid

variable {i : Int}

/-- The multiples of `i` from `u` up to `v` are as many as fit between them, or one more. -/
theorem floor_sub_ceil (hi : 0 < i) (u v : Int) :
    v / i - (u + i - 1) / i + 1 = (v - u) / i ∨ v / i - (u + i - 1) / i = (v - u) / i := by
  have hu := Int.mul_ediv_self_le (x := u + i - 1) (Int.ne_of_gt hi)
  have hu' := Int.lt_mul_ediv_self_add (x := u + i - 1) hi
  have hv := Int.mul_ediv_self_le (x := v) (Int.ne_of_gt hi)
  have hv' := Int.lt_mul_ediv_self_add (x := v) hi
  have hn := Int.mul_ediv_self_le (x := v - u) (Int.ne_of_gt hi)
  have hn' := Int.lt_mul_ediv_self_add (x := v - u) hi
  have hupper : v / i - (u + i - 1) / i < (v - u) / i + 1 := by
    apply Int.lt_of_mul_lt_mul_left _ (Int.le_of_lt hi)
    rw [Int.mul_sub, Int.mul_add]
    omega
  have hlower : (v - u) / i - 2 < v / i - (u + i - 1) / i := by
    apply Int.lt_of_mul_lt_mul_left _ (Int.le_of_lt hi)
    rw [Int.mul_sub, Int.mul_sub]
    omega
  omega

theorem sub_ceil (hi : 0 < i) (u n : Int) : n - (u + i - 1) / i = (i * n - u) / i := by
  have hu := Int.mul_ediv_self_le (x := u + i - 1) (Int.ne_of_gt hi)
  have hu' := Int.lt_mul_ediv_self_add (x := u + i - 1) hi
  have hn := Int.mul_ediv_self_le (x := i * n - u) (Int.ne_of_gt hi)
  have hn' := Int.lt_mul_ediv_self_add (x := i * n - u) hi
  have hupper : n - (u + i - 1) / i < (i * n - u) / i + 1 := by
    apply Int.lt_of_mul_lt_mul_left _ (Int.le_of_lt hi)
    rw [Int.mul_sub, Int.mul_add]
    omega
  have hlower : (i * n - u) / i < n - (u + i - 1) / i + 1 := by
    apply Int.lt_of_mul_lt_mul_left _ (Int.le_of_lt hi)
    rw [Int.mul_add, Int.mul_sub]
    omega
  omega

end Grid

namespace Segment

variable {i d a b : Int} {s : Segment}

theorem Regular.places (h : s.Regular i d) (hi : 0 < i) (hb : b ≤ s.stop) :
    s.lastTo b - s.firstFrom a + 1 = (b - a) / i ∨
      s.lastTo b - s.firstFrom a + 1 = (b - a) / i + 1 := by
  have hshift : b - a = (b - s.start) - (a - s.start) := by omega
  rw [lastTo, firstFrom, h.interval, hshift]
  rw [h.stop_eq] at hb
  by_cases hinside : (b - s.start) / i ≤ (s.length : Int) - 1
  · rw [min_eq_left hinside]
    have hcount := floor_sub_ceil hi (a - s.start) (b - s.start)
    omega
  · -- The window ends where the segment does, and there is no sample at that time.
    have hend : b - s.start = i * s.length := by
      have hle := Int.mul_ediv_self_le (x := b - s.start) (Int.ne_of_gt hi)
      have hfull : i * s.length ≤ i * ((b - s.start) / i) :=
        Int.mul_le_mul_of_nonneg_left (by omega) (Int.le_of_lt hi)
      omega
    rw [min_eq_right (by omega), hend, ← sub_ceil hi]
    omega

/-- A window inside a segment has as many samples as intervals fit into it, or one more. -/
theorem Regular.extract_length (h : s.Regular i d) (hi : 0 < i) (hab : a ≤ b) (ha : s.start ≤ a)
    (hb : b ≤ s.stop) :
    ∃ xs, s.extract a b = .ok xs ∧
      ((xs.length : Int) = (b - a) / i ∨ (xs.length : Int) = (b - a) / i + 1) := by
  have hcount := h.places (a := a) hi hb
  have hquot : 0 ≤ (b - a) / i := Int.ediv_nonneg (by omega) (Int.le_of_lt hi)
  have hfirst : 0 ≤ s.firstFrom a := firstFrom_nonneg (h.interval ▸ hi) ha
  have hlast : s.lastTo b ≤ (s.length : Int) - 1 := min_le_right _ _
  have hrange := containsRange_iff.2 ⟨hab, ha, hb⟩
  refine ⟨_, extract_places (h.interval.symm ▸ hi) hrange, ?_⟩
  rw [List.length_take, List.length_drop, h.sound.length_samples]
  omega

end Segment

theorem filter_eq_singleton {α : Type} {l : List α} {p : α → Bool} {a : α} (hl : l.Nodup)
    (ha : a ∈ l) (hp : ∀ b ∈ l, p b = true ↔ b = a) : l.filter p = [a] := by
  apply List.perm_singleton.1
  apply (List.perm_ext_iff_of_nodup (hl.filter p) (List.nodup_singleton a)).2
  intro b
  rw [List.mem_filter, List.mem_singleton]
  constructor
  · rintro ⟨hb, hpb⟩
    exact (hp b hb).1 hpb
  · rintro rfl
    exact ⟨ha, (hp b ha).2 rfl⟩

namespace Assembly
open Segment

variable {i d a b : Int} {s : Segment} {segments : List Segment}

theorem Spaced.filter_range (h : Spaced i d segments) (hi : 0 < i) (hd : 0 < d) (hab : a < b)
    (hs : s ∈ segments) (hrange : s.start ≤ a ∧ b ≤ s.stop) :
    segments.filter (·.containsRange a b) = [s] := by
  have htol : 0 ≤ i / d := Int.ediv_nonneg (Int.le_of_lt hi) (Int.le_of_lt hd)
  apply filter_eq_singleton _ hs
  · intro t ht
    rw [containsRange_iff]
    constructor
    · rintro ⟨-, hlo, hhi⟩
      rcases pairwise_cases h.apart ht hs with heq | hbefore | hbehind
      · exact heq
      · omega
      · omega
    · rintro rfl
      exact ⟨Int.le_of_lt hab, hrange⟩
  · refine (h.starts hi hd).imp ?_
    rintro t u hlt rfl
    exact Int.lt_irrefl _ hlt

end Assembly

namespace ChannelCoverage

theorem interval_of_intersect {channels : List ChannelCoverage} {windows : List Window}
    (h : intersect channels = .ok windows) : ∃ i, ∀ c ∈ channels, c.interval = i := by
  cases channels with
  | nil => exact ⟨0, by simp⟩
  | cons first rest =>
    rw [intersect] at h
    split at h
    next => cases h
    next hfind =>
      refine ⟨first.interval, ?_⟩
      intro c hc
      have := List.find?_eq_none.1 hfind c hc
      simpa using this

/-- A window that channels have in common lies inside a block of each. -/
theorem intersect_within {channels : List ChannelCoverage} {windows : List Window}
    (hs : ∀ c ∈ channels, c.Orderly c.interval) (h : intersect channels = .ok windows)
    {w : Window} (hw : w ∈ windows) {c : ChannelCoverage} (hc : c ∈ channels) :
    w.interval = c.interval ∧ w.start < w.stop ∧
      ∃ b ∈ c.blocks, b.start ≤ w.start ∧ w.stop ≤ b.stop := by
  obtain ⟨i, hi⟩ := interval_of_intersect h
  have horderly : ∀ c ∈ channels, c.Orderly i := fun c hc => hi c hc ▸ hs c hc
  have hcommon := intersect_stretches (List.ne_nil_of_mem hc) horderly h
  have hspan := hcommon.nonempty w hw
  refine ⟨(hcommon.interval w hw).trans (hi c hc).symm, hspan, ?_⟩
  apply (horderly c hc).separate.stretches.holds_range hspan
  intro x hlo hhi
  exact (hcommon.covered x).1 ⟨w, hw, hlo, hhi⟩ c hc

end ChannelCoverage

namespace SplitResult
open Assembly ChannelCoverage

variable {p : Setup} {records : List Bytes} {r : SplitResult} {names : List String}
  {windows : List Window} {name : String} {c : ChannelCoverage}

theorem coverages_eq (r : SplitResult) (names : List String) :
    r.coverages names = names.mapM r.channelCoverage := by
  induction names with
  | nil => rfl
  | cons name rest ih => rw [coverages, ih, List.mapM_cons]

structure Located (p : Setup) (r : SplitResult) (name : String) (i : Int) (key : ChannelKey)
    (data : ChannelData) : Prop where
  found : r.channel? name = some (key, data)
  regular : ∀ s ∈ data.segments, s.Regular i p.divisor
  spaced : Spaced i p.divisor data.segments

theorem located_of_coverage
    (hr : r.channels = ((Processor.ofSetup p).processAll records).finish.channels)
    (h : r.channelCoverage name = .ok c) :
    0 < c.interval ∧ c.Orderly c.interval ∧ ∃ key data,
      Located p r name c.interval key data ∧
      c.blocks = data.segments.map Window.ofSegment := by
  unfold channelCoverage at h
  cases hfind : r.channel? name with
  | none =>
    rw [hfind] at h
    cases h
  | some found =>
    obtain ⟨key, data⟩ := found
    rw [hfind] at h
    have hmem : (key, data) ∈ r.channels := List.mem_of_find?_eq_some hfind
    rw [hr] at hmem
    obtain ⟨hne, i, c', hout⟩ := Processor.output_of_mem hmem
    have hi := SampleRate.interval_pos hout.interval
    have hregular := fun s hs => (hout.assembled.usable s hs).regular
    have hspaced : Spaced i p.divisor data.segments :=
      ⟨fun s hs => (hregular s hs).paced, fun s hs => (hout.assembled.usable s hs).nonempty,
        hout.assembled.apart⟩
    obtain ⟨d, hd, horderly, hinterval, hblocks⟩ :=
      ofSegments_spaced hi (Processor.divisor_pos p) hspaced hne
    cases hd.symm.trans h
    rw [hinterval]
    exact ⟨hi, horderly, key, data, ⟨hfind, hregular, hspaced⟩, hblocks⟩

/-- The samples `xs` of a channel in a window; `s` is the one segment that holds it. -/
structure Extracts (r : SplitResult) (name : String) (w : Window) (s : Segment)
    (xs : List Int32) : Prop where
  segment : ∃ key data, r.channel? name = some (key, data) ∧
    data.segments.filter (·.containsRange w.start w.stop) = [s]
  samples : s.extract w.start w.stop = .ok xs

theorem Extracts.unique {w : Window} {s t : Segment} {xs ys : List Int32}
    (h : r.Extracts name w s xs) (h' : r.Extracts name w t ys) : s = t ∧ xs = ys := by
  obtain ⟨key, data, hfound, hs⟩ := h.segment
  obtain ⟨key', data', hfound', ht⟩ := h'.segment
  cases hfound.symm.trans hfound'
  obtain rfl : s = t := List.singleton_inj.1 (hs.symm.trans ht)
  exact ⟨rfl, Except.ok.inj (h.samples.symm.trans h'.samples)⟩

theorem sampleCount_eq {w : Window} (hi : 0 < w.interval) (hw : w.start < w.stop) :
    w.sampleCount = (w.stop - w.start) / w.interval := by
  rw [Window.sampleCount, Window.sampleCountIn, if_neg (Int.ne_of_gt hi)]
  exact Int.tdiv_eq_ediv_of_nonneg (show 0 ≤ w.stop - w.start by omega)

theorem exists_extracts
    (hr : r.channels = ((Processor.ofSetup p).processAll records).finish.channels)
    (h : r.coverage names = .ok windows) {w : Window} (hw : w ∈ windows) :
    ∀ name ∈ names, ∃ s xs, r.Extracts name w s xs ∧
      ((xs.length : Int) = w.sampleCount ∨ (xs.length : Int) = w.sampleCount + 1) := by
  intro name hname
  obtain ⟨channels, hchannels, hintersect⟩ := bind_eq_ok.1 h
  rw [coverages_eq] at hchannels
  have hmem := mem_of_mapM hchannels
  have horderly : ∀ c ∈ channels, c.Orderly c.interval := by
    intro c hc
    obtain ⟨name, -, hname⟩ := (hmem c).1 hc
    exact (located_of_coverage hr hname).2.1
  obtain ⟨c, hc⟩ := mapM_ok_iff.1 ⟨channels, hchannels⟩ name hname
  obtain ⟨hi, -, key, data, hlocated, hblocks⟩ := located_of_coverage hr hc
  obtain ⟨hinterval, hspan, b, hb, hlo, hhi⟩ :=
    intersect_within horderly hintersect hw ((hmem c).2 ⟨name, hname, hc⟩)
  rw [hblocks] at hb
  obtain ⟨s, hs, rfl⟩ := List.mem_map.1 hb
  have hfilter := hlocated.spaced.filter_range hi (Processor.divisor_pos p) hspan hs ⟨hlo, hhi⟩
  obtain ⟨xs, hxs, hcount⟩ := (hlocated.regular s hs).extract_length hi
    (Int.le_of_lt hspan) hlo hhi
  refine ⟨s, xs, ⟨⟨key, data, hlocated.found, hfilter⟩, hxs⟩, ?_⟩
  rw [sampleCount_eq (hinterval ▸ hi) hspan, hinterval]
  exact hcount

/-- Each window that named channels of a run have in common lies in exactly one segment of
every such channel. The samples extracted from it are as many as the window has places or
one more, so that two channels differ by one sample at most. -/
theorem extracts_common (p : Setup) (records : List Bytes) (r : SplitResult)
    (hr : r.channels = ((Processor.ofSetup p).processAll records).finish.channels)
    (names : List String) (windows : List Window) (h : r.coverage names = .ok windows)
    (w : Window) (hw : w ∈ windows) :
    (∀ name ∈ names, ∃ s xs, r.Extracts name w s xs ∧
      ((xs.length : Int) = w.sampleCount ∨ (xs.length : Int) = w.sampleCount + 1)) ∧
    ∀ a ∈ names, ∀ b ∈ names, ∀ s xs t ys, r.Extracts a w s xs → r.Extracts b w t ys →
      xs.length ≤ ys.length + 1 := by
  have hall := exists_extracts hr h hw
  refine ⟨hall, ?_⟩
  intro a ha b hb s xs t ys hs ht
  obtain ⟨s', xs', hs', hxs⟩ := hall a ha
  obtain ⟨t', ys', ht', hys⟩ := hall b hb
  obtain ⟨-, rfl⟩ := hs.unique hs'
  obtain ⟨-, rfl⟩ := ht.unique ht'
  omega

/-- Two channels of 1 Hz, the second half a second behind the first. -/
theorem extracts_common_of_shifted :
    ∃ r₁ r₂ : Bytes, ∃ r : SplitResult, ∃ s t : Segment, ∃ xs ys : List Int32,
      Draft.longPeriod.encode [1, 2, 3, 4, 5] = .ok r₁ ∧
      { Draft.longPeriod with location := "10", start := 500000 }.encode [6, 7, 8, 9, 10] =
        .ok r₂ ∧
      r.channels = ((Processor.ofSetup ⟨.rawInteger, .standard, .all, 8, 10⟩).processAll
        [r₁, r₂]).finish.channels ∧
      r.coverage ["IU_ANMO_00_LHZ", "IU_ANMO_10_LHZ"] = .ok [⟨500000, 5000000, 1000000⟩] ∧
      r.Extracts "IU_ANMO_00_LHZ" ⟨500000, 5000000, 1000000⟩ s xs ∧
      r.Extracts "IU_ANMO_10_LHZ" ⟨500000, 5000000, 1000000⟩ t ys ∧
      xs.length ≤ ys.length + 1 ∧ ys.length ≤ xs.length + 1 := by
  let d := Draft.longPeriod
  let r₁ := (d.encode [1, 2, 3, 4, 5]).toOption.getD []
  let r₂ :=
    ({ d with location := "10", start := 500000 }.encode [6, 7, 8, 9, 10]).toOption.getD []
  let q := (Processor.ofSetup ⟨.rawInteger, .standard, .all, 8, 10⟩).processAll [r₁, r₂]
  let entries := (q.assembled.map fun e => (e.1, e.2.1)).filter fun c =>
    !c.2.segments.isEmpty
  have hchannels : q.finish.channels = entries :=
    List.mergeSort_of_pairwise (by decide +kernel)
  let r : SplitResult := { channels := q.finish.channels }
  let names := ["IU_ANMO_00_LHZ", "IU_ANMO_10_LHZ"]
  have hcoverage : r.coverage names = .ok [⟨500000, 5000000, 1000000⟩] := by
    have hentries : ({ channels := entries } : SplitResult).coverage names =
        .ok [⟨500000, 5000000, 1000000⟩] := by decide +kernel
    rw [← hentries, ← hchannels]
  obtain ⟨hall, hclose⟩ := extracts_common _ _ r rfl names _ hcoverage _ List.mem_cons_self
  obtain ⟨s, xs, hs, -⟩ := hall "IU_ANMO_00_LHZ" (by decide)
  obtain ⟨t, ys, ht, -⟩ := hall "IU_ANMO_10_LHZ" (by decide)
  refine ⟨r₁, r₂, r, s, t, xs, ys, by decide +kernel, by decide +kernel, rfl, hcoverage,
    hs, ht, ?_, ?_⟩
  · exact hclose _ (by decide) _ (by decide) s xs t ys hs ht
  · exact hclose _ (by decide) _ (by decide) t ys s xs ht hs

end SplitResult
end SeedStream
