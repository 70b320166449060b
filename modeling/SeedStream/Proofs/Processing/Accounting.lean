import Mathlib.Algebra.BigOperators.Group.List.Basic
import SeedStream.Proofs.Assembly.Spacing
import SeedStream.Proofs.Channel.Alike
import SeedStream.Proofs.Processing.Output
import SeedStream.Record.Draft

/-!
# The counts add up

Each record is counted under one heading, and each overlap opens a segment. Each
segment that was opened is put out, merged into another or dropped as empty. Between two
segments of a channel that are put out there is a gap, and segments of one channel never
differ in their interval.
-/

set_option autoImplicit false

namespace SeedStream

namespace ProcessingStats

theorem add_assoc (a b c : ProcessingStats) : (a.add b).add c = a.add (b.add c) := by
  simp only [add, Nat.add_assoc]

theorem add_left_comm (a b c : ProcessingStats) : a.add (b.add c) = b.add (a.add c) := by
  simp only [add, Nat.add_left_comm]

/-- Each record received is counted under one heading, and overlaps open segments. -/
structure Balanced (s : ProcessingStats) : Prop where
  received : s.received = s.heartbeats + s.decodeErrors + s.rateDiscarded + s.filtered + s.decoded
  outOfSequence : s.outOfSequence ≤ s.overlaps
  overlaps : s.overlaps ≤ s.segmentsOpened

theorem Balanced.add {a b : ProcessingStats} (ha : a.Balanced) (hb : b.Balanced) :
    (a.add b).Balanced where
  received := by
    have := ha.received
    have := hb.received
    simp only [ProcessingStats.add]
    omega
  outOfSequence := Nat.add_le_add ha.outOfSequence hb.outOfSequence
  overlaps := Nat.add_le_add ha.overlaps hb.overlaps

end ProcessingStats

namespace ChannelState

variable {p : Setup} {c d : ChannelState} {h : Header} {r : Bytes}

def positionCounts (c : ChannelState) (h : Header) : ProcessingStats :=
  (c.overlapCounts h).add (c.openingCounts h)

theorem positionCounts_balanced (c : ChannelState) (h : Header) :
    (c.positionCounts h).Balanced := by
  unfold positionCounts overlapCounts openingCounts
  cases c.continuity h.start with
  | overlap => by_cases hr : c.regresses h <;> constructor <;> simp [ProcessingStats.add, hr]
  | _ => constructor <;> simp [ProcessingStats.add]

theorem receive_counts_ok (hd : c.prepare p h = .ok d) :
    (c.receive p h r).2 = (c.positionCounts h).add { decodeErrors := 1 } ∨
      (c.receive p h r).2 = (c.positionCounts h).add { decoded := 1 } := by
  rw [receive, hd]
  dsimp only
  cases p.decoder.samples h r with
  | error x => exact .inl rfl
  | ok xs => exact .inr rfl

theorem receive_balanced (hb : 0 < p.blockSize) (hi : ∃ i, SampleRate.interval h.rate = .ok i) :
    (({ received := 1 } : ProcessingStats).add (c.receive p h r).2).Balanced := by
  obtain ⟨i, hi⟩ := hi
  obtain ⟨d, hd⟩ := prepare_ok (c := c) hi hb
  have hposition := c.positionCounts_balanced h
  rcases receive_counts_ok (r := r) hd with hcounts | hcounts
  · rw [hcounts, ProcessingStats.add_left_comm]
    exact hposition.add ⟨rfl, by decide, by decide⟩
  · rw [hcounts, ProcessingStats.add_left_comm]
    exact hposition.add ⟨rfl, by decide, by decide⟩

@[simp] theorem opened_overlapCounts (c : ChannelState) (h : Header) :
    (c.overlapCounts h).segmentsOpened = 0 := by
  unfold overlapCounts
  split <;> rfl

theorem opened_positionCounts (c : ChannelState) (h : Header) :
    (c.positionCounts h).segmentsOpened = if c.continuity h.start = .joins then 0 else 1 := by
  simp [positionCounts, openingCounts, ProcessingStats.add]

theorem segments_accept (xs : List Int32) :
    (d.accept h xs).segments.length = d.segments.length := by
  cases hc : d.current <;> simp [segments, accept, hc]

theorem segments_prepare (hd : c.prepare p h = .ok d) :
    d.segments.length = c.segments.length + (c.positionCounts h).segmentsOpened := by
  rw [opened_positionCounts]
  rcases prepare_cases hd with ⟨hj, rfl⟩ | ⟨s, hj, -, rfl⟩
  · rw [if_pos hj, Nat.add_zero]
  · rw [if_neg hj]
    simp [segments, turned, Nat.add_assoc]

theorem segments_receive (c : ChannelState) (p : Setup) (h : Header) (r : Bytes) :
    (c.receive p h r).1.segments.length =
      c.segments.length + (c.receive p h r).2.segmentsOpened := by
  cases hd : c.prepare p h with
  | error x =>
    have hopened : (c.receive p h r).2.segmentsOpened = 0 := by
      simp [receive, hd, ProcessingStats.add]
    rw [receive_of_error hd, hopened, Nat.add_zero]
  | ok d =>
    have hopened : (c.receive p h r).2.segmentsOpened = (c.positionCounts h).segmentsOpened := by
      rcases receive_counts_ok (r := r) hd with hcounts | hcounts
      · rw [hcounts]
        rfl
      · rw [hcounts]
        rfl
    rw [hopened, ← segments_prepare hd, receive_of_ok hd]
    cases p.decoder.samples h r with
    | error x => rfl
    | ok xs => exact segments_accept xs

end ChannelState

def ProcessingResult.segmentCount (r : ProcessingResult) : Nat :=
  (r.channels.map fun e => e.2.segments.length).sum

namespace Processor
open ChannelState

variable {p : Setup} {q : Processor} {key : ChannelKey} {records : List Bytes}

/-- A change of one entry changes a sum over all entries by as much. -/
theorem sum_updateIn {g : ChannelState → Nat} (hg : g {} = 0) (key : ChannelKey)
    (f : ChannelState → ChannelState × ProcessingStats) (l : List (ChannelKey × ChannelState)) :
    ((updateIn key f l).1.map fun e => g e.2).sum + g ((l.lookup key).getD {}) =
      (l.map fun e => g e.2).sum + g (f ((l.lookup key).getD {})).1 := by
  induction l with
  | nil => simp [updateIn, hg]
  | cons e rest ih =>
    rw [updateIn_cons, lookup_cons]
    by_cases he : e.1 = key
    · simp only [he, if_true, Option.getD_some, List.map_cons, List.sum_cons]
      omega
    · simp only [he, Ne.symm he, if_false, List.map_cons, List.sum_cons]
      omega

structure Balanced (q : Processor) : Prop where
  stats : q.stats.Balanced
  opened : q.stats.segmentsOpened = (q.channels.map fun e => e.2.segments.length).sum

theorem Balanced.process (h : q.Balanced) (hb : 0 < q.setup.blockSize) (r : Bytes) :
    (q.process r).Balanced := by
  have hskip : ∀ s : ProcessingStats, (({ received := 1 } : ProcessingStats).add s).Balanced →
      s.segmentsOpened = 0 → ((q.count { received := 1 }).count s).Balanced := by
    intro s hs hopened
    constructor
    · change ((q.stats.add { received := 1 }).add s).Balanced
      rw [ProcessingStats.add_assoc]
      exact h.stats.add hs
    · simp only [count, ProcessingStats.add, hopened]
      exact h.opened
  cases hc : q.setup.classify r with
  | data key g =>
    obtain ⟨-, -, -, hi, -, -⟩ := Setup.classify_data_iff.1 hc
    constructor
    · rw [stats_process hc, ProcessingStats.add_assoc]
      exact h.stats.add (receive_balanced hb hi)
    · have hreceive := ((q.channels.lookup key).getD {}).segments_receive q.setup g r
      have hsum := sum_updateIn (g := fun c => c.segments.length) rfl key
        (fun c => c.receive q.setup g r) q.channels
      have hchannels : (q.process r).channels =
          (updateIn key (fun c => c.receive q.setup g r) q.channels).1 := by
        simp only [Processor.process, hc, count]
      have hopened := h.opened
      rw [stats_process hc, hchannels]
      simp only [ProcessingStats.add]
      omega
  | _ =>
    simp only [Processor.process, hc]
    exact hskip _ ⟨rfl, by decide, by decide⟩ rfl

theorem balanced_ofSetup (p : Setup) : (ofSetup p).Balanced :=
  ⟨⟨rfl, Nat.le_refl _, Nat.le_refl _⟩, rfl⟩

theorem Balanced.processAll (h : q.Balanced) (hb : 0 < q.setup.blockSize) (records : List Bytes) :
    (q.processAll records).Balanced := by
  induction records generalizing q with
  | nil => exact h
  | cons r rest ih =>
    apply ih (h.process hb r)
    rw [process_setup]
    exact hb

theorem sum_foldl_add {f : AssemblyStats → Nat} (hf : ∀ a b, f (a.add b) = f a + f b)
    (l : List AssemblyStats) (a : AssemblyStats) :
    f (l.foldl AssemblyStats.add a) = f a + (l.map f).sum := by
  induction l generalizing a with
  | nil => rfl
  | cons b rest ih => rw [List.foldl_cons, ih, hf, List.map_cons, List.sum_cons, Nat.add_assoc]

theorem assembly_sum (q : Processor) {f : AssemblyStats → Nat}
    (hf : ∀ a b, f (a.add b) = f a + f b) (h0 : f {} = 0) :
    f q.finish.assembly = (q.channels.map fun e => f (assembleChannel e.2).2).sum := by
  simp only [finish, assembled, List.map_map]
  rw [sum_foldl_add hf, h0, Nat.zero_add, List.map_map]
  rfl

/-- What the channels of a result add up to, channels without segments adding nothing. -/
theorem finish_sum (q : Processor) {g : ChannelData → Nat}
    (hg : ∀ d, d.segments = [] → g d = 0) :
    (q.finish.channels.map fun e => g e.2).sum =
      (q.channels.map fun e => g (assembleChannel e.2).1).sum := by
  simp only [finish]
  rw [((List.mergeSort_perm _ keyLe).map fun e => g e.2).sum_nat]
  simp only [assembled, List.map_map]
  induction q.channels with
  | nil => rfl
  | cons e rest ih =>
    simp only [List.map_cons, List.filter_cons, Function.comp_apply, List.sum_cons]
    cases hs : (assembleChannel e.2).1.segments with
    | nil => simpa [hg _ hs] using ih
    | cons s segments => simpa using ih

theorem segments_balance (h : q.Balanced) :
    q.finish.segmentCount + q.finish.assembly.merges + q.finish.assembly.emptyDiscarded =
      q.stats.segmentsOpened := by
  rw [ProcessingResult.segmentCount, finish_sum q (g := fun d => d.segments.length)
    (by simp +contextual),
    assembly_sum q (f := AssemblyStats.merges) (fun _ _ => rfl) rfl,
    assembly_sum q (f := AssemblyStats.emptyDiscarded) (fun _ _ => rfl) rfl, h.opened,
    ← List.sum_map_add, ← List.sum_map_add]
  apply congrArg List.sum
  apply List.map_congr_left
  intro e _
  exact (Assembly.assemble_counts e.2.segments).1

def present (d : ChannelData) : Nat := min d.segments.length 1

theorem sum_present (q : Processor) :
    (q.finish.channels.map fun e => present e.2).sum = q.finish.channels.length := by
  have hone : ∀ e ∈ q.finish.channels, present e.2 = 1 := by
    rintro ⟨key, data⟩ he
    obtain ⟨c, -, -, hne⟩ := (mem_finish q data).1 he
    exact Nat.min_eq_right (List.length_pos_iff.2 hne)
  rw [List.map_congr_left hone, List.map_const', List.sum_replicate, Nat.nsmul_eq_mul, Nat.mul_one]

theorem gaps_balance (hm : ∀ e ∈ q.channels, (assembleChannel e.2).2.intervalMismatches = 0) :
    q.finish.assembly.gaps + q.finish.channels.length = q.finish.segmentCount := by
  rw [ProcessingResult.segmentCount, ← sum_present, finish_sum q (g := present)
    (by simp +contextual [present]),
    finish_sum q (g := fun d => d.segments.length) (by simp +contextual),
    assembly_sum q (f := AssemblyStats.gaps) (fun _ _ => rfl) rfl, ← List.sum_map_add]
  apply congrArg List.sum
  apply List.map_congr_left
  intro e he
  have hcounts := (Assembly.assemble_counts e.2.segments).2
  have hmatched := hm e he
  simp only [assembleChannel, present] at hmatched ⊢
  omega

theorem mismatches_zero (p : Setup) (records : List Bytes) :
    ∀ e ∈ ((ofSetup p).processAll records).channels,
      (assembleChannel e.2).2.intervalMismatches = 0 := by
  rintro ⟨key, c⟩ he
  obtain ⟨i, hi, ht⟩ := tracks_channels he
  exact (Assembly.assemble_spaced (SampleRate.interval_pos hi) (divisor_pos p)
    fun s hs => (ht.regular s hs).1.paced).2

/-- Every record is counted under one heading, and every segment that was opened is put out,
merged or empty. The gaps are those between the segments of a channel that are put out. -/
theorem finish_balanced (p : Setup) (hb : 0 < p.blockSize) (records : List Bytes) :
    let out := ((ofSetup p).processAll records).finish
    out.stats.received = out.stats.heartbeats + out.stats.decodeErrors +
      out.stats.rateDiscarded + out.stats.filtered + out.stats.decoded ∧
    out.stats.outOfSequence ≤ out.stats.overlaps ∧
    out.stats.overlaps ≤ out.stats.segmentsOpened ∧
    out.segmentCount + out.assembly.merges + out.assembly.emptyDiscarded =
      out.stats.segmentsOpened ∧
    out.assembly.gaps + out.channels.length = out.segmentCount ∧
    out.assembly.intervalMismatches = 0 := by
  have hbalanced := (balanced_ofSetup p).processAll hb records
  have hmatched := mismatches_zero p records
  have hmismatches : ((ofSetup p).processAll records).finish.assembly.intervalMismatches = 0 := by
    rw [assembly_sum _ (f := AssemblyStats.intervalMismatches) (fun _ _ => rfl) rfl,
      List.map_congr_left hmatched]
    simp
  exact ⟨hbalanced.stats.received, hbalanced.stats.outOfSequence, hbalanced.stats.overlaps,
    segments_balance hbalanced, gaps_balance hmatched, hmismatches⟩

/-- A record, one that overlaps it, one behind a gap that cannot be decoded, the first once
more, and a record that is none. -/
theorem finish_balanced_of_overlaps :
    ∃ r₁ r₂ r₃ : Bytes,
      Draft.longPeriod.encode [1, 2, 3] = .ok r₁ ∧
      { Draft.longPeriod with start := 2300000 }.encode [3, 4] = .ok r₂ ∧
      { Draft.longPeriod with start := 10000000 }.encode [5] = .ok r₃ ∧
      let out := ((ofSetup ⟨.rawInteger, .standard, .all, 4, 10⟩).processAll
        [r₁, r₂, r₃.set 52 10, r₁, [0]]).finish
      out.stats.received = 5 ∧ out.stats.overlaps = 2 ∧
      out.segmentCount + out.assembly.merges + out.assembly.emptyDiscarded = 4 ∧
      out.assembly.gaps + out.channels.length = out.segmentCount ∧
      out.assembly.intervalMismatches = 0 := by
  let d := Draft.longPeriod
  let r₁ := (d.encode [1, 2, 3]).toOption.getD []
  let r₂ := ({ d with start := 2300000 }.encode [3, 4]).toOption.getD []
  let r₃ := ({ d with start := 10000000 }.encode [5]).toOption.getD []
  have hstats : ((ofSetup ⟨.rawInteger, .standard, .all, 4, 10⟩).processAll
      [r₁, r₂, r₃.set 52 10, r₁, [0]]).stats =
        { received := 5, decoded := 3, decodeErrors := 2, overlaps := 2, outOfSequence := 2,
          segmentsOpened := 4 } := by decide +kernel
  obtain ⟨-, -, -, hsegments, hgaps, hmismatches⟩ :=
    finish_balanced ⟨.rawInteger, .standard, .all, 4, 10⟩ (by decide)
      [r₁, r₂, r₃.set 52 10, r₁, [0]]
  refine ⟨r₁, r₂, r₃, by decide +kernel, by decide +kernel, by decide +kernel, ?_, ?_, ?_,
    hgaps, hmismatches⟩
  · exact congrArg ProcessingStats.received hstats
  · exact congrArg ProcessingStats.overlaps hstats
  · exact hsegments.trans (congrArg ProcessingStats.segmentsOpened hstats)

end Processor
end SeedStream
