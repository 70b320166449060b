import Mathlib.Data.List.Induction
import SeedStream.Proofs.Processing.Accounting
import SeedStream.Proofs.Processing.Skipped

/-!
# A run without overlaps

Without an overlap each segment of a channel is opened behind the former one, farther
than the tolerance. They are assembled as they are, so the samples put out are those
taken from the records, in the order of their arrival.
-/

set_option autoImplicit false

namespace SeedStream

/-- The samples taken from a record of a channel: none if they cannot be decoded, or if
blocks have no room for any. -/
def Setup.taken (p : Setup) (a : Header × Bytes) : List Int32 :=
  match p.decoder.samples a.1 a.2 with
  | .error _ => []
  | .ok xs => if p.blockSize = 0 then [] else xs

theorem Setup.taken_ne_nil {p : Setup} {a : Header × Bytes} : p.taken a ≠ [] ↔
    0 < p.blockSize ∧ ∃ xs, p.decoder.samples a.1 a.2 = .ok xs ∧ xs ≠ [] := by
  unfold taken
  cases p.decoder.samples a.1 a.2 with
  | error x => simp
  | ok xs => by_cases hb : p.blockSize = 0 <;> simp [hb, Nat.pos_iff_ne_zero]

theorem pairwise_concat {α : Type} {r : α → α → Prop} {l : List α} {a : α} :
    (l ++ [a]).Pairwise r ↔ l.Pairwise r ∧ ∀ b ∈ l, r b a := by
  simp [List.pairwise_append]

theorem Assembly.samples_filled {segments : List Segment} (h : ∀ s ∈ segments, s.Sound) :
    ((filled segments).map Segment.shrink).flatMap Segment.samples =
      segments.flatMap Segment.samples := by
  induction segments with
  | nil => rfl
  | cons s rest ih =>
    obtain ⟨hs, hrest⟩ := List.forall_mem_cons.1 h
    have hrest_samples := ih hrest
    by_cases hn : s.length = 0
    · have hnil : s.samples = [] := List.eq_nil_of_length_eq_zero (hs.length_samples.trans hn)
      rw [filled, List.filter_cons_of_neg (by simp [hn]), List.flatMap_cons, hnil]
      exact hrest_samples
    · rw [filled, List.filter_cons_of_pos (by simp [hn]), List.map_cons, List.flatMap_cons,
        List.flatMap_cons, hs.shrink.2.1]
      exact congrArg (s.samples ++ ·) hrest_samples

namespace ChannelState

/-- The segments of a channel without overlaps, and the samples taken so far. -/
structure Unbroken (p : Setup) (i : Int) (taken : List Int32) (c : ChannelState) : Prop where
  opened : c.current = none → c.closed = []
  apart : c.segments.Pairwise fun a b => a.stop + i / p.divisor < b.start
  samples : c.segments.flatMap Segment.samples = taken

variable {p : Setup} {key : ChannelKey} {i : Int} {arrivals : List (Header × Bytes)}
  {taken : List Int32} {c d : ChannelState} {h : Header} {r : Bytes} {s : Segment}

theorem unbroken_empty : Unbroken p i [] {} where
  opened _ := rfl
  apart := .nil
  samples := rfl

/-- A record that neither overlaps nor joins the open segment starts behind all of them. -/
theorem Unbroken.behind (hu : Unbroken p i taken c) (ht : Tracks p key i arrivals c) (hi : 0 < i)
    {start : Int} (ho : c.continuity start ≠ .overlap) (hj : c.continuity start ≠ .joins)
    {a : Segment} (ha : a ∈ c.segments) : a.stop + i / p.divisor < start := by
  cases hs : c.current with
  | none =>
    rw [segments, hu.opened hs, hs] at ha
    cases ha
  | some s =>
    have hsegments := segments_of_current hs
    have hpaced := (ht.regular s (hsegments ▸ List.mem_append_right _ List.mem_cons_self)).1.paced
    have hgap : s.stop + i / p.divisor < start := by
      simp only [continuity, hs, hpaced.tolerance_eq] at ho hj
      by_contra hle
      rw [if_neg (by omega)] at ho hj
      split at ho
      next => exact ho rfl
      next hover => exact hj (if_neg hover)
    have hspan := hpaced.start_le_stop hi
    have htol := tolerance_nonneg (p := p) hi
    have happart := hu.apart
    rw [hsegments] at ha happart
    rcases List.mem_append.1 ha with hclosed | hlast
    · -- A closed segment ends before the open one starts, which does not end before that.
      have hbefore := (pairwise_concat.1 happart).2 a hclosed
      omega
    · rw [List.mem_singleton.1 hlast]
      exact hgap

theorem Unbroken.prepare (hu : Unbroken p i taken c) (ht : Tracks p key i arrivals c) (hi : 0 < i)
    (ho : c.continuity h.start ≠ .overlap) (hd : c.prepare p h = .ok d) :
    Unbroken p i taken d := by
  rcases prepare_cases hd with ⟨-, rfl⟩ | ⟨s, hj, hs, rfl⟩
  · exact hu
  · obtain ⟨-, hstart, -, hempty, -⟩ := Segment.create_sound hs
    have hsegments : (c.turned p s).segments =
        c.segments ++ [s.withJitterDivisor p.jitterDivisor] := rfl
    constructor
    · intro hnone
      cases hnone
    · rw [hsegments, pairwise_concat]
      refine ⟨hu.apart, ?_⟩
      intro a ha
      exact hstart ▸ hu.behind ht hi ho hj ha
    · have hnew : (s.withJitterDivisor p.jitterDivisor).samples = [] := hempty
      simp [hsegments, hu.samples, hnew]

theorem Unbroken.accept (hu : Unbroken p i taken d) (hs : d.current = some s) (hsound : s.Sound)
    (xs : List Int32) : Unbroken p i (taken ++ xs) (d.accept h xs) := by
  have hsegments : (d.accept h xs).segments = d.closed ++ [s.append xs] := by
    simp [ChannelState.accept, segments, hs]
  have happart := hu.apart
  have hsamples := hu.samples
  rw [segments_of_current hs] at happart hsamples
  constructor
  · intro hnone
    simp [ChannelState.accept, hs] at hnone
  · rw [hsegments, pairwise_concat, (Segment.append_head s xs).start]
    exact pairwise_concat.1 happart
  · rw [hsegments, ← hsamples]
    simp [(hsound.append xs).2]

theorem Unbroken.receive (hu : Unbroken p i taken c) (ht : Tracks p key i arrivals c)
    (hi : SampleRate.interval h.rate = .ok i) (hk : h.rate = key.rate)
    (ho : c.continuity h.start ≠ .overlap) :
    Unbroken p i (taken ++ p.taken (h, r)) (c.receive p h r).1 := by
  cases hd : c.prepare p h with
  | error x =>
    -- Only blocks without room keep a segment from being opened, and then nothing is taken.
    have hb := unsized_of_error hi hd
    have hnone : p.taken (h, r) = [] := by
      by_contra hne
      exact absurd (Setup.taken_ne_nil.1 hne).1 (by omega)
    rw [receive_of_error hd, hnone, List.append_nil]
    exact hu
  | ok d =>
    obtain ⟨s, hr⟩ := ht.ready hi hk hd
    have hprepared := hu.prepare ht (SampleRate.interval_pos hi) ho hd
    rw [receive_of_ok hd]
    cases hx : p.decoder.samples h r with
    | error x => simpa [Setup.taken, hx] using hprepared
    | ok xs =>
      have hxs : p.taken (h, r) = xs := by
        simp [Setup.taken, hx, Nat.ne_of_gt hr.sized]
      rw [hxs]
      exact hprepared.accept hr.current hr.regular.sound xs

theorem overlaps_receive (c : ChannelState) (p : Setup) (h : Header) (r : Bytes) :
    (c.receive p h r).2.overlaps = if c.continuity h.start = .overlap then 1 else 0 := by
  have hcounts : (c.overlapCounts h).overlaps =
      if c.continuity h.start = .overlap then 1 else 0 := by
    unfold overlapCounts
    split <;> rfl
  rw [← hcounts, ChannelState.receive]
  cases c.prepare p h with
  | error x => rfl
  | ok d => cases p.decoder.samples h r <;> rfl

theorem Unbroken.assembled (hu : Unbroken p i taken c) (ht : Tracks p key i arrivals c)
    (hi : 0 < i) :
    (Processor.assembleChannel c).1.segments.flatMap Segment.samples = taken ∧
      (Processor.assembleChannel c).2.merges = 0 := by
  obtain ⟨hout, hmerges⟩ := Assembly.assemble_apart hi (Processor.divisor_pos p)
    (fun s hs => (ht.regular s hs).1.paced) hu.apart
  have hsound : ∀ s ∈ c.segments, s.Sound := fun s hs => (ht.regular s hs).1.sound
  refine ⟨?_, hmerges⟩
  change (assemble c.segments).1.flatMap Segment.samples = taken
  rw [hout, ← hu.samples]
  exact Assembly.samples_filled hsound

end ChannelState

namespace Processor
open ChannelState

variable {p : Setup} {q : Processor} {key : ChannelKey} {i : Int} {r : Bytes}
  {records : List Bytes} {h : Header}

theorem tracks_stateOf (hi : SampleRate.interval key.rate = .ok i) (records : List Bytes) :
    Tracks p key i (p.arrivals key records) (((ofSetup p).processAll records).stateOf key) := by
  have hrates : ∀ a ∈ p.arrivals key records, a.1.rate = key.rate :=
    fun a ha => (Setup.interval_of_mem_arrivals ha).1
  have htracks := tracks_visits (p := p) (c := none) hi hrates tracks_empty
  rw [visits_getD] at htracks
  rw [stateOf_processAll]
  exact htracks

theorem overlaps_le_process (q : Processor) (r : Bytes) :
    q.stats.overlaps ≤ (q.process r).stats.overlaps := by
  cases hc : q.setup.classify r with
  | data key h =>
    rw [stats_process hc]
    simp only [ProcessingStats.add]
    omega
  | _ => simp [Processor.process, hc, count, ProcessingStats.add]

/-- The samples taken from the records of a channel, in the order of their arrival. -/
def takenFrom (p : Setup) (key : ChannelKey) (records : List Bytes) : List Int32 :=
  (p.arrivals key records).flatMap p.taken

theorem takenFrom_append (before after : List Bytes) :
    takenFrom p key (before ++ after) = takenFrom p key before ++ takenFrom p key after := by
  rw [takenFrom, Setup.arrivals, List.filterMap_append, List.flatMap_append]
  rfl

theorem takenFrom_ne_nil : takenFrom p key records ≠ [] ↔
    0 < p.blockSize ∧ ∃ r ∈ records, ∃ h xs, p.Decodes key r h xs ∧ xs ≠ [] := by
  simp only [takenFrom, ne_eq, List.flatMap_eq_nil_iff, not_forall]
  constructor
  · rintro ⟨⟨h, r⟩, ha, hne⟩
    obtain ⟨hb, xs, hxs, hfilled⟩ := Setup.taken_ne_nil.1 hne
    obtain ⟨hr, hc⟩ := Setup.mem_arrivals.1 ha
    exact ⟨hb, r, hr, h, xs, ⟨hc, hxs⟩, hfilled⟩
  · rintro ⟨hb, r, hr, h, xs, ⟨hc, hxs⟩, hfilled⟩
    exact ⟨(h, r), Setup.mem_arrivals.2 ⟨hr, hc⟩,
      Setup.taken_ne_nil.2 ⟨hb, xs, hxs, hfilled⟩⟩

theorem unbroken_process {taken : List Int32} {arrivals : List (Header × Bytes)}
    (hq : q.setup = p) (hu : Unbroken p i taken (q.stateOf key))
    (ht : Tracks p key i arrivals (q.stateOf key)) (hi : SampleRate.interval key.rate = .ok i)
    (h0 : (q.process r).stats.overlaps = 0) :
    Unbroken p i (taken ++ takenFrom p key [r]) ((q.process r).stateOf key) := by
  subst hq
  rw [takenFrom]
  by_cases hc : ∃ h, q.setup.classify r = .data key h
  · obtain ⟨h, hc⟩ := hc
    have hsingle := Setup.arrivals_single hc
    have hmem : (h, r) ∈ q.setup.arrivals key [r] := hsingle ▸ List.mem_cons_self
    have hk : h.rate = key.rate := (Setup.interval_of_mem_arrivals hmem).1
    have ho : (q.stateOf key).continuity h.start ≠ .overlap := by
      intro hover
      have hcounts := overlaps_receive (q.stateOf key) q.setup h r
      rw [if_pos hover, stateOf] at hcounts
      rw [stats_process hc] at h0
      simp only [ProcessingStats.add] at h0
      omega
    rw [stateOf_process hc, hsingle, List.flatMap_singleton]
    exact hu.receive ht (hk ▸ hi) hk ho
  · have hother : ∀ h, q.setup.classify r ≠ .data key h := fun h hc' => hc ⟨h, hc'⟩
    rw [stateOf_process_other hother, Setup.arrivals_other hother, List.flatMap_nil,
      List.append_nil]
    exact hu

theorem unbroken_processAll (hi : SampleRate.interval key.rate = .ok i)
    (h0 : ((ofSetup p).processAll records).stats.overlaps = 0) :
    Unbroken p i (takenFrom p key records) (((ofSetup p).processAll records).stateOf key) := by
  induction records using List.reverseRecOn with
  | nil => exact unbroken_empty
  | append_singleton records r ih =>
    have hbefore := overlaps_le_process ((ofSetup p).processAll records) r
    -- The count of overlaps never falls, so the records before the last one count none.
    rw [processAll_append] at h0
    have hu := ih (Nat.eq_zero_of_le_zero (h0 ▸ hbefore))
    rw [processAll_append, takenFrom_append]
    exact unbroken_process (processAll_setup _ records) hu (tracks_stateOf hi records) hi h0

theorem assembled_unbroken (h0 : ((ofSetup p).processAll records).stats.overlaps = 0)
    {c : ChannelState} (hc : (key, c) ∈ ((ofSetup p).processAll records).channels) :
    (assembleChannel c).1.segments.flatMap Segment.samples = takenFrom p key records ∧
      (assembleChannel c).2.merges = 0 := by
  obtain ⟨i, hi, ht⟩ := tracks_channels hc
  have hstate : ((ofSetup p).processAll records).stateOf key = c := by
    rw [stateOf, (mem_iff_lookup (keys_nodup p records)).1 hc]
    rfl
  have hu := unbroken_processAll hi h0
  rw [hstate] at hu
  exact hu.assembled ht (SampleRate.interval_pos hi)

theorem mem_keys_iff (p : Setup) (key : ChannelKey) (records : List Bytes) :
    key ∈ ((ofSetup p).processAll records).finish.channels.map Prod.fst ↔
      takenFrom p key records ≠ [] := by
  constructor
  · intro hk
    obtain ⟨⟨key, data⟩, hm, rfl⟩ := List.mem_map.1 hk
    obtain ⟨c, hc, rfl, hne⟩ := (mem_finish _ _).1 hm
    obtain ⟨-, i, c', ho⟩ := output_of_mem hm
    obtain ⟨y, v, hy⟩ := ho.exists_yields hne
    obtain ⟨r, hr, h, xs, hxs, j, hj, -⟩ := Setup.yields_arrivals.1 hy
    refine takenFrom_ne_nil.2 ⟨ho.sized, r, hr, h, xs, hxs, ?_⟩
    rintro rfl
    cases hj
  · intro hne
    obtain ⟨hb, r, hr, h, xs, hx, hfilled⟩ := takenFrom_ne_nil.1 hne
    obtain ⟨data, hm⟩ := exists_mem_finish hb hr hx hfilled
    exact List.mem_map_of_mem hm

/-- A run that counts no overlap puts out the samples that were taken, all of them, once
and in the order of their arrival, and merges no segments. -/
theorem finish_unbroken (p : Setup) (records : List Bytes)
    (h : ((ofSetup p).processAll records).stats.overlaps = 0) :
    let out := ((ofSetup p).processAll records).finish
    (out.channels.map Prod.fst).Nodup ∧
    (∀ key, key ∈ out.channels.map Prod.fst ↔ takenFrom p key records ≠ []) ∧
    (∀ key data, (key, data) ∈ out.channels →
      data.segments.flatMap Segment.samples = takenFrom p key records) ∧
    out.assembly.merges = 0 := by
  have hmerges : ((ofSetup p).processAll records).finish.assembly.merges = 0 := by
    have hnone : ∀ e ∈ ((ofSetup p).processAll records).channels,
        (assembleChannel e.2).2.merges = 0 := fun e he => (assembled_unbroken h he).2
    rw [assembly_sum _ (f := AssemblyStats.merges) (fun _ _ => rfl) rfl,
      List.map_congr_left hnone]
    simp
  refine ⟨finish_keys _ (keys_nodup p records), fun key => mem_keys_iff p key records, ?_,
    hmerges⟩
  intro key data hm
  obtain ⟨c, hc, rfl, -⟩ := (mem_finish _ _).1 hm
  exact (assembled_unbroken h hc).1

/-- A record that cannot be decoded leaves an empty segment behind a gap, and the next one
extends it. -/
theorem finish_unbroken_of_gap :
    ∃ r₁ r₂ r₃ : Bytes,
      Draft.longPeriod.encode [1, 2, 3] = .ok r₁ ∧
      { Draft.longPeriod with start := 10000000 }.encode [4] = .ok r₂ ∧
      { Draft.longPeriod with start := 9950000 }.encode [5, 6] = .ok r₃ ∧
      let out := ((ofSetup ⟨.rawInteger, .standard, .all, 4, 10⟩).processAll
        [r₁, r₂.set 52 10, r₃]).finish
      out.assembly.merges = 0 ∧ ∃ data,
        (⟨"IU", "ANMO", "00", "LHZ", ⟨0x3ff0000000000000⟩⟩, data) ∈ out.channels ∧
        data.segments.flatMap Segment.samples = [1, 2, 3, 5, 6] := by
  let p : Setup := ⟨.rawInteger, .standard, .all, 4, 10⟩
  let d := Draft.longPeriod
  let r₁ := (d.encode [1, 2, 3]).toOption.getD []
  let r₂ := ({ d with start := 10000000 }.encode [4]).toOption.getD []
  let r₃ := ({ d with start := 9950000 }.encode [5, 6]).toOption.getD []
  let k : ChannelKey := ⟨"IU", "ANMO", "00", "LHZ", ⟨0x3ff0000000000000⟩⟩
  have hoverlaps : ((ofSetup p).processAll [r₁, r₂.set 52 10, r₃]).stats.overlaps = 0 := by
    decide +kernel
  have htaken : takenFrom p k [r₁, r₂.set 52 10, r₃] = [1, 2, 3, 5, 6] := by decide +kernel
  obtain ⟨-, hkeys, hsamples, hmerges⟩ :=
    finish_unbroken p [r₁, r₂.set 52 10, r₃] hoverlaps
  obtain ⟨⟨key, data⟩, hm, hkey⟩ := List.mem_map.1 ((hkeys k).2 (by rw [htaken]; decide))
  rw [show key = k from hkey] at hm
  exact ⟨r₁, r₂, r₃, by decide +kernel, by decide +kernel, by decide +kernel, hmerges,
    data, hm, (hsamples k data hm).trans htaken⟩

end Processor
end SeedStream
