import SeedStream.Proofs.Processing.Isolation
import SeedStream.Proofs.Processing.Reassembly

/-!
# Records that are skipped

A record is skipped if no samples are taken from it. Samples are decoded only after
a segment has been opened for them, so a record that cannot be decoded may leave an
empty segment behind and the former one closed. That shows if the next record of the
channel extends the empty segment, or would have extended the former one; nothing
else of a skipped record shows but counts.
-/

set_option autoImplicit false

namespace SeedStream

namespace ChannelState

variable {p : Setup} {c d : ChannelState} {h : Header}

/-- A record with the header `h` opens no segment, or the next record of the channel extends
neither the segment opened for it nor the one open before. -/
def Passes (p : Setup) (c : ChannelState) (h : Header) (next : Option (Header × Bytes)) : Prop :=
  c.continuity h.start = .joins ∨ ∀ a ∈ next, c.continuity a.1.start ≠ .joins ∧
    ∀ i, SampleRate.interval h.rate = .ok i → i / p.divisor < |a.1.start - h.start|

theorem Passes.shown_eq {arrivals : List (Header × Bytes)} (hp : c.Passes p h arrivals.head?)
    (hd : c.prepare p h = .ok d) (hi : ∃ i, SampleRate.interval h.rate = .ok i)
    (hrates : ∀ a ∈ arrivals, a.1.rate = h.rate) (hb : 0 < p.blockSize) :
    (d.receiveAll p arrivals).shown = (c.receiveAll p arrivals).shown := by
  obtain ⟨i, hi⟩ := hi
  rcases prepare_cases hd with ⟨-, rfl⟩ | ⟨s, hj, hs, rfl⟩
  · rfl
  · cases arrivals with
    | nil => exact ChannelState.shown_eq (filled_turned hs) rfl
    | cons a rest =>
      obtain ⟨hleft, hapart⟩ := (hp.resolve_left hj) a rfl
      have hright : (c.turned p s).continuity a.1.start ≠ .joins := by
        rw [ne_eq, joins_turned hs hi, not_le]
        exact hapart i hi
      obtain ⟨t, ht⟩ := Segment.create_ok a.1.start
        ((hrates a List.mem_cons_self).symm ▸ hi) hb
      have hc := prepare_turned (p := p) hleft
      have hd := prepare_turned (p := p) hright
      rw [ht] at hc hd
      -- Both channels go on with the same new segment.
      have hturned : Alike ((c.turned p s).turned p t) (c.turned p t) :=
        ⟨rfl, filled_turned hs, rfl⟩
      have hnext := (hturned.receive_of_ok (r := a.2) hd hc).receiveAll (p := p) rest
      exact ChannelState.shown_eq hnext.segments hnext.sides

end ChannelState

namespace Processor
open ChannelState

variable {p : Setup} {q q' : Processor} {key : ChannelKey} {h : Header} {r : Bytes}

/-- A record from which no samples are taken. -/
def Skips (q : Processor) (r : Bytes) : Prop :=
  (q.process r).stats.decoded = q.stats.decoded

@[simp] theorem decoded_overlapCounts (c : ChannelState) (h : Header) :
    (c.overlapCounts h).decoded = 0 := by
  unfold overlapCounts
  split <;> rfl

theorem decoded_receive {c d : ChannelState} (hd : c.prepare p h = .ok d) {xs : List Int32}
    (hx : p.decoder.samples h r = .ok xs) : (c.receive p h r).2.decoded = 1 := by
  rw [receive, hd]
  dsimp only
  rw [hx]
  simp [ProcessingStats.add, openingCounts]

theorem Skips.counts (hr : Skips q r) (hc : q.setup.classify r = .data key h) :
    ((q.stateOf key).receive q.setup h r).2.decoded = 0 := by
  rw [Skips, stats_process hc] at hr
  simp only [ProcessingStats.add] at hr
  rw [stateOf]
  omega

theorem Skips.receive (hr : Skips q r) (hc : q.setup.classify r = .data key h) :
    ((q.stateOf key).receive q.setup h r).1 = q.stateOf key ∨
      (q.stateOf key).prepare q.setup h = .ok ((q.stateOf key).receive q.setup h r).1 := by
  have hcounts := hr.counts hc
  cases hd : (q.stateOf key).prepare q.setup h with
  | error x => exact .inl (receive_of_error hd)
  | ok d =>
    cases hx : q.setup.decoder.samples h r with
    | error x =>
      rw [receive_of_ok hd, hx]
      exact .inr rfl
    | ok xs =>
      rw [decoded_receive hd hx] at hcounts
      cases hcounts

theorem Skips.not_decodes (hr : Skips q r) (hb : 0 < q.setup.blockSize) {xs : List Int32} :
    ¬ q.setup.Decodes key r h xs := by
  rintro ⟨hc, hx⟩
  obtain ⟨-, -, -, ⟨i, hi⟩, -⟩ := Setup.classify_data_iff.1 hc
  obtain ⟨d, hd⟩ := prepare_ok (c := q.stateOf key) hi hb
  have hcounts := hr.counts hc
  rw [decoded_receive hd hx] at hcounts
  cases hcounts

theorem Skips.sides (hr : Skips q r) (key : ChannelKey) :
    ((q.process r).stateOf key).sides = (q.stateOf key).sides := by
  by_cases hc : ∃ h, q.setup.classify r = .data key h
  · obtain ⟨h, hc⟩ := hc
    rw [stateOf_process hc]
    rcases hr.receive hc with hsame | hprepare
    · rw [hsame]
    · exact sides_prepare hprepare
  · rw [stateOf_process_other fun h hc' => hc ⟨h, hc'⟩]

/-- Records put out the channels of other records if they include those that can be decoded. -/
theorem exists_mem_finish_of_decodes {records others : List Bytes} {data : ChannelData}
    (hm : (key, data) ∈ ((ofSetup p).processAll records).finish.channels)
    (hsub : 0 < p.blockSize → ∀ r ∈ records, ∀ h xs, p.Decodes key r h xs →
      r ∈ others) :
    0 < p.blockSize ∧ ∃ data',
      (key, data') ∈ ((ofSetup p).processAll others).finish.channels := by
  obtain ⟨hne, i, c, ho⟩ := output_of_mem hm
  obtain ⟨y, v, hy⟩ := ho.exists_yields hne
  obtain ⟨r, hr, h, xs, hxs, j, hj, -⟩ := Setup.yields_arrivals.1 hy
  have hfilled : xs ≠ [] := by
    rintro rfl
    cases hj
  exact ⟨ho.sized, exists_mem_finish ho.sized (hsub ho.sized r hr h xs hxs) hxs hfilled⟩

theorem finish_unsized (hb : p.blockSize = 0) (records : List Bytes) :
    ((ofSetup p).processAll records).finish.channels = [] := by
  apply List.eq_nil_iff_forall_not_mem.2
  rintro ⟨key, data⟩ hm
  obtain ⟨-, i, c, ho⟩ := output_of_mem hm
  exact absurd ho.sized (by omega)

theorem mem_finish_sides {data : ChannelData} (hq : (q.channels.map Prod.fst).Nodup)
    (hm : (key, data) ∈ q.finish.channels) : data.sides = (q.stateOf key).sides := by
  obtain ⟨rfl, -⟩ := shown_eq_some.1 ((shown_iff hq data).1 hm)
  rfl

def sidesOf (r : ProcessingResult) :
    List (ChannelKey × List UInt8 × List CalibrationMarker × Nat) :=
  r.channels.map fun e => (e.1, e.2.sides)

theorem sidesOf_subset {records others : List Bytes}
    (hsub : 0 < p.blockSize → ∀ r ∈ records, ∀ key h xs, p.Decodes key r h xs →
      r ∈ others)
    (hsides : 0 < p.blockSize → ∀ key, (((ofSetup p).processAll records).stateOf key).sides =
      (((ofSetup p).processAll others).stateOf key).sides) :
    sidesOf ((ofSetup p).processAll records).finish ⊆
      sidesOf ((ofSetup p).processAll others).finish := by
  intro e he
  obtain ⟨⟨key, data⟩, hm, rfl⟩ := List.mem_map.1 he
  obtain ⟨hb, data', hm'⟩ := exists_mem_finish_of_decodes hm
    fun hb r hr h xs hx => hsub hb r hr key h xs hx
  have hsame : data'.sides = data.sides := by
    rw [mem_finish_sides (keys_nodup p _) hm, mem_finish_sides (keys_nodup p _) hm', hsides hb key]
  exact List.mem_map.2 ⟨_, hm', Prod.ext rfl hsame⟩

theorem sidesOf_ordered (hq : (q.channels.map Prod.fst).Nodup) :
    (sidesOf q.finish).Pairwise fun a b => a.1.Precedes b.1 :=
  List.pairwise_map.2 (finish_ordered q hq)

variable {before after : List Bytes}

theorem stateOf_cons : (q.processAll (r :: after)).stateOf key =
    ((q.process r).stateOf key).receiveAll q.setup (q.setup.arrivals key after) := by
  have hrest := stateOf_processAll (q.process r) after key
  rw [process_setup] at hrest
  exact hrest

theorem Skips.sides_cons (hr : Skips q r) (hb : 0 < q.setup.blockSize) :
    ((q.processAll (r :: after)).stateOf key).sides =
      ((q.processAll after).stateOf key).sides := by
  rw [stateOf_cons, stateOf_processAll]
  apply sides_receiveAll hb _ (hr.sides key)
  rintro ⟨h, s⟩ ha
  obtain ⟨hrate, hi⟩ := Setup.interval_of_mem_arrivals ha
  exact hrate ▸ hi

theorem stateOf_cons_other (hc : ∀ h, q.setup.classify r ≠ .data key h) :
    (q.processAll (r :: after)).stateOf key = (q.processAll after).stateOf key := by
  rw [stateOf_cons, stateOf_process_other hc, stateOf_processAll]

theorem Skips.shown_cons (hr : Skips q r) (hb : 0 < q.setup.blockSize)
    (hp : ∀ h, q.setup.classify r = .data key h →
      (q.stateOf key).Passes q.setup h (q.setup.arrivals key after).head?) :
    ((q.processAll (r :: after)).stateOf key).shown =
      ((q.processAll after).stateOf key).shown := by
  by_cases hc : ∃ h, q.setup.classify r = .data key h
  · obtain ⟨h, hc⟩ := hc
    have hself : (h, r) ∈ q.setup.arrivals key [r] :=
      Setup.mem_arrivals.2 ⟨List.mem_cons_self, hc⟩
    obtain ⟨hrate, hi⟩ := Setup.interval_of_mem_arrivals hself
    rw [stateOf_cons, stateOf_process hc, stateOf_processAll]
    rcases hr.receive hc with hsame | hprepare
    · rw [hsame]
    · apply (hp h hc).shown_eq hprepare (hrate ▸ hi) _ hb
      intro a ha
      exact (Setup.interval_of_mem_arrivals (h := a.1) (r := a.2) ha).1.trans hrate.symm
  · rw [stateOf_cons_other fun h hc' => hc ⟨h, hc'⟩]

theorem Skips.sidesOf_eq (hr : Skips ((ofSetup p).processAll before) r) :
    sidesOf ((ofSetup p).processAll (before ++ r :: after)).finish =
      sidesOf ((ofSetup p).processAll (before ++ after)).finish := by
  have hsetup : ((ofSetup p).processAll before).setup = p := processAll_setup _ before
  have hsides : 0 < p.blockSize → ∀ key,
      (((ofSetup p).processAll (before ++ r :: after)).stateOf key).sides =
        (((ofSetup p).processAll (before ++ after)).stateOf key).sides := by
    intro hb key
    rw [processAll_append, processAll_append]
    exact hr.sides_cons (hsetup.symm ▸ hb)
  apply ChannelKey.eq_of_ordered (sidesOf_ordered (keys_nodup p _))
    (sidesOf_ordered (keys_nodup p _))
  intro e
  constructor
  · apply sidesOf_subset _ hsides
    intro hb s hs key h xs hx
    rcases List.mem_append.1 hs with hs | hs
    · exact List.mem_append_left after hs
    · rcases List.mem_cons.1 hs with rfl | hs
      · rw [← hsetup] at hb hx
        exact absurd hx (hr.not_decodes hb)
      · exact List.mem_append_right before hs
  · apply sidesOf_subset _ fun hb key => (hsides hb key).symm
    intro _ s hs _ _ _ _
    rcases List.mem_append.1 hs with hs | hs
    · exact List.mem_append_left _ hs
    · exact List.mem_append_right before (List.mem_cons_of_mem r hs)

theorem Skips.channels_eq (hr : Skips ((ofSetup p).processAll before) r)
    (hp : ∀ key h, p.classify r = .data key h →
      (((ofSetup p).processAll before).stateOf key).Passes p h (p.arrivals key after).head?) :
    ((ofSetup p).processAll (before ++ r :: after)).finish.channels =
      ((ofSetup p).processAll (before ++ after)).finish.channels := by
  have hsetup : ((ofSetup p).processAll before).setup = p := processAll_setup _ before
  rcases Nat.eq_zero_or_pos p.blockSize with hb | hb
  · rw [finish_unsized hb, finish_unsized hb]
  · apply finish_congr (keys_nodup p _) (keys_nodup p _)
    intro key
    rw [processAll_append, processAll_append]
    apply hr.shown_cons (hsetup.symm ▸ hb)
    rw [hsetup]
    exact hp key

/-- A skipped record shows in no channel but its own, and there neither in the count of
records nor in what else they say. It does not show at all if it is not sorted into a
channel, opens no segment, or passes. -/
theorem finish_skipped (p : Setup) (before after : List Bytes) (r : Bytes)
    (hr : Skips ((ofSetup p).processAll before) r) :
    sidesOf ((ofSetup p).processAll (before ++ r :: after)).finish =
      sidesOf ((ofSetup p).processAll (before ++ after)).finish ∧
    (∀ key, (∀ h, p.classify r ≠ .data key h) → ∀ data,
      (key, data) ∈ ((ofSetup p).processAll (before ++ r :: after)).finish.channels ↔
        (key, data) ∈ ((ofSetup p).processAll (before ++ after)).finish.channels) ∧
    ((∀ key h, p.classify r = .data key h →
        (((ofSetup p).processAll before).stateOf key).Passes p h (p.arrivals key after).head?) →
      ((ofSetup p).processAll (before ++ r :: after)).finish.channels =
        ((ofSetup p).processAll (before ++ after)).finish.channels) := by
  refine ⟨hr.sidesOf_eq, ?_, hr.channels_eq⟩
  intro key hc data
  have hsetup : ((ofSetup p).processAll before).setup = p := processAll_setup _ before
  have hother : ∀ h, ((ofSetup p).processAll before).setup.classify r ≠ .data key h := by
    rw [hsetup]
    exact hc
  rw [shown_iff (keys_nodup p _), shown_iff (keys_nodup p _), processAll_append,
    processAll_append, stateOf_cons_other hother]

/-- A record that cannot be decoded, with gaps before and behind it. -/
theorem finish_skipped_of_gaps :
    ∃ r₁ r₂ r₃ : Bytes,
      Draft.longPeriod.encode [1, 2, 3] = .ok r₁ ∧
      { Draft.longPeriod with start := 10000000 }.encode [4] = .ok r₂ ∧
      { Draft.longPeriod with start := 20000000 }.encode [5] = .ok r₃ ∧
      ((ofSetup (.ofDecoder .rawInteger)).processAll [r₁, r₂.set 52 10, r₃]).finish.channels =
        ((ofSetup (.ofDecoder .rawInteger)).processAll [r₁, r₃]).finish.channels := by
  let p : Setup := .ofDecoder .rawInteger
  let d := Draft.longPeriod
  let r₁ := (d.encode [1, 2, 3]).toOption.getD []
  let r₂ := ({ d with start := 10000000 }.encode [4]).toOption.getD []
  let r₃ := ({ d with start := 20000000 }.encode [5]).toOption.getD []
  let k : ChannelKey := ⟨"IU", "ANMO", "00", "LHZ", ⟨0x3ff0000000000000⟩⟩
  let h₂ := (Header.parse (r₂.set 52 10)).toOption.getD default
  let h₃ := (Header.parse r₃).toOption.getD default
  have hskips : Skips ((ofSetup p).processAll [r₁]) (r₂.set 52 10) := by
    unfold Skips
    decide +kernel
  have hclass : p.classify (r₂.set 52 10) = .data k h₂ := by decide +kernel
  have hnext : (p.arrivals k [r₃]).head? = some (h₃, r₃) := by decide +kernel
  have hgap : (((ofSetup p).processAll [r₁]).stateOf k).continuity h₃.start = .gap := by
    decide +kernel
  have hinterval : SampleRate.interval h₂.rate = .ok 1000000 := by decide +kernel
  have hstarts : |h₃.start - h₂.start| = 10000000 := by decide +kernel
  obtain ⟨-, -, hsame⟩ := finish_skipped p [r₁] [r₃] (r₂.set 52 10) hskips
  refine ⟨r₁, r₂, r₃, by decide +kernel, by decide +kernel, by decide +kernel, hsame ?_⟩
  intro key h hc
  cases hclass.symm.trans hc
  apply Or.inr
  intro a ha
  cases hnext.symm.trans ha
  refine ⟨by rw [hgap]; decide, ?_⟩
  intro i hi
  cases hinterval.symm.trans hi
  rw [hstarts]
  decide

/-- A record that cannot be decoded, at 0 s. The segment opened for it takes a record that
starts 0.05 s later, which is put out as if it started at 0 s. -/
theorem finish_skipped_differs :
    ¬ ∀ (p : Setup) (before after : List Bytes) (r : Bytes),
      Skips ((ofSetup p).processAll before) r →
      ((ofSetup p).processAll (before ++ r :: after)).finish.channels =
        ((ofSetup p).processAll (before ++ after)).finish.channels := by
  intro hall
  let p : Setup := .ofDecoder .rawInteger
  let d := Draft.longPeriod
  let r₁ := ((d.encode [1]).toOption.getD []).set 52 10
  let r₂ := ({ d with start := 50000 }.encode [1, 2]).toOption.getD []
  have hskips : Skips (ofSetup p) r₁ := by
    unfold Skips
    decide +kernel
  have hsame := hall p [] [r₂] r₁ hskips
  have hwith : (((ofSetup p).processAll [r₁, r₂]).finish.channels.map
      fun e => e.2.segments.map Segment.start) = [[0]] := by decide +kernel
  have hwithout : (((ofSetup p).processAll [r₂]).finish.channels.map
      fun e => e.2.segments.map Segment.start) = [[50000]] := by decide +kernel
  rw [List.nil_append, List.nil_append] at hsame
  rw [hsame, hwithout] at hwith
  exact absurd hwith (by decide)

end Processor
end SeedStream
