import SeedStream.Proofs.Channel.Alike
import SeedStream.Proofs.Channel.Order
import SeedStream.Record.Draft

/-!
# Channels are kept apart

What a result says of a channel is computed from the state of that channel, and the
state is reached through the channel's own records. So it does not matter what other
records there are, nor where they stand among them.
-/

set_option autoImplicit false

namespace SeedStream

def ProcessingResult.data? (r : ProcessingResult) (key : ChannelKey) : Option ChannelData :=
  r.channels.lookup key

namespace Setup

variable {p : Setup} {key : ChannelKey} {h : Header} {r : Bytes}

/-- Whether the header of a record can be decoded and names a channel. -/
def concerns (p : Setup) (key : ChannelKey) (r : Bytes) : Bool :=
  match Header.parse r with
  | .error _ => false
  | .ok h => p.keyOf h == key

theorem concerns_of_classify (hc : p.classify r = .data key h) : p.concerns key r = true := by
  obtain ⟨-, hparse, -, -, hkey, -⟩ := classify_data_iff.1 hc
  rw [concerns, hparse]
  exact beq_iff_eq.2 hkey

theorem arrivals_filter (records : List Bytes) :
    p.arrivals key (records.filter (p.concerns key)) = p.arrivals key records := by
  induction records with
  | nil => rfl
  | cons r rest ih =>
    have hsplit : p.arrivals key (r :: rest) = p.arrivals key [r] ++ p.arrivals key rest :=
      List.filterMap_append (l := [r])
    rw [hsplit]
    by_cases hr : p.concerns key r = true
    · rw [List.filter_cons_of_pos hr, ← ih]
      exact List.filterMap_append (l := [r])
    · rw [List.filter_cons_of_neg hr, ih, arrivals_other fun h hc => hr (concerns_of_classify hc)]
      rfl

end Setup

namespace Processor
open ChannelState

variable {p : Setup} {q q' : Processor} {key : ChannelKey} {h : Header} {r : Bytes}

/-- The state of a channel, empty for one without records. -/
def stateOf (q : Processor) (key : ChannelKey) : ChannelState :=
  (q.channels.lookup key).getD {}

theorem visits_getD {arrivals : List (Header × Bytes)} {c : Option ChannelState} :
    (arrivals.foldl (visit p) c).getD {} = (c.getD {}).receiveAll p arrivals := by
  induction arrivals generalizing c with
  | nil => rfl
  | cons a rest ih => exact ih

theorem stateOf_processAll (q : Processor) (records : List Bytes) (key : ChannelKey) :
    (q.processAll records).stateOf key =
      (q.stateOf key).receiveAll q.setup (q.setup.arrivals key records) := by
  rw [stateOf, lookup_processAll, visits_getD]
  rfl

theorem stateOf_process (hc : q.setup.classify r = .data key h) :
    (q.process r).stateOf key = ((q.stateOf key).receive q.setup h r).1 := by
  have hstate := stateOf_processAll q [r] key
  rw [Setup.arrivals_single hc] at hstate
  exact hstate

theorem stateOf_process_other (hc : ∀ h, q.setup.classify r ≠ .data key h) :
    (q.process r).stateOf key = q.stateOf key := by
  have hstate := stateOf_processAll q [r] key
  rw [Setup.arrivals_other hc] at hstate
  exact hstate

theorem shown_iff (hq : (q.channels.map Prod.fst).Nodup) (data : ChannelData) :
    (key, data) ∈ q.finish.channels ↔ (q.stateOf key).shown = some data := by
  rw [mem_finish, stateOf]
  simp only [mem_iff_lookup hq]
  cases hc : q.channels.lookup key with
  | none => simp [shown_empty]
  | some c => simp [shown_eq_some]

theorem finish_congr (hq : (q.channels.map Prod.fst).Nodup) (hq' : (q'.channels.map Prod.fst).Nodup)
    (h : ∀ key, (q.stateOf key).shown = (q'.stateOf key).shown) :
    q.finish.channels = q'.finish.channels := by
  apply ChannelKey.eq_of_ordered (finish_ordered q hq) (finish_ordered q' hq')
  rintro ⟨key, data⟩
  rw [shown_iff hq, shown_iff hq', h]

theorem keys_nodup (p : Setup) (records : List Bytes) :
    (((ofSetup p).processAll records).channels.map Prod.fst).Nodup :=
  keys_processAll _ records List.nodup_nil

theorem processAll_setup (q : Processor) (records : List Bytes) :
    (q.processAll records).setup = q.setup := by
  induction records generalizing q with
  | nil => rfl
  | cons r rest ih => exact (ih (q.process r)).trans (process_setup q r)

theorem data?_finish (hq : (q.channels.map Prod.fst).Nodup) (key : ChannelKey) :
    q.finish.data? key = (q.stateOf key).shown := by
  apply Option.ext
  intro data
  rw [ProcessingResult.data?, ← mem_iff_lookup (finish_keys q hq), shown_iff hq]

/-- What was put out of a channel depends on the records that concern it alone. -/
theorem data?_processAll (hq : (q.channels.map Prod.fst).Nodup) (records : List Bytes) :
    (q.processAll records).finish.data? key =
      ((q.stateOf key).receiveAll q.setup
        (q.setup.arrivals key (records.filter (q.setup.concerns key)))).shown := by
  rw [data?_finish (keys_processAll q records hq), stateOf_processAll, Setup.arrivals_filter]

/-- What is put out of a channel is what its own records alone give, in their order. So
two lists of records that agree on them give the same. -/
theorem finish_isolated (q : Processor) (hq : (q.channels.map Prod.fst).Nodup) (key : ChannelKey)
    (records : List Bytes) :
    (q.processAll records).finish.data? key =
      (q.processAll (records.filter (q.setup.concerns key))).finish.data? key ∧
    ∀ others : List Bytes,
      others.filter (q.setup.concerns key) = records.filter (q.setup.concerns key) →
      (q.processAll others).finish.data? key = (q.processAll records).finish.data? key := by
  refine ⟨?_, fun others hsame => ?_⟩
  · rw [data?_processAll hq, data?_processAll hq, List.filter_filter]
    simp only [Bool.and_self]
  · rw [data?_processAll hq, data?_processAll hq, hsame]

/-- Two records of one channel, the second under another code of its location, with a
record of the same name at another rate and one that is no record among them. -/
theorem finish_isolated_of_rates :
    ∃ r₁ r₂ r₃ : Bytes, ∃ data : ChannelData,
      Draft.longPeriod.encode [1, 2] = .ok r₁ ∧
      { Draft.longPeriod with location := "--", start := 2000000 }.encode [3] = .ok r₂ ∧
      { Draft.longPeriod with rate := ⟨0x4000000000000000⟩, start := 1000000 }.encode [4] =
        .ok r₃ ∧
      data.segments.map Segment.samples = [[1, 2, 3]] ∧
      ∀ records ∈ [[r₁, r₂], [r₁, r₃, [0], r₂], [r₃, r₁, r₂, [0]]],
        ((ofSetup ⟨.rawInteger, .standard, .all, 4, 10⟩).processAll records).finish.data?
          ⟨"IU", "ANMO", "00", "LHZ", ⟨0x3ff0000000000000⟩⟩ = some data := by
  let d := Draft.longPeriod
  let r₁ := (d.encode [1, 2]).toOption.getD []
  let r₂ := ({ d with location := "--", start := 2000000 }.encode [3]).toOption.getD []
  let r₃ :=
    ({ d with rate := ⟨0x4000000000000000⟩, start := 1000000 }.encode [4]).toOption.getD []
  let q : Processor := ofSetup ⟨.rawInteger, .standard, .all, 4, 10⟩
  let key : ChannelKey := ⟨"IU", "ANMO", "00", "LHZ", ⟨0x3ff0000000000000⟩⟩
  have hown : [r₁, r₃, [0], r₂].filter (q.setup.concerns key) = [r₁, r₂] := by
    decide +kernel
  have hother : [r₃, r₁, r₂, [0]].filter (q.setup.concerns key) = [r₁, r₂] := by
    decide +kernel
  have hout : ((q.processAll [r₁, r₂]).finish.data? key).map
      (fun data => data.segments.map Segment.samples) = some [[1, 2, 3]] := by decide +kernel
  obtain ⟨data, halone, hsamples⟩ := Option.map_eq_some_iff.1 hout
  obtain ⟨hfilter, hagree⟩ := finish_isolated q List.nodup_nil key [r₁, r₃, [0], r₂]
  rw [hown, halone] at hfilter
  refine ⟨r₁, r₂, r₃, data, by decide +kernel, by decide +kernel, by decide +kernel,
    hsamples, ?_⟩
  simp only [List.forall_mem_cons]
  exact ⟨halone, hfilter, (hagree _ (hother.trans hown.symm)).trans hfilter,
    fun _ h => absurd h List.not_mem_nil⟩

end Processor
end SeedStream
