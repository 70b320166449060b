import SeedStream.Processing.Processor

/-!
# What a channel sees of the records

The state of a channel is a function of its own records in the order of their
arrival: records of other channels and records that are skipped do not touch it.
The result has an entry for each channel that holds a sample, once.
-/

set_option autoImplicit false

namespace SeedStream

@[simp] theorem ChannelKey.same_iff (a b : ChannelKey) : a.same b = true ↔ a = b := by
  obtain ⟨n, s, l, c, ⟨x⟩⟩ := a
  obtain ⟨n', s', l', c', ⟨x'⟩⟩ := b
  simp [ChannelKey.same, Binary64.same, and_assoc]

namespace Setup

/-- The records of a channel among others, with their headers. -/
def arrivals (p : Setup) (key : ChannelKey) (records : List Bytes) : List (Header × Bytes) :=
  records.filterMap fun r =>
    match p.classify r with
    | .data k h => if k = key then some (h, r) else none
    | _ => none

variable {p : Setup} {key : ChannelKey} {h : Header} {r : Bytes} {records : List Bytes}

theorem mem_arrivals :
    (h, r) ∈ p.arrivals key records ↔ r ∈ records ∧ p.classify r = .data key h := by
  rw [arrivals, List.mem_filterMap]
  constructor
  · rintro ⟨s, hs, hsome⟩
    split at hsome
    next k g hk =>
      split at hsome
      next heq =>
        cases hsome
        exact ⟨hs, heq ▸ hk⟩
      next => cases hsome
    next => cases hsome
  · rintro ⟨hr, hk⟩
    exact ⟨r, hr, by simp [hk]⟩

theorem arrivals_single (hc : p.classify r = .data key h) : p.arrivals key [r] = [(h, r)] := by
  simp [arrivals, hc]

theorem arrivals_other (hc : ∀ h, p.classify r ≠ .data key h) : p.arrivals key [r] = [] := by
  apply List.eq_nil_iff_forall_not_mem.2
  rintro ⟨h, s⟩ hs
  obtain ⟨hmem, hclass⟩ := mem_arrivals.1 hs
  exact hc h (List.mem_singleton.1 hmem ▸ hclass)

theorem classify_data_iff :
    p.classify r = .data key h ↔
      Header.isHeartbeatBytes r = false ∧ Header.parse r = .ok h ∧ h.isHeartbeat = false ∧
        (∃ i, SampleRate.interval h.rate = .ok i) ∧ p.keyOf h = key ∧
        p.filter.keeps key.name = true := by
  constructor
  · intro hc
    unfold classify at hc
    split at hc
    next => cases hc
    next hb =>
      split at hc
      next => cases hc
      next g hg =>
        split at hc
        next => cases hc
        next hh =>
          split at hc
          next => cases hc
          next i hi =>
            dsimp only at hc
            split at hc
            next hf =>
              cases hc
              exact ⟨by simpa using hb, hg, by simpa using hh, ⟨i, hi⟩, rfl, hf⟩
            next => cases hc
  · rintro ⟨hb, hg, hh, ⟨i, hi⟩, rfl, hf⟩
    simp [classify, hb, hg, hh, hi, hf]

theorem interval_of_mem_arrivals (hr : (h, r) ∈ p.arrivals key records) :
    h.rate = key.rate ∧ ∃ i, SampleRate.interval key.rate = .ok i := by
  obtain ⟨-, -, -, hi, hk, -⟩ := classify_data_iff.1 (mem_arrivals.1 hr).2
  have hrate : h.rate = key.rate := by rw [← hk, keyOf]
  exact ⟨hrate, hrate ▸ hi⟩

end Setup

namespace Processor

variable {key k : ChannelKey} {c : ChannelState} {rest l : List (ChannelKey × ChannelState)}
  {f : ChannelState → ChannelState × ProcessingStats}

theorem updateIn_cons : updateIn key f ((k, c) :: rest) =
    if k = key then ((k, (f c).1) :: rest, (f c).2)
    else ((k, c) :: (updateIn key f rest).1, (updateIn key f rest).2) := by
  rw [updateIn]
  by_cases hk : k = key <;> simp [hk]

theorem lookup_cons {β : Type} {c : β} {rest : List (ChannelKey × β)} :
    ((k, c) :: rest).lookup key = if key = k then some c else rest.lookup key := by
  rw [List.lookup_cons]
  by_cases hk : key = k
  · simp [hk]
  · simp [hk, beq_eq_false_iff_ne.2 hk]

theorem keys_updateIn : (updateIn key f l).1.map Prod.fst =
    if key ∈ l.map Prod.fst then l.map Prod.fst else l.map Prod.fst ++ [key] := by
  induction l with
  | nil => rfl
  | cons b rest ih =>
    rw [updateIn_cons]
    by_cases hk : b.1 = key
    · simp [hk]
    · have hmem : key ∈ (b :: rest).map Prod.fst ↔ key ∈ rest.map Prod.fst := by
        simp [Ne.symm hk]
      rw [if_neg hk, List.map_cons, ih]
      by_cases hm : key ∈ rest.map Prod.fst
      · rw [if_pos hm, if_pos (hmem.2 hm)]
        rfl
      · rw [if_neg hm, if_neg (mt hmem.1 hm)]
        rfl

theorem lookup_updateIn : (updateIn key f l).1.lookup k =
    if k = key then some (f ((l.lookup key).getD {})).1 else l.lookup k := by
  induction l with
  | nil => rw [updateIn, lookup_cons]; rfl
  | cons b rest ih =>
    rw [updateIn_cons, lookup_cons, lookup_cons]
    by_cases hb : b.1 = key
    · by_cases hk : k = key <;> simp [lookup_cons, hb, hk]
    · rw [if_neg hb, lookup_cons, ih, if_neg (Ne.symm hb)]
      by_cases hk : k = b.1
      · rw [if_pos hk, if_pos hk, if_neg (hk ▸ hb)]
      · rw [if_neg hk, if_neg hk]

theorem counts_updateIn : (updateIn key f l).2 = (f ((l.lookup key).getD {})).2 := by
  induction l with
  | nil => rfl
  | cons b rest ih =>
    rw [updateIn_cons, lookup_cons]
    by_cases hb : b.1 = key
    · rw [if_pos hb, if_pos hb.symm]
      rfl
    · rw [if_neg hb, if_neg (Ne.symm hb)]
      exact ih

theorem mem_iff_lookup {β : Type} {c : β} {l : List (ChannelKey × β)}
    (hl : (l.map Prod.fst).Nodup) : (key, c) ∈ l ↔ l.lookup key = some c := by
  induction l with
  | nil => simp
  | cons b rest ih =>
    obtain ⟨hnew, hrest⟩ := List.nodup_cons.1 hl
    rw [lookup_cons, List.mem_cons, ih hrest]
    by_cases hk : key = b.1
    · have hnone : rest.lookup key = none := by
        rw [List.lookup_eq_none_iff]
        intro a ha
        have hne : key ≠ a.1 := fun heq => hnew (hk ▸ heq ▸ List.mem_map_of_mem ha)
        simpa using hne
      rw [if_pos hk, hnone, Prod.ext_iff]
      simp [hk, eq_comm]
    · rw [if_neg hk, Prod.ext_iff]
      simp [hk]

def visit (p : Setup) (c : Option ChannelState) (a : Header × Bytes) : Option ChannelState :=
  some ((c.getD {}).receive p a.1 a.2).1

@[simp] theorem process_setup (q : Processor) (r : Bytes) : (q.process r).setup = q.setup := by
  unfold process
  split <;> rfl

theorem stats_process {q : Processor} {r : Bytes} {h : Header}
    (hc : q.setup.classify r = .data key h) :
    (q.process r).stats = (q.stats.add { received := 1 }).add
      (((q.channels.lookup key).getD {}).receive q.setup h r).2 := by
  unfold process
  rw [hc]
  dsimp only [count]
  rw [counts_updateIn]

theorem lookup_process (q : Processor) (r : Bytes) (key : ChannelKey) :
    (q.process r).channels.lookup key =
      (q.setup.arrivals key [r]).foldl (visit q.setup) (q.channels.lookup key) := by
  unfold process
  rw [Setup.arrivals]
  cases hc : q.setup.classify r with
  | data k h =>
    by_cases hk : k = key
    · subst hk
      simp [count, lookup_updateIn, visit, hc]
    · simp [count, lookup_updateIn, hc, hk, Ne.symm hk]
  | _ => simp [count, hc]

theorem lookup_processAll (q : Processor) (records : List Bytes) (key : ChannelKey) :
    (q.processAll records).channels.lookup key =
      (q.setup.arrivals key records).foldl (visit q.setup) (q.channels.lookup key) := by
  induction records generalizing q with
  | nil => rfl
  | cons r rest ih =>
    have hsplit : q.setup.arrivals key (r :: rest) =
        q.setup.arrivals key [r] ++ q.setup.arrivals key rest :=
      List.filterMap_append (l := [r])
    change ((q.process r).processAll rest).channels.lookup key = _
    rw [ih, hsplit, List.foldl_append, process_setup, lookup_process]

theorem keys_process (q : Processor) (r : Bytes) (h : (q.channels.map Prod.fst).Nodup) :
    ((q.process r).channels.map Prod.fst).Nodup := by
  unfold process
  split
  case h_5 key g _ =>
    dsimp only [count]
    rw [keys_updateIn]
    split
    next => exact h
    next hnew =>
      apply List.nodup_append.2
      refine ⟨h, by simp, ?_⟩
      rintro a ha b hb rfl
      exact hnew (List.mem_singleton.1 hb ▸ ha)
  all_goals exact h

theorem keys_processAll (q : Processor) (records : List Bytes)
    (h : (q.channels.map Prod.fst).Nodup) :
    ((q.processAll records).channels.map Prod.fst).Nodup := by
  induction records generalizing q with
  | nil => exact h
  | cons r rest ih => exact ih (q.process r) (keys_process q r h)

/-- The channels of a processor are those with a record, each in the state that
its own records lead to. -/
theorem mem_channels (p : Setup) (records : List Bytes) :
    (key, c) ∈ ((ofSetup p).processAll records).channels ↔
      (p.arrivals key records).foldl (visit p) none = some c := by
  have hnodup : ((ofSetup p).channels.map Prod.fst).Nodup := List.nodup_nil
  rw [mem_iff_lookup (keys_processAll _ records hnodup), lookup_processAll]
  rfl

theorem mem_finish (q : Processor) (data : ChannelData) :
    (key, data) ∈ q.finish.channels ↔
      ∃ c, (key, c) ∈ q.channels ∧ data = (assembleChannel c).1 ∧ data.segments ≠ [] := by
  simp only [finish, assembled, List.mem_mergeSort, List.mem_filter, List.mem_map,
    List.map_map, Prod.exists, Prod.mk.injEq, Function.comp_apply]
  constructor
  · rintro ⟨⟨k, c, hc, rfl, rfl⟩, hne⟩
    exact ⟨c, hc, rfl, by simpa using hne⟩
  · rintro ⟨c, hc, rfl, hne⟩
    exact ⟨⟨_, _, hc, rfl, rfl⟩, by simpa using hne⟩

end Processor
end SeedStream
