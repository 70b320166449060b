import SeedStream.Proofs.Assembly.Runs
import SeedStream.Proofs.Channel.Order
import SeedStream.Proofs.Processing.Output
import SeedStream.Proofs.Segment.Grid
import SeedStream.Record.Draft

/-!
# Records of one signal

If all records of a channel lie on one grid and agree on a signal, no sample is
displaced at all: a sample less than one interval from its own instant is at its
instant. The segments put out are the maximal runs of the instants that records
cover, whatever the order in which the records arrived.
-/

set_option autoImplicit false

namespace SeedStream
open Assembly

/-- A choice of one signal for each channel: an instant of its grid, and its values. -/
structure Signal where
  origin : ChannelKey → Int
  value : ChannelKey → Int → Int32

namespace Signal

def values (g : Signal) (key : ChannelKey) (i start : Int) (n : Nat) : List Int32 :=
  (List.range n).map fun j : Nat => g.value key (start + i * j)

/-- A record that can be decoded, starts on the grid of its channel, and has `n`
values of the signal of its channel. -/
structure Carries (g : Signal) (p : Setup) (r : Bytes) (h : Header) (i : Int) (n : Nat) : Prop where
  signature : Header.isHeartbeatBytes r = false
  parsed : Header.parse r = .ok h
  heartbeat : h.isHeartbeat = false
  interval : SampleRate.interval h.rate = .ok i
  grid : i ∣ h.start - g.origin (p.keyOf h)
  decoded : p.decoder.samples h r = .ok (g.values (p.keyOf h) i h.start n)

/-- A record of a channel has a sample of the instant `x`. -/
def Covers (g : Signal) (p : Setup) (records : List Bytes) (key : ChannelKey) (x : Int) : Prop :=
  ∃ r ∈ records, ∃ h i n, g.Carries p r h i n ∧ p.keyOf h = key ∧
    ∃ j < n, x = h.start + i * j

variable {g : Signal} {p : Setup} {key : ChannelKey} {i : Int} {records : List Bytes}

@[simp] theorem length_values {start : Int} {n : Nat} : (g.values key i start n).length = n := by
  simp [values]

theorem getElem?_values {start : Int} {n j : Nat} {v : Int32} :
    (g.values key i start n)[j]? = some v ↔ j < n ∧ v = g.value key (start + i * j) := by
  rw [values, List.getElem?_map, Option.map_eq_some_iff]
  constructor
  · rintro ⟨k, hk, rfl⟩
    obtain ⟨hlt, rfl⟩ := List.getElem?_eq_some_iff.1 hk
    rw [List.length_range] at hlt
    rw [List.getElem_range]
    exact ⟨hlt, rfl⟩
  · rintro ⟨hlt, rfl⟩
    exact ⟨j, List.getElem?_range hlt, rfl⟩

theorem eq_values {xs : List Int32} {start : Int}
    (h : ∀ (k : Nat) (v : Int32), xs[k]? = some v → v = g.value key (start + i * k)) :
    xs = g.values key i start xs.length := by
  apply List.ext_getElem (by simp)
  intro k hk hk'
  rw [h k xs[k] (List.getElem?_eq_getElem hk)]
  simp [values]

theorem Carries.interval_eq {r : Bytes} {h : Header} {n : Nat} {j : Int} (hc : g.Carries p r h j n)
    (hk : p.keyOf h = key) (hi : SampleRate.interval key.rate = .ok i) : j = i := by
  have hrate : h.rate = key.rate := by rw [← hk, Setup.keyOf]
  have hboth := hc.interval.symm.trans (hrate ▸ hi)
  injection hboth

theorem Carries.decodes {r : Bytes} {h : Header} {n : Nat} (hc : g.Carries p r h i n)
    (hk : p.keyOf h = key) (hf : p.filter.keeps key.name = true) :
    p.Decodes key r h (g.values key i h.start n) := by
  refine ⟨?_, hk ▸ hc.decoded⟩
  exact Setup.classify_data_iff.2 ⟨hc.signature, hc.parsed, hc.heartbeat, ⟨i, hc.interval⟩,
    hk, hf⟩

theorem covers_perm {others : List Bytes} (hp : others.Perm records) :
    g.Covers p others key = g.Covers p records key := by
  funext x
  simp only [Covers, hp.mem_iff]

theorem yields_iff (hs : ∀ r ∈ records, ∃ h i n, g.Carries p r h i n)
    (hi : SampleRate.interval key.rate = .ok i) (hf : p.filter.keeps key.name = true) {y : Int}
    {v : Int32} : p.Yields i (p.arrivals key records) y v ↔
      g.Covers p records key y ∧ v = g.value key y := by
  rw [Setup.yields_arrivals]
  constructor
  · rintro ⟨r, hr, h, xs, ⟨hclass, hxs⟩, j, hj, rfl⟩
    obtain ⟨-, hparse, -, -, hk, -⟩ := Setup.classify_data_iff.1 hclass
    obtain ⟨h', i', n, hc⟩ := hs r hr
    obtain rfl : h' = h := by
      have hboth := hc.parsed.symm.trans hparse
      injection hboth
    obtain rfl := hc.interval_eq hk hi
    obtain rfl : g.values (p.keyOf h') i' h'.start n = xs := by
      have hboth := hc.decoded.symm.trans hxs
      injection hboth
    obtain ⟨hlt, rfl⟩ := getElem?_values.1 hj
    rw [hk]
    exact ⟨⟨r, hr, h', i', n, hc, hk, j, hlt, rfl⟩, rfl⟩
  · rintro ⟨⟨r, hr, h, i', n, hc, hk, j, hlt, rfl⟩, rfl⟩
    obtain rfl := hc.interval_eq hk hi
    exact ⟨r, hr, h, _, hc.decodes hk hf, j, getElem?_values.2 ⟨hlt, rfl⟩, rfl⟩

theorem grid_of_mem_arrivals (hs : ∀ r ∈ records, ∃ h i n, g.Carries p r h i n)
    (hi : SampleRate.interval key.rate = .ok i) {a : Header × Bytes}
    (ha : a ∈ p.arrivals key records) : i ∣ a.1.start - g.origin key := by
  obtain ⟨hr, hclass⟩ := Setup.mem_arrivals.1 ha
  obtain ⟨-, hparse, -, -, hk, -⟩ := Setup.classify_data_iff.1 hclass
  obtain ⟨h', i', n, hc⟩ := hs a.2 hr
  obtain rfl : h' = a.1 := by
    have hboth := hc.parsed.symm.trans hparse
    injection hboth
  obtain rfl := hc.interval_eq hk hi
  exact hk ▸ hc.grid

end Signal

namespace Processor

variable {p : Setup} {key : ChannelKey} {i origin : Int} {records : List Bytes}
  {data : ChannelData} {c : ChannelState} {x y : Int} {v : Int32} {s o : Segment}

theorem Output.interval_pos (h : Output p key i records data c) : 0 < i :=
  SampleRate.interval_pos h.interval

theorem yields_grid (hg : ∀ a ∈ p.arrivals key records, i ∣ a.1.start - origin)
    (hy : p.Yields i (p.arrivals key records) y v) : i ∣ y - origin := by
  obtain ⟨a, ha, xs, -, j, -, rfl⟩ := hy
  rw [add_sub_right_comm]
  exact Int.dvd_add (hg a ha) (Int.dvd_mul_right i j)

theorem Output.channel_grid (h : Output p key i records data c)
    (hg : ∀ a ∈ p.arrivals key records, i ∣ a.1.start - origin) (hs : s ∈ c.segments)
    (hx : s.Holds x v) : i ∣ x - origin := by
  obtain ⟨a, ha, hstart⟩ := h.tracks.origin s hs
  refine (h.tracks.regular s hs).1.holds_grid ?_ hx
  rw [hstart]
  exact hg a ha

theorem Output.output_grid (h : Output p key i records data c)
    (hg : ∀ a ∈ p.arrivals key records, i ∣ a.1.start - origin) (ho : o ∈ data.segments)
    (hx : o.Holds x v) : i ∣ x - origin := by
  obtain ⟨s, hs, hstart, -⟩ := h.assembled.origin o ho
  obtain ⟨a, ha, hrecord⟩ := h.tracks.origin s hs
  refine (h.assembled.usable o ho).regular.holds_grid ?_ hx
  rw [hstart, hrecord]
  exact hg a ha

/-- On one grid, a sample put out is a sample of a record at the same instant. -/
theorem Output.yields_of_holds (h : Output p key i records data c) (hd : 2 ≤ p.divisor)
    (hg : ∀ a ∈ p.arrivals key records, i ∣ a.1.start - origin) (ho : o ∈ data.segments)
    (hx : o.Holds x v) : p.Yields i (p.arrivals key records) x v := by
  have hi := h.interval_pos
  obtain ⟨s, hs, z, hz, hxz⟩ := h.assembled.drawn o ho x v hx
  obtain ⟨y, hy, hzy⟩ := h.tracks.drawn s hs z v hz
  have hzgrid := h.channel_grid hg hs hz
  have hhalf := tolerance_le_half hi hd
  obtain rfl : x = z :=
    eq_of_near (h.output_grid hg ho hx) hzgrid (lt_of_le_of_lt hxz (slack_lt hi hd))
  obtain rfl : x = y := eq_of_near hzgrid (yields_grid hg hy) (by omega)
  exact hy

theorem Output.holds_of_yields (h : Output p key i records data c) (hd : 2 ≤ p.divisor)
    (hg : ∀ a ∈ p.arrivals key records, i ∣ a.1.start - origin)
    (hy : p.Yields i (p.arrivals key records) y v) :
    ∃ o ∈ data.segments, ∃ w, o.Holds y w := by
  have hi := h.interval_pos
  obtain ⟨s, hs, z, hz, hzy⟩ := h.tracks.covered h.sized y v hy
  obtain ⟨o, ho, x, w, hx, hxz⟩ := h.assembled.covered s hs z v hz
  have hzgrid := h.channel_grid hg hs hz
  have hhalf := tolerance_le_half hi hd
  obtain rfl : x = z :=
    eq_of_near (h.output_grid hg ho hx) hzgrid (lt_of_le_of_lt hxz (slack_lt hi hd))
  obtain rfl : x = y := eq_of_near hzgrid (yields_grid hg hy) (by omega)
  exact ⟨o, ho, w, hx⟩

theorem keeps_of_yields (hy : p.Yields i (p.arrivals key records) y v) :
    p.filter.keeps key.name = true := by
  obtain ⟨a, ha, -⟩ := hy
  obtain ⟨-, -, -, -, -, hf⟩ := Setup.classify_data_iff.1 (Setup.mem_arrivals.1 ha).2
  exact hf

theorem Output.exists_yields (h : Output p key i records data c) (hne : data.segments ≠ []) :
    ∃ y v, p.Yields i (p.arrivals key records) y v := by
  obtain ⟨o, ho⟩ := List.exists_mem_of_ne_nil _ hne
  have husable := h.assembled.usable o ho
  have hlen : 0 < o.samples.length := by
    rw [husable.regular.sound.length_samples]
    exact husable.nonempty
  obtain ⟨v, hv⟩ := husable.holds_iff.2 ⟨0, hlen, rfl⟩
  obtain ⟨y, hy, -⟩ := h.drawn ho hv
  exact ⟨y, v, hy⟩

variable {g : Signal}

/-- The segments are the maximal runs of the instants that the records of a
channel cover, each with the values of the channel's signal. -/
structure Restores (g : Signal) (p : Setup) (records : List Bytes) (key : ChannelKey) (i : Int)
    (segments : List Segment) : Prop where
  runs : Runs i (g.Covers p records key) (segments.map fun s => (s.start, s.samples.length))
  values : ∀ s ∈ segments, s.interval = i ∧ s.rate = key.rate ∧
    s.samples = g.values key i s.start s.samples.length

def content (s : Segment) : Int × Int × Binary64 × List Int32 :=
  (s.start, s.interval, s.rate, s.samples)

def contents (r : ProcessingResult) :
    List (ChannelKey × List (Int × Int × Binary64 × List Int32)) :=
  r.channels.map fun (key, data) => (key, data.segments.map content)

theorem Restores.content_eq {segments : List Segment} (h : Restores g p records key i segments) :
    segments.map content = (segments.map fun s => (s.start, s.samples.length)).map
      fun r => (r.1, i, key.rate, g.values key i r.1 r.2) := by
  rw [List.map_map]
  apply List.map_congr_left
  intro s hs
  obtain ⟨hinterval, hrate, hsamples⟩ := h.values s hs
  rw [content, hinterval, hrate]
  exact congrArg (fun xs => (s.start, i, key.rate, xs)) hsamples

theorem Restores.unique {segments others : List Segment}
    (h : Restores g p records key i segments) (h' : Restores g p records key i others) :
    segments.map content = others.map content := by
  rw [h.content_eq, h'.content_eq, h.runs.unique h'.runs]

theorem restores_of_mem (hd : 2 ≤ p.jitterDivisor)
    (hs : ∀ r ∈ records, ∃ h i n, g.Carries p r h i n)
    (hm : (key, data) ∈ ((ofSetup p).processAll records).finish.channels) :
    ∃ i, SampleRate.interval key.rate = .ok i ∧ Restores g p records key i data.segments := by
  obtain ⟨hne, i, c, ho⟩ := output_of_mem hm
  have hdiv : 2 ≤ p.divisor := le_trans hd (le_max_left _ _)
  have hgrid : ∀ a ∈ p.arrivals key records, i ∣ a.1.start - g.origin key :=
    fun a ha => Signal.grid_of_mem_arrivals hs ho.interval ha
  obtain ⟨z, w, hzw⟩ := ho.exists_yields hne
  have hyields := fun y v =>
    Signal.yields_iff hs ho.interval (keeps_of_yields hzw) (y := y) (v := v)
  refine ⟨i, ho.interval, ?_, ?_⟩
  · apply ho.assembled.runs_of_instants ho.interval_pos
      (ChannelState.tolerance_nonneg ho.interval_pos)
    intro x
    constructor
    · intro hx
      exact ho.holds_of_yields hdiv hgrid ((hyields x _).2 ⟨hx, rfl⟩)
    · rintro ⟨o, hout, v, hx⟩
      exact ((hyields x v).1 (ho.yields_of_holds hdiv hgrid hout hx)).1
  · intro s hsm
    have hreg := (ho.assembled.usable s hsm).regular
    obtain ⟨t, ht, -, hrate⟩ := ho.assembled.origin s hsm
    refine ⟨hreg.interval, hrate.trans (ho.tracks.regular t ht).2, ?_⟩
    apply Signal.eq_values
    intro k v hk
    have hx : s.Holds (s.start + i * k) v := hreg.holds_iff.2 ⟨k, hk, rfl⟩
    exact ((hyields _ v).1 (ho.yields_of_holds hdiv hgrid hsm hx)).2

theorem mem_finish_iff (hb : 1 ≤ p.blockSize)
    (hs : ∀ r ∈ records, ∃ h i n, g.Carries p r h i n) :
    (∃ data, (key, data) ∈ ((ofSetup p).processAll records).finish.channels) ↔
      p.filter.keeps key.name = true ∧ ∃ x, g.Covers p records key x := by
  constructor
  · rintro ⟨data, hm⟩
    obtain ⟨hne, i, c, ho⟩ := output_of_mem hm
    obtain ⟨y, v, hy⟩ := ho.exists_yields hne
    have hf := keeps_of_yields hy
    exact ⟨hf, y, ((Signal.yields_iff hs ho.interval hf).1 hy).1⟩
  · rintro ⟨hf, x, r, hr, h, i, n, hc, hk, j, hlt, -⟩
    refine exists_mem_finish hb hr (hc.decodes hk hf) (List.ne_nil_of_length_pos ?_)
    rw [Signal.length_values]
    exact Nat.zero_lt_of_lt hlt

theorem contents_ordered (records : List Bytes) :
    (contents ((ofSetup p).processAll records).finish).Pairwise fun a b => a.1.Precedes b.1 := by
  have hnodup : ((ofSetup p).channels.map Prod.fst).Nodup := List.nodup_nil
  rw [contents, List.pairwise_map]
  exact finish_ordered _ (keys_processAll _ records hnodup)

theorem contents_subset (hd : 2 ≤ p.jitterDivisor) (hb : 1 ≤ p.blockSize) {others : List Bytes}
    (hs : ∀ r ∈ records, ∃ h i n, g.Carries p r h i n) (hp : others.Perm records) :
    contents ((ofSetup p).processAll records).finish ⊆
      contents ((ofSetup p).processAll others).finish := by
  have hs' : ∀ r ∈ others, ∃ h i n, g.Carries p r h i n := fun r hr => hs r (hp.mem_iff.1 hr)
  intro e he
  obtain ⟨⟨key, data⟩, hm, rfl⟩ := List.mem_map.1 he
  obtain ⟨i, hi, hr⟩ := restores_of_mem hd hs hm
  obtain ⟨data', hm'⟩ : ∃ data',
      (key, data') ∈ ((ofSetup p).processAll others).finish.channels := by
    rw [mem_finish_iff hb hs', Signal.covers_perm hp, ← mem_finish_iff hb hs]
    exact ⟨data, hm⟩
  obtain ⟨i', hi', hr'⟩ := restores_of_mem hd hs' hm'
  obtain rfl : i = i' := by
    have hboth := hi.symm.trans hi'
    injection hboth
  have hsame : Restores g p records key i data'.segments :=
    ⟨Signal.covers_perm hp ▸ hr'.runs, hr'.values⟩
  exact List.mem_map.2 ⟨_, hm', Prod.ext rfl (hsame.unique hr)⟩

theorem contents_perm (hd : 2 ≤ p.jitterDivisor) (hb : 1 ≤ p.blockSize) {others : List Bytes}
    (hs : ∀ r ∈ records, ∃ h i n, g.Carries p r h i n) (hp : others.Perm records) :
    contents ((ofSetup p).processAll others).finish =
      contents ((ofSetup p).processAll records).finish := by
  have hs' : ∀ r ∈ others, ∃ h i n, g.Carries p r h i n := fun r hr => hs r (hp.mem_iff.1 hr)
  apply ChannelKey.eq_of_ordered (contents_ordered others) (contents_ordered records)
  intro e
  constructor
  · intro he
    exact contents_subset hd hb hs' hp.symm he
  · intro he
    exact contents_subset hd hb hs hp he

/-- If all records are of one signal a channel, the result has the channels that
are kept and covered, each once, with the maximal runs of the instants covered
and the values of the signal there. The order of the records does not matter. -/
theorem signal_restored (p : Setup) (hd : 2 ≤ p.jitterDivisor) (hb : 1 ≤ p.blockSize)
    (g : Signal) (records : List Bytes) (hs : ∀ r ∈ records, ∃ h i n, g.Carries p r h i n) :
    (((ofSetup p).processAll records).finish.channels.map Prod.fst).Nodup ∧
    (∀ key, (∃ data, (key, data) ∈ ((ofSetup p).processAll records).finish.channels) ↔
      p.filter.keeps key.name = true ∧ ∃ x, g.Covers p records key x) ∧
    (∀ key data, (key, data) ∈ ((ofSetup p).processAll records).finish.channels →
      ∃ i, SampleRate.interval key.rate = .ok i ∧ Restores g p records key i data.segments) ∧
    ∀ others : List Bytes, others.Perm records →
      contents ((ofSetup p).processAll others).finish =
        contents ((ofSetup p).processAll records).finish := by
  have hnodup : ((ofSetup p).channels.map Prod.fst).Nodup := List.nodup_nil
  refine ⟨finish_keys _ (keys_processAll _ records hnodup), ?_, ?_, ?_⟩
  · intro key
    exact mem_finish_iff hb hs
  · intro key data hm
    exact restores_of_mem hd hs hm
  · intro others hp
    exact contents_perm hd hb hs hp

/-- Two records that overlap in one sample, the later one first. -/
theorem signal_restored_of_reversed :
    ∃ r₁ r₂ : Bytes, ∃ data : ChannelData,
      Draft.longPeriod.encode [1, 2, 3] = .ok r₁ ∧
      { Draft.longPeriod with start := 2000000 }.encode [3, 4] = .ok r₂ ∧
      (⟨"IU", "ANMO", "00", "LHZ", ⟨0x3ff0000000000000⟩⟩, data) ∈
        ((ofSetup ⟨.rawInteger, .standard, .all, 4, 2⟩).processAll
          [r₂, r₁]).finish.channels ∧
      (∀ s ∈ data.segments, ∀ (k : Nat) (v : Int32), s.samples[k]? = some v →
        v = Int32.ofInt ((s.start + 1000000 * k) / 1000000 + 1)) ∧
      contents ((ofSetup ⟨.rawInteger, .standard, .all, 4, 2⟩).processAll [r₁, r₂]).finish =
        contents ((ofSetup ⟨.rawInteger, .standard, .all, 4, 2⟩).processAll
          [r₂, r₁]).finish := by
  let g : Signal := ⟨fun _ => 0, fun _ x => Int32.ofInt (x / 1000000 + 1)⟩
  let p : Setup := ⟨.rawInteger, .standard, .all, 4, 2⟩
  let d := Draft.longPeriod
  let r₁ := (d.encode [1, 2, 3]).toOption.getD []
  let r₂ := ({ d with start := 2000000 }.encode [3, 4]).toOption.getD []
  let h₁ := (Header.parse r₁).toOption.getD default
  let h₂ := (Header.parse r₂).toOption.getD default
  have hc₁ : g.Carries p r₁ h₁ 1000000 3 := by constructor <;> decide +kernel
  have hc₂ : g.Carries p r₂ h₂ 1000000 2 := by constructor <;> decide +kernel
  have hs : ∀ r ∈ [r₂, r₁], ∃ h i n, g.Carries p r h i n := by
    intro r hr
    rcases List.mem_cons.1 hr with rfl | hr
    · exact ⟨h₂, _, _, hc₂⟩
    · obtain rfl := List.mem_singleton.1 hr
      exact ⟨h₁, _, _, hc₁⟩
  have hk : p.keyOf h₁ = ⟨"IU", "ANMO", "00", "LHZ", ⟨0x3ff0000000000000⟩⟩ := by
    decide +kernel
  obtain ⟨-, hkeys, hruns, hperm⟩ := signal_restored p (by decide) (by decide) g [r₂, r₁] hs
  obtain ⟨data, hm⟩ :=
    (hkeys _).2 ⟨rfl, h₁.start, r₁, by simp, h₁, _, _, hc₁, hk, 0, by decide, by simp⟩
  obtain ⟨i, hi, hr⟩ := hruns _ data hm
  obtain rfl := hc₁.interval_eq hk hi
  refine ⟨r₁, r₂, data, by decide +kernel, by decide +kernel, hm, ?_, ?_⟩
  · intro s hs k v hv
    rw [(hr.values s hs).2.2, Signal.getElem?_values] at hv
    exact hv.2
  · exact hperm [r₁, r₂] (List.Perm.swap r₂ r₁ [])

end Processor
end SeedStream
