import SeedStream.Proofs.Assembly.Meetings
import SeedStream.Proofs.Assembly.Words
import SeedStream.Proofs.Processing.Output
import SeedStream.Proofs.Record.StartTime
import SeedStream.Proofs.Record.Words
import SeedStream.Record.Draft

/-!
# Times stay in range

However many records a channel takes and however many of its segments are merged, no
segment ends farther behind the start of the last record than one record reaches, a
tolerance and the slack of one merge. Records start within two centuries, intervals are
at most a year and a record counts its samples with 16 bits. So all times are far from
the ends of a number of 64 bits, and so are their differences.
-/

set_option autoImplicit false

namespace SeedStream
open Assembly Segment

theorem RawInteger.samples_length_le {h : Header} {r : Bytes} {xs : List Int32}
    (hx : Decoder.rawInteger.samples h r = .ok xs) : xs.length ≤ 65535 := by
  unfold Decoder.samples at hx
  split at hx
  next => cases hx
  next payload _ =>
    unfold Decoder.rawInteger at hx
    split at hx
    next ys hd =>
      cases hx
      have hlength := decode_length hd
      have hcount := h.sampleCount.toNat_lt
      omega
    next => cases hx

namespace ChannelState

/-- The times of a channel are in range, and what is computed from them when a record
arrives and when the segments are assembled. -/
structure TimesInRange (c : ChannelState) : Prop where
  segments : ∀ s ∈ c.segments, s.TimesInRange
  deltas : ∀ s, c.current = some s → ∀ r h, Header.parse r = .ok h →
    InRange (h.start - s.stop)
  merges : ∀ m ∈ meetings c.segments, m.1.MergeInRange m.2
  assembled : ∀ s ∈ (assemble c.segments).1, s.TimesInRange

variable {p : Setup} {key : ChannelKey} {i first last : Int} {arrivals : List (Header × Bytes)}
  {c : ChannelState} {n : Nat}

/-- A segment reaches no farther than the samples of one record and the tolerance behind
the last start of a record: what joins it starts where it ends. -/
theorem Tracks.within (ht : Tracks p key i arrivals c) (hi : 0 < i)
    (hs : ∀ a ∈ arrivals, first ≤ a.1.start ∧ a.1.start ≤ last)
    (hn : ∀ a ∈ arrivals, ∀ xs, p.decoder.samples a.1 a.2 = .ok xs → xs.length ≤ n)
    {s : Segment} (hmem : s ∈ c.segments) : s.Within first (last + i * n + i / p.divisor) := by
  obtain ⟨a, ha, hstart⟩ := ht.origin s hmem
  obtain ⟨hlo, hhi⟩ := hs a ha
  have htol := tolerance_nonneg (p := p) hi
  have hlength := Int.mul_nonneg (Int.le_of_lt hi) (Int.natCast_nonneg n)
  refine ⟨hstart ▸ hlo, (ht.regular s hmem).1.stop_le (by omega) ?_⟩
  intro x v hx
  obtain ⟨y, ⟨a, ha, xs, hxs, j, hj, rfl⟩, hnear⟩ := ht.drawn s hmem x v hx
  have hlt : j < n :=
    Nat.lt_of_lt_of_le (List.getElem?_eq_some_iff.1 hj).1 (hn a ha xs hxs)
  have hreach := mul_succ_le hi hlt
  have hlate := (hs a ha).2
  have hshift := (abs_le.1 hnear).2
  omega

end ChannelState

def IsStart (x : Int) : Prop := -2208988800000000 ≤ x ∧ x ≤ 4133980801000000

theorem Header.isStart {r : Bytes} {h : Header} (hp : parse r = .ok h) : IsStart h.start := by
  have hbounds := start_bounds hp
  have hfirst : Calendar.startOfYear 1900 = -2208988800000000 := by decide
  have hlast : Calendar.startOfYear 2101 = 4133980800000000 := by decide
  unfold IsStart
  omega

namespace ChannelState

variable {p : Setup} {key : ChannelKey} {i : Int} {arrivals : List (Header × Bytes)}
  {c : ChannelState}

section Reach

variable (ht : Tracks p key i arrivals c) (hi : 0 < i) (hyear : i ≤ 31536000000000)
  (hs : ∀ a ∈ arrivals, IsStart a.1.start)
  (hn : ∀ a ∈ arrivals, ∀ xs, p.decoder.samples a.1 a.2 = .ok xs → xs.length ≤ 65535)

include ht hi hyear hs hn

theorem Tracks.reach : ∃ b, b + i < 2 ^ 61 ∧
    ∀ s ∈ c.segments, s.Within (-2208988800000000) b := by
  have hd := Processor.divisor_pos p
  have htol : i / p.divisor ≤ i := Int.ediv_le_self _ (Int.le_of_lt hi)
  exact ⟨_, by omega, fun s hmem => ht.within hi hs hn hmem⟩

theorem Tracks.timesInRange : c.TimesInRange := by
  have hd := Processor.divisor_pos p
  have hslack : 0 ≤ slack i p.divisor := slack_nonneg hi
  have hslack' : slack i p.divisor ≤ i := slack_le hi
  have hreg : ∀ s ∈ c.segments, s.Regular i p.divisor := fun s hmem => (ht.regular s hmem).1
  obtain ⟨b, hb, hwithin⟩ := ht.reach hi hyear hs hn
  have hreach : b + slack i p.divisor < 2 ^ 61 := by omega
  constructor
  · intro s hmem
    exact (hwithin s hmem).timesInRange (hreg s hmem).paced hi hd (by omega) (by omega) (by omega)
  · intro s hcurrent r h hp
    have hmem : s ∈ c.segments := by simp [segments_of_current hcurrent]
    have hspan := (hreg s hmem).length_le_stop hi
    obtain ⟨hfirst, hlast⟩ := hwithin s hmem
    obtain ⟨hlo, hhi⟩ := Header.isStart hp
    exact ⟨by omega, by omega⟩
  · intro m hm
    have hmet := meetings_met hi hd hreg hwithin m hm
    exact (hmet.within.mono (by omega)).mergeInRange hmet.reach hmet.paced hmet.target hmet.ordered
      hi hd (by omega) hreach (by omega)
  · intro s hmem
    have hpaced := ((assemble_assembled hi hd hreg).usable s hmem).regular.paced
    exact (assemble_within hi hd hreg hwithin hmem).timesInRange hpaced hi hd (by omega) hreach
      (by omega)

theorem Tracks.assembleIn_eq (m : Arithmetic) : assembleIn m c.segments = assemble c.segments := by
  obtain ⟨b, hb, hwithin⟩ := ht.reach hi hyear hs hn
  have hspan : WordSpan i (-2208988800000000) (b + i) := ⟨by omega, by omega, by omega⟩
  exact (assembleIn_within m hspan hi (Processor.divisor_pos p)
    (fun s hmem => (ht.regular s hmem).1.paced) hwithin).1

end Reach

end ChannelState

namespace Processor
open ChannelState

/-- No record can say that it has more samples than 16 bits count. If no more are decoded of
any, the times of every channel are in range, and assembled in 64 bits its segments come to the
same. -/
theorem channels_inRange (p : Setup)
    (hn : ∀ h r xs, p.decoder.samples h r = .ok xs → xs.length ≤ 65535)
    (records : List Bytes) :
    ∀ e ∈ ((ofSetup p).processAll records).channels, e.2.TimesInRange ∧
      ∀ m, assembleIn m e.2.segments = assemble e.2.segments := by
  rintro ⟨key, c⟩ hc
  obtain ⟨i, hi, ht⟩ := tracks_channels hc
  have hpos := SampleRate.interval_pos hi
  have hyear := SampleRate.interval_le hi
  have hs : ∀ a ∈ p.arrivals key records, IsStart a.1.start := by
    intro a ha
    obtain ⟨-, hp, -⟩ := Setup.classify_data_iff.1 (Setup.mem_arrivals.1 ha).2
    exact Header.isStart hp
  have hcount := fun a (_ : a ∈ p.arrivals key records) => hn a.1 a.2
  exact ⟨ht.timesInRange hpos hyear hs hcount, ht.assembleIn_eq hpos hyear hs hcount⟩

/-- For every processor of whole numbers, whatever records it takes: the times of open,
closed and assembled segments are in range, and so are the differences computed when a
record arrives and when two segments are merged. -/
theorem times_inRange (aliases : LocationAliases) (filter : ChannelFilter) (blockSize : Nat)
    (jitterDivisor : Int) (records : List Bytes) :
    let q := (ofSetup ⟨.rawInteger, aliases, filter, blockSize, jitterDivisor⟩).processAll
      records
    (∀ e ∈ q.channels, e.2.TimesInRange) ∧
      ∀ e ∈ q.finish.channels, ∀ s ∈ e.2.segments, s.TimesInRange := by
  intro q
  have hchannels := channels_inRange ⟨.rawInteger, aliases, filter, blockSize, jitterDivisor⟩
    (fun _ _ _ => RawInteger.samples_length_le) records
  refine ⟨fun e he => (hchannels e he).1, ?_⟩
  rintro ⟨key, data⟩ hm s hs
  obtain ⟨c, hc, rfl, -⟩ := (mem_finish q data).1 hm
  exact (hchannels _ hc).1.assembled s hs

/-- A record arrives that begins 0.7 s before the one before it ends. -/
theorem times_inRange_of_overlap :
    ∃ r₁ r₂ : Bytes, ∃ h : Header, ∃ e : ChannelKey × ChannelState, ∃ s : Segment,
      Draft.longPeriod.encode [1, 2, 3] = .ok r₁ ∧
      { Draft.longPeriod with start := 2300000 }.encode [3, 4] = .ok r₂ ∧
      Header.parse r₂ = .ok h ∧
      e ∈ ((ofSetup ⟨.rawInteger, .standard, .all, 4, 10⟩).processAll [r₁]).channels ∧
      e.2.current = some s ∧ h.start - s.stop = -700000 ∧ s.TimesInRange ∧
      InRange (h.start - s.stop) := by
  let d := Draft.longPeriod
  let r₁ := (d.encode [1, 2, 3]).toOption.getD []
  let r₂ := ({ d with start := 2300000 }.encode [3, 4]).toOption.getD []
  let h := (Header.parse r₂).toOption.getD default
  let q := (ofSetup ⟨.rawInteger, .standard, .all, 4, 10⟩).processAll [r₁]
  let e := q.channels.head?.getD default
  let s := e.2.current.getD default
  have hp : Header.parse r₂ = .ok h := by decide +kernel
  have he : e ∈ q.channels := by decide +kernel
  have hs : e.2.current = some s := by decide +kernel
  obtain ⟨hchannels, -⟩ := times_inRange .standard .all 4 10 [r₁]
  have hin := hchannels e he
  have hmem : s ∈ e.2.segments := by simp [segments_of_current hs]
  exact ⟨r₁, r₂, h, e, s, by decide +kernel, by decide +kernel, hp, he, hs, by decide +kernel,
    hin.segments s hmem, hin.deltas s hs r₂ h hp⟩

end Processor
end SeedStream
