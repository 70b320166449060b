import SeedStream.Proofs.Processing.Trace
import SeedStream.Proofs.SampleRate.Interval
import SeedStream.Proofs.Segment.Merging

/-!
# How a channel keeps time

A record extends the open segment only if it starts within the tolerance of its
end, so each of its samples is put within the tolerance of its own time. The end
of a segment is counted from its start, whence the next record is measured
against the segment and not against the record before it.
-/

set_option autoImplicit false

namespace SeedStream

def Setup.divisor (p : Setup) : Int := max p.jitterDivisor 1

/-- A decoded record among `arrivals` has the sample `v` at the time `y`. -/
def Setup.Yields (p : Setup) (i : Int) (arrivals : List (Header × Bytes)) (y : Int) (v : Int32) :
    Prop :=
  ∃ a ∈ arrivals, ∃ xs, p.decoder.samples a.1 a.2 = .ok xs ∧
    ∃ j : Nat, xs[j]? = some v ∧ y = a.1.start + i * j

namespace ChannelState
open Segment

/-- The segments of a channel agree with the records it received. -/
structure Tracks (p : Setup) (key : ChannelKey) (i : Int) (arrivals : List (Header × Bytes))
    (c : ChannelState) : Prop where
  regular : ∀ s ∈ c.segments, s.Regular i p.divisor ∧ s.rate = key.rate
  sized : c.segments ≠ [] → 0 < p.blockSize
  origin : ∀ s ∈ c.segments, ∃ a ∈ arrivals, s.start = a.1.start
  drawn : ∀ s ∈ c.segments, ∀ x v, s.Holds x v →
    ∃ y, p.Yields i arrivals y v ∧ |x - y| ≤ i / p.divisor
  covered : 0 < p.blockSize → ∀ y v, p.Yields i arrivals y v →
    ∃ s ∈ c.segments, ∃ x, s.Holds x v ∧ |x - y| ≤ i / p.divisor

/-- A channel with a segment `s` that a record starting at `start` can extend. -/
structure Ready (p : Setup) (key : ChannelKey) (i start : Int) (c d : ChannelState) (s : Segment) :
    Prop where
  current : d.current = some s
  regular : s.Regular i p.divisor
  rate : s.rate = key.rate
  touches : |start - s.stop| ≤ i / p.divisor
  sized : 0 < p.blockSize
  segments : d.closed ++ [s] = c.segments ∨
    (d.closed = c.segments ∧ s.samples = [] ∧ s.start = start)

variable {p : Setup} {key : ChannelKey} {i : Int} {arrivals : List (Header × Bytes)}
  {c d : ChannelState} {h : Header} {r : Bytes}

theorem tolerance_nonneg (hi : 0 < i) : 0 ≤ i / p.divisor := by
  have hd : 0 ≤ p.divisor := by
    rw [Setup.divisor]
    omega
  exact Int.ediv_nonneg (Int.le_of_lt hi) hd

theorem tracks_empty : Tracks p key i [] {} where
  regular s hs := absurd hs List.not_mem_nil
  sized hne := absurd rfl hne
  origin s hs := absurd hs List.not_mem_nil
  drawn s hs := absurd hs List.not_mem_nil
  covered _ y v hy := by
    obtain ⟨a, ha, -⟩ := hy
    exact absurd ha List.not_mem_nil

theorem segments_of_current {s : Segment} (hs : c.current = some s) :
    c.segments = c.closed ++ [s] := by
  rw [segments, hs]
  rfl

theorem joins_iff {s : Segment} (hs : c.current = some s) (start : Int) :
    c.continuity start = .joins ↔ |start - s.stop| ≤ s.tolerance := by
  rw [continuity, hs, abs_le]
  dsimp only
  split
  next hgap =>
    simp only [reduceCtorEq, false_iff]
    omega
  next hgap =>
    split
    next hover =>
      simp only [reduceCtorEq, false_iff]
      omega
    next hover =>
      simp only [true_iff]
      omega

theorem Tracks.ready_of_joins (ht : Tracks p key i arrivals c) {start : Int}
    (hj : c.continuity start = .joins) : ∃ s, Ready p key i start c c s := by
  cases hs : c.current with
  | none =>
    rw [continuity, hs] at hj
    cases hj
  | some s =>
    have hmem : s ∈ c.segments := by simp [segments_of_current hs]
    obtain ⟨hreg, hrate⟩ := ht.regular s hmem
    rw [joins_iff hs, hreg.tolerance_eq] at hj
    refine ⟨s, hs, hreg, hrate, hj, ?_, ?_⟩
    · exact ht.sized (List.ne_nil_of_mem hmem)
    · exact .inl (segments_of_current hs).symm

theorem ready_of_rollOver (hi : SampleRate.interval h.rate = .ok i) (hk : h.rate = key.rate)
    (hd : c.rollOver p h = .ok d) : ∃ s, Ready p key i h.start c d s := by
  unfold rollOver at hd
  cases hs : Segment.create h.start h.rate p.blockSize with
  | error e => simp [hs, Except.map] at hd
  | ok s =>
    rw [hs] at hd
    cases hd
    obtain ⟨hsound, hstart, hrate, hempty, -⟩ := create_sound hs
    have hsi : s.interval = i := create_interval hs hi
    refine ⟨_, rfl, ⟨⟨hsound.holding, hsound.enough, hsound.tight⟩, hsi, rfl⟩,
      hrate.trans hk, ?_, ?_, .inr ⟨rfl, hempty, hstart⟩⟩
    · rw [stop_withJitterDivisor, create_stop hs, Int.sub_self]
      exact tolerance_nonneg (SampleRate.interval_pos hi)
    · by_contra hb
      simp [Segment.create, hi, BlockPool.create, hb] at hs

theorem Tracks.ready (ht : Tracks p key i arrivals c) (hi : SampleRate.interval h.rate = .ok i)
    (hk : h.rate = key.rate) (hd : c.prepare p h = .ok d) : ∃ s, Ready p key i h.start c d s := by
  unfold prepare at hd
  split at hd
  next hj =>
    cases hd
    exact ht.ready_of_joins hj
  next => exact ready_of_rollOver hi hk hd

theorem prepare_ok (hi : SampleRate.interval h.rate = .ok i) (hb : 0 < p.blockSize) :
    ∃ d, c.prepare p h = .ok d := by
  unfold prepare
  split
  next => exact ⟨c, rfl⟩
  next =>
    obtain ⟨s, hs⟩ := create_ok h.start hi hb
    exact ⟨_, by rw [rollOver, hs]; rfl⟩

theorem unsized_of_error (hi : SampleRate.interval h.rate = .ok i) {x : StreamError}
    (hd : c.prepare p h = .error x) : p.blockSize = 0 := by
  by_contra hb
  obtain ⟨d, hok⟩ := prepare_ok (c := c) hi (Nat.pos_of_ne_zero hb)
  cases hok.symm.trans hd

theorem yields_append {more : List (Header × Bytes)} {y : Int} {v : Int32} :
    p.Yields i (arrivals ++ more) y v ↔ p.Yields i arrivals y v ∨ p.Yields i more y v := by
  simp only [Setup.Yields, List.mem_append, or_and_right, exists_or]

theorem yields_singleton {y : Int} {v : Int32} :
    p.Yields i [(h, r)] y v ↔
      ∃ xs, p.decoder.samples h r = .ok xs ∧
        ∃ j : Nat, xs[j]? = some v ∧ y = h.start + i * j := by
  simp only [Setup.Yields, List.mem_singleton, exists_eq_left]

variable {s : Segment}

theorem Ready.closed_sub (hr : Ready p key i h.start c d s) {t : Segment} (ht : t ∈ d.closed) :
    t ∈ c.segments := by
  rcases hr.segments with heq | ⟨heq, -, -⟩
  · exact heq ▸ List.mem_append_left _ ht
  · exact heq ▸ ht

theorem Ready.current_cases (hr : Ready p key i h.start c d s) :
    s ∈ c.segments ∨ (s.samples = [] ∧ s.start = h.start) := by
  rcases hr.segments with heq | ⟨-, hempty, hstart⟩
  · exact .inl (heq ▸ List.mem_append_right _ List.mem_cons_self)
  · exact .inr ⟨hempty, hstart⟩

theorem Ready.covers (hr : Ready p key i h.start c d s) (xs : List Int32) {x : Int} {v : Int32}
    (hx : ∃ t ∈ c.segments, t.Holds x v) :
    ∃ t ∈ d.closed ++ [s.append xs], t.Holds x v := by
  obtain ⟨t, ht, hx⟩ := hx
  have hsplit : t ∈ d.closed ∨ t = s := by
    rcases hr.segments with heq | ⟨heq, -, -⟩
    · rw [← heq, List.mem_append, List.mem_singleton] at ht
      exact ht
    · exact .inl (heq ▸ ht)
  rcases hsplit with ht | rfl
  · exact ⟨t, List.mem_append_left _ ht, hx⟩
  · exact ⟨_, List.mem_append_right _ List.mem_cons_self, hr.regular.holds_append.2 (.inl hx)⟩

/-- Behind the end of the segment, the samples of a record are put as far from
their own times as the record starts from that end. -/
theorem Ready.shift (hr : Ready p key i h.start c d s) (j : Nat) :
    |s.stop + i * j - (h.start + i * j)| ≤ i / p.divisor := by
  have htouch := abs_le.1 hr.touches
  exact abs_le.2 ⟨by omega, by omega⟩

theorem Tracks.extend (ht : Tracks p key i arrivals c) (hr : Ready p key i h.start c d s)
    {xs : List Int32} {e : ChannelState} (he : e.segments = d.closed ++ [s.append xs])
    (hy : ∀ y v, p.Yields i [(h, r)] y v ↔
      ∃ j : Nat, xs[j]? = some v ∧ y = h.start + i * j) :
    Tracks p key i (arrivals ++ [(h, r)]) e := by
  have hmem : ∀ t ∈ e.segments, t ∈ c.segments ∨ t = s.append xs := by
    intro t hmem
    rw [he, List.mem_append, List.mem_singleton] at hmem
    exact hmem.imp_left hr.closed_sub
  constructor
  · intro t htm
    rcases hmem t htm with hold | rfl
    · exact ht.regular t hold
    · exact ⟨hr.regular.append xs, (append_head s xs).rate.trans hr.rate⟩
  · exact fun _ => hr.sized
  · intro t htm
    have horigin : ∀ t ∈ c.segments, ∃ a ∈ arrivals ++ [(h, r)], t.start = a.1.start := by
      intro t hold
      obtain ⟨a, ha, hstart⟩ := ht.origin t hold
      exact ⟨a, List.mem_append_left _ ha, hstart⟩
    rcases hmem t htm with hold | rfl
    · exact horigin t hold
    · rw [(append_head s xs).start]
      rcases hr.current_cases with hold | ⟨-, hstart⟩
      · exact horigin s hold
      · exact ⟨(h, r), by simp, hstart⟩
  · intro t htm x v hx
    have hdrawn : ∀ t ∈ c.segments, t.Holds x v →
        ∃ y, p.Yields i (arrivals ++ [(h, r)]) y v ∧ |x - y| ≤ i / p.divisor := by
      intro t hold hx
      obtain ⟨y, hyv, hnear⟩ := ht.drawn t hold x v hx
      exact ⟨y, yields_append.2 (.inl hyv), hnear⟩
    rcases hmem t htm with hold | rfl
    · exact hdrawn t hold hx
    · rcases hr.regular.holds_append.1 hx with hx | ⟨j, hj, rfl⟩
      · rcases hr.current_cases with hold | ⟨hempty, -⟩
        · exact hdrawn s hold hx
        · obtain ⟨k, hk, -⟩ := hx
          simp [hempty] at hk
      · exact ⟨_, yields_append.2 (.inr ((hy _ v).2 ⟨j, hj, rfl⟩)), hr.shift j⟩
  · intro hb y v hyv
    rw [he]
    rcases yields_append.1 hyv with hyv | hyv
    · obtain ⟨t, hold, x, hx, hnear⟩ := ht.covered hb y v hyv
      obtain ⟨t', ht', hx'⟩ := hr.covers xs ⟨t, hold, hx⟩
      exact ⟨t', ht', x, hx', hnear⟩
    · obtain ⟨j, hj, rfl⟩ := (hy y v).1 hyv
      exact ⟨_, List.mem_append_right _ List.mem_cons_self, _,
        hr.regular.holds_append.2 (.inr ⟨j, hj, rfl⟩), hr.shift j⟩

theorem Tracks.receive (ht : Tracks p key i arrivals c)
    (hi : SampleRate.interval h.rate = .ok i) (hk : h.rate = key.rate) :
    Tracks p key i (arrivals ++ [(h, r)]) (c.receive p h r).1 := by
  unfold ChannelState.receive
  cases hd : c.prepare p h with
  | error e =>
    have hb := unsized_of_error hi hd
    refine ⟨ht.regular, ht.sized, ?_, ?_, fun h0 => absurd hb (Nat.ne_of_gt h0)⟩
    · intro s hs
      obtain ⟨a, ha, hstart⟩ := ht.origin s hs
      exact ⟨a, List.mem_append_left _ ha, hstart⟩
    · intro s hs x v hx
      obtain ⟨y, hyv, hnear⟩ := ht.drawn s hs x v hx
      exact ⟨y, yields_append.2 (.inl hyv), hnear⟩
  | ok d =>
    obtain ⟨s, hr⟩ := ht.ready hi hk hd
    cases hx : p.decoder.samples h r with
    | error e =>
      have he : d.segments = d.closed ++ [s.append []] := segments_of_current hr.current
      apply ht.extend hr he
      intro y v
      rw [yields_singleton, hx]
      simp
    | ok xs =>
      have he : (d.accept h xs).segments = d.closed ++ [s.append xs] := by
        simp [accept, segments, hr.current]
      apply ht.extend hr he
      intro y v
      rw [yields_singleton, hx]
      simp

end ChannelState

namespace Processor
open ChannelState

theorem tracks_visits {p : Setup} {key : ChannelKey} {i : Int}
    (hi : SampleRate.interval key.rate = .ok i) {more arrivals : List (Header × Bytes)}
    (hm : ∀ a ∈ more, a.1.rate = key.rate) {c : Option ChannelState}
    (hc : Tracks p key i arrivals (c.getD {})) :
    Tracks p key i (arrivals ++ more) ((more.foldl (visit p) c).getD {}) := by
  induction more generalizing arrivals c with
  | nil => simpa using hc
  | cons a more ih =>
    have hrate := hm a List.mem_cons_self
    have hnext : Tracks p key i (arrivals ++ [a]) ((visit p c a).getD {}) :=
      hc.receive (hrate ▸ hi) hrate
    have hall := ih (fun b hb => hm b (List.mem_cons_of_mem a hb)) hnext
    rwa [List.append_assoc] at hall

theorem tracks_channels {p : Setup} {key : ChannelKey} {records : List Bytes} {c : ChannelState}
    (hc : (key, c) ∈ ((ofSetup p).processAll records).channels) :
    ∃ i, SampleRate.interval key.rate = .ok i ∧ Tracks p key i (p.arrivals key records) c := by
  rw [mem_channels] at hc
  obtain ⟨a, ha⟩ : ∃ a, a ∈ p.arrivals key records := by
    apply List.exists_mem_of_ne_nil _
    intro hnil
    rw [hnil] at hc
    cases hc
  obtain ⟨-, i, hi⟩ := Setup.interval_of_mem_arrivals ha
  refine ⟨i, hi, ?_⟩
  have hrates : ∀ a ∈ p.arrivals key records, a.1.rate = key.rate :=
    fun a ha => (Setup.interval_of_mem_arrivals ha).1
  have htracks := tracks_visits (p := p) (c := none) hi hrates tracks_empty
  rwa [hc] at htracks

end Processor
end SeedStream
