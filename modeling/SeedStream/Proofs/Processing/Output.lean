import SeedStream.Proofs.Assembly.Fold
import SeedStream.Proofs.Processing.Continuity

/-!
# What comes out of a channel

The segments put out for a channel are assembled from those it collected, and
these agree with its records. A sample is displaced twice at most: when its
record extends a segment, and when its segment is merged away. A channel with a
decoded sample is in the result.
-/

set_option autoImplicit false

namespace SeedStream
open Assembly

def Setup.Decodes (p : Setup) (key : ChannelKey) (r : Bytes) (h : Header) (xs : List Int32) :
    Prop :=
  p.classify r = .data key h ∧ p.decoder.samples h r = .ok xs

theorem Setup.yields_arrivals {p : Setup} {key : ChannelKey} {i y : Int} {records : List Bytes}
    {v : Int32} : p.Yields i (p.arrivals key records) y v ↔
      ∃ r ∈ records, ∃ h xs, p.Decodes key r h xs ∧
        ∃ j : Nat, xs[j]? = some v ∧ y = h.start + i * j := by
  constructor
  · rintro ⟨⟨h, r⟩, ha, xs, hxs, hy⟩
    obtain ⟨hr, hc⟩ := mem_arrivals.1 ha
    exact ⟨r, hr, h, xs, ⟨hc, hxs⟩, hy⟩
  · rintro ⟨r, hr, h, xs, ⟨hc, hxs⟩, hy⟩
    exact ⟨(h, r), mem_arrivals.2 ⟨hr, hc⟩, xs, hxs, hy⟩

namespace Processor

structure Output (p : Setup) (key : ChannelKey) (i : Int) (records : List Bytes)
    (data : ChannelData) (c : ChannelState) : Prop where
  interval : SampleRate.interval key.rate = .ok i
  tracks : ChannelState.Tracks p key i (p.arrivals key records) c
  assembled : Assembled i p.divisor c.segments data.segments
  sized : 0 < p.blockSize

theorem divisor_pos (p : Setup) : 0 < p.divisor := by
  rw [Setup.divisor]
  omega

theorem output_of_channel {p : Setup} {key : ChannelKey} {records : List Bytes} {c : ChannelState}
    (hb : 0 < p.blockSize) (hc : (key, c) ∈ ((ofSetup p).processAll records).channels) :
    ∃ i, Output p key i records (assembleChannel c).1 c := by
  obtain ⟨i, hi, ht⟩ := tracks_channels hc
  exact ⟨i, hi, ht, assemble_assembled (SampleRate.interval_pos hi) (divisor_pos p)
    fun s hs => (ht.regular s hs).1, hb⟩

theorem output_of_mem {p : Setup} {key : ChannelKey} {records : List Bytes} {data : ChannelData}
    (hm : (key, data) ∈ ((ofSetup p).processAll records).finish.channels) :
    data.segments ≠ [] ∧ ∃ i c, Output p key i records data c := by
  obtain ⟨c, hc, rfl, hne⟩ := (mem_finish _ _).1 hm
  obtain ⟨i, hi, ht⟩ := tracks_channels hc
  have hassembled := assemble_assembled (SampleRate.interval_pos hi) (divisor_pos p)
    fun s hs => (ht.regular s hs).1
  obtain ⟨o, ho⟩ := List.exists_mem_of_ne_nil _ hne
  obtain ⟨s, hs, -⟩ := hassembled.origin o ho
  exact ⟨hne, i, c, hi, ht, hassembled, ht.sized (List.ne_nil_of_mem hs)⟩

variable {p : Setup} {key : ChannelKey} {i : Int} {records : List Bytes} {data : ChannelData}
  {c : ChannelState}

theorem Output.drawn (h : Output p key i records data c) {o : Segment} (ho : o ∈ data.segments)
    {x : Int} {v : Int32} (hx : o.Holds x v) :
    ∃ y, p.Yields i (p.arrivals key records) y v ∧
      |x - y| ≤ i / p.divisor + Segment.slack i p.divisor := by
  obtain ⟨s, hs, z, hz, hxz⟩ := h.assembled.drawn o ho x v hx
  obtain ⟨y, hy, hzy⟩ := h.tracks.drawn s hs z v hz
  refine ⟨y, hy, ?_⟩
  calc |x - y| ≤ |x - z| + |z - y| := abs_sub_le x z y
    _ ≤ Segment.slack i p.divisor + i / p.divisor := add_le_add hxz hzy
    _ = i / p.divisor + Segment.slack i p.divisor := add_comm _ _

theorem Output.covered (h : Output p key i records data c) {y : Int} {w : Int32}
    (hy : p.Yields i (p.arrivals key records) y w) :
    ∃ o ∈ data.segments, ∃ x v, o.Holds x v ∧
      |x - y| ≤ i / p.divisor + Segment.slack i p.divisor := by
  obtain ⟨s, hs, z, hz, hzy⟩ := h.tracks.covered h.sized y w hy
  obtain ⟨o, ho, x, v, hx, hxz⟩ := h.assembled.covered s hs z w hz
  refine ⟨o, ho, x, v, hx, ?_⟩
  calc |x - y| ≤ |x - z| + |z - y| := abs_sub_le x z y
    _ ≤ Segment.slack i p.divisor + i / p.divisor := add_le_add hxz hzy
    _ = i / p.divisor + Segment.slack i p.divisor := add_comm _ _

theorem visits_some {p : Setup} {arrivals : List (Header × Bytes)} (hne : arrivals ≠ []) :
    ∃ c, arrivals.foldl (visit p) none = some c := by
  rw [← List.dropLast_append_getLast hne, List.foldl_append]
  exact ⟨_, rfl⟩

theorem exists_mem_finish (hb : 0 < p.blockSize) {r : Bytes} (hr : r ∈ records) {h : Header}
    {xs : List Int32} (hx : p.Decodes key r h xs) (hne : xs ≠ []) :
    ∃ data, (key, data) ∈ ((ofSetup p).processAll records).finish.channels := by
  obtain ⟨c, hc⟩ := visits_some (p := p)
    (List.ne_nil_of_mem (Setup.mem_arrivals.2 ⟨hr, hx.1⟩))
  rw [← mem_channels] at hc
  obtain ⟨i, ho⟩ := output_of_channel hb hc
  have hfirst := List.getElem?_eq_getElem (List.length_pos_iff.2 hne)
  obtain ⟨o, hout, -⟩ :=
    ho.covered (Setup.yields_arrivals.2 ⟨r, hr, h, xs, hx, 0, hfirst, rfl⟩)
  exact ⟨_, (mem_finish _ _).2 ⟨c, hc, rfl, List.ne_nil_of_mem hout⟩⟩

end Processor
end SeedStream
