import SeedStream.Proofs.Processing.Continuity

/-!
# Channels that look alike

Segments without samples are not assembled. So two channels give the same result if
they differ in closed segments without samples only, and each further record leaves
them so. What is known of a channel besides its samples is what the records whose
samples it took have told.
-/

set_option autoImplicit false

namespace SeedStream

def ChannelData.sides (d : ChannelData) : List UInt8 × List CalibrationMarker × Nat :=
  (d.timingQuality, d.calibrations, d.records)

namespace Assembly

def filled (segments : List Segment) : List Segment :=
  segments.filter fun s => s.length != 0

theorem filled_append (a b : List Segment) : filled (a ++ b) = filled a ++ filled b :=
  List.filter_append a b

theorem assemble_filled {a b : List Segment} (h : filled a = filled b) :
    (assemble a).1 = (assemble b).1 := by
  have hsorted : sorted a = sorted b := congrArg (·.mergeSort spanLe) h
  rw [assemble_def, assemble_def, hsorted]

end Assembly

namespace Setup

def takes (p : Setup) (a : Header × Bytes) : Bool := (p.decoder.samples a.1 a.2).isOk

theorem takes_iff {p : Setup} {h : Header} {r : Bytes} :
    p.takes (h, r) = true ↔ ∃ xs, p.decoder.samples h r = .ok xs := by
  rw [takes]
  cases p.decoder.samples h r <;> simp [Except.isOk, Except.toBool]

end Setup

namespace ChannelState
open Assembly

variable {p : Setup} {c d e : ChannelState} {h : Header} {r : Bytes}

def sides (c : ChannelState) : List UInt8 × List CalibrationMarker × Nat :=
  (c.timingQuality, c.calibrations, c.records)

/-- What is put out of a channel, if anything. -/
def shown (c : ChannelState) : Option ChannelData :=
  let data := (Processor.assembleChannel c).1
  if data.segments.isEmpty then none else some data

theorem shown_eq_some {data : ChannelData} : c.shown = some data ↔
    data = (Processor.assembleChannel c).1 ∧ data.segments ≠ [] := by
  unfold shown
  dsimp only
  split
  next hnil =>
    constructor
    · intro h
      cases h
    · rintro ⟨rfl, hne⟩
      exact absurd (by simpa using hnil) hne
  next hne =>
    constructor
    · intro h
      cases h
      exact ⟨rfl, by simpa using hne⟩
    · rintro ⟨rfl, -⟩
      rfl

theorem shown_empty : shown {} = none := by
  simp [shown, Processor.assembleChannel, assemble_def, sorted_def, foldAll_nil,
    ChannelState.segments]

/-- Two channels that differ in closed segments without samples only. -/
structure Alike (c d : ChannelState) : Prop where
  current : c.current = d.current
  closed : filled c.closed = filled d.closed
  sides : c.sides = d.sides

theorem Alike.segments (h : Alike c d) : filled c.segments = filled d.segments := by
  rw [ChannelState.segments, ChannelState.segments, filled_append, filled_append, h.closed,
    h.current]

theorem shown_eq (hf : filled c.segments = filled d.segments) (hs : c.sides = d.sides) :
    c.shown = d.shown := by
  obtain ⟨hq, hrest⟩ := Prod.mk.inj hs
  obtain ⟨hc, hn⟩ := Prod.mk.inj hrest
  have hdata : (Processor.assembleChannel c).1 = (Processor.assembleChannel d).1 := by
    simp only [Processor.assembleChannel, assemble_filled hf, hq, hc, hn]
  rw [shown, shown, hdata]

theorem sides_accept (hs : c.sides = d.sides) (xs : List Int32) :
    (c.accept h xs).sides = (d.accept h xs).sides := by
  obtain ⟨hq, hrest⟩ := Prod.mk.inj hs
  obtain ⟨hc, hn⟩ := Prod.mk.inj hrest
  simp only [sides, accept, hq, hc, hn]

theorem Alike.accept (ha : Alike c d) (xs : List Int32) :
    Alike (c.accept h xs) (d.accept h xs) where
  current := congrArg (Option.map fun s : Segment => s.append xs) ha.current
  closed := ha.closed
  sides := sides_accept ha.sides xs

theorem receive_of_ok (hd : c.prepare p h = .ok d) :
    (c.receive p h r).1 = match p.decoder.samples h r with
      | .error _ => d
      | .ok xs => d.accept h xs := by
  rw [receive, hd]
  dsimp only
  cases p.decoder.samples h r <;> rfl

theorem receive_of_error {x : StreamError} (hd : c.prepare p h = .error x) :
    (c.receive p h r).1 = c := by
  rw [receive, hd]

theorem Alike.receive_of_ok (ha : Alike d e) (hd : c.prepare p h = .ok d) {c' : ChannelState}
    (he : c'.prepare p h = .ok e) : Alike (c.receive p h r).1 (c'.receive p h r).1 := by
  rw [ChannelState.receive_of_ok hd, ChannelState.receive_of_ok he]
  cases p.decoder.samples h r with
  | error x => exact ha
  | ok xs => exact ha.accept xs

def turned (p : Setup) (c : ChannelState) (s : Segment) : ChannelState :=
  { c with closed := c.segments, current := some (s.withJitterDivisor p.jitterDivisor) }

theorem prepare_joins (hj : c.continuity h.start = .joins) : c.prepare p h = .ok c :=
  if_pos hj

theorem prepare_turned (hj : c.continuity h.start ≠ .joins) :
    c.prepare p h = (Segment.create h.start h.rate p.blockSize).map (c.turned p) :=
  if_neg hj

theorem prepare_cases (hd : c.prepare p h = .ok d) :
    (c.continuity h.start = .joins ∧ d = c) ∨ ∃ s, c.continuity h.start ≠ .joins ∧
      Segment.create h.start h.rate p.blockSize = .ok s ∧ d = c.turned p s := by
  by_cases hj : c.continuity h.start = .joins
  · rw [prepare_joins hj] at hd
    cases hd
    exact .inl ⟨hj, rfl⟩
  · rw [prepare_turned hj] at hd
    cases hs : Segment.create h.start h.rate p.blockSize with
    | error x =>
      rw [hs] at hd
      cases hd
    | ok s =>
      rw [hs] at hd
      cases hd
      exact .inr ⟨s, hj, rfl, rfl⟩

theorem Alike.receive (ha : Alike c d) : Alike (c.receive p h r).1 (d.receive p h r).1 := by
  have hsame : c.continuity h.start = d.continuity h.start := by
    rw [continuity, continuity, ha.current]
  by_cases hj : c.continuity h.start = .joins
  · exact ha.receive_of_ok (prepare_joins hj) (prepare_joins (hsame ▸ hj))
  · have hc := prepare_turned (p := p) hj
    have hd := prepare_turned (p := p) (hsame ▸ hj)
    cases hs : Segment.create h.start h.rate p.blockSize with
    | error x =>
      rw [hs] at hc hd
      rw [receive_of_error hc, receive_of_error hd]
      exact ha
    | ok s =>
      rw [hs] at hc hd
      have hturned : Alike (c.turned p s) (d.turned p s) := ⟨rfl, ha.segments, ha.sides⟩
      exact hturned.receive_of_ok hc hd

def receiveAll (p : Setup) (c : ChannelState) (arrivals : List (Header × Bytes)) : ChannelState :=
  arrivals.foldl (fun c a => (c.receive p a.1 a.2).1) c

theorem Alike.receiveAll (ha : Alike c d) (arrivals : List (Header × Bytes)) :
    Alike (c.receiveAll p arrivals) (d.receiveAll p arrivals) := by
  induction arrivals generalizing c d with
  | nil => exact ha
  | cons a rest ih => exact ih ha.receive

theorem sides_prepare (hd : c.prepare p h = .ok d) : d.sides = c.sides := by
  rcases prepare_cases hd with ⟨-, rfl⟩ | ⟨s, -, -, rfl⟩ <;> rfl

def told (c : ChannelState) (arrivals : List (Header × Bytes)) :
    List UInt8 × List CalibrationMarker × Nat :=
  (c.timingQuality ++ arrivals.filterMap (·.1.timingQuality),
    c.calibrations ++ arrivals.filterMap (·.1.calibration), c.records + arrivals.length)

theorem told_nil : c.told [] = c.sides := by
  simp [told, sides]

theorem told_append {arrivals more : List (Header × Bytes)} (hd : d.sides = c.told arrivals) :
    d.told more = c.told (arrivals ++ more) := by
  simp only [sides, told, Prod.mk.injEq] at hd
  obtain ⟨hquality, hcalibrations, hrecords⟩ := hd
  simp [told, hquality, hcalibrations, hrecords, Nat.add_assoc]

theorem told_accept (xs : List Int32) : (c.accept h xs).sides = c.told [(h, r)] := by
  cases hq : h.timingQuality <;> cases hc : h.calibration <;> simp [sides, accept, told, hq, hc]

theorem receive_told {i : Int} (hi : SampleRate.interval h.rate = .ok i) (hb : 0 < p.blockSize) :
    (c.receive p h r).1.sides = c.told ([(h, r)].filter p.takes) := by
  obtain ⟨d, hd⟩ := prepare_ok (c := c) hi hb
  rw [receive_of_ok hd]
  cases hx : p.decoder.samples h r with
  | error x =>
    have hnot : ¬ p.takes (h, r) = true := by simp [Setup.takes_iff, hx]
    rw [List.filter_cons_of_neg hnot, List.filter_nil, told_nil]
    exact sides_prepare hd
  | ok xs =>
    have htakes : p.takes (h, r) = true := Setup.takes_iff.2 ⟨xs, hx⟩
    rw [List.filter_cons_of_pos htakes, List.filter_nil]
    exact (sides_accept (sides_prepare hd) xs).trans (told_accept xs)

theorem receiveAll_told {arrivals : List (Header × Bytes)} (hb : 0 < p.blockSize)
    (ha : ∀ a ∈ arrivals, ∃ i, SampleRate.interval a.1.rate = .ok i) :
    (c.receiveAll p arrivals).sides = c.told (arrivals.filter p.takes) := by
  induction arrivals generalizing c with
  | nil => exact told_nil.symm
  | cons a rest ih =>
    obtain ⟨i, hi⟩ := ha a List.mem_cons_self
    have hone := receive_told (c := c) (r := a.2) hi hb
    have hrest := ih (c := (c.receive p a.1 a.2).1) fun b hb => ha b (List.mem_cons_of_mem a hb)
    have hsplit : (a :: rest).filter p.takes = [a].filter p.takes ++ rest.filter p.takes :=
      List.filter_append [a] rest
    rw [hsplit]
    exact hrest.trans (told_append hone)

theorem sides_receiveAll {arrivals : List (Header × Bytes)} (hb : 0 < p.blockSize)
    (ha : ∀ a ∈ arrivals, ∃ i, SampleRate.interval a.1.rate = .ok i)
    (hs : c.sides = d.sides) :
    (c.receiveAll p arrivals).sides = (d.receiveAll p arrivals).sides := by
  rw [receiveAll_told hb ha, receiveAll_told hb ha]
  exact told_append (hs.trans told_nil.symm)

theorem filled_turned {s : Segment} (hs : Segment.create h.start h.rate p.blockSize = .ok s) :
    filled (c.turned p s).segments = filled c.segments := by
  have hsegments : (c.turned p s).segments = c.segments ++ [s.withJitterDivisor p.jitterDivisor] :=
    rfl
  have hempty : filled [s.withJitterDivisor p.jitterDivisor] = [] := by
    rw [filled, List.filter_cons_of_neg, List.filter_nil]
    simp [Segment.withJitterDivisor, Segment.create_length hs]
  rw [hsegments, filled_append, hempty, List.append_nil]

/-- The records that extend an empty segment start near the record it was opened for. -/
theorem joins_turned {s : Segment} {i : Int}
    (hs : Segment.create h.start h.rate p.blockSize = .ok s)
    (hi : SampleRate.interval h.rate = .ok i) (start : Int) :
    (c.turned p s).continuity start = .joins ↔ |start - h.start| ≤ i / p.divisor := by
  have hinterval : s.interval = i := Segment.create_interval hs hi
  have htolerance : (s.withJitterDivisor p.jitterDivisor).tolerance = i / p.divisor := by
    rw [← hinterval]
    rfl
  rw [joins_iff (s := s.withJitterDivisor p.jitterDivisor) rfl, Segment.stop_withJitterDivisor,
    Segment.create_stop hs, htolerance]

end ChannelState
end SeedStream
