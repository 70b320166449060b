import SeedStream.Proofs.Framing.Piece

/-!
# Framing tiles the input

The pieces that the steps of a framer take are the input, one after the other.
Pieces are as long as whole chunks, except for a last one that is incomplete.
The records put out are the pieces that are records, and the counts are those of
the pieces.
-/

set_option autoImplicit false

namespace SeedStream

/-- An input as consecutive sound pieces, of which only the last may be partial. -/
structure Tiles (quality : QualityFilter) (input : Bytes) (pieces : List Piece) : Prop where
  joined : pieces.flatMap Piece.bytes = input
  sound : ∀ x ∈ pieces, x.Sound quality
  whole : pieces.Pairwise fun x _ => ¬ x.IsPartial

namespace Tiles

variable {quality : QualityFilter} {input rest : Bytes} {pieces before after : List Piece}
  {x : Piece}

theorem nil : Tiles quality [] [] where
  joined := rfl
  sound _ hx := absurd hx List.not_mem_nil
  whole := .nil

theorem singleton (hx : x.Sound quality) : Tiles quality x.bytes [x] where
  joined := by simp
  sound y hy := List.mem_singleton.1 hy ▸ hx
  whole := List.pairwise_singleton _ x

theorem cons (hx : x.Sound quality) (hw : ¬ x.IsPartial) (h : Tiles quality rest pieces) :
    Tiles quality (x.bytes ++ rest) (x :: pieces) where
  joined := by rw [List.flatMap_cons, h.joined]
  sound := List.forall_mem_cons.2 ⟨hx, h.sound⟩
  whole := List.pairwise_cons.2 ⟨fun _ _ => hw, h.whole⟩

theorem last (h : Tiles quality input (before ++ x :: after)) (hx : x.IsPartial) : after = [] := by
  cases after with
  | nil => rfl
  | cons y after =>
    have hpair := (List.pairwise_append.1 h.whole).2.1
    exact absurd hx ((List.pairwise_cons.1 hpair).1 y List.mem_cons_self)

theorem aligned (h : Tiles quality input (before ++ x :: after)) :
    Header.frameSize ∣ (before.flatMap Piece.bytes).length := by
  have hsound : ∀ y ∈ before, y.Sound quality := fun y hy =>
    h.sound y (List.mem_append_left _ hy)
  have hwhole : ∀ y ∈ before, ¬ y.IsPartial := fun y hy =>
    (List.pairwise_append.1 h.whole).2.2 y hy x List.mem_cons_self
  clear h
  induction before with
  | nil => exact Nat.dvd_zero _
  | cons y before ih =>
    rw [List.flatMap_cons, List.length_append]
    apply Nat.dvd_add
    · exact (hsound y List.mem_cons_self).aligned (hwhole y List.mem_cons_self)
    · exact ih (fun z hz => hsound z (List.mem_cons_of_mem y hz))
        (fun z hz => hwhole z (List.mem_cons_of_mem y hz))

end Tiles

def totals (pieces : List Piece) : FramingStats :=
  pieces.foldr (fun x s => x.counts.add s) {}

def recordsOf (source : Nat) (pieces : List Piece) : List RawRecord :=
  (pieces.filter fun x => x.kind == .record).map fun x => ⟨source, x.bytes⟩

namespace Framer

variable {f g : Framer}

theorem next_stop (h : f.step = .stop g) : f.next = (none, g) := by
  rw [next]
  split <;> simp_all

theorem next_skip (h : f.step = .skip g) : f.next = g.next := by
  rw [next]
  split <;> simp_all

theorem next_emit {r : RawRecord} (h : f.step = .emit r g) : f.next = (some r, g) := by
  rw [next]
  split <;> simp_all

theorem records_none (h : f.next = (none, g)) : f.records = ([], g) := by
  rw [records, collect]
  split
  next hn =>
    cases h.symm.trans hn
    rfl
  next hn => cases h.symm.trans hn

theorem records_some {r : RawRecord} (h : f.next = (some r, g)) :
    f.records = (r :: g.records.1, g.records.2) := by
  rw [records, collect]
  split
  next hn => cases h.symm.trans hn
  next hn =>
    cases h.symm.trans hn
    rfl

theorem records_congr (h : f.next = g.next) : f.records = g.records := by
  cases hg : g.next with
  | mk r g' =>
    cases r with
    | none => rw [records_none hg, records_none (h.trans hg)]
    | some r => rw [records_some hg, records_some (h.trans hg)]

theorem Passes.shorter {x : Piece} (h : f.Passes x g) (hx : Header.frameSize ≤ x.bytes.length) :
    g.reader.rest.length < f.reader.rest.length := by
  have hpos : 0 < Header.frameSize := by decide
  rw [← h.rest, List.length_append]
  omega

structure Run (f : Framer) (pieces : List Piece) : Prop where
  tiles : Tiles f.quality f.reader.rest pieces
  records : f.records.1 = recordsOf f.source pieces
  stats : f.records.2.stats = f.stats.add (totals pieces)

theorem Live.run_end (h : f.Live) (hr : f.reader.rest = []) : f.Run [] := by
  obtain ⟨g, hg, hstats⟩ := h.step_end hr
  constructor
  · rw [hr]
    exact .nil
  · rw [records_none (next_stop hg)]
    rfl
  · rw [records_none (next_stop hg), hstats]
    rfl

theorem run_stop {x : Piece} (hx : x.Sound f.quality) (hp : x.IsPartial)
    (hb : x.bytes = f.reader.rest) (hs : g.stats = f.stats.add x.counts) (h : f.step = .stop g) :
    f.Run [x] := by
  constructor
  · rw [← hb]
    exact .singleton hx
  · rw [records_none (next_stop h)]
    simp [recordsOf, Piece.isPartial_ne_record hp]
  · rw [records_none (next_stop h), hs]
    rfl

theorem Passes.run {x : Piece} {pieces : List Piece} (h : f.Passes x g) (hx : x.Sound f.quality)
    (hp : ¬ x.IsPartial) (hg : g.Run pieces)
    (hr : f.records.1 = recordsOf f.source [x] ++ g.records.1)
    (hs : f.records.2 = g.records.2) : f.Run (x :: pieces) := by
  constructor
  · rw [← h.rest]
    exact .cons hx hp (h.quality ▸ hg.tiles)
  · rw [hr, hg.records, h.source, recordsOf, recordsOf, recordsOf, ← List.map_append,
      ← List.filter_append]
    rfl
  · rw [hs, hg.stats, h.stats, FramingStats.add_assoc]
    rfl

theorem Live.run (h : f.Live) : ∃ pieces, f.Run pieces := by
  -- All pieces but a partial one have a chunk at least, so the bytes left decrease.
  induction hn : f.reader.rest.length using Nat.strong_induction_on generalizing f with
  | _ n ih =>
    subst hn
    by_cases hr : f.reader.rest = []
    · exact ⟨[], h.run_end hr⟩
    · obtain ⟨x, hx, htakes⟩ := h.step_takes hr
      generalize hstep : f.step = step at htakes
      cases htakes with
      | stop hp hb hs => exact ⟨[x], run_stop hx hp hb hs hstep⟩
      | skip hp hk hpass =>
        obtain ⟨pieces, hrun⟩ := ih _ (hpass.shorter (hx.frame_le hp)) hpass.live rfl
        refine ⟨x :: pieces, hpass.run hx hp hrun ?_ ?_⟩
        · rw [records_congr (next_skip hstep)]
          simp [recordsOf, hk]
        · rw [records_congr (next_skip hstep)]
      | emit hk hpass =>
        have hp := Piece.record_not_isPartial hk
        obtain ⟨pieces, hrun⟩ := ih _ (hpass.shorter (hx.frame_le hp)) hpass.live rfl
        refine ⟨x :: pieces, hpass.run hx hp hrun ?_ ?_⟩
        · rw [records_some (next_emit hstep)]
          simp [recordsOf, hk]
        · rw [records_some (next_emit hstep)]

end Framer

def tally (kind : PieceKind) (pieces : List Piece) : Nat :=
  (pieces.map Piece.kind).count kind

theorem totals_eq (pieces : List Piece) : totals pieces =
    { bytesRead := (pieces.flatMap Piece.bytes).length
      records := tally .record pieces
      chunksDiscarded := tally .malformed pieces
      qualityRejected := tally .unwanted pieces
      heartbeats := tally .heartbeat pieces + tally .incompleteHeartbeat pieces
      truncated := tally .incomplete pieces + tally .incompleteHeartbeat pieces
      ioErrors := 0 } := by
  induction pieces with
  | nil => rfl
  | cons x pieces ih =>
    rw [totals, List.foldr_cons, ← totals, ih]
    obtain ⟨kind, b⟩ := x
    cases kind <;> simp [Piece.counts, FramingStats.add, tally] <;> omega

/-- A record as a framer may put it out. -/
structure Framed (quality : QualityFilter) (r : RawRecord) : Prop where
  isLength : Header.IsLength r.bytes.length
  announced : Header.crackLength (r.bytes.take Header.frameSize) = .ok r.bytes.length
  wanted : ∃ q, r.quality? = some q ∧ quality.accepts q = true
  silent : Header.isHeartbeatBytes r.bytes = false

theorem Piece.Sound.framed {quality : QualityFilter} {x : Piece} (h : x.Sound quality)
    (hk : x.kind = .record) (source : Nat) : Framed quality ⟨source, x.bytes⟩ := by
  have hle := h.frame_le (record_not_isPartial hk)
  obtain ⟨kind, b⟩ := x
  subst hk
  obtain ⟨hb, hq, hc⟩ := h
  have hlt : ChunkKind.qualityOffset < b.length := Nat.lt_of_lt_of_le (by decide) hle
  refine ⟨Header.crackLength_isLength hc, hc, ⟨b[ChunkKind.qualityOffset], ?_, ?_⟩, ?_⟩
  · exact List.getElem?_eq_getElem hlt
  · rw [chunk, List.getD_eq_getElem?_getD, List.getElem?_take_of_lt (by decide),
      List.getElem?_eq_getElem hlt] at hq
    exact hq
  · rw [chunk, Header.isHeartbeatBytes_take _ (by decide)] at hb
    exact eq_false_of_ne_true hb

theorem Tiles.framed {quality : QualityFilter} {input : Bytes} {pieces : List Piece} {source : Nat}
    (h : Tiles quality input pieces) : ∀ r ∈ recordsOf source pieces, Framed quality r := by
  intro r hr
  obtain ⟨x, hx, rfl⟩ := List.mem_map.1 hr
  obtain ⟨hmem, hkind⟩ := List.mem_filter.1 hx
  exact (h.sound x hmem).framed (by simpa using hkind) source

/-- Framing all bytes tiles them: they are consecutive sound pieces, each at the
start of a chunk and only the last one partial; the records put out are those
among the pieces, and the counts are the numbers of pieces. -/
theorem Framer.records_tile (b : Bytes) (source : Nat) (quality : QualityFilter) (isFinal : Bool) :
    ∃ pieces : List Piece, Tiles quality b pieces ∧
      (∀ before x after, pieces = before ++ x :: after →
        Header.frameSize ∣ (before.flatMap Piece.bytes).length ∧
        (x.IsPartial → after = [])) ∧
      (ofReader (.plain b) source quality isFinal).records.1 = recordsOf source pieces ∧
      (∀ r ∈ (ofReader (.plain b) source quality isFinal).records.1, Framed quality r) ∧
      (ofReader (.plain b) source quality isFinal).records.2.stats =
        { bytesRead := b.length
          records := tally .record pieces
          chunksDiscarded := tally .malformed pieces
          qualityRejected := tally .unwanted pieces
          heartbeats := tally .heartbeat pieces + tally .incompleteHeartbeat pieces
          truncated := tally .incomplete pieces + tally .incompleteHeartbeat pieces
          ioErrors := 0 } := by
  have hlive : (ofReader (.plain b) source quality isFinal).Live :=
    ⟨rfl, rfl, Reader.plain_steady b⟩
  obtain ⟨pieces, htiles, hrecords, hstats⟩ := hlive.run
  have htiled : Tiles quality b pieces := htiles
  refine ⟨pieces, htiled, ?_, hrecords, ?_, ?_⟩
  · rintro before x after rfl
    exact ⟨htiled.aligned, htiled.last⟩
  · rw [hrecords]
    exact htiled.framed
  · rw [hstats, totals_eq, htiled.joined]
    exact FramingStats.zero_add _

end SeedStream
