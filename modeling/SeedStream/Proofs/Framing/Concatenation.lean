import SeedStream.Proofs.Framing.Tiling
import SeedStream.Record.Draft

/-!
# Framing a concatenation

Which piece comes next follows from the bytes that are left, so an input has one
tiling. Whole pieces stay what they are when more input follows, and a partial piece
holds no record. So the records of an input are the first ones of every longer input,
and an input that leaves nothing incomplete is framed apart from what follows it.
-/

set_option autoImplicit false

namespace SeedStream

namespace Piece

def leading (quality : QualityFilter) (b : Bytes) : Piece :=
  if b.length < Header.frameSize then ⟨.incomplete, b⟩
  else match ChunkKind.screen quality (b.take Header.frameSize) with
    | .heartbeat n =>
      if n ≤ b.length then ⟨.heartbeat, b.take n⟩ else ⟨.incompleteHeartbeat, b⟩
    | .unwanted => ⟨.unwanted, b.take Header.frameSize⟩
    | .malformed => ⟨.malformed, b.take Header.frameSize⟩
    | .record n => if n ≤ b.length then ⟨.record, b.take n⟩ else ⟨.incomplete, b⟩

variable {quality : QualityFilter} {x : Piece}

theorem Sound.ne_nil (h : x.Sound quality) : x.bytes ≠ [] := by
  by_cases hp : x.IsPartial
  · obtain ⟨kind, b⟩ := x
    rcases hp with rfl | rfl
    · exact h.1
    · exact List.ne_nil_of_length_pos (Nat.lt_of_lt_of_le (by decide) h.1)
  · exact List.ne_nil_of_length_pos (Nat.lt_of_lt_of_le (by decide) (h.frame_le hp))

theorem Sound.eq_leading (h : x.Sound quality) {rest : Bytes} (hp : x.IsPartial → rest = []) :
    x = leading quality (x.bytes ++ rest) := by
  by_cases hle : Header.frameSize ≤ x.bytes.length
  · have hlong : ¬ (x.bytes ++ rest).length < Header.frameSize := by
      rw [List.length_append]
      omega
    have hchunk : (x.bytes ++ rest).take Header.frameSize = x.chunk :=
      List.take_append_of_le_length hle
    rw [leading, if_neg hlong, hchunk]
    obtain ⟨kind, b⟩ := x
    cases kind with
    | unwanted =>
      obtain ⟨hlen, hb, hq⟩ := h
      rw [ChunkKind.screen_unwanted hb hq]
      exact congrArg (mk .unwanted) (List.take_of_length_le (Nat.le_of_eq hlen)).symm
    | malformed =>
      obtain ⟨hlen, hb, hq, e, hc⟩ := h
      rw [ChunkKind.screen_malformed hb hq hc]
      exact congrArg (mk .malformed) (List.take_of_length_le (Nat.le_of_eq hlen)).symm
    | heartbeat =>
      obtain ⟨hb, hc | ⟨⟨e, hc⟩, hlen⟩⟩ := h
      · simp [ChunkKind.screen_heartbeat hb hc]
      · rw [ChunkKind.screen_unsized hb hc, ← hlen]
        simp
    | record =>
      obtain ⟨hb, hq, hc⟩ := h
      simp [ChunkKind.screen_record hb hq hc]
    | incomplete =>
      obtain ⟨-, hshort | ⟨-, hb, hq, n, hc, hn⟩⟩ := h
      · exact absurd hle (Nat.not_le.2 hshort)
      · simp [ChunkKind.screen_record hb hq hc, hp (.inl rfl), Nat.not_le.2 hn]
    | incompleteHeartbeat =>
      obtain ⟨-, hb, n, hc, hn⟩ := h
      simp [ChunkKind.screen_heartbeat hb hc, hp (.inr rfl), Nat.not_le.2 hn]
  · have hpartial : x.IsPartial := Classical.byContradiction fun hw => hle (h.frame_le hw)
    have hkind : x.kind = .incomplete := by
      obtain ⟨kind, b⟩ := x
      rcases hpartial with hk | rfl
      · exact hk
      · exact absurd h.1 hle
    rw [hp hpartial, List.append_nil, leading, if_pos (Nat.not_le.1 hle), ← hkind]

end Piece

namespace Tiles

variable {quality : QualityFilter} {input a b : Bytes} {pieces others : List Piece} {x : Piece}

theorem uncons (h : Tiles quality input (x :: pieces)) :
    x.Sound quality ∧ (x.IsPartial → pieces = []) ∧
      input = x.bytes ++ pieces.flatMap Piece.bytes ∧
      Tiles quality (pieces.flatMap Piece.bytes) pieces := by
  obtain ⟨hx, hsound⟩ := List.forall_mem_cons.1 h.sound
  have hlast : x.IsPartial → pieces = [] :=
    Tiles.last (show Tiles quality input ([] ++ x :: pieces) from h)
  exact ⟨hx, hlast, h.joined.symm, rfl, hsound, (List.pairwise_cons.1 h.whole).2⟩

theorem uncons_leading (h : Tiles quality input (x :: pieces)) :
    x = Piece.leading quality input := by
  obtain ⟨hx, hlast, hinput, -⟩ := h.uncons
  rw [hinput]
  apply hx.eq_leading
  intro hp
  rw [hlast hp]
  rfl

theorem eq_nil_iff (h : Tiles quality input pieces) : pieces = [] ↔ input = [] := by
  cases pieces with
  | nil => simp [← h.joined]
  | cons x pieces =>
    obtain ⟨hx, -, hinput, -⟩ := h.uncons
    simp [hinput, hx.ne_nil]

theorem unique (h : Tiles quality input pieces) (h' : Tiles quality input others) :
    pieces = others := by
  induction pieces generalizing input others with
  | nil => exact (h'.eq_nil_iff.2 (h.eq_nil_iff.1 rfl)).symm
  | cons x pieces ih =>
    cases others with
    | nil => exact h.eq_nil_iff.2 (h'.eq_nil_iff.1 rfl)
    | cons y others =>
      have hxy : x = y := h.uncons_leading.trans h'.uncons_leading.symm
      subst hxy
      obtain ⟨-, -, hinput, hrest⟩ := h.uncons
      obtain ⟨-, -, hinput', hrest'⟩ := h'.uncons
      have hsame := List.append_cancel_left (hinput.symm.trans hinput')
      rw [ih hrest (hsame ▸ hrest')]

theorem append (h : Tiles quality a pieces) (hw : ∀ x ∈ pieces, ¬ x.IsPartial)
    (h' : Tiles quality b others) : Tiles quality (a ++ b) (pieces ++ others) where
  joined := by rw [List.flatMap_append, h.joined, h'.joined]
  sound x hx := (List.mem_append.1 hx).elim (h.sound x) (h'.sound x)
  whole := List.pairwise_append.2 ⟨h.whole, h'.whole, fun x hx _ _ => hw x hx⟩

end Tiles

theorem totals_append (pieces others : List Piece) :
    totals (pieces ++ others) = (totals pieces).add (totals others) := by
  induction pieces with
  | nil => exact (FramingStats.zero_add _).symm
  | cons x pieces ih => exact (congrArg x.counts.add ih).trans (FramingStats.add_assoc ..).symm

theorem recordsOf_append (source : Nat) (pieces others : List Piece) :
    recordsOf source (pieces ++ others) = recordsOf source pieces ++ recordsOf source others := by
  rw [recordsOf, List.filter_append, List.map_append]
  rfl

theorem truncated_eq_zero_iff (pieces : List Piece) :
    (totals pieces).truncated = 0 ↔ ∀ x ∈ pieces, ¬ x.IsPartial := by
  rw [totals_eq]
  simp only [tally, Nat.add_eq_zero_iff, List.count_eq_zero, List.mem_map, not_exists, not_and,
    ← forall_and, Piece.IsPartial, not_or]

/-- The whole pieces of a tiling hold all of its records, and tile all but the end of the
input. -/
theorem Tiles.exists_whole {quality : QualityFilter} {input : Bytes} {pieces : List Piece}
    (h : Tiles quality input pieces) : ∃ whole front rest, input = front ++ rest ∧
      Tiles quality front whole ∧ (∀ x ∈ whole, ¬ x.IsPartial) ∧
      ∀ source, recordsOf source whole = recordsOf source pieces := by
  by_cases hw : ∀ x ∈ pieces, ¬ x.IsPartial
  · exact ⟨pieces, input, [], (List.append_nil _).symm, h, hw, fun _ => rfl⟩
  · simp only [not_forall, not_not] at hw
    obtain ⟨x, hx, hp⟩ := hw
    obtain ⟨before, after, rfl⟩ := List.append_of_mem hx
    cases h.last hp
    obtain ⟨hbefore, -, hwhole⟩ := List.pairwise_append.1 h.whole
    refine ⟨before, before.flatMap Piece.bytes, x.bytes, ?_, ⟨rfl, ?_, hbefore⟩, ?_, ?_⟩
    · rw [← h.joined, List.flatMap_append, List.flatMap_singleton]
    · exact fun y hy => h.sound y (List.mem_append_left _ hy)
    · exact fun y hy => hwhole y hy x List.mem_cons_self
    · intro source
      have hnone : recordsOf source [x] = [] := by
        simp [recordsOf, Piece.isPartial_ne_record hp]
      rw [recordsOf_append, hnone, List.append_nil]

namespace Framer

theorem exists_tiles (quality : QualityFilter) (b : Bytes) :
    ∃ pieces, Tiles quality b pieces := by
  obtain ⟨pieces, htiles, -, -⟩ := (plain_live b 0 quality false).run
  exact ⟨pieces, htiles⟩

theorem records_of_tiles {quality : QualityFilter} {b : Bytes} {pieces : List Piece}
    (h : Tiles quality b pieces) (source : Nat) (isFinal : Bool) :
    (ofReader (.plain b) source quality isFinal).records.1 = recordsOf source pieces ∧
      (ofReader (.plain b) source quality isFinal).records.2.stats = totals pieces := by
  obtain ⟨others, htiles, hrecords, hstats⟩ := (plain_live b source quality isFinal).run
  rw [h.unique htiles]
  exact ⟨hrecords, hstats.trans (FramingStats.zero_add _)⟩

/-- The records of an input come first among those of every longer input. Where framing
the first part leaves nothing incomplete, the two parts are framed one after the other. -/
theorem records_concatenate (a b : Bytes) (source : Nat) (quality : QualityFilter)
    (isFinal : Bool) :
    let framed := fun c : Bytes => (ofReader (.plain c) source quality isFinal).records
    (framed a).1 <+: (framed (a ++ b)).1 ∧
      ((framed a).2.stats.truncated = 0 →
        (framed (a ++ b)).1 = (framed a).1 ++ (framed b).1 ∧
        (framed (a ++ b)).2.stats = (framed a).2.stats.add (framed b).2.stats) := by
  intro framed
  obtain ⟨pieces, htiles⟩ := exists_tiles quality a
  obtain ⟨hrecords, hstats⟩ := records_of_tiles htiles source isFinal
  simp only [framed, hrecords, hstats]
  constructor
  · obtain ⟨whole, front, rest, rfl, hfront, hwhole, hsame⟩ := htiles.exists_whole
    obtain ⟨tail, htail⟩ := exists_tiles quality (rest ++ b)
    have hjoined := hfront.append hwhole htail
    rw [← List.append_assoc] at hjoined
    rw [(records_of_tiles hjoined source isFinal).1, recordsOf_append, hsame]
    exact List.prefix_append _ _
  · intro hnone
    obtain ⟨tail, htail⟩ := exists_tiles quality b
    have hjoined := htiles.append ((truncated_eq_zero_iff pieces).1 hnone) htail
    obtain ⟨hjoinedRecords, hjoinedStats⟩ := records_of_tiles hjoined source isFinal
    obtain ⟨htailRecords, htailStats⟩ := records_of_tiles htail source isFinal
    rw [hjoinedRecords, hjoinedStats, htailRecords, htailStats]
    exact ⟨recordsOf_append source pieces tail, totals_append pieces tail⟩

/-- A chunk that is not wanted, a heartbeat of two chunks and a record, with a record and
one byte behind them. -/
theorem records_concatenate_of_heartbeat :
    ∃ r : Bytes,
      Draft.longPeriod.encode [1, 2, 3] = .ok r ∧
      let a := List.replicate 256 0 ++
        (List.replicate 6 48 ++ List.replicate 14 Header.blank ++ r.drop 20 ++ r)
      let framed := fun c : Bytes => (ofReader (.plain c) 0 .standard true).records
      (framed a).1 = [⟨0, r⟩] ∧
      (framed a).2.stats =
        { bytesRead := 1280, records := 1, qualityRejected := 1, heartbeats := 1 } ∧
      (framed (a ++ (r ++ [0]))).1 = (framed a).1 ++ (framed (r ++ [0])).1 ∧
      (framed (a ++ (r ++ [0]))).2.stats = (framed a).2.stats.add (framed (r ++ [0])).2.stats := by
  let d := Draft.longPeriod
  let r := (d.encode [1, 2, 3]).toOption.getD []
  let beat := List.replicate 6 48 ++ List.replicate 14 Header.blank ++ r.drop 20
  have hunwanted : Piece.Sound .standard ⟨.unwanted, List.replicate 256 0⟩ := by
    unfold Piece.Sound
    decide +kernel
  have hbeat : Piece.Sound .standard ⟨.heartbeat, beat⟩ :=
    ⟨by decide +kernel, .inl (by decide +kernel)⟩
  have hrecord : Piece.Sound .standard ⟨.record, r⟩ := by
    unfold Piece.Sound
    decide +kernel
  have htiles : Tiles .standard (List.replicate 256 0 ++ (beat ++ r))
      [⟨.unwanted, List.replicate 256 0⟩, ⟨.heartbeat, beat⟩, ⟨.record, r⟩] :=
    .cons hunwanted (by simp [Piece.IsPartial])
      (.cons hbeat (by simp [Piece.IsPartial]) (.singleton hrecord))
  obtain ⟨hrecords, hstats⟩ := records_of_tiles htiles 0 true
  have hcounts :
      totals [⟨.unwanted, List.replicate 256 0⟩, ⟨.heartbeat, beat⟩, ⟨.record, r⟩] =
      { bytesRead := 1280, records := 1, qualityRejected := 1, heartbeats := 1 } := by
    decide +kernel
  rw [hcounts] at hstats
  obtain ⟨-, happend⟩ :=
    records_concatenate (List.replicate 256 0 ++ (beat ++ r)) (r ++ [0]) 0 .standard true
  exact ⟨r, by decide +kernel, hrecords, hstats,
    happend (congrArg FramingStats.truncated hstats)⟩

end Framer
end SeedStream
