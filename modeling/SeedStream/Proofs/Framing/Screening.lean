import SeedStream.Proofs.Framing.Concatenation
import SeedStream.Proofs.Record.Heads

/-!
# Records that are dropped

A record of a quality that is not wanted is dropped chunk by chunk: its first chunk
counts as rejected, and framing goes on at the next one as at the start of an input.
So a record is put out only where a later chunk would do as the header of one. Of a
stream of written records, those are put out whole that a framer wants, provided that
the others hide nothing behind their first chunks.
-/

set_option autoImplicit false

namespace SeedStream

namespace Bytes

def chunk (b : Bytes) (k : Nat) : Bytes := (b.drop (k * Header.frameSize)).take Header.frameSize

/-- No chunk is taken for the header of a record, and none for that of a heartbeat which
would not end with the input. -/
def Inert (quality : QualityFilter) (b : Bytes) : Prop :=
  ∀ k, k * Header.frameSize < b.length →
    (∀ n, ChunkKind.screen quality (b.chunk k) ≠ .record n) ∧
      ∀ n, ChunkKind.screen quality (b.chunk k) = .heartbeat n →
        k * Header.frameSize + n ≤ b.length

/-- The first chunk is dropped alone. -/
def Lone (quality : QualityFilter) (b : Bytes) : Prop :=
  ChunkKind.screen quality (b.chunk 0) = .heartbeat Header.frameSize ∨
    ChunkKind.screen quality (b.chunk 0) = .unwanted ∨
      ChunkKind.screen quality (b.chunk 0) = .malformed

/-- A record that is taken whole, or of which nothing but the first chunk can matter. -/
def Clear (quality : QualityFilter) (b : Bytes) : Prop :=
  ChunkKind.screen quality (b.chunk 0) = .record b.length ∨
    ChunkKind.screen quality (b.chunk 0) = .heartbeat b.length ∨
      Inert quality (b.drop Header.frameSize)

variable {quality : QualityFilter} {b : Bytes}

theorem chunk_zero (b : Bytes) : b.chunk 0 = b.take Header.frameSize := by
  rw [Bytes.chunk, Nat.zero_mul, List.drop_zero]

theorem Lone.inert (h : Lone quality b) (hclear : Clear quality b) :
    Inert quality (b.drop Header.frameSize) := by
  unfold Lone at h
  rcases hclear with hs | hs | hinert
  · rw [hs] at h
    simp at h
  · rw [hs] at h
    have hlen : b.length = Header.frameSize := by simpa using h
    rw [List.drop_eq_nil_of_le (Nat.le_of_eq hlen)]
    intro k hk
    exact absurd hk (Nat.not_lt_zero _)
  · exact hinert

theorem chunk_drop (b : Bytes) (k : Nat) : chunk (b.drop Header.frameSize) k = b.chunk (k + 1) := by
  rw [Bytes.chunk, Bytes.chunk, List.drop_drop, Nat.succ_mul, Nat.add_comm]

end Bytes

open Bytes

variable {quality : QualityFilter} {input b : Bytes} {pieces : List Piece} {x : Piece}

theorem Tiles.leads (h : Tiles quality input pieces) (hx : x ∈ pieces) :
    ∃ k, k * Header.frameSize < input.length ∧
      x = Piece.leading quality (input.drop (k * Header.frameSize)) := by
  obtain ⟨before, after, rfl⟩ := List.append_of_mem hx
  obtain ⟨k, hk⟩ := h.aligned
  rw [Nat.mul_comm] at hk
  have hrest : Tiles quality ((x :: after).flatMap Piece.bytes) (x :: after) :=
    ⟨rfl, fun y hy => h.sound y (List.mem_append_right _ hy),
      (List.pairwise_append.1 h.whole).2.1⟩
  have hdrop : input.drop (k * Header.frameSize) = (x :: after).flatMap Piece.bytes := by
    rw [← h.joined, List.flatMap_append, ← hk, List.drop_left]
  refine ⟨k, ?_, by rw [hdrop]; exact hrest.uncons_leading⟩
  have hpos := List.length_pos_iff.2 (h.sound x hx).ne_nil
  rw [← h.joined, List.flatMap_append, List.length_append, hk, List.flatMap_cons,
    List.length_append]
  omega

namespace Piece

/-- A leading record is one that the first chunk is the header of. -/
theorem screen_of_leading (h : (leading quality b).kind = .record) :
    ∃ n, n ≤ b.length ∧ ChunkKind.screen quality (b.take Header.frameSize) = .record n ∧
      (leading quality b).bytes = b.take n := by
  unfold leading at h ⊢
  split at h
  next => cases h
  next hlong =>
    rw [if_neg hlong]
    split at h
    next => split at h <;> cases h
    next => cases h
    next => cases h
    next n hscreen =>
      rw [hscreen]
      split at h
      next hfit => exact ⟨n, hfit, rfl, by simp only [if_pos hfit]⟩
      next => cases h

/-- Where no record and no overlong heartbeat begins, the leading piece is dropped whole. -/
theorem leading_inert (hlong : Header.frameSize ≤ b.length)
    (hrecord : ∀ n, ChunkKind.screen quality (b.take Header.frameSize) ≠ .record n)
    (hbeat : ∀ n, ChunkKind.screen quality (b.take Header.frameSize) = .heartbeat n →
      n ≤ b.length) :
    (leading quality b).kind ≠ .record ∧ ¬ (leading quality b).IsPartial := by
  rw [leading, if_neg (Nat.not_lt.2 hlong)]
  split
  next n hscreen =>
    rw [if_pos (hbeat n hscreen)]
    simp [IsPartial]
  next => simp [IsPartial]
  next => simp [IsPartial]
  next n hscreen => exact absurd hscreen (hrecord n)

theorem leading_whole (hlong : Header.frameSize ≤ b.length)
    (hscreen : ChunkKind.screen quality (b.take Header.frameSize) = .record b.length) :
    leading quality b = ⟨.record, b⟩ := by
  simp [leading, Nat.not_lt.2 hlong, hscreen]

theorem leading_beat (hlong : Header.frameSize ≤ b.length)
    (hscreen : ChunkKind.screen quality (b.take Header.frameSize) = .heartbeat b.length) :
    leading quality b = ⟨.heartbeat, b⟩ := by
  simp [leading, Nat.not_lt.2 hlong, hscreen]

theorem leading_unwanted (hlong : Header.frameSize ≤ b.length)
    (hscreen : ChunkKind.screen quality (b.take Header.frameSize) = .unwanted) :
    leading quality b = ⟨.unwanted, b.take Header.frameSize⟩ := by
  simp only [leading, Nat.not_lt.2 hlong, hscreen, if_false]

theorem leading_lone (hlong : Header.frameSize ≤ b.length) (hlone : Lone quality b) :
    ∃ kind, kind ≠ .record ∧ ¬ IsPartial ⟨kind, b.take Header.frameSize⟩ ∧
      leading quality b = ⟨kind, b.take Header.frameSize⟩ := by
  rw [Lone, chunk_zero] at hlone
  rcases hlone with hs | hs | hs
  · refine ⟨.heartbeat, by decide, by simp [IsPartial], ?_⟩
    simp only [leading, Nat.not_lt.2 hlong, hs, if_false, if_pos hlong]
  · exact ⟨.unwanted, by decide, by simp [IsPartial], leading_unwanted hlong hs⟩
  · refine ⟨.malformed, by decide, by simp [IsPartial], ?_⟩
    simp only [leading, Nat.not_lt.2 hlong, hs, if_false]

end Piece

theorem exists_tiles_cons (quality : QualityFilter) (hb : b ≠ []) : ∃ pieces,
    Tiles quality b (Piece.leading quality b :: pieces) ∧
      Tiles quality (b.drop (Piece.leading quality b).bytes.length) pieces := by
  obtain ⟨pieces, h⟩ := Framer.exists_tiles quality b
  cases pieces with
  | nil => exact absurd (h.eq_nil_iff.1 rfl) hb
  | cons x pieces =>
    obtain rfl := h.uncons_leading
    obtain ⟨-, -, hinput, hrest⟩ := h.uncons
    refine ⟨pieces, h, ?_⟩
    have hdrop : b.drop (Piece.leading quality b).bytes.length = pieces.flatMap Piece.bytes :=
      (congrArg (List.drop _) hinput).trans List.drop_left
    rw [hdrop]
    exact hrest

theorem tiles_whole {kind : PieceKind} (hb : b ≠ [])
    (hlead : Piece.leading quality b = ⟨kind, b⟩) :
    Tiles quality b [⟨kind, b⟩] := by
  obtain ⟨pieces, htiles, hrest⟩ := exists_tiles_cons quality hb
  rw [hlead] at htiles hrest
  rwa [hrest.eq_nil_iff.2 (List.drop_length ..)] at htiles

theorem tiles_lone {kind : PieceKind} (hlong : Header.frameSize ≤ b.length)
    (hlead : Piece.leading quality b = ⟨kind, b.take Header.frameSize⟩) : ∃ pieces,
    Tiles quality b (⟨kind, b.take Header.frameSize⟩ :: pieces) ∧
      Tiles quality (b.drop Header.frameSize) pieces := by
  have hne : b ≠ [] := List.ne_nil_of_length_pos (Nat.lt_of_lt_of_le (by decide) hlong)
  obtain ⟨pieces, htiles, hrest⟩ := exists_tiles_cons quality hne
  rw [hlead] at htiles hrest
  rw [List.length_take, Nat.min_eq_left hlong] at hrest
  exact ⟨pieces, htiles, hrest⟩

theorem Tiles.of_inert (h : Tiles quality input pieces) (hdvd : Header.frameSize ∣ input.length)
    (hinert : Inert quality input) : ∀ x ∈ pieces, x.kind ≠ .record ∧ ¬ x.IsPartial := by
  intro x hx
  obtain ⟨k, hk, rfl⟩ := h.leads hx
  obtain ⟨hrecord, hbeat⟩ := hinert k hk
  have hlong : Header.frameSize ≤ (input.drop (k * Header.frameSize)).length := by
    obtain ⟨m, hm⟩ := hdvd
    rw [List.length_drop, hm]
    rw [hm, Nat.mul_comm] at hk
    have hkm : k + 1 ≤ m := Nat.lt_of_mul_lt_mul_left hk
    have := Nat.mul_le_mul_left Header.frameSize hkm
    rw [Nat.mul_succ, Nat.mul_comm] at this
    omega
  apply Piece.leading_inert hlong hrecord
  intro n hn
  have := hbeat n hn
  rw [List.length_drop]
  omega

theorem Tiles.screened (h : Tiles quality input pieces) {source : Nat} {r : RawRecord}
    (hr : r ∈ recordsOf source pieces) : ∃ k n, k * Header.frameSize + n ≤ input.length ∧
      ChunkKind.screen quality (input.chunk k) = .record n ∧
      r.bytes = (input.drop (k * Header.frameSize)).take n := by
  obtain ⟨x, hx, rfl⟩ := List.mem_map.1 hr
  obtain ⟨hmem, hkind⟩ := List.mem_filter.1 hx
  obtain ⟨k, hk, rfl⟩ := h.leads hmem
  obtain ⟨n, hfit, hscreen, hbytes⟩ := Piece.screen_of_leading (by simpa using hkind)
  rw [List.length_drop] at hfit
  exact ⟨k, n, by omega, hscreen, hbytes⟩

namespace Draft.Headed

variable {d : Draft} {t : BinaryTime} {factor multiplier : Int16} {count exponent n : Nat}
  {calibration : Bytes} (h : d.Headed t factor multiplier count exponent calibration b)
include h

theorem quality_chunk : (b.take Header.frameSize).getD ChunkKind.qualityOffset 0 = d.quality := by
  rw [List.getD_eq_getElem?_getD]
  exact congrArg (Option.getD · 0) h.located_chunk.quality.getElem?

theorem screen_cases (quality : QualityFilter) :
    (ChunkKind.screen quality (b.chunk 0) = .record b.length ∧
      quality.accepts d.quality = true) ∨
      ChunkKind.screen quality (b.chunk 0) = .heartbeat b.length ∨ Lone quality b := by
  rw [Lone, chunk_zero]
  by_cases hb : Header.isHeartbeatBytes (b.take Header.frameSize) = true
  · cases hc : Header.crackLength (b.take Header.frameSize) with
    | error e => exact .inr (.inr (.inl (ChunkKind.screen_unsized hb hc)))
    | ok n =>
      rw [h.eq_of_crackLength hc] at hc
      exact .inr (.inl (ChunkKind.screen_heartbeat hb hc))
  · by_cases hq : quality.accepts d.quality = true
    · rw [← h.quality_chunk] at hq
      cases hc : Header.crackLength (b.take Header.frameSize) with
      | error e => exact .inr (.inr (.inr (.inr (ChunkKind.screen_malformed hb hq hc))))
      | ok n =>
        rw [h.eq_of_crackLength hc] at hc
        exact .inl ⟨ChunkKind.screen_record hb hq hc, h.quality_chunk ▸ hq⟩
    · rw [← h.quality_chunk] at hq
      exact .inr (.inr (.inr (.inl (ChunkKind.screen_unwanted hb hq))))

/-- The pieces of a record that is clear: none is partial, and a record among them is
the whole. -/
theorem exists_tiles (hclear : Clear quality b) (source : Nat) : ∃ pieces,
    Tiles quality b pieces ∧ (∀ x ∈ pieces, ¬ x.IsPartial) ∧
      recordsOf source pieces =
        if ChunkKind.screen quality (b.chunk 0) = .record b.length then [⟨source, b⟩]
        else [] := by
  have hlong := h.isLength.le
  have hne : b ≠ [] := List.ne_nil_of_length_pos (Nat.lt_of_lt_of_le (by decide) hlong)
  rcases h.screen_cases quality with ⟨hs, -⟩ | hs | hlone
  · exact ⟨[⟨.record, b⟩], tiles_whole hne (Piece.leading_whole hlong (chunk_zero b ▸ hs)),
      by simp [Piece.IsPartial], by simp [recordsOf, hs]⟩
  · exact ⟨[⟨.heartbeat, b⟩],
      tiles_whole hne (Piece.leading_beat hlong (chunk_zero b ▸ hs)), by simp [Piece.IsPartial],
      by simp [recordsOf, hs]⟩
  · obtain ⟨kind, hkind, hpartial, hlead⟩ := Piece.leading_lone hlong hlone
    obtain ⟨pieces, htiles, hrest⟩ := tiles_lone hlong hlead
    have hdvd : Header.frameSize ∣ (b.drop Header.frameSize).length := by
      rw [List.length_drop]
      exact Nat.dvd_sub h.isLength.dvd (Nat.dvd_refl _)
    have hinert := hrest.of_inert hdvd (hlone.inert hclear)
    refine ⟨_, htiles, ?_, ?_⟩
    · exact List.forall_mem_cons.2 ⟨hpartial, fun x hx => (hinert x hx).2⟩
    · have hnone : ChunkKind.screen quality (b.chunk 0) ≠ .record b.length := by
        rcases hlone with hs | hs | hs <;> simp [hs]
      have hfilter : pieces.filter (fun x => x.kind == .record) = [] := by
        rw [List.filter_eq_nil_iff]
        intro x hx
        simpa using (hinert x hx).1
      rw [if_neg hnone, recordsOf, List.filter_cons_of_neg (by simpa using hkind), hfilter]
      rfl

theorem accepts_of_screen (hscreen : ChunkKind.screen quality (b.chunk 0) = .record n) :
    quality.accepts d.quality = true := by
  rcases h.screen_cases quality with ⟨-, hq⟩ | hs | hlone
  · exact hq
  · cases hscreen.symm.trans hs
  · rw [Lone, hscreen] at hlone
    simp at hlone

theorem screen_unwanted (hq : quality.accepts d.quality = false)
    (hb : Header.isHeartbeatBytes b = false) :
    ChunkKind.screen quality (b.take Header.frameSize) = .unwanted := by
  apply ChunkKind.screen_unwanted
  · rw [Header.isHeartbeatBytes_take b (by decide), hb]
    exact Bool.false_ne_true
  · rw [h.quality_chunk, hq]
    exact Bool.false_ne_true

end Draft.Headed

namespace Framer

theorem exists_tiles_flatten {records : List Bytes}
    (hall : ∀ b ∈ records,
      (∃ (d : Draft) (samples : List Int32), d.encode samples = .ok b) ∧
      Clear quality b) (source : Nat) : ∃ pieces,
    Tiles quality records.flatten pieces ∧ (∀ x ∈ pieces, ¬ x.IsPartial) ∧
      recordsOf source pieces = (records.filter fun b =>
        ChunkKind.screen quality (b.chunk 0) = .record b.length).map (⟨source, ·⟩) := by
  induction records with
  | nil => exact ⟨[], .nil, by simp, rfl⟩
  | cons b records ih =>
    obtain ⟨⟨⟨d, samples, hb⟩, hclear⟩, hrest⟩ := List.forall_mem_cons.1 hall
    obtain ⟨t, factor, multiplier, exponent, calibration, hheaded⟩ := Draft.headed_of_encode hb
    obtain ⟨pieces, htiles, hwhole, hrecords⟩ := hheaded.exists_tiles hclear source
    obtain ⟨others, hothers, hwhole', hrecords'⟩ := ih hrest
    refine ⟨pieces ++ others, htiles.append hwhole hothers, ?_, ?_⟩
    · intro x hx
      exact (List.mem_append.1 hx).elim (hwhole x) (hwhole' x)
    · rw [recordsOf_append, hrecords, hrecords', List.filter_cons]
      by_cases hs : ChunkKind.screen quality (b.chunk 0) = .record b.length <;> simp [hs]

variable {d : Draft} {samples : List Int32} {r : RawRecord}

/-- A record that is not wanted is framed as its first chunk and what follows that. -/
theorem records_rejected (henc : d.encode samples = .ok b) (hq : quality.accepts d.quality = false)
    (hb : Header.isHeartbeatBytes b = false) (source : Nat) (isFinal : Bool) :
    let framed := fun c : Bytes => (ofReader (.plain c) source quality isFinal).records
    (framed b).1 = (framed (b.drop Header.frameSize)).1 ∧
      (framed b).2.stats =
        FramingStats.add { bytesRead := Header.frameSize, qualityRejected := 1 }
          (framed (b.drop Header.frameSize)).2.stats := by
  obtain ⟨t, factor, multiplier, exponent, calibration, hheaded⟩ := Draft.headed_of_encode henc
  have hlong : Header.frameSize ≤ b.length := hheaded.isLength.le
  obtain ⟨pieces, htiles, hrest⟩ :=
    tiles_lone hlong (Piece.leading_unwanted hlong (hheaded.screen_unwanted hq hb))
  obtain ⟨hrecords, hstats⟩ := records_of_tiles htiles source isFinal
  obtain ⟨hrecords', hstats'⟩ := records_of_tiles hrest source isFinal
  have hcounts : Piece.counts ⟨.unwanted, b.take Header.frameSize⟩ =
      { bytesRead := Header.frameSize, qualityRejected := 1 } := by
    rw [Piece.counts, List.length_take, Nat.min_eq_left hlong]
  refine ⟨hrecords.trans hrecords'.symm, hstats.trans ?_⟩
  rw [hstats', totals, List.foldr_cons, hcounts]
  rfl

theorem screened_of_mem {source : Nat} {isFinal : Bool}
    (hr : r ∈ (ofReader (.plain b) source quality isFinal).records.1) :
    ∃ k n, k * Header.frameSize + n ≤ b.length ∧
      ChunkKind.screen quality (b.chunk k) = .record n ∧
      r.bytes = (b.drop (k * Header.frameSize)).take n := by
  obtain ⟨pieces, htiles⟩ := exists_tiles quality b
  rw [(records_of_tiles htiles source isFinal).1] at hr
  exact htiles.screened hr

/-- Of a record that is not wanted, what is put out lies behind its first chunk. -/
theorem screened_of_rejected (henc : d.encode samples = .ok b)
    (hq : quality.accepts d.quality = false) (hb : Header.isHeartbeatBytes b = false)
    {source : Nat} {isFinal : Bool}
    (hr : r ∈ (ofReader (.plain b) source quality isFinal).records.1) :
    ∃ k n, 0 < k ∧ k * Header.frameSize + n ≤ b.length ∧
      ChunkKind.screen quality (b.chunk k) = .record n ∧
      r.bytes = (b.drop (k * Header.frameSize)).take n := by
  have hsame := (records_rejected henc hq hb source isFinal).1
  obtain ⟨t, factor, multiplier, exponent, calibration, hheaded⟩ := Draft.headed_of_encode henc
  have hlong : Header.frameSize ≤ b.length := hheaded.isLength.le
  obtain ⟨k, n, hfit, hscreen, hbytes⟩ := screened_of_mem (hsame ▸ hr)
  rw [chunk_drop] at hscreen
  rw [List.length_drop] at hfit
  rw [List.drop_drop, Nat.add_comm, ← Nat.succ_mul] at hbytes
  refine ⟨k + 1, n, Nat.succ_pos k, ?_, hscreen, hbytes⟩
  rw [Nat.succ_mul]
  omega

/-- Of a stream of records that are clear, those are put out whose first chunk is taken for
the header of all of them, and nothing is left over. -/
theorem records_clear {records : List Bytes}
    (hall : ∀ b ∈ records,
      (∃ (d : Draft) (samples : List Int32), d.encode samples = .ok b) ∧
      Clear quality b) (source : Nat) (isFinal : Bool) :
    let framed := (ofReader (.plain records.flatten) source quality isFinal).records
    framed.1 = (records.filter fun b =>
        ChunkKind.screen quality (b.chunk 0) = .record b.length).map (⟨source, ·⟩) ∧
      framed.2.stats.truncated = 0 := by
  obtain ⟨pieces, htiles, hwhole, hpieces⟩ := exists_tiles_flatten hall source
  obtain ⟨hrecords, hstats⟩ := records_of_tiles htiles source isFinal
  exact ⟨hrecords.trans hpieces, (congrArg FramingStats.truncated hstats).trans
    ((truncated_eq_zero_iff pieces).2 hwhole)⟩

/-- A record of a draft whose quality is not wanted, and which is no heartbeat, is framed as
its first chunk, which is rejected, and then as an input from its next chunk on: a record is
put out only where a later chunk is the header of one, and none if there is no such chunk.
Of a stream of records of drafts that are taken whole or hide nothing behind their first
chunks, those are put out that are wanted and announce their length. -/
theorem records_of_drafts (quality : QualityFilter) (source : Nat) (isFinal : Bool) :
    let framed := fun c : Bytes => (ofReader (.plain c) source quality isFinal).records
    (∀ (d : Draft) (samples : List Int32) (b : Bytes), d.encode samples = .ok b →
      quality.accepts d.quality = false → Header.isHeartbeatBytes b = false →
        (framed b).1 = (framed (b.drop Header.frameSize)).1 ∧
        (framed b).2.stats =
          FramingStats.add { bytesRead := Header.frameSize, qualityRejected := 1 }
            (framed (b.drop Header.frameSize)).2.stats ∧
        (∀ r ∈ (framed b).1, ∃ k n, 0 < k ∧ k * Header.frameSize + n ≤ b.length ∧
          ChunkKind.screen quality (b.chunk k) = .record n ∧
          r.bytes = (b.drop (k * Header.frameSize)).take n) ∧
        ((∀ k n, 0 < k → ChunkKind.screen quality (b.chunk k) ≠ .record n) →
          (framed b).1 = [])) ∧
    ∀ records : List Bytes,
      (∀ b ∈ records, (∃ (d : Draft) (samples : List Int32), d.encode samples = .ok b) ∧
        Clear quality b) →
      (framed records.flatten).1 = (records.filter fun b =>
        ChunkKind.screen quality (b.chunk 0) = .record b.length).map (⟨source, ·⟩) ∧
      (framed records.flatten).2.stats.truncated = 0 ∧
      ∀ r ∈ (framed records.flatten).1, r.bytes ∈ records ∧
        ∀ (d : Draft) (samples : List Int32), d.encode samples = .ok r.bytes →
          quality.accepts d.quality = true := by
  intro framed
  constructor
  · intro d samples b henc hq hb
    obtain ⟨hsame, hstats⟩ := records_rejected henc hq hb source isFinal
    have hplace := fun r (hr : r ∈ (framed b).1) => screened_of_rejected henc hq hb hr
    refine ⟨hsame, hstats, hplace, ?_⟩
    intro hnone
    apply List.eq_nil_iff_forall_not_mem.2
    intro r hr
    obtain ⟨k, n, hk, -, hscreen, -⟩ := hplace r hr
    exact hnone k n hk hscreen
  · intro records hall
    obtain ⟨hframed, htruncated⟩ := records_clear hall source isFinal
    refine ⟨hframed, htruncated, ?_⟩
    intro r hr
    obtain ⟨b, hb, rfl⟩ := List.mem_map.1 (hframed ▸ hr)
    obtain ⟨hmem, hscreen⟩ := List.mem_filter.1 hb
    refine ⟨hmem, fun d samples henc => ?_⟩
    obtain ⟨t, factor, multiplier, exponent, calibration, hheaded⟩ :=
      Draft.headed_of_encode henc
    exact hheaded.accepts_of_screen (by simpa using hscreen)

end Framer

namespace Draft

def hidden : Bytes :=
  ({ longPeriod with length := 256 }.encode []).toOption.getD []

def rejected : Draft := { longPeriod with quality := 77 }

/-- Samples whose words are zeros up to the second chunk and a record in it. -/
def disguise : List Int32 :=
  List.replicate 48 0 ++ (RawInteger.words 4 64 hidden).map (RawInteger.sample .big 4)

end Draft

namespace Framer

/-- A rejected record without a header in its payload, alone and before a record that is wanted. -/
theorem records_of_drafts_rejected :
    ∃ a b : Bytes, Draft.rejected.encode [1, 2, 3] = .ok a ∧
      (QualityFilter.only [68]).accepts Draft.rejected.quality = false ∧
      Header.isHeartbeatBytes a = false ∧
      (ofReader (.plain a) 0 (.only [68]) true).records.1 = [] ∧
      (ofReader (.plain (a ++ b)) 0 (.only [68]) true).records.1 = [⟨0, b⟩] := by
  let a := (Draft.rejected.encode [1, 2, 3]).toOption.getD []
  have ha : Draft.rejected.encode [1, 2, 3] = .ok a := by decide +kernel
  have hlen : a.length = 512 := by decide +kernel
  have hfirst : ChunkKind.screen (.only [68]) (a.chunk 0) = .unwanted := by decide +kernel
  have hsecond : ChunkKind.screen (.only [68]) (a.chunk 1) = .unwanted := by decide +kernel
  have hwhole : ChunkKind.screen (.only [68]) (Draft.hidden.chunk 0) =
      .record Draft.hidden.length := by decide +kernel
  have hencoded : ∃ (d : Draft) (samples : List Int32), d.encode samples = .ok Draft.hidden :=
    ⟨{ Draft.longPeriod with length := 256 }, [], by decide +kernel⟩
  obtain ⟨halone, hstream⟩ := records_of_drafts (.only [68]) 0 true
  have hsilent : Header.isHeartbeatBytes a = false := by decide +kernel
  obtain ⟨-, -, -, hnone⟩ := halone Draft.rejected [1, 2, 3] a ha (by decide) hsilent
  have hlater : ∀ k n, 0 < k → ChunkKind.screen (.only [68]) (a.chunk k) ≠ .record n := by
    intro k n hk
    rcases (show k = 1 ∨ 2 ≤ k by omega) with rfl | hbehind
    · simp [hsecond]
    · have hnil : a.chunk k = [] := by
        rw [Bytes.chunk, List.drop_eq_nil_of_le (by rw [hlen, Header.frameSize]; omega),
          List.take_nil]
      have hend : ChunkKind.screen (.only [68]) [] = .unwanted := by decide
      simp [hnil, hend]
  have hclear : Clear (.only [68]) a := by
    refine .inr (.inr fun k hk => ?_)
    rw [List.length_drop, hlen, Header.frameSize] at hk
    obtain rfl : k = 0 := by omega
    simp [chunk_drop, hsecond]
  obtain ⟨hframed, -, -⟩ := hstream [a, Draft.hidden] (by
    simp only [List.forall_mem_cons, List.not_mem_nil, false_implies, implies_true, and_true]
    exact ⟨⟨⟨_, _, ha⟩, hclear⟩, hencoded, .inl hwhole⟩)
  refine ⟨a, Draft.hidden, ha, by decide, hsilent, hnone hlater, ?_⟩
  simpa [hfirst, hwhole] using hframed

/-- The samples of a record that is not wanted may hide one that is put out. -/
theorem records_rejected_not_empty :
    ¬ ∀ (d : Draft) (samples : List Int32) (b : Bytes) (quality : QualityFilter) (source : Nat)
      (isFinal : Bool), d.encode samples = .ok b → quality.accepts d.quality = false →
        Header.isHeartbeatBytes b = false →
        (ofReader (.plain b) source quality isFinal).records.1 = [] := by
  intro hall
  let b := (Draft.rejected.encode Draft.disguise).toOption.getD []
  have hb : Draft.rejected.encode Draft.disguise = .ok b := by decide +kernel
  have hsilent : Header.isHeartbeatBytes b = false := by decide +kernel
  have hunwanted : Piece.Sound (.only [68]) ⟨.unwanted, b.take 256⟩ := by
    unfold Piece.Sound
    decide +kernel
  have hrecord : Piece.Sound (.only [68]) ⟨.record, Draft.hidden⟩ := by
    unfold Piece.Sound
    decide +kernel
  have htiles : Tiles (.only [68]) (b.take 256 ++ Draft.hidden)
      [⟨.unwanted, b.take 256⟩, ⟨.record, Draft.hidden⟩] :=
    .cons hunwanted (by simp [Piece.IsPartial]) (.singleton hrecord)
  have hjoined : b.take 256 ++ Draft.hidden = b := by decide +kernel
  have hrecords := (records_of_tiles htiles 0 true).1
  rw [hjoined, hall _ _ b (.only [68]) 0 true hb (by decide) hsilent] at hrecords
  cases hrecords

end Framer
end SeedStream
