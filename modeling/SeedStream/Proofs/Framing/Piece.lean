import SeedStream.Framing.Framer
import SeedStream.Proofs.Framing.Stopping
import SeedStream.Proofs.Record.Length

/-!
# A step of a framer

A framer at a steady reader takes its input piece by piece. A step looks at the
next chunk and takes the piece that this chunk begins: what the piece is, how
long it is and what is counted follow from its bytes. If the input ends inside a
piece, all that is left is taken.
-/

set_option autoImplicit false

namespace SeedStream

inductive PieceKind
  /-- A chunk of a quality that is not wanted. -/
  | unwanted
  | malformed
  | heartbeat
  | record
  | incomplete
  /-- The start of a heartbeat of more than one chunk, at the end of the input. -/
  | incompleteHeartbeat
deriving DecidableEq, Repr

/-- Consecutive bytes of an input, and what a framer takes them for. -/
structure Piece where
  kind : PieceKind
  bytes : Bytes

namespace Piece

def IsPartial (x : Piece) : Prop := x.kind = .incomplete ∨ x.kind = .incompleteHeartbeat

def chunk (x : Piece) : Bytes := x.bytes.take Header.frameSize

def Sound (quality : QualityFilter) (x : Piece) : Prop :=
  let beats := Header.isHeartbeatBytes x.chunk = true
  let wanted := quality.accepts (x.chunk.getD ChunkKind.qualityOffset 0) = true
  match x.kind with
  | .unwanted => x.bytes.length = Header.frameSize ∧ ¬ beats ∧ ¬ wanted
  | .malformed => x.bytes.length = Header.frameSize ∧ ¬ beats ∧ wanted ∧
      ∃ e, Header.crackLength x.chunk = .error e
  | .heartbeat => beats ∧
      (Header.crackLength x.chunk = .ok x.bytes.length ∨
        (∃ e, Header.crackLength x.chunk = .error e) ∧ x.bytes.length = Header.frameSize)
  | .record => ¬ beats ∧ wanted ∧ Header.crackLength x.chunk = .ok x.bytes.length
  | .incomplete => x.bytes ≠ [] ∧
      (x.bytes.length < Header.frameSize ∨
        Header.frameSize ≤ x.bytes.length ∧ ¬ beats ∧ wanted ∧
          ∃ n, Header.crackLength x.chunk = .ok n ∧ x.bytes.length < n)
  | .incompleteHeartbeat => Header.frameSize ≤ x.bytes.length ∧ beats ∧
      ∃ n, Header.crackLength x.chunk = .ok n ∧ x.bytes.length < n

def counts (x : Piece) : FramingStats :=
  let read : FramingStats := { bytesRead := x.bytes.length }
  match x.kind with
  | .unwanted => { read with qualityRejected := 1 }
  | .malformed => { read with chunksDiscarded := 1 }
  | .heartbeat => { read with heartbeats := 1 }
  | .record => { read with records := 1 }
  | .incomplete => { read with truncated := 1 }
  | .incompleteHeartbeat => { read with heartbeats := 1, truncated := 1 }

variable {quality : QualityFilter} {x : Piece}

theorem Sound.aligned (h : x.Sound quality) (hp : ¬ x.IsPartial) :
    Header.frameSize ∣ x.bytes.length := by
  obtain ⟨kind, b⟩ := x
  cases kind with
  | unwanted => rw [h.1]
  | malformed => rw [h.1]
  | heartbeat =>
    rcases h.2 with hn | ⟨-, hn⟩
    · exact (Header.crackLength_isLength hn).dvd
    · rw [hn]
  | record => exact (Header.crackLength_isLength h.2.2).dvd
  | incomplete => exact absurd (Or.inl rfl) hp
  | incompleteHeartbeat => exact absurd (Or.inr rfl) hp

theorem Sound.frame_le (h : x.Sound quality) (hp : ¬ x.IsPartial) :
    Header.frameSize ≤ x.bytes.length := by
  obtain ⟨kind, b⟩ := x
  cases kind with
  | unwanted => exact Nat.le_of_eq h.1.symm
  | malformed => exact Nat.le_of_eq h.1.symm
  | heartbeat =>
    rcases h.2 with hn | ⟨-, hn⟩
    · exact (Header.crackLength_isLength hn).le
    · exact Nat.le_of_eq hn.symm
  | record => exact (Header.crackLength_isLength h.2.2).le
  | incomplete => exact absurd (Or.inl rfl) hp
  | incompleteHeartbeat => exact absurd (Or.inr rfl) hp

theorem isPartial_ne_record (h : x.IsPartial) : x.kind ≠ .record := by
  rcases h with hk | hk <;> simp [hk]

theorem record_not_isPartial (h : x.kind = .record) : ¬ x.IsPartial :=
  fun hp => isPartial_ne_record hp h

end Piece

namespace ChunkKind

variable {quality : QualityFilter} {chunk : Bytes} {n : Nat} {e : HeaderFault}

theorem screen_heartbeat (hb : Header.isHeartbeatBytes chunk = true)
    (hc : Header.crackLength chunk = .ok n) : screen quality chunk = .heartbeat n := by
  simp only [screen, hb, hc, if_true]

theorem screen_unsized (hb : Header.isHeartbeatBytes chunk = true)
    (hc : Header.crackLength chunk = .error e) :
    screen quality chunk = .heartbeat Header.frameSize := by
  simp only [screen, hb, hc, if_true]

variable (hb : ¬ Header.isHeartbeatBytes chunk = true)
include hb

theorem screen_unwanted (hq : ¬ quality.accepts (chunk.getD qualityOffset 0) = true) :
    screen quality chunk = .unwanted := by
  simp only [screen, hb, hq, Bool.false_eq_true, if_false, Bool.not_false, if_true]

theorem screen_malformed (hq : quality.accepts (chunk.getD qualityOffset 0) = true)
    (hc : Header.crackLength chunk = .error e) : screen quality chunk = .malformed := by
  simp only [screen, hb, hq, hc, Bool.false_eq_true, if_false, Bool.not_true]

theorem screen_record (hq : quality.accepts (chunk.getD qualityOffset 0) = true)
    (hc : Header.crackLength chunk = .ok n) : screen quality chunk = .record n := by
  simp only [screen, hb, hq, hc, Bool.false_eq_true, if_false, Bool.not_true]

end ChunkKind

namespace FramingStats

theorem add_assoc (a b c : FramingStats) : (a.add b).add c = a.add (b.add c) := by
  simp [add, Nat.add_assoc]

theorem zero_add (a : FramingStats) : add {} a = a := by
  simp [add]

end FramingStats

namespace Framer

structure Live (f : Framer) : Prop where
  done : f.done = false
  cancelled : f.cancelled = false
  steady : f.reader.Steady

theorem plain_live (b : Bytes) (source : Nat) (quality : QualityFilter) (isFinal : Bool) :
    (ofReader (.plain b) source quality isFinal).Live :=
  ⟨rfl, rfl, Reader.plain_steady b⟩

structure Passes (f : Framer) (x : Piece) (g : Framer) : Prop where
  live : g.Live
  source : g.source = f.source
  quality : g.quality = f.quality
  rest : x.bytes ++ g.reader.rest = f.reader.rest
  stats : g.stats = f.stats.add x.counts

variable {f g : Framer}

theorem Live.fillTo_some (h : f.Live) (held : Bytes) (target : Nat)
    (hle : target - held.length ≤ f.reader.rest.length) :
    ∃ g, f.fillTo held target = (some (held ++ f.reader.rest.take (target - held.length)), g) ∧
      g.Live ∧ g.source = f.source ∧ g.quality = f.quality ∧
      g.reader.rest = f.reader.rest.drop (target - held.length) ∧
      g.stats = f.stats.add { bytesRead := target - held.length } := by
  obtain ⟨hgot, hrest, hsteady, hend⟩ := h.steady.fill (target - held.length)
  rw [if_pos hle] at hend
  unfold fillTo
  simp only [hend, hgot]
  refine ⟨_, rfl, ⟨h.done, h.cancelled, hsteady hle⟩, rfl, rfl, hrest, ?_⟩
  rw [List.length_take, Nat.min_eq_left hle]
  rfl

theorem Live.fillTo_none (h : f.Live) (held : Bytes) (target : Nat)
    (hlt : f.reader.rest.length < target - held.length) :
    ∃ g, f.fillTo held target = (none, g) ∧
      g.stats = f.stats.add
        { bytesRead := f.reader.rest.length
          truncated := if (held ++ f.reader.rest).isEmpty then 0 else 1 } := by
  obtain ⟨hgot, -, -, hend⟩ := h.steady.fill (target - held.length)
  rw [if_neg (Nat.not_le.2 hlt)] at hend
  rw [List.take_of_length_le (Nat.le_of_lt hlt)] at hgot
  unfold fillTo
  simp only [hend, hgot]
  refine ⟨_, rfl, ?_⟩
  simp [count, FramingStats.add]

theorem Live.step_short (h : f.Live) (hlt : f.reader.rest.length < Header.frameSize) :
    ∃ g, f.step = .stop g ∧ g.stats = f.stats.add
      { bytesRead := f.reader.rest.length
        truncated := if f.reader.rest.isEmpty then 0 else 1 } := by
  obtain ⟨g, hg, hstats⟩ := h.fillTo_none [] Header.frameSize hlt
  refine ⟨g, ?_, hstats⟩
  rw [step, h.done, h.cancelled, hg]
  rfl

theorem Live.count (h : f.Live) (s : FramingStats) : (f.count s).Live :=
  ⟨h.done, h.cancelled, h.steady⟩

theorem Live.fillTo_announced (h : g.Live) {b : Bytes} {n : Nat} (hn : Header.frameSize ≤ n)
    (hb : Header.frameSize ≤ b.length) (hrest : g.reader.rest = b.drop Header.frameSize) :
    (n ≤ b.length ∧ ∃ g', g.fillTo (b.take Header.frameSize) n = (some (b.take n), g') ∧
      g'.Live ∧ g'.source = g.source ∧ g'.quality = g.quality ∧ g'.reader.rest = b.drop n ∧
      g'.stats = g.stats.add { bytesRead := n - Header.frameSize }) ∨
    (b.length < n ∧ ∃ g', g.fillTo (b.take Header.frameSize) n = (none, g') ∧
      g'.stats = g.stats.add { bytesRead := b.length - Header.frameSize, truncated := 1 }) := by
  have hheld : (b.take Header.frameSize).length = Header.frameSize := by
    rw [List.length_take, Nat.min_eq_left hb]
  have hleft : g.reader.rest.length = b.length - Header.frameSize := by
    rw [hrest, List.length_drop]
  by_cases hfit : n ≤ b.length
  · obtain ⟨g', hg, hlive, hsource, hquality, hr, hstats⟩ :=
      h.fillTo_some (b.take Header.frameSize) n (by omega)
    rw [hheld, hrest] at hg
    rw [hheld, hrest, List.drop_drop, Nat.add_sub_of_le hn] at hr
    rw [hheld] at hstats
    have hbytes : b.take Header.frameSize ++ (b.drop Header.frameSize).take (n - Header.frameSize) =
        b.take n := by
      rw [← List.take_add, Nat.add_sub_of_le hn]
    exact .inl ⟨hfit, g', hbytes ▸ hg, hlive, hsource, hquality, hr, hstats⟩
  · obtain ⟨g', hg, hstats⟩ :=
      h.fillTo_none (b.take Header.frameSize) n (by omega)
    have hne : (b.take Header.frameSize ++ g.reader.rest).isEmpty = false := by
      rw [hrest, List.take_append_drop, List.isEmpty_eq_false_iff]
      intro hnil
      rw [hnil] at hb
      exact absurd hb (by decide)
    rw [hleft, hne] at hstats
    exact .inr ⟨Nat.not_le.1 hfit, g', hg, hstats⟩

def chunk (f : Framer) : Bytes := f.reader.rest.take Header.frameSize

theorem Live.take_chunk (h : f.Live) (hle : Header.frameSize ≤ f.reader.rest.length) :
    ∃ g, f.fillTo [] Header.frameSize = (some f.chunk, g) ∧ g.Live ∧ g.source = f.source ∧
      g.quality = f.quality ∧ g.reader.rest = f.reader.rest.drop Header.frameSize ∧
      g.stats = f.stats.add { bytesRead := Header.frameSize } :=
  h.fillTo_some [] Header.frameSize hle

theorem length_chunk (hle : Header.frameSize ≤ f.reader.rest.length) :
    f.chunk.length = Header.frameSize := by
  rw [chunk, List.length_take, Nat.min_eq_left hle]

/-- A step that drops its chunk passes the piece of that one chunk. -/
theorem Live.drop_chunk (h : f.Live) (hle : Header.frameSize ≤ f.reader.rest.length) :
    ∃ g, f.fillTo [] Header.frameSize = (some f.chunk, g) ∧ g.quality = f.quality ∧
      ∀ kind s, Piece.counts ⟨kind, f.chunk⟩ =
        FramingStats.add { bytesRead := f.chunk.length } s →
        f.Passes ⟨kind, f.chunk⟩ (g.count s) := by
  obtain ⟨g, hg, hlive, hsource, hquality, hrest, hstats⟩ := h.take_chunk hle
  refine ⟨g, hg, hquality, fun kind s hs => ⟨hlive.count s, hsource, hquality, ?_, ?_⟩⟩
  · show f.chunk ++ g.reader.rest = f.reader.rest
    rw [hrest, chunk, List.take_append_drop]
  · show g.stats.add s = _
    rw [hstats, FramingStats.add_assoc, hs, length_chunk hle]

theorem Live.step_unwanted (h : f.Live) (hle : Header.frameSize ≤ f.reader.rest.length)
    (hs : ChunkKind.screen f.quality f.chunk = .unwanted) :
    ∃ g, f.step = .skip g ∧ f.Passes ⟨.unwanted, f.chunk⟩ g := by
  obtain ⟨g, hg, hquality, hpasses⟩ := h.drop_chunk hle
  refine ⟨g.count { qualityRejected := 1 }, ?_, hpasses _ _ rfl⟩
  simp only [step, h.done, h.cancelled, hg, hquality, hs, Bool.false_eq_true, if_false]

theorem Live.step_malformed (h : f.Live) (hle : Header.frameSize ≤ f.reader.rest.length)
    (hs : ChunkKind.screen f.quality f.chunk = .malformed) :
    ∃ g, f.step = .skip g ∧ f.Passes ⟨.malformed, f.chunk⟩ g := by
  obtain ⟨g, hg, hquality, hpasses⟩ := h.drop_chunk hle
  refine ⟨g.count { chunksDiscarded := 1 }, ?_, hpasses _ _ rfl⟩
  simp only [step, h.done, h.cancelled, hg, hquality, hs, Bool.false_eq_true, if_false]

theorem Live.step_heartbeat (h : f.Live) (hle : Header.frameSize ≤ f.reader.rest.length) {n : Nat}
    (hn : Header.frameSize ≤ n) (hs : ChunkKind.screen f.quality f.chunk = .heartbeat n) :
    (n ≤ f.reader.rest.length ∧
      ∃ g, f.step = .skip g ∧ f.Passes ⟨.heartbeat, f.reader.rest.take n⟩ g) ∨
    (f.reader.rest.length < n ∧ ∃ g, f.step = .stop g ∧
      g.stats = f.stats.add (Piece.counts ⟨.incompleteHeartbeat, f.reader.rest⟩)) := by
  obtain ⟨g, hg, hlive, hsource, hquality, hrest, hstats⟩ := h.take_chunk hle
  rcases (hlive.count { heartbeats := 1 }).fillTo_announced hn hle hrest with
    ⟨hfit, g', hg', hlive', hsource', hquality', hrest', hstats'⟩ |
      ⟨hlong, g', hg', hstats'⟩
  · refine .inl ⟨hfit, g', ?_, hlive', hsource'.trans hsource, hquality'.trans hquality,
      ?_, ?_⟩
    · simp only [step, h.done, h.cancelled, hg, hquality, hs, Bool.false_eq_true, if_false]
      rw [chunk, hg']
    · show f.reader.rest.take n ++ g'.reader.rest = f.reader.rest
      rw [hrest', List.take_append_drop]
    · rw [hstats', Framer.count, hstats, FramingStats.add_assoc, FramingStats.add_assoc,
        Piece.counts, List.length_take, Nat.min_eq_left hfit]
      simp only [FramingStats.add, Nat.zero_add, Nat.add_zero, Nat.add_sub_of_le hn]
  · refine .inr ⟨hlong, g', ?_, ?_⟩
    · simp only [step, h.done, h.cancelled, hg, hquality, hs, Bool.false_eq_true, if_false]
      rw [chunk, hg']
    · rw [hstats', Framer.count, hstats, FramingStats.add_assoc, FramingStats.add_assoc,
        Piece.counts]
      simp only [FramingStats.add, Nat.zero_add, Nat.add_zero, Nat.add_sub_of_le hle]

theorem Live.step_record (h : f.Live) (hle : Header.frameSize ≤ f.reader.rest.length) {n : Nat}
    (hn : Header.frameSize ≤ n) (hs : ChunkKind.screen f.quality f.chunk = .record n) :
    (n ≤ f.reader.rest.length ∧ ∃ g, f.step = .emit ⟨f.source, f.reader.rest.take n⟩ g ∧
      f.Passes ⟨.record, f.reader.rest.take n⟩ g) ∨
    (f.reader.rest.length < n ∧ ∃ g, f.step = .stop g ∧
      g.stats = f.stats.add (Piece.counts ⟨.incomplete, f.reader.rest⟩)) := by
  obtain ⟨g, hg, hlive, hsource, hquality, hrest, hstats⟩ := h.take_chunk hle
  rcases hlive.fillTo_announced hn hle hrest with
    ⟨hfit, g', hg', hlive', hsource', hquality', hrest', hstats'⟩ |
      ⟨hlong, g', hg', hstats'⟩
  · refine .inl ⟨hfit, g'.count { records := 1 }, ?_, hlive'.count _, hsource'.trans hsource,
      hquality'.trans hquality, ?_, ?_⟩
    · simp only [step, h.done, h.cancelled, hg, hquality, hs, Bool.false_eq_true, if_false]
      rw [chunk, hg']
      simp only [hsource', hsource]
    · show f.reader.rest.take n ++ g'.reader.rest = f.reader.rest
      rw [hrest', List.take_append_drop]
    · rw [Framer.count, hstats', hstats, FramingStats.add_assoc, FramingStats.add_assoc,
        Piece.counts, List.length_take, Nat.min_eq_left hfit]
      simp only [FramingStats.add, Nat.zero_add, Nat.add_zero, Nat.add_sub_of_le hn]
  · refine .inr ⟨hlong, g', ?_, ?_⟩
    · simp only [step, h.done, h.cancelled, hg, hquality, hs, Bool.false_eq_true, if_false]
      rw [chunk, hg']
    · rw [hstats', hstats, FramingStats.add_assoc, Piece.counts]
      simp only [FramingStats.add, Nat.zero_add, Nat.add_zero, Nat.add_sub_of_le hle]

inductive Takes (f : Framer) (x : Piece) : FramingStep → Prop
  | stop {g : Framer} (hp : x.IsPartial) (hb : x.bytes = f.reader.rest)
      (hs : g.stats = f.stats.add x.counts) : Takes f x (.stop g)
  | skip {g : Framer} (hp : ¬ x.IsPartial) (hk : x.kind ≠ .record) (hg : f.Passes x g) :
      Takes f x (.skip g)
  | emit {g : Framer} (hk : x.kind = .record) (hg : f.Passes x g) :
      Takes f x (.emit ⟨f.source, x.bytes⟩ g)

theorem Live.step_end (h : f.Live) (hr : f.reader.rest = []) :
    ∃ g, f.step = .stop g ∧ g.stats = f.stats := by
  obtain ⟨g, hg, hstats⟩ := h.step_short (by rw [hr]; decide)
  rw [hr] at hstats
  exact ⟨g, hg, hstats⟩

theorem take_frame {n : Nat} (hn : Header.frameSize ≤ n) :
    (f.reader.rest.take n).take Header.frameSize = f.chunk := by
  rw [List.take_take, Nat.min_eq_left hn, chunk]

theorem chunk_take (hle : Header.frameSize ≤ f.reader.rest.length) :
    f.chunk.take Header.frameSize = f.chunk :=
  List.take_of_length_le (Nat.le_of_eq (length_chunk hle))

theorem heartbeat_sound (hb : Header.isHeartbeatBytes f.chunk = true) {n : Nat}
    (hfit : n ≤ f.reader.rest.length) (hn : Header.frameSize ≤ n)
    (hc : Header.crackLength f.chunk = .ok n ∨
      (∃ e, Header.crackLength f.chunk = .error e) ∧ n = Header.frameSize) :
    Piece.Sound f.quality ⟨.heartbeat, f.reader.rest.take n⟩ := by
  rw [Piece.Sound, Piece.chunk, take_frame hn, List.length_take, Nat.min_eq_left hfit]
  exact ⟨hb, hc⟩

theorem Live.takes_heartbeat (h : f.Live) (hle : Header.frameSize ≤ f.reader.rest.length)
    (hb : Header.isHeartbeatBytes f.chunk = true) :
    ∃ x : Piece, x.Sound f.quality ∧ f.Takes x f.step := by
  cases hc : Header.crackLength f.chunk with
  | ok n =>
    have hn := (Header.crackLength_isLength hc).le
    rcases h.step_heartbeat hle hn (ChunkKind.screen_heartbeat hb hc) with
      ⟨hfit, g, hg, hpasses⟩ | ⟨hlong, g, hg, hstats⟩
    · rw [hg]
      exact ⟨_, heartbeat_sound hb hfit hn (.inl hc),
        .skip (by simp [Piece.IsPartial]) (by simp) hpasses⟩
    · rw [hg]
      exact ⟨⟨.incompleteHeartbeat, f.reader.rest⟩, ⟨hle, hb, n, hc, hlong⟩,
        .stop (.inr rfl) rfl hstats⟩
  | error e =>
    rcases h.step_heartbeat hle (Nat.le_refl _) (ChunkKind.screen_unsized hb hc) with
      ⟨hfit, g, hg, hpasses⟩ | ⟨hlong, -⟩
    · rw [hg]
      exact ⟨_, heartbeat_sound hb hfit (Nat.le_refl _) (.inr ⟨⟨e, hc⟩, rfl⟩),
        .skip (by simp [Piece.IsPartial]) (by simp) hpasses⟩
    · exact absurd hle (Nat.not_le.2 hlong)

theorem Live.takes_unwanted (h : f.Live) (hle : Header.frameSize ≤ f.reader.rest.length)
    (hb : ¬ Header.isHeartbeatBytes f.chunk = true)
    (hq : ¬ f.quality.accepts (f.chunk.getD ChunkKind.qualityOffset 0) = true) :
    ∃ x : Piece, x.Sound f.quality ∧ f.Takes x f.step := by
  obtain ⟨g, hg, hpasses⟩ := h.step_unwanted hle (ChunkKind.screen_unwanted hb hq)
  rw [hg]
  refine ⟨_, ?_, .skip (by simp [Piece.IsPartial]) (by simp) hpasses⟩
  rw [Piece.Sound, Piece.chunk, chunk_take hle]
  exact ⟨length_chunk hle, hb, hq⟩

theorem Live.takes_header (h : f.Live) (hle : Header.frameSize ≤ f.reader.rest.length)
    (hb : ¬ Header.isHeartbeatBytes f.chunk = true)
    (hq : f.quality.accepts (f.chunk.getD ChunkKind.qualityOffset 0) = true) :
    ∃ x : Piece, x.Sound f.quality ∧ f.Takes x f.step := by
  cases hc : Header.crackLength f.chunk with
  | error e =>
    obtain ⟨g, hg, hpasses⟩ := h.step_malformed hle (ChunkKind.screen_malformed hb hq hc)
    rw [hg]
    refine ⟨_, ?_, .skip (by simp [Piece.IsPartial]) (by simp) hpasses⟩
    rw [Piece.Sound, Piece.chunk, chunk_take hle]
    exact ⟨length_chunk hle, hb, hq, e, hc⟩
  | ok n =>
    have hn := (Header.crackLength_isLength hc).le
    rcases h.step_record hle hn (ChunkKind.screen_record hb hq hc) with
      ⟨hfit, g, hg, hpasses⟩ | ⟨hlong, g, hg, hstats⟩
    · rw [hg]
      refine ⟨_, ?_, .emit rfl hpasses⟩
      rw [Piece.Sound, Piece.chunk, take_frame hn, List.length_take, Nat.min_eq_left hfit]
      exact ⟨hb, hq, hc⟩
    · rw [hg]
      exact ⟨⟨.incomplete, f.reader.rest⟩, ⟨List.ne_nil_of_length_pos (Nat.lt_of_lt_of_le
        (by decide) hle), .inr ⟨hle, hb, hq, n, hc, hlong⟩⟩, .stop (.inl rfl) rfl hstats⟩

theorem Live.step_takes (h : f.Live) (hr : f.reader.rest ≠ []) :
    ∃ x : Piece, x.Sound f.quality ∧ f.Takes x f.step := by
  by_cases hlen : f.reader.rest.length < Header.frameSize
  · obtain ⟨g, hg, hstats⟩ := h.step_short hlen
    rw [List.isEmpty_eq_false_iff.2 hr] at hstats
    rw [hg]
    exact ⟨⟨.incomplete, f.reader.rest⟩, ⟨hr, .inl hlen⟩, .stop (.inl rfl) rfl hstats⟩
  · have hle := Nat.not_lt.1 hlen
    by_cases hb : Header.isHeartbeatBytes f.chunk = true
    · exact h.takes_heartbeat hle hb
    · by_cases hq : f.quality.accepts (f.chunk.getD ChunkKind.qualityOffset 0) = true
      · exact h.takes_header hle hb hq
      · exact h.takes_unwanted hle hb hq

end Framer
end SeedStream
