import Mathlib.Data.List.Forall2
import SeedStream.Proofs.Framing.Tiling
import SeedStream.Proofs.Record.RoundTrip

/-!
# Records written, framed and read

A framer finds records that lie one behind the other, if each has the length
that it announces, a quality that is wanted, and is no heartbeat. Records of
well-formed drafts do, so that framing what was written gives every record, and
reading the records gives the drafts and the samples.
-/

set_option autoImplicit false

namespace SeedStream

namespace Framer

variable {f : Framer} {b rest : Bytes}

theorem Live.step_framed (h : f.Live) (hrest : f.reader.rest = b ++ rest) {source : Nat}
    (hb : Framed f.quality ⟨source, b⟩) :
    ∃ g, f.step = .emit ⟨f.source, b⟩ g ∧ f.Passes ⟨.record, b⟩ g := by
  have hlen : Header.frameSize ≤ b.length := hb.isLength.le
  have hle : b.length ≤ f.reader.rest.length := by
    rw [hrest, List.length_append]
    exact Nat.le_add_right _ _
  have hchunk : f.chunk = b.take Header.frameSize := by
    rw [chunk, hrest, List.take_append_of_le_length hlen]
  have hscreen : ChunkKind.screen f.quality f.chunk = .record b.length := by
    obtain ⟨q, hq, haccepts⟩ := hb.wanted
    have hletter : (b.take Header.frameSize).getD ChunkKind.qualityOffset 0 = q := by
      rw [List.getD_eq_getElem?_getD, List.getElem?_take_of_lt (by decide)]
      exact congrArg (Option.getD · 0) hq
    rw [hchunk]
    apply ChunkKind.screen_record _ (hletter ▸ haccepts) hb.announced
    rw [Header.isHeartbeatBytes_take b (by decide), hb.silent]
    exact Bool.false_ne_true
  have htake : f.reader.rest.take b.length = b := by rw [hrest, List.take_left]
  rcases h.step_record (hlen.trans hle) hlen hscreen with ⟨-, g, hg, hpasses⟩ | ⟨hlong, -⟩
  · rw [htake] at hg hpasses
    exact ⟨g, hg, hpasses⟩
  · exact absurd hle (Nat.not_le.2 hlong)

/-- Framing a concatenation of records gives them back and counts nothing else. -/
theorem Live.records_flatten (h : f.Live) {records : List Bytes}
    (hrest : f.reader.rest = records.flatten)
    (hall : ∀ b ∈ records, Framed f.quality ⟨f.source, b⟩) :
    f.records.1 = records.map (⟨f.source, ·⟩) ∧
      f.records.2.stats =
        f.stats.add { bytesRead := records.flatten.length, records := records.length } := by
  induction records generalizing f with
  | nil =>
    obtain ⟨g, hg, hstats⟩ := h.step_end hrest
    rw [records_none (next_stop hg)]
    exact ⟨rfl, hstats⟩
  | cons b records ih =>
    rw [List.flatten_cons] at hrest
    obtain ⟨g, hg, hpasses⟩ := h.step_framed hrest (hall b List.mem_cons_self)
    have hleft : g.reader.rest = records.flatten := by
      have hjoin := hpasses.rest.trans hrest
      exact List.append_cancel_left hjoin
    obtain ⟨hrecords, hstats⟩ := ih hpasses.live hleft fun b' hb' => by
      rw [hpasses.source, hpasses.quality]
      exact hall b' (List.mem_cons_of_mem b hb')
    rw [records_some (next_emit hg), hrecords, hstats, hpasses.source, hpasses.stats,
      FramingStats.add_assoc]
    constructor
    · rfl
    · congr 1
      simp only [Piece.counts, FramingStats.add, List.flatten_cons, List.length_append,
        List.length_cons, Nat.add_zero, Nat.add_comm]

end Framer

namespace Draft

variable {d : Draft} {samples : List Int32} {t : BinaryTime} {factor multiplier : Int16}
  {exponent : Nat} {calibration b : Bytes}

theorem Written.framed (w : d.Written samples t factor multiplier exponent calibration b)
    {quality : QualityFilter} (hq : quality.accepts d.quality = true) (source : Nat) :
    Framed quality ⟨source, b⟩ where
  isLength := by
    show Header.IsLength b.length
    rw [w.length_eq]
    exact w.wellformed.length
  announced := w.crackLength
  wanted := ⟨d.quality, w.located.quality.getElem?, hq⟩
  silent := by
    apply eq_false_of_ne_true
    intro hbeats
    exact w.wellformed.heard (w.located.isHeartbeat w.wellformed hbeats)

structure Matches (d : Draft) (samples : List Int32) (h : Header) : Prop where
  sequence : h.sequence = d.sequence % 1000000
  quality : h.quality = d.quality
  network : h.network = d.network
  station : h.station = d.station
  location : h.location = d.location
  channel : h.channel = d.channel
  start : h.start = d.start - d.start % 100
  sampleCount : h.sampleCount.toNat = samples.length
  rate : SampleRate.toFactors d.rate = .ok (h.rateFactor, h.rateMultiplier)
  encoding : h.encoding = 3
  byteOrder : h.byteOrder = .big
  wordOrder : h.wordOrder = .big
  length : h.length = d.length
  timingQuality : h.timingQuality = d.timingQuality
  calibration : h.calibration = d.calibration

theorem Written.matches (w : d.Written samples t factor multiplier exponent calibration b) :
    d.Matches samples (d.header t factor multiplier samples.length) where
  sequence := rfl
  quality := rfl
  network := rfl
  station := rfl
  location := rfl
  channel := rfl
  start := rfl
  sampleCount := w.wellformed.toNat_count
  rate := w.rate
  encoding := rfl
  byteOrder := rfl
  wordOrder := rfl
  length := rfl
  timingQuality := rfl
  calibration := rfl

/-- A record from which a draft and its samples are read back. -/
def Restores (x : Draft × List Int32) (b : Bytes) : Prop :=
  ∃ h, Header.parse b = .ok h ∧ x.1.Matches x.2 h ∧ Decoder.rawInteger.samples h b = .ok x.2

theorem Wellformed.restores (h : d.Wellformed samples) {quality : QualityFilter}
    (hq : quality.accepts d.quality = true) (source : Nat) :
    ∃ b, d.encode samples = .ok b ∧ Framed quality ⟨source, b⟩ ∧
      Restores (d, samples) b := by
  obtain ⟨t, factor, multiplier, exponent, calibration, b, hb, w⟩ := h.encode_ok
  exact ⟨b, hb, w.framed hq source, _, w.parse, w.matches, w.samples_eq⟩

end Draft

theorem Draft.exists_records {drafts : List (Draft × List Int32)} (source : Nat)
    {quality : QualityFilter} (hwell : ∀ x ∈ drafts, x.1.Wellformed x.2)
    (hwanted : ∀ x ∈ drafts, quality.accepts x.1.quality = true) :
    ∃ records : List Bytes,
      List.Forall₂ (fun x b => x.1.encode x.2 = .ok b) drafts records ∧
      List.Forall₂ Draft.Restores drafts records ∧
      ∀ b ∈ records, Framed quality ⟨source, b⟩ := by
  induction drafts with
  | nil => exact ⟨[], .nil, .nil, by simp⟩
  | cons x drafts ih =>
    rw [List.forall_mem_cons] at hwell hwanted
    obtain ⟨b, hencode, hframed, hrestores⟩ := hwell.1.restores hwanted.1 source
    obtain ⟨records, hencodes, hrestore, hall⟩ := ih hwell.2 hwanted.2
    exact ⟨b :: records, .cons hencode hencodes, .cons hrestores hrestore,
      List.forall_mem_cons.2 ⟨hframed, hall⟩⟩

/-- Well-formed drafts of wanted qualities can be written; framing their records,
one behind the other, puts out exactly these records in order and drops nothing;
and each record gives back its draft and samples. -/
theorem Framer.written_restored (drafts : List (Draft × List Int32)) (source : Nat)
    (quality : QualityFilter) (isFinal : Bool) (hwell : ∀ x ∈ drafts, x.1.Wellformed x.2)
    (hwanted : ∀ x ∈ drafts, quality.accepts x.1.quality = true) :
    ∃ records : List Bytes,
      List.Forall₂ (fun x b => x.1.encode x.2 = .ok b) drafts records ∧
      (ofReader (.plain records.flatten) source quality isFinal).records.1 =
        records.map (⟨source, ·⟩) ∧
      (ofReader (.plain records.flatten) source quality isFinal).records.2.stats =
        { bytesRead := records.flatten.length
          records := drafts.length
          chunksDiscarded := 0
          qualityRejected := 0
          heartbeats := 0
          truncated := 0
          ioErrors := 0 } ∧
      List.Forall₂ Draft.Restores drafts records := by
  obtain ⟨records, hencodes, hrestore, hall⟩ := Draft.exists_records source hwell hwanted
  have hlive : (ofReader (.plain records.flatten) source quality isFinal).Live :=
    ⟨rfl, rfl, Reader.plain_steady _⟩
  obtain ⟨hout, hstats⟩ := hlive.records_flatten rfl hall
  refine ⟨records, hencodes, hout, ?_, hrestore⟩
  rw [hstats, hencodes.length_eq]
  exact FramingStats.zero_add _

def calibratedDraft : Draft where
  network := "IU"
  station := "ANMO"
  location := "00"
  channel := "BHZ"
  start := 946684800123456
  timingQuality := some 97
  calibration := some
    { start := 946684800000100
      flags := 5
      duration := 60000000
      peakToPeak := ⟨0x3f800000⟩
      inputChannel := "BCU"
      referenceAmplitude := 7
      coupling := "resistive"
      rolloff := "3dB at 10Hz"
      noiseType := "" }

def shortDraft : Draft where
  network := "IU"
  station := "ANMO"
  location := ""
  channel := "LHZ"
  sequence := 1000002
  length := 256

theorem calibratedDraft_wellformed : calibratedDraft.Wellformed [1, -2, 2147483647] where
  length := ⟨9, by decide⟩
  room := by decide
  station := by decide
  location := by decide
  channel := by decide
  network := by decide
  start := by decide
  rate := ⟨(1, 1), by decide +kernel⟩
  heard := by simp [Draft.IsHeartbeat, calibratedDraft]
  calibration := by
    rintro m ⟨⟩
    constructor <;> decide

theorem shortDraft_wellformed : shortDraft.Wellformed [] where
  length := ⟨8, by decide⟩
  room := by decide
  station := by decide
  location := by decide
  channel := by decide
  network := by decide
  start := by decide
  rate := ⟨(1, 1), by decide +kernel⟩
  heard := by simp [Draft.IsHeartbeat, shortDraft]
  calibration := by rintro m ⟨⟩

/-- Two records are written and framed, and give back their drafts. -/
theorem Framer.written_restored_of_calibrated :
    ∃ b₁ b₂ : Bytes,
      calibratedDraft.encode [1, -2, 2147483647] = .ok b₁ ∧ shortDraft.encode [] = .ok b₂ ∧
      (ofReader (.plain (b₁ ++ b₂)) 7 .standard true).records.1 =
        [⟨7, b₁⟩, ⟨7, b₂⟩] ∧
      (ofReader (.plain (b₁ ++ b₂)) 7 .standard true).records.2.stats =
        { bytesRead := b₁.length + b₂.length, records := 2 } ∧
      Draft.Restores (calibratedDraft, [1, -2, 2147483647]) b₁ ∧
      Draft.Restores (shortDraft, []) b₂ := by
  have hwell : ∀ x ∈ [(calibratedDraft, [1, -2, 2147483647]), (shortDraft, ([] : List Int32))],
      x.1.Wellformed x.2 := by
    simp [calibratedDraft_wellformed, shortDraft_wellformed]
  obtain ⟨records, hencodes, hout, hstats, hrestore⟩ :=
    written_restored _ 7 .standard true hwell (by decide)
  obtain _ | ⟨hb₁, _ | ⟨hb₂, _ | _⟩⟩ := hencodes
  obtain _ | ⟨hrestore₁, _ | ⟨hrestore₂, _⟩⟩ := hrestore
  rw [List.flatten_cons, List.flatten_singleton] at hout hstats
  rw [List.length_append] at hstats
  exact ⟨_, _, hb₁, hb₂, hout, hstats, hrestore₁, hrestore₂⟩

end SeedStream
