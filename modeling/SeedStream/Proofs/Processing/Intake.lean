import Mathlib.Data.List.Perm.Subperm
import SeedStream.Proofs.Processing.Interleaving
import SeedStream.Proofs.Processing.Trace
import SeedStream.Splitting

/-!
# Taking all streams

A processor has seen enough when it has seen the sentinels of all streams. The last
source may end before others do: in any order of arrival, it stops at the last item
of all streams and not before.
-/

set_option autoImplicit false

namespace SeedStream

theorem ProcessingStats.add_right_comm (a b c : ProcessingStats) :
    (a.add b).add c = (a.add c).add b := by
  simp only [add, Nat.add_right_comm]

namespace Processor

theorem process_count (q : Processor) (s : ProcessingStats) (r : Bytes) :
    (q.count s).process r = (q.process r).count s := by
  have hsetup : (q.count s).setup = q.setup := rfl
  have hchannels : (q.count s).channels = q.channels := rfl
  unfold process
  rw [hsetup, hchannels]
  cases q.setup.classify r <;>
    simp only [count, ProcessingStats.add_right_comm _ s]

theorem count_finished (q : Processor) (n : Nat) :
    (q.count { sourcesFinished := n }).count { sourcesFinished := 1 } =
      q.count { sourcesFinished := n + 1 } := rfl

theorem receive_counts (c : ChannelState) (p : Setup) (h : Header) (r : Bytes) :
    (c.receive p h r).2.received = 0 ∧ (c.receive p h r).2.sourcesFinished = 0 := by
  have hoverlap : (c.overlapCounts h).received = 0 ∧ (c.overlapCounts h).sourcesFinished = 0 := by
    unfold ChannelState.overlapCounts
    split <;> exact ⟨rfl, rfl⟩
  have hopening : (c.openingCounts h).received = 0 ∧ (c.openingCounts h).sourcesFinished = 0 :=
    ⟨rfl, rfl⟩
  unfold ChannelState.receive
  split
  · simp [ProcessingStats.add, hoverlap]
  · split <;> simp [ProcessingStats.add, hoverlap, hopening]

theorem process_received (q : Processor) (r : Bytes) :
    (q.process r).stats.received = q.stats.received + 1 ∧
      (q.process r).stats.sourcesFinished = q.stats.sourcesFinished := by
  unfold process
  split
  case h_5 key h _ =>
    have hcounts := receive_counts ((q.channels.lookup key).getD {}) q.setup h r
    simp [count, counts_updateIn, ProcessingStats.add, hcounts]
  all_goals exact ⟨rfl, rfl⟩

theorem processAll_received (q : Processor) (records : List Bytes) :
    (q.processAll records).stats.received = q.stats.received + records.length ∧
      (q.processAll records).stats.sourcesFinished = q.stats.sourcesFinished := by
  induction records generalizing q with
  | nil => exact ⟨rfl, rfl⟩
  | cons r rest ih =>
    have hone := process_received q r
    have hrest := ih (q.process r)
    rw [hone.1, hone.2] at hrest
    refine ⟨hrest.1.trans ?_, hrest.2⟩
    rw [List.length_cons]
    omega

end Processor

namespace Intake
open QueueItem

/-- What an intake knows when it has seen a list of items, begun with a processor `q`. -/
structure Seen (q : Processor) (seen : List QueueItem) (t : Intake) : Prop where
  processor : t.processor = (q.processAll ((QueueItem.records seen).map RawRecord.bytes)).count
    { sourcesFinished := t.finished.length }
  finished : ∀ source, source ∈ t.finished ↔ QueueItem.endOfSource source ∈ seen
  nodup : t.finished.Nodup
  ended : t.ended = true ↔ QueueItem.endOfStream ∈ seen

variable {q : Processor} {seen : List QueueItem} {t : Intake}

theorem seen_nil (q : Processor) : Seen q [] ⟨q, [], false⟩ where
  processor := rfl
  finished _ := by simp
  nodup := .nil
  ended := by simp

theorem Seen.take (h : Seen q seen t) (item : QueueItem) :
    Seen q (seen ++ [item]) (t.take item) := by
  cases item with
  | record r =>
    constructor
    · rw [records_append, List.map_append, Processor.processAll_append]
      change t.processor.process r.bytes = (Processor.process _ r.bytes).count _
      rw [h.processor, Processor.process_count]
      rfl
    · intro source
      simpa [Intake.take] using h.finished source
    · exact h.nodup
    · simpa [Intake.take] using h.ended
  | endOfSource source =>
    have hrecords := records_append_sentinel (a := seen) (z := .endOfSource source) rfl
    by_cases hk : source ∈ t.finished
    · have hsame : t.take (.endOfSource source) = t := by simp [Intake.take, hk]
      rw [hsame]
      have hold := (h.finished source).1 hk
      constructor
      · rw [hrecords]
        exact h.processor
      · intro k
        rw [h.finished k, List.mem_append, List.mem_singleton]
        constructor
        · exact .inl
        · rintro (hmem | heq)
          · exact hmem
          · exact heq ▸ hold
      · exact h.nodup
      · simpa using h.ended
    · have hnew : t.take (.endOfSource source) =
          { t with processor := t.processor.count { sourcesFinished := 1 }
                   finished := t.finished ++ [source] } := by simp [Intake.take, hk]
      rw [hnew]
      constructor
      · rw [hrecords, h.processor, Processor.count_finished, List.length_append]
        rfl
      · intro k
        simp [h.finished k]
      · exact List.nodup_append.2 ⟨h.nodup, by simp, by
          rintro a ha b hb rfl
          exact hk (List.mem_singleton.1 hb ▸ ha)⟩
      · simpa using h.ended
  | endOfStream =>
    have hrecords := records_append_sentinel (a := seen) (z := .endOfStream) rfl
    constructor
    · rw [hrecords]
      exact h.processor
    · intro k
      simpa [Intake.take] using h.finished k
    · exact h.nodup
    · simp [Intake.take]

theorem Seen.finished_perm {sources : List Nat} (h : Seen q seen t) (hs : sources.Nodup)
    (hseen : ∀ source, source ∈ sources ↔ QueueItem.endOfSource source ∈ seen) :
    t.finished.Perm sources := by
  apply (List.perm_ext_iff_of_nodup h.nodup hs).2
  intro k
  rw [h.finished, hseen]

/-- All sources have finished and all streams have ended if each sentinel has been seen. -/
theorem Seen.isComplete_iff {sources : List Nat} (h : Seen q seen t) (hs : sources.Nodup)
    (hseen : ∀ source, QueueItem.endOfSource source ∈ seen → source ∈ sources) :
    t.isComplete sources.length = true ↔ ∀ z ∈ closing sources, z ∈ seen := by
  have hsub : t.finished ⊆ sources := fun k hk => hseen k ((h.finished k).1 hk)
  rw [isComplete, Bool.and_eq_true, decide_eq_true_eq, h.ended, closing, List.forall_mem_cons,
    List.forall_mem_map]
  apply and_congr_right
  intro _
  constructor
  · intro hlength k hk
    apply (h.finished k).1
    exact ((List.subperm_of_subset h.nodup hsub).perm_of_length_le hlength).mem_iff.2 hk
  · intro hall
    exact Nat.le_of_eq (h.finished_perm hs fun k => ⟨hall k, hseen k⟩).length_eq.symm

theorem Seen.takeUntil {items rest : List QueueItem} {n : Nat} (h : Seen q seen t)
    (hne : items ≠ []) (hlast : ∀ u, Seen q (seen ++ items) u → u.isComplete n = true)
    (hbefore : ∀ a b, items = a ++ b → b ≠ [] → ∀ u, Seen q (seen ++ a) u →
      u.isComplete n = false) :
    ∃ u, Seen q (seen ++ items) u ∧ t.takeUntil n (items ++ rest) = (u, rest) := by
  induction items generalizing seen t with
  | nil => exact absurd rfl hne
  | cons item items ih =>
    have hnext := h.take item
    rw [List.cons_append, Intake.takeUntil]
    cases items with
    | nil =>
      rw [if_pos (hlast _ hnext)]
      exact ⟨_, hnext, rfl⟩
    | cons y ys =>
      have hopen : (t.take item).isComplete n = false :=
        hbefore [item] (y :: ys) rfl (List.cons_ne_nil y ys) _ hnext
      rw [if_neg (ne_true_of_eq_false hopen), List.append_cons]
      apply ih hnext (List.cons_ne_nil y ys)
      · rw [← List.append_cons]
        exact hlast
      · intro a b hab hb
        rw [← List.append_cons]
        exact hbefore (item :: a) b (congrArg (item :: ·) hab) hb

end Intake

namespace Processor
open SourceStream

/-- The items of all streams are taken, in whatever order they arrive, and none behind them. -/
theorem run_eq (q : Processor) {streams : List SourceStream} {items : List QueueItem}
    (hs : (streams.map source).Nodup) (hf : streams.countP isFinal = 1)
    (h : Interleaving (streams.map SourceStream.items) items) (rest : List QueueItem) :
    q.run streams.length (items ++ rest) =
      ((q.processAll ((QueueItem.records items).map RawRecord.bytes)).count
        { sourcesFinished := streams.length }, rest) := by
  have hperm := filter_perm hf h
  have hsentinel : ∀ z ∈ QueueItem.closing (streams.map source), z ∈ items := by
    intro z hz
    exact (List.mem_filter.1 (hperm.mem_iff.2 hz)).1
  have hsource : ∀ k, k ∈ streams.map source ↔ QueueItem.endOfSource k ∈ items := by
    intro k
    constructor
    · intro hk
      exact hsentinel _ (List.mem_cons_of_mem _ (List.mem_map_of_mem hk))
    · intro hk
      have hclosing := hperm.mem_iff.1 (List.mem_filter.2 ⟨hk, rfl⟩)
      simpa [QueueItem.closing] using hclosing
  have hne : items ≠ [] := List.ne_nil_of_mem (hsentinel _ List.mem_cons_self)
  have hlength : streams.length = (streams.map source).length := (List.length_map source).symm
  obtain ⟨u, hu, hrun⟩ : ∃ u, Intake.Seen q items u ∧
      Intake.takeUntil ⟨q, [], false⟩ streams.length (items ++ rest) = (u, rest) := by
    rw [hlength]
    apply (Intake.seen_nil q).takeUntil hne
    · intro u hu
      exact (hu.isComplete_iff hs fun k => (hsource k).2).2 hsentinel
    · intro a b hab hb u hu
      have hpart : ∀ k, QueueItem.endOfSource k ∈ a → k ∈ streams.map source := by
        intro k hk
        exact (hsource k).2 (hab ▸ List.mem_append_left b hk)
      obtain ⟨z, hz, hunseen⟩ := exists_unseen hs hf h hab hb
      rw [Bool.eq_false_iff, ne_eq, hu.isComplete_iff hs hpart]
      exact fun hall => hunseen (hall z hz)
  rw [run, hrun, hlength, ← (hu.finished_perm hs hsource).length_eq]
  exact congrArg (·, rest) hu.processor

/-- A processor that expects as many sources as there are streams takes every record of
every stream once, in the order of arrival. It stops with the last item of all, even if
nothing follows, and leaves what follows. -/
theorem run_interleaved (q : Processor) (streams : List SourceStream) (items rest : List QueueItem)
    (hs : (streams.map source).Nodup) (hf : streams.countP isFinal = 1)
    (h : Interleaving (streams.map SourceStream.items) items) :
    q.run streams.length (items ++ rest) =
      ((q.processAll ((QueueItem.records items).map RawRecord.bytes)).count
        { sourcesFinished := streams.length }, rest) ∧
    (QueueItem.records items).Perm (streams.flatMap SourceStream.records) ∧
    (q.run streams.length (items ++ rest)).1.stats.received =
      q.stats.received + (streams.flatMap SourceStream.records).length ∧
    (q.run streams.length (items ++ rest)).1.stats.sourcesFinished =
      q.stats.sourcesFinished + streams.length := by
  have hrun := run_eq q hs hf h rest
  have hrecords := records_perm h
  have hcounts := processAll_received q ((QueueItem.records items).map RawRecord.bytes)
  rw [List.length_map, hrecords.length_eq] at hcounts
  rw [hrun]
  refine ⟨rfl, hrecords, ?_, ?_⟩
  · exact hcounts.1
  · exact congrArg (· + streams.length) hcounts.2

/-- Two sources of which the final one ends first. A record sent after all ends is left. -/
theorem run_interleaved_of_late :
    (ofSetup (.ofDecoder .rawInteger)).run 2
        [.record ⟨1, [1]⟩, .endOfSource 1, .endOfStream, .record ⟨0, [0]⟩, .endOfSource 0,
          .record ⟨0, [2]⟩] =
      (((ofSetup (.ofDecoder .rawInteger)).processAll [[1], [0]]).count { sourcesFinished := 2 },
        [.record ⟨0, [2]⟩]) := by
  have h : Interleaving
      ([⟨0, [⟨0, [0]⟩], false⟩, ⟨1, [⟨1, [1]⟩], true⟩].map SourceStream.items)
      [.record ⟨1, [1]⟩, .endOfSource 1, .endOfStream, .record ⟨0, [0]⟩,
        .endOfSource 0] := by
    apply Interleaving.draw 1 rfl
    apply Interleaving.draw 1 rfl
    apply Interleaving.draw 1 rfl
    apply Interleaving.draw 0 rfl
    apply Interleaving.draw 0 rfl
    exact .done (by decide)
  exact (run_interleaved _ _ _ [.record ⟨0, [2]⟩] (by decide) (by decide) h).1

end Processor

namespace Framer

def stream (cancelBefore : Option Nat) (f : Framer) : SourceStream :=
  ⟨f.source, (f.collect cancelBefore).1, f.isFinal⟩

theorem run_items (cancelBefore : Option Nat) (f : Framer) :
    (f.run cancelBefore).1 = (f.stream cancelBefore).items := rfl

end Framer

namespace Splitting
open SourceStream

variable (quality : QualityFilter) (cancelled : Bool) {readers : List Reader}

def streams (quality : QualityFilter) (cancelled : Bool) (readers : List Reader) :
    List SourceStream :=
  (framers quality readers).map (Framer.stream (if cancelled then some 0 else none))

theorem sources_streams (readers : List Reader) : (streams quality cancelled readers).map source =
    List.range readers.length := by
  rw [streams, framers, List.map_map, List.map_map]
  exact List.zipIdx_map_snd 0 readers |>.trans List.range_eq_range'.symm

theorem sent_items (readers : List Reader) :
    ((framers quality readers).map fun f => (sent cancelled f).1) =
      (streams quality cancelled readers).map SourceStream.items := by
  rw [streams, List.map_map]
  apply List.map_congr_left
  intro f _
  exact f.run_items _

theorem countP_streams (hne : readers ≠ []) :
    (streams quality cancelled readers).countP isFinal = 1 := by
  have hpos := List.length_pos_iff.2 hne
  have hlast : ∀ s ∈ streams quality cancelled readers,
      s.isFinal = true ↔ (s.source == readers.length - 1) = true := by
    intro s hs
    obtain ⟨_, hf, rfl⟩ := List.mem_map.1 hs
    obtain ⟨⟨r, i⟩, -, rfl⟩ := List.mem_map.1 hf
    change (i + 1 == readers.length) = true ↔ (i == readers.length - 1) = true
    rw [beq_iff_eq, beq_iff_eq]
    omega
  have hsource :
      (streams quality cancelled readers).countP (fun s => s.source == readers.length - 1) =
        (List.range readers.length).count (readers.length - 1) := by
    rw [← sources_streams quality cancelled, List.count, List.countP_map]
    rfl
  rw [List.countP_congr hlast, hsource]
  exact List.count_eq_one_of_mem List.nodup_range (List.mem_range.2 (by omega))

theorem run_framers (p : Setup) (hne : readers ≠ []) {items : List QueueItem}
    (h : Interleaving ((framers quality readers).map fun f => (sent cancelled f).1) items)
    (rest : List QueueItem) :
    (Processor.ofSetup p).run readers.length (items ++ rest) =
      (((Processor.ofSetup p).processAll ((QueueItem.records items).map RawRecord.bytes)).count
        { sourcesFinished := readers.length }, rest) := by
  have hs : ((streams quality cancelled readers).map source).Nodup := by
    rw [sources_streams]
    exact List.nodup_range
  have hlength : (streams quality cancelled readers).length = readers.length := by
    rw [streams, framers, List.length_map, List.length_map, List.length_zipIdx]
  rw [sent_items] at h
  rw [← hlength]
  exact Processor.run_eq _ hs (countP_streams quality cancelled hne) h rest

/-- The channels of a run are those of the records of its sources, one source after the other. -/
theorem runWith_channels (p : Setup) (hne : readers ≠ []) :
    (runWith p quality cancelled readers).channels =
      ((Processor.ofSetup p).processAll (((streams quality cancelled readers).flatMap
        SourceStream.records).map RawRecord.bytes)).finish.channels := by
  have hrun := run_framers quality cancelled p hne (.flatten _) []
  rw [List.append_nil, sent_items, records_flatten] at hrun
  have hitems : ((framers quality readers).map (sent cancelled)).flatMap (·.1) =
      ((streams quality cancelled readers).map SourceStream.items).flatten := by
    rw [← sent_items, List.flatMap_def, List.map_map]
    rfl
  rw [runWith]
  dsimp only
  rw [hitems, hrun]
  rfl

end Splitting
end SeedStream
