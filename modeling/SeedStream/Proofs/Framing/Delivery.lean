import SeedStream.Proofs.Framing.Concatenation

/-!
# How bytes are delivered

A framer asks its reader for the bytes of a chunk or of a record, and does not see in
which bursts they come. So a reader that delivers little at a time is framed like one
that delivers all at once, and a reader that stops early like one with fewer bytes. A
failure is counted in place of what it truncates. A framer that has stopped stays as it
is.
-/

set_option autoImplicit false

namespace SeedStream

/-- The counts at a stop, given those at the end of as many bytes. -/
def Stop.account (s : Stop) (stats : FramingStats) : FramingStats :=
  match s with
  | .failure => { stats with truncated := 0, ioErrors := 1 }
  | .exhausted | .pause => stats

namespace Framer

/-- The first framer reads, in whatever bursts and up to its stop, the bytes that are left to the
second one. -/
structure Mirrors (s : Stop) (f g : Framer) : Prop where
  live : g.Live
  done : f.done = false
  cancelled : f.cancelled = false
  source : f.source = g.source
  quality : f.quality = g.quality
  stats : f.stats = g.stats
  truncated : g.stats.truncated = 0
  ioErrors : g.stats.ioErrors = 0
  stops : f.reader.Stops g.reader.rest.length s
  front : g.reader.rest = f.reader.rest.take g.reader.rest.length

inductive FillMirrors (s : Stop) : Option Bytes × Framer → Option Bytes × Framer → Prop
  | got {f g : Framer} (b : Bytes) (h : Mirrors s f g) : FillMirrors s (some b, f) (some b, g)
  | stopped {f g : Framer} (h : f.stats = s.account g.stats) : FillMirrors s (none, f) (none, g)

inductive StepMirrors (s : Stop) : FramingStep → FramingStep → Prop
  | stop {f g : Framer} (h : f.stats = s.account g.stats) : StepMirrors s (.stop f) (.stop g)
  | skip {f g : Framer} (h : Mirrors s f g) : StepMirrors s (.skip f) (.skip g)
  | emit {f g : Framer} (r : RawRecord) (h : Mirrors s f g) : StepMirrors s (.emit r f) (.emit r g)

variable {s : Stop} {f g : Framer}

theorem Mirrors.count (h : Mirrors s f g) {c : FramingStats} (ht : c.truncated = 0)
    (hio : c.ioErrors = 0) : Mirrors s (f.count c) (g.count c) where
  live := h.live.count c
  done := h.done
  cancelled := h.cancelled
  source := h.source
  quality := h.quality
  stats := congrArg (·.add c) h.stats
  truncated := by simp [Framer.count, FramingStats.add, h.truncated, ht]
  ioErrors := by simp [Framer.count, FramingStats.add, h.ioErrors, hio]
  stops := h.stops
  front := h.front

theorem Mirrors.fillTo_some (h : Mirrors s f g) (held : Bytes) (target : Nat)
    (hle : target - held.length ≤ g.reader.rest.length) :
    FillMirrors s (f.fillTo held target) (g.fillTo held target) := by
  obtain ⟨hgot, hend, hstops⟩ := h.stops.fill (target - held.length)
  obtain ⟨g', hg, hlive, hsource, hquality, hrest, hstats⟩ := h.live.fillTo_some held target hle
  have hsame : f.reader.rest.take (target - held.length) =
      g.reader.rest.take (target - held.length) := by
    rw [h.front, List.take_take, Nat.min_eq_left hle]
  rw [Nat.min_eq_left hle, hsame] at hgot
  rw [if_pos hle] at hend
  have hleft : (f.reader.fill (target - held.length)).reader.rest =
      f.reader.rest.drop (target - held.length) := by
    have hall := f.reader.fill_append (target - held.length)
    rw [hgot, ← hsame] at hall
    exact List.append_cancel_left (hall.trans (List.take_append_drop _ _).symm)
  have hlength : g'.reader.rest.length = g.reader.rest.length - (target - held.length) := by
    rw [hrest, List.length_drop]
  rw [hg, Framer.fillTo]
  simp only [hend, hgot]
  refine .got _ ⟨hlive, h.done, h.cancelled, h.source.trans hsource.symm,
    h.quality.trans hquality.symm, ?_, ?_, ?_, ?_, ?_⟩
  · rw [hstats, ← h.stats, List.length_take, Nat.min_eq_left hle]
    rfl
  · simp [hstats, FramingStats.add, h.truncated]
  · simp [hstats, FramingStats.add, h.ioErrors]
  · rw [hlength]
    exact hstops hle
  · show g'.reader.rest = (f.reader.fill (target - held.length)).reader.rest.take _
    rw [hleft, hlength, ← List.drop_take, ← h.front, hrest]

theorem Mirrors.fillTo_none (h : Mirrors s f g) (held : Bytes) (target : Nat)
    (hlt : g.reader.rest.length < target - held.length) :
    FillMirrors s (f.fillTo held target) (g.fillTo held target) := by
  obtain ⟨hgot, hend, -⟩ := h.stops.fill (target - held.length)
  obtain ⟨g', hg, hstats⟩ := h.live.fillTo_none held target hlt
  rw [Nat.min_eq_right (Nat.le_of_lt hlt), ← h.front] at hgot
  rw [if_neg (Nat.not_le.2 hlt)] at hend
  rw [hg, Framer.fillTo]
  cases s with
  | failure =>
    simp only [hend, Stop.outcome, hgot]
    refine .stopped ?_
    simp [hstats, Stop.account, FramingStats.add, Framer.count, h.stats, h.truncated, h.ioErrors]
  | exhausted | pause =>
    simp only [hend, Stop.outcome, hgot]
    refine .stopped ?_
    simp [hstats, Stop.account, FramingStats.add, Framer.count, h.stats]

theorem Mirrors.fillTo (h : Mirrors s f g) (held : Bytes) (target : Nat) :
    FillMirrors s (f.fillTo held target) (g.fillTo held target) := by
  by_cases hle : target - held.length ≤ g.reader.rest.length
  · exact h.fillTo_some held target hle
  · exact h.fillTo_none held target (Nat.not_le.1 hle)

theorem Mirrors.step (h : Mirrors s f g) : StepMirrors s f.step g.step := by
  have hchunk := h.fillTo [] Header.frameSize
  simp only [Framer.step, h.done, h.cancelled, h.live.done, h.live.cancelled, Bool.false_eq_true,
    if_false]
  generalize f.fillTo [] Header.frameSize = atF at hchunk ⊢
  generalize g.fillTo [] Header.frameSize = atG at hchunk ⊢
  cases hchunk with
  | stopped hstats => exact .stop hstats
  | got chunk hread =>
    rename_i f g
    simp only [hread.quality]
    cases ChunkKind.screen g.quality chunk with
    | unwanted => exact .skip (hread.count rfl rfl)
    | malformed => exact .skip (hread.count rfl rfl)
    | heartbeat n =>
      have hwhole := (hread.count (c := { heartbeats := 1 }) rfl rfl).fillTo chunk n
      simp only
      generalize (f.count { heartbeats := 1 }).fillTo chunk n = atF at hwhole ⊢
      generalize (g.count { heartbeats := 1 }).fillTo chunk n = atG at hwhole ⊢
      cases hwhole with
      | stopped hstats => exact .stop hstats
      | got _ hread => exact .skip hread
    | record n =>
      have hwhole := hread.fillTo chunk n
      simp only
      generalize f.fillTo chunk n = atF at hwhole ⊢
      generalize g.fillTo chunk n = atG at hwhole ⊢
      cases hwhole with
      | stopped hstats => exact .stop hstats
      | got bytes hread =>
        simp only [hread.source]
        exact .emit _ (hread.count rfl rfl)

theorem Mirrors.records (h : Mirrors s f g) :
    f.records.1 = g.records.1 ∧ f.records.2.stats = s.account g.records.2.stats := by
  -- Each step that goes on shortens what is left to the second framer.
  induction hn : g.reader.rest.length using Nat.strong_induction_on generalizing f g with
  | _ n ih =>
    subst hn
    have hsteps := h.step
    generalize hf : f.step = stepF at hsteps
    generalize hg : g.step = stepG at hsteps
    cases hsteps with
    | stop hstats =>
      rw [records_none (next_stop hf), records_none (next_stop hg)]
      exact ⟨rfl, hstats⟩
    | skip hnext =>
      rw [records_congr (next_skip hf), records_congr (next_skip hg)]
      exact ih _ (step_rest (.inl hg)) hnext rfl
    | emit r hnext =>
      obtain ⟨hrecords, hstats⟩ := ih _ (step_rest (.inr ⟨r, hg⟩)) hnext rfl
      rw [records_some (next_emit hf), records_some (next_emit hg)]
      exact ⟨congrArg (r :: ·) hrecords, hstats⟩

theorem mirrors_ofReader {r : Reader} {n : Nat} (h : r.Stops n s) (source : Nat)
    (quality : QualityFilter) (isFinal : Bool) :
    Mirrors s (ofReader r source quality isFinal)
      (ofReader (.plain (r.rest.take n)) source quality isFinal) := by
  have hlength : (r.rest.take n).length = n := by
    rw [List.length_take, Nat.min_eq_left h.within]
  refine ⟨plain_live _ _ _ _, rfl, rfl, rfl, rfl, rfl, rfl, rfl, ?_, ?_⟩
  · show r.Stops (r.rest.take n).length s
    rwa [hlength]
  · show r.rest.take n = r.rest.take (r.rest.take n).length
    rw [hlength]

theorem fillTo_stopped {held : Bytes} {target : Nat} (h : f.fillTo held target = (none, g)) :
    g.done = true := by
  unfold fillTo at h
  simp only at h
  split at h
  next => cases h
  next =>
    injection h with _ h
    rw [← h]
    rfl
  next =>
    injection h with _ h
    rw [← h]
    rfl

theorem step_stopped (h : f.step = .stop g) : g.done = true := by
  unfold step at h
  split at h
  next hdone =>
    injection h with h
    rwa [← h]
  next =>
    split at h
    next =>
      injection h with h
      rw [← h]
    next =>
      split at h
      next hread =>
        injection h with h
        exact h ▸ fillTo_stopped hread
      next =>
        split at h
        next =>
          split at h
          next hread =>
            injection h with h
            exact h ▸ fillTo_stopped hread
          next => cases h
        next => cases h
        next => cases h
        next =>
          split at h
          next hread =>
            injection h with h
            exact h ▸ fillTo_stopped hread
          next => cases h

theorem next_stopped (h : f.next = (none, g)) : g.done = true := by
  fun_induction next f with
  | case1 f f' hstep =>
    cases h
    exact step_stopped hstep
  | case2 f f' hstep ih => exact ih h
  | case3 => cases h

theorem records_stopped (f : Framer) : f.records.2.done = true := by
  induction hn : f.reader.rest.length using Nat.strong_induction_on generalizing f with
  | _ n ih =>
    subst hn
    cases hf : f.next with
    | mk r g =>
      cases r with
      | none =>
        rw [records_none hf]
        exact next_stopped hf
      | some r =>
        rw [records_some hf]
        exact ih _ (next_rest hf) g rfl

theorem next_of_done (h : f.done = true) : f.next = (none, f) := by
  apply next_stop
  rw [step, if_pos h]

/-- A reader that stops is framed as the bytes up to its stop are, all delivered at once:
the records are the same and the counts are, with a failure in place of what it truncates.
A framer that has found no record finds none again and stays as it is. -/
theorem records_delivered {r : Reader} {n : Nat} {s : Stop} (h : r.Stops n s) (source : Nat)
    (quality : QualityFilter) (isFinal : Bool) :
    let plain := (ofReader (.plain (r.rest.take n)) source quality isFinal).records
    let out := (ofReader r source quality isFinal).records
    out.1 = plain.1 ∧ out.2.stats = s.account plain.2.stats ∧ out.2.stats.bytesRead = n ∧
      out.2.next = (none, out.2) := by
  intro plain out
  obtain ⟨hrecords, hstats⟩ := (mirrors_ofReader h source quality isFinal).records
  obtain ⟨pieces, htiles⟩ := exists_tiles quality (r.rest.take n)
  have hread : plain.2.stats.bytesRead = n := by
    rw [(records_of_tiles htiles source isFinal).2, totals_eq, htiles.joined, List.length_take,
      Nat.min_eq_left h.within]
  refine ⟨hrecords, hstats, ?_, next_of_done (records_stopped _)⟩
  rw [hstats]
  cases s <;> exact hread

/-- Two records in bursts of one to seven bytes, with three calls interrupted and a failure
inside the second record. -/
theorem records_delivered_of_failure :
    ∃ b : Bytes,
      Draft.longPeriod.encode [1, 2, 3] = .ok b ∧
      let r : Reader :=
        { rest := b ++ b, position := 0, burst := fun k => k % 7 + 1, interrupts := [0, 0, 300]
          failAt := some 700, pauseAt := none }
      let plain := (ofReader (.plain ((b ++ b).take 700)) 0 .standard true).records
      let out := (ofReader r 0 .standard true).records
      r.Stops 700 .failure ∧ out.1 = [⟨0, b⟩] ∧
      plain.2.stats = { bytesRead := 700, records := 1, truncated := 1 } ∧
      out.2.stats = { bytesRead := 700, records := 1, ioErrors := 1 } ∧
      out.2.next = (none, out.2) := by
  let d := Draft.longPeriod
  let b := (d.encode [1, 2, 3]).toOption.getD []
  let r : Reader :=
    { rest := b ++ b, position := 0, burst := fun k => k % 7 + 1, interrupts := [0, 0, 300]
      failAt := some 700, pauseAt := none }
  have hstops : r.Stops 700 .failure :=
    ⟨rfl, rfl, by decide +kernel, nofun, fun _ _ => Nat.succ_pos _⟩
  have hrecord : Piece.Sound .standard ⟨.record, b⟩ := by
    unfold Piece.Sound
    decide +kernel
  have hrest : Piece.Sound .standard ⟨.incomplete, b.take 188⟩ :=
    ⟨by decide +kernel, .inl (by decide +kernel)⟩
  have hfront : (b ++ b).take 700 = b ++ b.take 188 := by decide +kernel
  have htiles : Tiles .standard ((b ++ b).take 700)
      [⟨.record, b⟩, ⟨.incomplete, b.take 188⟩] :=
    hfront ▸ .cons hrecord (by simp [Piece.IsPartial]) (.singleton hrest)
  obtain ⟨hplainRecords, hplainStats⟩ := records_of_tiles htiles 0 true
  have hcounts : totals [⟨.record, b⟩, ⟨.incomplete, b.take 188⟩] =
      { bytesRead := 700, records := 1, truncated := 1 } := by
    decide +kernel
  rw [hcounts] at hplainStats
  obtain ⟨hrecords, hstats, -, hstays⟩ := records_delivered hstops 0 .standard true
  exact ⟨b, by decide +kernel, hstops, hrecords.trans hplainRecords, hplainStats,
    hstats.trans (congrArg (Stop.account .failure) hplainStats), hstays⟩

end Framer
end SeedStream
