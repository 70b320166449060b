import SeedStream.Proofs.Framing.Announced
import SeedStream.Proofs.Record.Bounds

/-!
# Framing in a buffer

A framer may keep the bytes at hand in a buffer of fixed size, as long as the longest
record, and look at them through windows of the buffer. Here a window that does not lie
in the buffer stops everything. It never does: a framer with a buffer takes every step
that a framer takes, from every state that it can reach.
-/

set_option autoImplicit false

namespace SeedStream

theorem Bytes.length_of_slice? {b x : Bytes} {start stop : Nat} (h : b.slice? start stop = some x) :
    x.length = stop - start := by
  unfold slice? at h
  split at h
  next hle =>
    cases h
    rw [List.length_take, List.length_drop]
    omega
  next => cases h

namespace Reader

variable {r r' : Reader} {want : Nat} {b : Bytes}

theorem fill_interrupted (hw : want ≠ 0) (h : r.read want = .interrupted r') :
    r.fill want = r'.fill want := by
  rw [fill, if_neg hw]
  split <;> simp_all

theorem fill_failed (hw : want ≠ 0) (h : r.read want = .failed r') :
    r.fill want = ⟨[], .failed, r'⟩ := by
  rw [fill, if_neg hw]
  split <;> simp_all

theorem fill_ended (hw : want ≠ 0) (h : r.read want = .ended r') :
    r.fill want = ⟨[], .ended, r'⟩ := by
  rw [fill, if_neg hw]
  split <;> simp_all

theorem fill_delivered (hw : want ≠ 0) (h : r.read want = .delivered b r') :
    r.fill want = ⟨b ++ (r'.fill (want - b.length)).got, (r'.fill (want - b.length)).outcome,
      (r'.fill (want - b.length)).reader⟩ := by
  rw [fill, if_neg hw]
  split <;> simp_all

end Reader

/-- A framer with a buffer, of which the first bytes are filled. -/
structure Buffered where
  framer : Framer
  cells : Bytes
  filled : Nat

inductive BufferedStep
  | stop (s : Buffered)
  | skip (s : Buffered)
  | emit (r : RawRecord) (s : Buffered)

def BufferedStep.framing : BufferedStep → FramingStep
  | .stop s => .stop s.framer
  | .skip s => .skip s.framer
  | .emit r s => .emit r s.framer

def BufferedStep.state : BufferedStep → Buffered
  | .stop s => s
  | .skip s => s
  | .emit _ s => s

namespace Buffered

def longest : Nat := 16384

def ofFramer (f : Framer) : Buffered := ⟨f, List.replicate longest 0, 0⟩

def count (s : Buffered) (c : FramingStats) : Buffered := { s with framer := s.framer.count c }

def put (s : Buffered) (b : Bytes) (r : Reader) : Buffered where
  framer := { s.framer with reader := r }.count { bytesRead := b.length }
  cells := s.cells.take s.filled ++ b ++ s.cells.drop (s.filled + b.length)
  filled := s.filled + b.length

def withReader (s : Buffered) (r : Reader) : Buffered :=
  { s with framer := { s.framer with reader := r } }

/-- Read into the window up to `target` until it is full or the input stops. -/
def fill (s : Buffered) (target : Nat) : Option (FillEnd × Buffered) :=
  if target ≤ s.filled then some (.complete, s)
  else match s.cells.slice? s.filled target with
    | none => none
    | some window =>
      match _h : s.framer.reader.read window.length with
      | .interrupted r => (s.withReader r).fill target
      | .failed r => some (.failed, s.withReader r)
      | .ended r => some (.ended, s.withReader r)
      | .delivered b r => (s.put b r).fill target
termination_by s.framer.reader.weight
decreasing_by
  · exact (Reader.rest_of_interrupted _h).2
  · exact Reader.weight_of_delivered _h

def finish (s : Buffered) (c : FramingStats) : Buffered :=
  { s with framer := { s.framer with done := true }.count c }

def fillTo (s : Buffered) (target : Nat) : Option (Bool × Buffered) :=
  match s.fill target with
  | none => none
  | some (.complete, s) => some (true, s)
  | some (.ended, s) => some (false, s.finish { truncated := if 0 < s.filled then 1 else 0 })
  | some (.failed, s) => some (false, s.finish { ioErrors := 1 })

def look (s : Buffered) : Option BufferedStep := do
  let chunk ← s.cells.slice? 0 Header.frameSize
  if Header.isHeartbeatBytes chunk then
    match Header.crackLength chunk with
    | .ok length =>
      let (more, s) ← (s.count { heartbeats := 1 }).fillTo length
      return if more then .skip s else .stop s
    | .error _ => return .skip (s.count { heartbeats := 1 })
  else
    let quality ← s.cells[ChunkKind.qualityOffset]?
    if !s.framer.quality.accepts quality then
      return .skip (s.count { qualityRejected := 1 })
    else match Header.crackLength chunk with
      | .error _ => return .skip (s.count { chunksDiscarded := 1 })
      | .ok length =>
        let (more, s) ← s.fillTo length
        if more then
          let bytes ← s.cells.slice? 0 length
          return .emit ⟨s.framer.source, bytes⟩ (s.count { records := 1 })
        else return .stop s

def step (s : Buffered) : Option BufferedStep :=
  if s.framer.done then some (.stop s)
  else if s.framer.cancelled then some (.stop { s with framer := { s.framer with done := true } })
  else do
    let (more, s) ← { s with filled := 0 }.fillTo Header.frameSize
    if more then s.look else return .stop s

def held (s : Buffered) : Bytes := s.cells.take s.filled

structure Sized (s : Buffered) : Prop where
  length : s.cells.length = longest
  filled : s.filled ≤ longest

variable {s t : Buffered} {target : Nat}

theorem Sized.length_held (h : s.Sized) : s.held.length = s.filled := by
  rw [held, List.length_take, h.length]
  exact Nat.min_eq_left h.filled

theorem sized_ofFramer (f : Framer) : (ofFramer f).Sized where
  length := List.length_replicate
  filled := Nat.zero_le _

theorem Sized.put (h : s.Sized) {b : Bytes} (r : Reader) (hb : s.filled + b.length ≤ longest) :
    (s.put b r).Sized where
  length := by
    have hlength := h.length
    have hfilled := h.filled
    simp only [Buffered.put, List.length_append, List.length_take, List.length_drop]
    omega
  filled := hb

theorem Sized.held_put (h : s.Sized) (b : Bytes) (r : Reader) :
    (s.put b r).held = s.held ++ b := by
  have hlen : (s.held ++ b).length = s.filled + b.length := by
    rw [List.length_append, h.length_held]
  exact List.take_left' hlen

theorem Sized.window (h : s.Sized) (hlo : s.filled ≤ target) (ht : target ≤ longest) :
    ∃ window, s.cells.slice? s.filled target = some window := by
  have hlength := h.length
  exact ⟨_, by rw [Bytes.slice?, if_pos ⟨hlo, by omega⟩]⟩

theorem Sized.withReader (h : s.Sized) (r : Reader) : (s.withReader r).Sized :=
  ⟨h.length, h.filled⟩

structure Filled (s : Buffered) (got : Fill) (t : Buffered) : Prop where
  sized : t.Sized
  held : t.held = s.held ++ got.got
  framer : t.framer = { s.framer with reader := got.reader }.count { bytesRead := got.got.length }

theorem Sized.filled_nothing (h : s.Sized) (r : Reader) (e : FillEnd) :
    s.Filled ⟨[], e, r⟩ (s.withReader r) :=
  ⟨h.withReader r, (List.append_nil _).symm, rfl⟩

theorem Filled.withReader {r : Reader} {got : Fill} (hf : (s.withReader r).Filled got t) :
    s.Filled got t :=
  ⟨hf.sized, hf.held, hf.framer⟩

theorem Filled.put (h : s.Sized) {b : Bytes} {r : Reader} {got : Fill}
    (hf : (s.put b r).Filled got t) : s.Filled ⟨b ++ got.got, got.outcome, got.reader⟩ t where
  sized := hf.sized
  held := by rw [hf.held, h.held_put, List.append_assoc]
  framer := by
    rw [hf.framer]
    simp only [Buffered.put, Framer.count, FramingStats.add_assoc]
    simp [FramingStats.add]

/-- Filling the buffer is filling from the reader, and no window leaves the buffer. -/
theorem Sized.fill (h : s.Sized) (ht : target ≤ longest) :
    ∃ t, s.fill target = some ((s.framer.reader.fill (target - s.filled)).outcome, t) ∧
      s.Filled (s.framer.reader.fill (target - s.filled)) t := by
  -- Each call asks for what is missing in the window, as filling from the reader does.
  fun_induction Buffered.fill s target with
  | case1 s hle =>
    rw [Nat.sub_eq_zero_of_le hle, Reader.fill, if_pos rfl]
    exact ⟨s, rfl, h.filled_nothing s.framer.reader .complete⟩
  | case2 s hgt hnone =>
    obtain ⟨window, hwindow⟩ := h.window (by omega) ht
    cases hnone.symm.trans hwindow
  | case3 s hgt window hwindow r hread ih =>
    rw [Bytes.length_of_slice? hwindow] at hread
    rw [Reader.fill_interrupted (by omega) hread]
    obtain ⟨t, hfill, hfilled⟩ := ih (h.withReader r)
    exact ⟨t, hfill, hfilled.withReader⟩
  | case4 s hgt window hwindow r hread =>
    rw [Bytes.length_of_slice? hwindow] at hread
    rw [Reader.fill_failed (by omega) hread]
    exact ⟨_, rfl, h.filled_nothing r .failed⟩
  | case5 s hgt window hwindow r hread =>
    rw [Bytes.length_of_slice? hwindow] at hread
    rw [Reader.fill_ended (by omega) hread]
    exact ⟨_, rfl, h.filled_nothing r .ended⟩
  | case6 s hgt window hwindow b r hread ih =>
    rw [Bytes.length_of_slice? hwindow] at hread
    have hb := (Reader.rest_of_delivered hread).2.2.1
    have hleft : target - (s.put b r).filled = target - s.filled - b.length := Nat.sub_add_eq ..
    obtain ⟨t, hfill, hfilled⟩ := ih (h.put r (by omega))
    rw [hleft] at hfill hfilled
    rw [Reader.fill_delivered (by omega) hread]
    exact ⟨t, hfill, hfilled.put h⟩

theorem Sized.fillTo (h : s.Sized) (ht : target ≤ longest) : ∃ more t,
    s.fillTo target = some (more, t) ∧ t.Sized ∧
      s.framer.fillTo s.held target = (if more then some t.held else none, t.framer) ∧
      (more = true → s.filled ≤ target → t.cells.slice? 0 target = some t.held) := by
  obtain ⟨t, hfill, hf⟩ := h.fill ht
  have hlen := hf.sized.length_held
  have hheld := congrArg List.length hf.held
  rw [List.length_append, h.length_held, hlen] at hheld
  unfold Buffered.fillTo Framer.fillTo
  rw [hfill, h.length_held]
  cases hend : (s.framer.reader.fill (target - s.filled)).outcome with
  | complete =>
    refine ⟨true, t, rfl, hf.sized, ?_, ?_⟩
    · simp only [hend, if_true, hf.held, hf.framer]
    · intro _ hle
      have hgot := Reader.fill_length _ _ hend
      have hfilled : t.filled = target := by omega
      have hlength := hf.sized.length
      rw [Bytes.slice?, if_pos ⟨Nat.zero_le _, by omega⟩, List.drop_zero, Nat.sub_zero, held,
        hfilled]
  | ended =>
    refine ⟨false, t.finish _, rfl, ⟨hf.sized.length, hf.sized.filled⟩, ?_, by simp⟩
    have hempty : (if (s.held ++ (s.framer.reader.fill (target - s.filled)).got).isEmpty
        then 0 else 1) = if 0 < t.filled then 1 else 0 := by
      rw [← hf.held, ← hlen]
      cases t.held <;> simp
    simp only [hend, hempty, Buffered.finish, hf.framer, Bool.false_eq_true, if_false]
  | failed =>
    refine ⟨false, t.finish _, rfl, ⟨hf.sized.length, hf.sized.filled⟩, ?_, by simp⟩
    simp only [hend, Buffered.finish, hf.framer, Bool.false_eq_true, if_false]

theorem Sized.count (h : s.Sized) (c : FramingStats) : (s.count c).Sized := ⟨h.length, h.filled⟩

theorem Sized.quality (h : s.Sized) (hlen : s.held.length = Header.frameSize) :
    s.cells[ChunkKind.qualityOffset]? = some (s.held.getD ChunkKind.qualityOffset 0) := by
  have hlt : ChunkKind.qualityOffset < s.filled := by
    rw [← h.length_held, hlen]
    decide
  have hin : ChunkKind.qualityOffset < s.cells.length := by
    rw [h.length]
    decide
  rw [List.getD_eq_getElem?_getD, held, List.getElem?_take_of_lt hlt, List.getElem?_eq_getElem hin]
  rfl

end Buffered

def Framer.look (f : Framer) (chunk : Bytes) : FramingStep :=
  match ChunkKind.screen f.quality chunk with
  | .heartbeat length =>
    match (f.count { heartbeats := 1 }).fillTo chunk length with
    | (none, f) => .stop f
    | (some _, f) => .skip f
  | .unwanted => .skip (f.count { qualityRejected := 1 })
  | .malformed => .skip (f.count { chunksDiscarded := 1 })
  | .record length =>
    match f.fillTo chunk length with
    | (none, f) => .stop f
    | (some bytes, f) => .emit ⟨f.source, bytes⟩ (f.count { records := 1 })

theorem Framer.fillTo_held (f : Framer) {held : Bytes} {target : Nat} (h : target ≤ held.length) :
    f.fillTo held target = (some held, f) := by
  have hfill : f.reader.fill (target - held.length) = ⟨[], .complete, f.reader⟩ := by
    rw [Nat.sub_eq_zero_of_le h, Reader.fill, if_pos rfl]
  rw [fillTo, hfill]
  simp [count, FramingStats.add]

namespace Buffered

variable {s t : Buffered}

theorem Sized.look_heartbeat (h : s.Sized)
    (hheld : s.cells.slice? 0 Header.frameSize = some s.held)
    (hb : Header.isHeartbeatBytes s.held = true) :
    ∃ r, s.look = some r ∧ r.framing = s.framer.look s.held ∧ r.state.Sized := by
  unfold Buffered.look Framer.look
  simp only [hheld, Option.bind_eq_bind, Option.bind_some, if_pos hb]
  cases hc : Header.crackLength s.held with
  | error e =>
    have hlen : Header.frameSize ≤ s.held.length :=
      Nat.le_of_eq (Bytes.length_of_slice? hheld).symm
    rw [ChunkKind.screen_unsized hb hc]
    simp only [Framer.fillTo_held _ hlen]
    exact ⟨_, rfl, rfl, h.count _⟩
  | ok length =>
    rw [ChunkKind.screen_heartbeat hb hc]
    obtain ⟨more, t, hfill, ht, hframer, -⟩ := (h.count { heartbeats := 1 }).fillTo
      (show length ≤ longest from (Header.crackLength_isLength hc).le_longest)
    have hframer' : (s.framer.count { heartbeats := 1 }).fillTo s.held length =
      (if more then some t.held else none, t.framer) := hframer
    simp only [hfill, hframer', Option.bind_some]
    cases more
    · exact ⟨_, rfl, rfl, ht⟩
    · exact ⟨_, rfl, rfl, ht⟩

theorem Sized.look_record (h : s.Sized)
    (hheld : s.cells.slice? 0 Header.frameSize = some s.held)
    (hb : ¬ Header.isHeartbeatBytes s.held = true) :
    ∃ r, s.look = some r ∧ r.framing = s.framer.look s.held ∧ r.state.Sized := by
  have hlen : s.held.length = Header.frameSize := Bytes.length_of_slice? hheld
  unfold Buffered.look Framer.look
  simp only [hheld, Option.bind_eq_bind, Option.bind_some, if_neg hb, h.quality hlen]
  by_cases hq : s.framer.quality.accepts (s.held.getD ChunkKind.qualityOffset 0) = true
  · simp only [hq, Bool.not_true, Bool.false_eq_true, if_false]
    cases hc : Header.crackLength s.held with
    | error e =>
      rw [ChunkKind.screen_malformed hb hq hc]
      exact ⟨_, rfl, rfl, h.count _⟩
    | ok length =>
      rw [ChunkKind.screen_record hb hq hc]
      have hlength := Header.crackLength_isLength hc
      obtain ⟨more, t, hfill, ht, hframer, hwindow⟩ :=
        h.fillTo (show length ≤ longest from hlength.le_longest)
      have hfilled : s.filled ≤ length := by
        rw [← h.length_held, hlen]
        exact hlength.le
      simp only [hfill, hframer, Option.bind_some]
      cases more with
      | false => exact ⟨_, rfl, rfl, ht⟩
      | true =>
        simp only [if_true, hwindow rfl hfilled, Option.bind_some]
        exact ⟨_, rfl, rfl, ht.count _⟩
  · rw [ChunkKind.screen_unwanted hb hq]
    simp only [hq, Bool.not_false, if_true]
    exact ⟨_, rfl, rfl, h.count _⟩

theorem Sized.look (h : s.Sized) (hheld : s.cells.slice? 0 Header.frameSize = some s.held) :
    ∃ r, s.look = some r ∧ r.framing = s.framer.look s.held ∧ r.state.Sized := by
  by_cases hb : Header.isHeartbeatBytes s.held = true
  · exact h.look_heartbeat hheld hb
  · exact h.look_record hheld hb

theorem Sized.step (h : s.Sized) :
    ∃ r, s.step = some r ∧ r.framing = s.framer.step ∧ r.state.Sized := by
  unfold Buffered.step Framer.step
  by_cases hdone : s.framer.done = true
  · rw [if_pos hdone, if_pos hdone]
    exact ⟨_, rfl, rfl, h⟩
  rw [if_neg hdone, if_neg hdone]
  by_cases hcancelled : s.framer.cancelled = true
  · rw [if_pos hcancelled, if_pos hcancelled]
    exact ⟨_, rfl, rfl, h.length, h.filled⟩
  rw [if_neg hcancelled, if_neg hcancelled]
  have hempty : Sized { s with filled := 0 } := ⟨h.length, Nat.zero_le _⟩
  obtain ⟨more, t, hfill, ht, hframer, hwindow⟩ :=
    hempty.fillTo (show Header.frameSize ≤ longest by decide)
  have hnone : held { s with filled := 0 } = [] := List.take_zero
  rw [hnone] at hframer
  rw [hfill, hframer]
  cases more with
  | false => exact ⟨_, rfl, rfl, ht⟩
  | true => exact ht.look (hwindow rfl (Nat.zero_le _))

inductive Reaches (s : Buffered) : Buffered → Prop
  | refl : Reaches s s
  | step {t : Buffered} {r : BufferedStep} (h : Reaches s t) (hr : t.step = some r) :
      Reaches s r.state
  | cancel {t : Buffered} (h : Reaches s t) :
      Reaches s { t with framer := t.framer.cancel }

theorem Sized.reaches (h : s.Sized) (hr : s.Reaches t) : t.Sized := by
  induction hr with
  | refl => exact h
  | step _ hstep ih =>
    obtain ⟨r, hr, -, hsized⟩ := ih.step
    cases hstep.symm.trans hr
    exact hsized
  | cancel _ ih => exact ⟨ih.length, ih.filled⟩

end Buffered

namespace FramingStats

def screened (c : FramingStats) : Nat :=
  c.records + c.chunksDiscarded + c.qualityRejected + c.heartbeats

@[simp] theorem screened_add (a b : FramingStats) :
    (a.add b).screened = a.screened + b.screened := by
  simp only [screened, add]
  omega

end FramingStats

namespace Framer

variable {f g : Framer} {held : Bytes} {target : Nat}

/-- Reading on counts nothing as looked at, and a framer whose input stops is done. -/
theorem fillTo_screened (f : Framer) (held : Bytes) (target : Nat) :
    (f.fillTo held target).2.stats.screened = f.stats.screened ∧
      ((f.fillTo held target).1 = none → (f.fillTo held target).2.done = true) := by
  unfold fillTo
  cases hend : (f.reader.fill (target - held.length)).outcome <;>
    simp [hend, count, FramingStats.screened, FramingStats.add]

/-- A step ends the run, or counts one chunk or record more than a framer had counted. -/
def Counted (f : Framer) : FramingStep → Prop
  | .stop g => g.done = true
  | .skip g => g.stats.screened = f.stats.screened + 1
  | .emit _ g => g.stats.screened = f.stats.screened + 1

theorem look_counted (f : Framer) (chunk : Bytes) : f.Counted (f.look chunk) := by
  unfold look
  cases ChunkKind.screen f.quality chunk with
  | unwanted => exact FramingStats.screened_add f.stats { qualityRejected := 1 }
  | malformed => exact FramingStats.screened_add f.stats { chunksDiscarded := 1 }
  | heartbeat length =>
    dsimp only
    have h := (f.count { heartbeats := 1 }).fillTo_screened chunk length
    generalize (f.count { heartbeats := 1 }).fillTo chunk length = p at h ⊢
    obtain ⟨bytes, g⟩ := p
    cases bytes with
    | none => exact h.2 rfl
    | some bytes => exact h.1.trans (FramingStats.screened_add f.stats { heartbeats := 1 })
  | record length =>
    dsimp only
    have h := f.fillTo_screened chunk length
    generalize f.fillTo chunk length = p at h ⊢
    obtain ⟨bytes, g⟩ := p
    cases bytes with
    | none => exact h.2 rfl
    | some bytes =>
      exact (FramingStats.screened_add g.stats { records := 1 }).trans (congrArg (· + 1) h.1)

theorem step_counted (f : Framer) : f.Counted f.step := by
  by_cases hdone : f.done = true
  · rw [step, if_pos hdone]
    exact hdone
  by_cases hcancelled : f.cancelled = true
  · rw [step, if_neg hdone, if_pos hcancelled]
    exact rfl
  rw [step, if_neg hdone, if_neg hcancelled]
  have h := f.fillTo_screened [] Header.frameSize
  generalize f.fillTo [] Header.frameSize = p at h ⊢
  obtain ⟨chunk, g⟩ := p
  cases chunk with
  | none => exact h.2 rfl
  | some chunk =>
    have hlook := g.look_counted chunk
    unfold Counted at hlook ⊢
    rw [← h.1]
    exact hlook

end Framer

/-- No field, window or slice leaves its buffer, whatever the bytes are: neither in looking for
a heartbeat or for the length of a record, nor in parsing and in reading any blockette of a
chain, nor in taking the payload and its samples, nor in any state of a framer with a buffer
as long as the longest record. The framer steps as one without a buffer does, and
every step ends the run or is counted. -/
theorem accesses_inBounds :
    (∀ b, ∃ answer, Header.heartbeatSignature b = .ok answer) ∧
    (∀ b, InBounds (Header.crackLength b)) ∧
    (∀ b, InBounds (Header.parse b)) ∧
    (∀ f blockettes, Blockette.chain f = .ok blockettes → ∀ x ∈ blockettes,
      x.offset + 4 ≤ f.bytes.length ∧
      (x.offset + Blockette.dataSize ≤ f.bytes.length →
        InBounds (Header.readDataBlockette f x.offset)) ∧
      (x.offset + Blockette.timingSize ≤ f.bytes.length → InBounds (f.u8 (x.offset + 4))) ∧
      (x.offset + Blockette.calibrationSize ≤ f.bytes.length →
        InBounds (Header.readCalibration f x.offset))) ∧
    (∀ (h : Header) record start stop size,
      h.payload record ≠ .error (.outOfBounds start stop size)) ∧
    (∀ (h : Header) payload, (∀ start stop size,
      RawInteger.decode h payload ≠ .error (.outOfBounds start stop size)) ∧
      ∀ width b, payload.slice? 0 (h.sampleCount.toNat * width) = some b →
        ∀ word ∈ RawInteger.words width h.sampleCount.toNat b, word.length = width) ∧
    ∀ reader source quality isFinal s,
      (Buffered.ofFramer (.ofReader reader source quality isFinal)).Reaches s →
        ∃ r, s.step = some r ∧ r.framing = s.framer.step ∧
          s.framer.Counted s.framer.step := by
  refine ⟨Header.heartbeatSignature_ok, Header.crackLength_inBounds, Header.parse_inBounds, ?_,
    Header.payload_inBounds, ?_, ?_⟩
  · intro f blockettes hchain x hx
    obtain ⟨first, -, hwalk⟩ := bind_eq_ok.1 hchain
    refine ⟨Blockette.link_le_of_mem hwalk hx, Header.readDataBlockette_inBounds,
      fun htiming => ?_, Header.readCalibration_inBounds⟩
    rw [Blockette.timingSize] at htiming
    exact Fields.u8_inBounds (by omega)
  · intro h payload
    refine ⟨RawInteger.decode_inBounds h payload, fun width b hb word hword => ?_⟩
    have hlen := Bytes.length_of_slice? hb
    exact RawInteger.length_of_mem_words (by omega) hword
  · intro reader source quality isFinal s hs
    obtain ⟨r, hr, hframing, -⟩ := ((Buffered.sized_ofFramer _).reaches hs).step
    exact ⟨r, hr, hframing, s.framer.step_counted⟩

/-- A record with one blockette, and a framer that has taken it into its buffer. -/
theorem accesses_inBounds_of_record :
    Blockette.chain ⟨Bytes.singlyAnnounced, .big⟩ = .ok [⟨1000, 48⟩] ∧
      InBounds (Header.readDataBlockette ⟨Bytes.singlyAnnounced, .big⟩ 48) ∧
      ∃ r, (Buffered.ofFramer
          (.ofReader (.plain Bytes.singlyAnnounced) 0 .standard true)).step = some r ∧
        ∃ r', r.state.step = some r' := by
  obtain ⟨-, -, -, hblockettes, -, -, hstates⟩ := accesses_inBounds
  have hchain : Blockette.chain ⟨Bytes.singlyAnnounced, .big⟩ = .ok [⟨1000, 48⟩] := by
    decide +kernel
  have hroom : 48 + Blockette.dataSize ≤ Bytes.singlyAnnounced.length := by decide +kernel
  obtain ⟨r, hr, -⟩ := hstates (.plain Bytes.singlyAnnounced) 0 .standard true _ .refl
  obtain ⟨r', hr', -⟩ := hstates _ 0 .standard true _ (.step .refl hr)
  exact ⟨hchain, (hblockettes _ _ hchain ⟨1000, 48⟩ List.mem_cons_self).2.1 hroom, r, hr,
    r', hr'⟩

end SeedStream
