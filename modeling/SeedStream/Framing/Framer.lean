import SeedStream.Framing.Reader
import SeedStream.Record.Header
import SeedStream.Selection.Quality

/-!
# Framing

A framer cuts an input into records. It looks at one chunk of 256 bytes after
the other. A chunk is the start of a heartbeat, has a quality that is not
wanted, is no header, or starts a record whose length its header gives. Bytes
are dropped in whole chunks, so framing goes on at the next chunk boundary.
-/

set_option autoImplicit false

namespace SeedStream

structure RawRecord where
  source : Nat
  bytes : Bytes
deriving DecidableEq, Repr

def RawRecord.quality? (r : RawRecord) : Option UInt8 := r.bytes[6]?

inductive QueueItem
  | record (r : RawRecord)
  | endOfSource (source : Nat)
  | endOfStream
deriving DecidableEq, Repr

def QueueItem.isSentinel : QueueItem → Bool
  | .record _ => false
  | _ => true

structure FramingStats where
  bytesRead : Nat := 0
  records : Nat := 0
  chunksDiscarded : Nat := 0
  qualityRejected : Nat := 0
  heartbeats : Nat := 0
  truncated : Nat := 0
  ioErrors : Nat := 0
deriving DecidableEq, Repr, Inhabited

def FramingStats.add (a b : FramingStats) : FramingStats :=
  ⟨a.bytesRead + b.bytesRead, a.records + b.records, a.chunksDiscarded + b.chunksDiscarded,
    a.qualityRejected + b.qualityRejected, a.heartbeats + b.heartbeats, a.truncated + b.truncated,
    a.ioErrors + b.ioErrors⟩

inductive ChunkKind
  /-- A heartbeat of a length, which is one chunk if the header does not give it. -/
  | heartbeat (length : Nat)
  | unwanted
  | malformed
  | record (length : Nat)
deriving DecidableEq, Repr

namespace ChunkKind

def qualityOffset : Nat := 6

def screen (quality : QualityFilter) (chunk : Bytes) : ChunkKind :=
  if Header.isHeartbeatBytes chunk then
    match Header.crackLength chunk with
    | .ok length => .heartbeat length
    | .error _ => .heartbeat Header.frameSize
  else if !quality.accepts (chunk.getD qualityOffset 0) then .unwanted
  else match Header.crackLength chunk with
    | .ok length => .record length
    | .error _ => .malformed

end ChunkKind

structure Framer where
  reader : Reader
  source : Nat
  quality : QualityFilter
  isFinal : Bool
  cancelled : Bool
  done : Bool
  stats : FramingStats

inductive FramingStep
  | stop (f : Framer)
  | skip (f : Framer)
  | emit (r : RawRecord) (f : Framer)

namespace Framer

def ofReader (r : Reader) (source : Nat) (quality : QualityFilter) (isFinal : Bool) : Framer :=
  ⟨r, source, quality, isFinal, false, false, {}⟩

def cancel (f : Framer) : Framer := { f with cancelled := true }

def count (f : Framer) (s : FramingStats) : Framer := { f with stats := f.stats.add s }

/-- Read on until `target` bytes are held. If the input stops first, the framer
is done; bytes held then count as truncated, unless reading failed. -/
def fillTo (f : Framer) (held : Bytes) (target : Nat) : Option Bytes × Framer :=
  let r := f.reader.fill (target - held.length)
  let read := { f with reader := r.reader }.count { bytesRead := r.got.length }
  match r.outcome with
  | .complete => (some (held ++ r.got), read)
  | .ended =>
    (none, { read with done := true }.count
      { truncated := if (held ++ r.got).isEmpty then 0 else 1 })
  | .failed => (none, { read with done := true }.count { ioErrors := 1 })

def step (f : Framer) : FramingStep :=
  if f.done then .stop f
  else if f.cancelled then .stop { f with done := true }
  else match f.fillTo [] Header.frameSize with
    | (none, f) => .stop f
    | (some chunk, f) =>
      match ChunkKind.screen f.quality chunk with
      | .heartbeat length =>
        match (f.count { heartbeats := 1 }).fillTo chunk length with
        | (none, f) => .stop f
        | (some _, f) => .skip f
      | .unwanted => .skip (f.count { qualityRejected := 1 })
      | .malformed => .skip (f.count { chunksDiscarded := 1 })
      | .record length =>
        match f.fillTo chunk length with
        | (none, f) => .stop f
        | (some bytes, f) => .emit ⟨f.source, bytes⟩ (f.count { records := 1 })

theorem fillTo_rest {f f' : Framer} {held b : Bytes} {target : Nat}
    (h : f.fillTo held target = (some b, f')) :
    f'.reader.rest.length + (target - held.length) = f.reader.rest.length := by
  have ha := congrArg List.length (f.reader.fill_append (target - held.length))
  have hl := f.reader.fill_length (target - held.length)
  simp only [List.length_append] at ha
  unfold fillTo at h
  simp only at h
  split at h
  next hc =>
    injection h with h1 h2
    subst h2
    simp only [count]
    have := hl hc
    omega
  next => cases h
  next => cases h

theorem step_rest {f f' : Framer} (h : f.step = .skip f' ∨ ∃ r, f.step = .emit r f') :
    f'.reader.rest.length < f.reader.rest.length := by
  unfold step at h
  split at h
  next => simp at h
  next =>
    split at h
    next => simp at h
    next =>
      split at h
      next => simp at h
      next chunk g hg =>
        have h0 := fillTo_rest hg
        simp only [List.length_nil, Nat.sub_zero, Header.frameSize] at h0
        split at h
        next n hn =>
          split at h
          next => simp at h
          next b g' hg' =>
            have h1 := fillTo_rest hg'
            simp only [FramingStep.skip.injEq, reduceCtorEq, exists_false, or_false] at h
            subst h
            simp only [count] at h1
            omega
        next =>
          simp only [FramingStep.skip.injEq, reduceCtorEq, exists_false, or_false] at h
          subst h
          simp only [count]
          omega
        next =>
          simp only [FramingStep.skip.injEq, reduceCtorEq, exists_false, or_false] at h
          subst h
          simp only [count]
          omega
        next n hn =>
          split at h
          next => simp at h
          next b g' hg' =>
            have h1 := fillTo_rest hg'
            simp only [reduceCtorEq, FramingStep.emit.injEq, false_or] at h
            obtain ⟨r, -, h⟩ := h
            subst h
            simp only [count]
            omega

def next (f : Framer) : Option RawRecord × Framer :=
  match _h : f.step with
  | .stop f' => (none, f')
  | .skip f' => f'.next
  | .emit r f' => (some r, f')
termination_by f.reader.rest.length
decreasing_by exact step_rest (.inl _h)

theorem next_rest {f f' : Framer} {r : RawRecord} (h : f.next = (some r, f')) :
    f'.reader.rest.length < f.reader.rest.length := by
  fun_induction next f with
  | case1 => cases h
  | case2 f g hg ih => exact Nat.lt_trans (ih h) (step_rest (.inl hg))
  | case3 f s g hg =>
    injection h with h1 h2
    subst h2
    exact step_rest (.inr ⟨s, hg⟩)

/-- All records up to the end, if the framer is cancelled before the call with
the given number, counted from zero, or never. -/
def collect (cancelBefore : Option Nat) (f : Framer) : List RawRecord × Framer :=
  let g := if cancelBefore = some 0 then f.cancel else f
  match _h : g.next with
  | (none, f') => ([], f')
  | (some r, f') =>
    let rest := f'.collect (cancelBefore.map (· - 1))
    (r :: rest.1, rest.2)
termination_by f.reader.rest.length
decreasing_by
  have := next_rest _h
  simp only [g] at this
  split at this <;> exact this

def records (f : Framer) : List RawRecord × Framer :=
  f.collect none

/-- What follows the records of a source. -/
def sentinels (f : Framer) : List QueueItem :=
  .endOfSource f.source :: if f.isFinal then [.endOfStream] else []

def run (cancelBefore : Option Nat) (f : Framer) : List QueueItem × FramingStats :=
  let (rs, g) := f.collect cancelBefore
  (rs.map .record ++ f.sentinels, g.stats)

/-- The counts of a framer whose queue nobody reads: it gives up at the first item. -/
def runUnread (f : Framer) : FramingStats :=
  f.next.2.stats

end Framer
end SeedStream
