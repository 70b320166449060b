import SeedStream.Proofs.Framing.Tiling

/-!
# Framers that are cancelled

A framer looks for the cancellation before each chunk, so after it no further record is found.
What it sends before is what it would have sent anyway, and the sentinels follow whether it was
cancelled, the input ended or reading failed. It counts the records that it puts out.
-/

set_option autoImplicit false

namespace SeedStream

namespace FramingStep

def after : FramingStep → Framer
  | .stop f => f
  | .skip f => f
  | .emit _ f => f

def emitted : FramingStep → List RawRecord
  | .emit r _ => [r]
  | _ => []

end FramingStep

namespace Framer

/-- A framer that is asked for one record after the other, and never cancelled, emits the given
ones. -/
inductive Emits : Framer → List RawRecord → Prop
  | done {f g : Framer} (h : f.next = (none, g)) : Emits f []
  | emit {f g : Framer} {r : RawRecord} {rs : List RawRecord} (h : f.next = (some r, g))
      (rest : Emits g rs) : Emits f (r :: rs)

variable {f g : Framer} {r : RawRecord} {rs : List RawRecord} {held : Bytes} {bytes : Option Bytes}
  {target : Nat}

theorem fillTo_records (h : f.fillTo held target = (bytes, g)) :
    g.stats.records = f.stats.records := by
  unfold fillTo at h
  simp only at h
  split at h <;> cases h <;> rfl

theorem step_records (f : Framer) :
    f.step.after.stats.records = f.stats.records + f.step.emitted.length := by
  unfold step
  split
  next => rfl
  next =>
    split
    next => rfl
    next =>
      split
      next hread => exact fillTo_records hread
      next chunk g hread =>
        rw [← fillTo_records hread]
        split
        next length _ =>
          have hbeat : (g.count { heartbeats := 1 }).stats.records = g.stats.records := rfl
          rw [← hbeat]
          split
          next hmore => exact fillTo_records hmore
          next hmore => exact fillTo_records hmore
        next => rfl
        next => rfl
        next length _ =>
          split
          next hmore => exact fillTo_records hmore
          next hmore => exact congrArg (· + 1) (fillTo_records hmore)

theorem next_records (f : Framer) :
    f.next.2.stats.records = f.stats.records + f.next.1.toList.length := by
  fun_induction next f with
  | case1 f g hstep =>
    have h := f.step_records
    rw [hstep] at h
    exact h
  | case2 f g hstep ih =>
    have h := f.step_records
    rw [hstep] at h
    rw [ih]
    exact congrArg (· + _) h
  | case3 f r g hstep =>
    have h := f.step_records
    rw [hstep] at h
    exact h

theorem collect_eq (cancelBefore : Option Nat) (f : Framer) : f.collect cancelBefore =
    match (if cancelBefore = some 0 then f.cancel else f).next with
    | (none, g) => ([], g)
    | (some r, g) =>
      (r :: (g.collect (cancelBefore.map (· - 1))).1,
        (g.collect (cancelBefore.map (· - 1))).2) := by
  rw [collect]
  split <;> simp_all

theorem stats_cancel (c : Prop) [Decidable c] (f : Framer) :
    (if c then f.cancel else f).stats = f.stats := by
  split <;> rfl

theorem collect_records (cancelBefore : Option Nat) (f : Framer) :
    (f.collect cancelBefore).2.stats.records =
      f.stats.records + (f.collect cancelBefore).1.length := by
  fun_induction collect cancelBefore f with
  | case1 c f g h hnext =>
    have hcount := g.next_records
    have hsame : g.stats = f.stats := stats_cancel (c = some 0) f
    rwa [hnext, hsame] at hcount
  | case2 c f g r h hnext rest ih =>
    have hcount := g.next_records
    have hsame : g.stats = f.stats := stats_cancel (c = some 0) f
    have hrest : rest.2.stats.records = h.stats.records + rest.1.length := ih
    rw [hnext, hsame] at hcount
    rw [List.length_cons, hrest, hcount]
    exact Nat.add_right_comm _ 1 _

theorem emits_records (f : Framer) : f.Emits f.records.1 := by
  unfold records
  generalize hc : (none : Option Nat) = c
  fun_induction collect c f with
  | case1 c f g h hnext =>
    subst hc
    exact .done hnext
  | case2 c f g r h hnext rest ih =>
    subst hc
    exact .emit hnext (ih rfl)

theorem Emits.eq_records (h : f.Emits rs) : rs = f.records.1 := by
  induction h with
  | done h => rw [records, collect_eq, if_neg (by simp), h]
  | emit h rest ih =>
    rw [records, collect_eq, if_neg (by simp), h]
    exact congrArg _ ih

theorem next_cancel (f : Framer) : f.cancel.next.1 = none := by
  by_cases hdone : f.done = true
  · rw [next_stop (g := f.cancel)]
    simp [step, cancel, hdone]
  · rw [next_stop (g := { f.cancel with done := true })]
    simp [step, cancel, hdone]

/-- A framer that is cancelled before a call finds what the calls before it find. -/
theorem collect_take (n : Nat) (f : Framer) : (f.collect (some n)).1 = f.records.1.take n := by
  induction n generalizing f with
  | zero =>
    have hnone := f.next_cancel
    rw [collect_eq, if_pos rfl]
    generalize f.cancel.next = found at hnone
    obtain ⟨r, g⟩ := found
    cases hnone
    rfl
  | succ n ih =>
    rw [records, collect_eq, collect_eq, if_neg (by simp), if_neg (by simp)]
    generalize f.next = found
    obtain ⟨r, g⟩ := found
    cases r with
    | none => rfl
    | some r => exact congrArg (r :: ·) (ih g)

/-- Whatever the reader does and whenever it is cancelled, a framer sends first records that it
emits, one after the other, if it is never cancelled, and all of these without a cancellation;
then the end of the source and, if it is the final one, the end of all streams. It counts the
records sent. -/
theorem run_cancelled (r : Reader) (source : Nat) (quality : QualityFilter) (isFinal : Bool)
    (cancelBefore : Option Nat) :
    let f := ofReader r source quality isFinal
    ∃ emitted sent : List RawRecord, f.Emits emitted ∧ (∀ rs, f.Emits rs → rs = emitted) ∧
      (f.run cancelBefore).1 = sent.map .record ++
        .endOfSource source :: (if isFinal then [.endOfStream] else []) ∧
      sent <+: emitted ∧ sent = cancelBefore.elim emitted (emitted.take ·) ∧
      (f.run cancelBefore).2.records = sent.length := by
  intro f
  have hsent : (f.collect cancelBefore).1 =
      cancelBefore.elim f.records.1 (f.records.1.take ·) := by
    cases cancelBefore with
    | none => rfl
    | some n => exact f.collect_take n
  refine ⟨f.records.1, (f.collect cancelBefore).1, f.emits_records, fun _ => Emits.eq_records,
    rfl, ?_, hsent, ?_⟩
  · rw [hsent]
    cases cancelBefore with
    | none => exact List.prefix_rfl
    | some n => exact List.take_prefix n _
  · exact (f.collect_records cancelBefore).trans (Nat.zero_add _)

end Framer
end SeedStream
