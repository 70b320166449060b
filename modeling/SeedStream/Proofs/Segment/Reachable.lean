import SeedStream.Proofs.SampleRate.Interval
import SeedStream.Proofs.Segment.Merging

/-!
# Segments that can be made

Every segment comes from an empty one by appending, shrinking and merging; a merge, also
a refused one, hands on segments made in this way. All of them are sound: their handles
and the free list of their pool share out its blocks, and there are no more blocks in use
than the samples need. So no sample depends on what reused or adopted blocks hold.
-/

set_option autoImplicit false

namespace SeedStream.Segment

/-- What can be made of empty segments, in either arithmetic. -/
inductive Reachable : Segment → Prop
  | create {start : Int} {rate : Binary64} {blockSize : Nat} {s : Segment}
      (h : create start rate blockSize = .ok s) : Reachable s
  | withJitterDivisor {s : Segment} (hs : Reachable s) (divisor : Int) :
      Reachable (s.withJitterDivisor divisor)
  | append {s : Segment} (hs : Reachable s) (xs : List Int32) : Reachable (s.append xs)
  | shrink {s : Segment} (hs : Reachable s) : Reachable s.shrink
  | merged {m : Arithmetic} {s t target : Segment} (hs : Reachable s) (ht : Reachable t)
      (h : s.mergeIn m t = .merged target) : Reachable target
  | refused {m : Arithmetic} {s t target back : Segment} {error : StreamError}
      (hs : Reachable s) (ht : Reachable t) (h : s.mergeIn m t = .refused error target back) :
      Reachable target
  | returned {m : Arithmetic} {s t target back : Segment} {error : StreamError}
      (hs : Reachable s) (ht : Reachable t) (h : s.mergeIn m t = .refused error target back) :
      Reachable back

variable {m : Arithmetic} {s t : Segment}

theorem Sound.extendByIn (hs : s.Sound) (ht : t.Sound) : (s.extendByIn m t).Sound :=
  ((hs.append _).1.adoptBlocks ht).1

inductive Outcome (m : Arithmetic) (s t : Segment) : MergeOutcome → Prop
  | covered : Outcome m s t (.merged t)
  | covering : Outcome m s t (.merged s)
  | extended : Outcome m s t (.merged (t.extendByIn m s))
  | extending : Outcome m s t (.merged (s.extendByIn m t))
  | refused (error : StreamError) : Outcome m s t (.refused error t s)
  /-- The segments have changed places before the merge is refused. -/
  | exchanged (error : StreamError) : Outcome m s t (.refused error s t)

theorem mergeIn_outcome (m : Arithmetic) (s t : Segment) : Outcome m s t (s.mergeIn m t) := by
  unfold mergeIn
  split
  next => exact .refused _
  next =>
    split
    next => exact .covered
    next =>
      split
      next => exact .extended
      next =>
        split
        next => exact .exchanged _
        next =>
          split
          next => exact .covering
          next => exact .extending

theorem Reachable.sound (h : s.Reachable) : s.Sound := by
  induction h with
  | create h => exact (create_sound h).1
  | withJitterDivisor _ divisor ih => exact ⟨ih.holding, ih.enough, ih.tight⟩
  | append _ xs ih => exact (ih.append xs).1
  | shrink _ ih => exact ih.shrink.1
  | merged _ _ h hs ht =>
    cases h ▸ mergeIn_outcome _ _ _ with
    | covered => exact ht
    | covering => exact hs
    | extended => exact ht.extendByIn hs
    | extending => exact hs.extendByIn ht
  | refused _ _ h hs ht =>
    cases h ▸ mergeIn_outcome _ _ _ with
    | refused => exact ht
    | exchanged => exact hs
  | returned _ _ h hs ht =>
    cases h ▸ mergeIn_outcome _ _ _ with
    | refused => exact hs
    | exchanged => exact ht

/-- Time goes forward by a whole number of microseconds, and a tolerance can be computed. -/
def Proper (s : Segment) : Prop := 0 < s.interval ∧ 0 < s.jitterDivisor

theorem Proper.of_head (h : s.Proper) (hh : SameHead s t) : t.Proper := by
  rw [Proper, hh.interval, hh.jitterDivisor]
  exact h

theorem Reachable.proper (h : s.Reachable) : s.Proper := by
  induction h with
  | create h =>
    obtain ⟨-, -, -, -, hi⟩ := create_sound h
    refine ⟨SampleRate.interval_pos hi, ?_⟩
    rw [create_divisor h]
    decide
  | withJitterDivisor _ divisor ih =>
    exact ⟨ih.1, lt_of_lt_of_le Int.one_pos (le_max_right _ _)⟩
  | append _ xs ih => exact ih.of_head (append_head _ xs)
  | shrink _ ih => exact ih
  | merged _ _ h hs ht =>
    cases h ▸ mergeIn_outcome _ _ _ with
    | covered => exact ht
    | covering => exact hs
    | extended => exact ht.of_head (extendByIn_head _ _ _).1
    | extending => exact hs.of_head (extendByIn_head _ _ _).1
  | refused _ _ h hs ht =>
    cases h ▸ mergeIn_outcome _ _ _ with
    | refused => exact ht
    | exchanged => exact hs
  | returned _ _ h hs ht =>
    cases h ▸ mergeIn_outcome _ _ _ with
    | refused => exact hs
    | exchanged => exact ht

theorem Reachable.regular (h : s.Reachable) : s.Regular s.interval s.jitterDivisor :=
  ⟨h.sound, rfl, rfl⟩

/-- A segment with the given samples in blocks of `spare + 1`. -/
def sampled (rate : Binary64) (interval start divisor : Int) (spare : Nat) (xs : List Int32) :
    Segment :=
  (withJitterDivisor ⟨start, interval, rate, defaultJitterDivisor, 0, #[],
    .empty (spare + 1) spare.succ_pos⟩ divisor).append xs

section Sampled

variable {rate : Binary64} {interval : Int}

theorem sampled_reachable (hrate : SampleRate.interval rate = .ok interval) (start divisor : Int)
    (spare : Nat) (xs : List Int32) : (sampled rate interval start divisor spare xs).Reachable :=
  .append (.withJitterDivisor (.create (create_eq start hrate spare.succ_pos)) _) _

end Sampled

def everySecond (start divisor : Int) (spare : Nat) (xs : List Int32) : Segment :=
  sampled ⟨0x3ff0000000000000⟩ 1000000 start divisor spare xs

theorem everySecond_interval : SampleRate.interval ⟨0x3ff0000000000000⟩ = .ok 1000000 := by
  decide +kernel

theorem everySecond_reachable (start divisor : Int) (spare : Nat) (xs : List Int32) :
    (everySecond start divisor spare xs).Reachable :=
  sampled_reachable everySecond_interval start divisor spare xs

theorem Sound.blocks_shrink (hs : s.Sound) :
    s.shrink.pool.blocks.toList = s.handles.toList.map s.pool.block := by
  simp [Segment.shrink, BlockPool.compact, hs.holding.kept]

/-- In a segment that can be made, each block of the pool is in use or free, once, and the
blocks in use are as many as the samples need. Appending adds the new samples, shrinking
keeps the samples and the blocks in use, and each sample is found at its place. -/
theorem reachable_account (h : s.Reachable) :
    s.handles.toList.Nodup ∧ s.pool.free.Nodup ∧ s.handles.toList.Disjoint s.pool.free ∧
    (∀ k, k < s.pool.blocks.size ↔ k ∈ s.handles.toList ∨ k ∈ s.pool.free) ∧
    s.handles.size = (s.length + s.blockSize - 1) / s.blockSize ∧
    (∀ xs, (s.append xs).samples = s.samples ++ xs) ∧
    s.shrink.samples = s.samples ∧
    s.shrink.pool.blocks.toList = s.handles.toList.map s.pool.block ∧
    s.shrink.pool.free = [] ∧
    s.samples.length = s.length ∧ ∀ k, s.get? k = s.samples[k]? := by
  have hs := h.sound
  exact ⟨hs.holding.nodup, hs.holding.free_nodup, hs.holding.disjoint, hs.holding.lt_iff,
    hs.size_handles, fun xs => (hs.append xs).2, hs.shrink.2.1, hs.blocks_shrink, rfl,
    hs.length_samples, hs.get?_eq⟩

/-- Behind a merge the blocks of the later segment are free, and the next block to be used is
one of them. It keeps an old sample where it is not yet filled. -/
theorem reachable_account_of_reuse :
    ∃ s : Segment, s.Reachable ∧ s.handles = #[0, 1, 2, 3, 5] ∧ s.pool.free = [4] ∧
      s.pool.block 5 = #[9, 7] ∧
      (∀ k, k < s.pool.blocks.size ↔ k ∈ [0, 1, 2, 3, 5] ∨ k ∈ [4]) ∧
      (s.append [10]).samples = [1, 2, 3, 4, 5, 6, 7, 8, 9, 10] ∧
      s.shrink.samples = [1, 2, 3, 4, 5, 6, 7, 8, 9] ∧
      s.shrink.pool.blocks.toList = [#[1, 2], #[3, 4], #[5, 6], #[7, 8], #[9, 7]] ∧
      s.get? 8 = some 9 ∧ s.get? 9 = none := by
  let blank (start : Int) : Segment :=
    ⟨start, 1000000, ⟨0x3ff0000000000000⟩, 10, 0, #[], .empty 2 (Nat.succ_pos 1)⟩
  let early := (blank 0).append [1, 2, 3]
  let late := (blank 3000000).append [4, 5, 6, 7]
  let s := (early.extendBy late).append [8, 9]
  have hcreate : ∀ start, create start ⟨0x3ff0000000000000⟩ 2 = .ok (blank start) :=
    fun start => create_eq start (by decide +kernel) (Nat.succ_pos 1)
  have hmerge : late.mergeInto early = .merged (early.extendBy late) := by decide +kernel
  have hs : s.Reachable :=
    .append (.merged (.append (.create (hcreate _)) _) (.append (.create (hcreate _)) _) hmerge) _
  have hsamples : s.samples = [1, 2, 3, 4, 5, 6, 7, 8, 9] := by decide +kernel
  have hhandles : s.handles = #[0, 1, 2, 3, 5] := by decide +kernel
  have hfree : s.pool.free = [4] := by decide +kernel
  have hblock : s.pool.block 5 = #[9, 7] := by decide +kernel
  have hstored : s.handles.toList.map s.pool.block =
      [#[1, 2], #[3, 4], #[5, 6], #[7, 8], #[9, 7]] := by
    decide +kernel
  clear_value s
  obtain ⟨-, -, -, hblocks, -, happend, hshrink, hkept, -, -, hget⟩ := reachable_account hs
  rw [hhandles, hfree] at hblocks
  rw [hsamples] at happend hshrink hget
  exact ⟨s, hs, hhandles, hfree, hblock, hblocks, happend [10], hshrink, hkept.trans hstored,
    hget 8, hget 9⟩

end SeedStream.Segment
