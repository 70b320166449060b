import Mathlib.Data.List.Basic
import SeedStream.Proofs.Storage.Pool
import SeedStream.Segment.Merge

/-!
# The samples of a segment

A sound segment keeps the account of its pool and has as many blocks as its
samples need. On sound segments, the samples after appending are those before,
followed by the new ones, whatever reused blocks hold; shrinking and adopting
blocks change no sample. Each sample is found at its place.
-/

set_option autoImplicit false

namespace SeedStream.Segment

structure Sound (s : Segment) : Prop where
  holding : s.pool.Holding s.handles.toList
  enough : s.length ≤ s.handles.size * s.blockSize
  tight : s.handles.size * s.blockSize < s.length + s.blockSize

variable {s : Segment}

/-- The samples in the blocks of a segment, the unused places of the last block included. -/
def stored (s : Segment) : List Int32 :=
  s.handles.toList.flatMap fun h => (s.pool.block h).toList

theorem samples_eq_take (s : Segment) : s.samples = s.stored.take s.length := rfl

theorem blockSize_pos (s : Segment) : 0 < s.blockSize := s.pool.blockSize_pos

theorem length_blocks {p : BlockPool} {n : Nat} (hs : List Handle)
    (h : ∀ k ∈ hs, (p.block k).size = n) :
    (hs.flatMap fun k => (p.block k).toList).length = hs.length * n := by
  induction hs with
  | nil => simp
  | cons k ks ih =>
    have hk : (p.block k).toList.length = n := by simpa using h k List.mem_cons_self
    rw [List.flatMap_cons, List.length_append, ih fun j hj => h j (List.mem_cons_of_mem k hj), hk,
      List.length_cons, Nat.succ_mul, Nat.add_comm]

theorem getElem?_blocks {p : BlockPool} {n : Nat} (hs : List Handle)
    (h : ∀ k ∈ hs, (p.block k).size = n) {i : Nat} (hi : i < hs.length * n) :
    (hs.flatMap fun k => (p.block k).toList)[i]? = (p.block (hs.getD (i / n) 0))[i % n]? := by
  induction hs generalizing i with
  | nil => simp at hi
  | cons k ks ih =>
    have hk : (p.block k).toList.length = n := by simpa using h k List.mem_cons_self
    rw [List.flatMap_cons]
    by_cases hin : i < n
    · rw [List.getElem?_append_left (by rwa [hk]), Nat.div_eq_of_lt hin, Nat.mod_eq_of_lt hin]
      simp
    · have hpos : 0 < n := Nat.pos_of_ne_zero fun h0 => by simp [h0] at hi
      obtain ⟨j, rfl⟩ := Nat.exists_eq_add_of_le' (Nat.le_of_not_lt hin)
      rw [List.length_cons, Nat.succ_mul] at hi
      rw [List.getElem?_append_right (by omega), hk, Nat.add_sub_cancel, Nat.add_mod_right,
        Nat.add_div_right _ hpos]
      exact ih (fun l hl => h l (List.mem_cons_of_mem k hl)) (Nat.lt_of_add_lt_add_right hi)

theorem Sound.length_stored (hs : s.Sound) : s.stored.length = s.handles.size * s.blockSize := by
  rw [stored, length_blocks _ fun k hk => hs.holding.size_block hk, Array.length_toList, blockSize]

theorem Sound.length_samples (hs : s.Sound) : s.samples.length = s.length := by
  rw [samples_eq_take, List.length_take, hs.length_stored, Nat.min_eq_left hs.enough]

theorem Sound.get?_eq (hs : s.Sound) (k : Nat) : s.get? k = s.samples[k]? := by
  by_cases hk : k < s.length
  · rw [get?, if_pos hk, samples_eq_take, List.getElem?_take_of_lt hk, stored,
      getElem?_blocks _ (fun h hh => hs.holding.size_block hh)
        (Nat.lt_of_lt_of_le hk (by rw [Array.length_toList]; exact hs.enough))]
    simp [Array.getD_eq_getD_getElem?, blockSize]
  · rw [get?, if_neg hk, List.getElem?_eq_none (by rw [hs.length_samples]; omega)]

/-- The number of blocks is the length divided by their size, rounded up. -/
theorem Sound.size_handles (hs : s.Sound) :
    s.handles.size = (s.length + s.blockSize - 1) / s.blockSize := by
  have hle := hs.enough
  have hlt := hs.tight
  have hpos := s.blockSize_pos
  exact (Nat.div_eq_of_lt_le (by omega) (by rw [Nat.succ_mul]; omega)).symm

theorem create_sound {start : Int} {rate : Binary64} {blockSize : Nat} {s : Segment}
    (h : create start rate blockSize = .ok s) :
    s.Sound ∧ s.start = start ∧ s.rate = rate ∧ s.samples = [] ∧
      SampleRate.interval rate = .ok s.interval := by
  unfold create BlockPool.create at h
  split at h
  next => cases h
  next i hi =>
    by_cases hpos : 0 < blockSize
    · rw [dif_pos hpos] at h
      cases h
      refine ⟨⟨BlockPool.empty_holding _ hpos, Nat.zero_le _, ?_⟩, rfl, rfl, rfl, hi⟩
      simpa [Segment.blockSize, BlockPool.empty] using hpos
    · rw [dif_neg hpos] at h
      cases h

section Create

variable {start i : Int} {rate : Binary64} {blockSize : Nat} {s : Segment}

theorem create_length (h : create start rate blockSize = .ok s) : s.length = 0 := by
  obtain ⟨hsound, -, -, hempty, -⟩ := create_sound h
  rw [← hsound.length_samples, hempty]
  rfl

theorem create_interval (h : create start rate blockSize = .ok s)
    (hi : SampleRate.interval rate = .ok i) : s.interval = i := by
  obtain ⟨-, -, -, -, hint⟩ := create_sound h
  rw [hi] at hint
  injection hint with hint
  exact hint.symm

theorem create_stop (h : create start rate blockSize = .ok s) : s.stop = start := by
  rw [stop, create_length h, (create_sound h).2.1]
  omega

theorem create_divisor (h : create start rate blockSize = .ok s) :
    s.jitterDivisor = defaultJitterDivisor := by
  unfold create at h
  split at h
  next => cases h
  next =>
    split at h
    next => cases h
    next =>
      cases h
      rfl

@[simp] theorem stop_withJitterDivisor (s : Segment) (divisor : Int) :
    (s.withJitterDivisor divisor).stop = s.stop := rfl

end Create

theorem create_eq (start : Int) {rate : Binary64} {blockSize : Nat} {i : Int}
    (hi : SampleRate.interval rate = .ok i) (hb : 0 < blockSize) :
    create start rate blockSize =
      .ok ⟨start, i, rate, defaultJitterDivisor, 0, #[], .empty blockSize hb⟩ := by
  unfold create BlockPool.create
  rw [hi, dif_pos hb]

theorem create_ok (start : Int) {rate : Binary64} {blockSize : Nat} {i : Int}
    (hi : SampleRate.interval rate = .ok i) (hb : 0 < blockSize) :
    ∃ s, create start rate blockSize = .ok s :=
  ⟨_, create_eq start hi hb⟩

structure SameHead (s t : Segment) : Prop where
  start : t.start = s.start
  interval : t.interval = s.interval
  rate : t.rate = s.rate
  jitterDivisor : t.jitterDivisor = s.jitterDivisor

theorem SameHead.refl (s : Segment) : SameHead s s := ⟨rfl, rfl, rfl, rfl⟩

theorem SameHead.trans {s t u : Segment} (h : SameHead s t) (h' : SameHead t u) : SameHead s u :=
  ⟨h'.start.trans h.start, h'.interval.trans h.interval, h'.rate.trans h.rate,
    h'.jitterDivisor.trans h.jitterDivisor⟩

theorem SameHead.symm {s t : Segment} (h : SameHead s t) : SameHead t s :=
  ⟨h.start.symm, h.interval.symm, h.rate.symm, h.jitterDivisor.symm⟩

theorem reserve_head (s : Segment) : SameHead s s.reserve := by
  unfold reserve
  split <;> exact ⟨rfl, rfl, rfl, rfl⟩

theorem push_head (s : Segment) (x : Int32) : SameHead s (s.push x) :=
  (reserve_head s).trans ⟨rfl, rfl, rfl, rfl⟩

theorem append_head (s : Segment) (xs : List Int32) : SameHead s (s.append xs) := by
  induction xs generalizing s with
  | nil => exact .refl s
  | cons x xs ih => exact (push_head s x).trans (ih (s.push x))

@[simp] theorem reserve_length (s : Segment) : s.reserve.length = s.length := by
  unfold reserve
  split <;> rfl

@[simp] theorem push_length (s : Segment) (x : Int32) : (s.push x).length = s.length + 1 :=
  congrArg (· + 1) s.reserve_length

theorem append_length (s : Segment) (xs : List Int32) :
    (s.append xs).length = s.length + xs.length := by
  induction xs generalizing s with
  | nil => rfl
  | cons x xs ih =>
    have hrest : ((s.push x).append xs).length = s.length + 1 + xs.length := by simp [ih]
    rw [List.length_cons, Nat.add_comm xs.length, ← Nat.add_assoc]
    exact hrest

@[simp] theorem reserve_blockSize (s : Segment) : s.reserve.blockSize = s.blockSize := by
  unfold reserve
  split
  · exact s.pool.acquire_blockSize
  · rfl

/-- A segment with a place behind its last sample, in its last block. -/
structure Roomy (s : Segment) : Prop where
  holding : s.pool.Holding s.handles.toList
  room : s.length < s.handles.size * s.blockSize
  last : s.handles.size * s.blockSize ≤ s.length + s.blockSize

theorem Sound.reserve_full (hs : s.Sound) (hfull : s.length = s.handles.size * s.blockSize) :
    s.reserve.Roomy ∧ s.reserve.samples = s.samples := by
  have hr : s.reserve =
      { s with handles := s.handles.push s.pool.acquire.1, pool := s.pool.acquire.2 } := by
    rw [reserve, if_pos hfull]
  have hstored : s.reserve.stored =
      s.stored ++ (s.pool.acquire.2.block s.pool.acquire.1).toList := by
    rw [hr, stored, stored, Array.toList_push, List.flatMap_append, List.flatMap_singleton]
    apply congrArg (· ++ _)
    apply List.flatMap_congr
    intro k hk
    exact congrArg Array.toList (s.pool.block_acquire (hs.holding.lt hk))
  have hsize : s.reserve.handles.size * s.blockSize = s.length + s.blockSize := by
    rw [hr, Array.size_push, Nat.succ_mul, hfull]
  have hpos := s.blockSize_pos
  refine ⟨⟨?_, ?_, ?_⟩, ?_⟩
  · rw [hr, Array.toList_push]
    exact hs.holding.acquire
  · rw [reserve_length, reserve_blockSize, hsize]
    omega
  · rw [reserve_length, reserve_blockSize]
    exact Nat.le_of_eq hsize
  · rw [samples_eq_take, hstored, reserve_length, samples_eq_take,
      List.take_append_of_le_length (by rw [hs.length_stored]; omega)]

theorem Sound.reserve (hs : s.Sound) : s.reserve.Roomy ∧ s.reserve.samples = s.samples := by
  by_cases hfull : s.length = s.handles.size * s.blockSize
  · exact hs.reserve_full hfull
  · have hr : s.reserve = s := by rw [Segment.reserve, if_neg hfull]
    have hle := hs.enough
    have hlt := hs.tight
    rw [hr]
    exact ⟨⟨hs.holding, by omega, by omega⟩, rfl⟩

theorem Roomy.handles_eq (hs : s.Roomy) :
    ∃ init last, s.handles.toList = init ++ [last] ∧ s.handles.back?.getD 0 = last ∧
      last ∉ init ∧ s.length = init.length * s.blockSize + s.length % s.blockSize := by
  have hne : s.handles.toList ≠ [] := by
    intro hnil
    have hsize : s.handles.size = 0 := by rw [← Array.length_toList, hnil]; rfl
    have hroom := hs.room
    rw [hsize] at hroom
    omega
  have hsplit := List.dropLast_append_getLast hne
  have hnodup := hs.holding.nodup
  refine ⟨_, _, hsplit.symm, ?_, ?_, ?_⟩
  · rw [← Array.getLast?_toList, List.getLast?_eq_getLast_of_ne_nil hne]
    rfl
  · rw [← hsplit, List.nodup_append] at hnodup
    exact fun hmem => hnodup.2.2 _ hmem _ (List.mem_singleton.2 rfl) rfl
  · have hroom := hs.room
    have hlast := hs.last
    have hlen : s.handles.size = s.handles.toList.dropLast.length + 1 := by
      rw [List.length_dropLast, Array.length_toList, Nat.sub_add_cancel]
      exact Nat.pos_of_ne_zero fun h0 => hne (by rw [← List.length_eq_zero_iff]; simpa using h0)
    rw [hlen, Nat.succ_mul] at hroom hlast
    have hdiv : s.length / s.blockSize = s.handles.toList.dropLast.length :=
      Nat.div_eq_of_lt_le (by omega) (by rw [Nat.succ_mul]; omega)
    have hmod := Nat.div_add_mod s.length s.blockSize
    rw [hdiv, Nat.mul_comm] at hmod
    exact hmod.symm

theorem Roomy.place (hs : s.Roomy) (x : Int32) :
    (s.place x).Sound ∧ (s.place x).samples = s.samples ++ [x] := by
  obtain ⟨init, last, hsplit, hback, hfresh, hlen⟩ := hs.handles_eq
  have hpos := s.blockSize_pos
  have hmod := Nat.mod_lt s.length hpos
  have hinit : (init.flatMap fun k => (s.pool.block k).toList).length = init.length * s.blockSize :=
    length_blocks _ fun k hk =>
      hs.holding.size_block (by rw [hsplit]; exact List.mem_append_left _ hk)
  have hlast : (s.pool.block last).size = s.blockSize :=
    hs.holding.size_block (by rw [hsplit]; exact List.mem_append_right _ List.mem_cons_self)
  have hplaced : (s.place x).stored = (init.flatMap fun k => (s.pool.block k).toList) ++
      (s.pool.block last).toList.set (s.length % s.blockSize) x := by
    rw [stored, Segment.place, hback]
    simp only [hsplit, List.flatMap_append, List.flatMap_singleton, BlockPool.block_write, if_true,
      Array.toList_setIfInBounds]
    apply congrArg (· ++ _)
    apply List.flatMap_congr
    intro k hk
    have hne : k ≠ last := fun heq => hfresh (heq ▸ hk)
    rw [if_neg hne]
  have hroom := hs.room
  have hfit := hs.last
  refine ⟨⟨hs.holding.write _ _ _, ?_, ?_⟩, ?_⟩
  · change s.length + 1 ≤ s.handles.size * s.blockSize
    omega
  · change s.handles.size * s.blockSize < s.length + 1 + s.blockSize
    omega
  · have hstored : s.stored = (init.flatMap fun k => (s.pool.block k).toList) ++
        (s.pool.block last).toList := by
      rw [stored, hsplit, List.flatMap_append, List.flatMap_singleton]
    have hbefore : s.samples = (init.flatMap fun k => (s.pool.block k).toList) ++
        (s.pool.block last).toList.take (s.length % s.blockSize) := by
      rw [samples_eq_take, hstored, hlen, ← hinit, List.take_length_add_append, hinit, ← hlen]
    have hafter : (s.place x).length = init.length * s.blockSize +
        (s.length % s.blockSize + 1) := by
      change s.length + 1 = _
      omega
    have hnew :
        ((s.pool.block last).toList.set (s.length % s.blockSize) x)[s.length % s.blockSize]? =
          some x := by
      rw [List.getElem?_set_self]
      simpa [hlast] using hmod
    rw [samples_eq_take, hplaced, hafter, ← hinit, List.take_length_add_append, List.take_add_one,
      List.take_set_of_le (Nat.le_refl _), hnew, hbefore, List.append_assoc]
    rfl

theorem Sound.push (hs : s.Sound) (x : Int32) :
    (s.push x).Sound ∧ (s.push x).samples = s.samples ++ [x] := by
  obtain ⟨hroomy, hsame⟩ := hs.reserve
  rw [← hsame]
  exact hroomy.place x

theorem Sound.append (hs : s.Sound) (xs : List Int32) :
    (s.append xs).Sound ∧ (s.append xs).samples = s.samples ++ xs := by
  induction xs generalizing s with
  | nil => exact ⟨hs, (List.append_nil _).symm⟩
  | cons x xs ih =>
    obtain ⟨hpush, hsamples⟩ := hs.push x
    obtain ⟨hsound, happend⟩ := ih hpush
    refine ⟨hsound, ?_⟩
    rw [hsamples, List.append_assoc] at happend
    exact happend

theorem adoptBlocks_head (s t : Segment) :
    SameHead s (s.adoptBlocks t) ∧ (s.adoptBlocks t).length = s.length := by
  unfold adoptBlocks
  split
  next => split <;> exact ⟨⟨rfl, rfl, rfl, rfl⟩, rfl⟩
  next => exact ⟨.refl s, rfl⟩

theorem Sound.adoptBlocks {t : Segment} (hs : s.Sound) (ht : t.Sound) :
    (s.adoptBlocks t).Sound ∧ (s.adoptBlocks t).samples = s.samples ∧
      SameHead s (s.adoptBlocks t) := by
  unfold Segment.adoptBlocks
  split
  next hsize =>
    obtain ⟨q, hq, hext⟩ := hs.holding.absorb ht.holding hsize
    rw [hq]
    refine ⟨⟨hext.holding, ?_, ?_⟩, ?_, ⟨rfl, rfl, rfl, rfl⟩⟩
    · simpa [blockSize, hext.blockSize] using hs.enough
    · simpa [blockSize, hext.blockSize] using hs.tight
    · apply congrArg (List.take s.length)
      apply List.flatMap_congr
      intro k hk
      exact congrArg Array.toList (hext.block k (hs.holding.lt hk))
  next => exact ⟨hs, rfl, .refl s⟩

theorem Sound.shrink (hs : s.Sound) :
    s.shrink.Sound ∧ s.shrink.samples = s.samples ∧ SameHead s s.shrink := by
  have hsize : s.handles.toList.length = s.handles.size := Array.length_toList
  refine ⟨⟨?_, ?_, ?_⟩, ?_, ⟨rfl, rfl, rfl, rfl⟩⟩
  · simpa [Segment.shrink, hsize] using hs.holding.compact
  · simpa [Segment.shrink, blockSize, BlockPool.compact] using hs.enough
  · simpa [Segment.shrink, blockSize, BlockPool.compact] using hs.tight
  · have hblocks : (List.range s.handles.size).map (s.pool.compact s.handles.toList).2.block =
        s.handles.toList.map s.pool.block := by
      apply List.ext_getElem (by simp)
      intro i hi hi'
      rw [List.getElem_map, List.getElem_map, List.getElem_range]
      exact BlockPool.block_compact hs.holding (by simpa using hi')
    have hflat : ∀ (p : BlockPool) (hs : List Handle),
        (hs.flatMap fun k => (p.block k).toList) = (hs.map p.block).flatMap Array.toList :=
      fun p hs => (List.flatMap_map ..).symm
    apply congrArg (List.take s.length)
    rw [hflat, hflat, ← hblocks]
    simp [Segment.shrink]

end SeedStream.Segment
