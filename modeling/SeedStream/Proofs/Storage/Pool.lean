import Mathlib.Data.List.Nodup
import Mathlib.Data.List.Perm.Basic
import SeedStream.BlockPool

/-!
# Accounts of a block pool

The handles in use and the free handles of a pool share out its blocks: each
block is on exactly one of the two lists, once. Acquiring, writing, adopting and
compacting keep the account, and none of them but writing changes a block in use.
-/

set_option autoImplicit false

namespace SeedStream.BlockPool

/-- The handles `live` are in use, every other block is free, and all blocks have
the size of the pool. -/
structure Holding (p : BlockPool) (live : List Handle) : Prop where
  partition : (live ++ p.free).Perm (List.range p.blocks.size)
  sized : ∀ h < p.blocks.size, (p.block h).size = p.blockSize

variable {p : BlockPool} {live : List Handle}

theorem Holding.lt (hp : p.Holding live) {h : Handle} (hh : h ∈ live) : h < p.blocks.size :=
  List.mem_range.1 (hp.partition.mem_iff.1 (List.mem_append_left _ hh))

theorem Holding.nodup_append (hp : p.Holding live) : (live ++ p.free).Nodup :=
  hp.partition.nodup_iff.2 List.nodup_range

theorem Holding.nodup (hp : p.Holding live) : live.Nodup :=
  hp.nodup_append.of_append_left

theorem Holding.free_nodup (hp : p.Holding live) : p.free.Nodup :=
  hp.nodup_append.of_append_right

theorem Holding.disjoint (hp : p.Holding live) : live.Disjoint p.free :=
  hp.nodup_append.disjoint

theorem Holding.lt_iff (hp : p.Holding live) (k : Handle) :
    k < p.blocks.size ↔ k ∈ live ∨ k ∈ p.free := by
  rw [← List.mem_append, hp.partition.mem_iff, List.mem_range]

theorem Holding.count (hp : p.Holding live) :
    p.stats.totalBlocks = live.length + p.stats.freeBlocks := by
  have hlength := hp.partition.length_eq
  rw [List.length_append, List.length_range] at hlength
  exact hlength.symm

theorem Holding.size_block (hp : p.Holding live) {h : Handle} (hh : h ∈ live) :
    (p.block h).size = p.blockSize :=
  hp.sized h (hp.lt hh)

theorem empty_holding (blockSize : Nat) (h : 0 < blockSize) : (empty blockSize h).Holding [] where
  partition := .refl _
  sized k hk := absurd hk (Nat.not_lt_zero k)

theorem block_push (p : BlockPool) (b : Block) (k : Handle) (hk : k < p.blocks.size) :
    (p.blocks.push b).getD k #[] = p.block k := by
  rw [block, Array.getD_eq_getD_getElem?, Array.getD_eq_getD_getElem?, Array.getElem?_push_lt hk,
    Array.getElem?_eq_getElem hk]

@[simp] theorem acquire_blockSize (p : BlockPool) : p.acquire.2.blockSize = p.blockSize := by
  unfold acquire
  split <;> rfl

theorem block_acquire (p : BlockPool) {k : Handle} (hk : k < p.blocks.size) :
    p.acquire.2.block k = p.block k := by
  unfold acquire
  split
  next => rfl
  next => exact p.block_push _ k hk

theorem Holding.acquire (hp : p.Holding live) : p.acquire.2.Holding (live ++ [p.acquire.1]) := by
  have hpart := hp.partition
  unfold BlockPool.acquire
  split
  next h rest hfree =>
    rw [hfree] at hpart
    exact ⟨by simpa using hpart, hp.sized⟩
  next hfree =>
    rw [hfree, List.append_nil] at hpart
    constructor
    · simpa [hfree, List.range_succ] using hpart.append_right [p.blocks.size]
    · intro k hk
      by_cases hlt : k < p.blocks.size
      · exact (congrArg Array.size (p.block_push _ k hlt)).trans (hp.sized k hlt)
      · have hlast : k = p.blocks.size := by
          simp only [Array.size_push] at hk
          omega
        subst hlast
        simp [block, Array.getD_eq_getD_getElem?]

@[simp] theorem write_blockSize (p : BlockPool) (h : Handle) (i : Nat) (x : Int32) :
    (p.write h i x).blockSize = p.blockSize := rfl

@[simp] theorem write_free (p : BlockPool) (h : Handle) (i : Nat) (x : Int32) :
    (p.write h i x).free = p.free := rfl

theorem block_write (p : BlockPool) (h : Handle) (i : Nat) (x : Int32) (k : Handle) :
    (p.write h i x).block k = if k = h then (p.block k).setIfInBounds i x else p.block k := by
  rw [block, block, write, Array.getD_eq_getD_getElem?, Array.getElem?_modify,
    Array.getD_eq_getD_getElem?]
  by_cases hk : k = h
  · subst hk
    rw [if_pos rfl, if_pos rfl]
    cases p.blocks[k]? <;> rfl
  · rw [if_neg (Ne.symm hk), if_neg hk]

theorem Holding.write (hp : p.Holding live) (h : Handle) (i : Nat) (x : Int32) :
    (p.write h i x).Holding live where
  partition := by simpa [BlockPool.write] using hp.partition
  sized k hk := by
    have hk' : k < p.blocks.size := by simpa [BlockPool.write] using hk
    rw [block_write]
    split <;> simpa using hp.sized k hk'

theorem block_adopt (p : BlockPool) (b : Block) {k : Handle} (hk : k < p.blocks.size) :
    (p.adopt b).block k = p.block k :=
  p.block_push b k hk

theorem Holding.adopt (hp : p.Holding live) {b : Block} (hb : b.size = p.blockSize) :
    (p.adopt b).Holding live where
  partition := by
    have hmid : (live ++ p.blocks.size :: p.free).Perm ((live ++ p.free) ++ [p.blocks.size]) := by
      rw [List.append_assoc]
      exact (List.perm_append_singleton p.blocks.size p.free).symm.append_left live
    simpa [BlockPool.adopt, List.range_succ] using
      hmid.trans (hp.partition.append_right [p.blocks.size])
  sized k hk := by
    by_cases hlt : k < p.blocks.size
    · rw [block_adopt p b hlt]
      exact hp.sized k hlt
    · have hlast : k = p.blocks.size := by
        simp only [BlockPool.adopt, Array.size_push] at hk
        omega
      subst hlast
      simpa [BlockPool.adopt, block, Array.getD_eq_getD_getElem?] using hb

/-- What adopting blocks keeps: the size, the account and the blocks there were. -/
structure Extends (p q : BlockPool) (live : List Handle) : Prop where
  blockSize : q.blockSize = p.blockSize
  holding : q.Holding live
  block : ∀ k < p.blocks.size, q.block k = p.block k

theorem Holding.releaseAll (hp : p.Holding live) {bs : List Block}
    (hbs : ∀ b ∈ bs, b.size = p.blockSize) :
    ∃ q, p.releaseAll bs = .ok q ∧ p.Extends q live := by
  induction bs generalizing p with
  | nil => exact ⟨p, rfl, rfl, hp, fun _ _ => rfl⟩
  | cons b rest ih =>
    have hb := hbs b List.mem_cons_self
    obtain ⟨q, hq, hext⟩ := ih (hp.adopt hb) fun c hc => hbs c (List.mem_cons_of_mem b hc)
    refine ⟨q, ?_, hext.blockSize, hext.holding, ?_⟩
    · rw [BlockPool.releaseAll, release, if_pos hb]
      exact hq
    · intro k hk
      have hk' : k < (p.adopt b).blocks.size := by
        simp only [BlockPool.adopt, Array.size_push]
        omega
      rw [hext.block k hk', block_adopt p b hk]

theorem Holding.mem_size (hp : p.Holding live) {b : Block} (hb : b ∈ p.blocks.toList) :
    b.size = p.blockSize := by
  obtain ⟨k, hk, hkb⟩ := Array.mem_iff_getElem.1 (Array.mem_toList_iff.1 hb)
  have hs := hp.sized k hk
  rwa [block, Array.getD_eq_getD_getElem?, Array.getElem?_eq_getElem hk, hkb] at hs

theorem Holding.absorb {other : BlockPool} {live' : List Handle} (hp : p.Holding live)
    (ho : other.Holding live') (hs : other.blockSize = p.blockSize) :
    ∃ q, p.absorb other = .ok (other.blocks.size, q) ∧ p.Extends q live := by
  obtain ⟨q, hq, hext⟩ := hp.releaseAll fun b hb => (ho.mem_size hb).trans hs
  refine ⟨q, ?_, hext⟩
  rw [BlockPool.absorb, if_pos hs, hq]
  rfl

theorem Holding.kept (hp : p.Holding live) :
    live.filterMap (p.blocks[·]?) = live.map p.block := by
  have hsome : ∀ h ∈ live, p.blocks[h]? = some (p.block h) := by
    intro h hh
    rw [block, Array.getD_eq_getD_getElem?, Array.getElem?_eq_getElem (hp.lt hh)]
    rfl
  rw [List.filterMap_congr hsome]
  exact congrFun List.filterMap_eq_map live

theorem block_compact (hp : p.Holding live) {i : Nat} (hi : i < live.length) :
    (p.compact live).2.block i = p.block live[i] := by
  simp [compact, hp.kept, block, Array.getD_eq_getD_getElem?, hi]

theorem Holding.narrow (hp : p.Holding live) {kept : List Handle} (hn : kept.Nodup)
    (hk : kept ⊆ live) : ∃ free, ({ p with free } : BlockPool).Holding kept := by
  obtain ⟨front, hfront, hsub⟩ := List.subperm_of_subset hn hk
  obtain ⟨rest, hrest⟩ := hsub.exists_perm_append
  refine ⟨rest ++ p.free, ⟨?_, hp.sized⟩⟩
  have hlive : live.Perm (kept ++ rest) := hrest.trans (hfront.append_right rest)
  rw [← List.append_assoc]
  exact (hlive.symm.append_right p.free).trans hp.partition

theorem Holding.compact (hp : p.Holding live) :
    (p.compact live).2.Holding (List.range live.length) where
  partition := by simp [BlockPool.compact, hp.kept]
  sized k hk := by
    have hk' : k < live.length := by simpa [BlockPool.compact, hp.kept] using hk
    rw [block_compact hp hk']
    exact hp.size_block (List.getElem_mem hk')

end SeedStream.BlockPool
