import SeedStream.Proofs.Storage.Pool

/-!
# Compaction slot by slot

A pool is compacted by taking the blocks of handles out of their slots, one after the other. A
handle whose slot has a block gets the number of blocks taken before it, and the blocks left in
their slots are dropped. For distinct handles in use this is what `compact` says at once.
-/

set_option autoImplicit false

namespace SeedStream.BlockPool

structure Taken where
  handles : List Handle
  kept : List Block
  slots : List (Option Block)

def takeFrom (kept : List Block) (slots : List (Option Block)) : List Handle → Taken
  | [] => ⟨[], kept, slots⟩
  | h :: rest =>
    match slots[h]?.join with
    | some b =>
      let t := takeFrom (kept ++ [b]) (slots.set h none) rest
      { t with handles := kept.length :: t.handles }
    | none =>
      let t := takeFrom kept slots rest
      { t with handles := h :: t.handles }

def compactSlots (p : BlockPool) (live : List Handle) : List Handle × Nat × BlockPool :=
  let t := takeFrom [] (p.blocks.toList.map some) live
  (t.handles, t.slots.countP Option.isSome, { p with blocks := t.kept.toArray, free := [] })

theorem countP_emptied {slots : List (Option Block)} {h : Handle} {b : Block}
    (hb : slots[h]? = some (some b)) :
    (slots.set h none).countP Option.isSome + 1 = slots.countP Option.isSome := by
  obtain ⟨hlt, hget⟩ := List.getElem?_eq_some_iff.1 hb
  have hpos : 0 < slots.countP Option.isSome :=
    List.countP_pos_iff.2 ⟨some b, List.mem_of_getElem? hb, rfl⟩
  rw [List.countP_set hlt, hget]
  simp only [Option.isSome_some, Option.isSome_none, if_true]
  simp only [Bool.false_eq_true, if_false]
  omega

theorem takeFrom_eq {f : Handle → Block} {live : List Handle} (kept : List Block)
    {slots : List (Option Block)} (hn : live.Nodup)
    (hf : ∀ h ∈ live, slots[h]? = some (some (f h))) :
    (takeFrom kept slots live).handles = List.range' kept.length live.length ∧
      (takeFrom kept slots live).kept = kept ++ live.map f ∧
      (takeFrom kept slots live).slots.countP Option.isSome + live.length =
        slots.countP Option.isSome := by
  induction live generalizing kept slots with
  | nil => simp [takeFrom]
  | cons h rest ih =>
    obtain ⟨hnew, hrest⟩ := List.nodup_cons.1 hn
    obtain ⟨hh, hothers⟩ := List.forall_mem_cons.1 hf
    -- Emptying the slot of one handle leaves those of the others, as no handle is repeated.
    have hleft : ∀ k ∈ rest, (slots.set h none)[k]? = some (some (f k)) := by
      intro k hk
      have hne : h ≠ k := fun heq => hnew (heq ▸ hk)
      rw [List.getElem?_set_ne hne]
      exact hothers k hk
    obtain ⟨hhandles, hkept, hcount⟩ := ih (kept ++ [f h]) hrest hleft
    have hemptied := countP_emptied hh
    have hjoin : slots[h]?.join = some (f h) := by rw [hh, Option.join_some]
    rw [takeFrom, hjoin]
    dsimp only
    refine ⟨?_, ?_, ?_⟩
    · rw [hhandles, List.length_append, List.length_singleton, List.length_cons, List.range'_succ]
    · rw [hkept, List.append_assoc, List.map_cons]
      rfl
    · rw [List.length_cons]
      omega

/-- For handles in use, the new numbers count them through, and the rest is as `compact` says. -/
theorem Holding.compactSlots_eq {p : BlockPool} {live : List Handle} (hp : p.Holding live) :
    p.compactSlots live = (List.range live.length, p.compact live) := by
  have hslots : ∀ h ∈ live, (p.blocks.toList.map some)[h]? = some (some (p.block h)) := by
    intro h hh
    have hlt := hp.lt hh
    rw [block, Array.getD_eq_getD_getElem?, List.getElem?_map, Array.getElem?_toList,
      Array.getElem?_eq_getElem hlt]
    rfl
  obtain ⟨hhandles, hkept, hcount⟩ := takeFrom_eq [] hp.nodup hslots
  have hall : (p.blocks.toList.map some).countP Option.isSome = p.blocks.size := by
    rw [List.countP_map, List.countP_eq_length.2 (by simp), Array.length_toList]
  have hdropped : (takeFrom [] (p.blocks.toList.map some) live).slots.countP Option.isSome =
      p.blocks.size - (live.map p.block).length := by
    rw [List.length_map]
    omega
  rw [compactSlots, BlockPool.compact, hp.kept, hhandles, hkept, hdropped, List.nil_append,
    List.range_eq_range']
  rfl

theorem Holding.compact_count {p : BlockPool} {live : List Handle} (hp : p.Holding live) :
    (p.compact live).1 + (p.compact live).2.stats.totalBlocks = p.stats.totalBlocks := by
  have hall := hp.count
  simp only [BlockPool.compact, stats, hp.kept, List.size_toArray, List.length_map] at hall ⊢
  omega

end SeedStream.BlockPool
