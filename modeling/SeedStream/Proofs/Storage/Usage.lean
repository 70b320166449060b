import SeedStream.Proofs.Storage.Compaction

/-!
# Uses of a block pool

A pool is made empty, and then blocks are acquired, written, released and absorbed into it, and it
is compacted to some of the blocks in use. A block in use is followed through all of this: its
handle changes when the pool is compacted, and its contents when it is written. No two blocks in
use ever get one handle, so nothing that is done with another handle reaches a block.
-/

set_option autoImplicit false

namespace SeedStream.BlockPool

/-- A pool and the handles in use: those acquired since the pool was made or compacted, and those
that were kept when it was compacted, by their new numbers. -/
structure Usage where
  pool : BlockPool
  live : List Handle

inductive Op
  | acquire
  | write (h : Handle) (i : Nat) (x : Int32)
  | release (b : Block)
  | absorb (other : Usage)
  | compact (kept : List Handle)

namespace Usage

/-- A pool after an operation. One that is refused leaves it as it is. -/
def after (u : Usage) : Op → Usage
  | .acquire => ⟨u.pool.acquire.2, u.live ++ [u.pool.acquire.1]⟩
  | .write h i x => ⟨u.pool.write h i x, u.live⟩
  | .release b =>
    match u.pool.release b with
    | .ok q => ⟨q, u.live⟩
    | .error _ => u
  | .absorb other =>
    match u.pool.absorb other.pool with
    | .ok (_, q) => ⟨q, u.live⟩
    | .error _ => u
  | .compact kept => ⟨(u.pool.compact kept).2, List.range kept.length⟩

def run (u : Usage) : List Op → Usage
  | [] => u
  | op :: ops => (u.after op).run ops

/-- The pools that there are. A pool is compacted to distinct blocks in use, and what is absorbed
is a pool itself. -/
inductive Reached : Usage → Prop
  | create {n : Nat} {p : BlockPool} (h : create n = .ok p) : Reached ⟨p, []⟩
  | acquire {u : Usage} (hu : Reached u) : Reached (u.after .acquire)
  | write {u : Usage} (hu : Reached u) (h : Handle) (i : Nat) (x : Int32) :
      Reached (u.after (.write h i x))
  | release {u : Usage} (hu : Reached u) (b : Block) : Reached (u.after (.release b))
  | absorb {u other : Usage} (hu : Reached u) (ho : Reached other) :
      Reached (u.after (.absorb other))
  | compact {u : Usage} (hu : Reached u) {kept : List Handle} (hn : kept.Nodup)
      (hk : kept ⊆ u.live) : Reached (u.after (.compact kept))

def Permits (u : Usage) : Op → Prop
  | .compact kept => kept.Nodup ∧ kept ⊆ u.live
  | .absorb other => other.Reached
  | _ => True

def PermitsAll (u : Usage) : List Op → Prop
  | [] => True
  | op :: ops => u.Permits op ∧ (u.after op).PermitsAll ops

end Usage

namespace Op

def renamed : Op → Handle → Option Handle
  | .compact kept, h => kept.idxOf? h
  | _, h => some h

def written : Op → Handle → Block → Block
  | .write k i x, h, b => if h = k then b.setIfInBounds i x else b
  | _, _, b => b

/-- The handle of a block and its contents after operations, if the block is kept. -/
def follow : List Op → Handle → Block → Option (Handle × Block)
  | [], h, b => some (h, b)
  | op :: ops, h, b =>
    match op.renamed h with
    | none => none
    | some k => follow ops k (op.written h b)

theorem renamed_inj {op : Op} {h k l : Handle} (hh : op.renamed h = some l)
    (hk : op.renamed k = some l) : h = k := by
  cases op with
  | compact kept =>
    obtain ⟨hl, rfl, -⟩ := List.idxOf?_eq_some_iff.1 hh
    obtain ⟨-, rfl, -⟩ := List.idxOf?_eq_some_iff.1 hk
    rfl
  | _ => exact Option.some.inj (hh.trans hk.symm)

end Op

namespace Usage
open Op

variable {u v : Usage} {op : Op} {ops : List Op} {h k : Handle} {b c : Block}

theorem Reached.after (hu : u.Reached) (hp : u.Permits op) : (u.after op).Reached := by
  cases op with
  | acquire => exact hu.acquire
  | write h i x => exact hu.write h i x
  | release b => exact hu.release b
  | absorb other => exact hu.absorb hp
  | compact kept => exact hu.compact hp.1 hp.2

/-- An operation keeps the account, and a block in use is found under its new handle with its new
contents. -/
structure Keeps (u : Usage) (op : Op) : Prop where
  holding : (u.after op).pool.Holding (u.after op).live
  block : ∀ h ∈ u.live, ∀ k, op.renamed h = some k →
    k ∈ (u.after op).live ∧ (u.after op).pool.block k = op.written h (u.pool.block h)

theorem keeps_of_eq (hu : u.pool.Holding u.live) (hsame : u.after op = u)
    (hname : ∀ h, op.renamed h = some h) (hwritten : ∀ h b, op.written h b = b) :
    u.Keeps op where
  holding := hsame.symm ▸ hu
  block h hh k hk := by
    cases (hname h).symm.trans hk
    rw [hsame, hwritten]
    exact ⟨hh, rfl⟩

theorem keeps_acquire (hu : u.pool.Holding u.live) : u.Keeps .acquire where
  holding := hu.acquire
  block h hh k hk := by
    cases hk
    exact ⟨List.mem_append_left _ hh, u.pool.block_acquire (hu.lt hh)⟩

theorem keeps_write (hu : u.pool.Holding u.live) (l : Handle) (i : Nat) (x : Int32) :
    u.Keeps (.write l i x) where
  holding := hu.write l i x
  block h hh k hk := by
    cases hk
    exact ⟨hh, u.pool.block_write l i x h⟩

theorem after_release (u : Usage) (hb : b.size = u.pool.blockSize) :
    u.after (.release b) = ⟨u.pool.adopt b, u.live⟩ := by
  rw [after, BlockPool.release, if_pos hb]

theorem release_refused (u : Usage) (hb : b.size ≠ u.pool.blockSize) :
    u.pool.release b = .error (.blockSizeMismatch u.pool.blockSize b.size) ∧
      u.after (.release b) = u := by
  have herror : u.pool.release b = .error (.blockSizeMismatch u.pool.blockSize b.size) := if_neg hb
  exact ⟨herror, by rw [after, herror]⟩

theorem keeps_release (hu : u.pool.Holding u.live) (b : Block) : u.Keeps (.release b) := by
  by_cases hb : b.size = u.pool.blockSize
  · have hafter := u.after_release hb
    constructor
    · rw [hafter]
      exact hu.adopt hb
    · intro h hh k hk
      cases hk
      rw [hafter]
      exact ⟨hh, u.pool.block_adopt b (hu.lt hh)⟩
  · exact keeps_of_eq hu (u.release_refused hb).2 (fun _ => rfl) fun _ _ => rfl

theorem absorb_refused (u v : Usage) (hs : v.pool.blockSize ≠ u.pool.blockSize) :
    u.pool.absorb v.pool = .error (.blockSizeMismatch u.pool.blockSize v.pool.blockSize) ∧
      u.after (.absorb v) = u := by
  have herror : u.pool.absorb v.pool =
      .error (.blockSizeMismatch u.pool.blockSize v.pool.blockSize) := if_neg hs
  exact ⟨herror, by rw [after, herror]⟩

theorem keeps_absorb (hu : u.pool.Holding u.live) (hv : v.pool.Holding v.live) :
    u.Keeps (.absorb v) := by
  by_cases hs : v.pool.blockSize = u.pool.blockSize
  · obtain ⟨q, hq, hext⟩ := hu.absorb hv hs
    have hafter : u.after (.absorb v) = ⟨q, u.live⟩ := by rw [after, hq]
    constructor
    · rw [hafter]
      exact hext.holding
    · intro h hh k hk
      cases hk
      rw [hafter]
      exact ⟨hh, hext.block h (hu.lt hh)⟩
  · exact keeps_of_eq hu (u.absorb_refused v hs).2 (fun _ => rfl) fun _ _ => rfl

theorem keeps_compact (hu : u.pool.Holding u.live) {kept : List Handle} (hn : kept.Nodup)
    (hk : kept ⊆ u.live) : u.Keeps (.compact kept) := by
  obtain ⟨free, hkept⟩ := hu.narrow hn hk
  constructor
  · exact hkept.compact
  · intro h hh k hrenamed
    obtain ⟨hlt, rfl, -⟩ := List.idxOf?_eq_some_iff.1 hrenamed
    exact ⟨List.mem_range.2 hlt, block_compact hkept hlt⟩

theorem Reached.holding (hu : u.Reached) : u.pool.Holding u.live := by
  induction hu with
  | @create n p h =>
    unfold BlockPool.create at h
    split at h
    next hpos =>
      cases h
      exact empty_holding n hpos
    next => cases h
  | acquire _ ih => exact (keeps_acquire ih).holding
  | write _ h i x ih => exact (keeps_write ih h i x).holding
  | release _ b ih => exact (keeps_release ih b).holding
  | absorb _ _ ihu iho => exact (keeps_absorb ihu iho).holding
  | compact _ hn hk ih => exact (keeps_compact ih hn hk).holding

theorem Reached.keeps (hu : u.Reached) (hp : u.Permits op) : u.Keeps op := by
  cases op with
  | acquire => exact keeps_acquire hu.holding
  | write h i x => exact keeps_write hu.holding h i x
  | release b => exact keeps_release hu.holding b
  | absorb other => exact keeps_absorb hu.holding (Reached.holding hp)
  | compact kept => exact keeps_compact hu.holding hp.1 hp.2

/-- A block in use that is kept is in use under the handle it is followed to, with the contents
it is followed to. -/
theorem Reached.followed (hu : u.Reached) (hp : u.PermitsAll ops) (hh : h ∈ u.live)
    (hf : follow ops h (u.pool.block h) = some (k, c)) :
    k ∈ (u.run ops).live ∧ (u.run ops).pool.block k = c := by
  induction ops generalizing u h with
  | nil =>
    cases hf
    exact ⟨hh, rfl⟩
  | cons op ops ih =>
    obtain ⟨hop, hrest⟩ := hp
    rw [follow] at hf
    cases hrenamed : op.renamed h with
    | none =>
      rw [hrenamed] at hf
      cases hf
    | some l =>
      rw [hrenamed] at hf
      obtain ⟨hl, hblock⟩ := (hu.keeps hop).block h hh l hrenamed
      exact ih (hu.after hop) hrest hl (hblock ▸ hf)

theorem follow_inj {l : Handle} {b' c' : Block} (hh : follow ops h b = some (l, c))
    (hk : follow ops k b' = some (l, c')) : h = k := by
  induction ops generalizing h k b b' with
  | nil =>
    cases hh
    cases hk
    rfl
  | cons op ops ih =>
    rw [follow] at hh hk
    cases hrh : op.renamed h with
    | none =>
      rw [hrh] at hh
      cases hh
    | some h' =>
      cases hrk : op.renamed k with
      | none =>
        rw [hrk] at hk
        cases hk
      | some k' =>
        rw [hrh] at hh
        rw [hrk] at hk
        obtain rfl := ih hh hk
        exact renamed_inj hrh hrk

theorem Reached.create_ok {n : Nat} (hn : 1 ≤ n) :
    ∃ p, BlockPool.create n = .ok p ∧ Reached ⟨p, []⟩ := by
  have hok : BlockPool.create n = .ok (empty n hn) := dif_pos hn
  exact ⟨_, hok, .create hok⟩

structure Lawful (u : Usage) : Prop where
  fresh : u.pool.acquire.1 ∉ u.live
  balanced : u.pool.stats.totalBlocks = u.live.length + u.pool.stats.freeBlocks
  /-- Whatever is done, a block that is kept is in use under the handle and with the contents that
  the renumbering and the writes through its own handles give. -/
  followed : ∀ ops, u.PermitsAll ops → ∀ h ∈ u.live, ∀ k c,
    follow ops h (u.pool.block h) = some (k, c) →
      k ∈ (u.run ops).live ∧ (u.run ops).pool.block k = c
  /-- Whatever is done, two blocks keep different handles. -/
  apart : ∀ ops, ∀ h ∈ u.live, ∀ k ∈ u.live, ∀ l b c,
    follow ops h (u.pool.block h) = some (l, b) → follow ops k (u.pool.block k) = some (l, c) →
    h = k
  /-- Compacting counts the handles through and says how many blocks it removes. -/
  compacted : ∀ kept : List Handle, kept.Nodup → kept ⊆ u.live →
    u.pool.compactSlots kept = (List.range kept.length, u.pool.compact kept) ∧
    (u.pool.compact kept).1 + (u.pool.compact kept).2.stats.totalBlocks = u.pool.stats.totalBlocks
  released : ∀ b : Block, b.size = u.pool.blockSize → ∃ q, u.pool.release b = .ok q
  absorbed : ∀ v : Usage, v.Reached → v.pool.blockSize = u.pool.blockSize →
    ∃ q, u.pool.absorb v.pool = .ok (v.pool.stats.totalBlocks, q)
  release_refused : ∀ b : Block, b.size ≠ u.pool.blockSize →
    u.pool.release b = .error (.blockSizeMismatch u.pool.blockSize b.size) ∧
      u.after (.release b) = u
  absorb_refused : ∀ v : Usage, v.pool.blockSize ≠ u.pool.blockSize →
    u.pool.absorb v.pool = .error (.blockSizeMismatch u.pool.blockSize v.pool.blockSize) ∧
      u.after (.absorb v) = u

theorem Reached.fresh (hu : u.Reached) : u.pool.acquire.1 ∉ u.live := by
  have hnodup := hu.holding.acquire.nodup
  rw [List.nodup_append] at hnodup
  exact fun hmem => hnodup.2.2 _ hmem _ (List.mem_singleton_self _) rfl

theorem Reached.compacted (hu : u.Reached) {kept : List Handle} (hn : kept.Nodup)
    (hk : kept ⊆ u.live) :
    u.pool.compactSlots kept = (List.range kept.length, u.pool.compact kept) ∧
      (u.pool.compact kept).1 + (u.pool.compact kept).2.stats.totalBlocks =
        u.pool.stats.totalBlocks := by
  obtain ⟨free, hkept⟩ := hu.holding.narrow hn hk
  exact ⟨hkept.compactSlots_eq, hkept.compact_count⟩

/-- In every history of a pool, what is acquired was not in use, blocks in use and free blocks are
all blocks, and blocks in use are kept apart and keep their contents, also when compaction gives
them new handles. What is refused changes nothing. -/
theorem reached_lawful :
    (∀ n, 1 ≤ n → ∃ p, BlockPool.create n = .ok p ∧ Reached ⟨p, []⟩) ∧
      ∀ u : Usage, u.Reached → u.Lawful := by
  refine ⟨fun n hn => Reached.create_ok hn, fun u hu => ?_⟩
  exact
    { fresh := hu.fresh
      balanced := hu.holding.count
      followed := fun ops hp h hh k c hf => hu.followed hp hh hf
      apart := fun ops h _ k _ l b c hh hk => follow_inj hh hk
      compacted := fun kept hn hk => hu.compacted hn hk
      released := fun b hb => ⟨_, if_pos hb⟩
      absorbed := fun v hv hs => (hu.holding.absorb hv.holding hs).imp fun q hq => hq.1
      release_refused := fun b hb => u.release_refused hb
      absorb_refused := fun v hs => u.absorb_refused v hs }

/-- Two blocks acquired, one of them written, and one from elsewhere. The pool is compacted to the
written block, and the number of the other one is given out again. -/
theorem reached_lawful_of_reuse :
    ∃ u v : Usage, u.Reached ∧ u.live = [0, 1] ∧ u.pool.free = [2] ∧
      (u.pool.compact [1]).1 + 1 = 3 ∧
      v = u.run [.compact [1], .acquire, .write 1 0 4, .release #[1], .write 0 1 9] ∧
      v.live = [0, 1] ∧ v.pool.block 0 = #[7, 9] ∧ v.pool.block 1 = #[4, 0] := by
  let start : Usage := ⟨empty 2 (by decide), []⟩
  let u := start.run [.acquire, .acquire, .write 1 0 7, .release #[5, 6]]
  let ops : List Op := [.compact [1], .acquire, .write 1 0 4, .release #[1], .write 0 1 9]
  obtain ⟨-, hlawful⟩ := reached_lawful
  have hcreate : BlockPool.create 2 = .ok (empty 2 (by decide)) := rfl
  have hstart : start.Reached := .create hcreate
  have hu : u.Reached := .release (.write (.acquire (.acquire hstart)) 1 0 7) #[5, 6]
  have hkept : ([1] : List Handle) ⊆ u.live := by decide +kernel
  have hpermits : u.PermitsAll ops :=
    ⟨⟨by decide, hkept⟩, trivial, trivial, trivial, trivial, trivial⟩
  obtain ⟨-, hcount⟩ := (hlawful u hu).compacted [1] (by decide) hkept
  obtain ⟨-, hblock⟩ := (hlawful u hu).followed ops hpermits 1 (by decide +kernel) 0 #[7, 9]
    (by decide +kernel)
  exact ⟨u, u.run ops, hu, by decide +kernel, by decide +kernel, hcount, rfl, by decide +kernel,
    hblock, by decide +kernel⟩

end Usage
end SeedStream.BlockPool
