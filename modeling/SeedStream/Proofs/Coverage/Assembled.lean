import SeedStream.Proofs.Assembly.Words
import SeedStream.Proofs.Coverage.Stretches
import SeedStream.Proofs.Segment.Reachable

/-!
# What assembled channels have in common

The blocks of an assembled channel are its segments. The windows that channels have
in common are the maximal intervals of the instants at which each has a segment, in
whatever order the channels are given and however often.
-/

set_option autoImplicit false

namespace SeedStream

section MapM

variable {α β ε : Type} {f : α → Except ε β} {l : List α} {bs : List β}

theorem mapM_ok_iff : (∃ bs, l.mapM f = .ok bs) ↔ ∀ a ∈ l, ∃ b, f a = .ok b := by
  induction l with
  | nil => simp [pure, Except.pure]
  | cons a l ih =>
    simp only [List.mapM_cons, bind_eq_ok, List.forall_mem_cons, ← ih]
    constructor
    · rintro ⟨_, b, hb, bs, hbs, -⟩
      exact ⟨⟨b, hb⟩, bs, hbs⟩
    · rintro ⟨⟨b, hb⟩, bs, hbs⟩
      exact ⟨b :: bs, b, hb, bs, hbs, rfl⟩

theorem mem_of_mapM (h : l.mapM f = .ok bs) (b : β) : b ∈ bs ↔ ∃ a ∈ l, f a = .ok b := by
  induction l generalizing bs with
  | nil =>
    cases h
    simp
  | cons a l ih =>
    rw [List.mapM_cons] at h
    obtain ⟨c, hc, hrest⟩ := bind_eq_ok.1 h
    obtain ⟨cs, hcs, heq⟩ := bind_eq_ok.1 hrest
    cases heq
    rw [List.mem_cons, ih hcs, List.exists_mem_cons_iff, hc, Except.ok.injEq, eq_comm]

end MapM

namespace ChannelCoverage
open Assembly Segment

variable {c : ChannelCoverage} {i d : Int} {segments : List Segment} {windows : List Window}

theorem spaced_separate (hi : 0 < i) (hd : 0 < d) (hs : Spaced i d segments) :
    Separate i (segments.map Window.ofSegment) where
  interval := by
    rw [List.forall_mem_map]
    exact fun s hmem => (hs.paced s hmem).interval
  nonempty := by
    rw [List.forall_mem_map]
    exact fun s hmem => hs.start_lt_stop hi hmem
  apart := by
    have htol : 0 ≤ i / d := Int.ediv_nonneg (Int.le_of_lt hi) (Int.le_of_lt hd)
    rw [List.pairwise_map]
    apply hs.apart.imp
    intro a b hab
    change a.stop < b.start
    omega

theorem ofBlocks_blocks (h : ofBlocks i windows = .ok c) :
    c.blocks = windows.mergeSort Window.le := by
  unfold ofBlocks at h
  split at h
  next => cases h
  next =>
    dsimp only at h
    split at h
    next =>
      cases h
      rfl
    next => cases h

theorem ofSegments_spaced (hi : 0 < i) (hd : 0 < d) (hs : Spaced i d segments)
    (hne : segments ≠ []) :
    ∃ c, ofSegments segments = .ok c ∧ c.Orderly i ∧ c.interval = i ∧
      c.blocks = segments.map Window.ofSegment := by
  have hseparate := spaced_separate hi hd hs
  have hofBlocks : ofSegments segments = ofBlocks i (segments.map Window.ofSegment) := by
    cases segments with
    | nil => exact absurd rfl hne
    | cons s rest =>
      have hinterval := (hs.paced s List.mem_cons_self).interval
      rw [ofSegments, ofSegmentsIn, hinterval]
      rfl
  obtain ⟨c, hc⟩ := ofBlocks_ok (by simpa using hne) hseparate.interval
  obtain ⟨hsound, hinterval, -⟩ := ofBlocks_sound hc
  have hblocks := ofBlocks_blocks hc
  rw [hseparate.mergeSort_eq] at hblocks
  exact ⟨c, hofBlocks.trans hc, ⟨hsound, hblocks ▸ hseparate⟩, hinterval, hblocks⟩

/-- A channel holds the instant `x` when it is assembled. -/
def Has (m : Arithmetic) (x : Int) (segments : List Segment) : Prop :=
  ∃ s ∈ (assembleIn m segments).1, s.start ≤ x ∧ x < s.stop

structure Mirrors (m : Arithmetic) (i : Int) (segments : List Segment) (c : ChannelCoverage) :
    Prop where
  orderly : c.Orderly i
  interval : c.interval = i
  covered : ∀ x, Covered c.blocks x ↔ Has m x segments

end ChannelCoverage
end SeedStream
