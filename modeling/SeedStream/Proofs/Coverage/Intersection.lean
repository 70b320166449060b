import Mathlib.Tactic.SplitIfs
import SeedStream.Proofs.Coverage.Gaps

/-!
# Windows that channels have in common

Each further channel clips the windows to its span and cuts them at its gaps. An
instant remains exactly if the channel has a block that holds it. So the windows
of an intersection hold the instants at which every channel has data, however the
blocks of a channel lie to each other.
-/

set_option autoImplicit false

namespace SeedStream.ChannelCoverage

variable {c : ChannelCoverage} {i x : Int} {windows : List Window}

theorem covered_cutAt {cursor stop : Int} {gaps : List Gap}
    (hs : gaps.Pairwise fun g h => g.1 ≤ h.1) :
    Covered (cutAt i stop cursor gaps) x ↔ (cursor ≤ x ∧ x < stop) ∧ ¬ InGap gaps x := by
  induction gaps generalizing cursor with
  | nil =>
    rw [cutAt]
    by_cases hempty : cursor < stop
    · simp [hempty, InGap]
    · simp only [hempty, if_false, covered_nil, false_iff]
      omega
  | cons g rest ih =>
    obtain ⟨a, b⟩ := g
    obtain ⟨hfirst, hrest⟩ := List.pairwise_cons.1 hs
    -- The starts grow, so the search may stop at a gap that starts behind the window.
    have hlater : InGap rest x → a ≤ x := by
      rintro ⟨g, hg, hgx, -⟩
      exact le_trans (hfirst g hg) hgx
    rw [inGap_cons, cutAt]
    by_cases hin : InGap rest x
    · have hx := hlater hin
      simp only [hin, or_true, not_true_eq_false, and_false, iff_false]
      split_ifs <;> simp [ih hrest, hin] <;> omega
    · simp only [hin, or_false]
      split_ifs <;> simp [ih hrest, hin] <;> omega

theorem Sound.covered_clip (h : c.Sound) (w : Window) :
    Covered (c.clip w) x ↔ (w.start ≤ x ∧ x < w.stop) ∧ Covered c.blocks x := by
  have hgaps : c.gaps.Pairwise fun g h => g.1 ≤ h.1 := by
    rw [h.gaps]
    exact gapsOf_ordered c.blocks
  have hinside : Covered c.blocks x ↔
      (c.start ≤ x ∧ x < c.stop) ∧ ¬ InGap c.gaps x := by
    constructor
    · intro hx
      have hspan := h.covered_span hx
      exact ⟨hspan, fun hgap => (h.inGap_iff hspan.1 hspan.2).1 hgap hx⟩
    · rintro ⟨hspan, hout⟩
      rw [h.inGap_iff hspan.1 hspan.2, not_not] at hout
      exact hout
  rw [hinside, clip]
  by_cases hempty : min w.stop c.stop ≤ max w.start c.start
  · simp only [hempty, if_true, covered_nil, false_iff]
    omega
  · rw [if_neg hempty, covered_cutAt hgaps, max_le_iff, lt_min_iff]
    simp only [and_assoc, and_left_comm]

theorem Sound.covered_restrict (h : c.Sound) :
    Covered (c.restrict windows) x ↔ Covered windows x ∧ Covered c.blocks x := by
  rw [restrict, covered_flatMap]
  simp only [h.covered_clip]
  constructor
  · rintro ⟨w, hw, hx, hc⟩
    exact ⟨⟨w, hw, hx⟩, hc⟩
  · rintro ⟨⟨w, hw, hx⟩, hc⟩
    exact ⟨w, hw, hx, hc⟩

theorem covered_foldl_restrict {channels : List ChannelCoverage}
    (h : ∀ c ∈ channels, c.Sound) :
    Covered (channels.foldl (fun windows c => c.restrict windows) windows) x ↔
      Covered windows x ∧ ∀ c ∈ channels, Covered c.blocks x := by
  induction channels generalizing windows with
  | nil => simp
  | cons c rest ih =>
    obtain ⟨hc, hrest⟩ := List.forall_mem_cons.1 h
    rw [List.foldl_cons, ih hrest, hc.covered_restrict, List.forall_mem_cons, and_assoc]

theorem intersect_ok {channels : List ChannelCoverage} (hi : ∀ c ∈ channels, c.interval = i) :
    ∃ windows, intersect channels = .ok windows := by
  cases channels with
  | nil => exact ⟨[], rfl⟩
  | cons c rest =>
    have hfind : (c :: rest).find? (fun d => d.interval != c.interval) = none := by
      rw [List.find?_eq_none]
      intro d hd
      simp [hi d hd, hi c List.mem_cons_self]
    rw [intersect, hfind]
    exact ⟨_, rfl⟩

theorem intersect_sorted {channels : List ChannelCoverage} (h : intersect channels = .ok windows) :
    windows.Pairwise fun a b => a.le b = true := by
  unfold intersect at h
  split at h
  next =>
    cases h
    exact List.Pairwise.nil
  next =>
    split at h
    next => cases h
    next =>
      cases h
      exact Window.pairwise_sorted _

theorem covered_intersect {channels : List ChannelCoverage} (hne : channels ≠ [])
    (hs : ∀ c ∈ channels, c.Sound) (h : intersect channels = .ok windows) :
    Covered windows x ↔ ∀ c ∈ channels, Covered c.blocks x := by
  cases channels with
  | nil => exact absurd rfl hne
  | cons c rest =>
    unfold intersect at h
    split at h
    next => contradiction
    next heq =>
      cases heq
      split at h
      next => cases h
      next =>
        cases h
        rw [covered_perm (List.mergeSort_perm _ _),
          covered_foldl_restrict (List.forall_mem_cons.1 hs).2, List.forall_mem_cons]

structure Built (i : Int) (lists : List (List Window)) (channels : List ChannelCoverage) :
    Prop where
  sound : ∀ c ∈ channels, c.Sound
  interval : ∀ c ∈ channels, c.interval = i
  length : channels.length = lists.length
  covered : ∀ x, (∀ c ∈ channels, Covered c.blocks x) ↔
    ∀ blocks ∈ lists, Covered blocks x

theorem mapM_ofBlocks {lists : List (List Window)}
    (h : ∀ blocks ∈ lists, blocks ≠ [] ∧ ∀ w ∈ blocks, w.interval = i) :
    ∃ channels, lists.mapM (ofBlocks i) = .ok channels ∧ Built i lists channels := by
  induction lists with
  | nil => exact ⟨[], rfl, by simp, by simp, rfl, by simp⟩
  | cons blocks rest ih =>
    obtain ⟨⟨hne, hi⟩, hrest⟩ := List.forall_mem_cons.1 h
    obtain ⟨channels, hchannels, hb⟩ := ih hrest
    obtain ⟨c, hc⟩ := ofBlocks_ok hne hi
    obtain ⟨hsound, hinterval, hperm⟩ := ofBlocks_sound hc
    refine ⟨c :: channels, ?_, ?_, ?_, ?_, ?_⟩
    · rw [List.mapM_cons, hc, hchannels]
      rfl
    · exact List.forall_mem_cons.2 ⟨hsound, hb.sound⟩
    · exact List.forall_mem_cons.2 ⟨hinterval, hb.interval⟩
    · simp [hb.length]
    · intro x
      rw [List.forall_mem_cons, List.forall_mem_cons, hb.covered, covered_perm hperm]

/-- The windows that channels have in common hold exactly the instants at which each
channel has a block, and stand in the order of their starts and ends. -/
theorem intersect_covers (i : Int) (lists : List (List Window)) (hne : lists ≠ [])
    (h : ∀ blocks ∈ lists, blocks ≠ [] ∧ ∀ w ∈ blocks, w.interval = i) :
    ∃ windows, (lists.mapM (ofBlocks i) >>= intersect) = .ok windows ∧
      (∀ x, Covered windows x ↔ ∀ blocks ∈ lists, Covered blocks x) ∧
      windows.Pairwise fun a b =>
        a.start < b.start ∨ (a.start = b.start ∧ a.stop ≤ b.stop) := by
  obtain ⟨channels, hchannels, hb⟩ := mapM_ofBlocks h
  obtain ⟨windows, hwindows⟩ := intersect_ok hb.interval
  have hchannels_ne : channels ≠ [] := by
    intro hnil
    apply hne
    rw [← List.length_eq_zero_iff, ← hb.length, hnil]
    rfl
  refine ⟨windows, ?_, ?_, ?_⟩
  · rw [hchannels]
    exact hwindows
  · intro x
    rw [covered_intersect hchannels_ne hb.sound hwindows, hb.covered]
  · apply (intersect_sorted hwindows).imp
    intro a b hab
    exact (Window.le_iff a b).1 hab

/-- Two channels: one with nested, touching and empty blocks out of order, one with a
gap inside the other's long block. -/
theorem intersect_covers_of_nested :
    ∃ windows, ([[⟨10, 40, 1⟩, ⟨0, 5, 1⟩, ⟨12, 15, 1⟩, ⟨5, 5, 1⟩],
        [⟨20, 30, 1⟩, ⟨2, 12, 1⟩]].mapM (ofBlocks 1) >>= intersect) = .ok windows ∧
      ∀ x, Covered windows x ↔
        (2 ≤ x ∧ x < 5) ∨ (10 ≤ x ∧ x < 12) ∨ (20 ≤ x ∧ x < 30) := by
  obtain ⟨windows, hwindows, hcovered, -⟩ := intersect_covers 1
    [[⟨10, 40, 1⟩, ⟨0, 5, 1⟩, ⟨12, 15, 1⟩, ⟨5, 5, 1⟩],
      [⟨20, 30, 1⟩, ⟨2, 12, 1⟩]]
    (by decide) (by decide)
  refine ⟨windows, hwindows, ?_⟩
  intro x
  rw [hcovered x]
  simp only [List.forall_mem_cons, covered_cons, covered_nil]
  simp only [List.not_mem_nil, false_imp_iff, implies_true, and_true, or_false]
  omega

/-- Without channels there is no window, though no channel lacks a block. -/
theorem intersect_none_uncovered :
    ¬ ∀ (i : Int) (lists : List (List Window)),
      (∀ blocks ∈ lists, blocks ≠ [] ∧ ∀ w ∈ blocks, w.interval = i) →
      ∃ windows, (lists.mapM (ofBlocks i) >>= intersect) = .ok windows ∧
        ∀ x, Covered windows x ↔ ∀ blocks ∈ lists, Covered blocks x := by
  intro h
  obtain ⟨windows, hwindows, hcovered⟩ := h 1 [] (by simp)
  have hnone : windows = [] := by
    cases hwindows
    rfl
  subst hnone
  exact covered_nil ((hcovered 0).2 (by simp))

end SeedStream.ChannelCoverage
