import SeedStream.Proofs.Coverage.Stretches

/-!
# Gaps as maximal intervals

If every block holds an instant, the data reaches beyond the start of each block as soon as it
is read. So no gap begins where the one before it ends, and the gaps of a channel are the maximal
intervals that no block meets, between the start of the first block and the greatest end.
-/

set_option autoImplicit false

namespace SeedStream

theorem Stretches.mem_iff {i : Int} {C : Int → Prop} {windows : List Window}
    (h : Stretches i C windows) (w : Window) : w ∈ windows ↔
      w.interval = i ∧ w.start < w.stop ∧ (∀ x, w.start ≤ x → x < w.stop → C x) ∧
        ∀ a b, a ≤ w.start → w.stop ≤ b → (∀ x, a ≤ x → x < b → C x) →
          a = w.start ∧ b = w.stop := by
  constructor
  · intro hw
    have hlt := h.nonempty w hw
    refine ⟨h.interval w hw, hlt, fun x hlo hhi => (h.covered x).1 ⟨w, hw, hlo, hhi⟩, ?_⟩
    intro a b ha hb hC
    constructor
    · by_contra hne
      exact h.first w hw (hC _ (by omega) (by omega))
    · by_contra hne
      exact h.last w hw (hC _ (by omega) (by omega))
  · rintro ⟨hi, hlt, hC, hwide⟩
    obtain ⟨v, hv, hlo, hhi⟩ := h.holds_range hlt hC
    obtain ⟨hstart, hstop⟩ := hwide v.start v.stop hlo hhi fun x hxlo hxhi =>
      (h.covered x).1 ⟨v, hv, hxlo, hxhi⟩
    have hsame : v = w := by
      obtain ⟨a, b, j⟩ := v
      obtain ⟨a', b', j'⟩ := w
      simp only [Window.mk.injEq]
      exact ⟨hstart, hstop, (h.interval _ hv).trans hi.symm⟩
    exact hsame ▸ hv

namespace ChannelCoverage

variable {c : ChannelCoverage} {i reach x : Int} {windows blocks : List Window} {g : Gap}

theorem gapsFrom_apart (h : ∀ w ∈ blocks, w.start < w.stop) :
    (gapsFrom reach blocks).Pairwise fun g h => g.2 < h.1 := by
  induction blocks generalizing reach with
  | nil => exact .nil
  | cons w rest ih =>
    obtain ⟨hw, hrest⟩ := List.forall_mem_cons.1 h
    rw [gapsFrom]
    by_cases hgap : reach < w.start
    · rw [if_pos hgap]
      refine .cons ?_ (ih hrest)
      intro g hg
      have hbehind := le_of_mem_gapsFrom hg
      dsimp only
      omega
    · rw [if_neg hgap]
      exact ih hrest

theorem Sound.gaps_apart (h : c.Sound) (hb : ∀ w ∈ c.blocks, w.start < w.stop) :
    c.gaps.Pairwise fun g h => g.2 < h.1 := by
  rw [h.gaps]
  cases hblocks : c.blocks with
  | nil => exact .nil
  | cons w rest =>
    rw [hblocks] at hb
    exact gapsFrom_apart (List.forall_mem_cons.1 hb).2

/-- Gaps lie between blocks, so with instants in the first and the last of these they lie within
the span of the channel. -/
theorem Sound.span_of_inGap (h : c.Sound) (hb : ∀ w ∈ c.blocks, w.start < w.stop)
    (hx : InGap c.gaps x) : c.start ≤ x ∧ x < c.stop := by
  rw [lt_stop_iff]
  rw [h.gaps] at hx
  have hordered := h.ordered
  obtain ⟨j, blocks, gaps, hne⟩ := c
  cases blocks with
  | nil => exact absurd rfl hne
  | cons v rest =>
    obtain ⟨hv, hrest⟩ := List.forall_mem_cons.1 hb
    obtain ⟨hlo, -, w, hw, hhi⟩ := (inGap_gapsFrom (List.pairwise_cons.1 hordered).2).1 hx
    have hw' := hrest w hw
    have hfirst : v.start ≤ x := by omega
    exact ⟨hfirst, w, List.mem_cons_of_mem v hw, by omega⟩

def gapWindow (i : Int) (g : Gap) : Window := ⟨g.1, g.2, i⟩

theorem mem_map_gapWindow {gaps : List Gap} :
    gapWindow i g ∈ gaps.map (gapWindow i) ↔ g ∈ gaps := by
  rw [List.mem_map]
  constructor
  · rintro ⟨⟨a, b⟩, hg, heq⟩
    obtain ⟨a', b'⟩ := g
    cases heq
    exact hg
  · exact fun hg => ⟨g, hg, rfl⟩

theorem covered_gaps {gaps : List Gap} : Covered (gaps.map (gapWindow i)) x ↔ InGap gaps x := by
  simp [Covered, InGap, gapWindow]

theorem Sound.gaps_stretches (h : c.Sound) (hb : ∀ w ∈ c.blocks, w.start < w.stop) :
    Stretches i (fun x => (c.start ≤ x ∧ x < c.stop) ∧ ¬ Covered c.blocks x)
      (c.gaps.map (gapWindow i)) := by
  have hseparate : Separate i (c.gaps.map (gapWindow i)) := by
    constructor
    · rw [List.forall_mem_map]
      exact fun _ _ => rfl
    · rw [List.forall_mem_map]
      exact fun g hg => h.gap_lt hg
    · rw [List.pairwise_map]
      exact h.gaps_apart hb
  apply hseparate.stretches.congr
  intro x
  rw [covered_gaps]
  constructor
  · intro hx
    have hspan := h.span_of_inGap hb hx
    exact ⟨hspan, (h.inGap_iff hspan.1 hspan.2).1 hx⟩
  · rintro ⟨hspan, hout⟩
    exact (h.inGap_iff hspan.1 hspan.2).2 hout

/-- An interval with instants, inside the span of a channel, that meets none of the windows. -/
structure Free (c : ChannelCoverage) (windows : List Window) (g : Gap) : Prop where
  nonempty : g.1 < g.2
  within : c.start ≤ g.1 ∧ g.2 ≤ c.stop
  clear : ∀ x, g.1 ≤ x → x < g.2 → ¬ Covered windows x

@[mk_iff]
structure MaximallyFree (c : ChannelCoverage) (windows : List Window) (g : Gap) : Prop where
  free : c.Free windows g
  maximal : ∀ h, c.Free windows h → h.1 ≤ g.1 → g.2 ≤ h.2 → h = g

theorem free_iff : c.Free windows g ↔ g.1 < g.2 ∧
    ∀ x, g.1 ≤ x → x < g.2 → (c.start ≤ x ∧ x < c.stop) ∧ ¬ Covered windows x := by
  constructor
  · rintro ⟨hlt, hin, hclear⟩
    exact ⟨hlt, fun x hlo hhi => ⟨⟨by omega, by omega⟩, hclear x hlo hhi⟩⟩
  · rintro ⟨hlt, hall⟩
    have hfirst := (hall g.1 (Int.le_refl _) hlt).1
    have hlast := (hall (g.2 - 1) (by omega) (by omega)).1
    exact ⟨hlt, ⟨hfirst.1, by omega⟩, fun x hlo hhi => (hall x hlo hhi).2⟩

theorem Sound.mem_gaps_iff (h : c.Sound) (hb : ∀ w ∈ c.blocks, w.start < w.stop) :
    g ∈ c.gaps ↔ c.MaximallyFree c.blocks g := by
  rw [← mem_map_gapWindow (i := c.interval), (h.gaps_stretches hb).mem_iff]
  obtain ⟨a, b⟩ := g
  constructor
  · rintro ⟨-, hlt, hclear, hwide⟩
    refine ⟨free_iff.2 ⟨hlt, hclear⟩, ?_⟩
    rintro ⟨a', b'⟩ hfree ha hb
    obtain ⟨rfl, rfl⟩ := hwide a' b' ha hb (free_iff.1 hfree).2
    rfl
  · rintro ⟨hfree, hmax⟩
    obtain ⟨hlt, hclear⟩ := free_iff.1 hfree
    refine ⟨rfl, hlt, hclear, ?_⟩
    intro a' b' ha hb hall
    have hlt' : a' < b' := lt_of_le_of_lt ha (lt_of_lt_of_le hlt hb)
    have heq := hmax (a', b') (free_iff.2 ⟨hlt', hall⟩) ha hb
    exact Prod.mk.inj heq

/-- The gaps of a channel whose blocks hold instants are the maximal intervals within its span
that meet no block, and each ends before the next one begins. -/
theorem gaps_maximal (i : Int) (windows : List Window) (hne : windows ≠ [])
    (h : ∀ w ∈ windows, w.start < w.stop ∧ w.interval = i) :
    ∃ c, ofBlocks i windows = .ok c ∧
      (c.gaps.Pairwise fun g h => g.1 < g.2 ∧ g.2 < h.1 ∧ h.1 < h.2) ∧
      ∀ g, g ∈ c.gaps ↔ c.MaximallyFree windows g := by
  obtain ⟨c, hc⟩ := ofBlocks_ok hne fun w hw => (h w hw).2
  obtain ⟨hsound, -, hperm⟩ := ofBlocks_sound hc
  have hb : ∀ w ∈ c.blocks, w.start < w.stop := fun w hw => (h w (hperm.mem_iff.1 hw)).1
  refine ⟨c, hc, ?_, ?_⟩
  · apply (hsound.gaps_apart hb).imp_of_mem
    intro g h hg hh hgh
    exact ⟨hsound.gap_lt hg, hgh, hsound.gap_lt hh⟩
  · intro g
    have hsame : c.Free c.blocks = c.Free windows := by
      funext g
      simp only [free_iff, covered_perm hperm]
    rw [hsound.mem_gaps_iff hb, maximallyFree_iff, maximallyFree_iff, hsame]

/-- Blocks out of order, two of them with one start, one inside another and one behind it without
a gap. -/
def nested : List Window :=
  [⟨12, 15, 1⟩, ⟨0, 10, 1⟩, ⟨2, 3, 1⟩, ⟨10, 11, 1⟩, ⟨0, 4, 1⟩, ⟨20, 22, 1⟩]

theorem gaps_maximal_of_nested :
    ∃ c, ofBlocks 1 nested = .ok c ∧ c.gaps = [(11, 12), (15, 20)] ∧
      ∀ g, g = (11, 12) ∨ g = (15, 20) ↔ c.MaximallyFree nested g := by
  have hbuilt : ofBlocks 1 nested =
      .ok ⟨1,
        [⟨0, 4, 1⟩, ⟨0, 10, 1⟩, ⟨2, 3, 1⟩, ⟨10, 11, 1⟩,
          ⟨12, 15, 1⟩, ⟨20, 22, 1⟩],
        [(11, 12), (15, 20)], by decide⟩ := by
    simp +decide [nested, ofBlocks, List.mergeSort, List.MergeSort.Internal.splitInTwo]
  obtain ⟨c, hc, -, hgaps⟩ := gaps_maximal 1 nested (by decide) (by decide)
  cases hbuilt.symm.trans hc
  refine ⟨_, hbuilt, rfl, fun g => ?_⟩
  rw [← hgaps g]
  simp

end ChannelCoverage
end SeedStream
