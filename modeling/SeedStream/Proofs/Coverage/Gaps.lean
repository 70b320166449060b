import Mathlib.Data.Int.Order.Basic
import Mathlib.Data.List.Basic
import Mathlib.Order.MinMax
import SeedStream.Coverage

/-!
# Gaps of a coverage

The blocks of a channel are sorted by start only, so a long block may enclose
later ones and the data so far reaches to the greatest end, not to the last. An
instant is in a gap if the data before it has ended, no block holds it and a
block is still to come. Between the start of the first block and the greatest
end, the gaps hold exactly what no block holds.
-/

set_option autoImplicit false

namespace SeedStream

/-- An instant lies in one of the windows. -/
def Covered (windows : List Window) (x : Int) : Prop :=
  ∃ w ∈ windows, w.start ≤ x ∧ x < w.stop

section Covered

variable {w : Window} {a b : List Window} {x : Int}

@[simp] theorem covered_nil : ¬ Covered [] x := by
  rintro ⟨w, hw, -⟩
  exact List.not_mem_nil hw

@[simp] theorem covered_cons :
    Covered (w :: b) x ↔ (w.start ≤ x ∧ x < w.stop) ∨ Covered b x := by
  simp only [Covered, List.exists_mem_cons_iff]

theorem covered_flatMap {f : Window → List Window} :
    Covered (a.flatMap f) x ↔ ∃ w ∈ a, Covered (f w) x := by
  constructor
  · rintro ⟨v, hv, hx⟩
    obtain ⟨w, hw, hvw⟩ := List.mem_flatMap.1 hv
    exact ⟨w, hw, v, hvw, hx⟩
  · rintro ⟨w, hw, v, hvw, hx⟩
    exact ⟨v, List.mem_flatMap.2 ⟨w, hw, hvw⟩, hx⟩

theorem covered_perm (h : a.Perm b) : Covered a x ↔ Covered b x := by
  simp only [Covered, h.mem_iff]

end Covered

namespace Window

theorem le_iff (a b : Window) :
    a.le b = true ↔ a.start < b.start ∨ (a.start = b.start ∧ a.stop ≤ b.stop) := by
  simp only [le, bne_iff_ne, ne_eq, Ordering.then_eq_gt, compare_gt_iff_gt, compare_eq_iff_eq]
  omega

theorem pairwise_sorted (windows : List Window) :
    (windows.mergeSort le).Pairwise fun a b => a.le b = true := by
  apply List.pairwise_mergeSort
  · intro a b c hab hbc
    rw [le_iff] at *
    omega
  · intro a b
    rw [Bool.or_eq_true, le_iff, le_iff]
    omega

end Window

namespace ChannelCoverage

/-- An instant lies in one of the gaps. -/
def InGap (gaps : List Gap) (x : Int) : Prop :=
  ∃ g ∈ gaps, g.1 ≤ x ∧ x < g.2

def InOrder (blocks : List Window) : Prop :=
  blocks.Pairwise fun a b => a.start ≤ b.start

theorem inGap_cons {g : Gap} {gaps : List Gap} {x : Int} :
    InGap (g :: gaps) x ↔ (g.1 ≤ x ∧ x < g.2) ∨ InGap gaps x := by
  simp only [InGap, List.exists_mem_cons_iff]

theorem le_of_mem_gapsFrom {reach : Int} {blocks : List Window} {g : Gap}
    (h : g ∈ gapsFrom reach blocks) : reach ≤ g.1 := by
  induction blocks generalizing reach with
  | nil => exact absurd h List.not_mem_nil
  | cons w rest ih =>
    have hlater : g ∈ gapsFrom (max reach w.stop) rest → reach ≤ g.1 := fun h =>
      le_trans (le_max_left reach w.stop) (ih h)
    rw [gapsFrom] at h
    by_cases hgap : reach < w.start
    · rw [if_pos hgap] at h
      rcases List.mem_cons.1 h with rfl | h
      · exact le_refl reach
      · exact hlater h
    · rw [if_neg hgap] at h
      exact hlater h

theorem gapsFrom_ordered (reach : Int) (blocks : List Window) :
    (gapsFrom reach blocks).Pairwise fun g h => g.1 ≤ h.1 := by
  induction blocks generalizing reach with
  | nil => exact List.Pairwise.nil
  | cons w rest ih =>
    rw [gapsFrom]
    by_cases hgap : reach < w.start
    · rw [if_pos hgap]
      apply List.Pairwise.cons _ (ih _)
      intro g hg
      exact le_trans (le_max_left reach w.stop) (le_of_mem_gapsFrom hg)
    · rw [if_neg hgap]
      exact ih _

theorem gapsOf_ordered (blocks : List Window) :
    (gapsOf blocks).Pairwise fun g h => g.1 ≤ h.1 := by
  cases blocks with
  | nil => exact List.Pairwise.nil
  | cons w rest => exact gapsFrom_ordered w.stop rest

theorem inGap_gapsFrom {reach x : Int} {blocks : List Window} (hs : InOrder blocks) :
    InGap (gapsFrom reach blocks) x ↔
      reach ≤ x ∧ ¬ Covered blocks x ∧ ∃ w ∈ blocks, x < w.start := by
  induction blocks generalizing reach with
  | nil => simp [gapsFrom, InGap]
  | cons w rest ih =>
    obtain ⟨hfirst, hrest⟩ := List.pairwise_cons.1 hs
    have hbehind : x < w.start → ¬ Covered rest x := by
      rintro hx ⟨v, hv, hvx, -⟩
      have := hfirst v hv
      omega
    have hcons : InGap (gapsFrom reach (w :: rest)) x ↔
        (reach ≤ x ∧ x < w.start) ∨ InGap (gapsFrom (max reach w.stop) rest) x := by
      rw [gapsFrom]
      by_cases hgap : reach < w.start
      · rw [if_pos hgap, inGap_cons]
      · rw [if_neg hgap]
        constructor
        · exact Or.inr
        · rintro (hx | h)
          · omega
          · exact h
    rw [hcons, ih hrest, covered_cons, List.exists_mem_cons_iff]
    by_cases hx : x < w.start
    · -- Before `w` there is no block, so only the data so far counts.
      have hout := hbehind hx
      have hnot : ¬ w.start ≤ x := not_le.2 hx
      constructor
      · rintro (⟨hr, -⟩ | ⟨hr, -⟩)
        · exact ⟨hr, by simp [hnot, hout], .inl hx⟩
        · exact ⟨(max_le_iff.1 hr).1, by simp [hnot, hout], .inl hx⟩
      · rintro ⟨hr, -⟩
        exact .inl ⟨hr, hx⟩
    · have hat : w.start ≤ x := not_lt.1 hx
      simp only [hx, hat, and_false, false_or, true_and, max_le_iff, not_or, not_lt, and_assoc]

structure Sound (c : ChannelCoverage) : Prop where
  ordered : InOrder c.blocks
  gaps : c.gaps = gapsOf c.blocks

variable {c : ChannelCoverage} {i x : Int} {windows : List Window}

theorem ofBlocks_ok (hne : windows ≠ []) (hi : ∀ w ∈ windows, w.interval = i) :
    ∃ c, ofBlocks i windows = .ok c := by
  have hfind : windows.find? (fun w => w.interval != i) = none := by
    rw [List.find?_eq_none]
    intro w hw
    simp [hi w hw]
  have hsorted : windows.mergeSort Window.le ≠ [] := by
    intro hnil
    exact hne (List.nil_perm.1 (hnil ▸ List.mergeSort_perm windows Window.le))
  rw [ofBlocks, hfind]
  dsimp only
  rw [dif_pos hsorted]
  exact ⟨_, rfl⟩

theorem ofBlocks_sound (h : ofBlocks i windows = .ok c) :
    c.Sound ∧ c.interval = i ∧ c.blocks.Perm windows := by
  unfold ofBlocks at h
  split at h
  next => cases h
  next =>
    dsimp only at h
    split at h
    next =>
      cases h
      refine ⟨⟨?_, rfl⟩, rfl, List.mergeSort_perm windows Window.le⟩
      apply (Window.pairwise_sorted windows).imp
      intro a b hab
      have := (Window.le_iff a b).1 hab
      omega
    next => cases h

theorem lt_foldl_max {ends : List Int} {m : Int} :
    x < ends.foldl max m ↔ x < m ∨ ∃ e ∈ ends, x < e := by
  induction ends generalizing m with
  | nil => simp
  | cons e rest ih => simp only [List.foldl_cons, ih, lt_max_iff, List.exists_mem_cons_iff,
    or_assoc]

theorem lt_stop_iff (c : ChannelCoverage) : x < c.stop ↔ ∃ w ∈ c.blocks, x < w.stop := by
  rw [stop, lt_foldl_max]
  simp only [List.mem_map, exists_exists_and_eq_and]
  constructor
  · rintro (hx | hx)
    · exact ⟨_, List.head_mem c.blocks_ne_nil, hx⟩
    · exact hx
  · exact Or.inr

theorem Sound.start_le (h : c.Sound) {w : Window} (hw : w ∈ c.blocks) : c.start ≤ w.start := by
  have hordered := h.ordered
  obtain ⟨i, blocks, gaps, hne⟩ := c
  cases blocks with
  | nil => exact absurd rfl hne
  | cons v rest =>
    rcases List.mem_cons.1 hw with rfl | hw
    · exact le_refl _
    · exact (List.pairwise_cons.1 hordered).1 w hw

theorem Sound.covered_span (h : c.Sound) (hx : Covered c.blocks x) :
    c.start ≤ x ∧ x < c.stop := by
  obtain ⟨w, hw, hlo, hhi⟩ := hx
  exact ⟨le_trans (h.start_le hw) hlo, c.lt_stop_iff.2 ⟨w, hw, hhi⟩⟩

theorem Sound.inGap_iff (h : c.Sound) (hlo : c.start ≤ x) (hhi : x < c.stop) :
    InGap c.gaps x ↔ ¬ Covered c.blocks x := by
  have hordered := h.ordered
  rw [h.gaps]
  rw [lt_stop_iff] at hhi
  obtain ⟨i, blocks, gaps, hne⟩ := c
  cases blocks with
  | nil => exact absurd rfl hne
  | cons v rest =>
    have hfirst : v.start ≤ x := hlo
    rw [gapsOf, inGap_gapsFrom (List.pairwise_cons.1 hordered).2, covered_cons]
    constructor
    · rintro ⟨hv, hout, -⟩ (hin | hin)
      · omega
      · exact hout hin
    · intro hout
      have hv : v.stop ≤ x := by
        by_contra hv
        exact hout (.inl ⟨hfirst, by omega⟩)
      refine ⟨hv, fun hin => hout (.inr hin), ?_⟩
      obtain ⟨w, hw, hx⟩ := hhi
      rcases List.mem_cons.1 hw with rfl | hw
      · omega
      · refine ⟨w, hw, ?_⟩
        by_contra hstart
        exact hout (.inr ⟨w, hw, by omega, hx⟩)

end ChannelCoverage
end SeedStream
