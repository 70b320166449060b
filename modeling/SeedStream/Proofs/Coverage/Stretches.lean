import Mathlib.Data.List.Sort
import SeedStream.Proofs.Assembly.Spacing
import SeedStream.Proofs.Coverage.Intersection
import SeedStream.Proofs.Record.Length

/-!
# Maximal stretches

Windows that neither touch nor overlap are the maximal intervals of the instants
they hold, and these determine them. The blocks of an assembled channel are such
windows, and clipping and cutting leaves such windows. So the windows that assembled
channels have in common depend on the set of the channels only, though the first
channel is treated unlike the others.
-/

set_option autoImplicit false

namespace SeedStream

structure Separate (i : Int) (windows : List Window) : Prop where
  interval : ∀ w ∈ windows, w.interval = i
  nonempty : ∀ w ∈ windows, w.start < w.stop
  apart : windows.Pairwise fun a b => a.stop < b.start

/-- The maximal intervals of the instants `C`, in the order of time. -/
structure Stretches (i : Int) (C : Int → Prop) (windows : List Window) : Prop where
  interval : ∀ w ∈ windows, w.interval = i
  nonempty : ∀ w ∈ windows, w.start < w.stop
  covered : ∀ x, Covered windows x ↔ C x
  first : ∀ w ∈ windows, ¬ C (w.start - 1)
  last : ∀ w ∈ windows, ¬ C w.stop
  apart : windows.Pairwise fun a b => a.stop < b.start

section Windows

variable {i : Int} {C : Int → Prop} {windows others : List Window} {v w : Window}

theorem separate_nil : Separate i [] := ⟨by simp, by simp, .nil⟩

theorem separate_singleton (hi : w.interval = i) (hw : w.start < w.stop) : Separate i [w] :=
  ⟨by simpa using hi, by simpa using hw, List.pairwise_singleton _ _⟩

theorem Separate.cons (h : Separate i windows) (hi : w.interval = i) (hw : w.start < w.stop)
    (hlater : ∀ v ∈ windows, w.stop < v.start) : Separate i (w :: windows) where
  interval := List.forall_mem_cons.2 ⟨hi, h.interval⟩
  nonempty := List.forall_mem_cons.2 ⟨hw, h.nonempty⟩
  apart := .cons hlater h.apart

theorem Separate.stretches (h : Separate i windows) : Stretches i (Covered windows) windows where
  interval := h.interval
  nonempty := h.nonempty
  covered _ := .rfl
  first w hw := by
    rintro ⟨v, hv, hlo, hhi⟩
    rcases Assembly.pairwise_cases h.apart hv hw with rfl | hvw | hwv
    · omega
    · omega
    · have := h.nonempty w hw
      omega
  last w hw := by
    rintro ⟨v, hv, hlo, hhi⟩
    rcases Assembly.pairwise_cases h.apart hv hw with rfl | hvw | hwv
    · omega
    · have := h.nonempty w hw
      omega
    · omega
  apart := h.apart

theorem Stretches.congr {D : Int → Prop} (h : Stretches i C windows) (hC : ∀ x, C x ↔ D x) :
    Stretches i D windows := by
  have hsame : C = D := funext fun x => propext (hC x)
  exact hsame ▸ h

theorem Stretches.holds_range (h : Stretches i C windows) {a b : Int} (hab : a < b)
    (hC : ∀ x, a ≤ x → x < b → C x) :
    ∃ w ∈ windows, w.start ≤ a ∧ b ≤ w.stop := by
  obtain ⟨w, hw, hlo, hhi⟩ := (h.covered a).2 (hC a (Int.le_refl a) hab)
  refine ⟨w, hw, hlo, ?_⟩
  by_contra hout
  exact h.last w hw (hC w.stop (by omega) (by omega))

theorem Stretches.mem_of_mem (h : Stretches i C windows) (h' : Stretches i C others)
    (hw : w ∈ windows) : w ∈ others := by
  have hne := h.nonempty w hw
  obtain ⟨v, hv, hstart, hstop⟩ := h'.holds_range hne fun x hlo hhi =>
    (h.covered x).1 ⟨w, hw, hlo, hhi⟩
  have hfirst := h.first w hw
  have hlast := h.last w hw
  have hinside : ∀ x, v.start ≤ x → x < v.stop → C x := fun x hlo hhi =>
    (h'.covered x).1 ⟨v, hv, hlo, hhi⟩
  have hsame : v = w := by
    obtain ⟨a, b, j⟩ := v
    obtain ⟨a', b', j'⟩ := w
    have hj := h.interval _ hw
    have hj' := h'.interval _ hv
    simp only [Window.mk.injEq] at *
    refine ⟨?_, ?_, hj'.trans hj.symm⟩
    · by_contra hlt
      exact hfirst (hinside (a' - 1) (by omega) (by omega))
    · by_contra hlt
      exact hlast (hinside b' (by omega) (by omega))
  exact hsame ▸ hv

theorem Stretches.unique (h : Stretches i C windows) (h' : Stretches i C others) :
    windows = others := by
  have hlt : ∀ {l : List Window}, Stretches i C l →
      l.Pairwise fun a b => a.start < b.start := by
    intro l hl
    apply hl.apart.imp_of_mem
    intro a b ha _ hab
    have := hl.nonempty a ha
    omega
  have : Std.Irrefl fun a b : Window => a.start < b.start := ⟨fun a => Int.lt_irrefl a.start⟩
  have : Std.Antisymm fun a b : Window => a.start < b.start :=
    ⟨fun a b hab hba => absurd (Int.lt_trans hab hba) (Int.lt_irrefl _)⟩
  exact (hlt h).eq_of_mem_iff (hlt h') fun w => ⟨h.mem_of_mem h', h'.mem_of_mem h⟩

theorem Separate.mergeSort_eq (h : Separate i windows) : windows.mergeSort Window.le = windows := by
  apply List.mergeSort_of_pairwise
  apply h.apart.imp_of_mem
  intro a b ha _ hab
  have := h.nonempty a ha
  rw [Window.le_iff]
  omega

end Windows

namespace ChannelCoverage

variable {c : ChannelCoverage} {i : Int} {windows : List Window}

theorem lt_of_mem_gapsFrom {reach : Int} {blocks : List Window} {g : Gap}
    (h : g ∈ gapsFrom reach blocks) : g.1 < g.2 := by
  induction blocks generalizing reach with
  | nil => exact absurd h List.not_mem_nil
  | cons w rest ih =>
    rw [gapsFrom] at h
    by_cases hgap : reach < w.start
    · rw [if_pos hgap] at h
      rcases List.mem_cons.1 h with rfl | h
      · exact hgap
      · exact ih h
    · rw [if_neg hgap] at h
      exact ih h

theorem Sound.gap_lt (h : c.Sound) {g : Gap} (hg : g ∈ c.gaps) : g.1 < g.2 := by
  rw [h.gaps] at hg
  cases hb : c.blocks with
  | nil => exact absurd hb c.blocks_ne_nil
  | cons w rest =>
    rw [hb] at hg
    exact lt_of_mem_gapsFrom hg

structure Pieces (i start stop : Int) (pieces : List Window) : Prop where
  separate : Separate i pieces
  within : ∀ w ∈ pieces, start ≤ w.start ∧ w.stop ≤ stop

theorem pieces_nil {start stop : Int} : Pieces i start stop [] := ⟨separate_nil, by simp⟩

theorem pieces_singleton {start stop : Int} (h : start < stop) :
    Pieces i start stop [⟨start, stop, i⟩] :=
  ⟨separate_singleton rfl h, by simp⟩

theorem Pieces.mono {a b a' b' : Int} {pieces : List Window} (h : Pieces i a b pieces)
    (ha : a' ≤ a) (hb : b ≤ b') : Pieces i a' b' pieces := by
  refine ⟨h.separate, ?_⟩
  intro w hw
  have := h.within w hw
  omega

theorem cutAt_pieces {cursor stop : Int} {gaps : List Gap} (hg : ∀ g ∈ gaps, g.1 < g.2) :
    Pieces i cursor stop (cutAt i stop cursor gaps) := by
  induction gaps generalizing cursor with
  | nil =>
    rw [cutAt]
    by_cases hempty : cursor < stop
    · rw [if_pos hempty]
      exact pieces_singleton hempty
    · rw [if_neg hempty]
      exact pieces_nil
  | cons g rest ih =>
    obtain ⟨a, b⟩ := g
    obtain ⟨hab, hrest⟩ := List.forall_mem_cons.1 hg
    dsimp only at hab
    rw [cutAt]
    by_cases hpast : b ≤ cursor
    · rw [if_pos hpast]
      exact ih hrest
    · rw [if_neg hpast]
      by_cases hend : stop ≤ a
      · rw [if_pos hend]
        by_cases hempty : cursor < stop
        · rw [if_pos hempty]
          exact pieces_singleton hempty
        · rw [if_neg hempty]
          exact pieces_nil
      · rw [if_neg hend]
        have hlater : Pieces i b stop (cutAt i stop b rest) := ih hrest
        by_cases hpiece : cursor < a
        · rw [if_pos hpiece]
          constructor
          · apply hlater.separate.cons rfl hpiece
            intro v hv
            have := hlater.within v hv
            dsimp only
            omega
          · exact List.forall_mem_cons.2 ⟨⟨Int.le_refl _, by dsimp only; omega⟩,
              (hlater.mono (by omega) (Int.le_refl _)).within⟩
        · rw [if_neg hpiece]
          exact hlater.mono (by omega) (Int.le_refl _)

theorem Sound.clip_pieces (h : c.Sound) (w : Window) :
    Pieces w.interval w.start w.stop (c.clip w) := by
  rw [clip]
  by_cases hempty : min w.stop c.stop ≤ max w.start c.start
  · rw [if_pos hempty]
    exact pieces_nil
  · rw [if_neg hempty]
    exact (cutAt_pieces fun g hg => h.gap_lt hg).mono (le_max_left _ _) (min_le_left _ _)

theorem Sound.restrict_separate (h : c.Sound) (hw : Separate i windows) :
    Separate i (c.restrict windows) := by
  have hpieces : ∀ w ∈ windows, Pieces i w.start w.stop (c.clip w) := by
    intro w hmem
    have hclip := h.clip_pieces w
    rw [hw.interval w hmem] at hclip
    exact hclip
  constructor
  · intro v hv
    obtain ⟨w, hmem, hvw⟩ := List.mem_flatMap.1 hv
    exact (hpieces w hmem).separate.interval v hvw
  · intro v hv
    obtain ⟨w, hmem, hvw⟩ := List.mem_flatMap.1 hv
    exact (hpieces w hmem).separate.nonempty v hvw
  · apply List.pairwise_flatMap.2
    constructor
    · intro w hmem
      exact (hpieces w hmem).separate.apart
    · apply hw.apart.imp_of_mem
      intro a b ha hb hab v hv u hu
      have hva := (hpieces a ha).within v hv
      have hub := (hpieces b hb).within u hu
      omega

theorem foldl_restrict_separate {channels : List ChannelCoverage} (h : ∀ c ∈ channels, c.Sound)
    (hw : Separate i windows) :
    Separate i (channels.foldl (fun windows c => c.restrict windows) windows) := by
  induction channels generalizing windows with
  | nil => exact hw
  | cons c rest ih =>
    obtain ⟨hc, hrest⟩ := List.forall_mem_cons.1 h
    exact ih hrest (hc.restrict_separate hw)

structure Orderly (i : Int) (c : ChannelCoverage) : Prop where
  sound : c.Sound
  separate : Separate i c.blocks

/-- The windows in common are the maximal intervals in which every channel has data. -/
theorem intersect_stretches {channels : List ChannelCoverage} (hne : channels ≠ [])
    (hs : ∀ c ∈ channels, c.Orderly i) (h : intersect channels = .ok windows) :
    Stretches i (fun x => ∀ c ∈ channels, Covered c.blocks x) windows := by
  have hcovered : ∀ x, Covered windows x ↔ ∀ c ∈ channels, Covered c.blocks x := fun x =>
    covered_intersect hne (fun c hc => (hs c hc).sound) h
  have hseparate : Separate i windows := by
    cases channels with
    | nil => exact absurd rfl hne
    | cons c rest =>
      obtain ⟨hc, hrest⟩ := List.forall_mem_cons.1 hs
      have hcommon := foldl_restrict_separate (fun c hc => (hrest c hc).sound) hc.separate
      unfold intersect at h
      split at h
      next => contradiction
      next heq =>
        cases heq
        split at h
        next => cases h
        next =>
          cases h
          rw [hcommon.mergeSort_eq]
          exact hcommon
  exact hseparate.stretches.congr hcovered

end ChannelCoverage
end SeedStream
