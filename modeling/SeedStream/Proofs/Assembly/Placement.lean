import SeedStream.Proofs.Assembly.Components
import SeedStream.Proofs.Assembly.Spacing
import SeedStream.Proofs.Assembly.Words
import SeedStream.Proofs.Segment.Extent
import SeedStream.Proofs.Segment.Grid
import SeedStream.Proofs.Segment.Reachable

/-!
# One segment for each run

A segment that joins a run is put on the grid of the run, so it ends there a little before or
behind its own end. The next segment is compared with this end. Counted with these ends, the
segments put out are as many as connected components of the segments that came in. Counted
with the ends of their own, they are as many up to the slack of one merge; on a common grid,
where no end moves, they are exactly as many.
-/

set_option autoImplicit false

namespace SeedStream.Assembly
open Segment

def spans (segments : List Segment) : List (Int × Int) := segments.map fun s => (s.start, s.stop)

def placedSpans (placed : List (Segment × Int)) : List (Int × Int) :=
  placed.map fun p => (p.1.start, p.2)

/-- Where the segments of a channel end in the segments that are put out: each lies in one of
these, at its own end or on the grid of the other; each of these ends with the last of its own,
and they start where a component opens. -/
structure Placement (i d : Int) (segments out : List Segment) (placed : List (Segment × Int)) :
    Prop where
  inputs : (placed.map Prod.fst).Perm segments
  near : ∀ p ∈ placed, |p.2 - p.1.stop| ≤ slack i d
  inside : ∀ p ∈ placed, ∃ o ∈ out, o.start ≤ p.1.start ∧ p.2 ≤ o.stop ∧
    (p.2 = p.1.stop ∨ i ∣ p.2 - o.start)
  ends : ∀ o ∈ out, ∃ p ∈ placed, p.2 = o.stop
  opens : ∀ t, (∃ o ∈ out, o.start = t) ↔ Opens (i / d) (placedSpans placed) t

variable {i d : Int} {current s target : Segment} {rest segments out : List Segment}
  {placed : List (Segment × Int)}

/-- Where a segment ends that is merged into an earlier one. -/
structure Placed (i d : Int) (earlier later target : Segment) (stop : Int) : Prop where
  union : target.stop = max earlier.stop stop
  near : |stop - later.stop| ≤ slack i d
  grid : stop = later.stop ∨ i ∣ stop - earlier.start

theorem exists_placed (h : Joined current s target) (hi : 0 < i) (hc : current.Regular i d)
    (hs : s.Regular i d) (hgap : s.start - current.stop ≤ i / d) :
    ∃ stop, Placed i d current s target stop := by
  have hadd := h.stop_eq_add hc hs
  have hnear := h.stop_near hi hc hs hgap
  by_cases hcov : s.stop ≤ current.stop
  · -- a segment that is covered ends where it did
    rw [covered_count hi hs hcov, Nat.sub_self, Int.natCast_zero, Int.mul_zero,
      Int.add_zero] at hadd
    refine ⟨s.stop, by rw [hadd, max_eq_left hcov], ?_, .inl rfl⟩
    simpa using slack_nonneg (d := d) hi
  · have hnn := Int.mul_nonneg (Int.le_of_lt hi)
      (Int.natCast_nonneg (s.length - s.overlapCount current))
    rw [max_eq_right (by omega)] at hnear
    refine ⟨target.stop, (max_eq_right (by omega)).symm, hnear, .inr ?_⟩
    rw [← h.head.start]
    exact (h.regular hc).stop_grid (by simp)

theorem placement_nil (hi : 0 < i) :
    Placement i d [current] [current.shrink] [(current, current.stop)] where
  inputs := .refl _
  near := by simpa using slack_nonneg (d := d) hi
  inside p hp := by
    rw [List.mem_singleton.1 hp]
    exact ⟨_, List.mem_singleton_self _, Int.le_refl _, Int.le_refl _, .inl rfl⟩
  ends o ho := by
    rw [List.mem_singleton.1 ho]
    exact ⟨_, List.mem_singleton_self _, rfl⟩
  opens t := by
    simp only [List.mem_singleton, exists_eq_left, Opens, placedSpans, List.map_cons, List.map_nil,
      forall_eq]
    constructor
    · rintro rfl
      exact ⟨rfl, fun hlt => absurd hlt (Int.lt_irrefl _)⟩
    · exact fun h => h.1

theorem Placement.origin (h : Placement i d segments out placed) {o : Segment} (ho : o ∈ out) :
    ∃ s ∈ segments, s.start = o.start := by
  obtain ⟨⟨q, hq, hstart⟩, -⟩ := (h.opens o.start).1 ⟨o, ho, rfl⟩
  obtain ⟨p, hp, rfl⟩ := List.mem_map.1 hq
  exact ⟨p.1, h.inputs.mem_iff.1 (List.mem_map_of_mem hp), hstart⟩

/-- A segment that joins the run ends where it is placed, and the run with the one of the two
that ends last. -/
theorem Placement.merged (hfirst : ∀ u ∈ s :: rest, current.start ≤ u.start)
    (hgap : s.start - current.stop ≤ i / d) (hhead : SameHead current target) {stop : Int}
    (hp : Placed i d current s target stop)
    (h : Placement i d (target :: rest) out ((target, target.stop) :: placed)) :
    Placement i d (current :: s :: rest) out
      ((current, current.stop) :: (s, stop) :: placed) where
  inputs := (((List.perm_cons target).1 h.inputs).cons s).cons current
  near := by
    have hnear := List.forall_mem_cons.1 h.near
    refine List.forall_mem_cons.2 ⟨?_, List.forall_mem_cons.2 ⟨hp.near, hnear.2⟩⟩
    simpa using hnear.1
  inside := by
    obtain ⟨⟨o, ho, hstart, hstop, -⟩, hrest⟩ := List.forall_mem_cons.1 h.inside
    rw [hhead.start] at hstart
    rw [hp.union] at hstop
    have hle := hfirst s List.mem_cons_self
    -- nothing starts before the run, so this is where the segment put out starts
    have horigin : o.start = current.start := by
      obtain ⟨u, hu, hstart'⟩ := h.origin ho
      rcases List.mem_cons.1 hu with rfl | hu
      · rw [← hstart', hhead.start]
      · have hafter := hfirst u (List.mem_cons_of_mem s hu)
        omega
    refine List.forall_mem_cons.2 ⟨⟨o, ho, hstart, (le_max_left _ _).trans hstop, .inl rfl⟩,
      List.forall_mem_cons.2
        ⟨⟨o, ho, hstart.trans hle, (le_max_right _ _).trans hstop, ?_⟩, hrest⟩⟩
    rw [horigin]
    exact hp.grid
  ends o ho := by
    obtain ⟨p, hmem, hstop⟩ := h.ends o ho
    rcases List.mem_cons.1 hmem with rfl | hmem
    · rw [hp.union] at hstop
      rcases max_choice current.stop stop with hmax | hmax
      · exact ⟨_, List.mem_cons_self, hmax ▸ hstop⟩
      · exact ⟨_, List.mem_cons_of_mem _ List.mem_cons_self, hmax ▸ hstop⟩
    · exact ⟨p, List.mem_cons_of_mem _ (List.mem_cons_of_mem _ hmem), hstop⟩
  opens t := by
    have hlink : s.start ≤ current.stop + i / d := by omega
    rw [h.opens t, placedSpans, placedSpans, List.map_cons, List.map_cons, List.map_cons,
      opens_cons_joined (hfirst s List.mem_cons_self) hlink, hhead.start, hp.union]

theorem Placement.refused (hi : 0 < i) (hd : 0 ≤ i / d) (hc : current.Regular i d)
    (hgap : ∀ u ∈ s :: rest, current.stop + i / d < u.start)
    (h : Placement i d (s :: rest) out placed) :
    Placement i d (current :: s :: rest) (current.shrink :: out)
      ((current, current.stop) :: placed) where
  inputs := h.inputs.cons current
  near := List.forall_mem_cons.2 ⟨by simpa using slack_nonneg (d := d) hi, h.near⟩
  inside := by
    refine List.forall_mem_cons.2
      ⟨⟨_, List.mem_cons_self, Int.le_refl _, Int.le_refl _, .inl rfl⟩, fun p hp => ?_⟩
    obtain ⟨o, ho, hinside⟩ := h.inside p hp
    exact ⟨o, List.mem_cons_of_mem _ ho, hinside⟩
  ends := by
    refine List.forall_mem_cons.2 ⟨⟨_, List.mem_cons_self, rfl⟩, fun o ho => ?_⟩
    obtain ⟨p, hp, hstop⟩ := h.ends o ho
    exact ⟨p, List.mem_cons_of_mem _ hp, hstop⟩
  opens t := by
    have hspan := hc.length_le_stop hi
    have hapart : ∀ b ∈ placedSpans placed, current.stop + i / d < b.1 := by
      intro b hb
      obtain ⟨p, hp, rfl⟩ := List.mem_map.1 hb
      exact hgap p.1 (h.inputs.mem_iff.1 (List.mem_map_of_mem hp))
    have hself : current.start ≤ current.stop + i / d := by omega
    have hcons : placedSpans ((current, current.stop) :: placed) =
        (current.start, current.stop) :: placedSpans placed := rfl
    rw [hcons, opens_cons_apart hself hapart, ← h.opens t, List.exists_mem_cons_iff]
    exact or_congr_left eq_comm

theorem foldFrom_placement (hi : 0 < i) (hd : 0 < d) (hc : current.Regular i d)
    (hr : ∀ s ∈ rest, s.Regular i d)
    (hsorted : (current :: rest).Pairwise fun a b => a.start ≤ b.start) :
    ∃ placed, Placement i d (current :: rest) (foldFrom current rest).1
      ((current, current.stop) :: placed) := by
  -- A merge changes the segment at hand; its span is the union of those placed so far.
  induction rest generalizing current with
  | nil => exact ⟨[], placement_nil hi⟩
  | cons s rest ih =>
    obtain ⟨hs, hrest⟩ := List.forall_mem_cons.1 hr
    obtain ⟨hfirst, htail⟩ := List.pairwise_cons.1 hsorted
    have hle := hfirst s List.mem_cons_self
    rcases mergeInto_later hi hd hc hs hle with ⟨hgap, text, hm⟩ | ⟨hgap, target, hm, hj⟩
    · obtain ⟨placed, h⟩ := ih hs hrest htail
      rw [foldFrom_cons, hm]
      refine ⟨_, h.refused hi (Int.ediv_nonneg (Int.le_of_lt hi) (Int.le_of_lt hd)) hc ?_⟩
      refine List.forall_mem_cons.2 ⟨by omega, fun u hu => ?_⟩
      have hafter := (List.pairwise_cons.1 htail).1 u hu
      omega
    · obtain ⟨placed, h⟩ := ih (hj.regular hc) hrest (starts_target hj.head hsorted)
      obtain ⟨stop, hp⟩ := exists_placed hj hi hc hs hgap
      rw [foldFrom_cons, hm]
      exact ⟨_, h.merged hfirst hgap hj.head hp⟩

theorem assemble_placement (hi : 0 < i) (hd : 0 < d) (hu : ∀ s ∈ segments, Usable i d s) :
    ∃ placed, Placement i d segments (assemble segments).1 placed := by
  have hperm : (sorted segments).Perm segments := by
    rw [sorted_def, filter_filled fun s hs => (hu s hs).nonempty]
    exact List.mergeSort_perm _ _
  have hregular : ∀ s ∈ sorted segments, s.Regular i d := fun s hs =>
    (hu s (hperm.mem_iff.1 hs)).regular
  have hstarts := sorted_starts segments
  simp only [assemble_def]
  cases hsorted : sorted segments with
  | nil =>
    rw [hsorted] at hperm
    refine ⟨[], hperm, ?_, ?_, ?_, ?_⟩ <;> simp [foldAll_nil, placedSpans, Opens]
  | cons s rest =>
    rw [hsorted] at hperm hregular hstarts
    obtain ⟨hs, hrest⟩ := List.forall_mem_cons.1 hregular
    obtain ⟨placed, h⟩ := foldFrom_placement hi hd hs hrest hstarts
    exact ⟨_, h.inputs.trans hperm, h.near, h.inside, h.ends, h.opens⟩

theorem ncard_starts (h : out.Pairwise fun a b => a.start < b.start) :
    {t | ∃ o ∈ out, o.start = t}.ncard = out.length := by
  have hset : {t | ∃ o ∈ out, o.start = t} = ↑(out.map start).toFinset := by
    ext t
    simp
  have hnodup : (out.map start).Nodup :=
    List.pairwise_map.2 (h.imp fun hlt => Int.ne_of_lt hlt)
  rw [hset, Set.ncard_coe_finset, List.toFinset_card_of_nodup hnodup, List.length_map]

section Count

variable (hi : 0 < i) (hd : 0 < d) (hu : ∀ s ∈ segments, Usable i d s)
  (h : Placement i d segments out placed)

include hi hu h

theorem Placement.length_le {p : Segment × Int} (hp : p ∈ placed) :
    p.1.start + i ≤ p.1.stop := by
  have husable := hu p.1 (h.inputs.mem_iff.1 (List.mem_map_of_mem hp))
  have hlength := mul_succ_le hi husable.nonempty
  rw [husable.regular.stop_eq]
  omega

theorem Placement.start_le {p : Segment × Int} (hp : p ∈ placed) : p.1.start ≤ p.2 := by
  have hspan := h.length_le hi hu hp
  have hnear := abs_le.1 (h.near p hp)
  have hslack := slack_le (d := d) hi
  omega

theorem Placement.components_spans {tol : Int} (htol : 0 ≤ tol + i) :
    components tol (placed.map fun p => (p.1.start, p.1.stop)) =
      components tol (spans segments) := by
  have hperm := h.inputs.map fun s => (s.start, s.stop)
  rw [List.map_map] at hperm
  apply components_perm hperm
  intro q hq
  obtain ⟨p, hp, rfl⟩ := List.mem_map.1 hq
  have hspan := h.length_le hi hu hp
  dsimp only [Function.comp_apply]
  omega

theorem Placement.ends_own (htwo : 2 ≤ d)
    (hg : ∀ s ∈ segments, ∀ t ∈ segments, i ∣ s.start - t.start) :
    placedSpans placed = placed.map fun p => (p.1.start, p.1.stop) := by
  apply List.map_congr_left
  intro p hp
  have hmem : p.1 ∈ segments := h.inputs.mem_iff.1 (List.mem_map_of_mem hp)
  obtain ⟨o, ho, -, -, hstop | hgrid⟩ := h.inside p hp
  · rw [hstop]
  · obtain ⟨s, hs, hstart⟩ := h.origin ho
    have hown := (hu p.1 hmem).regular.stop_grid (hstart ▸ hg p.1 hmem s hs)
    rw [eq_of_near hgrid hown (lt_of_le_of_lt (h.near p hp) (slack_lt hi htwo))]

include hd

theorem Placement.length_eq (hspaced : Spaced i d out) :
    out.length = components (i / d) (placedSpans placed) := by
  have htol : 0 ≤ i / d := Int.ediv_nonneg (Int.le_of_lt hi) (Int.le_of_lt hd)
  have hopens : {t | Opens (i / d) (placedSpans placed) t} = {t | ∃ o ∈ out, o.start = t} :=
    Set.ext fun t => (h.opens t).symm
  rw [components_eq, hopens, ncard_starts (hspaced.starts hi hd)]
  intro q hq
  obtain ⟨p, hp, rfl⟩ := List.mem_map.1 hq
  have hreach := h.start_le hi hu hp
  dsimp only
  omega

theorem Placement.components_bounds :
    components (i / d + slack i d) (spans segments) ≤ components (i / d) (placedSpans placed) ∧
      components (i / d) (placedSpans placed) ≤
        components (i / d - slack i d) (spans segments) := by
  have htol : 0 ≤ i / d := Int.ediv_nonneg (Int.le_of_lt hi) (Int.le_of_lt hd)
  have hslack := slack_le (d := d) hi
  have hnonneg := slack_nonneg (d := d) hi
  rw [← h.components_spans hi hu (by omega), ← h.components_spans hi hu (by omega)]
  constructor
  · apply components_le_of_ends_le
    · intro p hp
      have hreach := h.start_le hi hu hp
      omega
    · intro p hp
      have hnear := abs_le.1 (h.near p hp)
      omega
  · apply components_le_of_ends_le
    · intro p hp
      have hspan := h.length_le hi hu hp
      omega
    · intro p hp
      have hnear := abs_le.1 (h.near p hp)
      omega

end Count

/-- Where 64 bits hold the times, the segments put out are as many as the connected components of
those that came in, if each of these ends where it is placed: at its own end or near it, on the
grid of the run that it joins. They are no fewer than the components for a tolerance that is
wider by the slack and no more than those for one that is narrower. On a common grid they are as
many as the components. -/
theorem assemble_components
    (hs : ∀ s ∈ segments, s.Reachable ∧ s.interval = i ∧ s.jitterDivisor = d ∧
      0 < s.length)
    (hw : FitWords i 1 segments) :
    (∃ placed, Placement i d segments (assembleIn .wrapping segments).1 placed ∧
      (assembleIn .wrapping segments).1.length = components (i / d) (placedSpans placed)) ∧
    components (i / d + slack i d) (spans segments) ≤
      (assembleIn .wrapping segments).1.length ∧
    (assembleIn .wrapping segments).1.length ≤
      components (i / d - slack i d) (spans segments) ∧
    (2 ≤ d → (∀ s ∈ segments, ∀ t ∈ segments, i ∣ s.start - t.start) →
      (assembleIn .wrapping segments).1.length = components (i / d) (spans segments)) := by
  cases segments with
  | nil =>
    have hout : (assembleIn .wrapping []).1 = [] := by simp [assembleIn, sortedIn, foldAllIn]
    have hplaced : Placement i d [] [] [] := by
      refine ⟨.nil, ?_, ?_, ?_, ?_⟩ <;> simp [placedSpans, Opens]
    rw [hout]
    exact ⟨⟨[], hplaced, (components_nil _).symm⟩, Nat.le_of_eq (components_nil _),
      Nat.zero_le _, fun _ _ => (components_nil _).symm⟩
  | cons s rest =>
    obtain ⟨hi, hd⟩ : 0 < i ∧ 0 < d := by
      obtain ⟨hreach, hinterval, hdivisor, -⟩ := hs s List.mem_cons_self
      exact hinterval ▸ hdivisor ▸ hreach.proper
    have hu : ∀ t ∈ s :: rest, Usable i d t := by
      intro t ht
      obtain ⟨hreach, hinterval, hdivisor, hlength⟩ := hs t ht
      exact ⟨⟨hreach.sound, hinterval, hdivisor⟩, hlength⟩
    have hpaced : ∀ t ∈ s :: rest, t.Paced i d := fun t ht => (hu t ht).regular.paced
    have hspaced := (assemble_spaced hi hd hpaced).1
    obtain ⟨placed, h⟩ := assemble_placement hi hd hu
    have hlength := h.length_eq hi hd hu hspaced
    obtain ⟨hlower, hupper⟩ := h.components_bounds hi hd hu
    rw [← hlength] at hlower hupper
    rw [assembleIn_eq .wrapping hi hd hpaced hw]
    refine ⟨⟨placed, h, hlength⟩, hlower, hupper, fun htwo hg => ?_⟩
    rw [hlength, h.ends_own hi hu htwo hg]
    exact h.components_spans hi hu (by
      have htol : 0 ≤ i / d := Int.ediv_nonneg (Int.le_of_lt hi) (Int.le_of_lt hd)
      omega)

/-- Three segments of one run for their own ends. The first two overlap by six tenths of an
interval, which counts as a whole one; the third is left four tenths behind. -/
def offGrid : List Segment :=
  [everySecond 0 10 0 [1, 2, 3], everySecond 2400000 10 0 [4, 5, 6],
    everySecond 5400000 10 0 [7, 8]]

theorem offGrid_usable : ∀ s ∈ offGrid,
    s.Reachable ∧ s.interval = 1000000 ∧ s.jitterDivisor = 10 ∧ 0 < s.length := by
  simp only [offGrid, List.forall_mem_cons]
  refine ⟨⟨everySecond_reachable .., ?_⟩, ⟨everySecond_reachable .., ?_⟩,
    ⟨everySecond_reachable .., ?_⟩, List.forall_mem_nil _⟩
  all_goals decide +kernel

theorem offGrid_fit : FitWords 1000000 1 offGrid :=
  ⟨0, 8000000, by decide +kernel, by decide +kernel⟩

theorem assemble_offGrid : (assembleIn .wrapping offGrid).1.map (fun o => (o.start, o.samples)) =
    [(0, [1, 2, 3, 5, 6]), (5400000, [7, 8])] := by
  have hsorted : sortedIn .wrapping offGrid = offGrid :=
    sortedIn_of_ordered (by decide +kernel) (by decide +kernel)
  rw [assembleIn, hsorted]
  decide +kernel

theorem length_assemble_offGrid : (assembleIn .wrapping offGrid).1.length = 2 := by
  have hmap := congrArg List.length assemble_offGrid
  rwa [List.length_map] at hmap

/-- Off the grid, and on it with a second overlapped twice and a gap of one second. -/
theorem assemble_components_of_half :
    (∀ s ∈ offGrid, s.Reachable ∧ s.interval = 1000000 ∧ s.jitterDivisor = 10 ∧
      0 < s.length) ∧
    FitWords 1000000 1 offGrid ∧
    (∃ placed, Placement 1000000 10 offGrid (assembleIn .wrapping offGrid).1 placed ∧
      components 100000 (placedSpans placed) = 2) ∧
    components 600000 (spans offGrid) ≤ 2 ∧ 2 ≤ components (-400000) (spans offGrid) ∧
    ∃ segments : List Segment,
      segments.map (fun s => (s.start, s.samples)) =
        [(0, [1, 2, 3]), (2000000, [3, 4, 5]), (4000000, [5, 6]), (7000000, [8])] ∧
      (∀ s ∈ segments, ∀ t ∈ segments, (1000000 : Int) ∣ s.start - t.start) ∧
      FitWords 1000000 1 segments ∧
      (assembleIn .wrapping segments).1.length = components 100000 (spans segments) := by
  let segments := [everySecond 0 10 0 [1, 2, 3], everySecond 2000000 10 0 [3, 4, 5],
    everySecond 4000000 10 0 [5, 6], everySecond 7000000 10 0 [8]]
  have hs : ∀ s ∈ segments,
      s.Reachable ∧ s.interval = 1000000 ∧ s.jitterDivisor = 10 ∧ 0 < s.length := by
    simp only [segments, List.forall_mem_cons]
    refine ⟨⟨everySecond_reachable .., ?_⟩, ⟨everySecond_reachable .., ?_⟩,
      ⟨everySecond_reachable .., ?_⟩, ⟨everySecond_reachable .., ?_⟩,
      List.forall_mem_nil _⟩
    all_goals decide +kernel
  have hg : ∀ s ∈ segments, ∀ t ∈ segments, (1000000 : Int) ∣ s.start - t.start := by
    decide +kernel
  have hw : FitWords 1000000 1 segments := ⟨0, 8000000, by decide +kernel, by decide +kernel⟩
  obtain ⟨⟨placed, hplaced, hcount⟩, hlower, hupper, -⟩ :=
    assemble_components offGrid_usable offGrid_fit
  have hgrid := (assemble_components hs hw).2.2.2 (by decide) hg
  rw [length_assemble_offGrid] at hcount hlower hupper
  exact ⟨offGrid_usable, offGrid_fit, ⟨placed, hplaced, hcount.symm⟩, hlower, hupper,
    segments, by decide +kernel, hg, hw, hgrid⟩

/-- The segments put out are not always as many as the components for the ends of those that
came in. -/
theorem assemble_components_differs :
    ¬ ∀ (i d : Int) (segments : List Segment),
      (∀ s ∈ segments, s.Reachable ∧ s.interval = i ∧ s.jitterDivisor = d ∧
        0 < s.length) →
      FitWords i 1 segments →
      (assembleIn .wrapping segments).1.length = components (i / d) (spans segments) := by
  intro hall
  have hlength := hall _ _ _ offGrid_usable offGrid_fit
  have hspans : spans offGrid = [(0, 3000000), (2400000, 5400000), (5400000, 7400000)] := by
    decide +kernel
  have hopens : {t | Opens (1000000 / 10)
      [(0, 3000000), (2400000, 5400000), (5400000, 7400000)] t} = {0} := by
    ext t
    simp only [Set.mem_ofPred_eq, Set.mem_singleton_iff, Opens, List.exists_mem_cons_iff,
      List.forall_mem_cons, List.not_mem_nil, false_and, exists_false, or_false,
      false_implies, implies_true, and_true]
    omega
  rw [length_assemble_offGrid, hspans, components_eq (by decide), hopens,
    Set.ncard_singleton] at hlength
  exact absurd hlength (by decide)

end SeedStream.Assembly
