import SeedStream.Proofs.Assembly.Fold
import SeedStream.Proofs.Segment.Words

/-!
# Assemblies in 64 bits

The segment at hand reaches no farther than an interval behind the segments that came in,
however many merges it went through. So where 64 bits hold the times of the segments with an
interval to spare, every merge of an assembly is exact, and so is what is put out.
-/

set_option autoImplicit false

namespace SeedStream

namespace Segment

variable {i d d' a b : Int} {earlier later : Segment}

theorem extendBy_length_le (earlier later : Segment) : (earlier.extendBy later).length ≤
    earlier.length + (later.length - later.overlapCount earlier) := by
  have hsamples : later.samples.length ≤ later.length := List.length_take_le _ _
  rw [extendBy_def, (adoptBlocks_head _ later).2, append_length, List.length_drop]
  omega

/-- A merge takes the end of the earlier segment no more than an interval behind that of the
later one. -/
theorem extendBy_within (hi : 0 < i) (he : earlier.Paced i d) (hl : later.Paced i d')
    (hearlier : earlier.Within a (b + i)) (hlater : later.Within a b) :
    (earlier.extendBy later).Within a (b + i) := by
  have hhead := (extendBy_head earlier later).1
  have hcount : later.overlapCount earlier ≤ later.length := Nat.min_le_right _ _
  have hlast : (earlier.extendBy later).stop ≤
      earlier.stop + i * (later.length - later.overlapCount earlier : Nat) := by
    have hlength := Int.mul_le_mul_of_nonneg_left
      (Int.ofNat_le.2 (extendBy_length_le earlier later)) (Int.le_of_lt hi)
    rw [(he.of_head hhead).stop_eq, hhead.start, he.stop_eq]
    push_cast [Int.mul_add] at hlength ⊢
    omega
  refine ⟨hhead.start ▸ hearlier.start, hlast.trans ?_⟩
  have hend := hearlier.stop
  have hend' := hlater.stop
  by_cases hall : later.overlapCount earlier = later.length
  · rw [hall, Nat.sub_self, Int.natCast_zero, Int.mul_zero]
    omega
  · have hquot := Int.lt_mul_ediv_self_add (x := earlier.stop - later.start + i / 2) hi
    have hle : (earlier.stop - later.start + i / 2) / i ≤ later.overlapCount earlier := by
      rw [overlapCount_def, hl.interval] at hall ⊢
      omega
    have hmul := Int.mul_le_mul_of_nonneg_left hle (Int.le_of_lt hi)
    rw [hl.stop_eq] at hend'
    push_cast [hcount, Int.mul_sub]
    omega

end Segment

namespace Assembly
open Segment

variable {i d a b : Int} {current : Segment} {rest segments : List Segment}

section Order

variable (m : Arithmetic) (hw : WordSpan i a b) (hi : 0 < i)
  (hp : ∀ s ∈ segments, s.Paced i d) (hs : ∀ s ∈ segments, s.Within a b)

include hw hi hp hs

theorem sortedIn_eq : sortedIn m segments = sorted segments := by
  have hle : ∀ x ∈ segments.filter fun s => s.length != 0,
      ∀ y ∈ segments.filter fun s => s.length != 0, spanLeIn m x y = spanLe x y := by
    intro x hx y hy
    have hxs := (List.mem_filter.1 hx).1
    have hys := (List.mem_filter.1 hy).1
    rw [spanLe, spanLeIn, spanLeIn, compareSpanIn, compareSpanIn,
      stopIn_eq m hw hi (hs x hxs) (hp x hxs), stopIn_eq m hw hi (hs y hys) (hp y hys)]
    rfl
  have hmap := List.map_mergeSort (f := id) hle
  rwa [List.map_id, List.map_id] at hmap

end Order

theorem foldFromIn_eq (m : Arithmetic) (hw : WordSpan i a (b + i)) (hi : 0 < i) (hd : 0 < d)
    (hc : current.Paced i d) (hreach : current.Within a (b + i))
    (hp : ∀ s ∈ rest, s.Paced i d) (hs : ∀ s ∈ rest, s.Within a b)
    (hsorted : (current :: rest).Pairwise fun x y => x.start ≤ y.start) :
    foldFromIn m current rest = foldFrom current rest ∧
      ∀ o ∈ (foldFrom current rest).1, o.Within a (b + i) := by
  -- A merge changes the segment at hand, so the reach is kept for every later one.
  induction rest generalizing current with
  | nil => exact ⟨rfl, List.forall_mem_singleton.2 ⟨hreach.start, hreach.stop⟩⟩
  | cons s rest ih =>
    obtain ⟨hsp, hrest⟩ := List.forall_mem_cons.1 hp
    obtain ⟨hsw, hrestw⟩ := List.forall_mem_cons.1 hs
    obtain ⟨hfirst, htail⟩ := List.pairwise_cons.1 hsorted
    have hle := hfirst s List.mem_cons_self
    have hsw' : s.Within a (b + i) := hsw.mono (by omega)
    rw [foldFromIn, foldFrom_cons, mergeIn_eq m hw hi hsw' hsp hreach hc]
    rcases mergeInto_cases hi hd hc hsp hle with ⟨-, text, hm⟩ | ⟨-, ⟨-, hm⟩ | hm⟩
    · obtain ⟨hsame, hwithin⟩ := ih hsp hsw' hrest hrestw htail
      rw [hm]
      simp only [hsame, true_and]
      exact List.forall_mem_cons.2 ⟨⟨hreach.start, hreach.stop⟩, hwithin⟩
    · obtain ⟨hsame, hwithin⟩ :=
        ih hc hreach hrest hrestw (starts_target (.refl current) hsorted)
      rw [hm]
      simp only [hsame, true_and]
      exact hwithin
    · have hhead := (extendBy_head current s).1
      obtain ⟨hsame, hwithin⟩ := ih (hc.of_head hhead) (extendBy_within hi hc hsp hreach hsw)
        hrest hrestw (starts_target hhead hsorted)
      rw [hm]
      simp only [hsame, true_and]
      exact hwithin

theorem assembleIn_within (m : Arithmetic) (hw : WordSpan i a (b + i)) (hi : 0 < i) (hd : 0 < d)
    (hp : ∀ s ∈ segments, s.Paced i d) (hs : ∀ s ∈ segments, s.Within a b) :
    assembleIn m segments = assemble segments ∧
      ∀ o ∈ (assemble segments).1, o.Within a (b + i) := by
  have hsub : ∀ s ∈ sorted segments, s ∈ segments := fun s hmem => (mem_sorted.1 hmem).1
  have hstarts := sorted_starts segments
  rw [assembleIn, assemble_def, sortedIn_eq m (hw.mono (by omega)) hi hp hs]
  cases hsorted : sorted segments with
  | nil => exact ⟨rfl, List.forall_mem_nil _⟩
  | cons s rest =>
    rw [hsorted] at hsub hstarts
    obtain ⟨hmem, hrest⟩ := List.forall_mem_cons.1 hsub
    obtain ⟨hsame, hwithin⟩ := foldFromIn_eq m hw hi hd (hp s hmem)
      ((hs s hmem).mono (by omega)) (fun t ht => hp t (hrest t ht))
      (fun t ht => hs t (hrest t ht)) hstarts
    rw [foldAllIn, foldAll_cons, hsame]
    exact ⟨rfl, hwithin⟩

theorem assembleIn_eq (m : Arithmetic) (hi : 0 < i) (hd : 0 < d)
    (hp : ∀ s ∈ segments, s.Paced i d) (hw : FitWords i 1 segments) :
    assembleIn m segments = assemble segments := by
  obtain ⟨a, b, hspan, hwithin⟩ := hw
  exact (assembleIn_within m (hspan.mono (by omega)) hi hd hp hwithin).1

end Assembly
end SeedStream
