import Mathlib.Data.List.Nodup
import SeedStream.Framing.Framer

/-!
# Streams of several sources in one queue

Framers of several sources send into one queue, and their items arrive in some
interleaved order. A sentinel ends each stream, so whatever is still to come ends
with a sentinel that has not been seen.
-/

set_option autoImplicit false

namespace SeedStream

/-- A list that draws on several lists, from each in its own order. -/
inductive Interleaving {α : Type} : List (List α) → List α → Prop
  | done {ls : List (List α)} (h : ∀ l ∈ ls, l = []) : Interleaving ls []
  | draw {ls : List (List α)} {x : α} {l xs : List α} (k : Nat) (hk : ls[k]? = some (x :: l))
      (h : Interleaving (ls.set k l) xs) : Interleaving ls (x :: xs)

namespace Interleaving

variable {α : Type} {ls : List (List α)} {xs : List α} {x : α}

theorem perm (h : Interleaving ls xs) : xs.Perm ls.flatten := by
  induction h with
  | done h => rw [List.flatten_eq_nil_iff.2 h]
  | @draw ls x l xs k hk _ ih =>
    obtain ⟨hlt, hget⟩ := List.getElem?_eq_some_iff.1 hk
    have hsplit : ls.take k ++ (x :: l) :: ls.drop (k + 1) = ls := by
      rw [← hget, List.getElem_cons_drop, List.take_append_drop]
    rw [List.set_eq_take_append_cons_drop, if_pos hlt] at ih
    rw [← hsplit]
    simp only [List.flatten_append, List.flatten_cons, List.cons_append] at ih ⊢
    exact (ih.cons x).trans List.perm_middle.symm

theorem nil_cons (h : Interleaving ls xs) : Interleaving ([] :: ls) xs := by
  induction h with
  | done h => exact .done (List.forall_mem_cons.2 ⟨rfl, h⟩)
  | draw k hk _ ih => exact .draw (k + 1) hk ih

theorem flatten (ls : List (List α)) : Interleaving ls ls.flatten := by
  induction ls with
  | nil => exact .done fun l hl => absurd hl List.not_mem_nil
  | cons l ls ih =>
    induction l with
    | nil => exact ih.nil_cons
    | cons x l ih => exact .draw 0 rfl ih

theorem getLast (h : Interleaving ls xs) (hx : xs.getLast? = some x) :
    ∃ l ∈ ls, l.getLast? = some x := by
  induction h with
  | done => cases hx
  | @draw ls y l xs k hk hnext ih =>
    have hmem := List.mem_of_getElem? hk
    cases xs with
    | nil =>
      cases hx
      have hnil : l = [] := by
        have hflat : (ls.set k l).flatten = [] := List.nil_perm.1 hnext.perm
        have hlt := (List.getElem?_eq_some_iff.1 hk).1
        exact List.flatten_eq_nil_iff.1 hflat l (List.mem_set hlt l)
      exact ⟨_, hmem, by rw [hnil]; rfl⟩
    | cons z zs =>
      obtain ⟨m, hm, hlast⟩ := ih (List.getLast?_cons_cons ▸ hx)
      rcases List.mem_or_eq_of_mem_set hm with hold | rfl
      · exact ⟨m, hold, hlast⟩
      · refine ⟨_, hmem, ?_⟩
        cases m with
        | nil => cases hlast
        | cons w ws => rw [List.getLast?_cons_cons, hlast]

end Interleaving

namespace QueueItem

def record? : QueueItem → Option RawRecord
  | .record r => some r
  | _ => none

def records (items : List QueueItem) : List RawRecord :=
  items.filterMap record?

theorem records_append (a b : List QueueItem) : records (a ++ b) = records a ++ records b :=
  List.filterMap_append

theorem records_sentinels {items : List QueueItem} (h : ∀ z ∈ items, z.isSentinel = true) :
    records items = [] := by
  apply List.filterMap_eq_nil_iff.2
  intro z hz
  cases z with
  | record r => cases h _ hz
  | endOfSource source => rfl
  | endOfStream => rfl

theorem records_append_sentinel {a : List QueueItem} {z : QueueItem} (h : z.isSentinel = true) :
    records (a ++ [z]) = records a := by
  have hnone : records [z] = [] := records_sentinels fun y hy => List.mem_singleton.1 hy ▸ h
  rw [records_append, hnone, List.append_nil]

/-- The sentinels of all streams of a run. -/
def closing (sources : List Nat) : List QueueItem :=
  .endOfStream :: sources.map .endOfSource

theorem nodup_closing {sources : List Nat} (h : sources.Nodup) : (closing sources).Nodup := by
  apply List.nodup_cons.2
  constructor
  · simp
  · apply List.Nodup.map _ h
    intro a b hab
    injection hab

end QueueItem

/-- What the framer of a source sends: records and then sentinels. -/
structure SourceStream where
  source : Nat
  records : List RawRecord
  isFinal : Bool

namespace SourceStream
open QueueItem

def sentinels (s : SourceStream) : List QueueItem :=
  .endOfSource s.source :: if s.isFinal then [.endOfStream] else []

def items (s : SourceStream) : List QueueItem :=
  s.records.map .record ++ s.sentinels

theorem sentinels_of_final (s : SourceStream) (h : s.isFinal = true) :
    s.sentinels = [.endOfSource s.source, .endOfStream] := by
  rw [sentinels, if_pos h]

theorem sentinels_of_other (s : SourceStream) (h : s.isFinal = false) :
    s.sentinels = [.endOfSource s.source] := by
  rw [sentinels, if_neg (ne_true_of_eq_false h)]

theorem isSentinel_sentinels {s : SourceStream} : ∀ z ∈ s.sentinels, z.isSentinel = true := by
  unfold sentinels
  split <;> simp [isSentinel]

theorem records_items (s : SourceStream) : QueueItem.records s.items = s.records := by
  rw [items, records_append, records_sentinels isSentinel_sentinels, List.append_nil,
    QueueItem.records, List.filterMap_map]
  exact List.filterMap_some

theorem filter_items (s : SourceStream) : s.items.filter isSentinel = s.sentinels := by
  have hnone : (s.records.map QueueItem.record).filter isSentinel = [] := by
    rw [List.filter_eq_nil_iff]
    intro z hz
    obtain ⟨r, -, rfl⟩ := List.mem_map.1 hz
    exact Bool.false_ne_true
  rw [items, List.filter_append, hnone, List.filter_eq_self.2 isSentinel_sentinels,
    List.nil_append]

theorem sentinel_of_getLast {s : SourceStream} {z : QueueItem} (h : s.items.getLast? = some z) :
    z.isSentinel = true := by
  apply isSentinel_sentinels (s := s)
  rw [items, List.getLast?_append] at h
  cases hlast : s.sentinels.getLast? with
  | none => exact absurd (List.getLast?_eq_none_iff.1 hlast) (List.cons_ne_nil _ _)
  | some last =>
    rw [hlast] at h
    cases h
    exact List.mem_of_getLast? hlast

variable {streams : List SourceStream} {items : List QueueItem}

theorem sentinels_perm (h : streams.countP isFinal = 1) :
    (streams.flatMap sentinels).Perm (closing (streams.map source)) := by
  have hall : ∀ ss : List SourceStream, (ss.flatMap sentinels).Perm
      (List.replicate (ss.countP isFinal) .endOfStream ++ (ss.map source).map .endOfSource) := by
    intro ss
    induction ss with
    | nil => exact .nil
    | cons s ss ih =>
      rw [List.flatMap_cons, List.map_cons, List.map_cons]
      refine (ih.append_left s.sentinels).trans ?_
      cases hf : s.isFinal with
      | false =>
        rw [s.sentinels_of_other hf, List.countP_cons_of_neg (by simp [hf]), List.singleton_append]
        exact List.perm_middle.symm
      | true =>
        rw [s.sentinels_of_final hf, List.countP_cons_of_pos hf, List.replicate_succ]
        simp only [List.cons_append, List.nil_append]
        exact (List.Perm.swap _ _ _).trans (List.perm_middle.symm.cons _)
  have hone := hall streams
  rwa [h] at hone

theorem records_flatten (streams : List SourceStream) :
    QueueItem.records (streams.map SourceStream.items).flatten =
      streams.flatMap SourceStream.records := by
  induction streams with
  | nil => rfl
  | cons s streams ih =>
    rw [List.map_cons, List.flatten_cons, records_append, records_items, ih]
    rfl

theorem records_perm (h : Interleaving (streams.map SourceStream.items) items) :
    (QueueItem.records items).Perm (streams.flatMap SourceStream.records) := by
  rw [← records_flatten]
  exact h.perm.filterMap _

theorem filter_perm (hf : streams.countP isFinal = 1)
    (h : Interleaving (streams.map SourceStream.items) items) :
    (items.filter isSentinel).Perm (closing (streams.map source)) := by
  have hall : (streams.map SourceStream.items).flatten.filter isSentinel =
      streams.flatMap sentinels := by
    rw [List.filter_flatten, List.map_map, List.flatMap_def]
    apply congrArg List.flatten
    apply List.map_congr_left
    intro s _
    exact s.filter_items
  apply (h.perm.filter _).trans
  rw [hall]
  exact sentinels_perm hf

/-- What is still to come always ends with a sentinel that has not been seen. -/
theorem exists_unseen (hs : (streams.map source).Nodup) (hf : streams.countP isFinal = 1)
    (h : Interleaving (streams.map SourceStream.items) items) {a b : List QueueItem}
    (hab : items = a ++ b) (hb : b ≠ []) : ∃ z ∈ closing (streams.map source), z ∉ a := by
  have hperm := filter_perm hf h
  obtain ⟨z, hz⟩ : ∃ z, b.getLast? = some z := ⟨_, List.getLast?_eq_some_getLast hb⟩
  have hlast : items.getLast? = some z := by
    rw [hab, List.getLast?_append, hz]
    rfl
  obtain ⟨_, hl, hend⟩ := h.getLast hlast
  obtain ⟨s, -, rfl⟩ := List.mem_map.1 hl
  have hsentinel := sentinel_of_getLast hend
  have hzb : z ∈ b := List.mem_of_getLast? hz
  have hnodup := hperm.nodup_iff.2 (nodup_closing hs)
  rw [hab, List.filter_append] at hnodup
  refine ⟨z, ?_, ?_⟩
  · apply hperm.mem_iff.1
    rw [List.mem_filter, hab]
    exact ⟨List.mem_append_right _ hzb, hsentinel⟩
  · intro hza
    have hdisjoint := (List.nodup_append.1 hnodup).2.2
    exact hdisjoint z (List.mem_filter.2 ⟨hza, hsentinel⟩) z
      (List.mem_filter.2 ⟨hzb, hsentinel⟩) rfl

end SourceStream

end SeedStream
