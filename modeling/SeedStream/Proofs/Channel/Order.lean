import Mathlib.Data.List.Sort
import SeedStream.Processing.Processor

/-!
# The order of channels

Keys are compared field by field, which is a linear order: two keys that compare
equal are the same key. A result has each channel once, so the order of its
channels is strict, and the channels alone determine the list.
-/

set_option autoImplicit false

namespace SeedStream

theorem Binary64.rank_injective {x y : Binary64} (h : x.rank = y.rank) : x = y := by
  obtain ⟨x⟩ := x
  obtain ⟨y⟩ := y
  have hx := x.toNat_lt
  have hy := y.toNat_lt
  have hbits : x.toNat = y.toNat := by
    unfold rank at h
    dsimp only at h
    split at h <;> split at h <;> omega
  rw [UInt64.toNat_inj.1 hbits]

instance : Std.TransCmp Binary64.compare :=
  inferInstanceAs (Std.TransCmp (compareOn Binary64.rank))

instance : Std.LawfulEqCmp Binary64.compare where
  eq_of_compare h := Binary64.rank_injective (Std.LawfulEqOrd.eq_of_compare h)

namespace ChannelKey

instance : Std.TransCmp compare :=
  inferInstanceAs (Std.TransCmp (compareLex (compareOn network) (compareLex (compareOn station)
    (compareLex (compareOn location) (compareLex (compareOn channel)
      (compareOn fun k => k.rate.rank))))))

theorem compare_swap (a b : ChannelKey) : compare a b = (compare b a).swap :=
  Std.OrientedCmp.eq_swap

theorem eq_of_compare {a b : ChannelKey} (h : compare a b = .eq) : a = b := by
  obtain ⟨n, s, l, c, x⟩ := a
  obtain ⟨n', s', l', c', x'⟩ := b
  simp only [compare, Ordering.then_eq_eq, Std.LawfulEqCmp.compare_eq_iff_eq] at h
  obtain ⟨rfl, rfl, rfl, rfl, rfl⟩ := h
  rfl

theorem le_iff (a b : ChannelKey) : a.le b = true ↔ (compare a b).isLE = true := by
  rw [le, bne_iff_ne, Ordering.isLE_iff_ne_gt]

def Precedes (a b : ChannelKey) : Prop := compare a b = .lt

theorem precedes_of_le {a b : ChannelKey} (h : a.le b = true) (hne : a ≠ b) : a.Precedes b := by
  rw [le, bne_iff_ne] at h
  cases hc : compare a b with
  | lt => exact hc
  | eq => exact absurd (eq_of_compare hc) hne
  | gt => exact absurd hc h

theorem precedes_irrefl (a : ChannelKey) : ¬ a.Precedes a := by
  have hself : compare a a = .eq := Std.ReflCmp.compare_self
  rw [Precedes, hself]
  decide

theorem precedes_asymm {a b : ChannelKey} (h : a.Precedes b) : ¬ b.Precedes a := by
  rw [Precedes, compare_swap, h]
  decide

theorem eq_of_ordered {β : Type} {l l' : List (ChannelKey × β)}
    (h : l.Pairwise fun a b => a.1.Precedes b.1) (h' : l'.Pairwise fun a b => a.1.Precedes b.1)
    (hmem : ∀ e, e ∈ l ↔ e ∈ l') : l = l' := by
  have : Std.Irrefl fun a b : ChannelKey × β => a.1.Precedes b.1 :=
    ⟨fun a => a.1.precedes_irrefl⟩
  have : Std.Antisymm fun a b : ChannelKey × β => a.1.Precedes b.1 :=
    ⟨fun a b hab hba => absurd hba (precedes_asymm hab)⟩
  exact h.eq_of_mem_iff h' hmem

end ChannelKey

namespace Processor

theorem keyLe_trans (a b c : ChannelKey × ChannelData) (hab : keyLe a b = true)
    (hbc : keyLe b c = true) : keyLe a c = true := by
  rw [keyLe, ChannelKey.le_iff] at *
  exact Std.TransCmp.isLE_trans hab hbc

theorem keyLe_total (a b : ChannelKey × ChannelData) : (keyLe a b || keyLe b a) = true := by
  rw [keyLe, keyLe, Bool.or_eq_true, ChannelKey.le_iff, ChannelKey.le_iff,
    ChannelKey.compare_swap b.1]
  cases ChannelKey.compare a.1 b.1 <;> decide

theorem finish_keys (q : Processor) (h : (q.channels.map Prod.fst).Nodup) :
    (q.finish.channels.map Prod.fst).Nodup := by
  have hkeys : (q.assembled.map fun x => (x.1, x.2.1)).map Prod.fst =
      q.channels.map Prod.fst := by
    rw [assembled, List.map_map, List.map_map]
    rfl
  apply (((List.mergeSort_perm _ keyLe).map Prod.fst).nodup_iff).2
  rw [← hkeys] at h
  exact h.sublist (List.filter_sublist.map Prod.fst)

theorem finish_ordered (q : Processor) (h : (q.channels.map Prod.fst).Nodup) :
    q.finish.channels.Pairwise fun a b => a.1.Precedes b.1 := by
  have hne := List.pairwise_map.1 (finish_keys q h)
  have hle : q.finish.channels.Pairwise fun a b => keyLe a b = true :=
    List.pairwise_mergeSort keyLe_trans keyLe_total _
  exact (hle.and hne).imp fun h => ChannelKey.precedes_of_le h.1 h.2

end Processor
end SeedStream
