import SeedStream.Proofs.Record.Reversal
import SeedStream.Proofs.Record.Words

/-!
# The walk along a chain

The links of a record follow from its bytes alone: the first one lies in the fixed header,
and each further one in the blockette that the one before leads to. They may lead anywhere
and back again. A walk visits what they lead to until a link ends the chain or strays, so
it sees offsets that grow, and it fails exactly at a link that strays.
-/

set_option autoImplicit false

namespace SeedStream

namespace Fields

variable {f : Fields} {offset : Nat}

def wordAt (f : Fields) (offset : Nat) : Nat := f.order.read (f.bytes.window ⟨offset, 2⟩)

theorem wordAt_lt : f.wordAt offset < 65536 := by
  have htwo : (f.bytes.window ⟨offset, 2⟩).length ≤ 2 := List.length_take_le _ _
  exact (f.order.read_lt _).trans_le (Nat.pow_le_pow_right (Nat.zero_lt_succ 255) htwo)

theorem toNat_wordAt : (UInt16.ofNat (f.wordAt offset)).toNat = f.wordAt offset :=
  UInt16.toNat_ofNat_of_lt' wordAt_lt

theorem u16_eq (h : offset + 2 ≤ f.bytes.length) :
    f.u16 offset = .ok (UInt16.ofNat (f.wordAt offset)) := by
  rw [u16, word, slice_eq h]
  rfl

end Fields

namespace Blockette

variable {f : Fields} {n k : Nat}

/-- What a walk along a chain leaves behind: the blockettes it has visited and, if it fails,
the link that it refuses. -/
structure Walk where
  visited : List Blockette
  refused : Option Nat
deriving DecidableEq, Repr

namespace Walk

def visit (x : Blockette) (w : Walk) : Walk := ⟨x :: w.visited, w.refused⟩

def result (w : Walk) : Except HeaderFault (List Blockette) :=
  match w.refused with
  | none => .ok w.visited
  | some link => .error (.chain link)

theorem result_eq_ok {w : Walk} {blockettes : List Blockette} :
    w.result = .ok blockettes ↔ w.refused = none ∧ w.visited = blockettes := by
  unfold result
  cases w.refused <;> simp

theorem result_visit (x : Blockette) (w : Walk) : (w.visit x).result = w.result.map (x :: ·) := by
  unfold result visit
  cases w.refused <;> rfl

end Walk

def readAt (f : Fields) (offset : Nat) : Blockette := ⟨f.wordAt offset, offset⟩

/-- The walk from a link on, given the offset of the blockette with the link. -/
def walkFrom (f : Fields) (previous offset : Nat) : Walk :=
  if offset = 0 then ⟨[], none⟩
  else if offset < fixedHeaderSize ∨ offset ≤ previous then ⟨[], some offset⟩
  else if f.bytes.length < offset + 4 then ⟨[], none⟩
  else (walkFrom f offset (f.wordAt (offset + 2))).visit (readAt f offset)
termination_by f.bytes.length - previous
decreasing_by omega

def walk (f : Fields) : Walk := walkFrom f 0 (f.wordAt firstLinkOffset)

theorem chainFrom_eq_walkFrom (f : Fields) (previous offset : Nat) :
    chainFrom f previous offset = (walkFrom f previous offset).result := by
  fun_induction walkFrom f previous offset with
  | case1 previous =>
    rw [chainFrom, if_pos rfl]
    rfl
  | case2 previous offset hz hgrow =>
    rw [chainFrom, if_neg hz, if_pos hgrow]
    rfl
  | case3 previous offset hz hgrow hshort =>
    rw [chainFrom, if_neg hz, if_neg hgrow, if_pos hshort]
    rfl
  | case4 previous offset hz hgrow hlong ih =>
    rw [chainFrom, if_neg hz, if_neg hgrow, if_neg hlong, Fields.u16_eq (by omega),
      Fields.u16_eq (by omega)]
    dsimp only
    rw [Fields.toNat_wordAt, Fields.toNat_wordAt, ih, Walk.result_visit]
    rfl

theorem chain_eq_walk (h : 48 ≤ f.bytes.length) : chain f = (walk f).result := by
  rw [chain, Fields.u16_eq (show firstLinkOffset + 2 ≤ f.bytes.length from h)]
  change chainFrom f 0 (UInt16.ofNat (f.wordAt firstLinkOffset)).toNat = _
  rw [Fields.toNat_wordAt, chainFrom_eq_walkFrom]
  rfl

def link (f : Fields) : Nat → Nat
  | 0 => f.wordAt firstLinkOffset
  | k + 1 => f.wordAt (link f k + 2)

/-- The offset of the blockette with a link; the first link lies in the fixed header. -/
def before (f : Fields) : Nat → Nat
  | 0 => 0
  | k + 1 => link f k

/-- A link ends the chain: it is zero, or there is no room for a blockette where it leads. -/
def Ends (f : Fields) (k : Nat) : Prop := link f k = 0 ∨ f.bytes.length < link f k + 4

/-- A link strays: it leads into the fixed header, or not further than the one before. -/
def Strays (f : Fields) (k : Nat) : Prop :=
  link f k ≠ 0 ∧ (link f k < fixedHeaderSize ∨ link f k ≤ before f k)

instance (f : Fields) (k : Nat) : Decidable (Ends f k) := inferInstanceAs (Decidable (_ ∨ _))

instance (f : Fields) (k : Nat) : Decidable (Strays f k) := inferInstanceAs (Decidable (_ ∧ _))

structure StopsAt (f : Fields) (n : Nat) : Prop where
  stops : Strays f n ∨ Ends f n
  proceeds : ∀ k < n, ¬ Strays f k ∧ ¬ Ends f k

def along (f : Fields) (first count : Nat) : List Blockette :=
  (List.range' first count).map fun k => readAt f (link f k)

/-- From each link on, a walk follows the links to the first that ends the chain or strays. -/
theorem walkFrom_link (f : Fields) (previous offset : Nat) {k : Nat} (hp : previous = before f k)
    (ho : offset = link f k) : ∃ count, (Strays f (k + count) ∨ Ends f (k + count)) ∧
      (∀ j < count, ¬ Strays f (k + j) ∧ ¬ Ends f (k + j)) ∧
      walkFrom f previous offset = ⟨along f k count,
        if Strays f (k + count) then some (link f (k + count)) else none⟩ := by
  fun_induction walkFrom f previous offset generalizing k with
  | case1 previous =>
    have hends : Ends f k := .inl ho.symm
    have hstrays : ¬ Strays f k := fun h => h.1 ho.symm
    exact ⟨0, .inr hends, by simp, by rw [Nat.add_zero, if_neg hstrays]; rfl⟩
  | case2 previous offset hz hgrow =>
    subst hp ho
    have hstrays : Strays f k := ⟨hz, hgrow⟩
    exact ⟨0, .inl hstrays, by simp, by rw [Nat.add_zero, if_pos hstrays]; rfl⟩
  | case3 previous offset hz hgrow hshort =>
    subst hp ho
    have hends : Ends f k := .inr hshort
    have hstrays : ¬ Strays f k := fun h => hgrow h.2
    exact ⟨0, .inr hends, by simp, by rw [Nat.add_zero, if_neg hstrays]; rfl⟩
  | case4 previous offset hz hgrow hlong ih =>
    subst hp ho
    obtain ⟨count, hstops, hproceeds, hwalk⟩ := ih (k := k + 1) rfl rfl
    have hnext : k + (count + 1) = k + 1 + count := by omega
    refine ⟨count + 1, hnext ▸ hstops, ?_, ?_⟩
    · intro j hj
      cases j with
      | zero => exact ⟨fun h => hgrow h.2, fun h => h.elim hz hlong⟩
      | succ j =>
        have := hproceeds j (by omega)
        rwa [Nat.add_assoc, Nat.add_comm 1] at this
    · rw [hwalk, hnext, along, along, List.range'_succ]
      rfl

theorem walk_eq (f : Fields) : ∃ n, StopsAt f n ∧
    walk f = ⟨along f 0 n, if Strays f n then some (link f n) else none⟩ := by
  obtain ⟨n, hstops, hproceeds, hwalk⟩ := walkFrom_link f 0 (f.wordAt firstLinkOffset)
    (show 0 = before f 0 from rfl) (show _ = link f 0 from rfl)
  simp only [Nat.zero_add] at hstops hproceeds hwalk
  exact ⟨n, ⟨hstops, hproceeds⟩, hwalk⟩

namespace StopsAt

variable (h : StopsAt f n)
include h

theorem link_bounds (hk : k < n) :
    48 ≤ link f k ∧ before f k < link f k ∧ link f k + 4 ≤ f.bytes.length := by
  obtain ⟨hstrays, hends⟩ := h.proceeds k hk
  unfold Strays fixedHeaderSize at hstrays
  unfold Ends at hends
  omega

theorem link_lt {j : Nat} (hjk : j < k) (hk : k < n) : link f j < link f k := by
  induction k with
  | zero => exact absurd hjk (Nat.not_lt_zero j)
  | succ k ih =>
    have hlast : link f k < link f (k + 1) := (h.link_bounds hk).2.1
    rcases Nat.lt_succ_iff_lt_or_eq.1 hjk with hjk | rfl
    · exact (ih hjk (by omega)).trans hlast
    · exact hlast

theorem pairwise_along : (along f 0 n).Pairwise fun x y => x.offset < y.offset := by
  rw [along, List.pairwise_map, ← List.range_eq_range']
  refine List.pairwise_lt_range.imp_of_mem fun _ hk hjk => ?_
  exact h.link_lt hjk (List.mem_range.1 hk)

theorem bounds_of_mem {x : Blockette} (hx : x ∈ along f 0 n) :
    48 ≤ x.offset ∧ x.offset + 4 ≤ f.bytes.length := by
  obtain ⟨k, hk, rfl⟩ := List.mem_map.1 hx
  have hk : k < n := by simpa using hk
  exact ⟨(h.link_bounds hk).1, (h.link_bounds hk).2.2⟩

theorem count_le (hlen : 48 ≤ f.bytes.length) : n + 48 ≤ f.bytes.length := by
  have hgrow (k : Nat) (hk : k < n) : k + 48 ≤ link f k := by
    induction k with
    | zero => exact (Nat.zero_add 48).symm ▸ (h.link_bounds hk).1
    | succ k ih =>
      have hlast : link f k < link f (k + 1) := (h.link_bounds hk).2.1
      have := ih (by omega)
      omega
  cases n with
  | zero => omega
  | succ n =>
    have hlast := hgrow n (Nat.lt_succ_self n)
    have hin := (h.link_bounds (Nat.lt_succ_self n)).2.2
    omega

end StopsAt

def LastWith (p : Blockette → Prop) (blockettes : List Blockette) (x : Blockette) : Prop :=
  p x ∧ ∃ front back, blockettes = front ++ x :: back ∧ ∀ y ∈ back, ¬ p y

def Whole (kind width size : Nat) (x : Blockette) :
    Prop := x.kind = kind ∧ x.offset + width ≤ size

theorem last?_eq_some {blockettes : List Blockette} {kind width size offset : Nat} :
    last? blockettes kind width size = some offset ↔
      ∃ x, LastWith (Whole kind width size) blockettes x ∧ x.offset = offset := by
  rw [last?, Option.map_eq_some_iff]
  refine exists_congr fun x => and_congr_left' ?_
  -- The last one from the front is the first one from the back.
  rw [← List.head?_reverse, ← List.filter_reverse, List.head?_filter,
    List.find?_eq_some_iff_append]
  simp only [Bool.and_eq_true, beq_iff_eq, decide_eq_true_eq, Bool.not_eq_true',
    Bool.and_eq_false_iff, beq_eq_false_iff_ne, decide_eq_false_iff_not, ← not_and_or]
  constructor
  · rintro ⟨hx, back, front, hsplit, hback⟩
    refine ⟨hx, front.reverse, back.reverse, ?_, fun y hy => hback y (List.mem_reverse.1 hy)⟩
    rw [← List.reverse_reverse blockettes, hsplit]
    simp
  · rintro ⟨hx, front, back, rfl, hback⟩
    exact ⟨hx, back.reverse, front.reverse, by simp,
      fun y hy => hback y (List.mem_reverse.1 hy)⟩

end Blockette
end SeedStream
