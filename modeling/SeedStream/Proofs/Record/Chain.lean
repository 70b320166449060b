import SeedStream.Proofs.Record.Parsing

/-!
# The chain of blockettes and its start

Offsets grow along a chain, so what a buffer holds of a chain is its start: the
chain found in the first bytes of a record is the chain of the record without the
blockettes that lie behind. A length is announced by the last blockette 1000, and
the first bytes announce the same length as the record unless that blockette lies
behind them.
-/

set_option autoImplicit false

namespace SeedStream

theorem Bytes.slice?_take {b : Bytes} {start stop n : Nat} (hn : stop ≤ n) (hb : n ≤ b.length) :
    Bytes.slice? (b.take n) start stop = b.slice? start stop := by
  have hlen : (b.take n).length = n := by
    rw [List.length_take]
    exact Nat.min_eq_left hb
  unfold slice?
  by_cases hle : start ≤ stop
  · rw [if_pos ⟨hle, hlen.symm ▸ hn⟩, if_pos ⟨hle, hn.trans hb⟩, List.drop_take,
      List.take_take, Nat.min_eq_left (by omega)]
  · rw [if_neg (fun h => hle h.1), if_neg (fun h => hle h.1)]

namespace Fields

variable {f : Fields} {n : Nat}

def front (f : Fields) (n : Nat) : Fields := ⟨f.bytes.take n, f.order⟩

theorem slice_front {offset width : Nat} (hn : offset + width ≤ n) (hb : n ≤ f.bytes.length) :
    (f.front n).slice offset width = f.slice offset width := by
  have hsame : Bytes.slice? (f.bytes.take n) offset (offset + width) =
      f.bytes.slice? offset (offset + width) := Bytes.slice?_take hn hb
  have hfound : f.bytes.slice? offset (offset + width) =
      some ((f.bytes.drop offset).take (offset + width - offset)) := by
    rw [Bytes.slice?, if_pos ⟨by omega, by omega⟩]
  rw [slice, slice, front, hsame, hfound]

theorem u8_front {offset : Nat} (hn : offset + 1 ≤ n) (hb : n ≤ f.bytes.length) :
    (f.front n).u8 offset = f.u8 offset := by
  rw [u8, word, slice_front hn hb]
  rfl

theorem u16_front {offset : Nat} (hn : offset + 2 ≤ n) (hb : n ≤ f.bytes.length) :
    (f.front n).u16 offset = f.u16 offset := by
  rw [u16, word, slice_front hn hb]
  rfl

end Fields

namespace Blockette

variable {f : Fields} {previous offset n : Nat} {blockettes start : List Blockette}

theorem chainFrom_cases (h : chainFrom f previous offset = .ok blockettes) :
    (offset = 0 ∧ blockettes = []) ∨ (f.bytes.length < offset + 4 ∧ blockettes = []) ∨
      ∃ kind next rest, previous < offset ∧ offset + 4 ≤ f.bytes.length ∧
        f.u16 offset = .ok kind ∧ f.u16 (offset + 2) = .ok next ∧
        chainFrom f offset next.toNat = .ok rest ∧
        blockettes = ⟨kind.toNat, offset⟩ :: rest := by
  rw [chainFrom] at h
  split at h
  next hz =>
    cases h
    exact .inl ⟨hz, rfl⟩
  next =>
    split at h
    next => cases h
    next hgrow =>
      split at h
      next hshort =>
        cases h
        exact .inr (.inl ⟨hshort, rfl⟩)
      next hlong =>
        split at h
        next kind next hkind hnext =>
          cases hrest : chainFrom f offset next.toNat with
          | error e =>
            rw [hrest] at h
            cases h
          | ok rest =>
            rw [hrest] at h
            cases h
            exact .inr (.inr ⟨kind, next, rest, by omega, by omega, hkind, hnext, hrest, rfl⟩)
        next => cases h
        next => cases h

theorem le_of_mem_chainFrom (h : chainFrom f previous offset = .ok blockettes) {x : Blockette}
    (hx : x ∈ blockettes) : offset ≤ x.offset := by
  induction blockettes generalizing previous offset with
  | nil => exact absurd hx List.not_mem_nil
  | cons y ys ih =>
    rcases chainFrom_cases h with ⟨-, hnil⟩ | ⟨-, hnil⟩ |
      ⟨kind, next, rest, -, -, -, -, hrest, hcons⟩
    · cases hnil
    · cases hnil
    · injection hcons with hy hys
      subst hy hys
      rcases List.mem_cons.1 hx with rfl | hx
      · exact Nat.le_refl _
      · have hnext := ih hrest hx
        rcases chainFrom_cases hrest with ⟨-, hnil⟩ | ⟨-, hnil⟩ | ⟨-, -, -, hgrow, -⟩
        · exact absurd hx (hnil ▸ List.not_mem_nil)
        · exact absurd hx (hnil ▸ List.not_mem_nil)
        · exact (Nat.le_of_lt hgrow).trans hnext

theorem chainFrom_front (hb : n ≤ f.bytes.length)
    (h : chainFrom f previous offset = .ok blockettes)
    (hs : chainFrom (f.front n) previous offset = .ok start) :
    start = blockettes.filter fun x => x.offset + 4 ≤ n := by
  have hlen : (f.front n).bytes.length = n := by
    rw [Fields.front, List.length_take]
    exact Nat.min_eq_left hb
  induction blockettes generalizing previous offset start with
  | nil =>
    rcases chainFrom_cases hs with ⟨-, hnil⟩ | ⟨-, hnil⟩ | ⟨_, _, _, hgrow, hle, _⟩
    · exact hnil
    · exact hnil
    · rw [hlen] at hle
      rcases chainFrom_cases h with
        ⟨hz, -⟩ | ⟨hshort, -⟩ | ⟨_, _, _, _, _, _, _, _, hcons⟩
      · omega
      · omega
      · cases hcons
  | cons y ys ih =>
    rcases chainFrom_cases h with ⟨-, hnil⟩ | ⟨-, hnil⟩ |
      ⟨kind, next, rest, hgrow, -, hkind, hnext, hrest, hcons⟩
    · cases hnil
    · cases hnil
    · injection hcons with hy hys
      subst hy hys
      rcases chainFrom_cases hs with ⟨rfl, -⟩ | ⟨hshort, rfl⟩ |
        ⟨kind', next', start', -, hin, hkind', hnext', hstart, rfl⟩
      · omega
      · -- The walk through the first bytes ends here, and all further blockettes lie behind.
        symm
        rw [List.filter_eq_nil_iff]
        intro x hx
        have := le_of_mem_chainFrom h hx
        simp only [decide_eq_true_eq]
        omega
      · rw [hlen] at hin
        rw [Fields.u16_front (by omega) hb] at hkind' hnext'
        cases hkind.symm.trans hkind'
        cases hnext.symm.trans hnext'
        rw [List.filter_cons_of_pos (by simpa using hin), ih hrest hstart]

theorem chain_front (hn : 48 ≤ n) (hb : n ≤ f.bytes.length) (h : chain f = .ok blockettes)
    (hs : chain (f.front n) = .ok start) :
    start = blockettes.filter fun x => x.offset + 4 ≤ n := by
  have hlink : (f.front n).u16 firstLinkOffset = f.u16 firstLinkOffset := Fields.u16_front hn hb
  rw [chain, bind_eq_ok] at h hs
  obtain ⟨first, hfirst, h⟩ := h
  obtain ⟨first', hfirst', hs⟩ := hs
  rw [hlink] at hfirst'
  cases hfirst.symm.trans hfirst'
  exact chainFrom_front hb h hs

theorem last?_front {kind width size : Nat} (hw : 4 ≤ width) (hsize : n ≤ size)
    (h : last? blockettes kind width size = some offset) (hin : offset + width ≤ n) :
    last? (blockettes.filter fun x => x.offset + 4 ≤ n) kind width n = some offset := by
  obtain ⟨x, hx, rfl⟩ := Option.map_eq_some_iff.1 h
  obtain ⟨before, hbefore⟩ := List.getLast?_eq_some_iff.1 hx
  have hkind : x.kind = kind := by
    have hmem : x ∈ blockettes.filter fun b => b.kind == kind && b.offset + width ≤ size := by
      rw [hbefore]
      exact List.mem_append_right _ List.mem_cons_self
    have hboth := (List.mem_filter.1 hmem).2
    rw [Bool.and_eq_true, beq_iff_eq] at hboth
    exact hboth.1
  have hsame : (blockettes.filter fun x => x.offset + 4 ≤ n).filter
        (fun b => b.kind == kind && b.offset + width ≤ n) =
      (blockettes.filter fun b => b.kind == kind && b.offset + width ≤ size).filter
        (fun b => b.offset + width ≤ n) := by
    rw [List.filter_filter, List.filter_filter]
    apply List.filter_congr
    intro b _
    rw [Bool.eq_iff_iff]
    simp only [Bool.and_eq_true, beq_iff_eq, decide_eq_true_eq]
    omega
  rw [last?, hsame, hbefore, List.filter_append, List.filter_cons_of_pos (by simpa using hin),
    List.filter_nil, List.getLast?_concat]
  rfl

end Blockette

namespace Header

variable {b : Bytes} {h : Header} {n offset length : Nat}

/-- The last blockette 1000 of a buffer lies at an offset and announces a length. -/
def Announces (b : Bytes) (offset length : Nat) : Prop :=
  ∃ order blockettes x, detectOrder b = .ok order ∧
    Blockette.chain ⟨b, order⟩ = .ok blockettes ∧
    Blockette.last? blockettes Blockette.dataKind Blockette.dataSize b.length = some offset ∧
    Fields.u8 ⟨b, order⟩ (offset + 6) = .ok x ∧ lengthOfExponent x = .ok length

theorem announces_of_crackLength (h : crackLength b = .ok length) :
    ∃ offset, Announces b offset length := by
  obtain ⟨-, -, order, horder, blockettes, hchain, offset, hlast, x, hx, hlength⟩ :=
    crackLength_eq_ok.1 h
  exact ⟨offset, order, blockettes, x, horder, hchain, hlast, hx, hlength⟩

theorem announces_of_parse (hp : parse b = .ok h) :
    (∃ offset, Announces b offset h.length) ∧ h.length ≤ b.length := by
  obtain ⟨-, -, order, blockettes, -, hr⟩ := parse_eq_ok.1 hp
  exact ⟨announces_of_crackLength (crackLength_of_parse hp), checkWhole_eq_ok.1 hr.whole⟩

theorem hasPlausibleStart_take (order : ByteOrder) (hn : 24 ≤ n) (hb : n ≤ b.length) :
    hasPlausibleStart ⟨b.take n, order⟩ = hasPlausibleStart ⟨b, order⟩ := by
  have hyear : Fields.u16 ⟨b.take n, order⟩ 20 = Fields.u16 ⟨b, order⟩ 20 :=
    Fields.u16_front (f := ⟨b, order⟩) (by omega) hb
  have hday : Fields.u16 ⟨b.take n, order⟩ 22 = Fields.u16 ⟨b, order⟩ 22 :=
    Fields.u16_front (f := ⟨b, order⟩) (by omega) hb
  rw [hasPlausibleStart, hyear, hday]
  rfl

theorem detectOrder_take (hn : 24 ≤ n) (hb : n ≤ b.length) :
    detectOrder (b.take n) = detectOrder b := by
  have hfield : Fields.slice ⟨b.take n, .big⟩ 20 4 = Fields.slice ⟨b, .big⟩ 20 4 :=
    Fields.slice_front (f := ⟨b, .big⟩) (by omega) hb
  rw [detectOrder, hasPlausibleStart_take .big hn hb, hasPlausibleStart_take .little hn hb, hfield]
  rfl

/-- The first bytes announce what the whole buffer announces, if the blockette that
announces it lies in them. -/
theorem Announces.take {offset' length' : Nat} (h : Announces b offset length) (hn : 48 ≤ n)
    (hb : n ≤ b.length) (ht : Announces (b.take n) offset' length')
    (hin : offset + Blockette.dataSize ≤ n) : offset' = offset ∧ length' = length := by
  have hlen : (b.take n).length = n := by
    rw [List.length_take]
    exact Nat.min_eq_left hb
  obtain ⟨order, blockettes, x, horder, hchain, hlast, hx, hlength⟩ := h
  obtain ⟨order', start, x', horder', hstart, hlast', hx', hlength'⟩ := ht
  rw [detectOrder_take (by omega) hb] at horder'
  cases horder.symm.trans horder'
  obtain rfl := Blockette.chain_front hn hb hchain hstart
  rw [hlen, Blockette.last?_front (by decide) hb hlast hin] at hlast'
  cases hlast'
  have hsame : Fields.u8 ⟨b.take n, order⟩ (offset + 6) =
      Fields.u8 ⟨b, order⟩ (offset + 6) := by
    apply Fields.u8_front (f := ⟨b, order⟩) _ hb
    rw [Blockette.dataSize] at hin
    omega
  rw [hsame] at hx'
  cases hx.symm.trans hx'
  cases hlength.symm.trans hlength'
  exact ⟨rfl, rfl⟩

end Header
end SeedStream
