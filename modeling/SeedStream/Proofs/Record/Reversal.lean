import SeedStream.Proofs.Record.Chain
import SeedStream.Proofs.Record.Located

/-!
# Words turned round

The bytes of some windows of a buffer are put in reverse order. If the windows have
no byte in common, a word in one of them reads in little-endian order as it did in
big-endian order, and what lies apart from them is kept.
-/

set_option autoImplicit false

namespace SeedStream

structure Span where
  offset : Nat
  width : Nat
deriving DecidableEq, Repr

namespace Span

def Apart (s t : Span) : Prop := s.offset + s.width ≤ t.offset ∨ t.offset + t.width ≤ s.offset

instance (s t : Span) : Decidable (s.Apart t) := inferInstanceAs (Decidable (_ ∨ _))

theorem Apart.symm {s t : Span} (h : s.Apart t) : t.Apart s := Or.symm h

def Fits (s : Span) (b : Bytes) : Prop := s.offset + s.width ≤ b.length

end Span

namespace Bytes

def window (b : Bytes) (s : Span) : Bytes := (b.drop s.offset).take s.width

def reverseAt (b : Bytes) (s : Span) : Bytes :=
  b.take s.offset ++ ((b.window s).reverse ++ b.drop (s.offset + s.width))

def reverseAll (b : Bytes) (spans : List Span) : Bytes := spans.foldl reverseAt b

variable {b : Bytes} {s t : Span}

theorem length_window (h : s.Fits b) : (b.window s).length = s.width := by
  rw [Span.Fits] at h
  rw [window, List.length_take, List.length_drop]
  omega

theorem length_reverseAt (h : s.Fits b) : (b.reverseAt s).length = b.length := by
  have hwindow := length_window h
  rw [Span.Fits] at h
  simp only [reverseAt, List.length_append, List.length_take, List.length_reverse, hwindow,
    List.length_drop]
  omega

theorem window_reverseAt (h : s.Fits b) : (b.reverseAt s).window s = (b.window s).reverse := by
  have hfront : (b.take s.offset).length = s.offset := by
    rw [Span.Fits] at h
    rw [List.length_take]
    omega
  have hwindow : (b.window s).reverse.length = s.width := by
    rw [List.length_reverse, length_window h]
  rw [window, reverseAt, List.drop_left' hfront, List.take_left' hwindow]

theorem window_reverseAt_apart (h : s.Fits b) (ha : s.Apart t) :
    (b.reverseAt s).window t = b.window t := by
  have hwindow := length_window h
  have hfront : (b.take s.offset).length = s.offset := by
    rw [Span.Fits] at h
    rw [List.length_take]
    omega
  rcases ha with hbehind | hbefore
  · -- Behind the window, the buffer is what it was.
    have hdrop : (b.reverseAt s).drop (s.offset + s.width) = b.drop (s.offset + s.width) := by
      rw [reverseAt, ← List.append_assoc]
      apply List.drop_left'
      rw [List.length_append, hfront, List.length_reverse, hwindow]
    obtain ⟨k, hk⟩ := Nat.exists_eq_add_of_le hbehind
    rw [window, window, hk, ← List.drop_drop, hdrop, List.drop_drop]
  · have htake : (b.reverseAt s).take (t.offset + t.width) = b.take (t.offset + t.width) := by
      rw [reverseAt, List.take_append_of_le_length (by omega), List.take_take,
        Nat.min_eq_left hbefore]
    have hcut : ∀ c : Bytes, c.window t = (c.take (t.offset + t.width)).drop t.offset := by
      intro c
      rw [List.drop_take, Nat.add_sub_cancel_left]
      rfl
    rw [hcut, hcut, htake]

end Bytes

/-- A buffer that holds the words of another one the other way round. -/
structure Turned (b c : Bytes) (spans : List Span) : Prop where
  length : c.length = b.length
  fits : ∀ s ∈ spans, s.Fits b
  turned : ∀ s ∈ spans, c.window s = (b.window s).reverse
  kept : ∀ t : Span, (∀ s ∈ spans, s.Apart t) → c.window t = b.window t

theorem turned_reverseAll {b : Bytes} {spans : List Span} (hf : ∀ s ∈ spans, s.Fits b)
    (ha : spans.Pairwise Span.Apart) : Turned b (b.reverseAll spans) spans := by
  induction spans generalizing b with
  | nil => exact ⟨rfl, hf, by simp, fun _ _ => rfl⟩
  | cons s spans ih =>
    obtain ⟨hs, hrest⟩ := List.forall_mem_cons.1 hf
    obtain ⟨hapart, hpair⟩ := List.pairwise_cons.1 ha
    have hlength := Bytes.length_reverseAt hs
    have hfits : ∀ t ∈ spans, t.Fits (b.reverseAt s) := by
      intro t ht
      rw [Span.Fits, hlength]
      exact hrest t ht
    have h := ih hfits hpair
    refine ⟨h.length.trans hlength, hf, ?_, ?_⟩
    · intro t ht
      rcases List.mem_cons.1 ht with rfl | ht
      · exact (h.kept t fun x hx => (hapart x hx).symm).trans (Bytes.window_reverseAt hs)
      · exact (h.turned t ht).trans
          (congrArg List.reverse (Bytes.window_reverseAt_apart hs (hapart t ht)))
    · intro t ht
      obtain ⟨hst, hothers⟩ := List.forall_mem_cons.1 ht
      exact (h.kept t hothers).trans (Bytes.window_reverseAt_apart hs hst)

namespace Fields

variable {b : Bytes} {order : ByteOrder}

theorem slice_eq {offset width : Nat} (h : offset + width ≤ b.length) :
    (⟨b, order⟩ : Fields).slice offset width = .ok (b.window ⟨offset, width⟩) := by
  rw [slice, Bytes.slice?, if_pos ⟨Nat.le_add_right _ _, h⟩, Nat.add_sub_cancel_left]
  rfl

end Fields

namespace Turned

variable {b c : Bytes} {spans : List Span} {offset width : Nat} (h : Turned b c spans)
include h

theorem slice_kept {order other : ByteOrder} (hb : offset + width ≤ b.length)
    (ha : ∀ s ∈ spans, s.Apart ⟨offset, width⟩) :
    (⟨c, order⟩ : Fields).slice offset width =
      (⟨b, other⟩ : Fields).slice offset width := by
  rw [Fields.slice_eq hb, Fields.slice_eq (by rw [h.length]; exact hb), h.kept _ ha]

theorem text_kept {order other : ByteOrder} (hb : offset + width ≤ b.length)
    (ha : ∀ s ∈ spans, s.Apart ⟨offset, width⟩) :
    (⟨c, order⟩ : Fields).text offset width = (⟨b, other⟩ : Fields).text offset width := by
  have hsame : (⟨c, order⟩ : Fields).slice offset width =
      (⟨b, other⟩ : Fields).slice offset width :=
    h.slice_kept hb ha
  rw [Fields.text, hsame]
  rfl

theorem u8_kept (hb : offset + 1 ≤ b.length) (ha : ∀ s ∈ spans, s.Apart ⟨offset, 1⟩) :
    (⟨c, .little⟩ : Fields).u8 offset = (⟨b, .big⟩ : Fields).u8 offset := by
  have hone : (b.window ⟨offset, 1⟩).length = 1 := Bytes.length_window hb
  obtain ⟨x, hx⟩ := List.length_eq_one_iff.1 hone
  have hsame : (⟨c, .little⟩ : Fields).slice offset 1 =
      (⟨b, .big⟩ : Fields).slice offset 1 :=
    h.slice_kept hb ha
  rw [Fields.u8, Fields.word, hsame, Fields.u8, Fields.word, Fields.slice_eq hb, hx]
  rfl

theorem word_turned (hs : ⟨offset, width⟩ ∈ spans) :
    (⟨c, .little⟩ : Fields).word offset width = (⟨b, .big⟩ : Fields).word offset width := by
  have hb : offset + width ≤ b.length := h.fits _ hs
  rw [Fields.word, Fields.word, Fields.slice_eq hb, Fields.slice_eq (by rw [h.length]; exact hb),
    h.turned _ hs]
  simp only [Except.map, ByteOrder.read, List.reverse_reverse]

theorem u16_turned (hs : ⟨offset, 2⟩ ∈ spans) :
    (⟨c, .little⟩ : Fields).u16 offset = (⟨b, .big⟩ : Fields).u16 offset := by
  rw [Fields.u16, h.word_turned hs]
  rfl

theorem i16_turned (hs : ⟨offset, 2⟩ ∈ spans) :
    (⟨c, .little⟩ : Fields).i16 offset = (⟨b, .big⟩ : Fields).i16 offset := by
  rw [Fields.i16, h.word_turned hs]
  rfl

theorem i32_turned (hs : ⟨offset, 4⟩ ∈ spans) :
    (⟨c, .little⟩ : Fields).i32 offset = (⟨b, .big⟩ : Fields).i32 offset := by
  rw [Fields.i32, h.word_turned hs]
  rfl

theorem u16_big (hs : ⟨offset, 2⟩ ∈ spans) {v : UInt16}
    (hv : (⟨b, .big⟩ : Fields).u16 offset = .ok v) :
    ∃ u, (⟨c, .big⟩ : Fields).u16 offset = .ok u ∧
      u.toNat = v.toNat % 256 * 256 + v.toNat / 256 := by
  have hb : offset + 2 ≤ b.length := h.fits _ hs
  have htwo : (b.window ⟨offset, 2⟩).length = 2 := Bytes.length_window hb
  obtain ⟨x, y, hxy⟩ := List.length_eq_two.1 htwo
  have hx := x.toNat_lt
  have hy := y.toNat_lt
  rw [Fields.u16, Fields.word, Fields.slice_eq hb, hxy] at hv
  have hread : UInt16.ofNat (x.toNat * 256 + y.toNat) = v := by
    simpa [Except.map, ByteOrder.read, Bytes.value] using hv
  have hval : v.toNat = x.toNat * 256 + y.toNat := by
    rw [← hread]
    exact UInt16.toNat_ofNat_of_lt' (show x.toNat * 256 + y.toNat < 65536 by omega)
  refine ⟨UInt16.ofNat (y.toNat * 256 + x.toNat), ?_, ?_⟩
  · rw [Fields.u16, Fields.word, Fields.slice_eq (by rw [h.length]; exact hb), h.turned _ hs, hxy]
    simp [Except.map, ByteOrder.read, Bytes.value]
  · rw [UInt16.toNat_ofNat_of_lt' (show y.toNat * 256 + x.toNat < 65536 by omega)]
    omega

end Turned
end SeedStream
