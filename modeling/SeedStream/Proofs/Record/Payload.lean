import SeedStream.Proofs.Record.Bounds
import SeedStream.Proofs.Record.Words

/-!
# Payloads and samples

The words of a payload and its samples stand for each other. Decoding succeeds exactly
on a payload that is long enough and in an encoding of two or four bytes, the samples
written back are the bytes they were read from, and samples that have room in their words
are read back whatever follows them.
-/

set_option autoImplicit false

namespace SeedStream

namespace RawInteger

variable {order : ByteOrder} {width count : Nat} {b : Bytes}

theorem words_flatten : (words width count b).flatten = b.take (count * width) := by
  induction count generalizing b with
  | zero => rw [words, Nat.zero_mul, List.take_zero, List.flatten_nil]
  | succ count ih => rw [words, List.flatten_cons, ih, Nat.succ_mul, Nat.add_comm, List.take_add]

theorem encode_samples (hw : width = 2 ∨ width = 4) {ws : List Bytes}
    (hlen : ∀ word ∈ ws, word.length = width) :
    encode order width (ws.map (sample order width)) = ws.flatten := by
  induction ws with
  | nil => rfl
  | cons word ws ih =>
    obtain ⟨hword, hrest⟩ := List.forall_mem_cons.1 hlen
    have hfirst : order.write width
        ((sample order width word).toInt.emod (Nat.pow 256 width)).toNat = word :=
      write_sample hw hword
    rw [encode] at ih
    rw [List.map_cons, encode, List.flatMap_cons, hfirst, ih hrest, List.flatten_cons]

theorem encode_decode {h : Header} {payload : Bytes} {samples : List Int32}
    (hencoding : Encodes h.encoding width) (hd : decode h payload = .ok samples) :
    (∀ x ∈ samples, HasRoom width x) ∧
      encode h.wordOrder width samples = payload.take (h.sampleCount.toNat * width) := by
  obtain ⟨width', hencoding', hlong, rfl⟩ := decode_eq_ok.1 hd
  have hsame : width' = width := by
    unfold Encodes at hencoding hencoding'
    grind
  subst hsame
  have hfirst : (payload.take (h.sampleCount.toNat * width')).length =
      h.sampleCount.toNat * width' := by
    rw [List.length_take]
    exact Nat.min_eq_left hlong
  constructor
  · intro x hx
    obtain ⟨word, -, rfl⟩ := List.mem_map.1 hx
    exact sample_hasRoom hencoding.width_eq word
  · rw [encode_samples hencoding.width_eq fun word hword =>
      length_of_mem_words (Nat.le_of_eq hfirst.symm) hword, words_flatten, List.take_take,
      Nat.min_self]

end RawInteger

namespace Decoder
open RawInteger

theorem rawInteger_eq_ok {h : Header} {payload : Bytes} {samples : List Int32} :
    rawInteger h payload = .ok samples ↔ decode h payload = .ok samples := by
  unfold rawInteger
  cases decode h payload <;> simp

/-- Decoding succeeds exactly if the encoding has words of two or of four bytes and the payload
has as many words as the header counts samples. It gives that many samples, and their bytes
in two's complement, in the word order of the header, are the first bytes of the payload. Up to
65535 samples that have room in their words are decoded from their bytes, in either order and
whatever follows them. -/
theorem samples_restored :
    (∀ (h : Header) payload, (∃ samples, rawInteger h payload = .ok samples) ↔
      ∃ width, Encodes h.encoding width ∧ h.sampleCount.toNat * width ≤ payload.length) ∧
    (∀ (h : Header) payload samples, rawInteger h payload = .ok samples →
      samples.length = h.sampleCount.toNat ∧ ∀ width, Encodes h.encoding width →
        (∀ x ∈ samples, HasRoom width x) ∧
        encode h.wordOrder width samples = payload.take (h.sampleCount.toNat * width)) ∧
    ∀ (h : Header) code width order samples padding, Encodes code width →
      samples.length ≤ 65535 →
      (∀ x ∈ samples, HasRoom width x) →
      rawInteger
        { h with encoding := code, wordOrder := order, sampleCount := .ofNat samples.length }
        (encode order width samples ++ padding) = .ok samples := by
  refine ⟨fun h payload => ?_, fun h payload samples hd => ?_, ?_⟩
  · simp only [rawInteger_eq_ok, decode_eq_ok]
    constructor
    · rintro ⟨-, width, hencoding, hlong, -⟩
      exact ⟨width, hencoding, hlong⟩
    · rintro ⟨width, hencoding, hlong⟩
      exact ⟨_, width, hencoding, hlong, rfl⟩
  · rw [rawInteger_eq_ok] at hd
    exact ⟨decode_length hd, fun width hencoding => encode_decode hencoding hd⟩
  · intro h code width order samples padding hencoding hcount hroom
    have hsize : (UInt16.ofNat samples.length).toNat = samples.length :=
      UInt16.toNat_ofNat_of_lt' (Nat.lt_succ_of_le hcount)
    exact rawInteger_eq_ok.2 (decode_encode hencoding hroom rfl hsize)

/-- The least and the greatest number of two bytes and a negative one, in little-endian words
behind which one byte is left. -/
theorem samples_restored_of_extremes :
    ∃ h : Header, h.encoding = 1 ∧ h.wordOrder = .little ∧
      rawInteger h (encode .little 2 [-32768, 32767, -2] ++ [9]) = .ok [-32768, 32767, -2] ∧
      encode .little 2 [-32768, 32767, -2] = [0, 128, 255, 127, 254, 255] := by
  let h : Header :=
    { (default : Header) with encoding := 1, wordOrder := .little, sampleCount := 3 }
  have hroom : ∀ x ∈ ([-32768, 32767, -2] : List Int32), HasRoom 2 x := by
    simp only [List.forall_mem_cons]
    exact ⟨by decide, by decide, by decide, List.forall_mem_nil _⟩
  obtain ⟨-, hforth, hback⟩ := samples_restored
  have hdecode : rawInteger h (encode .little 2 [-32768, 32767, -2] ++ [9]) =
      .ok [-32768, 32767, -2] :=
    hback default 1 2 .little [-32768, 32767, -2] [9] (.inl ⟨rfl, rfl⟩) (by decide) hroom
  have hwritten := ((hforth h _ _ hdecode).2 2 (.inl ⟨rfl, rfl⟩)).2
  exact ⟨h, rfl, rfl, hdecode, hwritten.trans (by decide +kernel)⟩

end Decoder
end SeedStream
