import Mathlib.Data.List.Nodup
import SeedStream.Proofs.Text.Parts
import SeedStream.Selection.Quality

/-!
# Lists of quality letters

A list is read if each of its tokens is one letter and there is a token at all; repetitions and
empty places between commas do not count. What is read is printed with one comma between the
letters, each of them once, so the printed list is read as the same filter. It is never read as
the word for all letters, for that word has no comma and is longer than a letter.
-/

set_option autoImplicit false

namespace SeedStream.QualityFilter
open Text

variable {s : String} {t : List Char} {x : UInt8} {xs seen : List UInt8} {ts : List (List Char)}
  {f : QualityFilter} {c : Char}

theorem isAlpha_range (h : c.isAlpha = true) : 48 ≤ c.toNat ∧ c.toNat ≤ 122 := by
  have hcases := isAlphanum_cases (c := c) (by rw [Char.isAlphanum, h, Bool.true_or])
  omega

theorem isBlank_of_isAlpha (h : c.isAlpha = true) : isBlank c = false := by
  obtain ⟨hlo, hhi⟩ := isAlpha_range h
  simp only [isBlank, Bool.or_eq_false_iff, Bool.and_eq_false_iff, beq_eq_false_iff_ne,
    decide_eq_false_iff_not]
  omega

/-- `t` stands between two commas, or between a comma and an end of the text, when the blanks
around it are taken away, and is not empty. -/
def Lists (s : String) (t : List Char) : Prop :=
  t ≠ [] ∧ ∃ part ∈ s.toList.splitOn ',', Trims part t

theorem mem_tokens : t ∈ tokens s ↔ Lists s t := by
  rw [tokens, List.mem_filter, List.mem_map, splitChars_eq_splitOn]
  simp only [trimChars_eq_iff, Lists, Bool.not_eq_true', List.isEmpty_eq_false_iff, and_comm]

theorem letter?_eq_some :
    letter? t = some x ↔ ∃ c, t = [c] ∧ c.isAlpha = true ∧ Bytes.code c = x := by
  unfold letter?
  split
  next c => simp [Bytes.code]
  next hnot =>
    constructor
    · intro h
      cases h
    · rintro ⟨c, rfl, -⟩
      exact absurd rfl (hnot c)

theorem lettersFrom_ok (h : ∀ t ∈ ts, ∃ x, letter? t = some x) :
    ∃ xs, lettersFrom seen ts = .ok xs := by
  induction ts generalizing seen with
  | nil => exact ⟨seen, rfl⟩
  | cons t ts ih =>
    obtain ⟨⟨x, hx⟩, hrest⟩ := List.forall_mem_cons.1 h
    rw [lettersFrom, hx]
    exact ih hrest

structure Collects (seen : List UInt8) (ts : List (List Char)) (xs : List UInt8) : Prop where
  letters : ∀ t ∈ ts, ∃ x, letter? t = some x
  mem_iff : ∀ x, x ∈ xs ↔ x ∈ seen ∨ ∃ t ∈ ts, letter? t = some x
  nodup : seen.Nodup → xs.Nodup

theorem collects_of_ok (h : lettersFrom seen ts = .ok xs) : Collects seen ts xs := by
  induction ts generalizing seen with
  | nil =>
    cases h
    exact ⟨by simp, by simp, id⟩
  | cons t ts ih =>
    rw [lettersFrom] at h
    cases ht : letter? t with
    | none =>
      rw [ht] at h
      cases h
    | some x =>
      rw [ht] at h
      obtain ⟨hletters, hmem, hnodup⟩ := ih h
      by_cases hx : x ∈ seen
      · rw [if_pos (by simpa using hx)] at hmem hnodup
        refine ⟨List.forall_mem_cons.2 ⟨⟨x, ht⟩, hletters⟩, fun y => ?_, hnodup⟩
        rw [hmem, List.exists_mem_cons_iff, ht, Option.some.injEq]
        grind
      · rw [if_neg (by simpa using hx)] at hmem hnodup
        refine ⟨List.forall_mem_cons.2 ⟨⟨x, ht⟩, hletters⟩, fun y => ?_,
          fun hseen => hnodup ?_⟩
        · rw [hmem, List.exists_mem_cons_iff, ht, Option.some.injEq, List.mem_append,
            List.mem_singleton, or_assoc, eq_comm (a := y)]
        · rw [List.nodup_append]
          refine ⟨hseen, List.nodup_singleton x, fun y hy z hz => ?_⟩
          rw [List.mem_singleton.1 hz]
          exact ne_of_mem_of_not_mem hy hx

def token (x : UInt8) : List Char := [Char.ofNat x.toNat]

structure Listable (xs : List UInt8) : Prop where
  nonempty : xs ≠ []
  nodup : xs.Nodup
  letters : ∀ x ∈ xs, letter? (token x) = some x

theorem token_of_letter? (h : letter? t = some x) : token x = t := by
  obtain ⟨c, rfl, halpha, rfl⟩ := letter?_eq_some.1 h
  have hsmall := (isAlpha_range halpha).2
  rw [token, Bytes.toNat_code (by omega), Char.ofNat_toNat]

theorem lettersFrom_map_token (hl : ∀ x ∈ xs, letter? (token x) = some x)
    (hn : (seen ++ xs).Nodup) : lettersFrom seen (xs.map token) = .ok (seen ++ xs) := by
  induction xs generalizing seen with
  | nil => simp [lettersFrom]
  | cons x xs ih =>
    obtain ⟨hx, hrest⟩ := List.forall_mem_cons.1 hl
    have hnew : x ∉ seen := fun hmem => List.disjoint_of_nodup_append hn hmem List.mem_cons_self
    have hsplit : seen ++ x :: xs = (seen ++ [x]) ++ xs := by simp
    rw [hsplit] at hn
    rw [List.map_cons, lettersFrom, hx]
    dsimp only
    rw [if_neg (by simpa using hnew), ih hrest hn, hsplit]

theorem toList_text (xs : List UInt8) :
    (QualityFilter.only xs).text.toList = [','].intercalate (xs.map token) := by
  have hparts : xs.map (String.toList ∘ fun x => String.ofList [Char.ofNat x.toNat]) =
      xs.map token :=
    List.map_congr_left fun x _ => String.toList_ofList
  rw [text, String.toList_intercalate, List.map_map, hparts]
  rfl

theorem tokens_text (h : Listable xs) : tokens (QualityFilter.only xs).text = xs.map token := by
  have halpha : ∀ x ∈ xs, (Char.ofNat x.toNat).isAlpha = true := by
    intro x hx
    obtain ⟨c, hc, halpha, -⟩ := letter?_eq_some.1 (h.letters x hx)
    cases hc
    exact halpha
  have hcomma : ∀ part ∈ xs.map token, ',' ∉ part := by
    rw [List.forall_mem_map]
    intro x hx hmem
    have hbad := halpha x hx
    rw [← List.mem_singleton.1 hmem] at hbad
    exact absurd hbad (by decide)
  have htrim : ∀ part ∈ xs.map token, trimChars part = part := by
    rw [List.forall_mem_map]
    intro x hx
    have hblank := isBlank_of_isAlpha (halpha x hx)
    exact trimChars_eq_iff.2 ⟨⟨[], [], by simp⟩, by simpa [token] using hblank,
      by simpa [token] using hblank⟩
  have hparts : (QualityFilter.only xs).text.toList.splitOn ',' = xs.map token := by
    rw [toList_text]
    exact List.splitOn_intercalate ',' hcomma (by simpa using h.nonempty)
  rw [tokens, splitChars_eq_splitOn, hparts, List.map_congr_left htrim, List.map_id',
    List.filter_eq_self]
  rw [List.forall_mem_map]
  exact fun x _ => rfl

/-- The word for all letters has no comma and is a token of its own. -/
theorem tokens_all (h : trim s = "All") : tokens s = ["All".toList] := by
  have hword : trimChars s.toList = ['A', 'l', 'l'] := by
    rw [trim] at h
    exact String.ofList_inj.1 h
  obtain ⟨⟨before, after, hs, hbefore, hafter⟩, -, -⟩ := trimChars_eq_iff.1 hword
  have hcomma : ',' ∉ s.toList := by
    have hblank : isBlank ',' ≠ true := by decide
    rw [hs]
    simp only [List.mem_append, not_or]
    exact ⟨⟨fun hc => hblank (hbefore _ hc), by decide⟩, fun hc => hblank (hafter _ hc)⟩
  rw [tokens, splitChars_eq_splitOn, List.splitOn_eq_singleton hcomma, List.map_singleton, hword]
  rfl

theorem parse_eq_ok : parse s = .ok f ↔ (trim s = "All" ∧ f = .all) ∨
    (trim s ≠ "All" ∧ ∃ xs, lettersFrom [] (tokens s) = .ok xs ∧ xs ≠ [] ∧
      f = .only xs) := by
  unfold parse
  split
  next hall => simp [hall, eq_comm]
  next hall =>
    cases hletters : lettersFrom [] (tokens s) with
    | error t => simp [hall]
    | ok xs => cases xs <;> simp [hall, eq_comm]

theorem listable_of_ok (h : lettersFrom [] (tokens s) = .ok xs) (hne : xs ≠ []) :
    Listable xs := by
  obtain ⟨-, hmem, hnodup⟩ := collects_of_ok h
  refine ⟨hne, hnodup List.nodup_nil, fun x hx => ?_⟩
  obtain hx | ⟨t, -, ht⟩ := (hmem x).1 hx
  · cases hx
  · rwa [token_of_letter? ht]

theorem parse_text (h : Listable xs) : parse (QualityFilter.only xs).text = .ok (.only xs) := by
  have htokens := tokens_text h
  refine parse_eq_ok.2 (.inr ⟨fun hall => ?_, xs, ?_, h.nonempty, rfl⟩)
  · rw [tokens_all hall] at htokens
    obtain ⟨x, -, hx⟩ := List.mem_map.1 (htokens ▸ List.mem_singleton_self "All".toList)
    have hlength : 1 = 3 := congrArg List.length hx
    omega
  · rw [htokens]
    exact lettersFrom_map_token h.letters h.nodup

theorem exists_letter_iff :
    (∃ x, letter? t = some x) ↔ ∃ c, t = [c] ∧ c.isAlpha = true := by
  simp only [letter?_eq_some]
  constructor
  · rintro ⟨x, c, rfl, halpha, -⟩
    exact ⟨c, rfl, halpha⟩
  · rintro ⟨c, rfl, halpha⟩
    exact ⟨Bytes.code c, c, rfl, halpha, rfl⟩

theorem lettersFrom_ok_iff : (∃ xs, lettersFrom [] (tokens s) = .ok xs ∧ xs ≠ []) ↔
    (∃ t, Lists s t) ∧ ∀ t, Lists s t → ∃ c, t = [c] ∧ c.isAlpha = true := by
  simp only [← mem_tokens, ← exists_letter_iff]
  constructor
  · rintro ⟨xs, hxs, hne⟩
    obtain ⟨hletters, hmem, -⟩ := collects_of_ok hxs
    obtain ⟨x, hx⟩ := List.exists_mem_of_ne_nil xs hne
    obtain hx | ⟨t, ht, -⟩ := (hmem x).1 hx
    · cases hx
    · exact ⟨⟨t, ht⟩, hletters⟩
  · rintro ⟨⟨t, ht⟩, hletters⟩
    obtain ⟨xs, hxs⟩ : ∃ xs, lettersFrom [] (tokens s) = .ok xs := lettersFrom_ok hletters
    obtain ⟨x, hx⟩ := hletters t ht
    exact ⟨xs, hxs, List.ne_nil_of_mem
      (((collects_of_ok hxs).mem_iff x).2 (.inr ⟨t, ht, hx⟩))⟩

theorem mem_letters_iff (h : lettersFrom [] (tokens s) = .ok xs) :
    x ∈ xs ↔ ∃ c, Lists s [c] ∧ c.toNat = x.toNat := by
  obtain ⟨hletters, hmem, -⟩ := collects_of_ok h
  rw [hmem]
  constructor
  · rintro (hx | ⟨t, ht, hx⟩)
    · cases hx
    · obtain ⟨c, rfl, halpha, rfl⟩ := letter?_eq_some.1 hx
      have hsmall := (isAlpha_range halpha).2
      exact ⟨c, mem_tokens.1 ht, (Bytes.toNat_code (by omega)).symm⟩
  · rintro ⟨c, hc, heq⟩
    have ht := mem_tokens.2 hc
    obtain ⟨y, hy⟩ := hletters [c] ht
    obtain ⟨d, hd, halpha, rfl⟩ := letter?_eq_some.1 hy
    cases hd
    have hsmall := (isAlpha_range halpha).2
    have hcode : Bytes.code c = x :=
      UInt8.toNat_inj.1 ((Bytes.toNat_code (by omega)).trans heq)
    exact .inr ⟨[c], ht, hcode ▸ hy⟩

/-- A text gives a filter exactly if it is the word for all letters or lists some letters and
nothing else. The filter accepts all bytes or those of the letters listed, and is what is read
from its own text. -/
theorem parse_listed (s : String) :
    ((∃ f, parse s = .ok f) ↔ trim s = "All" ∨
      ((∃ t, Lists s t) ∧ ∀ t, Lists s t → ∃ c, t = [c] ∧ c.isAlpha = true)) ∧
    ∀ f, parse s = .ok f →
      (∀ x, f.accepts x = true ↔ trim s = "All" ∨ ∃ c, Lists s [c] ∧
        c.toNat = x.toNat) ∧
      parse f.text = .ok f := by
  constructor
  · rw [← lettersFrom_ok_iff]
    constructor
    · rintro ⟨f, hf⟩
      obtain ⟨hall, -⟩ | ⟨-, xs, hxs, hne, -⟩ := parse_eq_ok.1 hf
      · exact .inl hall
      · exact .inr ⟨xs, hxs, hne⟩
    · intro h
      by_cases hall : trim s = "All"
      · exact ⟨.all, parse_eq_ok.2 (.inl ⟨hall, rfl⟩)⟩
      · obtain ⟨xs, hxs, hne⟩ := h.resolve_left hall
        exact ⟨.only xs, parse_eq_ok.2 (.inr ⟨hall, xs, hxs, hne, rfl⟩)⟩
  · intro f hf
    obtain ⟨hall, rfl⟩ | ⟨hall, xs, hxs, hne, rfl⟩ := parse_eq_ok.1 hf
    · exact ⟨fun x => by simp [accepts, hall],
        parse_eq_ok.2 (.inl ⟨by decide +kernel, rfl⟩)⟩
    · refine ⟨fun x => ?_, parse_text (listable_of_ok hxs hne)⟩
      rw [accepts, List.contains_iff_mem, mem_letters_iff hxs]
      simp only [hall, false_or]

/-- A letter listed twice, an empty place and a blank that is no ASCII character. -/
theorem parse_listed_of_repeated :
    ∃ f, parse "\u3000D , q,,D" = .ok f ∧ f.text = "D,q" ∧ parse "D,q" = .ok f ∧
      f.accepts 113 = true ∧ f.accepts 81 = false := by
  have hparsed : parse "\u3000D , q,,D" = .ok (.only [68, 113]) := by decide +kernel
  have htext : (QualityFilter.only [68, 113]).text = "D,q" := by decide +kernel
  obtain ⟨-, hread⟩ := parse_listed "\u3000D , q,,D"
  obtain ⟨-, hagain⟩ := hread _ hparsed
  exact ⟨_, hparsed, htext, htext ▸ hagain, by decide, by decide⟩

end SeedStream.QualityFilter
