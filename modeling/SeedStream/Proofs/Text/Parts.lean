import Mathlib.Data.List.DropRight
import SeedStream.Proofs.Text.Ascii

/-!
# Parts of a text

Splitting at a separator is the library's splitting of lists. Trimming takes the blanks away from
both ends and nothing else, which determines what is left.
-/

set_option autoImplicit false

namespace SeedStream.Text

variable {l t : List Char}

theorem splitChars_eq_splitOn (sep : Char) (l : List Char) : splitChars sep l = l.splitOn sep := by
  induction l with
  | nil => rfl
  | cons c l ih =>
    rw [splitChars, List.splitOn_cons_eq_if_modifyHead, ih]
    by_cases hc : c = sep
    · simp [hc]
    · obtain ⟨part, parts, hparts⟩ := List.exists_cons_of_ne_nil (List.splitOn_ne_nil sep l)
      rw [if_neg hc, if_neg (by simpa using hc), hparts]
      rfl

/-- Blanks stand before and behind `t` in `l`, and `t` neither begins nor ends with one. -/
structure Trims (l t : List Char) : Prop where
  around : ∃ before after, l = before ++ t ++ after ∧ (∀ c ∈ before, isBlank c = true) ∧
    ∀ c ∈ after, isBlank c = true
  first : ∀ c ∈ t.head?, isBlank c = false
  last : ∀ c ∈ t.getLast?, isBlank c = false

theorem trimChars_eq (l : List Char) : trimChars l = (l.dropWhile isBlank).rdropWhile isBlank := rfl

theorem trims_trimChars (l : List Char) : Trims l (trimChars l) := by
  have hfront := List.takeWhile_append_dropWhile (p := isBlank) (l := l)
  have hback := List.rdropWhile_append_rtakeWhile (p := isBlank) (l := l.dropWhile isBlank)
  rw [← trimChars_eq] at hback
  refine ⟨⟨l.takeWhile isBlank, (l.dropWhile isBlank).rtakeWhile isBlank, ?_, ?_, ?_⟩,
    ?_, ?_⟩
  · rw [List.append_assoc, hback, hfront]
  · exact fun c hc => List.mem_takeWhile_imp hc
  · exact fun c hc => List.mem_rtakeWhile_imp hc
  · intro c hc
    have hhead : (l.dropWhile isBlank).head? = some c := by
      rw [← hback, List.head?_append, hc]
      rfl
    have hnot := List.head?_dropWhile_not isBlank l
    rwa [hhead] at hnot
  · intro c hc
    obtain ⟨hne, rfl⟩ := List.mem_getLast?_eq_getLast hc
    exact Bool.eq_false_iff.2 (List.rdropWhile_last_not isBlank _ hne)

theorem trimChars_eq_iff : trimChars l = t ↔ Trims l t := by
  constructor
  · rintro rfl
    exact trims_trimChars l
  · rintro ⟨⟨before, after, rfl, hbefore, hafter⟩, hfirst, hlast⟩
    have hhead : t.dropWhile isBlank = t := by
      cases t with
      | nil => rfl
      | cons c t => exact List.dropWhile_cons_of_neg (by simp [hfirst c rfl])
    have htail : t.rdropWhile isBlank = t := by
      rw [List.rdropWhile_eq_self_iff]
      intro hne
      simp [hlast _ (List.getLast?_eq_some_getLast hne)]
    rw [trimChars_append hafter, trimChars_eq, List.dropWhile_append_of_pos hbefore, hhead, htail]

end SeedStream.Text
