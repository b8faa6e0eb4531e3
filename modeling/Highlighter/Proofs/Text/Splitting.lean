import Highlighter.Text.Basic

/-!
# Splitting text

A text can be split at the first occurrence of a character, and at all of them, in one way only.
-/

namespace Highlighter.Text

/-- The text before the first occurrence of a character is the one without it. -/
theorem splitFirst?_eq_some_iff {separator : Char} {text before behind : List Char} :
    splitFirst? [separator] text = some (before, behind) ↔
      text = before ++ separator :: behind ∧ separator ∉ before := by
  induction text generalizing before with
  | nil => simp [splitFirst?]
  | cons c rest ih =>
    by_cases here : c = separator
    · subst here
      cases before <;> simp +contextual [splitFirst?, eq_comm]
    · have elsewhere : [separator].isPrefixOf (c :: rest) = false := by
        simpa [List.isPrefixOf] using Ne.symm here
      rw [splitFirst?, elsewhere, if_neg Bool.false_ne_true, Option.map_eq_some_iff]
      constructor
      · rintro ⟨⟨others, _⟩, found, same⟩
        cases same
        obtain ⟨rfl, without⟩ := ih.mp found
        exact ⟨rfl, by simp [Ne.symm here, without]⟩
      · rintro ⟨same, without⟩
        cases before with
        | nil => exact absurd (List.cons.inj same).1 here
        | cons first before =>
          obtain ⟨rfl, rfl⟩ := List.cons.inj same
          exact ⟨(before, behind), ih.mpr ⟨rfl, List.not_mem_of_not_mem_cons without⟩, rfl⟩

/-- The pieces between the occurrences of a character are those of the standard library. -/
theorem splitAll_eq_splitOn (separator : Char) (text : List Char) :
    splitAll separator text = text.splitOn separator := by
  induction text with
  | nil => rfl
  | cons c rest ih =>
    rw [splitAll, ih, List.splitOn_cons_eq_if_modifyHead]
    cases pieces : rest.splitOn separator with
    | nil => exact absurd pieces (List.splitOn_ne_nil separator rest)
    | cons piece pieces => by_cases here : c = separator <;> simp [here]

/-- A text is split at all occurrences of a character: there is none inside a piece. -/
theorem not_mem_of_mem_splitAll {separator : Char} {text piece : List Char}
    (member : piece ∈ splitAll separator text) : separator ∉ piece := by
  induction text generalizing piece with
  | nil => simp_all [splitAll]
  | cons c rest ih =>
    rw [splitAll_eq_splitOn, List.splitOn_cons_eq_if_modifyHead, ← splitAll_eq_splitOn] at member
    split at member
    · rcases List.mem_cons.mp member with rfl | later
      · exact List.not_mem_nil
      · exact ih later
    · rename_i other
      cases pieces : splitAll separator rest with
      | nil => simp [pieces] at member
      | cons first pieces =>
        rw [pieces] at member ih
        rcases List.mem_cons.mp member with rfl | later
        · have apart : separator ≠ c := fun same => other (beq_iff_eq.mpr same.symm)
          exact List.not_mem_cons_of_ne_of_not_mem apart (ih List.mem_cons_self)
        · exact ih (List.mem_cons_of_mem _ later)

/-- A text is split into the pieces without a character that make it up, with the character between
them. -/
theorem splitAll_eq_iff {separator : Char} {text : List Char} {pieces : List (List Char)} :
    splitAll separator text = pieces ↔ pieces ≠ [] ∧ [separator].intercalate pieces = text ∧
      ∀ piece ∈ pieces, separator ∉ piece := by
  constructor
  · rintro rfl
    refine ⟨?_, ?_, fun piece => not_mem_of_mem_splitAll⟩
    · rw [splitAll_eq_splitOn]
      exact List.splitOn_ne_nil separator text
    · rw [splitAll_eq_splitOn, List.intercalate_splitOn]
  · rintro ⟨some, rfl, without⟩
    rw [splitAll_eq_splitOn, List.splitOn_intercalate separator without some]

end Highlighter.Text
