import Highlighter.Unicode.Case
import Highlighter.Unicode.Classes

/-!
# The case of ASCII letters

A question about characters that has the same answer for each of the 26 capitals as for its small
letter has the same answer for a text as for the text in small letters.  Lower case itself is such a
question, the rule for a final sigma included.
-/

namespace Highlighter.Unicode

variable {α : Type} {c d : Char}

/-- A character is left as it is, or is one of the capitals. -/
theorem asciiLower_cases (c : Char) : asciiLower c = c ∨
    ∃ code < 91, 65 ≤ code ∧ c = Char.ofNat code ∧ asciiLower c = Char.ofNat (code + 32) := by
  unfold asciiLower
  split
  · rename_i capital
    have low : 65 ≤ c.toNat := capital.1
    have high : c.toNat ≤ 90 := capital.2
    exact .inr ⟨c.toNat, by omega, low, (Char.ofNat_toNat c).symm, rfl⟩
  · exact .inl rfl

/-- What is the same for each capital as for its small letter does not depend on the case of ASCII
letters. -/
theorem of_asciiLower (f : Char → α)
    (letters : ∀ code < 91, 65 ≤ code → f (Char.ofNat (code + 32)) = f (Char.ofNat code))
    (c : Char) : f (asciiLower c) = f c := by
  rcases asciiLower_cases c with same | ⟨code, high, low, rfl, lower⟩
  · rw [same]
  · rw [lower, letters code high low]

@[simp] theorem asciiLower_asciiLower (c : Char) : asciiLower (asciiLower c) = asciiLower c :=
  of_asciiLower asciiLower (by decide) c

@[simp] theorem equalIgnoringAsciiCase_asciiLower (c d : Char) :
    equalIgnoringAsciiCase c (asciiLower d) = equalIgnoringAsciiCase c d := by
  simp [equalIgnoringAsciiCase]

@[simp] theorem isAlpha_asciiLower (c : Char) : (asciiLower c).isAlpha = c.isAlpha :=
  of_asciiLower Char.isAlpha (by decide) c

@[simp] theorem isDigit_asciiLower (c : Char) : (asciiLower c).isDigit = c.isDigit :=
  of_asciiLower Char.isDigit (by decide) c

@[simp] theorem isWhitespace_asciiLower (c : Char) :
    isWhitespace (asciiLower c) = isWhitespace c :=
  of_asciiLower isWhitespace (by decide +kernel) c

theorem utf8Size_asciiLower (c : Char) : (asciiLower c).utf8Size = c.utf8Size :=
  of_asciiLower Char.utf8Size (by decide) c

/-- Only the character itself becomes one that is no ASCII letter. -/
theorem asciiLower_eq_iff (noLetter : d.isAlpha = false) : asciiLower c = d ↔ c = d := by
  rcases asciiLower_cases c with same | ⟨code, high, low, rfl, lower⟩
  · rw [same]
  · have letters : ∀ code < 91, 65 ≤ code →
        (Char.ofNat code).isAlpha ∧ (Char.ofNat (code + 32)).isAlpha := by decide
    obtain ⟨capital, small⟩ := letters code high low
    rw [lower]
    apply iff_of_false
    · rintro rfl
      rw [small] at noLetter
      cases noLetter
    · rintro rfl
      rw [capital] at noLetter
      cases noLetter

/-- An ASCII letter is one of the capitals, or the small letter of one. -/
theorem asciiLetter_cases (letter : c.isAlpha) :
    ∃ code < 91, 65 ≤ code ∧ (c = Char.ofNat code ∨ c = Char.ofNat (code + 32)) := by
  have either : c.isUpper || c.isLower := letter
  have range : (65 ≤ c.toNat ∧ c.toNat ≤ 90) ∨ 97 ≤ c.toNat ∧ c.toNat ≤ 122 := by
    rcases (Bool.or_eq_true _ _).mp either with capital | small
    · exact .inl (of_decide_eq_true capital)
    · exact .inr (((Bool.and_eq_true _ _).mp small).imp of_decide_eq_true of_decide_eq_true)
  rcases range with ⟨low, high⟩ | ⟨low, high⟩
  · exact ⟨c.toNat, by omega, low, .inl (Char.ofNat_toNat c).symm⟩
  · refine ⟨c.toNat - 32, by omega, by omega, .inr ?_⟩
    rw [Nat.sub_add_cancel (by omega), Char.ofNat_toNat]

/-- Characters with the same small letter, if this is one, are the two forms of one letter. -/
theorem asciiLetters_of_same (letter : c.isAlpha) (same : asciiLower d = asciiLower c) :
    ∃ code < 91, 65 ≤ code ∧ (c = Char.ofNat code ∨ c = Char.ofNat (code + 32)) ∧
      (d = Char.ofNat code ∨ d = Char.ofNat (code + 32)) := by
  have small : ∀ code < 91, 65 ≤ code → asciiLower (Char.ofNat code) = Char.ofNat (code + 32) ∧
      asciiLower (Char.ofNat (code + 32)) = Char.ofNat (code + 32) := by decide
  have distinct : ∀ code < 91, 65 ≤ code → (Char.ofNat (code + 32)).toNat = code + 32 := by decide
  have letterToo : d.isAlpha := by rw [← isAlpha_asciiLower, same, isAlpha_asciiLower, letter]
  obtain ⟨code, high, low, form⟩ := asciiLetter_cases letter
  obtain ⟨code', high', low', form'⟩ := asciiLetter_cases letterToo
  have lower : asciiLower c = Char.ofNat (code + 32) := by
    rcases form with rfl | rfl
    · exact (small code high low).1
    · exact (small code high low).2
  have lower' : asciiLower d = Char.ofNat (code' + 32) := by
    rcases form' with rfl | rfl
    · exact (small code' high' low').1
    · exact (small code' high' low').2
  have codes : code' + 32 = code + 32 := by
    rw [← distinct code' high' low', ← distinct code high low, ← lower', ← lower, same]
  obtain rfl : code' = code := by omega
  exact ⟨code', high, low, form, form'⟩

/-! ## Lower case -/

theorem cased_asciiLower (c : Char) : cased.contains (asciiLower c) = cased.contains c :=
  of_asciiLower cased.contains (by decide +kernel) c

theorem caseIgnorable_asciiLower (c : Char) :
    caseIgnorable.contains (asciiLower c) = caseIgnorable.contains c :=
  of_asciiLower caseIgnorable.contains (by decide +kernel) c

theorem lowercaseChar_asciiLower (c : Char) : lowercaseChar (asciiLower c) = lowercaseChar c :=
  of_asciiLower lowercaseChar (by decide +kernel) c

theorem nextToCased_asciiLower (neighbours : List Char) :
    nextToCased (neighbours.map asciiLower) = nextToCased neighbours := by
  have ignorable : (caseIgnorable.contains ∘ asciiLower) = caseIgnorable.contains :=
    funext caseIgnorable_asciiLower
  have letters : (cased.contains ∘ asciiLower) = cased.contains := funext cased_asciiLower
  simp only [nextToCased, List.dropWhile_map, List.head?_map, Option.map_map, ignorable, letters]

/-- The lower case of a text does not depend on the case of its ASCII letters. -/
theorem lowercaseAfter_asciiLower (before rest : List Char) :
    lowercaseAfter (before.map asciiLower) (rest.map asciiLower) = lowercaseAfter before rest := by
  induction rest generalizing before with
  | nil => rfl
  | cons c rest ih =>
    have sigma : (asciiLower c == 'Σ') = (c == 'Σ') := by
      rw [Bool.eq_iff_iff, beq_iff_eq, beq_iff_eq]
      exact asciiLower_eq_iff (by decide)
    rw [List.map_cons, lowercaseAfter, lowercaseAfter, sigma, nextToCased_asciiLower,
      nextToCased_asciiLower, lowercaseChar_asciiLower, ← List.map_cons, ih]

end Highlighter.Unicode
