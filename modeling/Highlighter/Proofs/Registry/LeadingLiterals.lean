import Highlighter.Proofs.Registry.Gathering

/-!
# Rules are tried where their literals occur

A rule that opens with a literal is listed under the forms of the first character, in the eyes of
its own ruleset; the literal is found where the text agrees with it in the eyes of the mode that is
running.  The two meet for every ASCII letter, if the ruleset ignores case whenever the mode does,
and for every other character that is a small letter, a capital or no letter at all.  A titlecase
letter is neither its own small letter nor its own capital, so it is not among its forms.
-/

namespace Highlighter

open Unicode (asciiLower)

/-! ## Where literals occur -/

/-- Whether a character is found for one of a literal. -/
def Line.agrees (ignoreCase : Bool) (c d : Char) : Bool :=
  if ignoreCase then Unicode.equalIgnoringAsciiCase c d else c == d

namespace Line

theorem startsWithLiteral_cons (ignoreCase : Bool) (c d : Char) (literal text : List Char) :
    startsWithLiteral ignoreCase (c :: literal) (d :: text) =
      (agrees ignoreCase c d && startsWithLiteral ignoreCase literal text) := rfl

theorem agrees_self (ignoreCase : Bool) (c : Char) : agrees ignoreCase c c = true := by
  cases ignoreCase <;> simp [agrees, Unicode.equalIgnoringAsciiCase]

/-- A character that is found for another is the same, or the other form of an ASCII letter. -/
theorem eq_or_letter_of_agrees {ignoreCase : Bool} {c d : Char} (same : agrees ignoreCase c d) :
    d = c ∨ ignoreCase = true ∧ d.isAlpha ∧ asciiLower c = asciiLower d := by
  cases ignoreCase with
  | false => exact .inl (eq_of_beq same).symm
  | true =>
    have lower : asciiLower c = asciiLower d := eq_of_beq same
    cases letter : d.isAlpha with
    | true => exact .inr ⟨rfl, rfl, lower⟩
    | false =>
      have unchanged := (Unicode.asciiLower_eq_iff letter).mpr rfl
      rw [unchanged] at lower
      exact .inl ((Unicode.asciiLower_eq_iff letter).mp lower).symm

theorem startsWithLiteral_self (ignoreCase : Bool) (literal : List Char) :
    startsWithLiteral ignoreCase literal literal = true := by
  induction literal with
  | nil => rfl
  | cons c literal ih => rw [startsWithLiteral_cons, agrees_self, ih, Bool.and_self]

/-- Where a literal occurs there is a character that agrees with its first one. -/
theorem exists_agrees_of_literalAt {ignoreCase : Bool} {line more : List Char} {column : Nat}
    {first : Char} (occurs : literalAt line column (first :: more) ignoreCase = true) :
    ∃ c ∈ Text.charAt? line column, agrees ignoreCase first c = true := by
  unfold literalAt at occurs
  cases rest : line.drop column with
  | nil =>
    rw [rest] at occurs
    cases occurs
  | cons c behind =>
    rw [rest, startsWithLiteral_cons, Bool.and_eq_true] at occurs
    have here : Text.charAt? line column = some c := by rw [Text.charAt?, rest, List.head?_cons]
    exact ⟨c, here, occurs.1⟩

end Line

/-- A rule is tried wherever the literal that it opens with occurs. -/
def Mode.TriesWhereOpens (mode : Mode) (spec : RuleSpec) : Prop :=
  ∀ text ∈ spec.leadingLiteral?, ∀ (line : List Char) (column : Nat),
    Line.literalAt line column text.toList mode.ignoreCase = true →
    ∃ c ∈ Text.charAt? line column, mode.Tries c spec

/-- All that matters of a place is the character there. -/
theorem Mode.triesWhereOpens_iff (mode : Mode) {spec : RuleSpec} {text : String} {first : Char}
    {more : List Char} (opens : spec.leadingLiteral? = some text)
    (letters : text.toList = first :: more) : mode.TriesWhereOpens spec ↔
      ∀ c, Line.agrees mode.ignoreCase first c = true → mode.Tries c spec := by
  constructor
  · intro tries c same
    have occurs : Line.literalAt (c :: more) 0 text.toList mode.ignoreCase = true := by
      rw [letters, Line.literalAt, List.drop_zero, Line.startsWithLiteral_cons, same,
        Line.startsWithLiteral_self, Bool.and_self]
    obtain ⟨d, here, tried⟩ := tries text opens (c :: more) 0 occurs
    cases here
    exact tried
  · intro each other found line column occurs
    obtain rfl : text = other := Option.some.inj (opens.symm.trans found)
    rw [letters] at occurs
    obtain ⟨c, here, same⟩ := Line.exists_agrees_of_literalAt occurs
    exact ⟨c, here, each c same⟩

/-! ## Where rules are listed -/

namespace RuleSpec

/-- The forms under which a ruleset lists a literal take in all that a mode finds for the first
character.  If the ruleset ignores case, a letter is its own small letter or its own capital; and if
the mode ignores the case of an ASCII letter then so does the ruleset. -/
def FormsSuffice (running own : Bool) (first : Char) : Prop :=
  (own = true → Unicode.isAlphabetic first = true →
    first ∈ Unicode.lowercaseChar first ∨ first ∈ Unicode.uppercaseChar first) ∧
  (running = true → first.isAlpha = true → own = true)

instance (running own : Bool) (first : Char) : Decidable (FormsSuffice running own first) :=
  inferInstanceAs (Decidable (_ ∧ _))

theorem self_mem_leadingForms_iff {ignoreCase : Bool} {first : Char} :
    first ∈ leadingForms ignoreCase first ↔
      (ignoreCase = true → Unicode.isAlphabetic first = true →
        first ∈ Unicode.lowercaseChar first ∨ first ∈ Unicode.uppercaseChar first) := by
  unfold leadingForms
  split
  · rename_i folded
    rw [Bool.and_eq_true] at folded
    simp [folded.1, folded.2]
  · rename_i plain
    simp only [Bool.and_eq_true, not_and] at plain
    simpa using fun own letter => absurd letter (plain own)

/-- The two forms of an ASCII letter. -/
theorem exists_other_case {c : Char} (letter : c.isAlpha) :
    ∃ d, d ≠ c ∧ asciiLower c = asciiLower d := by
  have forms : ∀ code < 91, 65 ≤ code → Char.ofNat (code + 32) ≠ Char.ofNat code ∧
      asciiLower (Char.ofNat code) = asciiLower (Char.ofNat (code + 32)) := by decide
  obtain ⟨code, high, low, rfl | rfl⟩ := Unicode.asciiLetter_cases letter
  · exact ⟨_, (forms code high low).1, (forms code high low).2⟩
  · exact ⟨_, (forms code high low).1.symm, (forms code high low).2.symm⟩

theorem formsSuffice_iff {running own : Bool} {first : Char} : FormsSuffice running own first ↔
    ∀ c, Line.agrees running first c = true → c ∈ leadingForms own first := by
  constructor
  · rintro ⟨among, ignores⟩ c same
    rcases Line.eq_or_letter_of_agrees same with rfl | ⟨rfl, letter, lower⟩
    · exact self_mem_leadingForms_iff.mpr among
    · have firstLetter : first.isAlpha := by
        rw [← Unicode.isAlpha_asciiLower, lower, Unicode.isAlpha_asciiLower, letter]
      rw [ignores rfl firstLetter]
      exact mem_leadingForms letter lower
  · intro each
    refine ⟨self_mem_leadingForms_iff.mp (each first (Line.agrees_self running first)), ?_⟩
    rintro rfl letter
    obtain ⟨other, different, lower⟩ := exists_other_case letter
    cases own with
    | true => rfl
    | false =>
      have listed : other ∈ leadingForms false first := each other (beq_iff_eq.mpr lower)
      exact absurd (List.mem_singleton.mp listed) different

example : FormsSuffice true true 'É' ∧ ¬FormsSuffice true true 'ǅ' ∧
    ¬FormsSuffice true false 'a' := by decide +kernel

/-- The literal of a rule that does something has a first character. -/
theorem exists_first_of_form {spec : RuleSpec} {ignoreCase : Bool} {text : String}
    (valid : (Rule.compile ignoreCase spec).form.isSome)
    (opens : spec.leadingLiteral? = some text) : ∃ first more, text.toList = first :: more := by
  have literal : (Rule.literal? text).isSome := by
    obtain ⟨form, compiled⟩ := Option.isSome_iff_exists.mp valid
    cases spec <;> cases opens <;>
      simp only [Rule.compile, Rule.form?, Option.bind_eq_bind, Option.bind_eq_some_iff] at compiled
    all_goals
      obtain ⟨letters, found, -⟩ := compiled
      exact Option.isSome_of_eq_some found
  obtain ⟨letters, found⟩ := Option.isSome_iff_exists.mp literal
  obtain ⟨rfl, notEmpty⟩ := Rule.literal?_eq_some found
  exact List.exists_cons_of_ne_nil notEmpty

end RuleSpec

/-- A ruleset that ignores case, with a rule for a titlecase letter. -/
def Library.titlecase : Library where
  files := .ofList [("t", {
    rulesets := [("main", { rules := [{ spec := .seq "ǅ" "operator" none {} }] })] })]

namespace Registry

theorem titlecase_rules {name : ModeName} {file : ModeFile} {ruleset : Ruleset}
    (found : source? .titlecase name = some (file, ruleset)) :
    ruleset.rules = [{ spec := .seq "ǅ" "operator" none {} }] := by
  obtain ⟨fileFound, rulesetFound⟩ := source?_eq_some found
  obtain ⟨key, member⟩ := file?_mem fileFound
  cases List.mem_singleton.mp member
  obtain ⟨before, rest, same, -⟩ := List.lookup_eq_some_iff.mp rulesetFound
  have among := same ▸ List.mem_append_right before List.mem_cons_self
  obtain ⟨-, rfl⟩ := Prod.mk.inj (List.mem_singleton.mp among)
  rfl

/-- Whatever the library and whatever was asked for before, take the mode of a name and a rule of
one of the rulesets that it is gathered from, which opens with a literal and names no characters.
The rule is tried wherever its literal occurs exactly if for each character that agrees with the
first one some of these rulesets lists the rule.  This is so if the forms of the first character
suffice.  They must suffice, unless another ruleset with the same rule ignores case where this one
does not, or names characters. -/
theorem resolve_triesWhereOpens (library : Library) (highlightUrls : Bool)
    (requests : List Request) (name : String) :
    let mode :=
      (((⟨library, highlightUrls, .empty⟩ : Registry).serveAll requests).resolve name).1
    ∃ origins, Gathers library highlightUrls origins mode ∧
      ∀ origin ∈ origins, ∀ entry ∈ origin.ruleset.rules, entry.chars = none →
      ∀ text ∈ entry.spec.leadingLiteral?,
      (Rule.compile origin.ruleset.attributes.ignoreCase entry.spec).form.isSome →
      ∃ first ∈ text.toList.head?,
        (mode.TriesWhereOpens entry.spec ↔ ∀ c, Line.agrees mode.ignoreCase first c = true →
          ∃ other ∈ origins, other.Tries c entry.spec) ∧
        (RuleSpec.FormsSuffice mode.ignoreCase origin.ruleset.attributes.ignoreCase first →
          mode.TriesWhereOpens entry.spec) ∧
        ((∀ other ∈ origins, ∀ like ∈ other.ruleset.rules, like.spec = entry.spec →
            like.chars = none ∧
              other.ruleset.attributes.ignoreCase = origin.ruleset.attributes.ignoreCase) →
          mode.TriesWhereOpens entry.spec →
          RuleSpec.FormsSuffice mode.ignoreCase origin.ruleset.attributes.ignoreCase first) := by
  intro mode
  obtain ⟨origins, gathers⟩ := resolve_gathers library highlightUrls requests name
  refine ⟨origins, gathers, ?_⟩
  intro origin among entry member unnamed text opens valid
  obtain ⟨first, more, letters⟩ := RuleSpec.exists_first_of_form valid opens
  have exactly : mode.TriesWhereOpens entry.spec ↔ ∀ c,
      Line.agrees mode.ignoreCase first c = true → ∃ other ∈ origins, other.Tries c entry.spec := by
    rw [Mode.triesWhereOpens_iff mode opens letters]
    exact forall₂_congr fun c _ => gathers.tries_iff c entry.spec
  have forms := RuleSpec.leadingChars_of_literal opens letters
  refine ⟨first, by rw [letters]; rfl, exactly, fun suffice => exactly.mpr fun c same => ?_,
    fun unique tries => RuleSpec.formsSuffice_iff.mpr fun c same => ?_⟩
  · have listed := RuleSpec.formsSuffice_iff.mp suffice c same
    exact ⟨origin, among, entry, member, rfl, by rw [unnamed, forms]; exact listed⟩
  · obtain ⟨other, there, like, rule, written, listed⟩ := exactly.mp tries c same
    obtain ⟨unnamed, cases⟩ := unique other there like rule written
    rwa [unnamed, forms, cases] at listed

/-- A rule that opens with a titlecase letter, in a ruleset that ignores case, is not tried at that
letter. -/
theorem not_resolve_triesWhereOpens :
    ¬∀ (library : Library) (highlightUrls : Bool) (requests : List Request) (name : String),
      let mode :=
        (((⟨library, highlightUrls, .empty⟩ : Registry).serveAll requests).resolve name).1
      mode.isUnknown = false →
      ∃ origins, Gathers library highlightUrls origins mode ∧
        ∀ origin ∈ origins, ∀ entry ∈ origin.ruleset.rules, entry.chars = none →
        ∀ text ∈ entry.spec.leadingLiteral?,
        (Rule.compile origin.ruleset.attributes.ignoreCase entry.spec).form.isSome →
        mode.TriesWhereOpens entry.spec := by
  intro always
  obtain ⟨origins, gathers, each⟩ := always .titlecase false [] "t" (by decide +kernel)
  obtain ⟨origin, member⟩ := gathers.exists_of_known (by decide +kernel)
  have rules := titlecase_rules (gathers.found origin member)
  have valid : (Rule.compile origin.ruleset.attributes.ignoreCase
      (.seq "ǅ" "operator" none {})).form.isSome := by
    cases origin.ruleset.attributes.ignoreCase <;> decide +kernel
  have tries := each origin member ⟨none, .seq "ǅ" "operator" none {}⟩ (by simp [rules]) rfl "ǅ"
    rfl valid
  obtain ⟨c, here, rule, -, listed⟩ := tries "ǅ" rfl ['ǅ'] 0 (by decide +kernel)
  cases here
  have nothing : ((((⟨.titlecase, false, .empty⟩ : Registry).serveAll []).resolve
      "t").1.matchersAt 'ǅ').isEmpty = true := by decide +kernel
  rw [List.isEmpty_iff.mp nothing] at listed
  exact absurd listed List.not_mem_nil

end Registry

end Highlighter
