import Highlighter.Proofs.Text.Splitting
import Highlighter.Settings
import Mathlib.Data.List.Forall2
import Mathlib.Data.List.Induction
import Mathlib.Data.Nat.Digits.Defs
import Mathlib.Tactic.MkIffOfInductiveProp

/-!
# What settings mean

Of the lines that set a key the last one counts.  What its value means is said here without reading
it step by step, and the settings that a text makes are those that its lines mean.  A value that
means nothing leaves a setting as it is by default; but it turns a switch off, so `highlight-urls`
and `color-output` are what their lines mean exactly if these say yes or no.
-/

namespace Highlighter.Settings

/-! ## Lines that set keys -/

/-- A line sets a key, which is compared in lower case, to a value. -/
def Sets (line key value : List Char) : Prop :=
  ∃ name rest, Text.trim line = name ++ '=' :: rest ∧ '=' ∉ name ∧
    (Text.trim line).head? ≠ some '#' ∧
    Unicode.lowercaseAfter [] (Text.trim name) = key ∧ Text.trim rest = value

/-- The last one of some lines that sets a key sets it to a value. -/
def LastSets (lines : List (List Char)) (key value : List Char) : Prop :=
  ∃ earlier line later, lines = earlier ++ line :: later ∧ Sets line key value ∧
    ∀ other ∈ later, ∀ another, ¬Sets other key another

variable {line key value : List Char} {lines : List (List Char)}

theorem assignment?_eq_some_iff : assignment? line = some (key, value) ↔ Sets line key value := by
  rw [assignment?]
  constructor
  · intro sets
    split at sets
    · cases sets
    · rename_i means
      obtain ⟨⟨name, rest⟩, found, same⟩ := Option.map_eq_some_iff.mp sets
      obtain ⟨text, without⟩ := Text.splitFirst?_eq_some_iff.mp found
      cases same
      exact ⟨name, rest, text, without, fun comment => means (.inr comment), rfl, rfl⟩
  · rintro ⟨name, rest, text, without, noComment, rfl, rfl⟩
    have means : ¬((Text.trim line).isEmpty = true ∨ (Text.trim line).head? = some '#') := by
      rintro (blank | comment)
      · simp [text] at blank
      · exact noComment comment
    simp only [if_neg means, Text.splitFirst?_eq_some_iff.mpr ⟨text, without⟩, Option.map_some]

/-- The last line that sets a key is the new one behind some lines, or the last one among them. -/
theorem lastSets_append_singleton : LastSets (lines ++ [line]) key value ↔
    Sets line key value ∨ LastSets lines key value ∧ ∀ another, ¬Sets line key another := by
  constructor
  · rintro ⟨earlier, last, later, split, sets, none⟩
    rcases List.eq_nil_or_concat later with rfl | ⟨others, other, rfl⟩
    · obtain ⟨-, same⟩ := List.append_inj' split rfl
      cases same
      exact .inl sets
    · rw [List.concat_eq_append, ← List.cons_append, ← List.append_assoc] at split
      obtain ⟨rfl, same⟩ := List.append_inj' split rfl
      cases same
      exact .inr ⟨⟨earlier, last, others, rfl, sets, fun other member =>
        none other (by simp [member])⟩, none line (by simp)⟩
  · rintro (sets | ⟨⟨earlier, last, later, rfl, sets, none⟩, new⟩)
    · exact ⟨lines, line, [], rfl, sets, fun other member => nomatch member⟩
    · refine ⟨earlier, last, later ++ [line], by simp, sets, fun other member => ?_⟩
      rcases List.mem_append.mp member with old | here
      · exact none other old
      · exact List.mem_singleton.mp here ▸ new

/-- What is kept under a key is what the last line sets it to that sets it. -/
theorem get?_ofList_eq_some_iff :
    (Table.ofList (lines.filterMap assignment?)).get? key = some value ↔
      LastSets lines key value := by
  -- from the end, since a later line takes the place of the earlier ones
  induction lines using List.reverseRecOn generalizing value with
  | nil =>
    constructor
    · intro kept
      cases kept
    · rintro ⟨earlier, last, later, split, -⟩
      simp at split
  | append_singleton lines line ih =>
    have sets : ∀ value, Sets line key value ↔ assignment? line = some (key, value) :=
      fun value => assignment?_eq_some_iff.symm
    simp only [lastSets_append_singleton, sets, ← ih, List.filterMap_append, Table.ofList,
      List.foldl_append]
    cases set : assignment? line with
    | none => simp [set]
    | some binding =>
      obtain ⟨name, new⟩ := binding
      by_cases same : name = key
      · simp [set, Table.get?_insert, same]
      · simp [set, Table.get?_insert, same]

theorem LastSets.unique {other : List Char} (sets : LastSets lines key value)
    (setsOther : LastSets lines key other) : value = other := by
  rw [← get?_ofList_eq_some_iff] at sets setsOther
  exact Option.some.inj (sets.symm.trans setsOther)

/-! ## What values mean -/

/-- A value is a path. -/
def IsPath (value : List Char) (path : Option String) : Prop :=
  value ≠ [] ∧ some (String.ofList value) = path

/-- A value is the name of a language, in lower case. -/
def IsLanguage (value : List Char) (language : Option String) : Prop :=
  value ≠ [] ∧ some (String.ofList (Unicode.lowercaseAfter [] value)) = language

/-- A value is a number of 64 bits in decimal digits, with or without a plus sign. -/
def IsNumber (value : List Char) (number : Nat) : Prop :=
  ∃ digits, (value = digits ∨ value = '+' :: digits) ∧ digits ≠ [] ∧
    (∀ c ∈ digits, c.isDigit = true) ∧
    Nat.ofDigits 10 (digits.reverse.map fun c => c.toNat - '0'.toNat) = number ∧ number < 2 ^ 64

/-- A value is a depth, which is taken as 1 if it is less and as 64 if it is more. -/
def IsDepth (value : List Char) (depth : Nat) : Prop :=
  ∃ number, IsNumber value number ∧ min (max number 1) 64 = depth

/-- The words for yes and for no. -/
def wordsFor : Bool → List String
  | true => ["true", "yes", "on", "1"]
  | false => ["false", "no", "off", "0"]

/-- A value is a word for yes or no, in upper or lower case. -/
def Answers (value : List Char) (answer : Bool) : Prop :=
  String.ofList (Unicode.lowercaseAfter [] value) ∈ wordsFor answer

/-- A value turns a switch on or off.  It is off unless the value says yes. -/
def Switches (value : List Char) (answer : Bool) : Prop :=
  Answers value answer ∨ answer = false ∧ ∀ other, ¬Answers value other

/-- A text is a name and a language that it is another name for. -/
def IsPair (pair : List Char) (names : String × String) : Prop :=
  ∃ name language, pair = name ++ '=' :: language ∧ '=' ∉ name ∧
    Text.trim name ≠ [] ∧ Text.trim language ≠ [] ∧
    (String.ofList (Unicode.lowercaseAfter [] (Text.trim name)),
      String.ofList (Unicode.lowercaseAfter [] (Text.trim language))) = names

/-- A value consists of pairs with commas between them, apart from blank parts. -/
def IsAliases (value : List Char) (aliases : List (String × String)) : Prop :=
  ∃ parts, parts ≠ [] ∧ [','].intercalate parts = value ∧ (∀ part ∈ parts, ',' ∉ part) ∧
    List.Forall₂ IsPair ((parts.map Text.trim).filter (!·.isEmpty)) aliases

theorem foldl_digits (digits : List Char) :
    digits.foldl (fun number c => 10 * number + (c.toNat - '0'.toNat)) 0 =
      Nat.ofDigits 10 (digits.reverse.map fun c => c.toNat - '0'.toNat) := by
  rw [Nat.ofDigits_eq_foldr, List.foldr_map, List.foldr_reverse]
  congr 1
  funext number c
  exact Nat.add_comm _ _

/-- A number without the plus sign that it may have. -/
def withoutPlus (value : List Char) : List Char :=
  match value with
  | '+' :: digits => digits
  | digits => digits

theorem withoutPlus_eq_iff {digits : List Char} (each : ∀ c ∈ digits, c.isDigit = true) :
    withoutPlus value = digits ↔ value = digits ∨ value = '+' :: digits := by
  unfold withoutPlus
  split
  · rename_i digits'
    constructor
    · rintro rfl
      exact .inr rfl
    · rintro (rfl | same)
      · exact absurd (each '+' List.mem_cons_self) (by decide)
      · exact (List.cons.inj same).2
  · rename_i unsigned
    exact ⟨.inl, fun same => same.resolve_right fun signed => unsigned digits signed⟩

theorem number?_eq_some_iff {number : Nat} :
    number? value = some number ↔ IsNumber value number := by
  have unfolded : number? value =
      if (withoutPlus value).isEmpty ∨ !(withoutPlus value).all Char.isDigit then none
      else
        let number := (withoutPlus value).foldl
          (fun number c => 10 * number + (c.toNat - '0'.toNat)) 0
        if number < Nat.pow 2 64 then some number else none := rfl
  rw [unfolded, foldl_digits]
  constructor
  · intro reads
    split at reads
    · cases reads
    · rename_i digits
      dsimp only at reads
      split at reads
      · rename_i small
        obtain ⟨some, each⟩ : withoutPlus value ≠ [] ∧
            ∀ c ∈ withoutPlus value, c.isDigit = true := by
          simpa using digits
        cases reads
        exact ⟨_, (withoutPlus_eq_iff each).mp rfl, some, each, rfl, small⟩
      · cases reads
  · rintro ⟨digits, signed, some, each, rfl, small⟩
    obtain rfl := (withoutPlus_eq_iff each).mpr signed
    have digits : ¬((withoutPlus value).isEmpty = true ∨
        (!(withoutPlus value).all Char.isDigit) = true) := by
      simpa using ⟨some, each⟩
    rw [if_neg digits]
    exact if_pos small

/-- No word is for both yes and no. -/
theorem not_answers_false (yes : Answers value true) : ¬Answers value false := by
  have apart : ∀ word ∈ wordsFor true, word ∉ wordsFor false := by decide
  exact apart _ yes

theorem isYes_eq_iff {answer : Bool} : isYes value = answer ↔ Switches value answer := by
  have yes : isYes value = true ↔ Answers value true := by
    simp [isYes, Answers, wordsFor]
  cases answer with
  | true => simp [yes, Switches]
  | false =>
    rw [← Bool.not_eq_true, yes]
    constructor
    · intro notYes
      by_cases no : Answers value false
      · exact .inl no
      · exact .inr ⟨rfl, fun other => by cases other <;> assumption⟩
    · rintro (no | ⟨-, neither⟩) answered
      · exact not_answers_false answered no
      · exact neither true answered

theorem aliasPair?_eq_some_iff {pair : List Char} {names : String × String} :
    aliasPair? pair = some names ↔ IsPair pair names := by
  simp only [aliasPair?, Option.bind_eq_bind, Option.bind_eq_some_iff, Prod.exists,
    Text.splitFirst?_eq_some_iff, Option.ite_none_left_eq_some, not_or, List.isEmpty_iff,
    Option.some.injEq, IsPair, and_assoc, ne_eq]

/-- All pairs can be read if each of them can. -/
theorem mapM_aliasPair?_eq_some_iff {pairs : List (List Char)}
    {aliases : List (String × String)} :
    pairs.mapM aliasPair? = some aliases ↔ List.Forall₂ IsPair pairs aliases := by
  induction pairs generalizing aliases with
  | nil => simp [eq_comm]
  | cons pair pairs ih =>
    simp only [List.mapM_cons, Option.bind_eq_bind, Option.bind_eq_some_iff, Option.pure_def,
      Option.some.injEq, aliasPair?_eq_some_iff, ih, List.forall₂_cons_left_iff]
    constructor
    · rintro ⟨names, isPair, others, arePairs, rfl⟩
      exact ⟨names, others, isPair, arePairs, rfl⟩
    · rintro ⟨names, others, isPair, arePairs, rfl⟩
      exact ⟨names, isPair, others, arePairs, rfl⟩

theorem aliases?_eq_some_iff {aliases : List (String × String)} :
    aliases? value = some aliases ↔ IsAliases value aliases := by
  rw [aliases?, mapM_aliasPair?_eq_some_iff]
  constructor
  · intro pairs
    obtain ⟨some, joined, without⟩ := Text.splitAll_eq_iff.mp rfl
    exact ⟨Text.splitAll ',' value, some, joined, without, pairs⟩
  · rintro ⟨parts, some, joined, without, pairs⟩
    rwa [Text.splitAll_eq_iff.mpr ⟨some, joined, without⟩]

/-! ## What lines mean -/

variable {α : Type}

/-- A setting is what the last value of its key means, and as it is by default if there is none or
if it means nothing. -/
def Follows (lines : List (List Char)) (key : String) (means : List Char → α → Prop)
    (default actual : α) : Prop :=
  (∃ value, LastSets lines key.toList value ∧ means value actual) ∨
    actual = default ∧ ∀ value, LastSets lines key.toList value → ∀ meant, ¬means value meant

/-- Settings are what some lines mean, for what values mean for a switch. -/
@[mk_iff]
structure MadeBy (lines : List (List Char)) (switches : List Char → Bool → Prop)
    (settings : Settings) : Prop where
  modesDirectory : Follows lines "modes-dir" IsPath none settings.modesDirectory
  defaultLanguage : Follows lines "default-language" IsLanguage none settings.defaultLanguage
  highlightUrls : Follows lines "highlight-urls" switches true settings.highlightUrls
  maxDelegationDepth : Follows lines "max-delegation-depth" IsDepth 16 settings.maxDelegationDepth
  trace : Follows lines "trace" switches false settings.trace
  colorOutput : Follows lines "color-output" switches true settings.colorOutput
  aliases : Follows lines "language-alias" IsAliases [] settings.aliases

/-- A setting follows its key exactly if it is what is read, if that is what is meant. -/
theorem follows_iff {reads : List Char → Option α} {means : List Char → α → Prop}
    (decides : ∀ {value meant}, reads value = some meant ↔ means value meant) (text : List Char)
    (key : String) (default actual : α) : Follows (Text.lines text) key means default actual ↔
      actual = (((assignments text).get? key.toList).bind reads).getD default := by
  have kept : ∀ value, LastSets (Text.lines text) key.toList value ↔
      (assignments text).get? key.toList = some value := fun value => get?_ofList_eq_some_iff.symm
  simp only [Follows, kept, ← decides]
  cases (assignments text).get? key.toList with
  | none => simp
  | some value => cases read : reads value <;> simp [read, eq_comm]

/-- What is not empty is read as it is. -/
theorem map_nonEmpty? (values : Table (List Char) (List Char)) (key : String)
    (read : List Char → String) : (nonEmpty? values key).map read =
      ((values.get? key.toList).bind fun value =>
        if value = [] then none else some (some (read value))).getD none := by
  unfold nonEmpty?
  cases values.get? key.toList with
  | none => rfl
  | some value => cases value <;> rfl

/-- A switch follows its key if it is off whenever the value does not say yes. -/
theorem follows_switches_iff (text : List Char) (key : String) (default actual : Bool) :
    Follows (Text.lines text) key Switches default actual ↔
      actual = (((assignments text).get? key.toList).map isYes).getD default := by
  rw [Option.map_eq_bind]
  exact follows_iff (by simp [isYes_eq_iff]) text key default actual

/-- The settings that some lines mean are those of the text, if what does not say yes turns a switch
off. -/
theorem madeBy_switches_iff (text : String) (settings : Settings) :
    settings.MadeBy (Text.lines text.toList) Switches ↔ settings = ofText text := by
  have path (actual : Option String) :
      Follows (Text.lines text.toList) "modes-dir" IsPath none actual ↔
        actual = (ofText text).modesDirectory := by
    rw [ofText, map_nonEmpty? _ "modes-dir"]
    exact follows_iff (by simp [IsPath]) _ _ _ _
  have language (actual : Option String) :
      Follows (Text.lines text.toList) "default-language" IsLanguage none actual ↔
        actual = (ofText text).defaultLanguage := by
    rw [ofText, map_nonEmpty? _ "default-language"]
    exact follows_iff (by simp [IsLanguage]) _ _ _ _
  have depth (actual : Nat) :
      Follows (Text.lines text.toList) "max-delegation-depth" IsDepth 16 actual ↔
        actual = (ofText text).maxDelegationDepth := by
    rw [ofText, Option.map_bind]
    exact follows_iff (by simp [number?_eq_some_iff, IsDepth, deepest]) _ _ _ _
  have aliases (actual : List (String × String)) :
      Follows (Text.lines text.toList) "language-alias" IsAliases [] actual ↔
        actual = (ofText text).aliases := follows_iff aliases?_eq_some_iff _ _ _ _
  rw [madeBy_iff, path, language, depth, aliases, follows_switches_iff, follows_switches_iff,
    follows_switches_iff]
  cases settings
  simp only [ofText, mk.injEq]

/-- A switch that is off unless told otherwise is as its answer says; one that is on needs an answer
if its key is set. -/
theorem Follows.answers_iff {default actual : Bool} {key : String}
    (follows : Follows lines key Switches default actual) :
    Follows lines key Answers default actual ↔ (default = true →
      ∀ value, LastSets lines key.toList value → ∃ answer, Answers value answer) := by
  constructor
  · rintro (⟨value, sets, answers⟩ | ⟨rfl, none⟩) isOn other setsOther
    · exact ⟨actual, sets.unique setsOther ▸ answers⟩
    · -- a switch that is on by default was turned off by what is no answer
      exfalso
      have off : Switches other false := .inr ⟨rfl, none other setsOther⟩
      rcases follows with ⟨value, sets, answers | ⟨isOff, -⟩⟩ | ⟨-, neither⟩
      · exact none value sets actual answers
      · cases isOn.symm.trans isOff
      · exact neither other setsOther false off
  · intro answered
    rcases follows with ⟨value, sets, answers | ⟨rfl, none⟩⟩ | ⟨same, none⟩
    · exact .inl ⟨value, sets, answers⟩
    · cases default with
      | true =>
        obtain ⟨answer, answers⟩ := answered rfl value sets
        exact absurd answers (none answer)
      | false => exact .inr ⟨rfl, fun other setsOther => sets.unique setsOther ▸ none⟩
    · exact .inr ⟨same, fun value sets meant answers => none value sets meant (.inl answers)⟩

/-- Whatever the text: its settings are the ones that its lines mean, if what does not say yes turns
a switch off.  If what is no answer leaves a switch as it is by default, they are so exactly if the
last values of the two switches that are on by default are answers. -/
theorem ofText_madeBy (text : String) :
    let lines := Text.lines text.toList
    (∀ settings : Settings, settings.MadeBy lines Switches ↔ settings = ofText text) ∧
      ((ofText text).MadeBy lines Answers ↔
        ∀ key ∈ ["highlight-urls", "color-output"], ∀ value,
          LastSets lines key.toList value → ∃ answer, Answers value answer) := by
  intro lines
  refine ⟨madeBy_switches_iff text, ?_⟩
  obtain ⟨path, language, urls, depth, trace, color, aliases⟩ :=
    (madeBy_switches_iff text (ofText text)).mpr rfl
  rw [madeBy_iff, urls.answers_iff, trace.answers_iff, color.answers_iff]
  simp [lines, path, language, depth, aliases]

/-- `maybe` is no answer, but addresses are not looked for. -/
theorem not_ofText_madeBy :
    ¬∀ text : String, (ofText text).MadeBy (Text.lines text.toList) Answers := by
  intro always
  have off : (ofText "highlight-urls = maybe").highlightUrls = false := by decide +kernel
  have follows := (always "highlight-urls = maybe").highlightUrls
  rw [off] at follows
  rcases follows with ⟨value, sets, answers⟩ | ⟨same, -⟩
  · have last : LastSets (Text.lines "highlight-urls = maybe".toList) "highlight-urls".toList
        "maybe".toList := get?_ofList_eq_some_iff.mp (by decide +kernel)
    obtain rfl := last.unique sets
    exact absurd answers (by unfold Answers; decide +kernel)
  · cases same

end Highlighter.Settings
