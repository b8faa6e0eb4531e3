import Highlighter.Proofs.Registry.Gathering

/-!
# Declared keywords are recognised

Keywords are looked up at the characters of the alphabet of a mode, and a word goes as far as this
alphabet.  The alphabet is that of the keywords in the form in which they are kept, while the line
is taken as it is.  So a declared keyword is recognised exactly if its own characters are in the
alphabet: always if case counts, and otherwise if it has no capitals beyond ASCII, or if these come
with another keyword or are declared to be no separators.
-/

namespace Highlighter

/-! ## Alphabets -/

namespace Alphabet

theorem contains_insert (alphabet : Alphabet) (c d : Char) :
    (alphabet.insert c).contains d = true ↔
      alphabet.contains d = true ∨ d = c ∧ c ≠ ' ' ∧ c ≠ '\t' := by
  unfold insert
  split
  · rename_i leftOut
    constructor
    · exact .inl
    · rintro (old | ⟨rfl, noSpace, noTab⟩)
      · exact old
      · exact (leftOut.resolve_left noSpace).resolve_left noTab
  · rename_i new
    simp only [not_or] at new
    simp [contains, new.1, new.2.1, or_assoc]

theorem contains_insertAll (alphabet : Alphabet) (chars : List Char) (c : Char) :
    (alphabet.insertAll chars).contains c = true ↔
      alphabet.contains c = true ∨ c ∈ chars ∧ c ≠ ' ' ∧ c ≠ '\t' := by
  unfold insertAll
  induction chars generalizing alphabet with
  | nil => simp
  | cons d chars ih =>
    rw [List.foldl_cons, ih, contains_insert, or_assoc, List.mem_cons, or_and_right]
    refine or_congr_right (or_congr_left ?_)
    constructor <;>
    · rintro ⟨rfl, visible⟩
      exact ⟨rfl, visible⟩

theorem contains_empty (c : Char) : ({} : Alphabet).contains c = c.isAlphanum := by
  simp [contains]

theorem self_mem_insertAscending (c : Char) (list : List Char) : c ∈ insertAscending c list := by
  induction list with
  | nil => exact List.mem_singleton.mpr rfl
  | cons d rest ih =>
    rw [insertAscending]
    split
    · exact List.mem_cons_self
    · exact List.mem_cons_of_mem _ ih

theorem mem_alphanumeric {c : Char} (alphanum : c.isAlphanum = true) : c ∈ alphanumeric := by
  have digits : ∀ code < 58, 48 ≤ code → Char.ofNat code ∈ alphanumeric := by decide +kernel
  rcases (Bool.or_eq_true _ _).mp alphanum with letter | digit
  · exact mem_toList_of_letter {} letter
  · obtain ⟨low, high⟩ := (Bool.and_eq_true _ _).mp digit
    have code := digits c.toNat (Nat.lt_succ_of_le (of_decide_eq_true high))
      (of_decide_eq_true low)
    rwa [Char.ofNat_toNat] at code

/-- Every character of an alphabet is in its list. -/
theorem mem_toList {alphabet : Alphabet} {c : Char} (has : alphabet.contains c = true) :
    c ∈ alphabet.toList := by
  obtain ⟨extra⟩ := alphabet
  simp only [contains, Bool.or_eq_true, List.contains_iff_mem] at has
  rw [toList]
  induction extra with
  | nil => exact mem_alphanumeric (has.resolve_right List.not_mem_nil)
  | cons d extra ih =>
    rw [List.foldr_cons]
    rcases has with alphanum | further
    · exact subset_insertAscending d _ (ih (.inl alphanum))
    · rcases List.mem_cons.mp further with rfl | later
      · exact self_mem_insertAscending c _
      · exact subset_insertAscending d _ (ih (.inr later))

/-- A text before a character that is not in the alphabet is all that is passed over exactly if it
is in the alphabet. -/
theorem scan_eq_iff {alphabet : Alphabet} {line word rest : List Char} {column : Nat}
    (place : line.drop column = word ++ rest)
    (ends : rest.head?.any alphabet.contains = false) :
    alphabet.scan line column = column + word.length ↔
      ∀ c ∈ word, alphabet.contains c = true := by
  rw [scan, place, Nat.add_left_cancel_iff]
  constructor
  · intro same
    have taken : (word ++ rest).takeWhile alphabet.contains = word :=
      List.append_inj_left List.takeWhile_append_dropWhile same
    have all := List.all_takeWhile (p := alphabet.contains) (l := word ++ rest)
    rwa [taken, List.all_eq_true] at all
  · intro all
    rw [List.takeWhile_append_of_pos all]
    cases rest with
    | nil => simp
    | cons c rest =>
      have outside : alphabet.contains c = false := ends
      simp [outside]

end Alphabet

/-! ## Tables of keywords -/

theorem Table.contains_iff_mem_keys {κ υ : Type} [DecidableEq κ] (table : Table κ υ) (key : κ) :
    table.contains key = true ↔ key ∈ table.keys := by
  simp [contains, get?, keys]

/-- The words that are grouped under tags that there are. -/
def taggedWords (groups : List (String × List String)) : List String :=
  groups.flatMap fun group => if (Tag.ofWord? group.1).isSome then group.2 else []

namespace Mode

theorem contains_foldl_insert (ignoreCase : Bool) (tag : Tag) (words : List String)
    (table : Table (List Char) Tag) (key : List Char) :
    (words.foldl (fun table word => table.insert (wordForm ignoreCase word.toList) tag)
      table).contains key = true ↔
      table.contains key = true ∨ ∃ word ∈ words, wordForm ignoreCase word.toList = key := by
  induction words generalizing table with
  | nil => simp
  | cons word words ih =>
    rw [List.foldl_cons, ih, Table.contains_insert]
    simp only [Bool.or_eq_true, decide_eq_true_eq, List.exists_mem_cons_iff]
    rw [or_comm (a := _ = key), or_assoc]

/-- The keywords of a mode are the words under known tags, in the form in which they are kept. -/
theorem contains_keywordTable (ignoreCase : Bool) (groups : List (String × List String))
    (key : List Char) : (keywordTable ignoreCase groups).contains key = true ↔
      ∃ word ∈ taggedWords groups, wordForm ignoreCase word.toList = key := by
  have nothing : ¬(Table.empty : Table (List Char) Tag).contains key = true := Bool.false_ne_true
  refine Iff.trans ?_ (or_iff_right nothing)
  rw [keywordTable]
  generalize Table.empty = table
  induction groups generalizing table with
  | nil => simp [taggedWords]
  | cons group groups ih =>
    obtain ⟨tagWord, words⟩ := group
    rw [List.foldl_cons, ih]
    cases tagged : Tag.ofWord? tagWord with
    | none => simp [taggedWords, tagged]
    | some tag =>
      simp only [tagged, contains_foldl_insert, taggedWords, List.flatMap_cons,
        Option.isSome_some, if_true, List.mem_append, or_and_right, exists_or, or_assoc]

end Mode

/-! ## The characters of keywords -/

/-- A character of words: an ASCII letter or digit, or what is declared to be no separator, or part
of a keyword in the form in which it is kept. -/
def Ruleset.HasInWords (ruleset : Ruleset) (c : Char) : Prop :=
  c.isAlphanum = true ∨
    (c ∈ ruleset.attributes.noWordSep.toList ∨ ∃ word ∈ taggedWords ruleset.keywords,
      c ∈ Mode.wordForm ruleset.attributes.ignoreCase word.toList) ∧ c ≠ ' ' ∧ c ≠ '\t'

/-- A character of keywords: one of words, or in some languages an apostrophe. -/
def Ruleset.HasInKeywords (ruleset : Ruleset) (language : String) (c : Char) : Prop :=
  ruleset.HasInWords c ∨ c = '\'' ∧ language ∈ Mode.apostropheLanguages

instance (ruleset : Ruleset) : DecidablePred ruleset.HasInWords := fun _ =>
  inferInstanceAs (Decidable (_ ∨ (_ ∨ ∃ word ∈ taggedWords ruleset.keywords, _) ∧ _ ∧ _))

instance (ruleset : Ruleset) (language : String) :
    DecidablePred (ruleset.HasInKeywords language) := fun _ =>
  inferInstanceAs (Decidable (_ ∨ _ ∧ _))

theorem Origin.contains_wordChars (origin : Origin) (c : Char) :
    origin.mode.wordChars.contains c = true ↔ origin.ruleset.HasInWords c := by
  have inKeys : c ∈ (Mode.keywordTable origin.ruleset.attributes.ignoreCase
      origin.ruleset.keywords).keys.flatten ↔ ∃ word ∈ taggedWords origin.ruleset.keywords,
        c ∈ Mode.wordForm origin.ruleset.attributes.ignoreCase word.toList := by
    simp only [List.mem_flatten, ← Table.contains_iff_mem_keys, Mode.contains_keywordTable]
    constructor
    · rintro ⟨_, ⟨word, declared, rfl⟩, member⟩
      exact ⟨word, declared, member⟩
    · rintro ⟨word, declared, member⟩
      exact ⟨_, ⟨word, declared, rfl⟩, member⟩
  rw [Origin.mode, Mode.compile]
  simp only [Alphabet.contains_insertAll, Alphabet.contains_empty, inKeys]
  rw [or_assoc, ← or_and_right, or_comm (a := ∃ _, _), Ruleset.HasInWords]

theorem Origin.contains_keywordChars (origin : Origin) (c : Char) :
    origin.mode.keywordChars.contains c = true ↔
      origin.ruleset.HasInKeywords origin.name.language c := by
  rw [Ruleset.HasInKeywords, ← contains_wordChars, Origin.mode, Mode.compile]
  dsimp only
  split
  · rename_i among
    rw [Alphabet.contains_insert]
    simp [List.contains_iff_mem.mp among]
  · rename_i away
    rw [List.contains_iff_mem] at away
    simp [away]

theorem mem_lowercaseAfter {c : Char} (small : Unicode.lowercaseChar c = [c]) {word : List Char}
    (member : c ∈ word) (before : List Char) : c ∈ Unicode.lowercaseAfter before word := by
  induction word generalizing before with
  | nil => exact member
  | cons d word ih =>
    rw [Unicode.lowercaseAfter, List.mem_append]
    rcases List.mem_cons.mp member with rfl | later
    · have noSigma : c ≠ 'Σ' := by
        rintro rfl
        exact absurd small (by decide +kernel)
      left
      rw [if_neg (by simpa using noSigma), small]
      exact List.mem_singleton.mpr rfl
    · exact .inr (ih later _)

/-- A declared keyword is made up of characters of keywords, if case counts or it has no capitals
beyond ASCII. -/
theorem Ruleset.hasInKeywords_of_declared {ruleset : Ruleset} {word : String} (language : String)
    (declared : word ∈ taggedWords ruleset.keywords) (noSpace : ' ' ∉ word.toList)
    (noTab : '\t' ∉ word.toList)
    (small : ruleset.attributes.ignoreCase = true →
      ∀ c ∈ word.toList, c.isAlphanum = true ∨ Unicode.lowercaseChar c = [c]) :
    ∀ c ∈ word.toList, ruleset.HasInKeywords language c := by
  intro c member
  have kept : c.isAlphanum = true ∨
      c ∈ Mode.wordForm ruleset.attributes.ignoreCase word.toList := by
    cases ignores : ruleset.attributes.ignoreCase with
    | false => exact .inr member
    | true => exact (small ignores c member).imp_right fun same => mem_lowercaseAfter same member []
  have visible : c ≠ ' ' ∧ c ≠ '\t' :=
    ⟨fun space => noSpace (space ▸ member), fun tab => noTab (tab ▸ member)⟩
  exact .inl (kept.imp_right fun inForm => ⟨.inr ⟨word, declared, inForm⟩, visible⟩)

/-! ## Recognising keywords -/

namespace Line

/-- A keyword that stands alone is taken exactly if all of its characters are in the alphabet. -/
theorem keywordsVerdict_eq_taken_iff {mode : Mode} {line word : List Char} {column : Nat}
    {tag : Tag} (keyword : mode.keyword? word = some tag) (notEmpty : word ≠ [])
    (occurs : word <+: line.drop column)
    (starts : (Text.charBefore? line column).any mode.wordChars.contains = false)
    (ends : (Text.charAt? line (column + word.length)).any mode.keywordChars.contains = false) :
    keywordsVerdict mode line column = .taken word.length
        [.paint { start := column, stop := column + word.length, tag }] ↔
      ∀ c ∈ word, mode.keywordChars.contains c = true := by
  obtain ⟨rest, place⟩ := occurs
  have head : rest.head? = Text.charAt? line (column + word.length) := by
    rw [Text.charAt?, ← List.drop_drop, ← place, List.drop_left]
  have width := Alphabet.scan_eq_iff place.symm (head ▸ ends)
  rw [← width]
  unfold keywordsVerdict
  rw [starts, if_neg Bool.false_ne_true]
  have onward : column ≤ mode.keywordChars.scan line column := Nat.le_add_right _ _
  dsimp only
  constructor
  · intro taken
    split at taken
    · cases taken
    · split at taken
      · have same := (Verdict.taken.inj taken).1
        omega
      · split at taken
        · have same := (Verdict.taken.inj taken).1
          omega
        · cases taken
  · intro stop
    have found : (line.take (column + word.length)).drop column = word := by
      rw [List.drop_take, ← place, Nat.add_sub_cancel_left, List.take_left]
    have positive := List.length_pos_iff.mpr notEmpty
    rw [stop, if_neg (by omega), found, keyword, Nat.add_sub_cancel_left]

end Line

/-- Where a word starts keywords are looked up, and it is taken with the tag that it has. -/
def Mode.Recognises (mode : Mode) (line : List Char) (column : Nat) (word : List Char) : Prop :=
  let lookUp := Rule.compile mode.ignoreCase .keywords
  (∃ c ∈ Text.charAt? line column, .rule lookUp ∈ mode.matchersAt c) ∧
    ∃ tag ∈ mode.keyword? word, Line.ruleVerdict mode line column lookUp = .taken word.length
      [.paint { start := column, stop := column + word.length, tag }]

namespace Registry

variable {library : Library} {highlightUrls : Bool} {origin : Origin} {imported : List Origin}
  {mode : Mode}

/-- Take any mode that is put together from a ruleset that looks keywords up, with whatever it
imports, and any keyword of the ruleset without blanks, where it stands alone on any line.  It is
recognised exactly if all of its characters are characters of keywords.  So it is if case counts,
and if it has no capitals beyond ASCII. -/
theorem recognises_declared_iff
    (gathers : Gathers library highlightUrls (origin :: imported) mode)
    (looksUp : ⟨none, .keywords⟩ ∈ origin.ruleset.rules) {word : String}
    (declared : word ∈ taggedWords origin.ruleset.keywords) (notEmpty : word.toList ≠ [])
    (noSpace : ' ' ∉ word.toList) (noTab : '\t' ∉ word.toList) {line : List Char} {column : Nat}
    (occurs : word.toList <+: line.drop column)
    (starts : (Text.charBefore? line column).any mode.wordChars.contains = false)
    (ends : (Text.charAt? line (column + word.toList.length)).any mode.keywordChars.contains =
      false) :
    (mode.Recognises line column word.toList ↔
      ∀ c ∈ word.toList, origin.ruleset.HasInKeywords origin.name.language c) ∧
    ((origin.ruleset.attributes.ignoreCase = true →
        ∀ c ∈ word.toList, c.isAlphanum = true ∨ Unicode.lowercaseChar c = [c]) →
      mode.Recognises line column word.toList) := by
  have ignores : mode.ignoreCase = origin.ruleset.attributes.ignoreCase :=
    (congrArg Mode.ignoreCase gathers.attributes :)
  have keywords : mode.keywords = origin.mode.keywords :=
    (congrArg Mode.keywords gathers.attributes :)
  have same : mode.keywordChars = origin.mode.keywordChars :=
    (congrArg Mode.keywordChars gathers.attributes :)
  obtain ⟨tag, keyword⟩ : ∃ tag, mode.keyword? word.toList = some tag := by
    have kept := (Mode.contains_keywordTable origin.ruleset.attributes.ignoreCase _ _).mpr
      ⟨word, declared, rfl⟩
    rw [Mode.keyword?, keywords, ignores]
    exact Option.isSome_iff_exists.mp kept
  have exactly : mode.Recognises line column word.toList ↔
      ∀ c ∈ word.toList, origin.ruleset.HasInKeywords origin.name.language c := by
    simp only [← origin.contains_keywordChars, ← same]
    have taken := Line.keywordsVerdict_eq_taken_iff keyword notEmpty occurs starts ends
    constructor
    · rintro ⟨-, other, found, recognised⟩
      obtain rfl : tag = other := Option.some.inj (keyword.symm.trans found)
      exact taken.mp recognised
    · intro all
      obtain ⟨first, more, letters⟩ := List.exists_cons_of_ne_nil notEmpty
      have here : Text.charAt? line column = some first := by
        obtain ⟨rest, place⟩ := occurs
        rw [Text.charAt?, ← place, letters]
        rfl
      have has : origin.mode.keywordChars.contains first = true := by
        rw [← same]
        exact all first (by rw [letters]; exact List.mem_cons_self)
      have listed : .rule (.compile mode.ignoreCase .keywords) ∈ origin.mode.matchersAt first :=
        Mode.mem_compile_matchersAt origin |>.mpr
          ⟨⟨none, .keywords⟩, looksUp, Alphabet.mem_toList has, by rw [ignores]⟩
      exact ⟨⟨first, here, gathers.own_mem_matchersAt listed⟩, tag, keyword, taken.mpr all⟩
  exact ⟨exactly, fun small => exactly.mpr
    (Ruleset.hasInKeywords_of_declared origin.name.language declared noSpace noTab small)⟩

/-- A ruleset that ignores case, with two keywords that have an umlaut. -/
def umlauts : Ruleset where
  keywords := [("keyword1", ["über", "Öl"])]
  rules := [{ spec := .keywords }]

/-- A language of these keywords. -/
def umlautOrigin : Origin where
  name := ⟨"t", "main", ⟨"t_main"⟩⟩
  file := { rulesets := [("main", umlauts)] }
  ruleset := umlauts

/-- The mode of the language. -/
def umlautMode : Mode :=
  assembled false umlautOrigin.name umlautOrigin.file umlauts []

theorem umlautMode_gathers :
    Gathers { files := .ofList [("t", umlautOrigin.file)] } false [umlautOrigin] umlautMode :=
  .assembled umlautOrigin (by decide +kernel) [] (by simp)

/-- A small umlaut is part of words, and a capital one is not. -/
theorem recognises_declared_iff_umlaut :
    umlautMode.Recognises "(über)".toList 1 "über".toList ∧
      ¬umlautMode.Recognises "(Öl)".toList 1 "Öl".toList := by
  have small := recognises_declared_iff umlautMode_gathers (by decide)
    (by decide +kernel : "über" ∈ _) (by decide) (by decide) (by decide)
    (by decide : "über".toList <+: "(über)".toList.drop 1) (by decide +kernel) (by decide +kernel)
  have capital := recognises_declared_iff umlautMode_gathers (by decide)
    (by decide +kernel : "Öl" ∈ _) (by decide) (by decide) (by decide)
    (by decide : "Öl".toList <+: "(Öl)".toList.drop 1) (by decide +kernel) (by decide +kernel)
  have noCapital : "über".toList.all (fun c => c.isAlphanum || Unicode.lowercaseChar c == [c]) := by
    decide +kernel
  constructor
  · refine small.2 fun _ c member => ?_
    simpa using List.all_eq_true.mp noCapital c member
  · intro recognised
    have has := capital.1.mp recognised 'Ö' (by decide)
    exact absurd has (by decide +kernel)

/-- A keyword that starts with a capital beyond ASCII is not recognised where it stands alone, if
case is ignored. -/
theorem not_recognises_declared :
    ¬∀ (library : Library) (highlightUrls : Bool) (origin : Origin) (imported : List Origin)
        (mode : Mode), Gathers library highlightUrls (origin :: imported) mode →
      ⟨none, .keywords⟩ ∈ origin.ruleset.rules →
      ∀ word ∈ taggedWords origin.ruleset.keywords, word.toList ≠ [] →
      ' ' ∉ word.toList → '\t' ∉ word.toList → ∀ (line : List Char) (column : Nat),
      word.toList <+: line.drop column →
      (Text.charBefore? line column).any mode.wordChars.contains = false →
      (Text.charAt? line (column + word.toList.length)).any mode.keywordChars.contains = false →
      mode.Recognises line column word.toList := by
  intro always
  obtain ⟨-, tag, -, taken⟩ := always _ _ _ _ _ umlautMode_gathers (by decide) "Öl"
    (by decide +kernel) (by decide) (by decide) (by decide) "Öl".toList 0 (by decide)
    (by decide +kernel) (by decide +kernel)
  have declined : Line.keywordsVerdict umlautMode "Öl".toList 0 = .declined := by decide +kernel
  rw [Line.ruleVerdict] at taken
  exact absurd (declined.symm.trans taken) (by simp)

end Registry

end Highlighter
