import Highlighter.Text.Basic

/-!
# Boundaries of characters

A text can be cut at the byte offsets at which its characters start and at its end, and nowhere
else.  These offsets are those of the columns of the text, in the same order.
-/

namespace Highlighter.Text

/-- The text from a byte offset on, unless the offset falls inside a character or beyond the end. -/
def from? (text : List Char) (offset : Nat) : Option (List Char) :=
  (columnAt? text offset).map text.drop

/-- The text before a byte offset, unless the offset falls inside a character or beyond the end. -/
def upTo? (text : List Char) (offset : Nat) : Option (List Char) :=
  (columnAt? text offset).map text.take

variable {text : List Char} {column other offset : Nat}

/-! ## Columns -/

/-- The text behind a character. -/
theorem drop_succ {rest : List Char} {c : Char} (here : text.drop column = c :: rest) :
    text.drop (column + 1) = rest := by
  rw [← List.drop_drop, here]
  rfl

theorem length_of_drop {rest : List Char} {c : Char} (here : text.drop column = c :: rest) :
    text.length = column + (rest.length + 1) := by
  have lengths := congrArg List.length here
  rw [List.length_drop, List.length_cons] at lengths
  omega

theorem lt_length_of_drop {rest : List Char} {c : Char} (here : text.drop column = c :: rest) :
    column < text.length := by
  have lengths := length_of_drop here
  omega

theorem charAt?_of_drop {rest : List Char} {c : Char} (here : text.drop column = c :: rest) :
    charAt? text column = some c := by
  rw [charAt?, here]
  rfl

theorem drop_of_charAt? {c : Char} (present : charAt? text column = some c) :
    text.drop column = c :: text.drop (column + 1) := by
  obtain ⟨rest, here⟩ := List.head?_eq_some_iff.mp present
  rw [drop_succ here, here]

theorem lt_length_of_charAt? {c : Char} (present : charAt? text column = some c) :
    column < text.length :=
  lt_length_of_drop (drop_of_charAt? present)

/-! ## Lengths -/

@[simp] theorem byteLength_nil : byteLength [] = 0 := rfl

@[simp] theorem byteLength_cons (c : Char) (text : List Char) :
    byteLength (c :: text) = c.utf8Size + byteLength text := rfl

@[simp] theorem byteLength_append (before behind : List Char) :
    byteLength (before ++ behind) = byteLength before + byteLength behind := by
  induction before with
  | nil => simp
  | cons c before ih => simp [ih, Nat.add_assoc]

theorem byteLength_eq_zero_iff : byteLength text = 0 ↔ text = [] := by
  cases text with
  | nil => simp
  | cons c text =>
    have := c.utf8Size_pos
    simp
    omega

/-! ## Offsets of columns -/

@[simp] theorem byteOffset_zero (text : List Char) : byteOffset text 0 = 0 := rfl

@[simp] theorem byteOffset_cons_succ (c : Char) (text : List Char) (column : Nat) :
    byteOffset (c :: text) (column + 1) = c.utf8Size + byteOffset text column := rfl

@[simp] theorem byteOffset_length (text : List Char) :
    byteOffset text text.length = byteLength text := by
  rw [byteOffset, List.take_length]

theorem byteOffset_min_length (text : List Char) (column : Nat) :
    byteOffset text (min column text.length) = byteOffset text column := by
  rw [byteOffset, byteOffset, ← List.take_take, List.take_length]

theorem byteOffset_add (text : List Char) (column width : Nat) :
    byteOffset text (column + width) =
      byteOffset text column + byteLength ((text.drop column).take width) := by
  rw [byteOffset, List.take_add, byteLength_append]
  rfl

/-- What is in front of a column and what is behind it make up the text. -/
theorem byteOffset_add_drop (text : List Char) (column : Nat) :
    byteOffset text column + byteLength (text.drop column) = byteLength text := by
  rw [byteOffset, ← byteLength_append, List.take_append_drop]

theorem byteOffset_le_byteLength (text : List Char) (column : Nat) :
    byteOffset text column ≤ byteLength text :=
  byteOffset_add_drop text column ▸ Nat.le_add_right ..

theorem byteOffset_mono (text : List Char) (before : column ≤ other) :
    byteOffset text column ≤ byteOffset text other := by
  obtain ⟨width, rfl⟩ := Nat.exists_eq_add_of_le before
  rw [byteOffset_add]
  exact Nat.le_add_right ..

/-- A later column of a text has a later offset. -/
theorem byteOffset_lt (before : column < other) (inside : column < text.length) :
    byteOffset text column < byteOffset text other := by
  obtain ⟨width, rfl⟩ := Nat.exists_eq_add_of_lt before
  rw [Nat.add_assoc, byteOffset_add, List.drop_eq_getElem_cons inside, List.take_succ_cons,
    byteLength_cons]
  have := text[column].utf8Size_pos
  omega

/-- Offsets on a text are in the order of their columns. -/
theorem byteOffset_le_iff (text : List Char) (column other : Nat) :
    byteOffset text column ≤ byteOffset text other ↔
      min column text.length ≤ min other text.length := by
  constructor
  · intro less
    refine Nat.not_lt.mp fun later => ?_
    have greater : byteOffset text (min other text.length) <
        byteOffset text (min column text.length) := byteOffset_lt later (by omega)
    rw [byteOffset_min_length, byteOffset_min_length] at greater
    omega
  · intro before
    rw [← byteOffset_min_length text column, ← byteOffset_min_length text other]
    exact byteOffset_mono text before

/-- The character at a column ends where the next column starts. -/
theorem byteOffset_succ {c : Char} {rest : List Char} (here : text.drop column = c :: rest) :
    byteOffset text (column + 1) = byteOffset text column + c.utf8Size := by
  rw [byteOffset_add, here]
  simp

/-! ## Cutting -/

theorem columnAt?_byteOffset (text : List Char) (column : Nat) :
    columnAt? text (byteOffset text column) = some (min column text.length) := by
  induction text generalizing column with
  | nil => cases column <;> simp [byteOffset, columnAt?]
  | cons c text ih =>
    cases column with
    | zero => simp [columnAt?]
    | succ column =>
      obtain ⟨size, same⟩ := Nat.exists_eq_succ_of_ne_zero (Nat.pos_iff_ne_zero.mp c.utf8Size_pos)
      rw [byteOffset_cons_succ, show c.utf8Size + byteOffset text column =
        (size + byteOffset text column) + 1 by omega, columnAt?, if_pos (by omega),
        show size + byteOffset text column + 1 - c.utf8Size = byteOffset text column by omega, ih]
      simp [Nat.succ_min_succ]

/-- The offsets at which a text can be cut are those of its columns. -/
theorem columnAt?_eq_some_iff :
    columnAt? text offset = some column ↔
      column ≤ text.length ∧ byteOffset text column = offset := by
  constructor
  · intro found
    induction text generalizing column offset with
    | nil =>
      cases offset with
      | zero =>
        cases found
        exact ⟨Nat.le_refl _, rfl⟩
      | succ offset => cases found
    | cons c text ih =>
      cases offset with
      | zero =>
        simp only [columnAt?, Option.some.injEq] at found
        subst found
        exact ⟨Nat.zero_le _, rfl⟩
      | succ offset =>
        simp only [columnAt?] at found
        split at found
        · obtain ⟨place, foundRest, rfl⟩ := Option.map_eq_some_iff.mp found
          obtain ⟨inside, same⟩ := ih foundRest
          refine ⟨Nat.succ_le_succ inside, ?_⟩
          rw [byteOffset_cons_succ, same]
          omega
        · cases found
  · rintro ⟨inside, rfl⟩
    rw [columnAt?_byteOffset, Nat.min_eq_left inside]

@[simp] theorem from?_byteOffset (text : List Char) (column : Nat) :
    from? text (byteOffset text column) = some (text.drop column) := by
  simp only [from?, columnAt?_byteOffset, Option.map_some, Option.some.injEq]
  rcases Nat.le_total column text.length with inside | behind
  · rw [Nat.min_eq_left inside]
  · rw [Nat.min_eq_right behind, List.drop_length, List.drop_eq_nil_of_le behind]

/-- Columns at one offset have the same text behind them. -/
theorem drop_eq_of_byteOffset_eq (same : byteOffset text column = byteOffset text other) :
    text.drop column = text.drop other := by
  have first := from?_byteOffset text column
  rw [same, from?_byteOffset] at first
  exact (Option.some.inj first).symm

@[simp] theorem upTo?_byteOffset (text : List Char) (column : Nat) :
    upTo? text (byteOffset text column) = some (text.take column) := by
  simp only [upTo?, columnAt?_byteOffset, Option.map_some, Option.some.injEq]
  rw [← List.take_take, List.take_length]

/-- What can be cut out of a text stands between two of its columns. -/
theorem slice?_eq_some_iff {first last : Nat} {part : List Char} :
    slice? text first last = some part ↔
      ∃ start stop, start ≤ stop ∧ stop ≤ text.length ∧ byteOffset text start = first ∧
        byteOffset text stop = last ∧ (text.take stop).drop start = part := by
  simp only [slice?, Option.bind_eq_bind, Option.bind_eq_some_iff, columnAt?_eq_some_iff]
  constructor
  · rintro ⟨start, ⟨insideStart, rfl⟩, stop, ⟨inside, rfl⟩, cut⟩
    split at cut
    · rename_i order
      cases cut
      rw [byteOffset_le_iff, Nat.min_eq_left insideStart, Nat.min_eq_left inside] at order
      exact ⟨start, stop, order, inside, rfl, rfl, rfl⟩
    · cases cut
  · rintro ⟨start, stop, order, inside, rfl, rfl, rfl⟩
    refine ⟨start, ⟨Nat.le_trans order inside, rfl⟩, stop, ⟨inside, rfl⟩, ?_⟩
    rw [if_pos (byteOffset_mono text order)]

/-- Between two columns in order a text can be cut out. -/
theorem slice?_byteOffset (text : List Char) {start stop : Nat} (order : start ≤ stop) :
    slice? text (byteOffset text start) (byteOffset text stop) =
      some ((text.take stop).drop start) := by
  rw [slice?_eq_some_iff]
  refine ⟨min start text.length, min stop text.length, by omega, Nat.min_le_right ..,
    byteOffset_min_length .., byteOffset_min_length .., ?_⟩
  rw [← List.take_take, List.take_length]
  rcases Nat.le_total start text.length with inside | behind
  · rw [Nat.min_eq_left inside]
  · rw [Nat.min_eq_right behind, List.drop_eq_nil_of_le, List.drop_eq_nil_of_le]
    · exact Nat.le_trans (List.length_take_le' ..) behind
    · exact List.length_take_le' ..

end Highlighter.Text
