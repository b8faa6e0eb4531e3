import Highlighter.Line.Run
import Highlighter.Proofs.Guarded.Directives

/-!
# Tagging ranges under guard

The loops over a range of a line, in byte offsets.  Besides the cuts of the line, what is guarded
here is that every match takes at least one byte and ends between characters, that no loop goes
through more rounds than allowed, and that no more ranges are delegated inside each other than there
are levels.  The marks on a guarded canvas are in bytes.

`Mirrors` says of a piece of work under guard that it does not break off and comes to what the work
without guard comes to, in bytes, as long as the modes that are known try their matchers where these
can be tried.
-/

namespace Highlighter.Guarded

open Text
open Line (Canvas Delegation Painting Run)

/-- What a run may use up. -/
structure Limits where
  /-- The rounds of a loop. -/
  rounds : Nat
  /-- The ranges that are delegated inside each other. -/
  levels : Nat

/-- Nothing comes of it unless a match takes at least one byte and ends between characters. -/
def behind? (text : List Char) (offset width : Nat) : Option Nat :=
  if 0 < width && (columnAt? text (offset + width)).isSome then some (offset + width) else none

/-- Adds a mark in bytes, cut at the end of the line (`LineRun.set_tag`). -/
def add (text : List Char) (start stop : Nat) (tag : Tag) (canvas : Canvas) : Canvas :=
  let stop := min stop (byteLength text)
  if stop ≤ start ∨ tag = .null then canvas
  else { canvas with marks := canvas.marks ++ [⟨start, stop, tag⟩] }

/-- A way to tag a range under guard. -/
abbrev Delegation? := (name : String) → (start stop : Nat) → (fallback : Tag) → Canvas →
  Option Canvas

/-- Tags a range as a verdict asks for (the tagging in `LineRun.color_range`). -/
def paint? (text : List Char) (delegation : Delegation?) (painting : Painting) (canvas : Canvas) :
    Option Canvas :=
  let stop := min painting.stop (byteLength text)
  match painting.delegate with
  | some name => delegation name painting.start stop painting.tag canvas
  | none =>
    some (if painting.silent then canvas else add text painting.start stop painting.tag canvas)

/-- Tags the text that no rule matched. -/
def fill (text : List Char) (fallback : Tag) (unclaimed : Option Nat) (stop : Nat)
    (canvas : Canvas) : Canvas :=
  match unclaimed with
  | some start => add text start stop fallback canvas
  | none => canvas

/-- Goes through a range from an offset up to `stop` under the rules of a mode (the loop of
`LineRun.run_range`). -/
def tagRange? (text : List Char) (mode : Mode) (fallback : Tag) (delegation : Delegation?)
    (limit stop : Nat) : (rounds offset : Nat) → (unclaimed : Option Nat) → Canvas → Option Canvas
  | 0, _, _, _ => none
  | rounds + 1, offset, unclaimed, canvas =>
    if min stop (byteLength text) ≤ offset then
      some (fill text fallback unclaimed (min offset stop) canvas)
    else do
      let rest ← from? text offset
      let c ← rest.head?
      let claim ← firstClaim? limit mode text offset (mode.matchersAt c)
      match claim with
      | none =>
        tagRange? text mode fallback delegation limit stop rounds (offset + c.utf8Size)
          (some (unclaimed.getD offset)) canvas
      | some (width, paintings) => do
        let canvas := fill text fallback unclaimed offset canvas
        let canvas ← paintings.foldlM (fun canvas painting =>
          paint? text delegation painting canvas) canvas
        let next ← behind? text offset width
        tagRange? text mode fallback delegation limit stop rounds next none canvas

/-- Tags the range `[start, stop)` by a mode, `depth` ranges deep already (`LineRun.run_range`). -/
def delegate? (options : Options) (rounds : Nat) (text : List Char) :
    (levels depth : Nat) → Delegation?
  | 0, depth => fun _ start stop fallback canvas =>
    if options.maxDelegationDepth ≤ depth then some (add text start stop fallback canvas) else none
  | levels + 1, depth => fun name start stop fallback canvas =>
    if options.maxDelegationDepth ≤ depth then some (add text start stop fallback canvas)
    else
      let (mode, registry) := canvas.registry.resolve name
      tagRange? text mode (mode.defaultTag.getD fallback)
        (delegate? options rounds text levels (depth + 1)) rounds stop rounds start none
        { canvas with registry }

/-- Tags addresses in a range (`LineRun.sweep_urls`). -/
def sweepUrls? (text : List Char) (start stop : Nat) (canvas : Canvas) : Option Canvas :=
  if stop ≤ start then some canvas
  else do
    let part ← slice? text start stop
    some ((Line.Url.findFrom 0 0 part).foldl (fun canvas (first, last) =>
      add text (start + Text.byteOffset part first) (start + Text.byteOffset part last) .url canvas)
      canvas)

/-- Tags a range, and the addresses in it. -/
def paintCanvas? (limits : Limits) (options : Options) (text : List Char) (painting : Painting)
    (canvas : Canvas) : Option Canvas := do
  let canvas ← paint? text (delegate? options limits.rounds text limits.levels 0) painting canvas
  if painting.tag ≠ .url ∧ options.highlightUrls then
    sweepUrls? text painting.start (min painting.stop (byteLength text)) canvas
  else some canvas

/-! ## Mirrored work -/

/-- A mark in bytes. -/
def markInBytes (text : List Char) (mark : Mark) : Mark :=
  ⟨byteOffset text mark.start, byteOffset text mark.stop, mark.tag⟩

/-- A canvas with its marks in bytes. -/
def canvasInBytes (text : List Char) (canvas : Canvas) : Canvas :=
  { canvas with marks := canvas.marks.map (markInBytes text) }

/-- A mark is a range of the line with some text, and a tag that is not plain. -/
structure Proper (text : List Char) (mark : Mark) : Prop where
  some : mark.start < mark.stop
  onLine : mark.stop ≤ text.length
  tagged : mark.tag ≠ .null

/-- The modes that are known try their matchers where these can be tried, and the marks so far are
proper. -/
structure CanvasFits (text : List Char) (canvas : Canvas) : Prop where
  known : canvas.registry.Consists FitsAt
  marks : ∀ mark ∈ canvas.marks, Proper text mark

/-- Work under guard that comes to the same, in bytes, as work without, and never breaks off. -/
structure Mirrors (text : List Char) (guarded : Canvas → Option Canvas) (work : Canvas → Canvas) :
    Prop where
  same : ∀ {canvas : Canvas}, CanvasFits text canvas →
    guarded (canvasInBytes text canvas) = some (canvasInBytes text (work canvas))
  keeps : ∀ {canvas : Canvas}, CanvasFits text canvas → CanvasFits text (work canvas)

namespace Mirrors

variable {text : List Char}

theorem id : Mirrors text some fun canvas => canvas where
  same := fun _ => rfl
  keeps := fun fits => fits

/-- Two pieces of work in a row are mirrored if both are. -/
theorem comp {first? second? : Canvas → Option Canvas} {first second : Canvas → Canvas}
    (one : Mirrors text first? first) (two : Mirrors text second? second) :
    Mirrors text (fun canvas => (first? canvas).bind second?)
      fun canvas => second (first canvas) where
  same := by
    intro canvas fits
    rw [one.same fits, Option.bind_some, two.same (one.keeps fits)]
  keeps := fun fits => two.keeps (one.keeps fits)

theorem foldlM {α : Type} {work? : Canvas → α → Option Canvas} {work : Canvas → α → Canvas}
    (items : List α) (each : ∀ item ∈ items, Mirrors text (work? · item) (work · item)) :
    Mirrors text (items.foldlM work? ·) (items.foldl work ·) := by
  induction items with
  | nil => exact .id
  | cons item items ih =>
    exact (each item List.mem_cons_self).comp
      (ih fun other member => each other (List.mem_cons_of_mem _ member))

end Mirrors

variable {text : List Char} {column start stop : Nat}

theorem min_inBytes (text : List Char) (stop : Nat) :
    min (byteOffset text stop) (byteLength text) = byteOffset text (min stop text.length) := by
  rw [byteOffset_min_length, Nat.min_eq_left (byteOffset_le_byteLength text stop)]

theorem byteOffset_min (text : List Char) (first second : Nat) :
    min (byteOffset text first) (byteOffset text second) = byteOffset text (min first second) := by
  rcases Nat.le_total first second with order | order
  · rw [Nat.min_eq_left order, Nat.min_eq_left (byteOffset_mono text order)]
  · rw [Nat.min_eq_right order, Nat.min_eq_right (byteOffset_mono text order)]

theorem add_inBytes (text : List Char) (start stop : Nat) (tag : Tag) (canvas : Canvas) :
    add text (byteOffset text start) (byteOffset text stop) tag (canvasInBytes text canvas) =
      canvasInBytes text (canvas.add text start stop tag) := by
  have empty : byteOffset text (min stop text.length) ≤ byteOffset text start ↔
      min stop text.length ≤ start := by
    rw [byteOffset_le_iff]
    omega
  unfold add Canvas.add
  simp only [min_inBytes, empty]
  split
  · rfl
  · simp [canvasInBytes, markInBytes]

theorem add_mirrors (text : List Char) (start stop : Nat) (tag : Tag) :
    Mirrors text (fun canvas => some (add text (byteOffset text start) (byteOffset text stop) tag
      canvas)) (Canvas.add text start stop tag) where
  same := fun _ => congrArg some (add_inBytes ..)
  keeps := by
    intro canvas fits
    unfold Canvas.add
    dsimp only
    split
    · exact fits
    · rename_i proper
      refine ⟨fits.known, fun mark member => ?_⟩
      rcases List.mem_append.mp member with old | new
      · exact fits.marks mark old
      · rw [List.mem_singleton.mp new]
        exact ⟨Nat.not_le.mp fun empty => proper (.inl empty), Nat.min_le_right ..,
          fun null => proper (.inr null)⟩

theorem fill_mirrors (text : List Char) (fallback : Tag) (unclaimed : Option Nat) (stop : Nat) :
    Mirrors text (fun canvas => some (fill text fallback (unclaimed.map (byteOffset text))
      (byteOffset text stop) canvas)) (Canvas.fill text fallback unclaimed stop) := by
  cases unclaimed with
  | none => exact .id
  | some start => exact add_mirrors text start stop fallback

/-- A guarded way to tag ranges that comes to the same as one without guard. -/
def MirrorsAll (text : List Char) (delegation? : Delegation?) (delegation : Delegation) : Prop :=
  ∀ name start stop fallback,
    Mirrors text (delegation? name (byteOffset text start) (byteOffset text stop) fallback)
      (delegation name start stop fallback)

variable {delegation? : Delegation?} {delegation : Delegation}

theorem paint_mirrors (all : MirrorsAll text delegation? delegation) (painting : Painting) :
    Mirrors text (paint? text delegation? (paintingInBytes text painting))
      (Canvas.paint text delegation painting) := by
  unfold paint? Canvas.paint
  simp only [paintingInBytes, min_inBytes]
  cases painting.delegate with
  | some name => exact all name _ _ _
  | none =>
    cases painting.silent with
    | true => exact .id
    | false => exact add_mirrors text _ _ _

theorem paintAll_mirrors (all : MirrorsAll text delegation? delegation)
    (paintings : List Painting) :
    Mirrors text (fun canvas => (paintings.map (paintingInBytes text)).foldlM
      (fun canvas painting => paint? text delegation? painting canvas) canvas)
      (Canvas.paintAll text delegation paintings) := by
  simp only [List.foldlM_map]
  exact .foldlM paintings fun painting _ => paint_mirrors all painting

/-! ## Ranges -/

/-- A loop along a text that leaves characters out one by one goes on behind all of them. -/
theorem loop_skip {α : Type} (loop : Nat → Nat → List Char → α)
    (atEnd : ∀ column skip, loop column skip [] = loop (column + skip) 0 [])
    (leaves : ∀ column skip c rest,
      loop column (skip + 1) (c :: rest) = loop (column + 1) skip rest) (rest : List Char) :
    ∀ column skip, loop column skip rest = loop (column + skip) 0 (rest.drop skip) := by
  induction rest with
  | nil =>
    intro column skip
    rw [List.drop_nil]
    exact atEnd column skip
  | cons c rest ih =>
    rintro column (_ | skip)
    · rfl
    · rw [leaves, ih, List.drop_succ_cons, Nat.add_assoc, Nat.add_comm 1]

/-- What belongs to the match before is passed over. -/
theorem tagRest_skip (line : List Char) (mode : Mode) (fallback : Tag) (delegation : Delegation)
    (stop : Nat) (canvas : Canvas) (rest : List Char) : ∀ column skip,
    Canvas.tagRest line mode fallback delegation stop column skip none canvas rest =
      Canvas.tagRest line mode fallback delegation stop (column + skip) 0 none canvas
        (rest.drop skip) :=
  loop_skip (Canvas.tagRest line mode fallback delegation stop · · none canvas ·)
    (fun _ _ => rfl) (fun _ _ _ _ => rfl) rest

/-- A match that takes at least one character on a line ends between characters. -/
theorem behind?_inBytes {width : Nat} (onLine : column < text.length) (moves : 0 < width) :
    behind? text (byteOffset text column)
        (byteOffset text (column + width) - byteOffset text column) =
      some (byteOffset text (column + width)) := by
  have forward := byteOffset_lt (Nat.lt_add_of_pos_right moves) onLine
  rw [behind?, Nat.add_sub_cancel' (Nat.le_of_lt forward), columnAt?_byteOffset,
    decide_eq_true (Nat.sub_pos_of_lt forward)]
  rfl

/-- Going through a range is mirrored, if it may take a round for each character of the line. -/
theorem tagRange_mirrors (all : MirrorsAll text delegation? delegation) {mode : Mode}
    (fits : mode.Consists FitsAt) (fallback : Tag) {limit : Nat} (enough : text.length + 2 ≤ limit)
    (stop : Nat) (rounds : Nat) : ∀ (column : Nat) (unclaimed : Option Nat),
    text.length + 1 ≤ rounds + min column text.length →
    Mirrors text
      (tagRange? text mode fallback delegation? limit (byteOffset text stop) rounds
        (byteOffset text column) (unclaimed.map (byteOffset text)))
      (Canvas.tagRest text mode fallback delegation stop column 0 unclaimed ·
        (text.drop column)) := by
  induction rounds with
  | zero =>
    intro column unclaimed left
    omega
  | succ rounds ih =>
    intro column unclaimed left
    have ended : byteOffset text (min stop text.length) ≤ byteOffset text column ↔
        min stop text.length ≤ column := by
      rw [byteOffset_le_iff]
      omega
    simp only [tagRange?, min_inBytes, ended]
    by_cases past : min stop text.length ≤ column
    · simp only [if_pos past, byteOffset_min]
      have filled := fill_mirrors text fallback unclaimed (min column stop)
      cases here : text.drop column with
      | nil => exact filled
      | cons c rest =>
        have onLine := lt_length_of_drop here
        simp only [Canvas.tagRest, if_pos (show stop ≤ column by omega)]
        exact filled
    · have onLine : column < text.length := by omega
      have here := List.drop_eq_getElem_cons onLine
      have present : Text.charAt? text column = some text[column] := by
        rw [Text.charAt?, here]
        rfl
      have claims : firstClaim? _ mode text _ _ = _ := firstClaim?_eq fits.matchersAt present enough
      simp only [if_neg past, from?_byteOffset, here, List.head?_cons, Option.bind_eq_bind,
        Option.bind_some, claims, Canvas.tagRest, if_neg (show ¬stop ≤ column by omega)]
      cases claimed : Line.firstClaim? mode text column (mode.matchersAt text[column]) with
      | none =>
        have next := ih (column + 1) (some (unclaimed.getD column)) (by omega)
        rw [byteOffset_succ here] at next
        simpa only [Option.map_none, Option.map_some, Option.getD_map] using next
      | some claim =>
        have moves := firstClaim?_moves fits.matchersAt onLine claimed
        have next := ih (column + claim.1) none (by omega)
        have whole := ((fill_mirrors text fallback unclaimed column).comp
          (paintAll_mirrors all claim.2)).comp next
        simp only [Option.map_some, claimInBytes, behind?_inBytes onLine moves, Option.bind_some,
          tagRest_skip _ _ _ _ _ _ _ (column + 1) (claim.1 - 1), List.drop_drop,
          show column + 1 + (claim.1 - 1) = column + claim.1 by omega]
        exact whole

/-- Resolving a name and going on with its mode is mirrored if what follows is. -/
theorem Mirrors.resolving (name : String) {work? : Mode → Canvas → Option Canvas}
    {work : Mode → Canvas → Canvas}
    (each : ∀ mode, mode.Consists FitsAt → Mirrors text (work? mode) (work mode)) :
    Mirrors text
      (fun canvas => work? (canvas.registry.resolve name).1
        { canvas with registry := (canvas.registry.resolve name).2 })
      fun canvas => work (canvas.registry.resolve name).1
        { canvas with registry := (canvas.registry.resolve name).2 } where
  same := by
    intro canvas fits
    obtain ⟨modeFits, after⟩ := Registry.resolve_consists fitsAt_ofMatchers fits.known name
    let resolved : Canvas := { canvas with registry := (canvas.registry.resolve name).2 }
    exact (each _ modeFits).same (show CanvasFits text resolved from ⟨after, fits.marks⟩)
  keeps := by
    intro canvas fits
    obtain ⟨modeFits, after⟩ := Registry.resolve_consists fitsAt_ofMatchers fits.known name
    let resolved : Canvas := { canvas with registry := (canvas.registry.resolve name).2 }
    exact (each _ modeFits).keeps (show CanvasFits text resolved from ⟨after, fits.marks⟩)

/-- Delegation is mirrored, if there are levels enough for what is left of the allowed depth. -/
theorem delegate_mirrors (options : Options) {rounds : Nat} (enough : text.length + 2 ≤ rounds)
    (levels : Nat) : ∀ depth, options.maxDelegationDepth ≤ levels + depth →
    MirrorsAll text (delegate? options rounds text levels depth)
      (Line.delegate text (options.maxDelegationDepth - depth)) := by
  induction levels with
  | zero =>
    intro depth deep name start stop fallback
    have deepest : options.maxDelegationDepth ≤ depth := by omega
    simp only [delegate?, if_pos deepest, Nat.sub_eq_zero_of_le deepest, Line.delegate]
    exact add_mirrors text start stop fallback
  | succ levels ih =>
    intro depth deep name start stop fallback
    by_cases deepest : options.maxDelegationDepth ≤ depth
    · simp only [delegate?, if_pos deepest, Nat.sub_eq_zero_of_le deepest, Line.delegate]
      exact add_mirrors text start stop fallback
    · have next := ih (depth + 1) (by omega)
      rw [show options.maxDelegationDepth - depth =
        (options.maxDelegationDepth - (depth + 1)) + 1 by omega]
      simp only [delegate?, if_neg deepest, Line.delegate]
      exact .resolving name fun mode fits =>
        tagRange_mirrors next fits (mode.defaultTag.getD fallback) enough stop rounds start none
          (by omega)

/-! ## Addresses -/

/-- Addresses stand where they would in the rest of the text alone. -/
theorem findFrom_shift (text : List Char) : ∀ column other skip : Nat,
    Line.Url.findFrom (column + other) skip text =
      (Line.Url.findFrom other skip text).map
        fun range => (column + range.1, column + range.2) := by
  induction text with
  | nil => exact fun _ _ _ => rfl
  | cons c rest ih =>
    intro column other skip
    cases skip with
    | succ skip => exact ih column (other + 1) skip
    | zero =>
      rw [Line.Url.findFrom, Line.Url.findFrom]
      cases Line.Url.lengthAtStart (c :: rest) with
      | zero => exact ih column (other + 1) 0
      | succ width =>
        simp only [List.map_cons, Nat.add_assoc]
        rw [ih]

/-- Addresses end in the text. -/
theorem findFrom_le (text : List Char) : ∀ column skip : Nat,
    ∀ range ∈ Line.Url.findFrom column skip text,
      range.1 ≤ range.2 ∧ range.2 ≤ column + text.length := by
  induction text with
  | nil => exact fun _ _ _ member => absurd member List.not_mem_nil
  | cons c rest ih =>
    intro column skip range member
    have later : ∀ skip, range ∈ Line.Url.findFrom (column + 1) skip rest →
        range.1 ≤ range.2 ∧ range.2 ≤ column + (c :: rest).length := by
      intro skip member
      have := ih (column + 1) skip range member
      rw [List.length_cons]
      omega
    cases skip with
    | succ skip => exact later skip member
    | zero =>
      have bound := lengthAtStart_le (c :: rest)
      rw [Line.Url.findFrom] at member
      split at member
      · exact later 0 member
      · rename_i width found
        rcases List.mem_cons.mp member with rfl | member
        · rw [found] at bound
          exact ⟨by simp only; omega, by simp only; omega⟩
        · exact later width member

/-- An offset in a part of a line is one on the line. -/
theorem byteOffset_part {column : Nat}
    (inside : column ≤ ((text.take stop).drop start).length) :
    byteOffset text start + byteOffset ((text.take stop).drop start) column =
      byteOffset text (start + column) := by
  rw [List.length_drop, List.length_take] at inside
  rw [byteOffset_add, List.drop_take]
  unfold byteOffset
  rw [List.take_take, Nat.min_eq_left (show column ≤ stop - start by omega)]

theorem sweepUrls_mirrors (text : List Char) (start stop : Nat) :
    Mirrors text (sweepUrls? text (byteOffset text start) (byteOffset text stop))
      (Run.sweepUrls text start stop) := by
  have swept : Mirrors text
      (fun canvas => some ((Line.Url.findFrom 0 0 ((text.take stop).drop start)).foldl
        (fun canvas (first, last) => add text
          (byteOffset text start + byteOffset ((text.take stop).drop start) first)
          (byteOffset text start + byteOffset ((text.take stop).drop start) last) .url canvas)
        canvas))
      (Run.sweepUrls text start stop) := by
    have shifted := findFrom_shift ((text.take stop).drop start) start 0 0
    have bound := findFrom_le ((text.take stop).drop start) 0 0
    unfold Run.sweepUrls Line.Url.findIn
    rw [Nat.add_zero] at shifted
    simp only [shifted, List.foldl_map]
    simp only [← Option.pure_def, ← List.foldlM_pure]
    refine .foldlM _ fun range member => ?_
    have inPart := bound range member
    rw [Nat.zero_add] at inPart
    simp only [byteOffset_part (Nat.le_trans inPart.1 inPart.2), byteOffset_part inPart.2]
    exact add_mirrors text _ _ _
  unfold sweepUrls?
  by_cases empty : byteOffset text stop ≤ byteOffset text start
  · have nothing : (text.take stop).drop start = [] := by
      rw [byteOffset_le_iff] at empty
      refine List.drop_eq_nil_of_le ?_
      rw [List.length_take]
      omega
    rw [nothing] at swept
    simp only [if_pos empty]
    exact swept
  · have order : start ≤ stop := by
      refine Nat.le_of_lt (Nat.not_le.mp fun order => empty (byteOffset_mono text order))
    simp only [if_neg empty, slice?_byteOffset text order, Option.bind_eq_bind, Option.bind_some]
    exact swept

/-- What a line needs for no loop to break off: a round for each place, and a level for each
delegation that the options allow. -/
structure Limits.Suffice (limits : Limits) (options : Options) (text : List Char) : Prop where
  rounds : text.length + 2 ≤ limits.rounds
  levels : options.maxDelegationDepth ≤ limits.levels

theorem paintCanvas_mirrors {limits : Limits} {options : Options}
    (suffice : limits.Suffice options text) (painting : Painting) :
    Mirrors text (paintCanvas? limits options text (paintingInBytes text painting))
      (Run.paintCanvas options text painting) := by
  have all : MirrorsAll text (delegate? options limits.rounds text limits.levels 0)
      (Line.delegate text options.maxDelegationDepth) :=
    delegate_mirrors options suffice.rounds limits.levels 0 suffice.levels
  have painted := paint_mirrors all painting
  have sameTag : (paintingInBytes text painting).tag = painting.tag := rfl
  unfold paintCanvas? Run.paintCanvas
  by_cases swept : painting.tag ≠ .url ∧ options.highlightUrls
  · have whole := painted.comp
      (sweepUrls_mirrors text painting.start (min painting.stop text.length))
    rw [← min_inBytes] at whole
    simp only [sameTag, if_pos swept]
    exact whole
  · simp only [sameTag, if_neg swept]
    exact painted.comp .id

end Highlighter.Guarded
