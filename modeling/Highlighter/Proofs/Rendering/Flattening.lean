import Highlighter.Span

/-!
# Flattening is painting

To flatten the events of a line is to paint them one over the other: a byte is in a span if some
event covers it, and the last one that does gives the style.  This holds of all lists of events,
also of those that are empty, turned round or longer than the line.

The ends of the events cut the line into stretches, and no event covers a part of a stretch: it
covers the whole of it or none.  So the style of a stretch is that of each of its bytes.  Joining
touching stretches of one style leaves the style of each byte as it is.
-/

namespace Highlighter

/-- One event is the last of a list that covers a byte. -/
def Event.LastOver (events : List Event) (offset : Nat) (event : Event) : Prop :=
  ∃ before after, events = before ++ event :: after ∧ event.covers offset ∧
    ∀ later ∈ after, later.covers offset = false

/-- The style of the last event that covers a byte. -/
def paintedAt? (events : List Event) (offset : Nat) : Option Style :=
  (events.reverse.find? (·.covers offset)).map (·.tag.style)

/-- The style of the first span that a byte is in. -/
def shownAt? (spans : List Span) (offset : Nat) : Option Style :=
  (spans.find? (·.contains offset)).map (·.style)

variable {length offset : Nat} {events : List Event}

theorem Event.covers_iff {event : Event} :
    event.covers offset ↔ event.start ≤ offset ∧ offset < event.stop := by
  simp [covers]

theorem Span.contains_iff {span : Span} :
    span.contains offset ↔ span.start ≤ offset ∧ offset < span.stop := by
  simp [contains]

theorem lastOver_of_paintedAt? {style : Style} (painted : paintedAt? events offset = some style) :
    ∃ event, Event.LastOver events offset event ∧ style = event.tag.style := by
  obtain ⟨event, found, rfl⟩ := Option.map_eq_some_iff.mp painted
  obtain ⟨covers, after, before, split, none⟩ := List.find?_eq_some_iff_append.mp found
  refine ⟨event, ⟨before.reverse, after.reverse, ?_, covers, ?_⟩, rfl⟩
  · simpa using congrArg List.reverse split
  · intro later member
    simpa using none later (List.mem_reverse.mp member)

theorem paintedAt?_isSome_iff :
    (paintedAt? events offset).isSome ↔ ∃ event ∈ events, event.covers offset := by
  simp [paintedAt?]

theorem paintedAt?_eq_none_iff :
    paintedAt? events offset = none ↔ ∀ event ∈ events, event.covers offset = false := by
  simp [paintedAt?]

theorem shownAt?_isSome_iff {spans : List Span} :
    (shownAt? spans offset).isSome ↔ ∃ span ∈ spans, span.contains offset := by
  simp [shownAt?]

theorem shownAt?_cons (span : Span) (spans : List Span) (offset : Nat) :
    shownAt? (span :: spans) offset =
      if span.contains offset then some span.style else shownAt? spans offset := by
  rw [shownAt?, List.find?_cons]
  cases span.contains offset <;> rfl

/-! ## Cut points -/

theorem mem_insertAscending {n m : Nat} {points : List Nat} :
    m ∈ insertAscending n points ↔ m = n ∨ m ∈ points := by
  induction points with
  | nil => simp [insertAscending]
  | cons point points ih =>
    rw [insertAscending]
    split
    · simp
    · split
      · rename_i same
        subst same
        simp
      · simp only [List.mem_cons, ih]
        exact or_left_comm

theorem insertAscending_ascending (n : Nat) {points : List Nat}
    (ascending : points.Pairwise (· < ·)) : (insertAscending n points).Pairwise (· < ·) := by
  induction points with
  | nil => exact List.pairwise_singleton _ _
  | cons point points ih =>
    obtain ⟨first, rest⟩ := List.pairwise_cons.mp ascending
    rw [insertAscending]
    split
    · rename_i less
      refine List.pairwise_cons.mpr ⟨fun other member => ?_, ascending⟩
      rcases List.mem_cons.mp member with rfl | later
      · exact less
      · exact Nat.lt_trans less (first other later)
    · split
      · exact ascending
      · refine List.pairwise_cons.mpr ⟨fun other member => ?_, ih rest⟩
        rcases mem_insertAscending.mp member with rfl | later
        · omega
        · exact first other later

theorem mem_cutPoints {point : Nat} : point ∈ cutPoints length events ↔
    ∃ event ∈ events, point = min event.start length ∨ point = min event.stop length := by
  induction events with
  | nil => simp [cutPoints]
  | cons event events ih =>
    rw [cutPoints, List.foldr_cons, ← cutPoints, mem_insertAscending, mem_insertAscending, ih]
    simp [or_assoc]

theorem cutPoints_ascending (length : Nat) (events : List Event) :
    (cutPoints length events).Pairwise (· < ·) := by
  induction events with
  | nil => exact .nil
  | cons event events ih => exact insertAscending_ascending _ (insertAscending_ascending _ ih)

theorem cutPoints_le_length {point : Nat} (member : point ∈ cutPoints length events) :
    point ≤ length := by
  obtain ⟨event, -, same⟩ := mem_cutPoints.mp member
  omega

/-! ## Stretches -/

/-- The ends of all events, cut to the length of the line, are among some points or before all of
them. -/
def Cuts (length : Nat) (events : List Event) (start : Nat) (points : List Nat) : Prop :=
  ∀ point ∈ cutPoints length events, point ≤ start ∨ point ∈ points

/-- An event covers a stretch as it covers any byte of the stretch: wholly or not at all. -/
theorem Cuts.covers_eq {start stop : Nat} {points : List Nat}
    (cuts : Cuts length events start (stop :: points))
    (ascending : (stop :: points).Pairwise (· < ·)) (onLine : stop ≤ length)
    (from_start : start ≤ offset) (to_stop : offset < stop) {event : Event}
    (member : event ∈ events) :
    (event.start ≤ start && stop ≤ event.stop) = event.covers offset := by
  have first : ∀ point ∈ points, stop < point := (List.pairwise_cons.mp ascending).1
  have outside : ∀ point ∈ cutPoints length events, point ≤ start ∨ stop ≤ point := by
    intro point cut
    rcases cuts point cut with before | among
    · exact .inl before
    · rcases List.mem_cons.mp among with rfl | later
      · exact .inr (Nat.le_refl _)
      · exact .inr (Nat.le_of_lt (first point later))
  have opens := outside (min event.start length) (mem_cutPoints.mpr ⟨event, member, .inl rfl⟩)
  have closes := outside (min event.stop length) (mem_cutPoints.mpr ⟨event, member, .inr rfl⟩)
  rw [Bool.eq_iff_iff, Event.covers_iff, Bool.and_eq_true, decide_eq_true_eq, decide_eq_true_eq]
  omega

theorem Cuts.styleOver?_eq {start stop : Nat} {points : List Nat}
    (cuts : Cuts length events start (stop :: points))
    (ascending : (stop :: points).Pairwise (· < ·)) (onLine : stop ≤ length)
    (from_start : start ≤ offset) (to_stop : offset < stop) :
    styleOver? events start stop = paintedAt? events offset := by
  have same : ∀ event ∈ events.reverse,
      (event.start ≤ start && stop ≤ event.stop) = event.covers offset := fun event member =>
    cuts.covers_eq ascending onLine from_start to_stop (List.mem_reverse.mp member)
  rw [styleOver?, paintedAt?, ← List.head?_filter, ← List.head?_filter, List.filter_congr same]

theorem Cuts.tail {start stop : Nat} {points : List Nat}
    (cuts : Cuts length events start (stop :: points)) (less : start < stop) :
    Cuts length events stop points := by
  intro point cut
  rcases cuts point cut with before | among
  · exact .inl (Nat.le_trans before (Nat.le_of_lt less))
  · exact (List.mem_cons.mp among).imp_left Nat.le_of_eq

/-- A stretch lies between two of the points. -/
theorem mem_stretches {points : List Nat} {span : Span} (ascending : points.Pairwise (· < ·))
    (member : span ∈ stretches events points) :
    span.start ∈ points ∧ span.stop ∈ points ∧ span.start < span.stop := by
  fun_induction stretches events points with
  | case1 start stop rest others style found ih =>
    obtain ⟨first, ascending⟩ := List.pairwise_cons.mp ascending
    rcases List.mem_cons.mp member with rfl | later
    · exact ⟨by simp, by simp, first stop List.mem_cons_self⟩
    · obtain ⟨isStart, isStop, less⟩ := ih ascending later
      exact ⟨List.mem_cons_of_mem _ isStart, List.mem_cons_of_mem _ isStop, less⟩
  | case2 start stop rest others missing ih =>
    obtain ⟨isStart, isStop, less⟩ := ih (List.pairwise_cons.mp ascending).2 member
    exact ⟨List.mem_cons_of_mem _ isStart, List.mem_cons_of_mem _ isStop, less⟩
  | case3 => exact absurd member List.not_mem_nil

/-- No stretch starts before the first point. -/
theorem le_of_mem_stretches {start : Nat} {points : List Nat} {span : Span}
    (ascending : (start :: points).Pairwise (· < ·))
    (member : span ∈ stretches events (start :: points)) : start ≤ span.start := by
  rcases List.mem_cons.mp (mem_stretches ascending member).1 with same | later
  · exact Nat.le_of_eq same.symm
  · exact Nat.le_of_lt ((List.pairwise_cons.mp ascending).1 _ later)

theorem shownAt?_stretches_of_lt {start : Nat} {points : List Nat}
    (ascending : (start :: points).Pairwise (· < ·)) (before : offset < start) :
    shownAt? (stretches events (start :: points)) offset = none := by
  rw [← Option.not_isSome_iff_eq_none, shownAt?_isSome_iff]
  rintro ⟨span, member, contains⟩
  have := le_of_mem_stretches ascending member
  have := (Span.contains_iff.mp contains).1
  omega

/-- From the first point on each byte has the style of the last event that covers it. -/
theorem shownAt?_stretches {points : List Nat} : ∀ {start : Nat},
    (start :: points).Pairwise (· < ·) → (∀ point ∈ points, point ≤ length) →
    Cuts length events start points → start ≤ offset → offset < length →
    shownAt? (stretches events (start :: points)) offset = paintedAt? events offset := by
  induction points with
  | nil =>
    intro start _ _ cuts from_start onLine
    -- an event that covers the byte would end behind the last point
    refine Eq.symm (paintedAt?_eq_none_iff.mpr fun event member => ?_)
    have closes := cuts (min event.stop length) (mem_cutPoints.mpr ⟨event, member, .inr rfl⟩)
    rw [Bool.eq_false_iff, Ne, Event.covers_iff]
    simp only [List.not_mem_nil, or_false] at closes
    omega
  | cons stop points ih =>
    intro start ascending limited cuts from_start onLine
    obtain ⟨first, rest⟩ := List.pairwise_cons.mp ascending
    have less : start < stop := first stop List.mem_cons_self
    rw [stretches]
    by_cases inside : offset < stop
    · have same := cuts.styleOver?_eq rest (limited stop List.mem_cons_self) from_start inside
      have none : shownAt? (stretches events (stop :: points)) offset = none :=
        shownAt?_stretches_of_lt rest inside
      cases painted : paintedAt? events offset with
      | none => simp only [same, painted, none]
      | some style =>
        have contains : (⟨start, stop, style⟩ : Span).contains offset :=
          Span.contains_iff.mpr ⟨from_start, inside⟩
        simp only [same, painted, shownAt?_cons, contains, if_true]
    · have others := ih rest (fun point later => limited point (List.mem_cons_of_mem _ later))
        (cuts.tail less) (Nat.le_of_not_lt inside) onLine
      cases styleOver? events start stop with
      | none => exact others
      | some style =>
        have behind : (⟨start, stop, style⟩ : Span).contains offset = false := by
          rw [Bool.eq_false_iff, Ne, Span.contains_iff]
          exact fun contains => inside contains.2
        simpa only [shownAt?_cons, behind, Bool.false_eq_true, if_false] using others

/-- Before they are joined, the stretches show each byte as it is painted. -/
theorem shownAt?_stretches_cutPoints (events : List Event) (onLine : offset < length) :
    shownAt? (stretches events (cutPoints length events)) offset = paintedAt? events offset := by
  have ascending := cutPoints_ascending length events
  have limited : ∀ point ∈ cutPoints length events, point ≤ length :=
    fun point member => cutPoints_le_length member
  have cut : ∀ event ∈ events, min event.start length ∈ cutPoints length events :=
    fun event member => mem_cutPoints.mpr ⟨event, member, .inl rfl⟩
  have cuts : ∀ point ∈ cutPoints length events, point ∈ cutPoints length events :=
    fun point member => member
  generalize same : cutPoints length events = points at ascending limited cut cuts ⊢
  cases points with
  | nil =>
    refine Eq.symm (paintedAt?_eq_none_iff.mpr fun event member => ?_)
    exact absurd (cut event member) List.not_mem_nil
  | cons start points =>
    by_cases before : offset < start
    · rw [shownAt?_stretches_of_lt ascending before, Eq.comm, paintedAt?_eq_none_iff]
      intro event member
      have opens : start ≤ min event.start length := by
        rcases List.mem_cons.mp (cut event member) with same | later
        · exact Nat.le_of_eq same.symm
        · exact Nat.le_of_lt ((List.pairwise_cons.mp ascending).1 _ later)
      rw [Bool.eq_false_iff, Ne, Event.covers_iff]
      omega
    · refine shownAt?_stretches ascending
        (fun point later => limited point (List.mem_cons_of_mem _ later)) ?_
        (Nat.le_of_not_lt before) onLine
      intro point member
      exact (List.mem_cons.mp (same ▸ member)).imp_left Nat.le_of_eq

/-! ## Joining -/

namespace Span

/-- Spans that hold something and follow each other. -/
structure Row (spans : List Span) : Prop where
  holds : ∀ span ∈ spans, span.start < span.stop
  follow : spans.Pairwise fun first second => first.stop ≤ second.start

/-- One span is before another, and where they touch they look different. -/
def Apart (first second : Span) : Prop :=
  first.stop ≤ second.start ∧ (first.stop = second.start → first.style ≠ second.style)

theorem Row.tail {span : Span} {spans : List Span} (row : Row (span :: spans)) : Row spans :=
  ⟨fun other member => row.holds other (List.mem_cons_of_mem _ member),
    (List.pairwise_cons.mp row.follow).2⟩

/-- A span that takes the next one in is in its place. -/
theorem Row.extend {current next : Span} {rest : List Span} (row : Row (current :: next :: rest)) :
    Row ({ current with stop := next.stop } :: rest) where
  holds := by
    intro span member
    rcases List.mem_cons.mp member with rfl | later
    · have first := row.holds current List.mem_cons_self
      have second := row.holds next (by simp)
      have touching := (List.pairwise_cons.mp row.follow).1 next List.mem_cons_self
      dsimp only
      omega
    · exact row.holds span (by simp [later])
  follow := by
    obtain ⟨-, others⟩ := List.pairwise_cons.mp row.follow
    exact List.pairwise_cons.mpr ⟨(List.pairwise_cons.mp others).1, row.tail.tail.follow⟩

/-- What comes of joining starts with the first span, in its style, and goes on behind it. -/
theorem Row.mem_joinOnto {current : Span} {rest : List Span} (row : Row (current :: rest))
    {span : Span} (member : span ∈ joinOnto current rest) :
    span.start = current.start ∧ span.style = current.style ∨ current.stop ≤ span.start := by
  fun_induction joinOnto current rest with
  | case1 current =>
    rw [List.mem_singleton.mp member]
    exact .inl ⟨rfl, rfl⟩
  | case2 current next rest touching ih =>
    refine (ih row.extend member).imp_right fun behind => ?_
    have := row.holds next (by simp)
    have : next.stop ≤ span.start := behind
    omega
  | case3 current next rest apart ih =>
    have follows := (List.pairwise_cons.mp row.follow).1 next List.mem_cons_self
    rcases List.mem_cons.mp member with rfl | later
    · exact .inl ⟨rfl, rfl⟩
    · have := row.holds next (by simp)
      have := ih row.tail later
      omega

/-- Joined spans hold something, and touch only where they look different. -/
theorem Row.joinOnto_apart {current : Span} {rest : List Span} (row : Row (current :: rest)) :
    (∀ span ∈ joinOnto current rest, span.start < span.stop) ∧
      (joinOnto current rest).Pairwise Apart := by
  fun_induction joinOnto current rest with
  | case1 current => exact ⟨row.holds, List.pairwise_singleton _ _⟩
  | case2 current next rest touching ih => exact ih row.extend
  | case3 current next rest apart ih =>
    obtain ⟨holds, others⟩ := ih row.tail
    have follows := (List.pairwise_cons.mp row.follow).1 next List.mem_cons_self
    have nextHolds := row.holds next (by simp)
    refine ⟨fun span member => ?_, List.pairwise_cons.mpr ⟨fun span member => ?_, others⟩⟩
    · rcases List.mem_cons.mp member with rfl | later
      · exact row.holds span List.mem_cons_self
      · exact holds span later
    · rcases row.tail.mem_joinOnto member with ⟨same, style⟩ | behind
      · rw [Apart, same, style]
        exact ⟨follows, fun touching looks => apart ⟨touching, looks⟩⟩
      · exact ⟨by omega, fun touching => by omega⟩

/-- Joining makes no new ends: a joined span starts where some span does, and stops where some span
does. -/
theorem ends_of_mem_joinOnto {current : Span} {rest : List Span} {span : Span}
    (member : span ∈ joinOnto current rest) :
    (∃ other ∈ current :: rest, span.start = other.start) ∧
      ∃ other ∈ current :: rest, span.stop = other.stop := by
  fun_induction joinOnto current rest with
  | case1 current => exact ⟨⟨span, member, rfl⟩, span, member, rfl⟩
  | case2 current next rest touching ih =>
    obtain ⟨⟨opening, amongOpening, start⟩, closing, amongClosing, stop⟩ := ih member
    constructor
    · rcases List.mem_cons.mp amongOpening with rfl | later
      · exact ⟨current, List.mem_cons_self, start⟩
      · exact ⟨opening, by simp [later], start⟩
    · rcases List.mem_cons.mp amongClosing with rfl | later
      · exact ⟨next, by simp, stop⟩
      · exact ⟨closing, by simp [later], stop⟩
  | case3 current next rest apart ih =>
    rcases List.mem_cons.mp member with rfl | later
    · exact ⟨⟨span, List.mem_cons_self, rfl⟩, span, List.mem_cons_self, rfl⟩
    · obtain ⟨⟨opening, amongOpening, start⟩, closing, amongClosing, stop⟩ := ih later
      exact ⟨⟨opening, List.mem_cons_of_mem _ amongOpening, start⟩, closing,
        List.mem_cons_of_mem _ amongClosing, stop⟩

theorem Row.shownAt?_joinOnto {current : Span} {rest : List Span} (row : Row (current :: rest))
    (offset : Nat) : shownAt? (joinOnto current rest) offset =
      shownAt? (current :: rest) offset := by
  fun_induction joinOnto current rest with
  | case1 current => rfl
  | case2 current next rest touching ih =>
    obtain ⟨touches, looks⟩ := touching
    have first := row.holds current List.mem_cons_self
    have second := row.holds next (by simp)
    rw [ih row.extend, shownAt?_cons, shownAt?_cons, shownAt?_cons, ← looks]
    by_cases inFirst : current.contains offset <;> by_cases inSecond : next.contains offset <;>
      simp only [inFirst, inSecond, if_true] <;>
      simp only [contains_iff] at inFirst inSecond ⊢ <;>
      split <;> first | rfl | omega
  | case3 current next rest apart ih =>
    rw [shownAt?_cons, ih row.tail, ← shownAt?_cons]

end Span

theorem stretches_row {points : List Nat} (ascending : points.Pairwise (· < ·))
    (events : List Event) : Span.Row (stretches events points) := by
  refine ⟨fun span member => (mem_stretches ascending member).2.2, ?_⟩
  fun_induction stretches events points with
  | case1 start stop rest others style found ih =>
    have rest := (List.pairwise_cons.mp ascending).2
    exact List.pairwise_cons.mpr ⟨fun span member => le_of_mem_stretches rest member, ih rest⟩
  | case2 start stop rest others missing ih => exact ih (List.pairwise_cons.mp ascending).2
  | case3 => exact .nil

/-! ## Spans of a line -/

/-- The spans of a line hold something, end on the line, and touch only where they look
different. -/
theorem lineSpans_apart (length : Nat) (events : List Event) :
    (∀ span ∈ lineSpans length events, span.start < span.stop ∧ span.stop ≤ length) ∧
      (lineSpans length events).Pairwise Span.Apart := by
  have ascending := cutPoints_ascending length events
  have row := stretches_row ascending events
  have onLine : ∀ span ∈ stretches events (cutPoints length events), span.stop ≤ length :=
    fun span member => cutPoints_le_length (mem_stretches ascending member).2.1
  rw [lineSpans]
  generalize stretches events (cutPoints length events) = spans at row onLine ⊢
  cases spans with
  | nil => exact ⟨fun _ member => absurd member List.not_mem_nil, .nil⟩
  | cons first rest =>
    obtain ⟨holds, apart⟩ := row.joinOnto_apart
    refine ⟨fun span member => ⟨holds span member, ?_⟩, apart⟩
    obtain ⟨-, other, among, same⟩ := Span.ends_of_mem_joinOnto member
    exact same ▸ onLine other among

/-- The spans of a line show each of its bytes as it is painted. -/
theorem shownAt?_lineSpans (events : List Event) (onLine : offset < length) :
    shownAt? (lineSpans length events) offset = paintedAt? events offset := by
  rw [← shownAt?_stretches_cutPoints events onLine, lineSpans]
  have row := stretches_row (cutPoints_ascending length events) events
  generalize stretches events (cutPoints length events) = spans at row ⊢
  cases spans with
  | nil => rfl
  | cons first rest => exact row.shownAt?_joinOnto offset

/-- Where spans follow each other a byte is shown in the style of any span that it is in. -/
theorem shownAt?_of_contains {spans : List Span}
    (apart : spans.Pairwise fun first second => first.stop ≤ second.start) {span : Span}
    (member : span ∈ spans) (contains : span.contains offset) :
    shownAt? spans offset = some span.style := by
  induction spans with
  | nil => exact absurd member List.not_mem_nil
  | cons first spans ih =>
    obtain ⟨follows, apart⟩ := List.pairwise_cons.mp apart
    rw [shownAt?_cons]
    rcases List.mem_cons.mp member with rfl | later
    · exact if_pos contains
    · have behind : ¬first.contains offset := by
        rw [Span.contains_iff] at contains ⊢
        have := follows span later
        omega
      rw [if_neg behind]
      exact ih apart later

/-- Spans that are apart look different wherever they touch. -/
theorem styles_differ {spans : List Span} (holds : ∀ span ∈ spans, span.start < span.stop)
    (apart : spans.Pairwise Span.Apart) {first second : Span} (isFirst : first ∈ spans)
    (isSecond : second ∈ spans) (touching : first.stop = second.start) :
    first.style ≠ second.style := by
  have firstHolds := holds first isFirst
  have secondHolds := holds second isSecond
  obtain ⟨i, here, rfl⟩ := List.mem_iff_getElem.mp isFirst
  obtain ⟨j, there, rfl⟩ := List.mem_iff_getElem.mp isSecond
  have ordered := List.pairwise_iff_getElem.mp apart
  rcases Nat.lt_trichotomy i j with before | rfl | behind
  · exact (ordered i j here there before).2 touching
  · omega
  · have := (ordered j i there here behind).1
    omega

/-- The spans of a line, whatever the events: they hold something and lie on the line, one behind
the other; a byte of the line is in one of them exactly if some event covers it; the style is that
of the last event that covers the byte; and spans that touch look different. -/
theorem lineSpans_painted (text : List Char) (events : List Event) :
    let spans := lineSpans (Text.byteLength text) events
    (∀ span ∈ spans, span.start < span.stop ∧ span.stop ≤ Text.byteLength text) ∧
      (spans.Pairwise fun first second => first.stop ≤ second.start) ∧
      (∀ offset < Text.byteLength text,
        (∃ span ∈ spans, span.contains offset) ↔ ∃ event ∈ events, event.covers offset) ∧
      (∀ span ∈ spans, ∀ offset, span.contains offset →
        ∃ event, Event.LastOver events offset event ∧ span.style = event.tag.style) ∧
      ∀ first ∈ spans, ∀ second ∈ spans, first.stop = second.start →
        first.style ≠ second.style := by
  intro spans
  obtain ⟨onLine, apart⟩ := lineSpans_apart (Text.byteLength text) events
  have follow : spans.Pairwise fun first second => first.stop ≤ second.start :=
    apart.imp And.left
  refine ⟨onLine, follow, fun offset inText => ?_, fun span member offset contains => ?_, ?_⟩
  · rw [← shownAt?_isSome_iff, shownAt?_lineSpans events inText, paintedAt?_isSome_iff]
  · have inText : offset < Text.byteLength text :=
      Nat.lt_of_lt_of_le (Span.contains_iff.mp contains).2 (onLine span member).2
    have shown := shownAt?_of_contains follow member contains
    rw [shownAt?_lineSpans events inText] at shown
    exact lastOver_of_paintedAt? shown
  · intro first isFirst second isSecond
    exact styles_differ (fun span member => (onLine span member).1) apart isFirst isSecond

-- a comment with an address in it, and a number over its end
example : lineSpans 10 [⟨0, 9, .comment1⟩, ⟨2, 6, .url⟩, ⟨8, 10, .digit⟩] =
    [⟨0, 2, Tag.comment1.style⟩, ⟨2, 6, Tag.url.style⟩, ⟨6, 8, Tag.comment1.style⟩,
      ⟨8, 10, Tag.digit.style⟩] := by decide

end Highlighter
