import TextTemplate.Proofs.Located
import Mathlib.Data.List.DropRight
import Mathlib.Order.Bounds.Basic

/-!
# Lines and columns

The position of a span counts the newlines before it and the characters since the last of them
(`Span.position_eq`). A position is as good as the offset that it was computed from: offsets that
are as many characters into the source have one position, an offset further on has a later one, and
walking to the reported line and column leads back to the offset
(`Span.position_identifies_place`).
-/

namespace TextTemplate

open Text (byteSize IsBoundary)

namespace Position

variable {source before after text : List Char} {bytes : Nat} {position : Position}

/-! ## What a walk passes -/

/-- The walk over the first `bytes` bytes passes `before` and stops in front of `after`. -/
structure Stops (bytes : Nat) (before after : List Char) : Prop where
  within : byteSize before ≤ bytes
  tight : ∀ c, after.head? = some c → bytes < byteSize before + c.utf8Size

theorem stops_cons {c : Char} (fits : c.utf8Size ≤ bytes)
    (stops : Stops (bytes - c.utf8Size) before after) : Stops bytes (c :: before) after := by
  obtain ⟨within, tight⟩ := stops
  constructor
  · rw [Text.byteSize_cons]
    omega
  · intro d head
    have := tight d head
    rw [Text.byteSize_cons]
    omega

theorem exists_stops (bytes : Nat) (source : List Char) :
    ∃ before after, source = before ++ after ∧ Stops bytes before after := by
  induction source generalizing bytes with
  | nil => exact ⟨[], [], rfl, Nat.zero_le _, by simp⟩
  | cons c source ih =>
    by_cases fits : c.utf8Size ≤ bytes
    · obtain ⟨before, after, rfl, stops⟩ := ih (bytes - c.utf8Size)
      exact ⟨c :: before, after, rfl, stops_cons fits stops⟩
    · refine ⟨[], c :: source, rfl, Nat.zero_le _, ?_⟩
      intro d head
      cases head
      simpa using fits

theorem stops_boundary (before after : List Char) : Stops (byteSize before) before after := by
  constructor
  · exact Nat.le_refl _
  · intro c _
    exact Nat.lt_add_of_pos_right c.utf8Size_pos

theorem walk_of_stops (stops : Stops bytes before after) (position : Position) :
    position.walk bytes (before ++ after) = before.foldl advance position := by
  induction before generalizing bytes position with
  | nil =>
    cases after with
    | nil => rfl
    | cons c after =>
      have short := stops.tight c rfl
      rw [Text.byteSize_nil, Nat.zero_add] at short
      simp [walk, Nat.not_le.mpr short]
  | cons c before ih =>
    have within := stops.within
    rw [Text.byteSize_cons] at within
    have later : Stops (bytes - c.utf8Size) before after := by
      constructor
      · omega
      · intro d head
        have := stops.tight d head
        rw [Text.byteSize_cons] at this
        omega
    have fits : c.utf8Size ≤ bytes := by omega
    simp [walk, fits, ih later]

/-- Where the walk stops is the last place up to there that cuts no character in two. -/
theorem isGreatest_of_stops (stops : Stops bytes before after) :
    IsGreatest {offset | IsBoundary (before ++ after) offset ∧
      offset ≤ min bytes (byteSize (before ++ after))} (byteSize before) := by
  have leads : before <+: before ++ after := List.prefix_append before after
  constructor
  · exact ⟨⟨before, leads, rfl⟩, Nat.le_min.mpr ⟨stops.within, Text.byteSize_le_of_prefix leads⟩⟩
  · rintro _ ⟨⟨other, front, rfl⟩, most⟩
    have within : byteSize other ≤ bytes := most.trans (Nat.min_le_left _ _)
    rcases List.prefix_or_prefix_of_prefix front leads with short | long
    · exact Text.byteSize_le_of_prefix short
    · obtain ⟨more, rfl⟩ := long
      cases more with
      | nil => simp
      | cons c more =>
        obtain ⟨rest, same⟩ := front
        have head : after.head? = some c := by
          rw [List.append_assoc, List.append_cancel_left_eq] at same
          simp [← same]
        have := stops.tight c head
        simp only [Text.byteSize_append, Text.byteSize_cons] at within
        omega

/-! ## Counting -/

/-- What follows the last newline of a text. -/
def lastLine (text : List Char) : List Char :=
  text.rtakeWhile (· != '\n')

@[simp] theorem lastLine_nil : lastLine [] = [] := rfl

@[simp] theorem lastLine_newline (text : List Char) : lastLine (text ++ ['\n']) = [] := by
  simp [lastLine]

theorem lastLine_append {c : Char} (other : c ≠ '\n') (text : List Char) :
    lastLine (text ++ [c]) = lastLine text ++ [c] := by
  simp [lastLine, other]

theorem not_mem_lastLine : '\n' ∉ lastLine text := by
  intro newline
  have := List.mem_rtakeWhile_imp newline
  simp at this

/-- Walking over a text counts its newlines, and its characters since the last of them. -/
theorem foldl_advance (line : Nat) (text : List Char) :
    text.foldl advance ⟨line, 1⟩ =
      ⟨line + text.count '\n', (lastLine text).length + 1⟩ := by
  induction text using List.reverseRecOn with
  | nil => simp
  | append_singleton text c ih =>
    rw [List.foldl_append, ih]
    by_cases newline : c = '\n'
    · subst newline
      simp [advance, Nat.add_assoc]
    · simp [advance, newline, lastLine_append newline]

/-! ## The order of positions -/

/-- The order of reading: lines first, and in a line columns. -/
instance : LT Position where
  lt left right := left.line < right.line ∨ left.line = right.line ∧ left.column < right.column

theorem lt_iff {left right : Position} :
    left < right ↔ left.line < right.line ∨ left.line = right.line ∧ left.column < right.column :=
  Iff.rfl

theorem lt_trans {first second third : Position} (left : first < second) (right : second < third) :
    first < third := by
  rw [lt_iff] at *
  omega

theorem lt_advance (position : Position) (c : Char) : position < position.advance c := by
  rw [lt_iff]
  unfold advance
  split
  · exact .inl (Nat.lt_succ_self _)
  · exact .inr ⟨rfl, Nat.lt_succ_self _⟩

theorem lt_foldl_advance (position : Position) (c : Char) (text : List Char) :
    position < (c :: text).foldl advance position := by
  induction text generalizing position c with
  | nil => exact lt_advance position c
  | cons d text ih => exact lt_trans (lt_advance position c) (ih (position.advance c) d)

/-! ## Walking to a line and a column -/

/-- What follows the first line of a text, if the line ends with a newline. -/
def afterLine? (text : List Char) : Option (List Char) :=
  match text.dropWhile (· != '\n') with
  | [] => none
  | _ :: rest => some rest

/-- What follows the first `lines` lines. -/
def afterLines? : Nat → List Char → Option (List Char)
  | 0, source => some source
  | lines + 1, source => (afterLines? lines source).bind afterLine?

/-- What one has before oneself after walking down to the line, and along the line to the column. A
line has a column for each of its characters, and one more for its end. -/
def ahead? (position : Position) (source : List Char) : Option (List Char) :=
  match position with
  | ⟨line + 1, column + 1⟩ =>
    (afterLines? line source).bind fun text =>
      if column ≤ (text.takeWhile (· != '\n')).length then some (text.drop column) else none
  | _ => none

/-- The byte that a walk to the line and the column leads to. -/
def offset? (position : Position) (source : List Char) : Option Nat :=
  (position.ahead? source).map fun rest => byteSize source - byteSize rest

theorem afterLine?_newline (within : '\n' ∉ text) :
    afterLine? (text ++ '\n' :: after) = some after := by
  have inside : ∀ c ∈ text, (c != '\n') = true := by
    intro c member
    have : c ≠ '\n' := by
      rintro rfl
      exact within member
    simpa using this
  simp [afterLine?, List.dropWhile_append_of_pos inside]

theorem afterLines?_count (before after : List Char) :
    afterLines? (before.count '\n') (before ++ after) = some (lastLine before ++ after) := by
  induction before using List.reverseRecOn generalizing after with
  | nil => simp [afterLines?]
  | append_singleton before c ih =>
    have here := ih (c :: after)
    by_cases newline : c = '\n'
    · subst newline
      simp [afterLines?, here, afterLine?_newline not_mem_lastLine]
    · simpa [newline, lastLine_append newline] using here

/-- Whoever walks to the position after a text has passed the text. -/
theorem ahead?_foldl_advance (before after : List Char) :
    (before.foldl advance first).ahead? (before ++ after) = some after := by
  have inside : ∀ c ∈ lastLine before, (c != '\n') = true := fun c =>
    List.mem_rtakeWhile_imp
  have reached : (lastLine before).length ≤
      ((lastLine before ++ after).takeWhile (· != '\n')).length := by
    rw [List.takeWhile_append_of_pos inside, List.length_append]
    exact Nat.le_add_right _ _
  rw [first, foldl_advance, Nat.add_comm 1]
  simp [ahead?, afterLines?_count, reached]

theorem offset?_foldl_advance (before after : List Char) :
    (before.foldl advance first).offset? (before ++ after) = some (byteSize before) := by
  simp [offset?, ahead?_foldl_advance]

end Position

namespace Span

open Position (Stops)

variable {before after : List Char} {source : String} {span : Span}

theorem position_of_stops (split : source.toList = before ++ after)
    (stops : Stops span.start before after) :
    span.position source = before.foldl Position.advance Position.first := by
  rw [position, split]
  exact Position.walk_of_stops stops _

/-- The line is the number of newlines before the place and one, the column the number of characters
since the last newline and one. -/
theorem position_eq (split : source.toList = before ++ after)
    (stops : Stops span.start before after) :
    span.position source = ⟨before.count '\n' + 1, (Position.lastLine before).length + 1⟩ := by
  rw [position_of_stops split stops, Position.first, Position.foldl_advance, Nat.add_comm 1]

theorem position_lt {earlier later : Span} (left : IsBoundary source.toList earlier.start)
    (right : IsBoundary source.toList later.start) (order : earlier.start < later.start) :
    earlier.position source < later.position source := by
  obtain ⟨near, ⟨nearRest, nearSplit⟩, nearSize⟩ := left
  obtain ⟨far, ⟨farRest, farSplit⟩, farSize⟩ := right
  have nearStops := Position.stops_boundary near nearRest
  have farStops := Position.stops_boundary far farRest
  rw [nearSize] at nearStops
  rw [farSize] at farStops
  rw [position_of_stops nearSplit.symm nearStops, position_of_stops farSplit.symm farStops]
  rcases List.prefix_or_prefix_of_prefix ⟨farRest, farSplit⟩ ⟨nearRest, nearSplit⟩ with back | front
  · have := Text.byteSize_le_of_prefix back
    omega
  · obtain ⟨more, rfl⟩ := front
    cases more with
    | nil =>
      rw [List.append_nil] at farSize
      omega
    | cons c more =>
      rw [List.foldl_append]
      exact Position.lt_foldl_advance _ c more

/-- A line and a column tell a place in the source. Every offset, also one within a character or
past the end, has the position of the last place up to there that cuts no character in two, and
walking to that line and column leads to this place. Of two places, the one further on has the later
position. -/
theorem position_identifies_place (source : String) :
    (∀ span : Span, ∃ place,
      IsGreatest {offset | IsBoundary source.toList offset ∧
        offset ≤ min span.start source.utf8ByteSize} place ∧
      (∀ other : Span, other.start = place → span.position source = other.position source) ∧
      (span.position source).offset? source.toList = some place) ∧
    (∀ earlier later : Span, IsBoundary source.toList earlier.start →
      IsBoundary source.toList later.start → earlier.start < later.start →
      earlier.position source < later.position source) := by
  constructor
  · intro span
    obtain ⟨before, after, split, stops⟩ := Position.exists_stops span.start source.toList
    have position := position_of_stops split stops
    refine ⟨byteSize before, ?_, ?_, ?_⟩
    · rw [← Text.byteSize_toList, split]
      exact Position.isGreatest_of_stops stops
    · intro other same
      have there : Stops other.start before after := by
        rw [same]
        exact Position.stops_boundary before after
      rw [position, position_of_stops split there]
    · rw [position, split]
      exact Position.offset?_foldl_advance before after
  · intro earlier later
    exact position_lt

/-- The place before the newline of a line comes before the place after it, though its column is
greater; the letter before them takes two bytes. -/
theorem position_identifies_place_multibyte :
    IsBoundary "é\nb".toList 2 ∧ IsBoundary "é\nb".toList 3 ∧
      (⟨2, 2⟩ : Span).position "é\nb" < (⟨3, 4⟩ : Span).position "é\nb" := by
  have atEnd : IsBoundary "é\nb".toList 2 := ⟨['é'], by decide, by decide⟩
  have atNext : IsBoundary "é\nb".toList 3 := ⟨['é', '\n'], by decide, by decide⟩
  exact ⟨atEnd, atNext,
    (position_identifies_place "é\nb").2 ⟨2, 2⟩ ⟨3, 4⟩ atEnd atNext (by decide)⟩

end Span

end TextTemplate
