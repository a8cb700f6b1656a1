/-!
Spans and positions.

A span is a half-open range of byte offsets (UTF-8) into a source or into a piece of markup. A
position is what a reader counts: lines and characters, both from one. `Span.position` walks the
source to the character boundary at, or next before, the start of the span.
-/

namespace TextTemplate

/-- The bytes from `start` up to, but not with, `stop`. -/
structure Span where
  start : Nat
  stop : Nat
deriving DecidableEq, Repr, Inhabited

/-- A line and a column, both counted from one; columns count characters. -/
structure Position where
  line : Nat
  column : Nat
deriving DecidableEq, Repr

namespace Position

/-- The first character of a source. -/
def first : Position := ⟨1, 1⟩

/-- The position after the character `c`. -/
def advance (position : Position) (c : Char) : Position :=
  if c = '\n' then ⟨position.line + 1, 1⟩ else ⟨position.line, position.column + 1⟩

/-- The position after the characters of `source` that end within its first `bytes` bytes. -/
def walk (position : Position) (bytes : Nat) : List Char → Position
  | [] => position
  | c :: cs =>
    if c.utf8Size ≤ bytes then (position.advance c).walk (bytes - c.utf8Size) cs else position

end Position

namespace Span

/-- The span of a value that no source text stands behind. -/
def nowhere : Span := ⟨0, 0⟩

/-- The number of bytes in the span. -/
def length (span : Span) : Nat :=
  span.stop - span.start

/-- Whether the span holds no byte. -/
def isEmpty (span : Span) : Bool :=
  span.start == span.stop

/-- The span as seen from a text in which its own text begins at byte `base`. -/
def shift (span : Span) (base : Nat) : Span :=
  ⟨span.start + base, span.stop + base⟩

/-- The span written as `start..stop`. -/
def display (span : Span) : String :=
  toString span.start ++ ".." ++ toString span.stop

/-- Where the span starts in `source`. An offset inside a character counts as that character's
start, one past the end as the end. -/
def position (span : Span) (source : String) : Position :=
  Position.first.walk span.start source.toList

@[simp] theorem shift_zero (span : Span) : span.shift 0 = span := rfl

theorem shift_shift (span : Span) (a b : Nat) : (span.shift a).shift b = span.shift (a + b) := by
  simp [shift, Nat.add_assoc]

end Span

end TextTemplate
