import TextTemplate.Span
import TextTemplate.Text.Blank
import Mathlib.Data.List.Basic

/-!
# Where texts stand

A span locates a text in a source if the source has this text at these bytes. The characters before
the text are a part of the source, so the ends of such a span never fall inside a character. A text
located in markup that is itself located in a source is located in that source (`Locates.shift`).
-/

namespace TextTemplate

namespace Text

variable {source text : List Char} {offset : Nat}

theorem byteSize_toList (text : String) : byteSize text.toList = text.utf8ByteSize := by
  obtain ⟨cs, rfl⟩ : ∃ cs, text = String.ofList cs := ⟨text.toList, by simp⟩
  induction cs with
  | nil => rfl
  | cons c cs ih =>
    have split : String.ofList (c :: cs) = String.singleton c ++ String.ofList cs := by simp
    rw [split, String.utf8ByteSize_append, String.utf8ByteSize_singleton, ← ih]
    simp

/-- Among the first `offset` bytes of the source no character is cut in two. -/
def IsBoundary (source : List Char) (offset : Nat) : Prop :=
  ∃ before, before <+: source ∧ byteSize before = offset

theorem byteSize_le_of_prefix (leads : text <+: source) : byteSize text ≤ byteSize source := by
  obtain ⟨after, rfl⟩ := leads
  rw [byteSize_append]
  exact Nat.le_add_right _ _

theorem IsBoundary.le (boundary : IsBoundary source offset) : offset ≤ byteSize source := by
  obtain ⟨before, leads, rfl⟩ := boundary
  exact byteSize_le_of_prefix leads

theorem byteSize_pos (occurs : text ≠ []) : 0 < byteSize text := by
  cases text with
  | nil => exact absurd rfl occurs
  | cons c cs => exact Nat.add_pos_left (Char.utf8Size_pos c) _

end Text

namespace Span

open Text (byteSize IsBoundary)

variable {source markup text : List Char} {outer inner span : Span}

/-- The source has this text at the bytes of the span. -/
def Locates (span : Span) (source text : List Char) : Prop :=
  ∃ before after, source = before ++ text ++ after ∧
    span = ⟨byteSize before, byteSize before + byteSize text⟩

theorem Locates.shift (around : outer.Locates source markup) (within : inner.Locates markup text) :
    (inner.shift outer.start).Locates source text := by
  obtain ⟨first, last, rfl, rfl⟩ := around
  obtain ⟨before, after, rfl, rfl⟩ := within
  refine ⟨first ++ before, after ++ last, by simp, ?_⟩
  simp only [Span.shift, Text.byteSize_append, Span.mk.injEq]
  omega

theorem Locates.stop (located : span.Locates source text) :
    span.stop = span.start + byteSize text := by
  obtain ⟨before, after, rfl, rfl⟩ := located
  rfl

theorem Locates.boundaries (located : span.Locates source text) :
    IsBoundary source span.start ∧ IsBoundary source span.stop := by
  obtain ⟨before, after, rfl, rfl⟩ := located
  refine ⟨⟨before, ⟨text ++ after, by simp⟩, rfl⟩, ⟨before ++ text, ⟨after, rfl⟩, ?_⟩⟩
  rw [Text.byteSize_append]

theorem Locates.bounds (located : span.Locates source text) :
    span.start ≤ span.stop ∧ span.stop ≤ byteSize source := by
  refine ⟨?_, located.boundaries.2.le⟩
  rw [located.stop]
  exact Nat.le_add_right _ _

end Span

end TextTemplate
