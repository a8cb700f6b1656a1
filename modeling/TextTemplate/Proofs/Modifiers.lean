import Mathlib.Data.List.Nodup
import TextTemplate.Proofs.Blanking
import TextTemplate.Proofs.Reading.Loops

/-!
# Modifiers of loops

The modifiers in the opening tag of a loop may stand in any order and may be repeated. The loop is
reversed if one of them says so, and of several offsets or limits the last one counts
(`LoopHeader.foldl_withModifier`). So the order matters only between modifiers of one name
(`LoopHeader.modifiers_commute`).
-/

namespace TextTemplate

open Text (isBlank byteSize)

namespace Modifier

/-- Whether the modifier turns the loop around. -/
def isReversed : Modifier → Bool
  | reversed => true
  | _ => false

/-- The value of an offset. -/
def offset? : Modifier → Option Expr
  | offset value => some value
  | _ => none

/-- The value of a limit. -/
def limit? : Modifier → Option Expr
  | limit value => some value
  | _ => none

variable {modifiers permuted : List Modifier} {pick : Modifier → Option Expr} {name : String}

theorem word_of_offset? {modifier : Modifier} (picked : modifier.offset?.isSome = true) :
    modifier.word = "offset" := by
  cases modifier with
  | offset value => rfl
  | reversed | limit value => cases picked

theorem word_of_limit? {modifier : Modifier} (picked : modifier.limit?.isSome = true) :
    modifier.word = "limit" := by
  cases modifier with
  | limit value => rfl
  | reversed | offset value => cases picked

/-- What only the modifiers of one name have is there no more often than the name. -/
theorem length_filterMap_le_count
    (named : ∀ modifier, (pick modifier).isSome = true → modifier.word = name) :
    (modifiers.filterMap pick).length ≤ (modifiers.map word).count name := by
  induction modifiers with
  | nil => exact Nat.le_refl 0
  | cons modifier modifiers ih =>
    rw [List.map_cons, List.filterMap_cons]
    cases picked : pick modifier with
    | none => exact ih.trans List.count_le_count_cons
    | some value =>
      rw [named modifier (by rw [picked]; rfl), List.count_cons_self, List.length_cons]
      exact Nat.succ_le_succ ih

/-- Where no name is repeated the order does not show. -/
theorem filterMap_of_perm (perm : modifiers.Perm permuted) (distinct : (modifiers.map word).Nodup)
    (named : ∀ modifier, (pick modifier).isSome = true → modifier.word = name) :
    permuted.filterMap pick = modifiers.filterMap pick := by
  have atMostOne : (modifiers.filterMap pick).length ≤ 1 :=
    (length_filterMap_le_count named).trans (List.nodup_iff_count_le_one.1 distinct name)
  have picked : (modifiers.filterMap pick).Perm (permuted.filterMap pick) := perm.filterMap pick
  cases only : modifiers.filterMap pick with
  | nil =>
    rw [only] at picked
    exact picked.nil_eq.symm
  | cons value values =>
    rw [only] at picked atMostOne
    obtain rfl : values = [] := by simpa using atMostOne
    exact picked.singleton_eq.symm

end Modifier

/-- The markup of the tag is this text, perhaps with blanks around it. -/
def TagHead.HasText (tag : TagHead) (text : List Char) : Prop :=
  ∃ lead trail, (∀ c ∈ lead, isBlank c = true) ∧ (∀ c ∈ trail, isBlank c = true) ∧
    tag.markup = String.ofList (lead ++ text ++ trail)

namespace LoopHeader

variable {name : String} {source : LoopSource} {modifiers : List Modifier} {text : List Char}

/-- What modifiers make of a loop, one after the other. -/
theorem foldl_withModifier (header : LoopHeader) (modifiers : List Modifier) :
    modifiers.foldl withModifier header =
      ⟨header.itemName, header.source, header.reversed || modifiers.any Modifier.isReversed,
        (modifiers.filterMap Modifier.offset?).getLast?.or header.offset,
        (modifiers.filterMap Modifier.limit?).getLast?.or header.limit⟩ := by
  induction modifiers generalizing header with
  | nil => simp
  | cons modifier modifiers ih =>
    rw [List.foldl_cons, ih]
    cases modifier with
    | reversed => simp [withModifier, Modifier.isReversed, Modifier.offset?, Modifier.limit?]
    | offset value =>
      cases later : (modifiers.filterMap Modifier.offset?).getLast? <;>
        simp [withModifier, Modifier.isReversed, Modifier.offset?, Modifier.limit?,
          List.getLast?_cons, later]
    | limit value =>
      cases later : (modifiers.filterMap Modifier.limit?).getLast? <;>
        simp [withModifier, Modifier.isReversed, Modifier.offset?, Modifier.limit?,
          List.getLast?_cons, later]

/-- The tag of a loop is read in both modes. -/
theorem Written.read (written : LoopHeader.Written name source modifiers text) {tag : TagHead}
    (hasText : tag.HasText text) (mode : LexMode) :
    TagRule.loop.read mode tag = .ok (.block (.loop
      ⟨name, source, modifiers.any Modifier.isReversed,
        (modifiers.filterMap Modifier.offset?).getLast?,
        (modifiers.filterMap Modifier.limit?).getLast?⟩)) := by
  obtain ⟨lead, trail, leadBlank, trailBlank, isMarkup⟩ := hasText
  have begins : Token.lex .strict tag.markup = Token.lexFrom .strict (byteSize lead) text := by
    rw [isMarkup]
    exact Token.lex_of_blanks leadBlank written.solid trailBlank
  obtain ⟨cursor, made, reads⟩ := Cursor.exists_ofMarkup_of_lex begins written.lexes tag.offset
  obtain ⟨header, next, run, same, -⟩ := written.reads_parse reads
  rw [foldl_withModifier] at same
  simp only [Bool.false_or, Option.or_none] at same
  have parsed : tag.read .strict parse = .ok header := by
    unfold TagHead.read
    rw [made]
    show parse.result cursor = .ok header
    unfold Parser.result
    rw [run]
  have strict : TagRule.loop.read .strict tag = .ok (.block (.loop header)) := by
    show (tag.read .strict parse).bind _ = _
    rw [parsed]
    rfl
  rw [← same]
  cases mode with
  | strict => exact strict
  | lax =>
    have noHost : ∀ host, TagRule.loop ≠ .host host := nofun
    exact (TagRule.loosens_read noHost tag).of_ok strict

/-- A tag of a loop is read as written: it has this name and this source, it is reversed just if
one of its modifiers says so, and the last offset and the last limit are the ones that it has. So
tags with the same modifiers, none of them twice, are read as the same block in whatever orders the
modifiers stand. -/
theorem modifiers_commute (mode : LexMode) (name : String) (source : LoopSource) :
    (∀ modifiers text (tag : TagHead), LoopHeader.Written name source modifiers text →
      tag.HasText text →
      TagRule.loop.read mode tag = .ok (.block (.loop
        ⟨name, source, modifiers.any Modifier.isReversed,
          (modifiers.filterMap Modifier.offset?).getLast?,
          (modifiers.filterMap Modifier.limit?).getLast?⟩))) ∧
    ∀ modifiers permuted text text' (tag tag' : TagHead),
      LoopHeader.Written name source modifiers text → tag.HasText text →
      LoopHeader.Written name source permuted text' → tag'.HasText text' →
      modifiers.Perm permuted → (modifiers.map Modifier.word).Nodup →
      TagRule.loop.read mode tag' = TagRule.loop.read mode tag := by
  constructor
  · intro modifiers text tag written hasText
    exact written.read hasText mode
  · intro modifiers permuted text text' tag tag' written hasText written' hasText' perm distinct
    have offsets := Modifier.filterMap_of_perm perm distinct fun _ => Modifier.word_of_offset?
    have limits := Modifier.filterMap_of_perm perm distinct fun _ => Modifier.word_of_limit?
    have reversed : permuted.any Modifier.isReversed = modifiers.any Modifier.isReversed :=
      perm.symm.any_eq
    rw [written.read hasText, written'.read hasText', offsets, limits, reversed]

/-- The words of the grammar may all be names. -/
theorem modifiers_commute_words :
    let read (markup : String) := TagRule.loop.read .strict ⟨"for", markup, 6⟩
    read " in in limit offset: reversed reversed " =
      .ok (.block (.loop ⟨"in", .collection (.lookup [.key "limit"]), true,
        some (.lookup [.key "reversed"]), none⟩)) ∧
    read " in in limit reversed offset: reversed" =
      read " in in limit offset: reversed reversed " := by
  intro read
  have word (modifier : Modifier) : Expr.Parsed (.lookup [.key modifier.word]) := by
    have noConstant : Expr.ofPath [.key modifier.word] = .lookup [.key modifier.word] := by
      cases modifier <;> rfl
    exact Expr.Readable.parsed (.lookup (.key modifier.isLexeme_word .nil) noConstant) trivial
  have space : Token.AreGaps [' '] := Token.areGaps_space
  have parted : [' '] ≠ [] := List.cons_ne_nil _ _
  have name : Token.IsIdentifier "in" := Token.isIdentifier_of_isLexeme isLexeme_in
  have source : LoopSource.Written (.collection (.lookup [.key "limit"])) "limit".toList :=
    .collection (word (.limit .nil)) trivial
  let offset : Modifier := .offset (.lookup [.key "reversed"])
  have offsetText : offset.word.toList ++
      ([] ++ ':' :: ([' '] ++ (Expr.lookup [.key Modifier.reversed.word]).display.toList)) =
        "offset: reversed".toList := by
    decide +kernel
  have offsetWritten : offset.Written "offset: reversed".toList :=
    offsetText ▸ .valued rfl (word .reversed) trivial (List.forall_mem_nil _) space
  have reversedWritten : Modifier.reversed.Written "reversed".toList := .bare rfl
  have first : LoopHeader.Written "in" _ [offset, .reversed]
      "in in limit offset: reversed reversed".toList :=
    .mk name space parted space parted source
      (.cons space parted offsetWritten (.cons space parted reversedWritten .nil))
  have second : LoopHeader.Written "in" _ [.reversed, offset]
      "in in limit reversed offset: reversed".toList :=
    .mk name space parted space parted source
      (.cons space parted reversedWritten (.cons space parted offsetWritten .nil))
  have blank : ∀ c ∈ [' '], isBlank c = true := List.forall_mem_singleton.2 rfl
  obtain ⟨reads, commute⟩ := modifiers_commute .strict "in" (.collection (.lookup [.key "limit"]))
  exact ⟨reads _ _ _ first ⟨[' '], [' '], blank, blank, rfl⟩,
    commute _ _ _ _ _ _ first ⟨[' '], [' '], blank, blank, rfl⟩
      second ⟨[' '], [], blank, List.forall_mem_nil _, rfl⟩ (.swap _ _ _) (by decide)⟩

end LoopHeader

end TextTemplate
