import TextTemplate.Loop
import TextTemplate.Proofs.Reading.Conditions
import TextTemplate.Proofs.Spelling

/-!
# Loops read back

What stands in the opening tag of a loop is written as a name, the word `in`, a source and modifiers
with gaps between them (`LoopHeader.Written`). A modifier is known by one token, its name, which is an
identifier like those that expressions end with and may be made of; it is told apart because no
expression goes on after a gap and a word (`Modifier.reads_modifier`). So the modifiers are read one
after the other, whatever stands before them (`LoopHeader.reads_parse`).
-/

namespace TextTemplate

open Token (IsLexeme Ends Lexes Solid AreGaps)
open TextTemplate.Parser (Reads reads_bind reads_step reads_get reads_pure run_take? run_take?_none
  run_takeWord? run_takeWord?_none run_discard_expect run_expect)

/-! ## Texts of loops -/

/-- A modifier of a loop. -/
inductive Modifier
  | reversed
  | offset (value : Expr)
  | limit (value : Expr)

namespace Modifier

/-- The name of a modifier. -/
def word : Modifier → String
  | reversed => "reversed"
  | offset _ => "offset"
  | limit _ => "limit"

/-- The value that is written behind a modifier. -/
def value? : Modifier → Option Expr
  | reversed => none
  | offset value | limit value => some value

/-- A modifier as it is written. -/
inductive Written (modifier : Modifier) : List Char → Prop
  | bare (noValue : modifier.value? = none) : Written modifier modifier.word.toList
  | valued {value : Expr} {before after : List Char} (hasValue : modifier.value? = some value)
      (parsed : value.Parsed) (floatFree : value.FloatFree) (gapsBefore : AreGaps before)
      (gapsAfter : AreGaps after) :
      Written modifier
        (modifier.word.toList ++ (before ++ ':' :: (after ++ value.display.toList)))

/-- Modifiers as they are written, each after gaps. -/
inductive AllWritten : List Modifier → List Char → Prop
  | nil : AllWritten [] []
  | cons {modifier : Modifier} {modifiers : List Modifier} {gaps text later : List Char}
      (areGaps : AreGaps gaps) (parted : gaps ≠ []) (written : Written modifier text)
      (allWritten : AllWritten modifiers later) :
      AllWritten (modifier :: modifiers) (gaps ++ (text ++ later))

end Modifier

/-- The source of a loop as it is written. -/
inductive LoopSource.Written : LoopSource → List Char → Prop
  | collection {expr : Expr} (parsed : expr.Parsed) (floatFree : expr.FloatFree) :
      Written (.collection expr) expr.display.toList
  | range {first last : Expr} {opened before after closing : List Char} (parsedFirst : first.Parsed)
      (freeFirst : first.FloatFree) (parsedLast : last.Parsed) (freeLast : last.FloatFree)
      (gapsOpened : AreGaps opened) (gapsBefore : AreGaps before) (gapsAfter : AreGaps after)
      (gapsClosing : AreGaps closing) :
      Written (.range first last)
        ('(' :: (opened ++ (first.display.toList ++ (before ++
          '.' :: '.' :: (after ++ (last.display.toList ++ (closing ++ [')'])))))))

/-- What stands in the opening tag of a loop, as it is written. -/
inductive LoopHeader.Written (name : String) (source : LoopSource) (modifiers : List Modifier) :
    List Char → Prop
  | mk {before after items later : List Char} (identifier : Token.IsIdentifier name)
      (gapsBefore : AreGaps before) (partedBefore : before ≠ []) (gapsAfter : AreGaps after)
      (partedAfter : after ≠ []) (sourceWritten : source.Written items)
      (allWritten : Modifier.AllWritten modifiers later) :
      Written name source modifiers
        (name.toList ++ (before ++ ("in".toList ++ (after ++ (items ++ later)))))

theorem isLexeme_in : IsLexeme .identifier "in".toList :=
  ⟨'i', ['n'], rfl, List.all_eq_true.1 rfl, rfl, by decide⟩

section

variable {modifier : Modifier} {modifiers : List Modifier} {source : LoopSource}
  {text rest front : List Char} {cursor : Cursor}

namespace Modifier

theorem isLexeme_word (modifier : Modifier) : IsLexeme .identifier modifier.word.toList := by
  cases modifier with
  | reversed => exact ⟨'r', "eversed".toList, rfl, List.all_eq_true.1 rfl, rfl, by decide⟩
  | offset value =>
    show IsLexeme .identifier "offset".toList
    exact ⟨'o', "ffset".toList, rfl, List.all_eq_true.1 rfl, rfl, by decide⟩
  | limit value =>
    show IsLexeme .identifier "limit".toList
    exact ⟨'l', "imit".toList, rfl, List.all_eq_true.1 rfl, rfl, by decide⟩

/-- A colon, perhaps after gaps, ends a word. -/
theorem ends_colon {before : List Char} (gapsBefore : AreGaps before) :
    Ends .identifier (before ++ ':' :: rest) := by
  by_cases none : before = []
  · subst none
    rintro _ ⟨⟩
    rfl
  · exact gapsBefore.ends none

/-- A modifier begins with its name. -/
theorem Written.exists_word (written : Written modifier text) (closed : Closed rest) :
    ∃ later, text ++ rest = modifier.word.toList ++ later ∧ Ends .identifier later := by
  cases written with
  | bare noValue => exact ⟨rest, rfl, closed.word⟩
  | valued hasValue parsed floatFree gapsBefore gapsAfter =>
    simp only [List.append_assoc, List.cons_append]
    exact ⟨_, rfl, ends_colon gapsBefore⟩

/-- Modifiers do not go on with the expression before them. -/
theorem AllWritten.closed (allWritten : AllWritten modifiers text) : Closed text := by
  induction allWritten with
  | nil => exact .nil
  | cons areGaps parted written allWritten ih =>
    obtain ⟨later, same, ends⟩ := written.exists_word ih
    rw [same]
    exact .spaced areGaps parted (isLexeme_word _) ends (by decide)

theorem Written.lexes (written : Written modifier text) (closed : Closed rest) (lexes : Lexes rest) :
    Lexes (text ++ rest) := by
  cases written with
  | bare noValue => exact lexes.lexeme (isLexeme_word _) closed.word
  | valued hasValue parsed floatFree gapsBefore gapsAfter =>
    simp only [List.append_assoc, List.cons_append]
    have value := (parsed.readable.lexes floatFree closed lexes).gaps gapsAfter
    have colon : Lexes (':' :: _) := value.mark .colon (by decide) trivial
    exact (colon.gaps gapsBefore).lexeme (isLexeme_word _) (ends_colon gapsBefore)

theorem AllWritten.lexes (allWritten : AllWritten modifiers text) : Lexes text := by
  induction allWritten with
  | nil => exact Token.lexes_nil
  | cons areGaps parted written allWritten ih => exact (written.lexes allWritten.closed ih).gaps areGaps

theorem Written.solid (written : Written modifier text) : Solid text := by
  cases written with
  | bare noValue => exact (isLexeme_word _).ends
  | @valued value before after hasValue parsed floatFree gapsBefore gapsAfter =>
    have solid : Solid (modifier.word.toList ++
        ((before ++ ':' :: after) ++ value.display.toList)) :=
      Solid.append (isLexeme_word _).ends (parsed.readable.solid floatFree)
    simpa using solid

theorem AllWritten.solid (allWritten : AllWritten modifiers text) (solid : Solid front) :
    Solid (front ++ text) := by
  induction allWritten generalizing front with
  | nil => simpa using solid
  | cons areGaps parted written allWritten ih =>
    rw [← List.append_assoc, ← List.append_assoc, List.append_assoc front]
    exact ih (solid.append written.solid)

end Modifier

namespace LoopSource

theorem Written.lexes (written : source.Written text) (closed : Closed rest) (lexes : Lexes rest) :
    Lexes (text ++ rest) := by
  cases written with
  | collection parsed floatFree => exact parsed.readable.lexes floatFree closed lexes
  | range parsedFirst freeFirst parsedLast freeLast gapsOpened gapsBefore gapsAfter gapsClosing =>
    simp only [List.append_assoc, List.cons_append, List.nil_append]
    have round : Lexes (')' :: _) := lexes.mark .closeRound (by decide) trivial
    have last := parsedLast.readable.lexes freeLast (Closed.closeRound.gaps gapsClosing)
      (round.gaps gapsClosing)
    have dots : Lexes (['.', '.'] ++ _) :=
      (last.gaps gapsAfter).lexeme (show IsLexeme .range ['.', '.'] from rfl) trivial
    have first := parsedFirst.readable.lexes freeFirst (Closed.range.gaps gapsBefore)
      (dots.gaps gapsBefore)
    exact (first.gaps gapsOpened).mark .openRound (by decide) trivial

theorem Written.solid (written : source.Written text) : Solid text := by
  cases written with
  | collection parsed floatFree => exact parsed.readable.solid floatFree
  | @range first last opened before after closing =>
    have solid : Solid (['('] ++ ((opened ++ (first.display.toList ++ (before ++
        '.' :: '.' :: (after ++ (last.display.toList ++ closing))))) ++ [')'])) :=
      Solid.append ⟨'(', '(', rfl, rfl, rfl, rfl⟩ ⟨')', ')', rfl, rfl, rfl, rfl⟩
    simpa using solid

end LoopSource

/-! ## Parsers of loops -/

/-- An expression does not begin with a parenthesis. -/
theorem Expr.not_isAt_openRound {P : Expr → Prop} {bound : Nat}
    (read : Reads P Expr.parse cursor bound rest) : cursor.isAt .openRound = false := by
  obtain ⟨value, next, run, -⟩ := read
  by_contra round
  have isRound : cursor.current.kind = .openRound := by simpa [Cursor.isAt] using round
  obtain ⟨steps, path, -⟩ := (Expr.parseWith_path_eq_ok (by simp [isRound])).1 run
  obtain ⟨_, isWord, -⟩ := (Expr.parsePathWith_word_eq_ok (by simp [isRound])).1 path
  rw [isRound] at isWord
  cases isWord

theorem LoopSource.Written.reads_parseSource (written : source.Written text) (closed : Closed rest)
    (reads : cursor.Reads (text ++ rest)) :
    Reads (· = source) LoopHeader.parseSource cursor cursor.later.length rest := by
  cases written with
  | collection parsed floatFree =>
    have read := Expr.reads_parse parsed.readable floatFree reads closed
    refine reads_step (run_take?_none (Expr.not_isAt_openRound read)) ?_
    refine reads_bind read ?_
    intro value next same readsRest within
    exact reads_pure readsRest (by rw [same]) within
  | range parsedFirst freeFirst parsedLast freeLast gapsOpened gapsBefore gapsAfter gapsClosing =>
    simp only [List.append_assoc, List.cons_append, List.nil_append] at reads
    have opens : cursor.Takes .openRound ['('] _ :=
      Cursor.Reads.takes reads (Token.isLexeme_mark (by decide)) trivial
    have countOpens := opens.count
    refine reads_step (run_take? opens.isKind) ?_
    have first := Expr.reads_parse parsedFirst.readable freeFirst (opens.reads.gaps gapsOpened)
      (Closed.range.gaps gapsBefore)
    refine reads_bind first ?_
    intro valueFirst between sameFirst readsRange within
    have dots : between.Takes .range ['.', '.'] _ :=
      Cursor.Reads.takes (readsRange.gaps gapsBefore) (show IsLexeme .range ['.', '.'] from rfl)
        trivial
    have countDots := dots.count
    refine reads_step (run_discard_expect dots.isKind) ?_
    have last := Expr.reads_parse parsedLast.readable freeLast (dots.reads.gaps gapsAfter)
      (Closed.closeRound.gaps gapsClosing)
    refine reads_bind last ?_
    intro valueLast after sameLast readsClosing shorter
    have closes : after.Takes .closeRound [')'] rest :=
      Cursor.Reads.takes (readsClosing.gaps gapsClosing) (Token.isLexeme_mark (by decide)) trivial
    have countCloses := closes.count
    refine reads_step (run_discard_expect closes.isKind) ?_
    exact reads_pure closes.reads (by rw [sameFirst, sameLast]) (by omega)

/-- What comes after the current token is seen from it. -/
theorem Cursor.Takes.looksAt {kind next : TokenKind} (takes : cursor.Takes kind text rest)
    (isNext : cursor.advance.current.kind = next) : cursor.looksAt next 1 = true := by
  have count := takes.count
  have goesOn : cursor.isAtEnd = false := by
    by_contra atEnd
    rw [Cursor.advance, if_pos (by simpa using atEnd)] at count
    omega
  obtain ⟨passed, current, later, base⟩ := cursor
  cases later with
  | nil => simp at count
  | cons token later =>
    simp only [Cursor.advance, goesOn, Cursor.next] at isNext
    simpa [Cursor.looksAt] using isNext

/-- The header with one more modifier. -/
def LoopHeader.withModifier (header : LoopHeader) : Modifier → LoopHeader
  | .reversed => { header with reversed := true }
  | .offset value => { header with offset := some value }
  | .limit value => { header with limit := some value }

namespace Modifier

variable {value : Expr} {header : LoopHeader} {fuel bound : Nat} {P : LoopHeader → Prop}
  {last : List Char}

/-- The value of a modifier comes after its name and a colon. -/
theorem reads_parseValue {before after : List Char} (parsed : value.Parsed)
    (floatFree : value.FloatFree) (closed : Closed rest) (gapsAfter : AreGaps after)
    (takes : cursor.Takes .identifier before (':' :: (after ++ (value.display.toList ++ rest)))) :
    cursor.looksAt .colon 1 = true ∧
      Reads (· = value) LoopHeader.parseValue cursor cursor.advance.later.length rest := by
  have colon : cursor.advance.Takes .colon [':'] _ :=
    Cursor.Reads.takes takes.reads (Token.isLexeme_mark (by decide)) trivial
  have count := colon.count
  have read := Expr.reads_parse parsed.readable floatFree (colon.reads.gaps gapsAfter) closed
  have passName : (discard Parser.consume).run cursor = .ok () cursor.advance := rfl
  have passColon : (discard Parser.consume).run cursor.advance = .ok () cursor.advance.advance := rfl
  exact ⟨takes.looksAt colon.isKind,
    (reads_step passName (reads_step passColon read)).mono (by omega)⟩

/-- One modifier is read, and what comes after it is read with the header that it makes. -/
theorem Written.reads_parseModifiers (written : Written modifier text) (closed : Closed rest)
    (reads : cursor.Reads (text ++ rest))
    (later : ∀ next : Cursor, next.Reads rest → next.later.length < cursor.later.length →
      Reads P ((header.withModifier modifier).parseModifiers fuel) next bound last) :
    Reads P (header.parseModifiers (fuel + 1)) cursor bound last := by
  cases written with
  | bare noValue =>
    have takes := reads.takes (isLexeme_word modifier) closed.word
    have count := takes.count
    have goesOn : cursor.isAtEnd = false := by simp [Cursor.isAtEnd, Cursor.isAt, takes.isKind]
    cases modifier with
    | reversed =>
      unfold LoopHeader.parseModifiers
      refine reads_get ?_
      rw [goesOn]
      exact reads_step (run_takeWord? takes) (later _ takes.reads (by omega))
    | offset value => cases noValue
    | limit value => cases noValue
  | valued hasValue parsed floatFree gapsBefore gapsAfter =>
    simp only [List.append_assoc, List.cons_append] at reads
    have named := reads.takes (isLexeme_word modifier) (ends_colon gapsBefore)
    have takes : cursor.Takes .identifier modifier.word.toList _ :=
      { named with reads := named.reads.gaps gapsBefore }
    have count := takes.count
    obtain ⟨ahead, value⟩ := reads_parseValue parsed floatFree closed gapsAfter takes
    have goesOn : cursor.isAtEnd = false := by simp [Cursor.isAtEnd, Cursor.isAt, takes.isKind]
    have isWord (other : String) : cursor.isAtWord other = (modifier.word == other) := by
      simp [Cursor.isAtWord, takes.isKind, takes.isText]
    unfold LoopHeader.parseModifiers
    refine reads_get ?_
    rw [goesOn]
    cases modifier with
    | reversed => cases hasValue
    | offset value =>
      cases hasValue
      refine reads_step (run_takeWord?_none (isWord _)) ?_
      simp only [isWord, ahead, word, beq_self_eq_true, Bool.and_true, if_true]
      refine reads_bind value ?_
      intro read next same readsRest within
      rw [same]
      exact later next readsRest (by omega)
    | limit value =>
      cases hasValue
      refine reads_step (run_takeWord?_none (isWord _)) ?_
      have noOffset : ("limit" == "offset") = false := by decide
      simp only [isWord, ahead, word, noOffset, beq_self_eq_true, Bool.and_true, if_true]
      refine reads_bind value ?_
      intro read next same readsRest within
      rw [same]
      exact later next readsRest (by omega)

/-- Modifiers are read to the end, and all of them count. -/
theorem AllWritten.reads_parseModifiers (allWritten : AllWritten modifiers text)
    (reads : cursor.Reads text) (enough : cursor.later.length ≤ fuel) :
    Reads (· = modifiers.foldl LoopHeader.withModifier header) (header.parseModifiers fuel) cursor
      cursor.later.length [] := by
  induction allWritten generalizing header cursor fuel with
  | nil =>
    cases fuel with
    | zero => exact reads_pure reads rfl (Nat.le_refl _)
    | succ fuel =>
      unfold LoopHeader.parseModifiers
      refine reads_get ?_
      rw [reads.isAtEnd]
      exact reads_pure reads rfl (Nat.le_refl _)
  | @cons modifier modifiers gaps text rest areGaps parted written allWritten ih =>
    have readsText := reads.gaps areGaps
    obtain ⟨after, same, ends⟩ := written.exists_word allWritten.closed
    have count := ((same ▸ readsText).takes (isLexeme_word modifier) ends).count
    -- the name is a token after the first one, so the fuel is not used up
    obtain ⟨fuel, rfl⟩ : ∃ less, fuel = less + 1 := ⟨fuel - 1, by omega⟩
    apply written.reads_parseModifiers allWritten.closed readsText
    intro next readsRest shorter
    have enoughLater : next.later.length ≤ fuel := by omega
    exact (ih readsRest enoughLater).mono (by omega)

end Modifier

namespace LoopHeader.Written

variable {name : String}

/-- The modifiers, one after the other, change a loop that has none. -/
theorem reads_parse (written : LoopHeader.Written name source modifiers text)
    (reads : cursor.Reads text) :
    Reads (· = modifiers.foldl withModifier ⟨name, source, false, none, none⟩) parse cursor
      cursor.later.length [] := by
  cases written with
  | mk identifier gapsBefore partedBefore gapsAfter partedAfter sourceWritten allWritten =>
    have named := reads.takes identifier.isLexeme (gapsBefore.ends partedBefore)
    have isIn := (named.reads.gaps gapsBefore).takes isLexeme_in (gapsAfter.ends partedAfter)
    have count := named.count
    have countIn := isIn.count
    refine reads_step (run_expect named.isKind) ?_
    refine reads_step (run_takeWord? isIn) ?_
    refine reads_bind
      (sourceWritten.reads_parseSource allWritten.closed (isIn.reads.gaps gapsAfter)) ?_
    intro read between same readsModifiers within
    refine reads_get ?_
    rw [same, named.isText, String.ofList_toList]
    exact (allWritten.reads_parseModifiers readsModifiers (Nat.le_refl _)).mono (by omega)

theorem lexes (written : LoopHeader.Written name source modifiers text) : Lexes text := by
  cases written with
  | mk identifier gapsBefore partedBefore gapsAfter partedAfter sourceWritten allWritten =>
    have items := (sourceWritten.lexes allWritten.closed allWritten.lexes).gaps gapsAfter
    have later := (items.lexeme isLexeme_in (gapsAfter.ends partedAfter)).gaps gapsBefore
    exact later.lexeme identifier.isLexeme (gapsBefore.ends partedBefore)

theorem solid (written : LoopHeader.Written name source modifiers text) : Solid text := by
  cases written with
  | @mk before after items later identifier gapsBefore _ gapsAfter _ sourceWritten allWritten =>
    have front : Solid (name.toList ++ ((before ++ "in".toList ++ after) ++ items)) :=
      Solid.append identifier.isLexeme.ends sourceWritten.solid
    simpa using allWritten.solid front

end LoopHeader.Written

end

end TextTemplate
