import TextTemplate.Cursor
import TextTemplate.Proofs.Integers
import TextTemplate.Proofs.Tiling

/-!
# Reading a text that was written

A cursor reads a text if its tokens from the current one on are those that the strict lexer makes of
the text (`Cursor.Reads`). A parser that reads the front of such a text leaves its rest
(`Parser.Reads`), so parsers that follow each other read texts that follow each other.
-/

namespace TextTemplate

open Token (IsLexeme Ends)
open Text (isBlank isGap)

/-! ## Texts that the lexer takes -/

namespace Token

variable {kind : TokenKind} {text front between back rest : List Char} {c : Char}

/-- Characters that stand between tokens. -/
def AreGaps (cs : List Char) : Prop :=
  ∀ c ∈ cs, isGap c = true

theorem areGaps_space : AreGaps [' '] :=
  List.forall_mem_singleton.2 rfl

theorem AreGaps.tail (areGaps : AreGaps (c :: between)) : AreGaps between :=
  fun d member => areGaps d (.tail c member)

/-- A gap ends every lexeme before it. -/
theorem AreGaps.ends (areGaps : AreGaps between) (occurs : between ≠ []) :
    Ends kind (between ++ rest) := by
  obtain ⟨c, between, rfl⟩ := List.exists_cons_of_ne_nil occurs
  apply Parted.ends
  rintro _ ⟨⟩
  exact areGaps c List.mem_cons_self

/-- The strict lexer takes the text, wherever it stands. -/
def Lexes (cs : List Char) : Prop :=
  ∀ offset, ∃ tokens, lexFrom .strict offset cs = .ok tokens

theorem lexes_nil : Lexes [] :=
  fun _ => ⟨_, lexFrom_nil⟩

theorem Lexes.gap (lexes : Lexes rest) (gap : isGap c = true) : Lexes (c :: rest) := by
  intro offset
  rw [lexFrom_gap gap]
  exact lexes _

theorem Lexes.gaps (lexes : Lexes rest) (areGaps : AreGaps between) : Lexes (between ++ rest) := by
  induction between with
  | nil => exact lexes
  | cons c between ih => exact (ih areGaps.tail).gap (areGaps c List.mem_cons_self)

theorem Lexes.lexeme (lexes : Lexes rest) (lexeme : IsLexeme kind text) (ends : Ends kind rest) :
    Lexes (text ++ rest) := by
  intro offset
  obtain ⟨tokens, lexed⟩ := lexes (offset + Text.byteSize text)
  rw [lexFrom_lexeme lexeme ends, lexed]
  exact ⟨_, rfl⟩

theorem Lexes.mark (kind : TokenKind) (member : (kind, c) ∈ marks) (ends : Ends kind rest)
    (lexes : Lexes rest) : Lexes (c :: rest) :=
  lexes.lexeme (isLexeme_mark member) ends

/-- The text has no blank at its two ends. -/
def Solid (cs : List Char) : Prop :=
  ∃ first last, cs.head? = some first ∧ isBlank first = false ∧
    cs.getLast? = some last ∧ isBlank last = false

theorem Solid.append (solid : Solid front) (solidBack : Solid back) :
    Solid (front ++ (between ++ back)) := by
  obtain ⟨first, -, isFirst, noBlank, -⟩ := solid
  obtain ⟨-, last, -, -, isLast, noBlankLast⟩ := solidBack
  refine ⟨first, last, ?_, noBlank, ?_, noBlankLast⟩
  · rw [List.head?_append, isFirst]
    rfl
  · rw [List.getLast?_append, List.getLast?_append, isLast]
    rfl

/-- Nothing is trimmed. -/
theorem Solid.trim {cs : List Char} (solid : Solid cs) :
    cs.takeWhile isBlank = [] ∧ Text.trim cs = cs := by
  obtain ⟨first, last, isFirst, noBlank, isLast, noBlankLast⟩ := solid
  apply trim_of_solid_ends
  · rw [isFirst]
    rintro _ ⟨⟩
    exact noBlank
  · rw [isLast]
    rintro _ ⟨⟩
    exact noBlankLast

theorem Solid.ne_nil {cs : List Char} (solid : Solid cs) : cs ≠ [] := by
  obtain ⟨first, -, isFirst, -⟩ := solid
  rintro rfl
  cases isFirst

theorem lex_of_solid {mode : LexMode} {markup : String} (solid : Solid markup.toList) :
    lex mode markup = lexFrom mode 0 markup.toList := by
  unfold lex
  simp only [solid.trim, Text.byteSize_nil]

end Token

/-! ## Cursors before a text -/

namespace Cursor

variable {cursor : Cursor} {kind : TokenKind} {text rest between : List Char} {c : Char}

/-- The tokens from the current one on are those of the text. -/
def Reads (cursor : Cursor) (cs : List Char) : Prop :=
  ∃ offset, Token.lexFrom .strict offset cs = .ok (cursor.current :: cursor.later)

theorem Reads.gap (reads : cursor.Reads (c :: rest)) (isGap : isGap c = true) :
    cursor.Reads rest := by
  obtain ⟨offset, lexed⟩ := reads
  rw [Token.lexFrom_gap isGap] at lexed
  exact ⟨offset + 1, lexed⟩

theorem Reads.gaps (reads : cursor.Reads (between ++ rest)) (areGaps : Token.AreGaps between) :
    cursor.Reads rest := by
  induction between with
  | nil => exact reads
  | cons c between ih => exact ih (reads.gap (areGaps c List.mem_cons_self)) areGaps.tail

theorem Reads.isAtEnd (reads : cursor.Reads []) : cursor.isAtEnd = true := by
  obtain ⟨offset, lexed⟩ := reads
  rw [Token.lexFrom_nil] at lexed
  simp only [Except.ok.injEq, List.cons.injEq] at lexed
  rw [Cursor.isAtEnd, isAt, ← lexed.1]
  rfl

/-- Where no text is left an end token stands. -/
theorem Reads.kind_end (reads : cursor.Reads []) : cursor.current.kind = .endOfMarkup := by
  have atEnd := reads.isAtEnd
  simpa only [Cursor.isAtEnd, isAt, beq_iff_eq] using atEnd

/-- Where a text begins that no blank begins there is a token to take. -/
theorem Reads.not_isAtEnd (reads : cursor.Reads (c :: rest)) (noBlank : isBlank c = false) :
    cursor.isAtEnd = false := by
  obtain ⟨offset, lexed⟩ := reads
  have run := Token.lexRun_of_lexFrom lexed
  generalize text : c :: rest = cs at run
  generalize same : cursor.current :: cursor.later = tokens at run
  cases run with
  | ending => cases text
  | gap isGap later =>
    cases text
    rw [Text.isBlank_of_isGap isGap] at noBlank
    cases noBlank
  | token found later =>
    have lexeme := Token.isLexeme_of_lexeme? found
    obtain ⟨here, -⟩ := List.cons.inj same
    cases atEnd : cursor.isAtEnd with
    | false => rfl
    | true =>
      simp only [Cursor.isAtEnd, isAt, here, beq_iff_eq] at atEnd
      rw [atEnd] at lexeme
      cases lexeme
  | skip isLax => cases isLax

/-- The current token is this lexeme, and after it comes the text `rest`. -/
structure Takes (cursor : Cursor) (kind : TokenKind) (text rest : List Char) : Prop where
  isKind : cursor.current.kind = kind
  isText : cursor.current.text = String.ofList text
  reads : cursor.advance.Reads rest
  count : cursor.advance.later.length + 1 = cursor.later.length

theorem Reads.takes (reads : cursor.Reads (text ++ rest)) (lexeme : IsLexeme kind text)
    (ends : Ends kind rest) : cursor.Takes kind text rest := by
  obtain ⟨offset, lexed⟩ := reads
  rw [Token.lexFrom_lexeme lexeme ends] at lexed
  cases after : Token.lexFrom .strict (offset + Text.byteSize text) rest with
  | error error =>
    rw [after] at lexed
    cases lexed
  | ok tokens =>
    rw [after] at lexed
    simp only [Except.map, Except.ok.injEq, List.cons.injEq] at lexed
    obtain ⟨here, rfl⟩ := lexed
    obtain ⟨front, same, -⟩ := (Token.tiling_of_lexFrom after).front
    obtain ⟨passed, current, later, base⟩ := cursor
    cases here
    have noEnd : kind ≠ .endOfMarkup := by
      rintro rfl
      exact lexeme
    cases later with
    | nil => simp at same
    | cons token later =>
      refine ⟨rfl, rfl, ?_, ?_⟩
      · simp [advance, next, Cursor.isAtEnd, isAt, noEnd]
        exact ⟨_, after⟩
      · simp [advance, next, Cursor.isAtEnd, isAt, noEnd]

/-- Markup is read from where the lexer begins with it. -/
theorem exists_ofMarkup_of_lex {markup : String} {offset : Nat} {cs : List Char}
    (begins : Token.lex .strict markup = Token.lexFrom .strict offset cs) (lexes : Token.Lexes cs)
    (base : Nat) : ∃ cursor, ofMarkup .strict markup base = .ok cursor ∧ cursor.Reads cs := by
  obtain ⟨tokens, lexed⟩ := lexes offset
  obtain ⟨front, rfl, -⟩ := (Token.tiling_of_lexFrom lexed).front
  unfold ofMarkup ofTokens closeTokens
  rw [begins, lexed]
  simp only [List.getLast?_concat, Token.ending, if_true]
  cases front with
  | nil => exact ⟨_, rfl, offset, lexed⟩
  | cons token front => exact ⟨_, rfl, offset, lexed⟩

/-- Markup that the lexer takes is read from its front. -/
theorem exists_ofMarkup {markup : String} (solid : Token.Solid markup.toList)
    (lexes : Token.Lexes markup.toList) (base : Nat) :
    ∃ cursor, ofMarkup .strict markup base = .ok cursor ∧ cursor.Reads markup.toList :=
  exists_ofMarkup_of_lex (Token.lex_of_solid solid) lexes base

/-- The cursor on markup stands before the tokens of the lexer. -/
theorem lex_of_ofMarkup {mode : LexMode} {markup : String} {base : Nat} {cursor : Cursor}
    (made : ofMarkup mode markup base = .ok cursor) :
    Token.lex mode markup = .ok cursor.tokens := by
  unfold ofMarkup at made
  cases lexed : Token.lex mode markup with
  | error error =>
    rw [lexed] at made
    cases made
  | ok tokens =>
    obtain ⟨front, rfl, -⟩ := Token.tiles_of_lex lexed
    rw [lexed] at made
    cases made
    unfold ofTokens closeTokens
    simp only [List.getLast?_concat, Token.ending, if_true]
    cases front <;> rfl

end Cursor

/-! ## What parsers read -/

namespace Parser

variable {α β : Type} {P : α → Prop} {Q : β → Prop} {parser : Parser α} {cursor : Cursor}
  {kind : TokenKind} {text middle rest : List Char} {length bound : Nat}

/-- From the cursor on the parser reads a value with the property. It leaves the text `rest`, with
at most `bound` tokens after the first one. -/
def Reads (P : α → Prop) (parser : Parser α) (cursor : Cursor) (bound : Nat)
    (rest : List Char) : Prop :=
  ∃ value next, parser.run cursor = .ok value next ∧ P value ∧ next.Reads rest ∧
    next.later.length ≤ bound

theorem run_bind {next : α → Parser β} {value : α} {between : Cursor}
    (run : parser.run cursor = .ok value between) :
    (parser >>= next).run cursor = (next value).run between := by
  change parser cursor = _ at run
  change EStateM.bind parser next cursor = _
  unfold EStateM.bind
  rw [run]
  rfl

theorem reads_bind {next : α → Parser β} (first : Reads P parser cursor length middle)
    (later : ∀ value between, P value → between.Reads middle → between.later.length ≤ length →
      Reads Q (next value) between bound rest) :
    Reads Q (parser >>= next) cursor bound rest := by
  obtain ⟨value, between, run, holds, reads, shorter⟩ := first
  obtain ⟨result, last, runLast, property, readsRest, within⟩ :=
    later value between holds reads shorter
  exact ⟨result, last, (run_bind run).trans runLast, property, readsRest, within⟩

theorem Reads.mono (read : Reads P parser cursor length rest) (within : length ≤ bound) :
    Reads P parser cursor bound rest := by
  obtain ⟨value, next, run, holds, reads, shorter⟩ := read
  exact ⟨value, next, run, holds, reads, shorter.trans within⟩

theorem reads_pure {value : α} (reads : cursor.Reads rest) (holds : P value)
    (within : cursor.later.length ≤ bound) : Reads P (pure value) cursor bound rest :=
  ⟨value, cursor, rfl, holds, reads, within⟩

/-- A first action that is known, and what the parser does after it. -/
theorem reads_step {next : α → Parser β} {value : α} {between : Cursor}
    (run : parser.run cursor = .ok value between)
    (later : Reads Q (next value) between bound rest) :
    Reads Q (parser >>= next) cursor bound rest := by
  obtain ⟨result, last, runLast, holds, reads, within⟩ := later
  exact ⟨result, last, (run_bind run).trans runLast, holds, reads, within⟩

theorem reads_get {next : Cursor → Parser α}
    (later : Reads P (next cursor) cursor bound rest) :
    Reads P (get >>= next) cursor bound rest :=
  later

theorem run_expect (isKind : cursor.current.kind = kind) :
    (expect kind).run cursor = .ok cursor.current cursor.advance := by
  change (if cursor.isAt kind then consume else throw _).run cursor = _
  rw [if_pos (by simp [Cursor.isAt, isKind])]
  rfl

theorem run_discard_expect (isKind : cursor.current.kind = kind) :
    (discard (expect kind)).run cursor = .ok () cursor.advance := by
  change EStateM.map _ (expect kind) cursor = _
  unfold EStateM.map
  rw [show expect kind cursor = _ from run_expect isKind]

theorem run_take? (isKind : cursor.current.kind = kind) :
    (take? kind).run cursor = .ok (some cursor.current) cursor.advance := by
  change (if cursor.isAt kind then _ else _ : Parser (Option Token)).run cursor = _
  rw [if_pos (by simp [Cursor.isAt, isKind])]
  rfl

theorem run_take?_none (noKind : cursor.isAt kind = false) :
    (take? kind).run cursor = .ok none cursor := by
  change (if cursor.isAt kind then _ else _ : Parser (Option Token)).run cursor = _
  rw [noKind]
  rfl

theorem run_takeWord? {word : String} (takes : cursor.Takes .identifier word.toList rest) :
    (takeWord? word).run cursor = .ok (some cursor.current) cursor.advance := by
  change (if cursor.isAtWord word then _ else _ : Parser (Option Token)).run cursor = _
  rw [if_pos (by simp [Cursor.isAtWord, takes.isKind, takes.isText])]
  rfl

theorem run_takeWord?_none {word : String} (noWord : cursor.isAtWord word = false) :
    (takeWord? word).run cursor = .ok none cursor := by
  change (if cursor.isAtWord word then _ else _ : Parser (Option Token)).run cursor = _
  rw [noWord]
  rfl

/-- The end is required where it stands. -/
theorem run_expectEnd (reads : cursor.Reads []) : expectEnd.run cursor = .ok () cursor.advance :=
  run_discard_expect reads.kind_end

end Parser

end TextTemplate
