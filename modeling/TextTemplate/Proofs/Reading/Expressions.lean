import TextTemplate.Proofs.Readable
import TextTemplate.Proofs.Reading

/-!
# Expressions read back

The text of an expression, before a text that does not go on with it (`Closed`), is read as this
expression (`Expr.reads_parse`). Two keys that are numbers are one token, a float, and the parser
takes it apart again. A float literal is left out: its text need not give its bits back.
-/

namespace TextTemplate

open Token (IsLexeme IsInteger IsDigits Ends Lexes Parted Solid isWordChar)
open Text (isGap)

mutual

/-- No literal of the expression is a float. -/
def Expr.FloatFree : Expr → Prop
  | .float _ => False
  | .lookup steps => Step.FloatFree steps
  | _ => True

/-- No literal in the computed indices is a float. -/
def Step.FloatFree : List Step → Prop
  | [] => True
  | .key _ :: rest => Step.FloatFree rest
  | .index key :: rest => key.FloatFree ∧ Step.FloatFree rest

end

/-- Nothing at the front of the text goes on with an expression. -/
structure Closed (rest : List Char) : Prop where
  word : Ends .identifier rest
  number : Ends .integer rest
  noStep : ∀ cursor : Cursor, cursor.Reads rest →
    cursor.isAt .dot = false ∧ cursor.isAt .openSquare = false

namespace Closed

variable {rest : List Char}

theorem nil : Closed [] where
  word := Token.parted_nil.ends
  number := Token.parted_nil.ends
  noStep cursor reads := by
    have atEnd := reads.kind_end
    simp [Cursor.isAt, atEnd]

/-- Before a gap nothing else matters than that no step of a lookup comes after it. -/
theorem of_gaps {gaps : List Char} (areGaps : Token.AreGaps gaps) (occurs : gaps ≠ [])
    (noStep : ∀ cursor : Cursor, cursor.Reads rest →
      cursor.isAt .dot = false ∧ cursor.isAt .openSquare = false) : Closed (gaps ++ rest) where
  word := areGaps.ends occurs
  number := areGaps.ends occurs
  noStep cursor reads := noStep cursor (reads.gaps areGaps)

theorem gaps {gaps : List Char} (closed : Closed rest) (areGaps : Token.AreGaps gaps) :
    Closed (gaps ++ rest) := by
  by_cases none : gaps = []
  · subst none
    exact closed
  · exact of_gaps areGaps none closed.noStep

/-- No step of a lookup begins with such a lexeme. -/
theorem noStep_of_lexeme {kind : TokenKind} {text : List Char} (lexeme : IsLexeme kind text)
    (ends : Ends kind rest) (other : kind ≠ .dot ∧ kind ≠ .openSquare) (cursor : Cursor)
    (reads : cursor.Reads (text ++ rest)) :
    cursor.isAt .dot = false ∧ cursor.isAt .openSquare = false := by
  have takes : cursor.Takes kind text rest := reads.takes lexeme ends
  simp [Cursor.isAt, takes.isKind, other]

theorem gap (closed : Closed rest) : Closed (' ' :: rest) :=
  closed.gaps Token.areGaps_space

/-- Punctuation that no step of a lookup begins with. -/
theorem mark {kind : TokenKind} {c : Char} (member : (kind, c) ∈ Token.marks)
    (other : kind ∉ [.dot, .openSquare, .dash]) : Closed (c :: rest) := by
  have lexeme : IsLexeme kind [c] := Token.isLexeme_mark member
  have starts : Ends kind rest ∧ isWordChar c = false ∧ c.isDigit = false ∧ c ≠ '.' := by
    simp only [Token.marks, List.mem_cons, Prod.mk.injEq, List.not_mem_nil, or_false] at member
    rcases member with ⟨rfl, rfl⟩ | ⟨rfl, rfl⟩ | ⟨rfl, rfl⟩ | ⟨rfl, rfl⟩ | ⟨rfl, rfl⟩ | ⟨rfl, rfl⟩ |
      ⟨rfl, rfl⟩ | ⟨rfl, rfl⟩ | ⟨rfl, rfl⟩ | ⟨rfl, rfl⟩
    case inr.inl | inr.inr.inr.inr.inl | inr.inr.inr.inr.inr.inr.inr.inr.inr =>
      exact absurd (by decide) other
    all_goals exact ⟨trivial, by decide, by decide, by decide⟩
  obtain ⟨ends, noWord, noDigit, noDot⟩ := starts
  refine ⟨?_, ⟨?_, ?_⟩, fun cursor reads => ?_⟩
  · rintro _ ⟨⟩
    exact noWord
  · rintro _ ⟨⟩
    exact noDigit
  · rintro _ ⟨⟩
    exact absurd rfl noDot
  · simp only [List.mem_cons, List.not_mem_nil, or_false, not_or] at other
    exact noStep_of_lexeme lexeme ends ⟨other.1, other.2.1⟩ cursor reads

theorem closeSquare : Closed (']' :: rest) :=
  mark (show (TokenKind.closeSquare, ']') ∈ Token.marks by decide) (by decide)

theorem comma : Closed (',' :: rest) :=
  mark (show (TokenKind.comma, ',') ∈ Token.marks by decide) (by decide)

theorem pipe : Closed ('|' :: rest) :=
  mark (show (TokenKind.pipe, '|') ∈ Token.marks by decide) (by decide)

theorem closeRound : Closed (')' :: rest) :=
  mark (show (TokenKind.closeRound, ')') ∈ Token.marks by decide) (by decide)

/-- Two dots are no decimal point and no dot before a key. -/
theorem range : Closed ('.' :: '.' :: rest) where
  word := by
    rintro _ ⟨⟩
    rfl
  number := by
    refine ⟨?_, ?_⟩
    · rintro _ ⟨⟩
      rfl
    · rintro _ ⟨⟩
      rfl
  noStep := noStep_of_lexeme (show IsLexeme .range ['.', '.'] from rfl) trivial (by decide)

end Closed

/-- A key that is no run of digits begins with no digit. -/
theorem Step.IsKey.exists_first {name : String} (isKey : Step.IsKey name)
    (noDigits : ¬ IsDigits name.toList) :
    ∃ first more, name.toList = first :: more ∧ first.isDigit = false := by
  rcases isKey with ⟨first, more, start, -, same, -⟩ | ⟨sign, digits, isSign, isDigits, same⟩
  · exact ⟨first, more, same, Token.isDigit_of_isWordStart start⟩
  · rcases isSign with rfl | rfl
    · exact absurd (same ▸ isDigits) noDigits
    · exact ⟨'-', digits, same, rfl⟩

/-- A dot before a key is no range operator. -/
theorem Step.IsKey.ends_dot {name : String} (isKey : Step.IsKey name) (rest : List Char) :
    Ends .dot (name.toList ++ rest) := by
  have first : ∃ first more, name.toList = first :: more ∧ isWordChar first = true := by
    rcases isKey with ⟨first, more, start, -, same, -⟩ | isInteger
    · exact ⟨first, more, same, Token.isWordChar_of_isWordStart start⟩
    · obtain ⟨first, more, same, -⟩ := IsInteger.start isInteger
      exact ⟨first, more, same, IsInteger.isWordChar isInteger first (same ▸ List.mem_cons_self)⟩
  obtain ⟨first, more, same, word⟩ := first
  rw [same]
  rintro ⟨⟩
  exact absurd word (by decide)

/-- What stands after a word among steps does not go on with it. -/
theorem Step.ends_word {steps : List Step} {rest : List Char} (closed : Closed rest) :
    Ends .identifier ((Step.displayFrom false steps).toList ++ rest) := by
  cases steps with
  | nil => exact closed.word
  | cons step steps =>
    cases step with
    | key name =>
      simp [Step.displayFrom, Ends]
      decide
    | index key =>
      simp [Step.displayFrom, Ends]
      decide

/-- What stands after an integer among steps does not go on with it, but for digits after a dot. -/
theorem Step.ends_integer {steps : List Step} {rest : List Char} (closed : Closed rest)
    (areSteps : Step.ReadableSteps steps)
    (noDigits : ∀ name later, steps = .key name :: later → ¬ IsDigits name.toList) :
    Ends .integer ((Step.displayFrom false steps).toList ++ rest) := by
  cases areSteps with
  | nil => exact closed.number
  | @index key later readable _ =>
    simp [Step.displayFrom, Ends]
  | @key name later isKey _ =>
    obtain ⟨first, more, same, noDigit⟩ := isKey.exists_first (noDigits name later rfl)
    have text : (Step.displayFrom false (.key name :: later)).toList ++ rest =
        '.' :: first :: (more ++ ((Step.displayFrom false later).toList ++ rest)) := by
      simp [Step.displayFrom, same]
    rw [text]
    refine ⟨?_, ?_⟩
    · rintro _ ⟨⟩
      rfl
    · rintro _ ⟨⟩
      simp [noDigit]

/-- What ends a word ends a run of digits. -/
theorem Token.ends_float {rest : List Char} (ends : Ends .identifier rest) : Ends .float rest := by
  intro c first
  cases digit : c.isDigit with
  | false => rfl
  | true =>
    have noWord : isWordChar c = false := ends c first
    rw [Token.isWordChar_of_isDigit digit] at noWord
    cases noWord

/-- A key is one lexeme, unless it is a number before a run of digits. -/
theorem Step.IsKey.isLexeme {name : String} {later : List Step} {rest : List Char}
    (isKey : Step.IsKey name) (areSteps : Step.ReadableSteps later) (closed : Closed rest)
    (apart : ∀ fraction more, later = .key fraction :: more → IsInteger name.toList →
      ¬ IsDigits fraction.toList) :
    ∃ kind, (kind = .identifier ∨ kind = .integer) ∧ IsLexeme kind name.toList ∧
      Ends kind ((Step.displayFrom false later).toList ++ rest) := by
  rcases isKey with word | isInteger
  · exact ⟨.identifier, .inl rfl, word, Step.ends_word closed⟩
  · have ends := Step.ends_integer closed areSteps fun fraction more same =>
      apart fraction more same isInteger
    exact ⟨.integer, .inr rfl, isInteger, ends⟩

/-! ## Texts of expressions -/

namespace Step

variable {first : Bool} {name : String} {key : Expr} {later : List Step} {rest : List Char}

theorem text_head : (displayFrom true (.key name :: later)).toList ++ rest =
    name.toList ++ ((displayFrom false later).toList ++ rest) := by
  simp [displayFrom]

theorem text_key : (displayFrom false (.key name :: later)).toList ++ rest =
    '.' :: (name.toList ++ ((displayFrom false later).toList ++ rest)) := by
  simp [displayFrom]

/-- Two keys with a dot between them that the lexer takes for a decimal point. -/
theorem text_float {whole fraction : String} :
    whole.toList ++ ((displayFrom false (.key fraction :: later)).toList ++ rest) =
      (whole.toList ++ '.' :: fraction.toList) ++ ((displayFrom false later).toList ++ rest) := by
  simp [displayFrom]

theorem isLexeme_float {whole fraction : String} (isInteger : IsInteger whole.toList)
    (isDigits : IsDigits fraction.toList) :
    IsLexeme .float (whole.toList ++ '.' :: fraction.toList) :=
  ⟨_, _, isInteger, isDigits, rfl⟩

theorem text_index : (displayFrom first (.index key :: later)).toList ++ rest =
    '[' :: (key.display.toList ++ ']' :: ((displayFrom false later).toList ++ rest)) := by
  simp [displayFrom]

end Step

namespace Expr

theorem isLexeme_nil : IsLexeme .identifier "nil".toList :=
  ⟨'n', "il".toList, rfl, List.all_eq_true.1 rfl, rfl, by decide⟩

theorem isLexeme_true : IsLexeme .identifier "true".toList :=
  ⟨'t', "rue".toList, rfl, List.all_eq_true.1 rfl, rfl, by decide⟩

theorem isLexeme_false : IsLexeme .identifier "false".toList :=
  ⟨'f', "alse".toList, rfl, List.all_eq_true.1 rfl, rfl, by decide⟩

theorem isLexeme_int (n : Int64) : IsLexeme .integer (int n).display.toList := by
  show IsInteger (Number.decimal n).toList
  rw [Number.decimal, String.toList_ofList]
  exact Number.isInteger_decimalDigits n.toInt

/-- A string is written in quotes that it lacks. -/
theorem exists_shown {text : String} {quote : Char} (isQuote : quote = '\'' ∨ quote = '"')
    (free : quote ∉ text.toList) :
    ∃ shown, (shown = '\'' ∨ shown = '"') ∧ shown ∉ text.toList ∧
      (string text).display.toList = shown :: (text.toList ++ [shown]) := by
  by_cases single : '\'' ∈ text.toList
  · refine ⟨'"', .inr rfl, ?_, by simp [display, single]⟩
    rcases isQuote with rfl | rfl
    · exact absurd single free
    · exact free
  · exact ⟨'\'', .inl rfl, single, by simp [display, single]⟩

theorem isLexeme_string {text : String} {quote : Char} (isQuote : quote = '\'' ∨ quote = '"')
    (free : quote ∉ text.toList) : IsLexeme .string (string text).display.toList := by
  obtain ⟨shown, isShown, freeShown, display⟩ := exists_shown isQuote free
  exact ⟨shown, text.toList, isShown, freeShown, display⟩

end Expr

mutual

/-- The lexer takes the text of an expression. -/
theorem Expr.Readable.lexes {expr : Expr} (readable : expr.Readable) (floatFree : expr.FloatFree)
    {rest : List Char} (closed : Closed rest) (lexes : Lexes rest) :
    Lexes (expr.display.toList ++ rest) := by
  match readable with
  | .nil => exact lexes.lexeme Expr.isLexeme_nil closed.word
  | .bool true => exact lexes.lexeme Expr.isLexeme_true closed.word
  | .bool false => exact lexes.lexeme Expr.isLexeme_false closed.word
  | .int n => exact lexes.lexeme (Expr.isLexeme_int n) closed.number
  | .float x => exact floatFree.elim
  | .string isQuote free => exact lexes.lexeme (Expr.isLexeme_string isQuote free) trivial
  | .lookup path _ => exact path.lexes floatFree closed lexes

/-- The lexer takes the text of a lookup. -/
theorem Step.ReadablePath.lexes {steps : List Step} (path : Step.ReadablePath steps)
    (floatFree : Step.FloatFree steps) {rest : List Char} (closed : Closed rest)
    (lexes : Lexes rest) : Lexes ((Step.displayFrom true steps).toList ++ rest) := by
  match path with
  | .key word areSteps =>
    rw [Step.text_head]
    exact (areSteps.lexes floatFree closed lexes).lexeme word (Step.ends_word closed)
  | .index readable areSteps =>
    rw [Step.text_index]
    have later : Lexes (']' :: _) :=
      (areSteps.lexes floatFree.2 closed lexes).mark .closeSquare (by decide) trivial
    exact (readable.lexes floatFree.1 .closeSquare later).mark .openSquare (by decide) trivial

/-- The lexer takes the text of steps. -/
theorem Step.ReadableSteps.lexes {steps : List Step} (areSteps : Step.ReadableSteps steps)
    (floatFree : Step.FloatFree steps) {rest : List Char} (closed : Closed rest)
    (lexes : Lexes rest) : Lexes ((Step.displayFrom false steps).toList ++ rest) := by
  match areSteps with
  | .nil => exact lexes
  | .index readable areSteps =>
    rw [Step.text_index]
    have later : Lexes (']' :: _) :=
      (areSteps.lexes floatFree.2 closed lexes).mark .closeSquare (by decide) trivial
    exact (readable.lexes floatFree.1 .closeSquare later).mark .openSquare (by decide) trivial
  | @Step.ReadableSteps.key name later isKey areSteps =>
    rw [Step.text_key]
    refine Lexes.mark .dot (by decide) (isKey.ends_dot _) ?_
    by_cases joined : ∃ fraction more, later = .key fraction :: more ∧
        IsInteger name.toList ∧ IsDigits fraction.toList
    · obtain ⟨fraction, more, rfl, isInteger, isDigits⟩ := joined
      match areSteps with
      | @Step.ReadableSteps.key _ _ _ areMore =>
        rw [Step.text_float]
        exact (areMore.lexes floatFree closed lexes).lexeme
          (Step.isLexeme_float isInteger isDigits) (Token.ends_float (Step.ends_word closed))
    · obtain ⟨kind, -, lexeme, ends⟩ := isKey.isLexeme areSteps closed
        fun fraction more same isInteger isDigits =>
          joined ⟨fraction, more, same, isInteger, isDigits⟩
      exact (areSteps.lexes floatFree closed lexes).lexeme lexeme ends

end

theorem Step.IsKey.solid {name : String} (isKey : Step.IsKey name) : Solid name.toList :=
  isKey.elim IsLexeme.ends IsLexeme.ends

/-- Steps end with a name or a bracket. -/
theorem Step.ReadableSteps.solid {steps : List Step} (areSteps : Step.ReadableSteps steps)
    {front : List Char} (solid : Solid front) :
    Solid (front ++ (Step.displayFrom false steps).toList) := by
  match areSteps with
  | .nil => simpa [Step.displayFrom] using solid
  | @Step.ReadableSteps.key name later isKey areSteps =>
    have front : Solid (front ++ (['.'] ++ name.toList)) := solid.append isKey.solid
    simpa [Step.displayFrom] using areSteps.solid front
  | @Step.ReadableSteps.index inner later _ areSteps =>
    have bracket : Solid [']'] := ⟨']', ']', rfl, rfl, rfl, rfl⟩
    have front : Solid (front ++ ('[' :: inner.display.toList ++ [']'])) := solid.append bracket
    simpa [Step.displayFrom] using areSteps.solid front

/-- The text of an expression has no blank at its ends. -/
theorem Expr.Readable.solid {expr : Expr} (readable : expr.Readable) (floatFree : expr.FloatFree) :
    Solid expr.display.toList := by
  match readable with
  | .nil => exact Expr.isLexeme_nil.ends
  | .bool true => exact Expr.isLexeme_true.ends
  | .bool false => exact Expr.isLexeme_false.ends
  | .int n => exact (Expr.isLexeme_int n).ends
  | .float x => exact floatFree.elim
  | .string isQuote free => exact (Expr.isLexeme_string isQuote free).ends
  | .lookup (.key word areSteps) _ =>
    simpa [Expr.display, Step.displayFrom] using areSteps.solid (IsLexeme.ends word)
  | .lookup (@Step.ReadablePath.index key later _ areSteps) _ =>
    have front : Solid (['['] ++ (key.display.toList ++ [']'])) :=
      Solid.append ⟨'[', '[', rfl, rfl, rfl, rfl⟩ ⟨']', ']', rfl, rfl, rfl, rfl⟩
    simpa [Expr.display, Step.displayFrom] using areSteps.solid front

/-! ## Parsers of expressions -/

namespace Expr

open TextTemplate.Parser (Reads reads_bind reads_step reads_get reads_pure run_expect
  run_discard_expect run_take? run_take?_none)

variable {cursor : Cursor} {middle rest : List Char} {fuel bound : Nat} {steps : List Step}

/-- No step begins where nothing goes on with an expression. -/
theorem reads_noSteps (reads : cursor.Reads rest) (closed : Closed rest) :
    Reads (· = []) (parseStepsWith fuel) cursor cursor.later.length rest := by
  obtain ⟨noDot, noSquare⟩ := closed.noStep cursor reads
  cases fuel with
  | zero => exact reads_pure reads rfl (Nat.le_refl _)
  | succ fuel =>
    unfold parseStepsWith
    refine reads_step (run_take?_none noDot) ?_
    refine reads_get ?_
    rw [noSquare]
    exact reads_pure reads rfl (Nat.le_refl _)

/-- A lookup that begins with a word. -/
theorem reads_head {name : String} (takes : cursor.Takes .identifier name.toList middle)
    (later : Reads (· = steps) (parseStepsWith fuel) cursor.advance bound rest) :
    Reads (· = .key name :: steps) (parsePathWith (fuel + 1)) cursor bound rest := by
  unfold parsePathWith
  refine reads_get ?_
  rw [if_neg (by simp [Cursor.isAt, takes.isKind])]
  refine reads_step (run_expect takes.isKind) ?_
  refine reads_bind later ?_
  rintro _ between rfl reads within
  refine reads_pure reads ?_ within
  rw [takes.isText, String.ofList_toList]

/-- A computed index stands between brackets. -/
theorem reads_index {key : Expr} (takes : cursor.Takes .openSquare ['['] middle)
    (read : Reads (· = key) (parseWith fuel) cursor.advance bound (']' :: rest)) :
    Reads (· = .index key) (parseIndex (parseWith fuel)) cursor bound rest := by
  refine reads_step (run_discard_expect takes.isKind) ?_
  refine reads_bind read ?_
  rintro _ between rfl reads within
  have closing : between.Takes .closeSquare [']'] rest :=
    Cursor.Reads.takes reads (Token.isLexeme_mark (by decide)) trivial
  refine reads_step (run_discard_expect closing.isKind) ?_
  have count := closing.count
  exact reads_pure closing.reads rfl (by omega)

/-- A computed index, and the steps after it. -/
theorem reads_indexThen {key : Expr} {length : Nat}
    (first : Reads (· = .index key) (parseIndex (parseWith fuel)) cursor length middle)
    (later : ∀ between : Cursor, between.Reads middle → between.later.length ≤ length →
      Reads (· = steps) (parseStepsWith fuel) between bound rest) :
    Reads (· = .index key :: steps) (do
      let step ← parseIndex (parseWith fuel)
      return step :: (← parseStepsWith fuel)) cursor bound rest := by
  refine reads_bind first ?_
  rintro _ between rfl reads within
  refine reads_bind (later between reads within) ?_
  rintro _ last rfl reads within
  exact reads_pure reads rfl within

/-- Keys after a dot, and the steps after them. -/
theorem reads_keysThen {keys : List Step} {text : List Char} {length : Nat}
    (takes : cursor.Takes .dot ['.'] text)
    (first : Reads (· = keys) parseKeys cursor.advance length middle)
    (later : ∀ between : Cursor, between.Reads middle → between.later.length ≤ length →
      Reads (· = steps) (parseStepsWith fuel) between bound rest) :
    Reads (· = keys ++ steps) (parseStepsWith (fuel + 1)) cursor bound rest := by
  unfold parseStepsWith
  refine reads_step (run_take? takes.isKind) (reads_bind first ?_)
  rintro _ between rfl reads within
  refine reads_bind (later between reads within) ?_
  rintro _ last rfl reads within
  exact reads_pure reads rfl within

/-- A lookup is read where a word or an opening bracket stands. -/
theorem reads_ofPath (start : cursor.current.kind = .identifier ∨ cursor.current.kind = .openSquare)
    (path : Reads (· = steps) (parsePathWith fuel) cursor bound rest) :
    Reads (· = ofPath steps) (parseWith (fuel + 1)) cursor bound rest := by
  unfold parseWith
  refine reads_get ?_
  have goesOn : Reads (· = ofPath steps) (do return ofPath (← parsePathWith fuel)) cursor bound
      rest := by
    refine reads_bind path ?_
    rintro _ between rfl reads within
    exact reads_pure reads rfl within
  rcases start with word | bracket
  · rw [word]
    exact goesOn
  · rw [bracket]
    exact goesOn

/-- One key after a dot. -/
theorem reads_key {name : String} {kind : TokenKind} (isKind : kind = .identifier ∨ kind = .integer)
    (takes : cursor.Takes kind name.toList rest) (within : cursor.later.length ≤ bound + 1) :
    Reads (· = [Step.key name]) parseKeys cursor bound rest := by
  have count := takes.count
  have taken : Reads (· = [Step.key name]) (do
      let token ← Parser.consume
      return [Step.key token.text]) cursor bound rest := by
    refine ⟨_, cursor.advance, rfl, ?_, takes.reads, by omega⟩
    rw [takes.isText, String.ofList_toList]
  refine reads_get ?_
  rw [takes.isKind]
  rcases isKind with rfl | rfl
  · exact taken
  · exact taken

/-- Two keys with a dot between them that the lexer takes for a decimal point. -/
theorem reads_twoKeys {whole fraction : String} (isInteger : IsInteger whole.toList)
    (isDigits : IsDigits fraction.toList)
    (takes : cursor.Takes .float (whole.toList ++ '.' :: fraction.toList) rest)
    (within : cursor.later.length ≤ bound + 1) :
    Reads (· = [.key whole, .key fraction]) parseKeys cursor bound rest := by
  have count := takes.count
  refine reads_get ?_
  rw [takes.isKind]
  refine ⟨_, cursor.advance, rfl, ?_, takes.reads, by omega⟩
  rw [takes.isText, String.toList_ofList, splitOn_float isInteger isDigits]
  simp

theorem reads_string {text : String} {quote : Char} (isQuote : quote = '\'' ∨ quote = '"')
    (free : quote ∉ text.toList)
    (reads : cursor.Reads ((string text).display.toList ++ rest)) :
    Reads (· = string text) (parseWith (fuel + 1)) cursor cursor.later.length rest := by
  have takes := reads.takes (isLexeme_string isQuote free) trivial
  obtain ⟨shown, -, -, display⟩ := exists_shown isQuote free
  rw [display] at takes
  have count := takes.count
  unfold parseWith
  refine reads_get ?_
  rw [takes.isKind]
  refine ⟨_, cursor.advance, rfl, ?_, takes.reads, by omega⟩
  have quotes : cursor.current.text.toList = shown :: (text.toList ++ [shown]) := by
    rw [takes.isText, String.toList_ofList]
  show string cursor.current.unquoted = string text
  rw [Token.unquoted_of_quotes takes.isKind quotes, String.ofList_toList]

theorem reads_int {n : Int64} (reads : cursor.Reads ((int n).display.toList ++ rest))
    (closed : Closed rest) :
    Reads (· = int n) (parseWith (fuel + 1)) cursor cursor.later.length rest := by
  have takes : cursor.Takes .integer (Number.decimal n).toList rest :=
    reads.takes (isLexeme_int n) closed.number
  have count := takes.count
  unfold parseWith
  refine reads_get ?_
  rw [takes.isKind]
  have number : Reads (· = n) (parseNumber .integer Number.read?) cursor cursor.later.length
      rest := by
    refine reads_get (reads_step (run_expect takes.isKind) ?_)
    rw [takes.isText, String.toList_ofList, Number.read?_decimal]
    exact reads_pure takes.reads rfl (by omega)
  refine reads_bind number ?_
  rintro _ between rfl reads within
  exact reads_pure reads rfl within

/-- A constant is written as a word. -/
theorem reads_constant {name : String} (word : IsLexeme .identifier name.toList)
    (reads : cursor.Reads (name.toList ++ rest)) (closed : Closed rest) :
    Reads (· = ofPath [.key name]) (parseWith (fuel + 2)) cursor cursor.later.length rest := by
  have takes := reads.takes word closed.word
  have count := takes.count
  refine reads_ofPath (.inl takes.isKind) (reads_head takes ?_)
  exact (reads_noSteps takes.reads closed).mono (by omega)

end Expr

mutual

/-- The text of an expression is read as this expression. -/
theorem Expr.Readable.reads {expr : Expr} (readable : expr.Readable) (floatFree : expr.FloatFree)
    {cursor : Cursor} {rest : List Char} {fuel : Nat}
    (reads : cursor.Reads (expr.display.toList ++ rest)) (closed : Closed rest)
    (enough : 2 * (cursor.later.length + 1) ≤ fuel) :
    Parser.Reads (· = expr) (Expr.parseWith fuel) cursor cursor.later.length rest := by
  obtain ⟨fuel, rfl⟩ : ∃ more, fuel = more + 2 := ⟨fuel - 2, by omega⟩
  match readable with
  | .nil => exact Expr.reads_constant Expr.isLexeme_nil reads closed
  | .bool true => exact Expr.reads_constant Expr.isLexeme_true reads closed
  | .bool false => exact Expr.reads_constant Expr.isLexeme_false reads closed
  | .int n => exact Expr.reads_int reads closed
  | .float x => exact floatFree.elim
  | .string isQuote free => exact Expr.reads_string isQuote free reads
  | .lookup path noConstant =>
    have enoughPath : 2 * (cursor.later.length + 1) ≤ fuel + 1 + 1 := enough
    obtain ⟨start, read⟩ := path.reads floatFree reads closed enoughPath
    have whole := Expr.reads_ofPath start read
    rwa [noConstant] at whole

/-- The text of a lookup is read as these steps. -/
theorem Step.ReadablePath.reads {steps : List Step} (path : Step.ReadablePath steps)
    (floatFree : Step.FloatFree steps) {cursor : Cursor} {rest : List Char} {fuel : Nat}
    (reads : cursor.Reads ((Step.displayFrom true steps).toList ++ rest)) (closed : Closed rest)
    (enough : 2 * (cursor.later.length + 1) ≤ fuel + 1) :
    (cursor.current.kind = .identifier ∨ cursor.current.kind = .openSquare) ∧
      Parser.Reads (· = steps) (Expr.parsePathWith fuel) cursor cursor.later.length rest := by
  obtain ⟨fuel, rfl⟩ : ∃ more, fuel = more + 1 := ⟨fuel - 1, by omega⟩
  match path with
  | @Step.ReadablePath.key name later word areSteps =>
    rw [Step.text_head] at reads
    have takes := reads.takes word (Step.ends_word closed)
    have count := takes.count
    refine ⟨.inl takes.isKind, Expr.reads_head takes ?_⟩
    have enoughSteps : 2 * (cursor.advance.later.length + 1) ≤ fuel := by omega
    exact (areSteps.reads floatFree takes.reads closed enoughSteps).mono (by omega)
  | @Step.ReadablePath.index key later readable areSteps =>
    rw [Step.text_index] at reads
    have takes : cursor.Takes .openSquare ['['] _ :=
      Cursor.Reads.takes reads (Token.isLexeme_mark (by decide)) trivial
    have count := takes.count
    refine ⟨.inr takes.isKind, ?_⟩
    unfold Expr.parsePathWith
    refine Parser.reads_get ?_
    rw [if_pos (by simp [Cursor.isAt, takes.isKind])]
    have enoughKey : 2 * (cursor.advance.later.length + 1) ≤ fuel := by omega
    have read := readable.reads floatFree.1 takes.reads .closeSquare enoughKey
    refine Expr.reads_indexThen (Expr.reads_index takes read) fun between reads within => ?_
    have enoughSteps : 2 * (between.later.length + 1) ≤ fuel := by omega
    exact (areSteps.reads floatFree.2 reads closed enoughSteps).mono (by omega)

/-- The text of steps is read as these steps. -/
theorem Step.ReadableSteps.reads {steps : List Step} (areSteps : Step.ReadableSteps steps)
    (floatFree : Step.FloatFree steps) {cursor : Cursor} {rest : List Char} {fuel : Nat}
    (reads : cursor.Reads ((Step.displayFrom false steps).toList ++ rest)) (closed : Closed rest)
    (enough : 2 * (cursor.later.length + 1) ≤ fuel) :
    Parser.Reads (· = steps) (Expr.parseStepsWith fuel) cursor cursor.later.length rest := by
  obtain ⟨fuel, rfl⟩ : ∃ more, fuel = more + 1 := ⟨fuel - 1, by omega⟩
  match areSteps with
  | .nil => exact Expr.reads_noSteps reads closed
  | @Step.ReadableSteps.index key later readable areSteps =>
    rw [Step.text_index] at reads
    have takes : cursor.Takes .openSquare ['['] _ :=
      Cursor.Reads.takes reads (Token.isLexeme_mark (by decide)) trivial
    have count := takes.count
    unfold Expr.parseStepsWith
    refine Parser.reads_step (Parser.run_take?_none (by simp [Cursor.isAt, takes.isKind])) ?_
    refine Parser.reads_get ?_
    rw [if_pos (by simp [Cursor.isAt, takes.isKind])]
    have enoughKey : 2 * (cursor.advance.later.length + 1) ≤ fuel := by omega
    have read := readable.reads floatFree.1 takes.reads .closeSquare enoughKey
    refine Expr.reads_indexThen (Expr.reads_index takes read) fun between reads within => ?_
    have enoughSteps : 2 * (between.later.length + 1) ≤ fuel := by omega
    exact (areSteps.reads floatFree.2 reads closed enoughSteps).mono (by omega)
  | @Step.ReadableSteps.key name later isKey areSteps =>
    rw [Step.text_key] at reads
    have takes : cursor.Takes .dot ['.']
        (name.toList ++ ((Step.displayFrom false later).toList ++ rest)) :=
      Cursor.Reads.takes reads (Token.isLexeme_mark (by decide)) (isKey.ends_dot _)
    have count := takes.count
    -- the lexer joins two keys only if both are numbers and the second has no sign
    by_cases joined : ∃ fraction more, later = .key fraction :: more ∧
        IsInteger name.toList ∧ IsDigits fraction.toList
    · obtain ⟨fraction, more, rfl, isInteger, isDigits⟩ := joined
      match areSteps with
      | @Step.ReadableSteps.key _ _ _ areMore =>
        have readsNumber := takes.reads
        rw [Step.text_float] at readsNumber
        have number := readsNumber.takes (Step.isLexeme_float isInteger isDigits)
          (Token.ends_float (Step.ends_word closed))
        have countNumber := number.count
        have two := Expr.reads_twoKeys isInteger isDigits number (Nat.le_of_eq countNumber.symm)
        refine Expr.reads_keysThen takes two fun between reads within => ?_
        have enoughSteps : 2 * (between.later.length + 1) ≤ fuel := by omega
        exact (areMore.reads floatFree reads closed enoughSteps).mono (by omega)
    · have apart : ∀ fraction more, later = .key fraction :: more → IsInteger name.toList →
          ¬ IsDigits fraction.toList :=
        fun fraction more same isInteger isDigits =>
          joined ⟨fraction, more, same, isInteger, isDigits⟩
      obtain ⟨kind, isKind, lexeme, ends⟩ := isKey.isLexeme areSteps closed apart
      have key := takes.reads.takes lexeme ends
      have countKey := key.count
      have one := Expr.reads_key isKind key (Nat.le_of_eq countKey.symm)
      refine Expr.reads_keysThen takes one fun between reads within => ?_
      have enoughSteps : 2 * (between.later.length + 1) ≤ fuel := by omega
      exact (areSteps.reads floatFree reads closed enoughSteps).mono (by omega)

end

/-- The text of an expression that can be read is read as this expression. -/
theorem Expr.reads_parse {expr : Expr} (readable : expr.Readable) (floatFree : expr.FloatFree)
    {cursor : Cursor} {rest : List Char} (reads : cursor.Reads (expr.display.toList ++ rest))
    (closed : Closed rest) :
    Parser.Reads (· = expr) Expr.parse cursor cursor.later.length rest :=
  Parser.reads_get (readable.reads floatFree reads closed (Nat.le_refl _))

end TextTemplate
