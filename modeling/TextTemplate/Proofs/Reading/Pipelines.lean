import TextTemplate.Pipeline
import TextTemplate.Proofs.Reading.Expressions

/-!
# Pipelines read back

A pipeline is written as its expression and its filters with their arguments (`Pipeline.text`). Both
the text of an expression and that of a pipeline are read as what was written
(`Expr.parse_inverts_display`).
-/

namespace TextTemplate

open Token (IsLexeme Ends Lexes Parted Solid)
open Text (isGap)
open TextTemplate.Parser (Reads reads_bind reads_step reads_get reads_pure run_expect run_take?
  run_take?_none)

/-- The parser returned this expression somewhere in markup that was lexed. -/
def Expr.Parsed (expr : Expr) : Prop :=
  ∃ mode markup cursor next, Token.lex mode markup = .ok cursor.tokens ∧
    Expr.parse.run cursor = .ok expr next

/-- The text is lexed as one identifier. -/
def Token.IsIdentifier (name : String) : Prop :=
  ∃ span stop, Token.lex .strict name = .ok [⟨.identifier, name, span⟩, .ending stop]

theorem Expr.Parsed.readable {expr : Expr} (parsed : expr.Parsed) : expr.Readable := by
  obtain ⟨mode, markup, cursor, next, lexed, run⟩ := parsed
  exact Expr.readable_of_parse (Cursor.lexed_of_lex lexed) run

theorem Token.IsIdentifier.isLexeme {name : String} (isIdentifier : Token.IsIdentifier name) :
    IsLexeme .identifier name.toList := by
  obtain ⟨span, stop, lexed⟩ := isIdentifier
  obtain ⟨front, same, tiles⟩ := Token.tiles_of_lex lexed
  have split : [⟨.identifier, name, span⟩] ++ [.ending stop] =
      front ++ [.ending (Token.trimmedSpan name).stop] := same
  have single : [⟨.identifier, name, span⟩] = front := List.append_inj_left' split rfl
  exact tiles.lexemes ⟨.identifier, name, span⟩ (single ▸ List.mem_singleton_self _)

theorem Token.isIdentifier_of_isLexeme {name : String}
    (word : IsLexeme .identifier name.toList) : Token.IsIdentifier name := by
  have taken : Token.lexFrom .strict 0 (name.toList ++ []) = _ :=
    Token.lexFrom_lexeme word Token.parted_nil.ends
  rw [List.append_nil, Token.lexFrom_nil, String.ofList_toList, ← Token.lex_of_solid word.ends]
    at taken
  exact ⟨_, _, taken⟩

namespace Pipeline

/-- The text of further arguments, each after a comma. -/
def moreText : List Expr → String
  | [] => ""
  | arg :: args => ", " ++ arg.display ++ moreText args

/-- The text of arguments, after a colon if there are any. -/
def argsText : List Expr → String
  | [] => ""
  | arg :: args => ": " ++ arg.display ++ moreText args

/-- The text of filters with their arguments, each after a bar. -/
def callsText : List (String × List Expr) → String
  | [] => ""
  | (name, args) :: calls => " | " ++ name ++ argsText args ++ callsText calls

/-- The text of an expression and of the filters that its value goes through. -/
def text (source : Expr) (calls : List (String × List Expr)) : String :=
  source.display ++ callsText calls

/-- An expression whose text is read back. -/
structure Plain (expr : Expr) : Prop where
  readable : expr.Readable
  floatFree : expr.FloatFree

/-- A filter call whose text is read back. -/
structure PlainCall (call : String × List Expr) : Prop where
  word : IsLexeme .identifier call.1.toList
  args : ∀ arg ∈ call.2, Plain arg

variable {expr : Expr} {args : List Expr} {name : String} {calls : List (String × List Expr)}
  {front rest : List Char} {cursor : Cursor} {fuel : Nat}

theorem text_more : (moreText (expr :: args)).toList ++ rest =
    ',' :: ' ' :: (expr.display.toList ++ ((moreText args).toList ++ rest)) := by
  simp [moreText]

theorem text_args : (argsText (expr :: args)).toList ++ rest =
    ':' :: ' ' :: (expr.display.toList ++ ((moreText args).toList ++ rest)) := by
  simp [argsText]

theorem text_calls : (callsText ((name, args) :: calls)).toList =
    ' ' :: '|' :: ' ' :: (name.toList ++ ((argsText args).toList ++ (callsText calls).toList)) := by
  simp [callsText]

/-! ## Texts of filter calls -/

theorem closed_calls (calls : List (String × List Expr)) : Closed (callsText calls).toList := by
  cases calls with
  | nil => exact .nil
  | cons call calls =>
    rw [text_calls]
    exact Closed.pipe.gap

theorem closed_more (closed : Closed rest) : Closed ((moreText args).toList ++ rest) := by
  cases args with
  | nil => exact closed
  | cons arg args =>
    rw [text_more]
    exact .comma

/-- A name ends where its arguments or the next filter begin. -/
theorem ends_name (args : List Expr) (closed : Closed rest) :
    Ends .identifier ((argsText args).toList ++ rest) := by
  cases args with
  | nil => exact closed.word
  | cons arg args =>
    rw [text_args]
    rintro _ ⟨⟩
    rfl

theorem lexes_more (plain : ∀ arg ∈ args, Plain arg) (closed : Closed rest) (lexes : Lexes rest) :
    Lexes ((moreText args).toList ++ rest) := by
  induction args with
  | nil => exact lexes
  | cons arg args ih =>
    rw [List.forall_mem_cons] at plain
    obtain ⟨⟨readable, floatFree⟩, plainLater⟩ := plain
    rw [text_more]
    have inner := readable.lexes floatFree (closed_more closed) (ih plainLater)
    exact (inner.gap rfl).mark .comma (by decide) trivial

theorem lexes_args (plain : ∀ arg ∈ args, Plain arg) (closed : Closed rest) (lexes : Lexes rest) :
    Lexes ((argsText args).toList ++ rest) := by
  cases args with
  | nil => exact lexes
  | cons arg args =>
    rw [List.forall_mem_cons] at plain
    obtain ⟨⟨readable, floatFree⟩, plainLater⟩ := plain
    rw [text_args]
    have later := lexes_more plainLater closed lexes
    have inner := readable.lexes floatFree (closed_more closed) later
    exact (inner.gap rfl).mark .colon (by decide) trivial

theorem lexes_calls (plain : ∀ call ∈ calls, PlainCall call) :
    Lexes (callsText calls).toList := by
  induction calls with
  | nil => exact Token.lexes_nil
  | cons call calls ih =>
    rw [List.forall_mem_cons] at plain
    obtain ⟨⟨word, plainArgs⟩, plainLater⟩ := plain
    rw [text_calls]
    have later := lexes_args plainArgs (closed_calls calls) (ih plainLater)
    have name := later.lexeme word (ends_name call.2 (closed_calls calls))
    exact ((name.gap rfl).mark .pipe (by decide) trivial).gap rfl

theorem solid_more (solid : Solid front) (plain : ∀ arg ∈ args, Plain arg) :
    Solid (front ++ (moreText args).toList) := by
  induction args generalizing front with
  | nil => simpa [moreText] using solid
  | cons arg args ih =>
    rw [List.forall_mem_cons] at plain
    obtain ⟨⟨readable, floatFree⟩, plainLater⟩ := plain
    have longer : Solid (front ++ ([',', ' '] ++ arg.display.toList)) :=
      solid.append (readable.solid floatFree)
    simpa [moreText] using ih longer plainLater

theorem solid_args (solid : Solid front) (plain : ∀ arg ∈ args, Plain arg) :
    Solid (front ++ (argsText args).toList) := by
  cases args with
  | nil => simpa [argsText] using solid
  | cons arg args =>
    rw [List.forall_mem_cons] at plain
    obtain ⟨⟨readable, floatFree⟩, plainLater⟩ := plain
    have longer : Solid (front ++ ([':', ' '] ++ arg.display.toList)) :=
      solid.append (readable.solid floatFree)
    simpa [argsText] using solid_more longer plainLater

theorem solid_calls (solid : Solid front) (plain : ∀ call ∈ calls, PlainCall call) :
    Solid (front ++ (callsText calls).toList) := by
  induction calls generalizing front with
  | nil => simpa [callsText] using solid
  | cons call calls ih =>
    rw [List.forall_mem_cons] at plain
    obtain ⟨⟨word, plainArgs⟩, plainLater⟩ := plain
    have named : Solid (front ++ ([' ', '|', ' '] ++ call.1.toList)) := solid.append word.ends
    simpa [callsText] using ih (solid_args named plainArgs) plainLater

/-! ## Parsers of filter calls -/

/-- After arguments stands the next filter's bar or the end. -/
theorem isAt_calls {kind : TokenKind} (noPipe : kind ≠ .pipe) (noEnd : kind ≠ .endOfMarkup)
    (reads : cursor.Reads (callsText calls).toList) : cursor.isAt kind = false := by
  cases calls with
  | nil =>
    have atEnd := reads.kind_end
    simp [Cursor.isAt, atEnd, noEnd.symm]
  | cons call calls =>
    rw [text_calls] at reads
    have takes : cursor.Takes .pipe ['|'] _ :=
      Cursor.Reads.takes (reads.gap rfl) (Token.isLexeme_mark (by decide)) trivial
    simp [Cursor.isAt, takes.isKind, noPipe.symm]

theorem reads_more (plain : ∀ arg ∈ args, Plain arg)
    (reads : cursor.Reads ((moreText args).toList ++ (callsText calls).toList))
    (enough : cursor.later.length ≤ fuel) :
    Reads (· = args) (parseMore fuel) cursor cursor.later.length (callsText calls).toList := by
  induction args generalizing cursor fuel with
  | nil =>
    cases fuel with
    | zero => exact reads_pure reads rfl (Nat.le_refl _)
    | succ fuel =>
      unfold parseMore
      have noComma : cursor.isAt .comma = false := isAt_calls (by decide) (by decide) reads
      refine reads_step (run_take?_none noComma) ?_
      exact reads_pure reads rfl (Nat.le_refl _)
  | cons arg args ih =>
    rw [List.forall_mem_cons] at plain
    obtain ⟨⟨readable, floatFree⟩, plainLater⟩ := plain
    rw [text_more] at reads
    have takes : cursor.Takes .comma [','] _ :=
      Cursor.Reads.takes reads (Token.isLexeme_mark (by decide)) trivial
    have count := takes.count
    obtain ⟨fuel, rfl⟩ : ∃ more, fuel = more + 1 := ⟨fuel - 1, by omega⟩
    unfold parseMore
    refine reads_step (run_take? takes.isKind) ?_
    have first := Expr.reads_parse readable floatFree (takes.reads.gap rfl)
      (closed_more (closed_calls calls))
    refine reads_bind first ?_
    rintro _ between rfl readsMore within
    refine reads_bind (ih plainLater readsMore (by omega)) ?_
    rintro _ last rfl readsRest shorter
    exact reads_pure readsRest rfl (by omega)

/-- A filter's name and its arguments are read. -/
theorem reads_call (plain : PlainCall (name, args))
    (reads : cursor.Reads (name.toList ++ ((argsText args).toList ++ (callsText calls).toList))) :
    Reads (fun call => (call.name, call.args) = (name, args)) parseCall cursor
      cursor.later.length (callsText calls).toList := by
  obtain ⟨word, plainArgs⟩ := plain
  have takes := reads.takes word (ends_name args (closed_calls calls))
  have count := takes.count
  have isName : cursor.current.text = name := by rw [takes.isText, String.ofList_toList]
  refine reads_get (reads_step (run_expect takes.isKind) ?_)
  cases args with
  | nil =>
    have noColon : cursor.advance.isAt .colon = false :=
      isAt_calls (by decide) (by decide) takes.reads
    refine reads_step (run_take?_none noColon) ?_
    exact reads_pure takes.reads (by rw [isName]) (by omega)
  | cons arg args =>
    rw [List.forall_mem_cons] at plainArgs
    obtain ⟨⟨readable, floatFree⟩, plainLater⟩ := plainArgs
    have readsArgs := takes.reads
    rw [text_args] at readsArgs
    have colon : cursor.advance.Takes .colon [':'] _ :=
      Cursor.Reads.takes readsArgs (Token.isLexeme_mark (by decide)) trivial
    have countColon := colon.count
    refine reads_step (run_take? colon.isKind) ?_
    have list : Reads (· = arg :: args) parseList cursor.advance.advance
        cursor.advance.advance.later.length (callsText calls).toList := by
      have first := Expr.reads_parse readable floatFree (colon.reads.gap rfl)
        (closed_more (closed_calls calls))
      refine reads_bind first ?_
      rintro _ between rfl readsMore within
      refine reads_get (reads_bind (reads_more plainLater readsMore (Nat.le_refl _)) ?_)
      rintro _ last rfl readsRest shorter
      exact reads_pure readsRest rfl (by omega)
    refine reads_bind list ?_
    rintro _ last rfl readsRest shorter
    exact reads_pure readsRest (by rw [isName]) (by omega)

theorem reads_calls (plain : ∀ call ∈ calls, PlainCall call)
    (reads : cursor.Reads (callsText calls).toList) (enough : cursor.later.length ≤ fuel) :
    Reads (fun read => read.map (fun call => (call.name, call.args)) = calls) (parseCalls fuel)
      cursor cursor.later.length [] := by
  induction calls generalizing cursor fuel with
  | nil =>
    cases fuel with
    | zero => exact reads_pure reads rfl (Nat.le_refl _)
    | succ fuel =>
      unfold parseCalls
      have atEnd := reads.kind_end
      refine reads_step (run_take?_none (by simp [Cursor.isAt, atEnd])) ?_
      exact reads_pure reads rfl (Nat.le_refl _)
  | cons call calls ih =>
    rw [List.forall_mem_cons] at plain
    rw [text_calls] at reads
    have takes : cursor.Takes .pipe ['|'] _ :=
      Cursor.Reads.takes (reads.gap rfl) (Token.isLexeme_mark (by decide)) trivial
    have count := takes.count
    obtain ⟨fuel, rfl⟩ : ∃ more, fuel = more + 1 := ⟨fuel - 1, by omega⟩
    unfold parseCalls
    refine reads_step (run_take? takes.isKind) ?_
    refine reads_bind (reads_call plain.1 (takes.reads.gap rfl)) ?_
    intro read between same readsCalls within
    refine reads_bind (ih plain.2 readsCalls (by omega)) ?_
    intro later last sameLater readsRest shorter
    exact reads_pure readsRest (by rw [List.map_cons, same, sameLater]) (by omega)

/-- The text of a pipeline is read as this pipeline, to its end. -/
theorem reads_parse (plain : Plain expr) (plainCalls : ∀ call ∈ calls, PlainCall call)
    (reads : cursor.Reads (text expr calls).toList) :
    Reads (fun pipeline => pipeline.source = expr ∧
      pipeline.calls.map (fun call => (call.name, call.args)) = calls) parse cursor
      cursor.later.length [] := by
  rw [text, String.toList_append] at reads
  refine reads_bind
    (Expr.reads_parse plain.readable plain.floatFree reads (closed_calls calls)) ?_
  rintro _ between rfl readsCalls within
  refine reads_get (reads_bind (reads_calls plainCalls readsCalls (Nat.le_refl _)) ?_)
  intro read last same readsRest shorter
  exact reads_pure readsRest ⟨rfl, same⟩ (by omega)

end Pipeline

/-- What the parser can return it returns on its own text. -/
theorem Expr.Readable.parsed {expr : Expr} (readable : expr.Readable) (floatFree : expr.FloatFree) :
    expr.Parsed := by
  have lexes := readable.lexes floatFree .nil Token.lexes_nil
  rw [List.append_nil] at lexes
  obtain ⟨cursor, made, reads⟩ := Cursor.exists_ofMarkup (readable.solid floatFree) lexes 0
  rw [← List.append_nil expr.display.toList] at reads
  obtain ⟨read, next, run, same, -⟩ := Expr.reads_parse readable floatFree reads .nil
  rw [same] at run
  exact ⟨.strict, expr.display, cursor, next, Cursor.lex_of_ofMarkup made, run⟩

/-- The text of every expression without floats that the parser returned is read as this very
expression, up to its end, and so is a pipeline that is written with such expressions and with
filter names that are identifiers. -/
theorem Expr.parse_inverts_display :
    (∀ (expr : Expr) (base : Nat), expr.Parsed → expr.FloatFree →
      ∃ cursor next, Cursor.ofMarkup .strict expr.display base = .ok cursor ∧
        Expr.parse.run cursor = .ok expr next ∧ next.isAtEnd = true) ∧
    ∀ (source : Expr) (calls : List (String × List Expr)) (base : Nat),
      source.Parsed → source.FloatFree →
      (∀ call ∈ calls, Token.IsIdentifier call.1 ∧ ∀ arg ∈ call.2, arg.Parsed ∧ arg.FloatFree) →
      ∃ cursor pipeline next,
        Cursor.ofMarkup .strict (Pipeline.text source calls) base = .ok cursor ∧
        Pipeline.parse.run cursor = .ok pipeline next ∧ pipeline.source = source ∧
        pipeline.calls.map (fun call => (call.name, call.args)) = calls ∧
        next.isAtEnd = true := by
  refine ⟨fun expr base parsed floatFree => ?_, fun source calls base parsed floatFree plain => ?_⟩
  · have readable := parsed.readable
    have lexes := readable.lexes floatFree .nil Token.lexes_nil
    rw [List.append_nil] at lexes
    obtain ⟨cursor, made, reads⟩ :=
      Cursor.exists_ofMarkup (readable.solid floatFree) lexes base
    rw [← List.append_nil expr.display.toList] at reads
    obtain ⟨_, next, run, rfl, readsRest, -⟩ := Expr.reads_parse readable floatFree reads .nil
    exact ⟨cursor, next, made, run, readsRest.isAtEnd⟩
  · have readable := parsed.readable
    have plainCalls : ∀ call ∈ calls, Pipeline.PlainCall call := fun call member =>
      ⟨(plain call member).1.isLexeme, fun arg isArg =>
        ⟨((plain call member).2 arg isArg).1.readable, ((plain call member).2 arg isArg).2⟩⟩
    have solid := Pipeline.solid_calls (readable.solid floatFree) plainCalls
    have lexes := readable.lexes floatFree (Pipeline.closed_calls calls)
      (Pipeline.lexes_calls plainCalls)
    rw [← String.toList_append] at solid lexes
    obtain ⟨cursor, made, reads⟩ := Cursor.exists_ofMarkup solid lexes base
    obtain ⟨pipeline, next, run, ⟨same, sameCalls⟩, readsRest, -⟩ :=
      Pipeline.reads_parse ⟨readable, floatFree⟩ plainCalls reads
    exact ⟨cursor, pipeline, next, made, run, same, sameCalls, readsRest.isAtEnd⟩

theorem Expr.parse_inverts_display_joined_keys :
    ∃ cursor pipeline next,
      Cursor.ofMarkup .strict "a.1.2 | f: a.1.2, a.1.2 | g" 3 = .ok cursor ∧
      Pipeline.parse.run cursor = .ok pipeline next ∧
      pipeline.source = .lookup [.key "a", .key "1", .key "2"] ∧
      pipeline.calls.map (fun call => (call.name, call.args)) =
        [("f", [.lookup [.key "a", .key "1", .key "2"], .lookup [.key "a", .key "1", .key "2"]]),
          ("g", [])] ∧
      next.isAtEnd = true := by
  have word (c : Char) (isWord : Token.isWordStart c = true) (other : [c] ≠ "contains".toList) :
      IsLexeme .identifier [c] := ⟨c, [], isWord, nofun, rfl, other⟩
  have dot : IsLexeme .dot ['.'] := Token.isLexeme_mark (by decide)
  have digit (c : Char) (isDigit : c.isDigit = true) : Token.IsDigits [c] :=
    ⟨nofun, List.forall_mem_singleton.2 isDigit⟩
  have number : IsLexeme .float ['1', '.', '2'] :=
    ⟨['1'], ['2'], ⟨[], ['1'], .inl rfl, digit '1' rfl, rfl⟩, digit '2' rfl, rfl⟩
  have solid : Solid "a.1.2".toList := ⟨'a', '2', rfl, rfl, rfl, rfl⟩
  have lexed : Token.lexFrom .lax 0 (['a'] ++ (['.'] ++ (['1', '.', '2'] ++ []))) = .ok
      [⟨.identifier, "a", ⟨0, 1⟩⟩, ⟨.dot, ".", ⟨1, 2⟩⟩, ⟨.float, "1.2", ⟨2, 5⟩⟩, .ending 5] := by
    rw [Token.lexFrom_lexeme (word 'a' rfl (by decide)) (by rintro _ ⟨⟩; rfl),
      Token.lexFrom_lexeme dot (by rintro ⟨⟩), Token.lexFrom_lexeme number Token.parted_nil.ends,
      Token.lexFrom_nil]
    rfl
  have parsed : Expr.Parsed (.lookup [.key "a", .key "1", .key "2"]) := by
    refine ⟨.lax, "a.1.2", ⟨[], ⟨.identifier, "a", ⟨0, 1⟩⟩, [⟨.dot, ".", ⟨1, 2⟩⟩,
      ⟨.float, "1.2", ⟨2, 5⟩⟩, .ending 5], 0⟩, _, ?_, rfl⟩
    rw [Token.lex_of_solid solid]
    exact lexed
  let path : Expr := .lookup [.key "a", .key "1", .key "2"]
  have text : Pipeline.text path [("f", [path, path]), ("g", [])] = "a.1.2 | f: a.1.2, a.1.2 | g" :=
    by rfl
  rw [← text]
  refine Expr.parse_inverts_display.2 path [("f", [path, path]), ("g", [])] 3 parsed trivial ?_
  simp only [List.forall_mem_cons]
  refine ⟨⟨Token.isIdentifier_of_isLexeme (word 'f' rfl (by decide)), ⟨parsed, trivial⟩,
    ⟨parsed, trivial⟩, nofun⟩,
    ⟨Token.isIdentifier_of_isLexeme (word 'g' rfl (by decide)), nofun⟩, nofun⟩

end TextTemplate
