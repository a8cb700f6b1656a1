import TextTemplate.Expr.Parser
import TextTemplate.Proofs.Tiling

/-!
# Expressions that can be read

The shape of what the parser of expressions returns (`Expr.Readable`): strings lack one of the two
quotes, lookups begin with a word or a computed index, the names after that are words or integers as
they were written, and no lookup is the name of a constant alone. Whatever the parser returns on
tokens of the lexer has this shape (`Expr.readable_of_parse`).
-/

namespace TextTemplate

open Token (IsLexeme IsInteger IsDigits)

/-- The names that a key after a dot can have. -/
def Step.IsKey (name : String) : Prop :=
  IsLexeme .identifier name.toList ∨ IsLexeme .integer name.toList

mutual

/-- The parser can return this expression. -/
inductive Expr.Readable : Expr → Prop
  | nil : Expr.Readable .nil
  | bool (b : Bool) : Expr.Readable (.bool b)
  | int (n : Int64) : Expr.Readable (.int n)
  | float (x : Float) : Expr.Readable (.float x)
  | string {text : String} {quote : Char} (isQuote : quote = '\'' ∨ quote = '"')
      (free : quote ∉ text.toList) : Expr.Readable (.string text)
  | lookup {steps : List Step} (path : Step.ReadablePath steps)
      (noConstant : Expr.ofPath steps = .lookup steps) : Expr.Readable (.lookup steps)

/-- The parser can return these steps as a lookup. -/
inductive Step.ReadablePath : List Step → Prop
  | key {name : String} {rest : List Step} (word : IsLexeme .identifier name.toList)
      (later : Step.ReadableSteps rest) : Step.ReadablePath (.key name :: rest)
  | index {key : Expr} {rest : List Step} (readable : Expr.Readable key)
      (later : Step.ReadableSteps rest) : Step.ReadablePath (.index key :: rest)

/-- The parser can return these steps after the first one of a lookup. -/
inductive Step.ReadableSteps : List Step → Prop
  | nil : Step.ReadableSteps []
  | key {name : String} {rest : List Step} (isKey : Step.IsKey name)
      (later : Step.ReadableSteps rest) : Step.ReadableSteps (.key name :: rest)
  | index {key : Expr} {rest : List Step} (readable : Expr.Readable key)
      (later : Step.ReadableSteps rest) : Step.ReadableSteps (.index key :: rest)

end

/-! ## Cursors in lexed markup -/

namespace Cursor

/-- Each token is a lexeme of its kind or an end token. -/
def Lexed (cursor : Cursor) : Prop :=
  ∀ token ∈ cursor.tokens, token.kind = .endOfMarkup ∨ IsLexeme token.kind token.text.toList

variable {cursor : Cursor}

theorem tokens_advance (cursor : Cursor) : cursor.advance.tokens = cursor.tokens := by
  unfold advance
  split
  · rfl
  · obtain ⟨passed, current, later, base⟩ := cursor
    cases later with
    | nil => rfl
    | cons token later => simp [next, tokens]

theorem Lexed.advance (lexed : cursor.Lexed) : cursor.advance.Lexed := by
  unfold Lexed
  rw [tokens_advance]
  exact lexed

theorem Lexed.current (lexed : cursor.Lexed) {kind : TokenKind} (isAt : cursor.current.kind = kind)
    (noEnd : kind ≠ .endOfMarkup) : IsLexeme kind cursor.current.text.toList := by
  have member : cursor.current ∈ cursor.tokens := by simp [tokens]
  rcases lexed _ member with atEnd | lexeme
  · exact absurd (isAt ▸ atEnd) noEnd
  · rwa [isAt] at lexeme

theorem lexed_of_lex {mode : LexMode} {markup : String}
    (lexed : Token.lex mode markup = .ok cursor.tokens) : cursor.Lexed := by
  obtain ⟨front, same, tiles⟩ := Token.tiles_of_lex lexed
  intro token member
  rw [same] at member
  rcases List.mem_append.1 member with inFront | atEnd
  · exact .inr (tiles.lexemes token inFront)
  · cases List.mem_singleton.1 atEnd
    exact .inl rfl

end Cursor

/-! ## What parsers return on lexed markup -/

namespace Parser

variable {α β : Type} {P : α → Prop} {Q : β → Prop} {parser : Parser α} {cursor : Cursor}

/-- What the parser returns at this place has the property, and the tokens are lexed as before. -/
def ReturnsAt (P : α → Prop) (parser : Parser α) (cursor : Cursor) : Prop :=
  ∀ value next, parser.run cursor = .ok value next → P value ∧ next.Lexed

/-- On lexed markup the parser returns only values with the property. -/
def Returns (P : α → Prop) (parser : Parser α) : Prop :=
  ∀ cursor : Cursor, cursor.Lexed → ReturnsAt P parser cursor

theorem returnsAt_bind {next : α → Parser β} (first : ReturnsAt P parser cursor)
    (later : ∀ value, P value → Returns Q (next value)) :
    ReturnsAt Q (parser >>= next) cursor := by
  intro value last run
  change EStateM.bind parser next cursor = .ok value last at run
  unfold EStateM.bind at run
  cases ran : parser cursor with
  | error error middle =>
    rw [ran] at run
    cases run
  | ok read middle =>
    rw [ran] at run
    obtain ⟨holds, lexed⟩ := first read middle ran
    exact later read holds middle lexed value last run

theorem returns_bind {next : α → Parser β} (first : Returns P parser)
    (later : ∀ value, P value → Returns Q (next value)) : Returns Q (parser >>= next) :=
  fun cursor lexed => returnsAt_bind (first cursor lexed) later

theorem returns_pure {value : α} (holds : P value) : Returns P (pure value) := by
  rintro cursor lexed _ _ ⟨⟩
  exact ⟨holds, lexed⟩

theorem returnsAt_throw (error : ParseError) : ReturnsAt P (throw error : Parser α) cursor :=
  fun _ _ run => nomatch run

theorem returns_get {next : Cursor → Parser α}
    (later : ∀ cursor : Cursor, cursor.Lexed → ReturnsAt P (next cursor) cursor) :
    Returns P (get >>= next) :=
  later

theorem returnsAt_consume (lexed : cursor.Lexed) :
    ReturnsAt (fun token => token = cursor.current) consume cursor := by
  rintro _ _ ⟨⟩
  exact ⟨rfl, lexed.advance⟩

theorem returns_expect {kind : TokenKind} (noEnd : kind ≠ .endOfMarkup) :
    Returns (fun token => IsLexeme kind token.text.toList) (expect kind) := by
  refine returns_get fun cursor lexed => ?_
  split
  · next here =>
    rintro _ _ ⟨⟩
    exact ⟨lexed.current (by simpa [Cursor.isAt] using here) noEnd, lexed.advance⟩
  · exact returnsAt_throw _

theorem returns_discard (returns : Returns P parser) :
    Returns (fun _ => True) (discard parser) := by
  intro cursor lexed value last run
  change EStateM.map _ parser cursor = .ok value last at run
  unfold EStateM.map at run
  cases ran : parser cursor with
  | error error middle =>
    rw [ran] at run
    cases run
  | ok read middle =>
    rw [ran] at run
    cases run
    exact ⟨trivial, (returns cursor lexed read _ ran).2⟩

theorem returns_take? (kind : TokenKind) : Returns (fun _ => True) (take? kind) := by
  refine returns_get fun cursor lexed => ?_
  split
  · rintro _ _ ⟨⟩
    exact ⟨trivial, lexed.advance⟩
  · exact returns_pure trivial cursor lexed

end Parser

/-- A string is the text between its quotes. -/
theorem Token.unquoted_of_quotes {token : Token} {quote : Char} {inner : List Char}
    (isString : token.kind = .string) (text : token.text.toList = quote :: (inner ++ [quote])) :
    token.unquoted = String.ofList inner := by
  have width : 0 < quote.utf8Size := quote.utf8Size_pos
  have long : 2 ≤ token.text.utf8ByteSize := by
    rw [← Text.byteSize_toList, text, Text.byteSize_cons, Text.byteSize_append, Text.byteSize_cons]
    omega
  rw [Token.unquoted, if_pos ⟨isString, long⟩, text]
  simp

namespace Expr

/-- The text between the quotes of a string lacks the quote. -/
theorem exists_free_quote {token : Token} (kind : token.kind = .string)
    (lexeme : IsLexeme .string token.text.toList) :
    ∃ quote, (quote = '\'' ∨ quote = '"') ∧ quote ∉ token.unquoted.toList := by
  obtain ⟨quote, inner, isQuote, free, same⟩ := lexeme
  refine ⟨quote, isQuote, ?_⟩
  rwa [Token.unquoted_of_quotes kind same, String.toList_ofList]

theorem splitOn_of_free {separator : Char} {cs : List Char} (free : separator ∉ cs) :
    Text.splitOn separator cs = [cs] := by
  induction cs with
  | nil => rfl
  | cons c cs ih =>
    have other : c ≠ separator := fun same => free (same ▸ List.mem_cons_self)
    rw [Text.splitOn, ih fun member => free (.tail c member)]
    simp [other]

theorem splitOn_two {separator : Char} {first second : List Char} (free : separator ∉ first)
    (freeSecond : separator ∉ second) :
    Text.splitOn separator (first ++ separator :: second) = [first, second] := by
  induction first with
  | nil =>
    rw [List.nil_append, Text.splitOn, splitOn_of_free freeSecond]
    simp
  | cons c cs ih =>
    have other : c ≠ separator := fun same => free (same ▸ List.mem_cons_self)
    rw [List.cons_append, Text.splitOn, ih fun member => free (.tail c member)]
    simp [other]

/-- A float stands for the integers before and after its point. -/
theorem splitOn_float {whole fraction : List Char} (isInteger : IsInteger whole)
    (isDigits : IsDigits fraction) :
    Text.splitOn '.' (whole ++ '.' :: fraction) = [whole, fraction] := by
  have noWord : Token.isWordChar '.' = false := by decide
  refine splitOn_two (fun member => ?_) fun member => ?_
  · rw [isInteger.isWordChar '.' member] at noWord
    cases noWord
  · exact absurd (isDigits.2 '.' member) (by decide)

section

open TextTemplate.Parser (Returns ReturnsAt returns_bind returnsAt_bind returns_pure returns_get
  returnsAt_consume returnsAt_throw returns_expect returns_discard returns_take?)

theorem returns_parseNumber {α : Type} {kind : TokenKind} (noEnd : kind ≠ .endOfMarkup)
    (read : List Char → Option α) : Returns (fun _ => True) (parseNumber kind read) := by
  refine returns_get fun cursor lexed => ?_
  refine returnsAt_bind (returns_expect noEnd cursor lexed) fun token _ => ?_
  split
  · exact returns_pure trivial
  · exact fun cursor _ => returnsAt_throw _

theorem returns_parseKeys : Returns (fun keys => ∀ rest, Step.ReadableSteps rest →
    Step.ReadableSteps (keys ++ rest)) parseKeys := by
  refine returns_get fun cursor lexed => ?_
  split
  · next word =>
    refine returnsAt_bind (returnsAt_consume lexed) fun token same => returns_pure ?_
    rw [same]
    exact fun rest later => .key (.inl (lexed.current word nofun)) later
  · next integer =>
    refine returnsAt_bind (returnsAt_consume lexed) fun token same => returns_pure ?_
    rw [same]
    exact fun rest later => .key (.inr (lexed.current integer nofun)) later
  · next float =>
    refine returnsAt_bind (returnsAt_consume lexed) fun token same => returns_pure ?_
    obtain ⟨whole, fraction, isInteger, isDigits, text⟩ := lexed.current float nofun
    rw [same, text, splitOn_float isInteger isDigits]
    intro rest later
    have isFraction : IsInteger fraction := ⟨[], fraction, .inl rfl, isDigits, rfl⟩
    refine .key (.inr ?_) (.key (.inr ?_) later)
    · rwa [String.toList_ofList]
    · rwa [String.toList_ofList]
  · exact returnsAt_throw _

theorem returns_parseIndex {key : Parser Expr} (returns : Returns Readable key) :
    Returns (fun step => ∃ key : Expr, key.Readable ∧ step = .index key) (parseIndex key) := by
  refine returns_bind (returns_discard (returns_expect (by decide))) fun _ _ => ?_
  refine returns_bind returns fun key readable => ?_
  refine returns_bind (returns_discard (returns_expect (by decide))) fun _ _ => ?_
  exact returns_pure ⟨key, readable, rfl⟩

theorem readable_ofPath {steps : List Step} (path : Step.ReadablePath steps) :
    (ofPath steps).Readable := by
  unfold ofPath
  split
  · exact .nil
  · exact .nil
  · exact .bool true
  · exact .bool false
  · refine .lookup path ?_
    unfold ofPath
    split <;> simp_all

/-- The three parsers of expressions call each other with less fuel. -/
theorem returns_expressions (fuel : Nat) :
    Returns Readable (parseWith fuel) ∧ Returns Step.ReadablePath (parsePathWith fuel) ∧
      Returns Step.ReadableSteps (parseStepsWith fuel) := by
  induction fuel with
  | zero =>
    unfold parseWith parsePathWith parseStepsWith
    exact ⟨fun _ _ _ _ run => (nomatch run), fun _ _ _ _ run => (nomatch run), returns_pure .nil⟩
  | succ fuel ih =>
    obtain ⟨parse, path, steps⟩ := ih
    refine ⟨?_, ?_, ?_⟩
    · unfold parseWith
      refine returns_get fun cursor lexed => ?_
      split
      · exact returns_pure .nil cursor lexed
      · next string =>
        refine returnsAt_bind (returnsAt_consume lexed) fun token same => returns_pure ?_
        obtain ⟨quote, isQuote, free⟩ :=
          exists_free_quote string (lexed.current string nofun)
        rw [same]
        exact .string isQuote free
      · exact returns_bind (returns_parseNumber (by decide) _) (fun n _ => returns_pure (.int n))
          cursor lexed
      · exact returns_bind (returns_parseNumber (by decide) _) (fun x _ => returns_pure (.float x))
          cursor lexed
      · exact returns_bind path (fun steps path => returns_pure (readable_ofPath path))
          cursor lexed
    · unfold parsePathWith
      refine returns_get fun cursor lexed => ?_
      split
      · refine returns_bind (returns_parseIndex parse) ?_ cursor lexed
        rintro _ ⟨key, readable, rfl⟩
        exact returns_bind steps fun rest later => returns_pure (.index readable later)
      · refine returns_bind (returns_expect (by decide)) (fun head word => ?_) cursor lexed
        exact returns_bind steps fun rest later => returns_pure (.key word later)
    · unfold parseStepsWith
      refine returns_bind (returns_take? .dot) fun dot _ => ?_
      split
      · refine returns_bind returns_parseKeys fun keys isKeys => ?_
        exact returns_bind steps fun rest later => returns_pure (isKeys rest later)
      · refine returns_get fun cursor lexed => ?_
        split
        · refine returns_bind (returns_parseIndex parse) ?_ cursor lexed
          rintro _ ⟨key, readable, rfl⟩
          exact returns_bind steps fun rest later => returns_pure (.index readable later)
        · exact returns_pure .nil cursor lexed

/-- What the parser returns on lexed markup can be read. -/
theorem readable_of_parse {cursor next : Cursor} {expr : Expr} (lexed : cursor.Lexed)
    (run : parse.run cursor = .ok expr next) : expr.Readable :=
  ((returns_expressions (fuelOf cursor)).1 cursor lexed expr next run).1

end

end Expr

end TextTemplate
