import TextTemplate.Proofs.LexAppend
import TextTemplate.Proofs.Reading.Expressions
import TextTemplate.Proofs.Spelling

/-!
# Dots and brackets

A member may be named after a dot or by a computed key in brackets. A string names the same member
in both places, and an integer the one that its decimal text names, whatever the value it is a
member of (`Data.index_int`). So wherever a lookup stands, going on with a dot or with a bracket is
one (`Step.access_agrees`). In a text this holds after every lookup: also where the lexer takes the
dot between two numbers for a decimal point.
-/

namespace TextTemplate

open Text (byteSize)
open Token (IsLexeme IsInteger IsDigits Ends Solid lexFrom)

/-! ## Members of values -/

namespace Number

/-- What begins as no integer does is no decimal text. -/
theorem decimal_ne {name : String} (n : Int64) {first : Char}
    (isFirst : name.toList.head? = some first) (noDash : first ≠ '-')
    (noDigit : first.isDigit = false) : decimal n ≠ name := by
  rintro rfl
  obtain ⟨c, rest, same, start⟩ := (isInteger_decimalDigits n.toInt).start
  rw [decimal, String.toList_ofList, same] at isFirst
  cases isFirst
  rcases start with isDash | isDigit
  · exact noDash isDash
  · rw [noDigit] at isDigit
    cases isDigit

end Number

namespace Data

/-- An integer names the member that its decimal text names. -/
theorem index_int (data : Data) (n : Int64) :
    data.index (.int n) = data.member (Number.decimal n) := by
  cases data with
  | array items =>
    have noSize : Number.decimal n ≠ "size" := Number.decimal_ne n rfl (by decide) rfl
    have noFirst : Number.decimal n ≠ "first" := Number.decimal_ne n rfl (by decide) rfl
    have noLast : Number.decimal n ≠ "last" := Number.decimal_ne n rfl (by decide) rfl
    unfold index member
    split <;> simp_all [Number.read?_decimal]
  | _ => rfl

theorem index_string (data : Data) (name : String) : data.index (.string name) = data.member name :=
  rfl

theorem member_hash {entries : Table Data} {name : String} {value : Data}
    (found : entries.get? name = some value) : (hash entries).member name = pure value := by
  unfold member
  dsimp only
  rw [found]

end Data

/-! ## Lookups -/

namespace Step

theorem walk_append (root data : Data) (steps more : List Step) :
    walk root data (steps ++ more) = walk root data steps >>= fun data => walk root data more := by
  induction steps generalizing data with
  | nil => simp [walk]
  | cons step steps ih => cases step <;> simp [walk, ih]

theorem eval_lookup_append (root : Data) (steps more : List Step) :
    (Expr.lookup (steps ++ more)).eval root =
      walk root root steps >>= fun data => walk root data more :=
  walk_append root root steps more

/-- A name after a dot and in brackets is one. -/
theorem eval_lookup_string (root : Data) (steps : List Step) (name : String) :
    (Expr.lookup (steps ++ [.index (.string name)])).eval root =
      (Expr.lookup (steps ++ [.key name])).eval root := by
  rw [eval_lookup_append, eval_lookup_append]
  refine bind_congr fun data => ?_
  simp [walk, Expr.eval, Data.index_string]

/-- An integer after a dot and in brackets is one. -/
theorem eval_lookup_int (root : Data) (steps : List Step) (n : Int64) :
    (Expr.lookup (steps ++ [.index (.int n)])).eval root =
      (Expr.lookup (steps ++ [.key (Number.decimal n)])).eval root := by
  rw [eval_lookup_append, eval_lookup_append]
  refine bind_congr fun data => ?_
  simp [walk, Expr.eval, Data.index_int]

/-- A name in brackets at the front is a member of the root. -/
theorem eval_lookup_root (root : Data) (name : String) :
    (Expr.lookup [.index (.string name)]).eval root = root.member name := by
  simp [walk, Expr.eval, Data.index_string]

end Step

/-! ## Texts of lookups -/

namespace Token

variable {kind : TokenKind} {cs rest : List Char} {c : Char}

/-- A lexeme alone. -/
theorem lexFrom_only (lexeme : IsLexeme kind cs) (offset : Nat) :
    lexFrom .strict offset cs =
      .ok [⟨kind, String.ofList cs, ⟨offset, offset + byteSize cs⟩⟩,
        .ending (offset + byteSize cs)] := by
  have lexed : lexFrom .strict offset (cs ++ []) = _ := lexFrom_lexeme lexeme parted_nil.ends
  rw [List.append_nil, lexFrom_nil] at lexed
  exact lexed

theorem lexFrom_mark (member : (kind, c) ∈ marks) (ends : Ends kind rest) (offset : Nat) :
    lexFrom .strict offset (c :: rest) =
      (lexFrom .strict (offset + byteSize [c]) rest).map
        (⟨kind, String.ofList [c], ⟨offset, offset + byteSize [c]⟩⟩ :: ·) :=
  lexFrom_lexeme (isLexeme_mark member) ends

end Token

/-- The text is that of a lookup with these steps, with no blank around it. -/
def Step.Writes (text : String) (steps : List Step) : Prop :=
  Solid text.toList ∧ ∃ cursor last, Cursor.ofMarkup .strict text 0 = .ok cursor ∧
    Expr.parsePath.run cursor = .ok steps last ∧ last.isAtEnd = true

/-- In both modes the text is read as the expression, with nothing left. -/
def Expr.ReadFrom (text : String) (expr : Expr) : Prop :=
  ∀ mode base, ∃ cursor last, Cursor.ofMarkup mode text base = .ok cursor ∧
    Expr.parse.run cursor = .ok expr last ∧ last.isAtEnd = true

namespace Cursor

variable {cursor : Cursor} {markup : String} {base : Nat} {tokens : List Token}

/-- A cursor on markup is before all its tokens. -/
theorem ahead_of_ofMarkup {mode : LexMode} (made : ofMarkup mode markup base = .ok cursor) :
    Token.lex mode markup = .ok cursor.ahead := by
  unfold ofMarkup at made
  cases lexed : Token.lex mode markup with
  | error error =>
    rw [lexed] at made
    cases made
  | ok tokens =>
    obtain ⟨front, rfl, -⟩ := Token.tiles_of_lex lexed
    rw [lexed] at made
    cases made
    unfold ofTokens closeTokens
    simp only [List.getLast?_concat, Token.ending, if_true]
    cases front <;> rfl

theorem exists_ofMarkup_ahead (solid : Solid markup.toList)
    (lexed : lexFrom .strict 0 markup.toList = .ok tokens) (mode : LexMode) (base : Nat) :
    ∃ cursor, ofMarkup mode markup base = .ok cursor ∧ cursor.ahead = tokens := by
  have isLexed : Token.lex .strict markup = .ok tokens := (Token.lex_of_solid solid).trans lexed
  have strict : ∃ cursor, ofMarkup .strict markup base = .ok cursor := by
    unfold ofMarkup
    rw [isLexed]
    exact ⟨_, rfl⟩
  obtain ⟨cursor, made⟩ := strict
  obtain rfl : cursor.ahead = tokens :=
    Except.ok.inj ((ahead_of_ofMarkup made).symm.trans isLexed)
  refine ⟨cursor, ?_, rfl⟩
  cases mode with
  | strict => exact made
  | lax => exact (loosens_ofMarkup markup base).of_ok made

end Cursor

/-- A text is read as what its tokens spell. -/
theorem Expr.Spelled.readFrom {text : String} {tokens : List Token} {stop : Token} {expr : Expr}
    (spelled : Expr.Spelled tokens expr) (solid : Solid text.toList)
    (lexed : lexFrom .strict 0 text.toList = .ok (tokens ++ [stop]))
    (isEnd : stop.kind = .endOfMarkup) : expr.ReadFrom text := by
  intro mode base
  obtain ⟨cursor, made, ahead⟩ := Cursor.exists_ofMarkup_ahead solid lexed mode base
  have stops : stop.StopsLookup := ⟨isEnd ▸ nofun, isEnd ▸ nofun⟩
  have enough : tokens.length < Expr.fuelOf cursor := by
    have count := congrArg List.length ahead
    simp only [Cursor.ahead, List.length_cons, List.length_append, List.length_nil] at count
    unfold Expr.fuelOf
    omega
  obtain ⟨last, run, left⟩ := spelled.run_parseWith ahead stops enough
  obtain ⟨isStop, -⟩ := List.cons.inj left
  refine ⟨cursor, last, made, run, ?_⟩
  simp [Cursor.isAtEnd, Cursor.isAt, isStop, isEnd]

namespace Step

/-- A text of a lookup by its tokens. The lexer comes to the last one again if the text goes on. -/
structure EndsWith (text : String) (steps : List Step) (front : List Token) (last : Token)
    (start : Nat) : Prop where
  solid : Solid text.toList
  path : SpelledPath (front ++ [last]) steps
  span : last.span = ⟨start, start + byteSize last.text.toList⟩
  lexeme : IsLexeme last.kind last.text.toList
  resumes : ∀ more, lexFrom .strict 0 (text.toList ++ more) =
    (lexFrom .strict start (last.text.toList ++ more)).map (front ++ ·)

/-- What is read at the end of markup takes all tokens but the end token. -/
theorem exists_stop {text : String} {tokens taken : List Token} {last : Cursor}
    (lexed : Token.lex .strict text = .ok tokens) (same : tokens = taken ++ last.ahead)
    (atEnd : last.isAtEnd = true) : ∃ stop, last.ahead = [stop] ∧ stop.kind = .endOfMarkup := by
  have isEnd : last.current.kind = .endOfMarkup := by
    simpa [Cursor.isAtEnd, Cursor.isAt] using atEnd
  obtain ⟨front, rfl, tiles⟩ := Token.tiles_of_lex lexed
  rcases last.later.eq_nil_or_concat' with none | ⟨middle, second, more⟩
  · exact ⟨last.current, by rw [Cursor.ahead, none], isEnd⟩
  · have split : front ++ [Token.ending (Token.trimmedSpan text).stop] =
        (taken ++ last.current :: middle) ++ [second] := by
      rw [same, Cursor.ahead, more]
      simp
    obtain ⟨rfl, -⟩ := List.append_inj' split rfl
    have lexeme := tiles.lexemes last.current (by simp)
    rw [isEnd] at lexeme
    exact lexeme.elim

theorem Writes.exists_endsWith {text : String} {steps : List Step} (writes : Writes text steps) :
    ∃ front last start, EndsWith text steps front last start := by
  obtain ⟨solid, cursor, final, made, run, atEnd⟩ := writes
  have lexed := Cursor.ahead_of_ofMarkup made
  have ended : cursor.Ended := by
    obtain ⟨front, same, -⟩ := Token.tiles_of_lex lexed
    exact ⟨front, _, same, rfl⟩
  obtain ⟨taken, passes, path⟩ := (Expr.spelled_expressions (Expr.fuelOf cursor)).2.1 ended run
  obtain ⟨stop, left, -⟩ := exists_stop lexed passes.ahead atEnd
  rcases taken.eq_nil_or_concat' with rfl | ⟨front, last, rfl⟩
  · obtain ⟨_, _, none, -⟩ := path.exists_first
    cases none
  have noGap : ∀ c ∈ text.toList.getLast?, Text.isGap c = false := by
    obtain ⟨-, c, -, -, isLast, noBlank⟩ := solid
    rw [isLast]
    rintro _ ⟨⟩
    cases gap : Text.isGap c with
    | false => rfl
    | true => rw [Text.isBlank_of_isGap gap] at noBlank; cases noBlank
  rw [Token.lex_of_solid solid] at lexed
  have same : cursor.ahead = front ++ [last, stop] := by
    rw [passes.ahead, left]
    simp
  obtain ⟨start, span, lexeme, resumes⟩ :=
    (Token.lexRun_of_lexFrom lexed).resumes same path.noDot noGap
  exact ⟨front, last, start, solid, path, span, lexeme, resumes⟩

/-! ## Going on with a dot or a bracket -/

/-- Wherever the lexer comes to the text, its tokens spell these steps. -/
def GoesOn (cs : List Char) (more : List Step) : Prop :=
  ∀ offset, ∃ tokens stop, lexFrom .strict offset cs = .ok (tokens ++ [stop]) ∧
    stop.kind = .endOfMarkup ∧ SpelledSteps tokens more

/-- A lookup with more than one step is no constant. -/
theorem ofPath_append {steps more : List Step} (occurs : steps ≠ []) (occursMore : more ≠ []) :
    Expr.ofPath (steps ++ more) = .lookup (steps ++ more) := by
  obtain ⟨step, steps, rfl⟩ := List.exists_cons_of_ne_nil occurs
  obtain ⟨second, more, rfl⟩ := List.exists_cons_of_ne_nil occursMore
  unfold Expr.ofPath
  split <;> simp_all

section

variable {text : String} {steps more : List Step} {front : List Token} {last : Token}
  {start : Nat} {cs : List Char} {name : String}

/-- What does not go on with the last token of a lookup may spell more steps. -/
theorem EndsWith.readFrom (endsWith : EndsWith text steps front last start)
    (ends : Ends last.kind cs) (goesOn : GoesOn cs more) (occurs : more ≠ [])
    (solid : Solid cs) : (Expr.lookup (steps ++ more)).ReadFrom (text ++ String.ofList cs) := by
  obtain ⟨tokens, stop, lexed, isEnd, spelled⟩ := goesOn (start + byteSize last.text.toList)
  have path := endsWith.path.append spelled
  rw [← ofPath_append endsWith.path.steps_ne_nil occurs]
  have whole : (text ++ String.ofList cs).toList = text.toList ++ ([] ++ cs) := by simp
  refine Expr.Spelled.readFrom (.path path) (whole ▸ endsWith.solid.append solid) ?_ isEnd
  have isLast : (⟨last.kind, String.ofList last.text.toList,
      ⟨start, start + byteSize last.text.toList⟩⟩ : Token) = last := by
    rw [String.ofList_toList, ← endsWith.span]
  rw [whole, List.nil_append, endsWith.resumes, Token.lexFrom_lexeme endsWith.lexeme ends, lexed,
    isLast]
  simp [Except.map]

/-- A run of digits after a dot goes on with an integer as a float. -/
theorem EndsWith.readFrom_joined (endsWith : EndsWith text steps front last start)
    (isInteger : last.kind = .integer) (isDigits : IsDigits name.toList) :
    (Expr.lookup (steps ++ [.key name])).ReadFrom (text ++ String.ofList ('.' :: name.toList)) := by
  have whole : IsInteger last.text.toList := by
    have lexeme := endsWith.lexeme
    rwa [isInteger] at lexeme
  have isFloat : IsLexeme .float (last.text.toList ++ '.' :: name.toList) :=
    ⟨_, _, whole, isDigits, rfl⟩
  let float : Token := ⟨.float, String.ofList (last.text.toList ++ '.' :: name.toList),
    ⟨start, start + byteSize (last.text.toList ++ '.' :: name.toList)⟩⟩
  have parts : Text.splitOn '.' float.text.toList = [last.text.toList, name.toList] :=
    (congrArg _ String.toList_ofList).trans (Expr.splitOn_float whole isDigits)
  have path := endsWith.path.join isInteger (rfl : float.kind = .float) parts
  rw [String.ofList_toList] at path
  rw [← ofPath_append endsWith.path.steps_ne_nil (List.cons_ne_nil _ _)]
  have isKey : IsKey name := .inr ⟨[], name.toList, .inl rfl, isDigits, rfl⟩
  have goesOn : (text ++ String.ofList ('.' :: name.toList)).toList =
      text.toList ++ (['.'] ++ name.toList) := by simp
  have lexed : lexFrom .strict 0 (text.toList ++ (['.'] ++ name.toList)) =
      .ok (front ++ [float] ++ [.ending float.span.stop]) := by
    rw [endsWith.resumes, List.singleton_append, Token.lexFrom_only isFloat]
    simp [Except.map, float]
  rw [← goesOn] at lexed
  exact Expr.Spelled.readFrom (.path path) (goesOn ▸ endsWith.solid.append isKey.solid) lexed rfl

theorem ends_dot {kind : TokenKind} (noDot : kind ≠ .dot)
    (apart : kind = .integer → cs.takeWhile Char.isDigit = []) : Ends kind ('.' :: cs) := by
  cases kind with
  | dot => exact absurd rfl noDot
  | integer =>
    refine ⟨?_, ?_⟩
    · rintro _ ⟨⟩
      rfl
    · rintro _ ⟨⟩
      exact apart rfl
  | comparison | float | dash | identifier =>
    rintro _ ⟨⟩
    decide
  | _ => trivial

theorem goesOn_key (isKey : IsKey name) : GoesOn ('.' :: name.toList) [.key name] := by
  intro offset
  obtain ⟨kind, isKind, lexeme⟩ : ∃ kind, (kind = .identifier ∨ kind = .integer) ∧
      IsLexeme kind name.toList := by
    rcases isKey with word | isInteger
    · exact ⟨.identifier, .inl rfl, word⟩
    · exact ⟨.integer, .inr rfl, isInteger⟩
  have endsDot : Ends .dot (name.toList ++ []) := isKey.ends_dot []
  rw [List.append_nil] at endsDot
  rw [Token.lexFrom_mark (show (TokenKind.dot, '.') ∈ Token.marks by decide) endsDot,
    Token.lexFrom_only lexeme]
  refine ⟨[_, _], _, rfl, rfl, ?_⟩
  have areKeys (span : Span) : keysOf? ⟨kind, String.ofList name.toList, span⟩ =
      some [.key name] := by
    rcases isKind with rfl | rfl <;> simp [keysOf?]
  exact SpelledSteps.keys rfl (areKeys _) .nil

/-- Any key may stand after a dot. -/
theorem Writes.readFrom_key (writes : Writes text steps) (isKey : IsKey name) :
    (Expr.lookup (steps ++ [.key name])).ReadFrom (text ++ "." ++ name) := by
  obtain ⟨front, last, start, endsWith⟩ := writes.exists_endsWith
  have same : text ++ "." ++ name = text ++ String.ofList ('.' :: name.toList) := by
    apply String.toList_injective
    simp
  rw [same]
  by_cases joined : last.kind = .integer ∧ IsDigits name.toList
  · exact endsWith.readFrom_joined joined.1 joined.2
  · have ends : Ends last.kind ('.' :: name.toList) := by
      refine ends_dot endsWith.path.noDot fun isInteger => ?_
      obtain ⟨first, more, isName, noDigit⟩ :=
        isKey.exists_first fun isDigits => joined ⟨isInteger, isDigits⟩
      simp [isName, noDigit]
    have solid : Solid (['.'] ++ ([] ++ name.toList)) :=
      Solid.append ⟨'.', '.', rfl, rfl, rfl, rfl⟩ isKey.solid
    exact endsWith.readFrom ends (goesOn_key isKey) (List.cons_ne_nil _ _) solid

theorem solid_bracket (inner : List Char) : Solid ('[' :: (inner ++ [']'])) := by
  have opening : Solid ['['] := ⟨'[', '[', rfl, rfl, rfl, rfl⟩
  exact opening.append ⟨']', ']', rfl, rfl, rfl, rfl⟩

/-- What one token spells may stand in brackets. -/
theorem exists_bracket {kind : TokenKind} {key : Expr} (lexeme : IsLexeme kind cs)
    (ends : Ends kind [']'])
    (spells : ∀ span, Expr.Spelled [⟨kind, String.ofList cs, span⟩] key) (offset : Nat) :
    ∃ tokens stop, lexFrom .strict offset ('[' :: (cs ++ [']'])) = .ok (tokens ++ [stop]) ∧
      stop.kind = .endOfMarkup ∧ SpelledPath tokens [.index key] ∧
      SpelledSteps tokens [.index key] := by
  have isClose : IsLexeme .closeSquare [']'] :=
    Token.isLexeme_mark (show (TokenKind.closeSquare, ']') ∈ Token.marks by decide)
  rw [Token.lexFrom_mark (show (TokenKind.openSquare, '[') ∈ Token.marks by decide) trivial,
    Token.lexFrom_lexeme lexeme ends, Token.lexFrom_only isClose]
  refine ⟨[_, _, _], _, rfl, rfl, .bracket rfl ?_, ?_⟩
  all_goals exact @SpelledSteps.index _ _ [_] [] _ _ rfl (spells _) rfl .nil

theorem goesOn_bracket {kind : TokenKind} {key : Expr} (lexeme : IsLexeme kind cs)
    (ends : Ends kind [']'])
    (spells : ∀ span, Expr.Spelled [⟨kind, String.ofList cs, span⟩] key) :
    GoesOn ('[' :: (cs ++ [']'])) [.index key] := by
  intro offset
  obtain ⟨tokens, stop, lexed, isEnd, -, spelled⟩ := exists_bracket lexeme ends spells offset
  exact ⟨tokens, stop, lexed, isEnd, spelled⟩

theorem Writes.readFrom_bracket {kind : TokenKind} {key : Expr} {inner : String}
    (writes : Writes text steps) (lexeme : IsLexeme kind inner.toList) (ends : Ends kind [']'])
    (spells : ∀ span, Expr.Spelled [⟨kind, String.ofList inner.toList, span⟩] key) :
    (Expr.lookup (steps ++ [.index key])).ReadFrom (text ++ "[" ++ inner ++ "]") := by
  obtain ⟨front, last, start, endsWith⟩ := writes.exists_endsWith
  have same : text ++ "[" ++ inner ++ "]" =
      text ++ String.ofList ('[' :: (inner.toList ++ [']'])) := by
    apply String.toList_injective
    simp
  rw [same]
  exact endsWith.readFrom (Token.ends_of_apart rfl (by decide)) (goesOn_bracket lexeme ends spells)
    (List.cons_ne_nil _ _) (solid_bracket _)

end

end Step

/-! ## Names in brackets -/

namespace Expr

variable {name : String} {quote : Char}

/-- The name between quotes. -/
def quoted (quote : Char) (name : String) : String :=
  String.ofList (quote :: (name.toList ++ [quote]))

theorem isLexeme_quoted (isQuote : Token.isQuote quote = true) (free : quote ∉ name.toList) :
    IsLexeme .string (quoted quote name).toList := by
  refine ⟨quote, name.toList, ?_, free, String.toList_ofList⟩
  simpa [Token.isQuote] using isQuote

/-- A quoted name spells the name. -/
theorem spelled_quoted (quote : Char) (name : String) (span : Span) :
    Spelled [⟨.string, String.ofList (quoted quote name).toList, span⟩] (.string name) := by
  let token : Token := ⟨.string, String.ofList (quoted quote name).toList, span⟩
  have quotes : token.text.toList = quote :: (name.toList ++ [quote]) := by
    rw [String.toList_ofList, quoted, String.toList_ofList]
  have unquoted : token.unquoted = name := by
    rw [Token.unquoted_of_quotes rfl quotes, String.ofList_toList]
  have spelled : Spelled [token] (.string token.unquoted) := .string rfl
  rwa [unquoted] at spelled

theorem spelled_decimal (n : Int64) (span : Span) :
    Spelled [⟨.integer, String.ofList (Number.decimal n).toList, span⟩] (.int n) := by
  refine .int rfl ?_
  rw [String.toList_ofList]
  exact Number.read?_decimal n

/-- A name in brackets alone. -/
theorem readFrom_quoted (isQuote : Token.isQuote quote = true) (free : quote ∉ name.toList) :
    (lookup [.index (.string name)]).ReadFrom ("[" ++ quoted quote name ++ "]") := by
  have same : ("[" ++ quoted quote name ++ "]").toList =
      '[' :: ((quoted quote name).toList ++ [']']) := by simp
  obtain ⟨tokens, stop, lexed, isEnd, path, -⟩ :=
    Step.exists_bracket (isLexeme_quoted isQuote free) trivial (spelled_quoted quote name) 0
  exact Spelled.readFrom (.path path) (same ▸ Step.solid_bracket _) (same ▸ lexed) isEnd

end Expr

namespace Step

/-- A key after a dot holds no quote. -/
theorem IsKey.free {name : String} (isKey : IsKey name) {quote : Char}
    (isQuote : Token.isQuote quote = true) : quote ∉ name.toList := by
  intro member
  have word : Token.isWordChar quote = true := by
    rcases isKey with ⟨first, rest, start, goesOn, same, -⟩ | isInteger
    · rw [same] at member
      rcases List.mem_cons.1 member with rfl | later
      · exact Token.isWordChar_of_isWordStart start
      · exact goesOn _ later
    · exact IsInteger.isWordChar isInteger quote member
  simp only [Token.isQuote, Bool.or_eq_true, beq_iff_eq] at isQuote
  rcases isQuote with rfl | rfl <;> exact absurd word (by decide)

/-- Every lookup that can be read has a text, unless it has floats for indices. -/
theorem writes_displayPath {steps : List Step} (readable : (Expr.lookup steps).Readable)
    (floatFree : FloatFree steps) : Writes (displayPath steps) steps := by
  have solid : Solid (displayPath steps).toList := readable.solid floatFree
  cases readable with
  | lookup path noConstant =>
    have lexes := path.lexes floatFree .nil Token.lexes_nil
    rw [List.append_nil] at lexes
    obtain ⟨cursor, made, reads⟩ := Cursor.exists_ofMarkup solid lexes 0
    have readsAll : cursor.Reads ((displayFrom true steps).toList ++ []) := by
      rw [List.append_nil]
      exact reads
    have enough : 2 * (cursor.later.length + 1) ≤ Expr.fuelOf cursor + 1 := Nat.le_succ _
    obtain ⟨-, _, last, run, rfl, left, -⟩ := path.reads floatFree readsAll .nil enough
    exact ⟨solid, cursor, last, made, run, left.isAtEnd⟩

/-- Of every value an integer names the member that its decimal text names, and a string the member
of this name. So of every lookup, going on with a dot or with a bracket evaluates to the same and
loads the same drops. In every text that is read as a lookup, whatever stands in its brackets, going
on with a key after a dot, an integer in brackets or a quoted string in brackets is read as this. A
quoted string in brackets alone is the member of the root, also if the string is the name of a
constant. -/
theorem access_agrees :
    (∀ (data : Data) (n : Int64) (name : String),
      data.index (.int n) = data.member (Number.decimal n) ∧
      data.index (.string name) = data.member name) ∧
    (∀ (root : Data) (steps : List Step) (n : Int64) (name : String),
      (Expr.lookup (steps ++ [.index (.int n)])).eval root =
        (Expr.lookup (steps ++ [.key (Number.decimal n)])).eval root ∧
      (Expr.lookup (steps ++ [.index (.string name)])).eval root =
        (Expr.lookup (steps ++ [.key name])).eval root) ∧
    (∀ (text : String) (steps : List Step), Writes text steps →
      (∀ name, IsLexeme .identifier name.toList →
        (Expr.lookup (steps ++ [.key name])).ReadFrom (text ++ "." ++ name) ∧
        ∀ quote, Token.isQuote quote = true →
          (Expr.lookup (steps ++ [.index (.string name)])).ReadFrom
            (text ++ "[" ++ Expr.quoted quote name ++ "]")) ∧
      ∀ n : Int64,
        (Expr.lookup (steps ++ [.key (Number.decimal n)])).ReadFrom
          (text ++ "." ++ Number.decimal n) ∧
        (Expr.lookup (steps ++ [.index (.int n)])).ReadFrom
          (text ++ "[" ++ Number.decimal n ++ "]") ∧
        ∀ quote, Token.isQuote quote = true →
          (Expr.lookup (steps ++ [.index (.string (Number.decimal n))])).ReadFrom
            (text ++ "[" ++ Expr.quoted quote (Number.decimal n) ++ "]")) ∧
    ∀ (name : String) (quote : Char), Token.isQuote quote = true → quote ∉ name.toList →
      (Expr.lookup [.index (.string name)]).ReadFrom ("[" ++ Expr.quoted quote name ++ "]") ∧
      (∀ root : Data, (Expr.lookup [.index (.string name)]).eval root = root.member name) ∧
      ∀ (entries : Table Data) (value : Data) (store : DropStore), entries.get? name = some value →
        ((Expr.lookup [.index (.string name)]).eval (.hash entries)).run store =
          some (value, store) := by
  have bracketed {text : String} {steps : List Step} (writes : Writes text steps) {name : String}
      (isKey : IsKey name) (quote : Char) (isQuote : Token.isQuote quote = true) :
      (Expr.lookup (steps ++ [.index (.string name)])).ReadFrom
        (text ++ "[" ++ Expr.quoted quote name ++ "]") :=
    writes.readFrom_bracket (Expr.isLexeme_quoted isQuote (isKey.free isQuote)) trivial
      (Expr.spelled_quoted quote name)
  have isKeyDecimal (n : Int64) : IsKey (Number.decimal n) := .inr (Expr.isLexeme_int n)
  refine ⟨fun data n name => ⟨data.index_int n, data.index_string name⟩,
    fun root steps n name => ⟨eval_lookup_int root steps n, eval_lookup_string root steps name⟩,
    fun text steps writes => ⟨fun name word => ?_, fun n => ⟨?_, ?_, ?_⟩⟩,
    fun name quote isQuote free => ⟨?_, ?_, ?_⟩⟩
  · exact ⟨writes.readFrom_key (.inl word), bracketed writes (.inl word)⟩
  · exact writes.readFrom_key (isKeyDecimal n)
  · have ends : Ends .integer [']'] := by
      refine ⟨?_, nofun⟩
      rintro _ ⟨⟩
      rfl
    exact writes.readFrom_bracket (Expr.isLexeme_int n) ends (Expr.spelled_decimal n)
  · exact bracketed writes (isKeyDecimal n)
  · exact Expr.readFrom_quoted isQuote free
  · exact fun root => eval_lookup_root root name
  · intro entries value store found
    rw [eval_lookup_root, Data.member_hash found]
    rfl

/-- A lookup that ends with a digit: the digit after one more dot makes a float of the two. And a
key that has the name of a constant. -/
theorem access_agrees_digits :
    let steps : List Step := [.key "a", .index (.string "b"), .key "1"]
    (Expr.lookup (steps ++ [.key "2"])).ReadFrom "a['b'].1.2" ∧
      (Expr.lookup (steps ++ [.index (.int 2)])).ReadFrom "a['b'].1[2]" ∧
      (Expr.lookup (steps ++ [.key "size"])).ReadFrom "a['b'].1.size" ∧
      (Expr.lookup [.index (.string "nil")]).ReadFrom "['nil']" ∧
      ((Expr.lookup [.index (.string "nil")]).eval (.hash (.ofList [("nil", .int 3)]))).run .empty =
        some (.int 3, .empty) := by
  intro steps
  have isA : IsLexeme .identifier "a".toList := ⟨'a', [], rfl, nofun, rfl, by decide⟩
  have isSize : IsLexeme .identifier "size".toList :=
    ⟨'s', "ize".toList, rfl, List.all_eq_true.1 rfl, rfl, by decide⟩
  have isOne : IsKey "1" := .inr (Expr.isLexeme_int 1)
  have readable : (Expr.lookup steps).Readable :=
    .lookup (.key isA (.index (.string (.inl rfl) (by decide)) (.key isOne .nil))) rfl
  have writes : Writes "a['b'].1" steps := writes_displayPath readable ⟨trivial, trivial⟩
  obtain ⟨-, -, reads, names⟩ := access_agrees
  obtain ⟨words, numbers⟩ := reads "a['b'].1" steps writes
  obtain ⟨read, -, reaches⟩ := names "nil" '\'' rfl (by decide)
  exact ⟨(numbers 2).1, (numbers 2).2.1, (words "size" isSize).1, read, reaches _ _ _ rfl⟩

end Step

end TextTemplate
