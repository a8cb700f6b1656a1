import TextTemplate.Proofs.Readable
import TextTemplate.Proofs.Reading

/-!
# How expressions are spelled

`Expr.Spelled` says which tokens spell an expression, without the parser. The parser reads just
this: the tokens that it takes spell what it reads (`Expr.spelled_expressions`), and what tokens
spell it reads before any token that stops a lookup (`Expr.Spelled.run_parseWith`).
-/

namespace TextTemplate

/-! ## Tokens ahead -/

namespace Cursor

variable {cursor : Cursor} {token : Token} {rest : List Token}

/-- The tokens from the current one on. -/
def ahead (cursor : Cursor) : List Token :=
  cursor.current :: cursor.later

/-- The last token is an end token. -/
def Ended (cursor : Cursor) : Prop :=
  ∃ front last, cursor.ahead = front ++ [last] ∧ last.kind = .endOfMarkup

/-- A token that others follow is passed, unless it is an end token. -/
theorem ahead_advance (ahead : cursor.ahead = token :: rest) (occurs : rest ≠ [])
    (noEnd : token.kind ≠ .endOfMarkup) : cursor.current = token ∧ cursor.advance.ahead = rest := by
  obtain ⟨next, later, rfl⟩ := List.exists_cons_of_ne_nil occurs
  obtain ⟨rfl, same⟩ := List.cons.inj ahead
  have goesOn : cursor.isAtEnd = false := by simpa [isAtEnd, isAt] using noEnd
  exact ⟨rfl, by simp [advance, goesOn, Cursor.next, same, Cursor.ahead]⟩

/-- The tokens between the two places. An end token is ahead of the second one. -/
structure Passes (cursor : Cursor) (front : List Token) (last : Cursor) : Prop where
  ahead : cursor.ahead = front ++ last.ahead
  ended : last.Ended

namespace Passes

variable {middle last : Cursor} {front back : List Token}

theorem none (ended : cursor.Ended) : cursor.Passes [] cursor :=
  ⟨rfl, ended⟩

theorem one (ended : cursor.Ended) {kind : TokenKind} (isKind : cursor.current.kind = kind)
    (noEnd : kind ≠ .endOfMarkup) : cursor.Passes [cursor.current] cursor.advance := by
  subst isKind
  obtain ⟨front, last, same, isEnd⟩ := ended
  cases front with
  | nil =>
    obtain ⟨rfl, -⟩ := List.cons.inj same
    exact absurd isEnd noEnd
  | cons token front =>
    obtain ⟨rfl, later⟩ := List.cons.inj same
    have passed := (ahead_advance same (by simp) noEnd).2
    exact ⟨passed.symm ▸ same, front, last, passed, isEnd⟩

theorem trans (first : cursor.Passes front middle) (second : middle.Passes back last) :
    cursor.Passes (front ++ back) last :=
  ⟨by rw [first.ahead, second.ahead, List.append_assoc], second.ended⟩

end Passes

end Cursor

/-! ## What the small parsers take -/

namespace Parser

variable {α β : Type} {parser : Parser α} {cursor last : Cursor}

theorem run_get (next : Cursor → Parser α) (cursor : Cursor) :
    (get >>= next).run cursor = (next cursor).run cursor :=
  rfl

theorem bind_eq_ok {next : α → Parser β} {value : β} :
    (parser >>= next).run cursor = .ok value last ↔
      ∃ read middle, parser.run cursor = .ok read middle ∧
        (next read).run middle = .ok value last := by
  constructor
  · intro run
    cases ran : parser.run cursor with
    | ok read middle => exact ⟨read, middle, rfl, (run_bind ran).symm.trans run⟩
    | error error middle =>
      change EStateM.bind parser next cursor = _ at run
      unfold EStateM.bind at run
      rw [show parser cursor = _ from ran] at run
      cases run
  · rintro ⟨read, middle, ran, run⟩
    exact (run_bind ran).trans run

theorem expect_eq_ok {kind : TokenKind} {token : Token} :
    (expect kind).run cursor = .ok token last ↔
      cursor.current.kind = kind ∧ token = cursor.current ∧ last = cursor.advance := by
  constructor
  · intro run
    by_cases isKind : cursor.current.kind = kind
    · cases (run_expect isKind).symm.trans run
      exact ⟨isKind, rfl, rfl⟩
    · change (if cursor.isAt kind then consume else throw _).run cursor = _ at run
      rw [if_neg (by simpa [Cursor.isAt] using isKind)] at run
      cases run
  · rintro ⟨isKind, rfl, rfl⟩
    exact run_expect isKind

theorem discard_expect_eq_ok {kind : TokenKind} {done : Unit} :
    (discard (expect kind)).run cursor = .ok done last ↔
      cursor.current.kind = kind ∧ last = cursor.advance := by
  constructor
  · intro run
    change EStateM.map _ (expect kind) cursor = _ at run
    unfold EStateM.map at run
    cases ran : expect kind cursor with
    | error error middle =>
      rw [ran] at run
      cases run
    | ok token middle =>
      rw [ran] at run
      cases run
      obtain ⟨isKind, -, rfl⟩ := expect_eq_ok.1 ran
      exact ⟨isKind, rfl⟩
  · rintro ⟨isKind, rfl⟩
    exact run_discard_expect isKind

end Parser

/-! ## The grammar -/

/-- No lookup goes on with the token. -/
def Token.StopsLookup (token : Token) : Prop :=
  token.kind ≠ .dot ∧ token.kind ≠ .openSquare

/-- The keys that a token after a dot stands for. -/
def Step.keysOf? (token : Token) : Option (List Step) :=
  match token.kind with
  | .identifier | .integer => some [.key token.text]
  | .float =>
    some ((Text.splitOn '.' token.text.toList).map fun part => .key (String.ofList part))
  | _ => none

mutual

/-- The tokens spell the expression. -/
inductive Expr.Spelled : List Token → Expr → Prop
  | string {token : Token} (isKind : token.kind = .string) :
      Expr.Spelled [token] (.string token.unquoted)
  | int {token : Token} {n : Int64} (isKind : token.kind = .integer)
      (read : Number.read? token.text.toList = some n) : Expr.Spelled [token] (.int n)
  | float {token : Token} {x : Float} (isKind : token.kind = .float)
      (read : Number.readFloat? token.text.toList = some x) : Expr.Spelled [token] (.float x)
  | path {tokens : List Token} {steps : List Step} (path : Step.SpelledPath tokens steps) :
      Expr.Spelled tokens (.ofPath steps)

/-- The tokens spell the steps as a lookup. -/
inductive Step.SpelledPath : List Token → List Step → Prop
  | word {token : Token} {rest : List Token} {steps : List Step}
      (isKind : token.kind = .identifier) (later : Step.SpelledSteps rest steps) :
      Step.SpelledPath (token :: rest) (.key token.text :: steps)
  | bracket {token : Token} {rest : List Token} {steps : List Step}
      (isKind : token.kind = .openSquare) (later : Step.SpelledSteps (token :: rest) steps) :
      Step.SpelledPath (token :: rest) steps

/-- The tokens spell the steps after the first one of a lookup. -/
inductive Step.SpelledSteps : List Token → List Step → Prop
  | nil : Step.SpelledSteps [] []
  | keys {dot token : Token} {rest : List Token} {keys steps : List Step}
      (isDot : dot.kind = .dot) (areKeys : Step.keysOf? token = some keys)
      (later : Step.SpelledSteps rest steps) :
      Step.SpelledSteps (dot :: token :: rest) (keys ++ steps)
  | index {opening closing : Token} {inner rest : List Token} {key : Expr} {steps : List Step}
      (opens : opening.kind = .openSquare) (spelled : Expr.Spelled inner key)
      (closes : closing.kind = .closeSquare) (later : Step.SpelledSteps rest steps) :
      Step.SpelledSteps (opening :: (inner ++ closing :: rest)) (.index key :: steps)

end

namespace Expr

open TextTemplate.Parser (bind_eq_ok expect_eq_ok discard_expect_eq_ok run_expect
  run_discard_expect run_take? run_take?_none run_bind run_get)

variable {cursor last : Cursor} {fuel : Nat}

/-! ## What the parsers of expressions take -/

theorem parseNumber_eq_ok {α : Type} {kind : TokenKind} {read : List Char → Option α} {value : α} :
    (parseNumber kind read).run cursor = .ok value last ↔
      cursor.current.kind = kind ∧ read cursor.current.text.toList = some value ∧
        last = cursor.advance := by
  unfold parseNumber
  constructor
  · intro run
    obtain ⟨_, _, ⟨⟩, run⟩ := bind_eq_ok.1 run
    obtain ⟨token, middle, taken, run⟩ := bind_eq_ok.1 run
    obtain ⟨isKind, rfl, rfl⟩ := expect_eq_ok.1 taken
    split at run
    · next found =>
      cases run
      exact ⟨isKind, found, rfl⟩
    · cases run
  · rintro ⟨isKind, found, rfl⟩
    refine bind_eq_ok.2 ⟨cursor, cursor, rfl, bind_eq_ok.2 ⟨_, _, run_expect isKind, ?_⟩⟩
    rw [found]
    rfl

theorem parseKeys_eq_ok {keys : List Step} :
    parseKeys.run cursor = .ok keys last ↔
      Step.keysOf? cursor.current = some keys ∧ last = cursor.advance := by
  have evaluated : parseKeys.run cursor =
      match Step.keysOf? cursor.current with
      | some keys => .ok keys cursor.advance
      | none => .error (cursor.unexpected .identifier) cursor := by
    obtain ⟨passed, ⟨kind, text, span⟩, later, base⟩ := cursor
    cases kind <;> rfl
  rw [evaluated]
  constructor
  · intro run
    split at run
    · next found =>
      cases run
      exact ⟨found, rfl⟩
    · cases run
  · rintro ⟨found, rfl⟩
    rw [found]

theorem parseIndex_eq_ok {key : Parser Expr} {step : Step} :
    (parseIndex key).run cursor = .ok step last ↔
      ∃ expr middle, cursor.current.kind = .openSquare ∧
        key.run cursor.advance = .ok expr middle ∧ middle.current.kind = .closeSquare ∧
        step = .index expr ∧ last = middle.advance := by
  unfold parseIndex
  constructor
  · intro run
    obtain ⟨_, _, opens, run⟩ := bind_eq_ok.1 run
    obtain ⟨isOpen, rfl⟩ := discard_expect_eq_ok.1 opens
    obtain ⟨expr, middle, ran, run⟩ := bind_eq_ok.1 run
    obtain ⟨_, _, closes, run⟩ := bind_eq_ok.1 run
    obtain ⟨isClose, rfl⟩ := discard_expect_eq_ok.1 closes
    cases run
    exact ⟨expr, middle, isOpen, ran, isClose, rfl, rfl⟩
  · rintro ⟨expr, middle, isOpen, ran, isClose, rfl, rfl⟩
    rw [run_bind (run_discard_expect isOpen), run_bind ran, run_bind (run_discard_expect isClose)]
    rfl

theorem run_parseStepsWith_end (stops : cursor.current.StopsLookup) (fuel : Nat) :
    (parseStepsWith fuel).run cursor = .ok [] cursor := by
  obtain ⟨noDot, noBracket⟩ := stops
  cases fuel with
  | zero => rfl
  | succ fuel =>
    unfold parseStepsWith
    rw [run_bind (run_take?_none (by simpa [Cursor.isAt] using noDot)), Option.isSome_none,
      if_neg Bool.false_ne_true, run_get, if_neg (by simpa [Cursor.isAt] using noBracket)]
    rfl

theorem run_parseStepsWith_dot (isDot : cursor.current.kind = .dot) :
    (parseStepsWith (fuel + 1)).run cursor = (do
      let keys ← parseKeys
      return keys ++ (← parseStepsWith fuel) : Parser (List Step)).run cursor.advance := by
  conv_lhs => unfold parseStepsWith
  exact run_bind (run_take? isDot)

theorem run_parseStepsWith_bracket (isOpen : cursor.current.kind = .openSquare) :
    (parseStepsWith (fuel + 1)).run cursor = (do
      let step ← parseIndex (parseWith fuel)
      return step :: (← parseStepsWith fuel) : Parser (List Step)).run cursor := by
  conv_lhs => unfold parseStepsWith
  rw [run_bind (run_take?_none (by simp [Cursor.isAt, isOpen])), Option.isSome_none,
    if_neg Bool.false_ne_true, run_get, if_pos (by simp [Cursor.isAt, isOpen])]

/-- A lookup that begins with a bracket begins like any step. -/
theorem run_parsePathWith_bracket (isOpen : cursor.current.kind = .openSquare) :
    (parsePathWith (fuel + 1)).run cursor = (parseStepsWith (fuel + 1)).run cursor := by
  rw [run_parseStepsWith_bracket isOpen]
  conv_lhs => unfold parsePathWith
  rw [run_get, if_pos (by simp [Cursor.isAt, isOpen])]

theorem run_parsePathWith_word (noBracket : cursor.current.kind ≠ .openSquare) :
    (parsePathWith (fuel + 1)).run cursor = (do
      let head ← Parser.expect .identifier
      return .key head.text :: (← parseStepsWith fuel) : Parser (List Step)).run cursor := by
  conv_lhs => unfold parsePathWith
  rw [run_get, if_neg (by simpa [Cursor.isAt] using noBracket)]

theorem parseStepsWith_dot_eq_ok (isDot : cursor.current.kind = .dot) {steps : List Step} :
    (parseStepsWith (fuel + 1)).run cursor = .ok steps last ↔
      ∃ keys rest, Step.keysOf? cursor.advance.current = some keys ∧
        (parseStepsWith fuel).run cursor.advance.advance = .ok rest last ∧
        steps = keys ++ rest := by
  rw [run_parseStepsWith_dot isDot]
  constructor
  · intro run
    obtain ⟨keys, middle, ran, run⟩ := bind_eq_ok.1 run
    obtain ⟨areKeys, rfl⟩ := parseKeys_eq_ok.1 ran
    obtain ⟨rest, _, ran, run⟩ := bind_eq_ok.1 run
    cases run
    exact ⟨keys, rest, areKeys, ran, rfl⟩
  · rintro ⟨keys, rest, areKeys, ran, rfl⟩
    rw [run_bind (parseKeys_eq_ok.2 ⟨areKeys, rfl⟩), run_bind ran]
    rfl

theorem parseStepsWith_bracket_eq_ok (isOpen : cursor.current.kind = .openSquare)
    {steps : List Step} :
    (parseStepsWith (fuel + 1)).run cursor = .ok steps last ↔
      ∃ key middle rest, (parseWith fuel).run cursor.advance = .ok key middle ∧
        middle.current.kind = .closeSquare ∧
        (parseStepsWith fuel).run middle.advance = .ok rest last ∧
        steps = .index key :: rest := by
  rw [run_parseStepsWith_bracket isOpen]
  constructor
  · intro run
    obtain ⟨_, _, ran, run⟩ := bind_eq_ok.1 run
    obtain ⟨key, middle, -, ranKey, isClose, rfl, rfl⟩ := parseIndex_eq_ok.1 ran
    obtain ⟨rest, _, ran, run⟩ := bind_eq_ok.1 run
    cases run
    exact ⟨key, middle, rest, ranKey, isClose, ran, rfl⟩
  · rintro ⟨key, middle, rest, ranKey, isClose, ran, rfl⟩
    rw [run_bind (parseIndex_eq_ok.2 ⟨key, middle, isOpen, ranKey, isClose, rfl, rfl⟩),
      run_bind ran]
    rfl

theorem parsePathWith_word_eq_ok (noBracket : cursor.current.kind ≠ .openSquare)
    {steps : List Step} :
    (parsePathWith (fuel + 1)).run cursor = .ok steps last ↔
      ∃ rest, cursor.current.kind = .identifier ∧
        (parseStepsWith fuel).run cursor.advance = .ok rest last ∧
        steps = .key cursor.current.text :: rest := by
  rw [run_parsePathWith_word noBracket]
  constructor
  · intro run
    obtain ⟨head, _, taken, run⟩ := bind_eq_ok.1 run
    obtain ⟨isKind, rfl, rfl⟩ := expect_eq_ok.1 taken
    obtain ⟨rest, _, ran, run⟩ := bind_eq_ok.1 run
    cases run
    exact ⟨rest, isKind, ran, rfl⟩
  · rintro ⟨rest, isKind, ran, rfl⟩
    rw [run_bind (run_expect isKind), run_bind ran]
    rfl

theorem run_parseWith_string (isKind : cursor.current.kind = .string) :
    (parseWith (fuel + 1)).run cursor = .ok (.string cursor.current.unquoted) cursor.advance := by
  conv_lhs => unfold parseWith
  rw [run_get, isKind]
  rfl

/-- A number of either kind. -/
theorem number_eq_ok {α : Type} {kind : TokenKind} {read : List Char → Option α} {make : α → Expr}
    {expr : Expr} :
    (do return make (← parseNumber kind read) : Parser Expr).run cursor = .ok expr last ↔
      cursor.current.kind = kind ∧ ∃ value, read cursor.current.text.toList = some value ∧
        expr = make value ∧ last = cursor.advance := by
  constructor
  · intro run
    obtain ⟨value, _, ran, run⟩ := bind_eq_ok.1 run
    obtain ⟨isKind, found, rfl⟩ := parseNumber_eq_ok.1 ran
    cases run
    exact ⟨isKind, value, found, rfl, rfl⟩
  · rintro ⟨isKind, value, found, rfl, rfl⟩
    rw [run_bind (parseNumber_eq_ok.2 ⟨isKind, found, rfl⟩)]
    rfl

theorem run_parseWith_integer (isKind : cursor.current.kind = .integer) :
    (parseWith (fuel + 1)).run cursor =
      (do return .int (← parseNumber .integer Number.read?) : Parser Expr).run cursor := by
  conv_lhs => unfold parseWith
  rw [run_get, isKind]

theorem run_parseWith_float (isKind : cursor.current.kind = .float) :
    (parseWith (fuel + 1)).run cursor =
      (do return .float (← parseNumber .float Number.readFloat?) : Parser Expr).run cursor := by
  conv_lhs => unfold parseWith
  rw [run_get, isKind]

/-- What is no literal is a lookup. -/
theorem parseWith_path_eq_ok
    (noLiteral : cursor.current.kind ∉ [.endOfMarkup, .string, .integer, .float]) {expr : Expr} :
    (parseWith (fuel + 1)).run cursor = .ok expr last ↔
      ∃ steps, (parsePathWith fuel).run cursor = .ok steps last ∧ expr = ofPath steps := by
  have evaluated : (parseWith (fuel + 1)).run cursor =
      (do return .ofPath (← parsePathWith fuel) : Parser Expr).run cursor := by
    conv_lhs => unfold parseWith
    rw [run_get]
    cases kind : cursor.current.kind with
    | endOfMarkup | string | integer | float => exact absurd (by simp [kind]) noLiteral
    | _ => rfl
  rw [evaluated]
  constructor
  · intro run
    obtain ⟨steps, _, ran, run⟩ := bind_eq_ok.1 run
    cases run
    exact ⟨steps, ran, rfl⟩
  · rintro ⟨steps, ran, rfl⟩
    rw [run_bind ran]
    rfl

/-! ## What is read was spelled -/

theorem noEnd_of_keysOf? {token : Token} {keys : List Step}
    (areKeys : Step.keysOf? token = some keys) : token.kind ≠ .endOfMarkup := by
  intro isEnd
  simp [Step.keysOf?, isEnd] at areKeys

/-- At the end of markup nothing is taken. -/
theorem eq_of_parseWith_end (atEnd : cursor.current.kind = .endOfMarkup) {expr : Expr}
    (run : (parseWith fuel).run cursor = .ok expr last) : last = cursor := by
  cases fuel with
  | zero => cases run
  | succ fuel =>
    unfold parseWith at run
    rw [run_get, atEnd] at run
    cases run
    rfl

/-- What the three parsers of expressions take spells what they read. -/
theorem spelled_expressions (fuel : Nat) :
    (∀ {cursor last : Cursor} {expr : Expr}, cursor.Ended → cursor.current.kind ≠ .endOfMarkup →
      (parseWith fuel).run cursor = .ok expr last →
      ∃ front, cursor.Passes front last ∧ Spelled front expr) ∧
    (∀ {cursor last : Cursor} {steps : List Step}, cursor.Ended →
      (parsePathWith fuel).run cursor = .ok steps last →
      ∃ front, cursor.Passes front last ∧ Step.SpelledPath front steps) ∧
    ∀ {cursor last : Cursor} {steps : List Step}, cursor.Ended →
      (parseStepsWith fuel).run cursor = .ok steps last →
      ∃ front, cursor.Passes front last ∧ Step.SpelledSteps front steps := by
  -- the parsers call each other with less fuel
  induction fuel with
  | zero =>
    unfold parseWith parsePathWith parseStepsWith
    refine ⟨fun _ _ run => ?_, fun _ run => ?_, fun ended run => ?_⟩
    · cases run
    · cases run
    · cases run
      exact ⟨[], .none ended, .nil⟩
  | succ fuel ih =>
    obtain ⟨parse, path, areSteps⟩ := ih
    have stepsHere {cursor last : Cursor} {steps : List Step} (ended : cursor.Ended)
        (run : (parseStepsWith (fuel + 1)).run cursor = .ok steps last) :
        ∃ front, cursor.Passes front last ∧ Step.SpelledSteps front steps := by
      by_cases isDot : cursor.current.kind = .dot
      · obtain ⟨keys, rest, areKeys, ran, rfl⟩ := (parseStepsWith_dot_eq_ok isDot).1 run
        have dot := Cursor.Passes.one ended isDot (by decide)
        have key := Cursor.Passes.one dot.ended rfl (noEnd_of_keysOf? areKeys)
        obtain ⟨front, passes, later⟩ := areSteps key.ended ran
        exact ⟨_, dot.trans (key.trans passes), .keys isDot areKeys later⟩
      by_cases isOpen : cursor.current.kind = .openSquare
      · obtain ⟨key, middle, rest, ranKey, isClose, ran, rfl⟩ :=
          (parseStepsWith_bracket_eq_ok isOpen).1 run
        have opening := Cursor.Passes.one ended isOpen (by decide)
        have noEnd : cursor.advance.current.kind ≠ .endOfMarkup := by
          intro atEnd
          rw [eq_of_parseWith_end atEnd ranKey, atEnd] at isClose
          cases isClose
        obtain ⟨inner, passesKey, spelled⟩ := parse opening.ended noEnd ranKey
        have closing := Cursor.Passes.one passesKey.ended isClose (by decide)
        obtain ⟨front, passes, later⟩ := areSteps closing.ended ran
        exact ⟨_, opening.trans (passesKey.trans (closing.trans passes)),
          .index isOpen spelled isClose later⟩
      · cases (run_parseStepsWith_end ⟨isDot, isOpen⟩ (fuel + 1)).symm.trans run
        exact ⟨[], .none ended, .nil⟩
    refine ⟨fun {cursor last expr} ended noEnd run => ?_, fun {cursor last steps} ended run => ?_,
      stepsHere⟩
    · by_cases isString : cursor.current.kind = .string
      · cases (run_parseWith_string isString).symm.trans run
        exact ⟨_, .one ended isString (by decide), .string isString⟩
      by_cases isInteger : cursor.current.kind = .integer
      · rw [run_parseWith_integer isInteger] at run
        obtain ⟨-, n, found, rfl, rfl⟩ := number_eq_ok.1 run
        exact ⟨_, .one ended isInteger (by decide), .int isInteger found⟩
      by_cases isFloat : cursor.current.kind = .float
      · rw [run_parseWith_float isFloat] at run
        obtain ⟨-, x, found, rfl, rfl⟩ := number_eq_ok.1 run
        exact ⟨_, .one ended isFloat (by decide), .float isFloat found⟩
      · have noLiteral : cursor.current.kind ∉ [.endOfMarkup, .string, .integer, .float] := by
          simp [noEnd, isString, isInteger, isFloat]
        obtain ⟨steps, ran, rfl⟩ := (parseWith_path_eq_ok noLiteral).1 run
        obtain ⟨front, passes, spelled⟩ := path ended ran
        exact ⟨front, passes, .path spelled⟩
    · by_cases isOpen : cursor.current.kind = .openSquare
      · rw [run_parsePathWith_bracket isOpen] at run
        obtain ⟨front, passes, spelled⟩ := stepsHere ended run
        cases front with
        | nil =>
          cases spelled
          obtain ⟨_, _, _, -, -, -, same⟩ := (parseStepsWith_bracket_eq_ok isOpen).1 run
          cases same
        | cons token front =>
          obtain ⟨same, -⟩ := List.cons.inj passes.ahead
          exact ⟨_, passes, .bracket (same ▸ isOpen) spelled⟩
      · obtain ⟨rest, isWord, ran, rfl⟩ := (parsePathWith_word_eq_ok isOpen).1 run
        have word := Cursor.Passes.one ended isWord (by decide)
        obtain ⟨front, passes, later⟩ := areSteps word.ended ran
        exact ⟨_, word.trans passes, .word isWord later⟩

end Expr

/-! ## What is spelled is read -/

theorem Step.SpelledPath.exists_first {tokens : List Token} {steps : List Step}
    (path : Step.SpelledPath tokens steps) :
    ∃ token rest, tokens = token :: rest ∧
      (token.kind = .identifier ∨ token.kind = .openSquare) := by
  cases path with
  | word isKind _ => exact ⟨_, _, rfl, .inl isKind⟩
  | bracket isKind _ => exact ⟨_, _, rfl, .inr isKind⟩

/-- A lookup has a step. -/
theorem Step.SpelledPath.steps_ne_nil {tokens : List Token} {steps : List Step}
    (path : Step.SpelledPath tokens steps) : steps ≠ [] := by
  cases path with
  | word => exact List.cons_ne_nil _ _
  | bracket isOpen later =>
    cases later with
    | keys isDot =>
      rw [isOpen] at isDot
      cases isDot
    | index => exact List.cons_ne_nil _ _

mutual

/-- The parser reads an expression before a token that does not go on with it. -/
theorem Expr.Spelled.run_parseWith {tokens : List Token} {expr : Expr}
    (spelled : expr.Spelled tokens) {cursor : Cursor} {fuel : Nat}
    {stop : Token} {rest : List Token} (ahead : cursor.ahead = tokens ++ stop :: rest)
    (stops : stop.StopsLookup) (enough : tokens.length < fuel) :
    ∃ last, (Expr.parseWith fuel).run cursor = .ok expr last ∧ last.ahead = stop :: rest := by
  obtain ⟨fuel, rfl⟩ : ∃ more, fuel = more + 1 := ⟨fuel - 1, by omega⟩
  match spelled with
  | .string isKind =>
    obtain ⟨rfl, passed⟩ := Cursor.ahead_advance ahead (by simp) (isKind ▸ nofun)
    exact ⟨_, Expr.run_parseWith_string isKind, passed⟩
  | .int isKind read =>
    obtain ⟨rfl, passed⟩ := Cursor.ahead_advance ahead (by simp) (isKind ▸ nofun)
    rw [Expr.run_parseWith_integer isKind]
    exact ⟨_, Expr.number_eq_ok.2 ⟨isKind, _, read, rfl, rfl⟩, passed⟩
  | .float isKind read =>
    obtain ⟨rfl, passed⟩ := Cursor.ahead_advance ahead (by simp) (isKind ▸ nofun)
    rw [Expr.run_parseWith_float isKind]
    exact ⟨_, Expr.number_eq_ok.2 ⟨isKind, _, read, rfl, rfl⟩, passed⟩
  | .path path =>
    have enoughPath : tokens.length ≤ fuel := by omega
    obtain ⟨last, run, left⟩ := path.run_parsePathWith ahead stops enoughPath
    obtain ⟨token, more, rfl, start⟩ := path.exists_first
    obtain ⟨rfl, -⟩ := List.cons.inj ahead
    have noLiteral : cursor.current.kind ∉ [.endOfMarkup, .string, .integer, .float] := by
      rcases start with isWord | isOpen
      · simp [isWord]
      · simp [isOpen]
    exact ⟨last, (Expr.parseWith_path_eq_ok noLiteral).2 ⟨_, run, rfl⟩, left⟩

/-- The parser reads a lookup before a token that does not go on with it. -/
theorem Step.SpelledPath.run_parsePathWith {tokens : List Token} {steps : List Step}
    (path : Step.SpelledPath tokens steps) {cursor : Cursor} {fuel : Nat}
    {stop : Token} {rest : List Token} (ahead : cursor.ahead = tokens ++ stop :: rest)
    (stops : stop.StopsLookup) (enough : tokens.length ≤ fuel) :
    ∃ last, (Expr.parsePathWith fuel).run cursor = .ok steps last ∧
      last.ahead = stop :: rest := by
  match path with
  | @Step.SpelledPath.word token more steps isKind later =>
    obtain ⟨fuel, rfl⟩ : ∃ left, fuel = left + 1 := ⟨fuel - 1, by simp at enough; omega⟩
    obtain ⟨rfl, passed⟩ := Cursor.ahead_advance ahead (by simp) (isKind ▸ nofun)
    have enoughSteps : more.length ≤ fuel := by simpa using enough
    obtain ⟨last, run, left⟩ := later.run_parseStepsWith passed stops enoughSteps
    have noOpen : cursor.current.kind ≠ .openSquare := isKind ▸ nofun
    exact ⟨last, (Expr.parsePathWith_word_eq_ok noOpen).2 ⟨_, isKind, run, rfl⟩, left⟩
  | @Step.SpelledPath.bracket token more steps isKind later =>
    obtain ⟨fuel, rfl⟩ : ∃ left, fuel = left + 1 := ⟨fuel - 1, by simp at enough; omega⟩
    obtain ⟨here, -⟩ := List.cons.inj ahead
    rw [Expr.run_parsePathWith_bracket (here.symm ▸ isKind)]
    exact later.run_parseStepsWith ahead stops enough

/-- The parser reads steps before a token that does not go on with them. -/
theorem Step.SpelledSteps.run_parseStepsWith {tokens : List Token} {steps : List Step}
    (areSteps : Step.SpelledSteps tokens steps) {cursor : Cursor} {fuel : Nat}
    {stop : Token} {rest : List Token} (ahead : cursor.ahead = tokens ++ stop :: rest)
    (stops : stop.StopsLookup) (enough : tokens.length ≤ fuel) :
    ∃ last, (Expr.parseStepsWith fuel).run cursor = .ok steps last ∧
      last.ahead = stop :: rest := by
  match areSteps with
  | .nil =>
    obtain ⟨rfl, -⟩ := List.cons.inj ahead
    exact ⟨cursor, Expr.run_parseStepsWith_end stops fuel, ahead⟩
  | @Step.SpelledSteps.keys dot token more keys steps isDot areKeys later =>
    obtain ⟨fuel, rfl⟩ : ∃ left, fuel = left + 1 := ⟨fuel - 1, by simp at enough; omega⟩
    obtain ⟨rfl, atKey⟩ := Cursor.ahead_advance ahead (by simp) (isDot ▸ nofun)
    obtain ⟨rfl, passed⟩ :=
      Cursor.ahead_advance atKey (by simp) (Expr.noEnd_of_keysOf? areKeys)
    have enoughSteps : more.length ≤ fuel := by simp at enough; omega
    obtain ⟨last, run, left⟩ := later.run_parseStepsWith passed stops enoughSteps
    exact ⟨last, (Expr.parseStepsWith_dot_eq_ok isDot).2 ⟨keys, steps, areKeys, run, rfl⟩, left⟩
  | @Step.SpelledSteps.index opening closing inner more key steps opens spelled closes later =>
    obtain ⟨fuel, rfl⟩ : ∃ left, fuel = left + 1 := ⟨fuel - 1, by simp at enough; omega⟩
    simp only [List.length_cons, List.length_append] at enough
    have split : cursor.ahead = opening :: (inner ++ closing :: (more ++ stop :: rest)) := by
      simpa using ahead
    obtain ⟨rfl, atKey⟩ := Cursor.ahead_advance split (by simp) (opens ▸ nofun)
    have stopsKey : closing.StopsLookup := ⟨closes ▸ nofun, closes ▸ nofun⟩
    have enoughKey : inner.length < fuel := by omega
    have enoughSteps : more.length ≤ fuel := by omega
    obtain ⟨middle, runKey, atClosing⟩ := spelled.run_parseWith atKey stopsKey enoughKey
    obtain ⟨rfl, passed⟩ := Cursor.ahead_advance atClosing (by simp) (closes ▸ nofun)
    obtain ⟨last, run, left⟩ := later.run_parseStepsWith passed stops enoughSteps
    exact ⟨last, (Expr.parseStepsWith_bracket_eq_ok opens).2
      ⟨key, middle, steps, runKey, closes, run, rfl⟩, left⟩

end

/-! ## Lookups that go on -/

namespace Step

theorem SpelledSteps.append {front back : List Token} {steps more : List Step}
    (first : SpelledSteps front steps) (second : SpelledSteps back more) :
    SpelledSteps (front ++ back) (steps ++ more) := by
  match first with
  | .nil => exact second
  | .keys isDot areKeys later =>
    rw [List.append_assoc]
    exact .keys isDot areKeys (later.append second)
  | .index opens spelled closes later =>
    have goesOn := SpelledSteps.index opens spelled closes (later.append second)
    simpa using goesOn

/-- A lookup goes on with steps. -/
theorem SpelledPath.append {front back : List Token} {steps more : List Step}
    (first : SpelledPath front steps) (second : SpelledSteps back more) :
    SpelledPath (front ++ back) (steps ++ more) := by
  cases first with
  | word isKind later => exact .word isKind (later.append second)
  | bracket isKind later => exact .bracket isKind (later.append second)

/-- Steps end with a bracket or with a token that stands for keys. -/
theorem SpelledSteps.exists_last {tokens front : List Token} {token : Token} {steps : List Step}
    (areSteps : SpelledSteps tokens steps) (same : tokens = front ++ [token]) :
    token.kind = .closeSquare ∨
      ∃ before dot earlier keys, front = before ++ [dot] ∧ dot.kind = .dot ∧
        SpelledSteps before earlier ∧ keysOf? token = some keys ∧ steps = earlier ++ keys := by
  match areSteps with
  | .nil => simp at same
  | @SpelledSteps.keys dot name rest ends later isDot areKeys areLater =>
    rcases rest.eq_nil_or_concat' with rfl | ⟨middle, last, isRest⟩
    · cases areLater
      have split : [dot] ++ [name] = front ++ [token] := same
      obtain ⟨rfl, isLast⟩ := List.append_inj' split rfl
      cases isLast
      exact .inr ⟨[], dot, [], ends, rfl, isDot, .nil, areKeys, by simp⟩
    · have split : (dot :: name :: middle) ++ [last] = front ++ [token] := by
        rw [← same, isRest]
        rfl
      obtain ⟨rfl, isLast⟩ := List.append_inj' split rfl
      cases isLast
      refine (areLater.exists_last isRest).imp_right ?_
      rintro ⟨before, second, earlier, finals, rfl, isSecond, spelled, areFinals, rfl⟩
      exact ⟨dot :: name :: before, second, ends ++ earlier, finals, rfl, isSecond,
        .keys isDot areKeys spelled, areFinals, (List.append_assoc ..).symm⟩
  | @SpelledSteps.index opening closing inner rest expr later opens spelled closes areLater =>
    rcases rest.eq_nil_or_concat' with rfl | ⟨middle, last, isRest⟩
    · have split : (opening :: inner) ++ [closing] = front ++ [token] := same
      obtain ⟨-, isLast⟩ := List.append_inj' split rfl
      cases isLast
      exact .inl closes
    · have split : (opening :: (inner ++ closing :: middle)) ++ [last] = front ++ [token] := by
        rw [← same, isRest]
        simp
      obtain ⟨rfl, isLast⟩ := List.append_inj' split rfl
      cases isLast
      refine (areLater.exists_last isRest).imp_right ?_
      rintro ⟨before, second, earlier, finals, rfl, isSecond, areEarlier, areFinals, rfl⟩
      exact ⟨opening :: (inner ++ closing :: before), second, .index expr :: earlier, finals,
        by simp, isSecond, .index opens spelled closes areEarlier, areFinals, rfl⟩

/-- A lookup ends with a bracket, a word or a token that stands for keys. -/
theorem SpelledPath.exists_last {tokens front : List Token} {token : Token} {steps : List Step}
    (path : SpelledPath tokens steps) (same : tokens = front ++ [token]) :
    token.kind = .closeSquare ∨ token.kind = .identifier ∨
      ∃ before dot earlier keys, front = before ++ [dot] ∧ dot.kind = .dot ∧
        SpelledPath before earlier ∧ keysOf? token = some keys ∧ steps = earlier ++ keys := by
  cases path with
  | @word first rest later isKind areLater =>
    rcases rest.eq_nil_or_concat' with rfl | ⟨middle, last, rfl⟩
    · have split : [] ++ [first] = front ++ [token] := same
      obtain ⟨-, isLast⟩ := List.append_inj' split rfl
      cases isLast
      exact .inr (.inl isKind)
    · have split : (first :: middle) ++ [last] = front ++ [token] := same
      obtain ⟨rfl, isLast⟩ := List.append_inj' split rfl
      cases isLast
      refine (areLater.exists_last rfl).imp_right fun endsWithKeys => .inr ?_
      obtain ⟨before, dot, earlier, ends, rfl, isDot, spelled, areKeys, rfl⟩ := endsWithKeys
      exact ⟨first :: before, dot, _, ends, rfl, isDot, .word isKind spelled, areKeys, rfl⟩
  | @bracket first rest _ isKind areLater =>
    refine (areLater.exists_last same).imp_right fun endsWithKeys => .inr ?_
    obtain ⟨before, dot, earlier, ends, rfl, isDot, spelled, areKeys, rfl⟩ := endsWithKeys
    cases before with
    | nil =>
      cases same
      rw [isKind] at isDot
      cases isDot
    | cons opening before =>
      obtain ⟨rfl, -⟩ := List.cons.inj same
      exact ⟨_, dot, earlier, ends, rfl, isDot, .bracket isKind spelled, areKeys, rfl⟩

/-- No lookup ends with a dot. -/
theorem SpelledPath.noDot {front : List Token} {token : Token} {steps : List Step}
    (path : SpelledPath (front ++ [token]) steps) : token.kind ≠ .dot := by
  intro isDot
  rcases path.exists_last rfl with isClose | isWord | ⟨_, _, _, _, -, -, -, areKeys, -⟩
  · rw [isDot] at isClose
    cases isClose
  · rw [isDot] at isWord
    cases isWord
  · simp [keysOf?, isDot] at areKeys

/-- If a lookup ends with an integer, a float that goes on with it is one more key. -/
theorem SpelledPath.join {front : List Token} {token float : Token} {steps : List Step}
    {fraction : List Char} (path : SpelledPath (front ++ [token]) steps)
    (isInteger : token.kind = .integer) (isFloat : float.kind = .float)
    (parts : Text.splitOn '.' float.text.toList = [token.text.toList, fraction]) :
    SpelledPath (front ++ [float]) (steps ++ [.key (String.ofList fraction)]) := by
  rcases path.exists_last rfl with
    isClose | isWord | ⟨_, _, _, keys, rfl, isDot, spelled, areKeys, rfl⟩
  · rw [isInteger] at isClose
    cases isClose
  · rw [isInteger] at isWord
    cases isWord
  · obtain rfl : [.key token.text] = keys := by simpa [keysOf?, isInteger] using areKeys
    have joined : keysOf? float = some [.key token.text, .key (String.ofList fraction)] := by
      simp [keysOf?, isFloat, parts]
    have goesOn := spelled.append (.keys isDot joined .nil)
    simpa using goesOn

end Step

end TextTemplate
