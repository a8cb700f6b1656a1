import TextTemplate.Pipeline
import TextTemplate.Proofs.Tiling
import Mathlib.Data.List.Forall2

/-!
# Two places for one text

A compiler that reads the same text at two places does the same at both, and what it reports of the
one corresponds to what it reports of the other. An `Alignment` says which spans correspond; its one
law is that what stands at one place within corresponding markup corresponds. `Alignment.Agree`
relates parsers that keep to an alignment, and is closed under the ways parsers are put together.
-/

namespace TextTemplate

/-- Which text stands where the error is. -/
def ParseError.Cause.Names (cause : ParseError.Cause) (text : List Char) : Prop :=
  match cause with
  | .lexical (.unterminatedDelimiter delimiter) => text = delimiter.opener.toList
  | .lexical .unterminatedString => ∃ quote, Token.isQuote quote = true ∧ text = [quote]
  | .lexical (.unexpectedCharacter c) => text = [c]
  | .unexpectedToken _ _ found => text = found.toList
  | .invalidNumber found => text = found.toList
  | .unknownTag _ => False
  | .unterminatedTag _ | .malformed _ => True

/-- Places in two sources that correspond. -/
structure Alignment where
  /-- The text stands at the one span in the one source, and at the other in the other. -/
  spans : List Char → Span → Span → Prop
  /-- The fragment of the one source corresponds to that of the other. -/
  fragments : Fragment → Fragment → Prop
  within : ∀ {markup text : List Char} {outer outer' inner : Span}, spans markup outer outer' →
    inner.Locates markup text → spans text (inner.shift outer.start) (inner.shift outer'.start)
  kind : ∀ {fragment fragment' : Fragment}, fragments fragment fragment' →
    fragment'.kind = fragment.kind
  text : ∀ {fragment fragment' : Fragment}, fragments fragment fragment' →
    fragment'.text = fragment.text
  span : ∀ {fragment fragment' : Fragment}, fragments fragment fragment' →
    spans fragment.text.toList fragment.span fragment'.span

namespace Alignment

variable {a : Alignment}

/-- Tokens of one kind with one text, at spans that correspond once the markup has its place. -/
structure Tokens (a : Alignment) (base base' : Nat) (token token' : Token) : Prop where
  kind : token'.kind = token.kind
  text : token'.text = token.text
  span : a.spans token.text.toList (token.span.shift base) (token'.span.shift base')

/-- Cursors before corresponding tokens. -/
structure Cursors (a : Alignment) (cursor cursor' : Cursor) : Prop where
  current : a.Tokens cursor.base cursor'.base cursor.current cursor'.current
  later : List.Forall₂ (a.Tokens cursor.base cursor'.base) cursor.later cursor'.later

/-- Errors with one cause at corresponding places. A tag without a meaning is reported with its
name, at the markup after the name. -/
inductive Errors (a : Alignment) : ParseError → ParseError → Prop
  | placed {cause : ParseError.Cause} {text : List Char} {span span' : Span}
      (spans : a.spans text span span') (names : cause.Names text) :
      Errors a ⟨cause, some span⟩ ⟨cause, some span'⟩
  | unknownTag {fragment fragment' : Fragment} (fragments : a.fragments fragment fragment')
      (isTag : fragment.kind = .markup .tag) :
      Errors a ⟨.unknownTag fragment.tagHead.name, some fragment.tagHead.span⟩
        ⟨.unknownTag fragment'.tagHead.name, some fragment'.tagHead.span⟩

/-- Related values, or corresponding errors. -/
inductive Outcomes (a : Alignment) {α : Type} (V : α → α → Prop) :
    Except ParseError α → Except ParseError α → Prop
  | ok {value value' : α} (values : V value value') : Outcomes a V (.ok value) (.ok value')
  | error {error error' : ParseError} (errors : a.Errors error error') :
      Outcomes a V (.error error) (.error error')

/-- Related values with corresponding cursors, or corresponding errors. -/
inductive Results (a : Alignment) {α : Type} (V : α → α → Prop) :
    EStateM.Result ParseError Cursor α → EStateM.Result ParseError Cursor α → Prop
  | ok {value value' : α} {cursor cursor' : Cursor} (values : V value value')
      (cursors : a.Cursors cursor cursor') : Results a V (.ok value cursor) (.ok value' cursor')
  | error {error error' : ParseError} {cursor cursor' : Cursor} (errors : a.Errors error error') :
      Results a V (.error error cursor) (.error error' cursor')

/-- From corresponding cursors the parsers come to corresponding results. -/
def Agree (a : Alignment) {α : Type} (V : α → α → Prop) (parser parser' : Parser α) : Prop :=
  ∀ cursor cursor', a.Cursors cursor cursor' → a.Results V (parser.run cursor) (parser'.run cursor')

/-- The parser does the same at corresponding places. -/
abbrev Steady (a : Alignment) {α : Type} (V : α → α → Prop) (parser : Parser α) : Prop :=
  a.Agree V parser parser

variable {α β : Type} {V : α → α → Prop} {W : β → β → Prop}

/-! ## Cursors -/

theorem errors_malformed {message : String} {text : List Char} {span span' : Span}
    (spans : a.spans text span span') :
    a.Errors (.malformedAt message span) (.malformedAt message span') :=
  .placed spans trivial

namespace Cursors

variable {cursor cursor' : Cursor}

theorem isAt (cursors : a.Cursors cursor cursor') (kind : TokenKind) :
    cursor'.isAt kind = cursor.isAt kind := by
  rw [Cursor.isAt, cursors.current.kind, Cursor.isAt]

theorem isAtEnd (cursors : a.Cursors cursor cursor') : cursor'.isAtEnd = cursor.isAtEnd :=
  cursors.isAt .endOfMarkup

theorem isAtWord (cursors : a.Cursors cursor cursor') (text : String) :
    cursor'.isAtWord text = cursor.isAtWord text := by
  rw [Cursor.isAtWord, cursors.current.kind, cursors.current.text, Cursor.isAtWord]

theorem looksAt (cursors : a.Cursors cursor cursor') (kind : TokenKind)
    (distance : Cursor.Distance) :
    cursor'.looksAt kind distance = cursor.looksAt kind distance := by
  have tokens : List.Forall₂ (a.Tokens cursor.base cursor'.base)
      (cursor.current :: cursor.later) (cursor'.current :: cursor'.later) :=
    .cons cursors.current cursors.later
  unfold Cursor.looksAt
  generalize distance.val = distance
  generalize cursor.current :: cursor.later = left at tokens
  generalize cursor'.current :: cursor'.later = right at tokens
  induction tokens generalizing distance with
  | nil => rfl
  | cons here later ih =>
    cases distance with
    | zero => simp [here.kind]
    | succ distance => simpa using ih distance

theorem count (cursors : a.Cursors cursor cursor') :
    cursor'.later.length = cursor.later.length :=
  cursors.later.length_eq.symm

theorem advance (cursors : a.Cursors cursor cursor') :
    a.Cursors cursor.advance cursor'.advance := by
  unfold Cursor.advance
  rw [cursors.isAtEnd]
  split
  · exact cursors
  · obtain ⟨passed, current, later, base⟩ := cursor
    obtain ⟨passed', current', later', base'⟩ := cursor'
    obtain ⟨here, after⟩ := cursors
    cases after with
    | nil => exact ⟨here, .nil⟩
    | cons first rest => exact ⟨first, rest⟩

theorem unexpected (cursors : a.Cursors cursor cursor') (kind : TokenKind) :
    a.Errors (cursor.unexpected kind) (cursor'.unexpected kind) := by
  unfold Cursor.unexpected
  rw [cursors.current.kind, cursors.current.text]
  exact .placed cursors.current.span rfl

end Cursors

/-! ## Ways to put parsers together -/

theorem results_bind {cursor cursor' : Cursor} {parser parser' : Parser α}
    {next next' : α → Parser β} (first : a.Results V (parser.run cursor) (parser'.run cursor'))
    (later : ∀ value value', V value value' → a.Agree W (next value) (next' value')) :
    a.Results W ((parser >>= next).run cursor) ((parser' >>= next').run cursor') := by
  show a.Results W (EStateM.bind parser next cursor) (EStateM.bind parser' next' cursor')
  unfold EStateM.bind
  change a.Results V (parser cursor) (parser' cursor') at first
  generalize parser cursor = result at first
  generalize parser' cursor' = result' at first
  cases first with
  | ok values cursors => exact later _ _ values _ _ cursors
  | error errors => exact .error errors

theorem agree_bind {parser parser' : Parser α} {next next' : α → Parser β}
    (first : a.Agree V parser parser')
    (later : ∀ value value', V value value' → a.Agree W (next value) (next' value')) :
    a.Agree W (parser >>= next) (parser' >>= next') :=
  fun cursor cursor' cursors => results_bind (first cursor cursor' cursors) later

/-- What is read is the same at both places. -/
theorem agree_bind_eq {parser : Parser α} {next next' : α → Parser β}
    (steady : a.Steady Eq parser) (later : ∀ value, a.Agree W (next value) (next' value)) :
    a.Agree W (parser >>= next) (parser >>= next') := by
  refine agree_bind steady ?_
  rintro value _ rfl
  exact later value

theorem agree_pure {value value' : α} (values : V value value') :
    a.Agree V (pure value) (pure value') :=
  fun _ _ cursors => .ok values cursors

theorem agree_throw {error error' : ParseError} (errors : a.Errors error error') :
    a.Agree V (throw error) (throw error') :=
  fun _ _ _ => .error errors

theorem agree_throw_bind {error error' : ParseError} {next next' : β → Parser α}
    (errors : a.Errors error error') :
    a.Agree V (throw error >>= next) (throw error' >>= next') :=
  fun _ _ _ => .error errors

theorem results_get {cursor cursor' : Cursor} {next next' : Cursor → Parser α}
    (later : a.Results V ((next cursor).run cursor) ((next' cursor').run cursor')) :
    a.Results V ((get >>= next).run cursor) ((get >>= next').run cursor') :=
  later

theorem agree_get {next next' : Cursor → Parser α}
    (later : ∀ cursor cursor', a.Cursors cursor cursor' →
      a.Agree V (next cursor) (next' cursor')) :
    a.Agree V (get >>= next) (get >>= next') :=
  fun cursor cursor' cursors => later cursor cursor' cursors cursor cursor' cursors

theorem agree_ite {p : Prop} [Decidable p] {yes yes' no no' : Parser α}
    (holds : p → a.Agree V yes yes') (fails : ¬ p → a.Agree V no no') :
    a.Agree V (if p then yes else no) (if p then yes' else no') := by
  split
  case isTrue here => exact holds here
  case isFalse here => exact fails here

/-! ## Taking tokens -/

/-- Tokens that differ in their spans only. -/
def Same (token token' : Token) : Prop :=
  token'.kind = token.kind ∧ token'.text = token.text

theorem Same.unquoted {token token' : Token} (same : Same token token') :
    token'.unquoted = token.unquoted := by
  rw [Token.unquoted, same.1, same.2, Token.unquoted]

theorem steady_consume : a.Steady Same Parser.consume :=
  fun _ _ cursors => .ok ⟨cursors.current.kind, cursors.current.text⟩ cursors.advance

theorem results_expect {cursor cursor' : Cursor} (cursors : a.Cursors cursor cursor')
    (kind : TokenKind) :
    a.Results (fun token token' => token = cursor.current ∧ token' = cursor'.current)
      ((Parser.expect kind).run cursor) ((Parser.expect kind).run cursor') := by
  show a.Results _ ((if cursor.isAt kind then Parser.consume else throw _).run cursor)
    ((if cursor'.isAt kind then Parser.consume else throw _).run cursor')
  rw [cursors.isAt]
  split
  · exact .ok ⟨rfl, rfl⟩ cursors.advance
  · exact .error (cursors.unexpected kind)

theorem steady_expect (kind : TokenKind) : a.Steady Same (Parser.expect kind) := by
  refine agree_get fun cursor cursor' cursors => ?_
  rw [cursors.isAt]
  exact agree_ite (fun _ => steady_consume) fun _ => agree_throw (cursors.unexpected kind)

theorem steady_discard {parser : Parser α} (steady : a.Steady V parser) :
    a.Steady Eq (discard parser) := by
  intro cursor cursor' cursors
  have ran := steady cursor cursor' cursors
  show a.Results Eq (EStateM.map _ parser cursor) (EStateM.map _ parser cursor')
  unfold EStateM.map
  change a.Results V (parser cursor) (parser cursor') at ran
  generalize parser cursor = result at ran
  generalize parser cursor' = result' at ran
  cases ran with
  | ok values cursors => exact .ok rfl cursors
  | error errors => exact .error errors

theorem steady_take? (kind : TokenKind) :
    a.Steady (Option.Rel Same) (Parser.take? kind) := by
  refine agree_get fun cursor cursor' cursors => ?_
  rw [cursors.isAt]
  refine agree_ite (fun _ => ?_) fun _ => agree_pure .none
  exact agree_bind steady_consume fun _ _ same => agree_pure (.some same)

theorem steady_takeWord? (text : String) :
    a.Steady (Option.Rel Same) (Parser.takeWord? text) := by
  refine agree_get fun cursor cursor' cursors => ?_
  rw [cursors.isAtWord]
  refine agree_ite (fun _ => ?_) fun _ => agree_pure .none
  exact agree_bind steady_consume fun _ _ same => agree_pure (.some same)

theorem steady_expectEnd : a.Steady Eq Parser.expectEnd :=
  steady_discard (steady_expect _)

theorem steady_failHere (message : String) : a.Steady V (Parser.failHere message) :=
  agree_get fun _ _ cursors => agree_throw (errors_malformed cursors.current.span)

end Alignment

end TextTemplate
