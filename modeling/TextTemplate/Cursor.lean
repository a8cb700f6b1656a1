import TextTemplate.ParseError
import TextTemplate.Token.Lexer

/-!
A cursor over the tokens of one piece of markup, and the actions that parsers are made of.

A cursor is a token with the tokens before and after it, so it stands on a token by construction.
The last token is an end token, and no action moves past an end token. Spans of tokens count from
the front of the markup; the spans that a cursor reports count from the front of the source, in
which the markup begins at byte `base`.
-/

namespace TextTemplate

/-- A place in a list of tokens. -/
structure Cursor where
  /-- The tokens before the current one, the nearest first. -/
  passed : List Token
  current : Token
  /-- The tokens after the current one. -/
  later : List Token
  /-- Where the markup begins in the source. -/
  base : Nat
deriving DecidableEq, Repr

namespace Cursor

/-- How many tokens to look ahead over. A list in memory has fewer than `2 ^ 63` tokens, so the
index of the token looked at is a number of 64 bits. -/
abbrev Distance := Fin 0x8000000000000000

/-- A count of tokens, cut to the longest distance: no token stands so far ahead. -/
instance : Coe Nat Distance :=
  ⟨fun count => ⟨min count 0x7fffffffffffffff, by omega⟩⟩

/-- The tokens with an end token after them, if the last one is no end token. -/
def closeTokens (tokens : List Token) : List Token :=
  match tokens.getLast? with
  | none => [Token.ending 0]
  | some last =>
    if last.kind = .endOfMarkup then tokens else tokens ++ [Token.ending last.span.stop]

/-- A cursor on the first of the tokens. -/
def ofTokens (tokens : List Token) (base : Nat) : Cursor :=
  match closeTokens tokens with
  | [] => ⟨[], Token.ending 0, [], base⟩
  | token :: later => ⟨[], token, later, base⟩

/-- A cursor on the first token of `markup`. -/
def ofMarkup (mode : LexMode) (markup : String) (base : Nat) : Except ParseError Cursor :=
  match Token.lex mode markup with
  | .ok tokens => .ok (ofTokens tokens base)
  | .error error => .error (.ofLexError (error.shift base))

/-- The number of tokens before the current one. -/
def position (cursor : Cursor) : Nat :=
  cursor.passed.length

/-- All tokens, in their order. -/
def tokens (cursor : Cursor) : List Token :=
  cursor.passed.reverse ++ cursor.current :: cursor.later

/-- The span of the current token in the source. -/
def span (cursor : Cursor) : Span :=
  cursor.current.span.shift cursor.base

/-- Whether the token `distance` places ahead is of this kind. No token stands past the last. -/
def looksAt (cursor : Cursor) (kind : TokenKind) (distance : Distance) : Bool :=
  match (cursor.current :: cursor.later)[distance.val]? with
  | some token => token.kind == kind
  | none => false

/-- Whether the current token is of this kind. -/
def isAt (cursor : Cursor) (kind : TokenKind) : Bool :=
  cursor.current.kind == kind

/-- Whether the current token is the identifier `text`. -/
def isAtWord (cursor : Cursor) (text : String) : Bool :=
  cursor.current.kind == .identifier && cursor.current.text == text

/-- Whether the current token is an end token. -/
def isAtEnd (cursor : Cursor) : Bool :=
  cursor.isAt .endOfMarkup

/-- One token on; the last token is kept. -/
def next (cursor : Cursor) : Cursor :=
  match cursor.later with
  | [] => cursor
  | token :: later => ⟨cursor.current :: cursor.passed, token, later, cursor.base⟩

/-- One token on; an end token is kept. -/
def advance (cursor : Cursor) : Cursor :=
  if cursor.isAtEnd then cursor else cursor.next

/-- The cursor on the first token. -/
def rewind (cursor : Cursor) : Cursor :=
  match cursor.tokens with
  | [] => cursor
  | token :: later => ⟨[], token, later, cursor.base⟩

/-- The cursor on the token with `position` tokens before it, or on the last token. -/
def jump (cursor : Cursor) (position : Nat) : Cursor :=
  let first := cursor.rewind
  Nat.repeat next (min position first.later.length) first

/-- The error for a current token of another kind than the one required. -/
def unexpected (cursor : Cursor) (expected : TokenKind) : ParseError :=
  ⟨.unexpectedToken expected cursor.current.kind cursor.current.text, some cursor.span⟩

end Cursor

/-- An action that reads tokens. A failure leaves the cursor where the failure was met. -/
abbrev Parser := EStateM ParseError Cursor

namespace Parser

/-- Takes the current token, whatever it is. -/
def consume : Parser Token := do
  let cursor ← get
  set cursor.advance
  return cursor.current

/-- Takes the current token, which has to be of this kind. -/
def expect (kind : TokenKind) : Parser Token := do
  let cursor ← get
  if cursor.isAt kind then consume else throw (cursor.unexpected kind)

/-- Takes the current token if it is of this kind. -/
def take? (kind : TokenKind) : Parser (Option Token) := do
  if (← get).isAt kind then
    let token ← consume
    return some token
  else return none

/-- Takes the current token if it is the identifier `text`. -/
def takeWord? (text : String) : Parser (Option Token) := do
  if (← get).isAtWord text then
    let token ← consume
    return some token
  else return none

/-- Requires that the current token is an end token. -/
def expectEnd : Parser Unit := do
  discard (expect .endOfMarkup)

/-- Fails with a message about the current token. -/
def failHere {α : Type} (message : String) : Parser α := do
  throw (.malformedAt message (← get).span)

/-- The result of reading from `cursor`, without the cursor afterwards. -/
def result {α : Type} (parser : Parser α) (cursor : Cursor) : Except ParseError α :=
  match parser.run cursor with
  | .ok value _ => .ok value
  | .error error _ => .error error

end Parser

end TextTemplate
