import TextTemplate.Span

/-!
Tokens of markup: the kinds, how each is called in messages, and a token with its text and span.
-/

namespace TextTemplate

/-- The kinds of tokens in markup. -/
inductive TokenKind
  | comparison
  | string
  | integer
  | float
  | identifier
  /-- Two dots. -/
  | range
  | pipe
  | dot
  | colon
  | comma
  | openSquare
  | closeSquare
  | openRound
  | closeRound
  | question
  | dash
  /-- Stands at the end of every token list. -/
  | endOfMarkup
deriving DecidableEq, Repr

namespace TokenKind

/-- What messages call a token of this kind. -/
def describe : TokenKind → String
  | comparison => "comparison operator"
  | string => "string"
  | integer => "integer"
  | float => "float"
  | identifier => "identifier"
  | range => "`..`"
  | pipe => "`|`"
  | dot => "`.`"
  | colon => "`:`"
  | comma => "`,`"
  | openSquare => "`[`"
  | closeSquare => "`]`"
  | openRound => "`(`"
  | closeRound => "`)`"
  | question => "`?`"
  | dash => "`-`"
  | endOfMarkup => "end of markup"

/-- The kind of a punctuation character. -/
def ofPunctuation? : Char → Option TokenKind
  | '|' => some pipe
  | '.' => some dot
  | ':' => some colon
  | ',' => some comma
  | '[' => some openSquare
  | ']' => some closeSquare
  | '(' => some openRound
  | ')' => some closeRound
  | '?' => some question
  | '-' => some dash
  | _ => none

end TokenKind

/-- A token: its kind, its text as written, and where the text stands in the markup. -/
structure Token where
  kind : TokenKind
  text : String
  span : Span
deriving DecidableEq, Repr

namespace Token

/-- The end of markup at byte `offset`. -/
def ending (offset : Nat) : Token :=
  ⟨.endOfMarkup, "", ⟨offset, offset⟩⟩

/-- The text between the quotes of a string; the text of any other token as it is. -/
def unquoted (token : Token) : String :=
  if token.kind = .string ∧ 2 ≤ token.text.utf8ByteSize then
    String.ofList (token.text.toList.drop 1).dropLast
  else token.text

end Token

end TextTemplate
