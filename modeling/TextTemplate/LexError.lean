import TextTemplate.Fragment

/-!
Lexical errors: what can go wrong before any grammar is looked at. Their causes are data;
`LexError.Cause.message` holds the wording.
-/

namespace TextTemplate

/-- Why a source or a piece of markup cannot be cut into fragments or tokens. -/
inductive LexError.Cause
  /-- An opening delimiter has no closing delimiter after it. -/
  | unterminatedDelimiter (delimiter : Delimiter)
  /-- A quote has no second quote of its kind after it. -/
  | unterminatedString
  /-- No token starts with this character. -/
  | unexpectedCharacter (c : Char)
deriving DecidableEq, Repr

/-- A lexical error and where it is. -/
structure LexError where
  cause : LexError.Cause
  span : Span
deriving DecidableEq, Repr

namespace LexError

/-- The wording of a cause. -/
def Cause.message : Cause → String
  | unterminatedDelimiter delimiter =>
    "`" ++ delimiter.opener ++ "` was never closed with `" ++ delimiter.closer ++ "`"
  | unterminatedString => "unterminated string literal"
  | unexpectedCharacter c => "unexpected character `" ++ String.singleton c ++ "`"

/-- The error as seen from a text in which the markup begins at byte `base`. -/
def shift (error : LexError) (base : Nat) : LexError :=
  { error with span := error.span.shift base }

end LexError

end TextTemplate
