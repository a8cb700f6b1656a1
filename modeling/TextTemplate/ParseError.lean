import TextTemplate.LexError
import TextTemplate.Token

/-!
Errors of compiling a template. Their causes are data; `ParseError.Cause.title` and
`ParseError.Cause.message` hold the wording.
-/

namespace TextTemplate

/-- Why a template does not compile. -/
inductive ParseError.Cause
  /-- A fragment or a token is malformed. -/
  | lexical (cause : LexError.Cause)
  /-- The source ends inside a block. -/
  | unterminatedTag (tag : String)
  /-- One kind of token is required and a token of another kind stands there. -/
  | unexpectedToken (expected found : TokenKind) (text : String)
  /-- A number does not fit in its type. -/
  | invalidNumber (text : String)
  /-- No tag of this name is known, and no open block has a use for it. -/
  | unknownTag (name : String)
  /-- Any other fault in the markup of a tag. -/
  | malformed (message : String)
deriving DecidableEq, Repr

/-- A compile error and where it is, if known. -/
structure ParseError where
  cause : ParseError.Cause
  span : Option Span
deriving DecidableEq, Repr

namespace ParseError

/-- The headline of a cause. -/
def Cause.title : Cause → String
  | lexical (.unterminatedDelimiter _) => "UNTERMINATED DELIMITER"
  | lexical .unterminatedString => "UNTERMINATED STRING"
  | lexical (.unexpectedCharacter _) => "UNEXPECTED CHARACTER"
  | unterminatedTag _ => "UNTERMINATED TAG"
  | unexpectedToken .. => "UNEXPECTED TOKEN"
  | invalidNumber _ => "INVALID NUMBER"
  | unknownTag _ => "UNKNOWN TAG"
  | malformed _ => "SYNTAX ERROR"

/-- The wording of a cause. -/
def Cause.message : Cause → String
  | lexical cause => cause.message
  | unterminatedTag tag =>
    "`" ++ tag ++ "` tag was never closed with `" ++ TagHead.endName tag ++ "`"
  | unexpectedToken expected found text =>
    "expected " ++ expected.describe ++ ", found " ++ found.describe ++
      (if text.isEmpty then "" else " `" ++ text ++ "`")
  | invalidNumber text => "number `" ++ text ++ "` is out of range"
  | unknownTag name => "unknown tag `" ++ name ++ "`"
  | malformed message => message

/-- The compile error that a lexical error is. -/
def ofLexError (error : LexError) : ParseError :=
  ⟨.lexical error.cause, some error.span⟩

/-- The error at `span`, unless it has a place already. -/
def orSpan (error : ParseError) (span : Span) : ParseError :=
  { error with span := some (error.span.getD span) }

/-- A fault in the markup at `span`. -/
def malformedAt (message : String) (span : Span) : ParseError :=
  ⟨.malformed message, some span⟩

end ParseError

end TextTemplate
