import TextTemplate.LexError
import TextTemplate.Token

/-!
Lexing: cutting markup into tokens.

At each place that is no gap the candidates are tried in a fixed order: comparison operators,
strings, numbers, identifiers, the range operator, punctuation. A character that starts no token
is an error in strict mode and is passed over in lax mode.
-/

namespace TextTemplate

/-- What the lexer does with a character that starts no token. -/
inductive LexMode
  /-- Reports it. -/
  | strict
  /-- Passes over it. -/
  | lax
deriving DecidableEq, Repr

namespace Token

open Text (isGap isBlank byteSize)

/-- The characters that an identifier goes on with: ASCII letters and digits, the underscore and
the hyphen. -/
def isWordChar (c : Char) : Bool :=
  c.isAlphanum || c == '_' || c == '-'

/-- The characters that an identifier starts with. -/
def isWordStart (c : Char) : Bool :=
  c.isAlpha || c == '_'

/-- The characters that open a string, and close it. -/
def isQuote (c : Char) : Bool :=
  c == '\'' || c == '"'

/-- How many characters the comparison operator at the front of `cs` has. The word operator ends
where no word character follows. -/
def comparisonLength? (cs : List Char) : Option Nat :=
  match cs with
  | '=' :: '=' :: _ | '!' :: '=' :: _ | '<' :: '>' :: _ | '<' :: '=' :: _ | '>' :: '=' :: _ =>
    some 2
  | '<' :: _ | '>' :: _ => some 1
  | _ =>
    if "contains".toList.isPrefixOf cs && !(cs.drop 8).head?.any isWordChar then some 8 else none

/-- How many characters the string has that opens with `quote` and goes on with `rest`. -/
def stringLength? (quote : Char) (rest : List Char) : Option Nat :=
  (rest.findIdx? (· == quote)).map (· + 2)

/-- The kind and the length of the number at the front of `cs`: an optional sign and digits, for a
float also a dot and digits. -/
def number? (cs : List Char) : Option (TokenKind × Nat) :=
  let sign := if cs.head? = some '-' then 1 else 0
  let digits := ((cs.drop sign).takeWhile Char.isDigit).length
  if digits = 0 then none
  else
    let whole := sign + digits
    match cs.drop whole with
    | '.' :: rest =>
      match (rest.takeWhile Char.isDigit).length with
      | 0 => some (.integer, whole)
      | fraction => some (.float, whole + 1 + fraction)
    | _ => some (.integer, whole)

/-- The kind and the length of the identifier, range operator or punctuation at the front of
`cs`. -/
def wordOrMark? (cs : List Char) : Option (TokenKind × Nat) :=
  match cs with
  | [] => none
  | c :: rest =>
    if isWordStart c then some (.identifier, 1 + (rest.takeWhile isWordChar).length)
    else if c = '.' ∧ rest.head? = some '.' then some (.range, 2)
    else (TokenKind.ofPunctuation? c).map fun kind => (kind, 1)

/-- The kind and the length in characters of the lexeme at the front of `cs`. -/
def lexeme? (cs : List Char) : Option (TokenKind × Nat) :=
  match comparisonLength? cs, cs with
  | some length, _ => some (.comparison, length)
  | none, [] => none
  | none, c :: rest =>
    if isQuote c then (stringLength? c rest).map fun length => (.string, length)
    else
      match number? cs with
      | some number => some number
      | none => wordOrMark? cs

/-- The cause to report for a character that starts no token. -/
def strayCause (c : Char) : LexError.Cause :=
  if isQuote c then .unterminatedString else .unexpectedCharacter c

/-- The tokens of trimmed markup that begins at byte `offset`. -/
def lexFrom (mode : LexMode) (offset : Nat) (cs : List Char) : Except LexError (List Token) :=
  match cs with
  | [] => .ok [ending offset]
  | c :: rest =>
    if isGap c then lexFrom mode (offset + 1) rest
    else
      match lexeme? (c :: rest) with
      | some (kind, length) =>
        let text := c :: rest.take (length - 1)
        let stop := offset + byteSize text
        match lexFrom mode stop (rest.drop (length - 1)) with
        | .error error => .error error
        | .ok tokens => .ok (⟨kind, String.ofList text, ⟨offset, stop⟩⟩ :: tokens)
      | none =>
        match mode with
        | .strict => .error ⟨strayCause c, ⟨offset, offset + c.utf8Size⟩⟩
        | .lax => lexFrom mode (offset + c.utf8Size) rest
termination_by cs.length

/-- The tokens of markup, closed by one end token. The blanks around the markup are no part of it,
but spans count from its untrimmed front. -/
def lex (mode : LexMode) (markup : String) : Except LexError (List Token) :=
  let cs := markup.toList
  lexFrom mode (byteSize (cs.takeWhile isBlank)) (Text.trim cs)

end Token

end TextTemplate
