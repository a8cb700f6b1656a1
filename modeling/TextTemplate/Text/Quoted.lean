import TextTemplate.Text.CharClass

/-!
Quoted text, as names and keys are shown in descriptions.

A quoted text stands between double quotes. The quote and the backslash take a backslash before
them, the common control characters have short forms, and a character that shows nothing of its
own or joins its neighbour is written as its code in braces.
-/

namespace TextTemplate.Text

/-- The code of a character in lower-case hexadecimal digits, between braces. -/
def bracedCode (c : Char) : List Char :=
  '\\' :: 'u' :: '{' :: Nat.toDigits 16 c.toNat ++ ['}']

/-- A character as it stands in a quoted text. -/
def quoteChar (c : Char) : List Char :=
  match c with
  | '"' => ['\\', '"']
  | '\\' => ['\\', '\\']
  | '\t' => ['\\', 't']
  | '\n' => ['\\', 'n']
  | '\r' => ['\\', 'r']
  | _ =>
    if c.toNat = 0 then ['\\', '0']
    else if isJoining c || !isPrintable c then bracedCode c
    else [c]

/-- The text between quotes. -/
def quoted (text : String) : String :=
  String.ofList ('"' :: text.toList.flatMap quoteChar ++ ['"'])

/-- Quoted texts in brackets, parted by commas. -/
def quotedList (texts : List String) : String :=
  "[" ++ ", ".intercalate (texts.map quoted) ++ "]"

end TextTemplate.Text
