import TextTemplate.Text.CaseMap
import TextTemplate.Text.CharClass

/-!
Upper and lower case of texts.

Case maps character by character, with one exception: a capital sigma at the end of a word turns
into the final form of the small letter. It stands at the end of a word if a cased letter stands
before it and none after it, marks in between not counted.
-/

namespace TextTemplate.Text

/-- The text in upper case. -/
def upper (cs : List Char) : List Char :=
  cs.flatMap upperChar

/-- Whether the first character of `cs` that is not ignorable is a cased letter. -/
def startsCased (cs : List Char) : Bool :=
  (cs.dropWhile isCaseIgnorable).head?.any isCased

/-- The lower case of `cs`, which stands after the characters `before`, the nearest first. -/
def lowerAfter (before : List Char) : List Char → List Char
  | [] => []
  | c :: rest =>
    let mapped :=
      if c = 'Σ' then [if startsCased before && !startsCased rest then 'ς' else 'σ']
      else lowerChar c
    mapped ++ lowerAfter (c :: before) rest

/-- The text in lower case. -/
def lower (cs : List Char) : List Char :=
  lowerAfter [] cs

/-- The text with its first character in upper case and the others as they are. -/
def capitalize : List Char → List Char
  | [] => []
  | c :: rest => upperChar c ++ rest

end TextTemplate.Text
