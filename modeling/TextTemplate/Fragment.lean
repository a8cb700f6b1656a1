import TextTemplate.Span
import TextTemplate.Text.Blank

/-!
The fragments of a template.

A template is a sequence of literal texts, objects (double braces) and tags (braces with percent
signs). A fragment keeps the text between its delimiters as written; `Fragment.sourceText` puts
the delimiters back, and `Fragment.tagHead` splits what a tag holds into its name and its markup.
-/

namespace TextTemplate

/-- The two kinds of delimiters that set markup apart from literal text. -/
inductive Delimiter
  /-- Double braces, around a value to write. -/
  | object
  /-- Braces with percent signs, around a control construct. -/
  | tag
deriving DecidableEq, Repr

namespace Delimiter

/-- The two characters that open markup. -/
def opener : Delimiter → String
  | object => "\x7b\x7b"
  | tag => "\x7b%"

/-- The two characters that close markup. -/
def closer : Delimiter → String
  | object => "\x7d\x7d"
  | tag => "%\x7d"

/-- The first character of the closing delimiter; the second is a brace. -/
def closerHead : Delimiter → Char
  | object => '}'
  | tag => '%'

end Delimiter

/-- What a fragment is. -/
inductive FragmentKind
  /-- Literal text. -/
  | text
  /-- Markup between delimiters. -/
  | markup (delimiter : Delimiter)
deriving DecidableEq, Repr

/-- One lexical unit of a template. The text leaves the delimiters out, and the span locates the
text in the source. -/
structure Fragment where
  kind : FragmentKind
  text : String
  span : Span
deriving DecidableEq, Repr

/-- The name of a tag and the markup after the name, with the markup's offset in the source. -/
structure TagHead where
  name : String
  markup : String
  offset : Nat
deriving DecidableEq, Repr

namespace TagHead

/-- The span of the markup after the name. -/
def span (tag : TagHead) : Span :=
  ⟨tag.offset, tag.offset + tag.markup.utf8ByteSize⟩

/-- The name that closes the block which a tag called `name` opens. -/
def endName (name : String) : String :=
  "end" ++ name

end TagHead

namespace Fragment

/-- The characters a tag's name is made of: ASCII letters, digits and underscores. -/
def isNameChar (c : Char) : Bool :=
  c.isAlphanum || c == '_'

/-- The name of a tag is the run of name characters after optional blanks, and may be empty. The
markup is all that follows, untrimmed. -/
def tagHead (fragment : Fragment) : TagHead :=
  let cs := fragment.text.toList
  let lead := cs.takeWhile Text.isBlank
  let trimmed := cs.dropWhile Text.isBlank
  let name := trimmed.takeWhile isNameChar
  let markup := trimmed.dropWhile isNameChar
  ⟨String.ofList name, String.ofList markup,
    fragment.span.start + Text.byteSize lead + Text.byteSize name⟩

/-- The fragment as it stands in the source, with its delimiters. -/
def sourceText (fragment : Fragment) : String :=
  match fragment.kind with
  | .text => fragment.text
  | .markup delimiter => delimiter.opener ++ fragment.text ++ delimiter.closer

/-- Whether the fragment is the tag that closes the block opened by a tag called `name`. -/
def closes (fragment : Fragment) (name : String) : Bool :=
  fragment.kind == .markup .tag && fragment.tagHead.name == TagHead.endName name

end Fragment

end TextTemplate
