import TextTemplate.Compile
import TextTemplate.Filter.Standard
import TextTemplate.Node.Render
import TextTemplate.Text.Quoted

/-!
Compiling and rendering templates under one configuration.
-/

namespace TextTemplate

/-- What compiling and rendering depend on besides the template. -/
structure Config where
  tags : TagTable
  filters : FilterTable
  mode : LexMode

namespace Config

/-- The standard tags and filters, and strict lexing. -/
def standard : Config := ⟨.standard, .standard, .strict⟩

/-- No tags, no filters, and strict lexing. -/
def empty : Config := ⟨.empty, .empty, .strict⟩

/-- With a tag, in place of the tag of that name. -/
def withTag (config : Config) (name : String) (rule : TagRule) : Config :=
  { config with tags := config.tags.set name rule }

/-- With a filter, in place of the filter of that name. -/
def withFilter (config : Config) (name : String) (filter : Filter) : Config :=
  { config with filters := config.filters.set name filter }

end Config

/-- The table of tags in words. -/
def TagTable.describe (tags : TagTable) : String :=
  "TagRegistry \x7b tags: " ++ Text.quotedList tags.keys ++ " \x7d"

/-- The table of filters in words. -/
def FilterTable.describe (filters : FilterTable) : String :=
  "FilterRegistry \x7b filters: " ++ Text.quotedList filters.keys ++ " \x7d"

/-- A drop in words, which tell the keys of its cache. -/
def DropStore.describe (store : DropStore) (id : DropId) : String :=
  "SharedDrop \x7b cached: " ++ Text.quotedList (store.cache id).keys ++ " \x7d"

/-- A compile error or a render error. -/
inductive TemplateError
  | parse (error : ParseError)
  | render (error : RenderError)
deriving DecidableEq, Repr

namespace TemplateError

/-- The wording of an error. -/
def message : TemplateError → String
  | parse error => "syntax error: " ++ error.cause.message
  | render error => "render error: " ++ error.cause.message

/-- Where the error is, if known. -/
def span : TemplateError → Option Span
  | parse error => error.span
  | render error => error.span

/-- The position of the error in the source, if known. -/
def position (error : TemplateError) (source : String) : Option Position :=
  error.span.map fun span => span.position source

end TemplateError

/-- A compiled template with its source. -/
structure Template where
  source : String
  body : List Node

/-- The end of a render: the output or an error, and in both cases the root and the drops. -/
structure Rendered where
  result : Except TemplateError String
  root : Data
  drops : DropStore

namespace Template

/-- Compiles a source. -/
def compile (config : Config) (source : String) : Except TemplateError Template :=
  match TextTemplate.compile config.tags config.mode source with
  | .ok body => .ok ⟨source, body⟩
  | .error error => .error (.parse error)

/-- Renders a template against a root, in a fresh state. -/
def render (config : Config) (template : Template) (root : Data) (drops : DropStore) : Rendered :=
  match (Node.renderBody config.filters "" template.body).run (.start root drops) with
  | .ok text context => ⟨.ok text, context.root, context.drops⟩
  | .error error context => ⟨.error (.render error), context.root, context.drops⟩

/-- Compiles a source and renders it against a root. -/
def compileAndRender (config : Config) (source : String) (root : Data) (drops : DropStore) :
    Rendered :=
  match compile config source with
  | .ok template => template.render config root drops
  | .error error => ⟨.error error, root, drops⟩

end Template

end TextTemplate
