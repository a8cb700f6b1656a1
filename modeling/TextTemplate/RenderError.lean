import TextTemplate.Span
import TextTemplate.ValueError

/-!
Errors of rendering a template. Missing data is none: it is nil.
-/

namespace TextTemplate

/-- Why a render stops. -/
inductive RenderError.Cause
  /-- No filter of this name is known. -/
  | unknownFilter (name : String)
  /-- The filter or tag called `context` has no use for an argument. -/
  | argument (context : String) (message : String)
  /-- A write into data of the wrong shape. -/
  | structural (error : ValueError)
  /-- A comparison of drops whose caches lead back to themselves. -/
  | endlessComparison
deriving DecidableEq, Repr

/-- A render error and where it is, if known. -/
structure RenderError where
  cause : RenderError.Cause
  span : Option Span
deriving DecidableEq, Repr

namespace RenderError

/-- The wording of a cause. -/
def Cause.message : Cause → String
  | unknownFilter name => "unknown filter `" ++ name ++ "`"
  | argument context message => context ++ ": " ++ message
  | structural error => error.message
  | endlessComparison => "drops that lead back to themselves cannot be compared"

/-- The error at `span`, unless it has a place already. -/
def orSpan (error : RenderError) (span : Span) : RenderError :=
  { error with span := some (error.span.getD span) }

/-- No filter is called `name`. -/
def unknownFilter (name : String) : RenderError :=
  ⟨.unknownFilter name, none⟩

/-- A bad argument of the filter or tag called `context`. -/
def badArgument (context message : String) : RenderError :=
  ⟨.argument context message, none⟩

/-- The wrong number of arguments. -/
def wrongCount (context expected : String) (found : Nat) : RenderError :=
  badArgument context ("expected " ++ expected ++ " argument(s), got " ++ toString found)

/-- An argument or an input of the wrong type. -/
def wrongType (context expected found : String) : RenderError :=
  badArgument context ("expected " ++ expected ++ ", got " ++ found)

/-- A write that failed. -/
def ofValueError (error : ValueError) : RenderError :=
  ⟨.structural error, none⟩

end RenderError

end TextTemplate
