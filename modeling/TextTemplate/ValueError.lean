/-!
Errors of writing into data of the wrong shape.
-/

namespace TextTemplate

/-- Why a write into a value fails. -/
inductive ValueError
  /-- The key to insert is there already. -/
  | duplicateKey (key : String)
  /-- The value to write into is no hash but a value of the type called so. -/
  | notHash (typeName : String)
deriving DecidableEq, Repr

namespace ValueError

/-- The wording of an error. -/
def message : ValueError → String
  | duplicateKey key => "duplicate hash key `" ++ key ++ "`"
  | notHash typeName => "expected a hash, found " ++ typeName

end ValueError

end TextTemplate
