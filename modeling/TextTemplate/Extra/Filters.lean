import TextTemplate.Filter

/-!
Further filters, which a configuration may add.
-/

namespace TextTemplate.Filter

/-- The text of the input, twice. Arguments do not matter. -/
def twice : Filter := fun input _ => .ok (.string (input.display ++ input.display))

/-- The names of the types of the input and of the arguments. -/
def kind : Filter := fun input args =>
  .ok (.string (",".intercalate (input.typeName :: args.map Data.typeName)))

/-- The first characters of the text of the input, as many as the argument says. -/
def truncate : Filter :=
  unary "truncate" fun input arg =>
    match arg.toInteger? with
    | some limit =>
      if 0 ≤ limit.toInt then
        .ok (.string (String.ofList (input.display.toList.take limit.toInt.toNat)))
      else .error (.wrongType "truncate" "a count" arg.typeName)
    | none => .error (.wrongType "truncate" "a count" arg.typeName)

/-- The further filters by name. -/
def extra : FilterTable :=
  Table.ofList [("twice", twice), ("kind", kind), ("truncate", truncate)]

end TextTemplate.Filter
