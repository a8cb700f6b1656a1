import TextTemplate.ValueError

/-!
Tables: finite maps from names to values.

A table carries the proof that no name occurs in it twice. Its entries stand in the order in which
their names came in. That order has no meaning: what a table binds (`Table.get?`) does not depend
on it, and who needs an order sorts the entries by their names (`Table.entries`).
-/

namespace TextTemplate

/-- Values, one for each of the names. -/
inductive Table.Values (α : Type) : List String → Type
  | nil : Values α []
  | cons {name : String} {names : List String} (value : α) (rest : Values α names) :
    Values α (name :: names)
deriving DecidableEq, Repr

/-- Distinct names, each with a value. -/
structure Table (α : Type) where
  names : List String
  distinct : names.Nodup
  values : Table.Values α names
deriving DecidableEq, Repr

namespace Table

variable {α : Type}

/-! ## Tables and lists of entries -/

/-- Values with their names. -/
def Values.toList : {names : List String} → Values α names → List (String × α)
  | [], .nil => []
  | name :: _, .cons value rest => (name, value) :: rest.toList

/-- The values of a list of entries. -/
def Values.ofList : (entries : List (String × α)) → Values α (entries.map Prod.fst)
  | [] => .nil
  | (_, value) :: rest => .cons value (ofList rest)

/-- The entries, in the order in which their names came in. -/
def toList (table : Table α) : List (String × α) :=
  table.values.toList

/-- The table of entries whose names are distinct. -/
def ofDistinct (entries : List (String × α)) (distinct : (entries.map Prod.fst).Nodup) : Table α :=
  ⟨entries.map Prod.fst, distinct, .ofList entries⟩

theorem Values.map_fst_toList {names : List String} (values : Values α names) :
    values.toList.map Prod.fst = names := by
  induction values with
  | nil => rfl
  | cons value rest ih => exact congrArg (_ :: ·) ih

@[simp] theorem Values.toList_ofList (entries : List (String × α)) :
    (ofList entries).toList = entries := by
  induction entries with
  | nil => rfl
  | cons entry rest ih => exact congrArg (entry :: ·) ih

theorem nodup_toList (table : Table α) : (table.toList.map Prod.fst).Nodup := by
  rw [toList, Values.map_fst_toList]
  exact table.distinct

@[simp] theorem toList_ofDistinct (entries : List (String × α))
    (distinct : (entries.map Prod.fst).Nodup) : (ofDistinct entries distinct).toList = entries :=
  Values.toList_ofList entries

/-! ## Reading and writing -/

/-- The value of the first entry called `key`. -/
def lookup (key : String) : List (String × α) → Option α
  | [] => none
  | (name, value) :: rest => if key = name then some value else lookup key rest

/-- The entries with `value` bound to `key`: in the place of the entry called so, or at the end. -/
def bind (key : String) (value : α) : List (String × α) → List (String × α)
  | [] => [(key, value)]
  | (name, old) :: rest =>
    if key = name then (key, value) :: rest else (name, old) :: bind key value rest

/-- Binding a key adds its name at the end, if it is not there. -/
theorem map_fst_bind (key : String) (value : α) (entries : List (String × α)) :
    (bind key value entries).map Prod.fst =
      if key ∈ entries.map Prod.fst then entries.map Prod.fst
      else entries.map Prod.fst ++ [key] := by
  induction entries with
  | nil => rfl
  | cons entry rest ih =>
    unfold bind
    split
    · next same => simp [same]
    · next other =>
      rw [List.map_cons, List.map_cons, ih, apply_ite (entry.1 :: ·)]
      simp only [List.mem_cons, other, false_or, List.cons_append]

theorem nodup_bind (key : String) (value : α) {entries : List (String × α)}
    (distinct : (entries.map Prod.fst).Nodup) :
    ((bind key value entries).map Prod.fst).Nodup := by
  rw [map_fst_bind]
  split
  · exact distinct
  · next fresh =>
    refine List.nodup_append.2 ⟨distinct, List.pairwise_singleton _ _, ?_⟩
    intro name member key' isKey same
    rw [same, List.mem_singleton.1 isKey] at member
    exact fresh member

/-- The table without entries. -/
def empty : Table α := ⟨[], .nil, .nil⟩

instance : Inhabited (Table α) := ⟨empty⟩

/-- The value bound to `key`. -/
def get? (table : Table α) (key : String) : Option α :=
  lookup key table.toList

/-- Whether `key` is bound. -/
def contains (table : Table α) (key : String) : Bool :=
  (table.get? key).isSome

/-- The number of entries. -/
def size (table : Table α) : Nat :=
  table.names.length

/-- Whether there is no entry. -/
def isEmpty (table : Table α) : Bool :=
  table.names.isEmpty

/-- The table with `value` bound to `key` in place of what was bound to it. -/
def set (table : Table α) (key : String) (value : α) : Table α :=
  ofDistinct (bind key value table.toList) (nodup_bind key value table.nodup_toList)

/-- The table without an entry for `key`. -/
def erase (table : Table α) (key : String) : Table α :=
  ofDistinct (table.toList.filter fun entry => entry.1 != key)
    (table.nodup_toList.sublist (List.filter_sublist.map _))

/-- The table with a new entry. Fails if `key` is bound. -/
def insert (table : Table α) (key : String) (value : α) : Except ValueError (Table α) :=
  if table.contains key then .error (.duplicateKey key) else .ok (table.set key value)

/-- The table of the pairs. Fails at the first key that repeats an earlier one. -/
def ofPairs (pairs : List (String × α)) : Except ValueError (Table α) :=
  pairs.foldlM (fun table (key, value) => table.insert key value) empty

/-- The table of the pairs, of which the last with a name counts. -/
def ofList (pairs : List (String × α)) : Table α :=
  pairs.foldl (fun table (key, value) => table.set key value) empty

/-! ## Entries in the order of their names -/

/-- The entries with one more, before the first whose name is not smaller. -/
def place (entry : String × α) : List (String × α) → List (String × α)
  | [] => [entry]
  | head :: rest => if head.1 < entry.1 then head :: place entry rest else entry :: head :: rest

/-- The entries sorted by name. The order of the names is that of their code points. -/
def entries (table : Table α) : List (String × α) :=
  table.toList.foldr place []

/-- The names, sorted. -/
def keys (table : Table α) : List String :=
  table.entries.map Prod.fst

end Table

end TextTemplate
