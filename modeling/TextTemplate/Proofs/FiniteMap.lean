import TextTemplate.Data
import TextTemplate.Proofs.ByteOrder
import TextTemplate.Proofs.Table
import Mathlib.Data.Finmap

/-!
# Tables are finite maps

A table is a finite map that keeps its entries in a list. `Table.toFinmap` forgets the list. Each
operation on a table answers what the same operation on the finite map answers, and leaves a table
of the finite map that this leaves (`TableOperation.onTable_eq`), so whole sequences of operations
do (`Table.operations_follow_map`). Whatever the operations were, the listing by name has one entry
for each name of the finite map, and the names increase byte by byte.
-/

namespace TextTemplate

/-- What can be done with a table, or asked of it. -/
inductive TableOperation (α : Type)
  | insert (key : String) (value : α)
  | set (key : String) (value : α)
  | erase (key : String)
  | get (key : String)
  | contains (key : String)

/-- What comes back from an operation. -/
inductive TableAnswer (α : Type)
  /-- The entry was made. -/
  | done
  | refused (error : ValueError)
  /-- What the key is bound to, or was bound to before the operation. -/
  | bound (value : Option α)
  | told (holds : Bool)

namespace TableOperation

variable {α σ : Type}

/-- Does the operations one after the other, each on what the one before it left. -/
def runAll (perform : TableOperation α → σ → TableAnswer α × σ) :
    List (TableOperation α) → σ → List (TableAnswer α) × σ
  | [], state => ([], state)
  | operation :: operations, state =>
    let (answer, next) := perform operation state
    let (answers, last) := runAll perform operations next
    (answer :: answers, last)

/-- The operation on a table. -/
def onTable (operation : TableOperation α) (table : Table α) : TableAnswer α × Table α :=
  match operation with
  | insert key value =>
    match table.insert key value with
    | .ok next => (.done, next)
    | .error error => (.refused error, table)
  | set key value => (.bound (table.get? key), table.set key value)
  | erase key => (.bound (table.get? key), table.erase key)
  | get key => (.bound (table.get? key), table)
  | contains key => (.told (table.contains key), table)

/-- The operation on a value, which may be no hash. -/
def onData (operation : TableOperation Data) (data : Data) : TableAnswer Data × Data :=
  match operation with
  | insert key value =>
    match data.insert key value with
    | .ok next => (.done, next)
    | .error error => (.refused error, data)
  | set key value =>
    match data.set key value with
    | .ok next => (.bound (data.binding? key), next)
    | .error error => (.refused error, data)
  | erase key => (.bound (data.binding? key), data.erase key)
  | get key => (.bound (data.binding? key), data)
  | contains key => (.told (data.binding? key).isSome, data)

/-- The operation on a finite map. -/
def onMap (operation : TableOperation α) (map : Finmap fun _ : String => α) :
    TableAnswer α × Finmap fun _ : String => α :=
  match operation with
  | insert key value =>
    if key ∈ map then (.refused (.duplicateKey key), map) else (.done, map.insert key value)
  | set key value => (.bound (map.lookup key), map.insert key value)
  | erase key => (.bound (map.lookup key), map.erase key)
  | get key => (.bound (map.lookup key), map)
  | contains key => (.told (decide (key ∈ map)), map)

end TableOperation

namespace Table

variable {α : Type} {table : Table α} {pairs : List (String × α)} {key : String}

/-- The finite map of the pairs, of which the first with a name counts. -/
def mapOf (pairs : List (String × α)) : Finmap fun _ : String => α :=
  (pairs.map fun (key, value) => (⟨key, value⟩ : Σ _ : String, α)).toFinmap

/-- The finite map of the entries. -/
def toFinmap (table : Table α) : Finmap fun _ : String => α :=
  mapOf table.toList

/-! ## Tables as finite maps -/

theorem lookup_mapOf (pairs : List (String × α)) (key : String) :
    (mapOf pairs).lookup key = lookup key pairs := by
  rw [mapOf, Finmap.dlookup_list_toFinmap]
  induction pairs with
  | nil => rfl
  | cons pair pairs ih =>
    obtain ⟨name, value⟩ := pair
    by_cases same : key = name
    · subst same
      simp [lookup]
    · rw [List.map_cons, List.dlookup_cons_ne _ _ same, ih]
      simp [lookup, same]

@[simp] theorem lookup_toFinmap (table : Table α) (key : String) :
    table.toFinmap.lookup key = table.get? key :=
  lookup_mapOf table.toList key

theorem mem_toFinmap : key ∈ table.toFinmap ↔ table.contains key = true := by
  rw [← Finmap.lookup_isSome, lookup_toFinmap, contains]

theorem toFinmap_set (table : Table α) (key : String) (value : α) :
    (table.set key value).toFinmap = table.toFinmap.insert key value := by
  apply Finmap.ext_lookup
  intro other
  rw [lookup_toFinmap, get?_set]
  by_cases same : other = key
  · rw [if_pos same, same, Finmap.lookup_insert]
  · rw [if_neg same, Finmap.lookup_insert_of_ne _ same, lookup_toFinmap]

theorem toFinmap_erase (table : Table α) (key : String) :
    (table.erase key).toFinmap = table.toFinmap.erase key := by
  apply Finmap.ext_lookup
  intro other
  rw [lookup_toFinmap, get?_erase]
  by_cases same : other = key
  · rw [if_pos same, same, Finmap.lookup_erase]
  · rw [if_neg same, Finmap.lookup_erase_ne same, lookup_toFinmap]

theorem insert_of_contains (present : table.contains key = true) (value : α) :
    table.insert key value = .error (.duplicateKey key) :=
  if_pos present

theorem insert_of_not_contains (absent : table.contains key = false) (value : α) :
    table.insert key value = .ok (table.set key value) := by
  rw [insert, absent, if_neg Bool.false_ne_true]

/-! ## The listing by name -/

/-- As many entries as there are names. -/
theorem size_eq_card (table : Table α) : table.size = table.toFinmap.keys.card := by
  have same : table.toFinmap.keys = table.keys.toFinset := by
    ext key
    rw [Finmap.mem_keys, List.mem_toFinset, mem_toFinmap, mem_keys]
  rw [same, List.toFinset_card_of_nodup table.nodup_keys, length_keys]

/-- The names increase byte by byte. -/
theorem bytes_lt (table : Table α) :
    table.entries.Pairwise fun left right => Text.bytes left.1 < Text.bytes right.1 :=
  table.sorted_entries.imp Text.bytes_lt

/-! ## Tables of pairs -/

/-- The key is the first that repeats an earlier one. -/
def FirstRepeat (pairs : List (String × α)) (key : String) : Prop :=
  ∃ before value after, pairs = before ++ (key, value) :: after ∧
    (before.map Prod.fst).Nodup ∧ key ∈ before.map Prod.fst

theorem nodup_or_firstRepeat (pairs : List (String × α)) :
    (pairs.map Prod.fst).Nodup ∨ ∃ key, FirstRepeat pairs key := by
  induction pairs using List.reverseRecOn with
  | nil => exact .inl List.nodup_nil
  | append_singleton before pair ih =>
    obtain ⟨key, value⟩ := pair
    rcases ih with nodup | ⟨first, front, old, after, rfl, repeats⟩
    · by_cases known : key ∈ before.map Prod.fst
      · exact .inr ⟨key, before, value, [], rfl, nodup, known⟩
      · left
        rw [List.map_append]
        refine nodup.append (List.nodup_singleton key) ?_
        simpa using known
    · exact .inr ⟨first, front, old, after ++ [(key, value)], by simp, repeats⟩

theorem contains_ofPairs (made : ofPairs pairs = .ok table) :
    table.contains key = true ↔ key ∈ pairs.map Prod.fst := by
  rw [contains, Option.isSome_iff_exists]
  simp only [get?_ofPairs made, List.mem_map, Prod.exists, exists_and_right, exists_eq_right]

theorem ofPairs_append (front back : List (String × α)) :
    ofPairs (front ++ back) = (ofPairs front).bind fun table =>
      back.foldlM (fun table (key, value) => table.insert key value) table :=
  List.foldlM_append

/-- Pairs with distinct names make a table. -/
theorem ofPairs_of_nodup (nodup : (pairs.map Prod.fst).Nodup) :
    ∃ table, ofPairs pairs = .ok table := by
  induction pairs using List.reverseRecOn with
  | nil => exact ⟨empty, rfl⟩
  | append_singleton before pair ih =>
    obtain ⟨key, value⟩ := pair
    rw [List.map_append] at nodup
    obtain ⟨table, made⟩ := ih nodup.of_append_left
    have absent : table.contains key = false := by
      rw [← Bool.not_eq_true, contains_ofPairs made]
      intro known
      exact List.disjoint_of_nodup_append nodup known List.mem_cons_self
    refine ⟨table.set key value, ?_⟩
    rw [ofPairs_append, made]
    change (do table.insert key value) >>= pure = _
    rw [insert_of_not_contains absent]
    rfl

/-- At the first name that repeats an earlier one no table is made. -/
theorem FirstRepeat.ofPairs_eq (repeats : FirstRepeat pairs key) :
    ofPairs pairs = .error (.duplicateKey key) := by
  obtain ⟨before, value, after, rfl, nodup, known⟩ := repeats
  obtain ⟨table, made⟩ := ofPairs_of_nodup nodup
  rw [ofPairs_append, made]
  change (table.insert key value >>= _) = _
  rw [insert_of_contains ((contains_ofPairs made).2 known)]
  rfl

theorem exists_ofPairs_iff : (∃ table, ofPairs pairs = .ok table) ↔ (pairs.map Prod.fst).Nodup := by
  refine ⟨fun ⟨table, made⟩ => ?_, ofPairs_of_nodup⟩
  rcases nodup_or_firstRepeat pairs with nodup | ⟨key, repeats⟩
  · exact nodup
  · rw [repeats.ofPairs_eq] at made
    cases made

theorem ofPairs_eq_error_iff {error : ValueError} :
    ofPairs pairs = .error error ↔ ∃ key, FirstRepeat pairs key ∧ error = .duplicateKey key := by
  constructor
  · intro failed
    rcases nodup_or_firstRepeat pairs with nodup | ⟨key, repeats⟩
    · obtain ⟨table, made⟩ := ofPairs_of_nodup nodup
      rw [failed] at made
      cases made
    · rw [repeats.ofPairs_eq] at failed
      exact ⟨key, repeats, (Except.error.inj failed).symm⟩
  · rintro ⟨key, repeats, rfl⟩
    exact repeats.ofPairs_eq

theorem toFinmap_ofPairs (made : ofPairs pairs = .ok table) : table.toFinmap = mapOf pairs := by
  apply Finmap.ext_lookup
  intro key
  have nodup := exists_ofPairs_iff.1 ⟨table, made⟩
  have distinct : (pairs.map fun (key, value) => (⟨key, value⟩ : Σ _ : String, α)).NodupKeys := by
    rw [List.NodupKeys, List.keys, List.map_map]
    exact nodup
  apply Option.ext
  intro value
  rw [lookup_toFinmap, mapOf, Finmap.dlookup_list_toFinmap, get?_ofPairs made,
    ← Option.mem_def, List.mem_dlookup_iff distinct]
  simp

end Table

/-! ## Operations -/

namespace TableOperation

variable {α : Type}

/-- On the finite map of a table an operation answers the same, and it leaves the finite map of the
table that it leaves. -/
theorem onTable_eq (operation : TableOperation α) (table : Table α) :
    operation.onMap table.toFinmap =
      ((operation.onTable table).1, (operation.onTable table).2.toFinmap) := by
  cases operation with
  | insert key value =>
    cases present : table.contains key with
    | true =>
      simp only [onMap, onTable, Table.mem_toFinmap, present, if_true,
        Table.insert_of_contains present]
    | false =>
      simp only [onMap, onTable, Table.mem_toFinmap, present, Bool.false_eq_true, if_false,
        Table.insert_of_not_contains present, Table.toFinmap_set]
  | set key value => simp only [onMap, onTable, Table.lookup_toFinmap, Table.toFinmap_set]
  | erase key => simp only [onMap, onTable, Table.lookup_toFinmap, Table.toFinmap_erase]
  | get key => simp only [onMap, onTable, Table.lookup_toFinmap]
  | contains key => simp only [onMap, onTable, Table.mem_toFinmap, Bool.decide_eq_true]

/-- On a hash an operation does what it does on the hash's table. -/
theorem onData_hash (operation : TableOperation Data) (table : Table Data) :
    operation.onData (.hash table) =
      ((operation.onTable table).1, .hash (operation.onTable table).2) := by
  cases operation with
  | insert key value =>
    cases inserted : table.insert key value with
    | ok next => simp only [onData, onTable, Data.insert, inserted]
    | error error => simp only [onData, onTable, Data.insert, inserted]
  | set | erase | get | contains => rfl

/-- What each operation shows of two states that correspond, a sequence of operations shows. -/
theorem runAll_eq {σ τ : Type} {perform : TableOperation α → σ → TableAnswer α × σ}
    {performOn : TableOperation α → τ → TableAnswer α × τ} {view : σ → τ}
    (step : ∀ operation state,
      performOn operation (view state) =
        ((perform operation state).1, view (perform operation state).2))
    (operations : List (TableOperation α)) (state : σ) :
    runAll performOn operations (view state) =
      ((runAll perform operations state).1, view (runAll perform operations state).2) := by
  induction operations generalizing state with
  | nil => rfl
  | cons operation operations ih => simp only [runAll, step, ih]

end TableOperation

open TableOperation

/-- Pairs make a table just if their names are distinct; else the first name that repeats an earlier
one is reported. From there on a table, and a hash with it, answers every sequence of operations as
the finite map of the pairs does, has the same bindings at the end, and an entry for each of them in
increasing order of the bytes of the names. -/
theorem Table.operations_follow_map (pairs : List (String × Data)) :
    ((∃ table, ofPairs pairs = .ok table) ↔ (pairs.map Prod.fst).Nodup) ∧
    (∀ error, ofPairs pairs = .error error ↔
      ∃ key, FirstRepeat pairs key ∧ error = .duplicateKey key) ∧
    ∀ table, ofPairs pairs = .ok table → ∀ operations,
      let (answers, last) := runAll onTable operations table
      let (expected, map) := runAll onMap operations (mapOf pairs)
      answers = expected ∧
      (∀ key, last.get? key = map.lookup key) ∧
      (∀ key value, key ∈ map →
        (TableOperation.insert key value).onTable last = (.refused (.duplicateKey key), last)) ∧
      last.size = map.keys.card ∧
      (∀ key value, (key, value) ∈ last.entries ↔ map.lookup key = some value) ∧
      (last.entries.Pairwise fun left right => Text.bytes left.1 < Text.bytes right.1) ∧
      runAll onData operations (.hash table) = (answers, .hash last) := by
  refine ⟨exists_ofPairs_iff, fun error => ofPairs_eq_error_iff, fun table made operations => ?_⟩
  rw [← toFinmap_ofPairs made, runAll_eq onTable_eq, runAll_eq onData_hash]
  refine ⟨rfl, fun key => (lookup_toFinmap _ key).symm, fun key value present => ?_,
    size_eq_card _, fun key value => ?_, bytes_lt _, rfl⟩
  · simp only [onTable, insert_of_contains (mem_toFinmap.1 present)]
  · rw [mem_entries, lookup_toFinmap]

/-- A name of two bytes comes after those of one. What is there is not inserted again, and what was
erased may be. -/
theorem Table.operations_follow_map_two_bytes :
    let pairs : List (String × Data) := [("é", .bool true), ("z", .nil), ("Z", .string "")]
    let table : Table Data := .ofList pairs
    let operations : List (TableOperation Data) :=
      [.insert "z" (.bool false), .erase "z", .insert "z" (.bool false), .set "é" .nil]
    ofPairs pairs = .ok table ∧
      (runAll onTable operations table).1 =
        [.refused (.duplicateKey "z"), .bound (some .nil), .done, .bound (some (.bool true))] ∧
      (runAll onTable operations table).2.size = 3 ∧
      (runAll onTable operations table).2.keys = ["Z", "z", "é"] := by
  intro pairs table operations
  have made : ofPairs pairs = .ok table := by rfl
  obtain ⟨same, -, -, count, -⟩ := (operations_follow_map pairs).2.2 table made operations
  exact ⟨made, same.trans rfl, count.trans rfl, by decide +kernel⟩

end TextTemplate
