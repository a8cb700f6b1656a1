import TextTemplate.Table

/-!
# Bindings of tables

What a table binds after a write, and the listing of its entries by name. A table binds what stands
in its entries, since no name occurs twice. The sorted listing depends on the bindings only
(`entries_eq_of_get?`): the order in which the names came in does not show in it.
-/

namespace TextTemplate.Table

variable {α : Type}

/-! ## Lists of entries -/

theorem lookup_bind (key other : String) (value : α) (entries : List (String × α)) :
    lookup other (bind key value entries) =
      if other = key then some value else lookup other entries := by
  induction entries with
  | nil => rfl
  | cons entry rest ih =>
    obtain ⟨name, old⟩ := entry
    by_cases same : key = name
    · subst same
      by_cases found : other = key <;> simp [bind, lookup, found]
    · simp only [bind, same, if_false, lookup, ih]
      by_cases here : other = name
      · simp [here, Ne.symm same]
      · simp [here]

theorem lookup_filter (key other : String) (entries : List (String × α)) :
    lookup other (entries.filter fun entry => entry.1 != key) =
      if other = key then none else lookup other entries := by
  induction entries with
  | nil => simp [lookup]
  | cons entry rest ih =>
    obtain ⟨name, value⟩ := entry
    by_cases gone : name = key
    · subst gone
      by_cases found : other = name
      · simpa [found] using ih
      · simpa [lookup, found] using ih
    · by_cases found : other = name
      · subst found
        simp [lookup, gone]
      · simpa [List.filter_cons, gone, lookup, found] using ih

theorem mem_of_lookup {key : String} {value : α} {entries : List (String × α)}
    (found : lookup key entries = some value) : (key, value) ∈ entries := by
  induction entries with
  | nil => cases found
  | cons entry rest ih =>
    unfold lookup at found
    split at found
    · next same =>
      cases found
      rw [same]
      exact List.mem_cons_self
    · exact List.mem_cons_of_mem _ (ih found)

/-- Where names are distinct, lookup finds every entry. -/
theorem lookup_of_mem {key : String} {value : α} {entries : List (String × α)}
    (distinct : (entries.map Prod.fst).Nodup) (member : (key, value) ∈ entries) :
    lookup key entries = some value := by
  induction entries with
  | nil => cases member
  | cons entry rest ih =>
    obtain ⟨name, old⟩ := entry
    have ⟨fresh, distinctRest⟩ := List.nodup_cons.1 distinct
    unfold lookup
    rcases List.mem_cons.1 member with same | later
    · cases same
      rw [if_pos rfl]
    · have other : key ≠ name := by
        rintro rfl
        exact fresh (List.mem_map.2 ⟨_, later, rfl⟩)
      rw [if_neg other, ih distinctRest later]

/-- Binding a name to the value that it has changes nothing. -/
theorem bind_of_lookup {key : String} {value : α} {entries : List (String × α)}
    (found : lookup key entries = some value) : bind key value entries = entries := by
  induction entries with
  | nil => cases found
  | cons entry rest ih =>
    unfold lookup at found
    unfold bind
    split at found
    · next same =>
      cases found
      rw [if_pos same, same]
    · next other => rw [if_neg other, ih found]

/-! ## Bindings -/

@[simp] theorem get?_ofDistinct (entries : List (String × α))
    (distinct : (entries.map Prod.fst).Nodup) (key : String) :
    (ofDistinct entries distinct).get? key = lookup key entries :=
  congrArg (lookup key) (toList_ofDistinct entries distinct)

@[simp] theorem get?_empty (key : String) : (empty : Table α).get? key = none := rfl

@[simp] theorem get?_set (table : Table α) (key other : String) (value : α) :
    (table.set key value).get? other = if other = key then some value else table.get? other :=
  (get?_ofDistinct _ _ other).trans (lookup_bind key other value table.toList)

@[simp] theorem get?_erase (table : Table α) (key other : String) :
    (table.erase key).get? other = if other = key then none else table.get? other :=
  (get?_ofDistinct _ _ other).trans (lookup_filter key other table.toList)

/-- A table binds what stands in its entries. -/
theorem mem_toList {table : Table α} {key : String} {value : α} :
    (key, value) ∈ table.toList ↔ table.get? key = some value :=
  ⟨lookup_of_mem table.nodup_toList, mem_of_lookup⟩

theorem nodup_entries_toList (table : Table α) : table.toList.Nodup :=
  List.Pairwise.of_map Prod.fst (fun _ _ other same => other (congrArg Prod.fst same))
    table.nodup_toList

/-- Tables with the same bindings have the same entries, in some order. -/
theorem perm_toList {left right : Table α} (same : ∀ key, left.get? key = right.get? key) :
    left.toList.Perm right.toList :=
  (List.perm_ext_iff_of_nodup left.nodup_entries_toList right.nodup_entries_toList).2
    fun (key, value) => by rw [mem_toList, mem_toList, same]

theorem Values.toList_injective {names : List String} {left right : Values α names}
    (same : left.toList = right.toList) : left = right := by
  induction left with
  | nil =>
    cases right
    rfl
  | cons value rest ih =>
    cases right with
    | cons value' rest' =>
      have ⟨sameEntry, sameRest⟩ := List.cons.inj same
      rw [(Prod.mk.inj sameEntry).2, ih sameRest]

/-- A table is its entries and their order. -/
theorem ext_toList {left right : Table α} (same : left.toList = right.toList) : left = right := by
  obtain ⟨names, distinct, values⟩ := left
  obtain ⟨names', distinct', values'⟩ := right
  have sameNames : names = names' := by
    rw [← values.map_fst_toList, ← values'.map_fst_toList]
    exact congrArg (List.map Prod.fst) same
  subst sameNames
  exact congrArg (Table.mk names distinct) (Values.toList_injective same)

theorem set_self {table : Table α} {key : String} {value : α}
    (bound : table.get? key = some value) : table.set key value = table :=
  ext_toList ((toList_ofDistinct _ _).trans (bind_of_lookup bound))

theorem length_toList (table : Table α) : table.toList.length = table.size := by
  rw [← List.length_map Prod.fst, toList, Values.map_fst_toList, size]

/-! ## The listing by name -/

theorem perm_place (entry : String × α) (entries : List (String × α)) :
    (place entry entries).Perm (entry :: entries) := by
  induction entries with
  | nil => exact .refl _
  | cons head rest ih =>
    unfold place
    split
    · exact (ih.cons head).trans (.swap entry head rest)
    · exact .refl _

/-- Placing an entry with a new name among sorted entries keeps them sorted. -/
theorem sorted_place {entry : String × α} {entries : List (String × α)}
    (fresh : entry.1 ∉ entries.map Prod.fst)
    (sorted : entries.Pairwise fun left right => left.1 < right.1) :
    (place entry entries).Pairwise fun left right => left.1 < right.1 := by
  induction entries with
  | nil => exact List.pairwise_singleton _ _
  | cons head rest ih =>
    have ⟨below, sortedRest⟩ := List.pairwise_cons.1 sorted
    rw [List.map_cons, List.mem_cons, not_or] at fresh
    unfold place
    split
    · next before =>
      refine List.pairwise_cons.2 ⟨fun later member => ?_, ih fresh.2 sortedRest⟩
      rcases List.mem_cons.1 ((perm_place entry rest).mem_iff.1 member) with rfl | member
      · exact before
      · exact below later member
    · next notBefore =>
      have after : entry.1 < head.1 := Std.lt_of_le_of_ne (String.not_lt.1 notBefore) fresh.1
      refine List.pairwise_cons.2 ⟨fun later member => ?_, sorted⟩
      rcases List.mem_cons.1 member with rfl | member
      · exact after
      · exact String.lt_trans after (below later member)

theorem perm_foldr_place (entries : List (String × α)) :
    (entries.foldr place []).Perm entries := by
  induction entries with
  | nil => exact .refl _
  | cons entry rest ih => exact (perm_place entry _).trans (ih.cons entry)

theorem sorted_foldr_place {entries : List (String × α)}
    (distinct : (entries.map Prod.fst).Nodup) :
    (entries.foldr place []).Pairwise fun left right => left.1 < right.1 := by
  induction entries with
  | nil => exact .nil
  | cons entry rest ih =>
    have ⟨fresh, distinctRest⟩ := List.nodup_cons.1 distinct
    refine sorted_place ?_ (ih distinctRest)
    rwa [((perm_foldr_place rest).map Prod.fst).mem_iff]

/-- The listing by name has the entries of the table, each of them once. -/
theorem perm_entries (table : Table α) : table.entries.Perm table.toList :=
  perm_foldr_place table.toList

/-- In the listing by name the names strictly increase. -/
theorem sorted_entries (table : Table α) :
    table.entries.Pairwise fun left right => left.1 < right.1 :=
  sorted_foldr_place table.nodup_toList

theorem mem_entries {table : Table α} {key : String} {value : α} :
    (key, value) ∈ table.entries ↔ table.get? key = some value :=
  table.perm_entries.mem_iff.trans mem_toList

theorem length_entries (table : Table α) : table.entries.length = table.size :=
  table.perm_entries.length_eq.trans table.length_toList

theorem sorted_keys (table : Table α) : table.keys.Pairwise (· < ·) :=
  List.pairwise_map.2 table.sorted_entries

theorem nodup_keys (table : Table α) : table.keys.Nodup :=
  table.sorted_keys.imp String.ne_of_lt

theorem length_keys (table : Table α) : table.keys.length = table.size :=
  (List.length_map _).trans table.length_entries

theorem mem_keys {table : Table α} {key : String} :
    key ∈ table.keys ↔ table.contains key = true := by
  unfold keys contains
  simp only [List.mem_map, Prod.exists, exists_and_right, exists_eq_right, mem_entries,
    Option.isSome_iff_exists]

/-- Two sorted lists of the same entries are the same list. -/
theorem eq_of_perm_of_sorted {left right : List (String × α)} (perm : left.Perm right)
    (sorted : left.Pairwise fun first second => first.1 < second.1)
    (sorted' : right.Pairwise fun first second => first.1 < second.1) : left = right :=
  perm.eq_of_pairwise (fun _ _ _ _ before after => absurd before (String.lt_asymm after))
    sorted sorted'

/-- The listing by name is the only sorted list of the entries, whatever order they are in. -/
theorem entries_eq_of_perm {table : Table α} {listed : List (String × α)}
    (perm : listed.Perm table.toList)
    (sorted : listed.Pairwise fun left right => left.1 < right.1) : table.entries = listed :=
  eq_of_perm_of_sorted (table.perm_entries.trans perm.symm) table.sorted_entries sorted

/-- Tables with the same bindings have the same listing. -/
theorem entries_eq_of_get? {left right : Table α}
    (same : ∀ key, left.get? key = right.get? key) : left.entries = right.entries :=
  eq_of_perm_of_sorted
    ((left.perm_entries.trans (perm_toList same)).trans right.perm_entries.symm)
    left.sorted_entries right.sorted_entries

/-! ## Tables made from pairs -/

theorem insert_eq_ok {table next : Table α} {key : String} {value : α}
    (inserted : table.insert key value = .ok next) :
    table.get? key = none ∧ next = table.set key value := by
  unfold insert contains at inserted
  cases bound : table.get? key with
  | some value => simp [bound] at inserted
  | none =>
    simp only [bound, Option.isSome_none, Bool.false_eq_true, if_false, Except.ok.injEq] at inserted
    exact ⟨rfl, inserted.symm⟩

theorem get?_foldlM_insert {pairs : List (String × α)} {first last : Table α}
    (made : pairs.foldlM (fun table (key, value) => table.insert key value) first = .ok last)
    {key : String} {value : α} :
    last.get? key = some value ↔ (key, value) ∈ pairs ∨ first.get? key = some value := by
  induction pairs generalizing first with
  | nil =>
    cases made
    simp
  | cons pair pairs ih =>
    obtain ⟨name, new⟩ := pair
    rw [List.foldlM_cons] at made
    dsimp only at made
    cases inserted : first.insert name new with
    | error error =>
      rw [inserted] at made
      cases made
    | ok next =>
      rw [inserted] at made
      obtain ⟨unbound, rfl⟩ := insert_eq_ok inserted
      rw [ih made, get?_set, List.mem_cons, Prod.mk.injEq]
      by_cases same : key = name
      · subst same
        simp [unbound, or_comm, eq_comm]
      · simp [same]

/-- A table made from pairs without a repeated key binds what the pairs say, in whatever order they
come. -/
theorem get?_ofPairs {pairs : List (String × α)} {table : Table α}
    (made : ofPairs pairs = .ok table) {key : String} {value : α} :
    table.get? key = some value ↔ (key, value) ∈ pairs := by
  rw [get?_foldlM_insert made, get?_empty]
  simp

theorem get?_foldl_set {pairs : List (String × α)} {table : Table α} {key : String} {value : α}
    (found : (pairs.foldl (fun table (key, value) => table.set key value) table).get? key =
      some value) : (key, value) ∈ pairs ∨ table.get? key = some value := by
  induction pairs generalizing table with
  | nil => exact .inr found
  | cons pair pairs ih =>
    rcases ih found with later | earlier
    · exact .inl (List.mem_cons_of_mem _ later)
    · rw [get?_set] at earlier
      by_cases same : key = pair.1
      · rw [if_pos same] at earlier
        cases earlier
        rw [same]
        exact .inl List.mem_cons_self
      · rw [if_neg same] at earlier
        exact .inr earlier

/-- Whatever a table made from pairs binds stands among the pairs. -/
theorem mem_of_get?_ofList {pairs : List (String × α)} {key : String} {value : α}
    (found : (ofList pairs).get? key = some value) : (key, value) ∈ pairs := by
  rcases get?_foldl_set found with member | nowhere
  · exact member
  · rw [get?_empty] at nowhere
    cases nowhere

end TextTemplate.Table
