import Mathlib.Data.List.Forall2
import TextTemplate.Drop
import TextTemplate.Proofs.Table

/-!
# Equality of values

Comparing two hashes is a matter of what they bind (`Data.isSome_same?_hash`,
`Data.same?_hash_eq_true`): it has an answer if the values of every shared key have one, and the
order of the entries is of no account. An answer that is found with less knowledge of drops stands
with more (`Data.same?_mono`). A comparison ends if it does for the drops in the values
(`Data.isSome_same?`), and always between a value and itself.
-/

namespace TextTemplate

/-- Whether two drops are the same, if that is known without their caches. -/
def DropId.known? (a b : DropId) : Option Bool :=
  if a = b then some true else none

/-- The values differ, and this is found without comparing two different drops, in whatever order
the entries of hashes are compared. -/
def Data.Apart (a b : Data) : Prop :=
  Data.same? DropId.known? a b = some false

/-- The drop is the value, or stands in it. -/
inductive Data.Holds (id : DropId) : Data → Prop
  | drop : Holds id (.drop id)
  | array {items : List Data} {item : Data} (member : item ∈ items) (held : Holds id item) :
      Holds id (.array items)
  | hash {entries : Table Data} {key : String} {value : Data}
      (bound : entries.get? key = some value) (held : Holds id value) : Holds id (.hash entries)

/-- No drop and no float is in the value. -/
inductive Data.Plain : Data → Prop
  | nil : Plain .nil
  | bool (b : Bool) : Plain (.bool b)
  | int (n : Int64) : Plain (.int n)
  | string (text : String) : Plain (.string text)
  | array {items : List Data} (plain : ∀ item ∈ items, Plain item) : Plain (.array items)
  | hash {entries : Table Data} (plain : ∀ key value, entries.get? key = some value → Plain value) :
      Plain (.hash entries)

namespace Data

/-- Induction along the items of arrays and the bindings of hashes. -/
@[elab_as_elim]
theorem induction {motive : Data → Prop} (nil : motive .nil) (bool : ∀ b, motive (.bool b))
    (int : ∀ n, motive (.int n)) (float : ∀ x, motive (.float x))
    (string : ∀ text, motive (.string text))
    (array : ∀ items, (∀ item ∈ items, motive item) → motive (.array items))
    (hash : ∀ entries, (∀ key value, entries.get? key = some value → motive value) →
      motive (.hash entries))
    (drop : ∀ id, motive (.drop id)) (data : Data) : motive data :=
  @Data.rec motive (fun items => ∀ item ∈ items, motive item)
    (fun entries => ∀ key value, entries.get? key = some value → motive value)
    (fun _ values => ∀ entry ∈ values.toList, motive entry.2)
    nil bool int float string array hash drop
    (fun _ member => absurd member List.not_mem_nil)
    (fun _ _ here later => List.forall_mem_cons.2 ⟨here, later⟩)
    (fun _ _ _ all key value bound => all (key, value) (Table.mem_of_lookup bound))
    (fun _ member => absurd member List.not_mem_nil)
    (fun _ _ here later => List.forall_mem_cons.2 ⟨here, later⟩)
    data

variable {sameDrop finer : DropId → DropId → Option Bool}

/-! ## One after the other -/

/-- What comparing one after the other comes to: the first answer that is not that two are equal, or
none if such an answer is not reached. -/
def firstDecided : List (Option Bool) → Option Bool
  | [] => some true
  | some true :: rest => firstDecided rest
  | decided :: _ => decided

theorem firstDecided_eq_true {answers : List (Option Bool)} :
    firstDecided answers = some true ↔ ∀ answer ∈ answers, answer = some true := by
  induction answers with
  | nil => simp [firstDecided]
  | cons answer rest ih => rcases answer with _ | _ | _ <;> simp [firstDecided, ih]

theorem isSome_firstDecided {answers : List (Option Bool)}
    (ends : ∀ answer ∈ answers, answer.isSome = true) : (firstDecided answers).isSome = true := by
  induction answers with
  | nil => rfl
  | cons answer rest ih =>
    have here := ends answer List.mem_cons_self
    rcases answer with _ | _ | _
    · cases here
    · rfl
    · exact ih fun answer member => ends answer (.tail _ member)

theorem firstDecided_map_mono {α : Type} {first second : α → Option Bool} {items : List α}
    (more : ∀ item ∈ items, ∀ result, first item = some result → second item = some result)
    {result : Bool} (decided : firstDecided (items.map first) = some result) :
    firstDecided (items.map second) = some result := by
  induction items with
  | nil => exact decided
  | cons item items ih =>
    rw [List.map_cons] at decided ⊢
    cases here : first item with
    | none =>
      rw [here] at decided
      cases decided
    | some answer =>
      rw [more item List.mem_cons_self answer here]
      rw [here] at decided
      cases answer with
      | true => exact ih (fun item member => more item (.tail _ member)) decided
      | false => exact decided

/-! ## Arrays -/

theorem sameItems?_eq (xs ys : List Data) : sameItems? sameDrop xs ys =
    firstDecided ((xs.zip ys).map fun pair => same? sameDrop pair.1 pair.2) := by
  induction xs generalizing ys with
  | nil => rfl
  | cons x xs ih =>
    cases ys with
    | nil => rfl
    | cons y ys =>
      rw [sameItems?, List.zip_cons_cons, List.map_cons]
      rcases same? sameDrop x y with _ | _ | _
      · rfl
      · rfl
      · exact ih ys

theorem sameItems?_eq_true {xs ys : List Data} : sameItems? sameDrop xs ys = some true ↔
    ∀ x y, (x, y) ∈ xs.zip ys → same? sameDrop x y = some true := by
  rw [sameItems?_eq, firstDecided_eq_true, List.forall_mem_map, Prod.forall]

theorem isSome_sameItems? {xs ys : List Data}
    (ends : ∀ x y, (x, y) ∈ xs.zip ys → (same? sameDrop x y).isSome = true) :
    (sameItems? sameDrop xs ys).isSome = true := by
  rw [sameItems?_eq]
  apply isSome_firstDecided
  rw [List.forall_mem_map, Prod.forall]
  exact ends

/-! ## Hashes -/

/-- Two comparisons agree if they end together and find equality together. -/
theorem eq_of_answers {first second : Option Bool}
    (ends : first.isSome = true ↔ second.isSome = true)
    (same : first = some true ↔ second = some true) : first = second := by
  rcases first with _ | _ | _ <;> rcases second with _ | _ | _ <;> simp_all

theorem sameValues?_cons {name : String} {names : List String} (x : Data)
    (rest : Table.Values Data names) (right : Table Data) :
    sameValues? sameDrop (.cons x rest : Table.Values Data (name :: names)) right =
      (match right.get? name with
        | some y => same? sameDrop x y
        | none => some false).bind fun here =>
          (sameValues? sameDrop rest right).map (here && ·) :=
  rfl

theorem isSome_sameValues? {names : List String} {values : Table.Values Data names}
    {right : Table Data} : (sameValues? sameDrop values right).isSome = true ↔
      ∀ key x y, (key, x) ∈ values.toList → right.get? key = some y →
        (same? sameDrop x y).isSome = true := by
  induction values with
  | nil => simp [sameValues?, Table.Values.toList]
  | @cons name names value rest ih =>
    have step : (sameValues? sameDrop
        (.cons value rest : Table.Values Data (name :: names)) right).isSome = true ↔
        (∀ y, right.get? name = some y → (same? sameDrop value y).isSome = true) ∧
          (sameValues? sameDrop rest right).isSome = true := by
      rw [sameValues?_cons]
      cases right.get? name with
      | none => cases sameValues? sameDrop rest right <;> simp
      | some y =>
        cases compared : same? sameDrop value y <;>
          cases sameValues? sameDrop rest right <;> simp [compared]
    rw [step, ih]
    constructor
    · rintro ⟨here, later⟩ key x y member bound
      rcases List.mem_cons.1 member with same | member
      · cases same
        exact here y bound
      · exact later key x y member bound
    · intro all
      exact ⟨fun y => all name value y List.mem_cons_self,
        fun key x y member => all key x y (.tail _ member)⟩

theorem sameValues?_eq_true {names : List String} {values : Table.Values Data names}
    {right : Table Data} : sameValues? sameDrop values right = some true ↔
      ∀ key x, (key, x) ∈ values.toList →
        ∃ y, right.get? key = some y ∧ same? sameDrop x y = some true := by
  induction values with
  | nil => simp [sameValues?, Table.Values.toList]
  | @cons name names value rest ih =>
    have step : sameValues? sameDrop
        (.cons value rest : Table.Values Data (name :: names)) right = some true ↔
        (∃ y, right.get? name = some y ∧ same? sameDrop value y = some true) ∧
          sameValues? sameDrop rest right = some true := by
      rw [sameValues?_cons]
      cases right.get? name with
      | none => cases sameValues? sameDrop rest right <;> simp
      | some y =>
        cases compared : same? sameDrop value y <;>
          cases sameValues? sameDrop rest right <;> simp [compared]
    rw [step, ih]
    constructor
    · rintro ⟨here, later⟩ key x member
      rcases List.mem_cons.1 member with same | member
      · cases same
        exact here
      · exact later key x member
    · intro all
      exact ⟨all name value List.mem_cons_self, fun key x member => all key x (.tail _ member)⟩

theorem same?_hash_of_size_ne {left right : Table Data} (sizes : left.size ≠ right.size) :
    same? sameDrop (.hash left) (.hash right) = some false := by
  unfold same?
  exact if_neg sizes

theorem same?_hash_of_size_eq {left right : Table Data} (sizes : left.size = right.size) :
    same? sameDrop (.hash left) (.hash right) = sameValues? sameDrop left.values right := by
  unfold same?
  exact if_pos sizes

/-- Hashes of one size are compared to an end just if the values of all keys that both have are. -/
theorem isSome_same?_hash {left right : Table Data} (sizes : left.size = right.size) :
    (same? sameDrop (.hash left) (.hash right)).isSome = true ↔
      ∀ key x y, left.get? key = some x → right.get? key = some y →
        (same? sameDrop x y).isSome = true := by
  rw [same?_hash_of_size_eq sizes, isSome_sameValues?]
  simp only [← Table.mem_toList]
  rfl

/-- Hashes are equal just if they have one size and every key of the first one is bound to equal
values. -/
theorem same?_hash_eq_true {left right : Table Data} :
    same? sameDrop (.hash left) (.hash right) = some true ↔
      left.size = right.size ∧ ∀ key x, left.get? key = some x →
        ∃ y, right.get? key = some y ∧ same? sameDrop x y = some true := by
  by_cases sizes : left.size = right.size
  · rw [same?_hash_of_size_eq sizes, sameValues?_eq_true, and_iff_right sizes]
    simp only [← @Table.mem_toList _ left]
    rfl
  · simp [same?_hash_of_size_ne sizes, sizes]

/-- Two comparisons of hashes agree if they agree on the values of every key that both have. -/
theorem same?_hash_congr {left right : Table Data} (sizes : left.size = right.size)
    (agree : ∀ key x y, left.get? key = some x → right.get? key = some y →
      same? sameDrop x y = same? finer x y) :
    same? sameDrop (.hash left) (.hash right) = same? finer (.hash left) (.hash right) := by
  refine eq_of_answers ?_ ?_
  · rw [isSome_same?_hash sizes, isSome_same?_hash sizes]
    exact forall₅_congr fun key x y isLeft isRight => by rw [agree key x y isLeft isRight]
  · rw [same?_hash_eq_true, same?_hash_eq_true]
    refine and_congr_right fun _ => forall₃_congr fun key x isLeft => exists_congr fun y => ?_
    exact and_congr_right fun isRight => by rw [agree key x y isLeft isRight]

/-! ## Knowing more about drops -/

/-- What is decided with fewer answers about drops is decided alike with more. -/
theorem same?_mono (more : ∀ a b result, sameDrop a b = some result → finer a b = some result)
    (a b : Data) : ∀ result, same? sameDrop a b = some result → same? finer a b = some result := by
  induction a using Data.induction generalizing b with
  | array xs ih =>
    intro result same
    cases b with
    | array ys =>
      unfold same? at same ⊢
      split at same
      · next lengths =>
        rw [if_pos lengths, sameItems?_eq]
        rw [sameItems?_eq] at same
        refine firstDecided_map_mono (fun pair member => ?_) same
        exact ih pair.1 (List.of_mem_zip member).1 pair.2
      · next lengths => rwa [if_neg lengths]
    | _ => exact same
  | hash left ih =>
    intro result same
    cases b with
    | hash right =>
      by_cases sizes : left.size = right.size
      · have ended : (same? sameDrop (.hash left) (.hash right)).isSome = true := by rw [same]; rfl
        rw [isSome_same?_hash sizes] at ended
        -- every shared key was decided, and is decided alike
        rw [← same]
        refine same?_hash_congr sizes fun key x y isLeft isRight => ?_
        obtain ⟨decided, here⟩ := Option.isSome_iff_exists.1 (ended key x y isLeft isRight)
        rw [here, ih key x isLeft y decided here]
      · rw [same?_hash_of_size_ne sizes] at same ⊢
        exact same
    | _ => exact same
  | drop a =>
    intro result same
    cases b with
    | drop b => exact more a b result same
    | _ => exact same
  | nil | bool _ | int _ | float _ | string _ =>
    intro result same
    cases b <;> exact same

/-! ## Comparisons that end -/

/-- Two values are compared to an end if the drops of the first one are. -/
theorem isSome_same? (a b : Data)
    (ends : ∀ id, a.Holds id → ∀ other, (sameDrop id other).isSome = true) :
    (same? sameDrop a b).isSome = true := by
  induction a using Data.induction generalizing b with
  | array xs ih =>
    cases b with
    | array ys =>
      unfold same?
      split
      · refine isSome_sameItems? fun x y member => ?_
        have inside := (List.of_mem_zip member).1
        exact ih x inside y fun id held => ends id (.array inside held)
      · rfl
    | _ => rfl
  | hash left ih =>
    cases b with
    | hash right =>
      by_cases sizes : left.size = right.size
      · rw [isSome_same?_hash sizes]
        exact fun key x y isLeft _ => ih key x isLeft y fun id held => ends id (.hash isLeft held)
      · rw [same?_hash_of_size_ne sizes]
        rfl
    | _ => rfl
  | drop a =>
    cases b with
    | drop b => exact ends a .drop b
    | _ => rfl
  | nil | bool _ | int _ | float _ | string _ => cases b <;> rfl

/-- A value is compared to an end with itself. -/
theorem isSome_same?_self (known : ∀ a, sameDrop a a = some true) (a : Data) :
    (same? sameDrop a a).isSome = true := by
  induction a using Data.induction with
  | array xs ih =>
    unfold same?
    rw [if_pos rfl]
    have itself : List.Forall₂ (fun x y => (same? sameDrop x y).isSome = true) xs xs :=
      List.forall₂_same.2 ih
    exact isSome_sameItems? fun x y => List.forall₂_zip itself
  | hash left ih =>
    rw [isSome_same?_hash rfl]
    intro key x y isLeft isRight
    rw [isLeft] at isRight
    cases isRight
    exact ih key x isLeft
  | drop a =>
    unfold same?
    rw [known]
    rfl
  | nil | bool _ | int _ | float _ | string _ => rfl

end Data

theorem DropStore.sameDrop?_self (store : DropStore) (a : DropId) :
    store.sameDrop? a a = some true :=
  if_pos rfl

theorem DropStore.sameDrop?_of_known (store : DropStore) (a b : DropId) (result : Bool)
    (known : DropId.known? a b = some result) : store.sameDrop? a b = some result := by
  unfold DropId.known? at known
  split at known
  · next same =>
    cases known
    rw [same]
    exact store.sameDrop?_self b
  · cases known

/-- Values that are the same or differ outright are compared to an end, which tells them apart. -/
theorem DropStore.same?_of_apart {entry loaded : Data} (store : DropStore)
    (differs : entry = loaded ∨ entry.Apart loaded) :
    ∃ same, store.same? entry loaded = some same ∧ (same = true → entry = loaded) := by
  rcases differs with rfl | differs
  · have compared := Data.isSome_same?_self store.sameDrop?_self entry
    obtain ⟨same, decided⟩ := Option.isSome_iff_exists.1 compared
    exact ⟨same, decided, fun _ => rfl⟩
  · exact ⟨false, Data.same?_mono store.sameDrop?_of_known _ _ false differs, nofun⟩

/-- What a loop answers for a key differs outright from one iteration to another, or not at all. -/
theorem LoopState.answer_apart (state : LoopState) (key : String) (first second : Nat) :
    { state with index := first }.answer key = { state with index := second }.answer key ∨
      Data.Apart ({ state with index := first }.answer key)
        ({ state with index := second }.answer key) := by
  have ints (m n : Int64) : Data.int m = .int n ∨ Data.Apart (.int m) (.int n) := by
    by_cases same : m = n
    · exact .inl (by rw [same])
    · exact .inr (by simp [Data.Apart, Data.same?, same])
  have bools (a b : Bool) : Data.bool a = .bool b ∨ Data.Apart (.bool a) (.bool b) := by
    by_cases same : a = b
    · exact .inl (by rw [same])
    · exact .inr (by simp [Data.Apart, Data.same?, same])
  unfold answer
  split
  · exact ints _ _
  · exact ints _ _
  · exact ints _ _
  · exact ints _ _
  · exact ints _ _
  · exact bools _ _
  · exact bools _ _
  · exact .inl rfl
  · exact .inl rfl

end TextTemplate
