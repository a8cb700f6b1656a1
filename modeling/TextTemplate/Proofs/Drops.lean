import TextTemplate.Drop
import TextTemplate.Proofs.Table

/-!
# What reading a drop does

A load asks a drop's source (`DropSource.load`), and a read puts the answer into the drop's cache or
serves the entry that is there (`DropM.read_eq`). A property that every drop of a store has by
itself is kept by a read if loads and cached answers keep it (`DropStore.All.read`). The other
changes of a store are a further drop and another iteration of a loop's drop.
-/

namespace TextTemplate

/-- The source can answer the value for the key, at some load or in some iteration. -/
def DropSource.Answers (source : DropSource) (key : String) (value : Data) : Prop :=
  match source with
  | .host object _ => ∃ count, value = object.answer key count
  | .loop state => ∃ index, value = { state with index }.answer key

/-- What the source answers for the key now, and the source after this load. -/
def DropSource.load (source : DropSource) (key : String) : Data × DropSource :=
  match source with
  | .host object loads =>
    let count := (loads.get? key).getD 0
    (object.answer key count, .host object (loads.set key (count + 1)))
  | .loop state => (state.answer key, .loop state)

theorem DropSource.answers_load (source : DropSource) (key : String) :
    source.Answers key (source.load key).1 := by
  cases source with
  | host object loads => exact ⟨_, rfl⟩
  | loop state => exact ⟨state.index, rfl⟩

/-- The cache holds nothing but what the source can answer. -/
def Drop.Honest (drop : Drop) : Prop :=
  ∀ key value, drop.cache.get? key = some value → drop.source.Answers key value

/-- The drop after a load of the key. -/
def Drop.load (drop : Drop) (key : String) : Drop :=
  { drop with source := (drop.source.load key).2 }

/-- The drop with a value in its cache. -/
def Drop.remember (drop : Drop) (key : String) (value : Data) : Drop :=
  { drop with cache := drop.cache.set key value }

/-- The drop of a loop at another iteration. -/
def Drop.setIndex (drop : Drop) (index : Nat) : Drop :=
  match drop.source with
  | .loop state => { drop with source := .loop { state with index } }
  | .host .. => drop

namespace DropStore

variable {store : DropStore} {id other : DropId} {drop : Drop} {change : Drop → Drop}
  {source : DropSource} {key : String} {holds : DropId → Drop → Prop}

theorem get?_update : (store.update id change).get? other =
    if other = id then (store.get? id).map change else store.get? other := by
  unfold update get?
  rw [Array.getElem?_modify]
  by_cases same : other = id
  · rw [if_pos same, if_pos (by rw [same]), same]
  · have apart : id.index ≠ other.index := fun index =>
      same (congrArg DropId.mk index.symm)
    rw [if_neg same, if_neg apart]

@[simp] theorem size_update : (store.update id change).drops.size = store.drops.size :=
  Array.size_modify

/-- Stores are told apart by what is behind their handles. -/
theorem eq_of_get? {first second : DropStore} (same : ∀ id, first.get? id = second.get? id) :
    first = second := by
  have drops : first.drops = second.drops := Array.ext_getElem? fun index => same ⟨index⟩
  exact congrArg DropStore.mk drops

theorem update_congr {first second : Drop → Drop}
    (same : (store.get? id).map first = (store.get? id).map second) :
    store.update id first = store.update id second := by
  refine eq_of_get? fun other => ?_
  rw [get?_update, get?_update, same]

theorem update_self (same : ∀ drop, store.get? id = some drop → change drop = drop) :
    store.update id change = store := by
  refine eq_of_get? fun other => ?_
  rw [get?_update]
  split
  · next here =>
    rw [here]
    cases found : store.get? id with
    | none => rfl
    | some drop => rw [Option.map_some, same drop found]
  · rfl

theorem get?_add : (store.add source).2.get? other =
    if other = (store.add source).1 then some ⟨source, .empty⟩ else store.get? other := by
  unfold add get?
  rw [Array.getElem?_push]
  by_cases same : other.index = store.drops.size
  · rw [if_pos same, if_pos (by rw [← same])]
  · have old : other ≠ ⟨store.drops.size⟩ := fun new => same (congrArg DropId.index new)
    rw [if_neg same, if_neg old]

@[simp] theorem size_add : (store.add source).2.drops.size = store.drops.size + 1 :=
  Array.size_push _

theorem lt_size_of_get? (found : store.get? id = some drop) : id.index < store.drops.size :=
  (Array.getElem?_eq_some_iff.1 found).1

theorem mem_of_get? (found : store.get? id = some drop) : drop ∈ store.drops.toList :=
  Array.mem_toList_iff.2 (Array.mem_of_getElem? found)

theorem cache_eq : store.cache id = ((store.get? id).map Drop.cache).getD .empty := by
  unfold cache
  cases store.get? id <;> rfl

theorem setLoopIndex_eq (store : DropStore) (id : DropId) (index : Nat) :
    store.setLoopIndex id index = store.update id fun drop => drop.setIndex index :=
  rfl

end DropStore

namespace DropM

variable {store last : DropStore} {id : DropId} {drop : Drop} {key : String} {value : Data}

@[simp] theorem remember_run : (remember id key value).run store =
    some ((), store.update id fun drop => drop.remember key value) :=
  rfl

@[simp] theorem same_run (a b : Data) :
    (same a b).run store = (store.same? a b).map fun same => (same, store) := by
  show (store.same? a b).bind _ = _
  cases store.same? a b <;> rfl

theorem load_run : (load id key).run store =
    match store.get? id with
    | none => some (.nil, store)
    | some drop => some ((drop.source.load key).1, store.update id fun drop => drop.load key) := by
  cases found : store.get? id with
  | none => simp [load, found]
  | some drop =>
    obtain ⟨source, cache⟩ := drop
    cases source with
    | host object loads =>
      have same : store.update id (fun drop => drop.load key) = store.update id fun drop =>
          { drop with source := .host object (loads.set key ((loads.get? key).getD 0 + 1)) } :=
        DropStore.update_congr (by simp [found, Drop.load, DropSource.load])
      simp [load, found, same, DropSource.load]
    | loop state =>
      have same : store.update id (fun drop => drop.load key) = store := by
        refine DropStore.update_self fun drop again => ?_
        rw [found] at again
        cases again
        rfl
      simp [load, found, same, DropSource.load]

/-- A read serves the cached entry if it equals what was loaded, and caches what was loaded
otherwise. -/
theorem read_of_load {loaded : Data} {counted : DropStore}
    (run : (load id key).run store = some (loaded, counted)) :
    (read id key).run store =
      let remembered := counted.update id fun drop => drop.remember key loaded
      match (counted.cache id).get? key with
      | none => some (loaded, remembered)
      | some cached => (counted.same? cached loaded).map fun same =>
        if same then (cached, counted) else (loaded, remembered) := by
  unfold read
  rw [StateT.run_bind, run]
  cases cached : (counted.cache id).get? key with
  | none => simp [cached]
  | some entry =>
    cases compared : counted.same? entry loaded with
    | none => simp [cached, compared]
    | some same => cases same <;> simp [cached, compared]

/-- A handle without a drop gives nil. -/
theorem read_missing (missing : store.get? id = none) :
    (read id key).run store = some (.nil, store) := by
  have run : (load id key).run store = some (.nil, store) := by rw [load_run, missing]
  rw [read_of_load run, DropStore.cache_eq, missing]
  show some (_, store.update id _) = _
  rw [DropStore.update_self]
  intro drop found
  rw [missing] at found
  cases found

theorem read_eq (found : store.get? id = some drop) :
    (read id key).run store =
      let loaded := (drop.source.load key).1
      let counted := store.update id fun drop => drop.load key
      let remembered := counted.update id fun drop => drop.remember key loaded
      match drop.cache.get? key with
      | none => some (loaded, remembered)
      | some cached => (counted.same? cached loaded).map fun same =>
        if same then (cached, counted) else (loaded, remembered) := by
  have run : (load id key).run store = _ := load_run
  rw [found] at run
  rw [read_of_load run, DropStore.cache_eq, DropStore.get?_update, if_pos rfl, found]
  rfl

/-- All that a read can do: it serves the cached entry, which equals what was loaded, or what was
loaded, which it then caches. -/
theorem read_cases (run : (read id key).run store = some (value, last)) :
    (store.get? id = none ∧ value = .nil ∧ last = store) ∨
      ∃ drop, store.get? id = some drop ∧
        let loaded := (drop.source.load key).1
        let counted := store.update id fun drop => drop.load key
        (drop.cache.get? key = some value ∧ counted.same? value loaded = some true ∧
            last = counted) ∨
          value = loaded ∧ last = counted.update id fun drop => drop.remember key loaded := by
  cases found : store.get? id with
  | none =>
    rw [read_missing found] at run
    cases run
    exact .inl ⟨rfl, rfl, rfl⟩
  | some drop =>
    rw [read_eq found] at run
    refine .inr ⟨drop, rfl, ?_⟩
    intro loaded counted
    cases cached : drop.cache.get? key with
    | none =>
      rw [cached] at run
      cases run
      exact .inr ⟨rfl, rfl⟩
    | some entry =>
      rw [cached] at run
      obtain ⟨same, compared, served⟩ := Option.map_eq_some_iff.1 run
      cases same with
      | false =>
        cases served
        exact .inr ⟨rfl, rfl⟩
      | true =>
        cases served
        exact .inl ⟨rfl, compared, rfl⟩

end DropM

/-! ## Properties of all drops -/

/-- The property is kept by a load and by caching what the source can answer. -/
structure Drop.Stable (holds : DropId → Drop → Prop) : Prop where
  loads : ∀ {id : DropId} {drop : Drop} (key : String), holds id drop → holds id (drop.load key)
  remembers : ∀ {id : DropId} {drop : Drop} {key : String} {value : Data}, holds id drop →
    drop.source.Answers key value → holds id (drop.remember key value)

/-- A load leaves what the source can answer. -/
theorem Drop.answers_load {drop : Drop} {key other : String} {value : Data} :
    (drop.load key).source.Answers other value ↔ drop.source.Answers other value := by
  obtain ⟨source, cache⟩ := drop
  cases source <;> exact Iff.rfl

theorem Drop.Honest.load {drop : Drop} (honest : drop.Honest) (key : String) :
    (drop.load key).Honest :=
  fun other value cached => Drop.answers_load.2 (honest other value cached)

theorem Drop.Honest.remember {drop : Drop} {key : String} {value : Data} (honest : drop.Honest)
    (answers : drop.source.Answers key value) : (drop.remember key value).Honest := by
  intro other entry cached
  unfold Drop.remember at cached
  rw [Table.get?_set] at cached
  split at cached
  · next same =>
    cases cached
    rw [same]
    exact answers
  · exact honest other entry cached

theorem Drop.honest_empty (source : DropSource) : (Drop.mk source .empty).Honest :=
  fun key value cached => by rw [Table.get?_empty] at cached; cases cached

namespace DropStore

/-- Every drop of the store has the property. -/
def All (holds : DropId → Drop → Prop) (store : DropStore) : Prop :=
  ∀ id drop, store.get? id = some drop → holds id drop

namespace All

variable {holds : DropId → Drop → Prop} {store last : DropStore} {id : DropId} {key : String}
  {value : Data}

theorem update {change : Drop → Drop} (all : store.All holds)
    (kept : ∀ drop, store.get? id = some drop → holds id drop → holds id (change drop)) :
    (store.update id change).All holds := by
  intro other drop found
  rw [get?_update] at found
  split at found
  · next same =>
    obtain ⟨before, held, rfl⟩ := Option.map_eq_some_iff.1 found
    rw [same]
    exact kept before held (all id before held)
  · exact all other drop found

theorem add {source : DropSource} (all : store.All holds)
    (new : holds (store.add source).1 ⟨source, .empty⟩) : (store.add source).2.All holds := by
  intro other drop found
  rw [get?_add] at found
  split at found
  · next same =>
    cases found
    rw [same]
    exact new
  · exact all other drop found

theorem load (stable : Drop.Stable holds) (all : store.All holds) :
    (store.update id fun drop => drop.load key).All holds :=
  all.update fun _ _ kept => stable.loads key kept

/-- Reading a drop keeps a stable property of all drops, and the number of drops. -/
theorem read (stable : Drop.Stable holds) (all : store.All holds)
    (run : (DropM.read id key).run store = some (value, last)) :
    last.All holds ∧ last.drops.size = store.drops.size := by
  rcases DropM.read_cases run with ⟨-, -, rfl⟩ | ⟨drop, found, ⟨-, -, rfl⟩ | ⟨-, rfl⟩⟩
  · exact ⟨all, rfl⟩
  · exact ⟨all.load stable, by simp⟩
  · refine ⟨(all.load stable).update fun counted held kept => stable.remembers kept ?_, by simp⟩
    rw [get?_update, if_pos rfl, found] at held
    cases held
    exact Drop.answers_load.2 (DropSource.answers_load drop.source key)

end All

end DropStore

end TextTemplate
