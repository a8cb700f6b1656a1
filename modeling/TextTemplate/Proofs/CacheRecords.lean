import TextTemplate.Engine
import TextTemplate.Proofs.Drops

/-!
# What the caches of drops record

A read of a drop counts one load of its key and caches what it answers under that key, and it leaves
every other count and entry alone (`DropStore.ReadEffect`). Comparing values changes nothing. So
after any reads and comparisons a cache holds exactly the keys that were read, each with the answer
of its last read, and the loads that were counted are the reads
(`DropEvent.caches_record_answers`).
-/

namespace TextTemplate

/-- How often each key of the host's object was loaded. -/
def Drop.loads (drop : Drop) : Table Nat :=
  match drop.source with
  | .host _ loads => loads
  | .loop _ => .empty

@[simp] theorem Drop.loads_host (object : HostObject) (loads : Table Nat) (cache : Table Data) :
    (Drop.mk (.host object loads) cache).loads = loads :=
  rfl

/-! ## One read -/

namespace DropStore

variable {store after : DropStore} {id : DropId} {key : String} {answer : Data}
  {object : HostObject} {loads : Table Nat} {cache : Table Data}

theorem loads_eq : store.loads id = ((store.get? id).map Drop.loads).getD .empty := by
  unfold DropStore.loads
  cases found : store.get? id with
  | none => rfl
  | some drop =>
    obtain ⟨source, cache⟩ := drop
    cases source <;> rfl

/-- Equality of values looks at the caches only. -/
theorem same?_of_cache (same : ∀ id, after.cache id = store.cache id)
    (size : after.drops.size = store.drops.size) (a b : Data) :
    after.same? a b = store.same? a b := by
  have within (depth : Nat) : after.sameWithin depth = store.sameWithin depth := by
    induction depth with
    | zero => rfl
    | succ depth ih =>
      funext first second
      simp only [sameWithin, ih, same]
  have drops : after.sameDrop? = store.sameDrop? := by
    funext first second
    simp only [sameDrop?, within, size]
  simp only [DropStore.same?, drops]

theorem cache_load (id : DropId) (key : String) (other : DropId) :
    (store.update id fun drop => drop.load key).cache other = store.cache other := by
  rw [cache_eq, cache_eq, get?_update]
  by_cases same : other = id
  · rw [if_pos same, same]
    cases store.get? id <;> rfl
  · rw [if_neg same]

/-- A read of an object's drop counts the load and caches the answer, also where the answer was
cached before. -/
theorem read_host (found : store.get? id = some ⟨.host object loads, cache⟩)
    (run : (DropM.read id key).run store = some (answer, after)) :
    let count := (loads.get? key).getD 0
    (answer = object.answer key count ∨
      cache.get? key = some answer ∧
        store.same? answer (object.answer key count) = some true) ∧
    after = store.update id fun _ =>
      ⟨.host object (loads.set key (count + 1)), cache.set key answer⟩ := by
  intro count
  rcases DropM.read_cases run with ⟨missing, -⟩ | ⟨drop, held, effect⟩
  · rw [found] at missing
    cases missing
  · rw [found] at held
    cases held
    rcases effect with ⟨cached, equal, rfl⟩ | ⟨rfl, rfl⟩
    · constructor
      · rw [same?_of_cache (cache_load id key) size_update] at equal
        exact .inr ⟨cached, equal⟩
      · apply update_congr
        rw [found, Table.set_self cached]
        rfl
    · constructor
      · exact .inl rfl
      · apply eq_of_get?
        intro other
        simp only [get?_update, found]
        by_cases same : other = id
        · simp [same, Drop.load, Drop.remember, DropSource.load, count]
        · simp [same]

/-- What a read of a key does to the drops. It answers what the object answers for this load, or the
entry cached for the key if the two are equal. -/
structure ReadEffect (store : DropStore) (object : HostObject) (id : DropId) (key : String)
    (answer : Data) (after : DropStore) : Prop where
  serves :
    let loaded := object.answer key (((store.loads id).get? key).getD 0)
    answer = loaded ∨
      (store.cache id).get? key = some answer ∧ store.same? answer loaded = some true
  loads : ∀ other name, (after.loads other).get? name =
    if other = id ∧ name = key then some (((store.loads id).get? key).getD 0 + 1)
    else (store.loads other).get? name
  cached : ∀ other name, (after.cache other).get? name =
    if other = id ∧ name = key then some answer else (store.cache other).get? name

theorem readEffect_of_run (found : store.get? id = some ⟨.host object loads, cache⟩)
    (run : (DropM.read id key).run store = some (answer, after)) :
    store.ReadEffect object id key answer after := by
  have isLoads : store.loads id = loads := by
    rw [loads_eq, found]
    rfl
  have isCache : store.cache id = cache := by
    rw [cache_eq, found]
    rfl
  obtain ⟨serves, rfl⟩ := read_host found run
  rw [← isLoads, ← isCache] at serves
  refine ⟨serves, ?_, ?_⟩
  · intro other name
    rw [loads_eq, get?_update, found]
    by_cases same : other = id
    · simp [same, isLoads]
    · simp [same, loads_eq]
  · intro other name
    rw [cache_eq, get?_update, found]
    by_cases same : other = id
    · simp [same, isCache]
    · simp [same, cache_eq]

end DropStore

/-! ## Any reads and comparisons -/

/-- A read of a drop or a comparison of two values, with the answer. -/
inductive DropEvent
  | read (id : DropId) (key : String) (answer : Data)
  | compare (a b : Data) (equal : Bool)

/-- Drops of the host that were never read. -/
def DropStore.ofObjects (objects : List HostObject) : DropStore :=
  ⟨(objects.map fun object => ⟨.host object .empty, .empty⟩).toArray⟩

namespace DropEvent

variable {objects : List HostObject} {events : List DropEvent} {event : DropEvent}
  {store after : DropStore} {id : DropId} {key : String} {answer : Data}

/-- The event happens between the two states of the drops. -/
def Occurs : DropEvent → DropStore → DropStore → Prop
  | read id key answer, store, after => (DropM.read id key).run store = some (answer, after)
  | compare a b equal, store, after => (DropM.same a b).run store = some (equal, after)

/-- The events happen one after the other, from the first state to the last one. -/
inductive Course (first : DropStore) : List DropEvent → DropStore → Prop
  | begin : Course first [] first
  | more {middle last : DropStore} {events : List DropEvent} {event : DropEvent}
      (course : Course first events middle) (occurs : event.Occurs middle last) :
      Course first (events ++ [event]) last

/-- The answer of a read of this key of this drop. -/
def answer? (id : DropId) (key : String) : DropEvent → Option Data
  | read other name answer => if id = other ∧ key = name then some answer else none
  | compare .. => none

/-- What the reads of a key of a drop answered, in their order. -/
def answers (id : DropId) (key : String) (events : List DropEvent) : List Data :=
  events.filterMap (answer? id key)

theorem mem_answers : answer ∈ answers id key events ↔ .read id key answer ∈ events := by
  unfold answers
  rw [List.mem_filterMap]
  constructor
  · rintro ⟨event, member, answered⟩
    cases event with
    | compare => cases answered
    | read other name value =>
      simp only [answer?, Option.ite_none_right_eq_some, Option.some.injEq] at answered
      obtain ⟨⟨rfl, rfl⟩, rfl⟩ := answered
      exact member
  · intro member
    exact ⟨_, member, by simp [answer?]⟩

theorem answers_append :
    answers id key (events ++ [event]) =
      answers id key events ++ (event.answer? id key).toList := by
  unfold answers
  rw [List.filterMap_append, List.filterMap_cons, List.filterMap_nil]
  cases event.answer? id key <;> rfl

/-- The drop of the object has counted the reads among the events, and its cache holds what the last
read of each key answered. -/
structure Recorded (object : HostObject) (id : DropId) (events : List DropEvent) (drop : Drop) :
    Prop where
  source : drop.source = .host object drop.loads
  counted : ∀ key, (drop.loads.get? key).getD 0 = (answers id key events).length
  cached : ∀ key, drop.cache.get? key = (answers id key events).getLast?

theorem Recorded.host {object : HostObject} {drop : Drop}
    (recorded : Recorded object id events drop) (found : store.get? id = some drop) :
    store.get? id = some ⟨.host object drop.loads, drop.cache⟩ := by
  rw [found, ← recorded.source]

/-- Every object has a drop that has recorded the events. -/
def Records (objects : List HostObject) (events : List DropEvent) (store : DropStore) : Prop :=
  ∀ id object, objects[id.index]? = some object →
    ∃ drop, store.get? id = some drop ∧ Recorded object id events drop

theorem records_ofObjects (objects : List HostObject) :
    Records objects [] (.ofObjects objects) := by
  intro id object isObject
  refine ⟨⟨.host object .empty, .empty⟩, ?_, rfl, fun key => rfl, fun key => rfl⟩
  unfold DropStore.ofObjects DropStore.get?
  simp [isObject]

/-- An event that is no read of the drop is not recorded in it. -/
theorem Recorded.aside {object : HostObject} {drop : Drop}
    (recorded : Recorded object id events drop) (noRead : ∀ key, event.answer? id key = none) :
    Recorded object id (events ++ [event]) drop := by
  refine ⟨recorded.source, ?_, ?_⟩
  · intro key
    simp [answers_append, noRead, recorded.counted]
  · intro key
    simp [answers_append, noRead, recorded.cached]

/-- A read is recorded in its drop. -/
theorem Recorded.read {object : HostObject} {drop : Drop}
    (recorded : Recorded object id events drop) (key : String) (answer : Data) :
    Recorded object id (events ++ [.read id key answer])
      ⟨.host object (drop.loads.set key ((drop.loads.get? key).getD 0 + 1)),
        drop.cache.set key answer⟩ := by
  refine ⟨rfl, ?_, ?_⟩
  · intro name
    by_cases same : name = key
    · simp [answers_append, answer?, same, recorded.counted]
    · simp [answers_append, answer?, same, recorded.counted]
  · intro name
    by_cases same : name = key
    · simp [answers_append, answer?, same]
    · simp [answers_append, answer?, same, recorded.cached]

/-- Comparing values changes nothing. -/
theorem compare_keeps {a b : Data} {equal : Bool}
    (run : (DropM.same a b).run store = some (equal, after)) : after = store := by
  rw [DropM.same_run] at run
  obtain ⟨_, -, same⟩ := Option.map_eq_some_iff.1 run
  cases same
  rfl

/-- One event is recorded. -/
theorem Records.step (records : Records objects events store) (occurs : event.Occurs store after) :
    Records objects (events ++ [event]) after := by
  intro id object isObject
  obtain ⟨drop, found, recorded⟩ := records id object isObject
  cases event with
  | compare a b equal =>
    rw [compare_keeps occurs]
    exact ⟨drop, found, recorded.aside fun key => rfl⟩
  | read other key answer =>
    by_cases same : id = other
    · subst same
      have host := recorded.host found
      obtain ⟨-, rfl⟩ := DropStore.read_host host occurs
      refine ⟨_, ?_, recorded.read key answer⟩
      rw [DropStore.get?_update, if_pos rfl, host]
      rfl
    · refine ⟨drop, ?_, recorded.aside fun name => if_neg fun here => same here.1⟩
      rcases DropM.read_cases occurs with ⟨-, -, rfl⟩ | ⟨_, -, ⟨-, -, rfl⟩ | ⟨-, rfl⟩⟩
      · exact found
      · rw [DropStore.get?_update, if_neg same, found]
      · rw [DropStore.get?_update, if_neg same, DropStore.get?_update, if_neg same, found]

theorem Course.records (course : Course (.ofObjects objects) events store) :
    Records objects events store := by
  induction course with
  | begin => exact records_ofObjects objects
  | more course occurs ih => exact ih.step occurs

/-- The names that a cache binds are the keys that were read. -/
theorem Recorded.mem_keys {object : HostObject} {drop : Drop}
    (recorded : Recorded object id events drop) :
    key ∈ drop.cache.keys ↔ ∃ answer, .read id key answer ∈ events := by
  rw [Table.mem_keys, Table.contains, Option.isSome_iff_exists]
  simp only [recorded.cached, ← mem_answers]
  constructor
  · rintro ⟨value, last⟩
    exact ⟨value, List.mem_of_getLast? last⟩
  · rintro ⟨value, member⟩
    exact ⟨_, List.getLast?_eq_some_getLast (List.ne_nil_of_mem member)⟩

/-- Whatever reads and comparisons there were of drops that had never been read: the keys that a
drop's description lists, in their order, are those that were read, its cache holds for each what
the last read of it answered, and it has counted one load for each read. A further read answers
what the object answers for this load, or the entry cached for the key, which equals it; it counts
one load and caches its answer under the key, and changes no other count and no other entry. A
comparison changes nothing. -/
theorem caches_record_answers (objects : List HostObject) (events : List DropEvent)
    (store : DropStore) (course : Course (.ofObjects objects) events store) :
    (∀ id object, objects[id.index]? = some object →
      (∃ keys : List String,
        store.describe id = "SharedDrop \x7b cached: " ++ Text.quotedList keys ++ " \x7d" ∧
        keys.Pairwise (· < ·) ∧ ∀ key, key ∈ keys ↔ ∃ answer, .read id key answer ∈ events) ∧
      (∀ key, (store.cache id).get? key = (answers id key events).getLast?) ∧
      (∀ key, ((store.loads id).get? key).getD 0 = (answers id key events).length) ∧
      ∀ key answer after, (read id key answer).Occurs store after →
        store.ReadEffect object id key answer after) ∧
    ∀ a b equal after, (compare a b equal).Occurs store after → after = store := by
  constructor
  · intro id object isObject
    obtain ⟨drop, found, recorded⟩ := course.records id object isObject
    have isCache : store.cache id = drop.cache := by
      rw [DropStore.cache_eq, found]
      rfl
    have isLoads : store.loads id = drop.loads := by
      rw [DropStore.loads_eq, found]
      rfl
    refine ⟨⟨drop.cache.keys, ?_, ?_, ?_⟩, ?_, ?_, ?_⟩
    · unfold DropStore.describe
      rw [isCache]
    · exact drop.cache.sorted_keys
    · intro key
      exact recorded.mem_keys
    · intro key
      rw [isCache]
      exact recorded.cached key
    · intro key
      rw [isLoads]
      exact recorded.counted key
    · intro key answer after occurs
      exact DropStore.readEffect_of_run (recorded.host found) occurs
  · intro a b equal after occurs
    exact compare_keeps occurs

/-- The second read of `x` loads another drop, which equals the first one, so the first one is
answered and stays in the cache. -/
theorem caches_record_answers_equal_drop :
    let script (key : String) (values : List Data) : HostObject :=
      .scripted (.ofList [(key, values)])
    let objects := [script "x" [.drop ⟨1⟩, .drop ⟨2⟩], script "y" [.int 1], script "y" [.int 1]]
    let events : List DropEvent :=
      [.compare (.drop ⟨1⟩) (.drop ⟨2⟩) true, .read ⟨0⟩ "x" (.drop ⟨1⟩)]
    ∃ store after, Course (.ofObjects objects) events store ∧
      (store.cache ⟨0⟩).get? "x" = some (.drop ⟨1⟩) ∧
      (read ⟨0⟩ "x" (.drop ⟨1⟩)).Occurs store after ∧
      store.ReadEffect (script "x" [.drop ⟨1⟩, .drop ⟨2⟩]) ⟨0⟩ "x" (.drop ⟨1⟩) after := by
  intro script objects events
  have compared : (compare (.drop ⟨1⟩) (.drop ⟨2⟩) true).Occurs (.ofObjects objects)
      (.ofObjects objects) := rfl
  have first : Course (.ofObjects objects) [.compare (.drop ⟨1⟩) (.drop ⟨2⟩) true] _ :=
    .more .begin compared
  have courses : ∃ store after, Course (.ofObjects objects) events store ∧
      (read ⟨0⟩ "x" (.drop ⟨1⟩)).Occurs store after := ⟨_, _, .more first rfl, rfl⟩
  obtain ⟨store, after, course, again⟩ := courses
  obtain ⟨-, cached, -, effect⟩ := (caches_record_answers objects events store course).1 ⟨0⟩ _ rfl
  have last : (answers ⟨0⟩ "x" events).getLast? = some (.drop ⟨1⟩) := rfl
  exact ⟨store, after, course, (cached "x").trans last, again, effect "x" (.drop ⟨1⟩) after again⟩

end DropEvent

end TextTemplate
