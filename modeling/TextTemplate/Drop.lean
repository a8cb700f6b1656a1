import TextTemplate.Data.Equality

/-!
Drops: objects outside the data that templates read one key at a time.

A store holds for every drop where its values come from and a cache of the last value read for
each key. Reading a key asks the source once. An answer that equals the cached value is dropped in
favour of that value; any other answer takes its place.

Two drops are equal if they are the same drop or if their caches bind the same keys to equal
values. Caches may refer to drops in a cycle; then the comparison may have no answer. A path that
compares more pairs of drops than there are has met one of them twice and would go on for ever, so
the number of pairs bounds the recursion.
-/

namespace TextTemplate

/-- An object of the host: what it answers for a key that was loaded so many times before. -/
structure HostObject where
  answer : String → Nat → Data

/-- The object that answers with the values listed for a key, one after the other, the last one
again and again, and nil for a key without values. -/
def HostObject.scripted (answers : Table (List Data)) : HostObject where
  answer key loads :=
    let values := (answers.get? key).getD []
    (values[loads]?).getD (values.getLast?.getD .nil)

/-- Where a running loop stands: its number of iterations, the number of those done, and the drop
of the loop around it. -/
structure LoopState where
  length : Nat
  index : Nat
  parent : Option DropId
deriving DecidableEq, Repr

/-- What a loop tells about itself. -/
def LoopState.answer (state : LoopState) (key : String) : Data :=
  let remaining := state.length - state.index
  match key with
  | "length" => .ofNat state.length
  | "index" => .ofNat (state.index + 1)
  | "index0" => .ofNat state.index
  | "rindex" => .ofNat remaining
  | "rindex0" => .ofNat (remaining - 1)
  | "first" => .bool (state.index == 0)
  | "last" => .bool (state.index + 1 == state.length)
  | "parentloop" =>
    match state.parent with
    | some id => .drop id
    | none => .nil
  | _ => .nil

/-- Where the values of a drop come from. -/
inductive DropSource
  /-- An object of the host, with the number of loads of each key so far. -/
  | host (object : HostObject) (loads : Table Nat)
  /-- A loop. -/
  | loop (state : LoopState)

/-- A drop: its source and the last value read for each key. -/
structure Drop where
  source : DropSource
  cache : Table Data

/-- All drops there are, each at the place that its handle names. -/
structure DropStore where
  drops : Array Drop

namespace DropStore

/-- The store without drops. -/
def empty : DropStore := ⟨#[]⟩

instance : Inhabited DropStore := ⟨empty⟩

/-- The store with one more drop, and the handle of that drop. -/
def add (store : DropStore) (source : DropSource) : DropId × DropStore :=
  (⟨store.drops.size⟩, ⟨store.drops.push ⟨source, .empty⟩⟩)

/-- The drop behind a handle. -/
def get? (store : DropStore) (id : DropId) : Option Drop :=
  store.drops[id.index]?

/-- The store with the drop behind a handle changed. -/
def update (store : DropStore) (id : DropId) (change : Drop → Drop) : DropStore :=
  ⟨store.drops.modify id.index change⟩

/-- The cache of a drop. -/
def cache (store : DropStore) (id : DropId) : Table Data :=
  match store.get? id with
  | some drop => drop.cache
  | none => .empty

/-- How often each key of a host's object was loaded. -/
def loads (store : DropStore) (id : DropId) : Table Nat :=
  match store.get? id with
  | some ⟨.host _ loads, _⟩ => loads
  | _ => .empty

/-- The store with a loop's drop at another iteration. -/
def setLoopIndex (store : DropStore) (id : DropId) (index : Nat) : DropStore :=
  store.update id fun drop =>
    match drop.source with
    | .loop state => { drop with source := .loop { state with index } }
    | .host .. => drop

/-- Whether two drops are equal, if that is known after looking into at most `depth` pairs of
caches on any path. -/
def sameWithin (store : DropStore) : Nat → DropId → DropId → Option Bool
  | 0, a, b => if a = b then some true else none
  | depth + 1, a, b =>
    if a = b then some true
    else Data.sameTable? (store.sameWithin depth) (store.cache a) (store.cache b)

/-- Whether two drops are equal; none if comparing them never ends. -/
def sameDrop? (store : DropStore) (a b : DropId) : Option Bool :=
  store.sameWithin (store.drops.size * store.drops.size + 1) a b

/-- Whether two values are equal; none if comparing them never ends. -/
def same? (store : DropStore) (a b : Data) : Option Bool :=
  Data.same? store.sameDrop? a b

end DropStore

/-- A computation that may read drops. It has no result if it compares drops without end. -/
abbrev DropM := StateT DropStore Option

namespace DropM

/-- The source's own answer for a key. It counts as a load of the key. -/
def load (id : DropId) (key : String) : DropM Data := do
  let store ← get
  match store.get? id with
  | none => return .nil
  | some ⟨.loop state, _⟩ => return state.answer key
  | some ⟨.host object loads, _⟩ =>
    let count := (loads.get? key).getD 0
    let source := .host object (loads.set key (count + 1))
    set (store.update id fun drop => { drop with source })
    return object.answer key count

/-- Whether two values are equal. -/
def same (a b : Data) : DropM Bool := do
  (← get).same? a b

/-- Puts a value into a drop's cache. -/
def remember (id : DropId) (key : String) (value : Data) : DropM Unit :=
  modify fun store => store.update id fun drop => { drop with cache := drop.cache.set key value }

/-- Reads a key of a drop through its cache. -/
def read (id : DropId) (key : String) : DropM Data := do
  let loaded ← load id key
  let cached? := ((← get).cache id).get? key
  match cached? with
  | some cached =>
    if ← same cached loaded then return cached
    else
      remember id key loaded
      return loaded
  | none =>
    remember id key loaded
    return loaded

end DropM

end TextTemplate
