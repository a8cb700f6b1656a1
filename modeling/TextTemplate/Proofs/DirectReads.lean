import TextTemplate.Proofs.AlikeRuns
import TextTemplate.Proofs.DropCache

/-!
# Reading through caches and loading directly

Over drops whose sources answer nothing for a key but values that are alike or differ outright, a
render through the caches and one that loads directly stay together (`Pairing.cached`): the caches
they leave are alike (`DropStore.Alike`), and a served entry is alike to the value that was loaded.
Where equal values are the very same the two renders are (`Regime.steady`). Equal drops need not be
one drop, so an answer may hold another drop than the load gave, and a render may tell the two apart
(`DropM.read_serves_other_drop`).
-/

namespace TextTemplate

/-! ## Stores with alike caches -/

/-- The drops have the same sources and alike caches. -/
def DropStore.Alike (first second : DropStore) : Prop :=
  first.drops.size = second.drops.size ∧
    ∀ id, Option.Rel
      (fun drop drop' =>
        drop.source = drop'.source ∧ (Data.hash drop.cache).Alike (.hash drop'.cache))
      (first.get? id) (second.get? id)

namespace DropStore

variable {first second : DropStore}

namespace Alike

theorem refl (store : DropStore) : store.Alike store :=
  ⟨rfl, fun _ => rel_refl (fun _ => ⟨rfl, .same _⟩) _⟩

theorem cache (alike : first.Alike second) (id : DropId) :
    (Data.hash (first.cache id)).Alike (.hash (second.cache id)) := by
  have here := alike.2 id
  rw [cache_eq, cache_eq]
  generalize first.get? id = found at here ⊢
  generalize second.get? id = found' at here ⊢
  cases here with
  | none => exact .same _
  | some here => exact here.2

/-- With alike caches drops are compared alike. -/
theorem sameWithin (alike : first.Alike second) (depth : Nat) :
    first.sameWithin depth = second.sameWithin depth := by
  induction depth with
  | zero => rfl
  | succ depth ih =>
    funext a b
    unfold DropStore.sameWithin Data.sameTable?
    rw [ih, Data.same?_alike (alike.cache a) (alike.cache b)]

theorem same? (alike : first.Alike second) {a a' b b' : Data} (left : a.Alike a')
    (right : b.Alike b') : first.same? a b = second.same? a' b' := by
  have drops : first.sameDrop? = second.sameDrop? := by
    funext a b
    unfold sameDrop?
    rw [alike.1, alike.sameWithin]
  unfold DropStore.same?
  rw [drops]
  exact Data.same?_alike left right

theorem update (alike : first.Alike second) {id : DropId} {change change' : Drop → Drop}
    (changes : ∀ drop drop', first.get? id = some drop → drop.source = drop'.source →
      (Data.hash drop.cache).Alike (.hash drop'.cache) →
      (change drop).source = (change' drop').source ∧
        (Data.hash (change drop).cache).Alike (.hash (change' drop').cache)) :
    (first.update id change).Alike (second.update id change') := by
  refine ⟨by rw [size_update, size_update, alike.1], fun other => ?_⟩
  rw [get?_update, get?_update]
  split
  · have here := alike.2 id
    cases found : first.get? id with
    | none =>
      rw [found] at here
      rw [eq_none_of_rel here]
      exact .none
    | some drop =>
      rw [found] at here
      obtain ⟨drop', found', sources, caches⟩ := exists_of_rel here
      rw [found']
      exact .some (changes drop drop' found sources caches)
  · exact alike.2 other

theorem load (alike : first.Alike second) (id : DropId) (key : String) :
    (first.update id fun drop => drop.load key).Alike
      (second.update id fun drop => drop.load key) := by
  refine alike.update fun drop drop' _ sources caches => ⟨?_, caches⟩
  unfold Drop.load
  rw [sources]

theorem remember (alike : first.Alike second) (id : DropId) (key : String) (value : Data) :
    (first.update id fun drop => drop.remember key value).Alike
      (second.update id fun drop => drop.remember key value) := by
  refine alike.update fun drop drop' _ sources caches => ⟨sources, ?_⟩
  obtain ⟨_, ⟨⟩, keywise⟩ := caches.of_hash
  exact .hash (Table.rel_set keywise (.same value) key)

/-- A store whose cache has a value like the one that the other store remembers. -/
theorem remember_right (alike : first.Alike second) {id : DropId} {key : String}
    {entry value : Data} (cached : ∀ drop, first.get? id = some drop →
      drop.cache.get? key = some entry) (like : entry.Alike value) :
    first.Alike (second.update id fun drop => drop.remember key value) := by
  rw [← first.update_self fun drop (_ : first.get? id = some drop) => rfl]
  refine alike.update fun drop drop' found sources caches => ⟨sources, ?_⟩
  obtain ⟨_, ⟨⟩, keywise⟩ := caches.of_hash
  refine .hash fun other => ?_
  show Option.Rel Data.Alike _ ((drop'.cache.set key value).get? other)
  rw [Table.get?_set]
  split
  · next same =>
    rw [same, cached drop found]
    exact .some like
  · exact keywise other

theorem add (alike : first.Alike second) (source : DropSource) :
    (first.add source).1 = (second.add source).1 ∧
      (first.add source).2.Alike (second.add source).2 := by
  have sameId : (first.add source).1 = (second.add source).1 := by
    show DropId.mk _ = DropId.mk _
    rw [alike.1]
  refine ⟨sameId, by rw [size_add, size_add, alike.1], fun other => ?_⟩
  rw [get?_add, get?_add, sameId]
  split
  · exact .some ⟨rfl, .same _⟩
  · exact alike.2 other

theorem setLoopIndex (alike : first.Alike second) (id : DropId) (index : Nat) :
    (first.setLoopIndex id index).Alike (second.setLoopIndex id index) := by
  rw [setLoopIndex_eq, setLoopIndex_eq]
  refine alike.update fun drop drop' _ sources caches => ?_
  obtain ⟨source, cache⟩ := drop
  obtain ⟨source', cache'⟩ := drop'
  cases sources
  cases source <;> exact ⟨rfl, caches⟩

end Alike

/-- Values that are alike or differ outright are compared to an end, which tells them apart. -/
theorem same?_of_alike_or_apart {entry loaded : Data} (store : DropStore)
    (differs : entry.Alike loaded ∨ entry.Apart loaded) :
    ∃ same, store.same? entry loaded = some same ∧ (same = true → entry.Alike loaded) := by
  rcases differs with alike | differs
  · have compared : (store.same? entry loaded).isSome = true := by
      unfold DropStore.same?
      rw [Data.same?_alike alike (.same loaded)]
      exact Data.isSome_same?_self store.sameDrop?_self loaded
    obtain ⟨same, decided⟩ := Option.isSome_iff_exists.1 compared
    exact ⟨same, decided, fun _ => alike⟩
  · obtain ⟨same, decided, served⟩ := store.same?_of_apart (.inr differs)
    exact ⟨same, decided, fun holds => served holds ▸ .same _⟩

end DropStore

/-! ## One read -/

/-- Over steady drops a read answers a value like the one that loading directly answers, and leaves
alike caches. -/
theorem DropM.read_alike_direct {first second : DropStore}
    (steady : first.All fun _ drop => drop.Steady Data.Alike) (alike : first.Alike second)
    (id : DropId) (key : String) :
    ∃ answer last loaded last', (read id key).run first = some (answer, last) ∧
      (direct id key).run second = some (loaded, last') ∧ answer.Alike loaded ∧
        last.Alike last' := by
  have here := alike.2 id
  cases found : first.get? id with
  | none =>
    rw [found] at here
    exact ⟨_, _, _, _, read_missing found, direct_missing (eq_none_of_rel here), .same _, alike⟩
  | some drop =>
    rw [found] at here
    obtain ⟨drop', found', sources, -⟩ := exists_of_rel here
    obtain ⟨honest, apart⟩ := steady id drop found
    let loaded := (drop.source.load key).1
    let counted := first.update id fun drop => drop.load key
    have counts : counted.Alike (second.update id fun drop => drop.load key) := alike.load id key
    have direct : (direct id key).run second = _ := direct_eq found'
    rw [← sources] at direct
    cases cached : drop.cache.get? key with
    | none =>
      have answered : (read id key).run first = _ := read_eq found
      rw [cached] at answered
      exact ⟨_, _, _, _, answered, direct, .same _, counts.remember id key loaded⟩
    | some entry =>
      have answered : (read id key).run first = _ := read_eq found
      have compares : entry.Alike loaded ∨ entry.Apart loaded :=
        apart key entry loaded (honest key entry cached) (drop.source.answers_load key)
      obtain ⟨same, compared, served⟩ := counted.same?_of_alike_or_apart compares
      rw [cached] at answered
      change _ = Option.map _ (counted.same? entry loaded) at answered
      rw [compared] at answered
      cases same with
      | false => exact ⟨_, _, _, _, answered, direct, .same _, counts.remember id key loaded⟩
      | true =>
        refine ⟨_, _, _, _, answered, direct, served rfl, ?_⟩
        refine counts.remember_right (fun held isHeld => ?_) (served rfl)
        rw [DropStore.get?_update, if_pos rfl, found] at isHeld
        cases isHeld
        exact cached

/-- The first run reads through caches, the second one loads directly. The drops of the first run
are steady, and those of the second are as they are up to the order of hash entries. -/
def Pairing.cached : Pairing where
  left := DropM.read
  right := DropM.direct
  holds first second := (first.All fun _ drop => drop.Steady Data.Alike) ∧ first.Alike second
  compares related _ _ _ _ alike alike' := related.2.same? alike alike'
  reads := by
    intro first second related id key
    obtain ⟨answer, last, loaded, last', read, direct, here, caches⟩ :=
      DropM.read_alike_direct related.1 related.2 id key
    rw [read, direct]
    exact .some ⟨here, (related.1.read Drop.steady_stable read).1, caches⟩
  opens := by
    intro first second related state
    obtain ⟨sameId, caches⟩ := related.2.add (.loop state)
    have new := Drop.steady_loop Data.Alike.same state (Drop.honest_empty _)
    exact ⟨sameId, related.1.add new, caches⟩
  moves := by
    intro first second related id index
    rw [DropStore.setLoopIndex_eq]
    refine ⟨related.1.update fun _ _ => Drop.steady_setIndex Data.Alike.same index, ?_⟩
    exact related.2.setLoopIndex id index

/-! ## Renders -/

/-- A read answers what it loaded, or the cached entry if that compares equal, and it has an answer
if the comparison ends. So for a value without drops and floats the answer is the value that was
loaded, but for the order of hash entries, and for a drop it is a drop that equals it. A body of
built-in nodes renders as if each read loaded directly, over drops whose sources have no two answers
for a key that differ in drops or floats only. If they have such that differ in the order of hash
entries too, this is so of filters that treat values alike that do, up to that order in the state at
the end. -/
theorem Node.cached_reads_answer_loads :
    (∀ (store : DropStore) (id : DropId) (key : String), ∃ loaded counted,
      (DropM.load id key).run store = some (loaded, counted) ∧
      ((∀ entry, (counted.cache id).get? key = some entry →
          (counted.same? entry loaded).isSome = true) →
        ∃ answer last, (DropM.read id key).run store = some (answer, last)) ∧
      ∀ answer last, (DropM.read id key).run store = some (answer, last) →
        (answer = loaded ∨
          (counted.cache id).get? key = some answer ∧ counted.same? answer loaded = some true) ∧
        (loaded.Plain → answer.Alike loaded) ∧
        ∀ drop, loaded = .drop drop →
          ∃ other, answer = .drop other ∧ counted.sameDrop? other drop = some true) ∧
    ∀ (filters : FilterTable) (tree : List Node) (root : Data) (store : DropStore),
      BuiltIn tree →
      let cached := (renderBody filters "" tree).run (.start root store)
      let direct := (renderBodyBy DropM.direct filters "" tree).run (.start root store)
      ((store.All fun _ drop => drop.Steady Eq) → cached = direct) ∧
      ((store.All fun _ drop => drop.Steady Data.Alike) → filters.Respects →
        Render.EndTogether (Context.Alike DropStore.Alike) Eq cached direct) := by
  refine ⟨fun store id key => ?_, fun filters tree root store builtIn => ⟨fun steady => ?_, ?_⟩⟩
  · obtain ⟨loaded, counted, run⟩ := DropM.exists_load store id key
    refine ⟨loaded, counted, run, DropM.exists_read run, ?_⟩
    intro answer last read
    have serves := DropM.serves_of_load run read
    refine ⟨serves, fun plain => ?_, ?_⟩
    · rcases serves with same | ⟨-, same⟩
      · rw [same]
        exact .same _
      · exact Data.alike_of_same? answer loaded same plain
    · rintro drop rfl
      rcases serves with rfl | ⟨-, same⟩
      · exact ⟨drop, rfl, counted.sameDrop?_self drop⟩
      · cases answer with
        | drop other => exact ⟨other, rfl, same⟩
        | _ => cases same
  · have fits : Regime.steady.Fits tree := Regime.fits_of_builtIn id builtIn
    have upholds : Regime.steady.Upholds (.start root store) :=
      ⟨steady, Nat.zero_le _, nofun, False.elim⟩
    exact (Regime.renders_body filters "" tree fits _ upholds).same
  · intro steady respects
    have joins : Pairing.cached.Joins (.start root store) (.start root store) :=
      ⟨.same root, rfl, rfl, rfl, steady, .refl store⟩
    have ended := Pairing.renders_body respects "" tree builtIn _ _ joins
    rw [← renderBodyBy_read filters tree builtIn]
    exact ended.mono fun alike => ⟨alike.root, alike.counters, alike.registers, alike.interrupt,
      alike.drops.2⟩

/-- A drop that answers with one and the same drop, whose name changes; and one that answers with a
hash whose entries came in one order or the other. -/
theorem Node.cached_reads_answer_loads_constant_drop :
    let owner : HostObject := ⟨fun _ _ => .drop ⟨1⟩⟩
    let named : HostObject := ⟨fun _ count => if count = 0 then .string "B" else .string "C"⟩
    let store : DropStore := ⟨#[⟨.host owner .empty, .empty⟩, ⟨.host named .empty, .empty⟩]⟩
    let tree : List Node := [.assign "p" ⟨.lookup [.key "a", .key "x"], []⟩,
      .object ⟨.lookup [.key "a", .key "x", .key "name"], []⟩,
      .object ⟨.lookup [.key "p", .key "name"], []⟩]
    let start := Context.start (.hash (.ofList [("a", .drop ⟨0⟩)])) store
    let one : List (String × Data) := [("p", .int 1), ("q", .int 2)]
    let shuffled : HostObject :=
      ⟨fun _ count => .hash (.ofList (if count = 0 then one else one.reverse))⟩
    let startShuffled := Context.start (.hash (.ofList [("a", .drop ⟨0⟩)]))
      ⟨#[⟨.host shuffled .empty, .empty⟩]⟩
    ((renderBody .empty "" tree).run start = (renderBodyBy DropM.direct .empty "" tree).run start ∧
      ∃ last, (renderBody .empty "" tree).run start = .ok "BC" last) ∧
    Render.EndTogether (Context.Alike DropStore.Alike) Eq
      ((renderBody .empty "" tree).run startShuffled)
      ((renderBodyBy DropM.direct .empty "" tree).run startShuffled) := by
  intro owner named store tree start one shuffled startShuffled
  have builtIn : BuiltIn tree := by simp [tree, bodies, isHost]
  refine ⟨⟨(Node.cached_reads_answer_loads.2 .empty tree _ store builtIn).1 ?_,
    Render.exists_ok (by decide +kernel)⟩,
    (Node.cached_reads_answer_loads.2 .empty tree _ _ builtIn).2 ?_ ?_⟩
  · intro id drop found
    have member : drop ∈ [Drop.mk (.host owner .empty) .empty, ⟨.host named .empty, .empty⟩] :=
      DropStore.mem_of_get? found
    simp only [List.mem_cons, List.not_mem_nil, or_false] at member
    rcases member with rfl | rfl
    · refine ⟨Drop.honest_empty _, ?_⟩
      rintro key _ _ ⟨count, rfl⟩ ⟨other, rfl⟩
      exact .inl rfl
    · refine ⟨Drop.honest_empty _, ?_⟩
      rintro key _ _ ⟨count, rfl⟩ ⟨other, rfl⟩
      by_cases first : count = 0
      · by_cases second : other = 0
        · exact .inl (by rw [first, second])
        · exact .inr (by simp [named, first, second, Data.Apart, Data.same?])
      · by_cases second : other = 0
        · exact .inr (by simp [named, first, second, Data.Apart, Data.same?])
        · exact .inl (by simp [named, first, second])
  · intro id drop found
    have member : drop ∈ [Drop.mk (.host shuffled .empty) .empty] := DropStore.mem_of_get? found
    cases List.mem_singleton.1 member
    have made : Table.ofPairs one = .ok (.ofList one) := rfl
    have made' : Table.ofPairs one.reverse = .ok (.ofList one.reverse) := rfl
    have alike : (Data.hash (.ofList one)).Alike (.hash (.ofList one.reverse)) :=
      Data.alike_of_perm one.reverse_perm.symm made made'
    refine ⟨Drop.honest_empty _, ?_⟩
    rintro key _ _ ⟨count, rfl⟩ ⟨other, rfl⟩
    refine .inl ?_
    unfold shuffled
    dsimp only
    split <;> split
    · exact .same _
    · exact alike
    · exact alike.symm
    · exact .same _
  · intro name filter found
    cases found

/-- Two drops that were never read are equal, so the second of them is not served: the template that
reads `a.x` twice shows the name of the first one. -/
theorem DropM.read_serves_other_drop :
    let script (key : String) (values : List Data) : Drop :=
      ⟨.host (.scripted (.ofList [(key, values)])) .empty, .empty⟩
    let store : DropStore := ⟨#[script "x" [.drop ⟨1⟩, .drop ⟨2⟩], script "name" [.string "B"],
      script "name" [.string "C"]]⟩
    let tree : List Node := [.assign "p" ⟨.lookup [.key "a", .key "x"], []⟩,
      .object ⟨.lookup [.key "a", .key "x", .key "name"], []⟩]
    let start := Context.start (.hash (.ofList [("a", .drop ⟨0⟩)])) store
    (∃ once, (DropM.read ⟨0⟩ "x").run store = some (.drop ⟨1⟩, once) ∧
      (∃ counted, (DropM.load ⟨0⟩ "x").run once = some (.drop ⟨2⟩, counted)) ∧
      ∃ twice, (DropM.read ⟨0⟩ "x").run once = some (.drop ⟨1⟩, twice)) ∧
    (∃ last, (Node.renderBody .empty "" tree).run start = .ok "B" last) ∧
    ∃ last, (Node.renderBodyBy DropM.direct .empty "" tree).run start = .ok "C" last := by
  intro script store tree start
  refine ⟨?_, ?_, ?_⟩
  · exact ⟨_, rfl, ⟨_, rfl⟩, _, rfl⟩
  · exact Render.exists_ok (by decide +kernel)
  · exact Render.exists_ok (by decide +kernel)

end TextTemplate
