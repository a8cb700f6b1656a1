import TextTemplate.Proofs.Equality
import TextTemplate.Proofs.Regime

/-!
# What the caches of drops change

A read answers what its load gave, or the cached entry that equals it (`DropM.serves_of_load`).
Where any two values that a source answers for a key are the same or differ outright, without two
drops being compared (`Drop.Steady`), a read answers what it loaded (`DropM.read_eq_direct`).
-/

namespace TextTemplate

/-- Reads a key of a drop by loading it, whatever the cache holds. The answer is cached, since the
caches decide which drops are equal. -/
def DropM.direct (id : DropId) (key : String) : DropM Data := do
  let loaded ← load id key
  remember id key loaded
  return loaded

/-- Two values that the drop's source can answer for one key are related or differ outright, and
the cache holds such answers only. -/
structure Drop.Steady (rel : Data → Data → Prop) (drop : Drop) : Prop where
  honest : drop.Honest
  apart : ∀ key first second, drop.source.Answers key first → drop.source.Answers key second →
    rel first second ∨ first.Apart second

/-! ## Steady drops -/

section Steady

variable {rel : Data → Data → Prop}

theorem Drop.steady_stable : Drop.Stable fun _ drop => drop.Steady rel where
  loads key steady :=
    ⟨steady.honest.load key, fun other first second answers answersSecond =>
      steady.apart other first second (Drop.answers_load.1 answers)
        (Drop.answers_load.1 answersSecond)⟩
  remembers steady answers := ⟨steady.honest.remember answers, steady.apart⟩

theorem Drop.steady_loop (refl : ∀ data, rel data data) (state : LoopState) {cache : Table Data}
    (honest : (Drop.mk (.loop state) cache).Honest) :
    (Drop.mk (.loop state) cache).Steady rel := by
  refine ⟨honest, ?_⟩
  rintro key _ _ ⟨first, rfl⟩ ⟨second, rfl⟩
  rcases state.answer_apart key first second with same | differs
  · rw [same]
    exact .inl (refl _)
  · exact .inr differs

theorem Drop.steady_setIndex (refl : ∀ data, rel data data) {drop : Drop} (index : Nat)
    (steady : drop.Steady rel) : (drop.setIndex index).Steady rel := by
  obtain ⟨source, cache⟩ := drop
  cases source with
  | host object loads => exact steady
  | loop state => exact Drop.steady_loop refl _ steady.honest

end Steady

namespace DropM

variable {store : DropStore} {id : DropId} {key : String}

theorem direct_run {loaded : Data} {counted : DropStore}
    (run : (load id key).run store = some (loaded, counted)) :
    (direct id key).run store =
      some (loaded, counted.update id fun drop => drop.remember key loaded) := by
  have read : (direct id key).run store = ((load id key).run store).bind fun result =>
      some (result.1, result.2.update id fun drop => drop.remember key result.1) := rfl
  rw [read, run, Option.bind_some]

theorem direct_missing (missing : store.get? id = none) :
    (direct id key).run store = some (.nil, store) := by
  have run : (load id key).run store = _ := load_run
  rw [missing] at run
  rw [direct_run run, DropStore.update_self]
  intro drop found
  rw [missing] at found
  cases found

theorem direct_eq {drop : Drop} (found : store.get? id = some drop) :
    (direct id key).run store =
      let loaded := (drop.source.load key).1
      some (loaded, (store.update id fun drop => drop.load key).update id fun drop =>
        drop.remember key loaded) := by
  have run : (load id key).run store = _ := load_run
  rw [found] at run
  exact direct_run run

theorem exists_load (store : DropStore) (id : DropId) (key : String) :
    ∃ loaded counted, (load id key).run store = some (loaded, counted) := by
  rw [load_run]
  cases store.get? id with
  | none => exact ⟨_, _, rfl⟩
  | some drop => exact ⟨_, _, rfl⟩

/-- A read has an answer if comparing the cached entry with what was loaded ends. -/
theorem exists_read {loaded : Data} {counted : DropStore}
    (run : (load id key).run store = some (loaded, counted))
    (ends : ∀ entry, (counted.cache id).get? key = some entry →
      (counted.same? entry loaded).isSome = true) :
    ∃ answer last, (read id key).run store = some (answer, last) := by
  rw [read_of_load run]
  cases cached : (counted.cache id).get? key with
  | none => exact ⟨_, _, rfl⟩
  | some entry =>
    obtain ⟨same, compared⟩ := Option.isSome_iff_exists.1 (ends entry cached)
    dsimp only
    rw [compared]
    cases same with
    | false => exact ⟨_, _, rfl⟩
    | true => exact ⟨_, _, rfl⟩

/-- The answer of a read is what was loaded, or the cached entry, which equals it. -/
theorem serves_of_load {loaded answer : Data} {counted last : DropStore}
    (run : (load id key).run store = some (loaded, counted))
    (served : (read id key).run store = some (answer, last)) :
    answer = loaded ∨
      (counted.cache id).get? key = some answer ∧ counted.same? answer loaded = some true := by
  rw [read_of_load run] at served
  cases cached : (counted.cache id).get? key with
  | none =>
    rw [cached] at served
    cases served
    exact .inl rfl
  | some entry =>
    rw [cached] at served
    obtain ⟨same, compared, isServed⟩ := Option.map_eq_some_iff.1 served
    cases same with
    | false =>
      cases isServed
      exact .inl rfl
    | true =>
      cases isServed
      exact .inr ⟨rfl, compared⟩

/-- Where all drops are steady a read answers what it loaded. -/
theorem read_eq_direct (steady : store.All fun _ drop => drop.Steady Eq) :
    (read id key).run store = (direct id key).run store := by
  cases found : store.get? id with
  | none => rw [read_missing found, direct_missing found]
  | some drop =>
    rw [read_eq found, direct_eq found]
    cases cached : drop.cache.get? key with
    | none => rfl
    | some entry =>
      obtain ⟨honest, apart⟩ := steady id drop found
      let counted := store.update id fun drop => drop.load key
      have differs := apart key entry _ (honest key entry cached) (drop.source.answers_load key)
      obtain ⟨same, compared, served⟩ := counted.same?_of_apart differs
      generalize (drop.source.load key).1 = loaded at compared served ⊢
      show Option.map _ (counted.same? entry loaded) = _
      rw [compared]
      cases same with
      | false => rfl
      | true =>
        cases served rfl
        -- caching the entry once more changes nothing
        have again : (counted.update id fun drop => drop.remember key entry) = counted := by
          refine DropStore.update_self fun drop held => ?_
          rw [DropStore.get?_update, if_pos rfl, found] at held
          cases held
          exact congrArg (Drop.mk _) (Table.set_self cached)
        show some (entry, counted) = some (entry, counted.update id _)
        rw [again]

end DropM

/-- Rendering over steady drops, where reading is loading. -/
def Regime.steady : Regime where
  read := DropM.direct
  holds _ drop := drop.Steady Eq
  base := 0
  Total := False
  stable := Drop.steady_stable
  agrees steady _ _ := DropM.read_eq_direct steady
  compares := False.elim
  opens _ _ _ _ := Drop.steady_loop (fun _ => rfl) _ (Drop.honest_empty _)
  moves index _ steady := Drop.steady_setIndex (fun _ => rfl) index steady

end TextTemplate
