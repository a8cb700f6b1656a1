import TextTemplate.Filter.Standard
import TextTemplate.Proofs.Alike
import TextTemplate.Proofs.Drops
import TextTemplate.Proofs.Reader

/-!
# Reading alike data in two ways

Two runs of one template begin with alike roots and with related drops, and each reads the drops in
its own way. A `Pairing` says what relates the drops and that a single read in one run is matched by
the other. It is carried here to expressions and conditions, which have alike values in both runs
(`Pairing.Pairs`). Filters are matched if they treat alike values alike (`Filter.Respects`), as the
standard ones do (`FilterTable.respects_standard`).
-/

namespace TextTemplate

/-- Two ways of reading drops, and what relates the drops of the two runs that use them. -/
structure Pairing where
  left : Reader
  right : Reader
  holds : DropStore → DropStore → Prop
  compares : ∀ {first second : DropStore}, holds first second → ∀ {a a' b b' : Data},
    a.Alike a' → b.Alike b' → first.same? a b = second.same? a' b'
  reads : ∀ {first second : DropStore}, holds first second → ∀ (id : DropId) (key : String),
    Option.Rel (fun result result' => result.1.Alike result'.1 ∧ holds result.2 result'.2)
      ((left id key).run first) ((right id key).run second)
  opens : ∀ {first second : DropStore}, holds first second → ∀ state : LoopState,
    (first.add (.loop state)).1 = (second.add (.loop state)).1 ∧
      holds (first.add (.loop state)).2 (second.add (.loop state)).2
  moves : ∀ {first second : DropStore}, holds first second → ∀ (id : DropId) (index : Nat),
    holds (first.setLoopIndex id index) (second.setLoopIndex id index)

namespace Pairing

variable {pairing : Pairing} {α β : Type} {rel : α → α → Prop} {later : β → β → Prop}

/-! ## Reading -/

section Reading

variable {first second : DropM α} {data data' root root' : Data}

/-- From related drops the two actions give related values and leave related drops, or both have no
result. -/
def Pairs (pairing : Pairing) (rel : α → α → Prop) (first second : DropM α) : Prop :=
  ∀ store store', pairing.holds store store' →
    Option.Rel (fun result result' => rel result.1 result'.1 ∧ pairing.holds result.2 result'.2)
      (first.run store) (second.run store')

theorem pairs_pure {value value' : α} (here : rel value value') :
    pairing.Pairs rel (pure value) (pure value') :=
  fun _ _ holds => .some ⟨here, holds⟩

theorem pairs_bind {next next' : α → DropM β} (pairs : pairing.Pairs rel first second)
    (pairsNext : ∀ value value', rel value value' →
      pairing.Pairs later (next value) (next' value')) :
    pairing.Pairs later (first >>= next) (second >>= next') := by
  intro store store' holds
  rw [StateT.run_bind, StateT.run_bind]
  have begun := pairs store store' holds
  generalize first.run store = result at begun ⊢
  generalize second.run store' = result' at begun ⊢
  cases begun with
  | none => exact .none
  | some here => exact pairsNext _ _ here.1 _ _ here.2

theorem pairs_read (id : DropId) (key : String) :
    pairing.Pairs Data.Alike (pairing.left id key) (pairing.right id key) :=
  fun _ _ holds => pairing.reads holds id key

theorem pairs_same {a a' b b' : Data} (alike : a.Alike a') (alike' : b.Alike b') :
    pairing.Pairs Eq (DropM.same a b) (DropM.same a' b') := by
  intro store store' holds
  rw [DropM.same_run, DropM.same_run, pairing.compares holds alike alike']
  cases store'.same? a' b' with
  | none => exact .none
  | some same => exact .some ⟨rfl, holds⟩

theorem pairs_member (alike : data.Alike data') (name : String) :
    pairing.Pairs Data.Alike (data.memberBy pairing.left name)
      (data'.memberBy pairing.right name) := by
  cases data with
  | drop id =>
    cases alike
    exact pairs_read id name
  | hash entries =>
    obtain ⟨entries', rfl, keywise⟩ := alike.of_hash
    have bound := keywise name
    unfold Data.memberBy Data.member
    dsimp only
    cases isLeft : entries.get? name with
    | none =>
      rw [isLeft] at bound
      rw [eq_none_of_rel bound, Table.size_eq fun key => isSome_eq_of_rel (keywise key)]
      exact pairs_pure (.same _)
    | some value =>
      rw [isLeft] at bound
      obtain ⟨value', isRight, here⟩ := exists_of_rel bound
      rw [isRight]
      exact pairs_pure here
  | array items =>
    obtain ⟨items', rfl, itemwise⟩ := alike.of_array
    refine pairs_pure ?_
    split
    · rw [itemwise.length_eq]
      exact .same _
    · exact Data.alike_headD itemwise
    · exact Data.alike_getLastD itemwise
    · split
      · exact alike.itemAt _
      · exact .same _
  | _ =>
    cases alike
    exact pairs_pure (.same _)

theorem pairs_index {key key' : Data} (alike : data.Alike data') (alikeKey : key.Alike key') :
    pairing.Pairs Data.Alike (data.indexBy pairing.left key)
      (data'.indexBy pairing.right key') := by
  cases key with
  | int n =>
    cases alikeKey
    cases data with
    | array items =>
      obtain ⟨items', rfl, -⟩ := alike.of_array
      exact pairs_pure (alike.itemAt _)
    | hash entries =>
      obtain ⟨entries', rfl, -⟩ := alike.of_hash
      exact pairs_member alike _
    | _ =>
      cases alike
      unfold Data.indexBy
      exact pairs_member (.same _) _
  | string name =>
    cases alikeKey
    exact pairs_member alike name
  | _ =>
    cases alikeKey <;> exact pairs_pure (.same _)

theorem pairs_anySame {needle needle' : Data} {items items' : List Data}
    (alike : needle.Alike needle') (itemwise : List.Forall₂ Data.Alike items items') :
    pairing.Pairs Eq (Data.anySame needle items) (Data.anySame needle' items') := by
  induction itemwise with
  | nil => exact pairs_pure rfl
  | cons here later ih =>
    refine pairs_bind (pairs_same here alike) fun same _ equal => ?_
    subst equal
    cases same with
    | false => exact ih
    | true => exact pairs_pure rfl

theorem pairs_containsData {needle needle' : Data} (alike : data.Alike data')
    (alike' : needle.Alike needle') :
    pairing.Pairs Eq (data.containsData needle) (data'.containsData needle') := by
  cases data with
  | array items =>
    obtain ⟨items', rfl, itemwise⟩ := alike.of_array
    exact pairs_anySame alike' itemwise
  | hash entries =>
    obtain ⟨entries', rfl, keywise⟩ := alike.of_hash
    cases alike' with
    | same =>
      refine pairs_pure ?_
      cases needle with
      | string key => exact isSome_eq_of_rel (keywise key)
      | _ => rfl
    | array | hash => exact pairs_pure rfl
  | string text =>
    cases alike
    cases alike' <;> exact pairs_pure rfl
  | _ =>
    cases alike
    exact pairs_pure rfl

theorem pairs_test (comparison : Comparison) {a a' b b' : Data} (alike : a.Alike a')
    (alike' : b.Alike b') : pairing.Pairs Eq (comparison.test a b) (comparison.test a' b') := by
  cases comparison with
  | eq => exact pairs_same alike alike'
  | ne =>
    refine pairs_bind (pairs_same alike alike') fun same _ equal => ?_
    rw [equal]
    exact pairs_pure rfl
  | contains => exact pairs_containsData alike alike'
  | _ =>
    unfold Comparison.test
    rw [alike.compare? alike']
    exact pairs_pure rfl

mutual

/-- Against alike roots an expression has alike values. -/
theorem pairs_eval (alike : root.Alike root') : (expr : Expr) →
    pairing.Pairs Data.Alike (expr.evalBy pairing.left root) (expr.evalBy pairing.right root')
  | .lookup steps => pairs_walk alike alike steps
  | .nil | .bool _ | .int _ | .float _ | .string _ => pairs_pure (.same _)

theorem pairs_walk {data data' : Data} (alikeRoot : root.Alike root') (alike : data.Alike data') :
    (steps : List Step) → pairing.Pairs Data.Alike (Step.walkBy pairing.left root data steps)
      (Step.walkBy pairing.right root' data' steps)
  | [] => pairs_pure alike
  | .key name :: rest =>
    pairs_bind (pairs_member alike name) fun _ _ alike => pairs_walk alikeRoot alike rest
  | .index key :: rest =>
    pairs_bind (pairs_eval alikeRoot key) fun _ _ alikeKey =>
      pairs_bind (pairs_index alike alikeKey) fun _ _ alike => pairs_walk alikeRoot alike rest

end

theorem pairs_evalAll (alike : root.Alike root') (exprs : List Expr) :
    pairing.Pairs (List.Forall₂ Data.Alike) (Expr.evalAllBy pairing.left root exprs)
      (Expr.evalAllBy pairing.right root' exprs) := by
  induction exprs with
  | nil => exact pairs_pure .nil
  | cons expr exprs ih =>
    refine pairs_bind (pairs_eval alike expr) fun _ _ here => ?_
    exact pairs_bind ih fun _ _ rest => pairs_pure (.cons here rest)

theorem pairs_anyEquals {subject subject' : Data} (alike : root.Alike root')
    (alikeSubject : subject.Alike subject') (exprs : List Expr) :
    pairing.Pairs Eq (Expr.anyEqualsBy pairing.left root subject exprs)
      (Expr.anyEqualsBy pairing.right root' subject' exprs) := by
  induction exprs with
  | nil => exact pairs_pure rfl
  | cons expr exprs ih =>
    refine pairs_bind (pairs_eval alike expr) fun _ _ here => ?_
    refine pairs_bind (pairs_same here alikeSubject) fun same _ equal => ?_
    subst equal
    cases same with
    | false => exact ih
    | true => exact pairs_pure rfl

theorem pairs_condition (alike : root.Alike root') (condition : Condition) :
    pairing.Pairs Eq (condition.evalBy pairing.left root)
      (condition.evalBy pairing.right root') := by
  induction condition with
  | truthy expr =>
    exact pairs_bind (pairs_eval alike expr) fun _ _ here => pairs_pure here.isTruthy
  | compare left comparison right =>
    exact pairs_bind (pairs_eval alike left) fun _ _ hereLeft =>
      pairs_bind (pairs_eval alike right) fun _ _ hereRight =>
        pairs_test comparison hereLeft hereRight
  | and left right ihLeft ihRight =>
    refine pairs_bind ihLeft fun holds _ equal => ?_
    subst equal
    cases holds with
    | false => exact pairs_pure rfl
    | true => exact ihRight
  | or left right ihLeft ihRight =>
    refine pairs_bind ihLeft fun holds _ equal => ?_
    subst equal
    cases holds with
    | false => exact ihRight
    | true => exact pairs_pure rfl

end Reading

end Pairing

/-! ## Filters -/

/-- Both computations give related values, or both fail with the same error. -/
inductive ResultsRelated {α : Type} (rel : α → α → Prop) :
    Except RenderError α → Except RenderError α → Prop
  | ok {value value' : α} (here : rel value value') : ResultsRelated rel (.ok value) (.ok value')
  | error (error : RenderError) : ResultsRelated rel (.error error) (.error error)

/-- For alike inputs and arguments the filter gives alike values or the same error. -/
def Filter.Respects (filter : Filter) : Prop :=
  ∀ input input' args args', input.Alike input' → List.Forall₂ Data.Alike args args' →
    ResultsRelated Data.Alike (filter input args) (filter input' args')

/-- All filters of the table give alike values for alike ones. -/
def FilterTable.Respects (filters : FilterTable) : Prop :=
  ∀ name filter, filters.get? name = some filter → filter.Respects

namespace ResultsRelated

variable {α β : Type} {rel : α → α → Prop} {later : β → β → Prop}
  {first second : Except RenderError α}

theorem of_eq (here : ∀ value, rel value value) (same : first = second) :
    ResultsRelated rel first second := by
  rw [same]
  cases second with
  | ok value => exact .ok (here value)
  | error error => exact .error error

theorem bind {next next' : α → Except RenderError β} (related : ResultsRelated rel first second)
    (relatedNext : ∀ value value', rel value value' →
      ResultsRelated later (next value) (next' value')) :
    ResultsRelated later (first >>= next) (second >>= next') := by
  cases related with
  | ok here => exact relatedNext _ _ here
  | error error => exact .error error

end ResultsRelated

namespace Filter

variable {input input' arg arg' : Data} {args args' : List Data}

theorem checkArity_eq (name : String) (alike : List.Forall₂ Data.Alike args args')
    (least most : Nat) : checkArity name args least most = checkArity name args' least most := by
  unfold checkArity
  rw [alike.length_eq]

theorem textOf_eq (name : String) (alike : input.Alike input') :
    textOf name input = textOf name input' := by
  unfold textOf
  rw [alike.coerceString?, alike.typeName]

theorem numeralOf_eq (name : String) (alike : input.Alike input') :
    numeralOf name input = numeralOf name input' := by
  cases alike <;> rfl

theorem related_itemsOf (name : String) (alike : input.Alike input') :
    ResultsRelated (List.Forall₂ Data.Alike) (itemsOf name input) (itemsOf name input') := by
  cases alike with
  | same => exact .of_eq List.forall₂_refl rfl
  | array itemwise => exact .ok itemwise
  | hash => exact .error _

theorem respects_nullary {apply : Data → Except RenderError Data} (name : String)
    (respects : ∀ input input', input.Alike input' →
      ResultsRelated Data.Alike (apply input) (apply input')) : (nullary name apply).Respects := by
  intro input input' args args' alike alikeArgs
  unfold nullary
  rw [checkArity_eq name alikeArgs]
  exact .bind (.of_eq (fun _ => rfl) rfl) fun _ _ (_ : () = ()) => respects _ _ alike

theorem respects_unary {apply : Data → Data → Except RenderError Data} (name : String)
    (respects : ∀ input input' arg arg', input.Alike input' → arg.Alike arg' →
      ResultsRelated Data.Alike (apply input arg) (apply input' arg')) :
    (unary name apply).Respects := by
  intro input input' args args' alike alikeArgs
  unfold unary
  rw [checkArity_eq name alikeArgs]
  exact .bind (.of_eq (fun _ => rfl) rfl) fun _ _ (_ : () = ()) =>
    respects _ _ _ _ alike (Data.alike_headD alikeArgs)

theorem respects_mapText (name : String) (change : List Char → List Char) :
    (mapText name change).Respects :=
  respects_nullary name fun _ _ alike => by
    rw [textOf_eq name alike]
    exact .of_eq .same rfl

theorem respects_append : append.Respects :=
  respects_unary _ fun _ _ _ _ alike alikeArg => by
    rw [textOf_eq _ alike, textOf_eq _ alikeArg]
    exact .of_eq .same rfl

theorem respects_prepend : prepend.Respects :=
  respects_unary _ fun _ _ _ _ alike alikeArg => by
    rw [textOf_eq _ alike, textOf_eq _ alikeArg]
    exact .of_eq .same rfl

theorem respects_replace : replace.Respects := by
  intro input input' args args' alike alikeArgs
  unfold replace
  rw [checkArity_eq _ alikeArgs, textOf_eq _ alike, textOf_eq _ (Data.alike_headD alikeArgs),
    textOf_eq _ (Data.alike_getD alikeArgs 1)]
  exact .of_eq .same rfl

theorem respects_arithmetic (name : String) (exact : Int → Int → Int)
    (rounded : Float → Float → Float) : (arithmetic name exact rounded).Respects :=
  respects_unary name fun _ _ _ _ alike alikeArg => by
    rw [numeralOf_eq name alike, numeralOf_eq name alikeArg]
    exact .of_eq .same rfl

theorem respects_size : size.Respects := by
  refine respects_nullary _ fun input input' alike => .ok ?_
  cases alike with
  | same => exact .same _
  | array itemwise =>
    dsimp only
    rw [itemwise.length_eq]
    exact .same _
  | @hash entries entries' keywise =>
    have bound := keywise "size"
    dsimp only
    rw [Table.size_eq fun key => isSome_eq_of_rel (keywise key)]
    generalize entries.get? "size" = found at bound ⊢
    generalize entries'.get? "size" = found' at bound ⊢
    cases bound with
    | none => exact .same _
    | some here => exact here

/-- The items of an array, as the filters on arrays take them, are alike. -/
theorem forall₂_items (alike : input.Alike input') :
    List.Forall₂ Data.Alike (input.array?.getD []) (input'.array?.getD []) := by
  cases alike with
  | same => exact List.forall₂_refl _
  | array itemwise => exact itemwise
  | hash => exact .nil

theorem respects_first : first.Respects :=
  respects_nullary _ fun _ _ alike => .ok (Data.alike_headD (forall₂_items alike))

theorem respects_last : last.Respects :=
  respects_nullary _ fun _ _ alike => .ok (Data.alike_getLastD (forall₂_items alike))

theorem respects_join : join.Respects := by
  intro input input' args args' alike alikeArgs
  have shown (separator : String) : ResultsRelated Data.Alike
      (do return .string (separator.intercalate ((← itemsOf "join" input).map Data.display)))
      (do return .string (separator.intercalate ((← itemsOf "join" input').map Data.display))) := by
    refine .bind (related_itemsOf _ alike) fun items items' itemwise => .ok ?_
    have texts : items.map Data.display = items'.map Data.display := by
      induction itemwise with
      | nil => rfl
      | cons here later ih => rw [List.map_cons, List.map_cons, here.display, ih]
    rw [texts]
    exact .same _
  unfold join
  rw [checkArity_eq _ alikeArgs]
  refine .bind (.of_eq (fun _ => rfl) rfl) fun _ _ (_ : () = ()) => ?_
  cases alikeArgs with
  | nil => exact shown " "
  | cons here later =>
    dsimp only
    rw [textOf_eq _ here]
    exact .bind (.of_eq (fun _ => rfl) rfl) fun separator _ (same : separator = _) => by
      rw [← same]
      exact shown separator

theorem respects_reverse : reverse.Respects :=
  respects_nullary _ fun _ _ alike => .bind (related_itemsOf _ alike) fun _ _ itemwise =>
    .ok (.array (List.rel_reverse itemwise))

theorem isBlank_eq (alike : input.Alike input') : isBlank input = isBlank input' := by
  cases alike with
  | array itemwise => cases itemwise <;> rfl
  | _ => rfl

theorem respects_default : default.Respects := by
  refine respects_unary _ fun input input' arg arg' alike alikeArg => .ok ?_
  rw [isBlank_eq alike]
  split
  · exact alikeArg
  · exact alike

end Filter

theorem FilterTable.respects_standard : standard.Respects := by
  intro name filter known
  have member := Table.mem_of_get?_ofList known
  simp only [List.mem_cons, Prod.mk.injEq, List.not_mem_nil, or_false] at member
  rcases member with ⟨-, rfl⟩ | ⟨-, rfl⟩ | ⟨-, rfl⟩ | ⟨-, rfl⟩ | ⟨-, rfl⟩ | ⟨-, rfl⟩ | ⟨-, rfl⟩ |
    ⟨-, rfl⟩ | ⟨-, rfl⟩ | ⟨-, rfl⟩ | ⟨-, rfl⟩ | ⟨-, rfl⟩ | ⟨-, rfl⟩ | ⟨-, rfl⟩ | ⟨-, rfl⟩ | ⟨-, rfl⟩
  · exact Filter.respects_append
  · exact Filter.respects_prepend
  · exact Filter.respects_mapText _ _
  · exact Filter.respects_mapText _ _
  · exact Filter.respects_mapText _ _
  · exact Filter.respects_mapText _ _
  · exact Filter.respects_size
  · exact Filter.respects_first
  · exact Filter.respects_last
  · exact Filter.respects_join
  · exact Filter.respects_reverse
  · exact Filter.respects_arithmetic _ _ _
  · exact Filter.respects_arithmetic _ _ _
  · exact Filter.respects_arithmetic _ _ _
  · exact Filter.respects_default
  · exact Filter.respects_replace

end TextTemplate
