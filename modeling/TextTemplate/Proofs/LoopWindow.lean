import TextTemplate.Proofs.Evolution
import TextTemplate.Proofs.Sequences
import TextTemplate.Proofs.Visits

/-!
# A loop visits its window

When a loop is entered its source spans a list of items, and two modifiers cut a window out of it
(`LoopSource.Spans`, `LoopHeader.Gives`). `LoopHeader.Passes` says what it is to go through a
window: an iteration for every item, in order, each beginning with the item bound, up to an
iteration that fails or at whose end a `break` is pending. A loop with an empty window renders its
other body and nothing else; any other loop goes through its window, whatever its body does to the
data (`Node.loop_visits_window`).
-/

namespace TextTemplate

/-- The entries as pairs, in increasing order of their keys. -/
def Data.pairsByKey (entries : List (String × Data)) : List Data :=
  (entries.mergeSort fun left right => left.1 ≤ right.1).map fun (key, value) =>
    .array [.string key, value]

/-- What a loop over a value goes through without modifiers: the items of an array, the entries of a
hash as pairs in increasing order of their keys, a string once, and nothing for other values. -/
def Data.natural : Data → List Data
  | .array items => items
  | .hash entries => pairsByKey entries.toList
  | .string text => [.string text]
  | _ => []

/-- Against `root` the source evaluates to the items, between two states of the drops. A range over
all integers is left out. -/
inductive LoopSource.Spans (root : Data) :
    LoopSource → DropStore → List Data → DropStore → Prop
  | collection {expr : Expr} {value : Data} {first last : DropStore}
      (run : (expr.eval root).run first = some (value, last)) :
      Spans root (.collection expr) first value.natural last
  | range {lower upper : Expr} {lowest highest : Data} {least most : Int64}
      {first middle last : DropStore}
      (runLower : (lower.eval root).run first = some (lowest, middle))
      (isLeast : lowest.toInteger? = some least)
      (runUpper : (upper.eval root).run middle = some (highest, last))
      (isMost : highest.toInteger? = some most)
      (notAll : ¬ (least = Int64.minValue ∧ most = Int64.maxValue)) :
      Spans root (.range lower upper) first (Sequence.integers least most) last

/-- Against `root` the modifier has the number as its value, between two states of the drops: none
if it is absent or nil, and zero if it is negative. -/
inductive LoopHeader.Gives (root : Data) :
    Option Expr → DropStore → Option Nat → DropStore → Prop
  | absent {store : DropStore} : Gives root none store none store
  | nil {expr : Expr} {first last : DropStore}
      (run : (expr.eval root).run first = some (.nil, last)) :
      Gives root (some expr) first none last
  | number {expr : Expr} {value : Data} {n : Int64} {first last : DropStore}
      (run : (expr.eval root).run first = some (value, last))
      (isNumber : value.toInteger? = some n) :
      Gives root (some expr) first (some n.toInt.toNat) last

/-- In the state `start` the body is rendered for the item. The loop's variable is bound to it, or
to the loop's drop if it is called `forloop`. Besides these two bindings only the loop's drop,
which tells the number of the iteration, is not as it was. -/
structure LoopHeader.Starts (header : LoopHeader) (id : DropId) (index : Nat) (item : Data)
    (before start : Context) : Prop where
  item : start.root.binding? header.itemName =
    some (if header.itemName = Context.forloopKey then .drop id else item)
  forloop : start.root.binding? Context.forloopKey = some (.drop id)
  others : ∀ key, key ≠ header.itemName → key ≠ Context.forloopKey →
    start.root.binding? key = before.root.binding? key
  rest : start =
    { before with root := start.root, drops := before.drops.setLoopIndex id index }

/-- From a state to another the body is rendered for one item after the other, the first of them
in the iteration `index`. It ends early only after an iteration that fails or leaves a `break`
pending. The result is the texts put together, or the error. -/
inductive LoopHeader.Passes (header : LoopHeader) (id : DropId) (body : Render String) :
    Nat → List Data → Context → Except RenderError String → Context → Prop
  | done {index : Nat} {context : Context} : Passes header id body index [] context (.ok "") context
  | next {index : Nat} {item : Data} {items : List Data} {context start after last : Context}
      {text : String} {result : Except RenderError String}
      (starts : header.Starts id index item context start) (run : body start = .ok text after)
      (goesOn : after.interrupt ≠ some .breakLoop)
      (later : Passes header id body (index + 1) items { after with interrupt := none } result
        last) :
      Passes header id body index (item :: items) context (result.map (text ++ ·)) last
  | stopped {index : Nat} {item : Data} {items : List Data} {context start after : Context}
      {text : String} (starts : header.Starts id index item context start)
      (run : body start = .ok text after) (breaks : after.interrupt = some .breakLoop) :
      Passes header id body index (item :: items) context (.ok text)
        { after with interrupt := none }
  | failed {index : Nat} {item : Data} {items : List Data} {context start after : Context}
      {error : RenderError} (starts : header.Starts id index item context start)
      (run : body start = .error error after) :
      Passes header id body index (item :: items) context (.error error) after

theorem Render.takeInterrupt_eq (context : Context) :
    takeInterrupt context = .ok context.interrupt { context with interrupt := none } :=
  rfl

namespace LoopHeader

variable {header : LoopHeader} {root : Data} {context : Context} {entries : Table Data}
  {first last : DropStore} {id : DropId} {body : Render String}

/-! ## The window -/

/-- Sorting the entries of a hash by their keys gives its listing by name, in whatever order they
came in. -/
theorem mergeSort_toList (entries : Table Data) :
    entries.toList.mergeSort (fun left right => left.1 ≤ right.1) = entries.entries := by
  have trans (x y z : String × Data) (before : decide (x.1 ≤ y.1) = true)
      (after : decide (y.1 ≤ z.1) = true) : decide (x.1 ≤ z.1) = true :=
    decide_eq_true (String.le_trans (of_decide_eq_true before) (of_decide_eq_true after))
  have total (x y : String × Data) : (decide (x.1 ≤ y.1) || decide (y.1 ≤ x.1)) = true := by
    rcases String.le_total x.1 y.1 with le | le <;> simp [le]
  have perm := List.mergeSort_perm entries.toList fun left right => decide (left.1 ≤ right.1)
  have distinct := List.pairwise_map.1 ((perm.map Prod.fst).nodup_iff.2 entries.nodup_toList)
  have ordered := List.pairwise_mergeSort trans total entries.toList
  refine (Table.entries_eq_of_perm perm ?_).symm
  refine (ordered.and distinct).imp fun both => ?_
  exact Std.lt_of_le_of_ne (of_decide_eq_true both.1) both.2

theorem toList_ofData (data : Data) : (Sequence.ofData data).toList = data.natural := by
  cases data with
  | hash entries =>
    rw [Sequence.ofData, Sequence.toList_ofList, Data.natural, Data.pairsByKey, mergeSort_toList]
  | _ => exact Sequence.toList_ofList _

theorem boundOf_eq {data : Data} {n : Int64} (isInteger : data.toInteger? = some n) :
    boundOf data = .ok n := by
  unfold boundOf
  rw [isInteger]

theorem natural_of_spans {items : List Data}
    (spans : header.source.Spans root context.drops items last) :
    ∃ natural, header.natural root context = .ok natural { context with drops := last } ∧
      natural.toList = items := by
  unfold natural
  generalize header.source = source at spans
  cases spans with
  | @collection expr value _ _ run =>
    exact ⟨.ofData value, Render.bind_of_ok (Render.ofDrops_some run), toList_ofData value⟩
  | @range _ _ _ _ least most _ middle _ runLower isLeast runUpper isMost notAll =>
    refine ⟨.ofRange least most, ?_, Sequence.toList_ofRange notAll⟩
    have upperRuns : Render.ofDrops _ { context with drops := middle } = _ :=
      Render.ofDrops_some runUpper
    simp only [Render.bind_of_ok (Render.ofDrops_some runLower), boundOf_eq isLeast,
      Render.ofExcept, pure_bind]
    simp only [Render.bind_of_ok upperRuns, boundOf_eq isMost, pure_bind]
    rfl

theorem modifier_of_gives {name : String} {expr : Option Expr} {n : Option Nat}
    (gives : Gives root expr context.drops n last) :
    modifier name expr root context = .ok n { context with drops := last } := by
  cases gives with
  | absent => rfl
  | nil run => exact Render.bind_of_ok (Render.ofDrops_some run)
  | @number _ value n _ _ run isNumber =>
    have modifies : modifierOf name value = .ok (some n.toInt.toNat) := by
      unfold modifierOf
      split
      · cases isNumber
      · rw [isNumber]
    refine (Render.bind_of_ok (Render.ofDrops_some run)).trans ?_
    rw [modifies]
    rfl

theorem toList_window (natural : Sequence) (offset limit : Option Nat) (reversed : Bool) :
    (if reversed then (natural.cut (offset.getD 0) limit).reverse
      else natural.cut (offset.getD 0) limit).toList =
        windowOf natural.toList offset limit reversed := by
  cases reversed with
  | false => exact natural.toList_cut offset limit
  | true =>
    simp only [if_true, Sequence.toList_reverse, Sequence.toList_cut]
    rfl

/-- Entering a loop reads drops only, and fixes the items that it goes through. -/
theorem window_of_spans {items : List Data} {offset limit : Option Nat}
    {afterSource afterOffset : DropStore}
    (spans : header.source.Spans context.root context.drops items afterSource)
    (skips : Gives context.root header.offset afterSource offset afterOffset)
    (caps : Gives context.root header.limit afterOffset limit last) :
    ∃ window, header.window context = .ok window { context with drops := last } ∧
      window.toList = windowOf items offset limit header.reversed := by
  obtain ⟨natural, run, rfl⟩ := natural_of_spans spans
  refine ⟨_, ?_, toList_window natural offset limit header.reversed⟩
  unfold window
  have runOffset : modifier "offset" header.offset context.root
      { context with drops := afterSource } = .ok offset { context with drops := afterOffset } :=
    modifier_of_gives skips
  have runLimit : modifier "limit" header.limit context.root
      { context with drops := afterOffset } = .ok limit { context with drops := last } :=
    modifier_of_gives caps
  have seen : (get : Render Context) context = .ok context context := rfl
  rw [Render.bind_of_ok seen]
  simp only [Render.bind_of_ok run]
  simp only [Render.bind_of_ok runOffset, Render.bind_of_ok runLimit]
  cases header.reversed <;> rfl

/-! ## Iterations -/

theorem assign_of_hash {key : String} {data : Data} (isHash : context.root = .hash entries) :
    Render.assign key data context =
      .ok () { context with root := .hash (entries.set key data) } := by
  unfold Render.assign Context.assign
  rw [isHash]
  rfl

/-- An iteration begins if the root is a hash, and leaves a hash. -/
theorem exists_starts (header : LoopHeader) (id : DropId) (isHash : context.root = .hash entries)
    (index : Nat) (item : Data) :
    ∃ start left, header.beginIteration id index item context = .ok () start ∧
      header.Starts id index item context start ∧ start.root = .hash left := by
  let bound := entries.set header.itemName item
  let numbered := { context with drops := context.drops.setLoopIndex id index }
  let start := { numbered with root := .hash (bound.set Context.forloopKey (.drop id)) }
  have bindItem : Render.assign header.itemName item numbered =
      .ok () { numbered with root := .hash bound } := assign_of_hash isHash
  have bindForloop : Render.assign Context.forloopKey (.drop id)
      { numbered with root := .hash bound } = .ok () start := assign_of_hash rfl
  have begins : header.beginIteration id index item context = .ok () start :=
    (Render.bind_of_ok bindItem).trans bindForloop
  obtain ⟨-, forloop, here⟩ := beginIteration_eq_ok begins
  refine ⟨start, _, begins, ⟨here, forloop, fun key other free => ?_, rfl⟩, rfl⟩
  show (bound.set Context.forloopKey (.drop id)).get? key = _
  rw [Table.get?_set, if_neg free, Table.get?_set, if_neg other, isHash]
  rfl

section

variable {window : Sequence} {remaining index : Nat} {out text : String} {start after : Context}

theorem iterate_failed {error : RenderError}
    (begins : header.beginIteration id index (window.item index) context = .ok () start)
    (run : body start = .error error after) :
    header.iterate id window body (remaining + 1) index out context = .error error after := by
  unfold iterate
  rw [Render.bind_of_ok begins, Render.bind_of_error run]

theorem iterate_stopped
    (begins : header.beginIteration id index (window.item index) context = .ok () start)
    (run : body start = .ok text after) (breaks : after.interrupt = some .breakLoop) :
    header.iterate id window body (remaining + 1) index out context =
      .ok (out ++ text) { after with interrupt := none } := by
  unfold iterate
  rw [Render.bind_of_ok begins, Render.bind_of_ok run,
    Render.bind_of_ok (Render.takeInterrupt_eq after), breaks]
  rfl

theorem iterate_next
    (begins : header.beginIteration id index (window.item index) context = .ok () start)
    (run : body start = .ok text after) (goesOn : after.interrupt ≠ some .breakLoop) :
    header.iterate id window body (remaining + 1) index out context =
      header.iterate id window body remaining (index + 1) (out ++ text)
        { after with interrupt := none } := by
  rw [iterate, Render.bind_of_ok begins, Render.bind_of_ok run,
    Render.bind_of_ok (Render.takeInterrupt_eq after)]
  cases signal : after.interrupt with
  | none => rfl
  | some interrupt =>
    cases interrupt with
    | breakLoop => exact absurd signal goesOn
    | continueLoop => rfl

end

/-- The iterations that are left, from a state with a hash for root. -/
theorem passes_iterate (header : LoopHeader) (id : DropId) (window : Sequence)
    (keeps : body.KeepsHash) (remaining index : Nat) (out : String)
    (within : index + remaining = window.length) (isHash : context.root = .hash entries) :
    ∃ result last, header.Passes id body index (window.toList.drop index) context result last ∧
      header.iterate id window body remaining index out context =
        Render.ofExcept (result.map (out ++ ·)) last := by
  induction remaining generalizing index out context entries with
  | zero =>
    have empty : window.toList.drop index = [] := List.drop_eq_nil_of_le (by simp; omega)
    rw [empty]
    refine ⟨.ok "", context, .done, ?_⟩
    rw [Except.map, String.append_empty]
    rfl
  | succ remaining ih =>
    have inside : index < window.toList.length := by simp; omega
    have split : window.toList.drop index =
        window.item index :: window.toList.drop (index + 1) := by
      rw [List.drop_eq_getElem_cons inside]
      simp [Sequence.toList]
    obtain ⟨start, left, begins, starts, isLeft⟩ :=
      header.exists_starts id isHash index (window.item index)
    rw [split]
    cases run : body start with
    | error error after =>
      exact ⟨.error error, after, .failed starts run, iterate_failed begins run⟩
    | ok text after =>
      obtain ⟨later, isLater⟩ := keeps start left isLeft
      rw [Render.stateAfter_ok run] at isLater
      by_cases breaks : after.interrupt = some .breakLoop
      · exact ⟨.ok text, _, .stopped starts run breaks, iterate_stopped begins run breaks⟩
      · have cleared : { after with interrupt := none }.root = .hash later := isLater
        obtain ⟨result, last, passes, rest⟩ := ih (index + 1) (out ++ text) (by omega) cleared
        have joined : (result.map (text ++ ·)).map (out ++ ·) = result.map (out ++ text ++ ·) := by
          cases result <;> simp [Except.map, String.append_assoc]
        refine ⟨_, last, .next starts run breaks passes, ?_⟩
        rw [joined, ← rest, iterate_next begins run breaks]

end LoopHeader

namespace Node

/-- A loop whose window is empty renders its other body, if there is one, with no binding made. Any
other loop goes through its window, which is fixed when the loop is entered, and never renders its
other body. The body may do what it likes to the data. -/
theorem loop_visits_window (filters : FilterTable) (header : LoopHeader) (body : List Node)
    {context : Context} {entries : Table Data} (isHash : context.root = .hash entries)
    {items : List Data} {offset limit : Option Nat}
    {afterSource afterOffset drops : DropStore}
    (spans : header.source.Spans context.root context.drops items afterSource)
    (skips : LoopHeader.Gives context.root header.offset afterSource offset afterOffset)
    (caps : LoopHeader.Gives context.root header.limit afterOffset limit drops) :
    let window := windowOf items offset limit header.reversed
    (window = [] → ∀ otherwise, (Node.loop header body otherwise).render filters context =
      renderOtherwise filters otherwise { context with drops }) ∧
    (window ≠ [] → ∃ id added result last,
      LoopHeader.addForloop window.length { context with drops } = .ok id added ∧
      header.Passes id (renderBody filters "" body) 0 window
        (added.enterLoop header.itemName id).2 result last ∧
      ∀ otherwise, (Node.loop header body otherwise).render filters context =
        Render.ofExcept result (last.leaveLoop (added.enterLoop header.itemName id).1)) := by
  obtain ⟨window, run, same⟩ := LoopHeader.window_of_spans spans skips caps
  rw [← same]
  refine ⟨fun empty otherwise => ?_, fun nonempty => ?_⟩
  · have length : window.length = 0 := by
      rw [← Sequence.length_toList, empty, List.length_nil]
    show header.render _ _ context = _
    unfold LoopHeader.render
    rw [Render.bind_of_ok run, if_pos length]
  · have length : window.length ≠ 0 := by
      rw [← Sequence.length_toList]
      exact fun none => nonempty (List.length_eq_zero_iff.1 none)
    obtain ⟨id, added, adds, isAdded⟩ : ∃ id added,
        LoopHeader.addForloop window.length { context with drops } = .ok id added ∧
          added.root = .hash entries := ⟨_, _, rfl, isHash⟩
    have entered : (added.enterLoop header.itemName id).2.root = .hash entries := isAdded
    obtain ⟨result, last, passes, iterates⟩ :=
      header.passes_iterate id window (keepsHash_renderBody filters "" body) window.length 0 ""
        (Nat.zero_add _) entered
    have whole : result.map ("" ++ ·) = result := by
      cases result <;> simp [Except.map]
    rw [whole] at iterates
    refine ⟨id, added, result, last, by rwa [Sequence.length_toList], passes, fun otherwise => ?_⟩
    show header.render _ _ context = _
    unfold LoopHeader.render
    rw [Render.bind_of_ok run, if_neg length, Render.bind_of_ok adds]
    cases result with
    | ok text => exact Render.withLoop_ok iterates
    | error error => exact Render.withLoop_error iterates

/-- A loop over a hash, the last entry first and the first entry left out, whose body overwrites the
hash. -/
theorem loop_visits_window_overwritten :
    let header : LoopHeader :=
      ⟨"pair", .collection (.lookup [.key "h"]), true, some (.int 1), none⟩
    let body : List Node := [.assign "h" ⟨.nil, []⟩, .object ⟨.lookup [.key "pair"], []⟩]
    ∃ id start last, header.Passes id (renderBody .empty "" body) 0
      [.array [.string "c", .int 3], .array [.string "b", .int 2]] start (.ok "c3b2") last := by
  intro header body
  let inner : Data := .hash (.ofList [("c", .int 3), ("a", .int 1), ("b", .int 2)])
  let context := Context.start (.hash (.ofList [("h", inner)])) .empty
  have isHash : context.root = .hash (.ofList [("h", inner)]) := rfl
  have window : windowOf inner.natural (some (Int64.toInt 1).toNat) none true =
      [.array [.string "c", .int 3], .array [.string "b", .int 2]] := by
    rw [← LoopHeader.toList_ofData]
    cbv
  have visits := (loop_visits_window .empty header body isHash (.collection rfl) (.number rfl rfl)
    .absent).2
  rw [show header.reversed = true from rfl, window] at visits
  obtain ⟨id, added, result, last, -, passes, renders⟩ := visits (List.cons_ne_nil _ _)
  obtain ⟨final, shown⟩ : ∃ final,
      (Node.loop header body none).render .empty context = .ok "c3b2" final :=
    Render.exists_ok (by decide +kernel)
  rw [renders none] at shown
  cases result with
  | error error => cases shown
  | ok text =>
    cases shown
    exact ⟨_, _, _, passes⟩

/-- The variable of a loop that is called `forloop` is bound to the loop's drop, which writes
nothing, and not to the item. And a loop that is entered with a `break` pending stops after its
first iteration, whose body need not have asked for it. -/
theorem loop_hides_item_or_stops :
    let text : Data := .string "x"
    let named (name : String) : Node :=
      .loop ⟨name, .collection (.lookup [.key "a"]), false, none, none⟩ [.text "-"] none
    let shows (name : String) : Node :=
      .loop ⟨name, .collection (.lookup [.key "a"]), false, none, none⟩
        [.object ⟨.lookup [.key name], []⟩] none
    let context := Context.start (.hash (.ofList [("a", .array [text, text])])) .empty
    (∃ last, (shows "item").render .empty context = .ok "xx" last) ∧
      (∃ last, (shows "forloop").render .empty context = .ok "" last) ∧
      ∃ last, (named "item").render .empty { context with interrupt := some .breakLoop } =
        .ok "-" last := by
  intro text named shows context
  refine ⟨?_, ?_, ?_⟩ <;> exact Render.exists_ok (by decide +kernel)

end Node

end TextTemplate
