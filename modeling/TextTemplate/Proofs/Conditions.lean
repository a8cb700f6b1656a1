import TextTemplate.Proofs.Drops
import TextTemplate.Proofs.LexModes
import TextTemplate.Proofs.Reading.Conditions

/-!
# Conditions nest to the right

The two joints have one precedence. What the parser accepts is a chain of leaves nested to the right
(`Condition.LeftLeaves`), and such a chain is decided by its leaves in their order: `Joint.Looked`
says how far a chain is looked at, `Condition.Decides` what a leaf evaluates to, and
`Condition.fold` what the chain comes to (`Condition.chain_nests_right`).
-/

namespace TextTemplate

open Token (IsLexeme)

/-! ## What the parser accepts -/

namespace Condition

/-- A condition without a joint. -/
def IsLeaf : Condition → Prop
  | truthy _ | compare .. => True
  | and .. | or .. => False

/-- Each joint in the condition has a leaf on its left. -/
def LeftLeaves : Condition → Prop
  | truthy _ | compare .. => True
  | and left right | or left right => left.IsLeaf ∧ left.LeftLeaves ∧ right.LeftLeaves

theorem IsLeaf.leftLeaves {condition : Condition} (isLeaf : condition.IsLeaf) :
    condition.LeftLeaves := by
  cases condition with
  | truthy | compare => trivial
  | and | or => exact isLeaf.elim

end Condition

namespace Parser

variable {α β : Type} {P : α → Prop} {Q : β → Prop} {parser : Parser α}

/-- Whatever the parser returns has the property. -/
def Produces (P : α → Prop) (parser : Parser α) : Prop :=
  ∀ cursor value next, parser.run cursor = .ok value next → P value

theorem produces_any (parser : Parser α) : Produces (fun _ => True) parser :=
  fun _ _ _ _ => trivial

theorem produces_pure {value : α} (holds : P value) : Produces P (pure value) := by
  rintro _ _ _ ⟨⟩
  exact holds

theorem produces_bind {next : α → Parser β} (first : Produces P parser)
    (later : ∀ value, P value → Produces Q (next value)) : Produces Q (parser >>= next) := by
  intro cursor value last run
  change EStateM.bind parser next cursor = .ok value last at run
  unfold EStateM.bind at run
  cases ran : parser cursor with
  | error error middle =>
    rw [ran] at run
    cases run
  | ok read middle =>
    rw [ran] at run
    exact later read (first cursor read middle ran) middle value last run

theorem produces_failHere (message : String) : Produces P (failHere message : Parser α) :=
  fun _ _ _ run => nomatch run

end Parser

namespace Condition

open TextTemplate.Parser (Produces produces_any produces_pure produces_bind produces_failHere)

theorem produces_parseLeaf : Produces IsLeaf parseLeaf := by
  refine produces_bind (produces_any _) fun left _ => produces_bind (produces_any _) fun token _ => ?_
  cases token with
  | none => exact produces_pure trivial
  | some token =>
    dsimp only
    split
    · exact produces_failHere _
    · exact produces_bind (produces_any _) fun right _ => produces_pure trivial

theorem produces_parseChain (fuel : Nat) : Produces LeftLeaves (parseChain fuel) := by
  induction fuel with
  | zero => exact fun cursor value next run => (produces_parseLeaf cursor value next run).leftLeaves
  | succ fuel ih =>
    refine produces_bind produces_parseLeaf fun leaf isLeaf => ?_
    refine produces_bind (produces_any _) fun isAnd _ => ?_
    split
    · exact produces_bind ih fun right later => produces_pure ⟨isLeaf, isLeaf.leftLeaves, later⟩
    refine produces_bind (produces_any _) fun isOr _ => ?_
    split
    · exact produces_bind ih fun right later => produces_pure ⟨isLeaf, isLeaf.leftLeaves, later⟩
    · exact produces_pure isLeaf.leftLeaves

theorem produces_parse : Produces LeftLeaves parse := by
  refine produces_bind (produces_any _) fun cursor _ => ?_
  split
  · exact produces_failHere _
  · exact produces_bind (produces_parseChain _) fun condition later =>
      produces_bind (produces_any _) fun _ _ => produces_pure later

end Condition

/-! ## What a leaf evaluates to -/

theorem Text.hasInfix_iff {needle cs : List Char} : hasInfix needle cs = true ↔ needle <:+: cs := by
  induction cs with
  | nil => simp [hasInfix]
  | cons c cs ih =>
    unfold hasInfix
    rw [Bool.or_eq_true, ih, List.isPrefixOf_iff_prefix, List.infix_cons_iff]

namespace Data

/-- Items are compared with the needle one after the other: up to one that equals it, or all of them
in vain. -/
inductive Searched (store : DropStore) (needle : Data) : List Data → Bool → Prop
  | nil : Searched store needle [] false
  | here {item : Data} {items : List Data} (same : store.same? item needle = some true) :
      Searched store needle (item :: items) true
  | on {item : Data} {items : List Data} {found : Bool}
      (differs : store.same? item needle = some false) (later : Searched store needle items found) :
      Searched store needle (item :: items) found

/-- What it says of a value that it contains another one: an array has an equal item, a hash has the
key, and a string has the text of what is not nil. Nothing else contains anything. -/
def Contains (store : DropStore) (holds : Bool) : Data → Data → Prop
  | array items, needle => Searched store needle items holds
  | hash entries, string key => holds = true ↔ ∃ value, entries.get? key = some value
  | string text, needle => holds = true ↔
      needle ≠ nil ∧ ∃ part, needle.coerceString? = some part ∧ part.toList <:+: text.toList
  | _, _ => holds = false

variable {store last : DropStore} {holds : Bool} {needle : Data} {items : List Data}

theorem run_anySame :
    (anySame needle items).run store = some (holds, last) ↔
      Searched store needle items holds ∧ last = store := by
  induction items with
  | nil =>
    constructor
    · rintro ⟨⟩
      exact ⟨.nil, rfl⟩
    · rintro ⟨⟨⟩, rfl⟩
      rfl
  | cons item items ih =>
    unfold anySame
    rw [StateT.run_bind, DropM.same_run]
    cases compared : store.same? item needle with
    | none =>
      refine ⟨nofun, fun ⟨searched, _⟩ => ?_⟩
      cases searched with
      | here same => cases compared.symm.trans same
      | on differs => cases compared.symm.trans differs
    | some same =>
      cases same with
      | true =>
        constructor
        · rintro ⟨⟩
          exact ⟨.here compared, rfl⟩
        · rintro ⟨searched, rfl⟩
          cases searched with
          | here => rfl
          | on differs => cases compared.symm.trans differs
      | false =>
        refine ih.trans ⟨fun ⟨searched, same⟩ => ⟨.on compared searched, same⟩, ?_⟩
        rintro ⟨searched, same⟩
        cases searched with
        | here same => cases compared.symm.trans same
        | on differs searched => exact ⟨searched, same⟩

/-- A test that looks into no drop. -/
theorem run_pure_iff {value : Bool} {meaning : Prop} (same : holds = value ↔ meaning) :
    (pure value : DropM Bool).run store = some (holds, last) ↔ meaning ∧ last = store := by
  rw [← same]
  constructor
  · rintro ⟨⟩
    exact ⟨rfl, rfl⟩
  · rintro ⟨rfl, rfl⟩
    rfl

theorem run_containsData {data : Data} :
    (data.containsData needle).run store = some (holds, last) ↔
      Contains store holds data needle ∧ last = store := by
  cases data with
  | array items => exact run_anySame
  | hash entries =>
    cases needle with
    | string key =>
      refine run_pure_iff ?_
      rw [Contains, ← Option.isSome_iff_exists]
      exact Bool.eq_iff_iff
    | _ => exact run_pure_iff Iff.rfl
  | string text =>
    refine run_pure_iff ?_
    rw [Bool.eq_iff_iff]
    cases needle <;> simp [Contains, coerceString?, Text.hasInfix_iff]
  | _ => exact run_pure_iff Iff.rfl

end Data

/-- What the operator says of two values: whether they are equal, which of them comes first if they
have an order, or whether the left one contains the right one. -/
def Comparison.Says (store : DropStore) (holds : Bool) (left right : Data) : Comparison → Prop
  | eq => store.same? left right = some holds
  | ne => store.same? left right = some !holds
  | lt => holds = true ↔ left.compare? right = some .lt
  | gt => holds = true ↔ left.compare? right = some .gt
  | le => holds = true ↔ left.compare? right = some .lt ∨ left.compare? right = some .eq
  | ge => holds = true ↔ left.compare? right = some .gt ∨ left.compare? right = some .eq
  | contains => Data.Contains store holds left right

theorem Comparison.run_test {comparison : Comparison} {left right : Data} {store last : DropStore}
    {holds : Bool} : (comparison.test left right).run store = some (holds, last) ↔
      comparison.Says store holds left right ∧ last = store := by
  have order (meaning : Prop) (same : comparison.holdsFor (left.compare? right) = true ↔ meaning) :
      (pure (comparison.holdsFor (left.compare? right)) : DropM Bool).run store =
        some (holds, last) ↔ (holds = true ↔ meaning) ∧ last = store := by
    refine Data.run_pure_iff ?_
    rw [Bool.eq_iff_iff, same]
  cases comparison with
  | eq =>
    unfold test Says
    rw [DropM.same_run]
    cases store.same? left right <;> simp [eq_comm]
  | ne =>
    unfold test Says
    rw [StateT.run_bind, DropM.same_run]
    cases store.same? left right with
    | none => simp
    | some same =>
      refine (Data.run_pure_iff ?_)
      cases same <;> cases holds <;> simp
  | contains => exact Data.run_containsData
  | lt | gt | le | ge =>
    refine order _ ?_
    cases left.compare? right with
    | none => simp [holdsFor]
    | some order => cases order <;> simp [holdsFor]

/-- The leaf has the truth value, between two states of the drops: that of its expression's value,
or what its operator says of the values of its two expressions. -/
inductive Condition.Decides (root : Data) (store : DropStore) :
    Condition → Bool → DropStore → Prop
  | truthy {expr : Expr} {value : Data} {last : DropStore}
      (run : (expr.eval root).run store = some (value, last)) :
      Decides root store (.truthy expr) value.isTruthy last
  | compare {left right : Expr} {comparison : Comparison} {a b : Data} {middle last : DropStore}
      {holds : Bool} (runLeft : (left.eval root).run store = some (a, middle))
      (runRight : (right.eval root).run middle = some (b, last))
      (meant : comparison.Says last holds a b) :
      Decides root store (.compare left comparison right) holds last

theorem Condition.run_leaf {root : Data} {leaf : Condition} (isLeaf : leaf.IsLeaf)
    {store last : DropStore} {result : Bool} :
    (leaf.eval root).run store = some (result, last) ↔ leaf.Decides root store result last := by
  cases leaf with
  | truthy expr =>
    unfold eval
    rw [StateT.run_bind]
    constructor
    · intro run
      obtain ⟨⟨value, middle⟩, ran, shown⟩ := Option.bind_eq_some_iff.1 run
      cases shown
      exact .truthy ran
    · rintro ⟨run⟩
      exact Option.bind_eq_some_iff.2 ⟨_, run, rfl⟩
  | compare left comparison right =>
    unfold eval
    rw [StateT.run_bind]
    constructor
    · intro run
      obtain ⟨⟨a, middle⟩, runLeft, run⟩ := Option.bind_eq_some_iff.1 run
      rw [StateT.run_bind] at run
      obtain ⟨⟨b, compared⟩, runRight, run⟩ := Option.bind_eq_some_iff.1 run
      obtain ⟨meant, rfl⟩ := Comparison.run_test.1 run
      exact .compare runLeft runRight meant
    · intro decides
      cases decides with
      | compare runLeft runRight meant =>
        refine Option.bind_eq_some_iff.2 ⟨_, runLeft, ?_⟩
        rw [StateT.run_bind]
        exact Option.bind_eq_some_iff.2 ⟨_, runRight, Comparison.run_test.2 ⟨meant, rfl⟩⟩
  | and | or => exact isLeaf.elim

/-! ## What decides a chain -/

namespace Joint

/-- Two truth values joined. -/
def holds : Joint → Bool → Bool → Bool
  | and => (· && ·)
  | or => (· || ·)

/-- Whether the joint is decided by the value on its left. -/
def decides : Joint → Bool → Bool
  | and => (!·)
  | or => (·)

/-- The truth values of the leaves of a chain that are looked at, for the joints between its leaves,
and the truth value of the chain. They end with a leaf that decides the joint after it, or with the
last leaf. -/
inductive Looked : List Joint → List Bool → Bool → Prop
  | last (value : Bool) : Looked [] [value] value
  | decided {joint : Joint} {joints : List Joint} {value : Bool}
      (decides : joint.decides value = true) : Looked (joint :: joints) [value] value
  | on {joint : Joint} {joints : List Joint} {value result : Bool} {values : List Bool}
      (undecided : joint.decides value = false) (later : Looked joints values result) :
      Looked (joint :: joints) (value :: values) result

variable {joint : Joint} {value other : Bool}

theorem holds_of_decides (decides : joint.decides value = true) : joint.holds value other = value := by
  cases joint <;> cases value <;> first | rfl | cases decides

theorem holds_of_undecided (undecided : joint.decides value = false) :
    joint.holds value other = other := by
  cases joint <;> cases value <;> first | rfl | cases undecided

end Joint

namespace Condition

/-- Truth values with a joint before each but the first, folded from the right. -/
def fold (value : Bool) : List (Joint × Bool) → Bool
  | [] => value
  | (joint, next) :: rest => joint.holds value (fold next rest)

variable {root : Data} {left right first : Condition} {store last : DropStore} {result : Bool}
  {rest : List (Joint × Condition)}

/-- The right of a joint is looked at just if the left does not decide the joint. -/
theorem run_join (joint : Joint) :
    ((joint.join left right).eval root).run store = some (result, last) ↔
      ∃ value between, (left.eval root).run store = some (value, between) ∧
        if joint.decides value then result = value ∧ last = between
        else (right.eval root).run between = some (result, last) := by
  have evaluated : (joint.join left right).eval root = (do
      let value ← left.eval root
      if joint.decides value then return value else right.eval root) := by
    cases joint with
    | and =>
      refine congrArg (left.eval root >>= ·) (funext fun value => ?_)
      cases value <;> rfl
    | or =>
      refine congrArg (left.eval root >>= ·) (funext fun value => ?_)
      cases value <;> rfl
  rw [evaluated, StateT.run_bind]
  constructor
  · intro run
    obtain ⟨⟨value, between⟩, ran, run⟩ := Option.bind_eq_some_iff.1 run
    refine ⟨value, between, ran, ?_⟩
    cases decided : joint.decides value with
    | true =>
      simp only [decided, if_true] at run
      cases run
      exact ⟨rfl, rfl⟩
    | false =>
      simp only [decided, Bool.false_eq_true, if_false] at run ⊢
      exact run
  · rintro ⟨value, between, ran, run⟩
    refine Option.bind_eq_some_iff.2 ⟨(value, between), ran, ?_⟩
    cases decided : joint.decides value with
    | true =>
      simp only [decided, if_true] at run ⊢
      obtain ⟨rfl, rfl⟩ := run
      rfl
    | false =>
      simp only [decided, Bool.false_eq_true, if_false] at run ⊢
      exact run

/-- The truth values of conditions, one after the other. -/
def evalAll (root : Data) (conditions : List Condition) : DropM (List Bool) :=
  conditions.mapM (eval root)

variable {conditions : List Condition} {values : List Bool} {value : Bool}

theorem run_evalAll_nil :
    (evalAll root []).run store = some (values, last) ↔ values = [] ∧ last = store := by
  constructor
  · rintro ⟨⟩
    exact ⟨rfl, rfl⟩
  · rintro ⟨rfl, rfl⟩
    rfl

theorem run_evalAll_cons :
    (evalAll root (first :: conditions)).run store = some (value :: values, last) ↔
      ∃ between, (first.eval root).run store = some (value, between) ∧
        (evalAll root conditions).run between = some (values, last) := by
  unfold evalAll
  rw [List.mapM_cons, StateT.run_bind]
  constructor
  · intro run
    obtain ⟨⟨read, between⟩, ran, run⟩ := Option.bind_eq_some_iff.1 run
    rw [StateT.run_bind] at run
    obtain ⟨⟨later, after⟩, ranLater, run⟩ := Option.bind_eq_some_iff.1 run
    cases run
    exact ⟨between, ran, ranLater⟩
  · rintro ⟨between, ran, run⟩
    refine Option.bind_eq_some_iff.2 ⟨(value, between), ran, ?_⟩
    rw [StateT.run_bind]
    exact Option.bind_eq_some_iff.2 ⟨(values, last), run, rfl⟩

/-- Whatever the values of the leaves not looked at, all of them fold to the result. -/
theorem fold_of_looked {joints : List Joint} {seen : List Bool} {more : List (Joint × Bool)}
    (looked : Joint.Looked joints seen result) (same : more.map Prod.fst = joints)
    (pre : seen <+: value :: more.map Prod.snd) : fold value more = result := by
  induction looked generalizing value more with
  | last =>
    cases List.map_eq_nil_iff.1 same
    exact (List.cons_prefix_cons.1 pre).1.symm
  | decided decides =>
    obtain ⟨joined, more, rfl, rfl, rfl⟩ := List.map_eq_cons_iff.1 same
    obtain ⟨rfl, -⟩ := List.cons_prefix_cons.1 pre
    exact Joint.holds_of_decides decides
  | on undecided later ih =>
    obtain ⟨joined, more, rfl, rfl, rfl⟩ := List.map_eq_cons_iff.1 same
    obtain ⟨rfl, preLater⟩ := List.cons_prefix_cons.1 pre
    exact (Joint.holds_of_undecided undecided).trans (ih rfl preLater)

/-- A chain is decided by its leaves in their order, up to the one that decides it. -/
theorem run_chain :
    ((chain first rest).eval root).run store = some (result, last) ↔
      ∃ seen, Joint.Looked (rest.map Prod.fst) seen result ∧
        (evalAll root ((first :: rest.map Prod.snd).take seen.length)).run store =
          some (seen, last) := by
  -- the first leaf decides the first joint, or the chain after it decides all
  induction rest generalizing first store with
  | nil =>
    constructor
    · intro run
      exact ⟨[result], .last result, run_evalAll_cons.2 ⟨last, run, run_evalAll_nil.2 ⟨rfl, rfl⟩⟩⟩
    · rintro ⟨_, looked, run⟩
      cases looked with
      | last =>
        obtain ⟨between, ran, run⟩ := run_evalAll_cons.1 run
        obtain ⟨-, rfl⟩ := run_evalAll_nil.1 run
        exact ran
  | cons joined rest ih =>
    obtain ⟨joint, next⟩ := joined
    refine (run_join joint).trans ⟨?_, ?_⟩
    · rintro ⟨value, between, ran, run⟩
      cases decided : joint.decides value with
      | true =>
        simp only [decided, if_true] at run
        obtain ⟨rfl, rfl⟩ := run
        exact ⟨[result], .decided decided,
          run_evalAll_cons.2 ⟨last, ran, run_evalAll_nil.2 ⟨rfl, rfl⟩⟩⟩
      | false =>
        simp only [decided, Bool.false_eq_true, if_false] at run
        obtain ⟨seen, later, run⟩ := ih.1 run
        exact ⟨value :: seen, .on decided later, run_evalAll_cons.2 ⟨between, ran, run⟩⟩
    · rintro ⟨_, looked, run⟩
      cases looked with
      | decided decides =>
        obtain ⟨between, ran, run⟩ := run_evalAll_cons.1 run
        obtain ⟨-, rfl⟩ := run_evalAll_nil.1 run
        exact ⟨result, last, ran, by simp [decides]⟩
      | on undecided later =>
        obtain ⟨between, ran, run⟩ := run_evalAll_cons.1 run
        exact ⟨_, between, ran, by simpa [undecided] using ih.2 ⟨_, later, run⟩⟩

/-! ## Chains -/

/-- The text of a chain is read in both modes. -/
theorem parse_chainText {leaf : Leaf} {more : List (Joint × Leaf)}
    (plain : ∀ expr ∈ leaf.exprs, Pipeline.Plain expr)
    (plainMore : ∀ joined ∈ more, ∀ expr ∈ joined.2.exprs, Pipeline.Plain expr) (mode : LexMode)
    (base : Nat) :
    ∃ cursor next, Cursor.ofMarkup mode (chainText leaf more) base = .ok cursor ∧
      parse.run cursor =
        .ok (chain leaf.condition (more.map fun joined => (joined.1, joined.2.condition))) next := by
  obtain ⟨cursor, made, reads⟩ := Cursor.exists_ofMarkup (solid_chain plain plainMore)
    (lexes_chain plain plainMore) base
  obtain ⟨next, run⟩ := reads_parse plain plainMore reads
  refine ⟨cursor, next, ?_, run⟩
  cases mode with
  | strict => exact made
  | lax => exact (loosens_ofMarkup (chainText leaf more) base).of_ok made

/-- The text of leaves with joints between them is read as the leaves nested to the right, whatever
the joints, and in every condition that is read each joint has a leaf on its left. A chain has the
truth value that the leaves looked at give it, and these are the only ones evaluated: the drops are
left as by evaluating them one after the other. A leaf has the truth value of its expression, or what
its operator says of the values of its two expressions. The value of the chain is the fold of all
leaves from the right, whatever the others would be. -/
theorem chain_nests_right :
    (∀ (mode : LexMode) (base : Nat) (leaf : Leaf) (more : List (Joint × Leaf)),
      (∀ each ∈ leaf :: more.map Prod.snd, ∀ expr ∈ each.exprs, expr.Parsed ∧ expr.FloatFree) →
      ∃ cursor next, Cursor.ofMarkup mode (chainText leaf more) base = .ok cursor ∧
        parse.run cursor = .ok
          (chain leaf.condition (more.map fun joined => (joined.1, joined.2.condition))) next) ∧
    (∀ cursor condition next, parse.run cursor = .ok condition next → condition.LeftLeaves) ∧
    (∀ (root : Data) (first : Condition) (rest : List (Joint × Condition)) (store : DropStore)
      (result : Bool) (last : DropStore),
      ((chain first rest).eval root).run store = some (result, last) ↔
        ∃ seen, Joint.Looked (rest.map Prod.fst) seen result ∧
          (evalAll root ((first :: rest.map Prod.snd).take seen.length)).run store =
            some (seen, last)) ∧
    (∀ (root : Data) (leaf : Condition), leaf.IsLeaf → ∀ (store : DropStore) (result : Bool)
      (last : DropStore), (leaf.eval root).run store = some (result, last) ↔
        leaf.Decides root store result last) ∧
    ∀ (joints : List Joint) (seen : List Bool) (result value : Bool) (more : List (Joint × Bool)),
      Joint.Looked joints seen result → more.map Prod.fst = joints →
      seen <+: value :: more.map Prod.snd → fold value more = result := by
  refine ⟨fun mode base leaf more plain => ?_, produces_parse, fun root first rest store result last =>
    run_chain, fun root leaf isLeaf store result last => run_leaf isLeaf,
    fun joints seen result value more => fold_of_looked⟩
  have plainLeaf (each : Leaf) (member : each ∈ leaf :: more.map Prod.snd) :
      ∀ expr ∈ each.exprs, Pipeline.Plain expr := fun expr isExpr =>
    ⟨(plain each member expr isExpr).1.readable, (plain each member expr isExpr).2⟩
  exact parse_chainText (plainLeaf leaf List.mem_cons_self)
    (fun joined member => plainLeaf joined.2 (.tail _ (List.mem_map_of_mem member))) mode base

theorem chain_nests_right_words :
    (∃ cursor condition next,
      Cursor.ofMarkup .lax "or or and contains 1 and b" 5 = .ok cursor ∧
      parse.run cursor = .ok condition next ∧ condition.LeftLeaves ∧
      condition = .or (.truthy (.lookup [.key "or"]))
        (.and (.compare (.lookup [.key "and"]) .contains (.int 1))
          (.truthy (.lookup [.key "b"])))) ∧
    fold false [(.or, false), (.and, true)] = false := by
  have word (name : String) (isWord : IsLexeme .identifier name.toList)
      (noConstant : Expr.ofPath [.key name] = .lookup [.key name]) :
      Expr.Parsed (.lookup [.key name]) ∧ Expr.FloatFree (.lookup [.key name]) :=
    ⟨Expr.Readable.parsed (.lookup (.key isWord .nil) noConstant) trivial, trivial⟩
  have number : Expr.Parsed (.int 1) ∧ Expr.FloatFree (.int 1) :=
    ⟨Expr.Readable.parsed (.int 1) trivial, trivial⟩
  have isWord : IsLexeme .identifier "b".toList := ⟨'b', [], rfl, nofun, rfl, by decide⟩
  obtain ⟨read, leftLeaves, -, -, folds⟩ := chain_nests_right
  have plain := read .lax 5 (.truthy (.lookup [.key "or"]))
    [(.or, .compare (.lookup [.key "and"]) ⟨"contains", .contains, rfl⟩ (.int 1)),
      (.and, .truthy (.lookup [.key "b"]))]
  simp only [List.map_cons, List.map_nil, List.forall_mem_cons, Leaf.exprs] at plain
  obtain ⟨cursor, next, made, run⟩ := plain ⟨⟨word "or" Joint.or.isLexeme rfl, nofun⟩,
    ⟨word "and" Joint.and.isLexeme rfl, number, nofun⟩, ⟨word "b" isWord rfl, nofun⟩, nofun⟩
  refine ⟨⟨cursor, _, next, made, run, leftLeaves _ _ _ run, rfl⟩, ?_⟩
  have looked : Joint.Looked [.or, .and] [false, false] false := .on rfl (.decided rfl)
  exact folds _ _ _ false [(.or, false), (.and, true)] looked rfl ⟨[true], rfl⟩

end Condition

end TextTemplate
