import TextTemplate.Proofs.Cycles
import TextTemplate.Proofs.Reading.Expressions

/-!
# The keys of cycles

Cycles without a group are told apart by the texts of their values, put together without anything in
between. So two of them move each other just if these texts are the same
(`Cycle.rotates_apart_by_key`). The text of a string literal tells where it ends, so different lists
of literals have different keys; the texts of other expressions can run together
(`Cycle.joined_numbers_share_rotation`).
-/

namespace TextTemplate

/-! ## Texts of string literals -/

/-- A string literal that the parser can return. -/
def Expr.IsLiteral (expr : Expr) : Prop :=
  expr.Readable ∧ ∃ text, expr = .string text

namespace Expr.IsLiteral

variable {expr other : Expr} {rest rest' : List Char}

/-- A literal is written in quotes that it lacks. -/
theorem exists_quoted (isLiteral : expr.IsLiteral) :
    ∃ quote text, expr = .string text ∧ quote ∉ text.toList ∧
      expr.display.toList = quote :: (text.toList ++ [quote]) := by
  obtain ⟨readable, text, rfl⟩ := isLiteral
  cases readable with
  | string isQuote free =>
    obtain ⟨shown, -, freeShown, display⟩ := exists_shown isQuote free
    exact ⟨shown, text, rfl, freeShown, display⟩

/-- The text before the first closing quote is known. -/
theorem append_quote_inj {quote : Char} {inner inner' : List Char} (free : quote ∉ inner)
    (free' : quote ∉ inner') (same : inner ++ quote :: rest = inner' ++ quote :: rest') :
    inner = inner' ∧ rest = rest' := by
  have cut {cs : List Char} (isFree : quote ∉ cs) (back : List Char) :
      (cs ++ quote :: back).takeWhile (· ≠ quote) = cs := by
    rw [List.takeWhile_append_of_pos (by grind), List.takeWhile_cons_of_neg (by simp),
      List.append_nil]
  have sameInner : inner = inner' := by rw [← cut free rest, same, cut free' rest']
  subst sameInner
  exact ⟨rfl, (List.cons.inj (List.append_cancel_left same)).2⟩

/-- A literal is known from any text that begins with its own. -/
theorem eq_of_display_append (isLiteral : expr.IsLiteral) (isOther : other.IsLiteral)
    (same : expr.display.toList ++ rest = other.display.toList ++ rest') :
    expr = other ∧ rest = rest' := by
  obtain ⟨quote, text, rfl, free, display⟩ := isLiteral.exists_quoted
  obtain ⟨quote', text', rfl, free', display'⟩ := isOther.exists_quoted
  rw [display, display'] at same
  simp only [List.cons_append, List.append_assoc, List.nil_append, List.cons.injEq] at same
  obtain ⟨rfl, same⟩ := same
  obtain ⟨sameText, sameRest⟩ := append_quote_inj free free' same
  exact ⟨congrArg Expr.string (String.toList_inj.1 sameText), sameRest⟩

/-- Lists of literals are known from their texts put together. -/
theorem eq_of_join {exprs others : List Expr} (literals : ∀ expr ∈ exprs, expr.IsLiteral)
    (otherLiterals : ∀ expr ∈ others, expr.IsLiteral)
    (same : String.join (exprs.map display) = String.join (others.map display)) :
    exprs = others := by
  have notEmpty {expr : Expr} (isLiteral : expr.IsLiteral) (rest : String) :
      expr.display ++ rest ≠ "" := by
    obtain ⟨quote, text, -, -, display⟩ := isLiteral.exists_quoted
    intro empty
    have noChars := congrArg String.toList empty
    rw [String.toList_append, display] at noChars
    cases noChars
  induction exprs generalizing others with
  | nil =>
    cases others with
    | nil => rfl
    | cons other others =>
      rw [List.map_cons, String.join_cons] at same
      exact absurd same.symm (notEmpty (otherLiterals other List.mem_cons_self) _)
  | cons expr exprs ih =>
    rw [List.forall_mem_cons] at literals
    rw [List.map_cons, String.join_cons] at same
    cases others with
    | nil => exact absurd same (notEmpty literals.1 _)
    | cons other others =>
      rw [List.forall_mem_cons] at otherLiterals
      rw [List.map_cons, String.join_cons] at same
      have chars := congrArg String.toList same
      rw [String.toList_append, String.toList_append] at chars
      obtain ⟨rfl, rest⟩ := literals.1.eq_of_display_append otherLiterals.1 chars
      rw [ih literals.2 otherLiterals.2 (String.toList_inj.1 rest)]

end Expr.IsLiteral

/-! ## Rotations of keys -/

namespace Cycle

variable {cycle first second : Cycle} {context : Context} {key : String}

theorem slot?_eq_site :
    cycle.slot? context = some (.site key) ↔ cycle.group = none ∧ cycle.key = key := by
  unfold slot? slot
  cases cycle.group with
  | none =>
    show some (Slot.site cycle.key) = some (.site key) ↔ _
    simp
  | some group =>
    refine ⟨fun found => ?_, fun noGroup => nomatch noGroup.1⟩
    obtain ⟨⟨taken, last⟩, run, isSite⟩ := Option.map_eq_some_iff.1 found
    obtain ⟨named, -, made⟩ := Option.bind_eq_some_iff.1 run
    cases made
    cases isSite

/-- Which of its values a cycle without a group writes next. -/
def nextPlace (cycle : Cycle) (context : Context) : Nat :=
  (Slot.site cycle.key).place cycle.values.length context

/-- A cycle without a group writes its value at the next place. -/
theorem shows_nextPlace (noGroup : cycle.group = none) :
    cycle.Shows context (cycle.nextPlace context) :=
  shows_place (slot?_eq_site.2 ⟨noGroup, rfl⟩)

/-- A state in which the cycle begins with its second value, if it has two. -/
def secondTurn (cycle : Cycle) : Context :=
  (Context.start .nil .empty).setRegister siteRegister
    (.hash (Table.empty.set cycle.key (.ofNat 1)))

/-- The place after the second one is the first or the third. -/
theorem second_succ_mod {count : Nat} (positive : 0 < count) :
    (1 % count + 1) % count = 0 ∨ (1 % count + 1) % count = 2 := by
  obtain rfl | rfl | more : count = 1 ∨ count = 2 ∨ 2 < count := by omega
  · exact .inl rfl
  · exact .inl rfl
  · rw [Nat.mod_eq_of_lt (by omega : 1 < count), Nat.mod_eq_of_lt more]
    exact .inr rfl

/-- A cycle with the same key moves the next place of any cycle with two values or more. -/
theorem nextPlace_of_same_key (noGroup : first.group = none) (same : first.key = second.key)
    (several : second.values.length ≠ 1) :
    second.nextPlace (first.render.stateAfter second.secondTurn) ≠
      second.nextPlace second.secondTurn := by
  have positive (cycle : Cycle) : 0 < cycle.values.length := Nat.zero_lt_succ _
  have small {n : Nat} (le : n ≤ 2) : (n : Int) ≤ Int64.maxValue.toInt :=
    Int.le_trans (Int.ofNat_le.2 le) (by decide)
  have stored : (second.secondTurn.register siteRegister).binding? second.key = some (.ofNat 1) := by
    unfold secondTurn
    rw [Context.register_setRegister, if_pos rfl]
    exact (Table.get?_set _ _ _ _).trans (if_pos rfl)
  have begun (count : Nat) :
      (turn (second.secondTurn.register siteRegister) second.key count).1 = 1 % count :=
    turn_of_stored stored (small (by decide)) count
  have left : (first.render.stateAfter second.secondTurn).register siteRegister =
      (turn (second.secondTurn.register siteRegister) second.key first.values.length).2 :=
    same ▸ (register_render (slot?_eq_site.2 ⟨noGroup, rfl⟩) siteRegister).trans (if_pos rfl)
  have storedAfter : ((first.render.stateAfter second.secondTurn).register siteRegister).binding?
      second.key = some (.ofNat ((1 % first.values.length + 1) % first.values.length)) := by
    rw [left, binding?_turn, if_pos rfl, begun]
  have moved := second_succ_mod (positive first)
  have atLeast : 2 ≤ second.values.length := by
    have := positive second
    omega
  have after : second.nextPlace (first.render.stateAfter second.secondTurn) =
      (1 % first.values.length + 1) % first.values.length % second.values.length :=
    turn_of_stored storedAfter (small (by omega)) _
  have before : second.nextPlace second.secondTurn = 1 :=
    (begun _).trans (Nat.mod_eq_of_lt atLeast)
  rw [before, after]
  -- neither the first nor the third place is the second one, also where there is no third
  obtain isFirst | isThird := moved
  · rw [isFirst, Nat.zero_mod]
    decide
  · rw [isThird]
    obtain two | more := Nat.eq_or_lt_of_le atLeast
    · rw [← two]
      decide
    · rw [Nat.mod_eq_of_lt more]
      decide

/-- Between two points of a render no cycle with the key is rendered, so what a cycle with this key
writes next stays. -/
theorem nextPlace_of_visits {filters : FilterTable} {tree : List Node} (builtIn : Node.BuiltIn tree)
    {front between rest : List Visit} {here there : Visit}
    (visits : (Node.traceBody filters [] "" tree).visits context =
      front ++ here :: between ++ there :: rest)
    (others : ∀ visit ∈ here :: between, ∀ other, visit.moment = .node (.cycle other) →
      other.group = none → other.key ≠ cycle.key) :
    cycle.nextPlace there.context = cycle.nextPlace here.context := by
  let slot : Slot := .site cycle.key
  have handsOn : Traced.HandsOn slot.register (Node.traceBody filters [] "" tree) :=
    Node.handsOn_traceBody slot.register_free.1 [] "" tree builtIn
  have points := handsOn context
  unfold Traced.HandsOnAt at points
  rw [visits] at points
  obtain ⟨middle, before, after⟩ := Visit.handsOn_append points
  obtain ⟨begun, -, within⟩ := Visit.handsOn_append before
  have atHere : here.context.register slot.register = begun := within.1
  have atThere : there.context.register slot.register = middle := after.1
  have missing : ∀ visit ∈ here :: between, visit.cycleOf? slot = none := by
    intro visit member
    cases found : visit.cycleOf? slot with
    | none => rfl
    | some visited =>
      obtain ⟨isCycle, -, takesPart⟩ := Visit.cycleOf?_eq_some.1 found
      obtain ⟨noGroup, sameKey⟩ := slot?_eq_site.1 takesPart
      exact absurd sameKey (others visit member visited.1 isCycle noGroup)
  have same := within.place_of_none missing cycle.values.length
  rw [← atHere, ← atThere] at same
  exact same

/-- Two cycles without a group move each other just if their values have the same text put together,
apart from a cycle with a single value, which writes this one for ever. In a render of built-in nodes
what a cycle writes next stays from a point to a later one if no cycle with its key is rendered in
between. Different lists of string literals are different keys. -/
theorem rotates_apart_by_key :
    (∀ first second : Cycle, first.group = none → second.group = none →
      ((∀ context, second.nextPlace (first.render.stateAfter context) = second.nextPlace context) ↔
        String.join (first.values.map Expr.display) ≠ String.join (second.values.map Expr.display) ∨
          second.values.length = 1)) ∧
    (∀ (cycle : Cycle) (context : Context), cycle.group = none →
      cycle.Shows context (cycle.nextPlace context)) ∧
    (∀ (filters : FilterTable) (tree : List Node) (context : Context) (cycle : Cycle)
      (front between rest : List Visit) (here there : Visit), Node.BuiltIn tree →
      (Node.traceBody filters [] "" tree).visits context =
        front ++ here :: between ++ there :: rest →
      (∀ visit ∈ here :: between, ∀ other, visit.moment = .node (.cycle other) →
        other.group = none →
          String.join (other.values.map Expr.display) ≠
            String.join (cycle.values.map Expr.display)) →
      cycle.nextPlace there.context = cycle.nextPlace here.context) ∧
    ∀ exprs others : List Expr, (∀ expr ∈ exprs ++ others, expr.IsLiteral) → exprs ≠ others →
      String.join (exprs.map Expr.display) ≠ String.join (others.map Expr.display) := by
  refine ⟨fun first second noGroup _ => ⟨fun stays => ?_, fun apart context => ?_⟩,
    fun cycle context => shows_nextPlace,
    fun filters tree context cycle front between rest here there builtIn =>
      nextPlace_of_visits builtIn,
    fun exprs others literals apart same => ?_⟩
  · by_contra neither
    obtain ⟨same, several⟩ := not_or.1 neither
    exact nextPlace_of_same_key noGroup (not_not.1 same) several (stays second.secondTurn)
  · obtain other | single := apart
    · refine place_render_of_ne (fun takesPart => ?_) _
      exact other (slot?_eq_site.1 takesPart).2
    · have positive : 0 < second.values.length := Nat.zero_lt_succ _
      have below (context : Context) : second.nextPlace context < 1 :=
        single ▸ turn_lt _ _ positive
      rw [Nat.lt_one_iff.1 (below _), Nat.lt_one_iff.1 (below _)]
  · rw [List.forall_mem_append] at literals
    exact apart (Expr.IsLiteral.eq_of_join literals.1 literals.2 same)

/-- Between two points another cycle is rendered twice, the first of them after the cycle itself. -/
theorem rotates_apart_by_key_literals :
    let other : Cycle := ⟨none, .string "ab", [.string "c"]⟩
    let cycle : Cycle := ⟨none, .string "a", [.string "b", .string "c"]⟩
    let start : Context := .start .nil .empty
    ∃ first one two last : Visit,
      (Node.traceBody .empty [] "" [.cycle cycle, .cycle other, .cycle other, .cycle cycle]).visits
        start = [first, one, two, last] ∧
      cycle.Shows one.context (cycle.nextPlace one.context) ∧
      cycle.nextPlace last.context = cycle.nextPlace one.context ∧
      cycle.nextPlace (other.render.stateAfter start) = cycle.nextPlace start := by
  intro other cycle start
  obtain ⟨moves, shows, stays, literals⟩ := rotates_apart_by_key
  have apart : String.join (other.values.map Expr.display) ≠
      String.join (cycle.values.map Expr.display) := by
    have isLiteral (text : String) (free : '"' ∉ text.toList) : (Expr.string text).IsLiteral :=
      ⟨.string (.inr rfl) free, text, rfl⟩
    refine literals other.values cycle.values ?_ (by simp [other, cycle, values])
    simp only [other, cycle, values, List.cons_append, List.nil_append, List.forall_mem_cons]
    exact ⟨isLiteral _ (by decide), isLiteral _ (by decide), isLiteral _ (by decide),
      isLiteral _ (by decide), isLiteral _ (by decide), List.forall_mem_nil _⟩
  have builtIn : Node.BuiltIn [.cycle cycle, .cycle other, .cycle other, .cycle cycle] := by
    simp [Node.bodies, Node.isHost]
  have others : ((Node.traceBody .empty [] ""
      [.cycle cycle, .cycle other, .cycle other, .cycle cycle]).visits start).map
        (fun visit => (visit.cycleOf? (.site other.key)).isSome) = [false, true, true, false] := by
    decide +kernel
  obtain ⟨first, _, visits, -, others⟩ := List.map_eq_cons_iff.1 others
  obtain ⟨one, _, rfl, isOther, others⟩ := List.map_eq_cons_iff.1 others
  obtain ⟨two, _, rfl, isAgain, others⟩ := List.map_eq_cons_iff.1 others
  obtain ⟨last, _, rfl, -, others⟩ := List.map_eq_cons_iff.1 others
  obtain rfl := List.map_eq_nil_iff.1 others
  have apartAt (visit : Visit) (isOther : (visit.cycleOf? (.site other.key)).isSome = true)
      (rendered : Cycle) (isCycle : visit.moment = .node (.cycle rendered)) :
      String.join (rendered.values.map Expr.display) ≠
        String.join (cycle.values.map Expr.display) := by
    obtain ⟨⟨found, context⟩, isFound⟩ := Option.isSome_iff_exists.1 isOther
    obtain ⟨same, -, takesPart⟩ := Visit.cycleOf?_eq_some.1 isFound
    obtain rfl : rendered = found := Node.cycle.inj (Moment.node.inj (isCycle.symm.trans same))
    have sameKey : rendered.key = other.key := (slot?_eq_site.1 takesPart).2
    exact fun equal => apart (sameKey.symm.trans equal)
  refine ⟨first, one, two, last, visits, shows cycle one.context rfl, ?_,
    (moves other cycle rfl rfl).2 (.inl apart) start⟩
  refine stays .empty _ start cycle [first] [two] [] one last builtIn visits ?_
  simp only [List.forall_mem_cons]
  exact ⟨fun rendered isCycle _ => apartAt one isOther rendered isCycle,
    fun rendered isCycle _ => apartAt two isAgain rendered isCycle, List.forall_mem_nil _⟩

/-- The numbers 1 and 23 have the key of the numbers 12 and 3, so rendering the former makes the
latter go on with its second value. -/
theorem joined_numbers_share_rotation :
    let first : Cycle := ⟨none, .int 1, [.int 23]⟩
    let second : Cycle := ⟨none, .int 12, [.int 3]⟩
    let start : Context := .start (.hash .empty) .empty
    first.values.map Expr.display ≠ second.values.map Expr.display ∧
      Render.shown? second.render start = some "12" ∧
      Render.shown? second.render (first.render.stateAfter start) = some "3" := by
  decide +kernel

end Cycle

end TextTemplate
