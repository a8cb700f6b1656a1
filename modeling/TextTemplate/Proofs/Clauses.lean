import TextTemplate.Proofs.Keeps
import TextTemplate.Proofs.Tree

/-!
# Clauses of a case

A case has the value of its subject from before its first section, and goes through the sections in
their order. Each section is passed over or rendered (`Node.Scans`), whatever happened to those
before it, as long as none fails or leaves an interrupt pending; the rest is told by
`Node.Closes`. The other body is for cases that passed over all sections
(`Node.case_scans_clauses`).
-/

namespace TextTemplate

namespace Expr

/-- The expressions are evaluated in their order, up to the first that has a value equal to the
subject. `found` tells whether one has. -/
inductive Finds (root subject : Data) : List Expr → DropStore → Bool → DropStore → Prop
  | nowhere {store : DropStore} : Finds root subject [] store false store
  | here {expr : Expr} {exprs : List Expr} {value : Data} {store between last : DropStore}
      (runs : (expr.eval root).run store = some (value, between))
      (equal : (DropM.same value subject).run between = some (true, last)) :
      Finds root subject (expr :: exprs) store true last
  | later {expr : Expr} {exprs : List Expr} {value : Data} {found : Bool}
      {store between middle last : DropStore}
      (runs : (expr.eval root).run store = some (value, between))
      (differs : (DropM.same value subject).run between = some (false, middle))
      (rest : Finds root subject exprs middle found last) :
      Finds root subject (expr :: exprs) store found last

variable {root subject : Data} {exprs : List Expr} {store last : DropStore} {found : Bool}

theorem Finds.run_anyEquals (finds : Finds root subject exprs store found last) :
    (anyEquals root subject exprs).run store = some (found, last) := by
  induction finds with
  | nowhere => rfl
  | here runs equal =>
    exact Option.bind_eq_some_iff.2 ⟨_, runs, Option.bind_eq_some_iff.2 ⟨_, equal, rfl⟩⟩
  | later runs differs _ ih =>
    exact Option.bind_eq_some_iff.2 ⟨_, runs, Option.bind_eq_some_iff.2 ⟨_, differs, ih⟩⟩

theorem finds_of_run (run : (anyEquals root subject exprs).run store = some (found, last)) :
    Finds root subject exprs store found last := by
  induction exprs generalizing store with
  | nil =>
    cases run
    exact .nowhere
  | cons expr exprs ih =>
    unfold anyEquals at run
    rw [StateT.run_bind] at run
    obtain ⟨⟨value, between⟩, runs, run⟩ := Option.bind_eq_some_iff.1 run
    rw [StateT.run_bind] at run
    obtain ⟨⟨equal, middle⟩, compares, run⟩ := Option.bind_eq_some_iff.1 run
    cases equal with
    | true =>
      cases run
      exact .here runs compares
    | false => exact .later runs compares (ih run)

/-- Whether a value is found does not depend on how one looks. -/
theorem Finds.unique {other : Bool} {left : DropStore}
    (finds : Finds root subject exprs store found last)
    (again : Finds root subject exprs store other left) : found = other ∧ last = left := by
  have same := finds.run_anyEquals.symm.trans again.run_anyEquals
  exact Prod.mk.inj (Option.some.inj same)

end Expr

namespace Node

open TextTemplate.Expr (Finds)

variable {filters : FilterTable} {subject : Data} {otherwise : Option (List Node)}

/-- The sections are passed over or rendered, in their order and with no interrupt pending after
any. Whether one is rendered is found out against the root as those before it have left it.
`texts` has the text of each section that is rendered. -/
inductive Scans (filters : FilterTable) (subject : Data) :
    List (Section (List Expr) Node) → Context → List (Option String) → Context → Prop
  | done {context : Context} : Scans filters subject [] context [] context
  | passed {part : Section (List Expr) Node} {sections : List (Section (List Expr) Node)}
      {context last : Context} {drops : DropStore} {texts : List (Option String)}
      (misses : Finds context.root subject part.guard context.drops false drops)
      (rest : Scans filters subject sections { context with drops } texts last) :
      Scans filters subject (part :: sections) context (none :: texts) last
  | rendered {part : Section (List Expr) Node} {sections : List (Section (List Expr) Node)}
      {context after last : Context} {drops : DropStore} {text : String}
      {texts : List (Option String)}
      (hits : Finds context.root subject part.guard context.drops true drops)
      (run : renderBody filters "" part.body { context with drops } = .ok text after)
      (uncut : after.interrupt = none)
      (rest : Scans filters subject sections after texts last) :
      Scans filters subject (part :: sections) context (some text :: texts) last

/-- How a case comes to its end with the sections left: after the last one, or at one that fails or
leaves an interrupt pending. `matched` tells whether a section before was rendered, and `out` is the
text so far. -/
inductive Closes (filters : FilterTable) (subject : Data) (otherwise : Option (List Node)) :
    Bool → String → List (Section (List Expr) Node) → Context →
      EStateM.Result RenderError Context String → Prop
  | matched {out : String} {context : Context} :
      Closes filters subject otherwise true out [] context (.ok out context)
  | other {out text : String} {context last : Context}
      (run : renderOtherwise filters otherwise context = .ok text last) :
      Closes filters subject otherwise false out [] context (.ok (out ++ text) last)
  | otherFailed {out : String} {context last : Context} {error : RenderError}
      (run : renderOtherwise filters otherwise context = .error error last) :
      Closes filters subject otherwise false out [] context (.error error last)
  | interrupted {matched : Bool} {out text : String} {part : Section (List Expr) Node}
      {sections : List (Section (List Expr) Node)} {context after : Context} {drops : DropStore}
      (hits : Finds context.root subject part.guard context.drops true drops)
      (run : renderBody filters "" part.body { context with drops } = .ok text after)
      (cut : after.interrupt ≠ none) :
      Closes filters subject otherwise matched out (part :: sections) context
        (.ok (out ++ text) after)
  | failed {matched : Bool} {out : String} {part : Section (List Expr) Node}
      {sections : List (Section (List Expr) Node)} {context after : Context} {drops : DropStore}
      {error : RenderError}
      (hits : Finds context.root subject part.guard context.drops true drops)
      (run : renderBody filters "" part.body { context with drops } = .error error after) :
      Closes filters subject otherwise matched out (part :: sections) context (.error error after)
  | endless {matched : Bool} {out : String} {part : Section (List Expr) Node}
      {sections : List (Section (List Expr) Node)} {context : Context}
      (unknown : ∀ found drops,
        ¬ Finds context.root subject part.guard context.drops found drops) :
      Closes filters subject otherwise matched out (part :: sections) context
        (.error ⟨.endlessComparison, none⟩ context)

/-- The texts of the sections that were rendered, one after the other. -/
def written (texts : List (Option String)) : String :=
  String.join (texts.map fun text => text.getD "")

theorem written_cons (text : Option String) (texts : List (Option String)) :
    written (text :: texts) = text.getD "" ++ written texts :=
  String.join_cons

/-! ## One section -/

section

variable {other : Render String} {matched : Bool} {out : String} {part : Section (List Expr) Node}
  {sections : List (Section (List Expr) Node)} {context : Context} {drops : DropStore}

theorem renderMatching_cons (filters : FilterTable) (other : Render String) (subject : Data)
    (out : String) (matched : Bool) (part : Section (List Expr) Node)
    (sections : List (Section (List Expr) Node)) (context : Context) :
    renderMatching filters other subject out matched (part :: sections) context =
      (Render.ofDrops (Expr.anyEquals context.root subject part.guard) >>= fun found =>
        if found then do
          let text ← renderBody filters "" part.body
          if ← Render.isInterrupted then return out ++ text
          else renderMatching filters other subject (out ++ text) true sections
        else renderMatching filters other subject out matched sections) context :=
  rfl

theorem renderMatching_nil_false (filters : FilterTable) (other : Render String) (subject : Data)
    (out : String) :
    renderMatching filters other subject out false [] =
      other >>= fun text => pure (out ++ text) :=
  rfl

theorem renderMatching_of_unknown
    (run : (Expr.anyEquals context.root subject part.guard).run context.drops = none) :
    renderMatching filters other subject out matched (part :: sections) context =
      .error ⟨.endlessComparison, none⟩ context := by
  rw [renderMatching_cons, Render.bind_of_error (Render.ofDrops_none run)]

theorem renderMatching_of_misses
    (misses : Finds context.root subject part.guard context.drops false drops) :
    renderMatching filters other subject out matched (part :: sections) context =
      renderMatching filters other subject out matched sections { context with drops } := by
  rw [renderMatching_cons, Render.bind_of_ok (Render.ofDrops_some misses.run_anyEquals)]
  rfl

theorem renderMatching_of_hits
    (hits : Finds context.root subject part.guard context.drops true drops) :
    renderMatching filters other subject out matched (part :: sections) context =
      (renderBody filters "" part.body >>= fun text => do
        if ← Render.isInterrupted then return out ++ text
        else renderMatching filters other subject (out ++ text) true sections)
          { context with drops } := by
  rw [renderMatching_cons, Render.bind_of_ok (Render.ofDrops_some hits.run_anyEquals)]
  rfl

end

/-! ## All sections -/

/-- Of a scan that got through its sections each was rendered just if it has a value equal to the
subject where the sections before it ended. -/
theorem Scans.rendered_iff {sections : List (Section (List Expr) Node)} {context last : Context}
    {texts : List (Option String)} (scans : Scans filters subject sections context texts last)
    {k : Nat} {part : Section (List Expr) Node} (isPart : sections[k]? = some part) :
    ∃ before, Scans filters subject (sections.take k) context (texts.take k) before ∧
      ((∃ text, texts[k]? = some (some text)) ↔
        ∃ drops, Finds before.root subject part.guard before.drops true drops) := by
  induction scans generalizing k with
  | done => cases isPart
  | @passed first sections context last drops texts misses rest ih =>
    cases k with
    | zero =>
      cases isPart
      refine ⟨context, .done, ?_, fun ⟨left, hits⟩ => nomatch (misses.unique hits).1⟩
      rintro ⟨text, isText⟩
      cases isText
    | succ k =>
      obtain ⟨before, scans, found⟩ := ih isPart
      exact ⟨before, .passed misses scans, found⟩
  | @rendered first sections context after last drops text texts hits run uncut rest ih =>
    cases k with
    | zero =>
      cases isPart
      exact ⟨context, .done, ⟨fun _ => ⟨drops, hits⟩, fun _ => ⟨text, rfl⟩⟩⟩
    | succ k =>
      obtain ⟨before, scans, found⟩ := ih isPart
      exact ⟨before, .rendered hits run uncut scans, found⟩

/-- A case that ends at once has scanned nothing. -/
theorem Closes.exists_scans {matched : Bool} {out : String}
    {rest : List (Section (List Expr) Node)} {context : Context}
    {result : EStateM.Result RenderError Context String}
    (closes : Closes filters subject otherwise matched out rest context result)
    (uncut : context.interrupt = none) :
    ∃ front left texts middle, rest = front ++ left ∧
      Scans filters subject front context texts middle ∧ middle.interrupt = none ∧
      Closes filters subject otherwise (matched || texts.any Option.isSome) (out ++ written texts)
        left middle result := by
  refine ⟨[], rest, [], context, rfl, .done, uncut, ?_⟩
  have none : out ++ written [] = out := String.append_empty
  rw [List.any_nil, Bool.or_false, none]
  exact closes

/-- Sections are scanned up to the end, or up to one that fails or leaves an interrupt pending. -/
theorem exists_scans (filters : FilterTable) (subject : Data) (otherwise : Option (List Node))
    (matched : Bool) (out : String) (sections : List (Section (List Expr) Node))
    {context : Context} (uncut : context.interrupt = none) :
    ∃ front rest texts middle, sections = front ++ rest ∧
      Scans filters subject front context texts middle ∧ middle.interrupt = none ∧
      Closes filters subject otherwise (matched || texts.any Option.isSome) (out ++ written texts)
        rest middle (renderMatching filters (renderOtherwise filters otherwise) subject out matched
          sections context) := by
  induction sections generalizing matched out context with
  | nil =>
    refine Closes.exists_scans ?_ uncut
    cases matched with
    | true => exact .matched
    | false =>
      rw [renderMatching_nil_false]
      cases run : renderOtherwise filters otherwise context with
      | ok text last =>
        rw [Render.bind_of_ok run]
        exact .other run
      | error error last =>
        rw [Render.bind_of_error run]
        exact .otherFailed run
  | cons part sections ih =>
    cases looked : (Expr.anyEquals context.root subject part.guard).run context.drops with
    | none =>
      rw [renderMatching_of_unknown looked]
      refine Closes.exists_scans (.endless fun found drops finds => ?_) uncut
      exact nomatch looked.symm.trans finds.run_anyEquals
    | some result =>
      obtain ⟨found, drops⟩ := result
      cases found with
      | false =>
        have misses := Expr.finds_of_run looked
        rw [renderMatching_of_misses misses]
        have uncutHere : ({ context with drops } : Context).interrupt = none := uncut
        obtain ⟨front, rest, texts, middle, rfl, scans, clear, closes⟩ := ih matched out uncutHere
        refine ⟨part :: front, rest, none :: texts, middle, rfl, .passed misses scans, clear, ?_⟩
        rw [written_cons, Option.getD_none, String.empty_append]
        exact closes
      | true =>
        have hits := Expr.finds_of_run looked
        rw [renderMatching_of_hits hits]
        cases run : renderBody filters "" part.body { context with drops } with
        | error error after =>
          rw [Render.bind_of_error run]
          exact Closes.exists_scans (.failed hits run) uncut
        | ok text after =>
          have seen : Render.isInterrupted after = .ok after.interrupt.isSome after := rfl
          rw [Render.bind_of_ok run, Render.bind_of_ok seen]
          cases signal : after.interrupt with
          | some interrupt =>
            have cut : after.interrupt ≠ none := signal ▸ nofun
            exact Closes.exists_scans (.interrupted hits run cut) uncut
          | none =>
            obtain ⟨front, rest, texts, middle, rfl, scans, clear, closes⟩ :=
              ih true (out ++ text) signal
            refine ⟨part :: front, rest, some text :: texts, middle, rfl,
              .rendered hits run signal scans, clear, ?_⟩
            rw [written_cons, Option.getD_some, ← String.append_assoc, List.any_cons,
              Option.isSome_some, Bool.true_or, Bool.or_true]
            exact closes

/-- A case evaluates its subject once, and goes through the sections with this value. Those in
`front` are passed over or rendered, each just if one of its values, told against the root as those
before it have left it, is equal to the subject, and after each of them no interrupt is pending.
Then the case ends: after all sections, and with the other body just if none was rendered, or at a
section that fails or leaves an interrupt pending, in the state that this section leaves. -/
theorem case_scans_clauses (filters : FilterTable) (subject : Expr)
    (sections : List (Section (List Expr) Node)) (otherwise : Option (List Node))
    {context : Context} (uncut : context.interrupt = none) :
    match (subject.eval context.root).run context.drops with
    | none => (Node.case subject sections otherwise).render filters context =
      .error ⟨.endlessComparison, none⟩ context
    | some (value, drops) => ∃ front rest texts middle, sections = front ++ rest ∧
      Scans filters value front { context with drops } texts middle ∧
      middle.interrupt = none ∧
      Closes filters value otherwise (texts.any Option.isSome) (written texts) rest middle
        ((Node.case subject sections otherwise).render filters context) ∧
      ∀ k part, front[k]? = some part →
        ∃ before, Scans filters value (front.take k) { context with drops } (texts.take k) before ∧
          ((∃ text, texts[k]? = some (some text)) ↔
            ∃ last, Finds before.root value part.guard before.drops true last) := by
  cases run : (subject.eval context.root).run context.drops with
  | none =>
    show (Render.ofDrops (subject.eval context.root) >>= _) context = _
    exact Render.bind_of_error (Render.ofDrops_none run)
  | some result =>
    obtain ⟨value, drops⟩ := result
    have begins : (Node.case subject sections otherwise).render filters context =
        renderMatching filters (renderOtherwise filters otherwise) value "" false sections
          { context with drops } := by
      show (Render.ofDrops (subject.eval context.root) >>= _) context = _
      exact Render.bind_of_ok (Render.ofDrops_some run)
    have uncutHere : ({ context with drops } : Context).interrupt = none := uncut
    obtain ⟨front, rest, texts, middle, split, scans, clear, closes⟩ :=
      exists_scans filters value otherwise false "" sections uncutHere
    rw [Bool.false_or, String.empty_append, ← begins] at closes
    exact ⟨front, rest, texts, middle, split, scans, clear, closes,
      fun k part isPart => scans.rendered_iff isPart⟩

/-- The first section is rendered and gives the name that the subject reads another value. The
second one has this value and is passed over, the third one has the subject's and is rendered, and
the fourth one ends the case. -/
theorem case_scans_clauses_reassigned :
    let named : Expr := .lookup [.key "x"]
    let sections : List (Section (List Expr) Node) := [
      ⟨[.int 3, named], [.assign "x" ⟨.int 2, []⟩, .text "a"]⟩,
      ⟨[.int 2, named], [.text "b"]⟩,
      ⟨[.int 1], [.text "c"]⟩,
      ⟨[.int 1], [.text "d", .interrupt .breakLoop, .text "e"]⟩,
      ⟨[.int 1], [.text "f"]⟩]
    let otherwise : Option (List Node) := some [.text "g"]
    let context := Context.start (.hash (.ofList [("x", .int 1)])) .empty
    (∃ last, (Node.case named sections otherwise).render .empty context = .ok "acd" last) ∧
      ∃ front rest texts middle, sections = front ++ rest ∧
        Scans .empty (.int 1) front context texts middle ∧ middle.interrupt = none ∧
        Closes .empty (.int 1) otherwise (texts.any Option.isSome) (written texts) rest middle
          ((Node.case named sections otherwise).render .empty context) := by
  intro named sections otherwise context
  refine ⟨Render.exists_ok (by decide +kernel), ?_⟩
  have uncut : context.interrupt = none := rfl
  obtain ⟨front, rest, texts, middle, split, scans, clear, closes, -⟩ :=
    case_scans_clauses .empty named sections otherwise uncut
  exact ⟨front, rest, texts, middle, split, scans, clear, closes⟩

end Node

end TextTemplate
