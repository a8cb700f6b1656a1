import TextTemplate.Engine
import TextTemplate.Proofs.AlikeRuns
import TextTemplate.Proofs.ErrorPlaces
import TextTemplate.Proofs.FiniteMap
import TextTemplate.Proofs.Regime
import TextTemplate.Proofs.Sequences

/-!
# Equal data

Without floats and drops values are equal just if they are alike: they differ in the order of the
entries of hashes at most, which is left by the order in which the entries were made. Against alike
roots a template renders alike, for its two renders stay together from node to node
(`Template.render_alike`). So nobody can tell from what a template does in which order a hash was
made (`equal_data_is_interchangeable`).
-/

namespace TextTemplate

/-! ## Two renders over the same drops -/

/-- Both runs read the same drops through their caches. -/
def Pairing.sameDrops : Pairing where
  left := DropM.read
  right := DropM.read
  holds := Eq
  compares := by
    rintro store _ rfl a a' b b' alike alike'
    exact Data.same?_alike alike alike'
  reads := by
    rintro store _ rfl id key
    exact rel_refl (fun result => ⟨.same result.1, rfl⟩) _
  opens := by
    rintro store _ rfl state
    exact ⟨rfl, rfl⟩
  moves := by
    rintro store _ rfl id index
    rfl

/-- Against alike roots a template gives the same output or the same error, and leaves alike roots
and the same drops. -/
theorem Template.render_alike {config : Config} (respects : config.filters.Respects)
    {template : Template} (builtIn : Node.BuiltIn template.body) {a b : Data} (alike : a.Alike b)
    (drops : DropStore) :
    (template.render config a drops).result = (template.render config b drops).result ∧
      (template.render config a drops).root.Alike (template.render config b drops).root ∧
      (template.render config a drops).drops = (template.render config b drops).drops := by
  have joins : Pairing.sameDrops.Joins (.start a drops) (.start b drops) :=
    ⟨alike, rfl, rfl, rfl, rfl⟩
  have ended : Render.EndTogether Pairing.sameDrops.Joins Eq
      ((Node.renderBody config.filters "" template.body).run (.start a drops))
      ((Node.renderBody config.filters "" template.body).run (.start b drops)) := by
    rw [← Node.renderBodyBy_read _ _ builtIn, ← Node.renderBodyBy_read _ _ builtIn]
    exact Pairing.renders_body respects "" template.body builtIn _ _ joins
  unfold Template.render
  generalize (Node.renderBody config.filters "" template.body).run (.start a drops) = first
    at ended ⊢
  generalize (Node.renderBody config.filters "" template.body).run (.start b drops) = second
    at ended ⊢
  cases ended with
  | ok same last =>
    rw [same]
    exact ⟨rfl, last.root, last.drops⟩
  | error error last => exact ⟨rfl, last.root, last.drops⟩

/-- A hash made from pairs whose values have no drops and floats has none. -/
theorem Data.Plain.of_pairs {pairs : List (String × Data)} {entries : Table Data}
    (made : Table.ofPairs pairs = .ok entries) (plain : ∀ pair ∈ pairs, pair.2.Plain) :
    (Data.hash entries).Plain :=
  .hash fun key value bound => plain (key, value) ((Table.get?_ofPairs made).1 bound)

/-- Nodes that are compiled with built-in tags only are built-in. -/
theorem Node.builtIn_of_compile {tags : TagTable} {mode : LexMode} {source : String}
    {nodes : List Node} (builtIn : tags.BuiltIn) (compiled : compile tags mode source = .ok nodes) :
    BuiltIn nodes := by
  unfold compile at compiled
  cases scanned : Fragment.scan source with
  | error error =>
    rw [scanned] at compiled
    cases compiled
  | ok fragments =>
    rw [scanned] at compiled
    dsimp only at compiled
    let itself := Alignment.ofSource source.toList fragments (Fragment.locates_of_scan scanned)
    have aligned : List.Forall₂ itself.fragments fragments fragments :=
      List.forall₂_same.2 fun fragment member => ⟨rfl, member⟩
    have outcomes : itself.Outcomes itself.Bodies (Compiler.run tags mode fragments)
        (Compiler.run tags mode fragments) := Alignment.outcomes_run builtIn aligned
    rw [compiled] at outcomes
    cases outcomes with
    | ok bodies =>
      intro node within
      obtain ⟨node', nodes⟩ := Alignment.exists_of_within bodies within
      cases nodes <;> rfl

open TableOperation (runAll onMap onTable)

/-- Equality of values without floats and drops is an equivalence, and finds out whether they bind
the same names to equal values at any depth: hashes whose operations come to the same finite map, in
whatever order they were made, are alike, and loops go through alike items of alike values. So
against equal roots a source compiled with the standard tags gives the same output or error, and
leaves roots that differ in the order of hash entries at most, and the same drops. -/
theorem equal_data_is_interchangeable (store : DropStore) :
    (∀ a : Data, a.Plain → store.same? a a = some true) ∧
    (∀ a b : Data, a.Plain → b.Plain → store.same? a b = some true →
      store.same? b a = some true) ∧
    (∀ a b c : Data, a.Plain → b.Plain → c.Plain → store.same? a b = some true →
      store.same? b c = some true → store.same? a c = some true) ∧
    (∀ a b : Data, a.Plain → b.Plain → (store.same? a b = some true ↔ a.Alike b)) ∧
    (∀ (pairs others : List (String × Data)) (operations operations' : List (TableOperation Data))
      (entries entries' : Table Data),
      Table.ofPairs pairs = .ok entries → Table.ofPairs others = .ok entries' →
      (∀ key, Option.Rel Data.Alike
        ((runAll onMap operations (Table.mapOf pairs)).2.lookup key)
        ((runAll onMap operations' (Table.mapOf others)).2.lookup key)) →
      (Data.hash (runAll onTable operations entries).2).Alike
        (.hash (runAll onTable operations' entries').2)) ∧
    (∀ a b : Data, a.Alike b →
      List.Forall₂ Data.Alike (Sequence.ofData a).toList (Sequence.ofData b).toList) ∧
    ∀ (mode : LexMode) (source : String) (a b : Data), a.Plain → b.Plain →
      store.same? a b = some true →
      let left := Template.compileAndRender ⟨.standard, .standard, mode⟩ source a store
      let right := Template.compileAndRender ⟨.standard, .standard, mode⟩ source b store
      left.result = right.result ∧ left.root.Alike right.root ∧ left.drops = right.drops := by
  have alike {a b : Data} (plain : b.Plain) : store.same? a b = some true ↔ a.Alike b :=
    Data.same?_iff_alike plain
  refine ⟨fun a plain => Data.same?_self plain, fun a b plain plain' same => ?_,
    fun a b c _ plain plain' same same' => ?_, fun a b _ plain => alike plain, ?_,
    fun a b alike => (Sequence.alike_ofData alike).forall₂_toList, ?_⟩
  · rw [alike plain'] at same
    rw [alike plain]
    exact same.symm
  · rw [alike plain] at same
    rw [alike plain'] at same'
    rw [alike plain']
    exact same.trans same'
  · intro pairs others operations operations' entries entries' made made' bound
    refine .hash fun key => ?_
    have step := @TableOperation.onTable_eq Data
    rw [← Table.lookup_toFinmap, ← Table.lookup_toFinmap]
    have here := bound key
    rw [← Table.toFinmap_ofPairs made, ← Table.toFinmap_ofPairs made',
      TableOperation.runAll_eq step, TableOperation.runAll_eq step] at here
    exact here
  · intro mode source a b _ plain same left right
    rw [alike plain] at same
    unfold left right Template.compileAndRender
    cases compiled : Template.compile ⟨.standard, .standard, mode⟩ source with
    | error error => exact ⟨rfl, same, rfl⟩
    | ok template =>
      have builtIn : Node.BuiltIn template.body := by
        unfold Template.compile at compiled
        split at compiled
        · next nodes made =>
          cases compiled
          exact Node.builtIn_of_compile TagTable.standard_builtIn made
        · cases compiled
      exact Template.render_alike FilterTable.respects_standard builtIn same store

/-- A loop over a hash that stands in another one, both of which were made in two different orders
of their entries. -/
theorem equal_data_is_interchangeable_reordered : ∃ inner inner' left right : Table Data,
    Table.ofPairs [("p", .int 1), ("q", .int 2)] = .ok inner ∧
    Table.ofPairs [("q", .int 2), ("p", .int 1)] = .ok inner' ∧
    Table.ofPairs [("h", .hash inner), ("n", .nil)] = .ok left ∧
    Table.ofPairs [("n", .nil), ("h", .hash inner')] = .ok right ∧ left ≠ right ∧
    let source := "\x7b% for e in h %\x7d\x7b\x7b e \x7d\x7d\x7b% endfor %\x7d"
    (Template.compileAndRender .standard source (.hash left) .empty).result =
      (Template.compileAndRender .standard source (.hash right) .empty).result := by
  obtain ⟨inner, builtInner⟩ : ∃ inner : Table Data,
      Table.ofPairs [("p", .int 1), ("q", .int 2)] = .ok inner := ⟨_, rfl⟩
  obtain ⟨inner', builtInner'⟩ : ∃ inner' : Table Data,
      Table.ofPairs [("q", .int 2), ("p", .int 1)] = .ok inner' := ⟨_, rfl⟩
  obtain ⟨left, built, order⟩ : ∃ left : Table Data,
      Table.ofPairs [("h", .hash inner), ("n", .nil)] = .ok left ∧ left.names = ["h", "n"] :=
    ⟨_, rfl, rfl⟩
  obtain ⟨right, built', order'⟩ : ∃ right : Table Data,
      Table.ofPairs [("n", .nil), ("h", .hash inner')] = .ok right ∧ right.names = ["n", "h"] :=
    ⟨_, rfl, rfl⟩
  obtain ⟨-, -, -, equality, histories, -, renders⟩ := equal_data_is_interchangeable .empty
  have alikeInner : (Data.hash inner).Alike (.hash inner') :=
    Data.alike_of_perm (.swap _ _ []) builtInner builtInner'
  have alike : (Data.hash left).Alike (.hash right) :=
    histories _ _ [] [] _ _ built built' fun key => by
      unfold runAll
      rw [Table.lookup_mapOf, Table.lookup_mapOf]
      by_cases isH : key = "h"
      · simp [Table.lookup, isH, alikeInner]
      · by_cases isN : key = "n"
        · simp [Table.lookup, isN, Data.Alike.same]
        · simp [Table.lookup, isH, isN]
  have plainInner : (Data.hash inner).Plain :=
    .of_pairs builtInner (by simp [Data.Plain.int])
  have plainInner' : (Data.hash inner').Plain :=
    .of_pairs builtInner' (by simp [Data.Plain.int])
  have plain : (Data.hash left).Plain :=
    .of_pairs built (by simp [plainInner, Data.Plain.nil])
  have plain' : (Data.hash right).Plain :=
    .of_pairs built' (by simp [plainInner', Data.Plain.nil])
  have same := (equality _ _ plain plain').2 alike
  have reordered : left ≠ right := by
    rintro rfl
    simp [order] at order'
  exact ⟨inner, inner', left, right, builtInner, builtInner', built, built', reordered,
    (renders .strict _ _ _ plain plain' same).1⟩

end TextTemplate
