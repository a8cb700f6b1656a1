import Mathlib.Data.List.Forall2
import Mathlib.Data.List.Perm.Subperm
import TextTemplate.Proofs.Equality
import TextTemplate.Proofs.Sequences

/-!
# Values that differ in the order of hash entries at most

A hash is what it binds: two values are alike if they differ in nothing but the order in which the
entries of hashes came in, at any depth (`Data.Alike`). Equality of values does not tell alike
values apart (`Data.same?_alike`), and without floats and drops it is being alike
(`Data.same?_iff_alike`). Functions on values give alike values for alike values, and the same where
there is no order to be seen; loops go through a hash by its sorted listing, in which alike hashes
have alike entries at equal places (`Table.entries_alike`).
-/

namespace TextTemplate

/-- The values are the same up to the order of the entries of hashes. -/
inductive Data.Alike : Data → Data → Prop
  | same (data : Data) : Alike data data
  | array {items items' : List Data} (alike : List.Forall₂ Alike items items') :
      Alike (.array items) (.array items')
  | hash {entries entries' : Table Data}
      (alike : ∀ key, Option.Rel Alike (entries.get? key) (entries'.get? key)) :
      Alike (.hash entries) (.hash entries')

/-! ## Tables with the same names -/

section Options

variable {α : Type} {rel : α → α → Prop} {x y : Option α} {value : α}

theorem isSome_eq_of_rel (related : Option.Rel rel x y) : x.isSome = y.isSome := by
  cases related <;> rfl

theorem eq_none_of_rel (related : Option.Rel rel none y) : y = none := by
  cases related
  rfl

theorem exists_of_rel (related : Option.Rel rel (some value) y) :
    ∃ other, y = some other ∧ rel value other := by
  cases related with
  | some here => exact ⟨_, rfl, here⟩

theorem rel_symm (back : ∀ {value other}, rel value other → rel other value)
    (related : Option.Rel rel x y) : Option.Rel rel y x := by
  cases related with
  | none => exact .none
  | some here => exact .some (back here)

theorem rel_refl (here : ∀ value, rel value value) (x : Option α) : Option.Rel rel x x := by
  cases x with
  | none => exact .none
  | some value => exact .some (here value)

end Options

namespace Table

variable {α : Type} {left right : Table α} {rel : α → α → Prop}

/-- The sorted names of a table are determined by what names there are. -/
theorem keys_eq (same : ∀ key, left.contains key = right.contains key) :
    left.keys = right.keys := by
  have perm : left.keys.Perm right.keys :=
    (List.perm_ext_iff_of_nodup left.nodup_keys right.nodup_keys).2 fun key => by
      rw [mem_keys, mem_keys, same]
  exact perm.eq_of_pairwise (fun _ _ _ _ before after => absurd before (String.lt_asymm after))
    left.sorted_keys right.sorted_keys

theorem size_eq (same : ∀ key, left.contains key = right.contains key) :
    left.size = right.size := by
  rw [← length_keys, ← length_keys, keys_eq same]

/-- A table that has the names of another one of its size has no other names. -/
theorem contains_of_contains (sizes : left.size = right.size)
    (subset : ∀ key, left.contains key = true → right.contains key = true) {key : String}
    (bound : right.contains key = true) : left.contains key = true := by
  have within : left.keys ⊆ right.keys :=
    fun key member => mem_keys.2 (subset key (mem_keys.1 member))
  have lengths : right.keys.length = left.keys.length := by
    rw [length_keys, length_keys, sizes]
  have perm : left.keys.Perm right.keys :=
    (List.subperm_of_subset left.nodup_keys within).perm_of_length_le lengths.le
  exact mem_keys.1 (perm.mem_iff.2 (mem_keys.2 bound))

/-- Lists with the same names are related entry by entry if values of one name are. -/
theorem forall₂_of_names {entries entries' : List (String × α)}
    (names : entries.map Prod.fst = entries'.map Prod.fst)
    (values : ∀ key x y, (key, x) ∈ entries → (key, y) ∈ entries' → rel x y) :
    List.Forall₂ (fun entry entry' => entry.1 = entry'.1 ∧ rel entry.2 entry'.2)
      entries entries' := by
  induction entries generalizing entries' with
  | nil =>
    rw [List.map_eq_nil_iff.1 names.symm]
    exact .nil
  | cons entry rest ih =>
    obtain ⟨entry', rest', rfl, name, later⟩ := List.map_eq_cons_iff.1 names.symm
    obtain ⟨key, x⟩ := entry
    obtain ⟨key', y⟩ := entry'
    obtain rfl : key' = key := name
    refine .cons ⟨rfl, values _ _ _ List.mem_cons_self List.mem_cons_self⟩ (ih later.symm ?_)
    exact fun key x y member member' => values key x y (.tail _ member) (.tail _ member')

/-- The sorted listings of tables with related bindings are related entry by entry. -/
theorem entries_alike (alike : ∀ key, Option.Rel rel (left.get? key) (right.get? key)) :
    List.Forall₂ (fun entry entry' => entry.1 = entry'.1 ∧ rel entry.2 entry'.2)
      left.entries right.entries := by
  have names : left.keys = right.keys := keys_eq fun key => isSome_eq_of_rel (alike key)
  refine forall₂_of_names names fun key x y isLeft isRight => ?_
  have bound := alike key
  rw [mem_entries.1 isLeft, mem_entries.1 isRight] at bound
  obtain ⟨_, ⟨⟩, here⟩ := exists_of_rel bound
  exact here

theorem rel_set (alike : ∀ key, Option.Rel rel (left.get? key) (right.get? key)) {x y : α}
    (new : rel x y) (key other : String) :
    Option.Rel rel ((left.set key x).get? other) ((right.set key y).get? other) := by
  rw [get?_set, get?_set]
  split
  · exact .some new
  · exact alike other

theorem rel_erase (alike : ∀ key, Option.Rel rel (left.get? key) (right.get? key))
    (key other : String) :
    Option.Rel rel ((left.erase key).get? other) ((right.erase key).get? other) := by
  rw [get?_erase, get?_erase]
  split
  · exact .none
  · exact alike other

end Table

namespace Data

variable {a b c a' b' : Data} {sameDrop : DropId → DropId → Option Bool}

/-! ## Laws -/

instance : Std.Refl Alike := ⟨.same⟩

theorem Alike.of_array {items : List Data} (alike : Alike (.array items) b) :
    ∃ items', b = .array items' ∧ List.Forall₂ Alike items items' := by
  cases alike with
  | same => exact ⟨items, rfl, List.forall₂_refl items⟩
  | array alike => exact ⟨_, rfl, alike⟩

theorem Alike.of_hash {entries : Table Data} (alike : Alike (.hash entries) b) :
    ∃ entries', b = .hash entries' ∧
      ∀ key, Option.Rel Alike (entries.get? key) (entries'.get? key) := by
  cases alike with
  | same => exact ⟨entries, rfl, fun key => rel_refl .same _⟩
  | hash alike => exact ⟨_, rfl, alike⟩

theorem Alike.symm (alike : a.Alike b) : b.Alike a := by
  induction a using Data.induction generalizing b with
  | array items ih =>
    obtain ⟨items', rfl, itemwise⟩ := alike.of_array
    clear alike
    refine .array ?_
    induction itemwise with
    | nil => exact .nil
    | cons here later ih' =>
      exact .cons (ih _ List.mem_cons_self here) (ih' fun item member => ih item (.tail _ member))
  | hash entries ih =>
    obtain ⟨entries', rfl, keywise⟩ := alike.of_hash
    refine .hash fun key => ?_
    have bound := keywise key
    cases isLeft : entries.get? key with
    | none =>
      rw [isLeft] at bound
      rw [eq_none_of_rel bound]
      exact .none
    | some value =>
      rw [isLeft] at bound
      obtain ⟨value', isRight, here⟩ := exists_of_rel bound
      rw [isRight]
      exact .some (ih key value isLeft here)
  | _ =>
    cases alike
    exact .same _

theorem Alike.trans (first : a.Alike b) (second : b.Alike c) : a.Alike c := by
  induction a using Data.induction generalizing b c with
  | array items ih =>
    obtain ⟨items', rfl, itemwise⟩ := first.of_array
    obtain ⟨items'', rfl, itemwise'⟩ := second.of_array
    clear first second
    refine .array ?_
    induction itemwise generalizing items'' with
    | nil =>
      cases itemwise'
      exact .nil
    | cons here later ih' =>
      cases itemwise' with
      | cons here' later' =>
        refine .cons (ih _ List.mem_cons_self here here') ?_
        exact ih' (fun item member => ih item (.tail _ member)) _ later'
  | hash entries ih =>
    obtain ⟨entries', rfl, keywise⟩ := first.of_hash
    obtain ⟨entries'', rfl, keywise'⟩ := second.of_hash
    refine .hash fun key => ?_
    have bound := keywise key
    have bound' := keywise' key
    cases isLeft : entries.get? key with
    | none =>
      rw [isLeft] at bound
      rw [eq_none_of_rel bound] at bound'
      rw [eq_none_of_rel bound']
      exact .none
    | some value =>
      rw [isLeft] at bound
      obtain ⟨value', isMiddle, here⟩ := exists_of_rel bound
      rw [isMiddle] at bound'
      obtain ⟨value'', isRight, here'⟩ := exists_of_rel bound'
      rw [isRight]
      exact .some (ih key value isLeft here here')
  | _ =>
    cases first
    exact second

/-- Hashes with the same bindings are alike, however they came about. -/
theorem alike_of_get? {entries entries' : Table Data}
    (same : ∀ key, entries.get? key = entries'.get? key) :
    (hash entries).Alike (hash entries') := by
  refine .hash fun key => ?_
  rw [same]
  exact rel_refl .same _

/-- Hashes that were made from the same pairs, inserted in two orders, are alike. -/
theorem alike_of_perm {pairs others : List (String × Data)} {entries entries' : Table Data}
    (perm : pairs.Perm others) (made : Table.ofPairs pairs = .ok entries)
    (made' : Table.ofPairs others = .ok entries') : (hash entries).Alike (hash entries') := by
  refine alike_of_get? fun key => Option.ext fun value => ?_
  rw [Table.get?_ofPairs made, Table.get?_ofPairs made', perm.mem_iff]

/-! ## Equality -/

theorem sameItems?_alike {xs xs' ys ys' : List Data}
    (each : ∀ x ∈ xs, ∀ x' y y', x.Alike x' → y.Alike y' →
      same? sameDrop x y = same? sameDrop x' y')
    (alike : List.Forall₂ Alike xs xs') (alike' : List.Forall₂ Alike ys ys') :
    sameItems? sameDrop xs ys = sameItems? sameDrop xs' ys' := by
  induction alike generalizing ys ys' with
  | nil => cases alike' <;> rfl
  | cons here later ih =>
    cases alike' with
    | nil => rfl
    | cons here' later' =>
      unfold sameItems?
      rw [each _ List.mem_cons_self _ _ _ here here',
        ih (fun x member => each x (.tail _ member)) later']

theorem same?_hash_alike {left right left' right' : Table Data}
    (each : ∀ key x, left.get? key = some x → ∀ x' y y', x.Alike x' → y.Alike y' →
      same? sameDrop x y = same? sameDrop x' y')
    (alike : ∀ key, Option.Rel Alike (left.get? key) (left'.get? key))
    (alike' : ∀ key, Option.Rel Alike (right.get? key) (right'.get? key))
    (sizes : left.size = right.size) (sizes' : left'.size = right'.size) :
    same? sameDrop (.hash left) (.hash right) = same? sameDrop (.hash left') (.hash right') := by
  have onLeft (key : String) (x' : Data) (isLeft' : left'.get? key = some x') :
      ∃ x, left.get? key = some x ∧ x'.Alike x := by
    have bound := rel_symm Alike.symm (alike key)
    rw [isLeft'] at bound
    exact exists_of_rel bound
  have onRight (key : String) (y' : Data) (isRight' : right'.get? key = some y') :
      ∃ y, right.get? key = some y ∧ y'.Alike y := by
    have bound := rel_symm Alike.symm (alike' key)
    rw [isRight'] at bound
    exact exists_of_rel bound
  refine eq_of_answers ?_ ?_
  · rw [isSome_same?_hash sizes, isSome_same?_hash sizes']
    constructor
    · intro ends key x' y' isLeft' isRight'
      obtain ⟨x, isLeft, here⟩ := onLeft key x' isLeft'
      obtain ⟨y, isRight, here'⟩ := onRight key y' isRight'
      rw [← each key x isLeft x' y y' here.symm here'.symm]
      exact ends key x y isLeft isRight
    · intro ends key x y isLeft isRight
      have bound := alike key
      have bound' := alike' key
      rw [isLeft] at bound
      rw [isRight] at bound'
      obtain ⟨x', isLeft', here⟩ := exists_of_rel bound
      obtain ⟨y', isRight', here'⟩ := exists_of_rel bound'
      rw [each key x isLeft x' y y' here here']
      exact ends key x' y' isLeft' isRight'
  · rw [same?_hash_eq_true, same?_hash_eq_true, and_iff_right sizes, and_iff_right sizes']
    constructor
    · intro same key x' isLeft'
      obtain ⟨x, isLeft, here⟩ := onLeft key x' isLeft'
      obtain ⟨y, isRight, equal⟩ := same key x isLeft
      have bound' := alike' key
      rw [isRight] at bound'
      obtain ⟨y', isRight', here'⟩ := exists_of_rel bound'
      exact ⟨y', isRight', (each key x isLeft x' y y' here.symm here').symm.trans equal⟩
    · intro same key x isLeft
      have bound := alike key
      rw [isLeft] at bound
      obtain ⟨x', isLeft', here⟩ := exists_of_rel bound
      obtain ⟨y', isRight', equal⟩ := same key x' isLeft'
      obtain ⟨y, isRight, here'⟩ := onRight key y' isRight'
      exact ⟨y, isRight, (each key x isLeft x' y y' here here'.symm).trans equal⟩

/-- Equality of values does not see the order of hash entries. -/
theorem same?_alike (alike : a.Alike a') (alike' : b.Alike b') :
    same? sameDrop a b = same? sameDrop a' b' := by
  induction a using Data.induction generalizing a' b b' with
  | array xs ih =>
    obtain ⟨xs', rfl, itemwise⟩ := alike.of_array
    cases b with
    | array ys =>
      obtain ⟨ys', rfl, itemwise'⟩ := alike'.of_array
      unfold same?
      rw [itemwise.length_eq, itemwise'.length_eq]
      split
      · exact sameItems?_alike (fun x member x' y y' => ih x member) itemwise itemwise'
      · rfl
    | hash right =>
      obtain ⟨right', rfl, -⟩ := alike'.of_hash
      rfl
    | _ =>
      cases alike'
      rfl
  | hash left ih =>
    obtain ⟨left', rfl, keywise⟩ := alike.of_hash
    cases b with
    | hash right =>
      obtain ⟨right', rfl, keywise'⟩ := alike'.of_hash
      have sameSize := Table.size_eq fun key => isSome_eq_of_rel (keywise key)
      have sameSize' := Table.size_eq fun key => isSome_eq_of_rel (keywise' key)
      by_cases sizes : left.size = right.size
      · exact same?_hash_alike (fun key x isLeft x' y y' => ih key x isLeft) keywise keywise' sizes
          (sameSize.symm.trans (sizes.trans sameSize'))
      · rw [same?_hash_of_size_ne sizes, same?_hash_of_size_ne]
        rwa [← sameSize, ← sameSize']
    | array ys =>
      obtain ⟨ys', rfl, -⟩ := alike'.of_array
      rfl
    | _ =>
      cases alike'
      rfl
  | _ =>
    cases alike
    cases b with
    | array ys =>
      obtain ⟨ys', rfl, -⟩ := alike'.of_array
      rfl
    | hash right =>
      obtain ⟨right', rfl, -⟩ := alike'.of_hash
      rfl
    | _ =>
      cases alike'
      rfl

/-- Equality of values tells apart all that differ elsewhere than in drops and floats. -/
theorem alike_of_same? (a b : Data) (same : same? sameDrop a b = some true) (plain : b.Plain) :
    a.Alike b := by
  induction a using Data.induction generalizing b with
  | array xs ih =>
    cases b with
    | array ys =>
      unfold same? at same
      split at same
      · next lengths =>
        cases plain with
        | array plain =>
          refine .array (List.forall₂_iff_zip.2 ⟨lengths, fun {x y} member => ?_⟩)
          have inside := List.of_mem_zip member
          exact ih x inside.1 y (sameItems?_eq_true.1 same x y member) (plain y inside.2)
      · cases same
    | _ => cases same
  | hash left ih =>
    cases b with
    | hash right =>
      obtain ⟨sizes, values⟩ := same?_hash_eq_true.1 same
      cases plain with
      | hash plain =>
        refine .hash fun key => ?_
        cases isLeft : left.get? key with
        | none =>
          have absent : ¬ right.contains key = true := by
            intro bound
            have onLeft := Table.contains_of_contains sizes (fun key isBound => ?_) bound
            · rw [Table.contains, isLeft] at onLeft
              cases onLeft
            · obtain ⟨x, isX⟩ := Option.isSome_iff_exists.1 isBound
              obtain ⟨y, isY, -⟩ := values key x isX
              exact Option.isSome_iff_exists.2 ⟨y, isY⟩
          rw [Option.not_isSome_iff_eq_none.1 absent]
          exact .none
        | some x =>
          obtain ⟨y, isRight, equal⟩ := values key x isLeft
          rw [isRight]
          exact .some (ih key x isLeft y equal (plain key y isRight))
    | _ => cases same
  | drop a =>
    cases b with
    | drop b => cases plain
    | _ => cases same
  | float x =>
    cases b with
    | float y => cases plain
    | _ => cases same
  | nil =>
    cases b with
    | nil => exact .same _
    | _ => cases same
  | bool x =>
    cases b with
    | bool y =>
      have equal : x = y := by simpa [same?] using same
      rw [equal]
      exact .same _
    | _ => cases same
  | int x =>
    cases b with
    | int y =>
      have equal : x = y := by simpa [same?] using same
      rw [equal]
      exact .same _
    | _ => cases same
  | string x =>
    cases b with
    | string y =>
      have equal : x = y := by simpa [same?] using same
      rw [equal]
      exact .same _
    | _ => cases same

/-- A value without floats and drops equals itself. -/
theorem same?_self (plain : a.Plain) : same? sameDrop a a = some true := by
  induction plain with
  | nil => rfl
  | bool b | int n | string text =>
    unfold same?
    rw [beq_self_eq_true]
  | array _ ih =>
    unfold same?
    rw [if_pos rfl]
    have itself : List.Forall₂ (fun x y => same? sameDrop x y = some true) _ _ :=
      List.forall₂_same.2 ih
    exact sameItems?_eq_true.2 fun x y => List.forall₂_zip itself
  | hash _ ih => exact same?_hash_eq_true.2 ⟨rfl, fun key x bound => ⟨x, bound, ih key x bound⟩⟩

/-- Without floats and drops values are equal just if they are alike. -/
theorem same?_iff_alike (plain : b.Plain) : same? sameDrop a b = some true ↔ a.Alike b := by
  refine ⟨fun same => alike_of_same? a b same plain, fun alike => ?_⟩
  rw [same?_alike alike (.same b)]
  exact same?_self plain

/-! ## What is read from values -/

theorem Alike.typeName (alike : a.Alike b) : a.typeName = b.typeName := by
  cases alike <;> rfl

theorem Alike.isTruthy (alike : a.Alike b) : a.isTruthy = b.isTruthy := by
  cases alike <;> rfl

theorem Alike.toInteger? (alike : a.Alike b) : a.toInteger? = b.toInteger? := by
  cases alike <;> rfl

theorem Alike.coerceString? (alike : a.Alike b) : a.coerceString? = b.coerceString? := by
  cases alike <;> rfl

theorem Alike.compare? (alike : a.Alike a') (alike' : b.Alike b') :
    a.compare? b = a'.compare? b' := by
  cases alike <;> cases alike' <;> first | rfl | (cases a <;> rfl)

theorem displayAll_eq {items items' : List Data}
    (each : ∀ item ∈ items, ∀ other, item.Alike other → item.display = other.display)
    (alike : List.Forall₂ Alike items items') : displayAll items = displayAll items' := by
  induction alike with
  | nil => rfl
  | cons here later ih =>
    unfold displayAll
    rw [each _ List.mem_cons_self _ here, ih fun item member => each item (.tail _ member)]

theorem Alike.display (alike : a.Alike b) : a.display = b.display := by
  induction a using Data.induction generalizing b with
  | array items ih =>
    obtain ⟨items', rfl, itemwise⟩ := alike.of_array
    exact displayAll_eq (fun item member other => ih item member) itemwise
  | hash entries =>
    obtain ⟨entries', rfl, -⟩ := alike.of_hash
    rfl
  | _ =>
    cases alike
    rfl

/-! ## Items and bindings -/

section Items

variable {items items' : List Data} (alike : List.Forall₂ Alike items items')

include alike

theorem alike_getD (place : Nat) : (items.getD place .nil).Alike (items'.getD place .nil) := by
  induction alike generalizing place with
  | nil => exact .same _
  | cons here later ih =>
    cases place with
    | zero => exact here
    | succ place => exact ih place

theorem alike_headD : (items.headD .nil).Alike (items'.headD .nil) := by
  cases alike with
  | nil => exact .same _
  | cons here later => exact here

theorem alike_getLastD : (items.getLastD .nil).Alike (items'.getLastD .nil) := by
  rw [List.getLastD_eq_getLast?, List.getLastD_eq_getLast?, List.getLast?_eq_getElem?,
    List.getLast?_eq_getElem?, ← List.getD_eq_getElem?_getD, ← List.getD_eq_getElem?_getD,
    alike.length_eq]
  exact alike_getD alike _

end Items

theorem Alike.itemAt (alike : a.Alike b) (index : Int) :
    (a.itemAt index).Alike (b.itemAt index) := by
  cases alike with
  | same => exact .same _
  | array itemwise =>
    unfold Data.itemAt
    dsimp only
    split
    · exact .same _
    · exact alike_getD itemwise _
  | hash => exact .same _

theorem Alike.binding? (alike : a.Alike b) (key : String) :
    Option.Rel Alike (a.binding? key) (b.binding? key) := by
  cases alike with
  | same => exact rel_refl .same _
  | array => exact .none
  | hash keywise => exact keywise key

/-- Writing under a key is refused for both of two alike values, or leaves alike hashes. -/
theorem Alike.set (alike : a.Alike a') (new : b.Alike b') (key : String) :
    (∃ written written', a.set key b = .ok written ∧ a'.set key b' = .ok written' ∧
      written.Alike written') ∨
    ∃ error, a.set key b = .error error ∧ a'.set key b' = .error error := by
  cases a with
  | hash entries =>
    obtain ⟨entries', rfl, keywise⟩ := alike.of_hash
    exact .inl ⟨_, _, rfl, rfl, .hash (Table.rel_set keywise new key)⟩
  | array items =>
    obtain ⟨items', rfl, -⟩ := alike.of_array
    exact .inr ⟨_, rfl, rfl⟩
  | _ =>
    cases alike
    exact .inr ⟨_, rfl, rfl⟩

theorem Alike.erase (alike : a.Alike b) (key : String) : (a.erase key).Alike (b.erase key) := by
  cases alike with
  | same => exact .same _
  | array itemwise => exact .array itemwise
  | hash keywise => exact .hash (Table.rel_erase keywise key)

end Data

/-! ## Sequences of loops -/

/-- The sequences have alike items at all places. -/
structure Sequence.Alike (first second : Sequence) : Prop where
  length : first.length = second.length
  items : ∀ place, (first.item place).Alike (second.item place)

namespace Sequence

theorem alike_ofList {items items' : List Data} (alike : List.Forall₂ Data.Alike items items') :
    (ofList items).Alike (ofList items') := by
  refine ⟨?_, fun place => ?_⟩
  · show items.toArray.size = items'.toArray.size
    rw [List.size_toArray, List.size_toArray, alike.length_eq]
  · show (items.toArray.getD place .nil).Alike (items'.toArray.getD place .nil)
    rw [Array.getD_eq_getD_getElem?, Array.getD_eq_getD_getElem?, List.getElem?_toArray,
      List.getElem?_toArray, ← List.getD_eq_getElem?_getD, ← List.getD_eq_getElem?_getD]
    exact Data.alike_getD alike place

/-- Loops go through alike values in the same order, through hashes by their sorted listing. -/
theorem alike_ofData {data data' : Data} (alike : data.Alike data') :
    (ofData data).Alike (ofData data') := by
  cases alike with
  | same => exact ⟨rfl, fun place => .same _⟩
  | array itemwise => exact alike_ofList itemwise
  | hash keywise =>
    refine alike_ofList (List.rel_map (fun entry entry' related => ?_)
      (Table.entries_alike keywise))
    obtain ⟨name, value⟩ := related
    refine .array (.cons ?_ (.cons value .nil))
    rw [name]
    exact .same _

theorem Alike.forall₂_toList {first second : Sequence} (alike : first.Alike second) :
    List.Forall₂ Data.Alike first.toList second.toList := by
  unfold toList
  rw [List.forall₂_map_left_iff, List.forall₂_map_right_iff, alike.length]
  exact List.forall₂_same.2 fun place _ => alike.items place

theorem Alike.cut {first second : Sequence} (alike : first.Alike second) (offset : Nat)
    (limit : Option Nat) : (first.cut offset limit).Alike (second.cut offset limit) := by
  obtain ⟨length, items⟩ := alike
  refine ⟨?_, fun place => ?_⟩
  · unfold Sequence.cut
    rw [length]
  · unfold Sequence.cut
    rw [length]
    exact items _

theorem Alike.reverse {first second : Sequence} (alike : first.Alike second) :
    first.reverse.Alike second.reverse := by
  obtain ⟨length, items⟩ := alike
  refine ⟨length, fun place => ?_⟩
  unfold Sequence.reverse
  rw [length]
  exact items _

end Sequence

end TextTemplate
