import Mathlib.Tactic.Push
import TextTemplate.Proofs.Equality

/-!
# Comparing values one after the other

Equality of values asks for the values of all shared keys of two hashes before it answers. A
comparison that runs goes through the entries one after the other, in an order that nothing fixes,
and stops at the first one that decides it (`Data.ComesTo`). What the former answers every such run
comes to (`Data.ComesTo.answer_eq`); and some run comes to no answer or to that of the former
(`Data.exists_comesTo`), so that where the former has none, a run has none.
-/

namespace TextTemplate.Data

/-- The values of entries, each with the one that a table binds to the same name. -/
def beside (right : Table Data) (entries : List (String × Data)) : List (Data × Option Data) :=
  entries.map fun entry => (entry.2, right.get? entry.1)

section Definition

variable (drops : DropId → DropId → Option Bool → Prop)

mutual

/-- Comparing the two values can come to this: whether they are equal, or none if no answer was
reached. `drops` tells what comparing two drops can come to. The entries of a hash may be gone
through in any order. -/
inductive ComesTo : Data → Data → Option Bool → Prop
  | nil : ComesTo .nil .nil (some true)
  | bool (x y : Bool) : ComesTo (.bool x) (.bool y) (some (x == y))
  | int (m n : Int64) : ComesTo (.int m) (.int n) (some (m == n))
  | float (x y : Float) : ComesTo (.float x) (.float y) (some (x == y))
  | string (s t : String) : ComesTo (.string s) (.string t) (some (s == t))
  | array {xs ys : List Data} {answer : Option Bool} (lengths : xs.length = ys.length)
      (items : AllComeTo (xs.zip (ys.map some)) answer) : ComesTo (.array xs) (.array ys) answer
  | lengths {xs ys : List Data} (differ : xs.length ≠ ys.length) :
      ComesTo (.array xs) (.array ys) (some false)
  | hash {left right : Table Data} {entries : List (String × Data)} {answer : Option Bool}
      (sizes : left.size = right.size) (listed : entries.Perm left.toList)
      (values : AllComeTo (beside right entries) answer) :
      ComesTo (.hash left) (.hash right) answer
  | sizes {left right : Table Data} (differ : left.size ≠ right.size) :
      ComesTo (.hash left) (.hash right) (some false)
  | drop {a b : DropId} {answer : Option Bool} (comes : drops a b answer) :
      ComesTo (.drop a) (.drop b) answer
  | types {a b : Data} (differ : a.typeName ≠ b.typeName) : ComesTo a b (some false)

/-- Comparing values with those in their places, if any are there, can come to this: they are gone
through up to the first that is missing, differs or has no answer. -/
inductive AllComeTo : List (Data × Option Data) → Option Bool → Prop
  | done : AllComeTo [] (some true)
  | missing {x : Data} {rest : List (Data × Option Data)} : AllComeTo ((x, none) :: rest) (some false)
  | next {x y : Data} {rest : List (Data × Option Data)} {answer : Option Bool}
      (here : ComesTo x y (some true)) (later : AllComeTo rest answer) :
      AllComeTo ((x, some y) :: rest) answer
  | last {x y : Data} {rest : List (Data × Option Data)} {answer : Option Bool}
      (here : ComesTo x y answer) (decides : answer ≠ some true) :
      AllComeTo ((x, some y) :: rest) answer

end

/-- Whether a value equals the one in its place. -/
def sameAt? (sameDrop : DropId → DropId → Option Bool) : Data × Option Data → Option Bool
  | (x, some y) => same? sameDrop x y
  | (_, none) => some false

end Definition

variable {drops : DropId → DropId → Option Bool → Prop} {sameDrop : DropId → DropId → Option Bool}

theorem comesTo_drop_iff {a b : DropId} {answer : Option Bool} :
    ComesTo drops (.drop a) (.drop b) answer ↔ drops a b answer := by
  constructor
  · intro comes
    cases comes with
    | drop comes => exact comes
    | types differ => exact absurd rfl differ
  · exact .drop

theorem exists_of_mem_beside {right : Table Data} {entries : List (String × Data)} {x : Data}
    {found : Option Data} (member : (x, found) ∈ beside right entries) :
    ∃ key, (key, x) ∈ entries ∧ right.get? key = found := by
  obtain ⟨⟨key, value⟩, inside, here⟩ := List.mem_map.1 member
  cases here
  exact ⟨key, inside, rfl⟩

theorem same?_of_typeName_ne {a b : Data} (differ : a.typeName ≠ b.typeName) :
    same? sameDrop a b = some false := by
  cases a <;> cases b <;> first | rfl | exact absurd rfl differ

theorem sameItems?_eq_firstDecided (xs ys : List Data) : sameItems? sameDrop xs ys =
    firstDecided ((xs.zip (ys.map some)).map (sameAt? sameDrop)) := by
  rw [sameItems?_eq, List.zip_map_right, List.map_map]
  rfl

/-- Where hashes of one size have an answer, it is what their entries come to in any order. -/
theorem same?_hash_eq_firstDecided {left right : Table Data} {entries : List (String × Data)}
    (sizes : left.size = right.size) (listed : entries.Perm left.toList)
    (ends : (same? sameDrop (.hash left) (.hash right)).isSome = true) :
    same? sameDrop (.hash left) (.hash right) =
      firstDecided ((beside right entries).map (sameAt? sameDrop)) := by
  rw [beside, List.map_map]
  refine eq_of_answers (iff_of_true ends ?_) ?_
  · apply isSome_firstDecided
    rw [List.forall_mem_map, Prod.forall]
    intro key x member
    have isLeft := Table.mem_toList.1 (listed.mem_iff.1 member)
    show (sameAt? sameDrop (x, right.get? key)).isSome = true
    cases isRight : right.get? key with
    | none => rfl
    | some y => exact (isSome_same?_hash sizes).1 ends key x y isLeft isRight
  · rw [same?_hash_eq_true, and_iff_right sizes, firstDecided_eq_true, List.forall_mem_map,
      Prod.forall]
    refine forall₂_congr fun key x => ?_
    rw [← Table.mem_toList, ← listed.mem_iff]
    refine imp_congr_right fun _ => ?_
    show _ ↔ sameAt? sameDrop (x, right.get? key) = some true
    cases right.get? key <;> simp [sameAt?]

/-! ## What is answered at all is what every run comes to -/

theorem AllComeTo.answer_eq {pairs : List (Data × Option Data)}
    (known : ∀ x y, (x, some y) ∈ pairs → ∀ result, same? sameDrop x y = some result →
      ∀ answer, ComesTo drops x y answer → answer = some result)
    {result : Bool} (same : firstDecided (pairs.map (sameAt? sameDrop)) = some result)
    {answer : Option Bool} (comes : AllComeTo drops pairs answer) : answer = some result := by
  induction pairs with
  | nil =>
    cases comes
    exact same
  | cons pair rest ih =>
    cases comes with
    | missing => exact same
    | @next x y _ _ here later =>
      rw [List.map_cons, sameAt?] at same
      cases compared : same? sameDrop x y with
      | none =>
        rw [compared] at same
        cases same
      | some decided =>
        cases known x y List.mem_cons_self decided compared _ here
        rw [compared] at same
        exact ih (fun x y member => known x y (.tail _ member)) same later
    | @last x y _ _ here decides =>
      rw [List.map_cons, sameAt?] at same
      cases compared : same? sameDrop x y with
      | none =>
        rw [compared] at same
        cases same
      | some decided =>
        cases known x y List.mem_cons_self decided compared _ here
        rw [compared] at same
        cases decided with
        | true => exact absurd rfl decides
        | false => exact same

/-- Where the values have an answer, every run comes to it. -/
theorem ComesTo.answer_eq {a b : Data} {answer : Option Bool} (comes : ComesTo drops a b answer)
    (known : ∀ a b result, sameDrop a b = some result → ∀ answer, drops a b answer →
      answer = some result) {result : Bool} (same : same? sameDrop a b = some result) :
    answer = some result := by
  induction a using Data.induction generalizing b result answer with
  | array xs ih =>
    cases comes with
    | array lengths items =>
      unfold same? at same
      rw [if_pos lengths, sameItems?_eq_firstDecided] at same
      refine items.answer_eq (fun x y member result same answer comes => ?_) same
      exact ih x (List.of_mem_zip member).1 comes same
    | lengths differ =>
      unfold same? at same
      rwa [if_neg differ] at same
    | types differ => rwa [same?_of_typeName_ne differ] at same
  | hash left ih =>
    cases comes with
    | @hash _ right entries _ sizes listed values =>
      have ends : (same? sameDrop (.hash left) (.hash right)).isSome = true := by rw [same]; rfl
      rw [same?_hash_eq_firstDecided sizes listed ends] at same
      refine values.answer_eq (fun x y member result same answer comes => ?_) same
      obtain ⟨key, inside, -⟩ := exists_of_mem_beside member
      exact ih key x (Table.mem_toList.1 (listed.mem_iff.1 inside)) comes same
    | sizes differ => rwa [same?_hash_of_size_ne differ] at same
    | types differ => rwa [same?_of_typeName_ne differ] at same
  | drop a =>
    cases comes with
    | drop comes => exact known a _ result same answer comes
    | types differ => rwa [same?_of_typeName_ne differ] at same
  | nil | bool _ | int _ | float _ | string _ =>
    cases comes with
    | types differ => rwa [same?_of_typeName_ne differ] at same
    | _ => exact same

/-! ## A run with that answer or none -/

theorem exists_allComeTo {pairs : List (Data × Option Data)}
    (each : ∀ x y, (x, some y) ∈ pairs → ComesTo drops x y none ∨
      ∃ result, same? sameDrop x y = some result ∧ ComesTo drops x y (some result)) :
    AllComeTo drops pairs none ∨ ∃ result,
      firstDecided (pairs.map (sameAt? sameDrop)) = some result ∧
        AllComeTo drops pairs (some result) := by
  induction pairs with
  | nil => exact .inr ⟨true, rfl, .done⟩
  | cons pair rest ih =>
    obtain ⟨x, _ | y⟩ := pair
    · exact .inr ⟨false, rfl, .missing⟩
    · rcases each x y List.mem_cons_self with endless | ⟨decided, compared, here⟩
      · exact .inl (.last endless nofun)
      · cases decided with
        | false =>
          refine .inr ⟨false, ?_, .last here nofun⟩
          rw [List.map_cons, sameAt?, compared]
          rfl
        | true =>
          rcases ih fun x y member => each x y (.tail _ member) with endless | ⟨result, same, later⟩
          · exact .inl (.next here endless)
          · refine .inr ⟨result, ?_, .next here later⟩
            rw [List.map_cons, sameAt?, compared]
            exact same

theorem exists_comesTo_hash {left right : Table Data} (sizes : left.size = right.size)
    (each : ∀ key x, left.get? key = some x → ∀ y, ComesTo drops x y none ∨
      ∃ result, same? sameDrop x y = some result ∧ ComesTo drops x y (some result)) :
    ComesTo drops (.hash left) (.hash right) none ∨
      ∃ result, same? sameDrop (.hash left) (.hash right) = some result ∧
        ComesTo drops (.hash left) (.hash right) (some result) := by
  by_cases ends : (same? sameDrop (.hash left) (.hash right)).isSome = true
  · have values (x y : Data) (member : (x, some y) ∈ beside right left.toList) :
        ComesTo drops x y none ∨
          ∃ result, same? sameDrop x y = some result ∧ ComesTo drops x y (some result) := by
      obtain ⟨key, inside, -⟩ := exists_of_mem_beside member
      exact each key x (Table.mem_toList.1 inside) y
    rw [same?_hash_eq_firstDecided sizes (.refl _) ends]
    rcases exists_allComeTo values with endless | ⟨result, same, comes⟩
    · exact .inl (.hash sizes (.refl _) endless)
    · exact .inr ⟨result, same, .hash sizes (.refl _) comes⟩
  · -- some shared key has values without an answer, and a run may begin with it
    rw [isSome_same?_hash sizes] at ends
    push Not at ends
    obtain ⟨key, x, y, isLeft, isRight, undecided⟩ := ends
    have endless : ComesTo drops x y none := by
      rcases each key x isLeft y with endless | ⟨result, same, -⟩
      · exact endless
      · rw [same] at undecided
        exact absurd rfl undecided
    obtain ⟨before, after, entries⟩ := List.append_of_mem (Table.mem_toList.2 isLeft)
    have listed : ((key, x) :: (before ++ after)).Perm left.toList := by
      rw [entries]
      exact List.perm_middle.symm
    refine .inl (.hash sizes listed ?_)
    rw [beside, List.map_cons, isRight]
    exact .last endless nofun

/-- Some run comes to no answer or to that of the values. Where these have none, it is one that goes
first to an entry without an answer. -/
theorem exists_comesTo (each : ∀ a b, drops a b none ∨
      ∃ result, sameDrop a b = some result ∧ drops a b (some result)) (a b : Data) :
    ComesTo drops a b none ∨
      ∃ result, same? sameDrop a b = some result ∧ ComesTo drops a b (some result) := by
  induction a using Data.induction generalizing b with
  | array xs ih =>
    cases b with
    | array ys =>
      unfold same?
      by_cases lengths : xs.length = ys.length
      · rw [if_pos lengths, sameItems?_eq_firstDecided]
        have items (x y : Data) (member : (x, some y) ∈ xs.zip (ys.map some)) :=
          ih x (List.of_mem_zip member).1 y
        rcases exists_allComeTo items with endless | ⟨result, same, comes⟩
        · exact .inl (.array lengths endless)
        · exact .inr ⟨result, same, .array lengths comes⟩
      · exact .inr ⟨false, if_neg lengths, .lengths lengths⟩
    | _ => exact .inr ⟨false, rfl, .types (by simp [typeName])⟩
  | hash left ih =>
    cases b with
    | hash right =>
      by_cases sizes : left.size = right.size
      · exact exists_comesTo_hash sizes ih
      · exact .inr ⟨false, same?_hash_of_size_ne sizes, .sizes sizes⟩
    | _ => exact .inr ⟨false, rfl, .types (by simp [typeName])⟩
  | drop a =>
    cases b with
    | drop b =>
      rcases each a b with endless | ⟨result, same, comes⟩
      · exact .inl (.drop endless)
      · exact .inr ⟨result, same, .drop comes⟩
    | _ => exact .inr ⟨false, rfl, .types (by simp [typeName])⟩
  | nil =>
    cases b with
    | nil => exact .inr ⟨true, rfl, .nil⟩
    | _ => exact .inr ⟨false, rfl, .types (by simp [typeName])⟩
  | bool x =>
    cases b with
    | bool y => exact .inr ⟨_, rfl, .bool x y⟩
    | _ => exact .inr ⟨false, rfl, .types (by simp [typeName])⟩
  | int m =>
    cases b with
    | int n => exact .inr ⟨_, rfl, .int m n⟩
    | _ => exact .inr ⟨false, rfl, .types (by simp [typeName])⟩
  | float x =>
    cases b with
    | float y => exact .inr ⟨_, rfl, .float x y⟩
    | _ => exact .inr ⟨false, rfl, .types (by simp [typeName])⟩
  | string s =>
    cases b with
    | string t => exact .inr ⟨_, rfl, .string s t⟩
    | _ => exact .inr ⟨false, rfl, .types (by simp [typeName])⟩

end TextTemplate.Data
