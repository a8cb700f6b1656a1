import TextTemplate.Filter.Collection
import TextTemplate.Filter.Text
import TextTemplate.Proofs.Integers
import TextTemplate.Proofs.Table

/-!
# Sizes

The size of a value is the number of its characters, items or entries. The filter `size` answers it
for every value but a hash with an entry called `size`, for which it answers that entry
(`Filter.size_eq`). So sizes add up when texts are joined, stay when items are turned around, and
grow by one with a new entry (`Filter.size_counts`).
-/

namespace TextTemplate

/-- Writing under a new name adds one entry. -/
theorem Table.size_set {α : Type} {table : Table α} {key : String} (value : α)
    (unbound : table.get? key = none) : (table.set key value).size = table.size + 1 := by
  have absent : key ∉ table.toList.map Prod.fst := by
    intro member
    obtain ⟨⟨_, old⟩, isEntry, rfl⟩ := List.mem_map.1 member
    rw [mem_toList.1 isEntry] at unbound
    cases unbound
  have names : (table.set key value).toList.map Prod.fst = table.toList.map Prod.fst ++ [key] := by
    rw [set, toList_ofDistinct, map_fst_bind, if_neg absent]
  rw [← length_toList, ← length_toList, ← List.length_map Prod.fst, names, List.length_append,
    List.length_map]
  rfl

/-- The number of characters, items or entries; zero for scalars other than strings, and for
drops. -/
def Data.count : Data → Nat
  | .string text => text.length
  | .array items => items.length
  | .hash entries => entries.size
  | _ => 0

namespace Filter

/-- The filter `size` answers an integer, which is `n` unless `n` is too large for an integer. -/
def Sized (data : Data) (n : Nat) : Prop :=
  ∃ m : Int64, size data [] = .ok (.int m) ∧ m.toInt = min (n : Int) Int64.maxValue.toInt

/-- An entry called `size` goes before the count. -/
theorem size_eq (input : Data) :
    size input [] = .ok ((input.binding? "size").getD (.ofNat input.count)) := by
  cases input <;> rfl

theorem sized_of_unnamed {input : Data} (unnamed : input.binding? "size" = none) :
    Sized input input.count := by
  refine ⟨Number.ofNat input.count, ?_, Number.toInt_ofNat_eq_min _⟩
  rw [size_eq, unnamed]
  rfl

/-- The filter `size` counts. It answers the number of characters of a string, of items of an array,
of entries of a hash without an entry called `size`, and zero for all other values. So a text that
is appended adds its size, turning an array around keeps its size, and a new entry, if not called
`size` itself, adds one. -/
theorem size_counts (input : Data) (unnamed : input.binding? "size" = none) :
    Sized input input.count ∧
    (∀ text tail, input = .string text → ∃ joined,
      append input [.string tail] = .ok joined ∧
        Sized joined (input.count + (Data.string tail).count)) ∧
    (∀ items, input = .array items → ∃ turned,
      reverse input [] = .ok turned ∧ Sized turned input.count) ∧
    (∀ entries key value, input = .hash entries → entries.get? key = none → key ≠ "size" →
      ∃ grown, input.insert key value = .ok grown ∧ Sized grown (input.count + 1)) := by
  refine ⟨sized_of_unnamed unnamed, ?_, ?_, ?_⟩
  · rintro text tail rfl
    have length : (Data.string (text ++ tail)).count =
        (Data.string text).count + (Data.string tail).count := String.length_append text tail
    rw [← length]
    exact ⟨_, rfl, sized_of_unnamed rfl⟩
  · rintro items rfl
    have length : (Data.array items.reverse).count = (Data.array items).count :=
      List.length_reverse
    rw [← length]
    exact ⟨_, rfl, sized_of_unnamed rfl⟩
  · rintro entries key value rfl unbound other
    have inserted : (Data.hash entries).insert key value = .ok (.hash (entries.set key value)) := by
      simp [Data.insert, Table.insert, Table.contains, unbound]
    have grown : (Data.hash (entries.set key value)).count = (Data.hash entries).count + 1 :=
      Table.size_set value unbound
    have stillUnnamed : (Data.hash (entries.set key value)).binding? "size" = none := by
      change (entries.set key value).get? "size" = none
      rw [Table.get?_set, if_neg (Ne.symm other)]
      exact unnamed
    rw [← grown]
    exact ⟨_, inserted, sized_of_unnamed stillUnnamed⟩

/-- A hash with two entries has the size two. -/
theorem size_counts_two_entries :
    Sized (.hash (.ofList [("a", .int 1), ("sizes", .nil)])) 2 :=
  (size_counts (.hash (.ofList [("a", .int 1), ("sizes", .nil)])) (by decide)).1

/-- The size of a hash is whatever its entry called `size` is, be it a number or not. -/
theorem size_answers_entry :
    size (.hash (.ofList [("size", .string "large")])) [] = .ok (.string "large") ∧
      ∀ n, ¬ Sized (.hash (.ofList [("size", .string "large")])) n := by
  have answer : size (.hash (.ofList [("size", .string "large")])) [] = .ok (.string "large") := by
    rw [size_eq]
    rfl
  refine ⟨answer, ?_⟩
  rintro n ⟨m, counted, -⟩
  rw [answer] at counted
  cases counted

end Filter

end TextTemplate
