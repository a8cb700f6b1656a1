import TextTemplate.Loop
import TextTemplate.Proofs.Integers

/-!
# Sequences as lists

`Sequence.toList` lists the items that a sequence computes on demand. Cutting a window out of a
sequence and turning it around are dropping, taking and reversing of that list. No place of it is
come to twice, so that items can be moved out of the list (`windowOf_eq_moveOut`). A range has the
integers between its bounds for items, unless it spans all integers: then there is one item more
than a sequence can have, and the last one is lost (`Sequence.ofRange_exact`,
`Sequence.ofRange_all_integers`).
-/

namespace TextTemplate

/-- The items of a window of a list: what comes after the first `offset` items, and of it at most
`limit`, in reverse order if `reversed` is set. -/
def windowOf (items : List Data) (offset limit : Option Nat) (reversed : Bool) : List Data :=
  let rest := items.drop (offset.getD 0)
  let kept := limit.elim rest rest.take
  if reversed then kept.reverse else kept

/-- The places of a sequence of so many items that a loop takes its items from, one after the other:
from the end of the window to its front if `reversed` is set. -/
def windowPlaces (length : Nat) (offset limit : Option Nat) (reversed : Bool) : List Nat :=
  let first := min (offset.getD 0) length
  let last := limit.elim length fun limit => min (first + limit) length
  let places := List.range' first (last - first)
  if reversed then places.reverse else places

/-- Moves the items at the places out of a list, one after the other. An item that was moved leaves
nil in its place. -/
def moveOut : List Data → List Nat → List Data
  | _, [] => []
  | items, place :: places => items.getD place .nil :: moveOut (items.set place .nil) places

theorem moveOut_of_nodup {places : List Nat} (nodup : places.Nodup) (items : List Data) :
    moveOut items places = places.map fun place => items.getD place .nil := by
  induction places generalizing items with
  | nil => rfl
  | cons place places ih =>
    obtain ⟨fresh, nodup⟩ := List.nodup_cons.1 nodup
    rw [moveOut, ih nodup, List.map_cons]
    refine congrArg _ (List.map_congr_left fun other member => ?_)
    have different : place ≠ other := fun same => fresh (same ▸ member)
    rw [List.getD_eq_getElem?_getD, List.getD_eq_getElem?_getD, List.getElem?_set_ne different]

theorem take_drop_eq_map {items : List Data} {first count : Nat}
    (within : first + count ≤ items.length) : (items.drop first).take count =
      (List.range' first count).map fun place => items.getD place .nil := by
  refine List.ext_getElem ?_ fun place before _ => ?_
  · simp only [List.length_take, List.length_drop, List.length_map, List.length_range']
    omega
  · have inside : first + place < items.length := by
      simp only [List.length_take, List.length_drop] at before
      omega
    simp [inside]

/-- A window of a list has the items at its places. -/
theorem windowOf_eq_map (items : List Data) (offset limit : Option Nat) (reversed : Bool) :
    windowOf items offset limit reversed =
      (windowPlaces items.length offset limit reversed).map fun place => items.getD place .nil := by
  have skips : items.drop (offset.getD 0) = items.drop (min (offset.getD 0) items.length) := by
    rcases Nat.le_total (offset.getD 0) items.length with short | long
    · rw [Nat.min_eq_left short]
    · rw [Nat.min_eq_right long, List.drop_length, List.drop_eq_nil_of_le long]
  have forth : windowOf items offset limit false =
      (windowPlaces items.length offset limit false).map fun place => items.getD place .nil := by
    unfold windowOf windowPlaces
    simp only [Bool.false_eq_true, if_false, skips]
    have rest := List.length_drop (i := min (offset.getD 0) items.length) (l := items)
    cases limit with
    | none =>
      dsimp only [Option.elim]
      rw [← take_drop_eq_map (by omega), List.take_of_length_le (by omega)]
    | some limit =>
      dsimp only [Option.elim]
      rw [← take_drop_eq_map (by omega), List.take_eq_take_iff, rest]
      omega
  cases reversed with
  | false => exact forth
  | true =>
    show (windowOf items offset limit false).reverse =
      ((windowPlaces items.length offset limit false).reverse).map _
    rw [forth, List.map_reverse]

/-- A loop comes to no place of its sequence twice, so that moving the items out changes nothing:
no iteration finds the nil that another one left. -/
theorem windowOf_eq_moveOut (items : List Data) (offset limit : Option Nat) (reversed : Bool) :
    (windowPlaces items.length offset limit reversed).Nodup ∧
      (∀ place ∈ windowPlaces items.length offset limit reversed, place < items.length) ∧
      windowOf items offset limit reversed =
        moveOut items (windowPlaces items.length offset limit reversed) := by
  have nodup : (windowPlaces items.length offset limit reversed).Nodup := by
    unfold windowPlaces
    cases reversed with
    | false => exact List.nodup_range'
    | true => exact (List.reverse_perm _).nodup_iff.2 List.nodup_range'
  refine ⟨nodup, fun place member => ?_, ?_⟩
  · have forth : place ∈ windowPlaces items.length offset limit false := by
      cases reversed with
      | false => exact member
      | true => exact List.mem_reverse.1 member
    have bounds := List.mem_range'_1.1 forth
    cases limit with
    | none =>
      dsimp only [Option.elim] at bounds
      omega
    | some limit =>
      dsimp only [Option.elim] at bounds
      omega
  · rw [moveOut_of_nodup nodup, windowOf_eq_map]

namespace Sequence

variable {sequence : Sequence} {first last : Int64}

/-- The items, in order. -/
def toList (sequence : Sequence) : List Data :=
  (List.range sequence.length).map sequence.item

@[simp] theorem length_toList : sequence.toList.length = sequence.length := by
  rw [toList, List.length_map, List.length_range]

theorem getElem?_toList (sequence : Sequence) (place : Nat) :
    sequence.toList[place]? =
      if place < sequence.length then some (sequence.item place) else none := by
  rw [toList, List.getElem?_map]
  split
  · next before => rw [List.getElem?_range before, Option.map_some]
  · next past => rw [List.getElem?_eq_none (by rw [List.length_range]; omega), Option.map_none]

/-- A list is that of a sequence if it has the items at their places. -/
theorem toList_eq_of_getElem? {items : List Data} (length : items.length = sequence.length)
    (same : ∀ place < sequence.length, items[place]? = some (sequence.item place)) :
    sequence.toList = items := by
  refine List.ext_getElem? fun place => ?_
  rw [getElem?_toList]
  split
  · next before => rw [same place before]
  · next past => rw [List.getElem?_eq_none (by omega)]

@[simp] theorem toList_ofList (items : List Data) : (ofList items).toList = items := by
  refine toList_eq_of_getElem? ?_ fun place before => ?_
  · simp [ofList]
  · have inside : place < items.length := by simpa [ofList] using before
    simp [ofList, inside]

theorem toList_cut (sequence : Sequence) (offset limit : Option Nat) :
    (sequence.cut (offset.getD 0) limit).toList = windowOf sequence.toList offset limit false := by
  have dropped (place : Nat) (before : place < sequence.length - offset.getD 0) :
      (sequence.toList.drop (offset.getD 0))[place]? =
        some (sequence.item (min (offset.getD 0) sequence.length + place)) := by
    rw [List.getElem?_drop, getElem?_toList, if_pos (by omega), Nat.min_eq_left (by omega)]
  cases limit with
  | none =>
    refine toList_eq_of_getElem? ?_ fun place before => ?_
    · simp only [windowOf, cut, Option.elim, Option.getD_none, Bool.false_eq_true, if_false,
        List.length_drop, length_toList]
      omega
    · simp only [cut, Option.getD_none] at before
      exact dropped place (by omega)
  | some limit =>
    refine toList_eq_of_getElem? ?_ fun place before => ?_
    · simp only [windowOf, cut, Option.elim, Option.getD_some, Bool.false_eq_true, if_false,
        List.length_take, List.length_drop, length_toList]
      omega
    · simp only [cut, Option.getD_some] at before
      exact (List.getElem?_take_of_lt (by omega)).trans (dropped place (by omega))

theorem toList_reverse (sequence : Sequence) :
    sequence.reverse.toList = sequence.toList.reverse := by
  refine toList_eq_of_getElem? (by simp [reverse]) fun place before => ?_
  change place < sequence.length at before
  rw [List.getElem?_reverse (by rwa [length_toList]), getElem?_toList, length_toList,
    if_pos (by omega)]
  rfl

/-! ## Ranges -/

/-- The integers from `first` to `last`, both among them. -/
def integers (first last : Int64) : List Data :=
  (List.range (last.toInt - first.toInt + 1).toNat).map fun place : Nat =>
    .int (.ofInt (first.toInt + place))

theorem fits_place {place : Nat} (before : place < (last.toInt - first.toInt + 1).toNat) :
    Number.Fits (first.toInt + place) := by
  have least := first.minValue_le_toInt
  have most := last.toInt_le
  constructor
  · omega
  · omega

theorem toInt_ofInt_add {place : Nat} (before : place < (last.toInt - first.toInt + 1).toNat) :
    (Int64.ofInt (first.toInt + place)).toInt = first.toInt + place :=
  Number.toInt_ofInt (fits_place before)

theorem item_ofRange {place : Nat} (before : place < (last.toInt - first.toInt + 1).toNat) :
    (ofRange first last).item place = .int (.ofInt (first.toInt + place)) := by
  simp only [ofRange, Number.ofInt?_of_fits (fits_place before)]

theorem length_ofRange (notAll : ¬ (first = Int64.minValue ∧ last = Int64.maxValue)) :
    (ofRange first last).length = (last.toInt - first.toInt + 1).toNat := by
  have least := first.le_toInt
  have most := last.toInt_le
  rw [Int64.toInt_maxValue] at most
  have short : last.toInt - first.toInt + 1 < 2 ^ 64 := by
    rw [← Int64.toInt_inj, ← Int64.toInt_inj, Int64.toInt_minValue, Int64.toInt_maxValue] at notAll
    omega
  show min _ (UInt64.size - 1) = _
  rw [show UInt64.size = 2 ^ 64 from rfl]
  omega

theorem toList_ofRange (notAll : ¬ (first = Int64.minValue ∧ last = Int64.maxValue)) :
    (ofRange first last).toList = integers first last := by
  rw [toList, length_ofRange notAll, integers]
  exact List.map_congr_left fun place member => item_ofRange (List.mem_range.1 member)

/-- A range that does not span all integers has the integers from one bound to the other for
items, however near the ends of the 64-bit integers the bounds are. So its last item, which comes
first when it is turned around, is its last bound. -/
theorem ofRange_exact (notAll : ¬ (first = Int64.minValue ∧ last = Int64.maxValue)) :
    (ofRange first last).length = (last.toInt - first.toInt + 1).toNat ∧
      (∀ place < (ofRange first last).length, ∃ n : Int64,
        (ofRange first last).item place = .int n ∧ n.toInt = first.toInt + place) ∧
      (first ≤ last → (ofRange first last).toList.getLast? = some (.int last) ∧
        (ofRange first last).reverse.toList.head? = some (.int last)) := by
  have length := length_ofRange notAll
  refine ⟨length, fun place before => ?_, fun ordered => ?_⟩
  · rw [length] at before
    exact ⟨_, item_ofRange before, toInt_ofInt_add before⟩
  · rw [Int64.le_iff_toInt_le] at ordered
    have ends : (ofRange first last).toList.getLast? = some (.int last) := by
      have before : (last.toInt - first.toInt).toNat < (last.toInt - first.toInt + 1).toNat := by
        omega
      have same : first.toInt + ((last.toInt - first.toInt).toNat : Int) = last.toInt := by omega
      rw [List.getLast?_eq_getElem?, length_toList, length, getElem?_toList, length,
        show (last.toInt - first.toInt + 1).toNat - 1 = (last.toInt - first.toInt).toNat by omega,
        if_pos before, item_ofRange before, same, Int64.ofInt_toInt]
    rw [toList_reverse, List.head?_reverse]
    exact ⟨ends, ends⟩

/-- All integers but the smallest one, counted down from the largest. -/
theorem ofRange_exact_widest :
    (ofRange (Int64.minValue + 1) Int64.maxValue).length = 18446744073709551615 ∧
      (ofRange (Int64.minValue + 1) Int64.maxValue).reverse.toList.head? =
        some (.int Int64.maxValue) := by
  have notAll : ¬ (Int64.minValue + 1 = Int64.minValue ∧ Int64.maxValue = Int64.maxValue) := by
    decide
  obtain ⟨length, -, ends⟩ := ofRange_exact notAll
  exact ⟨length.trans (by decide), (ends (by decide)).2⟩

/-- Of all integers the largest one is lost: the range has an item too few, and turned around it
begins with the integer below. -/
theorem ofRange_all_integers :
    (ofRange Int64.minValue Int64.maxValue).length + 1 =
        (Int64.maxValue.toInt - Int64.minValue.toInt + 1).toNat ∧
      (ofRange Int64.minValue Int64.maxValue).reverse.item 0 = .int (Int64.maxValue - 1) :=
  ⟨by decide, rfl⟩

end Sequence

end TextTemplate
