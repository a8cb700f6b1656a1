import Mathlib.Data.Fintype.Pigeonhole
import Mathlib.Data.Fintype.Prod
import Mathlib.Logic.Relation
import TextTemplate.Proofs.Comparing
import TextTemplate.Proofs.DropCache

/-!
# Drops that refer to each other in a circle

Comparing two drops compares their caches if these have one size, and so can come to further pairs
of drops, those under keys that both caches have (`DropStore.Leads`). There are no more pairs than
the bound of `DropStore.sameDrop?`, so what is decided after any number of steps is decided by it
(`DropStore.sameDrop?_eq_some_iff`). It is what every run of the comparison comes to, in whatever
order it goes through the entries of hashes and caches (`DropStore.same?_eq_some_iff_comesTo`). A
comparison without an answer runs on over finitely many pairs and so comes back to one of them; and
where it comes back, it never finds two drops equal (`DropStore.same?_ends_off_circles`). Two drops
that each hold themselves are such a pair (`DropStore.twin_circles_never_compared`).
-/

namespace TextTemplate

open Relation (ReflTransGen TransGen)

/-- Comparing the two values can come to these two drops: they stand at equal places of arrays of
one length, or under one key in hashes of one size. Hashes of one size need not have the same keys,
since an order of the entries may come to a shared key before it comes to one that is missing. -/
inductive Data.Meets : Data → Data → DropId × DropId → Prop
  | drop (a b : DropId) : Meets (.drop a) (.drop b) (a, b)
  | array {xs ys : List Data} {x y : Data} {pair : DropId × DropId}
      (lengths : xs.length = ys.length) (member : (x, y) ∈ xs.zip ys) (meets : Meets x y pair) :
      Meets (.array xs) (.array ys) pair
  | hash {left right : Table Data} {key : String} {x y : Data} {pair : DropId × DropId}
      (sizes : left.size = right.size) (isLeft : left.get? key = some x)
      (isRight : right.get? key = some y) (meets : Meets x y pair) :
      Meets (.hash left) (.hash right) pair

namespace Data

variable {sameDrop other : DropId → DropId → Option Bool}

theorem sameItems?_congr {xs ys : List Data}
    (agree : ∀ x y, (x, y) ∈ xs.zip ys → same? sameDrop x y = same? other x y) :
    sameItems? sameDrop xs ys = sameItems? other xs ys := by
  rw [sameItems?_eq, sameItems?_eq]
  exact congrArg firstDecided (List.map_congr_left fun pair => agree pair.1 pair.2)

/-- What two values compare to depends on the drops they meet in only. -/
theorem same?_congr (a b : Data)
    (agree : ∀ pair, Meets a b pair → sameDrop pair.1 pair.2 = other pair.1 pair.2) :
    same? sameDrop a b = same? other a b := by
  induction a using Data.induction generalizing b with
  | array xs ih =>
    cases b with
    | array ys =>
      unfold same?
      split
      · next lengths =>
        apply sameItems?_congr
        intro x y member
        exact ih x (List.of_mem_zip member).1 y fun pair meets =>
          agree pair (.array lengths member meets)
      · rfl
    | _ => rfl
  | hash left ih =>
    cases b with
    | hash right =>
      by_cases sizes : left.size = right.size
      · have values (key : String) (x y : Data) (isLeft : left.get? key = some x)
            (isRight : right.get? key = some y) : same? sameDrop x y = same? other x y :=
          ih key x isLeft y fun pair meets => agree pair (.hash sizes isLeft isRight meets)
        exact same?_hash_congr sizes values
      · rw [same?_hash_of_size_ne sizes, same?_hash_of_size_ne sizes]
    | _ => rfl
  | drop a =>
    cases b with
    | drop b => exact agree (a, b) (.drop a b)
    | _ => rfl
  | nil | bool _ | int _ | float _ | string _ => cases b <;> rfl

/-- Two values are compared to an end if the drops they meet in are. -/
theorem isSome_same?_of_meets {a b : Data}
    (ends : ∀ pair, Meets a b pair → (sameDrop pair.1 pair.2).isSome = true) :
    (same? sameDrop a b).isSome = true := by
  have total : same? sameDrop a b = same? (fun a b => some ((sameDrop a b).getD false)) a b := by
    apply same?_congr
    intro pair meets
    obtain ⟨same, decided⟩ := Option.isSome_iff_exists.1 (ends pair meets)
    simp [decided]
  rw [total]
  exact isSome_same? a b fun _ _ _ => rfl

/-- Equal values meet in equal drops. -/
theorem Meets.same {a b : Data} {pair : DropId × DropId} (meets : Meets a b pair)
    (same : same? sameDrop a b = some true) : sameDrop pair.1 pair.2 = some true := by
  induction meets with
  | drop a b => exact same
  | array lengths member meets ih =>
    apply ih
    unfold same? at same
    rw [if_pos lengths] at same
    exact sameItems?_eq_true.1 same _ _ member
  | hash sizes isLeft isRight meets ih =>
    apply ih
    obtain ⟨-, values⟩ := same?_hash_eq_true.1 same
    obtain ⟨y, isValue, equal⟩ := values _ _ isLeft
    rw [isRight] at isValue
    cases isValue
    exact equal

end Data

namespace DropStore

variable {store : DropStore} {depth more : Nat} {pair next : DropId × DropId} {a b : Data}

/-- Comparing the caches of two different drops can come to the next pair. -/
def Leads (store : DropStore) (pair next : DropId × DropId) : Prop :=
  pair.1 ≠ pair.2 ∧ Data.Meets (.hash (store.cache pair.1)) (.hash (store.cache pair.2)) next

/-- Whether the drops of the pair are equal, as far as is known at this depth. -/
def pairWithin (store : DropStore) (depth : Nat) (pair : DropId × DropId) : Option Bool :=
  store.sameWithin depth pair.1 pair.2

theorem pairWithin_congr
    (agree : ∀ next, store.Leads pair next → store.pairWithin depth next =
      store.pairWithin more next) :
    store.pairWithin (depth + 1) pair = store.pairWithin (more + 1) pair := by
  unfold pairWithin sameWithin
  split
  · rfl
  · next different =>
    apply Data.same?_congr
    intro next meets
    exact agree next ⟨different, meets⟩

theorem pairWithin_succ {result : Bool} (decided : store.pairWithin depth pair = some result) :
    store.pairWithin (depth + 1) pair = some result := by
  induction depth generalizing pair result with
  | zero =>
    unfold pairWithin sameWithin at decided ⊢
    split at decided
    · next same =>
      rw [if_pos same]
      exact decided
    · cases decided
  | succ depth ih =>
    unfold pairWithin sameWithin at decided ⊢
    split at decided
    · next same =>
      rw [if_pos same]
      exact decided
    · next different =>
      rw [if_neg different]
      apply Data.same?_mono _ _ _ _ decided
      intro first second answer known
      show store.pairWithin (depth + 1) (first, second) = some answer
      exact ih known

/-- What is decided at some depth is decided alike at every greater one. -/
theorem pairWithin_mono {result : Bool} (decided : store.pairWithin depth pair = some result)
    (deeper : depth ≤ more) : store.pairWithin more pair = some result := by
  induction deeper with
  | refl => exact decided
  | step _ ih => exact pairWithin_succ ih

/-! ## The bound on the depth hides nothing -/

/-- The pair is decided at the depth after this one, and not before. -/
def Settles (store : DropStore) (depth : Nat) (pair : DropId × DropId) : Prop :=
  store.pairWithin depth pair = none ∧ (store.pairWithin (depth + 1) pair).isSome = true

theorem Settles.unique (first : store.Settles depth pair) (second : store.Settles more pair) :
    depth = more := by
  have notBefore {early late : Nat} (settles : store.Settles early pair)
      (open' : store.pairWithin late pair = none) : late ≤ early := by
    by_contra later
    obtain ⟨result, decided⟩ := Option.isSome_iff_exists.1 settles.2
    rw [pairWithin_mono decided (by omega)] at open'
    cases open'
  have upTo := notBefore first second.1
  have downTo := notBefore second first.1
  omega

/-- What is decided late waits for a pair that is decided one step earlier. -/
theorem Settles.waits (settles : store.Settles (depth + 1) pair) :
    ∃ next, store.Leads pair next ∧ store.Settles depth next := by
  by_contra none
  have same : store.pairWithin (depth + 1) pair = store.pairWithin (depth + 1 + 1) pair := by
    apply pairWithin_congr
    intro next leads
    cases decided : store.pairWithin depth next with
    | some result => exact (pairWithin_succ decided).symm
    | none =>
      cases later : store.pairWithin (depth + 1) next with
      | none => rfl
      | some result => exact absurd ⟨next, leads, decided, by rw [later]; rfl⟩ none
  have decided := settles.2
  rw [← same, settles.1] at decided
  cases decided

/-- A drop with anything in its cache is there. -/
theorem Leads.lt_size (leads : store.Leads pair next) :
    pair.1.index < store.drops.size ∧ pair.2.index < store.drops.size := by
  have there {id : DropId} {key : String} {value : Data}
      (cached : (store.cache id).get? key = some value) : id.index < store.drops.size := by
    by_contra outside
    have missing : store.get? id = none := Array.getElem?_eq_none (by omega)
    rw [cache_eq, missing] at cached
    cases cached
  obtain ⟨-, meets⟩ := leads
  generalize first : store.cache pair.1 = left at meets
  generalize second : store.cache pair.2 = right at meets
  cases meets with
  | hash sizes isLeft isRight meets =>
    rw [← first] at isLeft
    rw [← second] at isRight
    exact ⟨there isLeft, there isRight⟩

theorem Settles.exists_at (settles : store.Settles depth pair) (earlier : more ≤ depth) :
    ∃ other, store.Settles more other := by
  induction depth generalizing pair with
  | zero =>
    have same : more = 0 := by omega
    rw [same]
    exact ⟨pair, settles⟩
  | succ depth ih =>
    by_cases here : more = depth + 1
    · rw [here]
      exact ⟨pair, settles⟩
    · obtain ⟨next, -, settlesNext⟩ := settles.waits
      exact ih settlesNext (by omega)

/-- The pairs that others wait for are decided at different depths, so there are no more depths than
pairs of drops. -/
theorem Settles.depth_le (settles : store.Settles depth pair) :
    depth ≤ store.drops.size * store.drops.size := by
  have waiting (step : Fin depth) : ∃ other : Fin store.drops.size × Fin store.drops.size,
      store.Settles (step + 1) (⟨other.1⟩, ⟨other.2⟩) := by
    obtain ⟨other, settlesOther⟩ : ∃ other, store.Settles (step + 1) other :=
      settles.exists_at step.isLt
    obtain ⟨next, leads, -⟩ := settlesOther.waits
    obtain ⟨first, second⟩ := leads.lt_size
    exact ⟨(⟨other.1.index, first⟩, ⟨other.2.index, second⟩), settlesOther⟩
  choose at' settlesAt using waiting
  have injective : Function.Injective at' := by
    intro first second same
    have later := settlesAt second
    rw [← same] at later
    have depths := (settlesAt first).unique later
    omega
  have count := Fintype.card_le_of_injective at' injective
  simpa using count

/-- The comparison of two drops has an answer if it ends after any number of steps. -/
theorem sameDrop?_eq_some_iff {first second : DropId} {result : Bool} :
    store.sameDrop? first second = some result ↔
      ∃ depth, store.sameWithin depth first second = some result := by
  constructor
  · intro decided
    exact ⟨_, decided⟩
  · rintro ⟨depth, decided⟩
    have ends : ∃ depth, (store.pairWithin depth (first, second)).isSome = true := by
      refine ⟨depth, ?_⟩
      unfold pairWithin
      rw [decided]
      rfl
    -- the least depth with an answer is no greater than the bound
    obtain ⟨answer, known⟩ := Option.isSome_iff_exists.1 (Nat.find_spec ends)
    have within : Nat.find ends ≤ store.drops.size * store.drops.size + 1 := by
      cases least : Nat.find ends with
      | zero => omega
      | succ before =>
        have undecided : ¬ (store.pairWithin before (first, second)).isSome = true :=
          Nat.find_min ends (by omega)
        have settles : store.Settles before (first, second) := by
          rw [least] at known
          exact ⟨by simpa using undecided, by rw [known]; rfl⟩
        have bound := settles.depth_le
        omega
    have bounded := pairWithin_mono known within
    have deep := pairWithin_mono known (Nat.le_max_left _ depth)
    have same : store.pairWithin (max (Nat.find ends) depth) (first, second) = some result :=
      pairWithin_mono decided (Nat.le_max_right _ _)
    rw [deep] at same
    cases same
    exact bounded

/-- The comparison is the recursion through the caches. -/
theorem sameDrop?_eq (first second : DropId) :
    store.sameDrop? first second =
      if first = second then some true
      else Data.sameTable? store.sameDrop? (store.cache first) (store.cache second) := by
  have next : store.sameDrop? first second =
      store.sameWithin (store.drops.size * store.drops.size + 2) first second := by
    apply Option.ext
    intro result
    constructor
    · intro decided
      show store.pairWithin _ (first, second) = some result
      exact pairWithin_succ decided
    · intro decided
      exact sameDrop?_eq_some_iff.2 ⟨_, decided⟩
  rw [next, sameWithin]
  rfl

/-! ## The order of entries does not matter -/

/-- Comparing two drops can come to this within so many pairs of caches on any path, the entries of
caches being gone through in any order. -/
def DropsComeTo (store : DropStore) : Nat → DropId → DropId → Option Bool → Prop
  | 0, a, b, answer => answer = if a = b then some true else none
  | depth + 1, a, b, answer =>
    if a = b then answer = some true
    else Data.ComesTo (store.DropsComeTo depth) (.hash (store.cache a)) (.hash (store.cache b)) answer

/-- Comparing two values can come to this within so many pairs of caches on any path. -/
def ComesTo (store : DropStore) (depth : Nat) : Data → Data → Option Bool → Prop :=
  Data.ComesTo (store.DropsComeTo depth)

theorem DropsComeTo.answer_eq (first second : DropId) (result : Bool)
    (decided : store.sameWithin depth first second = some result) (answer : Option Bool)
    (comes : store.DropsComeTo depth first second answer) : answer = some result := by
  induction depth generalizing first second result answer with
  | zero => exact comes.trans decided
  | succ depth ih =>
    unfold sameWithin at decided
    unfold DropsComeTo at comes
    split at decided
    · next same =>
      rw [if_pos same] at comes
      exact comes.trans decided
    · next different =>
      rw [if_neg different] at comes
      exact comes.answer_eq ih decided

theorem exists_dropsComeTo (store : DropStore) (depth : Nat) (first second : DropId) :
    store.DropsComeTo depth first second none ∨ ∃ result,
      store.sameDrop? first second = some result ∧
        store.DropsComeTo depth first second (some result) := by
  induction depth generalizing first second with
  | zero =>
    unfold DropsComeTo
    by_cases same : first = second
    · rw [if_pos same, same]
      exact .inr ⟨true, store.sameDrop?_self second, rfl⟩
    · rw [if_neg same]
      exact .inl rfl
  | succ depth ih =>
    unfold DropsComeTo
    rw [sameDrop?_eq]
    by_cases same : first = second
    · simp only [if_pos same]
      exact .inr ⟨true, rfl, rfl⟩
    · simp only [if_neg same]
      exact Data.exists_comesTo ih _ _

/-- The comparison has an answer just if every run comes to it after finitely many steps, in
whatever order it goes through entries. -/
theorem same?_eq_some_iff_comesTo {result : Bool} : store.same? a b = some result ↔
    ∃ depth, ∀ answer, store.ComesTo depth a b answer ↔ answer = some result := by
  have exists_run (depth : Nat) := Data.exists_comesTo (store.exists_dropsComeTo depth) a b
  constructor
  · intro decided
    have reaches {answer : Option Bool}
        (comes : store.ComesTo (store.drops.size * store.drops.size + 1) a b answer) :
        answer = some result := Data.ComesTo.answer_eq comes DropsComeTo.answer_eq decided
    refine ⟨store.drops.size * store.drops.size + 1, fun answer => ⟨reaches, ?_⟩⟩
    rintro rfl
    rcases exists_run _ with endless | ⟨found, -, comes⟩
    · cases reaches endless
    · rw [← reaches comes]
      exact comes
  · rintro ⟨depth, runs⟩
    rcases exists_run depth with endless | ⟨found, same, comes⟩
    · cases (runs none).1 endless
    · cases (runs _).1 comes
      exact same

/-! ## Circles -/

/-- Comparing the two values can come to a pair of drops from which it comes back to that pair. -/
def Circles (store : DropStore) (a b : Data) : Prop :=
  ∃ first last, Data.Meets a b first ∧ ReflTransGen store.Leads first last ∧
    TransGen store.Leads last last

/-- A pair without an answer leads to such a pair. -/
theorem exists_leads (endless : store.sameDrop? pair.1 pair.2 = none) :
    ∃ next, store.Leads pair next ∧ store.sameDrop? next.1 next.2 = none := by
  by_contra none
  rw [sameDrop?_eq] at endless
  split at endless
  · cases endless
  · next different =>
    have ends : (Data.sameTable? store.sameDrop? (store.cache pair.1)
        (store.cache pair.2)).isSome = true := by
      apply Data.isSome_same?_of_meets
      intro next meets
      by_contra undecided
      exact none ⟨next, ⟨different, meets⟩, by simpa using undecided⟩
    rw [endless] at ends
    cases ends

/-- A pair without an answer leads into a circle: there are finitely many such pairs, and each leads
to one. -/
theorem exists_circle (endless : store.sameDrop? pair.1 pair.2 = none) :
    ∃ last, ReflTransGen store.Leads pair last ∧ TransGen store.Leads last last := by
  let Endless := { pair : DropId × DropId // store.sameDrop? pair.1 pair.2 = none }
  have finite : Finite Endless := by
    have there (pair : Endless) :
        pair.1.1.index < store.drops.size ∧ pair.1.2.index < store.drops.size := by
      obtain ⟨next, leads, -⟩ := exists_leads pair.2
      exact leads.lt_size
    let place (pair : Endless) : Fin store.drops.size × Fin store.drops.size :=
      (⟨pair.1.1.index, (there pair).1⟩, ⟨pair.1.2.index, (there pair).2⟩)
    apply Finite.of_injective place
    rintro ⟨⟨⟨first⟩, ⟨second⟩⟩, _⟩ ⟨⟨⟨other⟩, ⟨another⟩⟩, _⟩ same
    simp only [place, Prod.mk.injEq, Fin.mk.injEq] at same
    obtain ⟨rfl, rfl⟩ := same
    rfl
  have goesOn (pair : Endless) : ∃ next : Endless, store.Leads pair.1 next.1 := by
    obtain ⟨next, leads, stays⟩ := exists_leads pair.2
    exact ⟨⟨next, stays⟩, leads⟩
  choose step leads using goesOn
  have path (start : Endless) (count : Nat) :
      TransGen store.Leads start.1 (step^[count + 1] start).1 := by
    induction count with
    | zero => exact .single (leads start)
    | succ count ih =>
      rw [Function.iterate_succ_apply']
      exact ih.tail (leads _)
  have circle {early late : Nat} (before : early < late)
      (same : step^[early] ⟨pair, endless⟩ = step^[late] ⟨pair, endless⟩) :
      ∃ last, ReflTransGen store.Leads pair last ∧ TransGen store.Leads last last := by
    refine ⟨(step^[early] ⟨pair, endless⟩).1, ?_, ?_⟩
    · cases early with
      | zero => exact .refl
      | succ early => exact (path ⟨pair, endless⟩ early).to_reflTransGen
    · obtain ⟨count, rfl⟩ : ∃ count, late = count + 1 + early := ⟨late - early - 1, by omega⟩
      have around := path (step^[early] ⟨pair, endless⟩) count
      rw [← Function.iterate_add_apply, ← same] at around
      exact around
  obtain ⟨early, late, different, same⟩ :=
    Finite.exists_ne_map_eq_of_infinite fun count => step^[count] (⟨pair, endless⟩ : Endless)
  rcases Nat.lt_or_gt_of_ne different with before | after
  · exact circle before same
  · exact circle after same.symm

theorem circles_of_endless (endless : store.same? a b = none) : store.Circles a b := by
  by_contra noCircle
  have ends : (store.same? a b).isSome = true := by
    apply Data.isSome_same?_of_meets
    intro pair meets
    by_contra undecided
    obtain ⟨last, reaches, around⟩ := exists_circle (by simpa using undecided)
    exact noCircle ⟨pair, last, meets, reaches, around⟩
  rw [endless] at ends
  cases ends

/-- Equal drops lead to equal drops, and these are known to be equal at a smaller depth. -/
theorem Leads.same_before (leads : store.Leads pair next)
    (same : store.pairWithin depth pair = some true) :
    ∃ before, before < depth ∧ store.pairWithin before next = some true := by
  obtain ⟨different, meets⟩ := leads
  unfold pairWithin at same
  cases depth with
  | zero =>
    rw [sameWithin, if_neg different] at same
    cases same
  | succ depth =>
    rw [sameWithin, if_neg different] at same
    exact ⟨depth, Nat.lt_succ_self depth, meets.same same⟩

theorem same_before_of_transGen (leads : TransGen store.Leads pair next)
    (same : store.pairWithin depth pair = some true) :
    ∃ before, before < depth ∧ store.pairWithin before next = some true := by
  induction leads with
  | single leads => exact leads.same_before same
  | tail _ leads ih =>
    obtain ⟨middle, shallower, sameMiddle⟩ := ih
    obtain ⟨before, less, sameNext⟩ := leads.same_before sameMiddle
    exact ⟨before, by omega, sameNext⟩

/-- Drops on a circle are not found equal: that would need to be known before it is known. -/
theorem not_same_of_circle (around : TransGen store.Leads pair pair) (depth : Nat) :
    store.pairWithin depth pair ≠ some true := by
  induction depth using Nat.strong_induction_on with
  | _ depth ih =>
    intro same
    obtain ⟨before, less, sameBefore⟩ := same_before_of_transGen around same
    exact ih before less sameBefore

theorem Circles.not_same (circles : store.Circles a b) : store.same? a b ≠ some true := by
  obtain ⟨first, last, meets, reaches, around⟩ := circles
  intro same
  have sameFirst := meets.same same
  rcases Relation.reflTransGen_iff_eq_or_transGen.1 reaches with rfl | leads
  · exact not_same_of_circle around _ sameFirst
  · obtain ⟨before, -, sameLast⟩ := same_before_of_transGen leads sameFirst
    exact not_same_of_circle around before sameLast

/-- The comparison of two values through the caches of drops has an answer just if after finitely
many steps every run has reached it, in whatever order the entries of hashes and caches are compared.
It does unless it can come to a pair of drops from which it comes back to that pair; where it can,
the answer, if there is one, is that the values differ. So a read returns if the cached entry and
the loaded value lead to no such pair. -/
theorem same?_ends_off_circles (store : DropStore) :
    (∀ a b result, store.same? a b = some result ↔
      ∃ depth, ∀ answer, store.ComesTo depth a b answer ↔ answer = some result) ∧
    (∀ a b, ¬ store.Circles a b → ∃ result, store.same? a b = some result) ∧
    (∀ a b, store.Circles a b → store.same? a b = none ∨ store.same? a b = some false) ∧
    ∀ id key, ∃ loaded counted, (DropM.load id key).run store = some (loaded, counted) ∧
      ((∀ entry, (counted.cache id).get? key = some entry → ¬ counted.Circles entry loaded) →
        ∃ answer last, (DropM.read id key).run store = some (answer, last)) := by
  have ends (store : DropStore) (a b : Data) (noCircle : ¬ store.Circles a b) :
      (store.same? a b).isSome = true := by
    by_contra endless
    exact noCircle (circles_of_endless (by simpa using endless))
  refine ⟨fun a b result => same?_eq_some_iff_comesTo, ?_, ?_, ?_⟩
  · intro a b noCircle
    exact Option.isSome_iff_exists.1 (ends store a b noCircle)
  · intro a b circles
    have notSame := circles.not_same
    cases answer : store.same? a b with
    | none => exact .inl rfl
    | some result =>
      cases result with
      | false => exact .inr rfl
      | true => exact absurd answer notSame
  · intro id key
    obtain ⟨loaded, counted, run⟩ := DropM.exists_load store id key
    refine ⟨loaded, counted, run, ?_⟩
    intro noCircle
    apply DropM.exists_read run
    intro entry cached
    exact ends counted entry loaded (noCircle entry cached)

/-- Both drops hold the first one, which holds itself: comparing them comes to the first one twice
and ends there. -/
theorem same?_ends_off_circles_shared :
    let held : Drop := ⟨.host (.scripted .empty) .empty, .ofList [("me", .drop ⟨0⟩)]⟩
    let store : DropStore := ⟨#[held, held]⟩
    ¬ store.Circles (.drop ⟨0⟩) (.drop ⟨1⟩) ∧
      ∃ result, store.same? (.drop ⟨0⟩) (.drop ⟨1⟩) = some result := by
  intro held store
  have toFirst {next : DropId × DropId} (leads : store.Leads (⟨0⟩, ⟨1⟩) next) :
      next = (⟨0⟩, ⟨0⟩) := by
    obtain ⟨-, meets⟩ := leads
    cases meets with
    | hash sizes isLeft isRight meets =>
      cases List.mem_singleton.1 (Table.mem_of_lookup isLeft)
      cases List.mem_singleton.1 (Table.mem_of_lookup isRight)
      cases meets
      rfl
  have noFurther {next : DropId × DropId} : ¬ store.Leads (⟨0⟩, ⟨0⟩) next :=
    fun leads => leads.1 rfl
  have noCircle : ¬ store.Circles (.drop ⟨0⟩) (.drop ⟨1⟩) := by
    rintro ⟨_, last, ⟨⟩, reaches, around⟩
    -- the last pair is the first one or the second, and neither comes back
    have atFirst : last ≠ (⟨0⟩, ⟨0⟩) := by
      rintro rfl
      obtain ⟨next, leads, -⟩ := TransGen.head'_iff.1 around
      exact noFurther leads
    rcases ReflTransGen.cases_head reaches with rfl | ⟨next, leads, goesOn⟩
    · obtain ⟨next, leads, back⟩ := TransGen.head'_iff.1 around
      rw [toFirst leads] at back
      rcases ReflTransGen.cases_head back with same | ⟨further, leads, -⟩
      · exact atFirst same.symm
      · exact noFurther leads
    · rw [toFirst leads] at goesOn
      rcases ReflTransGen.cases_head goesOn with same | ⟨further, leads, -⟩
      · exact atFirst same.symm
      · exact noFurther leads
  exact ⟨noCircle, (same?_ends_off_circles store).2.1 _ _ noCircle⟩

/-- Two drops that hold nothing but themselves are compared without end. -/
theorem dropsComeTo_of_twins {first second : DropId} {key : String} (different : first ≠ second)
    (holds : store.cache first = .ofList [(key, .drop first)])
    (holdsSecond : store.cache second = .ofList [(key, .drop second)]) (depth : Nat)
    {answer : Option Bool} : store.DropsComeTo depth first second answer ↔ answer = none := by
  have bound : (Table.ofList [(key, Data.drop second)]).get? key = some (.drop second) := by
    simp [Table.ofList]
  induction depth generalizing answer with
  | zero =>
    unfold DropsComeTo
    rw [if_neg different]
  | succ depth ih =>
    unfold DropsComeTo
    rw [if_neg different, holds, holdsSecond]
    constructor
    · intro comes
      cases comes with
      | hash sizes listed values =>
        rw [List.perm_singleton.1 listed, Data.beside, List.map_singleton, bound] at values
        cases values with
        | next here later => cases ih.1 (Data.comesTo_drop_iff.1 here)
        | last here decides => exact ih.1 (Data.comesTo_drop_iff.1 here)
      | sizes differ => exact absurd rfl differ
      | types differ => exact absurd rfl differ
    · rintro rfl
      have listed : [(key, Data.drop first)].Perm (Table.ofList [(key, .drop first)]).toList := .refl _
      refine .hash rfl listed ?_
      rw [Data.beside, List.map_singleton, bound]
      exact .last (.drop (ih.2 rfl)) (by decide)

theorem sameDrop?_of_twins {first second : DropId} {key : String} (different : first ≠ second)
    (holds : store.cache first = .ofList [(key, .drop first)])
    (holdsSecond : store.cache second = .ofList [(key, .drop second)]) :
    store.sameDrop? first second = none := by
  by_contra ends
  obtain ⟨result, decided⟩ := Option.ne_none_iff_exists'.1 ends
  have comes (depth : Nat) : store.DropsComeTo depth first second none :=
    (dropsComeTo_of_twins different holds holdsSecond depth).2 rfl
  cases DropsComeTo.answer_eq first second result decided none (comes _)

/-- Each of two drops holds itself, and a third one answers with the first and then with the second.
Its second read never returns: no depth is enough for any run of comparing the two. -/
theorem twin_circles_never_compared :
    let script (key : String) (values : List Data) (loads : Table Nat) (cache : Table Data) :=
      (⟨.host (.scripted (.ofList [(key, values)])) loads, cache⟩ : Drop)
    let store : DropStore := ⟨#[script "x" [.drop ⟨1⟩, .drop ⟨2⟩] .empty .empty,
      script "me" [.drop ⟨1⟩] .empty .empty, script "me" [.drop ⟨2⟩] .empty .empty]⟩
    let filled : DropStore := ⟨#[
      script "x" [.drop ⟨1⟩, .drop ⟨2⟩] (.ofList [("x", 1)]) (.ofList [("x", .drop ⟨1⟩)]),
      script "me" [.drop ⟨1⟩] (.ofList [("me", 1)]) (.ofList [("me", .drop ⟨1⟩)]),
      script "me" [.drop ⟨2⟩] (.ofList [("me", 1)]) (.ofList [("me", .drop ⟨2⟩)])]⟩
    let reads : DropM Unit := do
      let _ ← DropM.read ⟨1⟩ "me"
      let _ ← DropM.read ⟨2⟩ "me"
      let _ ← DropM.read ⟨0⟩ "x"
    reads.run store = some ((), filled) ∧
      (∀ depth answer, filled.ComesTo depth (.drop ⟨1⟩) (.drop ⟨2⟩) answer ↔ answer = none) ∧
      filled.same? (.drop ⟨1⟩) (.drop ⟨2⟩) = none ∧
      (DropM.read ⟨0⟩ "x").run filled = none := by
  intro script store filled reads
  have endless (depth : Nat) (answer : Option Bool) :
      filled.ComesTo depth (.drop ⟨1⟩) (.drop ⟨2⟩) answer ↔ answer = none :=
    (Data.comesTo_drop_iff).trans (dropsComeTo_of_twins (by decide) rfl rfl depth)
  have unanswered : filled.sameDrop? ⟨1⟩ ⟨2⟩ = none := sameDrop?_of_twins (by decide) rfl rfl
  have neverReturns : (DropM.read ⟨0⟩ "x").run filled = none := by
    have found : filled.get? ⟨0⟩ = some _ := rfl
    rw [DropM.read_eq found]
    have stillEndless : (filled.update ⟨0⟩ fun drop => drop.load "x").sameDrop? ⟨1⟩ ⟨2⟩ = none :=
      sameDrop?_of_twins (by decide) rfl rfl
    show Option.map _ ((filled.update ⟨0⟩ fun drop => drop.load "x").sameDrop? ⟨1⟩ ⟨2⟩) = none
    rw [stillEndless]
    rfl
  have fills : reads.run store = some ((), filled) := by
    cbv
  exact ⟨fills, endless, unanswered, neverReturns⟩

end DropStore

end TextTemplate
