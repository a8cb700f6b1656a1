import TextTemplate.Proofs.Fragments.Scanner

/-!
# Scanning one source after another

The fragments of two sources that stand side by side are the fragments of the first and then those
of the second, moved by the length of the first, except that a text at the end of the first and a
text at the front of the second become one (`Fragment.scan_append`). The two sources must not make
an opening delimiter where they meet.
-/

namespace TextTemplate

open Text (byteSize)

/-- The fragment as it stands in a source that its own source stands in from byte `offset` on. -/
def Fragment.shift (fragment : Fragment) (offset : Nat) : Fragment :=
  { fragment with span := fragment.span.shift offset }

namespace Fragment

variable {source text after tail : List Char} {fragments before later : List Fragment}
  {fragment last next : Fragment} {start offset : Nat}

/-- No opening delimiter begins in the first source and ends in the second. -/
def Apart (first second : List Char) : Prop :=
  first.getLast? = some '{' → ∀ c ∈ second.head?, c ≠ '{' ∧ c ≠ '%'

/-- A text stays plain before what makes no delimiter with its last character. -/
theorem plain_of_apart (plain : Plain text []) (apart : Apart text after) : Plain text after := by
  induction text with
  | nil => exact fun _ => Text.freeOf_nil
  | cons c text ih =>
    intro delimiter
    obtain ⟨here, -⟩ := Text.freeOf_cons.1 (plain delimiter)
    have goesOn : Plain text [] := fun delimiter => (Text.freeOf_cons.1 (plain delimiter)).2
    cases text with
    | nil =>
      refine Text.freeOf_cons.2 ⟨?_, Text.freeOf_nil⟩
      rintro ⟨rest, same⟩
      -- the delimiter would have one brace here and its second character there
      cases delimiter with
      | object =>
        cases same
        exact (apart rfl '{' rfl).1 rfl
      | tag =>
        cases same
        exact (apart rfl '%' rfl).2 rfl
    | cons d text =>
      refine Text.freeOf_cons.2 ⟨?_, ih goesOn (by simpa [Apart] using apart) delimiter⟩
      obtain ⟨second, same⟩ := delimiter.opener_toList
      rw [same] at here ⊢
      simpa using here

/-- The last of the first fragments and the first of the others are texts. -/
def Meet (before later : List Fragment) : Prop :=
  before.getLast?.map kind = some .text ∧ later.head?.map kind = some .text

theorem not_meet : ¬ Meet before later ↔
    ∀ last ∈ before.getLast?, last.kind = .text → ∀ next ∈ later.head?, next.kind ≠ .text := by
  unfold Meet
  cases before.getLast? <;> cases later.head? <;> simp

theorem exists_of_meet (meet : Meet before later) :
    ∃ front last next rest, before = front ++ [last] ∧ later = next :: rest ∧
      last.kind = .text ∧ next.kind = .text := by
  obtain ⟨last, isLast, isText⟩ := Option.map_eq_some_iff.1 meet.1
  obtain ⟨next, isNext, nextIsText⟩ := Option.map_eq_some_iff.1 meet.2
  obtain ⟨front, rfl⟩ := List.getLast?_eq_some_iff.1 isLast
  obtain ⟨rest, rfl⟩ := List.head?_eq_some_iff.1 isNext
  exact ⟨front, last, next, rest, rfl, rfl, isText, nextIsText⟩

theorem meet_place (start offset : Nat) :
    Meet (place start before) (place offset later) ↔ Meet before later := by
  have kinds (start : Nat) (fragments : List Fragment) :
      (place start fragments).map kind = fragments.map kind := by
    have same := congrArg (List.map Prod.fst) (map_place start fragments)
    rwa [List.map_map, List.map_map] at same
  unfold Meet
  rw [← List.getLast?_map, ← List.head?_map, kinds, kinds, List.getLast?_map, List.head?_map]

theorem wellFormed_append :
    WellFormed after (before ++ later) ↔
      WellFormed (leading after later) before ∧ WellFormed after later ∧ ¬ Meet before later := by
  induction before with
  | nil => simp [WellFormed, Meet]
  | cons fragment before ih =>
    cases before with
    | nil =>
      cases kind : fragment.kind with
      | text => simp [not_meet, WellFormed, kind, leading, and_assoc, and_comm, and_left_comm]
      | markup delimiter => simp [not_meet, WellFormed, kind]
    | cons second before =>
      show _ ∧ WellFormed after (second :: before ++ later) ↔
        (_ ∧ WellFormed (leading after later) (second :: before)) ∧ _
      rw [ih, Meet, Meet, List.getLast?_cons_cons, and_assoc]
      rfl

/-- What stands after well-formed fragments matters to a text at their end only. -/
theorem WellFormed.followedBy {other : List Char} (wellFormed : WellFormed after fragments)
    (plain : ∀ last ∈ fragments.getLast?, last.kind = .text →
      Plain last.text.toList after → Plain last.text.toList other) :
    WellFormed other fragments := by
  induction fragments with
  | nil => trivial
  | cons fragment rest ih =>
    obtain ⟨here, goesOn⟩ := wellFormed
    cases rest with
    | nil =>
      refine ⟨?_, trivial⟩
      cases kind : fragment.kind with
      | text =>
        simp only [kind] at here
        exact ⟨here.1, here.2.1, plain fragment rfl kind here.2.2⟩
      | markup delimiter => simpa [kind] using here
    | cons second rest =>
      refine ⟨here, ih goesOn fun last isLast => plain last ?_⟩
      rwa [List.getLast?_cons_cons]

theorem place_append (start : Nat) (before later : List Fragment) :
    place start (before ++ later) =
      place start before ++ place (start + byteSize (written before)) later := by
  induction before generalizing start with
  | nil => rfl
  | cons fragment before ih =>
    rw [written_cons, Text.byteSize_append, ← Nat.add_assoc]
    exact congrArg (_ :: ·) (ih _)

theorem place_shift (start offset : Nat) (fragments : List Fragment) :
    place (start + offset) fragments = (place start fragments).map (·.shift offset) := by
  induction fragments generalizing start with
  | nil => rfl
  | cons fragment rest ih =>
    have later := ih (start + byteSize fragment.sourceText.toList)
    rw [Nat.add_right_comm] at later
    simp [place, later, shift, Span.shift, Nat.add_right_comm]

/-- A text at the end of the first source and a text at the front of the second, as one. -/
theorem wellFormed_meet (wellFormed : WellFormed [] (before ++ [last]))
    (goesOn : WellFormed after (next :: later)) (isText : last.kind = .text)
    (nextIsText : next.kind = .text) (apart : Apart last.text.toList next.text.toList) :
    WellFormed after (before ++ ⟨.text, last.text ++ next.text, .nowhere⟩ :: later) := by
  obtain ⟨first, lastWellFormed, noText⟩ := wellFormed_append.1 wellFormed
  simp only [leading, isText, FragmentKind.opening] at first
  simp only [WellFormed, isText, nextIsText] at lastWellFormed goesOn
  obtain ⟨⟨occurs, -, plain⟩, -⟩ := lastWellFormed
  obtain ⟨⟨nextOccurs, textEnds, nextPlain⟩, goesOn⟩ := goesOn
  have nextFollows : Apart last.text.toList (next.text.toList ++ leading after later) := by
    obtain ⟨c, text, same⟩ := List.exists_cons_of_ne_nil (String.toList_eq_nil_iff.not.2 nextOccurs)
    simpa [Apart, same] using apart
  refine wellFormed_append.2 ⟨first, ⟨⟨?_, textEnds, ?_⟩, goesOn⟩, ?_⟩
  · simp [occurs]
  · rw [String.toList_append]
    exact plain_append.2 ⟨plain_of_apart plain nextFollows, nextPlain⟩
  · rintro ⟨beforeIsText, -⟩
    exact noText ⟨beforeIsText, congrArg some isText⟩

theorem Stop.apart (stop : Stop after tail) (apart : Apart text tail) : Apart text after := by
  cases stop with
  | nothing => exact apart
  | opener delimiter rest =>
    obtain ⟨second, same⟩ := delimiter.opener_toList
    rw [same] at apart ⊢
    exact apart

theorem apart_last {rest : List Char} (isText : last.kind = .text)
    (apart : Apart (written (before ++ [last])) rest) : Apart last.text.toList rest := by
  intro brace
  refine apart ?_
  rw [written_append, written_cons, written_nil, List.append_nil, toList_sourceText, isText]
  simp [FragmentKind.opening, FragmentKind.closing, brace]

/-- Fragments on both sides of which no texts stand. -/
theorem wellFormed_apart (wellFormed : WellFormed [] before) (goesOn : WellFormed after later)
    (stop : Stop after tail)
    (noMeet : ¬ Meet before later) (apart : Apart (written before) (written later ++ tail)) :
    WellFormed after (before ++ later) := by
  refine wellFormed_append.2 ⟨wellFormed.followedBy ?_, goesOn, noMeet⟩
  intro last isLast isText plain
  obtain ⟨front, rfl⟩ := List.getLast?_eq_some_iff.1 isLast
  have ends := stop_leading (not_meet.1 noMeet last isLast isText) fun _ => stop
  exact plain_of_apart plain (ends.apart (apart_last isText apart))

/-- The fragments of two sources that stand side by side, from those of the first and those of the
second, which begins at byte `offset`. -/
inductive Appended (offset : Nat) : List Fragment → List Fragment → List Fragment → Prop
  | apart {before later : List Fragment} (noMeet : ¬ Meet before later) :
      Appended offset before later (before ++ later.map (·.shift offset))
  | meet {before later : List Fragment} {last next : Fragment} {span : Span}
      (isText : last.kind = .text) (nextIsText : next.kind = .text) :
      Appended offset (before ++ [last]) (next :: later)
        (before ++ ⟨.text, last.text ++ next.text, span⟩ :: later.map (·.shift offset))

theorem exists_appended (wellFormed : WellFormed [] before) (goesOn : WellFormed after later)
    (stop : Stop after tail) (apart : Apart (written before) (written later ++ tail)) :
    ∃ joined, WellFormed after joined ∧ written joined = written before ++ written later ∧
      Appended (byteSize (written before)) (place 0 before) (place 0 later) (place 0 joined) := by
  by_cases meet : Meet before later
  · obtain ⟨front, last, next, rest, rfl, rfl, isText, nextIsText⟩ := exists_of_meet meet
    have occurs := goesOn.1
    simp only [nextIsText] at occurs
    obtain ⟨c, text, same⟩ :=
      List.exists_cons_of_ne_nil (String.toList_eq_nil_iff.not.2 occurs.1)
    have lastApart : Apart last.text.toList next.text.toList := by
      have apartLast := apart_last isText apart
      rw [written_cons, toList_sourceText, nextIsText] at apartLast
      simpa [Apart, same, FragmentKind.opening] using apartLast
    have stands : byteSize (written front) +
        byteSize (sourceText ⟨.text, last.text ++ next.text, .nowhere⟩).toList =
          0 + byteSize next.sourceText.toList + byteSize (written (front ++ [last])) := by
      simp [toList_sourceText, isText, nextIsText, FragmentKind.opening, FragmentKind.closing]
      omega
    refine ⟨_, wellFormed_meet wellFormed goesOn isText nextIsText lastApart, ?_, ?_⟩
    · simp [toList_sourceText, isText, nextIsText, FragmentKind.opening, FragmentKind.closing]
    · rw [place_append, place_append, Nat.zero_add, place, place, place, place, stands,
        place_shift (0 + byteSize next.sourceText.toList)]
      exact .meet isText nextIsText
  · refine ⟨_, wellFormed_apart wellFormed goesOn stop meet apart, written_append _ _, ?_⟩
    rw [place_append, place_shift]
    exact .apart fun placed => meet ((meet_place _ _).1 placed)

/-- Every source is made of well-formed fragments and of what ends the scan. -/
theorem exists_stop (source : List Char) :
    ∃ fragments after tail, WellFormed after fragments ∧ Stop after tail ∧
      source = written fragments ++ tail ∧
      ((∀ start, scanFrom start tail = .ok []) ∨
        ∃ delimiter, ∀ start, scanFrom start tail =
          .error ⟨.unterminatedDelimiter delimiter, ⟨start, start + 2⟩⟩) := by
  rcases exists_wellFormed source with ⟨fragments, wellFormed, rfl⟩ |
    ⟨fragments, delimiter, wellFormed, rest, rfl, unclosed⟩
  · refine ⟨fragments, [], [], wellFormed, .nothing, by simp, .inl scanFrom_nil⟩
  · exact ⟨fragments, _, _, wellFormed, .opener delimiter rest, rfl,
      .inr ⟨delimiter, fun start => scanFrom_open start unclosed⟩⟩

theorem scan_of_stop {source : String} (wellFormed : WellFormed after fragments)
    (stop : Stop after tail) (same : source.toList = written fragments ++ tail) :
    scan source =
      (scanFrom (byteSize (written fragments)) tail).map (place 0 fragments ++ ·) := by
  rw [scan, same, scanFrom_written 0 wellFormed fun _ _ _ => stop, Nat.zero_add]

/-- Where two sources meet without making a delimiter, each is scanned as it is alone. -/
theorem scan_append {first second : String} (scanned : scan first = .ok fragments)
    (apart : Apart first.toList second.toList) :
    (∀ error, scan second = .error error →
      scan (first ++ second) = .error (error.shift first.utf8ByteSize)) ∧
    ∀ later, scan second = .ok later →
      ∃ all, scan (first ++ second) = .ok all ∧
        Appended first.utf8ByteSize fragments later all := by
  obtain ⟨parts, wellFormed, same, rfl⟩ := scan_eq_ok scanned
  obtain ⟨others, after, tail, goesOn, stop, sameSecond, ends⟩ := exists_stop second.toList
  rw [same, sameSecond] at apart
  obtain ⟨joined, joinedWellFormed, writes, appended⟩ :=
    exists_appended wellFormed goesOn stop apart
  have sameBoth : (first ++ second).toList = written joined ++ tail := by
    rw [String.toList_append, same, sameSecond, writes, List.append_assoc]
  rw [scan_of_stop goesOn stop sameSecond, scan_of_stop joinedWellFormed stop sameBoth, writes,
    Text.byteSize_append, ← Text.byteSize_toList, same]
  rcases ends with nothing | ⟨delimiter, unclosed⟩
  · simp only [nothing, Except.map, List.append_nil]
    refine ⟨fun error failed => (nomatch failed), ?_⟩
    rintro _ ⟨⟩
    exact ⟨_, rfl, appended⟩
  · simp only [unclosed, Except.map]
    refine ⟨?_, fun later scanned => (nomatch scanned)⟩
    rintro _ ⟨⟩
    simp [LexError.shift, Span.shift]
    omega

end Fragment

end TextTemplate
