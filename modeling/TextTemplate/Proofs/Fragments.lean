import TextTemplate.Fragment.Scan
import TextTemplate.Proofs.Located

/-!
# Writing fragments out

Writing fragments one after the other gives a source. The fragments can be told apart in it if they
are well formed (`Fragment.WellFormed`): texts are not empty and do not stand side by side, no
opening delimiter begins within a text, and no closing delimiter begins within the markup that it
ends. Looking for a delimiter finds the first one, so that what stands before it is free of
delimiters (`Fragment.eq_of_splitOpener_some`, `Fragment.eq_of_splitCloser_some`).
-/

namespace TextTemplate

namespace Text

/-- No occurrence of `pattern` in `text` and what stands `after` it begins within `text`. -/
def FreeOf (pattern text after : List Char) : Prop :=
  ∀ rest, rest <:+ text → rest ≠ [] → ¬ pattern <+: rest ++ after

variable {pattern text more after : List Char}

@[simp] theorem freeOf_nil : FreeOf pattern [] after := by
  intro rest ends occurs
  exact absurd (List.suffix_nil.1 ends) occurs

@[simp] theorem freeOf_cons {c : Char} :
    FreeOf pattern (c :: text) after ↔
      ¬ pattern <+: c :: (text ++ after) ∧ FreeOf pattern text after := by
  constructor
  · intro free
    refine ⟨free _ List.suffix_rfl (List.cons_ne_nil c text), ?_⟩
    intro rest ends
    exact free rest (ends.trans (List.suffix_cons c text))
  · rintro ⟨here, later⟩ rest ends occurs
    rcases List.suffix_cons_iff.1 ends with rfl | ends
    · exact here
    · exact later rest ends occurs

theorem freeOf_append :
    FreeOf pattern (text ++ more) after ↔
      FreeOf pattern text (more ++ after) ∧ FreeOf pattern more after := by
  induction text with
  | nil => simp
  | cons c text ih => simp [ih, and_assoc]

/-- An occurrence that begins within the text reaches at most one character further. -/
theorem freeOf_pair_append {a b : Char} (follows : after ≠ []) :
    FreeOf [a, b] text (after ++ more) ↔ FreeOf [a, b] text after := by
  obtain ⟨d, after, rfl⟩ := List.exists_cons_of_ne_nil follows
  induction text with
  | nil => simp
  | cons c text ih =>
    rw [freeOf_cons, freeOf_cons, ih]
    cases text <;> simp

theorem freeOf_end (occurs : pattern ≠ []) :
    FreeOf pattern text [] ↔ ¬ pattern <:+: text := by
  induction text with
  | nil => simpa using occurs
  | cons c text ih => simp [List.infix_cons_iff, ih]

end Text

open Text (byteSize FreeOf)

namespace Delimiter

variable (delimiter : Delimiter)

theorem opener_toList : ∃ second, delimiter.opener.toList = ['{', second] := by
  cases delimiter
  · exact ⟨'{', rfl⟩
  · exact ⟨'%', rfl⟩

theorem opener_ne_nil : delimiter.opener.toList ≠ [] := by
  cases delimiter <;> decide

@[simp] theorem byteSize_opener : byteSize delimiter.opener.toList = 2 := by
  cases delimiter <;> rfl

theorem closer_toList : delimiter.closer.toList = [delimiter.closerHead, '}'] := by
  cases delimiter <;> rfl

@[simp] theorem byteSize_closer : byteSize delimiter.closer.toList = 2 := by
  cases delimiter <;> rfl

end Delimiter

/-- What stands before the text of a fragment. -/
def FragmentKind.opening : FragmentKind → List Char
  | .text => []
  | .markup delimiter => delimiter.opener.toList

/-- What stands after the text of a fragment. -/
def FragmentKind.closing : FragmentKind → List Char
  | .text => []
  | .markup delimiter => delimiter.closer.toList

namespace Fragment

variable {source text inner rest after tail : List Char} {delimiter : Delimiter} {start : Nat}
  {fragment : Fragment} {fragments : List Fragment}

theorem toList_sourceText (fragment : Fragment) :
    fragment.sourceText.toList =
      fragment.kind.opening ++ fragment.text.toList ++ fragment.kind.closing := by
  unfold sourceText FragmentKind.opening FragmentKind.closing
  cases fragment.kind <;> simp

/-- The source that the fragments make up. -/
def written (fragments : List Fragment) : List Char :=
  fragments.flatMap fun fragment => fragment.sourceText.toList

@[simp] theorem written_nil : written [] = [] := rfl

@[simp] theorem written_cons (fragment : Fragment) (fragments : List Fragment) :
    written (fragment :: fragments) = fragment.sourceText.toList ++ written fragments := rfl

@[simp] theorem written_append (first last : List Fragment) :
    written (first ++ last) = written first ++ written last :=
  List.flatMap_append

theorem toList_join_sourceText (fragments : List Fragment) :
    (String.join (fragments.map sourceText)).toList = written fragments := by
  rw [String.toList_join, List.flatMap_map]
  rfl

/-- No opening delimiter begins within `text`, which stands before `after`. -/
def Plain (text after : List Char) : Prop :=
  ∀ delimiter : Delimiter, FreeOf delimiter.opener.toList text after

theorem plain_opener (delimiter : Delimiter) (rest : List Char) :
    Plain text (delimiter.opener.toList ++ rest) ↔ Plain text delimiter.opener.toList := by
  refine forall_congr' fun other => ?_
  obtain ⟨second, same⟩ := other.opener_toList
  rw [same]
  exact Text.freeOf_pair_append delimiter.opener_ne_nil

theorem plain_append {more : List Char} :
    Plain (text ++ more) after ↔ Plain text (more ++ after) ∧ Plain more after := by
  simp only [Plain, Text.freeOf_append, forall_and]

/-- What the fragments begin with, or `after` if there are none. -/
def leading (after : List Char) : List Fragment → List Char
  | [] => after
  | fragment :: _ => fragment.kind.opening

/-- Nothing, or an opening delimiter, stands at this place of the source. In a list of fragments it
is known by what the source begins with. -/
inductive Stop : List Char → List Char → Prop
  | nothing : Stop [] []
  | opener (delimiter : Delimiter) (rest : List Char) :
      Stop delimiter.opener.toList (delimiter.opener.toList ++ rest)

theorem Stop.plain (stop : Stop after tail) : Plain text tail ↔ Plain text after := by
  cases stop with
  | nothing => rfl
  | opener delimiter rest => exact plain_opener delimiter rest

/-- Before fragments of which the first is no text, a text ends. -/
theorem stop_leading (noText : ∀ next ∈ fragments.head?, next.kind ≠ .text)
    (stop : fragments = [] → Stop after tail) :
    Stop (leading after fragments) (written fragments ++ tail) := by
  cases fragments with
  | nil => exact stop rfl
  | cons next rest =>
    rw [written_cons, toList_sourceText]
    cases kind : next.kind with
    | text => exact absurd kind (noText next rfl)
    | markup delimiter =>
      simp only [leading, FragmentKind.opening, kind, List.append_assoc]
      exact .opener delimiter _

/-- The fragments can be told apart when they are written one after the other before `after`. Their
spans are not looked at. -/
def WellFormed (after : List Char) : List Fragment → Prop
  | [] => True
  | fragment :: rest =>
    (match fragment.kind with
      | .text =>
        fragment.text ≠ "" ∧ (∀ next ∈ rest.head?, next.kind ≠ .text) ∧
          Plain fragment.text.toList (leading after rest)
      | .markup delimiter =>
        FreeOf delimiter.closer.toList fragment.text.toList delimiter.closer.toList) ∧
    WellFormed after rest

/-- The fragments with the spans they have when they are written out from byte `start` on. -/
def place (start : Nat) : List Fragment → List Fragment
  | [] => []
  | fragment :: rest =>
    let inside := start + byteSize fragment.kind.opening
    { fragment with span := ⟨inside, inside + byteSize fragment.text.toList⟩ } ::
      place (start + byteSize fragment.sourceText.toList) rest

theorem place_text (kind : fragment.kind = .text) (occurs : fragment.text ≠ "") :
    place start (fragment :: fragments) =
      ofText start fragment.text.toList ++
        place (start + byteSize fragment.text.toList) fragments := by
  simp [place, ofText, toList_sourceText, FragmentKind.opening, FragmentKind.closing, kind, occurs]

theorem place_markup (kind : fragment.kind = .markup delimiter) :
    place start (fragment :: fragments) =
      ⟨.markup delimiter, fragment.text,
        ⟨start + 2, start + 2 + byteSize fragment.text.toList⟩⟩ ::
        place (start + 2 + byteSize fragment.text.toList + 2) fragments := by
  simp [place, toList_sourceText, FragmentKind.opening, FragmentKind.closing, kind, Nat.add_assoc]

/-! ## Finding delimiters -/

theorem splitOpener_cons {c : Char} (free : ∀ delimiter : Delimiter,
    ¬ delimiter.opener.toList <+: c :: source) :
    splitOpener (c :: source) = (c :: (splitOpener source).1, (splitOpener source).2) := by
  rw [splitOpener.eq_def]
  split
  next rest same =>
    rw [same] at free
    exact absurd ⟨rest, rfl⟩ (free .object)
  next rest same =>
    rw [same] at free
    exact absurd ⟨rest, rfl⟩ (free .tag)
  next c rest _ _ same =>
    cases same
    rfl
  next same => cases same

theorem splitOpener_plain (plain : Plain text []) : splitOpener text = (text, none) := by
  induction text with
  | nil => rfl
  | cons c text ih =>
    have here delimiter := (Text.freeOf_cons.1 (plain delimiter)).1
    have later delimiter := (Text.freeOf_cons.1 (plain delimiter)).2
    simp only [List.append_nil] at here
    rw [splitOpener_cons here, ih later]

theorem splitOpener_opener (delimiter : Delimiter) (rest : List Char) :
    splitOpener (delimiter.opener.toList ++ rest) = ([], some (delimiter, rest)) := by
  cases delimiter <;> rfl

theorem splitOpener_append (plain : Plain text (delimiter.opener.toList ++ rest)) :
    splitOpener (text ++ (delimiter.opener.toList ++ rest)) = (text, some (delimiter, rest)) := by
  induction text with
  | nil => exact splitOpener_opener delimiter rest
  | cons c text ih =>
    have here delimiter := (Text.freeOf_cons.1 (plain delimiter)).1
    have later delimiter := (Text.freeOf_cons.1 (plain delimiter)).2
    rw [List.cons_append, splitOpener_cons here, ih later]

theorem splitCloser_closer (free : FreeOf delimiter.closer.toList inner delimiter.closer.toList) :
    splitCloser delimiter (inner ++ (delimiter.closer.toList ++ rest)) = some (inner, rest) := by
  rw [delimiter.closer_toList] at free ⊢
  induction inner with
  | nil => simp [splitCloser]
  | cons c inner ih =>
    obtain ⟨here, later⟩ := Text.freeOf_cons.1 free
    obtain ⟨d, more, same⟩ : ∃ d more, inner ++ ([delimiter.closerHead, '}'] ++ rest) = d :: more :=
      List.exists_cons_of_ne_nil (by simp)
    have other : ¬ (c = delimiter.closerHead ∧ d = '}') := by
      rintro ⟨rfl, rfl⟩
      cases inner <;> simp_all
    rw [List.cons_append, same, splitCloser, if_neg other, ← same, ih later]
    rfl

theorem splitCloser_free (free : FreeOf delimiter.closer.toList rest []) :
    splitCloser delimiter rest = none := by
  rw [delimiter.closer_toList] at free
  fun_induction splitCloser delimiter rest with
  | case1 c d rest found => simp [found] at free
  | case2 c d rest other ih =>
    rw [ih (Text.freeOf_cons.1 free).2]
    rfl
  | case3 => rfl

theorem plain_cons {c : Char} (here : ∀ delimiter : Delimiter,
    ¬ delimiter.opener.toList <+: c :: (text ++ after)) (later : Plain text after) :
    Plain (c :: text) after :=
  fun delimiter => Text.freeOf_cons.2 ⟨here delimiter, later delimiter⟩

/-- Where the source begins like none of the two delimiters, none of them opens there. -/
theorem plain_start {c : Char} (noObject : ∀ rest, c = '{' → source = '{' :: rest → False)
    (noTag : ∀ rest, c = '{' → source = '%' :: rest → False) (delimiter : Delimiter) :
    ¬ delimiter.opener.toList <+: c :: source := by
  rintro ⟨rest, same⟩
  cases delimiter
  · injection same with head tail
    exact noObject rest head.symm tail.symm
  · injection same with head tail
    exact noTag rest head.symm tail.symm

theorem eq_of_splitOpener_none (split : splitOpener source = (text, none)) :
    source = text ∧ Plain text [] := by
  fun_induction splitOpener source generalizing text with
  | case1 | case2 => cases split
  | case3 c source noObject noTag before found here ih =>
    cases split
    obtain ⟨rfl, plain⟩ := ih here
    refine ⟨rfl, plain_cons ?_ plain⟩
    rw [List.append_nil]
    exact plain_start noObject noTag
  | case4 =>
    cases split
    exact ⟨rfl, fun _ => Text.freeOf_nil⟩

theorem eq_of_splitOpener_some (split : splitOpener source = (text, some (delimiter, rest))) :
    source = text ++ (delimiter.opener.toList ++ rest) ∧
      Plain text delimiter.opener.toList := by
  rw [← plain_opener delimiter rest]
  fun_induction splitOpener source generalizing text with
  | case1 | case2 =>
    cases split
    exact ⟨rfl, fun _ => Text.freeOf_nil⟩
  | case3 c source noObject noTag before found here ih =>
    cases split
    obtain ⟨rfl, plain⟩ := ih here
    exact ⟨rfl, plain_cons (plain_start noObject noTag) plain⟩
  | case4 => cases split

theorem eq_of_splitCloser_some (split : splitCloser delimiter source = some (inner, rest)) :
    source = inner ++ (delimiter.closer.toList ++ rest) ∧
      FreeOf delimiter.closer.toList inner delimiter.closer.toList := by
  have reaches : FreeOf [delimiter.closerHead, '}'] inner ([delimiter.closerHead, '}'] ++ rest) ↔
      FreeOf [delimiter.closerHead, '}'] inner [delimiter.closerHead, '}'] :=
    Text.freeOf_pair_append (by simp)
  rw [delimiter.closer_toList, ← reaches]
  clear reaches
  fun_induction splitCloser delimiter source generalizing inner with
  | case1 c d source found =>
    cases split
    exact ⟨by simp [found], Text.freeOf_nil⟩
  | case2 c d source other ih =>
    obtain ⟨⟨before, after⟩, here, same⟩ := Option.map_eq_some_iff.1 split
    cases same
    obtain ⟨same, free⟩ := ih here
    refine ⟨congrArg (c :: ·) same, Text.freeOf_cons.2 ⟨?_, free⟩⟩
    rw [← same]
    simpa [eq_comm] using other
  | case3 => cases split

theorem free_of_splitCloser_none (split : splitCloser delimiter source = none) :
    FreeOf delimiter.closer.toList source [] := by
  rw [delimiter.closer_toList]
  fun_induction splitCloser delimiter source with
  | case1 => cases split
  | case2 c d source other ih =>
    refine Text.freeOf_cons.2 ⟨?_, ih (Option.map_eq_none_iff.1 split)⟩
    simpa [eq_comm] using other
  | case3 source short =>
    cases source with
    | nil => exact Text.freeOf_nil
    | cons c rest =>
      cases rest with
      | nil => simp
      | cons d rest => exact absurd rfl (short c d rest)

end Fragment

end TextTemplate
