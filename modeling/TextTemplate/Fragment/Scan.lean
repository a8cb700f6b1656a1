import TextTemplate.LexError

/-!
Scanning: cutting a source into fragments.

Literal text runs up to the leftmost opening delimiter; markup runs from there up to the first
closing delimiter of the same kind, whatever stands between. Empty literal texts are left out.
-/

namespace TextTemplate.Fragment

open Text (byteSize)

/-- The characters before the leftmost opening delimiter, and that delimiter with what follows it,
if there is one. -/
def splitOpener : List Char → List Char × Option (Delimiter × List Char)
  | '{' :: '{' :: rest => ([], some (.object, rest))
  | '{' :: '%' :: rest => ([], some (.tag, rest))
  | c :: rest =>
    let (text, found) := splitOpener rest
    (c :: text, found)
  | [] => ([], none)

/-- The characters before the first closing delimiter and those after it, if there is one. -/
def splitCloser (delimiter : Delimiter) : List Char → Option (List Char × List Char)
  | c :: d :: rest =>
    if c = delimiter.closerHead ∧ d = '}' then some ([], rest)
    else (splitCloser delimiter (d :: rest)).map fun (inner, after) => (c :: inner, after)
  | _ => none

theorem length_of_splitOpener {source text rest : List Char} {delimiter : Delimiter}
    (found : splitOpener source = (text, some (delimiter, rest))) :
    rest.length < source.length := by
  fun_induction splitOpener source generalizing text with
  | case1 tail | case2 tail =>
    simp only [Prod.mk.injEq, Option.some.injEq] at found
    obtain ⟨-, -, rfl⟩ := found
    simp only [List.length_cons]
    omega
  | case3 c tail _ _ text' found' split ih =>
    simp only [Prod.mk.injEq] at found
    have shorter := ih (by rw [split, found.2])
    rw [List.length_cons]
    omega
  | case4 => simp at found

theorem length_of_splitCloser {delimiter : Delimiter} {source inner rest : List Char}
    (found : splitCloser delimiter source = some (inner, rest)) :
    rest.length < source.length := by
  fun_induction splitCloser delimiter source generalizing inner with
  | case1 c d tail =>
    simp only [Option.some.injEq, Prod.mk.injEq] at found
    obtain ⟨-, rfl⟩ := found
    simp only [List.length_cons]
    omega
  | case2 c d tail _ ih =>
    obtain ⟨⟨inner', rest'⟩, split, same⟩ := Option.map_eq_some_iff.1 found
    simp only [Prod.mk.injEq] at same
    have shorter := ih (by rw [split, same.2])
    rw [List.length_cons]
    omega
  | case3 => simp at found

/-- The fragment of a literal text that begins at byte `start`; none if the text is empty. -/
def ofText (start : Nat) (text : List Char) : List Fragment :=
  if text.isEmpty then [] else [⟨.text, String.ofList text, ⟨start, start + byteSize text⟩⟩]

/-- The fragments of a source that begins at byte `start`. -/
def scanFrom (start : Nat) (source : List Char) : Except LexError (List Fragment) :=
  match _opened : splitOpener source with
  | (text, none) => .ok (ofText start text)
  | (text, some (delimiter, rest)) =>
    let opening := start + byteSize text
    match closed : splitCloser delimiter rest with
    | none => .error ⟨.unterminatedDelimiter delimiter, ⟨opening, opening + 2⟩⟩
    | some (inner, after) =>
      let inside := opening + 2
      let close := inside + byteSize inner
      match scanFrom (close + 2) after with
      | .error error => .error error
      | .ok fragments =>
        .ok (ofText start text ++
          ⟨.markup delimiter, String.ofList inner, ⟨inside, close⟩⟩ :: fragments)
termination_by source.length
decreasing_by
  have := length_of_splitOpener _opened
  have := length_of_splitCloser closed
  omega

/-- Cuts a source into its fragments. Fails at the first opening delimiter that is never closed. -/
def scan (source : String) : Except LexError (List Fragment) :=
  scanFrom 0 source.toList

end TextTemplate.Fragment
