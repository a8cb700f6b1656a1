import TextTemplate.Proofs.Fragments

/-!
# The scanner is the inverse of writing fragments out

Scanning a source that was written by well-formed fragments gives the fragments back
(`Fragment.scan_written`). Every source is a well-formed list of fragments and then either nothing
or an opening delimiter that is never closed (`Fragment.exists_wellFormed`), so scanning it comes
down to scanning what was written out (`Fragment.scanFrom_written`).
-/

namespace TextTemplate

open Text (byteSize FreeOf)

namespace Fragment

variable {text inner rest after tail : List Char} {delimiter : Delimiter} {start : Nat}
  {fragment : Fragment} {fragments : List Fragment}

/-! ## Scanning what was written out -/

theorem scanFrom_eq (start : Nat) (source : List Char) :
    scanFrom start source =
      match splitOpener source with
      | (text, none) => .ok (ofText start text)
      | (text, some (delimiter, rest)) =>
        let opening := start + byteSize text
        match splitCloser delimiter rest with
        | none => .error ⟨.unterminatedDelimiter delimiter, ⟨opening, opening + 2⟩⟩
        | some (inner, after) =>
          let close := opening + 2 + byteSize inner
          (scanFrom (close + 2) after).map fun fragments => ofText start text ++
            ⟨.markup delimiter, String.ofList inner, ⟨opening + 2, close⟩⟩ :: fragments := by
  rw [scanFrom]
  split
  next text opened => simp only [opened]
  next text delimiter rest opened =>
    simp only [opened]
    split
    next closed => simp only [closed]
    next inner after closed =>
      simp only [closed]
      cases scanFrom (start + byteSize text + 2 + byteSize inner + 2) after <;> rfl

@[simp] theorem scanFrom_nil (start : Nat) : scanFrom start [] = .ok [] := by
  rw [scanFrom_eq]
  rfl

/-- A literal text is scanned apart from a source that begins with no text. -/
theorem scanFrom_text (start : Nat) (plain : Plain text tail) (stop : Stop after tail) :
    scanFrom start (text ++ tail) =
      (scanFrom (start + byteSize text) tail).map (ofText start text ++ ·) := by
  cases stop with
  | nothing =>
    rw [List.append_nil, scanFrom_eq, splitOpener_plain plain]
    simp [Except.map]
  | opener delimiter rest =>
    rw [scanFrom_eq, splitOpener_append plain, scanFrom_eq, splitOpener_opener]
    dsimp only
    cases splitCloser delimiter rest with
    | none => rfl
    | some found =>
      simp only [Text.byteSize_nil, Nat.add_zero]
      cases scanFrom (start + byteSize text + 2 + byteSize found.1 + 2) found.2 <;> rfl

theorem scanFrom_markup (start : Nat) (after : List Char)
    (free : FreeOf delimiter.closer.toList inner delimiter.closer.toList) :
    scanFrom start (delimiter.opener.toList ++ (inner ++ (delimiter.closer.toList ++ after))) =
      (scanFrom (start + 2 + byteSize inner + 2) after).map
        (⟨.markup delimiter, String.ofList inner,
          ⟨start + 2, start + 2 + byteSize inner⟩⟩ :: ·) := by
  rw [scanFrom_eq, splitOpener_opener]
  simp only [splitCloser_closer free, Text.byteSize_nil, Nat.add_zero]
  rfl

theorem scanFrom_open (start : Nat) (unclosed : ¬ delimiter.closer.toList <:+: rest) :
    scanFrom start (delimiter.opener.toList ++ rest) =
      .error ⟨.unterminatedDelimiter delimiter, ⟨start, start + 2⟩⟩ := by
  have occurs : delimiter.closer.toList ≠ [] := by simp [delimiter.closer_toList]
  rw [scanFrom_eq, splitOpener_opener]
  simp [splitCloser_free ((Text.freeOf_end occurs).2 unclosed)]

theorem map_append_map_append (scanned : Except LexError (List Fragment))
    (first second : List Fragment) :
    (scanned.map (second ++ ·)).map (first ++ ·) = scanned.map (first ++ second ++ ·) := by
  cases scanned with
  | error error => rfl
  | ok fragments => simp [Except.map]

/-- Well-formed fragments are scanned apart from what stands after them, unless the last of them is
a text and goes on there. -/
theorem scanFrom_written (start : Nat) (wellFormed : WellFormed after fragments)
    (ends : ∀ last ∈ fragments.getLast?, last.kind = .text → Stop after tail) :
    scanFrom start (written fragments ++ tail) =
      (scanFrom (start + byteSize (written fragments)) tail).map (place start fragments ++ ·) := by
  induction fragments generalizing start with
  | nil =>
    rw [written_nil, List.nil_append, Text.byteSize_nil, Nat.add_zero]
    cases scanFrom start tail <;> rfl
  | cons fragment rest ih =>
    obtain ⟨here, later⟩ := wellFormed
    have restEnds : ∀ last ∈ rest.getLast?, last.kind = .text → Stop after tail := by
      intro last isLast
      refine ends last ?_
      cases rest with
      | nil => cases isLast
      | cons next rest => rwa [List.getLast?_cons_cons]
    rw [written_cons, List.append_assoc, toList_sourceText]
    cases kind : fragment.kind with
    | text =>
      simp only [kind] at here
      obtain ⟨occurs, noText, plain⟩ := here
      have stop : Stop (leading after rest) (written rest ++ tail) := by
        refine stop_leading noText fun empty => ends fragment ?_ kind
        rw [empty]
        rfl
      simp only [FragmentKind.opening, FragmentKind.closing, List.nil_append, List.append_nil]
      rw [scanFrom_text start (stop.plain.2 plain) stop, ih _ later restEnds,
        map_append_map_append, place_text kind occurs, Text.byteSize_append, Nat.add_assoc]
    | markup delimiter =>
      simp only [kind] at here
      simp only [FragmentKind.opening, FragmentKind.closing, List.append_assoc]
      rw [scanFrom_markup start _ here, ih _ later restEnds, place_markup kind]
      have stands : start + 2 + byteSize fragment.text.toList + 2 + byteSize (written rest) =
          start + byteSize (delimiter.opener.toList ++ (fragment.text.toList ++
            (delimiter.closer.toList ++ written rest))) := by
        simp only [Text.byteSize_append, Delimiter.byteSize_opener, Delimiter.byteSize_closer]
        omega
      rw [stands, String.ofList_toList]
      exact map_append_map_append _ [_] _

/-! ## Every source is written by fragments -/

@[simp] theorem written_ofText (start : Nat) (text : List Char) :
    written (ofText start text) = text := by
  unfold ofText
  cases text <;> simp [toList_sourceText, FragmentKind.opening, FragmentKind.closing]

theorem wellFormed_ofText (start : Nat) (plain : Plain text (leading after fragments))
    (noText : ∀ next ∈ fragments.head?, next.kind ≠ .text)
    (wellFormed : WellFormed after fragments) :
    WellFormed after (ofText start text ++ fragments) := by
  unfold ofText
  cases text with
  | nil => exact wellFormed
  | cons c text =>
    refine ⟨⟨?_, noText, ?_⟩, wellFormed⟩
    · simp
    · rwa [String.toList_ofList]

theorem wellFormed_ofText_only (start : Nat) (plain : Plain text after) :
    WellFormed after (ofText start text) := by
  have wellFormed : WellFormed after (ofText start text ++ []) :=
    wellFormed_ofText start plain (fun _ nowhere => nomatch nowhere) trivial
  rwa [List.append_nil] at wellFormed

/-- Markup before well-formed fragments, with the text before it. -/
theorem wellFormed_ofText_markup (plain : Plain text delimiter.opener.toList)
    (free : FreeOf delimiter.closer.toList inner delimiter.closer.toList)
    (wellFormed : WellFormed after fragments) :
    WellFormed after
      (ofText 0 text ++ ⟨.markup delimiter, String.ofList inner, .nowhere⟩ :: fragments) := by
  refine wellFormed_ofText 0 plain ?_ ⟨?_, wellFormed⟩
  · rintro next ⟨⟩
    exact fun isText => nomatch isText
  · rwa [String.toList_ofList]

theorem written_ofText_markup (text inner : List Char) (delimiter : Delimiter)
    (fragments : List Fragment) :
    written (ofText 0 text ++ ⟨.markup delimiter, String.ofList inner, .nowhere⟩ :: fragments) =
      text ++ (delimiter.opener.toList ++
        (inner ++ (delimiter.closer.toList ++ written fragments))) := by
  simp [toList_sourceText, FragmentKind.opening, FragmentKind.closing]

/-- The source is made of well-formed fragments and then of an opening delimiter that no closing one
follows. -/
def EndsOpen (source : List Char) (fragments : List Fragment) (delimiter : Delimiter) : Prop :=
  WellFormed delimiter.opener.toList fragments ∧
    ∃ rest, source = written fragments ++ (delimiter.opener.toList ++ rest) ∧
      ¬ delimiter.closer.toList <:+: rest

theorem exists_wellFormed (source : List Char) :
    (∃ fragments, WellFormed [] fragments ∧ source = written fragments) ∨
      ∃ fragments delimiter, EndsOpen source fragments delimiter := by
  match opened : splitOpener source with
  | (text, none) =>
    obtain ⟨rfl, plain⟩ := eq_of_splitOpener_none opened
    refine .inl ⟨ofText 0 source, ?_, by simp⟩
    exact wellFormed_ofText_only 0 plain
  | (text, some (delimiter, rest)) =>
    obtain ⟨same, plain⟩ := eq_of_splitOpener_some opened
    match closed : splitCloser delimiter rest with
    | none =>
      refine .inr ⟨ofText 0 text, delimiter, wellFormed_ofText_only 0 plain, rest,
        by simpa using same, ?_⟩
      have occurs : delimiter.closer.toList ≠ [] := by simp [delimiter.closer_toList]
      exact (Text.freeOf_end occurs).1 (free_of_splitCloser_none closed)
    | some (inner, after) =>
      obtain ⟨rfl, free⟩ := eq_of_splitCloser_some closed
      have shorter := length_of_splitOpener opened
      have shorterAfter := length_of_splitCloser closed
      -- the fragments of `after` come after the text and the markup
      rcases exists_wellFormed after with ⟨fragments, wellFormed, rfl⟩ |
        ⟨fragments, other, wellFormed, last, rfl, unclosed⟩
      · refine .inl ⟨_, wellFormed_ofText_markup plain free wellFormed, ?_⟩
        rw [written_ofText_markup, same]
      · refine .inr ⟨_, other, wellFormed_ofText_markup plain free wellFormed, last, ?_, unclosed⟩
        rw [written_ofText_markup, same]
        simp only [List.append_assoc]
termination_by source.length

/-! ## Spans -/

theorem locates_of_mem_place (before : List Char)
    (placed : fragment ∈ place (byteSize before) fragments) :
    fragment.span.Locates (before ++ written fragments) fragment.text.toList := by
  induction fragments generalizing before with
  | nil => cases placed
  | cons first rest ih =>
    rw [written_cons]
    rcases List.mem_cons.1 placed with rfl | later
    · refine ⟨before ++ first.kind.opening, first.kind.closing ++ written rest, ?_, ?_⟩
      · simp [toList_sourceText]
      · simp
    · rw [← Text.byteSize_append] at later
      rw [← List.append_assoc]
      exact ih _ later

theorem le_start_of_mem_place (placed : fragment ∈ place start fragments) :
    start ≤ fragment.span.start := by
  induction fragments generalizing start with
  | nil => cases placed
  | cons first rest ih =>
    rcases List.mem_cons.1 placed with rfl | later
    · exact Nat.le_add_right _ _
    · exact Nat.le_trans (Nat.le_add_right _ _) (ih later)

/-- Of two fragments in a row one has delimiters around its text, so the spans do not touch. -/
theorem pairwise_place (start : Nat) (wellFormed : WellFormed after fragments) :
    (place start fragments).Pairwise fun first second => first.span.stop < second.span.start := by
  induction fragments generalizing start with
  | nil => exact .nil
  | cons first rest ih =>
    obtain ⟨here, later⟩ := wellFormed
    refine .cons (fun second placed => ?_) (ih _ later)
    have afterFirst := le_start_of_mem_place placed
    simp only [toList_sourceText, Text.byteSize_append] at afterFirst ⊢
    cases kind : first.kind with
    | markup delimiter =>
      simp only [kind, FragmentKind.opening, FragmentKind.closing,
        Delimiter.byteSize_opener, Delimiter.byteSize_closer] at afterFirst ⊢
      omega
    | text =>
      simp only [kind] at here
      cases rest with
      | nil => cases placed
      | cons next rest =>
        cases nextKind : next.kind with
        | text => exact absurd nextKind (here.2.1 next rfl)
        | markup delimiter =>
          rw [place_markup nextKind] at placed
          simp only [toList_sourceText, kind, FragmentKind.opening, FragmentKind.closing,
            Text.byteSize_append, Text.byteSize_nil] at placed ⊢
          rcases List.mem_cons.1 placed with rfl | later
          · simp
          · have afterNext := le_start_of_mem_place later
            omega

theorem wellFormed_place (start : Nat) :
    WellFormed after (place start fragments) ↔ WellFormed after fragments := by
  induction fragments generalizing start with
  | nil => rfl
  | cons first rest ih =>
    have sameLeading (next : Nat) : leading after (place next rest) = leading after rest := by
      cases rest <;> rfl
    have noText (next : Nat) : (∀ head ∈ (place next rest).head?, head.kind ≠ .text) ↔
        ∀ head ∈ rest.head?, head.kind ≠ .text := by
      cases rest <;> simp [place]
    simp only [place, WellFormed, ih, sameLeading, noText]

theorem written_place (start : Nat) : written (place start fragments) = written fragments := by
  induction fragments generalizing start with
  | nil => rfl
  | cons first rest ih => exact congrArg (first.sourceText.toList ++ ·) (ih _)

theorem map_place (start : Nat) (fragments : List Fragment) :
    (place start fragments).map (fun fragment => (fragment.kind, fragment.text)) =
      fragments.map fun fragment => (fragment.kind, fragment.text) := by
  induction fragments generalizing start with
  | nil => rfl
  | cons first rest ih => exact congrArg (_ :: ·) (ih _)

/-! ## The scanner -/

theorem scan_written (wellFormed : WellFormed [] fragments) (source : String)
    (same : source.toList = written fragments) : scan source = .ok (place 0 fragments) := by
  have scanned : scanFrom 0 (written fragments ++ []) = _ :=
    scanFrom_written 0 wellFormed fun _ _ _ => .nothing
  rw [List.append_nil] at scanned
  rw [scan, same, scanned, scanFrom_nil]
  simp [Except.map]

theorem scan_endsOpen (source : String) (open' : EndsOpen source.toList fragments delimiter) :
    scan source = .error ⟨.unterminatedDelimiter delimiter,
      ⟨byteSize (written fragments), byteSize (written fragments) + 2⟩⟩ := by
  obtain ⟨wellFormed, rest, same, unclosed⟩ := open'
  rw [scan, same, scanFrom_written 0 wellFormed fun _ _ _ => .opener delimiter rest,
    scanFrom_open _ unclosed, Nat.zero_add]
  rfl

/-- A source that is scanned was written by well-formed fragments, which got their spans. -/
theorem scan_eq_ok {source : String} (scanned : scan source = .ok fragments) :
    ∃ parts, WellFormed [] parts ∧ source.toList = written parts ∧ fragments = place 0 parts := by
  rcases exists_wellFormed source.toList with ⟨parts, wellFormed, same⟩ |
    ⟨parts, delimiter, open'⟩
  · rw [scan_written wellFormed source same] at scanned
    cases scanned
    exact ⟨parts, wellFormed, same, rfl⟩
  · rw [scan_endsOpen source open'] at scanned
    cases scanned

theorem scan_eq_error_iff {source : String} {error : LexError} :
    scan source = .error error ↔
      ∃ fragments delimiter, EndsOpen source.toList fragments delimiter ∧
        error = ⟨.unterminatedDelimiter delimiter,
          ⟨byteSize (written fragments), byteSize (written fragments) + 2⟩⟩ := by
  constructor
  · intro failed
    rcases exists_wellFormed source.toList with ⟨parts, wellFormed, same⟩ |
      ⟨parts, delimiter, open'⟩
    · rw [scan_written wellFormed source same] at failed
      cases failed
    · rw [scan_endsOpen source open'] at failed
      cases failed
      exact ⟨parts, delimiter, open', rfl⟩
  · rintro ⟨parts, delimiter, open', rfl⟩
    exact scan_endsOpen source open'

theorem locates_of_scan {source : String} (scanned : scan source = .ok fragments) :
    ∀ fragment ∈ fragments, fragment.span.Locates source.toList fragment.text.toList := by
  obtain ⟨parts, -, same, rfl⟩ := scan_eq_ok scanned
  intro fragment placed
  rw [same]
  exact locates_of_mem_place [] placed

theorem opener_of_scan {source : String} {error : LexError} (scanned : scan source = .error error) :
    ∃ delimiter, error.cause = .unterminatedDelimiter delimiter ∧
      error.span.Locates source.toList delimiter.opener.toList := by
  obtain ⟨parts, delimiter, ⟨-, rest, same, -⟩, rfl⟩ := scan_eq_error_iff.1 scanned
  refine ⟨delimiter, rfl, written parts, rest, ?_, by simp⟩
  rw [same, List.append_assoc]

/-- Scanning is the inverse of writing well-formed fragments out. What is scanned is well formed,
makes up the source, and stands at its spans, which follow one another. What is well formed is
scanned as it was written. Otherwise the source ends in markup that is never closed, and the error
is at its opening delimiter. -/
theorem scan_inverts_writing :
    (∀ (source : String) (fragments : List Fragment), scan source = .ok fragments →
      WellFormed [] fragments ∧ String.join (fragments.map sourceText) = source ∧
        (∀ fragment ∈ fragments,
          fragment.span.Locates source.toList fragment.text.toList) ∧
        fragments.Pairwise fun first second => first.span.stop < second.span.start) ∧
    (∀ fragments : List Fragment, WellFormed [] fragments →
      ∃ scanned, scan (String.join (fragments.map sourceText)) = .ok scanned ∧
        scanned.map (fun fragment => (fragment.kind, fragment.text)) =
          fragments.map fun fragment => (fragment.kind, fragment.text)) ∧
    ∀ (source : String) (error : LexError), scan source = .error error ↔
      ∃ fragments delimiter, EndsOpen source.toList fragments delimiter ∧
        error = ⟨.unterminatedDelimiter delimiter,
          ⟨byteSize (written fragments), byteSize (written fragments) + 2⟩⟩ := by
  refine ⟨?_, ?_, fun _ _ => scan_eq_error_iff⟩
  · intro source fragments scanned
    have located := locates_of_scan scanned
    obtain ⟨parts, wellFormed, same, rfl⟩ := scan_eq_ok scanned
    refine ⟨(wellFormed_place 0).2 wellFormed, ?_, located, pairwise_place 0 wellFormed⟩
    rw [← String.toList_inj, toList_join_sourceText, written_place, same]
  · intro fragments wellFormed
    exact ⟨place 0 fragments, scan_written wellFormed _ (toList_join_sourceText fragments),
      map_place 0 fragments⟩

/-- A brace before an opening delimiter belongs to the text, and one after it to the markup. -/
theorem scan_inverts_writing_braces :
    let fragments : List Fragment := [⟨.text, "a\x7bb", .nowhere⟩,
      ⟨.markup .object, "\x7bx\x7d ", .nowhere⟩, ⟨.markup .tag, "", .nowhere⟩,
      ⟨.text, "\x7d\x7b", .nowhere⟩]
    WellFormed [] fragments ∧
      ∃ scanned, scan "a\x7bb\x7b\x7b\x7bx\x7d \x7d\x7d\x7b%%\x7d\x7d\x7b" = .ok scanned ∧
      scanned.map (fun fragment => (fragment.kind, fragment.text)) =
        fragments.map fun fragment => (fragment.kind, fragment.text) := by
  intro fragments
  have wellFormed : WellFormed [] fragments := by
    have plain : Plain ['a', '{', 'b'] ['{', '{'] ∧ Plain ['}', '{'] [] := by
      constructor <;> intro delimiter <;> cases delimiter <;> simp [Delimiter.opener]
    simp [fragments, WellFormed, leading, FragmentKind.opening, Delimiter.closer,
      Delimiter.opener, plain]
  exact ⟨wellFormed, scan_inverts_writing.2.1 fragments wellFormed⟩

end Fragment

end TextTemplate
