import TextTemplate.Proofs.Blanking

/-!
# Inserting a blank

A blank that is put between two tokens is no part of a token, for every lexeme ends before it
(`Token.lexeme?_insert`). A gap is passed over there. But the lexer trims more blanks than it passes
over, so any other blank is a stray character between tokens, though not at the ends of the markup
(`Token.lex_inserted_blank`).
-/

namespace TextTemplate

open Text (isGap isBlank byteSize)

namespace Token

variable {kind : TokenKind} {text front back rest : List Char} {c : Char} {offset : Nat}
  {tokens : List Token}

/-! ## Lexemes before a blank -/

theorem not_isWordChar_of_isBlank (blank : isBlank c = true) : isWordChar c = false := by
  cases word : isWordChar c with
  | false => rfl
  | true =>
    rw [isBlank_of_isWordChar word] at blank
    cases blank

/-- A blank ends every lexeme. -/
theorem ends_of_isBlank (blank : isBlank c = true) : Ends kind (c :: rest) := by
  apply ends_of_apart (not_isWordChar_of_isBlank blank)
  intro sign
  simp only [List.mem_cons, List.not_mem_nil, or_false] at sign
  rcases sign with rfl | rfl | rfl
  · cases blank
  · cases blank
  · cases blank

/-- What ends a lexeme does so with a blank in it, too. -/
theorem Ends.insert (ends : Ends kind (front ++ back)) (blank : isBlank c = true) :
    Ends kind (front ++ c :: back) := by
  cases front with
  | nil => exact ends_of_isBlank blank
  | cons d front =>
    apply ends.of_head
    intro dot noDigit
    cases front with
    | nil =>
      rintro _ ⟨⟩
      exact not_isDigit_of_not_isWordChar (not_isWordChar_of_isBlank blank)
    | cons e front => exact noDigit

/-- The lexeme at the front is taken also if a blank is put somewhere behind it. -/
theorem lexeme?_insert (found : lexeme? (text ++ (front ++ back)) = some (kind, text.length))
    (blank : isBlank c = true) :
    lexeme? (text ++ (front ++ c :: back)) = some (kind, text.length) := by
  have lexeme := isLexeme_of_lexeme? found
  by_cases isOperator : kind = .comparison
  · subst isOperator
    cases front with
    | nil => exact lexeme?_append lexeme (ends_of_isBlank blank)
    | cons d front => exact lexeme?_operator_fades lexeme found
  · exact lexeme?_append lexeme ((ends_of_lexeme? found isOperator).insert blank)

/-! ## Runs around a blank -/

/-- The kinds and the texts of the tokens. -/
def lexemes (tokens : List Token) : List (TokenKind × String) :=
  tokens.map fun token => (token.kind, token.text)

/-- The lexer finds the same wherever the text stands. -/
theorem LexRun.elsewhere (run : LexRun .strict offset rest tokens) (other : Nat) :
    ∃ found, lexFrom .strict other rest = .ok found ∧ lexemes found = lexemes tokens := by
  induction run generalizing other with
  | ending offset => exact ⟨_, lexFrom_nil, rfl⟩
  | gap isGap later ih =>
    obtain ⟨found, lexed, same⟩ := ih (other + 1)
    exact ⟨found, (lexFrom_gap isGap).trans lexed, same⟩
  | @token offset kind text rest tokens taken later ih =>
    obtain ⟨found, lexed, same⟩ := ih (other + byteSize text)
    rw [lexFrom_of_lexeme? taken, lexed]
    exact ⟨_, rfl, by simpa [lexemes] using same⟩
  | skip isLax => cases isLax

/-- A lexeme at the front of a text that is cut outside of it lies before the cut. -/
theorem exists_of_cut (same : text ++ rest = front ++ back) (occurs : front ≠ [])
    (outside : offset + byteSize text ≤ offset + byteSize front ∨
      offset + byteSize front ≤ offset) :
    ∃ later, front = text ++ later ∧ rest = later ++ back := by
  rcases List.append_eq_append_iff.1 same with ⟨later, rfl, split⟩ | ⟨more, rfl, split⟩
  · exact ⟨later, rfl, split⟩
  · have size := Text.byteSize_pos occurs
    rw [Text.byteSize_append] at outside
    have nothing : more = [] := by
      by_contra some
      have sizeMore := Text.byteSize_pos some
      omega
    subst nothing
    exact ⟨[], by simp, by simpa using split.symm⟩

/-- The tokens are those before a cut and those after it. With a blank at the cut the lexer finds
the first ones and is then at the blank. -/
def Splits (offset : Nat) (front back : List Char) (tokens : List Token) : Prop :=
  ∃ before after, tokens = before ++ after ∧
    LexRun .strict (offset + byteSize front) back after ∧
    ∀ c, isBlank c = true → lexFrom .strict offset (front ++ c :: back) =
      (lexFrom .strict (offset + byteSize front) (c :: back)).map (before ++ ·)

theorem splits_nil (run : LexRun .strict offset back tokens) : Splits offset [] back tokens := by
  refine ⟨[], tokens, rfl, run, ?_⟩
  intro c blank
  show lexFrom .strict offset (c :: back) = (lexFrom .strict offset (c :: back)).map _
  cases lexFrom .strict offset (c :: back) <;> rfl

theorem Splits.gap (splits : Splits (offset + 1) front back tokens) (gap : isGap c = true) :
    Splits offset (c :: front) back tokens := by
  obtain ⟨before, after, same, run, inserted⟩ := splits
  have place : offset + 1 + byteSize front = offset + byteSize (c :: front) := by
    rw [Text.byteSize_cons, utf8Size_of_isGap gap, Nat.add_assoc]
  rw [place] at run inserted
  refine ⟨before, after, same, run, ?_⟩
  intro d blank
  rw [List.cons_append, lexFrom_gap gap]
  exact inserted d blank

theorem Splits.token (splits : Splits (offset + byteSize text) front back tokens)
    (found : lexeme? (text ++ (front ++ back)) = some (kind, text.length)) :
    Splits offset (text ++ front) back
      (⟨kind, String.ofList text, ⟨offset, offset + byteSize text⟩⟩ :: tokens) := by
  obtain ⟨before, after, rfl, run, inserted⟩ := splits
  have place : offset + byteSize text + byteSize front = offset + byteSize (text ++ front) := by
    rw [Text.byteSize_append, Nat.add_assoc]
  rw [place] at run inserted
  refine ⟨_ :: before, after, rfl, run, ?_⟩
  intro d blank
  rw [List.append_assoc, lexFrom_of_lexeme? (lexeme?_insert found blank), inserted d blank]
  cases lexFrom .strict (offset + byteSize (text ++ front)) (d :: back) <;> rfl

/-- The tokens of a text that is cut outside of them. -/
theorem LexRun.splits {cs : List Char} (run : LexRun .strict offset cs tokens)
    (same : cs = front ++ back)
    (outside : ∀ token ∈ tokens, token.span.stop ≤ offset + byteSize front ∨
      offset + byteSize front ≤ token.span.start) : Splits offset front back tokens := by
  induction run generalizing front with
  | ending offset =>
    obtain ⟨rfl, rfl⟩ := List.append_eq_nil_iff.1 same.symm
    exact splits_nil (.ending offset)
  | @gap offset d rest tokens isGap later ih =>
    cases front with
    | nil =>
      subst same
      exact splits_nil (.gap isGap later)
    | cons e front =>
      obtain ⟨rfl, rfl⟩ := List.cons.inj same
      have place : offset + byteSize (d :: front) = offset + 1 + byteSize front := by
        rw [Text.byteSize_cons, utf8Size_of_isGap isGap, Nat.add_assoc]
      rw [place] at outside
      exact (ih rfl outside).gap isGap
  | @token offset kind text rest tokens taken later ih =>
    by_cases empty : front = []
    · subst empty same
      exact splits_nil (.token taken later)
    · rw [List.forall_mem_cons] at outside
      obtain ⟨front, rfl, rfl⟩ := exists_of_cut same empty outside.1
      have place : offset + byteSize (text ++ front) = offset + byteSize text + byteSize front := by
        rw [Text.byteSize_append, Nat.add_assoc]
      rw [place] at outside
      exact (ih rfl outside.2).token taken
  | skip isLax => cases isLax

/-- No token begins with a blank. -/
theorem lexFrom_stray (blank : isBlank c = true) (noGap : isGap c = false) :
    lexFrom .strict offset (c :: rest) =
      .error ⟨.unexpectedCharacter c, ⟨offset, offset + c.utf8Size⟩⟩ := by
  have nothing : lexeme? (c :: rest) = none := by
    cases found : lexeme? (c :: rest) with
    | none => rfl
    | some taken =>
      obtain ⟨text, later, same, -, lexeme⟩ := begins_of_lexeme? found
      obtain ⟨first, -, isFirst, solid, -⟩ := lexeme.ends
      obtain ⟨text, rfl⟩ := List.head?_eq_some_iff.1 isFirst
      cases same
      rw [blank] at solid
      cases solid
  have noQuote : isQuote c = false := by
    cases quote : isQuote c with
    | false => rfl
    | true =>
      simp only [isQuote, Bool.or_eq_true, beq_iff_eq] at quote
      rcases quote with rfl | rfl
      · cases blank
      · cases blank
  rw [lexFrom.eq_def]
  simp only [noGap, Bool.false_eq_true, if_false, nothing, strayCause, noQuote]

/-! ## Inserting a blank into markup -/

/-- Markup with the same trimmed text has the same tokens at other places. -/
theorem exists_lex_of_trim {markup other : List Char}
    (lexed : lex .strict (String.ofList markup) = .ok tokens)
    (same : Text.trim other = Text.trim markup) :
    ∃ found, lex .strict (String.ofList other) = .ok found ∧ lexemes found = lexemes tokens := by
  unfold lex at lexed ⊢
  simp only [String.toList_ofList] at lexed ⊢
  rw [same]
  exact (lexRun_of_lexFrom lexed).elsewhere _

theorem trim_insert {pre post : List Char} (blank : isBlank c = true)
    (atEnd : (∀ d ∈ pre, isBlank d = true) ∨ ∀ d ∈ post, isBlank d = true) :
    Text.trim (pre ++ c :: post) = Text.trim (pre ++ post) := by
  have none : ∀ d ∈ ([] : List Char), isBlank d = true := List.forall_mem_nil _
  rcases atEnd with before | after
  · have more : ∀ d ∈ pre ++ [c], isBlank d = true := by
      simpa [or_imp, forall_and, blank] using before
    calc Text.trim (pre ++ c :: post)
      _ = Text.trim (pre ++ [c] ++ post ++ []) := by simp
      _ = Text.trim post := trim_of_blanks more none
      _ = Text.trim (pre ++ post ++ []) := (trim_of_blanks before none).symm
      _ = Text.trim (pre ++ post) := by simp
  · have more : ∀ d ∈ c :: post, isBlank d = true := List.forall_mem_cons.2 ⟨blank, after⟩
    calc Text.trim (pre ++ c :: post)
      _ = Text.trim pre := trim_of_blanks none more
      _ = Text.trim (pre ++ post) := (trim_of_blanks none after).symm

/-- The blanks at the front of a text end with another character. -/
theorem exists_first {cs : List Char} (some : ¬ ∀ d ∈ cs, isBlank d = true) :
    ∃ lead first later, cs = lead ++ first :: later ∧ (∀ d ∈ lead, isBlank d = true) ∧
      isBlank first = false := by
  have occurs : cs.dropWhile isBlank ≠ [] := by
    intro nothing
    exact some (List.dropWhile_eq_nil_iff.1 nothing)
  obtain ⟨first, later, split⟩ := List.exists_cons_of_ne_nil occurs
  refine ⟨cs.takeWhile isBlank, first, later, ?_, fun d => List.mem_takeWhile_imp, ?_⟩
  · rw [← split, List.takeWhile_append_dropWhile]
  · exact head?_dropWhile isBlank cs first (by rw [split]; rfl)

theorem exists_last {cs : List Char} (some : ¬ ∀ d ∈ cs, isBlank d = true) :
    ∃ before last trail, cs = before ++ last :: trail ∧ (∀ d ∈ trail, isBlank d = true) ∧
      isBlank last = false := by
  obtain ⟨trail, last, before, split, areBlank, noBlank⟩ :=
    exists_first (show ¬ ∀ d ∈ cs.reverse, isBlank d = true by simpa using some)
  refine ⟨before.reverse, last, trail.reverse, ?_, by simpa using areBlank, noBlank⟩
  rw [← List.reverse_reverse cs, split]
  simp

/-- A blank put between other characters, with all that the lexer trims set apart. -/
theorem exists_lex_inserted {pre post : List Char} (somePre : ¬ ∀ d ∈ pre, isBlank d = true)
    (somePost : ¬ ∀ d ∈ post, isBlank d = true)
    (lexed : lex .strict (String.ofList (pre ++ post)) = .ok tokens)
    (outside : ∀ token ∈ tokens, token.span.stop ≤ byteSize pre ∨
      byteSize pre ≤ token.span.start) :
    ∃ before after back, tokens = before ++ after ∧ LexRun .strict (byteSize pre) back after ∧
      ∀ c, isBlank c = true → lex .strict (String.ofList (pre ++ c :: post)) =
        (lexFrom .strict (byteSize pre) (c :: back)).map (before ++ ·) := by
  obtain ⟨lead, first, front, rfl, leadBlank, noBlank⟩ := exists_first somePre
  obtain ⟨back, last, trail, rfl, trailBlank, noBlankLast⟩ := exists_last somePost
  have lex_between (between : List Char) :
      lex .strict (String.ofList (lead ++ first :: front ++ (between ++ (back ++ last :: trail)))) =
        lexFrom .strict (byteSize lead) (first :: front ++ (between ++ (back ++ [last]))) := by
    have solid : Solid (first :: front ++ (between ++ (back ++ [last]))) := by
      refine ⟨first, last, rfl, noBlank, ?_, noBlankLast⟩
      rw [← List.append_assoc, ← List.append_assoc, List.getLast?_concat]
    rw [← lex_of_blanks leadBlank solid trailBlank]
    simp
  rw [← List.nil_append (back ++ last :: trail), lex_between, List.nil_append] at lexed
  rw [Text.byteSize_append] at outside ⊢
  obtain ⟨before, after, same, run, inserted⟩ := (lexRun_of_lexFrom lexed).splits rfl outside
  refine ⟨before, after, back ++ [last], same, run, ?_⟩
  intro c blank
  exact (lex_between [c]).trans (inserted c blank)

/-- A blank may be put at the ends of markup, where the lexer trims it. Between tokens it may be
put if it is a gap; any other blank is reported there. -/
theorem lex_inserted_blank (pre post : List Char) (tokens : List Token) (c : Char)
    (lexed : lex .strict (String.ofList (pre ++ post)) = .ok tokens)
    (outside : ∀ token ∈ tokens, token.span.stop ≤ byteSize pre ∨ byteSize pre ≤ token.span.start)
    (blank : isBlank c = true) :
    ((isGap c = true ∨ (∀ d ∈ pre, isBlank d = true) ∨ ∀ d ∈ post, isBlank d = true) →
      ∃ found, lex .strict (String.ofList (pre ++ c :: post)) = .ok found ∧
        lexemes found = lexemes tokens) ∧
    (¬ (isGap c = true ∨ (∀ d ∈ pre, isBlank d = true) ∨ ∀ d ∈ post, isBlank d = true) →
      lex .strict (String.ofList (pre ++ c :: post)) =
        .error ⟨.unexpectedCharacter c, ⟨byteSize pre, byteSize pre + c.utf8Size⟩⟩) := by
  by_cases atEnd : (∀ d ∈ pre, isBlank d = true) ∨ ∀ d ∈ post, isBlank d = true
  · constructor
    · intro _
      exact exists_lex_of_trim lexed (trim_insert blank atEnd)
    · intro refused
      exact absurd (.inr atEnd) refused
  obtain ⟨somePre, somePost⟩ := not_or.1 atEnd
  obtain ⟨before, after, back, rfl, run, inserted⟩ :=
    exists_lex_inserted somePre somePost lexed outside
  constructor
  · intro allowed
    have gap : isGap c = true := allowed.resolve_right atEnd
    obtain ⟨found, later, same⟩ := run.elsewhere (byteSize pre + 1)
    refine ⟨before ++ found, ?_, ?_⟩
    · rw [inserted c blank, lexFrom_gap gap, later]
      rfl
    · simp only [lexemes, List.map_append] at same ⊢
      rw [same]
  · intro refused
    have noGap : isGap c = false := by
      cases gap : isGap c with
      | false => rfl
      | true => exact absurd (.inl gap) refused
    rw [inserted c blank, lexFrom_stray blank noGap]
    rfl

/-- A line feed may be put behind the name, a no-break space may not. -/
theorem lex_inserted_blank_no_break :
    lex .strict "x <9" = .ok [⟨.identifier, "x", ⟨0, 1⟩⟩, ⟨.comparison, "<", ⟨2, 3⟩⟩,
      ⟨.integer, "9", ⟨3, 4⟩⟩, .ending 4] ∧
    (∃ found, lex .strict "x\n <9" = .ok found ∧ lexemes found =
      [(.identifier, "x"), (.comparison, "<"), (.integer, "9"), (.endOfMarkup, "")]) ∧
    lex .strict "x\u00a0 <9" = .error ⟨.unexpectedCharacter '\u00a0', ⟨1, 3⟩⟩ := by
  have lexed : lex .strict "x <9" = .ok [⟨.identifier, "x", ⟨0, 1⟩⟩, ⟨.comparison, "<", ⟨2, 3⟩⟩,
      ⟨.integer, "9", ⟨3, 4⟩⟩, .ending 4] := by
    decide +kernel
  have inserted (c : Char) := lex_inserted_blank ['x'] [' ', '<', '9'] _ c lexed (by decide)
  have allowed := (inserted '\n' (by decide)).1 (.inl (by decide))
  refine ⟨lexed, allowed, (inserted '\u00a0' (by decide)).2 ?_⟩
  rintro (gap | before | after)
  · cases gap
  · cases before 'x' (by decide)
  · cases after '<' (by decide)

/-- Not every blank that is trimmed may stand between tokens. -/
theorem lex_refuses_no_break :
    ¬ ∀ (pre post : List Char) (tokens : List Token) (c : Char),
      lex .strict (String.ofList (pre ++ post)) = .ok tokens →
      (∀ token ∈ tokens,
        token.span.stop ≤ byteSize pre ∨ byteSize pre ≤ token.span.start) →
      isBlank c = true →
      ∃ found, lex .strict (String.ofList (pre ++ c :: post)) = .ok found ∧
        lexemes found = lexemes tokens := by
  intro law
  have lexed : lex .strict (String.ofList (['a'] ++ ['.', 'b'])) =
      .ok [⟨.identifier, "a", ⟨0, 1⟩⟩, ⟨.dot, ".", ⟨1, 2⟩⟩, ⟨.identifier, "b", ⟨2, 3⟩⟩, .ending 3] := by
    decide +kernel
  have fails : lex .strict (String.ofList (['a'] ++ '\u00a0' :: ['.', 'b'])) =
      .error ⟨.unexpectedCharacter '\u00a0', ⟨1, 3⟩⟩ := by
    decide +kernel
  obtain ⟨found, lexedAgain, -⟩ := law ['a'] ['.', 'b'] _ '\u00a0' lexed (by decide) (by decide)
  cases fails.symm.trans lexedAgain

end Token

end TextTemplate
