import TextTemplate.Proofs.Blanking

/-!
# Lexing a text that goes on

A token ends where the characters after it say so, and these are at most two. So if more characters
are put after a text, all its tokens but the last stay, and the lexer comes to the last one again
(`Token.LexRun.resumes`).
-/

namespace TextTemplate

open Text (isGap byteSize)

namespace Token

variable {offset : Nat} {cs text rest more : List Char} {tokens front : List Token}
  {kind : TokenKind} {last stop : Token}

/-- What ends a lexeme does so whatever comes later, unless it is a lone dot. -/
theorem Ends.append (ends : Ends kind rest) (occurs : rest ≠ []) (noDot : rest ≠ ['.'])
    (more : List Char) : Ends kind (rest ++ more) := by
  obtain ⟨c, rest, rfl⟩ := List.exists_cons_of_ne_nil occurs
  apply ends.of_head
  intro dot noDigit
  cases rest with
  | nil => exact absurd (congrArg (· :: []) dot) noDot
  | cons d rest => exact noDigit

/-- The lexeme at the front of a text is taken whatever comes after the text. -/
theorem lexeme?_of_more (found : lexeme? (text ++ rest) = some (kind, text.length))
    (occurs : rest ≠ []) (noDot : rest ≠ ['.']) (more : List Char) :
    lexeme? (text ++ (rest ++ more)) = some (kind, text.length) := by
  have lexeme := isLexeme_of_lexeme? found
  by_cases isOperator : kind = .comparison
  · subst isOperator
    obtain ⟨c, rest, rfl⟩ := List.exists_cons_of_ne_nil occurs
    exact lexeme?_operator_fades lexeme found
  · exact lexeme?_append lexeme ((ends_of_lexeme? found isOperator).append occurs noDot more)

theorem LexRun.ne_nil {mode : LexMode} (run : LexRun mode offset cs tokens) : tokens ≠ [] := by
  obtain ⟨front, rfl, -⟩ := run.tiling.front
  simp

/-- A text without tokens has gaps only. -/
theorem LexRun.isGap_of_single (run : LexRun .strict offset cs [stop]) :
    ∀ c ∈ cs, isGap c = true := by
  generalize same : [stop] = tokens at run
  induction run with
  | ending => exact fun _ member => nomatch member
  | gap isGap later ih => exact List.forall_mem_cons.2 ⟨isGap, ih same⟩
  | token found later =>
    obtain ⟨-, none⟩ := List.cons.inj same
    exact absurd none.symm later.ne_nil
  | skip isLax => cases isLax

theorem LexRun.eq_of_nil {mode : LexMode} (run : LexRun mode offset [] tokens) :
    tokens = [Token.ending offset] := by
  generalize nothing : [] = cs at run
  cases run with
  | ending => rfl
  | gap | skip => cases nothing
  | token found later =>
    have empty := (List.append_eq_nil_iff.1 nothing.symm).1
    exact absurd empty (isLexeme_of_lexeme? found).ne_nil

/-- A lone dot is one token. -/
theorem LexRun.exists_dot (run : LexRun .strict offset ['.'] tokens) :
    ∃ dot stop, tokens = [dot, stop] ∧ dot.kind = .dot := by
  generalize lone : ['.'] = cs at run
  cases run with
  | ending => cases lone
  | gap isGap later =>
    cases lone
    exact absurd isGap (by decide)
  | @token offset kind text rest tokens found later =>
    rw [← lone, show lexeme? ['.'] = some (.dot, 1) by decide] at found
    obtain ⟨rfl, one⟩ := Prod.mk.inj (Option.some.inj found)
    have count := congrArg List.length lone
    have nothing : rest = [] := by
      apply List.length_eq_zero_iff.1
      simp only [List.length_cons, List.length_nil, List.length_append] at count
      omega
    subst nothing
    obtain rfl := later.eq_of_nil
    exact ⟨_, _, rfl, rfl⟩
  | skip isLax => cases isLax

/-- If more comes after a text that ends with a token, the lexer finds all tokens of the text but
the last one, and is at the last one again. -/
theorem LexRun.resumes (run : LexRun .strict offset cs tokens)
    (same : tokens = front ++ [last, stop]) (noDot : last.kind ≠ .dot)
    (solid : ∀ c ∈ cs.getLast?, isGap c = false) :
    ∃ start, last.span = ⟨start, start + byteSize last.text.toList⟩ ∧
      IsLexeme last.kind last.text.toList ∧
      ∀ more, lexFrom .strict offset (cs ++ more) =
        (lexFrom .strict start (last.text.toList ++ more)).map (front ++ ·) := by
  induction run generalizing front with
  | ending offset =>
    have count := congrArg List.length same
    simp at count
  | @gap offset c rest tokens isGap later ih =>
    have solidRest : ∀ d ∈ rest.getLast?, Text.isGap d = false := by
      intro d isLast
      refine solid d ?_
      rw [List.getLast?_cons, Option.mem_def.1 isLast]
      rfl
    obtain ⟨start, span, lexeme, resumes⟩ := ih same solidRest
    refine ⟨start, span, lexeme, fun more => ?_⟩
    rw [List.cons_append, lexFrom_gap isGap, resumes more]
  | @token offset kind text rest tokens found later ih =>
    cases front with
    | nil =>
      obtain ⟨rfl, rfl⟩ := List.cons.inj same
      have nothing : rest = [] := by
        rcases rest.eq_nil_or_concat' with none | ⟨init, d, rfl⟩
        · exact none
        · have noGap := solid d (by simp)
          have gap := later.isGap_of_single d (by simp)
          rw [noGap] at gap
          cases gap
      subst nothing
      refine ⟨offset, by simp, by simpa using isLexeme_of_lexeme? found, fun more => ?_⟩
      have whole : text ++ [] ++ more = (String.ofList text).toList ++ more := by simp
      rw [whole]
      cases lexFrom .strict offset ((String.ofList text).toList ++ more) <;> rfl
    | cons first front =>
      obtain ⟨rfl, rfl⟩ := List.cons.inj same
      have occurs : rest ≠ [] := by
        rintro rfl
        have count := congrArg List.length later.eq_of_nil
        simp at count
      have noLoneDot : rest ≠ ['.'] := by
        rintro rfl
        obtain ⟨dot, after, isPair, isDot⟩ := later.exists_dot
        have split : front ++ [last, stop] = [] ++ [dot, after] := isPair
        obtain ⟨-, isLast⟩ := List.append_inj' split rfl
        cases isLast
        exact noDot isDot
      have solidRest : ∀ d ∈ rest.getLast?, isGap d = false := by
        intro d isLast
        refine solid d ?_
        rw [List.getLast?_append, Option.mem_def.1 isLast]
        rfl
      obtain ⟨start, span, lexeme, resumes⟩ := ih rfl solidRest
      refine ⟨start, span, lexeme, fun more => ?_⟩
      rw [List.append_assoc, lexFrom_of_lexeme? (lexeme?_of_more found occurs noLoneDot more),
        resumes more]
      cases lexFrom .strict start (last.text.toList ++ more) <;> rfl
  | skip isLax => cases isLax

end Token

end TextTemplate
