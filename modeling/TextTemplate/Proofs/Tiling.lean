import TextTemplate.Proofs.Lexemes

/-!
# What the lexer makes of markup

The lexer cuts markup into lexemes and characters that it passes over (`Token.Tiling`). From this
follow where its tokens stand and what stands between them, and that lexemes written with gaps
between them are found again (`Token.lex_tiles_and_inverts`).
-/

namespace TextTemplate

open Text (isGap isBlank byteSize)

namespace Token

/-- From byte `offset` on the text is made of the texts of the tokens, of characters that are passed
over, and of the end of the last token, at its end. -/
inductive Tiling (passed : Char → Prop) : Nat → List Char → List Token → Prop
  | ending (offset : Nat) : Tiling passed offset [] [.ending offset]
  | pass {offset : Nat} {c : Char} {rest : List Char} {tokens : List Token} (isPassed : passed c)
      (later : Tiling passed (offset + c.utf8Size) rest tokens) :
      Tiling passed offset (c :: rest) tokens
  | token {offset : Nat} {kind : TokenKind} {text rest : List Char} {tokens : List Token}
      (lexeme : IsLexeme kind text) (later : Tiling passed (offset + byteSize text) rest tokens) :
      Tiling passed offset (text ++ rest)
        (⟨kind, String.ofList text, ⟨offset, offset + byteSize text⟩⟩ :: tokens)

variable {mode : LexMode} {offset : Nat} {cs text rest before after : List Char}
  {tokens : List Token} {token : Token} {passed : Char → Prop} {kind : TokenKind} {length : Nat}
  {c : Char}

theorem isBlank_of_isWordChar (word : isWordChar c = true) : isBlank c = false := by
  simp only [isWordChar, Char.isAlphanum, Bool.or_eq_true, isAlpha_iff_toNat,
    Char.isDigit_iff_toNat, Char.reduceToNat, beq_iff_eq] at word
  have bound : 45 ≤ c.toNat ∧ c.toNat ≤ 122 := by
    rcases word with ((letter | digit) | rfl) | rfl
    · omega
    · omega
    · decide
    · decide
  simp [isBlank]
  omega

theorem IsInteger.isWordChar (isInteger : IsInteger text) : ∀ c ∈ text, isWordChar c = true := by
  obtain ⟨sign, digits, isSign, isDigits, rfl⟩ := isInteger
  intro c member
  rcases List.mem_append.1 member with inSign | inDigits
  · rcases isSign with rfl | rfl
    · cases inSign
    · cases List.mem_singleton.1 inSign
      rfl
  · exact isWordChar_of_isDigit (isDigits.2 c inDigits)

theorem isBlank_of_mem_marks (member : (kind, c) ∈ marks) : isBlank c = false := by
  simp only [marks, List.mem_cons, Prod.mk.injEq, List.not_mem_nil, or_false] at member
  rcases member with ⟨-, rfl⟩ | ⟨-, rfl⟩ | ⟨-, rfl⟩ | ⟨-, rfl⟩ | ⟨-, rfl⟩ | ⟨-, rfl⟩ | ⟨-, rfl⟩ |
    ⟨-, rfl⟩ | ⟨-, rfl⟩ | ⟨-, rfl⟩ <;> rfl

/-- Blanks stand in lexemes of strings only. -/
theorem IsLexeme.solid (lexeme : IsLexeme kind text) (noString : kind ≠ .string) :
    text ≠ [] ∧ ∀ c ∈ text, isBlank c = false := by
  cases kind with
  | comparison =>
    have all : (operators.map String.toList).all
        (fun operator => !operator.isEmpty && operator.all (!isBlank ·)) = true := by decide
    simpa using List.all_eq_true.1 all text lexeme
  | string => exact absurd rfl noString
  | integer =>
    obtain ⟨first, rest, rfl, -⟩ := IsInteger.start lexeme
    exact ⟨by simp, fun c member => isBlank_of_isWordChar (IsInteger.isWordChar lexeme c member)⟩
  | float =>
    obtain ⟨whole, fraction, isInteger, isFraction, rfl⟩ := lexeme
    refine ⟨by simp, fun c member => ?_⟩
    rcases List.mem_append.1 member with inWhole | inRest
    · exact isBlank_of_isWordChar (isInteger.isWordChar c inWhole)
    · rcases List.mem_cons.1 inRest with rfl | inFraction
      · rfl
      · exact isBlank_of_isWordChar (isWordChar_of_isDigit (isFraction.2 c inFraction))
  | identifier =>
    obtain ⟨first, word, start, goesOn, rfl, -⟩ := lexeme
    refine ⟨by simp, fun c member => isBlank_of_isWordChar ?_⟩
    rcases List.mem_cons.1 member with rfl | inWord
    · exact isWordChar_of_isWordStart start
    · exact goesOn c inWord
  | range =>
    cases lexeme
    exact ⟨by decide, List.forall_mem_cons.2 ⟨rfl, List.forall_mem_singleton.2 rfl⟩⟩
  | endOfMarkup => cases lexeme
  | _ =>
    obtain ⟨mark, member, rfl⟩ := lexeme
    refine ⟨List.cons_ne_nil _ _, fun c isMark => ?_⟩
    rw [List.mem_singleton.1 isMark]
    exact isBlank_of_mem_marks member

/-- The characters at the two ends of a lexeme are no blanks. -/
theorem IsLexeme.ends (lexeme : IsLexeme kind text) :
    ∃ first last, text.head? = some first ∧ isBlank first = false ∧
      text.getLast? = some last ∧ isBlank last = false := by
  by_cases isString : kind = .string
  · subst isString
    obtain ⟨quote, inner, isQuote, -, rfl⟩ := lexeme
    have noBlank : isBlank quote = false := by rcases isQuote with rfl | rfl <;> rfl
    refine ⟨quote, quote, rfl, noBlank, ?_, noBlank⟩
    rw [← List.cons_append, List.getLast?_concat]
  · obtain ⟨occurs, noBlank⟩ := lexeme.solid isString
    refine ⟨text.head occurs, text.getLast occurs, List.head?_eq_some_head occurs,
      noBlank _ (List.head_mem occurs), List.getLast?_eq_some_getLast occurs,
      noBlank _ (List.getLast_mem occurs)⟩

theorem IsLexeme.ne_nil (lexeme : IsLexeme kind text) : text ≠ [] := by
  obtain ⟨first, last, isFirst, -⟩ := lexeme.ends
  rintro rfl
  cases isFirst

theorem utf8Size_of_isGap (gap : isGap c = true) : c.utf8Size = 1 := by
  simp only [isGap, Bool.or_eq_true, beq_iff_eq] at gap
  rcases gap with (((rfl | rfl) | rfl) | rfl) | rfl <;> rfl

theorem isLexeme_of_lexeme? (found : lexeme? (text ++ rest) = some (kind, text.length)) :
    IsLexeme kind text := by
  obtain ⟨other, after, same, count, lexeme⟩ := begins_of_lexeme? found
  rwa [(List.append_inj same count.symm).1]

/-- What the lexer does step by step. Of each token it is said that the lexer takes it before what
follows. -/
inductive LexRun (mode : LexMode) : Nat → List Char → List Token → Prop
  | ending (offset : Nat) : LexRun mode offset [] [.ending offset]
  | gap {offset : Nat} {c : Char} {rest : List Char} {tokens : List Token} (isGap : isGap c = true)
      (later : LexRun mode (offset + 1) rest tokens) : LexRun mode offset (c :: rest) tokens
  | token {offset : Nat} {kind : TokenKind} {text rest : List Char} {tokens : List Token}
      (found : lexeme? (text ++ rest) = some (kind, text.length))
      (later : LexRun mode (offset + byteSize text) rest tokens) :
      LexRun mode offset (text ++ rest)
        (⟨kind, String.ofList text, ⟨offset, offset + byteSize text⟩⟩ :: tokens)
  | skip {offset : Nat} {c : Char} {rest : List Char} {tokens : List Token} (isLax : mode = .lax)
      (noGap : isGap c = false) (later : LexRun mode (offset + c.utf8Size) rest tokens) :
      LexRun mode offset (c :: rest) tokens

theorem lexRun_of_lexFrom (lexed : lexFrom mode offset cs = .ok tokens) :
    LexRun mode offset cs tokens := by
  fun_induction lexFrom mode offset cs generalizing tokens with
  | case1 offset =>
    cases lexed
    exact .ending offset
  | case2 offset c rest gap ih => exact .gap gap (ih lexed)
  | case3 => cases lexed
  | case4 offset c rest noGap kind length found text stop more later =>
    rename_i ih
    cases lexed
    obtain ⟨_ | ⟨first, word⟩, after, same, rfl, lexeme⟩ := begins_of_lexeme? found
    · exact absurd rfl lexeme.ne_nil
    · rw [List.cons_append] at same
      cases same
      have isText : text = c :: word := by simp [text]
      have left : (word ++ after).drop ((c :: word).length - 1) = after := by simp
      rw [left] at ih later
      rw [← List.cons_append, ← isText] at found ⊢
      exact .token found (ih later)
  | case5 => cases lexed
  | case6 offset c rest noGap notFound isLax ih =>
    exact .skip isLax (by simpa using noGap) (ih (isLax ▸ lexed))

theorem LexRun.tiling (run : LexRun mode offset cs tokens) :
    Tiling (fun c => mode = .strict → isGap c = true) offset cs tokens := by
  induction run with
  | ending offset => exact .ending offset
  | @gap offset c rest tokens isGap later ih =>
    apply Tiling.pass (fun _ => isGap)
    rwa [utf8Size_of_isGap isGap]
  | token found later ih => exact .token (isLexeme_of_lexeme? found) ih
  | skip isLax noGap later ih =>
    apply Tiling.pass _ ih
    intro isStrict
    rw [isLax] at isStrict
    cases isStrict

theorem tiling_of_lexFrom (lexed : lexFrom mode offset cs = .ok tokens) :
    Tiling (fun c => mode = .strict → isGap c = true) offset cs tokens :=
  (lexRun_of_lexFrom lexed).tiling

/-- A character that begins no lexeme is reported where it stands. -/
theorem stray_of_lexFrom {error : LexError} (lexed : lexFrom mode offset cs = .error error)
    (stands : offset = byteSize before) :
    ∃ c, error.cause = strayCause c ∧ error.span.Locates (before ++ cs ++ after) [c] := by
  fun_induction lexFrom mode offset cs generalizing before with
  | case1 => cases lexed
  | case2 offset c rest gap ih =>
    have passed : offset + 1 = byteSize (before ++ [c]) := by
      simp [stands, utf8Size_of_isGap gap]
    simpa using ih lexed passed
  | case3 offset c rest noGap kind length found text stop inner inLater =>
    rename_i ih
    cases lexed
    have passed : stop = byteSize (before ++ text) := by simp [stop, stands]
    simpa [text] using ih inLater passed
  | case4 => cases lexed
  | case5 offset c rest noGap notFound isStrict =>
    cases lexed
    exact ⟨c, rfl, before, rest ++ after, by simp, by simp [stands]⟩
  | case6 offset c rest noGap notFound isLax ih =>
    have passed : offset + c.utf8Size = byteSize (before ++ [c]) := by simp [stands]
    simpa using ih (isLax ▸ lexed) passed

/-! ## What a tiling says -/

namespace Tiling

theorem front (tiling : Tiling passed offset cs tokens) :
    ∃ front, tokens = front ++ [.ending (offset + byteSize cs)] ∧
      ∀ token ∈ front, IsLexeme token.kind token.text.toList := by
  induction tiling with
  | ending offset => exact ⟨[], rfl, fun _ nowhere => nomatch nowhere⟩
  | pass isPassed later ih =>
    obtain ⟨front, rfl, lexemes⟩ := ih
    exact ⟨front, by rw [Text.byteSize_cons, Nat.add_assoc], lexemes⟩
  | @token offset kind text rest tokens lexeme later ih =>
    obtain ⟨front, rfl, lexemes⟩ := ih
    refine ⟨⟨kind, String.ofList text, ⟨offset, offset + byteSize text⟩⟩ :: front, ?_, ?_⟩
    · rw [Text.byteSize_append, Nat.add_assoc]
      rfl
    · intro token member
      rcases List.mem_cons.1 member with rfl | later
      · rwa [String.toList_ofList]
      · exact lexemes token later

theorem locates (tiling : Tiling passed offset cs tokens) (stands : offset = byteSize before) :
    ∀ token ∈ tokens, token.span.Locates (before ++ cs ++ after) token.text.toList := by
  induction tiling generalizing before with
  | ending offset =>
    intro token member
    cases List.mem_singleton.1 member
    exact ⟨before, after, by simp [Token.ending], by simp [Token.ending, stands]⟩
  | @pass offset c rest tokens isPassed later ih =>
    intro token member
    have passed : offset + c.utf8Size = byteSize (before ++ [c]) := by simp [stands]
    have located := ih passed token member
    simpa using located
  | @token offset kind text rest tokens lexeme later ih =>
    intro token member
    rcases List.mem_cons.1 member with rfl | inLater
    · refine ⟨before, rest ++ after, by simp, ?_⟩
      rw [String.toList_ofList, stands]
    · have passed : offset + byteSize text = byteSize (before ++ text) := by simp [stands]
      have located := ih passed token inLater
      simpa using located

theorem le_start (tiling : Tiling passed offset cs tokens) :
    ∀ token ∈ tokens, offset ≤ token.span.start := by
  induction tiling with
  | ending offset =>
    intro token member
    cases List.mem_singleton.1 member
    exact Nat.le_refl _
  | pass isPassed later ih => exact fun token member => Nat.le_of_add_right_le (ih token member)
  | token lexeme later ih =>
    intro token member
    rcases List.mem_cons.1 member with rfl | inLater
    · exact Nat.le_refl _
    · exact Nat.le_of_add_right_le (ih token inLater)

theorem pairwise (tiling : Tiling passed offset cs tokens) :
    tokens.Pairwise fun first second => first.span.stop ≤ second.span.start := by
  induction tiling with
  | ending offset => exact List.pairwise_singleton _ _
  | pass isPassed later ih => exact ih
  | token lexeme later ih => exact .cons later.le_start ih

/-- A character whose bytes no token holds is passed over. -/
theorem passed_of_outside (tiling : Tiling passed offset cs tokens) {byte : Nat}
    (splits : cs = before ++ c :: after) (low : offset + byteSize before ≤ byte)
    (high : byte < offset + byteSize before + c.utf8Size)
    (outside : ∀ token ∈ tokens, ¬ (token.span.start ≤ byte ∧ byte < token.span.stop)) :
    passed c := by
  induction tiling generalizing before with
  | ending offset => simp at splits
  | @pass offset d rest tokens isPassed later ih =>
    cases before with
    | nil =>
      cases splits
      exact isPassed
    | cons d before =>
      cases splits
      simp only [Text.byteSize_cons] at low high
      exact ih rfl (by omega) (by omega) outside
  | @token offset kind text rest tokens lexeme later ih =>
    have outsideLater := fun token member => outside token (List.mem_cons_of_mem _ member)
    rcases List.append_eq_append_iff.1 splits with ⟨more, rfl, same⟩ | ⟨more, rfl, same⟩
    · simp only [Text.byteSize_append] at low high
      exact ih same (by omega) (by omega) outsideLater
    · cases more with
      | nil =>
        rw [List.append_nil] at ih
        have atFront : rest = [] ++ c :: after := same.symm
        exact ih atFront (by simpa using low) (by simpa using high) outsideLater
      | cons d more =>
        cases same
        -- the character lies within this very token
        refine absurd ⟨?_, ?_⟩ (outside _ List.mem_cons_self)
        · show offset ≤ byte
          omega
        · show byte < offset + byteSize (before ++ c :: more)
          simp only [Text.byteSize_append, Text.byteSize_cons]
          omega

end Tiling

/-! ## Lexemes with gaps between them -/

/-- The texts of the lexemes one after the other, with gap characters between any two. -/
inductive Spaced : List (TokenKind × String) → List Char → Prop
  | nil : Spaced [] []
  | single (lexeme : TokenKind × String) : Spaced [lexeme] lexeme.2.toList
  | cons {lexeme next : TokenKind × String} {later : List (TokenKind × String)}
      {gaps cs : List Char} (parted : gaps ≠ []) (areGaps : ∀ c ∈ gaps, isGap c = true)
      (spaced : Spaced (next :: later) cs) :
      Spaced (lexeme :: next :: later) (lexeme.2.toList ++ (gaps ++ cs))

variable {lexemes : List (TokenKind × String)} {gaps : List Char}

theorem parted_nil : Parted [] :=
  fun _ nowhere => nomatch nowhere

theorem lexFrom_nil : lexFrom mode offset [] = .ok [.ending offset] := by
  unfold lexFrom
  rfl

theorem lexFrom_gap (gap : isGap c = true) :
    lexFrom mode offset (c :: rest) = lexFrom mode (offset + 1) rest := by
  rw [lexFrom.eq_def]
  exact if_pos gap

theorem lexFrom_gaps (areGaps : ∀ c ∈ gaps, isGap c = true) :
    lexFrom mode offset (gaps ++ rest) = lexFrom mode (offset + byteSize gaps) rest := by
  induction gaps generalizing offset with
  | nil => rfl
  | cons c gaps ih =>
    have gap := areGaps c List.mem_cons_self
    rw [List.cons_append, lexFrom_gap gap, ih fun d member => areGaps d (.tail c member),
      Text.byteSize_cons, utf8Size_of_isGap gap, Nat.add_assoc]

theorem lexFrom_of_lexeme? (found : lexeme? (text ++ rest) = some (kind, text.length)) :
    lexFrom mode offset (text ++ rest) =
      (lexFrom mode (offset + byteSize text) rest).map
        (⟨kind, String.ofList text, ⟨offset, offset + byteSize text⟩⟩ :: ·) := by
  obtain ⟨first, last, isFirst, noBlank, -⟩ := (isLexeme_of_lexeme? found).ends
  obtain ⟨text, rfl⟩ := List.head?_eq_some_iff.1 isFirst
  have noGap : ¬ isGap first = true := by
    intro gap
    rw [Text.isBlank_of_isGap gap] at noBlank
    cases noBlank
  rw [List.cons_append] at found ⊢
  rw [lexFrom.eq_def]
  simp only [if_neg noGap, found, List.length_cons, Nat.add_sub_cancel, List.take_left,
    List.drop_left]
  cases lexFrom mode (offset + byteSize (first :: text)) rest <;> rfl

theorem lexFrom_lexeme (lexeme : IsLexeme kind text) (ends : Ends kind rest) :
    lexFrom mode offset (text ++ rest) =
      (lexFrom mode (offset + byteSize text) rest).map
        (⟨kind, String.ofList text, ⟨offset, offset + byteSize text⟩⟩ :: ·) :=
  lexFrom_of_lexeme? (lexeme?_append lexeme ends)

theorem lexFrom_spaced (spaced : Spaced lexemes cs)
    (areLexemes : ∀ lexeme ∈ lexemes, IsLexeme lexeme.1 lexeme.2.toList) :
    ∃ tokens, lexFrom mode offset cs = .ok tokens ∧
      tokens.map (fun token => (token.kind, token.text)) = lexemes ++ [(.endOfMarkup, "")] := by
  induction spaced generalizing offset with
  | nil => exact ⟨_, lexFrom_nil, rfl⟩
  | single lexeme =>
    have taken : lexFrom mode offset _ = _ :=
      lexFrom_lexeme (areLexemes lexeme List.mem_cons_self) parted_nil.ends
    rw [lexFrom_nil, List.append_nil] at taken
    exact ⟨_, taken, by simp [ending]⟩
  | @cons lexeme next later gaps cs parted areGaps spaced ih =>
    have areLater := fun lexeme member => areLexemes lexeme (.tail _ member)
    obtain ⟨tokens, lexed, printed⟩ :=
      @ih (offset + byteSize lexeme.2.toList + byteSize gaps) areLater
    have atGap : Parted (gaps ++ cs) := by
      obtain ⟨gap, gaps, rfl⟩ := List.exists_cons_of_ne_nil parted
      rintro c ⟨⟩
      exact areGaps gap List.mem_cons_self
    rw [lexFrom_lexeme (areLexemes lexeme List.mem_cons_self) atGap.ends, lexFrom_gaps areGaps,
      lexed]
    exact ⟨_, rfl, by simp [printed]⟩

theorem Spaced.ne_nil {lexeme : TokenKind × String} (spaced : Spaced (lexeme :: lexemes) cs)
    (isLexeme : IsLexeme lexeme.1 lexeme.2.toList) : cs ≠ [] := by
  cases spaced with
  | single => exact isLexeme.ne_nil
  | cons => exact fun empty => isLexeme.ne_nil (List.append_eq_nil_iff.1 empty).1

theorem Spaced.ends (spaced : Spaced lexemes cs)
    (areLexemes : ∀ lexeme ∈ lexemes, IsLexeme lexeme.1 lexeme.2.toList) :
    (∀ first ∈ cs.head?, isBlank first = false) ∧ ∀ last ∈ cs.getLast?, isBlank last = false := by
  induction spaced with
  | nil => exact ⟨fun _ nowhere => (nomatch nowhere), fun _ nowhere => (nomatch nowhere)⟩
  | single lexeme =>
    obtain ⟨first, last, isFirst, firstSolid, isLast, lastSolid⟩ :=
      (areLexemes lexeme List.mem_cons_self).ends
    rw [isFirst, isLast]
    refine ⟨?_, ?_⟩
    · rintro c ⟨⟩
      exact firstSolid
    · rintro c ⟨⟩
      exact lastSolid
  | @cons lexeme next later gaps cs parted areGaps spaced ih =>
    obtain ⟨first, last, isFirst, firstSolid, -⟩ := (areLexemes lexeme List.mem_cons_self).ends
    have areLater := fun lexeme member => areLexemes lexeme (.tail _ member)
    refine ⟨?_, ?_⟩
    · rw [List.head?_append, isFirst]
      rintro c ⟨⟩
      exact firstSolid
    · intro last isLast
      have occurs : cs ≠ [] := spaced.ne_nil (areLater next List.mem_cons_self)
      rw [← List.append_assoc, List.getLast?_append_of_ne_nil _ occurs] at isLast
      exact (ih areLater).2 last isLast

/-! ## The lexer -/

/-- Where the trimmed markup stands in the markup. -/
def trimmedSpan (markup : String) : Span :=
  let lead := byteSize (markup.toList.takeWhile isBlank)
  ⟨lead, lead + byteSize (Text.trim markup.toList)⟩

/-- Text is its trimmed text with the blanks around it. -/
theorem exists_blank_trail (cs : List Char) :
    ∃ trail, (∀ c ∈ trail, isBlank c = true) ∧
      cs = cs.takeWhile isBlank ++ Text.trim cs ++ trail := by
  let trail := ((cs.dropWhile isBlank).reverse.takeWhile isBlank).reverse
  have split : cs.dropWhile isBlank = Text.trim cs ++ trail := by
    rw [Text.trim, Text.trimStart, Text.trimEnd, ← List.reverse_append,
      List.takeWhile_append_dropWhile, List.reverse_reverse]
  refine ⟨trail, ?_, ?_⟩
  · intro c member
    exact List.mem_takeWhile_imp (List.mem_reverse.1 member)
  · rw [List.append_assoc, ← split, List.takeWhile_append_dropWhile]

theorem exists_trail (cs : List Char) :
    ∃ trail, cs = cs.takeWhile isBlank ++ Text.trim cs ++ trail := by
  obtain ⟨trail, -, same⟩ := exists_blank_trail cs
  exact ⟨trail, same⟩

theorem trimmedSpan_locates (markup : String) :
    (trimmedSpan markup).Locates markup.toList (Text.trim markup.toList) := by
  obtain ⟨trail, same⟩ := exists_trail markup.toList
  exact ⟨_, trail, same, rfl⟩

/-- Text that no blank begins or ends is its own trimmed text. -/
theorem trim_of_solid_ends (first : ∀ c ∈ cs.head?, isBlank c = false)
    (last : ∀ c ∈ cs.getLast?, isBlank c = false) :
    cs.takeWhile isBlank = [] ∧ Text.trim cs = cs := by
  have drops (ds : List Char) (start : ∀ c ∈ ds.head?, isBlank c = false) :
      ds.takeWhile isBlank = [] ∧ ds.dropWhile isBlank = ds := by
    cases ds with
    | nil => exact ⟨rfl, rfl⟩
    | cons c ds => simp [start c rfl]
  have back := (drops cs.reverse (by simpa using last)).2
  refine ⟨(drops cs first).1, ?_⟩
  rw [Text.trim, Text.trimStart, (drops cs first).2, Text.trimEnd, back, List.reverse_reverse]

/-- The character that holds a byte of the text. -/
theorem exists_char_of_byte {byte : Nat} (within : byte < byteSize cs) :
    ∃ before c after, cs = before ++ c :: after ∧ byteSize before ≤ byte ∧
      byte < byteSize before + c.utf8Size := by
  induction cs generalizing byte with
  | nil => cases within
  | cons c cs ih =>
    by_cases here : byte < c.utf8Size
    · exact ⟨[], c, cs, rfl, Nat.zero_le _, by simpa using here⟩
    · rw [Text.byteSize_cons] at within
      have inRest : byte - c.utf8Size < byteSize cs := by omega
      obtain ⟨before, d, after, rfl, low, high⟩ := ih inRest
      exact ⟨c :: before, d, after, rfl, by simp only [Text.byteSize_cons]; omega,
        by simp only [Text.byteSize_cons]; omega⟩

/-- The tokens are lexemes that stand in the trimmed markup one after the other; in strict mode
nothing but gap characters stands around them. -/
structure Tiles (mode : LexMode) (markup : String) (tokens : List Token) : Prop where
  lexemes : ∀ token ∈ tokens, IsLexeme token.kind token.text.toList
  located : ∀ token ∈ tokens, token.span.Locates markup.toList token.text.toList
  nonempty : ∀ token ∈ tokens, token.span.start < token.span.stop
  within : ∀ token ∈ tokens, (trimmedSpan markup).start ≤ token.span.start ∧
    token.span.stop ≤ (trimmedSpan markup).stop
  apart : tokens.Pairwise fun first second => first.span.stop ≤ second.span.start
  gaps : mode = .strict → ∀ byte, (trimmedSpan markup).start ≤ byte →
    byte < (trimmedSpan markup).stop →
    (∀ token ∈ tokens, ¬ (token.span.start ≤ byte ∧ byte < token.span.stop)) →
    ∃ gap, isGap gap = true ∧ Span.Locates ⟨byte, byte + 1⟩ markup.toList [gap]

theorem tiling_of_lex {markup : String} (lexed : lex mode markup = .ok tokens) :
    Tiling (fun c => mode = .strict → isGap c = true) (trimmedSpan markup).start
      (Text.trim markup.toList) tokens :=
  tiling_of_lexFrom lexed

theorem locates_of_lex {markup : String} (lexed : lex mode markup = .ok tokens) :
    ∀ token ∈ tokens, token.span.Locates markup.toList token.text.toList := by
  obtain ⟨trail, same⟩ := exists_trail markup.toList
  rw [same]
  exact (tiling_of_lex lexed).locates rfl

theorem stray_of_lex {markup : String} {error : LexError}
    (lexed : lex mode markup = .error error) :
    ∃ c, error.cause = strayCause c ∧ error.span.Locates markup.toList [c] := by
  obtain ⟨trail, same⟩ := exists_trail markup.toList
  rw [same]
  exact stray_of_lexFrom lexed rfl

/-- What the strict lexer leaves outside its tokens are gap characters, of one byte each. -/
theorem gap_of_lex {markup : String} {byte : Nat} (lexed : lex .strict markup = .ok tokens)
    (low : (trimmedSpan markup).start ≤ byte) (high : byte < (trimmedSpan markup).stop)
    (outside : ∀ token ∈ tokens, ¬ (token.span.start ≤ byte ∧ byte < token.span.stop)) :
    ∃ gap, isGap gap = true ∧ Span.Locates ⟨byte, byte + 1⟩ markup.toList [gap] := by
  have located := trimmedSpan_locates markup
  rw [located.stop] at high
  have inTrimmed : byte - (trimmedSpan markup).start < byteSize (Text.trim markup.toList) := by
    omega
  obtain ⟨before, gap, after, split, from', upTo⟩ := exists_char_of_byte inTrimmed
  have isGap :=
    (tiling_of_lex lexed).passed_of_outside split (by omega) (by omega) outside rfl
  rw [utf8Size_of_isGap isGap] at upTo
  have gapLocated : Span.Locates ⟨byteSize before, byteSize before + 1⟩
      (Text.trim markup.toList) [gap] :=
    ⟨before, after, by simpa using split, by simp [utf8Size_of_isGap isGap]⟩
  have inMarkup := located.shift gapLocated
  have here : byteSize before + (trimmedSpan markup).start = byte := by omega
  rw [Span.shift, here, Nat.add_right_comm, here] at inMarkup
  exact ⟨gap, isGap, inMarkup⟩

theorem tiles_of_lex {markup : String} (lexed : lex mode markup = .ok tokens) :
    ∃ front, tokens = front ++ [.ending (trimmedSpan markup).stop] ∧ Tiles mode markup front := by
  have tiling := tiling_of_lex lexed
  obtain ⟨front, rfl, lexemes⟩ := tiling.front
  have located := locates_of_lex lexed
  have inFront {token : Token} (member : token ∈ front) :
      token ∈ front ++ [.ending (trimmedSpan markup).stop] := List.mem_append_left _ member
  refine ⟨front, rfl, lexemes, fun token member => located token (inFront member), ?_, ?_,
    (List.pairwise_append.1 tiling.pairwise).1, ?_⟩
  · intro token member
    rw [(located token (inFront member)).stop]
    exact Nat.lt_add_of_pos_right (Text.byteSize_pos (lexemes token member).ne_nil)
  · intro token member
    exact ⟨tiling.le_start token (inFront member),
      (List.pairwise_append.1 tiling.pairwise).2.2 token member _ List.mem_cons_self⟩
  · rintro rfl byte low high outside
    refine gap_of_lex lexed low high fun token member => ?_
    rcases List.mem_append.1 member with inFront | atEnd
    · exact outside token inFront
    · -- the token at the end is empty
      cases List.mem_singleton.1 atEnd
      exact fun inside => Nat.lt_irrefl _ (Nat.lt_of_lt_of_le inside.2 inside.1)

/-- The lexer cuts markup into lexemes: its tokens, but for the one that marks the end of the
trimmed markup, are lexemes that stand where their spans say, one after the other, and in strict
mode with gap characters only around them. Any lexemes, written with gaps between them, are found
again. -/
theorem lex_tiles_and_inverts :
    (∀ mode markup tokens, lex mode markup = .ok tokens →
      ∃ front, tokens = front ++ [.ending (trimmedSpan markup).stop] ∧ Tiles mode markup front) ∧
    ∀ lexemes cs, (∀ lexeme ∈ lexemes, IsLexeme lexeme.1 lexeme.2.toList) → Spaced lexemes cs →
      ∃ tokens, lex .strict (String.ofList cs) = .ok tokens ∧
        tokens.map (fun token => (token.kind, token.text)) = lexemes ++ [(.endOfMarkup, "")] := by
  refine ⟨fun mode markup tokens lexed => tiles_of_lex lexed, ?_⟩
  intro lexemes cs areLexemes spaced
  obtain ⟨first, last⟩ := spaced.ends areLexemes
  obtain ⟨noLead, same⟩ := trim_of_solid_ends first last
  unfold lex
  rw [String.toList_ofList]
  simp only [noLead, same]
  exact lexFrom_spaced spaced areLexemes

theorem lex_tiles_and_inverts_filter_call :
    ∃ front, lex .strict "name\t| f \n: 'ü '" = .ok (front ++ [.ending 17]) ∧
      front.map (fun token => (token.kind, token.text)) =
        [(.identifier, "name"), (.pipe, "|"), (.identifier, "f"), (.colon, ":"),
          (.string, "'ü '")] ∧
      Tiles .strict "name\t| f \n: 'ü '" front := by
  have spaced : Spaced [(.identifier, "name"), (.pipe, "|"), (.identifier, "f"), (.colon, ":"),
      (.string, "'ü '")] "name\t| f \n: 'ü '".toList :=
    @Spaced.cons _ _ _ ['\t'] _ (by decide) (List.all_eq_true.1 rfl)
      (@Spaced.cons _ _ _ [' '] _ (by decide) (List.all_eq_true.1 rfl)
        (@Spaced.cons _ _ _ [' ', '\n'] _ (by decide) (List.all_eq_true.1 rfl)
          (@Spaced.cons _ _ _ [' '] _ (by decide) (List.all_eq_true.1 rfl) (.single _))))
  obtain ⟨tokens, lexed, printed⟩ := lex_tiles_and_inverts.2 _ _ (by
    simp only [List.forall_mem_cons]
    exact ⟨⟨'n', "ame".toList, rfl, List.all_eq_true.1 rfl, rfl, by decide⟩,
      isLexeme_mark (by decide), ⟨'f', [], rfl, List.all_eq_true.1 rfl, rfl, by decide⟩,
      isLexeme_mark (by decide),
      ⟨'\'', "ü ".toList, .inl rfl, by decide, rfl⟩, fun _ nowhere => nomatch nowhere⟩) spaced
  rw [String.ofList_toList] at lexed
  obtain ⟨front, rfl, tiles⟩ := lex_tiles_and_inverts.1 _ _ _ lexed
  refine ⟨front, lexed, ?_, tiles⟩
  rw [List.map_append] at printed
  exact List.append_inj_left' printed rfl

end Token

end TextTemplate
