import TextTemplate.Proofs.Access
import TextTemplate.Proofs.Concatenation

/-!
# Names to bind

A tag that binds a name reads it from markup with a single token, an identifier or a string
(`TagRule.read_target_eq_ok`). An assignment has its target in front of the first equals sign of its
markup. So it takes every name that a capture takes, unless the name itself holds an equals sign:
then the markup is cut within the quotes (`TagRule.assign_takes_captured_name`).
-/

namespace TextTemplate

open Text (byteSize isBlank isGap)

namespace Token

variable {mode : LexMode} {offset stop : Nat} {cs lead inner : List Char} {quote : Char}
  {token : Token} {passed : Char → Prop} {name : String}

/-! ## Markup with a single token -/

theorem Tiling.passed_of_empty {last : Token} (tiling : Tiling passed offset cs [last]) :
    ∀ c ∈ cs, passed c := by
  generalize same : [last] = tokens at tiling
  induction tiling with
  | ending => simp
  | pass isPassed later ih => simpa [isPassed] using ih same
  | token lexeme later =>
    obtain ⟨front, rfl, -⟩ := later.front
    simp at same

/-- A single token stands between characters that are passed over. -/
theorem Tiling.exists_single {last : Token} (tiling : Tiling passed offset cs [token, last]) :
    ∃ before after, cs = before ++ token.text.toList ++ after ∧
      (∀ c ∈ before, passed c) ∧ (∀ c ∈ after, passed c) ∧
      IsLexeme token.kind token.text.toList := by
  generalize same : [token, last] = tokens at tiling
  induction tiling with
  | ending => simp at same
  | @pass offset c rest tokens isPassed later ih =>
    obtain ⟨before, after, rfl, arePassed, rest⟩ := ih same
    refine ⟨c :: before, after, rfl, ?_, rest⟩
    simpa [isPassed] using arePassed
  | token lexeme later =>
    simp only [List.cons.injEq] at same
    obtain ⟨rfl, rfl⟩ := same
    refine ⟨[], _, by simp, by simp, later.passed_of_empty, by simpa using lexeme⟩

/-- Markup with a single token is that token with blanks around it. -/
theorem exists_of_lex_single {markup : String}
    (lexed : lex .strict markup = .ok [token, .ending stop]) :
    ∃ lead trail, markup.toList = lead ++ token.text.toList ++ trail ∧
      (∀ c ∈ lead, isBlank c = true) ∧ (∀ c ∈ trail, isBlank c = true) ∧
      IsLexeme token.kind token.text.toList := by
  obtain ⟨before, after, core, gapsBefore, gapsAfter, lexeme⟩ :=
    (tiling_of_lex lexed).exists_single
  obtain ⟨trail, trailBlank, split⟩ := exists_blank_trail markup.toList
  refine ⟨markup.toList.takeWhile isBlank ++ before, after ++ trail, ?_, ?_, ?_, lexeme⟩
  · refine split.trans ?_
    rw [core]
    simp
  · intro c member
    rcases List.mem_append.1 member with inLead | inGaps
    · exact List.mem_takeWhile_imp inLead
    · exact Text.isBlank_of_isGap (gapsBefore c inGaps rfl)
  · intro c member
    rcases List.mem_append.1 member with inGaps | inTrail
    · exact Text.isBlank_of_isGap (gapsAfter c inGaps rfl)
    · exact trailBlank c inTrail

/-! ## A quote that nothing closes -/

theorem lexeme?_openQuote (isQuote : quote = '\'' ∨ quote = '"') (free : quote ∉ inner) :
    lexeme? (quote :: inner) = none := by
  have noComparison : comparisonLength? (quote :: inner) = none := by
    rcases isQuote with rfl | rfl <;>
      exact comparisonLength?_of_not_word (by decide) (by decide)
  have opens : Token.isQuote quote = true := by
    rcases isQuote with rfl | rfl <;> rfl
  have unclosed : stringLength? quote inner = none := by
    unfold stringLength?
    rw [List.findIdx?_eq_none_iff.2, Option.map_none]
    intro c member
    have : c ≠ quote := by
      rintro rfl
      exact free member
    simpa using this
  simp [lexeme?, noComparison, opens, unclosed]

theorem isBlank_quote (isQuote : quote = '\'' ∨ quote = '"') : isBlank quote = false := by
  rcases isQuote with rfl | rfl <;> rfl

/-- Blanks at the end of a text that a quote begins stand behind the quote. -/
theorem exists_trim_quote (isQuote : quote = '\'' ∨ quote = '"') (inner : List Char) :
    ∃ kept, Text.trim (quote :: inner) = quote :: kept ∧ kept <+: inner := by
  have solid := isBlank_quote isQuote
  obtain ⟨trail, trailBlank, split⟩ := exists_blank_trail (quote :: inner)
  rw [List.takeWhile_cons, solid, if_neg Bool.false_ne_true, List.nil_append] at split
  cases trimmed : Text.trim (quote :: inner) with
  | nil =>
    rw [trimmed, List.nil_append] at split
    have blank := trailBlank quote (by simp [← split])
    rw [solid] at blank
    cases blank
  | cons first kept =>
    rw [trimmed] at split
    obtain ⟨rfl, same⟩ := List.cons.inj split
    exact ⟨kept, rfl, trail, same.symm⟩

theorem lex_openQuote (leadBlank : ∀ c ∈ lead, isBlank c = true)
    (isQuote : quote = '\'' ∨ quote = '"') (free : quote ∉ inner) :
    lex .strict (String.ofList (lead ++ quote :: inner)) =
      .error ⟨.unterminatedString, ⟨byteSize lead, byteSize lead + 1⟩⟩ := by
  obtain ⟨kept, trimmed, leads⟩ := exists_trim_quote isQuote inner
  have keptFree : quote ∉ kept := fun member => free (leads.subset member)
  have solid := isBlank_quote isQuote
  have whole : Text.trim (lead ++ quote :: inner) = quote :: kept := by
    have bare : Text.trim (lead ++ quote :: inner ++ []) = Text.trim (quote :: inner) :=
      trim_of_blanks leadBlank (by simp)
    rw [List.append_nil] at bare
    rw [bare, trimmed]
  have front : (lead ++ quote :: inner).takeWhile isBlank = lead := by
    apply takeWhile_append_of_stops leadBlank
    simpa using solid
  have noGap : ¬ isGap quote = true := by
    intro gap
    rw [Text.isBlank_of_isGap gap] at solid
    cases solid
  have cause : strayCause quote = .unterminatedString := by
    rcases isQuote with rfl | rfl <;> rfl
  have size : quote.utf8Size = 1 := by
    rcases isQuote with rfl | rfl <;> rfl
  unfold lex
  simp only [String.toList_ofList, whole, front]
  rw [lexFrom.eq_def]
  simp only [if_neg noGap, lexeme?_openQuote isQuote keptFree, cause, size]

end Token

/-! ## Names to bind -/

/-- The name that a token stands for where a name is to be bound. -/
def Token.target? (token : Token) : Option String :=
  match token.kind with
  | .string => some token.unquoted
  | .identifier => some token.text
  | _ => none

theorem Token.noEnd_of_target? {token : Token} {name : String}
    (names : token.target? = some name) : token.kind ≠ .endOfMarkup := by
  intro isEnd
  simp [target?, isEnd] at names

/-- The pipeline that a text of its own stands for, with places counted from where it begins. -/
def Pipeline.ofText (mode : LexMode) (text : String) : Except ParseError Pipeline := do
  let cursor ← Cursor.ofMarkup mode text 0
  (TagRule.parseWhole Pipeline.parse).result cursor

namespace TagRule

open TextTemplate.Parser (bind_eq_ok discard_expect_eq_ok run_bind run_take? run_take?_none)

variable {cursor last : Cursor} {name label : String} {mode : LexMode} {tag : TagHead}

theorem parseTarget_eq_ok :
    (parseTarget label).run cursor = .ok name last ↔
      cursor.current.target? = some name ∧ cursor.advance.isAtEnd = true ∧
        last = cursor.advance.advance := by
  have ended (value : String) (after : Cursor) :
      (do Parser.expectEnd; return value : Parser String).run after = .ok name last ↔
        value = name ∧ after.isAtEnd = true ∧ last = after.advance := by
    constructor
    · intro run
      obtain ⟨_, _, ran, run⟩ := bind_eq_ok.1 run
      obtain ⟨isEnd, rfl⟩ := discard_expect_eq_ok.1 ran
      cases run
      exact ⟨rfl, by simpa [Cursor.isAtEnd, Cursor.isAt] using isEnd, rfl⟩
    · rintro ⟨rfl, isEnd, rfl⟩
      have isKind : after.current.kind = .endOfMarkup := by
        simpa [Cursor.isAtEnd, Cursor.isAt] using isEnd
      have taken : Parser.expectEnd.run after = .ok () after.advance :=
        discard_expect_eq_ok.2 ⟨isKind, rfl⟩
      rw [run_bind taken]
      rfl
  unfold parseTarget Token.target?
  by_cases isString : cursor.current.kind = .string
  · rw [run_bind (run_take? isString), isString]
    simpa using ended cursor.current.unquoted cursor.advance
  · rw [run_bind (run_take?_none (by simpa [Cursor.isAt] using isString))]
    by_cases isWord : cursor.current.kind = .identifier
    · dsimp only
      rw [run_bind (run_take? isWord), isWord]
      simpa using ended cursor.current.text cursor.advance
    · dsimp only
      rw [run_bind (run_take?_none (by simpa [Cursor.isAt] using isWord))]
      constructor
      · intro run
        cases run
      · rintro ⟨found, -⟩
        split at found
        · next same => exact absurd same isString
        · next same => exact absurd same isWord
        · cases found

/-- A name is read from a single token. Neither the place of the markup nor the tag matters. -/
theorem read_target_eq_ok :
    tag.read mode (parseTarget label) = .ok name ↔
      ∃ token stop, Token.lex mode tag.markup = .ok [token, .ending stop] ∧
        token.target? = some name := by
  have result_eq_ok (cursor : Cursor) : (parseTarget label).result cursor = .ok name ↔
      ∃ last, (parseTarget label).run cursor = .ok name last := by
    unfold Parser.result
    cases (parseTarget label).run cursor <;> simp
  constructor
  · intro read
    unfold TagHead.read at read
    cases made : Cursor.ofMarkup mode tag.markup tag.offset with
    | error error =>
      rw [made] at read
      cases read
    | ok cursor =>
      rw [made] at read
      obtain ⟨last, run⟩ := (result_eq_ok cursor).1 read
      obtain ⟨names, isEnd, -⟩ := parseTarget_eq_ok.1 run
      have lexed := Cursor.ahead_of_ofMarkup made
      have noEnd := Token.noEnd_of_target? names
      obtain ⟨front, ahead, tiles⟩ := Token.tiles_of_lex lexed
      cases front with
      | nil =>
        obtain ⟨current, -⟩ := List.cons.inj ahead
        rw [current] at noEnd
        exact absurd rfl noEnd
      | cons first rest =>
        have current : cursor.current = first := (List.cons.inj ahead).1
        rw [current] at noEnd names
        obtain ⟨-, next⟩ := Cursor.ahead_advance ahead (by simp) noEnd
        cases rest with
        | nil =>
          rw [ahead] at lexed
          exact ⟨first, _, lexed, names⟩
        | cons second rest =>
          -- the end token is the last one, so no lexeme is of its kind
          have lexeme := tiles.lexemes second (by simp)
          have isKind : second.kind = .endOfMarkup := by
            rw [← (List.cons.inj next).1]
            simpa [Cursor.isAtEnd, Cursor.isAt] using isEnd
          rw [isKind] at lexeme
          cases lexeme
  · rintro ⟨token, stop, lexed, names⟩
    have made : Cursor.ofMarkup mode tag.markup tag.offset =
        .ok ⟨[], token, [.ending stop], tag.offset⟩ := by
      unfold Cursor.ofMarkup
      rw [lexed]
      rfl
    unfold TagHead.read
    rw [made]
    refine (result_eq_ok _).2 ⟨_, parseTarget_eq_ok.2 ⟨names, ?_, rfl⟩⟩
    have noEnd := Token.noEnd_of_target? names
    simp [Cursor.advance, Cursor.next, Cursor.isAtEnd, Cursor.isAt, Token.ending, noEnd]

theorem capture_read_eq_ok : capture.read mode tag = .ok (.block (.capture name)) ↔
    tag.read mode (parseTarget tag.name) = .ok name := by
  simp only [TagRule.read]
  cases tag.read mode (parseTarget tag.name) with
  | error error =>
    constructor
    · intro read
      cases read
    · intro read
      cases read
  | ok other =>
    constructor
    · intro read
      cases read
      rfl
    · intro read
      cases read
      rfl

/-- Markup that stands for a name: an identifier or a string with blanks around it. -/
inductive IsTarget : List Char → String → Prop
  | word {lead trail : List Char} {name : String} (leadBlank : ∀ c ∈ lead, isBlank c = true)
      (trailBlank : ∀ c ∈ trail, isBlank c = true)
      (lexeme : Token.IsLexeme .identifier name.toList) :
      IsTarget (lead ++ name.toList ++ trail) name
  | quoted {lead trail inner : List Char} {quote : Char}
      (leadBlank : ∀ c ∈ lead, isBlank c = true) (trailBlank : ∀ c ∈ trail, isBlank c = true)
      (isQuote : quote = '\'' ∨ quote = '"') (free : quote ∉ inner) :
      IsTarget (lead ++ quote :: (inner ++ [quote]) ++ trail) (String.ofList inner)

theorem isTarget_of_read (read : tag.read .strict (parseTarget label) = .ok name) :
    IsTarget tag.markup.toList name := by
  obtain ⟨token, stop, lexed, names⟩ := read_target_eq_ok.1 read
  obtain ⟨lead, trail, split, leadBlank, trailBlank, lexeme⟩ := Token.exists_of_lex_single lexed
  rw [split]
  cases isKind : token.kind with
  | string =>
    rw [isKind] at lexeme
    obtain ⟨quote, inner, isQuote, free, quotes⟩ := lexeme
    have isName : token.unquoted = name := by simpa [Token.target?, isKind] using names
    rw [← isName, Token.unquoted_of_quotes isKind quotes, quotes]
    exact .quoted leadBlank trailBlank isQuote free
  | identifier =>
    rw [isKind] at lexeme
    have isName : token.text = name := by simpa [Token.target?, isKind] using names
    rw [← isName]
    exact .word leadBlank trailBlank lexeme
  | _ => simp [Token.target?, isKind] at names

/-! ## An assignment to a target -/

theorem equals_notMem_of_blanks {cs : List Char} (blank : ∀ c ∈ cs, isBlank c = true) :
    '=' ∉ cs := by
  intro member
  have isBlankEquals := blank _ member
  revert isBlankEquals
  decide

theorem equals_notMem_of_identifier {cs : List Char} (lexeme : Token.IsLexeme .identifier cs) :
    '=' ∉ cs := by
  obtain ⟨first, rest, starts, words, rfl, -⟩ := lexeme
  intro member
  rcases List.mem_cons.1 member with rfl | member
  · revert starts
    decide
  · have isWord := words _ member
    revert isWord
    decide

/-- Markup holds an equals sign just where the name that it stands for does. -/
theorem IsTarget.equals_mem_iff {markup : List Char} (target : IsTarget markup name) :
    '=' ∈ markup ↔ '=' ∈ name.toList := by
  cases target with
  | word leadBlank trailBlank lexeme =>
    simp [equals_notMem_of_blanks leadBlank, equals_notMem_of_blanks trailBlank,
      equals_notMem_of_identifier lexeme]
  | quoted leadBlank trailBlank isQuote free =>
    rcases isQuote with rfl | rfl <;>
      simp [equals_notMem_of_blanks leadBlank, equals_notMem_of_blanks trailBlank]

/-- A target with an equals sign is a string, and the sign stands within the quotes. -/
theorem IsTarget.exists_cut {markup : List Char} (target : IsTarget markup name)
    (equals : '=' ∈ name.toList) :
    ∃ lead quote inner later, markup = lead ++ quote :: inner ++ '=' :: later ∧
      (∀ c ∈ lead, isBlank c = true) ∧ (quote = '\'' ∨ quote = '"') ∧
      quote ∉ inner ∧ '=' ∉ lead ++ quote :: inner := by
  cases target with
  | word leadBlank trailBlank lexeme => exact absurd equals (equals_notMem_of_identifier lexeme)
  | @quoted lead trail inner quote leadBlank trailBlank isQuote free =>
    rw [String.toList_ofList] at equals
    obtain ⟨before, after, rfl, first⟩ := List.eq_append_cons_of_mem equals
    refine ⟨lead, quote, before, after ++ quote :: trail, by simp, leadBlank, isQuote, ?_, ?_⟩
    · intro member
      exact free (List.mem_append_left _ member)
    · have leadFree := equals_notMem_of_blanks leadBlank
      rcases isQuote with rfl | rfl <;> simpa [leadFree] using first

theorem readAssign_of_split {target value : List Char} (noEquals : '=' ∉ target)
    (split : tag.markup.toList = target ++ '=' :: value) :
    readAssign mode tag = do
      let name ← TagHead.read { tag with markup := String.ofList target } mode
        (parseTarget tag.name)
      let pipeline ← TagHead.read ⟨tag.name, String.ofList value,
        tag.offset + byteSize target + 1⟩ mode (parseWhole Pipeline.parse)
      return .assign name pipeline := by
  have front : ∀ c ∈ target, (c != '=') = true := by
    intro c member
    have : c ≠ '=' := by
      rintro rfl
      exact noEquals member
    simpa using this
  have taken : tag.markup.toList.takeWhile (· != '=') = target := by
    rw [split]
    exact Token.takeWhile_append_of_stops front (by simp)
  have dropped : tag.markup.toList.dropWhile (· != '=') = '=' :: value := by
    rw [split, List.dropWhile_append_of_pos front]
    simp
  unfold readAssign
  simp only [taken, dropped]

theorem read_pipeline_of_ofText {value : String} {pipeline : Pipeline}
    (reads : Pipeline.ofText mode value = .ok pipeline) (name : String) (offset : Nat) :
    TagHead.read ⟨name, value, offset⟩ mode (parseWhole Pipeline.parse) =
      .ok (pipeline.shift offset) := by
  have heads : (Alignment.moved offset).Heads ⟨name, value, 0⟩ ⟨name, value, offset⟩ := by
    refine ⟨rfl, rfl, ?_⟩
    show TagHead.span ⟨name, value, offset⟩ = (TagHead.span ⟨name, value, 0⟩).shift offset
    rw [← TagHead.span_shift, Nat.zero_add]
  have steady : (Alignment.moved offset).Steady _ (parseWhole Pipeline.parse) :=
    Alignment.steady_parseWhole Alignment.steady_pipeline
  have outcomes : (Alignment.moved offset).Outcomes _
      (TagHead.read ⟨name, value, 0⟩ mode (parseWhole Pipeline.parse))
      (TagHead.read ⟨name, value, offset⟩ mode (parseWhole Pipeline.parse)) :=
    Alignment.outcomes_read heads steady
  have unmoved : TagHead.read ⟨name, value, 0⟩ mode (parseWhole Pipeline.parse) = .ok pipeline :=
    reads
  rw [unmoved] at outcomes
  generalize TagHead.read ⟨name, value, offset⟩ mode (parseWhole Pipeline.parse) = moved at outcomes
  cases outcomes with
  | ok pipelines => rw [Alignment.eq_shift_of_pipelines pipelines]

/-- No parser comes to run on markup where a quote is left open. -/
theorem read_openQuote {α : Type} {parser : Parser α} {lead inner : List Char} {quote : Char}
    (leadBlank : ∀ c ∈ lead, isBlank c = true) (isQuote : quote = '\'' ∨ quote = '"')
    (free : quote ∉ inner) (name : String) (offset : Nat) :
    TagHead.read ⟨name, String.ofList (lead ++ quote :: inner), offset⟩ .strict parser =
      .error ⟨.lexical .unterminatedString,
        some ⟨offset + byteSize lead, offset + byteSize lead + 1⟩⟩ := by
  unfold TagHead.read Cursor.ofMarkup
  rw [Token.lex_openQuote leadBlank isQuote free]
  simp only [LexError.shift, Span.shift, ParseError.ofLexError, Nat.add_right_comm _ _ offset,
    Nat.add_comm _ offset]
  rfl

/-- An assignment whose first equals sign stands within quotes is cut there. -/
theorem assign_read_openQuote {lead inner later : List Char} {quote : Char}
    (leadBlank : ∀ c ∈ lead, isBlank c = true) (isQuote : quote = '\'' ∨ quote = '"')
    (free : quote ∉ inner) (noEquals : '=' ∉ lead ++ quote :: inner)
    (split : tag.markup.toList = (lead ++ quote :: inner) ++ '=' :: later) :
    assign.read .strict tag = .error ⟨.lexical .unterminatedString,
      some ⟨tag.offset + byteSize lead, tag.offset + byteSize lead + 1⟩⟩ := by
  simp only [TagRule.read, readAssign_of_split noEquals split,
    read_openQuote leadBlank isQuote free]
  rfl

/-- An assignment takes every name that a capture takes, and the value that stands behind the
equals sign, unless the name has an equals sign: then the quote that begins it is reported. -/
theorem assign_takes_captured_name {captureTag assignTag : TagHead} {value : String}
    {pipeline : Pipeline}
    (captured : capture.read .strict captureTag = .ok (.block (.capture name)))
    (reads : Pipeline.ofText .strict value = .ok pipeline)
    (markup : assignTag.markup = captureTag.markup ++ "=" ++ value) :
    ('=' ∉ name.toList → assign.read .strict assignTag = .ok (.node (.assign name
      (pipeline.shift (assignTag.offset + captureTag.markup.utf8ByteSize + 1))))) ∧
    ('=' ∈ name.toList → ∃ start,
      start = assignTag.offset + byteSize (captureTag.markup.toList.takeWhile isBlank) ∧
      assign.read .strict assignTag =
        .error ⟨.lexical .unterminatedString, some ⟨start, start + 1⟩⟩) := by
  have named := capture_read_eq_ok.1 captured
  have target := isTarget_of_read named
  have split : assignTag.markup.toList = captureTag.markup.toList ++ '=' :: value.toList := by
    simp [markup]
  refine ⟨fun noEquals => ?_, fun equals => ?_⟩
  · have notInTarget : '=' ∉ captureTag.markup.toList := mt target.equals_mem_iff.1 noEquals
    have sameName : TagHead.read { assignTag with markup := captureTag.markup } .strict
        (parseTarget assignTag.name) = .ok name := by
      obtain ⟨token, stop, lexed, names⟩ := read_target_eq_ok.1 named
      exact read_target_eq_ok.2 ⟨token, stop, lexed, names⟩
    have sameValue := read_pipeline_of_ofText reads assignTag.name
      (assignTag.offset + captureTag.markup.utf8ByteSize + 1)
    simp only [TagRule.read, readAssign_of_split notInTarget split, String.ofList_toList,
      Text.byteSize_toList, sameName, sameValue]
    rfl
  · obtain ⟨lead, quote, inner, later, cut, leadBlank, isQuote, free, first⟩ :=
      target.exists_cut equals
    have splitWithin : assignTag.markup.toList =
        (lead ++ quote :: inner) ++ '=' :: (later ++ '=' :: value.toList) := by
      simp [split, cut]
    have front : captureTag.markup.toList.takeWhile isBlank = lead := by
      rw [cut, List.append_assoc]
      exact Token.takeWhile_append_of_stops leadBlank (by simpa using Token.isBlank_quote isQuote)
    refine ⟨_, rfl, ?_⟩
    rw [front]
    exact assign_read_openQuote leadBlank isQuote free first splitWithin

/-- A name with blanks and characters of several bytes, and a value with a filter. -/
theorem assign_takes_captured_name_multibyte :
    capture.read .strict ⟨"capture", "'é b' ", 11⟩ = .ok (.block (.capture "é b")) ∧
    Pipeline.ofText .strict " y | size" = .ok ⟨.lookup [.key "y"], [⟨"size", [], ⟨5, 9⟩⟩]⟩ ∧
    assign.read .strict ⟨"assign", "'é b' = y | size", 10⟩ =
      .ok (.node (.assign "é b" ⟨.lookup [.key "y"], [⟨"size", [], ⟨23, 27⟩⟩]⟩)) := by
  have captured :
      capture.read .strict ⟨"capture", "'é b' ", 11⟩ = .ok (.block (.capture "é b")) := by
    refine capture_read_eq_ok.2 (read_target_eq_ok.2 ⟨⟨.string, "'é b'", ⟨0, 6⟩⟩, 6, ?_, ?_⟩)
    · decide +kernel
    · decide +kernel
  have reads : Pipeline.ofText .strict " y | size" =
      .ok ⟨.lookup [.key "y"], [⟨"size", [], ⟨5, 9⟩⟩]⟩ := by
    have lexed : Token.lex .strict " y | size" = .ok [⟨.identifier, "y", ⟨1, 2⟩⟩,
        ⟨.pipe, "|", ⟨3, 4⟩⟩, ⟨.identifier, "size", ⟨5, 9⟩⟩, .ending 9] := by
      decide +kernel
    unfold Pipeline.ofText Cursor.ofMarkup
    rw [lexed]
    rfl
  exact ⟨captured, reads, (assign_takes_captured_name captured reads (by decide)).1 (by decide)⟩

/-- A capture takes a name with an equals sign. An assignment cuts it in two. -/
theorem assign_cuts_quoted_name :
    capture.read .strict ⟨"capture", "'a=b'", 11⟩ = .ok (.block (.capture "a=b")) ∧
    Pipeline.ofText .strict "1" = .ok ⟨.int 1, []⟩ ∧
    assign.read .strict ⟨"assign", "'a=b'" ++ "=" ++ "1", 10⟩ =
      .error ⟨.lexical .unterminatedString, some ⟨10, 11⟩⟩ := by
  refine ⟨?_, ?_, ?_⟩
  · refine capture_read_eq_ok.2 (read_target_eq_ok.2 ⟨⟨.string, "'a=b'", ⟨0, 5⟩⟩, 5, ?_, ?_⟩)
    · decide +kernel
    · decide +kernel
  · have lexed : Token.lex .strict "1" = .ok [⟨.integer, "1", ⟨0, 1⟩⟩, .ending 1] := by
      decide +kernel
    unfold Pipeline.ofText Cursor.ofMarkup
    rw [lexed]
    rfl
  · have leadBlank : ∀ c ∈ ([] : List Char), isBlank c = true := by simp
    have split : (TagHead.mk "assign" ("'a=b'" ++ "=" ++ "1") 10).markup.toList =
        ([] ++ '\'' :: ['a']) ++ '=' :: "b'=1".toList := by decide
    exact assign_read_openQuote leadBlank (.inl rfl) (by decide) (by decide) split

end TagRule

end TextTemplate
