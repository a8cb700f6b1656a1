import TextTemplate.Proofs.LexModes
import TextTemplate.Proofs.Reading

/-!
# Lax lexing and blanked markup

The lax lexer passes over what starts no token. It reads the same tokens as the strict one does
after spaces were written over the characters that it passes over (`Token.lex_strict_blankSkipped`).
A space ends every token, so the one thing to see is that no token looks further than to the
characters that are kept: what the lexer takes at a place depends on what follows only up to the
first gap there (`Token.lexeme?_of_fades`).
-/

namespace TextTemplate

open Text (isGap isBlank byteSize)

namespace Token

variable {mode : LexMode} {offset stop : Nat} {cs text rest rest' blanks trail : List Char}
  {tokens front : List Token} {kind : TokenKind} {length : Nat} {c : Char}

/-! ## What follows a lexeme -/

/-- The second text goes on like the first one until it ends or comes to a gap. -/
inductive Fades : List Char → List Char → Prop
  | parted {rest rest' : List Char} (parted : Parted rest') : Fades rest rest'
  | cons {rest rest' : List Char} (c : Char) (later : Fades rest rest') :
      Fades (c :: rest) (c :: rest')

theorem Fades.stops {p : Char → Bool} (fades : Fades rest rest')
    (gaps : ∀ c, isGap c = true → p c = false) (stops : ∀ c ∈ rest.head?, p c = false) :
    ∀ c ∈ rest'.head?, p c = false := by
  cases fades with
  | parted parted =>
    intro c first
    exact gaps c (parted c first)
  | cons c later =>
    intro d first
    exact stops d first

theorem takeWhile_eq_nil_iff_stops {p : Char → Bool} :
    cs.takeWhile p = [] ↔ ∀ c ∈ cs.head?, p c = false := by
  cases cs with
  | nil => simp
  | cons c cs => simp [List.takeWhile_cons]

/-- Of what stands behind a lexeme the first character matters, and behind a dot whether the next one
is a digit. -/
theorem Ends.of_head (ends : Ends kind (c :: rest))
    (second : c = '.' → (∀ d ∈ rest.head?, d.isDigit = false) →
      ∀ d ∈ rest'.head?, d.isDigit = false) : Ends kind (c :: rest') := by
  cases kind with
  | integer =>
    refine ⟨ends.1, ?_⟩
    intro after same
    injection same with dot same
    subst dot same
    have noFraction := takeWhile_eq_nil_iff_stops.1 (ends.2 rest rfl)
    exact takeWhile_eq_nil_iff_stops.2 (second rfl noFraction)
  | _ => exact ends

theorem Ends.fades (ends : Ends kind rest) (fades : Fades rest rest') : Ends kind rest' := by
  cases fades with
  | parted parted => exact parted.ends
  | cons c later => exact ends.of_head fun _ => later.stops fun _ => isDigit_of_isGap

/-- A number at the front ends where its digits do. -/
theorem ends_of_number? (found : number? (text ++ rest) = some (kind, text.length)) :
    Ends kind rest := by
  obtain ⟨sign, digits, after, isSign, isDigits, stops, same⟩ := exists_of_number? found
  rw [same] at found
  by_cases fraction : ∃ more, after = '.' :: more ∧ more.takeWhile Char.isDigit ≠ []
  · obtain ⟨more, rfl, occurs⟩ := fraction
    rw [number?_float isSign isDigits occurs] at found
    injection found with found
    injection found with isFloat count
    subst isFloat
    have cut : text ++ rest = sign ++ digits ++ '.' :: more.takeWhile Char.isDigit ++
        more.dropWhile Char.isDigit := by
      rw [same]
      simp
    have left : rest = more.dropWhile Char.isDigit := by
      refine (List.append_inj cut ?_).2
      rw [← count]
      simp
      omega
    rw [left]
    exact head?_dropWhile _ _
  · have noFraction more (dot : after = '.' :: more) : more.takeWhile Char.isDigit = [] := by
      by_contra occurs
      exact fraction ⟨more, dot, occurs⟩
    rw [number?_integer isSign isDigits stops noFraction] at found
    injection found with found
    injection found with isInteger count
    subst isInteger
    have left : rest = after := by
      rw [← List.append_assoc] at same
      refine (List.append_inj same ?_).2
      rw [← count, List.length_append]
    rw [left]
    exact ⟨stops, noFraction⟩

/-- Digits make a number whatever follows them. -/
theorem exists_number? {sign digits : List Char} (isSign : sign = [] ∨ sign = ['-'])
    (isDigits : IsDigits digits) (rest : List Char) :
    ∃ number, number? (sign ++ (digits ++ rest)) = some number := by
  have occurs : ((digits ++ rest).takeWhile Char.isDigit).length ≠ 0 := by
    rw [List.takeWhile_append_of_pos isDigits.2]
    simp [isDigits.1]
  unfold number?
  simp only [length_sign isSign isDigits, List.drop_left, occurs, if_false]
  split
  · split
    · exact ⟨_, rfl⟩
    · exact ⟨_, rfl⟩
  · exact ⟨_, rfl⟩

/-- What begins with a number is taken as one. -/
theorem ends_of_lexeme?_number {sign digits more : List Char} (isSign : sign = [] ∨ sign = ['-'])
    (isDigits : IsDigits digits) (same : text ++ rest = sign ++ (digits ++ more))
    (found : lexeme? (text ++ rest) = some (kind, text.length)) : Ends kind rest := by
  obtain ⟨number, isNumber⟩ := exists_number? isSign isDigits more
  obtain ⟨first, later, begin, start⟩ := IsInteger.start ⟨sign, digits, isSign, isDigits, rfl⟩
  have front : text ++ rest = first :: (later ++ more) := by
    rw [same, ← List.append_assoc, begin, List.cons_append]
  rw [← same, front] at isNumber
  rw [front, lexeme?_number start isNumber, ← isNumber, ← front] at found
  exact ends_of_number? found

theorem lexeme?_contains (stops : ∀ c ∈ rest.head?, isWordChar c = false) :
    lexeme? ("contains".toList ++ rest) = some (.comparison, 8) := by
  unfold lexeme?
  rw [comparisonLength?_contains stops]

/-- A word is taken with all its characters. -/
theorem isWordChar_of_lexeme?_word {first : Char} {word : List Char}
    (start : isWordStart first = true) (goesOn : ∀ c ∈ word, isWordChar c = true)
    (found : lexeme? (first :: word ++ rest) = some (kind, (first :: word).length)) :
    ∀ c ∈ rest.head?, isWordChar c = false := by
  let more := rest.takeWhile isWordChar
  let after := rest.dropWhile isWordChar
  have shape : first :: word ++ rest = first :: (word ++ more ++ after) := by simp [more, after]
  have stops : ∀ c ∈ after.head?, isWordChar c = false := head?_dropWhile _ _
  have taken : ∃ kind, lexeme? (first :: word ++ rest) =
      some (kind, (first :: (word ++ more)).length) := by
    rw [shape]
    by_cases operator : first :: (word ++ more) = "contains".toList
    · refine ⟨.comparison, ?_⟩
      rw [← List.cons_append, operator]
      exact lexeme?_contains stops
    · refine ⟨.identifier, lexeme?_identifier start ?_ operator stops⟩
      intro c member
      rcases List.mem_append.1 member with inWord | inMore
      · exact goesOn c inWord
      · exact List.mem_takeWhile_imp inMore
  obtain ⟨other, longer⟩ := taken
  rw [longer] at found
  have noMore : more = [] := by
    injection found with same
    have count := congrArg Prod.snd same
    apply List.length_eq_zero_iff.1
    simp only [List.length_cons, List.length_append] at count
    omega
  exact takeWhile_eq_nil_iff_stops.1 noMore

theorem ends_of_lexeme? (found : lexeme? (text ++ rest) = some (kind, text.length))
    (noOperator : kind ≠ .comparison) : Ends kind rest := by
  have lexeme := isLexeme_of_lexeme? found
  cases kind with
  | comparison => exact absurd rfl noOperator
  | integer =>
    obtain ⟨sign, digits, isSign, isDigits, rfl⟩ := lexeme
    exact ends_of_lexeme?_number isSign isDigits (List.append_assoc _ _ _) found
  | float =>
    obtain ⟨_, fraction, ⟨sign, digits, isSign, isDigits, rfl⟩, -, rfl⟩ := lexeme
    have shape : sign ++ digits ++ '.' :: fraction ++ rest =
        sign ++ (digits ++ '.' :: (fraction ++ rest)) := by simp
    exact ends_of_lexeme?_number isSign isDigits shape found
  | identifier =>
    obtain ⟨first, word, start, goesOn, rfl, -⟩ := lexeme
    exact isWordChar_of_lexeme?_word start goesOn found
  | dot =>
    obtain ⟨mark, member, rfl⟩ := lexeme
    obtain rfl : mark = '.' := by simpa [marks] using member
    intro second
    obtain ⟨more, rfl⟩ := List.head?_eq_some_iff.1 second
    have isRange : lexeme? (['.', '.'] ++ more) = some (.range, 2) := lexeme?_append rfl trivial
    rw [show ['.'] ++ '.' :: more = ['.', '.'] ++ more from rfl, isRange] at found
    cases found
  | dash =>
    obtain ⟨mark, member, rfl⟩ := lexeme
    obtain rfl : mark = '-' := by simpa [marks] using member
    intro c first
    obtain ⟨more, rfl⟩ := List.head?_eq_some_iff.1 first
    by_contra notEnded
    have isDigits : IsDigits [c] := by simpa [IsDigits] using notEnded
    have ends : Ends .dash (c :: more) :=
      ends_of_lexeme?_number (.inr rfl) isDigits rfl found
    exact notEnded (ends c rfl)
  | _ => trivial

/-- Whether a sign for an order stands alone is seen from the next character. -/
theorem lexeme?_order_fades {sign : Char} (order : sign = '<' ∨ sign = '>')
    (found : lexeme? (sign :: c :: rest) = some (.comparison, 1)) :
    lexeme? (sign :: c :: rest') = some (.comparison, 1) := by
  by_cases second : c ∈ ['=', '>']
  · simp only [List.mem_cons, List.not_mem_nil, or_false] at second
    rcases order with rfl | rfl
    · rcases second with rfl | rfl
      · cases found
      · cases found
    · rcases second with rfl | rfl
      · cases found
      · rfl
  · unfold lexeme?
    rw [comparisonLength?_order order fun d first => by cases first; exact second]

theorem lexeme?_operator_fades (member : text ∈ operators.map String.toList)
    (found : lexeme? (text ++ c :: rest) = some (.comparison, text.length)) :
    lexeme? (text ++ c :: rest') = some (.comparison, text.length) := by
  simp only [operators, List.map_cons, List.map_nil, List.mem_cons, List.not_mem_nil, or_false]
    at member
  rcases member with rfl | rfl | rfl | rfl | rfl | rfl | rfl | rfl
  case inr.inr.inr.inr.inr.inl =>
    exact lexeme?_order_fades (.inl rfl) found
  case inr.inr.inr.inr.inr.inr.inl =>
    exact lexeme?_order_fades (.inr rfl) found
  case inr.inr.inr.inr.inr.inr.inr =>
    have goesOn : ∀ c ∈ "ontains".toList, isWordChar c = true := List.all_eq_true.1 rfl
    have stops := isWordChar_of_lexeme?_word rfl goesOn found
    apply lexeme?_contains
    exact stops
  -- the operators of two signs are taken before anything
  all_goals rfl

/-- The lexeme at the front is taken whatever stands after the first gap behind it. -/
theorem lexeme?_of_fades (fades : Fades rest rest')
    (found : lexeme? (text ++ rest) = some (kind, text.length)) :
    lexeme? (text ++ rest') = some (kind, text.length) := by
  have lexeme := isLexeme_of_lexeme? found
  cases fades with
  | parted parted => exact lexeme?_append lexeme parted.ends
  | cons c later =>
    by_cases isOperator : kind = .comparison
    · subst isOperator
      exact lexeme?_operator_fades lexeme found
    · apply lexeme?_append lexeme
      exact (ends_of_lexeme? found isOperator).fades (.cons c later)

/-! ## Blanking -/

/-- Whether one of the tokens holds the byte. -/
def covers (tokens : List Token) (byte : Nat) : Bool :=
  tokens.any fun token => token.span.start ≤ byte && byte < token.span.stop

/-- The text, which begins at byte `offset`, with as many spaces as it has bytes in place of every
character that is no gap and lies in none of the tokens. -/
def blankOut (tokens : List Token) (offset : Nat) (cs : List Char) : List Char :=
  match cs with
  | [] => []
  | c :: rest =>
    let kept := if covers tokens offset || isGap c then [c] else List.replicate c.utf8Size ' '
    kept ++ blankOut tokens (offset + c.utf8Size) rest

/-- The markup with its trimmed part blanked out around the tokens. -/
def blankSkipped (tokens : List Token) (markup : String) : String :=
  let cs := markup.toList
  let lead := cs.takeWhile isBlank
  let trimmed := Text.trim cs
  String.ofList (lead ++ blankOut tokens (byteSize lead) trimmed ++
    cs.drop (lead.length + trimmed.length))

theorem fades_blankOut (tokens : List Token) (offset : Nat) (cs : List Char) :
    Fades cs (blankOut tokens offset cs) := by
  induction cs generalizing offset with
  | nil => exact .parted parted_nil
  | cons c rest ih =>
    unfold blankOut
    by_cases kept : (covers tokens offset || isGap c) = true
    · rw [if_pos kept]
      exact .cons c (ih _)
    · rw [if_neg kept]
      apply Fades.parted
      obtain ⟨more, size⟩ := Nat.exists_eq_succ_of_ne_zero c.utf8Size_pos.ne'
      rw [size]
      intro space first
      cases first
      rfl

/-- What lies in the tokens stays. -/
theorem blankOut_covered
    (covered : ∀ byte, offset ≤ byte → byte < offset + byteSize text → covers tokens byte = true) :
    blankOut tokens offset (text ++ rest) =
      text ++ blankOut tokens (offset + byteSize text) rest := by
  induction text generalizing offset with
  | nil => rfl
  | cons c text ih =>
    have positive := c.utf8Size_pos
    simp only [Text.byteSize_cons] at covered
    have here : covers tokens offset = true := covered offset (Nat.le_refl _) (by omega)
    have later : blankOut tokens (offset + c.utf8Size) (text ++ rest) =
        text ++ blankOut tokens (offset + c.utf8Size + byteSize text) rest := by
      apply ih
      intro byte low high
      exact covered byte (by omega) (by omega)
    rw [List.cons_append, blankOut, here, later, Text.byteSize_cons, Nat.add_assoc]
    rfl

theorem covers_cons_iff {token : Token} {byte : Nat} :
    covers (token :: tokens) byte = true ↔
      (token.span.start ≤ byte ∧ byte < token.span.stop) ∨ covers tokens byte = true := by
  simp [covers]

theorem byteSize_spaces (count : Nat) : byteSize (List.replicate count ' ') = count := by
  induction count with
  | zero => rfl
  | succ count ih =>
    rw [List.replicate_succ, Text.byteSize_cons, ih, Nat.add_comm]
    rfl

/-- Strict lexing of the blanked text finds what lax lexing finds. The tokens that are blanked
around may include earlier ones, which hold no byte from here on. -/
theorem LexRun.lexFrom_blankOut {all : List Token} (run : LexRun mode offset cs tokens)
    (agree : ∀ byte, offset ≤ byte → covers all byte = covers tokens byte) :
    lexFrom .strict offset (blankOut all offset cs) = .ok tokens := by
  induction run with
  | ending offset => exact lexFrom_nil
  | @gap offset c rest tokens isGap later ih =>
    have size := utf8Size_of_isGap isGap
    simp only [blankOut, isGap, Bool.or_true, if_true, List.singleton_append, size]
    rw [lexFrom_gap isGap]
    apply ih
    intro byte low
    exact agree byte (by omega)
  | @token offset kind text rest tokens found later ih =>
    have covered byte (low : offset ≤ byte) (high : byte < offset + byteSize text) :
        covers all byte = true := by
      rw [agree byte low, covers_cons_iff]
      exact .inl ⟨low, high⟩
    have agreeLater byte (low : offset + byteSize text ≤ byte) :
        covers all byte = covers tokens byte := by
      have past : ¬ byte < offset + byteSize text := by omega
      rw [agree byte (by omega), Bool.eq_iff_iff, covers_cons_iff]
      simp [past]
    have taken := lexeme?_of_fades (fades_blankOut all (offset + byteSize text) rest) found
    rw [blankOut_covered covered, lexFrom_of_lexeme? taken, ih agreeLater]
    rfl
  | @skip offset c rest tokens isLax noGap later ih =>
    have uncovered : covers all offset = false := by
      rw [agree offset (Nat.le_refl _)]
      apply List.any_eq_false.2
      intro token member
      have start := later.tiling.le_start token member
      have positive := c.utf8Size_pos
      simp
      omega
    have agreeLater byte (low : offset + c.utf8Size ≤ byte) :
        covers all byte = covers tokens byte := agree byte (by omega)
    have spaces : ∀ space ∈ List.replicate c.utf8Size ' ', isGap space = true := by
      intro space member
      rw [List.eq_of_mem_replicate member]
      rfl
    simp only [blankOut, uncovered, noGap, Bool.or_false, Bool.false_eq_true, if_false]
    rw [lexFrom_gaps spaces, byteSize_spaces]
    exact ih agreeLater

/-! ## Trimming -/

/-- A run begins with blanks only if these are gaps. -/
theorem LexRun.isGap_of_isBlank (run : LexRun .strict offset (c :: rest) tokens)
    (blank : isBlank c = true) : isGap c = true := by
  generalize same : c :: rest = cs at run
  cases run with
  | ending => cases same
  | gap isGap later =>
    cases same
    exact isGap
  | token found later =>
    obtain ⟨first, last, isFirst, solid, -⟩ := (isLexeme_of_lexeme? found).ends
    obtain ⟨text, rfl⟩ := List.head?_eq_some_iff.1 isFirst
    cases same
    rw [blank] at solid
    cases solid
  | skip isLax => cases isLax

/-- Blanks before a run belong to it as gaps. -/
theorem lexFrom_of_blanks (areBlank : ∀ c ∈ blanks, isBlank c = true)
    (lexed : lexFrom .strict offset (blanks ++ cs) = .ok tokens) :
    lexFrom .strict (offset + byteSize blanks) cs = .ok tokens := by
  induction blanks generalizing offset with
  | nil => exact lexed
  | cons c blanks ih =>
    have gap : isGap c = true :=
      (lexRun_of_lexFrom lexed).isGap_of_isBlank (areBlank c List.mem_cons_self)
    rw [List.cons_append, lexFrom_gap gap] at lexed
    rw [Text.byteSize_cons, utf8Size_of_isGap gap, ← Nat.add_assoc]
    apply ih _ lexed
    intro d member
    exact areBlank d (.tail c member)

theorem fades_append (cs trail : List Char) : Fades (cs ++ trail) cs := by
  induction cs with
  | nil => exact .parted parted_nil
  | cons c cs ih => exact .cons c ih

/-- A lexeme before blanks lies before them as a whole, since its last character is none. -/
theorem exists_of_append_blanks {core : List Char} (lexeme : IsLexeme kind text)
    (same : text ++ rest = core ++ trail) (areBlank : ∀ c ∈ trail, isBlank c = true) :
    ∃ later, core = text ++ later ∧ rest = later ++ trail := by
  rcases List.append_eq_append_iff.1 same with ⟨later, rfl, split⟩ | ⟨more, rfl, split⟩
  · exact ⟨later, rfl, split⟩
  · cases more with
    | nil => exact ⟨[], by simp, by simpa using split.symm⟩
    | cons c more =>
      obtain ⟨first, last, -, -, isLast, solid⟩ := lexeme.ends
      have inTrail : last ∈ trail := by
        rw [split]
        apply List.mem_append_left
        rw [List.getLast?_append_of_ne_nil _ (List.cons_ne_nil c more)] at isLast
        exact List.mem_of_getLast? isLast
      rw [areBlank last inTrail] at solid
      cases solid

theorem LexRun.eq_ending_of_blank (run : LexRun .strict offset cs tokens)
    (areBlank : ∀ c ∈ cs, isBlank c = true) : ∃ last, tokens = [.ending last] := by
  induction run with
  | ending offset => exact ⟨offset, rfl⟩
  | @gap offset c rest tokens isGap later ih =>
    apply ih
    intro d member
    exact areBlank d (.tail c member)
  | @token offset kind text rest tokens found later ih =>
    obtain ⟨first, last, isFirst, solid, -⟩ := (isLexeme_of_lexeme? found).ends
    rw [areBlank first (List.mem_append_left _ (List.mem_of_head? isFirst))] at solid
    cases solid
  | skip isLax => cases isLax

/-- Without the blanks behind it a run only ends earlier. -/
theorem LexRun.lexFrom_core {core : List Char} (run : LexRun .strict offset cs tokens)
    (same : cs = core ++ trail) (areBlank : ∀ c ∈ trail, isBlank c = true) :
    ∃ front last stop, tokens = front ++ [.ending last] ∧
      lexFrom .strict offset core = .ok (front ++ [.ending stop]) := by
  induction run generalizing core with
  | ending offset =>
    obtain ⟨rfl, -⟩ := List.append_eq_nil_iff.1 same.symm
    exact ⟨[], offset, offset, rfl, lexFrom_nil⟩
  | @gap offset c rest tokens isGap later ih =>
    cases core with
    | nil =>
      subst same
      obtain ⟨last, rfl⟩ := later.eq_ending_of_blank fun d member => areBlank d (.tail c member)
      exact ⟨[], last, offset, rfl, lexFrom_nil⟩
    | cons d core =>
      cases same
      obtain ⟨front, last, stop, rfl, lexed⟩ := ih rfl
      rw [lexFrom_gap isGap]
      exact ⟨front, last, stop, rfl, lexed⟩
  | @token offset kind text rest tokens found later ih =>
    obtain ⟨core, rfl, rfl⟩ := exists_of_append_blanks (isLexeme_of_lexeme? found) same areBlank
    obtain ⟨front, last, stop, rfl, lexed⟩ := ih rfl
    rw [lexFrom_of_lexeme? (lexeme?_of_fades (fades_append _ _) found), lexed]
    exact ⟨_ :: front, last, stop, rfl, rfl⟩
  | skip isLax => cases isLax

section

variable {lead : List Char} (leadBlank : ∀ c ∈ lead, isBlank c = true)

include leadBlank

theorem trim_of_blanks (trailBlank : ∀ c ∈ trail, isBlank c = true) :
    Text.trim (lead ++ cs ++ trail) = Text.trim cs := by
  have noTrail (ds : List Char) : Text.trimEnd (ds ++ trail) = Text.trimEnd ds := by
    unfold Text.trimEnd
    rw [List.reverse_append, List.dropWhile_append_of_pos]
    intro c member
    exact trailBlank c (List.mem_reverse.1 member)
  unfold Text.trim Text.trimStart
  rw [List.append_assoc, List.dropWhile_append_of_pos leadBlank, List.dropWhile_append]
  by_cases blank : cs.dropWhile isBlank = []
  · have nothing : trail.dropWhile isBlank = [] := List.dropWhile_eq_nil_iff.2 trailBlank
    simp [blank, nothing]
  · rw [if_neg (by simpa using blank), noTrail]

theorem takeWhile_of_blanks (solid : Text.trim cs ≠ []) :
    (lead ++ cs ++ trail).takeWhile isBlank = lead ++ cs.takeWhile isBlank := by
  rw [List.append_assoc, List.takeWhile_append_of_pos leadBlank, List.takeWhile_append, if_neg]
  intro whole
  have nothing : cs.dropWhile isBlank = [] := by
    have count := congrArg List.length (List.takeWhile_append_dropWhile (p := isBlank) (l := cs))
    rw [List.length_append] at count
    apply List.length_eq_zero_iff.1
    omega
  apply solid
  unfold Text.trim Text.trimStart
  rw [nothing]
  rfl

/-- The lexer begins with the text between the blanks. -/
theorem lex_of_blanks (solid : Solid cs) (trailBlank : ∀ c ∈ trail, isBlank c = true) :
    lex mode (String.ofList (lead ++ cs ++ trail)) = lexFrom mode (byteSize lead) cs := by
  have occurs : Text.trim cs ≠ [] := by
    rw [solid.trim.2]
    exact solid.ne_nil
  unfold lex
  simp only [String.toList_ofList, trim_of_blanks leadBlank trailBlank,
    takeWhile_of_blanks leadBlank occurs, solid.trim, List.append_nil]

/-- Blanks around what the strict lexer accepts change the end token only. -/
theorem exists_lex_of_lexFrom {last : Nat} (trailBlank : ∀ c ∈ trail, isBlank c = true)
    (lexed : lexFrom .strict (byteSize lead) cs = .ok (front ++ [.ending last])) :
    ∃ stop, lex .strict (String.ofList (lead ++ cs ++ trail)) = .ok (front ++ [.ending stop]) := by
  obtain ⟨after, afterBlank, split⟩ := exists_blank_trail cs
  rw [split, List.append_assoc] at lexed
  have unled := lexFrom_of_blanks (fun c => List.mem_takeWhile_imp) lexed
  obtain ⟨other, last, stop, same, core⟩ := (lexRun_of_lexFrom unled).lexFrom_core rfl afterBlank
  obtain rfl : front = other := List.append_inj_left' same rfl
  unfold lex
  rw [String.toList_ofList]
  simp only [trim_of_blanks leadBlank trailBlank]
  by_cases empty : Text.trim cs = []
  · rw [empty, lexFrom_nil] at core ⊢
    injection core with same
    obtain rfl : [] = front := List.append_inj_left' same rfl
    exact ⟨_, rfl⟩
  · rw [takeWhile_of_blanks leadBlank empty, Text.byteSize_append]
    exact ⟨stop, core⟩

end

/-- Lax lexing always succeeds, and strict lexing of the markup with spaces in place of what it
passed over finds the same tokens, up to where the markup ends. -/
theorem lex_strict_blankSkipped (markup : String) :
    ∃ front stop,
      lex .lax markup = .ok (front ++ [.ending (trimmedSpan markup).stop]) ∧
      lex .strict (blankSkipped (front ++ [.ending (trimmedSpan markup).stop]) markup) =
        .ok (front ++ [.ending stop]) := by
  let lead := markup.toList.takeWhile isBlank
  let trimmed := Text.trim markup.toList
  obtain ⟨tokens, lexed⟩ := exists_lexFrom_lax (byteSize lead) trimmed
  obtain ⟨front, rfl, -⟩ := tiles_of_lex (show lex .lax markup = .ok tokens from lexed)
  obtain ⟨trail, trailBlank, split⟩ := exists_blank_trail markup.toList
  have blanked := (lexRun_of_lexFrom lexed).lexFrom_blankOut fun byte _ => rfl
  obtain ⟨stop, strict⟩ := exists_lex_of_lexFrom
    (fun c => List.mem_takeWhile_imp) trailBlank blanked
  refine ⟨front, stop, lexed, ?_⟩
  have left : markup.toList.drop (lead.length + trimmed.length) = trail := by
    have dropped := congrArg (List.drop (lead.length + trimmed.length)) split
    rwa [← List.length_append, List.drop_left, List.length_append] at dropped
  unfold blankSkipped
  simp only [left, lead, trimmed]
  exact strict

/-- The sign, the two bytes of the letter and the quote without a second one give way to spaces. -/
example :
    blankSkipped [⟨.identifier, "a", ⟨0, 1⟩⟩, ⟨.identifier, "b", ⟨8, 9⟩⟩] "a = é 'b" =
      "a       b" := by
  decide

end Token

end TextTemplate
