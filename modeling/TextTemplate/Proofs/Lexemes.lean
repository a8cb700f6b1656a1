import TextTemplate.Proofs.Located
import TextTemplate.Token.Lexer
import Mathlib.Data.List.TakeWhile

/-!
# Lexemes

The texts that tokens of each kind may have, said without the lexer (`Token.IsLexeme`), and that the
lexer takes exactly these: what it takes at the front of a text is a lexeme of the kind it says
(`Token.begins_of_lexeme?`), and it takes any lexeme as a whole before what does not go on with it,
such as a gap (`Token.lexeme?_append`).
-/

namespace TextTemplate

open Text (isGap isBlank byteSize)

namespace Token

/-- The comparison operators as they are written. -/
def operators : List String := ["==", "!=", "<>", "<=", ">=", "<", ">", "contains"]

/-- The punctuation characters and the kinds of their tokens. -/
def marks : List (TokenKind × Char) :=
  [(.pipe, '|'), (.dot, '.'), (.colon, ':'), (.comma, ','), (.openSquare, '['),
    (.closeSquare, ']'), (.openRound, '('), (.closeRound, ')'), (.question, '?'), (.dash, '-')]

/-- One or more digits. -/
def IsDigits (cs : List Char) : Prop :=
  cs ≠ [] ∧ ∀ c ∈ cs, c.isDigit = true

/-- Digits, perhaps after a minus sign. -/
def IsInteger (cs : List Char) : Prop :=
  ∃ sign digits, (sign = [] ∨ sign = ['-']) ∧ IsDigits digits ∧ cs = sign ++ digits

/-- A token of this kind may have this text. -/
def IsLexeme (kind : TokenKind) (text : List Char) : Prop :=
  match kind with
  | .comparison => text ∈ operators.map String.toList
  | .string =>
    ∃ quote inner, (quote = '\'' ∨ quote = '"') ∧ quote ∉ inner ∧ text = quote :: (inner ++ [quote])
  | .integer => IsInteger text
  | .float =>
    ∃ whole fraction, IsInteger whole ∧ IsDigits fraction ∧ text = whole ++ '.' :: fraction
  | .identifier =>
    ∃ first rest, isWordStart first = true ∧ (∀ c ∈ rest, isWordChar c = true) ∧
      text = first :: rest ∧ text ≠ "contains".toList
  | .range => text = ['.', '.']
  | .endOfMarkup => False
  | kind => ∃ mark, (kind, mark) ∈ marks ∧ text = [mark]

variable {cs text rest : List Char} {kind : TokenKind} {length : Nat} {c quote : Char}

/-! ## What the lexer takes is a lexeme -/

/-- The text begins with a lexeme of this kind that has so many characters. -/
def Begins (kind : TokenKind) (length : Nat) (cs : List Char) : Prop :=
  ∃ text rest, cs = text ++ rest ∧ text.length = length ∧ IsLexeme kind text

theorem begins_of_comparisonLength? (found : comparisonLength? cs = some length) :
    Begins .comparison length cs := by
  have operator (text : String) (member : text ∈ operators) (rest : List Char) :
      Begins .comparison text.toList.length (text.toList ++ rest) :=
    ⟨text.toList, rest, rfl, rfl, List.mem_map_of_mem member⟩
  unfold comparisonLength? at found
  split at found
  next rest => cases found; exact operator "==" (by decide) rest
  next rest => cases found; exact operator "!=" (by decide) rest
  next rest => cases found; exact operator "<>" (by decide) rest
  next rest => cases found; exact operator "<=" (by decide) rest
  next rest => cases found; exact operator ">=" (by decide) rest
  next rest _ _ => cases found; exact operator "<" (by decide) rest
  next rest _ => cases found; exact operator ">" (by decide) rest
  next =>
    split at found
    · next word =>
      cases found
      simp only [Bool.and_eq_true, List.isPrefixOf_iff_prefix] at word
      obtain ⟨rest, rfl⟩ := word.1
      exact operator "contains" (by decide) rest
    · cases found

theorem append_of_findIdx? {index : Nat} (found : cs.findIdx? (· == quote) = some index) :
    ∃ inner rest, cs = inner ++ quote :: rest ∧ quote ∉ inner ∧ inner.length = index := by
  induction cs generalizing index with
  | nil => cases found
  | cons c cs ih =>
    rw [List.findIdx?_cons] at found
    by_cases here : c = quote
    · simp only [here, beq_self_eq_true, if_true, Option.some.injEq] at found
      exact ⟨[], cs, by simp [here], by simp, found⟩
    · simp only [beq_iff_eq, here, if_false] at found
      obtain ⟨later, foundLater, rfl⟩ := Option.map_eq_some_iff.1 found
      obtain ⟨inner, rest, rfl, free, rfl⟩ := ih foundLater
      exact ⟨c :: inner, rest, rfl, by simp [free, Ne.symm here], rfl⟩

theorem begins_of_stringLength? (isQuote : isQuote quote = true)
    (found : stringLength? quote cs = some length) : Begins .string length (quote :: cs) := by
  obtain ⟨index, foundIndex, rfl⟩ := Option.map_eq_some_iff.1 found
  obtain ⟨inner, rest, rfl, free, rfl⟩ := append_of_findIdx? foundIndex
  refine ⟨quote :: (inner ++ [quote]), rest, by simp, by simp, quote, inner, ?_, free, rfl⟩
  simpa [Token.isQuote] using isQuote

theorem head?_dropWhile (p : Char → Bool) (cs : List Char) :
    ∀ c ∈ (cs.dropWhile p).head?, p c = false := by
  intro c first
  have stops := List.head?_dropWhile_not p cs
  rwa [Option.mem_def.1 first] at stops

theorem takeWhile_append_of_stops {p : Char → Bool} (all : ∀ c ∈ text, p c = true)
    (stops : ∀ c ∈ rest.head?, p c = false) : (text ++ rest).takeWhile p = text := by
  rw [List.takeWhile_append_of_pos all]
  cases rest with
  | nil => simp
  | cons c rest => simp [stops c rfl]

section

variable {sign digits after : List Char}

theorem length_sign (isSign : sign = [] ∨ sign = ['-']) (isDigits : IsDigits digits) :
    (if (sign ++ (digits ++ after)).head? = some '-' then 1 else 0) = sign.length := by
  rcases isSign with rfl | rfl
  · obtain ⟨first, digits, rfl⟩ := List.exists_cons_of_ne_nil isDigits.1
    have notDash : first ≠ '-' := by
      rintro rfl
      exact absurd (isDigits.2 '-' List.mem_cons_self) (by decide)
    simp [notDash]
  · rfl

theorem number?_integer (isSign : sign = [] ∨ sign = ['-']) (isDigits : IsDigits digits)
    (stops : ∀ c ∈ after.head?, c.isDigit = false)
    (noFraction : ∀ rest, after = '.' :: rest → rest.takeWhile Char.isDigit = []) :
    number? (sign ++ (digits ++ after)) = some (.integer, sign.length + digits.length) := by
  have occurs : digits.length ≠ 0 := by simpa using isDigits.1
  have taken : (digits ++ after).takeWhile Char.isDigit = digits :=
    takeWhile_append_of_stops isDigits.2 stops
  unfold number?
  simp only [length_sign isSign isDigits, List.drop_left, taken, occurs, if_false]
  rw [← List.length_append, ← List.append_assoc, List.drop_left]
  split
  next rest => simp [noFraction rest rfl]
  next => rfl

theorem number?_float (isSign : sign = [] ∨ sign = ['-']) (isDigits : IsDigits digits)
    {rest : List Char} (fraction : rest.takeWhile Char.isDigit ≠ []) :
    number? (sign ++ (digits ++ '.' :: rest)) =
      some (.float, sign.length + digits.length + 1 + (rest.takeWhile Char.isDigit).length) := by
  have occurs : digits.length ≠ 0 := by simpa using isDigits.1
  have dot : ∀ c ∈ ('.' :: rest).head?, c.isDigit = false := by
    rintro c ⟨⟩
    rfl
  have taken : (digits ++ '.' :: rest).takeWhile Char.isDigit = digits :=
    takeWhile_append_of_stops isDigits.2 dot
  unfold number?
  simp only [length_sign isSign isDigits, List.drop_left, taken, occurs, if_false]
  rw [← List.length_append, ← List.append_assoc, List.drop_left]
  cases count : (rest.takeWhile Char.isDigit).length with
  | zero => exact absurd (List.length_eq_zero_iff.1 count) fraction
  | succ more => simp only [count]

end

theorem exists_of_number? (found : number? cs = some (kind, length)) :
    ∃ sign digits after, (sign = [] ∨ sign = ['-']) ∧ IsDigits digits ∧
      (∀ c ∈ after.head?, c.isDigit = false) ∧ cs = sign ++ (digits ++ after) := by
  obtain ⟨sign, more, isSign, signed, rfl⟩ : ∃ sign more, (sign = [] ∨ sign = ['-']) ∧
      sign.length = (if cs.head? = some '-' then 1 else 0) ∧ cs = sign ++ more := by
    by_cases dash : cs.head? = some '-'
    · obtain ⟨more, rfl⟩ := List.head?_eq_some_iff.1 dash
      exact ⟨['-'], more, .inr rfl, rfl, rfl⟩
    · exact ⟨[], cs, .inl rfl, by simp [dash], rfl⟩
  unfold number? at found
  simp only [← signed, List.drop_left] at found
  split at found
  · cases found
  · next occurs =>
    refine ⟨sign, _, more.dropWhile Char.isDigit, isSign, ⟨?_, fun c => List.mem_takeWhile_imp⟩,
      head?_dropWhile _ _, by rw [List.takeWhile_append_dropWhile]⟩
    exact fun empty => occurs (by rw [empty]; rfl)

theorem begins_of_number? (found : number? cs = some (kind, length)) : Begins kind length cs := by
  obtain ⟨sign, digits, after, isSign, isDigits, stops, rfl⟩ := exists_of_number? found
  have isInteger : IsInteger (sign ++ digits) := ⟨sign, digits, isSign, isDigits, rfl⟩
  by_cases fraction : ∃ rest, after = '.' :: rest ∧ rest.takeWhile Char.isDigit ≠ []
  · obtain ⟨rest, rfl, occurs⟩ := fraction
    rw [number?_float isSign isDigits occurs] at found
    cases found
    refine ⟨sign ++ digits ++ '.' :: rest.takeWhile Char.isDigit, rest.dropWhile Char.isDigit,
      by simp, by simp; omega, _, _, isInteger, ⟨occurs, fun c => List.mem_takeWhile_imp⟩, rfl⟩
  · have noFraction rest (same : after = '.' :: rest) : rest.takeWhile Char.isDigit = [] := by
      by_contra occurs
      exact fraction ⟨rest, same, occurs⟩
    rw [number?_integer isSign isDigits stops noFraction] at found
    cases found
    exact ⟨sign ++ digits, after, by simp, by simp, isInteger⟩

theorem mem_marks_iff : (kind, c) ∈ marks ↔ TokenKind.ofPunctuation? c = some kind := by
  constructor
  · intro member
    simp only [marks, List.mem_cons, Prod.mk.injEq, List.not_mem_nil, or_false] at member
    rcases member with ⟨rfl, rfl⟩ | ⟨rfl, rfl⟩ | ⟨rfl, rfl⟩ | ⟨rfl, rfl⟩ | ⟨rfl, rfl⟩ | ⟨rfl, rfl⟩ |
      ⟨rfl, rfl⟩ | ⟨rfl, rfl⟩ | ⟨rfl, rfl⟩ | ⟨rfl, rfl⟩ <;> rfl
  · intro found
    unfold TokenKind.ofPunctuation? at found
    split at found <;> cases found <;> decide

theorem isLexeme_mark (member : (kind, c) ∈ marks) : IsLexeme kind [c] := by
  have found := mem_marks_iff.1 member
  unfold TokenKind.ofPunctuation? at found
  split at found <;> cases found <;> exact ⟨_, member, rfl⟩

/-- The word operator ends where no word character follows. -/
theorem comparisonLength?_contains (stops : ∀ c ∈ rest.head?, isWordChar c = false) :
    comparisonLength? ("contains".toList ++ rest) = some 8 := by
  have ends : rest.head?.any isWordChar = false := by
    cases rest with
    | nil => rfl
    | cons c rest => simpa using stops c rfl
  simp [comparisonLength?, ends]

theorem begins_of_wordOrMark? (noComparison : comparisonLength? cs = none)
    (found : wordOrMark? cs = some (kind, length)) : Begins kind length cs := by
  unfold wordOrMark? at found
  split at found
  · cases found
  next c rest =>
    split at found
    next start =>
      cases found
      refine ⟨c :: rest.takeWhile isWordChar, rest.dropWhile isWordChar, by simp, by simp; omega,
        c, _, start, fun d => List.mem_takeWhile_imp, rfl, ?_⟩
      intro word
      have here := comparisonLength?_contains (head?_dropWhile isWordChar rest)
      rw [← word, List.cons_append, List.takeWhile_append_dropWhile, noComparison] at here
      cases here
    next =>
      split at found
      next range =>
        cases found
        obtain ⟨rfl, second⟩ := range
        obtain ⟨more, rfl⟩ := List.head?_eq_some_iff.1 second
        exact ⟨['.', '.'], more, rfl, rfl, rfl⟩
      next =>
        obtain ⟨mark, isMark, same⟩ := Option.map_eq_some_iff.1 found
        cases same
        exact ⟨[c], rest, rfl, rfl, isLexeme_mark (mem_marks_iff.2 isMark)⟩

theorem begins_of_lexeme? (found : lexeme? cs = some (kind, length)) : Begins kind length cs := by
  unfold lexeme? at found
  split at found
  next length isComparison =>
    cases found
    exact begins_of_comparisonLength? isComparison
  next => cases found
  next c rest noComparison =>
    split at found
    next quote =>
      obtain ⟨length, foundLength, same⟩ := Option.map_eq_some_iff.1 found
      cases same
      exact begins_of_stringLength? quote foundLength
    next =>
      split at found
      next number isNumber =>
        cases found
        exact begins_of_number? isNumber
      next => exact begins_of_wordOrMark? noComparison found

/-! ## The lexer takes any lexeme before what ends it -/

theorem isWordChar_of_isWordStart (start : isWordStart c = true) : isWordChar c = true := by
  simp only [isWordStart, isWordChar, Char.isAlphanum, Bool.or_eq_true] at start ⊢
  tauto

theorem isWordChar_of_isDigit (digit : c.isDigit = true) : isWordChar c = true := by
  simp [isWordChar, Char.isAlphanum, digit]

/-- The ASCII letters by their codes. -/
theorem isAlpha_iff_toNat :
    c.isAlpha = true ↔ 65 ≤ c.toNat ∧ c.toNat ≤ 90 ∨ 97 ≤ c.toNat ∧ c.toNat ≤ 122 := by
  change (decide (65 ≤ c.val ∧ c.val ≤ 90) ||
    (decide (97 ≤ c.val) && decide (c.val ≤ 122))) = true ↔ _
  rw [Bool.or_eq_true, Bool.and_eq_true, decide_eq_true_iff, decide_eq_true_iff,
    decide_eq_true_iff]
  exact Iff.rfl

theorem isDigit_of_isWordStart (start : isWordStart c = true) : c.isDigit = false := by
  rw [Bool.eq_false_iff, ne_eq, Char.isDigit_iff_toNat]
  rintro ⟨low, high⟩
  simp only [Char.reduceToNat] at low high
  simp only [isWordStart, Bool.or_eq_true, isAlpha_iff_toNat, beq_iff_eq] at start
  rcases start with letter | rfl
  · omega
  · exact absurd high (by decide)

theorem isWordChar_of_isGap (gap : isGap c = true) : isWordChar c = false := by
  simp only [isGap, Bool.or_eq_true, beq_iff_eq] at gap
  rcases gap with (((rfl | rfl) | rfl) | rfl) | rfl <;> decide

theorem not_isDigit_of_not_isWordChar (noWord : isWordChar c = false) : c.isDigit = false := by
  cases digit : c.isDigit with
  | false => rfl
  | true =>
    rw [isWordChar_of_isDigit digit] at noWord
    cases noWord

theorem isDigit_of_isGap (gap : isGap c = true) : c.isDigit = false :=
  not_isDigit_of_not_isWordChar (isWordChar_of_isGap gap)

/-- What is no comparison operator: a sign begins none, and the word operator goes on. -/
theorem comparisonLength?_eq_none (noSign : c ∉ ['=', '!', '<', '>'])
    (noWord : (c :: cs).takeWhile isWordChar ≠ "contains".toList) :
    comparisonLength? (c :: cs) = none := by
  unfold comparisonLength?
  split
  case h_8 =>
    refine if_neg fun word => noWord ?_
    simp only [Bool.and_eq_true, List.isPrefixOf_iff_prefix] at word
    obtain ⟨⟨more, same⟩, ends⟩ := word
    rw [← same] at ends ⊢
    rw [List.takeWhile_append_of_pos (List.all_eq_true.1 rfl)]
    cases more with
    | nil => rfl
    | cons d more =>
      have stops : isWordChar d = false := by simpa using ends
      simp [stops]
  all_goals
    next same =>
      injection same with head
      simp [head] at noSign

/-- Characters that begin neither a comparison operator nor a word, and what follows them. -/
theorem comparisonLength?_of_not_word (noSign : c ∉ ['=', '!', '<', '>'])
    (noWord : c ≠ 'c') : comparisonLength? (c :: cs) = none := by
  refine comparisonLength?_eq_none noSign fun word => ?_
  rw [List.takeWhile_cons] at word
  split at word
  · injection word with head
    exact noWord head
  · cases word

theorem number?_eq_none (noDash : c ≠ '-') (noDigit : c.isDigit = false) :
    number? (c :: cs) = none := by
  simp [number?, noDash, noDigit]

/-- Nothing or a gap character stands at the front. -/
def Parted (rest : List Char) : Prop :=
  ∀ c ∈ rest.head?, isGap c = true

/-- What stands after a lexeme of this kind does not go on with it. -/
def Ends (kind : TokenKind) (rest : List Char) : Prop :=
  match kind with
  | .comparison => ∀ c ∈ rest.head?, c ∉ ['=', '>'] ∧ isWordChar c = false
  | .integer =>
    (∀ c ∈ rest.head?, c.isDigit = false) ∧
      ∀ after, rest = '.' :: after → after.takeWhile Char.isDigit = []
  | .float | .dash => ∀ c ∈ rest.head?, c.isDigit = false
  | .identifier => ∀ c ∈ rest.head?, isWordChar c = false
  | .dot => rest.head? ≠ some '.'
  | _ => True

/-- A character that neither words and numbers nor signs and dots go on with ends every lexeme. -/
theorem ends_of_apart (noWord : isWordChar c = false) (noSign : c ∉ ['.', '=', '>']) :
    Ends kind (c :: rest) := by
  have noDigit := not_isDigit_of_not_isWordChar noWord
  simp only [List.mem_cons, List.not_mem_nil, or_false, not_or] at noSign
  obtain ⟨noDot, noEqual, noGreater⟩ := noSign
  cases kind with
  | comparison =>
    rintro _ ⟨⟩
    exact ⟨by simp [noEqual, noGreater], noWord⟩
  | integer =>
    refine ⟨?_, ?_⟩
    · rintro _ ⟨⟩
      exact noDigit
    · rintro _ ⟨⟩
      exact absurd rfl noDot
  | float | dash =>
    rintro _ ⟨⟩
    exact noDigit
  | identifier =>
    rintro _ ⟨⟩
    exact noWord
  | dot =>
    rintro ⟨⟩
    exact noDot rfl
  | _ => trivial

/-- A gap ends every lexeme, and so does the end of the text. -/
theorem Parted.ends (parted : Parted rest) : Ends kind rest := by
  cases rest with
  | nil =>
    cases kind with
    | integer => exact ⟨nofun, nofun⟩
    | comparison | float | dash | identifier | dot => exact nofun
    | _ => trivial
  | cons c rest =>
    have gap : isGap c = true := parted c rfl
    apply ends_of_apart (isWordChar_of_isGap gap)
    intro sign
    simp only [List.mem_cons, List.not_mem_nil, or_false] at sign
    rcases sign with rfl | rfl | rfl
    · cases gap
    · cases gap
    · cases gap

/-- A sign for an order stands alone if no second sign follows. -/
theorem comparisonLength?_order (order : c = '<' ∨ c = '>')
    (alone : ∀ second ∈ rest.head?, second ∉ ['=', '>']) :
    comparisonLength? (c :: rest) = some 1 := by
  cases rest with
  | nil => rcases order with rfl | rfl <;> rfl
  | cons second rest =>
    have noSecond := alone second rfl
    rcases order with rfl | rfl
    all_goals
      unfold comparisonLength?
      split <;> simp_all

theorem lexeme?_operator (member : text ∈ operators.map String.toList)
    (ends : Ends .comparison rest) :
    lexeme? (text ++ rest) = some (.comparison, text.length) := by
  suffices taken : comparisonLength? (text ++ rest) = some text.length by
    unfold lexeme?
    rw [taken]
  have alone : ∀ second ∈ rest.head?, second ∉ ['=', '>'] := fun second first =>
    (ends second first).1
  simp only [operators, List.map_cons, List.map_nil, List.mem_cons, List.not_mem_nil, or_false]
    at member
  rcases member with rfl | rfl | rfl | rfl | rfl | rfl | rfl | rfl
  case inr.inr.inr.inr.inr.inl => exact comparisonLength?_order (.inl rfl) alone
  case inr.inr.inr.inr.inr.inr.inl => exact comparisonLength?_order (.inr rfl) alone
  case inr.inr.inr.inr.inr.inr.inr =>
    exact comparisonLength?_contains fun c first => (ends c first).2
  all_goals rfl

theorem stringLength?_append {inner : List Char} (free : quote ∉ inner) :
    stringLength? quote (inner ++ quote :: rest) = some (inner.length + 2) := by
  have closes : (inner ++ quote :: rest).findIdx? (· == quote) = some inner.length := by
    rw [List.findIdx?_append, List.findIdx?_eq_none_iff.2 ?_]
    · simp [List.findIdx?_cons]
    · intro c member
      have other : c ≠ quote := fun same => free (same ▸ member)
      simpa using other
  simp [stringLength?, closes]

theorem lexeme?_string (isQuote : quote = '\'' ∨ quote = '"') {inner : List Char}
    (free : quote ∉ inner) :
    lexeme? (quote :: (inner ++ quote :: rest)) = some (.string, inner.length + 2) := by
  have noComparison : comparisonLength? (quote :: (inner ++ quote :: rest)) = none := by
    rcases isQuote with rfl | rfl <;>
      exact comparisonLength?_of_not_word (by decide) (by decide)
  have quotes : Token.isQuote quote = true := by simpa [Token.isQuote] using isQuote
  simp only [lexeme?, noComparison, quotes, if_true, stringLength?_append free, Option.map_some]

/-- What is no comparison operator and no string is a number, or a word or a mark. -/
theorem lexeme?_plain (noComparison : comparisonLength? (c :: cs) = none)
    (noQuote : isQuote c = false) :
    lexeme? (c :: cs) = (number? (c :: cs)).or (wordOrMark? (c :: cs)) := by
  simp only [lexeme?, noComparison, noQuote]
  cases number? (c :: cs) <;> rfl

/-- The characters that numbers begin with begin neither comparison operators nor strings. -/
theorem lexeme?_number (start : c = '-' ∨ c.isDigit = true) {number : TokenKind × Nat}
    (found : number? (c :: cs) = some number) : lexeme? (c :: cs) = some number := by
  have other (d : Char) (noDash : d ≠ '-') (noDigit : d.isDigit = false) : c ≠ d := by
    rintro rfl
    rcases start with rfl | digit
    · exact noDash rfl
    · rw [noDigit] at digit
      cases digit
  rw [lexeme?_plain, found]
  · rfl
  · refine comparisonLength?_of_not_word ?_ (other 'c' (by decide) (by decide))
    simp only [List.mem_cons, List.not_mem_nil, or_false, not_or]
    refine ⟨?_, ?_, ?_, ?_⟩ <;> exact other _ (by decide) (by decide)
  · simp [isQuote, other '\'' (by decide) (by decide), other '"' (by decide) (by decide)]

theorem IsInteger.start {whole : List Char} (isInteger : IsInteger whole) :
    ∃ first rest, whole = first :: rest ∧ (first = '-' ∨ first.isDigit = true) := by
  obtain ⟨sign, digits, isSign, isDigits, rfl⟩ := isInteger
  rcases isSign with rfl | rfl
  · obtain ⟨first, digits, rfl⟩ := List.exists_cons_of_ne_nil isDigits.1
    exact ⟨first, digits, rfl, .inr (isDigits.2 first List.mem_cons_self)⟩
  · exact ⟨'-', digits, rfl, .inl rfl⟩

theorem lexeme?_identifier {first : Char} {word : List Char} (start : isWordStart first = true)
    (goesOn : ∀ c ∈ word, isWordChar c = true) (other : first :: word ≠ "contains".toList)
    (ends : Ends .identifier rest) :
    lexeme? (first :: (word ++ rest)) = some (.identifier, word.length + 1) := by
  have differs (d : Char) (noStart : isWordStart d = false) : first ≠ d := by
    rintro rfl
    rw [noStart] at start
    cases start
  have taken : (word ++ rest).takeWhile isWordChar = word := takeWhile_append_of_stops goesOn ends
  have noComparison : comparisonLength? (first :: (word ++ rest)) = none := by
    refine comparisonLength?_eq_none ?_ ?_
    · simp only [List.mem_cons, List.not_mem_nil, or_false, not_or]
      refine ⟨?_, ?_, ?_, ?_⟩ <;> exact differs _ (by decide)
    · rwa [List.takeWhile_cons, if_pos (isWordChar_of_isWordStart start), taken]
  rw [lexeme?_plain noComparison,
    number?_eq_none (differs '-' (by decide)) (isDigit_of_isWordStart start)]
  · simp [wordOrMark?, start, taken, Nat.add_comm]
  · simp [isQuote, differs '\'' (by decide), differs '"' (by decide)]

theorem lexeme?_mark (member : (kind, c) ∈ marks) (ends : Ends kind rest) :
    lexeme? (c :: rest) = some (kind, 1) := by
  simp only [marks, List.mem_cons, Prod.mk.injEq, List.not_mem_nil, or_false] at member
  rcases member with ⟨rfl, rfl⟩ | ⟨rfl, rfl⟩ | ⟨rfl, rfl⟩ | ⟨rfl, rfl⟩ | ⟨rfl, rfl⟩ | ⟨rfl, rfl⟩ |
    ⟨rfl, rfl⟩ | ⟨rfl, rfl⟩ | ⟨rfl, rfl⟩ | ⟨rfl, rfl⟩
  case inr.inl =>
    rw [lexeme?_plain (comparisonLength?_of_not_word (by decide) (by decide)) rfl,
      number?_eq_none (by decide) rfl]
    have noDot : rest.head? ≠ some '.' := ends
    simp [wordOrMark?, isWordStart, noDot, TokenKind.ofPunctuation?]
  case inr.inr.inr.inr.inr.inr.inr.inr.inr =>
    have noNumber : number? ('-' :: rest) = none := by
      cases rest with
      | nil => rfl
      | cons d rest =>
        have noDigit : d.isDigit = false := ends d rfl
        simp [number?, noDigit]
    rw [lexeme?_plain (comparisonLength?_of_not_word (by decide) (by decide)) rfl, noNumber]
    rfl
  all_goals
    rw [lexeme?_plain (comparisonLength?_of_not_word (by decide) (by decide)) rfl,
      number?_eq_none (by decide) rfl]
    rfl

theorem lexeme?_integer (isInteger : IsInteger text) (ends : Ends .integer rest) :
    lexeme? (text ++ rest) = some (.integer, text.length) := by
  obtain ⟨first, more, same, start⟩ := isInteger.start
  obtain ⟨sign, digits, isSign, isDigits, rfl⟩ := isInteger
  have found := number?_integer isSign isDigits ends.1 ends.2
  rw [← List.append_assoc, same, List.cons_append] at found
  rw [same, List.cons_append, lexeme?_number start found, ← same, List.length_append]

theorem lexeme?_float {whole fraction : List Char} (isInteger : IsInteger whole)
    (isFraction : IsDigits fraction) (ends : Ends .float rest) :
    lexeme? (whole ++ '.' :: fraction ++ rest) =
      some (.float, (whole ++ '.' :: fraction).length) := by
  obtain ⟨first, more, same, start⟩ := isInteger.start
  obtain ⟨sign, digits, isSign, isDigits, rfl⟩ := isInteger
  have taken : (fraction ++ rest).takeWhile Char.isDigit = fraction :=
    takeWhile_append_of_stops isFraction.2 ends
  have occurs : (fraction ++ rest).takeWhile Char.isDigit ≠ [] := by
    rw [taken]
    exact isFraction.1
  have found := number?_float isSign isDigits occurs
  rw [taken, ← List.append_assoc, same, List.cons_append] at found
  have shape : first :: more ++ '.' :: fraction ++ rest =
      first :: (more ++ '.' :: (fraction ++ rest)) := by simp
  have count : (first :: more).length = sign.length + digits.length := by
    rw [← same, List.length_append]
  rw [same, shape, lexeme?_number start found, List.length_append, count, List.length_cons,
    ← Nat.add_assoc, Nat.add_right_comm]

theorem lexeme?_append (lexeme : IsLexeme kind text) (ends : Ends kind rest) :
    lexeme? (text ++ rest) = some (kind, text.length) := by
  cases kind with
  | comparison => exact lexeme?_operator lexeme ends
  | string =>
    obtain ⟨quote, inner, isQuote, free, rfl⟩ := lexeme
    simpa using lexeme?_string isQuote free
  | integer => exact lexeme?_integer lexeme ends
  | float =>
    obtain ⟨whole, fraction, isInteger, isFraction, rfl⟩ := lexeme
    exact lexeme?_float isInteger isFraction ends
  | identifier =>
    obtain ⟨first, word, start, goesOn, rfl, other⟩ := lexeme
    exact lexeme?_identifier start goesOn other ends
  | range =>
    cases lexeme
    rw [List.cons_append, lexeme?_plain (comparisonLength?_of_not_word (by decide) (by decide)) rfl,
      number?_eq_none (by decide) rfl]
    rfl
  | endOfMarkup => cases lexeme
  | _ =>
    obtain ⟨mark, member, rfl⟩ := lexeme
    exact lexeme?_mark member ends

end Token

end TextTemplate
