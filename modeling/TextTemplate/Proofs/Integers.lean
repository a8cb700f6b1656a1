import TextTemplate.Number.Integer
import TextTemplate.Proofs.Lexemes

/-!
# 64-bit integers

The integers that fit in 64 bits are those that have a 64-bit integer (`Number.ofInt?_eq_some_iff`,
`Number.ofInt?_eq_none_iff`). Reading a sign and digits gives the integer that they write, if it is
one of them (`Number.read?_of_writes`), so every integer is read back from its decimal text
(`Number.read?_decimal`).
-/

namespace TextTemplate.Number

open Token (IsInteger IsDigits)

variable {digits cs : List Char} {n : Int} {m : Int64}

/-- The integer fits in 64 bits. -/
def Fits (n : Int) : Prop :=
  Int64.minValue.toInt ≤ n ∧ n ≤ Int64.maxValue.toInt

instance (n : Int) : Decidable (Fits n) :=
  inferInstanceAs (Decidable (_ ∧ _))

theorem fits_toInt (m : Int64) : Fits m.toInt :=
  ⟨m.minValue_le_toInt, m.toInt_le⟩

theorem toInt_ofInt (fits : Fits n) : (Int64.ofInt n).toInt = n := by
  obtain ⟨least, most⟩ := fits
  rw [Int64.toInt_minValue] at least
  rw [Int64.toInt_maxValue] at most
  apply Int64.toInt_ofInt_of_le
  · exact least
  · omega

theorem ofInt?_of_fits (fits : Fits n) : ofInt? n = some (Int64.ofInt n) :=
  if_pos fits

theorem ofInt?_eq_none_iff : ofInt? n = none ↔ ¬ Fits n := by
  simp [ofInt?, Fits]

theorem ofInt?_eq_some_iff : ofInt? n = some m ↔ m.toInt = n := by
  constructor
  · intro read
    by_cases fits : Fits n
    · rw [ofInt?_of_fits fits] at read
      cases read
      exact toInt_ofInt fits
    · rw [ofInt?_eq_none_iff.2 fits] at read
      cases read
  · rintro rfl
    rw [ofInt?_of_fits (fits_toInt m), Int64.ofInt_toInt]

theorem fits_natCast {count : Nat} : Fits count ↔ (count : Int) ≤ Int64.maxValue.toInt := by
  have least : Int64.minValue.toInt ≤ count :=
    Int.le_trans (by decide) (Int.natCast_nonneg count)
  exact ⟨And.right, And.intro least⟩

/-- A count that fits is its own integer. -/
theorem ofNat_eq {count : Nat} (fits : (count : Int) ≤ Int64.maxValue.toInt) :
    ofNat count = .ofInt count := by
  rw [ofNat, ofInt?_of_fits (fits_natCast.2 fits), Option.getD_some]

theorem toInt_ofNat {count : Nat} (fits : (count : Int) ≤ Int64.maxValue.toInt) :
    (ofNat count).toInt = count := by
  rw [ofNat_eq fits, toInt_ofInt (fits_natCast.2 fits)]

/-- A count that is too large for an integer stands at the largest one. -/
theorem toInt_ofNat_eq_min (count : Nat) :
    (ofNat count).toInt = min (count : Int) Int64.maxValue.toInt := by
  by_cases fits : Fits count
  · have most := fits_natCast.1 fits
    rw [toInt_ofNat most, Int.min_eq_left most]
  · have large : Int64.maxValue.toInt ≤ count := by
      have exceeds := mt fits_natCast.2 fits
      omega
    rw [ofNat, ofInt?_eq_none_iff.2 fits, Option.getD_none, Int.min_eq_right large]

/-! ## Numerals -/

/-- The characters write the integer in decimal notation: digits, perhaps after a sign. -/
inductive Writes : List Char → Int → Prop
  | unsigned {digits : List Char} (isDigits : IsDigits digits) :
      Writes digits (Nat.ofDigitChars 10 digits 0)
  | plus {digits : List Char} (isDigits : IsDigits digits) :
      Writes ('+' :: digits) (Nat.ofDigitChars 10 digits 0)
  | minus {digits : List Char} (isDigits : IsDigits digits) :
      Writes ('-' :: digits) (-(Nat.ofDigitChars 10 digits 0 : Nat))

theorem isDigits_toDigits (count : Nat) : IsDigits (Nat.toDigits 10 count) :=
  ⟨Nat.toDigits_ne_nil, fun _ member => Nat.isDigit_of_mem_toDigits (by decide) (by decide) member⟩

theorem isInteger_decimalDigits (n : Int) : IsInteger (decimalDigits n) := by
  unfold decimalDigits
  split
  · exact ⟨['-'], _, .inr rfl, isDigits_toDigits _, rfl⟩
  · exact ⟨[], _, .inl rfl, isDigits_toDigits _, rfl⟩

theorem writes_decimalDigits (n : Int) : Writes (decimalDigits n) n := by
  have value : Nat.ofDigitChars 10 (Nat.toDigits 10 n.natAbs) 0 = n.natAbs :=
    Nat.ofDigitChars_toDigits (by decide) (by decide)
  unfold decimalDigits
  split
  · next negative =>
    have writes := Writes.minus (isDigits_toDigits n.natAbs)
    have same : -(n.natAbs : Int) = n := by omega
    rwa [value, same] at writes
  · next positive =>
    have writes := Writes.unsigned (isDigits_toDigits n.natAbs)
    have same : (n.natAbs : Int) = n := by omega
    rwa [value, same] at writes

theorem splitSign_digits (isDigits : IsDigits digits) : splitSign digits = (false, digits) := by
  have noSign (c : Char) (noDigit : c.isDigit = false) (rest : List Char) : digits ≠ c :: rest := by
    rintro rfl
    rw [isDigits.2 c List.mem_cons_self] at noDigit
    cases noDigit
  unfold splitSign
  split
  · exact absurd rfl (noSign '-' rfl _)
  · exact absurd rfl (noSign '+' rfl _)
  · rfl

theorem readDigits?_of_isDigits (isDigits : IsDigits digits)
    (fits : Nat.ofDigitChars 10 digits 0 ≤ maxMagnitude) :
    readDigits? digits = some (Nat.ofDigitChars 10 digits 0) := by
  have accepted : (!digits.isEmpty && digits.all Char.isDigit) = true := by
    simpa [IsDigits] using isDigits
  rw [readDigits?, if_pos accepted, readUpTo?_eq (Nat.zero_le _), if_pos fits]

/-- No integer that fits is written with more than the largest magnitude. -/
theorem le_maxMagnitude {magnitude : Nat} (fits : Fits magnitude ∨ Fits (-magnitude)) :
    magnitude ≤ maxMagnitude := by
  unfold Fits at fits
  rw [Int64.toInt_minValue, Int64.toInt_maxValue] at fits
  unfold maxMagnitude
  omega

theorem read?_of_writes (writes : Writes cs n) (fits : Fits n) :
    read? cs = some (Int64.ofInt n) := by
  have converts := ofInt?_of_fits fits
  cases writes with
  | unsigned isDigits =>
    have read := readDigits?_of_isDigits isDigits (le_maxMagnitude (.inl fits))
    simp [read?, splitSign_digits isDigits, read, converts]
  | plus isDigits =>
    have read := readDigits?_of_isDigits isDigits (le_maxMagnitude (.inl fits))
    simp [read?, splitSign, read, converts]
  | minus isDigits =>
    have read := readDigits?_of_isDigits isDigits (le_maxMagnitude (.inr fits))
    simp [read?, splitSign, read, converts]

/-- Every integer is read back from its decimal text. -/
theorem read?_decimal (n : Int64) : read? (decimal n).toList = some n := by
  have writes : Writes (decimal n).toList n.toInt := by
    rw [decimal, String.toList_ofList]
    exact writes_decimalDigits n.toInt
  rw [read?_of_writes writes (fits_toInt n), Int64.ofInt_toInt]

end TextTemplate.Number
