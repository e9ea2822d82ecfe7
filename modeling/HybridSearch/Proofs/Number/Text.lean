import HybridSearch.Number.Reading
import HybridSearch.Number.Text
import HybridSearch.Proofs.Number.Shortest

/-! What is written of a number, read again. A finite number is written as a numeral, and the value of
the numeral rounds to the number, so two numbers that are written alike have one value. -/

namespace HybridSearch.Number

open HybridSearch.Text

/-! ## Digits -/

theorem isDigit_eq (character : Char) : isDigit character = character.isDigit := by
  rw [isDigit, asciiDigit?, Char.isDigit]
  split <;> simp_all [Char.le_def, UInt32.le_iff_toNat_le]

theorem digitsValue_eq {digits : List Char} (given : ∀ digit ∈ digits, isDigit digit = true) :
    digitsValue digits = Nat.ofDigitChars 10 digits 0 := by
  suffices goesOn : ∀ start, digits.foldl
      (fun value digit => 10 * value + (asciiDigit? digit).getD 0) start =
        Nat.ofDigitChars 10 digits start from goesOn 0
  intro start
  induction digits generalizing start with
  | nil => rfl
  | cons digit rest induction =>
      rw [List.forall_mem_cons] at given
      have isDigit := given.1
      rw [Number.isDigit, asciiDigit?] at isDigit
      rw [List.foldl_cons, induction given.2, Nat.ofDigitChars_cons, asciiDigit?]
      split <;> simp_all

theorem isDigit_of_mem_toDigits {value : Nat} {digit : Char} (member : digit ∈ Nat.toDigits 10 value) :
    isDigit digit = true := by
  rw [isDigit_eq]
  exact Nat.isDigit_of_mem_toDigits (by decide) (by decide) member

theorem isDigit_of_mem_replicate {count : Nat} {digit : Char}
    (member : digit ∈ List.replicate count '0') : isDigit digit = true := by
  rw [List.eq_of_mem_replicate member]
  rfl

theorem digitsValue_toDigits (value : Nat) : digitsValue (Nat.toDigits 10 value) = value := by
  rw [digitsValue_eq fun _ => isDigit_of_mem_toDigits, Nat.ofDigitChars_ten_toDigits]

theorem digitsValue_append {front back : List Char}
    (frontDigits : ∀ digit ∈ front, isDigit digit = true)
    (backDigits : ∀ digit ∈ back, isDigit digit = true) :
    digitsValue (front ++ back) = 10 ^ back.length * digitsValue front + digitsValue back := by
  have both : ∀ digit ∈ front ++ back, isDigit digit = true := fun digit member =>
    (List.mem_append.mp member).elim (frontDigits digit) (backDigits digit)
  rw [digitsValue_eq both, digitsValue_eq frontDigits, digitsValue_eq backDigits,
    Nat.ofDigitChars_append, Nat.ofDigitChars_eq_ofDigitChars_zero]

theorem digitsValue_replicate (count : Nat) : digitsValue (List.replicate count '0') = 0 := by
  rw [digitsValue_eq fun _ => isDigit_of_mem_replicate, Nat.ofDigitChars_replicate_zero,
    Nat.mul_zero]

/-! ## Numerals -/

namespace Numeral

def magnitude (numeral : Numeral) : ℚ :=
  numeral.digits * 10 ^ numeral.exponent

/-- Reads a numeral behind its sign. -/
def readUnsigned? (negative : Bool) (unsigned : List Char) : Option Numeral :=
  let whole := unsigned.takeWhile isDigit
  let (fraction, rest) := match unsigned.dropWhile isDigit with
    | '.' :: rest => (rest.takeWhile isDigit, rest.dropWhile isDigit)
    | rest => ([], rest)
  if whole = [] ∧ fraction = [] then none
  else
    (readExponent? rest).map fun exponent =>
      ⟨negative, digitsValue (whole ++ fraction), exponent - fraction.length⟩

theorem read?_eq (characters : List Char) :
    read? characters = readUnsigned? (splitSign characters).1 (splitSign characters).2 := rfl

/-- What reads as a numeral behind its sign has no sign. -/
theorem splitSign_of_readUnsigned? {negative : Bool} {characters : List Char} {numeral : Numeral}
    (read : readUnsigned? negative characters = some numeral) :
    splitSign characters = (false, characters) := by
  rw [splitSign]
  · rintro rest rfl
    simp [readUnsigned?, isDigit, asciiDigit?] at read
  · rintro rest rfl
    simp [readUnsigned?, isDigit, asciiDigit?] at read

theorem readExponent?_exponentText (exponent : Int) :
    readExponent? (exponentText exponent) = some exponent := by
  have nonempty : List.replicate (2 - (Nat.toDigits 10 exponent.natAbs).length) '0' ++
      Nat.toDigits 10 exponent.natAbs ≠ [] := by
    simp [Nat.toDigits_ne_nil]
  have digits : ∀ digit ∈ List.replicate (2 - (Nat.toDigits 10 exponent.natAbs).length) '0' ++
      Nat.toDigits 10 exponent.natAbs, isDigit digit = true := by
    intro digit member
    exact (List.mem_append.mp member).elim isDigit_of_mem_replicate isDigit_of_mem_toDigits
  have value : digitsValue (List.replicate (2 - (Nat.toDigits 10 exponent.natAbs).length) '0' ++
      Nat.toDigits 10 exponent.natAbs) = exponent.natAbs := by
    rw [digitsValue_eq digits, Nat.ofDigitChars_append, Nat.ofDigitChars_replicate_zero,
      Nat.mul_zero, Nat.ofDigitChars_ten_toDigits]
  simp only [exponentText, List.append_assoc]
  generalize List.replicate (2 - (Nat.toDigits 10 exponent.natAbs).length) '0' ++
    Nat.toDigits 10 exponent.natAbs = written at nonempty digits value
  have allDigits : written.all isDigit = true := List.all_eq_true.mpr digits
  by_cases negative : exponent < 0
  · simp [readExponent?, splitSign, negative, nonempty, allDigits, value, abs_of_neg negative]
  · simp [readExponent?, splitSign, negative, nonempty, allDigits, value]
    omega

section Parts

variable {exponent : Int}

/-- What follows a numeral's digits is no digit. -/
theorem takeWhile_digits {whole rest : List Char} (digits : ∀ digit ∈ whole, isDigit digit = true)
    (stops : ∀ next ∈ rest.head?, isDigit next = false) :
    (whole ++ rest).takeWhile isDigit = whole ∧ (whole ++ rest).dropWhile isDigit = rest := by
  rw [List.takeWhile_append_of_pos digits, List.dropWhile_append_of_pos digits]
  cases rest with
  | nil => simp
  | cons next rest =>
      have stop := stops next rfl
      simp [stop]

theorem readUnsigned?_point (negative : Bool) (whole fraction rest : List Char)
    (wholeDigits : ∀ digit ∈ whole, isDigit digit = true)
    (fractionDigits : ∀ digit ∈ fraction, isDigit digit = true) (given : whole ≠ [])
    (stops : ∀ next ∈ rest.head?, isDigit next = false)
    (scales : readExponent? rest = some exponent) :
    readUnsigned? negative (whole ++ '.' :: (fraction ++ rest)) =
      some ⟨negative, digitsValue (whole ++ fraction), exponent - fraction.length⟩ := by
  have pointStops : ∀ next ∈ ('.' :: (fraction ++ rest)).head?, isDigit next = false := by
    simp [isDigit, asciiDigit?]
  have first := takeWhile_digits wholeDigits pointStops
  have second := takeWhile_digits fractionDigits stops
  simp [readUnsigned?, first, second, given, scales]

theorem readUnsigned?_plain (negative : Bool) (whole rest : List Char)
    (digits : ∀ digit ∈ whole, isDigit digit = true)
    (given : whole ≠ []) (stops : ∀ next ∈ rest.head?, isDigit next = false ∧ next ≠ '.')
    (scales : readExponent? rest = some exponent) :
    readUnsigned? negative (whole ++ rest) = some ⟨negative, digitsValue whole, exponent⟩ := by
  have first := takeWhile_digits digits fun next isNext => (stops next isNext).1
  have pointless : (match rest with
      | '.' :: others => (others.takeWhile isDigit, others.dropWhile isDigit)
      | others => ([], others)) = ([], rest) := by
    split
    · exact absurd rfl (stops '.' rfl).2
    · rfl
  simp [readUnsigned?, first, pointless, given, scales]

end Parts

theorem head_exponentText (exponent : Int) :
    ∀ next ∈ (exponentText exponent).head?, isDigit next = false ∧ next ≠ '.' := by
  simp [exponentText, isDigit, asciiDigit?]

/-- Digits that are laid out read as a numeral with their value. -/
theorem exists_readUnsigned?_layout (negative : Bool) {digits : List Char}
    (allDigits : ∀ digit ∈ digits, isDigit digit = true) (given : digits ≠ []) (point : Int) :
    ∃ numeral, readUnsigned? negative (layout digits point) = some numeral ∧
      numeral.negative = negative ∧
      numeral.magnitude = digitsValue digits * 10 ^ (point - digits.length) := by
  have zeros (count : Nat) : ∀ digit ∈ List.replicate count '0', isDigit digit = true :=
    fun _ => isDigit_of_mem_replicate
  have single : ∀ digit ∈ ['0'], isDigit digit = true := zeros 1
  have zero : digitsValue ['0'] = 0 := digitsValue_replicate 1
  unfold layout
  dsimp only
  split
  · split
    · next small =>
      have fraction : ∀ digit ∈ List.replicate (-point).toNat '0' ++ digits,
          isDigit digit = true := fun digit member =>
        (List.mem_append.mp member).elim isDigit_of_mem_replicate (allDigits digit)
      have read := readUnsigned?_point negative ['0'] _ [] single fraction (by simp) (by simp) rfl
      rw [List.append_nil] at read
      refine ⟨_, read, rfl, ?_⟩
      have value : digitsValue (['0'] ++ (List.replicate (-point).toNat '0' ++ digits)) =
          digitsValue digits := by
        rw [digitsValue_append single fraction, digitsValue_append (zeros _) allDigits,
          digitsValue_replicate, zero]
        omega
      rw [magnitude, value]
      congr 2
      simp only [List.length_append, List.length_replicate]
      omega
    · next large =>
      split
      · next whole =>
        have wholeDigits : ∀ digit ∈ digits ++ List.replicate (point - digits.length).toNat '0',
            isDigit digit = true := fun digit member =>
          (List.mem_append.mp member).elim (allDigits digit) isDigit_of_mem_replicate
        have read := readUnsigned?_point negative _ ['0'] [] wholeDigits single (by simp [given])
          (by simp) rfl
        refine ⟨_, read, rfl, ?_⟩
        rcases Int.eq_ofNat_of_zero_le (sub_nonneg.mpr whole) with ⟨count, gap⟩
        rw [magnitude, digitsValue_append wholeDigits single, digitsValue_append allDigits (zeros _),
          digitsValue_replicate, zero, gap]
        simp only [Int.toNat_natCast, List.length_replicate, List.length_singleton, zpow_natCast]
        push_cast
        rw [zpow_neg_one]
        ring
      · next within =>
        have front : ∀ digit ∈ digits.take point.toNat, isDigit digit = true :=
          fun digit member => allDigits digit (List.mem_of_mem_take member)
        have back : ∀ digit ∈ digits.drop point.toNat, isDigit digit = true :=
          fun digit member => allDigits digit (List.mem_of_mem_drop member)
        have nonempty : digits.take point.toNat ≠ [] := by
          rw [Ne, List.take_eq_nil_iff, not_or]
          exact ⟨by omega, given⟩
        have read := readUnsigned?_point negative _ _ [] front back nonempty
          (by simp) rfl
        rw [List.append_nil] at read
        refine ⟨_, read, rfl, ?_⟩
        rw [magnitude, List.take_append_drop]
        congr 2
        simp only [List.length_drop]
        omega
  · cases digits with
    | nil => exact absurd rfl given
    | cons first rest =>
        rw [List.forall_mem_cons] at allDigits
        have leading : ∀ digit ∈ [first], isDigit digit = true := by simpa using allDigits.1
        have stops := head_exponentText (point - 1)
        have scales := readExponent?_exponentText (point - 1)
        cases rest with
        | nil =>
            refine ⟨_, readUnsigned?_plain negative [first] _ leading (by simp) stops scales, rfl, ?_⟩
            rfl
        | cons second others =>
            have read := readUnsigned?_point negative [first] _ _ leading allDigits.2 (by simp)
              (fun next isNext => (stops next isNext).1) scales
            refine ⟨_, read, rfl, ?_⟩
            rw [magnitude]
            congr 2
            simp only [List.length_cons]
            push_cast
            ring

end Numeral

/-! ## Texts -/

theorem exists_readUnsigned?_magnitudeText (negative : Bool) (number : Float) :
    ∃ numeral, Numeral.readUnsigned? negative (magnitudeText number) = some numeral ∧
      numeral.negative = negative ∧
      numeral.magnitude =
        if (Binary.ofFloat number).significand = 0 then 0
        else (Binary.ofFloat number).shortest.value := by
  rw [magnitudeText]
  dsimp only
  split
  · next zero =>
    exact ⟨⟨negative, 0, -1⟩, by cases negative <;> decide, rfl, by simp [Numeral.magnitude]⟩
  · next nonzero =>
    rcases Numeral.exists_readUnsigned?_layout negative (fun _ => isDigit_of_mem_toDigits)
      Nat.toDigits_ne_nil ((Binary.ofFloat number).shortest.exponent +
        (Nat.toDigits 10 (Binary.ofFloat number).shortest.digits).length) with
      ⟨numeral, read, sign, value⟩
    refine ⟨numeral, read, sign, ?_⟩
    rw [value, digitsValue_toDigits, add_sub_cancel_right]
    rfl

/-- The text of a finite number reads as a numeral with its sign. -/
theorem exists_read?_text {number : Float} (finite : number.isFinite = true) :
    ∃ numeral, Numeral.read? (text number).toList = some numeral ∧
      numeral.negative = isNegative number ∧
      numeral.magnitude =
        if (Binary.ofFloat number).significand = 0 then 0
        else (Binary.ofFloat number).shortest.value := by
  rcases exists_readUnsigned?_magnitudeText (isNegative number) number with
    ⟨numeral, read, sign, value⟩
  refine ⟨numeral, ?_, sign, value⟩
  rcases isFinite_iff.mp finite with ⟨isNumber, bounded⟩
  rw [text, isNumber, bounded, Numeral.read?_eq]
  simp only [Bool.false_eq_true, if_false, String.toList_ofList, withSign]
  cases negative : isNegative number with
  | true =>
      rw [negative] at read
      exact read
  | false =>
      rw [negative] at read
      simp only [Bool.false_eq_true, if_false, Numeral.splitSign_of_readUnsigned? read]
      exact read

/-- What is not finite is written as a word. -/
theorem text_of_not_finite {number : Float} (infinite : number.isFinite ≠ true) :
    text number = "nan" ∧ value? number = none ∨ text number = "inf" ∧ value? number = some ⊤ ∨
      text number = "-inf" ∧ value? number = some ⊥ := by
  rw [Ne, isFinite_iff, not_and, Bool.not_eq_false] at infinite
  cases isNumber : number.isNaN with
  | true =>
      refine .inl ⟨?_, value?_eq_none_iff.mpr isNumber⟩
      rw [text, isNumber]
      rfl
  | false =>
      have isInf := infinite isNumber
      have written : text number = if isNegative number then "-inf" else "inf" := by
        rw [text, isNumber, isInf]
        rfl
      rw [written, value?_of_isInf isInf]
      cases isNegative number <;> simp

theorem read?_text_of_not_finite {number : Float} (infinite : number.isFinite ≠ true) :
    Numeral.read? (text number).toList = none := by
  rcases text_of_not_finite infinite with ⟨written, _⟩ | ⟨written, _⟩ | ⟨written, _⟩ <;>
    rw [written] <;> decide

/-- A finite number is zero, or one that its significand and exponent tell. -/
theorem value?_cases {number : Float} (finite : number.isFinite = true) :
    (Binary.ofFloat number).significand = 0 ∧ value? number = some (.ofRat 0) ∨
      ∃ mantissa exponent, Canonical mantissa exponent ∧
        Binary.ofFloat number = ⟨mantissa, exponent, mantissa = 2 ^ 52 && -1074 < exponent⟩ := by
  have unpackedFinite : number.toModel.unpack.isFinite = true := finite
  cases unpacked : number.toModel.unpack with
  | notANumber => rw [unpacked] at unpackedFinite; cases unpackedFinite
  | infinity sign => rw [unpacked] at unpackedFinite; cases unpackedFinite
  | zero sign => exact .inl ⟨by rw [ofFloat_of_zero unpacked], by rw [value?, unpacked]; rfl⟩
  | finite sign mantissa exponent positive =>
      rcases ofFloat_of_finite unpacked with ⟨binary, _, canonical⟩
      exact .inr ⟨mantissa, exponent, canonical, binary⟩

theorem value?_eq_of_ofFloat_eq {left right : Float} (leftFinite : left.isFinite = true)
    (rightFinite : right.isFinite = true) (sameSign : isNegative left = isNegative right)
    (same : Binary.ofFloat left = Binary.ofFloat right) : value? left = value? right := by
  have fractions : fraction left = fraction right := by rw [fraction, fraction, sameSign, same]
  rw [(value?_of_isFinite leftFinite).2, (value?_of_isFinite rightFinite).2, fractions]

/-- The reals that round to a number that is not zero are above zero. -/
theorem Binary.Covers.pos {value : Binary} {real : ℚ} (covers : value.Covers real)
    (positive : 0 < value.significand) : 0 < real := by
  refine (dyadic_pos ?_ _).trans_le covers.above
  split <;> omega

theorem value?_eq_of_shortest {left right : Float} (leftFinite : left.isFinite = true)
    (rightFinite : right.isFinite = true) (sameSign : isNegative left = isNegative right)
    (same : (if (Binary.ofFloat left).significand = 0 then 0
        else (Binary.ofFloat left).shortest.value) =
      if (Binary.ofFloat right).significand = 0 then 0
        else (Binary.ofFloat right).shortest.value) : value? left = value? right := by
  rcases value?_cases leftFinite with ⟨leftZero, leftValue⟩ |
      ⟨mantissa, exponent, canonical, leftBinary⟩ <;>
    rcases value?_cases rightFinite with ⟨rightZero, rightValue⟩ |
      ⟨other, otherExponent, otherCanonical, rightBinary⟩
  · rw [leftValue, rightValue]
  · have positive := otherCanonical.positive
    rw [leftZero, rightBinary, if_pos rfl, if_neg positive.ne'] at same
    exact absurd same (Binary.Covers.pos (Binary.covers_shortest positive) positive).ne
  · have positive := canonical.positive
    rw [rightZero, leftBinary, if_pos rfl, if_neg positive.ne'] at same
    exact absurd same (Binary.Covers.pos (Binary.covers_shortest positive) positive).ne'
  · have positive : 0 < (Binary.ofFloat left).significand := leftBinary.symm ▸ canonical.positive
    have otherPositive : 0 < (Binary.ofFloat right).significand :=
      rightBinary.symm ▸ otherCanonical.positive
    have covers := Binary.covers_shortest positive
    have otherCovers := Binary.covers_shortest otherPositive
    rw [leftBinary, rightBinary, if_neg canonical.positive.ne',
      if_neg otherCanonical.positive.ne'] at same
    rw [leftBinary, same] at covers
    rw [rightBinary] at otherCovers
    rcases Binary.eq_of_covers canonical otherCanonical covers otherCovers with ⟨rfl, rfl⟩
    exact value?_eq_of_ofFloat_eq leftFinite rightFinite sameSign
      (leftBinary.trans rightBinary.symm)

/-- Numbers that are written alike have one value. -/
theorem value?_eq_of_text_eq {left right : Float} (same : text left = text right) :
    value? left = value? right := by
  by_cases leftFinite : left.isFinite = true
  · rcases exists_read?_text leftFinite with ⟨leftNumeral, leftRead, leftSign, leftMagnitude⟩
    by_cases rightFinite : right.isFinite = true
    · rcases exists_read?_text rightFinite with ⟨numeral, read, sign, magnitude⟩
      rw [same, read] at leftRead
      cases leftRead
      exact value?_eq_of_shortest leftFinite rightFinite (leftSign.symm.trans sign)
        (leftMagnitude.symm.trans magnitude)
    · rw [same, read?_text_of_not_finite rightFinite] at leftRead
      cases leftRead
  · by_cases rightFinite : right.isFinite = true
    · rcases exists_read?_text rightFinite with ⟨numeral, read, _⟩
      rw [← same, read?_text_of_not_finite leftFinite] at read
      cases read
    · rcases text_of_not_finite leftFinite with leftWord | leftWord | leftWord <;>
        rcases text_of_not_finite rightFinite with rightWord | rightWord | rightWord <;>
          simp_all

/-! No integer is written with a point, an exponent or a word. -/

theorem mem_layout (digits : List Char) (point : Int) :
    '.' ∈ layout digits point ∨ 'e' ∈ layout digits point := by
  unfold layout
  dsimp only
  split
  · left
    split
    · simp
    · split <;> simp
  · right
    simp [exponentText]

theorem exists_mem_text (number : Float) :
    ∃ character ∈ (text number).toList, character.isDigit = false ∧ character ≠ '-' := by
  rw [text]
  split
  · exact ⟨'n', by decide⟩
  · split
    · split <;> exact ⟨'n', by decide⟩
    · have found : '.' ∈ magnitudeText number ∨ 'e' ∈ magnitudeText number := by
        rw [magnitudeText]
        dsimp only
        split
        · decide
        · exact mem_layout ..
      rw [String.toList_ofList, withSign]
      rcases found with point | mark
      · exact ⟨'.', by split <;> simp [point], by decide⟩
      · exact ⟨'e', by split <;> simp [mark], by decide⟩

end HybridSearch.Number
