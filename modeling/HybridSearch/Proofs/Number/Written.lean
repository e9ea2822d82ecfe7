import Mathlib.Data.List.TakeWhile
import HybridSearch.Amount
import HybridSearch.Proofs.Number.Text

/-! The texts of numbers are read as numbers, and consist of letters, digits, points and signs. -/

namespace HybridSearch.Number

/-- What a number may be written with. -/
def isNumeric (character : Char) : Bool :=
  character.isAlphanum || character = '.' || character = '+' || character = '-'

theorem isNumeric_of_isDigit {character : Char} (digit : isDigit character = true) :
    isNumeric character = true := by
  rw [isDigit_eq] at digit
  simp [isNumeric, Char.isAlphanum, digit]

/-- What does not stand behind the sign is the sign. -/
theorem isNumeric_of_splitSign {characters : List Char}
    (unsigned : ∀ character ∈ (Numeral.splitSign characters).2, isNumeric character = true) :
    ∀ character ∈ characters, isNumeric character = true := by
  unfold Numeral.splitSign at unsigned
  split at unsigned
  · exact List.forall_mem_cons.mpr ⟨by decide, unsigned⟩
  · exact List.forall_mem_cons.mpr ⟨by decide, unsigned⟩
  · exact unsigned

theorem isNumeric_of_dropWhile {characters : List Char}
    (rest : ∀ character ∈ characters.dropWhile isDigit, isNumeric character = true) :
    ∀ character ∈ characters, isNumeric character = true := by
  intro character member
  rw [← List.takeWhile_append_dropWhile (p := isDigit) (l := characters)] at member
  rcases List.mem_append.mp member with digit | other
  · exact isNumeric_of_isDigit (List.mem_takeWhile_imp digit)
  · exact rest character other

theorem Numeral.isNumeric_of_readExponent? {characters : List Char} {exponent : Int}
    (read : readExponent? characters = some exponent) :
    ∀ character ∈ characters, isNumeric character = true := by
  unfold readExponent? at read
  split at read
  · simp
  · next mark rest =>
    simp only [Option.ite_none_right_eq_some] at read
    rcases read with ⟨⟨isMark, _, digits⟩, _⟩
    rw [List.forall_mem_cons]
    constructor
    · rcases isMark with rfl | rfl <;> decide
    · apply isNumeric_of_splitSign
      intro character member
      exact isNumeric_of_isDigit (List.all_eq_true.mp digits character member)

theorem Numeral.isNumeric_of_read? {characters : List Char} {numeral : Numeral}
    (read : Numeral.read? characters = some numeral) :
    ∀ character ∈ characters, isNumeric character = true := by
  rw [read?_eq] at read
  apply isNumeric_of_splitSign
  apply isNumeric_of_dropWhile
  generalize (splitSign characters).2 = unsigned at read
  unfold readUnsigned? at read
  dsimp only at read
  split at read
  · next rest isPoint =>
    rcases Option.map_eq_some_iff.mp (Option.ite_none_left_eq_some.mp read).2 with
      ⟨exponent, scales, _⟩
    rw [isPoint, List.forall_mem_cons]
    exact ⟨by decide, isNumeric_of_dropWhile (isNumeric_of_readExponent? scales)⟩
  · rcases Option.map_eq_some_iff.mp (Option.ite_none_left_eq_some.mp read).2 with
      ⟨exponent, scales, _⟩
    exact isNumeric_of_readExponent? scales

theorem isNumeric_of_toLower {character : Char} (letter : character.toLower.isAlpha = true) :
    isNumeric character = true := by
  have alpha : character.isAlpha = true := by
    by_cases upper : character.isUpper = true
    · exact Bool.or_eq_true_iff.mpr (.inl upper)
    · have same : character.toLower = character :=
        dif_neg fun bounds => upper (decide_eq_true bounds)
      rwa [same] at letter
  simp [isNumeric, Char.isAlphanum, alpha]

theorem isNumeric_of_readWord? {characters : List Char} {number : Float}
    (read : readWord? characters = some number) :
    ∀ character ∈ characters, isNumeric character = true := by
  have letters : ((Numeral.splitSign characters).2.map Char.toLower).all Char.isAlpha = true := by
    unfold readWord? at read
    dsimp only at read
    split at read
    · next isWord => rcases isWord with written | written <;> rw [written] <;> decide
    · next isWord =>
      rw [(Option.ite_none_right_eq_some.mp read).1]
      decide
  apply isNumeric_of_splitSign
  intro character member
  exact isNumeric_of_toLower (List.all_eq_true.mp letters _ (List.mem_map_of_mem member))

/-- What is read as a number is written as one. -/
theorem isNumeric_of_readPlain? {characters : List Char}
    (read : (readPlain? characters).isSome = true) :
    ∀ character ∈ characters, isNumeric character = true := by
  unfold readPlain? at read
  split at read
  · next numeral isNumeral => exact Numeral.isNumeric_of_read? isNumeral
  · rcases Option.isSome_iff_exists.mp read with ⟨number, isWord⟩
    exact isNumeric_of_readWord? isWord

/-! ## Numbers are read -/

theorem isSome_readPlain?_of_read? {characters : List Char} {numeral : Numeral}
    (read : Numeral.read? characters = some numeral) : (readPlain? characters).isSome = true := by
  rw [readPlain?, read]
  rfl

/-- What is read as a numeral behind its sign is read with a minus sign or without a sign. -/
theorem isSome_readPlain?_signed (minus : Bool) {unsigned : List Char}
    (read : ∀ negative, ∃ numeral, Numeral.readUnsigned? negative unsigned = some numeral) :
    (readPlain? (if minus then '-' :: unsigned else unsigned)).isSome = true := by
  rcases read minus with ⟨numeral, isNumeral⟩
  cases minus with
  | true => exact isSome_readPlain?_of_read? isNumeral
  | false =>
      have unsignedRead : Numeral.read? unsigned = some numeral := by
        rw [Numeral.read?_eq, Numeral.splitSign_of_readUnsigned? isNumeral]
        exact isNumeral
      exact isSome_readPlain?_of_read? unsignedRead

theorem exists_readUnsigned?_digits (negative : Bool) (value : Nat) :
    ∃ numeral, Numeral.readUnsigned? negative (Nat.toDigits 10 value) = some numeral := by
  have read := Numeral.readUnsigned?_plain negative (Nat.toDigits 10 value) []
    (fun _ => isDigit_of_mem_toDigits) Nat.toDigits_ne_nil nofun rfl
  rw [List.append_nil] at read
  exact ⟨_, read⟩

theorem isSome_readPlain?_repr (value : Int) : (readPlain? value.repr.toList).isSome = true := by
  have written : value.repr.toList = if decide (value < 0) then
      '-' :: Nat.toDigits 10 value.natAbs else Nat.toDigits 10 value.natAbs := by
    cases value with
    | ofNat value => simp [Int.repr_eq_if]
    | negSucc value => simp [Int.repr_eq_if]
  rw [written]
  exact isSome_readPlain?_signed _ fun negative => exists_readUnsigned?_digits negative _

theorem isSome_readPlain?_natural (value : Nat) :
    (readPlain? (toString value).toList).isSome = true :=
  isSome_readPlain?_repr value

theorem isSome_readPlain?_text (number : Float) :
    (readPlain? (text number).toList).isSome = true := by
  by_cases finite : number.isFinite = true
  · rcases exists_read?_text finite with ⟨numeral, read, _⟩
    exact isSome_readPlain?_of_read? read
  · rcases text_of_not_finite finite with ⟨written, _⟩ | ⟨written, _⟩ | ⟨written, _⟩ <;>
      rw [written] <;> decide

/-- Three digits or more are read with a point before the last two. -/
theorem exists_readUnsigned?_twoPlaces (negative : Bool) {digits : List Char}
    (allDigits : ∀ digit ∈ digits, isDigit digit = true) (long : 3 ≤ digits.length) :
    ∃ numeral, Numeral.readUnsigned? negative
      (digits.take (digits.length - 2) ++ '.' :: digits.drop (digits.length - 2)) =
        some numeral := by
  have given : digits.take (digits.length - 2) ≠ [] := by
    rw [← List.length_pos_iff, List.length_take]
    omega
  have read := Numeral.readUnsigned?_point negative _ (digits.drop (digits.length - 2)) []
    (fun digit member => allDigits digit (List.mem_of_mem_take member))
    (fun digit member => allDigits digit (List.mem_of_mem_drop member)) given nofun rfl
  rw [List.append_nil] at read
  exact ⟨_, read⟩

theorem isSome_readPlain?_twoPlaces (number : Float) :
    (readPlain? (twoPlaces number).toList).isSome = true := by
  rw [twoPlaces]
  split
  · decide
  · split
    · split <;> decide
    · dsimp only
      rw [String.toList_ofList]
      apply isSome_readPlain?_signed
      intro negative
      apply exists_readUnsigned?_twoPlaces
      · intro digit member
        exact (List.mem_append.mp member).elim isDigit_of_mem_replicate isDigit_of_mem_toDigits
      · rw [List.length_append, List.length_replicate]
        omega

end HybridSearch.Number

namespace HybridSearch

theorem Amount.isSome_readPlain?_text (amount : Amount) :
    (Number.readPlain? amount.text.toList).isSome = true := by
  cases amount with
  | integer value => exact Number.isSome_readPlain?_repr value
  | float value => exact Number.isSome_readPlain?_text value

end HybridSearch
