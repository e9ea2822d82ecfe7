import Mathlib.Data.List.DropRight
import HybridSearch.Proofs.Calendar.Standard
import HybridSearch.Proofs.Filter.Overflow
import HybridSearch.Proofs.Json

/-! What the values of filters stand for: the numbers, the dates and the truth values that filters are
read with. Whatever is neither a number nor a text is read by its text, and that is the text of no
number and of no date. -/

namespace HybridSearch

open HybridSearch.Text

/-- The first character stays when blanks are removed from both ends, unless it is blank itself. -/
theorem Text.exists_trimBlank_cons {first : Char} (notBlank : isBlank first = false)
    (rest : List Char) : ∃ inner, trimBlank (first :: rest) = first :: inner := by
  rw [trimBlank, trimBoth, List.dropWhile_cons_of_neg (by simp [notBlank])]
  have front := List.rdropWhile_prefix isBlank (first :: rest)
  cases kept : (first :: rest).rdropWhile isBlank with
  | nil =>
      have blank := List.rdropWhile_eq_nil_iff.mp kept first (List.mem_cons_self ..)
      cases blank.symm.trans notBlank
  | cons start inner =>
      rw [kept, List.cons_prefix_cons] at front
      exact ⟨inner, kept.trans (by rw [front.1])⟩

namespace Number

open Float.Model (Format UnpackedFloat)
open Float.Model.UnpackedFloat

theorem isNaN_eq_false_of_unpack_ne {number : Float}
    (isNumber : number.toModel.unpack ≠ .notANumber) : number.isNaN = false := by
  change number.toModel.unpack.isNaN = false
  cases unpacked : number.toModel.unpack with
  | notANumber => exact absurd unpacked isNumber
  | _ => rfl

theorem isFinite_neg {number : Float} (finite : number.isFinite = true) :
    (-number).isFinite = true := by
  have unpackedFinite : number.toModel.unpack.isFinite = true := finite
  have canonical := isCanonical_unpack number
  have negated : (-number).toModel.unpack =
      unpack Format.binary64 (pack Format.binary64 number.toModel.unpack.neg) := rfl
  rw [isFinite_iff]
  constructor
  · refine isNaN_eq_false_of_unpack_ne ?_
    rw [negated]
    refine unpack_pack_ne_notANumber ?_
    revert unpackedFinite
    cases number.toModel.unpack with
    | notANumber => exact fun finite => absurd finite Bool.false_ne_true
    | _ => exact fun _ => nofun
  · change (-number).toModel.unpack.isInf = false
    rw [negated]
    revert unpackedFinite canonical
    cases number.toModel.unpack with
    | notANumber => exact fun finite _ => absurd finite Bool.false_ne_true
    | infinity sign => exact fun finite _ => absurd finite Bool.false_ne_true
    | zero sign => cases sign <;> exact fun _ _ => by decide
    | finite sign mantissa exponent positive =>
        intro _ canonical
        have bounded : ¬972 ≤ exponent := by
          have := canonical.highest
          omega
        exact Bool.eq_false_iff.mpr fun infinite =>
          bounded ((isInf_unpack_pack_iff _ positive).mp infinite)

/-- What an integer has near it is finite. -/
theorem isFinite_of_ofInteger? {integer : Int} {number : Float}
    (near : ofInteger? integer = some number) : number.isFinite = true := by
  have isNumber := isNaN_eq_false_of_unpack_ne (isNumber_ofScientific integer.natAbs)
  rw [ofInteger?] at near
  split at near
  · cases near
  · next bounded =>
      have finite := isFinite_iff.mpr ⟨isNumber, Bool.eq_false_iff.mpr bounded⟩
      cases near
      split
      · exact isFinite_neg finite
      · exact finite

theorem readPlain?_bracketed {bracket : Char} (opening : bracket = '[' ∨ bracket = '\x7b')
    (rest : List Char) : readPlain? (bracket :: rest) = none := by
  rcases opening with rfl | rfl <;> simp [readPlain?, Numeral.read?, Numeral.splitSign,
    readWord?, isDigit, asciiDigit?]

/-- No number is written with an opening bracket in front. -/
theorem readValue?_bracketed {bracket : Char} (opening : bracket = '[' ∨ bracket = '\x7b')
    (rest : List Char) : readValue? (String.ofList (bracket :: rest)) = none := by
  have notBlank : isBlank bracket = false := by rcases opening with rfl | rfl <;> decide
  have plain : asciiForm bracket = bracket := by rcases opening with rfl | rfl <;> decide
  have notMark : bracket ≠ '_' := by rcases opening with rfl | rfl <;> decide
  rcases exists_trimBlank_cons notBlank rest with ⟨inner, trimmed⟩
  rw [readValue?, String.toList_ofList, trimmed, List.map_cons, plain, joinDigits?, if_neg notMark]
  · cases joinDigits? (isDigit bracket) (inner.map asciiForm) with
    | none => rfl
    | some text => exact readPlain?_bracketed opening text
  · exact fun _ _ same => absurd same notMark

end Number

namespace Json

/-- The finite number that a value stands for: the one near an integer, a binary number itself, and
the number that a text is the text of. No other value stands for a number. -/
def StandsForNumber (value : Json) (number : Float) : Prop :=
  match value with
  | .integer whole => Number.ofInteger? whole = some number
  | .float given => given = number ∧ number.isFinite = true
  | .string text => Number.readValue? text = some number ∧ number.isFinite = true
  | _ => False

/-- A value stands for a date only by being the text of it. -/
def StandsForDate (value : Json) (date : Date) : Prop :=
  value = .string (String.ofList date.text)

theorem StandsForNumber.isFinite {value : Json} {number : Float}
    (stands : value.StandsForNumber number) : number.isFinite = true := by
  cases value with
  | integer whole => exact Number.isFinite_of_ofInteger? stands
  | float given => exact stands.2
  | string text => exact stands.2
  | _ => exact stands.elim

theorem filterNumber?_eq_some_iff {value : Json} {number : Float} :
    value.filterNumber? = .ok (some number) ↔ value.StandsForNumber number := by
  cases value with
  | integer whole =>
      unfold filterNumber? StandsForNumber
      cases found : Number.ofInteger? whole <;> simp [found]
  | float given =>
      simp only [filterNumber?, StandsForNumber, Except.ok.injEq, Option.filter_eq_some_iff,
        Option.some.injEq]
  | string text =>
      simp [filterNumber?, StandsForNumber, Json.text, Option.filter_eq_some_iff]
  | array items =>
      have unread : Number.readValue? (array items).text = none := by
        rw [text_array]
        exact Number.readValue?_bracketed (.inl rfl) _
      simp [filterNumber?, StandsForNumber, unread]
  | object members =>
      have unread : Number.readValue? (object members).text = none := by
        rw [text_object]
        exact Number.readValue?_bracketed (.inr rfl) _
      simp [filterNumber?, StandsForNumber, unread]
  | null => simp [filterNumber?, StandsForNumber]
  | bool => simp [filterNumber?, StandsForNumber]

/-- What is written with something else than digits and dashes is no date. -/
theorem ne_date_text {text : String} {date : Date}
    (other : ∃ character ∈ text.toList, character.isDigit = false ∧ character ≠ '-') :
    text.toList ≠ date.text := by
  intro same
  rcases other with ⟨character, member, notDigit, notDash⟩
  rw [same] at member
  exact (date.mem_text member).elim (by simp [notDigit]) notDash

/-- An integer is written with one dash at most. -/
theorem repr_ne_date_text (value : Int) (date : Date) : value.repr.toList ≠ date.text := by
  have digits (whole : Nat) : (Nat.toDigits 10 whole).count '-' = 0 :=
    List.count_eq_zero.mpr fun member =>
      absurd (Nat.isDigit_of_mem_toDigits (by decide) (by decide) member) (by decide)
  intro same
  have dashes := date.count_dash_text
  rw [← same, Int.repr_eq_if] at dashes
  split at dashes <;> simp [digits] at dashes

/-- No value but a text is written as a date. -/
theorem text_ne_date_text {value : Json} (notText : ∀ text, value ≠ .string text) (date : Date) :
    value.text.toList ≠ date.text := by
  cases value with
  | null => exact ne_date_text ⟨'N', by decide⟩
  | bool value =>
      rw [text_bool]
      exact ne_date_text (exists_mem_boolText value)
  | integer value =>
      rw [text_integer]
      exact repr_ne_date_text value date
  | float value =>
      rw [text_float]
      exact ne_date_text (Number.exists_mem_text value)
  | string text => exact absurd rfl (notText text)
  | array items =>
      rw [text_array]
      exact ne_date_text ⟨'[', by simp, by decide⟩
  | object members =>
      rw [text_object]
      exact ne_date_text ⟨'\x7b', by simp, by decide⟩

/-- A value is read as a date exactly when its text is the written form of the date. -/
theorem filterDate?_eq_some_iff_text {value : Json} {date : Date} :
    value.filterDate? = some date ↔ value.text.toList = date.text := by
  rw [← Date.outlined_and_read_iff]
  by_cases isNull : value = .null
  · subst isNull
    rw [Date.outlined_and_read_iff]
    exact iff_of_false nofun (ne_date_text ⟨'N', by decide⟩)
  · rw [filterDate?.eq_2 value isNull, Option.ite_none_right_eq_some]

theorem filterDate?_eq_some_iff {value : Json} {date : Date} :
    value.filterDate? = some date ↔ value.StandsForDate date := by
  rw [filterDate?_eq_some_iff_text, StandsForDate]
  by_cases isText : ∃ text, value = .string text
  · rcases isText with ⟨text, rfl⟩
    rw [Json.text, Json.string.injEq, ← String.toList_inj, String.toList_ofList]
  · have noText (text : String) : value ≠ .string text := fun same => isText ⟨text, same⟩
    exact iff_of_false (text_ne_date_text noText date) (noText _)

end Json

end HybridSearch
