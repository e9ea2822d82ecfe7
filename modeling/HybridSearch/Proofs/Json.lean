import HybridSearch.Json.Comparison
import HybridSearch.Proofs.Amount
import HybridSearch.Proofs.Number.Text
import Std.Data.String.ToInt

/-! Values that stand for numbers. They are compared by the numbers, and those that are written alike
stand for one. -/

namespace HybridSearch.Json

theorem precedes_of_amounts (order : Order) {left right : Json} {first second : Amount}
    (leftAmount : left.amount? = some first) (rightAmount : right.amount? = some second) :
    left.precedes order right = .ok (order.ofAmounts first second) := by
  cases left <;> cases right <;> simp_all [precedes, stand, amount?]

theorem text_integer (value : Int) : (integer value).text = value.repr := by
  rw [text, nestedText, String.ofList_toList]
  · rfl
  · rintro _ ⟨⟩

theorem text_float (value : Float) : (float value).text = Number.text value := by
  rw [text, nestedText, String.ofList_toList]
  rintro _ ⟨⟩

theorem text_bool (value : Bool) : (bool value).text = boolText value := by
  rw [text, nestedText, String.ofList_toList]
  rintro _ ⟨⟩

theorem text_array (items : List Json) :
    (array items).text = String.ofList ('[' :: separated (itemTexts items) ++ [']']) := by
  rw [text, nestedText]
  rintro _ ⟨⟩

theorem text_object (members : List (String × Json)) :
    (object members).text =
      String.ofList ('\x7b' :: separated (memberTexts members) ++ ['\x7d']) := by
  rw [text, nestedText]
  rintro _ ⟨⟩

theorem isDigit_of_mem_repr {value : Int} {character : Char} (member : character ∈ value.repr.toList) :
    character.isDigit = true ∨ character = '-' := by
  have digits (whole : Nat) (among : character ∈ whole.repr.toList) : character.isDigit = true := by
    rw [Nat.toList_repr] at among
    exact Nat.isDigit_of_mem_toDigits (by decide) (by decide) among
  rw [Int.repr_eq_if] at member
  split at member
  · exact .inl (digits _ member)
  · rw [String.toList_append, List.mem_append] at member
    exact member.elim (fun sign => .inr (List.mem_singleton.mp sign)) fun among =>
      .inl (digits _ among)

/-- An integer is written otherwise than a binary number or a truth value. -/
theorem repr_ne {value : Int} {text : String}
    (other : ∃ character ∈ text.toList, character.isDigit = false ∧ character ≠ '-') :
    value.repr ≠ text := by
  rintro rfl
  rcases other with ⟨character, member, notDigit, notSign⟩
  exact (isDigit_of_mem_repr member).elim (by simp [notDigit]) notSign

/-- A binary number is written as a numeral or as one of three words. -/
theorem number_text_ne {value : Float} {text : String}
    (unread : Number.Numeral.read? text.toList = none) (notNumber : text ≠ "nan")
    (notAbove : text ≠ "inf") (notBelow : text ≠ "-inf") : Number.text value ≠ text := by
  rintro rfl
  by_cases finite : value.isFinite = true
  · rcases Number.exists_read?_text finite with ⟨numeral, read, _⟩
    cases read.symm.trans unread
  · rcases Number.text_of_not_finite finite with ⟨written, _⟩ | ⟨written, _⟩ | ⟨written, _⟩
    · exact notNumber written
    · exact notAbove written
    · exact notBelow written

theorem exists_mem_boolText (value : Bool) :
    ∃ character ∈ (boolText value).toList, character.isDigit = false ∧ character ≠ '-' := by
  cases value <;> exact ⟨'e', by decide⟩

theorem number_text_ne_boolText (number : Float) (value : Bool) :
    Number.text number ≠ boolText value := by
  cases value <;> exact number_text_ne (by decide) (by decide) (by decide) (by decide)

/-- Values that are written alike stand for one number. -/
theorem value?_eq_of_text_eq : ∀ {left right : Json} {low high : Amount},
    left.amount? = some low → right.amount? = some high → left.text = right.text →
      low.value? = high.value?
  | .bool first, .bool second, _, _, rfl, rfl, same => by
      rw [text_bool, text_bool] at same
      cases first <;> cases second <;> first | rfl | exact absurd same (by decide)
  | .bool first, .integer second, _, _, _, _, same => by
      rw [text_bool, text_integer] at same
      exact absurd same.symm (repr_ne (exists_mem_boolText first))
  | .bool first, .float second, _, _, _, _, same => by
      rw [text_bool, text_float] at same
      exact absurd same.symm (number_text_ne_boolText second first)
  | .integer first, .bool second, _, _, _, _, same => by
      rw [text_bool, text_integer] at same
      exact absurd same (repr_ne (exists_mem_boolText second))
  | .integer first, .integer second, _, _, rfl, rfl, same => by
      rw [text_integer, text_integer] at same
      rw [Int.repr_injective same]
  | .integer first, .float second, _, _, _, _, same => by
      rw [text_integer, text_float] at same
      exact absurd same (repr_ne (Number.exists_mem_text second))
  | .float first, .bool second, _, _, _, _, same => by
      rw [text_bool, text_float] at same
      exact absurd same (number_text_ne_boolText first second)
  | .float first, .integer second, _, _, _, _, same => by
      rw [text_integer, text_float] at same
      exact absurd same.symm (repr_ne (Number.exists_mem_text first))
  | .float first, .float second, _, _, rfl, rfl, same => by
      rw [text_float, text_float] at same
      exact Number.value?_eq_of_text_eq same

/-- A number that is less than another one is written otherwise. -/
theorem text_ne_of_less {left right : Json} (leftNumeric : left.amount?.isSome = true)
    (rightNumeric : right.amount?.isSome = true) (less : left.precedes .less right = .ok true) :
    left.text ≠ right.text := by
  intro same
  rcases Option.isSome_iff_exists.mp leftNumeric with ⟨low, lowAmount⟩
  rcases Option.isSome_iff_exists.mp rightNumeric with ⟨high, highAmount⟩
  rw [precedes_of_amounts _ lowAmount highAmount, Except.ok.injEq, Order.ofAmounts,
    Amount.not_less_of_value?_eq (value?_eq_of_text_eq lowAmount highAmount same)] at less
  cases less

/-- The text of no number is the name of the bucket above all bounds. -/
theorem text_ne_infinity {value : Json} (numeric : value.amount?.isSome = true) :
    value.text ≠ "+Inf" := by
  cases value with
  | bool value =>
      rw [text_bool]
      cases value <;> decide
  | integer value =>
      rw [text_integer]
      exact repr_ne ⟨'+', by decide⟩
  | float value =>
      rw [text_float]
      exact number_text_ne (by decide) (by decide) (by decide) (by decide)
  | _ => cases numeric

end HybridSearch.Json
