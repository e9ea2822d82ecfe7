import HybridSearch.Proofs.Filter.Reading
import HybridSearch.Proofs.Pattern
import HybridSearch.Predicate.Compile
import HybridSearch.Predicate.Truth

/-! Filters that look for a text inside another one. Whatever the value of such a filter is, wild
cards and escape characters among it, it stands for itself. -/

namespace HybridSearch

/-- A filter with a text on a text slot. -/
def RawFilter.onText (position : Fin 7) (operator : TextOperator) (value : String)
    (valueTo : Json) : RawFilter where
  slot := (Slot.text position).name
  fieldType := (Slot.text position).fieldType.name
  operator := operator.name
  value := .string value
  valueTo := valueTo

@[simp] theorem TextOperator.ofName?_name (operator : TextOperator) :
    ofName? operator.name = some operator := by
  cases operator <;> decide

theorem RawFilter.read_onText (position : Fin 7) (operator : TextOperator) (value : String)
    (valueTo : Json) :
    (onText position operator value valueTo).read = .ok (.kept (.text position operator value)) := by
  simp [onText, read, readText, Json.text]

/-- A filter with a text on a text slot is never dropped, and is all of what it is compiled to. -/
theorem Compiled.ofFilters_onText (position : Fin 7) (operator : TextOperator) (value : String)
    (valueTo : Json) :
    ofFilters [.onText position operator value valueTo] =
      .ok ⟨[⟨operator.predicate position value, []⟩], []⟩ := by
  have grouped : groups [.onText position operator value valueTo] =
      [[.onText position operator value valueTo]] := by
    simp [groups, List.eraseDups_cons]
  have read : [[RawFilter.onText position operator value valueTo]].mapM
      (List.mapM RawFilter.read) = .ok [[.kept (.text position operator value)]] := by
    simp [RawFilter.read_onText]
  rw [ofFilters, grouped, read]
  rfl

/-- A pattern is known to hold or not of a slot that is not empty. -/
theorem Predicate.holds_textLike {dayOf? : Timestamp → Option Date} {tags : Tags}
    {position : Fin 7} {stored : String} (filled : tags.texts.get position = some stored)
    (negated : Bool) (pattern : Pattern) :
    (textLike position negated pattern).holds dayOf? tags =
      some (Pattern.like (Text.lowercaseAscii stored).toList pattern ^^ negated) := by
  rw [holds, filled, Option.map_some]

/-- Looking for a text is exact: a filter with any text for its value is compiled to one predicate,
which on a slot that is not empty is known to be true or false, and is true exactly when the text of
the slot, in the lower case of the store, has the value, in lower case by the full mapping, somewhere
in it, nowhere in it, at its beginning, or at its end. -/
theorem Compiled.substring_exact (dayOf? : Timestamp → Option Date) (tags : Tags)
    (position : Fin 7) (stored value : String) (valueTo : Json)
    (filled : tags.texts.get position = some stored) :
    let wanted := (Text.lowercase value).toList
    let found := (Text.lowercaseAscii stored).toList
    let predicate (operator : TextOperator) := operator.predicate position value
    (∀ operator, ofFilters [.onText position operator value valueTo] =
      .ok ⟨[⟨predicate operator, []⟩], []⟩) ∧
    (predicate .contains).holds dayOf? tags = some (decide (wanted <:+: found)) ∧
    (predicate .notContains).holds dayOf? tags = some (decide ¬(wanted <:+: found)) ∧
    (predicate .startsWith).holds dayOf? tags = some (decide (wanted <+: found)) ∧
    (predicate .endsWith).holds dayOf? tags = some (decide (wanted <:+ found)) := by
  intro wanted found predicate
  have somewhere := Pattern.like_between_iff wanted found
  have atBeginning := Pattern.like_before_iff wanted found
  have atEnd := Pattern.like_behind_iff wanted found
  refine ⟨fun operator => ofFilters_onText position operator value valueTo, ?_, ?_, ?_, ?_⟩
  · exact (Predicate.holds_textLike filled ..).trans (by simp [← somewhere, found, wanted])
  · exact (Predicate.holds_textLike filled ..).trans (by simp [← somewhere, found, wanted])
  · exact (Predicate.holds_textLike filled ..).trans (by simp [← atBeginning, found, wanted])
  · exact (Predicate.holds_textLike filled ..).trans (by simp [← atEnd, found, wanted])

/-- Tags with wild cards and escape characters in the text slots. -/
def wildTags : Tags :=
  { Tags.empty with texts := Vector.replicate 7 (some "A%_//") }

/-- Wild cards and a run of escape characters are found as they stand, at the end of a text and not
at its beginning. -/
theorem Compiled.wildTags_end_in_value : wildTags.texts.get 0 = some "A%_//" ∧
    (∀ operator, ofFilters [.onText 0 operator "%_//" .null] =
      .ok ⟨[⟨operator.predicate 0 "%_//", []⟩], []⟩) ∧
    (TextOperator.contains.predicate 0 "%_//").holds (Timestamp.day? false) wildTags = some true ∧
    (TextOperator.notContains.predicate 0 "%_//").holds (Timestamp.day? false) wildTags = some false ∧
    (TextOperator.startsWith.predicate 0 "%_//").holds (Timestamp.day? false) wildTags = some false ∧
    (TextOperator.endsWith.predicate 0 "%_//").holds (Timestamp.day? false) wildTags = some true :=
  have filled : wildTags.texts.get 0 = some "A%_//" := by rfl
  have exact := substring_exact (Timestamp.day? false) wildTags 0 "A%_//" "%_//" .null filled
  ⟨filled, exact.1, exact.2.1.trans (by decide), exact.2.2.1.trans (by decide),
    exact.2.2.2.1.trans (by decide), exact.2.2.2.2.trans (by decide)⟩

end HybridSearch
