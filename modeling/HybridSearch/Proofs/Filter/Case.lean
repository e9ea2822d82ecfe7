import HybridSearch.Proofs.Filter.Substring
import HybridSearch.Text.Ascii

/-! The case of texts. A filter has its value in lower case by the full mapping, and the store knows
the case of ASCII letters only. So a filter does not find a text that differs from its value in case
alone, nor the value itself, where the text has a capital beyond ASCII. -/

namespace HybridSearch

namespace Text

/-! ## Two lower cases -/

/-- A capital that the store does not know: no ASCII character, and not its own lower-case form. -/
def IsForeignCapital (character : Char) : Prop :=
  isForeign character = true ∧ lowercase (String.singleton character) ≠ String.singleton character

instance (character : Char) : Decidable (IsForeignCapital character) :=
  inferInstanceAs (Decidable (_ ∧ _))

/-- A text has a capital that the store does not know. -/
def HasForeignCapital (text : String) : Prop :=
  ∃ character ∈ text.toList, IsForeignCapital character

instance (text : String) : Decidable (HasForeignCapital text) :=
  List.decidableBEx IsForeignCapital text.toList

theorem lowerSimple_of_ascii {character : Char} (ascii : isForeign character = false) :
    lowerSimple character = lowerAscii character := by
  have small : character.toNat < 128 := by simpa [isForeign] using ascii
  have all : ∀ code : Fin 128, lowerSimple (Char.ofNat code) = lowerAscii (Char.ofNat code) := by
    decide +kernel
  simpa using all ⟨character.toNat, small⟩

theorem lowerAscii_of_isForeign {character : Char} (foreign : isForeign character = true) :
    lowerAscii character = character := by
  refine if_neg fun capital => ?_
  have bound : character.toNat ≤ 90 := capital.2
  have large : 128 ≤ character.toNat := by simpa [isForeign] using foreign
  omega

theorem lowercase_singleton (character : Char) :
    lowercase (String.singleton character) = String.ofList (lowerAt false character []) := by
  simp [lowercase, lowerFrom]

/-- Whatever its neighbours are, a character becomes what the store makes of it unless it is a capital
that the store does not know. -/
theorem lowerAt_eq_singleton_iff (afterCased : Bool) (character : Char) (following : List Char) :
    lowerAt afterCased character following = [lowerAscii character] ↔
      ¬IsForeignCapital character := by
  by_cases dotted : character = 'İ'
  · subst dotted
    exact iff_of_false (by simp [lowerAt]) (not_not_intro (by decide +kernel))
  · by_cases sigma : character = 'Σ'
    · subst sigma
      refine iff_of_false ?_ (not_not_intro (by decide +kernel))
      cases final : afterCased && !startsCased following <;> simp [lowerAt, final] <;> decide
    · have alone : lowerAt false character [] = [lowerSimple character] := by
        rw [lowerAt, if_neg dotted, if_neg sigma]
      rw [lowerAt, if_neg dotted, if_neg sigma, List.cons.injEq]
      cases foreign : isForeign character with
      | false => simp [IsForeignCapital, foreign, lowerSimple_of_ascii foreign]
      | true =>
          simp [IsForeignCapital, foreign, lowerAscii_of_isForeign foreign, lowercase_singleton,
            alone, ← String.toList_inj]

theorem length_lowerAt_pos (afterCased : Bool) (character : Char) (following : List Char) :
    0 < (lowerAt afterCased character following).length := by
  rw [lowerAt]
  split
  · exact Nat.zero_lt_succ _
  · split <;> exact Nat.zero_lt_succ _

/-- The full mapping makes no text shorter. -/
theorem length_le_length_lowerFrom (afterCased : Bool) (characters : List Char) :
    characters.length ≤ (lowerFrom afterCased characters).length := by
  induction characters generalizing afterCased with
  | nil => exact Nat.zero_le _
  | cons character following induction =>
      have first := length_lowerAt_pos afterCased character following
      have rest := induction (if isCaseIgnorable character then afterCased else isCased character)
      rw [lowerFrom, List.length_append, List.length_cons]
      omega

/-- Both mappings agree on a text exactly when it has no capital that the store does not know. -/
theorem lowerFrom_eq_map_iff (afterCased : Bool) (characters : List Char) :
    lowerFrom afterCased characters = characters.map lowerAscii ↔
      ∀ character ∈ characters, ¬IsForeignCapital character := by
  induction characters generalizing afterCased with
  | nil => simp [lowerFrom]
  | cons character following induction =>
      have first := length_lowerAt_pos afterCased character following
      have rest := length_le_length_lowerFrom
        (if isCaseIgnorable character then afterCased else isCased character) following
      rw [lowerFrom, List.map_cons, List.forall_mem_cons,
        ← lowerAt_eq_singleton_iff afterCased character following,
        ← induction (if isCaseIgnorable character then afterCased else isCased character),
        ← List.singleton_append]
      constructor
      · intro same
        have lengths := congrArg List.length same
        simp only [List.length_append, List.length_singleton, List.length_map] at lengths
        exact List.append_inj same (by rw [List.length_singleton]; omega)
      · intro same
        rw [same.1, same.2]

theorem lowercase_eq_lowercaseAscii_iff (text : String) :
    lowercase text = lowercaseAscii text ↔ ¬HasForeignCapital text := by
  rw [lowercase, lowercaseAscii, String.ofList_inj, lowerFrom_eq_map_iff]
  simp [HasForeignCapital]

theorem length_le_length_lowercase (text : String) :
    text.length ≤ (lowercase text).length := by
  rw [← String.length_toList, ← String.length_toList, lowercase, String.toList_ofList]
  exact length_le_length_lowerFrom false text.toList

end Text

/-! ## Filters -/

/-- Whether an operator asks that the value is not found. -/
def TextOperator.isNegated : TextOperator → Bool
  | notEqual | notContains => true
  | _ => false

/-- What is sought in a text that is no longer than it is found only where it is the whole text. -/
theorem TextOperator.holds_predicate_of_length_le {dayOf? : Timestamp → Option Date} {tags : Tags}
    {position : Fin 7} {stored value : String} (filled : tags.texts.get position = some stored)
    (long : (Text.lowercaseAscii stored).length ≤ (Text.lowercase value).length)
    (operator : TextOperator) :
    (operator.predicate position value).holds dayOf? tags =
      some (decide (Text.lowercase value = Text.lowercaseAscii stored) ^^ operator.isNegated) := by
  rw [← String.length_toList, ← String.length_toList] at long
  have whole (found : (Text.lowercase value).toList <:+: (Text.lowercaseAscii stored).toList) :
      Text.lowercase value = Text.lowercaseAscii stored :=
    String.toList_inj.mp (found.eq_of_length_le long)
  have somewhere : (Text.lowercase value).toList <:+: (Text.lowercaseAscii stored).toList ↔
      Text.lowercase value = Text.lowercaseAscii stored :=
    ⟨whole, fun equal => by rw [equal]⟩
  have atBeginning : (Text.lowercase value).toList <+: (Text.lowercaseAscii stored).toList ↔
      Text.lowercase value = Text.lowercaseAscii stored :=
    ⟨fun found => whole found.isInfix, fun equal => by rw [equal]⟩
  have atEnd : (Text.lowercase value).toList <:+ (Text.lowercaseAscii stored).toList ↔
      Text.lowercase value = Text.lowercaseAscii stored :=
    ⟨fun found => whole found.isInfix, fun equal => by rw [equal]⟩
  rw [← Pattern.like_between_iff] at somewhere
  rw [← Pattern.like_before_iff] at atBeginning
  rw [← Pattern.like_behind_iff] at atEnd
  cases operator with
  | equal => simp [predicate, Predicate.holds, filled, isNegated, eq_comm]
  | notEqual => simp [predicate, Predicate.holds, filled, isNegated, eq_comm]
  | contains =>
      exact (Predicate.holds_textLike filled ..).trans (by simp [← somewhere, isNegated])
  | notContains =>
      exact (Predicate.holds_textLike filled ..).trans (by simp [← somewhere, isNegated])
  | startsWith =>
      exact (Predicate.holds_textLike filled ..).trans (by simp [← atBeginning, isNegated])
  | endsWith => exact (Predicate.holds_textLike filled ..).trans (by simp [← atEnd, isNegated])

namespace Compiled

/-- A filter finds the texts that differ from its value in case alone, and those whose lower case by
the full mapping is the same, exactly when they have no capital that the store does not know. From a
text with such a capital it takes every value to be different. -/
theorem case_ignored_unless_foreign (dayOf? : Timestamp → Option Date) (tags : Tags)
    (position : Fin 7) (stored value : String) (valueTo : Json)
    (filled : tags.texts.get position = some stored)
    (same : Text.lowercase stored = Text.lowercase value) (operator : TextOperator) :
    ofFilters [.onText position operator value valueTo] =
      .ok ⟨[⟨operator.predicate position value, []⟩], []⟩ ∧
    (operator.predicate position value).holds dayOf? tags =
      some (if Text.HasForeignCapital stored then operator.isNegated else !operator.isNegated) := by
  have long : (Text.lowercaseAscii stored).length ≤ (Text.lowercase value).length := by
    have longer := Text.length_le_length_lowercase stored
    rw [← same]
    simpa [Text.lowercaseAscii, ← String.length_toList] using longer
  refine ⟨ofFilters_onText position operator value valueTo, ?_⟩
  have known := Text.lowercase_eq_lowercaseAscii_iff stored
  rw [same] at known
  simp only [TextOperator.holds_predicate_of_length_le filled long, known]
  split <;> simp [*]

/-- Tags with a capital beyond ASCII in the text slots. -/
def accentedTags : Tags :=
  { Tags.empty with texts := Vector.replicate 7 (some "École A") }

/-- A text with an accented capital is not found by itself, nor by what it is in lower case. -/
theorem accentedTags_not_found : accentedTags.texts.get 0 = some "École A" ∧
    Text.lowercase "École A" = Text.lowercase "éCOLE a" ∧
    (TextOperator.equal.predicate 0 "École A").holds (Timestamp.day? false) accentedTags =
      some false ∧
    (TextOperator.startsWith.predicate 0 "éCOLE a").holds (Timestamp.day? false) accentedTags =
      some false ∧
    (TextOperator.notContains.predicate 0 "éCOLE a").holds (Timestamp.day? false) accentedTags =
      some true := by
  have filled : accentedTags.texts.get 0 = some "École A" := by rfl
  have same : Text.lowercase "École A" = Text.lowercase "éCOLE a" := by decide +kernel
  have foreign : Text.HasForeignCapital "École A" := by decide +kernel
  have found (value : String) (equal : Text.lowercase "École A" = Text.lowercase value)
      (operator : TextOperator) :
      (operator.predicate 0 value).holds (Timestamp.day? false) accentedTags =
        some operator.isNegated :=
    have given := case_ignored_unless_foreign (Timestamp.day? false) accentedTags 0 "École A" value
      .null filled equal operator
    given.2.trans (congrArg some (if_pos foreign))
  exact ⟨filled, same, found _ rfl .equal, found _ same .startsWith, found _ same .notContains⟩

/-- Not every text is found whatever its case is. -/
theorem not_all_cases_ignored : ¬∀ (dayOf? : Timestamp → Option Date) (tags : Tags)
    (position : Fin 7) (stored value : String), tags.texts.get position = some stored →
      Text.lowercase stored = Text.lowercase value → ∀ operator : TextOperator,
        (operator.predicate position value).holds dayOf? tags = some !operator.isNegated := by
  intro all
  have found := all (Timestamp.day? false) accentedTags 0 "École A" "École A" rfl rfl .equal
  have missed : (TextOperator.equal.predicate 0 "École A").holds (Timestamp.day? false)
      accentedTags = some false := by decide +kernel
  cases missed.symm.trans found

end Compiled

end HybridSearch
