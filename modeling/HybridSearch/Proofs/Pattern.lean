import HybridSearch.Pattern
import Mathlib.Data.List.Infix

/-! What patterns match, said without reading them into pieces, and what an escaped text matches:
itself, wherever the wild cards around it leave it. -/

namespace HybridSearch.Pattern

/-! ## The meaning of patterns -/

/-- Whether a text is one of those that the characters of a pattern describe. A pattern that ends
in a single escape character describes nothing. -/
inductive Matches : List Char → List Char → Prop where
  | nil : Matches [] []
  | escaped {pattern text : List Char} (character : Char) (behind : Matches pattern text) :
      Matches (escape :: character :: pattern) (character :: text)
  | anyOne {pattern text : List Char} (character : Char) (behind : Matches pattern text) :
      Matches ('_' :: pattern) (character :: text)
  | anyRun {pattern text : List Char} (run : List Char) (behind : Matches pattern text) :
      Matches ('%' :: pattern) (run ++ text)
  | plain {pattern text : List Char} {character : Char} (ordinary : character ≠ escape)
      (notRun : character ≠ '%') (notOne : character ≠ '_') (behind : Matches pattern text) :
      Matches (character :: pattern) (character :: text)

/-- Whether a character follows every escape character that is not escaped itself. -/
def Complete : List Char → Prop
  | [] => True
  | [character] => character ≠ escape
  | character :: next :: rest =>
      if character = escape then Complete rest else Complete (next :: rest)

@[simp] theorem matches_nil_iff (text : List Char) : Matches [] text ↔ text = [] := by
  constructor
  · intro matched
    cases matched
    rfl
  · intro same
    exact same ▸ .nil

theorem matches_escape_iff (character : Char) (pattern text : List Char) :
    Matches (escape :: character :: pattern) text ↔
      ∃ behind, text = character :: behind ∧ Matches pattern behind := by
  constructor
  · intro matched
    cases matched with
    | escaped _ behind => exact ⟨_, rfl, behind⟩
    | plain ordinary => exact absurd rfl ordinary
  · intro matched
    rcases matched with ⟨behind, rfl, matched⟩
    exact .escaped character matched

theorem matches_anyOne_iff (pattern text : List Char) :
    Matches ('_' :: pattern) text ↔
      ∃ character behind, text = character :: behind ∧ Matches pattern behind := by
  constructor
  · intro matched
    cases matched with
    | anyOne character behind => exact ⟨character, _, rfl, behind⟩
    | plain _ _ notOne => exact absurd rfl notOne
  · intro matched
    rcases matched with ⟨character, behind, rfl, matched⟩
    exact .anyOne character matched

theorem matches_anyRun_iff (pattern text : List Char) :
    Matches ('%' :: pattern) text ↔
      ∃ run behind, text = run ++ behind ∧ Matches pattern behind := by
  constructor
  · intro matched
    cases matched with
    | anyRun run behind => exact ⟨run, _, rfl, behind⟩
    | plain _ notRun => exact absurd rfl notRun
  · intro matched
    rcases matched with ⟨run, behind, rfl, matched⟩
    exact .anyRun run matched

theorem matches_plain_iff {character : Char} (ordinary : character ≠ escape)
    (notRun : character ≠ '%') (notOne : character ≠ '_') (pattern text : List Char) :
    Matches (character :: pattern) text ↔
      ∃ behind, text = character :: behind ∧ Matches pattern behind := by
  constructor
  · intro matched
    cases matched with
    | escaped => exact absurd rfl ordinary
    | anyOne => exact absurd rfl notOne
    | anyRun => exact absurd rfl notRun
    | plain _ _ _ behind => exact ⟨_, rfl, behind⟩
  · intro matched
    rcases matched with ⟨behind, rfl, matched⟩
    exact .plain ordinary notRun notOne matched

/-! ## The matcher -/

theorem someEnd_iff (test : List Char → Bool) (text : List Char) :
    someEnd test text = true ↔ ∃ run behind, text = run ++ behind ∧ test behind = true := by
  induction text with
  | nil => simp [someEnd]
  | cons character rest induction =>
      rw [someEnd, Bool.or_eq_true, induction]
      constructor
      · intro passed
        rcases passed with passed | ⟨run, behind, rfl, passed⟩
        · exact ⟨[], character :: rest, rfl, passed⟩
        · exact ⟨character :: run, behind, rfl, passed⟩
      · intro passed
        rcases passed with ⟨_ | ⟨first, run⟩, behind, split, passed⟩
        · exact .inl (split ▸ passed)
        · cases split
          exact .inr ⟨run, behind, rfl, passed⟩

theorem accepts_exactly_iff (character : Char) (pieces : List Piece) (text : List Char) :
    accepts (.exactly character :: pieces) text = true ↔
      ∃ behind, text = character :: behind ∧ accepts pieces behind = true := by
  cases text with
  | nil => simp [accepts]
  | cons first rest =>
      simp only [accepts, Bool.and_eq_true, decide_eq_true_eq, List.cons.injEq]
      constructor
      · intro accepted
        exact ⟨rest, ⟨accepted.1.symm, rfl⟩, accepted.2⟩
      · intro accepted
        rcases accepted with ⟨_, ⟨rfl, rfl⟩, accepted⟩
        exact ⟨rfl, accepted⟩

theorem accepts_anyOne_iff (pieces : List Piece) (text : List Char) :
    accepts (.anyOne :: pieces) text = true ↔
      ∃ character behind, text = character :: behind ∧ accepts pieces behind = true := by
  cases text <;> simp [accepts]

theorem accepts_anyRun_iff (pieces : List Piece) (text : List Char) :
    accepts (.anyRun :: pieces) text = true ↔
      ∃ run behind, text = run ++ behind ∧ accepts pieces behind = true := by
  rw [accepts, someEnd_iff]

/-- The matcher accepts exactly what a pattern describes, unless the pattern ends in a single escape
character. -/
theorem accepts_pieces_iff {pattern : List Char} (complete : Complete pattern)
    (text : List Char) : accepts (pieces pattern) text = true ↔ Matches pattern text := by
  induction pattern using pieces.induct generalizing text with
  | case1 => simp [pieces, accepts]
  | case2 => simp [pieces, accepts, someEnd_iff, matches_anyRun_iff]
  | case3 => simp [pieces, accepts_anyOne_iff, matches_anyOne_iff, accepts]
  | case4 character notRun notOne =>
      simp [pieces, notRun, notOne, accepts_exactly_iff, matches_plain_iff complete, accepts]
  | case5 next rest induction =>
      rw [Complete, if_pos rfl] at complete
      simp [pieces, accepts_exactly_iff, matches_escape_iff, induction complete]
  | case6 next rest ordinary induction =>
      rw [Complete, if_neg ordinary] at complete
      simp [pieces, ordinary, accepts_anyRun_iff, matches_anyRun_iff, induction complete]
  | case7 next rest ordinary notRun induction =>
      rw [Complete, if_neg ordinary] at complete
      simp [pieces, ordinary, accepts_anyOne_iff, matches_anyOne_iff, induction complete]
  | case8 character next rest ordinary notRun notOne induction =>
      rw [Complete, if_neg ordinary] at complete
      simp [pieces, ordinary, notRun, notOne, accepts_exactly_iff, matches_plain_iff,
        induction complete]

/-! ## Escaped texts -/

theorem complete_cons_iff {character : Char} (ordinary : character ≠ escape)
    (pattern : List Char) : Complete (character :: pattern) ↔ Complete pattern := by
  cases pattern with
  | nil => simp [Complete, ordinary]
  | cons next rest => rw [Complete, if_neg ordinary]

/-- An escaped text is complete with whatever complete pattern stands behind it: the escape
characters in it come in pairs with what they escape. -/
theorem complete_escaped_append (value : List Char) {rest : List Char}
    (complete : Complete rest) : Complete (escaped value ++ rest) := by
  induction value with
  | nil => exact complete
  | cons character value induction =>
      rw [escaped]
      split
      · rw [List.cons_append, List.cons_append, Complete, if_pos rfl]
        exact induction
      · next ordinary =>
          rw [List.cons_append, complete_cons_iff fun same => ordinary (.inl same)]
          exact induction

theorem complete_characters (anyBefore anyAfter : Bool) (value : List Char) :
    Complete (Pattern.characters ⟨anyBefore, escaped value, anyAfter⟩) := by
  have behind : Complete (if anyAfter then ['%'] else []) := by
    cases anyAfter <;> simp [Complete, escape]
  have complete := complete_escaped_append value behind
  cases anyBefore with
  | false => exact complete
  | true =>
      have ordinary : '%' ≠ escape := by decide
      exact (complete_cons_iff ordinary _).mpr complete

/-- An escaped text matches itself and nothing else, whatever pattern stands behind it. -/
theorem matches_escaped_append_iff (value rest text : List Char) :
    Matches (escaped value ++ rest) text ↔
      ∃ behind, text = value ++ behind ∧ Matches rest behind := by
  induction value generalizing text with
  | nil => simp [escaped]
  | cons character value induction =>
      have single : Matches (escaped (character :: value) ++ rest) text ↔
          ∃ behind, text = character :: behind ∧ Matches (escaped value ++ rest) behind := by
        rw [escaped]
        split
        · exact matches_escape_iff ..
        · next ordinary =>
            simp only [not_or] at ordinary
            exact matches_plain_iff ordinary.1 ordinary.2.1 ordinary.2.2 ..
      rw [single]
      constructor
      · intro matched
        rcases matched with ⟨_, rfl, matched⟩
        rcases (induction _).mp matched with ⟨behind, rfl, matchedBehind⟩
        exact ⟨behind, rfl, matchedBehind⟩
      · intro matched
        rcases matched with ⟨behind, rfl, matched⟩
        exact ⟨value ++ behind, rfl, (induction _).mpr ⟨behind, rfl, matched⟩⟩

theorem matches_anyRun (text : List Char) : Matches ['%'] text :=
  List.append_nil text ▸ .anyRun text .nil

theorem like_iff_matches (anyBefore anyAfter : Bool) (value text : List Char) :
    like text ⟨anyBefore, escaped value, anyAfter⟩ = true ↔
      Matches (Pattern.characters ⟨anyBefore, escaped value, anyAfter⟩) text :=
  accepts_pieces_iff (complete_characters anyBefore anyAfter value) text

/-- Between two wild cards an escaped text matches where it stands anywhere in a text. -/
theorem like_between_iff (value text : List Char) :
    like text ⟨true, escaped value, true⟩ = true ↔ value <:+: text := by
  rw [like_iff_matches]
  show Matches ('%' :: (escaped value ++ ['%'])) text ↔ _
  rw [matches_anyRun_iff]
  simp only [matches_escaped_append_iff]
  constructor
  · intro matched
    rcases matched with ⟨before, _, rfl, behind, rfl, _⟩
    exact ⟨before, behind, List.append_assoc ..⟩
  · intro found
    rcases found with ⟨before, behind, rfl⟩
    exact ⟨before, value ++ behind, List.append_assoc .., behind, rfl, matches_anyRun behind⟩

/-- Before a wild card an escaped text matches where a text begins with it. -/
theorem like_before_iff (value text : List Char) :
    like text ⟨false, escaped value, true⟩ = true ↔ value <+: text := by
  rw [like_iff_matches]
  show Matches (escaped value ++ ['%']) text ↔ _
  rw [matches_escaped_append_iff]
  constructor
  · intro matched
    rcases matched with ⟨behind, rfl, _⟩
    exact ⟨behind, rfl⟩
  · intro found
    rcases found with ⟨behind, rfl⟩
    exact ⟨behind, rfl, matches_anyRun behind⟩

/-- Behind a wild card an escaped text matches where a text ends in it. -/
theorem like_behind_iff (value text : List Char) :
    like text ⟨true, escaped value, false⟩ = true ↔ value <:+ text := by
  rw [like_iff_matches]
  show Matches ('%' :: (escaped value ++ [])) text ↔ _
  simp only [matches_anyRun_iff, matches_escaped_append_iff, matches_nil_iff]
  constructor
  · intro matched
    rcases matched with ⟨before, _, rfl, _, rfl, rfl⟩
    exact ⟨before, by rw [List.append_nil]⟩
  · intro found
    rcases found with ⟨before, rfl⟩
    exact ⟨before, value, rfl, [], (List.append_nil value).symm, rfl⟩

end HybridSearch.Pattern
