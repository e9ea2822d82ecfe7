import HybridSearch.Text.Split

/-! The pieces of a text between separators. They hold all of the text but the separators. -/

namespace HybridSearch.Text

variable {isSeparator : Char → Bool}

theorem splitWhere_ne_nil (characters : List Char) : splitWhere isSeparator characters ≠ [] := by
  cases characters with
  | nil => simp [splitWhere]
  | cons character rest =>
      rw [splitWhere]
      split
      · simp
      · split <;> simp

/-- A character that is no separator begins the first piece. -/
theorem exists_splitWhere_cons {character : Char} (inPiece : isSeparator character = false)
    (rest : List Char) :
    ∃ piece pieces, splitWhere isSeparator rest = piece :: pieces ∧
      splitWhere isSeparator (character :: rest) = (character :: piece) :: pieces := by
  cases found : splitWhere isSeparator rest with
  | nil => exact absurd found (splitWhere_ne_nil rest)
  | cons piece pieces => exact ⟨piece, pieces, rfl, by simp [splitWhere, inPiece, found]⟩

theorem splitWhere_separator {separator : Char} (separates : isSeparator separator = true)
    (rest : List Char) :
    splitWhere isSeparator (separator :: rest) = [] :: splitWhere isSeparator rest := by
  rw [splitWhere, if_pos separates]

/-- What stands before a separator is split apart from what stands behind it. -/
theorem splitWhere_append {separator : Char} (separates : isSeparator separator = true)
    (front back : List Char) :
    splitWhere isSeparator (front ++ separator :: back) =
      splitWhere isSeparator front ++ splitWhere isSeparator back := by
  induction front with
  | nil => exact splitWhere_separator separates back
  | cons character front induction =>
      rw [List.cons_append]
      cases isCharacter : isSeparator character with
      | true =>
          rw [splitWhere_separator isCharacter, splitWhere_separator isCharacter, induction,
            List.cons_append]
      | false =>
          rcases exists_splitWhere_cons isCharacter front with ⟨piece, pieces, before, split⟩
          rcases exists_splitWhere_cons isCharacter (front ++ separator :: back) with
            ⟨first, others, whole, splitWhole⟩
          rw [induction, before, List.cons_append, List.cons.injEq] at whole
          rw [splitWhole, split, List.cons_append, whole.1, whole.2]

/-- A text without separators is one piece. -/
theorem splitWhere_of_none {characters : List Char}
    (none : ∀ character ∈ characters, isSeparator character = false) :
    splitWhere isSeparator characters = [characters] := by
  induction characters with
  | nil => rfl
  | cons character rest induction =>
      rw [List.forall_mem_cons] at none
      rcases exists_splitWhere_cons none.1 rest with ⟨piece, pieces, before, split⟩
      rw [induction none.2, List.cons.injEq] at before
      rw [split, ← before.1, ← before.2]

/-- The pieces hold the text without its separators. -/
theorem flatten_splitWhere (characters : List Char) :
    (splitWhere isSeparator characters).flatten =
      characters.filter fun character => !isSeparator character := by
  induction characters with
  | nil => rfl
  | cons character rest induction =>
      cases isCharacter : isSeparator character with
      | true => simp [splitWhere_separator isCharacter, isCharacter, induction]
      | false =>
          rcases exists_splitWhere_cons isCharacter rest with ⟨piece, pieces, before, split⟩
          rw [before, List.flatten_cons] at induction
          rw [split, List.flatten_cons, List.cons_append, induction]
          simp [isCharacter]

theorem not_isSeparator_of_mem_splitWhere {characters piece : List Char}
    (among : piece ∈ splitWhere isSeparator characters) {character : Char}
    (member : character ∈ piece) : isSeparator character = false := by
  have whole := List.mem_flatten_of_mem among member
  rw [flatten_splitWhere, List.mem_filter] at whole
  simpa using whole.2

end HybridSearch.Text
