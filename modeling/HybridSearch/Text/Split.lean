/-! Texts taken apart at characters. -/

namespace HybridSearch.Text

/-- The pieces of a text between the characters that satisfy `isSeparator`. -/
def splitWhere (isSeparator : Char → Bool) : List Char → List (List Char)
  | [] => [[]]
  | character :: rest =>
      if isSeparator character then [] :: splitWhere isSeparator rest
      else
        match splitWhere isSeparator rest with
        | [] => [[character]]
        | piece :: pieces => (character :: piece) :: pieces

/-- What stands before the first of some characters. -/
def before (stops : List Char) (characters : List Char) : List Char :=
  characters.takeWhile fun character => character ∉ stops

/-- What stands behind the first occurrence of a character. -/
def behind (stop : Char) (characters : List Char) : List Char :=
  (characters.dropWhile (· ≠ stop)).drop 1

/-- What stands behind the first occurrence of a character, if it occurs. -/
def behind? (stop : Char) (characters : List Char) : Option (List Char) :=
  if stop ∈ characters then some (behind stop characters) else none

end HybridSearch.Text
