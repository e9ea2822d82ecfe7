import HybridSearch.Text.CaseContext
import HybridSearch.Text.LowerTable

/-! Lower case for every script, and for the ASCII letters alone.

The full mapping differs from a mapping of single characters in two places: the capital I with a
dot becomes two characters, and a capital sigma takes its final form at the end of a word. -/

namespace HybridSearch.Text

/-- The lower-case form of one character, its neighbours aside. -/
def lowerSimple (character : Char) : Char :=
  match lowerRuns.find? (·.covers character.toNat) with
  | some run => Char.ofNat (character.toNat + run.offset).toNat
  | none => character

/-- Whether the first character that is not passed over has case. -/
def startsCased (following : List Char) : Bool :=
  match following.find? fun character => !isCaseIgnorable character with
  | some character => isCased character
  | none => false

/-- The lower-case form of one character between its neighbours. A sigma is final when a cased
character stands before it and none follows. -/
def lowerAt (afterCased : Bool) (character : Char) (following : List Char) : List Char :=
  if character = 'İ' then ['i', '\u0307']
  else if character = 'Σ' then
    [if afterCased && !startsCased following then 'ς' else 'σ']
  else [lowerSimple character]

/-- Lower case, where `afterCased` tells whether a cased character stands before the text. -/
def lowerFrom (afterCased : Bool) : List Char → List Char
  | [] => []
  | character :: following =>
    lowerAt afterCased character following ++
      lowerFrom
        (if isCaseIgnorable character then afterCased else isCased character)
        following

/-- A text in lower case, by the full mapping. -/
def lowercase (text : String) : String :=
  String.ofList (lowerFrom false text.toList)

/-- The lower-case form of an ASCII letter; any other character stays. -/
def lowerAscii (character : Char) : Char :=
  if 'A' ≤ character ∧ character ≤ 'Z' then Char.ofNat (character.toNat + 32) else character

/-- A text with its ASCII letters in lower case and all else unchanged. -/
def lowercaseAscii (text : String) : String :=
  String.ofList (text.toList.map lowerAscii)

end HybridSearch.Text
