import HybridSearch.Text.Quoted

/-! ASCII texts, which have one byte for each character, and what is said of other ones. -/

namespace HybridSearch.Text

/-- Whether a character has more than one byte. -/
def isForeign (character : Char) : Bool :=
  0x80 ≤ character.toNat

def isAscii (characters : List Char) : Bool :=
  characters.all fun character => !isForeign character

/-- Where the first characters stand that are no ASCII characters. -/
structure ForeignRun where
  start : Nat
  first : Char
  /-- How many more of them follow the first one. -/
  further : Nat
deriving Repr, DecidableEq

/-- The first characters of a text that are no ASCII characters. -/
def foreignRun? (characters : List Char) : Option ForeignRun :=
  match characters.dropWhile (!isForeign ·) with
  | [] => none
  | first :: rest =>
      some ⟨(characters.takeWhile (!isForeign ·)).length, first, (rest.takeWhile isForeign).length⟩

def ForeignRun.message (run : ForeignRun) : String :=
  "'ascii' codec can't encode character" ++
    (if run.further = 0 then
      " '" ++ String.ofList (numericEscape run.first) ++ "' in position " ++ toString run.start
    else "s in position " ++ toString run.start ++ "-" ++ toString (run.start + run.further)) ++
    ": ordinal not in range(128)"

end HybridSearch.Text
