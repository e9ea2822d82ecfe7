import HybridSearch.Text.Printable

/-! Quoted texts, as they stand inside lists and objects. Single quotes are used, unless the text
holds single quotes and no double ones. The quote in use and the backslash are escaped, and so is
every character that does not show as itself. -/

namespace HybridSearch.Text

/-- The digits of a number in base sixteen, in lower case, at least `width` of them. -/
def hexDigits (width : Nat) (value : Nat) : List Char :=
  let digits := Nat.toDigits 16 value
  List.replicate (width - digits.length) '0' ++ digits

def quoteFor (characters : List Char) : Char :=
  if characters.contains '\'' && !characters.contains '"' then '"' else '\''

def numericEscape (character : Char) : List Char :=
  if character.toNat ≤ 0xFF then '\\' :: 'x' :: hexDigits 2 character.toNat
  else if character.toNat ≤ 0xFFFF then '\\' :: 'u' :: hexDigits 4 character.toNat
  else '\\' :: 'U' :: hexDigits 8 character.toNat

def quoteCharacter (quote : Char) (character : Char) : List Char :=
  if character = quote ∨ character = '\\' then ['\\', character]
  else if character = '\n' then ['\\', 'n']
  else if character = '\r' then ['\\', 'r']
  else if character = '\t' then ['\\', 't']
  else if isPrintable character then [character]
  else numericEscape character

def quoted (characters : List Char) : List Char :=
  let quote := quoteFor characters
  quote :: characters.flatMap (quoteCharacter quote) ++ [quote]

end HybridSearch.Text
