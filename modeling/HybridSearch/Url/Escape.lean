import HybridSearch.Text.Encoding
import HybridSearch.Text.DecimalDigit
import HybridSearch.Text.Quoted

/-! Percent escapes: a percent sign and two hexadecimal digits stand for a byte of a text. -/

namespace HybridSearch.Url

def characterBytes (character : Char) : List UInt8 :=
  (String.singleton character).toUTF8.toList

def escapeByte (byte : UInt8) : List Char :=
  '%' :: (Text.hexDigits 2 byte.toNat).map Char.toUpper

/-- A text in which the characters that do not satisfy `isKept` are escaped. -/
def escape (isKept : Char → Bool) (characters : List Char) : List Char :=
  characters.flatMap fun character =>
    if isKept character then [character] else (characterBytes character).flatMap escapeByte

def hexDigit? (character : Char) : Option Nat :=
  let lower := character.toLower
  match Text.asciiDigit? lower with
  | some value => some value
  | none =>
      if 'a' ≤ lower ∧ lower ≤ 'f' then some (lower.toNat - 'a'.toNat + 10) else none

/-- The bytes of a text with escapes. A percent sign without two hexadecimal digits stands for
itself. -/
def unescape : List Char → List UInt8
  | '%' :: high :: low :: rest =>
      match hexDigit? high, hexDigit? low with
      | some high, some low => UInt8.ofNat (16 * high + low) :: unescape rest
      | _, _ => 0x25 :: unescape (high :: low :: rest)
  | character :: rest => characterBytes character ++ unescape rest
  | [] => []

/-- A text without its escapes. Bytes that are no text are replaced. -/
def unescaped (characters : List Char) : List Char :=
  Text.decodeLenient (unescape characters)

end HybridSearch.Url
