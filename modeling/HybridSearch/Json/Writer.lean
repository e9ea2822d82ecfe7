import HybridSearch.Json

/-! Writing a value as text in ASCII, without gaps. -/

namespace HybridSearch.Json

def unitEscape (unit : Nat) : List Char :=
  '\\' :: 'u' :: Text.hexDigits 4 unit

def writeCharacter (character : Char) : List Char :=
  if character = '"' ∨ character = '\\' then ['\\', character]
  else if 0x20 ≤ character.toNat ∧ character.toNat < 0x7F then [character]
  else if character.toNat < 0x10000 then unitEscape character.toNat
  else
    let offset := character.toNat - 0x10000
    unitEscape (0xD800 + offset / 0x400) ++ unitEscape (0xDC00 + offset % 0x400)

def writeString (value : String) : List Char :=
  '"' :: value.toList.flatMap writeCharacter ++ ['"']

/-- A number; the values that are not finite are written as words. -/
def writeFloat (value : Float) : List Char :=
  if value.isNaN then "NaN".toList
  else if value.isInf then
    if Number.isNegative value then "-Infinity".toList else "Infinity".toList
  else (Number.text value).toList

def commaSeparated : List (List Char) → List Char
  | [] => []
  | [single] => single
  | first :: rest => first ++ ',' :: commaSeparated rest

mutual
def write : Json → List Char
  | .null => "null".toList
  | .bool value => if value then "true".toList else "false".toList
  | .integer value => (toString value).toList
  | .float value => writeFloat value
  | .string value => writeString value
  | .array items => '[' :: commaSeparated (writeItems items) ++ [']']
  | .object members => '\x7b' :: commaSeparated (writeMembers members) ++ ['\x7d']

def writeItems : List Json → List (List Char)
  | [] => []
  | item :: rest => item.write :: writeItems rest

def writeMembers : List (String × Json) → List (List Char)
  | [] => []
  | (key, value) :: rest => (writeString key ++ ':' :: value.write) :: writeMembers rest
end

end HybridSearch.Json
