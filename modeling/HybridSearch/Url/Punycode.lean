import HybridSearch.Sorting
import HybridSearch.Text.DecimalDigit

/-! Texts written in lower-case ASCII letters, digits and hyphens. The ASCII characters come first,
with a hyphen behind them where there are any. The others follow in the order of their code points,
each as the distance from the one before, counted over all places where it could stand. A distance
is a numeral whose digits have values below 36, the lowest first; a digit below its threshold is the
last one, and the thresholds follow the sizes of the distances before. -/

namespace HybridSearch.Url.Punycode

/-- The first code point that is not written as itself. -/
def firstCode : Nat := 0x80

/-- The bias of the thresholds before any distance is known. -/
def firstBias : Nat := 72

def digitCharacter (value : Nat) : Char :=
  if value < 26 then Char.ofNat ('a'.toNat + value) else Char.ofNat ('0'.toNat + (value - 26))

def digitValue? (character : Char) : Option Nat :=
  let lower := character.toLower
  if 'a' ≤ lower ∧ lower ≤ 'z' then some (lower.toNat - 'a'.toNat)
  else (Text.asciiDigit? character).map (26 + ·)

def threshold (bias position : Nat) : Nat :=
  let value := 36 * (position + 1) - bias
  if value < 1 then 1 else if 26 < value then 26 else value

/-- Divides a distance until it is small, and counts 36 for each time. Each division takes more than
one binary digit, so their number is bounded by `fuel` binary digits. -/
def reduce : Nat → Nat → Nat → Nat
  | 0, count, _ => count
  | fuel + 1, count, distance =>
      if 455 < distance then reduce fuel (count + 36) (distance / 35)
      else count + 36 * distance / (distance + 38)

/-- The bias behind a distance, where the text has `length` characters with the new one. -/
def adapt (isFirst : Bool) (distance length : Nat) : Nat :=
  let halved := if isFirst then distance / 700 else distance / 2
  let grown := halved + halved / length
  reduce (grown.log2 + 1) 0 grown

/-- The digits of a distance from a position on, one for each unit of `fuel`. -/
def digitsFrom (bias : Nat) : Nat → Nat → Nat → List Char
  | 0, _, _ => []
  | fuel + 1, position, distance =>
      let least := threshold bias position
      if distance < least then [digitCharacter distance]
      else
        digitCharacter (least + (distance - least) % (36 - least)) ::
          digitsFrom bias fuel (position + 1) ((distance - least) / (36 - least))

def numeral (bias distance : Nat) : List Char :=
  digitsFrom bias (distance.log2 + 2) 0 distance

/-! ## Writing -/

/-- What is known in the course of writing. -/
structure Progress where
  /-- What is written, the latest character first. -/
  written : List Char
  /-- The number of places passed since the last character that was written. -/
  distance : Nat
  bias : Nat
  /-- The number of characters whose place is known. -/
  placed : Nat

/-- Passes one character in search of those with a code point. -/
def Progress.pass (plain code : Nat) (progress : Progress) (character : Char) : Progress :=
  if character.toNat < code then { progress with distance := progress.distance + 1 }
  else if character.toNat = code then
    { written := (numeral progress.bias progress.distance).reverse ++ progress.written
      distance := 0
      bias := adapt (progress.placed = plain) progress.distance (progress.placed + 1)
      placed := progress.placed + 1 }
  else progress

/-- Writes the characters with the given code points, which are those from `next` on. -/
def writeFrom (text : List Char) (plain next : Nat) (progress : Progress) :
    List Nat → List Char
  | [] => progress.written.reverse
  | code :: rest =>
      let moved :=
        { progress with distance := progress.distance + (code - next) * (progress.placed + 1) }
      let passed := text.foldl (Progress.pass plain code) moved
      writeFrom text plain (code + 1) { passed with distance := passed.distance + 1 } rest

def encode (text : List Char) : List Char :=
  let plain := text.filter fun character => character.toNat < firstCode
  let codes := ((text.map Char.toNat).filter (firstCode ≤ ·)).eraseDups
  plain ++ (if plain.isEmpty then [] else ['-']) ++
    writeFrom text plain.length firstCode ⟨[], 0, firstBias, plain.length⟩
      (sortBy (fun left right => left ≤ right) codes)

/-! ## Reading -/

/-- Reads a numeral at the start of a text; `weight` is the weight of its next digit. -/
def readNumeral? (bias position weight value : Nat) : List Char → Option (Nat × List Char)
  | [] => none
  | character :: rest =>
      (digitValue? character).bind fun digit =>
        let value := value + digit * weight
        let least := threshold bias position
        if digit < least then some (value, rest)
        else readNumeral? bias (position + 1) (weight * (36 - least)) value rest

def character? (code : Nat) : Option Char :=
  if code < 0xD800 ∨ (0xE000 ≤ code ∧ code < 0x110000) then some (Char.ofNat code) else none

/-- Reads numerals, at most one for each unit of `fuel`, and puts a character into the text for each
of them. The next one stands at `place` or behind it if its code point is `code`. -/
def readFrom? (text : List Char) (code place bias : Nat) (isFirst : Bool) :
    Nat → List Char → Option (List Char)
  | _, [] => some text
  | 0, _ => none
  | fuel + 1, rest => do
      let (distance, rest) ← readNumeral? bias 0 1 0 rest
      let length := text.length + 1
      let code := code + (place + distance) / length
      let place := (place + distance) % length
      let character ← character? code
      readFrom? (text.take place ++ character :: text.drop place) code (place + 1)
        (adapt isFirst distance length) false fuel rest

/-- Reads a text. What stands before the last hyphen is taken as it is; where nothing does, the
hyphen belongs to the numerals. -/
def decode? (characters : List Char) : Option (List Char) :=
  let last := (characters.reverse.takeWhile (· ≠ '-')).reverse
  let plain := characters.take (characters.length - last.length - 1)
  let numerals := if plain.isEmpty then characters else last
  readFrom? plain firstCode 0 firstBias true numerals.length numerals

end HybridSearch.Url.Punycode
