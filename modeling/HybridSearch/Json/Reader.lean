import HybridSearch.Json
import HybridSearch.Number.Reading
import HybridSearch.Text.Encoding

/-! Reading a value from text.

The reader takes one token at a time and keeps the lists and objects that are still open on a
stack, so its depth is the number of open frames and can be bounded. The grammar is the usual one,
widened by the words `NaN`, `Infinity` and `-Infinity`. A half of a surrogate pair that an escape names
alone is no character, and strings here are made of characters: the replacement character takes its
place. A program that keeps such halves cannot send them again, so what is said of its answers is said
of texts without them. -/

namespace HybridSearch.Json

open HybridSearch.Number

inductive ReadError where
  /-- The text does not follow the grammar. -/
  | malformed
  /-- The bytes are no text in their encoding. -/
  | undecodable
  /-- Too many lists and objects are open. -/
  | tooDeep
  /-- An integer has too many digits. -/
  | tooLong
deriving Repr, DecidableEq

inductive Token where
  | openArray
  | closeArray
  | openObject
  | closeObject
  | comma
  | colon
  | scalar (value : Json)

def isGap (character : Char) : Bool :=
  character = ' ' || character = '\t' || character = '\n' || character = '\r'

def hexValue? (digits : List Char) : Option Nat :=
  digits.foldl
    (fun value digit => value.bind fun sum =>
      let lower := digit.toLower
      match Text.asciiDigit? lower with
      | some unit => some (16 * sum + unit)
      | none =>
          if 'a' ≤ lower ∧ lower ≤ 'f' then some (16 * sum + (lower.toNat - 'a'.toNat + 10))
          else none)
    (some 0)

def escaped? : Char → Option Char
  | '"' => some '"'
  | '\\' => some '\\'
  | '/' => some '/'
  | 'b' => some '\x08'
  | 'f' => some '\x0c'
  | 'n' => some '\n'
  | 'r' => some '\r'
  | 't' => some '\t'
  | _ => none

/-- The replacement character, which stands where no character can be read. -/
def replacement : Char := '\ufffd'

/-- Whether a code unit is the first half of a surrogate pair. -/
def isHighHalf (unit : Nat) : Bool :=
  0xD800 ≤ unit && unit < 0xDC00

/-- Whether a code unit is the second half of a surrogate pair. -/
def isLowHalf (unit : Nat) : Bool :=
  0xDC00 ≤ unit && unit < 0xE000

/-- The character of a code unit that stands alone. -/
def unitCharacter (unit : Nat) : Char :=
  if isHighHalf unit || isLowHalf unit then replacement else Char.ofNat unit

/-- The character of a surrogate pair. -/
def pairCharacter (high low : Nat) : Char :=
  Char.ofNat (0x10000 + (high - 0xD800) * 0x400 + (low - 0xDC00))

/-- The character that stands for a first half whose second half did not follow. -/
def loneHalf : Option Nat → List Char
  | some _ => [replacement]
  | none => []

/-- The characters of a string up to its closing quote, and what follows. An escaped first half of
a surrogate pair is kept in `high` until the next character shows whether the second half follows. A
half that stays alone is replaced, which loses it. -/
def readString? (high : Option Nat) : List Char → Option (List Char × List Char)
  | [] => none
  | '"' :: rest => some (loneHalf high, rest)
  | '\\' :: 'u' :: first :: second :: third :: fourth :: rest =>
      match hexValue? [first, second, third, fourth] with
      | none => none
      | some unit =>
          match high with
          | some half =>
              if isLowHalf unit then
                (readString? none rest).map fun read => (pairCharacter half unit :: read.1, read.2)
              else if isHighHalf unit then
                (readString? (some unit) rest).map fun read => (replacement :: read.1, read.2)
              else
                (readString? none rest).map fun read =>
                  (replacement :: unitCharacter unit :: read.1, read.2)
          | none =>
              if isHighHalf unit then readString? (some unit) rest
              else
                (readString? none rest).map fun read => (unitCharacter unit :: read.1, read.2)
  | '\\' :: letter :: rest =>
      match escaped? letter with
      | some character =>
          (readString? none rest).map fun read => (loneHalf high ++ character :: read.1, read.2)
      | none => none
  | character :: rest =>
      if character = '\\' ∨ character.toNat < 0x20 then none
      else (readString? none rest).map fun read => (loneHalf high ++ character :: read.1, read.2)

/-- The longest integer that is read, in digits. -/
def integerLimit : Nat := 4300

/-- An exponent at the start of a text, and what follows. -/
def readExponent : List Char → Option Int × List Char
  | [] => (none, [])
  | mark :: rest =>
      let (negative, unsigned) := Numeral.splitSign rest
      let digits := unsigned.takeWhile isDigit
      if (mark = 'e' ∨ mark = 'E') ∧ digits ≠ [] then
        let magnitude : Int := digitsValue digits
        (some (if negative then -magnitude else magnitude), unsigned.drop digits.length)
      else (none, mark :: rest)

/-- A number at the start of a text, and what follows. A point or an exponent without digits does
not belong to the number. -/
def readNumber (characters : List Char) : Except ReadError (Json × List Char) :=
  let (negative, unsigned) := match characters with
    | '-' :: rest => (true, rest)
    | rest => (false, rest)
  let whole := match unsigned with
    | '0' :: _ => ['0']
    | rest => rest.takeWhile isDigit
  if whole = [] then .error .malformed
  else
    let rest := unsigned.drop whole.length
    let fraction := match rest with
      | '.' :: rest => rest.takeWhile isDigit
      | _ => []
    let rest := if fraction = [] then rest else rest.drop (fraction.length + 1)
    let (exponent, rest) := readExponent rest
    if fraction = [] ∧ exponent = none then
      if integerLimit < whole.length then .error .tooLong
      else
        let magnitude : Int := digitsValue whole
        .ok (.integer (if negative then -magnitude else magnitude), rest)
    else
      let numeral : Numeral :=
        ⟨negative, digitsValue (whole ++ fraction), exponent.getD 0 - fraction.length⟩
      .ok (.float numeral.toFloat, rest)

/-- The words of the grammar with their values. -/
def words : List (List Char × Json) :=
  [("null".toList, .null), ("true".toList, .bool true), ("false".toList, .bool false),
   ("NaN".toList, .float notANumber), ("Infinity".toList, .float infinity),
   ("-Infinity".toList, .float (-infinity))]

/-- A word or a number at the start of a text, and what follows. -/
def readScalar (characters : List Char) : Except ReadError (Json × List Char) :=
  match words.find? fun word => word.1.isPrefixOf characters with
  | some word => .ok (word.2, characters.drop word.1.length)
  | none => readNumber characters

/-- The token at the start of a text, and what follows. Words and numbers are read only where a
value may stand; elsewhere they are not looked at any further. -/
def readToken (mayHoldValue : Bool) : List Char → Except ReadError (Token × List Char)
  | '[' :: rest => .ok (.openArray, rest)
  | ']' :: rest => .ok (.closeArray, rest)
  | '\x7b' :: rest => .ok (.openObject, rest)
  | '\x7d' :: rest => .ok (.closeObject, rest)
  | ',' :: rest => .ok (.comma, rest)
  | ':' :: rest => .ok (.colon, rest)
  | '"' :: rest =>
      match readString? none rest with
      | some (characters, rest) => .ok (.scalar (.string (String.ofList characters)), rest)
      | none => .error .malformed
  | characters =>
      if mayHoldValue then (readScalar characters).map fun read => (.scalar read.1, read.2)
      else .error .malformed

/-! ## The stack -/

/-- A list or an object that is still open, with what it holds so far, the latest first. -/
inductive Frame where
  | items (done : List Json)
  | members (done : List (String × Json)) (key : String)

inductive Awaited where
  | value
  | valueOrClose
  | key
  | keyOrClose
  | colon
  | separator
  | nothing (result : Json)

def Awaited.isValue : Awaited → Bool
  | value | valueOrClose => true
  | key | keyOrClose | colon | separator | nothing _ => false

/-- Hands a finished value to the innermost open frame. -/
def finish (value : Json) : List Frame → List Frame × Awaited
  | [] => ([], .nothing value)
  | .items done :: rest => (.items (value :: done) :: rest, .separator)
  | .members done key :: rest => (.members ((key, value) :: done) key :: rest, .separator)

/-- Takes a token where a value may begin. -/
def beginValue (limit : Nat) (stack : List Frame) :
    Token → Except ReadError (List Frame × Awaited)
  | .openArray =>
      if limit ≤ stack.length then .error .tooDeep
      else .ok (.items [] :: stack, .valueOrClose)
  | .openObject =>
      if limit ≤ stack.length then .error .tooDeep
      else .ok (.members [] "" :: stack, .keyOrClose)
  | .scalar value => .ok (finish value stack)
  | _ => .error .malformed

/-- Takes the token that closes the innermost frame. -/
def closeFrame (stack : List Frame) (token : Token) : Except ReadError (List Frame × Awaited) :=
  match token, stack with
  | .closeArray, .items done :: rest => .ok (finish (.array done.reverse) rest)
  | .closeObject, .members done _ :: rest => .ok (finish (ofMembers done.reverse) rest)
  | _, _ => .error .malformed

def step (limit : Nat) (stack : List Frame) (awaited : Awaited) (token : Token) :
    Except ReadError (List Frame × Awaited) :=
  match awaited, token, stack with
  | .value, token, stack => beginValue limit stack token
  | .valueOrClose, .closeArray, stack => closeFrame stack .closeArray
  | .valueOrClose, token, stack => beginValue limit stack token
  | .keyOrClose, .closeObject, stack => closeFrame stack .closeObject
  | .keyOrClose, .scalar (.string key), .members done _ :: rest
  | .key, .scalar (.string key), .members done _ :: rest =>
      .ok (.members done key :: rest, .colon)
  | .colon, .colon, stack => .ok (stack, .value)
  | .separator, .comma, .items done :: rest => .ok (.items done :: rest, .value)
  | .separator, .comma, .members done key :: rest => .ok (.members done key :: rest, .key)
  | .separator, token, stack => closeFrame stack token
  | _, _, _ => .error .malformed

/-- Takes tokens until the text ends, at most one for each unit of `fuel`. -/
def readFrom (limit : Nat) : Nat → List Frame → Awaited → List Char → Except ReadError Json
  | 0, _, _, _ => .error .malformed
  | fuel + 1, stack, awaited, characters =>
      match characters.dropWhile isGap, awaited with
      | [], .nothing value => .ok value
      | [], _ => .error .malformed
      | characters, awaited => do
          let (token, rest) ← readToken awaited.isValue characters
          let (stack, awaited) ← step limit stack awaited token
          readFrom limit fuel stack awaited rest

/-- Reads a value that fills the whole text, with at most `limit` lists and objects open at once. -/
def read (limit : Nat) (characters : List Char) : Except ReadError Json :=
  readFrom limit (characters.length + 1) [] .value characters

/-- How many lists and objects may be open at once where nothing else is said. The service may have a
thousand calls open and leaves the depth of a text to that, and a few calls are open before a text is
read. It is known to read texts of depth 700, and not to read texts of depth 3000. -/
def nestingLimit : Nat := 990

/-- Reads a value from bytes, with at most `limit` lists and objects open at once. -/
def readBytes (bytes : List UInt8) (limit : Nat := nestingLimit) : Except ReadError Json :=
  match Text.decode? bytes with
  | some characters => read limit characters
  | none => .error .undecodable

end HybridSearch.Json
