import HybridSearch.Text.Ascii
import HybridSearch.Text.Composition
import HybridSearch.Text.Direction
import HybridSearch.Text.Joining
import HybridSearch.Text.LabelTable
import HybridSearch.Text.Quoted
import HybridSearch.Url.Punycode

/-! The labels of a host name, which stand between its dots. A label is a text in composed form, of
letters, digits, marks and hyphens; a few other characters may stand in it between the right
neighbours. A label with characters beyond ASCII is sent in a form of ASCII characters, behind
`xn--`. -/

namespace HybridSearch.Url.Label

open HybridSearch.Text

def greekRanges : Ranges :=
  [(0x371, 0x3E1), (0x3F3, 0x3FC), (0x1D26, 0x1D2A), (0x1F00, 0x1FF6), (0xAB65, 0xAB65)]

def hebrewRanges : Ranges :=
  [(0x591, 0x5F4), (0xFB1E, 0xFB1E)]

/-- The characters of the Japanese and Chinese scripts, among those of labels. -/
def eastAsianRanges : Ranges :=
  [(0x3005, 0x3005), (0x3007, 0x3007), (0x3041, 0x3096), (0x309D, 0x30FA), (0x30FD, 0x30FE),
   (0x31F0, 0x9FFF), (0xFA0E, 0xFA29), (0x16FE3, 0x16FE3), (0x16FF0, 0x16FF1),
   (0x1AFF0, 0x1B167), (0x20000, 0x3134A)]

def arabicDigits : Ranges := [(0x660, 0x669)]

def persianDigits : Ranges := [(0x6F0, 0x6F9)]

/-- Whether the nearest character before a place leaves out the vowel of its syllable. -/
def isBehindVirama (before : List Char) : Bool :=
  before.head?.any fun character => markClass character = viramaClass

/-- Why a text is no label. A position counts from 1. -/
inductive Fault where
  | empty
  /-- The label is not in composed form. -/
  | composition
  /-- Two hyphens tell that the label is in the form of ASCII characters. -/
  | hyphensInside
  | hyphenAtEnd
  | leadingMark
  /-- A character that stands in no label. -/
  | forbidden (character : Char) (position : Nat) (label : List Char)
  /-- A character without width that is not needed there. -/
  | joiner (character : Char) (position : Nat) (label : List Char)
  /-- A character without the neighbours that it needs. -/
  | neighbours (character : Char) (position : Nat) (label : List Char)
  | direction (fault : DirectionFault) (label : List Char)
  /-- Nothing stands behind the mark of the form of ASCII characters. -/
  | emptyForm
  | hyphenAfterForm
  /-- The form of ASCII characters stands for nothing. -/
  | undecodable
deriving Repr, DecidableEq

/-- The code point of a character, in at least four hexadecimal digits. -/
def codeText (character : Char) : String :=
  let digits := (Nat.toDigits 16 character.toNat).map Char.toUpper
  "U+" ++ String.ofList (List.replicate (4 - digits.length) '0' ++ digits)

def Fault.message : Fault → String
  | empty => "Empty Label"
  | composition => "Label must be in Normalization Form C"
  | hyphensInside => "Label has disallowed hyphens in 3rd and 4th position"
  | hyphenAtEnd => "Label must not start or end with a hyphen"
  | leadingMark => "Label begins with an illegal combining character"
  | forbidden character position label =>
      "Codepoint " ++ codeText character ++ " at position " ++ toString position ++ " of " ++
        String.ofList (quoted label) ++ " not allowed"
  | joiner character position label =>
      "Unknown codepoint adjacent to joiner " ++ codeText character ++ " at position " ++
        toString position ++ " in " ++ String.ofList (quoted label)
  | neighbours character position label =>
      "Codepoint " ++ codeText character ++ " not allowed at position " ++ toString position ++
        " in " ++ String.ofList (quoted label)
  | direction .opening label =>
      "First codepoint in label " ++ String.ofList (quoted label) ++
        " must be directionality L, R or AL"
  | direction (.leftToRight position) _ =>
      "Invalid direction for codepoint at position " ++ toString position ++
        " in a right-to-left label"
  | direction (.rightToLeft position) _ =>
      "Invalid direction for codepoint at position " ++ toString position ++
        " in a left-to-right label"
  | direction .numbers _ => "Can not mix numeral types in a right-to-left label"
  | direction .ending _ => "Label ends with illegal codepoint directionality"
  | emptyForm => "Malformed A-label, no Punycode eligible content found"
  | hyphenAfterForm => "A-label must not end with a hyphen"
  | undecodable => "Invalid A-label"

/-- Whether a character without width may stand between what is before it, the nearest first, and
what is after it. -/
def mayJoin (before : List Char) (character : Char) (after : List Char) : Bool :=
  isBehindVirama before || (character = '\u200c' && joinsAcross before after)

/-- Whether a character has the neighbours that it needs in a label; nothing is said of a character
that needs none. -/
def hasNeighbours? (label before : List Char) (character : Char) (after : List Char) :
    Option Bool :=
  if character = '\u00b7' then some (before.head? = some 'l' && after.head? = some 'l')
  else if character = '\u0375' then some (after.head?.any greekRanges.contains)
  else if character = '\u05f3' ∨ character = '\u05f4' then
    some (before.head?.any hebrewRanges.contains)
  else if character = '\u30fb' then some (label.any eastAsianRanges.contains)
  else if arabicDigits.contains character then some (!label.any persianDigits.contains)
  else if persianDigits.contains character then some (!label.any arabicDigits.contains)
  else none

/-- Why a character may not stand in a label between what is before it, the nearest first, and what
is after it. -/
def characterFault? (label before : List Char) (character : Char) (after : List Char) :
    Option Fault :=
  let position := before.length + 1
  if isLabelCharacter character then none
  else if character = '\u200c' ∨ character = '\u200d' then
    if mayJoin before character after then none else some (.joiner character position label)
  else
    match hasNeighbours? label before character after with
    | some true => none
    | some false => some (.neighbours character position label)
    | none => some (.forbidden character position label)

/-- Why the characters of a label behind some of them, the latest first, may not stand there. -/
def charactersFault? (label before : List Char) : List Char → Option Fault
  | [] => none
  | character :: after =>
      match characterFault? label before character after with
      | some fault => some fault
      | none => charactersFault? label (character :: before) after

def fault? (label : List Char) : Option Fault :=
  if label.isEmpty then some .empty
  else if compose label ≠ label then some .composition
  else if (label.drop 2).take 2 = ['-', '-'] then some .hyphensInside
  else if label.head? = some '-' ∨ label.getLast? = some '-' then some .hyphenAtEnd
  else if label.head?.any isMark then some .leadingMark
  else
    match charactersFault? label [] label with
    | some fault => some fault
    | none => (directionFault? label).map (.direction · label)

/-- What stands before a label in the form of ASCII characters. -/
def encodedMark : List Char := "xn--".toList

/-- Why a text of ASCII characters is neither a label nor the form of one. -/
def asciiFault? (label : List Char) : Option Fault :=
  if encodedMark.isPrefixOf label then
    let form := label.drop encodedMark.length
    if form.isEmpty then some .emptyForm
    else if form.getLast? = some '-' then some .hyphenAfterForm
    else
      match Punycode.decode? form with
      | some decoded => fault? decoded
      | none => some .undecodable
  else fault? label

def lengthLimit : Nat := 63

/-- A label as it is sent, if it is one. -/
def encode? (label : List Char) : Option (List Char) :=
  let form := if isAscii label then label else encodedMark ++ Punycode.encode label
  let fault? := if isAscii label then asciiFault? label else fault? label
  if fault?.isNone && form.length ≤ lengthLimit then some form else none

end HybridSearch.Url.Label
