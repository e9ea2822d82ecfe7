import HybridSearch.Text.Mark

/-! The direction in which characters are written. The ranges are those of version 14 of the
character database, among the characters of host names; what they say of others is not meant. -/

namespace HybridSearch.Text

/-- How a character takes part in the direction of a text. -/
inductive Direction where
  | leftToRight
  | rightToLeft
  /-- A digit of numbers in right-to-left scripts. -/
  | rightNumber
  /-- A digit of numbers in left-to-right scripts. -/
  | leftNumber
  /-- A mark, which has the direction of the character before it. -/
  | attached
  | neutral
deriving Repr, DecidableEq

/-- The characters that are written from right to left, marks among them aside. -/
def rightToLeftRanges : Ranges :=
  [(0x5D0, 0x64A), (0x66E, 0x6EF), (0x6FA, 0x8C9), (0xFE73, 0xFE73), (0x10800, 0x10D23),
   (0x10E80, 0x10FF6), (0x1E800, 0x1E959)]

def rightNumberRanges : Ranges :=
  [(0x660, 0x669), (0x10D30, 0x10D39)]

def leftNumberRanges : Ranges :=
  [(0x30, 0x39), (0x6F0, 0x6F9)]

def neutralRanges : Ranges :=
  [(0x2D, 0x2D), (0xB7, 0xB7), (0x2B9, 0x2BA), (0x2C6, 0x2CF), (0x2EC, 0x2EC), (0x375, 0x375),
   (0x200C, 0x200D), (0x2E2F, 0x2E2F), (0x30FB, 0x30FB), (0xA67F, 0xA67F), (0xA717, 0xA71F),
   (0xA788, 0xA788)]

def direction (character : Char) : Direction :=
  if isNonspacing character then .attached
  else if rightNumberRanges.contains character then .rightNumber
  else if leftNumberRanges.contains character then .leftNumber
  else if neutralRanges.contains character then .neutral
  else if rightToLeftRanges.contains character then .rightToLeft
  else .leftToRight

/-- Whether a direction is that of a text that is written from right to left. -/
def Direction.isRight (direction : Direction) : Bool :=
  direction = .rightToLeft || direction = .rightNumber

/-- Whether a direction may end a text that is written from right to left. -/
def Direction.mayEnd (direction : Direction) : Bool :=
  direction.isRight || direction = .leftNumber

/-- Why a text cannot be told from others when it is shown in either direction. A position counts
from 1. -/
inductive DirectionFault where
  /-- It begins with a character that does not show its direction. -/
  | opening
  /-- It is written from right to left, and one of its characters is not. -/
  | leftToRight (position : Nat)
  /-- It is written from left to right, and one of its characters is not. -/
  | rightToLeft (position : Nat)
  /-- It holds numbers of two kinds. -/
  | numbers
  /-- It ends in what does not show its direction. -/
  | ending
deriving Repr, DecidableEq

/-- Whether one of two directions is that of the numbers of right-to-left scripts, and the other one
that of other numbers. -/
def areOtherNumbers (left right : Direction) : Bool :=
  (left = .rightNumber && right = .leftNumber) || (left = .leftNumber && right = .rightNumber)

/-- Why a text that begins with a character written from right to left cannot be told from others,
as far as its characters behind some of them show, the latest first. -/
def rightFault? (before : List Direction) : List Direction → Option DirectionFault
  | [] =>
      if (before.find? (· ≠ .attached)).any Direction.mayEnd then none else some .ending
  | direction :: rest =>
      if direction = .leftToRight then some (.leftToRight (before.length + 1))
      else if before.any (areOtherNumbers direction) then some .numbers
      else rightFault? (direction :: before) rest

/-- Why a text cannot be told from others when it is shown in either direction. A text with
characters written from right to left must begin with a letter of this kind, hold none of the other
kind, end in such a letter or a number, and hold numbers of one kind only. -/
def directionFault? (characters : List Char) : Option DirectionFault :=
  let directions := characters.map direction
  if directions.any Direction.isRight then
    match directions.head? with
    | some .rightToLeft => rightFault? [] directions
    | some .leftToRight => some (.rightToLeft (directions.findIdx Direction.isRight + 1))
    | _ => some .opening
  else none

end HybridSearch.Text
