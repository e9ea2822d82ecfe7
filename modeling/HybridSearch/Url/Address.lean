import HybridSearch.Number.Reading
import HybridSearch.Text.Split
import HybridSearch.Url.Escape

/-! Numeric addresses of hosts: four numbers with points between them, or up to eight groups of
hexadecimal digits with colons between them. -/

namespace HybridSearch.Url.Address

open HybridSearch.Number (isDigit digitsValue)
open HybridSearch.Text

/-- Whether a host looks like four numbers with points between them. -/
def looksDotted (host : List Char) : Bool :=
  let numbers := splitWhere (· = '.') host
  numbers.length = 4 && numbers.all fun digits => !digits.isEmpty && digits.all isDigit

/-- Whether a text is a number of an address, without zeros in front. -/
def isOctet (digits : List Char) : Bool :=
  !digits.isEmpty && digits.all isDigit && digits.length ≤ 3 &&
    (digits = ['0'] || digits.head? ≠ some '0') && digitsValue digits ≤ 255

/-- Whether a text is four numbers with points between them. -/
def isDotted (text : List Char) : Bool :=
  let numbers := splitWhere (· = '.') text
  numbers.length = 4 && numbers.all isOctet

def isGroup (digits : List Char) : Bool :=
  !digits.isEmpty && digits.length ≤ 4 && digits.all fun digit => (hexDigit? digit).isSome

/-- The groups of an address, where four numbers at the end stand for two of them. -/
def groups? (text : List Char) : Option (List (List Char)) :=
  let pieces := splitWhere (· = ':') text
  match pieces.getLast? with
  | some last =>
      if '.' ∈ last then
        if isDotted last then some (pieces.dropLast ++ [['0'], ['0']]) else none
      else some pieces
  | none => none

/-- The groups on one side of a gap. Where the gap stands at the end of the text, an empty piece is
left of it. -/
def besideGap (pieces : List (List Char)) : List (List Char) :=
  if pieces = [[]] then [] else pieces

/-- Whether groups are those of an address: eight of them, or fewer with one gap. -/
def areWhole (groups : List (List Char)) : Bool :=
  let isGap (position : Nat) : Bool :=
    0 < position && position + 1 < groups.length && groups[position]? = some []
  match (List.range groups.length).filter isGap with
  | [] => groups.length = 8 && groups.all isGroup
  | [gap] =>
      let present := besideGap (groups.take gap) ++ besideGap (groups.drop (gap + 1))
      present.length < 8 && present.all isGroup
  | _ => false

/-- Whether a text is an address of groups. Behind a percent sign it may name a zone. -/
def isColoned (text : List Char) : Bool :=
  let zone? := behind? '%' text
  let pieces := splitWhere (· = ':') (before ['%'] text)
  zone?.all (fun zone => !zone.isEmpty && '%' ∉ zone) && 3 ≤ pieces.length &&
    (groups? (before ['%'] text)).any fun groups => groups.length ≤ 9 && areWhole groups

end HybridSearch.Url.Address
