import HybridSearch.Text.Lowercase
import HybridSearch.Url.Address
import HybridSearch.Url.Label

/-! Hosts: a numeric address or a name, and the form in which it is sent. -/

namespace HybridSearch.Url

open HybridSearch.Text

inductive HostFault where
  /-- It looks like four numbers with points between them and is no such address. -/
  | dotted
  /-- It stands in brackets and is no address of groups. -/
  | coloned
  /-- It is no name. -/
  | name
deriving Repr, DecidableEq

namespace Host

def isDot (character : Char) : Bool :=
  character = '.' || character = '\u3002' || character = '\uff0e' || character = '\uff61'

/-- The labels of a name, and whether a dot stands at its end. -/
def labels (name : List Char) : List (List Char) × Bool :=
  let pieces := splitWhere isDot name
  if pieces.getLast? = some [] then (pieces.dropLast, true) else (pieces, false)

/-- The length of the longest name without a dot at its end. -/
def lengthLimit : Nat := 253

def encodeName? (name : List Char) : Option (List Char) :=
  let (labels, isClosed) := labels name
  match labels.mapM Label.encode? with
  | some forms =>
      let joined := ['.'].intercalate forms
      if joined.length ≤ lengthLimit then some (joined ++ if isClosed then ['.'] else [])
      else none
  | none => none

/-- Whether a character of an ASCII name is sent as it is. -/
def isKept (character : Char) : Bool :=
  ' ' < character && character ≤ '~' && character ∉ ['#', '<', '>', '[', ']', '^']

def read (host : List Char) : Except HostFault (List Char) :=
  if Address.looksDotted host then if Address.isDotted host then .ok host else .error .dotted
  else if host.head? = some '[' ∧ host.getLast? = some ']' then
    let address := (host.drop 1).dropLast
    if Address.isColoned address then .ok address else .error .coloned
  else if isAscii host then .ok (escape isKept (host.map lowerAscii))
  else
    match encodeName? (lowercase (String.ofList host)).toList with
    | some name => .ok name
    | none => .error .name

inductive DisplayFault where
  | tooLong
  | label (fault : Label.Fault)
deriving Repr, DecidableEq

def DisplayFault.message : DisplayFault → String
  | tooLong => "Domain too long"
  | label fault => fault.message

/-- Why a host cannot be shown: where it begins with a label in the form of ASCII characters, all
that stands between its dots must be labels. -/
def displayFault? (host : List Char) : Option DisplayFault :=
  if !Label.encodedMark.isPrefixOf host then none
  else if lengthLimit + 1 < host.length then some .tooLong
  else ((labels host).1.findSome? Label.asciiFault?).map .label

end Host

end HybridSearch.Url
