import HybridSearch.Url

/-! The target of a request: a path and the parameters behind it, both with percent escapes. -/

namespace HybridSearch.Service

open HybridSearch.Text

structure Target where
  path : String
  /-- The parameters in their order; a name may occur more than once. -/
  parameters : List (String × String)
deriving Repr, DecidableEq

namespace Target

/-- A piece of the parameters; a plus sign stands for a space. -/
def readPart (characters : List Char) : String :=
  String.ofList <| Url.unescaped <|
    characters.map fun character => if character = '+' then ' ' else character

def ofUrl (url : Url) : Target :=
  let pieces := (splitWhere (· = '&') (url.query?.getD [])).filter (· ≠ [])
  { path := String.ofList (Url.unescaped url.place)
    parameters := pieces.map fun piece =>
      (readPart (before ['='] piece), readPart (behind '=' piece)) }

/-- Where the service stands, as long as nobody says otherwise. -/
def service : Url :=
  { Url.nowhere with scheme := "http".toList, host := "service".toList }

inductive Fault where
  /-- It is no address. -/
  | url (fault : Url.Fault)
  /-- The host in it cannot be shown. -/
  | host (fault : Url.Host.DisplayFault)
deriving Repr, DecidableEq

def Fault.message : Fault → String
  | url fault => fault.message
  | host fault => fault.message

def read (text : String) : Except Fault Target :=
  match Url.read text with
  | .error fault => .error (.url fault)
  | .ok reference =>
      let url := service.onto reference
      match Url.Host.displayFault? url.host with
      | some fault => .error (.host fault)
      | none => .ok (ofUrl url)

def parameter? (target : Target) (name : String) : Option String :=
  (target.parameters.reverse.find? fun parameter => parameter.1 = name).map Prod.snd

/-- The path as it is noted: without tabs and line ends, and only what stands before a question mark
or a fragment mark in it. -/
def notedPath (target : Target) : String :=
  String.ofList <| before ['?', '#'] <|
    target.path.toList.filter fun character => character ∉ ['\t', '\n', '\r']

end Target

end HybridSearch.Service
