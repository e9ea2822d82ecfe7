import HybridSearch.Json
import HybridSearch.Text.Ascii

/-! The headers of a request. Their names and values are ASCII texts; how a name is written does not
matter. -/

namespace HybridSearch.Service

abbrev Headers := List (String × Json)

namespace Headers

inductive Fault where
  /-- A value is no text. -/
  | kind (kindName : String)
  /-- A name or a value has characters that are not ASCII. -/
  | foreign (run : Text.ForeignRun)
deriving Repr, DecidableEq

def Fault.message : Fault → String
  | kind kindName => "Header value must be str or bytes, not <class '" ++ kindName ++ "'>"
  | foreign run => run.message

def headerFault? (name : String) (value : Json) : Option Fault :=
  match Text.foreignRun? name.toList, value with
  | some run, _ => some (.foreign run)
  | none, .string value => (Text.foreignRun? value.toList).map .foreign
  | none, value => some (.kind value.kindName)

/-- Why the first of the headers with a fault cannot be sent. -/
def fault? (headers : Headers) : Option Fault :=
  headers.findSome? fun header => headerFault? header.1 header.2

def value? (headers : Headers) (name : String) : Option String :=
  headers.findSome? fun header =>
    match header.2 with
    | .string value => if header.1.toLower = name.toLower then some value else none
    | _ => none

end Headers

end HybridSearch.Service
