import HybridSearch.Number.Text
import HybridSearch.Text.Quoted

/-! Values as callers send them. Integers and floating-point numbers are kept apart, and integers
may have any size. The members of an object stand in the order in which their keys first came, and
no key stands twice. -/

namespace HybridSearch

/-- A value as a caller sends it. -/
inductive Json where
  | null
  | bool (value : Bool)
  | integer (value : Int)
  | float (value : Float)
  | string (value : String)
  | array (items : List Json)
  | object (members : List (String × Json))

namespace Json

instance : Inhabited Json := ⟨.null⟩

/-- Sets the value of a key: a key that is present keeps its place, a new one goes to the end. -/
def setMember (key : String) (value : Json) : List (String × Json) → List (String × Json)
  | [] => [(key, value)]
  | (other, old) :: rest =>
      if other = key then (key, value) :: rest
      else (other, old) :: setMember key value rest

/-- An object of members that may repeat a key; the last value of a key counts. -/
def ofMembers (members : List (String × Json)) : Json :=
  .object (members.foldl (fun kept member => setMember member.1 member.2 kept) [])

/-- The value of a key of an object. -/
def member? (key : String) : Json → Option Json
  | .object members => members.lookup key
  | _ => none

def kindName : Json → String
  | .null => "NoneType"
  | .bool _ => "bool"
  | .integer _ => "int"
  | .float _ => "float"
  | .string _ => "str"
  | .array _ => "list"
  | .object _ => "dict"

/-- Whether a value counts as true: all do but the empty ones and zero. -/
def isTruthy : Json → Bool
  | .null => false
  | .bool value => value
  | .integer value => value ≠ 0
  | .float value => !(value == 0.0)
  | .string value => value ≠ ""
  | .array items => !items.isEmpty
  | .object members => !members.isEmpty

/-! ## The text of a value

A string stands for itself as a whole value and is quoted inside a list or an object. -/

def boolText (value : Bool) : String :=
  if value then "True" else "False"

def separated : List (List Char) → List Char
  | [] => []
  | [single] => single
  | first :: rest => first ++ ',' :: ' ' :: separated rest

mutual
def nestedText : Json → List Char
  | .null => ['N', 'o', 'n', 'e']
  | .bool value => (boolText value).toList
  | .integer value => (toString value).toList
  | .float value => (Number.text value).toList
  | .string value => Text.quoted value.toList
  | .array items => '[' :: separated (itemTexts items) ++ [']']
  | .object members => '\x7b' :: separated (memberTexts members) ++ ['\x7d']

def itemTexts : List Json → List (List Char)
  | [] => []
  | item :: rest => nestedText item :: itemTexts rest

/-- The texts of the members of an object, each a key and a value. -/
def memberTexts : List (String × Json) → List (List Char)
  | [] => []
  | (key, value) :: rest =>
      (Text.quoted key.toList ++ ':' :: ' ' :: nestedText value) :: memberTexts rest
end

/-- The text of a value. An integer has one whatever its size, though the service writes none of more
than 4300 digits; none longer is read from a body either. -/
def text : Json → String
  | .string value => value
  | value => String.ofList value.nestedText

mutual
def allFinite : Json → Bool
  | .float value => value.isFinite
  | .array items => itemsFinite items
  | .object members => membersFinite members
  | _ => true

def itemsFinite : List Json → Bool
  | [] => true
  | item :: rest => item.allFinite && itemsFinite rest

def membersFinite : List (String × Json) → Bool
  | [] => true
  | (_, value) :: rest => value.allFinite && membersFinite rest
end

end Json

end HybridSearch
