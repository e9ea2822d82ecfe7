import HybridSearch.Checked

/-! Checks of lists and of the fields of a record. A field may have several keys; the first of them
that is present counts, and a field that is missing is reported under its first key. -/

namespace HybridSearch.Checked

variable {α : Type}

def optional (check : Json → Checked α) : Json → Checked (Option α)
  | .null => accepted none
  | input => (check input).map some

/-- Checks the items of a list from a position on; every issue is reported. -/
def itemsFrom (check : Json → Checked α) (position : Nat) : List Json → Checked (List α)
  | [] => accepted []
  | item :: rest =>
      List.cons <$> (check item).under (.index position) <*> itemsFrom check (position + 1) rest

def list (check : Json → Checked α) : Json → Checked (List α)
  | .array items => itemsFrom check 0 items
  | input => reject .notList input

def nonemptyList (check : Json → Checked α) (input : Json) : Checked (List α) :=
  (list check input).andThen fun values =>
    if values.isEmpty then reject .emptyList input else accepted values

/-- What stands for a record: any object, but the two places report a value that is no object in
different words. -/
inductive RecordPlace where
  /-- A value given on its own, with the name of the record that is expected. -/
  | plain
  /-- Part of a request body. -/
  | body
deriving DecidableEq

/-- The members of the object that stands for a record. -/
def record (place : RecordPlace) (name : String) (input : Json)
    (check : List (String × Json) → Checked α) : Checked α :=
  match input, place with
  | .object members, _ => check members
  | input, .plain => reject (.notRecord name) input
  | input, .body => reject .notObject input

/-- The first of the keys that is present, with its value. -/
def firstMember? (members : List (String × Json)) (keys : List String) : Option (String × Json) :=
  keys.findSome? fun key => (members.lookup key).map fun value => (key, value)

def field (members : List (String × Json)) (keys : List String) (check : Json → Checked α) :
    Checked α :=
  match firstMember? members keys with
  | some (key, value) => (check value).under (.key key)
  | none => rejected [⟨.missing, (keys.head?.map PathStep.key).toList, .object members⟩]

def fieldOr (members : List (String × Json)) (keys : List String) (default : α)
    (check : Json → Checked α) : Checked α :=
  match firstMember? members keys with
  | some (key, value) => (check value).under (.key key)
  | none => accepted default

end HybridSearch.Checked
