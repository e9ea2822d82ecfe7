/-! The tag slots of a chunk. There are seventeen of them in four families, one for each type of
value: texts, numbers, dates and truth values. -/

namespace HybridSearch

/-- The type of the values that a slot holds. -/
inductive FieldType where
  | text
  | number
  | date
  | boolean
deriving Repr, DecidableEq

namespace FieldType

/-- The name by which a filter states the type of its slot. -/
def name : FieldType → String
  | text => "text"
  | number => "number"
  | date => "date"
  | boolean => "boolean"

end FieldType

/-- A tag slot: its family and its position in it. -/
inductive Slot where
  | text (position : Fin 7)
  | number (position : Fin 5)
  | date (position : Fin 2)
  | boolean (position : Fin 3)
deriving Repr, DecidableEq

namespace Slot

def fieldType : Slot → FieldType
  | text _ => .text
  | number _ => .number
  | date _ => .date
  | boolean _ => .boolean

/-- The name of a slot. Positions are counted from one. -/
def name : Slot → String
  | text position => "tag" ++ toString (position.val + 1)
  | number position => "number" ++ toString (position.val + 1)
  | date position => "date" ++ toString (position.val + 1)
  | boolean position => "boolean" ++ toString (position.val + 1)

/-- All slots, in the order in which a chunk lists them. -/
def all : List Slot :=
  (List.finRange 7).map text ++ (List.finRange 5).map number ++
    (List.finRange 2).map date ++ (List.finRange 3).map boolean

def ofName? (name : String) : Option Slot :=
  all.find? fun slot => slot.name = name

end Slot

end HybridSearch
