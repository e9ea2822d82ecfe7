import HybridSearch.Json

/-! The tables of the store, with their columns and the short description of a row. -/

namespace HybridSearch

inductive Table where
  | knowledgeBases
  | documents
  | chunks
deriving Repr, DecidableEq

namespace Table

def rowName : Table → String
  | knowledgeBases => "KnowledgeBase"
  | documents => "Document"
  | chunks => "Embedding"

def columns : Table → List String
  | knowledgeBases =>
      ["id", "name", "description", "embedding_model", "embedding_dimension", "deleted_at",
        "created_at", "updated_at"]
  | documents =>
      ["id", "knowledge_base_id", "filename", "enabled", "chunk_count", "deleted_at",
        "created_at", "updated_at"]
  | chunks =>
      ["id", "knowledge_base_id", "document_id", "chunk_index", "content",
        "tag1", "tag2", "tag3", "tag4", "tag5", "tag6", "tag7",
        "number1", "number2", "number3", "number4", "number5", "date1", "date2",
        "boolean1", "boolean2", "boolean3", "embedding", "enabled", "created_at", "updated_at"]

def children : Table → List String
  | knowledgeBases => ["documents"]
  | documents => ["chunks"]
  | chunks => []

def parents : Table → List String
  | knowledgeBases => []
  | documents => ["knowledge_base"]
  | chunks => ["document"]

/-- Names that every kind of row has for its own use. A value given for one of them is kept beside
the columns and shows nowhere. -/
def reserved : List String :=
  ["metadata", "registry", "mro", "_sa_class_manager", "_sa_registry", "_is_protocol",
    "__abstract__", "__annotations__", "__base__", "__bases__", "__basicsize__", "__call__",
    "__class_getitem__", "__delattr__", "__dictoffset__", "__dir__", "__doc__", "__eq__",
    "__flags__", "__format__", "__ge__", "__getattribute__", "__getstate__", "__gt__", "__hash__",
    "__init__", "__init_subclass__", "__instancecheck__", "__itemsize__", "__le__", "__lt__",
    "__mapper__", "__module__", "__mro__", "__name__", "__ne__", "__new__", "__or__",
    "__orig_bases__", "__parameters__", "__prepare__", "__qualname__", "__reduce__",
    "__reduce_ex__", "__repr__", "__ror__", "__setattr__", "__sizeof__", "__slots__", "__str__",
    "__subclasscheck__", "__subclasses__", "__subclasshook__", "__table__", "__tablename__",
    "__text_signature__", "__weakrefoffset__"]

/-- The columns that the description of a row shows. -/
def shown : Table → List String
  | knowledgeBases => ["id", "name"]
  | documents => ["id", "filename"]
  | chunks => ["id", "document_id", "chunk_index"]

/-- Why a value is not taken into a row, or a row cannot be described. -/
inductive Refusal where
  /-- A row is not a part of itself. -/
  | ownName
  /-- The table has nothing of this name. -/
  | unknownName (table : Table) (name : String)
  /-- Rows are given as a list, and this is none. -/
  | notList (value : Json)
  /-- This is no row. -/
  | notRow (value : Json)
  /-- The kind of a row cannot be set. -/
  | notKind (value : Json)
  /-- All values of a row together are given as an object, and this is none. -/
  | notMembers (value : Json)
  /-- The references to a row cannot be set. -/
  | references
  /-- A row whose values came all together takes no single ones any more. -/
  | closed (table : Table)
  /-- A row whose values came all together lacks one. -/
  | incomplete (table : Table)

/-- The full name of the kind of row that a table holds. -/
def qualifiedName (table : Table) : String :=
  "knowledge_search.models.knowledge." ++ table.rowName

def Refusal.message : Refusal → String
  | ownName => "__init__() got multiple values for argument 'self'"
  | unknownName table name =>
      String.ofList (Text.quoted name.toList) ++ " is an invalid keyword argument for " ++
        table.rowName
  | notList .null => "Incompatible collection type: None is not list-like"
  | notList value => "Incompatible collection type: " ++ value.kindName ++ " is not list-like"
  | notRow value => "'" ++ value.kindName ++ "' object has no attribute '_sa_instance_state'"
  | notKind value => "__class__ must be set to a class, not '" ++ value.kindName ++ "' object"
  | notMembers value => "__dict__ must be set to a dictionary, not a '" ++ value.kindName ++ "'"
  | references => "attribute '__weakref__' of 'DeclarativeBase' objects is not writable"
  | closed table => "'" ++ table.rowName ++ "' object has no attribute '_sa_instance_state'"
  | incomplete table =>
      "Class '" ++ table.qualifiedName ++ "' is mapped, but this instance lacks " ++
        "instrumentation.  This occurs when the instance is created before " ++
        "sqlalchemy.orm.mapper(" ++ table.qualifiedName ++ ") was called."

/-- Why a value is no row to belong to; it may be left open. -/
def refusedParent? : Json → Option Refusal
  | .null => none
  | value => some (.notRow value)

/-- Why a value is no list of rows. Single rows of it may be left open. -/
def refusedChildren? : Json → Option Refusal
  | .array items => items.findSome? refusedParent?
  | value => some (.notList value)

/-- A row in the making. -/
structure Draft where
  values : List (String × Json)
  /-- Whether the values came all together. -/
  isClosed : Bool

/-- Takes a value under a name into a row. -/
def Draft.take (table : Table) (draft : Draft) (name : String) (value : Json) :
    Except Refusal Draft :=
  let refuseUnless (fault? : Option Refusal) (taken : Draft) : Except Refusal Draft :=
    if draft.isClosed then .error (.closed table)
    else
      match fault? with
      | some refusal => .error refusal
      | none => .ok taken
  if name ∈ table.columns then
    refuseUnless none { draft with values := Json.setMember name value draft.values }
  else if name ∈ table.children then refuseUnless (refusedChildren? value) draft
  else if name ∈ table.parents then refuseUnless (refusedParent? value) draft
  else if name ∈ reserved then .ok draft
  else if name = "__class__" then .error (.notKind value)
  else if name = "__weakref__" then .error .references
  else if name = "__dict__" then
    match value with
    | .object members => .ok ⟨members, true⟩
    | value => .error (.notMembers value)
  else .error (.unknownName table name)

/-- The row that some values make, or the first refusal. -/
def draft (table : Table) (row : List (String × Json)) : Except Refusal Draft :=
  if (row.lookup "self").isSome then .error .ownName
  else row.foldlM (fun draft member => draft.take table member.1 member.2) ⟨[], false⟩

/-- The value of a row under a name. A value that is absent is empty, unless the values came all
together. -/
def Draft.value (table : Table) (draft : Draft) (name : String) : Except Refusal Json :=
  match draft.values.lookup name with
  | some value => .ok value
  | none => if draft.isClosed then .error (.incomplete table) else .ok .null

/-- The description of a row: its kind, and the columns that tell it from others. -/
def describe (table : Table) (row : List (String × Json)) : Except Refusal String := do
  let draft ← table.draft row
  let values ← table.shown.mapM fun name =>
    (draft.value table name).map fun value => (name ++ "=" ++ value.text).toList
  return "<" ++ table.rowName ++ "(" ++ String.ofList (Json.separated values) ++ ")>"

end Table

end HybridSearch
