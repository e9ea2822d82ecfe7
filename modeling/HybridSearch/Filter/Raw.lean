import HybridSearch.Checked.Record
import HybridSearch.Checked.Scalar

/-! Filters as callers send them: three texts and two values of any kind. -/

namespace HybridSearch

/-- A filter of which only the shape is known. -/
structure RawFilter where
  slot : String
  fieldType : String
  operator : String
  value : Json
  valueTo : Json

namespace RawFilter

def check (place : Checked.RecordPlace) (input : Json) : Checked RawFilter :=
  Checked.record place "StructuredFilter" input fun members =>
    RawFilter.mk
      <$> Checked.field members ["tagSlot", "tag_slot"] Checked.string
      <*> Checked.field members ["fieldType", "field_type"] Checked.string
      <*> Checked.fieldOr members ["operator"] "eq" Checked.string
      <*> Checked.fieldOr members ["value"] .null .accepted
      <*> Checked.fieldOr members ["valueTo", "value_to"] .null .accepted

end RawFilter

end HybridSearch
