import HybridSearch.Proofs.Request

/-! A search over the wire is checked twice: its body when it comes in, and the request that is made of
it. The second check is the one for requests that are given on their own; of an accepted body it looks
at nothing but the size of the vector. -/

namespace HybridSearch

/-- A filter as a caller may send it. -/
def RawFilter.json (filter : RawFilter) : Json :=
  .object
    [("tag_slot", .string filter.slot), ("field_type", .string filter.fieldType),
      ("operator", .string filter.operator), ("value", filter.value), ("value_to", filter.valueTo)]

theorem RawFilter.check_json (place : Checked.RecordPlace) (filter : RawFilter) :
    check place filter.json = .accepted filter :=
  rfl

theorem Checked.itemsFrom_map_eq_accepted {α : Type} {check : Json → Checked α} {json : α → Json}
    (accepts : ∀ value, check (json value) = .accepted value) (position : Nat) (values : List α) :
    itemsFrom check position (values.map json) = .accepted values := by
  induction values generalizing position with
  | nil => rfl
  | cons value rest induction =>
      exact itemsFrom_cons_eq_accepted_iff.mpr
        ⟨value, rest, accepts value, induction (position + 1), rfl⟩

namespace SearchRequest

theorem checkCount_eq_accepted {count : Nat} (positive : 1 ≤ count)
    (bounded : count ≤ greatestCount) : checkCount (.integer count) = .accepted count := by
  have within : Checked.between 1 greatestCount (.integer count) = .accepted (count : Int) := by
    change (if (greatestCount : Int) < count then _ else if (count : Int) < 1 then _ else _) = _
    rw [if_neg (by omega), if_neg (by omega)]
  rw [checkCount, within]
  rfl

/-- A vector or none, as a caller may send it. -/
def vectorJson (vector? : Option (List Float)) : Json :=
  (vector?.map fun vector => .array (vector.map .float)).getD .null

theorem checkVector_eq_accepted_iff {vector? checked? : Option (List Float)} :
    checkVector (vectorJson vector?) = .accepted checked? ↔
      (∀ vector, vector? = some vector → vector.length = dimension) ∧ checked? = vector? := by
  cases vector? with
  | none => simp [vectorJson, checkVector, Checked.optional, Checked.andThen, eq_comm]
  | some vector =>
      have listed : Checked.optional (Checked.list Checked.number) (.array (vector.map .float)) =
          .accepted (some vector) := by
        have number (value : Float) : Checked.number (.float value) = .accepted value := rfl
        have items : Checked.list Checked.number (.array (vector.map .float)) = .accepted vector :=
          Checked.itemsFrom_map_eq_accepted number 0 vector
        rw [Checked.optional, items]
        · rfl
        · exact Json.noConfusion
      simp only [vectorJson, Option.map_some, Option.getD_some, checkVector, listed,
        Checked.andThen, Option.some.injEq, forall_eq']
      split
      · next sized => simp [sized, eq_comm]
      · next unsized => simp [unsized, Checked.reject]

end SearchRequest

namespace Service.SearchBody

/-- What is made of a body for the second check. -/
def requestInput (body : SearchBody) : Json :=
  .object
    [("knowledge_base_ids", .array (body.bases.map .string)),
      ("top_k", .integer body.count),
      ("structured_filters", .array (body.filters.map RawFilter.json)),
      ("query_vector", SearchRequest.vectorJson body.vector?),
      ("distance_threshold", (body.threshold?.map .float).getD .null)]

open Checked in
/-- The second check of an accepted body accepts the same requests as are made of its parts. -/
theorem check_requestInput_eq_accepted_iff {input : Json} {body : SearchBody}
    (accepted : check input = .accepted body) (request : SearchRequest) :
    SearchRequest.check body.requestInput = .accepted request ↔ body.request? = .ok request := by
  rcases bounds_of_check accepted with ⟨basesNonempty, countPos, countLe⟩
  have bases : nonemptyList string (.array (body.bases.map .string)) = .accepted body.bases :=
    nonemptyList_eq_accepted_iff.mpr ⟨list_string_eq_accepted_iff.mpr rfl, basesNonempty⟩
  have count := SearchRequest.checkCount_eq_accepted countPos countLe
  have filters : list (RawFilter.check .plain) (.array (body.filters.map RawFilter.json)) =
      .accepted body.filters :=
    itemsFrom_map_eq_accepted (RawFilter.check_json .plain) 0 body.filters
  have threshold : optional number ((body.threshold?.map Json.float).getD .null) =
      .accepted body.threshold? := by
    cases body.threshold? <;> rfl
  have fields : SearchRequest.check body.requestInput = (SearchRequest.mk
      <$> ((nonemptyList string (.array (body.bases.map .string))).under
            (.key "knowledge_base_ids")).map List.eraseDups
      <*> (SearchRequest.checkCount (.integer body.count)).under (.key "top_k")
      <*> (list (RawFilter.check .plain) (.array (body.filters.map RawFilter.json))).under
            (.key "structured_filters")
      <*> (SearchRequest.checkVector (SearchRequest.vectorJson body.vector?)).under
            (.key "query_vector")
      <*> (optional number ((body.threshold?.map Json.float).getD .null)).under
            (.key "distance_threshold")) := rfl
  rw [fields, bases, count, filters, threshold, request?_eq_ok_iff]
  cases vector : SearchRequest.checkVector (SearchRequest.vectorJson body.vector?) with
  | accepted vector? =>
      rcases SearchRequest.checkVector_eq_accepted_iff.mp vector with ⟨sized, rfl⟩
      constructor
      · intro same
        cases same
        exact ⟨sized, rfl⟩
      · intro made
        rw [made.2]
        rfl
  | rejected issues =>
      refine iff_of_false nofun fun made => ?_
      cases vector.symm.trans (SearchRequest.checkVector_eq_accepted_iff.mpr ⟨made.1, rfl⟩)

end Service.SearchBody

end HybridSearch
