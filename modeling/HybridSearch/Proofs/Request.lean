import HybridSearch.Proofs.Checked
import HybridSearch.Proofs.Distinct
import HybridSearch.Request
import HybridSearch.Service.SearchBody

/-! What is known of a request once it has passed its checks, given on its own or over the wire. -/

namespace HybridSearch

/-- What the checks of a request leave: knowledge bases that are all different, a number of results
within its bounds, and a vector of the right size. -/
structure SearchRequest.Valid (request : SearchRequest) : Prop where
  bases_ne_nil : request.bases ≠ []
  bases_nodup : request.bases.Nodup
  count_pos : 1 ≤ request.count
  count_le : request.count ≤ greatestCount
  vector_length : ∀ vector, request.vector? = some vector → vector.length = dimension

/-- The first of the unit vectors, as a request may have it. -/
def unitVector : List Float :=
  1.0 :: List.replicate 1535 0.0

theorem length_unitVector : unitVector.length = dimension := by
  rw [unitVector, List.length_cons, List.length_replicate]
  rfl

namespace SearchRequest

theorem Valid.vector_ne_nil {request : SearchRequest} (valid : request.Valid) {vector : List Float}
    (given : request.vector? = some vector) : vector ≠ [] := by
  rintro rfl
  exact absurd (valid.vector_length [] given) (by decide)

theorem count_bounds {input : Json} {count : Nat} (accepted : checkCount input = .accepted count) :
    1 ≤ count ∧ count ≤ greatestCount := by
  rcases Checked.map_eq_accepted_iff.mp accepted with ⟨integer, between, rfl⟩
  have bounds := Checked.bounds_of_between between
  omega

theorem defaultCount_bounds : 1 ≤ defaultCount ∧ defaultCount ≤ greatestCount := by
  decide

theorem length_of_checkVector {input : Json} {vector? : Option (List Float)}
    (accepted : checkVector input = .accepted vector?) (vector : List Float)
    (given : vector? = some vector) : vector.length = dimension := by
  rcases Checked.andThen_eq_accepted_iff.mp accepted with ⟨checked?, _, sized⟩
  split at sized
  · cases sized
    cases given
  · next checked =>
      split at sized
      · next right =>
          cases sized
          cases given
          exact right
      · cases sized

def baseKeys : List String :=
  ["knowledgeBaseIds", "knowledge_base_ids"]

/-- What is known of the fields of a request that is accepted on its own. -/
theorem fields_of_check {input : Json} {request : SearchRequest}
    (accepted : check input = .accepted request) : ∃ members bases,
      input = .object members ∧
      Checked.field members baseKeys (Checked.nonemptyList Checked.string) = .accepted bases ∧
      bases.eraseDups = request.bases ∧
      Checked.fieldOr members ["topK", "top_k"] defaultCount checkCount =
        .accepted request.count ∧
      Checked.fieldOr members ["queryVector", "query_vector"] none checkVector =
        .accepted request.vector? := by
  rcases Checked.exists_members_of_record accepted with ⟨members, isObject, allFields⟩
  rcases Checked.seq_eq_accepted_iff.mp allFields with ⟨_, threshold?, withVector, _, rfl⟩
  rcases Checked.seq_eq_accepted_iff.mp withVector with ⟨_, vector?, withFilters, vectorField, rfl⟩
  rcases Checked.seq_eq_accepted_iff.mp withFilters with ⟨_, filters, withCount, _, rfl⟩
  rcases Checked.seq_eq_accepted_iff.mp withCount with ⟨_, count, withBases, countField, rfl⟩
  rcases Checked.map_eq_accepted_iff.mp withBases with ⟨distinct, basesField, rfl⟩
  rcases Checked.map_eq_accepted_iff.mp basesField with ⟨bases, given, rfl⟩
  exact ⟨members, bases, isObject, given, rfl, countField, vectorField⟩

/-- A request that is accepted on its own is valid. -/
theorem valid_of_check {input : Json} {request : SearchRequest}
    (accepted : check input = .accepted request) : request.Valid := by
  rcases fields_of_check accepted with
    ⟨members, bases, _, basesField, distinct, countField, vectorField⟩
  rcases Checked.exists_input_of_field basesField with ⟨_, basesInput, _, basesChecked⟩
  have countBounds : 1 ≤ request.count ∧ request.count ≤ greatestCount := by
    rcases Checked.fieldOr_cases countField with default | ⟨countInput, countChecked⟩
    · exact default ▸ defaultCount_bounds
    · exact count_bounds countChecked
  exact {
    bases_ne_nil :=
      distinct ▸ eraseDups_ne_nil (Checked.nonemptyList_eq_accepted_iff.mp basesChecked).2
    bases_nodup := distinct ▸ nodup_eraseDups bases
    count_pos := countBounds.1
    count_le := countBounds.2
    vector_length := by
      intro vector equal
      rcases Checked.fieldOr_cases vectorField with absent | ⟨vectorInput, vectorChecked⟩
      · cases absent.symm.trans equal
      · exact length_of_checkVector vectorChecked vector equal
  }

/-- The knowledge bases that a request names as it is submitted, repetitions included. -/
def submittedBases : Json → List String
  | .object members =>
      match Checked.firstMember? members baseKeys with
      | some (_, .array items) => items.filterMap fun
          | .string base => some base
          | _ => none
      | _ => []
  | _ => []

theorem bases_of_check {input : Json} {request : SearchRequest}
    (accepted : check input = .accepted request) :
    request.bases = (submittedBases input).eraseDups := by
  rcases fields_of_check accepted with ⟨members, bases, rfl, basesField, distinct, _, _⟩
  rcases Checked.exists_input_of_field basesField with ⟨key, basesInput, found, basesChecked⟩
  have listed := (Checked.nonemptyList_eq_accepted_iff.mp basesChecked).1
  rw [Checked.list_string_eq_accepted_iff.mp listed] at found
  rw [← distinct, submittedBases, found]
  simp only [List.filterMap_map]
  exact congrArg List.eraseDups List.filterMap_some.symm

end SearchRequest

namespace Service.SearchBody

theorem bounds_of_check {input : Json} {body : SearchBody}
    (accepted : check input = .accepted body) : body.bases ≠ [] ∧
      1 ≤ body.count ∧ body.count ≤ greatestCount := by
  rcases Checked.exists_members_of_record accepted with ⟨members, _, allFields⟩
  rcases Checked.seq_eq_accepted_iff.mp allFields with ⟨_, rerank?, withThreshold, _, rfl⟩
  rcases Checked.seq_eq_accepted_iff.mp withThreshold with ⟨_, threshold?, withCount, _, rfl⟩
  rcases Checked.seq_eq_accepted_iff.mp withCount with ⟨_, count, withFilters, countField, rfl⟩
  rcases Checked.seq_eq_accepted_iff.mp withFilters with ⟨_, filters, withVector, _, rfl⟩
  rcases Checked.seq_eq_accepted_iff.mp withVector with ⟨_, vector?, withQuery, _, rfl⟩
  rcases Checked.seq_eq_accepted_iff.mp withQuery with ⟨_, query?, withBases, _, rfl⟩
  rcases Checked.map_eq_accepted_iff.mp withBases with ⟨bases, basesField, rfl⟩
  rcases Checked.exists_input_of_field basesField with ⟨_, basesInput, _, basesChecked⟩
  refine ⟨(Checked.nonemptyList_eq_accepted_iff.mp basesChecked).2, ?_⟩
  rcases Checked.fieldOr_cases countField with rfl | ⟨countInput, countChecked⟩
  · exact SearchRequest.defaultCount_bounds
  · exact SearchRequest.count_bounds countChecked

/-- A body has a request exactly when its vector, if there is one, has the right size. -/
theorem request?_eq_ok_iff {body : SearchBody} {request : SearchRequest} :
    body.request? = .ok request ↔
      (∀ vector, body.vector? = some vector → vector.length = dimension) ∧
        request =
          ⟨body.bases.eraseDups, body.count, body.filters, body.vector?, body.threshold?⟩ := by
  rw [request?]
  split
  · next vector given =>
      split
      · next right => simp [given, right, eq_comm]
      · next wrong => simp [given, wrong]
  · next absent => simp [absent, eq_comm]

theorem filters_of_request? {body : SearchBody} {request : SearchRequest}
    (requested : body.request? = .ok request) : request.filters = body.filters := by
  rcases request?_eq_ok_iff.mp requested with ⟨_, rfl⟩
  rfl

theorem vector?_of_request? {body : SearchBody} {request : SearchRequest}
    (requested : body.request? = .ok request) : request.vector? = body.vector? := by
  rcases request?_eq_ok_iff.mp requested with ⟨_, rfl⟩
  rfl

theorem hasVector_of_request? {body : SearchBody} {request : SearchRequest}
    (requested : body.request? = .ok request) : request.hasVector = body.hasVector := by
  rcases request?_eq_ok_iff.mp requested with ⟨_, rfl⟩
  rfl

/-- The request of an accepted body is valid. -/
theorem valid_of_request? {input : Json} {body : SearchBody} {request : SearchRequest}
    (accepted : check input = .accepted body) (requested : body.request? = .ok request) :
    request.Valid := by
  rcases bounds_of_check accepted with ⟨basesNonempty, countPos, countLe⟩
  rcases request?_eq_ok_iff.mp requested with ⟨sized, rfl⟩
  exact {
    bases_ne_nil := eraseDups_ne_nil basesNonempty
    bases_nodup := nodup_eraseDups body.bases
    count_pos := countPos
    count_le := countLe
    vector_length := sized
  }

end Service.SearchBody

end HybridSearch
