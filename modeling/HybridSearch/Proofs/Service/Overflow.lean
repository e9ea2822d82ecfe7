import HybridSearch.Proofs.Retrieval.Failure
import HybridSearch.Proofs.Service.Search

/-! A filter that cannot be read, seen from outside: the request that it is part of has no answer of
its own. -/

namespace HybridSearch

namespace Service

variable {surroundings : Surroundings} {incoming : Incoming} {metrics : Metrics.Collector}

theorem search_of_overflow {requestId : String} {body : SearchBody} {request : SearchRequest}
    (valid : request.Valid) (requested : body.request? = .ok request)
    (overflowing : ∃ raw ∈ body.filters, raw.Overflows) :
    (search surroundings requestId body).answer? = none := by
  rcases valid.exists_strategy with ⟨strategy, planned⟩
  have something : body.GivesSomething := by
    rcases overflowing with ⟨raw, member, _⟩
    exact .inr (List.ne_nil_of_mem member)
  rw [← SearchBody.filters_of_request? requested] at overflowing
  have failed := (Store.search_eq_integerTooLarge_iff surroundings.store surroundings.outage
    valid).mpr overflowing
  exact answer?_search_of_failure something requested planned failed

/-- A request without an answer of its own is answered with status 500. -/
theorem status_of_failed_search {input : Json} {body : SearchBody}
    (routed : Route.ofPath? incoming.target.path = some .search)
    (posted : incoming.method = Route.search.method)
    (sent : readBody surroundings.nestingLimit incoming.body = .value input)
    (accepted : SearchBody.check input = .accepted body)
    (failed : (search surroundings incoming.requestId body).answer? = none) :
    (serve surroundings metrics incoming).answer.status = 500 := by
  have submitted := submitted?_eq_some_iff.mpr ⟨input, sent, accepted⟩
  rw [answer_serve_search routed posted, handleSearch_of_submitted submitted, failed]
  rfl

/-- Bytes that hold a search with a filter that cannot be read. -/
def CarriesOverflow (limit : Nat) (bytes : List UInt8) : Prop :=
  ∃ input body request, readBody limit bytes = .value input ∧
    SearchBody.check input = .accepted body ∧ body.request? = .ok request ∧
      ∃ raw ∈ body.filters, raw.Overflows

instance (limit : Nat) (bytes : List UInt8) : Decidable (CarriesOverflow limit bytes) :=
  match sent : readBody limit bytes with
  | .value input =>
      match accepted : SearchBody.check input with
      | .accepted body =>
          match requested : body.request? with
          | .ok request =>
              if overflowing : ∃ raw ∈ body.filters, raw.Overflows then
                isTrue ⟨input, body, request, sent, accepted, requested, overflowing⟩
              else isFalse (by simp_all [CarriesOverflow])
          | .error wrong => isFalse (by simp_all [CarriesOverflow])
      | .rejected issues => isFalse (by simp_all [CarriesOverflow])
  | .missing => isFalse (by simp_all [CarriesOverflow])
  | .malformed => isFalse (by simp_all [CarriesOverflow])
  | .unreadable => isFalse (by simp_all [CarriesOverflow])

theorem status_of_overflow (routed : Route.ofPath? incoming.target.path = some .search)
    (posted : incoming.method = Route.search.method)
    (carried : CarriesOverflow surroundings.nestingLimit incoming.body) :
    (serve surroundings metrics incoming).answer.status = 500 := by
  rcases carried with ⟨input, body, request, sent, accepted, requested, overflowing⟩
  have valid := SearchBody.valid_of_request? accepted requested
  exact status_of_failed_search routed posted sent accepted
    (search_of_overflow valid requested overflowing)

end Service

/-- One filter can fail a request. Reading a filter fails exactly where it overflows, a compilation
exactly where one of its filters does, and so does a valid search; a request for a search over the
wire is answered with status 500 then. -/
theorem fails_iff_overflows (raw : RawFilter) (values : List Json) (store : Store)
    (outage : Outage) (request : SearchRequest) (valid : request.Valid)
    (surroundings : Service.Surroundings) (metrics : Metrics.Collector)
    (incoming : Service.Incoming)
    (routed : Service.Route.ofPath? incoming.target.path = some .search)
    (posted : incoming.method = Service.Route.search.method) :
    ((∃ reading, raw.read = .ok reading) ↔ ¬raw.Overflows) ∧
    ((∃ compiled, Compiled.ofValues values = .ok compiled) ↔
      ∀ raw ∈ RawFilter.shaped values, ¬raw.Overflows) ∧
    ((store.search outage request).outcome = .error .integerTooLarge ↔
      ∃ raw ∈ request.filters, raw.Overflows) ∧
    (Service.CarriesOverflow surroundings.nestingLimit incoming.body →
      (Service.serve surroundings metrics incoming).answer.status = 500) := by
  refine ⟨raw.exists_read_eq_ok_iff, Compiled.exists_ofValues_eq_ok_iff values, ?_, ?_⟩
  · exact store.search_eq_integerTooLarge_iff outage valid
  · intro carried
    exact Service.status_of_overflow routed posted carried

/-! ## A filter with an integer of 401 digits -/

def oversizedFilter : RawFilter where
  slot := "number1"
  fieldType := "number"
  operator := "eq"
  value := .integer (Nat.pow 10 400)
  valueTo := .null

def oversizedRequest : SearchRequest where
  bases := ["a"]
  count := 10
  filters := [oversizedFilter]
  vector? := none
  threshold? := none

/-- The body of a search with the filter. -/
def oversizedBody : List UInt8 :=
  let text :=
    "\x7b\"knowledge_base_ids\":[\"a\"],\"filters\":[\x7b\"tagSlot\":\"number1\",".toList ++
      "\"fieldType\":\"number\",\"value\":1".toList ++ List.replicate 400 '0' ++
        "\x7d]\x7d".toList
  text.map fun character => UInt8.ofNat character.toNat

def oversizedIncoming : Service.Incoming where
  method := "POST"
  target := ⟨"/api/v1/knowledge/search", []⟩
  requestId? := none
  freshId := "1"
  body := oversizedBody

theorem oversizedFilter_fails : oversizedRequest.Valid ∧
    ¬(∃ reading, oversizedFilter.read = .ok reading) ∧
    (Store.search {} .none oversizedRequest).outcome = .error .integerTooLarge ∧
    ∃ surroundings metrics,
      (Service.serve surroundings metrics oversizedIncoming).answer.status = 500 := by
  have overflows : oversizedFilter.Overflows := by decide +kernel
  have valid : oversizedRequest.Valid := ⟨by decide, by decide, by decide, by decide, nofun⟩
  have carried : Service.CarriesOverflow Json.nestingLimit oversizedIncoming.body := by decide +kernel
  have checked : (Settings.check []).value?.isSome = true := by decide +kernel
  rcases Option.isSome_iff_exists.mp checked with ⟨settings, _⟩
  let surroundings : Service.Surroundings :=
    { store := {}, settings, endpoint := fun _ => .failed, outage := .none }
  rcases fails_iff_overflows oversizedFilter [] {} .none oversizedRequest valid surroundings
    (.ofBounds []) oversizedIncoming (by decide +kernel) rfl with ⟨reads, _, searches, served⟩
  refine ⟨valid, fun read => reads.mp read overflows, ?_, surroundings, _, served carried⟩
  exact searches.mpr ⟨oversizedFilter, List.mem_singleton.mpr rfl, overflows⟩

/-- Not every filter can be read. -/
theorem not_all_filters_read : ¬∀ raw : RawFilter, ∃ reading, raw.read = .ok reading := by
  intro all
  have overflows : oversizedFilter.Overflows := by decide +kernel
  exact oversizedFilter.exists_read_eq_ok_iff.mp (all oversizedFilter) overflows

end HybridSearch
