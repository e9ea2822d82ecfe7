import HybridSearch.Proofs.Retrieval.Agreement
import HybridSearch.Proofs.Retrieval.Visibility
import HybridSearch.Proofs.Service.Search

/-! What cannot be seen has no influence on what is answered. Besides its results an answer shows the
names of their documents, and these documents can be seen. -/

namespace HybridSearch

namespace Service

/-- The knowledge bases that bytes ask for, where they hold a search that is accepted. -/
def requestedBases (limit : Nat) (bytes : List UInt8) : List String :=
  match readBody limit bytes with
  | .value input =>
      match SearchBody.check input with
      | .accepted body => body.bases
      | .rejected _ => []
  | _ => []

section

variable {left right : Store} {bases : List String} (agrees : left.AgreesOn right bases)
  (leftKeyed : left.KeyedThroughout) (rightKeyed : right.KeyedThroughout)

include agrees leftKeyed rightKeyed

theorem items_eq {results : List SearchResult}
    (shown : ∀ result ∈ results, ∃ chunk, result.Shows left bases chunk) (usedVector : Bool) :
    items left usedVector results = items right usedVector results := by
  refine List.map_congr_left fun result member => ?_
  rcases shown result member with ⟨chunk, visible, tells⟩
  rw [tells.document, agrees.lookup_eq leftKeyed rightKeyed visible]

variable (surroundings : Surroundings)

theorem search_eq {body : SearchBody} (within : body.bases ⊆ bases) (requestId : String) :
    search { surroundings with store := left } requestId body =
      search { surroundings with store := right } requestId body := by
  rw [search, search]
  split
  · rfl
  · cases requested : body.request? with
    | error wrong => rfl
    | ok request =>
        have requestWithin : request.bases ⊆ bases := by
          rcases SearchBody.request?_eq_ok_iff.mp requested with ⟨_, rfl⟩
          exact fun base listed => within (List.mem_eraseDups.mp listed)
        have same := agrees.search_eq leftKeyed.chunks rightKeyed.chunks surroundings.outage
          requestWithin
        cases planned : request.strategy with
        | error failure => simp only [same, planned]
        | ok strategy =>
            cases found : (left.search surroundings.outage request).outcome with
            | error failure =>
                simp only [← same, planned, found]
                cases failure <;> rfl
            | ok results =>
                simp only [← same, planned, found]
                -- Besides the search, only the names of documents are taken from a store.
                rw [items_eq agrees leftKeyed rightKeyed fun result kept => ?_]
                · rfl
                · rcases Store.shows_of_search leftKeyed.chunks found (mem_of_mem_kept kept) with
                    ⟨chunk, ⟨visible, tells⟩, _⟩
                  exact ⟨chunk, visible.mono requestWithin, tells⟩

theorem handleSearch_eq {bytes : List UInt8}
    (within : requestedBases surroundings.nestingLimit bytes ⊆ bases) (requestId : String) :
    handleSearch { surroundings with store := left } requestId bytes =
      handleSearch { surroundings with store := right } requestId bytes := by
  cases sent : readBody surroundings.nestingLimit bytes with
  | value input =>
      cases checked : SearchBody.check input with
      | accepted body =>
          simp only [requestedBases, sent, checked] at within
          simp only [handleSearch, sent, checked]
          exact search_eq agrees leftKeyed rightKeyed surroundings within requestId
      | rejected issues => simp only [handleSearch, sent, checked]
  | missing => simp only [handleSearch, sent]
  | malformed => simp only [handleSearch, sent]
  | unreadable => simp only [handleSearch, sent]

theorem handle_eq {incoming : Incoming}
    (within : requestedBases surroundings.nestingLimit incoming.body ⊆ bases)
    (metrics : Metrics.Collector) (route : Route) :
    handle { surroundings with store := left } metrics incoming route =
      handle { surroundings with store := right } metrics incoming route := by
  cases route with
  | search => simp only [handle, handleSearch_eq agrees leftKeyed rightKeyed surroundings within]
  | strategy => rfl
  | health => rfl
  | metrics => rfl

theorem serve_eq {incoming : Incoming}
    (within : requestedBases surroundings.nestingLimit incoming.body ⊆ bases)
    (metrics : Metrics.Collector) :
    serve { surroundings with store := left } metrics incoming =
      serve { surroundings with store := right } metrics incoming := by
  rw [serve, serve]
  simp only [handle_eq agrees leftKeyed rightKeyed surroundings within]

end

end Service

/-- Two stores that agree on what can be seen in the knowledge bases of a request are not told apart
by it, whatever else they hold: a search comes to the same results or the same failure, and a request
over the wire is served alike. -/
theorem unseen_without_influence (left right : Store) (leftKeyed : left.KeyedThroughout)
    (rightKeyed : right.KeyedThroughout) :
    (∀ request, left.AgreesOn right request.bases → ∀ outage,
      left.search outage request = right.search outage request ∧
        ∀ mode, left.searchIn outage mode request = right.searchIn outage mode request) ∧
    ∀ (surroundings : Service.Surroundings) (incoming : Service.Incoming),
      left.AgreesOn right (Service.requestedBases surroundings.nestingLimit incoming.body) →
        ∀ metrics : Metrics.Collector,
          Service.serve { surroundings with store := left } metrics incoming =
            Service.serve { surroundings with store := right } metrics incoming := by
  constructor
  · intro request agrees outage
    have within := List.Subset.refl request.bases
    exact ⟨agrees.search_eq leftKeyed.chunks rightKeyed.chunks outage within,
      agrees.searchIn_eq leftKeyed.chunks rightKeyed.chunks outage within⟩
  · intro surroundings incoming agrees metrics
    exact Service.serve_eq agrees leftKeyed rightKeyed surroundings (List.Subset.refl _) metrics

/-- A store like the guarded one in the only chunk that can be seen and its document, and in nothing
else: other chunks have the identifiers of hidden ones, and a document is back under a new name. -/
def alteredStore : Store :=
  let chunk (id base document : String) (enabled : Bool) : Chunk :=
    { id, base, document, position := 0, content := "text", tags := .flagged, vector := [], enabled }
  { documents :=
      [{ id := "gone", base := "a", filename := "new.pdf" },
        { id := "kept", base := "a", filename := "kept.pdf" }]
    chunks :=
      [chunk "1" "c" "kept" true, chunk "2" "a" "gone" false, chunk "4" "a" "kept" true] }

def guardedIncoming : Service.Incoming where
  method := "POST"
  target := ⟨"/api/v1/knowledge/search", []⟩
  requestId? := none
  freshId := "1"
  body :=
    ("\x7b\"knowledge_base_ids\":[\"a\"],\"filters\":[\x7b\"tagSlot\":\"boolean3\",".toList ++
      "\"fieldType\":\"boolean\",\"value\":true\x7d]\x7d".toList).map
        fun character => UInt8.ofNat character.toNat

def usualSurroundings : Service.Surroundings where
  store := {}
  settings := (Settings.check []).value?.get (by decide +kernel)
  endpoint _ := .failed
  outage := .none

theorem guardedStore_agrees : Store.guardedStore.AgreesOn alteredStore ["a"] where
  days := rfl
  chunks := by decide +kernel
  names := by
    have visible : Store.guardedStore.visibleChunks ["a"] = Store.guardedStore.chunks.drop 3 := by
      decide +kernel
    rw [visible]
    simp [Store.Names, Store.guardedStore, alteredStore]

theorem guardedStore_not_told_apart :
    Store.guardedStore.KeyedThroughout ∧ alteredStore.KeyedThroughout ∧
    Store.guardedStore.AgreesOn alteredStore Store.guardedRequest.bases ∧
    Store.guardedStore.AgreesOn alteredStore
      (Service.requestedBases Json.nestingLimit guardedIncoming.body) ∧
    (Store.guardedStore.search .none Store.guardedRequest).outcome = .ok [Store.guardedResult] ∧
    Store.guardedStore.search .none Store.guardedRequest =
      alteredStore.search .none Store.guardedRequest ∧
    let served (store : Store) :=
      Service.serve { usualSurroundings with store } (.ofBounds []) guardedIncoming
    (served Store.guardedStore).answer.status = 200 ∧
      served Store.guardedStore = served alteredStore := by
  have keyed : Store.guardedStore.KeyedThroughout :=
    ⟨by unfold Store.Keyed; decide +kernel, by decide +kernel⟩
  have alteredKeyed : alteredStore.KeyedThroughout :=
    ⟨by unfold Store.Keyed; decide +kernel, by decide +kernel⟩
  have requested : Service.requestedBases Json.nestingLimit guardedIncoming.body = ["a"] := by
    decide +kernel
  rcases unseen_without_influence Store.guardedStore alteredStore keyed alteredKeyed with
    ⟨searches, serves⟩
  refine ⟨keyed, alteredKeyed, guardedStore_agrees, requested ▸ guardedStore_agrees, ?_, ?_, ?_, ?_⟩
  · decide +kernel
  · exact (searches Store.guardedRequest guardedStore_agrees .none).1
  · decide +kernel
  · exact serves usualSurroundings guardedIncoming (requested ▸ guardedStore_agrees) (.ofBounds [])

end HybridSearch
