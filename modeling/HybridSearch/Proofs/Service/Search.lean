import HybridSearch.Proofs.Rerank.Report
import HybridSearch.Proofs.Strategy
import HybridSearch.Service

/-! The ways through the route that searches, from the bytes of a body to the answer: one equation for
each of them. -/

namespace HybridSearch.Service

/-- The search that bytes hold, if they are read and accepted. -/
def submitted? (limit : Nat) (bytes : List UInt8) : Option SearchBody :=
  match readBody limit bytes with
  | .value input => (SearchBody.check input).value?
  | _ => none

/-- A body gives something to search by: a vector that is not empty, or filters. -/
def SearchBody.GivesSomething (body : SearchBody) : Prop :=
  (∃ vector, body.vector? = some vector ∧ vector ≠ []) ∨ body.filters ≠ []

/-- What is left of the results of a search when reranking is through with them. Without reranking
all of them are. -/
def kept (reranking? : Option Rerank.Report) (results : List SearchResult) : List SearchResult :=
  match reranking? with
  | some report => report.outcome.apply results
  | none => results

/-- What is sent for the results of a search. -/
def answerFor (surroundings : Surroundings) (requestId : String) (body : SearchBody)
    (request : SearchRequest) (strategy : Strategy) (results : List SearchResult) : SearchAnswer where
  items := items surroundings.store body.hasVector
    (kept (rerank? surroundings requestId body results) results)
  query? := body.query?
  bases := request.bases
  count := request.count
  strategy

variable {surroundings : Surroundings} {metrics : Metrics.Collector} {incoming : Incoming}
  {requestId : String} {body : SearchBody}

theorem mem_of_mem_kept {reranking? : Option Rerank.Report} {results : List SearchResult}
    {result : SearchResult} (left : result ∈ kept reranking? results) : result ∈ results := by
  cases reranking? with
  | none => exact left
  | some report => exact Rerank.Outcome.mem_of_mem_apply left

theorem SearchBody.hasVector_eq_true_iff :
    body.hasVector = true ↔ ∃ vector, body.vector? = some vector ∧ vector ≠ [] := by
  rw [hasVector]
  cases body.vector? <;> simp

theorem SearchBody.givesSomething_iff :
    body.GivesSomething ↔ ¬(!body.hasVector && body.filters.isEmpty) = true := by
  rw [GivesSomething, ← hasVector_eq_true_iff]
  cases body.hasVector <;> cases body.filters <;> simp

/-! ## Searches -/

theorem search_of_nothing (nothing : ¬body.GivesSomething) :
    search surroundings requestId body = { answer? := some (refusal 400 nothingToSearchBy) } := by
  rw [SearchBody.givesSomething_iff, Decidable.not_not] at nothing
  rw [search, if_pos nothing]

theorem search_of_wrongSize (something : body.GivesSomething) {wrong : SearchBody.WrongSize}
    (unsized : body.request? = .error wrong) :
    search surroundings requestId body = { answer? := some (refusal 422 wrong.message) } := by
  rw [search, if_neg (SearchBody.givesSomething_iff.mp something), unsized]

section Requested

variable {request : SearchRequest} {strategy : Strategy}

theorem answer?_search_of_results (something : body.GivesSomething)
    (requested : body.request? = .ok request) (planned : request.strategy = .ok strategy)
    {results : List SearchResult}
    (found : (surroundings.store.search surroundings.outage request).outcome = .ok results) :
    (search surroundings requestId body).answer? =
      answerJson 200 (answerFor surroundings requestId body request strategy results).json := by
  rw [search, if_neg (SearchBody.givesSomething_iff.mp something)]
  simp only [requested, planned, found]
  rfl

theorem reranking?_search_of_results (something : body.GivesSomething)
    (requested : body.request? = .ok request) (planned : request.strategy = .ok strategy)
    {results : List SearchResult}
    (found : (surroundings.store.search surroundings.outage request).outcome = .ok results) :
    (search surroundings requestId body).reranking? =
      rerank? surroundings requestId body results := by
  rw [search, if_neg (SearchBody.givesSomething_iff.mp something)]
  simp only [requested, planned, found]

/-- A search that fails has no answer unless it is refused. -/
theorem answer?_search_of_failure (something : body.GivesSomething)
    (requested : body.request? = .ok request) (planned : request.strategy = .ok strategy)
    {failure : Failure}
    (failed : (surroundings.store.search surroundings.outage request).outcome = .error failure) :
    (search surroundings requestId body).answer? =
      match failure with
      | .unmet precondition => some (refusal 400 precondition.message)
      | _ => none := by
  rw [search, if_neg (SearchBody.givesSomething_iff.mp something)]
  simp only [requested, planned, failed]
  cases failure <;> rfl

end Requested

/-- An answer with status 200 shows what a search came to. -/
theorem exists_results_of_status {input : Json} (accepted : SearchBody.check input = .accepted body)
    {answer : Answer} (answered : (search surroundings requestId body).answer? = some answer)
    (succeeded : answer.status = 200) :
    ∃ request strategy results, body.request? = .ok request ∧ request.strategy = .ok strategy ∧
      (surroundings.store.search surroundings.outage request).outcome = .ok results ∧
      (search surroundings requestId body).reranking? =
        rerank? surroundings requestId body results ∧
      answer.content =
        .json (answerFor surroundings requestId body request strategy results).json := by
  by_cases something : body.GivesSomething
  · cases requested : body.request? with
    | error wrong =>
        rw [search_of_wrongSize something requested] at answered
        cases answered
        cases succeeded
    | ok request =>
        rcases (SearchBody.valid_of_request? accepted requested).exists_strategy with
          ⟨strategy, planned⟩
        cases found : (surroundings.store.search surroundings.outage request).outcome with
        | error failure =>
            rw [answer?_search_of_failure something requested planned found] at answered
            split at answered <;> cases answered
            cases succeeded
        | ok results =>
            rw [answer?_search_of_results something requested planned found, answerJson] at answered
            split at answered <;> cases answered
            exact ⟨request, strategy, results, rfl, planned, found,
              reranking?_search_of_results something requested planned found, rfl⟩
  · rw [search_of_nothing something] at answered
    cases answered
    cases succeeded

/-! ## Bodies -/

theorem submitted?_eq_some_iff {limit : Nat} {bytes : List UInt8} :
    submitted? limit bytes = some body ↔
      ∃ input, readBody limit bytes = .value input ∧ SearchBody.check input = .accepted body := by
  rw [submitted?]
  cases readBody limit bytes with
  | value input => cases checked : SearchBody.check input <;> simp [Checked.value?, checked]
  | missing => simp
  | malformed => simp
  | unreadable => simp

theorem handleSearch_of_submitted {bytes : List UInt8}
    (submitted : submitted? surroundings.nestingLimit bytes = some body) :
    handleSearch surroundings requestId bytes = search surroundings requestId body := by
  rcases submitted?_eq_some_iff.mp submitted with ⟨input, sent, accepted⟩
  simp only [handleSearch, sent, accepted]

/-- Only a body that is accepted has an answer with status 200. -/
theorem exists_submitted_of_status {bytes : List UInt8} {answer : Answer}
    (answered : (handleSearch surroundings requestId bytes).answer? = some answer)
    (succeeded : answer.status = 200) :
    ∃ body, submitted? surroundings.nestingLimit bytes = some body := by
  have notRejected : ∀ issues, rejection issues ≠ some answer := by
    intro issues rejected
    rw [rejection] at rejected
    split at rejected <;> cases rejected
    cases succeeded
  cases sent : readBody surroundings.nestingLimit bytes with
  | value input =>
      cases checked : SearchBody.check input with
      | accepted body => exact ⟨body, submitted?_eq_some_iff.mpr ⟨input, sent, checked⟩⟩
      | rejected issues =>
          simp only [handleSearch, sent, checked] at answered
          exact absurd answered (notRejected _)
  | missing =>
      simp only [handleSearch, sent] at answered
      exact absurd answered (notRejected _)
  | malformed =>
      simp only [handleSearch, sent] at answered
      exact absurd answered (notRejected _)
  | unreadable =>
      simp only [handleSearch, sent] at answered
      cases answered
      cases succeeded

section Serving

variable (routed : Route.ofPath? incoming.target.path = some .search)
  (posted : incoming.method = Route.search.method)

include posted in
theorem handle_search : handle surroundings metrics incoming .search =
    handleSearch surroundings incoming.requestId incoming.body := by
  rw [handle, if_neg (fun different => different posted)]

include routed posted

/-- A request for a search has the answer of its route, or that of a failed handler. -/
theorem answer_serve_search :
    (serve surroundings metrics incoming).answer =
      (handleSearch surroundings incoming.requestId incoming.body).answer?.getD failureAnswer := by
  have notHead : incoming.method ≠ "HEAD" := by
    rw [posted]
    decide
  simp only [serve, routed, handle_search posted]
  rw [Answer.forMethod, if_neg notHead]

theorem reranking?_serve_search :
    (serve surroundings metrics incoming).reranking? =
      (handleSearch surroundings incoming.requestId incoming.body).reranking? := by
  simp only [serve, routed, handle_search posted]

end Serving

end HybridSearch.Service
