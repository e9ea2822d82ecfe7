import HybridSearch.Proofs.Retrieval.Runs
import HybridSearch.Proofs.Service.Agreement
import HybridSearch.Proofs.Service.Overflow
import HybridSearch.Proofs.Service.Presentation
import HybridSearch.Proofs.Service.Resubmission
import HybridSearch.Proofs.Service.Search

/-! The status of an answer to a search. As long as the store answers its queries, it is decided by the
body alone: neither what is stored nor what the scoring service does has any influence on it. -/

namespace HybridSearch.Service

/-- The status that belongs to a body which has passed its checks. -/
def SearchBody.status (body : SearchBody) : Nat :=
  if (body.vector? = none ∨ body.vector? = some []) ∧ body.filters = [] then 400
  else if body.vector?.any fun vector => vector.length ≠ dimension then 422
  else 200

/-- The status that belongs to the bytes of a body. -/
def statusOf (limit : Nat) (bytes : List UInt8) : Nat :=
  match readBody limit bytes with
  | .unreadable => 400
  | .missing | .malformed => 422
  | .value input =>
      match SearchBody.check input with
      | .rejected _ => 422
      | .accepted body => body.status

/-- Whether an escape in a text names half of a surrogate pair, and not the other half with it. -/
def namesLoneHalf : List Char → Bool
  | '\\' :: 'u' :: first :: second :: third :: fourth :: rest =>
      match Json.hexValue? [first, second, third, fourth] with
      | none => namesLoneHalf rest
      | some unit =>
          if Json.isHighHalf unit then
            match rest with
            | '\\' :: 'u' :: first :: second :: third :: fourth :: rest =>
                !(Json.hexValue? [first, second, third, fourth]).any Json.isLowHalf ||
                  namesLoneHalf rest
            | _ => true
          else Json.isLowHalf unit || namesLoneHalf rest
  | '\\' :: _ :: rest => namesLoneHalf rest
  | _ :: rest => namesLoneHalf rest
  | [] => false

/-- Whether bytes hold characters only: no half of a surrogate pair stands alone in their text, as it is
or in an escape. -/
def holdsCharacters (bytes : List UInt8) : Bool :=
  (Text.codes? bytes).all fun codes =>
    !codes.any Text.isHalf && !namesLoneHalf (codes.map Text.characterOf)

/-- A body can be repeated, as answers do in part. A text with a lone half of a surrogate pair cannot be
sent, nor can a number that is not finite; what becomes of a request whose answer would have to is not
described here. -/
structure Repeatable (limit : Nat) (bytes : List UInt8) : Prop where
  characters : holdsCharacters bytes = true
  numbers : ∀ input issues, readBody limit bytes = .value input →
    SearchBody.check input = .rejected issues → ∀ issue ∈ issues, issue.input.allFinite = true

/-- The queries for a body succeed, with numbers that are finite: sessions can be opened, filters can
be read, and distances can be taken and sent. -/
structure QueriesSucceed (store : Store) (outage : Outage) (body : SearchBody) : Prop where
  opened : ∀ session, outage session = false
  compiled : ∃ compiled, Compiled.ofFilters body.filters = .ok compiled
  vectors : ∀ vector, body.vector? = some vector → store.FiniteWith vector
  tags : ∀ chunk ∈ store.chunks, chunk.tags.Finite
  similarities : ∀ chunk ∈ store.chunks, ∀ vector distance,
    body.vector? = some vector → cosineDistance? chunk.vector vector = some distance →
      (1.0 - distance).isFinite = true

variable {surroundings : Surroundings} {requestId : String} {body : SearchBody}

namespace SearchBody

theorem gives_nothing_iff :
    (body.vector? = none ∨ body.vector? = some []) ∧ body.filters = [] ↔
      ¬body.GivesSomething := by
  rw [givesSomething_iff, Decidable.not_not, hasVector, Bool.and_eq_true, List.isEmpty_iff]
  cases body.vector? <;> simp

theorem status_of_nothing (nothing : ¬body.GivesSomething) : body.status = 400 := by
  rw [status, if_pos (gives_nothing_iff.mpr nothing)]

theorem status_of_wrongSize (something : body.GivesSomething) {wrong : WrongSize}
    (unsized : body.request? = .error wrong) : body.status = 422 := by
  rw [status, if_neg fun nothing => gives_nothing_iff.mp nothing something, if_pos]
  rw [request?] at unsized
  split at unsized
  · next vector given =>
      split at unsized
      · cases unsized
      · next different => simpa [given] using different
  · cases unsized

variable {request : SearchRequest}

theorem status_of_request (something : body.GivesSomething) (requested : body.request? = .ok request) :
    body.status = 200 := by
  rw [status, if_neg fun nothing => gives_nothing_iff.mp nothing something, if_neg]
  rw [Option.any_eq_true]
  rintro ⟨vector, given, different⟩
  exact absurd ((request?_eq_ok_iff.mp requested).1 vector given) (by simpa using different)

theorem GivesSomething.exists_mode (something : body.GivesSomething)
    (requested : body.request? = .ok request) : ∃ mode, request.mode? = some mode := by
  rw [givesSomething_iff, ← hasVector_of_request? requested, ← filters_of_request? requested]
    at something
  rw [SearchRequest.mode?, SearchRequest.hasFilters]
  cases given : request.hasVector <;> cases filtered : request.filters.isEmpty <;>
    simp [given, filtered] at something ⊢

end SearchBody

/-! ## Searches -/

/-- A search for a body that gives something to search by is not refused any more. -/
theorem search_ne_unmet {input : Json} {request : SearchRequest}
    (accepted : SearchBody.check input = .accepted body) (requested : body.request? = .ok request)
    (something : body.GivesSomething) (store : Store) (outage : Outage)
    (precondition : Precondition) :
    (store.search outage request).outcome ≠ .error (.unmet precondition) := by
  intro refused
  rcases (SearchBody.valid_of_request? accepted requested).exists_strategy with
    ⟨strategy, planned⟩
  rcases something.exists_mode requested with ⟨mode, called⟩
  cases narrowed : request.scope with
  | ok scope =>
      cases Store.ofQuery_of_runsBy (store.runsBy planned called narrowed) refused
  | error failure =>
      rcases SearchRequest.scope_eq_error_iff.mp narrowed with ⟨rfl, raw, member, _⟩
      have filtered := SearchRequest.hasFilters_eq_true_iff.mpr (List.ne_nil_of_mem member)
      cases (Store.search_of_scope_eq_error planned filtered narrowed).symm.trans refused

section Succeeding

variable {request : SearchRequest}
  (succeed : QueriesSucceed surroundings.store surroundings.outage body)
  (requested : body.request? = .ok request)

include succeed requested

theorem QueriesSucceed.exists_scope : ∃ scope, request.scope = .ok scope := by
  rcases succeed.compiled with ⟨compiled, returned⟩
  rw [← SearchBody.filters_of_request? requested] at returned
  exact ⟨_, SearchRequest.scope_eq_ok_iff.mpr ⟨compiled, returned, rfl⟩⟩

theorem QueriesSucceed.item_finite {result : SearchResult} {chunk : Chunk}
    (found : result.FoundIn surroundings.store request chunk) (documentName? : Option String) :
    Item.Finite ⟨result, documentName?, similarity body.hasVector result⟩ where
  tags := by
    rw [found.tells.tags]
    exact succeed.tags chunk found.stored
  similarity := by
    cases given : body.hasVector with
    | false =>
        have one : (1.0 : Float).isFinite = true := by decide +kernel
        exact one
    | true =>
        rcases SearchBody.hasVector_eq_true_iff.mp given with ⟨vector, isVector, filled⟩
        have lies := found.distance vector
          ((SearchBody.vector?_of_request? requested).trans isVector) filled
        exact succeed.similarities chunk found.stored vector result.distance isVector lies

/-- Results from a store whose numbers are finite can be sent, whatever reranking leaves of them. -/
theorem QueriesSucceed.answerJson_eq {strategy : Strategy}
    (planned : request.strategy = .ok strategy) {results : List SearchResult}
    (found : ∀ result ∈ results, ∃ chunk, result.FoundIn surroundings.store request chunk) :
    let answer := answerFor surroundings requestId body request strategy results
    answerJson 200 answer.json = some ⟨200, .json answer.json⟩ := by
  intro answer
  have items : ∀ item ∈ answer.items, item.Finite := by
    intro item member
    rcases List.mem_map.mp member with ⟨result, left, rfl⟩
    rcases found result (mem_of_mem_kept left) with ⟨chunk, stored⟩
    exact succeed.item_finite requested stored _
  exact if_pos (SearchAnswer.allFinite_json items (Strategy.allFinite_json planned))

theorem QueriesSucceed.status_search {input : Json}
    (accepted : SearchBody.check input = .accepted body) (something : body.GivesSomething) :
    ((search surroundings requestId body).answer?.getD failureAnswer).status = 200 := by
  rcases (SearchBody.valid_of_request? accepted requested).exists_strategy with
    ⟨strategy, planned⟩
  rcases succeed.exists_scope requested with ⟨scope, narrowed⟩
  rcases something.exists_mode requested with ⟨mode, called⟩
  have runs := surroundings.store.runsBy planned called narrowed
  rcases Store.exists_results_of_runsBy runs with ⟨results, comesTo, found⟩
  have opened : surroundings.outage = .none := funext succeed.opened
  have finite : request.FiniteIn surroundings.store := by
    rw [SearchRequest.FiniteIn, SearchBody.vector?_of_request? requested]
    exact succeed.vectors
  have ran : (surroundings.store.search surroundings.outage request).outcome = .ok results :=
    opened ▸ comesTo.found finite
  rw [answer?_search_of_results something requested planned ran,
    succeed.answerJson_eq requested planned found]
  rfl

end Succeeding

theorem status_search {input : Json} (accepted : SearchBody.check input = .accepted body)
    (succeed : QueriesSucceed surroundings.store surroundings.outage body) :
    ((search surroundings requestId body).answer?.getD failureAnswer).status = body.status := by
  by_cases something : body.GivesSomething
  · cases requested : body.request? with
    | error wrong =>
        rw [search_of_wrongSize something requested, body.status_of_wrongSize something requested]
        rfl
    | ok request =>
        rw [succeed.status_search requested accepted something,
          body.status_of_request something requested]
  · rw [search_of_nothing something, body.status_of_nothing something]
    rfl

/-! ## Bodies -/

theorem status_rejection {issues : List Issue}
    (finite : ∀ issue ∈ issues, issue.input.allFinite = true) :
    ((rejection (issues.map (Issue.under (.key "body")))).getD failureAnswer).status = 422 := by
  have writable : ((issues.map (Issue.under (.key "body"))).all fun issue =>
      issue.input.allFinite) = true := by
    rw [List.all_map, List.all_eq_true]
    exact finite
  rw [rejection, if_pos writable]
  rfl

theorem status_handleSearch {bytes : List UInt8}
    (repeatable : Repeatable surroundings.nestingLimit bytes)
    (succeed : ∀ body, submitted? surroundings.nestingLimit bytes = some body →
      QueriesSucceed surroundings.store surroundings.outage body) :
    ((handleSearch surroundings requestId bytes).answer?.getD failureAnswer).status =
      statusOf surroundings.nestingLimit bytes := by
  cases sent : readBody surroundings.nestingLimit bytes with
  | value input =>
      cases checked : SearchBody.check input with
      | accepted body =>
          have submitted := submitted?_eq_some_iff.mpr ⟨input, sent, checked⟩
          rw [handleSearch_of_submitted submitted, status_search checked (succeed body submitted)]
          simp only [statusOf, sent, checked]
      | rejected issues =>
          simp only [handleSearch, statusOf, sent, checked]
          exact status_rejection (repeatable.numbers input issues sent checked)
  | missing => simp only [handleSearch, statusOf, sent]; rfl
  | malformed => simp only [handleSearch, statusOf, sent]; rfl
  | unreadable => simp only [handleSearch, statusOf, sent]; rfl

theorem flagged_finite : Tags.flagged.Finite := by
  have noNumber : ∀ position, Tags.flagged.numbers.get position = none := by decide +kernel
  apply Tags.finite_of_numbers
  intro position number found
  cases (noNumber position).symm.trans found

/-- A request whose body is a list in a list, two thousand times over. -/
def nestedIncoming : Incoming :=
  { guardedIncoming with body := List.replicate 2000 0x5B ++ List.replicate 2000 0x5D }

/-- A vector whose product with one that hardly differs is too large, while their own squares are
not. -/
def hugeVector : List Float :=
  [8.061997697518665e153, 1.0011861679248353e154, 3.812628007953787e153] ++
    List.replicate 1533 0.0

def hugeBody : SearchBody where
  bases := ["a"]
  query? := none
  vector? := some hugeVector
  filters := []
  count := 10
  threshold? := none
  rerank? := none

def hugeStore : Store where
  documents := [{ id := "d", base := "a", filename := "d.pdf" }]
  chunks :=
    [{ id := "1", base := "a", document := "d", position := 0, content := "text", tags := .flagged,
       vector := [8.061997697518666e153, 1.0011861679248353e154, 3.812628007953786e153] }]

end HybridSearch.Service
