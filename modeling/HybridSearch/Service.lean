import HybridSearch.Metrics.Collector
import HybridSearch.Rerank
import HybridSearch.Retrieval
import HybridSearch.Service.Presentation
import HybridSearch.Service.Route
import HybridSearch.Service.SearchBody
import HybridSearch.Service.Target

/-! The service: it takes a request, finds its route, checks what was sent, searches, reranks, and
counts and notes every request once. -/

namespace HybridSearch.Service

/-- What a request finds: the store, the settings, and the scoring service. -/
structure Surroundings where
  store : Store
  settings : Settings
  endpoint : Rerank.Endpoint
  outage : Outage
  /-- How many lists and objects may be open at once in a body. -/
  nestingLimit : Nat := Json.nestingLimit

/-- A request. -/
structure Incoming where
  method : String
  target : Target
  /-- The identifier that the client gives its request. -/
  requestId? : Option String
  /-- The identifier of a request that comes without one. -/
  freshId : String
  body : List UInt8

namespace Incoming

/-- The identifier of a request; an empty one is none. -/
def requestId (incoming : Incoming) : String :=
  (incoming.requestId?.filter (· ≠ "")).getD incoming.freshId

end Incoming

inductive Content where
  | none
  | json (value : Json)
  | text (value : String)

structure Answer where
  status : Nat
  content : Content

structure Handled where
  /-- The answer; there is none when the handler failed. -/
  answer? : Option Answer
  /-- What is observed on the way. -/
  observations : List Metrics.Observation := []
  /-- What reranking came to, where it was asked for. -/
  reranking? : Option Rerank.Report := none

/-! ## Answers -/

/-- An answer in structured form. One that holds a number which is not finite cannot be written, and
the handler fails. -/
def answerJson (status : Nat) (value : Json) : Option Answer :=
  if value.allFinite then some ⟨status, .json value⟩ else none

def refusal (status : Nat) (detail : String) : Answer :=
  ⟨status, .json (.object [("detail", .string detail)])⟩

/-- The answer to what failed its checks. It repeats the values that failed, so it cannot be written
when one of them holds a number that is not finite. -/
def rejection (issues : List Issue) : Option Answer :=
  if issues.all fun issue => issue.input.allFinite then
    some ⟨422, .json (.object [("detail", .array (issues.map Issue.json))])⟩
  else none

def nothingToSearchBy : String :=
  "Please provide either a query vector or tag filters to search your knowledge base"

/-! ## Searching -/

/-- The content of a body: a value, or why there is none. -/
inductive BodyValue where
  | value (json : Json)
  | missing
  | malformed
  | unreadable

/-- Reads a body, with at most `limit` lists and objects open at once. A null is no value. -/
def readBody (limit : Nat) (body : List UInt8) : BodyValue :=
  if body.isEmpty then .missing
  else
    match Json.readBytes body limit with
    | .ok .null => .missing
    | .ok value => .value value
    | .error .malformed => .malformed
    | .error _ => .unreadable

def items (store : Store) (usedVector : Bool) (results : List SearchResult) : List Item :=
  let names := store.documentNames (results.map SearchResult.document)
  results.map fun result =>
    ⟨result, names.lookup result.document, similarity usedVector result⟩

/-- What reranking makes of results, where it is asked for. -/
def rerank? (surroundings : Surroundings) (requestId : String) (body : SearchBody)
    (results : List SearchResult) : Option Rerank.Report :=
  match body.queryText? with
  | some query =>
      if surroundings.settings.rerankEnabled then
        some <| Rerank.rerankResults surroundings.settings (some requestId) surroundings.endpoint
          query (results.map SearchResult.content) (body.rerank?.getD {})
      else none
  | none => none

def search (surroundings : Surroundings) (requestId : String) (body : SearchBody) : Handled :=
  if !body.hasVector && body.filters.isEmpty then
    { answer? := some (refusal 400 nothingToSearchBy) }
  else
    match body.request? with
    | .error wrong => { answer? := some (refusal 422 wrong.message) }
    | .ok request =>
        let retrieved := surroundings.store.search surroundings.outage request
        let observations := retrieved.observation?.toList
        match request.strategy, retrieved.outcome with
        | .error _, _ => { answer? := none }
        | .ok _, .error (.unmet precondition) =>
            ⟨some (refusal 400 precondition.message), observations, none⟩
        | .ok _, .error _ => ⟨none, observations, none⟩
        | .ok strategy, .ok results =>
            let reranking? := rerank? surroundings requestId body results
            let kept := match reranking? with
              | some report => report.outcome.apply results
              | none => results
            let calls := (reranking?.bind Rerank.Report.exchange?).toList
            let answer : SearchAnswer :=
              { items := items surroundings.store body.hasVector kept
                query? := body.query?
                bases := request.bases
                count := request.count
                strategy }
            { answer? := answerJson 200 answer.json
              observations := observations ++ calls.map Rerank.observation
              reranking? }

def handleSearch (surroundings : Surroundings) (requestId : String) (body : List UInt8) :
    Handled :=
  let rejected (issues : List Issue) : Handled :=
    { answer? := rejection (issues.map (Issue.under (.key "body"))) }
  match readBody surroundings.nestingLimit body with
  | .malformed => rejected [⟨.malformedText, [], .null⟩]
  | .unreadable => { answer? := some (refusal 400 "There was an error parsing the body") }
  | .missing => rejected [⟨.missing, [], .null⟩]
  | .value json =>
      match SearchBody.check json with
      | .accepted body => search surroundings requestId body
      | .rejected issues => rejected issues

/-! ## The other routes -/

def handleStrategy (target : Target) : Handled :=
  let members := ["kb_count", "top_k"].filterMap fun name =>
    (target.parameter? name).map fun value => (name, Json.string value)
  let checked : Checked (Int × Int) :=
    Prod.mk
      <$> Checked.field members ["kb_count"] (Checked.atLeast 1)
      <*> Checked.fieldOr members ["top_k"] defaultCount (Checked.between 1 greatestCount)
  match checked with
  | .rejected issues => { answer? := rejection (issues.map (Issue.under (.key "query"))) }
  | .accepted (bases, count) =>
      match Strategy.select bases count with
      | .ok strategy => { answer? := answerJson 200 strategy.json }
      | .error _ => { answer? := none }

def handleHealth : Handled :=
  { answer? := answerJson 200
      (.object [("status", .string "healthy"), ("version", .string "0.1.0")]) }

/-- Answers a request for the metrics; the request itself is not among them yet. -/
def handleMetrics (metrics : Metrics.Collector) : Handled :=
  { answer? := some ⟨200, .text metrics.text⟩ }

/-! ## Serving -/

def handle (surroundings : Surroundings) (metrics : Metrics.Collector) (incoming : Incoming)
    (route : Route) : Handled :=
  if incoming.method ≠ route.method then { answer? := some (refusal 405 "Method Not Allowed") }
  else
    match route with
    | .search => handleSearch surroundings incoming.requestId incoming.body
    | .strategy => handleStrategy incoming.target
    | .health => handleHealth
    | .metrics => handleMetrics metrics

/-- The answer to a request for a path without a route. A path that would have one without the
slashes at its end is sent there. -/
def unrouted (path : String) : Answer :=
  if Route.redirects path then ⟨307, .none⟩ else refusal 404 "Not Found"

structure Record where
  requestId : String
  method : String
  path : String
  route? : Option Route
  status : Nat
deriving Repr, DecidableEq

structure Served where
  answer : Answer
  /-- The identifier that goes back with the answer. There is none when the handler failed. -/
  requestId? : Option String
  record : Record
  metrics : Metrics.Collector
  reranking? : Option Rerank.Report

def recordAll (metrics : Metrics.Collector) (observations : List Metrics.Observation) :
    Metrics.Collector :=
  observations.foldl (fun metrics observation => (metrics.observe observation).1) metrics

def failureAnswer : Answer :=
  ⟨500, .text "Internal Server Error"⟩

/-- An answer without its content, where only the head of it is asked for. -/
def Answer.forMethod (answer : Answer) (method : String) : Answer :=
  if method = "HEAD" then { answer with content := .none } else answer

def serve (surroundings : Surroundings) (metrics : Metrics.Collector) (incoming : Incoming) :
    Served :=
  let target := incoming.target
  let route? := Route.ofPath? target.path
  let handled : Handled := match route? with
    | some route => handle surroundings metrics incoming route
    | none => { answer? := some (unrouted target.path) }
  let answer := handled.answer?.getD failureAnswer
  let observed := handled.observations ++
    [.request (.string incoming.method) (.string (pathLabel route?)) (toString answer.status)
      (.float 0.0)]
  { answer := answer.forMethod incoming.method
    requestId? := handled.answer?.map fun _ => incoming.requestId
    record :=
      { requestId := incoming.requestId
        method := incoming.method
        path := target.notedPath
        route?
        status := answer.status }
    metrics := recordAll metrics observed
    reranking? := handled.reranking? }

end HybridSearch.Service
