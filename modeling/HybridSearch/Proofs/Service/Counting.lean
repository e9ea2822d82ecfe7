import HybridSearch.Proofs.Retrieval.Accounting
import HybridSearch.Proofs.Service.Agreement
import HybridSearch.Service.Reception

/-! Every request is counted once: under its method, the path of its route, and the status that its
handler came to. That is also the status that the client receives, as long as the address of the
request can be read. -/

namespace HybridSearch

namespace Service

variable {surroundings : Surroundings} {incoming : Incoming} {requestId : String} {body : SearchBody}

/-! ## Observations on the way -/

/-- An observation as the program makes them, but not one of a request. -/
structure Aside (observation : Metrics.Observation) : Prop where
  whole : observation.Whole
  apart : ∀ method path status duration, observation ≠ .request method path status duration

namespace Aside

variable {observation : Metrics.Observation} (aside : Aside observation)

include aside

theorem addends_eq_nil : observation.addends .requests = [] := by
  cases observation with
  | request method path status duration => exact (aside.apart _ _ _ _ rfl).elim
  | search mode parallel success duration results => cases success <;> rfl
  | external provider operation status duration => rfl

theorem histogramName_family : observation.histogramName.family ≠ .requests := by
  cases observation with
  | request method path status duration => exact (aside.apart _ _ _ _ rfl).elim
  | search mode parallel success duration results => nofun
  | external provider operation status duration => nofun

end Aside

theorem aside_of_isObserved {retrieved : Retrieved} {mode : Mode} {strategy : Strategy}
    (observed : retrieved.IsObserved mode strategy) {observation : Metrics.Observation}
    (made : retrieved.observation? = some observation) : Aside observation := by
  rcases observed with ⟨sessions, outcome, rfl⟩
  cases outcome <;> cases made <;> exact ⟨Metrics.Observation.whole_search .., nofun⟩

theorem aside_rerank (exchange : Rerank.Exchange) : Aside (Rerank.observation exchange) :=
  ⟨Metrics.Observation.whole_external .., nofun⟩

theorem aside_of_retrieved {store : Store} {outage : Outage} {request : SearchRequest}
    {strategy : Strategy} (planned : request.strategy = .ok strategy)
    {observation : Metrics.Observation}
    (made : (store.search outage request).observation? = some observation) : Aside observation := by
  let call : SearchCall := ⟨store, outage, none, request⟩
  have callPlanned : call.request.strategy = .ok strategy := planned
  rcases SearchCall.run_accounted callPlanned with ⟨_, _, observed⟩ | ⟨_, _, refused⟩
  · exact aside_of_isObserved observed made
  · change call.run.observation? = some observation at made
    rw [refused] at made
    cases made

section Requested

variable {request : SearchRequest} {strategy : Strategy} (something : body.GivesSomething)
  (requested : body.request? = .ok request)

include something requested

theorem observations_search_of_unplanned {failure : Failure}
    (unplanned : request.strategy = .error failure) :
    (search surroundings requestId body).observations = [] := by
  rw [search, if_neg (SearchBody.givesSomething_iff.mp something)]
  simp only [requested, unplanned]

theorem observations_search_of_failure (planned : request.strategy = .ok strategy)
    {failure : Failure}
    (failed : (surroundings.store.search surroundings.outage request).outcome = .error failure) :
    (search surroundings requestId body).observations =
      (surroundings.store.search surroundings.outage request).observation?.toList := by
  rw [search, if_neg (SearchBody.givesSomething_iff.mp something)]
  simp only [requested, planned, failed]
  cases failure <;> rfl

theorem observations_search_of_results (planned : request.strategy = .ok strategy)
    {results : List SearchResult}
    (found : (surroundings.store.search surroundings.outage request).outcome = .ok results) :
    (search surroundings requestId body).observations =
      (surroundings.store.search surroundings.outage request).observation?.toList ++
        ((rerank? surroundings requestId body results).bind
          Rerank.Report.exchange?).toList.map Rerank.observation := by
  rw [search, if_neg (SearchBody.givesSomething_iff.mp something)]
  simp only [requested, planned, found]

end Requested

theorem aside_of_search {observation : Metrics.Observation}
    (among : observation ∈ (search surroundings requestId body).observations) :
    Aside observation := by
  by_cases something : body.GivesSomething
  · cases requested : body.request? with
    | error wrong =>
        rw [search_of_wrongSize something requested] at among
        cases among
    | ok request =>
        cases planned : request.strategy with
        | error failure =>
            rw [observations_search_of_unplanned something requested planned] at among
            cases among
        | ok strategy =>
            cases found : (surroundings.store.search surroundings.outage request).outcome with
            | error failure =>
                rw [observations_search_of_failure something requested planned found] at among
                exact aside_of_retrieved planned (Option.mem_toList.mp among)
            | ok results =>
                rw [observations_search_of_results something requested planned found] at among
                rcases List.mem_append.mp among with made | called
                · exact aside_of_retrieved planned (Option.mem_toList.mp made)
                · rcases List.mem_map.mp called with ⟨exchange, _, rfl⟩
                  exact aside_rerank exchange
  · rw [search_of_nothing something] at among
    cases among

theorem aside_of_handleSearch {bytes : List UInt8} {observation : Metrics.Observation}
    (among : observation ∈ (handleSearch surroundings requestId bytes).observations) :
    Aside observation := by
  cases sent : readBody surroundings.nestingLimit bytes with
  | value input =>
      cases checked : SearchBody.check input with
      | accepted body =>
          simp only [handleSearch, sent, checked] at among
          exact aside_of_search among
      | rejected issues => simp [handleSearch, sent, checked] at among
  | missing => simp [handleSearch, sent] at among
  | malformed => simp [handleSearch, sent] at among
  | unreadable => simp [handleSearch, sent] at among

theorem observations_handleStrategy (target : Target) :
    (handleStrategy target).observations = [] := by
  rw [handleStrategy]
  split
  · rfl
  · split <;> rfl

/-! ## Handling -/

theorem Incoming.requestId_of_given {own : String} (given : incoming.requestId? = some own)
    (filled : own ≠ "") : incoming.requestId = own := by
  rw [requestId, given, Option.filter_some, if_pos (decide_eq_true filled), Option.getD_some]

theorem pathLabel_mem (route? : Option Route) :
    pathLabel route? ∈ unknownPath :: Route.all.map Route.path := by
  rcases route? with _ | (_ | _ | _ | _) <;> decide

/-- How a request is handled, with or without a route. -/
def handled (surroundings : Surroundings) (metrics : Metrics.Collector) (incoming : Incoming) :
    Handled :=
  match Route.ofPath? incoming.target.path with
  | some route => handle surroundings metrics incoming route
  | none => { answer? := some (unrouted incoming.target.path) }

theorem aside_of_handled {metrics : Metrics.Collector} {observation : Metrics.Observation}
    (among : observation ∈ (handled surroundings metrics incoming).observations) :
    Aside observation := by
  rw [handled] at among
  split at among
  · next route _ =>
    rw [handle.eq_def] at among
    split at among
    · cases among
    · cases route with
      | search => exact aside_of_handleSearch among
      | strategy =>
          rw [observations_handleStrategy] at among
          cases among
      | health => cases among
      | metrics => cases among
  · cases among

/-- What was counted before has no influence on how a request is handled, except for the text that
shows it. -/
theorem handled_alike (surroundings : Surroundings) (left right : Metrics.Collector)
    (incoming : Incoming) :
    (handled surroundings left incoming).answer?.map Answer.status =
        (handled surroundings right incoming).answer?.map Answer.status ∧
      (handled surroundings left incoming).observations =
        (handled surroundings right incoming).observations := by
  rw [handled, handled]
  cases Route.ofPath? incoming.target.path with
  | none => exact ⟨rfl, rfl⟩
  | some route =>
      dsimp only
      rw [handle.eq_def, handle.eq_def]
      split
      · exact ⟨rfl, rfl⟩
      · cases route <;> exact ⟨rfl, rfl⟩

theorem status_getD_failureAnswer (answer? : Option Answer) :
    (answer?.getD failureAnswer).status = (answer?.map Answer.status).getD 500 := by
  cases answer? <;> rfl

theorem Answer.status_forMethod (answer : Answer) (method : String) :
    (answer.forMethod method).status = answer.status := by
  rw [forMethod]
  split <;> rfl

theorem status_serve (surroundings : Surroundings) (metrics : Metrics.Collector)
    (incoming : Incoming) :
    (serve surroundings metrics incoming).answer.status =
      ((handled surroundings metrics incoming).answer?.map Answer.status).getD 500 := by
  rw [← status_getD_failureAnswer]
  exact Answer.status_forMethod _ _

theorem metrics_serve (surroundings : Surroundings) (metrics : Metrics.Collector)
    (incoming : Incoming) :
    (serve surroundings metrics incoming).metrics =
      recordAll metrics ((handled surroundings metrics incoming).observations ++
        [.request (.string incoming.method)
          (.string (pathLabel (Route.ofPath? incoming.target.path)))
          (toString (((handled surroundings metrics incoming).answer?.map Answer.status).getD 500))
          (.float 0.0)]) := by
  rw [← status_getD_failureAnswer]
  rfl

/-! ## Arrivals -/

/-- A request that arrives at the service, with what it finds there and the host that it names. -/
structure Arrival where
  surroundings : Surroundings
  host : String
  incoming : Incoming

namespace Arrival

/-- The status that the handler answers with, if it does not fail. What was counted before does not
matter for it. -/
def handlerStatus? (arrival : Arrival) : Option Nat :=
  (handled arrival.surroundings (.ofBounds []) arrival.incoming).answer?.map Answer.status

def status (arrival : Arrival) : Nat :=
  arrival.handlerStatus?.getD 500

def pathLabel (arrival : Arrival) : String :=
  Service.pathLabel (Route.ofPath? arrival.incoming.target.path)

/-- What a request adds to the number of requests where it is counted under a status. -/
def countedUnder (arrival : Arrival) (status : Nat) : List String × Int :=
  ([arrival.incoming.method, arrival.pathLabel, toString status], 1)

/-- What a request adds to the number of requests. -/
def counted (arrival : Arrival) : List String × Int :=
  arrival.countedUnder arrival.status

/-- What is observed of a request: what its handler observes on the way, and the request itself. -/
def observations (arrival : Arrival) : List Metrics.Observation :=
  (handled arrival.surroundings (.ofBounds []) arrival.incoming).observations ++
    [.request (.string arrival.incoming.method) (.string arrival.pathLabel)
      (toString arrival.status) (.float 0.0)]

def receive (arrival : Arrival) (metrics : Metrics.Collector) : Received :=
  Service.receive arrival.surroundings metrics arrival.host arrival.incoming

/-- The address of a request can be read. -/
def Readable (arrival : Arrival) : Prop :=
  notedPath? arrival.host arrival.incoming.target.path ≠ none

/-- What the client of a request receives: the status that is counted, and, where the handler
answered, the identifier of the request, which is the client's own unless that is empty. If the address
cannot be read, it receives neither. -/
structure Gets (arrival : Arrival) (received : Received) : Prop where
  status : arrival.Readable → received.answer.status = arrival.status
  identified : arrival.Readable →
    received.requestId? = arrival.handlerStatus?.map fun _ => arrival.incoming.requestId
  own : arrival.Readable → arrival.handlerStatus? ≠ none →
    ∀ identifier, arrival.incoming.requestId? = some identifier → identifier ≠ "" →
      received.requestId? = some identifier
  lost : ¬arrival.Readable → received.answer.status = 500 ∧ received.requestId? = none

theorem receive_of_noted {arrival : Arrival} {path : String}
    (noted : notedPath? arrival.host arrival.incoming.target.path = some path)
    (metrics : Metrics.Collector) :
    let served := serve arrival.surroundings metrics arrival.incoming
    arrival.receive metrics =
      ⟨served.answer, served.requestId?, some { served.record with path }, served.metrics,
        served.reranking?⟩ := by
  rw [receive, Service.receive, noted]

theorem receive_of_unnoted {arrival : Arrival}
    (unnoted : notedPath? arrival.host arrival.incoming.target.path = none)
    (metrics : Metrics.Collector) :
    let served := serve arrival.surroundings metrics arrival.incoming
    arrival.receive metrics =
      ⟨failureAnswer.forMethod arrival.incoming.method, none, none, served.metrics,
        served.reranking?⟩ := by
  rw [receive, Service.receive, unnoted]

theorem gets_receive (arrival : Arrival) (metrics : Metrics.Collector) :
    arrival.Gets (arrival.receive metrics) := by
  cases noted : notedPath? arrival.host arrival.incoming.target.path with
  | none =>
      have unreadable : ¬arrival.Readable := fun readable => readable noted
      rw [receive_of_unnoted noted]
      exact
        { status readable := absurd readable unreadable
          identified readable := absurd readable unreadable
          own readable := absurd readable unreadable
          lost _ := ⟨failureAnswer.status_forMethod _, rfl⟩ }
  | some path =>
      have readable : arrival.Readable := fun unnoted => nomatch noted.symm.trans unnoted
      have alike := (handled_alike arrival.surroundings metrics (.ofBounds []) arrival.incoming).1
      have identified : (arrival.receive metrics).requestId? =
          arrival.handlerStatus?.map fun _ => arrival.incoming.requestId := by
        rw [receive_of_noted noted, handlerStatus?, ← alike, Option.map_map]
        rfl
      refine ⟨fun _ => ?_, fun _ => identified, fun _ answered identifier given filled => ?_,
        fun unreadable => absurd readable unreadable⟩
      · rw [receive_of_noted noted, status, handlerStatus?, ← alike]
        exact status_serve ..
      · rcases Option.ne_none_iff_exists'.mp answered with ⟨status, answers⟩
        rw [identified, answers, Option.map_some, Incoming.requestId_of_given given filled]

theorem metrics_receive (arrival : Arrival) (metrics : Metrics.Collector) :
    (arrival.receive metrics).metrics = recordAll metrics arrival.observations := by
  have alike := handled_alike arrival.surroundings metrics (.ofBounds []) arrival.incoming
  have served : (arrival.receive metrics).metrics =
      (serve arrival.surroundings metrics arrival.incoming).metrics := by
    rw [receive, Service.receive]
    split <;> rfl
  rw [served, metrics_serve, alike.1, alike.2]
  rfl

theorem whole_observations (arrival : Arrival) :
    ∀ observation ∈ arrival.observations, observation.Whole := by
  intro observation among
  rcases List.mem_append.mp among with aside | own
  · exact (aside_of_handled aside).whole
  · rw [List.mem_singleton.mp own]
    exact Metrics.Observation.whole_request ..

theorem addends_observations (arrival : Arrival) :
    arrival.observations.flatMap (Metrics.Observation.addends .requests) = [arrival.counted] := by
  have aside : (handled arrival.surroundings (.ofBounds []) arrival.incoming).observations.flatMap
      (Metrics.Observation.addends .requests) = [] :=
    List.flatMap_eq_nil_iff.mpr fun observation among => (aside_of_handled among).addends_eq_nil
  rw [observations, List.flatMap_append, aside]
  rfl

theorem histogramName_of_request {arrival : Arrival} {observation : Metrics.Observation}
    (among : observation ∈ arrival.observations)
    (ofRequests : observation.histogramName.family = .requests) :
    observation.histogramName.labels = [arrival.incoming.method, arrival.pathLabel] := by
  rcases List.mem_append.mp among with aside | own
  · exact absurd ofRequests (aside_of_handled aside).histogramName_family
  · rw [List.mem_singleton.mp own]
    rfl

end Arrival

/-! ## Runs -/

/-- Receives requests one after the other, and comes to what their clients receive and what is counted
in the end. -/
def receiveAll (metrics : Metrics.Collector) : List Arrival → List Received × Metrics.Collector
  | [] => ([], metrics)
  | arrival :: rest =>
      let received := arrival.receive metrics
      let (others, final) := receiveAll received.metrics rest
      (received :: others, final)

theorem gets_receiveAll (metrics : Metrics.Collector) (arrivals : List Arrival) :
    List.Forall₂ Arrival.Gets arrivals (receiveAll metrics arrivals).1 := by
  induction arrivals generalizing metrics with
  | nil => exact .nil
  | cons arrival rest induction => exact .cons (arrival.gets_receive metrics) (induction _)

theorem metrics_receiveAll (metrics : Metrics.Collector) (arrivals : List Arrival) :
    (receiveAll metrics arrivals).2 = recordAll metrics (arrivals.flatMap Arrival.observations) := by
  induction arrivals generalizing metrics with
  | nil => rfl
  | cons arrival rest induction =>
      rw [receiveAll]
      dsimp only
      rw [induction, arrival.metrics_receive, List.flatMap_cons, recordAll, recordAll, recordAll,
        List.foldl_append]

theorem recordAll_eq_of_recorded {start final : Metrics.Collector}
    {observations : List Metrics.Observation}
    (recorded : Metrics.recordAll Metrics.Collector.observe start observations = .ok final) :
    recordAll start observations = final := by
  induction observations generalizing start with
  | nil => exact Except.ok.inj recorded
  | cons observation rest induction =>
      rw [Metrics.recordAll] at recorded
      split at recorded
      · next after observed =>
        rw [recordAll, List.foldl_cons, observed]
        exact induction recorded
      · cases recorded

theorem addends_flatMap_observations (arrivals : List Arrival) :
    (arrivals.flatMap Arrival.observations).flatMap (Metrics.Observation.addends .requests) =
      arrivals.map Arrival.counted := by
  rw [List.flatMap_assoc, List.map_eq_flatMap]
  exact List.flatMap_congr fun arrival _ => arrival.addends_observations

/-- All series of requests, counted or measured, are of paths among some. -/
structure RequestPathsAmong (metrics : Metrics.Collector) (paths : List String) : Prop where
  counted : ∀ row ∈ metrics.countersOf .requests, ∃ method path status,
    row.1 = [method, path, status].map .text ∧ path ∈ paths
  measured : ∀ row ∈ metrics.histogramsOf .requests, ∃ method path,
    row.1 = [method, path].map .text ∧ path ∈ paths

theorem requestPathsAmong_of_recorded {bounds : List Json} {arrivals : List Arrival}
    {collector : Metrics.Collector}
    (whole : ∀ observation ∈ arrivals.flatMap Arrival.observations, observation.Whole)
    (recorded : Metrics.recordAll Metrics.Collector.observe (.ofBounds bounds)
      (arrivals.flatMap Arrival.observations) = .ok collector) :
    RequestPathsAmong collector (unknownPath :: Route.all.map Route.path) := by
  constructor
  · intro row among
    rcases Metrics.Collector.exists_of_mem_countersOf whole recorded among with
      ⟨observation, observed, names, added, isRow⟩
    have counts : names ∈ (arrivals.map Arrival.counted).map Prod.fst := by
      rw [← addends_flatMap_observations, List.map_flatMap]
      exact List.mem_flatMap.mpr ⟨observation, observed, added⟩
    rw [List.map_map] at counts
    rcases List.mem_map.mp counts with ⟨arrival, _, rfl⟩
    exact ⟨_, _, _, isRow, pathLabel_mem _⟩
  · intro row among
    rcases Metrics.Collector.exists_of_mem_histogramsOf whole recorded among with
      ⟨observation, observed, ofRequests, isRow⟩
    rcases List.mem_flatMap.mp observed with ⟨arrival, _, made⟩
    rw [Arrival.histogramName_of_request made ofRequests] at isRow
    exact ⟨_, _, isRow, pathLabel_mem _⟩

/-- Whatever requests arrive one after the other, each of them is counted once, under its method, the
path of its route or the one label of all other paths, and the status of its handler, which is 500
where the handler fails; no other path is ever recorded. The client receives that status, and the
identifier of the request with it where the handler answered, unless the address of the request cannot
be read. -/
theorem requests_counted_once {bounds : List Json}
    (numeric : ∀ bound ∈ (Metrics.Collector.ofBounds bounds).bounds, bound.amount?.isSome = true)
    (arrivals : List Arrival) :
    (receiveAll (.ofBounds bounds) arrivals).2.Shows .requests (arrivals.map Arrival.counted) ∧
      RequestPathsAmong (receiveAll (.ofBounds bounds) arrivals).2
        (unknownPath :: Route.all.map Route.path) ∧
      List.Forall₂ Arrival.Gets arrivals (receiveAll (.ofBounds bounds) arrivals).1 := by
  have whole : ∀ observation ∈ arrivals.flatMap Arrival.observations, observation.Whole := by
    intro observation among
    rcases List.mem_flatMap.mp among with ⟨arrival, _, made⟩
    exact arrival.whole_observations observation made
  rcases Metrics.Collector.exists_recorded_of_whole numeric whole with ⟨collector, recorded⟩
  rw [metrics_receiveAll, recordAll_eq_of_recorded recorded]
  refine ⟨?_, requestPathsAmong_of_recorded whole recorded, gets_receiveAll ..⟩
  rw [← addends_flatMap_observations]
  exact Metrics.Collector.shows_of_recordAll whole recorded .requests

/-- A request for what always answers, under a host that cannot stand in an address. -/
def unreadableArrival : Arrival where
  surroundings := usualSurroundings
  host := "["
  incoming :=
    { method := "GET", target := ⟨"/health", []⟩, requestId? := some "a", freshId := "1", body := [] }

/-- A search that finds something, one that fails in the store, a request in the wrong method, one for
an unknown path, and one whose address cannot be read. -/
def mixedArrivals : List Arrival :=
  let wrongMethod : Incoming :=
    { method := "DELETE", target := ⟨"/metrics", []⟩, requestId? := some "", freshId := "2"
      body := [] }
  let unknown : Incoming :=
    { method := "GET", target := ⟨"/health/now", []⟩, requestId? := some "own", freshId := "3"
      body := [] }
  [⟨{ usualSurroundings with store := Store.guardedStore }, "service", guardedIncoming⟩,
    ⟨{ usualSurroundings with outage := fun _ => true }, "[::1]:80", guardedIncoming⟩,
    ⟨usualSurroundings, "service", wrongMethod⟩, ⟨usualSurroundings, "", unknown⟩,
    unreadableArrival]

theorem mixedArrivals_counted :
    (∀ bound ∈ (Metrics.Collector.ofBounds []).bounds, bound.amount?.isSome = true) ∧
    (receiveAll (.ofBounds []) mixedArrivals).2.Shows .requests
      [(["POST", "/api/v1/knowledge/search", "200"], 1),
        (["POST", "/api/v1/knowledge/search", "500"], 1), (["DELETE", "/metrics", "405"], 1),
        (["GET", "/__unknown__", "404"], 1), (["GET", "/health", "200"], 1)] ∧
    (receiveAll (.ofBounds []) mixedArrivals).1.map
        (fun received => (received.answer.status, received.requestId?)) =
      [(200, some "1"), (500, none), (405, some "2"), (404, some "own"), (500, none)] := by
  have numeric : ∀ bound ∈ (Metrics.Collector.ofBounds []).bounds, bound.amount?.isSome = true := by
    decide
  have counted : mixedArrivals.map Arrival.counted =
      [(["POST", "/api/v1/knowledge/search", "200"], 1),
        (["POST", "/api/v1/knowledge/search", "500"], 1), (["DELETE", "/metrics", "405"], 1),
        (["GET", "/__unknown__", "404"], 1), (["GET", "/health", "200"], 1)] := by
    decide +kernel
  refine ⟨numeric, ?_, by decide +kernel⟩
  rw [← counted]
  exact (requests_counted_once numeric mixedArrivals).1

/-- The status that is counted is not always the one that the client receives. -/
theorem not_counted_as_received :
    ¬∀ arrivals : List Arrival,
      let (received, metrics) := receiveAll (.ofBounds []) arrivals
      metrics.Shows .requests (List.zipWith
        (fun arrival received => arrival.countedUnder received.answer.status) arrivals received) := by
  intro all
  rcases all [unreadableArrival] with ⟨named, nodup, came, lines⟩
  have received : (List.zipWith (fun arrival received => arrival.countedUnder received.answer.status)
      [unreadableArrival] (receiveAll (.ofBounds []) [unreadableArrival]).1).map Prod.fst =
      [["GET", "/health", "500"]] := by decide +kernel
  have single : named = [["GET", "/health", "500"]] := by
    refine List.perm_singleton.mp ((List.perm_ext_iff_of_nodup nodup (List.nodup_singleton _)).mpr ?_)
    exact fun names => (came names).trans (iff_of_eq (congrArg (names ∈ ·) received))
  subst single
  -- The counter shows the status 200 of the handler.
  exact absurd lines (by decide +kernel)

end Service

end HybridSearch
