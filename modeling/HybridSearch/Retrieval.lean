import HybridSearch.Metrics.Observation
import HybridSearch.Predicate.Compile
import HybridSearch.Store.Select
import HybridSearch.Strategy

/-! Searching: by tags alone, by distance from a vector alone, or by tags first and distance second.

Every query has a session of its own with the store. A search that is split opens one for each
knowledge base; when one of them fails, or its query cannot be answered, the search fails as a
whole. -/

namespace HybridSearch

inductive Mode where
  | tag
  | vector
  | hybrid
deriving Repr, DecidableEq

namespace Mode

def label : Mode → String
  | tag => "tag"
  | vector => "vector"
  | hybrid => "tag_vector"

def phrase : Mode → String
  | tag => "tag-only"
  | vector => "vector-only"
  | hybrid => "tag and vector"

end Mode

/-! ## Gathering the parts of a split search -/

/-- The parts of a split search, as far as they have come in, and the first failure among them. -/
structure Gathering (α : Type) where
  parts : List (Option (List α))
  failure? : Option Failure
deriving Repr, DecidableEq

namespace Gathering

variable {α : Type}

def start (size : Nat) : Gathering α :=
  ⟨List.replicate size none, none⟩

def receive (gathering : Gathering α) (position : Nat) (part : Except Failure (List α)) :
    Gathering α :=
  match part with
  | .ok values => { gathering with parts := gathering.parts.set position (some values) }
  | .error failure =>
      { gathering with failure? := some (gathering.failure?.getD failure) }

/-- The parts come in, in an order given by their positions. -/
def receiveAll (outcomes : List (Except Failure (List α))) (order : List Nat) : Gathering α :=
  order.foldl
    (fun gathering position =>
      match outcomes[position]? with
      | some part => gathering.receive position part
      | none => gathering)
    (start outcomes.length)

/-- All values, in the order of the parts, unless one of them failed. -/
def result (gathering : Gathering α) : Except Failure (List α) :=
  match gathering.failure? with
  | some failure => .error failure
  | none => .ok (gathering.parts.flatMap fun part? => part?.getD [])

end Gathering

/-- Joins the parts of a split search, which come in one after the other. -/
def gather {α : Type} (outcomes : List (Except Failure (List α))) : Except Failure (List α) :=
  (Gathering.receiveAll outcomes (List.range outcomes.length)).result

/-! ## Running a search -/

/-- Which sessions with the store cannot be opened, by their number in one search. -/
abbrev Outage := Nat → Bool

namespace Outage

def none : Outage := fun _ => false

end Outage

structure Retrieved where
  outcome : Except Failure (List SearchResult)
  /-- How many sessions were opened. -/
  sessions : Nat
  /-- What is observed of the search, unless it was refused before it ran. -/
  observation? : Option Metrics.Observation

namespace Retrieved

def refused (failure : Failure) : Retrieved :=
  ⟨.error failure, 0, none⟩

def observed (mode : Mode) (strategy : Strategy) (sessions : Nat)
    (outcome : Except Failure (List SearchResult)) : Retrieved where
  outcome
  sessions
  observation? :=
    let (success, count) := match outcome with
      | .ok results => (true, results.length)
      | .error _ => (false, 0)
    some (.search (.string mode.label) strategy.useParallel success (.float 0.0) (.integer count))

end Retrieved

namespace Store

/-- Asks a query in a session of its own. -/
def fetch (store : Store) (outage : Outage) (session : Nat) (selection : Selection) :
    Except Failure (List SearchResult) :=
  if outage session then .error (.session session)
  else if store.canAnswer selection then .ok (store.select selection)
  else .error .unmeasurable

/-- The results of one query for each knowledge base, one after the other. -/
def fanOut (store : Store) (outage : Outage) (bases : List String)
    (selection : String → Selection) : Except Failure (List SearchResult) :=
  gather (bases.zipIdx.map fun (base, session) => store.fetch outage session (selection base))

/-- Results with the nearest first; those at one distance keep their order. -/
def nearestResults (results : List SearchResult) : List SearchResult :=
  sortBy (fun left right => left.distance ≤ right.distance) results

/-- Searches by tags. The results of a split search are cut where they come in. -/
def searchTagged (store : Store) (outage : Outage) (strategy : Strategy) (scope : Scope)
    (count : Nat) : Retrieved :=
  if strategy.useParallel then
    .observed .tag strategy scope.bases.length <|
      (store.fanOut outage scope.bases fun base =>
        .tagged ⟨[base], scope.clauses⟩ strategy.parallelLimit).map (·.take count)
  else .observed .tag strategy 1 (store.fetch outage 0 (.tagged scope count))

/-- Searches by distance. The results of a split search are sorted again before they are cut, since
the order within one knowledge base says nothing of the order over all. -/
def searchNearest (store : Store) (outage : Outage) (strategy : Strategy) (bases : List String)
    (nearness : Nearness) (count : Nat) : Retrieved :=
  if strategy.useParallel then
    .observed .vector strategy bases.length <|
      (store.fanOut outage bases fun base =>
        .nearest [base] nearness strategy.parallelLimit).map
          fun results => (nearestResults results).take count
  else .observed .vector strategy 1 (store.fetch outage 0 (.nearest bases nearness count))

/-- Searches by tags first and ranks what is left by distance. When nothing is left there is nothing
to rank. -/
def searchHybrid (store : Store) (outage : Outage) (strategy : Strategy) (scope : Scope)
    (nearness : Nearness) (count : Nat) : Retrieved :=
  if outage 0 then .observed .hybrid strategy 1 (.error (.session 0))
  else if (store.candidates scope).isEmpty then .observed .hybrid strategy 1 (.ok [])
  else .observed .hybrid strategy 2 (store.fetch outage 1 (.nearestAmong scope nearness count))

end Store

namespace SearchRequest

def strategy (request : SearchRequest) : Except Failure Strategy :=
  Strategy.select request.bases.length request.count

/-- The filters of a request, which a mode needs. -/
def requireFilters (request : SearchRequest) (mode : Mode) : Except Failure Unit :=
  if request.hasFilters then .ok () else .error (.unmet (.filters mode.phrase))

/-- The vector and the threshold of a request, which a mode needs. -/
def requireNearness (request : SearchRequest) (mode : Mode) : Except Failure Nearness :=
  match request.vector?, request.threshold? with
  | some vector, some threshold =>
      if vector.isEmpty then .error (.unmet (.vector mode.phrase))
      else .ok ⟨vector, threshold⟩
  | _, _ => .error (.unmet (.vector mode.phrase))

def scope (request : SearchRequest) : Except Failure Scope :=
  (Compiled.ofFilters request.filters).map fun compiled => ⟨request.bases, compiled.clauses⟩

end SearchRequest

namespace Retrieved

/-- Goes on with what was prepared, or refuses the search. -/
def after {α : Type} (prepared : Except Failure α) (run : α → Retrieved) : Retrieved :=
  match prepared with
  | .ok value => run value
  | .error failure => refused failure

end Retrieved

namespace Store

/-- Searches in a given mode. What the mode needs is looked at first, then the plan, then the
filters. -/
def searchIn (store : Store) (outage : Outage) (mode : Mode) (request : SearchRequest) :
    Retrieved :=
  match mode with
  | .tag =>
      .after (do
        request.requireFilters mode
        return (← request.strategy, ← request.scope))
        fun (strategy, scope) => store.searchTagged outage strategy scope request.count
  | .vector =>
      .after (do
        let nearness ← request.requireNearness mode
        return (nearness, ← request.strategy))
        fun (nearness, strategy) =>
          store.searchNearest outage strategy request.bases nearness request.count
  | .hybrid =>
      .after (do
        request.requireFilters mode
        let nearness ← request.requireNearness mode
        return (nearness, ← request.strategy, ← request.scope))
        fun (nearness, strategy, scope) =>
          store.searchHybrid outage strategy scope nearness request.count

/-- A request with a threshold, which is that of its plan if it gives none. -/
def withThreshold (request : SearchRequest) : Except Failure SearchRequest :=
  if request.hasVector && request.threshold?.isNone then
    request.strategy.map fun strategy =>
      { request with threshold? := some strategy.distanceThreshold }
  else .ok request

/-- Searches in the mode that the inputs of a request call for. -/
def search (store : Store) (outage : Outage) (request : SearchRequest) : Retrieved :=
  match request.hasFilters, request.hasVector with
  | false, false => .refused (.unmet .filtersOrVector)
  | hasFilters, hasVector =>
      .after (withThreshold request) fun request =>
        let mode : Mode :=
          if hasFilters && hasVector then .hybrid else if hasFilters then .tag else .vector
        store.searchIn outage mode request

end Store

end HybridSearch
