import HybridSearch.Json.Comparison
import HybridSearch.Json.Numeric

/-! What is observed, and the families of series that count it. Every observation adds one to a
counter and its duration to a histogram; a search that succeeds also adds its results. The labels,
durations and results are meant to be texts and numbers, but a caller may give any values. -/

namespace HybridSearch.Metrics

inductive Observation where
  /-- A request was answered. -/
  | request (method path : Json) (status : String) (duration : Json)
  /-- A search was run. -/
  | search (mode : Json) (parallel success : Bool) (duration results : Json)
  /-- Another service was called. -/
  | external (provider operation : Json) (status : String) (duration : Json)

inductive CounterFamily where
  | requests
  | searches
  | results
  | externalCalls
deriving Repr, DecidableEq

inductive HistogramFamily where
  | requests
  | searches
  | externalCalls
deriving Repr, DecidableEq

structure CounterSeries (label : Type) where
  family : CounterFamily
  labels : List label
deriving Repr, DecidableEq

structure HistogramSeries (label : Type) where
  family : HistogramFamily
  labels : List label
deriving Repr, DecidableEq

structure Presentation where
  name : String
  help : String
  labels : List String

namespace CounterFamily

def presentation : CounterFamily → Presentation
  | requests => ⟨"http_requests_total", "Total HTTP requests", ["method", "path", "status"]⟩
  | searches =>
      ⟨"knowledge_searches_total", "Knowledge base retrieval calls",
        ["mode", "strategy", "status"]⟩
  | results => ⟨"knowledge_search_results_total", "Chunks returned by retrieval", ["mode"]⟩
  | externalCalls =>
      ⟨"external_api_requests_total", "External API requests",
        ["provider", "operation", "status"]⟩

end CounterFamily

namespace HistogramFamily

def presentation : HistogramFamily → Presentation
  | requests =>
      ⟨"http_request_duration_ms", "Request duration in milliseconds", ["method", "path"]⟩
  | searches =>
      ⟨"knowledge_search_duration_ms", "Retrieval duration in milliseconds",
        ["mode", "strategy"]⟩
  | externalCalls =>
      ⟨"external_api_duration_ms", "External API duration in milliseconds",
        ["provider", "operation"]⟩

end HistogramFamily

inductive Family where
  | counter (family : CounterFamily)
  | histogram (family : HistogramFamily)
deriving Repr, DecidableEq

namespace Family

/-- All families, in the order in which they are presented. -/
def all : List Family :=
  [.counter .requests, .histogram .requests, .counter .searches, .histogram .searches,
    .counter .results, .counter .externalCalls, .histogram .externalCalls]

end Family

namespace Observation

def strategyLabel (parallel : Bool) : String :=
  if parallel then "parallel" else "single"

def outcomeLabel (success : Bool) : String :=
  if success then "success" else "error"

def counter : Observation → CounterSeries Json
  | request method path status _ => ⟨.requests, [method, path, .string status]⟩
  | search mode parallel success _ _ =>
      ⟨.searches, [mode, .string (strategyLabel parallel), .string (outcomeLabel success)]⟩
  | external provider operation status _ =>
      ⟨.externalCalls, [provider, operation, .string status]⟩

def histogram : Observation → HistogramSeries Json
  | request method path _ _ => ⟨.requests, [method, path]⟩
  | search mode parallel _ _ _ => ⟨.searches, [mode, .string (strategyLabel parallel)]⟩
  | external provider operation _ _ => ⟨.externalCalls, [provider, operation]⟩

def duration : Observation → Json
  | request _ _ _ duration => duration
  | search _ _ _ duration _ => duration
  | external _ _ _ duration => duration

/-- The counter of results that an observation adds to, and how many. -/
def results? : Observation → Option (CounterSeries Json × Json)
  | search mode _ true _ results => some (⟨.results, [mode]⟩, results)
  | _ => none

end Observation

/-- Why an observation is not recorded in full, metrics cannot be shown, or none can be kept. -/
inductive Failure where
  /-- An integer has no binary number near it. -/
  | integerTooLarge
  | negativeIncrement
  | unsortedBounds
  | tooFewBounds
  /-- Values of two kinds have no order. -/
  | incomparable (refused : Json.Incomparable)
  /-- A value of one kind is added to a number of another kind. -/
  | notAddable (sumKind addendKind : String)
  /-- A value of this kind is no label. -/
  | notLabel (kindName : String)
  /-- A value of this kind does not hold others. -/
  | notIterable (kindName : String)
  /-- A bound is no number. -/
  | bound (fault : Json.NumberFault)
deriving Repr, DecidableEq

def Failure.message : Failure → String
  | integerTooLarge => "int too large to convert to float"
  | negativeIncrement => "Counters can only be incremented by non-negative amounts."
  | unsortedBounds => "Buckets not in sorted order"
  | tooFewBounds => "Must have at least two buckets"
  | incomparable refused => refused.message
  | notAddable sumKind addendKind =>
      "unsupported operand type(s) for +=: '" ++ sumKind ++ "' and '" ++ addendKind ++ "'"
  | notLabel kindName => "unhashable type: '" ++ kindName ++ "'"
  | notIterable kindName => "'" ++ kindName ++ "' object is not iterable"
  | bound fault => fault.message

end HybridSearch.Metrics
