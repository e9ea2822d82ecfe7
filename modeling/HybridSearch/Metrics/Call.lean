import HybridSearch.Metrics.Backend

/-! Observations as they are asked for: a name with the values that belong to it. -/

namespace HybridSearch.Metrics

inductive Call where
  | request
  | search
  | external
deriving Repr, DecidableEq

inductive Misuse where
  /-- Nothing of this name can be observed. -/
  | unknown (keeper name : String)
  /-- Values are missing at the end of the list. -/
  | missing (keeper : String) (call : Call) (names : List String)
  /-- What is given holds no values. -/
  | notValues (keeper : String) (call : Call) (kindName : String)
  /-- More values are given than are asked for. -/
  | surplus (keeper : String) (call : Call) (given : Nat)
deriving Repr, DecidableEq

namespace Call

def ofName? : String → Option Call
  | "request" => some request
  | "search" => some search
  | "external_api" => some external
  | _ => none

def name : Call → String
  | request => "observe_request"
  | search => "observe_search"
  | external => "observe_external_api"

def required : Call → List String
  | request => ["method", "path", "status_code", "duration_ms"]
  | search => ["mode", "parallel", "success", "duration_ms"]
  | external => ["provider", "operation", "status_code", "duration_ms"]

def optional : Call → Nat
  | search => 1
  | request | external => 0

/-- The observation that a call with the right number of values asks for. -/
def observation? : Call → List Json → Option Observation
  | request, [method, path, status, duration] =>
      some (.request method path status.text duration)
  | search, mode :: parallel :: success :: duration :: results =>
      some (.search mode parallel.isTruthy success.isTruthy duration
        (results.headD (.integer 0)))
  | external, [provider, operation, status, duration] =>
      some (.external provider operation status.text duration)
  | _, _ => none

end Call

namespace Misuse

/-- Names in a row, the last one behind a word. -/
def listed (names : List String) : String :=
  match names.map fun name => "'" ++ name ++ "'" with
  | [] => ""
  | [single] => single
  | [first, second] => first ++ " and " ++ second
  | several => ", ".intercalate several.dropLast ++ ", and " ++ several.getLastD ""

/-- What is said when nothing is observed. The keeper counts as a value. -/
def message : Misuse → String
  | unknown keeper name => "'" ++ keeper ++ "' object has no attribute 'observe_" ++ name ++ "'"
  | missing keeper call names =>
      keeper ++ "." ++ call.name ++ "() missing " ++ toString names.length ++
        " required positional argument" ++ (if names.length = 1 then "" else "s") ++ ": " ++
        listed names
  | notValues keeper call kindName =>
      "knowledge_search.observability." ++ keeper ++ "." ++ call.name ++
        "() argument after * must be an iterable, not " ++ kindName
  | surplus keeper call given =>
      let least := call.required.length + 1
      keeper ++ "." ++ call.name ++ "() takes " ++
        (if call.optional = 0 then toString least
          else "from " ++ toString least ++ " to " ++ toString (least + call.optional)) ++
        " positional arguments but " ++ toString (given + 1) ++ " were given"

end Misuse

/-- The observation that is asked for by a name and the values that another value holds. -/
def Observation.ofCall (keeper name : String) (values : Json) : Except Misuse Observation :=
  match Call.ofName? name with
  | none => .error (.unknown keeper name)
  | some call =>
      match Backend.elements values with
      | .error _ => .error (.notValues keeper call values.kindName)
      | .ok values =>
          if call.required.length + call.optional < values.length then
            .error (.surplus keeper call values.length)
          else
            match call.observation? values with
            | some observation => .ok observation
            | none => .error (.missing keeper call (call.required.drop values.length))

/-- The name of what keeps the metrics. -/
def Backend.keeper : Backend → String
  | .collector _ => "MetricsCollector"
  | .registry _ => "PrometheusMetrics"

end HybridSearch.Metrics
