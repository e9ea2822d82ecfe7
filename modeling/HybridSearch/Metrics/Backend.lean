import HybridSearch.Metrics.Collector
import HybridSearch.Metrics.Registry

/-! The two ways of keeping metrics, behind one interface. -/

namespace HybridSearch.Metrics

inductive Backend where
  | collector (collector : Collector)
  | registry (registry : Registry)

namespace Backend

/-- The name of the registry of binary numbers. Every other name stands for metrics in memory. -/
def registryName : String := "prometheus"

/-- The values that a value holds: the items of a list, the keys of an object or the characters of a
text. -/
def elements : Json → Except Failure (List Json)
  | .array items => .ok items
  | .object members => .ok (members.map fun member => .string member.1)
  | .string text => .ok (text.toList.map fun character => .string (String.singleton character))
  | value => .error (.notIterable value.kindName)

/-- The backend with a name, and with bounds if any are given. In memory, empty bounds are none. -/
def ofName? (name : String) (bounds? : Option Json) : Except Failure Backend :=
  if name = registryName then
    (match bounds? with
      | none => .ok defaultBounds
      | some bounds => elements bounds) >>= fun bounds => (Registry.ofBounds? bounds).map registry
  else
    match bounds?.filter Json.isTruthy with
    | none => .ok (collector (.ofBounds []))
    | some bounds => (elements bounds).map fun bounds => collector (.ofBounds bounds)

def observe (backend : Backend) (observation : Observation) : Backend × Option Failure :=
  match backend with
  | collector kept =>
      let (kept, failure?) := kept.observe observation
      (collector kept, failure?)
  | registry kept =>
      let (kept, failure?) := kept.observe observation
      (registry kept, failure?)

def text? : Backend → Except Failure String
  | collector kept => kept.text?
  | registry kept => .ok kept.text

end Backend

end HybridSearch.Metrics
