/-! The routes of the service. Left out are the description of its own interface and the pages that show
it, which are counted under the same label as paths without a route. -/

namespace HybridSearch.Service

inductive Route where
  | search
  | strategy
  | health
  | metrics
deriving Repr, DecidableEq

namespace Route

def path : Route → String
  | search => "/api/v1/knowledge/search"
  | strategy => "/api/v1/knowledge/search/strategy"
  | health => "/health"
  | metrics => "/metrics"

def method : Route → String
  | search => "POST"
  | strategy | health | metrics => "GET"

def all : List Route :=
  [search, strategy, health, metrics]

/-- The route with a path. A line end behind the path is passed over. -/
def ofPath? (path : String) : Option Route :=
  all.find? fun route => path = route.path || path = route.path ++ "\n"

/-- A path without the slashes at its end. -/
def withoutSlashes (path : String) : String :=
  String.ofList (path.toList.reverse.dropWhile (· = '/')).reverse

/-- Whether a path would be that of a route, but for slashes at its end. -/
def redirects (path : String) : Bool :=
  path.endsWith "/" && (ofPath? (withoutSlashes path)).isSome

end Route

/-- The label of requests for paths without a route. -/
def unknownPath : String := "/__unknown__"

def pathLabel (route? : Option Route) : String :=
  match route? with
  | some route => route.path
  | none => unknownPath

end HybridSearch.Service
