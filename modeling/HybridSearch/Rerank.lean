import HybridSearch.Metrics.Observation
import HybridSearch.Rerank.Exchange
import HybridSearch.Rerank.Options
import HybridSearch.Slice
import HybridSearch.Text.Blank

/-! Reranking by an external scoring service. It is done as well as it can be: when it is skipped,
or when the call fails, the results stay as they are. An answer that scores nothing is something
else and leaves no results. -/

namespace HybridSearch.Rerank

inductive Outcome where
  /-- The list stays as it is. -/
  | untouched
  /-- The elements at these positions are left, in this order. -/
  | ranked (positions : List Nat)
deriving Repr, DecidableEq

namespace Outcome

/-- What is left of a list. -/
def apply {α : Type} (outcome : Outcome) (values : List α) : List α :=
  match outcome with
  | untouched => values
  | ranked positions => positions.filterMap fun position => values[position]?

end Outcome

structure Report where
  outcome : Outcome
  requestId? : Option String
  events : List Event
  /-- The call that was attempted, if any. -/
  exchange? : Option Exchange
deriving Repr, DecidableEq

/-- What is observed of a call. Durations are not part of this account of a call. -/
def observation (exchange : Exchange) : Metrics.Observation :=
  .external (.string "rerank") (.string "rerank") (toString exchange.status) (.float 0.0)

/-- The limits of one call, taken from its options or from the settings. Those of the settings need
not be positive. -/
structure Limits where
  candidates : Int
  results : Int
  contentLength : Int
deriving Repr, DecidableEq

namespace Options

/-- The limits of a call. -/
def limits (options : Options) (settings : Settings) : Limits where
  candidates := (options.maxCandidates?.map Int.ofNat).getD settings.rerankMaxCandidates
  results := (options.maxResults?.map Int.ofNat).getD settings.rerankMaxResults
  contentLength :=
    (options.maxContentLength?.map Int.ofNat).getD settings.rerankMaxContentLength

/-- The model of a call; an empty name is none. -/
def model (options : Options) (settings : Settings) : String :=
  (options.model?.filter (· ≠ "")).getD settings.rerankModel

/-- The identifier under which a call is noted; an empty one is none. -/
def effectiveId? (options : Options) (context? : Option String) : Option String :=
  match options.requestId?.filter (· ≠ "") with
  | some id => some id
  | none => context?

end Options

inductive Skip where
  | disabled
  | nothingToRerank
  | noKey
deriving Repr, DecidableEq

/-- Whether there is a reason to rerank nothing. -/
def skip? (settings : Settings) (options : Options) (query : String) (count : Nat) : Option Skip :=
  if !options.enabled then some .disabled
  else if Text.allBlank query || count = 0 then some .nothingToRerank
  else if settings.usableKey?.isNone then some .noKey
  else none

def Skip.report (skip : Skip) (requestId? : Option String) : Report where
  outcome := .untouched
  requestId?
  events := if skip = .noKey then [.noKey] else []
  exchange? := none

def clip (limit : Int) (text : String) : String :=
  String.ofList (takeTo text.toList limit)

def callFor (settings : Settings) (options : Options) (query : String) (documents : List String)
    (count : Nat) : Call where
  url := settings.rerankUrl
  authorization := "Bearer " ++ settings.rerankKey?.getD ""
  timeout := settings.rerankTimeout
  model := options.model settings
  query
  documents
  count

/-- Reranks search results, given their contents. The first candidates are sent; of the items of
the answer the best are kept, and of the documents that they name the first. -/
def rerankResults (settings : Settings) (context? : Option String) (endpoint : Endpoint)
    (query : String) (contents : List String) (options : Options) : Report :=
  let requestId? := options.effectiveId? context?
  match skip? settings options query contents.length with
  | some skip => skip.report requestId?
  | none =>
      let limits := options.limits settings
      let candidates := takeTo contents limits.candidates
      let count := min (options.count?.getD contents.length) candidates.length
      let documents := candidates.map (clip limits.contentLength)
      let exchange := Exchange.make endpoint (callFor settings options query documents count)
      let report (outcome : Outcome) (events : List Event) : Report :=
        ⟨outcome, requestId?, exchange.events ++ events, some exchange⟩
      match exchange.ranked? with
      | none => report .untouched []
      | some ranked =>
          let best := takeTo ranked limits.results
          let positions := named candidates.length best
          if best.isEmpty then report (.ranked []) [.noScores]
          else if positions.isEmpty then report (.ranked []) [.noCandidates]
          else
            report (.ranked (positions.take count))
              [.reranked candidates.length positions.length]

/-- The candidates that have a content to be scored, with their positions. -/
def withContent (candidates : List (Option String)) : List (Nat × String) :=
  candidates.zipIdx.filterMap fun (content?, position) =>
    match content? with
    | some content => if Text.allBlank content then none else some (position, content)
    | none => none

/-- Reranks any items, given their contents. Items without a content are not sent. -/
def rerankContents (settings : Settings) (context? : Option String) (endpoint : Endpoint)
    (query : String) (contents : List (Option String)) (options : Options) : Report :=
  let requestId? := options.effectiveId? context?
  match skip? settings options query contents.length with
  | some skip => skip.report requestId?
  | none =>
      let limits := options.limits settings
      let candidates := takeTo contents limits.candidates
      let valid := withContent candidates
      if valid.isEmpty then ⟨.ranked [], requestId?, [.noContent], none⟩
      else
        let count :=
          min (min (options.count?.getD contents.length) candidates.length) valid.length
        let documents := valid.map fun candidate => clip limits.contentLength candidate.2
        let exchange := Exchange.make endpoint (callFor settings options query documents count)
        let outcome : Outcome := match exchange.ranked? with
          | none => .untouched
          | some ranked =>
              .ranked ((named valid.length (ranked.take count)).filterMap fun index =>
                valid[index]?.map Prod.fst)
        ⟨outcome, requestId?, exchange.events, some exchange⟩

end HybridSearch.Rerank
