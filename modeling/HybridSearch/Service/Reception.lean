import HybridSearch.Service
import HybridSearch.Url.Address

/-! What a client receives. Every request is noted under the path of its address, in which the host
stands as the client named it. Where that address cannot be read, the note fails, and the answer is
lost, although the request has been counted. -/

namespace HybridSearch.Service

open HybridSearch.Text

/-- Whether what stands between brackets is an address of groups, or one of a version to come. -/
def isBracketed : List Char → Bool
  | 'v' :: rest =>
      let version := rest.takeWhile fun digit => (Url.hexDigit? digit).isSome
      match rest.drop version.length with
      | '.' :: address => version ≠ [] && address ≠ []
      | _ => false
  | text => Url.Address.isColoned text

/-- Whether a host can stand in an address: brackets come in pairs, around an address of their own. -/
def isNamable (host : List Char) : Bool :=
  if '[' ∈ host && ']' ∈ host then isBracketed (before [']'] (behind '[' host))
  else '[' ∉ host && ']' ∉ host

/-- The path of the address that a host and a path make, if that address can be read. Tabs and line
ends are passed over, and the path ends at a question mark or a fragment mark. -/
def notedPath? (host path : String) : Option String :=
  let address := (host.toList ++ path.toList).filter fun character => character ∉ ['\t', '\n', '\r']
  let name := before ['/', '?', '#'] address
  if isNamable name then some (String.ofList (before ['?', '#'] (address.drop name.length)))
  else none

structure Received where
  answer : Answer
  requestId? : Option String
  /-- What was noted of the request. -/
  record? : Option Record
  metrics : Metrics.Collector
  reranking? : Option Rerank.Report

/-- Serves a request in which the client named a host. -/
def receive (surroundings : Surroundings) (metrics : Metrics.Collector) (host : String)
    (incoming : Incoming) : Received :=
  let served := serve surroundings metrics incoming
  match notedPath? host incoming.target.path with
  | some path =>
      { answer := served.answer
        requestId? := served.requestId?
        record? := some { served.record with path }
        metrics := served.metrics
        reranking? := served.reranking? }
  | none =>
      { answer := failureAnswer.forMethod incoming.method
        requestId? := none
        record? := none
        metrics := served.metrics
        reranking? := served.reranking? }

end HybridSearch.Service
