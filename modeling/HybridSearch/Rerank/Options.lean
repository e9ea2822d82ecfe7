import HybridSearch.Checked.Record
import HybridSearch.Checked.Scalar

/-! What a caller may say about the reranking of one search. A limit that is not given is taken from
the settings. -/

namespace HybridSearch.Rerank

structure Options where
  enabled : Bool := true
  model? : Option String := none
  /-- How many results are wanted. -/
  count? : Option Nat := none
  requestId? : Option String := none
  maxCandidates? : Option Nat := none
  maxResults? : Option Nat := none
  maxContentLength? : Option Nat := none
deriving Repr, DecidableEq

namespace Options

/-- A limit, which must be positive where it is given. -/
def checkLimit (input : Json) : Checked (Option Nat) :=
  Checked.optional (fun input => (Checked.atLeast 1 input).map Int.toNat) input

def check (place : Checked.RecordPlace) (input : Json) : Checked Options :=
  Checked.record place "RerankConfig" input fun members =>
    Options.mk
      <$> Checked.fieldOr members ["enabled"] true Checked.boolean
      <*> Checked.fieldOr members ["model"] none (Checked.optional Checked.string)
      <*> Checked.fieldOr members ["topN", "top_n"] none checkLimit
      <*> Checked.fieldOr members ["requestId", "request_id"] none
            (Checked.optional Checked.string)
      <*> Checked.fieldOr members ["maxCandidates", "max_candidates"] none checkLimit
      <*> Checked.fieldOr members ["maxResults", "max_results"] none checkLimit
      <*> Checked.fieldOr members ["maxContentLength", "max_content_length"] none checkLimit

end Options

end HybridSearch.Rerank
