import HybridSearch.Metrics.Call
import HybridSearch.Selection.Text
import HybridSearch.Service
import HybridSearch.Service.Header
import HybridSearch.Service.Reception
import HybridSearch.Table
import HybridSearch.Json.Writer
import HybridSearch.Proofs.Calendar
import HybridSearch.Proofs.Distinct
import HybridSearch.Proofs.Filter.Meaning
import HybridSearch.Proofs.Outcome
import HybridSearch.Proofs.Slot
import HybridSearch.Proofs.Sorting
import HybridSearch.Proofs.Filter.Compiled
import HybridSearch.Proofs.Filter.Days
import HybridSearch.Proofs.Filter.Substring
import HybridSearch.Proofs.Checked
import HybridSearch.Proofs.Number.Overflow
import HybridSearch.Proofs.Request
import HybridSearch.Proofs.Number.Quotient
import HybridSearch.Proofs.Strategy
import HybridSearch.Proofs.Retrieval.Gathering
import HybridSearch.Proofs.Retrieval.Search
import HybridSearch.Proofs.Store.Visibility
import HybridSearch.Proofs.Retrieval.Visibility
import HybridSearch.Proofs.Retrieval.Count
import HybridSearch.Proofs.Filter.Overflow
import HybridSearch.Proofs.Filter.Dropped
import HybridSearch.Proofs.Filter.Value
import HybridSearch.Proofs.Filter.Grammar
import HybridSearch.Proofs.Filter.Case
import HybridSearch.Proofs.Filter.Date
import HybridSearch.Proofs.Retrieval.Failure
import HybridSearch.Proofs.Service.Overflow
import HybridSearch.Proofs.Number.Order
import HybridSearch.Proofs.Store.Ranking
import HybridSearch.Proofs.Retrieval.Results
import HybridSearch.Proofs.Retrieval.LeftOut
import HybridSearch.Proofs.Retrieval.Hybrid
import HybridSearch.Proofs.Retrieval.Shape
import HybridSearch.Proofs.Retrieval.Agreement
import HybridSearch.Proofs.Service.Agreement
import HybridSearch.Proofs.Metrics.Recording
import HybridSearch.Proofs.Rerank.Exchange
import HybridSearch.Proofs.Rerank.Report
import HybridSearch.Proofs.Rerank.Ranking
import HybridSearch.Proofs.Rerank.FailOpen
import HybridSearch.Proofs.Rerank.Emptiness
import HybridSearch.Proofs.Rerank.Items
import HybridSearch.Proofs.Rerank.Agreement
import HybridSearch.Proofs.Rerank.Limits
import HybridSearch.Proofs.Rerank.Order
import HybridSearch.Proofs.Retrieval.Runs
import HybridSearch.Proofs.Service.Presentation
import HybridSearch.Proofs.Service.Resubmission
import HybridSearch.Proofs.Service.Search
import HybridSearch.Proofs.Service.Status
import HybridSearch.Proofs.Service.Consistency
import HybridSearch.Proofs.Retrieval.Split
import HybridSearch.Proofs.Json
import HybridSearch.Proofs.Metrics.Agreement
import HybridSearch.Proofs.Metrics.Lines
import HybridSearch.Proofs.Metrics.Totals
import HybridSearch.Proofs.Metrics.ArrivalOrder
import HybridSearch.Proofs.Metrics.ReadBack
import HybridSearch.Proofs.Retrieval.Accounting
import HybridSearch.Proofs.Service.Counting
