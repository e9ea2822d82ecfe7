import HybridSearch.Keyed
import HybridSearch.Metrics.Label
import HybridSearch.Metrics.Observation
import HybridSearch.Sorting

/-! Metrics kept in memory. A histogram counts each duration in the bucket of the first bound that
it does not exceed, and buckets are known by the text of their bound. -/

namespace HybridSearch.Metrics

structure Histogram where
  sum : Float
  count : Nat
  /-- The number of durations in each bucket. -/
  buckets : Keyed String Nat
deriving Repr, DecidableEq

namespace Histogram

def empty : Histogram :=
  ⟨0.0, 0, .empty⟩

/-- The bucket of the durations above every bound. -/
def lastBucket : String := "+Inf"

def bucketOf (duration : Json) : List Json → Except Json.Incomparable String
  | [] => .ok lastBucket
  | bound :: rest =>
      match duration.precedes .atMost bound with
      | .ok true => .ok bound.text
      | .ok false => bucketOf duration rest
      | .error refused => .error refused

/-- Adds a duration. -/
def add (bucket : String) (duration : Float) (histogram : Histogram) : Histogram where
  sum := histogram.sum + duration
  count := histogram.count + 1
  buckets := histogram.buckets.change bucket 0 (· + 1)

def inBucket (histogram : Histogram) (bucket : String) : Nat :=
  (histogram.buckets.get? bucket).getD 0

/-- The buckets with the numbers of durations in them and in those before. -/
def cumulative (histogram : Histogram) (before : Nat) : List String → List (String × Nat)
  | [] => []
  | bucket :: rest =>
      let total := before + histogram.inBucket bucket
      (bucket, total) :: histogram.cumulative total rest

end Histogram

/-- The bounds of a histogram when none are given, in milliseconds. -/
def defaultBounds : List Json :=
  [5, 10, 25, 50, 100, 250, 500, 1000, 2500, 5000, 10000].map .integer

/-- The labels of a series, if all of its values are labels. -/
def labels? : List Json → Except Failure (List Label)
  | [] => .ok []
  | value :: rest =>
      match Label.ofJson? value with
      | some label => (labels? rest).map (label :: ·)
      | none => .error (.notLabel value.kindName)

structure Collector where
  bounds : List Json
  counters : Keyed (CounterSeries Label) Amount
  histograms : Keyed (HistogramSeries Label) Histogram

namespace Collector

/-- No observations yet. Without bounds the default ones are taken. -/
def ofBounds (bounds : List Json) : Collector :=
  ⟨if bounds.isEmpty then defaultBounds else bounds, .empty, .empty⟩

/-- The labels under which a row of labels is kept, among those that are. -/
def known (kept : List (List Label)) (labels : List Label) : List Label :=
  (kept.find? (Label.allSame labels)).getD labels

def counterSeries (collector : Collector) (family : CounterFamily) (labels : List Label) :
    CounterSeries Label :=
  let kept := (collector.counters.keys.filter fun series => series.family = family).map
    CounterSeries.labels
  ⟨family, known kept labels⟩

def histogramSeries (collector : Collector) (family : HistogramFamily) (labels : List Label) :
    HistogramSeries Label :=
  let kept := (collector.histograms.keys.filter fun series => series.family = family).map
    HistogramSeries.labels
  ⟨family, known kept labels⟩

/-- Adds to a counter, which exists afterwards in any case. -/
def count (collector : Collector) (family : CounterFamily) (labels : List Label) (addend : Json) :
    Collector × Option Failure :=
  let series := collector.counterSeries family labels
  let total := (collector.counters.get? series).getD (.integer 0)
  let record (total : Amount) : Collector :=
    { collector with counters := collector.counters.change series total fun _ => total }
  match addend.amount? with
  | some amount =>
      match total.add? amount with
      | some sum => (record sum, none)
      | none => (record total, some .integerTooLarge)
  | none => (record total, some (.notAddable total.kindName addend.kindName))

/-- Adds a duration to a histogram. A duration that can be compared with the bounds but not added
leaves a histogram without it. -/
def measure (collector : Collector) (family : HistogramFamily) (labels : List Label)
    (duration : Json) : Collector × Option Failure :=
  let series := collector.histogramSeries family labels
  let record (add : Histogram → Histogram) : Collector :=
    { collector with histograms := collector.histograms.change series .empty add }
  match Histogram.bucketOf duration collector.bounds with
  | .error refused => (collector, some (.incomparable refused))
  | .ok bucket =>
      match duration.amount? with
      | none => (record id, some (.notAddable "float" duration.kindName))
      | some amount =>
          match amount.toFloat? with
          | some number => (record (Histogram.add bucket number), none)
          | none => (record id, some .integerTooLarge)

def countOne (collector : Collector) (observation : Observation) :
    Collector × Option Failure :=
  let series := observation.counter
  match labels? series.labels with
  | .ok labels => collector.count series.family labels (.integer 1)
  | .error failure => (collector, some failure)

def measureDuration (collector : Collector) (observation : Observation) :
    Collector × Option Failure :=
  let series := observation.histogram
  match labels? series.labels with
  | .ok labels => collector.measure series.family labels observation.duration
  | .error failure => (collector, some failure)

def countResults (collector : Collector) (observation : Observation) :
    Collector × Option Failure :=
  match observation.results? with
  | none => (collector, none)
  | some (series, results) =>
      match labels? series.labels with
      | .ok labels => collector.count series.family labels results
      | .error failure => (collector, some failure)

/-- Records an observation. One that fails half way keeps what is recorded until then. -/
def observe (collector : Collector) (observation : Observation) : Collector × Option Failure :=
  match collector.countOne observation with
  | (counted, some failure) => (counted, some failure)
  | (counted, none) =>
      match counted.measureDuration observation with
      | (measured, some failure) => (measured, some failure)
      | (measured, none) => measured.countResults observation

/-! ## Presentation -/

def labelText (names : List String) (values : List Label) : String :=
  ",".intercalate ((names.zip values).map fun label => label.1 ++ "=\"" ++ label.2.written ++ "\"")

/-- A line with a value. -/
def sample (name labels value : String) : String :=
  name ++ "\x7b" ++ labels ++ "\x7d " ++ value

/-- The lines that open a family. -/
def heading (presentation : Presentation) (kind : String) : List String :=
  ["# HELP " ++ presentation.name ++ " " ++ presentation.help,
    "# TYPE " ++ presentation.name ++ " " ++ kind]

def sorted {α : Type} (series : List (List Label × α)) : List (List Label × α) :=
  sortBy (fun left right => !Label.before right.1 left.1) series

def countersOf (collector : Collector) (family : CounterFamily) : List (List Label × Amount) :=
  collector.counters.entries.filterMap fun entry =>
    if entry.1.family = family then some (entry.1.labels, entry.2) else none

def histogramsOf (collector : Collector) (family : HistogramFamily) :
    List (List Label × Histogram) :=
  collector.histograms.entries.filterMap fun entry =>
    if entry.1.family = family then some (entry.1.labels, entry.2) else none

def counterLines (collector : Collector) (family : CounterFamily) : List String :=
  let presentation := family.presentation
  heading presentation "counter" ++
    (sorted (collector.countersOf family)).map fun (labels, value) =>
      sample presentation.name (labelText presentation.labels labels) value.text

def histogramLines (bounds : List Json) (presentation : Presentation)
    (labels : List Label) (histogram : Histogram) : List String :=
  let labels := labelText presentation.labels labels
  let buckets := histogram.cumulative 0 (bounds.map Json.text ++ [Histogram.lastBucket])
  buckets.map (fun (bucket, total) =>
      sample (presentation.name ++ "_bucket") (labels ++ ",le=\"" ++ bucket ++ "\"")
        (toString total)) ++
    [sample (presentation.name ++ "_sum") labels (Number.twoPlaces histogram.sum),
      sample (presentation.name ++ "_count") labels (toString histogram.count)]

def familyLines (collector : Collector) : Family → List String
  | .counter family => collector.counterLines family
  | .histogram family =>
      heading family.presentation "histogram" ++
        (sorted (collector.histogramsOf family)).flatMap fun (labels, histogram) =>
          histogramLines collector.bounds family.presentation labels histogram

/-- All lines. -/
def lines (collector : Collector) : List String :=
  Family.all.flatMap collector.familyLines

def text (collector : Collector) : String :=
  "\n".intercalate collector.lines ++ "\n"

/-- Why some rows of labels cannot be sorted. Texts always can. -/
def sortingFailure? (rows : List (List Label)) : Option Json.Incomparable :=
  if rows.all fun labels => labels.all Label.isText then none
  else sortingRefusal? Label.allPrecede rows

def familyFailure? (collector : Collector) : Family → Option Json.Incomparable
  | .counter family => sortingFailure? ((collector.countersOf family).map Prod.fst)
  | .histogram family => sortingFailure? ((collector.histogramsOf family).map Prod.fst)

/-- The whole text, unless the series of a family cannot be sorted. -/
def text? (collector : Collector) : Except Failure String :=
  match Family.all.findSome? collector.familyFailure? with
  | some refused => .error (.incomparable refused)
  | none => .ok collector.text

end Collector

end HybridSearch.Metrics
