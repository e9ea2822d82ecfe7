import HybridSearch.Keyed
import HybridSearch.Metrics.Observation
import HybridSearch.Sorting

/-! Metrics kept as binary numbers. A counter only grows; a histogram has one count for each of its
ascending bounds, the last of which is infinite. Series stand in the order of their first use, and
the values of labels are escaped where they are written. -/

namespace HybridSearch.Metrics

/-- The durations of one series: their sum, and a count for each bound. -/
structure BoundedHistogram where
  sum : Float
  counts : List Float
deriving Repr, DecidableEq

namespace BoundedHistogram

def empty (bounds : List Float) : BoundedHistogram :=
  ⟨0.0, bounds.map fun _ => 0.0⟩

/-- Adds one to the count of the first bound that a duration does not exceed. -/
def countAt (duration : Amount) : List Float → List Float → List Float
  | bound :: bounds, count :: counts =>
      if duration.atMost (.float bound) then (count + 1.0) :: counts
      else count :: countAt duration bounds counts
  | _, counts => counts

/-- Adds a duration. -/
def add (bounds : List Float) (duration : Amount) (number : Float)
    (histogram : BoundedHistogram) : BoundedHistogram :=
  ⟨histogram.sum + number, countAt duration bounds histogram.counts⟩

/-- The counts with those before them added. -/
def cumulative (before : Float) : List Float → List Float
  | [] => []
  | count :: rest => (before + count) :: cumulative (before + count) rest

end BoundedHistogram

/-- Counters and histograms with the bounds of the histograms. The moments at which series began,
which the text may show as well, are left out. -/
structure Registry where
  bounds : List Float
  counters : Keyed (CounterSeries String) Float
  histograms : Keyed (HistogramSeries String) BoundedHistogram
deriving Repr, DecidableEq

namespace Registry

/-- Whether no number is followed by a smaller one. -/
def ascending : List Float → Bool
  | first :: second :: rest => !decide (second < first) && ascending (second :: rest)
  | _ => true

/-- No observations yet. The bounds must ascend, and there must be two of them with the infinite
one, which is added where it is not the last. -/
def ofBounds? (bounds : List Json) : Except Failure Registry :=
  match bounds.mapM Json.toFloat with
  | .error fault => .error (.bound fault)
  | .ok bounds =>
      if !ascending bounds then .error .unsortedBounds
      else
        let closed := match bounds.getLast? with
          | some last => if last == Number.infinity then bounds else bounds ++ [Number.infinity]
          | none => []
        if closed.length < 2 then .error .tooFewBounds
        else .ok ⟨closed, .empty, .empty⟩

/-- Adds to a counter. The counter exists afterwards, also when the addend is refused. -/
def count (registry : Registry) (series : CounterSeries Json) (addend : Json) :
    Registry × Option Failure :=
  let series : CounterSeries String := ⟨series.family, series.labels.map Json.text⟩
  let record (add : Float → Float) : Registry :=
    { registry with counters := registry.counters.change series 0.0 add }
  match addend.amount? with
  | none => (record id, some (.incomparable ⟨.less, addend.kindName, "int"⟩))
  | some amount =>
      if amount.less (.integer 0) then (record id, some .negativeIncrement)
      else
        match amount.toFloat? with
        | some number => (record (· + number), none)
        | none => (record id, some .integerTooLarge)

/-- Adds a duration to a histogram, which exists afterwards in any case. -/
def measure (registry : Registry) (series : HistogramSeries Json) (duration : Json) :
    Registry × Option Failure :=
  let series : HistogramSeries String := ⟨series.family, series.labels.map Json.text⟩
  let record (add : BoundedHistogram → BoundedHistogram) : Registry :=
    { registry with
      histograms := registry.histograms.change series (.empty registry.bounds) add }
  match duration.amount? with
  | none => (record id, some (.notAddable "float" duration.kindName))
  | some amount =>
      match amount.toFloat? with
      | some number => (record (BoundedHistogram.add registry.bounds amount number), none)
      | none => (record id, some .integerTooLarge)

/-- Records an observation. One that fails half way keeps what is recorded until then. -/
def observe (registry : Registry) (observation : Observation) : Registry × Option Failure :=
  match registry.count observation.counter (.integer 1) with
  | (counted, some failure) => (counted, some failure)
  | (counted, none) =>
      match counted.measure observation.histogram observation.duration with
      | (measured, some failure) => (measured, some failure)
      | (measured, none) =>
          match observation.results? with
          | some (series, results) => measured.count series results
          | none => (measured, none)

/-! ## Presentation -/

def escaped (value : String) : String :=
  String.ofList <| value.toList.flatMap fun character =>
    if character = '\\' then ['\\', '\\']
    else if character = '"' then ['\\', '"']
    else if character = '\n' then ['\\', 'n']
    else [character]

/-- A line with a value, with the labels in the order of their names. -/
def sample (name : String) (labels : List (String × String)) (value : Float) : String :=
  let sorted := sortBy (fun left right => left.1 ≤ right.1) labels
  let texts := sorted.map fun label => label.1 ++ "=\"" ++ escaped label.2 ++ "\""
  name ++ "\x7b" ++ ",".intercalate texts ++ "\x7d " ++ Number.sampleText value

def heading (presentation : Presentation) (kind : String) : List String :=
  ["# HELP " ++ presentation.name ++ " " ++ presentation.help,
    "# TYPE " ++ presentation.name ++ " " ++ kind]

def counterLines (registry : Registry) (family : CounterFamily) : List String :=
  let presentation := family.presentation
  heading presentation "counter" ++
    registry.counters.entries.filterMap fun entry =>
      if entry.1.family = family then
        some (sample presentation.name (presentation.labels.zip entry.1.labels) entry.2)
      else none

/-- The lines of one histogram. The sum stands only where no duration can be negative, which the
first bound shows. -/
def histogramLines (bounds : List Float) (presentation : Presentation) (labels : List String)
    (histogram : BoundedHistogram) : List String :=
  let labels := presentation.labels.zip labels
  let totals := BoundedHistogram.cumulative 0.0 histogram.counts
  (bounds.zip totals).map (fun (bound, total) =>
      sample (presentation.name ++ "_bucket") (("le", Number.sampleText bound) :: labels) total) ++
    [sample (presentation.name ++ "_count") labels (totals.getLastD 0.0)] ++
    (if bounds.head?.any (0.0 ≤ ·) then
      [sample (presentation.name ++ "_sum") labels histogram.sum]
    else [])

def familyLines (registry : Registry) : Family → List String
  | .counter family => registry.counterLines family
  | .histogram family =>
      heading family.presentation "histogram" ++
        registry.histograms.entries.flatMap fun entry =>
          if entry.1.family = family then
            histogramLines registry.bounds family.presentation entry.1.labels entry.2
          else []

def lines (registry : Registry) : List String :=
  Family.all.flatMap registry.familyLines

def text (registry : Registry) : String :=
  "\n".intercalate registry.lines ++ "\n"

end Registry

end HybridSearch.Metrics
