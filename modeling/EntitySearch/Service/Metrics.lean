import EntitySearch.Ledger
import EntitySearch.Json.Value
import EntitySearch.Search.Measurement
/-!
# Metrics

Measurements are counted in counters and histograms, each of which has a series for every
combination of label values that occurs. `Metrics.samples` gives all series with their values; the
buckets of a histogram are cumulative.
-/

namespace EntitySearch

/-- The labels of a series, with their values. -/
abbrev Labels : Type := List (String × Text)

/-- What a histogram has observed. -/
structure Observations where
  /-- How many observations fall into each bucket and into no earlier one; the last bucket has no
  bound. -/
  buckets : List Nat
  sum : Float
  deriving Repr

/-- A histogram: its name, the bounds of its buckets with their texts, and its series. -/
structure Histogram where
  name : String
  bounds : List (String × Float)
  series : Ledger Labels Observations := []
  deriving Repr

/-- A counter with its series. -/
structure Counter where
  name : String
  series : Ledger Labels Nat := []
  deriving Repr

namespace Counter

/-- Counts once more for some labels. -/
def increase (c : Counter) (labels : Labels) : Counter :=
  { c with series := c.series.put labels ((c.series.get? labels).getD 0 + 1) }

end Counter

namespace Histogram

/-- Counts an observation in the first bucket that holds it. An undefined value is in none. -/
def countIn (x : Float) : List Float → List Nat → List Nat
  | _, [] => []
  | [], n :: rest => (if x == x then n + 1 else n) :: rest
  | bound :: bounds, n :: rest => if x ≤ bound then (n + 1) :: rest else n :: countIn x bounds rest

/-- Observes a value for some labels. -/
def observe (h : Histogram) (labels : Labels) (x : Float) : Histogram :=
  let fresh : Observations := ⟨List.replicate (h.bounds.length + 1) 0, 0⟩
  let seen := (h.series.get? labels).getD fresh
  { h with
    series := h.series.put labels
      ⟨countIn x (h.bounds.map Prod.snd) seen.buckets, seen.sum + x⟩ }

end Histogram

/-- The usual bounds of durations in seconds. -/
def durationBounds : List (String × Float) :=
  [("0.005", 0.005), ("0.01", 0.01), ("0.025", 0.025), ("0.05", 0.05), ("0.075", 0.075),
    ("0.1", 0.1), ("0.25", 0.25), ("0.5", 0.5), ("0.75", 0.75), ("1.0", 1), ("2.5", 2.5),
    ("5.0", 5), ("7.5", 7.5), ("10.0", 10)]

/-- The bounds of numbers of results. -/
def resultBounds : List (String × Float) :=
  [("0.0", 0), ("1.0", 1), ("5.0", 5), ("10.0", 10), ("25.0", 25), ("50.0", 50), ("100.0", 100),
    ("250.0", 250), ("500.0", 500)]

/-- All counters and histograms. -/
structure Metrics where
  requests : Counter := { name := "http_requests_total" }
  requestSeconds : Histogram :=
    { name := "http_request_duration_seconds", bounds := durationBounds }
  searches : Counter := { name := "relay_search_requests_total" }
  searchSeconds : Histogram := { name := "relay_search_duration_seconds", bounds := durationBounds }
  searchResults : Histogram := { name := "relay_search_results", bounds := resultBounds }
  failures : Counter := { name := "relay_subsearch_failures_total" }
  fusions : Counter := { name := "relay_fusion_operations_total" }
  deriving Repr

namespace Metrics

/-- Counts a measurement. -/
def record (m : Metrics) : Measurement → Metrics
  | .search strategy seconds count =>
    { m with
      searches := m.searches.increase [("strategy", strategy)]
      searchSeconds := m.searchSeconds.observe [("strategy", strategy)] seconds
      searchResults := m.searchResults.observe [("strategy", strategy)] (Float.ofInt count) }
  | .fusion algorithm => { m with fusions := m.fusions.increase [("algorithm", algorithm)] }
  | .failure source reason =>
    { m with
      failures := m.failures.increase [("entity_type", source), ("reason", reason.name)] }
  | .request method endpoint status seconds =>
    { m with
      requests := m.requests.increase
        [("endpoint", endpoint), ("method", method), ("status", toString status)]
      requestSeconds := m.requestSeconds.observe
        [("endpoint", endpoint), ("method", method)] seconds }

/-- Counts measurements in order. -/
def recordAll (m : Metrics) (measurements : List Measurement) : Metrics :=
  measurements.foldl record m

/-- A number of results as it is observed; nothing if it is beyond all doubles. -/
def observable (e : Measurement) : Except Number.ArithmeticError Measurement :=
  match e with
  | .search _ _ count => do
    let _ ← Number.floatOfInt count
    pure e
  | e => pure e

/-- Counts measurements in order, as far as all of them can be observed. -/
def recordChecked (m : Metrics) (measurements : List Measurement) :
    Except Number.ArithmeticError Metrics := do
  pure (m.recordAll (← measurements.mapM observable))

/-! ## Samples -/

/-- A series with its value, which may be undefined or infinite. -/
abbrev Sample : Type := Text × Float

/-- A label value between quotes. -/
def quoteValue (value : Text) : Text :=
  "\"" ++ value.flatMap (fun c : CodePoint =>
    if c == '\\' then ("\\\\" : Text) else if c == '\n' then "\\n"
    else if c == '"' then "\\\"" else [c]) ++ "\""

/-- The text of a series: its name and, in braces, its labels, which are given in the order of their
names. -/
def seriesText (name : String) (labels : Labels) : Text :=
  name ++ "\x7b" ++ Text.join "," (labels.map fun (k, v) => k ++ "=" ++ quoteValue v) ++ "\x7d"

/-- Puts the bound of a bucket among labels, in the order of the names. -/
def withBound (bound : String) : Labels → Labels
  | [] => [("le", bound)]
  | (k, v) :: rest =>
    if k < "le" then (k, v) :: withBound bound rest else ("le", bound) :: (k, v) :: rest

/-- The sums of the first one, two, three, … numbers. -/
def cumulative : Nat → List Nat → List Nat
  | _, [] => []
  | before, n :: rest => (before + n) :: cumulative (before + n) rest

/-- The samples of a counter. -/
def counterSamples (c : Counter) : List Sample :=
  c.series.map fun (labels, n) => (seriesText c.name labels, Float.ofNat n)

/-- The samples of a histogram. -/
def histogramSamples (h : Histogram) : List Sample :=
  h.series.flatMap fun (labels, seen) =>
    let counts := cumulative 0 seen.buckets
    let texts := h.bounds.map Prod.fst ++ ["+Inf"]
    (texts.zip counts).map (fun (bound, n) =>
        (seriesText (h.name ++ "_bucket") (withBound bound labels), Float.ofNat n))
      ++ [(seriesText (h.name ++ "_count") labels, Float.ofNat (counts.getLastD 0)),
        (seriesText (h.name ++ "_sum") labels, seen.sum)]

/-- All samples. -/
def samples (m : Metrics) : List Sample :=
  counterSamples m.requests ++ histogramSamples m.requestSeconds ++ counterSamples m.searches
    ++ histogramSamples m.searchSeconds ++ histogramSamples m.searchResults
    ++ counterSamples m.failures ++ counterSamples m.fusions

end Metrics

end EntitySearch
