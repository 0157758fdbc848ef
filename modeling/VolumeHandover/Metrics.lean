import VolumeHandover.Decimal.Shortest
import VolumeHandover.Duration
import VolumeHandover.Table

set_option autoImplicit false

/-! # Metrics

Every attempt to provision is counted under its result, and its duration is a sample of a
histogram. `Metrics.exposition` writes both in the text format that monitoring systems read:
first the histogram with cumulative buckets, then the counts in the order of the results.
-/

namespace VolumeHandover

inductive AttemptResult where
  | success
  | failed
  | rescheduled
  | inBackground
deriving DecidableEq, Inhabited, Repr

def AttemptResult.label : AttemptResult → String
  | .success => "success"
  | .failed => "failed"
  | .rescheduled => "rescheduled"
  | .inBackground => "in_background"

/-- The counts by result, and the durations of the attempts in their order. -/
structure Metrics where
  counts : Table Nat := .empty
  samples : List Duration := []
deriving Inhabited

namespace Metrics

def count (m : Metrics) (label : String) : Nat := (m.counts.get? label).getD 0

def observe (m : Metrics) (label : String) (elapsed : Duration) : Metrics :=
  { counts := m.counts.insert label (m.count label + 1)
    samples := m.samples ++ [elapsed] }

/-- Read a count, which brings the series of the label into being. -/
def read (m : Metrics) (label : String) : Nat × Metrics :=
  (m.count label, { m with counts := m.counts.insert label (m.count label) })

/-! ## Exposition -/

def bounds : List Duration :=
  [100, 500, 1000, 2500, 5000, 10000, 30000, 60000, 120000].map .ofMillis

/-- The number of samples up to a bound, the bound included. -/
def samplesWithin (m : Metrics) (bound : Duration) : Nat :=
  (m.samples.filter fun d => d.nanos ≤ bound.nanos).length

def seconds (d : Duration) : Float :=
  Float.ofNat d.seconds + Float.ofNat (d.nanos % 1000000000) / 1000000000

/-- The sum of the samples in seconds, added up in their order. -/
def total (m : Metrics) : Float := m.samples.foldl (fun sum d => sum + seconds d) 0

/-- The value of a label, with backslashes, double quotes and line feeds escaped. -/
def labelValue (s : String) : String :=
  String.ofList (s.toList.flatMap fun c =>
    if c = '\\' then ['\\', '\\']
    else if c = '"' then ['\\', '"']
    else if c = '\n' then ['\\', 'n']
    else [c])

def series (name label value : String) (number : String) : String :=
  name ++ "\x7b" ++ label ++ "=\"" ++ labelValue value ++ "\"\x7d " ++ number

/-- The two lines that introduce a family of series. -/
def familyHead (name help kind : String) : List String :=
  ["# HELP " ++ name ++ " " ++ help, "# TYPE " ++ name ++ " " ++ kind]

def durationName : String := "hybrid_provisioner_provision_duration_seconds"

def provisionsName : String := "hybrid_provisioner_provisions_total"

def histogramLines (m : Metrics) : List String :=
  familyHead durationName "Duration of provision attempts" "histogram" ++
    bounds.map (fun bound =>
      series (durationName ++ "_bucket") "le"
        (toString bound.seconds ++ Duration.fractionText (bound.nanos % 1000000000) 9)
        (toString (m.samplesWithin bound))) ++
    [series (durationName ++ "_bucket") "le" "+Inf" (toString m.samples.length),
      durationName ++ "_sum " ++ plainText m.total,
      durationName ++ "_count " ++ toString m.samples.length]

/-- The lines of the counter; none as long as it has no series. -/
def counterLines (m : Metrics) : List String :=
  match m.counts.entries with
  | [] => []
  | entries =>
      familyHead provisionsName "Provision attempts by result" "counter" ++
        entries.map fun (label, n) => series provisionsName "result" label (toString n)

def contentType : String := "text/plain; version=0.0.4"

def exposition (m : Metrics) : List String := m.histogramLines ++ m.counterLines

end Metrics

end VolumeHandover
