/-
# The final analysis (`final_analysis.py`)

The values of a metric in a merged benchmark document, their aggregates for the six rounds of
the campaign, and Holm's adjustment of the p-values of the comparisons.
-/
import MatfVpn.Benchmark

namespace MatfVpn

variable {τ : Type}

/-! ## Metrics -/

/-- The number that the value is in a division or a product. -/
def Value.number (A : Arithmetic τ) : Value τ → Except ToolError τ
  | .bool value => A.ofInt value.toNat
  | .int value => A.ofInt value
  | .float value => .ok value
  | _ => .error .typeError

/-- A `Metric` of a benchmark document: the section of its runs and what its extractor takes
from a run. -/
structure Metric (τ : Type) where
  key : String
  section_ : String
  ofRun : Value τ → Except ToolError τ

/-- The runs of the section of the document. -/
def rawRuns (document : Value τ) (section_ : String) : Except ToolError (List (Value τ)) := do
  let section_ ← document.item section_
  let runs ← section_.item "raw_runs"
  runs.iterate

/-- `metric.extractor`. -/
def Metric.extractor (metric : Metric τ) (document : Value τ) : Except ToolError (List τ) := do
  let runs ← rawRuns document metric.section_
  runs.mapM metric.ofRun

/-- `run[name]`, as a number. -/
def runNumber (A : Arithmetic τ) (name : String) (run : Value τ) : Except ToolError τ := do
  let value ← run.item name
  value.number A

/-- `statistics.median(run["rtt_ms"])`. -/
def rttMedian (A : Arithmetic τ) (run : Value τ) : Except ToolError τ := do
  let times ← run.item "rtt_ms"
  let times ← (← times.iterate).mapM (Value.number A)
  median A times

/-- `run["bits_per_second"] / 1_000_000`. -/
def megabits (A : Arithmetic τ) (run : Value τ) : Except ToolError τ := do
  return A.div (← runNumber A "bits_per_second" run) (A.ofRat 1000000)

/-- The throughput without the part that was lost. -/
def effectiveMegabits (A : Arithmetic τ) (run : Value τ) : Except ToolError τ := do
  let throughput ← megabits A run
  let lost ← match ← run.get? "lost_percent" with
    | some lost => lost.number A
    | none => .ok (A.ofRat 0)
  return A.mul throughput (A.sub (A.ofRat 1) (A.div lost (A.ofRat 100)))

/-- `benchmark_metrics`. -/
def benchmarkMetrics (A : Arithmetic τ) : List (Metric τ) :=
  [⟨"rtt_run_median_ms", "latency", rttMedian A⟩,
    ⟨"tcp_mbps", "tcp", megabits A⟩,
    ⟨"udp_effective_mbps", "udp", effectiveMegabits A⟩,
    ⟨"udp_jitter_ms", "udp", runNumber A "jitter_ms"⟩,
    ⟨"udp_loss_percent", "udp", runNumber A "lost_percent"⟩]

/-! ## Rounds -/

/-- `range(0, stop, step)`, for a positive step. -/
def rangeStep (stop step : ℕ) : List ℕ :=
  (List.range ((stop + step - 1) / step)).map (· * step)

/-- `round_aggregates`. -/
def roundAggregates (A : Arithmetic τ) (values : List τ) : Except ToolError (List τ) :=
  if values.length = 6 then .ok values
  else if values.length % 6 ≠ 0 then
    .error (.valueError "metric samples cannot be divided into six campaign rounds")
  else
    let repetitionsPerRound := values.length / 6
    if repetitionsPerRound = 0 then .error (.valueError "range() arg 3 must not be zero")
    else
      (rangeStep values.length repetitionsPerRound).mapM fun start =>
        median A ((values.drop start).take repetitionsPerRound)

/-! ## Comparisons -/

/-- `min(x, y)`. -/
def Arithmetic.min (A : Arithmetic τ) (x y : τ) : τ := if A.lt y x then y else x

/-- `max(x, y)`. -/
def Arithmetic.max (A : Arithmetic τ) (x y : τ) : τ := if A.lt x y then y else x

/-- The loop of `holm_adjust` over the indices from the rank `rank` on. -/
def holmLoop (A : Arithmetic τ) (pValues : List τ) (count : ℕ) :
    (rank : ℕ) → (runningMax : τ) → (order : List ℕ) → (adjusted : List τ) → List τ
  | _, _, [], adjusted => adjusted
  | rank, runningMax, index :: order, adjusted =>
      let pValue := pValues.getD index (A.ofRat 0)
      let corrected := A.min (A.ofRat 1) (A.mul (A.ofRat ((count - rank : ℕ) : ℚ)) pValue)
      let runningMax := A.max runningMax corrected
      holmLoop A pValues count (rank + 1) runningMax order (adjusted.set index runningMax)

/-- `sorted(range(len(p_values)), key=lambda index: p_values[index])`. -/
def holmOrder (A : Arithmetic τ) (pValues : List τ) : List ℕ :=
  A.sortedBy (fun index => pValues.getD index (A.ofRat 0)) (List.range pValues.length)

/-- `holm_adjust`. -/
def holmAdjust (A : Arithmetic τ) (pValues : List τ) : List τ :=
  holmLoop A pValues pValues.length 0 (A.ofRat 0) (holmOrder A pValues)
    (List.replicate pValues.length (A.ofRat 0))

/-- A comparison of two modes, before the adjustment. -/
structure Comparison (τ : Type) where
  first : String
  second : String
  statistic : τ
  pValue : τ

/-- A comparison with its adjusted p-value. -/
structure AdjustedComparison (τ : Type) extends Comparison τ where
  pValueHolm : τ
  significant005 : Bool

/-- The end of `pairwise_mann_whitney` and of `pairwise_wilcoxon`. -/
def adjustComparisons (A : Arithmetic τ) (comparisons : List (Comparison τ)) :
    List (AdjustedComparison τ) :=
  (comparisons.zip (holmAdjust A (comparisons.map (·.pValue)))).map fun (comparison, adjusted) =>
    { comparison with
      pValueHolm := adjusted
      significant005 := A.lt adjusted (A.ofRat (5 / 100)) }

end MatfVpn
