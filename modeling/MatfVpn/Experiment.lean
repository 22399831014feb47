/-
# Merging the blocks of a campaign (`experiment.py`)

The blocks of a mode are documents of the benchmark tool.  `merge_benchmark_blocks` reads them
and joins their runs, which get new numbers and the number of their block.  The files and the
time are arguments.
-/
import MatfVpn.Benchmark

namespace MatfVpn

variable {τ : Type}

/-! ## The files -/

/-- The exceptions of `read_text`. -/
inductive ReadError where
  | osError (message : String)
  | unicodeDecodeError (message : String)

/-- The `ValueError` of a file that cannot be loaded. -/
def cannotLoad (path message : String) : ToolError :=
  .valueError s!"cannot load benchmark block {path}: {message}"

/-- `_load_result`. -/
def loadResult (P : Interpreter τ) (readText : String → Except ReadError String) (path : String) :
    Except ToolError (Value τ) :=
  match readText path with
  | .error (.osError message) => .error (cannotLoad path message)
  | .error (.unicodeDecodeError message) => .error (.valueError message)
  | .ok text =>
      match P.loads text with
      | .error (.jsonDecodeError message) => .error (cannotLoad path message)
      | .error e => .error e.toToolError
      | .ok document => do
          let version ← document.get? "schema_version"
          if Value.eqOptional P.arithmetic version (some (.int 1)) then .ok document
          else .error (.valueError s!"unsupported benchmark schema in {path}")

/-! ## Comparable blocks -/

/-- `COMPARABILITY_FIELDS`. -/
def comparabilityFields : List String :=
  ["target", "ping_count", "iperf_port", "iperf_duration", "udp_bitrate", "skip_iperf"]

/-- The comparison of a block with the parameters of the first one. -/
def compareBlock (A : Arithmetic τ) (reference document : Value τ) : Except ToolError Unit :=
  comparabilityFields.forM fun field => do
    let parameters ← document.item "parameters"
    let value ← parameters.get? field
    let expected ← reference.get? field
    if Value.eqOptional A value expected then .ok ()
    else .error (.valueError s!"benchmark blocks differ in parameter: {field}")

/-! ## Latency -/

/-- The runs and the samples of the latency merged so far. -/
structure MergedLatency (τ : Type) where
  runs : List (Value τ)
  samples : List τ

/-- A run of the latency with its new number. -/
def latencyRun (repetition block : ℕ) (samples : List τ) : Value τ :=
  .dict [("repetition", .int repetition), ("block", .int block),
    ("rtt_ms", .list (samples.map .float))]

/-- The body of the loop over the runs of a block. -/
def mergeLatencyRun (A : Arithmetic τ) (block : ℕ) (merged : MergedLatency τ) (run : Value τ) :
    Except ToolError (MergedLatency τ) := do
  let times ← run.item "rtt_ms"
  let samples ← (← times.iterate).mapM (Value.toFloat A)
  return {
    runs := merged.runs ++ [latencyRun (merged.runs.length + 1) block samples]
    samples := merged.samples ++ samples }

/-- The latency of a block. -/
def mergeLatencyBlock (A : Arithmetic τ) (merged : MergedLatency τ)
    (block : Value τ × ℕ) : Except ToolError (MergedLatency τ) := do
  let latency ← block.1.item "latency"
  let runs ← latency.item "raw_runs"
  (← runs.iterate).foldlM (mergeLatencyRun A block.2) merged

/-- The `lost_percent` of so many samples. -/
def lostPercent (A : Arithmetic τ) (expected : ℤ) (received : ℕ) : Except ToolError τ :=
  if expected = 0 then .error .zeroDivisionError
  else .ok (A.mul (A.ofRat ((expected - received : ℤ) / expected)) (A.ofRat 100))

/-! ## Throughput -/

/-- The runs, the failed attempts and the throughputs merged so far. -/
structure MergedThroughput (τ : Type) where
  runs : List (Value τ)
  failures : List (Value τ)
  throughput : List τ

/-- The fields of a run with its new number. -/
def throughputRun (repetition block : ℕ) (fields : List (String × Value τ)) : Value τ :=
  .dict (Value.setField (Value.setField fields "repetition" (.int repetition)) "block"
    (.int block))

/-- The body of the loop over the runs of a block. -/
def mergeThroughputRun (A : Arithmetic τ) (block : ℕ) (merged : MergedThroughput τ)
    (run : Value τ) : Except ToolError (MergedThroughput τ) := do
  let fields ← run.spread
  let throughput ← run.item "bits_per_second"
  let throughput ← throughput.toFloat A
  return { merged with
    runs := merged.runs ++ [throughputRun (merged.runs.length + 1) block fields]
    throughput := merged.throughput ++ [throughput] }

/-- A failed attempt with the number of its block. -/
def blockFailure (block : ℕ) (fields : List (String × Value τ)) : Value τ :=
  .dict (Value.setField fields "block" (.int block))

/-- The body of the loop over the failed attempts of a block. -/
def mergeFailure (block : ℕ) (merged : MergedThroughput τ) (failure : Value τ) :
    Except ToolError (MergedThroughput τ) := do
  let fields ← failure.spread
  return { merged with failures := merged.failures ++ [blockFailure block fields] }

/-- The throughput of a block. -/
def mergeThroughputBlock (A : Arithmetic τ) (protocol : String) (merged : MergedThroughput τ)
    (block : Value τ × ℕ) : Except ToolError (MergedThroughput τ) := do
  let section_ ← block.1.item protocol
  let runs ← section_.item "raw_runs"
  let merged ← (← runs.iterate).foldlM (mergeThroughputRun A block.2) merged
  let failures ← section_.get? "failed_attempts"
  (← (failures.getD (.list [])).iterate).foldlM (mergeFailure block.2) merged

/-- `_merge_throughput`. -/
def mergeThroughput (A : Arithmetic τ) (documents : List (Value τ)) (protocol : String) :
    Except ToolError (Value τ) := do
  let merged ← (documents.zipIdx 1).foldlM (mergeThroughputBlock A protocol) ⟨[], [], []⟩
  let summary ← summarize A merged.throughput
  return .dict [("raw_runs", .list merged.runs), ("failed_attempts", .list merged.failures),
    ("throughput_summary_bps", summary.toDict)]

/-! ## The merged document -/

/-- The section of the protocol, if the first block has it. -/
def mergeProtocol (A : Arithmetic τ) (first : Value τ) (documents : List (Value τ))
    (protocol : String) : Except ToolError (List (String × Value τ)) := do
  if ← first.contains protocol then
    let section_ ← mergeThroughput A documents protocol
    return [(protocol, section_)]
  else return []

/-- The merged document of the blocks `first` and `rest`. -/
def mergeDocuments (A : Arithmetic τ) (createdAt label : String) (paths : List String)
    (first : Value τ) (rest : List (Value τ)) : Except ToolError (Value τ) := do
  let documents := first :: rest
  let reference ← first.item "parameters"
  rest.forM (compareBlock A reference)
  let merged ← (documents.zipIdx 1).foldlM (mergeLatencyBlock A) ⟨[], []⟩
  let parameters ← reference.spread
  let environment ← first.item "environment"
  let pingCount ← reference.item "ping_count"
  let expected := merged.runs.length * (← pingCount.toInt A)
  let lost ← lostPercent A expected merged.samples.length
  let summary ← summarize A merged.samples
  let tcp ← mergeProtocol A first documents "tcp"
  let udp ← mergeProtocol A first documents "udp"
  return .dict ([("schema_version", .int 1), ("created_at", .str createdAt),
    ("label", .str label),
    ("parameters", .dict (Value.setField (Value.setField parameters "repetitions"
      (.int merged.runs.length)) "source_blocks" (.int documents.length))),
    ("environment", environment), ("source_files", .list (paths.map .str)),
    ("latency", .dict [("unit", .str "ms"), ("raw_runs", .list merged.runs),
      ("expected_samples", .int expected), ("received_samples", .int merged.samples.length),
      ("lost_percent", .float lost), ("summary", summary.toDict)])] ++ tcp ++ udp)

/-- `merge_benchmark_blocks`. -/
def mergeBenchmarkBlocks (P : Interpreter τ) (readText : String → Except ReadError String)
    (createdAt : String) (paths : List String) (label : String) : Except ToolError (Value τ) := do
  if paths = [] then .error (.valueError "at least one benchmark block is required")
  else
    match ← paths.mapM (loadResult P readText) with
    | [] => .error .indexError
    | first :: rest => mergeDocuments P.arithmetic createdAt label paths first rest

end MatfVpn
