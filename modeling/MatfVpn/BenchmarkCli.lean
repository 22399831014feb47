/-
# Measurements (`benchmark_cli.py`)

The runs of `ping` and `iperf3`, and the document that is written about them.  What the n-th
command does is an argument; the state of a program is the number of commands run so far.  The
parser of the command line and the file are left out: `main` starts with the parsed options and
ends with the document.
-/
import MatfVpn.Benchmark
import MatfVpn.Lib.Program

namespace MatfVpn

open Program

variable {τ : Type}

/-! ## What the tool works with -/

/-- A `CompletedProcess`. -/
structure CompletedProcess where
  returncode : ℤ
  stdout : String
  stderr : String

/-- What the tool does to the outside. -/
inductive ToolEffect (τ : Type) where
  | run (command : List String)
  | sleep (seconds : τ)

/-- The programs of the tool. -/
abbrev Tool (τ : Type) := Program ToolError (ToolEffect τ) ℕ

/-- The parsed options. -/
structure BenchmarkOptions (τ : Type) where
  label : String
  target : String
  networkNamespace : Option String
  repetitions : ℤ
  pingCount : ℤ
  iperfPort : ℤ
  iperfDuration : ℤ
  udpBitrate : String
  maxAttempts : ℤ
  interRunDelay : τ
  skipIperf : Bool

/-- What the document says of the machine and the time. -/
structure Machine where
  createdAt : String
  hostname : String
  platform : String
  python : String
  cpuCount : Option ℤ
  hasIperf : Bool

/-- `_validate_options`. -/
def validateOptions (A : Arithmetic τ) (options : BenchmarkOptions τ) : Except ToolError Unit :=
  if options.repetitions ≤ 0 ∨ options.pingCount ≤ 0 then
    .error (.systemExit "repetitions and ping count must be positive")
  else if options.iperfDuration ≤ 0 then
    .error (.systemExit "iperf duration must be positive")
  else if options.maxAttempts ≤ 0 ∨ A.lt options.interRunDelay (A.ofRat 0) then
    .error (.systemExit "max attempts must be positive and inter-run delay non-negative")
  else if ¬ (1 ≤ options.iperfPort ∧ options.iperfPort ≤ 65535) then
    .error (.systemExit "iperf port must be between 1 and 65535")
  else .ok ()

/-- The first text that is not empty. -/
def firstNonEmpty (first second default : List Char) : List Char :=
  if first ≠ [] then first else if second ≠ [] then second else default

/-- The message about a command that failed. -/
def commandFailure (command : List String) (completed : CompletedProcess) : String :=
  let renderedCommand := " ".intercalate command
  let detail := String.ofList (firstNonEmpty (pyStrip completed.stderr.toList)
    (pyStrip completed.stdout.toList) "no output".toList)
  s!"command failed with exit {completed.returncode}: {renderedCommand}\n{detail}"

/-- `_run`. -/
def runCommand (world : ℕ → CompletedProcess) (command : List String) : Tool τ String := do
  let number ← read
  update (· + 1)
  emit (.run command)
  let completed := world number
  if completed.returncode ≠ 0 then
    raise (.benchmarkCommandError (commandFailure command completed))
  else return completed.stdout

/-- `time.sleep`. -/
def pause (P : Interpreter τ) (seconds : τ) : Tool τ Unit := do
  ofExcept ((P.sleep seconds).mapError SleepError.toToolError)
  emit (.sleep seconds)

/-! ## Latency -/

/-- The command of `_run_latency`. -/
def pingCommand (commandPrefix : List String) (options : BenchmarkOptions τ) : List String :=
  commandPrefix ++ ["ping", "-n", "-c", toString options.pingCount, "-W", "2", options.target]

/-- The loop of `_run_latency`, from the number `repetition` on. -/
def latencyLoop (A : Arithmetic τ) (world : ℕ → CompletedProcess) (command : List String) :
    (remaining repetition : ℕ) → (samples : List τ) → (runs : List (Value τ)) →
    Tool τ (List τ × List (Value τ))
  | 0, _, samples, runs => return (samples, runs)
  | remaining + 1, repetition, samples, runs => do
      let output ← runCommand world command
      let runSamples ← ofExcept (parsePingTimes A output.toList)
      latencyLoop A world command remaining (repetition + 1) (samples ++ runSamples)
        (runs ++ [.dict [("repetition", .int (repetition + 1)),
          ("rtt_ms", .list (runSamples.map .float))]])

/-- `_run_latency`. -/
def runLatency (A : Arithmetic τ) (world : ℕ → CompletedProcess) (commandPrefix : List String)
    (options : BenchmarkOptions τ) : Tool τ (Value τ) := do
  let (samples, runs) ← latencyLoop A world (pingCommand commandPrefix options)
    options.repetitions.toNat 0 [] []
  let summary ← ofExcept (summarize A samples)
  return .dict [("unit", .str "ms"), ("raw_runs", .list runs), ("summary", summary.toDict)]

/-! ## Throughput -/

/-- The command of `_run_iperf`. -/
def iperfCommand (commandPrefix : List String) (options : BenchmarkOptions τ) (protocol : String) :
    List String :=
  commandPrefix ++ ["iperf3", "--client", options.target, "--port", toString options.iperfPort,
    "--time", toString options.iperfDuration, "--json"] ++
    if protocol = "udp" then ["--udp", "--bitrate", options.udpBitrate] else []

/-- An entry of `failed_attempts`. -/
structure FailedAttempt where
  repetition : ℕ
  attempt : ℕ
  error : String
  deriving DecidableEq

/-- The entry as it is written. -/
def FailedAttempt.toDict (failure : FailedAttempt) : Value τ :=
  .dict [("repetition", .int failure.repetition), ("attempt", .int failure.attempt),
    ("error", .str failure.error)]

/-- `str(error)`, for the two classes that `_run_iperf` catches. -/
def ToolError.caughtText? : ToolError → Option String
  | .benchmarkCommandError message | .valueError message => some message
  | _ => none

/-- The attempts of a repetition from the number `attempt` on. -/
def attemptLoop (P : Interpreter τ) (world : ℕ → CompletedProcess) (command : List String)
    (options : BenchmarkOptions τ) (protocol : String) (repetition : ℕ) :
    (remaining attempt : ℕ) → (failures : List FailedAttempt) →
    Tool τ (List (String × τ) × List FailedAttempt)
  | 0, _, _ => raise .assertionError
  | remaining + 1, number, failures => do
      let outcome ← attempt do
        let output ← runCommand world command
        ofExcept (parseIperf3Json P output protocol)
      match outcome with
      | .ok metrics => return (metrics, failures)
      | .error error =>
          match error.caughtText? with
          | none => raise error
          | some text => do
              let failures := failures ++ [⟨repetition + 1, number, text⟩]
              if (number : ℤ) = options.maxAttempts then
                raise (.benchmarkCommandError (s!"{protocol} repetition {repetition + 1} " ++
                  s!"failed after {options.maxAttempts} attempts"))
              else
                pause P options.interRunDelay
                attemptLoop P world command options protocol repetition remaining (number + 1)
                  failures

/-- `{"repetition": repetition + 1, **metrics}`. -/
def runDict (repetition : ℕ) (metrics : List (String × τ)) : Value τ :=
  .dict (("repetition", .int (repetition + 1)) ::
    metrics.map fun metric => (metric.1, .float metric.2))

/-- `metrics[name]`. -/
def metricItem (metrics : List (String × τ)) (name : String) : Except ToolError τ :=
  match metrics.lookup name with
  | some value => .ok value
  | none => .error .keyError

/-- The loop of `_run_iperf` over the repetitions from `repetition` on. -/
def iperfLoop (P : Interpreter τ) (world : ℕ → CompletedProcess) (command : List String)
    (options : BenchmarkOptions τ) (protocol : String) :
    (remaining repetition : ℕ) → (runs : List (Value τ)) →
    (failures : List FailedAttempt) → (throughput : List τ) →
    Tool τ (List (Value τ) × List FailedAttempt × List τ)
  | 0, _, runs, failures, throughput => return (runs, failures, throughput)
  | remaining + 1, repetition, runs, failures, throughput => do
      let (metrics, failures) ← attemptLoop P world command options protocol repetition
        options.maxAttempts.toNat 1 failures
      let sample ← ofExcept (metricItem metrics "bits_per_second")
      if (repetition : ℤ) + 1 < options.repetitions then
        pause P options.interRunDelay
      iperfLoop P world command options protocol remaining (repetition + 1)
        (runs ++ [runDict repetition metrics]) failures (throughput ++ [sample])

/-- The section that `_run_iperf` returns. -/
def iperfSection (runs : List (Value τ)) (failures : List FailedAttempt)
    (summary : Summary τ) : Value τ :=
  .dict [("raw_runs", .list runs),
    ("failed_attempts", .list (failures.map FailedAttempt.toDict)),
    ("throughput_summary_bps", summary.toDict)]

/-- `_run_iperf`. -/
def runIperf (P : Interpreter τ) (world : ℕ → CompletedProcess) (commandPrefix : List String)
    (options : BenchmarkOptions τ) (protocol : String) : Tool τ (Value τ) := do
  let (runs, failures, throughput) ← iperfLoop P world
    (iperfCommand commandPrefix options protocol) options protocol options.repetitions.toNat 0
    [] [] []
  let summary ← ofExcept (summarize P.arithmetic throughput)
  return iperfSection runs failures summary

/-! ## The document -/

/-- A text that may be missing. -/
def optionalText : Option String → Value τ
  | some text => .str text
  | none => .null

/-- The parameters in the document. -/
def parametersDict (options : BenchmarkOptions τ) : Value τ :=
  .dict [("target", .str options.target),
    ("namespace", optionalText options.networkNamespace),
    ("repetitions", .int options.repetitions), ("ping_count", .int options.pingCount),
    ("iperf_port", .int options.iperfPort), ("iperf_duration", .int options.iperfDuration),
    ("udp_bitrate", .str options.udpBitrate), ("max_attempts", .int options.maxAttempts),
    ("inter_run_delay", .float options.interRunDelay), ("skip_iperf", .bool options.skipIperf)]

/-- The environment in the document. -/
def environmentDict (machine : Machine) : Value τ :=
  .dict [("hostname", .str machine.hostname), ("platform", .str machine.platform),
    ("python", .str machine.python),
    ("cpu_count", match machine.cpuCount with
      | some count => .int count
      | none => .null)]

/-- `main`, from the parsed options to the document. -/
def benchmarkMain (P : Interpreter τ) (world : ℕ → CompletedProcess) (machine : Machine)
    (options : BenchmarkOptions τ) : Tool τ (Value τ) := do
  ofExcept (validateOptions P.arithmetic options)
  let commandPrefix := match options.networkNamespace with
    | some name => if name = "" then [] else ["ip", "netns", "exec", name]
    | none => []
  if options.skipIperf = false ∧ machine.hasIperf = false then
    raise (.systemExit "iperf3 is required unless --skip-iperf is used")
  let latency ← runLatency P.arithmetic world commandPrefix options
  let head := [("schema_version", .int 1), ("created_at", .str machine.createdAt),
    ("label", .str options.label), ("parameters", parametersDict options),
    ("environment", environmentDict machine), ("latency", latency)]
  if options.skipIperf then return .dict head
  else
    let tcp ← runIperf P world commandPrefix options "tcp"
    let udp ← runIperf P world commandPrefix options "udp"
    return .dict (head ++ [("tcp", tcp), ("udp", udp)])

end MatfVpn
