/-
# Samples and their summaries (`benchmark.py`)

The summary of a list of samples, and the readers of the output of `ping` and `iperf3`.
-/
import MatfVpn.PythonValue

namespace MatfVpn

variable {τ : Type}

/-! ## Summaries -/

/-- `Summary`. -/
structure Summary (τ : Type) where
  count : ℕ
  minimum : τ
  maximum : τ
  mean : τ
  median : τ
  p95 : τ
  standardDeviation : τ
  confidence95Low : τ
  confidence95High : τ

/-- `to_dict`. -/
def Summary.toDict (summary : Summary τ) : Value τ :=
  .dict [("count", .int summary.count), ("minimum", .float summary.minimum),
    ("maximum", .float summary.maximum), ("mean", .float summary.mean),
    ("median", .float summary.median), ("p95", .float summary.p95),
    ("standard_deviation", .float summary.standardDeviation),
    ("confidence_95_low", .float summary.confidence95Low),
    ("confidence_95_high", .float summary.confidence95High)]

/-- `values[index]`; a negative index counts from the end. -/
def listItem (values : List τ) (index : ℤ) : Except ToolError τ :=
  let position := if index < 0 then index + values.length else index
  if position < 0 then .error .indexError
  else
    match values[position.toNat]? with
    | some value => .ok value
    | none => .error .indexError

/-- `statistics.median`. -/
def median (A : Arithmetic τ) (data : List τ) : Except ToolError τ :=
  let data := A.sorted data
  let n := data.length
  if n = 0 then .error (.valueError "no median for empty data")
  else if n % 2 = 1 then listItem data (n / 2 : ℕ)
  else do
    let i := n / 2
    let low ← listItem data (i - 1 : ℕ)
    let high ← listItem data i
    return A.div (A.add low high) (A.ofRat 2)

/-- `_percentile`. -/
def percentile (A : Arithmetic τ) (values : List τ) (fraction : τ) : Except ToolError τ :=
  if values.length = 1 then listItem values 0
  else do
    let position := A.mul (A.ofRat (values.length - 1)) fraction
    let lower := A.floor position
    let upper := A.ceil position
    if lower = upper then listItem values lower
    else
      let weight := A.sub position (A.ofRat lower)
      let low ← listItem values lower
      let high ← listItem values upper
      return A.add (A.mul low (A.sub (A.ofRat 1) weight)) (A.mul high weight)

/-- `statistics.stdev(values) if count > 1 else 0.0`. -/
def standardDeviation (A : Arithmetic τ) (values : List τ) : Except ToolError τ :=
  if values.length > 1 then A.stdev values else .ok (A.ofRat 0)

/-- `summarize`. -/
def summarize (A : Arithmetic τ) (samples : List τ) : Except ToolError (Summary τ) :=
  let values := A.sorted samples
  if values = [] then .error (.valueError "at least one sample is required")
  else do
    let count := values.length
    let mean ← A.fmean values
    let deviation ← standardDeviation A values
    let margin := A.div (A.mul (A.ofRat (196 / 100)) deviation) (A.sqrt (A.ofRat count))
    return {
      count
      minimum := ← listItem values 0
      maximum := ← listItem values (-1)
      mean
      median := ← median A values
      p95 := ← percentile A values (A.ofRat (95 / 100))
      standardDeviation := deviation
      confidence95Low := A.sub mean margin
      confidence95High := A.add mean margin }

/-! ## The output of `ping` -/

/-- The characters of the class `[0-9.]`. -/
def isTimeCharacter (c : Char) : Bool := c = '.' || ('0' ≤ c && c ≤ '9')

/-- `PING_REPLY` at the beginning of the text: the group and the text after the match.  The
characters of the group, the white space and the letters after it exclude each other, so that
the longest choice is the only one. -/
def pingReply? : List Char → Option (List Char × List Char)
  | 't' :: 'i' :: 'm' :: 'e' :: c :: text =>
      if c = '=' ∨ c = '<' then
        let (group, text) := text.span isTimeCharacter
        match group, text.dropWhile isUnicodeSpace with
        | _ :: _, 'm' :: 's' :: rest => some (group, rest)
        | _, _ => none
      else none
  | _ => none

/-- The groups of `PING_REPLY.finditer(text)`, for a text of at most this length. -/
def findReplies : ℕ → List Char → List (List Char)
  | 0, _ => []
  | _, [] => []
  | length + 1, c :: text =>
      match pingReply? (c :: text) with
      | some (group, rest) => group :: findReplies length rest
      | none => findReplies length text

/-- `parse_ping_times`. -/
def parsePingTimes (A : Arithmetic τ) (output : List Char) : Except ToolError (List τ) := do
  let samples ← (findReplies output.length output).mapM fun group =>
    (Value.str (String.ofList group) : Value τ).toFloat A
  if samples = [] then .error (.valueError "ping output contains no RTT samples")
  else return samples

/-! ## The output of `iperf3` -/

/-- The exceptions of `json.loads` and `str`. -/
inductive InterpreterError where
  | jsonDecodeError (message : String)
  | valueError (message : String)
  | recursionError
  deriving DecidableEq, Repr

/-- The exceptions of `time.sleep`: NaN has no number of nanoseconds, and other times have too
many. -/
inductive SleepError where
  | valueError
  | overflowError
  deriving DecidableEq, Repr

/-- What the tools use of the interpreter: floats, `json.loads`, `str` and `time.sleep`. -/
structure Interpreter (τ : Type) where
  arithmetic : Arithmetic τ
  loads : String → Except InterpreterError (Value τ)
  str : Value τ → Except InterpreterError String
  sleep : τ → Except SleepError Unit

/-- The exception, for a caller that does not catch it. -/
def InterpreterError.toToolError : InterpreterError → ToolError
  | jsonDecodeError message | valueError message => .valueError message
  | recursionError => .recursionError

/-- The exception, which no caller catches. -/
def SleepError.toToolError : SleepError → ToolError
  | valueError => .valueError "Invalid value NaN (not a number)"
  | overflowError => .overflowError

/-- The field of the summary as a float. -/
def metric (A : Arithmetic τ) (summary : Value τ) (name : String) :
    Except ToolError (String × τ) := do
  let value ← summary.item name
  return (name, ← value.toFloat A)

/-- The metrics of the section of the result. -/
def sectionMetrics (A : Arithmetic τ) (result : Value τ) (section_ : String)
    (names : List String) : Except ToolError (List (String × τ)) := do
  let finish ← result.item "end"
  let summary ← finish.item section_
  names.mapM (metric A summary)

/-- The section of the result of the protocol, and its fields. -/
def expectedMetrics (protocol : String) : Option (String × List String) :=
  if protocol.toLower = "tcp" then some ("sum_received", ["bits_per_second"])
  else if protocol.toLower = "udp" then
    some ("sum", ["bits_per_second", "jitter_ms", "lost_percent"])
  else none

/-- The class is `KeyError`, `TypeError` or `ValueError`. -/
def ToolError.isMissingMetric : ToolError → Bool
  | .keyError | .typeError | .valueError _ => true
  | _ => false

/-- The `try` around the metrics. -/
def expectMetrics (metrics : Except ToolError (List (String × τ))) :
    Except ToolError (List (String × τ)) :=
  match metrics with
  | .ok metrics => .ok metrics
  | .error e =>
      if e.isMissingMetric then
        .error (.valueError "iperf3 JSON does not contain the expected metrics")
      else .error e

/-- `parse_iperf3_json`, once the output is read. -/
def metricsOfResult (P : Interpreter τ) (result : Value τ) (protocol : String) :
    Except ToolError (List (String × τ)) := do
  if ← result.contains "error" then
    let error ← result.item "error"
    match P.str error with
    | .ok text => .error (.valueError s!"iperf3 failed: {text}")
    | .error e => .error e.toToolError
  else
    match expectedMetrics protocol with
    | some (section_, names) => expectMetrics (sectionMetrics P.arithmetic result section_ names)
    | none => .error (.valueError "protocol must be tcp or udp")

/-- `parse_iperf3_json`. -/
def parseIperf3Json (P : Interpreter τ) (output protocol : String) :
    Except ToolError (List (String × τ)) :=
  match P.loads output with
  | .error (.jsonDecodeError _) => .error (.valueError "iperf3 output is not valid JSON")
  | .error e => .error e.toToolError
  | .ok result => metricsOfResult P result protocol

end MatfVpn
