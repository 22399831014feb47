/-
# Samples of CPU and memory (`resource_monitor.py`, `resource_report.py`)

The monitor of a benchmark block reads the counters of the kernel until it is stopped and writes
a document with its samples; the report joins the documents of the blocks.  The texts of `/proc`,
the files and the times are arguments; the parsers of the command lines are left out.
-/
import MatfVpn.Experiment
import MatfVpn.FinalAnalysis
import MatfVpn.Lib.OrderedDict

namespace MatfVpn

variable {τ : Type}

/-! ## Texts -/

/-- The characters that end a line. -/
def isLineBreak (c : Char) : Bool :=
  (0x0A ≤ c.toNat && c.toNat ≤ 0x0D) || (0x1C ≤ c.toNat && c.toNat ≤ 0x1E) ||
    [0x85, 0x2028, 0x2029].contains c.toNat

/-- `text.splitlines()`. -/
def splitLines : List Char → List (List Char)
  | [] => []
  | '\r' :: '\n' :: rest => [] :: splitLines rest
  | c :: rest =>
      if isLineBreak c then [] :: splitLines rest
      else
        match splitLines rest with
        | [] => [[c]]
        | line :: lines => (c :: line) :: lines

/-- `text.split()`. -/
def splitWords (text : List Char) : List (List Char) :=
  (text.splitOnP isUnicodeSpace).filter (· ≠ [])

/-- `items[index]`, for an index that is not negative. -/
def nthItem {α : Type} (items : List α) (index : ℕ) : Except ToolError α :=
  match items[index]? with
  | some item => .ok item
  | none => .error .indexError

/-- `int(text)`. -/
def intOfText (text : List Char) : Except ToolError ℤ :=
  match pyInt? text with
  | some value => .ok value
  | none => .error (.valueError "")

/-! ## Counters -/

/-- The time that all processors have spent, and the part of it that they were idle. -/
structure CpuTimes where
  total : ℤ
  idle : ℤ
  deriving DecidableEq

/-- `read_cpu_times`, for the text of `/proc/stat`. -/
def readCpuTimes (text : List Char) : Except ToolError CpuTimes := do
  let firstLine ← nthItem (splitLines text) 0
  let fields ← (splitWords firstLine).tail.mapM intOfText
  let idle ← nthItem fields 3
  return ⟨fields.sum, idle + fields.getD 4 0⟩

/-- `cpu_percent`. -/
def cpuPercent (A : Arithmetic τ) (previous current : CpuTimes) : τ :=
  let totalDelta := current.total - previous.total
  let idleDelta := current.idle - previous.idle
  if totalDelta ≤ 0 then A.ofRat 0
  else
    A.max (A.ofRat 0) (A.min (A.ofRat 100)
      (A.mul (A.ofRat ((totalDelta - idleDelta : ℤ) / totalDelta)) (A.ofRat 100)))

/-- A line of `/proc/meminfo`. -/
def readMemoryLine (line : List Char) : Except ToolError (List Char × ℤ) :=
  if ':' ∈ line then do
    let value ← nthItem (splitWords (line.dropWhile (· ≠ ':')).tail) 0
    return (line.takeWhile (· ≠ ':'), ← intOfText value)
  else .error (.valueError "not enough values to unpack (expected 2, got 1)")

/-- The field of `/proc/meminfo`. -/
def memoryField (fields : OrderedDict (List Char) ℤ) (name : String) : Except ToolError ℤ :=
  match fields.get? name.toList with
  | some value => .ok value
  | none => .error .keyError

/-- The memory in KiB. -/
structure Memory where
  total : ℤ
  used : ℤ

/-- `read_memory`, for the text of `/proc/meminfo`. -/
def readMemory (text : List Char) : Except ToolError Memory := do
  let fields ← (splitLines text).mapM readMemoryLine
  let fields := fields.foldl (fun fields field => fields.insert field.1 field.2) .empty
  let total ← memoryField fields "MemTotal"
  let available ← memoryField fields "MemAvailable"
  return ⟨total, total - available⟩

/-! ## Processes -/

/-- An entry of `/proc`; a file that has gone or may not be read has no text. -/
structure ProcessEntry where
  name : List Char
  command : Option (List Char)
  status : Option (List Char)

/-- The resident memory in the status of a process, in KiB. -/
def rssOfStatus (status : List Char) : Except ToolError (Option ℤ) :=
  match (splitLines status).find? fun line => "VmRSS:".toList.isPrefixOf line with
  | none => .ok none
  | some line => do
      let value ← intOfText (← nthItem (splitWords line) 1)
      return some value

/-- The resident memory of the entry if its command matches. -/
def matchingRss (pattern : List Char) (entry : ProcessEntry) : Except ToolError (Option ℤ) :=
  -- the directories of processes have numbers for names
  if entry.name = [] ∨ ¬ entry.name.all fun c => (decimalDigit? c).isSome then .ok none
  else
    match entry.command, entry.status with
    | some command, some status =>
        if command.tails.any fun rest => pattern.isPrefixOf rest then rssOfStatus status
        else .ok none
    -- the process has ended in the meantime
    | _, _ => .ok none

/-- `process_rss_mib`. -/
def processRssMib (A : Arithmetic τ) (pattern : List Char) (entries : List ProcessEntry) :
    Except ToolError (Option τ) := do
  let found := (← entries.mapM (matchingRss pattern)).reduceOption
  return if found = [] then none else some (A.ofRat (found.sum / 1024))

/-! ## Samples -/

/-- What the monitor reads after an interval. -/
structure MonitorReading where
  stat : List Char
  meminfo : List Char
  processes : List ProcessEntry

/-- A sample. -/
structure ResourceSample (τ : Type) where
  elapsedSeconds : τ
  systemCpuPercent : τ
  memoryUsedMib : τ
  memoryUsedPercent : τ
  processRssMib : Option τ

/-- The sample in the document. -/
def ResourceSample.fields (sample : ResourceSample τ) : List (String × Value τ) :=
  [("elapsed_seconds", .float sample.elapsedSeconds),
    ("system_cpu_percent", .float sample.systemCpuPercent),
    ("memory_used_mib", .float sample.memoryUsedMib),
    ("memory_used_percent", .float sample.memoryUsedPercent),
    ("process_rss_mib", (sample.processRssMib.map Value.float).getD .null)]

/-- `used / total * 100`. -/
def Memory.usedPercent (A : Arithmetic τ) (memory : Memory) : Except ToolError τ :=
  if memory.total = 0 then .error .zeroDivisionError
  else .ok (A.mul (A.ofRat (memory.used / memory.total)) (A.ofRat 100))

/-- The memory of the matching processes, if there is a pattern. -/
def monitoredRss (A : Arithmetic τ) (processMatch : Option String)
    (entries : List ProcessEntry) : Except ToolError (Option τ) :=
  match processMatch with
  | none => .ok none
  | some pattern => if pattern = "" then .ok none else processRssMib A pattern.toList entries

/-- The body of the loop of `collect_samples`, after so many samples. -/
def takeSample (A : Arithmetic τ) (interval : τ) (processMatch : Option String) (count : ℕ)
    (previous : CpuTimes) (reading : MonitorReading) :
    Except ToolError (ResourceSample τ × CpuTimes) := do
  let current ← readCpuTimes reading.stat
  let memory ← readMemory reading.meminfo
  let percent ← memory.usedPercent A
  let rss ← monitoredRss A processMatch reading.processes
  return ({
    elapsedSeconds := A.add (A.mul (A.ofRat count) interval) interval
    systemCpuPercent := cpuPercent A previous current
    memoryUsedMib := A.ofRat (memory.used / 1024)
    memoryUsedPercent := percent
    processRssMib := rss }, current)

/-- The loop of `collect_samples`, after so many samples. -/
def collectLoop (A : Arithmetic τ) (interval : τ) (processMatch : Option String) :
    ℕ → CpuTimes → List MonitorReading → Except ToolError (List (ResourceSample τ))
  | _, _, [] => .ok []
  | count, previous, reading :: readings => do
      let (sample, current) ← takeSample A interval processMatch count previous reading
      let samples ← collectLoop A interval processMatch (count + 1) current readings
      return sample :: samples

/-- `collect_samples`, for the text of `/proc/stat` before the loop. -/
def collectSamples (A : Arithmetic τ) (interval : τ) (processMatch : Option String)
    (stat : List Char) (readings : List MonitorReading) :
    Except ToolError (List (ResourceSample τ)) := do
  let previous ← readCpuTimes stat
  collectLoop A interval processMatch 0 previous readings

/-! ## The monitor -/

/-- The `summary` of both tools, for the samples as they are read. -/
def resourceSummary (A : Arithmetic τ) (cpu memory percent rss : Except ToolError (List τ)) :
    Except ToolError (Value τ) := do
  let cpu ← summarize A (← cpu)
  let memory ← summarize A (← memory)
  let percent ← summarize A (← percent)
  let fields := [("system_cpu_percent", cpu.toDict), ("memory_used_mib", memory.toDict),
    ("memory_used_percent", percent.toDict)]
  -- without a matching process the field is missing
  let rss ← rss
  if rss = [] then return .dict fields
  else do
    let rss ← summarize A rss
    return .dict (fields ++ [("process_rss_mib", rss.toDict)])

/-- A run of the monitor: its options and what it reads. -/
structure MonitorRun (τ : Type) where
  label : String
  interval : τ
  processMatch : Option String
  startedAt : String
  completedAt : String
  stat : List Char
  readings : List MonitorReading

/-- The samples of the run. -/
def MonitorRun.samples (A : Arithmetic τ) (run : MonitorRun τ) :
    Except ToolError (List (ResourceSample τ)) :=
  collectSamples A run.interval run.processMatch run.stat run.readings

/-- `main` of the monitor. -/
def monitorMain (A : Arithmetic τ) (run : MonitorRun τ) : Except ToolError (Value τ) :=
  if A.lt run.interval (A.ofRat 0) ∨ A.eqInt 0 run.interval then
    .error (.systemExit "interval must be positive")
  else do
    let samples ← run.samples A
    if samples = [] then .error (.systemExit "monitor stopped before collecting a sample")
    else do
      let summary ← resourceSummary A (.ok (samples.map (·.systemCpuPercent)))
        (.ok (samples.map (·.memoryUsedMib))) (.ok (samples.map (·.memoryUsedPercent)))
        (.ok (samples.filterMap (·.processRssMib)))
      return .dict [("schema_version", .int 1), ("label", .str run.label),
        ("started_at", .str run.startedAt), ("completed_at", .str run.completedAt),
        ("interval_seconds", .float run.interval),
        ("process_match", (run.processMatch.map Value.str).getD .null),
        ("raw_samples", .list (samples.map fun sample => .dict sample.fields)),
        ("summary", summary)]

/-! ## The report -/

/-- `_load` of `resource_report.py`. -/
def loadResourceBlock (P : Interpreter τ) (readText : String → Except ReadError String)
    (path : String) : Except ToolError (Value τ) :=
  match readText path with
  | .error (.osError message) =>
      .error (.valueError s!"cannot load resource block {path}: {message}")
  | .error (.unicodeDecodeError message) => .error (.valueError message)
  | .ok text =>
      match P.loads text with
      | .error (.jsonDecodeError message) =>
          .error (.valueError s!"cannot load resource block {path}: {message}")
      | .error e => .error e.toToolError
      | .ok document => do
          let version ← document.get? "schema_version"
          if ¬ Value.eqOptional P.arithmetic version (some (.int 1)) then
            .error (.valueError s!"invalid resource monitor document: {path}")
          else if ← document.contains "raw_samples" then .ok document
          else .error (.valueError s!"invalid resource monitor document: {path}")

/-- `{**sample, "block": block_number}`. -/
def numberSample (block : ℕ) (sample : Value τ) : Except ToolError (List (String × Value τ)) := do
  let fields ← sample.spread
  return Value.setField fields "block" (.int block)

/-- The body of the loop over the blocks. -/
def readResourceBlock (P : Interpreter τ) (readText : String → Except ReadError String)
    (block : String × ℕ) : Except ToolError (List (List (String × Value τ))) := do
  let document ← loadResourceBlock P readText block.1
  let samples ← document.item "raw_samples"
  (← samples.iterate).mapM (numberSample block.2)

/-- `float(sample[name])`. -/
def sampleNumber (A : Arithmetic τ) (name : String) (sample : Value τ) : Except ToolError τ := do
  let value ← sample.item name
  value.toFloat A

/-- `sample.get("process_rss_mib")`, unless it is `None`. -/
def sampleRss? (fields : List (String × Value τ)) : Option (Value τ) :=
  match fields.lookup "process_rss_mib" with
  | some .null => none
  | value? => value?

/-- `main` of the report. -/
def resourceReport (P : Interpreter τ) (readText : String → Except ReadError String)
    (createdAt label : String) (paths : List String) : Except ToolError (Value τ) := do
  let samples := (← (paths.zipIdx 1).mapM (readResourceBlock P readText)).flatten
  let values := samples.map Value.dict
  let summary ← resourceSummary P.arithmetic
    (values.mapM (sampleNumber P.arithmetic "system_cpu_percent"))
    (values.mapM (sampleNumber P.arithmetic "memory_used_mib"))
    (values.mapM (sampleNumber P.arithmetic "memory_used_percent"))
    ((samples.filterMap sampleRss?).mapM (Value.toFloat P.arithmetic))
  return .dict [("schema_version", .int 1), ("created_at", .str createdAt), ("label", .str label),
    ("source_files", .list (paths.map .str)), ("raw_samples", .list values), ("summary", summary)]

/-! ## The values of the analysis -/

/-- The body of the loop of `resource_values`. -/
def addResourceValue (A : Arithmetic τ) (field : String) (blocks : OrderedDict ℤ (List τ))
    (sample : Value τ) : Except ToolError (OrderedDict ℤ (List τ)) := do
  let block ← (← sample.item "block").toInt A
  let value ← sampleNumber A field sample
  return blocks.insert block ((blocks.get? block).getD [] ++ [value])

/-- The field of a sample that a resource metric is about. -/
def resourceField (key : String) : String :=
  if key = "server_cpu_percent" then "system_cpu_percent" else "memory_used_mib"

/-- `resource_values`. -/
def resourceValues (A : Arithmetic τ) (document : Value τ) (key : String) :
    Except ToolError (List τ) := do
  let samples ← document.item "raw_samples"
  let blocks ← (← samples.iterate).foldlM (addResourceValue A (resourceField key)) .empty
  (blocks.keys.insertionSort (· ≤ ·)).mapM fun block => A.fmean ((blocks.get? block).getD [])

end MatfVpn
