/-
# What the controller does with an event

`Handles` says what each event does to the controller and which effects it has; everything
else about runs follows from it.

* `consumeLines_spec` : the lines of a read;
* `handle_spec` : every event.
-/
import MatfVpn.Gui
import MatfVpn.Lib.FirstFailure

namespace MatfVpn

open Program

/-! ## Effects -/

/-- The effect only tells the window something. -/
def GuiEffect.isReport : GuiEffect → Bool
  | .stateChanged _ | .eventReceived _ | .errorReceived _ => true
  | _ => false

/-- The effect starts or kills a process, or schedules a kill. -/
def GuiEffect.isControl : GuiEffect → Bool
  | .processStart _ _ | .processKill | .singleShot _ => true
  | _ => false

/-- The lines of the channel that went to `consume_log_line`. -/
def logLines (channel : Channel) (trace : List GuiEffect) : List (List Char) :=
  trace.filterMap fun
    | .logLine c line => if c = channel then some line else none
    | _ => none

/-- The effects only tell the window something. -/
def Reports (trace : List GuiEffect) : Prop := ∀ e ∈ trace, e.isReport = true

/-- The effects leave the processes and the timers alone. -/
def LeavesProcesses (trace : List GuiEffect) : Prop := ∀ e ∈ trace, e.isControl = false

@[simp] theorem logLines_append (channel : Channel) (s t : List GuiEffect) :
    logLines channel (s ++ t) = logLines channel s ++ logLines channel t :=
  List.filterMap_append

theorem logLines_cons (channel c : Channel) (line : List Char) (t : List GuiEffect) :
    logLines channel (.logLine c line :: t)
      = (if c = channel then [line] else []) ++ logLines channel t := by
  rw [logLines, List.filterMap_cons]
  by_cases h : c = channel
  · simp only [if_pos h]
    rfl
  · simp only [if_neg h]
    rfl

theorem Reports.nil : Reports [] := List.forall_mem_nil _

theorem Reports.append {s t : List GuiEffect} (hs : Reports s) (ht : Reports t) :
    Reports (s ++ t) := List.forall_mem_append.2 ⟨hs, ht⟩

theorem LeavesProcesses.append {s t : List GuiEffect} (hs : LeavesProcesses s)
    (ht : LeavesProcesses t) : LeavesProcesses (s ++ t) := List.forall_mem_append.2 ⟨hs, ht⟩

theorem Reports.leavesProcesses {t : List GuiEffect} (h : Reports t) : LeavesProcesses t := by
  intro e he
  have hreport := h e he
  cases e <;> first | rfl | cases hreport

theorem Reports.logLines_eq_nil {t : List GuiEffect} (h : Reports t) (channel : Channel) :
    logLines channel t = [] := by
  refine List.filterMap_eq_nil_iff.2 fun e he => ?_
  have hreport := h e he
  cases e <;> first | rfl | cases hreport

/-! ## Lines -/

/-- The state that a line of the log stands for. -/
def lineState? (env : GuiEnvironment) (line : List Char) : Option EndpointState :=
  if pyStrip line = [] then none
  else
    match env.loads (String.ofList (pyStrip line)) with
    | .ok (.object event) => EndpointProcess.eventState? (JsonObject.get event "event" none)
    | _ => none

/-- The exception that a line of the log raises. -/
def lineError? (env : GuiEnvironment) (line : List Char) : Option PyError :=
  if pyStrip line = [] then none
  else
    match env.loads (String.ofList (pyStrip line)) with
    | .ok (.object event) => raised? (renderEvent env event)
    | .ok _ | .error (.caught _) => none
    | .error (.valueError message) => some (.valueError message)
    | .error (.recursionError message) => some (.recursionError message)

/-- The state that the last of the lines stands for that stands for one. -/
def lastState? (env : GuiEnvironment) (lines : List (List Char)) : Option EndpointState :=
  (lines.filterMap (lineState? env)).getLast?

/-- The lines that `consume_log_line` gets of these, the last of which may raise. -/
abbrev consumed (env : GuiEnvironment) (lines : List (List Char)) : List (List Char) :=
  FirstFailure.taken (lineError? env) lines

/-- The exception that the lines raise. -/
abbrev linesError? (env : GuiEnvironment) (lines : List (List Char)) : Option PyError :=
  FirstFailure.failure (lineError? env) lines

theorem lastState?_nil (env : GuiEnvironment) : lastState? env [] = none := rfl

theorem lastState?_singleton (env : GuiEnvironment) (line : List Char) :
    lastState? env [line] = lineState? env line := by
  rw [lastState?]
  cases h : lineState? env line with
  | none => rw [List.filterMap_cons_none h, List.filterMap_nil, List.getLast?_nil]
  | some state => rw [List.filterMap_cons_some h, List.filterMap_nil, List.getLast?_singleton]

/-- Lines that follow on others. -/
theorem lastState?_append (env : GuiEnvironment) (lines more : List (List Char)) :
    lastState? env (lines ++ more) = (lastState? env more).or (lastState? env lines) := by
  rw [lastState?, List.filterMap_append, List.getLast?_append]
  rfl

namespace EndpointProcess

variable {self : EndpointProcess} {env : GuiEnvironment}

/-- The controller after a line or several that stand for a state, or none. -/
def told (self : EndpointProcess) (state : Option EndpointState) : EndpointProcess :=
  { self with state := state.getD self.state }

@[simp] theorem told_none (self : EndpointProcess) : self.told none = self := rfl

@[simp] theorem told_process (self : EndpointProcess) (state : Option EndpointState) :
    (self.told state).process = self.process := rfl

@[simp] theorem told_stopping (self : EndpointProcess) (state : Option EndpointState) :
    (self.told state).stopping = self.stopping := rfl

@[simp] theorem told_stderrBuffer (self : EndpointProcess) (state : Option EndpointState) :
    (self.told state).stderrBuffer = self.stderrBuffer := rfl

@[simp] theorem told_stdoutBuffer (self : EndpointProcess) (state : Option EndpointState) :
    (self.told state).stdoutBuffer = self.stdoutBuffer := rfl

/-- A later state replaces an earlier one. -/
theorem told_told (self : EndpointProcess) (state state' : Option EndpointState) :
    (self.told state).told state' = self.told (state'.or state) := by
  cases state' <;> rfl

/-- **`_set_state`.** -/
theorem setState_spec (state : EndpointState) :
    wp (setState state) self fun r self' t =>
      r = .ok () ∧ self' = self.told (some state) ∧ Reports t := by
  unfold setState
  rw [wp_read_bind]
  by_cases h : state ≠ self.state
  · rw [if_pos h, wp_update_bind]
    refine ⟨rfl, rfl, ?_⟩
    exact List.forall_mem_singleton.2 rfl
  · rw [if_neg h]
    refine ⟨rfl, ?_, Reports.nil⟩
    rw [not_not.1 h]
    rfl

/-- An effect that reports, and then an exception or none. -/
theorem emit_ofExcept_spec {e : GuiEffect} (he : e.isReport = true) (x : Except PyError Unit) :
    wp (do emit e; ofExcept x : Controller Unit) self fun r self' t =>
      r = x ∧ self' = self ∧ Reports t := by
  rw [wp_emit_bind, wp_ofExcept]
  exact ⟨rfl, rfl, List.forall_mem_singleton.2 he⟩

/-- **`consume_log_line`.** -/
theorem consumeLogLine_spec (line : List Char) :
    wp (consumeLogLine env line) self fun r self' t =>
      raised? r = lineError? env line ∧ self' = self.told (lineState? env line) ∧ Reports t := by
  unfold consumeLogLine lineState? lineError?
  simp only
  by_cases hempty : pyStrip line = []
  · rw [if_pos hempty, if_pos hempty, if_pos hempty]
    exact ⟨rfl, rfl, Reports.nil⟩
  rw [if_neg hempty, if_neg hempty, if_neg hempty]
  rcases env.loads (String.ofList (pyStrip line)) with error | json
  · cases error with
    | caught message => exact ⟨rfl, rfl, List.forall_mem_singleton.2 rfl⟩
    | valueError message => exact ⟨rfl, rfl, Reports.nil⟩
    | recursionError message => exact ⟨rfl, rfl, Reports.nil⟩
  cases json with
  | object event =>
    simp only
    cases eventState? (JsonObject.get event "event" none) with
    | none =>
      refine wp_mono (emit_ofExcept_spec rfl (renderEvent env event)) ?_
      rintro r self' t ⟨rfl, rfl, ht⟩
      exact ⟨rfl, rfl, ht⟩
    | some state =>
      simp only
      rw [wp_bind]
      refine wp_mono (setState_spec state) ?_
      rintro r self' t ⟨rfl, rfl, ht⟩
      refine wp_mono (emit_ofExcept_spec rfl (renderEvent env event)) ?_
      rintro r self' t' ⟨rfl, rfl, ht'⟩
      exact ⟨rfl, rfl, ht.append ht'⟩
  | _ => exact ⟨rfl, rfl, List.forall_mem_singleton.2 rfl⟩

/-- The effects of lines that go to `consume_log_line`. -/
structure Consumes (channel : Channel) (lines : List (List Char)) (t : List GuiEffect) : Prop where
  leavesProcesses : LeavesProcesses t
  logLines_self : logLines channel t = lines
  logLines_other : ∀ c ≠ channel, logLines c t = []

theorem Consumes.nil (channel : Channel) : Consumes channel [] [] :=
  ⟨List.forall_mem_nil _, rfl, fun _ _ => rfl⟩

theorem Consumes.append {channel : Channel} {lines lines' : List (List Char)}
    {t t' : List GuiEffect} (h : Consumes channel lines t) (h' : Consumes channel lines' t') :
    Consumes channel (lines ++ lines') (t ++ t') := by
  refine ⟨h.leavesProcesses.append h'.leavesProcesses, ?_, fun c hc => ?_⟩
  · rw [logLines_append, h.logLines_self, h'.logLines_self]
  · rw [logLines_append, h.logLines_other c hc, h'.logLines_other c hc, List.append_nil]

/-- **One line** from the output. -/
theorem consumeFrom_spec (channel : Channel) (line : List Char) :
    wp (consumeFrom env channel line) self fun r self' t =>
      raised? r = lineError? env line ∧ self' = self.told (lineState? env line) ∧
        Consumes channel [line] t := by
  unfold consumeFrom
  rw [wp_emit_bind]
  refine wp_mono (consumeLogLine_spec line) ?_
  rintro r self' t ⟨hr, rfl, ht⟩
  refine ⟨hr, rfl, ?_, ?_, fun c hc => ?_⟩
  · exact List.forall_mem_cons.2 ⟨rfl, ht.leavesProcesses⟩
  · rw [logLines_cons, if_pos rfl, ht.logLines_eq_nil, List.append_nil]
  · rw [logLines_cons, if_neg hc.symm, ht.logLines_eq_nil, List.append_nil]

/-- A line and more lines: these are consumed if the first does not raise. -/
theorem linesError?_cons (line : List Char) (lines : List (List Char)) :
    linesError? env (line :: lines) = (lineError? env line).or (linesError? env lines) := by
  rw [linesError?, ← List.singleton_append, FirstFailure.failure_append,
    FirstFailure.failure_singleton]

/-- **The lines of a read**, one after the other, until one raises. -/
theorem consumeLines_spec (channel : Channel) (lines : List (List Char)) :
    wp (consumeLines env channel lines) self fun r self' t =>
      raised? r = linesError? env lines ∧ self' = self.told (lastState? env (consumed env lines)) ∧
        Consumes channel (consumed env lines) t := by
  induction lines generalizing self with
  | nil => exact ⟨rfl, rfl, .nil channel⟩
  | cons line lines ih =>
    unfold consumeLines
    rw [wp_bind, linesError?_cons, consumed, FirstFailure.taken]
    refine wp_mono (consumeFrom_spec channel line) ?_
    rintro r self' t ⟨hr, rfl, ht⟩
    cases r with
    | error e =>
      rw [← hr]
      refine ⟨rfl, ?_, ht⟩
      exact congrArg self.told (lastState?_singleton env line).symm
    | ok _ =>
      rw [← hr]
      refine wp_mono ih ?_
      rintro r self' t' ⟨hr', rfl, ht'⟩
      refine ⟨hr', ?_, ht.append ht'⟩
      rw [told_told, ← lastState?_singleton, ← lastState?_append]
      rfl

/-! ## Reads -/

/-- The text of the channel that has not ended a line yet. -/
def buffer (self : EndpointProcess) : Channel → List Char
  | .standardError => self.stderrBuffer
  | .standardOutput => self.stdoutBuffer

/-- The controller with another such text. -/
def withBuffer (self : EndpointProcess) (text : List Char) : Channel → EndpointProcess
  | .standardError => { self with stderrBuffer := text }
  | .standardOutput => { self with stdoutBuffer := text }

/-- The text of the channel after a read. -/
def received (self : EndpointProcess) (channel : Channel) (bytes : Bytes) : List Char :=
  self.buffer channel ++ Utf8.decodeReplace bytes

/-- The lines that a read completes. -/
def completed (self : EndpointProcess) (channel : Channel) (bytes : Bytes) : List (List Char) :=
  LineReader.whole '\n' (self.received channel bytes)

/-- The controller after a read.  The buffer is not cut off when a line raises. -/
def afterRead (env : GuiEnvironment) (self : EndpointProcess) (channel : Channel)
    (bytes : Bytes) : EndpointProcess :=
  (self.told (lastState? env (consumed env (self.completed channel bytes)))).withBuffer
    (if (linesError? env (self.completed channel bytes)).isSome then self.received channel bytes
      else LineReader.rest '\n' (self.received channel bytes)) channel

/-- **`_consume_buffer`**, with the change of the buffer by its caller. -/
theorem consumeBuffer_spec (channel : Channel) (text : List Char) :
    wp (do
        let rest ← consumeBuffer env channel text
        update fun self => self.withBuffer rest channel : Controller Unit) self fun r self' t =>
      raised? r = linesError? env (LineReader.whole '\n' text) ∧
        self' = (if (linesError? env (LineReader.whole '\n' text)).isSome then
            self.told (lastState? env (consumed env (LineReader.whole '\n' text)))
          else (self.told (lastState? env (consumed env (LineReader.whole '\n' text)))).withBuffer
            (LineReader.rest '\n' text) channel) ∧
        Consumes channel (consumed env (LineReader.whole '\n' text)) t := by
  unfold consumeBuffer
  rw [wp_bind, wp_bind]
  refine wp_mono (consumeLines_spec channel _) ?_
  rintro r self' t ⟨hr, rfl, ht⟩
  rw [← hr]
  cases r with
  | error e => exact ⟨rfl, rfl, ht⟩
  | ok _ =>
    simp only
    rw [wp_pure]
    simp only
    rw [wp_update, List.append_nil, List.append_nil]
    exact ⟨rfl, rfl, ht⟩

/-- **A read.** -/
theorem read_spec (channel : Channel) (bytes : Bytes) :
    wp ((GuiEvent.read channel bytes).handle env) self fun r self' t =>
      raised? r = linesError? env (self.completed channel bytes) ∧
        self' = self.afterRead env channel bytes ∧
        Consumes channel (consumed env (self.completed channel bytes)) t := by
  have hread : wp (do
        update fun self => self.withBuffer (self.received channel bytes) channel
        let self ← read
        let rest ← consumeBuffer env channel (self.buffer channel)
        update fun self => self.withBuffer rest channel : Controller Unit) self fun r self' t =>
      raised? r = linesError? env (self.completed channel bytes) ∧
        self' = self.afterRead env channel bytes ∧
        Consumes channel (consumed env (self.completed channel bytes)) t := by
    rw [wp_update_bind, wp_read_bind]
    have htext : (self.withBuffer (self.received channel bytes) channel).buffer channel
        = self.received channel bytes := by
      cases channel <;> rfl
    rw [htext]
    refine wp_mono (consumeBuffer_spec channel _) ?_
    rintro r self' t ⟨hr, rfl, ht⟩
    refine ⟨hr, ?_, ht⟩
    rw [afterRead, completed]
    split <;> cases channel <;> rfl
  cases channel <;> exact hread

/-! ## The exit of the process -/

/-- The lines that the buffer of a channel holds when the process has exited. -/
def leftOver (self : EndpointProcess) (channel : Channel) : List (List Char) :=
  if self.buffer channel = [] then [] else [self.buffer channel]

/-- The lines of both buffers, in the order in which they are consumed. -/
def leftOvers (self : EndpointProcess) : List (List Char) :=
  self.leftOver .standardError ++ self.leftOver .standardOutput

/-- The state in which the exit of the process leaves the controller. -/
def finalState (self : EndpointProcess) (exitCode : ℤ) : EndpointState :=
  if self.stopping ∨ exitCode = 0 then .disconnected else .error

/-- The end of `_on_finished`. -/
theorem setFinalState_spec (exitCode : ℤ) :
    wp (if self.stopping ∨ exitCode = 0 then setState .disconnected
      else do
        setState .error
        emit (.errorReceived s!"Endpoint exited with code {exitCode}") : Controller Unit) self
      fun r self' t => r = .ok () ∧ self' = self.told (some (self.finalState exitCode)) ∧
        Reports t := by
  unfold finalState
  by_cases h : self.stopping ∨ exitCode = 0
  · rw [if_pos h, if_pos h]
    exact setState_spec _
  · rw [if_neg h, if_neg h, wp_bind]
    refine wp_mono (setState_spec _) ?_
    rintro r self' t ⟨rfl, rfl, ht⟩
    exact ⟨rfl, rfl, ht.append (List.forall_mem_singleton.2 rfl)⟩

/-- The buffer of a channel goes to `consume_log_line`, unless it is empty.  The rest of the
method is left out if it raises. -/
theorem flush_spec (channel : Channel) (m : Controller Unit)
    {Q : Except PyError Unit → EndpointProcess → List GuiEffect → Prop}
    (hraised : ∀ e t, linesError? env (self.leftOver channel) = some e →
      Consumes channel (self.leftOver channel) t →
      Q (.error e) (self.told (lastState? env (self.leftOver channel))) t)
    (hflushed : ∀ t, linesError? env (self.leftOver channel) = none →
      Consumes channel (self.leftOver channel) t →
      wp m ((self.told (lastState? env (self.leftOver channel))).withBuffer [] channel)
        fun r self' t' => Q r self' (t ++ t')) :
    wp (if self.buffer channel ≠ [] then do
        consumeFrom env channel (self.buffer channel)
        update fun self => self.withBuffer [] channel
        m
      else m) self Q := by
  by_cases hempty : self.buffer channel = []
  · rw [if_neg (not_not.2 hempty)]
    have hself : self.withBuffer [] channel = self := by
      rw [← hempty]
      cases channel <;> rfl
    rw [leftOver, if_pos hempty] at hflushed
    have hnone := hflushed [] rfl (.nil channel)
    rwa [lastState?_nil, told_none, hself] at hnone
  · rw [if_pos hempty, wp_bind]
    rw [leftOver, if_neg hempty, lastState?_singleton, linesError?,
      FirstFailure.failure_singleton] at hraised hflushed
    refine wp_mono (consumeFrom_spec channel _) ?_
    rintro r self' t ⟨hr, rfl, ht⟩
    cases r with
    | error e => exact hraised e t hr.symm ht
    | ok _ =>
      simp only
      rw [wp_update_bind]
      exact hflushed t hr.symm ht

end EndpointProcess

/-- The controller after the exit of the process: what waited has been consumed and the state is
final, or a line of it has raised. -/
structure Exits (env : GuiEnvironment) (c : EndpointProcess) (exitCode : ℤ)
    (c' : EndpointProcess) (aborted : Option PyError) : Prop where
  aborted_eq : aborted = linesError? env c.leftOvers
  process : c'.process = .notRunning
  stopping : c'.stopping = c.stopping
  buffers : aborted = none → c'.stderrBuffer = [] ∧ c'.stdoutBuffer = []
  state : c'.state = if aborted.isSome then
      (c.told (lastState? env (consumed env c.leftOvers))).state else c.finalState exitCode

namespace EndpointProcess

variable {self : EndpointProcess} {env : GuiEnvironment}

/-- The exception of what waited. -/
theorem linesError?_leftOvers : linesError? env self.leftOvers
    = (linesError? env (self.leftOver .standardError)).or
      (linesError? env (self.leftOver .standardOutput)) := FirstFailure.failure_append

theorem taken_leftOver (channel : Channel) :
    FirstFailure.taken (lineError? env) (self.leftOver channel) = self.leftOver channel := by
  rw [leftOver]
  split
  · rfl
  · exact FirstFailure.taken_singleton

/-- A line that waited is consumed, unless one before it has raised. -/
theorem consumed_leftOvers : consumed env self.leftOvers = self.leftOver .standardError ++
    if (linesError? env (self.leftOver .standardError)).isSome then []
    else self.leftOver .standardOutput := by
  rw [consumed, leftOvers, FirstFailure.taken_append, taken_leftOver, taken_leftOver]

/-- **`_on_finished`**, when Qt has told that the process is gone. -/
theorem onFinished_spec (exitCode : ℤ) (hgone : self.process = .notRunning) :
    wp (onFinished env exitCode) self fun r self' t =>
      Exits env self exitCode self' (raised? r) ∧ LeavesProcesses t ∧
        ∀ channel, logLines channel t =
          if channel = .standardOutput ∧
              (linesError? env (self.leftOver .standardError)).isSome then []
          else self.leftOver channel := by
  unfold onFinished
  rw [wp_read_bind]
  refine flush_spec .standardError _ (fun e t he ht => ?_) fun t hnone ht => ?_
  · refine ⟨⟨?_, hgone, rfl, nofun, ?_⟩, ht.leavesProcesses, fun channel => ?_⟩
    · rw [linesError?_leftOvers, he]
      rfl
    · rw [consumed_leftOvers, he]
      exact congrArg (fun lines => (self.told (lastState? env lines)).state)
        (List.append_nil _).symm
    · rw [he]
      cases channel with
      | standardError => exact ht.logLines_self
      | standardOutput => exact ht.logLines_other _ (by decide)
  have hlines : ∀ {t' : List GuiEffect} (channel : Channel),
      Consumes .standardOutput (self.leftOver .standardOutput) t' →
      logLines channel (t ++ t') = if channel = .standardOutput ∧
        (linesError? env (self.leftOver .standardError)).isSome then []
          else self.leftOver channel := by
    intro t' channel ht'
    rw [hnone, if_neg fun h => Bool.false_ne_true h.2, logLines_append]
    cases channel with
    | standardError =>
      rw [ht.logLines_self, ht'.logLines_other _ (by decide), List.append_nil]
    | standardOutput =>
      rw [ht.logLines_other _ (by decide), ht'.logLines_self]
      rfl
  refine @flush_spec ((self.told _).withBuffer [] .standardError) env .standardOutput _ _
    (fun e t' he ht' => ?_) fun t' hnone' ht' => ?_
  · refine ⟨⟨?_, hgone, rfl, nofun, ?_⟩,
      ht.leavesProcesses.append ht'.leavesProcesses, fun channel => hlines channel ht'⟩
    · rw [linesError?_leftOvers, hnone]
      exact he.symm
    · rw [consumed_leftOvers, hnone, lastState?_append]
      have htold := congrArg state (told_told self (lastState? env (self.leftOver .standardError))
        (lastState? env (self.leftOver .standardOutput)))
      exact htold
  · refine wp_mono (@setFinalState_spec ((((self.told _).withBuffer [] .standardError).told
      _).withBuffer [] .standardOutput) exitCode) ?_
    rintro r self' t'' ⟨rfl, rfl, ht''⟩
    refine ⟨⟨?_, hgone, rfl, fun _ => ⟨rfl, rfl⟩, rfl⟩,
      ht.leavesProcesses.append (ht'.leavesProcesses.append ht''.leavesProcesses),
      fun channel => ?_⟩
    · rw [linesError?_leftOvers, hnone]
      exact hnone'.symm
    · rw [← List.append_assoc, logLines_append, ht''.logLines_eq_nil, List.append_nil]
      exact hlines channel ht'

/-! ## Every event -/

variable {files : GuiFiles} {profile : PosixPath}

/-- `start` when a process runs or the profile does not load. -/
theorem start_refused
    (h : self.process ≠ .notRunning ∨ ∃ e, loadProfile files profile = .error e) :
    wp ((GuiEvent.start files profile).handle env) self fun r self' t =>
      r = .ok () ∧ self' = self ∧ t = [] := by
  show wp (attempt (start env files profile) >>= fun _ => pure ()) self _
  rw [wp_bind, wp_attempt]
  unfold start
  rw [wp_read_bind]
  by_cases hprocess : self.process ≠ .notRunning
  · rw [if_pos hprocess, wp_raise_bind]
    exact ⟨rfl, rfl, rfl⟩
  · obtain ⟨e, he⟩ := h.resolve_left hprocess
    rw [if_neg hprocess, he]
    exact ⟨rfl, rfl, rfl⟩

/-- The controller after a start. -/
def launched (self : EndpointProcess) : EndpointProcess :=
  { self with process := .starting, state := .connecting, stopping := false }

/-- `start` when no process runs and the profile loads. -/
theorem start_launches {config : LoadedConfig} (hprocess : self.process = .notRunning)
    (hload : loadProfile files profile = .ok config) :
    wp ((GuiEvent.start files profile).handle env) self fun r self' t =>
      r = .ok () ∧ self' = self.launched ∧
        ∃ reports arguments, Reports reports ∧
          t = reports ++ [.processStart "pkexec" arguments] := by
  show wp (attempt (start env files profile) >>= fun _ => pure ()) self _
  rw [wp_bind, wp_attempt]
  unfold start
  rw [wp_read_bind, if_neg (not_not.2 hprocess), hload, ofExcept_ok]
  rw [wp_pure_bind, wp_update_bind, wp_bind]
  refine wp_mono (setState_spec _) ?_
  rintro r self' t ⟨rfl, rfl, ht⟩
  exact ⟨rfl, rfl, t, _, ht, List.append_nil _⟩

/-- The controller after a stop. -/
def stopped (self : EndpointProcess) : EndpointProcess :=
  { self with state := .stopping, stopping := true }

/-- `stop` when a process runs. -/
theorem stop_spec (h : self.process ≠ .notRunning) :
    wp stop self fun r self' t => r = .ok () ∧ self' = self.stopped ∧
      ∃ reports, Reports reports ∧ t = reports ++ [.processTerminate, .singleShot 3000] := by
  unfold stop
  rw [wp_read_bind, if_neg h, wp_update_bind, wp_bind]
  refine wp_mono (setState_spec _) ?_
  rintro r self' t ⟨rfl, rfl, ht⟩
  exact ⟨rfl, rfl, t, ht, rfl⟩

end EndpointProcess

/-- **What an event does** to the controller, its effects, and the exception that ends the
application. -/
inductive Handles (env : GuiEnvironment) (c : EndpointProcess) :
    GuiEvent → EndpointProcess → List GuiEffect → Option PyError → Prop
  | refused (files : GuiFiles) (profile : PosixPath) :
      c.process ≠ .notRunning ∨ (∃ e, loadProfile files profile = .error e) →
      Handles env c (.start files profile) c [] none
  | launched (files : GuiFiles) (profile : PosixPath) (config : LoadedConfig)
      (reports : List GuiEffect) (arguments : List String) :
      c.process = .notRunning → loadProfile files profile = .ok config → Reports reports →
      Handles env c (.start files profile) c.launched
        (reports ++ [.processStart "pkexec" arguments]) none
  | notStopped : c.process = .notRunning → Handles env c .stop c [] none
  | stopped (reports : List GuiEffect) :
      c.process ≠ .notRunning → Reports reports →
      Handles env c .stop c.stopped (reports ++ [.processTerminate, .singleShot 3000]) none
  | logLine (line : List Char) (t : List GuiEffect) :
      Reports t →
      Handles env c (.logLine line) (c.told (lineState? env line)) t (lineError? env line)
  | started : Handles env c .started { c with process := .running } [] none
  | read (channel : Channel) (bytes : Bytes) (t : List GuiEffect) :
      EndpointProcess.Consumes channel (consumed env (c.completed channel bytes)) t →
      Handles env c (.read channel bytes) (c.afterRead env channel bytes) t
        (linesError? env (c.completed channel bytes))
  | failedToStart (errorString : String) (t : List GuiEffect) :
      Reports t →
      Handles env c (.processError .failedToStart errorString)
        { c with process := .notRunning, state := .error } t none
  | processError (error : ProcessError) (errorString : String) :
      error ≠ .failedToStart →
      Handles env c (.processError error errorString) c [.errorReceived errorString] none
  | finished (exitCode : ℤ) (c' : EndpointProcess) (t : List GuiEffect)
      (aborted : Option PyError) :
      Exits env c exitCode c' aborted → LeavesProcesses t →
      (∀ channel, logLines channel t = if channel = .standardOutput ∧
          (linesError? env (c.leftOver .standardError)).isSome then [] else c.leftOver channel) →
      Handles env c (.finished exitCode) c' t aborted
  | killed (timer : ℕ) : c.process ≠ .notRunning →
      Handles env c (.killTimeout timer) c [.processKill] none
  | notKilled (timer : ℕ) : c.process = .notRunning →
      Handles env c (.killTimeout timer) c [] none

/-- **Every event** does what `Handles` says. -/
theorem handle_spec (env : GuiEnvironment) (c : EndpointProcess) (event : GuiEvent) :
    wp (event.handle env) c fun r c' t => Handles env c event c' t (raised? r) := by
  cases event with
  | start files profile =>
    by_cases hrefused : c.process ≠ .notRunning ∨ ∃ e, loadProfile files profile = .error e
    · refine wp_mono (EndpointProcess.start_refused hrefused) ?_
      rintro r c' t ⟨rfl, rfl, rfl⟩
      exact .refused files profile hrefused
    · rw [not_or, not_not] at hrefused
      obtain ⟨hprocess, hload⟩ := hrefused
      cases hconfig : loadProfile files profile with
      | error e => exact absurd ⟨e, hconfig⟩ hload
      | ok config =>
        refine wp_mono (EndpointProcess.start_launches hprocess hconfig) ?_
        rintro r c' t ⟨rfl, rfl, reports, arguments, ht, rfl⟩
        exact .launched files profile config reports arguments hprocess hconfig ht
  | stop =>
    by_cases h : c.process = .notRunning
    · show wp EndpointProcess.stop c _
      unfold EndpointProcess.stop
      rw [wp_read_bind, if_pos h]
      exact .notStopped h
    · refine wp_mono (EndpointProcess.stop_spec h) ?_
      rintro r c' t ⟨rfl, rfl, reports, ht, rfl⟩
      exact .stopped reports h ht
  | logLine line =>
    refine wp_mono (EndpointProcess.consumeLogLine_spec line) ?_
    rintro r c' t ⟨hr, rfl, ht⟩
    rw [hr]
    exact .logLine line t ht
  | started => exact .started
  | read channel bytes =>
    refine wp_mono (EndpointProcess.read_spec channel bytes) ?_
    rintro r c' t ⟨hr, rfl, ht⟩
    rw [hr]
    exact .read channel bytes t ht
  | processError error errorString =>
    show wp (do
      if error = .failedToStart then
        update fun self => { self with process := .notRunning }
      EndpointProcess.onProcessError error errorString : Controller Unit) c _
    unfold EndpointProcess.onProcessError
    -- Qt sends no `finished` for a process that did not start, so the state changes here
    by_cases h : error = .failedToStart
    · subst h
      rw [if_pos rfl, if_pos rfl, wp_update_bind, wp_emit_bind]
      refine wp_mono (EndpointProcess.setState_spec _) ?_
      rintro r c' t ⟨rfl, rfl, ht⟩
      exact .failedToStart errorString _ (List.forall_mem_cons.2 ⟨rfl, ht⟩)
    · rw [if_neg h, if_neg h]
      exact .processError error errorString h
  | finished exitCode =>
    show wp (update _ >>= _) c _
    rw [wp_update_bind]
    refine wp_mono (EndpointProcess.onFinished_spec exitCode rfl) ?_
    rintro r c' t ⟨hexits, ht, hlines⟩
    exact .finished exitCode c' t _ ⟨hexits.1, hexits.2, hexits.3, hexits.4, hexits.5⟩ ht hlines
  | killTimeout timer =>
    show wp EndpointProcess.killIfRunning c _
    unfold EndpointProcess.killIfRunning
    rw [wp_read_bind]
    by_cases h : c.process = .notRunning
    · rw [if_neg (not_not.2 h)]
      exact .notKilled timer h
    · rw [if_pos h]
      exact .killed timer h

/-! ## Runs -/

namespace Desktop

variable {env : GuiEnvironment} {desktop last : Desktop} {t : List GuiEffect}

/-- A step is an event that can happen, with what it does. -/
theorem step_eq_some {event : GuiEvent} (h : step env desktop event = some (last, t)) :
    desktop.enabled event = true ∧
      Handles env desktop.controller event last.controller t last.aborted ∧
      last.launches = desktop.launches + launched t ∧
      last.timers = expire desktop.timers event ++ armed desktop.launches t ∧
      last.kills = desktop.kills ++ desktop.killed t event := by
  rw [step] at h
  split at h
  · rename_i henabled
    obtain ⟨rfl, rfl⟩ := Prod.mk.inj (Option.some.inj h)
    exact ⟨henabled.2, handle_spec env desktop.controller event, rfl, rfl, rfl⟩
  · cases h

/-- A step is one of an application that runs. -/
theorem not_aborted_of_step {event : GuiEvent} (h : step env desktop event = some (last, t)) :
    desktop.aborted = none := by
  rw [step] at h
  split at h
  · rename_i henabled
    exact henabled.1
  · cases h

/-- A run starts with a step. -/
theorem run_cons {event : GuiEvent} {events : List GuiEvent} :
    run env desktop (event :: events) = some (last, t) ↔
      ∃ next u v, step env desktop event = some (next, u) ∧
        run env next events = some (last, v) ∧ t = u ++ v := by
  rw [run]
  constructor
  · intro h
    obtain ⟨⟨next, u⟩, hstep, h⟩ := Option.bind_eq_some_iff.1 h
    obtain ⟨⟨last', v⟩, hrun, h⟩ := Option.bind_eq_some_iff.1 h
    obtain ⟨rfl, rfl⟩ := Prod.mk.inj (Option.some.inj h)
    exact ⟨next, u, v, hstep, hrun, rfl⟩
  · rintro ⟨next, u, v, hstep, hrun, rfl⟩
    exact Option.bind_eq_some_iff.2 ⟨(next, u), hstep,
      Option.bind_eq_some_iff.2 ⟨(last, v), hrun, rfl⟩⟩

/-- **A run goes on** where another one ended. -/
theorem run_append {events more : List GuiEvent} :
    run env desktop (events ++ more) = some (last, t) ↔
      ∃ next u v, run env desktop events = some (next, u) ∧
        run env next more = some (last, v) ∧ t = u ++ v := by
  induction events generalizing desktop t with
  | nil =>
    rw [List.nil_append]
    constructor
    · exact fun h => ⟨desktop, [], t, rfl, h, rfl⟩
    · rintro ⟨next, u, v, hnil, hmore, rfl⟩
      obtain ⟨rfl, rfl⟩ := Prod.mk.inj (Option.some.inj hnil)
      exact hmore
  | cons event events ih =>
    rw [List.cons_append, run_cons]
    constructor
    · rintro ⟨next, u, v, hstep, hrun, rfl⟩
      obtain ⟨middle, v, w, hevents, hmore, rfl⟩ := ih.1 hrun
      exact ⟨middle, u ++ v, w, run_cons.2 ⟨next, u, v, hstep, hevents, rfl⟩, hmore,
        (List.append_assoc u v w).symm⟩
    · rintro ⟨middle, u', w, hrun, hmore, rfl⟩
      obtain ⟨next, u, v, hstep, hevents, rfl⟩ := run_cons.1 hrun
      exact ⟨next, u, v ++ w, hstep, ih.2 ⟨middle, v, w, hevents, hmore, rfl⟩,
        List.append_assoc u v w⟩

/-- **One more event.** -/
theorem run_concat {events : List GuiEvent} {event : GuiEvent} :
    run env desktop (events ++ [event]) = some (last, t) ↔
      ∃ next u v, run env desktop events = some (next, u) ∧
        step env next event = some (last, v) ∧ t = u ++ v := by
  rw [run_append]
  constructor
  · rintro ⟨next, u, v, hrun, hlast, rfl⟩
    obtain ⟨last', v, w, hstep, hnil, rfl⟩ := run_cons.1 hlast
    obtain ⟨rfl, rfl⟩ := Prod.mk.inj (Option.some.inj hnil)
    exact ⟨next, u, v, hrun, hstep, by rw [List.append_nil]⟩
  · rintro ⟨next, u, v, hrun, hstep, rfl⟩
    exact ⟨next, u, v, hrun, run_cons.2 ⟨last, v, [], hstep, rfl, by rw [List.append_nil]⟩, rfl⟩

end Desktop

end MatfVpn
