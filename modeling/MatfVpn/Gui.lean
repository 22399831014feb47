/-
# The controller of the graphical client (`gui.py`)

`EndpointProcess` runs the endpoint as a process of its own, reads its log and keeps the state
that the window shows.  `Desktop` is the controller in the event loop of Qt: the user starts
and stops the endpoint, the process starts, writes and exits, and the timers of `stop` expire,
in any order.

Qt delivers output only of a running process, and all of it before it reports the exit.  The
process is no longer running when its exit or its failure to start is reported.  An exception
in `start` goes to the window, which catches it.  Everything else is a slot, and the application
ends with an exception that leaves a slot.
-/
import MatfVpn.ConfigFile
import MatfVpn.Endpoint
import MatfVpn.Lib.LineReader
import MatfVpn.Lib.Utf8

namespace MatfVpn

open Program

/-! ## What the controller works with -/

/-- `QProcess.ProcessState`. -/
inductive ProcessState where
  | notRunning
  | starting
  | running
  deriving DecidableEq, Repr

/-- `QProcess.ProcessError`. -/
inductive ProcessError where
  | failedToStart
  | crashed
  | timedout
  | readError
  | writeError
  | unknownError
  deriving DecidableEq, Repr

/-- The values of `EndpointProcess.state`. -/
inductive EndpointState where
  | disconnected
  | connecting
  | connected
  | reconnecting
  | stopping
  | error
  deriving DecidableEq, Repr

/-- The output channels of the process. -/
inductive Channel where
  | standardError
  | standardOutput
  deriving DecidableEq, Repr

/-- The signals of the controller and its calls of Qt.  A line from the output of the process
is noted with its channel when it goes to `consume_log_line`. -/
inductive GuiEffect where
  | stateChanged (state : EndpointState)
  | eventReceived (event : JsonObject)
  | errorReceived (message : String)
  | processStart (program : String) (arguments : List String)
  | processTerminate
  | processKill
  | singleShot (milliseconds : ℕ)
  | logLine (channel : Channel) (line : List Char)

/-- What the controller works with: `json.loads` for a line of the log, `repr` of what it returns,
and the paths of the program. -/
structure GuiEnvironment where
  loads : String → Except LoadError Json
  repr : Json → Except PyError String
  sourceRoot : String
  executable : String

/-- The files as they are when a method reads them. -/
structure GuiFiles where
  documents : Documents
  keyFiles : KeyFiles
  resolve : PosixPath → String

/-- `EndpointProcess`, with the state of its `QProcess`. -/
structure EndpointProcess where
  process : ProcessState
  stderrBuffer : List Char
  stdoutBuffer : List Char
  state : EndpointState
  stopping : Bool

/-- `validate_profile_keys`. -/
def validateProfileKeys (files : KeyFiles) (config : LoadedConfig) : Except PyError Unit := do
  if let some path := config.keyFile then
    let _ ← loadPresharedKey files path
  if let some path := config.privateKeyFile then
    let _ ← loadX25519PrivateKey files path
  if let some path := config.peerPublicKeyFile then
    let _ ← loadX25519PublicKey files path

/-- The profile and its keys, as `start` loads them. -/
def loadProfile (files : GuiFiles) (profile : PosixPath) : Except PyError LoadedConfig := do
  let config ← loadConfig files.documents profile
  validateProfileKeys files.keyFiles config
  return config

/-- `str(value)` of what `json.loads` returned; it can raise if the value nests too deeply. -/
def pyStr (env : GuiEnvironment) : Json → Except PyError String
  | .string text => .ok text
  | value => env.repr value

/-- What `_append_event` of the window does with an event before it shows the texts. -/
def renderEvent (env : GuiEnvironment) (event : JsonObject) : Except PyError Unit := do
  let _ ← pyStr env (event.get "timestamp" (some (.string "")))
  let _ ← pyStr env (event.get "message" (some (event.get "event" (some (.string "event")))))

/-- The programs of the controller. -/
abbrev Controller := Program PyError GuiEffect EndpointProcess

namespace EndpointProcess

/-! ## The methods -/

/-- `__init__`. -/
def new : EndpointProcess := ⟨.notRunning, [], [], .disconnected, false⟩

/-- `_set_state`. -/
def setState (state : EndpointState) : Controller Unit := do
  let self ← read
  if state ≠ self.state then
    update fun self => { self with state := state }
    emit (.stateChanged state)

/-- `self.process.start(program, arguments)`. -/
def processStart (program : String) (arguments : List String) : Controller Unit := do
  update fun self => { self with process := .starting }
  emit (.processStart program arguments)

/-- `start`. -/
def start (env : GuiEnvironment) (files : GuiFiles) (profile : PosixPath) :
    Controller LoadedConfig := do
  let self ← read
  if self.process ≠ .notRunning then
    raise (.runtimeError "VPN endpoint is already running")
  let config ← ofExcept (loadProfile files profile)
  let sourceRoot := env.sourceRoot
  update fun self => { self with stopping := false }
  setState .connecting
  processStart "pkexec" ["/usr/bin/env", s!"PYTHONPATH={sourceRoot}", env.executable, "-m",
    "matf_vpn", "--config", files.resolve profile]
  return config

/-- `stop`. -/
def stop : Controller Unit := do
  let self ← read
  if self.process = .notRunning then return ()
  update fun self => { self with stopping := true }
  setState .stopping
  emit .processTerminate
  -- the call is for the process that runs in three seconds, which may be another one
  emit (.singleShot 3000)

/-- The state that an event of the log stands for. -/
def eventState? : Json → Option EndpointState
  | .string name =>
      if name = "session_established" then some .connected
      else if name = "reconnect_scheduled" then some .reconnecting
      else if name = "endpoint_stopped" then some .disconnected
      else none
  | _ => none

/-- `consume_log_line`. -/
def consumeLogLine (env : GuiEnvironment) (line : List Char) : Controller Unit := do
  let line := pyStrip line
  if line = [] then return ()
  match env.loads (String.ofList line) with
  | .ok (.object event) => do
      match eventState? (JsonObject.get event "event" none) with
      | some state => setState state
      | none => pure ()
      emit (.eventReceived event)
      -- the slot of the window, which is part of the call of `emit`
      ofExcept (renderEvent env event)
  -- what is no JSON object is shown as it is
  | .ok _ | .error (.caught _) => emit (.errorReceived (String.ofList line))
  | .error (.valueError message) => raise (.valueError message)
  | .error (.recursionError message) => raise (.recursionError message)

/-- A line from the output goes to `consume_log_line`. -/
def consumeFrom (env : GuiEnvironment) (channel : Channel) (line : List Char) :
    Controller Unit := do
  emit (.logLine channel line)
  consumeLogLine env line

/-- The loop of `_consume_buffer` over the lines but the last. -/
def consumeLines (env : GuiEnvironment) (channel : Channel) : List (List Char) → Controller Unit
  | [] => return ()
  | line :: lines => do
      consumeFrom env channel line
      consumeLines env channel lines

/-- `_consume_buffer`; it returns the last piece. -/
def consumeBuffer (env : GuiEnvironment) (channel : Channel) (buffer : List Char) :
    Controller (List Char) := do
  consumeLines env channel (LineReader.whole '\n' buffer)
  return LineReader.rest '\n' buffer

/-- `_read_standard_error`, for the bytes that `readAllStandardError` returns. -/
def readStandardError (env : GuiEnvironment) (bytes : Bytes) : Controller Unit := do
  update fun self => { self with stderrBuffer := self.stderrBuffer ++ Utf8.decodeReplace bytes }
  let self ← read
  let buffer ← consumeBuffer env .standardError self.stderrBuffer
  update fun self => { self with stderrBuffer := buffer }

/-- `_read_standard_output`, for the bytes that `readAllStandardOutput` returns. -/
def readStandardOutput (env : GuiEnvironment) (bytes : Bytes) : Controller Unit := do
  update fun self => { self with stdoutBuffer := self.stdoutBuffer ++ Utf8.decodeReplace bytes }
  let self ← read
  let buffer ← consumeBuffer env .standardOutput self.stdoutBuffer
  update fun self => { self with stdoutBuffer := buffer }

/-- `_on_process_error`, for the error and `errorString()`. -/
def onProcessError (error : ProcessError) (errorString : String) : Controller Unit := do
  emit (.errorReceived errorString)
  if error = .failedToStart then setState .error

/-- `_on_finished`. -/
def onFinished (env : GuiEnvironment) (exitCode : ℤ) : Controller Unit := do
  let self ← read
  -- the buffers hold last lines that have no newline
  if self.stderrBuffer ≠ [] then
    consumeFrom env .standardError self.stderrBuffer
    update fun self => { self with stderrBuffer := [] }
  if self.stdoutBuffer ≠ [] then
    consumeFrom env .standardOutput self.stdoutBuffer
    update fun self => { self with stdoutBuffer := [] }
  if self.stopping ∨ exitCode = 0 then setState .disconnected
  else
    setState .error
    emit (.errorReceived s!"Endpoint exited with code {exitCode}")

/-- `_kill_if_running`. -/
def killIfRunning : Controller Unit := do
  let self ← read
  if self.process ≠ .notRunning then emit .processKill

end EndpointProcess

/-! ## The event loop -/

/-- A call of `_kill_if_running` that a `stop` has scheduled: the number of the process that ran
at the time, and whether it is still to come. -/
structure KillTimer where
  target : ℕ
  pending : Bool
  deriving DecidableEq, Repr

/-- A kill: the process that the timer was for, and the one that was killed. -/
structure Kill where
  target : ℕ
  victim : ℕ
  deriving DecidableEq, Repr

/-- The controller in the event loop: the processes launched so far, the last of which is the
one that may run, the timers of the calls of `stop` in order, the kills, and the exception that
left a slot. -/
structure Desktop where
  controller : EndpointProcess
  launches : ℕ
  timers : List KillTimer
  kills : List Kill
  aborted : Option PyError

/-- What happens in the event loop.  A timer has the number of its call of `stop`. -/
inductive GuiEvent where
  | start (files : GuiFiles) (profile : PosixPath)
  | stop
  | logLine (line : List Char)
  | started
  | read (channel : Channel) (bytes : Bytes)
  | processError (error : ProcessError) (errorString : String)
  | finished (exitCode : ℤ)
  | killTimeout (timer : ℕ)

/-- The methods that the event calls; Qt has changed the state of the process before. -/
def GuiEvent.handle (env : GuiEnvironment) : GuiEvent → Controller Unit
  | .start files profile => do
      let _ ← attempt (EndpointProcess.start env files profile)
  | .stop => EndpointProcess.stop
  | .logLine line => EndpointProcess.consumeLogLine env line
  | .started => update fun self => { self with process := .running }
  | .read .standardError bytes => EndpointProcess.readStandardError env bytes
  | .read .standardOutput bytes => EndpointProcess.readStandardOutput env bytes
  | .processError error errorString => do
      if error = .failedToStart then
        update fun self => { self with process := .notRunning }
      EndpointProcess.onProcessError error errorString
  | .finished exitCode => do
      update fun self => { self with process := .notRunning }
      EndpointProcess.onFinished env exitCode
  | .killTimeout _ => EndpointProcess.killIfRunning

namespace Desktop

/-- Before the first event. -/
def new : Desktop := ⟨.new, 0, [], [], none⟩

/-- The event can happen while the application runs. -/
def enabled (desktop : Desktop) : GuiEvent → Bool
  | .started | .processError .failedToStart _ => desktop.controller.process = .starting
  | .read _ _ | .finished _ => desktop.controller.process = .running
  | .killTimeout timer => (desktop.timers[timer]?.map KillTimer.pending).getD false
  | _ => true

/-- The timer has expired. -/
def expire (timers : List KillTimer) : GuiEvent → List KillTimer
  | .killTimeout timer => timers.modify timer fun t => { t with pending := false }
  | _ => timers

/-- The timers that the effects arm. -/
def armed (launches : ℕ) (trace : List GuiEffect) : List KillTimer :=
  trace.filterMap fun
    | .singleShot _ => some ⟨launches, true⟩
    | _ => none

/-- The kills among the effects of the event. -/
def killed (desktop : Desktop) (trace : List GuiEffect) : GuiEvent → List Kill
  | .killTimeout timer => trace.filterMap fun
      | .processKill => desktop.timers[timer]?.map fun t => ⟨t.target, desktop.launches⟩
      | _ => none
  | _ => []

/-- The number of processes that the effects start. -/
def launched (trace : List GuiEffect) : ℕ :=
  trace.countP fun
    | .processStart _ _ => true
    | _ => false

/-- One event, when it can happen, with its effects. -/
def step (env : GuiEnvironment) (desktop : Desktop) (event : GuiEvent) :
    Option (Desktop × List GuiEffect) :=
  if desktop.aborted = none ∧ desktop.enabled event then
    let o := event.handle env desktop.controller
    some (⟨o.state, desktop.launches + launched o.trace,
      expire desktop.timers event ++ armed desktop.launches o.trace,
      desktop.kills ++ desktop.killed o.trace event, raised? o.result⟩, o.trace)
  else none

/-- A run, with its effects. -/
def run (env : GuiEnvironment) (desktop : Desktop) :
    List GuiEvent → Option (Desktop × List GuiEffect)
  | [] => some (desktop, [])
  | event :: events => do
      let (next, trace) ← step env desktop event
      let (last, more) ← run env next events
      return (last, trace ++ more)

end Desktop

end MatfVpn
