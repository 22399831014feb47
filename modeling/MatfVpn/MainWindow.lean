/-
# The window of the graphical client (`gui.py`)

`MainWindow` shows the profile and the state of its controller, and its buttons call the
controller.  `Application` is the window with the controller in the event loop: the user can
click enabled buttons only, and an exception that leaves a slot aborts the application.  The files
are what they are when an event reads them.

A line of the session log is kept as what it is made of.
-/
import MatfVpn.Gui
import MatfVpn.WindowLog

namespace MatfVpn

/-! ## Texts -/

/-- `STATE_LABELS`. -/
def stateLabel : EndpointState → String
  | .disconnected => "Disconnected"
  | .connecting => "Connecting"
  | .connected => "Connected"
  | .reconnecting => "Reconnecting"
  | .stopping => "Stopping"
  | .error => "Connection error"

/-- The digits in groups of three, from the last one on. -/
def grouped (digits : List Char) : List Char :=
  if digits.length ≤ 3 then digits
  else grouped (digits.take (digits.length - 3)) ++ ',' :: digits.drop (digits.length - 3)
termination_by digits.length
decreasing_by
  rw [List.length_take]
  omega

/-- `f"{value:,}"`. -/
def groupedInt (value : ℤ) : String :=
  if value < 0 then String.ofList ('-' :: grouped (intText (-value)))
  else String.ofList (grouped (intText value))

/-- `_security_label`. -/
def securityLabel (config : LoadedConfig) : String :=
  let rotation :=
    if config.packetsPerKey ≠ 0 then
      " · rotate every " ++ groupedInt config.packetsPerKey ++ " packets"
    else ""
  if config.ephemeralHandshake then "AES-256-GCM · ephemeral X25519" ++ rotation
  else if config.privateKeyFile.isSome then "AES-256-GCM · static X25519" ++ rotation
  else if config.keyFile.isSome then "AES-256-GCM · preshared key" ++ rotation
  else "Unencrypted baseline"

/-- `str(error)`. -/
def PyError.text : PyError → String
  | .valueError message | .invalidPacketError message | .overflowError message
  | .structError message | .osError message | .timeoutError message | .runtimeError message
  | .recursionError message | .systemExit message => message
  | .keyError | .invalidTag | .calledProcessError | .keyboardInterrupt => ""

/-! ## The window -/

/-- An entry of the session log. -/
inductive LogEntry where
  | event (event : JsonObject)
  | error (message : String)

/-- What a `MainWindow` shows; the dot has the state of the label. -/
structure MainWindow where
  profilePath : Option PosixPath
  profileReady : Bool
  profileEdit : String
  tunnelValue : String
  peerValue : String
  securityValue : String
  statusLabel : String
  connectionState : EndpointState
  connectButton : Bool
  connectToolTip : String
  disconnectButton : Bool
  browseButton : Bool
  logView : List LogEntry

namespace MainWindow

variable (self : MainWindow)

/-- `_set_state`. -/
def setState (state : EndpointState) : MainWindow :=
  { self with
    statusLabel := stateLabel state
    connectionState := state
    connectButton := (state = .disconnected ∨ state = .error) ∧ self.profilePath.isSome ∧
      self.profileReady
    disconnectButton := ¬ (state = .disconnected ∨ state = .error)
    browseButton := state = .disconnected ∨ state = .error }

/-- `_append_event`. -/
def appendEvent (event : JsonObject) : MainWindow :=
  { self with logView := self.logView ++ [.event event] }

/-- `_append_error`. -/
def appendError (message : String) : MainWindow :=
  { self with logView := self.logView ++ [.error message] }

/-- `_build_ui` and the end of `__init__`. -/
def new : MainWindow :=
  setState
    { profilePath := none
      profileReady := false
      profileEdit := ""
      tunnelValue := "Not configured"
      peerValue := "Not configured"
      securityValue := "Not configured"
      statusLabel := ""
      connectionState := .disconnected
      connectButton := true
      connectToolTip := ""
      disconnectButton := true
      browseButton := true
      logView := [] } .disconnected

/-- The values of a profile are shown. -/
def display (path : PosixPath) (config : LoadedConfig) : MainWindow :=
  { self with
    profilePath := some path
    profileEdit := String.ofList path.toText
    tunnelValue := config.tunAddress
    peerValue := config.peer.text
    securityValue := securityLabel config }

/-- The keys of the profile can be loaded. -/
def acceptProfile : MainWindow :=
  { self with profileReady := true, connectToolTip := "Connect to the configured VPN peer" }

/-- The keys of the profile cannot be loaded. -/
def previewProfile (message : String) : MainWindow :=
  appendError { self with profileReady := false, connectToolTip := message }
    s!"Profile preview only: {message}"

/-- `set_profile`, for the state of the controller. -/
def setProfile (files : GuiFiles) (state : EndpointState) (path : PosixPath) :
    Except PyError MainWindow :=
  match loadConfig files.documents path with
  | .error e => .error e
  | .ok config =>
      -- a profile is shown even if its keys cannot be loaded
      match validateProfileKeys files.keyFiles config with
      | .ok () => .ok ((self.display path config).acceptProfile.setState state)
      | .error e =>
          if e.isValueError then
            .ok (((self.display path config).previewProfile e.text).setState state)
          else .error e

/-- The slots of `_connect_signals` for the signals of the controller. -/
def receive : GuiEffect → MainWindow
  | .stateChanged state => self.setState state
  | .eventReceived event => self.appendEvent event
  | .errorReceived message => self.appendError message
  | _ => self

end MainWindow

/-! ## The application -/

/-- Why the application does not go on: the event cannot happen, or an exception left a slot. -/
inductive Halt where
  | disabled
  | aborted (e : PyError)
  deriving DecidableEq

/-- What the user and Qt do. The answer of the file dialog is a path, unless it was cancelled. -/
inductive WindowEvent where
  | browseClicked
  | fileChosen (files : GuiFiles) (filename : Option PosixPath)
  | connectClicked (files : GuiFiles)
  | disconnectClicked
  | close
  | process (event : GuiEvent)

/-- The event comes from Qt, for the process or a timer. -/
def GuiEvent.isSignal : GuiEvent → Bool
  | .start _ _ | .stop | .logLine _ => false
  | _ => true

/-- The window and the controller in the event loop.  While the file dialog is open the user
cannot reach the window, and nothing happens after it is closed; `messages` are the message boxes
so far. -/
structure Application where
  desktop : Desktop
  window : MainWindow
  dialog : Bool
  closed : Bool
  messages : List String

namespace Application

variable (env : GuiEnvironment)

/-- `MainWindow()`. -/
def new : Application := ⟨.new, .new, false, false, []⟩

/-- Select a profile, or show why it is not valid. -/
def selectProfile (app : Application) (files : GuiFiles) (path : PosixPath) :
    Except Halt Application :=
  match app.window.setProfile files app.desktop.controller.state path with
  | .ok window => .ok { app with window := window }
  | .error e =>
      if e.isValueError then .ok { app with messages := app.messages ++ [e.text] }
      else .error (.aborted e)

/-- An event of the controller in its loop, with the slots of the window. -/
def control (app : Application) (event : GuiEvent) : Except Halt (Application × List GuiEffect) :=
  match Desktop.step env app.desktop event with
  | none => .error .disabled
  | some (desktop, trace) =>
      match desktop.aborted with
      | some e => .error (.aborted e)
      | none =>
          .ok ({ app with desktop := desktop, window := trace.foldl MainWindow.receive app.window },
            trace)

/-- The `except` of `_connect_endpoint`. -/
def connectError (app : Application) (e : PyError) : Except Halt Application :=
  if e.isOSError ∨ e.isRuntimeError ∨ e.isValueError then
    .ok { app with window := (app.window.appendError e.text).setState .error }
  else .error (.aborted e)

/-- `_connect_endpoint`. -/
def connectEndpoint (app : Application) (files : GuiFiles) :
    Except Halt (Application × List GuiEffect) :=
  match app.window.profilePath with
  | none => .ok (app, [])
  | some path => do
      let (next, trace) ← app.control env (.start files path)
      match (EndpointProcess.start env files path app.desktop.controller).result with
      | .ok _ => return (next, trace)
      | .error e => return (← next.connectError e, trace)

/-- The event can happen while the window is open. -/
def offers (app : Application) : WindowEvent → Bool
  | .browseClicked => app.window.browseButton ∧ ¬ app.dialog
  | .fileChosen _ _ => app.dialog
  | .connectClicked _ => app.window.connectButton ∧ ¬ app.dialog
  | .disconnectClicked => app.window.disconnectButton ∧ ¬ app.dialog
  | .close => ¬ app.dialog
  | .process event => event.isSignal

/-- What the event does. -/
def handle (app : Application) : WindowEvent → Except Halt (Application × List GuiEffect)
  | .browseClicked => .ok ({ app with dialog := true }, [])
  | .fileChosen _ none => .ok ({ app with dialog := false }, [])
  | .fileChosen files (some path) => do
      let next ← { app with dialog := false }.selectProfile files path
      return (next, [])
  | .connectClicked files => app.connectEndpoint env files
  | .disconnectClicked => app.control env .stop
  | .close => do
      let (next, trace) ← app.control env .stop
      return ({ next with closed := true }, trace)
  | .process event => app.control env event

/-- One event, with the effects of the controller. -/
def step (app : Application) (event : WindowEvent) : Except Halt (Application × List GuiEffect) :=
  if app.closed ∨ ¬ app.offers event then .error .disabled else app.handle env event

/-- A run, with its effects. -/
def run (app : Application) : List WindowEvent → Except Halt (Application × List GuiEffect)
  | [] => .ok (app, [])
  | event :: events => do
      let (next, trace) ← app.step env event
      let (last, more) ← run next events
      return (last, trace ++ more)

/-- `main`, up to the event loop, for the option `--profile`. -/
def opened (files : GuiFiles) : Option PosixPath → Except Halt Application
  | none => .ok new
  | some profile => new.selectProfile files profile

/-- `main`, for the option `--profile` and what happens in the event loop. -/
def main (files : GuiFiles) (profile : Option PosixPath) (events : List WindowEvent) :
    Except Halt (Application × List GuiEffect) := do
  let app ← opened files profile
  app.run env events

end Application

end MatfVpn
