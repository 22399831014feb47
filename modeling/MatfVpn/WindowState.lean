/-
# Runs of the window

* `handle_announces` : the controller announces every change of its state;
* `Application.window_of_main` : what the window shows, in every run;
* `Application.buttons_follow_process` : the buttons, in runs that no line disturbs;
* `Application.aborts_iff` : when an exception leaves a slot.
-/
import MatfVpn.ConfigErrors
import MatfVpn.GuiState
import MatfVpn.MainWindow

namespace MatfVpn

open Program

/-! ## Announcements -/

/-- The states that the effects announce. -/
def announced (t : List GuiEffect) : List EndpointState :=
  t.filterMap fun
    | .stateChanged state => some state
    | _ => none

/-- The state is the last one that was announced, or `start`. -/
def Announces (start : EndpointState) (c : EndpointProcess) (t : List GuiEffect) : Prop :=
  c.state = (announced t).getLast?.getD start

section announces

variable {start : EndpointState} {env : GuiEnvironment}

/-- The state stays the last one that was announced, however the program ends. -/
abbrev KeepsAnnounced {α : Type} (start : EndpointState) (m : Controller α) : Prop :=
  Preserves (Announces start) (Announces start) m

theorem announced_concat (t : List GuiEffect) (e : GuiEffect) :
    announced (t ++ [e]) = announced t ++ announced [e] := List.filterMap_append

/-- An effect that announces nothing. -/
theorem keepsAnnounced_emit {e : GuiEffect} (he : announced [e] = []) :
    KeepsAnnounced start (emit e) := by
  refine Preserves.emit fun c t h => ?_
  rw [Announces, announced_concat, he, List.append_nil]
  exact h

theorem keepsAnnounced_update {f : EndpointProcess → EndpointProcess}
    (hf : ∀ c, (f c).state = c.state) : KeepsAnnounced start (update f) :=
  Preserves.update fun c _ h => (hf c).trans h

/-- **`_set_state`** announces the new state. -/
theorem keepsAnnounced_setState (state : EndpointState) :
    KeepsAnnounced start (EndpointProcess.setState state) := by
  apply preserves_self_iff.2
  intro c t h
  unfold EndpointProcess.setState
  rw [wp_read_bind]
  by_cases hstate : state ≠ c.state
  · rw [if_pos hstate, wp_update_bind, wp_emit, Announces, announced_concat]
    show state = ((announced t ++ [state]).getLast?).getD start
    rw [List.getLast?_concat]
    rfl
  · rw [if_neg hstate, wp_pure, List.append_nil]
    exact h

theorem keepsAnnounced_consumeLogLine (line : List Char) :
    KeepsAnnounced start (EndpointProcess.consumeLogLine env line) := by
  have hraise : ∀ e, KeepsAnnounced start (raise e : Controller Unit) :=
    Preserves.raise fun _ _ h => h
  have htell : ∀ event, KeepsAnnounced start (do
      emit (.eventReceived event)
      ofExcept (renderEvent env event) : Controller Unit) := fun event =>
    (keepsAnnounced_emit rfl).bind fun _ => Preserves.ofExcept (fun _ _ h => h) _
  unfold EndpointProcess.consumeLogLine
  refine Preserves.ite _ (Preserves.pure _) ?_
  split
  · dsimp only
    split
    · exact (keepsAnnounced_setState _).bind fun _ => htell _
    · exact htell _
  · exact keepsAnnounced_emit rfl
  · exact keepsAnnounced_emit rfl
  · exact hraise _
  · exact hraise _

theorem keepsAnnounced_consumeFrom (channel : Channel) (line : List Char) :
    KeepsAnnounced start (EndpointProcess.consumeFrom env channel line) :=
  (keepsAnnounced_emit rfl).bind fun _ => keepsAnnounced_consumeLogLine line

theorem keepsAnnounced_consumeLines (channel : Channel) (lines : List (List Char)) :
    KeepsAnnounced start (EndpointProcess.consumeLines env channel lines) := by
  induction lines with
  | nil => exact Preserves.pure _
  | cons line lines ih => exact (keepsAnnounced_consumeFrom channel line).bind fun _ => ih

theorem keepsAnnounced_read (channel : Channel) (bytes : Bytes) :
    KeepsAnnounced start ((GuiEvent.read channel bytes).handle env) := by
  have hbuffer : ∀ text, KeepsAnnounced start (EndpointProcess.consumeBuffer env channel text) :=
    fun text => (keepsAnnounced_consumeLines channel _).bind fun _ => Preserves.pure _
  cases channel with
  | standardError =>
    show KeepsAnnounced start (EndpointProcess.readStandardError env bytes)
    unfold EndpointProcess.readStandardError
    refine (keepsAnnounced_update fun _ => by rfl).bind fun _ => Preserves.read.bind fun c => ?_
    exact (hbuffer _).bind fun _ => keepsAnnounced_update fun _ => by rfl
  | standardOutput =>
    show KeepsAnnounced start (EndpointProcess.readStandardOutput env bytes)
    unfold EndpointProcess.readStandardOutput
    refine (keepsAnnounced_update fun _ => by rfl).bind fun _ => Preserves.read.bind fun c => ?_
    exact (hbuffer _).bind fun _ => keepsAnnounced_update fun _ => by rfl

theorem keepsAnnounced_start (files : GuiFiles) (profile : PosixPath) :
    KeepsAnnounced start (EndpointProcess.start env files profile) := by
  unfold EndpointProcess.start
  refine Preserves.read.bind fun c => Preserves.ite _ (Preserves.raise_bind (fun _ _ h => h) _ _) ?_
  refine (Preserves.ofExcept (fun _ _ h => h) _).bind fun config => ?_
  refine (keepsAnnounced_update fun _ => by rfl).bind fun _ => ?_
  refine (keepsAnnounced_setState _).bind fun _ => Preserves.bind ?_ fun _ => Preserves.pure _
  unfold EndpointProcess.processStart
  exact (keepsAnnounced_update fun _ => by rfl).bind fun _ => keepsAnnounced_emit (by rfl)

theorem keepsAnnounced_stop : KeepsAnnounced start EndpointProcess.stop := by
  unfold EndpointProcess.stop
  refine Preserves.read.bind fun c => Preserves.ite _ (Preserves.pure _) ?_
  refine (keepsAnnounced_update fun _ => by rfl).bind fun _ => ?_
  refine (keepsAnnounced_setState _).bind fun _ => ?_
  exact (keepsAnnounced_emit rfl).bind fun _ => keepsAnnounced_emit rfl

theorem keepsAnnounced_onFinished (exitCode : ℤ) :
    KeepsAnnounced start (EndpointProcess.onFinished env exitCode) := by
  unfold EndpointProcess.onFinished
  refine Preserves.read.bind fun c => ?_
  have hend : KeepsAnnounced start
      (if c.stopping ∨ exitCode = 0 then EndpointProcess.setState .disconnected
        else do
          EndpointProcess.setState .error
          emit (.errorReceived s!"Endpoint exited with code {exitCode}")) :=
    Preserves.ite _ (keepsAnnounced_setState _)
      ((keepsAnnounced_setState _).bind fun _ => keepsAnnounced_emit rfl)
  have hflush : ∀ (channel : Channel) (buffer : List Char) (f : EndpointProcess → EndpointProcess)
      (m : Controller Unit), (∀ c, (f c).state = c.state) → KeepsAnnounced start m →
      KeepsAnnounced start (if buffer ≠ [] then do
          EndpointProcess.consumeFrom env channel buffer
          update f
          m
        else m) := fun channel buffer f m hf hm =>
    Preserves.ite _ ((keepsAnnounced_consumeFrom channel buffer).bind fun _ =>
      (keepsAnnounced_update hf).bind fun _ => hm) hm
  exact hflush _ _ _ _ (fun _ => by rfl) (hflush _ _ _ _ (fun _ => by rfl) hend)

/-- **Every event**: the controller announces its changes. -/
theorem handle_announces (event : GuiEvent) : KeepsAnnounced start (event.handle env) := by
  cases event with
  | start files profile =>
    exact (keepsAnnounced_start files profile).attempt.bind fun _ => Preserves.pure _
  | stop => exact keepsAnnounced_stop
  | logLine line => exact keepsAnnounced_consumeLogLine line
  | started => exact keepsAnnounced_update fun _ => by rfl
  | read channel bytes => exact keepsAnnounced_read channel bytes
  | processError error errorString =>
    have hreport : KeepsAnnounced start (EndpointProcess.onProcessError error errorString) := by
      unfold EndpointProcess.onProcessError
      exact (keepsAnnounced_emit rfl).bind fun _ =>
        Preserves.ite _ (keepsAnnounced_setState _) (Preserves.pure _)
    exact Preserves.ite _ ((keepsAnnounced_update fun _ => by rfl).bind fun _ => hreport) hreport
  | finished exitCode =>
    exact (keepsAnnounced_update fun _ => by rfl).bind fun _ => keepsAnnounced_onFinished exitCode
  | killTimeout timer =>
    exact Preserves.read.bind fun c => Preserves.ite _ (keepsAnnounced_emit rfl) (Preserves.pure _)

/-- The state after a step is the last one that it announced. -/
theorem state_of_step {desktop last : Desktop} {event : GuiEvent} {t : List GuiEffect}
    (h : Desktop.step env desktop event = some (last, t)) :
    last.controller.state = (announced t).getLast?.getD desktop.controller.state := by
  rw [Desktop.step] at h
  split at h
  · obtain ⟨rfl, rfl⟩ := Prod.mk.inj (Option.some.inj h)
    exact preserves_self_iff.1 (handle_announces event) desktop.controller [] rfl
  · cases h

end announces

/-! ## The window -/

/-- No process is expected to run. -/
def EndpointState.isIdle (state : EndpointState) : Bool := state = .disconnected ∨ state = .error

namespace MainWindow

/-- The label, the dot and the buttons are those of one state. -/
def Labelled (w : MainWindow) : Prop := w.setState w.connectionState = w

/-- The part of the window that `set_profile` changes. -/
structure SameProfile (w w' : MainWindow) : Prop where
  profilePath : w'.profilePath = w.profilePath
  profileReady : w'.profileReady = w.profileReady
  profileEdit : w'.profileEdit = w.profileEdit
  tunnelValue : w'.tunnelValue = w.tunnelValue
  peerValue : w'.peerValue = w.peerValue
  securityValue : w'.securityValue = w.securityValue

theorem SameProfile.refl (w : MainWindow) : SameProfile w w := ⟨rfl, rfl, rfl, rfl, rfl, rfl⟩

theorem SameProfile.trans {w w' w'' : MainWindow} (h : SameProfile w w')
    (h' : SameProfile w' w'') : SameProfile w w'' :=
  ⟨h'.1.trans h.1, h'.2.trans h.2, h'.3.trans h.3, h'.4.trans h.4, h'.5.trans h.5,
    h'.6.trans h.6⟩

theorem labelled_setState (w : MainWindow) (state : EndpointState) :
    (w.setState state).Labelled := rfl

theorem sameProfile_setState (w : MainWindow) (state : EndpointState) :
    SameProfile w (w.setState state) := ⟨rfl, rfl, rfl, rfl, rfl, rfl⟩

/-- The buttons of a labelled window. -/
theorem Labelled.buttons {w : MainWindow} (h : w.Labelled) :
    w.statusLabel = stateLabel w.connectionState ∧
      w.disconnectButton = !w.connectionState.isIdle ∧
      w.browseButton = w.connectionState.isIdle ∧
      w.connectButton = (w.connectionState.isIdle && w.profilePath.isSome && w.profileReady) := by
  refine ⟨(congrArg statusLabel h).symm, (congrArg disconnectButton h).symm.trans ?_,
    (congrArg browseButton h).symm, (congrArg connectButton h).symm.trans ?_⟩
  · exact decide_not
  · simp only [setState, EndpointState.isIdle, Bool.decide_and, Bool.decide_eq_true,
      Bool.and_assoc]

theorem Labelled.of_connectButton {w : MainWindow} (h : w.Labelled)
    (hbutton : w.connectButton = true) :
    w.connectionState.isIdle = true ∧ (∃ path, w.profilePath = some path) ∧
      w.profileReady = true := by
  have hconnect := h.buttons.2.2.2
  rw [hbutton] at hconnect
  simp only [Bool.true_eq, Bool.and_eq_true, Option.isSome_iff_exists] at hconnect
  exact ⟨hconnect.1.1, hconnect.1.2, hconnect.2⟩

/-- One signal. -/
theorem receive_spec {w : MainWindow} (h : w.Labelled) (e : GuiEffect) :
    (w.receive e).Labelled ∧ SameProfile w (w.receive e) ∧
      (w.receive e).connectionState = (announced [e]).getLast?.getD w.connectionState := by
  cases e with
  | stateChanged state => exact ⟨w.labelled_setState state, w.sameProfile_setState state, rfl⟩
  | eventReceived event =>
    refine ⟨?_, ⟨rfl, rfl, rfl, rfl, rfl, rfl⟩, rfl⟩
    exact congrArg (fun w => w.appendEvent event) h
  | errorReceived message =>
    refine ⟨?_, ⟨rfl, rfl, rfl, rfl, rfl, rfl⟩, rfl⟩
    exact congrArg (fun w => w.appendError message) h
  | _ => exact ⟨h, .refl w, rfl⟩

/-- **The signals of an event.** -/
theorem receive_all {w : MainWindow} (h : w.Labelled) (t : List GuiEffect) :
    (t.foldl receive w).Labelled ∧ SameProfile w (t.foldl receive w) ∧
      (t.foldl receive w).connectionState = (announced t).getLast?.getD w.connectionState := by
  induction t using List.reverseRecOn with
  | nil => exact ⟨h, .refl w, rfl⟩
  | append_singleton t e ih =>
    obtain ⟨hlabelled, hsame, hstate⟩ := ih
    obtain ⟨hlabelled', hsame', hstate'⟩ := receive_spec hlabelled e
    rw [List.foldl_concat]
    refine ⟨hlabelled', hsame.trans hsame', ?_⟩
    rw [hstate', hstate, announced_concat, List.getLast?_append]
    cases (announced [e]).getLast? <;> rfl

end MainWindow

/-- A profile that `load_config` has accepted, and whether its keys could be loaded. -/
structure ShownProfile where
  path : PosixPath
  config : LoadedConfig
  ready : Bool

/-- The profile, as it is shown when it is selected. -/
def ShownProfile.load (files : GuiFiles) (path : PosixPath) : Option ShownProfile :=
  (loadConfig files.documents path).toOption.map fun config =>
    ⟨path, config, (validateProfileKeys files.keyFiles config).toOption.isSome⟩

namespace MainWindow

/-- The window shows the values of the profile, and whether its keys could be loaded. -/
def ShowsProfile (w : MainWindow) : Option ShownProfile → Prop
  | none => w.profilePath = none ∧ w.profileReady = false
  | some shown => w.profilePath = some shown.path ∧ w.profileReady = shown.ready ∧
      w.profileEdit = String.ofList shown.path.toText ∧
      w.tunnelValue = shown.config.tunAddress ∧ w.peerValue = shown.config.peer.text ∧
      w.securityValue = securityLabel shown.config

theorem ShowsProfile.of_same {w w' : MainWindow} {shown : Option ShownProfile}
    (h : w.ShowsProfile shown) (hsame : SameProfile w w') : w'.ShowsProfile shown := by
  cases shown with
  | none => exact ⟨hsame.profilePath.trans h.1, hsame.profileReady.trans h.2⟩
  | some shown =>
    obtain ⟨hpath, hready, hedit, htunnel, hpeer, hsecurity⟩ := h
    exact ⟨hsame.profilePath.trans hpath, hsame.profileReady.trans hready,
      hsame.profileEdit.trans hedit, hsame.tunnelValue.trans htunnel,
      hsame.peerValue.trans hpeer, hsame.securityValue.trans hsecurity⟩

/-- **`validate_profile_keys`** raises nothing but `ValueError`. -/
theorem validateProfileKeys_raises (files : KeyFiles) (config : LoadedConfig) :
    Raises IsValueError (validateProfileKeys files config) := by
  unfold validateProfileKeys
  dsimp only
  split
  case' h_1 => refine (loadPresharedKey_raises files _).bind fun _ => ?_
  all_goals
    split
    case' h_1 => refine (loadX25519PrivateKey_raises files _).bind fun _ => ?_
    all_goals
      split
      · exact (loadX25519PublicKey_raises files _).bind fun _ => Raises.ok _
      · exact Raises.ok _

/-- **`set_profile`** shows a profile that loads, and raises what `load_config` raises. -/
theorem setProfile_spec (files : GuiFiles) (w : MainWindow) (state : EndpointState)
    (path : PosixPath) :
    (∃ e, loadConfig files.documents path = .error e ∧ ShownProfile.load files path = none ∧
        w.setProfile files state path = .error e) ∨
      ∃ shown w', ShownProfile.load files path = some shown ∧
        (∀ e, loadConfig files.documents path ≠ .error e) ∧
        w.setProfile files state path = .ok w' ∧ w'.Labelled ∧ w'.connectionState = state ∧
        w'.ShowsProfile (some shown) := by
  unfold setProfile ShownProfile.load
  cases hload : loadConfig files.documents path with
  | error e => exact Or.inl ⟨e, rfl, rfl, rfl⟩
  | ok config =>
    right
    rcases hkeys : validateProfileKeys files.keyFiles config with e | ⟨⟩
    · obtain ⟨message, rfl⟩ := validateProfileKeys_raises _ _ _ hkeys
      refine ⟨⟨path, config, false⟩,
        ((w.display path config).previewProfile message).setState state, ?_, nofun, ?_,
        labelled_setState _ _, rfl, rfl, rfl, rfl, rfl, rfl, rfl⟩
      · exact congrArg (fun r => some (⟨path, config, r.toOption.isSome⟩ : ShownProfile)) hkeys
      · simp only [hkeys]
        rfl
    · refine ⟨⟨path, config, true⟩, (w.display path config).acceptProfile.setState state, ?_,
        nofun, ?_, labelled_setState _ _, rfl, rfl, rfl, rfl, rfl, rfl, rfl⟩
      · exact congrArg (fun r => some (⟨path, config, r.toOption.isSome⟩ : ShownProfile)) hkeys
      · simp only [hkeys]

end MainWindow

/-! ## One event of the application -/

/-- The command that `start` runs. -/
def launchCommand (env : GuiEnvironment) (files : GuiFiles) (profile : PosixPath) : GuiEffect :=
  let sourceRoot := env.sourceRoot
  .processStart "pkexec" ["/usr/bin/env", s!"PYTHONPATH={sourceRoot}", env.executable, "-m",
    "matf_vpn", "--config", files.resolve profile]

/-- The exception that `start` raises. -/
def startError? (files : GuiFiles) (profile : PosixPath) (c : EndpointProcess) : Option PyError :=
  if c.process ≠ .notRunning then some (.runtimeError "VPN endpoint is already running")
  else raised? (loadProfile files profile)

section start

variable {env : GuiEnvironment} {files : GuiFiles} {profile : PosixPath} {c : EndpointProcess}

/-- `start` when no process runs and the profile loads. -/
theorem start_spec {config : LoadedConfig} (hprocess : c.process = .notRunning)
    (hload : loadProfile files profile = .ok config) :
    wp (EndpointProcess.start env files profile) c fun r c' t =>
      r = .ok config ∧ c' = c.launched ∧
        ∃ reports, Reports reports ∧ t = reports ++ [launchCommand env files profile] := by
  unfold EndpointProcess.start
  rw [wp_read_bind, if_neg (not_not.2 hprocess), hload]
  show wp (pure config >>= _) c _
  rw [wp_pure_bind, wp_update_bind, wp_bind]
  refine wp_mono (EndpointProcess.setState_spec _) ?_
  rintro r c' t ⟨rfl, rfl, ht⟩
  exact ⟨rfl, rfl, t, ht, rfl⟩

/-- A `start` that raises does nothing else. -/
theorem start_raises {e : PyError} (h : startError? files profile c = some e) :
    EndpointProcess.start env files profile c = ⟨.error e, c, []⟩ := by
  rw [startError?] at h
  show (if c.process ≠ .notRunning then _ else _ : Controller LoadedConfig) c = _
  by_cases hprocess : c.process ≠ .notRunning
  · rw [if_pos hprocess] at h ⊢
    rw [← Option.some.inj h]
    rfl
  · rw [if_neg hprocess] at h ⊢
    cases hload : loadProfile files profile with
    | error e' =>
      rw [hload] at h
      rw [← Option.some.inj h]
      rfl
    | ok config =>
      rw [hload] at h
      cases h

/-- A `start` that does not raise. -/
theorem startError?_eq_none (h : startError? files profile c = none) :
    c.process = .notRunning ∧ ∃ config, loadProfile files profile = .ok config := by
  rw [startError?] at h
  by_cases hprocess : c.process ≠ .notRunning
  · rw [if_pos hprocess] at h
    cases h
  · rw [if_neg hprocess] at h
    cases hload : loadProfile files profile with
    | error e =>
      rw [hload] at h
      cases h
    | ok config => exact ⟨not_not.1 hprocess, config, rfl⟩

/-- What a `start` raises is caught by the window, but for a number that is too large. -/
theorem startError?_caught {e : PyError} (h : startError? files profile c = some e) :
    (e.isOSError ∨ e.isRuntimeError ∨ e.isValueError) ∨
      e = .overflowError "int too large to convert to float" ∧ c.process = .notRunning ∧
        loadConfig files.documents profile = .error e := by
  rw [startError?] at h
  by_cases hprocess : c.process ≠ .notRunning
  · rw [if_pos hprocess] at h
    rw [← Option.some.inj h]
    exact Or.inl (Or.inr (Or.inl rfl))
  rw [if_neg hprocess, loadProfile] at h
  cases hload : loadConfig files.documents profile with
  | error e' =>
    rw [hload] at h
    obtain rfl := Option.some.inj h
    rcases loadConfig_raises files.documents profile e' hload with ⟨message, rfl⟩ | huncaught
    · exact Or.inl (Or.inr (Or.inr rfl))
    · cases huncaught with
      | overflow hlarge => exact Or.inr ⟨rfl, not_not.1 hprocess, rfl⟩
      | recursion message hnests => exact Or.inl (Or.inr (Or.inl rfl))
  | ok config =>
    rw [hload] at h
    cases hkeys : validateProfileKeys files.keyFiles config with
    | error e' =>
      obtain ⟨message, rfl⟩ := MainWindow.validateProfileKeys_raises _ _ _ hkeys
      have hraised : raised? (validateProfileKeys files.keyFiles config >>= fun _ => pure config)
          = some e := h
      rw [hkeys] at hraised
      rw [← Option.some.inj hraised]
      exact Or.inl (Or.inr (Or.inr rfl))
    | ok _ =>
      have hraised : raised? (validateProfileKeys files.keyFiles config >>= fun _ => pure config)
          = some e := h
      rw [hkeys] at hraised
      cases hraised

/-- A start in the event loop. -/
theorem step_start (env : GuiEnvironment) {desktop : Desktop} (files : GuiFiles)
    (profile : PosixPath) (hrunning : desktop.aborted = none) :
    ∃ last, Desktop.step env desktop (.start files profile) =
        some (last, (EndpointProcess.start env files profile desktop.controller).trace) ∧
      last.controller = (EndpointProcess.start env files profile desktop.controller).state ∧
      last.launches = desktop.launches +
        Desktop.launched (EndpointProcess.start env files profile desktop.controller).trace ∧
      last.timers = desktop.timers ++ Desktop.armed desktop.launches
        (EndpointProcess.start env files profile desktop.controller).trace ∧
      last.kills = desktop.kills ∧ last.aborted = none := by
  have htrace : ((GuiEvent.start files profile).handle env desktop.controller).trace =
      (EndpointProcess.start env files profile desktop.controller).trace := List.append_nil _
  rw [Desktop.step, if_pos ⟨hrunning, rfl⟩, ← htrace]
  exact ⟨_, rfl, rfl, rfl, rfl, List.append_nil _, rfl⟩

end start

namespace Application

variable {env : GuiEnvironment} {app next : Application} {event : WindowEvent}
  {shown : Option ShownProfile} {t : List GuiEffect}

/-- The controller goes on as in `Desktop`, and the window receives its signals. -/
theorem control_eq_ok {event : GuiEvent} : app.control env event = .ok (next, t) ↔
    ∃ desktop, Desktop.step env app.desktop event = some (desktop, t) ∧ desktop.aborted = none ∧
      next = { app with desktop := desktop, window := t.foldl MainWindow.receive app.window } := by
  rw [control]
  constructor
  · intro h
    split at h
    · cases h
    · rename_i desktop trace hstep
      split at h
      · cases h
      · rename_i hnone
        obtain ⟨rfl, rfl⟩ := Prod.mk.inj (Except.ok.inj h)
        exact ⟨desktop, hstep, hnone, rfl⟩
  · rintro ⟨desktop, hstep, hnone, rfl⟩
    simp only [hstep, hnone]

/-- An exception that leaves a slot of the controller. -/
theorem control_eq_aborted {event : GuiEvent} {e : PyError} :
    app.control env event = .error (.aborted e) ↔
      ∃ desktop t, Desktop.step env app.desktop event = some (desktop, t) ∧
        desktop.aborted = some e := by
  rw [control]
  constructor
  · intro h
    split at h
    · cases h
    · rename_i desktop trace hstep
      split at h
      · rename_i e' he
        rw [← Halt.aborted.inj (Except.error.inj h)]
        exact ⟨desktop, trace, hstep, he⟩
      · cases h
  · rintro ⟨desktop, t, hstep, he⟩
    simp only [hstep, he]

/-- The label and the buttons are those of one state, which is that of the controller or
`error` when the controller is idle, and the profile is shown as it was loaded. -/
structure Consistent (shown : Option ShownProfile) (app : Application) : Prop where
  running : app.desktop.aborted = none
  labelled : app.window.Labelled
  state : app.window.connectionState = app.desktop.controller.state ∨
    app.window.connectionState = .error ∧ app.desktop.controller.state.isIdle = true
  profile : app.window.ShowsProfile shown

theorem Consistent.isIdle_eq (h : Consistent shown app) :
    app.window.connectionState.isIdle = app.desktop.controller.state.isIdle := by
  rcases h.state with hstate | ⟨hstate, hidle⟩
  · rw [hstate]
  · rw [hstate, hidle]
    rfl

theorem consistent_new : Consistent none new := ⟨rfl, rfl, Or.inl rfl, rfl, rfl⟩

/-- The window after an event of the controller. -/
theorem connectionState_of_control {event : GuiEvent} (h : app.window.Labelled)
    (hcontrol : app.control env event = .ok (next, t)) :
    next.window.connectionState = next.desktop.controller.state ∨
      announced t = [] ∧ next.window.connectionState = app.window.connectionState ∧
        next.desktop.controller.state = app.desktop.controller.state := by
  obtain ⟨desktop, hstep, -, rfl⟩ := control_eq_ok.1 hcontrol
  have hstate := state_of_step hstep
  obtain ⟨-, -, hshown⟩ := MainWindow.receive_all h t
  show (t.foldl MainWindow.receive app.window).connectionState = desktop.controller.state ∨ _
  rw [hshown, hstate]
  cases hlast : (announced t).getLast? with
  | none => exact Or.inr ⟨List.getLast?_eq_none_iff.1 hlast, rfl, rfl⟩
  | some state => exact Or.inl rfl

/-- **An event of the controller.** -/
theorem Consistent.control {event : GuiEvent} (h : Consistent shown app)
    (hcontrol : app.control env event = .ok (next, t)) : Consistent shown next := by
  have hstate := connectionState_of_control h.labelled hcontrol
  obtain ⟨desktop, hstep, hrunning, rfl⟩ := control_eq_ok.1 hcontrol
  obtain ⟨hlabelled, hsame, -⟩ := MainWindow.receive_all h.labelled t
  refine ⟨hrunning, hlabelled, ?_, h.profile.of_same hsame⟩
  rcases hstate with hstate | ⟨-, hwindow, hcontroller⟩
  · exact Or.inl hstate
  · rw [hwindow, hcontroller]
    exact h.state

/-- **Selecting a profile** aborts exactly on the exceptions of `load_config` that are no
`ValueError`. -/
theorem selectProfile_spec (app : Application) (files : GuiFiles) (path : PosixPath) :
    (∃ e, loadConfig files.documents path = .error e ∧ ShownProfile.load files path = none ∧
      (e.isValueError = false ∧ app.selectProfile files path = .error (.aborted e) ∨
        e.isValueError = true ∧ app.selectProfile files path
          = .ok { app with messages := app.messages ++ [e.text] })) ∨
    ∃ shown w, ShownProfile.load files path = some shown ∧
      (∀ e, loadConfig files.documents path ≠ .error e) ∧
      app.selectProfile files path = .ok { app with window := w } ∧ w.Labelled ∧
      w.connectionState = app.desktop.controller.state ∧ w.ShowsProfile (some shown) := by
  unfold selectProfile
  rcases app.window.setProfile_spec files app.desktop.controller.state path with
    ⟨e, hload, hnone, hset⟩ | ⟨shown, w, hload, hok, hset, hlabelled, hstate, hshows⟩
  · refine Or.inl ⟨e, hload, hnone, ?_⟩
    cases hvalue : e.isValueError with
    | false =>
      refine Or.inl ⟨rfl, ?_⟩
      simp only [hset, hvalue, Bool.false_eq_true, if_false]
    | true =>
      refine Or.inr ⟨rfl, ?_⟩
      simp only [hset, hvalue, if_true]
  · refine Or.inr ⟨shown, w, hload, hok, ?_, hlabelled, hstate, hshows⟩
    simp only [hset]

/-- The window after a `start` that raised. -/
def refused (app : Application) (e : PyError) : Application := { app with
  window := (app.window.appendError e.text).setState .error }

/-- `_connect_endpoint` when `start` raises. -/
theorem connectEndpoint_raises {files : GuiFiles} {path : PosixPath} {e : PyError}
    (hrunning : app.desktop.aborted = none) (hpath : app.window.profilePath = some path)
    (h : startError? files path app.desktop.controller = some e) :
    app.connectEndpoint env files = (app.connectError e).map fun next => (next, []) := by
  have hstart := @start_raises env files path _ e h
  obtain ⟨⟨controller, launches, timers, kills, aborted⟩, hstep, rfl, rfl, rfl, rfl, rfl⟩ :=
    step_start env files path hrunning
  rw [hstart] at hstep
  have hsame : app.control env (.start files path) = .ok (app, []) := by
    refine control_eq_ok.2 ⟨app.desktop, hstep.trans ?_, hrunning, rfl⟩
    rw [← hrunning]
    show some (Desktop.mk _ _ (app.desktop.timers ++ []) _ _, []) = some (app.desktop, [])
    rw [List.append_nil]
    rfl
  unfold connectEndpoint
  simp only [hpath, hsame, hstart]
  rfl

/-- **`_connect_endpoint`** when `start` does not raise launches the endpoint with the profile. -/
theorem connectEndpoint_launches {files : GuiFiles} {path : PosixPath} {config : LoadedConfig}
    (hrunning : app.desktop.aborted = none) (hpath : app.window.profilePath = some path)
    (hprocess : app.desktop.controller.process = .notRunning)
    (hload : loadProfile files path = .ok config) :
    ∃ next reports,
      app.connectEndpoint env files = .ok (next, reports ++ [launchCommand env files path]) ∧
      app.control env (.start files path) = .ok (next, reports ++ [launchCommand env files path]) ∧
      Reports reports ∧ next.desktop.controller = app.desktop.controller.launched ∧
      next.desktop.launches = app.desktop.launches + 1 := by
  obtain ⟨hresult, hstate, reports, hreports, htrace⟩ := @start_spec env _ _ _ _ hprocess hload
  obtain ⟨desktop, hstep, hcontroller, hlaunches, -, -, hgoes⟩ :=
    step_start env files path hrunning
  rw [htrace] at hstep hlaunches
  rw [Desktop.launched_append, Desktop.launched_of_leavesProcesses hreports.leavesProcesses]
    at hlaunches
  have hcontrol := control_eq_ok.2 ⟨desktop, hstep, hgoes, rfl⟩
  refine ⟨_, reports, ?_, hcontrol, hreports, hcontroller.trans hstate, hlaunches⟩
  unfold connectEndpoint
  simp only [hpath, hcontrol, hresult]
  rfl

/-- The profile behind an enabled button `Connect`. -/
theorem Consistent.path_of_connectButton (h : Consistent shown app)
    (hbutton : app.window.connectButton = true) : ∃ profile, shown = some profile ∧
      profile.ready = true ∧ app.window.profilePath = some profile.path := by
  obtain ⟨-, ⟨path, hpath⟩, hready⟩ := h.labelled.of_connectButton hbutton
  cases shown with
  | none =>
    have hnone := h.profile.1
    rw [hpath] at hnone
    cases hnone
  | some profile =>
    obtain ⟨hprofile, hkeys, -⟩ := h.profile
    exact ⟨profile, rfl, hkeys.symm.trans hready, hprofile⟩

/-- A `start` that raised leaves the window consistent when no process is expected to run. -/
theorem Consistent.refused (h : Consistent shown app)
    (hidle : app.desktop.controller.state.isIdle = true) (e : PyError) :
    Consistent shown (app.refused e) := by
  refine ⟨h.running, MainWindow.labelled_setState _ _, Or.inr ⟨rfl, hidle⟩, ?_⟩
  exact h.profile.of_same ⟨rfl, rfl, rfl, rfl, rfl, rfl⟩

/-- The `except` of `_connect_endpoint` lets a number pass that is too large. -/
theorem connectError_spec {files : GuiFiles} {path : PosixPath} {e : PyError}
    (h : startError? files path app.desktop.controller = some e) :
    app.connectError e = .ok (app.refused e) ∧
        ¬ e = .overflowError "int too large to convert to float" ∨
      e = .overflowError "int too large to convert to float" ∧
        app.desktop.controller.process = .notRunning ∧
        loadConfig files.documents path = .error e ∧ app.connectError e = .error (.aborted e) := by
  rcases startError?_caught h with hcaught | ⟨rfl, hprocess, hload⟩
  · refine Or.inl ⟨if_pos hcaught, ?_⟩
    rintro rfl
    rcases hcaught with hcaught | hcaught | hcaught <;> cases hcaught
  · exact Or.inr ⟨rfl, hprocess, hload, if_neg (by decide)⟩

/-- **`_connect_endpoint`** behind an enabled button: the endpoint is launched, or what `start`
raised is shown, or the application aborts. -/
theorem Consistent.connect (h : Consistent shown app) (hbutton : app.window.connectButton = true)
    (files : GuiFiles) : ∃ profile, shown = some profile ∧ profile.ready = true ∧
      app.window.profilePath = some profile.path ∧
      ((∃ next reports config, loadProfile files profile.path = .ok config ∧
          app.connectEndpoint env files
            = .ok (next, reports ++ [launchCommand env files profile.path]) ∧
          app.control env (.start files profile.path)
            = .ok (next, reports ++ [launchCommand env files profile.path]) ∧
          Reports reports ∧ next.desktop.controller = app.desktop.controller.launched ∧
          next.desktop.launches = app.desktop.launches + 1 ∧
          startError? files profile.path app.desktop.controller = none) ∨
        ∃ e, startError? files profile.path app.desktop.controller = some e ∧
          (app.connectEndpoint env files = .ok (app.refused e, []) ∧
              ¬ e = .overflowError "int too large to convert to float" ∨
            e = .overflowError "int too large to convert to float" ∧
              app.desktop.controller.process = .notRunning ∧
              loadConfig files.documents profile.path = .error e ∧
              app.connectEndpoint env files = .error (.aborted e))) := by
  obtain ⟨profile, rfl, hready, hpath⟩ := h.path_of_connectButton hbutton
  refine ⟨profile, rfl, hready, hpath, ?_⟩
  cases hstart : startError? files profile.path app.desktop.controller with
  | none =>
    obtain ⟨hprocess, config, hload⟩ := startError?_eq_none hstart
    obtain ⟨next, reports, hconnect, hcontrol, hreports, hcontroller, hlaunches⟩ :=
      @connectEndpoint_launches env app files _ _ h.running hpath hprocess hload
    exact Or.inl ⟨next, reports, config, hload, hconnect, hcontrol, hreports, hcontroller,
      hlaunches, rfl⟩
  | some e =>
    refine Or.inr ⟨e, rfl, ?_⟩
    rw [connectEndpoint_raises h.running hpath hstart]
    rcases connectError_spec hstart with ⟨hcaught, hother⟩ | ⟨he, hprocess, hload, habort⟩
    · exact Or.inl ⟨by rw [hcaught]; rfl, hother⟩
    · exact Or.inr ⟨he, hprocess, hload, by rw [habort]; rfl⟩

/-- An enabled event is not one of a closed window. -/
theorem step_eq {app : Application} (h : app.step env event ≠ .error .disabled) :
    app.closed = false ∧ app.offers event = true ∧ app.step env event = app.handle env event := by
  unfold step at h ⊢
  by_cases hdisabled : app.closed ∨ ¬ app.offers event
  · exact absurd (if_pos hdisabled) h
  · rw [not_or, not_not, Bool.not_eq_true] at hdisabled
    refine ⟨hdisabled.1, hdisabled.2, if_neg ?_⟩
    rw [not_or, not_not, Bool.not_eq_true]
    exact hdisabled

end Application

/-- The profile that the event selects and `load_config` accepts. -/
def WindowEvent.accepted? : WindowEvent → Option ShownProfile
  | .fileChosen files (some path) => ShownProfile.load files path
  | _ => none

/-- The last profile that `load_config` has accepted, of the option or of the file dialog. -/
def lastAccepted (files : GuiFiles) (profile : Option PosixPath) (events : List WindowEvent) :
    Option ShownProfile :=
  events.foldl (fun shown event => event.accepted?.or shown)
    (profile.bind (ShownProfile.load files))

/-- The event is a click on `Connect` for which `start` raises. -/
def WindowEvent.Refused (app : Application) : WindowEvent → Prop
  | .connectClicked files => ∃ path e, app.window.profilePath = some path ∧
      startError? files path app.desktop.controller = some e
  | _ => False

namespace Application

variable {env : GuiEnvironment} {app next : Application} {event : WindowEvent}
  {shown : Option ShownProfile} {t : List GuiEffect}

/-- After the event the window shows the state of the controller, what it showed before or, after a
`start` that raised, `error`. -/
inductive ShowsState (app next : Application) (event : WindowEvent) (t : List GuiEffect) : Prop
  | controller : next.window.connectionState = next.desktop.controller.state →
      ShowsState app next event t
  | refused : event.Refused app → t = [] → ShowsState app next event t
  | quiet : announced t = [] → event.accepted? = none →
      next.window.connectionState = app.window.connectionState →
      next.desktop.controller.state = app.desktop.controller.state → ShowsState app next event t

/-- **One event** keeps the window consistent. -/
theorem Consistent.step (h : Consistent shown app) (hstep : app.step env event = .ok (next, t)) :
    Consistent (event.accepted?.or shown) next ∧ ShowsState app next event t := by
  obtain ⟨-, hoffers, hhandle⟩ := step_eq (by rw [hstep]; exact fun h => by cases h)
  rw [hhandle] at hstep
  have hcontrolled : ∀ {inner : GuiEvent} {next : Application} {t : List GuiEffect},
      event.accepted? = none → app.control env inner = .ok (next, t) →
      Consistent (event.accepted?.or shown) next ∧ ShowsState app next event t := by
    intro inner next t hnone hcontrol
    rw [hnone]
    refine ⟨h.control hcontrol, ?_⟩
    rcases connectionState_of_control h.labelled hcontrol with hstate | ⟨hquiet, hwindow, hsame⟩
    · exact .controller hstate
    · exact .quiet hquiet hnone hwindow hsame
  cases event with
  | browseClicked =>
    obtain ⟨rfl, rfl⟩ := Prod.mk.inj (Except.ok.inj hstep)
    exact ⟨⟨h.running, h.labelled, h.state, h.profile⟩, .quiet rfl rfl rfl rfl⟩
  | fileChosen files filename =>
    cases filename with
    | none =>
      obtain ⟨rfl, rfl⟩ := Prod.mk.inj (Except.ok.inj hstep)
      exact ⟨⟨h.running, h.labelled, h.state, h.profile⟩, .quiet rfl rfl rfl rfl⟩
    | some path =>
      obtain ⟨selected, hselect, hnext⟩ := except_bind_eq_ok.1 hstep
      obtain ⟨rfl, rfl⟩ := Prod.mk.inj (Except.ok.inj hnext)
      rcases selectProfile_spec { app with dialog := false } files path with
        ⟨e, -, hnone, ⟨-, habort⟩ | ⟨-, hshow⟩⟩ | ⟨profile, w, hload, -, hshow, hlabelled, hstate,
          hprofile⟩
      · cases habort.symm.trans hselect
      · obtain rfl := Except.ok.inj (hshow.symm.trans hselect)
        have haccepted : WindowEvent.accepted? (.fileChosen files (some path)) = none := hnone
        rw [haccepted]
        exact ⟨⟨h.running, h.labelled, h.state, h.profile⟩, .quiet rfl haccepted rfl rfl⟩
      · obtain rfl := Except.ok.inj (hshow.symm.trans hselect)
        rw [WindowEvent.accepted?, hload]
        exact ⟨⟨h.running, hlabelled, Or.inl hstate, hprofile⟩, .controller hstate⟩
  | connectClicked files =>
    have hbutton : app.window.connectButton = true := (of_decide_eq_true hoffers).1
    have hconnected : app.connectEndpoint env files = .ok (next, t) := hstep
    obtain ⟨profile, -, -, hpath, ⟨launched, reports, config, -, hconnect, hcontrol, -⟩ |
      ⟨e, hstart, ⟨hconnect, -⟩ | ⟨-, -, -, hconnect⟩⟩⟩ :=
        @Consistent.connect env _ _ h hbutton files
    · obtain ⟨rfl, rfl⟩ := Prod.mk.inj (Except.ok.inj (hconnect.symm.trans hconnected))
      exact hcontrolled rfl hcontrol
    · obtain ⟨rfl, rfl⟩ := Prod.mk.inj (Except.ok.inj (hconnect.symm.trans hconnected))
      refine ⟨h.refused (h.isIdle_eq.symm.trans ?_) e, .refused ⟨_, e, hpath, hstart⟩ rfl⟩
      exact (h.labelled.of_connectButton hbutton).1
    · cases hconnect.symm.trans hconnected
  | disconnectClicked =>
    have hcontrol : app.control env .stop = .ok (next, t) := hstep
    exact hcontrolled rfl hcontrol
  | close =>
    obtain ⟨⟨stopped, trace⟩, hcontrol, hnext⟩ := except_bind_eq_ok.1 hstep
    obtain ⟨rfl, rfl⟩ := Prod.mk.inj (Except.ok.inj hnext)
    obtain ⟨hstopped, hshows⟩ := hcontrolled rfl hcontrol
    refine ⟨⟨hstopped.running, hstopped.labelled, hstopped.state, hstopped.profile⟩, ?_⟩
    cases hshows with
    | controller hstate => exact .controller hstate
    | refused hrefused hnil => exact .refused hrefused hnil
    | quiet hquiet hnone hwindow hsame => exact .quiet hquiet hnone hwindow hsame
  | process event => exact hcontrolled rfl hstep

/-- The `except` of `_connect_endpoint` leaves the controller as it is. -/
theorem desktop_of_connectError {e : PyError} (h : app.connectError e = .ok next) :
    next.desktop = app.desktop := by
  rw [connectError] at h
  split at h
  · rw [← Except.ok.inj h]
  · cases h

/-- **An event of the application** is at most one of the controller: a start, a stop or a
signal of Qt. -/
theorem desktop_of_step (h : app.step env event = .ok (next, t)) :
    next.desktop = app.desktop ∧ t = [] ∨
      ∃ inner, Desktop.step env app.desktop inner = some (next.desktop, t) ∧
        ((∃ files path, inner = .start files path) ∨ inner = .stop ∨ event = .process inner) := by
  obtain ⟨-, -, hhandle⟩ := step_eq (by rw [h]; exact fun h => by cases h)
  rw [hhandle] at h
  have hcontrol : ∀ {inner : GuiEvent} {next : Application} {t : List GuiEffect},
      app.control env inner = .ok (next, t) →
      Desktop.step env app.desktop inner = some (next.desktop, t) := by
    intro inner next t h
    obtain ⟨desktop, hstep, -, rfl⟩ := control_eq_ok.1 h
    exact hstep
  cases event with
  | browseClicked =>
    obtain ⟨rfl, rfl⟩ := Prod.mk.inj (Except.ok.inj h)
    exact Or.inl ⟨rfl, rfl⟩
  | fileChosen files filename =>
    cases filename with
    | none =>
      obtain ⟨rfl, rfl⟩ := Prod.mk.inj (Except.ok.inj h)
      exact Or.inl ⟨rfl, rfl⟩
    | some path =>
      obtain ⟨selected, hselect, hnext⟩ := except_bind_eq_ok.1 h
      obtain ⟨rfl, rfl⟩ := Prod.mk.inj (Except.ok.inj hnext)
      rcases selectProfile_spec { app with dialog := false } files path with
        ⟨e, -, -, ⟨-, habort⟩ | ⟨-, hshow⟩⟩ | ⟨profile, w, -, -, hshow, -⟩
      · cases habort.symm.trans hselect
      · rw [← Except.ok.inj (hshow.symm.trans hselect)]
        exact Or.inl ⟨rfl, rfl⟩
      · rw [← Except.ok.inj (hshow.symm.trans hselect)]
        exact Or.inl ⟨rfl, rfl⟩
  | connectClicked files =>
    have hconnect : app.connectEndpoint env files = .ok (next, t) := h
    unfold connectEndpoint at hconnect
    split at hconnect
    · obtain ⟨rfl, rfl⟩ := Prod.mk.inj (Except.ok.inj hconnect)
      exact Or.inl ⟨rfl, rfl⟩
    · rename_i path hpath
      obtain ⟨⟨started, trace⟩, hstart, hconnect⟩ := except_bind_eq_ok.1 hconnect
      dsimp only at hconnect
      split at hconnect
      · obtain ⟨rfl, rfl⟩ := Prod.mk.inj (Except.ok.inj hconnect)
        exact Or.inr ⟨_, hcontrol hstart, Or.inl ⟨files, path, rfl⟩⟩
      · obtain ⟨failed, herror, hnext⟩ := except_bind_eq_ok.1 hconnect
        obtain ⟨rfl, rfl⟩ := Prod.mk.inj (Except.ok.inj hnext)
        refine Or.inr ⟨.start files path, ?_, Or.inl ⟨files, path, rfl⟩⟩
        rw [desktop_of_connectError herror]
        exact hcontrol hstart
  | disconnectClicked => exact Or.inr ⟨.stop, hcontrol h, Or.inr (Or.inl rfl)⟩
  | close =>
    obtain ⟨⟨stopped, trace⟩, hstop, hnext⟩ := except_bind_eq_ok.1 h
    obtain ⟨rfl, rfl⟩ := Prod.mk.inj (Except.ok.inj hnext)
    have hstep := hcontrol hstop
    exact Or.inr ⟨.stop, hstep, Or.inr (Or.inl rfl)⟩
  | process event => exact Or.inr ⟨event, hcontrol h, Or.inr (Or.inr rfl)⟩

/-! ## Runs of the application -/

/-- One more event of a run. -/
theorem run_concat {app last : Application} {events : List WindowEvent} :
    app.run env (events ++ [event]) = .ok (last, t) ↔
      ∃ next u v, app.run env events = .ok (next, u) ∧ next.step env event = .ok (last, v) ∧
        t = u ++ v := by
  induction events generalizing app t with
  | nil =>
    constructor
    · intro h
      obtain ⟨⟨next, u⟩, hstep, h⟩ := except_bind_eq_ok.1 h
      obtain ⟨rfl, rfl⟩ := Prod.mk.inj (Except.ok.inj h)
      exact ⟨app, [], u, rfl, hstep, List.append_nil _⟩
    · rintro ⟨next, u, v, hnil, hstep, rfl⟩
      obtain ⟨rfl, rfl⟩ := Prod.mk.inj (Except.ok.inj hnil)
      refine except_bind_eq_ok.2 ⟨(last, v), hstep, ?_⟩
      exact congrArg (fun v => Except.ok (last, v)) (List.append_nil v)
  | cons first events ih =>
    constructor
    · intro h
      obtain ⟨⟨second, u⟩, hfirst, h⟩ := except_bind_eq_ok.1 h
      obtain ⟨⟨last', v⟩, hrest, h⟩ := except_bind_eq_ok.1 h
      obtain ⟨rfl, rfl⟩ := Prod.mk.inj (Except.ok.inj h)
      obtain ⟨next, v, w, hrun, hstep, rfl⟩ := ih.1 hrest
      refine ⟨next, u ++ v, w, ?_, hstep, (List.append_assoc u v w).symm⟩
      exact except_bind_eq_ok.2 ⟨_, hfirst, except_bind_eq_ok.2 ⟨_, hrun, rfl⟩⟩
    · rintro ⟨next, u, v, hrun, hstep, rfl⟩
      obtain ⟨⟨second, u⟩, hfirst, h⟩ := except_bind_eq_ok.1 hrun
      obtain ⟨⟨next', w⟩, hrest, h⟩ := except_bind_eq_ok.1 h
      obtain ⟨rfl, rfl⟩ := Prod.mk.inj (Except.ok.inj h)
      refine except_bind_eq_ok.2 ⟨_, hfirst, except_bind_eq_ok.2
        ⟨_, ih.2 ⟨next', w, v, hrest, hstep, rfl⟩, ?_⟩⟩
      exact congrArg (fun t => Except.ok (last, t)) (List.append_assoc u w v).symm

variable {files : GuiFiles} {profile : Option PosixPath} {events : List WindowEvent}
  {last : Application}

/-- One more event of the program. -/
theorem main_concat : main env files profile (events ++ [event]) = .ok (last, t) ↔
    ∃ next u v, main env files profile events = .ok (next, u) ∧
      next.step env event = .ok (last, v) ∧ t = u ++ v := by
  constructor
  · intro h
    obtain ⟨app, hopened, h⟩ := except_bind_eq_ok.1 h
    obtain ⟨next, u, v, hrun, hstep, rfl⟩ := run_concat.1 h
    exact ⟨next, u, v, except_bind_eq_ok.2 ⟨app, hopened, hrun⟩, hstep, rfl⟩
  · rintro ⟨next, u, v, h, hstep, rfl⟩
    obtain ⟨app, hopened, hrun⟩ := except_bind_eq_ok.1 h
    exact except_bind_eq_ok.2 ⟨app, hopened, run_concat.2 ⟨next, u, v, hrun, hstep, rfl⟩⟩

/-- The window when it opens. -/
theorem opened_spec (h : opened files profile = .ok app) :
    Consistent (lastAccepted files profile []) app ∧ app.desktop = .new ∧
      app.window.connectionState = .disconnected := by
  cases profile with
  | none =>
    obtain rfl := Except.ok.inj h
    exact ⟨consistent_new, rfl, rfl⟩
  | some path =>
    have hselected : selectProfile new files path = .ok app := h
    have hlast : lastAccepted files (some path) [] = ShownProfile.load files path := rfl
    rw [hlast]
    rcases selectProfile_spec new files path with
      ⟨e, -, hnone, ⟨-, habort⟩ | ⟨-, hshow⟩⟩ | ⟨profile, w, hload, -, hshow, hlabelled, hstate,
        hprofile⟩
    · cases habort.symm.trans hselected
    · rw [← Except.ok.inj (hshow.symm.trans hselected), hnone]
      exact ⟨⟨rfl, rfl, Or.inl rfl, rfl, rfl⟩, rfl, rfl⟩
    · rw [← Except.ok.inj (hshow.symm.trans hselected), hload]
      exact ⟨⟨rfl, hlabelled, Or.inl hstate, hprofile⟩, rfl, hstate⟩

/-- **Every run** keeps the window consistent. -/
theorem consistent_of_main (h : main env files profile events = .ok (app, t)) :
    Consistent (lastAccepted files profile events) app := by
  induction events using List.reverseRecOn generalizing app t with
  | nil =>
    obtain ⟨first, hopened, hrun⟩ := except_bind_eq_ok.1 h
    obtain ⟨rfl, rfl⟩ := Prod.mk.inj (Except.ok.inj hrun)
    exact (opened_spec hopened).1
  | append_singleton events event ih =>
    obtain ⟨next, u, v, hmain, hstep, rfl⟩ := main_concat.1 h
    rw [lastAccepted, List.foldl_concat]
    exact ((ih hmain).step hstep).1

/-- A `start` has raised, and since then the controller has announced no state and no profile has
been accepted. -/
def RefusedSince (env : GuiEnvironment) (files : GuiFiles) (profile : Option PosixPath)
    (events : List WindowEvent) (t : List GuiEffect) : Prop :=
  ∃ before click after app u v, events = before ++ click :: after ∧
  main env files profile before = .ok (app, u) ∧ click.Refused app ∧ t = u ++ v ∧
  announced v = [] ∧ ∀ event ∈ after, event.accepted? = none

/-- The window shows the state of the controller, but for a `start` that raised. -/
theorem connectionState_of_main (h : main env files profile events = .ok (app, t)) :
    app.window.connectionState = app.desktop.controller.state ∨
      RefusedSince env files profile events t := by
  induction events using List.reverseRecOn generalizing app t with
  | nil =>
    obtain ⟨first, hopened, hrun⟩ := except_bind_eq_ok.1 h
    obtain ⟨rfl, rfl⟩ := Prod.mk.inj (Except.ok.inj hrun)
    obtain ⟨-, hdesktop, hstate⟩ := opened_spec hopened
    rw [hdesktop]
    exact Or.inl hstate
  | append_singleton events event ih =>
    obtain ⟨next, u, v, hmain, hstep, rfl⟩ := main_concat.1 h
    cases ((consistent_of_main hmain).step hstep).2 with
    | controller hstate => exact Or.inl hstate
    | refused hrefused hnil =>
      rw [hnil]
      exact Or.inr ⟨events, event, [], next, u, [], rfl, hmain, hrefused, rfl, rfl,
        List.forall_mem_nil _⟩
    | quiet hquiet hnone hwindow hsame =>
      rw [hwindow, hsame]
      refine (ih hmain).imp id ?_
      rintro ⟨before, click, after, first, u', v', rfl, hbefore, hclick, rfl, hannounced, hafter⟩
      refine ⟨before, click, after ++ [event], first, u', v' ++ v, by simp, hbefore, hclick,
        List.append_assoc u' v' v, ?_, ?_⟩
      · rw [announced, List.filterMap_append]
        exact List.append_eq_nil_iff.2 ⟨hannounced, hquiet⟩
      · exact List.forall_mem_append.2 ⟨hafter, List.forall_mem_singleton.2 hnone⟩

/-- **The window in every run**: its label and its buttons are those of one state, which is that
of the controller or else `error`, after a `start` that raised while no process was expected to
run; it shows the last profile that was accepted; and the controller goes through a run of its
own. -/
theorem window_of_main (h : main env files profile events = .ok (app, t)) :
    (app.window.statusLabel = stateLabel app.window.connectionState ∧
      app.window.disconnectButton = !app.window.connectionState.isIdle ∧
      app.window.browseButton = app.window.connectionState.isIdle ∧
      app.window.connectButton = (app.window.connectionState.isIdle &&
        app.window.profilePath.isSome && app.window.profileReady)) ∧
    (app.window.connectionState = app.desktop.controller.state ∨
      app.window.connectionState = .error ∧ app.desktop.controller.state.isIdle = true ∧
        RefusedSince env files profile events t) ∧
    app.window.ShowsProfile (lastAccepted files profile events) ∧
    ∃ inner, Desktop.run env .new inner = some (app.desktop, t) := by
  have hconsistent := consistent_of_main h
  refine ⟨hconsistent.labelled.buttons, ?_, hconsistent.profile, ?_⟩
  · rcases connectionState_of_main h with hstate | hrefused
    · exact Or.inl hstate
    · rcases hconsistent.state with hstate | ⟨herror, hidle⟩
      · exact Or.inl hstate
      · exact Or.inr ⟨herror, hidle, hrefused⟩
  clear hconsistent
  induction events using List.reverseRecOn generalizing app t with
  | nil =>
    obtain ⟨first, hopened, hrun⟩ := except_bind_eq_ok.1 h
    obtain ⟨rfl, rfl⟩ := Prod.mk.inj (Except.ok.inj hrun)
    exact ⟨[], by rw [(opened_spec hopened).2.1]; rfl⟩
  | append_singleton events event ih =>
    obtain ⟨next, u, v, hmain, hstep, rfl⟩ := main_concat.1 h
    obtain ⟨inner, hinner⟩ := ih hmain
    rcases desktop_of_step hstep with ⟨hsame, rfl⟩ | ⟨more, hmore, -⟩
    · exact ⟨inner, by rw [hsame, List.append_nil]; exact hinner⟩
    · exact ⟨inner ++ [more], Desktop.run_concat.2 ⟨_, u, v, hinner, hmore, rfl⟩⟩

/-- The files when the profile is gone. -/
def goneFiles : GuiFiles := { plainFiles with
  documents := fun _ => .error (.caught "No such file or directory") }

/-- The user connects when the profile is gone, and again when it is back; the process starts and
sets up a session. -/
def connectEvents : List WindowEvent :=
  [.connectClicked goneFiles, .connectClicked plainFiles, .process .started,
    .process (.read .standardError (lineBytes (eventLine "session_established") true))]

theorem connectEvents_run (n : ℕ) (hn : n ≤ 4) : ∃ app t,
    main loggingEnvironment plainFiles (some (.ofText "client.json".toList))
      (connectEvents.take n) = .ok (app, t) := by
  have hruns : ∀ n ≤ 4, (main loggingEnvironment plainFiles (some (.ofText "client.json".toList))
      (connectEvents.take n)).toOption.isSome = true := by
    decide +kernel
  exact ⟨_, _, eq_ok_get (hruns n hn)⟩

/-- The window of this run. -/
theorem window_of_main_sample : ∃ app t,
    main loggingEnvironment plainFiles (some (.ofText "client.json".toList)) connectEvents
        = .ok (app, t) ∧
      app.window.ShowsProfile (lastAccepted plainFiles (some (.ofText "client.json".toList))
        connectEvents) ∧
      ∃ inner, Desktop.run loggingEnvironment .new inner = some (app.desktop, t) := by
  obtain ⟨app, t, h⟩ := connectEvents_run 4 le_rfl
  exact ⟨app, t, h, (window_of_main h).2.2⟩

/-- No line that the process writes disturbs the state. -/
def Quiet (env : GuiEnvironment) (files : GuiFiles) (profile : Option PosixPath)
    (events : List WindowEvent) : Prop :=
  ∀ before inner after app t, events = before ++ .process inner :: after →
    main env files profile before = .ok (app, t) → Undisturbed env app.desktop.controller inner

/-- The state of the controller in quiet runs. -/
theorem good_of_main (h : main env files profile events = .ok (app, t))
    (hquiet : Quiet env files profile events) : app.desktop.controller.Good := by
  induction events using List.reverseRecOn generalizing app t with
  | nil =>
    obtain ⟨first, hopened, hrun⟩ := except_bind_eq_ok.1 h
    obtain ⟨rfl, rfl⟩ := Prod.mk.inj (Except.ok.inj hrun)
    rw [(opened_spec hopened).2.1]
    exact (EndpointProcess.good_iff_of_notRunning rfl).2 (Or.inl rfl)
  | append_singleton events event ih =>
    obtain ⟨next, u, v, hmain, hstep, rfl⟩ := main_concat.1 h
    have hgood := ih hmain fun before inner after app t hevents hbefore =>
      hquiet before inner (after ++ [event]) app t (by simp [hevents]) hbefore
    rcases desktop_of_step hstep with ⟨hsame, -⟩ | ⟨inner, hinner, hkind⟩
    · rwa [hsame]
    · refine (good_step_iff hgood hinner).2 ?_
      rcases hkind with ⟨files, path, rfl⟩ | rfl | rfl
      · exact undisturbed_of_lines_eq_nil rfl rfl
      · exact undisturbed_of_lines_eq_nil rfl rfl
      · exact hquiet events inner [] next u rfl hmain

/-- **The buttons in quiet runs**: `Disconnect` is enabled exactly while a process runs, the
profile can be changed exactly while none does, and an enabled `Connect` launches the endpoint
with the profile that is shown if it can still be loaded, and else shows why not, but for a number
that is too large. -/
theorem buttons_follow_process (h : main env files profile events = .ok (app, t))
    (hquiet : Quiet env files profile events) :
    (app.window.disconnectButton = true ↔ app.desktop.controller.process ≠ .notRunning) ∧
    (app.window.browseButton = true ↔ app.desktop.controller.process = .notRunning) ∧
    ∀ now, app.offers (.connectClicked now) = true → ∃ path,
      app.window.profilePath = some path ∧
      (∀ config, loadProfile now path = .ok config → ∃ next reports,
        app.handle env (.connectClicked now)
          = .ok (next, reports ++ [launchCommand env now path]) ∧
        Reports reports ∧ next.desktop.launches = app.desktop.launches + 1 ∧
        next.window.connectionState = .connecting) ∧
      ∀ e, loadProfile now path = .error e →
        app.handle env (.connectClicked now) =
          if e = .overflowError "int too large to convert to float" then .error (.aborted e)
          else .ok (app.refused e, []) := by
  have hconsistent := consistent_of_main h
  have hfollows := (good_of_main h hquiet).1
  obtain ⟨-, hdisconnect, hbrowse, -⟩ := hconsistent.labelled.buttons
  have hidle : app.window.connectionState.isIdle = true ↔
      app.desktop.controller.process = .notRunning := by
    rw [hconsistent.isIdle_eq, EndpointState.isIdle, decide_eq_true_iff]
    exact hfollows
  refine ⟨?_, ?_, fun now hoffers => ?_⟩
  · rw [hdisconnect, Bool.not_eq_true', ← Bool.not_eq_true, hidle]
  · rw [hbrowse, hidle]
  have hbutton : app.window.connectButton = true := (of_decide_eq_true hoffers).1
  have hprocess := hidle.1 (hconsistent.labelled.of_connectButton hbutton).1
  obtain ⟨shown, -, -, hpath, hconnect⟩ := @Consistent.connect env _ _ hconsistent hbutton now
  have hraised : startError? now shown.path app.desktop.controller
      = raised? (loadProfile now shown.path) := if_neg (not_not.2 hprocess)
  refine ⟨shown.path, hpath, fun config hload => ?_, fun e hload => ?_⟩
  · rcases hconnect with ⟨next, reports, -, -, hconnect, hcontrol, hreports, hlaunched, hlaunches,
      -⟩ | ⟨e, hstart, -⟩
    · refine ⟨next, reports, hconnect, hreports, hlaunches, ?_⟩
      have hnext := (hconsistent.control hcontrol).state
      rw [hlaunched] at hnext
      rcases hnext with hstate | ⟨-, hstate⟩
      · exact hstate
      · cases hstate
    · rw [hraised, hload] at hstart
      cases hstart
  · rcases hconnect with ⟨_, _, config, hloaded, -⟩ | ⟨e', hstart, hcases⟩
    · rw [hload] at hloaded
      cases hloaded
    · rw [hraised, hload] at hstart
      obtain rfl := Option.some.inj hstart
      rcases hcases with ⟨hshown, hother⟩ | ⟨he, -, -, habort⟩
      · rw [if_neg hother]
        exact hshown
      · rw [if_pos he]
        exact habort

/-- The line of the log that tells of the session allows its state. -/
theorem undisturbed_of_session
    (h : main loggingEnvironment plainFiles (some (.ofText "client.json".toList))
      (connectEvents.take 3) = .ok (app, t)) :
    Undisturbed loggingEnvironment app.desktop.controller
      (.read .standardError (lineBytes (eventLine "session_established") true)) := by
  have hread : (main loggingEnvironment plainFiles (some (.ofText "client.json".toList))
      (connectEvents.take 3)).toOption.map (fun r =>
        (lastState? loggingEnvironment (consumed loggingEnvironment
          (r.1.desktop.controller.completed .standardError
            (lineBytes (eventLine "session_established") true))),
        r.1.desktop.controller.process, r.1.desktop.controller.stopping))
          = some (some .connected, .running, false) := by
    decide +kernel
  rw [h] at hread
  obtain ⟨hstate, hcontroller⟩ := Prod.mk.inj (Option.some.inj hread)
  obtain ⟨hprocess, hstopping⟩ := Prod.mk.inj hcontroller
  intro state htold
  obtain rfl := Option.some.inj (hstate.symm.trans htold)
  rw [EndpointProcess.Allows, if_neg (by rw [hprocess]; decide)]
  exact ⟨hstopping, by decide⟩

/-- The buttons when the user has tried to connect and the session is up. -/
theorem buttons_follow_process_sample : ∃ app t,
    main loggingEnvironment plainFiles (some (.ofText "client.json".toList)) connectEvents
        = .ok (app, t) ∧
      (app.window.disconnectButton = true ↔ app.desktop.controller.process ≠ .notRunning) ∧
      (app.window.browseButton = true ↔ app.desktop.controller.process = .notRunning) := by
  have hquiet : Quiet loggingEnvironment plainFiles (some (.ofText "client.json".toList))
      connectEvents := by
    intro before inner after app t hevents hmain
    have hbefore : before = connectEvents.take before.length := by rw [hevents, List.take_left]
    have hevent : connectEvents[before.length]? = some (.process inner) := by
      rw [hevents, List.getElem?_append_right le_rfl, Nat.sub_self]
      rfl
    rcases hlength : before.length with _ | _ | _ | _ | n <;> rw [hlength] at hbefore hevent
    · cases hevent
    · cases hevent
    · obtain rfl := WindowEvent.process.inj (Option.some.inj hevent)
      exact undisturbed_of_lines_eq_nil rfl rfl
    · obtain rfl := WindowEvent.process.inj (Option.some.inj hevent)
      exact undisturbed_of_session (hbefore ▸ hmain)
    · rw [List.getElem?_eq_none (Nat.le_add_left 4 n)] at hevent
      cases hevent
  obtain ⟨app, t, h⟩ := connectEvents_run 4 le_rfl
  have hbuttons := buttons_follow_process h hquiet
  exact ⟨app, t, h, hbuttons.1, hbuttons.2.1⟩

/-! ## Exceptions that leave a slot -/

/-- A run that does not go on: an event of it does not. -/
theorem run_eq_error {halt : Halt} : app.run env events = .error halt ↔
    ∃ before event after next t, events = before ++ event :: after ∧
      app.run env before = .ok (next, t) ∧ next.step env event = .error halt := by
  induction events generalizing app with
  | nil =>
    constructor
    · intro h
      cases h
    · rintro ⟨before, event, after, next, t, hevents, -⟩
      exact absurd hevents.symm (by simp)
  | cons first events ih =>
    constructor
    · intro h
      rcases except_bind_eq_error.1 h with hstep | ⟨⟨second, u⟩, hfirst, h⟩
      · exact ⟨[], first, events, app, [], rfl, rfl, hstep⟩
      · rcases except_bind_eq_error.1 h with hrest | ⟨⟨last, v⟩, -, h⟩
        · obtain ⟨before, event, after, next, v, rfl, hrun, hstep⟩ := ih.1 hrest
          refine ⟨first :: before, event, after, next, u ++ v, rfl, ?_, hstep⟩
          exact except_bind_eq_ok.2 ⟨_, hfirst, except_bind_eq_ok.2 ⟨_, hrun, rfl⟩⟩
        · cases h
    · rintro ⟨before, event, after, next, t, hevents, hrun, hstep⟩
      rw [run]
      cases before with
      | nil =>
        obtain ⟨rfl, rfl⟩ := List.cons_eq_cons.1 hevents
        obtain ⟨rfl, rfl⟩ := Prod.mk.inj (Except.ok.inj hrun)
        exact except_bind_eq_error.2 (Or.inl hstep)
      | cons first' before =>
        obtain ⟨rfl, rfl⟩ := List.cons_eq_cons.1 hevents
        obtain ⟨⟨second, u⟩, hfirst, h⟩ := except_bind_eq_ok.1 hrun
        obtain ⟨⟨next', v⟩, hrest, h⟩ := except_bind_eq_ok.1 h
        obtain ⟨rfl, rfl⟩ := Prod.mk.inj (Except.ok.inj h)
        refine except_bind_eq_error.2 (Or.inr ⟨_, hfirst, except_bind_eq_error.2 (Or.inl ?_)⟩)
        exact ih.2 ⟨before, event, after, next', v, rfl, hrest, hstep⟩

/-- A number of the profile is too large for a float. -/
def Overflows (files : GuiFiles) (path : PosixPath) (e : PyError) : Prop :=
  loadConfig files.documents path = .error e ∧
    e = .overflowError "int too large to convert to float"

/-- The document of the profile nests too deeply. -/
def Nests (files : GuiFiles) (path : PosixPath) (e : PyError) : Prop :=
  loadConfig files.documents path = .error e ∧ ∃ message, e = .recursionError message

/-- **Selecting a profile** aborts on a number that is too large and on a document that nests too
deeply. -/
theorem selectProfile_aborts_iff {path : PosixPath} {e : PyError} :
    app.selectProfile files path = .error (.aborted e) ↔
      Overflows files path e ∨ Nests files path e := by
  have hvalue : ∀ e, loadConfig files.documents path = .error e →
      (e.isValueError = false ↔ Overflows files path e ∨ Nests files path e) := by
    intro e hload
    rcases loadConfig_raises files.documents path e hload with ⟨message, rfl⟩ | huncaught
    · refine iff_of_false Bool.noConfusion ?_
      rintro (⟨-, h⟩ | ⟨-, _, h⟩) <;> cases h
    · cases huncaught with
      | overflow hlarge => exact iff_of_true rfl (Or.inl ⟨hload, rfl⟩)
      | recursion message hnests => exact iff_of_true rfl (Or.inr ⟨hload, message, rfl⟩)
  rcases selectProfile_spec app files path with
    ⟨e', hload, -, ⟨hno, habort⟩ | ⟨hyes, hshow⟩⟩ | ⟨shown, w, -, hok, hshow, -⟩
  · rw [habort]
    constructor
    · intro h
      obtain rfl := Halt.aborted.inj (Except.error.inj h)
      exact (hvalue _ hload).1 hno
    · rintro (⟨hload', -⟩ | ⟨hload', -⟩) <;>
        rw [Except.error.inj (hload.symm.trans hload')]
  · rw [hshow]
    refine iff_of_false nofun fun h => ?_
    have hload' : loadConfig files.documents path = .error e := h.elim And.left And.left
    obtain rfl := Except.error.inj (hload.symm.trans hload')
    rw [(hvalue _ hload).2 h] at hyes
    cases hyes
  · rw [hshow]
    exact iff_of_false nofun fun h => hok e (h.elim And.left And.left)

end Application

/-- The event brings an exception that leaves its slot: a profile is selected that is refused with
no `ValueError`, `start` finds a number that is too large, or a line of the log raises. -/
def WindowEvent.Aborts (env : GuiEnvironment) (app : Application) (e : PyError) :
    WindowEvent → Prop
  | .fileChosen files (some path) =>
      Application.Overflows files path e ∨ Application.Nests files path e
  | .connectClicked files => ∃ path, app.window.profilePath = some path ∧
      app.desktop.controller.process = .notRunning ∧ Application.Overflows files path e
  | .process inner => app.desktop.enabled inner = true ∧ FirstFailure.failure (arrivedError? env)
      (inner.arrivals app.desktop.controller.buffer) = some e
  | _ => False

namespace Application

variable {env : GuiEnvironment} {app next : Application} {event : WindowEvent}
  {shown : Option ShownProfile} {t : List GuiEffect}

/-- **An event of the controller** aborts the application when a line of it raises. -/
theorem Consistent.control_aborts_iff (h : Consistent shown app) {inner : GuiEvent}
    {e : PyError} : app.control env inner = .error (.aborted e) ↔
      app.desktop.enabled inner = true ∧ FirstFailure.failure (arrivedError? env)
        (inner.arrivals app.desktop.controller.buffer) = some e := by
  rw [control_eq_aborted]
  constructor
  · rintro ⟨desktop, t, hstep, he⟩
    obtain ⟨henabled, hhandles, -⟩ := Desktop.step_eq_some hstep
    rw [← he]
    exact ⟨henabled, hhandles.takes.1.symm⟩
  · rintro ⟨henabled, he⟩
    obtain ⟨desktop, t, hstep⟩ : ∃ desktop t, Desktop.step env app.desktop inner
        = some (desktop, t) := ⟨_, _, if_pos ⟨h.running, henabled⟩⟩
    obtain ⟨-, hhandles, -⟩ := Desktop.step_eq_some hstep
    exact ⟨desktop, t, hstep, hhandles.takes.1.trans he⟩

/-- An event of an open window that is offered. -/
theorem step_eq_error {e : PyError} : app.step env event = .error (.aborted e) ↔
    app.closed = false ∧ app.offers event = true ∧ app.handle env event = .error (.aborted e) := by
  constructor
  · intro h
    obtain ⟨hopen, hoffers, hhandle⟩ := step_eq (by rw [h]; exact fun h => by cases h)
    exact ⟨hopen, hoffers, hhandle.symm.trans h⟩
  · rintro ⟨hopen, hoffers, hhandle⟩
    refine (if_neg ?_).trans hhandle
    rw [not_or, not_not, Bool.not_eq_true]
    exact ⟨hopen, hoffers⟩

/-- **An event aborts** the application when its exception leaves a slot. -/
theorem Consistent.step_aborts_iff (h : Consistent shown app) {e : PyError} :
    app.step env event = .error (.aborted e) ↔
      app.closed = false ∧ app.offers event = true ∧ event.Aborts env app e := by
  have hstop : ∀ e, app.control env .stop ≠ .error (.aborted e) := by
    intro e habort
    cases (h.control_aborts_iff.1 habort).2
  rw [step_eq_error]
  refine and_congr_right fun _ => and_congr_right fun hoffers => ?_
  cases event with
  | browseClicked => exact iff_of_false nofun id
  | fileChosen files filename =>
    cases filename with
    | none => exact iff_of_false nofun id
    | some path =>
      rw [WindowEvent.Aborts, ← @selectProfile_aborts_iff { app with dialog := false }]
      constructor
      · intro habort
        rcases except_bind_eq_error.1 habort with habort | ⟨_, _, habort⟩
        · exact habort
        · cases habort
      · exact fun habort => except_bind_eq_error.2 (Or.inl habort)
  | connectClicked files =>
    have hbutton : app.window.connectButton = true := (of_decide_eq_true hoffers).1
    obtain ⟨profile, -, -, hpath, hconnect⟩ := @Consistent.connect env _ _ h hbutton files
    constructor
    · intro habort
      have haborted : app.connectEndpoint env files = .error (.aborted e) := habort
      rcases hconnect with ⟨_, _, _, -, hok, -⟩ | ⟨e', -, ⟨hok, -⟩ | ⟨he, hprocess, hload, hraise⟩⟩
      · cases hok.symm.trans haborted
      · cases hok.symm.trans haborted
      · obtain rfl := Halt.aborted.inj (Except.error.inj (hraise.symm.trans haborted))
        exact ⟨profile.path, hpath, hprocess, hload, he⟩
    · rintro ⟨path, hshown, hprocess, hload, he⟩
      obtain rfl := Option.some.inj (hpath.symm.trans hshown)
      have hraised : startError? files profile.path app.desktop.controller = some e := by
        rw [startError?, if_neg (not_not.2 hprocess), loadProfile, hload]
        rfl
      rcases hconnect with ⟨_, _, _, -, -, -, -, -, -, hnone⟩ | ⟨e', hstart, hcases⟩
      · cases hnone.symm.trans hraised
      · obtain rfl := Option.some.inj (hstart.symm.trans hraised)
        rcases hcases with ⟨-, hother⟩ | ⟨-, -, -, habort⟩
        · exact absurd he hother
        · exact habort
  | disconnectClicked => exact iff_of_false (hstop e) id
  | close =>
    refine iff_of_false (fun habort => ?_) id
    rcases except_bind_eq_error.1 habort with habort | ⟨_, _, habort⟩
    · exact hstop e habort
    · cases habort
  | process inner => exact h.control_aborts_iff

variable {files : GuiFiles} {profile : Option PosixPath} {events : List WindowEvent}

/-- **The application aborts** exactly when its option names a profile that `load_config` refuses
with no `ValueError`, or an enabled event of the run aborts it. -/
theorem aborts_iff {e : PyError} : main env files profile events = .error (.aborted e) ↔
    (∃ path, profile = some path ∧ (Overflows files path e ∨ Nests files path e)) ∨
    ∃ before event after app t, events = before ++ event :: after ∧
      main env files profile before = .ok (app, t) ∧ app.closed = false ∧
      app.offers event = true ∧ event.Aborts env app e := by
  have hopened : opened files profile = .error (.aborted e) ↔
      ∃ path, profile = some path ∧ (Overflows files path e ∨ Nests files path e) := by
    cases profile with
    | none => exact iff_of_false nofun fun ⟨_, h, _⟩ => nomatch h
    | some path =>
      refine (@selectProfile_aborts_iff new files path e).trans ⟨fun h => ⟨path, rfl, h⟩, ?_⟩
      rintro ⟨_, hpath, h⟩
      rw [Option.some.inj hpath]
      exact h
  rw [← hopened]
  constructor
  · intro h
    rcases except_bind_eq_error.1 h with h | ⟨first, hfirst, h⟩
    · exact Or.inl h
    · obtain ⟨before, event, after, app, t, hevents, hrun, hstep⟩ := run_eq_error.1 h
      have hmain : main env files profile before = .ok (app, t) :=
        except_bind_eq_ok.2 ⟨first, hfirst, hrun⟩
      exact Or.inr ⟨before, event, after, app, t, hevents, hmain,
        (consistent_of_main hmain).step_aborts_iff.1 hstep⟩
  · rintro (h | ⟨before, event, after, app, t, hevents, hmain, hstep⟩)
    · exact except_bind_eq_error.2 (Or.inl h)
    · have haborts := (consistent_of_main hmain).step_aborts_iff.2 hstep
      obtain ⟨first, hfirst, hrun⟩ := except_bind_eq_ok.1 hmain
      refine except_bind_eq_error.2 (Or.inr ⟨first, hfirst, ?_⟩)
      exact run_eq_error.2 ⟨before, event, after, app, t, hevents, hrun, haborts⟩

end Application

end MatfVpn
