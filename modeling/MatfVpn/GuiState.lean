/-
# The state that the window shows

The buttons of the window depend on `EndpointProcess.state`, which user actions, lines of the
log and the signals of the process all change.

* `good_step_iff` : an event keeps the state in step with the process exactly when no line of
  the log disturbs it;
* `state_follows_process_iff` : the same for runs.
-/
import MatfVpn.GuiLifecycle

namespace MatfVpn

/-! ## The state and the process -/

/-- The state tells that no process runs exactly when none does. -/
def EndpointProcess.Follows (c : EndpointProcess) : Prop :=
  (c.state = .disconnected ∨ c.state = .error) ↔ c.process = .notRunning

/-- The event reports that the process is gone. -/
def GuiEvent.isExit : GuiEvent → Bool
  | .finished _ | .processError .failedToStart _ => true
  | _ => false

/-- After every event the state follows the process, and after a `stop` it stays `stopping`
until the process is gone. -/
def StateFollowsProcess (env : GuiEnvironment) (events : List GuiEvent) : Prop :=
  ∀ before after desktop t, events = before ++ after →
    Desktop.run env .new before = some (desktop, t) →
    desktop.controller.Follows ∧
    ∀ earlier during stopped u, before = earlier ++ .stop :: during →
      Desktop.run env .new earlier = some (stopped, u) →
      stopped.controller.process ≠ .notRunning → (∀ e ∈ during, e.isExit = false) →
      desktop.controller.state = .stopping

/-- The lines of the log that the event brings while the process runs. -/
def GuiEvent.lines (c : EndpointProcess) : GuiEvent → List (List Char)
  | .logLine line => [line]
  | .read channel bytes => c.completed channel bytes
  | _ => []

/-- The process agrees with a line that stands for the state. -/
def EndpointProcess.Allows (c : EndpointProcess) (state : EndpointState) : Prop :=
  if c.process = .notRunning then state = .disconnected
  else c.stopping = false ∧ state ≠ .disconnected

/-- The lines of the event leave the state in step with the process.  At the exit of the process
its state replaces that of the lines that waited, unless one of them raises. -/
def Undisturbed (env : GuiEnvironment) (c : EndpointProcess) : GuiEvent → Prop
  | .finished _ => (linesError? env c.leftOvers).isSome →
      lastState? env (consumed env c.leftOvers) = some .disconnected
  | event => ∀ state, lastState? env (consumed env (event.lines c)) = some state → c.Allows state

variable {env : GuiEnvironment} {c c' : EndpointProcess} {event : GuiEvent}
  {t : List GuiEffect}

/-! ## One event -/

/-- The state follows the process, and is `stopping` after a `stop`. -/
def EndpointProcess.Good (c : EndpointProcess) : Prop :=
  c.Follows ∧ (c.process ≠ .notRunning → c.stopping = true → c.state = .stopping)

theorem EndpointProcess.good_iff_of_notRunning (h : c.process = .notRunning) :
    c.Good ↔ c.state = .disconnected ∨ c.state = .error := by
  constructor
  · exact fun hgood => hgood.1.2 h
  · intro hstate
    exact ⟨⟨fun _ => h, fun _ => hstate⟩, fun hne => absurd h hne⟩

theorem EndpointProcess.good_iff_of_running (h : c.process ≠ .notRunning) :
    c.Good ↔ (c.state ≠ .disconnected ∧ c.state ≠ .error) ∧
      (c.stopping = true → c.state = .stopping) := by
  rw [← not_or]
  constructor
  · exact fun hgood => ⟨fun hstate => h (hgood.1.1 hstate), hgood.2 h⟩
  · intro hstate
    exact ⟨⟨fun hout => absurd hout hstate.1, fun hdead => absurd hdead h⟩, fun _ => hstate.2⟩

/-- The states that lines stand for. -/
theorem eventState?_eq_some {json : Json} {state : EndpointState}
    (h : EndpointProcess.eventState? json = some state) :
    state = .connected ∨ state = .reconnecting ∨ state = .disconnected := by
  unfold EndpointProcess.eventState? at h
  split at h
  · split_ifs at h <;> cases h <;> simp
  · cases h

theorem lineState?_eq_some {line : List Char} {state : EndpointState}
    (h : lineState? env line = some state) :
    state = .connected ∨ state = .reconnecting ∨ state = .disconnected := by
  unfold lineState? at h
  split at h
  · cases h
  · split at h
    · exact eventState?_eq_some h
    · cases h

theorem lastState?_eq_some {lines : List (List Char)} {state : EndpointState}
    (h : lastState? env lines = some state) :
    state = .connected ∨ state = .reconnecting ∨ state = .disconnected := by
  obtain ⟨line, -, hline⟩ := List.mem_filterMap.1 (List.mem_of_getLast? h)
  exact lineState?_eq_some hline

/-- **A line that stands for a state**: the process agrees, or the state is out of step. -/
theorem EndpointProcess.good_told_some_iff {state : EndpointState}
    (h : state = .connected ∨ state = .reconnecting ∨ state = .disconnected) :
    (c.told (some state)).Good ↔ c.Allows state := by
  unfold Allows
  by_cases hprocess : c.process = .notRunning
  · rw [if_pos hprocess, @good_iff_of_notRunning (c.told (some state)) hprocess]
    show state = .disconnected ∨ state = .error ↔ state = .disconnected
    rcases h with rfl | rfl | rfl <;> simp
  · rw [if_neg hprocess, @good_iff_of_running (c.told (some state)) hprocess]
    show (state ≠ .disconnected ∧ state ≠ .error) ∧ (c.stopping = true → state = .stopping) ↔ _
    rcases h with rfl | rfl | rfl <;> simp

/-- **Lines of the log.** -/
theorem EndpointProcess.good_told_iff (h : c.Good) (lines : List (List Char)) :
    (c.told (lastState? env lines)).Good ↔
      ∀ state, lastState? env lines = some state → c.Allows state := by
  cases hlast : lastState? env lines with
  | none =>
    refine ⟨fun _ state hstate => ?_, fun _ => h⟩
    cases hstate
  | some state =>
    rw [good_told_some_iff (lastState?_eq_some hlast)]
    exact ⟨fun hallows _ hstate => Option.some.inj hstate ▸ hallows, fun hall => hall state rfl⟩

theorem EndpointProcess.good_launched (c : EndpointProcess) : c.launched.Good := by
  have hprocess : c.launched.process ≠ .notRunning := ProcessState.noConfusion
  rw [good_iff_of_running hprocess]
  exact ⟨⟨EndpointState.noConfusion, EndpointState.noConfusion⟩, Bool.noConfusion⟩

theorem EndpointProcess.good_stopped (h : c.process ≠ .notRunning) : c.stopped.Good := by
  rw [@good_iff_of_running c.stopped h]
  exact ⟨⟨EndpointState.noConfusion, EndpointState.noConfusion⟩, fun _ => rfl⟩

theorem EndpointProcess.finalState_idle (c : EndpointProcess) (exitCode : ℤ) :
    c.finalState exitCode = .disconnected ∨ c.finalState exitCode = .error := by
  unfold finalState
  split
  · exact Or.inl rfl
  · exact Or.inr rfl

/-- An event without lines disturbs nothing. -/
theorem undisturbed_of_lines_eq_nil (h : event.lines c = []) (hevent : event.isExit = false) :
    Undisturbed env c event := by
  have hstate : ∀ state, lastState? env (consumed env (event.lines c)) = some state →
      c.Allows state := by
    intro state hstate
    rw [h] at hstate
    cases hstate
  cases event with
  | finished exitCode => cases hevent
  | _ => exact hstate

/-- A process that did not start has written nothing. -/
theorem undisturbed_failedToStart (errorString : String) :
    Undisturbed env c (.processError .failedToStart errorString) := fun _ h => nomatch h

/-- **The exit of a process**: the state is out of step if a line that waited raises, but for
`endpoint_stopped`. -/
theorem EndpointProcess.good_exits_iff {exitCode : ℤ} {aborted : Option PyError} (h : c.Good)
    (hrunning : c.process ≠ .notRunning) (hexits : Exits env c exitCode c' aborted) :
    c'.Good ↔ Undisturbed env c (.finished exitCode) := by
  rw [good_iff_of_notRunning hexits.process, hexits.state, hexits.aborted_eq, Undisturbed]
  cases linesError? env c.leftOvers with
  | none => exact iff_of_true (c.finalState_idle exitCode) nofun
  | some e =>
    show (c.told _).state = _ ∨ (c.told _).state = _ ↔ (true = true → _)
    rw [forall_prop_of_true rfl]
    cases hlast : lastState? env (consumed env c.leftOvers) with
    | none =>
      refine iff_of_false (fun hstate => hrunning (h.1.1 hstate)) nofun
    | some state =>
      show state = .disconnected ∨ state = .error ↔ _
      rcases lastState?_eq_some hlast with rfl | rfl | rfl <;> simp

/-- **One event** keeps the state in step with the process exactly when its lines do not disturb
it. -/
theorem good_step_iff {desktop last : Desktop} (h : desktop.controller.Good)
    (hstep : Desktop.step env desktop event = some (last, t)) :
    last.controller.Good ↔ Undisturbed env desktop.controller event := by
  obtain ⟨henabled, hhandles, -⟩ := Desktop.step_eq_some hstep
  generalize last.controller = c' at hhandles
  generalize last.aborted = aborted at hhandles
  have hquiet : event.lines desktop.controller = [] → event.isExit = false → c'.Good →
      (c'.Good ↔ Undisturbed env desktop.controller event) := fun hlines hexit hgood =>
    iff_of_true hgood (undisturbed_of_lines_eq_nil hlines hexit)
  cases hhandles with
  | refused files profile hrefused => exact hquiet rfl rfl h
  | launched files profile config reports arguments hprocess hload hreports =>
    exact hquiet rfl rfl desktop.controller.good_launched
  | notStopped hprocess => exact hquiet rfl rfl h
  | stopped reports hprocess hreports =>
    exact hquiet rfl rfl (EndpointProcess.good_stopped hprocess)
  | logLine line t hreports =>
    rw [← lastState?_singleton, ← @FirstFailure.taken_singleton _ _ (lineError? env) line]
    exact EndpointProcess.good_told_iff h (consumed env [line])
  | started =>
    have hprocess : desktop.controller.process ≠ .notRunning := by
      rw [of_decide_eq_true henabled]
      decide
    rw [EndpointProcess.good_iff_of_running hprocess] at h
    exact hquiet rfl rfl ((EndpointProcess.good_iff_of_running ProcessState.noConfusion).2 h)
  | read channel bytes t hconsumes =>
    refine Iff.trans ?_ (EndpointProcess.good_told_iff h
      (consumed env (desktop.controller.completed channel bytes)))
    cases channel <;> exact Iff.rfl
  | failedToStart text t hreports =>
    exact iff_of_true ((EndpointProcess.good_iff_of_notRunning rfl).2 (Or.inr rfl))
      (undisturbed_failedToStart text)
  | processError error text herror =>
    refine hquiet rfl ?_ h
    cases error <;> first | rfl | exact absurd rfl herror
  | finished exitCode c' t aborted hexits hleaves hlines =>
    refine EndpointProcess.good_exits_iff h ?_ hexits
    rw [of_decide_eq_true henabled]
    exact ProcessState.noConfusion
  | killed timer hprocess => exact hquiet rfl rfl h
  | notKilled timer hprocess => exact hquiet rfl rfl h

/-! ## After a stop -/

/-- A `stop` was called with a process running that is not gone yet. -/
def StoppedSince (env : GuiEnvironment) (events : List GuiEvent) : Prop :=
  ∃ earlier during stopped u, events = earlier ++ .stop :: during ∧
    Desktop.run env .new earlier = some (stopped, u) ∧
    stopped.controller.process ≠ .notRunning ∧ ∀ e ∈ during, e.isExit = false

theorem stoppedSince_concat_iff {events : List GuiEvent} {desktop : Desktop}
    (h : Desktop.run env .new events = some (desktop, t)) :
    StoppedSince env (events ++ [event]) ↔ event.isExit = false ∧
      (StoppedSince env events ∨ event = .stop ∧ desktop.controller.process ≠ .notRunning) := by
  constructor
  · rintro ⟨earlier, during, stopped, u, hevents, hrun, hprocess, hduring⟩
    rcases List.eq_nil_or_concat' during with rfl | ⟨during, last, rfl⟩
    · obtain ⟨rfl, hstop⟩ := List.append_inj' hevents rfl
      obtain rfl := List.singleton_inj.1 hstop
      rw [hrun] at h
      rw [← (Prod.mk.inj (Option.some.inj h)).1]
      exact ⟨rfl, Or.inr ⟨rfl, hprocess⟩⟩
    · rw [← List.cons_append, ← List.append_assoc] at hevents
      obtain ⟨rfl, hlast⟩ := List.append_inj' hevents rfl
      obtain ⟨hduring, hexit⟩ := List.forall_mem_append.1 hduring
      rw [List.singleton_inj.1 hlast]
      exact ⟨hexit _ (List.mem_singleton_self _),
        Or.inl ⟨earlier, during, stopped, u, rfl, hrun, hprocess, hduring⟩⟩
  · rintro ⟨hexit, ⟨earlier, during, stopped, u, rfl, hrun, hprocess, hduring⟩ |
      ⟨rfl, hprocess⟩⟩
    · refine ⟨earlier, during ++ [event], stopped, u, by simp, hrun, hprocess, ?_⟩
      exact List.forall_mem_append.2 ⟨hduring, List.forall_mem_singleton.2 hexit⟩
    · exact ⟨events, [], desktop, t, rfl, h, hprocess, List.forall_mem_nil _⟩

/-- A process runs that was asked to stop. -/
def EndpointProcess.Stopping (c : EndpointProcess) : Prop :=
  c.process ≠ .notRunning ∧ c.stopping = true

theorem stopping_step_iff {desktop last : Desktop}
    (hstep : Desktop.step env desktop event = some (last, t)) :
    last.controller.Stopping ↔ event.isExit = false ∧
      (desktop.controller.Stopping ∨
        event = .stop ∧ desktop.controller.process ≠ .notRunning) := by
  obtain ⟨henabled, hhandles, -⟩ := Desktop.step_eq_some hstep
  generalize last.controller = c' at hhandles
  generalize last.aborted = aborted at hhandles
  -- most events neither stop the process nor end it
  have hsame : event.isExit = false → event ≠ .stop →
      (c'.Stopping ↔ desktop.controller.Stopping) →
      (c'.Stopping ↔ event.isExit = false ∧ (desktop.controller.Stopping ∨
        event = .stop ∧ desktop.controller.process ≠ .notRunning)) := by
    intro hexit hstop hiff
    rw [hiff]
    exact ⟨fun h => ⟨hexit, Or.inl h⟩, fun h => h.2.resolve_right fun hr => hstop hr.1⟩
  cases hhandles with
  | refused files profile hrefused => exact hsame rfl GuiEvent.noConfusion Iff.rfl
  | launched files profile config reports arguments hprocess hload hreports =>
    refine hsame rfl GuiEvent.noConfusion (iff_of_false ?_ fun h => h.1 hprocess)
    exact fun h => Bool.noConfusion h.2
  | notStopped hprocess =>
    refine iff_of_false (fun h => h.1 hprocess) ?_
    rintro ⟨-, h | h⟩
    · exact h.1 hprocess
    · exact h.2 hprocess
  | stopped reports hprocess hreports =>
    exact iff_of_true ⟨hprocess, rfl⟩ ⟨rfl, Or.inr ⟨rfl, hprocess⟩⟩
  | logLine line t hreports => exact hsame rfl GuiEvent.noConfusion Iff.rfl
  | started =>
    have hprocess : desktop.controller.process ≠ .notRunning := by
      rw [of_decide_eq_true henabled]
      decide
    refine hsame rfl GuiEvent.noConfusion ⟨fun h => ⟨hprocess, h.2⟩, fun h => ⟨?_, h.2⟩⟩
    exact ProcessState.noConfusion
  | read channel bytes t hconsumes =>
    refine hsame rfl GuiEvent.noConfusion ?_
    cases channel <;> exact Iff.rfl
  | failedToStart text t hreports =>
    exact iff_of_false (fun h => h.1 rfl) fun h => Bool.noConfusion h.1
  | processError error text herror =>
    refine hsame ?_ GuiEvent.noConfusion Iff.rfl
    cases error <;> first | rfl | exact absurd rfl herror
  | finished exitCode c' t aborted hexits hleaves hlines =>
    exact iff_of_false (fun h => h.1 hexits.process) fun h => Bool.noConfusion h.1
  | killed timer hprocess => exact hsame rfl GuiEvent.noConfusion Iff.rfl
  | notKilled timer hprocess => exact hsame rfl GuiEvent.noConfusion Iff.rfl

/-- **The flag of `stop`**, while a process runs. -/
theorem stopping_iff {events : List GuiEvent} {desktop : Desktop}
    (h : Desktop.run env .new events = some (desktop, t)) :
    desktop.controller.Stopping ↔ StoppedSince env events := by
  induction events using List.reverseRecOn generalizing desktop t with
  | nil =>
    obtain ⟨rfl, rfl⟩ := Prod.mk.inj (Option.some.inj h)
    refine iff_of_false (fun hstopping => hstopping.1 rfl) ?_
    rintro ⟨earlier, during, stopped, u, hevents, -⟩
    exact absurd hevents (by simp)
  | append_singleton events event ih =>
    obtain ⟨next, u, v, hrun, hstep, rfl⟩ := Desktop.run_concat.1 h
    rw [stopping_step_iff hstep, ih hrun, stoppedSince_concat_iff hrun]

/-! ## Runs -/

/-- The state after the events of a run, from the controller alone. -/
theorem good_iff_of_run {events : List GuiEvent} {desktop : Desktop}
    (h : Desktop.run env .new events = some (desktop, t)) :
    desktop.controller.Good ↔ desktop.controller.Follows ∧
      ∀ earlier during stopped u, events = earlier ++ .stop :: during →
        Desktop.run env .new earlier = some (stopped, u) →
        stopped.controller.process ≠ .notRunning → (∀ e ∈ during, e.isExit = false) →
        desktop.controller.state = .stopping := by
  refine and_congr_right fun _ => ?_
  rw [← and_imp]
  show (desktop.controller.Stopping → _) ↔ _
  rw [stopping_iff h]
  constructor
  · intro hstate earlier during stopped u hevents hrun hprocess hduring
    exact hstate ⟨earlier, during, stopped, u, hevents, hrun, hprocess, hduring⟩
  · rintro hstate ⟨earlier, during, stopped, u, hevents, hrun, hprocess, hduring⟩
    exact hstate earlier during stopped u hevents hrun hprocess hduring

/-- **The state follows the process** over a whole run exactly when no line of the log disturbs
it. -/
theorem state_follows_process_iff (env : GuiEnvironment) (events : List GuiEvent)
    (h : (Desktop.run env .new events).isSome = true) :
    StateFollowsProcess env events ↔
      ∀ before event after desktop t, events = before ++ event :: after →
        Desktop.run env .new before = some (desktop, t) →
        Undisturbed env desktop.controller event := by
  have hgood : StateFollowsProcess env events ↔ ∀ before after desktop t,
      events = before ++ after → Desktop.run env .new before = some (desktop, t) →
      desktop.controller.Good := by
    unfold StateFollowsProcess
    constructor
    · intro hall before after desktop t hevents hrun
      exact (good_iff_of_run hrun).2 (hall before after desktop t hevents hrun)
    · intro hall before after desktop t hevents hrun
      exact (good_iff_of_run hrun).1 (hall before after desktop t hevents hrun)
  obtain ⟨⟨last, t⟩, hlast⟩ := Option.isSome_iff_exists.1 h
  rw [hgood]
  clear hgood h
  constructor
  · rintro hall before event after desktop u rfl hrun
    rw [← List.singleton_append, ← List.append_assoc, Desktop.run_append] at hlast
    obtain ⟨next, v, w, hnext, -, -⟩ := hlast
    obtain ⟨desktop', u', v', hrun', hstep, -⟩ := Desktop.run_concat.1 hnext
    rw [hrun] at hrun'
    obtain ⟨rfl, rfl⟩ := Prod.mk.inj (Option.some.inj hrun')
    rw [← good_step_iff (hall before (event :: after) desktop u rfl hrun) hstep]
    exact hall (before ++ [event]) after next v (by simp) hnext
  · intro hall before
    induction before using List.reverseRecOn with
    | nil =>
      intro after desktop u _ hrun
      obtain ⟨rfl, rfl⟩ := Prod.mk.inj (Option.some.inj hrun)
      exact (EndpointProcess.good_iff_of_notRunning rfl).2 (Or.inl rfl)
    | append_singleton before event ih =>
      intro after desktop u hevents hrun
      obtain ⟨next, v, w, hbefore, hstep, rfl⟩ := Desktop.run_concat.1 hrun
      rw [List.append_assoc, List.singleton_append] at hevents
      have hnext := ih (event :: after) next v hevents hbefore
      exact (good_step_iff hnext hstep).2 (hall before event after next v hevents hbefore)

/-! ## A state out of step -/

/-- The line of the log with this event. -/
def eventLine (event : String) : String := "\x7b\"event\": \"" ++ event ++ "\"\x7d"

/-- A desktop that reads two of these lines. -/
def loggingEnvironment : GuiEnvironment := { plainEnvironment with
  loads := fun text =>
    if text = eventLine "endpoint_stopped" then
      .ok (.object [("event", .string "endpoint_stopped")])
    else if text = eventLine "session_established" then
      .ok (.object [("event", .string "session_established")])
    else .error (.caught "Expecting value") }

/-- The bytes of the line, with or without the end of the line. -/
def lineBytes (line : String) (newline : Bool) : Bytes :=
  (line.toList ++ if newline then ['\n'] else []).map fun c => UInt8.ofNat c.toNat

/-- The endpoint starts and writes its last line, before its process ends. -/
def endpointStoppedEvents : List GuiEvent :=
  [.start plainFiles (.ofText "client.json".toList), .started,
    .read .standardError (lineBytes (eventLine "endpoint_stopped") true)]

/-- The state is `disconnected` with a process running, which `start` refuses. -/
theorem state_follows_process_not : ¬ ∀ (env : GuiEnvironment) (events : List GuiEvent),
    (Desktop.run env .new events).isSome = true → StateFollowsProcess env events := by
  intro h
  have hstates : (Desktop.run loggingEnvironment .new endpointStoppedEvents).map
      (fun r => (r.1.controller.state, r.1.controller.process))
        = some (.disconnected, .running) := by
    decide +kernel
  obtain ⟨⟨desktop, t⟩, hrun, hstate⟩ := Option.map_eq_some_iff.1 hstates
  obtain ⟨hdisconnected, hrunning⟩ := Prod.mk.inj hstate
  have hall := h loggingEnvironment endpointStoppedEvents (Option.isSome_iff_exists.2 ⟨_, hrun⟩)
  obtain ⟨hfollows, -⟩ := hall endpointStoppedEvents [] desktop t (List.append_nil _).symm hrun
  have hdead := hfollows.1 (Or.inl hdisconnected)
  exact absurd (hrunning.symm.trans hdead) (by decide)

/-- The endpoint sets up a session, the user stops it, and its last line waits when it exits. -/
def sessionEvents : List GuiEvent :=
  [.start plainFiles (.ofText "client.json".toList), .started,
    .read .standardError (lineBytes (eventLine "session_established") true), .stop,
    .read .standardError (lineBytes (eventLine "endpoint_stopped") false), .finished 0]

/-- The state in this run. -/
theorem state_follows_process_sample :
    StateFollowsProcess loggingEnvironment sessionEvents ↔
      ∀ before event after desktop t, sessionEvents = before ++ event :: after →
        Desktop.run loggingEnvironment .new before = some (desktop, t) →
        Undisturbed loggingEnvironment desktop.controller event :=
  state_follows_process_iff loggingEnvironment sessionEvents (by decide +kernel)

end MatfVpn
