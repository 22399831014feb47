/-
# The log of an endpoint in the graphical client

`StreamHandler` writes the records of the endpoint to standard error, one line each, and the
controller reads them in chunks of any size.

* `eventsReceived_run`, `state_run` : what a run makes of the lines that it brings;
* `log_received` : however the log is cut, the window has been told the records that are
  complete, and it shows the state of the last of them that tells one.
-/
import MatfVpn.GuiLog
import MatfVpn.JsonLog
import MatfVpn.PythonValue

namespace MatfVpn

open Program JsonText

/-! ## Lines of the log -/

/-- The event that a line of the log is. -/
def lineEvent? (env : GuiEnvironment) (line : List Char) : Option JsonObject :=
  if pyStrip line = [] then none
  else
    match env.loads (String.ofList (pyStrip line)) with
    | .ok (.object event) => some event
    | _ => none

/-- The events among the effects. -/
def eventsReceived (t : List GuiEffect) : List JsonObject :=
  t.filterMap fun
    | .eventReceived event => some event
    | _ => none

theorem eventsReceived_append (s t : List GuiEffect) :
    eventsReceived (s ++ t) = eventsReceived s ++ eventsReceived t := List.filterMap_append

namespace EndpointProcess

variable {self : EndpointProcess} {env : GuiEnvironment}

/-- `_set_state` tells no event. -/
theorem setState_received (state : EndpointState) :
    wp (setState state) self fun r _ t => r = .ok () ∧ eventsReceived t = [] := by
  unfold setState
  rw [wp_read_bind]
  split
  · exact ⟨rfl, rfl⟩
  · exact ⟨rfl, rfl⟩

/-- The event of **a line**. -/
theorem consumeLogLine_received (line : List Char) :
    wp (consumeLogLine env line) self fun _ _ t =>
      eventsReceived t = (lineEvent? env line).toList := by
  unfold consumeLogLine lineEvent?
  simp only
  by_cases hempty : pyStrip line = []
  · rw [if_pos hempty, if_pos hempty]
    rfl
  rw [if_neg hempty, if_neg hempty]
  rcases env.loads (String.ofList (pyStrip line)) with error | json
  · cases error <;> rfl
  cases json with
  | object event =>
    have htold : ∀ self : EndpointProcess, wp (do
          emit (.eventReceived event)
          ofExcept (renderEvent env event) : Controller Unit) self fun _ _ t =>
        eventsReceived t = [event] := by
      intro self
      rw [wp_emit_bind, wp_ofExcept]
      rfl
    simp only
    cases eventState? (JsonObject.get event "event" none) with
    | none => exact htold self
    | some state =>
      simp only
      rw [wp_bind]
      refine wp_mono (setState_received state) ?_
      rintro r self' t ⟨rfl, ht⟩
      refine wp_mono (htold self') ?_
      intro r self'' t' ht'
      rw [eventsReceived_append, ht, ht']
      rfl
  | _ => rfl

/-- The events of **the lines of a read**. -/
theorem consumeLines_received (channel : Channel) (lines : List (List Char)) :
    wp (consumeLines env channel lines) self fun _ _ t =>
      eventsReceived t = (consumed env lines).filterMap (lineEvent? env) := by
  induction lines generalizing self with
  | nil => rfl
  | cons line lines ih =>
    have hfrom : wp (consumeFrom env channel line) self fun r _ t =>
        raised? r = lineError? env line ∧ eventsReceived t = (lineEvent? env line).toList := by
      unfold consumeFrom
      rw [wp_emit_bind]
      refine wp_mono (wp_and (consumeLogLine_spec line) (consumeLogLine_received line)) ?_
      rintro r self' t ⟨⟨hr, -⟩, ht⟩
      exact ⟨hr, ht⟩
    have hcons : ∀ more : List (List Char), (line :: more).filterMap (lineEvent? env)
        = (lineEvent? env line).toList ++ more.filterMap (lineEvent? env) := by
      intro more
      rw [List.filterMap_cons]
      cases lineEvent? env line <;> rfl
    unfold consumeLines
    rw [wp_bind, consumed, FirstFailure.taken, hcons]
    refine wp_mono hfrom ?_
    rintro r self' t ⟨hr, ht⟩
    rw [← hr]
    cases r with
    | error e => exact ht.trans (List.append_nil _).symm
    | ok _ =>
      refine wp_mono ih ?_
      intro r self'' t' ht'
      rw [eventsReceived_append, ht, ht']
      rfl

/-- The events of **a read** of standard error. -/
theorem readStandardError_received (bytes : Bytes) :
    wp (readStandardError env bytes) self fun _ _ t =>
      eventsReceived t = (consumed env (self.completed .standardError bytes)).filterMap
        (lineEvent? env) := by
  unfold readStandardError consumeBuffer
  rw [wp_update_bind, wp_read_bind, wp_bind, wp_bind]
  refine wp_mono (consumeLines_received _ _) ?_
  intro r self' t ht
  cases r with
  | error e => exact ht
  | ok _ =>
    show eventsReceived (t ++ [] ++ []) = _
    rw [List.append_nil, List.append_nil]
    exact ht

end EndpointProcess

/-! ## Events -/

/-- The event leaves the process running, and brings no lines but those of the log. -/
def GuiEvent.keepsToLog : GuiEvent → Bool
  | .logLine _ | .read .standardOutput _ | .finished _ | .processError .failedToStart _ => false
  | _ => true

/-- The user asks the endpoint to stop. -/
def GuiEvent.isStop : GuiEvent → Bool
  | .stop => true
  | _ => false

variable {env : GuiEnvironment} {event : GuiEvent} {desktop last : Desktop} {t : List GuiEffect}

theorem GuiEvent.isFinished_of_keepsToLog (h : event.keepsToLog = true) :
    event.isFinished = false := by
  cases event with
  | finished exitCode => cases h
  | _ => rfl

/-- `start` tells no event. -/
theorem EndpointProcess.start_received {self : EndpointProcess} (files : GuiFiles)
    (profile : PosixPath) :
    wp ((GuiEvent.start files profile).handle env) self fun _ _ t => eventsReceived t = [] := by
  show wp (attempt (EndpointProcess.start env files profile) >>= fun _ => pure ()) _ _
  rw [wp_bind, wp_attempt]
  unfold EndpointProcess.start
  rw [wp_read_bind]
  split
  · rfl
  cases loadProfile files profile with
  | error e => rfl
  | ok config =>
    rw [ofExcept_ok, wp_pure_bind, wp_update_bind, wp_bind]
    refine wp_mono (EndpointProcess.setState_received _) ?_
    rintro r self' t ⟨rfl, ht⟩
    show eventsReceived (t ++ ([.processStart _ _] ++ []) ++ []) = []
    rw [eventsReceived_append, eventsReceived_append, ht]
    rfl

/-- `stop` tells no event. -/
theorem EndpointProcess.stop_received {self : EndpointProcess} :
    wp EndpointProcess.stop self fun _ _ t => eventsReceived t = [] := by
  unfold EndpointProcess.stop
  rw [wp_read_bind]
  split
  · rfl
  · rw [wp_update_bind, wp_bind]
    refine wp_mono (EndpointProcess.setState_received _) ?_
    rintro r self' t ⟨rfl, ht⟩
    show eventsReceived (t ++ [.processTerminate, .singleShot 3000]) = []
    rw [eventsReceived_append, ht]
    rfl

/-- **One event** tells the events of the lines that it brings. -/
theorem eventsReceived_step (hevent : event.keepsToLog = true)
    (hstep : Desktop.step env desktop event = some (last, t)) :
    eventsReceived t = (logLines .standardError t).filterMap (lineEvent? env) := by
  obtain ⟨henabled, hhandles, -⟩ := Desktop.step_eq_some hstep
  have ht : t = (event.handle env desktop.controller).trace := by
    rw [Desktop.step, if_pos ⟨Desktop.not_aborted_of_step hstep, henabled⟩] at hstep
    exact (Prod.mk.inj (Option.some.inj hstep)).2.symm
  rw [hhandles.takes.2.1 .standardError, ht]
  cases event with
  | start files profile => exact EndpointProcess.start_received files profile
  | stop => exact EndpointProcess.stop_received
  | read channel bytes =>
    cases channel with
    | standardError =>
      show _ = (linesFrom .standardError (FirstFailure.taken (arrivedError? env)
        (fromChannel .standardError (desktop.controller.completed .standardError bytes)))).filterMap
          (lineEvent? env)
      rw [taken_fromChannel, linesFrom_fromChannel_self]
      exact EndpointProcess.readStandardError_received bytes
    | standardOutput => cases hevent
  | started => rfl
  | processError error errorString =>
    cases error with
    | failedToStart => cases hevent
    | _ => rfl
  | killTimeout timer =>
    rw [← ht]
    generalize last.controller = c' at hhandles
    generalize last.aborted = aborted at hhandles
    cases hhandles <;> rfl
  | _ => cases hevent

/-- **One event** of an endpoint that nobody stops shows the state of the lines that it brings. -/
theorem state_step (hevent : event.keepsToLog = true) (hstop : event.isStop = false)
    (hprocess : desktop.controller.process ≠ .notRunning)
    (hstep : Desktop.step env desktop event = some (last, t)) :
    last.controller.process ≠ .notRunning ∧ last.controller.state
      = (lastState? env (logLines .standardError t)).getD desktop.controller.state := by
  obtain ⟨-, hhandles, -⟩ := Desktop.step_eq_some hstep
  generalize last.controller = c' at hhandles
  generalize last.aborted = aborted at hhandles
  cases hhandles with
  | launched files profile config reports arguments hidle => exact absurd hidle hprocess
  | read channel bytes t hconsumes =>
    cases channel with
    | standardError =>
      rw [hconsumes.logLines_self]
      exact ⟨hprocess, rfl⟩
    | standardOutput => cases hevent
  | started => exact ⟨ProcessState.noConfusion, rfl⟩
  | refused _ _ _ => exact ⟨hprocess, rfl⟩
  | notStopped hidle => exact absurd hidle hprocess
  | processError error errorString herror => exact ⟨hprocess, rfl⟩
  | killed _ _ => exact ⟨hprocess, rfl⟩
  | notKilled _ _ => exact ⟨hprocess, rfl⟩
  | stopped reports _ _ => cases hstop
  | _ => cases hevent

/-! ## Runs -/

/-- **A run** tells the events of the lines that it brings. -/
theorem eventsReceived_run {life : List GuiEvent} (hlife : ∀ e ∈ life, e.keepsToLog = true)
    (h : Desktop.run env desktop life = some (last, t)) :
    eventsReceived t = (logLines .standardError t).filterMap (lineEvent? env) := by
  induction life generalizing desktop t with
  | nil =>
    obtain ⟨rfl, rfl⟩ := Prod.mk.inj (Option.some.inj h)
    rfl
  | cons event life ih =>
    obtain ⟨hevent, hlife⟩ := List.forall_mem_cons.1 hlife
    obtain ⟨next, u, v, hstep, hrun, rfl⟩ := Desktop.run_cons.1 h
    rw [eventsReceived_append, eventsReceived_step hevent hstep, ih hlife hrun, logLines_append,
      List.filterMap_append]

/-- **A run** in which nobody stops the endpoint shows the state of the lines that it brings. -/
theorem state_run {life : List GuiEvent}
    (hlife : ∀ e ∈ life, e.keepsToLog = true ∧ e.isStop = false)
    (hprocess : desktop.controller.process ≠ .notRunning)
    (h : Desktop.run env desktop life = some (last, t)) :
    last.controller.state
      = (lastState? env (logLines .standardError t)).getD desktop.controller.state := by
  induction life generalizing desktop t with
  | nil =>
    obtain ⟨rfl, rfl⟩ := Prod.mk.inj (Option.some.inj h)
    rfl
  | cons event life ih =>
    obtain ⟨⟨hevent, hstop⟩, hlife⟩ := List.forall_mem_cons.1 hlife
    obtain ⟨next, u, v, hstep, hrun, rfl⟩ := Desktop.run_cons.1 h
    obtain ⟨hnext, hstate⟩ := state_step hevent hstop hprocess hstep
    rw [ih hlife hnext hrun, hstate, logLines_append, lastState?_append]
    cases lastState? env (logLines .standardError v) <;> rfl

/-! ## A log that is read -/

/-- White space around a text is stripped, where there is any. -/
theorem pyStrip_of_ends {first last : Char} (hfirst : isUnicodeSpace first = false)
    (hlast : isUnicodeSpace last = false) (inner : List Char) :
    pyStrip (first :: (inner ++ [last])) = first :: (inner ++ [last]) := by
  rw [pyStrip, List.dropWhile_cons_of_neg (by rw [hfirst]; exact Bool.false_ne_true),
    ← List.cons_append, List.reverse_append, List.reverse_singleton, List.singleton_append,
    List.dropWhile_cons_of_neg (by rw [hlast]; exact Bool.false_ne_true), List.reverse_cons,
    List.reverse_reverse]

/-- The process can write whenever it runs, and no line of the log raises. -/
theorem exists_reads (hraises : ∀ line, lineError? env line = none)
    (hrunning : desktop.aborted = none) (hprocess : desktop.controller.process = .running)
    (pieces : List Bytes) :
    ∃ last t, Desktop.run env desktop (pieces.map (.read .standardError)) = some (last, t) := by
  induction pieces generalizing desktop with
  | nil => exact ⟨desktop, [], rfl⟩
  | cons piece pieces ih =>
    have henabled : desktop.enabled (.read .standardError piece) = true := decide_eq_true hprocess
    obtain ⟨next, u, hstep⟩ : ∃ next u, Desktop.step env desktop (.read .standardError piece)
        = some (next, u) := ⟨_, _, if_pos ⟨hrunning, henabled⟩⟩
    obtain ⟨-, hhandles, -⟩ := Desktop.step_eq_some hstep
    have hnext : next.aborted = none := by
      rw [hhandles.takes.1, FirstFailure.failure_eq_none_iff]
      exact fun line _ => hraises line.2
    obtain ⟨last, v, hrun⟩ := ih hnext (running_of_step hstep rfl hprocess)
    exact ⟨last, u ++ v, Desktop.run_cons.2 ⟨next, u, v, hstep, hrun, rfl⟩⟩

/-- A process that writes these pieces to standard error. -/
def reading (pieces : List Bytes) : List GuiEvent :=
  .started :: pieces.map (.read .standardError)

theorem chunks_reading (pieces : List Bytes) : chunks .standardError (reading pieces) = pieces := by
  rw [chunks, reading, List.filterMap_cons_none rfl, List.filterMap_map]
  exact List.filterMap_some

theorem keepsToLog_reading (pieces : List Bytes) :
    ∀ e ∈ reading pieces, e.keepsToLog = true ∧ e.isStop = false := by
  refine List.forall_mem_cons.2 ⟨⟨rfl, rfl⟩, fun e he => ?_⟩
  obtain ⟨piece, -, rfl⟩ := List.mem_map.1 he
  exact ⟨rfl, rfl⟩

/-- **A run with these reads**: the user starts the endpoint, and its log comes in pieces. -/
theorem exists_reading {idle : Desktop} {files : GuiFiles} {profile : PosixPath}
    {config : LoadedConfig} (hraises : ∀ line, lineError? env line = none)
    (hrunning : idle.aborted = none) (hprocess : idle.controller.process = .notRunning)
    (hload : loadProfile files profile = .ok config) (pieces : List Bytes) :
    ∃ desktop t, Desktop.run env idle
      (.start files profile :: reading pieces) = some (desktop, t) := by
  obtain ⟨hresult, hcontroller, -⟩ := EndpointProcess.start_launches hprocess hload
  obtain ⟨next, hstep, hnext, hgoes⟩ : ∃ next, Desktop.step env idle (.start files profile)
      = some (next, ((GuiEvent.start files profile).handle env idle.controller).trace) ∧
        next.controller = idle.controller.launched ∧ next.aborted = none :=
    ⟨_, if_pos ⟨hrunning, rfl⟩, hcontroller, congrArg raised? hresult⟩
  have henabled : next.enabled .started = true := by
    rw [Desktop.enabled, hnext]
    rfl
  obtain ⟨running, hstarted, hprocess', hgoes'⟩ : ∃ running, Desktop.step env next .started
      = some (running, []) ∧ running.controller.process = .running ∧ running.aborted = none :=
    ⟨_, if_pos ⟨hgoes, henabled⟩, rfl, rfl⟩
  obtain ⟨last, t, hrun⟩ := exists_reads hraises hgoes' hprocess' pieces
  exact ⟨last, _, Desktop.run_cons.2 ⟨next, _, _, hstep,
    Desktop.run_cons.2 ⟨running, [], t, hstarted, hrun, rfl⟩, rfl⟩⟩

/-- What `StreamHandler` writes for lines. -/
def encodeLines (lines : List (List Char)) : Except PyError Bytes :=
  encodeAscii (String.ofList (lines.flatMap (· ++ ['\n'])))

/-- The lines in ASCII. -/
theorem encodeLines_eq_ok {lines : List (List Char)} {bytes : Bytes}
    (h : encodeLines lines = .ok bytes) : (∀ b ∈ bytes, b < 0x80) ∧
      bytes.map (fun b => Char.ofNat b.toNat) = lines.flatMap (· ++ ['\n']) := by
  rw [encodeLines, encodeAscii, String.toList_ofList] at h
  split at h
  · rename_i hascii
    have htext := List.all_eq_true.1 hascii
    rw [← Except.ok.inj h]
    have hbyte : ∀ c ∈ lines.flatMap (· ++ ['\n']), (UInt8.ofNat c.toNat).toNat = c.toNat := by
      intro c hc
      have hlt : c.toNat < 128 := of_decide_eq_true (htext c hc)
      rw [UInt8.toNat_ofNat']
      omega
    constructor
    · intro b hb
      obtain ⟨c, hc, rfl⟩ := List.mem_map.1 hb
      show (UInt8.ofNat c.toNat).toNat < 128
      rw [hbyte c hc]
      exact of_decide_eq_true (htext c hc)
    · rw [List.map_map]
      refine (List.map_congr_left fun c hc => ?_).trans (List.map_id _)
      show Char.ofNat (UInt8.ofNat c.toNat).toNat = c
      rw [hbyte c hc, Char.ofNat_toNat]
  · cases h

/-- **Pieces of the lines**, decoded one by one, have the first of them. -/
theorem whole_pieces {lines : List (List Char)} {bytes : Bytes}
    (h : encodeLines lines = .ok bytes) (hnewline : ∀ line ∈ lines, '\n' ∉ line)
    {pieces : List Bytes} (hread : pieces.flatten <+: bytes) :
    LineReader.whole '\n' (pieces.flatMap Utf8.decodeReplace)
        = lines.take (pieces.flatten.count 10) ∧
      (pieces.flatten = bytes → pieces.flatten.count 10 = lines.length) := by
  obtain ⟨hascii, hbytes⟩ := encodeLines_eq_ok h
  obtain ⟨more, hmore⟩ := hread
  have hdecoded : pieces.flatMap Utf8.decodeReplace
      = pieces.flatten.map fun b => Char.ofNat b.toNat := by
    rw [List.flatMap_def, List.map_flatten]
    congr 1
    refine List.map_congr_left fun piece hpiece => Utf8.decodeReplace_ascii fun b hb => ?_
    exact hascii b (hmore ▸ List.mem_append_left _ (List.mem_flatten_of_mem hpiece hb))
  have hflatten : pieces.flatMap Utf8.decodeReplace ++ more.map (fun b => Char.ofNat b.toNat)
      = lines.flatMap (· ++ ['\n']) := by
    rw [hdecoded, ← List.map_append, hmore, hbytes]
  obtain ⟨htake, hall⟩ := LineReader.whole_of_append_eq hnewline hflatten
  have hcount : (LineReader.whole '\n' (pieces.flatMap Utf8.decodeReplace)).length
      = pieces.flatten.count 10 := by
    rw [← LineReader.count_eq_length_whole, List.count_flatMap, List.count_flatten]
    congr 1
    exact List.map_congr_left fun piece _ => Utf8.count_newline_decodeReplace piece
  rw [hcount] at htake
  refine ⟨htake, fun hpieces => ?_⟩
  have hnil : more = [] := by
    rw [hpieces] at hmore
    exact List.append_right_eq_self.1 hmore
  rw [hnil] at hall
  rw [← hcount, hall rfl]

/-- All lines come from standard error. -/
theorem arrivals_of_keepsToLog {life : List GuiEvent} (hlife : ∀ e ∈ life, e.keepsToLog = true)
    (buffers : Channel → List Char) : arrivals buffers life
      = fromChannel .standardError (linesFrom .standardError (arrivals buffers life)) := by
  induction life generalizing buffers with
  | nil => rfl
  | cons event life ih =>
    obtain ⟨hevent, hlife⟩ := List.forall_mem_cons.1 hlife
    have hfirst : event.arrivals buffers
        = fromChannel .standardError (linesFrom .standardError (event.arrivals buffers)) := by
      cases event with
      | read channel bytes =>
        cases channel with
        | standardError =>
          rw [GuiEvent.arrivals, linesFrom_fromChannel_self]
        | standardOutput => cases hevent
      | logLine line => cases hevent
      | finished exitCode => cases hevent
      | _ => rfl
    rw [arrivals, linesFrom_append]
    exact congrArg₂ (· ++ ·) hfirst (ih hlife _) |>.trans (List.map_append).symm

/-- The lines that the window has been sent since it started the endpoint. -/
theorem logLines_started {before life : List GuiEvent} {files : GuiFiles} {profile : PosixPath}
    {idle : Desktop} {u : List GuiEffect} {lines : List (List Char)}
    (hidle : Desktop.run env .new before = some (idle, u))
    (hprocess : idle.controller.process = .notRunning)
    (hlife : ∀ e ∈ life, e.keepsToLog = true)
    (hlines : LineReader.whole '\n' ((chunks .standardError life).flatMap Utf8.decodeReplace)
      = lines) (hraises : linesError? env lines = none)
    (h : Desktop.run env idle (.start files profile :: life) = some (desktop, t)) :
    logLines .standardError t = lines := by
  obtain ⟨_, _, _, hstep, -⟩ := Desktop.run_cons.1 h
  have hrunning := Desktop.not_aborted_of_step hstep
  have hempty : idle.controller.buffer = fun _ => [] := by
    funext channel
    refine buffer_eq_nil_of_run hidle hrunning ?_ channel
    rw [hprocess]
    exact ProcessState.noConfusion
  have hlog : ∀ e ∈ .start files profile :: life, e.keepsToLog = true :=
    List.forall_mem_cons.2 ⟨rfl, hlife⟩
  have hfeed := linesFrom_arrivals .standardError
    (fun e he => GuiEvent.isFinished_of_keepsToLog (hlog e he)) idle.controller.buffer
  rw [hempty, LineReader.feed_eq List.not_mem_nil, List.nil_append, ← List.flatMap_def] at hfeed
  have harrived := (Prod.mk.inj hfeed).1.trans hlines
  rw [(logLines_run hrunning h).2, hempty, arrivals_of_keepsToLog hlog, harrived,
    taken_fromChannel, linesFrom_fromChannel_self]
  exact FirstFailure.taken_of_failure_eq_none hraises

/-- **The window** after a start: the events of the lines that it has been sent and, unless the
user stops the endpoint, their state. -/
theorem started_run {before life : List GuiEvent} {files : GuiFiles} {profile : PosixPath}
    {config : LoadedConfig} {idle : Desktop} {u : List GuiEffect} {lines : List (List Char)}
    (hidle : Desktop.run env .new before = some (idle, u))
    (hprocess : idle.controller.process = .notRunning)
    (hload : loadProfile files profile = .ok config)
    (hlife : ∀ e ∈ life, e.keepsToLog = true)
    (hlines : LineReader.whole '\n' ((chunks .standardError life).flatMap Utf8.decodeReplace)
      = lines) (hraises : linesError? env lines = none)
    (h : Desktop.run env idle (.start files profile :: life) = some (desktop, t)) :
    eventsReceived t = lines.filterMap (lineEvent? env) ∧
      ((∀ e ∈ life, e.isStop = false) →
        desktop.controller.state = (lastState? env lines).getD .connecting) := by
  have hsent := logLines_started hidle hprocess hlife hlines hraises h
  rw [eventsReceived_run (List.forall_mem_cons.2 ⟨rfl, hlife⟩) h, hsent]
  refine ⟨rfl, fun hstop => ?_⟩
  obtain ⟨next, v, w, hstep, hrun, rfl⟩ := Desktop.run_cons.1 h
  obtain ⟨-, hhandles, -⟩ := Desktop.step_eq_some hstep
  have hv : logLines .standardError v = [] := hhandles.takes.2.1 .standardError
  obtain ⟨hnext, hshown⟩ : next.controller.process ≠ .notRunning ∧
      next.controller.state = .connecting := by
    generalize next.controller = c' at hhandles
    generalize next.aborted = aborted at hhandles
    cases hhandles with
    | refused _ _ hrefused =>
      rcases hrefused with hrefused | ⟨e, he⟩
      · exact absurd hprocess hrefused
      · rw [hload] at he
        cases he
    | launched => exact ⟨ProcessState.noConfusion, rfl⟩
  rw [logLines_append, hv, List.nil_append] at hsent
  rw [state_run (fun e he => ⟨hlife e he, hstop e he⟩) hnext hrun, hshown, hsent]

/-- `json.loads` does with the line what the decoder does, and the window can show its event: the
line is not too long or too deep for either. -/
structure WithinLimits (env : GuiEnvironment) (line : List Char) : Prop where
  loads : ∀ json, jsonLoads (String.ofList line) = some json →
    env.loads (String.ofList line) = .ok json
  refuses : jsonLoads (String.ofList line) = none →
    ∃ message, env.loads (String.ofList line) = .error (.caught message)
  shown : ∀ event, jsonLoads (String.ofList line) = some (.object event) →
    renderEvent env event = .ok ()

/-- Within the limits no line raises. -/
theorem lineError?_of_withinLimits {line : List Char} (h : WithinLimits env (pyStrip line)) :
    lineError? env line = none := by
  rw [lineError?]
  split
  · rfl
  cases hjson : jsonLoads (String.ofList (pyStrip line)) with
  | none =>
    obtain ⟨message, hloads⟩ := h.refuses hjson
    rw [hloads]
  | some json =>
    rw [h.loads json hjson]
    cases json with
    | object event => exact congrArg raised? (h.shown event hjson)
    | _ => rfl

namespace LogRecord

/-- The state of the window that the record tells. -/
def state? (record : LogRecord) : Option EndpointState :=
  EndpointProcess.eventState? ((record.payload.get? "event").getD .null)

/-- What a text means tells the same state. -/
theorem eventState?_reread (repr : FloatRepr) (value : Json) :
    EndpointProcess.eventState? (value.reread repr) = EndpointProcess.eventState? value := by
  cases value with
  | float x =>
    obtain ⟨y, hy⟩ := repr.numeral_means x
    rw [Json.reread, hy]
    rfl
  | _ => rfl

variable {repr : FloatRepr} {record : LogRecord} {line : List Char}

/-- **A line of the log** is the event of its record, and tells the state of the record. -/
theorem line_spec (hlimits : WithinLimits env line) (h : record.format repr = .ok line) :
    lineEvent? env line = some (record.event repr) ∧ lineState? env line = record.state? ∧
      lineError? env line = none := by
  obtain ⟨-, hread, hfields⟩ := format_spec h
  have hloads := hlimits.loads _ hread
  have hshown := hlimits.shown _ hread
  obtain ⟨inner, rfl⟩ := exists_format_eq h
  have hstate : EndpointProcess.eventState? (JsonObject.get (record.event repr) "event" none)
      = record.state? := by
    rw [JsonObject.get, hfields, state?, Option.or_none]
    cases record.payload.get? "event" with
    | none => rfl
    | some value => exact eventState?_reread repr value
  rw [lineEvent?, lineState?, lineError?, pyStrip_of_ends (by decide) (by decide),
    if_neg (List.cons_ne_nil _ _), if_neg (List.cons_ne_nil _ _), if_neg (List.cons_ne_nil _ _),
    hloads]
  exact ⟨rfl, hstate, congrArg raised? hshown⟩

/-- The state that the last of the records tells that tells one. -/
def lastState? (records : List LogRecord) : Option EndpointState :=
  (records.filterMap state?).getLast?

/-- **The lines of the log**, as events and as a state; none of them raises. -/
theorem lines_spec {records : List LogRecord} {lines : List (List Char)}
    (hlimits : ∀ line ∈ lines, WithinLimits env line)
    (h : List.Forall₂ (fun record line => record.format repr = .ok line) records lines) :
    lines.filterMap (lineEvent? env) = records.map (LogRecord.event repr) ∧
      MatfVpn.lastState? env lines = lastState? records ∧ linesError? env lines = none := by
  rw [MatfVpn.lastState?, lastState?]
  suffices h : lines.filterMap (lineEvent? env) = records.map (LogRecord.event repr) ∧
      lines.filterMap (lineState? env) = records.filterMap state? ∧
      ∀ line ∈ lines, lineError? env line = none from
    ⟨h.1, by rw [h.2.1], FirstFailure.failure_eq_none_iff.2 h.2.2⟩
  induction h with
  | nil => exact ⟨rfl, rfl, List.forall_mem_nil _⟩
  | cons hline _ ih =>
    obtain ⟨hfirst, hlimits⟩ := List.forall_mem_cons.1 hlimits
    obtain ⟨hevents, hstates, herrors⟩ := ih hlimits
    obtain ⟨hevent, hstate, herror⟩ := line_spec hfirst hline
    rw [List.filterMap_cons_some hevent, hevents, List.filterMap_cons, List.filterMap_cons, hstate,
      hstates]
    exact ⟨rfl, rfl, List.forall_mem_cons.2 ⟨herror, herrors⟩⟩

/-- What `StreamHandler` writes for the records. -/
def stream (repr : FloatRepr) (records : List LogRecord) : Except PyError Bytes := do
  let lines ← records.mapM (format repr)
  encodeLines lines

/-- Lines of records have no control characters. -/
theorem isPrintable_of_lines {records : List LogRecord} {lines : List (List Char)}
    (h : List.Forall₂ (fun record line => record.format repr = .ok line) records lines) :
    ∀ line ∈ lines, ∀ c ∈ line, IsPrintable c := by
  induction h with
  | nil => exact List.forall_mem_nil _
  | cons hformat _ ih => exact List.forall_mem_cons.2 ⟨(format_spec hformat).1, ih⟩

/-- The stream is the lines of the records. -/
theorem stream_eq_ok {records : List LogRecord} {bytes : Bytes}
    (h : stream repr records = .ok bytes) : ∃ lines : List (List Char),
      List.Forall₂ (fun record line => record.format repr = .ok line) records lines ∧
      (∀ line ∈ lines, '\n' ∉ line) ∧ encodeLines lines = .ok bytes := by
  obtain ⟨lines, hlines, hencode⟩ := except_bind_eq_ok.1 h
  have hforall := mapM_eq_ok_iff.1 hlines
  refine ⟨lines, hforall, fun line hline hnewline => ?_, hencode⟩
  exact absurd (isPrintable_of_lines hforall line hline _ hnewline) (by decide)

/-- **The stream of records** whose integers are not too long. -/
theorem exists_stream (repr : FloatRepr) {records : List LogRecord}
    (h : ∀ record ∈ records,
      (Json.object record.payload.entries).integers.all fitsDigits = true) :
    ∃ bytes, stream repr records = .ok bytes := by
  obtain ⟨lines, hlines⟩ : ∃ lines, records.mapM (format repr) = .ok lines := by
    refine ⟨records.map fun record => encode ((Json.object record.payload.entries).toTree repr), ?_⟩
    rw [mapM_eq_ok_iff, List.forall₂_map_right_iff, List.forall₂_same]
    exact fun record hrecord => if_pos (h record hrecord)
  have hascii : ∀ c ∈ lines.flatMap (· ++ ['\n']), c.toNat < 128 := by
    intro c hc
    obtain ⟨line, hline, hc⟩ := List.mem_flatMap.1 hc
    rcases List.mem_append.1 hc with hc | hc
    · exact Nat.lt_of_le_of_lt
        (isPrintable_of_lines (mapM_eq_ok_iff.1 hlines) line hline c hc).2 (by decide)
    · rw [List.mem_singleton.1 hc]
      decide
  rw [stream, hlines]
  refine ⟨_, if_pos (List.all_eq_true.2 fun c hc => decide_eq_true (hascii c ?_))⟩
  rwa [String.toList_ofList] at hc

/-- The records whose lines are complete in the pieces of the stream. -/
def complete (records : List LogRecord) (pieces : List Bytes) : List LogRecord :=
  records.take (pieces.flatten.count 10)

end LogRecord

/-- **A log that is read.**  The user starts the endpoint, whose log is the stream of the
records; the chunks are cut anywhere in it, and while the endpoint runs and writes nothing else the
user, the timers and `QProcess` do what they want in between.  The window has then been told the
records whose lines are complete, as `json.loads` returns them; unless the user stops the
endpoint, it shows the state of the last of these records that tells one. -/
theorem log_received (repr : FloatRepr) (records : List LogRecord) (bytes : Bytes)
    (env : GuiEnvironment) (before life : List GuiEvent) (files : GuiFiles) (profile : PosixPath)
    (config : LoadedConfig) (idle desktop : Desktop) (u t : List GuiEffect)
    (hstream : LogRecord.stream repr records = .ok bytes)
    (hlimits : ∀ record ∈ records, ∀ line, record.format repr = .ok line → WithinLimits env line)
    (hidle : Desktop.run env .new before = some (idle, u))
    (hprocess : idle.controller.process = .notRunning)
    (hload : loadProfile files profile = .ok config)
    (hlife : ∀ e ∈ life, e.keepsToLog = true)
    (hread : (chunks .standardError life).flatten <+: bytes)
    (h : Desktop.run env idle (.start files profile :: life) = some (desktop, t)) :
    eventsReceived t
        = (LogRecord.complete records (chunks .standardError life)).map (LogRecord.event repr) ∧
      ((∀ e ∈ life, e.isStop = false) → desktop.controller.state
        = (LogRecord.lastState? (LogRecord.complete records
            (chunks .standardError life))).getD .connecting) ∧
      ((chunks .standardError life).flatten = bytes →
        LogRecord.complete records (chunks .standardError life) = records) := by
  obtain ⟨lines, hlines, hnewline, hencode⟩ := LogRecord.stream_eq_ok hstream
  obtain ⟨hwhole, hall⟩ := whole_pieces hencode hnewline hread
  have hlimits' : ∀ line ∈ lines.take ((chunks .standardError life).flatten.count 10),
      WithinLimits env line := by
    intro line hline
    obtain ⟨record, hrecord, hformat⟩ :=
      exists_of_mem_forall₂ hlines.flip (List.mem_of_mem_take hline)
    exact hlimits record hrecord line hformat
  obtain ⟨hevents, hstate, herror⟩ := LogRecord.lines_spec hlimits' (List.forall₂_take
    ((chunks .standardError life).flatten.count 10) hlines)
  obtain ⟨hreceived, hshown⟩ := started_run hidle hprocess hload hlife hwhole herror h
  refine ⟨hreceived.trans hevents, fun hstop => ?_, fun hpieces => ?_⟩
  · rw [hshown hstop, hstate]
    rfl
  · rw [LogRecord.complete, hall hpieces, ← hlines.length_eq, List.take_length]

/-! ## A log in two chunks -/

/-- Every float is written in the same way. -/
def plainRepr : FloatRepr := ⟨fun _ => ⟨"1.0".toList, by decide, by decide⟩, fun _ => ⟨_, rfl⟩⟩

/-- The record of a session. -/
def sessionRecord : LogRecord where
  created := "2026-01-01T00:00:00+00:00"
  levelname := "INFO"
  name := "matf_vpn"
  message := "VPN session established"
  extra := OrderedDict.empty.insert "event" (.string "session_established")
  extra_new := by decide
  exception := none

/-- A desktop that reads logs. -/
def readingEnvironment : GuiEnvironment := { plainEnvironment with
  loads := fun text =>
    match jsonLoads text with
    | some json => .ok json
    | none => .error (.caught "Expecting value") }

theorem withinLimits_readingEnvironment (line : List Char) :
    WithinLimits readingEnvironment line := by
  have hrender : ∀ event, renderEvent readingEnvironment event = .ok () := by
    intro event
    have hstr : ∀ value, ∃ text, pyStr readingEnvironment value = .ok text := by
      intro value
      cases value <;> exact ⟨_, rfl⟩
    rw [renderEvent]
    obtain ⟨timestamp, htimestamp⟩ := hstr (event.get "timestamp" (some (.string "")))
    obtain ⟨message, hmessage⟩ :=
      hstr (event.get "message" (some (event.get "event" (some (.string "event")))))
    rw [htimestamp, hmessage]
    rfl
  refine ⟨fun json hjson => ?_, fun hnone => ⟨"Expecting value", ?_⟩, fun event _ => hrender event⟩
  · simp only [readingEnvironment, hjson]
  · simp only [readingEnvironment, hnone]

/-- The window shows that the session is established, and has been told so. -/
theorem log_received_sample : ∃ bytes desktop t,
    LogRecord.stream plainRepr [sessionRecord] = .ok bytes ∧
      Desktop.run readingEnvironment .new (.start plainFiles (.ofText "client.json".toList) ::
        reading [bytes.take 20, bytes.drop 20]) = some (desktop, t) ∧
      eventsReceived t = [sessionRecord.event plainRepr] ∧
      desktop.controller.state = .connected := by
  obtain ⟨bytes, hstream⟩ := @LogRecord.exists_stream plainRepr [sessionRecord] (by decide +kernel)
  have hload : (loadProfile plainFiles (.ofText "client.json".toList)).toOption.isSome := by
    decide +kernel
  obtain ⟨desktop, t, hrun⟩ := @exists_reading readingEnvironment .new _ _ _
    (fun line => lineError?_of_withinLimits (withinLimits_readingEnvironment _)) rfl rfl
    (eq_ok_get hload) [bytes.take 20, bytes.drop 20]
  have hbytes : (chunks .standardError (reading [bytes.take 20, bytes.drop 20])).flatten
      = bytes := by
    rw [chunks_reading]
    show bytes.take 20 ++ (bytes.drop 20 ++ []) = bytes
    rw [List.append_nil, List.take_append_drop]
  obtain ⟨hevents, hstate, hall⟩ := log_received plainRepr [sessionRecord] bytes
    readingEnvironment [] _ _ _ _ .new desktop [] t hstream
    (fun _ _ line _ => withinLimits_readingEnvironment line) rfl rfl (eq_ok_get hload)
    (fun e he => (keepsToLog_reading _ e he).1) (by rw [hbytes]) hrun
  rw [hall hbytes] at hevents hstate
  refine ⟨bytes, desktop, t, hstream, hrun, hevents, ?_⟩
  exact (hstate fun e he => (keepsToLog_reading _ e he).2).trans (by decide +kernel)

end MatfVpn
