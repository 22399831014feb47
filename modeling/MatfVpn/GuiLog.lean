/-
# The lines of the log

The controller decodes every chunk of output by itself and joins the texts.

* `logLines_run` : the lines of a run are those of the decoded chunks;
* `log_lines_iff` : they are those of the whole output, decoded at once, exactly when no chunk
  ends inside of a character.
-/
import MatfVpn.GuiLifecycle

namespace MatfVpn

/-! ## Chunks -/

/-- The bytes that the event reads from the channel. -/
def GuiEvent.chunk? (channel : Channel) : GuiEvent → Option Bytes
  | .read c bytes => if c = channel then some bytes else none
  | _ => none

/-- The chunks that are read from the channel. -/
def chunks (channel : Channel) (events : List GuiEvent) : List Bytes :=
  events.filterMap (GuiEvent.chunk? channel)

variable {env : GuiEnvironment} {c c' : EndpointProcess} {event : GuiEvent}
  {t : List GuiEffect}

/-! ## Lines that arrive -/

/-- A line of the log, with the channel that it comes from, if any. -/
abbrev ArrivedLine := Option Channel × List Char

/-- The lines from the channel. -/
def linesFrom (channel : Channel) (lines : List ArrivedLine) : List (List Char) :=
  lines.filterMap fun line => if line.1 = some channel then some line.2 else none

/-- The lines with their channel. -/
def fromChannel (channel : Channel) (lines : List (List Char)) : List ArrivedLine :=
  lines.map (Prod.mk (some channel))

/-- The line that a buffer holds, if any. -/
def waiting (buffer : List Char) : List (List Char) := if buffer = [] then [] else [buffer]

namespace GuiEvent

/-- The lines that the event brings to a controller with these buffers. -/
def arrivals (buffers : Channel → List Char) : GuiEvent → List ArrivedLine
  | .logLine line => [(none, line)]
  | .read channel bytes => fromChannel channel
      (LineReader.whole '\n' (buffers channel ++ Utf8.decodeReplace bytes))
  | .finished _ => fromChannel .standardError (waiting (buffers .standardError)) ++
      fromChannel .standardOutput (waiting (buffers .standardOutput))
  | _ => []

/-- The buffers after the event. -/
def buffers (buffers : Channel → List Char) : GuiEvent → Channel → List Char
  | .read channel bytes => Function.update buffers channel
      (LineReader.rest '\n' (buffers channel ++ Utf8.decodeReplace bytes))
  | .finished _ => fun _ => []
  | _ => buffers

/-- The event ends the life of the process. -/
def isFinished : GuiEvent → Bool
  | .finished _ => true
  | _ => false

end GuiEvent

/-- The lines that the events bring. -/
def arrivals (buffers : Channel → List Char) : List GuiEvent → List ArrivedLine
  | [] => []
  | event :: events => event.arrivals buffers ++ arrivals (event.buffers buffers) events

/-- The exception that the line raises. -/
def arrivedError? (env : GuiEnvironment) (line : ArrivedLine) : Option PyError :=
  lineError? env line.2

theorem linesFrom_append (channel : Channel) (lines more : List ArrivedLine) :
    linesFrom channel (lines ++ more) = linesFrom channel lines ++ linesFrom channel more :=
  List.filterMap_append

theorem linesFrom_fromChannel_self (channel : Channel) (lines : List (List Char)) :
    linesFrom channel (fromChannel channel lines) = lines := by
  rw [linesFrom, fromChannel, List.filterMap_map]
  refine (List.filterMap_congr fun line _ => ?_).trans List.filterMap_some
  exact if_pos rfl

theorem linesFrom_fromChannel_of_ne {channel other : Channel} (h : channel ≠ other)
    (lines : List (List Char)) : linesFrom channel (fromChannel other lines) = [] := by
  rw [linesFrom, fromChannel, List.filterMap_map, List.filterMap_eq_nil_iff]
  intro line _
  exact if_neg fun heq => h (Option.some.inj heq).symm

theorem taken_fromChannel (channel : Channel) (lines : List (List Char)) :
    FirstFailure.taken (arrivedError? env) (fromChannel channel lines)
      = fromChannel channel (consumed env lines) := FirstFailure.taken_map _ _

theorem failure_fromChannel (channel : Channel) (lines : List (List Char)) :
    FirstFailure.failure (arrivedError? env) (fromChannel channel lines)
      = linesError? env lines := FirstFailure.failure_map _ _

/-! ## One event -/

theorem EndpointProcess.buffer_told (c : EndpointProcess) (state : Option EndpointState)
    (channel : Channel) : (c.told state).buffer channel = c.buffer channel := by
  cases channel <;> rfl

/-- The text of one channel is replaced. -/
theorem EndpointProcess.buffer_withBuffer (c : EndpointProcess) (text : List Char)
    (channel : Channel) :
    (c.withBuffer text channel).buffer = Function.update c.buffer channel text := by
  funext other
  cases channel <;> cases other <;> rfl

/-- **An event** takes the lines that it brings until one raises, which ends the application, and
keeps what has no end of a line. -/
theorem Handles.takes {aborted : Option PyError} (h : Handles env c event c' t aborted) :
    aborted = FirstFailure.failure (arrivedError? env) (event.arrivals c.buffer) ∧
    (∀ channel, logLines channel t = linesFrom channel
      (FirstFailure.taken (arrivedError? env) (event.arrivals c.buffer))) ∧
    (aborted = none → c'.buffer = event.buffers c.buffer) := by
  have hquiet : ∀ {c' : EndpointProcess} {t : List GuiEffect}, c'.buffer = c.buffer →
      (∀ channel, logLines channel t = []) →
      (none : Option PyError) = FirstFailure.failure (arrivedError? env) [] ∧
      (∀ channel, logLines channel t = linesFrom channel
        (FirstFailure.taken (arrivedError? env) [])) ∧
      ((none : Option PyError) = none → c'.buffer = c.buffer) :=
    fun hbuffer hlines => ⟨rfl, hlines, fun _ => hbuffer⟩
  have hsame : ∀ {c' : EndpointProcess}, c'.stderrBuffer = c.stderrBuffer →
      c'.stdoutBuffer = c.stdoutBuffer → c'.buffer = c.buffer := by
    intro c' herr hout
    funext channel
    cases channel
    · exact herr
    · exact hout
  cases h with
  | launched files profile config reports arguments hprocess hload hreports =>
    refine hquiet (hsame rfl rfl) fun channel => ?_
    rw [logLines_append, hreports.logLines_eq_nil]
    rfl
  | stopped reports hprocess hreports =>
    refine hquiet (hsame rfl rfl) fun channel => ?_
    rw [logLines_append, hreports.logLines_eq_nil]
    rfl
  | logLine line t hreports =>
    refine ⟨FirstFailure.failure_singleton.symm, fun channel => ?_, fun _ => hsame rfl rfl⟩
    rw [hreports.logLines_eq_nil]
    show [] = linesFrom channel (FirstFailure.taken (arrivedError? env) [(none, line)])
    rw [FirstFailure.taken_singleton]
    rfl
  | failedToStart text t hreports =>
    exact hquiet (hsame rfl rfl) hreports.logLines_eq_nil
  | read channel bytes t hconsumes =>
    have hcompleted : GuiEvent.arrivals c.buffer (.read channel bytes)
        = fromChannel channel (c.completed channel bytes) := rfl
    rw [hcompleted, failure_fromChannel, taken_fromChannel]
    refine ⟨rfl, fun other => ?_, fun hnone => ?_⟩
    · by_cases hother : other = channel
      · rw [hother, linesFrom_fromChannel_self, hconsumes.logLines_self]
      · rw [linesFrom_fromChannel_of_ne hother, hconsumes.logLines_other other hother]
    · rw [EndpointProcess.afterRead, hnone, EndpointProcess.buffer_withBuffer]
      show Function.update (c.told _).buffer channel _ = Function.update c.buffer channel _
      rw [funext (c.buffer_told _)]
      rfl
  | finished exitCode c' t aborted hexits hleaves hlines =>
    have hleft : GuiEvent.arrivals c.buffer (.finished exitCode)
        = fromChannel .standardError (c.leftOver .standardError) ++
          fromChannel .standardOutput (c.leftOver .standardOutput) := rfl
    rw [hleft, FirstFailure.failure_append, FirstFailure.taken_append, failure_fromChannel,
      failure_fromChannel, taken_fromChannel, taken_fromChannel]
    refine ⟨hexits.aborted_eq.trans EndpointProcess.linesError?_leftOvers, fun channel => ?_,
      fun hnone => ?_⟩
    · rw [hlines, linesFrom_append, consumed, consumed, EndpointProcess.taken_leftOver,
        EndpointProcess.taken_leftOver]
      cases channel with
      | standardError =>
        rw [linesFrom_fromChannel_self, if_neg fun h => by cases h.1]
        split
        · exact (List.append_nil _).symm
        · rw [linesFrom_fromChannel_of_ne (by decide), List.append_nil]
      | standardOutput =>
        rw [linesFrom_fromChannel_of_ne (by decide), List.nil_append]
        by_cases hraised : (linesError? env (c.leftOver .standardError)).isSome = true
        · rw [if_pos ⟨rfl, hraised⟩, if_pos hraised]
          rfl
        · rw [if_neg fun h => hraised h.2, if_neg hraised, linesFrom_fromChannel_self]
    · obtain ⟨herr, hout⟩ := hexits.buffers hnone
      funext channel
      cases channel
      · exact herr
      · exact hout
  | _ => exact hquiet (hsame rfl rfl) fun channel => rfl

/-! ## Runs -/

/-- **The lines of a run** are those that arrive, up to the first that raises. -/
theorem logLines_run {events : List GuiEvent} {desktop last : Desktop}
    (hrunning : desktop.aborted = none) (h : Desktop.run env desktop events = some (last, t)) :
    last.aborted = FirstFailure.failure (arrivedError? env)
        (arrivals desktop.controller.buffer events) ∧
      ∀ channel, logLines channel t = linesFrom channel (FirstFailure.taken (arrivedError? env)
        (arrivals desktop.controller.buffer events)) := by
  induction events generalizing desktop t with
  | nil =>
    obtain ⟨rfl, rfl⟩ := Prod.mk.inj (Option.some.inj h)
    exact ⟨hrunning, fun _ => rfl⟩
  | cons event events ih =>
    obtain ⟨next, u, v, hstep, hrun, rfl⟩ := Desktop.run_cons.1 h
    obtain ⟨-, hhandles, -⟩ := Desktop.step_eq_some hstep
    obtain ⟨haborted, hlines, hbuffer⟩ := hhandles.takes
    rw [arrivals, FirstFailure.failure_append, FirstFailure.taken_append, ← haborted]
    cases hnext : next.aborted with
    | some e =>
      -- the application has ended, so this was the last event
      cases events with
      | nil =>
        obtain ⟨rfl, rfl⟩ := Prod.mk.inj (Option.some.inj hrun)
        refine ⟨hnext, fun channel => ?_⟩
        rw [logLines_append, hlines, linesFrom_append]
        rfl
      | cons event' events =>
        obtain ⟨_, _, _, hstep', -⟩ := Desktop.run_cons.1 hrun
        rw [Desktop.not_aborted_of_step hstep'] at hnext
        cases hnext
    | none =>
      obtain ⟨hlast, hmore⟩ := ih hnext hrun
      rw [hbuffer hnext] at hlast hmore
      refine ⟨hlast, fun channel => ?_⟩
      rw [logLines_append, hlines, hmore, linesFrom_append]
      rfl

/-- Only the exit ends a process that runs. -/
theorem running_of_step {desktop last : Desktop}
    (hstep : Desktop.step env desktop event = some (last, t)) (hevent : event.isFinished = false)
    (h : desktop.controller.process = .running) : last.controller.process = .running := by
  obtain ⟨henabled, hhandles, -⟩ := Desktop.step_eq_some hstep
  generalize last.controller = c' at hhandles
  generalize last.aborted = aborted at hhandles
  cases hhandles with
  | launched files profile config reports arguments hprocess hload hreports =>
    rw [h] at hprocess
    cases hprocess
  | read channel bytes t hconsumes => cases channel <;> exact h
  | started => rfl
  | failedToStart text t hreports =>
    have hstarting := of_decide_eq_true henabled
    rw [h] at hstarting
    cases hstarting
  | finished exitCode c' t aborted hexits hleaves hlines => cases hevent
  | _ => exact h

/-- Nothing waits while no process runs. -/
theorem buffer_eq_nil_of_run {events : List GuiEvent} {desktop : Desktop}
    (h : Desktop.run env .new events = some (desktop, t)) (hrunning : desktop.aborted = none)
    (hprocess : desktop.controller.process ≠ .running) (channel : Channel) :
    desktop.controller.buffer channel = [] := by
  induction events using List.reverseRecOn generalizing desktop t with
  | nil =>
    obtain ⟨rfl, rfl⟩ := Prod.mk.inj (Option.some.inj h)
    cases channel <;> rfl
  | append_singleton events event ih =>
    obtain ⟨next, u, v, hrun, hstep, rfl⟩ := Desktop.run_concat.1 h
    obtain ⟨henabled, hhandles, -⟩ := Desktop.step_eq_some hstep
    rw [hhandles.takes.2.2 hrunning]
    by_cases hevent : event.isFinished = true
    · cases event with
      | finished exitCode => rfl
      | _ => cases hevent
    rw [Bool.not_eq_true] at hevent
    have hnext : next.controller.process ≠ .running := fun hnext =>
      hprocess (running_of_step hstep hevent hnext)
    cases event with
    | read channel' bytes =>
      -- output comes only from a process that runs
      exact absurd (of_decide_eq_true henabled) hnext
    | finished exitCode => cases hevent
    | _ => exact ih hrun (Desktop.not_aborted_of_step hstep) hnext

/-- The buffers after the events. -/
def buffersAfter (buffers : Channel → List Char) (events : List GuiEvent) : Channel → List Char :=
  events.foldl (fun buffers event => event.buffers buffers) buffers

theorem arrivals_append (buffers : Channel → List Char) (events more : List GuiEvent) :
    arrivals buffers (events ++ more)
      = arrivals buffers events ++ arrivals (buffersAfter buffers events) more := by
  induction events generalizing buffers with
  | nil => rfl
  | cons event events ih =>
    rw [List.cons_append, arrivals, arrivals, ih, List.append_assoc]
    rfl

/-- **What arrives from a channel** before the exit is what a line reader gets from the decoded
chunks. -/
theorem linesFrom_arrivals (channel : Channel) {life : List GuiEvent}
    (hlife : ∀ e ∈ life, e.isFinished = false) (buffers : Channel → List Char) :
    (linesFrom channel (arrivals buffers life), buffersAfter buffers life channel)
      = LineReader.feed '\n' (buffers channel)
          ((chunks channel life).map Utf8.decodeReplace) := by
  induction life generalizing buffers with
  | nil => rfl
  | cons event life ih =>
    obtain ⟨hevent, hlife⟩ := List.forall_mem_cons.1 hlife
    have hmore := ih hlife (event.buffers buffers)
    rw [arrivals, linesFrom_append]
    show (_, buffersAfter (event.buffers buffers) life channel) = _
    cases event with
    | read channel' bytes =>
      by_cases hchannel : channel' = channel
      · rw [hchannel] at hmore ⊢
        have hbuffer : GuiEvent.buffers buffers (.read channel bytes) channel
            = LineReader.rest '\n' (buffers channel ++ Utf8.decodeReplace bytes) :=
          Function.update_self _ _ _
        have hchunks : chunks channel (.read channel bytes :: life)
            = bytes :: chunks channel life := List.filterMap_cons_some (if_pos rfl)
        rw [hbuffer] at hmore
        rw [hchunks, List.map_cons, LineReader.feed, ← hmore]
        show (linesFrom channel (fromChannel channel _) ++ _, _) = _
        rw [linesFrom_fromChannel_self]
      · have hbuffer : GuiEvent.buffers buffers (.read channel' bytes) channel
            = buffers channel := Function.update_of_ne (Ne.symm hchannel) _ _
        have hchunks : chunks channel (.read channel' bytes :: life)
            = chunks channel life := List.filterMap_cons_none (if_neg hchannel)
        rw [hbuffer] at hmore
        rw [hchunks, ← hmore]
        show (linesFrom channel (fromChannel channel' _) ++ _, _) = _
        rw [linesFrom_fromChannel_of_ne (Ne.symm hchannel), List.nil_append]
    | finished exitCode => cases hevent
    | _ => exact hmore

/-- **What arrives from a channel** until the exit are the lines of the decoded chunks. -/
theorem linesFrom_life (channel : Channel) {life : List GuiEvent}
    (hlife : ∀ e ∈ life, e.isFinished = false) (exitCode : ℤ) :
    linesFrom channel (arrivals (fun _ => []) (life ++ [.finished exitCode]))
      = LineReader.linesOf '\n' ((chunks channel life).flatMap Utf8.decodeReplace) := by
  have hfeed := linesFrom_arrivals channel hlife fun _ => []
  rw [LineReader.feed_eq List.not_mem_nil, List.nil_append, ← List.flatMap_def] at hfeed
  obtain ⟨hlines, hbuffer⟩ := Prod.mk.inj hfeed
  rw [arrivals_append, linesFrom_append, hlines, LineReader.linesOf, ← hbuffer]
  congr 1
  show linesFrom channel ((fromChannel .standardError _ ++ fromChannel .standardOutput _) ++ []) = _
  rw [List.append_nil, linesFrom_append]
  cases channel with
  | standardError =>
    rw [linesFrom_fromChannel_self, linesFrom_fromChannel_of_ne (by decide), List.append_nil]
    rfl
  | standardOutput =>
    rw [linesFrom_fromChannel_self, linesFrom_fromChannel_of_ne (by decide), List.nil_append]
    rfl

/-- The lines of the decoded chunks are those of the whole output, decoded at once, exactly when
every chunk consists of whole units of UTF-8; there are equally many of them in any case. -/
theorem linesOf_decoded (parts : List Bytes) :
    (LineReader.linesOf '\n' (parts.flatMap Utf8.decodeReplace)
        = LineReader.linesOf '\n' (Utf8.decodeReplace parts.flatten) ↔ Utf8.WholeUnits parts) ∧
      (LineReader.linesOf '\n' (parts.flatMap Utf8.decodeReplace)).length
        = (LineReader.linesOf '\n' (Utf8.decodeReplace parts.flatten)).length := by
  have hcount : (parts.flatMap Utf8.decodeReplace).count '\n'
      = (Utf8.decodeReplace parts.flatten).count '\n' := by
    rw [List.count_flatMap, Utf8.count_newline_decodeReplace, List.count_flatten]
    congr 1
    apply List.map_congr_left
    intro bytes _
    exact Utf8.count_newline_decodeReplace bytes
  obtain ⟨hnil, hlast⟩ := Utf8.getLast?_flatMap_decodeReplace parts
  constructor
  · rw [← Utf8.decodeReplace_flatten_iff]
    exact ⟨LineReader.linesOf_inj hcount, congrArg _⟩
  · apply LineReader.length_linesOf_eq hcount
    · rw [hnil, Utf8.decodeReplace_eq_nil_iff]
    · rw [hlast, Utf8.getLast?_decodeReplace]

/-- No line of the channel comes after a line that raises. -/
def Uninterrupted (env : GuiEnvironment) (channel : Channel) (lines : List ArrivedLine) : Prop :=
  ∀ before line after, lines = before ++ line :: after →
    (lineError? env line.2).isSome = true → ∀ later ∈ after, later.1 ≠ some channel

theorem linesFrom_taken_iff (channel : Channel) (lines : List ArrivedLine) :
    linesFrom channel (FirstFailure.taken (arrivedError? env) lines) = linesFrom channel lines ↔
      Uninterrupted env channel lines := by
  rw [linesFrom, linesFrom, FirstFailure.filterMap_taken_iff]
  have hselect : ∀ later : ArrivedLine,
      (if later.1 = some channel then some later.2 else none) = none ↔
        later.1 ≠ some channel := by
    intro later
    rw [ite_eq_right_iff]
    exact ⟨fun h heq => (nomatch h heq), fun h heq => absurd heq h⟩
  simp only [hselect]
  exact Iff.rfl

/-- **The lines of the log**, over the life of a process until it exits or an exception ends the
application, are the lines of its whole output, decoded at once, exactly when every chunk consists
of whole units of UTF-8 and no line comes after one that raises. -/
theorem log_lines_iff (env : GuiEnvironment) (before life done rest : List GuiEvent)
    (exitCode : ℤ) (idle last : Desktop) (u t : List GuiEffect) (channel : Channel)
    (hidle : Desktop.run env .new before = some (idle, u)) (hrunning : idle.aborted = none)
    (hprocess : idle.controller.process = .notRunning)
    (hlife : ∀ e ∈ life, e.isFinished = false)
    (hdone : life ++ [.finished exitCode] = done ++ rest)
    (h : Desktop.run env idle done = some (last, t))
    (hend : rest = [] ∨ last.aborted.isSome = true) :
    logLines channel t
        = LineReader.linesOf '\n' (Utf8.decodeReplace (chunks channel life).flatten) ↔
      Utf8.WholeUnits (chunks channel life) ∧
        Uninterrupted env channel (arrivals (fun _ => []) (life ++ [.finished exitCode])) := by
  have hempty : idle.controller.buffer = fun _ => [] := by
    funext channel
    refine buffer_eq_nil_of_run hidle hrunning ?_ channel
    rw [hprocess]
    exact ProcessState.noConfusion
  obtain ⟨haborted, hlines⟩ := logLines_run hrunning h
  rw [hempty] at haborted hlines
  have htaken : FirstFailure.taken (arrivedError? env) (arrivals (fun _ => []) done)
      = FirstFailure.taken (arrivedError? env)
        (arrivals (fun _ => []) (life ++ [.finished exitCode])) := by
    rw [hdone, arrivals_append, FirstFailure.taken_append, ← haborted]
    rcases hend with rfl | hend
    · rw [arrivals, FirstFailure.taken_nil, ite_self, List.append_nil]
    · rw [if_pos hend, List.append_nil]
  rw [hlines, htaken, ← linesFrom_taken_iff]
  obtain ⟨hwhole, hlength⟩ := linesOf_decoded (chunks channel life)
  rw [← hwhole, ← linesFrom_life channel hlife exitCode]
  rw [← linesFrom_life channel hlife exitCode] at hlength
  constructor
  · intro heq
    -- what is taken is a prefix, and there are as many lines as there should be
    obtain ⟨missed, hmissed, -⟩ := FirstFailure.exists_rest (arrivedError? env)
      (arrivals (fun _ => []) (life ++ [.finished exitCode]))
    have hcut := linesFrom_append channel (FirstFailure.taken (arrivedError? env)
      (arrivals (fun _ => []) (life ++ [.finished exitCode]))) missed
    rw [← hmissed] at hcut
    have hnone : linesFrom channel missed = [] := by
      rw [hcut, List.length_append, heq] at hlength
      exact List.length_eq_zero_iff.1 (by omega)
    rw [hnone, List.append_nil] at hcut
    exact ⟨hcut.trans heq, hcut.symm⟩
  · rintro ⟨hall, htakes⟩
    exact htakes.trans hall

/-! ## A character in two chunks -/

/-- An endpoint writes the two bytes of a character in two chunks. -/
def splitCharacterEvents : List GuiEvent :=
  [.start plainFiles (.ofText "client.json".toList), .started, .read .standardError [0xC5],
    .read .standardError [0xA1]]

/-- The run of the endpoint, until it exits. -/
theorem splitCharacter_lines : ∃ desktop t,
    Desktop.run plainEnvironment .new (splitCharacterEvents ++ [.finished 0]) = some (desktop, t) ∧
      logLines .standardError t = [['\uFFFD', '\uFFFD']] := by
  have hlines : (Desktop.run plainEnvironment .new (splitCharacterEvents ++ [.finished 0])).map
      (fun r => logLines .standardError r.2) = some [['\uFFFD', '\uFFFD']] := by
    decide +kernel
  obtain ⟨⟨desktop, t⟩, hrun, h⟩ := Option.map_eq_some_iff.1 hlines
  exact ⟨desktop, t, hrun, h⟩

/-- The character becomes two others. -/
theorem log_lines_not : ¬ ∀ (env : GuiEnvironment) (before life : List GuiEvent) (exitCode : ℤ)
    (idle last : Desktop) (u t : List GuiEffect),
    Desktop.run env .new before = some (idle, u) → idle.controller.process = .notRunning →
    (∀ e ∈ life, e.isFinished = false) →
    Desktop.run env idle (life ++ [.finished exitCode]) = some (last, t) →
    logLines .standardError t = LineReader.linesOf '\n'
      (Utf8.decodeReplace (chunks .standardError life).flatten) := by
  intro h
  obtain ⟨desktop, t, hrun, hlines⟩ := splitCharacter_lines
  have hwhole := h plainEnvironment [] splitCharacterEvents 0 .new desktop [] t rfl rfl
    (by decide) hrun
  rw [hlines] at hwhole
  revert hwhole
  decide +kernel

/-- The lines of the run, from its chunks. -/
theorem log_lines_sample : ∃ desktop t,
    Desktop.run plainEnvironment .new (splitCharacterEvents ++ [.finished 0]) = some (desktop, t) ∧
      (logLines .standardError t = LineReader.linesOf '\n' (Utf8.decodeReplace
          (chunks .standardError splitCharacterEvents).flatten) ↔
        Utf8.WholeUnits (chunks .standardError splitCharacterEvents) ∧
          Uninterrupted plainEnvironment .standardError
            (arrivals (fun _ => []) (splitCharacterEvents ++ [.finished 0]))) := by
  obtain ⟨desktop, t, hrun, -⟩ := splitCharacter_lines
  exact ⟨desktop, t, hrun, log_lines_iff plainEnvironment [] splitCharacterEvents
    (splitCharacterEvents ++ [.finished 0]) [] 0 .new desktop [] t .standardError rfl rfl rfl
    (by decide) (List.append_nil _).symm hrun (Or.inl rfl)⟩

end MatfVpn
