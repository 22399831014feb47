/-
# The delayed kill

`stop` schedules `_kill_if_running`, which kills whatever process runs three seconds later.
`Lifecycle` is the history of the processes as the events tell it, without the controller.

* `kill_mem_iff` : the kills of a run, from the history;
* `kills_own_process_iff` : the process that was stopped is the one that is killed, exactly when
  no process is started between a `stop` and its timer that runs when the timer expires.
-/
import MatfVpn.GuiHandlers

namespace MatfVpn

/-! ## The history of the processes -/

/-- Whether a process is alive, how many were launched, and for every call of `stop` with a
process alive, which one that was. -/
structure Lifecycle where
  alive : Bool
  launches : ℕ
  stops : List ℕ

namespace Lifecycle

/-- Before the first event. -/
def new : Lifecycle := ⟨false, 0, []⟩

/-- The history after one more event. -/
def next (life : Lifecycle) : GuiEvent → Lifecycle
  | .start files profile =>
      if life.alive then life
      else
        match loadProfile files profile with
        | .ok _ => { life with alive := true, launches := life.launches + 1 }
        | .error _ => life
  | .stop => if life.alive then { life with stops := life.stops ++ [life.launches] } else life
  | .processError .failedToStart _ | .finished _ => { life with alive := false }
  | _ => life

/-- The kill that the event brings. -/
def kills (life : Lifecycle) : GuiEvent → List Kill
  | .killTimeout timer =>
      if life.alive then (life.stops[timer]?.map fun target => ⟨target, life.launches⟩).toList
      else []
  | _ => []

end Lifecycle

/-- The history of the events. -/
def lifecycle (events : List GuiEvent) : Lifecycle :=
  events.foldl Lifecycle.next .new

/-- A process is launched in the course of the events `more`, which follow on `before`. -/
def Relaunches (before more : List GuiEvent) : Prop :=
  ∃ earlier files profile later config, more = earlier ++ .start files profile :: later ∧
    (lifecycle (before ++ earlier)).alive = false ∧ loadProfile files profile = .ok config

/-- A timer outlives its process: `stop` is called with a process alive, another process is
launched, and the timer expires with a process alive. -/
def Outlived (events : List GuiEvent) : Prop :=
  ∃ before during after timer,
    events = before ++ .stop :: during ++ .killTimeout timer :: after ∧
    (lifecycle before).alive = true ∧ (lifecycle before).stops.length = timer ∧
    Relaunches (before ++ [.stop]) during ∧
    (lifecycle (before ++ .stop :: during)).alive = true

variable {env : GuiEnvironment}

theorem lifecycle_concat (events : List GuiEvent) (event : GuiEvent) :
    lifecycle (events ++ [event]) = (lifecycle events).next event := by
  rw [lifecycle, List.foldl_append]
  rfl

namespace Lifecycle

variable (life : Lifecycle)

theorem next_stop_of_alive (h : life.alive = true) :
    life.next .stop = { life with stops := life.stops ++ [life.launches] } := if_pos h

theorem next_start_of_alive (h : life.alive = true) (files : GuiFiles) (profile : PosixPath) :
    life.next (.start files profile) = life := if_pos h

theorem next_start_of_error {files : GuiFiles} {profile : PosixPath} {e : PyError}
    (h : loadProfile files profile = .error e) : life.next (.start files profile) = life := by
  simp only [next, h, ite_self]

theorem next_start_of_ok {files : GuiFiles} {profile : PosixPath} {config : LoadedConfig}
    (halive : life.alive = false) (h : loadProfile files profile = .ok config) :
    life.next (.start files profile)
      = { life with alive := true, launches := life.launches + 1 } := by
  rw [next, if_neg (by rw [halive]; exact Bool.false_ne_true), h]

/-- Only a `stop` with a process alive adds to the stops. -/
theorem next_stops (event : GuiEvent) :
    (life.next event).stops = life.stops ∨
      event = .stop ∧ life.alive = true ∧
        (life.next event).stops = life.stops ++ [life.launches] := by
  cases event with
  | stop =>
    by_cases h : life.alive = true
    · refine Or.inr ⟨rfl, h, ?_⟩
      rw [life.next_stop_of_alive h]
    · exact Or.inl (by rw [next, if_neg h])
  | start files profile =>
    left
    rw [next]
    split
    · rfl
    · split <;> rfl
  | processError error text => cases error <;> exact Or.inl rfl
  | _ => exact Or.inl rfl

/-- Only a `start` that launches adds to the launches. -/
theorem next_launches (event : GuiEvent) :
    (life.next event).launches = life.launches ∨
      ∃ files profile config, event = .start files profile ∧ life.alive = false ∧
        loadProfile files profile = .ok config ∧
        (life.next event).launches = life.launches + 1 := by
  cases event with
  | stop =>
    left
    rw [next]
    split <;> rfl
  | start files profile =>
    by_cases halive : life.alive = true
    · exact Or.inl (by rw [life.next_start_of_alive halive])
    rw [Bool.not_eq_true] at halive
    cases hload : loadProfile files profile with
    | error e => exact Or.inl (by rw [life.next_start_of_error hload])
    | ok config =>
      refine Or.inr ⟨files, profile, config, rfl, halive, hload, ?_⟩
      rw [life.next_start_of_ok halive hload]
  | processError error text => cases error <;> exact Or.inl rfl
  | _ => exact Or.inl rfl

end Lifecycle

/-- **The stops** of the history. -/
theorem stops_eq_some_iff (events : List GuiEvent) (timer target : ℕ) :
    (lifecycle events).stops[timer]? = some target ↔
      ∃ before during, events = before ++ .stop :: during ∧
        (lifecycle before).alive = true ∧ (lifecycle before).stops.length = timer ∧
        (lifecycle before).launches = target := by
  induction events using List.reverseRecOn with
  | nil =>
    constructor
    · intro h
      cases h
    · rintro ⟨before, during, h, -⟩
      exact absurd h (by simp)
  | append_singleton events event ih =>
    rw [lifecycle_concat]
    constructor
    · intro h
      rcases (lifecycle events).next_stops event with hsame | ⟨rfl, halive, hmore⟩
      · rw [hsame] at h
        obtain ⟨before, during, rfl, hbefore⟩ := ih.1 h
        exact ⟨before, during ++ [event], by simp, hbefore⟩
      · rw [hmore, List.getElem?_append] at h
        split at h
        · obtain ⟨before, during, rfl, hbefore⟩ := ih.1 h
          exact ⟨before, during ++ [.stop], by simp, hbefore⟩
        · rename_i hge
          rw [List.getElem?_singleton] at h
          split at h
          · exact ⟨events, [], rfl, halive, by omega, Option.some.inj h⟩
          · cases h
    · rintro ⟨before, during, hevents, halive, hlength, htarget⟩
      have hkeep : (lifecycle events).stops[timer]? = some target →
          ((lifecycle events).next event).stops[timer]? = some target := by
        intro h
        rcases (lifecycle events).next_stops event with hsame | ⟨-, -, hmore⟩
        · rw [hsame, h]
        · rw [hmore, List.getElem?_append_left (List.getElem?_eq_some_iff.1 h).1, h]
      rcases List.eq_nil_or_concat' during with rfl | ⟨during, last, rfl⟩
      · obtain ⟨rfl, hstop⟩ := List.append_inj' hevents rfl
        obtain rfl := List.singleton_inj.1 hstop
        rw [(lifecycle events).next_stop_of_alive halive, ← hlength,
          List.getElem?_concat_length, htarget]
      · rw [← List.cons_append, ← List.append_assoc] at hevents
        obtain ⟨rfl, -⟩ := List.append_inj' hevents rfl
        exact hkeep (ih.2 ⟨before, during, rfl, halive, hlength, htarget⟩)

/-- **The launches** of the history: their number grows exactly when a process is launched. -/
theorem launches_append (before more : List GuiEvent) :
    (lifecycle before).launches ≤ (lifecycle (before ++ more)).launches ∧
      ((lifecycle (before ++ more)).launches = (lifecycle before).launches ↔
        ¬ Relaunches before more) := by
  induction more using List.reverseRecOn with
  | nil =>
    rw [List.append_nil]
    refine ⟨le_rfl, fun _ => ?_, fun _ => rfl⟩
    rintro ⟨earlier, files, profile, later, config, h, -⟩
    exact absurd h (by simp)
  | append_singleton more event ih =>
    obtain ⟨hle, hiff⟩ := ih
    rw [← List.append_assoc, lifecycle_concat]
    have hrelaunches : Relaunches before (more ++ [event]) ↔ Relaunches before more ∨
        ∃ files profile config, event = .start files profile ∧
          (lifecycle (before ++ more)).alive = false ∧
          loadProfile files profile = .ok config := by
      constructor
      · rintro ⟨earlier, files, profile, later, config, h, hdead, hload⟩
        rcases List.eq_nil_or_concat' later with rfl | ⟨later, last, rfl⟩
        · obtain ⟨rfl, hstart⟩ := List.append_inj' h rfl
          exact Or.inr ⟨files, profile, config, List.singleton_inj.1 hstart, hdead, hload⟩
        · rw [← List.cons_append, ← List.append_assoc] at h
          obtain ⟨rfl, -⟩ := List.append_inj' h rfl
          exact Or.inl ⟨earlier, files, profile, later, config, rfl, hdead, hload⟩
      · rintro (⟨earlier, files, profile, later, config, rfl, hdead, hload⟩ |
          ⟨files, profile, config, rfl, hdead, hload⟩)
        · exact ⟨earlier, files, profile, later ++ [event], config, by simp, hdead, hload⟩
        · exact ⟨more, files, profile, [], config, rfl, hdead, hload⟩
    rw [hrelaunches, not_or]
    rcases (lifecycle (before ++ more)).next_launches event with hsame |
      ⟨files, profile, config, rfl, hdead, hload, hmore⟩
    · rw [hsame, hiff]
      refine ⟨hle, fun h => ⟨h, ?_⟩, And.left⟩
      rintro ⟨files, profile, config, rfl, hdead, hload⟩
      rw [(lifecycle (before ++ more)).next_start_of_ok hdead hload] at hsame
      exact absurd hsame (Nat.succ_ne_self _)
    · rw [hmore]
      refine ⟨by omega, fun h => by omega, fun h => ?_⟩
      exact absurd ⟨files, profile, config, rfl, hdead, hload⟩ h.2

/-! ## The history of a run -/

/-- The controller in the event loop has this history. -/
structure Lifecycle.Agrees (life : Lifecycle) (desktop : Desktop) : Prop where
  alive : life.alive = decide (desktop.controller.process ≠ .notRunning)
  launches : desktop.launches = life.launches
  stops : desktop.timers.map KillTimer.target = life.stops

theorem Lifecycle.Agrees.alive_eq_true {life : Lifecycle} {desktop : Desktop}
    (h : life.Agrees desktop) (hprocess : desktop.controller.process ≠ .notRunning) :
    life.alive = true := by
  rw [h.alive, decide_eq_true hprocess]

theorem Lifecycle.Agrees.alive_eq_false {life : Lifecycle} {desktop : Desktop}
    (h : life.Agrees desktop) (hprocess : desktop.controller.process = .notRunning) :
    life.alive = false := by
  rw [h.alive, decide_eq_false (not_not.2 hprocess)]

namespace Desktop

variable {desktop last : Desktop} {t : List GuiEffect} {life : Lifecycle}

theorem launched_of_leavesProcesses (h : LeavesProcesses t) : launched t = 0 := by
  rw [launched, List.countP_eq_zero]
  intro e he
  have hcontrol := h e he
  cases e <;> first | exact Bool.false_ne_true | cases hcontrol

theorem armed_of_leavesProcesses (h : LeavesProcesses t) (n : ℕ) : armed n t = [] := by
  rw [armed, List.filterMap_eq_nil_iff]
  intro e he
  have hcontrol := h e he
  cases e <;> first | rfl | cases hcontrol

theorem launched_append (s t : List GuiEffect) :
    launched (s ++ t) = launched s + launched t := List.countP_append

theorem armed_append (n : ℕ) (s t : List GuiEffect) :
    armed n (s ++ t) = armed n s ++ armed n t := List.filterMap_append

/-- An expired timer keeps its target. -/
theorem map_target_expire (timers : List KillTimer) (event : GuiEvent) :
    (expire timers event).map KillTimer.target = timers.map KillTimer.target := by
  cases event with
  | killTimeout timer =>
    apply List.ext_getElem?
    intro i
    rw [expire, List.getElem?_map, List.getElem?_map, List.getElem?_modify]
    split
    · cases timers[i]? <;> rfl
    · cases timers[i]? <;> rfl
  | _ => rfl

/-- The kill of a timer. -/
theorem killed_processKill (timer : ℕ) :
    desktop.killed [.processKill] (.killTimeout timer)
      = (desktop.timers[timer]?.map fun t => (⟨t.target, desktop.launches⟩ : Kill)).toList := by
  rw [killed]
  cases desktop.timers[timer]? with
  | none => rfl
  | some t => rfl

/-- **One event** keeps the agreement, and brings the kill of the history. -/
theorem agrees_step {event : GuiEvent} (h : life.Agrees desktop)
    (hstep : step env desktop event = some (last, t)) :
    (life.next event).Agrees last ∧ last.kills = desktop.kills ++ life.kills event := by
  obtain ⟨henabled, hhandles, hlaunches, htimers, hkills⟩ := step_eq_some hstep
  have hstops : last.timers.map KillTimer.target
      = life.stops ++ (armed life.launches t).map KillTimer.target := by
    rw [htimers, List.map_append, map_target_expire, h.stops, h.launches]
  rw [h.launches] at hlaunches
  -- Most events neither launch nor stop nor kill.
  have hquiet : LeavesProcesses t → life.next event = { life with
      alive := decide (last.controller.process ≠ .notRunning) } →
      desktop.killed t event = life.kills event →
      (life.next event).Agrees last ∧ last.kills = desktop.kills ++ life.kills event := by
    intro hleaves hnext hkill
    rw [launched_of_leavesProcesses hleaves] at hlaunches
    rw [armed_of_leavesProcesses hleaves, List.map_nil, List.append_nil] at hstops
    rw [hnext, hkills, hkill]
    exact ⟨⟨rfl, hlaunches, hstops⟩, rfl⟩
  have hsame : last.controller.process = desktop.controller.process →
      life = { life with alive := decide (last.controller.process ≠ .notRunning) } := by
    intro hprocess
    rw [hprocess, ← h.alive]
  generalize hc : last.controller = c' at hhandles
  generalize last.aborted = aborted at hhandles
  cases hhandles with
  | refused files profile hrefused =>
    refine hquiet (List.forall_mem_nil _) ?_ rfl
    rw [← hsame (by rw [hc])]
    rcases hrefused with hprocess | ⟨e, he⟩
    · exact life.next_start_of_alive (h.alive_eq_true hprocess) files profile
    · exact life.next_start_of_error he
  | launched files profile config reports arguments hprocess hload hreports =>
    rw [launched_append, launched_of_leavesProcesses hreports.leavesProcesses] at hlaunches
    rw [armed_append, armed_of_leavesProcesses hreports.leavesProcesses] at hstops
    rw [life.next_start_of_ok (h.alive_eq_false hprocess) hload]
    refine ⟨⟨?_, ?_, ?_⟩, hkills⟩
    · rw [hc]
      rfl
    · exact hlaunches
    · exact hstops.trans (List.append_nil _)
  | notStopped hprocess =>
    refine hquiet (List.forall_mem_nil _) ?_ rfl
    rw [← hsame (by rw [hc])]
    exact if_neg (by rw [h.alive_eq_false hprocess]; exact Bool.false_ne_true)
  | stopped reports hprocess hreports =>
    rw [launched_append, launched_of_leavesProcesses hreports.leavesProcesses] at hlaunches
    rw [armed_append, armed_of_leavesProcesses hreports.leavesProcesses] at hstops
    rw [life.next_stop_of_alive (h.alive_eq_true hprocess)]
    refine ⟨⟨?_, hlaunches, hstops⟩, hkills⟩
    rw [hc, h.alive]
    rfl
  | logLine line t hreports =>
    exact hquiet hreports.leavesProcesses (hsame (by rw [hc]; rfl)) rfl
  | started =>
    refine hquiet (List.forall_mem_nil _) ?_ rfl
    have halive := h.alive_eq_true (by rw [of_decide_eq_true henabled]; decide)
    rw [hc]
    show life = { life with alive := true }
    rw [← halive]
  | read channel bytes t hconsumes =>
    refine hquiet hconsumes.leavesProcesses (hsame ?_) rfl
    rw [hc]
    cases channel <;> rfl
  | failedToStart text t hreports =>
    refine hquiet hreports.leavesProcesses ?_ rfl
    rw [hc]
    rfl
  | processError error text herror =>
    refine hquiet (List.forall_mem_singleton.2 rfl) ?_ rfl
    rw [← hsame (by rw [hc])]
    cases error <;> first | rfl | exact absurd rfl herror
  | finished exitCode c' t aborted hexits hleaves hlines =>
    refine hquiet hleaves ?_ rfl
    rw [hc, hexits.process]
    rfl
  | killed timer hprocess =>
    refine ⟨⟨?_, hlaunches, hstops.trans (List.append_nil _)⟩, ?_⟩
    · rw [hc]
      exact h.alive
    · rw [hkills, killed_processKill, Lifecycle.kills, if_pos (h.alive_eq_true hprocess), ← h.stops,
        ← h.launches, List.getElem?_map, Option.map_map]
      rfl
  | notKilled timer hprocess =>
    refine ⟨⟨?_, hlaunches, hstops.trans (List.append_nil _)⟩, ?_⟩
    · rw [hc]
      exact h.alive
    · rw [hkills, Lifecycle.kills, h.alive_eq_false hprocess]
      rfl

/-- **A run** has the history of its events, and the kills of that history. -/
theorem agrees_run {events : List GuiEvent} (h : run env new events = some (desktop, t)) :
    (lifecycle events).Agrees desktop ∧ ∀ kill, kill ∈ desktop.kills ↔
      ∃ before event after, events = before ++ event :: after ∧
        kill ∈ (lifecycle before).kills event := by
  induction events using List.reverseRecOn generalizing desktop t with
  | nil =>
    obtain ⟨rfl, rfl⟩ := Prod.mk.inj (Option.some.inj h)
    refine ⟨⟨rfl, rfl, rfl⟩, fun kill => ⟨fun hkill => absurd hkill List.not_mem_nil, ?_⟩⟩
    rintro ⟨before, event, after, hevents, -⟩
    exact absurd hevents (by simp)
  | append_singleton events event ih =>
    obtain ⟨next, u, v, hrun, hstep, rfl⟩ := run_concat.1 h
    obtain ⟨hagrees, hkills⟩ := ih hrun
    obtain ⟨hlast, hmore⟩ := agrees_step hagrees hstep
    rw [lifecycle_concat]
    refine ⟨hlast, fun kill => ?_⟩
    rw [hmore, List.mem_append, hkills]
    constructor
    · rintro (⟨before, event', after, rfl, hkill⟩ | hkill)
      · exact ⟨before, event', after ++ [event], by simp, hkill⟩
      · exact ⟨events, event, [], rfl, hkill⟩
    · rintro ⟨before, event', after, hevents, hkill⟩
      rcases List.eq_nil_or_concat' after with rfl | ⟨after, _, rfl⟩
      · obtain ⟨rfl, hevent⟩ := List.append_inj' hevents rfl
        rw [List.singleton_inj.1 hevent]
        exact Or.inr hkill
      · rw [← List.cons_append, ← List.append_assoc] at hevents
        obtain ⟨rfl, -⟩ := List.append_inj' hevents rfl
        exact Or.inl ⟨before, event', after, rfl, hkill⟩

end Desktop

/-! ## Kills -/

/-- The kill of an event, from the history. -/
theorem Lifecycle.mem_kills {life : Lifecycle} {event : GuiEvent} {kill : Kill} :
    kill ∈ life.kills event ↔ ∃ timer, event = .killTimeout timer ∧ life.alive = true ∧
      life.stops[timer]? = some kill.target ∧ kill.victim = life.launches := by
  constructor
  · intro h
    cases event with
    | killTimeout timer =>
      rw [Lifecycle.kills] at h
      split at h
      · rename_i halive
        obtain ⟨target, htarget, rfl⟩ := Option.map_eq_some_iff.1 (Option.mem_toList.1 h)
        exact ⟨timer, rfl, halive, htarget, rfl⟩
      · exact absurd h List.not_mem_nil
    | _ => exact absurd h List.not_mem_nil
  · rintro ⟨timer, rfl, halive, htarget, hvictim⟩
    rw [Lifecycle.kills, if_pos halive, htarget, ← hvictim]
    exact List.mem_singleton_self kill

/-- **The kills of a run**: a `stop` with a process alive, and its timer expires with a process
alive. -/
theorem kill_mem_iff {events : List GuiEvent} {desktop : Desktop} {t : List GuiEffect}
    (h : Desktop.run env .new events = some (desktop, t)) (kill : Kill) :
    kill ∈ desktop.kills ↔ ∃ before during after timer,
      events = before ++ .stop :: during ++ .killTimeout timer :: after ∧
      (lifecycle before).alive = true ∧ (lifecycle before).stops.length = timer ∧
      (lifecycle (before ++ .stop :: during)).alive = true ∧
      kill.target = (lifecycle before).launches ∧
      kill.victim = (lifecycle (before ++ .stop :: during)).launches := by
  rw [(Desktop.agrees_run h).2]
  constructor
  · rintro ⟨earlier, event, after, rfl, hkill⟩
    obtain ⟨timer, rfl, halive, htarget, hvictim⟩ := Lifecycle.mem_kills.1 hkill
    obtain ⟨before, during, rfl, hbefore, htimer, hlaunches⟩ :=
      (stops_eq_some_iff earlier timer kill.target).1 htarget
    exact ⟨before, during, after, timer, rfl, hbefore, htimer, halive, hlaunches.symm, hvictim⟩
  · rintro ⟨before, during, after, timer, rfl, hbefore, htimer, halive, htarget, hvictim⟩
    refine ⟨before ++ .stop :: during, .killTimeout timer, after, rfl, Lifecycle.mem_kills.2 ?_⟩
    refine ⟨timer, rfl, halive, ?_, hvictim⟩
    rw [stops_eq_some_iff]
    exact ⟨before, during, rfl, hbefore, htimer, htarget.symm⟩

/-- A `stop` launches nothing. -/
theorem launches_stop (before during : List GuiEvent) :
    (lifecycle before).launches ≤ (lifecycle (before ++ .stop :: during)).launches ∧
      ((lifecycle (before ++ .stop :: during)).launches = (lifecycle before).launches ↔
        ¬ Relaunches (before ++ [.stop]) during) := by
  have hstop : (lifecycle (before ++ [.stop])).launches
      = (lifecycle before).launches := by
    rw [lifecycle_concat]
    rcases (lifecycle before).next_launches .stop with hsame | ⟨_, _, _, h, _⟩
    · exact hsame
    · cases h
  have happend := launches_append (before ++ [.stop]) during
  rw [List.append_assoc, List.singleton_append, hstop] at happend
  exact happend

/-- **The delayed kill** hits the process that was stopped, and so only a process with a `stop`
of its own, exactly when no timer outlives its process. -/
theorem kills_own_process_iff (env : GuiEnvironment) (events : List GuiEvent)
    (desktop : Desktop) (t : List GuiEffect)
    (h : Desktop.run env .new events = some (desktop, t)) :
    (∀ kill ∈ desktop.kills, kill.victim = kill.target ∧
      ∃ timer ∈ desktop.timers, timer.target = kill.victim) ↔ ¬ Outlived events := by
  constructor
  · rintro hkills ⟨before, during, after, timer, hevents, hbefore, htimer, hlaunch, halive⟩
    obtain ⟨hvictim, -⟩ := hkills _ ((kill_mem_iff h ⟨_, _⟩).2
      ⟨before, during, after, timer, hevents, hbefore, htimer, halive, rfl, rfl⟩)
    exact (launches_stop before during).2.1 hvictim hlaunch
  · intro houtlived kill hkill
    obtain ⟨before, during, after, timer, rfl, hbefore, htimer, halive, htarget, hvictim⟩ :=
      (kill_mem_iff h kill).1 hkill
    have hown : kill.victim = kill.target := by
      rw [hvictim, htarget, (launches_stop before during).2]
      intro hlaunch
      exact houtlived ⟨before, during, after, timer, rfl, hbefore, htimer, hlaunch, halive⟩
    refine ⟨hown, ?_⟩
    have hstop :
        (lifecycle (before ++ .stop :: during ++ .killTimeout timer :: after)).stops[timer]?
          = some kill.target := by
      rw [stops_eq_some_iff]
      refine ⟨before, during ++ .killTimeout timer :: after, ?_, hbefore, htimer, htarget.symm⟩
      rw [List.append_assoc, List.cons_append]
    have hmem := List.mem_of_getElem? hstop
    rw [← (Desktop.agrees_run h).1.stops] at hmem
    obtain ⟨own, hownmem, hequal⟩ := List.mem_map.1 hmem
    exact ⟨own, hownmem, hequal.trans hown.symm⟩

/-! ## A process that is killed without a `stop` of its own -/

/-- A desktop whose log is no JSON. -/
def plainEnvironment : GuiEnvironment where
  loads _ := .error (.caught "Expecting value")
  repr _ := .ok ""
  sourceRoot := "/opt/matf_vpn/src"
  executable := "/usr/bin/python3"

/-- The profile of a plain endpoint, under every name. -/
def plainFiles : GuiFiles where
  documents _ := .ok (.object [("tun_address", .string "10.0.0.1/30"),
    ("bind", .string "192.0.2.1:51820"), ("peer", .string "192.0.2.2:51820")])
  keyFiles _ := none
  resolve _ := "/home/user/client.json"

/-- The user stops the endpoint, which exits at once, and connects again. -/
def reconnectEvents : List GuiEvent :=
  [.start plainFiles (.ofText "client.json".toList), .started, .stop, .finished 0,
    .start plainFiles (.ofText "client.json".toList), .started, .killTimeout 0]

/-- The kill of the run. -/
theorem reconnect_kills : ∃ desktop t,
    Desktop.run plainEnvironment .new reconnectEvents = some (desktop, t) ∧
      desktop.kills = [⟨1, 2⟩] := by
  have hkills : (Desktop.run plainEnvironment .new reconnectEvents).map (fun r => r.1.kills)
      = some [⟨1, 2⟩] := by
    decide +kernel
  obtain ⟨⟨desktop, t⟩, hrun, h⟩ := Option.map_eq_some_iff.1 hkills
  exact ⟨desktop, t, hrun, h⟩

/-- The timer of the first process kills the second. -/
theorem kills_own_process_not : ¬ ∀ (env : GuiEnvironment) (events : List GuiEvent)
    (desktop : Desktop) (t : List GuiEffect),
    Desktop.run env .new events = some (desktop, t) →
    ∀ kill ∈ desktop.kills, kill.victim = kill.target ∧
      ∃ timer ∈ desktop.timers, timer.target = kill.victim := by
  intro h
  obtain ⟨desktop, t, hrun, hkills⟩ := reconnect_kills
  have hown := (h plainEnvironment reconnectEvents desktop t hrun ⟨1, 2⟩
    (by rw [hkills]; exact List.mem_singleton_self _)).1
  exact absurd hown (by decide)

/-- Without the second connection the kill does no harm. -/
theorem kills_own_process_sample :
    ∃ desktop t, Desktop.run plainEnvironment .new (reconnectEvents.take 3 ++ [.killTimeout 0])
        = some (desktop, t) ∧
      ((∀ kill ∈ desktop.kills, kill.victim = kill.target ∧
        ∃ timer ∈ desktop.timers, timer.target = kill.victim) ↔
          ¬ Outlived (reconnectEvents.take 3 ++ [.killTimeout 0])) := by
  have hruns : (Desktop.run plainEnvironment .new
      (reconnectEvents.take 3 ++ [.killTimeout 0])).isSome = true := by
    decide +kernel
  obtain ⟨⟨desktop, t⟩, hrun⟩ := Option.isSome_iff_exists.1 hruns
  exact ⟨desktop, t, hrun, kills_own_process_iff _ _ desktop t hrun⟩

end MatfVpn
