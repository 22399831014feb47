/-
# The throughput measurement and its retries

`_run_iperf` is a worker that makes a run for every repetition, in several attempts.

* `runIperf_spec` : how the measurement ends, from the outcomes of the commands;
* `runIperf_keeps_contract_iff` : it ends as documented exactly when no output that it reads is
  one that the parser does not expect, the delay is one that it can wait if it has to, and the
  throughput has a mean and a standard deviation.
-/
import MatfVpn.IperfOutput
import MatfVpn.Lib.Attempts
import MatfVpn.SummaryBounds

namespace MatfVpn

open Program Attempts

variable {τ : Type}

/-! ## Attempts -/

/-- What the n-th command brings: the metrics, or the exception of the attempt. -/
def iperfOutcome (P : Interpreter τ) (world : ℕ → CompletedProcess) (command : List String)
    (protocol : String) (n : ℕ) : Except ToolError (List (String × τ)) :=
  if (world n).returncode ≠ 0 then
    .error (.benchmarkCommandError (commandFailure command (world n)))
  else parseIperf3Json P (world n).stdout protocol

/-- A failure of a worker as an entry of `failed_attempts`. -/
def FailedAttempt.ofFailure (failure : Failure ToolError) : FailedAttempt :=
  ⟨failure.item, failure.attempt, (failure.reason.caughtText?).getD ""⟩

variable {P : Interpreter τ} {world : ℕ → CompletedProcess} {command : List String}
  {options : BenchmarkOptions τ} {protocol : String} {count limit start position : ℕ}
  {outcome : ℕ → Except ToolError (List (String × τ))}

/-- **One attempt** runs the next command. -/
theorem attempt_spec (P : Interpreter τ) (world : ℕ → CompletedProcess) (command : List String)
    (protocol : String) (n : ℕ) :
    wp (attempt (do
        let output ← runCommand world command
        ofExcept (parseIperf3Json P output protocol)) : Tool τ _) n fun r s _ =>
      r = .ok (iperfOutcome P world command protocol n) ∧ s = n + 1 := by
  rw [wp_attempt, wp_bind]
  unfold runCommand iperfOutcome
  rw [wp_read_bind, wp_update_bind, wp_emit_bind]
  by_cases hcode : (world n).returncode ≠ 0
  · rw [if_pos hcode, if_pos hcode]
    exact ⟨rfl, rfl⟩
  · rw [if_neg hcode, if_neg hcode]
    rw [wp_pure]
    show wp (ofExcept _) _ _
    rw [wp_ofExcept]
    exact ⟨rfl, rfl⟩

/-- The exceptions of an attempt that are not caught. -/
theorem uncaught_iperfOutcome_iff (n : ℕ) :
    Uncaught (iperfOutcome P world command protocol n) ↔
      (world n).returncode = 0 ∧ UncaughtOutput P protocol (world n).stdout := by
  unfold iperfOutcome
  by_cases hcode : (world n).returncode ≠ 0
  · rw [if_pos hcode]
    refine iff_of_false ?_ fun h => hcode h.1
    rintro ⟨e, he, hcaught⟩
    rw [← Except.error.inj he] at hcaught
    cases hcaught
  · rw [if_neg hcode, parse_uncaught_iff]
    exact ⟨fun h => ⟨not_not.1 hcode, h⟩, fun h => h.2⟩

/-- The first field of both protocols. -/
theorem expectedMetrics_head {section_ : String} {names : List String}
    (h : expectedMetrics protocol = some (section_, names)) :
    ∃ more, names = "bits_per_second" :: more := by
  unfold expectedMetrics at h
  split at h
  · obtain ⟨-, rfl⟩ := Prod.mk.inj (Option.some.inj h)
    exact ⟨_, rfl⟩
  · split at h
    · obtain ⟨-, rfl⟩ := Prod.mk.inj (Option.some.inj h)
      exact ⟨_, rfl⟩
    · cases h

/-- The metrics are those of the names. -/
theorem lookup_of_sectionMetrics {A : Arithmetic τ} {result : Value τ} {section_ name : String}
    {more : List String} {metrics : List (String × τ)}
    (h : sectionMetrics A result section_ (name :: more) = .ok metrics) :
    ∃ x, metrics.lookup name = some x := by
  obtain ⟨finish, -, h⟩ := except_bind_eq_ok.1 h
  obtain ⟨summary, -, h⟩ := except_bind_eq_ok.1 h
  rw [mapM_eq_ok_iff, List.forall₂_cons_left_iff] at h
  obtain ⟨first, others, hfirst, -, rfl⟩ := h
  obtain ⟨value, -, hfirst⟩ := except_bind_eq_ok.1 hfirst
  obtain ⟨x, -, hfirst⟩ := except_bind_eq_ok.1 hfirst
  rw [← Except.ok.inj hfirst, List.lookup_cons_self]
  exact ⟨x, rfl⟩

/-- The metrics begin with the throughput. -/
theorem lookup_of_parse {output : String} {metrics : List (String × τ)}
    (h : parseIperf3Json P output protocol = .ok metrics) :
    ∃ x, metrics.lookup "bits_per_second" = some x := by
  unfold parseIperf3Json at h
  split at h
  · cases h
  · cases h
  obtain ⟨failed, -, h⟩ := except_bind_eq_ok.1 h
  cases failed with
  | true =>
    obtain ⟨error, -, h⟩ := except_bind_eq_ok.1 h
    cases hstr : P.str error <;> rw [hstr] at h <;> cases h
  | false =>
    simp only [Bool.false_eq_true, if_false] at h
    split at h
    · rename_i section_ names hexpected
      obtain ⟨more, rfl⟩ := expectedMetrics_head hexpected
      unfold expectMetrics at h
      split at h
      · rename_i found hfound
        rw [← Except.ok.inj h]
        exact lookup_of_sectionMetrics hfound
      · split at h <;> cases h
    · cases h

/-! ## The loops -/

/-- No attempt from `start` on before `position` raises an exception that is not caught. -/
def CaughtBefore (outcome : ℕ → Except ToolError (List (String × τ))) (start position : ℕ) : Prop :=
  ∀ n, start ≤ n → n < position → ¬ Uncaught (outcome n)

theorem CaughtBefore.succ (h : CaughtBefore outcome start position)
    (hposition : ¬ Uncaught (outcome position)) : CaughtBefore outcome start (position + 1) := by
  intro n hstart hlt
  rcases Nat.lt_succ_iff_lt_or_eq.1 hlt with hlt | rfl
  · exact h n hstart hlt
  · exact hposition

/-- The measurement has waited before every attempt up to this one but the first. -/
def Waited (delay : Except SleepError Unit) (start position : ℕ) : Prop :=
  start < position → delay = .ok ()

theorem waited_start (delay : Except SleepError Unit) (start : ℕ) : Waited delay start start :=
  fun h => absurd h (lt_irrefl start)

/-- How the measurement stops with an exception: the attempts of a repetition are exhausted, one
of them raises an exception that is not caught, or it cannot wait before the next one. -/
inductive Stops (outcome : ℕ → Except ToolError (List (String × τ)))
    (delay : Except SleepError Unit) (count limit start : ℕ) : ToolError → Prop
  | exhausted {item position : ℕ} (message : String) :
      Ends outcome count limit start (.exhausted item) position →
      CaughtBefore outcome start (position + 1) → Waited delay start position →
      Stops outcome delay count limit start (.benchmarkCommandError message)
  | uncaught {items : List (List (String × τ))} {failures : List (Failure ToolError)}
      {tries position : ℕ} {e : ToolError} :
      Reaches outcome count limit start items failures tries position → items.length < count →
      outcome position = .error e → e.caughtText? = none →
      Stops outcome delay count limit start e
  | delayed {items : List (List (String × τ))} {failures : List (Failure ToolError)}
      {tries position : ℕ} {e : SleepError} :
      Reaches outcome count limit start items failures tries position → items.length < count →
      start < position → delay = .error e → Stops outcome delay count limit start e.toToolError

/-- Where the measurement is after a repetition. -/
structure Measured (outcome : ℕ → Except ToolError (List (String × τ)))
    (delay : Except SleepError Unit) (count limit start : ℕ) (items : List (List (String × τ)))
    (failures : List FailedAttempt) (position : ℕ) : Prop where
  reaches : ∃ more, Reaches outcome count limit start items more 0 position ∧
    failures = more.map FailedAttempt.ofFailure
  caught : CaughtBefore outcome start position
  waited : Waited delay (start + 1) position

/-- **`time.sleep`** waits or raises. -/
theorem pause_spec (P : Interpreter τ) (seconds : τ) (n : ℕ) :
    wp (pause P seconds) n fun r s _ => (match r with
      | .ok _ => P.sleep seconds = .ok ()
      | .error e => ∃ e', P.sleep seconds = .error e' ∧ e = e'.toToolError) ∧ s = n := by
  unfold pause
  rw [wp_bind, wp_ofExcept]
  cases P.sleep seconds with
  | ok _ => exact ⟨rfl, rfl⟩
  | error e => exact ⟨⟨e, rfl, rfl⟩, rfl⟩

/-- **The attempts of a repetition.** -/
theorem attemptLoop_spec {items : List (List (String × τ))} {failures : List (Failure ToolError)}
    {tries remaining : ℕ}
    (h : Reaches (iperfOutcome P world command protocol) count options.maxAttempts.toNat start
      items failures tries position)
    (hcaught : CaughtBefore (iperfOutcome P world command protocol) start position)
    (hwaited : Waited (P.sleep options.interRunDelay) start position)
    (hlt : items.length < count) (hremaining : tries + remaining = options.maxAttempts.toNat)
    (hpositive : 0 < remaining) :
    wp (attemptLoop P world command options protocol items.length remaining (tries + 1)
      (failures.map FailedAttempt.ofFailure)) position fun r s _ =>
        match r with
        | .ok (metrics, failures') => (∃ x, metrics.lookup "bits_per_second" = some x) ∧
            Measured (iperfOutcome P world command protocol) (P.sleep options.interRunDelay) count
              options.maxAttempts.toNat start (items ++ [metrics]) failures' s
        | .error e =>
            Stops (iperfOutcome P world command protocol) (P.sleep options.interRunDelay) count
              options.maxAttempts.toNat start e := by
  induction remaining generalizing tries failures position with
  | zero => omega
  | succ remaining ih =>
    rw [attemptLoop, wp_bind]
    refine wp_mono (attempt_spec P world command protocol position) ?_
    rintro r s t ⟨rfl, rfl⟩
    simp only
    cases hresult : iperfOutcome P world command protocol position with
    | ok metrics =>
      have hnot : ¬ Uncaught (iperfOutcome P world command protocol position) := by
        rw [hresult]
        exact not_uncaught_ok metrics
      refine ⟨?_, ⟨failures, .success h hlt hresult, rfl⟩, hcaught.succ hnot, fun hlt =>
        hwaited (Nat.lt_of_succ_lt_succ hlt)⟩
      unfold iperfOutcome at hresult
      split at hresult
      · cases hresult
      · exact lookup_of_parse hresult
    | error e =>
      simp only
      -- an exception that the loop does not catch leaves it at once
      cases htext : e.caughtText? with
      | none => exact .uncaught h hlt hresult htext
      | some text =>
        have hnot : ¬ Uncaught (iperfOutcome P world command protocol position) := by
          rintro ⟨e', he', hnone⟩
          rw [hresult] at he'
          rw [← Except.error.inj he', htext] at hnone
          cases hnone
        simp only
        -- the last attempt raises; after the others the failure is noted and the loop goes on
        by_cases hlast : ((tries + 1 : ℕ) : ℤ) = options.maxAttempts
        · rw [if_pos hlast]
          exact .exhausted _ (.exhausted h hlt hresult (by omega)) (hcaught.succ hnot) hwaited
        · rw [if_neg hlast, wp_bind]
          have hnext := Reaches.failure h hlt hresult (by omega)
          refine wp_mono (pause_spec P options.interRunDelay (position + 1)) ?_
          rintro (e' | ⟨⟩) s t ⟨hdelay, rfl⟩
          · obtain ⟨e', hdelay, rfl⟩ := hdelay
            exact .delayed hnext hlt (Nat.lt_succ_of_le h.start_le) hdelay
          have hloop := ih hnext (hcaught.succ hnot) (fun _ => hdelay) (by omega) (by omega)
          rw [List.map_append, List.map_singleton, FailedAttempt.ofFailure, htext] at hloop
          exact hloop

/-- The throughput of every run. -/
def throughputs (items : List (List (String × τ))) : List τ :=
  items.filterMap fun metrics => metrics.lookup "bits_per_second"

theorem throughputs_concat {items : List (List (String × τ))} {metrics : List (String × τ)} {x : τ}
    (h : metrics.lookup "bits_per_second" = some x) :
    throughputs (items ++ [metrics]) = throughputs items ++ [x] := by
  rw [throughputs, List.filterMap_append, List.filterMap_cons_some h, List.filterMap_nil]
  rfl

/-- **The repetitions.** -/
theorem iperfLoop_spec {items : List (List (String × τ))} {failures : List FailedAttempt}
    {remaining : ℕ}
    (h : Measured (iperfOutcome P world command protocol) (P.sleep options.interRunDelay)
      options.repetitions.toNat options.maxAttempts.toNat start items failures position)
    (hwaited : 0 < remaining → Waited (P.sleep options.interRunDelay) start position)
    (hlength : items.length + remaining = options.repetitions.toNat)
    (hthroughput : (throughputs items).length = items.length)
    (hattempts : 0 < options.maxAttempts) :
    wp (iperfLoop P world command options protocol remaining items.length
      (items.mapIdx runDict) failures (throughputs items)) position fun r s _ =>
        match r with
        | .ok (runs, failures', throughput) => ∃ items',
            items'.length = options.repetitions.toNat ∧
            (throughputs items').length = items'.length ∧
            Measured (iperfOutcome P world command protocol) (P.sleep options.interRunDelay)
              options.repetitions.toNat options.maxAttempts.toNat start items' failures' s ∧
            runs = items'.mapIdx runDict ∧ throughput = throughputs items'
        | .error e =>
            Stops (iperfOutcome P world command protocol) (P.sleep options.interRunDelay)
              options.repetitions.toNat options.maxAttempts.toNat start e := by
  induction remaining generalizing items failures position with
  | zero => exact ⟨items, by omega, hthroughput, h, rfl, rfl⟩
  | succ remaining ih =>
    obtain ⟨⟨more, hreaches, rfl⟩, hcaught, -⟩ := h
    rw [iperfLoop, wp_bind]
    refine wp_mono (attemptLoop_spec hreaches hcaught (hwaited (Nat.succ_pos _)) (by omega)
      (Nat.zero_add _) (by omega)) ?_
    rintro (e | ⟨metrics, failures'⟩) s t hr
    · exact hr
    obtain ⟨⟨x, hx⟩, hmeasured⟩ := hr
    have hsample : metricItem metrics "bits_per_second" = .ok x := by
      rw [metricItem, hx]
    have hnext := fun hwaited => ih hmeasured hwaited
      (by rw [List.length_append, List.length_singleton]; omega)
      (by rw [throughputs_concat hx, List.length_append, List.length_append, hthroughput]; rfl)
    rw [throughputs_concat hx, List.length_append, List.mapIdx_concat] at hnext
    simp only [hsample, ofExcept_ok, wp_pure_bind]
    split
    · obtain ⟨⟨after, hreached, -⟩, -, -⟩ := hmeasured
      rw [wp_bind]
      refine wp_mono (pause_spec P options.interRunDelay s) ?_
      rintro (e | ⟨⟩) s' t' ⟨hdelay, rfl⟩
      · obtain ⟨e, hdelay, rfl⟩ := hdelay
        refine .delayed hreached ?_ (hreached.start_lt (List.concat_ne_nil _ _)) hdelay
        rw [List.length_append, List.length_singleton]
        omega
      · exact hnext fun _ _ => hdelay
    · exact hnext fun hpositive => by omega

/-! ## The measurement -/

/-- **`_run_iperf`** runs the worker and then makes the summary. -/
theorem runIperf_spec (P : Interpreter τ) (world : ℕ → CompletedProcess)
    (commandPrefix : List String) (options : BenchmarkOptions τ) (protocol : String) (start : ℕ)
    (hattempts : 0 < options.maxAttempts) :
    wp (runIperf P world commandPrefix options protocol) start fun r s _ =>
      (∃ items failures, items.length = options.repetitions.toNat ∧
        (throughputs items).length = items.length ∧
        Measured (iperfOutcome P world (iperfCommand commandPrefix options protocol) protocol)
          (P.sleep options.interRunDelay) options.repetitions.toNat options.maxAttempts.toNat start
          items failures s ∧
        r = (summarize P.arithmetic (throughputs items)).map
          (iperfSection (items.mapIdx runDict) failures)) ∨
      ∃ e, r = .error e ∧
        Stops (iperfOutcome P world (iperfCommand commandPrefix options protocol) protocol)
          (P.sleep options.interRunDelay) options.repetitions.toNat options.maxAttempts.toNat start
          e := by
  rw [runIperf, wp_bind]
  have hstart : Measured
      (iperfOutcome P world (iperfCommand commandPrefix options protocol) protocol)
      (P.sleep options.interRunDelay) options.repetitions.toNat options.maxAttempts.toNat start
      [] [] start :=
    ⟨⟨[], .start, rfl⟩, fun n hle hlt => absurd hle (Nat.not_le_of_lt hlt),
      fun hlt => absurd hlt (by omega)⟩
  refine wp_mono (iperfLoop_spec hstart (fun _ => waited_start _ start) (Nat.zero_add _) rfl
    hattempts) ?_
  rintro (e | ⟨runs, failures, throughput⟩) s t hr
  · exact Or.inr ⟨e, rfl, hr⟩
  obtain ⟨items, hlength, hthroughput, hmeasured, rfl, rfl⟩ := hr
  simp only
  rw [wp_bind, wp_ofExcept]
  cases hsummary : summarize P.arithmetic (throughputs items) with
  | ok summary =>
    refine Or.inl ⟨items, failures, hlength, hthroughput, hmeasured, ?_⟩
    rw [hsummary]
    rfl
  | error e =>
    refine Or.inl ⟨items, failures, hlength, hthroughput, hmeasured, ?_⟩
    rw [hsummary]
    rfl

/-- The attempts of a repetition all fail. -/
def Exhausted (outcome : ℕ → Except ToolError (List (String × τ))) (count limit start : ℕ) : Prop :=
  ∃ item position, Ends outcome count limit start (.exhausted item) position

/-- All repetitions are made: the section has a run for each of them, with its number, and an
entry for every failed attempt, in order, with the numbers of its repetition and of the attempt
for it. -/
def Lists (outcome : ℕ → Except ToolError (List (String × τ))) (count limit start : ℕ)
    (runs : List (Value τ)) (failures : List FailedAttempt) : Prop :=
  runs.length = count ∧
  (∀ (k : ℕ) (run : Value τ), runs[k]? = some run → run.item "repetition" = .ok (.int (k + 1))) ∧
  (∀ repetition, failures.countP (·.repetition = repetition) < limit) ∧
  ∃ items failed position, Ends outcome count limit start (.complete items failed) position ∧
    failures.map (fun failure => (failure.repetition, failure.attempt))
      = failed.map fun failure => (failure.item, failure.attempt)

/-- What a measurement may end with. -/
def KeepsContract (outcome : ℕ → Except ToolError (List (String × τ))) (count limit start : ℕ)
    (result : Except ToolError (Value τ)) : Prop :=
  (Exhausted outcome count limit start ∧
    ∃ message, result = .error (.benchmarkCommandError message)) ∨
  (¬ Exhausted outcome count limit start ∧ ∃ runs failures summary,
    result = .ok (iperfSection runs failures summary) ∧
    Lists outcome count limit start runs failures)

/-- No output of the attempts is odd but valid JSON, the delay is one that `time.sleep` accepts if
there is more than one attempt, and the throughputs have a mean and a standard deviation. -/
structure OrdinaryRun (P : Interpreter τ) (world : ℕ → CompletedProcess)
    (command : List String) (protocol : String) (delay : τ) (count limit start : ℕ) : Prop where
  outputs : ∀ items failures tries position,
    Reaches (iperfOutcome P world command protocol) count limit start items failures tries
      position → items.length < count → (world position).returncode = 0 →
    ¬ UncaughtOutput P protocol (world position).stdout
  delays : ∀ items failures tries position,
    Reaches (iperfOutcome P world command protocol) count limit start items failures tries
      position → items.length < count → start < position → P.sleep delay = .ok ()
  statistics : ∀ items failures position,
    Ends (iperfOutcome P world command protocol) count limit start (.complete items failures)
      position → HasStatistics P.arithmetic (throughputs items)

theorem lists_of_measured {items : List (List (String × τ))} {failures : List FailedAttempt}
    {delay : Except SleepError Unit}
    (h : Measured outcome delay count limit start items failures position)
    (hlength : items.length = count) (hlimit : 0 < limit) :
    Lists outcome count limit start (items.mapIdx runDict) failures := by
  obtain ⟨⟨more, hreaches, rfl⟩, -, -⟩ := h
  refine ⟨?_, ?_, ?_, items, more, position, .complete hreaches hlength, ?_⟩
  · rw [List.length_mapIdx, hlength]
  · intro k run hrun
    rw [List.getElem?_mapIdx, Option.map_eq_some_iff] at hrun
    obtain ⟨metrics, -, rfl⟩ := hrun
    rfl
  · intro repetition
    rw [List.countP_map]
    exact (hreaches.countP_item hlimit repetition).1
  · rw [List.map_map]
    rfl

/-- Before the last attempt, which `CaughtBefore` covers, there is no odd output. -/
theorem not_uncaughtOutput_of_caughtBefore {n last : ℕ}
    (h : CaughtBefore (iperfOutcome P world command protocol) start last) (hstart : start ≤ n)
    (hlt : n < last) (hcode : (world n).returncode = 0) :
    ¬ UncaughtOutput P protocol (world n).stdout := fun hodd =>
  h n hstart hlt ((uncaught_iperfOutcome_iff n).2 ⟨hcode, hodd⟩)

/-- A measurement that made all repetitions, but for the summary. -/
theorem keeps_contract_iff_of_complete (hP : P.arithmetic.IndexesPercentiles) {delay : τ}
    {items : List (List (String × τ))} {failures : List FailedAttempt}
    (h : Measured (iperfOutcome P world command protocol) (P.sleep delay) count limit start items
      failures position)
    (hlength : items.length = count) (hthroughput : throughputs items ≠ []) (hlimit : 0 < limit) :
    KeepsContract (iperfOutcome P world command protocol) count limit start
        ((summarize P.arithmetic (throughputs items)).map
          (iperfSection (items.mapIdx runDict) failures)) ↔
      OrdinaryRun P world command protocol delay count limit start := by
  have hlists := lists_of_measured h hlength hlimit
  obtain ⟨⟨more, hreaches, rfl⟩, hcaught, hwaited⟩ := h
  have hends : Ends _ count limit start _ position := .complete hreaches hlength
  have hnot : ¬ Exhausted (iperfOutcome P world command protocol) count limit start := by
    rintro ⟨item, last, hexhausted⟩
    cases (hends.unique hexhausted).1
  constructor
  · rintro (⟨hexhausted, -⟩ | ⟨-, runs, failures, summary, hresult, -⟩)
    · exact absurd hexhausted hnot
    have hbefore : ∀ {items' failures' tries' position'},
        Reaches (iperfOutcome P world command protocol) count limit start items' failures' tries'
          position' → items'.length < count → position' < position := by
      intro items' failures' tries' position' hreaches' hlt
      refine lt_of_le_of_ne (hends.le_of_reaches hreaches') ?_
      rintro rfl
      obtain ⟨rfl, -, -⟩ := hreaches.unique hreaches'
      omega
    refine ⟨?_, ?_, ?_⟩
    · intro items' failures' tries' position' hreaches' hlt hcode
      exact not_uncaughtOutput_of_caughtBefore hcaught hreaches'.start_le (hbefore hreaches' hlt)
        hcode
    · intro items' failures' tries' position' hreaches' hlt hstart
      exact hwaited (lt_of_le_of_lt hstart (hbefore hreaches' hlt))
    · intro items' failures' position' hends'
      obtain ⟨rfl, -⟩ := Ending.complete.inj (hends.unique hends').1
      rw [← summarize_isOk_iff hP hthroughput]
      cases hsummary : summarize P.arithmetic (throughputs items) with
      | ok summary => exact ⟨summary, rfl⟩
      | error e =>
        rw [hsummary] at hresult
        cases hresult
  · intro hordinary
    obtain ⟨summary, hsummary⟩ :=
      (summarize_isOk_iff hP hthroughput).2 (hordinary.statistics _ _ _ hends)
    rw [hsummary]
    exact Or.inr ⟨hnot, _, _, summary, rfl, hlists⟩

/-- A measurement that stopped. -/
theorem keeps_contract_iff_of_stops {delay : τ} {e : ToolError}
    (h : Stops (iperfOutcome P world command protocol) (P.sleep delay) count limit start e) :
    KeepsContract (iperfOutcome P world command protocol) count limit start
        (.error e : Except ToolError (Value τ)) ↔
      OrdinaryRun P world command protocol delay count limit start := by
  cases h with
  | @exhausted item position message hends hcaught hwaited =>
    refine iff_of_true (Or.inl ⟨⟨item, position, hends⟩, message, rfl⟩) ⟨?_, ?_, ?_⟩
    · intro items' failures' tries' position' hreaches' _ hcode
      exact not_uncaughtOutput_of_caughtBefore hcaught hreaches'.start_le
        (Nat.lt_succ_of_le (hends.le_of_reaches hreaches')) hcode
    · intro items' failures' tries' position' hreaches' _ hstart
      exact hwaited (lt_of_lt_of_le hstart (hends.le_of_reaches hreaches'))
    · intro items' failures' position' hends'
      cases (hends.unique hends').1
  | @uncaught items failures tries position _ hreaches hlt houtcome hnone =>
    refine iff_of_false ?_ ?_
    · rintro (⟨-, message, hresult⟩ | ⟨-, runs, failures, summary, hresult, -⟩)
      · rw [Except.error.inj hresult] at hnone
        cases hnone
      · cases hresult
    · intro hordinary
      obtain ⟨hcode, hodd⟩ := (uncaught_iperfOutcome_iff position).1 ⟨e, houtcome, hnone⟩
      exact hordinary.outputs _ _ _ _ hreaches hlt hcode hodd
  | @delayed items failures tries position e hreaches hlt hstart hdelay =>
    refine iff_of_false ?_ ?_
    · rintro (⟨-, message, hresult⟩ | ⟨-, runs, failures, summary, hresult, -⟩)
      · cases e <;> cases hresult
      · cases hresult
    · intro hordinary
      rw [hordinary.delays _ _ _ _ hreaches hlt hstart] at hdelay
      cases hdelay

/-- **The measurement** ends as documented exactly when its run is ordinary. -/
theorem runIperf_keeps_contract_iff (P : Interpreter τ) (hP : P.arithmetic.IndexesPercentiles)
    (world : ℕ → CompletedProcess) (commandPrefix : List String) (options : BenchmarkOptions τ)
    (protocol : String) (start : ℕ) (hrepetitions : 0 < options.repetitions)
    (hattempts : 0 < options.maxAttempts) :
    KeepsContract
        (iperfOutcome P world (iperfCommand commandPrefix options protocol) protocol)
        options.repetitions.toNat options.maxAttempts.toNat start
        (runIperf P world commandPrefix options protocol start).result ↔
      OrdinaryRun P world (iperfCommand commandPrefix options protocol) protocol
        options.interRunDelay options.repetitions.toNat options.maxAttempts.toNat start := by
  rcases runIperf_spec P world commandPrefix options protocol start hattempts with
    ⟨items, failures, hlength, hthroughput, hmeasured, hresult⟩ | ⟨e, hresult, hstops⟩
  · have hne : throughputs items ≠ [] := List.length_pos_iff.1 (by omega)
    rw [hresult]
    exact keeps_contract_iff_of_complete hP hmeasured hlength hne (by omega)
  · rw [hresult]
    exact keeps_contract_iff_of_stops hstops

/-- A result with a throughput, as `iperf3` writes it. -/
def resultText : String :=
  "\x7b\"end\": \x7b\"sum_received\": \x7b\"bits_per_second\": 5\x7d\x7d\x7d"

/-- `json.loads` of this result and of `null`. -/
def sampleInterpreter : Interpreter ℚ where
  arithmetic := .exact id
  loads text :=
    if text = resultText then
      .ok (.dict [("end", .dict [("sum_received", .dict [("bits_per_second", .int 5)])])])
    else if text = "null" then .ok .null
    else .error (.jsonDecodeError "Expecting value: line 1 column 1 (char 0)")
  str _ := .ok ""
  sleep _ := .ok ()

/-- One repetition in at most two attempts. -/
def benchmarkSample : BenchmarkOptions ℚ where
  label := "vpn"
  target := "10.0.0.1"
  networkNamespace := none
  repetitions := 1
  pingCount := 1
  iperfPort := 5201
  iperfDuration := 10
  udpBitrate := "100M"
  maxAttempts := 2
  interRunDelay := 1
  skipIperf := false

/-- A command that fails once and then gives the result. -/
def secondAttempt (n : ℕ) : CompletedProcess :=
  if n = 0 then ⟨1, "", "unable to connect"⟩ else ⟨0, resultText, ""⟩

/-- A command that gives `null`. -/
def nullOutput (_ : ℕ) : CompletedProcess := ⟨0, "null", ""⟩

/-- A measurement with a failed attempt. -/
theorem runIperf_keeps_contract_sample :
    KeepsContract
        (iperfOutcome sampleInterpreter secondAttempt (iperfCommand [] benchmarkSample "tcp") "tcp")
        1 2 0 (runIperf sampleInterpreter secondAttempt [] benchmarkSample "tcp" 0).result ↔
      OrdinaryRun sampleInterpreter secondAttempt (iperfCommand [] benchmarkSample "tcp") "tcp"
        1 1 2 0 :=
  runIperf_keeps_contract_iff sampleInterpreter (exact_indexesPercentiles id) secondAttempt []
    benchmarkSample "tcp" 0 (by decide) (by decide)

/-- The output `null` ends the measurement with `TypeError`. -/
theorem runIperf_keeps_contract_not :
    ¬ KeepsContract
      (iperfOutcome sampleInterpreter nullOutput (iperfCommand [] benchmarkSample "tcp") "tcp")
      1 2 0 (runIperf sampleInterpreter nullOutput [] benchmarkSample "tcp" 0).result := by
  have hresult : (runIperf sampleInterpreter nullOutput [] benchmarkSample "tcp" 0).result
      = .error .typeError := rfl
  rw [hresult]
  rintro (⟨-, message, h⟩ | ⟨-, runs, failures, summary, h, -⟩)
  · cases h
  · cases h

end MatfVpn
