/-
# What the benchmark tool writes

The sections of a document, from the commands that ran.

* `runLatency_spec` : the samples of every repetition are those of its `ping`;
* `runIperf_eq_ok` : the runs of a protocol and their failed attempts;
* `benchmarkMain_eq_ok` : the document.
-/
import MatfVpn.IperfRuns

namespace MatfVpn

open Program Attempts

variable {τ : Type}

/-! ## Latency -/

/-- The run of a repetition of the latency. -/
def pingRun (repetition : ℕ) (samples : List τ) : Value τ :=
  .dict [("repetition", .int (repetition + 1)), ("rtt_ms", .list (samples.map .float))]

/-- A command that returns gives its output. -/
theorem runCommand_spec (world : ℕ → CompletedProcess) (command : List String) (n : ℕ) :
    wp (runCommand world command : Tool τ String) n fun r s _ =>
      s = n + 1 ∧ ∀ output, r = .ok output → output = (world n).stdout := by
  unfold runCommand
  rw [wp_read_bind, wp_update_bind, wp_emit_bind]
  by_cases hcode : (world n).returncode ≠ 0
  · rw [if_pos hcode]
    exact ⟨rfl, fun output h => by cases h⟩
  · rw [if_neg hcode]
    exact ⟨rfl, fun output h => (Except.ok.inj h).symm⟩

/-- The n-th command and the later ones give these samples. -/
def GivesTimes (A : Arithmetic τ) (world : ℕ → CompletedProcess) (n : ℕ)
    (blocks : List (List τ)) : Prop :=
  ∀ k times, blocks[k]? = some times →
    parsePingTimes A (world (n + k)).stdout.toList = .ok times

theorem latencyLoop_spec {A : Arithmetic τ} {world : ℕ → CompletedProcess}
    {command : List String} {remaining n : ℕ} {blocks : List (List τ)}
    (h : GivesTimes A world n blocks) :
    wp (latencyLoop A world command remaining blocks.length blocks.flatten
      (blocks.mapIdx pingRun)) (n + blocks.length) fun r _ _ =>
        ∀ samples runs, r = .ok (samples, runs) → ∃ blocks' : List (List τ),
          blocks'.length = blocks.length + remaining ∧ samples = blocks'.flatten ∧
          runs = blocks'.mapIdx pingRun ∧ GivesTimes A world n blocks' := by
  induction remaining generalizing blocks with
  | zero =>
    rintro samples runs hresult
    obtain ⟨rfl, rfl⟩ := Prod.mk.inj (Except.ok.inj hresult)
    exact ⟨blocks, rfl, rfl, rfl, h⟩
  | succ remaining ih =>
    rw [latencyLoop, wp_bind]
    refine wp_mono (runCommand_spec world command (n + blocks.length)) ?_
    rintro (e | output) s t ⟨rfl, houtput⟩
    · exact fun samples runs hresult => by cases hresult
    obtain rfl := houtput output rfl
    simp only
    rw [wp_bind, wp_ofExcept]
    cases htimes : parsePingTimes A (world (n + blocks.length)).stdout.toList with
    | error e => exact fun samples runs hresult => by cases hresult
    | ok times =>
      -- the times of this call are those of the block after the others
      have hnext : GivesTimes A world n (blocks ++ [times]) := by
        intro k times' hk
        by_cases hlast : k < blocks.length
        · rw [List.getElem?_append_left hlast] at hk
          exact h k times' hk
        · have hlength := (List.getElem?_eq_some_iff.1 hk).1
          rw [List.length_append, List.length_singleton] at hlength
          obtain rfl : k = blocks.length := by omega
          rw [List.getElem?_concat_length] at hk
          rwa [← Option.some.inj hk]
      have hloop := ih hnext
      rw [List.length_append, List.length_singleton, List.flatten_append, List.flatten_singleton,
        List.mapIdx_concat] at hloop
      refine wp_mono hloop ?_
      intro r s t hr samples runs hresult
      obtain ⟨blocks', hlength, hblocks'⟩ := hr samples runs hresult
      exact ⟨blocks', by omega, hblocks'⟩

/-- **The latency** of a document. -/
theorem runLatency_spec {A : Arithmetic τ} {world : ℕ → CompletedProcess}
    {commandPrefix : List String} {options : BenchmarkOptions τ} (n : ℕ) :
    wp (runLatency A world commandPrefix options) n fun r _ _ =>
      ∀ latency, r = .ok latency → ∃ (blocks : List (List τ)) (summary : Summary τ),
        blocks.length = options.repetitions.toNat ∧ GivesTimes A world n blocks ∧
        summarize A blocks.flatten = .ok summary ∧
        latency = .dict [("unit", .str "ms"), ("raw_runs", .list (blocks.mapIdx pingRun)),
          ("summary", summary.toDict)] := by
  rw [runLatency, wp_bind]
  have hempty : GivesTimes A world n [] := fun k times hk => by cases hk
  have hloop := @latencyLoop_spec τ A world (pingCommand commandPrefix options)
    options.repetitions.toNat n [] hempty
  refine wp_mono hloop ?_
  rintro (e | ⟨samples, runs⟩) s t hr
  · exact fun latency hresult => by cases hresult
  obtain ⟨blocks, hlength, rfl, rfl, htimes⟩ := hr samples runs rfl
  simp only
  rw [wp_bind, wp_ofExcept]
  cases hsummary : summarize A blocks.flatten with
  | error e => exact fun latency hresult => by cases hresult
  | ok summary =>
    intro latency hresult
    exact ⟨blocks, summary, by rw [hlength]; exact Nat.zero_add _, htimes, hsummary,
      (Except.ok.inj hresult).symm⟩

/-! ## Throughput -/

/-- **The section** of a protocol. -/
theorem runIperf_eq_ok {P : Interpreter τ} {world : ℕ → CompletedProcess}
    {commandPrefix : List String} {options : BenchmarkOptions τ} {protocol : String} {start : ℕ}
    {section_ : Value τ} (hattempts : 0 < options.maxAttempts)
    (h : (runIperf P world commandPrefix options protocol start).result = .ok section_) :
    ∃ items failures position summary, items.length = options.repetitions.toNat ∧
      Measured (iperfOutcome P world (iperfCommand commandPrefix options protocol) protocol)
        (P.sleep options.interRunDelay) options.repetitions.toNat options.maxAttempts.toNat start
        items failures position ∧
      section_ = iperfSection (items.mapIdx runDict) failures summary := by
  rcases runIperf_spec P world commandPrefix options protocol start hattempts with
    ⟨items, failures, hlength, -, hmeasured, hresult⟩ | ⟨e, hresult, -⟩
  · rw [h] at hresult
    cases hsummary : summarize P.arithmetic (throughputs items) with
    | error e =>
      rw [hsummary] at hresult
      cases hresult
    | ok summary =>
      rw [hsummary] at hresult
      exact ⟨items, failures, _, summary, hlength, hmeasured, Except.ok.inj hresult⟩
  · rw [h] at hresult
    cases hresult

/-! ## The document -/

/-- The options of a document are positive. -/
theorem validateOptions_eq_ok {A : Arithmetic τ} {options : BenchmarkOptions τ}
    (h : validateOptions A options = .ok ()) :
    0 < options.repetitions ∧ 0 < options.pingCount ∧ 0 < options.maxAttempts := by
  unfold validateOptions at h
  split at h
  · cases h
  split at h
  · cases h
  split at h
  · cases h
  omega

/-- **A document** that the tool writes. -/
theorem benchmarkMain_eq_ok {P : Interpreter τ} {world : ℕ → CompletedProcess} {machine : Machine}
    {options : BenchmarkOptions τ} {document : Value τ} {n : ℕ}
    (h : (benchmarkMain P world machine options n).result = .ok document) :
    validateOptions P.arithmetic options = .ok () ∧
    document.item "parameters" = .ok (parametersDict options) ∧
    ∃ commandPrefix latency,
      (runLatency P.arithmetic world commandPrefix options n).result = .ok latency ∧
      document.item "latency" = .ok latency ∧
      ∀ protocol ∈ ["tcp", "udp"], document.item protocol = .error .keyError ∨
        ∃ start section_, document.item protocol = .ok section_ ∧
          (runIperf P world commandPrefix options protocol start).result = .ok section_ := by
  obtain ⟨_, n₁, t₁, hvalid, h⟩ := result_bind_eq_ok.1 h
  cases hoptions : validateOptions P.arithmetic options with
  | error e =>
    rw [hoptions] at hvalid
    cases (Outcome.mk.inj hvalid).1
  | ok _ =>
    rw [hoptions] at hvalid
    obtain rfl := (Outcome.mk.inj hvalid).2.1
    refine ⟨rfl, ?_⟩
    simp only at h
    split at h
    · cases h
    obtain ⟨latency, n₂, t₂, hlatency, h⟩ := result_bind_eq_ok.1 h
    have hresult := congrArg Outcome.result hlatency
    split at h
    · obtain rfl := Except.ok.inj h
      refine ⟨rfl, _, latency, hresult, rfl, ?_⟩
      intro protocol hprotocol
      rcases List.mem_pair.1 hprotocol with rfl | rfl <;> exact Or.inl rfl
    · obtain ⟨tcp, n₃, t₃, htcp, h⟩ := result_bind_eq_ok.1 h
      obtain ⟨udp, n₄, t₄, hudp, h⟩ := result_bind_eq_ok.1 h
      obtain rfl := Except.ok.inj h
      refine ⟨rfl, _, latency, hresult, rfl, ?_⟩
      intro protocol hprotocol
      rcases List.mem_pair.1 hprotocol with rfl | rfl
      · exact Or.inr ⟨n₂, tcp, rfl, congrArg Outcome.result htcp⟩
      · exact Or.inr ⟨n₃, udp, rfl, congrArg Outcome.result hudp⟩

/-! ## A document -/

/-- A machine. -/
def benchmarkMachine : Machine where
  createdAt := "2026-01-01T00:00:00+00:00"
  hostname := "host"
  platform := "Linux"
  python := "3.12.3"
  cpuCount := some 1
  hasIperf := true

/-- The summary of samples that are all the same. -/
def sameSamples (count : ℕ) (x : ℚ) : Summary ℚ := ⟨count, x, x, x, x, x, 0, x, x⟩

end MatfVpn
