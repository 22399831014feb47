/-
# What the samples of the CPU say

A sample is about the time between two readings of the counters of the kernel.  With exact
numbers it is a percentage, and the samples together account for all of the busy time.

* `cpuPercents_of_samples` : every sample compares two readings next to each other;
* `cpu_accounting` : the samples are percentages and account for the busy time.
-/
import MatfVpn.HolmAdjustment
import MatfVpn.ResourceMonitor

namespace MatfVpn

variable {τ : Type}

/-- The time that the processors were not idle. -/
def CpuTimes.busy (times : CpuTimes) : ℤ := times.total - times.idle

/-- No counter goes back. -/
def CpuTimes.Advances (previous current : CpuTimes) : Prop :=
  previous.idle ≤ current.idle ∧ previous.busy ≤ current.busy

/-- The counters of a reading. -/
def MonitorReading.cpuTimes (reading : MonitorReading) : Except ToolError CpuTimes :=
  readCpuTimes reading.stat

/-! ## The loop -/

/-- The body of the loop reads the counters. -/
theorem takeSample_eq_ok {A : Arithmetic τ} {interval : τ} {processMatch : Option String}
    {count : ℕ} {previous current : CpuTimes} {reading : MonitorReading}
    {sample : ResourceSample τ}
    (h : takeSample A interval processMatch count previous reading = .ok (sample, current)) :
    reading.cpuTimes = .ok current ∧ sample.systemCpuPercent = cpuPercent A previous current := by
  obtain ⟨times, htimes, h⟩ := except_bind_eq_ok.1 h
  obtain ⟨memory, -, h⟩ := except_bind_eq_ok.1 h
  obtain ⟨percent, -, h⟩ := except_bind_eq_ok.1 h
  obtain ⟨rss, -, h⟩ := except_bind_eq_ok.1 h
  obtain ⟨rfl, rfl⟩ := Prod.mk.inj (Except.ok.inj h)
  exact ⟨htimes, rfl⟩

theorem cpuPercents_of_loop {A : Arithmetic τ} {interval : τ} {processMatch : Option String}
    {readings : List MonitorReading} {count : ℕ} {previous : CpuTimes}
    {samples : List (ResourceSample τ)}
    (h : collectLoop A interval processMatch count previous readings = .ok samples) :
    ∃ times, readings.mapM MonitorReading.cpuTimes = .ok times ∧
      samples.map (·.systemCpuPercent)
        = List.zipWith (cpuPercent A) (previous :: times) times := by
  -- the counters of a sample are the previous ones of the next sample
  induction readings generalizing count previous samples with
  | nil =>
    obtain rfl := Except.ok.inj h
    exact ⟨[], rfl, rfl⟩
  | cons reading readings ih =>
    obtain ⟨⟨sample, current⟩, hsample, h⟩ := except_bind_eq_ok.1 h
    obtain ⟨rest, hrest, h⟩ := except_bind_eq_ok.1 h
    obtain rfl := Except.ok.inj h
    obtain ⟨hcurrent, hpercent⟩ := takeSample_eq_ok hsample
    obtain ⟨times, htimes, hpercents⟩ := ih hrest
    refine ⟨current :: times, ?_, ?_⟩
    · rw [List.mapM_cons, hcurrent, htimes]
      rfl
    · rw [List.map_cons, List.zipWith_cons_cons, hpercent, hpercents]

/-- **Every sample** compares two readings next to each other. -/
theorem cpuPercents_of_samples {A : Arithmetic τ} {run : MonitorRun τ}
    {samples : List (ResourceSample τ)} (h : run.samples A = .ok samples) :
    ∃ first times, readCpuTimes run.stat = .ok first ∧
      run.readings.mapM MonitorReading.cpuTimes = .ok times ∧
      samples.map (·.systemCpuPercent) = List.zipWith (cpuPercent A) (first :: times) times := by
  obtain ⟨first, hfirst, h⟩ := except_bind_eq_ok.1 h
  obtain ⟨times, htimes, hpercents⟩ := cpuPercents_of_loop h
  exact ⟨first, times, hfirst, htimes, hpercents⟩

/-! ## Percentages -/

theorem cpuPercent_bounds (sqrt : ℚ → ℚ) (previous current : CpuTimes) :
    0 ≤ cpuPercent (.exact sqrt) previous current ∧
      cpuPercent (.exact sqrt) previous current ≤ 100 := by
  unfold cpuPercent
  simp only [exact_max, exact_min]
  split
  · exact ⟨le_refl (0 : ℚ), by norm_num [Arithmetic.exact]⟩
  · exact ⟨le_max_left _ _, max_le (by norm_num [Arithmetic.exact]) (min_le_left _ _)⟩

/-- **A sample** is the busy part of its time, where no counter goes back. -/
theorem cpuPercent_mul (sqrt : ℚ → ℚ) {previous current : CpuTimes}
    (h : previous.Advances current) :
    cpuPercent (.exact sqrt) previous current * ((current.total : ℚ) - previous.total)
      = 100 * ((current.busy : ℚ) - previous.busy) := by
  obtain ⟨hidle, hbusy⟩ := h
  unfold CpuTimes.busy at *
  unfold cpuPercent
  simp only [exact_max, exact_min]
  split
  · -- no time has passed, so no counter has moved
    have htotal : current.total = previous.total := by omega
    have hsame : current.idle = previous.idle := by omega
    rw [htotal, hsame, sub_self, mul_zero, sub_self, mul_zero]
  · rename_i hpositive
    have hdelta : (0 : ℚ) < (current.total : ℚ) - previous.total := by
      exact_mod_cast not_le.1 hpositive
    have hnonneg : (0 : ℚ) ≤ ((current.total : ℚ) - previous.total)
        - ((current.idle : ℚ) - previous.idle) := by
      have hcast : (previous.total - previous.idle : ℚ) ≤ current.total - current.idle := by
        exact_mod_cast hbusy
      linarith
    have hle : ((current.total : ℚ) - previous.total) - ((current.idle : ℚ) - previous.idle)
        ≤ (current.total : ℚ) - previous.total := by
      have hcast : (previous.idle : ℚ) ≤ current.idle := by exact_mod_cast hidle
      linarith
    -- the share of the busy time is between 0 and 1, so neither bound of `cpu_percent` acts
    show max 0 (min 100
      ((((current.total - previous.total - (current.idle - previous.idle) : ℤ) : ℚ)
      / ((current.total - previous.total : ℤ) : ℚ)) * 100)) * _ = _
    push_cast
    rw [min_eq_right, max_eq_right]
    · field_simp
      ring
    · exact mul_nonneg (div_nonneg hnonneg hdelta.le) (by norm_num)
    · have hshare := (div_le_one hdelta).2 hle
      linarith

/-! ## Accounting -/

/-- The time between readings next to each other. -/
def ticks (first : CpuTimes) (times : List CpuTimes) : List ℚ :=
  List.zipWith (fun previous current => (current.total : ℚ) - previous.total) (first :: times) times

/-- The last reading. -/
def lastTimes (first : CpuTimes) (times : List CpuTimes) : CpuTimes := times.getLastD first

theorem sum_percents (sqrt : ℚ → ℚ) {first : CpuTimes} {times : List CpuTimes}
    (h : (first :: times).IsChain CpuTimes.Advances) :
    (List.zipWith (· * ·) (List.zipWith (cpuPercent (.exact sqrt)) (first :: times) times)
      (ticks first times)).sum
        = 100 * (((lastTimes first times).busy : ℚ) - first.busy) := by
  induction times generalizing first with
  | nil =>
    rw [lastTimes, List.getLastD_nil, sub_self, mul_zero]
    rfl
  | cons current times ih =>
    obtain ⟨hadvances, hchain⟩ := List.isChain_cons_cons.1 h
    have hrest := ih hchain
    unfold ticks at *
    rw [List.zipWith_cons_cons, List.zipWith_cons_cons, List.zipWith_cons_cons, List.sum_cons,
      hrest, cpuPercent_mul sqrt hadvances]
    rw [lastTimes, lastTimes, List.getLastD_cons]
    ring

/-- The samples of a run are percentages. -/
theorem cpu_bounds {sqrt : ℚ → ℚ} {run : MonitorRun ℚ} {samples : List (ResourceSample ℚ)}
    (h : run.samples (.exact sqrt) = .ok samples) :
    ∀ sample ∈ samples, 0 ≤ sample.systemCpuPercent ∧ sample.systemCpuPercent ≤ 100 := by
  obtain ⟨first, times, -, -, hpercents⟩ := cpuPercents_of_samples h
  intro sample hsample
  have hmem := List.mem_map_of_mem (f := (·.systemCpuPercent)) hsample
  rw [hpercents, ← List.map_uncurry_zip_eq_zipWith] at hmem
  obtain ⟨readings, -, hsample⟩ := List.mem_map.1 hmem
  rw [← hsample]
  exact cpuPercent_bounds sqrt readings.1 readings.2

/-- **Accounting of the CPU.** Every sample of a run is a percentage.  Where no counter of the
kernel goes back, the samples with the times that they are about add up to the busy time between
the first reading and the last: no tick is left out and none counts twice. -/
theorem cpu_accounting (sqrt : ℚ → ℚ) {run : MonitorRun ℚ} {samples : List (ResourceSample ℚ)}
    (h : run.samples (.exact sqrt) = .ok samples) :
    (∀ sample ∈ samples, 0 ≤ sample.systemCpuPercent ∧ sample.systemCpuPercent ≤ 100) ∧
      ∃ first times, readCpuTimes run.stat = .ok first ∧
        run.readings.mapM MonitorReading.cpuTimes = .ok times ∧
        samples.length = times.length ∧
        ((first :: times).IsChain CpuTimes.Advances →
          (List.zipWith (fun sample time => sample.systemCpuPercent * time) samples
            (ticks first times)).sum
              = 100 * (((lastTimes first times).busy : ℚ) - first.busy)) := by
  obtain ⟨first, times, hfirst, htimes, hpercents⟩ := cpuPercents_of_samples h
  refine ⟨cpu_bounds h, first, times, hfirst, htimes, ?_, ?_⟩
  · have hlength := congrArg List.length hpercents
    rw [List.length_map, List.length_zipWith, List.length_cons] at hlength
    omega
  · intro hchain
    have hsum := sum_percents sqrt hchain
    rwa [← hpercents, List.zipWith_map_left] at hsum

/-! ## A run -/

/-- A run of the monitor with two samples. -/
def sampleMonitorRun : MonitorRun ℚ where
  label := "block"
  interval := 1
  processMatch := none
  startedAt := "2026-01-01T00:00:00+00:00"
  completedAt := "2026-01-01T00:00:02+00:00"
  stat := "cpu 1 0 1 2".toList
  readings := [⟨"cpu 2 0 2 4".toList, "MemTotal: 4 kB\nMemAvailable: 1 kB\n".toList, []⟩,
    ⟨"cpu 5 0 2 5 1".toList, "MemTotal: 4 kB\nMemAvailable: 2 kB\n".toList, []⟩]

theorem samples_sampleMonitorRun :
    ∃ samples, sampleMonitorRun.samples (.exact id) = .ok samples ∧ samples.length = 2 :=
  ⟨_, rfl, rfl⟩

/-- The processors were busy for 5 of the 9 ticks of the run. -/
theorem cpu_accounting_sample :
    ∃ samples, sampleMonitorRun.samples (.exact id) = .ok samples ∧
      (List.zipWith (fun sample time => sample.systemCpuPercent * time) samples [4, 5]).sum
        = 500 := by
  obtain ⟨samples, hsamples, -⟩ := samples_sampleMonitorRun
  obtain ⟨-, first, times, hfirst, htimes, -, hsum⟩ := cpu_accounting id hsamples
  obtain rfl : first = ⟨4, 2⟩ := (Except.ok.inj hfirst).symm
  obtain rfl : times = [⟨8, 4⟩, ⟨13, 6⟩] := (Except.ok.inj htimes).symm
  have hchain : List.IsChain CpuTimes.Advances [⟨4, 2⟩, ⟨8, 4⟩, ⟨13, 6⟩] := by
    simp [CpuTimes.Advances, CpuTimes.busy]
  have hticks : ticks ⟨4, 2⟩ [⟨8, 4⟩, ⟨13, 6⟩] = [4, 5] := by norm_num [ticks]
  refine ⟨samples, hsamples, ?_⟩
  rw [← hticks, hsum hchain]
  norm_num [lastTimes, CpuTimes.busy]

end MatfVpn
