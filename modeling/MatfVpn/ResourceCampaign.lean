/-
# From the counters of the kernel to the values of the analysis

The monitors of a campaign write one document for each block, the report joins them, and the
analysis takes one mean from each block of the report.

* `resourceValues_of_report` : the values of the analysis are the means of the monitored blocks;
* `cpuValues_bounds` : those about the CPU are percentages;
* `exists_monitorMain`, `exists_resourceReport` : with exact numbers a monitor that took samples
  writes them, and the report of monitored blocks is written.
-/
import MatfVpn.CampaignRounds
import MatfVpn.Lib.Grouping
import MatfVpn.ResourceSamples
import MatfVpn.SortedKeys

namespace MatfVpn

open Blocks

variable {τ : Type}

/-! ## The documents -/

/-- The sample as it is read from the document of the monitor. -/
def ResourceSample.written (sample : ResourceSample τ) : List (String × Value τ) :=
  sortFields (Value.sortKeysFields sample.fields)

/-- The sample with the number of its block. -/
def blockSample (block : ℕ) (sample : ResourceSample τ) : List (String × Value τ) :=
  Value.setField sample.written "block" (.int block)

theorem numberSample_written (block : ℕ) (sample : ResourceSample τ) :
    numberSample block (.dict sample.written) = .ok (blockSample block sample) := rfl

/-- The block of a sample. -/
theorem block_blockSample (block : ℕ) (sample : ResourceSample τ) :
    (Value.dict (blockSample block sample)).item "block" = .ok (.int block) :=
  Value.item_setField_self _ _ _

/-- The other fields of a sample. -/
theorem lookup_blockSample (block : ℕ) (sample : ResourceSample τ) {name : String}
    (hname : name ≠ "block") :
    (blockSample block sample).lookup name = (sample.fields.lookup name).map Value.sortKeys := by
  rw [blockSample, Value.lookup_setField, if_neg hname, ResourceSample.written,
    Value.lookup_sortKeys]

theorem item_blockSample (block : ℕ) (sample : ResourceSample τ) {name : String}
    (hname : name ≠ "block") : (Value.dict (blockSample block sample)).item name
      = ((Value.dict sample.fields).item name).map Value.sortKeys :=
  (Value.item_setField_of_ne _ _ hname).trans (Value.item_sortKeys name (.dict sample.fields))

/-- The number of the sample that a resource metric is about. -/
def ResourceSample.metric (key : String) (sample : ResourceSample τ) : τ :=
  if key = "server_cpu_percent" then sample.systemCpuPercent else sample.memoryUsedMib

/-- What was written has these samples. -/
def HasSamples (document : Value τ) (samples : List (ResourceSample τ)) : Prop :=
  document.sortKeys.item "raw_samples"
    = .ok (.list (samples.map fun sample => .dict sample.written))

/-- The file at the path holds the document, written with sorted keys. -/
def HoldsWritten (P : Interpreter τ) (readText : String → Except ReadError String) (path : String)
    (document : Value τ) : Prop := Holds P readText path document.sortKeys

theorem sortKeys_samples (samples : List (ResourceSample τ)) :
    (Value.list (samples.map fun sample => .dict sample.fields)).sortKeys
      = .list (samples.map fun sample => .dict sample.written) := by
  rw [Value.sortKeys, Value.sortKeysItems_eq, List.map_map]
  rfl

/-- **A monitor** that returns has taken samples and written them. -/
theorem monitorMain_eq_ok {A : Arithmetic τ} {run : MonitorRun τ} {document : Value τ}
    (h : monitorMain A run = .ok document) :
    document.sortKeys.get? "schema_version" = .ok (some (.int 1)) ∧
      document.sortKeys.contains "raw_samples" = .ok true ∧
      ∃ samples, run.samples A = .ok samples ∧ samples ≠ [] ∧ HasSamples document samples := by
  unfold monitorMain at h
  split at h
  · cases h
  obtain ⟨samples, hsamples, h⟩ := except_bind_eq_ok.1 h
  split at h
  · cases h
  rename_i hne
  obtain ⟨summary, -, h⟩ := except_bind_eq_ok.1 h
  obtain rfl := Except.ok.inj h
  refine ⟨?_, ?_, samples, hsamples, hne, ?_⟩
  · rw [Value.get?_sortKeys]
    rfl
  · rw [Value.contains_sortKeys]
    rfl
  · rw [HasSamples, ← sortKeys_samples]
    exact Value.item_sortKeys _ _

/-- The document of a file is loaded if it is one of a monitor. -/
theorem loadResourceBlock_of_holds {P : Interpreter τ}
    {readText : String → Except ReadError String} {path : String} {document : Value τ}
    (h : Holds P readText path document) :
    loadResourceBlock P readText path = (do
      let version ← document.get? "schema_version"
      if ¬ Value.eqOptional P.arithmetic version (some (.int 1)) then
        .error (.valueError s!"invalid resource monitor document: {path}")
      else if ← document.contains "raw_samples" then .ok document
      else .error (.valueError s!"invalid resource monitor document: {path}")) := by
  obtain ⟨text, htext, hloads⟩ := h
  unfold loadResourceBlock
  rw [htext]
  simp only
  rw [hloads]

/-- A file that the report loads holds what it is loaded as. -/
theorem loadResourceBlock_eq_of_holds {P : Interpreter τ}
    {readText : String → Except ReadError String} {path : String} {document loaded : Value τ}
    (h : Holds P readText path document)
    (hload : loadResourceBlock P readText path = .ok loaded) : loaded = document := by
  rw [loadResourceBlock_of_holds h] at hload
  obtain ⟨version, -, hload⟩ := except_bind_eq_ok.1 hload
  split at hload
  · cases hload
  obtain ⟨present, -, hload⟩ := except_bind_eq_ok.1 hload
  split at hload
  · exact (Except.ok.inj hload).symm
  · cases hload

/-- The samples of a block in the report. -/
theorem readResourceBlock_eq {P : Interpreter τ} {readText : String → Except ReadError String}
    {path : String} {document : Value τ} {samples : List (ResourceSample τ)} {block : ℕ}
    {fields : List (List (String × Value τ))} (h : HoldsWritten P readText path document)
    (hsamples : HasSamples document samples)
    (hread : readResourceBlock P readText (path, block) = .ok fields) :
    fields = samples.map (blockSample block) := by
  obtain ⟨loaded, hload, hread⟩ := except_bind_eq_ok.1 hread
  obtain rfl := loadResourceBlock_eq_of_holds h hload
  rw [hsamples] at hread
  exact Except.ok.inj (hread.symm.trans (mapM_map_eq_ok (numberSample_written block) samples))

/-- **The samples of the report** are those of the blocks with their numbers. -/
theorem samples_of_report {P : Interpreter τ} {readText : String → Except ReadError String}
    {paths : List String} {documents : List (Value τ)}
    {blocks : List (List (ResourceSample τ))} {read : List (List (List (String × Value τ)))}
    (hfiles : List.Forall₂ (HoldsWritten P readText) paths documents)
    (hsamples : List.Forall₂ HasSamples documents blocks)
    (hread : (paths.zipIdx 1).mapM (readResourceBlock P readText) = .ok read) :
    read.flatten = join (fun _ block sample => blockSample block sample) blocks := by
  -- the induction is on the files: numbers and blocks go on where the files before stopped
  have hchunks : ∀ number block,
      ∀ read, (paths.zipIdx (block + 1)).mapM (readResourceBlock P readText) = .ok read →
        read = numberBlocks (fun _ block sample => blockSample block sample) number block
          blocks := by
    clear hread
    induction hfiles generalizing blocks with
    | nil =>
      cases hsamples
      intro number block read hread
      exact (Except.ok.inj hread).symm
    | cons hfile _ ih =>
      cases hsamples with
      | cons hblock hblocks =>
        intro number block read hread
        rw [List.zipIdx_cons, List.mapM_cons] at hread
        obtain ⟨first, hfirst, hread⟩ := except_bind_eq_ok.1 hread
        obtain ⟨rest, hrest, hread⟩ := except_bind_eq_ok.1 hread
        obtain rfl := Except.ok.inj hread
        rw [numberBlocks, ← ih hblocks _ _ rest hrest, readResourceBlock_eq hfile hblock hfirst]
        congr 1
        apply List.ext_getElem?
        intro k
        rw [List.getElem?_mapIdx, List.getElem?_map]
  rw [join, hchunks 0 0 read hread]

/-- **A report** that is written has the samples of its blocks. -/
theorem resourceReport_eq_ok {P : Interpreter τ} {readText : String → Except ReadError String}
    {createdAt label : String} {paths : List String} {documents : List (Value τ)}
    {blocks : List (List (ResourceSample τ))} {report : Value τ}
    (hfiles : List.Forall₂ (HoldsWritten P readText) paths documents)
    (hsamples : List.Forall₂ HasSamples documents blocks)
    (h : resourceReport P readText createdAt label paths = .ok report) :
    report.sortKeys.item "raw_samples" = .ok (.list
      ((join (fun _ block sample => blockSample block sample) blocks).map
        fun fields => (Value.dict fields).sortKeys)) := by
  obtain ⟨read, hread, h⟩ := except_bind_eq_ok.1 h
  obtain ⟨summary, -, h⟩ := except_bind_eq_ok.1 h
  obtain rfl := Except.ok.inj h
  rw [← samples_of_report hfiles hsamples hread, Value.item_sortKeys]
  show Except.ok (Value.list (read.flatten.map Value.dict)).sortKeys = _
  rw [Value.sortKeys, Value.sortKeysItems_eq, List.map_map]
  rfl

/-! ## The values of the analysis -/

/-- The number of the block of a sample, and the number that the metric is about. -/
def readResourceValue (A : Arithmetic τ) (field : String) (sample : Value τ) :
    Except ToolError (ℤ × τ) := do
  let block ← (← sample.item "block").toInt A
  let value ← sampleNumber A field sample
  return (block, value)

theorem addResourceValue_eq (A : Arithmetic τ) (field : String)
    (blocks : OrderedDict ℤ (List τ)) (sample : Value τ) :
    addResourceValue A field blocks sample
      = (readResourceValue A field sample).map blocks.append := by
  unfold addResourceValue readResourceValue
  cases sample.item "block" with
  | error e => rfl
  | ok value =>
    show (value.toInt A >>= _) = (value.toInt A >>= _).map _
    cases value.toInt A with
    | error e => rfl
    | ok block =>
      show (sampleNumber A field sample >>= _) = (sampleNumber A field sample >>= _).map _
      cases sampleNumber A field sample with
      | error e => rfl
      | ok number => rfl

theorem readResourceValue_blockSample (A : Arithmetic τ) (key : String) (block : ℕ)
    (sample : ResourceSample τ) :
    readResourceValue A (resourceField key) (Value.dict (blockSample block sample)).sortKeys
      = .ok ((block : ℤ), sample.metric key) := by
  rw [readResourceValue, sampleNumber, Value.item_sortKeys, Value.item_sortKeys, block_blockSample]
  unfold resourceField ResourceSample.metric
  split
  · rw [item_blockSample block sample (by decide)]
    rfl
  · rw [item_blockSample block sample (by decide)]
    rfl

/-- The values of the analysis are the means of the blocks. -/
theorem resourceValues_of_join (A : Arithmetic τ) {report : Value τ}
    {blocks : List (List (ResourceSample τ))} (hblocks : ∀ samples ∈ blocks, samples ≠ [])
    (hreport : report.sortKeys.item "raw_samples" = .ok (.list
      ((join (fun _ block sample => blockSample block sample) blocks).map
        fun fields => (Value.dict fields).sortKeys)))
    (key : String) :
    resourceValues A report.sortKeys key
      = (blocks.map (List.map (ResourceSample.metric key))).mapM A.fmean := by
  have hread : ((join (fun _ block sample => blockSample block sample) blocks).map
      fun fields => (Value.dict fields).sortKeys).mapM (readResourceValue A (resourceField key))
        = .ok (join (fun _ block sample => ((block : ℤ), ResourceSample.metric key sample))
            blocks) := by
    -- every sample is read back with the number of its block
    let numbered : List (ℕ × ResourceSample τ) :=
      join (fun _ block sample => (block, sample)) blocks
    have hraw : (join (fun _ block sample => blockSample block sample) blocks).map
          (fun fields => (Value.dict fields).sortKeys)
        = numbered.map fun entry => (Value.dict (blockSample entry.1 entry.2)).sortKeys := by
      rw [map_join, map_join]
    have hvalues : join (fun _ block sample => ((block : ℤ), ResourceSample.metric key sample))
        blocks = numbered.map fun entry => ((entry.1 : ℤ), entry.2.metric key) := by
      rw [map_join]
    rw [hraw, hvalues]
    exact mapM_map_eq_ok (fun entry : ℕ × ResourceSample τ =>
      readResourceValue_blockSample A key entry.1 entry.2) _
  unfold resourceValues
  rw [hreport]
  show (List.foldlM (addResourceValue A (resourceField key)) .empty _ >>= _) = _
  rw [foldlM_eq_map_foldl (addResourceValue_eq A (resourceField key)), hread]
  show List.mapM (fun block => A.fmean _)
    ((OrderedDict.keys (OrderedDict.group _)).insertionSort _) = _
  rw [← OrderedDict.groups_join (ResourceSample.metric key) hblocks, List.mapM_map]
  rfl

/-- The mean of what the monitor sampled. -/
def MonitorRun.mean (A : Arithmetic τ) (key : String) (run : MonitorRun τ) :
    Except ToolError τ := do
  let samples ← run.samples A
  A.fmean (samples.map (ResourceSample.metric key))

/-- The run took these samples, and at least one. -/
def MonitorRun.Takes (A : Arithmetic τ) (run : MonitorRun τ)
    (samples : List (ResourceSample τ)) : Prop := run.samples A = .ok samples ∧ samples ≠ []

/-- The samples of the runs are those of their documents. -/
theorem exists_blocks_of_runs {A : Arithmetic τ} {documents : List (Value τ)}
    {runs : List (MonitorRun τ)}
    (h : List.Forall₂ (fun run document => monitorMain A run = .ok document) runs documents) :
    ∃ blocks, List.Forall₂ (MonitorRun.Takes A) runs blocks ∧
      List.Forall₂ HasSamples documents blocks := by
  induction h with
  | nil => exact ⟨[], .nil, .nil⟩
  | cons hrun _ ih =>
    obtain ⟨-, -, samples, htaken, hne, hsamples⟩ := monitorMain_eq_ok hrun
    obtain ⟨blocks, hruns, hblocks⟩ := ih
    exact ⟨samples :: blocks, .cons ⟨htaken, hne⟩ hruns, .cons hsamples hblocks⟩

/-- The means of the runs are those of the blocks. -/
theorem mapM_mean {A : Arithmetic τ} {runs : List (MonitorRun τ)}
    {blocks : List (List (ResourceSample τ))}
    (h : List.Forall₂ (MonitorRun.Takes A) runs blocks) (key : String) :
    runs.mapM (MonitorRun.mean A key)
      = (blocks.map (List.map (ResourceSample.metric key))).mapM A.fmean := by
  induction h with
  | nil => rfl
  | cons hrun _ ih =>
    rw [List.map_cons, List.mapM_cons, List.mapM_cons, ih, MonitorRun.mean, hrun.1]
    rfl

/-- No run took nothing. -/
theorem ne_nil_of_takes {A : Arithmetic τ} {runs : List (MonitorRun τ)}
    {blocks : List (List (ResourceSample τ))}
    (h : List.Forall₂ (MonitorRun.Takes A) runs blocks) : ∀ samples ∈ blocks, samples ≠ [] := by
  induction h with
  | nil => exact List.forall_mem_nil _
  | cons hrun _ ih => exact List.forall_mem_cons.2 ⟨hrun.2, ih⟩

/-- **From the counters to the analysis.** The monitors of a campaign write their documents, the
report joins them, and the analysis takes the values of a resource metric: these are, block by
block in the order of the campaign, the means of what the monitor of the block sampled. -/
theorem resourceValues_of_report {P : Interpreter τ}
    {readText : String → Except ReadError String} {createdAt label : String}
    {paths : List String} {documents : List (Value τ)} {runs : List (MonitorRun τ)}
    {report : Value τ} (hruns : List.Forall₂ (fun run document =>
      monitorMain P.arithmetic run = .ok document) runs documents)
    (hfiles : List.Forall₂ (HoldsWritten P readText) paths documents)
    (hreport : resourceReport P readText createdAt label paths = .ok report) (key : String) :
    resourceValues P.arithmetic report.sortKeys key
      = runs.mapM (MonitorRun.mean P.arithmetic key) := by
  obtain ⟨blocks, htaken, hsamples⟩ := exists_blocks_of_runs hruns
  rw [resourceValues_of_join P.arithmetic (ne_nil_of_takes htaken)
    (resourceReport_eq_ok hfiles hsamples hreport), mapM_mean htaken]

/-! ## Exact numbers -/

/-- A mean is between the bounds of the values. -/
theorem mean_mem_bounds {values : List ℚ} (hne : values ≠ []) {low high : ℚ}
    (h : ∀ x ∈ values, low ≤ x ∧ x ≤ high) :
    low ≤ Arithmetic.mean values ∧ Arithmetic.mean values ≤ high := by
  have hpos : (0 : ℚ) < values.length := by exact_mod_cast List.length_pos_iff.2 hne
  have hlow := List.card_nsmul_le_sum values low fun x hx => (h x hx).1
  have hhigh := List.sum_le_card_nsmul values high fun x hx => (h x hx).2
  rw [nsmul_eq_mul, mul_comm] at hlow hhigh
  exact ⟨(le_div_iff₀ hpos).2 hlow, (div_le_iff₀ hpos).2 hhigh⟩

/-- **A percentage.** The values of the analysis about the CPU are percentages. -/
theorem cpuValues_bounds {sqrt : ℚ → ℚ} {runs : List (MonitorRun ℚ)} {values : List ℚ}
    (h : runs.mapM (MonitorRun.mean (.exact sqrt) "server_cpu_percent") = .ok values) :
    ∀ value ∈ values, 0 ≤ value ∧ value ≤ 100 := by
  intro value hvalue
  obtain ⟨run, -, hmean⟩ := exists_item_of_mapM h hvalue
  obtain ⟨samples, hsamples, hmean⟩ := except_bind_eq_ok.1 hmean
  have hne : samples.map (ResourceSample.metric "server_cpu_percent") ≠ [] := by
    intro hnil
    rw [hnil] at hmean
    cases hmean
  have hvalues : ∀ x ∈ samples.map (ResourceSample.metric "server_cpu_percent"),
      0 ≤ x ∧ x ≤ 100 := by
    intro x hx
    obtain ⟨sample, hsample, rfl⟩ := List.mem_map.1 hx
    exact (cpu_bounds hsamples) sample hsample
  obtain rfl := Except.ok.inj ((if_neg hne).symm.trans hmean)
  exact mean_mem_bounds hne hvalues

/-- A sequence returns when both computations do. -/
theorem exists_bind_eq_ok {ε α β : Type} {x : Except ε α} {f : α → Except ε β}
    (hx : ∃ a, x = .ok a) (hf : ∀ a, x = .ok a → ∃ b, f a = .ok b) :
    ∃ b, (x >>= f) = .ok b := by
  obtain ⟨a, hx⟩ := hx
  obtain ⟨b, hf⟩ := hf a hx
  exact ⟨b, except_bind_eq_ok.2 ⟨a, hx, hf⟩⟩

/-- Samples that are read have a summary. -/
theorem exists_summarize_bind (sqrt : ℚ → ℚ) {x : Except ToolError (List ℚ)} {β : Type}
    {f : Summary ℚ → Except ToolError β} (hx : ∃ values ≠ [], x = .ok values)
    (hf : ∀ summary, ∃ b, f summary = .ok b) :
    ∃ b, (x >>= fun values => summarize (.exact sqrt) values >>= f) = .ok b := by
  obtain ⟨values, hne, rfl⟩ := hx
  obtain ⟨summary, hsummary⟩ := exists_summarize sqrt hne
  obtain ⟨b, hb⟩ := hf summary
  exact ⟨b, except_bind_eq_ok.2 ⟨values, rfl, except_bind_eq_ok.2 ⟨summary, hsummary, hb⟩⟩⟩

theorem exists_resourceSummary (sqrt : ℚ → ℚ) {cpu memory percent rss : Except ToolError (List ℚ)}
    (hcpu : ∃ values ≠ [], cpu = .ok values) (hmemory : ∃ values ≠ [], memory = .ok values)
    (hpercent : ∃ values ≠ [], percent = .ok values) (hrss : ∃ values, rss = .ok values) :
    ∃ summary, resourceSummary (.exact sqrt) cpu memory percent rss = .ok summary := by
  refine exists_summarize_bind sqrt hcpu fun cpu => exists_summarize_bind sqrt hmemory
    fun memory => exists_summarize_bind sqrt hpercent fun percent =>
      exists_bind_eq_ok hrss fun rss _ => ?_
  by_cases hempty : rss = []
  · exact ⟨_, if_pos hempty⟩
  · obtain ⟨_, hsummary⟩ := exists_summarize sqrt hempty
    exact ⟨_, (if_neg hempty).trans (except_bind_eq_ok.2 ⟨_, hsummary, rfl⟩)⟩

/-- A monitor that has taken samples writes a document. -/
theorem exists_monitorMain {sqrt : ℚ → ℚ} {run : MonitorRun ℚ} {samples : List (ResourceSample ℚ)}
    (hinterval : 0 < run.interval) (hsamples : run.samples (.exact sqrt) = .ok samples)
    (hne : samples ≠ []) : ∃ document, monitorMain (.exact sqrt) run = .ok document := by
  have hmap : ∀ g : ResourceSample ℚ → ℚ, samples.map g ≠ [] :=
    fun g hnil => hne (List.map_eq_nil_iff.1 hnil)
  obtain ⟨summary, hsummary⟩ := exists_resourceSummary sqrt ⟨_, hmap (·.systemCpuPercent), rfl⟩
    ⟨_, hmap (·.memoryUsedMib), rfl⟩ ⟨_, hmap (·.memoryUsedPercent), rfl⟩
    ⟨samples.filterMap (·.processRssMib), rfl⟩
  have hpositive : ¬ ((Arithmetic.exact sqrt).lt run.interval ((Arithmetic.exact sqrt).ofRat 0) ∨
      (Arithmetic.exact sqrt).eqInt 0 run.interval) := by
    rintro (hneg | hzero)
    · exact absurd (of_decide_eq_true hneg) hinterval.le.not_gt
    · exact hinterval.ne (by simpa using of_decide_eq_true hzero)
  refine ⟨_, (if_neg hpositive).trans (except_bind_eq_ok.2 ⟨samples, hsamples,
    (if_neg hne).trans (except_bind_eq_ok.2 ⟨summary, hsummary, rfl⟩)⟩)⟩

/-- A document of a monitor is read. -/
theorem exists_readResourceBlock {P : Interpreter τ} {readText : String → Except ReadError String}
    {path : String} {document : Value τ} {run : MonitorRun τ}
    (h : HoldsWritten P readText path document)
    (hrun : monitorMain P.arithmetic run = .ok document) (block : ℕ) :
    ∃ fields, readResourceBlock P readText (path, block) = .ok fields := by
  obtain ⟨hversion, hpresent, samples, -, -, hsamples⟩ := monitorMain_eq_ok hrun
  have hload : loadResourceBlock P readText path = .ok document.sortKeys := by
    rw [loadResourceBlock_of_holds h, hversion, hpresent]
    rfl
  exact ⟨_, except_bind_eq_ok.2 ⟨_, hload, except_bind_eq_ok.2 ⟨_, hsamples,
    mapM_map_eq_ok (numberSample_written block) samples⟩⟩⟩

/-- The numbers of the joined samples. -/
theorem exists_sampleNumbers {A : Arithmetic τ} {name : String} {g : ResourceSample τ → τ}
    (hname : name ≠ "block")
    (hg : ∀ sample, (Value.dict sample.fields).item name = .ok (.float (g sample)))
    {numbered : List (ℕ × ResourceSample τ)} (hne : numbered ≠ []) :
    ∃ values ≠ [], ((numbered.map fun entry => blockSample entry.1 entry.2).map
      Value.dict).mapM (sampleNumber A name) = .ok values := by
  have hnumber : ∀ entry : ℕ × ResourceSample τ,
      sampleNumber A name (.dict (blockSample entry.1 entry.2)) = .ok (g entry.2) := by
    intro entry
    rw [sampleNumber, item_blockSample entry.1 entry.2 hname, hg]
    rfl
  refine ⟨numbered.map fun entry => g entry.2, fun hnil => hne (List.map_eq_nil_iff.1 hnil), ?_⟩
  rw [List.map_map]
  exact mapM_map_eq_ok hnumber numbered

/-- The memory of the matching processes is a number where there is one. -/
theorem exists_sampleRss (A : Arithmetic τ) (numbered : List (ℕ × ResourceSample τ)) :
    ∃ values, ((numbered.map fun entry => blockSample entry.1 entry.2).filterMap
      sampleRss?).mapM (Value.toFloat A) = .ok values := by
  refine exists_mapM_eq_ok fun value hvalue => ?_
  obtain ⟨fields, hfields, hvalue⟩ := List.mem_filterMap.1 hvalue
  obtain ⟨entry, -, rfl⟩ := List.mem_map.1 hfields
  obtain ⟨block, sample⟩ := entry
  have hlookup : (blockSample block sample).lookup "process_rss_mib"
      = some ((sample.processRssMib.map Value.float).getD .null) := by
    rw [lookup_blockSample block sample (by decide), ResourceSample.fields]
    cases sample.processRssMib <;> rfl
  cases hrss : sample.processRssMib with
  | none =>
    rw [sampleRss?, hlookup, hrss] at hvalue
    cases hvalue
  | some rss =>
    rw [sampleRss?, hlookup, hrss] at hvalue
    obtain rfl := Option.some.inj hvalue
    exact ⟨rss, rfl⟩

/-- **The report** of monitored blocks is written. -/
theorem exists_resourceReport {P : Interpreter ℚ} {sqrt : ℚ → ℚ} (hA : P.arithmetic = .exact sqrt)
    {readText : String → Except ReadError String} (createdAt label : String)
    {paths : List String} {documents : List (Value ℚ)} {runs : List (MonitorRun ℚ)}
    (hruns : List.Forall₂ (fun run document => monitorMain P.arithmetic run = .ok document)
      runs documents)
    (hfiles : List.Forall₂ (HoldsWritten P readText) paths documents) (hne : paths ≠ []) :
    ∃ report, resourceReport P readText createdAt label paths = .ok report := by
  obtain ⟨blocks, htaken, hsamples⟩ := exists_blocks_of_runs hruns
  have hread : ∃ read, (paths.zipIdx 1).mapM (readResourceBlock P readText) = .ok read := by
    refine exists_mapM_eq_ok fun entry hentry => ?_
    obtain ⟨path, block⟩ := entry
    obtain ⟨document, hdocument, hfile⟩ :=
      exists_of_mem_forall₂ hfiles (List.fst_mem_of_mem_zipIdx hentry)
    obtain ⟨run, -, hrun⟩ := exists_of_mem_forall₂ hruns.flip hdocument
    exact exists_readResourceBlock hfile hrun block
  obtain ⟨read, hread⟩ := hread
  have hflatten := samples_of_report hfiles hsamples hread
  let numbered : List (ℕ × ResourceSample ℚ) := join (fun _ block sample => (block, sample)) blocks
  have hnumbered : read.flatten = numbered.map fun entry => blockSample entry.1 entry.2 := by
    rw [hflatten, map_join]
  -- every monitor took a sample, so there is something to summarize
  have hnonempty : numbered ≠ [] := by
    rw [← List.length_pos_iff, length_join]
    cases hfiles with
    | nil => exact absurd rfl hne
    | cons _ _ =>
      cases hsamples with
      | @cons _ first _ _ _ _ =>
        have hfirst := ne_nil_of_takes htaken first List.mem_cons_self
        rw [List.map_cons, List.sum_cons]
        exact Nat.add_pos_left (List.length_pos_iff.2 hfirst) _
  refine exists_bind_eq_ok ⟨read, hread⟩ fun read' hread' => ?_
  obtain rfl := Except.ok.inj (hread.symm.trans hread')
  rw [hnumbered]
  refine exists_bind_eq_ok ?_ fun summary _ => ⟨_, rfl⟩
  rw [hA]
  exact exists_resourceSummary sqrt (exists_sampleNumbers (by decide) (fun _ => rfl) hnonempty)
    (exists_sampleNumbers (by decide) (fun _ => rfl) hnonempty)
    (exists_sampleNumbers (by decide) (fun _ => rfl) hnonempty) (exists_sampleRss _ numbered)

/-! ## A campaign -/

/-- The run of the next block, in which the processors were less busy. -/
def nextMonitorRun : MonitorRun ℚ where
  label := "block"
  interval := 1
  processMatch := none
  startedAt := "2026-01-01T00:01:00+00:00"
  completedAt := "2026-01-01T00:01:02+00:00"
  stat := "cpu 1 0 1 2".toList
  readings := [⟨"cpu 3 0 2 3".toList, "MemTotal: 4 kB\nMemAvailable: 1 kB\n".toList, []⟩,
    ⟨"cpu 4 0 2 6".toList, "MemTotal: 4 kB\nMemAvailable: 2 kB\n".toList, []⟩]

/-- The means of the two runs. -/
theorem mean_sampleRuns :
    [sampleMonitorRun, nextMonitorRun].mapM (MonitorRun.mean (.exact id) "server_cpu_percent")
      = .ok [55, 50] := by
  decide +kernel

/-- What the monitors of the two runs write is told apart. -/
theorem texts_sampleRuns {first second : Value ℚ}
    (hfirst : monitorMain (.exact id) sampleMonitorRun = .ok first)
    (hsecond : monitorMain (.exact id) nextMonitorRun = .ok second) :
    jsonChars first.sortKeys ≠ jsonChars second.sortKeys := by
  have htexts : (monitorMain (.exact id) sampleMonitorRun).map (fun d => jsonChars d.sortKeys)
      ≠ (monitorMain (.exact id) nextMonitorRun).map fun d => jsonChars d.sortKeys := by
    decide +kernel
  rw [hfirst, hsecond] at htexts
  exact fun h => htexts (congrArg Except.ok h)

/-- Two files that hold what was written. -/
theorem holdsWritten_pair {first second : Value ℚ}
    (h : jsonChars first.sortKeys ≠ jsonChars second.sortKeys) :
    List.Forall₂ (HoldsWritten (knowingAll id [first.sortKeys, second.sortKeys])
      (filesHolding [("1.json", first.sortKeys), ("2.json", second.sortKeys)]))
      ["1.json", "2.json"] [first, second] := by
  have hnodup : (["1.json", "2.json"] : List String).Nodup := by decide
  have hholds : List.Forall₂ (Holds (knowingAll id [first.sortKeys, second.sortKeys])
      (filesHolding [("1.json", first.sortKeys), ("2.json", second.sortKeys)]))
      ["1.json", "2.json"] ([first, second].map Value.sortKeys) :=
    holds_filesHolding id hnodup (List.pairwise_pair.2 h)
  rw [List.forall₂_map_right_iff] at hholds
  exact hholds

/-- Two blocks of a campaign: the processors were busy for 55 and for 50 percent. -/
theorem resourceValues_of_report_sample : ∃ first second report,
    monitorMain (.exact id) sampleMonitorRun = .ok first ∧
    monitorMain (.exact id) nextMonitorRun = .ok second ∧
    resourceReport (knowingAll id [first.sortKeys, second.sortKeys])
      (filesHolding [("1.json", first.sortKeys), ("2.json", second.sortKeys)]) "" "python"
      ["1.json", "2.json"] = .ok report ∧
    resourceValues (.exact id) report.sortKeys "server_cpu_percent" = .ok [55, 50] := by
  obtain ⟨first, hfirst⟩ : ∃ first, monitorMain (.exact id) sampleMonitorRun = .ok first :=
    ⟨_, eq_ok_get (by decide +kernel)⟩
  obtain ⟨second, hsecond⟩ : ∃ second, monitorMain (.exact id) nextMonitorRun = .ok second :=
    ⟨_, eq_ok_get (by decide +kernel)⟩
  have hruns : List.Forall₂ (fun run document => monitorMain (.exact id) run = .ok document)
      [sampleMonitorRun, nextMonitorRun] [first, second] := .cons hfirst (.cons hsecond .nil)
  have hfiles := holdsWritten_pair (texts_sampleRuns hfirst hsecond)
  obtain ⟨report, hreport⟩ := exists_resourceReport rfl "" "python" hruns hfiles
    (List.cons_ne_nil _ _)
  refine ⟨first, second, report, hfirst, hsecond, hreport, ?_⟩
  rw [← mean_sampleRuns]
  exact resourceValues_of_report hruns hfiles hreport "server_cpu_percent"

end MatfVpn
