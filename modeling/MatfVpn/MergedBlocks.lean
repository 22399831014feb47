/-
# What a merged document holds

`merge_benchmark_blocks` reads the blocks and joins their runs: every run gets its number in the
joined list and the number of its block, and a failed attempt the number of its block alone.

* `mergeThroughput_eq` : the joined runs and failed attempts of a protocol;
* `mergeLatency_eq` : the joined runs of the latency.
-/
import MatfVpn.Experiment
import MatfVpn.Lib.Blocks

namespace MatfVpn

open Blocks

variable {τ : Type}

/-! ## Throughput -/

/-- The fields of a run and its throughput. -/
def readRun (A : Arithmetic τ) (run : Value τ) :
    Except ToolError (List (String × Value τ) × τ) := do
  let fields ← run.spread
  let throughput ← run.item "bits_per_second"
  let throughput ← throughput.toFloat A
  return (fields, throughput)

/-- What the merge reads in a section of a block. -/
structure BlockSection (τ : Type) where
  runs : List (List (String × Value τ) × τ)
  failures : List (List (String × Value τ))

/-- The runs of the section and its failed attempts. -/
def readSection (A : Arithmetic τ) (protocol : String) (document : Value τ) :
    Except ToolError (BlockSection τ) := do
  let section_ ← document.item protocol
  let runs ← section_.item "raw_runs"
  let runs ← (← runs.iterate).mapM (readRun A)
  let failures ← section_.get? "failed_attempts"
  let failures ← (← (failures.getD (.list [])).iterate).mapM Value.spread
  return ⟨runs, failures⟩

/-- The run is appended. -/
def MergedThroughput.addRun (block : ℕ) (merged : MergedThroughput τ)
    (run : List (String × Value τ) × τ) : MergedThroughput τ :=
  { merged with
    runs := merged.runs ++ [throughputRun (merged.runs.length + 1) block run.1]
    throughput := merged.throughput ++ [run.2] }

/-- The failed attempt is appended. -/
def MergedThroughput.addFailure (block : ℕ) (merged : MergedThroughput τ)
    (fields : List (String × Value τ)) : MergedThroughput τ :=
  { merged with failures := merged.failures ++ [blockFailure block fields] }

/-- The section of a block is appended. -/
def MergedThroughput.addBlock (merged : MergedThroughput τ) (block : BlockSection τ × ℕ) :
    MergedThroughput τ :=
  block.1.failures.foldl (addFailure block.2) (block.1.runs.foldl (addRun block.2) merged)

theorem mergeThroughputRun_eq (A : Arithmetic τ) (block : ℕ) (merged : MergedThroughput τ)
    (run : Value τ) :
    mergeThroughputRun A block merged run = (readRun A run).map (merged.addRun block) := by
  unfold mergeThroughputRun readRun
  cases run.spread with
  | error e => rfl
  | ok fields =>
    show (run.item "bits_per_second" >>= _) = Except.map _ (run.item "bits_per_second" >>= _)
    cases run.item "bits_per_second" with
    | error e => rfl
    | ok throughput =>
      show (throughput.toFloat A >>= _) = Except.map _ (throughput.toFloat A >>= _)
      cases throughput.toFloat A <;> rfl

theorem mergeFailure_eq (block : ℕ) (merged : MergedThroughput τ) (failure : Value τ) :
    mergeFailure block merged failure = failure.spread.map (merged.addFailure block) := by
  unfold mergeFailure
  cases failure.spread <;> rfl

/-- **The section** of a block is read and then appended. -/
theorem mergeThroughputBlock_eq (A : Arithmetic τ) (protocol : String)
    (merged : MergedThroughput τ) (block : Value τ × ℕ) :
    mergeThroughputBlock A protocol merged block
      = ((readSection A protocol block.1).map fun section_ => (section_, block.2)).map
        merged.addBlock := by
  unfold mergeThroughputBlock readSection
  cases block.1.item protocol with
  | error e => rfl
  | ok section_ =>
    show (section_.item "raw_runs" >>= _) = Except.map _ (Except.map _ (section_.item _ >>= _))
    cases section_.item "raw_runs" with
    | error e => rfl
    | ok runs =>
      show (runs.iterate >>= _) = Except.map _ (Except.map _ (runs.iterate >>= _))
      cases runs.iterate with
      | error e => rfl
      | ok runs =>
        show (runs.foldlM (mergeThroughputRun A block.2) merged >>= _)
          = Except.map _ (Except.map _ (runs.mapM (readRun A) >>= _))
        rw [foldlM_eq_map_foldl fun s a => mergeThroughputRun_eq A block.2 s a]
        cases runs.mapM (readRun A) with
        | error e => rfl
        | ok runs =>
          show (section_.get? "failed_attempts" >>= _)
            = Except.map _ (Except.map _ (section_.get? "failed_attempts" >>= _))
          cases section_.get? "failed_attempts" with
          | error e => rfl
          | ok failures =>
            show ((failures.getD (.list [])).iterate >>= _)
              = Except.map _ (Except.map _ ((failures.getD (.list [])).iterate >>= _))
            cases (failures.getD (.list [])).iterate with
            | error e => rfl
            | ok failures =>
              show failures.foldlM (mergeFailure block.2) _
                = Except.map _ (Except.map _ (failures.mapM Value.spread >>= _))
              rw [foldlM_eq_map_foldl fun s a => mergeFailure_eq block.2 s a]
              cases failures.mapM Value.spread <;> rfl

theorem foldl_addRun (block : ℕ) (merged : MergedThroughput τ)
    (runs : List (List (String × Value τ) × τ)) :
    runs.foldl (MergedThroughput.addRun block) merged = { merged with
      runs := merged.runs ++ runs.mapIdx fun k run =>
        throughputRun (merged.runs.length + k + 1) block run.1
      throughput := merged.throughput ++ runs.map Prod.snd } := by
  induction runs generalizing merged with
  | nil => simp only [List.foldl_nil, List.mapIdx_nil, List.map_nil, List.append_nil]
  | cons run runs ih =>
    rw [List.foldl_cons, ih]
    simp only [MergedThroughput.addRun, List.mapIdx_cons, List.map_cons, List.append_assoc,
      List.singleton_append, List.length_append, List.length_singleton, Nat.add_assoc,
      Nat.add_comm 1]

theorem foldl_addFailure (block : ℕ) (merged : MergedThroughput τ)
    (failures : List (List (String × Value τ))) :
    failures.foldl (MergedThroughput.addFailure block) merged
      = { merged with failures := merged.failures ++ failures.map (blockFailure block) } := by
  induction failures generalizing merged with
  | nil => simp only [List.foldl_nil, List.map_nil, List.append_nil]
  | cons failure failures ih =>
    rw [List.foldl_cons, ih]
    simp only [MergedThroughput.addFailure, List.map_cons, List.append_assoc,
      List.singleton_append]

/-- What the sections of the blocks are joined to. -/
def joinSections (sections : List (BlockSection τ)) : MergedThroughput τ :=
  (sections.zipIdx 1).foldl MergedThroughput.addBlock ⟨[], [], []⟩

/-- The number of a run in the joined list and that of its block. -/
def numberedRun (number block : ℕ) (run : List (String × Value τ) × τ) : Value τ :=
  throughputRun number block run.1

/-- A failed attempt gets no new number. -/
def numberedFailure (_ block : ℕ) (fields : List (String × Value τ)) : Value τ :=
  blockFailure block fields

theorem foldl_addBlock (merged : MergedThroughput τ) (sections : List (BlockSection τ))
    (block : ℕ) :
    (sections.zipIdx (block + 1)).foldl MergedThroughput.addBlock merged
      = ⟨merged.runs ++ (numberBlocks numberedRun merged.runs.length block
            (sections.map (·.runs))).flatten,
          merged.failures ++ (numberBlocks numberedFailure merged.failures.length block
            (sections.map (·.failures))).flatten,
          merged.throughput ++ (sections.map fun s => s.runs.map Prod.snd).flatten⟩ := by
  induction sections generalizing merged block with
  | nil =>
    simp only [List.zipIdx_nil, List.foldl_nil, List.map_nil, numberBlocks, List.flatten_nil,
      List.append_nil]
  | cons first sections ih =>
    rw [List.zipIdx_cons, List.foldl_cons, ih]
    have hfailures : first.failures.mapIdx (fun k =>
        numberedFailure (merged.failures.length + k + 1) (block + 1))
        = first.failures.map (blockFailure (block + 1)) := by
      refine List.ext_getElem? fun i => ?_
      rw [List.getElem?_mapIdx, List.getElem?_map]
      rfl
    simp only [MergedThroughput.addBlock, foldl_addRun, foldl_addFailure, List.map_cons,
      numberBlocks, List.flatten_cons, List.append_assoc, List.length_append, List.length_mapIdx,
      List.length_map, hfailures]
    rfl

/-- **The joined runs** of a protocol and its failed attempts. -/
theorem joinSections_eq (sections : List (BlockSection τ)) :
    joinSections sections
      = ⟨join numberedRun (sections.map (·.runs)), join numberedFailure (sections.map (·.failures)),
          (sections.map fun s => s.runs.map Prod.snd).flatten⟩ := by
  have hfold := foldl_addBlock (⟨[], [], []⟩ : MergedThroughput τ) sections 0
  rw [List.nil_append, List.nil_append, List.nil_append] at hfold
  exact hfold

/-- **`_merge_throughput`** reads all sections and joins them. -/
theorem mergeThroughput_eq (A : Arithmetic τ) (documents : List (Value τ)) (protocol : String) :
    mergeThroughput A documents protocol = (do
      let sections ← documents.mapM (readSection A protocol)
      let summary ← summarize A (joinSections sections).throughput
      return .dict [("raw_runs", .list (joinSections sections).runs),
        ("failed_attempts", .list (joinSections sections).failures),
        ("throughput_summary_bps", summary.toDict)]) := by
  unfold mergeThroughput
  have hread := mapM_zipIdx (readSection A protocol) documents 1
  rw [foldlM_eq_map_foldl fun s a => mergeThroughputBlock_eq A protocol s a, hread]
  cases documents.mapM (readSection A protocol) with
  | error e => rfl
  | ok sections => rfl

/-! ## Latency -/

/-- The samples of a run. -/
def readTimes (A : Arithmetic τ) (run : Value τ) : Except ToolError (List τ) := do
  let times ← run.item "rtt_ms"
  (← times.iterate).mapM (Value.toFloat A)

/-- The samples of every run of a block. -/
def readLatency (A : Arithmetic τ) (document : Value τ) : Except ToolError (List (List τ)) := do
  let latency ← document.item "latency"
  let runs ← latency.item "raw_runs"
  (← runs.iterate).mapM (readTimes A)

/-- The run is appended. -/
def MergedLatency.addRun (block : ℕ) (merged : MergedLatency τ) (samples : List τ) :
    MergedLatency τ where
  runs := merged.runs ++ [latencyRun (merged.runs.length + 1) block samples]
  samples := merged.samples ++ samples

/-- The runs of a block are appended. -/
def MergedLatency.addBlock (merged : MergedLatency τ) (block : List (List τ) × ℕ) :
    MergedLatency τ :=
  block.1.foldl (addRun block.2) merged

theorem mergeLatencyRun_eq (A : Arithmetic τ) (block : ℕ) (merged : MergedLatency τ)
    (run : Value τ) :
    mergeLatencyRun A block merged run = (readTimes A run).map (merged.addRun block) := by
  unfold mergeLatencyRun readTimes
  cases run.item "rtt_ms" with
  | error e => rfl
  | ok times =>
    show (times.iterate >>= _) = Except.map _ (times.iterate >>= _)
    cases times.iterate with
    | error e => rfl
    | ok times =>
      show (times.mapM (Value.toFloat A) >>= _) = Except.map _ (times.mapM (Value.toFloat A))
      cases times.mapM (Value.toFloat A) <;> rfl

theorem mergeLatencyBlock_eq (A : Arithmetic τ) (merged : MergedLatency τ)
    (block : Value τ × ℕ) :
    mergeLatencyBlock A merged block
      = ((readLatency A block.1).map fun runs => (runs, block.2)).map merged.addBlock := by
  unfold mergeLatencyBlock readLatency
  cases block.1.item "latency" with
  | error e => rfl
  | ok latency =>
    show (latency.item "raw_runs" >>= _) = Except.map _ (Except.map _ (latency.item _ >>= _))
    cases latency.item "raw_runs" with
    | error e => rfl
    | ok runs =>
      show (runs.iterate >>= _) = Except.map _ (Except.map _ (runs.iterate >>= _))
      cases runs.iterate with
      | error e => rfl
      | ok runs =>
        show runs.foldlM (mergeLatencyRun A block.2) merged
          = Except.map _ (Except.map _ (runs.mapM (readTimes A)))
        rw [foldlM_eq_map_foldl fun s a => mergeLatencyRun_eq A block.2 s a]
        cases runs.mapM (readTimes A) <;> rfl

theorem foldl_addLatencyRun (block : ℕ) (merged : MergedLatency τ) (runs : List (List τ)) :
    runs.foldl (MergedLatency.addRun block) merged
      = ⟨merged.runs ++ runs.mapIdx fun k => latencyRun (merged.runs.length + k + 1) block,
          merged.samples ++ runs.flatten⟩ := by
  induction runs generalizing merged with
  | nil => simp only [List.foldl_nil, List.mapIdx_nil, List.flatten_nil, List.append_nil]
  | cons samples runs ih =>
    rw [List.foldl_cons, ih]
    simp only [MergedLatency.addRun, List.mapIdx_cons, List.flatten_cons, List.append_assoc,
      List.singleton_append, List.length_append, List.length_singleton, Nat.add_assoc,
      Nat.add_comm 1]

theorem foldl_addLatencyBlock (merged : MergedLatency τ) (blocks : List (List (List τ)))
    (block : ℕ) :
    (blocks.zipIdx (block + 1)).foldl MergedLatency.addBlock merged
      = ⟨merged.runs ++ (numberBlocks latencyRun merged.runs.length block blocks).flatten,
          merged.samples ++ blocks.flatten.flatten⟩ := by
  induction blocks generalizing merged block with
  | nil =>
    simp only [List.zipIdx_nil, List.foldl_nil, numberBlocks, List.flatten_nil, List.append_nil]
  | cons runs blocks ih =>
    rw [List.zipIdx_cons, List.foldl_cons, ih]
    simp only [MergedLatency.addBlock, foldl_addLatencyRun, numberBlocks, List.flatten_cons,
      List.flatten_append, List.append_assoc, List.length_append, List.length_mapIdx]

/-- **The joined runs** of the latency and their samples. -/
theorem mergeLatency_eq (A : Arithmetic τ) (documents : List (Value τ)) :
    (documents.zipIdx 1).foldlM (mergeLatencyBlock A) ⟨[], []⟩
      = (documents.mapM (readLatency A)).map fun blocks =>
        ⟨join latencyRun blocks, blocks.flatten.flatten⟩ := by
  have hread := mapM_zipIdx (readLatency A) documents 1
  rw [foldlM_eq_map_foldl fun s a => mergeLatencyBlock_eq A s a, hread]
  cases documents.mapM (readLatency A) with
  | error e => rfl
  | ok blocks => exact congrArg Except.ok (foldl_addLatencyBlock ⟨[], []⟩ blocks 0)

/-! ## The document -/

/-- The joined runs of the protocol in the merged document. -/
structure MergedSection (A : Arithmetic τ) (documents : List (Value τ)) (merged : Value τ)
    (protocol : String) (sections : List (BlockSection τ)) : Prop where
  read : documents.mapM (readSection A protocol) = .ok sections
  runs : (merged.item protocol >>= fun section_ => section_.item "raw_runs")
    = .ok (.list (join numberedRun (sections.map (·.runs))))
  failures : (merged.item protocol >>= fun section_ => section_.item "failed_attempts")
    = .ok (.list (join numberedFailure (sections.map (·.failures))))

/-- The latency in the merged document. -/
structure MergedSamples (A : Arithmetic τ) (documents : List (Value τ)) (merged : Value τ)
    (reference : Value τ) (blocks : List (List (List τ))) : Prop where
  read : documents.mapM (readLatency A) = .ok blocks
  runs : (merged.item "latency" >>= fun section_ => section_.item "raw_runs")
    = .ok (.list (join latencyRun blocks))
  lost : ∃ pingCount count lost, reference.item "ping_count" = .ok pingCount ∧
    pingCount.toInt A = .ok count ∧
    lostPercent A ((join latencyRun blocks).length * count) blocks.flatten.flatten.length
      = .ok lost ∧
    (merged.item "latency" >>= fun section_ => section_.item "lost_percent") = .ok (.float lost)

/-- The section of a protocol is missing, or joined. -/
theorem mergeProtocol_eq_ok {A : Arithmetic τ} {first : Value τ} {documents : List (Value τ)}
    {protocol : String} {fields : List (String × Value τ)}
    (h : mergeProtocol A first documents protocol = .ok fields) :
    (first.contains protocol = .ok false ∧ fields = []) ∨
    (first.contains protocol = .ok true ∧ ∃ sections summary,
      documents.mapM (readSection A protocol) = .ok sections ∧
      fields = [(protocol, .dict [
        ("raw_runs", .list (join numberedRun (sections.map (·.runs)))),
        ("failed_attempts", .list (join numberedFailure (sections.map (·.failures)))),
        ("throughput_summary_bps", summary)])]) := by
  obtain ⟨present, hpresent, h⟩ := except_bind_eq_ok.1 h
  cases present with
  | false =>
    rw [if_neg Bool.false_ne_true] at h
    exact Or.inl ⟨hpresent, (Except.ok.inj h).symm⟩
  | true =>
    rw [if_pos rfl] at h
    obtain ⟨section_, hsection, h⟩ := except_bind_eq_ok.1 h
    rw [mergeThroughput_eq] at hsection
    obtain ⟨sections, hsections, hsection⟩ := except_bind_eq_ok.1 hsection
    obtain ⟨summary, -, hsection⟩ := except_bind_eq_ok.1 hsection
    refine Or.inr ⟨hpresent, sections, summary.toDict, hsections, ?_⟩
    rw [← Except.ok.inj h, ← Except.ok.inj hsection, joinSections_eq]

/-- **A merged document** holds the joined blocks. -/
theorem mergeDocuments_eq_ok {A : Arithmetic τ} {createdAt label : String} {paths : List String}
    {first merged : Value τ} {rest : List (Value τ)}
    (h : mergeDocuments A createdAt label paths first rest = .ok merged) :
    (∃ reference blocks, first.item "parameters" = .ok reference ∧
      rest.forM (compareBlock A reference) = .ok () ∧
      MergedSamples A (first :: rest) merged reference blocks) ∧
    ∀ protocol ∈ ["tcp", "udp"],
      (first.contains protocol = .ok false ∧ merged.item protocol = .error .keyError) ∨
      (first.contains protocol = .ok true ∧ ∃ sections,
        MergedSection A (first :: rest) merged protocol sections) := by
  obtain ⟨reference, hreference, h⟩ := except_bind_eq_ok.1 h
  obtain ⟨_, hcompare, h⟩ := except_bind_eq_ok.1 h
  obtain ⟨latency, hlatency, h⟩ := except_bind_eq_ok.1 h
  obtain ⟨parameters, -, h⟩ := except_bind_eq_ok.1 h
  obtain ⟨environment, -, h⟩ := except_bind_eq_ok.1 h
  obtain ⟨pingCount, hpingCount, h⟩ := except_bind_eq_ok.1 h
  obtain ⟨count, hcount, h⟩ := except_bind_eq_ok.1 h
  obtain ⟨lost, hlost, h⟩ := except_bind_eq_ok.1 h
  obtain ⟨summary, -, h⟩ := except_bind_eq_ok.1 h
  obtain ⟨tcp, htcp, h⟩ := except_bind_eq_ok.1 h
  obtain ⟨udp, hudp, h⟩ := except_bind_eq_ok.1 h
  obtain rfl := Except.ok.inj h
  rw [mergeLatency_eq] at hlatency
  cases hblocks : (first :: rest).mapM (readLatency A) with
  | error e =>
    rw [hblocks] at hlatency
    cases hlatency
  | ok blocks =>
    rw [hblocks] at hlatency
    obtain rfl := Except.ok.inj hlatency
    refine ⟨⟨reference, blocks, hreference, hcompare, hblocks, rfl, pingCount, count, lost,
      hpingCount, hcount, hlost, rfl⟩, ?_⟩
    intro protocol hprotocol
    -- the merged document has a section exactly if the first block has it
    rcases List.mem_pair.1 hprotocol with rfl | rfl
    · rcases mergeProtocol_eq_ok htcp with ⟨hcontains, rfl⟩ |
        ⟨hcontains, sections, summary, hread, rfl⟩
      · refine Or.inl ⟨hcontains, ?_⟩
        rcases mergeProtocol_eq_ok hudp with ⟨-, rfl⟩ | ⟨-, sections, summary, -, rfl⟩ <;> rfl
      · exact Or.inr ⟨hcontains, sections, hread, rfl, rfl⟩
    · rcases mergeProtocol_eq_ok hudp with ⟨hcontains, rfl⟩ |
        ⟨hcontains, sections, summary, hread, rfl⟩
      · refine Or.inl ⟨hcontains, ?_⟩
        rcases mergeProtocol_eq_ok htcp with ⟨-, rfl⟩ | ⟨-, sections, summary, -, rfl⟩ <;> rfl
      · refine Or.inr ⟨hcontains, sections, hread, ?_, ?_⟩ <;>
          rcases mergeProtocol_eq_ok htcp with ⟨-, rfl⟩ | ⟨-, sections', summary', -, rfl⟩ <;> rfl

/-! ## The entries of a section -/

/-- The entries of an array. -/
def Value.entries : Value τ → List (Value τ)
  | .list items => items
  | _ => []

/-- The entries of `document[section][name]`, if there are some. -/
def sectionEntries (document : Value τ) (section_ name : String) : List (Value τ) :=
  match document.item section_ >>= fun value => value.item name with
  | .ok value => value.entries
  | .error _ => []

theorem sectionEntries_eq_entries {document value : Value τ} {section_ name : String}
    (h : (document.item section_ >>= fun value => value.item name) = .ok value) :
    sectionEntries document section_ name = value.entries := by
  rw [sectionEntries, h]

/-- A run with its number in the joined list and that of its block. -/
def relabelRun (number block : ℕ) : Value τ → Value τ
  | .dict fields => throughputRun number block fields
  | other => other

/-- A failed attempt with the number of its block. -/
def relabelFailure (_ block : ℕ) : Value τ → Value τ
  | .dict fields => blockFailure block fields
  | other => other

/-- A loop over values that have to be objects reads the entries of an array. -/
theorem entries_eq_items {γ : Type} {read : Value τ → Except ToolError γ}
    (hread : ∀ value result, read value = .ok result → ∃ fields, value = .dict fields)
    {value : Value τ} {items : List (Value τ)} {results : List γ}
    (hiterate : value.iterate = .ok items) (h : items.mapM read = .ok results) :
    value.entries = items := by
  have hdict : ∀ item ∈ items, ∃ fields, item = .dict fields := by
    intro item hitem
    obtain ⟨result, hresult⟩ := exists_ok_of_mapM h hitem
    exact hread item result hresult
  have hempty : (∃ names : List String, items = names.map .str) → items = [] := by
    rintro ⟨names, rfl⟩
    cases names with
    | nil => rfl
    | cons name names =>
      obtain ⟨fields, hfields⟩ := hdict (.str name) List.mem_cons_self
      cases hfields
  cases value with
  | list items' => exact Except.ok.inj hiterate
  | dict fields =>
    refine (hempty ⟨fields.map Prod.fst, ?_⟩).symm
    rw [← Except.ok.inj hiterate, List.map_map]
    rfl
  | str text =>
    refine (hempty ⟨text.toList.map fun c => String.ofList [c], ?_⟩).symm
    rw [← Except.ok.inj hiterate, List.map_map]
    rfl
  | _ => cases hiterate

/-- The entries, from what the loop reads. -/
theorem entries_eq_map {γ : Type} {read : Value τ → Except ToolError γ}
    {fields : γ → List (String × Value τ)}
    (hread : ∀ value result, read value = .ok result → value = .dict (fields result))
    {value : Value τ} {items : List (Value τ)} {results : List γ}
    (hiterate : value.iterate = .ok items) (h : items.mapM read = .ok results) :
    value.entries = results.map fun result => .dict (fields result) := by
  rw [entries_eq_items (fun item result hresult => ⟨_, hread item result hresult⟩) hiterate h,
    ← map_eq_map_of_mapM h hread, List.map_id']

theorem eq_dict_of_spread {value : Value τ} {fields : List (String × Value τ)}
    (h : value.spread = .ok fields) : value = .dict fields := by
  cases value with
  | dict fields' => rw [← Except.ok.inj h]
  | _ => cases h

theorem eq_dict_of_readRun {A : Arithmetic τ} {value : Value τ}
    {run : List (String × Value τ) × τ} (h : readRun A value = .ok run) : value = .dict run.1 := by
  obtain ⟨fields, hfields, h⟩ := except_bind_eq_ok.1 h
  obtain ⟨throughput, -, h⟩ := except_bind_eq_ok.1 h
  obtain ⟨x, -, h⟩ := except_bind_eq_ok.1 h
  rw [← Except.ok.inj h]
  exact eq_dict_of_spread hfields

/-- **The entries** of a section that is read. -/
theorem sectionEntries_of_readSection {A : Arithmetic τ} {protocol : String} {document : Value τ}
    {section_ : BlockSection τ} (h : readSection A protocol document = .ok section_) :
    sectionEntries document protocol "raw_runs" = section_.runs.map (fun run => .dict run.1) ∧
    sectionEntries document protocol "failed_attempts" = section_.failures.map .dict := by
  obtain ⟨value, hvalue, h⟩ := except_bind_eq_ok.1 h
  obtain ⟨rawRuns, hrawRuns, h⟩ := except_bind_eq_ok.1 h
  obtain ⟨runItems, hrunItems, h⟩ := except_bind_eq_ok.1 h
  obtain ⟨runs, hruns, h⟩ := except_bind_eq_ok.1 h
  obtain ⟨failed, hfailed, h⟩ := except_bind_eq_ok.1 h
  obtain ⟨failureItems, hfailureItems, h⟩ := except_bind_eq_ok.1 h
  obtain ⟨failures, hfailures, h⟩ := except_bind_eq_ok.1 h
  obtain rfl := Except.ok.inj h
  constructor
  · have hitem := except_bind_eq_ok.2 ⟨value, hvalue, hrawRuns⟩
    rw [sectionEntries_eq_entries hitem]
    exact entries_eq_map (fun _ _ => eq_dict_of_readRun) hrunItems hruns
  · rw [← entries_eq_map (fun _ _ => eq_dict_of_spread) hfailureItems hfailures]
    cases value with
    | dict fields =>
      obtain rfl := Except.ok.inj hfailed
      unfold sectionEntries
      rw [hvalue]
      show (match (Value.dict fields).item "failed_attempts" with
        | .ok value => value.entries
        | .error _ => []) = _
      rw [Value.item]
      cases fields.lookup "failed_attempts" <;> rfl
    | _ => cases hfailed

theorem eq_dict_of_readTimes {A : Arithmetic τ} {value : Value τ} {times : List τ}
    (h : readTimes A value = .ok times) : ∃ fields, value = .dict fields := by
  obtain ⟨item, hitem, -⟩ := except_bind_eq_ok.1 h
  cases value with
  | dict fields => exact ⟨fields, rfl⟩
  | _ => cases hitem

/-- The runs of a latency that is read. -/
theorem length_sectionEntries_of_readLatency {A : Arithmetic τ} {document : Value τ}
    {runs : List (List τ)} (h : readLatency A document = .ok runs) :
    (sectionEntries document "latency" "raw_runs").length = runs.length := by
  obtain ⟨latency, hlatency, h⟩ := except_bind_eq_ok.1 h
  obtain ⟨rawRuns, hrawRuns, h⟩ := except_bind_eq_ok.1 h
  obtain ⟨items, hitems, h⟩ := except_bind_eq_ok.1 h
  have hitem := except_bind_eq_ok.2 ⟨latency, hlatency, hrawRuns⟩
  rw [sectionEntries_eq_entries hitem, entries_eq_items (fun _ _ => eq_dict_of_readTimes) hitems h]
  exact (mapM_eq_ok_iff.1 h).length_eq

/-- The blocks of a merged section have the section. -/
theorem MergedSection.exists_item {A : Arithmetic τ} {documents : List (Value τ)}
    {merged : Value τ} {protocol : String} {sections : List (BlockSection τ)}
    (h : MergedSection A documents merged protocol sections) :
    ∀ document ∈ documents, ∃ section_, document.item protocol = .ok section_ := by
  intro document hdocument
  obtain ⟨blockSection, hread⟩ := exists_ok_of_mapM h.read hdocument
  obtain ⟨section_, hitem, -⟩ := except_bind_eq_ok.1 hread
  exact ⟨section_, hitem⟩

/-- **The entries** of a merged section, from those of the blocks. -/
theorem MergedSection.entries {A : Arithmetic τ} {documents : List (Value τ)} {merged : Value τ}
    {protocol : String} {sections : List (BlockSection τ)}
    (h : MergedSection A documents merged protocol sections) :
    sectionEntries merged protocol "raw_runs" = join relabelRun
      (documents.map fun document => sectionEntries document protocol "raw_runs") ∧
    sectionEntries merged protocol "failed_attempts" = join relabelFailure
      (documents.map fun document => sectionEntries document protocol "failed_attempts") := by
  have hruns : (documents.map fun document => sectionEntries document protocol "raw_runs")
      = (sections.map (·.runs)).map (List.map fun run => .dict run.1) := by
    rw [List.map_map]
    exact map_eq_map_of_mapM h.read fun _ _ hread => (sectionEntries_of_readSection hread).1
  have hfailures : (documents.map fun document =>
      sectionEntries document protocol "failed_attempts")
      = (sections.map (·.failures)).map (List.map .dict) := by
    rw [List.map_map]
    exact map_eq_map_of_mapM h.read fun _ _ hread => (sectionEntries_of_readSection hread).2
  rw [hruns, hfailures, join_map, join_map, sectionEntries_eq_entries h.runs,
    sectionEntries_eq_entries h.failures]
  exact ⟨rfl, rfl⟩

/-! ## The files -/

/-- The file at the path holds the document. -/
def Holds (P : Interpreter τ) (readText : String → Except ReadError String) (path : String)
    (document : Value τ) : Prop :=
  ∃ text, readText path = .ok text ∧ P.loads text = .ok document

/-- The document of a file is loaded if its version is right. -/
theorem loadResult_of_loads {P : Interpreter τ} {readText : String → Except ReadError String}
    {path text : String} {document : Value τ} (htext : readText path = .ok text)
    (hloads : P.loads text = .ok document) :
    loadResult P readText path = (do
      let version ← document.get? "schema_version"
      if Value.eqOptional P.arithmetic version (some (.int 1)) then .ok document
      else .error (.valueError s!"unsupported benchmark schema in {path}")) := by
  unfold loadResult
  rw [htext]
  simp only
  rw [hloads]

/-- A file that is loaded holds what it is loaded as. -/
theorem loadResult_eq_of_holds {P : Interpreter τ} {readText : String → Except ReadError String}
    {path : String} {document loaded : Value τ} (h : Holds P readText path document)
    (hload : loadResult P readText path = .ok loaded) : loaded = document := by
  obtain ⟨text, htext, hloads⟩ := h
  rw [loadResult_of_loads htext hloads] at hload
  obtain ⟨version, -, hload⟩ := except_bind_eq_ok.1 hload
  split at hload
  · exact (Except.ok.inj hload).symm
  · cases hload

/-- Files that are loaded hold what they are loaded as. -/
theorem mapM_loadResult_eq_of_holds {P : Interpreter τ}
    {readText : String → Except ReadError String} {paths : List String}
    {documents loaded : List (Value τ)} (h : List.Forall₂ (Holds P readText) paths documents)
    (hloaded : paths.mapM (loadResult P readText) = .ok loaded) : loaded = documents := by
  rw [mapM_eq_ok_iff] at hloaded
  induction h generalizing loaded with
  | nil =>
    cases hloaded
    rfl
  | cons hfile _ ih =>
    cases hloaded with
    | cons hload hloaded => rw [loadResult_eq_of_holds hfile hload, ih hloaded]

/-- **`merge_benchmark_blocks`** merges the documents of the files. -/
theorem mergeBenchmarkBlocks_eq_ok {P : Interpreter τ}
    {readText : String → Except ReadError String} {createdAt label : String} {paths : List String}
    {documents : List (Value τ)} {merged : Value τ}
    (hfiles : List.Forall₂ (Holds P readText) paths documents)
    (h : mergeBenchmarkBlocks P readText createdAt paths label = .ok merged) :
    ∃ first rest, documents = first :: rest ∧
      mergeDocuments P.arithmetic createdAt label paths first rest = .ok merged := by
  unfold mergeBenchmarkBlocks at h
  split at h
  · cases h
  obtain ⟨loaded, hloaded, h⟩ := except_bind_eq_ok.1 h
  rw [mapM_loadResult_eq_of_holds hfiles hloaded] at h
  cases documents with
  | nil => cases h
  | cons first rest => exact ⟨first, rest, rfl, h⟩

/-- Documents of the right version are merged. -/
theorem mergeBenchmarkBlocks_of_holds {P : Interpreter τ}
    {readText : String → Except ReadError String} (createdAt label : String) {paths : List String}
    {first : Value τ} {rest : List (Value τ)}
    (hfiles : List.Forall₂ (Holds P readText) paths (first :: rest))
    (hversion : ∀ document ∈ first :: rest, ∃ version,
      document.get? "schema_version" = .ok version ∧
        Value.eqOptional P.arithmetic version (some (.int 1)) = true) :
    mergeBenchmarkBlocks P readText createdAt paths label
      = mergeDocuments P.arithmetic createdAt label paths first rest := by
  have hload : paths.mapM (loadResult P readText) = .ok (first :: rest) := by
    rw [mapM_eq_ok_iff]
    refine (List.forall₂_iff_zip.2 ⟨hfiles.length_eq, fun {path document} hmem => ?_⟩)
    obtain ⟨text, htext, hloads⟩ := (List.forall₂_iff_zip.1 hfiles).2 hmem
    obtain ⟨version, hget, hequal⟩ := hversion document (List.of_mem_zip hmem).2
    rw [loadResult_of_loads htext hloads, hget]
    exact if_pos hequal
  have hpaths : paths ≠ [] := by
    rintro rfl
    cases hfiles
  unfold mergeBenchmarkBlocks
  rw [if_neg hpaths, hload]
  rfl

/-! ## Files with one document -/

/-- A text as JSON. -/
def jsonString (text : String) : List Char :=
  '"' :: (text.toList.flatMap fun c =>
    if c = '"' then ['\\', '"']
    else if c = '\\' then ['\\', '\\']
    else if c = '\n' then ['\\', 'n']
    else [c]) ++ ['"']

mutual

/-- The value as JSON, if its numbers are integral. -/
def jsonChars : Value ℚ → List Char
  | .null => "null".toList
  | .bool value => (if value then "true" else "false").toList
  | .int n => (toString n).toList
  | .float x => (toString x.num ++ ".0").toList
  | .str text => jsonString text
  | .list items => '[' :: jsonItems items ++ [']']
  | .dict fields => '\x7b' :: jsonFields fields ++ ['\x7d']

/-- The items of an array. -/
def jsonItems : List (Value ℚ) → List Char
  | [] => []
  | [item] => jsonChars item
  | item :: items => jsonChars item ++ ',' :: jsonItems items

/-- The fields of an object. -/
def jsonFields : List (String × Value ℚ) → List Char
  | [] => []
  | [(name, value)] => jsonString name ++ ':' :: jsonChars value
  | (name, value) :: fields =>
      jsonString name ++ ':' :: (jsonChars value ++ ',' :: jsonFields fields)

end

/-- A result of `iperf3` for both protocols. -/
def throughputText : String :=
  "\x7b\"end\":\x7b\"sum_received\":\x7b\"bits_per_second\":5\x7d," ++
    "\"sum\":\x7b\"bits_per_second\":5,\"jitter_ms\":1,\"lost_percent\":0\x7d\x7d\x7d"

/-- `json.loads` of the result and of the document. -/
def knowing (document : Value ℚ) : Interpreter ℚ where
  arithmetic := .exact id
  loads text :=
    if text = throughputText then
      .ok (.dict [("end", .dict [("sum_received", .dict [("bits_per_second", .int 5)]),
        ("sum", .dict [("bits_per_second", .int 5), ("jitter_ms", .int 1),
          ("lost_percent", .int 0)])])])
    else if text = String.ofList (jsonChars document) then .ok document
    else .error (.jsonDecodeError "Expecting value: line 1 column 1 (char 0)")
  str _ := .ok ""
  sleep _ := .ok ()

/-- Files with the document. -/
def filesWith (document : Value ℚ) (_ : String) : Except ReadError String :=
  .ok (String.ofList (jsonChars document))

/-- A document with another first field is not a result. -/
theorem loads_knowing {document : Value ℚ} (h : (jsonChars document)[2]? ≠ some 'e') :
    (knowing document).loads (String.ofList (jsonChars document)) = .ok document := by
  have hne : String.ofList (jsonChars document) ≠ throughputText := by
    intro htext
    have hlist := congrArg String.toList htext
    rw [String.toList_ofList] at hlist
    rw [hlist] at h
    exact h (by decide)
  show (if _ then _ else if _ then _ else _) = _
  rw [if_neg hne, if_pos rfl]

/-- The files hold the document. -/
theorem holds_filesWith {document : Value ℚ} (h : (jsonChars document)[2]? ≠ some 'e')
    (path : String) : Holds (knowing document) (filesWith document) path document :=
  ⟨_, rfl, loads_knowing h⟩

theorem loadResult_knowing {document : Value ℚ} (h : (jsonChars document)[2]? ≠ some 'e')
    (hversion : document.get? "schema_version" = .ok (some (.int 1))) (path : String) :
    loadResult (knowing document) (filesWith document) path = .ok document := by
  have htext : filesWith document path = .ok (String.ofList (jsonChars document)) := rfl
  rw [loadResult_of_loads htext (loads_knowing h), hversion]
  rfl

/-! ## Files with several documents -/

/-- `json.loads` of the documents. -/
def knowingAll (sqrt : ℚ → ℚ) (documents : List (Value ℚ)) : Interpreter ℚ where
  arithmetic := .exact sqrt
  loads text :=
    match documents.find? fun document => text = String.ofList (jsonChars document) with
    | some document => .ok document
    | none => .error (.jsonDecodeError "Expecting value: line 1 column 1 (char 0)")
  str _ := .ok ""
  sleep _ := .ok ()

/-- Files with the documents, by their paths. -/
def filesHolding (files : List (String × Value ℚ)) (path : String) : Except ReadError String :=
  match files.lookup path with
  | some document => .ok (String.ofList (jsonChars document))
  | none => .error (.osError "No such file or directory")

/-- Documents with different texts are told apart. -/
theorem loads_knowingAll (sqrt : ℚ → ℚ) {documents : List (Value ℚ)}
    (h : documents.Pairwise fun first second => jsonChars first ≠ jsonChars second)
    {document : Value ℚ} (hmem : document ∈ documents) :
    (knowingAll sqrt documents).loads (String.ofList (jsonChars document)) = .ok document := by
  have hfind : (documents.find? fun other =>
      String.ofList (jsonChars document) = String.ofList (jsonChars other)) = some document := by
    induction h with
    | nil => cases hmem
    | cons hfirst _ ih =>
      rcases List.mem_cons.1 hmem with rfl | hmem
      · exact List.find?_cons_of_pos (decide_eq_true rfl)
      · rw [List.find?_cons_of_neg, ih hmem]
        rw [decide_eq_true_iff, String.ofList_inj]
        exact (hfirst document hmem).symm
  unfold knowingAll
  simp only
  rw [hfind]

/-- The files hold the documents. -/
theorem holds_filesHolding (sqrt : ℚ → ℚ) {files : List (String × Value ℚ)}
    (hpaths : (files.map Prod.fst).Nodup)
    (h : (files.map Prod.snd).Pairwise fun first second => jsonChars first ≠ jsonChars second) :
    List.Forall₂ (Holds (knowingAll sqrt (files.map Prod.snd)) (filesHolding files))
      (files.map Prod.fst) (files.map Prod.snd) := by
  rw [List.forall₂_map_left_iff, List.forall₂_map_right_iff, List.forall₂_same]
  rintro ⟨path, document⟩ hfile
  refine ⟨_, ?_, loads_knowingAll sqrt h (List.mem_map_of_mem hfile)⟩
  have hlookup : files.lookup path = some document := by
    obtain ⟨before, after, rfl⟩ := List.append_of_mem hfile
    refine List.lookup_eq_some_iff.2 ⟨before, after, rfl, fun other hother => ?_⟩
    rw [List.map_append, List.nodup_append] at hpaths
    have hne := hpaths.2.2 _ (List.mem_map_of_mem hother) path List.mem_cons_self
    exact bne_iff_ne.2 hne.symm
  unfold filesHolding
  rw [hlookup]

end MatfVpn
