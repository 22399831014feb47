/-
# Failed attempts in a merged document

In a document of the benchmark tool a failed attempt has the number of the repetition that was
measured after it.  The merge gives the runs new numbers, but not the failed attempts.

* `numbered_of_written` : the numbers in a document of the tool;
* `keepsRetryRecords_iff` : the failed attempts of a merged section lead to their runs exactly
  when there are none after the first block.
-/
import MatfVpn.BenchmarkDocuments
import MatfVpn.MergedBlocks
import MatfVpn.SortedKeys

namespace MatfVpn

open Program Attempts Blocks

variable {τ : Type}

/-! ## The numbers in a document -/

/-- The document is what is read back of one that the benchmark tool writes. -/
def Written (P : Interpreter τ) (document : Value τ) : Prop :=
  ∃ world machine options result, (benchmarkMain P world machine options 0).result = .ok result ∧
    document = result.sortKeys

/-- The runs of the section are numbered from one on, and its failed attempts are of such
numbers. -/
structure Numbered (document : Value τ) (protocol : String) : Prop where
  nonempty : sectionEntries document protocol "raw_runs" ≠ []
  runs : ∀ (k : ℕ) (run : Value τ), (sectionEntries document protocol "raw_runs")[k]? = some run →
    run.item "repetition" = .ok (.int (k + 1))
  failures : ∀ failure ∈ sectionEntries document protocol "failed_attempts", ∃ i : ℕ,
    i < (sectionEntries document protocol "raw_runs").length ∧
    failure.item "repetition" = .ok (.int (i + 1))

theorem Value.entries_sortKeys (value : Value τ) :
    value.sortKeys.entries = value.entries.map Value.sortKeys := by
  cases value with
  | list items => rw [Value.sortKeys_list, Value.entries, Value.entries]
  | dict fields => rfl
  | _ => rfl

/-- Sorted keys change the order of the fields only. -/
theorem sectionEntries_sortKeys (document : Value τ) (protocol name : String) :
    sectionEntries document.sortKeys protocol name
      = (sectionEntries document protocol name).map Value.sortKeys := by
  have hitem : (document.sortKeys.item protocol >>= fun section_ => section_.item name)
      = (document.item protocol >>= fun section_ => section_.item name).map Value.sortKeys := by
    rw [Value.item_sortKeys]
    cases document.item protocol with
    | error e => rfl
    | ok section_ => exact Value.item_sortKeys name section_
  unfold sectionEntries
  rw [hitem]
  cases document.item protocol >>= fun section_ => section_.item name with
  | error e => rfl
  | ok value => exact value.entries_sortKeys

theorem Numbered.sortKeys {document : Value τ} {protocol : String}
    (h : Numbered document protocol) : Numbered document.sortKeys protocol := by
  refine ⟨?_, ?_, ?_⟩
  · rw [sectionEntries_sortKeys]
    exact fun hnil => h.nonempty (List.map_eq_nil_iff.1 hnil)
  · intro k run hk
    rw [sectionEntries_sortKeys, List.getElem?_map, Option.map_eq_some_iff] at hk
    obtain ⟨run, hrun, rfl⟩ := hk
    rw [Value.item_sortKeys, h.runs k run hrun]
    rfl
  · intro failure hfailure
    rw [sectionEntries_sortKeys, List.mem_map] at hfailure
    obtain ⟨failure, hmem, rfl⟩ := hfailure
    obtain ⟨i, hi, hitem⟩ := h.failures failure hmem
    refine ⟨i, ?_, ?_⟩
    · rwa [sectionEntries_sortKeys, List.length_map]
    · rw [Value.item_sortKeys, hitem]
      rfl

theorem numbered_of_result {P : Interpreter τ} {world : ℕ → CompletedProcess} {machine : Machine}
    {options : BenchmarkOptions τ} {document : Value τ} {protocol : String} {section_ : Value τ}
    (hresult : (benchmarkMain P world machine options 0).result = .ok document)
    (hprotocol : protocol ∈ ["tcp", "udp"])
    (hsection : document.item protocol = .ok section_) : Numbered document protocol := by
  obtain ⟨hvalid, -, commandPrefix, latency, -, -, hprotocols⟩ := benchmarkMain_eq_ok hresult
  obtain ⟨hrepetitions, -, hattempts⟩ := validateOptions_eq_ok hvalid
  rcases hprotocols protocol hprotocol with hmissing | ⟨start, section', hsection', hrun⟩
  · rw [hsection] at hmissing
    cases hmissing
  obtain ⟨items, failures, position, summary, hlength, hmeasured, rfl⟩ :=
    runIperf_eq_ok hattempts hrun
  obtain ⟨⟨more, hreaches, rfl⟩, -, -⟩ := hmeasured
  have hruns : sectionEntries document protocol "raw_runs" = items.mapIdx runDict := by
    unfold sectionEntries
    rw [hsection']
    rfl
  have hfailures : sectionEntries document protocol "failed_attempts"
      = (more.map FailedAttempt.ofFailure).map FailedAttempt.toDict := by
    unfold sectionEntries
    rw [hsection']
    rfl
  refine ⟨?_, ?_, ?_⟩
  · rw [hruns, Ne, List.mapIdx_eq_nil_iff, ← List.length_eq_zero_iff]
    omega
  · intro k run hk
    rw [hruns, List.getElem?_mapIdx, Option.map_eq_some_iff] at hk
    obtain ⟨metrics, -, rfl⟩ := hk
    rfl
  · intro failure hfailure
    rw [hfailures, List.map_map, List.mem_map] at hfailure
    obtain ⟨failure, hmem, rfl⟩ := hfailure
    obtain ⟨hpos, hitem⟩ := hreaches.item_bounds failure hmem
    obtain ⟨i, hi⟩ := Nat.exists_eq_succ_of_ne_zero (Nat.ne_of_gt hpos)
    refine ⟨i, ?_, ?_⟩
    · rw [hruns, List.length_mapIdx]
      omega
    · show Except.ok (Value.int (failure.item : ℤ)) = _
      rw [hi]
      rfl

theorem numbered_of_written {P : Interpreter τ} {document : Value τ} {protocol : String}
    {section_ : Value τ} (h : Written P document) (hprotocol : protocol ∈ ["tcp", "udp"])
    (hsection : document.item protocol = .ok section_) : Numbered document protocol := by
  obtain ⟨world, machine, options, result, hresult, rfl⟩ := h
  rw [Value.item_sortKeys] at hsection
  cases hitem : result.item protocol with
  | error e =>
    rw [hitem] at hsection
    cases hsection
  | ok value => exact (numbered_of_result hresult hprotocol hitem).sortKeys

/-! ## The merged numbers -/

/-- The entry has the block and the repetition of the run. -/
def SameRun (entry run : Value τ) : Prop :=
  entry.item "block" = run.item "block" ∧ entry.item "repetition" = run.item "repetition"

/-- The runs of the blocks before the block `b`, in the section. -/
def runOffset (documents : List (Value τ)) (protocol : String) (b : ℕ) : ℕ :=
  offset (documents.map fun document => sectionEntries document protocol "raw_runs") b

/-- The failed attempts of the blocks before the block `b`, in the section. -/
def failureOffset (documents : List (Value τ)) (protocol : String) (b : ℕ) : ℕ :=
  offset (documents.map fun document => sectionEntries document protocol "failed_attempts") b

/-- Every failed attempt of the merged section is one of a block, and of all runs of the merged
section just the run of this block that was measured after it has its block and its
repetition. -/
def KeepsRetryRecords (documents : List (Value τ)) (merged : Value τ) (protocol : String) : Prop :=
  ∀ (n : ℕ) (entry : Value τ), (sectionEntries merged protocol "failed_attempts")[n]? = some entry →
    ∃ (b k i : ℕ) (document failure run copy : Value τ), documents[b]? = some document ∧
      (sectionEntries document protocol "failed_attempts")[k]? = some failure ∧
      n = failureOffset documents protocol b + k ∧
      (sectionEntries document protocol "raw_runs")[i]? = some run ∧
      run.item "repetition" = failure.item "repetition" ∧
      (sectionEntries merged protocol "raw_runs")[runOffset documents protocol b + i]? = some copy ∧
      ∀ (j : ℕ) (other : Value τ), (sectionEntries merged protocol "raw_runs")[j]? = some other →
        (SameRun entry other ↔ j = runOffset documents protocol b + i)

/-- The failed attempts are in the first block. -/
def FailuresInFirstBlock (documents : List (Value τ)) (protocol : String) : Prop :=
  ∀ (b : ℕ) (document : Value τ), 0 < b → documents[b]? = some document →
    sectionEntries document protocol "failed_attempts" = []

theorem item_relabelRun {number block : ℕ} {run value : Value τ}
    (h : run.item "repetition" = .ok value) :
    (relabelRun number block run).item "repetition" = .ok (.int number) ∧
    (relabelRun number block run).item "block" = .ok (.int block) := by
  cases run with
  | dict fields =>
    constructor
    · exact (Value.item_setField_of_ne _ _ (by decide)).trans (Value.item_setField_self _ _ _)
    · exact Value.item_setField_self _ _ _
  | _ => cases h

theorem item_relabelFailure {number block : ℕ} {failure value : Value τ}
    (h : failure.item "repetition" = .ok value) :
    (relabelFailure number block failure).item "repetition" = .ok value ∧
    (relabelFailure number block failure).item "block" = .ok (.int block) := by
  cases failure with
  | dict fields =>
    rw [← h]
    constructor
    · exact Value.item_setField_of_ne _ _ (by decide)
    · exact Value.item_setField_self _ _ _
  | _ => cases h

section merged

variable {A : Arithmetic τ} {documents : List (Value τ)} {merged document : Value τ}
  {protocol : String} {sections : List (BlockSection τ)}

/-- The entries of a block of the documents. -/
theorem getElem?_entries {b : ℕ} (name : String) (h : documents[b]? = some document) :
    (documents.map fun document => sectionEntries document protocol name)[b]?
      = some (sectionEntries document protocol name) := by
  rw [List.getElem?_map, h, Option.map_some]

/-- **A run** of a block has its new labels. -/
theorem merged_run (h : MergedSection A documents merged protocol sections)
    (hnumbered : ∀ document ∈ documents, Numbered document protocol) {b i : ℕ} {run : Value τ}
    (hb : documents[b]? = some document)
    (hi : (sectionEntries document protocol "raw_runs")[i]? = some run) :
    ∃ copy, (sectionEntries merged protocol "raw_runs")[runOffset documents protocol b + i]?
      = some copy ∧ copy.item "repetition" = .ok (.int (runOffset documents protocol b + i + 1)) ∧
      copy.item "block" = .ok (.int (b + 1)) := by
  have hrun := (hnumbered document (List.mem_of_getElem? hb)).runs i run hi
  obtain ⟨hrepetition, hblock⟩ := @item_relabelRun τ (runOffset documents protocol b + i + 1)
    (b + 1) run _ hrun
  refine ⟨_, ?_, hrepetition, hblock⟩
  rw [h.entries.1]
  exact getElem?_join relabelRun _ (getElem?_entries "raw_runs" hb) hi

/-- The labels of a merged run. -/
theorem merged_run_labels (h : MergedSection A documents merged protocol sections)
    (hnumbered : ∀ document ∈ documents, Numbered document protocol) {j : ℕ} {other : Value τ}
    (hj : (sectionEntries merged protocol "raw_runs")[j]? = some other) :
    ∃ b i, j = runOffset documents protocol b + i ∧
      other.item "repetition" = .ok (.int (j + 1)) ∧ other.item "block" = .ok (.int (b + 1)) := by
  rw [h.entries.1] at hj
  obtain ⟨b, i, items, run, hb, hi, hindex, rfl⟩ := exists_of_getElem?_join relabelRun _ hj
  rw [List.getElem?_map, Option.map_eq_some_iff] at hb
  obtain ⟨document, hdocument, rfl⟩ := hb
  have hrun := (hnumbered document (List.mem_of_getElem? hdocument)).runs i run hi
  exact ⟨b, i, hindex, item_relabelRun hrun⟩

/-- **A failed attempt** of a block has the number of the block, and keeps its repetition. -/
theorem merged_failure (h : MergedSection A documents merged protocol sections)
    (hnumbered : ∀ document ∈ documents, Numbered document protocol) {b k : ℕ} {failure : Value τ}
    (hb : documents[b]? = some document)
    (hk : (sectionEntries document protocol "failed_attempts")[k]? = some failure) :
    ∃ entry, (sectionEntries merged protocol "failed_attempts")[
        failureOffset documents protocol b + k]? = some entry ∧
      entry.item "repetition" = failure.item "repetition" ∧
      entry.item "block" = .ok (.int (b + 1)) := by
  obtain ⟨i, -, hfailure⟩ := (hnumbered document (List.mem_of_getElem? hb)).failures failure
    (List.mem_of_getElem? hk)
  obtain ⟨hrepetition, hblock⟩ := @item_relabelFailure τ
    (failureOffset documents protocol b + k + 1) (b + 1) failure _ hfailure
  refine ⟨_, ?_, hrepetition.trans hfailure.symm, hblock⟩
  rw [h.entries.2]
  exact getElem?_join relabelFailure _ (getElem?_entries "failed_attempts" hb) hk

/-- After the first block the numbers of the joined runs have moved on. -/
theorem length_le_runOffset {first : Value τ} {rest : List (Value τ)} {b : ℕ} (hb : 0 < b) :
    (sectionEntries first protocol "raw_runs").length
      ≤ runOffset (first :: rest) protocol b := length_head_le_offset _ _ hb

/-- In the first block the failed attempts lead to their runs. -/
theorem keepsRetryRecords_of_first {first : Value τ} {rest : List (Value τ)}
    (h : MergedSection A (first :: rest) merged protocol sections)
    (hnumbered : ∀ document ∈ first :: rest, Numbered document protocol)
    (hfirst : FailuresInFirstBlock (first :: rest) protocol) :
    KeepsRetryRecords (first :: rest) merged protocol := by
  intro n entry hn
  have hjoin := hn
  rw [h.entries.2] at hjoin
  obtain ⟨b, k, items, failure, hb, hk, hindex, -⟩ := exists_of_getElem?_join relabelFailure _ hjoin
  rw [List.getElem?_map, Option.map_eq_some_iff] at hb
  obtain ⟨document, hdocument, rfl⟩ := hb
  -- a failure of the result is one of the first block, since the others have none
  have hzero : b = 0 := by
    by_contra hb
    rw [hfirst b document (Nat.pos_of_ne_zero hb) hdocument] at hk
    cases hk
  obtain rfl := hzero
  obtain rfl := Option.some.inj hdocument
  obtain ⟨entry', hentry', hrepetition, hblock⟩ := merged_failure h hnumbered hdocument hk
  rw [show failureOffset (first :: rest) protocol 0 + k = n from hindex.symm, hn] at hentry'
  obtain rfl := Option.some.inj hentry'
  have hsection := hnumbered first List.mem_cons_self
  obtain ⟨i, hi, hfailure⟩ := hsection.failures failure (List.mem_of_getElem? hk)
  have hrun := List.getElem?_eq_getElem hi
  obtain ⟨copy, hcopy, -, -⟩ := merged_run h hnumbered hdocument hrun
  refine ⟨0, k, i, first, failure, _, copy, hdocument, hk, hindex, hrun, ?_, hcopy, ?_⟩
  · rw [hsection.runs i _ hrun, hfailure]
  -- the runs of the later blocks are numbered after those of the first
  · intro j other hj
    obtain ⟨b', i', hj', hrepetition', hblock'⟩ := merged_run_labels h hnumbered hj
    rw [hfailure] at hrepetition
    unfold SameRun
    rw [hrepetition, hrepetition', hblock, hblock', Except.ok.injEq, Except.ok.injEq,
      Value.int.injEq, Value.int.injEq, show runOffset (first :: rest) protocol 0 = 0 from rfl]
    constructor
    · rintro ⟨-, hequal⟩
      omega
    · intro hequal
      have hzero : b' = 0 := by
        by_contra hb'
        have hle := @length_le_runOffset τ protocol first rest b' (Nat.pos_of_ne_zero hb')
        omega
      omega

/-- After it they do not. -/
theorem failuresInFirstBlock_of_keeps {first : Value τ} {rest : List (Value τ)}
    (h : MergedSection A (first :: rest) merged protocol sections)
    (hnumbered : ∀ document ∈ first :: rest, Numbered document protocol)
    (hkeeps : KeepsRetryRecords (first :: rest) merged protocol) :
    FailuresInFirstBlock (first :: rest) protocol := by
  intro b document hb hdocument
  cases hfailures : sectionEntries document protocol "failed_attempts" with
  | nil => rfl
  | cons failure failures =>
    exfalso
    have hk : (sectionEntries document protocol "failed_attempts")[0]? = some failure := by
      rw [hfailures]
      rfl
    obtain ⟨entry, hentry, -, hblock⟩ := merged_failure h hnumbered hdocument hk
    obtain ⟨b', k', i', document', failure', run', copy', hdocument', hk', hindex, hrun', hsame,
      hcopy', hiff⟩ := hkeeps _ entry hentry
    obtain ⟨entry', hentry', hrepetition', hblock'⟩ := merged_failure h hnumbered hdocument' hk'
    rw [← hindex, hentry] at hentry'
    obtain rfl := Option.some.inj hentry'
    have hequal : b' = b := by
      rw [hblock] at hblock'
      have hint := Value.int.inj (Except.ok.inj hblock')
      omega
    obtain rfl := hequal
    obtain ⟨copy, hcopy, hrepetition, -⟩ := merged_run h hnumbered hdocument' hrun'
    rw [hcopy'] at hcopy
    obtain rfl := Option.some.inj hcopy
    have hlabels := ((hiff _ _ hcopy').2 rfl).2
    rw [hrepetition', ← hsame, hrepetition,
      (hnumbered document' (List.mem_of_getElem? hdocument')).runs i' run' hrun'] at hlabels
    have hint := Value.int.inj (Except.ok.inj hlabels)
    have hle := @length_le_runOffset τ protocol first rest b' hb
    have hpos := List.length_pos_iff.2 (hnumbered first List.mem_cons_self).nonempty
    omega

end merged

/-! ## The merge -/

section merge

variable {P : Interpreter τ} {readText : String → Except ReadError String}
  {createdAt label protocol : String} {paths : List String} {documents : List (Value τ)}
  {merged section_ : Value τ}

/-- The blocks of a merged section have their numbers. -/
theorem mergedSection_of_written (hfiles : List.Forall₂ (Holds P readText) paths documents)
    (hwritten : ∀ document ∈ documents, Written P document)
    (hmerge : mergeBenchmarkBlocks P readText createdAt paths label = .ok merged)
    (hprotocol : protocol ∈ ["tcp", "udp"]) (hsection : merged.item protocol = .ok section_) :
    ∃ first rest sections, documents = first :: rest ∧
      MergedSection P.arithmetic (first :: rest) merged protocol sections ∧
      ∀ document ∈ first :: rest, Numbered document protocol := by
  obtain ⟨first, rest, rfl, hdocuments⟩ := mergeBenchmarkBlocks_eq_ok hfiles hmerge
  rcases (mergeDocuments_eq_ok hdocuments).2 protocol hprotocol with ⟨-, hmissing⟩ |
    ⟨-, sections, h⟩
  · rw [hsection] at hmissing
    cases hmissing
  refine ⟨first, rest, sections, rfl, h, ?_⟩
  intro document hdocument
  obtain ⟨section', hitem⟩ := h.exists_item document hdocument
  exact numbered_of_written (hwritten document hdocument) hprotocol hitem

end merge

/-- **The failed attempts** of a merged section lead to the runs that were measured after them
exactly when all of them are in the first block. -/
theorem keepsRetryRecords_iff (P : Interpreter τ)
    (readText : String → Except ReadError String) (createdAt label : String)
    (paths : List String) (documents : List (Value τ)) (merged : Value τ)
    (hfiles : List.Forall₂ (Holds P readText) paths documents)
    (hwritten : ∀ document ∈ documents, Written P document)
    (hmerge : mergeBenchmarkBlocks P readText createdAt paths label = .ok merged)
    (protocol : String) (hprotocol : protocol ∈ ["tcp", "udp"]) (section_ : Value τ)
    (hsection : merged.item protocol = .ok section_) :
    KeepsRetryRecords documents merged protocol ↔ FailuresInFirstBlock documents protocol := by
  obtain ⟨first, rest, sections, rfl, h, hnumbered⟩ :=
    mergedSection_of_written hfiles hwritten hmerge hprotocol hsection
  exact ⟨failuresInFirstBlock_of_keeps h hnumbered, keepsRetryRecords_of_first h hnumbered⟩

/-! ## Two blocks with a failed attempt each -/

/-- The commands of a block: the first `iperf3` fails. -/
def blockCommands (n : ℕ) : CompletedProcess :=
  if n = 0 then ⟨0, "64 bytes from 10.0.0.1: icmp_seq=1 ttl=64 time=1 ms", ""⟩
  else if n = 1 then ⟨1, "", "unable to connect"⟩
  else ⟨0, throughputText, ""⟩

/-- The latency of the block. -/
def blockLatency : Value ℚ :=
  .dict [("unit", .str "ms"), ("raw_runs", .list [pingRun 0 [1]]),
    ("summary", (sameSamples 1 1).toDict)]

/-- The section of TCP. -/
def blockTcp : Value ℚ :=
  iperfSection [runDict 0 [("bits_per_second", 5)]]
    [⟨1, 1, commandFailure (iperfCommand [] benchmarkSample "tcp") (blockCommands 1)⟩]
    (sameSamples 1 5)

/-- The section of UDP. -/
def blockUdp : Value ℚ :=
  iperfSection [runDict 0 [("bits_per_second", 5), ("jitter_ms", 1), ("lost_percent", 0)]] []
    (sameSamples 1 5)

/-- The result of the block. -/
def blockResult : Value ℚ :=
  .dict [("schema_version", .int 1), ("created_at", .str benchmarkMachine.createdAt),
    ("label", .str benchmarkSample.label), ("parameters", parametersDict benchmarkSample),
    ("environment", environmentDict benchmarkMachine), ("latency", blockLatency), ("tcp", blockTcp),
    ("udp", blockUdp)]

/-- The document of the block. -/
def blockDocument : Value ℚ := blockResult.sortKeys

theorem written_blockDocument : Written (knowing blockDocument) blockDocument := by
  have hlatency : ∃ t, runLatency (knowing blockDocument).arithmetic blockCommands []
      benchmarkSample 0 = ⟨.ok blockLatency, 1, t⟩ := ⟨_, by with_unfolding_all rfl⟩
  have htcp : ∃ t, runIperf (knowing blockDocument) blockCommands [] benchmarkSample "tcp" 1
      = ⟨.ok blockTcp, 3, t⟩ := ⟨_, by with_unfolding_all rfl⟩
  have hudp : ∃ t, runIperf (knowing blockDocument) blockCommands [] benchmarkSample "udp" 3
      = ⟨.ok blockUdp, 4, t⟩ := ⟨_, by with_unfolding_all rfl⟩
  obtain ⟨_, hlatency⟩ := hlatency
  obtain ⟨_, htcp⟩ := htcp
  obtain ⟨_, hudp⟩ := hudp
  refine ⟨blockCommands, benchmarkMachine, benchmarkSample, blockResult, ?_, rfl⟩
  refine result_bind_eq_ok.2 ⟨(), 0, [], by with_unfolding_all rfl, ?_⟩
  refine result_bind_eq_ok.2 ⟨_, _, _, hlatency, ?_⟩
  refine result_bind_eq_ok.2 ⟨_, _, _, htcp, ?_⟩
  exact result_bind_eq_ok.2 ⟨_, _, _, hudp, rfl⟩

theorem written_blockDocuments :
    ∀ document ∈ [blockDocument, blockDocument], Written (knowing blockDocument) document := by
  simp [written_blockDocument]

/-- The files hold the document. -/
theorem holds_blockDocument :
    List.Forall₂ (Holds (knowing blockDocument) (filesWith blockDocument))
      ["first.json", "second.json"] [blockDocument, blockDocument] :=
  .cons (holds_filesWith (by decide +kernel) _)
    (.cons (holds_filesWith (by decide +kernel) _) .nil)

theorem merge_blockDocument : ∃ merged section_,
    mergeBenchmarkBlocks (knowing blockDocument) (filesWith blockDocument)
      "2026-01-02T00:00:00+00:00" ["first.json", "second.json"] "vpn" = .ok merged ∧
    merged.item "tcp" = .ok section_ := by
  have hload : ∀ path, loadResult (knowing blockDocument) (filesWith blockDocument) path
      = .ok blockDocument :=
    fun path => loadResult_knowing (by decide +kernel) (by with_unfolding_all rfl) path
  unfold mergeBenchmarkBlocks
  rw [if_neg (by decide), List.mapM_cons, List.mapM_cons, hload, hload]
  exact ⟨_, _, by with_unfolding_all rfl, by with_unfolding_all rfl⟩

/-- The merge of the two blocks. -/
theorem keepsRetryRecords_sample : ∃ merged,
    mergeBenchmarkBlocks (knowing blockDocument) (filesWith blockDocument)
      "2026-01-02T00:00:00+00:00" ["first.json", "second.json"] "vpn" = .ok merged ∧
    (KeepsRetryRecords [blockDocument, blockDocument] merged "tcp" ↔
      FailuresInFirstBlock [blockDocument, blockDocument] "tcp") := by
  obtain ⟨merged, section_, hmerge, hsection⟩ := merge_blockDocument
  refine ⟨merged, hmerge, ?_⟩
  exact keepsRetryRecords_iff (knowing blockDocument) (filesWith blockDocument) _ _ _ _ merged
    holds_blockDocument written_blockDocuments hmerge "tcp" (by decide) section_ hsection

/-- The failed attempt of the second block does not lead to its run. -/
theorem keepsRetryRecords_not :
    List.Forall₂ (Holds (knowing blockDocument) (filesWith blockDocument))
      ["first.json", "second.json"] [blockDocument, blockDocument] ∧
    (∀ document ∈ [blockDocument, blockDocument], Written (knowing blockDocument) document) ∧
    ∃ merged, mergeBenchmarkBlocks (knowing blockDocument) (filesWith blockDocument)
        "2026-01-02T00:00:00+00:00" ["first.json", "second.json"] "vpn" = .ok merged ∧
      ¬ KeepsRetryRecords [blockDocument, blockDocument] merged "tcp" := by
  obtain ⟨merged, section_, hmerge, hsection⟩ := merge_blockDocument
  refine ⟨holds_blockDocument, written_blockDocuments, merged, hmerge, fun hkeeps => ?_⟩
  obtain ⟨first, rest, sections, hdocuments, h, hnumbered⟩ :=
    mergedSection_of_written holds_blockDocument written_blockDocuments hmerge (by decide)
      hsection
  rw [hdocuments] at hkeeps
  have hfirst := failuresInFirstBlock_of_keeps h hnumbered hkeeps
  rw [← hdocuments] at hfirst
  have hnone := hfirst 1 blockDocument Nat.one_pos rfl
  cases hnone

end MatfVpn
