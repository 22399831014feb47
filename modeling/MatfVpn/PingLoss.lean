/-
# The loss of the merged latency

The merge counts the samples of all runs and takes the missing ones for requests without a
reply.  A request with two replies has two samples.

* `readLatency_of_writtenFrom` : the samples that the merge reads are those of the outputs;
* `lostPercent_correct_iff` : the reported loss is the part of the requests without a reply
  exactly when no request has two replies.
-/
import MatfVpn.BenchmarkDocuments
import MatfVpn.MergedBlocks
import MatfVpn.PingReplies
import MatfVpn.SortedKeys

namespace MatfVpn

open Program Blocks

variable {τ : Type}

/-! ## Requests and replies -/

/-- The requests that got a reply. -/
def PingOutput.answered (output : PingOutput) : ℕ :=
  (output.replies.map (·.request)).dedup.length

/-- No request got two replies. -/
def PingOutput.Single (output : PingOutput) : Prop := (output.replies.map (·.request)).Nodup

/-- The outputs of the runs of a block, with the number of requests in every run. -/
structure PingBlock where
  pingCount : ℕ
  outputs : List PingOutput
  request_mem : ∀ output ∈ outputs, ∀ reply ∈ output.replies,
    1 ≤ reply.request ∧ reply.request ≤ pingCount

/-- The requests of the block. -/
def PingBlock.requests (block : PingBlock) : ℕ := block.outputs.length * block.pingCount

/-- The requests of the block that got no reply. -/
def PingBlock.unanswered (block : PingBlock) : ℕ :=
  (block.outputs.map fun output => block.pingCount - output.answered).sum

/-- The samples of the block. -/
def PingBlock.samples (block : PingBlock) : ℕ :=
  (block.outputs.map fun output => output.replies.length).sum

/-- The document is what is read back of one that the benchmark tool writes when `ping` prints
these outputs. -/
def WrittenFrom (P : Interpreter τ) (document : Value τ) (block : PingBlock) : Prop :=
  ∃ world machine options result, (benchmarkMain P world machine options 0).result = .ok result ∧
    document = result.sortKeys ∧ options.pingCount = block.pingCount ∧
    block.outputs.length = options.repetitions.toNat ∧
    ∀ k output, block.outputs[k]? = some output → (world k).stdout.toList = output.text

/-- There are no more answered requests than requests. -/
theorem PingBlock.answered_le (block : PingBlock) {output : PingOutput}
    (h : output ∈ block.outputs) : output.answered ≤ block.pingCount := by
  have hsub : (output.replies.map (·.request)).dedup ⊆ List.range' 1 block.pingCount := by
    intro request hrequest
    rw [List.mem_dedup, List.mem_map] at hrequest
    obtain ⟨reply, hreply, rfl⟩ := hrequest
    obtain ⟨hlow, hhigh⟩ := block.request_mem output h reply hreply
    rw [List.mem_range'_1]
    omega
  have hle := (List.nodup_dedup _).subperm hsub
  have hlength := hle.length_le
  rwa [List.length_range'] at hlength

theorem PingOutput.answered_le_length (output : PingOutput) :
    output.answered ≤ output.replies.length := by
  have hle := (List.dedup_sublist (output.replies.map (·.request))).length_le
  rwa [List.length_map] at hle

/-- Every reply is the first one exactly when there are as many requests with replies. -/
theorem PingOutput.answered_eq_length_iff (output : PingOutput) :
    output.answered = output.replies.length ↔ output.Single := by
  unfold PingOutput.answered PingOutput.Single
  constructor
  · intro h
    have hequal := (List.dedup_sublist (output.replies.map (·.request))).eq_of_length
      (by rw [h, List.length_map])
    exact List.dedup_eq_self.1 hequal
  · intro h
    rw [h.dedup, List.length_map]

/-- Sums of the same terms are the same. -/
theorem sum_map_eq_iff {α : Type} {l : List α} {f g : α → ℕ} (h : ∀ a ∈ l, f a ≤ g a) :
    (l.map f).sum ≤ (l.map g).sum ∧ ((l.map f).sum = (l.map g).sum ↔ ∀ a ∈ l, f a = g a) := by
  induction l with
  | nil => exact ⟨Nat.le_refl _, iff_of_true rfl (List.forall_mem_nil _)⟩
  | cons a l ih =>
    obtain ⟨hle, hiff⟩ := ih fun b hb => h b (List.mem_cons_of_mem a hb)
    have hfirst := h a List.mem_cons_self
    simp only [List.map_cons, List.sum_cons, List.forall_mem_cons]
    rw [← hiff]
    constructor
    · omega
    · omega

/-- **A block** has as many requests without a reply as samples are missing, unless some request
has two. -/
theorem PingBlock.requests_le (block : PingBlock) :
    block.requests ≤ block.unanswered + block.samples ∧
      (block.requests = block.unanswered + block.samples ↔
        ∀ output ∈ block.outputs, output.Single) := by
  have hterm : ∀ output ∈ block.outputs, block.pingCount
      ≤ block.pingCount - output.answered + output.replies.length := by
    intro output houtput
    have hle := block.answered_le houtput
    have hlength := output.answered_le_length
    omega
  have hrequests : block.requests = (block.outputs.map fun _ => block.pingCount).sum := by
    rw [List.map_const', List.sum_replicate, smul_eq_mul, requests]
  have hsamples : block.unanswered + block.samples = (block.outputs.map fun output =>
      block.pingCount - output.answered + output.replies.length).sum := by
    rw [List.sum_map_add, unanswered, samples]
  obtain ⟨hle, hiff⟩ := sum_map_eq_iff hterm
  rw [hrequests, hsamples]
  refine ⟨hle, hiff.trans (forall₂_congr fun output houtput => ?_)⟩
  rw [← output.answered_eq_length_iff]
  have hanswered := block.answered_le houtput
  have hlength := output.answered_le_length
  omega

/-- The requests of all blocks. -/
def totalRequests (blocks : List PingBlock) : ℕ := (blocks.map PingBlock.requests).sum

/-- The requests of all blocks that got no reply. -/
def totalUnanswered (blocks : List PingBlock) : ℕ := (blocks.map PingBlock.unanswered).sum

/-- The samples of all blocks. -/
def totalSamples (blocks : List PingBlock) : ℕ := (blocks.map PingBlock.samples).sum

theorem totalRequests_eq_iff (blocks : List PingBlock) :
    totalRequests blocks = totalUnanswered blocks + totalSamples blocks ↔
      ∀ block ∈ blocks, ∀ output ∈ block.outputs, output.Single := by
  unfold totalUnanswered totalSamples
  rw [← List.sum_map_add]
  refine (sum_map_eq_iff fun block _ => block.requests_le.1).2.trans ?_
  exact forall₂_congr fun block _ => block.requests_le.2

theorem totalUnanswered_le (blocks : List PingBlock) :
    totalUnanswered blocks ≤ totalRequests blocks := by
  refine (sum_map_eq_iff fun block _ => ?_).1
  have hterm := (@sum_map_eq_iff _ block.outputs (fun output => block.pingCount - output.answered)
    (fun _ => block.pingCount) fun output _ => Nat.sub_le _ _).1
  rwa [List.map_const', List.sum_replicate, smul_eq_mul] at hterm

/-! ## The samples of a document -/

/-- Lists that are numbered are read back. -/
theorem mapM_mapIdx_eq_ok {ε α β : Type} {read : β → Except ε α} {f : ℕ → α → β}
    (h : ∀ k a, read (f k a) = .ok a) (items : List α) :
    (items.mapIdx f).mapM read = .ok items := by
  induction items generalizing f with
  | nil => rfl
  | cons a items ih =>
    rw [List.mapIdx_cons, List.mapM_cons, h, ih fun k b => h (k + 1) b]
    rfl

theorem readTimes_pingRun (A : Arithmetic τ) (k : ℕ) (times : List τ) :
    readTimes A (pingRun k times).sortKeys = .ok times := by
  have hitem : (pingRun k times).sortKeys.item "rtt_ms" = .ok (.list (times.map .float)) := by
    rw [Value.item_sortKeys]
    show Except.ok (Value.list (times.map Value.float)).sortKeys = _
    rw [Value.sortKeys_list, List.map_map]
    rfl
  unfold readTimes
  rw [hitem]
  clear hitem
  show (times.map Value.float).mapM (Value.toFloat A) = .ok times
  induction times with
  | nil => rfl
  | cons x times ih =>
    rw [List.map_cons, List.mapM_cons, ih]
    rfl

/-- **The samples** of a document are those of the outputs. -/
theorem readLatency_of_writtenFrom {P : Interpreter τ} {document : Value τ} {block : PingBlock}
    (h : WrittenFrom P document block) : ∃ runs, readLatency P.arithmetic document = .ok runs ∧
      runs.map List.length = block.outputs.map fun output => output.replies.length := by
  obtain ⟨world, machine, options, result, hresult, rfl, -, hlength, houtputs⟩ := h
  obtain ⟨-, -, commandPrefix, latency, hlatency, hitem, -⟩ := benchmarkMain_eq_ok hresult
  obtain ⟨runs, summary, hruns, htimes, -, rfl⟩ := runLatency_spec 0 latency hlatency
  refine ⟨runs, ?_, ?_⟩
  · have hraw : (result.sortKeys.item "latency" >>= fun latency => latency.item "raw_runs")
        = .ok (.list (runs.mapIdx fun k times => (pingRun k times).sortKeys)) := by
      rw [Value.item_sortKeys, hitem]
      show (Value.dict _).sortKeys.item "raw_runs" = _
      rw [Value.item_sortKeys]
      show Except.ok (Value.list (runs.mapIdx pingRun)).sortKeys = _
      rw [Value.sortKeys_list]
      apply congrArg fun items => Except.ok (Value.list items)
      refine List.ext_getElem? fun k => ?_
      rw [List.getElem?_map, List.getElem?_mapIdx, List.getElem?_mapIdx, Option.map_map]
      rfl
    obtain ⟨latency, hlatency, hraw⟩ := except_bind_eq_ok.1 hraw
    unfold readLatency
    rw [hlatency]
    show (latency.item "raw_runs" >>= fun runs => runs.iterate >>= _) = _
    rw [hraw]
    exact mapM_mapIdx_eq_ok (readTimes_pingRun P.arithmetic) runs
  · refine List.ext_getElem? fun k => ?_
    rw [List.getElem?_map, List.getElem?_map]
    cases hk : runs[k]? with
    | none =>
      rw [List.getElem?_eq_none_iff] at hk
      rw [List.getElem?_eq_none (by omega)]
      rfl
    | some times =>
      have hlt := (List.getElem?_eq_some_iff.1 hk).1
      have houtput := List.getElem?_eq_getElem (l := block.outputs) (i := k) (by omega)
      have hparse := htimes k times hk
      rw [Nat.zero_add, houtputs k _ houtput] at hparse
      rw [houtput, Option.map_some, Option.map_some, parsePingTimes_length hparse]

/-- The number of requests of a document. -/
theorem pingCount_of_writtenFrom {P : Interpreter τ} {document : Value τ} {block : PingBlock}
    (h : WrittenFrom P document block) : 0 < block.pingCount ∧ 0 < block.outputs.length ∧
      ∃ options : BenchmarkOptions τ,
        document.item "parameters" = .ok (parametersDict options).sortKeys ∧
        options.pingCount = block.pingCount := by
  obtain ⟨world, machine, options, result, hresult, rfl, hcount, hlength, -⟩ := h
  obtain ⟨hvalid, hparameters, -⟩ := benchmarkMain_eq_ok hresult
  obtain ⟨hrepetitions, hpositive, -⟩ := validateOptions_eq_ok hvalid
  refine ⟨by omega, by omega, options, ?_, hcount⟩
  rw [Value.item_sortKeys, hparameters]
  rfl

/-! ## Comparable blocks -/

/-- Comparable blocks have the same number of requests. -/
theorem pingCount_eq_of_compareBlock {A : Arithmetic τ} {document : Value τ}
    {options options' : BenchmarkOptions τ}
    (hparameters : document.item "parameters" = .ok (parametersDict options').sortKeys)
    (h : compareBlock A (parametersDict options).sortKeys document = .ok ()) :
    options'.pingCount = options.pingCount := by
  have hfield := forM_eq_ok_iff.1 h "ping_count" (by decide)
  obtain ⟨parameters, hparameters', hfield⟩ := except_bind_eq_ok.1 hfield
  obtain rfl := Except.ok.inj (hparameters.symm.trans hparameters')
  obtain ⟨value, hvalue, hfield⟩ := except_bind_eq_ok.1 hfield
  obtain ⟨expected, hexpected, hfield⟩ := except_bind_eq_ok.1 hfield
  rw [Value.get?_sortKeys] at hvalue hexpected
  have hvalue' : some (Value.int options'.pingCount) = value := Except.ok.inj hvalue
  have hexpected' : some (Value.int options.pingCount) = expected := Except.ok.inj hexpected
  rw [← hvalue', ← hexpected'] at hfield
  by_contra hne
  have hneq : Value.eqOptional A (some (.int options'.pingCount)) (some (.int options.pingCount))
      = false := by
    simp [Value.eqOptional, Value.eq, Value.integer?, hne]
  rw [hneq] at hfield
  cases hfield

/-! ## The merged loss -/

/-- The number of requests that the merge expects in every run. -/
theorem pingCount_eq_of_merged {P : Interpreter τ} {first : Value τ} {rest : List (Value τ)}
    {blocks : List PingBlock} {reference : Value τ}
    (hwritten : List.Forall₂ (WrittenFrom P) (first :: rest) blocks)
    (hreference : first.item "parameters" = .ok reference)
    (hcompare : rest.forM (compareBlock P.arithmetic reference) = .ok ()) :
    ∃ count : ℕ, 0 < count ∧ reference.item "ping_count" = .ok (.int count) ∧
      ∀ block ∈ blocks, block.pingCount = count := by
  cases hwritten with
  | @cons _ block _ blocks hfirst hrest =>
    obtain ⟨hpositive, -, options, hparameters, hcount⟩ := pingCount_of_writtenFrom hfirst
    obtain rfl := Except.ok.inj (hreference.symm.trans hparameters)
    refine ⟨block.pingCount, hpositive, ?_, List.forall_mem_cons.2 ⟨rfl, ?_⟩⟩
    · rw [← hcount, Value.item_sortKeys]
      rfl
    · have hblocks := forM_eq_ok_iff.1 hcompare
      clear hcompare
      induction hrest with
      | nil => exact List.forall_mem_nil _
      | @cons document other documents others hdocument _ ih =>
        obtain ⟨hmem, hblocks⟩ := List.forall_mem_cons.1 hblocks
        obtain ⟨-, -, options', hparameters', hcount'⟩ := pingCount_of_writtenFrom hdocument
        have hequal := pingCount_eq_of_compareBlock hparameters' hmem
        refine List.forall_mem_cons.2 ⟨by omega, ih hblocks⟩

/-- The runs and the samples that the merge counts. -/
theorem counts_of_read {P : Interpreter τ} {documents : List (Value τ)} {blocks : List PingBlock}
    {runs : List (List (List τ))} (hwritten : List.Forall₂ (WrittenFrom P) documents blocks)
    (hread : documents.mapM (readLatency P.arithmetic) = .ok runs) :
    (join latencyRun runs).length = (blocks.map fun block => block.outputs.length).sum ∧
      runs.flatten.flatten.length = totalSamples blocks := by
  rw [mapM_eq_ok_iff] at hread
  rw [length_join]
  induction hwritten generalizing runs with
  | nil =>
    cases hread
    exact ⟨rfl, rfl⟩
  | cons hfirst _ ih =>
    cases hread with
    | cons hruns hread =>
      obtain ⟨runs', hruns', hlengths⟩ := readLatency_of_writtenFrom hfirst
      obtain rfl := Except.ok.inj (hruns.symm.trans hruns')
      obtain ⟨hcount, hsamples⟩ := ih hread
      have hlength := congrArg List.length hlengths
      rw [List.length_map, List.length_map] at hlength
      constructor
      · rw [List.map_cons, List.map_cons, List.sum_cons, List.sum_cons, hcount, hlength]
      · rw [List.flatten_cons, List.flatten_append, List.length_append, hsamples,
          List.length_flatten, hlengths, totalSamples, totalSamples, List.map_cons, List.sum_cons]
        rfl

/-- The document reports the part of the requests that got no reply. -/
def ReportsLoss (merged : Value ℚ) (blocks : List PingBlock) : Prop :=
  ∃ lost : ℚ, (merged.item "latency" >>= fun latency => latency.item "lost_percent")
      = .ok (.float lost) ∧
    lost = 100 * ((totalUnanswered blocks : ℚ) / totalRequests blocks) ∧ 0 ≤ lost ∧ lost ≤ 100

/-- The requests of blocks with the same number of requests in every run. -/
theorem totalRequests_eq {blocks : List PingBlock} {count : ℕ}
    (h : ∀ block ∈ blocks, block.pingCount = count) :
    totalRequests blocks = (blocks.map fun block => block.outputs.length).sum * count := by
  unfold totalRequests
  rw [← List.sum_map_mul_right]
  refine congrArg List.sum (List.map_congr_left fun block hblock => ?_)
  rw [PingBlock.requests, h block hblock]

/-- A part of the requests, in percent. -/
theorem percent_bounds {unanswered requests : ℕ} (h : unanswered ≤ requests) :
    0 ≤ 100 * ((unanswered : ℚ) / requests) ∧ 100 * ((unanswered : ℚ) / requests) ≤ 100 := by
  have hle : (unanswered : ℚ) ≤ requests := by exact_mod_cast h
  have hone : (unanswered : ℚ) / requests ≤ 1 := div_le_one_of_le₀ hle (Nat.cast_nonneg _)
  constructor
  · positivity
  · linarith

/-- The quotient of the merge. -/
theorem lostPercent_eq_ok {sqrt : ℚ → ℚ} {requests received : ℕ} {lost : ℚ}
    (h : lostPercent (.exact sqrt) requests received = .ok lost) :
    0 < requests ∧ lost = ((requests : ℚ) - received) / requests * 100 := by
  unfold lostPercent at h
  split at h
  · cases h
  · rename_i hne
    refine ⟨by omega, ?_⟩
    rw [← Except.ok.inj h]
    show ((((requests : ℤ) - (received : ℤ) : ℤ) : ℚ) / ((requests : ℤ) : ℚ)) * 100 = _
    push_cast
    rfl

/-- The quotient of the merge is the part of the requests when the differences agree. -/
theorem percent_eq_iff {unanswered samples requests : ℕ} (h : 0 < requests) :
    ((requests : ℚ) - samples) / requests * 100 = 100 * ((unanswered : ℚ) / requests) ↔
      requests = unanswered + samples := by
  have hne : (requests : ℚ) ≠ 0 := by
    exact_mod_cast Nat.ne_of_gt h
  rw [mul_comm, mul_right_inj' (by norm_num), div_left_inj' hne, sub_eq_iff_eq_add]
  exact_mod_cast Iff.rfl

/-- **The reported loss** is the part of the requests without a reply exactly when no request
has two replies. -/
theorem lostPercent_correct_iff (sqrt : ℚ → ℚ)
    (loads : String → Except InterpreterError (Value ℚ))
    (str : Value ℚ → Except InterpreterError String) (sleep : ℚ → Except SleepError Unit)
    (readText : String → Except ReadError String) (createdAt label : String)
    (paths : List String) (documents : List (Value ℚ)) (merged : Value ℚ)
    (blocks : List PingBlock)
    (hfiles : List.Forall₂ (Holds ⟨.exact sqrt, loads, str, sleep⟩ readText) paths documents)
    (hwritten : List.Forall₂ (WrittenFrom ⟨.exact sqrt, loads, str, sleep⟩) documents blocks)
    (hmerge : mergeBenchmarkBlocks ⟨.exact sqrt, loads, str, sleep⟩ readText createdAt paths label
      = .ok merged) :
    ReportsLoss merged blocks ↔ ∀ block ∈ blocks, ∀ output ∈ block.outputs, output.Single := by
  obtain ⟨first, rest, rfl, hdocuments⟩ := mergeBenchmarkBlocks_eq_ok hfiles hmerge
  obtain ⟨⟨reference, runs, hreference, hcompare, hsamples⟩, -⟩ := mergeDocuments_eq_ok hdocuments
  obtain ⟨count, hpositive, hcount, hblocks⟩ :=
    pingCount_eq_of_merged hwritten hreference hcompare
  obtain ⟨pingCount, count', lost, hpingCount, hcount', hlost, hreported⟩ := hsamples.lost
  obtain rfl := Except.ok.inj (hcount.symm.trans hpingCount)
  obtain rfl := Except.ok.inj hcount'
  obtain ⟨hruns, hreceived⟩ := counts_of_read hwritten hsamples.read
  rw [hruns, hreceived, ← Nat.cast_mul, ← totalRequests_eq hblocks] at hlost
  obtain ⟨hrequests, hvalue⟩ := lostPercent_eq_ok hlost
  rw [← totalRequests_eq_iff, ← percent_eq_iff hrequests, ← hvalue]
  constructor
  · rintro ⟨lost', hlost', hcorrect, -⟩
    obtain rfl := Value.float.inj (Except.ok.inj (hreported.symm.trans hlost'))
    exact hcorrect
  · intro hcorrect
    refine ⟨lost, hreported, hcorrect, ?_⟩
    rw [hcorrect]
    exact percent_bounds (totalUnanswered_le blocks)

/-! ## A block with a duplicate -/

/-- A reply of `ping` to its first request. -/
def firstReply (before : String) (h : Quiet before.toList) : PingReply where
  request := 1
  before := before.toList
  sign := '='
  time := ['1']
  gap := [' ']
  quiet := h
  sign_eq := Or.inl rfl
  time_ne_nil := by decide
  time_all := by simp [isTimeCharacter]
  gap_all := by simp [isUnicodeSpace, isNumberSpace]

/-- An output where the request has one reply. -/
def singleOutput : PingOutput where
  replies := [firstReply "icmp_seq=1 ttl=64 " (by decide +kernel)]
  footer := []
  quiet := by decide

/-- An output where the request has two. -/
def doubleOutput : PingOutput where
  replies := [firstReply "icmp_seq=1 ttl=64 " (by decide +kernel),
    firstReply "\nicmp_seq=1 ttl=64 " (by decide +kernel)]
  footer := " (DUP!)".toList
  quiet := by decide +kernel

/-- A block with one run of one request. -/
def oneRequest (output : PingOutput) (h : ∀ reply ∈ output.replies, reply.request = 1) :
    PingBlock where
  pingCount := 1
  outputs := [output]
  request_mem := by
    intro output' houtput' reply hreply
    rw [List.mem_singleton.1 houtput'] at hreply
    rw [h reply hreply]
    exact ⟨Nat.le_refl 1, Nat.le_refl 1⟩

/-- The commands of the block. -/
def pingCommands (text : String) (_ : ℕ) : CompletedProcess := ⟨0, text, ""⟩

/-- The options of the block. -/
def latencySample : BenchmarkOptions ℚ := { benchmarkSample with skipIperf := true }

/-- The result of the block. -/
def pingResult (samples : List ℚ) : Value ℚ :=
  .dict [("schema_version", .int 1), ("created_at", .str benchmarkMachine.createdAt),
    ("label", .str latencySample.label), ("parameters", parametersDict latencySample),
    ("environment", environmentDict benchmarkMachine),
    ("latency", .dict [("unit", .str "ms"), ("raw_runs", .list [pingRun 0 samples]),
      ("summary", (sameSamples samples.length 1).toDict)])]

/-- The document of the block. -/
def pingDocument (samples : List ℚ) : Value ℚ := (pingResult samples).sortKeys

theorem writtenFrom_single : WrittenFrom (knowing (pingDocument [1])) (pingDocument [1])
    (oneRequest singleOutput (by decide)) := by
  refine ⟨pingCommands "icmp_seq=1 ttl=64 time=1 ms", benchmarkMachine, latencySample,
    pingResult [1], by with_unfolding_all rfl, rfl, rfl, rfl, ?_⟩
  intro k output hk
  cases k with
  | zero =>
    obtain rfl := Option.some.inj hk
    decide +kernel
  | succ k => cases hk

theorem writtenFrom_double : WrittenFrom (knowing (pingDocument [1, 1])) (pingDocument [1, 1])
    (oneRequest doubleOutput (by decide)) := by
  refine ⟨pingCommands "icmp_seq=1 ttl=64 time=1 ms\nicmp_seq=1 ttl=64 time=1 ms (DUP!)",
    benchmarkMachine, latencySample, pingResult [1, 1], by with_unfolding_all rfl, rfl, rfl, rfl,
    ?_⟩
  intro k output hk
  cases k with
  | zero =>
    obtain rfl := Option.some.inj hk
    decide +kernel
  | succ k => cases hk

/-- The merge of a block whose request has one reply. -/
theorem lostPercent_correct_sample : ∃ merged,
    mergeBenchmarkBlocks (knowing (pingDocument [1])) (filesWith (pingDocument [1]))
      "2026-01-02T00:00:00+00:00" ["block.json"] "vpn" = .ok merged ∧
    (ReportsLoss merged [oneRequest singleOutput (by decide)] ↔
      ∀ block ∈ [oneRequest singleOutput (by decide)], ∀ output ∈ block.outputs,
        output.Single) := by
  have hmerge : ∃ merged, mergeBenchmarkBlocks (knowing (pingDocument [1]))
      (filesWith (pingDocument [1])) "2026-01-02T00:00:00+00:00" ["block.json"] "vpn"
      = .ok merged := by
    unfold mergeBenchmarkBlocks
    rw [if_neg (by decide), List.mapM_cons,
      loadResult_knowing (by decide +kernel) (by with_unfolding_all rfl)]
    exact ⟨_, by with_unfolding_all rfl⟩
  obtain ⟨merged, hmerge⟩ := hmerge
  exact ⟨merged, hmerge, lostPercent_correct_iff id (knowing (pingDocument [1])).loads
    (knowing (pingDocument [1])).str (knowing (pingDocument [1])).sleep _ _ _ _ _ merged _
    (.cons (holds_filesWith (by decide +kernel) _) .nil) (.cons writtenFrom_single .nil) hmerge⟩

/-- A loss of -100 percent: the request has two replies. -/
theorem lostPercent_correct_not :
    List.Forall₂ (Holds (knowing (pingDocument [1, 1])) (filesWith (pingDocument [1, 1])))
      ["block.json"] [pingDocument [1, 1]] ∧
    WrittenFrom (knowing (pingDocument [1, 1])) (pingDocument [1, 1])
      (oneRequest doubleOutput (by decide)) ∧
    ∃ merged, mergeBenchmarkBlocks (knowing (pingDocument [1, 1]))
        (filesWith (pingDocument [1, 1])) "2026-01-02T00:00:00+00:00" ["block.json"] "vpn"
        = .ok merged ∧
      ¬ ReportsLoss merged [oneRequest doubleOutput (by decide)] := by
  refine ⟨.cons (holds_filesWith (by decide +kernel) _) .nil, writtenFrom_double, ?_⟩
  have hmerge : ∃ merged, mergeBenchmarkBlocks (knowing (pingDocument [1, 1]))
        (filesWith (pingDocument [1, 1])) "2026-01-02T00:00:00+00:00" ["block.json"] "vpn"
        = .ok merged ∧
      (merged.item "latency" >>= fun latency => latency.item "lost_percent")
        = .ok (.float (-100)) := by
    unfold mergeBenchmarkBlocks
    rw [if_neg (by decide), List.mapM_cons,
      loadResult_knowing (by decide +kernel) (by with_unfolding_all rfl)]
    exact ⟨_, by with_unfolding_all rfl, by with_unfolding_all rfl⟩
  obtain ⟨merged, hmerge, hlost⟩ := hmerge
  refine ⟨merged, hmerge, ?_⟩
  rintro ⟨lost, hlost', -, hnonneg, -⟩
  obtain rfl := Value.float.inj (Except.ok.inj (hlost.symm.trans hlost'))
  exact absurd hnonneg (by norm_num)

end MatfVpn
