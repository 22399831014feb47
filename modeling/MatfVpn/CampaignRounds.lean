/-
# Rounds and blocks of a campaign

The final analysis cuts the values of a merged document into six parts of the same length and
takes their medians for those of the rounds.  The merge labels every run with its block.

* `roundAggregates_spec` : the aggregates are the medians of the parts;
* `ownValues` : the values of a block are a part as long as the block;
* `rounds_are_blocks_iff` : the aggregates are those of the blocks, for all documents with blocks
  of given lengths, exactly when the lengths are the same.
-/
import MatfVpn.FinalAnalysis
import MatfVpn.MergedBlocks
import MatfVpn.SummaryBounds

namespace MatfVpn

open Blocks

variable {τ : Type}

/-! ## The parts -/

/-- The part of the values from `start` on. -/
def part (values : List τ) (start length : ℕ) : List τ := (values.drop start).take length

theorem length_part {values : List τ} {start length : ℕ} (h : start + length ≤ values.length) :
    (part values start length).length = length := by
  rw [part, List.length_take, List.length_drop]
  omega

theorem rangeStep_six {m : ℕ} (hm : 0 < m) :
    rangeStep (6 * m) m = (List.range 6).map (· * m) := by
  have hcount : (6 * m + m - 1) / m = 6 := by
    apply Nat.div_eq_of_lt_le
    · omega
    · omega
  rw [rangeStep, hcount]

theorem median_singleton (A : Arithmetic τ) (x : τ) : median A [x] = .ok x := by
  have hsorted := List.perm_singleton.1 (sorted_perm A [x])
  unfold median listItem
  rw [hsorted]
  simp

/-- **`round_aggregates`** takes the medians of six parts of the same length. -/
theorem roundAggregates_spec (A : Arithmetic τ) {values : List τ} {m : ℕ} (hm : 0 < m)
    (hlength : values.length = 6 * m) :
    ∃ aggregates, roundAggregates A values = .ok aggregates ∧ aggregates.length = 6 ∧
      ∀ i, i < 6 → ∃ x, aggregates[i]? = some x ∧ median A (part values (i * m) m) = .ok x := by
  unfold roundAggregates
  by_cases hone : values.length = 6
  · obtain rfl : m = 1 := by omega
    rw [if_pos hone]
    refine ⟨values, rfl, hone, fun i hi => ?_⟩
    have hlt : i < values.length := by omega
    refine ⟨values[i], List.getElem?_eq_getElem hlt, ?_⟩
    rw [part, Nat.mul_one, List.drop_eq_getElem_cons hlt]
    exact median_singleton A _
  · have hrounds : values.length / 6 = m := by omega
    rw [if_neg hone, if_neg (by omega)]
    simp only
    rw [hrounds, if_neg (by omega), hlength, rangeStep_six hm]
    have hmedian : ∀ start ∈ (List.range 6).map (· * m),
        ∃ x, median A (part values start m) = .ok x := by
      intro start hstart
      obtain ⟨i, hi, rfl⟩ := List.mem_map.1 hstart
      have hfit : i * m + m ≤ values.length := by
        have hle := Nat.mul_le_mul_right m (List.mem_range.1 hi)
        rw [Nat.succ_mul] at hle
        omega
      refine median_isOk A (List.length_pos_iff.1 ?_)
      rw [length_part hfit]
      exact hm
    obtain ⟨aggregates, haggregates⟩ := exists_mapM_eq_ok hmedian
    refine ⟨aggregates, haggregates, ?_, fun i hi => ?_⟩
    · rw [← (mapM_eq_ok_iff.1 haggregates).length_eq]
      rfl
    · refine getElem?_of_mapM haggregates ?_
      rw [List.getElem?_map, List.getElem?_range hi]
      rfl

/-! ## The blocks -/

/-- The run is labelled with the block. -/
def ofBlock (block : ℕ) (run : Value τ) : Bool :=
  match run.item "block" with
  | .ok (.int label) => label = block
  | _ => false

theorem ofBlock_numberedRun (number block label : ℕ) (run : List (String × Value τ) × τ) :
    ofBlock label (numberedRun number block run) = decide (block = label) := by
  unfold ofBlock numberedRun throughputRun
  rw [Value.item_setField_self]
  simp

theorem ofBlock_latencyRun (number block label : ℕ) (samples : List τ) :
    ofBlock label (latencyRun number block samples) = decide (block = label) := by
  show decide ((block : ℤ) = (label : ℤ)) = _
  simp

/-- The lengths of the blocks of a section. -/
def blockSizes (documents : List (Value τ)) (section_ : String) : List ℕ :=
  documents.map fun document => (sectionEntries document section_ "raw_runs").length

theorem rawRuns_eq_ok_of_list {document : Value τ} {section_ : String} {runs : List (Value τ)}
    (h : (document.item section_ >>= fun value => value.item "raw_runs") = .ok (.list runs)) :
    rawRuns document section_ = .ok runs := by
  obtain ⟨value, hvalue, hruns⟩ := except_bind_eq_ok.1 h
  exact except_bind_eq_ok.2 ⟨value, hvalue, except_bind_eq_ok.2 ⟨_, hruns, rfl⟩⟩

/-- **The runs** of a merged section are joined from blocks of these lengths. -/
theorem merged_runs {A : Arithmetic τ} {createdAt label : String} {paths : List String}
    {first merged : Value τ} {rest : List (Value τ)}
    (h : mergeDocuments A createdAt label paths first rest = .ok merged) {section_ : String}
    (hsection : section_ ∈ ["latency", "tcp", "udp"]) {runs : List (Value τ)}
    (hruns : rawRuns merged section_ = .ok runs) :
    ∃ (α : Type) (f : ℕ → ℕ → α → Value τ) (blocks : List (List α)),
      runs = join f blocks ∧ (∀ n b k a, ofBlock k (f n b a) = decide (b = k)) ∧
      blocks.map List.length = blockSizes (first :: rest) section_ := by
  obtain ⟨⟨reference, samples, -, -, hlatency⟩, hprotocols⟩ := mergeDocuments_eq_ok h
  rcases List.mem_cons.1 hsection with rfl | hprotocol
  · refine ⟨List τ, latencyRun, samples, ?_, fun n b k a => ofBlock_latencyRun n b k a, ?_⟩
    · exact Except.ok.inj (hruns.symm.trans (rawRuns_eq_ok_of_list hlatency.runs))
    · exact (map_eq_map_of_mapM hlatency.read fun _ _ hread =>
        length_sectionEntries_of_readLatency hread).symm
  · rcases hprotocols section_ hprotocol with ⟨-, hmissing⟩ | ⟨-, sections, hmerged⟩
    · obtain ⟨value, hvalue, -⟩ := except_bind_eq_ok.1 hruns
      rw [hmissing] at hvalue
      cases hvalue
    · refine ⟨_, numberedRun, sections.map (·.runs), ?_, fun n b k a =>
        ofBlock_numberedRun n b k a, ?_⟩
      · exact Except.ok.inj (hruns.symm.trans (rawRuns_eq_ok_of_list hmerged.runs))
      · rw [List.map_map]
        refine (map_eq_map_of_mapM hmerged.read fun document section' hread => ?_).symm
        rw [(sectionEntries_of_readSection hread).1, List.length_map]
        rfl

/-- **The values** of a block are the part of all values that the block is. -/
theorem ownValues {α : Type} {f : ℕ → ℕ → α → Value τ} {blocks : List (List α)}
    (hlabel : ∀ n b k a, ofBlock k (f n b a) = decide (b = k)) {read : Value τ → Except ToolError τ}
    {values : List τ} (h : (join f blocks).mapM read = .ok values) {items : List α} {i : ℕ}
    (hi : blocks[i]? = some items) :
    ((join f blocks).filter (ofBlock (i + 1))).mapM read
      = .ok (part values (offset blocks i) items.length) := by
  rw [filter_join f blocks hlabel hi, mapM_eq_ok_iff]
  exact List.forall₂_take _ (List.forall₂_drop _ (mapM_eq_ok_iff.1 h))

/-! ## Rounds that are blocks -/

/-- The six aggregates of the values are the medians of the values of the runs that are labelled
with the blocks. -/
def ReportsRounds (A : Arithmetic τ) (metric : Metric τ) (merged : Value τ) (values : List τ) :
    Prop :=
  ∃ aggregates, roundAggregates A values = .ok aggregates ∧ aggregates.length = 6 ∧
    ∀ i, i < 6 → ∃ runs own x, rawRuns merged metric.section_ = .ok runs ∧
      (runs.filter (ofBlock (i + 1))).mapM metric.ofRun = .ok own ∧ median A own = .ok x ∧
      aggregates[i]? = some x

/-- The parts of the final analysis have the medians of the blocks. -/
def PartsAgree (A : Arithmetic τ) (sizes : List ℕ) (values : List τ) (m : ℕ) : Prop :=
  ∀ i size, sizes[i]? = some size →
    median A (part values (sizes.take i).sum size) = median A (part values (i * m) m)

theorem reportsRounds_iff {A : Arithmetic τ} {createdAt label : String} {paths : List String}
    {first merged : Value τ} {rest : List (Value τ)} {metric : Metric τ} {values : List τ}
    (h : mergeDocuments A createdAt label paths first rest = .ok merged)
    (hsection : metric.section_ ∈ ["latency", "tcp", "udp"])
    (hvalues : metric.extractor merged = .ok values) {m : ℕ} (hm : 0 < m)
    (hlength : (blockSizes (first :: rest) metric.section_).length = 6)
    (hsum : (blockSizes (first :: rest) metric.section_).sum = 6 * m) :
    ReportsRounds A metric merged values ↔
      PartsAgree A (blockSizes (first :: rest) metric.section_) values m := by
  obtain ⟨runs, hruns, hread⟩ := except_bind_eq_ok.1 hvalues
  obtain ⟨α, f, blocks, rfl, hlabel, hsizes⟩ := merged_runs h hsection hruns
  have hcount : values.length = 6 * m := by
    rw [← (mapM_eq_ok_iff.1 hread).length_eq, length_join, hsizes, hsum]
  obtain ⟨aggregates, haggregates, hsix, hparts⟩ := roundAggregates_spec A hm hcount
  have hown : ∀ i size, (blockSizes (first :: rest) metric.section_)[i]? = some size →
      ((join f blocks).filter (ofBlock (i + 1))).mapM metric.ofRun
        = .ok (part values ((blockSizes (first :: rest) metric.section_).take i).sum size) := by
    intro i size hi
    rw [← hsizes, List.getElem?_map, Option.map_eq_some_iff] at hi
    obtain ⟨items, hitems, rfl⟩ := hi
    rw [← hsizes]
    exact ownValues hlabel hread hitems
  constructor
  · rintro ⟨aggregates', haggregates', -, hrounds⟩ i size hi
    obtain rfl := Except.ok.inj (haggregates.symm.trans haggregates')
    have hlt := (List.getElem?_eq_some_iff.1 hi).1
    rw [hlength] at hlt
    obtain ⟨runs', own, x, hruns', hown', hmedian, hx⟩ := hrounds i hlt
    obtain ⟨y, hy, hmedian'⟩ := hparts i hlt
    obtain rfl := Except.ok.inj (hruns.symm.trans hruns')
    obtain rfl := Except.ok.inj ((hown i size hi).symm.trans hown')
    obtain rfl := Option.some.inj (hx.symm.trans hy)
    rw [hmedian, hmedian']
  · intro hagree
    refine ⟨aggregates, haggregates, hsix, fun i hi => ?_⟩
    obtain ⟨x, hx, hmedian⟩ := hparts i hi
    have hsize := List.getElem?_eq_getElem (hi.trans_eq hlength.symm)
    exact ⟨_, _, x, hruns, hown i _ hsize, (hagree i _ hsize).trans hmedian, hx⟩

/-- Blocks of the same length are the parts. -/
theorem partsAgree_of_equal (A : Arithmetic τ) {sizes : List ℕ} {m : ℕ}
    (h : ∀ size ∈ sizes, size = m) (values : List τ) : PartsAgree A sizes values m := by
  intro i size hi
  have hsum : (sizes.take i).sum = i * m := by
    have hle := (List.getElem?_eq_some_iff.1 hi).1
    rw [List.sum_eq_card_nsmul _ m fun size hsize => h size (List.mem_of_mem_take hsize),
      List.length_take, smul_eq_mul, Nat.min_eq_left (Nat.le_of_lt hle)]
  rw [hsum, h size (List.mem_of_getElem? hi)]

/-- The aggregates are those of the blocks, for all files whose documents have blocks of these
lengths. -/
def RoundsAreBlocks (A : Arithmetic τ) (metric : Metric τ) (sizes : List ℕ) : Prop :=
  ∀ (P : Interpreter τ) (readText : String → Except ReadError String) (createdAt label : String)
    (paths : List String) (documents : List (Value τ)) (merged : Value τ) (values : List τ),
    P.arithmetic = A → List.Forall₂ (Holds P readText) paths documents →
    blockSizes documents metric.section_ = sizes →
    mergeBenchmarkBlocks P readText createdAt paths label = .ok merged →
    metric.extractor merged = .ok values → ReportsRounds A metric merged values

theorem section_mem {A : Arithmetic τ} {metric : Metric τ} (h : metric ∈ benchmarkMetrics A) :
    metric.section_ ∈ ["latency", "tcp", "udp"] := by
  have hall : ∀ metric ∈ benchmarkMetrics A, metric.section_ ∈ ["latency", "tcp", "udp"] := by
    simp [benchmarkMetrics]
  exact hall metric h

/-- Blocks of the same length, one of which is not empty. -/
theorem sum_of_equal {sizes : List ℕ} (hlength : sizes.length = 6)
    (hpositive : ∀ size ∈ sizes, 0 < size) (hequal : ∀ s ∈ sizes, ∀ t ∈ sizes, s = t) :
    ∃ m, 0 < m ∧ sizes.sum = 6 * m ∧ ∀ size ∈ sizes, size = m := by
  obtain ⟨first, rest, rfl⟩ := List.exists_cons_of_length_eq_add_one hlength
  have hall : ∀ size ∈ first :: rest, size = first := fun size hsize =>
    hequal size hsize first List.mem_cons_self
  refine ⟨first, hpositive first List.mem_cons_self, ?_, hall⟩
  rw [List.sum_eq_card_nsmul _ first hall, hlength, smul_eq_mul]

/-- **Blocks of the same length** are the rounds. -/
theorem roundsAreBlocks_of_equal {A : Arithmetic τ} {metric : Metric τ}
    (hmetric : metric ∈ benchmarkMetrics A) {sizes : List ℕ} (hlength : sizes.length = 6)
    (hpositive : ∀ size ∈ sizes, 0 < size) (hequal : ∀ s ∈ sizes, ∀ t ∈ sizes, s = t) :
    RoundsAreBlocks A metric sizes := by
  rintro P readText createdAt label paths documents merged values rfl hfiles rfl hmerge hvalues
  obtain ⟨first, rest, rfl, hdocuments⟩ := mergeBenchmarkBlocks_eq_ok hfiles hmerge
  obtain ⟨m, hm, hsum, hall⟩ := sum_of_equal hlength hpositive hequal
  exact (reportsRounds_iff hdocuments (section_mem hmetric) hvalues hm hlength hsum).2
    (partsAgree_of_equal _ hall values)

/-! ## Values that rise -/

/-- The part of the values of numbered runs. -/
theorem part_map_range (g : ℕ → τ) {count start length : ℕ} (h : start + length ≤ count) :
    part ((List.range count).map g) start length
      = (List.range' start length).map g := by
  rw [part, ← List.map_drop, ← List.map_take, List.range_eq_range', List.drop_range', Nat.mul_one,
    Nat.zero_add, List.take_range'_of_length_ge (by omega)]

/-- **The median** of a part of values on a straight line. -/
theorem median_part (sqrt : ℚ → ℚ) (a b : ℚ) {count start length : ℕ} (hlength : 0 < length)
    (h : start + length ≤ count) :
    median (.exact sqrt) (part ((List.range count).map fun j : ℕ => a + b * j) start length)
      = .ok (a + b * (start + ((length : ℚ) - 1) * (1 / 2))) := by
  rw [part_map_range _ h]
  have hvalues : ∀ k, k < ((List.range' start length).map fun j : ℕ => a + b * j).length →
      ((List.range' start length).map fun j : ℕ => a + b * j)[k]?
        = some ((a + b * start) + b * k) := by
    intro k hk
    rw [List.length_map, List.length_range'] at hk
    rw [List.getElem?_map, List.getElem?_range' hk, Option.map_some]
    apply congrArg some
    push_cast
    ring
  have hne : ((List.range' start length).map fun j : ℕ => a + b * j) ≠ [] := by
    rw [← List.length_pos_iff, List.length_map, List.length_range']
    exact hlength
  rw [median_affine sqrt hne hvalues, List.length_map, List.length_range']
  apply congrArg Except.ok
  ring

/-- Parts of a straight line have the same median where their middles are the same. -/
theorem median_part_eq_iff (sqrt : ℚ → ℚ) (a : ℚ) {b : ℚ} (hb : b ≠ 0)
    {count start length start' length' : ℕ} (hlength : 0 < length) (hlength' : 0 < length')
    (h : start + length ≤ count) (h' : start' + length' ≤ count) :
    median (.exact sqrt) (part ((List.range count).map fun j : ℕ => a + b * j) start length)
      = median (.exact sqrt) (part ((List.range count).map fun j : ℕ => a + b * j) start' length')
    ↔ 2 * start + length = 2 * start' + length' := by
  rw [median_part sqrt a b hlength h, median_part sqrt a b hlength' h', Except.ok.injEq,
    add_right_inj, mul_right_inj' hb]
  constructor
  · intro hequal
    have hcast : ((2 * start + length : ℕ) : ℚ) = (2 * start' + length' : ℕ) := by
      push_cast
      linarith
    exact_mod_cast hcast
  · intro hequal
    have hcast : ((2 * start + length : ℕ) : ℚ) = (2 * start' + length' : ℕ) := by
      rw [hequal]
    push_cast at hcast
    linarith

/-- **Blocks with the middles** of the parts are the parts. -/
theorem equal_of_middles {sizes : List ℕ} {m : ℕ}
    (h : ∀ i size, sizes[i]? = some size → 2 * (sizes.take i).sum + size = 2 * (i * m) + m) :
    ∀ size ∈ sizes, size = m := by
  have hsum : ∀ i, i ≤ sizes.length → (sizes.take i).sum = i * m := by
    intro i
    induction i with
    | zero => exact fun _ => (Nat.zero_mul m).symm
    | succ i ih =>
      intro hi
      have hprevious := ih (by omega)
      have hmiddle := h i _ (List.getElem?_eq_getElem hi)
      rw [List.sum_take_succ _ i hi, Nat.succ_mul]
      omega
  intro size hsize
  obtain ⟨i, hi⟩ := List.mem_iff_getElem?.1 hsize
  have hmiddle := h i size hi
  rw [hsum i (List.getElem?_eq_some_iff.1 hi).1.le] at hmiddle
  omega

/-- Values on a straight line tell blocks of different lengths from the parts. -/
theorem equal_of_partsAgree {sqrt : ℚ → ℚ} {a b : ℚ} (hb : b ≠ 0) {sizes : List ℕ} {m : ℕ}
    (hm : 0 < m) (hlength : sizes.length = 6) (hpositive : ∀ size ∈ sizes, 0 < size)
    (hsum : sizes.sum = 6 * m)
    (h : PartsAgree (.exact sqrt) sizes
      ((List.range sizes.sum).map fun j : ℕ => a + b * j) m) :
    ∀ size ∈ sizes, size = m := by
  apply equal_of_middles
  intro i size hi
  have hlt := (List.getElem?_eq_some_iff.1 hi).1
  have hend : (sizes.take i).sum + size ≤ sizes.sum := by
    obtain ⟨-, rfl⟩ := List.getElem?_eq_some_iff.1 hi
    rw [← List.sum_take_succ _ i hlt]
    exact List.Sublist.sum_le_sum (List.take_sublist _ _) fun _ _ => Nat.zero_le _
  have hend' : i * m + m ≤ sizes.sum := by
    have hle := Nat.mul_le_mul_right m (hlt.trans_eq hlength)
    rw [Nat.succ_mul] at hle
    omega
  exact (median_part_eq_iff sqrt a hb (hpositive size (List.mem_of_getElem? hi)) hm hend hend').1
    (h i size hi)

/-! ## Blocks with numbered runs -/

/-- A run of the latency with the number as its time. -/
def rttSample (j : ℕ) : Value ℚ := .dict [("rtt_ms", .list [.float j])]

/-- A run of TCP with so many megabits. -/
def tcpSample (j : ℕ) : List (String × Value ℚ) := [("bits_per_second", .float (1000000 * j))]

/-- A run of UDP with the number as its jitter and its loss. -/
def udpSample (j : ℕ) : List (String × Value ℚ) :=
  [("bits_per_second", .float 100000000), ("jitter_ms", .float j), ("lost_percent", .float j)]

/-- A block with these runs. -/
def sampleBlock (label : String) (numbers : List ℕ) : Value ℚ :=
  .dict [("schema_version", .int 1), ("label", .str label),
    ("parameters", .dict [("ping_count", .int 1)]), ("environment", .dict []),
    ("latency", .dict [("raw_runs", .list (numbers.map rttSample))]),
    ("tcp", .dict [("raw_runs", .list (numbers.map fun j => .dict (tcpSample j)))]),
    ("udp", .dict [("raw_runs", .list (numbers.map fun j => .dict (udpSample j)))])]

/-- The names of the files. -/
def campaignPaths : List String := ["1.json", "2.json", "3.json", "4.json", "5.json", "6.json"]

/-- The files, for blocks of these lengths. -/
def campaignFiles (sizes : List ℕ) : List (String × Value ℚ) :=
  (campaignPaths.zip sizes.ranges).map fun (path, numbers) => (path, sampleBlock path numbers)

/-- The documents of the files. -/
def campaignDocuments (sizes : List ℕ) : List (Value ℚ) := (campaignFiles sizes).map Prod.snd

variable {sqrt : ℚ → ℚ} {sizes : List ℕ}

theorem length_ranges (sizes : List ℕ) : sizes.ranges.length = sizes.length := by
  have hlength := congrArg List.length (List.ranges_length sizes)
  rwa [List.length_map] at hlength

/-- A document is a block of the numbers. -/
theorem campaignDocuments_forall₂ (hlength : sizes.length = 6) :
    List.Forall₂ (fun document numbers => ∃ path, document = sampleBlock path numbers)
      (campaignDocuments sizes) sizes.ranges := by
  have hsnd : (campaignPaths.zip sizes.ranges).map Prod.snd = sizes.ranges := by
    apply List.map_snd_zip
    rw [length_ranges, hlength]
    rfl
  have hdocuments : campaignDocuments sizes
      = (campaignPaths.zip sizes.ranges).map fun file => sampleBlock file.1 file.2 := by
    rw [campaignDocuments, campaignFiles, List.map_map]
    rfl
  rw [hdocuments]
  nth_rewrite 2 [← hsnd]
  rw [List.forall₂_map_left_iff, List.forall₂_map_right_iff, List.forall₂_same]
  exact fun file _ => ⟨file.1, rfl⟩

/-- What is read from the blocks. -/
theorem mapM_campaignDocuments (hlength : sizes.length = 6) {γ : Type}
    {read : Value ℚ → Except ToolError γ} {g : List ℕ → γ}
    (h : ∀ path numbers, read (sampleBlock path numbers) = .ok (g numbers)) :
    (campaignDocuments sizes).mapM read = .ok (sizes.ranges.map g) := by
  rw [mapM_eq_ok_iff, List.forall₂_map_right_iff]
  refine (campaignDocuments_forall₂ hlength).imp ?_
  rintro document numbers ⟨path, rfl⟩
  exact h path numbers

theorem readLatency_sampleBlock (path : String) (numbers : List ℕ) :
    readLatency (.exact sqrt) (sampleBlock path numbers)
      = .ok (numbers.map fun j : ℕ => [(j : ℚ)]) := by
  have hread : ∀ j, readTimes (.exact sqrt) (rttSample j) = .ok [(j : ℚ)] := fun _ => rfl
  exact mapM_map_eq_ok hread numbers

theorem readSection_sampleBlock {protocol : String} {fields : ℕ → List (String × Value ℚ)}
    {throughput : ℕ → ℚ} {path : String} {numbers : List ℕ}
    (hsection : (sampleBlock path numbers).item protocol
      = .ok (.dict [("raw_runs", .list (numbers.map fun j => .dict (fields j)))]))
    (hthroughput : ∀ j, (Value.dict (fields j)).item "bits_per_second"
      = .ok (.float (throughput j))) :
    readSection (.exact sqrt) protocol (sampleBlock path numbers)
      = .ok ⟨numbers.map fun j => (fields j, throughput j), []⟩ := by
  have hread : ∀ j, readRun (.exact sqrt) (.dict (fields j)) = .ok (fields j, throughput j) := by
    intro j
    unfold readRun
    rw [hthroughput]
    rfl
  have hruns := mapM_map_eq_ok hread numbers
  unfold readSection
  rw [hsection]
  show ((numbers.map fun j => Value.dict (fields j)).mapM (readRun (.exact sqrt)) >>= _) = _
  rw [hruns]
  rfl

theorem compareBlock_sampleBlock (path : String) (numbers : List ℕ) :
    compareBlock (.exact sqrt) (.dict [("ping_count", .int 1)]) (sampleBlock path numbers)
      = .ok () := by
  rw [compareBlock, forM_eq_ok_iff]
  simp only [comparabilityFields, List.forall_mem_cons]
  exact ⟨rfl, rfl, rfl, rfl, rfl, rfl, List.forall_mem_nil _⟩

theorem exists_summarize (sqrt : ℚ → ℚ) {samples : List ℚ} (h : samples ≠ []) :
    ∃ summary, summarize (.exact sqrt) samples = .ok summary := by
  rw [summarize_isOk_iff (exact_indexesPercentiles sqrt) h]
  exact ⟨⟨_, if_neg (sorted_ne_nil sqrt h)⟩, standardDeviation_eq sqrt _⟩

theorem map_range_ne_nil {α : Type} (f : ℕ → α) {count : ℕ} (h : 0 < count) :
    (List.range count).map f ≠ [] := by
  rw [← List.length_pos_iff, List.length_map, List.length_range]
  exact h

/-- The sections of the blocks. -/
def sampleSections (sizes : List ℕ) (fields : ℕ → List (String × Value ℚ)) (throughput : ℕ → ℚ) :
    List (BlockSection ℚ) :=
  sizes.ranges.map fun numbers => ⟨numbers.map fun j => (fields j, throughput j), []⟩

theorem throughput_sampleSections (sizes : List ℕ) (fields : ℕ → List (String × Value ℚ))
    (throughput : ℕ → ℚ) :
    (joinSections (sampleSections sizes fields throughput)).throughput
      = (List.range sizes.sum).map throughput := by
  rw [joinSections_eq, sampleSections, List.map_map, ← List.ranges_flatten, List.map_flatten]
  simp only [Function.comp_def, List.map_map]

/-- The section of a protocol is merged. -/
theorem exists_mergeProtocol (hlength : sizes.length = 6) (hpos : 0 < sizes.sum)
    {protocol : String} {fields : ℕ → List (String × Value ℚ)} {throughput : ℕ → ℚ}
    {first : Value ℚ} (hcontains : first.contains protocol = .ok true)
    (hread : ∀ path numbers, readSection (.exact sqrt) protocol (sampleBlock path numbers)
      = .ok ⟨numbers.map fun j => (fields j, throughput j), []⟩) :
    ∃ section_, mergeProtocol (.exact sqrt) first (campaignDocuments sizes) protocol
      = .ok section_ := by
  obtain ⟨summary, hsummary⟩ := exists_summarize sqrt (map_range_ne_nil throughput hpos)
  unfold mergeProtocol
  rw [hcontains, mergeThroughput_eq, mapM_campaignDocuments hlength hread]
  show ∃ section_, ((summarize (.exact sqrt)
    (joinSections (sampleSections sizes fields throughput)).throughput >>= _) >>= _) = .ok section_
  rw [throughput_sampleSections, hsummary]
  exact ⟨_, rfl⟩

theorem exists_of_mem_campaignDocuments (hlength : sizes.length = 6) {document : Value ℚ}
    (h : document ∈ campaignDocuments sizes) :
    ∃ path numbers, document = sampleBlock path numbers := by
  obtain ⟨i, hi, rfl⟩ := List.mem_iff_getElem.1 h
  have hforall := campaignDocuments_forall₂ hlength
  obtain ⟨path, hpath⟩ := hforall.get hi (hi.trans_eq hforall.length_eq)
  exact ⟨path, _, hpath⟩

/-- The samples of the latency. -/
theorem flatten_sampleTimes (sizes : List ℕ) :
    (sizes.ranges.map fun numbers => numbers.map fun j : ℕ => [(j : ℚ)]).flatten.flatten
      = (List.range sizes.sum).map fun j : ℕ => (j : ℚ) := by
  rw [← List.map_flatten, List.ranges_flatten, ← List.flatMap_def, ← List.map_eq_flatMap]

/-- **The blocks** are merged. -/
theorem exists_mergeDocuments (hlength : sizes.length = 6) (hpos : 0 < sizes.sum)
    (createdAt label : String) (paths : List String) {first : Value ℚ} {rest : List (Value ℚ)}
    (h : campaignDocuments sizes = first :: rest) :
    ∃ merged, mergeDocuments (.exact sqrt) createdAt label paths first rest = .ok merged := by
  have hcompare : rest.forM (compareBlock (.exact sqrt) (.dict [("ping_count", .int 1)]))
      = .ok () := by
    rw [forM_eq_ok_iff]
    intro document hdocument
    obtain ⟨path, numbers, rfl⟩ := exists_of_mem_campaignDocuments hlength
      (h ▸ List.mem_cons_of_mem _ hdocument)
    exact compareBlock_sampleBlock path numbers
  obtain ⟨path, numbers, rfl⟩ := exists_of_mem_campaignDocuments hlength
    (h ▸ List.mem_cons_self : first ∈ campaignDocuments sizes)
  have hlatency := mergeLatency_eq (.exact sqrt) (campaignDocuments sizes)
  rw [mapM_campaignDocuments hlength readLatency_sampleBlock, h] at hlatency
  obtain ⟨tcp, htcp⟩ := @exists_mergeProtocol sqrt sizes hlength hpos "tcp" tcpSample
    (fun j => 1000000 * j) (sampleBlock path numbers) rfl
    fun path numbers => readSection_sampleBlock rfl fun _ => rfl
  obtain ⟨udp, hudp⟩ := @exists_mergeProtocol sqrt sizes hlength hpos "udp" udpSample
    (fun _ => 100000000) (sampleBlock path numbers) rfl
    fun path numbers => readSection_sampleBlock rfl fun _ => rfl
  obtain ⟨summary, hsummary⟩ := exists_summarize sqrt
    (map_range_ne_nil (fun j : ℕ => (j : ℚ)) hpos)
  rw [← flatten_sampleTimes] at hsummary
  rw [h] at htcp hudp
  have hexpected : ((join latencyRun (sizes.ranges.map fun numbers =>
      numbers.map fun j : ℕ => [(j : ℚ)])).length * 1 : ℤ) ≠ 0 := by
    have hsizes : (sizes.ranges.map fun numbers =>
        numbers.map fun j : ℕ => [(j : ℚ)]).map List.length = sizes := by
      simp only [List.map_map, Function.comp_def, List.length_map]
      exact List.ranges_length sizes
    rw [length_join, hsizes]
    omega
  refine ⟨_, except_bind_eq_ok.2 ⟨_, rfl, except_bind_eq_ok.2 ⟨(), hcompare,
    except_bind_eq_ok.2 ⟨_, hlatency, except_bind_eq_ok.2 ⟨_, rfl,
    except_bind_eq_ok.2 ⟨_, rfl, except_bind_eq_ok.2 ⟨_, rfl, except_bind_eq_ok.2 ⟨1, rfl,
    except_bind_eq_ok.2 ⟨_, if_neg hexpected, except_bind_eq_ok.2 ⟨_, hsummary,
    except_bind_eq_ok.2 ⟨_, htcp, except_bind_eq_ok.2 ⟨_, hudp, rfl⟩⟩⟩⟩⟩⟩⟩⟩⟩⟩⟩⟩

theorem blockSizes_campaignDocuments (hlength : sizes.length = 6) {section_ : String}
    (hsection : section_ ∈ ["latency", "tcp", "udp"]) :
    blockSizes (campaignDocuments sizes) section_ = sizes := by
  have hentries : ∀ path numbers,
      (sectionEntries (sampleBlock path numbers) section_ "raw_runs").length
        = numbers.length := by
    intro path numbers
    simp only [List.mem_cons, List.not_mem_nil, or_false] at hsection
    rcases hsection with rfl | rfl | rfl <;> exact List.length_map _
  have hread : (campaignDocuments sizes).mapM (fun document =>
      (Except.ok (sectionEntries document section_ "raw_runs").length : Except ToolError ℕ))
      = .ok (sizes.ranges.map List.length) :=
    mapM_campaignDocuments hlength fun path numbers => congrArg Except.ok (hentries path numbers)
  have hmap := map_eq_map_of_mapM hread fun _ _ hlengths => Except.ok.inj hlengths
  rw [List.map_id', List.ranges_length] at hmap
  exact hmap

/-- The values of numbered runs. -/
theorem extractor_of_join {α : Type} {merged : Value τ} {metric : Metric τ}
    {f : ℕ → ℕ → α → Value τ} {g : ℕ → α} {k : ℕ → τ}
    (hruns : (merged.item metric.section_ >>= fun value => value.item "raw_runs")
      = .ok (.list (join f (sizes.ranges.map (List.map g)))))
    (hread : ∀ n b j, metric.ofRun (f n b (g j)) = .ok (k j)) :
    metric.extractor merged = .ok ((List.range sizes.sum).map k) := by
  refine except_bind_eq_ok.2 ⟨_, rawRuns_eq_ok_of_list hruns, ?_⟩
  rw [join_map, mapM_eq_ok_iff, ← List.ranges_flatten]
  exact forall₂_join _ _ hread

/-- **The values** of every metric are on a straight line. -/
theorem extractor_campaignDocuments (hlength : sizes.length = 6) {createdAt label : String}
    {paths : List String} {first merged : Value ℚ} {rest : List (Value ℚ)}
    (h : campaignDocuments sizes = first :: rest)
    (hmerge : mergeDocuments (.exact sqrt) createdAt label paths first rest = .ok merged)
    {metric : Metric ℚ} (hmetric : metric ∈ benchmarkMetrics (.exact sqrt)) :
    ∃ a b : ℚ, b ≠ 0 ∧
      metric.extractor merged = .ok ((List.range sizes.sum).map fun j : ℕ => a + b * j) := by
  obtain ⟨⟨reference, samples, -, -, hlatency⟩, hprotocols⟩ := mergeDocuments_eq_ok hmerge
  have htimes := hlatency.read
  rw [← h, mapM_campaignDocuments hlength readLatency_sampleBlock] at htimes
  obtain rfl := Except.ok.inj htimes
  -- both protocols are merged alike, and their runs are numbered by the same rule
  have hsections : ∀ (protocol : String) (fields : ℕ → List (String × Value ℚ))
      (throughput : ℕ → ℚ), protocol ∈ ["tcp", "udp"] →
      first.contains protocol = .ok true →
      (∀ path numbers, readSection (.exact sqrt) protocol (sampleBlock path numbers)
        = .ok ⟨numbers.map fun j => (fields j, throughput j), []⟩) →
      (merged.item protocol >>= fun value => value.item "raw_runs")
        = .ok (.list (join numberedRun
          (sizes.ranges.map (List.map fun j => (fields j, throughput j))))) := by
    intro protocol fields throughput hprotocol hcontains hread
    rcases hprotocols protocol hprotocol with ⟨hmissing, -⟩ | ⟨-, sections, hsection⟩
    · cases hcontains.symm.trans hmissing
    · have hsections := hsection.read
      rw [← h, mapM_campaignDocuments hlength hread] at hsections
      obtain rfl := Except.ok.inj hsections
      have hruns := hsection.runs
      rwa [List.map_map] at hruns
  obtain ⟨path, numbers, rfl⟩ := exists_of_mem_campaignDocuments hlength
    (h ▸ List.mem_cons_self : first ∈ campaignDocuments sizes)
  have htcp := hsections "tcp" tcpSample (fun j => 1000000 * j) (by decide) rfl
    fun path numbers => readSection_sampleBlock rfl fun _ => rfl
  have hudp := hsections "udp" udpSample (fun _ => 100000000) (by decide) rfl
    fun path numbers => readSection_sampleBlock rfl fun _ => rfl
  simp only [benchmarkMetrics, List.mem_cons, List.not_mem_nil, or_false] at hmetric
  -- for each metric the constant and the slope of its line
  rcases hmetric with rfl | rfl | rfl | rfl | rfl
  · refine ⟨0, 1, one_ne_zero, extractor_of_join hlatency.runs fun n b j => ?_⟩
    show median (.exact sqrt) [(j : ℚ)] = _
    rw [median_singleton, one_mul, zero_add]
  · refine ⟨0, 1, one_ne_zero, extractor_of_join htcp fun n b j => ?_⟩
    show Except.ok (1000000 * (j : ℚ) / 1000000) = _
    rw [mul_div_cancel_left₀ _ (by norm_num), one_mul, zero_add]
  · refine ⟨100, -1, by norm_num, extractor_of_join hudp fun n b j => ?_⟩
    show Except.ok ((100000000 : ℚ) / 1000000 * (1 - (j : ℚ) / 100)) = _
    apply congrArg Except.ok
    ring
  · refine ⟨0, 1, one_ne_zero, extractor_of_join hudp fun n b j => ?_⟩
    show Except.ok (j : ℚ) = _
    rw [one_mul, zero_add]
  · refine ⟨0, 1, one_ne_zero, extractor_of_join hudp fun n b j => ?_⟩
    show Except.ok (j : ℚ) = _
    rw [one_mul, zero_add]

theorem fst_campaignFiles (hlength : sizes.length = 6) :
    (campaignFiles sizes).map Prod.fst = campaignPaths := by
  have hfst : (campaignPaths.zip sizes.ranges).map Prod.fst = campaignPaths := by
    apply List.map_fst_zip
    rw [length_ranges, hlength]
    rfl
  rw [campaignFiles, List.map_map]
  exact hfst

/-- The texts of the documents are different, from their labels. -/
theorem pairwise_campaignDocuments (hlength : sizes.length = 6) :
    (campaignDocuments sizes).Pairwise fun first second => jsonChars first ≠ jsonChars second := by
  have hlabel : ∀ path ∈ campaignPaths, ∀ numbers,
      (jsonChars (sampleBlock path numbers))[29]? = path.toList[0]? := by
    intro path hpath numbers
    simp only [campaignPaths, List.mem_cons, List.not_mem_nil, or_false] at hpath
    rcases hpath with rfl | rfl | rfl | rfl | rfl | rfl <;> rfl
  have hlabels : (campaignDocuments sizes).map (fun document => (jsonChars document)[29]?)
      = campaignPaths.map fun path => path.toList[0]? := by
    rw [← fst_campaignFiles hlength, campaignDocuments, campaignFiles, List.map_map, List.map_map,
      List.map_map, List.map_map]
    refine List.map_congr_left fun file hfile => ?_
    exact hlabel file.1 (List.of_mem_zip hfile).1 file.2
  have hnodup : (campaignPaths.map fun path => path.toList[0]?).Nodup := by decide
  rw [← hlabels, List.nodup_iff_pairwise_ne, List.pairwise_map] at hnodup
  refine hnodup.imp fun {first second} hne hequal => ?_
  rw [hequal] at hne
  exact hne rfl

theorem holds_campaignFiles (hlength : sizes.length = 6) :
    List.Forall₂ (Holds (knowingAll sqrt (campaignDocuments sizes))
      (filesHolding (campaignFiles sizes))) campaignPaths (campaignDocuments sizes) := by
  have hfst := fst_campaignFiles hlength
  have hholds := holds_filesHolding sqrt (by rw [hfst]; decide) (pairwise_campaignDocuments hlength)
  rwa [hfst] at hholds

/-- **The files** are merged. -/
theorem exists_mergeBenchmarkBlocks (hlength : sizes.length = 6) (hpos : 0 < sizes.sum)
    (createdAt label : String) :
    ∃ first rest merged, campaignDocuments sizes = first :: rest ∧
      mergeDocuments (.exact sqrt) createdAt label campaignPaths first rest = .ok merged ∧
      mergeBenchmarkBlocks (knowingAll sqrt (campaignDocuments sizes))
        (filesHolding (campaignFiles sizes)) createdAt campaignPaths label = .ok merged := by
  have hholds := @holds_campaignFiles sqrt sizes hlength
  cases hdocuments : campaignDocuments sizes with
  | nil =>
    rw [hdocuments] at hholds
    cases hholds
  | cons first rest =>
    obtain ⟨merged, hmerged⟩ := @exists_mergeDocuments sqrt sizes hlength hpos createdAt label
      campaignPaths first rest hdocuments
    refine ⟨first, rest, merged, rfl, hmerged, ?_⟩
    rw [hdocuments] at hholds
    rw [mergeBenchmarkBlocks_of_holds createdAt label hholds]
    · exact hmerged
    · intro document hdocument
      obtain ⟨path, numbers, rfl⟩ := exists_of_mem_campaignDocuments hlength
        (hdocuments ▸ hdocument)
      exact ⟨_, rfl, rfl⟩

/-- **The rounds** of these files are blocks only when the blocks have the same length. -/
theorem equal_of_reportsRounds {metric : Metric ℚ}
    (hmetric : metric ∈ benchmarkMetrics (.exact sqrt)) {m : ℕ} (hm : 0 < m)
    (hlength : sizes.length = 6) (hpositive : ∀ size ∈ sizes, 0 < size) (hsum : sizes.sum = 6 * m)
    (createdAt label : String) :
    ∃ merged values, mergeBenchmarkBlocks (knowingAll sqrt (campaignDocuments sizes))
        (filesHolding (campaignFiles sizes)) createdAt campaignPaths label = .ok merged ∧
      metric.extractor merged = .ok values ∧
      (ReportsRounds (.exact sqrt) metric merged values → ∀ size ∈ sizes, size = m) := by
  obtain ⟨first, rest, merged, hdocuments, hmerge, hfiles⟩ :=
    @exists_mergeBenchmarkBlocks sqrt sizes hlength (by omega) createdAt label
  obtain ⟨a, b, hb, hvalues⟩ := extractor_campaignDocuments hlength hdocuments hmerge hmetric
  refine ⟨merged, _, hfiles, hvalues, fun hrounds => ?_⟩
  have hsizes := blockSizes_campaignDocuments hlength (section_mem hmetric)
  rw [hdocuments] at hsizes
  rw [reportsRounds_iff hmerge (section_mem hmetric) hvalues hm (by rw [hsizes]; exact hlength)
    (by rw [hsizes]; exact hsum), hsizes] at hrounds
  exact equal_of_partsAgree hb hm hlength hpositive hsum hrounds

/-- **The aggregates** of the final analysis are those of the blocks, for all files with six
blocks of these lengths, exactly when the lengths are the same. -/
theorem rounds_are_blocks_iff (sqrt : ℚ → ℚ) (metric : Metric ℚ)
    (hmetric : metric ∈ benchmarkMetrics (.exact sqrt)) (sizes : List ℕ)
    (hlength : sizes.length = 6) (hpositive : ∀ size ∈ sizes, 0 < size) (hdvd : 6 ∣ sizes.sum) :
    RoundsAreBlocks (.exact sqrt) metric sizes ↔ ∀ s ∈ sizes, ∀ t ∈ sizes, s = t := by
  constructor
  · intro hrounds
    obtain ⟨m, hsum⟩ := hdvd
    have hm : 0 < m := by
      obtain ⟨size, rest, rfl⟩ := List.exists_cons_of_length_eq_add_one hlength
      have hsize := hpositive size List.mem_cons_self
      rw [List.sum_cons] at hsum
      omega
    obtain ⟨merged, values, hmerge, hvalues, hequal⟩ :=
      equal_of_reportsRounds hmetric hm hlength hpositive hsum "" ""
    have hall := hequal (hrounds _ _ _ _ _ _ merged values rfl (holds_campaignFiles hlength)
      (blockSizes_campaignDocuments hlength (section_mem hmetric)) hmerge hvalues)
    intro s hs t ht
    rw [hall s hs, hall t ht]
  · exact roundsAreBlocks_of_equal hmetric hlength hpositive

/-- Blocks with two runs of TCP each. -/
theorem rounds_are_blocks_sample :
    RoundsAreBlocks (.exact id) ⟨"tcp_mbps", "tcp", megabits (.exact id)⟩ [2, 2, 2, 2, 2, 2] ↔
      ∀ s ∈ [2, 2, 2, 2, 2, 2], ∀ t ∈ [2, 2, 2, 2, 2, 2], s = t :=
  rounds_are_blocks_iff id _ (by simp [benchmarkMetrics]) _ rfl (by decide) (by decide)

/-- Five blocks with one run and one with seven. -/
theorem rounds_are_blocks_not :
    List.Forall₂ (Holds (knowingAll id (campaignDocuments [1, 1, 1, 1, 1, 7]))
      (filesHolding (campaignFiles [1, 1, 1, 1, 1, 7]))) campaignPaths
      (campaignDocuments [1, 1, 1, 1, 1, 7]) ∧
    blockSizes (campaignDocuments [1, 1, 1, 1, 1, 7]) "tcp" = [1, 1, 1, 1, 1, 7] ∧
    ∃ merged values,
      mergeBenchmarkBlocks (knowingAll id (campaignDocuments [1, 1, 1, 1, 1, 7]))
        (filesHolding (campaignFiles [1, 1, 1, 1, 1, 7])) "2026-01-02T00:00:00+00:00" campaignPaths
        "vpn" = .ok merged ∧
      Metric.extractor ⟨"tcp_mbps", "tcp", megabits (.exact id)⟩ merged = .ok values ∧
      ¬ ReportsRounds (.exact id) ⟨"tcp_mbps", "tcp", megabits (.exact id)⟩ merged values := by
  obtain ⟨merged, values, hmerge, hvalues, hequal⟩ :=
    @equal_of_reportsRounds id [1, 1, 1, 1, 1, 7] ⟨"tcp_mbps", "tcp", megabits (.exact id)⟩
      (by simp [benchmarkMetrics]) 2 (by decide) rfl (by decide) (by decide)
      "2026-01-02T00:00:00+00:00" "vpn"
  refine ⟨holds_campaignFiles rfl, blockSizes_campaignDocuments rfl (by decide), merged, values,
    hmerge, hvalues, fun hrounds => ?_⟩
  have hone := hequal hrounds 1 List.mem_cons_self
  cases hone

end MatfVpn
