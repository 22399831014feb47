/-
# The order of the benchmark blocks (`create_balanced_schedule` of `experiment.py`)

Every round runs all modes in an order of its own, which a shuffle chooses.  A round whose first
mode is the last one of the round before gets its first mode swapped with a later one.  What the
shuffle of a round leaves is an argument of the model.

* `balanceRound_spec` : one round;
* `schedule_balanced` : no mode comes twice in a row.
-/
import MatfVpn.PythonValue
import Mathlib.Data.List.Chain
import Mathlib.Data.List.Perm.Basic

namespace MatfVpn

/-! ## The planner -/

/-- `ScheduledBlock`. -/
structure ScheduledBlock where
  sequence : ℕ
  roundNumber : ℕ
  mode : String
  repetitions : ℤ
  deriving DecidableEq

/-- The swap of the first mode of a round with the first later one that differs from the last
mode of the round before. -/
def balanceRound (previousLast : Option String) (order : List String) :
    Except ToolError (List String) :=
  match previousLast, order with
  | none, order => .ok order
  | some _, [] => .error .indexError
  | some last, first :: rest =>
      if first = last then
        match rest.findIdx? fun mode => mode ≠ last with
        | some index => .ok (rest.getD index first :: rest.set index first)
        | none => .error .stopIteration
      else .ok (first :: rest)

/-- The blocks of a round. -/
def roundBlocks (roundNumber : ℕ) (repetitions : ℤ) : (sequence : ℕ) → (order : List String) →
    List ScheduledBlock
  | _, [] => []
  | sequence, mode :: order =>
      ⟨sequence, roundNumber, mode, repetitions⟩ ::
        roundBlocks roundNumber repetitions (sequence + 1) order

/-- The loop over the rounds from `roundNumber` on; `shuffle` is what the generator does in each
round. -/
def scheduleRounds (shuffle : ℕ → List String → List String) (modes : List String)
    (repetitions : ℤ) : (remaining roundNumber sequence : ℕ) → (previousLast : Option String) →
    Except ToolError (List ScheduledBlock)
  | 0, _, _, _ => .ok []
  | remaining + 1, roundNumber, sequence, previousLast => do
      let order ← balanceRound previousLast (shuffle roundNumber modes)
      let schedule ← scheduleRounds shuffle modes repetitions remaining (roundNumber + 1)
        (sequence + order.length) order.getLast?
      return roundBlocks roundNumber repetitions sequence order ++ schedule

/-- `create_balanced_schedule`. -/
def createBalancedSchedule (shuffle : ℕ → List String → List String) (modes : List String)
    (rounds repetitionsPerBlock : ℤ) : Except ToolError (List ScheduledBlock) :=
  if modes.length < 2 then .error (.valueError "at least two benchmark modes are required")
  else if ¬ modes.Nodup then .error (.valueError "benchmark mode names must be unique")
  else if ∃ mode ∈ modes, pyStrip mode.toList = [] then
    .error (.valueError "benchmark mode names must not be empty")
  else if rounds ≤ 0 ∨ repetitionsPerBlock ≤ 0 then
    .error (.valueError "rounds and repetitions per block must be positive")
  else scheduleRounds shuffle modes repetitionsPerBlock rounds.toNat 1 1 none

/-! ## One round -/

/-- The round starts with another mode than the last one did. -/
def StartsAfter (previousLast : Option String) (order : List String) : Prop :=
  ∀ last ∈ previousLast, ∀ first ∈ order.head?, first ≠ last

/-- **One round**: the search finds a mode, and the round has all modes and starts with another
one than the last. -/
theorem balanceRound_spec {order modes : List String} (previousLast : Option String)
    (hperm : order.Perm modes) (hnodup : modes.Nodup) (hlength : 2 ≤ modes.length) :
    ∃ balanced, balanceRound previousLast order = .ok balanced ∧ balanced.Perm modes ∧
      StartsAfter previousLast balanced := by
  cases previousLast with
  | none => exact ⟨order, rfl, hperm, fun last hlast => by cases hlast⟩
  | some last =>
    rcases order with _ | ⟨first, _ | ⟨second, rest⟩⟩
    · rw [← hperm.length_eq, List.length_nil] at hlength
      omega
    · rw [← hperm.length_eq, List.length_singleton] at hlength
      omega
    by_cases hfirst : first = last
    · have hsecond : second ≠ last := by
        rintro rfl
        have hpair := (hperm.nodup_iff.2 hnodup)
        rw [hfirst] at hpair
        exact (List.nodup_cons.1 hpair).1 List.mem_cons_self
      -- the very next mode differs
      refine ⟨second :: first :: rest, ?_, (List.Perm.swap first second rest).trans hperm, ?_⟩
      · rw [balanceRound, if_pos hfirst, List.findIdx?_cons, if_pos (decide_eq_true hsecond)]
        rfl
      · rintro last' hlast' first' hfirst'
        rw [← Option.some.inj hlast', ← Option.some.inj hfirst']
        exact hsecond
    · refine ⟨first :: second :: rest, if_neg hfirst, hperm, ?_⟩
      rintro last' hlast' first' hfirst'
      rw [← Option.some.inj hlast', ← Option.some.inj hfirst']
      exact hfirst

/-! ## The blocks of a round -/

section blocks

variable (roundNumber : ℕ) (repetitions : ℤ) (sequence : ℕ) (order : List String)

theorem map_mode_roundBlocks :
    (roundBlocks roundNumber repetitions sequence order).map ScheduledBlock.mode = order := by
  induction order generalizing sequence with
  | nil => rfl
  | cons mode order ih => rw [roundBlocks, List.map_cons, ih]

theorem map_sequence_roundBlocks :
    (roundBlocks roundNumber repetitions sequence order).map ScheduledBlock.sequence
      = List.range' sequence order.length := by
  induction order generalizing sequence with
  | nil => rfl
  | cons mode order ih =>
    rw [roundBlocks, List.map_cons, ih, List.length_cons, List.range'_succ]

theorem roundNumber_of_mem_roundBlocks {block : ScheduledBlock}
    (h : block ∈ roundBlocks roundNumber repetitions sequence order) :
    block.roundNumber = roundNumber ∧ block.repetitions = repetitions := by
  induction order generalizing sequence with
  | nil => cases h
  | cons mode order ih =>
    rcases List.mem_cons.1 h with rfl | h
    · exact ⟨rfl, rfl⟩
    · exact ih _ h

end blocks

/-! ## The rounds -/

/-- The schedule of the rounds from `first` on, after a block of the mode `previousLast`. -/
structure IsBalanced (modes : List String) (repetitions : ℤ) (count first sequence : ℕ)
    (previousLast : Option String) (schedule : List ScheduledBlock) : Prop where
  sequences : schedule.map ScheduledBlock.sequence = List.range' sequence (count * modes.length)
  rounds : ∀ r, first ≤ r → r < first + count →
    ((schedule.filter fun block => block.roundNumber = r).map ScheduledBlock.mode).Perm modes
  roundNumbers : ∀ block ∈ schedule, first ≤ block.roundNumber ∧
    block.roundNumber < first + count ∧ block.repetitions = repetitions
  ordered : (schedule.map ScheduledBlock.roundNumber).Pairwise (· ≤ ·)
  alternates : (previousLast.toList ++ schedule.map ScheduledBlock.mode).IsChain (· ≠ ·)

section rounds

variable {modes order : List String} {repetitions : ℤ} {count first sequence : ℕ}
  {previousLast : Option String} {schedule : List ScheduledBlock}

/-- A round in front of a schedule leaves its own blocks for its number. -/
theorem filter_roundBlocks_append (hrounds : ∀ block ∈ schedule, first + 1 ≤ block.roundNumber)
    (r : ℕ) :
    ((roundBlocks first repetitions sequence order ++ schedule).filter
      fun block => block.roundNumber = r)
      = if r = first then roundBlocks first repetitions sequence order
        else schedule.filter fun block => block.roundNumber = r := by
  rw [List.filter_append]
  by_cases hr : r = first
  · have hown : ∀ block ∈ roundBlocks first repetitions sequence order,
        decide (block.roundNumber = r) = true := by
      intro block hblock
      rw [decide_eq_true_eq, hr]
      exact (roundNumber_of_mem_roundBlocks _ _ _ _ hblock).1
    have hothers : ∀ block ∈ schedule, ¬ decide (block.roundNumber = r) = true := by
      intro block hblock
      rw [decide_eq_true_eq]
      have hlater := hrounds block hblock
      omega
    rw [if_pos hr, List.filter_eq_self.2 hown, List.filter_eq_nil_iff.2 hothers, List.append_nil]
  · have hown : ∀ block ∈ roundBlocks first repetitions sequence order,
        ¬ decide (block.roundNumber = r) = true := by
      intro block hblock
      rw [decide_eq_true_eq, (roundNumber_of_mem_roundBlocks _ _ _ _ hblock).1]
      exact Ne.symm hr
    rw [if_neg hr, List.filter_eq_nil_iff.2 hown, List.nil_append]

/-- **A balanced round** in front of a balanced schedule. -/
theorem IsBalanced.cons (hperm : order.Perm modes) (hnodup : modes.Nodup) (hne : order ≠ [])
    (hstart : StartsAfter previousLast order)
    (h : IsBalanced modes repetitions count (first + 1) (sequence + order.length) order.getLast?
      schedule) :
    IsBalanced modes repetitions (count + 1) first sequence previousLast
      (roundBlocks first repetitions sequence order ++ schedule) := by
  have hlater : ∀ block ∈ schedule, first + 1 ≤ block.roundNumber := fun block hblock =>
    (h.roundNumbers block hblock).1
  constructor
  · rw [List.map_append, map_sequence_roundBlocks, h.sequences, hperm.length_eq,
      List.range'_append_1, Nat.succ_mul, Nat.add_comm]
  · intro r hr hr'
    rw [filter_roundBlocks_append hlater]
    by_cases hfirst : r = first
    · rw [if_pos hfirst, map_mode_roundBlocks]
      exact hperm
    · rw [if_neg hfirst]
      exact h.rounds r (by omega) (by omega)
  · intro block hblock
    rcases List.mem_append.1 hblock with hown | hother
    · obtain ⟨hround, hrepetitions⟩ := roundNumber_of_mem_roundBlocks _ _ _ _ hown
      exact ⟨hround.ge, by omega, hrepetitions⟩
    · obtain ⟨hge, hlt, hrepetitions⟩ := h.roundNumbers block hother
      exact ⟨by omega, by omega, hrepetitions⟩
  · rw [List.map_append, List.pairwise_append]
    refine ⟨?_, h.ordered, ?_⟩
    · refine List.pairwise_map.2 (List.pairwise_of_forall_mem_list ?_)
      intro block hblock block' hblock'
      rw [(roundNumber_of_mem_roundBlocks _ _ _ _ hblock).1,
        (roundNumber_of_mem_roundBlocks _ _ _ _ hblock').1]
    · intro r hr r' hr'
      obtain ⟨block, hblock, rfl⟩ := List.mem_map.1 hr
      obtain ⟨block', hblock', rfl⟩ := List.mem_map.1 hr'
      rw [(roundNumber_of_mem_roundBlocks _ _ _ _ hblock).1]
      exact (Nat.le_succ first).trans (hlater block' hblock')
  -- inside a round the modes differ; between two rounds the first one is not the last one
  · obtain ⟨-, hrest, hlink⟩ := List.isChain_append.1 h.alternates
    have horder : order.IsChain (· ≠ ·) := (hperm.nodup_iff.2 hnodup).isChain
    rw [List.map_append, map_mode_roundBlocks, List.isChain_append, List.isChain_append]
    refine ⟨?_, ⟨horder, hrest, ?_⟩, ?_⟩
    · cases previousLast with
      | none => exact List.isChain_nil
      | some last => exact List.isChain_singleton last
    · intro last hlast
      refine hlink last ?_
      rw [Option.mem_def.1 hlast]
      rfl
    · intro last hlast mode hmode
      obtain ⟨mode', order', rfl⟩ := List.exists_cons_of_ne_nil hne
      refine Ne.symm (hstart last ?_ mode ?_)
      · cases previousLast with
        | none => cases hlast
        | some last' => exact hlast
      · exact hmode

end rounds

/-- **All rounds.** -/
theorem scheduleRounds_spec {shuffle : ℕ → List String → List String}
    (hshuffle : ∀ r order, (shuffle r order).Perm order) {modes : List String}
    (hnodup : modes.Nodup) (hlength : 2 ≤ modes.length) (repetitions : ℤ)
    (remaining first sequence : ℕ) (previousLast : Option String) :
    ∃ schedule, scheduleRounds shuffle modes repetitions remaining first sequence previousLast
        = .ok schedule ∧
      IsBalanced modes repetitions remaining first sequence previousLast schedule := by
  induction remaining generalizing first sequence previousLast with
  | zero =>
    refine ⟨[], rfl, ⟨?_, ?_, List.forall_mem_nil _, List.Pairwise.nil, ?_⟩⟩
    · rw [Nat.zero_mul]
      rfl
    · intro r hr hr'
      omega
    · cases previousLast with
      | none => exact List.isChain_nil
      | some last => exact List.isChain_singleton last
  | succ remaining ih =>
    obtain ⟨order, horder, hperm, hstart⟩ :=
      balanceRound_spec previousLast (hshuffle first modes) hnodup hlength
    obtain ⟨schedule, hschedule, hbalanced⟩ :=
      ih (first + 1) (sequence + order.length) order.getLast?
    have hne : order ≠ [] := by
      rintro rfl
      rw [← hperm.length_eq, List.length_nil] at hlength
      omega
    refine ⟨_, ?_, hbalanced.cons hperm hnodup hne hstart⟩
    rw [scheduleRounds, horder]
    show (scheduleRounds shuffle modes repetitions remaining (first + 1)
      (sequence + order.length) order.getLast? >>= fun schedule => _) = _
    rw [hschedule]
    rfl

/-- **The schedule is balanced** whenever the arguments are accepted, whatever the shuffles do:
no search fails, the blocks are numbered, every round has all modes and no mode comes twice in a
row. -/
theorem schedule_balanced (shuffle : ℕ → List String → List String)
    (hshuffle : ∀ r order, (shuffle r order).Perm order) (modes : List String)
    (rounds repetitions : ℤ)
    (haccepted : ∀ message,
      createBalancedSchedule shuffle modes rounds repetitions ≠ .error (.valueError message)) :
    ∃ schedule, createBalancedSchedule shuffle modes rounds repetitions = .ok schedule ∧
      (schedule.length : ℤ) = rounds * modes.length ∧
      IsBalanced modes repetitions rounds.toNat 1 1 none schedule := by
  unfold createBalancedSchedule at haccepted ⊢
  by_cases hlength : modes.length < 2
  · rw [if_pos hlength] at haccepted
    exact absurd rfl (haccepted _)
  rw [if_neg hlength] at haccepted ⊢
  by_cases hnodup : ¬ modes.Nodup
  · rw [if_pos hnodup] at haccepted
    exact absurd rfl (haccepted _)
  rw [if_neg hnodup] at haccepted ⊢
  by_cases hempty : ∃ mode ∈ modes, pyStrip mode.toList = []
  · rw [if_pos hempty] at haccepted
    exact absurd rfl (haccepted _)
  rw [if_neg hempty] at haccepted ⊢
  by_cases hpositive : rounds ≤ 0 ∨ repetitions ≤ 0
  · rw [if_pos hpositive] at haccepted
    exact absurd rfl (haccepted _)
  rw [if_neg hpositive]
  rw [not_or, not_le, not_le] at hpositive
  obtain ⟨schedule, hschedule, hbalanced⟩ := scheduleRounds_spec hshuffle (not_not.1 hnodup)
    (not_lt.1 hlength) repetitions rounds.toNat 1 1 none
  refine ⟨schedule, hschedule, ?_, hbalanced⟩
  have hcount := congrArg List.length hbalanced.sequences
  rw [List.length_map, List.length_range'] at hcount
  rw [hcount, Nat.cast_mul, Int.toNat_of_nonneg hpositive.1.le]

/-- Turns every second round round. -/
def alternateShuffle (r : ℕ) (order : List String) : List String :=
  if r % 2 = 0 then order.reverse else order

/-- Two modes, where every second round needs its swap. -/
theorem schedule_balanced_sample :
    ∃ schedule, createBalancedSchedule alternateShuffle ["direct", "python"] 3 5 = .ok schedule ∧
      (schedule.length : ℤ) = 3 * (["direct", "python"].length : ℤ) ∧
      IsBalanced ["direct", "python"] 5 (3 : ℤ).toNat 1 1 none schedule := by
  refine schedule_balanced alternateShuffle (fun r order => ?_) _ 3 5 fun message h => ?_
  · unfold alternateShuffle
    split
    · exact order.reverse_perm
    · exact List.Perm.refl order
  · have hok : (createBalancedSchedule alternateShuffle ["direct", "python"] 3 5).toOption.isSome
        = true := by
      decide +kernel
    rw [h] at hok
    cases hok

end MatfVpn
