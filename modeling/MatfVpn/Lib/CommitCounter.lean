/-
# Counters that move after the use succeeded

Several owners number what they do with a counter each.  A use takes the value of its
owner's counter, and moves the counter when it succeeds: the number of a use that failed is
taken again.  Numbers stay unique exactly when a failed use is repeated as it was.

* `Counts` : the numbers come from such counters;
* `Counts.append` : uses after others;
* `oncePerNumber_iff` : no number is used for two different contents exactly when every
  failed use is followed by one with the same content.
-/
import MatfVpn.Lib.History

namespace CommitCounter

open History

/-- One use of a counter. -/
structure Use (κ α : Type) where
  owner : κ
  number : ℕ
  content : α
  succeeded : Bool

variable {κ α : Type} [DecidableEq κ]

/-- The uses of an owner that moved its counter. -/
def moves (l : List (Use κ α)) (k : κ) : ℕ :=
  (l.filter fun u => u.owner = k ∧ u.succeeded).length

/-- The last use of an owner. -/
def last? (l : List (Use κ α)) (k : κ) : Option (Use κ α) :=
  (l.filter fun u => u.owner = k).getLast?

/-- The numbers come from counters with these first values. -/
def Counts (start : κ → ℕ) (l : List (Use κ α)) : Prop :=
  Each (fun before u => u.number = start u.owner + moves before u.owner) l

/-- No owner uses a number for two different contents. -/
def OncePerNumber (l : List (Use κ α)) : Prop :=
  ∀ u ∈ l, ∀ v ∈ l, u.owner = v.owner → u.number = v.number → u.content = v.content

/-- After a use that failed, its owner repeats it. -/
def RepeatsFailed (l : List (Use κ α)) : Prop :=
  Each (fun before v => ∀ u, last? before v.owner = some u → u.succeeded = false →
    u.content = v.content) l

/-! ## One more use -/

@[simp] theorem moves_nil (k : κ) : moves ([] : List (Use κ α)) k = 0 := rfl

@[simp] theorem moves_append (l l' : List (Use κ α)) (k : κ) :
    moves (l ++ l') k = moves l k + moves l' k := by
  rw [moves, List.filter_append, List.length_append]
  rfl

@[simp] theorem moves_singleton (v : Use κ α) (k : κ) :
    moves [v] k = if v.owner = k ∧ v.succeeded then 1 else 0 := by
  rw [moves]
  by_cases h : v.owner = k ∧ v.succeeded
  · rw [if_pos h, List.filter_cons_of_pos (by simpa using h)]
    rfl
  · rw [if_neg h, List.filter_cons_of_neg (by simpa using h)]
    rfl

theorem last?_concat_self (l : List (Use κ α)) (v : Use κ α) :
    last? (l ++ [v]) v.owner = some v := by
  simp [last?]

theorem last?_concat_of_ne (l : List (Use κ α)) {v : Use κ α} {k : κ} (h : v.owner ≠ k) :
    last? (l ++ [v]) k = last? l k := by
  simp [last?, h]

/-- The last use of an owner is one of its uses. -/
theorem owner_of_last? {l : List (Use κ α)} {k : κ} {u : Use κ α} (h : last? l k = some u) :
    u ∈ l ∧ u.owner = k := by
  have hmem := List.mem_of_getLast? h
  rw [List.mem_filter] at hmem
  exact ⟨hmem.1, by simpa using hmem.2⟩

/-- The first uses count. -/
theorem counts_nil (start : κ → ℕ) : Counts start ([] : List (Use κ α)) := Each.nil

/-- One use counts when it takes the counter of its owner. -/
theorem counts_singleton {start : κ → ℕ} {u : Use κ α} (h : u.number = start u.owner) :
    Counts start [u] := by
  rw [Counts, ← List.nil_append [u], each_concat_iff]
  exact ⟨Each.nil, h⟩

/-- **More uses.** They count from the counters that the first ones leave. -/
theorem Counts.append {start start' : κ → ℕ} {l l' : List (Use κ α)} (h : Counts start l)
    (h' : Counts start' l') (hstart : ∀ k, start' k = start k + moves l k) :
    Counts start (l ++ l') := by
  rw [Counts, each_append_iff]
  refine ⟨h, h'.mono fun before u hu => ?_⟩
  rw [hu, hstart, moves_append, Nat.add_assoc]

/-! ## When numbers are unique -/

section unique

variable {start : κ → ℕ}

/-- The number of a use is at most the counter, and one that has it was failed and is like the
last use of its owner. -/
theorem number_le (l : List (Use κ α)) (h : Counts start l) (hrepeats : RepeatsFailed l)
    {u : Use κ α} (hu : u ∈ l) :
    u.number ≤ start u.owner + moves l u.owner ∧
      (u.number = start u.owner + moves l u.owner →
        ∃ w, last? l u.owner = some w ∧ w.succeeded = false ∧ w.content = u.content) := by
  induction l using List.reverseRecOn with
  | nil => cases hu
  | append_singleton l v ih =>
      obtain ⟨hl, hv⟩ := each_concat_iff.1 h
      obtain ⟨hrl, hrv⟩ := each_concat_iff.1 hrepeats
      rw [moves_append, moves_singleton]
      rcases List.mem_append.1 hu with hu | hu
      · obtain ⟨hle, hlast⟩ := ih hl hrl hu
        by_cases howner : v.owner = u.owner
        · cases hsucceeded : v.succeeded with
          | true =>
              rw [if_pos ⟨howner, rfl⟩]
              exact ⟨by omega, fun heq => absurd heq (by omega)⟩
          | false =>
              rw [if_neg (by simp), Nat.add_zero]
              refine ⟨hle, fun heq => ?_⟩
              obtain ⟨w, hw, hfailed, hcontent⟩ := hlast heq
              refine ⟨v, by rw [← howner]; exact last?_concat_self l v, hsucceeded, ?_⟩
              rw [← hcontent]
              exact (hrv w (by rw [howner]; exact hw) hfailed).symm
        · rw [if_neg fun h => howner h.1, Nat.add_zero, last?_concat_of_ne l howner]
          exact ⟨hle, hlast⟩
      · rw [List.mem_singleton.1 hu]
        cases hsucceeded : v.succeeded with
        | true =>
            rw [if_pos ⟨rfl, rfl⟩]
            exact ⟨by omega, fun heq => absurd heq (by omega)⟩
        | false =>
            rw [if_neg (by simp), Nat.add_zero]
            exact ⟨by omega, fun _ => ⟨v, last?_concat_self l v, hsucceeded, rfl⟩⟩

/-- Uses of one number have one content when failed uses are repeated. -/
theorem oncePerNumber_of_repeatsFailed (l : List (Use κ α)) (h : Counts start l)
    (hrepeats : RepeatsFailed l) : OncePerNumber l := by
  induction l using List.reverseRecOn with
  | nil => intro u hu; cases hu
  | append_singleton l v ih =>
      obtain ⟨hl, hv⟩ := each_concat_iff.1 h
      obtain ⟨hrl, hrv⟩ := each_concat_iff.1 hrepeats
      -- an earlier use of the last number is like the failed use before it
      have hold : ∀ u ∈ l, u.owner = v.owner → u.number = v.number → u.content = v.content := by
        intro u hu howner hnumber
        obtain ⟨-, hlast⟩ := number_le l hl hrl hu
        obtain ⟨w, hw, hfailed, hcontent⟩ := hlast (by rw [hnumber, hv, howner])
        rw [← hcontent]
        exact hrv w (by rw [← howner]; exact hw) hfailed
      intro u hu u' hu' howner hnumber
      rcases List.mem_append.1 hu with hmem | hlast
      · rcases List.mem_append.1 hu' with hmem' | hlast'
        · exact ih hl hrl u hmem u' hmem' howner hnumber
        · obtain rfl := List.mem_singleton.1 hlast'
          exact hold u hmem howner hnumber
      · obtain rfl := List.mem_singleton.1 hlast
        rcases List.mem_append.1 hu' with hmem' | hlast'
        · exact (hold u' hmem' howner.symm hnumber.symm).symm
        · rw [List.mem_singleton.1 hlast']

/-- No counter moves without a success. -/
theorem moves_of_last? {before : List (Use κ α)} {k : κ} {u : Use κ α}
    (hlast : last? before k = some u) (hfailed : u.succeeded = false) :
    ∃ earlier later, before = earlier ++ u :: later ∧ moves before k = moves earlier k := by
  induction before using List.reverseRecOn with
  | nil => cases hlast
  | append_singleton before v ih =>
      by_cases howner : v.owner = k
      · subst howner
        rw [last?_concat_self] at hlast
        obtain rfl := Option.some.inj hlast
        refine ⟨before, [], rfl, ?_⟩
        rw [moves_append, moves_singleton, if_neg (by simp [hfailed]), Nat.add_zero]
      · rw [last?_concat_of_ne before howner] at hlast
        obtain ⟨earlier, later, rfl, hmoves⟩ := ih hlast
        refine ⟨earlier, later ++ [v], by simp, ?_⟩
        rw [moves_append, moves_singleton, if_neg fun h => howner h.1, Nat.add_zero, hmoves]

/-- **When numbers are unique.** No number is used for two different contents exactly when
every use that failed is repeated by the next use of its owner. -/
theorem oncePerNumber_iff (l : List (Use κ α)) (h : Counts start l) :
    OncePerNumber l ↔ RepeatsFailed l := by
  constructor
  · intro honce before v after hl u hlast hfailed
    obtain ⟨hu, howner⟩ := owner_of_last? hlast
    obtain ⟨earlier, later, hbefore, hmoves⟩ := moves_of_last? hlast hfailed
    have hv := h before v after hl
    have hun := h earlier u (later ++ v :: after) (by rw [hl, hbefore]; simp)
    refine honce u (by rw [hl]; exact List.mem_append_left _ hu) v (by rw [hl]; simp) howner ?_
    rw [hv, hun, howner, hmoves]
  · exact oncePerNumber_of_repeatsFailed l h

end unique

end CommitCounter
