/-
# Replay window (`crypto.ReplayWindow`)

The sliding bitmap that remembers which of the last `size` sequence numbers were
authenticated.  `Represents w S` says that the window `w` stands for the set `S` of
all numbers authenticated so far: bit `i` of the bitmap is set exactly when
`highest - i` is in `S`.

* `isReplay_iff` : what the window rejects, in terms of `S`;
* `markAuthenticated_of_fresh` : a fresh number is added to `S`;
* `markAuthenticated_of_replay` : any other number raises and changes nothing;
* `markStatements_run` : the statements of `mark_authenticated` have no other outcome;
* `replayWindow_refines_set` : the window over any sequence of calls.
-/
import MatfVpn.Lib.Program
import MatfVpn.Python
import Mathlib.Data.Finset.Max
import Mathlib.Data.Set.Insert
import Mathlib.Data.Int.Notation
import Mathlib.Data.Nat.Bitwise

namespace MatfVpn

open Program

def defaultReplayWindowSize : ℕ := 64

/-- `ReplayWindow`, with the check of its constructor as a field. -/
structure ReplayWindow where
  size : ℕ
  size_pos : 0 < size
  highestSequence : ℤ
  bitmap : ℕ
  deriving DecidableEq, Repr

namespace ReplayWindow

/-- A new window of the given positive size. -/
def new (size : ℕ) (h : 0 < size) : ReplayWindow := ⟨size, h, -1, 0⟩

/-- `ReplayWindow()`. -/
def default : ReplayWindow := new defaultReplayWindowSize (by decide)

/-- `is_replay`. -/
def isReplay (w : ReplayWindow) (sequenceNumber : ℤ) : Bool :=
  if sequenceNumber < 0 then true
  else if sequenceNumber > w.highestSequence then false
  else
    let distance := w.highestSequence - sequenceNumber
    if distance ≥ w.size then true
    else w.bitmap &&& (1 <<< distance.toNat) != 0

/-- `mark_authenticated`: the window afterwards, or the exception that leaves it alone. -/
def markAuthenticated (w : ReplayWindow) (sequenceNumber : ℤ) : Except PyError ReplayWindow :=
  if w.isReplay sequenceNumber then
    .error (.valueError "sequence number is duplicated or outside the replay window")
  else if sequenceNumber > w.highestSequence then
    let shift := sequenceNumber - w.highestSequence
    let bitmap :=
      if shift ≥ w.size then 0
      else (w.bitmap <<< shift.toNat) &&& ((1 <<< w.size) - 1)
    .ok { w with highestSequence := sequenceNumber, bitmap := bitmap ||| 1 }
  else
    let distance := w.highestSequence - sequenceNumber
    .ok { w with bitmap := w.bitmap ||| (1 <<< distance.toNat) }

/-! ## The set a window stands for -/

/-- The numbers rejected after `S` was authenticated: negative ones, those in `S`, and
those at least `size` below a number of `S`. -/
def Rejected (size : ℕ) (S : Set ℤ) (n : ℤ) : Prop :=
  n < 0 ∨ n ∈ S ∨ ∃ m ∈ S, n ≤ m - size

/-- The window `w` stands for the set `S` of authenticated numbers. -/
structure Represents (w : ReplayWindow) (S : Set ℤ) : Prop where
  nonneg : ∀ n ∈ S, 0 ≤ n
  le_highest : ∀ n ∈ S, n ≤ w.highestSequence
  highest_mem : w.highestSequence = -1 ∨ w.highestSequence ∈ S
  bit_iff : ∀ i < w.size, w.bitmap.testBit i = true ↔ w.highestSequence - i ∈ S

/-- Testing one bit with a mask. -/
theorem and_shiftLeft_bne_zero (b i : ℕ) : (b &&& (1 <<< i) != 0) = b.testBit i := by
  rw [Nat.one_shiftLeft, Nat.and_two_pow]
  cases b.testBit i <;> simp

theorem testBit_lowMask (i size : ℕ) : ((1 <<< size) - 1).testBit i = decide (i < size) := by
  rw [Nat.one_shiftLeft, Nat.testBit_two_pow_sub_one]

/-- A new window stands for the empty set. -/
theorem represents_new (size : ℕ) (h : 0 < size) : (new size h).Represents ∅ where
  nonneg := by simp
  le_highest := by simp
  highest_mem := Or.inl rfl
  bit_iff := by simp [new]

/-- **What the window rejects.** -/
theorem isReplay_iff {w : ReplayWindow} {S : Set ℤ} (h : w.Represents S) (n : ℤ) :
    w.isReplay n = true ↔ Rejected w.size S n := by
  unfold isReplay Rejected
  split
  · rename_i hneg
    simp [hneg]
  rename_i hnonneg
  split
  · -- above every authenticated number
    rename_i hgt
    have hnot : n ∉ S := fun hmem => by
      have := h.le_highest n hmem
      omega
    have hfar : ¬ ∃ m ∈ S, n ≤ m - w.size := by
      rintro ⟨m, hm, hle⟩
      have := h.le_highest m hm
      omega
    simp [hnonneg, hnot, hfar]
  · rename_i hle
    have hmem : w.highestSequence ∈ S := by
      rcases h.highest_mem with h1 | h1
      · omega
      · exact h1
    simp only
    split
    · rename_i hfar
      simp only [true_iff]
      exact Or.inr (Or.inr ⟨w.highestSequence, hmem, by omega⟩)
    · -- inside the window the bit decides
      rename_i hnear
      have hdist : (w.highestSequence - n).toNat < w.size := by omega
      rw [and_shiftLeft_bne_zero, h.bit_iff _ hdist,
        show w.highestSequence - ((w.highestSequence - n).toNat : ℤ) = n by omega]
      constructor
      · exact fun hn => Or.inr (Or.inl hn)
      · rintro (hn | hn | ⟨m, hm, hmn⟩)
        · omega
        · exact hn
        · have := h.le_highest m hm
          omega

/-- A rejected number raises. -/
theorem markAuthenticated_of_replay {w : ReplayWindow} {n : ℤ} (h : w.isReplay n = true) :
    w.markAuthenticated n =
      .error (.valueError "sequence number is duplicated or outside the replay window") := by
  rw [markAuthenticated, if_pos h]

/-- A number above the highest one moves the window: the bits shift up. -/
theorem represents_advance {w : ReplayWindow} {S : Set ℤ} (h : w.Represents S) {n : ℤ}
    (hn : 0 ≤ n) (hgt : w.highestSequence < n) :
    Represents { w with
      highestSequence := n
      bitmap := (if n - w.highestSequence ≥ w.size then 0
        else (w.bitmap <<< (n - w.highestSequence).toNat) &&& ((1 <<< w.size) - 1)) ||| 1 }
      (insert n S) where
  nonneg := by
    rintro m (rfl | hm)
    · exact hn
    · exact h.nonneg m hm
  le_highest := by
    rintro m (rfl | hm)
    · exact le_refl m
    · exact (h.le_highest m hm).trans hgt.le
  highest_mem := Or.inr (Set.mem_insert n S)
  bit_iff := by
    intro i hi
    simp only at hi ⊢
    rw [Nat.testBit_or, Set.mem_insert_iff]
    rcases Nat.eq_zero_or_pos i with rfl | hpos
    · simp
    have hone : Nat.testBit 1 i = false := by
      rw [Nat.testBit_one_eq_true_iff_self_eq_zero.not.2 (by omega) |> Bool.eq_false_iff.2]
    have hne : n - (i : ℤ) ≠ n := by omega
    rw [hone, Bool.or_false]
    simp only [hne, false_or]
    -- a jump past the window forgets every bit; a smaller one moves those that stay
    split
    · rename_i hbig
      have hnot : n - (i : ℤ) ∉ S := fun hm => by
        have := h.le_highest _ hm
        omega
      simp [hnot]
    · rename_i hsmall
      rw [Nat.testBit_and, testBit_lowMask, Nat.testBit_shiftLeft]
      by_cases hshift : (n - w.highestSequence).toNat ≤ i
      · have hlt : i - (n - w.highestSequence).toNat < w.size := by omega
        have hpos' : w.highestSequence - ((i - (n - w.highestSequence).toNat : ℕ) : ℤ)
            = n - i := by omega
        rw [← hpos', ← h.bit_iff _ hlt]
        simp [hshift, hi]
      · have hnot : n - (i : ℤ) ∉ S := fun hm => by
          have := h.le_highest _ hm
          omega
        simp [hshift, hnot]

/-- A fresh number inside the window sets its bit. -/
theorem represents_setBit {w : ReplayWindow} {S : Set ℤ} (h : w.Represents S) {n : ℤ}
    (hn : 0 ≤ n) (hle : n ≤ w.highestSequence) :
    Represents { w with bitmap := w.bitmap ||| (1 <<< (w.highestSequence - n).toNat) }
      (insert n S) where
  nonneg := by
    rintro m (rfl | hm)
    · exact hn
    · exact h.nonneg m hm
  le_highest := by
    rintro m (rfl | hm)
    · exact hle
    · exact h.le_highest m hm
  highest_mem := by
    rcases h.highest_mem with h1 | h1
    · omega
    · exact Or.inr (Set.mem_insert_of_mem n h1)
  bit_iff := by
    intro i hi
    simp only at hi ⊢
    rw [Nat.testBit_or, Set.mem_insert_iff, Bool.or_eq_true, h.bit_iff i hi,
      Nat.one_shiftLeft, Nat.testBit_two_pow, decide_eq_true_iff]
    constructor
    · rintro (hm | hd)
      · exact Or.inr hm
      · exact Or.inl (by omega)
    · rintro (hd | hm)
      · exact Or.inr (by omega)
      · exact Or.inl hm

/-- **A fresh number is added to the set.** -/
theorem markAuthenticated_of_fresh {w : ReplayWindow} {S : Set ℤ} (h : w.Represents S)
    {n : ℤ} (hn : w.isReplay n = false) :
    ∃ w', w.markAuthenticated n = .ok w' ∧ w'.size = w.size ∧ w'.Represents (insert n S) := by
  have hnonneg : 0 ≤ n := by
    by_contra hneg
    have := (isReplay_iff h n).2 (Or.inl (by omega))
    rw [hn] at this
    cases this
  unfold markAuthenticated
  rw [hn, if_neg (by simp)]
  split
  · rename_i hgt
    exact ⟨_, rfl, rfl, represents_advance h hnonneg hgt⟩
  · rename_i hle
    exact ⟨_, rfl, rfl, represents_setBit h hnonneg (by omega)⟩

/-- A number above the highest one is no replay, and becomes the highest. -/
theorem markAuthenticated_of_gt {w : ReplayWindow} {n : ℕ} (h : w.highestSequence < n) :
    w.isReplay n = false ∧ ∃ w', w.markAuthenticated n = .ok w' ∧ w'.highestSequence = n := by
  have hfresh : w.isReplay n = false := by
    rw [isReplay, if_neg (by omega), if_pos h]
  refine ⟨hfresh, ?_⟩
  unfold markAuthenticated
  rw [hfresh, if_neg Bool.false_ne_true, if_pos h]
  exact ⟨_, rfl, rfl⟩

/-- What is rejected after a number was marked was rejected before, or is not above it. -/
theorem isReplay_of_markAuthenticated {w w' : ReplayWindow} {m n : ℤ}
    (h : w.markAuthenticated m = .ok w') (hn : w'.isReplay n = true) :
    w.isReplay n = true ∨ n ≤ m := by
  by_cases hle : n ≤ m
  · exact Or.inr hle
  apply Or.inl
  unfold markAuthenticated at h
  split at h
  · cases h
  split at h
  · -- the window ends at the number, below `n`
    rename_i hgt
    obtain rfl := Except.ok.inj h
    unfold isReplay at hn ⊢
    split at hn
    · rename_i hneg
      rw [if_pos hneg]
    · simp only at hn
      rw [if_pos (by omega)] at hn
      cases hn
  · obtain rfl := Except.ok.inj h
    unfold isReplay at hn ⊢
    simp only at hn ⊢
    split
    · rfl
    rename_i hneg
    rw [if_neg hneg] at hn
    split
    · rename_i habove
      rw [if_pos habove] at hn
      cases hn
    rename_i hbelow
    rw [if_neg hbelow] at hn
    split
    · rfl
    · rename_i hnear
      rw [if_neg hnear, and_shiftLeft_bne_zero, Nat.testBit_or, Bool.or_eq_true] at hn
      rw [and_shiftLeft_bne_zero]
      rcases hn with hbit | hbit
      · exact hbit
      · rw [Nat.one_shiftLeft, Nat.testBit_two_pow, decide_eq_true_iff] at hbit
        omega

/-! ## Sequences of calls -/

/-- The statements of `mark_authenticated`, one after another on the window object. -/
def markStatements (sequenceNumber : ℤ) : Program PyError Empty ReplayWindow Unit := do
  let self ← read
  if self.isReplay sequenceNumber then
    raise (.valueError "sequence number is duplicated or outside the replay window")
  else if sequenceNumber > self.highestSequence then
    let shift := sequenceNumber - self.highestSequence
    if shift ≥ self.size then
      update fun self => { self with bitmap := 0 }
    else
      update fun self => { self with bitmap := self.bitmap <<< shift.toNat }
      update fun self => { self with bitmap := self.bitmap &&& ((1 <<< self.size) - 1) }
    update fun self => { self with highestSequence := sequenceNumber }
    update fun self => { self with bitmap := self.bitmap ||| 1 }
  else
    let distance := self.highestSequence - sequenceNumber
    update fun self => { self with bitmap := self.bitmap ||| (1 <<< distance.toNat) }

/-- The statements leave the window of `markAuthenticated`, or raise before the first of
them changed it. -/
theorem markStatements_run (w : ReplayWindow) (n : ℤ) :
    markStatements n w = match w.markAuthenticated n with
      | .ok w' => ⟨.ok (), w', []⟩
      | .error e => ⟨.error e, w, []⟩ := by
  unfold markStatements markAuthenticated
  rw [bind_of_ok (show read w = ⟨.ok w, w, []⟩ from rfl)]
  by_cases hreplay : w.isReplay n = true
  · simp only [if_pos hreplay]
    rfl
  · simp only [if_neg hreplay]
    by_cases hgt : n > w.highestSequence
    · simp only [if_pos hgt]
      by_cases hbig : n - w.highestSequence ≥ w.size
      · simp only [if_pos hbig]
        rfl
      · simp only [if_neg hbig]
        rfl
    · simp only [if_neg hgt]
      rfl

/-- A window and the numbers it accepted so far. -/
structure Marked where
  window : ReplayWindow
  accepted : Finset ℤ

/-- One call: its number counts as accepted when the call returned. -/
def Marked.call (m : Marked) (sequenceNumber : ℤ) : Marked :=
  let o := markStatements sequenceNumber m.window
  match o.result with
  | .ok () => ⟨o.state, insert sequenceNumber m.accepted⟩
  | .error _ => ⟨o.state, m.accepted⟩

/-- The window of the given size after a sequence of calls, each accepted or raising. -/
def markAll (size : ℕ) (h : 0 < size) (calls : List ℤ) : Marked :=
  calls.foldl Marked.call ⟨new size h, ∅⟩

/-- A number that a set of accepted numbers refuses: negative, accepted before, or at least
`size` below the largest one. -/
def Refused (size : ℕ) (S : Finset ℤ) (n : ℤ) : Prop :=
  n < 0 ∨ n ∈ S ∨ ∃ h : S.Nonempty, n ≤ S.max' h - size

/-- The largest accepted number decides for all of them. -/
theorem rejected_iff_refused (size : ℕ) (S : Finset ℤ) (n : ℤ) :
    Rejected size (S : Set ℤ) n ↔ Refused size S n := by
  have hfar : (∃ m ∈ (S : Set ℤ), n ≤ m - size) ↔ ∃ h : S.Nonempty, n ≤ S.max' h - size := by
    constructor
    · rintro ⟨m, hm, hle⟩
      have hmax : m ≤ S.max' ⟨m, hm⟩ := S.le_max' m hm
      exact ⟨⟨m, hm⟩, by omega⟩
    · rintro ⟨h, hle⟩
      exact ⟨S.max' h, S.max'_mem h, hle⟩
  rw [Rejected, Refused, hfar, Finset.mem_coe]

/-- The window and the set agree: the window stands for the accepted numbers. -/
structure Marked.Agree (m : Marked) (size : ℕ) : Prop where
  size_eq : m.window.size = size
  represents : m.window.Represents (m.accepted : Set ℤ)

/-- The set decides what the window rejects. -/
theorem Marked.Agree.isReplay_iff {m : Marked} {size : ℕ} (h : m.Agree size) (n : ℤ) :
    m.window.isReplay n = true ↔ Refused size m.accepted n := by
  rw [ReplayWindow.isReplay_iff h.represents, h.size_eq, rejected_iff_refused]

/-- A refused number raises and leaves the window alone. -/
theorem markStatements_of_replay {w : ReplayWindow} {n : ℤ} (h : w.isReplay n = true) :
    markStatements n w = ⟨.error (.valueError
      "sequence number is duplicated or outside the replay window"), w, []⟩ := by
  rw [markStatements_run, markAuthenticated_of_replay h]

/-- **One call.** A refused number changes nothing; any other one is added. -/
theorem Marked.Agree.call {m : Marked} {size : ℕ} (h : m.Agree size) (n : ℤ) :
    (m.call n).Agree size ∧ (m.window.isReplay n = true → m.call n = m) ∧
      (m.window.isReplay n = false → (markStatements n m.window).result = .ok () ∧
        (m.call n).accepted = insert n m.accepted) := by
  cases hreplay : m.window.isReplay n with
  | true =>
      have hsame : m.call n = m := by
        rw [Marked.call, markStatements_of_replay hreplay]
      refine ⟨by rwa [hsame], fun _ => hsame, fun hnot => ?_⟩
      cases hnot
  | false =>
      obtain ⟨w', hmark, hsize, hrep⟩ := markAuthenticated_of_fresh h.represents hreplay
      have hrun : markStatements n m.window = ⟨.ok (), w', []⟩ := by
        rw [markStatements_run, hmark]
      have hcall : m.call n = ⟨w', insert n m.accepted⟩ := by
        rw [Marked.call, hrun]
      refine ⟨?_, ?_, ?_⟩
      · rw [hcall]
        exact ⟨by rw [hsize, h.size_eq], by rwa [Finset.coe_insert]⟩
      · intro hnot
        cases hnot
      · intro _
        exact ⟨by rw [hrun], by rw [hcall]⟩

/-- The window agrees with the accepted numbers after every sequence of calls. -/
theorem agree_markAll (size : ℕ) (h : 0 < size) (calls : List ℤ) :
    (markAll size h calls).Agree size := by
  have hstep : ∀ (calls : List ℤ) (m : Marked), m.Agree size →
      (calls.foldl Marked.call m).Agree size := by
    intro calls
    induction calls with
    | nil => exact fun m hm => hm
    | cons n rest ih => exact fun m hm => ih (m.call n) (hm.call n).1
  apply hstep
  exact ⟨rfl, by rw [Finset.coe_empty]; exact represents_new size h⟩

/-- **The window refines its set.** After every sequence of calls, `is_replay` is refusal by
the set of accepted numbers; the next call raises exactly for a refused number and leaves the
window as it was, and adds any other number to the set. -/
theorem replayWindow_refines_set (size : ℕ) (h : 0 < size) (calls : List ℤ) (n : ℤ) :
    let m := markAll size h calls
    (m.window.isReplay n = true ↔
      n < 0 ∨ n ∈ m.accepted ∨ ∃ hS : m.accepted.Nonempty, n ≤ m.accepted.max' hS - size) ∧
    ((∃ e, (markStatements n m.window).result = .error e) ↔ m.window.isReplay n = true) ∧
    (m.window.isReplay n = true →
      (markStatements n m.window).state = m.window ∧ markAll size h (calls ++ [n]) = m) ∧
    (m.window.isReplay n = false →
      (markAll size h (calls ++ [n])).window = (markStatements n m.window).state ∧
        (markAll size h (calls ++ [n])).accepted = insert n m.accepted) := by
  intro m
  have hagree : m.Agree size := agree_markAll size h calls
  obtain ⟨-, hsame, hadded⟩ := hagree.call n
  have hnext : markAll size h (calls ++ [n]) = m.call n := by
    rw [markAll, List.foldl_append]
    rfl
  refine ⟨hagree.isReplay_iff n, ?_, ?_, ?_⟩
  · constructor
    · rintro ⟨e, he⟩
      by_contra hfresh
      rw [(hadded (Bool.eq_false_iff.2 hfresh)).1] at he
      cases he
    · intro hreplay
      rw [markStatements_of_replay hreplay]
      exact ⟨_, rfl⟩
  · intro hreplay
    rw [hnext, hsame hreplay, markStatements_of_replay hreplay]
    exact ⟨rfl, rfl⟩
  · intro hfresh
    obtain ⟨hresult, haccepted⟩ := hadded hfresh
    rw [hnext]
    refine ⟨?_, haccepted⟩
    rw [Marked.call, hresult]

/-- The default size after two accepted calls and one that raises. -/
theorem replayWindow_refines_set_default :
    0 < 64 ∧ (markAll 64 (by decide) [5, 3, 5]).window.isReplay 3 = true :=
  ⟨by decide, (replayWindow_refines_set 64 (by decide) [5, 3, 5] 3).1.2
    (Or.inr (Or.inl (by decide)))⟩

end ReplayWindow

end MatfVpn
