/-
# Loops that try again

`retry exhausted body input attempts i` runs `body` on the inputs from the `i`-th on.  It
ends with the first run that returns a value or raises, and raises `exhausted` when
`attempts` runs have passed without a value.

* `retry_of_passes` : attempts that pass only use up the bound;
* `ReturnsAt.retry_eq` : the run of a loop with an attempt that returns;
* `ReturnsAt.insertAt` : more attempts that pass, put in front of it, move it;
* `wp_retry` : a specification of the loop from one of its body.
-/
import MatfVpn.Lib.Program

namespace Program

variable {ε ω σ α ι : Type}

/-- Run the body on the inputs in turn, at most `attempts` times. -/
def retry (exhausted : ε) (body : ι → Program ε ω σ (Option α)) (input : ℕ → ι) :
    (attempts i : ℕ) → Program ε ω σ α
  | 0, _ => raise exhausted
  | attempts + 1, i => do
      match ← body (input i) with
      | some a => return a
      | none => retry exhausted body input attempts (i + 1)

/-- The body neither returns a value nor raises, and leaves the state alone. -/
def Passes (body : ι → Program ε ω σ (Option α)) (s : σ) (x : ι) : Prop :=
  (body x s).result = .ok none ∧ (body x s).state = s

/-- The attempts before the `k`-th pass, and the `k`-th returns this value. -/
structure ReturnsAt (body : ι → Program ε ω σ (Option α)) (s : σ) (input : ℕ → ι) (k : ℕ)
    (a : α) : Prop where
  before : ∀ j < k, Passes body s (input j)
  returns : (body (input k) s).result = .ok (some a)

/-- Put more inputs in front of the `k`-th. -/
def insertAt (k : ℕ) (more : List ι) (input : ℕ → ι) (i : ℕ) : ι :=
  if i < k then input i else more[i - k]?.getD (input (i - more.length))

section inserted

variable (k : ℕ) (more : List ι) (input : ℕ → ι)

/-- The inputs before the insertion are as they were. -/
theorem insertAt_of_lt {i : ℕ} (h : i < k) : insertAt k more input i = input i := if_pos h

/-- The inputs after the insertion are the later ones. -/
theorem insertAt_of_le {i : ℕ} (h : k ≤ i) :
    insertAt k more input (i + more.length) = input i := by
  rw [insertAt, if_neg (by omega), List.getElem?_eq_none (by omega), Option.getD_none,
    Nat.add_sub_cancel]

/-- The inputs of the insertion. -/
theorem insertAt_mem {i : ℕ} (h : k ≤ i) (h' : i < k + more.length) :
    insertAt k more input i ∈ more := by
  have hi : i - k < more.length := by omega
  rw [insertAt, if_neg (by omega), List.getElem?_eq_getElem hi, Option.getD_some]
  apply List.getElem_mem

end inserted

section runs

variable {exhausted : ε} {body : ι → Program ε ω σ (Option α)} {input : ℕ → ι} {s : σ}

/-- The attempts from a later one on. -/
theorem retry_later (attempts i : ℕ) : retry exhausted body input attempts (i + 1)
    = retry exhausted body (fun k => input (k + 1)) attempts i := by
  induction attempts generalizing i with
  | zero => rfl
  | succ attempts ih => rw [retry, retry, ih]

/-- An attempt that passes is followed by the next one. -/
theorem retry_succ_of_passes (attempts : ℕ) {i : ℕ} (h : Passes body s (input i)) :
    retry exhausted body input (attempts + 1) i s
      = Outcome.after (body (input i) s).trace (retry exhausted body input attempts (i + 1) s) := by
  obtain ⟨hresult, hstate⟩ := h
  rcases hbody : body (input i) s with ⟨r, s', t⟩
  rw [hbody] at hresult hstate
  simp only at hresult hstate
  rw [hresult, hstate] at hbody
  show (body (input i) >>= _) s = _
  rw [bind_of_ok hbody]

/-- An attempt that returns a value ends the loop. -/
theorem retry_succ_of_some (attempts : ℕ) {i : ℕ} {a : α}
    (h : (body (input i) s).result = .ok (some a)) :
    retry exhausted body input (attempts + 1) i s
      = ⟨.ok a, (body (input i) s).state, (body (input i) s).trace⟩ := by
  rcases hbody : body (input i) s with ⟨r, s', t⟩
  rw [hbody] at h
  simp only at h
  rw [h] at hbody
  show (body (input i) >>= _) s = _
  rw [bind_of_ok hbody]
  show Outcome.after t ⟨.ok a, s', []⟩ = _
  rw [Outcome.after, List.append_nil]

/-- **Attempts that pass** only use up the bound. -/
theorem retry_of_passes {k : ℕ} (attempts i : ℕ)
    (h : ∀ j < k, Passes body s (input (i + j))) :
    retry exhausted body input (k + attempts) i s
      = Outcome.after ((List.range k).flatMap fun j => (body (input (i + j)) s).trace)
          (retry exhausted body input attempts (i + k) s) := by
  induction k generalizing attempts with
  | zero =>
      rw [Nat.zero_add, Nat.add_zero]
      rfl
  | succ k ih =>
      have hlast : Passes body s (input (i + k)) := h k (by omega)
      rw [show k + 1 + attempts = k + (attempts + 1) by omega,
        ih (attempts + 1) fun j hj => h j (by omega), retry_succ_of_passes attempts hlast,
        List.range_succ, List.flatMap_append]
      simp [Outcome.after, Nat.add_assoc]

/-- The run of a loop whose `k`-th attempt returns. -/
theorem ReturnsAt.retry_eq {k : ℕ} {a : α} (h : ReturnsAt body s input k a) {attempts : ℕ}
    (hk : k < attempts) :
    retry exhausted body input attempts 0 s = ⟨.ok a, (body (input k) s).state,
      ((List.range k).flatMap fun j => (body (input j) s).trace) ++ (body (input k) s).trace⟩ := by
  obtain ⟨n, rfl⟩ : ∃ n, attempts = k + (n + 1) := ⟨attempts - k - 1, by omega⟩
  have hbefore : ∀ j < k, Passes body s (input (0 + j)) := by
    intro j hj
    rw [Nat.zero_add]
    exact h.before j hj
  rw [retry_of_passes (n + 1) 0 hbefore, Nat.zero_add, retry_succ_of_some n h.returns]
  simp only [Outcome.after, Nat.zero_add]

/-- The result of a loop whose `k`-th attempt returns. -/
theorem ReturnsAt.result_eq {k : ℕ} {a : α} (h : ReturnsAt body s input k a) (attempts : ℕ) :
    (retry exhausted body input attempts 0 s).result
      = if k < attempts then .ok a else .error exhausted := by
  by_cases hk : k < attempts
  · rw [if_pos hk, h.retry_eq hk]
  · rw [if_neg hk]
    have hall : ∀ j < attempts, Passes body s (input (0 + j)) := by
      intro j hj
      rw [Nat.zero_add]
      exact h.before j (by omega)
    rw [← Nat.add_zero attempts, retry_of_passes 0 0 hall]
    rfl

/-- **A loop that returns** has an attempt that returns. -/
theorem returnsAt_of_result [Subsingleton σ] {attempts i : ℕ} {a : α}
    (h : (retry exhausted body input attempts i s).result = .ok a) :
    ∃ k < attempts, ReturnsAt body s (fun j => input (i + j)) k a := by
  induction attempts generalizing i with
  | zero => cases h
  | succ attempts ih =>
      rcases hresult : (body (input i) s).result with e | _ | b
      · -- an exception is not caught
        obtain ⟨_, _, _, hbody, -⟩ := result_bind_eq_ok.1 h
        rw [hbody] at hresult
        cases hresult
      · have hpasses : Passes body s (input i) := ⟨hresult, Subsingleton.elim _ _⟩
        rw [retry_succ_of_passes attempts hpasses] at h
        obtain ⟨k, hk, hreturns⟩ := ih h
        refine ⟨k + 1, by omega, ?_, ?_⟩
        · intro j hj
          cases j with
          | zero => exact hpasses
          | succ j =>
              rw [show i + (j + 1) = i + 1 + j by omega]
              exact hreturns.before j (by omega)
        · rw [show i + (k + 1) = i + 1 + k by omega]
          exact hreturns.returns
      · rw [retry_succ_of_some attempts hresult] at h
        refine ⟨0, by omega, nofun, ?_⟩
        rw [show i + 0 = i from rfl, hresult, Except.ok.inj h]

/-- **More attempts that pass** move the one that returns. -/
theorem ReturnsAt.insertAt {k i : ℕ} {more : List ι} {a : α} (h : ReturnsAt body s input k a)
    (hi : i ≤ k) (hmore : ∀ x ∈ more, Passes body s x) :
    ReturnsAt body s (insertAt i more input) (k + more.length) a := by
  constructor
  · intro j hj
    by_cases hji : j < i
    · rw [insertAt_of_lt _ _ _ hji]
      exact h.before j (by omega)
    · by_cases hin : j < i + more.length
      · exact hmore _ (insertAt_mem _ _ _ (by omega) hin)
      · obtain ⟨j', rfl⟩ : ∃ j', j = j' + more.length := ⟨j - more.length, by omega⟩
        rw [insertAt_of_le _ _ _ (by omega)]
        exact h.before j' (by omega)
  · rw [insertAt_of_le _ _ _ hi]
    exact h.returns

/-- What the body does for a loop with this specification: it ends the loop, or it leaves effects
that may come before those of the next attempts. -/
def AttemptFor (Q : Except ε α → σ → List ω → Prop) :
    Except ε (Option α) → σ → List ω → Prop
  | .error e, s, t => Q (.error e) s t
  | .ok (some a), s, t => Q (.ok a) s t
  | .ok none, _, t => ∀ r s' t', Q r s' t' → Q r s' (t ++ t')

/-- **The rule of the loop.** -/
theorem wp_retry {Q : Except ε α → σ → List ω → Prop} {bound : ℕ}
    (hexhausted : ∀ s, Q (.error exhausted) s [])
    (hbody : ∀ j < bound, ∀ s, wp (body (input j)) s (AttemptFor Q)) {attempts i : ℕ}
    (hi : attempts + i = bound) (s : σ) : wp (retry exhausted body input attempts i) s Q := by
  induction attempts generalizing i s with
  | zero => exact hexhausted s
  | succ attempts ih =>
      rw [retry, wp_bind]
      refine wp_mono (hbody i (by omega) s) ?_
      rintro (e | _ | a) s' t hends
      · exact hends
      · refine wp_mono (ih (by omega) s') ?_
        intro r s'' t' h
        exact hends r s'' t' h
      · simp only
        rw [wp_pure, List.append_nil]
        exact hends

end runs

end Program
