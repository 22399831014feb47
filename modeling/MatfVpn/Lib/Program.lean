/-
# Programs with state, effects and exceptions

A program of type `Program ε ω σ α` runs on a state of type `σ`, appends effects of
type `ω` to a trace, and either returns a value of type `α` or raises an exception
of type `ε`.  An exception keeps the state and the trace as they are when it is
raised, as in an imperative language without transactions.

Specifications are weakest preconditions `wp m s Q`: started in `s`, the program `m`
ends with a result, a state and a trace that satisfy `Q`.  The `wp` lemmas follow the
structure of a program (`wp_bind` for sequencing), and `wp_mono` replaces a call by
its specification.
-/
import Mathlib.Data.Nat.Notation

/-- What a run of a program ends with. -/
structure Outcome (ε ω σ α : Type) where
  result : Except ε α
  state : σ
  trace : List ω

/-- The outcome of a run that left the effects `t` before. -/
def Outcome.after {ε ω σ α : Type} (t : List ω) (o : Outcome ε ω σ α) : Outcome ε ω σ α :=
  { o with trace := t ++ o.trace }

theorem Outcome.after_after {ε ω σ α : Type} (s t : List ω) (o : Outcome ε ω σ α) :
    Outcome.after s (Outcome.after t o) = Outcome.after (s ++ t) o := by
  simp only [Outcome.after, List.append_assoc]

/-- A program over states `σ` with effects `ω` and exceptions `ε`. -/
def Program (ε ω σ α : Type) : Type := σ → Outcome ε ω σ α

namespace Program

variable {ε ω ω' σ σ' α β : Type}

/-! ## Operations -/

instance : Monad (Program ε ω σ) where
  pure a := fun s => ⟨.ok a, s, []⟩
  bind m f := fun s =>
    match m s with
    | ⟨.ok a, s', t⟩ => Outcome.after t (f a s')
    | ⟨.error e, s', t⟩ => ⟨.error e, s', t⟩

/-- Raise an exception. -/
def raise (e : ε) : Program ε ω σ α := fun s => ⟨.error e, s, []⟩

/-- The current state. -/
def read : Program ε ω σ σ := fun s => ⟨.ok s, s, []⟩

/-- Change the state. -/
def update (f : σ → σ) : Program ε ω σ Unit := fun s => ⟨.ok (), f s, []⟩

/-- Append an effect to the trace. -/
def emit (w : ω) : Program ε ω σ Unit := fun s => ⟨.ok (), s, [w]⟩

/-- Return the value of a computation that may have failed, or raise its exception. -/
def ofExcept : Except ε α → Program ε ω σ α
  | .ok a => pure a
  | .error e => raise e

/-- Run a program and return its exception instead of raising it (`try`). -/
def attempt (m : Program ε ω σ α) : Program ε ω σ (Except ε α) := fun s =>
  ⟨.ok (m s).result, (m s).state, (m s).trace⟩

/-- Run a program on a component of the state. -/
def zoom (get : σ → σ') (put : σ' → σ → σ) (lift : ω' → ω) (m : Program ε ω' σ' α) :
    Program ε ω σ α := fun s =>
  ⟨(m (get s)).result, put (m (get s)).state s, (m (get s)).trace.map lift⟩

/-- Run a program whose effects are part of a larger type of effects. -/
def lift (f : ω' → ω) (m : Program ε ω' σ α) : Program ε ω σ α := zoom id (fun s _ => s) f m

@[simp] theorem ofExcept_ok (a : α) : (ofExcept (.ok a) : Program ε ω σ α) = pure a := rfl

@[simp] theorem ofExcept_error (e : ε) : (ofExcept (.error e) : Program ε ω σ α) = raise e := rfl

theorem ofExcept_apply (x : Except ε α) (s : σ) :
    (ofExcept x : Program ε ω σ α) s = ⟨x, s, []⟩ := by
  cases x with
  | ok a => rfl
  | error e => rfl

/-! ## Sequences -/

/-- The second program runs after a first one that returned. -/
theorem bind_of_ok {m : Program ε ω σ β} {b : β} {s s₁ : σ} {t₁ : List ω}
    (h : m s = ⟨.ok b, s₁, t₁⟩) (f : β → Program ε ω σ α) :
    (m >>= f) s = Outcome.after t₁ (f b s₁) := by
  simp only [bind, h]

/-- The second program does not run after a first one that raised. -/
theorem bind_of_error {m : Program ε ω σ β} {e : ε} {s s₁ : σ} {t₁ : List ω}
    (h : m s = ⟨.error e, s₁, t₁⟩) (f : β → Program ε ω σ α) :
    (m >>= f) s = ⟨.error e, s₁, t₁⟩ := by
  simp only [bind, h]

/-- A program that goes on like another one does so also inside of `try`. -/
theorem attempt_bind_of_after {m m' : Program ε ω σ β} {s s' : σ} {t : List ω}
    (h : m s = Outcome.after t (m' s')) (f : Except ε β → Program ε ω σ α) :
    (attempt m >>= f) s = Outcome.after t ((attempt m' >>= f) s') := by
  show Outcome.after (m s).trace (f (m s).result (m s).state)
    = Outcome.after t (Outcome.after (m' s').trace (f (m' s').result (m' s').state))
  rw [h]
  simp only [Outcome.after, List.append_assoc]

/-- What a sequence returns is what the second program returns. -/
theorem result_bind_eq_ok {m : Program ε ω σ β} {f : β → Program ε ω σ α} {s : σ} {a : α} :
    ((m >>= f) s).result = .ok a ↔
      ∃ b s₁ t₁, m s = ⟨.ok b, s₁, t₁⟩ ∧ (f b s₁).result = .ok a := by
  constructor
  · intro h
    rcases hm : m s with ⟨e | b, s₁, t₁⟩
    · simp only [bind, hm] at h
      cases h
    · rw [bind_of_ok hm] at h
      exact ⟨b, s₁, t₁, rfl, h⟩
  · rintro ⟨b, s₁, t₁, hm, hf⟩
    rw [bind_of_ok hm]
    exact hf

/-- A sequence returns when both programs do. -/
theorem bind_eq_ok {m : Program ε ω σ β} {f : β → Program ε ω σ α} {s s' : σ} {a : α}
    {t : List ω} :
    (m >>= f) s = ⟨.ok a, s', t⟩ ↔ ∃ b s₁ t₁ t₂, m s = ⟨.ok b, s₁, t₁⟩ ∧
      f b s₁ = ⟨.ok a, s', t₂⟩ ∧ t = t₁ ++ t₂ := by
  simp only [bind]
  constructor
  · intro h
    rcases hm : m s with ⟨e | b, s₁, t₁⟩
    · rw [hm] at h
      cases h
    · rw [hm] at h
      obtain ⟨hresult, hstate, htrace⟩ := Outcome.mk.inj h
      refine ⟨b, s₁, t₁, (f b s₁).trace, rfl, ?_, htrace.symm⟩
      rw [← hresult, ← hstate]
  · rintro ⟨b, s₁, t₁, t₂, hm, hf, rfl⟩
    rw [hm]
    simp only [hf]
    rfl

theorem pure_bind (b : β) (f : β → Program ε ω σ α) : (pure b >>= f) = f b := rfl

theorem bind_assoc {γ : Type} (m : Program ε ω σ β) (f : β → Program ε ω σ γ)
    (g : γ → Program ε ω σ α) : (m >>= f) >>= g = m >>= fun b => f b >>= g := by
  funext s
  simp only [bind]
  rcases m s with ⟨e | b, s₁, t₁⟩
  · rfl
  · simp only [Outcome.after]
    rcases f b s₁ with ⟨e | c, s₂, t₂⟩
    · rfl
    · simp

/-- Two sequences end alike when what comes second does, after what the first program leaves. -/
theorem bind_congr_of_ok {m : Program ε ω σ β} {f f' : β → Program ε ω σ α} {s : σ}
    (h : ∀ b, (m s).result = .ok b → f b (m s).state = f' b (m s).state) :
    (m >>= f) s = (m >>= f') s := by
  simp only [bind]
  rcases hm : m s with ⟨e | b, s₁, t₁⟩
  · rfl
  · rw [hm] at h
    exact congrArg (Outcome.after t₁) (h b rfl)

/-- The first program may be replaced by one with the same run. -/
theorem bind_congr_of_run_eq {m m' : Program ε ω σ β} {s : σ} (h : m s = m' s)
    (f : β → Program ε ω σ α) : (m >>= f) s = (m' >>= f) s := by
  simp only [bind, h]

/-! ## Components of a state -/

section zoom

variable {get : σ → σ'} {put : σ' → σ → σ} {lift : ω' → ω}

theorem zoom_pure (hput : ∀ s, put (get s) s = s) (a : α) :
    zoom get put lift (pure a : Program ε ω' σ' α) = pure a := by
  funext s
  show (⟨.ok a, put (get s) s, []⟩ : Outcome ε ω σ α) = ⟨.ok a, s, []⟩
  rw [hput]

theorem zoom_raise (hput : ∀ s, put (get s) s = s) (e : ε) :
    zoom get put lift (raise e : Program ε ω' σ' α) = raise e := by
  funext s
  show (⟨.error e, put (get s) s, []⟩ : Outcome ε ω σ α) = ⟨.error e, s, []⟩
  rw [hput]

theorem zoom_ofExcept (hput : ∀ s, put (get s) s = s) (x : Except ε α) :
    zoom get put lift (ofExcept x : Program ε ω' σ' α) = ofExcept x := by
  cases x with
  | ok a => exact zoom_pure hput a
  | error e => exact zoom_raise hput e

theorem zoom_emit (hput : ∀ s, put (get s) s = s) (w : ω') :
    zoom get put lift (emit w : Program ε ω' σ' Unit) = emit (lift w) := by
  funext s
  show (⟨.ok (), put (get s) s, [lift w]⟩ : Outcome ε ω σ Unit) = ⟨.ok (), s, [lift w]⟩
  rw [hput]

/-- **Sequencing on a component.** -/
theorem zoom_bind (hget : ∀ c s, get (put c s) = c) (hput : ∀ c c' s, put c' (put c s) = put c' s)
    (m : Program ε ω' σ' β) (f : β → Program ε ω' σ' α) :
    zoom get put lift (m >>= f)
      = zoom get put lift m >>= fun b => zoom get put lift (f b) := by
  funext s
  simp only [zoom, bind]
  rcases m (get s) with ⟨e | b, c, t⟩
  · rfl
  · simp only [Outcome.after, hget, hput, List.map_append]

end zoom

/-! ## Weakest preconditions -/

/-- Started in `s`, the program ends as `Q` says. -/
def wp (m : Program ε ω σ α) (s : σ) (Q : Except ε α → σ → List ω → Prop) : Prop :=
  Q (m s).result (m s).state (m s).trace

section rules

variable {s : σ} {Q : Except ε α → σ → List ω → Prop}

/-- **Consequence.** A specification may be weakened. -/
theorem wp_mono {m : Program ε ω σ α} {R : Except ε α → σ → List ω → Prop}
    (h : wp m s R) (hRQ : ∀ r s' t, R r s' t → Q r s' t) : wp m s Q :=
  hRQ _ _ _ h

/-- **Conjunction.** Two specifications hold together. -/
theorem wp_and {m : Program ε ω σ α} {R : Except ε α → σ → List ω → Prop} (h : wp m s Q)
    (h' : wp m s R) : wp m s fun r s' t => Q r s' t ∧ R r s' t := ⟨h, h'⟩

/-- Programs with the same run have the same specifications. -/
theorem wp_of_run_eq {m : Program ε ω σ α} (m' : Program ε ω σ α) (h : m s = m' s)
    (hm : wp m' s Q) : wp m s Q := by
  rw [wp, h]
  exact hm

@[simp] theorem wp_pure (a : α) : wp (pure a : Program ε ω σ α) s Q ↔ Q (.ok a) s [] :=
  Iff.rfl

@[simp] theorem wp_raise (e : ε) : wp (raise e : Program ε ω σ α) s Q ↔ Q (.error e) s [] :=
  Iff.rfl

@[simp] theorem wp_read {Q : Except ε σ → σ → List ω → Prop} :
    wp (read : Program ε ω σ σ) s Q ↔ Q (.ok s) s [] := Iff.rfl

@[simp] theorem wp_update (f : σ → σ) {Q : Except ε Unit → σ → List ω → Prop} :
    wp (update f) s Q ↔ Q (.ok ()) (f s) [] := Iff.rfl

@[simp] theorem wp_emit (w : ω) {Q : Except ε Unit → σ → List ω → Prop} :
    wp (emit w) s Q ↔ Q (.ok ()) s [w] := Iff.rfl

@[simp] theorem wp_attempt {m : Program ε ω σ α}
    {Q : Except ε (Except ε α) → σ → List ω → Prop} :
    wp (attempt m) s Q ↔ wp m s (fun r s' t => Q (.ok r) s' t) := Iff.rfl

@[simp] theorem wp_zoom (get : σ → σ') (put : σ' → σ → σ) (lift : ω' → ω)
    (m : Program ε ω' σ' α) :
    wp (zoom get put lift m) s Q
      ↔ wp m (get s) (fun r s' t => Q r (put s' s) (t.map lift)) := Iff.rfl

@[simp] theorem wp_lift (f : ω' → ω) (m : Program ε ω' σ α) :
    wp (lift f m) s Q ↔ wp m s (fun r s' t => Q r s' (t.map f)) := Iff.rfl

theorem wp_ofExcept (x : Except ε α) : wp (ofExcept x) s Q ↔ Q x s [] := by
  cases x <;> exact Iff.rfl

/-- **Sequencing.** The continuation runs from the state and after the trace of the
first program; an exception of the first program ends the whole. -/
theorem wp_bind {m : Program ε ω σ β} {f : β → Program ε ω σ α} :
    wp (m >>= f) s Q ↔ wp m s (fun r s' t =>
      match r with
      | .ok a => wp (f a) s' (fun r' s'' t' => Q r' s'' (t ++ t'))
      | .error e => Q (.error e) s' t) := by
  simp only [wp, bind]
  rcases m s with ⟨_ | _, s', t⟩ <;> exact Iff.rfl

@[simp] theorem wp_pure_bind (a : β) {f : β → Program ε ω σ α} :
    wp (pure a >>= f) s Q ↔ wp (f a) s Q := by
  rw [wp_bind]; exact Iff.rfl

/-- The value of a program is mapped. -/
theorem wp_bind_pure {m : Program ε ω σ β} (f : β → α) :
    wp (m >>= fun b => pure (f b)) s Q ↔ wp m s (fun r s' t => Q (r.map f) s' t) := by
  rw [wp_bind, wp, wp]
  cases (m s).result with
  | error e => exact Iff.rfl
  | ok a => simp [Except.map]

@[simp] theorem wp_raise_bind (e : ε) {f : β → Program ε ω σ α} :
    wp (raise e >>= f) s Q ↔ Q (.error e) s [] := by
  rw [wp_bind]; exact Iff.rfl

@[simp] theorem wp_read_bind {f : σ → Program ε ω σ α} :
    wp (read >>= f) s Q ↔ wp (f s) s Q := by
  rw [wp_bind]; exact Iff.rfl

@[simp] theorem wp_update_bind (g : σ → σ) {f : Unit → Program ε ω σ α} :
    wp (update g >>= f) s Q ↔ wp (f ()) (g s) Q := by
  rw [wp_bind]; exact Iff.rfl

@[simp] theorem wp_emit_bind (w : ω) {f : Unit → Program ε ω σ α} :
    wp (emit w >>= f) s Q ↔ wp (f ()) s (fun r s' t => Q r s' (w :: t)) := by
  rw [wp_bind]; exact Iff.rfl

theorem wp_ite (c : Prop) [Decidable c] {m m' : Program ε ω σ α} :
    wp (if c then m else m') s Q ↔ (c → wp m s Q) ∧ (¬ c → wp m' s Q) := by
  split <;> simp_all

end rules

/-! ## Programs that leave the state alone -/

/-- A program that never looks at its state: one result and one trace from every state. -/
def Stateless (m : ∀ σ : Type, Program ε ω σ α) : Prop :=
  ∃ r t, ∀ (σ : Type) (s : σ), m σ s = ⟨r, s, t⟩

section stateless

variable {m : ∀ σ : Type, Program ε ω σ β}

theorem Stateless.pure (a : α) : Stateless fun σ => (pure a : Program ε ω σ α) :=
  ⟨.ok a, [], fun _ _ => rfl⟩

theorem Stateless.raise (e : ε) : Stateless fun σ => (raise e : Program ε ω σ α) :=
  ⟨.error e, [], fun _ _ => rfl⟩

/-- An exception ends a sequence, whatever would come next. -/
theorem Stateless.raise_bind (e : ε) (f : ∀ σ : Type, β → Program ε ω σ α) :
    Stateless fun σ => (Program.raise e : Program ε ω σ β) >>= f σ := ⟨.error e, [], fun _ _ => rfl⟩

theorem Stateless.emit (w : ω) : Stateless fun σ => (emit w : Program ε ω σ Unit) :=
  ⟨.ok (), [w], fun _ _ => rfl⟩

theorem Stateless.ofExcept (x : Except ε α) :
    Stateless fun σ => (ofExcept x : Program ε ω σ α) := by
  cases x with
  | ok a => exact Stateless.pure a
  | error e => exact Stateless.raise e

/-- **Sequencing** two such programs. -/
theorem Stateless.bind {f : β → ∀ σ : Type, Program ε ω σ α} (hm : Stateless m)
    (hf : ∀ b, Stateless (f b)) : Stateless fun σ => m σ >>= fun b => f b σ := by
  obtain ⟨r, t, hm⟩ := hm
  cases r with
  | error e => exact ⟨.error e, t, fun σ s => bind_of_error (hm σ s) _⟩
  | ok b =>
      obtain ⟨r', t', hf⟩ := hf b
      refine ⟨r', t ++ t', fun σ s => ?_⟩
      show (m σ >>= fun b => f b σ) s = ⟨r', s, t ++ t'⟩
      rw [bind_of_ok (hm σ s), hf σ s]
      rfl

theorem Stateless.ite (c : Prop) [Decidable c] {m' : ∀ σ : Type, Program ε ω σ β}
    (hm : Stateless m) (hm' : Stateless m') : Stateless fun σ => if c then m σ else m' σ := by
  by_cases hc : c
  · simp only [if_pos hc]
    exact hm
  · simp only [if_neg hc]
    exact hm'

/-- The result does not depend on the state, which stays. -/
theorem Stateless.run_eq (hm : Stateless m) {σ σ' : Type} (s : σ) (s' : σ') :
    m σ s = ⟨(m σ' s').result, s, (m σ' s').trace⟩ := by
  obtain ⟨r, t, hm⟩ := hm
  rw [hm σ s, hm σ' s']

theorem Stateless.attempt (hm : Stateless m) : Stateless fun σ => Program.attempt (m σ) := by
  obtain ⟨r, t, hm⟩ := hm
  refine ⟨.ok r, t, fun σ s => ?_⟩
  show (⟨.ok (m σ s).result, (m σ s).state, (m σ s).trace⟩ : Outcome ε ω σ (Except ε β)) = _
  rw [hm σ s]

theorem Stateless.lift {f : ω → ω'} (hm : Stateless m) :
    Stateless fun σ => Program.lift f (m σ) := by
  obtain ⟨r, t, hm⟩ := hm
  refine ⟨r, t.map f, fun σ s => ?_⟩
  show (⟨(m σ s).result, (m σ s).state, (m σ s).trace.map f⟩ : Outcome ε ω' σ β) = _
  rw [hm σ s]

/-- On a component of the state such a program runs as on the whole. -/
theorem Stateless.zoom_eq (hm : Stateless m) {get : σ → σ'} {put : σ' → σ → σ}
    (hput : ∀ s, put (get s) s = s) : zoom get put id (m σ') = m σ := by
  obtain ⟨r, t, hm⟩ := hm
  funext s
  show (⟨(m σ' (get s)).result, put (m σ' (get s)).state s, (m σ' (get s)).trace.map id⟩ :
    Outcome ε ω σ β) = _
  rw [hm, hm, hput, List.map_id]

end stateless

/-! ## Invariants -/

/-- Started with the invariant `I` of the state and the effects so far, the program has it
again when it returns, and has `J` when it raises. -/
def Preserves (I J : σ → List ω → Prop) (m : Program ε ω σ α) : Prop :=
  ∀ s h, I s h → wp m s fun r s' t =>
    match r with
    | .ok _ => I s' (h ++ t)
    | .error _ => J s' (h ++ t)

section invariants

variable {I J : σ → List ω → Prop}

/-- The invariant survives whether the program returns or raises. -/
theorem preserves_self_iff {m : Program ε ω σ α} :
    Preserves I I m ↔ ∀ s h, I s h → wp m s fun _ s' t => I s' (h ++ t) := by
  constructor
  · intro hm s h hI
    refine wp_mono (hm s h hI) ?_
    rintro (e | a) s' t hI'
    · exact hI'
    · exact hI'
  · intro hm s h hI
    refine wp_mono (hm s h hI) ?_
    rintro (e | a) s' t hI'
    · exact hI'
    · exact hI'

theorem Preserves.pure (a : α) : Preserves I J (pure a : Program ε ω σ α) := by
  intro s h hI
  simpa using hI

theorem Preserves.raise (hIJ : ∀ s h, I s h → J s h) (e : ε) :
    Preserves I J (raise e : Program ε ω σ α) := by
  intro s h hI
  simpa using hIJ s h hI

/-- An exception ends a sequence. -/
theorem Preserves.raise_bind (hIJ : ∀ s h, I s h → J s h) (e : ε) (f : β → Program ε ω σ α) :
    Preserves I J (Program.raise e >>= f) := Preserves.raise hIJ e

theorem Preserves.ofExcept (hIJ : ∀ s h, I s h → J s h) (x : Except ε α) :
    Preserves I J (ofExcept x : Program ε ω σ α) := by
  cases x with
  | ok a => exact Preserves.pure a
  | error e => exact Preserves.raise hIJ e

theorem Preserves.read : Preserves I J (read : Program ε ω σ σ) := by
  intro s h hI
  simpa using hI

theorem Preserves.update {f : σ → σ} (hf : ∀ s h, I s h → I (f s) h) :
    Preserves I J (update f : Program ε ω σ Unit) := by
  intro s h hI
  simpa using hf s h hI

theorem Preserves.emit {w : ω} (hw : ∀ s h, I s h → I s (h ++ [w])) :
    Preserves I J (emit w : Program ε ω σ Unit) := by
  intro s h hI
  simpa using hw s h hI

/-- **Sequencing preserves an invariant.** -/
theorem Preserves.bind {m : Program ε ω σ β} {f : β → Program ε ω σ α} (hm : Preserves I J m)
    (hf : ∀ b, Preserves I J (f b)) : Preserves I J (m >>= f) := by
  intro s h hI
  rw [wp_bind]
  refine wp_mono (hm s h hI) ?_
  rintro (e | b) s' t hI'
  · exact hI'
  · refine wp_mono (hf b s' (h ++ t) hI') ?_
    rintro (e | a) s'' t' hI''
    · rwa [List.append_assoc] at hI''
    · rwa [List.append_assoc] at hI''

/-- An exception that is caught. -/
theorem Preserves.attempt {m : Program ε ω σ α} (hm : Preserves I I m) :
    Preserves I J (attempt m) := by
  intro s h hI
  rw [wp_attempt]
  exact preserves_self_iff.1 hm s h hI

theorem Preserves.ite (c : Prop) [Decidable c] {m m' : Program ε ω σ α} (hm : Preserves I J m)
    (hm' : Preserves I J m') : Preserves I J (if c then m else m') := by
  split
  · exact hm
  · exact hm'

end invariants

end Program
