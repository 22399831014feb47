/-
# Two runs that look alike

A relation between the states of two runs of a program, and which of the effects are
visible, say when the runs look alike: they end with the same result, in related states,
after the same visible effects.

* `Like.bind`, `Like.zoom` : the rules follow the structure of a program;
* `Thinned` : inputs of a machine with some of them changed or left out;
* `Thinned.alike` : when that cannot be seen in one step, it cannot be seen in a run.
-/
import MatfVpn.Lib.Program
import Mathlib.Data.List.Basic

namespace Program

variable {ε ω ω' σ σ' α β ι : Type}

/-- Two outcomes look alike. -/
structure Like (R : σ → σ → Prop) (visible : ω → Bool) (o o' : Outcome ε ω σ α) : Prop where
  result : o.result = o'.result
  state : R o.state o'.state
  trace : o.trace.filter visible = o'.trace.filter visible

/-! ## Rules -/

section rules

variable {R : σ → σ → Prop} {visible : ω → Bool} {s s' : σ}

theorem Like.pure (h : R s s') (a : α) :
    Like R visible ((pure a : Program ε ω σ α) s) ((pure a : Program ε ω σ α) s') :=
  ⟨rfl, h, rfl⟩

theorem Like.raise (h : R s s') (e : ε) :
    Like R visible ((raise e : Program ε ω σ α) s) ((raise e : Program ε ω σ α) s') :=
  ⟨rfl, h, rfl⟩

theorem Like.ofExcept (h : R s s') (x : Except ε α) :
    Like R visible ((ofExcept x : Program ε ω σ α) s) ((ofExcept x : Program ε ω σ α) s') := by
  cases x with
  | ok a => exact Like.pure h a
  | error e => exact Like.raise h e

theorem Like.update {f g : σ → σ} (h : R (f s) (g s')) :
    Like R visible ((update f : Program ε ω σ Unit) s) ((update g : Program ε ω σ Unit) s') :=
  ⟨rfl, h, rfl⟩

theorem Like.emit (h : R s s') (w : ω) :
    Like R visible ((emit w : Program ε ω σ Unit) s) ((emit w : Program ε ω σ Unit) s') :=
  ⟨rfl, h, rfl⟩

/-- Effects that nobody sees may differ. -/
theorem Like.emit_hidden (h : R s s') {w w' : ω} (hw : visible w = false)
    (hw' : visible w' = false) :
    Like R visible ((Program.emit w : Program ε ω σ Unit) s)
      ((Program.emit w' : Program ε ω σ Unit) s') := by
  refine ⟨rfl, h, ?_⟩
  show [w].filter visible = [w'].filter visible
  rw [List.filter_cons_of_neg (by simp [hw]), List.filter_cons_of_neg (by simp [hw'])]

/-- **Sequencing.** The second programs run from what the first ones leave. -/
theorem Like.bind {m m' : Program ε ω σ β} {f f' : β → Program ε ω σ α}
    (h : Like R visible (m s) (m' s'))
    (hf : ∀ b t, (m s).result = .ok b → R (m s).state t →
      Like R visible (f b (m s).state) (f' b t)) :
    Like R visible ((m >>= f) s) ((m' >>= f') s') := by
  simp only [Bind.bind]
  rcases hm : m s with ⟨r, s₁, t₁⟩
  rcases hm' : m' s' with ⟨r', s₁', t₁'⟩
  rw [hm, hm'] at h
  obtain ⟨hresult, hstate, htrace⟩ := h
  simp only at hresult hstate htrace
  subst hresult
  cases r with
  | error e => exact ⟨rfl, hstate, htrace⟩
  | ok b =>
      rw [hm] at hf
      obtain ⟨hresult', hstate', htrace'⟩ := hf b s₁' rfl hstate
      refine ⟨hresult', hstate', ?_⟩
      simp only [Outcome.after, List.filter_append]
      rw [htrace, htrace']

/-- The programs read their states. -/
theorem Like.read_bind {f f' : σ → Program ε ω σ α} (h : Like R visible (f s s) (f' s' s')) :
    Like R visible ((Program.read >>= f) s) ((Program.read >>= f') s') := h

/-- An exception ends a sequence. -/
theorem Like.raise_bind (h : R s s') (e : ε) (f f' : β → Program ε ω σ α) :
    Like R visible ((Program.raise e >>= f) s) ((Program.raise e >>= f') s') := Like.raise h e

theorem Like.attempt {m m' : Program ε ω σ α} (h : Like R visible (m s) (m' s')) :
    Like R visible (Program.attempt m s) (Program.attempt m' s') :=
  ⟨congrArg Except.ok h.result, h.state, h.trace⟩

/-- Runs on a component of the state. -/
theorem Like.zoom {get get' : σ → σ'} {put put' : σ' → σ → σ} {lift : ω' → ω}
    {R' : σ' → σ' → Prop} {m m' : Program ε ω' σ' α}
    (h : Like R' (fun w => visible (lift w)) (m (get s)) (m' (get' s')))
    (hput : ∀ c c', R' c c' → R (put c s) (put' c' s')) :
    Like R visible (Program.zoom get put lift m s) (Program.zoom get' put' lift m' s') := by
  refine ⟨h.result, hput _ _ h.state, ?_⟩
  show (List.map lift _).filter visible = (List.map lift _).filter visible
  rw [List.filter_map, List.filter_map]
  exact congrArg (List.map lift) h.trace

end rules

/-! ## Machines -/

/-- A step for every input, until one raises. -/
def steps (step : ι → Program ε ω σ β) : List ι → Program ε ω σ Unit
  | [] => pure ()
  | x :: l => do
      let _ ← step x
      steps step l

/-- The second inputs are the first ones with some of them changed or left out, where `hidden`
says when, in the state of the first run. -/
inductive Thinned (step : ι → Program ε ω σ β) (hidden : σ → ι → Option ι → Prop) :
    σ → List ι → List ι → Prop
  | nil (s : σ) : Thinned step hidden s [] []
  | keep {s : σ} {l l' : List ι} (x : ι) : Thinned step hidden (step x s).state l l' →
      Thinned step hidden s (x :: l) (x :: l')
  | change {s : σ} {l l' : List ι} (x y : ι) : hidden s x (some y) →
      Thinned step hidden (step x s).state l l' → Thinned step hidden s (x :: l) (y :: l')
  | drop {s : σ} {l l' : List ι} (x : ι) : hidden s x none →
      Thinned step hidden (step x s).state l l' → Thinned step hidden s (x :: l) l'

/-- **Hidden inputs stay hidden.** When two related states look alike after the same input, and
after one that was changed or left out, two runs look alike. -/
theorem Thinned.alike {step : ι → Program ε ω σ β} {hidden : σ → ι → Option ι → Prop}
    {R : σ → σ → Prop} {visible : ω → Bool}
    (hkeep : ∀ s s' x, R s s' → Like R visible (step x s) (step x s'))
    (hchange : ∀ s s' x y, R s s' → hidden s x (some y) →
      Like R visible (step x s) (step y s'))
    (hdrop : ∀ s s' x, R s s' → hidden s x none → wp (step x) s fun r t trace =>
      (∃ b, r = .ok b) ∧ R t s' ∧ trace.filter visible = [])
    {s s' : σ} {l l' : List ι} (h : Thinned step hidden s l l') (hs : R s s') :
    Like R visible (steps step l s) (steps step l' s') := by
  induction h generalizing s' with
  | nil s => exact Like.pure hs ()
  | keep x _ ih => exact Like.bind (hkeep _ _ x hs) fun _ _ _ ht => ih ht
  | change x y hidden _ ih => exact Like.bind (hchange _ _ x y hs hidden) fun _ _ _ ht => ih ht
  | @drop s l l' x hidden _ ih =>
      obtain ⟨⟨b, hok⟩, hstate, htrace⟩ := hdrop _ _ x hs hidden
      obtain ⟨hresult, hend, heffects⟩ := ih hstate
      have hx : step x s = ⟨.ok b, (step x s).state, (step x s).trace⟩ := by
        rw [← show (step x s).result = .ok b from hok]
      rw [steps, bind_of_ok hx]
      refine ⟨hresult, hend, ?_⟩
      show ((step x s).trace ++ _).filter visible = _
      rw [List.filter_append, htrace, List.nil_append, heffects]

end Program
