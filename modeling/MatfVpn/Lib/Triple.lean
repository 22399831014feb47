/-
# Triples about a program and what happened before it

A triple says what a program makes of the state and of all the effects so far: one assertion
for every value that it returns, and one for its exceptions.

* `Triple.bind` : what holds in between is proved once;
* `Triple.attempt`, `Triple.lift` : exceptions that are caught, and effects of another program.
-/
import MatfVpn.Lib.Program

namespace Program

variable {ε ω ω' σ α β : Type} {I : σ → List ω → Prop} {K : α → σ → List ω → Prop}
  {J : σ → List ω → Prop}

/-- Started with `I` of the state and the effects so far, the program has `K` of its value when
it returns, and `J` when it raises. -/
def Triple (I : σ → List ω → Prop) (m : Program ε ω σ α) (K : α → σ → List ω → Prop)
    (J : σ → List ω → Prop) : Prop :=
  ∀ s h, I s h → wp m s fun r s' t =>
    match r with
    | .ok a => K a s' (h ++ t)
    | .error _ => J s' (h ++ t)

theorem Triple.mono {m : Program ε ω σ α} {K' : α → σ → List ω → Prop} {J' : σ → List ω → Prop}
    (h : Triple I m K J) (hK : ∀ a s t, K a s t → K' a s t) (hJ : ∀ s t, J s t → J' s t) :
    Triple I m K' J' := by
  intro s t hI
  refine wp_mono (h s t hI) ?_
  rintro (e | a) s' t' hend
  · exact hJ _ _ hend
  · exact hK _ _ _ hend

theorem Triple.pure {a : α} (h : ∀ s t, I s t → K a s t) :
    Triple I (pure a : Program ε ω σ α) K J := by
  intro s t hI
  rw [wp_pure, List.append_nil]
  exact h s t hI

theorem Triple.raise (h : ∀ s t, I s t → J s t) (e : ε) :
    Triple I (raise e : Program ε ω σ α) K J := by
  intro s t hI
  rw [wp_raise, List.append_nil]
  exact h s t hI

theorem Triple.ofExcept {x : Except ε α} (hok : ∀ a s t, x = .ok a → I s t → K a s t)
    (herror : ∀ s t, I s t → J s t) : Triple I (ofExcept x : Program ε ω σ α) K J := by
  cases x with
  | ok a => exact Triple.pure fun s t => hok a s t rfl
  | error e => exact Triple.raise herror e

theorem Triple.emit {w : ω} {K : Unit → σ → List ω → Prop}
    (h : ∀ s t, I s t → K () s (t ++ [w])) :
    Triple I (emit w : Program ε ω σ Unit) K J := fun s t hI => h s t hI

/-- **Sequencing.** -/
theorem Triple.bind {m : Program ε ω σ β} {f : β → Program ε ω σ α}
    {L : β → σ → List ω → Prop} (hm : Triple I m L J) (hf : ∀ b, Triple (L b) (f b) K J) :
    Triple I (m >>= f) K J := by
  intro s t hI
  rw [wp_bind]
  refine wp_mono (hm s t hI) ?_
  rintro (e | b) s' t' hL
  · exact hL
  · refine wp_mono (hf b s' (t ++ t') hL) ?_
    rintro (e | a) s'' t'' hK
    · rwa [List.append_assoc] at hK
    · rwa [List.append_assoc] at hK

theorem Triple.ite (c : Prop) [Decidable c] {m m' : Program ε ω σ α} (hm : Triple I m K J)
    (hm' : Triple I m' K J) : Triple I (if c then m else m') K J := by
  split
  · exact hm
  · exact hm'

/-- **Exceptions that are caught**: what holds after the program holds of its result. -/
theorem Triple.attempt {m : Program ε ω σ α} {J' : σ → List ω → Prop} (h : Triple I m K J) :
    Triple I (attempt m) (fun r s t =>
      match r with
      | .ok a => K a s t
      | .error _ => J s t) J' := by
  intro s t hI
  rw [wp_attempt]
  refine wp_mono (h s t hI) ?_
  rintro (e | a) s' t' hr
  · exact hr
  · exact hr

/-- A program whose own effects are known. -/
theorem Triple.lift {f : ω' → ω} {m : Program ε ω' σ α}
    {Q : Except ε α → σ → List ω' → Prop} (hm : ∀ s, wp m s Q)
    (hok : ∀ s t a s' t', I s t → Q (.ok a) s' t' → K a s' (t ++ t'.map f))
    (herror : ∀ s t e s' t', I s t → Q (.error e) s' t' → J s' (t ++ t'.map f)) :
    Triple I (lift f m) K J := by
  intro s t hI
  rw [wp_lift]
  refine wp_mono (hm s) ?_
  rintro (e | a) s' t' hr
  · exact herror s t e s' t' hI hr
  · exact hok s t a s' t' hI hr

end Program
