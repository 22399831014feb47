/-
# Programs with effects left out

A program that does more than another one may be the same program with effects in between that
nobody else notices.

* `Erases` : without its hidden effects, the one program is the other;
* `Erases.bind`, `Erases.lift`, `Erases.hidden_bind` : the rules follow the structure of a
  program.
-/
import MatfVpn.Lib.Triple
import Mathlib.Data.List.Basic

namespace Program

variable {ε ω ω' σ α β : Type} {visible : ω → Option ω'}

/-- Without its hidden effects, `m` is `m'`. -/
def Erases (visible : ω → Option ω') (m : Program ε ω σ α) (m' : Program ε ω' σ α) : Prop :=
  ∀ s, wp m s fun r s₁ t => m' s = ⟨r, s₁, t.filterMap visible⟩

theorem Erases.pure (a : α) :
    Erases visible (pure a : Program ε ω σ α) (pure a : Program ε ω' σ α) := fun _ => rfl

theorem Erases.raise (e : ε) :
    Erases visible (raise e : Program ε ω σ α) (raise e : Program ε ω' σ α) := fun _ => rfl

theorem Erases.ofExcept (x : Except ε α) :
    Erases visible (ofExcept x : Program ε ω σ α) (ofExcept x : Program ε ω' σ α) := by
  cases x with
  | ok a => exact Erases.pure a
  | error e => exact Erases.raise e

/-- Effects that are shown are the effects of the program. -/
theorem Erases.lift {f : ω' → ω} (h : ∀ w, visible (f w) = some w) (m : Program ε ω' σ α) :
    Erases visible (lift f m) m := by
  intro s
  rw [wp_lift]
  show m s = ⟨_, _, ((m s).trace.map f).filterMap visible⟩
  rw [List.filterMap_map, show visible ∘ f = some from funext h, List.filterMap_some]

/-- **Sequencing.** -/
theorem Erases.bind {m : Program ε ω σ β} {m' : Program ε ω' σ β} {f : β → Program ε ω σ α}
    {f' : β → Program ε ω' σ α} (hm : Erases visible m m')
    (hf : ∀ b, Erases visible (f b) (f' b)) : Erases visible (m >>= f) (m' >>= f') := by
  intro s
  rw [wp_bind]
  refine wp_mono (hm s) ?_
  rintro (e | b) s₁ t hm'
  · exact bind_of_error hm' f'
  · refine wp_mono (hf b s₁) ?_
    rintro r s₂ t' hf'
    rw [bind_of_ok hm' f', hf', Outcome.after, List.filterMap_append]

/-- **An effect in between** that is hidden. -/
theorem Erases.hidden_bind {w : ω} (hw : visible w = none) {f : Unit → Program ε ω σ α}
    {m' : Program ε ω' σ α} (h : Erases visible (f ()) m') :
    Erases visible (emit w >>= f) m' := by
  intro s
  rw [wp_emit_bind]
  refine wp_mono (h s) ?_
  intro r s₁ t ht
  rw [List.filterMap_cons_none hw]
  exact ht

/-- An exception that is caught on both sides. -/
theorem Erases.attempt {m : Program ε ω σ α} {m' : Program ε ω' σ α} (h : Erases visible m m') :
    Erases visible (attempt m) (attempt m') := by
  intro s
  rw [wp_attempt]
  refine wp_mono (h s) ?_
  intro r s₁ t ht
  rw [Program.attempt, ht]

theorem Erases.ite (c : Prop) [Decidable c] {m n : Program ε ω σ α} {m' n' : Program ε ω' σ α}
    (hm : Erases visible m m') (hn : Erases visible n n') :
    Erases visible (if c then m else n) (if c then m' else n') := by
  split
  · exact hm
  · exact hn

/-- **What is hidden leaves the visible effects alone.** -/
theorem Erases.triple {m : Program ε ω σ α} {m' : Program ε ω' σ α} (h : Erases visible m m')
    (hnone : ∀ s, (m' s).trace = []) (Q : List ω' → Prop) :
    Triple (fun _ t => Q (t.filterMap visible)) m (fun _ _ t => Q (t.filterMap visible))
      (fun _ t => Q (t.filterMap visible)) := by
  intro s t hQ
  refine wp_mono (h s) ?_
  intro r s₁ t' heq
  have hhidden : t'.filterMap visible = [] := by
    have htrace := hnone s
    rw [heq] at htrace
    exact htrace
  have hgoes : Q ((t ++ t').filterMap visible) := by
    rwa [List.filterMap_append, hhidden, List.append_nil]
  rcases r with e | a
  · exact hgoes
  · exact hgoes

end Program
