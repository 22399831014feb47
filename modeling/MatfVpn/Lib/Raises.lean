/-
# The exceptions of a computation

`Raises p x` : the computation `x` returns, or raises an exception that satisfies `p`.

* `Raises.bind` : the exceptions of a sequence;
* `Raises.error_bind`, `Raises.ite` : checks that raise.
-/
import Mathlib.Data.Nat.Notation

/-- Every exception of the computation satisfies `p`. -/
def Raises {ε α : Type} (p : ε → Prop) (x : Except ε α) : Prop := ∀ e, x = .error e → p e

section rules

variable {ε α β : Type} {p : ε → Prop}

theorem Raises.ok (a : α) : Raises p (.ok a : Except ε α) := fun e h => by cases h

theorem Raises.error {e : ε} (h : p e) : Raises p (.error e : Except ε α) := by
  intro e' he
  rwa [← Except.error.inj he]

/-- **Sequencing.** -/
theorem Raises.bind {x : Except ε α} {f : α → Except ε β} (hx : Raises p x)
    (hf : ∀ a, Raises p (f a)) : Raises p (x >>= f) := by
  cases x with
  | error e => exact Raises.error (hx e rfl)
  | ok a => exact hf a

/-- An exception ends a sequence. -/
theorem Raises.error_bind {e : ε} (h : p e) (f : α → Except ε β) :
    Raises p (.error e >>= f) := Raises.error h

theorem Raises.ite {c : Prop} [Decidable c] {x y : Except ε α} (hx : Raises p x)
    (hy : Raises p y) : Raises p (if c then x else y) := by
  split
  · exact hx
  · exact hy

theorem Raises.mono {q : ε → Prop} {x : Except ε α} (h : Raises p x) (hpq : ∀ e, p e → q e) :
    Raises q x := fun e he => hpq e (h e he)

end rules
