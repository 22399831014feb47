/-
# Heartbeats

A sender sends at least once in every interval, the network delivers within a delay, and a
receiver remembers when it last heard something.  Times form an ordered group.

* `Spaced` : what the sender promises, for the times of what it has sent so far;
* `Spaced.in_time` : the receiver has heard something within the interval and the delay.
-/
import Mathlib.Algebra.Order.Group.Defs
import Mathlib.Algebra.Order.Group.Unbundled.Basic
import Mathlib.Algebra.Order.Group.MinMax
import Mathlib.Tactic.Abel

namespace Heartbeat

variable {τ : Type} [AddCommGroup τ] [LinearOrder τ] [IsOrderedAddMonoid τ]

/-- After every time from the start on, something was sent within the interval, or the next
beat is due by then. -/
def Spaced (interval start next : τ) (times : List τ) : Prop :=
  ∀ x, start ≤ x → (∃ s ∈ times, x < s ∧ s ≤ x + interval) ∨ next ≤ x + interval

section sender

variable {interval start next : τ} {times : List τ}

/-- A sender that has just started. -/
theorem spaced_new (interval start : τ) : Spaced interval start (start + interval) [] := by
  intro x hx
  exact Or.inr (add_le_add_left hx interval)

omit [IsOrderedAddMonoid τ] in
/-- More may be sent at any time. -/
theorem Spaced.append (h : Spaced interval start next times) (more : List τ) :
    Spaced interval start next (times ++ more) := by
  intro x hx
  rcases h x hx with ⟨s, hs, hlt, hle⟩ | hnext
  · exact Or.inl ⟨s, List.mem_append_left _ hs, hlt, hle⟩
  · exact Or.inr hnext

/-- The beat that is due is sent, and the next one is due an interval later. -/
theorem Spaced.beat (h : Spaced interval start next times) (hnext : next ∈ times) :
    Spaced interval start (next + interval) times := by
  intro x hx
  rcases h x hx with hsent | hdue
  · exact Or.inl hsent
  · rcases lt_or_ge x next with hlt | hge
    · exact Or.inl ⟨next, hnext, hlt, hdue⟩
    · exact Or.inr (add_le_add_left hge interval)

end sender

/-- **The receiver hears something in time.** Everything that was sent after it last heard
something is still on its way, for at most the delay after it was sent and the receiver started. -/
theorem Spaced.in_time {interval start start' next now last delay limit : τ} {times : List τ}
    (h : Spaced interval start next times) (hdue : now ≤ next) (hdelay : 0 ≤ delay)
    (hstart : start' ≤ last)
    (hway : ∀ s ∈ times, last < s → now ≤ max s start' + delay)
    (hlimit : interval + delay + max 0 (start - start') < limit) : now - last < limit := by
  -- something is sent, or due, within the interval after both started
  have hnow : now ≤ max last start + interval + delay := by
    rcases h (max last start) (le_max_right _ _) with ⟨s, hs, hlt, hle⟩ | hnext
    · have hlast : last < s := lt_of_le_of_lt (le_max_left _ _) hlt
      have hmax : max s start' = s := max_eq_left (hstart.trans hlast.le)
      calc now ≤ max s start' + delay := hway s hs hlast
        _ = s + delay := by rw [hmax]
        _ ≤ max last start + interval + delay := add_le_add_left hle delay
    · calc now ≤ next := hdue
        _ ≤ max last start + interval := hnext
        _ ≤ max last start + interval + delay := le_add_of_nonneg_right hdelay
  have hgap : max last start - last ≤ max 0 (start - start') := by
    rw [← max_sub_sub_right, sub_self]
    exact max_le_max_left 0 (sub_le_sub_left hstart start)
  calc now - last ≤ max last start + interval + delay - last := sub_le_sub_right hnow last
    _ = interval + delay + (max last start - last) := by abel
    _ ≤ interval + delay + max 0 (start - start') := by gcongr
    _ < limit := hlimit

end Heartbeat
