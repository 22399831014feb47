/-
# Histories

Properties of a history that relate every event to the events before it, such as
"whatever is received was sent before".

* `Each.of_append` : they hold of every prefix of a history;
* `each_concat_iff` : a history grows by one event;
* `nodup_filterMap_iff` : distinct values, as a property of every event.
-/
import Mathlib.Data.Nat.Notation
import Mathlib.Data.List.Basic
import Mathlib.Data.List.Induction
import Mathlib.Data.List.Nodup

namespace History

variable {α : Type} {R : List α → α → Prop} {s t : List α} {a : α}

/-- Every event of the history is related to the list of the events before it. -/
def Each (R : List α → α → Prop) (l : List α) : Prop :=
  ∀ before a after, l = before ++ a :: after → R before a

/-- The last event of a prefix. -/
theorem Each.at (h : Each R (s ++ a :: t)) : R s a := h s a t rfl

theorem Each.nil : Each R [] := by
  intro before a after h
  simp at h

/-- The property holds of every prefix. -/
theorem Each.of_append (h : Each R (s ++ t)) : Each R s := by
  intro before a after hs
  refine h before a (after ++ t) ?_
  rw [hs, List.append_assoc, List.cons_append]

/-- **One more event.** -/
theorem each_concat_iff : Each R (s ++ [a]) ↔ Each R s ∧ R s a := by
  constructor
  · exact fun h => ⟨h.of_append, h.at⟩
  · rintro ⟨hs, ha⟩ before b after hl
    rcases List.eq_nil_or_concat' after with rfl | ⟨after, c, rfl⟩
    · obtain ⟨rfl, hab⟩ := List.append_inj' hl rfl
      rw [List.singleton_inj] at hab
      rwa [← hab]
    · rw [← List.cons_append, ← List.append_assoc] at hl
      exact hs before b after (List.append_inj' hl rfl).1

/-- **More events.** -/
theorem each_append_iff :
    Each R (s ++ t) ↔ Each R s ∧ Each (fun before b => R (s ++ before) b) t := by
  induction t using List.reverseRecOn with
  | nil =>
      rw [List.append_nil]
      exact ⟨fun h => ⟨h, Each.nil⟩, fun h => h.1⟩
  | append_singleton t b ih =>
      rw [← List.append_assoc, each_concat_iff, each_concat_iff, ih, and_assoc]

/-- A weaker relation holds of the same histories. -/
theorem Each.mono {R' : List α → α → Prop} (h : Each R s) (hR : ∀ l a, R l a → R' l a) :
    Each R' s := fun before a after hs => hR before a (h before a after hs)

/-- **No repetition.** The values of a history are distinct when none is a value of an earlier
event. -/
theorem nodup_filterMap_iff {β : Type} {f : α → Option β} {l : List α} :
    (l.filterMap f).Nodup
      ↔ Each (fun before a => ∀ b, f a = some b → b ∉ before.filterMap f) l := by
  induction l using List.reverseRecOn with
  | nil => exact ⟨fun _ => Each.nil, fun _ => List.nodup_nil⟩
  | append_singleton l a ih =>
      rw [each_concat_iff, ← ih, List.filterMap_append]
      rcases ha : f a with - | b
      · simp [ha]
      · rw [show [a].filterMap f = [b] by simp [ha], List.nodup_append]
        constructor
        · rintro ⟨hl, -, hdisjoint⟩
          refine ⟨hl, fun c hc hmem => ?_⟩
          rw [← Option.some.inj hc] at hmem
          exact hdisjoint b hmem b (List.mem_singleton_self b) rfl
        · rintro ⟨hl, hb⟩
          refine ⟨hl, List.nodup_singleton b, fun c hc d hd hcd => ?_⟩
          rw [hcd, List.mem_singleton.1 hd] at hc
          exact hb b rfl hc

/-- The property looks at every position of the history. -/
theorem each_iff_getElem {l : List α} :
    Each R l ↔ ∀ i, (hi : i < l.length) → R (l.take i) (l.get ⟨i, hi⟩) := by
  constructor
  · intro h i hi
    refine h _ _ (l.drop (i + 1)) ?_
    rw [List.get_eq_getElem, ← List.drop_eq_getElem_cons hi, List.take_append_drop]
  · rintro h before a after rfl
    have := h before.length (by simp)
    simpa using this

instance [∀ l a, Decidable (R l a)] (l : List α) : Decidable (Each R l) :=
  decidable_of_iff _ each_iff_getElem.symm

end History
