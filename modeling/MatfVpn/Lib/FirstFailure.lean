/-
# Items that are taken until one fails

A loop takes the items of a list one after the other and ends at the first that fails.  `taken`
are the items that it takes, the failing one included, and `failure` is how that one fails.

* `taken_append` : items that follow on others;
* `filterMap_taken_iff` : nothing is lost exactly when nothing comes after an item that fails.
-/
import Mathlib.Data.List.Basic

namespace FirstFailure

variable {α β ε : Type} (fails : α → Option ε)

/-- How the first item that fails does. -/
def failure (items : List α) : Option ε := items.findSome? fails

/-- The items up to the first that fails. -/
def taken : List α → List α
  | [] => []
  | a :: items => a :: if (fails a).isSome then [] else taken items

variable {fails} {items more : List α} {a : α}

@[simp] theorem failure_nil : failure fails [] = none := rfl

theorem failure_append : failure fails (items ++ more)
    = (failure fails items).or (failure fails more) := List.findSome?_append

theorem failure_singleton : failure fails [a] = fails a := List.findSome?_singleton

theorem failure_eq_none_iff : failure fails items = none ↔ ∀ a ∈ items, fails a = none :=
  List.findSome?_eq_none_iff

@[simp] theorem taken_nil : taken fails [] = [] := rfl

theorem taken_singleton : taken fails [a] = [a] := by
  rw [taken]
  split <;> rfl

/-- **A list that goes on** is taken further if nothing in it has failed. -/
theorem taken_append : taken fails (items ++ more)
    = taken fails items ++ if (failure fails items).isSome then [] else taken fails more := by
  induction items with
  | nil => rfl
  | cons a items ih =>
    rw [List.cons_append, taken, taken, failure, List.findSome?_cons]
    cases hfails : fails a with
    | some e => rfl
    | none =>
      rw [ih]
      rfl

/-- Without a failure every item is taken. -/
theorem taken_of_failure_eq_none (h : failure fails items = none) : taken fails items = items := by
  induction items with
  | nil => rfl
  | cons a items ih =>
    rw [failure_eq_none_iff, List.forall_mem_cons] at h
    rw [taken, h.1, ih (failure_eq_none_iff.2 h.2)]
    rfl

theorem failure_map (g : β → α) (items : List β) :
    failure fails (items.map g) = failure (fun b => fails (g b)) items := List.findSome?_map

theorem taken_map (g : β → α) (items : List β) :
    taken fails (items.map g) = (taken (fun b => fails (g b)) items).map g := by
  induction items with
  | nil => rfl
  | cons b items ih =>
    rw [List.map_cons, taken, taken, List.map_cons, ih]
    split <;> rfl

/-- The list is what is taken, and the rest after a failure. -/
theorem exists_rest (fails : α → Option ε) (items : List α) : ∃ rest,
    items = taken fails items ++ rest ∧ (rest ≠ [] → (failure fails items).isSome = true) := by
  induction items with
  | nil => exact ⟨[], rfl, fun h => absurd rfl h⟩
  | cons a items ih =>
    rw [taken, failure, List.findSome?_cons]
    cases hfails : fails a with
    | some e => exact ⟨items, rfl, fun _ => rfl⟩
    | none =>
      obtain ⟨rest, hitems, hrest⟩ := ih
      exact ⟨rest, congrArg (a :: ·) hitems, hrest⟩

/-- **Nothing is lost** of what `f` selects exactly when it selects nothing after an item that
fails. -/
theorem filterMap_taken_iff (f : α → Option β) : (taken fails items).filterMap f
      = items.filterMap f ↔
    ∀ before a after, items = before ++ a :: after → (fails a).isSome = true →
      ∀ b ∈ after, f b = none := by
  induction items with
  | nil =>
    refine iff_of_true rfl ?_
    intro before a after h
    exact absurd h (by simp)
  | cons a items ih =>
    rw [taken]
    cases hfails : fails a with
    | some e =>
      have hsplit : (a :: items).filterMap f = [a].filterMap f ++ items.filterMap f := by
        rw [← List.filterMap_append, List.singleton_append]
      show [a].filterMap f = (a :: items).filterMap f ↔ _
      rw [hsplit, List.self_eq_append_right, List.filterMap_eq_nil_iff]
      constructor
      · intro hitems before a' after h _ b hb
        cases before with
        | nil =>
          obtain ⟨-, rfl⟩ := List.cons_eq_cons.1 h
          exact hitems b hb
        | cons _ before =>
          obtain ⟨-, rfl⟩ := List.cons_eq_cons.1 h
          exact hitems b (List.mem_append_right before (List.mem_cons_of_mem a' hb))
      · intro hall b hb
        exact hall [] a items rfl (by rw [hfails]; rfl) b hb
    | none =>
      have hcons : (a :: taken fails items).filterMap f = (a :: items).filterMap f ↔
          (taken fails items).filterMap f = items.filterMap f := by
        rw [List.filterMap_cons, List.filterMap_cons]
        cases f a with
        | none => exact Iff.rfl
        | some b => exact ⟨fun h => (List.cons_eq_cons.1 h).2, fun h => congrArg (b :: ·) h⟩
      show (a :: taken fails items).filterMap f = _ ↔ _
      rw [hcons, ih]
      constructor
      · intro hall before a' after h ha'
        cases before with
        | nil =>
          obtain ⟨rfl, -⟩ := List.cons_eq_cons.1 h
          rw [hfails] at ha'
          cases ha'
        | cons _ before =>
          obtain ⟨-, hitems⟩ := List.cons_eq_cons.1 h
          exact hall before a' after hitems ha'
      · intro hall before a' after h ha'
        exact hall (a :: before) a' after (congrArg (a :: ·) h) ha'

end FirstFailure
