/-
# Documents with sorted keys

The tools write their documents with `sort_keys=True`, so what is read back has the fields in
another order.

* `Value.lookup_sortKeys` : the fields of a document are found in what was written.
-/
import MatfVpn.JsonValues
import MatfVpn.PythonValue
import Mathlib.Data.String.Basic

namespace MatfVpn

variable {τ : Type}

/-- A field is inserted before the first one that does not come earlier. -/
theorem lookup_orderedInsert {α : Type} (key name : String) (value : α)
    (fields : List (String × α)) :
    (fields.orderedInsert (fun first second => first.1 ≤ second.1) (name, value)).lookup key
      = ((name, value) :: fields).lookup key := by
  induction fields with
  | nil => rfl
  | cons field fields ih =>
    rw [List.orderedInsert_cons]
    split
    · rfl
    · rename_i hlt
      obtain ⟨first, other⟩ := field
      have hne : first ≠ name := fun h => hlt h.symm.le
      rw [List.lookup_cons, ih, List.lookup_cons, List.lookup_cons, List.lookup_cons]
      by_cases hkey : key = name
      · rw [hkey, beq_eq_false_iff_ne.2 hne.symm, beq_self_eq_true]
      · rw [beq_eq_false_iff_ne.2 hkey]

/-- Sorted fields have the same values. -/
theorem lookup_sortFields {α : Type} (key : String) (fields : List (String × α)) :
    (sortFields fields).lookup key = fields.lookup key := by
  induction fields with
  | nil => rfl
  | cons field fields ih =>
    obtain ⟨name, value⟩ := field
    have hsorted : sortFields ((name, value) :: fields) = (sortFields fields).orderedInsert
      (fun first second => first.1 ≤ second.1) (name, value) := rfl
    rw [hsorted, lookup_orderedInsert, List.lookup_cons, List.lookup_cons, ih]

namespace Value

mutual

/-- What `json.loads` returns for a value that was written with `sort_keys=True`. -/
def sortKeys : Value τ → Value τ
  | list items => list (sortKeysItems items)
  | dict fields => dict (sortFields (sortKeysFields fields))
  | value => value

def sortKeysItems : List (Value τ) → List (Value τ)
  | [] => []
  | item :: items => sortKeys item :: sortKeysItems items

def sortKeysFields : List (String × Value τ) → List (String × Value τ)
  | [] => []
  | (key, value) :: fields => (key, sortKeys value) :: sortKeysFields fields

end

theorem sortKeysItems_eq (items : List (Value τ)) : sortKeysItems items = items.map sortKeys := by
  induction items with
  | nil => rfl
  | cons item items ih => rw [sortKeysItems, ih, List.map_cons]

/-- **The fields** of what was written are those of the document. -/
theorem lookup_sortKeys (key : String) (fields : List (String × Value τ)) :
    (sortFields (sortKeysFields fields)).lookup key = (fields.lookup key).map sortKeys := by
  rw [lookup_sortFields]
  induction fields with
  | nil => rfl
  | cons field fields ih =>
    obtain ⟨name, value⟩ := field
    rw [sortKeysFields, List.lookup_cons, List.lookup_cons, ih]
    cases key == name <;> rfl

theorem item_sortKeys (key : String) (value : Value τ) :
    value.sortKeys.item key = (value.item key).map sortKeys := by
  cases value with
  | dict fields =>
    rw [sortKeys, item, item, lookup_sortKeys]
    cases fields.lookup key <;> rfl
  | _ => rfl

theorem get?_sortKeys (key : String) (value : Value τ) :
    value.sortKeys.get? key = (value.get? key).map (Option.map sortKeys) := by
  cases value with
  | dict fields =>
    rw [sortKeys, get?, lookup_sortKeys]
    rfl
  | _ => rfl

theorem contains_sortKeys (key : String) (fields : List (String × Value τ)) :
    (dict fields).sortKeys.contains key = (dict fields).contains key := by
  rw [sortKeys, contains, contains, lookup_sortKeys, Option.isSome_map]

theorem sortKeys_list (items : List (Value τ)) :
    (list items).sortKeys = list (items.map sortKeys) := by
  rw [sortKeys, sortKeysItems_eq]

end Value

end MatfVpn
