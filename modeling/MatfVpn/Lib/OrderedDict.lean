/-
# Insertion-ordered dictionaries

A dictionary that keeps its entries in insertion order and holds every key at
most once, with the operations of Python's `dict` and `OrderedDict`: lookup,
assignment, removal, `move_to_end` and `popitem(last=False)`.

The uniqueness of the keys is a field of the structure, so a lookup is the same
as membership of the entry (`get?_eq_some_iff`) and every operation is described
by the entries it leaves.
-/
import Mathlib.Data.Nat.Notation
import Mathlib.Data.List.Nodup

/-- A dictionary with its entries in insertion order. -/
structure OrderedDict (κ β : Type) where
  entries : List (κ × β)
  nodup_keys : (entries.map Prod.fst).Nodup

namespace OrderedDict

variable {κ β : Type} [DecidableEq κ]

/-! ## Operations -/

/-- The dictionary without entries. -/
def empty : OrderedDict κ β := ⟨[], List.nodup_nil⟩

/-- The keys in insertion order. -/
def keys (d : OrderedDict κ β) : List κ := d.entries.map Prod.fst

/-- The number of entries. -/
def size (d : OrderedDict κ β) : ℕ := d.entries.length

/-- `d.get(k)`. -/
def get? (d : OrderedDict κ β) (k : κ) : Option β := d.entries.lookup k

/-- `k in d`. -/
def contains (d : OrderedDict κ β) (k : κ) : Bool := (d.get? k).isSome

/-- The entries of every key but `k`. -/
def without (d : OrderedDict κ β) (k : κ) : List (κ × β) :=
  d.entries.filter (fun e => e.1 ≠ k)

omit [DecidableEq κ] in
/-- Keys stay distinct when entries are removed. -/
theorem nodup_keys_of_sublist (d : OrderedDict κ β) {l : List (κ × β)}
    (h : l.Sublist d.entries) : (l.map Prod.fst).Nodup :=
  (h.map Prod.fst).nodup d.nodup_keys

/-- An entry appended for a key that was filtered out keeps the keys distinct. -/
theorem nodup_keys_without_append (d : OrderedDict κ β) (k : κ) (v : β) :
    ((d.without k ++ [(k, v)]).map Prod.fst).Nodup := by
  rw [List.map_append, List.nodup_append]
  refine ⟨d.nodup_keys_of_sublist List.filter_sublist, by simp, ?_⟩
  intro a ha b hb
  obtain ⟨e, he, rfl⟩ := List.mem_map.1 ha
  have hne : e.1 ≠ k := by simpa using (List.mem_filter.1 he).2
  simp only [List.map_cons, List.map_nil, List.mem_singleton] at hb
  rw [hb]
  exact hne

/-- `d.pop(k, None)`: the dictionary without the entry of `k`. -/
def erase (d : OrderedDict κ β) (k : κ) : OrderedDict κ β :=
  ⟨d.without k, d.nodup_keys_of_sublist List.filter_sublist⟩

/-- The entries with the value of `k` replaced in place. -/
def replaced (d : OrderedDict κ β) (k : κ) (v : β) : List (κ × β) :=
  d.entries.map (fun e => (e.1, if e.1 = k then v else e.2))

theorem map_fst_replaced (d : OrderedDict κ β) (k : κ) (v : β) :
    (d.replaced k v).map Prod.fst = d.keys := by
  rw [replaced, List.map_map]
  rfl

/-- `d[k] = v`: an existing key keeps its place, a new key goes to the end. -/
def insert (d : OrderedDict κ β) (k : κ) (v : β) : OrderedDict κ β :=
  if d.contains k then
    ⟨d.replaced k v, by rw [map_fst_replaced]; exact d.nodup_keys⟩
  else
    ⟨d.without k ++ [(k, v)], d.nodup_keys_without_append k v⟩

/-- `d.move_to_end(k)`, for a key of `d`; without effect for any other key. -/
def moveToEnd (d : OrderedDict κ β) (k : κ) : OrderedDict κ β :=
  match d.get? k with
  | none => d
  | some v => ⟨d.without k ++ [(k, v)], d.nodup_keys_without_append k v⟩

/-- `d.popitem(last=False)`: the dictionary without its oldest entry. -/
def popFirst (d : OrderedDict κ β) : OrderedDict κ β :=
  ⟨d.entries.tail, d.nodup_keys_of_sublist (List.tail_sublist _)⟩

/-! ## Lookup is membership -/

/-- A lookup finds a value exactly when the entry is there. -/
theorem get?_eq_some_iff (d : OrderedDict κ β) (k : κ) (v : β) :
    d.get? k = some v ↔ (k, v) ∈ d.entries := by
  obtain ⟨l, hl⟩ := d
  simp only [get?]
  induction l with
  | nil => simp
  | cons e rest ih =>
      obtain ⟨hnot, hrest⟩ := List.nodup_cons.1 hl
      by_cases hk : k = e.1
      · have hmem : ∀ w, (k, w) ∉ rest := fun w hw =>
          hnot (hk ▸ List.mem_map.2 ⟨(k, w), hw, rfl⟩)
        obtain ⟨ek, ev⟩ := e
        simp only at hk
        subst hk
        simp [hmem v, eq_comm]
      · obtain ⟨ek, ev⟩ := e
        simp only at hk
        have hbeq : (k == ek) = false := by simp [hk]
        rw [List.lookup_cons, hbeq, ih hrest]
        simp [hk]

theorem get?_eq_none_iff (d : OrderedDict κ β) (k : κ) :
    d.get? k = none ↔ k ∉ d.keys := by
  rw [Option.eq_none_iff_forall_ne_some, keys]
  simp only [ne_eq, get?_eq_some_iff, List.mem_map, Prod.exists, exists_and_right,
    exists_eq_right, not_exists]

theorem contains_iff (d : OrderedDict κ β) (k : κ) :
    d.contains k = true ↔ k ∈ d.keys := by
  rw [contains, Option.isSome_iff_ne_none, ne_eq, get?_eq_none_iff, not_not]

theorem mem_keys_iff (d : OrderedDict κ β) (k : κ) :
    k ∈ d.keys ↔ ∃ v, d.get? k = some v := by
  rw [← contains_iff, contains, Option.isSome_iff_exists]

@[simp] theorem get?_empty (k : κ) : (empty : OrderedDict κ β).get? k = none := rfl

/-- Two lookups that find the same entries are equal. -/
theorem get?_congr {d d' : OrderedDict κ β} {k k' : κ}
    (h : ∀ v, (k, v) ∈ d.entries ↔ (k', v) ∈ d'.entries) : d.get? k = d'.get? k' := by
  apply Option.ext
  intro v
  rw [get?_eq_some_iff, get?_eq_some_iff, h]

/-! ## The entries after each operation -/

theorem mem_without {d : OrderedDict κ β} {k : κ} {e : κ × β} :
    e ∈ d.without k ↔ e ∈ d.entries ∧ e.1 ≠ k := by
  simp [without, List.mem_filter]

theorem mem_entries_insert {d : OrderedDict κ β} {k : κ} {v : β} {e : κ × β} :
    e ∈ (d.insert k v).entries ↔ (e ∈ d.entries ∧ e.1 ≠ k) ∨ e = (k, v) := by
  rw [insert]
  split
  · rename_i hk
    obtain ⟨w, hw⟩ := (d.mem_keys_iff k).1 ((d.contains_iff k).1 hk)
    rw [get?_eq_some_iff] at hw
    simp only [replaced, List.mem_map]
    constructor
    · rintro ⟨e', he', rfl⟩
      by_cases h : e'.1 = k
      · exact Or.inr (by simp [h])
      · exact Or.inl (by simpa [h] using he')
    · rintro (⟨he, hne⟩ | rfl)
      · exact ⟨e, he, by simp [hne]⟩
      · exact ⟨(k, w), hw, by simp⟩
  · simp [mem_without]

theorem mem_entries_moveToEnd {d : OrderedDict κ β} {k : κ} {e : κ × β} :
    e ∈ (d.moveToEnd k).entries ↔ e ∈ d.entries := by
  rw [moveToEnd]
  split
  · exact Iff.rfl
  · rename_i v hv
    simp only [List.mem_append, mem_without, List.mem_singleton]
    constructor
    · rintro (⟨he, -⟩ | rfl)
      · exact he
      · exact (d.get?_eq_some_iff k v).1 hv
    · intro he
      by_cases h : e.1 = k
      · have hv' : d.get? k = some e.2 := (d.get?_eq_some_iff k e.2).2 (by rw [← h]; exact he)
        rw [hv, Option.some.injEq] at hv'
        exact Or.inr (by rw [hv', ← h])
      · exact Or.inl ⟨he, h⟩

/-! ## Lookups after each operation -/

@[simp] theorem get?_insert_self (d : OrderedDict κ β) (k : κ) (v : β) :
    (d.insert k v).get? k = some v := by
  rw [get?_eq_some_iff, mem_entries_insert]
  exact Or.inr rfl

theorem get?_insert_of_ne (d : OrderedDict κ β) {k k' : κ} (v : β) (h : k' ≠ k) :
    (d.insert k v).get? k' = d.get? k' :=
  get?_congr fun w => by simp [mem_entries_insert, h]

theorem get?_insert (d : OrderedDict κ β) (k k' : κ) (v : β) :
    (d.insert k v).get? k' = if k' = k then some v else d.get? k' := by
  split
  · rename_i h; rw [h, get?_insert_self]
  · rename_i h; exact d.get?_insert_of_ne v h

@[simp] theorem get?_erase_self (d : OrderedDict κ β) (k : κ) : (d.erase k).get? k = none := by
  rw [get?_eq_none_iff, keys, erase]
  simp [mem_without]

theorem get?_erase_of_ne (d : OrderedDict κ β) {k k' : κ} (h : k' ≠ k) :
    (d.erase k).get? k' = d.get? k' :=
  get?_congr fun w => by simp [erase, mem_without, h]

theorem get?_erase (d : OrderedDict κ β) (k k' : κ) :
    (d.erase k).get? k' = if k' = k then none else d.get? k' := by
  split
  · rename_i h; rw [h, get?_erase_self]
  · rename_i h; exact d.get?_erase_of_ne h

@[simp] theorem get?_moveToEnd (d : OrderedDict κ β) (k k' : κ) :
    (d.moveToEnd k).get? k' = d.get? k' :=
  get?_congr fun _ => mem_entries_moveToEnd

/-! ## Order of the keys -/

/-- An assignment to a new key puts it last. -/
theorem keys_insert_of_new {d : OrderedDict κ β} {k : κ} (v : β) (h : k ∉ d.keys) :
    (d.insert k v).keys = d.keys ++ [k] := by
  have hc : d.contains k = false := by
    rw [← Bool.not_eq_true, contains_iff]; exact h
  have hall : d.without k = d.entries := by
    refine List.filter_eq_self.2 fun e he => ?_
    simp only [ne_eq, decide_not, Bool.not_eq_true', decide_eq_false_iff_not]
    intro hek
    exact h (List.mem_map.2 ⟨e, he, hek⟩)
  simp [insert, hc, keys, hall]

/-- `move_to_end` takes the key out of its place and puts it last. -/
theorem keys_moveToEnd {d : OrderedDict κ β} {k : κ} (h : k ∈ d.keys) :
    (d.moveToEnd k).keys = d.keys.filter (· ≠ k) ++ [k] := by
  obtain ⟨v, hv⟩ := (d.mem_keys_iff k).1 h
  simp [moveToEnd, hv, keys, without, List.filter_map, Function.comp_def]

omit [DecidableEq κ] in
theorem keys_popFirst (d : OrderedDict κ β) : d.popFirst.keys = d.keys.tail := by
  simp [popFirst, keys, List.map_tail]

omit [DecidableEq κ] in
theorem size_eq_length_keys (d : OrderedDict κ β) : d.size = d.keys.length := by
  rw [size, keys, List.length_map]

/-- A key that survives `popitem(last=False)` keeps its value. -/
theorem get?_popFirst {d : OrderedDict κ β} {k : κ} (h : k ∈ d.popFirst.keys) :
    d.popFirst.get? k = d.get? k := by
  obtain ⟨v, hv⟩ := (d.popFirst.mem_keys_iff k).1 h
  rw [hv, eq_comm, get?_eq_some_iff]
  exact List.mem_of_mem_tail ((get?_eq_some_iff _ _ _).1 hv)

end OrderedDict
