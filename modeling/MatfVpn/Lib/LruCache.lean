/-
# Bounded caches with least-recently-used eviction

The usual use of an ordered dictionary as a cache: a hit moves its key to the end,
a miss stores a new entry at the end and drops the oldest entry when the capacity
is exceeded.

* `size_touch`, `size_store_le` : the capacity is never exceeded;
* `Memo.touch`, `Memo.store` : a cache filled with values that belong to their keys
  only ever holds such values;
* `Recent.touch`, `Recent.store` : an entry survives as long as fewer than
  `capacity` distinct other keys are used after it.
-/
import MatfVpn.Lib.OrderedDict
import Mathlib.Data.Finset.Card
import Mathlib.Data.List.Duplicate

namespace LruCache

variable {κ β : Type} [DecidableEq κ]

/-! ## Operations -/

/-- A hit: the key becomes the most recently used one. -/
def touch (d : OrderedDict κ β) (k : κ) : OrderedDict κ β := d.moveToEnd k

/-- A miss: the new entry is stored last, and the oldest entry goes when there are
more than `capacity`. -/
def store (capacity : ℕ) (d : OrderedDict κ β) (k : κ) (v : β) : OrderedDict κ β :=
  if capacity < (d.insert k v).size then (d.insert k v).popFirst else d.insert k v

/-! ## Size -/

/-- A hit does not change the number of entries. -/
theorem size_touch {d : OrderedDict κ β} {k : κ} (h : k ∈ d.keys) :
    (touch d k).size = d.size := by
  rw [OrderedDict.size_eq_length_keys, touch, OrderedDict.keys_moveToEnd h,
    OrderedDict.size_eq_length_keys]
  have hcount : (d.keys.filter (· ≠ k)).length = d.keys.length - 1 := by
    have herase : d.keys.erase k = d.keys.filter (· ≠ k) := by
      rw [List.Nodup.erase_eq_filter (l := d.keys) d.nodup_keys k]
      exact List.filter_congr fun x _ => by by_cases hx : x = k <;> simp [hx]
    rw [← herase]
    exact List.length_erase_of_mem h
  have hpos : 0 < d.keys.length := List.length_pos_of_mem h
  rw [List.length_append, hcount, List.length_singleton]
  omega

/-- A miss leaves at most `capacity` entries. -/
theorem size_store_le {capacity : ℕ} {d : OrderedDict κ β} {k : κ} (v : β)
    (hk : k ∉ d.keys) (hd : d.size ≤ capacity) : (store capacity d k v).size ≤ capacity := by
  have hins : (d.insert k v).size = d.size + 1 := by
    rw [OrderedDict.size_eq_length_keys, OrderedDict.keys_insert_of_new v hk,
      List.length_append, OrderedDict.size_eq_length_keys, List.length_singleton]
  rw [store]
  split
  · rw [OrderedDict.size_eq_length_keys, OrderedDict.keys_popFirst, List.length_tail,
      ← OrderedDict.size_eq_length_keys]
    omega
  · omega

/-! ## Lookups -/

/-- The key just stored is found, unless the capacity is zero. -/
theorem get?_store_self {capacity : ℕ} {d : OrderedDict κ β} {k : κ} (v : β)
    (hk : k ∉ d.keys) (hcap : 0 < capacity) : (store capacity d k v).get? k = some v := by
  rw [store]
  split
  · rename_i hfull
    rw [OrderedDict.get?_popFirst, OrderedDict.get?_insert_self]
    rw [OrderedDict.size_eq_length_keys, OrderedDict.keys_insert_of_new v hk] at hfull
    rw [OrderedDict.keys_popFirst, OrderedDict.keys_insert_of_new v hk]
    cases hkeys : d.keys with
    | nil => rw [hkeys] at hfull; simp at hfull; omega
    | cons a rest => simp
  · rw [OrderedDict.get?_insert_self]

/-- Whatever a cache holds after a miss was there before or is the new entry. -/
theorem get?_store {capacity : ℕ} {d : OrderedDict κ β} {k k' : κ} {v w : β}
    (h : (store capacity d k v).get? k' = some w) :
    (k' = k ∧ w = v) ∨ (k' ≠ k ∧ d.get? k' = some w) := by
  have hins : (d.insert k v).get? k' = some w := by
    rw [store] at h
    split at h
    · rw [OrderedDict.get?_popFirst] at h
      · exact h
      · exact (OrderedDict.mem_keys_iff _ _).2 ⟨w, h⟩
    · exact h
  rw [OrderedDict.get?_insert] at hins
  split at hins
  · rename_i hkk
    exact Or.inl ⟨hkk, by simpa using hins.symm⟩
  · rename_i hkk
    exact Or.inr ⟨hkk, hins⟩

/-! ## Memoisation -/

/-- Every cached value is related to its key, as a value computed from it is. -/
def Memo (R : κ → β → Prop) (d : OrderedDict κ β) : Prop :=
  ∀ k v, d.get? k = some v → R k v

theorem Memo.empty (R : κ → β → Prop) : Memo R OrderedDict.empty := by
  intro k v h
  simp at h

theorem Memo.touch {R : κ → β → Prop} {d : OrderedDict κ β} (h : Memo R d) (k : κ) :
    Memo R (touch d k) := by
  intro k' v hv
  rw [LruCache.touch, OrderedDict.get?_moveToEnd] at hv
  exact h k' v hv

theorem Memo.store {R : κ → β → Prop} {d : OrderedDict κ β} (h : Memo R d) (capacity : ℕ)
    {k : κ} {v : β} (hkv : R k v) : Memo R (store capacity d k v) := by
  intro k' v' hv
  rcases get?_store hv with ⟨rfl, rfl⟩ | ⟨-, hv'⟩
  · exact hkv
  · exact h k' v' hv'

/-! ## Recency -/

/-- The entry of `k` is `v`, and every key used more recently than `k` is in `others`. -/
def Recent (d : OrderedDict κ β) (k : κ) (v : β) (others : Finset κ) : Prop :=
  d.get? k = some v ∧ ∃ older newer, d.keys = older ++ k :: newer ∧ ∀ x ∈ newer, x ∈ others

/-- After a hit on `k`, no key is more recent. -/
theorem Recent.of_touch {d : OrderedDict κ β} {k : κ} {v : β} (h : d.get? k = some v) :
    Recent (LruCache.touch d k) k v ∅ := by
  have hmem : k ∈ d.keys := (d.mem_keys_iff k).2 ⟨v, h⟩
  refine ⟨by rw [LruCache.touch, OrderedDict.get?_moveToEnd]; exact h, ?_⟩
  exact ⟨d.keys.filter (· ≠ k), [], OrderedDict.keys_moveToEnd hmem, by simp⟩

/-- After `k` was stored, no key is more recent. -/
theorem Recent.of_store {capacity : ℕ} {d : OrderedDict κ β} {k : κ} (v : β)
    (hk : k ∉ d.keys) (hcap : 0 < capacity) :
    Recent (LruCache.store capacity d k v) k v ∅ := by
  refine ⟨get?_store_self v hk hcap, ?_⟩
  rw [LruCache.store]
  split
  · rename_i hfull
    rw [OrderedDict.size_eq_length_keys, OrderedDict.keys_insert_of_new v hk] at hfull
    rw [OrderedDict.keys_popFirst, OrderedDict.keys_insert_of_new v hk]
    cases hkeys : d.keys with
    | nil => rw [hkeys] at hfull; simp at hfull; omega
    | cons a rest => exact ⟨rest, [], by simp, by simp⟩
  · exact ⟨d.keys, [], OrderedDict.keys_insert_of_new v hk, by simp⟩

/-- A hit on another key adds it to the more recent ones. -/
theorem Recent.touch {d : OrderedDict κ β} {k k' : κ} {v : β} {others : Finset κ}
    (h : Recent d k v others) (hne : k' ≠ k) :
    Recent (LruCache.touch d k') k v (Insert.insert k' others) := by
  obtain ⟨hget, older, newer, hkeys, hnew⟩ := h
  refine ⟨by rw [LruCache.touch, OrderedDict.get?_moveToEnd]; exact hget, ?_⟩
  by_cases hmem : k' ∈ d.keys
  · refine ⟨older.filter (· ≠ k'), newer.filter (· ≠ k') ++ [k'], ?_, ?_⟩
    · rw [LruCache.touch, OrderedDict.keys_moveToEnd hmem, hkeys]
      simp [List.filter_append, hne.symm]
    · intro x hx
      rcases List.mem_append.1 hx with hx | hx
      · exact Finset.mem_insert_of_mem (hnew x (List.mem_filter.1 hx).1)
      · rw [List.mem_singleton.1 hx]
        exact Finset.mem_insert_self _ _
  · have hnone : d.get? k' = none := (d.get?_eq_none_iff k').2 hmem
    refine ⟨older, newer, ?_, fun x hx => Finset.mem_insert_of_mem (hnew x hx)⟩
    rw [LruCache.touch, OrderedDict.moveToEnd, hnone]
    exact hkeys

/-- Storing another key keeps the entry while fewer than `capacity` distinct other
keys are more recent: an eviction of `k` needs `capacity` of them behind it. -/
theorem Recent.store {capacity : ℕ} {d : OrderedDict κ β} {k k' : κ} {v w : β}
    {others : Finset κ} (h : Recent d k v others) (hne : k' ≠ k) (hk' : k' ∉ d.keys)
    (hcard : (Insert.insert k' others).card < capacity) :
    Recent (LruCache.store capacity d k' w) k v (Insert.insert k' others) := by
  obtain ⟨hget, older, newer, hkeys, hnew⟩ := h
  have hkeysIns : (d.insert k' w).keys = older ++ k :: (newer ++ [k']) := by
    rw [OrderedDict.keys_insert_of_new w hk', hkeys]
    simp
  have hsub : ∀ x ∈ newer ++ [k'], x ∈ Insert.insert k' others := by
    intro x hx
    rcases List.mem_append.1 hx with hx | hx
    · exact Finset.mem_insert_of_mem (hnew x hx)
    · rw [List.mem_singleton.1 hx]
      exact Finset.mem_insert_self _ _
  have hgetIns : (d.insert k' w).get? k = some v := by
    rw [OrderedDict.get?_insert_of_ne d w hne.symm]
    exact hget
  rw [LruCache.store]
  split
  · rename_i hfull
    -- the more recent keys are distinct members of `others`, so `older` is not empty
    have hnodup : (newer ++ [k']).Nodup := by
      have := (d.insert k' w).nodup_keys
      rw [show (d.insert k' w).entries.map Prod.fst = (d.insert k' w).keys from rfl,
        hkeysIns] at this
      exact (List.nodup_cons.1 (List.nodup_append.1 this).2.1).2
    have hlen : (newer ++ [k']).length ≤ (Insert.insert k' others).card := by
      rw [← List.toFinset_card_of_nodup hnodup]
      exact Finset.card_le_card fun x hx => hsub x (List.mem_toFinset.1 hx)
    cases older with
    | nil =>
        rw [OrderedDict.size_eq_length_keys, hkeysIns] at hfull
        simp only [List.nil_append, List.length_cons] at hfull
        omega
    | cons a older =>
        have hpop : (d.insert k' w).popFirst.keys = older ++ k :: (newer ++ [k']) := by
          rw [OrderedDict.keys_popFirst, hkeysIns]
          rfl
        refine ⟨?_, older, newer ++ [k'], hpop, hsub⟩
        rw [OrderedDict.get?_popFirst (by rw [hpop]; simp)]
        exact hgetIns
  · exact ⟨hgetIns, older, newer ++ [k'], hkeysIns, hsub⟩

end LruCache
