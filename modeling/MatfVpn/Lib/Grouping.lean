/-
# Values grouped by a key

`setdefault(key, []).append(value)` for every entry of a list gives a dictionary with the values
of every key, in the order of the entries.

* `get?_group` : the values of a key are those of its entries;
* `groups_join` : the groups of numbered blocks are the blocks.
-/
import MatfVpn.Lib.Blocks
import MatfVpn.Lib.OrderedDict

namespace OrderedDict

variable {κ α : Type} [DecidableEq κ]

/-- The value is appended to those of the key. -/
def append (d : OrderedDict κ (List α)) (entry : κ × α) : OrderedDict κ (List α) :=
  d.insert entry.1 ((d.get? entry.1).getD [] ++ [entry.2])

/-- The values of every key. -/
def group (entries : List (κ × α)) : OrderedDict κ (List α) := entries.foldl append empty

/-- The values of the key among the entries. -/
def valuesOf (k : κ) (entries : List (κ × α)) : List α :=
  (entries.filter fun entry => entry.1 = k).map Prod.snd

theorem get?_foldl_append (k : κ) (entries : List (κ × α)) (d : OrderedDict κ (List α)) :
    (entries.foldl append d).get? k
      = if valuesOf k entries = [] then d.get? k
        else some ((d.get? k).getD [] ++ valuesOf k entries) := by
  induction entries generalizing d with
  | nil => rfl
  | cons entry entries ih =>
    rw [List.foldl_cons, ih, append, get?_insert]
    by_cases hk : k = entry.1
    · obtain rfl := hk
      have hvalues : valuesOf entry.1 (entry :: entries)
          = entry.2 :: valuesOf entry.1 entries := by simp [valuesOf]
      rw [if_pos rfl, hvalues, if_neg (List.cons_ne_nil _ _)]
      by_cases hnil : valuesOf entry.1 entries = []
      · rw [if_pos hnil, hnil]
      · rw [if_neg hnil, Option.getD_some, List.append_assoc]
        rfl
    · have hvalues : valuesOf k (entry :: entries) = valuesOf k entries := by
        simp [valuesOf, Ne.symm hk]
      rw [if_neg hk, hvalues]

/-- **The values** of a key. -/
theorem get?_group (k : κ) (entries : List (κ × α)) :
    (group entries).get? k
      = if valuesOf k entries = [] then none else some (valuesOf k entries) := by
  rw [group, get?_foldl_append]
  rfl

theorem getD_group (k : κ) (entries : List (κ × α)) :
    ((group entries).get? k).getD [] = valuesOf k entries := by
  rw [get?_group]
  split
  · rename_i hnil
    rw [hnil]
    rfl
  · rfl

/-- The keys are those of the entries. -/
theorem mem_keys_group {k : κ} {entries : List (κ × α)} :
    k ∈ (group entries).keys ↔ valuesOf k entries ≠ [] := by
  rw [mem_keys_iff, get?_group]
  split
  · rename_i hnil
    simp [hnil]
  · rename_i hne
    simp [hne]

/-! ## Numbered blocks -/

variable {β : Type}

/-- The values of a block are those with its number. -/
theorem valuesOf_join (g : β → α) {blocks : List (List β)} {items : List β} {i : ℕ}
    (hi : blocks[i]? = some items) :
    valuesOf ((i + 1 : ℕ) : ℤ) (Blocks.join (fun _ block item => ((block : ℤ), g item)) blocks)
      = items.map g := by
  have hchunk := Blocks.getElem?_numberBlocks (fun _ block item => ((block : ℤ), g item)) 0 0
    blocks i
  rw [hi, Option.map_some] at hchunk
  let label (k : ℕ) (entry : ℤ × α) : Bool := decide (entry.1 = (k : ℤ))
  have hlabel : ∀ (n b k : ℕ) (item : β), label k ((b : ℤ), g item) = decide (b = k) := by
    intro n b k item
    exact decide_eq_decide.2 Int.natCast_inj
  have hfilter := Blocks.filter_numberBlocks hlabel hchunk
  rw [Nat.zero_add] at hfilter
  rw [valuesOf, Blocks.join, hfilter]
  apply List.ext_getElem?
  intro k
  rw [List.getElem?_map, List.getElem?_mapIdx, List.getElem?_map, Option.map_map]
  rfl

/-- **The keys** of numbered blocks that are not empty. -/
theorem sorted_keys_group (g : β → α) {blocks : List (List β)} (h : ∀ items ∈ blocks, items ≠ []) :
    (group (Blocks.join (fun _ block item => ((block : ℤ), g item)) blocks)).keys.insertionSort
      (· ≤ ·) = (List.range blocks.length).map fun i => ((i + 1 : ℕ) : ℤ) := by
  have hmem : ∀ k : ℤ,
      k ∈ (group (Blocks.join (fun _ block item => ((block : ℤ), g item)) blocks)).keys ↔
        k ∈ (List.range blocks.length).map fun i => ((i + 1 : ℕ) : ℤ) := by
    intro k
    rw [mem_keys_group, List.mem_map]
    constructor
    · intro hne
      obtain ⟨value, hvalue⟩ := List.exists_mem_of_ne_nil _ hne
      obtain ⟨entry, hentry, -⟩ := List.mem_map.1 hvalue
      obtain ⟨hentry, hkey⟩ := List.mem_filter.1 hentry
      obtain ⟨j, hj⟩ := List.mem_iff_getElem?.1 hentry
      obtain ⟨i, _, items, item, hi, -, -, rfl⟩ := Blocks.exists_of_getElem?_join _ _ hj
      have hlt : i < blocks.length := (List.getElem?_eq_some_iff.1 hi).1
      exact ⟨i, List.mem_range.2 hlt, of_decide_eq_true hkey⟩
    · rintro ⟨i, hi, rfl⟩
      have hget := List.getElem?_eq_getElem (List.mem_range.1 hi)
      rw [valuesOf_join g hget, ne_eq, List.map_eq_nil_iff]
      exact h _ (List.getElem_mem _)
  refine List.Perm.eq_of_pairwise' (List.pairwise_insertionSort _ _) ?_ ?_
  · rw [List.pairwise_map]
    refine List.pairwise_lt_range.imp ?_
    intro i j hij
    exact Int.ofNat_le.2 (Nat.succ_le_succ hij.le)
  · refine (List.perm_insertionSort _ _).trans ((List.perm_ext_iff_of_nodup ?_ ?_).2 hmem)
    · exact OrderedDict.nodup_keys _
    · refine List.nodup_range.map ?_
      intro i j hij
      exact Nat.succ_injective (Int.natCast_inj.1 hij)

/-- **The groups** of numbered blocks, in the order of their keys, are the blocks. -/
theorem groups_join (g : β → α) {blocks : List (List β)} (h : ∀ items ∈ blocks, items ≠ []) :
    (((group (Blocks.join (fun _ block item => ((block : ℤ), g item)) blocks)).keys.insertionSort
        (· ≤ ·)).map fun k =>
          ((group (Blocks.join (fun _ block item => ((block : ℤ), g item)) blocks)).get? k).getD [])
      = blocks.map (List.map g) := by
  rw [sorted_keys_group g h, List.map_map]
  apply List.ext_getElem?
  intro i
  rw [List.getElem?_map, List.getElem?_map]
  by_cases hi : i < blocks.length
  · rw [List.getElem?_range hi, List.getElem?_eq_getElem hi, Option.map_some, Option.map_some,
      Function.comp_apply, getD_group, valuesOf_join g (List.getElem?_eq_getElem hi)]
  · rw [List.getElem?_eq_none (by rw [List.length_range]; omega),
      List.getElem?_eq_none (by omega)]
    rfl

end OrderedDict
