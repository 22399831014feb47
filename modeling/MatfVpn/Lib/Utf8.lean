/-
# Decoding UTF-8 with replacement

`decodeReplace` turns bytes into text.  The bytes are taken apart into units: a unit is the
encoding of a character, or a longest start of one that does not go on, or a byte that starts
nothing.  Every unit that is not a character becomes U+FFFD.

* `flatten_units` : the units are the bytes;
* `units_flatten_iff` : the units of the parts of a text are those of the text exactly when
  every part consists of whole units;
* `decodeReplace_flatten_iff` : the same for the decoded texts;
* `count_newline_decodeReplace` : decoding keeps the line feeds.
-/
import Mathlib.Algebra.BigOperators.Group.List.Basic
import Mathlib.Data.List.Basic
import Mathlib.Data.List.Count
import Mathlib.Data.Nat.Notation

namespace Utf8

/-! ## Units -/

/-- A continuation byte. -/
def isTail (b : UInt8) : Bool := 0x80 ≤ b && b ≤ 0xBF

/-- The length of the encodings with this first byte; one for a byte that starts nothing. -/
def width (first : UInt8) : ℕ :=
  if 0xC2 ≤ first && first ≤ 0xDF then 2
  else if 0xE0 ≤ first && first ≤ 0xEF then 3
  else if 0xF0 ≤ first && first ≤ 0xF4 then 4
  else 1

/-- The second bytes that neither encode a shorter character again nor a surrogate nor a
number beyond the last code point. -/
def maySecond (first b : UInt8) : Bool :=
  isTail b && (first != 0xE0 || 0xA0 ≤ b) && (first != 0xED || b ≤ 0x9F) &&
    (first != 0xF0 || 0x90 ≤ b) && (first != 0xF4 || b ≤ 0x8F)

/-- The byte goes on with the unit. -/
def continues : List UInt8 → UInt8 → Bool
  | [], _ => true
  | [first], b => 1 < width first && maySecond first b
  | first :: _ :: more, b => more.length + 2 < width first && isTail b

/-- The units of the bytes, when those of `unit` came before. -/
def unitsFrom (unit : List UInt8) : List UInt8 → List (List UInt8)
  | [] => if unit = [] then [] else [unit]
  | b :: bytes => if continues unit b then unitsFrom (unit ++ [b]) bytes
      else unit :: unitsFrom [b] bytes

/-- The units of the bytes. -/
def units (bytes : List UInt8) : List (List UInt8) := unitsFrom [] bytes

/-- The number in the low bits of a continuation byte. -/
def low (b : UInt8) : ℕ := b.toNat % 64

/-- The character of a unit. -/
def character : List UInt8 → Char
  | [a] => if a < 0x80 then Char.ofNat a.toNat else '\uFFFD'
  | [a, b] => if width a = 2 then Char.ofNat (a.toNat % 32 * 64 + low b) else '\uFFFD'
  | [a, b, c] =>
      if width a = 3 then Char.ofNat ((a.toNat % 16 * 64 + low b) * 64 + low c) else '\uFFFD'
  | [a, b, c, d] => Char.ofNat (((a.toNat % 8 * 64 + low b) * 64 + low c) * 64 + low d)
  | _ => '\uFFFD'

/-- `bytes.decode("utf-8", errors="replace")`. -/
def decodeReplace (bytes : List UInt8) : List Char := (units bytes).map character

example : decodeReplace [0xC3, 0xA9, 0xE2, 0x82, 0x41] = ['é', '\uFFFD', 'A'] := by decide

/-! ## Taking units off -/

/-- The bytes are the start of a unit. -/
inductive Starts : List UInt8 → Prop
  | first (b : UInt8) : Starts [b]
  | next {unit : List UInt8} {b : UInt8} : Starts unit → continues unit b = true →
      Starts (unit ++ [b])

theorem Starts.ne_nil {unit : List UInt8} (h : Starts unit) : unit ≠ [] := by
  cases h with
  | first b => exact List.cons_ne_nil _ _
  | next _ _ => exact List.append_ne_nil_of_right_ne_nil _ (List.cons_ne_nil _ _)

/-- No byte of the text goes on with the unit. -/
def Ends (unit bytes : List UInt8) : Prop := ∀ b, bytes.head? = some b → continues unit b = false

/-- The units of a text that starts with a byte. -/
theorem units_cons (b : UInt8) (bytes : List UInt8) : units (b :: bytes) = unitsFrom [b] bytes := by
  rw [units, unitsFrom]
  exact if_pos rfl

/-- A unit that the text does not go on with is whole. -/
theorem unitsFrom_of_ends {unit bytes : List UInt8} (hne : unit ≠ []) (h : Ends unit bytes) :
    unitsFrom unit bytes = unit :: units bytes := by
  cases bytes with
  | nil =>
    rw [unitsFrom, if_neg hne]
    rfl
  | cons b bytes =>
    rw [unitsFrom, h b rfl, units_cons]
    rfl

/-- **The first unit.** It takes bytes as long as they go on with it. -/
theorem unitsFrom_eq_cons {unit : List UInt8} (hunit : Starts unit) (bytes : List UInt8) :
    ∃ more rest, bytes = more ++ rest ∧ Starts (unit ++ more) ∧ Ends (unit ++ more) rest ∧
      unitsFrom unit bytes = (unit ++ more) :: units rest := by
  induction bytes generalizing unit with
  | nil =>
    have hends : Ends unit [] := fun b hb => by cases hb
    refine ⟨[], [], rfl, ?_⟩
    rw [List.append_nil]
    exact ⟨hunit, hends, unitsFrom_of_ends hunit.ne_nil hends⟩
  | cons b bytes ih =>
    by_cases hb : continues unit b = true
    · obtain ⟨more, rest, rfl, hstarts, hends, heq⟩ := ih (hunit.next hb)
      refine ⟨b :: more, rest, rfl, ?_⟩
      rw [List.append_cons]
      refine ⟨hstarts, hends, ?_⟩
      rw [unitsFrom, if_pos hb, heq]
    · have hends : Ends unit (b :: bytes) := by
        intro c hc
        rw [← Option.some.inj hc]
        exact Bool.eq_false_iff.2 hb
      refine ⟨[], b :: bytes, rfl, ?_⟩
      rw [List.append_nil]
      exact ⟨hunit, hends, unitsFrom_of_ends hunit.ne_nil hends⟩

/-- The units of a text that starts with the start of a unit. -/
theorem units_append_eq_unitsFrom {unit : List UInt8} (hunit : Starts unit)
    (bytes : List UInt8) : units (unit ++ bytes) = unitsFrom unit bytes := by
  induction hunit generalizing bytes with
  | first b => exact units_cons b bytes
  | @next unit b _ hb ih =>
    rw [List.append_assoc, ih, List.singleton_append, unitsFrom, if_pos hb]

/-- The units of a text in which the first unit ends. -/
theorem units_append_of_ends {unit bytes : List UInt8} (hunit : Starts unit)
    (h : Ends unit bytes) : units (unit ++ bytes) = unit :: units bytes := by
  rw [units_append_eq_unitsFrom hunit, unitsFrom_of_ends hunit.ne_nil h]

/-- The first unit of a text. -/
theorem exists_unit {bytes : List UInt8} (h : bytes ≠ []) :
    ∃ unit rest, bytes = unit ++ rest ∧ Starts unit ∧ Ends unit rest ∧
      units bytes = unit :: units rest := by
  obtain ⟨b, bytes, rfl⟩ := List.exists_cons_of_ne_nil h
  obtain ⟨more, rest, rfl, hstarts, hends, heq⟩ := unitsFrom_eq_cons (.first b) bytes
  refine ⟨b :: more, rest, rfl, hstarts, hends, ?_⟩
  rw [units_cons, heq]
  rfl

/-- **Induction over the units** of a text. -/
theorem unit_induction {p : List UInt8 → Prop} (nil : p [])
    (unit : ∀ unit rest, Starts unit → Ends unit rest → p rest → p (unit ++ rest))
    (bytes : List UInt8) : p bytes := by
  induction hn : bytes.length using Nat.strongRecOn generalizing bytes with
  | _ n ih =>
    by_cases h : bytes = []
    · rw [h]
      exact nil
    obtain ⟨first, rest, rfl, hstarts, hends, -⟩ := exists_unit h
    refine unit first rest hstarts hends (ih rest.length ?_ rest rfl)
    have hpos : 0 < first.length := List.length_pos_of_ne_nil hstarts.ne_nil
    rw [List.length_append] at hn
    omega

/-- **The units are the bytes.** -/
theorem flatten_units (bytes : List UInt8) : (units bytes).flatten = bytes := by
  induction bytes using unit_induction with
  | nil => rfl
  | unit unit rest hstarts hends ih =>
    rw [units_append_of_ends hstarts hends, List.flatten_cons, ih]

/-! ## Parts of a text -/

/-- Every part consists of whole units of the text. -/
def WholeUnits (parts : List (List UInt8)) : Prop :=
  ∃ groups : List (List (List UInt8)), groups.flatten = units parts.flatten ∧
    groups.map List.flatten = parts

/-- The first units of a text are the units of its beginning. -/
theorem units_of_append_eq {bytes bytes' : List UInt8} {group others : List (List UInt8)}
    (h : units (bytes ++ bytes') = group ++ others) (hflatten : group.flatten = bytes) :
    units bytes = group ∧ units bytes' = others := by
  induction group generalizing bytes with
  | nil =>
    rw [List.flatten_nil] at hflatten
    subst hflatten
    exact ⟨rfl, h⟩
  | cons unit group ih =>
    rw [List.flatten_cons] at hflatten
    have hne : bytes ++ bytes' ≠ [] := by
      intro hnil
      rw [hnil] at h
      cases h
    obtain ⟨first, rest, hsplit, hstarts, hends, hunits⟩ := exists_unit hne
    rw [h, List.cons_append] at hunits
    obtain ⟨rfl, hothers⟩ := List.cons.inj hunits
    -- the unit comes off both texts
    rw [← hflatten, List.append_assoc] at hsplit
    obtain rfl := List.append_cancel_left hsplit
    obtain ⟨hgroup, hrest⟩ := ih hothers.symm rfl
    refine ⟨?_, hrest⟩
    rw [← hflatten, units_append_of_ends hstarts, hgroup]
    intro b hb
    apply hends
    rw [List.head?_append, hb]
    rfl

/-- **Whole units** are the units of the parts. -/
theorem units_flatten_of_wholeUnits {parts : List (List UInt8)} (h : WholeUnits parts) :
    units parts.flatten = parts.flatMap units := by
  obtain ⟨groups, hgroups, rfl⟩ := h
  induction groups with
  | nil => rfl
  | cons group groups ih =>
    rw [List.map_cons, List.flatten_cons, List.flatten_cons] at hgroups
    obtain ⟨hgroup, hrest⟩ := units_of_append_eq hgroups.symm rfl
    rw [List.map_cons, List.flatMap_cons, hgroup, ← ih hrest.symm, List.flatten_cons, ← hgroups,
      hrest]

/-- The units of the parts group those of the text. -/
theorem wholeUnits_of_units_flatten {parts : List (List UInt8)}
    (h : units parts.flatten = parts.flatMap units) : WholeUnits parts := by
  refine ⟨parts.map units, ?_, ?_⟩
  · rw [h, List.flatMap_def]
  · rw [List.map_map]
    conv_rhs => rw [← List.map_id parts]
    exact List.map_congr_left fun part _ => flatten_units part

/-- A byte that goes on with a unit starts nothing. -/
theorem width_of_continues {unit : List UInt8} {b : UInt8} (hne : unit ≠ [])
    (h : continues unit b = true) : width b = 1 := by
  have htail : isTail b = true := by
    rcases unit with _ | ⟨first, _ | ⟨second, more⟩⟩
    · exact absurd rfl hne
    · simp only [continues, maySecond, Bool.and_eq_true] at h
      exact h.2.1.1.1.1
    · simp only [continues, Bool.and_eq_true] at h
      exact h.2
  simp only [isTail, Bool.and_eq_true, decide_eq_true_eq] at htail
  have hle : b.toNat ≤ 0xBF := htail.2
  have h2 : ¬ (0xC2 : UInt8) ≤ b := fun h : 0xC2 ≤ b.toNat => by omega
  have h3 : ¬ (0xE0 : UInt8) ≤ b := fun h : 0xE0 ≤ b.toNat => by omega
  have h4 : ¬ (0xF0 : UInt8) ≤ b := fun h : 0xF0 ≤ b.toNat => by omega
  simp [width, h2, h3, h4]

/-- Such a byte alone is a unit. -/
theorem units_cons_of_width {b : UInt8} (h : width b = 1) (bytes : List UInt8) :
    units (b :: bytes) = [b] :: units bytes := by
  rw [units_cons, unitsFrom_of_ends (List.cons_ne_nil _ _)]
  intro c _
  rw [continues, h]
  rfl

/-- **ASCII** is decoded byte by byte. -/
theorem decodeReplace_ascii {bytes : List UInt8} (h : ∀ b ∈ bytes, b < 0x80) :
    decodeReplace bytes = bytes.map fun b => Char.ofNat b.toNat := by
  induction bytes with
  | nil => rfl
  | cons b bytes ih =>
    obtain ⟨hb, hbytes⟩ := List.forall_mem_cons.1 h
    have hlt : b.toNat < 0x80 := hb
    have hwidth : width b = 1 := by
      have h2 : ¬ (0xC2 : UInt8) ≤ b := fun h : 0xC2 ≤ b.toNat => by omega
      have h3 : ¬ (0xE0 : UInt8) ≤ b := fun h : 0xE0 ≤ b.toNat => by omega
      have h4 : ¬ (0xF0 : UInt8) ≤ b := fun h : 0xF0 ≤ b.toNat => by omega
      simp [width, h2, h3, h4]
    have hrest := ih hbytes
    rw [decodeReplace] at hrest ⊢
    rw [units_cons_of_width hwidth, List.map_cons, hrest, List.map_cons, character, if_pos hb]

/-- A byte either goes on with the unit or not. -/
theorem ends_cons_iff {unit bytes : List UInt8} {b : UInt8} :
    Ends unit (b :: bytes) ↔ ¬ continues unit b = true := by
  rw [Bool.not_eq_true]
  constructor
  · exact fun h => h b rfl
  · rintro h c hc
    rwa [← Option.some.inj hc]

theorem ends_nil (unit : List UInt8) : Ends unit [] := fun _ hb => by cases hb

/-- Bytes before a text make at most one unit more. -/
theorem length_unitsFrom_le {unit : List UInt8} (hne : unit ≠ []) (bytes : List UInt8) :
    (unitsFrom unit bytes).length ≤ (units bytes).length + 1 := by
  induction bytes generalizing unit with
  | nil =>
    rw [unitsFrom_of_ends hne (ends_nil unit)]
    exact Nat.le_refl _
  | cons b bytes ih =>
    by_cases hb : continues unit b = true
    · rw [unitsFrom, if_pos hb, units_cons_of_width (width_of_continues hne hb), List.length_cons]
      have hle := ih (List.append_ne_nil_of_left_ne_nil hne [b])
      omega
    · rw [unitsFrom_of_ends hne (ends_cons_iff.2 hb)]
      exact Nat.le_refl _

/-- **A cut through a unit** makes the units more, any other cut leaves them. -/
theorem units_append_cases (bytes bytes' : List UInt8) :
    units (bytes ++ bytes') = units bytes ++ units bytes' ∨
      (units (bytes ++ bytes')).length < (units bytes).length + (units bytes').length := by
  induction bytes using unit_induction with
  | nil => exact Or.inl rfl
  | unit unit rest hstarts hends ih =>
    rw [units_append_of_ends hstarts hends, List.append_assoc]
    cases rest with
    | cons b rest =>
      -- the first unit ends before the cut
      have hends' : Ends unit (b :: rest ++ bytes') := ends_cons_iff.2 (ends_cons_iff.1 hends)
      rw [units_append_of_ends hstarts hends']
      rcases ih with heq | hlt
      · rw [heq]
        exact Or.inl rfl
      · simp only [List.length_cons]
        right
        omega
    | nil =>
      rw [List.nil_append]
      cases bytes' with
      | nil =>
        rw [units_append_of_ends hstarts hends]
        exact Or.inl rfl
      | cons b bytes' =>
        by_cases hb : continues unit b = true
        · have hle := length_unitsFrom_le (hstarts.next hb).ne_nil bytes'
          have hunits : units (unit ++ b :: bytes') = unitsFrom (unit ++ [b]) bytes' := by
            rw [List.append_cons, units_append_eq_unitsFrom (hstarts.next hb)]
          rw [hunits, units_cons_of_width (width_of_continues hstarts.ne_nil hb)]
          simp only [List.length_cons]
          right
          omega
        · rw [units_append_of_ends hstarts (ends_cons_iff.2 hb)]
          exact Or.inl rfl

/-- The same for any number of cuts. -/
theorem units_flatten_cases (parts : List (List UInt8)) :
    units parts.flatten = parts.flatMap units ∨
      (units parts.flatten).length < (parts.flatMap units).length := by
  induction parts with
  | nil => exact Or.inl rfl
  | cons part parts ih =>
    rw [List.flatten_cons, List.flatMap_cons, List.length_append]
    rcases units_append_cases part parts.flatten with heq | hlt
    · rw [heq, List.length_append]
      rcases ih with ih | ih
      · exact Or.inl (congrArg _ ih)
      · exact Or.inr (Nat.add_lt_add_left ih _)
    · right
      rcases ih with ih | ih
      · rwa [← ih]
      · omega

/-- **The units of the parts** are those of the text exactly when every part consists of whole
units. -/
theorem units_flatten_iff {parts : List (List UInt8)} :
    units parts.flatten = parts.flatMap units ↔ WholeUnits parts :=
  ⟨wholeUnits_of_units_flatten, units_flatten_of_wholeUnits⟩

/-- **The text of the parts** is that of the whole exactly when every part consists of whole
units. -/
theorem decodeReplace_flatten_iff {parts : List (List UInt8)} :
    parts.flatMap decodeReplace = decodeReplace parts.flatten ↔ WholeUnits parts := by
  have hparts : parts.flatMap decodeReplace = (parts.flatMap units).map character := by
    rw [List.map_flatMap]
    rfl
  rw [hparts, decodeReplace, ← units_flatten_iff]
  constructor
  · intro h
    rcases units_flatten_cases parts with heq | hlt
    · exact heq
    · have hlength := congrArg List.length h
      rw [List.length_map, List.length_map] at hlength
      omega
  · intro h
    rw [h]

/-! ## Line feeds -/

theorem le_of_isTail {b : UInt8} (h : isTail b = true) : 0x80 ≤ b.toNat := by
  simp only [isTail, Bool.and_eq_true, decide_eq_true_eq] at h
  exact h.1

/-- The first bytes of the encodings of several bytes. -/
theorem width_cases (first : UInt8) : width first = 1 ∨
    (width first = 2 ∧ 0xC2 ≤ first.toNat ∧ first.toNat ≤ 0xDF) ∨
    (width first = 3 ∧ 0xE0 ≤ first.toNat ∧ first.toNat ≤ 0xEF) ∨
    (width first = 4 ∧ 0xF0 ≤ first.toNat ∧ first.toNat ≤ 0xF4) := by
  unfold width
  simp only [Bool.and_eq_true, decide_eq_true_eq]
  split
  · rename_i h
    exact Or.inr (Or.inl ⟨rfl, h.1, h.2⟩)
  split
  · rename_i h
    exact Or.inr (Or.inr (Or.inl ⟨rfl, h.1, h.2⟩))
  split
  · rename_i h
    exact Or.inr (Or.inr (Or.inr ⟨rfl, h.1, h.2⟩))
  · exact Or.inl rfl

/-- The start of a unit is one byte, or the first byte of a longer encoding with bytes that
may follow it. -/
theorem Starts.eq_or {unit : List UInt8} (h : Starts unit) :
    (∃ b, unit = [b]) ∨ ∃ first second more, unit = first :: second :: more ∧
      1 < width first ∧ maySecond first second = true ∧ (∀ b ∈ more, isTail b = true) ∧
      more.length + 2 ≤ width first := by
  induction h with
  | first b => exact Or.inl ⟨b, rfl⟩
  | @next unit b hunit hb ih =>
    right
    rcases ih with ⟨first, rfl⟩ | ⟨first, second, more, rfl, hwidth, hsecond, hmore, -⟩
    · simp only [continues, Bool.and_eq_true, decide_eq_true_eq] at hb
      exact ⟨first, b, [], rfl, hb.1, hb.2, List.forall_mem_nil _, hb.1⟩
    · simp only [continues, Bool.and_eq_true, decide_eq_true_eq] at hb
      refine ⟨first, second, more ++ [b], rfl, hwidth, hsecond, ?_, ?_⟩
      · intro c hc
        rcases List.mem_append.1 hc with hc | hc
        · exact hmore c hc
        · rw [List.mem_singleton.1 hc]
          exact hb.2
      · rw [List.length_append, List.length_singleton]
        omega

/-- The line feed has the number 10. -/
theorem eq_of_ofNat_eq_newline {n : ℕ} (heq : Char.ofNat n = '\n') : n = 10 := by
  by_cases hvalid : n.isValidChar
  · have htoNat : (Char.ofNat n).toNat = n := by
      rw [Char.ofNat, dif_pos hvalid]
      rfl
    rw [heq] at htoNat
    exact htoNat.symm
  · have hzero : Char.ofNat n = '\x00' := by
      rw [Char.ofNat, dif_neg hvalid]
      rfl
    rw [heq] at hzero
    exact absurd hzero (by decide)

/-- The number of an encoding of several bytes is large. -/
theorem character_ne_newline {first second : UInt8} {more : List UInt8}
    (hsecond : maySecond first second = true)
    (hlength : more.length + 2 ≤ width first) :
    character (first :: second :: more) ≠ '\n' := by
  simp only [maySecond, Bool.and_eq_true, Bool.or_eq_true, bne_iff_ne, ne_eq,
    decide_eq_true_eq] at hsecond
  obtain ⟨⟨⟨⟨htail, hE0⟩, -⟩, hF0⟩, -⟩ := hsecond
  have hE0 : first.toNat = 0xE0 → 0xA0 ≤ second.toNat := fun h =>
    hE0.resolve_left fun hne => hne (UInt8.toNat_inj.1 h)
  have hF0 : first.toNat = 0xF0 → 0x90 ≤ second.toNat := fun h =>
    hF0.resolve_left fun hne => hne (UInt8.toNat_inj.1 h)
  have hle : second.toNat ≤ 0xBF := by
    simp only [isTail, Bool.and_eq_true, decide_eq_true_eq] at htail
    exact htail.2
  have hcases := width_cases first
  have hreplaced : '\uFFFD' ≠ '\n' := by decide
  rcases more with _ | ⟨c, _ | ⟨d, _ | ⟨e, more⟩⟩⟩
  · rw [character]
    split
    · intro heq
      have hnumber := eq_of_ofNat_eq_newline heq
      unfold low at hnumber
      omega
    · exact hreplaced
  · rw [character]
    split
    · intro heq
      have hnumber := eq_of_ofNat_eq_newline heq
      unfold low at hnumber
      omega
    · exact hreplaced
  · rw [character]
    simp only [List.length_cons, List.length_nil] at hlength
    intro heq
    have hnumber := eq_of_ofNat_eq_newline heq
    unfold low at hnumber
    omega
  · exact hreplaced

/-- A line feed is a unit of its own, and what no other unit stands for. -/
theorem unit_newline {unit : List UInt8} (h : Starts unit) :
    (character unit = '\n' ↔ unit = [10]) ∧ (10 ∈ unit → unit = [10]) := by
  rcases h.eq_or with ⟨b, rfl⟩ | ⟨first, second, more, rfl, hwidth, hsecond, hmore, hlength⟩
  · constructor
    · constructor
      · intro heq
        rw [character] at heq
        split at heq
        · have hb : b = 10 := UInt8.toNat_inj.1 (eq_of_ofNat_eq_newline heq)
          rw [hb]
        · exact absurd heq (by decide)
      · intro hb
        rw [hb]
        decide
    · intro hmem
      rw [List.mem_singleton.1 hmem]
  · refine ⟨iff_of_false (character_ne_newline hsecond hlength) (by simp), fun hmem => ?_⟩
    simp only [maySecond, Bool.and_eq_true] at hsecond
    have hsecond := le_of_isTail hsecond.1.1.1.1
    rcases List.mem_cons.1 hmem with h | hmem
    · rw [← h] at hwidth
      exact absurd hwidth (by decide)
    rcases List.mem_cons.1 hmem with h | hmem
    · rw [← h] at hsecond
      exact absurd hsecond (by decide)
    · exact absurd (le_of_isTail (hmore _ hmem)) (by decide)

/-- The first unit and what follows. -/
theorem decodeReplace_append_of_ends {unit rest : List UInt8} (hunit : Starts unit)
    (h : Ends unit rest) : decodeReplace (unit ++ rest) = character unit :: decodeReplace rest := by
  rw [decodeReplace, units_append_of_ends hunit h]
  rfl

/-- **Decoding keeps the line feeds.** -/
theorem count_newline_decodeReplace (bytes : List UInt8) :
    (decodeReplace bytes).count '\n' = bytes.count 10 := by
  induction bytes using unit_induction with
  | nil => rfl
  | unit unit rest hstarts hends ih =>
    obtain ⟨hcharacter, hmem⟩ := unit_newline hstarts
    have hunit : unit.count 10 = if character unit = '\n' then 1 else 0 := by
      by_cases h : unit = [10]
      · rw [if_pos (hcharacter.2 h), h]
        rfl
      · rw [if_neg fun heq => h (hcharacter.1 heq), List.count_eq_zero]
        exact fun hten => h (hmem hten)
    rw [decodeReplace_append_of_ends hstarts hends, List.count_cons, List.count_append, ih, hunit]
    simp only [beq_iff_eq]
    omega

theorem decodeReplace_eq_nil_iff {bytes : List UInt8} : decodeReplace bytes = [] ↔ bytes = [] := by
  constructor
  · intro h
    by_contra hne
    obtain ⟨unit, rest, -, -, -, hunits⟩ := exists_unit hne
    rw [decodeReplace, hunits] at h
    cases h
  · rintro rfl
    rfl

/-- Decoding keeps a line feed at the end. -/
theorem getLast?_decodeReplace (bytes : List UInt8) :
    (decodeReplace bytes).getLast? = some '\n' ↔ bytes.getLast? = some 10 := by
  induction bytes using unit_induction with
  | nil => exact iff_of_false nofun nofun
  | unit unit rest hstarts hends ih =>
    rw [decodeReplace_append_of_ends hstarts hends]
    by_cases hrest : rest = []
    · rw [hrest, List.append_nil]
      show some (character unit) = some '\n' ↔ _
      obtain ⟨hcharacter, hmem⟩ := unit_newline hstarts
      rw [Option.some.injEq, hcharacter]
      constructor
      · rintro rfl
        rfl
      · exact fun h => hmem (List.mem_of_getLast? h)
    · rw [List.getLast?_append_of_ne_nil _ hrest, ← ih, ← List.singleton_append,
        List.getLast?_append_of_ne_nil _ (mt decodeReplace_eq_nil_iff.1 hrest)]

/-- Parts that are decoded by themselves end in a line feed when they do. -/
theorem getLast?_flatMap_decodeReplace (parts : List (List UInt8)) :
    (parts.flatMap decodeReplace = [] ↔ parts.flatten = []) ∧
      ((parts.flatMap decodeReplace).getLast? = some '\n' ↔
        parts.flatten.getLast? = some 10) := by
  induction parts with
  | nil => exact ⟨iff_of_true rfl rfl, iff_of_false nofun nofun⟩
  | cons part parts ih =>
    obtain ⟨hnil, hlast⟩ := ih
    rw [List.flatMap_cons, List.flatten_cons, List.append_eq_nil_iff, List.append_eq_nil_iff,
      decodeReplace_eq_nil_iff, hnil]
    refine ⟨Iff.rfl, ?_⟩
    by_cases hrest : parts.flatten = []
    · rw [hnil.2 hrest, hrest, List.append_nil, List.append_nil]
      exact getLast?_decodeReplace part
    · rw [List.getLast?_append_of_ne_nil _ hrest,
        List.getLast?_append_of_ne_nil _ (mt hnil.1 hrest), hlast]

end Utf8
