/-
# Lines that arrive in pieces

A reader appends every piece to a buffer, hands on the lines that are complete and keeps the
rest.  `whole` and `rest` are these two parts of a text; `linesOf` are the lines of a text that
has ended, whose last line needs no separator.

* `splitOn_append` : a text that goes on keeps its lines;
* `feed_eq` : the lines do not depend on the pieces;
* `linesOf_inj` : the lines and the number of separators are the text.
-/
import Mathlib.Data.List.Basic
import Mathlib.Data.List.Count
import Mathlib.Data.Nat.Notation

namespace LineReader

variable {α : Type} [DecidableEq α] (sep : α)

/-- The lines of the text that are complete. -/
def whole (text : List α) : List (List α) := (text.splitOn sep).dropLast

/-- The text after the last separator. -/
def rest (text : List α) : List α := (text.splitOn sep).getLast (List.splitOn_ne_nil sep text)

/-- The lines of a text that has ended. -/
def linesOf (text : List α) : List (List α) :=
  whole sep text ++ if rest sep text = [] then [] else [rest sep text]

/-- The lines that a reader hands on, and its buffer afterwards. -/
def feed (buffer : List α) : List (List α) → List (List α) × List α
  | [] => ([], buffer)
  | piece :: pieces =>
      let (lines, buffer') := feed (rest sep (buffer ++ piece)) pieces
      (whole sep (buffer ++ piece) ++ lines, buffer')

section parts

variable {sep}

/-- Lines with their separators come off a text. -/
theorem splitOn_flatMap {lines : List (List α)} (h : ∀ line ∈ lines, sep ∉ line) (text : List α) :
    (lines.flatMap (· ++ [sep]) ++ text).splitOn sep = lines ++ text.splitOn sep := by
  induction lines with
  | nil => rfl
  | cons line lines ih =>
    rw [List.flatMap_cons, List.append_assoc, List.append_assoc, List.singleton_append,
      List.splitOn_append_cons_self_of_not_mem (h line List.mem_cons_self),
      ih fun line hline => h line (List.mem_cons_of_mem _ hline), List.cons_append]

variable (sep) in
/-- A text is lines with their separators and a rest without one. -/
theorem exists_lines (text : List α) : ∃ (lines : List (List α)) (last : List α),
    (∀ line ∈ lines, sep ∉ line) ∧ sep ∉ last ∧
    text = lines.flatMap (· ++ [sep]) ++ last := by
  induction text with
  | nil => exact ⟨[], [], List.forall_mem_nil _, List.not_mem_nil, rfl⟩
  | cons a text ih =>
    obtain ⟨lines, last, hlines, hlast, rfl⟩ := ih
    by_cases ha : a = sep
    · refine ⟨[] :: lines, last, ?_, hlast, ?_⟩
      · exact List.forall_mem_cons.2 ⟨List.not_mem_nil, hlines⟩
      · rw [ha]
        rfl
    cases lines with
    | nil =>
      refine ⟨[], a :: last, List.forall_mem_nil _, ?_, rfl⟩
      rw [List.mem_cons, not_or]
      exact ⟨Ne.symm ha, hlast⟩
    | cons line lines =>
      obtain ⟨hline, hlines⟩ := List.forall_mem_cons.1 hlines
      refine ⟨(a :: line) :: lines, last, List.forall_mem_cons.2 ⟨?_, hlines⟩, hlast, rfl⟩
      rw [List.mem_cons, not_or]
      exact ⟨Ne.symm ha, hline⟩

/-- The parts of a text that is given by its lines. -/
theorem whole_rest_eq {lines : List (List α)} {last : List α} (h : ∀ line ∈ lines, sep ∉ line)
    (hlast : sep ∉ last) : whole sep (lines.flatMap (· ++ [sep]) ++ last) = lines ∧
      rest sep (lines.flatMap (· ++ [sep]) ++ last) = last := by
  have hsplit := splitOn_flatMap h last
  rw [List.splitOn_eq_singleton hlast] at hsplit
  constructor
  · rw [whole, hsplit, List.dropLast_concat]
  · simp only [rest, hsplit, List.getLast_append_singleton]

/-- **A text that goes on** keeps its complete lines. -/
theorem splitOn_append (text more : List α) :
    (text ++ more).splitOn sep = whole sep text ++ (rest sep text ++ more).splitOn sep := by
  obtain ⟨lines, last, hlines, hlast, rfl⟩ := exists_lines sep text
  obtain ⟨hwhole, hrest⟩ := whole_rest_eq hlines hlast
  rw [hwhole, hrest, List.append_assoc, splitOn_flatMap hlines]

theorem whole_append (text more : List α) :
    whole sep (text ++ more) = whole sep text ++ whole sep (rest sep text ++ more) := by
  rw [whole, splitOn_append, List.dropLast_append_of_ne_nil (List.splitOn_ne_nil _ _), ← whole]

theorem rest_append (text more : List α) :
    rest sep (text ++ more) = rest sep (rest sep text ++ more) := by
  simp only [rest, splitOn_append text more]
  rw [List.getLast_append_of_ne_nil _ (List.splitOn_ne_nil _ _)]

/-- **The start of lines**: its complete lines are the first ones. -/
theorem whole_of_append_eq {lines : List (List α)} (h : ∀ line ∈ lines, sep ∉ line)
    {text more : List α} (heq : text ++ more = lines.flatMap (· ++ [sep])) :
    whole sep text = lines.take (whole sep text).length ∧ (more = [] → whole sep text = lines) := by
  have hlines := (whole_rest_eq h List.not_mem_nil).1
  rw [List.append_nil, ← heq] at hlines
  constructor
  · rw [whole_append] at hlines
    exact (List.prefix_iff_eq_take.1 ⟨_, hlines⟩)
  · rintro rfl
    rwa [List.append_nil] at hlines

/-- A buffer without a separator is its rest. -/
theorem rest_of_not_mem {text : List α} (h : sep ∉ text) :
    whole sep text = [] ∧ rest sep text = text := by
  simp only [whole, rest, List.splitOn_eq_singleton h]
  exact ⟨rfl, rfl⟩

theorem not_mem_rest (text : List α) : sep ∉ rest sep text := by
  obtain ⟨lines, last, hlines, hlast, rfl⟩ := exists_lines sep text
  rwa [(whole_rest_eq hlines hlast).2]

/-- **The pieces do not matter.** -/
theorem feed_eq {buffer : List α} (h : sep ∉ buffer) (pieces : List (List α)) :
    feed sep buffer pieces
      = (whole sep (buffer ++ pieces.flatten), rest sep (buffer ++ pieces.flatten)) := by
  induction pieces generalizing buffer with
  | nil =>
    rw [List.flatten_nil, List.append_nil, (rest_of_not_mem h).1, (rest_of_not_mem h).2]
    rfl
  | cons piece pieces ih =>
    rw [feed, ih (not_mem_rest _), List.flatten_cons, ← List.append_assoc,
      whole_append (buffer ++ piece), rest_append (buffer ++ piece) pieces.flatten]

/-- A separator ends a line. -/
theorem count_eq_length_whole (text : List α) : text.count sep = (whole sep text).length := by
  obtain ⟨lines, last, hlines, hlast, rfl⟩ := exists_lines sep text
  rw [(whole_rest_eq hlines hlast).1, List.count_append, List.count_eq_zero_of_not_mem hlast]
  clear hlast last
  induction lines with
  | nil => rfl
  | cons line lines ih =>
    obtain ⟨hline, hlines⟩ := List.forall_mem_cons.1 hlines
    rw [List.flatMap_cons, List.count_append, List.count_append, Nat.add_assoc, ih hlines,
      List.count_eq_zero_of_not_mem hline, List.count_singleton_self, List.length_cons]
    omega

/-- A text leaves nothing after its lines when it ends with a separator. -/
theorem rest_eq_nil_iff (text : List α) :
    rest sep text = [] ↔ text = [] ∨ text.getLast? = some sep := by
  obtain ⟨lines, last, hlines, hlast, rfl⟩ := exists_lines sep text
  rw [(whole_rest_eq hlines hlast).2]
  constructor
  · rintro rfl
    rcases List.eq_nil_or_concat' lines with rfl | ⟨lines, line, rfl⟩
    · exact Or.inl rfl
    · right
      rw [List.append_nil, List.flatMap_append, List.flatMap_singleton, ← List.append_assoc,
        List.getLast?_concat]
  · intro h
    by_contra hne
    rcases h with h | h
    · exact hne (List.append_eq_nil_iff.1 h).2
    · rw [List.getLast?_append_of_ne_nil _ hne] at h
      exact hlast (List.mem_of_getLast? h)

/-- Texts with equally many separators that both end with one, or both do not, have equally many
lines. -/
theorem length_linesOf_eq {text text' : List α} (hcount : text.count sep = text'.count sep)
    (hnil : text = [] ↔ text' = [])
    (hlast : text.getLast? = some sep ↔ text'.getLast? = some sep) :
    (linesOf sep text).length = (linesOf sep text').length := by
  have hrest : rest sep text = [] ↔ rest sep text' = [] := by
    rw [rest_eq_nil_iff, rest_eq_nil_iff, hnil, hlast]
  rw [count_eq_length_whole, count_eq_length_whole] at hcount
  rw [linesOf, linesOf, List.length_append, List.length_append, hcount]
  congr 1
  by_cases h : rest sep text = []
  · rw [if_pos h, if_pos (hrest.1 h)]
  · rw [if_neg h, if_neg (mt hrest.2 h), List.length_singleton, List.length_singleton]

variable (sep) in
/-- The parts of a text are the text. -/
theorem flatMap_whole_append_rest (text : List α) :
    (whole sep text).flatMap (· ++ [sep]) ++ rest sep text = text := by
  obtain ⟨lines, last, hlines, hlast, rfl⟩ := exists_lines sep text
  obtain ⟨hwhole, hrest⟩ := whole_rest_eq hlines hlast
  rw [hwhole, hrest]

/-- **The lines and the number of separators** are the text. -/
theorem linesOf_inj {text text' : List α} (hcount : text.count sep = text'.count sep)
    (h : linesOf sep text = linesOf sep text') : text = text' := by
  rw [count_eq_length_whole, count_eq_length_whole] at hcount
  obtain ⟨hwhole, hlast⟩ := List.append_inj h hcount
  have hrest : rest sep text = rest sep text' := by
    split at hlast
    · rename_i hnil
      split at hlast
      · rename_i hnil'
        rw [hnil, hnil']
      · cases hlast
    · split at hlast
      · cases hlast
      · exact (List.cons.inj hlast).1
  rw [← flatMap_whole_append_rest sep text, ← flatMap_whole_append_rest sep text', hwhole, hrest]

end parts

end LineReader
