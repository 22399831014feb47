/-
# The replies in the output of `ping`

An output is a sequence of replies, each with a round trip time, in other text.  The text around
the times is arbitrary, as long as it has no `time=` or `time<` of its own.

* `findReplies_text` : the regular expression finds the times of the replies;
* `parsePingTimes_length` : there is a sample for every reply.
-/
import MatfVpn.Benchmark
import Mathlib.Data.List.Infix

namespace MatfVpn

variable {τ : Type}

/-! ## Outputs -/

/-- The text begins with `time=` or `time<`. -/
def opensReply : List Char → Bool
  | 't' :: 'i' :: 'm' :: 'e' :: c :: _ => c = '=' || c = '<'
  | _ => false

/-- No part of the text begins like that. -/
def Quiet (text : List Char) : Prop := ∀ rest ∈ text.tails, opensReply rest = false

instance (text : List Char) : Decidable (Quiet text) := List.decidableBAll _ _

/-- A reply that is printed: the number of the request that it answers, the text before the
time, the time and the white space after it. -/
structure PingReply where
  request : ℕ
  before : List Char
  sign : Char
  time : List Char
  gap : List Char
  quiet : Quiet before
  sign_eq : sign = '=' ∨ sign = '<'
  time_ne_nil : time ≠ []
  time_all : ∀ c ∈ time, isTimeCharacter c = true
  gap_all : ∀ c ∈ gap, isUnicodeSpace c = true

/-- The text of the reply, up to its unit. -/
def PingReply.text (reply : PingReply) : List Char :=
  reply.before ++
    't' :: 'i' :: 'm' :: 'e' :: reply.sign :: (reply.time ++ (reply.gap ++ ['m', 's']))

/-- An output: the replies, and the text after the last of them. -/
structure PingOutput where
  replies : List PingReply
  footer : List Char
  quiet : Quiet footer

/-- The text of the output. -/
def PingOutput.text (output : PingOutput) : List Char :=
  output.replies.flatMap PingReply.text ++ output.footer

/-! ## Text without replies -/

theorem opensReply_iff {text : List Char} :
    opensReply text = true ↔ ∃ c rest, text = 't' :: 'i' :: 'm' :: 'e' :: c :: rest ∧
      (c = '=' ∨ c = '<') := by
  unfold opensReply
  split
  · rename_i c rest
    rw [Bool.or_eq_true, decide_eq_true_iff, decide_eq_true_iff]
    constructor
    · exact fun h => ⟨c, rest, rfl, h⟩
    · rintro ⟨c', rest', h, hc⟩
      simp only [List.cons.injEq, true_and] at h
      rwa [h.1]
  · rename_i hother
    refine iff_of_false Bool.false_ne_true ?_
    rintro ⟨c, rest, h, -⟩
    exact hother c rest h

theorem pingReply?_eq_none {text : List Char} (h : opensReply text = false) :
    pingReply? text = none := by
  unfold pingReply?
  split
  · rename_i c rest
    refine if_neg fun hc => ?_
    rw [opensReply_iff.2 ⟨c, rest, rfl, hc⟩] at h
    cases h
  · rfl

/-- A reply does not begin in the text before it. -/
theorem opensReply_append {part rest : List Char} (h : opensReply part = false)
    (hne : part ≠ []) : opensReply (part ++ 't' :: rest) = false := by
  rw [← Bool.not_eq_true, opensReply_iff]
  rintro ⟨c, tail, htext, hc⟩
  rcases part with _ | ⟨c₁, _ | ⟨c₂, _ | ⟨c₃, _ | ⟨c₄, _ | ⟨c₅, part⟩⟩⟩⟩⟩
  · exact hne rfl
  · simp at htext
  · simp at htext
  · simp at htext
  · simp only [List.cons_append, List.nil_append, List.cons.injEq] at htext
    rcases hc with rfl | rfl
    · exact absurd htext.2.2.2.2.1 (by decide)
    · exact absurd htext.2.2.2.2.1 (by decide)
  · simp only [List.cons_append, List.cons.injEq] at htext
    obtain ⟨rfl, rfl, rfl, rfl, rfl, -⟩ := htext
    rw [opensReply_iff.2 ⟨_, _, rfl, hc⟩] at h
    cases h

/-- Text where no reply begins is skipped. -/
theorem findReplies_append {before rest : List Char} (n : ℕ)
    (h : ∀ part, part ≠ [] → part <:+ before → opensReply (part ++ rest) = false) :
    findReplies (before.length + n) (before ++ rest) = findReplies n rest := by
  induction before with
  | nil => rw [List.length_nil, Nat.zero_add, List.nil_append]
  | cons c before ih =>
    rw [List.length_cons, Nat.add_right_comm, List.cons_append, findReplies]
    have hnone := pingReply?_eq_none (h (c :: before) (List.cons_ne_nil c before)
      (List.suffix_refl _))
    rw [List.cons_append] at hnone
    rw [hnone]
    exact ih fun part hne hpart => h part hne (hpart.trans (List.suffix_cons c before))

/-- A quiet text has no replies. -/
theorem findReplies_of_quiet {text : List Char} (h : Quiet text) (n : ℕ) :
    findReplies (text.length + n) text = [] := by
  have hskip := @findReplies_append text [] n fun part _ hpart => by
    rw [List.append_nil]
    exact h part ((List.mem_tails _ _).2 hpart)
  rw [List.append_nil] at hskip
  rw [hskip]
  cases n <;> rfl

/-! ## Replies -/

theorem toNat_of_isTimeCharacter {c : Char} (h : isTimeCharacter c = true) :
    46 ≤ c.toNat ∧ c.toNat ≤ 57 := by
  unfold isTimeCharacter at h
  rw [Bool.or_eq_true, Bool.and_eq_true, decide_eq_true_iff, decide_eq_true_iff,
    decide_eq_true_iff] at h
  rcases h with rfl | ⟨hlow, hhigh⟩
  · decide
  · have hlow' : 48 ≤ c.toNat := hlow
    have hhigh' : c.toNat ≤ 57 := hhigh
    omega

/-- White space is not part of a number. -/
theorem not_isTimeCharacter_of_isUnicodeSpace {c : Char} (h : isUnicodeSpace c = true) :
    isTimeCharacter c = false := by
  rw [← Bool.not_eq_true]
  intro htime
  obtain ⟨hlow, hhigh⟩ := toNat_of_isTimeCharacter htime
  have hspace : c ≠ ' ' := by
    rintro rfl
    exact absurd hlow (by decide)
  unfold isUnicodeSpace isNumberSpace at h
  simp only [Bool.or_eq_true, Bool.and_eq_true, decide_eq_true_iff, List.contains_eq_mem,
    List.mem_cons, List.not_mem_nil, or_false] at h
  rcases h with (((rfl | h) | h) | h) | h
  · exact hspace rfl
  all_goals omega

/-- The number ends where the white space or the unit begins. -/
theorem span_time (reply : PingReply) (rest : List Char) :
    (reply.time ++ (reply.gap ++ 'm' :: 's' :: rest)).span isTimeCharacter
      = (reply.time, reply.gap ++ 'm' :: 's' :: rest) := by
  have hstop : ∃ c tail, reply.gap ++ 'm' :: 's' :: rest = c :: tail ∧
      ¬ isTimeCharacter c = true := by
    cases hgap : reply.gap with
    | nil => exact ⟨'m', 's' :: rest, rfl, by decide⟩
    | cons c gap =>
      have hspace := reply.gap_all c (by rw [hgap]; exact List.mem_cons_self)
      refine ⟨c, _, rfl, ?_⟩
      rw [not_isTimeCharacter_of_isUnicodeSpace hspace]
      exact Bool.false_ne_true
  obtain ⟨c, tail, htail, hc⟩ := hstop
  rw [htail, List.span_eq_takeWhile_dropWhile, List.takeWhile_append_of_pos reply.time_all,
    List.dropWhile_append_of_pos reply.time_all, List.takeWhile_cons_of_neg hc,
    List.dropWhile_cons_of_neg hc, List.append_nil]

/-- **A reply** is matched from its `time` on. -/
theorem pingReply?_text (reply : PingReply) (rest : List Char) :
    pingReply? ('t' :: 'i' :: 'm' :: 'e' :: reply.sign ::
      (reply.time ++ (reply.gap ++ 'm' :: 's' :: rest))) = some (reply.time, rest) := by
  have hgap : (reply.gap ++ 'm' :: 's' :: rest).dropWhile isUnicodeSpace = 'm' :: 's' :: rest := by
    rw [List.dropWhile_append_of_pos reply.gap_all]
    exact List.dropWhile_cons_of_neg (by decide)
  unfold pingReply?
  simp only
  rw [if_pos reply.sign_eq, span_time]
  simp only
  rw [hgap]
  cases htime : reply.time with
  | nil => exact absurd htime reply.time_ne_nil
  | cons c time => rfl

/-- A reply is found after the text before it. -/
theorem findReplies_text_append (reply : PingReply) (rest : List Char) {n : ℕ}
    (hn : (reply.text ++ rest).length ≤ n) : ∃ m, rest.length ≤ m ∧
      findReplies n (reply.text ++ rest) = reply.time :: findReplies m rest := by
  have htext : reply.text ++ rest = reply.before ++ 't' :: 'i' :: 'm' :: 'e' :: reply.sign ::
      (reply.time ++ (reply.gap ++ 'm' :: 's' :: rest)) := by
    simp only [PingReply.text, List.append_assoc, List.cons_append, List.nil_append]
  rw [htext] at hn ⊢
  simp only [List.length_append, List.length_cons] at hn
  obtain ⟨m, rfl⟩ : ∃ m, n = reply.before.length + (m + 1) :=
    ⟨n - reply.before.length - 1, by omega⟩
  refine ⟨m, by omega, ?_⟩
  rw [findReplies_append (m + 1) fun part hne hpart =>
    opensReply_append (reply.quiet part ((List.mem_tails _ _).2 hpart)) hne, findReplies,
    pingReply?_text]

/-- **The regular expression** finds the times of the replies. -/
theorem findReplies_text (output : PingOutput) :
    findReplies output.text.length output.text = output.replies.map (·.time) := by
  have hfind : ∀ (replies : List PingReply) (n : ℕ),
      (replies.flatMap PingReply.text ++ output.footer).length ≤ n →
      findReplies n (replies.flatMap PingReply.text ++ output.footer) = replies.map (·.time) := by
    intro replies
    induction replies with
    | nil =>
      intro n hn
      rw [List.flatMap_nil, List.nil_append] at hn ⊢
      obtain ⟨m, rfl⟩ := Nat.exists_eq_add_of_le hn
      exact findReplies_of_quiet output.quiet m
    | cons reply replies ih =>
      intro n hn
      rw [List.flatMap_cons, List.append_assoc] at hn ⊢
      obtain ⟨m, hm, hreply⟩ := findReplies_text_append reply _ hn
      rw [hreply, ih m hm, List.map_cons]
  exact hfind output.replies _ (Nat.le_refl _)

/-- **The parser** has a sample for every reply. -/
theorem parsePingTimes_length {A : Arithmetic τ} {output : PingOutput} {times : List τ}
    (h : parsePingTimes A output.text = .ok times) : times.length = output.replies.length := by
  obtain ⟨samples, hsamples, h⟩ := except_bind_eq_ok.1 h
  rw [findReplies_text] at hsamples
  split at h
  · cases h
  · rw [← Except.ok.inj h, ← (mapM_eq_ok_iff.1 hsamples).length_eq, List.length_map]

end MatfVpn
