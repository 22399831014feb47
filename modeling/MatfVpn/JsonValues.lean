/-
# JSON texts of Python values

`json.dumps(value, separators=(",", ":"), sort_keys=True)` and `json.loads`, for the values of
the configuration files.  The text of a finite float (`float.__repr__`) is an argument, and so
nothing depends on how it is chosen.

* `jsonLoads_jsonDumps` : a value comes back with its fields sorted and every float as what its
  text means.
-/
import MatfVpn.ConfigFile
import MatfVpn.Lib.JsonText
import MatfVpn.Lib.OrderedDict
import Mathlib.Data.List.Sort
import Mathlib.Data.List.TakeDrop
import Mathlib.Data.List.TakeWhile

namespace MatfVpn

open JsonText

/-! ## Integers -/

/-- `int.__repr__`. -/
def intText : ℤ → List Char
  | .ofNat n => Nat.toDigits 10 n
  | .negSucc n => '-' :: Nat.toDigits 10 (n + 1)

/-- The default of `sys.get_int_max_str_digits()`. -/
def maxStrDigits : ℕ := 4300

/-- The integer has a text. -/
def fitsDigits (n : ℤ) : Bool := (Nat.toDigits 10 n.natAbs).length ≤ maxStrDigits

section digits

variable {text : List Char} {n : ℕ}

theorem isDigit_of_mem_toDigits {c : Char} (h : c ∈ Nat.toDigits 10 n) :
    48 ≤ c.toNat ∧ c.toNat ≤ 57 := by
  have hdigit := Nat.isDigit_of_mem_toDigits (by decide) (by decide) h
  rw [Char.isDigit, Bool.and_eq_true, decide_eq_true_eq, decide_eq_true_eq] at hdigit
  exact hdigit

theorem isDigit_iff {c : Char} : isDigit c = true ↔ 48 ≤ c.toNat ∧ c.toNat ≤ 57 := by
  rw [isDigit, Bool.and_eq_true, decide_eq_true_eq, decide_eq_true_eq]
  rfl

theorem all_isDigit_toDigits (n : ℕ) : (Nat.toDigits 10 n).all isDigit = true :=
  List.all_eq_true.2 fun _ hc => isDigit_iff.2 (isDigit_of_mem_toDigits hc)

/-- The digits of a positive number begin with another digit than zero. -/
theorem head?_toDigits (h : 0 < n) : (Nat.toDigits 10 n).head? ≠ some '0' := by
  induction n using Nat.strong_induction_on with
  | _ n ih =>
    rw [Nat.toDigits_eq_if (by decide)]
    split
    · rename_i hlt
      rw [List.head?_cons, Ne, Option.some.injEq, Nat.digitChar_eq_zero]
      omega
    · rename_i hge
      have hne : Nat.toDigits 10 (n / 10) ≠ [] := Nat.toDigits_ne_nil
      rw [List.head?_append_of_ne_nil _ hne]
      exact ih (n / 10) (by omega) (by omega)

/-- Digits alone are a number. -/
theorem isUnsigned_of_digits (hdigits : text.all isDigit = true) (hwhole : isWhole text = true) :
    isUnsigned text = true := by
  have hne : ∀ c ∈ text, ∀ other : Char, isDigit other = false → c ≠ other := by
    rintro c hc other hother rfl
    rw [List.all_eq_true.1 hdigits c hc] at hother
    cases hother
  have hmantissa : text.span (fun c => c ≠ 'e' && c ≠ 'E') = (text, []) := by
    have hall : ∀ c ∈ text, (c ≠ 'e' && c ≠ 'E') = true := by
      intro c hc
      simp [hne c hc 'e' (by decide), hne c hc 'E' (by decide)]
    rw [List.span_eq_takeWhile_dropWhile, List.takeWhile_eq_self_iff.2 hall,
      List.dropWhile_eq_nil_iff.2 hall]
  have hpoint : text.span (· ≠ '.') = (text, []) := by
    have hall : ∀ c ∈ text, (decide (c ≠ '.')) = true :=
      fun c hc => decide_eq_true (hne c hc '.' (by decide))
    rw [List.span_eq_takeWhile_dropWhile, List.takeWhile_eq_self_iff.2 hall,
      List.dropWhile_eq_nil_iff.2 hall]
  unfold isUnsigned
  simp only [hmantissa, hpoint, hwhole]
  rw [Bool.or_eq_true]
  exact Or.inr rfl

theorem isWhole_toDigits (n : ℕ) : isWhole (Nat.toDigits 10 n) = true := by
  rw [isWhole, isDigits, all_isDigit_toDigits, Bool.and_true, Bool.and_eq_true, Bool.or_eq_true]
  refine ⟨by simp, ?_⟩
  cases n with
  | zero => exact Or.inr (decide_eq_true (Nat.toDigits_zero 10))
  | succ n => exact Or.inl (decide_eq_true (head?_toDigits n.succ_pos))

/-- The digits of a number mean the number. -/
theorem digits?_of_isDigit (h : ∀ c ∈ text, 48 ≤ c.toNat ∧ c.toNat ≤ 57) (hne : text ≠ []) :
    digits? text = some (text.map fun c => c.toNat - 48) := by
  have hdigit : ∀ c ∈ text, decimalDigit? c = some (c.toNat - 48) := by
    intro c hc
    have := h c hc
    rw [decimalDigit?, decimalZeros, List.find?_cons_of_pos (by
      rw [decide_eq_true_eq]
      omega)]
    rfl
  induction text with
  | nil => exact absurd rfl hne
  | cons c text ih =>
    have hc := hdigit c List.mem_cons_self
    cases text with
    | nil => rw [digits?, hc, Option.map_some, List.map_singleton]
    | cons d text =>
      have hd := h d (List.mem_cons_of_mem _ List.mem_cons_self)
      have hunder : d ≠ '_' := by
        rintro rfl
        exact absurd hd.2 (by decide)
      have hrest := ih (fun x hx => h x (List.mem_cons_of_mem _ hx)) (List.cons_ne_nil d text)
        (fun x hx => hdigit x (List.mem_cons_of_mem _ hx))
      rw [digits?, hc, hrest]
      · rfl
      · exact fun h => by cases h
      · intro rest heq
        exact hunder (List.cons.inj heq).1

/-- A text without white space has none around it. -/
theorem stripNumber_of_not_space (h : ∀ c ∈ text, isNumberSpace c = false) :
    stripNumber text = text := by
  have hdrop : ∀ t : List Char, (∀ c ∈ t, isNumberSpace c = false) →
      t.dropWhile isNumberSpace = t := by
    intro t ht
    cases t with
    | nil => rfl
    | cons c t =>
      exact List.dropWhile_cons_of_neg (by rw [ht c List.mem_cons_self]; exact Bool.false_ne_true)
  rw [stripNumber, hdrop text h, hdrop text.reverse fun c hc => h c (List.mem_reverse.1 hc),
    List.reverse_reverse]

theorem not_isNumberSpace_of_token {c : Char} (h : isTokenCharacter c = true) :
    isNumberSpace c = false := by
  obtain ⟨hlow, hhigh⟩ := isPrintable_of_isTokenCharacter h
  have hblank : c ≠ ' ' := by
    rintro rfl
    exact absurd h (by decide)
  simp only [isNumberSpace, Bool.or_eq_false_iff, Bool.and_eq_false_iff, decide_eq_false_iff_not,
    List.contains_eq_mem, List.mem_cons, List.not_mem_nil, or_false]
  exact ⟨⟨⟨hblank, by omega⟩, by omega⟩, by omega⟩

end digits

theorem all_token_intText (n : ℤ) : (intText n).all isTokenCharacter = true := by
  have hdigits : ∀ m, (Nat.toDigits 10 m).all isTokenCharacter = true := by
    refine fun m => List.all_eq_true.2 fun c hc => ?_
    simp only [isTokenCharacter, List.all_eq_true.1 (all_isDigit_toDigits m) c hc, Bool.true_or]
  cases n with
  | ofNat n => exact hdigits n
  | negSucc n =>
    rw [intText, List.all_cons, hdigits]
    rfl

theorem isNumber_intText (n : ℤ) : isNumber (intText n) = true := by
  have hunsigned : ∀ m, isUnsigned (Nat.toDigits 10 m) = true :=
    fun m => isUnsigned_of_digits (all_isDigit_toDigits m) (isWhole_toDigits m)
  cases n with
  | ofNat n =>
    have hminus : ∀ text, Nat.toDigits 10 n = '-' :: text → False := by
      intro text htext
      have hmem : '-' ∈ Nat.toDigits 10 n := htext ▸ List.mem_cons_self
      exact absurd (isDigit_of_mem_toDigits hmem) (by decide)
    rw [intText, isNumber, hunsigned, Bool.or_true]
    exact hminus
  | negSucc n => exact hunsigned (n + 1)

/-- The text of an integer. -/
def intNumeral (n : ℤ) : Numeral := ⟨intText n, isNumber_intText n, all_token_intText n⟩

/-- **`int` inverts `int.__repr__`**, up to the limit for digits. -/
theorem pyInt?_intText {n : ℤ} (h : fitsDigits n = true) : pyInt? (intText n) = some n := by
  have hvalue : ∀ m, ofDigits ((Nat.toDigits 10 m).map fun c => c.toNat - 48) = m := by
    intro m
    rw [ofDigits, List.foldl_map]
    exact Nat.ofDigitChars_ten_toDigits
  have hread : ∀ m, digits? (Nat.toDigits 10 m)
      = some ((Nat.toDigits 10 m).map fun c => c.toNat - 48) := fun m =>
    digits?_of_isDigit (fun c hc => isDigit_of_mem_toDigits hc) Nat.toDigits_ne_nil
  have hlength : (Nat.toDigits 10 n.natAbs).length ≤ 4300 := of_decide_eq_true h
  rw [pyInt?, stripNumber_of_not_space fun c hc =>
    not_isNumberSpace_of_token (List.all_eq_true.1 (all_token_intText n) c hc)]
  cases n with
  | ofNat n =>
    have hsign : readSign (intText (.ofNat n)) = (false, Nat.toDigits 10 n) := by
      rw [intText, readSign]
      · intro text htext
        have hmem : '-' ∈ Nat.toDigits 10 n := htext ▸ List.mem_cons_self
        exact absurd (isDigit_of_mem_toDigits hmem) (by decide)
      · intro text htext
        have hmem : '+' ∈ Nat.toDigits 10 n := htext ▸ List.mem_cons_self
        exact absurd (isDigit_of_mem_toDigits hmem) (by decide)
    rw [hsign]
    simp only [hread, Option.bind_eq_bind, Option.bind_some, List.length_map]
    rw [hvalue]
    exact if_neg (Nat.not_lt.2 hlength)
  | negSucc n =>
    have hsign : readSign (intText (.negSucc n)) = (true, Nat.toDigits 10 (n + 1)) := rfl
    rw [hsign]
    simp only [hread, Option.bind_eq_bind, Option.bind_some, List.length_map]
    rw [hvalue]
    exact if_neg (Nat.not_lt.2 hlength)

/-! ## Values and their texts -/

/-- The fields in the order of their names. -/
def sortFields {α : Type} (fields : List (String × α)) : List (String × α) :=
  fields.insertionSort fun first second => first.1 ≤ second.1

/-- The `dict` of these fields, where a later field replaces an earlier one of its name. -/
def dictOf (fields : List (String × Json)) : OrderedDict String Json :=
  fields.foldl (fun dict field => dict.insert field.1 field.2) .empty

/-- What the text of a number means.  An integer must not have too many digits. -/
def numeralValue? (numeral : Numeral) : Option Json :=
  if numeral.text.all fun c => c = '-' || isDigit c then (pyInt? numeral.text).map .int
  else (pyFloat? numeral.text).map .float

/-- `float.__repr__` of the finite floats: a text that means a float. -/
structure FloatRepr where
  text : ℚ → Numeral
  means : ∀ x, ∃ y, numeralValue? (text x) = some (.float y)

/-- The text of a float. -/
def FloatRepr.numeral (repr : FloatRepr) : Binary64 → Numeral
  | .nan => ⟨"NaN".toList, by decide, by decide⟩
  | .infinity true => ⟨"-Infinity".toList, by decide, by decide⟩
  | .infinity false => ⟨"Infinity".toList, by decide, by decide⟩
  | .finite x => repr.text x

theorem FloatRepr.numeral_means (repr : FloatRepr) (x : Binary64) :
    ∃ y, numeralValue? (repr.numeral x) = some (.float y) := by
  cases x with
  | nan => exact ⟨.nan, rfl⟩
  | infinity negative => cases negative <;> exact ⟨.infinity _, rfl⟩
  | finite x => exact repr.means x

namespace Json

mutual

/-- The integers of a value. -/
def integers : Json → List ℤ
  | .int value => [value]
  | .array items => integersOfItems items
  | .object fields => integersOfFields fields
  | _ => []

def integersOfItems : List Json → List ℤ
  | [] => []
  | item :: items => integers item ++ integersOfItems items

def integersOfFields : List (String × Json) → List ℤ
  | [] => []
  | (_, value) :: fields => integers value ++ integersOfFields fields

end

mutual

/-- The value with its numbers as texts and with sorted fields. -/
def toTree (repr : FloatRepr) : Json → Tree
  | .null => .null
  | .bool value => .bool value
  | .int value => .number (intNumeral value)
  | .float value => .number (repr.numeral value)
  | .string value => .string value
  | .array items => .array (toTrees repr items)
  | .object fields => .object (sortFields (toFields repr fields))

def toTrees (repr : FloatRepr) : List Json → List Tree
  | [] => []
  | item :: items => toTree repr item :: toTrees repr items

def toFields (repr : FloatRepr) : List (String × Json) → List (String × Tree)
  | [] => []
  | (key, value) :: fields => (key, toTree repr value) :: toFields repr fields

end

mutual

/-- The value of a text, from the texts of its numbers. -/
def ofTree? : Tree → Option Json
  | .null => some .null
  | .bool value => some (.bool value)
  | .number numeral => numeralValue? numeral
  | .string value => some (.string value)
  | .array items => (ofTrees? items).map .array
  | .object fields => (ofFields? fields).map fun fields => .object (dictOf fields).entries

def ofTrees? : List Tree → Option (List Json)
  | [] => some []
  | item :: items => do return (← ofTree? item) :: (← ofTrees? items)

def ofFields? : List (String × Tree) → Option (List (String × Json))
  | [] => some []
  | (key, value) :: fields => do return (key, ← ofTree? value) :: (← ofFields? fields)

end

end Json

/-- `json.dumps(value, separators=(",", ":"), sort_keys=True)`. -/
def jsonDumps (repr : FloatRepr) (value : Json) : Except PyError (List Char) :=
  if value.integers.all fitsDigits then .ok (encode (value.toTree repr))
  else .error (.valueError
    "Exceeds the limit (4300 digits) for integer string conversion; use sys.set_int_max_str_digits() to increase the limit")

/-- `json.loads(text)`, with `none` for `ValueError`. -/
def jsonLoads (text : String) : Option Json := (decode text.toList).bind Json.ofTree?

/-! ## Reading what was written -/

namespace Json

mutual

/-- The value that the text of a value means: floats as their texts mean, sorted fields. -/
def reread (repr : FloatRepr) : Json → Json
  | .float value => (numeralValue? (repr.numeral value)).getD .null
  | .array items => .array (rereadItems repr items)
  | .object fields => .object (dictOf (sortFields (rereadFields repr fields))).entries
  | value => value

def rereadItems (repr : FloatRepr) : List Json → List Json
  | [] => []
  | item :: items => reread repr item :: rereadItems repr items

def rereadFields (repr : FloatRepr) : List (String × Json) → List (String × Json)
  | [] => []
  | (key, value) :: fields => (key, reread repr value) :: rereadFields repr fields

end

theorem toFields_eq (repr : FloatRepr) (fields : List (String × Json)) :
    toFields repr fields = fields.map fun field => (field.1, toTree repr field.2) := by
  induction fields with
  | nil => rfl
  | cons field fields ih => rw [toFields, ih, List.map_cons]

theorem rereadFields_eq (repr : FloatRepr) (fields : List (String × Json)) :
    rereadFields repr fields = fields.map fun field => (field.1, reread repr field.2) := by
  induction fields with
  | nil => rfl
  | cons field fields ih => rw [rereadFields, ih, List.map_cons]

/-- Sorting moves the fields only. -/
theorem sortFields_map {α β : Type} (f : α → β) (fields : List (String × α)) :
    sortFields (fields.map fun field => (field.1, f field.2))
      = (sortFields fields).map fun field => (field.1, f field.2) := by
  rw [sortFields, sortFields, List.map_insertionSort _ (fun first second => first.1 ≤ second.1)]
  exact fun _ _ _ _ => Iff.rfl

theorem mem_sortFields {α : Type} {fields : List (String × α)} {field : String × α} :
    field ∈ sortFields fields ↔ field ∈ fields := List.mem_insertionSort _

theorem ofFields?_map {repr : FloatRepr} {fields : List (String × Json)}
    (h : ∀ field ∈ fields, ofTree? (toTree repr field.2) = some (reread repr field.2)) :
    ofFields? (fields.map fun field => (field.1, toTree repr field.2))
      = some (fields.map fun field => (field.1, reread repr field.2)) := by
  induction fields with
  | nil => rfl
  | cons field fields ih =>
    obtain ⟨hfield, hfields⟩ := List.forall_mem_cons.1 h
    rw [List.map_cons, ofFields?, hfield, ih hfields]
    rfl

theorem numeralValue?_intNumeral {n : ℤ} (h : fitsDigits n = true) :
    numeralValue? (intNumeral n) = some (.int n) := by
  have hall : (intText n).all (fun c => c = '-' || isDigit c) = true := by
    have hdigits : ∀ m, (Nat.toDigits 10 m).all (fun c => c = '-' || isDigit c) = true := by
      refine fun m => List.all_eq_true.2 fun c hc => ?_
      rw [List.all_eq_true.1 (all_isDigit_toDigits m) c hc, Bool.or_true]
    cases n with
    | ofNat n => exact hdigits n
    | negSucc n =>
      rw [intText, List.all_cons, hdigits]
      rfl
  rw [numeralValue?, intNumeral, if_pos hall, pyInt?_intText h]
  rfl

mutual

/-- **A value** is read back from its tree. -/
theorem ofTree?_toTree (repr : FloatRepr) : (value : Json) →
    (∀ n ∈ value.integers, fitsDigits n = true) →
      ofTree? (toTree repr value) = some (reread repr value)
  | .null, _ => rfl
  | .bool _, _ => rfl
  | .int n, h => numeralValue?_intNumeral (h n List.mem_cons_self)
  | .float x, _ => by
    obtain ⟨y, hy⟩ := repr.numeral_means x
    rw [toTree, ofTree?, reread, hy]
    rfl
  | .string _, _ => rfl
  | .array items, h => by
    rw [toTree, ofTree?, ofTrees?_toTrees repr items h]
    rfl
  | .object fields, h => by
    have hfields := ofTree?_of_mem_fields repr fields h
    rw [toTree, ofTree?, toFields_eq, sortFields_map, ofFields?_map fun field hfield =>
      hfields field (mem_sortFields.1 hfield), reread, rereadFields_eq, sortFields_map]
    rfl

theorem ofTrees?_toTrees (repr : FloatRepr) : (items : List Json) →
    (∀ n ∈ integersOfItems items, fitsDigits n = true) →
      ofTrees? (toTrees repr items) = some (rereadItems repr items)
  | [], _ => rfl
  | item :: items, h => by
    rw [integersOfItems, List.forall_mem_append] at h
    rw [toTrees, ofTrees?, ofTree?_toTree repr item h.1, ofTrees?_toTrees repr items h.2]
    rfl

theorem ofTree?_of_mem_fields (repr : FloatRepr) : (fields : List (String × Json)) →
    (∀ n ∈ integersOfFields fields, fitsDigits n = true) →
      ∀ field ∈ fields, ofTree? (toTree repr field.2) = some (reread repr field.2)
  | [], _ => List.forall_mem_nil _
  | (key, value) :: fields, h => by
    rw [integersOfFields, List.forall_mem_append] at h
    exact List.forall_mem_cons.2 ⟨ofTree?_toTree repr value h.1,
      ofTree?_of_mem_fields repr fields h.2⟩

end

end Json

/-! ## Fields -/

/-- New fields join those of a `dict`. -/
theorem mem_foldl_insert {fields : List (String × Json)} {dict : OrderedDict String Json}
    (hnodup : (fields.map Prod.fst).Nodup) (hnew : ∀ field ∈ fields, field.1 ∉ dict.keys)
    {e : String × Json} :
    e ∈ (fields.foldl (fun dict field => dict.insert field.1 field.2) dict).entries ↔
      e ∈ dict.entries ∨ e ∈ fields := by
  induction fields generalizing dict with
  | nil => simp
  | cons field fields ih =>
    obtain ⟨hfield, hfields⟩ := List.forall_mem_cons.1 hnew
    rw [List.map_cons, List.nodup_cons] at hnodup
    rw [List.foldl_cons, ih hnodup.2, OrderedDict.mem_entries_insert, List.mem_cons, or_assoc]
    · constructor
      · rintro (⟨h, -⟩ | h)
        · exact Or.inl h
        · exact Or.inr h
      · rintro (h | h)
        · refine Or.inl ⟨h, fun heq => hfield ?_⟩
          rw [← heq]
          exact List.mem_map_of_mem h
        · exact Or.inr h
    · intro other hother
      rw [OrderedDict.keys_insert_of_new _ hfield, List.mem_append, List.mem_singleton, not_or]
      refine ⟨hfields other hother, fun heq => hnodup.1 ?_⟩
      rw [← heq]
      exact List.mem_map_of_mem hother

/-- **The fields of a `dict`** come back, with what their values mean. -/
theorem lookup_reread (repr : FloatRepr) (dict : OrderedDict String Json) (name : String) :
    (dictOf (sortFields (Json.rereadFields repr dict.entries))).get? name
      = (dict.get? name).map (Json.reread repr) := by
  have hkeys : ((sortFields (Json.rereadFields repr dict.entries)).map Prod.fst).Nodup := by
    have hperm := (List.perm_insertionSort (fun first second : String × Json =>
      first.1 ≤ second.1) (Json.rereadFields repr dict.entries)).map Prod.fst
    rw [sortFields, hperm.nodup_iff, Json.rereadFields_eq, List.map_map]
    exact dict.nodup_keys
  apply Option.ext
  intro value
  rw [OrderedDict.get?_eq_some_iff, dictOf, mem_foldl_insert hkeys fun _ _ => List.not_mem_nil,
    Json.mem_sortFields, Json.rereadFields_eq, Option.map_eq_some_iff]
  constructor
  · rintro (h | h)
    · cases h
    · obtain ⟨field, hfield, heq⟩ := List.mem_map.1 h
      obtain ⟨rfl, rfl⟩ := Prod.mk.inj heq
      exact ⟨field.2, (dict.get?_eq_some_iff _ _).2 hfield, rfl⟩
  · rintro ⟨old, hold, rfl⟩
    exact Or.inr (List.mem_map.2 ⟨(name, old), (dict.get?_eq_some_iff _ _).1 hold, rfl⟩)

/-- **A value comes back** from its text. -/
theorem jsonLoads_jsonDumps {repr : FloatRepr} {value : Json} {text : List Char}
    (h : jsonDumps repr value = .ok text) :
    jsonLoads (String.ofList text) = some (value.reread repr) := by
  unfold jsonDumps at h
  split at h
  · rename_i hfits
    rw [← Except.ok.inj h, jsonLoads, String.toList_ofList, decode_encode]
    exact Json.ofTree?_toTree repr value (List.all_eq_true.1 hfits)
  · cases h

/-- The text of a value is in printable ASCII. -/
theorem isPrintable_of_jsonDumps {repr : FloatRepr} {value : Json} {text : List Char}
    (h : jsonDumps repr value = .ok text) {c : Char} (hc : c ∈ text) : IsPrintable c := by
  unfold jsonDumps at h
  split at h
  · rw [← Except.ok.inj h] at hc
    exact isPrintable_of_mem_encode _ hc
  · cases h

end MatfVpn
