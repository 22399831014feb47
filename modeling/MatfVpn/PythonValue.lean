/-
# Python values of the benchmark tools

The tools read and write JSON documents and compute with what they find in them, without
checks of their own: a value of a wrong kind shows as an exception of the interpreter.  `Value`
is what `json.loads` returns, with numbers of a type `τ`, and `Arithmetic τ` is what the tools
use of Python's floats and of the modules `math` and `statistics`.

* `Arithmetic.exact` : exact rational numbers, for a given square root.

The order of the fields of a `dict` is kept, and nothing depends on it.  The interpreter's own
exceptions come without their texts.
-/
import MatfVpn.PythonText
import Mathlib.Data.List.Forall2
import Mathlib.Data.List.Sort

namespace MatfVpn

/-! ## Exceptions -/

/-- The exceptions of the tools. -/
inductive ToolError where
  | valueError (message : String)
  | benchmarkCommandError (message : String)
  | systemExit (message : String)
  | assertionError
  | typeError
  | keyError
  | indexError
  | attributeError
  | overflowError
  | zeroDivisionError
  | recursionError
  | stopIteration
  deriving DecidableEq, Repr

/-- The class is `ValueError`. -/
def ToolError.isValueError : ToolError → Bool
  | .valueError _ => true
  | _ => false

/-! ## Loops -/

/-- A related item of the other list. -/
theorem exists_of_mem_forall₂ {α β : Type} {R : α → β → Prop} {items : List α} {others : List β}
    (h : List.Forall₂ R items others) {a : α} (ha : a ∈ items) : ∃ b ∈ others, R a b := by
  induction h with
  | nil => cases ha
  | cons hfirst _ ih =>
    rcases List.mem_cons.1 ha with rfl | ha
    · exact ⟨_, List.mem_cons_self, hfirst⟩
    · obtain ⟨b, hb, hR⟩ := ih ha
      exact ⟨b, List.mem_cons_of_mem _ hb, hR⟩

/-- A loop raises what its first item with an exception raises. -/
theorem mapM_eq_error_iff {ε α β : Type} {f : α → Except ε β} {items : List α} {e : ε} :
    items.mapM f = .error e ↔ ∃ before item after, items = before ++ item :: after ∧
      (∀ other ∈ before, ∃ b, f other = .ok b) ∧ f item = .error e := by
  induction items with
  | nil =>
    constructor
    · intro h
      cases h
    · rintro ⟨before, item, after, h, -⟩
      exact absurd h (by simp)
  | cons first items ih =>
    rw [List.mapM_cons, except_bind_eq_error]
    constructor
    · rintro (h | ⟨b, hb, h⟩)
      · exact ⟨[], first, items, rfl, List.forall_mem_nil _, h⟩
      · rcases except_bind_eq_error.1 h with h | ⟨_, _, h⟩
        · obtain ⟨before, item, after, rfl, hbefore, hitem⟩ := ih.1 h
          exact ⟨first :: before, item, after, rfl,
            List.forall_mem_cons.2 ⟨⟨b, hb⟩, hbefore⟩, hitem⟩
        · cases h
    · rintro ⟨before, item, after, h, hbefore, hitem⟩
      cases before with
      | nil =>
        rw [(List.cons.inj h).1]
        exact Or.inl hitem
      | cons other before =>
        obtain ⟨rfl, rfl⟩ := List.cons.inj h
        obtain ⟨⟨b, hb⟩, hbefore⟩ := List.forall_mem_cons.1 hbefore
        refine Or.inr ⟨b, hb, ?_⟩
        exact except_bind_eq_error.2 (Or.inl (ih.2 ⟨before, item, after, rfl, hbefore, hitem⟩))

/-- **A loop** returns when every item does. -/
theorem mapM_eq_ok_iff {ε α β : Type} {f : α → Except ε β} {items : List α} {results : List β} :
    items.mapM f = .ok results ↔ List.Forall₂ (fun item result => f item = .ok result) items
      results := by
  induction items generalizing results with
  | nil =>
    rw [List.forall₂_nil_left_iff]
    exact ⟨fun h => (Except.ok.inj h).symm, fun h => h ▸ rfl⟩
  | cons first items ih =>
    rw [List.mapM_cons, except_bind_eq_ok]
    constructor
    · rintro ⟨b, hb, h⟩
      obtain ⟨more, hmore, h⟩ := except_bind_eq_ok.1 h
      rw [← Except.ok.inj h]
      exact .cons hb (ih.1 hmore)
    · intro h
      cases h with
      | cons hb hmore => exact ⟨_, hb, except_bind_eq_ok.2 ⟨_, ih.2 hmore, rfl⟩⟩

/-- A result of the loop is that of its item. -/
theorem getElem?_of_mapM {ε α β : Type} {f : α → Except ε β} {items : List α} {results : List β}
    (h : items.mapM f = .ok results) {i : ℕ} {item : α} (hi : items[i]? = some item) :
    ∃ b, results[i]? = some b ∧ f item = .ok b := by
  rw [mapM_eq_ok_iff] at h
  induction h generalizing i with
  | nil => cases hi
  | cons hfirst _ ih =>
    cases i with
    | zero =>
      obtain rfl := Option.some.inj hi
      exact ⟨_, rfl, hfirst⟩
    | succ i => exact ih hi

theorem exists_ok_of_mapM {ε α β : Type} {f : α → Except ε β} {items : List α} {results : List β}
    (h : items.mapM f = .ok results) {item : α} (hmem : item ∈ items) : ∃ b, f item = .ok b := by
  obtain ⟨i, hi⟩ := List.mem_iff_getElem?.1 hmem
  obtain ⟨b, -, hb⟩ := getElem?_of_mapM h hi
  exact ⟨b, hb⟩

/-- Every result is that of an item. -/
theorem exists_item_of_mapM {ε α β : Type} {f : α → Except ε β} {items : List α}
    {results : List β} (h : items.mapM f = .ok results) {b : β} (hmem : b ∈ results) :
    ∃ item ∈ items, f item = .ok b := by
  rw [mapM_eq_ok_iff] at h
  induction h with
  | nil => cases hmem
  | cons hfirst _ ih =>
    rcases List.mem_cons.1 hmem with rfl | hmem
    · exact ⟨_, List.mem_cons_self, hfirst⟩
    · obtain ⟨item, hitem, hb⟩ := ih hmem
      exact ⟨item, List.mem_cons_of_mem _ hitem, hb⟩

/-- What the items and their results have in common. -/
theorem map_eq_map_of_mapM {ε α β γ : Type} {f : α → Except ε β} {items : List α}
    {results : List β} {g : α → γ} {k : β → γ} (h : items.mapM f = .ok results)
    (hfg : ∀ item b, f item = .ok b → g item = k b) : items.map g = results.map k := by
  have hmap := List.forall₂_map_right_iff.2 (List.forall₂_map_left_iff.2
    ((mapM_eq_ok_iff.1 h).imp hfg))
  rwa [List.forall₂_eq_eq_eq] at hmap

/-- A loop returns when every item has a result. -/
theorem exists_mapM_eq_ok {ε α β : Type} {f : α → Except ε β} {items : List α}
    (h : ∀ item ∈ items, ∃ b, f item = .ok b) : ∃ results, items.mapM f = .ok results := by
  induction items with
  | nil => exact ⟨[], rfl⟩
  | cons first items ih =>
    obtain ⟨⟨b, hb⟩, h⟩ := List.forall_mem_cons.1 h
    obtain ⟨results, hresults⟩ := ih h
    rw [List.mapM_cons, hb, hresults]
    exact ⟨b :: results, rfl⟩

/-- A loop over items that were made from others. -/
theorem mapM_map_eq_ok {ε α β γ : Type} {f : β → Except ε γ} {g : α → β} {k : α → γ}
    (h : ∀ a, f (g a) = .ok (k a)) (items : List α) :
    (items.map g).mapM f = .ok (items.map k) := by
  rw [mapM_eq_ok_iff, List.forall₂_map_left_iff, List.forall₂_map_right_iff, List.forall₂_same]
  exact fun a _ => h a

/-- A loop of checks passes when every item does. -/
theorem forM_eq_ok_iff {ε α : Type} {f : α → Except ε Unit} {items : List α} :
    items.forM f = .ok () ↔ ∀ item ∈ items, f item = .ok () := by
  induction items with
  | nil => exact ⟨fun _ => List.forall_mem_nil _, fun _ => rfl⟩
  | cons first items ih =>
    rw [List.forM_eq_forM, List.forM_cons, except_bind_eq_ok, List.forall_mem_cons, ← ih]
    constructor
    · rintro ⟨_, hfirst, h⟩
      exact ⟨hfirst, h⟩
    · rintro ⟨hfirst, h⟩
      exact ⟨(), hfirst, h⟩

/-- **A loop with a state** whose body reads its item first reads all items. -/
theorem foldlM_eq_map_foldl {ε σ α γ : Type} {step : σ → α → Except ε σ} {read : α → Except ε γ}
    {next : σ → γ → σ} (hstep : ∀ s a, step s a = (read a).map (next s)) (items : List α) (s : σ) :
    items.foldlM step s = (items.mapM read).map fun results => results.foldl next s := by
  induction items generalizing s with
  | nil => rfl
  | cons first items ih =>
    rw [List.foldlM_cons, List.mapM_cons, hstep]
    cases read first with
    | error e => rfl
    | ok result =>
      show items.foldlM step (next s result) = _
      rw [ih]
      cases items.mapM read <;> rfl

/-- A loop over numbered items reads the items. -/
theorem mapM_zipIdx {ε α γ : Type} (read : α → Except ε γ) (items : List α) (n : ℕ) :
    ((items.zipIdx n).mapM fun item => (read item.1).map fun result => (result, item.2))
      = (items.mapM read).map fun results => results.zipIdx n := by
  induction items generalizing n with
  | nil => rfl
  | cons first items ih =>
    rw [List.zipIdx_cons, List.mapM_cons, List.mapM_cons, ih]
    cases read first with
    | error e => rfl
    | ok result => cases items.mapM read <;> rfl

/-! ## Numbers -/

/-- Floats of type `τ`.  `ofRat` is a literal or a quotient of integers, `ofInt` and `ofText`
are `float` (with `none` for `ValueError`), `trunc` is `int`, and the last four are of `math`
and `statistics`. -/
structure Arithmetic (τ : Type) where
  ofRat : ℚ → τ
  ofInt : ℤ → Except ToolError τ
  ofText : List Char → Option τ
  trunc : τ → Except ToolError ℤ
  add : τ → τ → τ
  sub : τ → τ → τ
  mul : τ → τ → τ
  div : τ → τ → τ
  lt : τ → τ → Bool
  eq : τ → τ → Bool
  eqInt : ℤ → τ → Bool
  floor : τ → ℤ
  ceil : τ → ℤ
  sqrt : τ → τ
  fmean : List τ → Except ToolError τ
  stdev : List τ → Except ToolError τ

namespace Arithmetic

variable {τ α : Type}

/-- `sorted(items, key=key)`: items with equal keys keep their order. -/
def sortedBy (A : Arithmetic τ) (key : α → τ) (items : List α) : List α :=
  items.insertionSort fun x y => A.lt (key y) (key x) = false

/-- `sorted(values)`. -/
def sorted (A : Arithmetic τ) (values : List τ) : List τ := A.sortedBy id values

/-- The arithmetic mean. -/
def mean (values : List ℚ) : ℚ := values.sum / values.length

/-- The sample variance. -/
def variance (values : List ℚ) : ℚ :=
  (values.map fun x => (x - mean values) ^ 2).sum / (values.length - 1)

/-- Exact rational numbers.  `math.sqrt` need not be rational and is given. -/
def exact (sqrt : ℚ → ℚ) : Arithmetic ℚ where
  ofRat x := x
  ofInt n := .ok n
  ofText text :=
    let (negative, body) := readSign (stripNumber text)
    (decimalValue? (body.map Char.toLower)).map fun value => if negative then -value else value
  trunc x := .ok (if 0 ≤ x then ⌊x⌋ else ⌈x⌉)
  add x y := x + y
  sub x y := x - y
  mul x y := x * y
  div x y := x / y
  lt x y := x < y
  eq x y := x = y
  eqInt n x := (n : ℚ) = x
  floor x := ⌊x⌋
  ceil x := ⌈x⌉
  sqrt := sqrt
  fmean values :=
    if values = [] then .error (.valueError "fmean requires at least one data point")
    else .ok (mean values)
  stdev values :=
    if values.length < 2 then .error (.valueError "stdev requires at least two data points")
    else .ok (sqrt (variance values))

theorem sortedBy_perm (A : Arithmetic τ) (key : α → τ) (items : List α) :
    (A.sortedBy key items).Perm items := List.perm_insertionSort _ items

/-- **Sorting** with exact numbers. -/
theorem sortedBy_pairwise (sqrt : ℚ → ℚ) (key : α → ℚ) (items : List α) :
    ((exact sqrt).sortedBy key items).Pairwise fun x y => key x ≤ key y := by
  have hle : ∀ x y, (exact sqrt).lt (key y) (key x) = false ↔ key x ≤ key y := by
    intro x y
    rw [← not_lt]
    exact decide_eq_false_iff_not
  have htotal : Std.Total fun x y => (exact sqrt).lt (key y) (key x) = false := by
    refine ⟨fun x y => ?_⟩
    rw [hle, hle]
    exact le_total _ _
  have htrans : IsTrans α fun x y => (exact sqrt).lt (key y) (key x) = false := by
    refine ⟨fun x y z hxy hyz => ?_⟩
    rw [hle] at *
    exact hxy.trans hyz
  exact (List.pairwise_insertionSort _ items).imp fun {x y} => (hle x y).1

end Arithmetic

/-! ## Values -/

/-- What `json.loads` returns.  The fields of a `dict` have different names. -/
inductive Value (τ : Type) where
  | null
  | bool (value : Bool)
  | int (value : ℤ)
  | float (value : τ)
  | str (text : String)
  | list (items : List (Value τ))
  | dict (fields : List (String × Value τ))

namespace Value

variable {τ : Type}

/-- `value[key]`. -/
def item (key : String) : Value τ → Except ToolError (Value τ)
  | dict fields =>
      match fields.lookup key with
      | some value => .ok value
      | none => .error .keyError
  | _ => .error .typeError

/-- `value.get(key)`, with the default `none`. -/
def get? (key : String) : Value τ → Except ToolError (Option (Value τ))
  | dict fields => .ok (fields.lookup key)
  | _ => .error .attributeError

/-- The value is the text. -/
def isText (text : String) : Value τ → Bool
  | str other => other = text
  | _ => false

/-- `key in value`. -/
def contains (key : String) : Value τ → Except ToolError Bool
  | dict fields => .ok (fields.lookup key).isSome
  | list items => .ok (items.any (isText key))
  | str text => .ok (text.toList.tails.any fun rest => key.toList.isPrefixOf rest)
  | _ => .error .typeError

/-- The values of `for item in value`. -/
def iterate : Value τ → Except ToolError (List (Value τ))
  | list items => .ok items
  | dict fields => .ok (fields.map fun field => str field.1)
  | str text => .ok (text.toList.map fun c => str (String.ofList [c]))
  | _ => .error .typeError

/-- The fields of `{**value}`. -/
def spread : Value τ → Except ToolError (List (String × Value τ))
  | dict fields => .ok fields
  | _ => .error .typeError

/-- `{**fields, key: value}`. -/
def setField (fields : List (String × Value τ)) (key : String) (value : Value τ) :
    List (String × Value τ) :=
  if (fields.lookup key).isSome then
    fields.map fun field => if field.1 = key then (key, value) else field
  else fields ++ [(key, value)]

/-- The value at a key that is there is replaced. -/
theorem lookup_map_replace (fields : List (String × Value τ)) (key other : String)
    (value : Value τ) :
    (fields.map fun field => if field.1 = key then (key, value) else field).lookup other
      = if other = key then (fields.lookup key).map fun _ => value else fields.lookup other := by
  induction fields with
  | nil =>
    rw [List.map_nil, List.lookup_nil, List.lookup_nil, Option.map_none, ite_self]
  | cons field fields ih =>
    obtain ⟨name, old⟩ := field
    rw [List.map_cons, List.lookup_cons, List.lookup_cons]
    by_cases hname : name = key
    · obtain rfl := hname
      rw [if_pos rfl, List.lookup_cons, ih, beq_self_eq_true]
      by_cases hother : other = name
      · rw [hother, beq_self_eq_true, if_pos rfl, if_pos rfl]
        rfl
      · rw [if_neg hother, if_neg hother, beq_eq_false_iff_ne.2 hother]
    · rw [if_neg hname, List.lookup_cons, ih, beq_eq_false_iff_ne.2 (Ne.symm hname)]
      by_cases hother : other = key
      · rw [if_pos hother, if_pos hother, hother, beq_eq_false_iff_ne.2 (Ne.symm hname)]
      · rw [if_neg hother, if_neg hother]

/-- **A field** that is set, and the other ones. -/
theorem lookup_setField (fields : List (String × Value τ)) (key other : String)
    (value : Value τ) :
    (setField fields key value).lookup other
      = if other = key then some value else fields.lookup other := by
  unfold setField
  by_cases hpresent : (fields.lookup key).isSome
  · obtain ⟨old, hold⟩ := Option.isSome_iff_exists.1 hpresent
    rw [if_pos hpresent, lookup_map_replace, hold]
    rfl
  · rw [Option.not_isSome_iff_eq_none] at hpresent
    rw [if_neg (by rw [hpresent]; exact Bool.false_ne_true), List.lookup_append, List.lookup_cons]
    by_cases hother : other = key
    · rw [hother, hpresent, beq_self_eq_true, if_pos rfl]
      rfl
    · rw [if_neg hother, beq_eq_false_iff_ne.2 hother]
      exact Option.or_none

@[simp] theorem item_setField_self (fields : List (String × Value τ)) (key : String)
    (value : Value τ) : (dict (setField fields key value)).item key = .ok value := by
  rw [item, lookup_setField, if_pos rfl]

theorem item_setField_of_ne (fields : List (String × Value τ)) {key other : String}
    (value : Value τ) (h : other ≠ key) :
    (dict (setField fields key value)).item other = (dict fields).item other := by
  rw [item, lookup_setField, if_neg h, item]

/-- `float(value)`. -/
def toFloat (A : Arithmetic τ) : Value τ → Except ToolError τ
  | bool value => A.ofInt value.toNat
  | int value => A.ofInt value
  | float value => .ok value
  | str text =>
      match A.ofText text.toList with
      | some value => .ok value
      | none => .error (.valueError "")
  | _ => .error .typeError

/-- `int(value)`. -/
def toInt (A : Arithmetic τ) : Value τ → Except ToolError ℤ
  | bool value => .ok value.toNat
  | int value => .ok value
  | float value => A.trunc value
  | str text =>
      match pyInt? text.toList with
      | some value => .ok value
      | none => .error (.valueError "")
  | _ => .error .typeError

/-- The integer that the value is equal to as a number, for integers and booleans. -/
def integer? : Value τ → Option ℤ
  | bool value => some value.toNat
  | int value => some value
  | _ => none

mutual

/-- `first == second`. -/
def eq (A : Arithmetic τ) : Value τ → Value τ → Bool
  | null, null => true
  | str text, str text' => text = text'
  | float x, float y => A.eq x y
  | float x, other | other, float x => (other.integer?.map fun n => A.eqInt n x).getD false
  | list items, list items' => eqItems A items items'
  | dict fields, dict fields' => fields.length = fields'.length && eqFields A fields fields'
  | value, value' => value.integer?.isSome && value.integer? = value'.integer?

/-- The items of two lists are equal. -/
def eqItems (A : Arithmetic τ) : List (Value τ) → List (Value τ) → Bool
  | [], [] => true
  | item :: items, item' :: items' => eq A item item' && eqItems A items items'
  | _, _ => false

/-- The fields are among the others. -/
def eqFields (A : Arithmetic τ) : List (String × Value τ) → List (String × Value τ) → Bool
  | [], _ => true
  | (key, value) :: fields, fields' =>
      (match fields'.lookup key with
        | some value' => eq A value value'
        | none => false) && eqFields A fields fields'

end

/-- `first.get(key) == second.get(key)`, for what the calls return. -/
def eqOptional (A : Arithmetic τ) (first second : Option (Value τ)) : Bool :=
  eq A (first.getD null) (second.getD null)

end Value

end MatfVpn
