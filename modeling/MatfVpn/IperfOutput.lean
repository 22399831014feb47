/-
# Outputs that `parse_iperf3_json` does not expect

The parser turns most unusable outputs into `ValueError`, which the measurement counts as a
failed attempt.

* `parse_uncaught_iff` : the outputs for which it raises another exception.
-/
import MatfVpn.BenchmarkCli

namespace MatfVpn

variable {τ : Type}

/-- The value is neither a text nor an array nor an object. -/
def Value.isScalar : Value τ → Bool
  | .null | .bool _ | .int _ | .float _ => true
  | _ => false

/-- A metric of the result is an integer that `float` refuses with an exception of its own, and
the metrics before it are there. -/
def HasHugeMetric (A : Arithmetic τ) (result : Value τ) (section_ : String)
    (names : List String) : Prop :=
  ∃ finish summary before name after value n e,
    result.item "end" = .ok finish ∧ finish.item section_ = .ok summary ∧
    names = before ++ name :: after ∧ (∀ other ∈ before, ∃ m, metric A summary other = .ok m) ∧
    summary.item name = .ok value ∧ value.integer? = some n ∧ A.ofInt n = .error e ∧
    e.isMissingMetric = false ∧ e.caughtText? = none

/-- Odd but valid JSON, as the output of a run that succeeded. -/
inductive UncaughtOutput (P : Interpreter τ) (protocol output : String) : Prop
  | tooDeep : P.loads output = .error .recursionError → UncaughtOutput P protocol output
  | scalar (result : Value τ) : P.loads output = .ok result → result.isScalar = true →
      UncaughtOutput P protocol output
  | errorInText (text : String) : P.loads output = .ok (.str text) →
      (.str text : Value τ).contains "error" = .ok true → UncaughtOutput P protocol output
  | errorInList (items : List (Value τ)) : P.loads output = .ok (.list items) →
      (.list items : Value τ).contains "error" = .ok true → UncaughtOutput P protocol output
  | errorTooDeep (fields : List (String × Value τ)) (error : Value τ) :
      P.loads output = .ok (.dict fields) → fields.lookup "error" = some error →
      P.str error = .error .recursionError → UncaughtOutput P protocol output
  | hugeMetric (fields : List (String × Value τ)) (section_ : String) (names : List String) :
      P.loads output = .ok (.dict fields) → fields.lookup "error" = none →
      expectedMetrics protocol = some (section_, names) →
      HasHugeMetric P.arithmetic (.dict fields) section_ names → UncaughtOutput P protocol output

/-! ## The metrics -/

variable {P : Interpreter τ} {A : Arithmetic τ} {result : Value τ} {protocol output : String}

/-- The exception is not among those of the retries. -/
def Uncaught {α : Type} (x : Except ToolError α) : Prop :=
  ∃ e, x = .error e ∧ e.caughtText? = none

theorem not_uncaught_ok {α : Type} (a : α) : ¬ Uncaught (.ok a : Except ToolError α) := by
  rintro ⟨e, he, -⟩
  cases he

theorem not_uncaught_valueError {α : Type} (message : String) :
    ¬ Uncaught (.error (.valueError message) : Except ToolError α) := by
  rintro ⟨e, he, hcaught⟩
  rw [← Except.error.inj he] at hcaught
  cases hcaught

/-- The exceptions of `json.loads` and `str`. -/
theorem uncaught_toToolError_iff {α : Type} (e : InterpreterError) :
    Uncaught (.error e.toToolError : Except ToolError α) ↔ e = .recursionError := by
  cases e with
  | recursionError => exact iff_of_true ⟨_, rfl, rfl⟩ rfl
  | _ => exact iff_of_false (not_uncaught_valueError _) InterpreterError.noConfusion

/-- A field that is missing is expected to be. -/
theorem isMissingMetric_of_item {value : Value τ} {key : String} {e : ToolError}
    (h : value.item key = .error e) : e.isMissingMetric = true := by
  cases value with
  | dict fields =>
    rw [Value.item] at h
    split at h
    · cases h
    · rw [← Except.error.inj h]
      rfl
  | _ =>
    rw [← Except.error.inj h]
    rfl

/-- `float` raises another exception only for integers. -/
theorem toFloat_eq_error {value : Value τ} {e : ToolError} (h : value.toFloat A = .error e)
    (he : e.isMissingMetric = false) : ∃ n, value.integer? = some n ∧ A.ofInt n = .error e := by
  cases value with
  | bool b => exact ⟨_, rfl, h⟩
  | int n => exact ⟨n, rfl, h⟩
  | float x => cases h
  | str text =>
    rw [Value.toFloat] at h
    split at h
    · cases h
    · rw [← Except.error.inj h] at he
      cases he
  | _ =>
    rw [← Except.error.inj h] at he
    cases he

theorem toFloat_of_integer? {value : Value τ} {n : ℤ} (h : value.integer? = some n) :
    value.toFloat A = A.ofInt n := by
  cases value with
  | bool b =>
    rw [← Option.some.inj h]
    rfl
  | int m =>
    rw [← Option.some.inj h]
    rfl
  | _ => cases h

/-- **The metrics** raise an exception that is not expected only for a huge integer. -/
theorem uncaught_expectMetrics_iff (result : Value τ) (section_ : String) (names : List String) :
    Uncaught (expectMetrics (sectionMetrics A result section_ names)) ↔
      HasHugeMetric A result section_ names := by
  constructor
  · rintro ⟨e, he, hcaught⟩
    unfold expectMetrics at he
    split at he
    · cases he
    rename_i e' he'
    split at he
    · rw [← Except.error.inj he] at hcaught
      cases hcaught
    rename_i hmissing
    rw [Bool.not_eq_true] at hmissing
    obtain rfl := Except.error.inj he
    unfold sectionMetrics at he'
    rcases except_bind_eq_error.1 he' with hitem | ⟨finish, hfinish, he'⟩
    · rw [isMissingMetric_of_item hitem] at hmissing
      cases hmissing
    rcases except_bind_eq_error.1 he' with hitem | ⟨summary, hsummary, he'⟩
    · rw [isMissingMetric_of_item hitem] at hmissing
      cases hmissing
    obtain ⟨before, name, after, hnames, hbefore, hname⟩ := mapM_eq_error_iff.1 he'
    rcases except_bind_eq_error.1 hname with hitem | ⟨value, hvalue, hname⟩
    · rw [isMissingMetric_of_item hitem] at hmissing
      cases hmissing
    rcases except_bind_eq_error.1 hname with hfloat | ⟨x, -, hx⟩
    · obtain ⟨n, hn, hhuge⟩ := toFloat_eq_error hfloat hmissing
      exact ⟨finish, summary, before, name, after, value, n, e', hfinish, hsummary, hnames,
        hbefore, hvalue, hn, hhuge, hmissing, hcaught⟩
    · cases hx
  · rintro ⟨finish, summary, before, name, after, value, n, e, hfinish, hsummary, hnames, hbefore,
      hvalue, hn, hhuge, hmissing, hcaught⟩
    have hname : metric A summary name = .error e := by
      refine except_bind_eq_error.2 (Or.inr ⟨value, hvalue, ?_⟩)
      rw [toFloat_of_integer? hn, hhuge]
      rfl
    have hsection : sectionMetrics A result section_ names = .error e := by
      refine except_bind_eq_error.2 (Or.inr ⟨finish, hfinish, ?_⟩)
      refine except_bind_eq_error.2 (Or.inr ⟨summary, hsummary, ?_⟩)
      exact mapM_eq_error_iff.2 ⟨before, name, after, hnames, hbefore, hname⟩
    refine ⟨e, ?_, hcaught⟩
    rw [hsection, expectMetrics, hmissing]
    rfl

/-! ## The parser -/

/-- A result without an error, for a protocol with metrics. -/
theorem metricsOfResult_of_expected {section_ : String} {names : List String}
    (hcontains : result.contains "error" = .ok false)
    (hexpected : expectedMetrics protocol = some (section_, names)) :
    metricsOfResult P result protocol
      = expectMetrics (sectionMetrics P.arithmetic result section_ names) := by
  unfold metricsOfResult
  rw [hcontains, hexpected]
  rfl

/-- A result without an error, for another protocol. -/
theorem metricsOfResult_of_unknown (hcontains : result.contains "error" = .ok false)
    (hexpected : expectedMetrics protocol = none) :
    metricsOfResult P result protocol = .error (.valueError "protocol must be tcp or udp") := by
  unfold metricsOfResult
  rw [hcontains, hexpected]
  rfl

/-- Without an error only the metrics raise other exceptions. -/
theorem uncaught_iff_of_contains_false (hcontains : result.contains "error" = .ok false) :
    Uncaught (metricsOfResult P result protocol) ↔ ∃ section_ names,
      expectedMetrics protocol = some (section_, names) ∧
      HasHugeMetric P.arithmetic result section_ names := by
  cases hexpected : expectedMetrics protocol with
  | none =>
    rw [metricsOfResult_of_unknown hcontains hexpected]
    refine iff_of_false (not_uncaught_valueError _) ?_
    rintro ⟨section_, names, h, -⟩
    cases h
  | some expected =>
    obtain ⟨section_, names⟩ := expected
    rw [metricsOfResult_of_expected hcontains hexpected, uncaught_expectMetrics_iff]
    constructor
    · exact fun h => ⟨section_, names, rfl, h⟩
    · rintro ⟨section', names', h, hhuge⟩
      obtain ⟨rfl, rfl⟩ := Prod.mk.inj (Option.some.inj h)
      exact hhuge

/-- With an error only its text raises one. -/
theorem uncaught_iff_of_lookup_some {fields : List (String × Value τ)} {error : Value τ}
    (herror : fields.lookup "error" = some error) :
    Uncaught (metricsOfResult P (.dict fields) protocol) ↔
      P.str error = .error .recursionError := by
  have hcontains : (Value.dict fields).contains "error" = .ok true := by
    rw [Value.contains, herror]
    rfl
  have hitem : (Value.dict fields).item "error" = .ok error := by
    rw [Value.item, herror]
  cases hstr : P.str error with
  | ok text =>
    have hresult : metricsOfResult P (.dict fields) protocol
        = .error (.valueError s!"iperf3 failed: {text}") := by
      unfold metricsOfResult
      rw [hcontains, hitem]
      simp only [bind, Except.bind, if_true, hstr]
    rw [hresult]
    exact iff_of_false (not_uncaught_valueError _) fun h => by cases h
  | error e =>
    have hresult : metricsOfResult P (.dict fields) protocol = .error e.toToolError := by
      unfold metricsOfResult
      rw [hcontains, hitem]
      simp only [bind, Except.bind, if_true, hstr]
    rw [hresult, uncaught_toToolError_iff, Except.error.injEq]

/-- The parser on an object. -/
theorem uncaught_dict_iff (fields : List (String × Value τ)) (protocol : String) :
    Uncaught (metricsOfResult P (.dict fields) protocol) ↔
      (∃ error, fields.lookup "error" = some error ∧ P.str error = .error .recursionError) ∨
      fields.lookup "error" = none ∧ ∃ section_ names,
        expectedMetrics protocol = some (section_, names) ∧
        HasHugeMetric P.arithmetic (.dict fields) section_ names := by
  cases herror : fields.lookup "error" with
  | some error =>
    rw [uncaught_iff_of_lookup_some herror]
    constructor
    · exact fun h => Or.inl ⟨error, rfl, h⟩
    · rintro (⟨error', h, hstr⟩ | ⟨h, -⟩)
      · rwa [← Option.some.inj h] at hstr
      · cases h
  | none =>
    have hcontains : (Value.dict fields).contains "error" = .ok false := by
      rw [Value.contains, herror]
      rfl
    rw [uncaught_iff_of_contains_false hcontains]
    constructor
    · exact fun h => Or.inr ⟨rfl, h⟩
    · rintro (⟨error, h, -⟩ | ⟨-, h⟩)
      · cases h
      · exact h

/-- The parser on a value that has items but no fields. -/
theorem uncaught_of_item_typeError {b : Bool} (hcontains : result.contains "error" = .ok b)
    (hitem : ∀ key, result.item key = .error .typeError) :
    Uncaught (metricsOfResult P result protocol) ↔ b = true := by
  cases b with
  | true =>
    refine iff_of_true ⟨.typeError, ?_, rfl⟩ rfl
    unfold metricsOfResult
    rw [hcontains, hitem]
    rfl
  | false =>
    refine iff_of_false ?_ Bool.false_ne_true
    rw [uncaught_iff_of_contains_false hcontains]
    rintro ⟨section_, names, -, finish, summary, before, name, after, value, n, e, hfinish, -⟩
    rw [hitem] at hfinish
    cases hfinish

/-- **The parser** raises an exception that is not retried for these outputs, and for no
others. -/
theorem parse_uncaught_iff (P : Interpreter τ) (output protocol : String) :
    Uncaught (parseIperf3Json P output protocol) ↔ UncaughtOutput P protocol output := by
  constructor
  · intro h
    unfold parseIperf3Json at h
    cases hloads : P.loads output with
    | error e =>
      rw [hloads] at h
      cases e with
      | jsonDecodeError message => exact absurd h (not_uncaught_valueError _)
      | valueError message => exact absurd h (not_uncaught_valueError _)
      | recursionError => exact .tooDeep hloads
    | ok result =>
      rw [hloads] at h
      -- `in` works on a `dict`, a text and a list, and raises for every other result
      cases result with
      | dict fields =>
        rcases (uncaught_dict_iff fields protocol).1 h with ⟨error, herror, hstr⟩ |
          ⟨hnone, section_, names, hexpected, hhuge⟩
        · exact .errorTooDeep fields error hloads herror hstr
        · exact .hugeMetric fields section_ names hloads hnone hexpected hhuge
      | str text =>
        refine .errorInText text hloads ?_
        exact congrArg Except.ok ((uncaught_of_item_typeError rfl fun _ => rfl).1 h)
      | list items =>
        refine .errorInList items hloads ?_
        exact congrArg Except.ok ((uncaught_of_item_typeError rfl fun _ => rfl).1 h)
      | _ => exact .scalar _ hloads rfl
  · intro h
    unfold parseIperf3Json
    cases h with
    | tooDeep hloads =>
      rw [hloads]
      exact ⟨.recursionError, rfl, rfl⟩
    | scalar result hloads hscalar =>
      rw [hloads]
      cases result <;> first | exact ⟨.typeError, rfl, rfl⟩ | cases hscalar
    | errorInText text hloads herror =>
      rw [hloads]
      exact (uncaught_of_item_typeError herror fun _ => rfl).2 rfl
    | errorInList items hloads herror =>
      rw [hloads]
      exact (uncaught_of_item_typeError herror fun _ => rfl).2 rfl
    | errorTooDeep fields error hloads herror hstr =>
      rw [hloads]
      exact (uncaught_dict_iff fields protocol).2 (Or.inl ⟨error, herror, hstr⟩)
    | hugeMetric fields section_ names hloads hnone hexpected hhuge =>
      rw [hloads]
      exact (uncaught_dict_iff fields protocol).2
        (Or.inr ⟨hnone, section_, names, hexpected, hhuge⟩)

end MatfVpn
