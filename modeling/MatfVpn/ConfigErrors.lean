/-
# What loading a configuration raises

The callers of `load_config` catch `ValueError`.

* `loadConfig_raises` : `load_config` raises nothing else, but for a number that is too large and
  for a document that nests too deeply;
* `loadPresharedKey_raises`, `loadX25519PrivateKey_raises` : the same for the key files.
-/
import MatfVpn.ConfigFile
import MatfVpn.Endpoint
import MatfVpn.Lib.Raises

namespace MatfVpn

/-! ## Profiles -/

/-- A `ValueError` with a message. -/
def IsValueError (e : PyError) : Prop := ∃ message, e = .valueError message

theorem raises_valueError {α : Type} (message : String) :
    Raises IsValueError (.error (.valueError message) : Except PyError α) :=
  Raises.error ⟨message, rfl⟩

theorem encodeAscii_raises (text : String) : Raises IsValueError (encodeAscii text) :=
  Raises.ite (Raises.ok _) (raises_valueError _)

theorem EndpointConfig.validateTun_raises (config : EndpointConfig Binary64) :
    Raises IsValueError config.validateTun := by
  unfold EndpointConfig.validateTun
  refine Raises.ite (Raises.error_bind ⟨_, rfl⟩ _) (Raises.ite (Raises.error_bind ⟨_, rfl⟩ _) ?_)
  refine Raises.bind (encodeAscii_raises _) fun name => ?_
  exact Raises.ite (raises_valueError _) (Raises.ok _)

/-- **`_validate`** raises nothing but `ValueError`. -/
theorem EndpointConfig.validate_raises (config : EndpointConfig Binary64) :
    Raises IsValueError config.validate := by
  unfold EndpointConfig.validate
  refine config.validateTun_raises.bind fun _ => Raises.bind ?_ fun _ => ?_
  · unfold EndpointConfig.validateNumbers
    repeat' first | exact Raises.ok _ | exact raises_valueError _ | apply Raises.ite
  · unfold EndpointConfig.validateKeys
    repeat' first | exact Raises.ok _ | exact raises_valueError _ | apply Raises.ite

/-- The fields that `_number` reads. -/
def numberFields : List String :=
  ["handshake_timeout", "reconnect_delay", "keepalive_interval", "liveness_timeout"]

/-- A number of the profile is an integer that no float is close to. -/
def HasLargeNumber (documents : Documents) (path : PosixPath) : Prop :=
  ∃ raw field value, documents path = .ok (.object raw) ∧ field ∈ numberFields ∧
    raw.lookup field = some (.int value) ∧ ∀ x, Binary64.round value ≠ .finite x

/-- What a reader of the fields raises: `ValueError`, or that a number is too large. -/
def FieldError (raw : JsonObject) (e : PyError) : Prop :=
  IsValueError e ∨ e = .overflowError "int too large to convert to float" ∧
    ∃ field value, field ∈ numberFields ∧ raw.lookup field = some (.int value) ∧
      ∀ x, Binary64.round value ≠ .finite x

section fields

variable {raw : JsonObject}

theorem fieldError_valueError {α : Type} (message : String) :
    Raises (FieldError raw) (.error (.valueError message) : Except PyError α) :=
  Raises.error (Or.inl ⟨message, rfl⟩)

theorem getString_raises (field : String) (default : Option String) :
    Raises (FieldError raw) (getString raw field default) := by
  unfold getString
  split
  · exact Raises.ok _
  · exact fieldError_valueError _

theorem getOptionalString_raises (field : String) :
    Raises (FieldError raw) (getOptionalString raw field) := by
  unfold getOptionalString
  split
  · exact Raises.ok _
  · exact Raises.ok _
  · exact fieldError_valueError _

theorem getInteger_raises (field : String) (default : ℤ) :
    Raises (FieldError raw) (getInteger raw field default) := by
  unfold getInteger
  split
  · exact Raises.ok _
  · exact fieldError_valueError _

theorem getBoolean_raises (field : String) (default : Bool) :
    Raises (FieldError raw) (getBoolean raw field default) := by
  unfold getBoolean
  split
  · exact Raises.ok _
  · exact fieldError_valueError _

theorem getPath_raises (field : String) (baseDirectory : PosixPath) :
    Raises (FieldError raw) (getPath raw field baseDirectory) := by
  unfold getPath
  split
  · exact Raises.ok _
  · exact Raises.ok _
  · exact fieldError_valueError _

theorem getEndpoint_raises (value : Json) (field : String) :
    Raises (FieldError raw) (getEndpoint value field) := by
  unfold getEndpoint parseAddress
  split
  · split
    · exact fieldError_valueError _
    · split
      · exact Raises.ite (fieldError_valueError _) (Raises.ok _)
      · exact fieldError_valueError _
  · exact fieldError_valueError _

theorem parseRole_raises (role : Option String) : Raises (FieldError raw) (parseRole role) := by
  unfold parseRole
  split
  · exact Raises.ok _
  · exact Raises.ok _
  · exact Raises.ok _
  · exact fieldError_valueError _

/-- **A number** is the only field whose reader raises something else. -/
theorem getNumber_raises {field : String} (hfield : field ∈ numberFields) (default : Binary64) :
    Raises (FieldError raw) (getNumber raw field default) := by
  unfold getNumber
  split
  · rename_i value hvalue
    unfold floatOfInt
    split
    · exact Raises.ok _
    · rename_i hlarge
      refine Raises.error (Or.inr ⟨rfl, field, value, hfield, ?_, hlarge⟩)
      unfold JsonObject.get at hvalue
      cases hlookup : raw.lookup field with
      | none =>
        rw [hlookup] at hvalue
        cases hvalue
      | some found =>
        rw [hlookup] at hvalue
        exact congrArg some hvalue
  · exact Raises.ok _
  · exact fieldError_valueError _

theorem checkUnknown_raises (allowed : List String) (what : String) :
    Raises (FieldError raw) (checkUnknown raw allowed what) :=
  Raises.ite (fieldError_valueError _) (Raises.ok _)

theorem checkRequired_raises (what : String) (required : List String) :
    Raises (FieldError raw) (checkRequired raw what required) := by
  induction required with
  | nil => exact Raises.ok _
  | cons field required ih => exact Raises.ite (fieldError_valueError _) ih

/-- **The fields of a profile.** -/
theorem configOfObject_raises (baseDirectory : PosixPath) :
    Raises (FieldError raw) (configOfObject baseDirectory raw) := by
  unfold configOfObject
  refine (checkUnknown_raises _ _).bind fun _ => (checkRequired_raises _ _).bind fun _ => ?_
  refine (getOptionalString_raises _).bind fun _ => (parseRole_raises _).bind fun _ => ?_
  refine (getString_raises _ _).bind fun _ => (getString_raises _ _).bind fun _ => ?_
  refine (getEndpoint_raises _ _).bind fun _ => (getEndpoint_raises _ _).bind fun _ => ?_
  refine (getInteger_raises _ _).bind fun _ => (getInteger_raises _ _).bind fun _ => ?_
  refine (getPath_raises _ _).bind fun _ => (getPath_raises _ _).bind fun _ => ?_
  refine (getPath_raises _ _).bind fun _ => (getBoolean_raises _ _).bind fun _ => ?_
  refine (getNumber_raises (by decide) _).bind fun _ => (getInteger_raises _ _).bind fun _ => ?_
  refine (getNumber_raises (by decide) _).bind fun _ => (getBoolean_raises _ _).bind fun _ => ?_
  refine (getNumber_raises (by decide) _).bind fun _ => ?_
  exact (getNumber_raises (by decide) _).bind fun _ => Raises.ok _

end fields

/-- The exceptions of `load_config` that are no `ValueError`, and when it raises them. -/
inductive LoadEscapes (documents : Documents) (path : PosixPath) : PyError → Prop
  | overflow : HasLargeNumber documents path →
      LoadEscapes documents path (.overflowError "int too large to convert to float")
  | recursion (message : String) : documents path = .error (.recursionError message) →
      LoadEscapes documents path (.recursionError message)

/-- **What `load_config` raises**: `ValueError`, but for a number that is too large and for a
document that nests too deeply. -/
theorem loadConfig_raises (documents : Documents) (path : PosixPath) :
    Raises (fun e => IsValueError e ∨ LoadEscapes documents path e)
      (loadConfig documents path) := by
  unfold loadConfig
  cases hdocument : documents path with
  | error error =>
    cases error with
    | caught message => exact Raises.error (Or.inl ⟨_, rfl⟩)
    | valueError message => exact Raises.error (Or.inl ⟨_, rfl⟩)
    | recursionError message => exact Raises.error (Or.inr (.recursion message hdocument))
  | ok value =>
    cases value with
    | object raw =>
      refine Raises.bind ((configOfObject_raises _).mono fun e h => ?_) fun config =>
        Raises.bind (config.validate_raises.mono fun e h => Or.inl h) fun _ => Raises.ok _
      refine h.imp id ?_
      rintro ⟨rfl, field, value, hfield, hvalue, hlarge⟩
      exact .overflow ⟨raw, field, value, hdocument, hfield, hvalue, hlarge⟩
    | _ => exact Raises.error (Or.inl ⟨_, rfl⟩)

/-! ## Keys -/

theorem loadPresharedKey_raises (files : KeyFiles) (path : String) :
    Raises IsValueError (loadPresharedKey files path) := by
  unfold loadPresharedKey
  split
  · exact raises_valueError _
  · refine Raises.ite (raises_valueError _) ?_
    split
    · exact raises_valueError _
    · exact Raises.ite (raises_valueError _) (Raises.ok _)

theorem readX25519Key_raises (file : Option KeyFile) (label : String) :
    Raises IsValueError (readX25519Key file label) := by
  unfold readX25519Key
  split
  · exact raises_valueError _
  · exact Raises.ite (raises_valueError _) (Raises.ok _)

theorem loadX25519PrivateKey_raises (files : KeyFiles) (path : String) :
    Raises IsValueError (loadX25519PrivateKey files path) := by
  unfold loadX25519PrivateKey
  split
  · exact raises_valueError _
  · exact Raises.ite (raises_valueError _) (readX25519Key_raises _ _)

theorem loadX25519PublicKey_raises (files : KeyFiles) (path : String) :
    Raises IsValueError (loadX25519PublicKey files path) := readX25519Key_raises _ _

end MatfVpn
