/-
# The configuration of an endpoint (`config.py`)

The typed configuration and the checks of `_validate`, with the parts of `ipaddress`
that they call.  The type `τ` of the timing values is the type of the clock.
-/
import MatfVpn.Crypto

namespace MatfVpn

/-! ## `ipaddress` -/

/-- `text.isascii() and text.isdigit()`. -/
def isDecimal (text : List Char) : Bool := !text.isEmpty && text.all Char.isDigit

/-- `int(text, 10)` for decimal digits. -/
def parseDecimal (text : List Char) : ℕ :=
  text.foldl (fun n c => 10 * n + (c.toNat - '0'.toNat)) 0

/-- `_parse_octet`. -/
def parseOctet (text : List Char) : Option ℕ :=
  if ¬ isDecimal text ∨ text.length > 3 then none
  else if text ≠ ['0'] ∧ text.head? = some '0' then none
  else if parseDecimal text > 255 then none
  else some (parseDecimal text)

/-- `ipaddress.IPv4Address(text)` as a 32-bit number, with `none` for `AddressValueError`. -/
def parseIPv4 (text : List Char) : Option ℕ :=
  match text.splitOn '.' with
  | [a, b, c, d] => do
      let a ← parseOctet a
      let b ← parseOctet b
      let c ← parseOctet c
      let d ← parseOctet d
      return ((a * 256 + b) * 256 + c) * 256 + d
  | _ => none

/-- The prefix length of a netmask. -/
def prefixOfNetmask? (n : ℕ) : Option ℕ :=
  (List.range 33).find? fun prefixLength => n == 2 ^ 32 - 2 ^ (32 - prefixLength)

/-- `_make_netmask`: a prefix length, a netmask or a host mask. -/
def prefixOfMask? (text : List Char) : Option ℕ :=
  if isDecimal text then
    if parseDecimal text ≤ 32 then some (parseDecimal text) else none
  else
    (parseIPv4 text).bind fun n =>
      (prefixOfNetmask? n).or (prefixOfNetmask? (2 ^ 32 - 1 - n))

/-- `ipaddress.IPv4Interface(text)`: the address and the length of the prefix. -/
def parseInterface? (text : String) : Option (ℕ × ℕ) :=
  match text.toList.splitOn '/' with
  | [address] => (parseIPv4 address).map fun ip => (ip, 32)
  | [address, mask] => do return (← parseIPv4 address, ← prefixOfMask? mask)
  | _ => none

/-- `ipaddress.IPv4Interface(text)` returns. -/
def isIPv4Interface (text : String) : Bool := (parseInterface? text).isSome

/-! ## The configuration -/

/-- `EndpointConfig`. -/
structure EndpointConfig (τ : Type) where
  tunName : String
  tunAddress : String
  bind : Address
  peer : Address
  mtu : ℤ
  sessionId : ℤ
  keyFile : Option String
  privateKeyFile : Option String
  peerPublicKeyFile : Option String
  role : Option EndpointRole
  ephemeralHandshake : Bool
  handshakeTimeout : τ
  packetsPerKey : ℤ
  reconnectDelay : τ
  keepaliveInterval : τ
  livenessTimeout : τ

/-- `text.encode("ascii")`. -/
def encodeAscii (text : String) : Except PyError Bytes :=
  if text.toList.all fun c => c.toNat < 128 then
    .ok (text.toList.map fun c => UInt8.ofNat c.toNat)
  else .error (.valueError "'ascii' codec can't encode characters")

namespace EndpointConfig

variable {τ : Type}

/-- `uses_psk`. -/
def usesPsk (config : EndpointConfig τ) : Bool := config.keyFile.isSome

/-- `uses_x25519`. -/
def usesX25519 (config : EndpointConfig τ) : Bool :=
  config.privateKeyFile.isSome || config.peerPublicKeyFile.isSome

/-- `encrypted`. -/
def encrypted (config : EndpointConfig τ) : Bool := config.usesPsk || config.usesX25519

/-- The checks of `_validate` on the TUN device. -/
def validateTun (config : EndpointConfig τ) : Except PyError Unit := do
  if ¬ isIPv4Interface config.tunAddress then
    throw (.valueError "tun_address must be an IPv4 interface in CIDR notation")
  if config.tunName.toList = [] then
    throw (.valueError "tun_name must contain 1 to 15 ASCII bytes")
  let name ← encodeAscii config.tunName
  if name.length > 15 then
    throw (.valueError "tun_name must contain 1 to 15 ASCII bytes")

/-- What `_validate` has checked of the name of the TUN device. -/
theorem validateTun_ok {config : EndpointConfig τ} (h : config.validateTun = .ok ()) :
    config.tunName.toList ≠ [] ∧ ∃ name, encodeAscii config.tunName = .ok name ∧
      name.length ≤ 15 := by
  unfold validateTun at h
  by_cases haddress : ¬ isIPv4Interface config.tunAddress
  · rw [if_pos haddress] at h
    cases h
  rw [if_neg haddress] at h
  by_cases hname : config.tunName.toList = []
  · simp only [if_pos hname] at h
    cases h
  simp only [if_neg hname] at h
  obtain ⟨name, hencode, hlen⟩ := except_bind_eq_ok.1 h
  by_cases hlong : name.length > 15
  · rw [if_pos hlong] at hlen
    cases hlen
  · exact ⟨hname, name, hencode, Nat.not_lt.1 hlong⟩

variable [Zero τ] [DecidableEq τ]

/-- The checks of `_validate` on the keys. -/
def validateKeys (config : EndpointConfig τ) : Except PyError Unit :=
  if config.usesPsk ∧ config.usesX25519 then
    .error (.valueError "PSK and X25519 key options are mutually exclusive")
  else if config.usesX25519 ∧ (config.privateKeyFile = none ∨ config.peerPublicKeyFile = none) then
    .error (.valueError "both X25519 key files are required")
  else if config.encrypted ≠ config.role.isSome then
    .error (.valueError "role is required exactly when encryption is enabled")
  else if config.ephemeralHandshake ∧ ¬ config.usesX25519 then
    .error (.valueError "ephemeral_handshake requires X25519 key files")
  else if config.packetsPerKey > 0 ∧ ¬ config.encrypted then
    .error (.valueError "packets_per_key requires encryption")
  else if config.livenessTimeout ≠ 0 ∧ ¬ config.ephemeralHandshake then
    .error (.valueError "active liveness requires ephemeral_handshake")
  else .ok ()

/-- What `_validate` has checked of the keys. -/
theorem validateKeys_ok {config : EndpointConfig τ} (h : config.validateKeys = .ok ()) :
    (config.usesPsk → ¬ config.usesX25519) ∧
      (config.usesX25519 →
        config.privateKeyFile.isSome = true ∧ config.peerPublicKeyFile.isSome = true) ∧
      config.encrypted = config.role.isSome ∧
      (config.ephemeralHandshake = true → config.usesX25519 = true) ∧
      (config.ephemeralHandshake = false → config.livenessTimeout = 0) := by
  simp only [validateKeys, ite_error_eq_ok] at h
  obtain ⟨hboth, hfiles, hrole, hephemeral, -, hlive, -⟩ := h
  refine ⟨fun hp hx => hboth ⟨hp, hx⟩, fun hx => ?_, not_not.1 hrole, fun he => ?_, fun he => ?_⟩
  · have hsome := fun h => hfiles ⟨hx, h⟩
    rw [imp_false, not_or, ← ne_eq, ← ne_eq, ← Option.isSome_iff_ne_none,
      ← Option.isSome_iff_ne_none] at hsome
    exact hsome
  · by_contra hx
    exact hephemeral ⟨he, hx⟩
  · by_contra hne
    exact hlive ⟨hne, by simp [he]⟩

variable [LT τ] [LE τ] [DecidableLT τ] [DecidableLE τ]

/-- The checks of `_validate` on the numbers. -/
def validateNumbers (config : EndpointConfig τ) : Except PyError Unit :=
  if ¬ (576 ≤ config.mtu ∧ config.mtu ≤ 65535) then
    .error (.valueError "mtu must be between 576 and 65535")
  else if ¬ (0 ≤ config.sessionId ∧ config.sessionId ≤ 0xFFFFFFFF) then
    .error (.valueError "session_id must fit in 32 bits")
  else if config.handshakeTimeout ≤ 0 ∨ config.reconnectDelay < 0 then
    .error (.valueError "timeouts and reconnect delay must be valid")
  else if config.packetsPerKey < 0 then
    .error (.valueError "packets_per_key must not be negative")
  else if config.keepaliveInterval < 0 ∨ config.livenessTimeout < 0 then
    .error (.valueError "liveness values must not be negative")
  else if decide (config.keepaliveInterval ≠ 0) ≠ decide (config.livenessTimeout ≠ 0) then
    .error (.valueError "keepalive_interval and liveness_timeout must be enabled together")
  else if config.livenessTimeout ≠ 0 ∧ config.livenessTimeout ≤ config.keepaliveInterval then
    .error (.valueError "liveness_timeout must be greater than keepalive_interval")
  else .ok ()

/-- `_validate`. -/
def validate (config : EndpointConfig τ) : Except PyError Unit := do
  config.validateTun
  config.validateNumbers
  config.validateKeys

/-- What `_validate` has checked of the numbers. -/
theorem validateNumbers_ok {config : EndpointConfig τ} (h : config.validateNumbers = .ok ()) :
    (0 ≤ config.sessionId ∧ config.sessionId ≤ 0xFFFFFFFF) ∧ 0 ≤ config.packetsPerKey ∧
      (config.keepaliveInterval ≠ 0 ↔ config.livenessTimeout ≠ 0) := by
  simp only [validateNumbers, ite_error_eq_ok] at h
  obtain ⟨-, hsession, -, hkey, -, hlive, -⟩ := h
  rw [ne_eq, not_not, decide_eq_decide] at hlive
  exact ⟨not_not.1 hsession, Int.not_lt.1 hkey, hlive⟩

/-- `_validate` makes the three groups of checks. -/
theorem validate_ok {config : EndpointConfig τ} (h : config.validate = .ok ()) :
    config.validateNumbers = .ok () ∧ config.validateKeys = .ok () := by
  unfold validate at h
  simp only [except_bind_eq_ok] at h
  obtain ⟨⟨⟩, -, ⟨⟩, hnumbers, hkeys⟩ := h
  exact ⟨hnumbers, hkeys⟩

theorem validateTun_of_validate {config : EndpointConfig τ} (h : config.validate = .ok ()) :
    config.validateTun = .ok () := by
  unfold validate at h
  obtain ⟨⟨⟩, htun, -⟩ := except_bind_eq_ok.1 h
  exact htun

end EndpointConfig

end MatfVpn
