/-
# Starting an endpoint from a configuration file

The checks that `main` and what it calls make after `load_config`.  They all pass for a
loaded configuration, but for two that `_validate` does not make: the bytes of the device
name, and the range of the socket timeout.

* `setTimeout_of_pos` : the timeouts that a socket takes;
* `startup_iff` : when a loaded configuration starts.
-/
import MatfVpn.CipherSpec
import MatfVpn.ConfigFile
import MatfVpn.Endpoint
import MatfVpn.SamplePrimitives

namespace MatfVpn

open Program

/-! ## The timeout of the socket -/

/-- The check of a timeout in nanoseconds. -/
def checkNanoseconds : Binary64 → Except PyError Unit
  | .nan => .error (.valueError "Invalid value NaN (not a number)")
  | .infinity _ => .error (.overflowError "timestamp out of range for platform time_t")
  | .finite nanoseconds =>
      if 2 ^ 63 ≤ ⌈nanoseconds⌉ ∨ ⌊nanoseconds⌋ < -2 ^ 63 then
        .error (.overflowError "timestamp out of range for platform time_t")
      else if nanoseconds < 0 then .error (.valueError "Timeout value out of range")
      else .ok ()

/-- `socket.settimeout(timeout)`: NaN, negative timeouts, and those of more than 64 bits of
nanoseconds are refused. -/
def setTimeout : Option Binary64 → Except PyError Unit
  | none => .ok ()
  | some timeout => checkNanoseconds (timeout * .finite (10 ^ 9))

/-- A number of seconds that fits into 64 bits of nanoseconds. -/
def FitsNanoseconds (seconds : Binary64) : Prop :=
  ∃ nanoseconds : ℚ, seconds * .finite (10 ^ 9) = .finite nanoseconds ∧ ⌈nanoseconds⌉ < 2 ^ 63

/-- Such a number is neither NaN nor infinite. -/
theorem FitsNanoseconds.isFinite {seconds : Binary64} (h : FitsNanoseconds seconds) :
    seconds.isFinite = true := by
  obtain ⟨nanoseconds, hmul, -⟩ := h
  cases seconds with
  | nan => cases hmul
  | infinity negative => cases hmul
  | finite x => rfl

/-- A positive number of seconds is not a negative number of nanoseconds. -/
theorem nanoseconds_nonneg {seconds : Binary64} (hpos : ¬ seconds ≤ 0) {nanoseconds : ℚ}
    (hmul : seconds * .finite (10 ^ 9) = .finite nanoseconds) : 0 ≤ nanoseconds := by
  cases seconds with
  | nan => cases hmul
  | infinity negative => cases hmul
  | finite x =>
    rw [show (0 : Binary64) = .finite 0 from rfl, Binary64.le_finite, not_le] at hpos
    exact Binary64.round_nonneg (by positivity) hmul

/-- The check of a timeout that is not negative. -/
theorem checkNanoseconds_eq_ok {x : Binary64}
    (hnonneg : ∀ nanoseconds, x = .finite nanoseconds → 0 ≤ nanoseconds) :
    checkNanoseconds x = .ok () ↔
      ∃ nanoseconds, x = .finite nanoseconds ∧ ⌈nanoseconds⌉ < 2 ^ 63 := by
  cases x with
  | nan =>
    constructor
    · intro h
      cases h
    · rintro ⟨_, h, -⟩
      cases h
  | infinity negative =>
    constructor
    · intro h
      cases h
    · rintro ⟨_, h, -⟩
      cases h
  | finite nanoseconds =>
    have hx := hnonneg nanoseconds rfl
    have hfloor : 0 ≤ ⌊nanoseconds⌋ := Int.floor_nonneg.2 hx
    simp only [checkNanoseconds]
    constructor
    · intro h
      obtain ⟨hrange, -⟩ := ite_error_eq_ok.1 h
      exact ⟨nanoseconds, rfl, Int.not_le.1 fun hle => hrange (Or.inl hle)⟩
    · rintro ⟨ns, hns, hlt⟩
      obtain rfl := Binary64.finite.inj hns
      rw [if_neg (by omega), if_neg (not_lt.2 hx)]

/-- **The timeouts that a socket takes**, among those that are positive. -/
theorem setTimeout_of_pos {timeout : Binary64} (hpos : ¬ timeout ≤ 0) :
    setTimeout (some timeout) = .ok () ↔ FitsNanoseconds timeout :=
  checkNanoseconds_eq_ok fun _ => nanoseconds_nonneg hpos

/-! ## The later checks -/

/-- The key files of the configuration can be read and hold keys: a preshared key, or two
X25519 keys, whose exchange succeeds where the start makes one. -/
def ValidKeyFiles (P : Primitives) (config : EndpointConfig Binary64) (files : KeyFiles) : Prop :=
  config.encrypted = true →
    if config.ephemeralHandshake then
      (∃ key, loadX25519PrivateKey files (config.privateKeyFile.getD "") = .ok key) ∧
        ∃ key, loadX25519PublicKey files (config.peerPublicKeyFile.getD "") = .ok key
    else ∃ secret, loadStaticSecret P config files = .ok secret ∧ 32 ≤ secret.length

/-- The session ids of a run: the configured one, or those of the handshakes. -/
def IsSessionId (config : EndpointConfig Binary64) (sessionId : ℤ) : Prop :=
  if config.ephemeralHandshake then 0 ≤ sessionId ∧ sessionId ≤ 0xFFFFFFFF
  else sessionId = config.sessionId

/-- Every later check on the start-up path passes. -/
structure StartsUp (P : Primitives) (config : EndpointConfig Binary64) (files : KeyFiles) :
    Prop where
  /-- The `SystemExit` checks of `main`. -/
  options : checkOptions config = .ok ()
  /-- The keys are loaded, and `create_cipher` takes the static secret. -/
  keys : ∃ keys, (loadKeys P config files ()).result = .ok keys
  /-- `run_with_reconnect` takes the delay. -/
  reconnectDelay : config.ephemeralHandshake = true → ¬ config.reconnectDelay < 0
  /-- `UdpTransport` takes the timeout. -/
  transport : setTimeout
    (if config.ephemeralHandshake then some config.handshakeTimeout else none) = .ok ()
  /-- `create_cipher` takes the secret of a handshake. -/
  cipher : ∀ secret : Bytes, 32 ≤ secret.length → ∀ sessionId, IsSessionId config sessionId →
    ∀ role, ∃ cipher, (createCipher P secret sessionId role config.packetsPerKey ()).result
      = .ok cipher
  /-- `TunDevice` takes the name. -/
  tunDevice : ∀ answer, newTunDevice config.tunName answer = answer
  /-- `configure_tun` takes the MTU. -/
  configureTun : configureTun config.mtu none none = .ok ()
  /-- `TunnelEngine` takes its arguments. -/
  engine : ∀ sessionId, IsSessionId config sessionId → ∀ cipher now, ∃ engine,
    TunnelEngine.new config.peer sessionId cipher config.keepaliveInterval config.livenessTimeout
      now = .ok engine

section startup

variable {P : Primitives} {config : EndpointConfig Binary64} {files : KeyFiles}

theorem sessionId_range (h : config.validate = .ok ()) {sessionId : ℤ}
    (hid : IsSessionId config sessionId) : 0 ≤ sessionId ∧ sessionId ≤ 0xFFFFFFFF := by
  unfold IsSessionId at hid
  split at hid
  · exact hid
  · rw [hid]
    exact (EndpointConfig.validateNumbers_ok (EndpointConfig.validate_ok h).1).1

/-- `create_cipher` takes the numbers of a validated configuration. -/
theorem createCipher_of_validate (hH : P.LawfulHkdf) (h : config.validate = .ok ())
    {secret : Bytes} (hsecret : 32 ≤ secret.length) {sessionId : ℤ}
    (hid : 0 ≤ sessionId ∧ sessionId ≤ 0xFFFFFFFF) (role : EndpointRole) :
    ∃ cipher, (createCipher P secret sessionId role config.packetsPerKey ()).result
      = .ok cipher := by
  have hkey := (EndpointConfig.validateNumbers_ok (EndpointConfig.validate_ok h).1).2.1
  obtain ⟨n, hn⟩ := Int.eq_ofNat_of_zero_le hid.1
  obtain ⟨k, hk⟩ := Int.eq_ofNat_of_zero_le hkey
  have hlt : n < 2 ^ 32 := by omega
  obtain ⟨-, -, cipher, hresult, -⟩ := createCipher_spec hH hsecret hlt role k ()
  rw [hn, hk]
  exact ⟨cipher, hresult⟩

/-- The constructor of `TunnelEngine` takes the numbers of a validated configuration. -/
theorem newEngine_of_validate (h : config.validate = .ok ()) {sessionId : ℤ}
    (hid : 0 ≤ sessionId ∧ sessionId ≤ 0xFFFFFFFF) (cipher : Option Cipher) (now : Binary64) :
    ∃ engine, TunnelEngine.new config.peer sessionId cipher config.keepaliveInterval
      config.livenessTimeout now = .ok engine := by
  have hnumbers := (EndpointConfig.validate_ok h).1
  simp only [EndpointConfig.validateNumbers, ite_error_eq_ok] at hnumbers
  obtain ⟨-, -, -, -, hnegative, htogether, hgreater, -⟩ := hnumbers
  unfold TunnelEngine.new
  rw [if_neg (not_not.2 hid), if_neg hnegative, if_neg htogether, if_neg hgreater]
  exact ⟨_, rfl⟩

/-- Valid key files are loaded. -/
theorem loadKeys_of_validate (hH : P.LawfulHkdf) (h : config.validate = .ok ())
    (hfiles : ValidKeyFiles P config files) :
    ∃ keys, (loadKeys P config files ()).result = .ok keys := by
  unfold loadKeys
  by_cases henc : config.encrypted = true
  swap
  · rw [if_pos henc]
    exact ⟨_, rfl⟩
  rw [if_neg (not_not.2 henc)]
  have hvalid := hfiles henc
  by_cases heph : config.ephemeralHandshake = true
  · rw [if_pos heph] at hvalid ⊢
    obtain ⟨⟨a, ha⟩, b, hb⟩ := hvalid
    rw [ha, hb]
    exact ⟨_, rfl⟩
  · rw [if_neg heph] at hvalid ⊢
    obtain ⟨secret, hsecret, hlength⟩ := hvalid
    obtain ⟨cipher, hcipher⟩ := createCipher_of_validate hH h hlength
      (EndpointConfig.validateNumbers_ok (EndpointConfig.validate_ok h).1).1
      (config.role.getD .client)
    rw [hsecret]
    refine ⟨.static (some cipher), ?_⟩
    show ((sessionCipher P secret config.sessionId (config.role.getD .client)
      config.packetsPerKey >>= fun cipher => pure (.static (some cipher)) :
        Program PyError (SessionEffect Binary64) Unit SessionKeys) ()).result = _
    have hsession : (sessionCipher P secret config.sessionId (config.role.getD .client)
        config.packetsPerKey : Program PyError (SessionEffect Binary64) Unit Cipher) () =
        ⟨.ok cipher, (), (createCipher P secret config.sessionId (config.role.getD .client)
          config.packetsPerKey ()).trace.map fun call => .effect (.crypto call)⟩ := by
      unfold sessionCipher lift zoom
      rw [← hcipher]
    exact result_bind_eq_ok.2 ⟨cipher, (), _, hsession, rfl⟩

/-- **When a loaded configuration starts.** With valid key files every later check passes,
exactly if the device name has no NUL, and the handshake timeout of an ephemeral handshake
fits into 64 bits of nanoseconds. -/
theorem startup_iff (hH : P.LawfulHkdf) {documents : Documents} {path : PosixPath}
    {config : LoadedConfig} (hload : loadConfig documents path = .ok config)
    (hfiles : ValidKeyFiles P config.toEndpointConfig files) :
    StartsUp P config.toEndpointConfig files ↔ Char.ofNat 0 ∉ config.tunName.toList ∧
      (config.ephemeralHandshake = true → FitsNanoseconds config.handshakeTimeout) := by
  have h := loadConfig_ok hload
  have hnumbers := (EndpointConfig.validate_ok h).1
  simp only [EndpointConfig.validateNumbers, ite_error_eq_ok] at hnumbers
  obtain ⟨hmtu, -, htimeouts, -⟩ := hnumbers
  rw [not_or] at htimeouts
  constructor
  · intro hstarts
    constructor
    · intro hnul
      have htun := hstarts.tunDevice (.ok "")
      rw [newTunDevice_of_validate h, if_pos hnul] at htun
      cases htun
    · intro heph
      have htransport := hstarts.transport
      rw [if_pos heph] at htransport
      exact (setTimeout_of_pos htimeouts.1).1 htransport
  · rintro ⟨hnul, htimeout⟩
    refine ⟨checkOptions_of_validate h, loadKeys_of_validate hH h hfiles, fun _ => htimeouts.2,
      ?_, fun secret hsecret sessionId hid role =>
        createCipher_of_validate hH h hsecret (sessionId_range h hid) role, fun answer => ?_,
      if_neg hmtu, fun sessionId hid cipher now =>
        newEngine_of_validate h (sessionId_range h hid) cipher now⟩
    · by_cases heph : config.ephemeralHandshake = true
      · rw [if_pos heph]
        exact (setTimeout_of_pos htimeouts.1).2 (htimeout heph)
      · rw [if_neg heph]
        rfl
    · rw [newTunDevice_of_validate h, if_neg hnul]

/-- The surroundings of a session answer every call; only a refused timeout is an exception of
`UdpTransport`. -/
structure Answers (input : SessionInput Binary64) : Prop where
  transport : ∀ address timeout, setTimeout timeout = .ok () →
    input.bindFailure address timeout = none
  tunDevice : ∃ name, input.tunDevice = .ok name
  ipAddress : input.ipAddress = none
  ipLink : input.ipLink = none

/-- The keys of a configuration without ephemeral handshake. -/
theorem loadKeys_static (hstatic : config.ephemeralHandshake = false) {keys : SessionKeys}
    (h : (loadKeys P config files ()).result = .ok keys) :
    ∃ cipher trace, loadKeys P config files () = ⟨.ok (.static cipher), (), trace⟩ := by
  unfold loadKeys at h ⊢
  by_cases henc : config.encrypted = true
  swap
  · rw [if_pos henc]
    exact ⟨none, [], rfl⟩
  rw [if_neg (not_not.2 henc), if_neg (by rw [hstatic]; decide)] at h ⊢
  obtain ⟨secret, ⟨⟩, t₁, hsecret, h⟩ := result_bind_eq_ok.1 h
  obtain ⟨cipher, ⟨⟩, t₂, hcipher, -⟩ := result_bind_eq_ok.1 h
  exact ⟨some cipher, t₁ ++ (t₂ ++ []), by rw [bind_of_ok hsecret, bind_of_ok hcipher]; rfl⟩

/-- **The checks are all that `main` makes** for static keys: where they pass, and the
surroundings answer, it ends without an exception. -/
theorem StartsUp.main_returns (h : StartsUp P config files)
    (hstatic : config.ephemeralHandshake = false) {input : SessionInput Binary64}
    (hinput : Answers input) (hiterations : input.iterations = []) :
    (main P config files [input] ()).result = .ok 0 := by
  obtain ⟨keys, hkeys⟩ := h.keys
  obtain ⟨cipher, t, hload⟩ := loadKeys_static hstatic hkeys
  obtain ⟨name, hname⟩ := hinput.tunDevice
  obtain ⟨engine, hengine⟩ := h.engine config.sessionId (by simp [IsSessionId, hstatic]) cipher
    input.startClock
  have htransport := h.transport
  rw [hstatic] at htransport
  have hsession : (runSession P config (.static cipher) input ()).result = .ok () := by
    unfold runSession
    simp only [hstatic, hinput.transport config.bind none htransport, Bool.false_eq_true,
      if_false]
    rw [bind_of_ok (show raises none () = ⟨.ok (), (), []⟩ from rfl),
      bind_of_ok (show establish P config input (.static cipher) () =
        ⟨.ok (config.sessionId, cipher), (), []⟩ from rfl)]
    simp only [h.tunDevice, hname, hinput.ipAddress, hinput.ipLink, h.configureTun, hengine,
      hiterations]
    rfl
  have hruns : (attempt (runSessions P config (.static cipher) [input]) ()).result
      = .ok (.ok ()) := by
    rw [runSessions, if_neg (by rw [hstatic]; decide)]
    exact congrArg Except.ok hsession
  unfold main
  rw [h.options]
  refine result_bind_eq_ok.2 ⟨(), (), [], rfl, result_bind_eq_ok.2 ⟨_, (), t, hload, ?_⟩⟩
  exact result_bind_eq_ok.2 ⟨.ok (), (), _, by rw [← hruns], rfl⟩

end startup

/-! ## Two documents -/

/-- The file of a plain endpoint, with a device name. -/
def startupDocuments (tunName : String) : Documents := fun _ => .ok (.object
  [("tun_name", .string tunName), ("tun_address", .string "10.0.0.1/30"),
    ("bind", .string "192.0.2.1:51820"), ("peer", .string "192.0.2.2:51820")])

/-- Its directory. -/
def startupPath : PosixPath := .ofText "/etc/matf-vpn/client.json".toList

/-- An endpoint without keys needs no key files. -/
theorem validKeyFiles_plain {P : Primitives} {config : EndpointConfig Binary64}
    (h : config.encrypted = false) (files : KeyFiles) : ValidKeyFiles P config files := by
  intro henc
  rw [h] at henc
  cases henc

/-- `load_config` accepts a device name with a NUL, and `TunDevice` refuses it. -/
theorem startup_refused :
    ¬ ∀ documents path config files, loadConfig documents path = .ok config →
      ValidKeyFiles sample config.toEndpointConfig files →
      StartsUp sample config.toEndpointConfig files := by
  intro h
  have hload : (loadConfig (startupDocuments "vpn\x000") startupPath).toOption.map
      (fun config => (config.encrypted, decide (Char.ofNat 0 ∈ config.tunName.toList)))
        = some (false, true) := by
    decide +kernel
  obtain ⟨config, hconfig, hfields⟩ := Option.map_eq_some_iff.1 hload
  obtain ⟨henc, hnul⟩ := Prod.mk.inj hfields
  have hstarts := h _ _ _ (fun _ => none) (eq_ok_of_toOption hconfig) (validKeyFiles_plain henc _)
  have htun := hstarts.tunDevice (.ok "")
  rw [newTunDevice_of_validate (loadConfig_ok (eq_ok_of_toOption hconfig)),
    if_pos (of_decide_eq_true hnul)] at htun
  cases htun

/-- The default device name. -/
theorem startup_sample : ∃ config, loadConfig (startupDocuments "mvpn0") startupPath = .ok config ∧
    (StartsUp sample config.toEndpointConfig (fun _ => none) ↔
      Char.ofNat 0 ∉ config.tunName.toList ∧
        (config.ephemeralHandshake = true → FitsNanoseconds config.handshakeTimeout)) := by
  have hload : (loadConfig (startupDocuments "mvpn0") startupPath).toOption.map (·.encrypted)
      = some false := by
    decide +kernel
  obtain ⟨config, hconfig, henc⟩ := Option.map_eq_some_iff.1 hload
  exact ⟨config, eq_ok_of_toOption hconfig, startup_iff sample_lawfulHkdf
    (eq_ok_of_toOption hconfig) (validKeyFiles_plain henc _)⟩

end MatfVpn
