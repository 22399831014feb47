/-
# The process of an endpoint (`cli.py`, `operations.py`)

`main` checks the options, loads the keys and runs sessions; with an ephemeral handshake
`run_with_reconnect` starts a new session after every `OSError`.  A run is observed for
as long as its lists of inputs last: where a list ends, the process is still running.
-/
import MatfVpn.Config
import MatfVpn.Engine
import MatfVpn.Handshake

namespace MatfVpn

open Program

/-! ## The engine -/

/-- `TunnelEngine.run`. -/
def TunnelEngine.run {τ : Type} [Zero τ] [Add τ] [Sub τ] [LT τ] [LE τ] [DecidableEq τ]
    [DecidableLT τ] [DecidableLE τ] (P : Primitives) :
    List (IterationInput τ) → Program PyError (Effect τ) (TunnelEngine τ) Unit
  | [] => return ()
  | input :: inputs => do
      let _ ← TunnelEngine.runOnce P input none
      TunnelEngine.run P inputs

/-! ## Key files -/

/-- A file with a key: its permission bits, and its text unless it cannot be read. -/
structure KeyFile where
  mode : ℕ
  text : Option String

/-- The key files by path, where they can be accessed. -/
abbrev KeyFiles := String → Option KeyFile

/-- `c.isspace()` for an ASCII character. -/
def isSpace (c : Char) : Bool := c = ' ' || (9 ≤ c.toNat && c.toNat ≤ 13) ||
  (28 ≤ c.toNat && c.toNat ≤ 31)

/-- The value of a hexadecimal digit. -/
def hexDigit? (c : Char) : Option ℕ :=
  if c.isDigit then some (c.toNat - '0'.toNat)
  else if 'a' ≤ c ∧ c ≤ 'f' then some (c.toNat - 'a'.toNat + 10)
  else if 'A' ≤ c ∧ c ≤ 'F' then some (c.toNat - 'A'.toNat + 10)
  else none

/-- `bytes.fromhex`, which skips white space between the bytes. -/
def fromHex : List Char → Option Bytes
  | [] => some []
  | c :: rest =>
      if c.isWhitespace || c.toNat = 11 || c.toNat = 12 then fromHex rest
      else
        match rest with
        | [] => none
        | d :: rest => do
            let high ← hexDigit? c
            let low ← hexDigit? d
            let bytes ← fromHex rest
            return UInt8.ofNat (16 * high + low) :: bytes

/-- `bytes.fromhex(text.strip())`. -/
def KeyFile.bytes? (file : KeyFile) : Option Bytes := do
  let text ← file.text
  fromHex ((text.toList.dropWhile isSpace).reverse.dropWhile isSpace).reverse

/-- `mode & (stat.S_IRWXG | stat.S_IRWXO)`. -/
def KeyFile.isShared (file : KeyFile) : Bool := file.mode % 64 ≠ 0

/-- `load_preshared_key`. -/
def loadPresharedKey (files : KeyFiles) (path : String) : Except PyError Bytes :=
  match files path with
  | none => .error (.valueError "cannot access key file")
  | some file =>
      if file.isShared then
        .error (.valueError "key file must not be accessible by group or other users")
      else
        match file.bytes? with
        | none => .error (.valueError "key file must contain a hexadecimal preshared key")
        | some key =>
            if key.length < 32 then
              .error (.valueError "key file must contain at least 32 bytes")
            else .ok key

/-- The end of `load_x25519_key`: the file is read. -/
def readX25519Key (file : Option KeyFile) (label : String) : Except PyError Bytes :=
  match file.bind KeyFile.bytes? with
  | none => .error (.valueError s!"X25519 {label} key file must contain hexadecimal data")
  | some key =>
      if key.length ≠ x25519KeySize then
        .error (.valueError s!"X25519 {label} key must contain 32 bytes")
      else .ok key

/-- `load_x25519_key(path, private=True)`. -/
def loadX25519PrivateKey (files : KeyFiles) (path : String) : Except PyError Bytes :=
  match files path with
  | none => .error (.valueError "cannot access X25519 private key file")
  | some file =>
      if file.isShared then
        .error (.valueError "X25519 private key must not be accessible by group or other users")
      else readX25519Key (some file) "private"

/-- `load_x25519_key(path, private=False)`. -/
def loadX25519PublicKey (files : KeyFiles) (path : String) : Except PyError Bytes :=
  readX25519Key (files path) "public"

/-- A private key has 32 bytes. -/
theorem length_of_loadX25519PrivateKey {files : KeyFiles} {path : String} {key : Bytes}
    (h : loadX25519PrivateKey files path = .ok key) : key.length = x25519KeySize := by
  have hread : ∀ {file : Option KeyFile} {label : String}, readX25519Key file label = .ok key →
      key.length = x25519KeySize := by
    intro file label h
    unfold readX25519Key at h
    split at h
    · cases h
    · obtain ⟨hlength, hkey⟩ := ite_error_eq_ok.1 h
      rw [← Except.ok.inj hkey]
      exact not_not.1 hlength
  unfold loadX25519PrivateKey at h
  split at h
  · cases h
  · exact hread (ite_error_eq_ok.1 h).2

/-! ## Opening a session -/

/-- What the surroundings answer during one session. -/
structure SessionInput (τ : Type) where
  /-- The exception of `UdpTransport(local_address, timeout)`, if any. -/
  bindFailure : Address → Option τ → Option PyError
  entropy : ClientEntropy
  attempt : ℕ → AttemptInput
  /-- The name that the kernel gives the TUN device, or the exception of its creation. -/
  tunDevice : Except PyError String
  /-- The exceptions of the two `ip` commands of `configure_tun`, if any. -/
  ipAddress : Option PyError
  ipLink : Option PyError
  startClock : τ
  iterations : List (IterationInput τ)

/-- `TunDevice(name)`, for what the kernel answers. -/
def newTunDevice (name : String) (answer : Except PyError String) : Except PyError String := do
  let encodedName ← encodeAscii name
  if encodedName = [] ∨ encodedName.length ≥ 16 ∨ (0 : UInt8) ∈ encodedName then
    throw (.valueError "TUN interface name must contain 1 to 15 ASCII bytes")
  answer

/-- The bytes of an ASCII text are its code points. -/
theorem nul_mem_encodeAscii {text : String} {data : Bytes} (h : encodeAscii text = .ok data) :
    (0 : UInt8) ∈ data ↔ Char.ofNat 0 ∈ text.toList := by
  unfold encodeAscii at h
  split at h
  · rename_i hascii
    rw [← Except.ok.inj h, List.mem_map]
    constructor
    · rintro ⟨c, hc, hbyte⟩
      have hlt := List.all_eq_true.1 hascii c hc
      rw [decide_eq_true_eq] at hlt
      have hnat := congrArg UInt8.toNat hbyte
      rw [UInt8.toNat_ofNat', Nat.mod_eq_of_lt (by omega)] at hnat
      rw [← Char.ofNat_toNat c, hnat] at hc
      exact hc
    · intro hc
      exact ⟨_, hc, rfl⟩
  · cases h

/-- A name of 1 to 15 ASCII bytes is refused for a NUL only. -/
theorem newTunDevice_of_encodeAscii {tunName : String} {name : Bytes} (hne : tunName ≠ "")
    (hencode : encodeAscii tunName = .ok name) (hlength : name.length ≤ 15)
    (answer : Except PyError String) :
    newTunDevice tunName answer =
      if Char.ofNat 0 ∈ tunName.toList then
        .error (.valueError "TUN interface name must contain 1 to 15 ASCII bytes")
      else answer := by
  have hname : name ≠ [] := by
    rintro rfl
    unfold encodeAscii at hencode
    split at hencode
    · exact hne (String.toList_eq_nil_iff.1 (List.map_eq_nil_iff.1 (Except.ok.inj hencode)))
    · cases hencode
  unfold newTunDevice
  rw [hencode]
  show (if name = [] ∨ name.length ≥ 16 ∨ (0 : UInt8) ∈ name then _ else _) = _
  by_cases hnul : (0 : UInt8) ∈ name
  · rw [if_pos (Or.inr (Or.inr hnul)), if_pos ((nul_mem_encodeAscii hencode).1 hnul)]
    rfl
  · have hpass : ¬ (name = [] ∨ name.length ≥ 16 ∨ (0 : UInt8) ∈ name) := by
      rintro (hempty | hlong | hmem)
      · exact hname hempty
      · omega
      · exact hnul hmem
    rw [if_neg hpass, if_neg fun hmem => hnul ((nul_mem_encodeAscii hencode).2 hmem)]

/-- **The name check of `TunDevice`** is that of `_validate`, and no NUL. -/
theorem newTunDevice_of_validate {τ : Type} [Zero τ] [LT τ] [LE τ] [DecidableEq τ]
    [DecidableLT τ] [DecidableLE τ] {config : EndpointConfig τ} (h : config.validate = .ok ())
    (answer : Except PyError String) :
    newTunDevice config.tunName answer =
      if Char.ofNat 0 ∈ config.tunName.toList then
        .error (.valueError "TUN interface name must contain 1 to 15 ASCII bytes")
      else answer := by
  obtain ⟨hne, name, hencode, hlength⟩ :=
    EndpointConfig.validateTun_ok (EndpointConfig.validateTun_of_validate h)
  exact newTunDevice_of_encodeAscii
    (fun hempty => hne (by rw [hempty]; rfl)) hencode hlength answer

/-- `configure_tun`, for the exceptions of its two commands. -/
def configureTun (mtu : ℤ) (ipAddress ipLink : Option PyError) : Except PyError Unit :=
  if ¬ (576 ≤ mtu ∧ mtu ≤ 65535) then
    .error (.valueError "MTU must be between 576 and 65535")
  else
    match ipAddress, ipLink with
    | some e, _ => .error e
    | none, some e => .error e
    | none, none => .ok ()

/-- The keys that `main` loads: the cipher of every session, or the static keys of the
handshakes. -/
inductive SessionKeys where
  | static (cipher : Option Cipher)
  | ephemeral (staticPrivateKey peerStaticPublicKey : Bytes)

section endpoint

variable {τ : Type}

/-- The handshake of the endpoint's role. -/
def handshake (P : Primitives) (options : EndpointConfig τ) (input : SessionInput τ)
    (staticPrivateKey peerStaticPublicKey : Bytes) :
    Program PyError (SessionEffect τ) Unit (ℤ × Cipher) :=
  if options.role = some .client then
    runClientHandshake P options.peer staticPrivateKey peerStaticPublicKey
      defaultHandshakeAttempts options.packetsPerKey input.entropy input.attempt
  else
    runServerHandshake P options.peer staticPrivateKey peerStaticPublicKey
      defaultHandshakeAttempts options.packetsPerKey input.attempt

/-- The session id and the cipher of a session. -/
def establish (P : Primitives) (options : EndpointConfig τ) (input : SessionInput τ) :
    SessionKeys → Program PyError (SessionEffect τ) Unit (ℤ × Option Cipher)
  | .static cipher => return (options.sessionId, cipher)
  | .ephemeral staticPrivateKey peerStaticPublicKey => do
      let (sessionId, cipher) ← handshake P options input staticPrivateKey peerStaticPublicKey
      return (sessionId, some cipher)

/-- The exception that a call of the surroundings raises, if any. -/
def raises {ω σ : Type} : Option PyError → Program PyError ω σ Unit
  | none => return ()
  | some e => raise e

section run

variable [Zero τ] [Add τ] [Sub τ] [LT τ] [LE τ] [DecidableEq τ] [DecidableLT τ]
  [DecidableLE τ]

/-- `run_session`. -/
def runSession (P : Primitives) (options : EndpointConfig τ) (keys : SessionKeys)
    (input : SessionInput τ) : Program PyError (SessionEffect τ) Unit Unit := do
  let transportTimeout := if options.ephemeralHandshake then some options.handshakeTimeout else none
  raises (input.bindFailure options.bind transportTimeout)
  let (sessionId, cipher) ← establish P options input keys
  let _ ← ofExcept (newTunDevice options.tunName input.tunDevice)
  ofExcept (configureTun options.mtu input.ipAddress input.ipLink)
  let engine ← ofExcept (TunnelEngine.new options.peer sessionId cipher
    options.keepaliveInterval options.livenessTimeout input.startClock)
  zoom (fun _ => engine) (fun _ s => s) .effect (TunnelEngine.run P input.iterations)

/-- The loop of `run_with_reconnect`. -/
def reconnect (P : Primitives) (options : EndpointConfig τ) (keys : SessionKeys) :
    List (SessionInput τ) → Program PyError (SessionEffect τ) Unit Unit
  | [] => return ()
  | input :: inputs => do
      match ← attempt (runSession P options keys input) with
      | .ok () => return ()
      | .error e => if e.isOSError then reconnect P options keys inputs else raise e

/-- `run_with_reconnect`. -/
def runWithReconnect (P : Primitives) (options : EndpointConfig τ) (keys : SessionKeys)
    (inputs : List (SessionInput τ)) : Program PyError (SessionEffect τ) Unit Unit :=
  if options.reconnectDelay < 0 then
    raise (.valueError "reconnect_delay must not be negative")
  else reconnect P options keys inputs

/-- The checks of `main` on its options. -/
def checkOptions (options : EndpointConfig τ) : Except PyError Unit :=
  if options.usesPsk ∧ options.usesX25519 then
    .error (.systemExit "PSK and X25519 key options are mutually exclusive")
  else if options.usesX25519 ∧
      (options.privateKeyFile = none ∨ options.peerPublicKeyFile = none) then
    .error (.systemExit
      "--private-key-file and --peer-public-key-file must be provided together")
  else if options.encrypted ≠ options.role.isSome then
    .error (.systemExit "--role is required exactly when encryption is enabled")
  else if options.ephemeralHandshake ∧ ¬ options.usesX25519 then
    .error (.systemExit "--ephemeral-handshake requires X25519 key files")
  else if options.handshakeTimeout ≤ 0 then
    .error (.systemExit "--handshake-timeout must be positive")
  else if options.packetsPerKey < 0 then
    .error (.systemExit "--packets-per-key must not be negative")
  else if options.reconnectDelay < 0 then
    .error (.systemExit "--reconnect-delay must not be negative")
  else if options.packetsPerKey > 0 ∧ ¬ options.encrypted then
    .error (.systemExit "--packets-per-key requires encryption")
  else if options.keepaliveInterval < 0 ∨ options.livenessTimeout < 0 then
    .error (.systemExit "liveness values must not be negative")
  else if decide (options.keepaliveInterval ≠ 0) ≠ decide (options.livenessTimeout ≠ 0) then
    .error (.systemExit "keepalive and liveness timeout must be enabled together")
  else if options.livenessTimeout ≠ 0 ∧ options.livenessTimeout ≤ options.keepaliveInterval then
    .error (.systemExit "liveness timeout must be greater than keepalive interval")
  else if options.livenessTimeout ≠ 0 ∧ ¬ options.ephemeralHandshake then
    .error (.systemExit "active liveness requires --ephemeral-handshake")
  else .ok ()

omit [Add τ] [Sub τ] in
/-- What `main` has checked of its options. -/
theorem checkOptions_ok {options : EndpointConfig τ} (h : checkOptions options = .ok ()) :
    options.encrypted = options.role.isSome ∧ 0 ≤ options.packetsPerKey := by
  simp only [checkOptions, ite_error_eq_ok] at h
  obtain ⟨-, -, hrole, -, -, hkey, -⟩ := h
  exact ⟨not_not.1 hrole, Int.not_lt.1 hkey⟩

omit [Add τ] [Sub τ] in
/-- **A validated configuration passes the checks of `main`.** -/
theorem checkOptions_of_validate {options : EndpointConfig τ} (h : options.validate = .ok ()) :
    checkOptions options = .ok () := by
  obtain ⟨hnumbers, hkeys⟩ := EndpointConfig.validate_ok h
  simp only [EndpointConfig.validateNumbers, ite_error_eq_ok] at hnumbers
  simp only [EndpointConfig.validateKeys, ite_error_eq_ok] at hkeys
  obtain ⟨-, -, htimeouts, hkey, hnegative, htogether, hgreater, -⟩ := hnumbers
  obtain ⟨hboth, hfiles, hrole, hephemeral, hrotation, hlive, -⟩ := hkeys
  rw [not_or] at htimeouts
  simp only [checkOptions, ite_error_eq_ok]
  exact ⟨hboth, hfiles, hrole, hephemeral, htimeouts.1, hkey, htimeouts.2, hrotation, hnegative,
    htogether, hgreater, hlive, trivial⟩

/-- The static secret of a configuration without ephemeral handshake. -/
def loadStaticSecret (P : Primitives) (options : EndpointConfig τ) (files : KeyFiles) :
    Except PyError Bytes :=
  match options.keyFile with
  | some path => loadPresharedKey files path
  | none => do
      let staticPrivateKey ← loadX25519PrivateKey files (options.privateKeyFile.getD "")
      let peerStaticPublicKey ← loadX25519PublicKey files (options.peerPublicKeyFile.getD "")
      deriveSharedSecret P staticPrivateKey peerStaticPublicKey

/-- `main` loads the keys. -/
def loadKeys (P : Primitives) (options : EndpointConfig τ) (files : KeyFiles) :
    Program PyError (SessionEffect τ) Unit SessionKeys :=
  if ¬ options.encrypted then return .static none
  else if options.ephemeralHandshake then do
    let staticPrivateKey ← ofExcept
      (loadX25519PrivateKey files (options.privateKeyFile.getD ""))
    let peerStaticPublicKey ← ofExcept
      (loadX25519PublicKey files (options.peerPublicKeyFile.getD ""))
    return .ephemeral staticPrivateKey peerStaticPublicKey
  else do
    let secret ← ofExcept (loadStaticSecret P options files)
    let cipher ← sessionCipher P secret options.sessionId (options.role.getD .client)
      options.packetsPerKey
    return .static (some cipher)

/-- The sessions of `main`: one, or any number with an ephemeral handshake. -/
def runSessions (P : Primitives) (options : EndpointConfig τ) (keys : SessionKeys)
    (inputs : List (SessionInput τ)) : Program PyError (SessionEffect τ) Unit Unit :=
  if options.ephemeralHandshake then runWithReconnect P options keys inputs
  else
    match inputs with
    | [] => return ()
    | input :: _ => runSession P options keys input

/-- `main`, for the options of a configuration or of the command line. -/
def main (P : Primitives) (options : EndpointConfig τ) (files : KeyFiles)
    (inputs : List (SessionInput τ)) : Program PyError (SessionEffect τ) Unit ℕ := do
  ofExcept (checkOptions options)
  let keys ← loadKeys P options files
  match ← attempt (runSessions P options keys inputs) with
  | .ok () => return 0
  | .error .keyboardInterrupt => return 0
  | .error e => raise e

end run

end endpoint

end MatfVpn
