/-
# Configuration files (`load_config` of `config.py`, `server_config.py`)

The readers of the two JSON configurations.  What `json.loads` returns for the text of a
file is an argument: a value, or the exception that it raises.  The strings have no lone
surrogates.

* `loadConfig_ok` : what a loaded configuration has passed;
* `loadServerConfig_ok` : the same for the server.
-/
import MatfVpn.Lib.PosixPath
import MatfVpn.PythonText

namespace MatfVpn

/-- A computation with a value has returned it. -/
theorem eq_ok_of_toOption {ε α : Type} {x : Except ε α} {a : α} (h : x.toOption = some a) :
    x = .ok a := by
  cases x with
  | error e => cases h
  | ok b => rw [Option.some.inj h]

/-! ## JSON values -/

/-- What `json.loads` returns.  The fields of an object have different names. -/
inductive Json where
  | null
  | bool (value : Bool)
  | int (value : ℤ)
  | float (value : Binary64)
  | string (value : String)
  | array (items : List Json)
  | object (fields : List (String × Json))

/-- The fields of a JSON object. -/
abbrev JsonObject := List (String × Json)

/-- The exceptions of `json.loads`, and of reading a file for it: those that the callers catch
(`JSONDecodeError`, for a file `OSError` and `UnicodeError`), another `ValueError` for an integer
with too many digits, and `RecursionError` for values that nest too deeply. -/
inductive LoadError where
  | caught (message : String)
  | valueError (message : String)
  | recursionError (message : String)

/-- `json.loads(path.read_text(encoding="utf-8"))`. -/
abbrev Documents := PosixPath → Except LoadError Json

/-- `float(value)` of an integer. -/
def floatOfInt (value : ℤ) : Except PyError Binary64 :=
  match Binary64.round value with
  | .finite x => .ok (.finite x)
  | _ => .error (.overflowError "int too large to convert to float")

/-- `raw.get(field, default)`, for a default that may be missing. -/
def JsonObject.get (raw : JsonObject) (field : String) (default : Option Json) : Json :=
  ((raw.lookup field).or default).getD .null

/-- `_integer`. -/
def getInteger (raw : JsonObject) (field : String) (default : ℤ) : Except PyError ℤ :=
  match raw.get field (some (.int default)) with
  | .int value => .ok value
  | _ => .error (.valueError s!"{field} must be an integer")

/-- `_boolean`. -/
def getBoolean (raw : JsonObject) (field : String) (default : Bool) : Except PyError Bool :=
  match raw.get field (some (.bool default)) with
  | .bool value => .ok value
  | _ => .error (.valueError s!"{field} must be a boolean")

/-- `_number`. -/
def getNumber (raw : JsonObject) (field : String) (default : Binary64) :
    Except PyError Binary64 :=
  match raw.get field (some (.float default)) with
  | .int value => floatOfInt value
  | .float value => .ok value
  | _ => .error (.valueError s!"{field} must be a number")

/-- `_string` of `config.py`. -/
def getString (raw : JsonObject) (field : String) (default : Option String) :
    Except PyError String :=
  match raw.get field (default.map .string) with
  | .string value => .ok value
  | _ => .error (.valueError s!"{field} must be a string")

/-- `_optional_string`. -/
def getOptionalString (raw : JsonObject) (field : String) : Except PyError (Option String) :=
  match raw.get field none with
  | .null => .ok none
  | .string value => .ok (some value)
  | _ => .error (.valueError s!"{field} must be a string")

/-- `path if path.is_absolute() else base_directory / path`, as a text. -/
def resolvePath (baseDirectory : PosixPath) (value : String) : String :=
  String.ofList (baseDirectory.join (.ofText value.toList)).toText

/-- `_path` of `config.py`. -/
def getPath (raw : JsonObject) (field : String) (baseDirectory : PosixPath) :
    Except PyError (Option String) :=
  match raw.get field none with
  | .null => .ok none
  | .string value => .ok (some (resolvePath baseDirectory value))
  | _ => .error (.valueError s!"{field} must be a path string")

/-- `_endpoint`, for the value of the field. -/
def getEndpoint (value : Json) (field : String) : Except PyError Address :=
  match value with
  | .string text =>
      parseAddress (.valueError s!"{field} must be an IPv4_ADDRESS:PORT string")
        (.valueError s!"{field} port must be between 1 and 65535") text.toList
  | _ => .error (.valueError s!"{field} must be an IPv4_ADDRESS:PORT string")

/-- The check for fields that are not allowed; `what` names the kind of the fields. -/
def checkUnknown (raw : JsonObject) (allowed : List String) (what : String) :
    Except PyError Unit :=
  let unknown := ((raw.map Prod.fst).filter (· ∉ allowed)).mergeSort (· ≤ ·)
  if unknown ≠ [] then
    let names := ", ".intercalate unknown
    .error (.valueError s!"unknown {what} fields: {names}")
  else .ok ()

/-- The check for fields that are missing; `what` names the kind of the fields. -/
def checkRequired (raw : JsonObject) (what : String) : List String → Except PyError Unit
  | [] => .ok ()
  | required :: rest =>
      if (raw.lookup required).isNone then
        .error (.valueError s!"missing required {what} field: {required}")
      else checkRequired raw what rest

/-! ## The configuration of an endpoint -/

/-- `ALLOWED_FIELDS`. -/
def allowedFields : List String :=
  ["tun_name", "tun_address", "mtu", "bind", "peer", "session_id", "key_file",
    "private_key_file", "peer_public_key_file", "role", "ephemeral_handshake",
    "handshake_timeout", "packets_per_key", "reconnect_delay", "json_logs",
    "keepalive_interval", "liveness_timeout"]

/-- An `EndpointConfig` with all its fields. -/
structure LoadedConfig extends EndpointConfig Binary64 where
  jsonLogs : Bool

/-- `EndpointRole(role)`. -/
def parseRole : Option String → Except PyError (Option EndpointRole)
  | none => .ok none
  | some "client" => .ok (some .client)
  | some "server" => .ok (some .server)
  | some _ => .error (.valueError "role must be client or server")

/-- The fields of the document, as `load_config` reads them. -/
def configOfObject (baseDirectory : PosixPath) (raw : JsonObject) :
    Except PyError LoadedConfig := do
  checkUnknown raw allowedFields "configuration"
  checkRequired raw "configuration" ["tun_address", "bind", "peer"]
  let role ← parseRole (← getOptionalString raw "role")
  let tunName ← getString raw "tun_name" (some "mvpn0")
  let tunAddress ← getString raw "tun_address" none
  let bind ← getEndpoint (raw.get "bind" none) "bind"
  let peer ← getEndpoint (raw.get "peer" none) "peer"
  let mtu ← getInteger raw "mtu" 1400
  let sessionId ← getInteger raw "session_id" 1
  let keyFile ← getPath raw "key_file" baseDirectory
  let privateKeyFile ← getPath raw "private_key_file" baseDirectory
  let peerPublicKeyFile ← getPath raw "peer_public_key_file" baseDirectory
  let ephemeralHandshake ← getBoolean raw "ephemeral_handshake" false
  let handshakeTimeout ← getNumber raw "handshake_timeout" (.finite 3)
  let packetsPerKey ← getInteger raw "packets_per_key" 0
  let reconnectDelay ← getNumber raw "reconnect_delay" (.finite 1)
  let jsonLogs ← getBoolean raw "json_logs" false
  let keepaliveInterval ← getNumber raw "keepalive_interval" 0
  let livenessTimeout ← getNumber raw "liveness_timeout" 0
  return {
    tunName, tunAddress, bind, peer, mtu, sessionId, keyFile, privateKeyFile,
    peerPublicKeyFile, role, ephemeralHandshake, handshakeTimeout, packetsPerKey,
    reconnectDelay, jsonLogs, keepaliveInterval, livenessTimeout }

/-- `load_config`. -/
def loadConfig (documents : Documents) (path : PosixPath) : Except PyError LoadedConfig :=
  match documents path with
  | .error (.caught error) => .error (.valueError s!"cannot load configuration: {error}")
  | .error (.valueError message) => .error (.valueError message)
  | .error (.recursionError message) => .error (.recursionError message)
  | .ok (.object raw) => do
      let config ← configOfObject path.parent raw
      config.validate
      return config
  | .ok _ => .error (.valueError "configuration root must be a JSON object")

/-- **A loaded configuration is valid.** -/
theorem loadConfig_ok {documents : Documents} {path : PosixPath} {config : LoadedConfig}
    (h : loadConfig documents path = .ok config) : config.validate = .ok () := by
  unfold loadConfig at h
  split at h
  · cases h
  · cases h
  · cases h
  · obtain ⟨config', -, h⟩ := except_bind_eq_ok.1 h
    obtain ⟨⟨⟩, hvalidate, hconfig⟩ := except_bind_eq_ok.1 h
    rw [← Except.ok.inj hconfig]
    exact hvalidate
  · cases h

/-! ## The configuration of the server -/

/-- `SERVER_FIELDS`. -/
def serverFields : List String :=
  ["tun_name", "tun_address", "mtu", "bind", "private_key_file", "packets_per_key", "json_logs",
    "clients"]

/-- `CLIENT_FIELDS`. -/
def clientFields : List String := ["name", "tunnel_address", "public_key_file"]

/-- `ServerClientConfig`. -/
structure ServerClientConfig where
  name : String
  tunnelAddress : IPv4Address
  publicKeyFile : String

/-- `MultiClientServerConfig`. -/
structure MultiClientServerConfig where
  tunName : String
  tunAddress : String
  bind : Address
  privateKeyFile : String
  clients : List ServerClientConfig
  mtu : ℤ
  packetsPerKey : ℤ
  jsonLogs : Bool

/-- `_string` of `server_config.py`. -/
def getNonEmptyString (raw : JsonObject) (field : String) (default : Option String) :
    Except PyError String :=
  match raw.get field (default.map .string) with
  | .string value =>
      if value = "" then .error (.valueError s!"{field} must be a non-empty string")
      else .ok value
  | _ => .error (.valueError s!"{field} must be a non-empty string")

/-- `_path` of `server_config.py`. -/
def getKeyFile (value : Json) (baseDirectory : PosixPath) : Except PyError String :=
  match value with
  | .string value =>
      if value = "" then .error (.valueError "key file must be a path string")
      else .ok (resolvePath baseDirectory value)
  | _ => .error (.valueError "key file must be a path string")

/-- `ipaddress.IPv4Address(value)`, which takes integers and booleans too. -/
def ipv4AddressOfJson? : Json → Option IPv4Address
  | .string text => IPv4Address.ofText? text.toList
  | .int value => if h : value.toNat < 2 ^ 32 ∧ 0 ≤ value then some ⟨value.toNat, h.1⟩ else none
  | .bool value => some ⟨value.toNat, by cases value <;> decide⟩
  | _ => none

/-- `_client_config`.  The required fields are a set: the error names the first one missing in
the order of this list. -/
def clientConfig (baseDirectory : PosixPath) (value : Json) :
    Except PyError ServerClientConfig :=
  match value with
  | .object value => do
      checkUnknown value clientFields "client"
      checkRequired value "client" clientFields
      match ipv4AddressOfJson? (JsonObject.get value "tunnel_address" none) with
      | none => .error (.valueError "client tunnel_address must be an IPv4 address")
      | some tunnelAddress =>
          return {
            name := ← getNonEmptyString value "name" none
            tunnelAddress
            publicKeyFile := ← getKeyFile (JsonObject.get value "public_key_file" none)
              baseDirectory }
  | _ => .error (.valueError "each client must be an object")

/-- `address in interface.network`. -/
def inNetwork (interface : ℕ × ℕ) (address : ℕ) : Bool :=
  address / 2 ^ (32 - interface.2) == interface.1 / 2 ^ (32 - interface.2)

namespace MultiClientServerConfig

/-- The checks of `_validate` on the clients. -/
def validateClients (config : MultiClientServerConfig) (interface : ℕ × ℕ) :
    Except PyError Unit :=
  if ¬ (config.clients.map (·.name)).Nodup then
    .error (.valueError "client names must be unique")
  else if ¬ (config.clients.map (·.tunnelAddress)).Nodup then
    .error (.valueError "client tunnel addresses must be unique")
  else if ∃ client ∈ config.clients, ¬ inNetwork interface client.tunnelAddress.value ∨
      client.tunnelAddress.value = interface.1 then
    .error (.valueError "client tunnel address must be inside the server TUN network")
  else .ok ()

/-- `_validate` of `server_config.py`. -/
def validate (config : MultiClientServerConfig) : Except PyError Unit :=
  match parseInterface? config.tunAddress with
  | none => .error (.valueError "tun_address must be an IPv4 interface in CIDR notation")
  | some interface => do
      if config.tunName = "" then
        throw (.valueError "tun_name must contain 1 to 15 ASCII bytes")
      let name ← encodeAscii config.tunName
      if name.length > 15 then
        .error (.valueError "tun_name must contain 1 to 15 ASCII bytes")
      else if ¬ (576 ≤ config.mtu ∧ config.mtu ≤ 65535) then
        .error (.valueError "mtu must be between 576 and 65535")
      else if config.packetsPerKey < 0 then
        .error (.valueError "packets_per_key must not be negative")
      else config.validateClients interface

end MultiClientServerConfig

/-- The fields of the document, as `load_server_config` reads them. -/
def serverConfigOfObject (baseDirectory : PosixPath) (raw : JsonObject) :
    Except PyError MultiClientServerConfig := do
  checkUnknown raw serverFields "server"
  checkRequired raw "server" ["tun_address", "bind", "private_key_file", "clients"]
  match raw.get "clients" none with
  | .array (first :: rest) => do
      let clients ← (first :: rest).mapM (clientConfig baseDirectory)
      let tunName ← getNonEmptyString raw "tun_name" (some "mvpn0")
      let tunAddress ← getNonEmptyString raw "tun_address" none
      let bind ← getEndpoint (raw.get "bind" none) "bind"
      let privateKeyFile ← getKeyFile (raw.get "private_key_file" none) baseDirectory
      let mtu ← getInteger raw "mtu" 1400
      let packetsPerKey ← getInteger raw "packets_per_key" 0
      let jsonLogs ← getBoolean raw "json_logs" false
      return { tunName, tunAddress, bind, privateKeyFile, clients, mtu, packetsPerKey, jsonLogs }
  | _ => .error (.valueError "clients must be a non-empty array")

/-- `load_server_config`. -/
def loadServerConfig (documents : Documents) (path : PosixPath) :
    Except PyError MultiClientServerConfig :=
  match documents path with
  | .error (.caught error) => .error (.valueError s!"cannot load server configuration: {error}")
  | .error (.valueError message) => .error (.valueError message)
  | .error (.recursionError message) => .error (.recursionError message)
  | .ok (.object raw) => do
      let config ← serverConfigOfObject path.parent raw
      config.validate
      return config
  | .ok _ => .error (.valueError "server configuration root must be a JSON object")

/-- **A loaded server configuration is valid.** -/
theorem loadServerConfig_ok {documents : Documents} {path : PosixPath}
    {config : MultiClientServerConfig} (h : loadServerConfig documents path = .ok config) :
    config.validate = .ok () := by
  unfold loadServerConfig at h
  split at h
  · cases h
  · cases h
  · cases h
  · obtain ⟨config', -, h⟩ := except_bind_eq_ok.1 h
    obtain ⟨⟨⟩, hvalidate, hconfig⟩ := except_bind_eq_ok.1 h
    rw [← Except.ok.inj hconfig]
    exact hvalidate
  · cases h

end MatfVpn
