/-
# Session handshake (`key_agreement.py`, `handshake.py`)

The authenticated ephemeral X25519 handshake: the two hello messages, the checks on
them, the session secret, and the loops that exchange them over the transport.  The
random values that the code draws are arguments.
-/
import MatfVpn.Transport

namespace MatfVpn

open Program

/-! ## Key agreement -/

/-- `generate_keypair`, for the 32 bytes that `X25519PrivateKey.generate` draws. -/
def generateKeypair (P : Primitives) (privateKey : Bytes) : Bytes × Bytes :=
  (privateKey, P.x25519Public privateKey)

/-- `derive_shared_secret`. -/
def deriveSharedSecret (P : Primitives) (privateKey peerPublicKey : Bytes) :
    Except PyError Bytes :=
  if privateKey.length ≠ x25519KeySize then
    .error (.valueError "X25519 private key must contain 32 bytes")
  else if peerPublicKey.length ≠ x25519KeySize then
    .error (.valueError "X25519 public key must contain 32 bytes")
  else
    match P.x25519Exchange privateKey peerPublicKey with
    | none => .error (.valueError "Error computing shared key.")
    | some secret => .ok secret

/-! ## Constants -/

/-- `RANDOM_SIZE`. -/
def randomSize : ℕ := 32

/-- `AUTHENTICATION_TAG_SIZE`. -/
def authenticationTagSize : ℕ := 32

/-- `HELLO_PAYLOAD_SIZE`. -/
def helloPayloadSize : ℕ := 32 + randomSize + authenticationTagSize

/-- The bytes of `"matf-vpn-v1 authenticated ephemeral handshake"`. -/
def handshakeContext : Bytes :=
  [109, 97, 116, 102, 45, 118, 112, 110, 45, 118, 49, 32, 97, 117, 116, 104, 101, 110, 116,
    105, 99, 97, 116, 101, 100, 32, 101, 112, 104, 101, 109, 101, 114, 97, 108, 32, 104, 97,
    110, 100, 115, 104, 97, 107, 101]

/-- The bytes of `"client"`. -/
def clientLabel : Bytes := [99, 108, 105, 101, 110, 116]

/-- The bytes of `"server"`. -/
def serverLabel : Bytes := [115, 101, 114, 118, 101, 114]

/-- `DEFAULT_HANDSHAKE_ATTEMPTS`. -/
def defaultHandshakeAttempts : ℕ := 3

/-! ## Random values -/

/-- What `create_client_hello` draws. -/
structure ClientEntropy where
  sessionId : ℕ
  ephemeralPrivate : Bytes
  clientRandom : Bytes
  sessionId_lt : sessionId < 2 ^ 32
  length_ephemeralPrivate : ephemeralPrivate.length = x25519KeySize
  length_clientRandom : clientRandom.length = randomSize

/-- What `accept_client_hello` draws. -/
structure ServerEntropy where
  ephemeralPrivate : Bytes
  serverRandom : Bytes
  length_ephemeralPrivate : ephemeralPrivate.length = x25519KeySize
  length_serverRandom : serverRandom.length = randomSize

/-! ## The messages -/

structure ClientHandshakeState where
  sessionId : ℕ
  staticPrivateKey : Bytes
  peerStaticPublicKey : Bytes
  ephemeralPrivateKey : Bytes
  clientHelloPayload : Bytes
  deriving DecidableEq

/-- `_authentication_tag`. -/
def authenticationTag (P : Primitives) (key transcript : Bytes) : Bytes :=
  P.hmacSha256 key (handshakeContext ++ transcript)

/-- The `name` of a message type. -/
def MessageType.name : MessageType → String
  | data => "DATA"
  | keepalive => "KEEPALIVE"
  | clientHello => "CLIENT_HELLO"
  | serverHello => "SERVER_HELLO"

/-- `_validate_hello`. -/
def validateHello (packet : Packet) (expectedType : MessageType) : Except PyError Unit :=
  if packet.messageType ≠ expectedType then
    .error (.valueError s!"expected {expectedType.name} packet")
  else if packet.sequenceNumber ≠ 0 ∨ packet.payload.length ≠ helloPayloadSize then
    .error (.valueError "invalid handshake packet")
  else .ok ()

/-- `payload[:-AUTHENTICATION_TAG_SIZE]`. -/
def helloBody (payload : Bytes) : Bytes := payload.take (payload.length - authenticationTagSize)

/-- `payload[-AUTHENTICATION_TAG_SIZE:]`. -/
def helloTag (payload : Bytes) : Bytes := payload.drop (payload.length - authenticationTagSize)

/-- `_derive_session_secret`. -/
def deriveSessionSecret (P : Primitives) (ephemeralPrivateKey peerEphemeralPublicKey
    staticPrivateKey peerStaticPublicKey clientHelloPayload serverHelloPayload : Bytes)
    (localIsClient : Bool) : Except PyError Bytes := do
  let ephemeralEphemeral ← deriveSharedSecret P ephemeralPrivateKey peerEphemeralPublicKey
  let ephemeralStatic ←
    if localIsClient then deriveSharedSecret P ephemeralPrivateKey peerStaticPublicKey
    else deriveSharedSecret P staticPrivateKey peerEphemeralPublicKey
  let staticEphemeral ←
    if localIsClient then deriveSharedSecret P staticPrivateKey peerEphemeralPublicKey
    else deriveSharedSecret P ephemeralPrivateKey peerStaticPublicKey
  let staticStatic ← deriveSharedSecret P staticPrivateKey peerStaticPublicKey
  let transcriptHash := P.sha256 (clientHelloPayload ++ serverHelloPayload)
  return P.hkdf 32 transcriptHash handshakeContext
    (ephemeralEphemeral ++ ephemeralStatic ++ staticEphemeral ++ staticStatic)

/-- `create_client_hello`. -/
def createClientHello (P : Primitives) (staticPrivateKey peerStaticPublicKey : Bytes)
    (entropy : ClientEntropy) : Except PyError (Packet × ClientHandshakeState) := do
  let sessionId := entropy.sessionId
  let (ephemeralPrivate, ephemeralPublic) := generateKeypair P entropy.ephemeralPrivate
  let body := ephemeralPublic ++ entropy.clientRandom
  let staticSecret ← deriveSharedSecret P staticPrivateKey peerStaticPublicKey
  let sessionIdBytes ← intToBytes sessionId 4
  let tag := authenticationTag P staticSecret (clientLabel ++ sessionIdBytes ++ body)
  let payload := body ++ tag
  return (⟨.clientHello, sessionId, 0, payload⟩,
    ⟨sessionId, staticPrivateKey, peerStaticPublicKey, ephemeralPrivate, payload⟩)

/-- `accept_client_hello`. -/
def acceptClientHello (P : Primitives) (packet : Packet)
    (staticPrivateKey peerStaticPublicKey : Bytes) (entropy : ServerEntropy) :
    Except PyError (Packet × Bytes) := do
  validateHello packet .clientHello
  let clientEphemeralPublic := packet.payload.take 32
  let clientBody := helloBody packet.payload
  let clientTag := helloTag packet.payload
  let staticSecret ← deriveSharedSecret P staticPrivateKey peerStaticPublicKey
  let sessionIdBytes ← intToBytes packet.sessionId 4
  let expectedTag := authenticationTag P staticSecret (clientLabel ++ sessionIdBytes ++ clientBody)
  if clientTag ≠ expectedTag then
    throw (.valueError "client handshake authentication failed")
  let (ephemeralPrivate, ephemeralPublic) := generateKeypair P entropy.ephemeralPrivate
  let serverBody := ephemeralPublic ++ entropy.serverRandom
  let serverTag := authenticationTag P staticSecret
    (serverLabel ++ sessionIdBytes ++ packet.payload ++ serverBody)
  let response : Packet := ⟨.serverHello, packet.sessionId, 0, serverBody ++ serverTag⟩
  let sessionSecret ← deriveSessionSecret P ephemeralPrivate clientEphemeralPublic
    staticPrivateKey peerStaticPublicKey packet.payload response.payload false
  return (response, sessionSecret)

/-- `finish_client_handshake`. -/
def finishClientHandshake (P : Primitives) (state : ClientHandshakeState) (response : Packet) :
    Except PyError Bytes := do
  validateHello response .serverHello
  if response.sessionId ≠ state.sessionId then
    throw (.valueError "server handshake session does not match")
  let serverBody := helloBody response.payload
  let serverTag := helloTag response.payload
  let staticSecret ← deriveSharedSecret P state.staticPrivateKey state.peerStaticPublicKey
  let sessionIdBytes ← intToBytes state.sessionId 4
  let expectedTag := authenticationTag P staticSecret
    (serverLabel ++ sessionIdBytes ++ state.clientHelloPayload ++ serverBody)
  if serverTag ≠ expectedTag then
    throw (.valueError "server handshake authentication failed")
  let serverEphemeralPublic := response.payload.take 32
  deriveSessionSecret P state.ephemeralPrivateKey serverEphemeralPublic state.staticPrivateKey
    state.peerStaticPublicKey state.clientHelloPayload response.payload true

/-! ## The exchange -/

/-- The session secret that a handshake derived from two hello payloads. -/
structure Derivation where
  sessionId : ℕ
  clientHello : Bytes
  serverHello : Bytes
  secret : Bytes
  deriving DecidableEq

/-- What a process with a handshake does: effects on its surroundings, and the session
secrets it derives, which are recorded for the specifications. -/
inductive SessionEffect (τ : Type) where
  | effect (e : Effect τ)
  | derived (d : Derivation)
  deriving DecidableEq

/-- What the surroundings answer during one attempt of a handshake. -/
structure AttemptInput where
  sendFailure : Option PyError
  arrival : Except PyError (Bytes × Address)
  entropy : ServerEntropy

/-- The exceptions of `transport.receive` after which a handshake tries again. -/
def retriesReceive : PyError → Bool
  | .timeoutError _ | .invalidPacketError _ => true
  | _ => false

section exchange

variable {τ σ : Type}

/-- `create_cipher` within a session. -/
def sessionCipher (P : Primitives) (secret : Bytes) (sessionId : ℤ) (role : EndpointRole)
    (packetsPerKey : ℤ) : Program PyError (SessionEffect τ) σ Cipher :=
  lift (fun call => .effect (.crypto call)) (createCipher P secret sessionId role packetsPerKey)

/-- The loop of `run_client_handshake`, from attempt `i` on. -/
def clientAttempts (P : Primitives) (remoteAddress : Address) (hello : Packet)
    (state : ClientHandshakeState) (packetsPerKey : ℤ) (input : ℕ → AttemptInput) :
    (attempts i : ℕ) → Program PyError (SessionEffect τ) σ (ℤ × Cipher)
  | 0, _ => raise (.timeoutError "authenticated server handshake timed out")
  | attempts + 1, i => do
      let next := clientAttempts P remoteAddress hello state packetsPerKey input attempts (i + 1)
      -- every attempt sends the same hello
      lift .effect (transportSend hello hello remoteAddress (input i).sendFailure)
      match ← attempt (lift .effect (transportReceive (input i).arrival)) with
      | .error e => if retriesReceive e then next else raise e
      | .ok (response, sender) =>
          if sender ≠ remoteAddress then next
          else
            match finishClientHandshake P state response with
            | .error e => if e.isValueError then next else raise e
            | .ok sessionSecret => do
                emit (.derived ⟨state.sessionId, state.clientHelloPayload, response.payload,
                  sessionSecret⟩)
                let cipher ← sessionCipher P sessionSecret state.sessionId .client packetsPerKey
                return (state.sessionId, cipher)

/-- `run_client_handshake`. -/
def runClientHandshake (P : Primitives) (remoteAddress : Address)
    (staticPrivateKey peerStaticPublicKey : Bytes) (attempts : ℕ) (packetsPerKey : ℤ)
    (entropy : ClientEntropy) (input : ℕ → AttemptInput) :
    Program PyError (SessionEffect τ) σ (ℤ × Cipher) := do
  let (hello, state) ← ofExcept
    (createClientHello P staticPrivateKey peerStaticPublicKey entropy)
  clientAttempts P remoteAddress hello state packetsPerKey input attempts 0

/-- The loop of `run_server_handshake`, from attempt `i` on. -/
def serverAttempts (P : Primitives) (remoteAddress : Address)
    (staticPrivateKey peerStaticPublicKey : Bytes) (packetsPerKey : ℤ)
    (input : ℕ → AttemptInput) :
    (attempts i : ℕ) → Program PyError (SessionEffect τ) σ (ℤ × Cipher)
  | 0, _ => raise (.timeoutError "authenticated client handshake timed out")
  | attempts + 1, i => do
      let next := serverAttempts P remoteAddress staticPrivateKey peerStaticPublicKey
        packetsPerKey input attempts (i + 1)
      match ← attempt (lift .effect (transportReceive (input i).arrival)) with
      | .error e => if retriesReceive e then next else raise e
      | .ok (hello, sender) =>
          if sender ≠ remoteAddress then next
          else
            match acceptClientHello P hello staticPrivateKey peerStaticPublicKey
              (input i).entropy with
            | .error e => if e.isValueError then next else raise e
            | .ok (response, sessionSecret) => do
                emit (.derived ⟨hello.sessionId, hello.payload, response.payload,
                  sessionSecret⟩)
                -- the first authentic hello ends the loop, whether its answer arrives or not
                lift .effect (transportSend response response remoteAddress
                  (input i).sendFailure)
                let cipher ← sessionCipher P sessionSecret hello.sessionId .server packetsPerKey
                return (hello.sessionId, cipher)

/-- `run_server_handshake`. -/
def runServerHandshake (P : Primitives) (remoteAddress : Address)
    (staticPrivateKey peerStaticPublicKey : Bytes) (attempts : ℕ) (packetsPerKey : ℤ)
    (input : ℕ → AttemptInput) : Program PyError (SessionEffect τ) σ (ℤ × Cipher) :=
  serverAttempts P remoteAddress staticPrivateKey peerStaticPublicKey packetsPerKey input
    attempts 0

end exchange

end MatfVpn
