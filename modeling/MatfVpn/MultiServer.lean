/-
# Multi-client server (`multi_server.py`)

`ClientRegistry` accepts the hellos of the configured clients and keeps the last ones
with their answers; `MultiClientServer` connects it with the data plane.  What `select`,
the devices and the random generator answer during one `run_once` is a `ServerInput`.
-/
import MatfVpn.Handshake
import MatfVpn.Lib.LruCache
import MatfVpn.MultiClient

namespace MatfVpn

open Program

structure ClientIdentity where
  name : String
  tunnelAddress : IPv4Address
  publicKey : Bytes
  deriving DecidableEq

/-- `HANDSHAKE_CACHE_SIZE`. -/
def handshakeCacheSize : ℕ := 1024

structure AcceptedSession where
  response : Packet
  session : ClientSession
  identity : ClientIdentity
  isNew : Bool

/-- The note that the registry accepted a hello from this source: as new, with the session
secret, or from the cache. -/
structure Acceptance where
  hello : Packet
  source : Address
  response : Packet
  identity : ClientIdentity
  secret : Option Bytes
  deriving DecidableEq

/-- A `ClientRegistry`; the checks of its constructor are fields. -/
structure ClientRegistry where
  serverPrivateKey : Bytes
  clients : List ClientIdentity
  packetsPerKey : ℕ
  acceptedHellos : OrderedDict Bytes AcceptedSession
  nodup_names : (clients.map ClientIdentity.name).Nodup
  nodup_addresses : (clients.map ClientIdentity.tunnelAddress).Nodup

namespace ClientRegistry

variable {τ : Type}

/-- `ClientRegistry(server_private_key, clients, packets_per_key)`. -/
def new (serverPrivateKey : Bytes) (clients : List ClientIdentity) (packetsPerKey : ℕ) :
    Except PyError ClientRegistry :=
  if hn : ¬ (clients.map ClientIdentity.name).Nodup then
    .error (.valueError "client names must be unique")
  else if ha : ¬ (clients.map ClientIdentity.tunnelAddress).Nodup then
    .error (.valueError "client tunnel addresses must be unique")
  else .ok ⟨serverPrivateKey, clients, packetsPerKey, .empty, not_not.1 hn, not_not.1 ha⟩

/-- The loop over the identities in `accept`, from the identity at position `i` on; the
call of `accept_client_hello` for this identity draws `entropy i`. -/
def acceptFrom (P : Primitives) (packet : Packet) (remoteAddress : Address)
    (fingerprint : Bytes) (entropy : ℕ → ServerEntropy) :
    ℕ → List ClientIdentity →
      Program PyError (ServerEffect τ Acceptance) ClientRegistry (Option AcceptedSession)
  | _, [] => return none
  | i, identity :: clients => do
      let self ← read
      match acceptClientHello P packet self.serverPrivateKey identity.publicKey (entropy i) with
      | .error e =>
          -- the hello is not one of this client
          if e.isValueError then
            acceptFrom P packet remoteAddress fingerprint entropy (i + 1) clients
          else raise e
      | .ok (response, sessionSecret) =>
          let cipher ← lift (fun call => .effect (.crypto call))
            (createCipher P sessionSecret packet.sessionId .server self.packetsPerKey)
          let session : ClientSession :=
            ⟨remoteAddress, identity.tunnelAddress, packet.sessionId, cipher, 0, .default⟩
          let accepted : AcceptedSession := ⟨response, session, identity, true⟩
          update fun self => { self with
            acceptedHellos :=
              LruCache.store handshakeCacheSize self.acceptedHellos fingerprint accepted }
          emit (.note ⟨packet, remoteAddress, response, identity, some sessionSecret⟩)
          return some accepted

/-- `accept`. -/
def accept (P : Primitives) (packet : Packet) (remoteAddress : Address)
    (entropy : ℕ → ServerEntropy) :
    Program PyError (ServerEffect τ Acceptance) ClientRegistry (Option AcceptedSession) := do
  if packet.messageType ≠ .clientHello then
    return none
  else
    let data ← ofExcept packet.encode
    let fingerprint := P.sha256 data
    let self ← read
    match self.acceptedHellos.get? fingerprint with
    | some cached =>
        -- a repeated hello gets the recorded response
        update fun self => { self with
          acceptedHellos := LruCache.touch self.acceptedHellos fingerprint }
        emit (.note ⟨packet, remoteAddress, cached.response, cached.identity, none⟩)
        return some { cached with isNew := false }
    | none => acceptFrom P packet remoteAddress fingerprint entropy 0 self.clients

end ClientRegistry

structure MultiClientServer where
  registry : ClientRegistry
  engine : MultiClientServerEngine

/-- What the surroundings answer during one `run_once`: what the readable descriptors
deliver (`none` when `select` does not report them), the random values, and how the sends
and the TUN write end. -/
structure ServerInput where
  tunRead : Option (Except PyError Bytes)
  tunSendFailure : Option PyError
  udpReceive : Option (Except PyError (Bytes × Address))
  entropy : ℕ → ServerEntropy
  helloSendFailure : Option PyError
  tunWrite : Bytes → Except PyError ℕ

namespace MultiClientServer

variable {τ : Type}

/-- `MultiClientServer.__init__`. -/
def new (registry : ClientRegistry) : MultiClientServer := ⟨registry, .new⟩

/-- Run a call of the registry. -/
def onRegistry {α : Type}
    (m : Program PyError (ServerEffect τ Acceptance) ClientRegistry α) :
    Program PyError (ServerEffect τ Acceptance) MultiClientServer α :=
  zoom registry (fun registry self => { self with registry := registry }) id m

/-- Run a call of the engine. -/
def onEngine {α : Type}
    (m : Program PyError (ServerEffect τ Acceptance) MultiClientServerEngine α) :
    Program PyError (ServerEffect τ Acceptance) MultiClientServer α :=
  zoom engine (fun engine self => { self with engine := engine }) id m

/-- The `if self._tun_device.fileno() in readable` block of `run_once`. -/
def forwardFromTun (P : Primitives) (input : ServerInput) :
    Program PyError (ServerEffect τ Acceptance) MultiClientServer ℕ :=
  match input.tunRead with
  | none => return 0
  | some packet => do
      let payload ← ofExcept packet
      let forwarded ← onEngine (MultiClientServerEngine.handleTunPacket P payload
        input.tunSendFailure)
      return if forwarded then 1 else 0

/-- What `run_once` does with a packet that `transport.receive` returned. -/
def handlePacket (P : Primitives) (packet : Packet) (remoteAddress : Address)
    (input : ServerInput) : Program PyError (ServerEffect τ Acceptance) MultiClientServer ℕ := do
  match ← onRegistry (ClientRegistry.accept P packet remoteAddress input.entropy) with
  | some accepted =>
      lift .effect (transportSend accepted.response accepted.response remoteAddress
        input.helloSendFailure)
      -- the session is replaced after the response was sent
      if accepted.isNew then
        onEngine (MultiClientServerEngine.replaceSession accepted.session)
        return 0
      else
        return 0
  | none =>
      let forwarded ← onEngine (MultiClientServerEngine.handleUdpPacket P packet remoteAddress
        input.tunWrite)
      return if forwarded then 1 else 0

/-- The `if self._transport.fileno() in readable` block of `run_once`. -/
def forwardFromUdp (P : Primitives) (input : ServerInput) :
    Program PyError (ServerEffect τ Acceptance) MultiClientServer ℕ :=
  match input.udpReceive with
  | none => return 0
  | some arrival => do
      match ← attempt (lift .effect (transportReceive arrival)) with
      | .error (.invalidPacketError _) => return 0
      | .error e => raise e
      | .ok (packet, remoteAddress) => handlePacket P packet remoteAddress input

/-- `run_once`. -/
def runOnce (P : Primitives) (input : ServerInput) (timeout : Option τ) :
    Program PyError (ServerEffect τ Acceptance) MultiClientServer ℕ := do
  emit (.effect (.select timeout))
  let fromTun ← forwardFromTun P input
  let fromUdp ← forwardFromUdp P input
  return fromTun + fromUdp

/-- `run`: iterations until one raises, for what the surroundings have answered so far. -/
def run (P : Primitives) :
    List ServerInput → Program PyError (ServerEffect τ Acceptance) MultiClientServer Unit
  | [] => return ()
  | input :: inputs => do
      let _ ← runOnce P input none
      run P inputs

end MultiClientServer

end MatfVpn
