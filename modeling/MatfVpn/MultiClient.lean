/-
# Data plane of the multi-client server (`multi_client.py`)

`MultiClientServerEngine` routes packets between the TUN device and the sessions of the
clients.  Its two dictionaries hold references to session objects: `objects` is the list
of all objects made so far, and a reference is a position in it.
-/
import MatfVpn.Engine
import MatfVpn.Lib.OrderedDict

namespace MatfVpn

open Program

/-! ## IPv4 packets -/

/-- `_validate_ipv4_packet`. -/
def validateIpv4Packet (packet : Bytes) : Except PyError Unit :=
  if packet.length < 20 ∨ packet.headD 0 >>> 4 ≠ 4 then
    .error (.valueError "expected an IPv4 packet")
  else
    let headerLength := (packet.headD 0 &&& 0x0F).toNat * 4
    if headerLength < 20 ∨ packet.length < headerLength then
      .error (.valueError "invalid IPv4 header length")
    else .ok ()

/-- `_ipv4_source`. -/
def ipv4Source (packet : Bytes) : Except PyError IPv4Address := do
  validateIpv4Packet packet
  IPv4Address.ofPacked ((packet.drop 12).take 4)

/-- `_ipv4_destination`. -/
def ipv4Destination (packet : Bytes) : Except PyError IPv4Address := do
  validateIpv4Packet packet
  IPv4Address.ofPacked ((packet.drop 16).take 4)

/-! ## Sessions -/

/-- `SessionKey`. -/
abbrev SessionKey := Address × ℕ

structure ClientSession where
  remoteAddress : Address
  tunnelAddress : IPv4Address
  sessionId : ℕ
  cipher : Cipher
  sendSequence : ℕ
  replayWindow : ReplayWindow

/-- The key of a session in `_sessions`. -/
def ClientSession.key (session : ClientSession) : SessionKey :=
  (session.remoteAddress, session.sessionId)

structure MultiClientServerEngine where
  objects : List ClientSession
  sessions : OrderedDict SessionKey ℕ
  routes : OrderedDict IPv4Address ℕ

/-- What the server does: an effect of an endpoint, or a note for the statements about it.
The notes change nothing that the code computes. -/
inductive ServerEffect (τ : Type) (ν : Type) where
  | effect (e : Effect τ)
  /-- The decrypted packet was accepted on this session object. -/
  | deliver (session : ℕ) (packet : Packet)
  /-- A note of the registry. -/
  | note (n : ν)

namespace MultiClientServerEngine

variable {τ ν : Type}

/-- `MultiClientServerEngine.__init__`. -/
def new : MultiClientServerEngine := ⟨[], .empty, .empty⟩

/-- The session object of a reference. -/
def session? (self : MultiClientServerEngine) (ref : ℕ) : Option ClientSession :=
  self.objects[ref]?

/-- The object behind a reference in the program; references always have one. -/
def deref (ref : ℕ) : Program PyError (ServerEffect τ ν) MultiClientServerEngine ClientSession := do
  let self ← read
  match self.session? ref with
  | some session => return session
  | none => raise .keyError

/-- Change a session object. -/
def modifySession (self : MultiClientServerEngine) (ref : ℕ)
    (f : ClientSession → ClientSession) : MultiClientServerEngine :=
  { self with objects := self.objects.modify ref f }

/-- Run a call of a session's cipher object. -/
def onCipher {α : Type} (ref : ℕ) (cipher : Cipher) (m : Program PyError CryptoCall Cipher α) :
    Program PyError (ServerEffect τ ν) MultiClientServerEngine α :=
  zoom (fun _ => cipher)
    (fun cipher self => self.modifySession ref fun session => { session with cipher := cipher })
    (fun call => .effect (.crypto call)) m

/-- `add_session`, with the change of the engine that installs the session. -/
def addWith (session : ClientSession)
    (install : MultiClientServerEngine → MultiClientServerEngine) :
    Program PyError (ServerEffect τ ν) MultiClientServerEngine Unit := do
  let self ← read
  if self.sessions.contains session.key then
    raise (.valueError "client session already exists")
  else if self.routes.contains session.tunnelAddress then
    raise (.valueError "client tunnel address already has a session")
  else
    update install

/-- `add_session` of a new object. -/
def addSession (session : ClientSession) :
    Program PyError (ServerEffect τ ν) MultiClientServerEngine Unit :=
  addWith session fun self => {
    objects := self.objects ++ [session]
    sessions := self.sessions.insert session.key self.objects.length
    routes := self.routes.insert session.tunnelAddress self.objects.length }

/-- `add_session` of an object that the engine was given before. -/
def addObject (ref : ℕ) : Program PyError (ServerEffect τ ν) MultiClientServerEngine Unit := do
  let session ← deref ref
  addWith session fun self => { self with
    sessions := self.sessions.insert session.key ref
    routes := self.routes.insert session.tunnelAddress ref }

/-- `remove_session`. -/
def removeSession (remoteAddress : Address) (sessionId : ℕ) :
    Program PyError (ServerEffect τ ν) MultiClientServerEngine Unit := do
  let self ← read
  match self.sessions.get? (remoteAddress, sessionId) with
  | none => raise .keyError
  | some ref =>
      update fun self => { self with sessions := self.sessions.erase (remoteAddress, sessionId) }
      let session ← deref ref
      update fun self => { self with routes := self.routes.erase session.tunnelAddress }

/-- `replace_session`, with its call of `add_session`. -/
def replaceWith (tunnelAddress : IPv4Address)
    (add : Program PyError (ServerEffect τ ν) MultiClientServerEngine Unit) :
    Program PyError (ServerEffect τ ν) MultiClientServerEngine Unit := do
  let self ← read
  match self.routes.get? tunnelAddress with
  | none => add
  | some ref =>
      -- the old session is gone when `add_session` raises
      let existing ← deref ref
      removeSession existing.remoteAddress existing.sessionId
      add

/-- `replace_session` of a new object. -/
def replaceSession (session : ClientSession) :
    Program PyError (ServerEffect τ ν) MultiClientServerEngine Unit :=
  replaceWith session.tunnelAddress (addSession session)

/-- `replace_session` of an object that the engine was given before. -/
def replaceObject (ref : ℕ) :
    Program PyError (ServerEffect τ ν) MultiClientServerEngine Unit := do
  let session ← deref ref
  replaceWith session.tunnelAddress (addObject ref)

/-! ## Packets -/

/-- `handle_tun_packet`; `failure` is the exception of `sendto`, if any. -/
def handleTunPacket (P : Primitives) (payload : Bytes) (failure : Option PyError) :
    Program PyError (ServerEffect τ ν) MultiClientServerEngine Bool := do
  match ipv4Destination payload with
  | .error e => if e.isValueError then return false else raise e
  | .ok destination =>
      let self ← read
      match self.routes.get? destination with
      | none => return false
      | some ref =>
          let session ← deref ref
          if session.sendSequence > maxSequenceNumber then
            raise (.overflowError "VPN packet sequence number exhausted")
          else
            let plain : Packet := ⟨.data, session.sessionId, session.sendSequence, payload⟩
            let packet ← onCipher ref session.cipher (Cipher.encrypt P plain)
            lift .effect (transportSend plain packet session.remoteAddress failure)
            update fun self => self.modifySession ref fun session =>
              { session with sendSequence := session.sendSequence + 1 }
            return true

/-- The end of `handle_udp_packet`: a packet from the tunnel address of its session is
marked and written to the TUN device. -/
def deliver (ref : ℕ) (session : ClientSession) (sequenceNumber : ℕ) (decrypted : Packet)
    (answer : Bytes → Except PyError ℕ) :
    Program PyError (ServerEffect τ ν) MultiClientServerEngine Bool := do
  match ipv4Source decrypted.payload with
  | .error e => if e.isValueError then return false else raise e
  | .ok source =>
      if source ≠ session.tunnelAddress then
        return false
      else
        -- only a packet from the address of the client marks the window
        let window ← ofExcept (session.replayWindow.markAuthenticated sequenceNumber)
        update fun self => self.modifySession ref fun session =>
          { session with replayWindow := window }
        emit (.deliver ref decrypted)
        let written ← lift .effect (tunWrite decrypted.payload answer)
        if written ≠ decrypted.payload.length then
          raise (.osError "incomplete TUN packet write")
        else
          return true

/-- `handle_udp_packet`, for what `os.write` answers. -/
def handleUdpPacket (P : Primitives) (packet : Packet) (remoteAddress : Address)
    (answer : Bytes → Except PyError ℕ) :
    Program PyError (ServerEffect τ ν) MultiClientServerEngine Bool := do
  let self ← read
  match self.sessions.get? (remoteAddress, packet.sessionId) with
  | none => return false
  | some ref =>
      if packet.messageType ≠ .data then
        return false
      else
        let session ← deref ref
        if session.replayWindow.isReplay packet.sequenceNumber then
          return false
        else
          match ← attempt (onCipher ref session.cipher (Cipher.decrypt P packet)) with
          | .error .invalidTag => return false
          | .error e => raise e
          | .ok decrypted => deliver ref session packet.sequenceNumber decrypted answer

/-! ## Calls -/

/-- A call of the engine, with the sessions that its callers give it and with what the operating
system answers. -/
inductive EngineCall (σ : Type) where
  | addSession (session : σ)
  | replaceSession (session : σ)
  | removeSession (remoteAddress : Address) (sessionId : ℕ)
  | handleTunPacket (payload : Bytes) (failure : Option PyError)
  | handleUdpPacket (packet : Packet) (remoteAddress : Address)
      (answer : Bytes → Except PyError ℕ)

/-- Run a call, for what adds and what replaces a session; what it returns does not matter. -/
def EngineCall.run {σ : Type} (P : Primitives)
    (add replace : σ → Program PyError (ServerEffect τ ν) MultiClientServerEngine Unit) :
    EngineCall σ → Program PyError (ServerEffect τ ν) MultiClientServerEngine Unit
  | .addSession session => add session
  | .replaceSession session => replace session
  | .removeSession remoteAddress sessionId =>
      MultiClientServerEngine.removeSession remoteAddress sessionId
  | .handleTunPacket payload failure => do
      let _ ← MultiClientServerEngine.handleTunPacket P payload failure
      return ()
  | .handleUdpPacket packet remoteAddress answer => do
      let _ ← MultiClientServerEngine.handleUdpPacket P packet remoteAddress answer
      return ()

end MultiClientServerEngine

end MatfVpn
