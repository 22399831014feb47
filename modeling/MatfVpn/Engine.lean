/-
# Point-to-point engine (`engine.py`)

`TunnelEngine` forwards packets between a TUN device and one remote address.  One call
of `runOnce` is one iteration of its loop; what `select`, the devices and the clock
answer during the iteration is an `IterationInput`.

The clock is a type `τ` with the operations the code uses on it.
-/
import MatfVpn.ReplayWindow
import MatfVpn.Transport

namespace MatfVpn

open Program

/-- `MAX_SEQUENCE_NUMBER`. -/
def maxSequenceNumber : ℕ := 0xFFFFFFFFFFFFFFFF

/-- The state of a `TunnelEngine`. -/
structure TunnelEngine (τ : Type) where
  remoteAddress : Address
  sessionId : ℕ
  sequenceNumber : ℕ
  cipher : Option Cipher
  replayWindow : ReplayWindow
  keepaliveInterval : τ
  livenessTimeout : τ
  lastAuthenticatedReceive : τ
  nextKeepalive : τ

/-- What the surroundings answer during one iteration: the clock readings in the order
the code takes them, what the readable descriptors deliver (`none` when `select` does not
report them), and how the sends and the TUN write end. -/
structure IterationInput (τ : Type) where
  selectClock : τ
  tunRead : Option (Except PyError Bytes)
  tunSendFailure : Option PyError
  udpReceive : Option (Except PyError (Bytes × Address))
  receiveClock : τ
  tunWrite : Bytes → Except PyError ℕ
  loopClock : τ
  keepaliveSendFailure : Option PyError

section clock

variable {τ : Type} [Zero τ] [Add τ] [Sub τ] [LT τ] [LE τ] [DecidableEq τ] [DecidableLT τ]
  [DecidableLE τ]

/-- Python's `max(a, b)`. -/
def pyMax (a b : τ) : τ := if a < b then b else a

/-- Python's `min(a, b)`. -/
def pyMin (a b : τ) : τ := if b < a then b else a

namespace TunnelEngine

/-- `TunnelEngine.__init__`, where `now` is the clock reading of the constructor. -/
def new (remoteAddress : Address) (sessionId : ℤ) (cipher : Option Cipher)
    (keepaliveInterval livenessTimeout now : τ) : Except PyError (TunnelEngine τ) :=
  if ¬ (0 ≤ sessionId ∧ sessionId ≤ 0xFFFFFFFF) then
    .error (.valueError "session_id must fit in 32 bits")
  else if keepaliveInterval < 0 ∨ livenessTimeout < 0 then
    .error (.valueError "liveness values must not be negative")
  else if decide (keepaliveInterval ≠ 0) ≠ decide (livenessTimeout ≠ 0) then
    .error (.valueError "keepalive interval and liveness timeout must be enabled together")
  else if livenessTimeout ≠ 0 ∧ livenessTimeout ≤ keepaliveInterval then
    .error (.valueError "liveness timeout must be greater than keepalive interval")
  else .ok {
    remoteAddress := remoteAddress
    sessionId := sessionId.toNat
    sequenceNumber := 0
    cipher := cipher
    replayWindow := .default
    keepaliveInterval := keepaliveInterval
    livenessTimeout := livenessTimeout
    lastAuthenticatedReceive := now
    nextKeepalive := now + keepaliveInterval }

/-- `_select_timeout`, where `now` is the clock reading it takes. -/
def selectTimeout (self : TunnelEngine τ) (now : τ) (requestedTimeout : Option τ) : Option τ :=
  if self.keepaliveInterval = 0 then requestedTimeout
  else
    let internalTimeout := pyMin
      (pyMax 0 (self.nextKeepalive - now))
      (pyMax 0 (self.livenessTimeout - (now - self.lastAuthenticatedReceive)))
    match requestedTimeout with
    | none => some internalTimeout
    | some requested => some (pyMin requested internalTimeout)

end TunnelEngine

end clock

namespace TunnelEngine

variable {τ : Type}

/-- Run a call of the engine's cipher object. -/
def onCipher {α : Type} (cipher : Cipher) (m : Program PyError CryptoCall Cipher α) :
    Program PyError (Effect τ) (TunnelEngine τ) α :=
  zoom (fun _ => cipher) (fun cipher self => { self with cipher := some cipher }) .crypto m

/-- `_send_packet`; `failure` is the exception of `sendto`, if any. -/
def sendPacket (P : Primitives) (messageType : MessageType) (payload : Bytes)
    (failure : Option PyError) : Program PyError (Effect τ) (TunnelEngine τ) Unit := do
  let self ← read
  if self.sequenceNumber > maxSequenceNumber then
    raise (.overflowError "VPN packet sequence number exhausted")
  let plain : Packet := ⟨messageType, self.sessionId, self.sequenceNumber, payload⟩
  let packet ← match self.cipher with
    | none => pure plain
    | some cipher => onCipher cipher (Cipher.encrypt P plain)
  transportSend plain packet self.remoteAddress failure
  -- a send that raises leaves the number for the next packet
  update fun self => { self with sequenceNumber := self.sequenceNumber + 1 }

/-- `_send_tun_packet`. -/
def sendTunPacket (P : Primitives) (packet : Except PyError Bytes) (failure : Option PyError) :
    Program PyError (Effect τ) (TunnelEngine τ) Unit := do
  let payload ← ofExcept packet
  sendPacket P .data payload failure

/-- The `if self._cipher is not None` block of `_receive_udp_packet`: the decrypted packet,
or `none` where the code returns `False`. -/
def authenticate (P : Primitives) (cipher : Cipher) (packet : Packet) (receiveClock : τ) :
    Program PyError (Effect τ) (TunnelEngine τ) (Option Packet) := do
  let self ← read
  if self.replayWindow.isReplay packet.sequenceNumber then
    return none
  match ← attempt (onCipher cipher (Cipher.decrypt P packet)) with
  | .error .invalidTag => return none
  | .error e => raise e
  | .ok decrypted =>
      let window ← ofExcept (self.replayWindow.markAuthenticated decrypted.sequenceNumber)
      update fun self => { self with replayWindow := window }
      update fun self => { self with lastAuthenticatedReceive := receiveClock }
      return some decrypted

/-- The end of `_receive_udp_packet`: a keepalive is done, other payloads are written. -/
def deliver (packet : Packet) (answer : Bytes → Except PyError ℕ) :
    Program PyError (Effect τ) (TunnelEngine τ) Bool := do
  if packet.messageType = .keepalive then
    return false
  let written ← tunWrite packet.payload answer
  if written ≠ packet.payload.length then
    raise (.osError "incomplete TUN packet write")
  return true

/-- The middle of `_receive_udp_packet`: the checks on a packet from `source`. -/
def acceptPacket (P : Primitives) (packet : Packet) (source : Address)
    (input : IterationInput τ) : Program PyError (Effect τ) (TunnelEngine τ) Bool := do
  let self ← read
  if source ≠ self.remoteAddress then
    return false
  if packet.sessionId ≠ self.sessionId then
    return false
  if ¬ (packet.messageType = .data ∨ packet.messageType = .keepalive) then
    return false
  match self.cipher with
  -- without a cipher there is no replay check, and the packet is no sign of life
  | none => deliver packet input.tunWrite
  | some cipher =>
      match ← authenticate P cipher packet input.receiveClock with
      | none => return false
      | some decrypted => deliver decrypted input.tunWrite

/-- `_receive_udp_packet`, for what `recvfrom` returns or raises. -/
def receiveUdpPacket (P : Primitives) (arrival : Except PyError (Bytes × Address))
    (input : IterationInput τ) : Program PyError (Effect τ) (TunnelEngine τ) Bool := do
  match ← attempt (transportReceive arrival) with
  | .error (.invalidPacketError _) => return false
  | .error e => raise e
  | .ok (packet, source) => acceptPacket P packet source input

variable [Zero τ] [Add τ] [Sub τ] [LT τ] [LE τ] [DecidableEq τ] [DecidableLT τ]
  [DecidableLE τ]

/-- The `if self._keepalive_interval` block of `run_once`. -/
def checkTimers (P : Primitives) (input : IterationInput τ) :
    Program PyError (Effect τ) (TunnelEngine τ) Unit := do
  let self ← read
  if self.keepaliveInterval ≠ 0 then
    let now := input.loopClock
    if self.nextKeepalive ≤ now then
      sendPacket P .keepalive [] input.keepaliveSendFailure
      update fun self => { self with nextKeepalive := now + self.keepaliveInterval }
    let self ← read
    if self.livenessTimeout ≤ now - self.lastAuthenticatedReceive then
      raise (.timeoutError "VPN peer liveness timeout")

/-- The `if tun_descriptor in readable` block of `run_once`. -/
def forwardFromTun (P : Primitives) (input : IterationInput τ) :
    Program PyError (Effect τ) (TunnelEngine τ) ℕ :=
  match input.tunRead with
  | none => return 0
  | some packet => do
      sendTunPacket P packet input.tunSendFailure
      return 1

/-- The `if transport_descriptor in readable` block of `run_once`. -/
def forwardFromUdp (P : Primitives) (input : IterationInput τ) :
    Program PyError (Effect τ) (TunnelEngine τ) ℕ :=
  match input.udpReceive with
  | none => return 0
  | some arrival => do
      let received ← receiveUdpPacket P arrival input
      return if received then 1 else 0

/-- `run_once`. -/
def runOnce (P : Primitives) (input : IterationInput τ) (timeout : Option τ) :
    Program PyError (Effect τ) (TunnelEngine τ) ℕ := do
  let self ← read
  emit (.select (self.selectTimeout input.selectClock timeout))
  let fromTun ← forwardFromTun P input
  let fromUdp ← forwardFromUdp P input
  checkTimers P input
  return fromTun + fromUdp

end TunnelEngine

end MatfVpn
