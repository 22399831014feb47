/-
# What the point-to-point engine does

One specification for each part of `run_once`, for an engine whose cipher is derived
from a secret.

* `sendPacket_spec` : a packet is sealed and sent, or the call raises;
* `receiveUdpPacket_spec` : a datagram changes the engine and is written exactly when
  `opened` accepts it;
* `runOnce_preserves` : an invariant that survives these two calls survives an iteration.
-/
import MatfVpn.CipherSpec
import MatfVpn.Engine

namespace MatfVpn

open Program

namespace TunnelEngine

variable {τ : Type} {P : Primitives} {secret : Bytes} {sessionId packetsPerKey : ℕ}
  {role : EndpointRole}

/-- The engine encrypts with a cipher derived from the secret, under its session id. -/
structure Uses (P : Primitives) (log : List HkdfCall) (secret : Bytes) (sessionId : ℕ)
    (role : EndpointRole) (packetsPerKey : ℕ) (engine : TunnelEngine τ) : Prop where
  cipher : ∃ c, engine.cipher = some c ∧
    c.DerivedFrom P log secret sessionId role packetsPerKey
  sessionId_eq : engine.sessionId = sessionId
  sessionId_lt : sessionId < 2 ^ 32

/-- The packet that `_send_packet` builds. -/
def nextPacket (self : TunnelEngine τ) (messageType : MessageType) (payload : Bytes) : Packet :=
  ⟨messageType, self.sessionId, self.sequenceNumber, payload⟩

/-- The state after a call on the cipher and a step of the packet counter. -/
def withCipher (self : TunnelEngine τ) (cipher : Cipher) (sequenceNumber : ℕ) :
    TunnelEngine τ :=
  { self with cipher := some cipher, sequenceNumber := sequenceNumber }

/-- Calls on a derived cipher leave the engine with one. -/
theorem Uses.withCipher {log log' : List HkdfCall} {self : TunnelEngine τ}
    (h : self.Uses P log secret sessionId role packetsPerKey) {c : Cipher}
    (hc : c.DerivedFrom P log' secret sessionId role packetsPerKey) (n : ℕ) :
    (self.withCipher c n).Uses P log' secret sessionId role packetsPerKey :=
  ⟨⟨c, rfl, hc⟩, h.sessionId_eq, h.sessionId_lt⟩

/-- A longer log holds the same derivations. -/
theorem Uses.mono {log log' : List HkdfCall} {self : TunnelEngine τ}
    (h : self.Uses P log secret sessionId role packetsPerKey)
    (hlog : ∀ call ∈ log, call ∈ log') :
    self.Uses P log' secret sessionId role packetsPerKey := by
  obtain ⟨c, hc, hder⟩ := h.cipher
  exact ⟨⟨c, hc, hder.mono hlog⟩, h.sessionId_eq, h.sessionId_lt⟩

/-! ## Sending -/

/-- How `_send_packet` ends for the packet `plain`: its result, the counter afterwards
and its effects, where `calls` are the calls of the cipher. -/
inductive SendEnds (P : Primitives) (secret : Bytes) (role : EndpointRole)
    (packetsPerKey : ℕ) (self : TunnelEngine τ) (plain : Packet) (failure : Option PyError)
    (calls : List CryptoCall) : Except PyError Unit → ℕ → List (Effect τ) → Prop
  /-- The counter is past 64 bits. -/
  | exhausted : self.sequenceNumber > maxSequenceNumber → calls = [] →
      SendEnds P secret role packetsPerKey self plain failure calls
        (.error (.overflowError "VPN packet sequence number exhausted")) self.sequenceNumber []
  /-- The cipher refuses the payload. -/
  | tooLarge : plain.payload.length > maxPayloadSize - aesGcmTagSize → aesCalls calls = [] →
      SendEnds P secret role packetsPerKey self plain failure calls
        (.error (.valueError "plaintext is too large for an encrypted UDP packet"))
        self.sequenceNumber (calls.map .crypto)
  /-- The packet was encrypted and the operating system refused it. -/
  | failed (e : PyError) : failure = some e → plain.HeaderInRange →
      plain.payload.length ≤ maxPayloadSize - aesGcmTagSize →
      aesCalls calls = [sealCall P secret self.sessionId role packetsPerKey plain] →
      SendEnds P secret role packetsPerKey self plain failure calls (.error e)
        self.sequenceNumber (calls.map .crypto)
  /-- The packet was encrypted and sent. -/
  | sent (data : Bytes) : failure = none → plain.HeaderInRange →
      plain.payload.length ≤ maxPayloadSize - aesGcmTagSize →
      aesCalls calls = [sealCall P secret self.sessionId role packetsPerKey plain] →
      (sealPacket P secret self.sessionId role packetsPerKey plain).encode = .ok data →
      SendEnds P secret role packetsPerKey self plain failure calls (.ok ())
        (self.sequenceNumber + 1) (calls.map .crypto ++ [.send plain data self.remoteAddress])

/-- A send makes calls into the cryptography package and at most one datagram. -/
theorem SendEnds.effects {self : TunnelEngine τ} {plain : Packet} {failure : Option PyError}
    {calls : List CryptoCall} {r : Except PyError Unit} {n : ℕ} {t : List (Effect τ)}
    (h : SendEnds P secret role packetsPerKey self plain failure calls r n t) {e : Effect τ}
    (he : e ∈ t) : (∃ call, e = .crypto call) ∨ ∃ data destination, e = .send plain data
      destination := by
  have hcalls : ∀ e ∈ calls.map (Effect.crypto : CryptoCall → Effect τ), ∃ call,
      e = .crypto call := by
    intro e he
    obtain ⟨call, -, rfl⟩ := List.mem_map.1 he
    exact ⟨call, rfl⟩
  cases h with
  | exhausted _ _ => cases he
  | tooLarge _ _ => exact Or.inl (hcalls e he)
  | failed _ _ _ _ _ => exact Or.inl (hcalls e he)
  | sent data _ _ _ _ _ =>
      rcases List.mem_append.1 he with he | he
      · exact Or.inl (hcalls e he)
      · exact Or.inr ⟨data, self.remoteAddress, List.mem_singleton.1 he⟩

/-- **`_send_packet`.** -/
theorem sendPacket_spec (hA : P.LawfulAead) (hH : P.LawfulHkdf) {log : List HkdfCall}
    {self : TunnelEngine τ} (h : self.Uses P log secret sessionId role packetsPerKey)
    (messageType : MessageType) (payload : Bytes) (failure : Option PyError) :
    wp (sendPacket P messageType payload failure) self (fun r self' t =>
      ∃ c n calls, self' = self.withCipher c n ∧
        c.DerivedFrom P (log ++ hkdfCalls calls) secret sessionId role packetsPerKey ∧
        (aesCalls calls ≠ [] → ∀ call ∈ keyDerivations P secret sessionId packetsPerKey
          self.sequenceNumber, call ∈ log ++ hkdfCalls calls) ∧
        SendEnds P secret role packetsPerKey self (self.nextPacket messageType payload)
          failure calls r n t) := by
  obtain ⟨⟨c, hc, hder⟩, rfl, hsid⟩ := h
  unfold sendPacket
  simp only [wp_read_bind]
  by_cases hmax : self.sequenceNumber > maxSequenceNumber
  · rw [if_pos hmax]
    simp only [wp_raise_bind]
    refine ⟨c, self.sequenceNumber, [], ?_, by simpa using hder, by simp,
      .exhausted hmax rfl⟩
    rw [TunnelEngine.withCipher, ← hc]
  rw [if_neg hmax]
  simp only [hc]
  have hp : (self.nextPacket messageType payload).HeaderInRange := by
    refine ⟨hsid, ?_⟩
    simp only [nextPacket, maxSequenceNumber] at hmax ⊢
    omega
  rw [wp_bind, onCipher, wp_zoom]
  refine wp_mono (encrypt_spec hH hder hp) ?_
  rintro r c' calls ⟨hder', hr⟩
  split at hr
  · rename_i hbig
    obtain ⟨rfl, haes⟩ := hr
    exact ⟨c', self.sequenceNumber, calls, rfl, hder', fun hne => absurd haes hne,
      .tooLarge hbig haes⟩
  rename_i hsmall
  obtain ⟨rfl, haes, hcalls⟩ := hr
  obtain ⟨data, hdata⟩ := encode_sealPacket hA secret self.sessionId role packetsPerKey hp
    (Nat.le_of_not_lt hsmall)
  change wp (transportSend _ (sealPacket P secret self.sessionId role packetsPerKey
    (self.nextPacket messageType payload)) _ _ >>= _) _ _
  rw [wp_bind, wp]
  cases failure with
  | some e =>
      rw [transportSend_failed hdata]
      refine ⟨c', self.sequenceNumber, calls, rfl, hder', fun _ => hcalls, ?_⟩
      rw [List.append_nil]
      exact .failed e rfl hp (Nat.le_of_not_lt hsmall) haes
  | none =>
      rw [transportSend_of_encode hdata]
      exact ⟨c', self.sequenceNumber + 1, calls, rfl, hder', fun _ => hcalls,
        .sent data rfl hp (Nat.le_of_not_lt hsmall) haes hdata⟩

/-! ## Receiving -/

/-- The decrypted packet when `_receive_udp_packet` accepts a datagram, without the
cipher's cache. -/
def opened (P : Primitives) (secret : Bytes) (role : EndpointRole) (packetsPerKey : ℕ)
    (self : TunnelEngine τ) (data : Bytes) (source : Address) : Option Packet :=
  match Packet.decode data with
  | .error _ => none
  | .ok packet =>
      if source = self.remoteAddress ∧ packet.sessionId = self.sessionId ∧
          (packet.messageType = .data ∨ packet.messageType = .keepalive) ∧
          self.replayWindow.isReplay packet.sequenceNumber = false then
        (openPayload P secret self.sessionId role.peer packetsPerKey packet).map
          fun plaintext => { packet with payload := plaintext }
      else none

/-- A datagram of the peer is accepted, unless its number is rejected. -/
theorem opened_of_sealPacket (hA : P.LawfulAead) {self : TunnelEngine τ}
    (hid : self.sessionId = sessionId) {plain : Packet} (hsession : plain.sessionId = sessionId)
    (htype : plain.messageType = .data ∨ plain.messageType = .keepalive) {data : Bytes}
    (hdata : (sealPacket P secret sessionId role.peer packetsPerKey plain).encode = .ok data) :
    self.opened P secret role packetsPerKey data self.remoteAddress
      = if self.replayWindow.isReplay plain.sequenceNumber = false then some plain else none := by
  have hopen : openPayload P secret sessionId role.peer packetsPerKey
      (sealPacket P secret sessionId role.peer packetsPerKey plain) = some plain.payload :=
    (openPayload_eq_some_iff hA).2 rfl
  rw [opened, Packet.decode_of_encode hdata]
  simp only
  by_cases hfresh : self.replayWindow.isReplay plain.sequenceNumber = false
  · rw [if_pos hfresh, if_pos ⟨trivial, hsession.trans hid.symm, htype, hfresh⟩, hid]
    exact congrArg (Option.map _) hopen
  · rw [if_neg hfresh]
    exact if_neg fun h => hfresh h.2.2.2

/-- The state after an accepted packet moved the replay window. -/
def authenticated (self : TunnelEngine τ) (window : ReplayWindow) (now : τ) : TunnelEngine τ :=
  { self with replayWindow := window, lastAuthenticatedReceive := now }

/-- Nothing changes when the cipher, the counter and the window are put back. -/
theorem withCipher_self {self : TunnelEngine τ} {c : Cipher} (hc : self.cipher = some c) :
    (self.withCipher c self.sequenceNumber).authenticated self.replayWindow
      self.lastAuthenticatedReceive = self := by
  rw [TunnelEngine.withCipher, ← hc, authenticated]

/-- The result of the end of `_receive_udp_packet` for an accepted packet. -/
def deliverResult (packet : Packet) (answer : Bytes → Except PyError ℕ) : Except PyError Bool :=
  if packet.messageType = .keepalive then .ok false
  else match answer packet.payload with
    | .error e => .error e
    | .ok written =>
        if written ≠ packet.payload.length then .error (.osError "incomplete TUN packet write")
        else .ok true

/-- The payload that the end of `_receive_udp_packet` writes for an accepted packet. -/
def deliverPayload (packet : Packet) : Option Bytes :=
  if packet.messageType = .keepalive then none else some packet.payload

/-- The write of an accepted packet. -/
def deliverEffects (packet : Packet) : List (Effect τ) :=
  (deliverPayload packet).toList.map .write

/-- A keepalive is dropped and another packet is written to the TUN device. -/
theorem deliver_spec (packet : Packet) (answer : Bytes → Except PyError ℕ)
    (self : TunnelEngine τ) :
    wp (deliver packet answer) self (fun r self' t =>
      r = deliverResult packet answer ∧ self' = self ∧ t = deliverEffects packet) := by
  unfold deliver deliverResult deliverEffects deliverPayload
  by_cases hk : packet.messageType = .keepalive
  · rw [if_pos hk, if_pos hk, if_pos hk]
    exact ⟨rfl, rfl, rfl⟩
  · rw [if_neg hk, if_neg hk, if_neg hk]
    simp only [wp_bind, tunWrite, wp_emit]
    cases answer packet.payload with
    | error e => exact ⟨rfl, rfl, rfl⟩
    | ok written =>
        by_cases hw : written ≠ packet.payload.length
        · simp only [ofExcept_ok, wp_pure, if_pos hw]
          exact ⟨rfl, rfl, rfl⟩
        · simp only [ofExcept_ok, wp_pure, if_neg hw]
          exact ⟨trivial, trivial, rfl⟩

/-- How `_receive_udp_packet` ends for a received datagram: its result, the replay window
and the time of the last authenticated receive afterwards, and its effects, where `calls`
are the calls of the cipher. -/
inductive ReceiveEnds (P : Primitives) (secret : Bytes) (role : EndpointRole)
    (packetsPerKey : ℕ) (self : TunnelEngine τ) (data : Bytes) (source : Address)
    (input : IterationInput τ) (calls : List CryptoCall) :
    Except PyError Bool → ReplayWindow → τ → List (Effect τ) → Prop
  /-- The datagram is dropped. -/
  | dropped : self.opened P secret role packetsPerKey data source = none →
      ReceiveEnds P secret role packetsPerKey self data source input calls (.ok false)
        self.replayWindow self.lastAuthenticatedReceive
        (.receive data source :: calls.map .crypto)
  /-- The packet is accepted. -/
  | accepted (packet : Packet) (window : ReplayWindow) :
      self.opened P secret role packetsPerKey data source = some packet →
      self.replayWindow.markAuthenticated packet.sequenceNumber = .ok window →
      ReceiveEnds P secret role packetsPerKey self data source input calls
        (deliverResult packet input.tunWrite) window input.receiveClock
        (.receive data source :: (calls.map .crypto ++ deliverEffects packet))

/-- A received datagram makes calls into the cryptography package and at most one write. -/
theorem ReceiveEnds.effects {self : TunnelEngine τ} {data : Bytes} {source : Address}
    {input : IterationInput τ} {calls : List CryptoCall} {r : Except PyError Bool}
    {window : ReplayWindow} {now : τ} {t : List (Effect τ)}
    (h : ReceiveEnds P secret role packetsPerKey self data source input calls r window now t)
    {e : Effect τ} (he : e ∈ t) :
    e = .receive data source ∨ (∃ call, e = .crypto call) ∨ ∃ payload, e = .write payload := by
  have hcalls : ∀ e ∈ calls.map (Effect.crypto : CryptoCall → Effect τ), ∃ call,
      e = .crypto call := by
    intro e he
    obtain ⟨call, -, rfl⟩ := List.mem_map.1 he
    exact ⟨call, rfl⟩
  cases h with
  | dropped _ =>
      rcases List.mem_cons.1 he with he | he
      · exact Or.inl he
      · exact Or.inr (Or.inl (hcalls e he))
  | accepted packet _ _ _ =>
      rcases List.mem_cons.1 he with he | he
      · exact Or.inl he
      · rcases List.mem_append.1 he with he | he
        · exact Or.inr (Or.inl (hcalls e he))
        · obtain ⟨payload, -, rfl⟩ := List.mem_map.1 he
          exact Or.inr (Or.inr ⟨payload, rfl⟩)

/-- A number that is no replay can be marked. -/
theorem markAuthenticated_of_not_isReplay {w : ReplayWindow} {n : ℤ}
    (h : w.isReplay n = false) : ∃ w', w.markAuthenticated n = .ok w' := by
  unfold ReplayWindow.markAuthenticated
  rw [h, if_neg (by simp)]
  split
  · exact ⟨_, rfl⟩
  · exact ⟨_, rfl⟩

/-- The replay check and the decryption. -/
theorem authenticate_spec (hH : P.LawfulHkdf) {log : List HkdfCall} {self : TunnelEngine τ}
    {c : Cipher} (hc : self.cipher = some c)
    (hder : c.DerivedFrom P log secret sessionId role packetsPerKey) {packet : Packet}
    (hp : packet.HeaderInRange) (hsize : packet.payload.length < 2 ^ 16) (now : τ) :
    wp (authenticate P c packet now) self (fun r self' t =>
      ∃ c' calls window now', self' = (self.withCipher c' self.sequenceNumber).authenticated
          window now' ∧
        c'.DerivedFrom P (log ++ hkdfCalls calls) secret sessionId role packetsPerKey ∧
        aesCalls calls = [] ∧ t = calls.map .crypto ∧
        ((r = .ok none ∧ window = self.replayWindow ∧ now' = self.lastAuthenticatedReceive ∧
            (self.replayWindow.isReplay packet.sequenceNumber = true ∨
              openPayload P secret sessionId role.peer packetsPerKey packet = none)) ∨
          ∃ plaintext, r = .ok (some { packet with payload := plaintext }) ∧
            self.replayWindow.isReplay packet.sequenceNumber = false ∧
            openPayload P secret sessionId role.peer packetsPerKey packet = some plaintext ∧
            self.replayWindow.markAuthenticated packet.sequenceNumber = .ok window ∧
            now' = now)) := by
  unfold authenticate
  rw [wp_read_bind]
  by_cases hreplay : self.replayWindow.isReplay packet.sequenceNumber = true
  · rw [if_pos hreplay]
    exact ⟨c, [], self.replayWindow, self.lastAuthenticatedReceive, (withCipher_self hc).symm,
      by simpa using hder, rfl, rfl, Or.inl ⟨rfl, rfl, rfl, Or.inl hreplay⟩⟩
  rw [if_neg hreplay, wp_bind, wp_attempt, onCipher, wp_zoom]
  have hfresh : self.replayWindow.isReplay packet.sequenceNumber = false := by
    simpa using hreplay
  refine wp_mono (decrypt_spec hH hder hp hsize) ?_
  rintro r c' calls ⟨hder', haes, rfl⟩
  cases hopen : openPayload P secret sessionId role.peer packetsPerKey packet with
  | none =>
      change wp (pure none) _ _
      refine ⟨c', calls, self.replayWindow, self.lastAuthenticatedReceive, rfl, hder', haes,
        List.append_nil _, Or.inl ⟨rfl, rfl, rfl, Or.inr rfl⟩⟩
  | some plaintext =>
      obtain ⟨window, hwindow⟩ := markAuthenticated_of_not_isReplay hfresh
      change wp (ofExcept (self.replayWindow.markAuthenticated packet.sequenceNumber) >>= _) _ _
      rw [hwindow]
      exact ⟨c', calls, window, now, rfl, hder', haes, List.append_nil _,
        Or.inr ⟨plaintext, rfl, hfresh, rfl, rfl, rfl⟩⟩

/-- The checks and the decryption of a decoded packet. -/
theorem acceptPacket_spec (hH : P.LawfulHkdf) {log : List HkdfCall} {self : TunnelEngine τ}
    (h : self.Uses P log secret sessionId role packetsPerKey) {data : Bytes}
    (hlen : data.length ≤ maxUdpDatagramSize) {packet : Packet}
    (hdecode : Packet.decode data = .ok packet) (source : Address) (input : IterationInput τ) :
    wp (acceptPacket P packet source input) self (fun r self' t =>
      ∃ c calls window now, self' = (self.withCipher c self.sequenceNumber).authenticated
          window now ∧
        c.DerivedFrom P (log ++ hkdfCalls calls) secret sessionId role packetsPerKey ∧
        aesCalls calls = [] ∧
        ReceiveEnds P secret role packetsPerKey self data source input calls r window now
          (.receive data source :: t)) := by
  obtain ⟨⟨c, hc, hder⟩, rfl, hsid⟩ := h
  have hencodable := Packet.encodable_of_decode hlen hdecode
  have hpayload := hencodable.length_payload_lt
  obtain ⟨hsession, hn, -⟩ := hencodable
  -- a packet that fails a check before the replay window changes nothing
  have hdrop : (¬ (source = self.remoteAddress ∧ packet.sessionId = self.sessionId ∧
      (packet.messageType = .data ∨ packet.messageType = .keepalive))) →
      ∃ c calls window now, self = (self.withCipher c self.sequenceNumber).authenticated
          window now ∧
        c.DerivedFrom P (log ++ hkdfCalls calls) secret self.sessionId role packetsPerKey ∧
        aesCalls calls = [] ∧
        ReceiveEnds P secret role packetsPerKey self data source input calls (.ok false) window
          now [.receive data source] := by
    intro hcheck
    refine ⟨c, [], self.replayWindow, self.lastAuthenticatedReceive, (withCipher_self hc).symm,
      by simpa using hder, rfl, .dropped ?_⟩
    rw [opened, hdecode]
    exact if_neg fun h => hcheck ⟨h.1, h.2.1, h.2.2.1⟩
  unfold acceptPacket
  rw [wp_read_bind]
  by_cases hsource : source = self.remoteAddress
  swap
  · rw [if_pos hsource]
    exact hdrop fun h => hsource h.1
  rw [if_neg (not_not.2 hsource)]
  by_cases hid : packet.sessionId = self.sessionId
  swap
  · rw [if_pos hid]
    exact hdrop fun h => hid h.2.1
  rw [if_neg (not_not.2 hid)]
  by_cases htype : packet.messageType = .data ∨ packet.messageType = .keepalive
  swap
  · rw [if_pos htype]
    exact hdrop fun h => htype h.2.2
  rw [if_neg (not_not.2 htype), hc]
  simp only
  rw [wp_bind]
  refine wp_mono (authenticate_spec hH hc hder ⟨hsession, hn⟩ hpayload input.receiveClock) ?_
  rintro r self' t ⟨c', calls, window, now', rfl, hder', haes, rfl, hr⟩
  rcases hr with ⟨rfl, rfl, rfl, hnone⟩ | ⟨plaintext, rfl, hfresh, hopen, hwindow, rfl⟩
  -- a replay or a wrong tag leaves the window as it was
  · change wp (pure false) _ _
    refine ⟨c', calls, _, _, rfl, hder', haes, ?_⟩
    rw [show (pure false : Program PyError (Effect τ) (TunnelEngine τ) Bool) = fun s =>
      ⟨.ok false, s, []⟩ from rfl, List.append_nil]
    refine .dropped ?_
    rw [opened, hdecode]
    simp only
    rcases hnone with hreplay | hopen
    · exact if_neg fun h => by simp [hreplay] at h
    · rw [hopen]
      exact ite_self none
  -- a genuine new packet is marked before it is delivered
  · refine wp_mono (deliver_spec _ _ _) ?_
    rintro r self'' t ⟨rfl, rfl, rfl⟩
    refine ⟨c', calls, _, _, rfl, hder', haes, .accepted _ _ ?_ hwindow⟩
    rw [opened, hdecode]
    simp only
    rw [if_pos ⟨hsource, hid, htype, hfresh⟩, hopen]
    rfl

/-- **`_receive_udp_packet`.** -/
theorem receiveUdpPacket_spec (hH : P.LawfulHkdf) {log : List HkdfCall} {self : TunnelEngine τ}
    (h : self.Uses P log secret sessionId role packetsPerKey) (datagram : Bytes)
    (source : Address) (input : IterationInput τ) :
    wp (receiveUdpPacket P (.ok (datagram, source)) input) self (fun r self' t =>
      ∃ c calls window now, self' = (self.withCipher c self.sequenceNumber).authenticated
          window now ∧
        c.DerivedFrom P (log ++ hkdfCalls calls) secret sessionId role packetsPerKey ∧
        aesCalls calls = [] ∧
        ReceiveEnds P secret role packetsPerKey self (datagram.take maxUdpDatagramSize) source
          input calls r window now t) := by
  unfold receiveUdpPacket
  rw [wp_bind, wp_attempt]
  refine wp_mono (transportReceive_spec datagram source self) ?_
  rintro r self' t ⟨rfl, rfl, rfl⟩
  have hlen : (datagram.take maxUdpDatagramSize).length ≤ maxUdpDatagramSize :=
    List.length_take_le _ _
  cases hdecode : Packet.decode (datagram.take maxUdpDatagramSize) with
  | error e =>
      obtain ⟨message, rfl⟩ := Packet.decode_error hdecode
      obtain ⟨c, hc, hder⟩ := h.cipher
      refine ⟨c, [], self'.replayWindow, self'.lastAuthenticatedReceive,
        (withCipher_self hc).symm, by simpa using hder, rfl, .dropped ?_⟩
      rw [opened, hdecode]
  | ok packet => exact acceptPacket_spec hH h hlen hdecode source input

/-- A receive call that the operating system fails leaves the engine alone. -/
theorem receiveUdpPacket_error (e : PyError) (input : IterationInput τ)
    (self : TunnelEngine τ) :
    wp (receiveUdpPacket P (.error e) input) self (fun _ self' t => self' = self ∧ t = []) := by
  unfold receiveUdpPacket
  rw [wp_bind, wp_attempt]
  cases e <;> exact ⟨rfl, rfl⟩

/-! ## Timers -/

section timers

variable [Sub τ] [LE τ] [DecidableLE τ]

/-- The liveness check after the keepalive. -/
def checkLiveness (now : τ) : Program PyError (Effect τ) (TunnelEngine τ) Unit := do
  let self ← read
  if self.livenessTimeout ≤ now - self.lastAuthenticatedReceive then
    raise (.timeoutError "VPN peer liveness timeout")

/-- The liveness check reads the engine and raises when the timeout is over. -/
theorem checkLiveness_spec (self : TunnelEngine τ) (now : τ) :
    wp (checkLiveness now) self fun r self' t => self' = self ∧ t = [] ∧
      r = if self.livenessTimeout ≤ now - self.lastAuthenticatedReceive
        then .error (.timeoutError "VPN peer liveness timeout") else .ok () := by
  unfold checkLiveness
  rw [wp_read_bind, wp_ite]
  constructor
  · intro hlate
    exact ⟨rfl, rfl, (if_pos hlate).symm⟩
  · intro hlate
    exact ⟨rfl, rfl, (if_neg hlate).symm⟩

variable [Zero τ] [Add τ] [DecidableEq τ]

/-- The timers: first the keepalive, then the liveness check. -/
theorem checkTimers_eq (P : Primitives) (input : IterationInput τ) :
    checkTimers P input = (do
      let self ← read
      if self.keepaliveInterval ≠ 0 then
        if self.nextKeepalive ≤ input.loopClock then
          sendPacket P .keepalive [] input.keepaliveSendFailure
          update fun self => { self with nextKeepalive := input.loopClock + self.keepaliveInterval }
          checkLiveness input.loopClock
        else checkLiveness input.loopClock) := rfl

end timers

/-! ## An iteration -/

section iteration

variable [Zero τ] [Add τ] [Sub τ] [LT τ] [LE τ] [DecidableEq τ] [DecidableLT τ]
  [DecidableLE τ]

omit [Sub τ] in
/-- A new engine, when the constructor returns. -/
theorem new_ok {remote : Address} {sessionId : ℕ} {cipher : Option Cipher}
    {keepalive liveness now : τ} {engine : TunnelEngine τ}
    (h : TunnelEngine.new remote sessionId cipher keepalive liveness now = .ok engine) :
    engine = ⟨remote, sessionId, 0, cipher, .default, keepalive, liveness, now,
      now + keepalive⟩ := by
  simp only [TunnelEngine.new, ite_error_eq_ok] at h
  obtain ⟨-, -, -, -, h⟩ := h
  rw [← Except.ok.inj h, Int.toNat_natCast]

/-- **The invariant rule of `run_once`.** An invariant that survives the `select` call,
the sends, the received datagram and the moves of the keepalive deadline survives an
iteration. -/
theorem runOnce_preserves {I J : TunnelEngine τ → List (Effect τ) → Prop}
    (hIJ : ∀ engine t, I engine t → J engine t) (input : IterationInput τ) (timeout : Option τ)
    (hselect : ∀ v, Preserves I J (emit (.select v) : Program PyError _ _ Unit))
    (htun : ∀ payload, input.tunRead = some (.ok payload) →
      Preserves I J (sendPacket P .data payload input.tunSendFailure))
    (hkeepalive : Preserves I J (sendPacket P .keepalive [] input.keepaliveSendFailure))
    (hreceive : ∀ arrival, input.udpReceive = some arrival →
      Preserves I J (receiveUdpPacket P arrival input))
    (htimer : ∀ f : TunnelEngine τ → τ,
      Preserves I J (update fun self => { self with nextKeepalive := f self } :
        Program PyError _ _ Unit)) :
    Preserves I J (runOnce P input timeout) := by
  unfold runOnce
  refine Preserves.bind Preserves.read fun self => Preserves.bind (hselect _) fun _ =>
    Preserves.bind ?_ fun fromTun => Preserves.bind ?_ fun fromUdp =>
    Preserves.bind ?_ fun _ => Preserves.pure _
  · unfold forwardFromTun
    cases hread : input.tunRead with
    | none => exact Preserves.pure 0
    | some packet =>
        refine Preserves.bind ?_ fun _ => Preserves.pure 1
        cases packet with
        | error e => exact Preserves.raise hIJ e
        | ok payload => exact htun payload hread
  · unfold forwardFromUdp
    cases hreceived : input.udpReceive with
    | none => exact Preserves.pure 0
    | some arrival =>
        exact Preserves.bind (hreceive arrival hreceived) fun _ => Preserves.pure _
  · have hdeadline : ∀ now : τ, Preserves I J (checkLiveness now) := fun now =>
      Preserves.bind Preserves.read fun self =>
        Preserves.ite _ (Preserves.raise hIJ _) (Preserves.pure _)
    rw [checkTimers_eq]
    refine Preserves.bind Preserves.read fun self => ?_
    split
    · split
      · exact Preserves.bind hkeepalive fun _ =>
          Preserves.bind (htimer _) fun _ => hdeadline _
      · exact hdeadline _
    · exact Preserves.pure _

end iteration

end TunnelEngine

end MatfVpn
