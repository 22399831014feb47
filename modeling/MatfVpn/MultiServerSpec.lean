/-
# What the multi-client server does

One specification for each part of `run_once`.  A hello is unknown, cached or fresh
(`ClientRegistry.reception`); the relations `PacketEnds`, `ArrivalEnds` and `StepEnds`
list everything an iteration can do with it.

* `accept_spec` : the registry answers a hello as its reception says;
* `runOnce_spec` : an iteration of a sound server ends as `StepEnds` says;
* `StepEnds.sound` : the server stays sound.
-/
import MatfVpn.HandshakeSpec
import MatfVpn.MultiClientSpec
import MatfVpn.MultiServer

namespace MatfVpn

open Program

/-! ## Receptions -/

/-- The key of a packet in the handshake cache. -/
def fingerprint (P : Primitives) (packet : Packet) : Bytes :=
  P.sha256 (packet.encode.toOption.getD [])

/-- The first identity, from position `i` on, for which `accept_client_hello` returns, with
the answer and the session secret. -/
def acceptedBy (P : Primitives) (packet : Packet) (serverPrivateKey : Bytes)
    (entropy : ℕ → ServerEntropy) :
    ℕ → List ClientIdentity → Option (ClientIdentity × Packet × Bytes)
  | _, [] => none
  | i, identity :: clients =>
      match acceptClientHello P packet serverPrivateKey identity.publicKey (entropy i) with
      | .ok (response, secret) => some (identity, response, secret)
      | .error _ => acceptedBy P packet serverPrivateKey entropy (i + 1) clients

/-- What a packet is to the registry. -/
inductive Reception where
  /-- No hello, or a hello that no identity has sent. -/
  | unknown
  /-- A hello with a recorded answer. -/
  | cached (accepted : AcceptedSession)
  /-- A hello that is accepted as new. -/
  | fresh (identity : ClientIdentity) (response : Packet) (secret : Bytes)

namespace ClientRegistry

variable {τ : Type} {P : Primitives}

/-- The reception of a packet. -/
def reception (P : Primitives) (registry : ClientRegistry) (packet : Packet)
    (entropy : ℕ → ServerEntropy) : Reception :=
  if packet.messageType ≠ .clientHello then .unknown
  else match registry.acceptedHellos.get? (fingerprint P packet) with
    | some accepted => .cached accepted
    | none =>
        match acceptedBy P packet registry.serverPrivateKey entropy 0 registry.clients with
        | some (identity, response, secret) => .fresh identity response secret
        | none => .unknown

/-- The session object of a fresh hello. -/
def newSession (packet : Packet) (source : Address) (identity : ClientIdentity)
    (cipher : Cipher) : ClientSession :=
  ⟨source, identity.tunnelAddress, packet.sessionId, cipher, 0, .default⟩

/-- The registry after a fresh hello was recorded. -/
def recorded (P : Primitives) (registry : ClientRegistry) (packet : Packet)
    (accepted : AcceptedSession) : ClientRegistry :=
  { registry with acceptedHellos :=
      LruCache.store handshakeCacheSize registry.acceptedHellos (fingerprint P packet) accepted }

/-- The registry after a cached hello was presented again. -/
def presented (P : Primitives) (registry : ClientRegistry) (packet : Packet) : ClientRegistry :=
  { registry with
    acceptedHellos := LruCache.touch registry.acceptedHellos (fingerprint P packet) }

/-- How `accept` ends: its result, the registry afterwards and its effects, where `calls`
are the calls of `create_cipher`. -/
inductive AcceptEnds (P : Primitives) (registry : ClientRegistry) (packet : Packet)
    (source : Address) (entropy : ℕ → ServerEntropy) :
    Except PyError (Option AcceptedSession) → ClientRegistry →
      List (ServerEffect τ Acceptance) → Prop
  | unknown : registry.reception P packet entropy = .unknown →
      AcceptEnds P registry packet source entropy (.ok none) registry []
  | cached (accepted : AcceptedSession) :
      registry.reception P packet entropy = .cached accepted →
      AcceptEnds P registry packet source entropy (.ok (some { accepted with isNew := false }))
        (registry.presented P packet)
        [.note ⟨packet, source, accepted.response, accepted.identity, none⟩]
  | fresh (identity : ClientIdentity) (response : Packet) (secret : Bytes) (cipher : Cipher)
      (calls : List CryptoCall) (accepted : AcceptedSession) :
      registry.reception P packet entropy = .fresh identity response secret →
      (∃ log, cipher.DerivedFrom P log secret packet.sessionId .server registry.packetsPerKey) →
      accepted = ⟨response, newSession packet source identity cipher, identity, true⟩ →
      AcceptEnds P registry packet source entropy (.ok (some accepted))
        (registry.recorded P packet accepted)
        (calls.map (fun call => .effect (.crypto call)) ++
          [.note ⟨packet, source, response, identity, some secret⟩])

/-- The identity that a hello is accepted for. -/
theorem acceptedBy_eq_some {packet response : Packet} {serverPrivateKey secret : Bytes}
    {entropy : ℕ → ServerEntropy} {identity : ClientIdentity} {clients : List ClientIdentity}
    {i : ℕ}
    (h : acceptedBy P packet serverPrivateKey entropy i clients
      = some (identity, response, secret)) :
    identity ∈ clients ∧ ∃ e, acceptClientHello P packet serverPrivateKey identity.publicKey e
      = .ok (response, secret) := by
  induction clients generalizing i with
  | nil => cases h
  | cons identity' clients ih =>
      rw [acceptedBy] at h
      split at h
      · rename_i response' secret' haccept
        obtain ⟨rfl, hrest⟩ := Prod.mk.inj (Option.some.inj h)
        obtain ⟨rfl, rfl⟩ := Prod.mk.inj hrest
        exact ⟨List.mem_cons_self, _, haccept⟩
      · obtain ⟨hmem, he⟩ := ih h
        exact ⟨List.mem_cons_of_mem _ hmem, he⟩

/-- A fresh hello is not in the cache, and its identity accepts it. -/
theorem reception_eq_fresh {registry : ClientRegistry} {packet response : Packet}
    {entropy : ℕ → ServerEntropy} {identity : ClientIdentity} {secret : Bytes}
    (h : registry.reception P packet entropy = .fresh identity response secret) :
    packet.messageType = .clientHello ∧
      registry.acceptedHellos.get? (fingerprint P packet) = none ∧ identity ∈ registry.clients ∧
      ∃ e, acceptClientHello P packet registry.serverPrivateKey identity.publicKey e
        = .ok (response, secret) := by
  unfold reception at h
  split at h
  · cases h
  rename_i htype
  split at h
  · cases h
  rename_i hnone
  split at h
  · rename_i identity' response' secret' haccepted
    obtain ⟨rfl, rfl, rfl⟩ := Reception.fresh.inj h
    obtain ⟨hmem, he⟩ := acceptedBy_eq_some haccepted
    exact ⟨not_not.1 htype, hnone, hmem, he⟩
  · cases h

/-- A cached hello has its answer in the cache. -/
theorem reception_eq_cached {registry : ClientRegistry} {packet : Packet}
    {entropy : ℕ → ServerEntropy} {accepted : AcceptedSession} :
    registry.reception P packet entropy = .cached accepted ↔
      packet.messageType = .clientHello ∧
        registry.acceptedHellos.get? (fingerprint P packet) = some accepted := by
  unfold reception
  by_cases htype : packet.messageType = .clientHello
  swap
  · rw [if_pos htype]
    exact ⟨nofun, fun h => absurd h.1 htype⟩
  rw [if_neg (not_not.2 htype)]
  cases hget : registry.acceptedHellos.get? (fingerprint P packet) with
  | some accepted' => simp [htype]
  | none =>
      simp only [reduceCtorEq, and_false, iff_false]
      split
      · exact nofun
      · exact nofun

/-- The loop over the identities stops at the first that accepts the hello. -/
theorem acceptFrom_spec (hH : P.LawfulHkdf) {packet : Packet} (hp : packet.Encodable)
    (source : Address) (entropy : ℕ → ServerEntropy) (registry : ClientRegistry)
    (clients : List ClientIdentity) (i : ℕ) :
    wp (acceptFrom P packet source (fingerprint P packet) entropy i clients :
        Program PyError (ServerEffect τ Acceptance) _ _) registry (fun r registry' t =>
      match acceptedBy P packet registry.serverPrivateKey entropy i clients with
      | none => r = .ok none ∧ registry' = registry ∧ t = []
      | some (identity, response, secret) => ∃ (cipher : Cipher) (calls : List CryptoCall)
            (accepted : AcceptedSession),
          (∃ log, cipher.DerivedFrom P log secret packet.sessionId .server
            registry.packetsPerKey) ∧
          accepted = ⟨response, newSession packet source identity cipher, identity, true⟩ ∧
          r = .ok (some accepted) ∧ registry' = registry.recorded P packet accepted ∧
          t = calls.map (fun call => .effect (.crypto call)) ++
            [.note ⟨packet, source, response, identity, some secret⟩]) := by
  induction clients generalizing i with
  | nil => exact ⟨rfl, rfl, rfl⟩
  | cons identity clients ih =>
      rw [acceptFrom, acceptedBy, wp_read_bind]
      cases haccept : acceptClientHello P packet registry.serverPrivateKey identity.publicKey
          (entropy i) with
      | error e =>
          simp only
          rw [if_pos (acceptClientHello_error hp.1 haccept)]
          exact ih (i + 1)
      | ok answer =>
          obtain ⟨response, secret⟩ := answer
          obtain ⟨-, -, -, hs, _, _, -, -, -, -, hsecret⟩ := acceptClientHello_ok haccept
          have hlen := length_of_deriveSessionSecret hH hsecret
          simp only
          rw [wp_bind, wp_lift]
          refine wp_mono (createCipher_spec hH (by omega) hs .server registry.packetsPerKey _) ?_
          rintro r registry' calls ⟨rfl, -, cipher, rfl, hder⟩
          simp only
          rw [wp_update_bind, wp_emit_bind, wp_pure]
          exact ⟨cipher, calls, _, ⟨_, hder⟩, rfl, rfl, rfl, rfl⟩

/-- **`accept` answers a hello as its reception says.** -/
theorem accept_spec (hH : P.LawfulHkdf) {packet : Packet} (hp : packet.Encodable)
    (source : Address) (entropy : ℕ → ServerEntropy) (registry : ClientRegistry) :
    wp (accept P packet source entropy : Program PyError (ServerEffect τ Acceptance) _ _) registry
      (AcceptEnds P registry packet source entropy) := by
  unfold accept
  by_cases htype : packet.messageType = .clientHello
  swap
  · rw [if_pos htype]
    exact .unknown (by rw [reception, if_pos htype])
  obtain ⟨data, hdata⟩ := Packet.encode_of_encodable hp
  have hfingerprint : P.sha256 data = fingerprint P packet := by
    rw [fingerprint, hdata]
    rfl
  rw [if_neg (not_not.2 htype), hdata, ofExcept_ok, wp_pure_bind, hfingerprint, wp_read_bind]
  cases hget : registry.acceptedHellos.get? (fingerprint P packet) with
  | some accepted =>
      simp only
      rw [wp_update_bind, wp_emit_bind, wp_pure]
      exact .cached accepted (reception_eq_cached.2 ⟨htype, hget⟩)
  | none =>
      simp only
      refine wp_mono (acceptFrom_spec hH hp source entropy registry registry.clients 0) ?_
      intro r registry' t h
      cases haccepted : acceptedBy P packet registry.serverPrivateKey entropy 0
          registry.clients with
      | none =>
          rw [haccepted] at h
          obtain ⟨rfl, rfl, rfl⟩ := h
          exact .unknown (by rw [reception, if_neg (not_not.2 htype), hget, haccepted])
      | some answer =>
          obtain ⟨identity, response, secret⟩ := answer
          rw [haccepted] at h
          obtain ⟨cipher, calls, accepted, hder, haccepted', rfl, rfl, rfl⟩ := h
          refine .fresh identity response secret cipher calls accepted ?_ hder haccepted'
          rw [reception, if_neg (not_not.2 htype), hget, haccepted]

/-- A cached hello is answered from the cache and not new. -/
theorem accept_of_cached (hH : P.LawfulHkdf) {packet : Packet} (hp : packet.Encodable)
    {source : Address} {entropy : ℕ → ServerEntropy} {registry : ClientRegistry}
    {accepted : AcceptedSession}
    (hreception : registry.reception P packet entropy = .cached accepted) :
    (accept P packet source entropy registry :
        Outcome PyError (ServerEffect τ Acceptance) _ _)
      = ⟨.ok (some { accepted with isNew := false }), registry.presented P packet,
        [.note ⟨packet, source, accepted.response, accepted.identity, none⟩]⟩ := by
  have hends := accept_spec hH hp source entropy registry (τ := τ)
  rw [wp] at hends
  generalize (accept P packet source entropy registry :
    Outcome PyError (ServerEffect τ Acceptance) _ _) = outcome at hends ⊢
  rcases outcome with ⟨r, registry', t⟩
  cases hends with
  | unknown hunknown => simp [hreception] at hunknown
  | cached accepted' hcached =>
      rw [hreception] at hcached
      obtain rfl := Reception.cached.inj hcached
      rfl
  | fresh _ _ _ _ _ _ hfresh _ _ => simp [hreception] at hfresh

end ClientRegistry

/-! ## Sound servers -/

/-- The session secret of an acceptance as new. -/
def Acceptance.sessionSecret (a : Acceptance) : Bytes := a.secret.getD []

/-- The session secret of a session object, for the acceptances that the objects come
from. -/
def secretOf (origins : List Acceptance) (ref : ℕ) : Bytes :=
  (origins[ref]?.map Acceptance.sessionSecret).getD []

namespace MultiClientServer

variable {τ : Type} {P : Primitives}

/-- The session object belongs to this acceptance. -/
def ComesFrom (s : ClientSession) (a : Acceptance) : Prop :=
  s.remoteAddress = a.source ∧ s.tunnelAddress = a.identity.tunnelAddress ∧
    s.sessionId = a.hello.sessionId

/-- The invariant of the server's data, for the acceptances that the session objects come
from. -/
structure Sound (P : Primitives) (origins : List Acceptance) (server : MultiClientServer) :
    Prop where
  wellFormed : server.engine.WellFormed
  length_objects : server.engine.objects.length = origins.length
  comesFrom : ∀ ref s a, server.engine.session? ref = some s → origins[ref]? = some a →
    ComesFrom s a
  ciphers : server.engine.Ciphers P server.registry.packetsPerKey (secretOf origins)
  responses : ∀ key accepted, server.registry.acceptedHellos.get? key = some accepted →
    accepted.response.Encodable

/-- A new server is sound. -/
theorem sound_new {registry : ClientRegistry} (h : registry.acceptedHellos = .empty) :
    (new registry).Sound P [] where
  wellFormed := MultiClientServerEngine.wellFormed_new
  length_objects := rfl
  comesFrom ref s a hs := by simp [new, MultiClientServerEngine.new,
    MultiClientServerEngine.session?] at hs
  ciphers ref s hs := by simp [new, MultiClientServerEngine.new,
    MultiClientServerEngine.session?] at hs
  responses key accepted hget := by simp [new, h] at hget

/-! ## An iteration -/

/-- `int(forwarded)`. -/
def count (forwarded : Bool) : ℕ := if forwarded then 1 else 0

/-- How the TUN half of `run_once` ends. -/
inductive TunHalf (P : Primitives) (origins : List Acceptance) (input : ServerInput)
    (self : MultiClientServer) : Except PyError ℕ → MultiClientServerEngine →
      List (ServerEffect τ Acceptance) → Prop
  /-- `select` does not report the TUN device. -/
  | idle : input.tunRead = none → TunHalf P origins input self (.ok 0) self.engine []
  /-- Reading the TUN device fails. -/
  | failed (e : PyError) : input.tunRead = some (.error e) →
      TunHalf P origins input self (.error e) self.engine []
  /-- A packet was read. -/
  | handled (payload : Bytes) (r : Except PyError Bool) (engine : MultiClientServerEngine)
      (t : List (ServerEffect τ Acceptance)) : input.tunRead = some (.ok payload) →
      MultiClientServerEngine.TunEnds P self.registry.packetsPerKey (secretOf origins)
        self.engine payload input.tunSendFailure r engine t →
      TunHalf P origins input self (r.map count) engine t

/-- How `run_once` ends with a decoded packet. -/
inductive PacketEnds (P : Primitives) (origins : List Acceptance) (input : ServerInput)
    (self : MultiClientServer) (packet : Packet) (source : Address) :
    Except PyError ℕ → MultiClientServer → List (ServerEffect τ Acceptance) → Prop
  /-- The data plane gets the packet. -/
  | forwarded (r : Except PyError Bool) (engine : MultiClientServerEngine)
      (t : List (ServerEffect τ Acceptance)) :
      self.registry.reception P packet input.entropy = .unknown →
      MultiClientServerEngine.UdpEnds P self.registry.packetsPerKey (secretOf origins)
        self.engine packet source input.tunWrite r engine t →
      PacketEnds P origins input self packet source (r.map count) ⟨self.registry, engine⟩ t
  /-- A cached hello: the operating system refuses the answer. -/
  | notResent (accepted : AcceptedSession) (e : PyError) :
      self.registry.reception P packet input.entropy = .cached accepted →
      input.helloSendFailure = some e →
      PacketEnds P origins input self packet source (.error e)
        ⟨self.registry.presented P packet, self.engine⟩
        [.note ⟨packet, source, accepted.response, accepted.identity, none⟩]
  /-- A cached hello: the recorded answer is sent again. -/
  | resent (accepted : AcceptedSession) (data : Bytes) :
      self.registry.reception P packet input.entropy = .cached accepted →
      input.helloSendFailure = none → accepted.response.encode = .ok data →
      PacketEnds P origins input self packet source (.ok 0)
        ⟨self.registry.presented P packet, self.engine⟩
        [.note ⟨packet, source, accepted.response, accepted.identity, none⟩,
          .effect (.send accepted.response data source)]
  /-- A fresh hello: the operating system refuses the answer. -/
  | notAnswered (identity : ClientIdentity) (response : Packet) (secret : Bytes)
      (cipher : Cipher) (calls : List CryptoCall) (e : PyError) :
      self.registry.reception P packet input.entropy = .fresh identity response secret →
      input.helloSendFailure = some e →
      PacketEnds P origins input self packet source (.error e)
        ⟨self.registry.recorded P packet ⟨response,
          ClientRegistry.newSession packet source identity cipher, identity, true⟩, self.engine⟩
        (calls.map (fun call => .effect (.crypto call)) ++
          [.note ⟨packet, source, response, identity, some secret⟩])
  /-- A fresh hello is answered, and its session replaces the one of the client. -/
  | answered (identity : ClientIdentity) (response : Packet) (secret : Bytes)
      (cipher : Cipher) (calls : List CryptoCall) (data : Bytes) (r : Except PyError Unit)
      (engine : MultiClientServerEngine) :
      self.registry.reception P packet input.entropy = .fresh identity response secret →
      input.helloSendFailure = none → response.encode = .ok data →
      (∃ log, cipher.DerivedFrom P log secret packet.sessionId .server
        self.registry.packetsPerKey) →
      MultiClientServerEngine.ReplaceEnds self.engine
        (ClientRegistry.newSession packet source identity cipher) r engine →
      PacketEnds P origins input self packet source (r.map fun _ => 0)
        ⟨self.registry.recorded P packet ⟨response,
          ClientRegistry.newSession packet source identity cipher, identity, true⟩, engine⟩
        (calls.map (fun call => .effect (.crypto call)) ++
          [.note ⟨packet, source, response, identity, some secret⟩,
            .effect (.send response data source)])

/-- How the UDP half of `run_once` ends. -/
inductive UdpHalf (P : Primitives) (origins : List Acceptance) (input : ServerInput)
    (self : MultiClientServer) :
    Except PyError ℕ → MultiClientServer → List (ServerEffect τ Acceptance) → Prop
  /-- `select` does not report the socket. -/
  | idle : input.udpReceive = none → UdpHalf P origins input self (.ok 0) self []
  /-- Reading the socket fails. -/
  | failed (e : PyError) (r : Except PyError ℕ) : input.udpReceive = some (.error e) →
      UdpHalf P origins input self r self []
  /-- The datagram is no packet. -/
  | malformed (datagram : Bytes) (source : Address) (message : String) :
      input.udpReceive = some (.ok (datagram, source)) →
      Packet.decode (datagram.take maxUdpDatagramSize)
        = .error (.invalidPacketError message) →
      UdpHalf P origins input self (.ok 0) self
        [.effect (.receive (datagram.take maxUdpDatagramSize) source)]
  /-- A packet was received. -/
  | received (datagram : Bytes) (source : Address) (packet : Packet) (r : Except PyError ℕ)
      (self' : MultiClientServer) (t : List (ServerEffect τ Acceptance)) :
      input.udpReceive = some (.ok (datagram, source)) →
      Packet.decode (datagram.take maxUdpDatagramSize) = .ok packet →
      PacketEnds P origins input self packet source r self' t →
      UdpHalf P origins input self r self'
        (.effect (.receive (datagram.take maxUdpDatagramSize) source) :: t)

/-- How `run_once` ends. -/
inductive StepEnds (P : Primitives) (origins : List Acceptance) (input : ServerInput)
    (timeout : Option τ) (self : MultiClientServer) :
    Except PyError ℕ → MultiClientServer → List (ServerEffect τ Acceptance) → Prop
  /-- The TUN half raises. -/
  | raised (e : PyError) (engine : MultiClientServerEngine)
      (t : List (ServerEffect τ Acceptance)) :
      TunHalf P origins input self (.error e) engine t →
      StepEnds P origins input timeout self (.error e) ⟨self.registry, engine⟩
        (.effect (.select timeout) :: t)
  /-- Both halves run. -/
  | ran (n : ℕ) (engine : MultiClientServerEngine) (t : List (ServerEffect τ Acceptance))
      (r : Except PyError ℕ) (self' : MultiClientServer)
      (t' : List (ServerEffect τ Acceptance)) :
      TunHalf P origins input self (.ok n) engine t →
      UdpHalf P origins input ⟨self.registry, engine⟩ r self' t' →
      StepEnds P origins input timeout self (r.map (n + ·)) self'
        (.effect (.select timeout) :: (t ++ t'))

/-! ## The specifications -/

/-- Packets of the same sessions leave a sound server. -/
theorem Sound.of_sameSessions {origins : List Acceptance} {self : MultiClientServer}
    (h : self.Sound P origins) {engine : MultiClientServerEngine}
    (hsame : self.engine.SameSessions engine)
    (hciphers : engine.Ciphers P self.registry.packetsPerKey (secretOf origins)) :
    Sound P origins ⟨self.registry, engine⟩ where
  wellFormed := h.wellFormed.of_sameSessions hsame
  length_objects := hsame.length_objects.trans h.length_objects
  comesFrom ref s' a hs' ha := by
    obtain ⟨s, hs, hkey, haddress⟩ := hsame.object ref s' hs'
    obtain ⟨hsource, haddress', hid⟩ := h.comesFrom ref s a hs ha
    obtain ⟨hremote, hsession⟩ := Prod.mk.inj hkey
    exact ⟨hremote.trans hsource, haddress.trans haddress', hsession.trans hid⟩
  ciphers := hciphers
  responses := h.responses

/-- The TUN half leaves a sound server. -/
theorem TunHalf.sound {origins : List Acceptance} {input : ServerInput}
    {self : MultiClientServer} {r : Except PyError ℕ} {engine : MultiClientServerEngine}
    {t : List (ServerEffect τ Acceptance)} (h : TunHalf P origins input self r engine t)
    (hsound : self.Sound P origins) :
    self.engine.SameSessions engine ∧ Sound P origins ⟨self.registry, engine⟩ := by
  cases h with
  | idle _ => exact ⟨.refl _, hsound⟩
  | failed _ _ => exact ⟨.refl _, hsound⟩
  | handled payload r _ _ _ hends =>
      exact ⟨hends.sameSessions,
        hsound.of_sameSessions hends.sameSessions (hends.ciphers hsound.ciphers)⟩

section specifications

variable (hA : P.LawfulAead) (hH : P.LawfulHkdf) (hM : P.LawfulHmac) (hX : P.LawfulX25519)
include hH

include hA in
/-- The TUN half of `run_once`. -/
theorem forwardFromTun_spec {origins : List Acceptance} {self : MultiClientServer}
    (hsound : self.Sound P origins) (input : ServerInput) :
    wp (forwardFromTun P input : Program PyError (ServerEffect τ Acceptance) _ ℕ) self
      (fun r self' t => ∃ engine, self' = ⟨self.registry, engine⟩ ∧
        TunHalf P origins input self r engine t) := by
  unfold forwardFromTun
  cases hread : input.tunRead with
  | none => exact ⟨self.engine, rfl, .idle hread⟩
  | some packet =>
      cases packet with
      | error e => exact ⟨self.engine, rfl, .failed e hread⟩
      | ok payload =>
          simp only [ofExcept_ok]
          rw [wp_pure_bind, wp_bind_pure, onEngine, wp_zoom]
          refine wp_mono (MultiClientServerEngine.handleTunPacket_spec hA hH hsound.wellFormed
            hsound.ciphers payload input.tunSendFailure) ?_
          intro r engine t hends
          rw [List.map_id]
          exact ⟨engine, rfl, .handled payload r engine t hread hends⟩

include hM hX

/-- What `run_once` does with a decoded packet. -/
theorem handlePacket_spec {origins : List Acceptance} {self : MultiClientServer}
    (hsound : self.Sound P origins) {packet : Packet} (hp : packet.Encodable) (source : Address)
    (input : ServerInput) :
    wp (handlePacket P packet source input : Program PyError (ServerEffect τ Acceptance) _ ℕ)
      self (PacketEnds P origins input self packet source) := by
  have hsize := hp.length_payload_lt
  unfold handlePacket
  rw [wp_bind, onRegistry, wp_zoom]
  refine wp_mono (ClientRegistry.accept_spec hH hp source input.entropy self.registry) ?_
  intro r registry t hends
  rw [List.map_id]
  cases hends with
  | unknown hreception =>
      -- no hello of a configured client: the packet goes to the engine
      simp only
      rw [wp_bind_pure, onEngine, wp_zoom]
      refine wp_mono (MultiClientServerEngine.handleUdpPacket_spec hH hsound.wellFormed
        hsound.ciphers ⟨hp.1, hp.2.1⟩ hsize source input.tunWrite) ?_
      intro r engine t hends
      rw [List.map_id]
      exact .forwarded r engine t hreception hends
  | cached accepted hreception =>
      -- a repeated hello gets the response of the first one, and no session changes
      have hencodable := hsound.responses _ _ (ClientRegistry.reception_eq_cached.1 hreception).2
      obtain ⟨data, hdata⟩ := Packet.encode_of_encodable hencodable
      change wp (lift _ (transportSend accepted.response accepted.response source _) >>= _) _ _
      rw [wp_bind, wp_lift, wp]
      cases hfailure : input.helloSendFailure with
      | some e =>
          rw [transportSend_failed hdata]
          exact .notResent accepted e hreception hfailure
      | none =>
          rw [transportSend_of_encode hdata]
          exact .resent accepted data hreception hfailure hdata
  | fresh identity response secret cipher calls accepted hreception hder haccepted =>
      -- the response is sent before the session is replaced, so a failed send keeps the old one
      obtain ⟨-, -, -, e, haccept⟩ := ClientRegistry.reception_eq_fresh hreception
      obtain ⟨data, hdata⟩ := Packet.encode_of_encodable
        (encodable_of_acceptClientHello hM hX haccept)
      subst haccepted
      change wp (lift _ (transportSend response response source _) >>= _) _ _
      rw [wp_bind, wp_lift, wp]
      cases hfailure : input.helloSendFailure with
      | some e =>
          rw [transportSend_failed hdata, List.map_nil, List.append_nil]
          exact .notAnswered identity response secret cipher calls e hreception hfailure
      | none =>
          rw [transportSend_of_encode hdata]
          change wp (onEngine _ >>= fun _ => pure 0) _ _
          rw [wp_bind_pure, onEngine, wp_zoom]
          refine wp_mono (MultiClientServerEngine.replaceSession_spec hsound.wellFormed _) ?_
          rintro r engine t ⟨hreplace, rfl⟩
          rw [List.map_id, List.append_nil, List.append_assoc]
          exact .answered identity response secret cipher calls data r engine hreception hfailure
            hdata hder hreplace

/-- The UDP half of `run_once`. -/
theorem forwardFromUdp_spec {origins : List Acceptance} {self : MultiClientServer}
    (hsound : self.Sound P origins) (input : ServerInput) :
    wp (forwardFromUdp P input : Program PyError (ServerEffect τ Acceptance) _ ℕ) self
      (UdpHalf P origins input self) := by
  unfold forwardFromUdp
  cases hreceive : input.udpReceive with
  | none => exact .idle hreceive
  | some arrival =>
      simp only
      rw [wp_bind, wp_attempt, wp_lift]
      rcases arrival with e | ⟨datagram, source⟩
      · cases e <;> exact .failed _ _ hreceive
      refine wp_mono (transportReceive_spec datagram source self) ?_
      rintro r self' t ⟨rfl, rfl, rfl⟩
      have hlen : (datagram.take maxUdpDatagramSize).length ≤ maxUdpDatagramSize :=
        List.length_take_le _ _
      cases hdecode : Packet.decode (datagram.take maxUdpDatagramSize) with
      | error e =>
          obtain ⟨message, rfl⟩ := Packet.decode_error hdecode
          exact .malformed datagram source message hreceive hdecode
      | ok packet =>
          refine wp_mono (handlePacket_spec hH hM hX hsound
            (Packet.encodable_of_decode hlen hdecode) source input) ?_
          intro r self'' t hends
          exact .received datagram source packet r self'' t hreceive hdecode hends

include hA in
/-- **`run_once`.** -/
theorem runOnce_spec {origins : List Acceptance} {self : MultiClientServer}
    (hsound : self.Sound P origins) (input : ServerInput) (timeout : Option τ) :
    wp (runOnce P input timeout) self (StepEnds P origins input timeout self) := by
  unfold runOnce
  rw [wp_emit_bind, wp_bind]
  refine wp_mono (forwardFromTun_spec hA hH hsound input) ?_
  rintro r self' t ⟨engine, rfl, hhalf⟩
  cases r with
  | error e => exact .raised e engine t hhalf
  | ok n =>
      simp only
      rw [wp_bind_pure]
      refine wp_mono (forwardFromUdp_spec hH hM hX (hhalf.sound hsound).2 input) ?_
      intro r self' t' hudp
      exact .ran n engine t r self' t' hhalf hudp

include hA in
/-- An iteration whose TUN half returns goes on with the UDP half. -/
theorem runOnce_of_forwardFromTun {origins : List Acceptance} {self self₁ : MultiClientServer}
    (hsound : self.Sound P origins) {input : ServerInput} {n : ℕ}
    {t₁ : List (ServerEffect τ Acceptance)}
    (htun : forwardFromTun P input self = ⟨.ok n, self₁, t₁⟩) (timeout : Option τ) :
    (∃ engine, self₁ = ⟨self.registry, engine⟩ ∧ TunHalf P origins input self (.ok n) engine t₁) ∧
      ∃ r self' t₂, UdpHalf P origins input self₁ r self' t₂ ∧
        runOnce P input timeout self
          = ⟨r.map (n + ·), self', .effect (.select timeout) :: (t₁ ++ t₂)⟩ := by
  have hhalf := forwardFromTun_spec hA hH hsound input (τ := τ)
  rw [wp, htun] at hhalf
  obtain ⟨engine, rfl, hhalf⟩ := hhalf
  refine ⟨⟨engine, rfl, hhalf⟩, ?_⟩
  have hudp := forwardFromUdp_spec hH hM hX (hhalf.sound hsound).2 input (τ := τ)
  refine ⟨_, _, _, hudp, ?_⟩
  have hrun : wp (runOnce P input timeout) self (fun r self' t =>
      r = (forwardFromUdp P input ⟨self.registry, engine⟩ : Outcome PyError
        (ServerEffect τ Acceptance) _ ℕ).result.map (n + ·) ∧
      self' = (forwardFromUdp P input ⟨self.registry, engine⟩ : Outcome PyError
        (ServerEffect τ Acceptance) _ ℕ).state ∧
      t = .effect (.select timeout) :: (t₁ ++ (forwardFromUdp P input
        ⟨self.registry, engine⟩ : Outcome PyError (ServerEffect τ Acceptance) _ ℕ).trace)) := by
    unfold runOnce
    rw [wp_emit_bind, wp_bind, wp, htun]
    simp only
    rw [wp_bind_pure]
    exact ⟨rfl, rfl, rfl⟩
  obtain ⟨hresult, hstate, htrace⟩ := hrun
  rw [← hresult, ← hstate, ← htrace]

end specifications

end MultiClientServer

end MatfVpn
