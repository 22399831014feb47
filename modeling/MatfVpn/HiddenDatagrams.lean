/-
# Datagrams that leave no mark

Datagrams that cannot be decoded, are not expected or fail authentication may be deleted
from what an endpoint receives, and neither what it sends and writes nor its tables,
counters and windows change.  The caches of the rotating ciphers do change, but no later
result depends on them.

* `TunnelEngine.runOnce_like` : an iteration does not depend on the cache;
* `TunnelEngine.steps_like` : nor does a run notice the datagrams that are deleted.
-/
import MatfVpn.EngineSpec
import MatfVpn.Lib.TwoRuns

namespace MatfVpn

open Program

/-! ## What can be seen -/

/-- The effect leaves the endpoint. -/
def Effect.isVisible {τ : Type} : Effect τ → Bool
  | send .. | write _ => true
  | _ => false

section visible

variable {τ : Type}

/-- The datagrams that were sent can be seen. -/
theorem sends_filter (t : List (Effect τ)) : sends (t.filter Effect.isVisible) = sends t := by
  rw [sends, List.filterMap_filter]
  apply List.filterMap_congr
  intro e _
  cases e <;> rfl

/-- The payloads that were written can be seen. -/
theorem writes_filter (t : List (Effect τ)) : writes (t.filter Effect.isVisible) = writes t := by
  rw [writes, List.filterMap_filter]
  apply List.filterMap_congr
  intro e _
  cases e <;> rfl

/-- Calls into the cryptography package cannot be seen. -/
theorem filter_isVisible_crypto (calls : List CryptoCall) :
    (calls.map (Effect.crypto : CryptoCall → Effect τ)).filter Effect.isVisible = [] := by
  rw [List.filter_eq_nil_iff]
  intro e he
  obtain ⟨call, -, rfl⟩ := List.mem_map.1 he
  simp [Effect.isVisible]

end visible

/-! ## Ciphers with the same keys -/

section ciphers

variable {P : Primitives} {secret : Bytes} {sessionId packetsPerKey : ℕ} {role : EndpointRole}
  {log log' : List HkdfCall} {c c' : Cipher}

/-- Two ciphers are derived from one secret. -/
def SameKeys (P : Primitives) (secret : Bytes) (sessionId : ℕ) (role : EndpointRole)
    (packetsPerKey : ℕ) (c c' : Cipher) : Prop :=
  (∃ log, c.DerivedFrom P log secret sessionId role packetsPerKey) ∧
    ∃ log, c'.DerivedFrom P log secret sessionId role packetsPerKey

/-- **Encrypting does not depend on the cache.** -/
theorem encrypt_like (hH : P.LawfulHkdf) (h : SameKeys P secret sessionId role packetsPerKey c c')
    {packet : Packet} (hp : packet.HeaderInRange) :
    Like (SameKeys P secret sessionId role packetsPerKey) (fun _ => false)
      (Cipher.encrypt P packet c) (Cipher.encrypt P packet c') := by
  obtain ⟨⟨log, hc⟩, log', hc'⟩ := h
  obtain ⟨hder, hr⟩ := encrypt_spec hH hc hp
  obtain ⟨hder', hr'⟩ := encrypt_spec hH hc' hp
  refine ⟨?_, ⟨⟨_, hder⟩, _, hder'⟩, by simp⟩
  by_cases hbig : packet.payload.length > maxPayloadSize - aesGcmTagSize
  · rw [if_pos hbig] at hr hr'
    rw [hr.1, hr'.1]
  · rw [if_neg hbig] at hr hr'
    rw [hr.1, hr'.1]

/-- **Decrypting does not depend on the cache.** -/
theorem decrypt_like (hH : P.LawfulHkdf) (h : SameKeys P secret sessionId role packetsPerKey c c')
    {packet : Packet} (hp : packet.HeaderInRange) (hsize : packet.payload.length < 2 ^ 16) :
    Like (SameKeys P secret sessionId role packetsPerKey) (fun _ => false)
      (Cipher.decrypt P packet c) (Cipher.decrypt P packet c') := by
  obtain ⟨⟨log, hc⟩, log', hc'⟩ := h
  obtain ⟨hder, -, hr⟩ := decrypt_spec hH hc hp hsize
  obtain ⟨hder', -, hr'⟩ := decrypt_spec hH hc' hp hsize
  exact ⟨by rw [hr, hr'], ⟨⟨_, hder⟩, _, hder'⟩, by simp⟩

/-- The tag check fails exactly when the payload cannot be opened. -/
theorem openPayload_of_invalidTag (hH : P.LawfulHkdf)
    (hc : c.DerivedFrom P log secret sessionId role packetsPerKey) {packet : Packet}
    (hp : packet.HeaderInRange) (hsize : packet.payload.length < 2 ^ 16)
    (h : (Cipher.decrypt P packet c).result = .error .invalidTag) :
    openPayload P secret sessionId role.peer packetsPerKey packet = none := by
  obtain ⟨-, -, hr⟩ := decrypt_spec hH hc hp hsize
  rw [h] at hr
  rcases hopen : openPayload P secret sessionId role.peer packetsPerKey packet with - | plaintext
  · rfl
  · rw [hopen] at hr
    cases hr

end ciphers

/-! ## The point-to-point engine -/

/-- Sending does not look at the state. -/
theorem transportSend_like {τ σ : Type} {R : σ → σ → Prop} {visible : Effect τ → Bool} {s s' : σ}
    (h : R s s') (plain packet : Packet) (destination : Address) (failure : Option PyError) :
    Like R visible (transportSend plain packet destination failure s)
      (transportSend plain packet destination failure s') := by
  unfold transportSend
  refine Like.bind (Like.ofExcept h _) fun data t _ ht => ?_
  cases failure with
  | none => exact Like.emit ht _
  | some e => exact Like.raise ht e

namespace TunnelEngine

variable {τ : Type} {P : Primitives} {secret : Bytes} {sessionId packetsPerKey : ℕ}
  {role : EndpointRole}

/-- The engine apart from its cipher. -/
def withoutCipher (self : TunnelEngine τ) : TunnelEngine τ := { self with cipher := none }

/-- Two engines of one session that differ in the caches of their ciphers only. -/
structure Twin (P : Primitives) (secret : Bytes) (sessionId : ℕ) (role : EndpointRole)
    (packetsPerKey : ℕ) (engine engine' : TunnelEngine τ) : Prop where
  same : engine.withoutCipher = engine'.withoutCipher
  cipher : ∃ c c', engine.cipher = some c ∧ engine'.cipher = some c' ∧
    SameKeys P secret sessionId role packetsPerKey c c'
  sessionId_eq : engine.sessionId = sessionId
  sessionId_lt : sessionId < 2 ^ 32

section twin

variable {engine engine' : TunnelEngine τ}

theorem Twin.uses (h : Twin P secret sessionId role packetsPerKey engine engine') :
    ∃ log, engine.Uses P log secret sessionId role packetsPerKey := by
  obtain ⟨c, c', hc, -, ⟨log, hder⟩, -⟩ := h.cipher
  exact ⟨log, ⟨c, hc, hder⟩, h.sessionId_eq, h.sessionId_lt⟩

theorem Twin.symm (h : Twin P secret sessionId role packetsPerKey engine engine') :
    Twin P secret sessionId role packetsPerKey engine' engine := by
  obtain ⟨c, c', hc, hc', hder, hder'⟩ := h.cipher
  refine ⟨h.same.symm, ⟨c', c, hc', hc, hder', hder⟩, ?_, h.sessionId_lt⟩
  rw [← h.sessionId_eq]
  exact (congrArg TunnelEngine.sessionId h.same).symm

/-- Engines with a derived cipher are twins of themselves. -/
theorem Uses.twin {log : List HkdfCall}
    (h : engine.Uses P log secret sessionId role packetsPerKey) :
    Twin P secret sessionId role packetsPerKey engine engine := by
  obtain ⟨⟨c, hc, hder⟩, hid, hlt⟩ := h
  exact ⟨rfl, ⟨c, c, hc, hc, ⟨log, hder⟩, log, hder⟩, hid, hlt⟩

/-- Other ciphers of the session. -/
theorem Twin.putCipher (h : Twin P secret sessionId role packetsPerKey engine engine')
    {c c' : Cipher} (hc : SameKeys P secret sessionId role packetsPerKey c c') :
    Twin P secret sessionId role packetsPerKey { engine with cipher := some c }
      { engine' with cipher := some c' } :=
  ⟨h.same, ⟨c, c', rfl, rfl, hc⟩, h.sessionId_eq, h.sessionId_lt⟩

/-- A change that does not concern the cipher. -/
theorem Twin.change (h : Twin P secret sessionId role packetsPerKey engine engine')
    (f : TunnelEngine τ → TunnelEngine τ) (hcipher : ∀ e, (f e).cipher = e.cipher)
    (hid : ∀ e, (f e).sessionId = e.sessionId)
    (hf : ∀ e, (f e).withoutCipher = f e.withoutCipher) :
    Twin P secret sessionId role packetsPerKey (f engine) (f engine') := by
  refine ⟨?_, ?_, (hid engine).trans h.sessionId_eq, h.sessionId_lt⟩
  · rw [hf, hf, h.same]
  · rw [hcipher, hcipher]
    exact h.cipher

/-- **`_send_packet` does not depend on the cache.** -/
theorem sendPacket_like (hH : P.LawfulHkdf)
    (h : Twin P secret sessionId role packetsPerKey engine engine') (messageType : MessageType)
    (payload : Bytes) (failure : Option PyError) :
    Like (Twin P secret sessionId role packetsPerKey) Effect.isVisible
      (sendPacket P messageType payload failure engine)
      (sendPacket P messageType payload failure engine') := by
  have hn : engine'.sequenceNumber = engine.sequenceNumber :=
    (congrArg TunnelEngine.sequenceNumber h.same).symm
  have hid : engine'.sessionId = engine.sessionId := (congrArg TunnelEngine.sessionId h.same).symm
  have hremote : engine'.remoteAddress = engine.remoteAddress :=
    (congrArg TunnelEngine.remoteAddress h.same).symm
  unfold sendPacket
  apply Like.read_bind
  simp only [hn, hid, hremote]
  by_cases hmax : engine.sequenceNumber > maxSequenceNumber
  · simp only [if_pos hmax]
    exact Like.raise_bind h _ _ _
  simp only [if_neg hmax]
  obtain ⟨c, c', hc, hc', hkeys⟩ := h.cipher
  have hp : (⟨messageType, engine.sessionId, engine.sequenceNumber, payload⟩ :
      Packet).HeaderInRange := by
    refine ⟨h.sessionId_eq ▸ h.sessionId_lt, ?_⟩
    simp only [maxSequenceNumber] at hmax ⊢
    omega
  simp only [hc, hc']
  refine Like.bind (Like.zoom (encrypt_like hH hkeys hp) fun _ _ hput => h.putCipher hput) ?_
  intro packet t _ ht
  refine Like.bind (transportSend_like ht _ _ _ _) fun _ t _ ht => ?_
  exact Like.update (ht.change (fun e => { e with sequenceNumber := e.sequenceNumber + 1 })
    (fun _ => rfl) (fun _ => rfl) fun _ => rfl)

/-- What an engine accepts does not depend on the cache. -/
theorem Twin.opened_eq (h : Twin P secret sessionId role packetsPerKey engine engine')
    (data : Bytes) (source : Address) :
    engine'.opened P secret role packetsPerKey data source
      = engine.opened P secret role packetsPerKey data source := by
  have hid : engine'.sessionId = engine.sessionId := (congrArg TunnelEngine.sessionId h.same).symm
  have hremote : engine'.remoteAddress = engine.remoteAddress :=
    (congrArg TunnelEngine.remoteAddress h.same).symm
  have hwindow : engine'.replayWindow = engine.replayWindow :=
    (congrArg TunnelEngine.replayWindow h.same).symm
  unfold opened
  rw [hid, hremote, hwindow]

/-- Another replay window and another time of the last receive. -/
theorem Twin.authenticated (h : Twin P secret sessionId role packetsPerKey engine engine')
    (window : ReplayWindow) (now : τ) :
    Twin P secret sessionId role packetsPerKey (engine.authenticated window now)
      (engine'.authenticated window now) :=
  h.change (fun e => e.authenticated window now) (fun _ => rfl) (fun _ => rfl) fun _ => rfl

/-- What a received datagram makes visible. -/
theorem filter_receive (data : Bytes) (source : Address) (calls : List CryptoCall)
    (t : List (Effect τ)) :
    (Effect.receive data source :: (calls.map .crypto ++ t)).filter Effect.isVisible
      = t.filter Effect.isVisible := by
  rw [List.filter_cons_of_neg (by simp [Effect.isVisible]), List.filter_append,
    filter_isVisible_crypto, List.nil_append]

/-- **`_receive_udp_packet` does not depend on the cache.** -/
theorem receiveUdpPacket_like (hH : P.LawfulHkdf)
    (h : Twin P secret sessionId role packetsPerKey engine engine')
    (arrival : Except PyError (Bytes × Address)) (input : IterationInput τ) :
    Like (Twin P secret sessionId role packetsPerKey) Effect.isVisible
      (receiveUdpPacket P arrival input engine) (receiveUdpPacket P arrival input engine') := by
  rcases arrival with e | ⟨datagram, source⟩
  · cases e <;> exact ⟨rfl, h, rfl⟩
  obtain ⟨log, huses⟩ := h.uses
  obtain ⟨log', huses'⟩ := h.symm.uses
  have hends := receiveUdpPacket_spec hH huses datagram source input
  have hends' := receiveUdpPacket_spec hH huses' datagram source input
  rw [wp] at hends hends'
  obtain ⟨c, calls, window, now, hstate, hder, -, hends⟩ := hends
  obtain ⟨c', calls', window', now', hstate', hder', -, hends'⟩ := hends'
  generalize receiveUdpPacket P (.ok (datagram, source)) input engine = o at hstate hends
  generalize receiveUdpPacket P (.ok (datagram, source)) input engine' = o' at hstate' hends'
  rcases o with ⟨r, s, t⟩
  rcases o' with ⟨r', s', t'⟩
  simp only at hstate hstate' hends hends'
  -- twins open the same packets, so both drop the datagram or both accept it
  have hopened := h.opened_eq (datagram.take maxUdpDatagramSize) source
  have hwindow : engine'.replayWindow = engine.replayWindow :=
    (congrArg TunnelEngine.replayWindow h.same).symm
  have hlast : engine'.lastAuthenticatedReceive = engine.lastAuthenticatedReceive :=
    (congrArg TunnelEngine.lastAuthenticatedReceive h.same).symm
  have hkeys : SameKeys P secret sessionId role packetsPerKey c c' := ⟨⟨_, hder⟩, _, hder'⟩
  have hcipher := h.putCipher hkeys
  cases hends with
  | dropped hnone =>
      cases hends' with
      | dropped hnone' =>
          refine ⟨rfl, ?_, ?_⟩
          · rw [hstate, hstate', hwindow, hlast]
            exact hcipher.authenticated _ _
          · have h1 := filter_receive (τ := τ) (datagram.take maxUdpDatagramSize) source calls []
            have h2 := filter_receive (τ := τ) (datagram.take maxUdpDatagramSize) source calls' []
            rw [List.append_nil] at h1 h2
            exact h1.trans h2.symm
      | accepted packet window hsome _ =>
          rw [hopened, hnone] at hsome
          cases hsome
  | accepted packet _ hsome hmark =>
      cases hends' with
      | dropped hnone' =>
          rw [hopened, hsome] at hnone'
          cases hnone'
      | accepted packet' _ hsome' hmark' =>
          rw [hopened, hsome] at hsome'
          obtain rfl := Option.some.inj hsome'
          rw [hwindow, hmark] at hmark'
          obtain rfl := Except.ok.inj hmark'
          refine ⟨rfl, ?_, ?_⟩
          · rw [hstate, hstate']
            exact hcipher.authenticated _ _
          · exact (filter_receive _ _ _ _).trans (filter_receive _ _ _ _).symm

/-- The TUN half does not depend on the cache. -/
theorem forwardFromTun_like (hH : P.LawfulHkdf)
    (h : Twin P secret sessionId role packetsPerKey engine engine') (input : IterationInput τ) :
    Like (Twin P secret sessionId role packetsPerKey) Effect.isVisible
      (forwardFromTun P input engine) (forwardFromTun P input engine') := by
  unfold forwardFromTun
  cases input.tunRead with
  | none => exact Like.pure h 0
  | some packet =>
      refine Like.bind ?_ fun _ _ _ ht => Like.pure ht 1
      refine Like.bind (Like.ofExcept h packet) fun payload t _ ht => ?_
      exact sendPacket_like hH ht .data payload input.tunSendFailure

/-- The UDP half does not depend on the cache. -/
theorem forwardFromUdp_like (hH : P.LawfulHkdf)
    (h : Twin P secret sessionId role packetsPerKey engine engine') (input : IterationInput τ) :
    Like (Twin P secret sessionId role packetsPerKey) Effect.isVisible
      (forwardFromUdp P input engine) (forwardFromUdp P input engine') := by
  unfold forwardFromUdp
  cases input.udpReceive with
  | none => exact Like.pure h 0
  | some arrival =>
      exact Like.bind (receiveUdpPacket_like hH h arrival input) fun _ _ _ ht => Like.pure ht _

section iteration

variable [Zero τ] [Add τ] [Sub τ] [LT τ] [LE τ] [DecidableEq τ] [DecidableLT τ]
  [DecidableLE τ]

omit [LT τ] [DecidableLT τ] in
/-- The timers do not depend on the cache. -/
theorem checkTimers_like (hH : P.LawfulHkdf)
    (h : Twin P secret sessionId role packetsPerKey engine engine') (input : IterationInput τ) :
    Like (Twin P secret sessionId role packetsPerKey) Effect.isVisible
      (checkTimers P input engine) (checkTimers P input engine') := by
  have hdeadline : ∀ e e' : TunnelEngine τ, Twin P secret sessionId role packetsPerKey e e' →
      Like (Twin P secret sessionId role packetsPerKey) Effect.isVisible
        (checkLiveness input.loopClock e) (checkLiveness input.loopClock e') := by
    intro e e' he
    have hliveness : e'.livenessTimeout = e.livenessTimeout :=
      (congrArg TunnelEngine.livenessTimeout he.same).symm
    have hlast : e'.lastAuthenticatedReceive = e.lastAuthenticatedReceive :=
      (congrArg TunnelEngine.lastAuthenticatedReceive he.same).symm
    apply Like.read_bind
    rw [hliveness, hlast]
    split
    · exact Like.raise he _
    · exact Like.pure he _
  have hinterval : engine'.keepaliveInterval = engine.keepaliveInterval :=
    (congrArg TunnelEngine.keepaliveInterval h.same).symm
  have hnext : engine'.nextKeepalive = engine.nextKeepalive :=
    (congrArg TunnelEngine.nextKeepalive h.same).symm
  rw [checkTimers_eq]
  apply Like.read_bind
  simp only [hinterval, hnext]
  by_cases hzero : engine.keepaliveInterval ≠ 0
  swap
  · simp only [if_neg hzero]
    exact Like.pure h _
  simp only [if_pos hzero]
  by_cases hdue : engine.nextKeepalive ≤ input.loopClock
  · simp only [if_pos hdue]
    refine Like.bind (sendPacket_like hH h .keepalive [] _) fun _ t _ ht => ?_
    refine Like.bind (Like.update (ht.change (fun e => { e with
      nextKeepalive := input.loopClock + e.keepaliveInterval }) (fun _ => rfl)
        (fun _ => rfl) fun _ => rfl)) fun _ t _ ht => ?_
    exact hdeadline _ _ ht
  · simp only [if_neg hdue]
    exact hdeadline _ _ h

/-- **An iteration does not depend on the cache.** -/
theorem runOnce_like (hH : P.LawfulHkdf)
    (h : Twin P secret sessionId role packetsPerKey engine engine') (input : IterationInput τ)
    (timeout : Option τ) :
    Like (Twin P secret sessionId role packetsPerKey) Effect.isVisible
      (runOnce P input timeout engine) (runOnce P input timeout engine') := by
  unfold runOnce
  apply Like.read_bind
  refine Like.bind (Like.emit_hidden h rfl rfl) fun _ _ _ h₁ => ?_
  refine Like.bind (forwardFromTun_like hH h₁ input) fun _ _ _ h₂ => ?_
  refine Like.bind (forwardFromUdp_like hH h₂ input) fun _ _ _ h₃ => ?_
  exact Like.bind (checkTimers_like hH h₃ input) fun _ _ _ h₄ => Like.pure h₄ _

end iteration

/-! ### Datagrams without effect -/

/-- The engine has no use for the datagram: it is no packet, its address, session or type is not
the expected one, or its tag is wrong. -/
inductive Unauthenticated (P : Primitives) (engine : TunnelEngine τ) (data : Bytes)
    (source : Address) : Prop
  | undecodable (e : PyError) : Packet.decode data = .error e →
      Unauthenticated P engine data source
  | address : source ≠ engine.remoteAddress → Unauthenticated P engine data source
  | session (packet : Packet) : Packet.decode data = .ok packet →
      packet.sessionId ≠ engine.sessionId → Unauthenticated P engine data source
  | type (packet : Packet) : Packet.decode data = .ok packet →
      ¬ (packet.messageType = .data ∨ packet.messageType = .keepalive) →
      Unauthenticated P engine data source
  | tag (packet : Packet) (cipher : Cipher) : Packet.decode data = .ok packet →
      engine.cipher = some cipher →
      (Cipher.decrypt P packet cipher).result = .error .invalidTag →
      Unauthenticated P engine data source

/-- The engine does not accept the datagram. -/
theorem Unauthenticated.opened_eq (hH : P.LawfulHkdf) {log : List HkdfCall}
    (huses : engine.Uses P log secret sessionId role packetsPerKey) {data : Bytes}
    (hlen : data.length ≤ maxUdpDatagramSize) {source : Address}
    (h : Unauthenticated P engine data source) :
    engine.opened P secret role packetsPerKey data source = none := by
  unfold opened
  cases h with
  | undecodable e hdecode => rw [hdecode]
  | address haddress =>
      rcases Packet.decode data with e | packet
      · rfl
      · exact if_neg fun h => haddress h.1
  | session packet hdecode hsession =>
      rw [hdecode]
      exact if_neg fun h => hsession h.2.1
  | type packet hdecode htype =>
      rw [hdecode]
      exact if_neg fun h => htype h.2.2.1
  | tag packet cipher hdecode hcipher htag =>
      obtain ⟨⟨c, hc, hder⟩, hid, -⟩ := huses
      obtain rfl := Option.some.inj (hc.symm.trans hcipher)
      have hencodable := Packet.encodable_of_decode hlen hdecode
      have hpayload := hencodable.length_payload_lt
      obtain ⟨hs, hn, -⟩ := hencodable
      rw [hdecode, hid]
      simp only
      rw [openPayload_of_invalidTag hH hder ⟨hs, hn⟩ hpayload htag]
      exact ite_self none

/-- **A datagram that is not accepted** is dropped, and only the cache may change. -/
theorem forwardFromUdp_of_not_opened (hH : P.LawfulHkdf)
    (h : Twin P secret sessionId role packetsPerKey engine engine') {input : IterationInput τ}
    {datagram : Bytes} {source : Address}
    (hreceive : input.udpReceive = some (.ok (datagram, source)))
    (hnone : engine.opened P secret role packetsPerKey (datagram.take maxUdpDatagramSize) source
      = none) :
    wp (forwardFromUdp P input) engine (fun r e t => r = .ok 0 ∧
      e.withoutCipher = engine.withoutCipher ∧
      Twin P secret sessionId role packetsPerKey e engine' ∧
      t.filter Effect.isVisible = []) := by
  obtain ⟨log, huses⟩ := h.uses
  obtain ⟨c₀, c', hc₀, hc', -, hder'⟩ := h.cipher
  unfold forwardFromUdp
  rw [hreceive]
  simp only
  rw [wp_bind_pure]
  refine wp_mono (receiveUdpPacket_spec hH huses datagram source input) ?_
  rintro r e t ⟨c, calls, window, now, rfl, hder, -, hends⟩
  cases hends with
  | accepted packet _ hsome _ =>
      rw [hnone] at hsome
      cases hsome
  | dropped _ =>
      refine ⟨rfl, rfl, ⟨h.same, ⟨c, c', rfl, hc', ⟨_, hder⟩, hder'⟩, h.sessionId_eq,
        h.sessionId_lt⟩, ?_⟩
      have hfilter := filter_receive (τ := τ) (datagram.take maxUdpDatagramSize) source calls []
      rw [List.append_nil] at hfilter
      exact hfilter

section hidden

variable [Zero τ] [Add τ] [Sub τ] [LT τ] [LE τ] [DecidableEq τ] [DecidableLT τ]
  [DecidableLE τ]

/-- The timers of the iteration neither send nor raise. -/
def TimersIdle (engine : TunnelEngine τ) (input : IterationInput τ) : Prop :=
  engine.keepaliveInterval = 0 ∨ (¬ engine.nextKeepalive ≤ input.loopClock ∧
    ¬ engine.livenessTimeout ≤ input.loopClock - engine.lastAuthenticatedReceive)

omit [Add τ] [LT τ] [DecidableEq τ] [DecidableLT τ] [DecidableLE τ] in
/-- Idle timers do not look at the cipher. -/
theorem TimersIdle.of_same {input : IterationInput τ} (h : TimersIdle engine input)
    (hsame : engine'.withoutCipher = engine.withoutCipher) : TimersIdle engine' input := by
  have hw : TimersIdle engine.withoutCipher input := h
  rw [← hsame] at hw
  exact hw

omit [LT τ] [DecidableLT τ] in
/-- Idle timers do nothing. -/
theorem TimersIdle.checkTimers_eq {input : IterationInput τ} (h : TimersIdle engine input) :
    checkTimers P input engine = ⟨.ok (), engine, []⟩ := by
  unfold checkTimers
  show (if engine.keepaliveInterval ≠ 0 then _ else _ : Program PyError (Effect τ) _ Unit) engine
    = _
  rcases h with hzero | ⟨hdue, hdeadline⟩
  · rw [if_neg (not_not.2 hzero)]
    rfl
  · by_cases hzero : engine.keepaliveInterval = 0
    · rw [if_neg (not_not.2 hzero)]
      rfl
    · rw [if_pos hzero]
      simp only [if_neg hdue]
      show (if engine.livenessTimeout ≤ input.loopClock - engine.lastAuthenticatedReceive
        then _ else _ : Program PyError (Effect τ) _ Unit) engine = _
      rw [if_neg hdeadline]
      rfl

/-- An iteration with a datagram that the engine has no use for when it reads it: the datagram
may be erased, and the whole iteration left out when nothing else happens in it. -/
inductive Hides (P : Primitives) (engine : TunnelEngine τ) :
    IterationInput τ × Option τ → Option (IterationInput τ × Option τ) → Prop
  | erased (input : IterationInput τ) (timeout : Option τ) (datagram : Bytes) (source : Address) :
      input.udpReceive = some (.ok (datagram, source)) →
      Unauthenticated P (forwardFromTun P input engine).state (datagram.take maxUdpDatagramSize)
        source →
      Hides P engine (input, timeout) (some ({ input with udpReceive := none }, timeout))
  | leftOut (input : IterationInput τ) (timeout : Option τ) (datagram : Bytes) (source : Address) :
      input.udpReceive = some (.ok (datagram, source)) →
      Unauthenticated P engine (datagram.take maxUdpDatagramSize) source →
      input.tunRead = none → TimersIdle engine input → Hides P engine (input, timeout) none

/-- **An erased datagram.** -/
theorem runOnce_erased (hH : P.LawfulHkdf)
    (h : Twin P secret sessionId role packetsPerKey engine engine') {input : IterationInput τ}
    {datagram : Bytes} {source : Address}
    (hreceive : input.udpReceive = some (.ok (datagram, source)))
    (hhidden : Unauthenticated P (forwardFromTun P input engine).state
      (datagram.take maxUdpDatagramSize) source)
    (timeout : Option τ) :
    Like (Twin P secret sessionId role packetsPerKey) Effect.isVisible
      (runOnce P input timeout engine)
      (runOnce P { input with udpReceive := none } timeout engine') := by
  unfold runOnce
  apply Like.read_bind
  refine Like.bind (Like.emit_hidden h rfl rfl) fun _ _ _ h₁ => ?_
  refine Like.bind (forwardFromTun_like hH h₁ input) fun _ e₂ _ h₂ => ?_
  obtain ⟨log, huses⟩ := h₂.uses
  obtain ⟨hresult, -, hstate, htrace⟩ := forwardFromUdp_of_not_opened hH h₂ hreceive
    (hhidden.opened_eq hH huses (List.length_take_le _ _))
  have hudp : Like (Twin P secret sessionId role packetsPerKey) Effect.isVisible
      (forwardFromUdp P input (forwardFromTun P input engine).state)
      (forwardFromUdp P { input with udpReceive := none } e₂) := ⟨hresult, hstate, htrace⟩
  refine Like.bind hudp fun _ _ _ h₃ => ?_
  exact Like.bind (checkTimers_like hH h₃ input) fun _ _ _ h₄ => Like.pure h₄ _

/-- **An iteration that is left out.** -/
theorem runOnce_leftOut (hH : P.LawfulHkdf)
    (h : Twin P secret sessionId role packetsPerKey engine engine') {input : IterationInput τ}
    {datagram : Bytes} {source : Address}
    (hreceive : input.udpReceive = some (.ok (datagram, source)))
    (hhidden : Unauthenticated P engine (datagram.take maxUdpDatagramSize) source)
    (htun : input.tunRead = none) (htimers : TimersIdle engine input) (timeout : Option τ) :
    wp (runOnce P input timeout) engine (fun r e t => (∃ n, r = .ok n) ∧
      Twin P secret sessionId role packetsPerKey e engine' ∧
        t.filter Effect.isVisible = []) := by
  obtain ⟨log, huses⟩ := h.uses
  have hnone := hhidden.opened_eq hH huses (List.length_take_le _ _)
  unfold runOnce
  rw [wp_read_bind, wp_emit_bind, forwardFromTun, htun]
  simp only
  rw [wp_pure_bind, wp_bind]
  refine wp_mono (forwardFromUdp_of_not_opened hH h hreceive hnone) ?_
  rintro r e t ⟨rfl, hsame, htwin, ht⟩
  simp only
  rw [wp_bind_pure]
  -- the timers see the engine as it was
  have hidle : TimersIdle e input := htimers.of_same hsame
  rw [wp, hidle.checkTimers_eq]
  refine ⟨⟨_, rfl⟩, htwin, ?_⟩
  rw [List.filter_cons_of_neg (by simp [Effect.isVisible]), List.append_nil]
  exact ht

/-- **Deleted datagrams cannot be seen.** The run ends with the same result, after the same
writes and sends, and only the caches of the ciphers differ in the end. -/
theorem steps_like (hH : P.LawfulHkdf) {log : List HkdfCall}
    (huses : engine.Uses P log secret sessionId role packetsPerKey)
    {inputs inputs' : List (IterationInput τ × Option τ)}
    (h : Thinned (fun x => runOnce P x.1 x.2) (Hides P) engine inputs inputs') :
    Like (Twin P secret sessionId role packetsPerKey) Effect.isVisible
      (steps (fun x => runOnce P x.1 x.2) inputs engine)
      (steps (fun x => runOnce P x.1 x.2) inputs' engine) := by
  refine h.alike ?_ ?_ ?_ huses.twin
  · exact fun _ _ x he => runOnce_like hH he x.1 x.2
  · intro e e' x y he hhides
    cases hhides with
    | erased input timeout datagram source hreceive hhidden =>
        exact runOnce_erased hH he hreceive hhidden timeout
  · intro e e' x he hhides
    cases hhides with
    | leftOut input timeout datagram source hreceive hhidden htun htimers =>
        exact runOnce_leftOut hH he hreceive hhidden htun htimers timeout

end hidden

end twin

end TunnelEngine

end MatfVpn
