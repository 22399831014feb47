/-
# Datagrams that leave no mark on the multi-client server

The same for the server and all its clients: two servers whose session objects differ in
the caches of their ciphers only do the same, and a datagram that is unknown to the
registry and that no session authenticates changes such a cache at most.

* `MultiClientServer.runOnce_like` : an iteration does not depend on the caches;
* `MultiClientServer.steps_like` : nor does a run notice the datagrams that are deleted;
* `hidden_datagrams` : both kinds of endpoints.
-/
import MatfVpn.HiddenDatagrams
import MatfVpn.ServerAttribution
import MatfVpn.TunnelDelivery

namespace MatfVpn

open Program

/-! ## What can be seen -/

/-- The effect leaves the server, or a note tells of it. -/
def ServerEffect.isVisible {τ ν : Type} : ServerEffect τ ν → Bool
  | effect e => e.isVisible
  | _ => true

/-- Calls into the cryptography package cannot be seen. -/
theorem filter_isVisible_calls {τ ν : Type} (calls : List CryptoCall) :
    (calls.map fun call => (.effect (.crypto call) : ServerEffect τ ν)).filter
      ServerEffect.isVisible = [] := by
  rw [List.filter_eq_nil_iff]
  intro e he
  obtain ⟨call, -, rfl⟩ := List.mem_map.1 he
  simp [ServerEffect.isVisible, Effect.isVisible]

section transport

variable {τ σ : Type} {R : σ → σ → Prop} {s s' : σ}

/-- Receiving does not look at the state. -/
theorem transportReceive_like {visible : Effect τ → Bool} (h : R s s')
    (arrival : Except PyError (Bytes × Address)) :
    Like R visible (transportReceive arrival s) (transportReceive arrival s') := by
  unfold transportReceive
  refine Like.bind (Like.ofExcept h arrival) fun datagram _ _ ht => ?_
  refine Like.bind (Like.emit ht _) fun _ _ _ ht => ?_
  exact Like.bind (Like.ofExcept ht _) fun _ _ _ ht => Like.pure ht _

/-- A received packet fits into a datagram. -/
theorem encodable_of_transportReceive {datagram : Bytes} {source source' : Address}
    {packet : Packet}
    (h : ((transportReceive (.ok (datagram, source)) : Program PyError (Effect τ) σ _) s).result
      = .ok (packet, source')) : packet.Encodable := by
  obtain ⟨-, -, hresult⟩ := transportReceive_spec (τ := τ) datagram source s
  rw [h] at hresult
  cases hdecode : Packet.decode (datagram.take maxUdpDatagramSize) with
  | error e =>
      rw [hdecode] at hresult
      cases hresult
  | ok packet' =>
      rw [hdecode] at hresult
      obtain ⟨rfl, -⟩ := Prod.mk.inj (Except.ok.inj hresult)
      exact Packet.encodable_of_decode (List.length_take_le _ _) hdecode

end transport

/-! ## Session objects with the same keys -/

/-- The data of a session object apart from its cipher. -/
def ClientSession.withoutCipher (session : ClientSession) :
    Address × IPv4Address × ℕ × ℕ × ReplayWindow :=
  (session.remoteAddress, session.tunnelAddress, session.sessionId, session.sendSequence,
    session.replayWindow)

/-- Two session objects that differ in the caches of their ciphers only. -/
inductive ClientSession.Twin (P : Primitives) (packetsPerKey : ℕ) (s : ClientSession) :
    ClientSession → Prop
  | intro (c' : Cipher) (secret : Bytes) : s.sessionId < 2 ^ 32 →
      SameKeys P secret s.sessionId .server packetsPerKey s.cipher c' →
      Twin P packetsPerKey s { s with cipher := c' }

theorem ClientSession.Twin.same {P : Primitives} {packetsPerKey : ℕ} {s s' : ClientSession}
    (h : s.Twin P packetsPerKey s') : s.withoutCipher = s'.withoutCipher := by
  cases h
  rfl

namespace MultiClientServerEngine

variable {τ ν : Type} {P : Primitives} {packetsPerKey : ℕ}

/-- Two engines with the same sessions, whose objects differ in the caches of their ciphers
only. -/
structure Twin (P : Primitives) (packetsPerKey : ℕ) (engine engine' : MultiClientServerEngine) :
    Prop where
  sessions : engine.sessions = engine'.sessions
  routes : engine.routes = engine'.routes
  length_objects : engine.objects.length = engine'.objects.length
  object : ∀ ref, Option.Rel (ClientSession.Twin P packetsPerKey) (engine.session? ref)
    (engine'.session? ref)

/-- A new engine is a twin of itself. -/
theorem twin_new : Twin P packetsPerKey new new :=
  ⟨rfl, rfl, rfl, fun _ => Option.Rel.none⟩

section twin

variable {engine engine' : MultiClientServerEngine}

/-- The objects of twins differ in their ciphers only. -/
theorem Twin.withoutCipher (h : Twin P packetsPerKey engine engine') :
    engine.objects.map ClientSession.withoutCipher
      = engine'.objects.map ClientSession.withoutCipher := by
  apply List.ext_getElem?
  intro ref
  rw [List.getElem?_map, List.getElem?_map]
  have hobject : Option.Rel (ClientSession.Twin P packetsPerKey) engine.objects[ref]?
    engine'.objects[ref]? := h.object ref
  generalize engine.objects[ref]? = s at hobject
  generalize engine'.objects[ref]? = s' at hobject
  cases hobject with
  | none => rfl
  | some htwin => exact congrArg some htwin.same

/-- One object of each engine changes. -/
theorem Twin.modifySession (h : Twin P packetsPerKey engine engine') (ref : ℕ)
    {f f' : ClientSession → ClientSession}
    (hf : ∀ s s', engine.session? ref = some s → engine'.session? ref = some s' →
      s.Twin P packetsPerKey s' → (f s).Twin P packetsPerKey (f' s')) :
    Twin P packetsPerKey (engine.modifySession ref f) (engine'.modifySession ref f') where
  sessions := h.sessions
  routes := h.routes
  length_objects := by
    show (engine.objects.modify ref f).length = (engine'.objects.modify ref f').length
    rw [List.length_modify, List.length_modify, h.length_objects]
  object ref' := by
    rw [session?_modifySession, session?_modifySession]
    have hobject := h.object ref'
    split
    · rename_i href
      subst href
      generalize hs : engine.session? ref = s at hobject
      generalize hs' : engine'.session? ref = s' at hobject
      cases hobject with
      | none => exact Option.Rel.none
      | some htwin => exact Option.Rel.some (hf _ _ hs hs' htwin)
    · exact hobject

/-- A new session object that is a twin of itself. -/
theorem Twin.install (h : Twin P packetsPerKey engine engine') {session : ClientSession}
    (hsession : session.Twin P packetsPerKey session) :
    Twin P packetsPerKey (engine.install session) (engine'.install session) where
  sessions := by
    show engine.sessions.insert _ _ = engine'.sessions.insert _ _
    rw [h.sessions, h.length_objects]
  routes := by
    show engine.routes.insert _ _ = engine'.routes.insert _ _
    rw [h.routes, h.length_objects]
  length_objects := by
    show (engine.objects ++ [session]).length = (engine'.objects ++ [session]).length
    rw [List.length_append, List.length_append, h.length_objects]
  object ref := by
    rw [session?_install, session?_install, h.length_objects]
    split
    · exact Option.Rel.some hsession
    · exact h.object ref

/-- The programs read a session object. -/
theorem deref_bind_like {α : Type} {visible : ServerEffect τ ν → Bool} {ref : ℕ}
    (h : Twin P packetsPerKey engine engine')
    {f f' : ClientSession → Program PyError (ServerEffect τ ν) MultiClientServerEngine α}
    (hf : ∀ s s', engine.session? ref = some s → engine'.session? ref = some s' →
      s.Twin P packetsPerKey s' →
      Like (Twin P packetsPerKey) visible (f s engine) (f' s' engine')) :
    Like (Twin P packetsPerKey) visible ((deref ref >>= f) engine)
      ((deref ref >>= f') engine') := by
  have hobject := h.object ref
  unfold deref
  rw [bind_assoc, bind_assoc]
  apply Like.read_bind
  generalize hs : engine.session? ref = s at hobject
  generalize hs' : engine'.session? ref = s' at hobject
  cases hobject with
  | none => exact Like.raise_bind h _ _ _
  | some htwin => exact hf _ _ hs hs' htwin

/-- A call of a session's cipher object. -/
theorem onCipher_like {α : Type} (h : Twin P packetsPerKey engine engine') {ref : ℕ}
    {s : ClientSession} {c' : Cipher} {secret : Bytes}
    {m : Program PyError CryptoCall Cipher α} (hs : engine.session? ref = some s)
    (hlt : s.sessionId < 2 ^ 32)
    (hm : Like (SameKeys P secret s.sessionId .server packetsPerKey) (fun _ => false)
      (m s.cipher) (m c')) :
    Like (Twin P packetsPerKey) ServerEffect.isVisible
      ((onCipher ref s.cipher m : Program PyError (ServerEffect τ ν) _ α) engine)
      ((onCipher ref c' m : Program PyError (ServerEffect τ ν) _ α) engine') := by
  refine Like.zoom hm fun c₁ c₂ hkeys => ?_
  refine h.modifySession ref fun s₁ s₂ hs₁ _ htwin => ?_
  rw [hs] at hs₁
  obtain rfl := Option.some.inj hs₁
  cases htwin
  exact .intro c₂ secret hlt hkeys

/-! ## Packets -/

/-- **`handle_tun_packet` does not depend on the caches.** -/
theorem handleTunPacket_like (hH : P.LawfulHkdf) (h : Twin P packetsPerKey engine engine')
    (payload : Bytes) (failure : Option PyError) :
    Like (Twin P packetsPerKey) ServerEffect.isVisible
      ((handleTunPacket P payload failure : Program PyError (ServerEffect τ ν) _ Bool) engine)
      ((handleTunPacket P payload failure : Program PyError (ServerEffect τ ν) _ Bool)
        engine') := by
  unfold handleTunPacket
  cases ipv4Destination payload with
  | error e =>
      simp only
      split
      · exact Like.pure h false
      · exact Like.raise h e
  | ok destination =>
      apply Like.read_bind
      simp only [← h.routes]
      cases engine.routes.get? destination with
      | none => exact Like.pure h false
      | some ref =>
          refine deref_bind_like h fun s s' hs _ htwin => ?_
          obtain ⟨c', secret, hlt, hkeys⟩ := htwin
          by_cases hmax : s.sendSequence > maxSequenceNumber
          · simp only [if_pos hmax]
            exact Like.raise h _
          simp only [if_neg hmax]
          have hp : (nextPacket s payload).HeaderInRange := by
            refine ⟨hlt, ?_⟩
            simp only [nextPacket, maxSequenceNumber] at hmax ⊢
            omega
          refine Like.bind (onCipher_like h hs hlt (encrypt_like hH hkeys hp)) ?_
          intro packet e _ he
          refine Like.bind (Like.zoom (transportSend_like he _ _ _ _) fun _ _ he => he) ?_
          intro _ e _ he
          refine Like.bind (Like.update ?_) fun _ _ _ he => Like.pure he true
          refine he.modifySession ref fun s₁ s₂ _ _ htwin => ?_
          obtain ⟨c₂, secret, hlt, hkeys⟩ := htwin
          exact .intro c₂ secret hlt hkeys

/-- The end of `handle_udp_packet` does not look at the cipher. -/
theorem deliver_like (h : Twin P packetsPerKey engine engine') (ref : ℕ) (s : ClientSession)
    (c' : Cipher) (n : ℕ) (decrypted : Packet) (answer : Bytes → Except PyError ℕ) :
    Like (Twin P packetsPerKey) ServerEffect.isVisible
      ((deliver ref s n decrypted answer : Program PyError (ServerEffect τ ν) _ Bool) engine)
      ((deliver ref { s with cipher := c' } n decrypted answer :
        Program PyError (ServerEffect τ ν) _ Bool) engine') := by
  unfold deliver
  cases ipv4Source decrypted.payload with
  | error e =>
      simp only
      split
      · exact Like.pure h false
      · exact Like.raise h e
  | ok source =>
      by_cases haddress : source ≠ s.tunnelAddress
      · simp only [if_pos haddress]
        exact Like.pure h false
      simp only [if_neg haddress]
      refine Like.bind (Like.ofExcept h _) fun window e _ he => ?_
      refine Like.bind (Like.update ?_) fun _ e _ he => ?_
      · refine he.modifySession ref fun s₁ s₂ _ _ htwin => ?_
        obtain ⟨c₂, secret, hlt, hkeys⟩ := htwin
        exact .intro c₂ secret hlt hkeys
      refine Like.bind (Like.emit he _) fun _ e _ he => ?_
      have hwrite : Like (Twin P packetsPerKey) Effect.isVisible
          ((tunWrite decrypted.payload answer : Program PyError (Effect τ) _ ℕ) _)
          ((tunWrite decrypted.payload answer : Program PyError (Effect τ) _ ℕ) e) :=
        Like.bind (Like.emit he _) fun _ _ _ he => Like.ofExcept he _
      refine Like.bind (Like.zoom hwrite fun _ _ he => he) fun written e _ he => ?_
      split
      · exact Like.raise he _
      · exact Like.pure he true

/-- **`handle_udp_packet` does not depend on the caches.** -/
theorem handleUdpPacket_like (hH : P.LawfulHkdf) (h : Twin P packetsPerKey engine engine')
    {packet : Packet} (hp : packet.HeaderInRange) (hsize : packet.payload.length < 2 ^ 16)
    (source : Address) (answer : Bytes → Except PyError ℕ) :
    Like (Twin P packetsPerKey) ServerEffect.isVisible
      ((handleUdpPacket P packet source answer : Program PyError (ServerEffect τ ν) _ Bool)
        engine)
      ((handleUdpPacket P packet source answer : Program PyError (ServerEffect τ ν) _ Bool)
        engine') := by
  unfold handleUdpPacket
  apply Like.read_bind
  simp only [← h.sessions]
  cases engine.sessions.get? (source, packet.sessionId) with
  | none => exact Like.pure h false
  | some ref =>
      by_cases htype : packet.messageType ≠ .data
      · simp only [if_pos htype]
        exact Like.pure h false
      simp only [if_neg htype]
      refine deref_bind_like h fun s s' hs _ htwin => ?_
      obtain ⟨c', secret, hlt, hkeys⟩ := htwin
      split
      · exact Like.pure h false
      have hdecrypt := onCipher_like h hs hlt (decrypt_like hH hkeys hp hsize) (τ := τ) (ν := ν)
      refine Like.bind (Like.attempt hdecrypt) fun r e _ he => ?_
      rcases r with e₁ | decrypted
      · cases e₁ with
        | invalidTag => exact Like.pure he false
        | _ => exact Like.raise he _
      · exact deliver_like he ref s c' _ decrypted answer

/-! ## Sessions -/

/-- `add_session` does not depend on the caches. -/
theorem addSession_like (h : Twin P packetsPerKey engine engine') {session : ClientSession}
    (hsession : session.Twin P packetsPerKey session) :
    Like (Twin P packetsPerKey) ServerEffect.isVisible
      ((addSession session : Program PyError (ServerEffect τ ν) _ Unit) engine)
      ((addSession session : Program PyError (ServerEffect τ ν) _ Unit) engine') := by
  unfold addSession addWith
  apply Like.read_bind
  simp only [← h.sessions, ← h.routes]
  split
  · exact Like.raise h _
  split
  · exact Like.raise h _
  exact Like.update (h.install hsession)

/-- A key is deleted from `_sessions`. -/
theorem Twin.erase_session (h : Twin P packetsPerKey engine engine') (key : SessionKey) :
    Twin P packetsPerKey { engine with sessions := engine.sessions.erase key }
      { engine' with sessions := engine'.sessions.erase key } := by
  refine ⟨?_, h.routes, h.length_objects, h.object⟩
  show engine.sessions.erase key = engine'.sessions.erase key
  rw [h.sessions]

/-- A tunnel address is deleted from `_routes`. -/
theorem Twin.erase_route (h : Twin P packetsPerKey engine engine') (address : IPv4Address) :
    Twin P packetsPerKey { engine with routes := engine.routes.erase address }
      { engine' with routes := engine'.routes.erase address } := by
  refine ⟨h.sessions, ?_, h.length_objects, h.object⟩
  show engine.routes.erase address = engine'.routes.erase address
  rw [h.routes]

/-- `remove_session` does not depend on the caches. -/
theorem removeSession_like (h : Twin P packetsPerKey engine engine') (remoteAddress : Address)
    (sessionId : ℕ) :
    Like (Twin P packetsPerKey) ServerEffect.isVisible
      ((removeSession remoteAddress sessionId : Program PyError (ServerEffect τ ν) _ Unit)
        engine)
      ((removeSession remoteAddress sessionId : Program PyError (ServerEffect τ ν) _ Unit)
        engine') := by
  unfold removeSession
  apply Like.read_bind
  simp only [← h.sessions]
  cases engine.sessions.get? (remoteAddress, sessionId) with
  | none => exact Like.raise h _
  | some ref =>
      refine Like.bind (Like.update (h.erase_session (remoteAddress, sessionId))) ?_
      intro _ e _ he
      refine deref_bind_like he fun s s' _ _ htwin => ?_
      cases htwin
      exact Like.update (he.erase_route s.tunnelAddress)

/-- `replace_session` does not depend on the caches. -/
theorem replaceSession_like (h : Twin P packetsPerKey engine engine') {session : ClientSession}
    (hsession : session.Twin P packetsPerKey session) :
    Like (Twin P packetsPerKey) ServerEffect.isVisible
      ((replaceSession session : Program PyError (ServerEffect τ ν) _ Unit) engine)
      ((replaceSession session : Program PyError (ServerEffect τ ν) _ Unit) engine') := by
  unfold replaceSession replaceWith
  apply Like.read_bind
  simp only [← h.routes]
  cases engine.routes.get? session.tunnelAddress with
  | none => exact addSession_like h hsession
  | some ref =>
      refine deref_bind_like h fun s s' _ _ htwin => ?_
      cases htwin
      exact Like.bind (removeSession_like h _ _) fun _ _ _ he => addSession_like he hsession

/-! ## Packets without effect -/

/-- One engine has another cipher object of the session. -/
theorem Twin.putCipher (h : Twin P packetsPerKey engine engine') {ref : ℕ} {s : ClientSession}
    (hs : engine.session? ref = some s) {c : Cipher}
    (hc : ∀ secret c', SameKeys P secret s.sessionId .server packetsPerKey s.cipher c' →
      SameKeys P secret s.sessionId .server packetsPerKey c c') :
    Twin P packetsPerKey (engine.modifySession ref fun s => { s with cipher := c }) engine' where
  sessions := h.sessions
  routes := h.routes
  length_objects := by
    rw [← h.length_objects]
    exact List.length_modify ..
  object ref' := by
    have hobject := h.object ref'
    rw [session?_modifySession]
    split
    · rename_i href
      subst href
      rw [hs] at hobject ⊢
      generalize engine'.session? ref = s' at hobject
      cases hobject with
      | some htwin =>
          obtain ⟨c', secret, hlt, hkeys⟩ := htwin
          exact Option.Rel.some (.intro c' secret hlt (hc secret c' hkeys))
    · exact hobject

/-- No session of the engine has use for the packet. -/
inductive Refuses (P : Primitives) (engine : MultiClientServerEngine) (packet : Packet)
    (source : Address) : Prop
  | session : engine.sessions.get? (source, packet.sessionId) = none →
      Refuses P engine packet source
  | type : packet.messageType ≠ .data → Refuses P engine packet source
  | tag (ref : ℕ) (s : ClientSession) :
      engine.sessions.get? (source, packet.sessionId) = some ref →
      engine.session? ref = some s →
      (Cipher.decrypt P packet s.cipher).result = .error .invalidTag →
      Refuses P engine packet source

/-- **A packet that is refused** is dropped, and only a cache may change. -/
theorem handleUdpPacket_of_refuses (hH : P.LawfulHkdf) (h : Twin P packetsPerKey engine engine')
    {packet : Packet} (hp : packet.HeaderInRange) (hsize : packet.payload.length < 2 ^ 16)
    {source : Address} (hrefuses : Refuses P engine packet source)
    (answer : Bytes → Except PyError ℕ) :
    wp (handleUdpPacket P packet source answer : Program PyError (ServerEffect τ ν) _ Bool)
      engine (fun r e t => r = .ok false ∧ Twin P packetsPerKey e engine' ∧
        t.filter ServerEffect.isVisible = []) := by
  unfold handleUdpPacket
  rw [wp_read_bind]
  cases hget : engine.sessions.get? (source, packet.sessionId) with
  | none => exact ⟨rfl, h, rfl⟩
  | some ref =>
      by_cases htype : packet.messageType ≠ .data
      · simp only [if_pos htype]
        exact ⟨rfl, h, rfl⟩
      simp only [if_neg htype]
      cases hrefuses with
      | session hnone =>
          rw [hnone] at hget
          cases hget
      | type hne => exact absurd hne htype
      | tag ref' s hsome hs htag =>
          rw [hsome] at hget
          obtain rfl := Option.some.inj hget
          rw [deref_of_session? hs]
          split
          · exact ⟨rfl, h, rfl⟩
          rw [wp_bind, wp_attempt, onCipher, wp_zoom, wp, htag]
          refine ⟨rfl, h.putCipher hs ?_, ?_⟩
          · rintro secret c' ⟨⟨log, hder⟩, hder'⟩
            exact ⟨⟨_, (decrypt_spec hH hder hp hsize).1⟩, hder'⟩
          · show (List.map _ _ ++ []).filter ServerEffect.isVisible = []
            rw [List.append_nil]
            exact filter_isVisible_calls _

end twin

end MultiClientServerEngine

/-! ## The registry -/

/-- The session of a hello that is accepted as new has a derived cipher. -/
theorem ClientRegistry.accept_session {τ : Type} {P : Primitives} (hH : P.LawfulHkdf)
    {packet : Packet} (hp : packet.Encodable) (source : Address) (entropy : ℕ → ServerEntropy)
    (registry : ClientRegistry) :
    wp (accept P packet source entropy : Program PyError (ServerEffect τ Acceptance) _ _) registry
      (fun r registry' _ => registry'.packetsPerKey = registry.packetsPerKey ∧
        ∀ accepted, r = .ok (some accepted) → accepted.isNew = true →
          accepted.session.Twin P registry.packetsPerKey accepted.session) := by
  refine wp_mono (accept_spec hH hp source entropy registry) ?_
  intro r registry' t hends
  cases hends with
  | unknown _ => exact ⟨rfl, nofun⟩
  | cached accepted _ =>
      refine ⟨rfl, fun accepted' h hnew => ?_⟩
      obtain rfl := Option.some.inj (Except.ok.inj h)
      cases hnew
  | fresh identity response secret cipher calls accepted _ hder haccepted =>
      refine ⟨rfl, fun accepted' h _ => ?_⟩
      obtain rfl := Option.some.inj (Except.ok.inj h)
      subst haccepted
      exact .intro cipher secret hp.1 ⟨hder, hder⟩

namespace MultiClientServer

variable {τ : Type} {P : Primitives} {packetsPerKey : ℕ}

/-- Two servers that differ in the caches of the ciphers of their session objects only. -/
structure Twin (P : Primitives) (packetsPerKey : ℕ) (server server' : MultiClientServer) :
    Prop where
  registry : server.registry = server'.registry
  packetsPerKey_eq : server.registry.packetsPerKey = packetsPerKey
  engine : server.engine.Twin P packetsPerKey server'.engine

/-- A new server is a twin of itself. -/
theorem twin_new (registry : ClientRegistry) :
    Twin P registry.packetsPerKey (new registry) (new registry) :=
  ⟨rfl, rfl, MultiClientServerEngine.twin_new⟩

section twin

variable {server server' : MultiClientServer}

/-- Calls of the data plane. -/
theorem onEngine_like {α : Type} (h : server.Twin P packetsPerKey server')
    {m m' : Program PyError (ServerEffect τ Acceptance) MultiClientServerEngine α}
    (hm : Like (MultiClientServerEngine.Twin P packetsPerKey) ServerEffect.isVisible
      (m server.engine) (m' server'.engine)) :
    Like (Twin P packetsPerKey) ServerEffect.isVisible (onEngine m server)
      (onEngine m' server') :=
  Like.zoom hm fun _ _ he => ⟨h.registry, h.packetsPerKey_eq, he⟩

/-- The TUN half does not depend on the caches. -/
theorem forwardFromTun_like (hH : P.LawfulHkdf) (h : server.Twin P packetsPerKey server')
    (input : ServerInput) :
    Like (Twin P packetsPerKey) ServerEffect.isVisible
      ((forwardFromTun P input : Program PyError (ServerEffect τ Acceptance) _ ℕ) server)
      ((forwardFromTun P input : Program PyError (ServerEffect τ Acceptance) _ ℕ) server') := by
  unfold forwardFromTun
  cases input.tunRead with
  | none => exact Like.pure h 0
  | some packet =>
      refine Like.bind (Like.ofExcept h packet) fun payload _ _ ht => ?_
      refine Like.bind (onEngine_like ht ?_) fun _ _ _ ht => Like.pure ht _
      exact MultiClientServerEngine.handleTunPacket_like hH ht.engine payload _

/-- What `run_once` does with a packet does not depend on the caches. -/
theorem handlePacket_like (hH : P.LawfulHkdf) (h : server.Twin P packetsPerKey server')
    {packet : Packet} (hp : packet.Encodable) (source : Address) (input : ServerInput) :
    Like (Twin P packetsPerKey) ServerEffect.isVisible
      ((handlePacket P packet source input : Program PyError (ServerEffect τ Acceptance) _ ℕ)
        server)
      ((handlePacket P packet source input : Program PyError (ServerEffect τ Acceptance) _ ℕ)
        server') := by
  have hsize := hp.length_payload_lt
  have haccept := ClientRegistry.accept_session (τ := τ) hH hp source input.entropy
    server.registry
  obtain ⟨hkeep, hsession⟩ := haccept
  -- the registries are the same, so they answer the same
  have hanswer : Like (Twin P packetsPerKey) ServerEffect.isVisible
      ((onRegistry (ClientRegistry.accept P packet source input.entropy) :
        Program PyError (ServerEffect τ Acceptance) _ _) server)
      ((onRegistry (ClientRegistry.accept P packet source input.entropy) :
        Program PyError (ServerEffect τ Acceptance) _ _) server') := by
    refine ⟨?_, ⟨?_, ?_, h.engine⟩, ?_⟩
    · exact congrArg (fun r => (ClientRegistry.accept P packet source input.entropy r).result)
        h.registry
    · exact congrArg (fun r => (ClientRegistry.accept P packet source input.entropy r).state)
        h.registry
    · exact hkeep.trans h.packetsPerKey_eq
    · exact congrArg (fun r => ((ClientRegistry.accept P packet source input.entropy r).trace.map
        id).filter ServerEffect.isVisible) h.registry
  unfold handlePacket
  refine Like.bind hanswer fun answer t hresult ht => ?_
  cases answer with
  | none =>
      refine Like.bind (onEngine_like ht ?_) fun _ _ _ ht => Like.pure ht _
      exact MultiClientServerEngine.handleUdpPacket_like hH ht.engine ⟨hp.1, hp.2.1⟩ hsize source
        input.tunWrite
  | some accepted =>
      refine Like.bind (Like.zoom (transportSend_like ht _ _ _ _) fun _ _ ht => ht) ?_
      intro _ t _ ht
      by_cases hnew : accepted.isNew = true
      · simp only [if_pos hnew]
        refine Like.bind (onEngine_like ht ?_) fun _ _ _ ht => Like.pure ht 0
        apply MultiClientServerEngine.replaceSession_like ht.engine
        rw [← h.packetsPerKey_eq]
        exact hsession accepted hresult hnew
      · simp only [if_neg hnew]
        exact Like.pure ht 0

/-- The UDP half does not depend on the caches. -/
theorem forwardFromUdp_like (hH : P.LawfulHkdf) (h : server.Twin P packetsPerKey server')
    (input : ServerInput) :
    Like (Twin P packetsPerKey) ServerEffect.isVisible
      ((forwardFromUdp P input : Program PyError (ServerEffect τ Acceptance) _ ℕ) server)
      ((forwardFromUdp P input : Program PyError (ServerEffect τ Acceptance) _ ℕ) server') := by
  unfold forwardFromUdp
  cases input.udpReceive with
  | none => exact Like.pure h 0
  | some arrival =>
      rcases arrival with e | ⟨datagram, source⟩
      · cases e <;> exact ⟨rfl, h, rfl⟩
      have hreceive : Like (Twin P packetsPerKey) ServerEffect.isVisible
          ((lift .effect (transportReceive (.ok (datagram, source))) :
            Program PyError (ServerEffect τ Acceptance) _ _) server)
          ((lift .effect (transportReceive (.ok (datagram, source))) :
            Program PyError (ServerEffect τ Acceptance) _ _) server') :=
        Like.zoom (transportReceive_like h _) fun _ _ ht => ht
      refine Like.bind (Like.attempt hreceive) fun r t hresult ht => ?_
      rcases r with e | ⟨packet, source'⟩
      · cases e <;> first | exact Like.pure ht 0 | exact Like.raise ht _
      · have hencodable := encodable_of_transportReceive (Except.ok.inj hresult)
        exact handlePacket_like hH ht hencodable source' input

/-- **An iteration does not depend on the caches.** -/
theorem runOnce_like (hH : P.LawfulHkdf) (h : server.Twin P packetsPerKey server')
    (input : ServerInput) (timeout : Option τ) :
    Like (Twin P packetsPerKey) ServerEffect.isVisible (runOnce P input timeout server)
      (runOnce P input timeout server') := by
  unfold runOnce
  refine Like.bind (Like.emit h _) fun _ _ _ h₁ => ?_
  refine Like.bind (forwardFromTun_like hH h₁ input) fun _ _ _ h₂ => ?_
  exact Like.bind (forwardFromUdp_like hH h₂ input) fun _ _ _ h₃ => Like.pure h₃ _

/-! ### Datagrams without effect -/

/-- The server has no use for the datagram: it is no packet, or a hello that is not recorded and
that no identity has sent, or a packet that no session has use for. -/
inductive Unauthenticated (P : Primitives) (server : MultiClientServer)
    (entropy : ℕ → ServerEntropy) (data : Bytes) (source : Address) : Prop
  | undecodable (e : PyError) : Packet.decode data = .error e →
      Unauthenticated P server entropy data source
  | hello (packet : Packet) : Packet.decode data = .ok packet →
      packet.messageType = .clientHello →
      server.registry.acceptedHellos.get? (fingerprint P packet) = none →
      acceptedBy P packet server.registry.serverPrivateKey entropy 0 server.registry.clients
        = none →
      Unauthenticated P server entropy data source
  | packet (packet : Packet) : Packet.decode data = .ok packet →
      packet.messageType ≠ .clientHello → server.engine.Refuses P packet source →
      Unauthenticated P server entropy data source

/-- The registry does not know such a packet, and no session has use for it. -/
theorem Unauthenticated.of_decode {entropy : ℕ → ServerEntropy} {data : Bytes} {source : Address}
    (h : Unauthenticated P server entropy data source) {packet : Packet}
    (hdecode : Packet.decode data = .ok packet) :
    server.registry.reception P packet entropy = .unknown ∧
      server.engine.Refuses P packet source := by
  unfold ClientRegistry.reception
  cases h with
  | undecodable e herror =>
      rw [hdecode] at herror
      cases herror
  | hello packet' hdecode' htype hget haccepted =>
      rw [hdecode] at hdecode'
      obtain rfl := Except.ok.inj hdecode'
      rw [if_neg (not_not.2 htype), hget, haccepted]
      refine ⟨rfl, .type ?_⟩
      rw [htype]
      exact nofun
  | packet packet' hdecode' htype hrefuses =>
      rw [hdecode] at hdecode'
      obtain rfl := Except.ok.inj hdecode'
      rw [if_pos htype]
      exact ⟨rfl, hrefuses⟩

/-- **A datagram without use** is dropped, and only a cache may change. -/
theorem forwardFromUdp_of_unauthenticated (hH : P.LawfulHkdf)
    (h : server.Twin P packetsPerKey server') {input : ServerInput} {datagram : Bytes}
    {source : Address} (hreceive : input.udpReceive = some (.ok (datagram, source)))
    (hhidden : Unauthenticated P server input.entropy (datagram.take maxUdpDatagramSize) source) :
    wp (forwardFromUdp P input : Program PyError (ServerEffect τ Acceptance) _ ℕ) server
      (fun r t trace => r = .ok 0 ∧ t.Twin P packetsPerKey server' ∧
        trace.filter ServerEffect.isVisible = []) := by
  unfold forwardFromUdp
  rw [hreceive]
  simp only
  rw [wp_bind, wp_attempt, wp_lift]
  refine wp_mono (transportReceive_spec datagram source server) ?_
  rintro r t trace ⟨rfl, rfl, rfl⟩
  cases hdecode : Packet.decode (datagram.take maxUdpDatagramSize) with
  | error e =>
      obtain ⟨message, rfl⟩ := Packet.decode_error hdecode
      exact ⟨rfl, h, rfl⟩
  | ok packet =>
      have hp := Packet.encodable_of_decode (List.length_take_le _ _) hdecode
      have hsize := hp.length_payload_lt
      obtain ⟨hunknown, hrefuses⟩ := hhidden.of_decode hdecode
      show wp (handlePacket P packet source input) t _
      unfold handlePacket
      rw [wp_bind, onRegistry, wp_zoom]
      refine wp_mono (ClientRegistry.accept_spec hH hp source input.entropy t.registry) ?_
      intro r registry trace hends
      cases hends with
      | cached accepted hcached => simp [hunknown] at hcached
      | fresh _ _ _ _ _ _ hfresh _ _ => simp [hunknown] at hfresh
      | unknown _ =>
          simp only
          rw [wp_bind_pure, onEngine, wp_zoom]
          refine wp_mono (MultiClientServerEngine.handleUdpPacket_of_refuses hH h.engine
            ⟨hp.1, hp.2.1⟩ hsize hrefuses input.tunWrite) ?_
          rintro r engine trace ⟨rfl, htwin, htrace⟩
          refine ⟨rfl, ⟨h.registry, h.packetsPerKey_eq, htwin⟩, ?_⟩
          show (trace.map id).filter ServerEffect.isVisible = []
          rw [List.map_id]
          exact htrace

/-- An iteration with a datagram that the server has no use for when it reads it: the datagram
may be erased, and the whole iteration left out when nothing else happens in it. -/
inductive Hides (P : Primitives) (server : MultiClientServer) :
    ServerInput × Option τ → Option (ServerInput × Option τ) → Prop
  | erased (input : ServerInput) (timeout : Option τ) (datagram : Bytes) (source : Address) :
      input.udpReceive = some (.ok (datagram, source)) →
      Unauthenticated P (forwardFromTun P input server :
          Outcome PyError (ServerEffect τ Acceptance) _ ℕ).state input.entropy
        (datagram.take maxUdpDatagramSize) source →
      Hides P server (input, timeout) (some ({ input with udpReceive := none }, timeout))
  | leftOut (input : ServerInput) (timeout : Option τ) (datagram : Bytes) (source : Address) :
      input.udpReceive = some (.ok (datagram, source)) →
      Unauthenticated P server input.entropy (datagram.take maxUdpDatagramSize) source →
      input.tunRead = none → Hides P server (input, timeout) none

/-- **An erased datagram.** -/
theorem runOnce_erased (hH : P.LawfulHkdf) (h : server.Twin P packetsPerKey server')
    {input : ServerInput} {datagram : Bytes} {source : Address}
    (hreceive : input.udpReceive = some (.ok (datagram, source)))
    (hhidden : Unauthenticated P (forwardFromTun P input server :
        Outcome PyError (ServerEffect τ Acceptance) _ ℕ).state input.entropy
      (datagram.take maxUdpDatagramSize) source)
    (timeout : Option τ) :
    Like (Twin P packetsPerKey) ServerEffect.isVisible (runOnce P input timeout server)
      (runOnce P { input with udpReceive := none } timeout server') := by
  unfold runOnce
  refine Like.bind (Like.emit h _) fun _ _ _ h₁ => ?_
  refine Like.bind (forwardFromTun_like hH h₁ input) fun _ t _ h₂ => ?_
  obtain ⟨hresult, hstate, htrace⟩ :=
    forwardFromUdp_of_unauthenticated (τ := τ) hH h₂ hreceive hhidden
  have hudp : Like (Twin P packetsPerKey) ServerEffect.isVisible
      ((forwardFromUdp P input : Program PyError (ServerEffect τ Acceptance) _ ℕ) _)
      ((forwardFromUdp P { input with udpReceive := none } :
        Program PyError (ServerEffect τ Acceptance) _ ℕ) t) := ⟨hresult, hstate, htrace⟩
  exact Like.bind hudp fun _ _ _ h₃ => Like.pure h₃ _

/-- **An iteration that is left out.** -/
theorem runOnce_leftOut (hH : P.LawfulHkdf) (h : server.Twin P packetsPerKey server')
    {input : ServerInput} {datagram : Bytes} {source : Address}
    (hreceive : input.udpReceive = some (.ok (datagram, source)))
    (hhidden : Unauthenticated P server input.entropy (datagram.take maxUdpDatagramSize) source)
    (htun : input.tunRead = none) (timeout : Option τ) :
    wp (runOnce P input timeout) server (fun r t trace => (∃ n, r = .ok n) ∧
      t.Twin P packetsPerKey server' ∧ trace.filter ServerEffect.isVisible = []) := by
  unfold runOnce
  rw [wp_emit_bind, forwardFromTun, htun]
  simp only
  rw [wp_pure_bind, wp_bind_pure]
  refine wp_mono (forwardFromUdp_of_unauthenticated hH h hreceive hhidden) ?_
  rintro r t trace ⟨rfl, htwin, htrace⟩
  refine ⟨⟨_, rfl⟩, htwin, ?_⟩
  rw [List.filter_cons_of_neg (by simp [ServerEffect.isVisible, Effect.isVisible])]
  exact htrace

/-- **Deleted datagrams cannot be seen.** The run ends with the same result, after the same
writes, sends and notes, and only the caches of the ciphers differ in the end. -/
theorem steps_like (hH : P.LawfulHkdf) (registry : ClientRegistry)
    {inputs inputs' : List (ServerInput × Option τ)}
    (h : Thinned (fun x => runOnce P x.1 x.2) (Hides P) (new registry) inputs inputs') :
    Like (Twin P registry.packetsPerKey) ServerEffect.isVisible
      (steps (fun x => runOnce P x.1 x.2) inputs (new registry))
      (steps (fun x => runOnce P x.1 x.2) inputs' (new registry)) := by
  refine h.alike ?_ ?_ ?_ (twin_new registry)
  · exact fun _ _ x hs => runOnce_like hH hs x.1 x.2
  · intro s s' x y hs hhides
    cases hhides with
    | erased input timeout datagram source hreceive hhidden =>
        exact runOnce_erased hH hs hreceive hhidden timeout
  · intro s s' x hs hhides
    cases hhides with
    | leftOut input timeout datagram source hreceive hhidden htun =>
        exact runOnce_leftOut hH hs hreceive hhidden htun timeout

end twin

end MultiClientServer

/-! ## Both kinds of endpoints -/

section endpoints

variable {τ : Type} {P : Primitives}

/-- Two runs of a point-to-point engine cannot be told apart. -/
structure TunnelEngine.Indistinct {α : Type}
    (o o' : Outcome PyError (Effect τ) (TunnelEngine τ) α) : Prop where
  result : o.result = o'.result
  writes : writes o.trace = MatfVpn.writes o'.trace
  sends : sends o.trace = MatfVpn.sends o'.trace
  state : o.state.withoutCipher = o'.state.withoutCipher

/-- Two runs of a server cannot be told apart. -/
structure MultiClientServer.Indistinct {α : Type}
    (o o' : Outcome PyError (ServerEffect τ Acceptance) MultiClientServer α) : Prop where
  result : o.result = o'.result
  writes : writes (effects o.trace) = MatfVpn.writes (effects o'.trace)
  sends : sends (effects o.trace) = MatfVpn.sends (effects o'.trace)
  registry : o.state.registry = o'.state.registry
  sessions : o.state.engine.sessions = o'.state.engine.sessions
  routes : o.state.engine.routes = o'.state.engine.routes
  objects : o.state.engine.objects.map ClientSession.withoutCipher
    = o'.state.engine.objects.map ClientSession.withoutCipher

/-- What a server sends and writes can be seen. -/
theorem effects_filter (t : ServerTrace τ) :
    effects (t.filter ServerEffect.isVisible) = (effects t).filter Effect.isVisible := by
  rw [effects, effects, List.filterMap_filter, List.filter_filterMap]
  apply List.filterMap_congr
  intro e _
  cases e with
  | effect e => rfl
  | deliver ref packet => rfl
  | note a => rfl

/-- **Unauthenticated datagrams are invisible.** Whatever datagrams without use are deleted from
a run of a point-to-point engine or of a new server, the run cannot be told apart. -/
theorem hidden_datagrams [Zero τ] [Add τ] [Sub τ] [LT τ] [LE τ] [DecidableEq τ] [DecidableLT τ]
    [DecidableLE τ] (hH : P.LawfulHkdf) :
    (∀ (engine : TunnelEngine τ) (log : List HkdfCall) (secret : Bytes) (sessionId : ℕ)
      (role : EndpointRole) (packetsPerKey : ℕ)
      (inputs inputs' : List (IterationInput τ × Option τ)),
      engine.Uses P log secret sessionId role packetsPerKey →
      Thinned (fun x => TunnelEngine.runOnce P x.1 x.2) (TunnelEngine.Hides P) engine inputs
        inputs' →
      TunnelEngine.Indistinct
        (steps (fun x => TunnelEngine.runOnce P x.1 x.2) inputs engine)
        (steps (fun x => TunnelEngine.runOnce P x.1 x.2) inputs' engine)) ∧
    (∀ (registry : ClientRegistry) (inputs inputs' : List (ServerInput × Option τ)),
      Thinned (fun x => MultiClientServer.runOnce P x.1 x.2) (MultiClientServer.Hides P)
        (.new registry) inputs inputs' →
      MultiClientServer.Indistinct
        (steps (fun x => MultiClientServer.runOnce P x.1 x.2) inputs (.new registry))
        (steps (fun x => MultiClientServer.runOnce P x.1 x.2) inputs' (.new registry))) := by
  constructor
  · intro engine log secret sessionId role packetsPerKey inputs inputs' huses h
    obtain ⟨hresult, htwin, htrace⟩ := TunnelEngine.steps_like hH huses h
    refine ⟨hresult, ?_, ?_, htwin.same⟩
    · rw [← writes_filter, htrace, writes_filter]
    · rw [← sends_filter, htrace, sends_filter]
  · intro registry inputs inputs' h
    obtain ⟨hresult, htwin, htrace⟩ := MultiClientServer.steps_like hH registry h
    refine ⟨hresult, ?_, ?_, htwin.registry, htwin.engine.sessions, htwin.engine.routes,
      htwin.engine.withoutCipher⟩
    · rw [← writes_filter, ← effects_filter, htrace, effects_filter, writes_filter]
    · rw [← sends_filter, ← effects_filter, htrace, effects_filter, sends_filter]

end endpoints

/-! ## Sample runs -/

/-- A data packet of a session with a wrong tag. -/
def sampleForged (sessionId sequenceNumber : ℕ) : Packet :=
  ⟨.data, sessionId, sequenceNumber, List.replicate 20 0⟩

/-- The datagram of such a packet. -/
def sampleForgedDatagram (sessionId sequenceNumber : ℕ) : Bytes :=
  (sampleForged sessionId sequenceNumber).encode.toOption.getD []

/-- The sample server of a tunnel receives a forged datagram of a far epoch and one of the
client. -/
def sampleForgedInputs : List (IterationInput ℕ × Option ℕ) :=
  let udp data : IterationInput ℕ × Option ℕ :=
    ({ idleInput with udpReceive := some (.ok (data, sampleAddress .client)) }, none)
  [udp (sampleForgedDatagram 7 1000000), udp (sampleDatagram 0 [69, 1])]

/-- The sample server of several clients receives a hello, a forged datagram and one of the
client. -/
def sampleForgedArrivals : List (ServerInput × Option ℕ) :=
  [(sampleArrival (sampleHelloData 0) (sampleSource 0), none),
    (sampleArrival (sampleForgedDatagram 7 1000000) (sampleSource 0), none),
    (sampleArrival sampleClientDatagram (sampleSource 0), none)]

/-- The sample tunnel has no use for the forged datagram. -/
theorem sampleForged_unauthenticated : TunnelEngine.Unauthenticated sample
    (sampleTunnel.engine .server) (sampleForgedDatagram 7 1000000) (sampleAddress .client) :=
  .tag (sampleForged 7 1000000) ((sampleTunnel.engine .server).cipher.get (by decide +kernel))
    (by decide +kernel) (Option.some_get _).symm (by decide +kernel)

/-- The sample server with the session of the sample client. -/
def sampleInstalled : MultiClientServer :=
  (MultiClientServer.runOnce sample (sampleArrival (sampleHelloData 0) (sampleSource 0))
    (none : Option ℕ) (.new sampleRegistry)).state

/-- The sample server has no use for the forged datagram. -/
theorem sampleForged_refused : MultiClientServer.Unauthenticated sample sampleInstalled
    (fun _ => sampleServerEntropy) (sampleForgedDatagram 7 1000000) (sampleSource 0) :=
  .packet (sampleForged 7 1000000) (by decide +kernel) (by decide)
    (.tag 0 ((sampleInstalled.engine.session? 0).get (by decide +kernel)) (by decide +kernel)
      (Option.some_get _).symm (by decide +kernel))

theorem hidden_datagrams_sample :
    TunnelEngine.Indistinct
      (steps (fun x => TunnelEngine.runOnce sample x.1 x.2) sampleForgedInputs
        (sampleTunnel.engine .server))
      (steps (fun x => TunnelEngine.runOnce sample x.1 x.2) (sampleForgedInputs.eraseIdx 0)
        (sampleTunnel.engine .server)) ∧
    MultiClientServer.Indistinct
      (steps (fun x => MultiClientServer.runOnce sample x.1 x.2) sampleForgedArrivals
        (.new sampleRegistry))
      (steps (fun x => MultiClientServer.runOnce sample x.1 x.2)
        (sampleForgedArrivals.eraseIdx 1) (.new sampleRegistry)) ∧
    writes (effects (steps (fun x => MultiClientServer.runOnce sample x.1 x.2)
      sampleForgedArrivals (.new sampleRegistry)).trace) = [sampleIpv4Packet] := by
  obtain ⟨hengine, hserver⟩ := hidden_datagrams (τ := ℕ) sample_lawfulHkdf
  obtain ⟨log, huses⟩ := ((Tunnel.sound_new sample_lawfulHkdf sampleTunnel_new) .server).sender.uses
  refine ⟨hengine _ log sampleSecret 7 .server 2 _ _ huses ?_, hserver _ _ _ ?_, by decide +kernel⟩
  · refine .drop _ (.leftOut _ _ _ (sampleAddress .client) rfl ?_ rfl (Or.inl ?_)) ?_
    · rw [show (sampleForgedDatagram 7 1000000).take maxUdpDatagramSize
        = sampleForgedDatagram 7 1000000 by decide +kernel]
      exact sampleForged_unauthenticated
    · decide +kernel
    · exact .keep _ (.nil _)
  · refine .keep _ (.drop _ (.leftOut _ _ _ (sampleSource 0) rfl ?_ rfl) (.keep _ (.nil _)))
    rw [show (sampleForgedDatagram 7 1000000).take maxUdpDatagramSize
      = sampleForgedDatagram 7 1000000 by decide +kernel]
    exact sampleForged_refused

end MatfVpn
