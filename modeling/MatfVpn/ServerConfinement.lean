/-
# Confinement of the multi-client server

Whatever reaches the process of the server, it forwards packets between the TUN device and the
configured clients only.  Nothing is assumed of the cryptography.

* `handleTunPacket_trace`, `handleUdpPacket_trace`, `accept_trace` : the effects of the calls;
* `Confines` : the invariant of the server and its trace;
* `MultiServerCli.main_confined` : every effect of the process, in every run.
-/
import MatfVpn.Lib.History
import MatfVpn.Lib.Triple
import MatfVpn.ServerProcess
import MatfVpn.SessionTable

namespace MatfVpn

open Program

/-! ## Confined effects -/

section confined

variable {τ : Type} {p : ClientIdentity → Prop} {before t : ServerTrace τ}

/-- What the server does is between the TUN device and the clients with `p`: packets are written
and sent in the sessions of hellos that were accepted before, under the tunnel address of the
client and to the source of the hello. -/
def ServerEffect.Confined (p : ClientIdentity → Prop) (before : ServerTrace τ) :
    ServerEffect τ Acceptance → Prop
  | .note a => p a.identity
  | .deliver _ packet => ∃ a ∈ freshAcceptances before, p a.identity ∧
      ipv4Source packet.payload = .ok a.identity.tunnelAddress
  | .effect (.write payload) => ∃ a ∈ freshAcceptances before, p a.identity ∧
      ipv4Source payload = .ok a.identity.tunnelAddress
  | .effect (.send plain _ destination) =>
      (plain.messageType = .data ∧ ∃ a ∈ freshAcceptances before, p a.identity ∧
        ipv4Destination plain.payload = .ok a.identity.tunnelAddress ∧
        plain.sessionId = a.hello.sessionId ∧ destination = a.source) ∨
      ∃ a ∈ acceptances before, p a.identity ∧ plain = a.response ∧ destination = a.source
  | .effect (.crypto _) | .effect (.select _) | .effect (.receive _ _) => True

/-- The clients of a weaker property. -/
theorem ServerEffect.Confined.mono {p' : ClientIdentity → Prop} (hp : ∀ i, p i → p' i)
    {e : ServerEffect τ Acceptance} (h : e.Confined p before) : e.Confined p' before := by
  cases e with
  | note a => exact hp _ h
  | deliver ref packet =>
    obtain ⟨a, ha, hclient, hsource⟩ := h
    exact ⟨a, ha, hp _ hclient, hsource⟩
  | effect e =>
    cases e with
    | write payload =>
      obtain ⟨a, ha, hclient, hsource⟩ := h
      exact ⟨a, ha, hp _ hclient, hsource⟩
    | send plain data destination =>
      rcases h with ⟨hdata, a, ha, hclient, hrest⟩ | ⟨a, ha, hclient, hrest⟩
      · exact Or.inl ⟨hdata, a, ha, hp _ hclient, hrest⟩
      · exact Or.inr ⟨a, ha, hp _ hclient, hrest⟩
    | crypto call => trivial
    | select timeout => trivial
    | receive data source => trivial

/-- Calls of the cryptography package are confined. -/
theorem each_confined_calls (h : History.Each (ServerEffect.Confined p) t)
    (calls : List CryptoCall) :
    History.Each (ServerEffect.Confined p)
      (t ++ calls.map fun call => .effect (.crypto call)) := by
  rw [History.each_append_iff]
  refine ⟨h, ?_⟩
  intro before e after heq
  obtain ⟨call, -, rfl⟩ := List.mem_map.1 (heq ▸ List.mem_append_right before List.mem_cons_self :
    e ∈ calls.map fun call => .effect (.crypto call))
  trivial

end confined

/-! ## The effects of the calls -/

/-- Calls of the cryptography package, as effects of the server. -/
abbrev cryptoEffects {τ : Type} (calls : List CryptoCall) : ServerTrace τ :=
  calls.map fun call => .effect (.crypto call)

/-- `tun_device.write` writes, whatever comes of it. -/
theorem tunWrite_trace {τ σ : Type} (payload : Bytes) (answer : Bytes → Except PyError ℕ) (s : σ) :
    wp (tunWrite payload answer : Program PyError (Effect τ) σ ℕ) s
      fun _ _ t => t = [.write payload] := by
  unfold tunWrite
  rw [wp_emit_bind, wp_ofExcept]

namespace MultiClientServerEngine

section effects

variable {τ : Type} {P : Primitives} {engine : MultiClientServerEngine}

/-- What a call of a cipher object leaves in the trace. -/
theorem onCipher_trace {α : Type} (ref : ℕ) (cipher : Cipher)
    (m : Program PyError CryptoCall Cipher α) :
    wp (onCipher ref cipher m : Program PyError (ServerEffect τ Acceptance) _ _) engine
      fun _ _ t => ∃ calls, t = cryptoEffects calls := ⟨_, rfl⟩

/-- **`handle_tun_packet`** sends nothing but the packet, in the session of its destination. -/
theorem handleTunPacket_trace (h : engine.WellFormed) (payload : Bytes)
    (failure : Option PyError) :
    wp (handleTunPacket P payload failure : Program PyError (ServerEffect τ Acceptance) _ _)
      engine fun _ _ t => ∃ calls, t = cryptoEffects calls ∨
        ∃ ref s data, engine.session? ref = some s ∧
          ipv4Destination payload = .ok s.tunnelAddress ∧
          t = cryptoEffects calls ++ [.effect (.send (nextPacket s payload) data
            s.remoteAddress)] := by
  have hnone : ∃ calls, ([] : ServerTrace τ) = cryptoEffects calls := ⟨[], rfl⟩
  unfold handleTunPacket
  cases hdestination : ipv4Destination payload with
  | error e =>
    obtain ⟨calls, hcalls⟩ := hnone
    simp only
    rw [wp_ite]
    exact ⟨fun _ => ⟨calls, Or.inl hcalls⟩, fun _ => ⟨calls, Or.inl hcalls⟩⟩
  | ok destination =>
    obtain ⟨none, hnone⟩ := hnone
    simp only
    rw [wp_read_bind]
    cases hroute : engine.routes.get? destination with
    | none => exact ⟨none, Or.inl hnone⟩
    | some ref =>
      -- a route leads to the session with its tunnel address
      obtain ⟨s, hs, haddress, -⟩ := h.of_route destination ref hroute
      simp only
      rw [deref_of_session? hs, wp_ite]
      refine ⟨fun _ => ⟨none, Or.inl hnone⟩, fun _ => ?_⟩
      rw [wp_bind]
      refine wp_mono (onCipher_trace ref s.cipher _) ?_
      rintro (e | packet) engine' t ⟨calls, rfl⟩
      · exact ⟨calls, Or.inl rfl⟩
      · simp only
        rw [wp_bind, wp_lift]
        refine wp_mono (transportSend_spec _ packet s.remoteAddress failure _) ?_
        rintro r engine'' t ⟨-, hends⟩
        cases hends with
        | sent data _ => exact ⟨calls, Or.inr ⟨ref, s, data, hs, by rw [haddress], rfl⟩⟩
        | invalid e _ => exact ⟨calls, Or.inl (List.append_nil _)⟩
        | refused e _ => exact ⟨calls, Or.inl (List.append_nil _)⟩

/-- The end of `handle_udp_packet` writes nothing but a packet from the tunnel address. -/
theorem deliver_trace (ref : ℕ) (s : ClientSession) (n : ℕ) (decrypted : Packet)
    (answer : Bytes → Except PyError ℕ) :
    wp (deliver ref s n decrypted answer : Program PyError (ServerEffect τ Acceptance) _ _) engine
      fun _ _ t => t = [] ∨ (ipv4Source decrypted.payload = .ok s.tunnelAddress ∧
        t = [.deliver ref decrypted, .effect (.write decrypted.payload)]) := by
  unfold deliver
  cases hsource : ipv4Source decrypted.payload with
  | error e =>
    simp only
    rw [wp_ite]
    exact ⟨fun _ => Or.inl rfl, fun _ => Or.inl rfl⟩
  | ok address =>
    simp only
    rw [wp_ite]
    refine ⟨fun _ => Or.inl rfl, fun haddress => ?_⟩
    rw [wp_bind, wp_ofExcept]
    cases s.replayWindow.markAuthenticated n with
    | error e => exact Or.inl rfl
    | ok window =>
      simp only
      rw [wp_update_bind, wp_emit_bind, wp_bind, wp_lift]
      refine wp_mono (tunWrite_trace decrypted.payload answer _) ?_
      rintro (e | written) engine' t rfl
      · exact Or.inr ⟨by rw [not_not.1 haddress], rfl⟩
      · simp only
        rw [wp_ite]
        exact ⟨fun _ => Or.inr ⟨by rw [not_not.1 haddress], rfl⟩,
          fun _ => Or.inr ⟨by rw [not_not.1 haddress], rfl⟩⟩

/-- **`handle_udp_packet`** writes nothing but a packet from the tunnel address of its session. -/
theorem handleUdpPacket_trace (h : engine.WellFormed) (packet : Packet) (source : Address)
    (answer : Bytes → Except PyError ℕ) :
    wp (handleUdpPacket P packet source answer : Program PyError (ServerEffect τ Acceptance) _ _)
      engine fun _ _ t => ∃ calls, t = cryptoEffects calls ∨
        ∃ ref s decrypted, engine.session? ref = some s ∧
          ipv4Source decrypted.payload = .ok s.tunnelAddress ∧
          t = cryptoEffects calls ++ [.deliver ref decrypted,
            .effect (.write decrypted.payload)] := by
  have hnone : ∃ calls, ([] : ServerTrace τ) = cryptoEffects calls := ⟨[], rfl⟩
  obtain ⟨none, hnone⟩ := hnone
  unfold handleUdpPacket
  rw [wp_read_bind]
  cases hget : engine.sessions.get? (source, packet.sessionId) with
  | none => exact ⟨none, Or.inl hnone⟩
  | some ref =>
    obtain ⟨s, hs, -, -⟩ := h.of_session _ ref hget
    simp only
    rw [wp_ite]
    refine ⟨fun _ => ⟨none, Or.inl hnone⟩, fun _ => ?_⟩
    rw [deref_of_session? hs, wp_ite]
    refine ⟨fun _ => ⟨none, Or.inl hnone⟩, fun _ => ?_⟩
    rw [wp_bind, wp_attempt]
    refine wp_mono (onCipher_trace ref s.cipher _) ?_
    rintro (e | decrypted) engine' t ⟨calls, rfl⟩
    · cases e <;> exact ⟨calls, Or.inl (List.append_nil _)⟩
    · refine wp_mono (deliver_trace ref s packet.sequenceNumber decrypted answer) ?_
      rintro r engine'' t (rfl | ⟨hsource, rfl⟩)
      · exact ⟨calls, Or.inl (List.append_nil _)⟩
      · exact ⟨calls, Or.inr ⟨ref, s, decrypted, hs, hsource, rfl⟩⟩

end effects

end MultiClientServerEngine

/-- `create_cipher` does not touch the state of its caller. -/
theorem createCipher_state {σ : Type} (P : Primitives) (secret : Bytes) (sessionId : ℤ)
    (role : EndpointRole) (packetsPerKey : ℤ) (s : σ) :
    wp (createCipher P secret sessionId role packetsPerKey) s fun _ s' _ => s' = s := by
  have hhkdf : ∀ length salt info secret,
      Stateless fun σ => (hkdf P length salt info secret : Program PyError CryptoCall σ Bytes) :=
    fun length salt info secret => (Stateless.emit _).bind fun _ => Stateless.pure _
  have hpreshared : Stateless fun σ => (PacketCipher.fromPresharedKey P secret sessionId role :
      Program PyError CryptoCall σ PacketCipher) := by
    unfold PacketCipher.fromPresharedKey
    refine Stateless.ite _ (Stateless.raise_bind _ _) ?_
    refine Stateless.ite _ (Stateless.raise_bind _ _) ?_
    refine (Stateless.ofExcept _).bind fun salt => (hhkdf _ _ _ _).bind fun keyMaterial => ?_
    cases role with
    | client => exact Stateless.ofExcept _
    | server => exact Stateless.ofExcept _
  have hcipher : Stateless fun σ => (createCipher P secret sessionId role packetsPerKey :
      Program PyError CryptoCall σ Cipher) := by
    unfold createCipher
    refine Stateless.ite _ (Stateless.raise_bind _ _) (Stateless.ite _ ?_ ?_)
    · exact hpreshared.bind fun _ => Stateless.pure _
    · exact (Stateless.ofExcept _).bind fun _ => Stateless.pure _
  exact congrArg Outcome.state (hcipher.run_eq s s)

namespace ClientRegistry

section accept

variable {τ : Type} {P : Primitives} {p : ClientIdentity → Prop} {packet : Packet}
  {source : Address} {registry : ClientRegistry}

/-- The registry accepts hellos of clients with `p` only, now and from its cache. -/
structure Admits (p : ClientIdentity → Prop) (registry : ClientRegistry) : Prop where
  clients : ∀ identity ∈ registry.clients, p identity
  cache : LruCache.Memo (fun _ accepted => p accepted.identity) registry.acceptedHellos

/-- The answer to an accepted hello belongs to the note of it. -/
structure Answers (p : ClientIdentity → Prop) (source : Address) (a : Acceptance)
    (accepted : AcceptedSession) : Prop where
  client : p a.identity
  source : a.source = source
  response : a.response = accepted.response
  session : accepted.isNew = true →
    a.isFresh = true ∧ MultiClientServer.ComesFrom accepted.session a

/-- What `accept` leaves: nothing is accepted, or a hello of a client with `p`. -/
def AcceptLeaves (p : ClientIdentity → Prop) (source : Address)
    (r : Except PyError (Option AcceptedSession)) (registry : ClientRegistry)
    (t : ServerTrace τ) : Prop :=
  registry.Admits p ∧ ∃ calls, (t = cryptoEffects calls ∧ ∀ accepted, r ≠ .ok (some accepted)) ∨
    ∃ a accepted, r = .ok (some accepted) ∧ t = cryptoEffects calls ++ [.note a] ∧
      Answers p source a accepted

/-- The loop over the identities. -/
theorem acceptFrom_trace {fingerprint : Bytes} {entropy : ℕ → ServerEntropy}
    (hadmits : registry.Admits p) {clients : List ClientIdentity}
    (hclients : ∀ identity ∈ clients, p identity) (i : ℕ) :
    wp (acceptFrom P packet source fingerprint entropy i clients :
      Program PyError (ServerEffect τ Acceptance) _ _) registry (AcceptLeaves p source) := by
  induction clients generalizing i with
  | nil => exact ⟨hadmits, [], Or.inl ⟨rfl, fun _ h => by cases h⟩⟩
  | cons identity clients ih =>
    obtain ⟨hidentity, hclients⟩ := List.forall_mem_cons.1 hclients
    unfold acceptFrom
    rw [wp_read_bind]
    cases haccept : acceptClientHello P packet registry.serverPrivateKey identity.publicKey
        (entropy i) with
    | error e =>
      simp only
      rw [wp_ite]
      exact ⟨fun _ => ih hclients (i + 1),
        fun _ => ⟨hadmits, [], Or.inl ⟨rfl, fun _ h => by cases h⟩⟩⟩
    | ok answer =>
      obtain ⟨response, secret⟩ := answer
      simp only
      rw [wp_bind, wp_lift]
      refine wp_mono (createCipher_state P secret packet.sessionId .server
        registry.packetsPerKey registry) ?_
      rintro (e | cipher) registry' t rfl
      · exact ⟨hadmits, t, Or.inl ⟨rfl, fun _ h => by cases h⟩⟩
      · simp only
        rw [wp_update_bind, wp_emit_bind, wp_pure]
        exact ⟨⟨hadmits.clients, hadmits.cache.store _ hidentity⟩, t, Or.inr
          ⟨_, _, rfl, rfl, hidentity, rfl, rfl, fun _ => ⟨rfl, rfl, rfl, rfl⟩⟩⟩

/-- **`accept`** accepts no hello but that of a client. -/
theorem accept_trace {entropy : ℕ → ServerEntropy} (hadmits : registry.Admits p) :
    wp (accept P packet source entropy : Program PyError (ServerEffect τ Acceptance) _ _)
      registry (AcceptLeaves p source) := by
  have hnothing : ∀ r : Except PyError (Option AcceptedSession),
      (∀ accepted, r ≠ .ok (some accepted)) →
        AcceptLeaves p source r registry ([] : ServerTrace τ) :=
    fun r hr => ⟨hadmits, [], Or.inl ⟨rfl, hr⟩⟩
  unfold accept
  rw [wp_ite]
  refine ⟨fun _ => hnothing _ (fun _ h => by cases h), fun _ => ?_⟩
  rw [wp_bind, wp_ofExcept]
  cases packet.encode with
  | error e => exact hnothing _ fun _ h => by cases h
  | ok data =>
    simp only
    rw [wp_read_bind]
    cases hget : registry.acceptedHellos.get? (P.sha256 data) with
    | none => exact acceptFrom_trace hadmits hadmits.clients 0
    | some cached =>
      simp only
      rw [wp_update_bind, wp_emit_bind, wp_pure]
      exact ⟨⟨hadmits.clients, hadmits.cache.touch _⟩, [], Or.inr
        ⟨_, _, rfl, rfl, hadmits.cache _ _ hget, rfl, rfl, fun hnew => by cases hnew⟩⟩

end accept

end ClientRegistry

/-! ## The invariant -/

namespace MultiClientServer

section confines

variable {τ : Type} {P : Primitives} {p : ClientIdentity → Prop} {server : MultiClientServer}
  {t t' : ServerTrace τ}

/-- The sessions of the server come from accepted hellos of clients with `p`, and everything
that it did is between the TUN device and such clients. -/
structure Confines (p : ClientIdentity → Prop) (server : MultiClientServer) (t : ServerTrace τ) :
    Prop where
  admits : server.registry.Admits p
  wellFormed : server.engine.WellFormed
  enrolled : ∀ ref s, server.engine.session? ref = some s →
    ∃ a ∈ freshAcceptances t, p a.identity ∧ ComesFrom s a
  effects : History.Each (ServerEffect.Confined p) t

theorem mem_freshAcceptances_append {a : Acceptance} (h : a ∈ freshAcceptances t) :
    a ∈ freshAcceptances (t ++ t') := by
  rw [freshAcceptances_append]
  exact List.mem_append_left _ h

/-- More effects. -/
theorem Confines.extend (h : Confines p server t)
    (heffects : History.Each (ServerEffect.Confined p) (t ++ t')) :
    Confines p server (t ++ t') where
  admits := h.admits
  wellFormed := h.wellFormed
  enrolled ref s hs := by
    obtain ⟨a, ha, hclient, hcomes⟩ := h.enrolled ref s hs
    exact ⟨a, mem_freshAcceptances_append ha, hclient, hcomes⟩
  effects := heffects

/-- One effect more. -/
theorem Confines.concat (h : Confines p server t) {e : ServerEffect τ Acceptance}
    (he : e.Confined p t) : Confines p server (t ++ [e]) :=
  h.extend (History.each_concat_iff.2 ⟨h.effects, he⟩)

/-- The same sessions. -/
theorem Confines.of_sameSessions (h : Confines p server t) {engine : MultiClientServerEngine}
    (hsame : server.engine.SameSessions engine) :
    Confines p { server with engine := engine } t where
  admits := h.admits
  wellFormed := h.wellFormed.of_sameSessions hsame
  enrolled ref s' hs' := by
    obtain ⟨s, hs, hkey, haddress⟩ := hsame.object ref s' hs'
    obtain ⟨a, ha, hclient, hsource, htunnel, hid⟩ := h.enrolled ref s hs
    obtain ⟨hremote, hsession⟩ := Prod.mk.inj hkey
    exact ⟨a, ha, hclient, hremote.trans hsource, haddress.trans htunnel, hsession.trans hid⟩
  effects := h.effects

/-- A TUN packet. -/
theorem handleTunPacket_confines (payload : Bytes) (failure : Option PyError) :
    Preserves (Confines p : _ → ServerTrace τ → Prop) (Confines p)
      (onEngine (MultiClientServerEngine.handleTunPacket P payload failure)) := by
  apply preserves_self_iff.2
  intro server t h
  unfold onEngine
  rw [wp_zoom]
  refine wp_mono (wp_and
    (MultiClientServerEngine.handleTunPacket_trace h.wellFormed payload failure)
    (preserves_self_iff.1 (MultiClientServerEngine.keeps_handleTunPacket P payload failure)
      server.engine [] (.refl _))) ?_
  rintro r engine t' ⟨⟨calls, htrace⟩, hsame⟩
  rw [List.map_id]
  have hcalls := (h.of_sameSessions hsame).extend (each_confined_calls h.effects calls)
  rcases htrace with rfl | ⟨ref, s, data, hs, hdestination, rfl⟩
  · exact hcalls
  · rw [← List.append_assoc]
    obtain ⟨a, ha, hclient, hsource, htunnel, hid⟩ := h.enrolled ref s hs
    exact hcalls.concat (Or.inl ⟨rfl, a, mem_freshAcceptances_append ha, hclient,
      by rw [← htunnel]; exact hdestination, hid, hsource⟩)

/-- A datagram of the data plane. -/
theorem handleUdpPacket_confines (packet : Packet) (source : Address)
    (answer : Bytes → Except PyError ℕ) :
    Preserves (Confines p : _ → ServerTrace τ → Prop) (Confines p)
      (onEngine (MultiClientServerEngine.handleUdpPacket P packet source answer)) := by
  apply preserves_self_iff.2
  intro server t h
  unfold onEngine
  rw [wp_zoom]
  refine wp_mono (wp_and
    (MultiClientServerEngine.handleUdpPacket_trace h.wellFormed packet source answer)
    (preserves_self_iff.1
      (MultiClientServerEngine.keeps_handleUdpPacket P packet source answer)
      server.engine [] (.refl _))) ?_
  rintro r engine t' ⟨⟨calls, htrace⟩, hsame⟩
  rw [List.map_id]
  have hcalls := (h.of_sameSessions hsame).extend (each_confined_calls h.effects calls)
  rcases htrace with rfl | ⟨ref, s, decrypted, hs, hsource, rfl⟩
  · exact hcalls
  · obtain ⟨a, ha, hclient, -, htunnel, -⟩ := h.enrolled ref s hs
    rw [htunnel] at hsource
    have hdeliver := hcalls.concat (e := .deliver ref decrypted)
      ⟨a, mem_freshAcceptances_append ha, hclient, hsource⟩
    have hwrite := hdeliver.concat (e := .effect (.write decrypted.payload))
      ⟨a, mem_freshAcceptances_append (mem_freshAcceptances_append ha), hclient, hsource⟩
    simpa only [List.append_assoc, List.singleton_append] using hwrite

/-- A new session, from an accepted hello of a client with `p`. -/
theorem replaceSession_confines {session : ClientSession} {a : Acceptance}
    (h : Confines p server t) (ha : a ∈ freshAcceptances t) (hclient : p a.identity)
    (hcomes : ComesFrom session a) :
    wp (onEngine (MultiClientServerEngine.replaceSession session) :
      Program PyError (ServerEffect τ Acceptance) _ _) server
      fun _ server' t' => Confines p server' (t ++ t') := by
  have hold : ∀ {engine : MultiClientServerEngine}, engine.WellFormed →
      (∀ ref s, engine.session? ref = some s →
        server.engine.session? ref = some s ∨ s = session) →
      Confines p { server with engine := engine } t := by
    intro engine hwell hobjects
    refine ⟨h.admits, hwell, fun ref s hs => ?_, h.effects⟩
    rcases hobjects ref s hs with hs | rfl
    · exact h.enrolled ref s hs
    · exact ⟨a, ha, hclient, hcomes⟩
  unfold onEngine
  rw [wp_zoom]
  refine wp_mono (MultiClientServerEngine.replaceSession_spec h.wellFormed session) ?_
  rintro r engine t' ⟨hends, rfl⟩
  rw [List.map_nil, List.append_nil]
  cases hends with
  | collided _ =>
    refine hold (h.wellFormed.withoutRoute _) fun ref s hs => Or.inl ?_
    rwa [MultiClientServerEngine.session?_withoutRoute] at hs
  | installed hfree =>
    refine hold (h.wellFormed.replaced hfree) fun ref s hs => ?_
    rw [MultiClientServerEngine.session?_install, ite_eq_iff] at hs
    rcases hs with ⟨-, hs⟩ | ⟨-, hs⟩
    · exact Or.inr (Option.some.inj hs).symm
    · rw [MultiClientServerEngine.session?_withoutRoute] at hs
      exact Or.inl hs

/-- The registry answers. -/
theorem accept_confines (packet : Packet) (source : Address) (entropy : ℕ → ServerEntropy) :
    Triple (Confines p)
      (onRegistry (ClientRegistry.accept P packet source entropy) :
        Program PyError (ServerEffect τ Acceptance) _ _)
      (fun r server t => Confines p server t ∧ ∀ accepted, r = some accepted →
        ∃ a ∈ acceptances t, ClientRegistry.Answers p source a accepted)
      (Confines p) := by
  intro server t h
  unfold onRegistry
  rw [wp_zoom]
  refine wp_mono (ClientRegistry.accept_trace h.admits) ?_
  rintro r registry t' ⟨hadmits, calls, htrace⟩
  rw [List.map_id]
  have hregistry : Confines p { server with registry := registry } t :=
    ⟨hadmits, h.wellFormed, h.enrolled, h.effects⟩
  have hcalls := hregistry.extend (each_confined_calls h.effects calls)
  rcases htrace with ⟨rfl, hnone⟩ | ⟨a, accepted, rfl, rfl, hanswers⟩
  · cases r with
    | error e => exact hcalls
    | ok r => exact ⟨hcalls, fun accepted hr => absurd (congrArg Except.ok hr) (hnone accepted)⟩
  · rw [← List.append_assoc]
    refine ⟨hcalls.concat hanswers.client, fun accepted' hr => ⟨a, by simp, ?_⟩⟩
    obtain rfl := Option.some.inj hr
    exact hanswers

/-- **A packet** that `transport.receive` returned. -/
theorem handlePacket_confines (packet : Packet) (source : Address) (input : ServerInput) :
    Preserves (Confines p : _ → ServerTrace τ → Prop) (Confines p)
      (handlePacket P packet source input) := by
  unfold handlePacket
  refine Triple.bind (accept_confines packet source input.entropy) fun r => ?_
  intro server t ⟨h, hanswers⟩
  cases r with
  | none =>
    exact (handleUdpPacket_confines packet source input.tunWrite).bind
      (fun _ => Preserves.pure _) server t h
  | some accepted =>
    obtain ⟨a, ha, hanswer⟩ := hanswers accepted rfl
    simp only
    rw [wp_bind, wp_lift]
    refine wp_mono (transportSend_spec accepted.response accepted.response source
      input.helloSendFailure server) ?_
    rintro r server' t' ⟨rfl, hends⟩
    rcases hends with ⟨data, -⟩ | ⟨e, -⟩ | ⟨e, -⟩
    rotate_left
    · exact (List.append_nil t).symm ▸ h
    · exact (List.append_nil t).symm ▸ h
    have hsent := h.concat (e := .effect (.send accepted.response data source))
      (Or.inr ⟨a, ha, hanswer.client, hanswer.response.symm, hanswer.source.symm⟩)
    simp only
    rw [wp_ite]
    refine ⟨fun hnew => ?_, fun _ => hsent⟩
    obtain ⟨hfresh, hcomes⟩ := hanswer.session hnew
    have hmem : a ∈ freshAcceptances (t ++ [.effect (.send accepted.response data source)]) :=
      mem_freshAcceptances_append (List.mem_filter.2 ⟨ha, hfresh⟩)
    rw [wp_bind]
    refine wp_mono (replaceSession_confines hsent hmem hanswer.client hcomes) ?_
    rintro (e | ⟨⟩) server'' t'' h''
    · rwa [List.append_assoc] at h''
    · rw [List.append_assoc] at h''
      simpa using h''

/-- The TUN half of an iteration. -/
theorem forwardFromTun_confines (input : ServerInput) :
    Preserves (Confines p : _ → ServerTrace τ → Prop) (Confines p) (forwardFromTun P input) := by
  unfold forwardFromTun
  cases input.tunRead with
  | none => exact Preserves.pure 0
  | some packet =>
    exact (Preserves.ofExcept (fun _ _ h => h) packet).bind fun payload =>
      (handleTunPacket_confines payload input.tunSendFailure).bind fun _ => Preserves.pure _

/-- The UDP half of an iteration. -/
theorem forwardFromUdp_confines (input : ServerInput) :
    Preserves (Confines p : _ → ServerTrace τ → Prop) (Confines p) (forwardFromUdp P input) := by
  unfold forwardFromUdp
  cases input.udpReceive with
  | none => exact Preserves.pure 0
  | some arrival =>
    have hreceive : Preserves (Confines p : _ → ServerTrace τ → Prop) (Confines p)
        (attempt (lift .effect (transportReceive arrival)) :
          Program PyError (ServerEffect τ Acceptance) MultiClientServer _) := by
      apply preserves_self_iff.2
      intro server t h
      rw [wp_attempt, wp_lift]
      rcases arrival with e | ⟨datagram, source⟩
      · show Confines p server (t ++ [])
        simpa using h
      · refine wp_mono (transportReceive_spec datagram source server) ?_
        rintro r server' t' ⟨rfl, rfl, -⟩
        exact h.concat trivial
    refine hreceive.bind fun r => ?_
    cases r with
    | ok received => exact handlePacket_confines received.1 received.2 input
    | error e =>
      cases e <;> first | exact Preserves.pure _ | exact Preserves.raise (fun _ _ h => h) _

/-- **One iteration.** -/
theorem runOnce_confines (input : ServerInput) (timeout : Option τ) :
    Preserves (Confines p : _ → ServerTrace τ → Prop) (Confines p) (runOnce P input timeout) := by
  unfold runOnce
  refine (Preserves.emit fun server t h => h.concat trivial).bind fun _ => ?_
  refine (forwardFromTun_confines input).bind fun _ => ?_
  exact (forwardFromUdp_confines input).bind fun _ => Preserves.pure _

/-- **Every run.** -/
theorem run_confines (inputs : List ServerInput) :
    Preserves (Confines p : _ → ServerTrace τ → Prop) (Confines p) (run P inputs) := by
  induction inputs with
  | nil => exact Preserves.pure ()
  | cons input inputs ih => exact (runOnce_confines input none).bind fun _ => ih

/-- A new server confines to the clients of its registry. -/
theorem confines_new {registry : ClientRegistry} (h : registry.acceptedHellos = .empty)
    (hclients : ∀ identity ∈ registry.clients, p identity) :
    Confines p (new registry) ([] : ServerTrace τ) where
  admits := ⟨hclients, by
    show LruCache.Memo _ registry.acceptedHellos
    rw [h]
    exact LruCache.Memo.empty _⟩
  wellFormed := MultiClientServerEngine.wellFormed_new
  enrolled ref s hs := by cases hs
  effects := History.Each.nil

end confines

end MultiClientServer

/-! ## The process -/

namespace MultiServerCli

variable {τ : Type}

/-- The identity is that of a configured client, with the key of its file, and its address is
one of the network of the TUN device, but not that of the device. -/
def Configured (config : MultiClientServerConfig) (interface : ℕ × ℕ) (files : KeyFiles)
    (identity : ClientIdentity) : Prop :=
  (∃ client ∈ config.clients, Identifies files client identity) ∧
    inNetwork interface identity.tunnelAddress.value = true ∧
    identity.tunnelAddress.value ≠ interface.1

/-- The registry that `main` loads has configured clients only. -/
theorem configured_of_loadRegistry {config : MultiClientServerConfig} {interface : ℕ × ℕ}
    (hclients : config.validateClients interface = .ok ()) {files : KeyFiles}
    {registry : ClientRegistry} (h : loadRegistry config files = .ok registry) :
    registry.acceptedHellos = .empty ∧
      ∀ identity ∈ registry.clients, Configured config interface files identity := by
  obtain ⟨privateKey, -, h⟩ := except_bind_eq_ok.1 h
  obtain ⟨identities, hidentities, h⟩ := except_bind_eq_ok.1 h
  simp only [MultiClientServerConfig.validateClients, ite_error_eq_ok, not_exists, not_and,
    not_or, not_not] at hclients
  obtain ⟨-, -, hinside, -⟩ := hclients
  unfold ClientRegistry.new at h
  split at h
  · cases h
  split at h
  · cases h
  obtain rfl := Except.ok.inj h
  refine ⟨rfl, fun identity hmem => ?_⟩
  obtain ⟨client, hclient, hidentity⟩ := exists_item_of_mapM hidentities hmem
  have hidentifies := loadIdentity_ok hidentity
  obtain ⟨hnetwork, haddress⟩ := hinside client hclient
  rw [← hidentifies.2.1] at hnetwork haddress
  exact ⟨⟨client, hclient, hidentifies⟩, hnetwork, haddress⟩

/-- What the server does besides opening, configuring and closing its devices. -/
def visible (t : List (DescriptorEffect (ServerEffect τ Acceptance))) : ServerTrace τ :=
  t.filterMap DescriptorEffect.effect?

section runs

variable {P : Primitives} {p : ClientIdentity → Prop} {registry : ClientRegistry}

/-- The loop is confined. -/
theorem serve_confined (hempty : registry.acceptedHellos = .empty)
    (hclients : ∀ identity ∈ registry.clients, p identity) (inputs : List ServerInput) :
    wp (serve P registry inputs) () fun _ _ t =>
      History.Each (ServerEffect.Confined (τ := τ) p) t := by
  unfold serve
  rw [wp_zoom]
  refine wp_mono (preserves_self_iff.1 (MultiClientServer.run_confines inputs) _ []
    (MultiClientServer.confines_new hempty hclients)) ?_
  intro r server t h
  rw [List.map_id]
  exact h.effects

/-- Nothing is visible before the loop, and the loop is confined. -/
theorem serveTunnel_confined (hempty : registry.acceptedHellos = .empty)
    (hclients : ∀ identity ∈ registry.clients, p identity) (config : MultiClientServerConfig)
    (input : ServerProcessInput τ) (tunName : String) :
    Triple (fun _ t => visible t = []) (serveTunnel P config registry input tunName)
      (fun _ _ t => History.Each (ServerEffect.Confined p) (visible t))
      (fun _ t => History.Each (ServerEffect.Confined p) (visible t)) := by
  have hconfigure := (Descriptors.configureTun_erases (σ := Unit) Descriptors.hides_effect?
    tunName config.tunAddress config.mtu input.ipAddress input.ipLink).triple
      (fun s => congrArg Outcome.trace (ofExcept_apply _ s))
      (fun t : ServerTrace τ => t = [])
  refine Triple.bind (hconfigure.mono (fun _ _ _ h => h) fun _ t h => ?_) fun _ => ?_
  · rw [visible, h]
    exact History.Each.nil
  have hserve : ∀ t t' : List _, visible t = [] → History.Each (ServerEffect.Confined p) t' →
      History.Each (ServerEffect.Confined p) (visible (τ := τ) (t ++ t'.map .effect)) := by
    intro t t' ht h
    rw [visible, List.filterMap_append, List.filterMap_map, show t.filterMap _ = [] from ht]
    show History.Each _ ([] ++ t'.filterMap some)
    rwa [List.nil_append, List.filterMap_some]
  exact Triple.lift (fun _ => serve_confined hempty hclients input.iterations)
    (fun _ t _ _ t' ht h => hserve t t' ht h) fun _ t _ _ t' ht h => hserve t t' ht h

/-- **The two `with` statements** are confined. -/
theorem openAndServe_confined (hempty : registry.acceptedHellos = .empty)
    (hclients : ∀ identity ∈ registry.clients, p identity) (config : MultiClientServerConfig)
    (input : ServerProcessInput τ) :
    History.Each (ServerEffect.Confined p)
      (visible (openAndServe P config registry input ()).trace) := by
  have hhides := @Descriptors.hides_effect? (ServerEffect τ Acceptance)
  have hstart : ∀ (_ : Unit) t, visible (τ := τ) t = [] →
      History.Each (ServerEffect.Confined p) (visible t) := by
    intro _ t h
    rw [h]
    exact History.Each.nil
  have hclose := fun d failure => (Descriptors.close_erases (σ := Unit) hhides d failure).triple
    (Descriptors.trace_raises failure) (History.Each (ServerEffect.Confined p))
  have hudp := (Descriptors.newUdpTransport_erases (σ := Unit) hhides config.bind none
    input.udp).triple (Descriptors.trace_raises _) (fun t : ServerTrace τ => t = [])
  have htun := (Descriptors.newTunDevice_erases (σ := Unit) hhides config.tunName
    input.tun).triple (fun s => congrArg Outcome.trace (ofExcept_apply _ s))
      (fun t : ServerTrace τ => t = [])
  have hopen : Triple (fun _ t => visible t = []) (openAndServe P config registry input)
      (fun _ _ t => History.Each (ServerEffect.Confined p) (visible t))
      (fun _ t => History.Each (ServerEffect.Confined p) (visible t)) :=
    Triple.within (hudp.mono (fun _ _ _ h => h) hstart) (hclose .socket input.udp.close)
      fun _ => Triple.within (htun.mono (fun _ _ _ h => h) hstart)
        (hclose .tunDevice input.tun.close) (serveTunnel_confined hempty hclients config input)
  have hend : wp (openAndServe P config registry input) () fun _ _ t =>
      History.Each (ServerEffect.Confined p) (visible t) := by
    refine wp_mono (hopen () [] rfl) ?_
    rintro (e | ⟨⟩) _ t h
    · exact h
    · exact h
  exact hend

end runs

/-- **Confinement.** Whatever the configuration file, the key files, the network, the random
generator and the cryptography give, everything that the process does is between the TUN device
and the configured clients: it writes no packet but from the address of a client that has sent
an accepted hello, and sends DATA packets for the address of such a client only, in its session
and to the source of its hello. -/
theorem main_confined (P : Primitives) (documents : Documents) (path : PosixPath)
    (files : KeyFiles) (input : ServerProcessInput τ) :
    (main P documents path files input ()).trace = [] ∨
      ∃ config interface, loadServerConfig documents path = .ok config ∧
        parseInterface? config.tunAddress = some interface ∧
        History.Each (ServerEffect.Confined (Configured config interface files))
          (visible (main P documents path files input ()).trace) := by
  cases hload : loadServerConfig documents path with
  | error e =>
    left
    unfold main
    rw [hload]
    rfl
  | ok config =>
    obtain ⟨⟨interface, hinterface, hclients⟩, -⟩ := validate_ok (loadServerConfig_ok hload)
    cases hregistry : loadRegistry config files with
    | error e =>
      left
      unfold main
      rw [hload, ofExcept_ok, pure_bind, hregistry]
      rfl
    | ok registry =>
      obtain ⟨hempty, hconfigured⟩ := configured_of_loadRegistry hclients hregistry
      refine Or.inr ⟨config, interface, rfl, hinterface, ?_⟩
      rw [main_of_loaded hload hregistry]
      exact openAndServe_confined hempty hconfigured config input

end MultiServerCli

end MatfVpn
