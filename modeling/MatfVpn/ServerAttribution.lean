/-
# Whose packets the multi-client server writes

The server with its registered clients: the clients run the handshake and encrypt any
packets they like in the sessions they have finished; everything in between belongs to an
attacker, who chooses what arrives where.

* `World.writes_attributed` : a packet that is written was encrypted by the client whose
  handshake created the session it arrived on, has the source address of that client, and is
  written once.
-/
import MatfVpn.ServerDelivery

namespace MatfVpn

open Program History

/-! ## The world -/

/-- What happens in a run: entries of the server's trace, and the calls of the clients that
returned. -/
inductive WorldEvent where
  | server (e : ServerEffect Unit Acceptance)
  | created (client : ℕ) (hello : Packet) (state : ClientHandshakeState)
  | finished (client : ℕ) (state : ClientHandshakeState) (response : Packet) (secret : Bytes)
  | encrypted (client : ℕ) (state : ClientHandshakeState) (secret : Bytes) (plain : Packet)

namespace WorldEvent

/-- The entry of the server's trace. -/
def server? : WorldEvent → Option (ServerEffect Unit Acceptance)
  | server e => some e
  | _ => none

/-- The state of a handshake that this client started. -/
def state? (client : ℕ) : WorldEvent → Option ClientHandshakeState
  | created c _ state => if c = client then some state else none
  | _ => none

/-- A session that this client finished, with its secret. -/
def session? (client : ℕ) : WorldEvent → Option (ClientHandshakeState × Bytes)
  | finished c state _ secret => if c = client then some (state, secret) else none
  | _ => none

/-- The packet that a client encrypted, with the session secret. -/
def encrypted? : WorldEvent → Option (Bytes × Packet)
  | encrypted _ _ secret plain => some (secret, plain)
  | _ => none

end WorldEvent

/-- A registry with the private keys of its clients, whose public keys are different. -/
structure Deployment (P : Primitives) where
  registry : ClientRegistry
  clientKeys : List Bytes
  acceptedHellos_eq : registry.acceptedHellos = .empty
  publicKeys : registry.clients.map ClientIdentity.publicKey = clientKeys.map P.x25519Public
  nodup_publicKeys : (registry.clients.map ClientIdentity.publicKey).Nodup

/-- One action: an iteration of the server, or a call by a client.  The client finishes any
of its handshakes and encrypts any packet in any of its sessions. -/
inductive WorldInput where
  | server (input : ServerInput)
  | create (client : ℕ) (entropy : ClientEntropy)
  | finish (client handshake : ℕ) (response : Packet)
  | encrypt (client session : ℕ) (plain : Packet)

/-- The server, whether its loop still runs, and what happened so far. -/
structure World where
  server : MultiClientServer
  running : Bool
  history : List WorldEvent

/-- The trace of the server in a history. -/
def serverTrace (history : List WorldEvent) : ServerTrace Unit :=
  history.filterMap WorldEvent.server?

/-- `create_cipher` for a client's session and one `encrypt` call of the cipher. -/
def clientEncrypt (P : Primitives) (secret : Bytes) (sessionId packetsPerKey : ℕ)
    (plain : Packet) : Except PyError Packet := do
  let cipher ← (createCipher P secret sessionId .client packetsPerKey ()).result
  (Cipher.encrypt P plain cipher).result

namespace World

/-- A client's call adds an event when it returns. -/
def clientEvent (P : Primitives) (d : Deployment P) (history : List WorldEvent) :
    WorldInput → Option WorldEvent
  | .server _ => none
  | .create client entropy =>
      match d.clientKeys[client]? with
      | none => none
      | some key =>
          match createClientHello P key (P.x25519Public d.registry.serverPrivateKey) entropy with
          | .error _ => none
          | .ok (hello, state) => some (.created client hello state)
  | .finish client handshake response =>
      match (history.filterMap (WorldEvent.state? client))[handshake]? with
      | none => none
      | some state =>
          match finishClientHandshake P state response with
          | .error _ => none
          | .ok secret => some (.finished client state response secret)
  | .encrypt client session plain =>
      match (history.filterMap (WorldEvent.session? client))[session]? with
      | none => none
      | some (state, secret) =>
          match clientEncrypt P secret state.sessionId d.registry.packetsPerKey plain with
          | .error _ => none
          | .ok _ => some (.encrypted client state secret plain)

/-- One action.  A server whose iteration raised has ended. -/
def step (P : Primitives) (d : Deployment P) (world : World) : WorldInput → World
  | .server input =>
      if world.running then
        let o : Outcome PyError (ServerEffect Unit Acceptance) _ ℕ :=
          MultiClientServer.runOnce P input none world.server
        { server := o.state
          running := o.result.toOption.isSome
          history := world.history ++ o.trace.map .server }
      else world
  | input =>
      { world with history := world.history ++ (clientEvent P d world.history input).toList }

/-- A new server, before anything happened. -/
def new {P : Primitives} (d : Deployment P) : World := ⟨.new d.registry, true, []⟩

/-- A run of any actions. -/
def run (P : Primitives) (d : Deployment P) (inputs : List WorldInput) : World :=
  inputs.foldl (step P d) (new d)

end World

/-! ## The assumptions -/

/-- **AES-GCM is ideal.** A datagram that arrives and opens under the secret of an accepted
handshake was encrypted by a client in a session with this secret. -/
def ArrivesEncrypted (P : Primitives) (packetsPerKey : ℕ) (before : List WorldEvent) :
    WorldEvent → Prop
  | .server (.effect (.receive data _)) => ∀ a ∈ freshAcceptances (serverTrace before),
      ∀ plain ∈ openDatagram P a.sessionSecret a.hello.sessionId .client packetsPerKey data,
        ∃ e ∈ before, e.encrypted? = some (a.sessionSecret, plain)
  | _ => True

instance (P : Primitives) (packetsPerKey : ℕ) (before : List WorldEvent) (e : WorldEvent) :
    Decidable (ArrivesEncrypted P packetsPerKey before e) :=
  match e with
  | .server (.effect (.receive _ _)) =>
      inferInstanceAs (Decidable (∀ a ∈ freshAcceptances (serverTrace before),
        ∀ plain ∈ openDatagram _ _ _ _ _ _, ∃ e ∈ before, WorldEvent.encrypted? e = some _))
  | .server (.effect (.crypto _)) | .server (.effect (.select _))
  | .server (.effect (.send ..)) | .server (.effect (.write _)) | .server (.note _)
  | .server (.deliver ..) | .created .. | .finished .. | .encrypted .. => .isTrue trivial

/-- One side's view of a handshake: the client's public key, the two hello payloads and the
session secret. -/
structure Handshake where
  clientPublic : Bytes
  clientHello : Bytes
  serverHello : Bytes
  secret : Bytes
  deriving DecidableEq

/-- The handshake that a call ends. -/
def WorldEvent.handshake? (P : Primitives) : WorldEvent → Option Handshake
  | .finished _ state response secret =>
      some ⟨P.x25519Public state.staticPrivateKey, state.clientHelloPayload, response.payload,
        secret⟩
  | .server (.note a) => a.secret.map fun secret =>
      ⟨a.identity.publicKey, a.hello.payload, a.response.payload, secret⟩
  | _ => none

/-- **Distinct handshakes have distinct secrets**, and the server takes part in each once. -/
structure DistinctSecrets (P : Primitives) (history : List WorldEvent) : Prop where
  handshakes : ∀ h ∈ history.filterMap (WorldEvent.handshake? P),
    ∀ h' ∈ history.filterMap (WorldEvent.handshake? P), h.secret = h'.secret → h = h'
  nodup : ((freshAcceptances (serverTrace history)).map Acceptance.sessionSecret).Nodup

instance (P : Primitives) (history : List WorldEvent) : Decidable (DistinctSecrets P history) :=
  decidable_of_iff (_ ∧ _) ⟨fun h => ⟨h.1, h.2⟩, fun h => ⟨h.handshakes, h.nodup⟩⟩

/-! ## The result -/

/-- The packet that the server accepts on a session was encrypted by the client whose
handshake created the session, and comes from the address configured for this client. -/
def Attributed (d : Deployment P) (before : List WorldEvent) : WorldEvent → Prop
  | .server (.deliver ref packet) => ∃ a client hello state response,
      (freshAcceptances (serverTrace before))[ref]? = some a ∧
      d.registry.clients[client]? = some a.identity ∧
      .created client hello state ∈ before ∧ hello.payload = a.hello.payload ∧
      .finished client state response a.sessionSecret ∈ before ∧
      response.payload = a.response.payload ∧
      .encrypted client state a.sessionSecret packet ∈ before ∧
      validateIpv4Packet packet.payload = .ok () ∧
      ipv4Source packet.payload = .ok a.identity.tunnelAddress
  | _ => True

/-! ## The clients -/

section clients

variable {P : Primitives} {d : Deployment P}

@[simp] theorem serverTrace_append (s t : List WorldEvent) :
    serverTrace (s ++ t) = serverTrace s ++ serverTrace t := List.filterMap_append

@[simp] theorem serverTrace_map_server (t : ServerTrace Unit) :
    serverTrace (t.map .server) = t := by
  rw [serverTrace, List.filterMap_map]
  exact List.filterMap_some

/-- The identity of a client is the one with its public key. -/
theorem Deployment.identity_of_publicKey (d : Deployment P) {client : ℕ} {key : Bytes}
    (hkey : d.clientKeys[client]? = some key) {identity : ClientIdentity}
    (hmem : identity ∈ d.registry.clients) (hpublic : P.x25519Public key = identity.publicKey) :
    d.registry.clients[client]? = some identity := by
  have hmap : (d.registry.clients.map ClientIdentity.publicKey)[client]?
      = some (P.x25519Public key) := by
    rw [d.publicKeys, List.getElem?_map, hkey]
    rfl
  rw [List.getElem?_map] at hmap
  obtain ⟨identity', hget, hpublic'⟩ := Option.map_eq_some_iff.1 hmap
  have hsame : identity' = identity := List.inj_on_of_nodup_map d.nodup_publicKeys
    (List.mem_of_getElem? hget) hmem (hpublic'.trans hpublic)
  rw [hget, hsame]

namespace World

/-- An event of a client is the return of a call with its private key, on a handshake or a
session of its own. -/
def Produced (P : Primitives) (d : Deployment P) (before : List WorldEvent) : WorldEvent → Prop
  | .server _ => True
  | .created client hello state => ∃ key entropy, d.clientKeys[client]? = some key ∧
      createClientHello P key (P.x25519Public d.registry.serverPrivateKey) entropy
        = .ok (hello, state)
  | .finished client state _ _ => ∃ hello, .created client hello state ∈ before
  | .encrypted client state secret _ => ∃ response, .finished client state response secret ∈ before

/-- A call of a client produces its event. -/
theorem produced_clientEvent {history : List WorldEvent} {input : WorldInput} {e : WorldEvent}
    (h : World.clientEvent P d history input = some e) : Produced P d history e := by
  cases input with
  | server input => cases h
  | create client entropy =>
      simp only [World.clientEvent] at h
      split at h
      · cases h
      rename_i key hkey
      split at h
      · cases h
      rename_i hello state hcreate
      obtain rfl := Option.some.inj h
      exact ⟨key, entropy, hkey, hcreate⟩
  | finish client handshake response =>
      simp only [World.clientEvent] at h
      split at h
      · cases h
      rename_i state hstate
      split at h
      · cases h
      obtain rfl := Option.some.inj h
      obtain ⟨e', he', hstate'⟩ := List.mem_filterMap.1 (List.mem_of_getElem? hstate)
      cases e' with
      | created c hello state' =>
          simp only [WorldEvent.state?] at hstate'
          split at hstate'
          · rename_i hc
            obtain rfl := Option.some.inj hstate'
            exact ⟨hello, hc ▸ he'⟩
          · cases hstate'
      | server _ => cases hstate'
      | finished _ _ _ _ => cases hstate'
      | encrypted _ _ _ _ => cases hstate'
  | encrypt client session plain =>
      simp only [World.clientEvent] at h
      split at h
      · cases h
      rename_i state secret hsession
      split at h
      · cases h
      obtain rfl := Option.some.inj h
      obtain ⟨e', he', hsession'⟩ := List.mem_filterMap.1 (List.mem_of_getElem? hsession)
      cases e' with
      | finished c state' response secret' =>
          simp only [WorldEvent.session?] at hsession'
          split at hsession'
          · rename_i hc
            obtain ⟨rfl, rfl⟩ := Prod.mk.inj (Option.some.inj hsession')
            exact ⟨response, hc ▸ he'⟩
          · cases hsession'
      | server _ => cases hsession'
      | created _ _ _ => cases hsession'
      | encrypted _ _ _ _ => cases hsession'

/-- A client's call is no entry of the server's trace. -/
theorem serverTrace_clientEvent (history : List WorldEvent) (input : WorldInput) :
    serverTrace (World.clientEvent P d history input).toList = [] := by
  cases hevent : World.clientEvent P d history input with
  | none => rfl
  | some e =>
      cases e with
      | server e =>
          cases input <;> simp only [World.clientEvent] at hevent
          · cases hevent
          all_goals
            split at hevent
            · cases hevent
            · split at hevent
              · cases hevent
              · cases hevent
      | created _ _ _ => rfl
      | finished _ _ _ _ => rfl
      | encrypted _ _ _ _ => rfl

/-- A call that was produced earlier. -/
theorem Produced.of_mem {history : List WorldEvent} (h : Each (Produced P d) history)
    {e : WorldEvent} (he : e ∈ history) :
    ∃ before, (∀ e' ∈ before, e' ∈ history) ∧ Produced P d before e := by
  obtain ⟨before, after, rfl⟩ := List.append_of_mem he
  exact ⟨before, fun e' he' => List.mem_append_left _ he', h.at⟩

/-- A session in which a packet was encrypted comes from a handshake of its client. -/
theorem encrypted_handshake {history : List WorldEvent} (h : Each (Produced P d) history)
    {client : ℕ} {state : ClientHandshakeState} {secret : Bytes} {plain : Packet}
    (he : .encrypted client state secret plain ∈ history) :
    ∃ key hello response, d.clientKeys[client]? = some key ∧
      .created client hello state ∈ history ∧ .finished client state response secret ∈ history ∧
      state.staticPrivateKey = key ∧ state.clientHelloPayload = hello.payload := by
  obtain ⟨before, hbefore, response, hfinished⟩ := Produced.of_mem h he
  have hfinished' := hbefore _ hfinished
  obtain ⟨before', hbefore', hello, hcreated⟩ := Produced.of_mem h hfinished'
  have hcreated' := hbefore' _ hcreated
  obtain ⟨-, -, key, entropy, hkey, hcreate⟩ := Produced.of_mem h hcreated'
  obtain ⟨-, -, -, -, -, hstate⟩ := createClientHello_ok hcreate
  exact ⟨key, hello, response, hkey, hcreated', hfinished', by rw [hstate], by rw [hstate]⟩

/-- The calls so far stay a client's calls when more happens. -/
theorem each_produced_server {history : List WorldEvent} (h : Each (Produced P d) history)
    (t : ServerTrace Unit) : Each (Produced P d) (history ++ t.map .server) := by
  refine each_append_iff.2 ⟨h, ?_⟩
  intro before e after ht
  have he : e ∈ t.map WorldEvent.server := ht ▸ List.mem_append_right _ List.mem_cons_self
  obtain ⟨e', -, rfl⟩ := List.mem_map.1 he
  exact trivial

end World

end clients

/-! ## The server -/

section server

variable {P : Primitives} {d : Deployment P}

/-- The assumption on the secrets holds of every part of a history. -/
theorem DistinctSecrets.of_append {s t : List WorldEvent} (h : DistinctSecrets P (s ++ t)) :
    DistinctSecrets P s where
  handshakes a ha b hb := by
    apply h.handshakes
    · rw [List.filterMap_append]
      exact List.mem_append_left _ ha
    · rw [List.filterMap_append]
      exact List.mem_append_left _ hb
  nodup := by
    have hnodup := h.nodup
    rw [serverTrace_append, freshAcceptances_append, List.map_append] at hnodup
    exact (List.nodup_append.1 hnodup).1

/-- An acceptance as new is an event of the history. -/
theorem note_mem_of_fresh {history : List WorldEvent} {a : Acceptance}
    (h : a ∈ freshAcceptances (serverTrace history)) :
    .server (.note a) ∈ history ∧ a.secret = some a.sessionSecret := by
  obtain ⟨hmem, hfresh⟩ := List.mem_filter.1 h
  obtain ⟨e, he, hnote⟩ := List.mem_filterMap.1 hmem
  obtain ⟨w, hw, hserver⟩ := List.mem_filterMap.1 he
  cases w with
  | server e' =>
      obtain rfl := Option.some.inj hserver
      cases e' with
      | note b =>
          obtain rfl := Option.some.inj hnote
          refine ⟨hw, ?_⟩
          obtain ⟨secret, hsecret⟩ := Option.isSome_iff_exists.1 hfresh
          rw [Acceptance.sessionSecret, hsecret, Option.getD_some]
      | effect _ => cases hnote
      | deliver _ _ => cases hnote
  | created _ _ _ => cases hserver
  | finished _ _ _ _ => cases hserver
  | encrypted _ _ _ _ => cases hserver

/-- **One packet.** A packet that opens under the secret of an acceptance was encrypted by
the client that the hello was accepted for. -/
theorem attributed_deliver {history : List WorldEvent}
    (hclients : Each (World.Produced P d) history)
    (hsecrets : DistinctSecrets P history) {ref : ℕ} {a : Acceptance}
    (ha : (freshAcceptances (serverTrace history))[ref]? = some a)
    (hidentity : a.identity ∈ d.registry.clients) {plain : Packet}
    (hencrypted : ∃ e ∈ history, e.encrypted? = some (a.sessionSecret, plain))
    (hsource : ipv4Source plain.payload = .ok a.identity.tunnelAddress) :
    Attributed d history (.server (.deliver ref plain)) := by
  obtain ⟨e, he, hsome⟩ := hencrypted
  cases e with
  | encrypted client state secret plain' =>
      obtain ⟨rfl, rfl⟩ := Prod.mk.inj (Option.some.inj hsome)
      obtain ⟨key, hello, response, hkey, hcreated, hfinished, hstatic, hpayload⟩ :=
        World.encrypted_handshake hclients he
      obtain ⟨hnote, hsecret⟩ := note_mem_of_fresh (List.mem_of_getElem? ha)
      -- both ends of the handshake have the same view of it
      have hserver : WorldEvent.handshake? P (.server (.note a)) = some ⟨a.identity.publicKey,
          a.hello.payload, a.response.payload, a.sessionSecret⟩ := by
        rw [WorldEvent.handshake?, hsecret, Option.map_some]
      have hview := hsecrets.handshakes _ (List.mem_filterMap.2 ⟨_, hfinished, rfl⟩) _
        (List.mem_filterMap.2 ⟨_, hnote, hserver⟩) rfl
      obtain ⟨hpublic, hhello, hresponse, -⟩ := Handshake.mk.inj hview
      refine ⟨a, client, hello, state, response, ha, ?_, hcreated, ?_, hfinished, hresponse, he,
        MultiClientServerEngine.validateIpv4Packet_of_ipv4Source hsource, hsource⟩
      · exact d.identity_of_publicKey hkey hidentity (hstatic ▸ hpublic)
      · rw [← hpayload, hhello]
  | server _ => cases hsome
  | created _ _ _ => cases hsome
  | finished _ _ _ _ => cases hsome

/-- A history that grows by entries of the server's trace that accept no packet. -/
theorem each_attributed_server {history : List WorldEvent} (h : Each (Attributed d) history)
    {t : ServerTrace Unit} (ht : delivered t = []) :
    Each (Attributed d) (history ++ t.map .server) := by
  refine each_append_iff.2 ⟨h, ?_⟩
  intro before e after hsplit
  have he : e ∈ t.map WorldEvent.server := hsplit ▸ List.mem_append_right _ List.mem_cons_self
  obtain ⟨e', he', rfl⟩ := List.mem_map.1 he
  cases e' with
  | effect _ => exact trivial
  | note _ => exact trivial
  | deliver ref packet =>
      have hnone := List.filterMap_eq_nil_iff.1 ht _ he'
      cases hnone

end server

/-! ## The invariant of the world -/

namespace World

variable {P : Primitives} {d : Deployment P}

/-- What holds of every state of the world. -/
structure Invariant (P : Primitives) (d : Deployment P) (world : World) : Prop where
  produced : Each (Produced P d) world.history
  attributed : Each (Attributed d) world.history
  writes : writes (effects (serverTrace world.history))
    = (delivered (serverTrace world.history)).map fun e => e.2.payload
  nodup : ((delivered (serverTrace world.history)).map fun e =>
    (e.1, e.2.sequenceNumber)).Nodup
  bound : ∀ ref p, (ref, p) ∈ delivered (serverTrace world.history) →
    ref < (freshAcceptances (serverTrace world.history)).length
  server : world.running = true →
    world.server.Invariant P d.registry (serverTrace world.history)
  windows : world.running = true →
    world.server.engine.Windows (delivered (serverTrace world.history))

/-- Before anything happened. -/
theorem invariant_new (d : Deployment P) : (new d).Invariant P d where
  produced := Each.nil
  attributed := Each.nil
  writes := rfl
  nodup := List.nodup_nil
  bound _ _ hmem := absurd hmem List.not_mem_nil
  server _ := MultiClientServer.invariant_new d.acceptedHellos_eq
  windows _ := by
    intro ref s hs
    simp [new, MultiClientServer.new, MultiClientServerEngine.new,
      MultiClientServerEngine.session?] at hs

/-- A call of a client keeps the invariant. -/
theorem Invariant.clientEvent {world : World} (h : world.Invariant P d) (input : WorldInput) :
    Invariant P d { world with
      history := world.history ++ (World.clientEvent P d world.history input).toList } := by
  have htrace : serverTrace (world.history ++
      (World.clientEvent P d world.history input).toList) = serverTrace world.history := by
    rw [serverTrace_append, serverTrace_clientEvent, List.append_nil]
  constructor
  · cases hevent : World.clientEvent P d world.history input with
    | none => simpa using h.produced
    | some e => exact each_concat_iff.2 ⟨h.produced, produced_clientEvent hevent⟩
  · cases hevent : World.clientEvent P d world.history input with
    | none => simpa using h.attributed
    | some e =>
        refine each_concat_iff.2 ⟨h.attributed, ?_⟩
        have hnone := serverTrace_clientEvent (d := d) world.history input
        rw [hevent] at hnone
        cases e with
        | server e => cases hnone
        | created _ _ _ => exact trivial
        | finished _ _ _ _ => exact trivial
        | encrypted _ _ _ _ => exact trivial
  · rw [htrace]
    exact h.writes
  · rw [htrace]
    exact h.nodup
  · rw [htrace]
    exact h.bound
  · rw [htrace]
    exact h.server
  · rw [htrace]
    exact h.windows

/-- The packet that an iteration writes is attributed to a client. -/
theorem Invariant.attributed_delivers {world : World} (h : world.Invariant P d)
    (hrunning : world.running = true) {t' : ServerTrace Unit} {ref : ℕ} {plain : Packet}
    (hdelivers : MultiClientServer.Delivers P world.server.registry.packetsPerKey
      (freshAcceptances (serverTrace world.history)) t' ref plain)
    (harrives : Each (ArrivesEncrypted P d.registry.packetsPerKey)
      (world.history ++ t'.map .server))
    (hsecrets : DistinctSecrets P (world.history ++ t'.map .server)) :
    Each (Attributed d) (world.history ++ t'.map .server) := by
  have hserver := h.server hrunning
  obtain ⟨a, u, data, source, v, ha, rfl, ⟨hu, hv⟩, ⟨hu', hv'⟩, hopen, hsource⟩ := hdelivers
  have hnone : delivered (u ++ .effect (.receive data source) :: v) = [] := by
    rw [delivered_append, delivered_effect, hu', hv']
    rfl
  have hfresh : ∀ w : ServerTrace Unit, acceptances w = [] → freshAcceptances
      (serverTrace (world.history ++ w.map .server))
        = freshAcceptances (serverTrace world.history) := by
    intro w hw
    rw [serverTrace_append, serverTrace_map_server, freshAcceptances_append,
      freshAcceptances, freshAcceptances, hw]
    exact List.append_nil _
  -- the datagram was encrypted before it arrived
  have hencrypted : ∃ e ∈ world.history ++ u.map .server,
      e.encrypted? = some (a.sessionSecret, plain) := by
    have harrival : ArrivesEncrypted P d.registry.packetsPerKey
        (world.history ++ u.map .server) (.server (.effect (.receive data source))) := by
      refine harrives _ _ (v.map .server ++
        [.server (.deliver ref plain), .server (.effect (.write plain.payload))]) ?_
      simp
    refine harrival a ?_ plain (hserver.packetsPerKey ▸ hopen)
    rw [hfresh u hu]
    exact List.mem_of_getElem? ha
  rw [List.map_append] at hsecrets ⊢
  rw [← List.append_assoc] at hsecrets ⊢
  have hdeliver : Attributed d
      (world.history ++ (u ++ .effect (.receive data source) :: v).map .server)
      (.server (.deliver ref plain)) := by
    refine attributed_deliver (each_produced_server h.produced _) hsecrets.of_append ?_
      (hserver.genuine a (List.mem_of_getElem? ha)).1 ?_ hsource
    · rw [hfresh _ ?_]
      · exact ha
      · rw [acceptances_append, acceptances_effect, hu, hv]
        rfl
    · obtain ⟨e, he, hsome⟩ := hencrypted
      refine ⟨e, ?_, hsome⟩
      rw [List.map_append, ← List.append_assoc]
      exact List.mem_append_left _ he
  have hbefore := each_attributed_server h.attributed hnone
  rw [List.map_cons, List.map_singleton, List.append_cons, each_concat_iff, each_concat_iff]
  exact ⟨⟨hbefore, hdeliver⟩, trivial⟩

/-- The number of a packet that an iteration accepts is new on its session object. -/
theorem nodup_delivery {packetsPerKey : ℕ} {origins : List Acceptance} {d : List (ℕ × Packet)}
    {t' : ServerTrace Unit} (h : MultiClientServer.Delivery P packetsPerKey origins d t')
    (hd : (d.map fun e => (e.1, e.2.sequenceNumber)).Nodup) :
    ((d ++ delivered t').map fun e => (e.1, e.2.sequenceNumber)).Nodup := by
  rw [List.map_append, List.nodup_append]
  refine ⟨hd, ?_, ?_⟩
  · rcases h.delivers with hnone | ⟨ref, plain, hone, -⟩
    · rw [hnone]
      exact List.nodup_nil
    · rw [hone]
      exact List.nodup_singleton _
  · intro k hk k' hk' heq
    obtain ⟨⟨ref, p⟩, hp, rfl⟩ := List.mem_map.1 hk
    obtain ⟨⟨ref', p'⟩, hp', rfl⟩ := List.mem_map.1 hk'
    obtain ⟨rfl, hnumber⟩ := Prod.mk.inj heq
    exact h.fresh ref p' hp' ⟨p, hp, congrArg Nat.cast hnumber⟩

/-- The session object of a packet that an iteration accepts exists. -/
theorem bound_delivery {packetsPerKey : ℕ} {origins : List Acceptance} {d : List (ℕ × Packet)}
    {t' : ServerTrace Unit} (h : MultiClientServer.Delivery P packetsPerKey origins d t')
    {ref : ℕ} {p : Packet} (hp : (ref, p) ∈ delivered t') : ref < origins.length := by
  rcases h.delivers with hnone | ⟨ref', plain, hone, hdelivers⟩
  · rw [hnone] at hp
    exact absurd hp List.not_mem_nil
  · rw [hone] at hp
    obtain ⟨rfl, -⟩ := Prod.mk.inj (List.mem_singleton.1 hp)
    obtain ⟨a, -, -, -, -, ha, -⟩ := hdelivers
    exact (List.getElem?_eq_some_iff.1 ha).1

/-- **One iteration of the server** keeps the invariant. -/
theorem Invariant.runOnce {world : World} (h : world.Invariant P d)
    (hrunning : world.running = true) {input : ServerInput} {r : Except PyError ℕ}
    {server' : MultiClientServer} {t' : ServerTrace Unit}
    (hends : MultiClientServer.StepEnds P (freshAcceptances (serverTrace world.history)) input
      none world.server r server' t')
    (hM : P.LawfulHmac) (hX : P.LawfulX25519)
    (harrives : Each (ArrivesEncrypted P d.registry.packetsPerKey)
      (world.history ++ t'.map .server))
    (hsecrets : DistinctSecrets P (world.history ++ t'.map .server)) :
    Invariant P d ⟨server', r.toOption.isSome, world.history ++ t'.map .server⟩ := by
  have hserver := h.server hrunning
  obtain ⟨hdelivery, hwindows⟩ := hends.delivery hserver.sound (h.windows hrunning) h.bound
  have htrace : serverTrace (world.history ++ t'.map .server)
      = serverTrace world.history ++ t' := by
    rw [serverTrace_append, serverTrace_map_server]
  constructor
  · exact each_produced_server h.produced t'
  · rcases hdelivery.delivers with hnone | ⟨ref, plain, -, hdelivers⟩
    · exact each_attributed_server h.attributed hnone
    · exact h.attributed_delivers hrunning hdelivers harrives hsecrets
  · rw [htrace, effects_append, writes_append, delivered_append, List.map_append, h.writes,
      hdelivery.writes]
  · rw [htrace, delivered_append]
    exact nodup_delivery hdelivery h.nodup
  · rw [htrace, delivered_append, freshAcceptances_append, List.length_append]
    intro ref p hp
    rcases List.mem_append.1 hp with hp | hp
    · exact Nat.lt_add_right _ (h.bound ref p hp)
    · exact Nat.lt_add_right _ (bound_delivery hdelivery hp)
  · intro hr
    rw [htrace]
    cases r with
    | error e => cases hr
    | ok n => exact hserver.step hM hX hends
  · intro hr
    rw [htrace, delivered_append]
    cases r with
    | error e => cases hr
    | ok n => exact hwindows n rfl

/-! ## The result for a run -/

/-- One more action. -/
theorem run_concat (P : Primitives) (d : Deployment P) (inputs : List WorldInput)
    (input : WorldInput) : run P d (inputs ++ [input]) = step P d (run P d inputs) input :=
  List.foldl_concat ..

/-- An action adds to the history. -/
theorem history_step (world : World) (input : WorldInput) :
    ∃ events, (step P d world input).history = world.history ++ events := by
  cases input with
  | server input =>
      rw [step]
      split
      · exact ⟨_, rfl⟩
      · exact ⟨[], (List.append_nil _).symm⟩
  | create client entropy => exact ⟨_, rfl⟩
  | finish client handshake response => exact ⟨_, rfl⟩
  | encrypt client session plain => exact ⟨_, rfl⟩

/-- **The invariant holds in every state of the world.** -/
theorem invariant_run (hA : P.LawfulAead) (hH : P.LawfulHkdf) (hM : P.LawfulHmac)
    (hX : P.LawfulX25519) {inputs : List WorldInput}
    (harrives : Each (ArrivesEncrypted P d.registry.packetsPerKey) (run P d inputs).history)
    (hsecrets : DistinctSecrets P (run P d inputs).history) :
    (run P d inputs).Invariant P d := by
  induction inputs using List.reverseRecOn with
  | nil => exact invariant_new d
  | append_singleton inputs input ih =>
      rw [run_concat] at harrives hsecrets ⊢
      obtain ⟨events, hevents⟩ := history_step (P := P) (d := d) (run P d inputs) input
      rw [hevents] at harrives hsecrets
      have hinv := ih harrives.of_append hsecrets.of_append
      rw [← hevents] at harrives hsecrets
      cases input with
      | server input =>
          rw [step] at harrives hsecrets ⊢
          split at harrives
          · rename_i hrunning
            rw [if_pos hrunning] at hsecrets ⊢
            have hends := MultiClientServer.runOnce_spec hA hH hM hX (hinv.server hrunning).sound
              input (none : Option Unit)
            exact hinv.runOnce hrunning hends hM hX harrives hsecrets
          · rename_i hended
            rw [if_neg hended]
            exact hinv
      | create client entropy => exact hinv.clientEvent (.create client entropy)
      | finish client handshake response =>
          exact hinv.clientEvent (.finish client handshake response)
      | encrypt client session plain => exact hinv.clientEvent (.encrypt client session plain)

/-- **The packets that the server writes.** Each was accepted on a session, was encrypted by
the client whose handshake created the session, and comes from the address of this client;
no two of them are the same packet of a client. -/
theorem writes_attributed (hA : P.LawfulAead) (hH : P.LawfulHkdf) (hM : P.LawfulHmac)
    (hX : P.LawfulX25519) (d : Deployment P) (inputs : List WorldInput)
    (harrives : Each (ArrivesEncrypted P d.registry.packetsPerKey) (run P d inputs).history)
    (hsecrets : DistinctSecrets P (run P d inputs).history) :
    let t := serverTrace (run P d inputs).history
    writes (effects t) = (delivered t).map (fun e => e.2.payload) ∧
      Each (Attributed d) (run P d inputs).history ∧
      ((delivered t).map fun e =>
        (secretOf (freshAcceptances t) e.1, e.2.sequenceNumber)).Nodup := by
  intro t
  have hinv := invariant_run hA hH hM hX harrives hsecrets
  refine ⟨hinv.writes, hinv.attributed, ?_⟩
  have hmap : (delivered t).map (fun e =>
      (secretOf (freshAcceptances t) e.1, e.2.sequenceNumber))
      = ((delivered t).map fun e => (e.1, e.2.sequenceNumber)).map fun k =>
        (secretOf (freshAcceptances t) k.1, k.2) := by
    rw [List.map_map]
    rfl
  rw [hmap]
  refine List.Nodup.map_on ?_ hinv.nodup
  -- different session objects have different secrets
  intro k hk k' hk' heq
  obtain ⟨⟨ref, p⟩, hp, rfl⟩ := List.mem_map.1 hk
  obtain ⟨⟨ref', p'⟩, hp', rfl⟩ := List.mem_map.1 hk'
  obtain ⟨hsecret, hnumber⟩ := Prod.mk.inj heq
  have hlt := hinv.bound ref p hp
  have hlt' := hinv.bound ref' p' hp'
  have hat : ∀ i, i < (freshAcceptances t).length →
      ((freshAcceptances t).map Acceptance.sessionSecret)[i]?
        = some (secretOf (freshAcceptances t) i) := by
    intro i hi
    rw [List.getElem?_map, secretOf, List.getElem?_eq_getElem hi]
    rfl
  have hsame : ref = ref' := by
    have hget := (hat ref hlt).trans (hsecret ▸ (hat ref' hlt').symm)
    exact (List.getElem?_inj (by rw [List.length_map]; exact hlt) hsecrets.nodup).1 hget
  rw [hsame, show p.sequenceNumber = p'.sequenceNumber from hnumber]

end World

/-! ## A sample run -/

/-- The sample server with the private keys of its clients. -/
def sampleDeployment : Deployment sample where
  registry := sampleRegistry
  clientKeys := [sampleKeys.clientPrivate, BigEndian.toBytes 32 9999999]
  acceptedHellos_eq := rfl
  publicKeys := rfl
  nodup_publicKeys := by decide +kernel

/-- A packet from the address of the first sample client to the second, without payload. -/
def sampleIpv4Packet : Bytes :=
  [69, 0, 0, 20, 0, 0, 0, 0, 64, 17, 0, 0, 10, 8, 0, 2, 10, 8, 0, 3]

/-- The secret of the sample handshake. -/
def sampleSessionSecret : Bytes := sampleAnswered.2

/-- The datagram in which the first sample client sends its packet. -/
def sampleClientDatagram : Bytes :=
  ((clientEncrypt sample sampleSessionSecret 7 0 ⟨.data, 7, 3, sampleIpv4Packet⟩).bind
    Packet.encode).toOption.get (by decide +kernel)

/-- The first client sets up its session and sends a packet, which the network delivers
twice. -/
def sampleActions : List WorldInput :=
  [.create 0 sampleClientEntropy, .server (sampleArrival (sampleHelloData 0) (sampleSource 0)),
    .finish 0 0 sampleResponse, .encrypt 0 0 ⟨.data, 7, 3, sampleIpv4Packet⟩,
    .server (sampleArrival sampleClientDatagram (sampleSource 0)),
    .server (sampleArrival sampleClientDatagram (sampleSource 0))]

theorem writes_attributed_sample :
    writes (effects (serverTrace (World.run sample sampleDeployment sampleActions).history))
      = [sampleIpv4Packet] ∧
    Each (Attributed sampleDeployment) (World.run sample sampleDeployment sampleActions).history :=
  ⟨by decide +kernel, (World.writes_attributed sample_lawfulAead sample_lawfulHkdf
    sample_lawfulHmac sample_lawfulX25519 sampleDeployment sampleActions (by decide +kernel)
    (by decide +kernel)).2.1⟩

end MatfVpn
