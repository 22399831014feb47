/-
# Delivery in the star network

Whatever the attacker does with the datagrams, the packets that come out of the TUN devices of the
star are packets that went in at the right device, each at most once.

* `Star.Invariant` : the star is a run of `World`, the server sends what it reads, and the engines
  of the clients accept what it sent in their sessions;
* `Star.written_was_read` : both directions, in every run.
-/
import MatfVpn.StarNetwork

namespace MatfVpn

open Program History

/-! ## The assumption -/

/-- The server has sent this packet, in a session with this secret. -/
def WasSent (t : ServerTrace Unit) (secret : Bytes) (packet : Packet) : Prop :=
  ∃ sent ∈ sentPackets t, sent.1.sessionSecret = secret ∧ sent.2 = packet

instance (t : ServerTrace Unit) (secret : Bytes) (packet : Packet) :
    Decidable (WasSent t secret packet) :=
  inferInstanceAs (Decidable (∃ sent ∈ sentPackets t, _))

theorem WasSent.mono {s : ServerTrace Unit} {secret : Bytes} {packet : Packet}
    (h : WasSent s secret packet) (t : ServerTrace Unit) : WasSent (s ++ t) secret packet := by
  obtain ⟨sent, hmem, hsent⟩ := h
  exact ⟨sent, sentPackets_append ▸ List.mem_append_left _ hmem, hsent⟩

/-- **AES-GCM is ideal**, in the other direction. A datagram that opens for the engine of a client
was encrypted by the server in a session with its secret. -/
def Star.ArrivesSent {τ : Type} (P : Primitives) (packetsPerKey : ℕ) (star : Star τ) :
    StarInput τ → Prop
  | .iterate i input => ∀ tunnel ∈ star.tunnels[i]?,
      ∀ packet ∈ heard? P tunnel.secret tunnel.state.sessionId packetsPerKey input,
        WasSent (serverTrace star.world.history) tunnel.secret packet
  | _ => True

instance {τ : Type} (P : Primitives) (packetsPerKey : ℕ) (star : Star τ) (input : StarInput τ) :
    Decidable (star.ArrivesSent P packetsPerKey input) :=
  match input with
  | .iterate i _ => inferInstanceAs (Decidable (∀ tunnel ∈ star.tunnels[i]?,
      ∀ packet ∈ heard? _ _ _ _ _, WasSent _ _ _))
  | .server _ | .create .. | .finish .. => .isTrue trivial

/-! ## The invariant -/

/-- The packet of an encryption, with the client and the session secret, unless it is empty. -/
def WorldEvent.sealed? : WorldEvent → Option (ℕ × Bytes × Packet)
  | encrypted client _ secret plain =>
      if plain.payload = [] then none else some (client, secret, plain)
  | _ => none

/-- The packets that the clients encrypted. -/
def sealedPackets (history : List WorldEvent) : List (ℕ × Bytes × Packet) :=
  history.filterMap WorldEvent.sealed?

@[simp] theorem sealedPackets_append (s t : List WorldEvent) :
    sealedPackets (s ++ t) = sealedPackets s ++ sealedPackets t := List.filterMap_append

variable {τ : Type} {P : Primitives} {d : Deployment P}

/-- The tunnel belongs to a session of its client, and its engine accepted what the server sent in
a session with its secret. -/
structure ClientTunnel.Sound (P : Primitives) (packetsPerKey : ℕ) (history : List WorldEvent)
    (tunnel : ClientTunnel τ) : Prop where
  belongs : tunnel.Belongs P packetsPerKey history
  accepts : ∃ accepted, ClientEnd P tunnel.secret tunnel.state.sessionId packetsPerKey tunnel.engine
    tunnel.trace accepted ∧
      ∀ packet ∈ accepted, WasSent (serverTrace history) tunnel.secret packet

theorem ClientTunnel.Sound.mono {packetsPerKey : ℕ} {history : List WorldEvent}
    {tunnel : ClientTunnel τ} (h : tunnel.Sound P packetsPerKey history)
    (more : List WorldEvent) : tunnel.Sound P packetsPerKey (history ++ more) := by
  obtain ⟨accepted, hend, hsent⟩ := h.accepts
  refine ⟨h.belongs.mono more, accepted, hend, fun packet hpacket => ?_⟩
  rw [serverTrace_append]
  exact (hsent packet hpacket).mono _

/-- What holds of every state of the star. -/
structure Star.Invariant (P : Primitives) (d : Deployment P) (star : Star τ) : Prop where
  world : ∃ actions, star.world = World.run P d actions
  relays : MultiClientServer.Relays P d.registry star.world.server star.world.running
    (serverTrace star.world.history) star.serverReads
  tunnels : ∀ tunnel ∈ star.tunnels, tunnel.Sound P d.registry.packetsPerKey star.world.history
  sealed : ((sealedPackets star.world.history).map fun e => (e.1, e.2.2.payload)).Sublist
    star.clientReads

namespace Star

/-- Before anything happened. -/
theorem invariant_new (d : Deployment P) : (new d : Star τ).Invariant P d where
  world := ⟨[], rfl⟩
  relays := MultiClientServer.relays_new d.acceptedHellos_eq
  tunnels := List.forall_mem_nil _
  sealed := List.Sublist.refl _

/-- Events of the clients, whose packets were read, and tunnels with what they accepted. -/
theorem Invariant.extend {star : Star τ} (h : star.Invariant P d) {more : List WorldEvent}
    (hworld : ∃ actions, { star.world with history := star.world.history ++ more }
      = World.run P d actions)
    (hserver : serverTrace more = []) {reads : List (ℕ × Bytes)}
    (hsealed : ((sealedPackets more).map fun e => (e.1, e.2.2.payload)).Sublist reads)
    {tunnels : List (ClientTunnel τ)} (htunnels : ∀ tunnel ∈ tunnels,
      tunnel.Sound P d.registry.packetsPerKey (star.world.history ++ more)) :
    Invariant P d { star with
      world := { star.world with history := star.world.history ++ more }
      tunnels := tunnels
      clientReads := star.clientReads ++ reads } where
  world := hworld
  relays := by
    show MultiClientServer.Relays P d.registry _ _ (serverTrace (_ ++ _)) _
    rw [serverTrace_append, hserver, List.append_nil]
    exact h.relays
  tunnels := htunnels
  sealed := by
    show ((sealedPackets (_ ++ _)).map _).Sublist _
    rw [sealedPackets_append, List.map_append]
    exact h.sealed.append hsealed

/-- One more action of the world. -/
theorem Invariant.world_step {star : Star τ} (h : star.Invariant P d) (input : WorldInput) :
    ∃ actions, World.step P d star.world input = World.run P d actions := by
  obtain ⟨actions, hactions⟩ := h.world
  exact ⟨actions ++ [input], by rw [World.run_concat, hactions]⟩

/-- A call of a client that encrypts nothing. -/
theorem Invariant.call {star : Star τ} (h : star.Invariant P d) {input : WorldInput}
    (hstep : World.step P d star.world input = { star.world with
      history := star.world.history ++ (World.clientEvent P d star.world.history input).toList })
    (hsealed : sealedPackets (World.clientEvent P d star.world.history input).toList = [])
    {tunnels : List (ClientTunnel τ)} (htunnels : ∀ tunnel ∈ tunnels,
      tunnel.Sound P d.registry.packetsPerKey (World.step P d star.world input).history) :
    Invariant P d { star with world := World.step P d star.world input, tunnels := tunnels } := by
  have hworld := h.world_step input
  rw [hstep] at hworld htunnels ⊢
  have hreads : ((sealedPackets (World.clientEvent P d star.world.history input).toList).map
      fun e => (e.1, e.2.2.payload)).Sublist [] := by
    rw [hsealed]
    exact List.Sublist.refl _
  have hnext := h.extend hworld (World.serverTrace_clientEvent _ input) hreads htunnels
  rwa [List.append_nil] at hnext

/-- The tunnels stay when more happens. -/
theorem Invariant.tunnels_step {star : Star τ} (h : star.Invariant P d) (input : WorldInput) :
    ∀ tunnel ∈ star.tunnels, tunnel.Sound P d.registry.packetsPerKey
      (World.step P d star.world input).history := by
  intro tunnel htunnel
  obtain ⟨events, hevents⟩ := World.history_step (P := P) (d := d) star.world input
  rw [hevents]
  exact (h.tunnels tunnel htunnel).mono events

/-- The start of a handshake. -/
theorem Invariant.create {star : Star τ} (h : star.Invariant P d) (client : ℕ)
    (entropy : ClientEntropy) :
    Invariant P d { star with world := World.step P d star.world (.create client entropy) } := by
  refine h.call rfl ?_ (h.tunnels_step _)
  rw [World.clientEvent]
  split
  · rfl
  split <;> rfl

section finish

variable [Zero τ] [Add τ] [LT τ] [LE τ] [DecidableEq τ] [DecidableLT τ] [DecidableLE τ]

/-- The engine of a new session. -/
theorem sound_new (hH : P.LawfulHkdf) {packetsPerKey : ℕ} {history : List WorldEvent}
    {tunnel : ClientTunnel τ}
    (hsession : (history.filterMap (WorldEvent.session? tunnel.client))[tunnel.session]?
      = some (tunnel.state, tunnel.secret))
    {remoteAddress : Address} {keepaliveInterval livenessTimeout now : τ}
    (hnew : Tunnel.newEnd P tunnel.secret tunnel.state.sessionId packetsPerKey .client
      remoteAddress keepaliveInterval livenessTimeout now = .ok tunnel.engine)
    (htrace : tunnel.trace = []) : tunnel.Sound P packetsPerKey history := by
  obtain ⟨cipher, hcipher, hengine⟩ := Tunnel.newEnd_ok hnew
  refine ⟨⟨hsession, cipher, hcipher⟩, [], ⟨(end_new hH hnew).sender.uses, ⟨?_, ?_⟩,
    List.nodup_nil, ?_⟩, List.forall_mem_nil _⟩
  · rw [hengine]
    rfl
  · rw [hengine]
    have hempty : {n : ℤ | ∃ m ∈ (heard []).accepted, n = m} = ∅ := by simp [heard]
    rw [hempty]
    exact ReplayWindow.represents_new _ _
  · rw [htrace]
    rfl

/-- The end of a handshake. -/
theorem Invariant.finish (hH : P.LawfulHkdf) {star : Star τ} (h : star.Invariant P d)
    (client handshake : ℕ) (response : Packet) (remoteAddress : Address)
    (keepaliveInterval livenessTimeout now : τ) :
    (star.finish P d client handshake response remoteAddress keepaliveInterval livenessTimeout
      now).Invariant P d := by
  have hsealed : sealedPackets (World.clientEvent P d star.world.history
      (.finish client handshake response)).toList = [] := by
    rw [World.clientEvent]
    split
    · rfl
    split <;> rfl
  have hsame := h.call rfl hsealed (h.tunnels_step (.finish client handshake response))
  unfold Star.finish
  simp only
  cases hevent : World.clientEvent P d star.world.history (.finish client handshake response) with
  | none => exact hsame
  | some e =>
  cases e with
  | server _ => exact hsame
  | created _ _ _ => exact hsame
  | encrypted _ _ _ _ => exact hsame
  | finished client' state response' secret =>
  simp only
  cases hnew : Tunnel.newEnd P secret state.sessionId d.registry.packetsPerKey .client
      remoteAddress keepaliveInterval livenessTimeout now with
  | error e => exact hsame
  | ok engine =>
  refine h.call rfl hsealed (List.forall_mem_append.2 ⟨h.tunnels_step _, ?_⟩)
  refine List.forall_mem_singleton.2 (sound_new hH ?_ hnew rfl)
  -- the session is the last one of the client
  have hhistory : (World.step P d star.world (.finish client handshake response)).history
      = star.world.history ++ [.finished client' state response' secret] :=
    congrArg (fun e => star.world.history ++ Option.toList e) hevent
  have hclient : client' = client := by
    rw [World.clientEvent] at hevent
    split at hevent
    · cases hevent
    split at hevent
    · cases hevent
    · exact (WorldEvent.finished.inj (Option.some.inj hevent)).1.symm
  rw [hhistory, List.filterMap_append]
  simp [WorldEvent.session?, hclient]

end finish

/-- **One iteration of the server.** -/
theorem Invariant.server (hA : P.LawfulAead) (hH : P.LawfulHkdf) (hM : P.LawfulHmac)
    (hX : P.LawfulX25519) {star : Star τ} (h : star.Invariant P d)
    (hrunning : star.world.running = true) (input : ServerInput) :
    Invariant P d { star with
      world := World.step P d star.world (.server input)
      serverReads := star.serverReads ++ (readPacket input.tunRead).toList } := by
  have hrelays := h.relays
  rw [hrunning] at hrelays
  have hends := MultiClientServer.runOnce_spec hA hH hM hX (hrelays.invariant rfl).sound input
    (none : Option Unit)
  have htunnels := h.tunnels_step (.server input)
  have hworld := h.world_step (.server input)
  rw [World.step, if_pos hrunning] at hworld htunnels ⊢
  refine ⟨hworld, ?_, htunnels, ?_⟩
  · show MultiClientServer.Relays P d.registry _ _ (serverTrace (_ ++ _)) _
    rw [serverTrace_append, serverTrace_map_server]
    exact hrelays.runOnce hM hX hends
  · show ((sealedPackets (_ ++ _)).map _).Sublist _
    have hnone : ∀ t : ServerTrace Unit, sealedPackets (t.map .server) = [] := by
      intro t
      rw [sealedPackets, List.filterMap_map]
      exact List.filterMap_eq_nil_iff.2 fun _ _ => rfl
    rw [sealedPackets_append, hnone, List.append_nil]
    exact h.sealed

/-- The encryptions of the packets that an engine sends. -/
theorem sealedPackets_sends (client : ℕ) (state : ClientHandshakeState) (secret : Bytes)
    (packets : List (Packet × Bytes × Address)) :
    (sealedPackets (packets.map fun sent => .encrypted client state secret sent.1)).map
        (fun e => (e.1, e.2.2.payload))
      = ((packets.map fun sent => sent.1.payload).filter (· ≠ [])).map fun payload =>
        (client, payload) := by
  induction packets with
  | nil => rfl
  | cons sent packets ih =>
    rw [List.map_cons, ← List.singleton_append, sealedPackets_append, List.map_append, ih,
      List.map_cons]
    by_cases hempty : sent.1.payload = []
    · rw [List.filter_cons_of_neg (by simpa using hempty)]
      simp [sealedPackets, WorldEvent.sealed?, hempty]
    · rw [List.filter_cons_of_pos (by simpa using hempty)]
      simp [sealedPackets, WorldEvent.sealed?, hempty]

section iterate

variable [Zero τ] [Add τ] [Sub τ] [LT τ] [LE τ] [DecidableEq τ] [DecidableLT τ]
  [DecidableLE τ]

/-- **One iteration of an engine.** -/
theorem Invariant.iterate (hA : P.LawfulAead) (hH : P.LawfulHkdf) {star : Star τ}
    (h : star.Invariant P d) {i : ℕ} {input : IterationInput τ}
    (harrives : star.ArrivesSent P d.registry.packetsPerKey (.iterate i input)) :
    (star.iterate P i input).Invariant P d := by
  unfold Star.iterate
  split
  · exact h
  rename_i tunnel htunnel
  split
  swap
  · exact h
  have hmem := List.mem_of_getElem? htunnel
  obtain ⟨hbelongs, accepted, hend, hsent⟩ := h.tunnels tunnel hmem
  have hpayloads : (sentPayloads (TunnelEngine.runOnce P input none tunnel.engine).trace).Sublist
      (readPacket input.tunRead).toList := runOnce_payloads hA hH hend.uses none
  have hmore : ClientStep P tunnel.secret tunnel.state.sessionId d.registry.packetsPerKey input
      tunnel.trace accepted (TunnelEngine.runOnce P input none tunnel.engine).state
      (TunnelEngine.runOnce P input none tunnel.engine).trace := hend.runOnce hA hH none
  simp only
  generalize TunnelEngine.runOnce P input none tunnel.engine = o at hpayloads hmore ⊢
  obtain ⟨more, hend', harrived, hdeparts⟩ := hmore
  have hserver : serverTrace ((sends o.trace).map fun sent =>
      .encrypted tunnel.client tunnel.state tunnel.secret sent.1) = [] := by
    rw [serverTrace, List.filterMap_map]
    exact List.filterMap_eq_nil_iff.2 fun _ _ => rfl
  refine h.extend ?_ hserver ?_ ?_
  · obtain ⟨actions, hactions⟩ := h.world
    rw [hactions] at hbelongs ⊢
    have hpackets : ∀ packet ∈ (sends o.trace).map Prod.fst, Departs packet :=
      List.forall_mem_map.2 hdeparts
    have hrun := World.run_encrypt hH hbelongs hpackets
    simp only [List.map_map] at hrun
    exact ⟨_, hrun.symm⟩
  · rw [sealedPackets_sends]
    exact hpayloads.map _
  · intro tunnel' htunnel'
    rcases List.mem_or_eq_of_mem_set htunnel' with hold | rfl
    · exact (h.tunnels tunnel' hold).mono _
    refine ⟨⟨(hbelongs.mono _).session, hbelongs.cipher⟩, more ++ accepted, hend', ?_⟩
    rw [serverTrace_append, hserver, List.append_nil]
    refine List.forall_mem_append.2 ⟨fun packet hpacket => ?_, hsent⟩
    exact harrives tunnel (Option.mem_def.2 htunnel) packet
      (Option.mem_def.2 (harrived packet hpacket))

/-- **The invariant holds in every state of the star.** -/
theorem invariant_run (hA : P.LawfulAead) (hH : P.LawfulHkdf) (hM : P.LawfulHmac)
    (hX : P.LawfulX25519) {inputs : List (StarInput τ)}
    (harrives : Each (fun before input =>
      (run P d before).ArrivesSent P d.registry.packetsPerKey input) inputs) :
    (run P d inputs).Invariant P d := by
  induction inputs using List.reverseRecOn with
  | nil => exact invariant_new d
  | append_singleton inputs input ih =>
    obtain ⟨harrives, hinput⟩ := each_concat_iff.1 harrives
    have hinv := ih harrives
    have hrun : run P d (inputs ++ [input]) = step P d (run P d inputs) input :=
      List.foldl_concat ..
    rw [hrun]
    cases input with
    | server input =>
      rw [step]
      split
      · rename_i hrunning
        exact hinv.server hA hH hM hX hrunning input
      · exact hinv
    | create client entropy => exact hinv.create client entropy
    | finish client handshake response remoteAddress keepaliveInterval livenessTimeout now =>
      exact hinv.finish hH client handshake response remoteAddress keepaliveInterval
        livenessTimeout now
    | iterate i input => exact hinv.iterate hA hH hinput

end iterate

end Star

/-! ## The clients of the sessions -/

/-- The events of the clients are the returns of their calls, in every run. -/
theorem World.produced_run (actions : List WorldInput) :
    Each (World.Produced P d) (World.run P d actions).history := by
  induction actions using List.reverseRecOn with
  | nil => exact Each.nil
  | append_singleton actions input ih =>
    rw [World.run_concat]
    have hcall : Each (World.Produced P d) ((World.run P d actions).history ++
        (World.clientEvent P d (World.run P d actions).history input).toList) := by
      cases hevent : World.clientEvent P d (World.run P d actions).history input with
      | none => simpa using ih
      | some e => exact each_concat_iff.2 ⟨ih, World.produced_clientEvent hevent⟩
    cases input with
    | server input =>
      rw [World.step]
      split
      · exact World.each_produced_server ih _
      · exact ih
    | create client entropy => exact hcall
    | finish client handshake response => exact hcall
    | encrypt client session plain => exact hcall

/-- A client with a private key is configured. -/
theorem Deployment.identity_of_key (d : Deployment P) {client : ℕ} {key : Bytes}
    (hkey : d.clientKeys[client]? = some key) :
    ∃ identity, d.registry.clients[client]? = some identity := by
  have hmap : (d.registry.clients.map ClientIdentity.publicKey)[client]?
      = some (P.x25519Public key) := by
    rw [d.publicKeys, List.getElem?_map, hkey]
    rfl
  rw [List.getElem?_map] at hmap
  obtain ⟨identity, hidentity, -⟩ := Option.map_eq_some_iff.1 hmap
  exact ⟨identity, hidentity⟩

section finished

variable {history : List WorldEvent} {client : ℕ} {state : ClientHandshakeState}
  {response : Packet} {secret : Bytes}

/-- A session that a client finished was started with its private key. -/
theorem World.key_of_finished (h : Each (World.Produced P d) history)
    (hfinished : .finished client state response secret ∈ history) :
    d.clientKeys[client]? = some state.staticPrivateKey := by
  obtain ⟨before, hbefore, hello, hcreated⟩ := World.Produced.of_mem h hfinished
  obtain ⟨-, -, key, entropy, hkey, hcreate⟩ := World.Produced.of_mem h (hbefore _ hcreated)
  obtain ⟨-, -, -, -, -, hstate⟩ := createClientHello_ok hcreate
  rw [hkey, hstate]

/-- The client that finished a session with the secret of a hello is the one that the hello was
accepted for. -/
theorem World.identity_of_finished (h : Each (World.Produced P d) history)
    (hsecrets : DistinctSecrets P history) {a : Acceptance}
    (hfinished : .finished client state response a.sessionSecret ∈ history)
    (ha : a ∈ freshAcceptances (serverTrace history))
    (hidentity : a.identity ∈ d.registry.clients) :
    d.registry.clients[client]? = some a.identity := by
  obtain ⟨hnote, hsecret⟩ := note_mem_of_fresh ha
  have hserver : WorldEvent.handshake? P (.server (.note a)) = some ⟨a.identity.publicKey,
      a.hello.payload, a.response.payload, a.sessionSecret⟩ := by
    rw [WorldEvent.handshake?, hsecret, Option.map_some]
  have hview := hsecrets.handshakes _ (List.mem_filterMap.2 ⟨_, hfinished, rfl⟩) _
    (List.mem_filterMap.2 ⟨_, hnote, hserver⟩) rfl
  exact d.identity_of_publicKey (World.key_of_finished h hfinished) hidentity
    (Handshake.mk.inj hview).1

end finished

/-! ## The two directions -/

/-- A part of a list in any order, after a map. -/
theorem subperm_map {α β : Type} {l l' : List α} (h : l.Subperm l') (f : α → β) :
    (l.map f).Subperm (l'.map f) := by
  obtain ⟨l'', hperm, hsublist⟩ := h
  exact ⟨l''.map f, hperm.map f, hsublist.map f⟩

/-- Entries that all have a property are among those that have it. -/
theorem sublist_filter {α : Type} {l l' : List α} {p : α → Bool} (h : l.Sublist l')
    (hp : ∀ a ∈ l, p a = true) : l.Sublist (l'.filter p) := by
  rw [← List.filter_eq_self.2 hp]
  exact h.filter p

/-- Session objects with different secrets. -/
theorem secretOf_inj {fresh : List Acceptance} (h : (fresh.map Acceptance.sessionSecret).Nodup)
    {i j : ℕ} (hi : i < fresh.length) (hj : j < fresh.length)
    (hsecret : secretOf fresh i = secretOf fresh j) : i = j := by
  have hat : ∀ k, k < fresh.length →
      (fresh.map Acceptance.sessionSecret)[k]? = some (secretOf fresh k) := by
    intro k hk
    rw [List.getElem?_map, secretOf, List.getElem?_eq_getElem hk]
    rfl
  have hget := (hat i hi).trans (hsecret ▸ (hat j hj).symm)
  exact (List.getElem?_inj (by rwa [List.length_map]) h).1 hget

namespace Star

section directions

variable {star : Star τ}

/-- A tunnel is of a session that its client finished. -/
theorem Invariant.finished (h : star.Invariant P d) {tunnel : ClientTunnel τ}
    (htunnel : tunnel ∈ star.tunnels) : ∃ response,
    .finished tunnel.client tunnel.state response tunnel.secret ∈ star.world.history := by
  have hsession := List.mem_of_getElem? (h.tunnels tunnel htunnel).belongs.session
  obtain ⟨e, he, hsome⟩ := List.mem_filterMap.1 hsession
  cases e with
  | finished client state response secret =>
    simp only [WorldEvent.session?] at hsome
    split at hsome
    · rename_i hclient
      obtain ⟨rfl, rfl⟩ := Prod.mk.inj (Option.some.inj hsome)
      exact ⟨response, hclient ▸ he⟩
    · cases hsome
  | server _ => cases hsome
  | created _ _ _ => cases hsome
  | encrypted _ _ _ _ => cases hsome

/-- **Down.** The packets that the engine of a client writes were read by the server, each for one
write, and are addressed to the client. -/
theorem Invariant.writes_tunnel (h : star.Invariant P d)
    (hsecrets : DistinctSecrets P star.world.history) {tunnel : ClientTunnel τ}
    (htunnel : tunnel ∈ star.tunnels) :
    ∃ identity, d.registry.clients[tunnel.client]? = some identity ∧
      (writes tunnel.trace).Subperm (star.serverReads.filter fun payload =>
        ipv4Destination payload = .ok identity.tunnelAddress) := by
  obtain ⟨actions, hactions⟩ := h.world
  have hproduced : Each (World.Produced P d) star.world.history :=
    hactions ▸ World.produced_run actions
  obtain ⟨response, hfinished⟩ := h.finished htunnel
  obtain ⟨identity, hidentity⟩ := d.identity_of_key (World.key_of_finished hproduced hfinished)
  refine ⟨identity, hidentity, ?_⟩
  obtain ⟨accepted, hend, hsent⟩ := (h.tunnels tunnel htunnel).accepts
  let mine := (sentPackets (serverTrace star.world.history)).filter fun sent =>
    sent.1.sessionSecret = tunnel.secret
  have hdata : writes tunnel.trace = accepted.reverse.map Packet.payload := by
    rw [hend.writes, ← List.filterMap_eq_map]
    refine List.filterMap_congr fun packet hpacket => ?_
    obtain ⟨sent, hmem, -, rfl⟩ := hsent packet (List.mem_reverse.1 hpacket)
    obtain ⟨-, -, htype, -⟩ := h.relays.forwarded sent hmem
    rw [TunnelEngine.deliverPayload, htype]
    rfl
  -- the accepted packets are different packets of the session
  have hmine : (accepted.reverse.map Packet.payload).Subperm
      ((mine.map Prod.snd).map Packet.payload) := by
    refine subperm_map (List.subperm_of_subset (List.nodup_reverse.2 hend.nodup.of_map) ?_) _
    intro packet hpacket
    obtain ⟨sent, hmem, hsecret, rfl⟩ := hsent packet (List.mem_reverse.1 hpacket)
    exact List.mem_map_of_mem (List.mem_filter.2 ⟨hmem, by simpa using hsecret⟩)
  -- the server sends them to the client of their destination
  have hreads : ((mine.map Prod.snd).map Packet.payload).Sublist (star.serverReads.filter
      fun payload => ipv4Destination payload = .ok identity.tunnelAddress) := by
    refine sublist_filter ?_ fun payload hpayload => ?_
    · rw [List.map_map]
      exact (List.filter_sublist.map _).trans h.relays.reads
    · obtain ⟨packet, hpacket, rfl⟩ := List.mem_map.1 hpayload
      obtain ⟨sent, hmem, rfl⟩ := List.mem_map.1 hpacket
      obtain ⟨hmem, hsecret⟩ := List.mem_filter.1 hmem
      obtain ⟨hfresh, hclient, -, hdestination⟩ := h.relays.forwarded sent hmem
      have hsecret' : sent.1.sessionSecret = tunnel.secret := by simpa using hsecret
      have hsame := World.identity_of_finished hproduced hsecrets (hsecret' ▸ hfinished) hfresh
        hclient
      rw [hidentity] at hsame
      rw [hdestination, Option.some.inj hsame, decide_eq_true_eq]
  rw [hdata]
  exact hmine.trans hreads.subperm

/-- A packet that the server accepts was encrypted by the client of its source address, with the
secret of the session. -/
theorem encrypted_of_delivered {world : World} (h : world.Invariant P d) {ref : ℕ}
    {packet : Packet} (hmem : (ref, packet) ∈ delivered (serverTrace world.history)) :
    ∃ client state identity, d.registry.clients[client]? = some identity ∧
      ipv4Source packet.payload = .ok identity.tunnelAddress ∧
      .encrypted client state (secretOf (freshAcceptances (serverTrace world.history)) ref) packet
        ∈ world.history := by
  obtain ⟨e, he, hdeliver⟩ := List.mem_filterMap.1 hmem
  obtain ⟨w, hw, hserver⟩ := List.mem_filterMap.1 he
  obtain rfl : w = .server (.deliver ref packet) := by
    cases w with
    | server e' =>
      obtain rfl := Option.some.inj hserver
      cases e' with
      | deliver _ _ =>
        obtain ⟨rfl, rfl⟩ := Prod.mk.inj (Option.some.inj hdeliver)
        rfl
      | effect _ => cases hdeliver
      | note _ => cases hdeliver
    | created _ _ _ => cases hserver
    | finished _ _ _ _ => cases hserver
    | encrypted _ _ _ _ => cases hserver
  obtain ⟨before, after, hsplit⟩ := List.append_of_mem hw
  obtain ⟨a, client, hello, state, response, ha, hclient, -, -, -, -, hencrypted, -, hsource⟩ :=
    h.attributed before _ after hsplit
  have hfresh : (freshAcceptances (serverTrace world.history))[ref]? = some a := by
    rw [hsplit, serverTrace_append, freshAcceptances_append,
      List.getElem?_append_left (List.getElem?_eq_some_iff.1 ha).1, ha]
  refine ⟨client, state, a.identity, hclient, hsource, ?_⟩
  rw [secretOf, hfresh, hsplit]
  exact List.mem_append_left _ hencrypted

/-- **Up.** The packets that the server writes come from addresses of clients.  Those from the
address of a client were read by its engines, each for one write. -/
theorem Invariant.writes_server (h : star.Invariant P d)
    (hworld : star.world.Invariant P d) (hsecrets : DistinctSecrets P star.world.history)
    {client : ℕ} {identity : ClientIdentity}
    (hidentity : d.registry.clients[client]? = some identity) :
    ((writes (effects (serverTrace star.world.history))).filter fun payload =>
        ipv4Source payload = .ok identity.tunnelAddress).Subperm
      ((star.clientReads.filter fun read => read.1 = client).map Prod.snd) := by
  let fresh := freshAcceptances (serverTrace star.world.history)
  let mine := (delivered (serverTrace star.world.history)).filter fun e =>
    ipv4Source e.2.payload = .ok identity.tunnelAddress
  have hwrites : (writes (effects (serverTrace star.world.history))).filter (fun payload =>
      ipv4Source payload = .ok identity.tunnelAddress) = mine.map fun e => e.2.payload := by
    rw [hworld.writes, List.filter_map]
    rfl
  -- the accepted packets are different packets of the client, with their secrets
  have hnodup : (mine.map fun e => (client, secretOf fresh e.1, e.2)).Nodup := by
    refine List.Nodup.map_on ?_ (hworld.nodup.of_map.filter _)
    rintro ⟨ref, packet⟩ he ⟨ref', packet'⟩ he' heq
    obtain ⟨-, hrest⟩ := Prod.mk.inj heq
    obtain ⟨hsecret, rfl⟩ := Prod.mk.inj hrest
    rw [secretOf_inj hsecrets.nodup (hworld.bound ref packet (List.mem_filter.1 he).1)
      (hworld.bound ref' packet (List.mem_filter.1 he').1) hsecret]
  have hsealed : (mine.map fun e => (client, secretOf fresh e.1, e.2))
      ⊆ sealedPackets star.world.history := by
    intro x hx
    obtain ⟨⟨ref, packet⟩, he, rfl⟩ := List.mem_map.1 hx
    obtain ⟨hmem, hsource⟩ := List.mem_filter.1 he
    rw [decide_eq_true_eq] at hsource
    obtain ⟨client', state, identity', hidentity', hsource', hencrypted⟩ :=
      encrypted_of_delivered hworld hmem
    obtain rfl : identity' = identity := MultiClientServer.eq_of_tunnelAddress
      (List.mem_of_getElem? hidentity') (List.mem_of_getElem? hidentity)
      (Except.ok.inj (hsource'.symm.trans hsource))
    obtain rfl : client' = client := by
      refine (List.getElem?_inj (List.getElem?_eq_some_iff.1 hidentity').1
        d.nodup_publicKeys.of_map).1 (hidentity'.trans hidentity.symm)
    refine List.mem_filterMap.2 ⟨_, hencrypted, ?_⟩
    have hpayload : packet.payload ≠ [] := by
      intro hempty
      rw [hempty] at hsource
      cases hsource
    rw [WorldEvent.sealed?, if_neg hpayload]
  have hreads := (subperm_map (List.subperm_of_subset hnodup hsealed)
    fun e => (e.1, e.2.2.payload)).trans h.sealed.subperm
  have hclient := subperm_map (hreads.filter fun read => read.1 = client) Prod.snd
  rw [List.map_map, List.filter_eq_self.2 ?_, List.map_map] at hclient
  · rw [hwrites]
    exact hclient
  · intro read hread
    obtain ⟨e, -, rfl⟩ := List.mem_map.1 hread
    exact decide_eq_true rfl

end directions

/-- **Delivery.** Every packet that the server writes comes from the address of a client.  Those
from the address of one client are among the packets that its engines read, and the packets that
an engine of a client writes are among those that the server read for the address of this client,
in both cases with multiplicities. -/
theorem written_was_read [Zero τ] [Add τ] [Sub τ] [LT τ] [LE τ] [DecidableEq τ] [DecidableLT τ]
    [DecidableLE τ] (hA : P.LawfulAead) (hH : P.LawfulHkdf) (hM : P.LawfulHmac)
    (hX : P.LawfulX25519) (d : Deployment P) (inputs : List (StarInput τ))
    (hup : Each (ArrivesEncrypted P d.registry.packetsPerKey) (run P d inputs).world.history)
    (hdown : Each (fun before input =>
      (run P d before).ArrivesSent P d.registry.packetsPerKey input) inputs)
    (hsecrets : DistinctSecrets P (run P d inputs).world.history) :
    let star := run P d inputs
    let written := writes (effects (serverTrace star.world.history))
    (∀ payload ∈ written, ∃ identity ∈ d.registry.clients,
      ipv4Source payload = .ok identity.tunnelAddress) ∧
    (∀ client identity, d.registry.clients[client]? = some identity →
      (written.filter fun payload => ipv4Source payload = .ok identity.tunnelAddress).Subperm
        ((star.clientReads.filter fun read => read.1 = client).map Prod.snd)) ∧
    ∀ tunnel ∈ star.tunnels, ∃ identity, d.registry.clients[tunnel.client]? = some identity ∧
      (writes tunnel.trace).Subperm (star.serverReads.filter fun payload =>
        ipv4Destination payload = .ok identity.tunnelAddress) := by
  intro star written
  have hinv : star.Invariant P d := invariant_run hA hH hM hX hdown
  have hworld : star.world.Invariant P d := by
    obtain ⟨actions, hactions⟩ := hinv.world
    rw [show star.world = World.run P d actions from hactions]
    change Each _ star.world.history at hup
    change DistinctSecrets P star.world.history at hsecrets
    rw [hactions] at hup hsecrets
    exact World.invariant_run hA hH hM hX hup hsecrets
  refine ⟨fun payload hpayload => ?_, fun client identity hidentity => ?_, fun tunnel htunnel => ?_⟩
  · rw [show written = _ from hworld.writes] at hpayload
    obtain ⟨⟨ref, packet⟩, hmem, rfl⟩ := List.mem_map.1 hpayload
    obtain ⟨client, state, identity, hidentity, hsource, -⟩ := encrypted_of_delivered hworld hmem
    exact ⟨identity, List.mem_of_getElem? hidentity, hsource⟩
  · exact hinv.writes_server hworld hsecrets hidentity
  · exact hinv.writes_tunnel hsecrets htunnel

end Star

/-! ## A sample run -/

/-- The address of the sample server. -/
def sampleServerAddress : Address := ⟨.ofOctets 192 0 2 1, 51820⟩

/-- The engine of the sample client finds this packet at its TUN device, and this datagram at its
socket. -/
def sampleIteration (tunRead : Option Bytes) (udpReceive : Option Bytes) : IterationInput ℕ where
  selectClock := 0
  tunRead := tunRead.map .ok
  tunSendFailure := none
  udpReceive := udpReceive.map fun data => .ok (data, sampleServerAddress)
  receiveClock := 0
  tunWrite payload := .ok payload.length
  loopClock := 0
  keepaliveSendFailure := none

/-- The datagram of this packet in the sample session. -/
def sampleTunnelDatagram (role : EndpointRole) (payload : Bytes) : Bytes :=
  (sealPacket sample sampleSessionSecret 7 role 0 ⟨.data, 7, 0, payload⟩).encode.toOption.getD []

/-- The first client sets up a session.  It sends a packet, and the server sends one to it; the
network delivers both twice. -/
def sampleStar : List (StarInput ℕ) :=
  [.create 0 sampleClientEntropy, .server (sampleArrival (sampleHelloData 0) (sampleSource 0)),
    .finish 0 0 sampleResponse sampleServerAddress 0 0 0,
    .iterate 0 (sampleIteration (some sampleIpv4Packet) none),
    .server (sampleArrival (sampleTunnelDatagram .client sampleIpv4Packet) (sampleSource 0)),
    .server { sampleArrival (sampleTunnelDatagram .client sampleIpv4Packet) (sampleSource 0) with
      tunRead := some (.ok MultiClientServer.sampleToClient) },
    .iterate 0 (sampleIteration none
      (some (sampleTunnelDatagram .server MultiClientServer.sampleToClient))),
    .iterate 0 (sampleIteration none
      (some (sampleTunnelDatagram .server MultiClientServer.sampleToClient)))]

theorem written_was_read_sample :
    let star := Star.run sample sampleDeployment sampleStar
    writes (effects (serverTrace star.world.history)) = [sampleIpv4Packet] ∧
    star.tunnels.map (fun tunnel => writes tunnel.trace) = [[MultiClientServer.sampleToClient]] ∧
    ∀ tunnel ∈ star.tunnels, ∃ identity,
      sampleDeployment.registry.clients[tunnel.client]? = some identity ∧
      (writes tunnel.trace).Subperm (star.serverReads.filter fun payload =>
        ipv4Destination payload = .ok identity.tunnelAddress) := by
  refine ⟨by decide +kernel, by decide +kernel, ?_⟩
  exact (Star.written_was_read sample_lawfulAead sample_lawfulHkdf sample_lawfulHmac
    sample_lawfulX25519 sampleDeployment sampleStar (by decide +kernel) (by decide +kernel)
    (by decide +kernel)).2.2

end MatfVpn
