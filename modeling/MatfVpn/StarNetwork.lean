/-
# The star network

The server with its clients, which run the engine of `cli.main` for every session that they have
finished; everything in between belongs to an attacker, who chooses what arrives where.

* `ClientEnd.runOnce` : what an iteration of a client's engine accepts, writes and sends;
* `Star.world_run` : for the server a star is a run of `World`.
-/
import MatfVpn.ServerSends
import MatfVpn.TimedTunnel
import MatfVpn.TunnelDelivery

namespace MatfVpn

open Program History

/-! ## The network -/

/-- The engine of a session that a client has finished, and what the engine did.  `session` is the
position of the session among those of the client. -/
structure ClientTunnel (τ : Type) where
  client : ℕ
  session : ℕ
  state : ClientHandshakeState
  secret : Bytes
  engine : TunnelEngine τ
  running : Bool
  trace : List (Effect τ)

/-- The server and the engines of the clients, and the packets that they read from their TUN
devices, those of the engines with the clients. -/
structure Star (τ : Type) where
  world : World
  tunnels : List (ClientTunnel τ)
  serverReads : List Bytes
  clientReads : List (ℕ × Bytes)

/-- One action: an iteration of the server, a call by a client, or an iteration of an engine.
After a handshake the client builds the engine of the session. -/
inductive StarInput (τ : Type) where
  | server (input : ServerInput)
  | create (client : ℕ) (entropy : ClientEntropy)
  | finish (client handshake : ℕ) (response : Packet) (remoteAddress : Address)
      (keepaliveInterval livenessTimeout now : τ)
  | iterate (tunnel : ℕ) (input : IterationInput τ)

namespace Star

variable {τ : Type} [Zero τ] [Add τ] [Sub τ] [LT τ] [LE τ] [DecidableEq τ] [DecidableLT τ]
  [DecidableLE τ]

/-- The end of a handshake, and the engine of the session unless its constructor raises. -/
def finish (P : Primitives) (d : Deployment P) (star : Star τ) (client handshake : ℕ)
    (response : Packet) (remoteAddress : Address) (keepaliveInterval livenessTimeout now : τ) :
    Star τ :=
  let history := star.world.history
  let world := World.step P d star.world (.finish client handshake response)
  match World.clientEvent P d history (.finish client handshake response) with
  | some (.finished _ state _ secret) =>
      match Tunnel.newEnd P secret state.sessionId d.registry.packetsPerKey .client remoteAddress
          keepaliveInterval livenessTimeout now with
      | .error _ => { star with world := world }
      | .ok engine =>
          { star with
            world := world
            tunnels := star.tunnels ++ [{
              client := client
              session := (history.filterMap (WorldEvent.session? client)).length
              state := state
              secret := secret
              engine := engine
              running := true
              trace := [] }] }
  | _ => { star with world := world }

/-- An iteration of an engine, unless one has raised.  What it sends was encrypted in its
session. -/
def iterate (P : Primitives) (star : Star τ) (i : ℕ) (input : IterationInput τ) : Star τ :=
  match star.tunnels[i]? with
  | none => star
  | some tunnel =>
      if tunnel.running then
        let o := TunnelEngine.runOnce P input none tunnel.engine
        { star with
          world := { star.world with
            history := star.world.history ++ (sends o.trace).map fun sent =>
              .encrypted tunnel.client tunnel.state tunnel.secret sent.1 }
          tunnels := star.tunnels.set i { tunnel with
            engine := o.state
            running := o.result.toOption.isSome
            trace := tunnel.trace ++ o.trace }
          clientReads := star.clientReads ++ (readPacket input.tunRead).toList.map fun payload =>
            (tunnel.client, payload) }
      else star

/-- One action. -/
def step (P : Primitives) (d : Deployment P) (star : Star τ) : StarInput τ → Star τ
  | .server input =>
      if star.world.running then
        { star with
          world := World.step P d star.world (.server input)
          serverReads := star.serverReads ++ (readPacket input.tunRead).toList }
      else star
  | .create client entropy =>
      { star with world := World.step P d star.world (.create client entropy) }
  | .finish client handshake response remoteAddress keepaliveInterval livenessTimeout now =>
      star.finish P d client handshake response remoteAddress keepaliveInterval livenessTimeout now
  | .iterate i input => star.iterate P i input

/-- A new server, before anything happened. -/
def new {P : Primitives} (d : Deployment P) : Star τ := ⟨.new d, [], [], []⟩

/-- A run of any actions. -/
def run (P : Primitives) (d : Deployment P) (inputs : List (StarInput τ)) : Star τ :=
  inputs.foldl (step P d) (new d)

end Star

/-! ## The engine of a client -/

section engine

variable {τ : Type} {P : Primitives} {secret : Bytes} {sessionId packetsPerKey : ℕ}

/-- The packets that were accepted, the last one first, as a replay window sees them. -/
def heard (accepted : List Packet) : Delivery := ⟨[], accepted.map Packet.sequenceNumber, []⟩

/-- What the datagram of the input opens as, under a secret that the client shares with the
server. -/
def heard? (P : Primitives) (secret : Bytes) (sessionId packetsPerKey : ℕ)
    (input : IterationInput τ) : Option Packet :=
  match input.udpReceive with
  | some (.ok (datagram, _)) =>
      openDatagram P secret sessionId .server packetsPerKey (datagram.take maxUdpDatagramSize)
  | _ => none

/-- The header fields of the packet are in range, and its payload fits. -/
def Departs (packet : Packet) : Prop :=
  packet.HeaderInRange ∧ packet.payload.length ≤ maxPayloadSize - aesGcmTagSize

/-- An engine of a client after a trace: its cipher is the one of the session, its window holds
the numbers of the packets accepted so far, which are distinct, and it wrote their payloads. -/
structure ClientEnd (P : Primitives) (secret : Bytes) (sessionId packetsPerKey : ℕ)
    (engine : TunnelEngine τ) (t : List (Effect τ)) (accepted : List Packet) : Prop where
  uses : ∃ log, engine.Uses P log secret sessionId .client packetsPerKey
  receiver : Receiver (heard accepted) engine
  nodup : (accepted.map Packet.sequenceNumber).Nodup
  writes : writes t = accepted.reverse.filterMap TunnelEngine.deliverPayload

/-- What an iteration adds: the packets that it accepts, and those that it sends. -/
def ClientStep (P : Primitives) (secret : Bytes) (sessionId packetsPerKey : ℕ)
    (input : IterationInput τ) (before : List (Effect τ)) (accepted : List Packet)
    (engine : TunnelEngine τ) (t : List (Effect τ)) : Prop :=
  ∃ more, ClientEnd P secret sessionId packetsPerKey engine (before ++ t) (more ++ accepted) ∧
    (∀ packet ∈ more, heard? P secret sessionId packetsPerKey input = some packet) ∧
    ∀ sent ∈ sends t, Departs sent.1

variable {input : IterationInput τ} {before t : List (Effect τ)} {accepted : List Packet}
  {engine engine' : TunnelEngine τ}

/-- Effects that write nothing and send what departs. -/
theorem ClientStep.extend (h : ClientStep P secret sessionId packetsPerKey input before accepted
    engine t) {t' : List (Effect τ)}
    (huses : ∃ log, engine'.Uses P log secret sessionId .client packetsPerKey)
    (hwindow : engine'.replayWindow = engine.replayWindow) (hwrites : MatfVpn.writes t' = [])
    (hsends : ∀ sent ∈ sends t', Departs sent.1) :
    ClientStep P secret sessionId packetsPerKey input before accepted engine' (t ++ t') := by
  obtain ⟨more, hend, harrives, hdeparts⟩ := h
  refine ⟨more, ⟨huses, ?_, hend.nodup, ?_⟩, harrives, ?_⟩
  · exact ⟨hwindow ▸ hend.receiver.size, hwindow ▸ hend.receiver.window⟩
  · rw [← List.append_assoc, writes_append, hwrites, List.append_nil]
    exact hend.writes
  · rw [sends_append]
    exact List.forall_mem_append.2 ⟨hdeparts, hsends⟩

/-- A send. -/
theorem clientStep_sendPacket (hA : P.LawfulAead) (hH : P.LawfulHkdf) (messageType : MessageType)
    (payload : Bytes) (failure : Option PyError) :
    Preserves (ClientStep P secret sessionId packetsPerKey input before accepted)
      (ClientStep P secret sessionId packetsPerKey input before accepted)
      (TunnelEngine.sendPacket P messageType payload failure) := by
  refine preserves_self_iff.2 fun engine t h => ?_
  obtain ⟨-, ⟨⟨log, huses⟩, -, -, -⟩, -, -⟩ := id h
  refine wp_mono (TunnelEngine.sendPacket_spec hA hH huses messageType payload failure) ?_
  rintro r engine' t' ⟨c, n, calls, rfl, hder, -, hends⟩
  refine h.extend ⟨_, huses.withCipher hder n⟩ rfl ?_ ?_
  · refine writes_eq_nil fun e he payload => ?_
    rcases hends.effects he with ⟨call, rfl⟩ | ⟨data, destination, rfl⟩ <;> simp
  · cases hends with
    | exhausted _ _ => exact List.forall_mem_nil _
    | tooLarge _ _ =>
      rw [sends_map_crypto]
      exact List.forall_mem_nil _
    | failed _ _ _ _ _ =>
      rw [sends_map_crypto]
      exact List.forall_mem_nil _
    | sent data _ hp hsize _ _ =>
      intro sent hsent
      rw [sends_append, sends_map_crypto, List.nil_append] at hsent
      obtain rfl : sent = (_, data, _) := List.mem_singleton.1 hsent
      exact ⟨hp, hsize⟩

/-- What the engine accepts opens the datagram. -/
theorem openDatagram_of_opened (hid : engine.sessionId = sessionId) {data : Bytes}
    {source : Address} {packet : Packet}
    (h : engine.opened P secret .client packetsPerKey data source = some packet) :
    openDatagram P secret sessionId .server packetsPerKey data = some packet ∧
      (packet.messageType = .data ∨ packet.messageType = .keepalive) ∧
      engine.replayWindow.isReplay packet.sequenceNumber = false := by
  unfold TunnelEngine.opened at h
  cases hdecode : Packet.decode data with
  | error e =>
    rw [hdecode] at h
    cases h
  | ok received =>
    rw [hdecode] at h
    simp only at h
    split at h
    · rename_i hcheck
      obtain ⟨plaintext, hopen, rfl⟩ := Option.map_eq_some_iff.1 h
      refine ⟨?_, hcheck.2.2.1, hcheck.2.2.2⟩
      rw [openDatagram, hdecode]
      exact Option.map_eq_some_iff.2 ⟨plaintext, hid ▸ hopen, rfl⟩
    · cases h

/-- A received datagram. -/
theorem clientStep_receive (hH : P.LawfulHkdf) {arrival : Except PyError (Bytes × Address)}
    (harrival : input.udpReceive = some arrival) :
    Preserves (ClientStep P secret sessionId packetsPerKey input before accepted)
      (ClientStep P secret sessionId packetsPerKey input before accepted)
      (TunnelEngine.receiveUdpPacket P arrival input) := by
  refine preserves_self_iff.2 fun engine t h => ?_
  cases arrival with
  | error e =>
    refine wp_mono (TunnelEngine.receiveUdpPacket_error e input engine) ?_
    rintro r engine' t' ⟨rfl, rfl⟩
    rwa [List.append_nil]
  | ok arrival =>
    obtain ⟨datagram, source⟩ := arrival
    obtain ⟨more, ⟨⟨log, huses⟩, hreceiver, hnodup, hwrites⟩, harrives, hdeparts⟩ := id h
    refine wp_mono (TunnelEngine.receiveUdpPacket_spec hH huses datagram source input) ?_
    rintro r engine' t' ⟨c, calls, window, now, rfl, hder, -, hends⟩
    have huses' : ((engine.withCipher c engine.sequenceNumber).authenticated window now).Uses P
        (log ++ hkdfCalls calls) secret sessionId .client packetsPerKey :=
      ⟨⟨c, rfl, hder⟩, huses.sessionId_eq, huses.sessionId_lt⟩
    cases hends with
    | dropped _ => exact h.extend ⟨_, huses'⟩ rfl (by simp) (by simp)
    | accepted packet _ hopened hwindow =>
      obtain ⟨hopen, -, hreplay⟩ := openDatagram_of_opened huses.sessionId_eq hopened
      have hfresh := (hreceiver.isReplay_iff _).1 hreplay
      have hnext : Receiver ((heard (more ++ accepted)).accept packet)
          ((engine.withCipher c engine.sequenceNumber).authenticated window input.receiveClock) :=
        hreceiver.accept hfresh hwindow
      refine ⟨packet :: more, ⟨⟨_, huses'⟩, ⟨hnext.size, hnext.window⟩, ?_, ?_⟩, ?_, ?_⟩
      · exact List.nodup_cons.2 ⟨hfresh.1, hnodup⟩
      · rw [← List.append_assoc, writes_append, hwrites, List.cons_append, List.reverse_cons,
          List.filterMap_append]
        congr 1
        unfold TunnelEngine.deliverEffects
        cases hpayload : TunnelEngine.deliverPayload packet <;> simp [hpayload]
      · refine List.forall_mem_cons.2 ⟨?_, harrives⟩
        rw [heard?, harrival]
        exact hopen
      · rw [sends_append]
        refine List.forall_mem_append.2 ⟨hdeparts, ?_⟩
        unfold TunnelEngine.deliverEffects
        cases TunnelEngine.deliverPayload packet <;> simp

/-- **One iteration** of the engine of a client. -/
theorem ClientEnd.runOnce [Zero τ] [Add τ] [Sub τ] [LT τ] [LE τ] [DecidableEq τ] [DecidableLT τ]
    [DecidableLE τ] (hA : P.LawfulAead) (hH : P.LawfulHkdf)
    (h : ClientEnd P secret sessionId packetsPerKey engine before accepted) (timeout : Option τ) :
    wp (TunnelEngine.runOnce P input timeout) engine fun _ engine' t =>
      ClientStep P secret sessionId packetsPerKey input before accepted engine' t := by
  have hstart : ClientStep P secret sessionId packetsPerKey input before accepted engine [] :=
    ⟨[], by rwa [List.append_nil, List.nil_append], List.forall_mem_nil _, List.forall_mem_nil _⟩
  refine preserves_self_iff.1 (TunnelEngine.runOnce_preserves (fun _ _ h => h) input timeout
    (fun v => ?_) (fun payload _ => ?_) ?_ (fun arrival harrival => ?_) fun f => ?_)
    engine [] hstart
  · refine Preserves.emit fun engine t h => ?_
    obtain ⟨-, ⟨huses, -, -, -⟩, -, -⟩ := id h
    exact h.extend huses rfl rfl (List.forall_mem_nil _)
  · exact clientStep_sendPacket hA hH .data payload _
  · exact clientStep_sendPacket hA hH .keepalive [] _
  · exact clientStep_receive hH harrival
  · refine Preserves.update fun engine t h => ?_
    obtain ⟨more, ⟨⟨log, ⟨c, hc, hder⟩, hid, hlt⟩, hreceiver, hnodup, hwrites⟩, hrest⟩ := h
    exact ⟨more, ⟨⟨log, ⟨c, hc, hder⟩, hid, hlt⟩, ⟨hreceiver.size, hreceiver.window⟩, hnodup,
      hwrites⟩, hrest⟩

/-- The payloads that are sent, but for empty ones. -/
def sentPayloads (t : List (Effect τ)) : List Bytes :=
  ((sends t).map fun sent => sent.1.payload).filter (· ≠ [])

@[simp] theorem sentPayloads_append (s t : List (Effect τ)) :
    sentPayloads (s ++ t) = sentPayloads s ++ sentPayloads t := by
  rw [sentPayloads, sends_append, List.map_append, List.filter_append]
  rfl

/-- A send. -/
theorem sendPacket_payloads (hA : P.LawfulAead) (hH : P.LawfulHkdf)
    (h : engine.UsesSome P secret sessionId .client packetsPerKey) (messageType : MessageType)
    (payload : Bytes) (failure : Option PyError) :
    wp (TunnelEngine.sendPacket P messageType payload failure) engine fun _ engine' t =>
      engine'.UsesSome P secret sessionId .client packetsPerKey ∧
        (sentPayloads t).Sublist ([payload].filter (· ≠ [])) := by
  obtain ⟨log, huses⟩ := h
  refine wp_mono (TunnelEngine.sendPacket_spec hA hH huses messageType payload failure) ?_
  rintro r engine' t ⟨c, n, calls, rfl, hder, -, hends⟩
  refine ⟨⟨_, huses.withCipher hder n⟩, ?_⟩
  cases hends with
  | exhausted _ _ => exact List.nil_sublist _
  | tooLarge _ _ =>
    rw [sentPayloads, sends_map_crypto]
    exact List.nil_sublist _
  | failed _ _ _ _ _ =>
    rw [sentPayloads, sends_map_crypto]
    exact List.nil_sublist _
  | sent data _ _ _ _ _ =>
    rw [sentPayloads, sends_append, sends_map_crypto]
    exact List.Sublist.refl _

/-- The timers send nothing but keepalives. -/
theorem checkTimers_payloads [Zero τ] [Add τ] [Sub τ] [LE τ] [DecidableEq τ] [DecidableLE τ]
    (hA : P.LawfulAead) (hH : P.LawfulHkdf)
    (h : engine.UsesSome P secret sessionId .client packetsPerKey) (input : IterationInput τ) :
    wp (TunnelEngine.checkTimers P input) engine fun _ _ t => sentPayloads t = [] := by
  rw [TunnelEngine.checkTimers_eq, wp_read_bind, wp_ite]
  refine ⟨fun _ => ?_, fun _ => rfl⟩
  rw [wp_ite]
  constructor
  · intro _
    rw [wp_bind]
    refine wp_mono (sendPacket_payloads hA hH h .keepalive [] _) ?_
    rintro r engine₁ t₁ ⟨-, hsent⟩
    have hnone : sentPayloads t₁ = [] := List.sublist_nil.1 hsent
    cases r with
    | error e => exact hnone
    | ok _ =>
      simp only
      rw [wp_update_bind]
      refine wp_mono (TunnelEngine.checkLiveness_spec _ input.loopClock) ?_
      rintro r engine₂ t₂ ⟨-, rfl, -⟩
      rwa [List.append_nil]
  · intro _
    refine wp_mono (TunnelEngine.checkLiveness_spec _ input.loopClock) ?_
    rintro r engine₂ t₂ ⟨-, rfl, -⟩
    rfl

/-- **One iteration** sends at most the packet that it reads. -/
theorem runOnce_payloads [Zero τ] [Add τ] [Sub τ] [LT τ] [LE τ] [DecidableEq τ] [DecidableLT τ]
    [DecidableLE τ] (hA : P.LawfulAead) (hH : P.LawfulHkdf)
    (h : engine.UsesSome P secret sessionId .client packetsPerKey) (timeout : Option τ) :
    wp (TunnelEngine.runOnce P input timeout) engine fun _ _ t =>
      (sentPayloads t).Sublist (readPacket input.tunRead).toList := by
  unfold TunnelEngine.runOnce
  rw [wp_read_bind, wp_emit_bind, wp_bind]
  have htun : wp (TunnelEngine.forwardFromTun P input) engine fun _ engine' t =>
      engine'.UsesSome P secret sessionId .client packetsPerKey ∧
        (sentPayloads t).Sublist (readPacket input.tunRead).toList := by
    unfold TunnelEngine.forwardFromTun
    cases input.tunRead with
    | none => exact ⟨h, List.Sublist.refl _⟩
    | some packet =>
      rw [wp_bind_pure]
      cases packet with
      | error e => exact ⟨h, List.Sublist.refl _⟩
      | ok payload =>
        refine wp_mono (sendPacket_payloads hA hH h .data payload _) ?_
        rintro r engine' t ⟨huses, hsent⟩
        exact ⟨huses, hsent.trans List.filter_sublist⟩
  refine wp_mono htun ?_
  rintro r engine₁ t₁ ⟨huses₁, hsent₁⟩
  cases r with
  | error e => exact hsent₁
  | ok fromTun =>
  simp only
  rw [wp_bind]
  refine wp_mono (TunnelEngine.forwardFromUdp_sends hH huses₁ input) ?_
  rintro r engine₂ t₂ ⟨hnone, -, huses₂, -, -⟩
  -- receiving sends nothing, and what the timers send carries no packet
  have hsent₂ : sentPayloads t₂ = [] := by rw [sentPayloads, hnone, List.map_nil, List.filter_nil]
  have hsent : (sentPayloads (t₁ ++ t₂)).Sublist (readPacket input.tunRead).toList := by
    rwa [sentPayloads_append, hsent₂, List.append_nil]
  cases r with
  | error e => exact hsent
  | ok fromUdp =>
  simp only
  rw [wp_bind_pure]
  refine wp_mono (checkTimers_payloads hA hH huses₂ input) ?_
  intro r engine₃ t₃ hsent₃
  show (sentPayloads (t₁ ++ (t₂ ++ t₃))).Sublist _
  rwa [← List.append_assoc, sentPayloads_append, hsent₃, List.append_nil]

end engine

/-! ## Runs of the star -/

/-- The tunnel belongs to a session that its client has finished, for which there is a cipher. -/
structure ClientTunnel.Belongs {τ : Type} (P : Primitives) (packetsPerKey : ℕ)
    (history : List WorldEvent) (tunnel : ClientTunnel τ) : Prop where
  session : (history.filterMap (WorldEvent.session? tunnel.client))[tunnel.session]?
    = some (tunnel.state, tunnel.secret)
  cipher : ∃ cipher, (createCipher P tunnel.secret tunnel.state.sessionId .client packetsPerKey
    ()).result = .ok cipher

theorem ClientTunnel.Belongs.mono {τ : Type} {P : Primitives} {packetsPerKey : ℕ}
    {history : List WorldEvent} {tunnel : ClientTunnel τ}
    (h : tunnel.Belongs P packetsPerKey history) (more : List WorldEvent) :
    tunnel.Belongs P packetsPerKey (history ++ more) := by
  refine ⟨?_, h.cipher⟩
  rw [List.filterMap_append,
    List.getElem?_append_left (List.getElem?_eq_some_iff.1 h.session).1]
  exact h.session

/-- A cipher that `create_cipher` builds encrypts every packet that departs. -/
theorem clientEncrypt_isOk {P : Primitives} (hH : P.LawfulHkdf) {secret : Bytes}
    {sessionId packetsPerKey : ℕ} {cipher : Cipher}
    (hcipher : (createCipher P secret sessionId .client packetsPerKey ()).result = .ok cipher)
    {plain : Packet} (h : Departs plain) :
    ∃ packet, clientEncrypt P secret sessionId packetsPerKey plain = .ok packet := by
  obtain ⟨hrange, hsize⟩ := h
  obtain ⟨hsecret, hid⟩ := createCipher_ok hcipher
  obtain ⟨-, -, c, hc, hder⟩ := createCipher_spec hH hsecret hid .client packetsPerKey ()
  obtain rfl : cipher = c := Except.ok.inj (hcipher.symm.trans hc)
  obtain ⟨-, hencrypt⟩ := encrypt_spec hH hder hrange
  rw [if_neg (Nat.not_lt.2 hsize)] at hencrypt
  refine ⟨sealPacket P secret sessionId .client packetsPerKey plain, ?_⟩
  rw [clientEncrypt, hcipher]
  exact hencrypt.1

section star

variable {τ : Type} {P : Primitives} {d : Deployment P}

/-- **What an engine sends** is encrypted in its session in a run of the world. -/
theorem World.run_encrypt (hH : P.LawfulHkdf) {actions : List WorldInput}
    {tunnel : ClientTunnel τ}
    (h : tunnel.Belongs P d.registry.packetsPerKey (World.run P d actions).history)
    {packets : List Packet} (hpackets : ∀ packet ∈ packets, Departs packet) :
    World.run P d (actions ++ packets.map (.encrypt tunnel.client tunnel.session)) =
      { World.run P d actions with
        history := (World.run P d actions).history ++
          packets.map (.encrypted tunnel.client tunnel.state tunnel.secret) } := by
  induction packets using List.reverseRecOn with
  | nil => simp
  | append_singleton packets packet ih =>
    obtain ⟨hpackets, hpacket⟩ := List.forall_mem_append.1 hpackets
    obtain ⟨cipher, hcipher⟩ := h.cipher
    obtain ⟨encrypted, hencrypted⟩ :=
      clientEncrypt_isOk hH hcipher (hpacket packet (List.mem_singleton_self _))
    have hevent : ∀ more, World.clientEvent P d ((World.run P d actions).history ++ more)
        (.encrypt tunnel.client tunnel.session packet)
          = some (.encrypted tunnel.client tunnel.state tunnel.secret packet) := by
      intro more
      rw [World.clientEvent, (h.mono more).session]
      simp only [hencrypted]
    rw [List.map_append, ← List.append_assoc, List.map_singleton, World.run_concat, ih hpackets]
    show World.mk _ _ (_ ++ (World.clientEvent P d _ _).toList) = _
    rw [hevent, List.map_append, ← List.append_assoc]
    rfl

end star

end MatfVpn
