/-
# Exact delivery

The proof that an engine writes what `deliveries` says.

* `Sender` : what an engine sent is what its cipher encrypted, as long as no send fails;
* `Receiver` : the replay window stands for the accepted numbers and the writes so far are
  the delivered payloads;
* `opened_iff` : the engine accepts a datagram exactly when the specification does;
* `Tunnel.writes_run` : the result for every run.
-/
import MatfVpn.SamplePrimitives
import MatfVpn.Tunnel

namespace MatfVpn

open BigEndian Program History

variable {τ : Type} {P : Primitives} {secret : Bytes} {sessionId packetsPerKey : ℕ}
  {role : EndpointRole}

/-! ## The sending end -/

/-- What an engine sent is what it encrypted, sealed under its keys. -/
structure Sender (P : Primitives) (secret : Bytes) (sessionId : ℕ) (role : EndpointRole)
    (packetsPerKey : ℕ) (engine : TunnelEngine τ) (effects : List (Effect τ)) : Prop where
  uses : ∃ log, engine.Uses P log secret sessionId role packetsPerKey
  sent : ∀ s ∈ sends effects, s.1.sessionId = sessionId ∧ s.1.HeaderInRange ∧
    (s.1.messageType = .data ∨ s.1.messageType = .keepalive) ∧
    (sealPacket P secret sessionId role packetsPerKey s.1).encode = .ok s.2.1
  sealed : ∀ call ∈ aesCalls (cryptoCalls effects), ∃ s ∈ sends effects,
    call = sealCall P secret sessionId role packetsPerKey s.1

/-- Effects without sends and encryptions. -/
theorem Sender.append {engine engine' : TunnelEngine τ} {effects t : List (Effect τ)}
    (h : Sender P secret sessionId role packetsPerKey engine effects)
    (huses : ∃ log, engine'.Uses P log secret sessionId role packetsPerKey)
    (hsends : sends t = []) (haes : aesCalls (cryptoCalls t) = []) :
    Sender P secret sessionId role packetsPerKey engine' (effects ++ t) where
  uses := huses
  sent := by
    rw [sends_append, hsends, List.append_nil]
    exact h.sent
  sealed := by
    rw [cryptoCalls_append, aesCalls_append, haes, List.append_nil, sends_append, hsends,
      List.append_nil]
    exact h.sealed

/-- A packet that is sent was encrypted. -/
theorem Sender.sendEnds {engine engine' : TunnelEngine τ} {effects t : List (Effect τ)}
    (h : Sender P secret sessionId role packetsPerKey engine effects)
    (huses : ∃ log, engine'.Uses P log secret sessionId role packetsPerKey)
    {messageType : MessageType} (htype : messageType = .data ∨ messageType = .keepalive)
    {payload : Bytes} {calls : List CryptoCall} {r : Except PyError Unit} {n : ℕ}
    (hends : TunnelEngine.SendEnds P secret role packetsPerKey engine
      (engine.nextPacket messageType payload) none calls r n t) :
    Sender P secret sessionId role packetsPerKey engine' (effects ++ t) := by
  obtain ⟨-, -, rfl, -⟩ := h.uses
  cases hends with
  | exhausted _ _ => exact h.append huses rfl rfl
  | tooLarge _ haes => exact h.append huses (by simp) (by simpa using haes)
  | failed e hfail _ _ _ => cases hfail
  | sent data _ hp _ haes hdata =>
      refine ⟨huses, ?_, ?_⟩
      · intro s hs
        rw [sends_append, List.mem_append] at hs
        rcases hs with hs | hs
        · exact h.sent s hs
        · simp only [sends_append, sends_map_crypto, List.nil_append] at hs
          obtain rfl : s = (_, data, _) := List.mem_singleton.1 hs
          exact ⟨rfl, hp, htype, hdata⟩
      · intro call hcall
        rw [cryptoCalls_append, aesCalls_append, List.mem_append] at hcall
        rcases hcall with hcall | hcall
        · obtain ⟨s, hs, hseal⟩ := h.sealed call hcall
          exact ⟨s, by rw [sends_append]; exact List.mem_append_left _ hs, hseal⟩
        · rw [cryptoCalls_append, cryptoCalls_map_crypto, aesCalls_append, haes] at hcall
          refine ⟨(engine.nextPacket messageType payload, data, engine.remoteAddress), ?_,
            List.mem_singleton.1 hcall⟩
          rw [sends_append]
          refine List.mem_append_right _ ?_
          rw [sends_append]
          exact List.mem_append_right _ (List.mem_singleton.2 rfl)

/-! ## The receiving end -/

/-- An engine received what `d` says: its window stands for the accepted numbers. -/
structure Receiver (d : Delivery) (engine : TunnelEngine τ) : Prop where
  size : engine.replayWindow.size = defaultReplayWindowSize
  window : engine.replayWindow.Represents {n : ℤ | ∃ m ∈ d.accepted, n = m}

/-- Different packets are sealed differently. -/
theorem sealPacket_inj (hA : P.LawfulAead) {p q : Packet}
    (h : sealPacket P secret sessionId role packetsPerKey p
      = sealPacket P secret sessionId role packetsPerKey q) : p = q := by
  have hopen : ∀ x : Packet, openPayload P secret sessionId role packetsPerKey
      (sealPacket P secret sessionId role packetsPerKey x) = some x.payload :=
    fun x => (openPayload_eq_some_iff hA).2 rfl
  have hpayload : p.payload = q.payload := by
    have hp := hopen p
    rw [h, hopen q] at hp
    exact (Option.some.inj hp).symm
  obtain ⟨t, s, n, payload⟩ := p
  obtain ⟨t', s', n', payload'⟩ := q
  simp only [sealPacket, Packet.mk.injEq] at h hpayload ⊢
  exact ⟨h.1, h.2.1, h.2.2.1, hpayload⟩

/-- The window rejects exactly the numbers that are not fresh. -/
theorem Receiver.isReplay_iff {d : Delivery} {engine : TunnelEngine τ} (h : Receiver d engine)
    (n : ℕ) : engine.replayWindow.isReplay n = false ↔ d.Fresh n := by
  rw [← Bool.not_eq_true, ReplayWindow.isReplay_iff h.window, h.size, ReplayWindow.Rejected,
    Delivery.Fresh]
  constructor
  · intro hrej
    refine ⟨fun hmem => hrej (Or.inr (Or.inl ⟨n, hmem, rfl⟩)), fun m hm => ?_⟩
    by_contra hle
    exact hrej (Or.inr (Or.inr ⟨m, ⟨m, hm, rfl⟩, by omega⟩))
  · rintro ⟨hnew, hnear⟩ (hneg | ⟨m, hm, hnm⟩ | ⟨m', ⟨m, hm, rfl⟩, hle⟩)
    · omega
    · rw [Int.natCast_inj] at hnm
      exact hnew (hnm ▸ hm)
    · have := hnear m hm
      omega

/-- The packet found for a datagram was sent as this datagram. -/
theorem Delivery.find_eq_some {d : Delivery} {data : Bytes} {plain : Packet}
    (h : d.find data = some plain) : (plain, data) ∈ d.sent := by
  obtain ⟨⟨plain', data'⟩, hfind, rfl⟩ := Option.map_eq_some_iff.1 h
  have hdata : data' = data := by simpa using List.find?_some hfind
  subst hdata
  exact List.mem_of_find?_eq_some hfind

/-- The specification finds the packet that was sealed in a datagram. -/
theorem Delivery.find_of_sealed (hA : P.LawfulAead) {d : Delivery}
    (hsent : ∀ s ∈ d.sent, (sealPacket P secret sessionId role packetsPerKey s.1).encode
      = .ok s.2) {data : Bytes} {plain : Packet} (hmem : (plain, data) ∈ d.sent) :
    d.find data = some plain := by
  rw [Delivery.find]
  cases hfind : d.sent.find? (fun s => s.2 = data) with
  | none =>
      have hnone := List.find?_eq_none.1 hfind _ hmem
      simp at hnone
  | some s =>
      have hdata : s.2 = data := by simpa using List.find?_some hfind
      have hs := hsent s (List.mem_of_find?_eq_some hfind)
      have hplain := hsent _ hmem
      rw [hdata] at hs
      rw [Option.map_some, sealPacket_inj hA (Packet.encode_inj hs hplain)]

/-- **The engine accepts what the specification accepts.** A datagram from the remote
address that the peer sent is opened exactly when its number is fresh. -/
theorem opened_iff (hA : P.LawfulAead) {d : Delivery} {engine : TunnelEngine τ}
    (huses : ∃ log, engine.Uses P log secret sessionId role packetsPerKey)
    (hR : Receiver d engine) {peer : TunnelEngine τ} {effects : List (Effect τ)}
    (hpeer : Sender P secret sessionId role.peer packetsPerKey peer effects)
    (hd : d.sent = (sends effects).map fun s => (s.1, s.2.1)) {data : Bytes}
    (hlen : data.length ≤ maxUdpDatagramSize)
    (hgen : Genuine P secret sessionId role.peer packetsPerKey
      (aesCalls (cryptoCalls effects)) data) (source : Address) (plain : Packet) :
    engine.opened P secret role packetsPerKey data source = some plain
      ↔ source = engine.remoteAddress ∧ d.find data = some plain ∧
        d.Fresh plain.sequenceNumber := by
  obtain ⟨log, -, rfl, hsid⟩ := huses
  have hsent : ∀ s ∈ d.sent, (sealPacket P secret engine.sessionId role.peer packetsPerKey
      s.1).encode = .ok s.2 := by
    intro s hs
    rw [hd, List.mem_map] at hs
    obtain ⟨s', hs', rfl⟩ := hs
    exact (hpeer.sent s' hs').2.2.2
  constructor
  · intro hopened
    unfold TunnelEngine.opened at hopened
    cases hdecode : Packet.decode data with
    | error e => simp [hdecode] at hopened
    | ok packet =>
        simp only [hdecode] at hopened
        split at hopened
        case isFalse => cases hopened
        rename_i hcheck
        obtain ⟨hsource, -, -, hfresh⟩ := hcheck
        obtain ⟨plaintext, hopen, rfl⟩ := Option.map_eq_some_iff.1 hopened
        refine ⟨hsource, ?_, (hR.isReplay_iff _).1 hfresh⟩
        -- the datagram authenticates, so the peer encrypted and sent it
        have hdatagram : { packet with payload := plaintext } ∈ openDatagram P secret
            engine.sessionId role.peer packetsPerKey data := by
          rw [openDatagram, hdecode, Option.mem_def]
          exact Option.map_eq_some_iff.2 ⟨plaintext, hopen, rfl⟩
        obtain ⟨s, hs, hseal⟩ := hpeer.sealed _ (hgen _ hdatagram)
        obtain ⟨-, hrange, -, hdata⟩ := hpeer.sent s hs
        obtain ⟨hpid, hpn, hpsize⟩ := Packet.encodable_of_decode hlen hdecode
        have hpacket := (openPayload_eq_some_iff hA).1 hopen
        have hsize : plaintext.length + aesGcmTagSize < 2 ^ 16 := by
          have hlength := congrArg (fun p => p.payload.length) hpacket
          simp only [sealPacket, AesCall.ciphertext, hA.length_encrypt, sealCall] at hlength
          simp only [maxPayloadSize, maxUdpDatagramSize, headerSize] at hpsize
          omega
        have hplain : { packet with payload := plaintext } = s.1 :=
          sealCall_inj ⟨hpid, hpn⟩ hrange hsize hseal
        refine Delivery.find_of_sealed hA hsent ?_
        rw [hplain] at hpacket
        have hencode := Packet.encode_of_decode hlen hdecode
        rw [hpacket, hdata] at hencode
        rw [hplain, hd, ← Except.ok.inj hencode]
        exact List.mem_map_of_mem hs
  · rintro ⟨hsource, hfind, hfresh⟩
    have hmem := Delivery.find_eq_some hfind
    have hencode := hsent _ hmem
    rw [hd, List.mem_map] at hmem
    obtain ⟨s, hs, hsplain⟩ := hmem
    obtain ⟨rfl, -⟩ := Prod.mk.inj hsplain
    obtain ⟨hid, -, htype, -⟩ := hpeer.sent s hs
    unfold TunnelEngine.opened
    rw [Packet.decode_of_encode hencode]
    simp only
    rw [if_pos ⟨hsource, hid, htype, (hR.isReplay_iff _).2 hfresh⟩,
      (openPayload_eq_some_iff hA).2 rfl]
    rfl

/-- An accepted packet is added to the window. -/
theorem Receiver.accept {d : Delivery} {engine engine' : TunnelEngine τ} (h : Receiver d engine)
    {packet : Packet} (hfresh : d.Fresh packet.sequenceNumber)
    (hmark : engine.replayWindow.markAuthenticated packet.sequenceNumber
      = .ok engine'.replayWindow) : Receiver (d.accept packet) engine' := by
  obtain ⟨w, hw, hsize, hrep⟩ := ReplayWindow.markAuthenticated_of_fresh h.window
    ((h.isReplay_iff _).2 hfresh)
  obtain rfl : engine'.replayWindow = w := Except.ok.inj (hmark.symm.trans hw)
  refine ⟨hsize.trans h.size, ?_⟩
  have hset : {n : ℤ | ∃ m ∈ (d.accept packet).accepted, n = m}
      = insert (packet.sequenceNumber : ℤ) {n : ℤ | ∃ m ∈ d.accepted, n = m} := by
    ext n
    simp [Delivery.accept]
  rw [hset]
  exact hrep

/-! ## One end of a run -/

/-- After a trace, one end of the tunnel has sent, received and written as it should. -/
structure End (P : Primitives) (secret : Bytes) (sessionId packetsPerKey : ℕ)
    (role : EndpointRole) (remote : Address) (engine : TunnelEngine τ)
    (trace : List (EndpointRole × Effect τ)) : Prop where
  sender : Sender P secret sessionId role packetsPerKey engine (effectsOf role trace)
  receiver : Receiver (deliveries role remote trace) engine
  remoteAddress : engine.remoteAddress = remote
  written : writes (effectsOf role trace) = (deliveries role remote trace).delivered

/-- The peer's iterations concern an end only in what they send. -/
theorem End.peer {remote : Address} {engine : TunnelEngine τ}
    {trace : List (EndpointRole × Effect τ)}
    (h : End P secret sessionId packetsPerKey role remote engine trace) (l : List (Effect τ)) :
    End P secret sessionId packetsPerKey role remote engine
      (trace ++ l.map (Prod.mk role.peer)) := by
  have heffects : effectsOf role (trace ++ l.map (Prod.mk role.peer)) = effectsOf role trace := by
    rw [effectsOf_append, effectsOf_map_of_ne role.peer_ne, List.append_nil]
  obtain ⟨hacc, hdel⟩ := deliveries_peer role remote trace l
  refine ⟨by rw [heffects]; exact h.sender, ⟨h.receiver.size, ?_⟩, h.remoteAddress,
    by rw [heffects, hdel]; exact h.written⟩
  rw [hacc]
  exact h.receiver.window

/-- Effects of the end itself without an arrival and without a write. -/
theorem End.extend {remote : Address} {engine engine' : TunnelEngine τ}
    {trace : List (EndpointRole × Effect τ)}
    (h : End P secret sessionId packetsPerKey role remote engine trace) {l : List (Effect τ)}
    (hl : ∀ e ∈ l, ∀ data source, e ≠ .receive data source) (hwrites : writes l = [])
    (hsender : Sender P secret sessionId role packetsPerKey engine' (effectsOf role trace ++ l))
    (hwindow : engine'.replayWindow = engine.replayWindow)
    (hremote : engine'.remoteAddress = engine.remoteAddress) :
    End P secret sessionId packetsPerKey role remote engine'
      (trace ++ l.map (Prod.mk role)) := by
  refine ⟨?_, ⟨?_, ?_⟩, hremote.trans h.remoteAddress, ?_⟩
  · rw [effectsOf_append, effectsOf_map_self]
    exact hsender
  · rw [hwindow]
    exact h.receiver.size
  · rw [hwindow, deliveries_self hl]
    exact h.receiver.window
  · rw [deliveries_self hl, effectsOf_append, effectsOf_map_self, writes_append, hwrites,
      List.append_nil]
    exact h.written

/-- Calls into the cryptography package are no arrivals. -/
theorem crypto_ne_receive {calls : List CryptoCall} {e : Effect τ}
    (he : e ∈ calls.map Effect.crypto) (data : Bytes) (source : Address) :
    e ≠ .receive data source := by
  obtain ⟨call, -, rfl⟩ := List.mem_map.1 he
  simp

/-- A send leaves the end as it should be. -/
theorem end_sendPacket (hA : P.LawfulAead) (hH : P.LawfulHkdf) {messageType : MessageType}
    (htype : messageType = .data ∨ messageType = .keepalive) (payload : Bytes)
    {remote : Address} {engine : TunnelEngine τ} {trace : List (EndpointRole × Effect τ)}
    (h : End P secret sessionId packetsPerKey role remote engine trace) :
    wp (TunnelEngine.sendPacket P messageType payload none) engine (fun _ engine' t =>
      End P secret sessionId packetsPerKey role remote engine'
        (trace ++ t.map (Prod.mk role))) := by
  obtain ⟨log, huses⟩ := h.sender.uses
  refine wp_mono (TunnelEngine.sendPacket_spec hA hH huses messageType payload none) ?_
  rintro r engine' t ⟨c, n, calls, rfl, hder, -, hends⟩
  have hsender := h.sender.sendEnds ⟨_, huses.withCipher hder n⟩ htype hends
  refine h.extend (fun e he data source => ?_) (writes_eq_nil fun e he payload => ?_) hsender
    rfl rfl
  · rcases hends.effects he with ⟨call, rfl⟩ | ⟨data, destination, rfl⟩ <;> simp
  · rcases hends.effects he with ⟨call, rfl⟩ | ⟨data, destination, rfl⟩ <;> simp

/-- An arrival, the cipher's calls for it and the write that it may cause. -/
theorem End.arrive {remote : Address} {engine engine' : TunnelEngine τ}
    {trace : List (EndpointRole × Effect τ)}
    (h : End P secret sessionId packetsPerKey role remote engine trace) {data : Bytes}
    {source : Address} {calls : List CryptoCall} (haes : aesCalls calls = [])
    (huses : ∃ log, engine'.Uses P log secret sessionId role packetsPerKey)
    (hremote : engine'.remoteAddress = engine.remoteAddress) (payload : Option Bytes)
    {d : Delivery} (hd : d = Delivery.event role remote (deliveries role remote trace)
      (role, (Effect.receive data source : Effect τ)))
    (hreceiver : Receiver d engine')
    (hdelivered : d.delivered = (deliveries role remote trace).delivered ++ payload.toList) :
    End P secret sessionId packetsPerKey role remote engine'
      (trace ++ (.receive data source :: (calls.map .crypto ++ payload.toList.map .write)).map
        (Prod.mk role)) := by
  have hevents : deliveries role remote (trace ++ (Effect.receive data source ::
      (calls.map .crypto ++ payload.toList.map .write)).map (Prod.mk role)) = d := by
    rw [List.map_cons, List.append_cons, deliveries_self ?_, deliveries_concat, hd]
    intro e he data source
    rcases List.mem_append.1 he with he | he
    · exact crypto_ne_receive he data source
    · obtain ⟨payload, -, rfl⟩ := List.mem_map.1 he
      simp
  refine ⟨?_, ?_, hremote.trans h.remoteAddress, ?_⟩
  · rw [effectsOf_append, effectsOf_map_self]
    refine h.sender.append huses ?_ ?_
    · cases payload <;> simp
    · cases payload <;> simpa using haes
  · rw [hevents]
    exact hreceiver
  · rw [hevents, hdelivered, effectsOf_append, effectsOf_map_self, writes_append, h.written]
    cases payload <;> simp

/-- An arrival leaves the end as it should be, if the peer's end is. -/
theorem end_receiveUdpPacket (hA : P.LawfulAead) (hH : P.LawfulHkdf) {peer : TunnelEngine τ}
    {remote : Address} {engine : TunnelEngine τ} {trace : List (EndpointRole × Effect τ)}
    (hpeer : Sender P secret sessionId role.peer packetsPerKey peer (effectsOf role.peer trace))
    (h : End P secret sessionId packetsPerKey role remote engine trace) (datagram : Bytes)
    (source : Address) (input : IterationInput τ) :
    wp (TunnelEngine.receiveUdpPacket P (.ok (datagram, source)) input) engine
      (fun _ engine' t =>
        OnlyPeerEncrypts P secret sessionId packetsPerKey (trace ++ t.map (Prod.mk role)) →
        End P secret sessionId packetsPerKey role remote engine'
          (trace ++ t.map (Prod.mk role))) := by
  obtain ⟨log, huses⟩ := h.sender.uses
  refine wp_mono (TunnelEngine.receiveUdpPacket_spec hH huses datagram source input) ?_
  rintro r engine' t ⟨c, calls, window, now, rfl, hder, haes, hends⟩ honly
  have huses' : ((engine.withCipher c engine.sequenceNumber).authenticated window now).Uses P
      (log ++ hkdfCalls calls) secret sessionId role packetsPerKey :=
    ⟨⟨c, rfl, hder⟩, huses.sessionId_eq, huses.sessionId_lt⟩
  have hlen : (datagram.take maxUdpDatagramSize).length ≤ maxUdpDatagramSize :=
    List.length_take_le _ _
  have hgen : Genuine P secret sessionId role.peer packetsPerKey
      (aesCalls (cryptoCalls (effectsOf role.peer trace))) (datagram.take maxUdpDatagramSize) := by
    cases hends with
    | dropped _ => exact honly.at
    | accepted _ _ _ _ => exact honly.at
  have hiff := opened_iff hA h.sender.uses h.receiver hpeer (sent_deliveries trace) hlen hgen
    source
  rw [h.remoteAddress] at hiff
  cases hends with
  | dropped hnone =>
      -- the specification drops the datagram as well
      have hevent : Delivery.event role remote (deliveries role remote trace)
          (role, (Effect.receive (datagram.take maxUdpDatagramSize) source : Effect τ))
          = deliveries role remote trace := by
        simp only [hnone, reduceCtorEq, false_iff, not_and] at hiff
        by_cases hsource : source = remote
        · rw [Delivery.event, if_pos ⟨rfl, hsource⟩, Delivery.arrive]
          cases hfind : (deliveries role remote trace).find
              (datagram.take maxUdpDatagramSize) with
          | none => rfl
          | some plain => exact if_neg (hiff plain hsource hfind)
        · rw [Delivery.event, if_neg fun h => hsource h.2]
      have hend := h.arrive haes ⟨_, huses'⟩ rfl none hevent.symm
        ⟨h.receiver.size, h.receiver.window⟩ (List.append_nil _).symm
      rwa [Option.toList_none, List.map_nil, List.append_nil] at hend
  | accepted packet window hopened hwindow =>
      obtain ⟨hsource, hfind, hfresh⟩ := (hiff packet).1 hopened
      have hevent : Delivery.event role remote (deliveries role remote trace)
          (role, (Effect.receive (datagram.take maxUdpDatagramSize) source : Effect τ))
          = (deliveries role remote trace).accept packet := by
        rw [Delivery.event, if_pos ⟨rfl, hsource⟩, Delivery.arrive, hfind]
        exact if_pos hfresh
      refine h.arrive haes ⟨_, huses'⟩ rfl (TunnelEngine.deliverPayload packet) hevent.symm
        (h.receiver.accept hfresh hwindow) ?_
      -- the peer sends nothing but DATA and KEEPALIVE packets
      have hsent := Delivery.find_eq_some hfind
      rw [sent_deliveries, List.mem_map] at hsent
      obtain ⟨s, hs, hspacket⟩ := hsent
      obtain ⟨rfl, -⟩ := Prod.mk.inj hspacket
      rw [Delivery.accept, TunnelEngine.deliverPayload]
      rcases (hpeer.sent s hs).2.2.1 with htype | htype
      · simp [htype]
      · simp [htype]

/-- The invariant of an iteration that starts after `before`: the end is as it should be,
if only the peer has the keys it opens datagrams with. -/
def EndInvariant (P : Primitives) (secret : Bytes) (sessionId packetsPerKey : ℕ)
    (role : EndpointRole) (remote : Address) (before : List (EndpointRole × Effect τ))
    (engine : TunnelEngine τ) (t : List (Effect τ)) : Prop :=
  OnlyPeerEncrypts P secret sessionId packetsPerKey (before ++ t.map (Prod.mk role)) →
    End P secret sessionId packetsPerKey role remote engine (before ++ t.map (Prod.mk role))

/-- A part of the iteration that leaves the end as it should be keeps the invariant. -/
theorem endInvariant_preserves {α : Type} {remote : Address}
    {before : List (EndpointRole × Effect τ)}
    {m : Program PyError (Effect τ) (TunnelEngine τ) α}
    (hm : ∀ engine (l : List (Effect τ)), End P secret sessionId packetsPerKey role remote engine
        (before ++ l.map (Prod.mk role)) →
      wp m engine fun _ engine' t => OnlyPeerEncrypts P secret sessionId packetsPerKey
          ((before ++ l.map (Prod.mk role)) ++ t.map (Prod.mk role)) →
        End P secret sessionId packetsPerKey role remote engine'
          ((before ++ l.map (Prod.mk role)) ++ t.map (Prod.mk role))) :
    Preserves (EndInvariant P secret sessionId packetsPerKey role remote before)
      (EndInvariant P secret sessionId packetsPerKey role remote before) m := by
  refine preserves_self_iff.2 fun engine l hI honly => ?_
  rw [List.map_append, ← List.append_assoc] at honly ⊢
  exact hm engine l (hI honly.of_append) honly

/-- **One iteration.** It leaves the end as it should be. -/
theorem end_runOnce [Zero τ] [Add τ] [Sub τ] [LT τ] [LE τ] [DecidableEq τ] [DecidableLT τ]
    [DecidableLE τ] (hA : P.LawfulAead) (hH : P.LawfulHkdf) {peer : TunnelEngine τ}
    (remote : Address) {before : List (EndpointRole × Effect τ)}
    (hpeer : Sender P secret sessionId role.peer packetsPerKey peer (effectsOf role.peer before))
    {input : IterationInput τ} (hinput : input.tunSendFailure = none ∧
      input.keepaliveSendFailure = none) (timeout : Option τ) :
    Preserves (EndInvariant P secret sessionId packetsPerKey role remote before)
      (EndInvariant P secret sessionId packetsPerKey role remote before)
      (TunnelEngine.runOnce P input timeout) := by
  refine TunnelEngine.runOnce_preserves (fun _ _ h => h) input timeout (fun v => ?_)
    (fun payload _ => ?_) ?_ (fun arrival _ => ?_) fun f => ?_
  · refine endInvariant_preserves fun engine l h _ => ?_
    exact h.extend (l := [.select v]) (by simp) rfl
      (h.sender.append h.sender.uses rfl rfl) rfl rfl
  · rw [hinput.1]
    exact endInvariant_preserves fun engine l h =>
      wp_mono (end_sendPacket hA hH (Or.inl rfl) payload h) fun _ _ _ hend _ => hend
  · rw [hinput.2]
    exact endInvariant_preserves fun engine l h =>
      wp_mono (end_sendPacket hA hH (Or.inr rfl) [] h) fun _ _ _ hend _ => hend
  · refine endInvariant_preserves fun engine l h => ?_
    have hpeer' : Sender P secret sessionId role.peer packetsPerKey peer
        (effectsOf role.peer (before ++ l.map (Prod.mk role))) := by
      rw [effectsOf_append, effectsOf_map_of_ne role.peer_ne.symm, List.append_nil]
      exact hpeer
    cases arrival with
    | ok arrival => exact end_receiveUdpPacket hA hH hpeer' h arrival.1 arrival.2 input
    | error e =>
        refine wp_mono (TunnelEngine.receiveUdpPacket_error e input engine) ?_
        rintro r engine' t ⟨rfl, rfl⟩ _
        simpa using h
  · refine endInvariant_preserves fun engine l h _ => ?_
    obtain ⟨log, ⟨c, hc, hder⟩, hid, hlt⟩ := h.sender.uses
    exact h.extend (l := []) (by simp) rfl
      (h.sender.append ⟨log, ⟨⟨c, hc, hder⟩, hid, hlt⟩⟩ rfl rfl) rfl rfl

/-! ## A run -/

section run

variable [Zero τ] [Add τ] [Sub τ] [LT τ] [LE τ] [DecidableEq τ] [DecidableLT τ]
  [DecidableLE τ]

/-- Both ends are as they should be. -/
def Tunnel.Sound (P : Primitives) (secret : Bytes) (sessionId packetsPerKey : ℕ)
    (remote : EndpointRole → Address) (tunnel : Tunnel τ) : Prop :=
  ∀ role, End P secret sessionId packetsPerKey role (remote role) (tunnel.engine role)
    tunnel.trace

omit [Sub τ] in
/-- The parts of a new end. -/
theorem Tunnel.newEnd_ok {remote : Address} {keepalive liveness now : τ}
    {engine : TunnelEngine τ}
    (h : newEnd P secret sessionId packetsPerKey role remote keepalive liveness now
      = .ok engine) :
    ∃ cipher, (createCipher P secret sessionId role packetsPerKey ()).result = .ok cipher ∧
      engine = ⟨remote, sessionId, 0, some cipher, .default, keepalive, liveness, now,
        now + keepalive⟩ := by
  unfold newEnd at h
  cases hc : (createCipher P secret sessionId role packetsPerKey ()).result with
  | error e =>
      rw [hc] at h
      cases h
  | ok cipher =>
      rw [hc] at h
      change TunnelEngine.new remote sessionId (some cipher) keepalive liveness now = _ at h
      exact ⟨cipher, rfl, TunnelEngine.new_ok h⟩

omit [Sub τ] in
/-- A new end is as it should be. -/
theorem end_new (hH : P.LawfulHkdf) {remote : Address} {keepalive liveness now : τ}
    {engine : TunnelEngine τ}
    (h : Tunnel.newEnd P secret sessionId packetsPerKey role remote keepalive liveness now
      = .ok engine) :
    End P secret sessionId packetsPerKey role remote engine [] := by
  obtain ⟨cipher, hc, rfl⟩ := Tunnel.newEnd_ok h
  obtain ⟨hsecret, hsid⟩ := createCipher_ok hc
  obtain ⟨-, -, c, hr, hder⟩ := createCipher_spec hH hsecret hsid role packetsPerKey ()
  obtain rfl : cipher = c := Except.ok.inj (hc.symm.trans hr)
  refine ⟨⟨⟨_, ⟨⟨cipher, rfl, hder⟩, rfl, hsid⟩⟩, by simp [effectsOf], by simp [effectsOf]⟩,
    ⟨rfl, ?_⟩, rfl, rfl⟩
  have hempty : {n : ℤ | ∃ m ∈ (deliveries role remote
      ([] : List (EndpointRole × Effect τ))).accepted, n = m} = ∅ := by
    simp [deliveries]
  rw [hempty]
  exact ReplayWindow.represents_new _ _

omit [Sub τ] in
/-- The parts of a new tunnel. -/
theorem Tunnel.new_ok {remote : EndpointRole → Address}
    {keepalive liveness now : EndpointRole → τ} {tunnel : Tunnel τ}
    (h : Tunnel.new P secret sessionId packetsPerKey remote keepalive liveness now = .ok tunnel) :
    tunnel.trace = [] ∧ ∀ role, newEnd P secret sessionId packetsPerKey role (remote role)
      (keepalive role) (liveness role) (now role) = .ok (tunnel.engine role) := by
  unfold Tunnel.new at h
  obtain ⟨client, hclient, h⟩ := except_bind_eq_ok.1 h
  obtain ⟨server, hserver, h⟩ := except_bind_eq_ok.1 h
  obtain rfl := Except.ok.inj h
  refine ⟨rfl, fun role => ?_⟩
  cases role with
  | client => exact hclient
  | server => exact hserver

omit [Sub τ] in
/-- A new tunnel is sound. -/
theorem Tunnel.sound_new (hH : P.LawfulHkdf) {remote : EndpointRole → Address}
    {keepalive liveness now : EndpointRole → τ} {tunnel : Tunnel τ}
    (h : Tunnel.new P secret sessionId packetsPerKey remote keepalive liveness now = .ok tunnel) :
    tunnel.Sound P secret sessionId packetsPerKey remote := by
  obtain ⟨htrace, hends⟩ := Tunnel.new_ok h
  intro role
  rw [htrace]
  exact end_new hH (hends role)

/-- **A step keeps both ends as they should be.** -/
theorem Tunnel.Sound.step (hA : P.LawfulAead) (hH : P.LawfulHkdf)
    {remote : EndpointRole → Address} {tunnel : Tunnel τ}
    (h : tunnel.Sound P secret sessionId packetsPerKey remote) {s : TunnelStep τ}
    (hs : s.SendsSucceed)
    (honly : OnlyPeerEncrypts P secret sessionId packetsPerKey (tunnel.step P s).trace) :
    (tunnel.step P s).Sound P secret sessionId packetsPerKey remote := by
  intro role
  by_cases hrole : role = s.role
  · subst hrole
    have hend := preserves_self_iff.1
      (end_runOnce hA hH (remote s.role) (h s.role.peer).sender hs s.timeout)
      (tunnel.engine s.role) [] (fun _ => by simpa using h s.role)
    simp only [Tunnel.step, Function.update_self]
    exact hend honly
  · have hpeer : s.role = role.peer := EndpointRole.eq_peer_of_ne fun h => hrole h.symm
    simp only [Tunnel.step, Function.update_of_ne hrole]
    rw [hpeer]
    exact (h role).peer _

/-- **A run keeps both ends as they should be.** -/
theorem Tunnel.Sound.run (hA : P.LawfulAead) (hH : P.LawfulHkdf)
    {remote : EndpointRole → Address} {tunnel : Tunnel τ}
    (h : tunnel.Sound P secret sessionId packetsPerKey remote) {steps : List (TunnelStep τ)}
    (hs : ∀ s ∈ steps, s.SendsSucceed)
    (honly : OnlyPeerEncrypts P secret sessionId packetsPerKey (tunnel.run P steps).trace) :
    (tunnel.run P steps).Sound P secret sessionId packetsPerKey remote := by
  induction steps using List.reverseRecOn with
  | nil => exact h
  | append_singleton steps s ih =>
      rw [Tunnel.run, List.foldl_concat] at honly ⊢
      have hbefore : OnlyPeerEncrypts P secret sessionId packetsPerKey
          (tunnel.run P steps).trace := honly.of_append
      exact Tunnel.Sound.step hA hH (ih (fun s' hs' => hs s' (List.mem_append_left _ hs')) hbefore)
        (hs s (by simp)) honly

/-- **Exact delivery.** In every run over every network, an engine writes to its TUN
device the payloads of the arriving datagrams that come from the configured remote
address, are byte-identical to a DATA datagram the peer sent and carry a fresh number,
and nothing else. -/
theorem Tunnel.writes_run (hA : P.LawfulAead) (hH : P.LawfulHkdf)
    {remote : EndpointRole → Address} {keepalive liveness now : EndpointRole → τ}
    {tunnel : Tunnel τ}
    (hnew : Tunnel.new P secret sessionId packetsPerKey remote keepalive liveness now
      = .ok tunnel)
    {steps : List (TunnelStep τ)} (hsends : ∀ s ∈ steps, s.SendsSucceed)
    (honly : OnlyPeerEncrypts P secret sessionId packetsPerKey (tunnel.run P steps).trace)
    (role : EndpointRole) :
    writes (effectsOf role (tunnel.run P steps).trace)
      = (deliveries role (remote role) (tunnel.run P steps).trace).delivered :=
  ((Tunnel.sound_new hH hnew).run hA hH hsends honly role).written

end run

/-! ## A sample run -/

/-- The address of the sample client or server. -/
def sampleAddress : EndpointRole → Address
  | .client => ⟨.ofOctets 192 0 2 1, 5000⟩
  | .server => ⟨.ofOctets 192 0 2 2, 5001⟩

/-- A sample secret. -/
def sampleSecret : Bytes := toBytes 32 sampleBase

/-- A tunnel of the sample primitives. -/
def sampleTunnel : Tunnel ℕ :=
  (Tunnel.new sample sampleSecret 7 2 (fun role => sampleAddress role.peer) (fun _ => 0)
    (fun _ => 0) (fun _ => 0)).toOption.get (by decide +kernel)

theorem sampleTunnel_new : Tunnel.new sample sampleSecret 7 2 (fun role => sampleAddress role.peer)
    (fun _ => 0) (fun _ => 0) (fun _ => 0) = .ok sampleTunnel := by
  unfold sampleTunnel
  exact eq_ok_get _

/-- An iteration in which nothing happens. -/
def idleInput : IterationInput ℕ where
  selectClock := 0
  tunRead := none
  tunSendFailure := none
  udpReceive := none
  receiveClock := 0
  tunWrite payload := .ok payload.length
  loopClock := 0
  keepaliveSendFailure := none

/-- The datagram in which the sample client sends a payload. -/
def sampleDatagram (sequenceNumber : ℕ) (payload : Bytes) : Bytes :=
  ((sealPacket sample sampleSecret 7 .client 2 ⟨.data, 7, sequenceNumber, payload⟩).encode
    ).toOption.getD []

/-- The client sends three packets; the network swaps them, repeats one, loses one and
adds a datagram of its own. -/
def sampleSteps : List (TunnelStep ℕ) :=
  let tun payload : TunnelStep ℕ :=
    ⟨.client, { idleInput with tunRead := some (.ok payload) }, none⟩
  let udp data : TunnelStep ℕ := ⟨.server,
    { idleInput with udpReceive := some (.ok (data, sampleAddress .client)) }, none⟩
  [tun [69, 1], tun [69, 2], tun [69, 3], udp (sampleDatagram 2 [69, 3]), udp [1, 2, 3],
    udp (sampleDatagram 0 [69, 1]), udp (sampleDatagram 2 [69, 3])]

theorem writes_run_sample :
    writes (effectsOf .server (sampleTunnel.run sample sampleSteps).trace)
      = (deliveries .server (sampleAddress .client)
          (sampleTunnel.run sample sampleSteps).trace).delivered ∧
    (deliveries .server (sampleAddress .client)
      (sampleTunnel.run sample sampleSteps).trace).delivered = [[69, 3], [69, 1]] :=
  ⟨Tunnel.writes_run sample_lawfulAead sample_lawfulHkdf sampleTunnel_new (by decide)
    (by decide +kernel) .server, by decide +kernel⟩

end MatfVpn
