/-
# Which profiles recover

An engine whose liveness timeout never fires does not end its session by itself, and it ignores
the messages of a handshake.  Its peer, once out of the session, never gets into another one.

* `Pair.Stuck` : one process in a session that its peer is not in, `Stuck.not_recoverable`;
* `Pair.Exhausted` : a process that used up its numbers, `Exhausted.not_recoverable`;
* `Pair.not_recoverable_new`, `Pair.not_recoverable_of_settimeout` : a process that no call lets
  into the tunnel;
* `recoverable_iff` : which profiles recover from every state.
-/
import MatfVpn.NonceUse
import MatfVpn.Recovery

namespace MatfVpn

open Program Relation

/-! ## An engine without liveness -/

/-- The datagram is no message of a handshake. -/
def NoHello (data : Bytes) : Prop :=
  ∀ packet, Packet.decode (data.take maxUdpDatagramSize) = .ok packet →
    packet.messageType = .data ∨ packet.messageType = .keepalive

/-- A part of an iteration that keeps the engine in its session, raises `OSError` only where the
liveness timeout `fires`, and leaves a time of the last receive with `Q`. -/
structure Persists {τ α : Type} (P : Primitives) (options : EndpointConfig τ)
    (role : EndpointRole) (packetsPerKey : ℕ) (Q : τ → Prop) (fires : Prop) (r : Except PyError α)
    (engine : TunnelEngine τ) (t : List (Effect τ)) : Prop where
  goesOn : ∀ e, r = .error e → e.isOSError = true → fires
  inSession : engine.InSession P options role packetsPerKey
  received : Q engine.lastAuthenticatedReceive
  noHello : ∀ x ∈ sends t, NoHello x.2.1

section engine

variable {τ : Type} {P : Primitives} {options : EndpointConfig τ} {role : EndpointRole}
  {packetsPerKey : ℕ} {Q : τ → Prop} {fires : Prop} {engine : TunnelEngine τ}

/-- A datagram that a packet of a session encodes is no message of a handshake. -/
theorem noHello_of_encode {packet : Packet} {data : Bytes} (h : packet.encode = .ok data)
    (htype : packet.messageType = .data ∨ packet.messageType = .keepalive) : NoHello data := by
  intro packet' hdecode
  rw [List.take_of_length_le (Packet.length_encode_le h), Packet.decode_of_encode h] at hdecode
  rw [← Except.ok.inj hdecode]
  exact htype

/-- One part after the other. -/
theorem persists_bind {α β : Type} {m : Program PyError (Effect τ) (TunnelEngine τ) α}
    {f : α → Program PyError (Effect τ) (TunnelEngine τ) β}
    (hm : wp m engine (Persists P options role packetsPerKey Q fires))
    (hf : ∀ a engine', engine'.InSession P options role packetsPerKey →
      Q engine'.lastAuthenticatedReceive →
      wp (f a) engine' (Persists P options role packetsPerKey Q fires)) :
    wp (m >>= f) engine (Persists P options role packetsPerKey Q fires) := by
  rw [wp_bind]
  refine wp_mono hm ?_
  rintro (e | a) engine' t ⟨hgoes, hsession, hreceived, hnone⟩
  · refine ⟨?_, hsession, hreceived, hnone⟩
    intro e' he'
    obtain rfl := Except.error.inj he'
    exact hgoes e rfl
  · refine wp_mono (hf a engine' hsession hreceived) ?_
    rintro r engine'' t' ⟨hgoes', hsession', hreceived', hnone'⟩
    refine ⟨hgoes', hsession', hreceived', ?_⟩
    intro x hx
    rw [sends_append] at hx
    rcases List.mem_append.1 hx with hx | hx
    · exact hnone x hx
    · exact hnone' x hx

/-- A packet that is sent without failure of the network. -/
theorem sendPacket_persists (hA : P.LawfulAead) (hH : P.LawfulHkdf)
    (h : engine.InSession P options role packetsPerKey)
    (hreceived : Q engine.lastAuthenticatedReceive) {messageType : MessageType}
    (htype : messageType = .data ∨ messageType = .keepalive) (payload : Bytes) :
    wp (TunnelEngine.sendPacket P messageType payload none) engine
      (Persists P options role packetsPerKey Q fires) := by
  obtain ⟨secret, sessionId, log, huses⟩ := h.uses
  refine wp_mono (TunnelEngine.sendPacket_spec hA hH huses messageType payload none) ?_
  rintro r engine' t ⟨c, n, calls, rfl, hder, -, hends⟩
  have hsession := h.withCipher huses.sessionId_eq huses.sessionId_lt hder n engine.replayWindow
    engine.lastAuthenticatedReceive
  cases hends with
  | exhausted _ _ =>
      refine ⟨?_, hsession, hreceived, nofun⟩
      intro e he hos
      obtain rfl := Except.error.inj he
      cases hos
  | tooLarge _ _ =>
      refine ⟨?_, hsession, hreceived, ?_⟩
      · intro e he hos
        obtain rfl := Except.error.inj he
        cases hos
      · rw [sends_map_crypto]
        exact nofun
  | failed e hfail _ _ _ => cases hfail
  | sent data _ _ _ _ hdata =>
      refine ⟨nofun, hsession, hreceived, ?_⟩
      rw [sends_append, sends_map_crypto]
      intro x hx
      rw [List.mem_singleton.1 hx]
      exact noHello_of_encode hdata htype

/-- A received datagram, when the TUN device writes every packet. -/
theorem receiveUdpPacket_persists (hH : P.LawfulHkdf)
    (h : engine.InSession P options role packetsPerKey)
    (hreceived : Q engine.lastAuthenticatedReceive) (datagram : Bytes) (source : Address)
    {input : IterationInput τ} (hclock : Q input.receiveClock)
    (hwrite : ∀ payload, input.tunWrite payload = .ok payload.length) :
    wp (TunnelEngine.receiveUdpPacket P (.ok (datagram, source)) input) engine
      (Persists P options role packetsPerKey Q fires) := by
  obtain ⟨secret, sessionId, log, huses⟩ := h.uses
  refine wp_mono (TunnelEngine.receiveUdpPacket_spec hH huses datagram source input) ?_
  rintro r engine' t ⟨c, calls, window, now, rfl, hder, -, hends⟩
  have hsession := h.withCipher huses.sessionId_eq huses.sessionId_lt hder
    engine.sequenceNumber window now
  refine ⟨?_, hsession, hends.now_of hreceived hclock, ?_⟩
  · cases hends with
    | dropped _ => exact nofun
    | accepted packet _ _ _ =>
        intro e he
        unfold TunnelEngine.deliverResult at he
        rw [hwrite] at he
        split at he
        · cases he
        · simp only [ne_eq, not_true_eq_false, if_false] at he
          cases he
  · intro x hx
    obtain ⟨e, he, hsend⟩ := List.mem_filterMap.1 hx
    rcases hends.effects he with rfl | ⟨call, rfl⟩ | ⟨payload, rfl⟩
    · cases hsend
    · cases hsend
    · cases hsend

variable [Zero τ] [Add τ] [Sub τ] [LT τ] [LE τ] [DecidableEq τ] [DecidableLT τ] [DecidableLE τ]

omit [LT τ] [DecidableLT τ] in
/-- The timers raise `OSError` when the liveness timeout has passed. -/
theorem checkTimers_persists (hA : P.LawfulAead) (hH : P.LawfulHkdf)
    (h : engine.InSession P options role packetsPerKey)
    (hreceived : Q engine.lastAuthenticatedReceive) {input : IterationInput τ}
    (hfailure : input.keepaliveSendFailure = none) :
    wp (TunnelEngine.checkTimers P input) engine (Persists P options role packetsPerKey Q
      (options.keepaliveInterval ≠ 0 ∧
        ∃ last, Q last ∧ options.livenessTimeout ≤ input.loopClock - last)) := by
  have hliveness : ∀ engine' : TunnelEngine τ, options.keepaliveInterval ≠ 0 →
      engine'.InSession P options role packetsPerKey → Q engine'.lastAuthenticatedReceive →
      wp (TunnelEngine.checkLiveness input.loopClock) engine' (Persists P options role packetsPerKey
        Q (options.keepaliveInterval ≠ 0 ∧
          ∃ last, Q last ∧ options.livenessTimeout ≤ input.loopClock - last)) := by
    intro engine' hinterval h' hreceived'
    refine wp_mono (TunnelEngine.checkLiveness_spec engine' input.loopClock) ?_
    rintro r engine'' t ⟨rfl, rfl, rfl⟩
    refine ⟨fun e he _ => ⟨hinterval, _, hreceived', ?_⟩, h', hreceived', nofun⟩
    by_contra hnot
    rw [h'.timeout, if_neg hnot] at he
    cases he
  rw [TunnelEngine.checkTimers_eq, wp_read_bind]
  by_cases hinterval : options.keepaliveInterval = 0
  · rw [if_neg (by rw [h.interval]; exact not_not.2 hinterval)]
    exact ⟨nofun, h, hreceived, nofun⟩
  rw [if_pos (by rw [h.interval]; exact hinterval)]
  split
  · rw [hfailure]
    refine persists_bind (sendPacket_persists hA hH h hreceived (Or.inr rfl) []) ?_
    intro _ engine' h' hreceived'
    rw [wp_update_bind]
    obtain ⟨⟨secret, sessionId, log, hcipher, hid, hlt⟩, hremote, hkeeps, htimeout⟩ := h'
    exact hliveness _ hinterval
      ⟨⟨secret, sessionId, log, hcipher, hid, hlt⟩, hremote, hkeeps, htimeout⟩ hreceived'
  · exact hliveness engine hinterval h hreceived

/-- **An iteration**, when nothing fails, raises `OSError` only if the liveness timeout has
passed. -/
theorem runOnce_persists (hA : P.LawfulAead) (hH : P.LawfulHkdf)
    (h : engine.InSession P options role packetsPerKey)
    (hreceived : Q engine.lastAuthenticatedReceive) {input : ProcessInput τ}
    (hinput : input.Healthy) (hclock : Q input.iteration.receiveClock)
    (datagram : Option (Bytes × Address)) :
    wp (TunnelEngine.runOnce P (input.iterationInput datagram) none) engine
      (Persists P options role packetsPerKey Q (options.keepaliveInterval ≠ 0 ∧
        ∃ last, Q last ∧ options.livenessTimeout ≤ input.iteration.loopClock - last)) := by
  have hnothing : ∀ (n : ℕ) (engine' : TunnelEngine τ) (fires : Prop),
      engine'.InSession P options role packetsPerKey → Q engine'.lastAuthenticatedReceive →
      wp (pure n) engine' (Persists P options role packetsPerKey Q fires) :=
    fun n engine' _ h' hreceived' => ⟨nofun, h', hreceived', nofun⟩
  unfold TunnelEngine.runOnce
  rw [wp_read_bind]
  refine persists_bind ⟨nofun, h, hreceived, nofun⟩ fun _ engine₁ h₁ hreceived₁ => ?_
  refine persists_bind ?_ fun fromTun engine₂ h₂ hreceived₂ => ?_
  · unfold TunnelEngine.forwardFromTun
    rcases hread : (input.iterationInput datagram).tunRead with _ | e | payload
    · exact hnothing 0 engine₁ _ h₁ hreceived₁
    · exact absurd hread (hinput.tunRead e)
    · refine persists_bind ?_ fun _ engine' h' => hnothing 1 engine' _ h'
      show wp (TunnelEngine.sendPacket P .data payload input.iteration.tunSendFailure) engine₁ _
      rw [hinput.tunSendFailure]
      exact sendPacket_persists hA hH h₁ hreceived₁ (Or.inl rfl) payload
  refine persists_bind ?_ fun fromUdp engine₃ h₃ hreceived₃ => ?_
  · unfold TunnelEngine.forwardFromUdp ProcessInput.iterationInput
    rw [hinput.receiveFailure]
    cases datagram with
    | none => exact hnothing 0 engine₂ _ h₂ hreceived₂
    | some d =>
        exact persists_bind
          (receiveUdpPacket_persists hH h₂ hreceived₂ d.1 d.2 hclock hinput.tunWrite)
          fun _ engine' h' => hnothing _ engine' _ h'
  exact persists_bind (checkTimers_persists hA hH h₃ hreceived₃ hinput.keepaliveSendFailure)
    fun _ engine' h' => hnothing _ engine' _ h'

/-! ## An engine without numbers -/

/-- The iteration ends with an exception that ends the process. -/
def Ends {α : Type} (r : Except PyError α) : Prop := ∃ e, r = .error e ∧ e.isOSError = false

omit [Zero τ] [Add τ] [Sub τ] [LT τ] [LE τ] [DecidableEq τ] [DecidableLT τ] [DecidableLE τ] in
/-- An engine that used up its numbers refuses to send. -/
theorem sendPacket_exhausted (hmax : maxSequenceNumber < engine.sequenceNumber)
    (messageType : MessageType) (payload : Bytes) (failure : Option PyError) :
    wp (TunnelEngine.sendPacket P messageType payload failure) engine fun r _ _ => Ends r := by
  unfold TunnelEngine.sendPacket
  rw [wp_read_bind, if_pos hmax]
  exact ⟨_, rfl, rfl⟩

/-- **An engine that used up its numbers** does not survive the next keepalive. -/
theorem runOnce_exhausted (hH : P.LawfulHkdf)
    (h : engine.InSession P options role packetsPerKey) (hinterval : options.keepaliveInterval ≠ 0)
    (hmax : maxSequenceNumber < engine.sequenceNumber) {input : ProcessInput τ}
    (hinput : input.Healthy) (hdue : engine.nextKeepalive ≤ input.iteration.loopClock)
    (datagram : Option (Bytes × Address)) :
    wp (TunnelEngine.runOnce P (input.iterationInput datagram) none) engine
      fun r _ _ => Ends r := by
  have htimers : ∀ (n : ℕ) (engine' : TunnelEngine τ),
      maxSequenceNumber < engine'.sequenceNumber → engine'.nextKeepalive = engine.nextKeepalive →
      engine'.keepaliveInterval = engine.keepaliveInterval →
      wp (TunnelEngine.checkTimers P (input.iterationInput datagram) >>= fun _ => pure n) engine'
        fun r _ _ => Ends r := by
    intro n engine' hmax' hnext' hinterval'
    unfold TunnelEngine.checkTimers
    rw [wp_bind, wp_read_bind, if_pos (by rw [hinterval', h.interval]; exact hinterval)]
    simp only
    rw [if_pos (by rw [hnext']; exact hdue), wp_bind]
    refine wp_mono (sendPacket_exhausted hmax' .keepalive [] _) ?_
    rintro r engine'' t ⟨e, rfl, he⟩
    exact ⟨e, rfl, he⟩
  unfold TunnelEngine.runOnce
  rw [wp_read_bind, wp_emit_bind]
  unfold TunnelEngine.forwardFromTun
  rcases hread : (input.iterationInput datagram).tunRead with _ | e | payload
  · simp only
    rw [wp_pure_bind]
    unfold TunnelEngine.forwardFromUdp ProcessInput.iterationInput
    rw [hinput.receiveFailure]
    cases datagram with
    | none => exact htimers _ engine hmax rfl rfl
    | some d =>
        obtain ⟨secret, sessionId, log, huses⟩ := h.uses
        simp only
        rw [wp_bind, wp_bind]
        have hpersists : wp (TunnelEngine.receiveUdpPacket P (.ok (d.1, d.2)) input.iteration)
            engine (Persists P options role packetsPerKey (fun _ => True) False) :=
          receiveUdpPacket_persists hH h trivial d.1 d.2 trivial hinput.tunWrite
        have hspec := TunnelEngine.receiveUdpPacket_spec hH huses d.1 d.2 input.iteration
        refine wp_mono (wp_and hpersists hspec) ?_
        rintro (e | accepted) engine' t ⟨hgoes, c, calls, window, now, rfl, -⟩
        · exact ⟨e, rfl, Bool.not_eq_true _ ▸ hgoes.goesOn e rfl⟩
        · exact htimers _ _ hmax rfl rfl
  · exact absurd hread (hinput.tunRead e)
  · simp only
    rw [wp_bind, wp_bind]
    show wp (TunnelEngine.sendPacket P .data payload input.iteration.tunSendFailure) engine _
    refine wp_mono (sendPacket_exhausted hmax .data payload _) ?_
    rintro r engine' t ⟨e, rfl, he⟩
    exact ⟨e, rfl, he⟩

end engine

/-! ## Entering the tunnel -/

section entering

variable {τ : Type} [Zero τ] [Add τ] [Sub τ] [LT τ] [LE τ] [DecidableEq τ] [DecidableLT τ]
  [DecidableLE τ] {P : Primitives} {W : WaitCalls τ} {options : EndpointConfig τ}
  {privateKey peerKey : Bytes} {packetsPerKey : ℕ} {input : ProcessInput τ}

/-- The tunnel is entered only with a name that the TUN device accepts. -/
theorem enterTunnel_running (hvalid : options.validate = .ok ()) (sessionId : ℤ)
    (cipher : Cipher) :
    wp (enterTunnel W options input sessionId cipher) () fun r _ _ =>
      ∀ phase, r = .ok phase → Char.ofNat 0 ∉ options.tunName.toList := by
  by_cases hname : Char.ofNat 0 ∈ options.tunName.toList
  · unfold enterTunnel
    rw [wp_bind, wp_ofExcept, newTunDevice_of_validate hvalid, if_pos hname]
    exact nofun
  · rw [wp]
    exact fun _ _ => hname

omit [Zero τ] [Add τ] [Sub τ] [LT τ] [LE τ] [DecidableEq τ] [DecidableLT τ] [DecidableLE τ] in
/-- A datagram that a handshake accepts is a message of a handshake. -/
theorem exists_hello {datagram : Option (Bytes × Address)} {data : Bytes} {source : Address}
    {packet : Packet} (harrival : input.arrival datagram = .ok (data, source))
    (hdecode : Packet.decode (data.take maxUdpDatagramSize) = .ok packet)
    (htype : packet.messageType = .serverHello ∨ packet.messageType = .clientHello) :
    ∃ d ∈ datagram, ¬ NoHello d.1 := by
  cases datagram with
  | none => cases harrival
  | some d =>
      refine ⟨d, rfl, ?_⟩
      intro hno
      rw [Except.ok.inj harrival] at hno
      rcases hno packet hdecode with hdata | hkeepalive
      · rw [hdata] at htype
        rcases htype with h | h <;> cases h
      · rw [hkeepalive] at htype
        rcases htype with h | h <;> cases h

/-- A session starts with a socket that takes the timeout of the handshake. -/
theorem Phase.next_apart (datagram : Option (Bytes × Address)) :
    wp (Phase.next P W options privateKey peerKey input datagram .apart) () fun r _ _ =>
      ∀ phase, r = .ok phase → W.settimeout options.handshakeTimeout = none := by
  unfold Phase.next
  rw [wp_bind]
  cases input.bindFailure with
  | some e => exact nofun
  | none =>
  refine wp_mono (R := fun r _ _ => r = .ok ()) rfl ?_
  rintro r ⟨⟩ t rfl
  simp only
  rw [wp_bind]
  refine wp_mono (refuses_spec _ ()) ?_
  rintro (e | _) ⟨⟩ t' ⟨-, -, -, hok⟩
  · exact nofun
  · exact fun _ _ => hok.1 rfl

/-- **A process enters the tunnel** with a message of its peer's handshake and with a name that
the TUN device accepts. -/
theorem Phase.next_running (hH : P.LawfulHkdf) (hvalid : options.validate = .ok ())
    (hkey : options.packetsPerKey = packetsPerKey) {phase : Phase τ}
    (hphase : ∀ engine, phase ≠ .running engine) (datagram : Option (Bytes × Address)) :
    wp (Phase.next P W options privateKey peerKey input datagram phase) () fun r _ _ =>
      ∀ engine, r = .ok (.running engine) →
        Char.ofNat 0 ∉ options.tunName.toList ∧ ∃ d ∈ datagram, ¬ NoHello d.1 := by
  cases phase with
  | running engine => exact absurd rfl (hphase engine)
  | apart =>
      unfold Phase.next
      rw [wp_bind]
      cases input.bindFailure with
      | some e => exact nofun
      | none =>
      refine wp_mono (R := fun r _ _ => r = .ok ()) rfl ?_
      rintro r ⟨⟩ t rfl
      simp only
      rw [wp_bind]
      refine wp_mono (refuses_spec _ ()) ?_
      rintro (e | _) ⟨⟩ t' -
      · exact nofun
      simp only
      by_cases hrole : options.role = some .client
      · rw [if_pos hrole, wp_bind, wp_ofExcept]
        cases createClientHello P privateKey peerKey input.entropy with
        | error e => exact nofun
        | ok created =>
            refine wp_mono (sendHello_returns created.1 created.2 input.sendFailure _) ?_
            intro r _ _ hreturns engine h
            obtain ⟨left, hleft⟩ := hreturns _ h
            cases hleft
      · rw [if_neg hrole]
        refine wp_mono (awaitHello_returns _) ?_
        intro r _ _ hreturns engine h
        obtain ⟨left, hleft⟩ := hreturns _ h
        cases hleft
  | helloSent hello state attempts =>
      unfold Phase.next
      rw [wp_bind, hkey]
      refine wp_mono (clientReceive_spec hH options.peer state packetsPerKey _) ?_
      rintro (e | _ | session) ⟨⟩ t hsession
      · exact nofun
      -- no session came of the datagram: whatever comes next, it is not a running engine
      · refine wp_mono (sendHello_returns hello state input.sendFailure attempts) ?_
        intro r _ _ hreturns engine h
        obtain ⟨left, hleft⟩ := hreturns _ h
        cases hleft
      · obtain ⟨-, data, source, response, harrival, hdecode, htype⟩ := hsession session rfl
        refine wp_mono (enterTunnel_running hvalid session.1 session.2) ?_
        exact fun r _ _ hname engine h =>
          ⟨hname _ h, exists_hello harrival hdecode (Or.inl htype)⟩
  | awaitingHello attempts =>
      unfold Phase.next
      rw [wp_bind, hkey]
      refine wp_mono (serverAttempt_spec hH options.peer privateKey peerKey packetsPerKey _) ?_
      rintro (e | _ | session) ⟨⟩ t hsession
      · exact nofun
      · refine wp_mono (awaitHello_returns attempts) ?_
        intro r _ _ hreturns engine h
        obtain ⟨left, hleft⟩ := hreturns _ h
        cases hleft
      · obtain ⟨-, data, source, hello, harrival, hdecode, htype⟩ := hsession session rfl
        refine wp_mono (enterTunnel_running hvalid session.1 session.2) ?_
        exact fun r _ _ hname engine h =>
          ⟨hname _ h, exists_hello harrival hdecode (Or.inr htype)⟩

omit [Zero τ] [Add τ] [Sub τ] [LT τ] [LE τ] [DecidableEq τ] [DecidableLT τ] [DecidableLE τ] in
/-- The datagrams that a part of an iteration sends. -/
theorem sentTo_map_effect {t : List (Effect τ)} {Q : Bytes → Prop}
    (h : ∀ x ∈ sends t, Q x.2.1) (address : Address) :
    ∀ data ∈ Pair.sentTo address (t.map SessionEffect.effect), Q data := by
  intro data hdata
  unfold Pair.sentTo at hdata
  rw [List.filterMap_map, Function.comp_def] at hdata
  obtain ⟨x, hx, hselect⟩ := List.mem_filterMap.1 hdata
  rw [show List.filterMap (fun e => (SessionEffect.effect e : SessionEffect τ).effect?) t = t from
    List.filterMap_some] at hx
  by_cases haddress : x.2.2 = address
  · rw [if_pos haddress] at hselect
    rw [← Option.some.inj hselect]
    exact h x hx
  · rw [if_neg haddress] at hselect
    cases hselect

/-- **A running process without failures** stays in its session unless its liveness timeout has
passed, and sends no message of a handshake. -/
theorem Phase.running_persists {role : EndpointRole} {engine : TunnelEngine τ}
    {Q : τ → Prop} (hA : P.LawfulAead) (hH : P.LawfulHkdf)
    (h : engine.InSession P options role packetsPerKey)
    (hreceived : Q engine.lastAuthenticatedReceive) (hinput : input.Healthy)
    (hclock : Q input.iteration.receiveClock) (datagram : Option (Bytes × Address))
    (address : Address) :
    wp (Phase.next P W options privateKey peerKey input datagram (.running engine)) () fun r _ t =>
      (∀ phase, r = .ok phase → ∃ engine', phase = .running engine') ∧
      (∀ e, r = .error e → e.isOSError = true → options.keepaliveInterval ≠ 0 ∧
        ∃ last, Q last ∧ options.livenessTimeout ≤ input.iteration.loopClock - last) ∧
      ∀ data ∈ Pair.sentTo address t, NoHello data := by
  unfold Phase.next
  rw [wp_bind, wp_zoom, wp_bind]
  refine wp_mono (runOnce_persists hA hH h hreceived hinput hclock datagram) ?_
  rintro (e | n) engine' t ⟨hgoes, -, -, hnone⟩
  · refine ⟨nofun, fun e' he' => ?_, sentTo_map_effect hnone address⟩
    rw [← Except.error.inj he']
    exact hgoes e rfl
  · simp only
    rw [wp_read]
    refine wp_mono (awaitSelect_spec engine' _) ?_
    rintro r ⟨⟩ t' ⟨rfl, hos, hruns⟩
    refine ⟨fun phase hphase => ⟨engine', (hruns phase hphase).1⟩, fun e he hose => ?_, ?_⟩
    · rw [hos e he] at hose
      cases hose
    · rw [List.append_nil, List.append_nil]
      exact sentTo_map_effect hnone address

end entering

/-! ## Stuck pairs -/

namespace Pair

variable {τ : Type} [AddCommGroup τ] [LinearOrder τ] {P : Primitives}
  {profiles : Profiles τ P} {pair pair' : Pair τ} {role : EndpointRole}

/-- One process is in a session and its peer is not, and no message of a handshake is on its way
to the peer. -/
structure Stuck (role : EndpointRole) (pair : Pair τ) : Prop where
  running : ∃ engine, pair.phase role = .running engine
  out : ∀ engine, pair.phase role.peer ≠ .running engine
  noHello : ∀ data ∈ pair.toEnd role.peer, NoHello data

omit [AddCommGroup τ] [LinearOrder τ] in
/-- What is left of the datagrams on their way. -/
theorem remaining_subset (pair : Pair τ) (role : EndpointRole) (received : Option ℕ) :
    pair.remaining role received ⊆ pair.toEnd role := by
  cases received with
  | none => exact fun _ h => h
  | some i => exact (List.eraseIdx_sublist ..).subset

omit [AddCommGroup τ] [LinearOrder τ] in
/-- A received datagram was on its way. -/
theorem mem_of_datagram? {address : EndpointRole → Address} {received : Option ℕ}
    {d : Bytes × Address} (h : pair.datagram? address role received = some d) :
    d.1 ∈ pair.toEnd role := by
  unfold datagram? at h
  obtain ⟨i, -, hi⟩ := Option.bind_eq_some_iff.1 h
  obtain ⟨data, hdata, rfl⟩ := Option.map_eq_some_iff.1 hi
  exact List.mem_of_getElem? hdata

omit [AddCommGroup τ] [LinearOrder τ] in
theorem Stuck.drop (h : pair.Stuck role) (who : EndpointRole) (i : ℕ) :
    (pair.drop who i).Stuck role := by
  refine ⟨h.running, h.out, ?_⟩
  intro data hdata
  change data ∈ Function.update pair.toEnd who _ role.peer at hdata
  by_cases hwho : role.peer = who
  · subst hwho
    rw [Function.update_self] at hdata
    exact h.noHello data (remaining_subset pair _ (some i) hdata)
  · rw [Function.update_of_ne hwho] at hdata
    exact h.noHello data hdata

omit [AddCommGroup τ] [LinearOrder τ] in
/-- Fewer datagrams on their way do not help. -/
theorem Stuck.sublist (h : pair.Stuck role) {kept : EndpointRole → List Bytes}
    (hkept : ∀ role, (kept role).Sublist (pair.toEnd role)) :
    ({ pair with toEnd := kept } : Pair τ).Stuck role :=
  ⟨h.running, h.out, fun data hdata => h.noHello data ((hkept role.peer).subset hdata)⟩

/-- The peer of the running process stays out of the tunnel. -/
theorem Stuck.step_peer (hH : P.LawfulHkdf) (h : pair.Stuck role)
    {input : ProcessInput (Seconds τ)} {received : Option ℕ} {phase : Phase (Seconds τ)}
    (hphase : pair.phase? profiles role.peer input received = some phase) :
    (pair.after profiles role.peer input received phase).Stuck role := by
  refine ⟨?_, ?_, ?_⟩
  · rw [after_phase_of_ne role.peer_ne.symm]
    exact h.running
  · rw [after_phase_self]
    rcases Phase.ofResult_eq_some.1 hphase with hok | ⟨rfl, -⟩
    · rintro engine rfl
      obtain ⟨-, d, hd, hhello⟩ := Phase.next_running hH (profiles.valid role.peer)
        (profiles.packetsPerKey_eq role.peer) h.out _ engine hok
      exact hhello (h.noHello d.1 (mem_of_datagram? hd))
    · exact nofun
  · rw [after_toEnd_self]
    intro data hdata
    exact h.noHello data (remaining_subset pair _ received hdata)

/-- A liveness timeout that has passed is one that passes. -/
theorem leaves_of_fires
    (hsleep : (profiles.waits role).sleep (profiles.options role).reconnectDelay = none)
    (hinterval : (profiles.options role).keepaliveInterval ≠ 0) {last now : Seconds τ}
    (hlast : ∃ t, last = .finite t) (hnow : ∃ t, now = .finite t)
    (hlate : (profiles.options role).livenessTimeout ≤ now - last) : profiles.Leaves role := by
  obtain ⟨hnumbers, -⟩ := EndpointConfig.validate_ok (profiles.valid role)
  obtain ⟨-, -, htogether⟩ := EndpointConfig.validateNumbers_ok hnumbers
  simp only [EndpointConfig.validateNumbers, ite_error_eq_ok] at hnumbers
  obtain ⟨-, -, -, -, hnegative, -⟩ := hnumbers
  refine ⟨htogether.1 hinterval, ?_, hsleep⟩
  exact Seconds.isFinite_of_le (fun hneg => hnegative (Or.inr hneg))
    (Seconds.isFinite_sub (Seconds.isFinite_iff.2 hnow) (Seconds.isFinite_iff.2 hlast)) hlate

/-- **A stuck pair stays stuck** when the running process cannot leave its session. -/
theorem Stuck.step (hA : P.LawfulAead) (hH : P.LawfulHkdf) (hsound : pair.Sound profiles)
    (hstays : ¬ profiles.Leaves role) (h : pair.Stuck role) {s : PairStep τ}
    (hs : s.Healthy) (hstep : pair.step profiles s = some pair') : pair'.Stuck role := by
  cases s with
  | unheard who i =>
      obtain ⟨-, rfl⟩ := step_unheard.1 hstep
      exact h.drop who i
  | lost who i => exact hs.elim
  | process who input received =>
  obtain ⟨⟨-, hticks, -⟩, phase, hphase, rfl⟩ := step_process.1 hstep
  by_cases hwho : who = role
  · subst hwho
    obtain ⟨engine, hengine⟩ := h.running
    have hsession := hsound.phase who
    rw [hengine] at hsession
    obtain ⟨t, ht⟩ := hsound.clock who
    rw [ht] at hticks
    obtain ⟨-, hclock, hloop⟩ := hticks.times
    have hnext : wp (Phase.next P (profiles.waits who) (profiles.options who)
        (profiles.privateKey who) (P.x25519Public (profiles.privateKey who.peer)) input
        (pair.datagram? profiles.address who received) (.running engine)) () _ :=
      Phase.running_persists (Q := fun time => ∃ t, time = .finite t) hA hH hsession
        (hsound.received who engine hengine) hs hclock _ (profiles.address who.peer)
    rw [← hengine] at hnext
    obtain ⟨hruns, hfires, hsent⟩ := hnext
    refine ⟨?_, ?_, ?_⟩
    · rw [after_phase_self]
      rcases Phase.ofResult_eq_some.1 hphase with hok | ⟨-, hsleep, e, he, hos⟩
      · exact hruns phase hok
      · obtain ⟨hinterval, last, hlast, hlate⟩ := hfires e he hos
        exact absurd (leaves_of_fires hsleep hinterval hlast hloop hlate) hstays
    · rw [after_phase_of_ne who.peer_ne]
      exact h.out
    · rw [after_toEnd_of_ne who.peer_ne]
      intro data hdata
      rcases List.mem_append.1 hdata with hdata | hdata
      · exact h.noHello data hdata
      · exact hsent data hdata
  · obtain rfl := EndpointRole.eq_peer_of_ne hwho
    exact h.step_peer hH hphase

theorem Stuck.continues (hA : P.LawfulAead) (hH : P.LawfulHkdf) (hsound : pair.Sound profiles)
    (hstays : ¬ profiles.Leaves role) (h : pair.Stuck role)
    (hrun : Continues profiles pair pair') : pair'.Stuck role := by
  induction hrun with
  | refl => exact h
  | tail hrun hstep ih =>
      obtain ⟨s, hs, hstep⟩ := hstep
      exact ih.step hA hH (hsound.continues hA hH hrun) hstays hs hstep

omit [AddCommGroup τ] [LinearOrder τ] in
/-- Two processes with a working session are both in it. -/
theorem Connected.running (h : pair.Connected P) (role : EndpointRole) :
    ∃ engine, pair.phase role = .running engine := by
  obtain ⟨client, server, _, _, hclient, hserver, -⟩ := h.engines
  cases role with
  | client => exact ⟨client, hclient⟩
  | server => exact ⟨server, hserver⟩

/-- **A stuck pair does not recover** when the running process cannot leave its session. -/
theorem Stuck.not_recoverable (hA : P.LawfulAead) (hH : P.LawfulHkdf)
    (hsound : pair.Sound profiles) (hstays : ¬ profiles.Leaves role) (h : pair.Stuck role) :
    ¬ pair.Recoverable profiles := by
  rintro ⟨kept, hkept, reached, hrun, hconnected, -⟩
  let start : Pair τ := { pair with toEnd := kept }
  have hsound' : start.Sound profiles := ⟨hsound.phase, hsound.clock, hsound.received⟩
  have hstart : start.Stuck role := h.sublist hkept
  have hreached : reached.Stuck role := hstart.continues hA hH hsound' hstays hrun
  obtain ⟨engine, hengine⟩ := hconnected.running role.peer
  exact hreached.out engine hengine

/-! ## Numbers that are used up -/

/-- One process cannot go on: it has no number left for the keepalive that is due. -/
structure Exhausted (profiles : Profiles τ P) (role : EndpointRole) (pair : Pair τ) : Prop where
  stuck : pair.Stuck role
  sound : pair.Sound profiles
  number : ∀ engine, pair.phase role = .running engine → maxSequenceNumber < engine.sequenceNumber
  due : ∀ engine, pair.phase role = .running engine → engine.nextKeepalive ≤ pair.clock role

/-- **Such a pair stays as it is**: the next step of the process would end it. -/
theorem Exhausted.step (hA : P.LawfulAead) (hH : P.LawfulHkdf)
    (hlive : (profiles.options role).livenessTimeout ≠ 0) (h : pair.Exhausted profiles role)
    {s : PairStep τ} (hs : s.Healthy) (hstep : pair.step profiles s = some pair') :
    pair'.Exhausted profiles role := by
  have hsound' : pair'.Sound profiles := h.sound.step hA hH hstep
  cases s with
  | unheard who i =>
      obtain ⟨-, rfl⟩ := step_unheard.1 hstep
      exact ⟨h.stuck.drop who i, hsound', h.number, h.due⟩
  | lost who i => exact hs.elim
  | process who input received =>
  obtain ⟨⟨-, hticks, -⟩, phase, hphase, rfl⟩ := step_process.1 hstep
  by_cases hwho : who = role
  · subst hwho
    exfalso
    obtain ⟨engine, hengine⟩ := h.stuck.running
    obtain ⟨hnumbers, -⟩ := EndpointConfig.validate_ok (profiles.valid who)
    obtain ⟨-, -, htogether⟩ := EndpointConfig.validateNumbers_ok hnumbers
    have hsession := h.sound.phase who
    rw [hengine] at hsession
    have hdue : engine.nextKeepalive ≤ input.iteration.loopClock :=
      Seconds.le_trans (Seconds.le_trans (Seconds.le_trans (Seconds.le_trans
        (h.due engine hengine) hticks.start) hticks.select) hticks.receive) hticks.loop
    have hends : wp (Phase.next P (profiles.waits who) (profiles.options who)
        (profiles.privateKey who) (P.x25519Public (profiles.privateKey who.peer)) input
        (pair.datagram? profiles.address who received) (.running engine)) ()
        fun r _ _ => Ends r := by
      unfold Phase.next
      rw [wp_bind, wp_zoom, wp_bind]
      refine wp_mono (runOnce_exhausted hH hsession (htogether.2 hlive)
        (h.number engine hengine) hs hdue _) ?_
      rintro r engine' t ⟨e, rfl, he⟩
      exact ⟨e, rfl, he⟩
    obtain ⟨e, hresult, he⟩ := hends
    rw [← hengine] at hresult
    have houtcome : (pair.outcome profiles who input received).result = .error e := hresult
    rw [phase?, houtcome] at hphase
    rcases Phase.ofResult_eq_some.1 hphase with hok | ⟨-, -, e', he', hos⟩
    · cases hok
    · rw [Except.error.inj he', hos] at he
      cases he
  · obtain rfl := EndpointRole.eq_peer_of_ne hwho
    refine ⟨h.stuck.step_peer hH hphase, hsound', ?_, ?_⟩
    · rw [after_phase_of_ne role.peer_ne.symm]
      exact h.number
    · rw [after_phase_of_ne role.peer_ne.symm]
      intro engine hengine
      rw [show (pair.after profiles role.peer input received phase).clock role
        = pair.clock role from Function.update_of_ne role.peer_ne.symm ..]
      exact h.due engine hengine

theorem Exhausted.continues (hA : P.LawfulAead) (hH : P.LawfulHkdf)
    (hlive : (profiles.options role).livenessTimeout ≠ 0) (h : pair.Exhausted profiles role)
    (hrun : Continues profiles pair pair') : pair'.Exhausted profiles role := by
  induction hrun with
  | refl => exact h
  | tail _ hstep ih =>
      obtain ⟨s, hs, hstep⟩ := hstep
      exact ih.step hA hH hlive hs hstep

/-- **An engine that used up its numbers** may leave a pair that does not recover, also with
liveness. -/
theorem Exhausted.not_recoverable (hA : P.LawfulAead) (hH : P.LawfulHkdf)
    (hlive : (profiles.options role).livenessTimeout ≠ 0) (h : pair.Exhausted profiles role) :
    ¬ pair.Recoverable profiles := by
  rintro ⟨kept, hkept, reached, hrun, hconnected, -⟩
  let start : Pair τ := { pair with toEnd := kept }
  have hstart : start.Exhausted profiles role :=
    ⟨h.stuck.sublist hkept, ⟨h.sound.phase, h.sound.clock, h.sound.received⟩, h.number, h.due⟩
  have hreached : reached.Exhausted profiles role := hstart.continues hA hH hlive hrun
  obtain ⟨engine, hengine⟩ := hconnected.running role.peer
  exact hreached.stuck.out engine hengine

/-! ## Names that the TUN device refuses -/

/-- A process with a NUL character in the name of its TUN device stays outside the tunnel. -/
theorem out_of_step (hH : P.LawfulHkdf)
    (hname : Char.ofNat 0 ∈ (profiles.options role).tunName.toList)
    (h : ∀ engine, pair.phase role ≠ .running engine) {s : PairStep τ}
    (hstep : pair.step profiles s = some pair') : ∀ engine, pair'.phase role ≠ .running engine := by
  cases s with
  | unheard who i =>
      obtain ⟨-, rfl⟩ := step_unheard.1 hstep
      exact h
  | lost who i =>
      obtain rfl := Option.some.inj hstep
      exact h
  | process who input received =>
      obtain ⟨-, phase, hphase, rfl⟩ := step_process.1 hstep
      by_cases hwho : role = who
      · subst hwho
        rw [after_phase_self]
        rcases Phase.ofResult_eq_some.1 hphase with hok | ⟨rfl, -⟩
        · rintro engine rfl
          exact (Phase.next_running hH (profiles.valid role) (profiles.packetsPerKey_eq role) h _
            engine hok).1 hname
        · exact nofun
      · rw [after_phase_of_ne hwho]
        exact h

theorem out_of_continues (hH : P.LawfulHkdf)
    (hname : Char.ofNat 0 ∈ (profiles.options role).tunName.toList)
    (h : ∀ engine, pair.phase role ≠ .running engine)
    (hrun : Continues profiles pair pair') : ∀ engine, pair'.phase role ≠ .running engine := by
  induction hrun with
  | refl => exact h
  | tail _ hstep ih =>
      obtain ⟨s, -, hstep⟩ := hstep
      exact out_of_step hH hname ih hstep

/-- **Such a pair does not recover** from its first state. -/
theorem not_recoverable_new (hH : P.LawfulHkdf)
    (hname : Char.ofNat 0 ∈ (profiles.options role).tunName.toList)
    (start : EndpointRole → τ) : ¬ (new start).Recoverable profiles := by
  rintro ⟨kept, -, reached, hrun, hconnected, -⟩
  obtain ⟨engine, hengine⟩ := hconnected.running role
  have hstart : ∀ engine, ({ new start with toEnd := kept } : Pair τ).phase role
      ≠ .running engine := by
    intro engine h
    cases h
  exact out_of_continues hH hname hstart hrun engine hengine

/-! ## Timeouts that the socket refuses -/

/-- A process whose socket refuses the timeout of the handshake stays without one. -/
theorem apart_of_step
    (htimeout : (profiles.waits role).settimeout (profiles.options role).handshakeTimeout ≠ none)
    (h : pair.phase role = .apart) {s : PairStep τ} (hstep : pair.step profiles s = some pair') :
    pair'.phase role = .apart := by
  cases s with
  | unheard who i =>
      obtain ⟨-, rfl⟩ := step_unheard.1 hstep
      exact h
  | lost who i =>
      obtain rfl := Option.some.inj hstep
      exact h
  | process who input received =>
      obtain ⟨-, phase, hphase, rfl⟩ := step_process.1 hstep
      by_cases hwho : role = who
      · subst hwho
        rw [after_phase_self]
        rcases Phase.ofResult_eq_some.1 hphase with hok | ⟨hapart, -⟩
        · rw [outcome, h] at hok
          exact absurd (Phase.next_apart _ phase hok) htimeout
        · exact hapart
      · rw [after_phase_of_ne hwho]
        exact h

theorem apart_of_continues
    (htimeout : (profiles.waits role).settimeout (profiles.options role).handshakeTimeout ≠ none)
    (h : pair.phase role = .apart) (hrun : Continues profiles pair pair') :
    pair'.phase role = .apart := by
  induction hrun with
  | refl => exact h
  | tail _ hstep ih =>
      obtain ⟨s, -, hstep⟩ := hstep
      exact apart_of_step htimeout ih hstep

/-- **Such a pair does not recover** from its first state. -/
theorem not_recoverable_of_settimeout
    (htimeout : (profiles.waits role).settimeout (profiles.options role).handshakeTimeout ≠ none)
    (start : EndpointRole → τ) : ¬ (new start).Recoverable profiles := by
  rintro ⟨kept, -, reached, hrun, hconnected, -⟩
  obtain ⟨engine, hengine⟩ := hconnected.running role
  have hstart : ({ new start with toEnd := kept } : Pair τ).phase role = .apart := rfl
  rw [apart_of_continues htimeout hstart hrun] at hengine
  cases hengine

/-! ## The profiles that recover -/

/-- A continuation without failures is a part of a run. -/
theorem Reachable.continues (h : pair.Reachable profiles) (hrun : Continues profiles pair pair') :
    pair'.Reachable profiles := by
  obtain ⟨start, hstart⟩ := h
  refine ⟨start, hstart.trans (ReflTransGen.mono ?_ _ _ hrun)⟩
  rintro a b ⟨s, -, hs⟩
  exact ⟨s, hs⟩

/-- The steps of a list lead from one state to another. -/
theorem reaches_of_steps {steps : List (PairStep τ)}
    (h : steps.foldlM (Pair.step profiles) pair = some pair') :
    ReflTransGen (fun a b => ∃ s, a.step profiles s = some b) pair pair' := by
  induction steps generalizing pair with
  | nil =>
      rw [Option.some.inj h]
  | cons s steps ih =>
      obtain ⟨next, hnext, hrest⟩ := Option.bind_eq_some_iff.1 h
      exact (ReflTransGen.single ⟨s, hnext⟩).trans (ih hrest)

/-- **Without liveness at the server** a lost response leaves it in a session alone. -/
theorem stuck_server (hA : P.LawfulAead) (hH : P.LawfulHkdf) (hM : P.LawfulHmac)
    (hX : P.LawfulX25519) (hN : P.NonzeroExchange) (profiles : Profiles τ P)
    (henters : ∀ role, profiles.Enters role) :
    ∃ pair : Pair τ, pair.Reachable profiles ∧ pair.CanSend ∧ pair.Stuck .server := by
  obtain ⟨e⟩ := Exchange.nonempty hA hH hM hX hN profiles
  let first : Pair τ := new 0
  have hfirst : ∀ role, first.phase role = .apart := fun _ => rfl
  obtain ⟨answered, now, hrun, hclient, hserver, hto, -⟩ :=
    answered hA hH e (henters .client).settimeout (henters .server) (sound_new 0) hfirst
      (fun _ => rfl)
  have hreachable : answered.Reachable profiles :=
    Reachable.continues ⟨0, .refl⟩ hrun
  obtain ⟨start, hstart⟩ := hreachable
  refine ⟨answered.drop .client 0, ⟨start, hstart.tail ⟨.lost .client 0, rfl⟩⟩, ?_,
    ⟨_, hserver⟩, ?_, ?_⟩
  · intro role engine hengine
    cases role with
    | client =>
        rw [show answered.phase .client = .running engine from hengine] at hclient
        cases hclient
    | server =>
        rw [show answered.phase .server = .running engine from hengine] at hserver
        cases hserver
        exact Nat.zero_le _
  · intro engine hengine
    rw [show answered.phase .client = .running engine from hengine] at hclient
    cases hclient
  · intro data hdata
    change data ∈ (answered.toEnd .client).eraseIdx 0 at hdata
    rw [hto] at hdata
    cases hdata

/-- **Without liveness at the client** it stays in a session that the server ended. -/
theorem stuck_client [IsOrderedAddMonoid τ] (hA : P.LawfulAead) (hH : P.LawfulHkdf)
    (hM : P.LawfulHmac) (hX : P.LawfulX25519) (hN : P.NonzeroExchange) (profiles : Profiles τ P)
    (henters : ∀ role, profiles.Enters role) (hleaves : profiles.Leaves .server) :
    ∃ pair : Pair τ, pair.Reachable profiles ∧ pair.CanSend ∧ pair.Stuck .client := by
  obtain ⟨e⟩ := Exchange.nonempty hA hH hM hX hN profiles
  let first : Pair τ := new 0
  have hfirst : ∀ role, first.phase role = .apart := fun _ => rfl
  obtain ⟨pair₁, now, hrun₁, hclient₁, hserver₁, hto₁, hfrom₁⟩ :=
    answered hA hH e (henters .client).settimeout (henters .server) (sound_new 0) hfirst
      (fun _ => rfl)
  have hsound₁ : pair₁.Sound profiles := (sound_new 0).continues hA hH hrun₁
  obtain ⟨pair₂, now', hrun₂, -, hempty₂, hclient₂, hserver₂⟩ :=
    connected e (henters .client) hsound₁ hclient₁ hserver₁ hto₁ hfrom₁
  have hreachable : pair₂.Reachable profiles :=
    Reachable.continues ⟨0, .refl⟩ (hrun₁.trans hrun₂)
  rw [hserver₁] at hserver₂
  obtain ⟨pair₃, hrun₃, heq₃, hempty₃⟩ := settle_running hA hH
    (Sound.reachable hA hH hreachable) hserver₂ hleaves (Nat.zero_le _)
  have hclient₃ : pair₃.phase .client = pair₂.phase .client := by
    rw [heq₃]
    rfl
  have hserver₃ : pair₃.phase .server = .apart := by
    rw [heq₃]
    rfl
  refine ⟨pair₃, hreachable.continues hrun₃, ?_, ⟨_, hclient₃.trans hclient₂⟩, ?_, ?_⟩
  · intro role engine hengine
    cases role with
    | client =>
        rw [hclient₃, hclient₂] at hengine
        cases hengine
        exact Nat.zero_le _
    | server =>
        rw [hserver₃] at hengine
        cases hengine
  · show ∀ engine, pair₃.phase .server ≠ .running engine
    rw [hserver₃]
    exact nofun
  · show ∀ data ∈ pair₃.toEnd .server, NoHello data
    rw [hempty₃, hempty₂]
    exact nofun

end Pair

/-- **The profiles that recover** from every state, among those whose keepalive interval `select`
takes: both have a liveness timeout that is a time, the machines take the timeouts of the
handshake and the delays, and the TUN devices take both names. -/
theorem recoverable_iff {τ : Type} [AddCommGroup τ] [LinearOrder τ] [IsOrderedAddMonoid τ]
    {P : Primitives} (hA : P.LawfulAead) (hH : P.LawfulHkdf) (hM : P.LawfulHmac)
    (hX : P.LawfulX25519) (hN : P.NonzeroExchange) (profiles : Profiles τ P)
    (hselect : ∀ role, (profiles.options role).firstWait.bind (profiles.waits role).select
      = none) :
    (∀ pair : Pair τ, pair.Reachable profiles → pair.CanSend → pair.Recoverable profiles) ↔
      ∀ role, (profiles.options role).livenessTimeout ≠ 0 ∧
        (profiles.options role).livenessTimeout.isFinite = true ∧
        (profiles.waits role).settimeout (profiles.options role).handshakeTimeout = none ∧
        (profiles.waits role).sleep (profiles.options role).reconnectDelay = none ∧
        Char.ofNat 0 ∉ (profiles.options role).tunName.toList := by
  constructor
  · intro h
    have hnew : (Pair.new 0 : Pair τ).Recoverable profiles := h _ ⟨0, .refl⟩ nofun
    have henters : ∀ role, profiles.Enters role := by
      intro role
      refine ⟨fun hname => ?_, ?_, hselect role⟩
      · exact Pair.not_recoverable_new hH hname 0 hnew
      · by_contra htimeout
        exact Pair.not_recoverable_of_settimeout htimeout 0 hnew
    have hserver : profiles.Leaves .server := by
      by_contra hstays
      obtain ⟨pair, hreachable, hsend, hstuck⟩ :=
        Pair.stuck_server hA hH hM hX hN profiles henters
      exact hstuck.not_recoverable hA hH (Pair.Sound.reachable hA hH hreachable) hstays
        (h pair hreachable hsend)
    have hclient : profiles.Leaves .client := by
      by_contra hstays
      obtain ⟨pair, hreachable, hsend, hstuck⟩ :=
        Pair.stuck_client hA hH hM hX hN profiles henters hserver
      exact hstuck.not_recoverable hA hH (Pair.Sound.reachable hA hH hreachable) hstays
        (h pair hreachable hsend)
    have hleaves : ∀ role, profiles.Leaves role := by
      intro role
      cases role with
      | client => exact hclient
      | server => exact hserver
    exact fun role => ⟨(hleaves role).liveness, (hleaves role).finite, (henters role).settimeout,
      (hleaves role).sleep, (henters role).tunName⟩
  · intro h pair hreachable hsend
    refine Pair.recoverable hA hH hM hX hN (fun role => ?_) (fun role => ?_)
      (Pair.Sound.reachable hA hH hreachable) hsend
    · obtain ⟨hlive, hfinite, -, hsleep, -⟩ := h role
      exact ⟨hlive, hfinite, hsleep⟩
    · obtain ⟨-, -, htimeout, -, hname⟩ := h role
      exact ⟨hname, htimeout, hselect role⟩

/-! ## A sample pair -/

/-- The calls of a machine with 64 bits of nanoseconds. -/
def sampleWait : Seconds ℤ → Option WaitError
  | .nan => some (.valueError "Invalid value NaN (not a number)")
  | .infinity _ => some (.overflowError "timestamp out of range for platform time_t")
  | .finite seconds =>
      if seconds * 10 ^ 9 < 2 ^ 63 then none
      else some (.overflowError "timestamp out of range for platform time_t")

/-- The sample endpoints with these values for keepalive and liveness. -/
def sampleLive (interval timeout : Seconds ℤ) (role : EndpointRole) :
    EndpointConfig (Seconds ℤ) where
  tunName := "mvpn0"
  tunAddress := "10.8.0.1/24"
  bind := sampleAddress role
  peer := sampleAddress role.peer
  mtu := 1400
  sessionId := 1
  keyFile := none
  privateKeyFile := some "private.key"
  peerPublicKeyFile := some "peer.pub"
  role := some role
  ephemeralHandshake := true
  handshakeTimeout := .finite 3
  packetsPerKey := 1000
  reconnectDelay := .finite 1
  keepaliveInterval := interval
  livenessTimeout := timeout

/-- The profiles of the sample endpoints. -/
def sampleProfiles (interval timeout : Seconds ℤ)
    (h : ∀ role, (sampleLive interval timeout role).validate = .ok ()) : Profiles ℤ sample where
  options := sampleLive interval timeout
  waits _ := ⟨sampleWait, sampleWait, sampleWait⟩
  files := sampleFiles
  privateKey := samplePrivateKey
  address := sampleAddress
  packetsPerKey := 1000
  valid := h
  role_eq _ := rfl
  ephemeral _ := rfl
  packetsPerKey_eq _ := rfl
  privateKey_eq role := by
    show loadX25519PrivateKey (sampleFiles role) "private.key" = _
    cases role <;> decide +kernel
  peerKey_eq role := by
    show loadX25519PublicKey (sampleFiles role) "peer.pub" = _
    cases role <;> decide +kernel
  peer_eq _ := rfl

/-- The sample endpoints without keepalive and liveness, as by default. -/
def sampleDefault : Profiles ℤ sample :=
  sampleProfiles 0 0 fun role => by cases role <;> decide +kernel

/-- The server starts, the client sends its hello, the server answers, and the answer is lost. -/
def sampleLoss : List (PairStep ℤ) :=
  [.process .server (.quiet 0 0) none, .process .client (.quiet 0 0) none,
    .process .server (.quiet 0 0) (some 0), .lost .client 0]

/-- The sample pair after the lost answer. -/
@[irreducible] def sampleLost : Pair ℤ :=
  (sampleLoss.foldlM (Pair.step sampleDefault) (.new 0)).get (by decide +kernel)

theorem sampleLost_reachable : sampleLost.Reachable sampleDefault := by
  refine ⟨0, Pair.reaches_of_steps (?_ : sampleLoss.foldlM _ _ = _)⟩
  unfold sampleLost
  exact (Option.some_get _).symm

/-- The number of the next packet of a process in the tunnel. -/
def Phase.nextNumber? {τ : Type} : Phase τ → Option ℕ
  | .running engine => some engine.sequenceNumber
  | _ => none

theorem Phase.nextNumber?_eq_some {τ : Type} {phase : Phase τ} {n : ℕ} :
    phase.nextNumber? = some n ↔ ∃ engine, phase = .running engine ∧ engine.sequenceNumber = n := by
  constructor
  · intro h
    cases phase with
    | running engine => exact ⟨engine, rfl, Option.some.inj h⟩
    | apart => cases h
    | helloSent hello state attempts => cases h
    | awaitingHello attempts => cases h
  · rintro ⟨engine, rfl, rfl⟩
    rfl

theorem sampleLost_client : (sampleLost.phase .client).nextNumber? = none := by decide +kernel

theorem sampleLost_server : (sampleLost.phase .server).nextNumber? = some 0 := by decide +kernel

theorem sampleLost_toEnd : sampleLost.toEnd .client = [] := by decide +kernel

/-- The client is in no session. -/
theorem sampleLost_out (engine : TunnelEngine (Seconds ℤ)) :
    sampleLost.phase .client ≠ .running engine := by
  intro h
  have hnone := sampleLost_client
  rw [Phase.nextNumber?_eq_some.2 ⟨engine, h, rfl⟩] at hnone
  cases hnone

theorem sampleLost_canSend : sampleLost.CanSend := by
  intro role engine hengine
  cases role with
  | client => exact absurd hengine (sampleLost_out engine)
  | server =>
      have h := sampleLost_server
      rw [Phase.nextNumber?_eq_some.2 ⟨engine, hengine, rfl⟩] at h
      rw [Option.some.inj h]
      exact Nat.zero_le _

/-- The server is in a session that the client never enters. -/
theorem sampleLost_stuck : sampleLost.Stuck .server := by
  obtain ⟨engine, hengine, -⟩ := Phase.nextNumber?_eq_some.1 sampleLost_server
  refine ⟨⟨engine, hengine⟩, sampleLost_out, ?_⟩
  intro data hdata
  rw [show EndpointRole.server.peer = .client from rfl, sampleLost_toEnd] at hdata
  cases hdata

/-- Without liveness a lost answer ends the connection for good. -/
theorem sampleLost_not_recoverable : sampleLost.Reachable sampleDefault ∧ sampleLost.CanSend ∧
    ¬ sampleLost.Recoverable sampleDefault := by
  refine ⟨sampleLost_reachable, sampleLost_canSend, ?_⟩
  have hsound : sampleLost.Sound sampleDefault :=
    Pair.Sound.reachable sample_lawfulAead sample_lawfulHkdf sampleLost_reachable
  have hstays : ¬ sampleDefault.Leaves .server := fun h => h.liveness rfl
  exact sampleLost_stuck.not_recoverable sample_lawfulAead sample_lawfulHkdf hsound hstays

/-- The sample endpoints with keepalive and liveness. -/
def sampleGuarded : Profiles ℤ sample :=
  sampleProfiles (.finite 10) (.finite 30) fun role => by cases role <;> decide +kernel

/-- With liveness both sample endpoints recover from every state. -/
theorem recoverable_iff_sample : sampleGuarded.packetsPerKey = 1000 ∧
    ∀ pair : Pair ℤ, pair.Reachable sampleGuarded → pair.CanSend →
      pair.Recoverable sampleGuarded := by
  refine ⟨rfl, (recoverable_iff sample_lawfulAead sample_lawfulHkdf sample_lawfulHmac
    sample_lawfulX25519 sample_nonzeroExchange sampleGuarded ?_).2 ?_⟩
  · intro role
    rfl
  · intro role
    have hname : Char.ofNat 0 ∉ "mvpn0".toList := by decide
    exact ⟨nofun, rfl, rfl, rfl, hname⟩

end MatfVpn
