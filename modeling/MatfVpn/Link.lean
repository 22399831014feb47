/-
# A client of the multi-client server

One client engine and the server, with a network between them that delivers every datagram
once, in order and at once: a datagram that one sends is in the socket of the other one.

* `Link.step` : an iteration of the client or of the server;
* `TunnelEngine.runOnce_liveness` : when an iteration of the client raises the liveness timeout.
-/
import MatfVpn.ServerRun
import MatfVpn.Tunnel

namespace MatfVpn

open Program

/-! ## The model -/

/-- The exception of the liveness check. -/
def livenessTimeoutError : PyError := .timeoutError "VPN peer liveness timeout"

/-- What the surroundings of the client answer in an iteration; the exceptions of its TUN
device are not the one of the liveness check. -/
structure ClientInput (τ : Type) extends IterationInput τ where
  tunRead_ne : tunRead ≠ some (.error livenessTimeoutError)
  tunWrite_ne : ∀ payload, tunWrite payload ≠ .error livenessTimeoutError

/-- A client, the server and the datagrams that were sent and not received. -/
structure Link (τ : Type) where
  client : TunnelEngine τ
  server : MultiClientServer
  /-- The datagrams in the client's socket, with the packets before encryption. -/
  toClient : List (Packet × Bytes)
  /-- The client's datagrams in the server's socket. -/
  toServer : List Bytes
  /-- When the client started or last received a packet from the server's TUN device. -/
  lastTraffic : τ

/-- An iteration of the client, or of the server; the server receives a datagram of the
client, or whatever else arrives. -/
inductive LinkEvent (τ : Type) where
  | client (input : ClientInput τ) (timeout : Option τ)
  | server (input : ServerInput) (fromClient : Bool)

/-- The packet carries a packet from the server's TUN device in the session of the client. -/
def IsTraffic (a : Acceptance) (plain : Packet) : Prop :=
  plain.messageType = .data ∧ plain.sessionId = a.hello.sessionId

instance (a : Acceptance) (plain : Packet) : Decidable (IsTraffic a plain) :=
  inferInstanceAs (Decidable (_ ∧ _))

instance (engine : MultiClientServerEngine) (ref : ℕ) (a : Acceptance) :
    Decidable (MultiClientServer.Installed engine ref a) := inferInstanceAs (Decidable (_ ∧ _))

namespace Link

variable {τ : Type}

/-- What the client's iteration reads: the oldest datagram in its socket. -/
def clientInput (link : Link τ) (input : ClientInput τ) : IterationInput τ :=
  { input.toIterationInput with
    tunSendFailure := none
    keepaliveSendFailure := none
    udpReceive := link.toClient.head?.map fun d => .ok (d.2, link.client.remoteAddress) }

/-- What the server's iteration reads. -/
def serverInput (link : Link τ) (source : Address) (input : ServerInput) (fromClient : Bool) :
    ServerInput :=
  if fromClient then
    { input with udpReceive := link.toServer.head?.map fun data => .ok (data, source) }
  else input

/-- The datagrams that the server's iteration puts into the socket of an address. -/
def sentTo (source : Address) (t : ServerTrace τ) : List (Packet × Bytes) :=
  (sends (effects t)).filterMap fun s => if s.2.2 = source then some (s.1, s.2.1) else none

/-- When the client started or last received traffic, after it received in an iteration. -/
def lastTrafficAfter (a : Acceptance) (link : Link τ) (input : ClientInput τ) : τ :=
  match link.toClient with
  | [] => link.lastTraffic
  | (plain, _) :: _ => if IsTraffic a plain then input.receiveClock else link.lastTraffic

section step

variable [Zero τ] [Add τ] [Sub τ] [LT τ] [LE τ] [DecidableEq τ] [DecidableLT τ]
  [DecidableLE τ]

/-- **The client is in time**: at its liveness check, less than the liveness timeout has
passed since it started or last received traffic. -/
def InTime (a : Acceptance) (link : Link τ) (input : ClientInput τ) : Prop :=
  ¬ link.client.livenessTimeout ≤ input.loopClock - link.lastTrafficAfter a input

instance (a : Acceptance) (link : Link τ) (input : ClientInput τ) :
    Decidable (link.InTime a input) := inferInstanceAs (Decidable (¬ _))

/-- The iteration of the client. -/
def clientOutcome (P : Primitives) (link : Link τ) (input : ClientInput τ) (timeout : Option τ) :
    Outcome PyError (Effect τ) (TunnelEngine τ) ℕ :=
  TunnelEngine.runOnce P (link.clientInput input) timeout link.client

/-- The iteration of the server. -/
def serverOutcome (P : Primitives) (a : Acceptance) (link : Link τ) (input : ServerInput)
    (fromClient : Bool) : Outcome PyError (ServerEffect τ Acceptance) MultiClientServer ℕ :=
  MultiClientServer.runOnce P (link.serverInput a.source input fromClient) none link.server

/-- One iteration, while the session of the acceptance is installed in the server under this
reference.  There is no next state when the iteration raises, or removes the session. -/
def step (P : Primitives) (a : Acceptance) (ref : ℕ) (link : Link τ) :
    LinkEvent τ → Option (Link τ)
  | .client input timeout =>
      let o := link.clientOutcome P input timeout
      match o.result with
      | .error _ => none
      | .ok _ => some { link with
          client := o.state
          toClient := link.toClient.tail
          toServer := link.toServer ++ (sends o.trace).map fun s => s.2.1
          lastTraffic := link.lastTrafficAfter a input }
  | .server input fromClient =>
      let o := link.serverOutcome P a input fromClient
      match o.result with
      | .error _ => none
      | .ok _ =>
          if MultiClientServer.Installed o.state.engine ref a then
            some { link with
              server := o.state
              toClient := link.toClient ++ sentTo a.source o.trace
              toServer := if fromClient then link.toServer.tail else link.toServer }
          else none

/-- Iterations in any order. -/
def run (P : Primitives) (a : Acceptance) (ref : ℕ) (link : Link τ) (events : List (LinkEvent τ)) :
    Option (Link τ) := events.foldlM (step P a ref) link

/-- The client starts its engine with the cipher of the session. -/
def new (P : Primitives) (server : MultiClientServer) (a : Acceptance) (serverAddress : Address)
    (keepaliveInterval livenessTimeout now : τ) : Except PyError (Link τ) := do
  let client ← Tunnel.newEnd P a.sessionSecret a.hello.sessionId server.registry.packetsPerKey
    .client serverAddress keepaliveInterval livenessTimeout now
  return ⟨client, server, [], [], now⟩

end step

end Link

/-! ## An iteration of the client -/

namespace TunnelEngine

variable {τ : Type} {P : Primitives} {secret : Bytes} {sessionId packetsPerKey : ℕ}
  {role : EndpointRole}

/-- The packet that an iteration accepts. -/
def accepted? (P : Primitives) (secret : Bytes) (role : EndpointRole) (packetsPerKey : ℕ)
    (self : TunnelEngine τ) (input : IterationInput τ) : Option Packet :=
  match input.udpReceive with
  | some (.ok (datagram, source)) =>
      self.opened P secret role packetsPerKey (datagram.take maxUdpDatagramSize) source
  | _ => none

/-- The time of the last authenticated receive, after an iteration received. -/
def lastReceiveAfter (P : Primitives) (secret : Bytes) (role : EndpointRole) (packetsPerKey : ℕ)
    (self : TunnelEngine τ) (input : IterationInput τ) : τ :=
  if (self.accepted? P secret role packetsPerKey input).isSome then input.receiveClock
  else self.lastAuthenticatedReceive

/-- An engine with another cipher, counter and keepalive deadline only. -/
structure SameReceiver (engine engine' : TunnelEngine τ) : Prop where
  remote : engine'.remoteAddress = engine.remoteAddress
  session : engine'.sessionId = engine.sessionId
  window : engine'.replayWindow = engine.replayWindow
  interval : engine'.keepaliveInterval = engine.keepaliveInterval
  timeout : engine'.livenessTimeout = engine.livenessTimeout
  receive : engine'.lastAuthenticatedReceive = engine.lastAuthenticatedReceive

theorem SameReceiver.refl (self : TunnelEngine τ) : SameReceiver self self :=
  ⟨rfl, rfl, rfl, rfl, rfl, rfl⟩

/-- The engine uses a cipher of the secret, for some log. -/
def UsesSome (P : Primitives) (secret : Bytes) (sessionId : ℕ) (role : EndpointRole)
    (packetsPerKey : ℕ) (self : TunnelEngine τ) : Prop :=
  ∃ log, self.Uses P log secret sessionId role packetsPerKey

/-- A packet that is sent without failure of the network: the exceptions are not the one of
the liveness check. -/
theorem sendPacket_liveness (hA : P.LawfulAead) (hH : P.LawfulHkdf) {self : TunnelEngine τ}
    (h : self.UsesSome P secret sessionId role packetsPerKey) (messageType : MessageType)
    (payload : Bytes) :
    wp (sendPacket P messageType payload none) self fun r self' _ =>
      r ≠ .error livenessTimeoutError ∧ SameReceiver self self' ∧
        self'.UsesSome P secret sessionId role packetsPerKey := by
  obtain ⟨log, huses⟩ := h
  refine wp_mono (sendPacket_spec hA hH huses messageType payload none) ?_
  rintro r self' t ⟨c, n, calls, rfl, hder, -, hends⟩
  refine ⟨?_, ⟨rfl, rfl, rfl, rfl, rfl, rfl⟩, _, huses.withCipher hder n⟩
  cases hends with
  | exhausted _ _ => nofun
  | tooLarge _ _ => nofun
  | failed e hfail _ _ _ => cases hfail
  | sent data _ _ _ _ _ => nofun

/-- The TUN half of an iteration. -/
theorem forwardFromTun_liveness (hA : P.LawfulAead) (hH : P.LawfulHkdf) {self : TunnelEngine τ}
    (h : self.UsesSome P secret sessionId role packetsPerKey) {input : IterationInput τ}
    (hread : input.tunRead ≠ some (.error livenessTimeoutError))
    (hsend : input.tunSendFailure = none) :
    wp (forwardFromTun P input) self fun r self' _ =>
      r ≠ .error livenessTimeoutError ∧ SameReceiver self self' ∧
        self'.UsesSome P secret sessionId role packetsPerKey := by
  unfold forwardFromTun
  cases htun : input.tunRead with
  | none => exact ⟨nofun, .refl self, h⟩
  | some packet =>
  simp only
  rw [wp_bind_pure, hsend]
  cases packet with
  | error e =>
      refine ⟨?_, .refl self, h⟩
      intro heq
      exact hread (htun.trans (congrArg some (congrArg Except.error (Except.error.inj heq))))
  | ok payload =>
      refine wp_mono (sendPacket_liveness hA hH h .data payload) ?_
      rintro r self' _ ⟨hne, hsame, huses⟩
      refine ⟨?_, hsame, huses⟩
      cases r with
      | ok _ => nofun
      | error e =>
          intro heq
          exact hne (congrArg Except.error (Except.error.inj heq))

/-- What an iteration receives: the engine afterwards has its time and its replay window. -/
structure Receives (P : Primitives) (secret : Bytes) (role : EndpointRole) (packetsPerKey : ℕ)
    (input : IterationInput τ) (engine engine' : TunnelEngine τ) : Prop where
  remote : engine'.remoteAddress = engine.remoteAddress
  session : engine'.sessionId = engine.sessionId
  window : match engine.accepted? P secret role packetsPerKey input with
    | none => engine'.replayWindow = engine.replayWindow
    | some p => engine.replayWindow.markAuthenticated p.sequenceNumber = .ok engine'.replayWindow
  interval : engine'.keepaliveInterval = engine.keepaliveInterval
  timeout : engine'.livenessTimeout = engine.livenessTimeout
  receive : engine'.lastAuthenticatedReceive
    = engine.lastReceiveAfter P secret role packetsPerKey input

/-- The UDP half of an iteration. -/
theorem forwardFromUdp_liveness (hH : P.LawfulHkdf) {self : TunnelEngine τ}
    (h : self.UsesSome P secret sessionId role packetsPerKey) {input : IterationInput τ}
    (hwrite : ∀ payload, input.tunWrite payload ≠ .error livenessTimeoutError)
    (hreceive : ∀ e, input.udpReceive ≠ some (.error e)) :
    wp (forwardFromUdp P input) self fun r self' _ =>
      r ≠ .error livenessTimeoutError ∧ Receives P secret role packetsPerKey input self self' ∧
        self'.UsesSome P secret sessionId role packetsPerKey := by
  unfold forwardFromUdp
  cases hudp : input.udpReceive with
  | none =>
      have hnone : self.accepted? P secret role packetsPerKey input = none := by
        rw [accepted?, hudp]
      refine ⟨nofun, ⟨rfl, rfl, ?_, rfl, rfl, ?_⟩, h⟩
      · rw [hnone]
        rfl
      · rw [lastReceiveAfter, hnone]
        rfl
  | some arrival =>
  cases arrival with
  | error e => exact absurd hudp (hreceive e)
  | ok arrival =>
  obtain ⟨log, huses⟩ := h
  simp only
  rw [wp_bind_pure]
  refine wp_mono (receiveUdpPacket_spec hH huses arrival.1 arrival.2 input) ?_
  rintro r self' t ⟨c, calls, window, now, rfl, hder, -, hends⟩
  obtain ⟨hcipher, hid, hlt⟩ := huses.withCipher hder self.sequenceNumber
  have haccepted : self.accepted? P secret role packetsPerKey input
      = self.opened P secret role packetsPerKey (arrival.1.take maxUdpDatagramSize) arrival.2 := by
    rw [accepted?, hudp]
  cases hends with
  | dropped hnone =>
      refine ⟨nofun, ⟨rfl, rfl, ?_, rfl, rfl, ?_⟩, _, hcipher, hid, hlt⟩
      · rw [haccepted, hnone]
        rfl
      · rw [lastReceiveAfter, haccepted, hnone]
        rfl
  | accepted packet _ hsome hwindow =>
      refine ⟨?_, ⟨rfl, rfl, ?_, rfl, rfl, ?_⟩, _, hcipher, hid, hlt⟩
      · unfold deliverResult
        split
        · nofun
        · cases hanswer : input.tunWrite packet.payload with
          | error e =>
              intro heq
              refine hwrite packet.payload (hanswer.trans ?_)
              exact congrArg Except.error (Except.error.inj heq)
          | ok written =>
              simp only
              split <;> nofun
      · rw [haccepted, hsome]
        exact hwindow
      · rw [lastReceiveAfter, haccepted, hsome]
        rfl

section timers

variable [Zero τ] [Add τ] [Sub τ] [LT τ] [LE τ] [DecidableEq τ] [DecidableLT τ]
  [DecidableLE τ]

omit [LT τ] [DecidableLT τ] in
/-- The timers of an iteration: the liveness check comes last. -/
theorem checkTimers_liveness (hA : P.LawfulAead) (hH : P.LawfulHkdf) {self : TunnelEngine τ}
    (h : self.UsesSome P secret sessionId role packetsPerKey) {input : IterationInput τ}
    (hsend : input.keepaliveSendFailure = none) :
    wp (checkTimers P input) self fun r self' _ =>
      (r = .error livenessTimeoutError →
        self.livenessTimeout ≤ input.loopClock - self.lastAuthenticatedReceive) ∧
      (r = .ok () → self.keepaliveInterval ≠ 0 →
        ¬ self.livenessTimeout ≤ input.loopClock - self.lastAuthenticatedReceive) ∧
      SameReceiver self self' ∧ self'.UsesSome P secret sessionId role packetsPerKey := by
  -- the check itself, after a keepalive may have been sent
  have hcheck : ∀ {self₁ : TunnelEngine τ}, SameReceiver self self₁ →
      self₁.UsesSome P secret sessionId role packetsPerKey →
      wp (checkLiveness input.loopClock) self₁ fun r self' _ =>
      (r = .error livenessTimeoutError →
        self.livenessTimeout ≤ input.loopClock - self.lastAuthenticatedReceive) ∧
      (r = .ok () → self.keepaliveInterval ≠ 0 →
        ¬ self.livenessTimeout ≤ input.loopClock - self.lastAuthenticatedReceive) ∧
      SameReceiver self self' ∧ self'.UsesSome P secret sessionId role packetsPerKey := by
    intro self₁ hsame huses
    refine wp_mono (checkLiveness_spec self₁ input.loopClock) ?_
    rintro r self' t ⟨rfl, -, rfl⟩
    rw [hsame.timeout, hsame.receive]
    by_cases hlate : self.livenessTimeout ≤ input.loopClock - self.lastAuthenticatedReceive
    · rw [if_pos hlate]
      exact ⟨fun _ => hlate, nofun, hsame, huses⟩
    · rw [if_neg hlate]
      exact ⟨nofun, fun _ _ => hlate, hsame, huses⟩
  rw [checkTimers_eq, wp_read_bind]
  by_cases hinterval : self.keepaliveInterval ≠ 0
  swap
  · rw [if_neg hinterval]
    exact ⟨nofun, fun _ hne => absurd hne hinterval, .refl self, h⟩
  rw [if_pos hinterval]
  by_cases hdue : self.nextKeepalive ≤ input.loopClock
  swap
  · rw [if_neg hdue]
    exact hcheck (.refl self) h
  rw [if_pos hdue, hsend, wp_bind]
  refine wp_mono (sendPacket_liveness hA hH h .keepalive []) ?_
  rintro r self₁ _ ⟨hne, hsame, huses⟩
  cases r with
  | error e => exact ⟨fun heq => absurd heq hne, nofun, hsame, huses⟩
  | ok _ =>
  simp only
  rw [wp_update_bind]
  obtain ⟨log, hcipher, hid, hlt⟩ := huses
  refine wp_mono (hcheck ⟨hsame.remote, hsame.session, hsame.window, hsame.interval,
    hsame.timeout, hsame.receive⟩ ⟨log, hcipher, hid, hlt⟩) ?_
  exact fun _ _ _ hdone => hdone

/-- **When an iteration raises the liveness timeout.** -/
theorem runOnce_liveness (hA : P.LawfulAead) (hH : P.LawfulHkdf) {self : TunnelEngine τ}
    (h : self.UsesSome P secret sessionId role packetsPerKey) {input : IterationInput τ}
    (hread : input.tunRead ≠ some (.error livenessTimeoutError))
    (hwrite : ∀ payload, input.tunWrite payload ≠ .error livenessTimeoutError)
    (hreceive : ∀ e, input.udpReceive ≠ some (.error e)) (hsend : input.tunSendFailure = none)
    (hkeepalive : input.keepaliveSendFailure = none) (timeout : Option τ) :
    wp (runOnce P input timeout) self fun r self' _ =>
      (r = .error livenessTimeoutError → self.livenessTimeout
        ≤ input.loopClock - self.lastReceiveAfter P secret role packetsPerKey input) ∧
      (∀ n, r = .ok n → (self.keepaliveInterval ≠ 0 → ¬ self.livenessTimeout
          ≤ input.loopClock - self.lastReceiveAfter P secret role packetsPerKey input) ∧
        Receives P secret role packetsPerKey input self self' ∧
        self'.UsesSome P secret sessionId role packetsPerKey) := by
  unfold runOnce
  rw [wp_read_bind, wp_emit_bind, wp_bind]
  refine wp_mono (forwardFromTun_liveness hA hH h hread hsend) ?_
  rintro r self₁ _ ⟨hne, hsame, huses⟩
  cases r with
  | error e => exact ⟨fun heq => absurd heq hne, nofun⟩
  | ok fromTun =>
  simp only
  rw [wp_bind]
  refine wp_mono (forwardFromUdp_liveness hH huses hwrite hreceive) ?_
  rintro r self₂ _ ⟨hne₂, hreceives, huses₂⟩
  cases r with
  | error e =>
      refine ⟨fun heq => absurd ?_ hne₂, nofun⟩
      exact heq
  | ok fromUdp =>
  -- the TUN half changed nothing that the reception depends on
  have haccepted : self₁.accepted? P secret role packetsPerKey input
      = self.accepted? P secret role packetsPerKey input := by
    unfold accepted? opened
    rw [hsame.remote, hsame.session, hsame.window]
  have hlast : self₁.lastReceiveAfter P secret role packetsPerKey input
      = self.lastReceiveAfter P secret role packetsPerKey input := by
    rw [lastReceiveAfter, lastReceiveAfter, haccepted, hsame.receive]
  simp only
  rw [wp_bind_pure]
  refine wp_mono (checkTimers_liveness hA hH huses₂ hkeepalive) ?_
  rintro r self₃ _ ⟨hlate, hintime, hsame₃, huses₃⟩
  rw [hreceives.timeout, hreceives.receive, hsame.timeout, hlast] at hlate hintime
  rw [hreceives.interval, hsame.interval] at hintime
  have hwindow := hreceives.window
  rw [haccepted, hsame.window, ← hsame₃.window] at hwindow
  have hall : Receives P secret role packetsPerKey input self self₃ :=
    ⟨hsame₃.remote.trans (hreceives.remote.trans hsame.remote),
      hsame₃.session.trans (hreceives.session.trans hsame.session), hwindow,
      hsame₃.interval.trans (hreceives.interval.trans hsame.interval),
      hsame₃.timeout.trans (hreceives.timeout.trans hsame.timeout),
      hsame₃.receive.trans (hreceives.receive.trans hlast)⟩
  cases r with
  | error e =>
      refine ⟨fun heq => hlate ?_, nofun⟩
      exact congrArg Except.error (Except.error.inj heq)
  | ok _ => exact ⟨nofun, fun _ _ => ⟨hintime rfl, hall, huses₃⟩⟩

end timers

end TunnelEngine

end MatfVpn
