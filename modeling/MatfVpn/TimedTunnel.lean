/-
# Two engines in exact time

Two engines with the two ends of a cipher, and a network that delivers every datagram once,
in any order, within a delay.  An iteration starts when the previous one has returned and
takes no time after `select`, which returns by its timeout.

* `TimedTunnel.step` : an iteration of one engine, at its time;
* `TunnelEngine.runOnce_beats` : what an iteration sends and when the next keepalive is due.
-/
import MatfVpn.Link
import MatfVpn.Lib.Heartbeat

namespace MatfVpn

open Program

/-! ## The model -/

/-- A datagram on its way, with the packet before encryption and the time it was sent. -/
structure InFlight (τ : Type) where
  plain : Packet
  data : Bytes
  time : τ

/-- Two engines and the datagrams between them. -/
structure TimedTunnel (τ : Type) where
  engine : EndpointRole → TunnelEngine τ
  /-- When the engine entered the iteration that it is in. -/
  entered : EndpointRole → τ
  /-- The datagrams on their way to this end. -/
  toEnd : EndpointRole → List (InFlight τ)
  /-- The time of the last iteration. -/
  now : τ

/-- An iteration of one engine, which may receive one of the datagrams on their way. -/
structure TimedStep (τ : Type) where
  role : EndpointRole
  input : ClientInput τ
  /-- When `select` returns. -/
  time : τ
  received : Option ℕ

instance (p : EndpointRole → Prop) [DecidablePred p] : Decidable (∀ role, p role) :=
  decidable_of_iff (p .client ∧ p .server)
    ⟨fun h role => match role with
      | .client => h.1
      | .server => h.2, fun h => ⟨h .client, h .server⟩⟩

namespace TimedTunnel

variable {τ : Type}

/-- The datagram that the iteration receives. -/
def arrival? (tunnel : TimedTunnel τ) (s : TimedStep τ) : Option (InFlight τ) :=
  s.received.bind fun i => (tunnel.toEnd s.role)[i]?

/-- What the iteration reads. -/
def iterationInput (tunnel : TimedTunnel τ) (s : TimedStep τ) : IterationInput τ :=
  { s.input.toIterationInput with
    selectClock := tunnel.entered s.role
    receiveClock := s.time
    loopClock := s.time
    tunSendFailure := none
    keepaliveSendFailure := none
    udpReceive := (tunnel.arrival? s).map fun x =>
      .ok (x.data, (tunnel.engine s.role).remoteAddress) }

/-- The datagrams on their way to the end of the iteration, after it received. -/
def remaining (tunnel : TimedTunnel τ) (s : TimedStep τ) : List (InFlight τ) :=
  match s.received with
  | none => tunnel.toEnd s.role
  | some i => (tunnel.toEnd s.role).eraseIdx i

section step

variable [AddCommGroup τ] [LinearOrder τ]

/-- The iteration. -/
def outcome (P : Primitives) (tunnel : TimedTunnel τ) (s : TimedStep τ) :
    Outcome PyError (Effect τ) (TunnelEngine τ) ℕ :=
  TunnelEngine.runOnce P (tunnel.iterationInput s) none (tunnel.engine s.role)

/-- Time may pass until the iteration: `select` returns by its timeout, nothing on its way is
overdue, and the iteration is neither before the last one nor before it was entered. -/
def Allowed (start : EndpointRole → τ) (delay : τ) (tunnel : TimedTunnel τ) (s : TimedStep τ) :
    Prop :=
  tunnel.now ≤ s.time ∧ tunnel.entered s.role ≤ s.time ∧
    (∀ role, ∀ timeout ∈ (tunnel.engine role).selectTimeout (tunnel.entered role) none,
      s.time ≤ tunnel.entered role + timeout) ∧
    ∀ role, ∀ x ∈ tunnel.toEnd role, s.time ≤ max x.time (start role) + delay

instance (start : EndpointRole → τ) (delay : τ) (tunnel : TimedTunnel τ) (s : TimedStep τ) :
    Decidable (tunnel.Allowed start delay s) := inferInstanceAs (Decidable (_ ∧ _ ∧ _ ∧ _))

/-- The tunnel after the iteration. -/
def after (P : Primitives) (tunnel : TimedTunnel τ) (s : TimedStep τ) : TimedTunnel τ where
  engine := Function.update tunnel.engine s.role (tunnel.outcome P s).state
  entered := Function.update tunnel.entered s.role s.time
  toEnd := fun role =>
    if role = s.role then tunnel.remaining s
    else tunnel.toEnd role ++ (sends (tunnel.outcome P s).trace).map fun x =>
      ⟨x.1, x.2.1, s.time⟩
  now := s.time

/-- One iteration, when it is allowed.  There is no next state when it raises. -/
def step (P : Primitives) (start : EndpointRole → τ) (delay : τ) (tunnel : TimedTunnel τ)
    (s : TimedStep τ) : Option (TimedTunnel τ) :=
  if tunnel.Allowed start delay s then
    match (tunnel.outcome P s).result with
    | .ok _ => some (tunnel.after P s)
    | .error _ => none
  else none

/-- Iterations of both engines. -/
def run (P : Primitives) (start : EndpointRole → τ) (delay : τ) (tunnel : TimedTunnel τ)
    (steps : List (TimedStep τ)) : Option (TimedTunnel τ) :=
  steps.foldlM (step P start delay) tunnel

/-- Two new engines, constructed at these times. -/
def new (tunnel : Tunnel τ) (start : EndpointRole → τ) : TimedTunnel τ where
  engine := tunnel.engine
  entered := start
  toEnd _ := []
  now := min (start .client) (start .server)

end step

end TimedTunnel

/-! ## What an iteration sends -/

namespace TunnelEngine

variable {τ : Type} {P : Primitives} {secret : Bytes} {sessionId packetsPerKey : ℕ}
  {role : EndpointRole} {engine engine₁ engine₂ : TunnelEngine τ}

/-- The datagram is a sealed packet of the session. -/
structure Genuine (P : Primitives) (secret : Bytes) (sessionId : ℕ) (role : EndpointRole)
    (packetsPerKey : ℕ) (plain : Packet) (data : Bytes) : Prop where
  session : plain.sessionId = sessionId
  type : plain.messageType = .data ∨ plain.messageType = .keepalive
  encode : (sealPacket P secret sessionId role packetsPerKey plain).encode = .ok data

/-- The engine sends packets with the next numbers. -/
structure Sends (P : Primitives) (secret : Bytes) (sessionId : ℕ) (role : EndpointRole)
    (packetsPerKey : ℕ) (engine engine' : TunnelEngine τ) (l : List (Packet × Bytes × Address)) :
    Prop where
  counter : engine'.sequenceNumber = engine.sequenceNumber + l.length
  number : ∀ i x, l[i]? = some x → x.1.sequenceNumber = engine.sequenceNumber + i
  genuine : ∀ x ∈ l, Genuine P secret sessionId role packetsPerKey x.1 x.2.1

/-- Nothing is sent. -/
theorem sends_none (h : engine₁.sequenceNumber = engine.sequenceNumber) :
    Sends P secret sessionId role packetsPerKey engine engine₁ [] :=
  ⟨h, nofun, nofun⟩

/-- One packet after the other. -/
theorem Sends.trans {l l' : List (Packet × Bytes × Address)}
    (h : Sends P secret sessionId role packetsPerKey engine engine₁ l)
    (h' : Sends P secret sessionId role packetsPerKey engine₁ engine₂ l') :
    Sends P secret sessionId role packetsPerKey engine engine₂ (l ++ l') where
  counter := by rw [h'.counter, h.counter, List.length_append, Nat.add_assoc]
  number i x hx := by
    rcases Nat.lt_or_ge i l.length with hlt | hge
    · rw [List.getElem?_append_left hlt] at hx
      exact h.number i x hx
    · rw [List.getElem?_append_right hge] at hx
      rw [h'.number _ x hx, h.counter]
      omega
  genuine x hx := by
    rcases List.mem_append.1 hx with hx | hx
    · exact h.genuine x hx
    · exact h'.genuine x hx

/-- `_send_packet` sends one packet when it returns. -/
theorem sendPacket_sends (hA : P.LawfulAead) (hH : P.LawfulHkdf)
    (h : engine.UsesSome P secret sessionId role packetsPerKey) {messageType : MessageType}
    (htype : messageType = .data ∨ messageType = .keepalive) (payload : Bytes)
    (failure : Option PyError) :
    wp (sendPacket P messageType payload failure) engine (fun r e t => r = .ok () →
      Sends P secret sessionId role packetsPerKey engine e (sends t) ∧ (sends t).length = 1 ∧
        e.UsesSome P secret sessionId role packetsPerKey ∧
        e.nextKeepalive = engine.nextKeepalive ∧
        e.keepaliveInterval = engine.keepaliveInterval) := by
  obtain ⟨log, huses⟩ := h
  refine wp_mono (sendPacket_spec hA hH huses messageType payload failure) ?_
  rintro r e t ⟨c, n, calls, rfl, hder, -, hends⟩ rfl
  have hkept := huses.withCipher hder n
  obtain ⟨-, hid, -⟩ := huses
  cases hends with
  | sent data _ hrange _ _ hdata =>
      rw [sends_append, sends_map_crypto, List.nil_append, sends_send, sends_nil]
      refine ⟨⟨rfl, ?_, ?_⟩, rfl, ⟨_, hkept⟩, rfl, rfl⟩
      · intro i x hx
        obtain ⟨rfl, rfl⟩ : i = 0 ∧ x = (engine.nextPacket messageType payload, data,
            engine.remoteAddress) := by
          cases i with
          | zero => exact ⟨rfl, (Option.some.inj hx).symm⟩
          | succ i => cases hx
        rfl
      · intro x hx
        obtain rfl := List.mem_singleton.1 hx
        rw [hid] at hdata
        exact ⟨hid, htype, hdata⟩

/-- The TUN half of an iteration. -/
theorem forwardFromTun_sends (hA : P.LawfulAead) (hH : P.LawfulHkdf)
    (h : engine.UsesSome P secret sessionId role packetsPerKey) (input : IterationInput τ) :
    wp (forwardFromTun P input) engine (fun r e t => ∀ n, r = .ok n →
      Sends P secret sessionId role packetsPerKey engine e (sends t) ∧
        e.UsesSome P secret sessionId role packetsPerKey ∧
        e.nextKeepalive = engine.nextKeepalive ∧
        e.keepaliveInterval = engine.keepaliveInterval) := by
  unfold forwardFromTun
  cases input.tunRead with
  | none => exact fun _ _ => ⟨sends_none rfl, h, rfl, rfl⟩
  | some packet =>
      rw [wp_bind_pure]
      cases packet with
      | error e => exact nofun
      | ok payload =>
          refine wp_mono (sendPacket_sends hA hH h (Or.inl rfl) payload _) ?_
          intro r e t hsent n hr
          cases r with
          | error e => cases hr
          | ok _ =>
              obtain ⟨hsends, -, hkept⟩ := hsent rfl
              exact ⟨hsends, hkept⟩

/-- The UDP half of an iteration. -/
theorem forwardFromUdp_sends (hH : P.LawfulHkdf)
    (h : engine.UsesSome P secret sessionId role packetsPerKey) (input : IterationInput τ) :
    wp (forwardFromUdp P input) engine (fun _ e t => sends t = [] ∧
      e.sequenceNumber = engine.sequenceNumber ∧
        e.UsesSome P secret sessionId role packetsPerKey ∧
        e.nextKeepalive = engine.nextKeepalive ∧
        e.keepaliveInterval = engine.keepaliveInterval) := by
  unfold forwardFromUdp
  cases input.udpReceive with
  | none => exact ⟨rfl, rfl, h, rfl, rfl⟩
  | some arrival =>
      simp only
      rw [wp_bind_pure]
      rcases arrival with e | ⟨datagram, source⟩
      · refine wp_mono (receiveUdpPacket_error e input engine) ?_
        rintro r e t ⟨rfl, rfl⟩
        exact ⟨rfl, rfl, h, rfl, rfl⟩
      obtain ⟨log, huses⟩ := h
      refine wp_mono (receiveUdpPacket_spec hH huses datagram source input) ?_
      rintro r e t ⟨c, calls, window, now, rfl, hder, -, hends⟩
      obtain ⟨hcipher, hid, hlt⟩ := huses.withCipher hder engine.sequenceNumber
      refine ⟨?_, rfl, ⟨_, hcipher, hid, hlt⟩, rfl, rfl⟩
      refine List.filterMap_eq_nil_iff.2 fun e he => ?_
      rcases hends.effects he with rfl | ⟨call, rfl⟩ | ⟨payload, rfl⟩
      · rfl
      · rfl
      · rfl

section timers

variable [Zero τ] [Add τ] [Sub τ] [LT τ] [LE τ] [DecidableEq τ] [DecidableLT τ]
  [DecidableLE τ]

/-- When the next keepalive is due, after the timers ran: a keepalive that was due is among what
was sent. -/
def Beats (engine engine' : TunnelEngine τ) (now : τ) (l : List (Packet × Bytes × Address)) :
    Prop :=
  if engine.nextKeepalive ≤ now then
    l ≠ [] ∧ engine'.nextKeepalive = now + engine.keepaliveInterval
  else engine'.nextKeepalive = engine.nextKeepalive

omit [LT τ] [DecidableLT τ] in
/-- The timers of an iteration. -/
theorem checkTimers_beats (hA : P.LawfulAead) (hH : P.LawfulHkdf)
    (h : engine.UsesSome P secret sessionId role packetsPerKey) (input : IterationInput τ)
    (hinterval : engine.keepaliveInterval ≠ 0) :
    wp (checkTimers P input) engine (fun r e t => r = .ok () →
      Sends P secret sessionId role packetsPerKey engine e (sends t) ∧
        Beats engine e input.loopClock (sends t)) := by
  unfold Beats
  rw [checkTimers_eq, wp_read_bind, if_pos hinterval]
  by_cases hdue : engine.nextKeepalive ≤ input.loopClock
  swap
  · simp only [if_neg hdue]
    refine wp_mono (checkLiveness_spec engine input.loopClock) ?_
    rintro r e t ⟨rfl, rfl, -⟩ -
    exact ⟨sends_none rfl, rfl⟩
  simp only [if_pos hdue]
  rw [wp_bind]
  refine wp_mono (sendPacket_sends hA hH h (Or.inr rfl) [] _) ?_
  intro r e t hsent
  cases r with
  | error e => exact nofun
  | ok _ =>
      obtain ⟨hsends, hlength, -, -, hsame⟩ := hsent rfl
      simp only
      rw [wp_update_bind]
      refine wp_mono (checkLiveness_spec _ input.loopClock) ?_
      rintro r e' t' ⟨rfl, rfl, -⟩ -
      rw [List.append_nil, hsame]
      refine ⟨⟨hsends.counter, hsends.number, hsends.genuine⟩, ?_, rfl⟩
      exact List.ne_nil_of_length_pos (by omega)

/-- **What an iteration sends**, and when the next keepalive is due. -/
theorem runOnce_beats (hA : P.LawfulAead) (hH : P.LawfulHkdf)
    (h : engine.UsesSome P secret sessionId role packetsPerKey) {input : IterationInput τ}
    (hpos : engine.keepaliveInterval ≠ 0) (timeout : Option τ) :
    wp (runOnce P input timeout) engine (fun r e t => ∀ n, r = .ok n →
      Sends P secret sessionId role packetsPerKey engine e (sends t) ∧
        Beats engine e input.loopClock (sends t)) := by
  unfold runOnce
  rw [wp_read_bind, wp_emit_bind, wp_bind]
  refine wp_mono (forwardFromTun_sends hA hH h input) ?_
  intro r e₁ t₁ htun
  cases r with
  | error e => exact nofun
  | ok fromTun =>
  obtain ⟨hsends₁, huses₁, hnext₁, hinterval₁⟩ := htun fromTun rfl
  simp only
  rw [wp_bind]
  refine wp_mono (forwardFromUdp_sends hH huses₁ input) ?_
  rintro r e₂ t₂ ⟨hnone, hcounter, huses₂, hnext₂, hinterval₂⟩
  cases r with
  | error e => exact nofun
  | ok fromUdp =>
  simp only
  rw [wp_bind_pure]
  -- receiving sends nothing and moves no timer
  have hinterval : e₂.keepaliveInterval = engine.keepaliveInterval := hinterval₂.trans hinterval₁
  have hnext : e₂.nextKeepalive = engine.nextKeepalive := hnext₂.trans hnext₁
  refine wp_mono (checkTimers_beats hA hH huses₂ input (hinterval ▸ hpos)) ?_
  intro r e₃ t₃ htimers n hr
  cases r with
  | error e => cases hr
  | ok _ =>
  obtain ⟨hsends₃, hbeats⟩ := htimers rfl
  have hsent : sends (.select (engine.selectTimeout input.selectClock timeout) ::
      (t₁ ++ (t₂ ++ t₃))) = sends t₁ ++ sends t₃ := by
    rw [sends_select, sends_append, sends_append, hnone, List.nil_append]
  rw [hsent]
  refine ⟨hsends₁.trans ⟨?_, ?_, hsends₃.genuine⟩, ?_⟩
  · rw [← hcounter]
    exact hsends₃.counter
  · rw [← hcounter]
    exact hsends₃.number
  · unfold Beats at hbeats ⊢
    rw [hnext, hinterval] at hbeats
    split
    · rename_i hdue
      rw [if_pos hdue] at hbeats
      exact ⟨List.append_ne_nil_of_right_ne_nil _ hbeats.1, hbeats.2⟩
    · rename_i hdue
      rwa [if_neg hdue] at hbeats

end timers

end TunnelEngine

end MatfVpn
