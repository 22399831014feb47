/-
# The deadlines of an engine

In exact time, and with a clock that does not go back, an iteration that returns leaves the
keepalive deadline ahead and the liveness deadline too, whatever happened in the calls before.
The timeout of `select` ends by both of them.

* `selectTimeout_eq` : the timeout, as the wait for the nearer deadline;
* `runOnce_deadlines` : what one iteration does to the deadlines;
* `deadlines_kept` : the deadlines in every sequence of iterations.
-/
import MatfVpn.Link
import MatfVpn.Lib.Deadline
import MatfVpn.SizeLimits

namespace MatfVpn

open Program Deadline

namespace TunnelEngine

variable {τ : Type} {P : Primitives} {engine engine₁ engine₂ : TunnelEngine τ}

/-! ## What the calls leave alone -/

/-- The interval, the timeout and the keepalive deadline are the same. -/
structure SameTimers (engine engine' : TunnelEngine τ) : Prop where
  interval : engine'.keepaliveInterval = engine.keepaliveInterval
  timeout : engine'.livenessTimeout = engine.livenessTimeout
  next : engine'.nextKeepalive = engine.nextKeepalive

theorem SameTimers.refl (engine : TunnelEngine τ) : SameTimers engine engine := ⟨rfl, rfl, rfl⟩

theorem SameTimers.trans (h : SameTimers engine engine₁) (h' : SameTimers engine₁ engine₂) :
    SameTimers engine engine₂ :=
  ⟨h'.interval.trans h.interval, h'.timeout.trans h.timeout, h'.next.trans h.next⟩

/-- A packet of the type is among what was sent. -/
def SendsType (messageType : MessageType) (trace : List (Effect τ)) : Prop :=
  ∃ plain data address, .send plain data address ∈ trace ∧ plain.messageType = messageType

theorem SendsType.mono {messageType : MessageType} {s t : List (Effect τ)}
    (h : SendsType messageType s) (hsub : ∀ e ∈ s, e ∈ t) : SendsType messageType t := by
  obtain ⟨plain, data, address, hmem, htype⟩ := h
  exact ⟨plain, data, address, hsub _ hmem, htype⟩

/-- The end of `_send_packet`, once the packet is sealed. -/
theorem transportSend_deadlines (plain packet : Packet) (destination : Address)
    (failure : Option PyError) (engine : TunnelEngine τ) :
    wp (transportSend plain packet destination failure >>= fun _ =>
      update fun self => { self with sequenceNumber := self.sequenceNumber + 1 } :
        Program PyError (Effect τ) (TunnelEngine τ) Unit) engine fun r e t =>
      SameTimers engine e ∧ e.lastAuthenticatedReceive = engine.lastAuthenticatedReceive ∧
        (r = .ok () → SendsType plain.messageType t) := by
  rw [wp_bind]
  refine wp_mono (transportSend_spec plain packet destination failure engine) ?_
  rintro r e t ⟨rfl, hends⟩
  cases hends with
  | sent data _ =>
      exact ⟨⟨rfl, rfl, rfl⟩, rfl, fun _ => ⟨plain, data, destination, List.mem_cons_self, rfl⟩⟩
  | invalid e _ => exact ⟨.refl _, rfl, fun h => by cases h⟩
  | refused e _ => exact ⟨.refl _, rfl, fun h => by cases h⟩

/-- **`_send_packet`** moves no deadline, with any cipher or none. -/
theorem sendPacket_deadlines (P : Primitives) (engine : TunnelEngine τ)
    (messageType : MessageType) (payload : Bytes) (failure : Option PyError) :
    wp (sendPacket P messageType payload failure) engine fun r e t =>
      SameTimers engine e ∧ e.lastAuthenticatedReceive = engine.lastAuthenticatedReceive ∧
        (r = .ok () → SendsType messageType t) := by
  unfold sendPacket
  rw [wp_read_bind]
  by_cases hmax : engine.sequenceNumber > maxSequenceNumber
  · rw [if_pos hmax, wp_raise_bind]
    exact ⟨.refl engine, rfl, fun h => by cases h⟩
  rw [if_neg hmax]
  simp only
  cases engine.cipher with
  | none =>
      simp only
      rw [wp_pure_bind]
      exact transportSend_deadlines ⟨messageType, engine.sessionId, engine.sequenceNumber, payload⟩
        _ _ failure engine
  | some cipher =>
      simp only
      rw [wp_bind, onCipher, wp_zoom, wp]
      cases (Cipher.encrypt P _ cipher).result with
      | error e => exact ⟨⟨rfl, rfl, rfl⟩, rfl, fun h => by cases h⟩
      | ok packet =>
          refine wp_mono (transportSend_deadlines _ packet _ failure _) ?_
          rintro r e t ⟨⟨hinterval, htimeout, hnext⟩, hlast, hsent⟩
          refine ⟨⟨hinterval, htimeout, hnext⟩, hlast, fun hr => (hsent hr).mono fun e he => ?_⟩
          exact List.mem_append_right _ he

/-- The TUN half of an iteration moves no deadline. -/
theorem forwardFromTun_deadlines (P : Primitives) (engine : TunnelEngine τ)
    (input : IterationInput τ) :
    wp (forwardFromTun P input) engine fun _ e _ =>
      SameTimers engine e ∧ e.lastAuthenticatedReceive = engine.lastAuthenticatedReceive := by
  unfold forwardFromTun
  cases input.tunRead with
  | none => exact ⟨.refl engine, rfl⟩
  | some packet =>
      simp only
      rw [wp_bind_pure]
      cases packet with
      | error e => exact ⟨.refl engine, rfl⟩
      | ok payload =>
          refine wp_mono (sendPacket_deadlines P engine .data payload _) ?_
          rintro r e t ⟨hsame, hlast, -⟩
          exact ⟨hsame, hlast⟩

/-! ## What is heard of the peer -/

/-- The engine authenticates the datagram: it is a packet of the peer and of the session, it is
no replay, and the cipher opens it. -/
def Authenticates (P : Primitives) (engine : TunnelEngine τ) (datagram : Bytes)
    (source : Address) : Prop :=
  ∃ packet cipher decrypted, Packet.decode (datagram.take maxUdpDatagramSize) = .ok packet ∧
    source = engine.remoteAddress ∧ packet.sessionId = engine.sessionId ∧
    (packet.messageType = .data ∨ packet.messageType = .keepalive) ∧
    engine.cipher = some cipher ∧
    engine.replayWindow.isReplay packet.sequenceNumber = false ∧
    (Cipher.decrypt P packet cipher).result = .ok decrypted

/-- The time of the last receive is the old one, or it is now and the condition holds. -/
def Hears (engine engine' : TunnelEngine τ) (now : τ) (authenticated : Prop) : Prop :=
  engine'.lastAuthenticatedReceive = engine.lastAuthenticatedReceive ∨
    (authenticated ∧ engine'.lastAuthenticatedReceive = now)

theorem deliver_deadlines (packet : Packet) (answer : Bytes → Except PyError ℕ)
    (engine : TunnelEngine τ) : wp (deliver packet answer) engine fun _ e _ => e = engine := by
  refine wp_mono (deliver_spec packet answer engine) ?_
  rintro r e t ⟨-, rfl, -⟩
  rfl

/-- The cipher's part of `_receive_udp_packet`. -/
theorem authenticate_deadlines (P : Primitives) (engine : TunnelEngine τ) (cipher : Cipher)
    (packet : Packet) (now : τ) :
    wp (authenticate P cipher packet now) engine fun _ e _ => SameTimers engine e ∧
      Hears engine e now (engine.replayWindow.isReplay packet.sequenceNumber = false ∧
        ∃ decrypted, (Cipher.decrypt P packet cipher).result = .ok decrypted) := by
  unfold authenticate
  rw [wp_read_bind]
  by_cases hreplay : engine.replayWindow.isReplay packet.sequenceNumber = true
  · rw [if_pos hreplay]
    exact ⟨.refl engine, Or.inl rfl⟩
  rw [if_neg hreplay, wp_bind, wp_attempt, onCipher, wp_zoom, wp]
  simp only
  cases hdecrypt : (Cipher.decrypt P packet cipher).result with
  | error e => cases e <;> exact ⟨⟨rfl, rfl, rfl⟩, Or.inl rfl⟩
  | ok decrypted =>
      simp only
      rw [wp_bind, wp_ofExcept]
      cases engine.replayWindow.markAuthenticated decrypted.sequenceNumber with
      | error e => exact ⟨⟨rfl, rfl, rfl⟩, Or.inl rfl⟩
      | ok window =>
          have hfresh := Bool.eq_false_of_not_eq_true hreplay
          exact ⟨⟨rfl, rfl, rfl⟩, Or.inr ⟨⟨hfresh, decrypted, rfl⟩, rfl⟩⟩

/-- The checks and the decryption of a decoded packet. -/
theorem acceptPacket_deadlines (P : Primitives) (engine : TunnelEngine τ) {datagram : Bytes}
    {packet : Packet} (hdecode : Packet.decode (datagram.take maxUdpDatagramSize) = .ok packet)
    (source : Address) (input : IterationInput τ) :
    wp (acceptPacket P packet source input) engine fun _ e _ => SameTimers engine e ∧
      Hears engine e input.receiveClock (Authenticates P engine datagram source) := by
  unfold acceptPacket
  rw [wp_read_bind]
  by_cases hsource : source = engine.remoteAddress
  swap
  · rw [if_pos hsource]
    exact ⟨.refl engine, Or.inl rfl⟩
  rw [if_neg (not_not.2 hsource)]
  by_cases hsession : packet.sessionId = engine.sessionId
  swap
  · rw [if_pos hsession]
    exact ⟨.refl engine, Or.inl rfl⟩
  rw [if_neg (not_not.2 hsession)]
  by_cases htype : packet.messageType = .data ∨ packet.messageType = .keepalive
  swap
  · rw [if_pos htype]
    exact ⟨.refl engine, Or.inl rfl⟩
  rw [if_neg (not_not.2 htype)]
  cases hcipher : engine.cipher with
  | none =>
      refine wp_mono (deliver_deadlines packet input.tunWrite engine) ?_
      rintro r e t rfl
      exact ⟨.refl e, Or.inl rfl⟩
  | some cipher =>
      simp only
      rw [wp_bind]
      refine wp_mono (authenticate_deadlines P engine cipher packet input.receiveClock) ?_
      rintro r e t ⟨hsame, hhears⟩
      have hdone : SameTimers engine e ∧
          Hears engine e input.receiveClock (Authenticates P engine datagram source) := by
        refine ⟨hsame, hhears.imp_right fun h => ⟨?_, h.2⟩⟩
        obtain ⟨⟨hfresh, decrypted, hdecrypted⟩, -⟩ := h
        exact ⟨packet, cipher, decrypted, hdecode, hsource, hsession, htype, hcipher, hfresh,
          hdecrypted⟩
      rcases r with error | none | decrypted
      · exact hdone
      · exact hdone
      · refine wp_mono (deliver_deadlines decrypted input.tunWrite e) ?_
        rintro r e' t' rfl
        exact hdone

/-- The UDP half of an iteration: a deadline moves only when a packet is authenticated. -/
theorem forwardFromUdp_deadlines (P : Primitives) (engine : TunnelEngine τ)
    (input : IterationInput τ) :
    wp (forwardFromUdp P input) engine fun _ e _ => SameTimers engine e ∧
      Hears engine e input.receiveClock (∃ datagram source,
        input.udpReceive = some (.ok (datagram, source)) ∧
          Authenticates P engine datagram source) := by
  unfold forwardFromUdp
  cases input.udpReceive with
  | none => exact ⟨.refl engine, Or.inl rfl⟩
  | some arrival =>
      simp only
      rw [wp_bind_pure]
      rcases arrival with e | ⟨datagram, source⟩
      · refine wp_mono (receiveUdpPacket_error e input engine) ?_
        rintro r e t ⟨rfl, -⟩
        exact ⟨.refl e, Or.inl rfl⟩
      unfold receiveUdpPacket
      rw [wp_bind, wp_attempt]
      refine wp_mono (transportReceive_spec datagram source engine) ?_
      rintro r e t ⟨rfl, -, rfl⟩
      cases hdecode : Packet.decode (datagram.take maxUdpDatagramSize) with
      | error error =>
          obtain ⟨message, rfl⟩ := Packet.decode_error hdecode
          exact ⟨.refl e, Or.inl rfl⟩
      | ok packet =>
          refine wp_mono (acceptPacket_deadlines P e hdecode source input) ?_
          rintro r e' t' ⟨hsame, hhears⟩
          refine ⟨hsame, hhears.imp_right fun h => ⟨?_, h.2⟩⟩
          exact ⟨datagram, source, rfl, h.1⟩

/-! ## An iteration -/

/-- The iteration receives a packet that the engine authenticates, after it has forwarded what it
read from the TUN device, and notes the time. -/
def ReceivesAuthenticated (P : Primitives) (engine engine' : TunnelEngine τ)
    (input : IterationInput τ) : Prop :=
  (∃ n e t, forwardFromTun P input engine = ⟨.ok n, e, t⟩ ∧ ∃ datagram source,
    input.udpReceive = some (.ok (datagram, source)) ∧ Authenticates P e datagram source) ∧
  engine'.lastAuthenticatedReceive = input.receiveClock

section iteration

variable [Zero τ] [Add τ] [Sub τ] [LT τ] [LE τ] [DecidableEq τ] [DecidableLT τ]
  [DecidableLE τ]

/-- What an iteration does to the keepalive deadline: it stays, and it was ahead if the iteration
returns, or it had come, a keepalive is sent and it moves an interval ahead. -/
inductive Beat (engine engine' : TunnelEngine τ) (now : τ) (returned : Prop)
    (trace : List (Effect τ)) : Prop
  | kept : engine'.nextKeepalive = engine.nextKeepalive →
      (returned → ¬ engine.nextKeepalive ≤ now) → Beat engine engine' now returned trace
  | beat : engine.nextKeepalive ≤ now →
      engine'.nextKeepalive = now + engine.keepaliveInterval → SendsType .keepalive trace →
      Beat engine engine' now returned trace

/-- What an iteration does to the deadlines. -/
structure Moves (P : Primitives) (input : IterationInput τ) (engine : TunnelEngine τ)
    (result : Except PyError ℕ) (engine' : TunnelEngine τ) (trace : List (Effect τ)) : Prop where
  interval : engine'.keepaliveInterval = engine.keepaliveInterval
  timeout : engine'.livenessTimeout = engine.livenessTimeout
  beat : Beat engine engine' input.loopClock (∃ n, result = .ok n) trace
  receive : engine'.lastAuthenticatedReceive = engine.lastAuthenticatedReceive ∨
    ReceivesAuthenticated P engine engine' input
  alive : ∀ n, result = .ok n →
    ¬ engine.livenessTimeout ≤ input.loopClock - engine'.lastAuthenticatedReceive

omit [LT τ] [DecidableLT τ] in
/-- The timers of an iteration. -/
theorem checkTimers_deadlines (P : Primitives) (engine : TunnelEngine τ)
    (input : IterationInput τ) (hinterval : engine.keepaliveInterval ≠ 0) :
    wp (checkTimers P input) engine fun r e t =>
      e.keepaliveInterval = engine.keepaliveInterval ∧
      e.livenessTimeout = engine.livenessTimeout ∧
      e.lastAuthenticatedReceive = engine.lastAuthenticatedReceive ∧
      Beat engine e input.loopClock (r = .ok ()) t ∧
      (r = .ok () →
        ¬ engine.livenessTimeout ≤ input.loopClock - engine.lastAuthenticatedReceive) := by
  rw [checkTimers_eq, wp_read_bind, if_pos hinterval]
  by_cases hdue : engine.nextKeepalive ≤ input.loopClock
  · rw [if_pos hdue, wp_bind]
    refine wp_mono (sendPacket_deadlines P engine .keepalive [] _) ?_
    rintro r e t ⟨hsame, hlast, hsent⟩
    cases r with
    | error error =>
        exact ⟨hsame.interval, hsame.timeout, hlast, .kept hsame.next (fun h => by cases h),
          fun h => by cases h⟩
    | ok _ =>
        simp only
        rw [wp_update_bind]
        refine wp_mono (checkLiveness_spec _ input.loopClock) ?_
        rintro r e' t' ⟨rfl, rfl, rfl⟩
        refine ⟨hsame.interval, hsame.timeout, hlast, .beat hdue ?_ ?_, fun halive hlate => ?_⟩
        · exact congrArg (input.loopClock + ·) hsame.interval
        · rw [List.append_nil]
          exact hsent rfl
        · rw [← hsame.timeout, ← hlast] at hlate
          rw [if_pos hlate] at halive
          cases halive
  · rw [if_neg hdue]
    refine wp_mono (checkLiveness_spec engine input.loopClock) ?_
    rintro r e t ⟨rfl, rfl, rfl⟩
    refine ⟨rfl, rfl, rfl, .kept rfl fun _ => hdue, fun halive hlate => ?_⟩
    rw [if_pos hlate] at halive
    cases halive

/-- **One iteration**, with the timers on. -/
theorem runOnce_deadlines (P : Primitives) (engine : TunnelEngine τ) (input : IterationInput τ)
    (timeout : Option τ) (hinterval : engine.keepaliveInterval ≠ 0) :
    wp (runOnce P input timeout) engine fun r e t => Moves P input engine r e t := by
  unfold runOnce
  rw [wp_read_bind, wp_emit_bind, wp_bind]
  have htun := forwardFromTun_deadlines P engine input
  rw [wp] at htun ⊢
  rcases hrun : forwardFromTun P input engine with ⟨error | fromTun, engine₁, t₁⟩
  · rw [hrun] at htun
    obtain ⟨hsame, hlast⟩ := htun
    exact ⟨hsame.interval, hsame.timeout, .kept hsame.next (by rintro ⟨_, ⟨⟩⟩),
      Or.inl hlast, fun n h => by cases h⟩
  rw [hrun] at htun
  obtain ⟨hsame₁, hlast₁⟩ := htun
  simp only
  rw [wp_bind]
  refine wp_mono (forwardFromUdp_deadlines P engine₁ input) ?_
  rintro r engine₂ t₂ ⟨hsame₂, hhears⟩
  have hsame := hsame₁.trans hsame₂
  -- the timers leave the last receive alone, so it is the old one or comes from the socket
  have hreceive : ∀ engine' : TunnelEngine τ,
      engine'.lastAuthenticatedReceive = engine₂.lastAuthenticatedReceive →
      engine'.lastAuthenticatedReceive = engine.lastAuthenticatedReceive ∨
        ReceivesAuthenticated P engine engine' input := by
    intro engine' hlast
    rcases hhears with hkept | ⟨hauthenticates, hnow⟩
    · exact Or.inl (hlast.trans (hkept.trans hlast₁))
    · exact Or.inr ⟨⟨fromTun, engine₁, t₁, hrun, hauthenticates⟩, hlast.trans hnow⟩
  cases r with
  | error error =>
      exact ⟨hsame.interval, hsame.timeout, .kept hsame.next (by rintro ⟨_, ⟨⟩⟩),
        hreceive engine₂ rfl, fun n h => by cases h⟩
  | ok fromUdp =>
  simp only
  rw [wp_bind_pure]
  refine wp_mono (checkTimers_deadlines P engine₂ input (hsame.interval ▸ hinterval)) ?_
  rintro r engine₃ t₃ ⟨hinterval₃, htimeout₃, hlast₃, hbeat, halive⟩
  refine ⟨hinterval₃.trans hsame.interval, htimeout₃.trans hsame.timeout, ?_,
    hreceive engine₃ hlast₃, ?_⟩
  · cases hbeat with
    | kept hnext hahead =>
        refine .kept (hnext.trans hsame.next) ?_
        rintro ⟨n, hn⟩
        cases r with
        | error error => cases hn
        | ok _ => exact hsame.next ▸ hahead rfl
    | beat hdue hnext hsent =>
        refine .beat (hsame.next ▸ hdue) (hsame.interval ▸ hnext) (hsent.mono fun e he => ?_)
        exact List.mem_cons_of_mem _ (List.mem_append_right _ (List.mem_append_right _ he))
  · intro n hn
    cases r with
    | error error => cases hn
    | ok _ =>
        rw [hlast₃, ← hsame.timeout]
        exact halive rfl

end iteration

/-! ## The timeout of `select` -/

section order

variable [LinearOrder τ]

theorem pyMax_eq_max (a b : τ) : pyMax a b = max a b := by
  unfold pyMax
  split
  · rename_i hlt
    exact (max_eq_right hlt.le).symm
  · rename_i hle
    exact (max_eq_left (le_of_not_gt hle)).symm

theorem pyMin_eq_min (a b : τ) : pyMin a b = min a b := by
  unfold pyMin
  split
  · rename_i hlt
    exact (min_eq_right hlt.le).symm
  · rename_i hle
    exact (min_eq_left (le_of_not_gt hle)).symm

variable [AddCommGroup τ]

/-- **The timeout** of `select` is the wait for the nearer deadline, within the caller's. -/
theorem selectTimeout_eq (hinterval : engine.keepaliveInterval ≠ 0) (now : τ)
    (timeout : Option τ) :
    engine.selectTimeout now timeout = some (capped timeout (wait now engine.nextKeepalive
      (engine.lastAuthenticatedReceive + engine.livenessTimeout))) := by
  have hliveness : engine.livenessTimeout - (now - engine.lastAuthenticatedReceive)
      = engine.lastAuthenticatedReceive + engine.livenessTimeout - now := by abel
  unfold selectTimeout
  rw [if_neg hinterval, hliveness, pyMax_eq_max, pyMax_eq_max, pyMin_eq_min]
  cases timeout with
  | none => rfl
  | some bound => exact congrArg some (pyMin_eq_min bound _)

end order

/-! ## Sequences of iterations -/

section calls

variable [AddCommGroup τ] [LinearOrder τ]

/-- The engine after these calls, each of which returned or raised. -/
def afterCalls (P : Primitives) (engine : TunnelEngine τ)
    (calls : List (IterationInput τ × Option τ)) : TunnelEngine τ :=
  calls.foldl (fun engine call => (runOnce P call.1 call.2 engine).state) engine

omit [AddCommGroup τ] in
/-- The clock does not go back from `now` on: it is read before `select` and by the timers.  The
reading for an authenticated packet is between them, and nothing depends on that. -/
def ClockRuns (now : τ) : List (IterationInput τ × Option τ) → Prop
  | [] => True
  | (input, _) :: calls =>
      now ≤ input.selectClock ∧ input.selectClock ≤ input.loopClock ∧
        ClockRuns input.loopClock calls

/-- The iteration sends a keepalive and moves its deadline forward. -/
def SendsKeepalive (P : Primitives) (engine : TunnelEngine τ) (input : IterationInput τ)
    (timeout : Option τ) : Prop :=
  SendsType .keepalive (runOnce P input timeout engine).trace ∧
    engine.nextKeepalive < (runOnce P input timeout engine).state.nextKeepalive

/-- The iteration makes a deadline move, or raises the liveness timeout. -/
def MeetsDeadline (P : Primitives) (engine : TunnelEngine τ) (input : IterationInput τ)
    (timeout : Option τ) : Prop :=
  SendsKeepalive P engine input timeout ∨
    ReceivesAuthenticated P engine (runOnce P input timeout engine).state input ∨
    (runOnce P input timeout engine).result = .error livenessTimeoutError

/-- The iteration is ended by another exception. -/
def Interrupted (P : Primitives) (engine : TunnelEngine τ) (input : IterationInput τ)
    (timeout : Option τ) : Prop :=
  ∃ e, e ≠ livenessTimeoutError ∧ (runOnce P input timeout engine).result = .error e

/-- The timeout of `select`, where a timeout of zero that the caller has not asked for needs a
reason. -/
structure Waits (engine : TunnelEngine τ) (input : IterationInput τ) (timeout : Option τ)
    (reason : Prop) (duration : τ) : Prop where
  nonneg : 0 ≤ duration
  le_timeout : ∀ bound ∈ timeout, duration ≤ bound
  le_keepalive : input.selectClock + duration ≤ max input.selectClock engine.nextKeepalive
  le_liveness : input.selectClock + duration
    ≤ max input.selectClock (engine.lastAuthenticatedReceive + engine.livenessTimeout)
  idle : duration = 0 → timeout ≠ some 0 → reason

/-- What an iteration does about the deadlines. -/
structure KeepsDeadlines (P : Primitives) (keepalive liveness : τ) (engine : TunnelEngine τ)
    (input : IterationInput τ) (timeout : Option τ) (reason : Prop) : Prop where
  returned : ∀ n, (runOnce P input timeout engine).result = .ok n →
    Armed keepalive (runOnce P input timeout engine).state.nextKeepalive input.loopClock ∧
      input.loopClock - (runOnce P input timeout engine).state.lastAuthenticatedReceive < liveness
  waits : (∀ bound ∈ timeout, 0 ≤ bound) → ∃ duration effects,
    (runOnce P input timeout engine).trace = .select (some duration) :: effects ∧
      Waits engine input timeout reason duration

/-- The invariant of the calls: the keepalive is due within the interval. -/
structure Timed (keepalive liveness now : τ) (engine : TunnelEngine τ) : Prop where
  interval : engine.keepaliveInterval = keepalive
  timeout : engine.livenessTimeout = liveness
  within : engine.nextKeepalive ≤ now + keepalive

variable {keepalive liveness now : τ} {input : IterationInput τ} {timeout : Option τ}

/-- A new engine, and its interval is positive. -/
theorem timed_new {remote : Address} {sessionId : ℤ} {cipher : Option Cipher}
    (h : TunnelEngine.new remote sessionId cipher keepalive liveness now = .ok engine)
    (henabled : keepalive ≠ 0) : 0 < keepalive ∧ Timed keepalive liveness now engine := by
  simp only [TunnelEngine.new, ite_error_eq_ok] at h
  obtain ⟨-, hnonneg, -, -, h⟩ := h
  obtain rfl := Except.ok.inj h
  refine ⟨lt_of_le_of_ne (le_of_not_gt fun hneg => hnonneg (Or.inl hneg)) henabled.symm, ?_⟩
  exact ⟨rfl, rfl, le_refl _⟩

variable [IsOrderedAddMonoid τ]

/-- **An iteration** keeps the invariant, whether it returns or raises. -/
theorem Timed.step (h : Timed keepalive liveness now engine) (hpos : 0 < keepalive)
    (hselect : now ≤ input.selectClock) (hloop : input.selectClock ≤ input.loopClock)
    (P : Primitives) (timeout : Option τ) :
    Timed keepalive liveness input.loopClock (runOnce P input timeout engine).state := by
  have hinterval : engine.keepaliveInterval ≠ 0 := h.interval ▸ hpos.ne'
  have hmoves := runOnce_deadlines P engine input timeout hinterval
  refine ⟨hmoves.interval.trans h.interval, hmoves.timeout.trans h.timeout, ?_⟩
  cases hmoves.beat with
  | kept hnext _ =>
      rw [hnext]
      exact within_later h.within (hselect.trans hloop)
  | beat _ hnext _ => rw [hnext, h.interval]

/-- **The invariant** in a sequence of iterations, and the time before the next one. -/
theorem Timed.calls (hpos : 0 < keepalive) (P : Primitives)
    {calls : List (IterationInput τ × Option τ)} (h : Timed keepalive liveness now engine)
    (hclock : ClockRuns now (calls ++ [(input, timeout)])) :
    ∃ later, later ≤ input.selectClock ∧ input.selectClock ≤ input.loopClock ∧
      Timed keepalive liveness later (afterCalls P engine calls) := by
  induction calls generalizing engine now with
  | nil => exact ⟨now, hclock.1, hclock.2.1, h⟩
  | cons call calls ih =>
      obtain ⟨hselect, hloop, hclock⟩ := hclock
      exact ih (h.step hpos hselect hloop P call.2) hclock

/-- The timers of an iteration that returns. -/
theorem Timed.returned (h : Timed keepalive liveness now engine) (hpos : 0 < keepalive)
    (hnow : now ≤ input.loopClock) {n : ℕ}
    (hresult : (runOnce P input timeout engine).result = .ok n) :
    Armed keepalive (runOnce P input timeout engine).state.nextKeepalive input.loopClock ∧
      input.loopClock - (runOnce P input timeout engine).state.lastAuthenticatedReceive
        < liveness := by
  have hinterval : engine.keepaliveInterval ≠ 0 := h.interval ▸ hpos.ne'
  have hmoves := runOnce_deadlines P engine input timeout hinterval
  constructor
  · cases hmoves.beat with
    | kept hnext hahead =>
        rw [hnext]
        exact ⟨lt_of_not_ge (hahead ⟨n, hresult⟩), within_later h.within hnow⟩
    | beat _ hnext _ =>
        rw [hnext, h.interval]
        exact armed_add hpos input.loopClock
  · rw [← h.timeout]
    exact lt_of_not_ge (hmoves.alive n hresult)

/-- **A deadline that has come** is met in the iteration, unless an exception ends it. -/
theorem Timed.meets (h : Timed keepalive liveness now engine) (hpos : 0 < keepalive)
    (hloop : input.selectClock ≤ input.loopClock)
    (hcome : engine.nextKeepalive ≤ input.selectClock ∨
      engine.lastAuthenticatedReceive + engine.livenessTimeout ≤ input.selectClock) :
    MeetsDeadline P engine input timeout ∨ Interrupted P engine input timeout := by
  have hinterval : engine.keepaliveInterval ≠ 0 := h.interval ▸ hpos.ne'
  have hmoves := runOnce_deadlines P engine input timeout hinterval
  cases hresult : (runOnce P input timeout engine).result with
  | error e =>
      by_cases he : e = livenessTimeoutError
      · exact Or.inl (Or.inr (Or.inr (hresult.trans (congrArg Except.error he))))
      · exact Or.inr ⟨e, he, hresult⟩
  | ok n =>
      left
      rcases hcome with hkeepalive | hliveness
      · left
        have hdue := hkeepalive.trans hloop
        cases hmoves.beat with
        | kept _ hahead => exact absurd hdue (hahead ⟨n, hresult⟩)
        | beat _ hnext hsent =>
            refine ⟨hsent, ?_⟩
            rw [hnext, h.interval]
            exact lt_of_le_of_lt hdue (lt_add_of_pos_right _ hpos)
      · right
        left
        refine hmoves.receive.resolve_left fun hlast => hmoves.alive n hresult ?_
        rw [hlast, le_sub_iff_add_le, add_comm]
        exact hliveness.trans hloop

/-- **The deadlines** in every sequence of iterations of a new engine, for every traffic: an
iteration that returns leaves both ahead, the timeout of `select` ends by both, and it is zero
only for a reason. -/
theorem deadlines_kept (P : Primitives) {remote : Address} {sessionId : ℤ}
    {cipher : Option Cipher} {keepalive liveness now : τ} {engine : TunnelEngine τ}
    (hnew : TunnelEngine.new remote sessionId cipher keepalive liveness now = .ok engine)
    (henabled : keepalive ≠ 0) (calls : List (IterationInput τ × Option τ))
    (input : IterationInput τ) (timeout : Option τ)
    (hclock : ClockRuns now (calls ++ [(input, timeout)])) :
    KeepsDeadlines P keepalive liveness (afterCalls P engine calls) input timeout
      (MeetsDeadline P (afterCalls P engine calls) input timeout ∨
        Interrupted P (afterCalls P engine calls) input timeout) := by
  obtain ⟨hpos, htimed⟩ := timed_new hnew henabled
  obtain ⟨later, hselect, hloop, h⟩ := htimed.calls hpos P hclock
  have hinterval : (afterCalls P engine calls).keepaliveInterval ≠ 0 := h.interval ▸ hpos.ne'
  refine ⟨fun n hresult => h.returned hpos (hselect.trans hloop) hresult, fun hnonneg => ?_⟩
  obtain ⟨effects, htrace⟩ : ∃ effects, (runOnce P input timeout (afterCalls P engine calls)).trace
      = .select ((afterCalls P engine calls).selectTimeout input.selectClock timeout) ::
        effects := ⟨_, rfl⟩
  rw [selectTimeout_eq hinterval] at htrace
  refine ⟨_, effects, htrace, ?_, ?_, ?_, ?_, ?_⟩
  · exact capped_nonneg hnonneg (wait_nonneg _ _ _)
  · exact fun bound hbound => capped_le_limit hbound
  · exact add_le_max_left (capped_le _ _)
  · exact add_le_max_right (capped_le _ _)
  · intro hzero hasked
    exact h.meets hpos hloop (le_now_of_wait_eq_zero (capped_eq_zero hasked hzero))

end calls

/-! ## An engine whose keepalive is due -/

/-- A new engine without a cipher. -/
def dueEngine : TunnelEngine ℤ where
  remoteAddress := ⟨.ofOctets 192 0 2 2, 51820⟩
  sessionId := 1
  sequenceNumber := 0
  cipher := none
  replayWindow := .default
  keepaliveInterval := 5
  livenessTimeout := 15
  lastAuthenticatedReceive := 0
  nextKeepalive := 5

theorem new_dueEngine :
    TunnelEngine.new ⟨.ofOctets 192 0 2 2, 51820⟩ 1 none (5 : ℤ) 15 0 = .ok dueEngine := rfl

/-- An iteration in which nothing is readable. -/
def nothingAt (now : ℤ) : IterationInput ℤ where
  selectClock := now
  tunRead := none
  tunSendFailure := none
  udpReceive := none
  receiveClock := now
  tunWrite payload := .ok payload.length
  loopClock := now
  keepaliveSendFailure := none

/-- The keepalive is sent when it is due. -/
theorem deadlines_kept_sample :
    KeepsDeadlines sample 5 15 (afterCalls sample dueEngine [(nothingAt 3, none)]) (nothingAt 5)
      (some 60)
      (MeetsDeadline sample (afterCalls sample dueEngine [(nothingAt 3, none)]) (nothingAt 5)
          (some 60) ∨
        Interrupted sample (afterCalls sample dueEngine [(nothingAt 3, none)]) (nothingAt 5)
          (some 60)) :=
  deadlines_kept sample new_dueEngine (by decide) [(nothingAt 3, none)] (nothingAt 5) (some 60)
    ⟨by decide, by decide, by decide, by decide, trivial⟩

/-- The network is unreachable when the keepalive is due. -/
def unreachable : IterationInput ℤ :=
  { nothingAt 5 with keepaliveSendFailure := some (.osError "Network is unreachable") }

/-- A packet that is too large to be sent is read when the keepalive is due. -/
def largeRead : IterationInput ℤ :=
  { nothingAt 5 with tunRead := some (.ok (List.replicate 65500 0)) }

/-- An exception before the keepalive. -/
theorem not_keepsDeadlines {input : IterationInput ℤ} {e : PyError}
    (hrun : runOnce sample input none dueEngine = ⟨.error e, dueEngine, [.select (some 0)]⟩)
    (he : e ≠ livenessTimeoutError) (hnone : input.udpReceive = none) :
    ¬ KeepsDeadlines sample 5 15 dueEngine input none
      (MeetsDeadline sample dueEngine input none) := by
  intro h
  obtain ⟨duration, effects, htrace, hwaits⟩ := h.waits fun bound hbound => by cases hbound
  rw [hrun] at htrace
  obtain ⟨hselect, rfl⟩ := List.cons.inj htrace
  obtain rfl := Option.some.inj (Effect.select.inj hselect)
  rcases hwaits.idle rfl (by decide) with ⟨⟨plain, data, address, hmem, -⟩, -⟩ |
    ⟨⟨n, e, t, -, datagram, source, hreceive, -⟩, -⟩ | hliveness
  · rw [hrun] at hmem
    cases List.mem_singleton.1 hmem
  · rw [hnone] at hreceive
    cases hreceive
  · rw [hrun] at hliveness
    exact he (Except.error.inj hliveness)

theorem runOnce_unreachable : runOnce sample unreachable none dueEngine
    = ⟨.error (.osError "Network is unreachable"), dueEngine, [.select (some 0)]⟩ := rfl

theorem runOnce_large {payload : Bytes} (hsize : maxPayloadSize < payload.length) :
    runOnce sample { nothingAt 5 with tunRead := some (.ok payload) } none dueEngine
      = ⟨.error (.valueError "payload is too large"), dueEngine, [.select (some 0)]⟩ := by
  have hsession : (dueEngine.nextPacket .data payload).sessionId ≤ 0xFFFFFFFF := by
    show 1 ≤ 0xFFFFFFFF
    decide
  have hencode := encode_of_large hsession (Nat.zero_le _) hsize
  have hsend : sendPacket sample .data payload none dueEngine
      = ⟨.error (.valueError "payload is too large"), dueEngine, []⟩ := by
    show (ofExcept (dueEngine.nextPacket .data payload).encode >>= _ >>= _) dueEngine = _
    rw [hencode]
    rfl
  have htun : forwardFromTun sample { nothingAt 5 with tunRead := some (.ok payload) } dueEngine
      = ⟨.error (.valueError "payload is too large"), dueEngine, []⟩ := bind_of_error hsend _
  show Outcome.after [.select (some 0)] ((forwardFromTun sample _ >>= _) dueEngine) = _
  rw [bind_of_error htun]
  rfl

/-- Exceptions that end the iteration before the keepalive. -/
theorem deadlines_interrupted :
    TunnelEngine.new ⟨.ofOctets 192 0 2 2, 51820⟩ 1 none (5 : ℤ) 15 0 = .ok dueEngine ∧
    ∀ input ∈ [unreachable, largeRead], ClockRuns 0 [(input, none)] ∧
      ¬ KeepsDeadlines sample 5 15 dueEngine input none
        (MeetsDeadline sample dueEngine input none) := by
  refine ⟨new_dueEngine, fun input hinput => ?_⟩
  rcases List.mem_pair.1 hinput with rfl | rfl
  · exact ⟨⟨by decide, by decide, trivial⟩,
      not_keepsDeadlines runOnce_unreachable (by decide) rfl⟩
  · exact ⟨⟨by decide, by decide, trivial⟩,
      not_keepsDeadlines (runOnce_large (by rw [List.length_replicate]; decide)) (by decide) rfl⟩

end TunnelEngine

end MatfVpn
