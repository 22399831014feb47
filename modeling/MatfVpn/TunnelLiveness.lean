/-
# Two live engines keep each other alive

In exact time and over a network without loss, every engine hears its peer within the peer's
keepalive interval and the delay of the network, also when late keepalives are rejected by
the replay window: a newer packet was accepted then.

* `TimedTunnel.Invariant` : what was sent when, and what has arrived;
* `TimedTunnel.no_spurious_timeout` : no engine raises the liveness timeout.
-/
import MatfVpn.EngineDeadlines
import MatfVpn.TimedTunnel
import MatfVpn.TunnelDelivery

namespace MatfVpn

open Program Heartbeat Deadline

/-! ## Reception of a datagram of the peer -/

namespace TunnelEngine

variable {τ : Type} {P : Primitives} {secret : Bytes} {sessionId packetsPerKey : ℕ}
  {role : EndpointRole} {engine : TunnelEngine τ}

/-- A datagram of the peer is accepted, unless its number is rejected. -/
theorem opened_of_genuine (hA : P.LawfulAead) (hid : engine.sessionId = sessionId)
    {plain : Packet} {data : Bytes}
    (h : Genuine P secret sessionId role.peer packetsPerKey plain data) :
    engine.opened P secret role packetsPerKey (data.take maxUdpDatagramSize) engine.remoteAddress
      = if engine.replayWindow.isReplay plain.sequenceNumber = false then some plain
        else none := by
  obtain ⟨hsession, htype, hdata⟩ := h
  rw [List.take_of_length_le (Packet.length_encode_le hdata)]
  exact opened_of_sealPacket hA hid hsession htype hdata

end TunnelEngine

/-! ## The two halves of the invariant -/

namespace TimedTunnel

variable {τ : Type} {P : Primitives} {secret : Bytes} {sessionId packetsPerKey : ℕ}
  {role : EndpointRole} {engine engine' : TunnelEngine τ} {times : List τ}

section halves

variable [AddCommGroup τ] [LinearOrder τ] {interval start now time : τ} {way : List (InFlight τ)}

/-- An engine has sent its packets, by their numbers, at these times. -/
structure Sending (interval start : τ) (engine : TunnelEngine τ) (times : List τ) (now : τ) :
    Prop where
  counter : times.length = engine.sequenceNumber
  le_now : ∀ x ∈ times, x ≤ now
  sorted : times.Pairwise (· ≤ ·)
  spaced : Spaced interval start engine.nextKeepalive times

/-- An engine, the datagrams on their way to it and the times when its peer sent its packets. -/
structure Hearing (P : Primitives) (secret : Bytes) (sessionId : ℕ) (role : EndpointRole)
    (packetsPerKey : ℕ) (start : τ) (engine : TunnelEngine τ) (way : List (InFlight τ))
    (times : List τ) : Prop where
  heard : start ≤ engine.lastAuthenticatedReceive
  /-- What is on its way was sent at its time. -/
  genuine : ∀ d ∈ way, times[d.plain.sequenceNumber]? = some d.time ∧
    TunnelEngine.Genuine P secret sessionId role.peer packetsPerKey d.plain d.data
  /-- A number is rejected after something as new was heard. -/
  rejected : ∀ n : ℕ, engine.replayWindow.isReplay n = true →
    ∃ x, times[n]? = some x ∧ x ≤ engine.lastAuthenticatedReceive
  /-- What is not on its way any more was heard, or something as new. -/
  arrived : ∀ x ∈ times, (∃ d ∈ way, d.time = x) ∨ x ≤ engine.lastAuthenticatedReceive

/-- Time passes without a packet. -/
theorem Sending.wait (h : Sending interval start engine times now) (htime : now ≤ time) :
    Sending interval start engine times time :=
  ⟨h.counter, fun x hx => (h.le_now x hx).trans htime, h.sorted, h.spaced⟩

/-- **An iteration sends packets**, a keepalive among them when it is due. -/
theorem Sending.sends [IsOrderedAddMonoid τ] (h : Sending interval start engine times now)
    (htime : now ≤ time) {l : List (Packet × Bytes × Address)}
    (hsends : TunnelEngine.Sends P secret sessionId role packetsPerKey engine engine' l)
    (hinterval : engine.keepaliveInterval = interval) (hdue : time ≤ engine.nextKeepalive)
    (hbeats : TunnelEngine.Beats engine engine' time l) :
    Sending interval start engine' (times ++ List.replicate l.length time) time where
  counter := by rw [List.length_append, List.length_replicate, h.counter, hsends.counter]
  le_now x hx := by
    rcases List.mem_append.1 hx with hx | hx
    · exact (h.le_now x hx).trans htime
    · exact (List.eq_of_mem_replicate hx).le
  sorted := by
    refine List.pairwise_append.2 ⟨h.sorted, List.pairwise_replicate.2 (Or.inr (le_refl _)), ?_⟩
    intro x hx y hy
    rw [List.eq_of_mem_replicate hy]
    exact (h.le_now x hx).trans htime
  spaced := by
    have hmore := h.spaced.append (List.replicate l.length time)
    unfold TunnelEngine.Beats at hbeats
    split at hbeats
    · -- the keepalive is sent when it is due
      rename_i hnow
      have hnext : engine.nextKeepalive = time := le_antisymm hnow hdue
      obtain ⟨hne, hmoved⟩ := hbeats
      rw [hmoved, hinterval, ← hnext]
      rw [← hnext] at hmore
      refine hmore.beat (List.mem_append_right _ (List.mem_replicate.2 ⟨?_, rfl⟩))
      exact mt List.length_eq_zero_iff.1 hne
    · rw [hbeats]
      exact hmore

omit [AddCommGroup τ] in
/-- **The peer sends packets.** -/
theorem Hearing.more (h : Hearing P secret sessionId role packetsPerKey start engine way times)
    {sender : EndpointRole} (hsender : sender = role.peer) {peer peer' : TunnelEngine τ}
    {l : List (Packet × Bytes × Address)} (hcounter : times.length = peer.sequenceNumber)
    (hsends : TunnelEngine.Sends P secret sessionId sender packetsPerKey peer peer' l) :
    Hearing P secret sessionId role packetsPerKey start engine
      (way ++ l.map fun x => ⟨x.1, x.2.1, time⟩) (times ++ List.replicate l.length time) where
  heard := h.heard
  genuine d hd := by
    rcases List.mem_append.1 hd with hd | hd
    · obtain ⟨htime, hgenuine⟩ := h.genuine d hd
      refine ⟨?_, hgenuine⟩
      rw [List.getElem?_append_left (List.getElem?_eq_some_iff.1 htime).1, htime]
    · obtain ⟨x, hx, rfl⟩ := List.mem_map.1 hd
      refine ⟨?_, hsender ▸ hsends.genuine x hx⟩
      obtain ⟨i, hi⟩ := List.mem_iff_getElem?.1 hx
      show (times ++ List.replicate l.length time)[x.1.sequenceNumber]? = some time
      rw [hsends.number i x hi, ← hcounter, List.getElem?_append_right (Nat.le_add_right _ _),
        Nat.add_sub_cancel_left, List.getElem?_replicate, if_pos]
      exact (List.getElem?_eq_some_iff.1 hi).1
  rejected n hn := by
    obtain ⟨x, hx, hle⟩ := h.rejected n hn
    refine ⟨x, ?_, hle⟩
    rw [List.getElem?_append_left (List.getElem?_eq_some_iff.1 hx).1, hx]
  arrived x hx := by
    rcases List.mem_append.1 hx with hx | hx
    · rcases h.arrived x hx with ⟨d, hd, rfl⟩ | hle
      · exact Or.inl ⟨d, List.mem_append_left _ hd, rfl⟩
      · exact Or.inr hle
    · obtain ⟨hne, rfl⟩ := List.mem_replicate.1 hx
      obtain ⟨y, hy⟩ := List.exists_mem_of_length_pos (Nat.pos_of_ne_zero hne)
      exact Or.inl ⟨_, List.mem_append_right _ (List.mem_map.2 ⟨y, hy, rfl⟩), rfl⟩

omit [AddCommGroup τ] in
/-- The time of the last receive after a datagram arrived or not: what was heard stays heard, and
what arrives is as old as something heard. -/
theorem Hearing.lastReceiveAfter_le
    (h : Hearing P secret sessionId role packetsPerKey start engine way times)
    (htime : ∀ x ∈ times, x ≤ time) {input : IterationInput τ} (hclock : input.receiveClock = time)
    {arrival : Option (InFlight τ)} (harrival : ∀ d ∈ arrival, d ∈ way)
    (haccepted : engine.accepted? P secret role packetsPerKey input = arrival.bind fun d =>
      if engine.replayWindow.isReplay d.plain.sequenceNumber = false then some d.plain else none) :
    (∀ x ∈ times, x ≤ engine.lastAuthenticatedReceive →
      x ≤ engine.lastReceiveAfter P secret role packetsPerKey input) ∧
    ∀ d ∈ arrival, d.time ≤ engine.lastReceiveAfter P secret role packetsPerKey input := by
  have hmem : ∀ d ∈ arrival, d.time ∈ times := fun d hd =>
    List.mem_of_getElem? (h.genuine d (harrival d hd)).1
  unfold TunnelEngine.lastReceiveAfter
  rw [hclock]
  split
  · exact ⟨fun x hx _ => htime x hx, fun d hd => htime _ (hmem d hd)⟩
  · rename_i hnone
    refine ⟨fun x _ hle => hle, ?_⟩
    intro d hd
    obtain rfl : arrival = some d := hd
    rw [haccepted, Option.bind_some] at hnone
    by_cases hfresh : engine.replayWindow.isReplay d.plain.sequenceNumber = false
    · rw [if_pos hfresh] at hnone
      exact absurd rfl hnone
    · -- the number is rejected, so something as new was heard
      obtain ⟨x, hx, hle⟩ := h.rejected _ (Bool.eq_true_of_not_eq_false hfresh)
      rw [(h.genuine d (harrival d rfl)).1] at hx
      rwa [Option.some.inj hx]

omit [AddCommGroup τ] in
/-- **An iteration receives**, or not. -/
theorem Hearing.hears (h : Hearing P secret sessionId role packetsPerKey start engine way times)
    (htime : ∀ x ∈ times, x ≤ time) (hstart : start ≤ time) (hsorted : times.Pairwise (· ≤ ·))
    {input : IterationInput τ} (hclock : input.receiveClock = time)
    {arrival : Option (InFlight τ)} {remaining : List (InFlight τ)}
    (harrival : ∀ d ∈ arrival, d ∈ way) (hremaining : ∀ d ∈ remaining, d ∈ way)
    (hway : ∀ d ∈ way, arrival = some d ∨ d ∈ remaining)
    (haccepted : engine.accepted? P secret role packetsPerKey input = arrival.bind fun d =>
      if engine.replayWindow.isReplay d.plain.sequenceNumber = false then some d.plain else none)
    (hreceives : TunnelEngine.Receives P secret role packetsPerKey input engine engine') :
    Hearing P secret sessionId role packetsPerKey start engine' remaining times := by
  obtain ⟨hkept, hheard⟩ := h.lastReceiveAfter_le htime hclock harrival haccepted
  rw [← hreceives.receive] at hkept hheard
  have hwindow := hreceives.window
  constructor
  · rw [hreceives.receive, TunnelEngine.lastReceiveAfter, hclock]
    split
    · exact hstart
    · exact h.heard
  · exact fun d hd => h.genuine d (hremaining d hd)
  · intro n hn
    cases hp : engine.accepted? P secret role packetsPerKey input with
    | none =>
        rw [hp] at hwindow
        simp only at hwindow
        rw [hwindow] at hn
        obtain ⟨x, hx, hle⟩ := h.rejected n hn
        exact ⟨x, hx, hkept x (List.mem_of_getElem? hx) hle⟩
    | some p =>
        rw [hp] at hwindow
        simp only at hwindow
        rcases ReplayWindow.isReplay_of_markAuthenticated hwindow hn with hold | hle
        · obtain ⟨x, hx, hle⟩ := h.rejected n hold
          exact ⟨x, hx, hkept x (List.mem_of_getElem? hx) hle⟩
        · -- a number up to the accepted one was sent before it
          rw [haccepted] at hp
          obtain ⟨d, hd, hfresh⟩ := Option.bind_eq_some_iff.1 hp
          obtain rfl := Option.some.inj (Option.ite_none_right_eq_some.1 hfresh).2
          have hsent := (h.genuine d (harrival d hd)).1
          obtain ⟨hlt, htimes⟩ := List.getElem?_eq_some_iff.1 hsent
          have hnlt : n < times.length := by omega
          refine ⟨times[n], List.getElem?_eq_getElem hnlt, ?_⟩
          refine le_trans ?_ (hheard d hd)
          rw [← htimes]
          rcases Nat.lt_or_eq_of_le (Int.ofNat_le.1 hle) with hltn | heq
          · exact List.pairwise_iff_getElem.1 hsorted n _ hnlt hlt hltn
          · exact le_of_eq (by simp only [heq])
  · intro x hx
    rcases h.arrived x hx with ⟨d, hd, rfl⟩ | hle
    · rcases hway d hd with harr | hrest
      · exact Or.inr (hheard d harr)
      · exact Or.inl ⟨d, hrest, rfl⟩
    · exact Or.inr (hkept x hx hle)

end halves

/-! ## The invariant -/

variable [AddCommGroup τ] [LinearOrder τ] {interval timeout start : EndpointRole → τ} {delay : τ}
  {sent : EndpointRole → List τ} {tunnel : TimedTunnel τ} {s : TimedStep τ}

/-- What holds of two engines when the packets of each end were sent at these times. -/
structure Invariant (P : Primitives) (secret : Bytes) (sessionId packetsPerKey : ℕ)
    (interval timeout start : EndpointRole → τ) (sent : EndpointRole → List τ)
    (tunnel : TimedTunnel τ) : Prop where
  uses : ∀ role, (tunnel.engine role).UsesSome P secret sessionId role packetsPerKey
  keepaliveInterval : ∀ role, (tunnel.engine role).keepaliveInterval = interval role
  livenessTimeout : ∀ role, (tunnel.engine role).livenessTimeout = timeout role
  start_le : ∀ role, start role ≤ tunnel.entered role
  entered_le : ∀ role, tunnel.entered role ≤ (tunnel.engine role).nextKeepalive
  sending : ∀ role, Sending (interval role) (start role) (tunnel.engine role) (sent role)
    tunnel.now
  hearing : ∀ role, Hearing P secret sessionId role packetsPerKey (start role)
    (tunnel.engine role) (tunnel.toEnd role) (sent role.peer)

/-- Two new engines. -/
theorem invariant_new [IsOrderedAddMonoid τ] (hH : P.LawfulHkdf) {remote : EndpointRole → Address}
    {ends : Tunnel τ} (hpos : ∀ role, 0 < interval role)
    (h : Tunnel.new P secret sessionId packetsPerKey remote interval timeout start = .ok ends) :
    Invariant P secret sessionId packetsPerKey interval timeout start (fun _ => [])
      (new ends start) := by
  have hengine : ∀ role, ∃ cipher, (new ends start).engine role = ⟨remote role, sessionId, 0,
      some cipher, .default, interval role, timeout role, start role,
      start role + interval role⟩ := by
    intro role
    obtain ⟨cipher, -, h⟩ := Tunnel.newEnd_ok ((Tunnel.new_ok h).2 role)
    exact ⟨cipher, h⟩
  have hwindow : ∀ n : ℕ, ReplayWindow.default.isReplay n = false := fun n =>
    (ReplayWindow.markAuthenticated_of_gt (show (-1 : ℤ) < n by omega)).1
  constructor
  · exact fun role => ((Tunnel.sound_new hH h) role).sender.uses
  · intro role
    obtain ⟨cipher, hnew⟩ := hengine role
    rw [hnew]
  · intro role
    obtain ⟨cipher, hnew⟩ := hengine role
    rw [hnew]
  · exact fun role => le_refl (start role)
  · intro role
    obtain ⟨cipher, hnew⟩ := hengine role
    rw [hnew]
    exact le_add_of_nonneg_right (hpos role).le
  · intro role
    obtain ⟨cipher, hnew⟩ := hengine role
    rw [hnew]
    exact ⟨rfl, nofun, List.Pairwise.nil, spaced_new _ _⟩
  · intro role
    obtain ⟨cipher, hnew⟩ := hengine role
    rw [hnew]
    refine ⟨le_refl _, nofun, fun n hn => ?_, nofun⟩
    rw [hwindow n] at hn
    cases hn

/-- `select` returns before the next keepalive is due. -/
theorem Invariant.le_nextKeepalive [IsOrderedAddMonoid τ]
    (h : Invariant P secret sessionId packetsPerKey interval timeout start sent tunnel)
    (hpos : ∀ role, 0 < interval role) (hallowed : tunnel.Allowed start delay s)
    (role : EndpointRole) : s.time ≤ (tunnel.engine role).nextKeepalive := by
  obtain ⟨-, -, hselect, -⟩ := hallowed
  have hne : (tunnel.engine role).keepaliveInterval ≠ 0 := by
    rw [h.keepaliveInterval]
    exact (hpos role).ne'
  have htime := hselect role
  rw [TunnelEngine.selectTimeout_eq hne] at htime
  exact ((htime _ rfl).trans (add_le_max_left (capped_le _ _))).trans
    (max_le (h.entered_le role) (le_refl _))

/-- What arrives in the iteration is accepted, unless its number is rejected. -/
theorem Invariant.accepted? (hA : P.LawfulAead)
    (h : Invariant P secret sessionId packetsPerKey interval timeout start sent tunnel) :
    (tunnel.engine s.role).accepted? P secret s.role packetsPerKey (tunnel.iterationInput s)
      = (tunnel.arrival? s).bind fun d =>
        if (tunnel.engine s.role).replayWindow.isReplay d.plain.sequenceNumber = false then
          some d.plain
        else none := by
  unfold TunnelEngine.accepted? iterationInput
  cases harrival : tunnel.arrival? s with
  | none => rfl
  | some d =>
      obtain ⟨i, -, hd⟩ := Option.bind_eq_some_iff.1 harrival
      obtain ⟨log, -, hid, -⟩ := h.uses s.role
      exact TunnelEngine.opened_of_genuine hA hid
        ((h.hearing s.role).genuine d (List.mem_of_getElem? hd)).2

omit [AddCommGroup τ] [LinearOrder τ] in
/-- What arrives in the iteration was on its way. -/
theorem mem_of_arrival? : ∀ d ∈ tunnel.arrival? s, d ∈ tunnel.toEnd s.role := by
  intro d hd
  obtain ⟨i, -, hd⟩ := Option.bind_eq_some_iff.1 hd
  exact List.mem_of_getElem? hd

omit [AddCommGroup τ] [LinearOrder τ] in
/-- The other datagrams remain on their way. -/
theorem mem_remaining :
    (∀ d ∈ tunnel.remaining s, d ∈ tunnel.toEnd s.role) ∧
      ∀ d ∈ tunnel.toEnd s.role, tunnel.arrival? s = some d ∨ d ∈ tunnel.remaining s := by
  unfold remaining arrival?
  cases s.received with
  | none => exact ⟨fun d hd => hd, fun d hd => Or.inr hd⟩
  | some i =>
      refine ⟨fun d hd => List.mem_of_mem_eraseIdx hd, fun d hd => ?_⟩
      obtain ⟨j, hj⟩ := List.mem_iff_getElem?.1 hd
      by_cases hij : j = i
      · exact Or.inl (hij ▸ hj)
      · exact Or.inr (List.mem_eraseIdx_iff_getElem?.2 ⟨j, hij, hj⟩)

/-- **The iteration is in time.** -/
theorem Invariant.in_time [IsOrderedAddMonoid τ] (hA : P.LawfulAead)
    (h : Invariant P secret sessionId packetsPerKey interval timeout start sent tunnel)
    (hpos : ∀ role, 0 < interval role) (hdelay : 0 ≤ delay)
    (hbound : ∀ role, interval role.peer + delay + max 0 (start role.peer - start role)
      < timeout role)
    (hallowed : tunnel.Allowed start delay s) :
    ¬ (tunnel.engine s.role).livenessTimeout ≤ s.time - (tunnel.engine s.role).lastReceiveAfter P
      secret s.role packetsPerKey (tunnel.iterationInput s) := by
  have hdue := h.le_nextKeepalive hpos hallowed s.role.peer
  obtain ⟨hnow, hentered, -, hway⟩ := hallowed
  have hhearing := h.hearing s.role
  have htime : ∀ x ∈ sent s.role.peer, x ≤ s.time := fun x hx =>
    ((h.sending s.role.peer).le_now x hx).trans hnow
  obtain ⟨hkept, -⟩ := hhearing.lastReceiveAfter_le htime (show (tunnel.iterationInput
    s).receiveClock = s.time from rfl) mem_of_arrival? (h.accepted? hA)
  rw [h.livenessTimeout, not_le]
  refine (h.sending s.role.peer).spaced.in_time hdue hdelay ?_ ?_ (hbound s.role)
  · unfold TunnelEngine.lastReceiveAfter
    split
    · exact (h.start_le s.role).trans hentered
    · exact hhearing.heard
  · intro x hx hlater
    rcases hhearing.arrived x hx with ⟨d, hd, rfl⟩ | hle
    · exact hway s.role d hd
    · exact absurd (hkept x hx hle) (not_le.2 hlater)

/-- After an iteration the next keepalive is not overdue. -/
theorem le_nextKeepalive_of_beats [IsOrderedAddMonoid τ] {time : τ}
    {l : List (Packet × Bytes × Address)} (h : TunnelEngine.Beats engine engine' time l)
    (hdue : time ≤ engine.nextKeepalive) (hinterval : 0 ≤ engine.keepaliveInterval) :
    time ≤ engine'.nextKeepalive := by
  unfold TunnelEngine.Beats at h
  split at h
  · rw [h.2]
    exact le_add_of_nonneg_right hinterval
  · rw [h]
    exact hdue

section after

variable {role' : EndpointRole}

theorem after_engine_self : (tunnel.after P s).engine s.role = (tunnel.outcome P s).state :=
  Function.update_self ..

theorem after_engine_of_ne (h : role' ≠ s.role) :
    (tunnel.after P s).engine role' = tunnel.engine role' := Function.update_of_ne h ..

theorem after_entered_self : (tunnel.after P s).entered s.role = s.time :=
  Function.update_self ..

theorem after_entered_of_ne (h : role' ≠ s.role) :
    (tunnel.after P s).entered role' = tunnel.entered role' := Function.update_of_ne h ..

theorem after_toEnd_self : (tunnel.after P s).toEnd s.role = tunnel.remaining s := if_pos rfl

theorem after_toEnd_of_ne (h : role' ≠ s.role) :
    (tunnel.after P s).toEnd role' = tunnel.toEnd role' ++
      (sends (tunnel.outcome P s).trace).map fun x => ⟨x.1, x.2.1, s.time⟩ := if_neg h

end after

omit [AddCommGroup τ] [LinearOrder τ] in
/-- No receive call of an iteration raises. -/
theorem udpReceive_ne (e : PyError) : (tunnel.iterationInput s).udpReceive ≠ some (.error e) := by
  unfold iterationInput
  cases tunnel.arrival? s with
  | none => exact nofun
  | some x => exact nofun

/-- **An iteration that returns** keeps the invariant. -/
theorem Invariant.step [IsOrderedAddMonoid τ] (hA : P.LawfulAead) (hH : P.LawfulHkdf)
    (h : Invariant P secret sessionId packetsPerKey interval timeout start sent tunnel)
    (hpos : ∀ role, 0 < interval role) (hallowed : tunnel.Allowed start delay s) {n : ℕ}
    (hresult : (tunnel.outcome P s).result = .ok n) :
    ∃ sent', Invariant P secret sessionId packetsPerKey interval timeout start sent'
      (tunnel.after P s) := by
  have hdue := h.le_nextKeepalive hpos hallowed s.role
  obtain ⟨hnow, hentered, -, -⟩ := hallowed
  have hinterval : (tunnel.engine s.role).keepaliveInterval ≠ 0 := by
    rw [h.keepaliveInterval]
    exact (hpos s.role).ne'
  have hread : (tunnel.iterationInput s).tunRead ≠ some (.error livenessTimeoutError) :=
    s.input.tunRead_ne
  obtain ⟨-, hok⟩ := TunnelEngine.runOnce_liveness hA hH (h.uses s.role) hread
    s.input.tunWrite_ne udpReceive_ne rfl rfl none
  obtain ⟨-, hreceives, huses⟩ := hok n hresult
  obtain ⟨hsends, hbeats⟩ :=
    TunnelEngine.runOnce_beats hA hH (h.uses s.role) hinterval none n hresult
  have hsame : s.role.peer ≠ s.role := s.role.peer_ne
  have htime : ∀ x ∈ sent s.role.peer, x ≤ s.time := fun x hx =>
    ((h.sending s.role.peer).le_now x hx).trans hnow
  refine ⟨Function.update sent s.role
    (sent s.role ++ List.replicate (sends (tunnel.outcome P s).trace).length s.time), ?_⟩
  -- only the endpoint of this iteration has moved; the other one keeps its half of each conjunct
  constructor
  · refine s.role.forall_of_ne ?_ fun role hrole => ?_
    · rw [after_engine_self]
      exact huses
    · rw [after_engine_of_ne hrole]
      exact h.uses role
  · refine s.role.forall_of_ne ?_ fun role hrole => ?_
    · rw [after_engine_self]
      exact hreceives.interval.trans (h.keepaliveInterval _)
    · rw [after_engine_of_ne hrole]
      exact h.keepaliveInterval role
  · refine s.role.forall_of_ne ?_ fun role hrole => ?_
    · rw [after_engine_self]
      exact hreceives.timeout.trans (h.livenessTimeout _)
    · rw [after_engine_of_ne hrole]
      exact h.livenessTimeout role
  · refine s.role.forall_of_ne ?_ fun role hrole => ?_
    · rw [after_entered_self]
      exact (h.start_le _).trans hentered
    · rw [after_entered_of_ne hrole]
      exact h.start_le role
  · refine s.role.forall_of_ne ?_ fun role hrole => ?_
    · rw [after_entered_self, after_engine_self]
      refine le_nextKeepalive_of_beats hbeats hdue ?_
      rw [h.keepaliveInterval]
      exact (hpos s.role).le
    · rw [after_entered_of_ne hrole, after_engine_of_ne hrole]
      exact h.entered_le role
  · refine s.role.forall_of_ne ?_ fun role hrole => ?_
    · rw [after_engine_self, Function.update_self]
      exact (h.sending s.role).sends hnow hsends (h.keepaliveInterval _) hdue hbeats
    · rw [after_engine_of_ne hrole, Function.update_of_ne hrole]
      exact (h.sending role).wait hnow
  -- the endpoint has heard what had arrived, and its peer has more to hear
  · refine s.role.forall_of_ne ?_ fun role hrole => ?_
    · rw [after_engine_self, after_toEnd_self, Function.update_of_ne hsame]
      exact (h.hearing s.role).hears htime ((h.start_le _).trans hentered)
        (h.sending s.role.peer).sorted rfl mem_of_arrival? mem_remaining.1 mem_remaining.2
        (h.accepted? hA) hreceives
    · obtain rfl := EndpointRole.eq_peer_of_ne hrole
      rw [after_engine_of_ne hrole, after_toEnd_of_ne hrole, EndpointRole.peer_peer,
        Function.update_self]
      have hhearing := h.hearing s.role.peer
      rw [EndpointRole.peer_peer] at hhearing
      exact hhearing.more (EndpointRole.peer_peer _).symm (h.sending s.role).counter hsends

/-- **The invariant holds in every state that a run reaches.** -/
theorem Invariant.run [IsOrderedAddMonoid τ] (hA : P.LawfulAead) (hH : P.LawfulHkdf)
    (h : Invariant P secret sessionId packetsPerKey interval timeout start sent tunnel)
    (hpos : ∀ role, 0 < interval role) {steps : List (TimedStep τ)} {reached : TimedTunnel τ}
    (hrun : tunnel.run P start delay steps = some reached) :
    ∃ sent', Invariant P secret sessionId packetsPerKey interval timeout start sent' reached := by
  induction steps generalizing tunnel sent with
  | nil =>
      obtain rfl := Option.some.inj hrun
      exact ⟨sent, h⟩
  | cons s steps ih =>
      obtain ⟨next, hstep, hrest⟩ := Option.bind_eq_some_iff.1 hrun
      unfold TimedTunnel.step at hstep
      split at hstep
      swap
      · cases hstep
      rename_i hallowed
      split at hstep
      swap
      · cases hstep
      rename_i n hresult
      obtain rfl := Option.some.inj hstep
      obtain ⟨sent', hnext⟩ := h.step hA hH hpos hallowed hresult
      exact ih hnext hrest

/-- **No spurious liveness failure.** When the peer's keepalive interval, the delay of the
network and the peer's later start fit into the liveness timeout of both engines, no iteration of
either engine raises the liveness timeout. -/
theorem no_spurious_timeout [IsOrderedAddMonoid τ] (hA : P.LawfulAead) (hH : P.LawfulHkdf)
    {remote : EndpointRole → Address} {ends : Tunnel τ}
    (hnew : Tunnel.new P secret sessionId packetsPerKey remote interval timeout start = .ok ends)
    (hpos : ∀ role, 0 < interval role) (hdelay : 0 ≤ delay)
    (hbound : ∀ role, interval role.peer + delay + max 0 (start role.peer - start role)
      < timeout role)
    {steps : List (TimedStep τ)} {reached : TimedTunnel τ}
    (hrun : (new ends start).run P start delay steps = some reached)
    {s : TimedStep τ} (hallowed : reached.Allowed start delay s) :
    (reached.outcome P s).result ≠ .error livenessTimeoutError := by
  obtain ⟨sent, h⟩ := (invariant_new hH hpos hnew).run hA hH hpos hrun
  have hread : (reached.iterationInput s).tunRead ≠ some (.error livenessTimeoutError) :=
    s.input.tunRead_ne
  obtain ⟨hlate, -⟩ := TunnelEngine.runOnce_liveness hA hH (h.uses s.role) hread
    s.input.tunWrite_ne udpReceive_ne rfl rfl none
  exact fun hresult => h.in_time hA hpos hdelay hbound hallowed (hlate hresult)

end TimedTunnel

/-! ## A sample run -/

/-- The keepalive intervals of the sample ends. -/
def sampleInterval : EndpointRole → ℤ
  | .client => 2
  | .server => 3

/-- Their liveness timeouts. -/
def sampleTimeout : EndpointRole → ℤ
  | .client => 10
  | .server => 9

/-- The sample server starts after the client. -/
def sampleStart : EndpointRole → ℤ
  | .client => 0
  | .server => 4

/-- The two sample engines. -/
def sampleEnds : Tunnel ℤ :=
  (Tunnel.new sample sampleSecret 7 2 (fun role => sampleAddress role.peer) sampleInterval
    sampleTimeout sampleStart).toOption.get (by decide +kernel)

theorem sampleEnds_new : Tunnel.new sample sampleSecret 7 2 (fun role => sampleAddress role.peer)
    sampleInterval sampleTimeout sampleStart = .ok sampleEnds := by
  unfold sampleEnds
  exact eq_ok_get _

/-- An iteration without a packet from the TUN device. -/
def sampleTick (role : EndpointRole) (time : ℤ) (received : Option ℕ) : TimedStep ℤ where
  role := role
  input := {
    selectClock := 0
    tunRead := none
    tunSendFailure := none
    udpReceive := none
    receiveClock := 0
    tunWrite payload := .ok payload.length
    loopClock := 0
    keepaliveSendFailure := none
    tunRead_ne := nofun
    tunWrite_ne := nofun }
  time := time
  received := received

/-- The server starts after two keepalives of the client and receives them in the other order;
its own first keepalive arrives one time unit later. -/
def sampleTicks : List (TimedStep ℤ) := [
  sampleTick .client 2 none, sampleTick .client 4 none, sampleTick .server 4 (some 1),
  sampleTick .server 5 (some 0), sampleTick .client 6 none, sampleTick .server 7 (some 0),
  sampleTick .client 8 (some 0)]

/-- The sample engines after these iterations. -/
def sampleReached : TimedTunnel ℤ :=
  ((TimedTunnel.new sampleEnds sampleStart).run sample sampleStart 1 sampleTicks).get
    (by decide +kernel)

theorem no_spurious_timeout_sample :
    (sampleReached.outcome sample (sampleTick .client 9 none)).result
        ≠ .error livenessTimeoutError ∧
      (sampleReached.engine .client).lastAuthenticatedReceive = 8 :=
  ⟨TimedTunnel.no_spurious_timeout sample_lawfulAead sample_lawfulHkdf sampleEnds_new
    (by decide) (by decide) (by decide) (Option.some_get _).symm
    (show sampleReached.Allowed sampleStart 1 (sampleTick .client 9 none) by decide +kernel),
    by decide +kernel⟩

end MatfVpn
