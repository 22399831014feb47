/-
# The client's liveness timeout

The server sends nothing but answers to hellos and packets from its TUN device, so only
these packets move the client's deadline: the keepalives of the client have no answer.

* `Link.Invariant` : what the client's socket holds, and what the client makes of it;
* `Link.client_stays_alive` : a client that is in time never raises the liveness timeout;
* `Link.silent_client_times_out` : without traffic it does.
-/
import MatfVpn.Link
import MatfVpn.OutboundIsolation
import MatfVpn.TunnelDelivery

namespace MatfVpn

open Program

/-! ## The client's socket -/

/-- The datagrams in the client's socket, from the oldest on: traffic of the session with
growing numbers between `highest` and `next`, and datagrams that are none of its packets. -/
inductive Queued (P : Primitives) (a : Acceptance) (packetsPerKey : ℕ) :
    ℤ → ℕ → List (Packet × Bytes) → Prop
  | nil (highest : ℤ) (next : ℕ) : highest < next → Queued P a packetsPerKey highest next []
  | traffic (highest : ℤ) (next : ℕ) (plain : Packet) (data : Bytes) (l : List (Packet × Bytes)) :
      IsTraffic a plain → highest < plain.sequenceNumber →
      (sealPacket P a.sessionSecret a.hello.sessionId .server packetsPerKey plain).encode
        = .ok data →
      Queued P a packetsPerKey plain.sequenceNumber next l →
      Queued P a packetsPerKey highest next ((plain, data) :: l)
  | other (highest : ℤ) (next : ℕ) (plain packet : Packet) (data : Bytes)
      (l : List (Packet × Bytes)) :
      ¬ IsTraffic a plain → packet.encode = .ok data → packet.sessionId = plain.sessionId →
      packet.messageType = plain.messageType → plain.messageType ≠ .keepalive →
      Queued P a packetsPerKey highest next l →
      Queued P a packetsPerKey highest next ((plain, data) :: l)

section queue

variable {P : Primitives} {a : Acceptance} {packetsPerKey : ℕ} {highest : ℤ} {next : ℕ}
  {l : List (Packet × Bytes)}

/-- The server sends traffic with the next number. -/
theorem Queued.concat_traffic (h : Queued P a packetsPerKey highest next l) {plain : Packet}
    {data : Bytes} (htraffic : IsTraffic a plain) (hn : plain.sequenceNumber = next)
    (hdata : (sealPacket P a.sessionSecret a.hello.sessionId .server packetsPerKey plain).encode
      = .ok data) : Queued P a packetsPerKey highest (next + 1) (l ++ [(plain, data)]) := by
  induction h with
  | nil highest next hlt =>
      refine .traffic _ _ _ _ _ htraffic (hn ▸ hlt) hdata (.nil _ _ ?_)
      rw [hn]
      omega
  | traffic highest next plain' data' l htraffic' hlt hdata' _ ih =>
      exact .traffic _ _ _ _ _ htraffic' hlt hdata' (ih hn)
  | other highest next plain' packet data' l hother hdata' hid htype hkeepalive _ ih =>
      exact .other _ _ _ packet _ _ hother hdata' hid htype hkeepalive (ih hn)

/-- The server sends something else. -/
theorem Queued.concat_other (h : Queued P a packetsPerKey highest next l) {plain packet : Packet}
    {data : Bytes} (hother : ¬ IsTraffic a plain) (hdata : packet.encode = .ok data)
    (hid : packet.sessionId = plain.sessionId) (htype : packet.messageType = plain.messageType)
    (hkeepalive : plain.messageType ≠ .keepalive) :
    Queued P a packetsPerKey highest next (l ++ [(plain, data)]) := by
  induction h with
  | nil highest next hlt =>
      exact .other _ _ _ packet _ _ hother hdata hid htype hkeepalive (.nil _ _ hlt)
  | traffic highest next plain' data' l htraffic' hlt hdata' _ ih =>
      exact .traffic _ _ _ _ _ htraffic' hlt hdata' ih
  | other highest next plain' packet' data' l hother' hdata' hid' htype' hkeepalive' _ ih =>
      exact .other _ _ _ packet' _ _ hother' hdata' hid' htype' hkeepalive' ih

/-- Answers to hellos are none of its packets. -/
theorem Queued.append_answers (h : Queued P a packetsPerKey highest next l)
    {answers : List (Packet × Bytes)}
    (hanswers : ∀ d ∈ answers, d.1.messageType = .serverHello ∧ d.1.encode = .ok d.2) :
    Queued P a packetsPerKey highest next (l ++ answers) := by
  induction answers generalizing l with
  | nil =>
      rw [List.append_nil]
      exact h
  | cons d answers ih =>
      obtain ⟨htype, hdata⟩ := hanswers d List.mem_cons_self
      rw [List.append_cons]
      refine ih ?_ fun d' hd' => hanswers d' (List.mem_cons_of_mem _ hd')
      refine h.concat_other (fun htraffic => ?_) hdata rfl rfl ?_
      · have hdataType := htraffic.1
        rw [htype] at hdataType
        cases hdataType
      · rw [htype]
        nofun

end queue

/-! ## Reception by the client -/

namespace TunnelEngine

variable {τ : Type} {P : Primitives} {a : Acceptance} {packetsPerKey : ℕ}

/-- The client accepts traffic with a number above the highest one. -/
theorem opened_of_traffic (hA : P.LawfulAead) {client : TunnelEngine τ}
    (hid : client.sessionId = a.hello.sessionId) {plain : Packet} (htraffic : IsTraffic a plain)
    (hn : client.replayWindow.highestSequence < plain.sequenceNumber) {data : Bytes}
    (hdata : (sealPacket P a.sessionSecret a.hello.sessionId .server packetsPerKey plain).encode
      = .ok data) :
    client.opened P a.sessionSecret .client packetsPerKey data client.remoteAddress
      = some plain := by
  have hfresh := (ReplayWindow.markAuthenticated_of_gt hn).1
  have hopened : client.opened P a.sessionSecret .client packetsPerKey data client.remoteAddress
      = if client.replayWindow.isReplay plain.sequenceNumber = false then some plain else none :=
    opened_of_sealPacket hA hid htraffic.2 (Or.inl htraffic.1) hdata
  rw [hopened, if_pos hfresh]

/-- The client drops everything else. -/
theorem opened_of_other {client : TunnelEngine τ} (hid : client.sessionId = a.hello.sessionId)
    {plain packet : Packet} (hother : ¬ IsTraffic a plain) {data : Bytes}
    (hdata : packet.encode = .ok data) (hsession : packet.sessionId = plain.sessionId)
    (htype : packet.messageType = plain.messageType) (hkeepalive : plain.messageType ≠ .keepalive) :
    client.opened P a.sessionSecret .client packetsPerKey data client.remoteAddress = none := by
  rw [opened, Packet.decode_of_encode hdata]
  refine if_neg ?_
  rintro ⟨-, hsession', hdata' | hkeepalive', -⟩
  · exact hother ⟨htype ▸ hdata', (hsession.symm.trans hsession').trans hid⟩
  · exact hkeepalive (htype ▸ hkeepalive')

end TunnelEngine

/-! ## The invariant -/

namespace Link

variable {τ : Type} {P : Primitives} {registry : ClientRegistry} {a : Acceptance} {ref : ℕ}
  {link : Link τ}

/-- What holds of a link while the session is installed. -/
structure Invariant (P : Primitives) (registry : ClientRegistry) (a : Acceptance) (ref : ℕ)
    (link : Link τ) : Prop where
  server : ∃ t : ServerTrace τ, link.server.Invariant P registry t ∧
    (freshAcceptances t)[ref]? = some a
  installed : MultiClientServer.Installed link.server.engine ref a
  queued : ∃ s, link.server.engine.session? ref = some s ∧
    Queued P a registry.packetsPerKey link.client.replayWindow.highestSequence s.sendSequence
      link.toClient
  uses : link.client.UsesSome P a.sessionSecret a.hello.sessionId .client registry.packetsPerKey
  receive : link.client.lastAuthenticatedReceive = link.lastTraffic

/-- **What the client receives of its socket**: the oldest datagram, when it is traffic. -/
theorem Invariant.receives (h : Invariant P registry a ref link) (hA : P.LawfulAead)
    (input : ClientInput τ) :
    link.client.lastReceiveAfter P a.sessionSecret .client registry.packetsPerKey
        (link.clientInput input) = link.lastTrafficAfter a input ∧
      ∀ client', TunnelEngine.Receives P a.sessionSecret .client registry.packetsPerKey
          (link.clientInput input) link.client client' →
        ∃ s, link.server.engine.session? ref = some s ∧
          Queued P a registry.packetsPerKey client'.replayWindow.highestSequence s.sendSequence
            link.toClient.tail := by
  obtain ⟨s, hs, hqueued⟩ := h.queued
  obtain ⟨log, -, hid, -⟩ := h.uses
  have hnone : link.client.accepted? P a.sessionSecret .client registry.packetsPerKey
        (link.clientInput input) = none →
      link.client.lastReceiveAfter P a.sessionSecret .client registry.packetsPerKey
          (link.clientInput input) = link.lastTraffic ∧
        ∀ client', TunnelEngine.Receives P a.sessionSecret .client registry.packetsPerKey
            (link.clientInput input) link.client client' →
          client'.replayWindow = link.client.replayWindow := by
    intro haccepted
    refine ⟨?_, fun client' hreceives => ?_⟩
    · rw [TunnelEngine.lastReceiveAfter, haccepted, ← h.receive]
      rfl
    · have hwindow := hreceives.window
      rw [haccepted] at hwindow
      exact hwindow
  -- the datagram is not cut off
  have hwhole : ∀ {packet : Packet} {data : Bytes}, packet.encode = .ok data →
      data.take maxUdpDatagramSize = data := fun hdata =>
    List.take_of_length_le (Packet.length_encode_le hdata)
  cases hsocket : link.toClient with
  | nil =>
      rw [hsocket] at hqueued
      obtain ⟨hlast, hwindow⟩ := hnone (by rw [TunnelEngine.accepted?, clientInput, hsocket]; rfl)
      refine ⟨by rw [hlast, lastTrafficAfter, hsocket], fun client' hreceives => ?_⟩
      rw [hwindow client' hreceives]
      exact ⟨s, hs, hqueued⟩
  | cons d l =>
  rw [hsocket] at hqueued
  have haccepted : link.client.accepted? P a.sessionSecret .client registry.packetsPerKey
      (link.clientInput input) = link.client.opened P a.sessionSecret .client
        registry.packetsPerKey (d.2.take maxUdpDatagramSize) link.client.remoteAddress := by
    rw [TunnelEngine.accepted?, clientInput, hsocket]
    rfl
  cases hqueued with
  | traffic _ _ plain data _ htraffic hlt hdata hrest =>
      rw [hwhole hdata, TunnelEngine.opened_of_traffic hA hid htraffic hlt hdata] at haccepted
      obtain ⟨-, window, hmark, hhighest⟩ := ReplayWindow.markAuthenticated_of_gt hlt
      refine ⟨?_, fun client' hreceives => ?_⟩
      · rw [TunnelEngine.lastReceiveAfter, haccepted, lastTrafficAfter, hsocket]
        exact (if_pos htraffic).symm
      · have hwindow := hreceives.window
        rw [haccepted] at hwindow
        obtain rfl := Except.ok.inj (hmark.symm.trans hwindow)
        rw [hhighest]
        exact ⟨s, hs, hrest⟩
  | other _ _ plain packet data _ hother hdata hsession htype hkeepalive hrest =>
      rw [hwhole hdata, TunnelEngine.opened_of_other hid hother hdata hsession htype hkeepalive]
        at haccepted
      obtain ⟨hlast, hwindow⟩ := hnone haccepted
      refine ⟨?_, fun client' hreceives => ?_⟩
      · rw [hlast, lastTrafficAfter, hsocket]
        exact (if_neg hother).symm
      · rw [hwindow client' hreceives]
        exact ⟨s, hs, hrest⟩

/-- **What the server's TUN half puts into the client's socket.** -/
theorem Queued.tunHalf {server : MultiClientServer} {t : ServerTrace τ}
    (hinv : server.Invariant P registry t) (ha : (freshAcceptances t)[ref]? = some a)
    (hinstalled : MultiClientServer.Installed server.engine ref a) {s : ClientSession}
    (hs : server.engine.session? ref = some s) {highest : ℤ} {l : List (Packet × Bytes)}
    (hqueued : Queued P a registry.packetsPerKey highest s.sendSequence l) {input : ServerInput}
    {n : ℕ} {engine : MultiClientServerEngine} {t₁ : ServerTrace τ}
    (h : MultiClientServer.TunHalf P (freshAcceptances t) input server (.ok n) engine t₁) :
    ∃ s', engine.session? ref = some s' ∧
      Queued P a registry.packetsPerKey highest s'.sendSequence (l ++ sentTo a.source t₁) := by
  obtain ⟨hsource, -, hid⟩ := hinv.sound.comesFrom ref s a hs ha
  rcases h.sends with ⟨hnone, hcounted⟩ | ⟨destination, ref', s', payload, data, hroute, hs', -,
    hdata, hsent, hcounted⟩
  · obtain ⟨s', hs', hcount⟩ := hcounted ref ref s hs
    rw [if_pos rfl, Nat.add_zero] at hcount
    refine ⟨s', hs', ?_⟩
    rw [sentTo, hnone, List.filterMap_nil, List.append_nil, hcount]
    exact hqueued
  obtain ⟨s'', hs'', hcount⟩ := hcounted ref s hs
  refine ⟨s'', hs'', ?_⟩
  rw [hinv.packetsPerKey] at hdata
  -- the session of the client has its address and its session id
  have hsame : s'.remoteAddress = a.source → s'.sessionId = a.hello.sessionId → ref' = ref := by
    intro hsource' hid'
    obtain ⟨s₀, hs₀, -, hkey⟩ := hinv.sound.wellFormed.of_route destination ref' hroute
    obtain rfl := Option.some.inj (hs₀.symm.trans hs')
    rw [ClientSession.key, hsource', hid', hinstalled.1] at hkey
    exact (Option.some.inj hkey).symm
  by_cases href : ref = ref'
  · -- a packet for the client
    subst href
    obtain rfl := Option.some.inj (hs.symm.trans hs')
    rw [if_pos rfl] at hcount
    have hlist : sentTo a.source t₁ = [(MultiClientServerEngine.nextPacket s payload, data)] := by
      rw [sentTo, hsent]
      simp [hsource]
    rw [secretOf, ha, hid] at hdata
    rw [hlist, hcount]
    exact hqueued.concat_traffic ⟨rfl, hid⟩ rfl hdata
  · -- a packet for another client, maybe with the same address
    rw [if_neg href] at hcount
    rw [hcount]
    by_cases hsource' : s'.remoteAddress = a.source
    · have hlist : sentTo a.source t₁
          = [(MultiClientServerEngine.nextPacket s' payload, data)] := by
        rw [sentTo, hsent]
        simp [hsource']
      rw [hlist]
      refine hqueued.concat_other ?_ hdata rfl rfl fun h => by cases h
      exact fun htraffic => href (hsame hsource' htraffic.2).symm
    · have hlist : sentTo a.source t₁ = [] := by
        rw [sentTo, hsent]
        simp [hsource']
      rw [hlist, List.append_nil]
      exact hqueued

section step

variable [Zero τ] [Add τ] [Sub τ] [LT τ] [LE τ] [DecidableEq τ] [DecidableLT τ]
  [DecidableLE τ]

/-- **An iteration of the client**: what its result says about the clock, and the invariant. -/
theorem Invariant.client (h : Invariant P registry a ref link) (hA : P.LawfulAead)
    (hH : P.LawfulHkdf) (input : ClientInput τ) (timeout : Option τ) :
    ((link.clientOutcome P input timeout).result = .error livenessTimeoutError →
        ¬ link.InTime a input) ∧
      ∀ link', link.step P a ref (.client input timeout) = some link' →
        (link.client.keepaliveInterval ≠ 0 → link.InTime a input) ∧
          Invariant P registry a ref link' := by
  obtain ⟨hlast, hwindow⟩ := h.receives hA input
  have hreceive : ∀ e, (link.clientInput input).udpReceive ≠ some (.error e) := by
    intro e
    rw [clientInput]
    cases link.toClient with
    | nil => nofun
    | cons d l => nofun
  have hread : (link.clientInput input).tunRead ≠ some (.error livenessTimeoutError) :=
    input.tunRead_ne
  obtain ⟨hlate, hok⟩ := TunnelEngine.runOnce_liveness hA hH h.uses hread input.tunWrite_ne
    hreceive rfl rfl timeout
  rw [hlast] at hlate hok
  refine ⟨fun hresult hintime => hintime (hlate hresult), fun link' hstep => ?_⟩
  simp only [step] at hstep
  split at hstep
  · cases hstep
  · rename_i n hresult
    obtain rfl := Option.some.inj hstep
    obtain ⟨hintime, hreceives, huses⟩ := hok n hresult
    exact ⟨hintime, h.server, h.installed, hwindow _ hreceives, huses,
      hreceives.receive.trans hlast⟩

/-- **An iteration of the server** keeps the invariant. -/
theorem Invariant.serverStep (h : Invariant P registry a ref link) (hA : P.LawfulAead)
    (hH : P.LawfulHkdf) (hM : P.LawfulHmac) (hX : P.LawfulX25519) {input : ServerInput}
    {fromClient : Bool} {link' : Link τ}
    (hstep : link.step P a ref (.server input fromClient) = some link') :
    Invariant P registry a ref link' := by
  obtain ⟨t, hinv, ha⟩ := h.server
  obtain ⟨s, hs, hqueued⟩ := h.queued
  have hends := MultiClientServer.runOnce_spec hA hH hM hX hinv.sound
    (link.serverInput a.source input fromClient) (none : Option τ)
  simp only [step] at hstep
  split at hstep
  · cases hstep
  rename_i n hresult
  split at hstep
  swap
  · cases hstep
  rename_i hinstalled
  obtain rfl := Option.some.inj hstep
  rw [wp, show (MultiClientServer.runOnce P (link.serverInput a.source input fromClient) none
    link.server : Outcome PyError (ServerEffect τ Acceptance) _ ℕ)
      = link.serverOutcome P a input fromClient from rfl, hresult] at hends
  refine ⟨⟨_, hinv.step hM hX hends, ?_⟩, hinstalled, ?_, h.uses, h.receive⟩
  · rw [freshAcceptances_append, List.getElem?_append_left (List.getElem?_eq_some_iff.1 ha).1, ha]
  generalize hserver : (link.serverOutcome P a input fromClient).state = server' at hends
  generalize htrace : (link.serverOutcome P a input fromClient).trace = t' at hends
  generalize hr : Except.ok n = r at hends
  cases hends with
  | raised e _ _ _ => cases hr
  | ran n₁ engine t₁ r _ t₂ htun hudp =>
  obtain ⟨s₁, hs₁, hqueued₁⟩ := Queued.tunHalf hinv ha h.installed hs hqueued htun
  have hmid : MultiClientServer.Invariant P registry ⟨link.server.registry, engine⟩ (t ++ []) :=
    hinv.of_sameSessions (htun.sound hinv.sound).1 (htun.sound hinv.sound).2.ciphers rfl
  cases r with
  | error e => cases hr
  | ok m =>
  obtain ⟨hanswers, hcounted⟩ := hudp.sends hmid
  obtain ⟨s₂, hs₂, hcount⟩ := hcounted ref ref s₁ hs₁
  rw [if_pos rfl, Nat.add_zero] at hcount
  refine ⟨s₂, hs₂, ?_⟩
  have hsplit : sentTo a.source (.effect (.select none) :: (t₁ ++ t₂))
      = sentTo a.source t₁ ++ sentTo a.source t₂ := by
    simp [sentTo]
  rw [hcount, hsplit, ← List.append_assoc]
  refine hqueued₁.append_answers fun d hd => ?_
  obtain ⟨x, hx, hsome⟩ := List.mem_filterMap.1 hd
  split at hsome
  · obtain rfl := Option.some.inj hsome
    exact hanswers x hx
  · cases hsome

/-! ## Runs -/

/-- `R` holds of every iteration of the client in a run. -/
def EachClientStep (P : Primitives) (a : Acceptance) (ref : ℕ)
    (R : Link τ → ClientInput τ → Option τ → Prop) : Link τ → List (LinkEvent τ) → Prop
  | _, [] => True
  | link, e :: events =>
      (match e with
        | .client input timeout => R link input timeout
        | .server _ _ => True) ∧
      match link.step P a ref e with
      | some link' => EachClientStep P a ref R link' events
      | none => True

/-- A run can be checked step by step. -/
instance decidableEachClientStep (P : Primitives) (a : Acceptance) (ref : ℕ)
    (R : Link τ → ClientInput τ → Option τ → Prop)
    [∀ link input timeout, Decidable (R link input timeout)] :
    (link : Link τ) → (events : List (LinkEvent τ)) →
      Decidable (EachClientStep P a ref R link events)
  | _, [] => .isTrue trivial
  | link, e :: events =>
      @instDecidableAnd _ _
        (match e with
          | .client input timeout => inferInstanceAs (Decidable (R link input timeout))
          | .server _ _ => .isTrue trivial)
        (match link.step P a ref e with
          | some link' => decidableEachClientStep P a ref R link' events
          | none => .isTrue trivial)

/-- What holds of every iteration holds of the iterations of a run. -/
theorem eachClientStep_of_forall {R : Link τ → ClientInput τ → Option τ → Prop}
    (h : ∀ link input timeout, R link input timeout) (link : Link τ)
    (events : List (LinkEvent τ)) : EachClientStep P a ref R link events := by
  induction events generalizing link with
  | nil => trivial
  | cons e events ih =>
      constructor
      · cases e with
        | client input timeout => exact h link input timeout
        | server input fromClient => trivial
      · cases link.step P a ref e with
        | none => trivial
        | some link' => exact ih link'

/-- **The invariant holds in every step of a run.** -/
theorem Invariant.each (hA : P.LawfulAead) (hH : P.LawfulHkdf) (hM : P.LawfulHmac)
    (hX : P.LawfulX25519) {R R' : Link τ → ClientInput τ → Option τ → Prop}
    (hR : ∀ link, Invariant P registry a ref link → ∀ input timeout, R link input timeout →
      R' link input timeout) {events : List (LinkEvent τ)}
    (h : Invariant P registry a ref link) (heach : EachClientStep P a ref R link events) :
    EachClientStep P a ref R' link events := by
  induction events generalizing link with
  | nil => trivial
  | cons e events ih =>
      obtain ⟨hnow, hlater⟩ := heach
      constructor
      · cases e with
        | client input timeout => exact hR link h input timeout hnow
        | server input fromClient => trivial
      · cases hstep : link.step P a ref e with
        | none => trivial
        | some link' =>
            rw [hstep] at hlater
            refine ih ?_ hlater
            cases e with
            | client input timeout => exact ((h.client hA hH input timeout).2 link' hstep).2
            | server input fromClient => exact h.serverStep hA hH hM hX hstep

end step

/-! ## The result -/

/-- The server has accepted the hello as new and installed its session, and has sent nothing
on it. -/
structure NewSession (τ : Type) (P : Primitives) (registry : ClientRegistry)
    (server : MultiClientServer) (a : Acceptance) (ref : ℕ) : Prop where
  reaches : ∃ inputs, ∃ t : ServerTrace τ,
    MultiClientServer.Reaches P (.new registry) inputs server t ∧
      (freshAcceptances t)[ref]? = some a
  installed : MultiClientServer.Installed server.engine ref a
  unused : ∃ s, server.engine.session? ref = some s ∧ s.sendSequence = 0

section result

variable [Zero τ] [Add τ] [Sub τ] [LT τ] [LE τ] [DecidableEq τ] [DecidableLT τ]
  [DecidableLE τ]

omit [Sub τ] in
/-- The client starts in a session that was just installed. -/
theorem Invariant.of_new (hA : P.LawfulAead) (hH : P.LawfulHkdf) (hM : P.LawfulHmac)
    (hX : P.LawfulX25519) (hregistry : registry.acceptedHellos = .empty)
    {server : MultiClientServer} (hsession : NewSession τ P registry server a ref)
    {serverAddress : Address} {keepaliveInterval livenessTimeout now : τ}
    (hlink : Link.new P server a serverAddress keepaliveInterval livenessTimeout now = .ok link) :
    Invariant P registry a ref link := by
  obtain ⟨inputs, t, hreaches, ha⟩ := hsession.reaches
  obtain ⟨s, hs, hunused⟩ := hsession.unused
  have hinv := hreaches.invariant hA hH hM hX hregistry
  obtain ⟨client, hclient, hlink⟩ := except_bind_eq_ok.1 hlink
  obtain ⟨cipher, hcipher, hengine⟩ := except_bind_eq_ok.1 hclient
  obtain rfl := Except.ok.inj hlink
  obtain ⟨hsecret, hlt⟩ := createCipher_ok hcipher
  obtain ⟨-, -, cipher', hcipher', hder⟩ := createCipher_spec (σ := Unit) hH hsecret hlt .client
    server.registry.packetsPerKey ()
  obtain rfl := Except.ok.inj (hcipher.symm.trans hcipher')
  obtain rfl := TunnelEngine.new_ok hengine
  refine ⟨⟨t, hinv, ha⟩, hsession.installed, ⟨s, hs, .nil _ _ ?_⟩, ?_, rfl⟩
  · rw [hunused]
    show (-1 : ℤ) < ((0 : ℕ) : ℤ)
    decide
  · rw [← hinv.packetsPerKey]
    exact ⟨_, ⟨cipher, rfl, hder⟩, rfl, hlt⟩

/-- **A client that is in time stays alive**: if in every iteration of a run the client makes
its liveness check less than `livenessTimeout` after it started or last received traffic, it
never raises the liveness timeout, whatever else happens. -/
theorem client_stays_alive (hA : P.LawfulAead) (hH : P.LawfulHkdf) (hM : P.LawfulHmac)
    (hX : P.LawfulX25519) (hregistry : registry.acceptedHellos = .empty)
    {server : MultiClientServer} (hsession : NewSession τ P registry server a ref)
    {serverAddress : Address} {keepaliveInterval livenessTimeout now : τ}
    (hlink : Link.new P server a serverAddress keepaliveInterval livenessTimeout now = .ok link)
    (events : List (LinkEvent τ))
    (hintime : EachClientStep P a ref (fun link input _ => link.InTime a input) link events) :
    EachClientStep P a ref (fun link input timeout =>
      (link.clientOutcome P input timeout).result ≠ .error livenessTimeoutError) link events := by
  refine (Invariant.of_new hA hH hM hX hregistry hsession hlink).each hA hH hM hX ?_ hintime
  intro link' hinv input timeout hnow hraised
  exact (hinv.client hA hH input timeout).1 hraised hnow

/-- **A client that is late ends**: an iteration of a client with keepalives that returns was
in time. -/
theorem returning_client_inTime (hA : P.LawfulAead) (hH : P.LawfulHkdf) (hM : P.LawfulHmac)
    (hX : P.LawfulX25519) (hregistry : registry.acceptedHellos = .empty)
    {server : MultiClientServer} (hsession : NewSession τ P registry server a ref)
    {serverAddress : Address} {keepaliveInterval livenessTimeout now : τ}
    (hlink : Link.new P server a serverAddress keepaliveInterval livenessTimeout now = .ok link)
    (events : List (LinkEvent τ)) :
    EachClientStep P a ref (fun link input timeout => link.client.keepaliveInterval ≠ 0 →
      ∀ n, (link.clientOutcome P input timeout).result = .ok n → link.InTime a input)
        link events := by
  refine (Invariant.of_new hA hH hM hX hregistry hsession hlink).each
    (R := fun _ _ _ => True) hA hH hM hX ?_ ?_
  · intro link' hinv input timeout _ hkeepalive n hresult
    obtain ⟨link'', hstep⟩ : ∃ link'', link'.step P a ref (.client input timeout)
        = some link'' := by
      simp only [step]
      rw [hresult]
      exact ⟨_, rfl⟩
    exact ((hinv.client hA hH input timeout).2 link'' hstep).1 hkeepalive
  · exact eachClientStep_of_forall (fun _ _ _ => trivial) _ _

end result

end Link

/-! ## Sample runs -/

/-- The acceptance of the sample client's hello. -/
def sampleAcceptance : Acceptance :=
  ⟨sampleHello, sampleSource 0, sampleResponse,
    ⟨"laptop", .ofOctets 10 8 0 2, sample.x25519Public sampleKeys.clientPrivate⟩,
    (acceptClientHello sample sampleHello sampleKeys.serverPrivate
      (sample.x25519Public sampleKeys.clientPrivate) sampleServerEntropy).toOption.map Prod.snd⟩

/-- The sample server after it accepted the hello. -/
def sampleServer : MultiClientServer :=
  (MultiClientServer.run sample [sampleArrival (sampleHelloData 0) (sampleSource 0)]
    (.new sampleRegistry) : Outcome PyError (ServerEffect ℕ Acceptance) _ Unit).state

/-- The sample client has a keepalive interval of 1 and a liveness timeout of 3. -/
def sampleLink : Link ℕ :=
  (Link.new sample sampleServer sampleAcceptance (sampleAddress .server) 1 3 0).toOption.get
    (by decide +kernel)

theorem sampleLink_new : Link.new sample sampleServer sampleAcceptance (sampleAddress .server) 1 3 0
    = .ok sampleLink := by
  unfold sampleLink
  exact eq_ok_get _

theorem sampleServer_newSession :
    Link.NewSession ℕ sample sampleRegistry sampleServer sampleAcceptance 0 where
  reaches := ⟨_, _, MultiClientServer.reaches_of_returns (by decide +kernel), by decide +kernel⟩
  installed := by decide +kernel
  unused := by
    refine ⟨(sampleServer.engine.session? 0).get (by decide +kernel), by simp, by decide +kernel⟩

/-- An iteration of the sample client at this time, in which its TUN device is silent. -/
def sampleSilent (now : ℕ) : ClientInput ℕ :=
  { idleInput with
    selectClock := now, receiveClock := now, loopClock := now, tunRead_ne := nofun
    tunWrite_ne := fun _ => nofun }

/-- An iteration of the sample server that receives what the client sent. -/
def sampleServerIdle : LinkEvent ℕ :=
  .server { sampleArrival [] (sampleSource 0) with udpReceive := none } true

/-- **A silent client raises the liveness timeout**: both TUN devices are silent, the server
receives both keepalives of the client, and its session stays installed. -/
theorem Link.silent_client_times_out :
    Link.new sample sampleServer sampleAcceptance (sampleAddress .server) 1 3 0 = .ok sampleLink ∧
    ∃ link, sampleLink.run sample sampleAcceptance 0
        [.client (sampleSilent 1) none, sampleServerIdle, .client (sampleSilent 2) none,
          sampleServerIdle] = some link ∧
      link.toServer = [] ∧ link.toClient = [] ∧
      MultiClientServer.Installed link.server.engine 0 sampleAcceptance ∧
      (link.clientOutcome sample (sampleSilent 3) none).result = .error livenessTimeoutError := by
  refine ⟨sampleLink_new, (sampleLink.run sample sampleAcceptance 0
        [.client (sampleSilent 1) none, sampleServerIdle, .client (sampleSilent 2) none,
          sampleServerIdle]).get (by decide +kernel), by simp, by decide +kernel⟩

/-- A packet from the TUN device of the server to the first sample client, without payload. -/
def sampleTraffic : Bytes :=
  [69, 0, 0, 20, 0, 0, 0, 0, 64, 17, 0, 0, 10, 8, 0, 3, 10, 8, 0, 2]

/-- The server forwards a packet to the client, which is in time until 4. -/
def sampleEvents : List (LinkEvent ℕ) :=
  [.client (sampleSilent 1) none,
    .server { sampleArrival [] (sampleSource 0) with
      tunRead := some (.ok sampleTraffic), udpReceive := none } true,
    .client (sampleSilent 2) none, .client (sampleSilent 4) none]

theorem Link.client_stays_alive_sample :
    Link.EachClientStep sample sampleAcceptance 0 (fun link input timeout =>
      (link.clientOutcome sample input timeout).result ≠ .error livenessTimeoutError) sampleLink
      sampleEvents :=
  Link.client_stays_alive sample_lawfulAead sample_lawfulHkdf sample_lawfulHmac
    sample_lawfulX25519 rfl sampleServer_newSession sampleLink_new sampleEvents (by decide +kernel)

end MatfVpn
