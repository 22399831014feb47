/-
# What the multi-client data plane does with packets

A packet changes at most one session object, and is sealed or opened with the secret of
that object.

* `handleTunPacket_spec`, `handleUdpPacket_spec` : the relations `TunEnds` and `UdpEnds`
  list everything the two calls can do;
* `TunEnds.sameSessions`, `UdpEnds.sameSessions` : the same sessions stay installed.
-/
import MatfVpn.EngineSpec
import MatfVpn.MultiClientSessions

namespace MatfVpn

open Program

namespace MultiClientServerEngine

variable {τ ν : Type}

/-! ## Packets -/

/-- The cipher of every session object is derived from the secret of its reference. -/
def Ciphers (P : Primitives) (packetsPerKey : ℕ) (secrets : ℕ → Bytes)
    (engine : MultiClientServerEngine) : Prop :=
  ∀ ref s, engine.session? ref = some s → s.sessionId < 2 ^ 32 ∧
    ∃ log, s.cipher.DerivedFrom P log (secrets ref) s.sessionId .server packetsPerKey

section packets

variable {P : Primitives} {packetsPerKey : ℕ} {secrets : ℕ → Bytes}

/-- `_ipv4_source` and `_ipv4_destination` raise nothing but `ValueError`. -/
theorem ipv4_error {packet : Bytes} {e : PyError}
    (h : ipv4Source packet = .error e ∨ ipv4Destination packet = .error e) :
    e.isValueError = true := by
  have hvalid : ∀ e', validateIpv4Packet packet = .error e' → e'.isValueError = true := by
    intro e' he'
    simp only [validateIpv4Packet] at he'
    split at he'
    · rw [← Except.error.inj he']
      rfl
    split at he'
    · rw [← Except.error.inj he']
      rfl
    · cases he'
  have hpacked : ∀ b e', IPv4Address.ofPacked b = .error e' → e'.isValueError = true := by
    intro b e' he'
    unfold IPv4Address.ofPacked at he'
    split at he'
    · cases he'
    · rw [← Except.error.inj he']
      rfl
  unfold ipv4Source ipv4Destination at h
  cases hv : validateIpv4Packet packet with
  | error e' =>
      rw [hv] at h
      have he : e' = e := h.elim Except.error.inj Except.error.inj
      rw [← he]
      exact hvalid e' hv
  | ok u =>
      rw [hv] at h
      exact h.elim (hpacked _ e) (hpacked _ e)

/-- An address was read from a well-formed packet. -/
theorem validateIpv4Packet_of_ipv4Source {packet : Bytes} {address : IPv4Address}
    (h : ipv4Source packet = .ok address) : validateIpv4Packet packet = .ok () := by
  unfold ipv4Source at h
  obtain ⟨⟨⟩, hvalid, -⟩ := except_bind_eq_ok.1 h
  exact hvalid

/-- The packet that `handle_tun_packet` builds for a session. -/
def nextPacket (s : ClientSession) (payload : Bytes) : Packet :=
  ⟨.data, s.sessionId, s.sendSequence, payload⟩

/-- How `handle_tun_packet` ends: its result, the engine afterwards and its effects, where
`calls` are the calls of the cipher. -/
inductive TunEnds (P : Primitives) (packetsPerKey : ℕ) (secrets : ℕ → Bytes)
    (engine : MultiClientServerEngine) (payload : Bytes) (failure : Option PyError) :
    Except PyError Bool → MultiClientServerEngine → List (ServerEffect τ ν) → Prop
  /-- No session has the destination of the packet. -/
  | ignored : (∀ destination, ipv4Destination payload = .ok destination →
        engine.routes.get? destination = none) →
      TunEnds P packetsPerKey secrets engine payload failure (.ok false) engine []
  /-- The counter of the session is past 64 bits. -/
  | exhausted (destination : IPv4Address) (ref : ℕ) (s : ClientSession) :
      ipv4Destination payload = .ok destination → engine.routes.get? destination = some ref →
      engine.session? ref = some s → s.sendSequence > maxSequenceNumber →
      TunEnds P packetsPerKey secrets engine payload failure
        (.error (.overflowError "VPN packet sequence number exhausted")) engine []
  /-- The cipher refuses the payload. -/
  | tooLarge (destination : IPv4Address) (ref : ℕ) (s : ClientSession) (cipher : Cipher)
      (calls : List CryptoCall) :
      ipv4Destination payload = .ok destination → engine.routes.get? destination = some ref →
      engine.session? ref = some s → payload.length > maxPayloadSize - aesGcmTagSize →
      (∃ log, cipher.DerivedFrom P log (secrets ref) s.sessionId .server packetsPerKey) →
      TunEnds P packetsPerKey secrets engine payload failure
        (.error (.valueError "plaintext is too large for an encrypted UDP packet"))
        (engine.modifySession ref fun s => { s with cipher := cipher })
        (calls.map fun call => .effect (.crypto call))
  /-- The packet was encrypted and the operating system refused it. -/
  | failed (e : PyError) (destination : IPv4Address) (ref : ℕ) (s : ClientSession)
      (cipher : Cipher) (calls : List CryptoCall) :
      failure = some e → ipv4Destination payload = .ok destination →
      engine.routes.get? destination = some ref → engine.session? ref = some s →
      (∃ log, cipher.DerivedFrom P log (secrets ref) s.sessionId .server packetsPerKey) →
      TunEnds P packetsPerKey secrets engine payload failure (.error e)
        (engine.modifySession ref fun s => { s with cipher := cipher })
        (calls.map fun call => .effect (.crypto call))
  /-- The packet was encrypted and sent to the address of the session. -/
  | sent (destination : IPv4Address) (ref : ℕ) (s : ClientSession) (cipher : Cipher)
      (calls : List CryptoCall) (data : Bytes) :
      failure = none → ipv4Destination payload = .ok destination →
      engine.routes.get? destination = some ref → engine.session? ref = some s →
      s.sendSequence ≤ maxSequenceNumber →
      (∃ log, cipher.DerivedFrom P log (secrets ref) s.sessionId .server packetsPerKey) →
      (sealPacket P (secrets ref) s.sessionId .server packetsPerKey
        (nextPacket s payload)).encode = .ok data →
      TunEnds P packetsPerKey secrets engine payload failure (.ok true)
        ((engine.modifySession ref fun s => { s with cipher := cipher }).modifySession ref
          fun s => { s with sendSequence := s.sendSequence + 1 })
        (calls.map (fun call => .effect (.crypto call)) ++
          [.effect (.send (nextPacket s payload) data s.remoteAddress)])

/-- **`handle_tun_packet`.** -/
theorem handleTunPacket_spec (hA : P.LawfulAead) (hH : P.LawfulHkdf)
    {engine : MultiClientServerEngine} (hwf : engine.WellFormed)
    (hciphers : engine.Ciphers P packetsPerKey secrets) (payload : Bytes)
    (failure : Option PyError) :
    wp (handleTunPacket P payload failure : Program PyError (ServerEffect τ ν) _ Bool) engine
      (TunEnds P packetsPerKey secrets engine payload failure) := by
  unfold handleTunPacket
  cases hdestination : ipv4Destination payload with
  | error e =>
      simp only
      rw [if_pos (ipv4_error (Or.inr hdestination))]
      refine .ignored fun destination h => ?_
      rw [hdestination] at h
      cases h
  | ok destination =>
  simp only
  rw [wp_read_bind]
  cases hroute : engine.routes.get? destination with
  | none =>
      refine .ignored fun destination' h => ?_
      rw [hdestination] at h
      rw [← Except.ok.inj h, hroute]
  | some ref =>
  obtain ⟨s, hs, -, -⟩ := hwf.of_route destination ref hroute
  obtain ⟨hsid, log, hder⟩ := hciphers ref s hs
  simp only
  rw [deref_of_session? hs]
  by_cases hmax : s.sendSequence > maxSequenceNumber
  · rw [if_pos hmax]
    exact .exhausted destination ref s hdestination hroute hs hmax
  rw [if_neg hmax, wp_bind, onCipher, wp_zoom]
  have hp : (nextPacket s payload).HeaderInRange := by
    refine ⟨hsid, ?_⟩
    simp only [nextPacket, maxSequenceNumber] at hmax ⊢
    omega
  refine wp_mono (encrypt_spec hH hder hp) ?_
  rintro r c calls ⟨hder', hr⟩
  split at hr
  · rename_i hbig
    obtain ⟨rfl, -⟩ := hr
    exact .tooLarge destination ref s c calls hdestination hroute hs hbig ⟨_, hder'⟩
  rename_i hsmall
  obtain ⟨rfl, -, -⟩ := hr
  obtain ⟨data, hdata⟩ := encode_sealPacket hA (secrets ref) s.sessionId .server
    packetsPerKey hp (Nat.le_of_not_lt hsmall)
  simp only
  rw [wp_bind, wp_lift, wp]
  cases failure with
  | some e =>
      rw [show (⟨.data, s.sessionId, s.sendSequence, payload⟩ : Packet) = nextPacket s payload
        from rfl, transportSend_failed hdata]
      simp only [List.map_nil, List.append_nil]
      exact .failed e destination ref s c calls rfl hdestination hroute hs ⟨_, hder'⟩
  | none =>
      rw [show (⟨.data, s.sessionId, s.sendSequence, payload⟩ : Packet) = nextPacket s payload
        from rfl, transportSend_of_encode hdata]
      exact .sent destination ref s c calls data rfl hdestination hroute hs
        (Nat.le_of_not_lt hmax) ⟨_, hder'⟩ hdata

/-- The packet that a session accepts, decrypted. -/
def openedBy (P : Primitives) (secret : Bytes) (packetsPerKey : ℕ) (s : ClientSession)
    (packet : Packet) : Option Packet :=
  if packet.messageType = .data ∧ s.replayWindow.isReplay packet.sequenceNumber = false then
    (openPayload P secret s.sessionId .client packetsPerKey packet).bind fun plaintext =>
      if ipv4Source plaintext = .ok s.tunnelAddress then some { packet with payload := plaintext }
      else none
  else none

/-- The result of the end of `handle_udp_packet` for an accepted packet. -/
def deliverResult (packet : Packet) (answer : Bytes → Except PyError ℕ) : Except PyError Bool :=
  match answer packet.payload with
  | .error e => .error e
  | .ok written =>
      if written ≠ packet.payload.length then .error (.osError "incomplete TUN packet write")
      else .ok true

/-- How `handle_udp_packet` ends: its result, the engine afterwards and its effects, where
`calls` are the calls of the cipher. -/
inductive UdpEnds (P : Primitives) (packetsPerKey : ℕ) (secrets : ℕ → Bytes)
    (engine : MultiClientServerEngine) (packet : Packet) (remoteAddress : Address)
    (answer : Bytes → Except PyError ℕ) :
    Except PyError Bool → MultiClientServerEngine → List (ServerEffect τ ν) → Prop
  /-- There is no session for the packet. -/
  | ignored : engine.sessions.get? (remoteAddress, packet.sessionId) = none →
      UdpEnds P packetsPerKey secrets engine packet remoteAddress answer (.ok false) engine []
  /-- The session does not accept the packet. -/
  | dropped (ref : ℕ) (s : ClientSession) (cipher : Cipher) (calls : List CryptoCall) :
      engine.sessions.get? (remoteAddress, packet.sessionId) = some ref →
      engine.session? ref = some s → openedBy P (secrets ref) packetsPerKey s packet = none →
      (∃ log, cipher.DerivedFrom P log (secrets ref) s.sessionId .server packetsPerKey) →
      UdpEnds P packetsPerKey secrets engine packet remoteAddress answer (.ok false)
        (engine.modifySession ref fun s => { s with cipher := cipher })
        (calls.map fun call => .effect (.crypto call))
  /-- The session accepts the packet. -/
  | accepted (ref : ℕ) (s : ClientSession) (cipher : Cipher) (calls : List CryptoCall)
      (decrypted : Packet) (window : ReplayWindow) :
      engine.sessions.get? (remoteAddress, packet.sessionId) = some ref →
      engine.session? ref = some s →
      openedBy P (secrets ref) packetsPerKey s packet = some decrypted →
      (∃ log, cipher.DerivedFrom P log (secrets ref) s.sessionId .server packetsPerKey) →
      s.replayWindow.markAuthenticated packet.sequenceNumber = .ok window →
      UdpEnds P packetsPerKey secrets engine packet remoteAddress answer
        (deliverResult decrypted answer)
        ((engine.modifySession ref fun s => { s with cipher := cipher }).modifySession ref
          fun s => { s with replayWindow := window })
        (calls.map (fun call => .effect (.crypto call)) ++
          [.deliver ref decrypted, .effect (.write decrypted.payload)])

/-- The object of a reference is not changed by putting its cipher back. -/
theorem modifySession_self {engine : MultiClientServerEngine} {ref : ℕ} {s : ClientSession}
    (h : engine.session? ref = some s) :
    engine.modifySession ref (fun s' => { s' with cipher := s.cipher }) = engine := by
  have hobjects : engine.objects.modify ref (fun s' => { s' with cipher := s.cipher })
      = engine.objects := by
    refine List.ext_getElem? fun i => ?_
    rw [List.getElem?_modify]
    split
    · rename_i hi
      rw [← hi, show engine.objects[ref]? = some s from h]
      rfl
    · simp
  rw [modifySession, hobjects]

/-- The end of `handle_udp_packet`. -/
theorem deliver_spec {s : ClientSession} {n : ℕ} (hfresh : s.replayWindow.isReplay n = false)
    (ref : ℕ) (decrypted : Packet) (answer : Bytes → Except PyError ℕ)
    (engine : MultiClientServerEngine) :
    wp (deliver ref s n decrypted answer : Program PyError (ServerEffect τ ν) _ Bool) engine
      (fun r engine' t =>
        (ipv4Source decrypted.payload ≠ .ok s.tunnelAddress ∧ r = .ok false ∧
          engine' = engine ∧ t = []) ∨
        (ipv4Source decrypted.payload = .ok s.tunnelAddress ∧
          ∃ window, s.replayWindow.markAuthenticated n = .ok window ∧
          r = deliverResult decrypted answer ∧
          engine' = engine.modifySession ref (fun s => { s with replayWindow := window }) ∧
          t = [.deliver ref decrypted, .effect (.write decrypted.payload)])) := by
  unfold deliver
  cases hsource : ipv4Source decrypted.payload with
  | error e =>
      simp only
      rw [if_pos (ipv4_error (Or.inl hsource))]
      exact Or.inl ⟨nofun, rfl, rfl, rfl⟩
  | ok source =>
      simp only
      by_cases haddress : source = s.tunnelAddress
      swap
      · rw [if_pos haddress]
        exact Or.inl ⟨fun h => haddress (Except.ok.inj h), rfl, rfl, rfl⟩
      obtain ⟨window, hwindow⟩ := TunnelEngine.markAuthenticated_of_not_isReplay hfresh
      rw [if_neg (not_not.2 haddress), hwindow, haddress, ofExcept_ok, wp_pure_bind,
        wp_update_bind, wp_emit_bind, wp_bind, wp_lift, tunWrite, wp_emit_bind, wp_ofExcept]
      unfold deliverResult
      cases answer decrypted.payload with
      | error e => exact Or.inr ⟨rfl, window, rfl, rfl, rfl, rfl⟩
      | ok written =>
          by_cases hw : written ≠ decrypted.payload.length
          · simp only [if_pos hw]
            exact Or.inr ⟨trivial, window, rfl, rfl, rfl, rfl⟩
          · simp only [if_neg hw]
            exact Or.inr ⟨trivial, window, rfl, rfl, rfl, rfl⟩

/-- **`handle_udp_packet`.** -/
theorem handleUdpPacket_spec (hH : P.LawfulHkdf) {engine : MultiClientServerEngine}
    (hwf : engine.WellFormed) (hciphers : engine.Ciphers P packetsPerKey secrets)
    {packet : Packet} (hp : packet.HeaderInRange) (hsize : packet.payload.length < 2 ^ 16)
    (remoteAddress : Address) (answer : Bytes → Except PyError ℕ) :
    wp (handleUdpPacket P packet remoteAddress answer :
        Program PyError (ServerEffect τ ν) _ Bool) engine
      (UdpEnds P packetsPerKey secrets engine packet remoteAddress answer) := by
  unfold handleUdpPacket
  rw [wp_read_bind]
  cases hget : engine.sessions.get? (remoteAddress, packet.sessionId) with
  | none => exact .ignored hget
  | some ref =>
  obtain ⟨s, hs, hkey, -⟩ := hwf.of_session _ ref hget
  obtain ⟨hsid, log, hder⟩ := hciphers ref s hs
  -- a packet that is not decrypted changes nothing
  have hdrop : openedBy P (secrets ref) packetsPerKey s packet = none →
      UdpEnds P packetsPerKey secrets engine packet remoteAddress answer (.ok false) engine
        ([] : List (ServerEffect τ ν)) := by
    intro hnone
    have h : UdpEnds P packetsPerKey secrets engine packet remoteAddress answer (.ok false) _
        ([] : List (ServerEffect τ ν)) := .dropped ref s s.cipher [] hget hs hnone ⟨log, hder⟩
    rwa [modifySession_self hs] at h
  simp only
  by_cases htype : packet.messageType = .data
  swap
  · rw [if_pos htype]
    refine hdrop ?_
    rw [openedBy, if_neg fun h => htype h.1]
  rw [if_neg (not_not.2 htype), deref_of_session? hs]
  by_cases hreplay : s.replayWindow.isReplay packet.sequenceNumber = true
  · rw [if_pos hreplay]
    refine hdrop ?_
    rw [openedBy, if_neg fun h => by simp [hreplay] at h]
  have hfresh : s.replayWindow.isReplay packet.sequenceNumber = false := by simpa using hreplay
  rw [if_neg hreplay, wp_bind, wp_attempt, onCipher, wp_zoom]
  refine wp_mono (decrypt_spec hH hder hp hsize) ?_
  rintro r c calls ⟨hder', -, rfl⟩
  have hopened : openedBy P (secrets ref) packetsPerKey s packet
      = (openPayload P (secrets ref) s.sessionId .client packetsPerKey packet).bind fun plaintext =>
        if ipv4Source plaintext = .ok s.tunnelAddress then
          some { packet with payload := plaintext } else none := if_pos ⟨htype, hfresh⟩
  cases hopen : openPayload P (secrets ref) s.sessionId EndpointRole.server.peer packetsPerKey
      packet with
  | none =>
      change UdpEnds _ _ _ _ _ _ _ _ _ (calls.map _ ++ [])
      rw [List.append_nil]
      refine .dropped ref s c calls hget hs ?_ ⟨_, hder'⟩
      rw [hopened, show openPayload P (secrets ref) s.sessionId .client packetsPerKey packet
        = none from hopen]
      rfl
  | some plaintext =>
      rw [show openPayload P (secrets ref) s.sessionId .client packetsPerKey packet
        = some plaintext from hopen, Option.bind_some] at hopened
      refine wp_mono (deliver_spec hfresh ref { packet with payload := plaintext } answer _) ?_
      rintro r engine' t (⟨hsource, rfl, rfl, rfl⟩ | ⟨hsource, window, hwindow, rfl, rfl, rfl⟩)
      -- the inner packet does not come from the tunnel address of the client
      · rw [List.append_nil]
        rw [if_neg hsource] at hopened
        exact .dropped ref s c calls hget hs hopened ⟨_, hder'⟩
      · rw [if_pos hsource] at hopened
        exact .accepted ref s c calls _ window hget hs hopened ⟨_, hder'⟩ hwindow

/-! ## What packets leave alone -/

/-- A changed object with a derived cipher. -/
theorem Ciphers.modifySession {engine : MultiClientServerEngine}
    (h : engine.Ciphers P packetsPerKey secrets) {ref : ℕ} {s : ClientSession}
    (hs : engine.session? ref = some s) {f : ClientSession → ClientSession}
    (hid : (f s).sessionId = s.sessionId)
    (hf : ∃ log, (f s).cipher.DerivedFrom P log (secrets ref) s.sessionId .server packetsPerKey) :
    (engine.modifySession ref f).Ciphers P packetsPerKey secrets := by
  intro ref' s' hs'
  rw [session?_modifySession] at hs'
  split at hs'
  · rename_i href
    subst href
    rw [hs] at hs'
    obtain rfl := Option.some.inj hs'
    rw [hid]
    exact ⟨(h ref s hs).1, hf⟩
  · exact h ref' s' hs'

/-- The same sessions are installed, and no object changed its addresses or session id. -/
structure SameSessions (engine engine' : MultiClientServerEngine) : Prop where
  sessions : engine'.sessions = engine.sessions
  routes : engine'.routes = engine.routes
  length_objects : engine'.objects.length = engine.objects.length
  object : ∀ ref s', engine'.session? ref = some s' → ∃ s, engine.session? ref = some s ∧
    s'.key = s.key ∧ s'.tunnelAddress = s.tunnelAddress

theorem SameSessions.refl (engine : MultiClientServerEngine) : SameSessions engine engine :=
  ⟨rfl, rfl, rfl, fun _ s' h => ⟨s', h, rfl, rfl⟩⟩

theorem SameSessions.trans {e e' e'' : MultiClientServerEngine} (h : SameSessions e e')
    (h' : SameSessions e' e'') : SameSessions e e'' where
  sessions := h'.sessions.trans h.sessions
  routes := h'.routes.trans h.routes
  length_objects := h'.length_objects.trans h.length_objects
  object ref s'' hs'' := by
    obtain ⟨s', hs', hk', ha'⟩ := h'.object ref s'' hs''
    obtain ⟨s, hs, hk, ha⟩ := h.object ref s' hs'
    exact ⟨s, hs, hk'.trans hk, ha'.trans ha⟩

/-- A change of one object that leaves its addresses and session id alone. -/
theorem SameSessions.modifySession (engine : MultiClientServerEngine) (ref : ℕ)
    {f : ClientSession → ClientSession} (hkey : ∀ s, (f s).key = s.key)
    (haddress : ∀ s, (f s).tunnelAddress = s.tunnelAddress) :
    SameSessions engine (engine.modifySession ref f) where
  sessions := rfl
  routes := rfl
  length_objects := List.length_modify ..
  object ref' s' hs' := by
    rw [session?_modifySession] at hs'
    split at hs'
    · obtain ⟨s, hs, rfl⟩ := Option.map_eq_some_iff.1 hs'
      exact ⟨s, hs, hkey s, haddress s⟩
    · exact ⟨s', hs', rfl, rfl⟩

/-- An object is still there. -/
theorem SameSessions.session? {engine engine' : MultiClientServerEngine}
    (h : SameSessions engine engine') {ref : ℕ} {s : ClientSession}
    (hs : engine.session? ref = some s) :
    ∃ s', engine'.session? ref = some s' ∧ s'.key = s.key ∧
      s'.tunnelAddress = s.tunnelAddress := by
  have hlt : ref < engine'.objects.length := by
    rw [h.length_objects]
    exact (List.getElem?_eq_some_iff.1 hs).1
  have hs' : engine'.session? ref = some engine'.objects[ref] := List.getElem?_eq_getElem hlt
  obtain ⟨s₀, hs₀, hkey, haddress⟩ := h.object ref _ hs'
  rw [hs] at hs₀
  obtain rfl := Option.some.inj hs₀
  exact ⟨_, hs', hkey, haddress⟩

/-- The invariant depends on the installed sessions only. -/
theorem WellFormed.of_sameSessions {engine engine' : MultiClientServerEngine}
    (h : engine.WellFormed) (hsame : SameSessions engine engine') : engine'.WellFormed where
  of_session key ref hget := by
    rw [hsame.sessions] at hget
    obtain ⟨s, hs, hk, hr⟩ := h.of_session key ref hget
    obtain ⟨s', hs', hk', ha'⟩ := hsame.session? hs
    exact ⟨s', hs', hk'.trans hk, by rw [hsame.routes, ha', hr]⟩
  of_route address ref hget := by
    rw [hsame.routes] at hget
    obtain ⟨s, hs, ha, hk⟩ := h.of_route address ref hget
    obtain ⟨s', hs', hk', ha'⟩ := hsame.session? hs
    exact ⟨s', hs', ha'.trans ha, by rw [hsame.sessions, hk', hk]⟩

/-- A key is taken in the same sessions only. -/
theorem SameSessions.taken {engine engine' : MultiClientServerEngine}
    (h : SameSessions engine engine') (key : SessionKey) (address : IPv4Address) :
    engine'.Taken key address ↔ engine.Taken key address := by
  constructor
  · rintro ⟨ref, s', hget, hs', hne⟩
    obtain ⟨s, hs, -, ha⟩ := h.object ref s' hs'
    exact ⟨ref, s, by rw [← h.sessions, hget], hs, by rwa [← ha]⟩
  · rintro ⟨ref, s, hget, hs, hne⟩
    obtain ⟨s', hs', -, ha⟩ := h.session? hs
    exact ⟨ref, s', by rw [h.sessions, hget], hs', by rwa [ha]⟩

section ends

variable {engine engine' : MultiClientServerEngine} {r : Except PyError Bool}
  {t : List (ServerEffect τ ν)}

/-- A TUN packet changes the cipher and the counter of one object. -/
theorem TunEnds.sameSessions {payload : Bytes} {failure : Option PyError}
    (h : TunEnds P packetsPerKey secrets engine payload failure r engine' t) :
    SameSessions engine engine' := by
  cases h with
  | ignored _ => exact .refl engine
  | exhausted _ _ _ _ _ _ _ => exact .refl engine
  | tooLarge _ ref _ cipher _ _ _ _ _ _ =>
      exact .modifySession engine ref (fun _ => rfl) fun _ => rfl
  | failed _ _ ref _ cipher _ _ _ _ _ _ =>
      exact .modifySession engine ref (fun _ => rfl) fun _ => rfl
  | sent _ ref _ cipher _ _ _ _ _ _ _ _ _ =>
      refine .trans ?_ (.modifySession _ ref (fun _ => rfl) fun _ => rfl)
      exact .modifySession engine ref (fun _ => rfl) fun _ => rfl

theorem TunEnds.ciphers {payload : Bytes} {failure : Option PyError}
    (h : TunEnds P packetsPerKey secrets engine payload failure r engine' t)
    (hciphers : engine.Ciphers P packetsPerKey secrets) :
    engine'.Ciphers P packetsPerKey secrets := by
  cases h with
  | ignored _ => exact hciphers
  | exhausted _ _ _ _ _ _ _ => exact hciphers
  | tooLarge _ ref s cipher _ _ _ hs _ hder => exact hciphers.modifySession hs rfl hder
  | failed _ _ ref s cipher _ _ _ _ hs hder => exact hciphers.modifySession hs rfl hder
  | sent _ ref s cipher _ _ _ _ _ hs _ hder _ =>
      have hs' : (engine.modifySession ref fun s => { s with cipher := cipher }).session? ref
          = some { s with cipher := cipher } := by
        rw [session?_modifySession, if_pos rfl, hs]
        rfl
      exact (hciphers.modifySession hs rfl hder).modifySession hs' rfl hder

/-- A UDP packet changes the cipher and the replay window of one object. -/
theorem UdpEnds.sameSessions {packet : Packet} {source : Address}
    {answer : Bytes → Except PyError ℕ}
    (h : UdpEnds P packetsPerKey secrets engine packet source answer r engine' t) :
    SameSessions engine engine' := by
  cases h with
  | ignored _ => exact .refl engine
  | dropped ref _ cipher _ _ _ _ _ =>
      exact .modifySession engine ref (fun _ => rfl) fun _ => rfl
  | accepted ref _ cipher _ _ window _ _ _ _ _ =>
      refine .trans ?_ (.modifySession _ ref (fun _ => rfl) fun _ => rfl)
      exact .modifySession engine ref (fun _ => rfl) fun _ => rfl

theorem UdpEnds.ciphers {packet : Packet} {source : Address}
    {answer : Bytes → Except PyError ℕ}
    (h : UdpEnds P packetsPerKey secrets engine packet source answer r engine' t)
    (hciphers : engine.Ciphers P packetsPerKey secrets) :
    engine'.Ciphers P packetsPerKey secrets := by
  cases h with
  | ignored _ => exact hciphers
  | dropped ref s cipher _ _ hs _ hder => exact hciphers.modifySession hs rfl hder
  | accepted ref s cipher _ _ window _ hs _ hder _ =>
      have hs' : (engine.modifySession ref fun s => { s with cipher := cipher }).session? ref
          = some { s with cipher := cipher } := by
        rw [session?_modifySession, if_pos rfl, hs]
        rfl
      exact (hciphers.modifySession hs rfl hder).modifySession hs' rfl hder

end ends

end packets

end MultiClientServerEngine

end MatfVpn
