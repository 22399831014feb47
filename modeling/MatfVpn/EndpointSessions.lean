/-
# The sessions of an endpoint

A process with ephemeral handshakes as a list of sessions: the session secrets that its
handshakes derived, each with the packets that were encrypted under it.

* `serverAttempt_cases` : what an attempt of the server can do;
* `handshake_spec` : the handshake of one session;
* `main_draws` : every session secret of a process comes from random values drawn for it.
-/
import MatfVpn.HandshakeAttempts
import MatfVpn.PacketNumbers

namespace MatfVpn

open Program

/-! ## The handshake of a session -/

/-- The key and the random bytes that the endpoint in `role` drew for a derivation. -/
def ownBody : EndpointRole → Derivation → Bytes
  | .client, d => d.clientHello.take 64
  | .server, d => d.serverHello.take 64

/-- The keys and random bytes that an endpoint may draw during a session. -/
def drawn {τ : Type} (P : Primitives) (input : SessionInput τ) : EndpointRole → List Bytes
  | .client => [P.x25519Public input.entropy.ephemeralPrivate ++ input.entropy.clientRandom]
  | .server => (List.range defaultHandshakeAttempts).map fun i =>
      P.x25519Public (input.attempt i).entropy.ephemeralPrivate ++
        (input.attempt i).entropy.serverRandom

/-- How a handshake ends that draws from `bodies`: without a session secret, or with one and
maybe a cipher derived from it. -/
inductive HandshakeEnds {τ : Type} (P : Primitives) (role : EndpointRole) (packetsPerKey : ℕ)
    (bodies : List Bytes) : Except PyError (ℤ × Cipher) → List (SessionEffect τ) → Prop
  | failed (e : PyError) (t : List (SessionEffect τ)) :
      derivations t = [] → aesCalls (callsOf t) = [] →
      HandshakeEnds P role packetsPerKey bodies (.error e) t
  | refused (e : PyError) (t : List (SessionEffect τ)) (d : Derivation) :
      derivations t = [d] → aesCalls (callsOf t) = [] → ownBody role d ∈ bodies →
      d.sessionId < 2 ^ 32 → HandshakeEnds P role packetsPerKey bodies (.error e) t
  | established (t : List (SessionEffect τ)) (d : Derivation) (cipher : Cipher) :
      derivations t = [d] → aesCalls (callsOf t) = [] → ownBody role d ∈ bodies →
      d.sessionId < 2 ^ 32 →
      cipher.DerivedFrom P (hkdfCalls (callsOf t)) d.secret d.sessionId role packetsPerKey →
      HandshakeEnds P role packetsPerKey bodies (.ok (d.sessionId, cipher)) t

/-- The datagram that arrives is this packet from this source. -/
def Hears (arrival : Except PyError (Bytes × Address)) (packet : Packet) (source : Address) :
    Prop :=
  ∃ datagram, arrival = .ok (datagram, source) ∧
    Packet.decode (datagram.take maxUdpDatagramSize) = .ok packet

/-- Only one packet arrives. -/
theorem Hears.unique {arrival : Except PyError (Bytes × Address)} {packet packet' : Packet}
    {source source' : Address} (h : Hears arrival packet source)
    (h' : Hears arrival packet' source') : packet' = packet ∧ source' = source := by
  obtain ⟨datagram, harrival, hdecode⟩ := h
  obtain ⟨datagram', harrival', hdecode'⟩ := h'
  rw [harrival] at harrival'
  obtain ⟨rfl, rfl⟩ := Prod.mk.inj (Except.ok.inj harrival')
  rw [hdecode] at hdecode'
  exact ⟨(Except.ok.inj hdecode').symm, rfl⟩

section handshake

variable {τ : Type} {P : Primitives} {packetsPerKey : ℕ} {role : EndpointRole}
  {bodies : List Bytes}

/-- What happens before without a session secret changes nothing. -/
theorem HandshakeEnds.append_left {r : Except PyError (ℤ × Cipher)}
    {s t : List (SessionEffect τ)} (h : HandshakeEnds P role packetsPerKey bodies r t)
    (hd : derivations s = []) (haes : aesCalls (callsOf s) = []) :
    HandshakeEnds P role packetsPerKey bodies r (s ++ t) := by
  cases h with
  | failed e _ h1 h2 =>
      refine .failed e _ ?_ ?_
      · rw [derivations_append, hd, h1, List.nil_append]
      · rw [callsOf_append, aesCalls_append, haes, h2, List.nil_append]
  | refused e _ d h1 h2 hbody hlt =>
      refine .refused e _ d ?_ ?_ hbody hlt
      · rw [derivations_append, hd, h1, List.nil_append]
      · rw [callsOf_append, aesCalls_append, haes, h2, List.nil_append]
  | established _ d cipher h1 h2 hbody hlt hder =>
      refine .established _ d cipher ?_ ?_ hbody hlt (hder.mono fun call hcall => ?_)
      · rw [derivations_append, hd, h1, List.nil_append]
      · rw [callsOf_append, aesCalls_append, haes, h2, List.nil_append]
      · rw [callsOf_append, hkdfCalls_append]
        exact List.mem_append_right _ hcall

/-- The transport makes no cryptographic calls. -/
theorem transportSend_calls (plain packet : Packet) (destination : Address)
    (failure : Option PyError) (s : Unit) :
    wp (transportSend plain packet destination failure : Program PyError (Effect τ) Unit Unit) s
      fun _ _ t => cryptoCalls t = [] := by
  refine wp_mono (transportSend_spec plain packet destination failure s) ?_
  rintro r s' t ⟨-, hends⟩
  cases hends with
  | sent data _ => rfl
  | invalid e _ => rfl
  | refused e _ => rfl

/-- A receive call makes no cryptographic calls, and returns the packet of the datagram that
arrived. -/
theorem transportReceive_hears (arrival : Except PyError (Bytes × Address)) (s : Unit) :
    wp (transportReceive arrival : Program PyError (Effect τ) Unit _) s
      fun r _ t => cryptoCalls t = [] ∧ ∀ packet source, r = .ok (packet, source) ↔
        Hears arrival packet source := by
  rcases arrival with e | ⟨datagram, source⟩
  · refine ⟨rfl, fun packet source => iff_of_false ?_ ?_⟩
    · rintro ⟨⟩
    · rintro ⟨datagram, ⟨⟩, -⟩
  · refine wp_mono (transportReceive_spec datagram source s) ?_
    rintro r s' t ⟨-, rfl, rfl⟩
    refine ⟨rfl, fun packet source' => ?_⟩
    cases hdecode : Packet.decode (datagram.take maxUdpDatagramSize) with
    | error e =>
      refine iff_of_false ?_ ?_
      · rintro ⟨⟩
      · rintro ⟨datagram', harrival, hpacket⟩
        obtain ⟨rfl, rfl⟩ := Prod.mk.inj (Except.ok.inj harrival)
        rw [hdecode] at hpacket
        cases hpacket
    | ok packet' =>
      constructor
      · intro h
        obtain ⟨rfl, rfl⟩ := Prod.mk.inj (Except.ok.inj h)
        exact ⟨datagram, rfl, hdecode⟩
      · rintro ⟨datagram', harrival, hpacket⟩
        obtain ⟨rfl, rfl⟩ := Prod.mk.inj (Except.ok.inj harrival)
        rw [hdecode] at hpacket
        rw [Except.ok.inj hpacket]
        rfl

/-- The cipher of a session secret. -/
theorem sessionCipher_spec (hH : P.LawfulHkdf) {secret : Bytes} (hsecret : 32 ≤ secret.length)
    {sessionId : ℕ} (hs : sessionId < 2 ^ 32) (role : EndpointRole) (packetsPerKey : ℕ) :
    wp (sessionCipher P secret sessionId role packetsPerKey :
      Program PyError (SessionEffect τ) Unit Cipher) () (fun r _ t =>
        derivations t = [] ∧ aesCalls (callsOf t) = [] ∧ ∃ c, r = .ok c ∧
          c.DerivedFrom P (hkdfCalls (callsOf t)) secret sessionId role packetsPerKey) := by
  unfold sessionCipher
  rw [wp_lift]
  refine wp_mono (createCipher_spec hH hsecret hs role packetsPerKey ()) ?_
  rintro r s' t ⟨-, haes, c, rfl, hder⟩
  rw [derivations_map_crypto, callsOf_map_crypto]
  exact ⟨rfl, haes, c, rfl, hder⟩

/-- How one attempt of a handshake ends: the handshake ends with it, or it passes without a
session secret. -/
def AttemptDraws {τ : Type} (P : Primitives) (role : EndpointRole) (packetsPerKey : ℕ)
    (bodies : List Bytes) (r : Except PyError (Option (ℤ × Cipher)))
    (t : List (SessionEffect τ)) : Prop :=
  AttemptFor (fun r (_ : Unit) t => HandshakeEnds P role packetsPerKey bodies r t) r () t

/-- An attempt that passes. -/
theorem AttemptDraws.passes {t : List (SessionEffect τ)} (hd : derivations t = [])
    (haes : aesCalls (callsOf t) = []) :
    AttemptDraws P role packetsPerKey bodies (.ok none) t :=
  fun _ _ _ h => h.append_left hd haes

/-- What happens before without a session secret changes nothing. -/
theorem AttemptDraws.append_left {r : Except PyError (Option (ℤ × Cipher))}
    {s t : List (SessionEffect τ)} (h : AttemptDraws P role packetsPerKey bodies r t)
    (hd : derivations s = []) (haes : aesCalls (callsOf s) = []) :
    AttemptDraws P role packetsPerKey bodies r (s ++ t) := by
  rcases r with e | _ | session
  · exact HandshakeEnds.append_left h hd haes
  · intro r s' t' h'
    rw [List.append_assoc]
    exact (h r s' t' h').append_left hd haes
  · exact HandshakeEnds.append_left h hd haes

/-- The transport leaves no session secret. -/
theorem AttemptDraws.after_transport {r : Except PyError (Option (ℤ × Cipher))}
    {l : List (Effect τ)} {t : List (SessionEffect τ)}
    (h : AttemptDraws P role packetsPerKey bodies r t) (hl : cryptoCalls l = []) :
    AttemptDraws P role packetsPerKey bodies r (l.map .effect ++ t) := by
  refine h.append_left (derivations_map_effect l) ?_
  rw [callsOf_map_effect, hl]
  rfl

/-- **An attempt of the client.** -/
theorem clientAttempt_draws (hH : P.LawfulHkdf) (remote : Address) (hello : Packet)
    (state : ClientHandshakeState) (packetsPerKey : ℕ) (input : AttemptInput) :
    wp (clientAttempt P remote hello state packetsPerKey input :
      Program PyError (SessionEffect τ) Unit _) () fun r _ t =>
        AttemptDraws P .client packetsPerKey [state.clientHelloPayload.take 64] r t := by
  have hraise : ∀ e : PyError, AttemptDraws P .client packetsPerKey
      [state.clientHelloPayload.take 64] (.error e) ([] : List (SessionEffect τ)) :=
    fun e => HandshakeEnds.failed e [] rfl rfl
  unfold clientAttempt
  rw [wp_bind, wp_lift]
  refine wp_mono (transportSend_calls hello hello remote _ ()) ?_
  rintro (e | _) ⟨⟩ sent hsent
  · rw [← List.append_nil (sent.map SessionEffect.effect)]
    exact (hraise e).after_transport hsent
  simp only
  rw [wp_bind, wp_attempt, wp_lift]
  refine wp_mono (transportReceive_hears _ ()) ?_
  rintro r ⟨⟩ received ⟨hreceived, -⟩
  -- the transport draws nothing, so only what follows the two calls counts
  refine wp_mono (R := fun r _ t => AttemptDraws P .client packetsPerKey _ r t) ?_
    fun r _ t h => (h.after_transport hreceived).after_transport hsent
  rcases r with e | ⟨response, sender⟩
  · simp only
    by_cases hretry : retriesReceive e
    · rw [if_pos hretry]
      exact AttemptDraws.passes rfl rfl
    · rw [if_neg hretry]
      exact hraise e
  simp only
  by_cases hsender : sender ≠ remote
  · rw [if_pos hsender]
    exact AttemptDraws.passes rfl rfl
  rw [if_neg hsender]
  cases hfinish : finishClientHandshake P state response with
  | error e =>
      simp only
      by_cases hvalue : e.isValueError
      · rw [if_pos hvalue]
        exact AttemptDraws.passes rfl rfl
      · rw [if_neg hvalue]
        exact hraise e
  | ok secret =>
      obtain ⟨-, -, -, -, hlt, _, -, -, hderive⟩ := finishClientHandshake_ok hfinish
      have hlength := length_of_deriveSessionSecret hH hderive
      simp only
      rw [wp_emit_bind, wp_bind_pure]
      refine wp_mono (sessionCipher_spec hH hlength.ge hlt .client packetsPerKey) ?_
      rintro r ⟨⟩ t ⟨hd, haes, c, rfl, hder⟩
      refine HandshakeEnds.established _ ⟨state.sessionId, state.clientHelloPayload,
        response.payload, secret⟩ c ?_ haes (List.mem_singleton.2 rfl) hlt hder
      rw [derivations_derived, hd]

/-- **The client's handshake.** -/
theorem clientAttempts_spec (hH : P.LawfulHkdf) (remote : Address) (hello : Packet)
    (state : ClientHandshakeState) (packetsPerKey : ℕ) (input : ℕ → AttemptInput)
    (attempts i : ℕ) :
    wp (clientAttempts P remote hello state packetsPerKey input attempts i :
      Program PyError (SessionEffect τ) Unit _) () fun r _ t =>
        HandshakeEnds P .client packetsPerKey [state.clientHelloPayload.take 64] r t := by
  rw [clientAttempts_eq_retry]
  refine wp_retry (fun _ => .failed _ _ rfl rfl) ?_ rfl ()
  intro j _ _
  exact clientAttempt_draws hH remote hello state packetsPerKey (input j)

/-- The body that a server draws for its answer. -/
theorem ownBody_of_acceptClientHello (hX : P.LawfulX25519) {privateKey peerKey : Bytes}
    {hello response : Packet} {entropy : ServerEntropy} {secret : Bytes}
    (h : acceptClientHello P hello privateKey peerKey entropy = .ok (response, secret)) :
    ownBody .server ⟨hello.sessionId, hello.payload, response.payload, secret⟩
      = P.x25519Public entropy.ephemeralPrivate ++ entropy.serverRandom := by
  obtain ⟨-, -, -, -, _, body, -, -, hbody, rfl, -⟩ := acceptClientHello_ok h
  rw [ownBody, ← hbody]
  refine List.take_left' ?_
  rw [hbody, List.length_append, hX.length_public, entropy.length_serverRandom]
  rfl

/-- How an attempt of the server ends: it accepts no hello, or it derives the secret of one and
sends the answer or not. -/
inductive ServerAttemptEnds {τ : Type} (P : Primitives) (remote : Address)
    (privateKey peerKey : Bytes) (packetsPerKey : ℕ) (input : AttemptInput) :
    Except PyError (Option (ℤ × Cipher)) → List (SessionEffect τ) → Prop
  | unanswered (r : Except PyError (Option (ℤ × Cipher))) (t : List (SessionEffect τ)) :
      (∀ session, r ≠ .ok (some session)) →
      (∀ hello accepted, Hears input.arrival hello remote →
        acceptClientHello P hello privateKey peerKey input.entropy ≠ .ok accepted) →
      derivations t = [] → callsOf t = [] →
      ServerAttemptEnds P remote privateKey peerKey packetsPerKey input r t
  | refused (hello response : Packet) (secret : Bytes) (e : PyError)
      (t : List (SessionEffect τ)) :
      Hears input.arrival hello remote →
      acceptClientHello P hello privateKey peerKey input.entropy = .ok (response, secret) →
      ¬ (input.sendFailure = none ∧ ∃ data, response.encode = .ok data) →
      derivations t = [⟨hello.sessionId, hello.payload, response.payload, secret⟩] →
      callsOf t = [] →
      ServerAttemptEnds P remote privateKey peerKey packetsPerKey input (.error e) t
  | established (hello response : Packet) (secret : Bytes) (cipher : Cipher)
      (t : List (SessionEffect τ)) :
      Hears input.arrival hello remote →
      acceptClientHello P hello privateKey peerKey input.entropy = .ok (response, secret) →
      input.sendFailure = none →
      derivations t = [⟨hello.sessionId, hello.payload, response.payload, secret⟩] →
      aesCalls (callsOf t) = [] →
      cipher.DerivedFrom P (hkdfCalls (callsOf t)) secret hello.sessionId .server packetsPerKey →
      ServerAttemptEnds P remote privateKey peerKey packetsPerKey input
        (.ok (some (hello.sessionId, cipher))) t

/-- The transport before changes nothing. -/
theorem ServerAttemptEnds.after_transport {remote : Address} {privateKey peerKey : Bytes}
    {input : AttemptInput} {r : Except PyError (Option (ℤ × Cipher))} {l : List (Effect τ)}
    {t : List (SessionEffect τ)}
    (h : ServerAttemptEnds P remote privateKey peerKey packetsPerKey input r t)
    (hl : cryptoCalls l = []) :
    ServerAttemptEnds P remote privateKey peerKey packetsPerKey input r (l.map .effect ++ t) := by
  have hderivations : derivations (l.map .effect ++ t) = derivations t := by
    rw [derivations_append, derivations_map_effect, List.nil_append]
  have hcalls : callsOf (l.map .effect ++ t) = callsOf t := by
    rw [callsOf_append, callsOf_map_effect, hl, List.nil_append]
  cases h with
  | unanswered _ _ hr hnone hd hc =>
    exact .unanswered _ _ hr hnone (hderivations.trans hd) (hcalls.trans hc)
  | refused hello response secret e _ hears haccept hsend hd hc =>
    exact .refused hello response secret e _ hears haccept hsend (hderivations.trans hd)
      (hcalls.trans hc)
  | established hello response secret cipher _ hears haccept hsend hd haes hder =>
    rw [← hcalls] at haes hder
    exact .established hello response secret cipher _ hears haccept hsend (hderivations.trans hd)
      haes hder

/-- The end of an attempt that accepts a hello. -/
theorem serverAnswer_cases (hH : P.LawfulHkdf) {remote : Address} {privateKey peerKey : Bytes}
    (packetsPerKey : ℕ) {input : AttemptInput} {hello response : Packet} {secret : Bytes}
    (hears : Hears input.arrival hello remote)
    (haccept : acceptClientHello P hello privateKey peerKey input.entropy
      = .ok (response, secret)) :
    wp (do
      emit (.derived ⟨hello.sessionId, hello.payload, response.payload, secret⟩)
      lift .effect (transportSend response response remote input.sendFailure)
      let cipher ← sessionCipher P secret hello.sessionId .server packetsPerKey
      return some ((hello.sessionId : ℤ), cipher) : Program PyError (SessionEffect τ) Unit _) ()
      fun r _ t => ServerAttemptEnds P remote privateKey peerKey packetsPerKey input r t := by
  obtain ⟨-, -, -, hlt, _, _, -, -, -, -, hderive⟩ := acceptClientHello_ok haccept
  have hlength := length_of_deriveSessionSecret hH hderive
  rw [wp_emit_bind, wp_bind, wp_lift, transportSend, wp_bind, wp_ofExcept]
  cases hencode : response.encode with
  | error e =>
    refine .refused hello response secret e _ hears haccept ?_ rfl rfl
    rintro ⟨-, data, hdata⟩
    rw [hencode] at hdata
    cases hdata
  | ok data =>
    cases hfailure : input.sendFailure with
    | some e =>
      refine .refused hello response secret e _ hears haccept ?_ rfl rfl
      rintro ⟨hnone, -⟩
      rw [hfailure] at hnone
      cases hnone
    | none =>
      simp only
      rw [wp_emit, wp_bind_pure]
      refine wp_mono (sessionCipher_spec hH hlength.ge hlt .server packetsPerKey) ?_
      rintro r ⟨⟩ t ⟨hd, haes, c, rfl, hder⟩
      refine .established hello response secret c _ hears haccept hfailure ?_ haes hder
      rw [derivations_derived]
      exact congrArg _ hd

/-- **What an attempt of the server can do.** -/
theorem serverAttempt_cases (hH : P.LawfulHkdf) (remote : Address) (privateKey peerKey : Bytes)
    (packetsPerKey : ℕ) (input : AttemptInput) :
    wp (serverAttempt P remote privateKey peerKey packetsPerKey input :
      Program PyError (SessionEffect τ) Unit _) () fun r _ t =>
        ServerAttemptEnds P remote privateKey peerKey packetsPerKey input r t := by
  unfold serverAttempt
  rw [wp_bind, wp_attempt, wp_lift]
  refine wp_mono (transportReceive_hears input.arrival ()) ?_
  rintro r ⟨⟩ l ⟨hl, hreceived⟩
  refine wp_mono (R := fun r _ t => ServerAttemptEnds P remote privateKey peerKey packetsPerKey
    input r t) ?_ fun r _ t h => h.after_transport hl
  -- an attempt that accepts no hello
  have hends : ∀ r : Except PyError (Option (ℤ × Cipher)), (∀ session, r ≠ .ok (some session)) →
      (∀ hello accepted, Hears input.arrival hello remote →
        acceptClientHello P hello privateKey peerKey input.entropy ≠ .ok accepted) →
      ServerAttemptEnds P remote privateKey peerKey packetsPerKey input r
        ([] : List (SessionEffect τ)) := fun r hr hnone => .unanswered r [] hr hnone rfl rfl
  rcases r with e | ⟨hello, sender⟩
  · have hnone : ∀ hello accepted, Hears input.arrival hello remote →
        acceptClientHello P hello privateKey peerKey input.entropy ≠ .ok accepted := by
      intro hello accepted hears
      cases (hreceived hello remote).2 hears
    simp only
    by_cases hretry : retriesReceive e = true
    · rw [if_pos hretry]
      exact hends _ (fun _ h => by cases h) hnone
    · rw [if_neg hretry]
      exact hends _ (fun _ h => by cases h) hnone
  have hears := (hreceived hello sender).1 rfl
  simp only
  by_cases hsender : sender ≠ remote
  · rw [if_pos hsender]
    refine hends _ (fun _ h => by cases h) fun hello' accepted hears' => ?_
    exact absurd (hears.unique hears').2.symm hsender
  rw [if_neg hsender]
  obtain rfl := not_not.1 hsender
  cases haccept : acceptClientHello P hello privateKey peerKey input.entropy with
  | error e =>
    have hnone : ∀ hello' accepted, Hears input.arrival hello' sender →
        acceptClientHello P hello' privateKey peerKey input.entropy ≠ .ok accepted := by
      intro hello' accepted hears' h
      rw [(hears.unique hears').1, haccept] at h
      cases h
    simp only
    by_cases hvalue : e.isValueError = true
    · rw [if_pos hvalue]
      exact hends _ (fun _ h => by cases h) hnone
    · rw [if_neg hvalue]
      exact hends _ (fun _ h => by cases h) hnone
  | ok accepted => exact serverAnswer_cases hH packetsPerKey hears haccept

/-- **An attempt of the server.** -/
theorem serverAttempt_draws (hH : P.LawfulHkdf) (hX : P.LawfulX25519) (remote : Address)
    (privateKey peerKey : Bytes) (packetsPerKey : ℕ) (input : AttemptInput)
    (hbody : P.x25519Public input.entropy.ephemeralPrivate ++ input.entropy.serverRandom ∈ bodies) :
    wp (serverAttempt P remote privateKey peerKey packetsPerKey input :
      Program PyError (SessionEffect τ) Unit _) () fun r _ t =>
        AttemptDraws P .server packetsPerKey bodies r t := by
  have hown : ∀ {hello response : Packet} {secret : Bytes},
      acceptClientHello P hello privateKey peerKey input.entropy = .ok (response, secret) →
      ownBody .server ⟨hello.sessionId, hello.payload, response.payload, secret⟩ ∈ bodies ∧
        hello.sessionId < 2 ^ 32 := by
    intro hello response secret haccept
    rw [ownBody_of_acceptClientHello hX haccept]
    exact ⟨hbody, (acceptClientHello_ok haccept).2.2.2.1⟩
  refine wp_mono (serverAttempt_cases hH remote privateKey peerKey packetsPerKey input) ?_
  rintro r ⟨⟩ t hends
  cases hends with
  | unanswered _ _ hr _ hd hc =>
    have haes : aesCalls (callsOf t) = [] := congrArg aesCalls hc
    rcases r with e | _ | session
    · exact HandshakeEnds.failed e t hd haes
    · exact AttemptDraws.passes hd haes
    · exact absurd rfl (hr session)
  | refused hello response secret e _ _ haccept _ hd hc =>
    exact HandshakeEnds.refused e t _ hd (congrArg aesCalls hc) (hown haccept).1 (hown haccept).2
  | established hello response secret cipher _ _ haccept _ hd haes hder =>
    exact HandshakeEnds.established t _ cipher hd haes (hown haccept).1 (hown haccept).2 hder

/-- **The server's handshake.** -/
theorem serverAttempts_spec (hH : P.LawfulHkdf) (hX : P.LawfulX25519) (remote : Address)
    (privateKey peerKey : Bytes) (packetsPerKey : ℕ) (input : ℕ → AttemptInput)
    (hbodies : ∀ i < defaultHandshakeAttempts, P.x25519Public (input i).entropy.ephemeralPrivate
      ++ (input i).entropy.serverRandom ∈ bodies) (attempts i : ℕ)
    (hi : attempts + i = defaultHandshakeAttempts) :
    wp (serverAttempts P remote privateKey peerKey packetsPerKey input attempts i :
      Program PyError (SessionEffect τ) Unit _) () fun r _ t =>
        HandshakeEnds P .server packetsPerKey bodies r t := by
  rw [serverAttempts_eq_retry]
  refine wp_retry (fun _ => .failed _ _ rfl rfl) ?_ hi ()
  intro j hj _
  exact serverAttempt_draws hH hX remote privateKey peerKey packetsPerKey (input j) (hbodies j hj)


/-- **The handshake of a session.** -/
theorem handshake_spec (hH : P.LawfulHkdf) (hX : P.LawfulX25519) {options : EndpointConfig τ}
    (hrole : options.role = some role) (hkey : options.packetsPerKey = packetsPerKey)
    (input : SessionInput τ) (privateKey peerKey : Bytes) :
    wp (handshake P options input privateKey peerKey) () fun r _ t =>
      HandshakeEnds P role packetsPerKey (drawn P input role) r t := by
  unfold handshake
  rw [hkey]
  cases role with
  | client =>
      rw [if_pos hrole, runClientHandshake, wp_bind, wp_ofExcept]
      cases hcreate : createClientHello P privateKey peerKey input.entropy with
      | error e => exact .failed e [] rfl rfl
      | ok created =>
          obtain ⟨hello, state⟩ := created
          obtain ⟨_, body, -, hbody, rfl, rfl⟩ := createClientHello_ok hcreate
          refine wp_mono (clientAttempts_spec hH options.peer _ _ packetsPerKey input.attempt
            defaultHandshakeAttempts 0) fun r _ t h => ?_
          have htake : ∀ tag : Bytes, (body ++ tag).take 64 = body := by
            intro tag
            refine List.take_left' ?_
            rw [hbody, List.length_append, hX.length_public, input.entropy.length_clientRandom]
            rfl
          rw [htake, hbody] at h
          exact h
  | server =>
      rw [if_neg (by rw [hrole]; decide), runServerHandshake]
      refine serverAttempts_spec hH hX options.peer privateKey peerKey packetsPerKey
        input.attempt (fun i hi => ?_) defaultHandshakeAttempts 0 (Nat.add_zero _)
      exact List.mem_map.2 ⟨i, List.mem_range.2 hi, rfl⟩

end handshake

/-! ## The sessions of a process -/

/-- The AES-GCM calls for the packets of a session. -/
def sealCalls (P : Primitives) (role : EndpointRole) (packetsPerKey : ℕ)
    (session : Derivation × List Packet) : List AesCall :=
  session.2.map (sealCall P session.1.secret session.1.sessionId role packetsPerKey)

/-- The sessions of a process in `role` that leaves this trace: their session secrets, with
the packets encrypted under them. -/
structure Sessions {τ : Type} (P : Primitives) (role : EndpointRole) (packetsPerKey : ℕ)
    (t : List (SessionEffect τ)) (sessions : List (Derivation × List Packet)) : Prop where
  derivations_eq : derivations t = sessions.map Prod.fst
  calls_eq : aesCalls (callsOf t) = sessions.flatMap (sealCalls P role packetsPerKey)
  encrypts : ∀ s ∈ sessions, Encrypts P s.1.secret s.1.sessionId role packetsPerKey
    (hkdfCalls (callsOf t)) (sealCalls P role packetsPerKey s) s.2
  sessionId_lt : ∀ s ∈ sessions, s.1.sessionId < 2 ^ 32

section sessions

variable {τ : Type} {P : Primitives} {packetsPerKey : ℕ} {role : EndpointRole}

/-- A process without a session. -/
theorem sessions_nil {t : List (SessionEffect τ)} (hd : derivations t = [])
    (haes : aesCalls (callsOf t) = []) : Sessions P role packetsPerKey t [] where
  derivations_eq := hd
  calls_eq := haes
  encrypts _ h := absurd h List.not_mem_nil
  sessionId_lt _ h := absurd h List.not_mem_nil

/-- The sessions of two parts of a process. -/
theorem Sessions.append {s t : List (SessionEffect τ)} {l m : List (Derivation × List Packet)}
    (hs : Sessions P role packetsPerKey s l) (ht : Sessions P role packetsPerKey t m) :
    Sessions P role packetsPerKey (s ++ t) (l ++ m) where
  derivations_eq := by
    rw [derivations_append, hs.derivations_eq, ht.derivations_eq, List.map_append]
  calls_eq := by
    rw [callsOf_append, aesCalls_append, hs.calls_eq, ht.calls_eq, List.flatMap_append]
  encrypts x hx := by
    rw [callsOf_append, hkdfCalls_append]
    rcases List.mem_append.1 hx with hx | hx
    · exact (hs.encrypts x hx).mono fun call hcall => List.mem_append_left _ hcall
    · exact (ht.encrypts x hx).mono fun call hcall => List.mem_append_right _ hcall
  sessionId_lt x hx := by
    rcases List.mem_append.1 hx with hx | hx
    · exact hs.sessionId_lt x hx
    · exact ht.sessionId_lt x hx

/-- The sessions of a trace, whose bodies are among those drawn. -/
def Draws (P : Primitives) (role : EndpointRole) (packetsPerKey : ℕ) (bodies : List Bytes)
    (t : List (SessionEffect τ)) : Prop :=
  ∃ sessions, Sessions P role packetsPerKey t sessions ∧
    (sessions.map fun s => ownBody role s.1).Sublist bodies

/-- Nothing was derived. -/
theorem draws_of_nothing {bodies : List Bytes} {t : List (SessionEffect τ)}
    (hd : derivations t = []) (haes : aesCalls (callsOf t) = []) :
    Draws P role packetsPerKey bodies t :=
  ⟨[], sessions_nil hd haes, List.nil_sublist _⟩

/-- A handshake whose cipher encrypted nothing. -/
theorem HandshakeEnds.draws {bodies : List Bytes} {r : Except PyError (ℤ × Cipher)}
    {t : List (SessionEffect τ)} (h : HandshakeEnds P role packetsPerKey bodies r t) :
    Draws P role packetsPerKey bodies t := by
  have hone : ∀ d : Derivation, derivations t = [d] → aesCalls (callsOf t) = [] →
      ownBody role d ∈ bodies → d.sessionId < 2 ^ 32 → Draws P role packetsPerKey bodies t := by
    intro d hd haes hbody hlt
    refine ⟨[(d, [])], ⟨hd, haes, fun s hs => ?_, fun s hs => ?_⟩, ?_⟩
    · rw [List.mem_singleton.1 hs]
      exact encrypts_nil
    · rw [List.mem_singleton.1 hs]
      exact hlt
    · exact List.singleton_sublist.2 hbody
  cases h with
  | failed e _ hd haes => exact draws_of_nothing hd haes
  | refused e _ d hd haes hbody hlt => exact hone d hd haes hbody hlt
  | established _ d c hd haes hbody hlt _ => exact hone d hd haes hbody hlt

/-- A handshake followed by effects without cryptographic calls. -/
theorem Draws.append_right {bodies : List Bytes} {s t : List (SessionEffect τ)}
    (h : Draws P role packetsPerKey bodies s) (hd : derivations t = [])
    (haes : aesCalls (callsOf t) = []) : Draws P role packetsPerKey bodies (s ++ t) := by
  obtain ⟨sessions, hsessions, hsub⟩ := h
  have happend := hsessions.append (sessions_nil hd haes)
  rw [List.append_nil] at happend
  exact ⟨sessions, happend, hsub⟩

variable [Zero τ] [Add τ] [Sub τ] [LT τ] [LE τ] [DecidableEq τ] [DecidableLT τ]
  [DecidableLE τ]

/-- The engine of a session. -/
theorem draws_engine (hA : P.LawfulAead) (hH : P.LawfulHkdf) {bodies : List Bytes}
    {s : List (SessionEffect τ)} {r : Except PyError (ℤ × Cipher)}
    (h : HandshakeEnds P role packetsPerKey bodies r s) {sessionId : ℤ} {cipher : Cipher}
    (hr : r = .ok (sessionId, cipher)) {engine : TunnelEngine τ}
    (hengine : engine.cipher = some cipher ∧ (engine.sessionId : ℤ) = sessionId ∧
      engine.sequenceNumber = 0)
    (inputs : List (IterationInput τ)) :
    wp (zoom (fun _ => engine) (fun _ s => s) SessionEffect.effect (TunnelEngine.run P inputs) :
      Program PyError (SessionEffect τ) Unit Unit) () fun _ _ t =>
        Draws P role packetsPerKey bodies (s ++ t) := by
  cases h with
  | failed _ _ _ _ => cases hr
  | refused _ _ _ _ _ _ _ => cases hr
  | established _ d' cipher' hd haes hbody hlt hder =>
      obtain ⟨rfl, rfl⟩ := Prod.mk.inj (Except.ok.inj hr)
      have hid : engine.sessionId = d'.sessionId := Int.natCast_inj.1 hengine.2.1
      rw [wp_zoom]
      have hstart : Encrypting P d'.secret d'.sessionId role packetsPerKey
          (hkdfCalls (callsOf s)) engine [] := by
        rw [Encrypting, cryptoCalls_nil, hkdfCalls_nil, List.append_nil, aesCalls_nil]
        exact ⟨⟨⟨cipher', hengine.1, hder⟩, hid, hlt⟩, [], encrypts_nil, hengine.2.2⟩
      refine wp_mono (encrypts_run hA hH inputs engine [] hstart) ?_
      intro r engine' t hI
      have hpackets : HasEncrypted P d'.secret d'.sessionId role packetsPerKey
          (hkdfCalls (callsOf s)) engine' t := by
        cases r with
        | ok _ => exact hI.hasEncrypted
        | error _ => exact hI
      obtain ⟨packets, hpackets⟩ := hpackets
      refine ⟨[(d', packets)], ⟨?_, ?_, ?_, ?_⟩, List.singleton_sublist.2 hbody⟩
      · rw [derivations_append, hd, derivations_map_effect]
        rfl
      · rw [callsOf_append, aesCalls_append, haes, callsOf_map_effect, hpackets.calls_eq]
        exact (List.append_nil _).symm
      · intro x hx
        rw [List.mem_singleton.1 hx, callsOf_append, hkdfCalls_append, callsOf_map_effect]
        rw [hpackets.calls_eq] at hpackets
        exact hpackets
      · intro x hx
        rw [List.mem_singleton.1 hx]
        exact hlt

/-- One session of a process. -/
theorem runSession_draws (hA : P.LawfulAead) (hH : P.LawfulHkdf) (hX : P.LawfulX25519)
    {options : EndpointConfig τ} (hrole : options.role = some role)
    (hkey : options.packetsPerKey = packetsPerKey) (privateKey peerKey : Bytes)
    (input : SessionInput τ) :
    wp (runSession P options (.ephemeral privateKey peerKey) input) () fun _ _ t =>
      Draws P role packetsPerKey (drawn P input role) t := by
  unfold runSession
  rw [wp_bind]
  cases input.bindFailure options.bind
      (if options.ephemeralHandshake then some options.handshakeTimeout else none) with
  | some e => exact draws_of_nothing rfl rfl
  | none =>
  refine wp_mono (R := fun r s t => r = .ok () ∧ t = []) ⟨rfl, rfl⟩ ?_
  rintro r ⟨⟩ t ⟨rfl, rfl⟩
  simp only [List.nil_append, establish]
  rw [wp_bind, wp_bind_pure]
  refine wp_mono (handshake_spec hH hX hrole hkey input privateKey peerKey) ?_
  rintro r ⟨⟩ s hends
  cases r with
  | error e => exact hends.draws
  | ok established =>
      obtain ⟨sessionId, cipher⟩ := established
      have hnothing : Draws P role packetsPerKey (drawn P input role) (s ++ []) := by
        rw [List.append_nil]
        exact hends.draws
      simp only [Except.map]
      rw [wp_bind, wp_ofExcept]
      cases newTunDevice options.tunName input.tunDevice with
      | error e => exact hnothing
      | ok name =>
      simp only [List.nil_append]
      rw [wp_bind, wp_ofExcept]
      cases configureTun options.mtu input.ipAddress input.ipLink with
      | error e => exact hnothing
      | ok _ =>
      simp only [List.nil_append]
      rw [wp_bind, wp_ofExcept]
      cases hnew : TunnelEngine.new options.peer sessionId (some cipher)
          options.keepaliveInterval options.livenessTimeout input.startClock with
      | error e => exact hnothing
      | ok engine =>
          simp only [List.nil_append]
          have hid : ∃ n : ℕ, sessionId = n := by
            cases hends with
            | established _ d _ _ _ _ _ _ => exact ⟨d.sessionId, rfl⟩
          obtain ⟨n, rfl⟩ := hid
          obtain rfl := TunnelEngine.new_ok hnew
          exact draws_engine hA hH hends rfl ⟨rfl, rfl, rfl⟩ input.iterations

omit [Zero τ] [Add τ] [Sub τ] [LT τ] [LE τ] [DecidableEq τ] [DecidableLT τ] [DecidableLE τ] in
/-- Two parts of a process draw from two lists. -/
theorem Draws.append {bodies bodies' : List Bytes} {s t : List (SessionEffect τ)}
    (hs : Draws P role packetsPerKey bodies s) (ht : Draws P role packetsPerKey bodies' t) :
    Draws P role packetsPerKey (bodies ++ bodies') (s ++ t) := by
  obtain ⟨l, hl, hsub⟩ := hs
  obtain ⟨m, hm, hsub'⟩ := ht
  refine ⟨l ++ m, hl.append hm, ?_⟩
  rw [List.map_append]
  exact hsub.append hsub'

/-- The sessions of `run_with_reconnect`. -/
theorem reconnect_draws (hA : P.LawfulAead) (hH : P.LawfulHkdf) (hX : P.LawfulX25519)
    {options : EndpointConfig τ} (hrole : options.role = some role)
    (hkey : options.packetsPerKey = packetsPerKey) (privateKey peerKey : Bytes)
    (inputs : List (SessionInput τ)) :
    wp (reconnect P options (.ephemeral privateKey peerKey) inputs) () fun _ _ t =>
      Draws P role packetsPerKey (inputs.flatMap fun input => drawn P input role) t := by
  induction inputs with
  | nil => exact draws_of_nothing rfl rfl
  | cons input inputs ih =>
      rw [reconnect, wp_bind, wp_attempt, List.flatMap_cons]
      refine wp_mono (runSession_draws hA hH hX hrole hkey privateKey peerKey input) ?_
      rintro r ⟨⟩ s hs
      have hended : Draws P role packetsPerKey (drawn P input role ++
          inputs.flatMap fun input => drawn P input role) (s ++ []) :=
        hs.append (draws_of_nothing rfl rfl)
      cases r with
      | ok _ => exact hended
      | error e =>
          simp only
          by_cases he : e.isOSError
          · rw [if_pos he]
            exact wp_mono ih fun _ _ t ht => hs.append ht
          · rw [if_neg he]
            exact hended

/-- **The sessions of a process with ephemeral handshakes.** -/
theorem main_draws (hA : P.LawfulAead) (hH : P.LawfulHkdf) (hX : P.LawfulX25519)
    {options : EndpointConfig τ} (hrole : options.role = some role)
    (hephemeral : options.ephemeralHandshake = true) (files : KeyFiles)
    (inputs : List (SessionInput τ)) :
    wp (main P options files inputs) () fun _ _ t =>
      Draws P role options.packetsPerKey.toNat
        (inputs.flatMap fun input => drawn P input role) t := by
  have hnothing : Draws P role options.packetsPerKey.toNat
      (inputs.flatMap fun input => drawn P input role) ([] : List (SessionEffect τ)) :=
    draws_of_nothing rfl rfl
  unfold main
  rw [wp_bind, wp_ofExcept]
  cases hcheck : checkOptions options with
  | error e => exact hnothing
  | ok _ =>
  obtain ⟨hencrypted, hnonneg⟩ := checkOptions_ok hcheck
  have hkey : options.packetsPerKey = (options.packetsPerKey.toNat : ℤ) :=
    (Int.toNat_of_nonneg hnonneg).symm
  simp only [List.nil_append]
  rw [loadKeys, if_neg (by simp [hencrypted, hrole]), if_pos hephemeral, wp_bind, wp_bind,
    wp_ofExcept]
  cases loadX25519PrivateKey files (options.privateKeyFile.getD "") with
  | error e => exact hnothing
  | ok privateKey =>
  simp only [List.nil_append]
  rw [wp_bind, wp_ofExcept]
  cases loadX25519PublicKey files (options.peerPublicKeyFile.getD "") with
  | error e => exact hnothing
  | ok peerKey =>
  simp only [List.nil_append, wp_pure]
  have hruns : wp (runSessions P options (.ephemeral privateKey peerKey) inputs) () fun _ _ t =>
      Draws P role options.packetsPerKey.toNat
        (inputs.flatMap fun input => drawn P input role) t := by
    unfold runSessions runWithReconnect
    rw [if_pos hephemeral]
    by_cases hdelay : options.reconnectDelay < 0
    · rw [if_pos hdelay]
      exact hnothing
    · rw [if_neg hdelay]
      exact reconnect_draws hA hH hX hrole hkey privateKey peerKey inputs
  rw [wp_bind, wp_attempt]
  refine wp_mono hruns ?_
  rintro r ⟨⟩ t ht
  have hend := ht.append_right (t := []) rfl rfl
  cases r with
  | ok _ => exact hend
  | error e => cases e <;> exact hend

end sessions

end MatfVpn
