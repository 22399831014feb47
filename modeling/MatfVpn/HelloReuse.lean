/-
# Hellos that are accepted again

The server of the point-to-point protocol keeps nothing between two calls of
`run_server_handshake`, so a hello that was accepted before passes the same checks again.

* `accepts_iff` : which hello a call accepts;
* `server_sessions_once_iff` : no hello gives two sessions exactly when no accepted hello
  arrives again while a later call waits for one.
-/
import MatfVpn.EndpointSessions
import MatfVpn.NonceUse

namespace MatfVpn

open Program History BigEndian

/-! ## A hello that passes once passes again -/

/-- Whether an exchange has the all-zero result that `exchange` refuses depends only on the key
of the peer. -/
def Primitives.PeerDecidesExchange (P : Primitives) : Prop :=
  ∀ a b peerKey : Bytes, a.length = x25519KeySize → b.length = x25519KeySize →
    (P.x25519Exchange a peerKey).isSome = (P.x25519Exchange b peerKey).isSome

section again

variable {P : Primitives}

/-- The exchange with a peer key that works for one private key works for every other. -/
theorem deriveSharedSecret_again (hE : P.PeerDecidesExchange) {a b peerKey secret : Bytes}
    (h : deriveSharedSecret P a peerKey = .ok secret) (hb : b.length = x25519KeySize) :
    ∃ secret', deriveSharedSecret P b peerKey = .ok secret' := by
  unfold deriveSharedSecret at h ⊢
  by_cases ha : a.length = x25519KeySize
  swap
  · rw [if_pos ha] at h
    cases h
  rw [if_neg (not_not.2 ha)] at h
  rw [if_neg (not_not.2 hb)]
  by_cases hpeer : peerKey.length ≠ x25519KeySize
  · rw [if_pos hpeer] at h
    cases h
  rw [if_neg hpeer] at h ⊢
  have hsome := hE a b peerKey ha hb
  rcases hx : P.x25519Exchange a peerKey with - | s
  · rw [hx] at h
    cases h
  · rw [hx] at hsome
    obtain ⟨s', hs'⟩ := Option.isSome_iff_exists.1 hsome.symm
    rw [hs']
    exact ⟨s', rfl⟩

/-- **A hello that is accepted once is accepted again**, whatever is drawn for the answer. -/
theorem acceptClientHello_again (hE : P.PeerDecidesExchange) {privateKey peerKey : Bytes}
    {hello : Packet} {entropy : ServerEntropy} {accepted : Packet × Bytes}
    (h : acceptClientHello P hello privateKey peerKey entropy = .ok accepted)
    (entropy' : ServerEntropy) :
    ∃ response secret,
      acceptClientHello P hello privateKey peerKey entropy' = .ok (response, secret) := by
  obtain ⟨htype, hn, hlen, hid, static, _, hstatic, htag, -, -, hderive⟩ :=
    acceptClientHello_ok h
  refine acceptClientHello_returns (validateHello_of_fields htype hn hlen) hid hstatic htag ?_
  intro serverHello
  unfold deriveSessionSecret at hderive ⊢
  simp only [Bool.false_eq_true, if_false, except_bind_eq_ok] at hderive
  obtain ⟨_, hee, _, hes, _, hse, ss, hss, -⟩ := hderive
  obtain ⟨ee', hee'⟩ := deriveSharedSecret_again hE hee entropy'.length_ephemeralPrivate
  obtain ⟨se', hse'⟩ := deriveSharedSecret_again hE hse entropy'.length_ephemeralPrivate
  simp only [Bool.false_eq_true, if_false, hee', hes, hse', hss]
  exact ⟨_, rfl⟩

end again

/-! ## One call -/

/-- The hello for which a call of `run_server_handshake` returned a session. -/
def acceptedHello {τ : Type} (o : Outcome PyError (SessionEffect τ) Unit (ℤ × Cipher)) :
    Option Packet :=
  match o.result with
  | .error _ => none
  | .ok _ => (derivations o.trace).head?.map fun d =>
      ⟨.clientHello, d.sessionId, 0, d.clientHello⟩

/-- The hello arrives from the peer in this attempt, and an answer could be sent. -/
def Offers (remoteAddress : Address) (input : AttemptInput) (hello : Packet) : Prop :=
  input.sendFailure = none ∧ ∃ datagram, input.arrival = .ok (datagram, remoteAddress) ∧
    Packet.decode (datagram.take maxUdpDatagramSize) = .ok hello

section calls

variable {τ : Type} {P : Primitives} {remoteAddress : Address} {privateKey peerKey : Bytes}
  {packetsPerKey : ℕ}

/-- How an attempt of the server ends: with a session for the hello that it was offered, without
a session secret, or with an exception. -/
structure AttemptEnds (P : Primitives) (remoteAddress : Address) (privateKey peerKey : Bytes)
    (input : AttemptInput) (r : Except PyError (Option (ℤ × Cipher)))
    (t : List (SessionEffect τ)) : Prop where
  passed : r = .ok none → derivations t = []
  returned : ∀ session, r = .ok (some session) → ∃ hello response secret,
    Offers remoteAddress input hello ∧
    acceptClientHello P hello privateKey peerKey input.entropy = .ok (response, secret) ∧
    derivations t = [⟨hello.sessionId, hello.payload, response.payload, secret⟩]
  accepts : ∀ hello accepted, Offers remoteAddress input hello →
    acceptClientHello P hello privateKey peerKey input.entropy = .ok accepted →
    ∃ session, r = .ok (some session)

/-- What is offered arrives from the peer. -/
theorem Offers.hears {remoteAddress : Address} {input : AttemptInput} {hello : Packet}
    (h : Offers remoteAddress input hello) : Hears input.arrival hello remoteAddress := h.2

/-- **One attempt of the server.** -/
theorem serverAttempt_ends (hH : P.LawfulHkdf) (hM : P.LawfulHmac) (hX : P.LawfulX25519)
    (input : AttemptInput) :
    wp (serverAttempt P remoteAddress privateKey peerKey packetsPerKey input) ()
      fun r _ (t : List (SessionEffect τ)) =>
        AttemptEnds P remoteAddress privateKey peerKey input r t := by
  refine wp_mono (serverAttempt_cases hH remoteAddress privateKey peerKey packetsPerKey input) ?_
  rintro r ⟨⟩ t hends
  cases hends with
  | unanswered _ _ hr hnone hd _ =>
    refine ⟨fun _ => hd, fun session h => absurd h (hr session), ?_⟩
    intro hello accepted hoffers haccept
    exact absurd haccept (hnone hello accepted hoffers.hears)
  | refused hello response secret e _ hears haccept hsend _ _ =>
    refine ⟨(fun h => by cases h), (fun _ h => by cases h), ?_⟩
    -- the answer can be encoded, so it is the send that failed
    intro hello' accepted hoffers _
    have hencode := Packet.encode_of_encodable (encodable_of_acceptClientHello hM hX haccept)
    exact absurd ⟨hoffers.1, hencode⟩ hsend
  | established hello response secret cipher _ hears haccept hsend hd _ _ =>
    refine ⟨(fun h => by cases h), fun session _ => ?_, fun _ _ _ _ => ⟨_, rfl⟩⟩
    exact ⟨hello, response, secret, ⟨hsend, hears⟩, haccept, hd⟩

/-- The hello arrives from the peer while a call of `run_server_handshake` waits for one: the
attempts before it pass. -/
def ArrivesWaiting (τ : Type) (P : Primitives) (remoteAddress : Address)
    (privateKey peerKey : Bytes) (packetsPerKey : ℕ) (input : ℕ → AttemptInput)
    (hello : Packet) : Prop :=
  ∃ k < defaultHandshakeAttempts,
    (∀ j < k, Passes (serverAttempt P remoteAddress privateKey peerKey packetsPerKey :
      AttemptInput → Program PyError (SessionEffect τ) Unit _) () (input j)) ∧
    Offers remoteAddress (input k) hello

/-- The derivations of a call whose `k`-th attempt returns a session. -/
theorem derivations_of_returnsAt (hH : P.LawfulHkdf) (hM : P.LawfulHmac) (hX : P.LawfulX25519)
    {input : ℕ → AttemptInput} {k : ℕ} {session : ℤ × Cipher}
    (h : ReturnsAt (serverAttempt P remoteAddress privateKey peerKey packetsPerKey :
      AttemptInput → Program PyError (SessionEffect τ) Unit _) () input k session)
    (hk : k < defaultHandshakeAttempts) :
    ∃ hello response secret, Offers remoteAddress (input k) hello ∧
      acceptClientHello P hello privateKey peerKey (input k).entropy = .ok (response, secret) ∧
      acceptedHello (runServerHandshake P remoteAddress privateKey peerKey
        defaultHandshakeAttempts packetsPerKey input () :
          Outcome PyError (SessionEffect τ) Unit _) = some hello := by
  obtain ⟨hello, response, secret, hoffers, haccept, hderived⟩ :=
    (serverAttempt_ends hH hM hX (input k)).returned session h.returns
  refine ⟨hello, response, secret, hoffers, haccept, ?_⟩
  have hpassed : ∀ j < k, derivations ((serverAttempt P remoteAddress privateKey peerKey
      packetsPerKey (input j) : Program PyError (SessionEffect τ) Unit _) ()).trace = [] :=
    fun j hj => (serverAttempt_ends hH hM hX (input j)).passed (h.before j hj).1
  have hnone : derivations ((List.range k).flatMap fun j => ((serverAttempt P remoteAddress
      privateKey peerKey packetsPerKey (input j) :
        Program PyError (SessionEffect τ) Unit _) ()).trace) = [] := by
    refine List.filterMap_eq_nil_iff.2 fun e he => ?_
    obtain ⟨j, hj, he⟩ := List.mem_flatMap.1 he
    exact List.filterMap_eq_nil_iff.1 (hpassed j (List.mem_range.1 hj)) e he
  obtain ⟨htype, hn, -⟩ := acceptClientHello_ok haccept
  rw [runServerHandshake, serverAttempts_eq_retry, h.retry_eq hk]
  simp only [acceptedHello, derivations_append, hnone, hderived]
  obtain ⟨t, s, n, payload⟩ := hello
  simp only at htype hn ⊢
  rw [htype, hn]
  rfl

/-- **The hello that a call accepts** arrived while it waited. -/
theorem arrivesWaiting_of_accepted (hH : P.LawfulHkdf) (hM : P.LawfulHmac)
    (hX : P.LawfulX25519) {input : ℕ → AttemptInput} {hello : Packet}
    (h : acceptedHello (runServerHandshake P remoteAddress privateKey peerKey
      defaultHandshakeAttempts packetsPerKey input () :
        Outcome PyError (SessionEffect τ) Unit _) = some hello) :
    ArrivesWaiting τ P remoteAddress privateKey peerKey packetsPerKey input hello ∧
      ∃ entropy accepted,
        acceptClientHello P hello privateKey peerKey entropy = .ok accepted := by
  rcases hresult : (runServerHandshake P remoteAddress privateKey peerKey
    defaultHandshakeAttempts packetsPerKey input () :
      Outcome PyError (SessionEffect τ) Unit _).result with e | session
  · rw [acceptedHello, hresult] at h
    cases h
  rw [runServerHandshake, serverAttempts_eq_retry] at hresult
  obtain ⟨k, hk, hreturns⟩ := returnsAt_of_result hresult
  simp only [Nat.zero_add] at hreturns
  obtain ⟨hello', response, secret, hoffers, haccept, haccepted⟩ :=
    derivations_of_returnsAt hH hM hX hreturns hk
  obtain rfl := Option.some.inj (haccepted.symm.trans h)
  exact ⟨⟨k, hk, hreturns.before, hoffers⟩, _, _, haccept⟩

/-- **A valid hello that arrives while a call waits** is the one it accepts. -/
theorem accepted_of_arrivesWaiting (hH : P.LawfulHkdf) (hM : P.LawfulHmac)
    (hX : P.LawfulX25519) {input : ℕ → AttemptInput} {hello : Packet}
    (hvalid : ∀ entropy, ∃ response secret,
      acceptClientHello P hello privateKey peerKey entropy = .ok (response, secret))
    (h : ArrivesWaiting τ P remoteAddress privateKey peerKey packetsPerKey input hello) :
    acceptedHello (runServerHandshake P remoteAddress privateKey peerKey
      defaultHandshakeAttempts packetsPerKey input () :
        Outcome PyError (SessionEffect τ) Unit _) = some hello := by
  obtain ⟨k, hk, hbefore, hoffers⟩ := h
  obtain ⟨_, _, haccept⟩ := hvalid (input k).entropy
  obtain ⟨session, hreturns⟩ :=
    (serverAttempt_ends hH hM hX (input k)).accepts hello _ hoffers haccept
  obtain ⟨hello', _, _, hoffers', -, haccepted⟩ :=
    derivations_of_returnsAt (τ := τ) hH hM hX ⟨hbefore, hreturns⟩ hk
  rw [haccepted]
  -- one datagram is one hello
  rw [(hoffers.hears.unique hoffers'.hears).1]

end calls

/-! ## The run of an endpoint -/

section run

variable {τ : Type} [Zero τ] [Add τ] [Sub τ] [LT τ] [LE τ] [DecidableEq τ] [DecidableLT τ]
  [DecidableLE τ]

/-- The sessions of `run_with_reconnect` that call the handshake, in order. -/
def waitingSessions (P : Primitives) (options : EndpointConfig τ) (keys : SessionKeys) :
    List (SessionInput τ) → List (SessionInput τ)
  | [] => []
  | input :: inputs =>
      (if (input.bindFailure options.bind (some options.handshakeTimeout)).isSome then []
        else [input]) ++
      match (runSession P options keys input ()).result with
      | .ok () => []
      | .error e => if e.isOSError then waitingSessions P options keys inputs else []

section derived

variable {P : Primitives} {options : EndpointConfig τ} (privateKey peerKey : Bytes)

/-- The session secrets of a session come from its handshake. -/
theorem derivations_runSession (hephemeral : options.ephemeralHandshake = true)
    (input : SessionInput τ) :
    derivations (runSession P options (.ephemeral privateKey peerKey) input ()).trace
      = if (input.bindFailure options.bind (some options.handshakeTimeout)).isSome then []
        else derivations (handshake P options input privateKey peerKey ()).trace := by
  suffices h : wp (runSession P options (.ephemeral privateKey peerKey) input) () fun _ _ t =>
      derivations t = if (input.bindFailure options.bind
          (some options.handshakeTimeout)).isSome then []
        else derivations (handshake P options input privateKey peerKey ()).trace from h
  unfold runSession
  rw [if_pos hephemeral, wp_bind]
  rcases input.bindFailure options.bind (some options.handshakeTimeout) with - | e
  swap
  · rfl
  refine wp_mono (R := fun r s t => r = .ok () ∧ t = []) ⟨rfl, rfl⟩ ?_
  rintro r ⟨⟩ t ⟨rfl, rfl⟩
  simp only [List.nil_append, establish, Option.isSome_none, Bool.false_eq_true, if_false]
  rw [wp_bind, wp_bind_pure, wp]
  generalize handshake P options input privateKey peerKey () = o
  rcases o with ⟨e | ⟨sessionId, cipher⟩, ⟨⟩, s⟩
  · rfl
  simp only [Except.map]
  -- what follows derives no session secret
  rw [wp_bind, wp_ofExcept]
  rcases newTunDevice options.tunName input.tunDevice with e | name
  · simp
  simp only
  rw [wp_bind, wp_ofExcept]
  rcases configureTun options.mtu input.ipAddress input.ipLink with e | _
  · simp
  simp only
  rw [wp_bind, wp_ofExcept]
  rcases TunnelEngine.new options.peer sessionId (some cipher) options.keepaliveInterval
    options.livenessTimeout input.startClock with e | engine
  · simp
  simp only
  rw [wp_zoom, wp]
  simp

/-- **The handshakes of a run.** Its session secrets come from the handshakes of these sessions. -/
theorem derivations_reconnect (hephemeral : options.ephemeralHandshake = true)
    (inputs : List (SessionInput τ)) :
    derivations (reconnect P options (.ephemeral privateKey peerKey) inputs ()).trace
      = (waitingSessions P options (.ephemeral privateKey peerKey) inputs).flatMap fun input =>
          derivations (handshake P options input privateKey peerKey ()).trace := by
  induction inputs with
  | nil => rfl
  | cons input inputs ih =>
      have hfirst := derivations_runSession (P := P) privateKey peerKey hephemeral input
      have hone : ((if (input.bindFailure options.bind (some options.handshakeTimeout)).isSome
          then [] else [input]).flatMap fun input =>
            derivations (handshake P options input privateKey peerKey ()).trace)
          = derivations (runSession P options (.ephemeral privateKey peerKey) input ()).trace := by
        rw [hfirst]
        split
        · rfl
        · exact List.append_nil _
      rw [waitingSessions, List.flatMap_append, hone]
      suffices h : wp (reconnect P options (.ephemeral privateKey peerKey) (input :: inputs)) ()
          fun _ _ t => derivations t = _ from h
      rw [reconnect, wp_bind, wp_attempt, wp]
      rcases runSession P options (.ephemeral privateKey peerKey) input () with
        ⟨e | ⟨⟩, ⟨⟩, t⟩
      · simp only
        by_cases he : e.isOSError = true
        · rw [if_pos he, if_pos he, ← ih, wp, derivations_append]
        · rw [if_neg he, if_neg he]
          show derivations (t ++ []) = _
          simp
      · show derivations (t ++ []) = _
        simp

end derived

/-- The hello for which the handshake of a session returned. -/
def helloOf (P : Primitives) (options : EndpointConfig τ) (privateKey peerKey : Bytes)
    (input : SessionInput τ) : Option Packet :=
  acceptedHello (handshake P options input privateKey peerKey ())

/-- **Hellos and sessions of a server.** In every run of a server endpoint, with any number of
reconnects, no two calls of `run_server_handshake` return a session for the same hello exactly when
no hello for which a call returned arrives again while a later call waits for one. -/
theorem server_sessions_once_iff {P : Primitives} (hH : P.LawfulHkdf) (hM : P.LawfulHmac)
    (hX : P.LawfulX25519) (hE : P.PeerDecidesExchange) {options : EndpointConfig τ}
    (hoptions : checkOptions options = .ok ()) (hrole : options.role = some .server)
    (privateKey peerKey : Bytes) (inputs : List (SessionInput τ)) :
    ((waitingSessions P options (.ephemeral privateKey peerKey) inputs).filterMap
      (helloOf P options privateKey peerKey)).Nodup ↔
    Each (fun before input =>
      ∀ hello ∈ before.filterMap (helloOf P options privateKey peerKey),
        ¬ ArrivesWaiting τ P options.peer privateKey peerKey options.packetsPerKey.toNat
          input.attempt hello)
      (waitingSessions P options (.ephemeral privateKey peerKey) inputs) := by
  have hkey : options.packetsPerKey = (options.packetsPerKey.toNat : ℤ) :=
    (Int.toNat_of_nonneg (checkOptions_ok hoptions).2).symm
  have hcall : ∀ input : SessionInput τ, helloOf P options privateKey peerKey input
      = acceptedHello (runServerHandshake P options.peer privateKey peerKey
          defaultHandshakeAttempts (options.packetsPerKey.toNat : ℤ) input.attempt () :
            Outcome PyError (SessionEffect τ) Unit (ℤ × Cipher)) := by
    intro input
    rw [helloOf, handshake, if_neg (by rw [hrole]; decide), ← hkey]
  rw [nodup_filterMap_iff]
  constructor
  · intro hdistinct
    refine hdistinct.mono fun before input honce hello hmem harrives => ?_
    obtain ⟨earlier, -, haccepted⟩ := List.mem_filterMap.1 hmem
    rw [hcall] at haccepted
    obtain ⟨-, entropy, accepted, haccept⟩ := arrivesWaiting_of_accepted hH hM hX haccepted
    refine honce hello ?_ hmem
    rw [hcall]
    exact accepted_of_arrivesWaiting hH hM hX (acceptClientHello_again hE haccept) harrives
  · intro hnone
    refine hnone.mono fun before input hfresh hello haccepted hmem => hfresh hello hmem ?_
    rw [hcall] at haccepted
    exact (arrivesWaiting_of_accepted hH hM hX haccepted).1

end run

/-! ### A replayed hello -/

/-- Two sessions of the sample server; the hello of the first arrives again in the second. -/
def sampleReplayed : List (SessionInput ℕ) :=
  [sampleSession .server sampleClientEntropy 0, sampleSession .server sampleClientEntropy 3]

/-- **A replayed hello gives another session.** -/
theorem hello_accepted_twice :
    (sampleOptions .server).validate = .ok () ∧
    ¬ ((waitingSessions sample (sampleOptions .server) (.ephemeral sampleKeys.serverPrivate
      (sample.x25519Public sampleKeys.clientPrivate)) sampleReplayed).filterMap
        (helloOf sample (sampleOptions .server) sampleKeys.serverPrivate
          (sample.x25519Public sampleKeys.clientPrivate))).Nodup := by
  constructor
  · decide +kernel
  · decide +kernel

theorem server_sessions_once_iff_sample :
    ((waitingSessions sample (sampleOptions .server) (.ephemeral sampleKeys.serverPrivate
      (sample.x25519Public sampleKeys.clientPrivate)) sampleReplayed).filterMap
        (helloOf sample (sampleOptions .server) sampleKeys.serverPrivate
          (sample.x25519Public sampleKeys.clientPrivate))).Nodup ↔
    Each (fun before input =>
      ∀ hello ∈ before.filterMap (helloOf sample (sampleOptions .server)
          sampleKeys.serverPrivate (sample.x25519Public sampleKeys.clientPrivate)),
        ¬ ArrivesWaiting ℕ sample (sampleAddress .client) sampleKeys.serverPrivate
          (sample.x25519Public sampleKeys.clientPrivate) 1 input.attempt hello)
      (waitingSessions sample (sampleOptions .server) (.ephemeral sampleKeys.serverPrivate
        (sample.x25519Public sampleKeys.clientPrivate)) sampleReplayed) :=
  server_sessions_once_iff sample_lawfulHkdf sample_lawfulHmac sample_lawfulX25519
    (fun _ _ _ _ _ => rfl) (by decide +kernel) rfl _ _ sampleReplayed

end MatfVpn
