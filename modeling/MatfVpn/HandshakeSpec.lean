/-
# What the handshake functions check and return

One inversion lemma for each message function, in terms of the transcripts that the
tags cover, and the facts about transcripts that the handshake rests on.

* `createClientHello_ok`, `acceptClientHello_ok`, `finishClientHandshake_ok`;
* `clientTranscript_inj`, `serverTranscript_inj`, `clientTranscript_ne_serverTranscript` :
  a transcript determines its role and its fields;
* `deriveSessionSecret_comm` : both sides derive the same session secret;
* `acceptClientHello_error` : a hello that is not accepted raises `ValueError`;
* `handshake_succeeds` : with matching static keys a handshake returns on both sides.
-/
import MatfVpn.Handshake

namespace MatfVpn

open BigEndian

/-! ## Transcripts -/

/-- What the tag of a CLIENT_HELLO covers, after the handshake context. -/
def clientTranscript (sessionId : ℕ) (body : Bytes) : Bytes :=
  clientLabel ++ toBytes 4 sessionId ++ body

/-- What the tag of a SERVER_HELLO covers, after the handshake context. -/
def serverTranscript (sessionId : ℕ) (clientHelloPayload serverBody : Bytes) : Bytes :=
  serverLabel ++ toBytes 4 sessionId ++ clientHelloPayload ++ serverBody

/-- The transcript of a CLIENT_HELLO determines its session id and body. -/
theorem clientTranscript_inj {sessionId sessionId' : ℕ} {body body' : Bytes}
    (hs : sessionId < 2 ^ 32) (hs' : sessionId' < 2 ^ 32)
    (h : clientTranscript sessionId body = clientTranscript sessionId' body') :
    sessionId = sessionId' ∧ body = body' := by
  unfold clientTranscript at h
  obtain ⟨h1, h2⟩ := List.append_inj h (by simp)
  have h3 := (List.append_inj h1 rfl).2
  exact ⟨toBytes_inj (by omega) (by omega) h3, h2⟩

/-- The transcript of a SERVER_HELLO determines its session id, the CLIENT_HELLO it
answers and its body. -/
theorem serverTranscript_inj {sessionId sessionId' : ℕ} {payload payload' body body' : Bytes}
    (hs : sessionId < 2 ^ 32) (hs' : sessionId' < 2 ^ 32) (hbody : body.length = body'.length)
    (h : serverTranscript sessionId payload body = serverTranscript sessionId' payload' body') :
    sessionId = sessionId' ∧ payload = payload' ∧ body = body' := by
  unfold serverTranscript at h
  obtain ⟨h1, h2⟩ := List.append_inj' h hbody
  obtain ⟨h3, h4⟩ := List.append_inj h1 (by simp)
  have h5 := (List.append_inj h3 rfl).2
  exact ⟨toBytes_inj (by omega) (by omega) h5, h4, h2⟩

/-- **Domain separation.** No transcript belongs to both roles. -/
theorem clientTranscript_ne_serverTranscript (sessionId sessionId' : ℕ)
    (body payload body' : Bytes) :
    clientTranscript sessionId body ≠ serverTranscript sessionId' payload body' := by
  intro h
  have hlabel := congrArg (List.take 6) h
  simp [clientTranscript, serverTranscript, clientLabel, serverLabel] at hlabel

/-! ## Payloads -/

/-- A payload is its body followed by its tag. -/
theorem helloBody_append_helloTag (payload : Bytes) :
    helloBody payload ++ helloTag payload = payload := List.take_append_drop _ _

theorem length_helloBody {payload : Bytes} (h : payload.length = helloPayloadSize) :
    (helloBody payload).length = 64 := by
  rw [helloBody, List.length_take, h]
  decide

/-- A body with a tag behind it is split off again. -/
theorem helloBody_append_tag {P : Primitives} (hM : P.LawfulHmac) (body key transcript : Bytes) :
    helloBody (body ++ authenticationTag P key transcript) = body := by
  rw [helloBody, List.length_append, authenticationTag, hM.length_hmac, authenticationTagSize,
    Nat.add_sub_cancel, List.take_left]

/-! ## The messages -/

section messages

variable {P : Primitives} {privateKey peerKey : Bytes}

theorem validateHello_ok {packet : Packet} {expectedType : MessageType}
    (h : validateHello packet expectedType = .ok ()) :
    packet.messageType = expectedType ∧ packet.sequenceNumber = 0 ∧
      packet.payload.length = helloPayloadSize := by
  unfold validateHello at h
  split at h
  · cases h
  rename_i htype
  split at h
  · cases h
  rename_i hfields
  rw [not_or, not_not, not_not] at hfields
  exact ⟨not_not.1 htype, hfields⟩

/-- The CLIENT_HELLO that a client creates and the state it keeps. -/
theorem createClientHello_ok {entropy : ClientEntropy} {hello : Packet}
    {state : ClientHandshakeState}
    (h : createClientHello P privateKey peerKey entropy = .ok (hello, state)) :
    ∃ staticSecret body, deriveSharedSecret P privateKey peerKey = .ok staticSecret ∧
      body = P.x25519Public entropy.ephemeralPrivate ++ entropy.clientRandom ∧
      hello = ⟨.clientHello, entropy.sessionId, 0, body ++ authenticationTag P staticSecret
        (clientTranscript entropy.sessionId body)⟩ ∧
      state = ⟨entropy.sessionId, privateKey, peerKey, entropy.ephemeralPrivate,
        hello.payload⟩ := by
  unfold createClientHello at h
  have hid : intToBytes entropy.sessionId 4 = .ok (toBytes 4 entropy.sessionId) :=
    intToBytes_of_lt (lt_of_lt_of_le entropy.sessionId_lt (by decide))
  cases hs : deriveSharedSecret P privateKey peerKey with
  | error e =>
      simp only [hs] at h
      cases h
  | ok staticSecret =>
      simp only [hs, hid] at h
      obtain ⟨rfl, rfl⟩ := Prod.mk.inj (Except.ok.inj h)
      exact ⟨staticSecret, _, rfl, rfl, rfl, rfl⟩

/-- What `accept_client_hello` has checked when it returns, and what it returns. -/
theorem acceptClientHello_ok {packet response : Packet} {entropy : ServerEntropy}
    {sessionSecret : Bytes}
    (h : acceptClientHello P packet privateKey peerKey entropy
      = .ok (response, sessionSecret)) :
    packet.messageType = .clientHello ∧ packet.sequenceNumber = 0 ∧
      packet.payload.length = helloPayloadSize ∧ packet.sessionId < 2 ^ 32 ∧
      ∃ staticSecret body, deriveSharedSecret P privateKey peerKey = .ok staticSecret ∧
        helloTag packet.payload = authenticationTag P staticSecret
          (clientTranscript packet.sessionId (helloBody packet.payload)) ∧
        body = P.x25519Public entropy.ephemeralPrivate ++ entropy.serverRandom ∧
        response = ⟨.serverHello, packet.sessionId, 0, body ++ authenticationTag P staticSecret
          (serverTranscript packet.sessionId packet.payload body)⟩ ∧
        deriveSessionSecret P entropy.ephemeralPrivate (packet.payload.take 32) privateKey
          peerKey packet.payload response.payload false = .ok sessionSecret := by
  unfold acceptClientHello at h
  simp only [except_bind_eq_ok] at h
  obtain ⟨⟨⟩, hvalid, staticSecret, hs, sessionIdBytes, hid, h⟩ := h
  obtain ⟨htype, hn, hlen⟩ := validateHello_ok hvalid
  obtain ⟨hlt, rfl⟩ := intToBytes_eq_ok hid
  split at h
  · cases h
  rename_i htag
  simp only [except_bind_eq_ok] at h
  obtain ⟨secret, hsecret, h⟩ := h
  obtain ⟨rfl, rfl⟩ := Prod.mk.inj (Except.ok.inj h)
  exact ⟨htype, hn, hlen, hlt, staticSecret, _, hs, not_not.1 htag, rfl, rfl, hsecret⟩

/-- What `finish_client_handshake` has checked when it returns, and what it returns. -/
theorem finishClientHandshake_ok {state : ClientHandshakeState} {response : Packet}
    {sessionSecret : Bytes}
    (h : finishClientHandshake P state response = .ok sessionSecret) :
    response.messageType = .serverHello ∧ response.sequenceNumber = 0 ∧
      response.payload.length = helloPayloadSize ∧ response.sessionId = state.sessionId ∧
      state.sessionId < 2 ^ 32 ∧
      ∃ staticSecret, deriveSharedSecret P state.staticPrivateKey state.peerStaticPublicKey
          = .ok staticSecret ∧
        helloTag response.payload = authenticationTag P staticSecret
          (serverTranscript state.sessionId state.clientHelloPayload
            (helloBody response.payload)) ∧
        deriveSessionSecret P state.ephemeralPrivateKey (response.payload.take 32)
          state.staticPrivateKey state.peerStaticPublicKey state.clientHelloPayload
          response.payload true = .ok sessionSecret := by
  unfold finishClientHandshake at h
  simp only [except_bind_eq_ok] at h
  obtain ⟨⟨⟩, hvalid, h⟩ := h
  obtain ⟨htype, hn, hlen⟩ := validateHello_ok hvalid
  split at h
  · cases h
  rename_i hsession
  simp only [except_bind_eq_ok] at h
  obtain ⟨staticSecret, hs, sessionIdBytes, hid, h⟩ := h
  obtain ⟨hlt, rfl⟩ := intToBytes_eq_ok hid
  split at h
  · cases h
  rename_i htag
  exact ⟨htype, hn, hlen, not_not.1 hsession, hlt, staticSecret, hs, not_not.1 htag, h⟩

/-! ## The session secret -/

theorem deriveSharedSecret_ok {secret : Bytes}
    (h : deriveSharedSecret P privateKey peerKey = .ok secret) :
    privateKey.length = x25519KeySize ∧ peerKey.length = x25519KeySize ∧
      P.x25519Exchange privateKey peerKey = some secret := by
  unfold deriveSharedSecret at h
  split at h
  · cases h
  rename_i hpriv
  split at h
  · cases h
  rename_i hpub
  cases hx : P.x25519Exchange privateKey peerKey with
  | none =>
      rw [hx] at h
      cases h
  | some s =>
      rw [hx] at h
      exact ⟨not_not.1 hpriv, not_not.1 hpub, congrArg some (Except.ok.inj h)⟩

/-- Both sides of an exchange get the same shared secret. -/
theorem deriveSharedSecret_comm (hX : P.LawfulX25519) {a b : Bytes}
    (ha : a.length = x25519KeySize) (hb : b.length = x25519KeySize) :
    deriveSharedSecret P a (P.x25519Public b) = deriveSharedSecret P b (P.x25519Public a) := by
  unfold deriveSharedSecret
  rw [if_neg (not_not.2 ha), if_neg (not_not.2 hb), hX.length_public, hX.length_public,
    hX.exchange_comm a b]

/-- **Both sides derive the same session secret** from the same hello payloads. -/
theorem deriveSessionSecret_comm (hX : P.LawfulX25519)
    {clientPrivate serverPrivate clientEphemeral serverEphemeral : Bytes}
    (hc : clientPrivate.length = x25519KeySize) (hs : serverPrivate.length = x25519KeySize)
    (hce : clientEphemeral.length = x25519KeySize)
    (hse : serverEphemeral.length = x25519KeySize) (clientHello serverHello : Bytes) :
    deriveSessionSecret P clientEphemeral (P.x25519Public serverEphemeral) clientPrivate
        (P.x25519Public serverPrivate) clientHello serverHello true
      = deriveSessionSecret P serverEphemeral (P.x25519Public clientEphemeral) serverPrivate
        (P.x25519Public clientPrivate) clientHello serverHello false := by
  unfold deriveSessionSecret
  simp only [if_true, Bool.false_eq_true, if_false]
  rw [deriveSharedSecret_comm hX hce hse, deriveSharedSecret_comm hX hce hs,
    deriveSharedSecret_comm hX hc hse, deriveSharedSecret_comm hX hc hs]

/-- A session secret has 32 bytes. -/
theorem length_of_deriveSessionSecret (hH : P.LawfulHkdf) {a b c d e f secret : Bytes}
    {localIsClient : Bool}
    (h : deriveSessionSecret P a b c d e f localIsClient = .ok secret) : secret.length = 32 := by
  unfold deriveSessionSecret at h
  cases localIsClient with
  | false =>
      simp only [Bool.false_eq_true, if_false, except_bind_eq_ok] at h
      obtain ⟨_, -, _, -, _, -, _, -, h⟩ := h
      rw [← Except.ok.inj h]
      exact hH.length_hkdf _ _ _ _
  | true =>
      simp only [if_true, except_bind_eq_ok] at h
      obtain ⟨_, -, _, -, _, -, _, -, h⟩ := h
      rw [← Except.ok.inj h]
      exact hH.length_hkdf _ _ _ _

/-! ## Errors -/

theorem validateHello_error {packet : Packet} {expectedType : MessageType} {e : PyError}
    (h : validateHello packet expectedType = .error e) : e.isValueError = true := by
  unfold validateHello at h
  split at h
  · rw [← Except.error.inj h]
    rfl
  split at h
  · rw [← Except.error.inj h]
    rfl
  · cases h

theorem deriveSharedSecret_error {e : PyError}
    (h : deriveSharedSecret P privateKey peerKey = .error e) : e.isValueError = true := by
  unfold deriveSharedSecret at h
  split at h
  · rw [← Except.error.inj h]
    rfl
  split at h
  · rw [← Except.error.inj h]
    rfl
  cases hx : P.x25519Exchange privateKey peerKey with
  | none =>
      rw [hx] at h
      rw [← Except.error.inj h]
      rfl
  | some s =>
      rw [hx] at h
      cases h

theorem deriveSessionSecret_error {a b c d e f : Bytes} {localIsClient : Bool} {error : PyError}
    (h : deriveSessionSecret P a b c d e f localIsClient = .error error) :
    error.isValueError = true := by
  unfold deriveSessionSecret at h
  cases localIsClient with
  | false =>
      simp only [Bool.false_eq_true, if_false, except_bind_eq_error] at h
      rcases h with h | ⟨_, -, h | ⟨_, -, h | ⟨_, -, h | ⟨_, -, h⟩⟩⟩⟩
      · exact deriveSharedSecret_error h
      · exact deriveSharedSecret_error h
      · exact deriveSharedSecret_error h
      · exact deriveSharedSecret_error h
      · cases h
  | true =>
      simp only [if_true, except_bind_eq_error] at h
      rcases h with h | ⟨_, -, h | ⟨_, -, h | ⟨_, -, h | ⟨_, -, h⟩⟩⟩⟩
      · exact deriveSharedSecret_error h
      · exact deriveSharedSecret_error h
      · exact deriveSharedSecret_error h
      · exact deriveSharedSecret_error h
      · cases h

/-- **A hello that is not accepted raises `ValueError`.** -/
theorem acceptClientHello_error {packet : Packet} {entropy : ServerEntropy} {e : PyError}
    (hs : packet.sessionId < 2 ^ 32)
    (h : acceptClientHello P packet privateKey peerKey entropy = .error e) :
    e.isValueError = true := by
  have hid : intToBytes packet.sessionId 4 = .ok (toBytes 4 packet.sessionId) :=
    intToBytes_of_lt (by omega)
  unfold acceptClientHello at h
  simp only [except_bind_eq_error] at h
  rcases h with h | ⟨_, -, h | ⟨staticSecret, -, h | ⟨_, -, h⟩⟩⟩
  · exact validateHello_error h
  · exact deriveSharedSecret_error h
  · rw [hid] at h
    cases h
  split at h
  · obtain rfl : .valueError "client handshake authentication failed" = e := Except.error.inj h
    rfl
  simp only [except_bind_eq_error] at h
  rcases h with h | ⟨_, -, h⟩
  · exact deriveSessionSecret_error h
  · cases h

/-- The answer to a hello can be encoded. -/
theorem encodable_of_acceptClientHello (hM : P.LawfulHmac) (hX : P.LawfulX25519)
    {packet response : Packet} {entropy : ServerEntropy} {secret : Bytes}
    (h : acceptClientHello P packet privateKey peerKey entropy = .ok (response, secret)) :
    response.Encodable := by
  obtain ⟨-, -, -, hs, staticSecret, body, -, -, hbody, rfl, -⟩ := acceptClientHello_ok h
  refine ⟨hs, Nat.two_pow_pos 64, ?_⟩
  rw [List.length_append, hbody, List.length_append, hX.length_public,
    entropy.length_serverRandom, authenticationTag, hM.length_hmac]
  decide

end messages

/-! ## Handshakes that succeed -/

/-- No exchange with a generated public key has the all-zero result that `exchange` refuses. -/
def Primitives.NonzeroExchange (P : Primitives) : Prop :=
  ∀ a b : Bytes, a.length = x25519KeySize → b.length = x25519KeySize →
    (P.x25519Exchange a (P.x25519Public b)).isSome = true

section success

variable {P : Primitives} {clientPrivate serverPrivate : Bytes}

theorem deriveSharedSecret_returns (hX : P.LawfulX25519) (hN : P.NonzeroExchange) {a b : Bytes}
    (ha : a.length = x25519KeySize) (hb : b.length = x25519KeySize) :
    ∃ secret, deriveSharedSecret P a (P.x25519Public b) = .ok secret := by
  obtain ⟨secret, hsecret⟩ := Option.isSome_iff_exists.1 (hN a b ha hb)
  refine ⟨secret, ?_⟩
  unfold deriveSharedSecret
  rw [if_neg (not_not.2 ha), if_neg (not_not.2 (hX.length_public b)), hsecret]

/-- The server derives a session secret from generated keys. -/
theorem deriveSessionSecret_returns (hX : P.LawfulX25519) (hN : P.NonzeroExchange)
    {clientEphemeral serverEphemeral : Bytes} (hc : clientPrivate.length = x25519KeySize)
    (hs : serverPrivate.length = x25519KeySize)
    (hce : clientEphemeral.length = x25519KeySize)
    (hse : serverEphemeral.length = x25519KeySize) (clientHello serverHello : Bytes) :
    ∃ secret, deriveSessionSecret P serverEphemeral (P.x25519Public clientEphemeral)
      serverPrivate (P.x25519Public clientPrivate) clientHello serverHello false
        = .ok secret := by
  obtain ⟨ee, hee⟩ := deriveSharedSecret_returns hX hN hse hce
  obtain ⟨es, hes⟩ := deriveSharedSecret_returns hX hN hs hce
  obtain ⟨st, hst⟩ := deriveSharedSecret_returns hX hN hse hc
  obtain ⟨ss, hss⟩ := deriveSharedSecret_returns hX hN hs hc
  unfold deriveSessionSecret
  simp only [Bool.false_eq_true, if_false, hee, hes, hst, hss]
  exact ⟨_, rfl⟩

/-- A packet with the fields of a hello passes `_validate_hello`. -/
theorem validateHello_of_fields {packet : Packet} {expectedType : MessageType}
    (htype : packet.messageType = expectedType) (hn : packet.sequenceNumber = 0)
    (hlen : packet.payload.length = helloPayloadSize) :
    validateHello packet expectedType = .ok () := by
  unfold validateHello
  rw [if_neg (not_not.2 htype), if_neg]
  rw [not_or, not_not, not_not]
  exact ⟨hn, hlen⟩

/-- The payload of a hello has its fixed length. -/
theorem length_helloPayload (hM : P.LawfulHmac) (hX : P.LawfulX25519)
    {random : Bytes} (hrandom : random.length = randomSize) (ephemeral key transcript : Bytes) :
    ((P.x25519Public ephemeral ++ random) ++ authenticationTag P key transcript).length
      = helloPayloadSize := by
  rw [List.length_append, List.length_append, hX.length_public, hrandom, authenticationTag,
    hM.length_hmac]
  rfl

/-- A payload split off from its tag again. -/
theorem helloTag_append_tag (hM : P.LawfulHmac) (body key transcript : Bytes) :
    helloTag (body ++ authenticationTag P key transcript)
      = authenticationTag P key transcript := by
  rw [helloTag, List.length_append, authenticationTag, hM.length_hmac, authenticationTagSize,
    Nat.add_sub_cancel, List.drop_left]

/-- `create_client_hello` returns when the static keys have a shared secret. -/
theorem createClientHello_returns {privateKey peerKey static : Bytes}
    (hstatic : deriveSharedSecret P privateKey peerKey = .ok static) (entropy : ClientEntropy) :
    ∃ hello state, createClientHello P privateKey peerKey entropy = .ok (hello, state) := by
  have hid : intToBytes entropy.sessionId 4 = .ok (toBytes 4 entropy.sessionId) :=
    intToBytes_of_lt (lt_of_lt_of_le entropy.sessionId_lt (by decide))
  unfold createClientHello
  simp only [hstatic, hid]
  exact ⟨_, _, rfl⟩

/-- `accept_client_hello` returns when its checks pass and the secret can be derived. -/
theorem acceptClientHello_returns {privateKey peerKey static : Bytes} {packet : Packet}
    {entropy : ServerEntropy} (hvalid : validateHello packet .clientHello = .ok ())
    (hs : packet.sessionId < 2 ^ 32)
    (hstatic : deriveSharedSecret P privateKey peerKey = .ok static)
    (htag : helloTag packet.payload = authenticationTag P static
      (clientTranscript packet.sessionId (helloBody packet.payload)))
    (hderive : ∀ serverHello, ∃ secret, deriveSessionSecret P entropy.ephemeralPrivate
      (packet.payload.take 32) privateKey peerKey packet.payload serverHello false
        = .ok secret) :
    ∃ response secret,
      acceptClientHello P packet privateKey peerKey entropy = .ok (response, secret) := by
  have hid : intToBytes packet.sessionId 4 = .ok (toBytes 4 packet.sessionId) :=
    intToBytes_of_lt (by omega)
  have hpass : ¬ helloTag packet.payload ≠ authenticationTag P static
      (clientLabel ++ toBytes 4 packet.sessionId ++ helloBody packet.payload) := not_not.2 htag
  unfold acceptClientHello
  simp only [hvalid, hstatic, hid, except_bind_eq_ok, Except.ok.injEq, exists_eq_left',
    if_neg hpass, generateKeypair]
  obtain ⟨secret, hsecret⟩ := hderive (P.x25519Public entropy.ephemeralPrivate ++
    entropy.serverRandom ++ authenticationTag P static (serverLabel ++
      toBytes 4 packet.sessionId ++ packet.payload ++
        (P.x25519Public entropy.ephemeralPrivate ++ entropy.serverRandom)))
  exact ⟨_, secret, (), trivial, secret, hsecret, rfl⟩

/-- `finish_client_handshake` returns the derived secret when its checks pass. -/
theorem finishClientHandshake_returns {state : ClientHandshakeState} {response : Packet}
    {static secret : Bytes} (hvalid : validateHello response .serverHello = .ok ())
    (hsession : response.sessionId = state.sessionId) (hs : state.sessionId < 2 ^ 32)
    (hstatic : deriveSharedSecret P state.staticPrivateKey state.peerStaticPublicKey
      = .ok static)
    (htag : helloTag response.payload = authenticationTag P static
      (serverTranscript state.sessionId state.clientHelloPayload (helloBody response.payload)))
    (hderive : deriveSessionSecret P state.ephemeralPrivateKey (response.payload.take 32)
      state.staticPrivateKey state.peerStaticPublicKey state.clientHelloPayload
      response.payload true = .ok secret) :
    finishClientHandshake P state response = .ok secret := by
  have hid : intToBytes state.sessionId 4 = .ok (toBytes 4 state.sessionId) :=
    intToBytes_of_lt (by omega)
  have hpass : ¬ helloTag response.payload ≠ authenticationTag P static
      (serverLabel ++ toBytes 4 state.sessionId ++ state.clientHelloPayload ++
        helloBody response.payload) := not_not.2 htag
  unfold finishClientHandshake
  simp only [hvalid, hstatic, hid, except_bind_eq_ok, Except.ok.injEq, exists_eq_left',
    if_neg hpass, if_neg (not_not.2 hsession)]
  exact ⟨(), trivial, hderive⟩

/-- **A handshake succeeds.** With matching static keys the server accepts the hello of the
client, the client finishes with the response, and both return the same secret. -/
theorem handshake_succeeds (hM : P.LawfulHmac) (hX : P.LawfulX25519) (hN : P.NonzeroExchange)
    (hc : clientPrivate.length = x25519KeySize) (hs : serverPrivate.length = x25519KeySize)
    (clientEntropy : ClientEntropy) (serverEntropy : ServerEntropy) :
    ∃ hello state response secret,
      createClientHello P clientPrivate (P.x25519Public serverPrivate) clientEntropy
        = .ok (hello, state) ∧ hello.sessionId = clientEntropy.sessionId ∧
      acceptClientHello P hello serverPrivate (P.x25519Public clientPrivate) serverEntropy
        = .ok (response, secret) ∧
      finishClientHandshake P state response = .ok secret := by
  obtain ⟨static, hstatic⟩ := deriveSharedSecret_returns hX hN hs hc
  have hstatic' : deriveSharedSecret P clientPrivate (P.x25519Public serverPrivate)
      = .ok static := by
    rw [deriveSharedSecret_comm hX hc hs]
    exact hstatic
  -- the hello of the client
  obtain ⟨hello, state, hcreate⟩ := createClientHello_returns hstatic' clientEntropy
  obtain ⟨_, body, hstatic₁, hbody, hhello, hstate⟩ := createClientHello_ok hcreate
  obtain rfl := Except.ok.inj (hstatic'.symm.trans hstatic₁)
  have hpayload : hello.payload.length = helloPayloadSize := by
    rw [hhello, hbody]
    exact length_helloPayload hM hX clientEntropy.length_clientRandom _ _ _
  have hephemeral : hello.payload.take 32 = P.x25519Public clientEntropy.ephemeralPrivate := by
    rw [hhello, hbody, List.append_assoc]
    exact List.take_left' (hX.length_public _)
  have hsession : hello.sessionId = clientEntropy.sessionId := by rw [hhello]
  -- the response of the server
  have haccept : ∃ response secret, acceptClientHello P hello serverPrivate
      (P.x25519Public clientPrivate) serverEntropy = .ok (response, secret) := by
    refine acceptClientHello_returns (validateHello_of_fields (by rw [hhello]) (by rw [hhello])
      hpayload) (by rw [hsession]; exact clientEntropy.sessionId_lt) hstatic ?_ ?_
    · rw [hhello, helloTag_append_tag hM, helloBody_append_tag hM]
    · intro serverHello
      rw [hephemeral]
      exact deriveSessionSecret_returns hX hN hc hs clientEntropy.length_ephemeralPrivate
        serverEntropy.length_ephemeralPrivate _ _
  obtain ⟨response, secret, haccept⟩ := haccept
  refine ⟨hello, state, response, secret, hcreate, hsession, haccept, ?_⟩
  -- the secret of the client
  obtain ⟨-, -, -, -, _, body', hstatic₂, -, hbody', hresponse, hderive⟩ :=
    acceptClientHello_ok haccept
  obtain rfl := Except.ok.inj (hstatic.symm.trans hstatic₂)
  have hresponseLen : response.payload.length = helloPayloadSize := by
    rw [hresponse, hbody']
    exact length_helloPayload hM hX serverEntropy.length_serverRandom _ _ _
  have hserverKey : response.payload.take 32 = P.x25519Public serverEntropy.ephemeralPrivate := by
    rw [hresponse, hbody', List.append_assoc]
    exact List.take_left' (hX.length_public _)
  rw [hstate]
  refine finishClientHandshake_returns (validateHello_of_fields (by rw [hresponse])
    (by rw [hresponse]) hresponseLen) ?_ clientEntropy.sessionId_lt hstatic' ?_ ?_
  · rw [hresponse, hsession]
  · rw [hresponse, helloTag_append_tag hM, helloBody_append_tag hM, hsession]
  · rw [hserverKey, deriveSessionSecret_comm hX hc hs clientEntropy.length_ephemeralPrivate
      serverEntropy.length_ephemeralPrivate, ← hephemeral]
    exact hderive

end success

end MatfVpn
