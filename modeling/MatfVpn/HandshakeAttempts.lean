/-
# Junk in front of a handshake

Both handshakes are loops over at most three receive calls, and a datagram that is rejected
uses up an attempt like a timeout does.

* `clientAttempts_eq_retry`, `serverAttempts_eq_retry` : the loops are loops of one attempt;
* `invalid_datagrams` : invalid datagrams in front of the message that completes a handshake
  change nothing as long as the attempts suffice, and end it with `TimeoutError` otherwise.
-/
import MatfVpn.EngineSpec
import MatfVpn.HandshakeAgreement
import MatfVpn.Lib.Retry

namespace MatfVpn

open Program BigEndian

/-! ## Attempts -/

section attempts

variable {τ σ : Type}

/-- One round of the loop of `run_client_handshake`, where `none` is its `continue`. -/
def clientAttempt (P : Primitives) (remoteAddress : Address) (hello : Packet)
    (state : ClientHandshakeState) (packetsPerKey : ℤ) (input : AttemptInput) :
    Program PyError (SessionEffect τ) σ (Option (ℤ × Cipher)) := do
  lift .effect (transportSend hello hello remoteAddress input.sendFailure)
  match ← attempt (lift .effect (transportReceive input.arrival)) with
  | .error e => if retriesReceive e then return none else raise e
  | .ok (response, sender) =>
      if sender ≠ remoteAddress then return none
      else
        match finishClientHandshake P state response with
        | .error e => if e.isValueError then return none else raise e
        | .ok sessionSecret => do
            emit (.derived ⟨state.sessionId, state.clientHelloPayload, response.payload,
              sessionSecret⟩)
            let cipher ← sessionCipher P sessionSecret state.sessionId .client packetsPerKey
            return some (state.sessionId, cipher)

/-- One round of the loop of `run_server_handshake`, where `none` is its `continue`. -/
def serverAttempt (P : Primitives) (remoteAddress : Address)
    (staticPrivateKey peerStaticPublicKey : Bytes) (packetsPerKey : ℤ) (input : AttemptInput) :
    Program PyError (SessionEffect τ) σ (Option (ℤ × Cipher)) := do
  match ← attempt (lift .effect (transportReceive input.arrival)) with
  | .error e => if retriesReceive e then return none else raise e
  | .ok (hello, sender) =>
      if sender ≠ remoteAddress then return none
      else
        match acceptClientHello P hello staticPrivateKey peerStaticPublicKey input.entropy with
        | .error e => if e.isValueError then return none else raise e
        | .ok (response, sessionSecret) => do
            emit (.derived ⟨hello.sessionId, hello.payload, response.payload, sessionSecret⟩)
            lift .effect (transportSend response response remoteAddress input.sendFailure)
            let cipher ← sessionCipher P sessionSecret hello.sessionId .server packetsPerKey
            return some (hello.sessionId, cipher)

/-- The loop of `run_client_handshake` repeats one attempt. -/
theorem clientAttempts_eq_retry (P : Primitives) (remoteAddress : Address) (hello : Packet)
    (state : ClientHandshakeState) (packetsPerKey : ℤ) (input : ℕ → AttemptInput)
    (attempts i : ℕ) :
    (clientAttempts P remoteAddress hello state packetsPerKey input attempts i :
      Program PyError (SessionEffect τ) σ _)
      = retry (.timeoutError "authenticated server handshake timed out")
          (clientAttempt P remoteAddress hello state packetsPerKey) input attempts i := by
  induction attempts generalizing i with
  | zero => rfl
  | succ attempts ih =>
      rw [clientAttempts, retry, clientAttempt, bind_assoc, ih]
      congr 1
      funext _
      rw [bind_assoc]
      congr 1
      funext r
      rcases r with e | ⟨response, sender⟩
      · by_cases h : retriesReceive e = true
        · simp only [if_pos h]
          rfl
        · simp only [if_neg h]
          rfl
      by_cases hsender : sender ≠ remoteAddress
      · simp only [if_pos hsender]
        rfl
      simp only [if_neg hsender]
      rcases finishClientHandshake P state response with e | secret
      · by_cases h : e.isValueError = true
        · simp only [if_pos h]
          rfl
        · simp only [if_neg h]
          rfl
      · simp only [bind_assoc]
        rfl

/-- The loop of `run_server_handshake` repeats one attempt. -/
theorem serverAttempts_eq_retry (P : Primitives) (remoteAddress : Address)
    (privateKey peerKey : Bytes) (packetsPerKey : ℤ) (input : ℕ → AttemptInput)
    (attempts i : ℕ) :
    (serverAttempts P remoteAddress privateKey peerKey packetsPerKey input attempts i :
      Program PyError (SessionEffect τ) σ _)
      = retry (.timeoutError "authenticated client handshake timed out")
          (serverAttempt P remoteAddress privateKey peerKey packetsPerKey) input attempts i := by
  induction attempts generalizing i with
  | zero => rfl
  | succ attempts ih =>
      rw [serverAttempts, retry, serverAttempt, bind_assoc, ih]
      congr 1
      funext r
      rcases r with e | ⟨hello, sender⟩
      · by_cases h : retriesReceive e = true
        · simp only [if_pos h]
          rfl
        · simp only [if_neg h]
          rfl
      by_cases hsender : sender ≠ remoteAddress
      · simp only [if_pos hsender]
        rfl
      simp only [if_neg hsender]
      rcases acceptClientHello P hello privateKey peerKey (input i).entropy with e | accepted
      · by_cases h : e.isValueError = true
        · simp only [if_pos h]
          rfl
        · simp only [if_neg h]
          rfl
      · simp only [bind_assoc]
        rfl

end attempts

/-! ## Invalid datagrams -/

/-- A handshake cannot use the datagram: it is no packet, comes from another address, or is
refused as the message of the peer. -/
def Rejected {α : Type} (remoteAddress : Address) (check : Packet → Except PyError α)
    (datagram : Bytes) (source : Address) : Prop :=
  ∀ packet, Packet.decode (datagram.take maxUdpDatagramSize) = .ok packet →
    source = remoteAddress → ∃ e, check packet = .error e

/-- An attempt of the client that receives an invalid datagram. -/
def InvalidAtClient (P : Primitives) (remoteAddress : Address) (state : ClientHandshakeState)
    (input : AttemptInput) : Prop :=
  input.sendFailure = none ∧ ∃ datagram source, input.arrival = .ok (datagram, source) ∧
    Rejected remoteAddress (finishClientHandshake P state) datagram source

/-- An attempt of the server that receives an invalid datagram. -/
def InvalidAtServer (P : Primitives) (remoteAddress : Address) (privateKey peerKey : Bytes)
    (input : AttemptInput) : Prop :=
  ∃ datagram source, input.arrival = .ok (datagram, source) ∧
    Rejected remoteAddress (fun packet => acceptClientHello P packet privateKey peerKey
      input.entropy) datagram source

section invalid

variable {P : Primitives} {τ σ : Type} {remoteAddress : Address} {privateKey peerKey : Bytes}
  {packetsPerKey : ℤ} {s : σ}

/-- A SERVER_HELLO with the wrong type, session or tag is refused. -/
theorem finishClientHandshake_refuses {state : ClientHandshakeState} {response : Packet}
    (h : response.messageType ≠ .serverHello ∨ response.sessionId ≠ state.sessionId ∨
      ∀ static, deriveSharedSecret P state.staticPrivateKey state.peerStaticPublicKey
        = .ok static → helloTag response.payload ≠ authenticationTag P static
          (serverTranscript state.sessionId state.clientHelloPayload
            (helloBody response.payload))) :
    ∃ e, finishClientHandshake P state response = .error e := by
  rcases hfinish : finishClientHandshake P state response with e | secret
  · exact ⟨e, rfl⟩
  · obtain ⟨htype, -, -, hid, -, static, hstatic, htag, -⟩ := finishClientHandshake_ok hfinish
    rcases h with h | h | h
    · exact absurd htype h
    · exact absurd hid h
    · exact absurd htag (h static hstatic)

/-- A CLIENT_HELLO with the wrong type or tag is refused. -/
theorem acceptClientHello_refuses {packet : Packet} {entropy : ServerEntropy}
    (h : packet.messageType ≠ .clientHello ∨
      ∀ static, deriveSharedSecret P privateKey peerKey = .ok static →
        helloTag packet.payload ≠ authenticationTag P static
          (clientTranscript packet.sessionId (helloBody packet.payload))) :
    ∃ e, acceptClientHello P packet privateKey peerKey entropy = .error e := by
  rcases haccept : acceptClientHello P packet privateKey peerKey entropy with e | accepted
  · exact ⟨e, rfl⟩
  · obtain ⟨htype, -, -, -, static, _, hstatic, htag, -⟩ := acceptClientHello_ok haccept
    rcases h with h | h
    · exact absurd htype h
    · exact absurd htag (h static hstatic)

/-- A SERVER_HELLO that is not accepted raises `ValueError`. -/
theorem finishClientHandshake_error {state : ClientHandshakeState} {response : Packet}
    {e : PyError} (hs : state.sessionId < 2 ^ 32)
    (h : finishClientHandshake P state response = .error e) : e.isValueError = true := by
  have hid : intToBytes state.sessionId 4 = .ok (toBytes 4 state.sessionId) :=
    intToBytes_of_lt (by omega)
  unfold finishClientHandshake at h
  simp only [except_bind_eq_error] at h
  rcases h with h | ⟨_, -, h⟩
  · exact validateHello_error h
  split at h
  · obtain rfl : .valueError "server handshake session does not match" = e := Except.error.inj h
    rfl
  simp only [except_bind_eq_error] at h
  rcases h with h | ⟨_, -, h | ⟨_, -, h⟩⟩
  · exact deriveSharedSecret_error h
  · rw [hid] at h
    cases h
  split at h
  · obtain rfl : .valueError "server handshake authentication failed" = e := Except.error.inj h
    rfl
  · exact deriveSessionSecret_error h

/-- An attempt of the client with an invalid datagram passes. -/
theorem clientAttempt_passes {hello : Packet} {state : ClientHandshakeState} {input : AttemptInput}
    (hhello : ∃ data, hello.encode = .ok data) (hs : state.sessionId < 2 ^ 32)
    (h : InvalidAtClient P remoteAddress state input) :
    Passes (clientAttempt P remoteAddress hello state packetsPerKey :
      AttemptInput → Program PyError (SessionEffect τ) σ _) s input := by
  obtain ⟨data, hdata⟩ := hhello
  obtain ⟨hsend, datagram, source, harrival, hrejected⟩ := h
  suffices hpass : wp (clientAttempt P remoteAddress hello state packetsPerKey input :
      Program PyError (SessionEffect τ) σ _) s fun r s' _ => r = .ok none ∧ s' = s from hpass
  unfold clientAttempt
  rw [wp_bind, wp_lift, wp, hsend, transportSend_of_encode hdata]
  simp only
  rw [wp_bind, wp_attempt, wp_lift, harrival]
  refine wp_mono (transportReceive_spec datagram source s) ?_
  rintro r s' t ⟨rfl, -, rfl⟩
  rcases hdecode : Packet.decode (datagram.take maxUdpDatagramSize) with e | response
  · obtain ⟨message, rfl⟩ := Packet.decode_error hdecode
    exact ⟨rfl, rfl⟩
  show wp (if source ≠ remoteAddress then _ else _) s' _
  by_cases hsource : source ≠ remoteAddress
  · rw [if_pos hsource]
    exact ⟨rfl, rfl⟩
  rw [if_neg hsource]
  obtain ⟨e, he⟩ := hrejected response hdecode (not_not.1 hsource)
  simp only [he, if_pos (finishClientHandshake_error hs he)]
  exact ⟨rfl, rfl⟩

/-- An attempt of the server with an invalid datagram passes. -/
theorem serverAttempt_passes {input : AttemptInput}
    (h : InvalidAtServer P remoteAddress privateKey peerKey input) :
    Passes (serverAttempt P remoteAddress privateKey peerKey packetsPerKey :
      AttemptInput → Program PyError (SessionEffect τ) σ _) s input := by
  obtain ⟨datagram, source, harrival, hrejected⟩ := h
  suffices hpass : wp (serverAttempt P remoteAddress privateKey peerKey packetsPerKey input :
      Program PyError (SessionEffect τ) σ _) s fun r s' _ => r = .ok none ∧ s' = s from hpass
  unfold serverAttempt
  rw [wp_bind, wp_attempt, wp_lift, harrival]
  refine wp_mono (transportReceive_spec datagram source s) ?_
  rintro r s' t ⟨rfl, -, rfl⟩
  rcases hdecode : Packet.decode (datagram.take maxUdpDatagramSize) with e | hello
  · obtain ⟨message, rfl⟩ := Packet.decode_error hdecode
    exact ⟨rfl, rfl⟩
  show wp (if source ≠ remoteAddress then _ else _) s' _
  by_cases hsource : source ≠ remoteAddress
  · rw [if_pos hsource]
    exact ⟨rfl, rfl⟩
  rw [if_neg hsource]
  obtain ⟨e, he⟩ := hrejected hello hdecode (not_not.1 hsource)
  have hid := (Packet.encodable_of_decode (List.length_take_le _ _) hdecode).1
  simp only [he, if_pos (acceptClientHello_error hid he)]
  exact ⟨rfl, rfl⟩

/-- A hello that was sent can be encoded. -/
theorem encode_of_clientAttempt {hello : Packet} {state : ClientHandshakeState}
    {input : AttemptInput} {a : Option (ℤ × Cipher)}
    (h : ((clientAttempt P remoteAddress hello state packetsPerKey input :
      Program PyError (SessionEffect τ) σ _) s).result = .ok a) :
    ∃ data, hello.encode = .ok data := by
  rcases hdata : hello.encode with e | data
  · have hraise : (lift SessionEffect.effect (transportSend hello hello remoteAddress
        input.sendFailure : Program PyError (Effect τ) σ Unit) s).result = .error e := by
      rw [transportSend, hdata]
      rfl
    obtain ⟨b, s₁, t₁, hsend, -⟩ := result_bind_eq_ok.1 h
    rw [hsend] at hraise
    cases hraise
  · exact ⟨data, rfl⟩

end invalid

/-! ## Both handshakes -/

/-- **Invalid datagrams in front of the message that completes a handshake.** When the message
of the peer arrives in attempt `k` and completes the handshake, it still does with more invalid
datagrams before it as long as the attempts suffice for all; otherwise the call times out. -/
theorem invalid_datagrams {P : Primitives} {τ σ : Type} (s : σ) (remoteAddress : Address)
    (privateKey peerKey : Bytes) (packetsPerKey : ℤ) (attempts : ℕ) {k i : ℕ} (hk : k < attempts)
    (hi : i ≤ k) (input : ℕ → AttemptInput) (more : List AttemptInput) (session : ℤ × Cipher) :
    (∀ entropy hello state,
      createClientHello P privateKey peerKey entropy = .ok (hello, state) →
      ReturnsAt (clientAttempt P remoteAddress hello state packetsPerKey :
        AttemptInput → Program PyError (SessionEffect τ) σ _) s input k session →
      (∀ x ∈ more, InvalidAtClient P remoteAddress state x) →
      (runClientHandshake P remoteAddress privateKey peerKey attempts packetsPerKey entropy
        input s : Outcome PyError (SessionEffect τ) σ _).result = .ok session ∧
      (runClientHandshake P remoteAddress privateKey peerKey attempts packetsPerKey entropy
        (insertAt i more input) s : Outcome PyError (SessionEffect τ) σ _).result
          = if k + more.length < attempts then .ok session
            else .error (.timeoutError "authenticated server handshake timed out")) ∧
    (ReturnsAt (serverAttempt P remoteAddress privateKey peerKey packetsPerKey :
        AttemptInput → Program PyError (SessionEffect τ) σ _) s input k session →
      (∀ x ∈ more, InvalidAtServer P remoteAddress privateKey peerKey x) →
      (runServerHandshake P remoteAddress privateKey peerKey attempts packetsPerKey
        input s : Outcome PyError (SessionEffect τ) σ _).result = .ok session ∧
      (runServerHandshake P remoteAddress privateKey peerKey attempts packetsPerKey
        (insertAt i more input) s : Outcome PyError (SessionEffect τ) σ _).result
          = if k + more.length < attempts then .ok session
            else .error (.timeoutError "authenticated client handshake timed out")) := by
  -- both loops retry their attempts, and an invalid datagram passes in each
  constructor
  · intro entropy hello state hcreate hreturns hmore
    have hhello := encode_of_clientAttempt hreturns.returns
    have hs : state.sessionId < 2 ^ 32 := by
      obtain ⟨_, _, -, -, -, hstate⟩ := createClientHello_ok hcreate
      rw [hstate]
      exact entropy.sessionId_lt
    have hmore' := hreturns.insertAt hi fun x hx => clientAttempt_passes hhello hs (hmore x hx)
    constructor
    · rw [runClientHandshake, hcreate]
      show (clientAttempts P remoteAddress hello state packetsPerKey input attempts 0 s).result = _
      rw [clientAttempts_eq_retry, hreturns.result_eq, if_pos hk]
    · rw [runClientHandshake, hcreate]
      show (clientAttempts P remoteAddress hello state packetsPerKey _ attempts 0 s).result = _
      rw [clientAttempts_eq_retry, hmore'.result_eq]
  · intro hreturns hmore
    have hmore' := hreturns.insertAt hi fun x hx => serverAttempt_passes (hmore x hx)
    constructor
    · rw [runServerHandshake, serverAttempts_eq_retry, hreturns.result_eq, if_pos hk]
    · rw [runServerHandshake, serverAttempts_eq_retry, hmore'.result_eq]

/-! ## More datagrams than attempts -/

/-- The address of the peer. -/
def samplePeer : Address := ⟨.ofOctets 192 0 2 1, 51820⟩

/-- The attempt in which the message arrives. -/
def sampleReceives (message : Packet) : AttemptInput :=
  ⟨none, message.encode.map fun data => (data, samplePeer), sampleServerEntropy⟩

/-- An attempt in which a datagram arrives that is no packet. -/
def sampleJunk : AttemptInput := ⟨none, .ok ([], samplePeer), sampleServerEntropy⟩

/-- The client's handshake, with the messages that arrive. -/
def sampleClientRun (input : ℕ → AttemptInput) :
    Outcome PyError (SessionEffect ℕ) Unit (ℤ × Cipher) :=
  runClientHandshake sample samplePeer sampleKeys.clientPrivate
    (sample.x25519Public sampleKeys.serverPrivate) defaultHandshakeAttempts 0
    sampleClientEntropy input ()

/-- The server's handshake, with the messages that arrive. -/
def sampleServerRun (input : ℕ → AttemptInput) :
    Outcome PyError (SessionEffect ℕ) Unit (ℤ × Cipher) :=
  runServerHandshake sample samplePeer sampleKeys.serverPrivate
    (sample.x25519Public sampleKeys.clientPrivate) defaultHandshakeAttempts 0 input ()

theorem sampleJunk_rejected {α : Type} (check : Packet → Except PyError α) :
    Rejected samplePeer check [] samplePeer := by
  intro packet h
  cases h

/-- **Three invalid datagrams end a handshake** that the next message would have completed. -/
theorem handshake_ended_by_junk :
    (∀ state, InvalidAtClient sample samplePeer state sampleJunk) ∧
    (sampleClientRun fun _ => sampleReceives sampleResponse).result.toOption.isSome = true ∧
    (sampleClientRun (insertAt 0 (List.replicate 3 sampleJunk)
      fun _ => sampleReceives sampleResponse)).result.toOption.isSome = false ∧
    InvalidAtServer sample samplePeer sampleKeys.serverPrivate
      (sample.x25519Public sampleKeys.clientPrivate) sampleJunk ∧
    (sampleServerRun fun _ => sampleReceives sampleHello).result.toOption.isSome = true ∧
    (sampleServerRun (insertAt 0 (List.replicate 3 sampleJunk)
      fun _ => sampleReceives sampleHello)).result.toOption.isSome = false := by
  refine ⟨fun state => ⟨rfl, [], samplePeer, rfl, sampleJunk_rejected _⟩, ?_, ?_,
    ⟨[], samplePeer, rfl, sampleJunk_rejected _⟩, ?_, ?_⟩
  · decide +kernel
  · decide +kernel
  · decide +kernel
  · decide +kernel

/-- The state of the sample client. -/
def sampleState : ClientHandshakeState := sampleCreated.2

theorem createClientHello_sampleHello :
    createClientHello sample sampleKeys.clientPrivate
      (sample.x25519Public sampleKeys.serverPrivate) sampleClientEntropy
        = .ok (sampleHello, sampleState) := (eq_ok_get (by decide +kernel)).trans rfl

/-- An attempt that returns has returned its session. -/
theorem returnsAt_zero {body : AttemptInput → Program PyError (SessionEffect ℕ) Unit
    (Option (ℤ × Cipher))} {input : ℕ → AttemptInput}
    (h : (body (input 0) ()).result.toOption.join.isSome = true) :
    ReturnsAt body () input 0 ((body (input 0) ()).result.toOption.join.get h) := by
  refine ⟨nofun, ?_⟩
  generalize (body (input 0) ()).result = r at h
  rcases r with e | a | a
  · cases h
  · cases h
  · rfl

theorem invalid_datagrams_sample :
    ∃ client server,
      ((sampleClientRun fun _ => sampleReceives sampleResponse).result = .ok client ∧
        (sampleClientRun (insertAt 0 (List.replicate 2 sampleJunk)
          fun _ => sampleReceives sampleResponse)).result = .ok client) ∧
      (sampleServerRun fun _ => sampleReceives sampleHello).result = .ok server ∧
        (sampleServerRun (insertAt 0 (List.replicate 2 sampleJunk)
          fun _ => sampleReceives sampleHello)).result = .ok server := by
  refine ⟨_, _, (invalid_datagrams () samplePeer _ _ 0 defaultHandshakeAttempts (by decide)
      (le_refl 0) _ _ _).1 _ _ _ createClientHello_sampleHello (returnsAt_zero ?_) ?_,
    (invalid_datagrams () samplePeer _ _ 0 defaultHandshakeAttempts (by decide)
      (le_refl 0) _ _ _).2 (returnsAt_zero ?_) ?_⟩
  · decide +kernel
  · intro x hx
    rw [List.eq_of_mem_replicate hx]
    exact ⟨rfl, [], samplePeer, rfl, sampleJunk_rejected _⟩
  · decide +kernel
  · intro x hx
    rw [List.eq_of_mem_replicate hx]
    exact ⟨[], samplePeer, rfl, sampleJunk_rejected _⟩

end MatfVpn
