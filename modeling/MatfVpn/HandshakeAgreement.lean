/-
# Agreement of the handshake

An honest client and an honest server run any number of handshakes; an attacker chooses
every packet that either of them processes.  A tag under their static secret verifies
only if one of the two issued it for the same transcript (`Unforgeable`).

* `handshake_agreement` : whatever is accepted or finished was created or answered by
  the other side, with the same session id, payloads and secret.
-/
import MatfVpn.HandshakeSpec
import MatfVpn.Lib.History
import MatfVpn.SamplePrimitives

namespace MatfVpn

open BigEndian History

/-! ## Runs -/

/-- The static private keys of the two honest parties. -/
structure StaticKeys where
  clientPrivate : Bytes
  serverPrivate : Bytes

/-- One call of a handshake function, on packets that the attacker chose.  The client
finishes any of the sessions it has created. -/
inductive HandshakeInput where
  | create (entropy : ClientEntropy)
  | accept (packet : Packet) (entropy : ServerEntropy)
  | finish (session : ℕ) (response : Packet)

/-- A call that returned. -/
inductive HandshakeEvent where
  | created (hello : Packet) (state : ClientHandshakeState)
  | accepted (hello response : Packet) (secret : Bytes)
  | finished (state : ClientHandshakeState) (response : Packet) (secret : Bytes)
  deriving DecidableEq

namespace HandshakeEvent

/-- The state that a call of `create_client_hello` returned. -/
def state? : HandshakeEvent → Option ClientHandshakeState
  | created _ state => some state
  | _ => none

/-- The transcript that the call issued a tag for. -/
def issued : HandshakeEvent → Option Bytes
  | created hello _ => some (clientTranscript hello.sessionId (helloBody hello.payload))
  | accepted hello response _ =>
      some (serverTranscript hello.sessionId hello.payload (helloBody response.payload))
  | finished .. => none

/-- The transcript that the call verified a tag for. -/
def verified : HandshakeEvent → Option Bytes
  | created .. => none
  | accepted hello _ _ => some (clientTranscript hello.sessionId (helloBody hello.payload))
  | finished state response _ =>
      some (serverTranscript state.sessionId state.clientHelloPayload
        (helloBody response.payload))

end HandshakeEvent

/-- The states that the client holds. -/
def clientStates (history : List HandshakeEvent) : List ClientHandshakeState :=
  history.filterMap HandshakeEvent.state?

/-- One call by its party; a call that raises leaves no event. -/
def handshakeStep (P : Primitives) (keys : StaticKeys) (history : List HandshakeEvent) :
    HandshakeInput → List HandshakeEvent
  | .create entropy =>
      match createClientHello P keys.clientPrivate (P.x25519Public keys.serverPrivate) entropy with
      | .error _ => history
      | .ok (hello, state) => history ++ [.created hello state]
  | .accept packet entropy =>
      match acceptClientHello P packet keys.serverPrivate (P.x25519Public keys.clientPrivate)
        entropy with
      | .error _ => history
      | .ok (response, secret) => history ++ [.accepted packet response secret]
  | .finish session response =>
      match (clientStates history)[session]? with
      | none => history
      | some state =>
          match finishClientHandshake P state response with
          | .error _ => history
          | .ok secret => history ++ [.finished state response secret]

/-- The calls that returned in a run. -/
def handshakeRun (P : Primitives) (keys : StaticKeys) (inputs : List HandshakeInput) :
    List HandshakeEvent := inputs.foldl (handshakeStep P keys) []

/-- **HMAC is unforgeable.** A tag verifies under the static secret of the two parties
only if one of them issued it before for the same transcript. -/
def Unforgeable (history : List HandshakeEvent) : Prop :=
  Each (fun before e => ∀ transcript ∈ e.verified, ∃ e' ∈ before, e'.issued = some transcript)
    history

instance (history : List HandshakeEvent) : Decidable (Unforgeable history) :=
  inferInstanceAs (Decidable (Each _ history))

/-- The other side took its part in a call that returned. -/
def Agreed (before : List HandshakeEvent) : HandshakeEvent → Prop
  | .created .. => True
  | .accepted hello _ _ => ∃ state, .created hello state ∈ before
  | .finished state response secret => ∃ hello, .accepted hello response secret ∈ before ∧
      hello.sessionId = state.sessionId ∧ hello.payload = state.clientHelloPayload

/-! ## Where the events come from -/

variable {P : Primitives} {keys : StaticKeys}

/-- An event is the return of a call with the static keys of its party. -/
def Produced (P : Primitives) (keys : StaticKeys) (before : List HandshakeEvent) :
    HandshakeEvent → Prop
  | .created hello state => ∃ entropy, createClientHello P keys.clientPrivate
      (P.x25519Public keys.serverPrivate) entropy = .ok (hello, state)
  | .accepted hello response secret => ∃ entropy, acceptClientHello P hello keys.serverPrivate
      (P.x25519Public keys.clientPrivate) entropy = .ok (response, secret)
  | .finished state response secret => (∃ hello, .created hello state ∈ before) ∧
      finishClientHandshake P state response = .ok secret

/-- A state that the client holds was created. -/
theorem created_of_mem_clientStates {history : List HandshakeEvent} {state : ClientHandshakeState}
    (h : state ∈ clientStates history) : ∃ hello, .created hello state ∈ history := by
  obtain ⟨e, he, hstate⟩ := List.mem_filterMap.1 h
  cases e with
  | created hello state' =>
      obtain rfl : state' = state := Option.some.inj hstate
      exact ⟨hello, he⟩
  | accepted hello response secret => cases hstate
  | finished state response secret => cases hstate

/-- A step adds at most one event, the return of a call. -/
theorem produced_step {history : List HandshakeEvent} (h : Each (Produced P keys) history)
    (input : HandshakeInput) : Each (Produced P keys) (handshakeStep P keys history input) := by
  cases input with
  | create entropy =>
      simp only [handshakeStep]
      split
      · exact h
      · rename_i hello state hcreate
        exact each_concat_iff.2 ⟨h, entropy, hcreate⟩
  | accept packet entropy =>
      simp only [handshakeStep]
      split
      · exact h
      · rename_i response secret haccept
        exact each_concat_iff.2 ⟨h, entropy, haccept⟩
  | finish session response =>
      simp only [handshakeStep]
      split
      · exact h
      rename_i state hstate
      split
      · exact h
      · rename_i secret hfinish
        exact each_concat_iff.2
          ⟨h, created_of_mem_clientStates (List.mem_of_getElem? hstate), hfinish⟩

/-- Every event of a run is the return of a call. -/
theorem produced_run (inputs : List HandshakeInput) :
    Each (Produced P keys) (handshakeRun P keys inputs) := by
  induction inputs using List.reverseRecOn with
  | nil => exact Each.nil
  | append_singleton inputs input ih =>
      rw [handshakeRun, List.foldl_concat]
      exact produced_step ih input

/-- An earlier event is the return of a call, too. -/
theorem produced_of_mem {before : List HandshakeEvent} {e : HandshakeEvent}
    (h : Each (Produced P keys) before) (he : e ∈ before) :
    ∃ earlier, (∀ e' ∈ earlier, e' ∈ before) ∧ Produced P keys earlier e := by
  obtain ⟨earlier, later, rfl⟩ := List.append_of_mem he
  exact ⟨earlier, fun e' he' => List.mem_append_left _ he', h.at⟩

/-! ## Agreement -/

/-- **A hello that is accepted was created.** -/
theorem accepted_agreed (hM : P.LawfulHmac) (hX : P.LawfulX25519)
    {before : List HandshakeEvent} (hbefore : Each (Produced P keys) before)
    {hello response : Packet} {secret : Bytes}
    (hproduced : Produced P keys before (.accepted hello response secret))
    {e : HandshakeEvent} (he : e ∈ before)
    (hissued : e.issued = some (clientTranscript hello.sessionId (helloBody hello.payload))) :
    ∃ state, .created hello state ∈ before := by
  obtain ⟨entropy, haccept⟩ := hproduced
  obtain ⟨htype, hn, -, hid, serverSecret, -, hserver, htag, -⟩ := acceptClientHello_ok haccept
  obtain ⟨earlier, -, hearlier⟩ := produced_of_mem hbefore he
  cases e with
  | finished state' response' secret' => cases hissued
  | accepted hello' response' secret' =>
      exact absurd (Option.some.inj hissued).symm (clientTranscript_ne_serverTranscript _ _ _ _ _)
  | created hello' state =>
      obtain ⟨entropy', hcreate⟩ := hearlier
      obtain ⟨clientSecret, body, hclient, -, rfl, -⟩ := createClientHello_ok hcreate
      -- the tags cover the session id and the body, and both sides compute them alike
      simp only [HandshakeEvent.issued, Option.some.injEq, helloBody_append_tag hM] at hissued
      obtain ⟨hsession, hbody⟩ := clientTranscript_inj entropy'.sessionId_lt hid hissued
      have hsecret : clientSecret = serverSecret := by
        have hlen := (deriveSharedSecret_ok hclient).1
        have hlen' := (deriveSharedSecret_ok hserver).1
        rw [deriveSharedSecret_comm hX hlen hlen', hserver] at hclient
        exact (Except.ok.inj hclient).symm
      refine ⟨state, ?_⟩
      have hhello : hello = ⟨.clientHello, entropy'.sessionId, 0, body ++ authenticationTag P
          clientSecret (clientTranscript entropy'.sessionId body)⟩ := by
        have hpayload := helloBody_append_helloTag hello.payload
        rw [htag, ← hbody, ← hsession, ← hsecret] at hpayload
        obtain ⟨t, s, n, payload⟩ := hello
        simp only at htype hn hsession hpayload ⊢
        rw [htype, hn, ← hsession, hpayload]
      rwa [hhello]

/-- **A handshake that is finished was answered**, and both sides have its secret. -/
theorem finished_agreed (hM : P.LawfulHmac) (hX : P.LawfulX25519)
    {before : List HandshakeEvent} (hbefore : Each (Produced P keys) before)
    {state : ClientHandshakeState} {response : Packet} {secret : Bytes}
    (hproduced : Produced P keys before (.finished state response secret))
    {e : HandshakeEvent} (he : e ∈ before)
    (hissued : e.issued = some (serverTranscript state.sessionId state.clientHelloPayload
      (helloBody response.payload))) :
    ∃ hello, .accepted hello response secret ∈ before ∧ hello.sessionId = state.sessionId ∧
      hello.payload = state.clientHelloPayload := by
  obtain ⟨⟨hello, hcreated⟩, hfinish⟩ := hproduced
  obtain ⟨htype, hn, hlen, hid, hidlt, clientSecret, hclient, htag, hderive⟩ :=
    finishClientHandshake_ok hfinish
  obtain ⟨earlier, -, hearlier⟩ := produced_of_mem hbefore he
  cases e with
  | finished state' response' secret' => cases hissued
  | created hello' state' =>
      exact absurd (Option.some.inj hissued) (clientTranscript_ne_serverTranscript _ _ _ _ _)
  | accepted hello' response' secret' =>
      obtain ⟨entropy', haccept⟩ := hearlier
      obtain ⟨-, -, -, hid', serverSecret, body, hserver, -, hbody, rfl, hderive'⟩ :=
        acceptClientHello_ok haccept
      obtain ⟨before', -, entropy, hcreate⟩ := produced_of_mem hbefore hcreated
      obtain ⟨_, clientBody, -, hclientBody, hhello, hstate⟩ := createClientHello_ok hcreate
      -- the transcript determines what the server answered and with which body
      simp only [HandshakeEvent.issued, Option.some.injEq, helloBody_append_tag hM] at hissued
      have hbodyLen : body.length = (helloBody response.payload).length := by
        rw [length_helloBody hlen, hbody, List.length_append, hX.length_public,
          entropy'.length_serverRandom]
        rfl
      obtain ⟨hsession, hpayload, hresponseBody⟩ :=
        serverTranscript_inj hid' hidlt hbodyLen hissued
      have hkeys : state.staticPrivateKey = keys.clientPrivate ∧
          state.peerStaticPublicKey = P.x25519Public keys.serverPrivate ∧
          state.ephemeralPrivateKey = entropy.ephemeralPrivate ∧
          state.clientHelloPayload = hello.payload := by
        rw [hstate]
        exact ⟨rfl, rfl, rfl, rfl⟩
      obtain ⟨hpriv, hpeer, heph, hclientPayload⟩ := hkeys
      rw [hpriv, hpeer] at hclient hderive
      have hclen := (deriveSharedSecret_ok hclient).1
      have hslen := (deriveSharedSecret_ok hserver).1
      obtain rfl : clientSecret = serverSecret := by
        rw [deriveSharedSecret_comm hX hclen hslen, hserver] at hclient
        exact (Except.ok.inj hclient).symm
      have hresponse : response = ⟨.serverHello, hello'.sessionId, 0, body ++ authenticationTag P
          clientSecret (serverTranscript hello'.sessionId hello'.payload body)⟩ := by
        have hsplit := helloBody_append_helloTag response.payload
        rw [htag, ← hresponseBody, ← hsession, ← hpayload] at hsplit
        obtain ⟨t, s, n, payload⟩ := response
        simp only at htype hn hid hsplit ⊢
        rw [htype, hn, hid, ← hsession, hsplit]
      -- both sides derive the session secret from the same payloads
      have hserverKey : response.payload.take 32 = P.x25519Public entropy'.ephemeralPrivate := by
        rw [hresponse, hbody, List.append_assoc]
        exact List.take_left' (hX.length_public _)
      have hclientKey : hello'.payload.take 32 = P.x25519Public entropy.ephemeralPrivate := by
        rw [hpayload, hclientPayload, hhello, hclientBody, List.append_assoc]
        exact List.take_left' (hX.length_public _)
      rw [heph, hserverKey, deriveSessionSecret_comm hX hclen hslen
        entropy.length_ephemeralPrivate entropy'.length_ephemeralPrivate, ← hclientKey,
        ← hpayload, hresponse, hderive'] at hderive
      refine ⟨hello', ?_, hsession, hpayload⟩
      rw [hresponse, ← Except.ok.inj hderive]
      exact he

/-- **Agreement.** In every run, whenever the server accepts a CLIENT_HELLO the client
created exactly this packet, and whenever the client finishes a handshake the server
accepted its hello, sent exactly this response and derived the same secret. -/
theorem handshake_agreement (hM : P.LawfulHmac) (hX : P.LawfulX25519)
    (inputs : List HandshakeInput) (hunforgeable : Unforgeable (handshakeRun P keys inputs)) :
    Each Agreed (handshakeRun P keys inputs) := by
  intro before e after hrun
  have hproduced : Each (Produced P keys) _ := produced_run inputs
  rw [hrun] at hproduced hunforgeable
  have hbefore := hproduced.of_append
  cases e with
  | created hello state => trivial
  | accepted hello response secret =>
      obtain ⟨e, he, hissued⟩ := hunforgeable.at _ rfl
      exact accepted_agreed hM hX hbefore hproduced.at he hissued
  | finished state response secret =>
      obtain ⟨e, he, hissued⟩ := hunforgeable.at _ rfl
      exact finished_agreed hM hX hbefore hproduced.at he hissued

/-! ## A sample run -/

/-- The static keys of the sample parties. -/
def sampleKeys : StaticKeys := ⟨toBytes 32 1234567, toBytes 32 7654321⟩

/-- What the sample client draws. -/
def sampleClientEntropy : ClientEntropy :=
  ⟨7, toBytes 32 1111, toBytes 32 2222, by decide, length_toBytes _ _, length_toBytes _ _⟩

/-- What the sample server draws. -/
def sampleServerEntropy : ServerEntropy :=
  ⟨toBytes 32 3333, toBytes 32 4444, length_toBytes _ _, length_toBytes _ _⟩

/-- The hello of the sample client, with what the client keeps. -/
def sampleCreated : Packet × ClientHandshakeState :=
  (createClientHello sample sampleKeys.clientPrivate
    (sample.x25519Public sampleKeys.serverPrivate) sampleClientEntropy).toOption.get
      (by decide +kernel)

/-- The hello of the sample client. -/
def sampleHello : Packet := sampleCreated.1

/-- The answer of the sample server, with the session secret. -/
def sampleAnswered : Packet × Bytes :=
  (acceptClientHello sample sampleHello sampleKeys.serverPrivate
    (sample.x25519Public sampleKeys.clientPrivate) sampleServerEntropy).toOption.get
      (by decide +kernel)

/-- The answer of the sample server. -/
def sampleResponse : Packet := sampleAnswered.1

/-- A handshake with an attacker who moves the hello to another session, reflects it to
the client and alters the answer, before the genuine packets arrive. -/
def sampleHandshake : List HandshakeInput :=
  [.create sampleClientEntropy, .accept { sampleHello with sessionId := 8 } sampleServerEntropy,
    .finish 0 { sampleHello with messageType := .serverHello },
    .accept sampleHello sampleServerEntropy,
    .finish 0 { sampleResponse with payload := 0 :: sampleResponse.payload.tail },
    .finish 0 sampleResponse]

theorem handshake_agreement_sample :
    (handshakeRun sample sampleKeys sampleHandshake).length = 3 ∧
      Each Agreed (handshakeRun sample sampleKeys sampleHandshake) :=
  ⟨by decide +kernel, handshake_agreement sample_lawfulHmac sample_lawfulX25519 sampleHandshake
    (by decide +kernel)⟩

end MatfVpn
