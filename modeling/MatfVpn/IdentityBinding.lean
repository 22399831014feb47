/-
# The identity a hello is accepted for (`multi_server.ClientRegistry`)

`accept` takes the first configured identity whose authentication tag verifies.  The
constructor compares names and tunnel addresses but no public keys.

* `acceptClientHello_earlier_iff` : which identities verify the hello of a client;
* `registry_binds_identity_iff` : when the session is bound to the identity of the client.
-/
import MatfVpn.HelloReuse
import MatfVpn.ServerRun

namespace MatfVpn

open Program BigEndian

/-! ## The first identity that verifies -/

section first

variable {P : Primitives} {packet : Packet} {serverPrivateKey : Bytes}
  {entropy : ℕ → ServerEntropy}

/-- Identities that refuse the hello are skipped. -/
theorem acceptedBy_append {before : List ClientIdentity}
    (h : ∀ earlier ∈ before, ∀ e accepted,
      acceptClientHello P packet serverPrivateKey earlier.publicKey e ≠ .ok accepted)
    (i : ℕ) (rest : List ClientIdentity) :
    acceptedBy P packet serverPrivateKey entropy i (before ++ rest)
      = acceptedBy P packet serverPrivateKey entropy (i + before.length) rest := by
  induction before generalizing i with
  | nil => rfl
  | cons earlier before ih =>
      rw [List.cons_append, acceptedBy]
      cases haccept : acceptClientHello P packet serverPrivateKey earlier.publicKey (entropy i) with
      | ok accepted => exact absurd haccept (h earlier List.mem_cons_self _ accepted)
      | error e =>
          simp only
          rw [ih (fun earlier' hmem => h earlier' (List.mem_cons_of_mem _ hmem)),
            List.length_cons, show i + 1 + before.length = i + (before.length + 1) by omega]

/-- An identity that verifies the hello ends the search at it or before. -/
theorem acceptedBy_of_earlier {before : List ClientIdentity} {earlier : ClientIdentity}
    (hmem : earlier ∈ before)
    (h : ∀ e, ∃ response secret,
      acceptClientHello P packet serverPrivateKey earlier.publicKey e = .ok (response, secret))
    (i : ℕ) (rest : List ClientIdentity) :
    ∃ identity ∈ before, ∃ response secret,
      acceptedBy P packet serverPrivateKey entropy i (before ++ rest)
        = some (identity, response, secret) := by
  induction before generalizing i with
  | nil => cases hmem
  | cons identity before ih =>
      rw [List.cons_append, acceptedBy]
      cases haccept : acceptClientHello P packet serverPrivateKey identity.publicKey
          (entropy i) with
      | ok accepted => exact ⟨identity, List.mem_cons_self, accepted.1, accepted.2, rfl⟩
      | error e =>
          rcases List.mem_cons.1 hmem with rfl | hmem
          · obtain ⟨response, secret, hok⟩ := h (entropy i)
            rw [hok] at haccept
            cases haccept
          · obtain ⟨identity', hmem', hfound⟩ := ih hmem (i + 1)
            exact ⟨identity', List.mem_cons_of_mem _ hmem', hfound⟩

end first

/-! ## The hello of a client -/

/-- The tags of this hello under the shared secrets of the configured identities are
free of collisions: equal tags come from equal secrets. -/
def HelloTagsFree (P : Primitives) (serverPrivateKey : Bytes) (clients : List ClientIdentity)
    (hello : Packet) : Prop :=
  ∀ a ∈ clients, ∀ b ∈ clients, ∀ s s',
    deriveSharedSecret P serverPrivateKey a.publicKey = .ok s →
    deriveSharedSecret P serverPrivateKey b.publicKey = .ok s' →
    authenticationTag P s (clientTranscript hello.sessionId (helloBody hello.payload))
      = authenticationTag P s' (clientTranscript hello.sessionId (helloBody hello.payload)) →
    s = s'

section binding

variable {P : Primitives} {serverPrivateKey : Bytes} {clients : List ClientIdentity}

/-- What a created hello is: its fields, and its tag under the secret that the server derives
for the identity of the client. -/
structure IssuedFor (P : Primitives) (serverPrivateKey : Bytes) (identity : ClientIdentity)
    (hello : Packet) (ephemeralPrivate : Bytes) : Prop where
  encodable : hello.Encodable
  valid : validateHello hello .clientHello = .ok ()
  length_ephemeral : ephemeralPrivate.length = x25519KeySize
  ephemeral : hello.payload.take 32 = P.x25519Public ephemeralPrivate
  tag : ∃ static, deriveSharedSecret P serverPrivateKey identity.publicKey = .ok static ∧
    helloTag hello.payload = authenticationTag P static
      (clientTranscript hello.sessionId (helloBody hello.payload))

/-- The hello of a client with the private key of an identity. -/
theorem issuedFor_of_create (hM : P.LawfulHmac) (hX : P.LawfulX25519)
    (hs : serverPrivateKey.length = x25519KeySize) (identity : ClientIdentity)
    {privateKey : Bytes} (hkey : identity.publicKey = P.x25519Public privateKey)
    {entropy : ClientEntropy} {hello : Packet} {state : ClientHandshakeState}
    (hcreate : createClientHello P privateKey (P.x25519Public serverPrivateKey) entropy
      = .ok (hello, state)) :
    IssuedFor P serverPrivateKey identity hello entropy.ephemeralPrivate := by
  obtain ⟨static, body, hstatic, hbody, hhello, -⟩ := createClientHello_ok hcreate
  have hc := (deriveSharedSecret_ok hstatic).1
  have hlen : hello.payload.length = helloPayloadSize := by
    rw [hhello, hbody]
    exact length_helloPayload hM hX entropy.length_clientRandom _ _ _
  constructor
  · refine ⟨?_, ?_, ?_⟩
    · rw [hhello]
      exact entropy.sessionId_lt
    · rw [hhello]
      exact Nat.two_pow_pos 64
    · rw [hlen]
      decide
  · exact validateHello_of_fields (by rw [hhello]) (by rw [hhello]) hlen
  · exact entropy.length_ephemeralPrivate
  · rw [hhello, hbody, List.append_assoc]
    exact List.take_left' (hX.length_public _)
  · refine ⟨static, ?_, ?_⟩
    · rw [hkey, deriveSharedSecret_comm hX hs hc]
      exact hstatic
    · rw [hhello, helloTag_append_tag hM, helloBody_append_tag hM]

/-- **Which identities verify a hello.** An identity of the list verifies the hello of another
one exactly when both have the same shared secret with the server. -/
theorem acceptClientHello_earlier_iff (hX : P.LawfulX25519) (hN : P.NonzeroExchange)
    (hE : P.PeerDecidesExchange) {identity other : ClientIdentity} {hello : Packet}
    {ephemeralPrivate : Bytes}
    (hissued : IssuedFor P serverPrivateKey identity hello ephemeralPrivate)
    (hfree : HelloTagsFree P serverPrivateKey clients hello) (hmem : identity ∈ clients)
    (hother : other ∈ clients) (entropy : ServerEntropy) :
    (∃ response secret, acceptClientHello P hello serverPrivateKey other.publicKey entropy
        = .ok (response, secret)) ↔
      deriveSharedSecret P serverPrivateKey other.publicKey
        = deriveSharedSecret P serverPrivateKey identity.publicKey := by
  obtain ⟨static, hstatic, htag⟩ := hissued.tag
  have hs := (deriveSharedSecret_ok hstatic).1
  constructor
  · rintro ⟨response, secret, haccept⟩
    obtain ⟨-, -, -, -, static', -, hstatic', htag', -⟩ := acceptClientHello_ok haccept
    -- both tags are the tag of the hello
    have hsame : static' = static :=
      hfree other hother identity hmem static' static hstatic' hstatic (htag'.symm.trans htag)
    rw [hstatic', hstatic, hsame]
  · intro hsame
    have hstatic' : deriveSharedSecret P serverPrivateKey other.publicKey = .ok static := by
      rw [hsame, hstatic]
    refine acceptClientHello_returns hissued.valid hissued.encodable.1 hstatic' htag ?_
    intro serverHello
    rw [hissued.ephemeral]
    obtain ⟨ee, hee⟩ := deriveSharedSecret_returns hX hN entropy.length_ephemeralPrivate
      hissued.length_ephemeral
    obtain ⟨es, hes⟩ := deriveSharedSecret_returns hX hN hs hissued.length_ephemeral
    obtain ⟨se, hse⟩ := deriveSharedSecret_again hE hstatic' entropy.length_ephemeralPrivate
    unfold deriveSessionSecret
    simp only [Bool.false_eq_true, if_false, hee, hes, hse, hstatic']
    exact ⟨_, rfl⟩

/-- `accept` returned a new session for the identity: with its name and its tunnel address. -/
def BoundTo (identity : ClientIdentity) (r : Except PyError (Option AcceptedSession)) : Prop :=
  ∃ accepted, r = .ok (some accepted) ∧ accepted.isNew = true ∧
    accepted.identity.name = identity.name ∧
    accepted.identity.tunnelAddress = identity.tunnelAddress ∧
    accepted.session.tunnelAddress = identity.tunnelAddress

/-- A hello without a recorded answer that an identity verifies first is accepted for it. -/
theorem accept_of_acceptedBy (hH : P.LawfulHkdf) (registry : ClientRegistry) {hello : Packet}
    (hp : hello.Encodable) (htype : hello.messageType = .clientHello)
    (hunseen : registry.acceptedHellos.get? (fingerprint P hello) = none)
    (source : Address) {entropy : ℕ → ServerEntropy} {identity : ClientIdentity}
    {response : Packet} {secret : Bytes}
    (h : acceptedBy P hello registry.serverPrivateKey entropy 0 registry.clients
      = some (identity, response, secret)) :
    ∃ accepted, (ClientRegistry.accept P hello source entropy registry :
        Outcome PyError (ServerEffect Unit Acceptance) _ _).result = .ok (some accepted) ∧
      accepted.isNew = true ∧ accepted.identity = identity ∧
      accepted.session.tunnelAddress = identity.tunnelAddress := by
  have hreception : registry.reception P hello entropy = .fresh identity response secret := by
    rw [ClientRegistry.reception, if_neg (not_not.2 htype), hunseen, h]
  have hends := ClientRegistry.accept_spec hH hp source entropy registry (τ := Unit)
  rw [wp] at hends
  generalize (ClientRegistry.accept P hello source entropy registry :
    Outcome PyError (ServerEffect Unit Acceptance) _ _) = o at hends ⊢
  obtain ⟨r, registry', t⟩ := o
  simp only at hends ⊢
  cases hends with
  | unknown hunknown =>
      rw [hreception] at hunknown
      cases hunknown
  | cached accepted hcached =>
      rw [hreception] at hcached
      cases hcached
  | fresh identity' response' secret' cipher calls accepted hfresh hder haccepted =>
      rw [hreception] at hfresh
      obtain ⟨rfl, rfl, rfl⟩ := Reception.fresh.inj hfresh
      refine ⟨accepted, rfl, ?_, ?_, ?_⟩
      · rw [haccepted]
      · rw [haccepted]
      · rw [haccepted]
        rfl

/-- The registry of a list that the constructor accepts. -/
theorem ClientRegistry.new_ok {packetsPerKey : ℕ} {new : ClientRegistry}
    (h : ClientRegistry.new serverPrivateKey clients packetsPerKey = .ok new) :
    new.serverPrivateKey = serverPrivateKey ∧ new.clients = clients ∧
      (clients.map ClientIdentity.name).Nodup := by
  unfold ClientRegistry.new at h
  split at h
  · cases h
  rename_i hnames
  split at h
  · cases h
  obtain rfl := Except.ok.inj h
  exact ⟨rfl, rfl, not_not.1 hnames⟩

/-- **When the registry binds a client to its identity.** For every server key and every list
that the constructor accepts: a hello that the client of an identity created, and that has no
recorded answer, gives a new session with the name and the tunnel address of this identity
exactly when no identity earlier in the list has the same shared secret with the server. -/
theorem registry_binds_identity_iff (hH : P.LawfulHkdf) (hM : P.LawfulHmac)
    (hX : P.LawfulX25519) (hN : P.NonzeroExchange) (hE : P.PeerDecidesExchange)
    (hs : serverPrivateKey.length = x25519KeySize) {packetsPerKey : ℕ} {new : ClientRegistry}
    {before after : List ClientIdentity} {identity : ClientIdentity}
    (hnew : ClientRegistry.new serverPrivateKey (before ++ identity :: after) packetsPerKey
      = .ok new)
    {privateKey : Bytes} (hkey : identity.publicKey = P.x25519Public privateKey)
    {clientEntropy : ClientEntropy} {hello : Packet} {state : ClientHandshakeState}
    (hcreate : createClientHello P privateKey (P.x25519Public serverPrivateKey) clientEntropy
      = .ok (hello, state))
    (hfree : HelloTagsFree P serverPrivateKey (before ++ identity :: after) hello)
    {cache : OrderedDict Bytes AcceptedSession}
    (hunseen : cache.get? (fingerprint P hello) = none)
    (source : Address) (entropy : ℕ → ServerEntropy) :
    BoundTo identity (ClientRegistry.accept P hello source entropy
        { new with acceptedHellos := cache } :
          Outcome PyError (ServerEffect Unit Acceptance) _ _).result ↔
      ∀ earlier ∈ before, deriveSharedSecret P serverPrivateKey earlier.publicKey
        ≠ deriveSharedSecret P serverPrivateKey identity.publicKey := by
  have hissued := issuedFor_of_create hM hX hs identity hkey hcreate
  have htype : hello.messageType = .clientHello := (validateHello_ok hissued.valid).1
  obtain ⟨hserver, hclients, hnames⟩ := ClientRegistry.new_ok hnew
  have hmem : identity ∈ before ++ identity :: after :=
    List.mem_append_right _ List.mem_cons_self
  -- an identity accepts the hello exactly when it shares the secret of the identity
  have hverifies : ∀ other ∈ before ++ identity :: after, ∀ e,
      (∃ response secret, acceptClientHello P hello serverPrivateKey other.publicKey e
        = .ok (response, secret)) ↔
      deriveSharedSecret P serverPrivateKey other.publicKey
        = deriveSharedSecret P serverPrivateKey identity.publicKey :=
    fun other hother => acceptClientHello_earlier_iff hX hN hE hissued hfree hmem hother
  by_cases hcaptured : ∃ earlier ∈ before, deriveSharedSecret P serverPrivateKey earlier.publicKey
      = deriveSharedSecret P serverPrivateKey identity.publicKey
  · -- an earlier identity takes the hello, under another name
    obtain ⟨earlier, hearlier, hsame⟩ := hcaptured
    obtain ⟨first, hfirst, response, secret, hfound⟩ : ∃ first ∈ before, ∃ response secret,
        acceptedBy P hello serverPrivateKey entropy 0 (before ++ identity :: after)
          = some (first, response, secret) :=
      acceptedBy_of_earlier hearlier
        (fun e => (hverifies earlier (List.mem_append_left _ hearlier) e).2 hsame) 0 _
    rw [← hclients, ← hserver] at hfound
    obtain ⟨accepted, hresult, -, hidentity, -⟩ := accept_of_acceptedBy hH
      { new with acceptedHellos := cache } hissued.encodable htype hunseen source hfound
    have hne : first.name ≠ identity.name := by
      rw [List.map_append, List.nodup_append] at hnames
      exact hnames.2.2 _ (List.mem_map_of_mem hfirst) _ (List.mem_map_of_mem List.mem_cons_self)
    constructor
    · rintro ⟨accepted', hresult', -, hname, -⟩
      rw [hresult] at hresult'
      rw [← Option.some.inj (Except.ok.inj hresult'), hidentity] at hname
      exact absurd hname hne
    · exact fun hnone => absurd hsame (hnone earlier hearlier)
  · -- the earlier identities refuse the hello
    have hnone : ∀ earlier ∈ before, deriveSharedSecret P serverPrivateKey earlier.publicKey
        ≠ deriveSharedSecret P serverPrivateKey identity.publicKey :=
      fun earlier hearlier hsame => hcaptured ⟨earlier, hearlier, hsame⟩
    refine iff_of_true ?_ hnone
    obtain ⟨response, secret, haccept⟩ :=
      (hverifies identity hmem (entropy before.length)).2 rfl
    have hfound : acceptedBy P hello new.serverPrivateKey entropy 0 new.clients
        = some (identity, response, secret) := by
      rw [hserver, hclients, acceptedBy_append, Nat.zero_add, acceptedBy, haccept]
      rintro earlier hearlier e ⟨response', secret'⟩ haccept'
      exact hnone earlier hearlier ((hverifies earlier (List.mem_append_left _ hearlier) e).1
        ⟨response', secret', haccept'⟩)
    obtain ⟨accepted, hresult, hisNew, hidentity, haddress⟩ := accept_of_acceptedBy hH
      { new with acceptedHellos := cache } hissued.encodable htype hunseen source hfound
    exact ⟨accepted, hresult, hisNew, by rw [hidentity], by rw [hidentity], haddress⟩

end binding

/-! ## Two sample lists -/

/-- The private key of the second sample client. -/
def sampleSecondPrivate : Bytes := toBytes 32 9999999

/-- The identity of the first sample client. -/
def sampleLaptop : ClientIdentity :=
  ⟨"laptop", .ofOctets 10 8 0 2, sample.x25519Public sampleKeys.clientPrivate⟩

/-- The identity of the second sample client, with a key of its own. -/
def sampleWorkstation : ClientIdentity :=
  ⟨"workstation", .ofOctets 10 8 0 3, sample.x25519Public sampleSecondPrivate⟩

/-- The identity of the second sample client, configured with the key of the first. -/
def sampleSharedKey : ClientIdentity :=
  ⟨"workstation", .ofOctets 10 8 0 3, sample.x25519Public sampleKeys.clientPrivate⟩

/-- The hello of the second sample client and the state it keeps. -/
def sampleWorkstationHello : Packet × ClientHandshakeState :=
  (createClientHello sample sampleSecondPrivate (sample.x25519Public sampleKeys.serverPrivate)
    sampleSecondEntropy).toOption.get (by decide +kernel)

/-- The constructor accepts two identities with one public key; the hello of the second is
accepted for the first. -/
theorem registry_takes_shared_key :
    ∃ registry, ClientRegistry.new sampleKeys.serverPrivate [sampleLaptop, sampleSharedKey] 0
        = .ok registry ∧
      sampleSharedKey.publicKey = sample.x25519Public sampleKeys.clientPrivate ∧
      createClientHello sample sampleKeys.clientPrivate
        (sample.x25519Public sampleKeys.serverPrivate) sampleClientEntropy
          = .ok (sampleHello, sampleState) ∧
      registry.acceptedHellos.get? (fingerprint sample sampleHello) = none ∧
      ¬ BoundTo sampleSharedKey (ClientRegistry.accept sample sampleHello (sampleSource 0)
        (fun _ => sampleServerEntropy) registry :
          Outcome PyError (ServerEffect Unit Acceptance) _ _).result := by
  refine ⟨_, rfl, rfl, createClientHello_sampleHello, rfl, ?_⟩
  have hfirst : (acceptClientHello sample sampleHello sampleKeys.serverPrivate
      sampleLaptop.publicKey sampleServerEntropy).toOption.isSome = true := by
    decide +kernel
  have hfound := eq_ok_get hfirst
  generalize (acceptClientHello sample sampleHello sampleKeys.serverPrivate
    sampleLaptop.publicKey sampleServerEntropy).toOption.get hfirst = answer at hfound
  have hissued := issuedFor_of_create sample_lawfulHmac sample_lawfulX25519
    (show sampleKeys.serverPrivate.length = x25519KeySize by decide) sampleSharedKey rfl
    createClientHello_sampleHello
  have haccepted : acceptedBy sample sampleHello sampleKeys.serverPrivate
      (fun _ => sampleServerEntropy) 0 [sampleLaptop, sampleSharedKey]
        = some (sampleLaptop, answer.1, answer.2) := by
    rw [acceptedBy, hfound]
  obtain ⟨accepted, hresult, -, hidentity, -⟩ := accept_of_acceptedBy sample_lawfulHkdf
    ⟨sampleKeys.serverPrivate, [sampleLaptop, sampleSharedKey], 0, .empty, by decide,
      by decide⟩ hissued.encodable (validateHello_ok hissued.valid).1 rfl (sampleSource 0)
    haccepted
  rintro ⟨accepted', hresult', -, hname, -⟩
  rw [hresult] at hresult'
  rw [← Option.some.inj (Except.ok.inj hresult'), hidentity] at hname
  revert hname
  decide

/-- Two identities with keys of their own. -/
theorem registry_binds_sample :
    BoundTo sampleWorkstation (ClientRegistry.accept sample sampleWorkstationHello.1
      (sampleSource 1) (fun _ => sampleServerEntropy)
      ⟨sampleKeys.serverPrivate, [sampleLaptop, sampleWorkstation], 0, .empty, by decide,
        by decide⟩ : Outcome PyError (ServerEffect Unit Acceptance) _ _).result := by
  have hcreate : createClientHello sample sampleSecondPrivate
      (sample.x25519Public sampleKeys.serverPrivate) sampleSecondEntropy
        = .ok (sampleWorkstationHello.1, sampleWorkstationHello.2) :=
    eq_ok_get (by decide +kernel)
  have hsecrets : (deriveSharedSecret sample sampleKeys.serverPrivate
        sampleLaptop.publicKey).toOption ≠ (deriveSharedSecret sample sampleKeys.serverPrivate
        sampleWorkstation.publicKey).toOption := by
    decide +kernel
  have htags : (deriveSharedSecret sample sampleKeys.serverPrivate
        sampleLaptop.publicKey).toOption.map (fun s => authenticationTag sample s
          (clientTranscript sampleWorkstationHello.1.sessionId
            (helloBody sampleWorkstationHello.1.payload)))
      ≠ (deriveSharedSecret sample sampleKeys.serverPrivate
        sampleWorkstation.publicKey).toOption.map (fun s => authenticationTag sample s
          (clientTranscript sampleWorkstationHello.1.sessionId
            (helloBody sampleWorkstationHello.1.payload))) := by
    decide +kernel
  have hnew : ClientRegistry.new sampleKeys.serverPrivate ([sampleLaptop] ++
      sampleWorkstation :: []) 0 = .ok ⟨sampleKeys.serverPrivate,
        [sampleLaptop, sampleWorkstation], 0, .empty, by decide, by decide⟩ := rfl
  have hN : sample.NonzeroExchange := fun _ _ _ _ => rfl
  have hE : sample.PeerDecidesExchange := fun _ _ _ _ _ => rfl
  have hkey : sampleWorkstation.publicKey = sample.x25519Public sampleSecondPrivate := rfl
  refine (registry_binds_identity_iff sample_lawfulHkdf sample_lawfulHmac sample_lawfulX25519
    hN hE (by decide) hnew hkey hcreate ?_ (OrderedDict.get?_empty _) (sampleSource 1)
    fun _ => sampleServerEntropy).2 ?_
  · intro a ha b hb s s' hs hs' htag
    simp only [List.cons_append, List.nil_append, List.mem_cons, List.not_mem_nil,
      or_false] at ha hb
    rcases ha with rfl | rfl
    · rcases hb with rfl | rfl
      · exact Except.ok.inj (hs.symm.trans hs')
      · rw [hs, hs'] at htags
        exact absurd (congrArg some htag) htags
    · rcases hb with rfl | rfl
      · rw [hs, hs'] at htags
        exact absurd (congrArg some htag.symm) htags
      · exact Except.ok.inj (hs.symm.trans hs')
  · intro earlier hmem hsame
    rw [List.mem_singleton.1 hmem] at hsame
    exact hsecrets (congrArg Except.toOption hsame)

end MatfVpn
