/-
# The keys and nonces of two endpoints with ephemeral handshakes

Two endpoints, each with any number of sessions.  The key of a packet determines the
endpoint and the session secret (`sendKey_inj`), and its nonce the number of the packet.

* `ephemeral_nonces_distinct` : no key is used with a nonce twice.
-/
import MatfVpn.EndpointSessions
import MatfVpn.HandshakeAgreement
import MatfVpn.TunnelDelivery

namespace MatfVpn

open Program

/-! ## Keys of different sessions -/

/-- A block of 32 bytes of an HKDF output. -/
def hkdfBlock (P : Primitives) (call : HkdfCall) (i : ℕ) : Bytes :=
  ((P.hkdf call.length call.salt call.info call.secret).drop (32 * i)).take 32

/-- **HKDF is collision-free** on the derivations in a log: equal blocks come from the same
input, salt and info and have the same position. -/
def CollisionFree (P : Primitives) (log : List HkdfCall) : Prop :=
  ∀ a ∈ log, ∀ b ∈ log, ∀ i < a.length / 32, ∀ j < b.length / 32,
    hkdfBlock P a i = hkdfBlock P b j →
      a.secret = b.secret ∧ a.salt = b.salt ∧ a.info = b.info ∧ i = j

instance (P : Primitives) (log : List HkdfCall) : Decidable (CollisionFree P log) :=
  inferInstanceAs (Decidable (∀ a ∈ log, ∀ b ∈ log, ∀ i < _, ∀ j < _, _ → _))

/-- **Distinct transcripts give distinct session secrets.** -/
def DistinctTranscripts (l : List Derivation) : Prop :=
  ∀ d ∈ l, ∀ d' ∈ l, d.secret = d'.secret →
    d.clientHello = d'.clientHello ∧ d.serverHello = d'.serverHello

instance (l : List Derivation) : Decidable (DistinctTranscripts l) :=
  inferInstanceAs (Decidable (∀ d ∈ l, ∀ d' ∈ l, _ → _))

section keys

variable {P : Primitives} {log : List HkdfCall}

/-- The position of the key of an endpoint among the directional keys. -/
def keyPosition : EndpointRole → ℕ
  | .client => 0
  | .server => 1

/-- A directional key is a block of its derivation. -/
theorem directionalKey_eq_block (hH : P.LawfulHkdf) (secret : Bytes) (sessionId : ℕ)
    (role : EndpointRole) :
    directionalKey P secret sessionId role
      = hkdfBlock P (directionalCall secret sessionId) (keyPosition role) := by
  cases role with
  | client => rfl
  | server =>
      symm
      refine List.take_of_length_le ?_
      rw [List.length_drop, hH.length_hkdf]
      show 2 * aesKeySize - 32 * 1 ≤ 32
      decide

/-- The secret of an epoch is a block of its derivation. -/
theorem epochSecret_eq_block (hH : P.LawfulHkdf) (secret : Bytes) (sessionId : ℕ)
    {packetsPerKey : ℕ} (h : packetsPerKey ≠ 0) (n : ℕ) :
    epochSecret P secret sessionId packetsPerKey n
      = hkdfBlock P (epochCall secret sessionId (n / packetsPerKey)) 0 := by
  rw [epochSecret, if_neg h]
  symm
  refine List.take_of_length_le ?_
  rw [List.length_drop, hH.length_hkdf]
  show 32 - 32 * 0 ≤ 32
  decide

/-- The derivation of the directional keys is behind every key. -/
theorem directionalCall_mem (P : Primitives) (secret : Bytes) (sessionId packetsPerKey n : ℕ) :
    directionalCall (epochSecret P secret sessionId packetsPerKey n) sessionId
      ∈ keyDerivations P secret sessionId packetsPerKey n := by
  unfold keyDerivations
  split
  · rename_i h
    rw [epochSecret, if_pos h]
    exact List.mem_singleton.2 rfl
  · exact List.mem_cons_of_mem _ (List.mem_singleton.2 rfl)

/-- **Equal keys belong to one endpoint and one session secret.** -/
theorem sendKey_inj (hH : P.LawfulHkdf) (hfree : CollisionFree P log) {secret secret' : Bytes}
    {sessionId sessionId' n n' : ℕ} {role role' : EndpointRole} {packetsPerKey : EndpointRole → ℕ}
    (hlog : ∀ call ∈ keyDerivations P secret sessionId (packetsPerKey role) n, call ∈ log)
    (hlog' : ∀ call ∈ keyDerivations P secret' sessionId' (packetsPerKey role') n', call ∈ log)
    (h : sendKey P secret sessionId role (packetsPerKey role) n
      = sendKey P secret' sessionId' role' (packetsPerKey role') n') :
    role = role' ∧ secret = secret' := by
  rw [sendKey, sendKey, directionalKey_eq_block hH, directionalKey_eq_block hH] at h
  have hposition : ∀ role, keyPosition role < 2 * aesKeySize / 32 := by
    intro role
    cases role <;> decide
  obtain ⟨hsecret, -, -, hrole⟩ := hfree _ (hlog _ (directionalCall_mem P ..)) _
    (hlog' _ (directionalCall_mem P ..)) _ (hposition role) _ (hposition role') h
  have hrole' : role = role' := by
    cases role <;> cases role' <;> first | rfl | cases hrole
  subst hrole'
  refine ⟨rfl, ?_⟩
  simp only [directionalCall] at hsecret
  by_cases hzero : packetsPerKey role = 0
  · rw [epochSecret, epochSecret, if_pos hzero, if_pos hzero] at hsecret
    exact hsecret
  · rw [epochSecret_eq_block hH _ _ hzero, epochSecret_eq_block hH _ _ hzero] at hsecret
    have hmem : ∀ {s : Bytes} {id m : ℕ}, epochCall s id (m / packetsPerKey role)
        ∈ keyDerivations P s id (packetsPerKey role) m := by
      intro s id m
      rw [keyDerivations, if_neg hzero]
      exact List.mem_cons_self
    have hblock : 0 < 32 / 32 := by decide
    exact (hfree _ (hlog _ hmem) _ (hlog' _ hmem) 0 hblock 0 hblock hsecret).1

end keys

/-! ## The result -/

section result

variable {τ : Type} {P : Primitives} {log : List HkdfCall}

/-- The packets of one session have different numbers, hence different nonces. -/
theorem Encrypts.nodup_keyNonce {secret : Bytes} {sessionId : ℕ} {role : EndpointRole}
    {packetsPerKey : ℕ} {calls : List AesCall} {packets : List Packet}
    (h : Encrypts P secret sessionId role packetsPerKey log calls packets) :
    (calls.map AesCall.keyNonce).Nodup := by
  have hnumbers : (packets.map Packet.sequenceNumber).Nodup := by
    rw [h.numbers]
    exact List.nodup_range
  rw [h.calls_eq, List.map_map]
  refine List.Nodup.map_on ?_ hnumbers.of_map
  intro p hp q hq heq
  have hnonce : nonceBytes p = nonceBytes q := congrArg Prod.snd heq
  exact List.inj_on_of_nodup_map hnumbers hp hq
    (nonceBytes_inj (h.inRange p hp) (h.inRange q hq) hnonce).2

/-- Sessions that share a key are of one endpoint and one session secret. -/
theorem secret_eq_of_shared (hH : P.LawfulHkdf) (hfree : CollisionFree P log)
    (packetsPerKey : EndpointRole → ℕ) {role role' : EndpointRole} {s s' : Derivation × List Packet}
    (hs : Encrypts P s.1.secret s.1.sessionId role (packetsPerKey role) log
      (sealCalls P role (packetsPerKey role) s) s.2)
    (hs' : Encrypts P s'.1.secret s'.1.sessionId role' (packetsPerKey role') log
      (sealCalls P role' (packetsPerKey role') s') s'.2)
    {k : Bytes × Bytes}
    (hk : k ∈ (sealCalls P role (packetsPerKey role) s).map AesCall.keyNonce)
    (hk' : k ∈ (sealCalls P role' (packetsPerKey role') s').map AesCall.keyNonce) :
    role = role' ∧ s.1.secret = s'.1.secret := by
  obtain ⟨call, hcall, rfl⟩ := List.mem_map.1 hk
  obtain ⟨call', hcall', heq⟩ := List.mem_map.1 hk'
  obtain ⟨p, hp, rfl⟩ := List.mem_map.1 hcall
  obtain ⟨p', hp', rfl⟩ := List.mem_map.1 hcall'
  exact sendKey_inj hH hfree (hs.derived p hp) (hs'.derived p' hp')
    (congrArg Prod.fst heq).symm

/-- The sessions of one endpoint use every key with a nonce once. -/
theorem Sessions.nodup_keyNonce (hH : P.LawfulHkdf) (hfree : CollisionFree P log)
    (packetsPerKey : EndpointRole → ℕ) {role : EndpointRole} {t : List (SessionEffect τ)}
    {sessions : List (Derivation × List Packet)}
    (h : Sessions P role (packetsPerKey role) t sessions)
    (hlog : ∀ call ∈ hkdfCalls (callsOf t), call ∈ log)
    (hsecrets : DistinctTranscripts (derivations t))
    (hbodies : (sessions.map fun s => ownBody role s.1).Nodup) :
    ((aesCalls (callsOf t)).map AesCall.keyNonce).Nodup := by
  rw [h.calls_eq, List.map_flatMap, List.nodup_flatMap]
  refine ⟨fun s hs => (h.encrypts s hs).nodup_keyNonce, ?_⟩
  refine (List.pairwise_map.1 hbodies).imp_of_mem fun {s s'} hs hs' hne => ?_
  intro k hk hk'
  have hmem : ∀ x ∈ sessions, x.1 ∈ derivations t := fun x hx => by
    rw [h.derivations_eq]
    exact List.mem_map_of_mem hx
  obtain ⟨-, hsecret⟩ := secret_eq_of_shared hH hfree packetsPerKey ((h.encrypts s hs).mono hlog)
    ((h.encrypts s' hs').mono hlog) hk hk'
  obtain ⟨hclient, hserver⟩ := hsecrets s.1 (hmem s hs) s'.1 (hmem s' hs') hsecret
  refine hne ?_
  cases role with
  | client => exact congrArg (List.take 64) hclient
  | server => exact congrArg (List.take 64) hserver

/-- The processes of the two endpoints, with any options, key files and surroundings. -/
structure Endpoints (τ : Type) where
  options : EndpointRole → EndpointConfig τ
  files : EndpointRole → KeyFiles
  inputs : EndpointRole → List (SessionInput τ)

/-- The `packets_per_key` of an endpoint. -/
def Endpoints.packetsPerKey (endpoints : Endpoints τ) (role : EndpointRole) : ℕ :=
  (endpoints.options role).packetsPerKey.toNat

/-- **Random values do not repeat**: whenever an endpoint draws a key and random bytes for a
handshake, they are different from all it drew before. -/
def Endpoints.DrawsFresh (P : Primitives) (endpoints : Endpoints τ) (role : EndpointRole) : Prop :=
  ((endpoints.inputs role).flatMap fun input => drawn P input role).Nodup

instance (P : Primitives) (endpoints : Endpoints τ) (role : EndpointRole) :
    Decidable (endpoints.DrawsFresh P role) := inferInstanceAs (Decidable (List.Nodup _))

variable [Zero τ] [Add τ] [Sub τ] [LT τ] [LE τ] [DecidableEq τ] [DecidableLT τ]
  [DecidableLE τ]

/-- What the process of one endpoint does. -/
def Endpoints.trace (P : Primitives) (endpoints : Endpoints τ) (role : EndpointRole) :
    List (SessionEffect τ) :=
  mainTrace P (endpoints.options role) (endpoints.files role) (endpoints.inputs role)

/-- **No key is used with a nonce twice**, by a client and a server with ephemeral handshakes
and any number of sessions, whatever fails in between. -/
theorem ephemeral_nonces_distinct (hA : P.LawfulAead) (hH : P.LawfulHkdf) (hX : P.LawfulX25519)
    (endpoints : Endpoints τ) (hrole : ∀ role, (endpoints.options role).role = some role)
    (hephemeral : ∀ role, (endpoints.options role).ephemeralHandshake = true)
    (hfresh : ∀ role, endpoints.DrawsFresh P role)
    (hsecrets : DistinctTranscripts
      (derivations (endpoints.trace P .client ++ endpoints.trace P .server)))
    (hfree : CollisionFree P
      (hkdfCalls (callsOf (endpoints.trace P .client ++ endpoints.trace P .server)))) :
    ((aesCalls (callsOf (endpoints.trace P .client ++ endpoints.trace P .server))).map
      AesCall.keyNonce).Nodup := by
  have hdraws : ∀ role, Draws P role (endpoints.packetsPerKey role)
      ((endpoints.inputs role).flatMap fun input => drawn P input role)
      (endpoints.trace P role) := fun role =>
    main_draws hA hH hX (hrole role) (hephemeral role) (endpoints.files role)
      (endpoints.inputs role)
  obtain ⟨clientSessions, hclient, hclientBodies⟩ := hdraws .client
  obtain ⟨serverSessions, hserver, hserverBodies⟩ := hdraws .server
  rw [derivations_append] at hsecrets
  rw [callsOf_append, hkdfCalls_append] at hfree
  rw [callsOf_append, aesCalls_append, List.map_append, List.nodup_append]
  have hclientLog : ∀ call ∈ hkdfCalls (callsOf (endpoints.trace P .client)), call ∈
      hkdfCalls (callsOf (endpoints.trace P .client)) ++
        hkdfCalls (callsOf (endpoints.trace P .server)) := fun call hcall =>
    List.mem_append_left _ hcall
  have hserverLog : ∀ call ∈ hkdfCalls (callsOf (endpoints.trace P .server)), call ∈
      hkdfCalls (callsOf (endpoints.trace P .client)) ++
        hkdfCalls (callsOf (endpoints.trace P .server)) := fun call hcall =>
    List.mem_append_right _ hcall
  refine ⟨?_, ?_, ?_⟩
  -- each endpoint alone draws fresh keys
  · exact Sessions.nodup_keyNonce hH hfree endpoints.packetsPerKey hclient hclientLog
      (fun d hd d' hd' => hsecrets d (List.mem_append_left _ hd) d' (List.mem_append_left _ hd'))
      (hclientBodies.nodup (hfresh .client))
  · exact Sessions.nodup_keyNonce hH hfree endpoints.packetsPerKey hserver hserverLog
      (fun d hd d' hd' => hsecrets d (List.mem_append_right _ hd) d' (List.mem_append_right _ hd'))
      (hserverBodies.nodup (hfresh .server))
  · -- the two endpoints have different keys
    rintro k hk _ hk' rfl
    rw [hclient.calls_eq, List.map_flatMap, List.mem_flatMap] at hk
    rw [hserver.calls_eq, List.map_flatMap, List.mem_flatMap] at hk'
    obtain ⟨s, hs, hk⟩ := hk
    obtain ⟨s', hs', hk'⟩ := hk'
    obtain ⟨hroles, -⟩ := secret_eq_of_shared hH hfree endpoints.packetsPerKey
      ((hclient.encrypts s hs).mono hclientLog) ((hserver.encrypts s' hs').mono hserverLog) hk hk'
    cases hroles

end result

/-! ## A sample run -/

/-- The hexadecimal text of a byte string. -/
def toHex (data : Bytes) : String :=
  String.ofList (data.flatMap fun byte =>
    [Nat.digitChar (byte.toNat / 16), Nat.digitChar (byte.toNat % 16)])

/-- The options of the sample endpoints, with a new key for every packet. -/
def sampleOptions (role : EndpointRole) : EndpointConfig ℕ where
  tunName := "mvpn0"
  tunAddress := "10.8.0.1/24"
  bind := sampleAddress role
  peer := sampleAddress role.peer
  mtu := 1400
  sessionId := 1
  keyFile := none
  privateKeyFile := some "private.key"
  peerPublicKeyFile := some "peer.pub"
  role := some role
  ephemeralHandshake := true
  handshakeTimeout := 3
  packetsPerKey := 1
  reconnectDelay := 1
  keepaliveInterval := 0
  livenessTimeout := 0

/-- The private keys of the sample endpoints. -/
def samplePrivateKey : EndpointRole → Bytes
  | .client => sampleKeys.clientPrivate
  | .server => sampleKeys.serverPrivate

/-- The key files of the sample endpoints. -/
def sampleFiles (role : EndpointRole) : KeyFiles := fun path =>
  if path = "private.key" then some ⟨0o600, some (toHex (samplePrivateKey role))⟩
  else some ⟨0o644, some (toHex (sample.x25519Public (samplePrivateKey role.peer)) ++ "\n")⟩

/-- What the sample client draws in its second session. -/
def sampleNextEntropy : ClientEntropy :=
  ⟨11, BigEndian.toBytes 32 5151, BigEndian.toBytes 32 6161, by decide,
    BigEndian.length_toBytes _ _, BigEndian.length_toBytes _ _⟩

/-- What the sample server draws in its attempts. -/
def sampleDraw (i : ℕ) : ServerEntropy :=
  { sampleServerEntropy with
    ephemeralPrivate := BigEndian.toBytes 32 (3333 + i),
    length_ephemeralPrivate := BigEndian.length_toBytes _ _ }

/-- The hello for the entropy of a session, and the answer to it. -/
def sampleExchange (entropy : ClientEntropy) (draw : ServerEntropy) :
    Except PyError (Packet × Packet) := do
  let (hello, _) ← createClientHello sample sampleKeys.clientPrivate
    (sample.x25519Public sampleKeys.serverPrivate) entropy
  let (response, _) ← acceptClientHello sample hello sampleKeys.serverPrivate
    (sample.x25519Public sampleKeys.clientPrivate) draw
  return (hello, response)

/-- A session that sends two packets, the second of which the operating system refuses. -/
def sampleSession (role : EndpointRole) (entropy : ClientEntropy) (draw : ℕ) :
    SessionInput ℕ where
  bindFailure _ _ := none
  entropy := entropy
  attempt i := {
    sendFailure := none
    arrival := do
      let (hello, response) ← sampleExchange entropy (sampleDraw draw)
      let data ← (if role = .client then response else hello).encode
      return (data, sampleAddress role.peer)
    entropy := sampleDraw (draw + i) }
  tunDevice := .ok "mvpn0"
  ipAddress := none
  ipLink := none
  startClock := 0
  iterations :=
    [{ idleInput with tunRead := some (.ok [69, 1]) },
      { idleInput with
        tunRead := some (.ok [69, 2]), tunSendFailure := some (.osError "No buffer space") }]

/-- Two sessions of both sample endpoints. -/
def sampleEndpoints : Endpoints ℕ where
  options := sampleOptions
  files := sampleFiles
  inputs role := [sampleSession role sampleClientEntropy 0, sampleSession role sampleNextEntropy 3]

theorem ephemeral_nonces_distinct_sample :
    (aesCalls (callsOf (sampleEndpoints.trace sample .client))).length = 4 ∧
    ((aesCalls (callsOf (sampleEndpoints.trace sample .client ++
      sampleEndpoints.trace sample .server))).map AesCall.keyNonce).Nodup :=
  ⟨by decide +kernel, ephemeral_nonces_distinct sample_lawfulAead sample_lawfulHkdf
    sample_lawfulX25519 sampleEndpoints (fun role => by cases role <;> rfl)
    (fun role => by cases role <;> rfl)
    (fun role => by cases role <;> decide +kernel) (by decide +kernel) (by decide +kernel)⟩

end MatfVpn
