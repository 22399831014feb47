/-
# The keys and nonces of a profile without ephemeral handshake

Every process run of a profile with a preshared key or static X25519 keys derives the same
keys and starts its packets at number zero, so two runs encrypt their packets with the same
number under the same key and nonce.

* `calls_main` : the AES-GCM calls of a run;
* `static_nonces_iff` : when no key is used with a nonce for two different packets.
-/
import MatfVpn.NonceUse

namespace MatfVpn

open Program

/-! ## The packets of a run -/

/-- The TUN packet of an iteration, when it is read and fits into an encrypted datagram. -/
def tunPacket? {τ : Type} (input : IterationInput τ) : Option Bytes :=
  match input.tunRead with
  | some (.ok payload) =>
      if payload.length ≤ maxPayloadSize - aesGcmTagSize then some payload else none
  | _ => none

/-- The TUN packets of a list of iterations. -/
def tunPackets {τ : Type} (inputs : List (IterationInput τ)) : List Bytes :=
  inputs.filterMap tunPacket?

/-- A `select` call. -/
def Effect.isSelect {τ : Type} : Effect τ → Bool
  | .select _ => true
  | _ => false

/-- The number of iterations that a trace starts: every iteration begins with a `select`. -/
def iterationCount {τ : Type} (t : List (Effect τ)) : ℕ := t.countP Effect.isSelect

section engine

variable {τ : Type} {P : Primitives} {secret : Bytes} {sessionId packetsPerKey : ℕ}
  {role : EndpointRole}

/-- An engine without keepalives, with a cipher of the secret. -/
structure Plain (P : Primitives) (secret : Bytes) (sessionId : ℕ) (role : EndpointRole)
    (packetsPerKey : ℕ) [Zero τ] (engine : TunnelEngine τ) : Prop where
  uses : ∃ log, engine.Uses P log secret sessionId role packetsPerKey
  keepaliveInterval : engine.keepaliveInterval = 0

/-- The AES-GCM call for the packet with this number and payload. -/
def dataCall (P : Primitives) (secret : Bytes) (sessionId : ℕ) (role : EndpointRole)
    (packetsPerKey n : ℕ) (payload : Bytes) : AesCall :=
  sealCall P secret sessionId role packetsPerKey ⟨.data, sessionId, n, payload⟩

variable [Zero τ]

/-- The TUN half of an iteration encrypts the TUN packet under the number of the counter. -/
theorem forwardFromTun_plain (hA : P.LawfulAead) (hH : P.LawfulHkdf) {engine : TunnelEngine τ}
    (h : Plain P secret sessionId role packetsPerKey engine) (input : IterationInput τ) :
    wp (TunnelEngine.forwardFromTun P input) engine fun r engine' t =>
      Plain P secret sessionId role packetsPerKey engine' ∧
      aesCalls (cryptoCalls t) = (if engine.sequenceNumber ≤ maxSequenceNumber then
        (tunPacket? input).toList.map
          (dataCall P secret sessionId role packetsPerKey engine.sequenceNumber) else []) ∧
      iterationCount t = 0 ∧ (∀ n, r = .ok n → engine'.sequenceNumber
        = engine.sequenceNumber + (tunPacket? input).toList.length) := by
  obtain ⟨⟨log, huses⟩, hkeepalive⟩ := h
  unfold TunnelEngine.forwardFromTun
  cases hread : input.tunRead with
  | none =>
      have hnone : tunPacket? input = none := by rw [tunPacket?, hread]
      rw [hnone]
      exact ⟨⟨⟨log, huses⟩, hkeepalive⟩, (ite_self []).symm, rfl, fun _ _ => rfl⟩
  | some packet =>
  cases packet with
  | error e =>
      have hnone : tunPacket? input = none := by rw [tunPacket?, hread]
      rw [hnone]
      exact ⟨⟨⟨log, huses⟩, hkeepalive⟩, (ite_self []).symm, rfl, fun _ h => by cases h⟩
  | ok payload =>
  have hfits : payload.length ≤ maxPayloadSize - aesGcmTagSize → tunPacket? input = some payload :=
    fun hsize => by rw [tunPacket?, hread]; exact if_pos hsize
  have hbig : payload.length > maxPayloadSize - aesGcmTagSize → tunPacket? input = none :=
    fun hsize => by rw [tunPacket?, hread]; exact if_neg (Nat.not_le.2 hsize)
  rw [wp_bind_pure]
  refine wp_mono (TunnelEngine.sendPacket_spec hA hH huses .data payload input.tunSendFailure) ?_
  rintro r engine' t ⟨c, n, calls, rfl, hder, -, hends⟩
  have hplain : Plain P secret sessionId role packetsPerKey (engine.withCipher c n) :=
    ⟨⟨_, huses.withCipher hder n⟩, hkeepalive⟩
  have hcalls := hends.cryptoCalls
  have hcount : iterationCount t = 0 := by
    refine List.countP_eq_zero.2 fun e he => ?_
    rcases hends.effects he with ⟨call, rfl⟩ | ⟨data, destination, rfl⟩
    · exact Bool.false_ne_true
    · exact Bool.false_ne_true
  rw [hcount]
  refine ⟨hplain, ?_⟩
  have hone : (engine.nextPacket .data payload).HeaderInRange →
      aesCalls calls = [sealCall P secret engine.sessionId role packetsPerKey
        (engine.nextPacket .data payload)] →
      engine.sequenceNumber ≤ maxSequenceNumber ∧ aesCalls (cryptoCalls t)
        = [dataCall P secret sessionId role packetsPerKey engine.sequenceNumber payload] := by
    intro hp haes
    refine ⟨?_, ?_⟩
    · have hlt : engine.sequenceNumber < 2 ^ 64 := hp.2
      simp only [maxSequenceNumber]
      omega
    · rw [hcalls, haes, dataCall, TunnelEngine.nextPacket, huses.sessionId_eq]
  cases hends with
  | exhausted hmax hnil =>
      exact ⟨by rw [if_neg (Nat.not_le.2 hmax)]; rfl, rfl, fun _ h => by cases h⟩
  | tooLarge hsize haes =>
      rw [hcalls, haes, hbig hsize]
      exact ⟨(ite_self []).symm, rfl, fun _ h => by cases h⟩
  | failed e _ hp hsize haes =>
      obtain ⟨hmax, hall⟩ := hone hp haes
      rw [hall, if_pos hmax, hfits hsize]
      exact ⟨rfl, rfl, fun _ h => by cases h⟩
  | sent data _ hp hsize haes _ =>
      obtain ⟨hmax, hall⟩ := hone hp haes
      rw [hall, if_pos hmax, hfits hsize]
      exact ⟨rfl, rfl, fun _ _ => rfl⟩

/-- The UDP half of an iteration encrypts nothing. -/
theorem forwardFromUdp_plain (hH : P.LawfulHkdf) {engine : TunnelEngine τ}
    (h : Plain P secret sessionId role packetsPerKey engine) (input : IterationInput τ) :
    wp (TunnelEngine.forwardFromUdp P input) engine fun _ engine' t =>
      Plain P secret sessionId role packetsPerKey engine' ∧
      aesCalls (cryptoCalls t) = [] ∧ iterationCount t = 0 ∧
      engine'.sequenceNumber = engine.sequenceNumber := by
  obtain ⟨⟨log, huses⟩, hkeepalive⟩ := h
  unfold TunnelEngine.forwardFromUdp
  cases input.udpReceive with
  | none => exact ⟨⟨⟨log, huses⟩, hkeepalive⟩, rfl, rfl, rfl⟩
  | some arrival =>
  simp only
  rw [wp_bind_pure]
  cases arrival with
  | error e =>
      refine wp_mono (TunnelEngine.receiveUdpPacket_error e input engine) ?_
      rintro r engine' t ⟨rfl, rfl⟩
      exact ⟨⟨⟨log, huses⟩, hkeepalive⟩, rfl, rfl, rfl⟩
  | ok arrival =>
      refine wp_mono (TunnelEngine.receiveUdpPacket_spec hH huses arrival.1 arrival.2 input) ?_
      rintro r engine' t ⟨c, calls, window, now, rfl, hder, haes, hends⟩
      obtain ⟨hcipher, hid, hlt⟩ := huses.withCipher hder engine.sequenceNumber
      refine ⟨⟨⟨_, hcipher, hid, hlt⟩, hkeepalive⟩, ?_, ?_, rfl⟩
      · rw [hends.cryptoCalls, haes]
      · refine List.countP_eq_zero.2 fun e he => ?_
        rcases hends.effects he with rfl | ⟨call, rfl⟩ | ⟨payload, rfl⟩
        · exact Bool.false_ne_true
        · exact Bool.false_ne_true
        · exact Bool.false_ne_true

variable [Add τ] [Sub τ] [LT τ] [LE τ] [DecidableEq τ] [DecidableLT τ] [DecidableLE τ]

/-- **One iteration** encrypts its TUN packet under the number of the counter. -/
theorem runOnce_plain (hA : P.LawfulAead) (hH : P.LawfulHkdf) {engine : TunnelEngine τ}
    (h : Plain P secret sessionId role packetsPerKey engine) (input : IterationInput τ) :
    wp (TunnelEngine.runOnce P input none) engine fun r engine' t =>
      Plain P secret sessionId role packetsPerKey engine' ∧
      aesCalls (cryptoCalls t) = (if engine.sequenceNumber ≤ maxSequenceNumber then
        (tunPacket? input).toList.map
          (dataCall P secret sessionId role packetsPerKey engine.sequenceNumber) else []) ∧
      iterationCount t = 1 ∧ (∀ n, r = .ok n → engine'.sequenceNumber
        = engine.sequenceNumber + (tunPacket? input).toList.length) := by
  unfold TunnelEngine.runOnce
  rw [wp_read_bind, wp_emit_bind, wp_bind]
  refine wp_mono (forwardFromTun_plain hA hH h input) ?_
  rintro r engine₁ t₁ ⟨h₁, hcalls, hselects, hcount⟩
  have hfirst : ∀ v, iterationCount (.select v :: t₁) = 1 := fun v =>
    (List.countP_cons_of_pos rfl).trans (congrArg (· + 1) hselects)
  cases r with
  | error e => exact ⟨h₁, hcalls, hfirst _, nofun⟩
  | ok fromTun =>
  simp only
  rw [wp_bind]
  refine wp_mono (forwardFromUdp_plain hH h₁ input) ?_
  rintro r engine₂ t₂ ⟨h₂, hnone, hselects₂, hsame⟩
  have hone : ∀ v, iterationCount (.select v :: (t₁ ++ t₂)) = 1 := fun v => by
    rw [← List.cons_append, iterationCount, List.countP_append]
    exact congrArg₂ (· + ·) (hfirst v) hselects₂
  have hall : ∀ v, aesCalls (cryptoCalls (.select v :: (t₁ ++ t₂)))
      = aesCalls (cryptoCalls t₁) := by
    intro v
    rw [cryptoCalls_select, cryptoCalls_append, aesCalls_append, hnone, List.append_nil]
  cases r with
  | error e => exact ⟨h₂, (hall _).trans hcalls, hone _, nofun⟩
  | ok fromUdp =>
  -- without keepalives there are no timers
  simp only
  rw [wp_bind_pure, TunnelEngine.checkTimers, wp_read_bind,
    if_neg (not_not.2 h₂.keepaliveInterval), wp_pure, List.append_nil]
  exact ⟨h₂, (hall _).trans hcalls, hone _, fun _ _ => hsame.trans (hcount fromTun rfl)⟩

/-- The AES-GCM calls for the TUN packets of some iterations, from number `n` on. -/
def CallFor (P : Primitives) (secret : Bytes) (sessionId : ℕ) (role : EndpointRole)
    (packetsPerKey n : ℕ) (payloads : List Bytes) (call : AesCall) : Prop :=
  ∃ k payload, payloads[k]? = some payload ∧ n + k ≤ maxSequenceNumber ∧
    call = dataCall P secret sessionId role packetsPerKey (n + k) payload

/-- No packets, no calls. -/
theorem callFor_nil {n : ℕ} {call : AesCall} :
    ¬ CallFor P secret sessionId role packetsPerKey n [] call := by
  rintro ⟨k, payload, hk, -⟩
  cases hk

/-- The packet of one iteration. -/
theorem callFor_option {n : ℕ} {payload : Option Bytes} {call : AesCall} :
    call ∈ (if n ≤ maxSequenceNumber then
        payload.toList.map (dataCall P secret sessionId role packetsPerKey n) else []) ↔
      CallFor P secret sessionId role packetsPerKey n payload.toList call := by
  cases payload with
  | none =>
      have hnone : (if n ≤ maxSequenceNumber then (none : Option Bytes).toList.map
          (dataCall P secret sessionId role packetsPerKey n) else []) = [] := ite_self []
      rw [hnone]
      constructor
      · intro hcall
        cases hcall
      · intro hcall
        exact absurd hcall callFor_nil
  | some payload =>
      constructor
      · intro h
        split at h
        · rename_i hn
          exact ⟨0, payload, rfl, hn, List.mem_singleton.1 h⟩
        · cases h
      · rintro ⟨k, payload', hk, hn, rfl⟩
        cases k with
        | zero =>
            obtain rfl := Option.some.inj hk
            rw [if_pos (show n ≤ maxSequenceNumber from hn)]
            exact List.mem_singleton.2 rfl
        | succ k => cases hk

/-- The packets of one iteration and of the iterations after it. -/
theorem callFor_append {n : ℕ} {l m : List Bytes} {call : AesCall} :
    CallFor P secret sessionId role packetsPerKey n (l ++ m) call ↔
      CallFor P secret sessionId role packetsPerKey n l call ∨
        CallFor P secret sessionId role packetsPerKey (n + l.length) m call := by
  constructor
  · rintro ⟨k, payload, hk, hn, rfl⟩
    rcases Nat.lt_or_ge k l.length with hlt | hge
    · rw [List.getElem?_append_left hlt] at hk
      exact Or.inl ⟨k, payload, hk, hn, rfl⟩
    · rw [List.getElem?_append_right hge] at hk
      have hsum : n + l.length + (k - l.length) = n + k := by omega
      exact Or.inr ⟨k - l.length, payload, hk, hsum ▸ hn, by rw [hsum]⟩
  · rintro (⟨k, payload, hk, hn, rfl⟩ | ⟨k, payload, hk, hn, rfl⟩)
    · have hlt := (List.getElem?_eq_some_iff.1 hk).1
      exact ⟨k, payload, by rw [List.getElem?_append_left hlt, hk], hn, rfl⟩
    · refine ⟨l.length + k, payload, ?_, by omega, by rw [Nat.add_assoc]⟩
      rw [List.getElem?_append_right (Nat.le_add_right _ _), Nat.add_sub_cancel_left, hk]

omit [Zero τ] [Add τ] [Sub τ] [LT τ] [LE τ] [DecidableEq τ] [DecidableLT τ] [DecidableLE τ] in
theorem tunPackets_cons (input : IterationInput τ) (inputs : List (IterationInput τ)) :
    tunPackets (input :: inputs) = (tunPacket? input).toList ++ tunPackets inputs := by
  unfold tunPackets
  cases h : tunPacket? input with
  | none => rw [List.filterMap_cons_none h]; rfl
  | some payload => rw [List.filterMap_cons_some h]; rfl

/-- **The AES-GCM calls of an engine**: one for each TUN packet it reads, under its position. -/
theorem mem_calls_run (hA : P.LawfulAead) (hH : P.LawfulHkdf) {engine : TunnelEngine τ}
    (h : Plain P secret sessionId role packetsPerKey engine) (inputs : List (IterationInput τ)) :
    wp (TunnelEngine.run P inputs) engine fun _ _ t => ∀ call,
      call ∈ aesCalls (cryptoCalls t) ↔
        CallFor P secret sessionId role packetsPerKey engine.sequenceNumber
          (tunPackets (inputs.take (iterationCount t))) call := by
  induction inputs generalizing engine with
  | nil =>
      intro call
      constructor
      · intro hcall
        cases hcall
      · intro hcall
        exact absurd hcall callFor_nil
  | cons input inputs ih =>
      rw [TunnelEngine.run, wp_bind]
      refine wp_mono (runOnce_plain hA hH h input) ?_
      rintro r engine₁ t₁ ⟨h₁, hcalls, hselects, hcount⟩
      cases r with
      | error e =>
          intro call
          rw [hcalls, hselects, List.take_succ_cons, List.take_zero, tunPackets_cons,
            callFor_append, ← callFor_option]
          exact (or_iff_left callFor_nil).symm
      | ok n =>
          refine wp_mono (ih h₁) fun r' engine₂ t₂ hrest call => ?_
          have htake : iterationCount (t₁ ++ t₂) = iterationCount t₂ + 1 := by
            rw [iterationCount, List.countP_append, Nat.add_comm]
            exact congrArg (iterationCount t₂ + ·) hselects
          rw [htake, List.take_succ_cons, tunPackets_cons, callFor_append, ← callFor_option,
            cryptoCalls_append, aesCalls_append, List.mem_append, hcalls, hrest call, hcount n rfl]

end engine

/-! ## The packets of a process -/

/-- The effects on the surroundings in the trace of a process. -/
def sessionEffects {τ : Type} (t : List (SessionEffect τ)) : List (Effect τ) :=
  t.filterMap SessionEffect.effect?

/-- The static secret of a profile, where its key files can be read. -/
def staticSecret {τ : Type} (P : Primitives) (options : EndpointConfig τ) (files : KeyFiles) :
    Bytes :=
  match loadStaticSecret P options files with
  | .ok secret => secret
  | .error _ => []

section process

variable {τ : Type} [Zero τ] [Add τ] [Sub τ] [LT τ] [LE τ] [DecidableEq τ] [DecidableLT τ]
  [DecidableLE τ] {P : Primitives}

/-- The TUN packets that a process run reads and that fit into an encrypted datagram. -/
def readPackets (P : Primitives) (options : EndpointConfig τ) (files : KeyFiles)
    (input : SessionInput τ) : List Bytes :=
  tunPackets (input.iterations.take
    (iterationCount (sessionEffects (mainTrace P options files [input]))))

/-- The AES-GCM calls in a trace are the packets of the iterations that it starts. -/
def CallsFor (P : Primitives) (secret : Bytes) (sessionId : ℕ) (role : EndpointRole)
    (packetsPerKey : ℕ) (inputs : List (IterationInput τ)) (t : List (SessionEffect τ)) : Prop :=
  ∀ call, call ∈ aesCalls (callsOf t) ↔ CallFor P secret sessionId role packetsPerKey 0
    (tunPackets (inputs.take (iterationCount (sessionEffects t)))) call

variable {secret : Bytes} {sessionId packetsPerKey : ℕ} {role : EndpointRole}

omit [Zero τ] [Add τ] [Sub τ] [LT τ] [LE τ] [DecidableEq τ] [DecidableLT τ] [DecidableLE τ] in
/-- A trace that starts no iteration and encrypts nothing. -/
theorem callsFor_of_nothing {inputs : List (IterationInput τ)} {t : List (SessionEffect τ)}
    (haes : aesCalls (callsOf t) = []) (hcount : iterationCount (sessionEffects t) = 0) :
    CallsFor P secret sessionId role packetsPerKey inputs t := by
  intro call
  rw [haes, hcount]
  constructor
  · intro hcall
    cases hcall
  · intro hcall
    exact absurd hcall callFor_nil

omit [Zero τ] [Add τ] [Sub τ] [LT τ] [LE τ] [DecidableEq τ] [DecidableLT τ] [DecidableLE τ] in
/-- What happens before without iterations and encryptions changes nothing. -/
theorem CallsFor.append_left {inputs : List (IterationInput τ)} {s t : List (SessionEffect τ)}
    (h : CallsFor P secret sessionId role packetsPerKey inputs t)
    (haes : aesCalls (callsOf s) = []) (hcount : iterationCount (sessionEffects s) = 0) :
    CallsFor P secret sessionId role packetsPerKey inputs (s ++ t) := by
  intro call
  rw [callsOf_append, aesCalls_append, haes, List.nil_append, sessionEffects,
    List.filterMap_append, iterationCount, List.countP_append]
  rw [iterationCount, sessionEffects] at hcount
  rw [hcount, Nat.zero_add]
  exact h call

omit [Zero τ] [Add τ] [Sub τ] [LT τ] [LE τ] [DecidableEq τ] [DecidableLT τ] [DecidableLE τ] in
/-- The cipher of a static secret, if its checks pass. -/
theorem sessionCipher_static (hH : P.LawfulHkdf) (secret : Bytes) (sessionId : ℕ)
    (role : EndpointRole) (packetsPerKey : ℕ) :
    wp (sessionCipher P secret sessionId role packetsPerKey :
      Program PyError (SessionEffect τ) Unit Cipher) () fun r _ t =>
        aesCalls (callsOf t) = [] ∧ iterationCount (sessionEffects t) = 0 ∧
        ∀ c, r = .ok c → ∃ log, c.DerivedFrom P log secret sessionId role packetsPerKey := by
  unfold sessionCipher
  rw [wp_lift]
  refine ⟨?_, ?_, fun c hc => ?_⟩
  · rw [callsOf_map_crypto]
    exact createCipher_encrypts_nothing P ..
  · refine List.countP_eq_zero.2 fun e he => ?_
    obtain ⟨e', he', hsome⟩ := List.mem_filterMap.1 he
    obtain ⟨call, -, rfl⟩ := List.mem_map.1 he'
    obtain rfl := Option.some.inj hsome
    exact Bool.false_ne_true
  · obtain ⟨hsecret, hlt⟩ := createCipher_ok hc
    obtain ⟨-, -, c', hc', hder⟩ :=
      createCipher_spec (σ := Unit) hH hsecret hlt role packetsPerKey ()
    obtain rfl := Except.ok.inj (hc.symm.trans hc')
    exact ⟨_, hder⟩

/-- **A session with a static cipher.** -/
theorem runSession_static (hA : P.LawfulAead) (hH : P.LawfulHkdf) {options : EndpointConfig τ}
    (hkeepalive : options.keepaliveInterval = 0) (hid : options.sessionId = sessionId)
    (hlt : sessionId < 2 ^ 32) {cipher : Cipher} {log : List HkdfCall}
    (hcipher : cipher.DerivedFrom P log secret sessionId role packetsPerKey)
    (input : SessionInput τ) :
    wp (runSession P options (.static (some cipher)) input) () fun _ _ t =>
      CallsFor P secret sessionId role packetsPerKey input.iterations t := by
  have hnothing : CallsFor P secret sessionId role packetsPerKey input.iterations
      ([] : List (SessionEffect τ)) := callsFor_of_nothing rfl rfl
  unfold runSession
  simp only [establish]
  rw [wp_bind]
  cases input.bindFailure options.bind
      (if options.ephemeralHandshake then some options.handshakeTimeout else none) with
  | some e => exact hnothing
  | none =>
  rw [raises, wp_pure]
  simp only [wp_pure_bind, List.nil_append]
  rw [wp_bind, wp_ofExcept]
  cases newTunDevice options.tunName input.tunDevice with
  | error e => exact hnothing
  | ok name =>
  simp only [List.nil_append]
  rw [wp_bind, wp_ofExcept]
  cases configureTun options.mtu input.ipAddress input.ipLink with
  | error e => exact hnothing
  | ok _ =>
  simp only [List.nil_append]
  rw [wp_bind, wp_ofExcept, hid]
  cases hnew : TunnelEngine.new options.peer sessionId (some cipher) options.keepaliveInterval
      options.livenessTimeout input.startClock with
  | error e => exact hnothing
  | ok engine =>
  simp only [List.nil_append]
  obtain rfl := TunnelEngine.new_ok hnew
  rw [wp_zoom]
  refine wp_mono (mem_calls_run hA hH ⟨⟨log, ⟨cipher, rfl, hcipher⟩, rfl, hlt⟩, hkeepalive⟩
    input.iterations) fun r engine' t h => ?_
  intro call
  have heffects : sessionEffects (t.map SessionEffect.effect) = t := by
    rw [sessionEffects, List.filterMap_map]
    exact List.filterMap_some
  rw [callsOf_map_effect, heffects]
  exact h call

/-- **The AES-GCM calls of a process run**: one for each packet it reads, under its position. -/
theorem calls_main (hA : P.LawfulAead) (hH : P.LawfulHkdf) {options : EndpointConfig τ}
    (hvalid : options.validate = .ok ()) (hencrypted : options.encrypted = true)
    (hstatic : options.ephemeralHandshake = false) (files : KeyFiles) (input : SessionInput τ)
    (call : AesCall) :
    call ∈ aesCalls (callsOf (mainTrace P options files [input])) ↔
      CallFor P (staticSecret P options files) options.sessionId.toNat
        (options.role.getD .client) options.packetsPerKey.toNat 0
        (readPackets P options files input) call := by
  suffices hmain : wp (main P options files [input]) () fun _ _ t =>
      CallsFor P (staticSecret P options files) options.sessionId.toNat
        (options.role.getD .client) options.packetsPerKey.toNat input.iterations t by
    exact hmain call
  obtain ⟨hnumbers, hkeys⟩ := EndpointConfig.validate_ok hvalid
  obtain ⟨⟨hid, hidle⟩, hperkey, htimers⟩ := EndpointConfig.validateNumbers_ok hnumbers
  obtain ⟨-, -, -, -, hlive⟩ := EndpointConfig.validateKeys_ok hkeys
  have hkeepalive : options.keepaliveInterval = 0 := by
    by_contra hne
    exact htimers.1 hne (hlive hstatic)
  obtain ⟨sessionId, hsession⟩ := Int.eq_ofNat_of_zero_le hid
  obtain ⟨packetsPerKey, hpackets⟩ := Int.eq_ofNat_of_zero_le hperkey
  have hlt : sessionId < 2 ^ 32 := by omega
  rw [main, checkOptions_of_validate hvalid, ofExcept_ok, wp_pure_bind, wp_bind, loadKeys,
    if_neg (not_not.2 hencrypted), if_neg (by rw [hstatic]; exact Bool.false_ne_true), hsession,
    hpackets, Int.toNat_natCast, Int.toNat_natCast, wp_bind, wp_ofExcept, staticSecret]
  cases hload : loadStaticSecret P options files with
  | error e => exact callsFor_of_nothing rfl rfl
  | ok secret =>
  simp only [List.nil_append]
  rw [wp_bind_pure]
  refine wp_mono (sessionCipher_static hH secret sessionId _ packetsPerKey) ?_
  rintro r ⟨⟩ s ⟨haes, hcount, hder⟩
  cases r with
  | error e => exact callsFor_of_nothing haes hcount
  | ok cipher =>
  obtain ⟨log, hlog⟩ := hder cipher rfl
  simp only [Except.map]
  rw [wp_bind, wp_attempt, runSessions,
    if_neg (by rw [hstatic]; exact Bool.false_ne_true)]
  refine wp_mono (runSession_static hA hH hkeepalive hsession hlt hlog input) ?_
  intro r s' t h
  -- the end of the process adds nothing to the trace
  have hall : ∀ t', t' = s ++ t → CallsFor P secret sessionId (options.role.getD .client)
      packetsPerKey input.iterations t' := by
    rintro _ rfl
    exact h.append_left haes hcount
  cases r with
  | ok _ => exact hall _ (congrArg (s ++ ·) (List.append_nil t))
  | error e => cases e <;> exact hall _ (congrArg (s ++ ·) (List.append_nil t))

/-! ## The result -/

/-- **When a profile without ephemeral handshake keeps nonces distinct**: the runs of its
process use no key and nonce for two different packets exactly if any two runs read the same
TUN packet at every position that both reach. -/
theorem static_nonces_iff (hA : P.LawfulAead) (hH : P.LawfulHkdf) {options : EndpointConfig τ}
    (hvalid : options.validate = .ok ()) (hencrypted : options.encrypted = true)
    (hstatic : options.ephemeralHandshake = false) (files : KeyFiles)
    (runs : List (SessionInput τ)) :
    (∀ run ∈ runs, ∀ run' ∈ runs,
      ∀ call ∈ aesCalls (callsOf (mainTrace P options files [run])),
      ∀ call' ∈ aesCalls (callsOf (mainTrace P options files [run'])),
        call.keyNonce = call'.keyNonce → call = call') ↔
    (∀ run ∈ runs, ∀ run' ∈ runs, ∀ k ≤ maxSequenceNumber, ∀ payload payload',
      (readPackets P options files run)[k]? = some payload →
      (readPackets P options files run')[k]? = some payload' → payload = payload') := by
  obtain ⟨hnumbers, -⟩ := EndpointConfig.validate_ok hvalid
  obtain ⟨⟨hid, hidle⟩, -⟩ := EndpointConfig.validateNumbers_ok hnumbers
  have hinRange : ∀ k ≤ maxSequenceNumber, ∀ payload : Bytes,
      Packet.HeaderInRange ⟨.data, options.sessionId.toNat, k, payload⟩ := by
    intro k hk payload
    simp only [maxSequenceNumber] at hk
    exact ⟨by show options.sessionId.toNat < 2 ^ 32; omega, by show k < 2 ^ 64; omega⟩
  constructor
  · intro hdistinct run hrun run' hrun' k hk payload payload' hread hread'
    have hcalls := fun run payload hread => (calls_main hA hH hvalid hencrypted hstatic files run
      _).2 ⟨k, payload, hread, (Nat.zero_add k).symm ▸ hk, rfl⟩
    have hcall := hdistinct run hrun run' hrun' _ (hcalls run payload hread) _
      (hcalls run' payload' hread') rfl
    exact congrArg AesCall.plaintext hcall
  · intro hsame run hrun run' hrun' call hcall call' hcall' heq
    obtain ⟨k, payload, hread, hk, rfl⟩ :=
      (calls_main hA hH hvalid hencrypted hstatic files run call).1 hcall
    obtain ⟨k', payload', hread', hk', rfl⟩ :=
      (calls_main hA hH hvalid hencrypted hstatic files run' call').1 hcall'
    -- equal nonces have equal numbers
    have hnonce := (nonceBytes_inj (hinRange _ hk payload) (hinRange _ hk' payload')
      (congrArg Prod.snd heq)).2
    have hk : 0 + k = 0 + k' := hnonce
    obtain rfl : k = k' := by omega
    rw [hsame run hrun run' hrun' k (by omega) payload payload' hread hread']

end process

/-! ## Sample runs -/

/-- The profile of a sample client with a preshared key. -/
def samplePskOptions : EndpointConfig ℕ :=
  { sampleOptions .client with
    keyFile := some "psk.key", privateKeyFile := none, peerPublicKeyFile := none,
    ephemeralHandshake := false, packetsPerKey := 0 }

/-- The key file of the sample profile. -/
def samplePskFiles : KeyFiles := fun _ => some ⟨0o600, some (toHex (List.replicate 32 7) ++ "\n")⟩

/-- A run that reads one packet from its TUN device. -/
def samplePskRun (payload : Bytes) : SessionInput ℕ :=
  { sampleSession .client sampleClientEntropy 0 with
    iterations := [{ idleInput with tunRead := some (.ok payload) }] }

/-- **Two runs of a profile with a preshared key reuse a nonce**: the first packets of both
runs are encrypted under the same key and nonce. -/
theorem static_nonce_reused : samplePskOptions.validate = .ok () ∧
    samplePskOptions.encrypted = true ∧ samplePskOptions.ephemeralHandshake = false ∧
    ∃ call ∈ aesCalls (callsOf
        (mainTrace sample samplePskOptions samplePskFiles [samplePskRun [69, 1]])),
      ∃ call' ∈ aesCalls (callsOf
        (mainTrace sample samplePskOptions samplePskFiles [samplePskRun [69, 2]])),
        call.keyNonce = call'.keyNonce ∧ call.plaintext ≠ call'.plaintext := by
  decide +kernel

/-- Two runs that read the same packet, at different times. -/
theorem static_nonces_iff_sample :
    (aesCalls (callsOf (mainTrace sample samplePskOptions samplePskFiles
      [samplePskRun [69, 1]]))).length = 1 ∧
    (∀ run ∈ [samplePskRun [69, 1], { samplePskRun [69, 1] with startClock := 9 }],
      ∀ run' ∈ [samplePskRun [69, 1], { samplePskRun [69, 1] with startClock := 9 }],
      ∀ call ∈ aesCalls (callsOf (mainTrace sample samplePskOptions samplePskFiles [run])),
      ∀ call' ∈ aesCalls (callsOf (mainTrace sample samplePskOptions samplePskFiles [run'])),
        call.keyNonce = call'.keyNonce → call = call') := by
  have hread : ∀ run ∈ [samplePskRun [69, 1], { samplePskRun [69, 1] with startClock := 9 }],
      readPackets sample samplePskOptions samplePskFiles run = [[69, 1]] := by decide +kernel
  refine ⟨by decide +kernel, (static_nonces_iff sample_lawfulAead sample_lawfulHkdf
    (by decide +kernel) (by decide +kernel) rfl samplePskFiles _).2 ?_⟩
  intro run hrun run' hrun' k _ payload payload' hk hk'
  rw [hread run hrun] at hk
  rw [hread run' hrun'] at hk'
  exact Option.some.inj (hk.symm.trans hk')

end MatfVpn
