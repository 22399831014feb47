/-
# The packets that an engine encrypts

An engine numbers its packets from zero without gaps, because a packet that was encrypted
and not sent ends the run of the engine.

* `encrypts_sendPacket`, `encrypts_runOnce` : one packet, one iteration;
* `encrypts_run` : all packets of an engine.
-/
import MatfVpn.Endpoint
import MatfVpn.EngineSpec

namespace MatfVpn

open Program

/-! ## Traces of processes -/

namespace SessionEffect

variable {τ : Type}

/-- The effect on the surroundings. -/
def effect? : SessionEffect τ → Option (Effect τ)
  | effect e => some e
  | derived _ => none

/-- The derived session secret. -/
def derived? : SessionEffect τ → Option Derivation
  | effect _ => none
  | derived d => some d

end SessionEffect

/-- What a process does during a run. -/
def mainTrace {τ : Type} [Zero τ] [Add τ] [Sub τ] [LT τ] [LE τ] [DecidableEq τ]
    [DecidableLT τ] [DecidableLE τ] (P : Primitives) (options : EndpointConfig τ)
    (files : KeyFiles) (inputs : List (SessionInput τ)) : List (SessionEffect τ) :=
  (main P options files inputs ()).trace

/-- The key and the nonce of an AES-GCM encryption. -/
def AesCall.keyNonce (call : AesCall) : Bytes × Bytes := (call.key, call.nonce)

section traces

variable {τ : Type}

/-- The cryptographic calls of a process. -/
def callsOf (t : List (SessionEffect τ)) : List CryptoCall :=
  cryptoCalls (t.filterMap SessionEffect.effect?)

/-- The session secrets that a process derived. -/
def derivations (t : List (SessionEffect τ)) : List Derivation :=
  t.filterMap SessionEffect.derived?

variable (s t : List (SessionEffect τ)) (l : List (Effect τ)) (d : Derivation)
  (calls : List CryptoCall)

@[simp] theorem callsOf_nil : callsOf ([] : List (SessionEffect τ)) = [] := rfl

@[simp] theorem callsOf_append : callsOf (s ++ t) = callsOf s ++ callsOf t := by
  rw [callsOf, List.filterMap_append, cryptoCalls_append]
  rfl

@[simp] theorem callsOf_derived : callsOf (.derived d :: t) = callsOf t := rfl

@[simp] theorem callsOf_map_effect : callsOf (l.map .effect) = cryptoCalls l := by
  rw [callsOf, List.filterMap_map]
  exact congrArg cryptoCalls List.filterMap_some

@[simp] theorem callsOf_map_crypto :
    callsOf (calls.map fun call => .effect (.crypto call) : List (SessionEffect τ)) = calls := by
  have h := callsOf_map_effect (calls.map (Effect.crypto : CryptoCall → Effect τ))
  rw [List.map_map, cryptoCalls_map_crypto] at h
  exact h

@[simp] theorem derivations_nil : derivations ([] : List (SessionEffect τ)) = [] := rfl

@[simp] theorem derivations_append : derivations (s ++ t) = derivations s ++ derivations t :=
  List.filterMap_append

@[simp] theorem derivations_derived : derivations (.derived d :: t) = d :: derivations t := rfl

@[simp] theorem derivations_map_effect :
    derivations (l.map .effect : List (SessionEffect τ)) = [] := by
  rw [derivations, List.filterMap_map]
  exact List.filterMap_eq_nil_iff.2 fun _ _ => rfl

@[simp] theorem derivations_map_crypto :
    derivations (calls.map fun call => .effect (.crypto call) : List (SessionEffect τ)) = [] := by
  have h := derivations_map_effect (calls.map (Effect.crypto : CryptoCall → Effect τ))
  rw [List.map_map] at h
  exact h

end traces

/-! ## The packets of one cipher -/

/-- The AES-GCM calls encrypt these packets under a secret, numbered from zero, and the
derivations of their keys are in the log. -/
structure Encrypts (P : Primitives) (secret : Bytes) (sessionId : ℕ) (role : EndpointRole)
    (packetsPerKey : ℕ) (log : List HkdfCall) (calls : List AesCall) (packets : List Packet) :
    Prop where
  calls_eq : calls = packets.map (sealCall P secret sessionId role packetsPerKey)
  numbers : packets.map Packet.sequenceNumber = List.range packets.length
  inRange : ∀ p ∈ packets, p.HeaderInRange
  derived : ∀ p ∈ packets, ∀ call ∈ keyDerivations P secret sessionId packetsPerKey
    p.sequenceNumber, call ∈ log

section engine

variable {τ : Type} {P : Primitives} {secret : Bytes} {sessionId packetsPerKey : ℕ}
  {role : EndpointRole} {log : List HkdfCall}

/-- Before the first packet. -/
theorem encrypts_nil : Encrypts P secret sessionId role packetsPerKey log [] [] where
  calls_eq := rfl
  numbers := rfl
  inRange _ h := absurd h List.not_mem_nil
  derived _ h := absurd h List.not_mem_nil

/-- A longer log holds the same derivations. -/
theorem Encrypts.mono {log' : List HkdfCall} {calls : List AesCall} {packets : List Packet}
    (h : Encrypts P secret sessionId role packetsPerKey log calls packets)
    (hlog : ∀ call ∈ log, call ∈ log') :
    Encrypts P secret sessionId role packetsPerKey log' calls packets :=
  ⟨h.calls_eq, h.numbers, h.inRange, fun p hp call hcall => hlog call (h.derived p hp call hcall)⟩

/-- **One more packet**, with the next number. -/
theorem Encrypts.concat {calls : List AesCall} {packets : List Packet}
    (h : Encrypts P secret sessionId role packetsPerKey log calls packets) {p : Packet}
    (hp : p.HeaderInRange) (hn : p.sequenceNumber = packets.length)
    (hderived : ∀ call ∈ keyDerivations P secret sessionId packetsPerKey p.sequenceNumber,
      call ∈ log) :
    Encrypts P secret sessionId role packetsPerKey log
      (calls ++ [sealCall P secret sessionId role packetsPerKey p]) (packets ++ [p]) where
  calls_eq := by rw [h.calls_eq, List.map_append, List.map_singleton]
  numbers := by
    rw [List.map_append, h.numbers, List.map_singleton, hn, List.length_append,
      List.length_singleton, List.range_succ]
  inRange q hq := by
    rcases List.mem_append.1 hq with hq | hq
    · exact h.inRange q hq
    · rw [List.mem_singleton.1 hq]
      exact hp
  derived q hq := by
    rcases List.mem_append.1 hq with hq | hq
    · exact h.derived q hq
    · rw [List.mem_singleton.1 hq]
      exact hderived

/-- What a running engine has encrypted, where `log` are the derivations before it. -/
def Encrypting (P : Primitives) (secret : Bytes) (sessionId : ℕ) (role : EndpointRole)
    (packetsPerKey : ℕ) (log : List HkdfCall) (engine : TunnelEngine τ) (t : List (Effect τ)) :
    Prop :=
  engine.Uses P (log ++ hkdfCalls (cryptoCalls t)) secret sessionId role packetsPerKey ∧
    ∃ packets, Encrypts P secret sessionId role packetsPerKey (log ++ hkdfCalls (cryptoCalls t))
      (aesCalls (cryptoCalls t)) packets ∧ engine.sequenceNumber = packets.length

/-- What an engine has encrypted that may have failed during a call. -/
def HasEncrypted (P : Primitives) (secret : Bytes) (sessionId : ℕ) (role : EndpointRole)
    (packetsPerKey : ℕ) (log : List HkdfCall) (_ : TunnelEngine τ) (t : List (Effect τ)) : Prop :=
  ∃ packets, Encrypts P secret sessionId role packetsPerKey (log ++ hkdfCalls (cryptoCalls t))
    (aesCalls (cryptoCalls t)) packets

theorem Encrypting.hasEncrypted {engine : TunnelEngine τ} {t : List (Effect τ)}
    (h : Encrypting P secret sessionId role packetsPerKey log engine t) :
    HasEncrypted P secret sessionId role packetsPerKey log engine t := by
  obtain ⟨-, packets, hpackets, -⟩ := h
  exact ⟨packets, hpackets⟩

/-- Calls that encrypt nothing, and changes of the engine besides its cipher and counter. -/
theorem Encrypting.extend {engine engine' : TunnelEngine τ} {s t : List (Effect τ)}
    (h : Encrypting P secret sessionId role packetsPerKey log engine s)
    (huses : engine'.Uses P (log ++ hkdfCalls (cryptoCalls (s ++ t))) secret sessionId role
      packetsPerKey)
    (hn : engine'.sequenceNumber = engine.sequenceNumber) (ht : aesCalls (cryptoCalls t) = []) :
    Encrypting P secret sessionId role packetsPerKey log engine' (s ++ t) := by
  obtain ⟨-, packets, hpackets, hlength⟩ := h
  refine ⟨huses, packets, ?_, hn.trans hlength⟩
  rw [cryptoCalls_append, aesCalls_append, ht, List.append_nil]
  refine hpackets.mono fun call hcall => ?_
  rw [hkdfCalls_append, ← List.append_assoc]
  exact List.mem_append_left _ hcall

/-- The calls of the cipher are the cryptographic calls of a send. -/
theorem TunnelEngine.SendEnds.cryptoCalls {engine : TunnelEngine τ} {plain : Packet}
    {failure : Option PyError} {calls : List CryptoCall} {r : Except PyError Unit} {n : ℕ}
    {t : List (Effect τ)}
    (h : SendEnds P secret role packetsPerKey engine plain failure calls r n t) :
    MatfVpn.cryptoCalls t = calls := by
  cases h with
  | exhausted _ hcalls => exact hcalls.symm
  | tooLarge _ _ => exact cryptoCalls_map_crypto calls
  | failed _ _ _ _ _ => exact cryptoCalls_map_crypto calls
  | sent _ _ _ _ _ _ => simp

/-- **A send** encrypts a packet with the next number, or nothing. -/
theorem encrypts_sendPacket (hA : P.LawfulAead) (hH : P.LawfulHkdf) (messageType : MessageType)
    (payload : Bytes) (failure : Option PyError) :
    Preserves (Encrypting P secret sessionId role packetsPerKey log)
      (HasEncrypted P secret sessionId role packetsPerKey log)
      (TunnelEngine.sendPacket P messageType payload failure :
        Program PyError (Effect τ) (TunnelEngine τ) Unit) := by
  intro engine s h
  refine wp_mono (TunnelEngine.sendPacket_spec hA hH h.1 messageType payload failure) ?_
  rintro r engine' t ⟨c, n, calls, rfl, hder, hderived, hends⟩
  have hcalls := hends.cryptoCalls
  have huses : ∀ n, (engine.withCipher c n).Uses P (log ++ hkdfCalls (cryptoCalls (s ++ t)))
      secret sessionId role packetsPerKey := by
    intro n
    rw [cryptoCalls_append, hkdfCalls_append, ← List.append_assoc, hcalls]
    exact h.1.withCipher hder n
  -- nothing was encrypted, or one packet with the number of the counter
  have hnone : aesCalls calls = [] →
      HasEncrypted P secret sessionId role packetsPerKey log (engine.withCipher c n) (s ++ t) :=
    fun haes => ((h.extend (huses engine.sequenceNumber) rfl (hcalls ▸ haes)).hasEncrypted)
  have hone : (engine.nextPacket messageType payload).HeaderInRange →
      aesCalls calls = [sealCall P secret engine.sessionId role packetsPerKey
        (engine.nextPacket messageType payload)] →
      ∃ packets, Encrypts P secret sessionId role packetsPerKey
        (log ++ hkdfCalls (cryptoCalls (s ++ t))) (aesCalls (cryptoCalls (s ++ t))) packets ∧
        packets.length = engine.sequenceNumber + 1 := by
    intro hp haes
    obtain ⟨huses', packets, hpackets, hlength⟩ := h
    refine ⟨packets ++ [engine.nextPacket messageType payload], ?_, by
      rw [List.length_append, List.length_singleton, hlength]⟩
    rw [cryptoCalls_append, aesCalls_append, hcalls, haes, huses'.sessionId_eq,
      hkdfCalls_append, ← List.append_assoc]
    refine (hpackets.mono fun call hcall => List.mem_append_left _ hcall).concat hp hlength ?_
    intro call hcall
    exact hderived (by rw [haes]; exact List.cons_ne_nil _ _) call hcall
  cases hends with
  | exhausted _ hnil => exact hnone (by rw [hnil]; rfl)
  | tooLarge _ haes => exact hnone haes
  | failed e _ hp _ haes =>
      obtain ⟨packets, hpackets, -⟩ := hone hp haes
      exact ⟨packets, hpackets⟩
  | sent data _ hp _ haes _ =>
      obtain ⟨packets, hpackets, hlength⟩ := hone hp haes
      exact ⟨huses _, packets, hpackets, hlength.symm⟩

/-- The calls of the cipher are the cryptographic calls of a received datagram. -/
theorem TunnelEngine.ReceiveEnds.cryptoCalls {engine : TunnelEngine τ} {data : Bytes}
    {source : Address} {input : IterationInput τ} {calls : List CryptoCall}
    {r : Except PyError Bool} {window : ReplayWindow} {now : τ} {t : List (Effect τ)}
    (h : ReceiveEnds P secret role packetsPerKey engine data source input calls r window now t) :
    MatfVpn.cryptoCalls t = calls := by
  cases h with
  | dropped _ => simp
  | accepted packet _ _ _ =>
      rw [cryptoCalls_receive, cryptoCalls_append, cryptoCalls_map_crypto, deliverEffects]
      cases deliverPayload packet with
      | none => exact List.append_nil _
      | some _ => exact List.append_nil _

/-- A received datagram encrypts nothing. -/
theorem encrypts_receiveUdpPacket (hH : P.LawfulHkdf)
    (arrival : Except PyError (Bytes × Address)) (input : IterationInput τ) :
    Preserves (Encrypting P secret sessionId role packetsPerKey log)
      (HasEncrypted P secret sessionId role packetsPerKey log)
      (TunnelEngine.receiveUdpPacket P arrival input) := by
  intro engine s h
  cases arrival with
  | error e =>
      refine wp_mono (TunnelEngine.receiveUdpPacket_error e input engine) ?_
      rintro r engine' t ⟨rfl, rfl⟩
      rw [List.append_nil]
      cases r with
      | ok _ => exact h
      | error _ => exact h.hasEncrypted
  | ok arrival =>
      refine wp_mono (TunnelEngine.receiveUdpPacket_spec hH h.1 arrival.1 arrival.2 input) ?_
      rintro r engine' t ⟨c, calls, window, now, rfl, hder, haes, hends⟩
      have hcalls := hends.cryptoCalls
      have hnext : Encrypting P secret sessionId role packetsPerKey log
          ((engine.withCipher c engine.sequenceNumber).authenticated window now) (s ++ t) := by
        refine h.extend ?_ rfl (hcalls ▸ haes)
        rw [cryptoCalls_append, hkdfCalls_append, ← List.append_assoc, hcalls]
        obtain ⟨hcipher, hid, hlt⟩ := h.1.withCipher hder engine.sequenceNumber
        exact ⟨hcipher, hid, hlt⟩
      cases r with
      | ok _ => exact hnext
      | error _ => exact hnext.hasEncrypted

section iterations

variable [Zero τ] [Add τ] [Sub τ] [LT τ] [LE τ] [DecidableEq τ] [DecidableLT τ]
  [DecidableLE τ]

/-- An iteration encrypts packets with the next numbers. -/
theorem encrypts_runOnce (hA : P.LawfulAead) (hH : P.LawfulHkdf) (input : IterationInput τ)
    (timeout : Option τ) :
    Preserves (Encrypting P secret sessionId role packetsPerKey log)
      (HasEncrypted P secret sessionId role packetsPerKey log)
      (TunnelEngine.runOnce P input timeout) := by
  refine TunnelEngine.runOnce_preserves (fun _ _ h => h.hasEncrypted) input timeout (fun v => ?_)
    (fun payload _ => encrypts_sendPacket hA hH .data payload _)
    (encrypts_sendPacket hA hH .keepalive [] _)
    (fun arrival _ => encrypts_receiveUdpPacket hH arrival input) fun f => ?_
  · refine Preserves.emit fun engine t h => h.extend ?_ rfl rfl
    rw [cryptoCalls_append, hkdfCalls_append, ← List.append_assoc]
    exact h.1.mono fun call hcall => List.mem_append_left _ hcall
  · refine Preserves.update fun engine t h => ?_
    obtain ⟨⟨hcipher, hid, hlt⟩, packets, hpackets, hlength⟩ := h
    exact ⟨⟨hcipher, hid, hlt⟩, packets, hpackets, hlength⟩

/-- **The packets of one engine.** -/
theorem encrypts_run (hA : P.LawfulAead) (hH : P.LawfulHkdf) (inputs : List (IterationInput τ)) :
    Preserves (Encrypting P secret sessionId role packetsPerKey log)
      (HasEncrypted P secret sessionId role packetsPerKey log) (TunnelEngine.run P inputs) := by
  induction inputs with
  | nil => exact Preserves.pure ()
  | cons input inputs ih => exact Preserves.bind (encrypts_runOnce hA hH input none) fun _ => ih

end iterations

end engine

end MatfVpn
