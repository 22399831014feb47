/-
# Delivery through an encrypted tunnel

Two engines with the two ends of a cipher, and any network between them.  `deliveries`
says what an end should write to its TUN device: the payloads of the genuine, fresh
DATA datagrams, in the order of their arrival.

* `Tunnel.writes_run` : the engine writes exactly that, in every run.
-/
import Mathlib.Logic.Function.Basic
import MatfVpn.EngineSpec
import MatfVpn.Lib.History

namespace MatfVpn

open Program History

/-! ## The two ends -/

/-- Two engines and the effects of both so far. -/
structure Tunnel (τ : Type) where
  engine : EndpointRole → TunnelEngine τ
  trace : List (EndpointRole × Effect τ)

/-- One iteration of one end: what the devices, the network and the clock answer. -/
structure TunnelStep (τ : Type) where
  role : EndpointRole
  input : IterationInput τ
  timeout : Option τ

/-- The effects of one end. -/
def effectsOf {τ : Type} (role : EndpointRole) (trace : List (EndpointRole × Effect τ)) :
    List (Effect τ) :=
  trace.filterMap fun e => if e.1 = role then some e.2 else none

namespace Tunnel

variable {τ : Type} [Zero τ] [Add τ] [Sub τ] [LT τ] [LE τ] [DecidableEq τ] [DecidableLT τ]
  [DecidableLE τ]

/-- One iteration of one engine. -/
def step (P : Primitives) (tunnel : Tunnel τ) (s : TunnelStep τ) : Tunnel τ :=
  let o := TunnelEngine.runOnce P s.input s.timeout (tunnel.engine s.role)
  { engine := Function.update tunnel.engine s.role o.state
    trace := tunnel.trace ++ o.trace.map (Prod.mk s.role) }

/-- Iterations of both engines, in any order. -/
def run (P : Primitives) (tunnel : Tunnel τ) (steps : List (TunnelStep τ)) : Tunnel τ :=
  steps.foldl (step P) tunnel

/-- A new engine with a cipher of `create_cipher`. -/
def newEnd (P : Primitives) (secret : Bytes) (sessionId packetsPerKey : ℕ) (role : EndpointRole)
    (remoteAddress : Address) (keepaliveInterval livenessTimeout now : τ) :
    Except PyError (TunnelEngine τ) := do
  let cipher ← (createCipher P secret sessionId role packetsPerKey ()).result
  TunnelEngine.new remoteAddress sessionId (some cipher) keepaliveInterval livenessTimeout now

/-- Two new engines with the ciphers of one secret, session id and `packets_per_key`. -/
def new (P : Primitives) (secret : Bytes) (sessionId packetsPerKey : ℕ)
    (remoteAddress : EndpointRole → Address)
    (keepaliveInterval livenessTimeout now : EndpointRole → τ) : Except PyError (Tunnel τ) := do
  let newEnd := fun role => newEnd P secret sessionId packetsPerKey role (remoteAddress role)
    (keepaliveInterval role) (livenessTimeout role) (now role)
  let client ← newEnd .client
  let server ← newEnd .server
  return { engine := fun | .client => client | .server => server, trace := [] }

end Tunnel

/-- The operating system accepts the datagrams of the iteration. -/
def TunnelStep.SendsSucceed {τ : Type} (s : TunnelStep τ) : Prop :=
  s.input.tunSendFailure = none ∧ s.input.keepaliveSendFailure = none

instance {τ : Type} (s : TunnelStep τ) : Decidable s.SendsSucceed :=
  inferInstanceAs (Decidable (_ ∧ _))

/-! ## The specification -/

/-- What one end of a tunnel knows of the genuine traffic: the packets its peer sent with
their datagrams, the sequence numbers accepted and the payloads delivered. -/
structure Delivery where
  sent : List (Packet × Bytes)
  accepted : List ℕ
  delivered : List Bytes

namespace Delivery

/-- The sequence number was not accepted before and is less than a window below the
highest accepted one. -/
def Fresh (d : Delivery) (n : ℕ) : Prop :=
  n ∉ d.accepted ∧ ∀ m ∈ d.accepted, (m : ℤ) - defaultReplayWindowSize < n

instance (d : Delivery) (n : ℕ) : Decidable (d.Fresh n) :=
  inferInstanceAs (Decidable (_ ∧ _))

/-- The packet that the peer sent as this datagram. -/
def find (d : Delivery) (data : Bytes) : Option Packet :=
  (d.sent.find? fun s => s.2 = data).map Prod.fst

/-- A packet is accepted; a DATA packet is delivered as well. -/
def accept (d : Delivery) (packet : Packet) : Delivery :=
  { d with
    accepted := packet.sequenceNumber :: d.accepted
    delivered :=
      if packet.messageType = .data then d.delivered ++ [packet.payload] else d.delivered }

/-- A datagram arrives: a datagram of the peer with a fresh number is accepted. -/
def arrive (d : Delivery) (data : Bytes) : Delivery :=
  match d.find data with
  | some packet => if d.Fresh packet.sequenceNumber then d.accept packet else d
  | none => d

variable {τ : Type}

/-- An effect of either end, for the end in `role` with the given remote address. -/
def event (role : EndpointRole) (remoteAddress : Address) (d : Delivery) :
    EndpointRole × Effect τ → Delivery
  | (r, .send plain data _) => if r = role.peer then { d with sent := d.sent ++ [(plain, data)] }
      else d
  | (r, .receive data source) => if r = role ∧ source = remoteAddress then d.arrive data else d
  | _ => d

end Delivery

/-- What the end in `role` should have accepted and delivered after a trace. -/
def deliveries {τ : Type} (role : EndpointRole) (remoteAddress : Address)
    (trace : List (EndpointRole × Effect τ)) : Delivery :=
  trace.foldl (Delivery.event role remoteAddress) ⟨[], [], []⟩

/-- A datagram that authenticates under the key of an end belongs to one of the AES-GCM
encryptions in the log. -/
def Genuine (P : Primitives) (secret : Bytes) (sessionId : ℕ) (role : EndpointRole)
    (packetsPerKey : ℕ) (log : List AesCall) (data : Bytes) : Prop :=
  ∀ plain ∈ openDatagram P secret sessionId role packetsPerKey data,
    sealCall P secret sessionId role packetsPerKey plain ∈ log

instance (P : Primitives) (secret : Bytes) (sessionId : ℕ) (role : EndpointRole)
    (packetsPerKey : ℕ) (log : List AesCall) (data : Bytes) :
    Decidable (Genuine P secret sessionId role packetsPerKey log data) :=
  inferInstanceAs (Decidable (∀ plain ∈ openDatagram _ _ _ _ _ _, _))

/-- An arrival at one end is genuine, after the trace `before`. -/
def ArrivesGenuine {τ : Type} (P : Primitives) (secret : Bytes) (sessionId packetsPerKey : ℕ)
    (before : List (EndpointRole × Effect τ)) : EndpointRole × Effect τ → Prop
  | (role, .receive data _) => Genuine P secret sessionId role.peer packetsPerKey
      (aesCalls (cryptoCalls (effectsOf role.peer before))) data
  | _ => True

instance {τ : Type} (P : Primitives) (secret : Bytes) (sessionId packetsPerKey : ℕ)
    (before : List (EndpointRole × Effect τ)) (e : EndpointRole × Effect τ) :
    Decidable (ArrivesGenuine P secret sessionId packetsPerKey before e) :=
  match e with
  | (_, .receive _ _) => inferInstanceAs (Decidable (Genuine _ _ _ _ _ _ _))
  | (_, .crypto _) | (_, .select _) | (_, .send ..) | (_, .write _) => .isTrue trivial

/-- **The keys are secret.** Only the peer's engine encrypts under the keys that an end
opens datagrams with. -/
def OnlyPeerEncrypts {τ : Type} (P : Primitives) (secret : Bytes) (sessionId packetsPerKey : ℕ)
    (trace : List (EndpointRole × Effect τ)) : Prop :=
  Each (ArrivesGenuine P secret sessionId packetsPerKey) trace

instance {τ : Type} (P : Primitives) (secret : Bytes) (sessionId packetsPerKey : ℕ)
    (trace : List (EndpointRole × Effect τ)) :
    Decidable (OnlyPeerEncrypts P secret sessionId packetsPerKey trace) :=
  inferInstanceAs (Decidable (Each _ trace))

/-! ## The effects of one end -/

section effects

variable {τ : Type} {role role' : EndpointRole}

@[simp] theorem effectsOf_append (s t : List (EndpointRole × Effect τ)) :
    effectsOf role (s ++ t) = effectsOf role s ++ effectsOf role t := List.filterMap_append

/-- An end made the effects that carry its role. -/
@[simp] theorem effectsOf_map_self (l : List (Effect τ)) :
    effectsOf role (l.map (Prod.mk role)) = l := by
  rw [effectsOf, List.filterMap_map]
  have hsome : (fun e : EndpointRole × Effect τ => if e.1 = role then some e.2 else none)
      ∘ Prod.mk role = some := by
    funext e
    simp
  rw [hsome]
  exact List.filterMap_some

/-- An end made none of the effects of its peer. -/
theorem effectsOf_map_of_ne (h : role' ≠ role) (l : List (Effect τ)) :
    effectsOf role (l.map (Prod.mk role')) = [] := by
  rw [effectsOf, List.filterMap_map]
  exact List.filterMap_eq_nil_iff.2 fun _ _ => if_neg h

/-- There are two ends. -/
theorem EndpointRole.eq_peer_of_ne (h : role' ≠ role) : role' = role.peer := by
  cases role <;> cases role' <;> first | rfl | exact absurd rfl h

/-- What holds of one end and of every other one holds of both. -/
theorem EndpointRole.forall_of_ne {p : EndpointRole → Prop} (role : EndpointRole) (hself : p role)
    (h : ∀ role' ≠ role, p role') (role' : EndpointRole) : p role' := by
  by_cases hrole : role' = role
  · rw [hrole]
    exact hself
  · exact h role' hrole

theorem EndpointRole.peer_ne (role : EndpointRole) : role.peer ≠ role := by
  cases role <;> decide

end effects

/-! ## What an end knows -/

section deliveries

variable {τ : Type} {role : EndpointRole} {remote : Address}

theorem deliveries_concat (s : List (EndpointRole × Effect τ)) (e : EndpointRole × Effect τ) :
    deliveries role remote (s ++ [e])
      = Delivery.event role remote (deliveries role remote s) e := List.foldl_concat ..

/-- An arrival does not change what the peer sent. -/
theorem Delivery.sent_arrive (d : Delivery) (data : Bytes) : (d.arrive data).sent = d.sent := by
  unfold Delivery.arrive
  split
  · split
    · rfl
    · rfl
  · rfl

/-- The packets sent by the peer, in order. -/
theorem sent_deliveries (trace : List (EndpointRole × Effect τ)) :
    (deliveries role remote trace).sent
      = (sends (effectsOf role.peer trace)).map fun s => (s.1, s.2.1) := by
  induction trace using List.reverseRecOn with
  | nil => rfl
  | append_singleton l e ih =>
      obtain ⟨r, e⟩ := e
      rw [deliveries_concat, effectsOf_append, sends_append, List.map_append, ← ih]
      by_cases hr : r = role.peer
      · subst hr
        have hne : ¬ role.peer = role := role.peer_ne
        cases e <;> simp [Delivery.event, effectsOf, sends, Effect.send?, hne]
      · have hnil : effectsOf role.peer [(r, e)] = [] := by
          simp [effectsOf, hr]
        rw [hnil, sends_nil, List.map_nil, List.append_nil]
        cases e with
        | receive data source =>
            by_cases hacc : r = role ∧ source = remote
            · simp only [Delivery.event, if_pos hacc, Delivery.sent_arrive]
            · simp only [Delivery.event, if_neg hacc]
        | send plain data destination => simp only [Delivery.event, if_neg hr]
        | crypto call => rfl
        | select timeout => rfl
        | write payload => rfl

/-- What the peer does changes neither what an end accepted nor what it delivered. -/
theorem deliveries_peer (role : EndpointRole) (remote : Address)
    (s : List (EndpointRole × Effect τ)) (l : List (Effect τ)) :
    (deliveries role remote (s ++ l.map (Prod.mk role.peer))).accepted
        = (deliveries role remote s).accepted ∧
      (deliveries role remote (s ++ l.map (Prod.mk role.peer))).delivered
        = (deliveries role remote s).delivered := by
  induction l using List.reverseRecOn with
  | nil => simp
  | append_singleton l e ih =>
      rw [List.map_append, ← List.append_assoc, List.map_singleton, deliveries_concat, ← ih.1,
        ← ih.2]
      have hne : ¬ role.peer = role := role.peer_ne
      cases e <;> simp [Delivery.event, hne]

/-- An effect of the end itself that is no arrival changes nothing it knows. -/
theorem deliveries_self {l : List (Effect τ)} (hl : ∀ e ∈ l, ∀ data source,
    e ≠ .receive data source) (s : List (EndpointRole × Effect τ)) :
    deliveries role remote (s ++ l.map (Prod.mk role)) = deliveries role remote s := by
  induction l using List.reverseRecOn with
  | nil => simp
  | append_singleton l e ih =>
      rw [List.map_append, ← List.append_assoc, List.map_singleton, deliveries_concat,
        ih fun e he => hl e (List.mem_append_left _ he)]
      have hne : ¬ role = role.peer := role.peer_ne.symm
      cases e with
      | receive data source => exact absurd rfl (hl _ (by simp) data source)
      | send plain data destination => simp only [Delivery.event, if_neg hne]
      | crypto call => rfl
      | select timeout => rfl
      | write payload => rfl

end deliveries

end MatfVpn
