/-
# Two processes and a lossy network

A client and a server process with matching profiles.  The network delivers the datagrams
between them in any order and may lose any of them; the calls of each process into its
operating system may fail as long as the process goes on.  The profiles hold numbers of seconds,
also infinite ones and NaN; the clocks show times.

* `Pair.step` : a step of one process, or of the network;
* `Pair.Reachable`, `Pair.Recoverable` : the states that `main` reaches, and the ones from
  which the two processes can get a working session.
-/
import MatfVpn.Lib.Seconds
import MatfVpn.Process

namespace MatfVpn

open Program Relation

/-! ## Profiles -/

/-- Two profiles with ephemeral handshakes that `load_config` accepts, with matching keys and
addresses and one `packets_per_key`. -/
structure Profiles (τ : Type) [AddCommGroup τ] [LinearOrder τ] (P : Primitives) where
  options : EndpointRole → EndpointConfig (Seconds τ)
  /-- The calls of the machine of each process. -/
  waits : EndpointRole → WaitCalls (Seconds τ)
  files : EndpointRole → KeyFiles
  privateKey : EndpointRole → Bytes
  /-- Where the network reaches each process. -/
  address : EndpointRole → Address
  packetsPerKey : ℕ
  valid : ∀ role, (options role).validate = .ok ()
  role_eq : ∀ role, (options role).role = some role
  ephemeral : ∀ role, (options role).ephemeralHandshake = true
  packetsPerKey_eq : ∀ role, (options role).packetsPerKey = packetsPerKey
  privateKey_eq : ∀ role, loadX25519PrivateKey (files role)
    ((options role).privateKeyFile.getD "") = .ok (privateKey role)
  peerKey_eq : ∀ role, loadX25519PublicKey (files role)
    ((options role).peerPublicKeyFile.getD "") = .ok (P.x25519Public (privateKey role.peer))
  peer_eq : ∀ role, (options role).peer = address role.peer

section waits

variable {τ : Type} [AddCommGroup τ] [LinearOrder τ] {P : Primitives}

/-- The timeout of the first `select` in a session, right after the engine is built. -/
def EndpointConfig.firstWait (options : EndpointConfig (Seconds τ)) : Option (Seconds τ) :=
  if options.keepaliveInterval = 0 then none
  else some (pyMin (pyMax 0 options.keepaliveInterval) (pyMax 0 options.livenessTimeout))

namespace Profiles

/-- The process gets into a session: `TunDevice`, `settimeout` and `select` take their arguments. -/
structure Enters (profiles : Profiles τ P) (role : EndpointRole) : Prop where
  tunName : Char.ofNat 0 ∉ (profiles.options role).tunName.toList
  settimeout : (profiles.waits role).settimeout (profiles.options role).handshakeTimeout = none
  select : (profiles.options role).firstWait.bind (profiles.waits role).select = none

/-- The process gets out of a session: its liveness timeout passes, and `sleep` takes the delay. -/
structure Leaves (profiles : Profiles τ P) (role : EndpointRole) : Prop where
  liveness : (profiles.options role).livenessTimeout ≠ 0
  finite : (profiles.options role).livenessTimeout.isFinite = true
  sleep : (profiles.waits role).sleep (profiles.options role).reconnectDelay = none

end Profiles

end waits

/-! ## The model -/

/-- Two processes and the datagrams between them. -/
structure Pair (τ : Type) where
  phase : EndpointRole → Phase (Seconds τ)
  /-- The last time that the process knows. -/
  clock : EndpointRole → Seconds τ
  /-- The datagrams on their way to this process. -/
  toEnd : EndpointRole → List Bytes

/-- What happens next. -/
inductive PairStep (τ : Type) where
  /-- A process goes on, with a datagram on its way to it or without one. -/
  | process (role : EndpointRole) (input : ProcessInput (Seconds τ)) (received : Option ℕ)
  /-- A datagram arrives at a process without a socket. -/
  | unheard (role : EndpointRole) (i : ℕ)
  /-- The network loses a datagram. -/
  | lost (role : EndpointRole) (i : ℕ)

/-- The process has a socket. -/
def Phase.isBound {τ : Type} : Phase τ → Bool
  | .apart => false
  | _ => true

namespace Pair

variable {τ : Type}

/-- Both processes before their first session. -/
def new (start : EndpointRole → τ) : Pair τ :=
  ⟨fun _ => .apart, fun role => .finite (start role), fun _ => []⟩

/-- The datagram on its way to the process, from the address of its peer. -/
def datagram? (address : EndpointRole → Address) (pair : Pair τ) (role : EndpointRole)
    (received : Option ℕ) : Option (Bytes × Address) :=
  received.bind fun i => (pair.toEnd role)[i]?.map fun data => (data, address role.peer)

/-- The datagrams on their way to the process, without this one. -/
def remaining (pair : Pair τ) (role : EndpointRole) : Option ℕ → List Bytes
  | none => pair.toEnd role
  | some i => (pair.toEnd role).eraseIdx i

/-- A datagram on its way is gone. -/
def drop (pair : Pair τ) (role : EndpointRole) (i : ℕ) : Pair τ :=
  { pair with toEnd := Function.update pair.toEnd role (pair.remaining role (some i)) }

/-- The datagrams in a trace to an address. -/
def sentTo (address : Address) (t : List (SessionEffect τ)) : List Bytes :=
  (sends (t.filterMap SessionEffect.effect?)).filterMap fun s =>
    if s.2.2 = address then some s.2.1 else none

section sent

variable (address : Address) (s t : List (SessionEffect τ))

@[simp] theorem sentTo_nil : sentTo address ([] : List (SessionEffect τ)) = [] := rfl

@[simp] theorem sentTo_append : sentTo address (s ++ t) = sentTo address s ++ sentTo address t := by
  unfold sentTo
  rw [List.filterMap_append, sends_append, List.filterMap_append]

@[simp] theorem sentTo_derived (d : Derivation) :
    sentTo address (.derived d :: t) = sentTo address t := rfl

@[simp] theorem sentTo_receive (data : Bytes) (source : Address) :
    sentTo address (.effect (.receive data source) :: t) = sentTo address t := rfl

theorem sentTo_send (plain : Packet) (data : Bytes) :
    sentTo address (.effect (.send plain data address) :: t) = data :: sentTo address t := by
  unfold sentTo
  exact List.filterMap_cons_some (if_pos rfl)

@[simp] theorem sentTo_map_crypto (calls : List CryptoCall) :
    sentTo address (calls.map fun call => .effect (.crypto call) : List (SessionEffect τ))
      = [] := by
  induction calls with
  | nil => rfl
  | cons call calls ih => exact ih

end sent

section step

variable [AddCommGroup τ] [LinearOrder τ]

/-- The process has read its clock before it waits in `select`, which returns after its timeout
when no descriptor is readable. -/
def Waits (clock : Seconds τ) (input : ProcessInput (Seconds τ)) (received : Option ℕ) :
    Phase (Seconds τ) → Prop
  | .running engine => input.iteration.selectClock = clock ∧
      (received.isNone ∧ input.receiveFailure.isNone ∧ input.iteration.tunRead.isNone →
        ∀ timeout ∈ engine.selectTimeout clock none, clock + timeout ≤ input.iteration.loopClock)
  | _ => True

instance (clock : Seconds τ) (input : ProcessInput (Seconds τ)) (received : Option ℕ) :
    (phase : Phase (Seconds τ)) → Decidable (Waits clock input received phase)
  | .running _ => inferInstanceAs (Decidable (_ ∧ (_ → _)))
  | .apart => isTrue trivial
  | .helloSent _ _ _ => isTrue trivial
  | .awaitingHello _ => isTrue trivial

/-- The clock readings of a step come one after the other, and they are times. -/
structure Ticks (clock : Seconds τ) (input : ProcessInput (Seconds τ)) : Prop where
  start : clock ≤ input.startClock
  select : input.startClock ≤ input.iteration.selectClock
  receive : input.iteration.selectClock ≤ input.iteration.receiveClock
  loop : input.iteration.receiveClock ≤ input.iteration.loopClock
  next : input.iteration.loopClock ≤ input.selectClock
  finite : input.selectClock.isFinite = true

instance (clock : Seconds τ) (input : ProcessInput (Seconds τ)) : Decidable (Ticks clock input) :=
  decidable_of_iff (clock ≤ input.startClock ∧ input.startClock ≤ input.iteration.selectClock ∧
      input.iteration.selectClock ≤ input.iteration.receiveClock ∧
      input.iteration.receiveClock ≤ input.iteration.loopClock ∧
      input.iteration.loopClock ≤ input.selectClock ∧ input.selectClock.isFinite = true)
    ⟨fun ⟨hstart, hselect, hreceive, hloop, hnext, hfinite⟩ =>
      ⟨hstart, hselect, hreceive, hloop, hnext, hfinite⟩,
      fun ⟨hstart, hselect, hreceive, hloop, hnext, hfinite⟩ =>
      ⟨hstart, hselect, hreceive, hloop, hnext, hfinite⟩⟩

/-- A process may go on so: it receives through its socket what is on its way, and its clock
does not go back. -/
def Allowed (pair : Pair τ) (role : EndpointRole) (input : ProcessInput (Seconds τ))
    (received : Option ℕ) : Prop :=
  (∀ i ∈ received, i < (pair.toEnd role).length ∧ (pair.phase role).isBound) ∧
    Ticks (pair.clock role) input ∧ Waits (pair.clock role) input received (pair.phase role)

instance (pair : Pair τ) (role : EndpointRole) (input : ProcessInput (Seconds τ))
    (received : Option ℕ) : Decidable (pair.Allowed role input received) :=
  inferInstanceAs (Decidable (_ ∧ _ ∧ _))

variable {P : Primitives} (profiles : Profiles τ P)

/-- What the process does until it waits again. -/
def outcome (pair : Pair τ) (role : EndpointRole) (input : ProcessInput (Seconds τ))
    (received : Option ℕ) :
    Outcome PyError (SessionEffect (Seconds τ)) Unit (Phase (Seconds τ)) :=
  Phase.next P (profiles.waits role) (profiles.options role) (profiles.privateKey role)
    (P.x25519Public (profiles.privateKey role.peer)) input
    (pair.datagram? profiles.address role received) (pair.phase role) ()

/-- The phase in which the process waits again, if it has not ended. -/
def phase? (pair : Pair τ) (role : EndpointRole) (input : ProcessInput (Seconds τ))
    (received : Option ℕ) : Option (Phase (Seconds τ)) :=
  Phase.ofResult (profiles.waits role) (profiles.options role)
    (pair.outcome profiles role input received).result

/-- The pair after a process went on. -/
def after (pair : Pair τ) (role : EndpointRole) (input : ProcessInput (Seconds τ))
    (received : Option ℕ) (phase : Phase (Seconds τ)) : Pair τ where
  phase := Function.update pair.phase role phase
  clock := Function.update pair.clock role input.selectClock
  toEnd := fun r =>
    if r = role then pair.remaining role received
    else pair.toEnd r ++
      sentTo (profiles.address r) (pair.outcome profiles role input received).trace

/-- One step.  There is no next state when the process ends. -/
def step (pair : Pair τ) : PairStep τ → Option (Pair τ)
  | .process role input received =>
      if pair.Allowed role input received then
        (pair.phase? profiles role input received).map (pair.after profiles role input received)
      else none
  | .unheard role i => if (pair.phase role).isBound then none else some (pair.drop role i)
  | .lost role i => some (pair.drop role i)

variable {profiles} {pair pair' : Pair τ} {role : EndpointRole}

section after

variable {input : ProcessInput (Seconds τ)} {received : Option ℕ} {phase : Phase (Seconds τ)}
  {role' : EndpointRole}

theorem after_phase_self :
    (pair.after profiles role input received phase).phase role = phase := Function.update_self ..

theorem after_phase_of_ne (h : role' ≠ role) :
    (pair.after profiles role input received phase).phase role' = pair.phase role' :=
  Function.update_of_ne h ..

theorem after_clock_self :
    (pair.after profiles role input received phase).clock role = input.selectClock :=
  Function.update_self ..

theorem after_clock_of_ne (h : role' ≠ role) :
    (pair.after profiles role input received phase).clock role' = pair.clock role' :=
  Function.update_of_ne h ..

theorem after_toEnd_self : (pair.after profiles role input received phase).toEnd role
    = pair.remaining role received := if_pos rfl

theorem after_toEnd_of_ne (h : role' ≠ role) :
    (pair.after profiles role input received phase).toEnd role' = pair.toEnd role' ++
      sentTo (profiles.address role') (pair.outcome profiles role input received).trace := if_neg h

end after

/-- **A step of a process.** -/
theorem step_process {input : ProcessInput (Seconds τ)} {received : Option ℕ} :
    pair.step profiles (.process role input received) = some pair' ↔
      pair.Allowed role input received ∧
        ∃ phase, pair.phase? profiles role input received = some phase ∧
          pair' = pair.after profiles role input received phase := by
  show (if pair.Allowed role input received then _ else _) = _ ↔ _
  by_cases hallowed : pair.Allowed role input received
  · rw [if_pos hallowed, Option.map_eq_some_iff]
    constructor
    · rintro ⟨phase, hphase, rfl⟩
      exact ⟨hallowed, phase, hphase, rfl⟩
    · rintro ⟨-, phase, hphase, rfl⟩
      exact ⟨phase, hphase, rfl⟩
  · rw [if_neg hallowed]
    exact ⟨nofun, fun h => absurd h.1 hallowed⟩

/-- A datagram that arrives at a process without a socket. -/
theorem step_unheard {i : ℕ} :
    pair.step profiles (.unheard role i) = some pair' ↔
      (pair.phase role).isBound = false ∧ pair' = pair.drop role i := by
  show (if (pair.phase role).isBound then _ else _) = _ ↔ _
  cases (pair.phase role).isBound with
  | true => exact ⟨nofun, nofun⟩
  | false => exact ⟨fun h => ⟨rfl, (Option.some.inj h).symm⟩, fun h => congrArg some h.2.symm⟩

end step

end Pair

/-! ## Reachable and recoverable states -/

/-- No call of the process into its operating system fails. -/
structure ProcessInput.Healthy {τ : Type} (input : ProcessInput τ) : Prop where
  bindFailure : input.bindFailure = none
  receiveFailure : input.receiveFailure = none
  sendFailure : input.sendFailure = none
  tunDevice : ∃ name, input.tunDevice = .ok name
  ipAddress : input.ipAddress = none
  ipLink : input.ipLink = none
  tunRead : ∀ e, input.iteration.tunRead ≠ some (.error e)
  tunSendFailure : input.iteration.tunSendFailure = none
  tunWrite : ∀ payload, input.iteration.tunWrite payload = .ok payload.length
  keepaliveSendFailure : input.iteration.keepaliveSendFailure = none

/-- A step without a failure of an operating system, and without loss. -/
def PairStep.Healthy {τ : Type} : PairStep τ → Prop
  | .process _ input _ => input.Healthy
  | .unheard _ _ => True
  | .lost _ _ => False

namespace Pair

variable {τ : Type}

/-- Both processes are in `TunnelEngine.run`, with one session id and with ciphers that decrypt
each other's packets. -/
structure Connected (P : Primitives) (pair : Pair τ) : Prop where
  engines : ∃ client server clientCipher serverCipher,
    pair.phase .client = .running client ∧ pair.phase .server = .running server ∧
      client.sessionId = server.sessionId ∧ client.cipher = some clientCipher ∧
      server.cipher = some serverCipher ∧ clientCipher.Interoperate P serverCipher

/-- A running engine has not used up its 64-bit packet numbers. -/
def CanSend (pair : Pair τ) : Prop :=
  ∀ role engine, pair.phase role = .running engine → engine.sequenceNumber ≤ maxSequenceNumber

variable [AddCommGroup τ] [LinearOrder τ] {P : Primitives} (profiles : Profiles τ P)

/-- The states that the two processes reach, from any start of their clocks. -/
def Reachable (pair : Pair τ) : Prop :=
  ∃ start, ReflTransGen (fun a b => ∃ s, a.step profiles s = some b) (new start) pair

/-- One state is reached from the other without failures and without loss. -/
def Continues : Pair τ → Pair τ → Prop :=
  ReflTransGen fun a b => ∃ s, s.Healthy ∧ a.step profiles s = some b

/-- **A working session can be reached** from here, where every datagram is delivered that is
sent from now on, and any of the ones already on their way. -/
def Recoverable (pair : Pair τ) : Prop :=
  ∃ kept : EndpointRole → List Bytes, (∀ role, (kept role).Sublist (pair.toEnd role)) ∧
    ∃ reached : Pair τ, Continues profiles { pair with toEnd := kept } reached ∧
      reached.Connected P ∧ ∀ role, reached.toEnd role = []

end Pair

end MatfVpn
