/-
# The records and the descriptors of an endpoint (`cli.py`, `operations.py`)

The process of an endpoint with all that its surroundings see of it: its packets, its descriptors
and the configuration of its TUN device, its records and the times it sleeps.

* `Logged.main` : the process;
* `Logged.main_erases` : without all that but its packets it is the process as before.
-/
import MatfVpn.Descriptors

namespace MatfVpn

open Program

/-! ## Records -/

/-- A record of the endpoint, with what it knows besides its options. -/
inductive EndpointRecord (τ : Type) where
  | sessionEstablished (tunName : String) (localAddress : Address) (sessionId : ℤ)
      (encrypted : Bool)
  | reconnectScheduled (attempt : ℕ) (delaySeconds : τ) (error : PyError)
  | endpointStopped
  deriving DecidableEq

/-- What a process with a log does. -/
inductive LoggedEffect (τ : Type) where
  | session (e : SessionEffect τ)
  | log (record : EndpointRecord τ)
  | sleep (seconds : τ)
  deriving DecidableEq

/-- What a process with a log and descriptors does. -/
abbrev ProcessEffect (τ : Type) := DescriptorEffect (LoggedEffect τ)

namespace DescriptorEffect

variable {τ : Type}

/-- An effect of a session. -/
@[match_pattern] abbrev session (e : SessionEffect τ) : ProcessEffect τ := .effect (.session e)

/-- A record. -/
@[match_pattern] abbrev log (record : EndpointRecord τ) : ProcessEffect τ := .effect (.log record)

/-- A sleep. -/
@[match_pattern] abbrev sleep (seconds : τ) : ProcessEffect τ := .effect (.sleep seconds)

/-- The effect of a process without a log. -/
def session? : ProcessEffect τ → Option (SessionEffect τ)
  | session e => some e
  | _ => none

theorem session?_session (e : SessionEffect τ) : session? (session e) = some e := rfl

theorem hides_session? : Descriptors.Hides (session? (τ := τ)) where
  opened _ := rfl
  closed _ := rfl
  lost _ := rfl
  command _ := rfl

/-- The record of an effect. -/
def log? : ProcessEffect τ → Option (EndpointRecord τ)
  | log record => some record
  | _ => none

/-- The time of a sleep. -/
def sleep? : ProcessEffect τ → Option τ
  | sleep seconds => some seconds
  | _ => none

end DescriptorEffect

/-- What the surroundings answer during one session and the sleep after it. -/
structure LoggedInput (τ : Type) where
  udp : UdpAnswers τ
  entropy : ClientEntropy
  attempt : ℕ → AttemptInput
  tun : TunAnswers
  /-- The exceptions of the two `ip` commands of `configure_tun`, if any. -/
  ipAddress : Option PyError
  ipLink : Option PyError
  /-- `transport.local_address`. -/
  localAddress : Address
  startClock : τ
  iterations : List (IterationInput τ)
  /-- The exception of `sleep`, if any. -/
  sleepFailure : Option PyError

/-- The answers to a process without descriptors. -/
def LoggedInput.toSessionInput {τ : Type} (input : LoggedInput τ) : SessionInput τ where
  bindFailure := input.udp.failure
  entropy := input.entropy
  attempt := input.attempt
  tunDevice := input.tun.result
  ipAddress := input.ipAddress
  ipLink := input.ipLink
  startClock := input.startClock
  iterations := input.iterations

/-! ## The process -/

namespace Logged

variable {τ : Type} [Zero τ] [Add τ] [Sub τ] [LT τ] [LE τ] [DecidableEq τ] [DecidableLT τ]
  [DecidableLE τ]

/-- The timeout of the transport before the handshake. -/
def transportTimeout (options : EndpointConfig τ) : Option τ :=
  if options.ephemeralHandshake then some options.handshakeTimeout else none

/-- The body of the inner `with` of `run_session`. -/
def runTunnel (P : Primitives) (options : EndpointConfig τ) (input : LoggedInput τ)
    (session : ℤ × Option Cipher) (tunName : String) :
    Program PyError (ProcessEffect τ) Unit Unit := do
  Descriptors.configureTun tunName options.tunAddress options.mtu input.ipAddress input.ipLink
  emit (.log (.sessionEstablished tunName input.localAddress session.1 session.2.isSome))
  let engine ← ofExcept (TunnelEngine.new options.peer session.1 session.2
    options.keepaliveInterval options.livenessTimeout input.startClock)
  lift .session (zoom (fun _ => engine) (fun _ s => s) .effect
    (TunnelEngine.run P input.iterations))

/-- `run_session`. -/
def runSession (P : Primitives) (options : EndpointConfig τ) (keys : SessionKeys)
    (input : LoggedInput τ) : Program PyError (ProcessEffect τ) Unit Unit :=
  Descriptors.withUdpTransport options.bind (transportTimeout options) input.udp do
    let session ← lift .session (establish P options input.toSessionInput keys)
    Descriptors.withTunDevice options.tunName input.tun (runTunnel P options input session)

/-- The loop of `run_with_reconnect`, after `attempts` sessions that failed. -/
def reconnect (P : Primitives) (options : EndpointConfig τ) (keys : SessionKeys) :
    ℕ → List (LoggedInput τ) → Program PyError (ProcessEffect τ) Unit Unit
  | _, [] => return ()
  | attempts, input :: inputs => do
      match ← attempt (runSession P options keys input) with
      | .ok () => return ()
      | .error e =>
          if e.isOSError then do
            emit (.log (.reconnectScheduled (attempts + 1) options.reconnectDelay e))
            emit (.sleep options.reconnectDelay)
            raises input.sleepFailure
            reconnect P options keys (attempts + 1) inputs
          else raise e

/-- `run_with_reconnect`. -/
def runWithReconnect (P : Primitives) (options : EndpointConfig τ) (keys : SessionKeys)
    (inputs : List (LoggedInput τ)) : Program PyError (ProcessEffect τ) Unit Unit :=
  if options.reconnectDelay < 0 then
    raise (.valueError "reconnect_delay must not be negative")
  else reconnect P options keys 0 inputs

/-- The sessions of `main`. -/
def runSessions (P : Primitives) (options : EndpointConfig τ) (keys : SessionKeys)
    (inputs : List (LoggedInput τ)) : Program PyError (ProcessEffect τ) Unit Unit :=
  if options.ephemeralHandshake then runWithReconnect P options keys inputs
  else
    match inputs with
    | [] => return ()
    | input :: _ => runSession P options keys input

/-- `main`. -/
def main (P : Primitives) (options : EndpointConfig τ) (files : KeyFiles)
    (inputs : List (LoggedInput τ)) : Program PyError (ProcessEffect τ) Unit ℕ := do
  ofExcept (checkOptions options)
  let keys ← lift .session (loadKeys P options files)
  match ← attempt (runSessions P options keys inputs) with
  | .ok () => return 0
  | .error .keyboardInterrupt => do
      emit (.log .endpointStopped)
      return 0
  | .error e => raise e

/-! ## Its packets -/

/-- No descriptor fails to close after the session, and no exception ends the sleep. -/
structure Undisturbed (input : LoggedInput τ) : Prop where
  udp : input.udp.close = none
  tun : input.tun.close = none
  sleep : input.sleepFailure = none

variable {P : Primitives} {options : EndpointConfig τ} {keys : SessionKeys} {files : KeyFiles}

theorem runSession_erases {input : LoggedInput τ} (hinput : Undisturbed input) :
    Erases DescriptorEffect.session? (runSession P options keys input)
      (MatfVpn.runSession P options keys input.toSessionInput) := by
  have hlift := @DescriptorEffect.session?_session τ
  have hhides := @DescriptorEffect.hides_session? τ
  refine Descriptors.withUdpTransport_erases hhides hinput.udp
    ((Erases.lift hlift _).bind fun session => ?_)
  refine Descriptors.withTunDevice_erases hhides hinput.tun fun tunName => ?_
  refine Erases.bind (Descriptors.configureTun_erases hhides _ _ _ _ _) fun _ => ?_
  exact .hidden_bind rfl ((Erases.ofExcept _).bind fun engine => Erases.lift hlift _)

theorem reconnect_erases (inputs : List (LoggedInput τ))
    (hinputs : ∀ input ∈ inputs, Undisturbed input) (attempts : ℕ) :
    Erases DescriptorEffect.session? (reconnect P options keys attempts inputs)
      (MatfVpn.reconnect P options keys (inputs.map LoggedInput.toSessionInput)) := by
  induction inputs generalizing attempts with
  | nil => exact .pure ()
  | cons input inputs ih =>
    obtain ⟨hinput, hinputs⟩ := List.forall_mem_cons.1 hinputs
    rw [List.map_cons]
    refine (runSession_erases hinput).attempt.bind fun result => ?_
    rcases result with e | ⟨⟩
    · refine .ite _ (.hidden_bind rfl (.hidden_bind rfl ?_)) (.raise e)
      rw [hinput.sleep]
      exact ih hinputs (attempts + 1)
    · exact .pure ()

/-- **Records and descriptors change nothing** while they are not disturbed: without them the
process does what it does without a log. -/
theorem main_erases (inputs : List (LoggedInput τ))
    (hinputs : ∀ input ∈ inputs, Undisturbed input) :
    Erases DescriptorEffect.session? (main P options files inputs)
      (MatfVpn.main P options files (inputs.map LoggedInput.toSessionInput)) := by
  refine (Erases.ofExcept _).bind fun _ =>
    (Erases.lift DescriptorEffect.session?_session _).bind fun keys => ?_
  have hsessions : Erases DescriptorEffect.session? (runSessions P options keys inputs)
      (MatfVpn.runSessions P options keys (inputs.map LoggedInput.toSessionInput)) := by
    refine .ite _ (.ite _ (.raise _) (reconnect_erases inputs hinputs 0)) ?_
    cases inputs with
    | nil => exact .pure ()
    | cons input inputs => exact runSession_erases (hinputs input List.mem_cons_self)
  refine hsessions.attempt.bind fun result => ?_
  rcases result with e | ⟨⟩
  · cases e with
    | keyboardInterrupt => exact .hidden_bind rfl (.pure 0)
    | _ => exact .raise _
  · exact .pure 0

end Logged

end MatfVpn
