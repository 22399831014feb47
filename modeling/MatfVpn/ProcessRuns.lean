/-
# The steps of a process and the runs of `main`

What is left of a session when its process waits is a program (`Phase.rest`).  It is a step of
the process and what is left then, and every step of a process is a step of a session.

* `Phase.rest_eq_next`, `Phase.exists_rest` : a session and the steps of its process;
* `Pair.Reachable.main` : every reachable state of a pair is a state of two runs of `main`.
-/
import MatfVpn.ProcessProgress

namespace MatfVpn

open Program Relation

/-! ## Attempts -/

section attempts

variable {τ : Type} {P : Primitives} {options : EndpointConfig τ} {privateKey peerKey : Bytes}

/-- The first attempt of the client. -/
theorem clientAttempts_succ (remoteAddress : Address) (hello : Packet)
    (state : ClientHandshakeState) (packetsPerKey : ℤ) (input : ℕ → AttemptInput) (attempts : ℕ) :
    (clientAttempts P remoteAddress hello state packetsPerKey input (attempts + 1) 0 :
      Program PyError (SessionEffect τ) Unit _) = (do
        lift .effect (transportSend hello hello remoteAddress (input 0).sendFailure)
        match ← clientReceive P remoteAddress state packetsPerKey (input 0).arrival with
        | some session => return session
        | none =>
            clientAttempts P remoteAddress hello state packetsPerKey (fun k => input (k + 1))
              attempts 0) := by
  rw [clientAttempts_eq_retry, retry, retry_later]
  simp only [clientAttempts_eq_retry]
  show ((lift .effect (transportSend hello hello remoteAddress (input 0).sendFailure) >>=
    fun _ => clientReceive P remoteAddress state packetsPerKey (input 0).arrival) >>= _) = _
  rw [Program.bind_assoc]
  refine bind_congr fun _ => bind_congr fun r => ?_
  cases r <;> rfl

/-- The first attempt of the server. -/
theorem serverAttempts_succ (remoteAddress : Address) (packetsPerKey : ℤ)
    (input : ℕ → AttemptInput) (attempts : ℕ) :
    (serverAttempts P remoteAddress privateKey peerKey packetsPerKey input (attempts + 1) 0 :
      Program PyError (SessionEffect τ) Unit _) = (do
        match ← serverAttempt P remoteAddress privateKey peerKey packetsPerKey (input 0) with
        | some session => return session
        | none =>
            serverAttempts P remoteAddress privateKey peerKey packetsPerKey
              (fun k => input (k + 1)) attempts 0) := by
  rw [serverAttempts_eq_retry, retry, retry_later]
  simp only [serverAttempts_eq_retry]
  refine bind_congr fun r => ?_
  cases r <;> rfl

end attempts

/-! ## Without refusals -/

/-- Calls that refuse no number of seconds. -/
def WaitCalls.unlimited {τ : Type} : WaitCalls τ := ⟨fun _ => none, fun _ => none, fun _ => none⟩

section unlimited

variable {τ : Type} {P : Primitives} {W : WaitCalls τ} {options : EndpointConfig τ}
  {privateKey peerKey : Bytes}

/-- The process has ended because a call refused its number of seconds. -/
def Refused {α : Type} (o : Outcome PyError (SessionEffect τ) Unit α) : Prop :=
  ∃ e, o.result = .error e ∧ e.isOSError = false

/-- What comes before keeps a refusal. -/
theorem same_or_refused_bind {α β : Type} {m : Program PyError (SessionEffect τ) Unit α}
    {f g : α → Program PyError (SessionEffect τ) Unit β}
    (h : ∀ a, f a () = g a () ∨ Refused (f a ())) :
    (m >>= f) () = (m >>= g) () ∨ Refused ((m >>= f) ()) := by
  rcases hm : m () with ⟨e | a, ⟨⟩, t⟩
  · exact Or.inl ((bind_of_error hm f).trans (bind_of_error hm g).symm)
  · rw [bind_of_ok hm, bind_of_ok hm]
    rcases h a with hsame | ⟨e, he, hos⟩
    · exact Or.inl (congrArg (Outcome.after t) hsame)
    · exact Or.inr ⟨e, he, hos⟩

/-- A call refuses its number of seconds, or it is as without refusals. -/
theorem refuses_or {α : Type} (error : Option WaitError)
    (m : Program PyError (SessionEffect τ) Unit α) :
    (refuses error >>= fun _ => m) () = m () ∨ Refused ((refuses error >>= fun _ => m) ()) := by
  rcases error with _ | (message | message)
  · exact Or.inl (congrFun (Program.pure_bind () fun _ => m) ())
  · exact Or.inr ⟨_, rfl, rfl⟩
  · exact Or.inr ⟨_, rfl, rfl⟩

/-- The socket takes its timeout. -/
theorem settimeout_unlimited {α : Type} (timeout : τ)
    (m : Program PyError (SessionEffect τ) Unit α) :
    (refuses ((@WaitCalls.unlimited τ).settimeout timeout) >>= fun _ => m) = m :=
  Program.pure_bind () fun _ => m

variable [Zero τ] [Add τ] [Sub τ] [LT τ] [LE τ] [DecidableEq τ] [DecidableLT τ] [DecidableLE τ]

omit [Add τ] [LE τ] [DecidableLE τ] in
/-- `select` takes its timeout. -/
theorem awaitSelect_unlimited (engine : TunnelEngine τ) (now : τ) :
    (awaitSelect .unlimited engine now : Program PyError (SessionEffect τ) Unit (Phase τ))
      = pure (.running engine) := by
  unfold awaitSelect
  have hnone : (engine.selectTimeout now none).bind (@WaitCalls.unlimited τ).select = none := by
    cases engine.selectTimeout now none <;> rfl
  rw [hnone]
  exact Program.pure_bind () _

omit [Add τ] [LE τ] [DecidableLE τ] in
theorem awaitSelect_or (engine : TunnelEngine τ) (now : τ) :
    awaitSelect W engine now () = awaitSelect .unlimited engine now () ∨
      Refused (awaitSelect W engine now ()) := by
  rw [awaitSelect_unlimited]
  exact refuses_or _ _

theorem enterTunnel_or (input : ProcessInput τ) (sessionId : ℤ) (cipher : Cipher) :
    enterTunnel W options input sessionId cipher ()
        = enterTunnel .unlimited options input sessionId cipher () ∨
      Refused (enterTunnel W options input sessionId cipher ()) :=
  same_or_refused_bind fun _ => same_or_refused_bind fun _ => same_or_refused_bind fun engine =>
    awaitSelect_or engine input.selectClock

/-- **A step that no refusal ends** is one of a process without refusals. -/
theorem Phase.next_or (input : ProcessInput τ) (datagram : Option (Bytes × Address))
    (phase : Phase τ) :
    Phase.next P W options privateKey peerKey input datagram phase ()
        = Phase.next P .unlimited options privateKey peerKey input datagram phase () ∨
      Refused (Phase.next P W options privateKey peerKey input datagram phase ()) := by
  cases phase with
  | apart =>
    refine same_or_refused_bind fun _ => ?_
    exact refuses_or _ _
  | helloSent hello state attempts =>
    refine same_or_refused_bind fun session => ?_
    cases session with
    | none => exact Or.inl rfl
    | some session => exact enterTunnel_or input session.1 session.2
  | awaitingHello attempts =>
    refine same_or_refused_bind fun session => ?_
    cases session with
    | none => exact Or.inl rfl
    | some session => exact enterTunnel_or input session.1 session.2
  | running engine => exact same_or_refused_bind fun engine => awaitSelect_or engine _

end unlimited

/-! ## What is left of a session -/

section rest

variable {τ : Type} [Zero τ] [Add τ] [Sub τ] [LT τ] [LE τ] [DecidableEq τ] [DecidableLT τ]
  [DecidableLE τ] (P : Primitives) (options : EndpointConfig τ) (privateKey peerKey : Bytes)

/-- `run_session` after the handshake. -/
def runTunnel (input : SessionInput τ) (session : ℤ × Cipher) :
    Program PyError (SessionEffect τ) Unit Unit := do
  let _ ← ofExcept (newTunDevice options.tunName input.tunDevice)
  ofExcept (configureTun options.mtu input.ipAddress input.ipLink)
  let engine ← ofExcept (TunnelEngine.new options.peer session.1 (some session.2)
    options.keepaliveInterval options.livenessTimeout input.startClock)
  zoom (fun _ => engine) (fun _ s => s) .effect (TunnelEngine.run P input.iterations)

/-- What is left of a session when its process waits. -/
def Phase.rest (input : SessionInput τ) :
    Phase τ → Program PyError (SessionEffect τ) Unit Unit
  | .apart => runSession P options (.ephemeral privateKey peerKey) input
  | .helloSent hello state attempts => do
      match ← clientReceive P options.peer state options.packetsPerKey
        (input.attempt 0).arrival with
      | some session => runTunnel P options input session
      | none => do
          let session ← clientAttempts P options.peer hello state options.packetsPerKey
            (fun k => input.attempt (k + 1)) attempts 0
          runTunnel P options input session
  | .awaitingHello attempts => do
      let session ← serverAttempts P options.peer privateKey peerKey options.packetsPerKey
        input.attempt (attempts + 1) 0
      runTunnel P options input session
  | .running engine =>
      zoom (fun _ => engine) (fun _ s => s) .effect (TunnelEngine.run P input.iterations)

variable {P options privateKey peerKey}

/-- A session with a handshake. -/
theorem runSession_eq (hephemeral : options.ephemeralHandshake = true) (input : SessionInput τ) :
    runSession P options (.ephemeral privateKey peerKey) input = (do
      raises (input.bindFailure options.bind (some options.handshakeTimeout))
      let session ← handshake P options input privateKey peerKey
      runTunnel P options input session) := by
  unfold runSession
  simp only [hephemeral, if_true]
  congr 1
  funext _
  show ((handshake P options input privateKey peerKey >>= fun x => pure (x.1, some x.2)) >>= _) = _
  rw [Program.bind_assoc]
  rfl

/-- The next attempts of the client. -/
theorem sendHello_rest {input later : SessionInput τ} {a : ℕ → AttemptInput}
    (harrival : (later.attempt 0).arrival = (a 0).arrival)
    (hlater : ∀ k, later.attempt (k + 1) = a (k + 1))
    (htunnel : runTunnel P options later = runTunnel P options input) (hello : Packet)
    (state : ClientHandshakeState) (attempts : ℕ) :
    (clientAttempts P options.peer hello state options.packetsPerKey a attempts 0 >>=
      runTunnel P options input) = (do
        let phase ← sendHello options hello state (a 0).sendFailure attempts
        phase.rest P options privateKey peerKey later) := by
  cases attempts with
  | zero => rfl
  | succ attempts =>
      rw [clientAttempts_succ, Program.bind_assoc]
      show _ = (lift SessionEffect.effect
        (transportSend hello hello options.peer (a 0).sendFailure) >>= fun _ =>
          pure (Phase.helloSent hello state attempts)) >>= _
      rw [Program.bind_assoc, Program.bind_assoc]
      refine bind_congr fun _ => ?_
      rw [Program.pure_bind]
      simp only [Phase.rest, harrival]
      refine bind_congr fun r => ?_
      cases r with
      | none =>
          simp only [hlater, htunnel]
      | some session =>
          simp only [htunnel]
          rfl

/-- The next attempts of the server. -/
theorem awaitHello_rest {input later : SessionInput τ} {a : ℕ → AttemptInput}
    (hattempt : later.attempt = a)
    (htunnel : runTunnel P options later = runTunnel P options input) (attempts : ℕ) :
    (serverAttempts P options.peer privateKey peerKey options.packetsPerKey a attempts 0 >>=
      runTunnel P options input) = (do
        let phase ← awaitHello attempts
        phase.rest P options privateKey peerKey later) := by
  cases attempts with
  | zero => rfl
  | succ attempts =>
      show _ = Phase.rest P options privateKey peerKey later (.awaitingHello attempts)
      rw [Phase.rest, hattempt, htunnel]

/-- The rest of a session after its handshake. -/
theorem enterTunnel_rest {input later : SessionInput τ} {next : ProcessInput τ}
    (htun : input.tunDevice = next.tunDevice) (haddress : input.ipAddress = next.ipAddress)
    (hlink : input.ipLink = next.ipLink) (hstart : input.startClock = next.startClock)
    (hiterations : later.iterations = input.iterations) (session : ℤ × Cipher) :
    runTunnel P options input session = (do
      let phase ← enterTunnel .unlimited options next session.1 session.2
      phase.rest P options privateKey peerKey later) := by
  unfold runTunnel enterTunnel
  rw [htun, haddress, hlink, hstart, Program.bind_assoc]
  refine bind_congr fun _ => ?_
  rw [Program.bind_assoc]
  refine bind_congr fun _ => ?_
  rw [Program.bind_assoc]
  refine bind_congr fun engine => ?_
  rw [awaitSelect_unlimited, Program.pure_bind]
  simp only [Phase.rest, hiterations]

end rest

/-! ## Inputs -/

section inputs

variable {τ : Type} {options : EndpointConfig τ}

/-- What a step of a process reads of what a session reads. -/
def SessionInput.process (options : EndpointConfig τ) (input : SessionInput τ)
    (sendFailure : Option PyError) : ProcessInput τ where
  bindFailure := input.bindFailure options.bind (some options.handshakeTimeout)
  entropy := input.entropy
  serverEntropy := (input.attempt 0).entropy
  receiveFailure := raised? (input.attempt 0).arrival
  sendFailure := sendFailure
  tunDevice := input.tunDevice
  ipAddress := input.ipAddress
  ipLink := input.ipLink
  startClock := input.startClock
  iteration := (ProcessInput.quiet input.startClock input.startClock).iteration
  selectClock := input.startClock

theorem SessionInput.arrival_process (input : SessionInput τ) (sendFailure : Option PyError) :
    (input.process options sendFailure).arrival (input.attempt 0).arrival.toOption
      = (input.attempt 0).arrival := by
  unfold ProcessInput.arrival SessionInput.process
  cases (input.attempt 0).arrival with
  | ok d => rfl
  | error e => rfl

theorem ProcessInput.exists_iterationInput (iteration : IterationInput τ) :
    ∃ (input : ProcessInput τ) (datagram : Option (Bytes × Address)),
      input.iterationInput datagram = iteration := by
  let quiet := ProcessInput.quiet iteration.selectClock iteration.selectClock
  rcases hreceive : iteration.udpReceive with _ | e | d
  · refine ⟨{ quiet with iteration := iteration }, none, ?_⟩
    show { iteration with udpReceive := none } = iteration
    rw [← hreceive]
  · refine ⟨{ quiet with iteration := iteration, receiveFailure := some e }, none, ?_⟩
    show { iteration with udpReceive := some (.error e) } = iteration
    rw [← hreceive]
  · refine ⟨{ quiet with iteration := iteration }, some d, ?_⟩
    show { iteration with udpReceive := some (.ok d) } = iteration
    rw [← hreceive]

/-- One attempt and then these. -/
def consAttempt (first : AttemptInput) (a : ℕ → AttemptInput) : ℕ → AttemptInput
  | 0 => first
  | k + 1 => a k

/-- A session that opens its tunnel as in the step. -/
def ProcessInput.entering (next : ProcessInput τ) (later : SessionInput τ)
    (attempt : ℕ → AttemptInput) : SessionInput τ :=
  { later with
    attempt := attempt
    tunDevice := next.tunDevice
    ipAddress := next.ipAddress
    ipLink := next.ipLink
    startClock := next.startClock }

/-- The attempts of the session, the first of which sends its hello as in the step. -/
def ProcessInput.resent (next : ProcessInput τ) (later : SessionInput τ) : ℕ → AttemptInput :=
  consAttempt { later.attempt 0 with sendFailure := next.sendFailure }
    fun k => later.attempt (k + 1)

theorem ProcessInput.arrival_resent (next : ProcessInput τ) (later : SessionInput τ) :
    (later.attempt 0).arrival = (next.resent later 0).arrival := rfl

theorem ProcessInput.resent_succ (next : ProcessInput τ) (later : SessionInput τ) (k : ℕ) :
    later.attempt (k + 1) = next.resent later (k + 1) := rfl

/-- The attempt in which the datagram of the step arrives. -/
def ProcessInput.attempted (next : ProcessInput τ) (datagram : Option (Bytes × Address)) :
    AttemptInput := ⟨next.sendFailure, next.arrival datagram, next.serverEntropy⟩

end inputs

/-! ## Steps -/

section steps

variable {τ : Type} [Zero τ] [Add τ] [Sub τ] [LT τ] [LE τ] [DecidableEq τ] [DecidableLT τ]
  [DecidableLE τ] {P : Primitives} {options : EndpointConfig τ} {privateKey peerKey : Bytes}

/-- The rest of a session after an iteration. -/
theorem Phase.rest_running {input : SessionInput τ} {next : ProcessInput τ}
    {datagram : Option (Bytes × Address)} {engine : TunnelEngine τ} {iteration : IterationInput τ}
    {iterations : List (IterationInput τ)}
    (hiterations : input.iterations = iteration :: iterations)
    (hnext : next.iterationInput datagram = iteration) :
    (Phase.running engine).rest P options privateKey peerKey input = (do
      let phase' ←
        Phase.next P .unlimited options privateKey peerKey next datagram (.running engine)
      phase'.rest P options privateKey peerKey { input with iterations := iterations }) := by
  funext s
  show zoom (fun _ => engine) (fun _ s => s) SessionEffect.effect
    (TunnelEngine.run P input.iterations) s = _
  rw [hiterations]
  rcases hm : TunnelEngine.runOnce P iteration none engine with ⟨e | n, engine', t⟩
  · have hrun : TunnelEngine.run P (iteration :: iterations) engine = ⟨.error e, engine', t⟩ :=
      bind_of_error hm _
    have hstep : Phase.next P .unlimited options privateKey peerKey next datagram
        (.running engine) s = ⟨.error e, s, t.map .effect⟩ := by
      simp only [Phase.next, hnext, zoom, bind, hm]
    rw [bind_of_error hstep, zoom, hrun]
  · have hrun : TunnelEngine.run P (iteration :: iterations) engine
        = Outcome.after t (TunnelEngine.run P iterations engine') := bind_of_ok hm _
    have hstep : Phase.next P .unlimited options privateKey peerKey next datagram
        (.running engine) s = ⟨.ok (.running engine'), s, t.map .effect⟩ := by
      have hread : (zoom (fun _ => engine) (fun _ s => s) .effect (do
          let _ ← TunnelEngine.runOnce P (next.iterationInput datagram) none
          read) : Program PyError (SessionEffect τ) Unit _) s
            = ⟨.ok engine', s, t.map .effect⟩ := by
        rw [zoom, hnext, bind_of_ok hm]
        show (⟨_, _, List.map _ (t ++ [])⟩ : Outcome PyError (SessionEffect τ) Unit _) = _
        rw [List.append_nil]
        rfl
      rw [Phase.next, bind_of_ok hread, awaitSelect_unlimited]
      show (⟨_, _, _ ++ []⟩ : Outcome PyError (SessionEffect τ) Unit _) = _
      rw [List.append_nil]
      rfl
    rw [bind_of_ok hstep, zoom, hrun]
    simp only [Outcome.after, List.map_append]
    rfl

/-- **A session is its next step and what is left then.** -/
theorem Phase.rest_eq_next (hephemeral : options.ephemeralHandshake = true) (phase : Phase τ)
    (input : SessionInput τ)
    (hrun : ∀ engine, phase = .running engine → input.iterations ≠ []) :
    ∃ next datagram later, phase.rest P options privateKey peerKey input = (do
      let phase' ← Phase.next P .unlimited options privateKey peerKey next datagram phase
      phase'.rest P options privateKey peerKey later) := by
  cases phase with
  | apart =>
      refine ⟨input.process options (input.attempt 0).sendFailure, none, input, ?_⟩
      rw [Phase.rest, Phase.next, runSession_eq hephemeral, Program.bind_assoc]
      refine bind_congr fun _ => ?_
      rw [settimeout_unlimited]
      unfold handshake
      by_cases hrole : options.role = some .client
      · rw [if_pos hrole, if_pos hrole]
        unfold runClientHandshake
        rw [Program.bind_assoc, Program.bind_assoc]
        refine bind_congr fun created => ?_
        exact sendHello_rest rfl (fun _ => rfl) rfl created.1 created.2 _
      · rw [if_neg hrole, if_neg hrole]
        exact awaitHello_rest rfl rfl _
  | helloSent hello state attempts =>
      let next := input.process options (input.attempt 1).sendFailure
      let attempt := fun k => input.attempt (k + 1)
      let later : SessionInput τ := { input with attempt := attempt }
      have htunnel : runTunnel P options later = runTunnel P options input := rfl
      have harrival : (later.attempt 0).arrival = (attempt 0).arrival := rfl
      have htun : input.tunDevice = next.tunDevice := rfl
      have hiterations : later.iterations = input.iterations := rfl
      refine ⟨next, (input.attempt 0).arrival.toOption, later, ?_⟩
      rw [Phase.rest, Phase.next, SessionInput.arrival_process, Program.bind_assoc]
      refine bind_congr fun r => ?_
      cases r with
      | none => exact sendHello_rest harrival (fun _ => rfl) htunnel hello state attempts
      | some session => exact enterTunnel_rest htun rfl rfl rfl hiterations session
  | awaitingHello attempts =>
      let next := input.process options (input.attempt 0).sendFailure
      let later : SessionInput τ := { input with attempt := fun k => input.attempt (k + 1) }
      have htunnel : runTunnel P options later = runTunnel P options input := rfl
      have htun : input.tunDevice = next.tunDevice := rfl
      have hiterations : later.iterations = input.iterations := rfl
      refine ⟨next, (input.attempt 0).arrival.toOption, later, ?_⟩
      rw [Phase.rest, Phase.next, SessionInput.arrival_process, serverAttempts_succ,
        Program.bind_assoc, Program.bind_assoc]
      refine bind_congr fun r => ?_
      cases r with
      | none => exact awaitHello_rest rfl htunnel attempts
      | some session => exact enterTunnel_rest htun rfl rfl rfl hiterations session
  | running engine =>
      cases hiterations : input.iterations with
      | nil => exact absurd hiterations (hrun engine rfl)
      | cons iteration iterations =>
          obtain ⟨next, datagram, hiteration⟩ := ProcessInput.exists_iterationInput iteration
          refine ⟨next, datagram, { input with iterations := iterations }, ?_⟩
          exact Phase.rest_running hiterations hiteration

/-- The first step opens the socket, and a client sends its hello. -/
theorem Phase.exists_rest_apart (hephemeral : options.ephemeralHandshake = true)
    (next : ProcessInput τ) (datagram : Option (Bytes × Address)) (later : SessionInput τ) :
    ∃ input, Phase.apart.rest P options privateKey peerKey input () = (do
      let phase' ← Phase.next P .unlimited options privateKey peerKey next datagram .apart
      phase'.rest P options privateKey peerKey later) () := by
  by_cases hrole : options.role = some .client
  · let input : SessionInput τ := { later with
      bindFailure := fun _ _ => next.bindFailure
      entropy := next.entropy
      attempt := next.resent later }
    have htunnel : runTunnel P options later = runTunnel P options input := rfl
    refine ⟨input, ?_⟩
    rw [Phase.rest, Phase.next, runSession_eq hephemeral, Program.bind_assoc, handshake,
      if_pos hrole, if_pos hrole, runClientHandshake]
    refine congrFun (bind_congr fun _ => ?_) ()
    rw [settimeout_unlimited, Program.bind_assoc, Program.bind_assoc]
    refine bind_congr fun created => ?_
    exact sendHello_rest (next.arrival_resent later) (next.resent_succ later) htunnel created.1
      created.2 _
  · let input : SessionInput τ := { later with
      bindFailure := fun _ _ => next.bindFailure }
    have htunnel : runTunnel P options later = runTunnel P options input := rfl
    refine ⟨input, ?_⟩
    rw [Phase.rest, Phase.next, runSession_eq hephemeral, Program.bind_assoc, handshake,
      if_neg hrole, if_neg hrole]
    refine congrFun (bind_congr fun _ => ?_) ()
    rw [settimeout_unlimited]
    exact awaitHello_rest rfl htunnel _

/-- A client that waits fails, sends its hello again or enters the tunnel. -/
theorem Phase.exists_rest_helloSent (hello : Packet) (state : ClientHandshakeState)
    (attempts : ℕ) (next : ProcessInput τ) (datagram : Option (Bytes × Address))
    (later : SessionInput τ) :
    ∃ input, (Phase.helloSent hello state attempts).rest P options privateKey peerKey input ()
      = (do
        let phase' ← Phase.next P .unlimited options privateKey peerKey next datagram
          (.helloSent hello state attempts)
        phase'.rest P options privateKey peerKey later) () := by
  let attempts' := consAttempt (next.attempted datagram) (next.resent later)
  rcases hm : (clientReceive P options.peer state options.packetsPerKey (next.arrival datagram)
    () : Outcome PyError (SessionEffect τ) Unit _) with ⟨e | _ | session, ⟨⟩, t⟩
  · refine ⟨{ later with attempt := attempts' }, ?_⟩
    rw [Phase.rest, Phase.next, Program.bind_assoc, bind_of_error hm]
    exact bind_of_error hm _
  · let input : SessionInput τ := { later with attempt := attempts' }
    have htunnel : runTunnel P options later = runTunnel P options input := rfl
    refine ⟨input, ?_⟩
    rw [Phase.rest, Phase.next, Program.bind_assoc, bind_of_ok hm]
    refine (bind_of_ok hm _).trans ?_
    refine congrArg (Outcome.after t) (congrFun ?_ ())
    exact sendHello_rest (next.arrival_resent later) (next.resent_succ later) htunnel hello state
      attempts
  · let input := next.entering later attempts'
    have htun : input.tunDevice = next.tunDevice := rfl
    have hiterations : later.iterations = input.iterations := rfl
    refine ⟨input, ?_⟩
    rw [Phase.rest, Phase.next, Program.bind_assoc, bind_of_ok hm]
    refine (bind_of_ok hm _).trans ?_
    refine congrArg (Outcome.after t) (congrFun ?_ ())
    exact enterTunnel_rest htun rfl rfl rfl hiterations session

/-- A server that waits fails, waits for the next hello or enters the tunnel. -/
theorem Phase.exists_rest_awaitingHello (attempts : ℕ) (next : ProcessInput τ)
    (datagram : Option (Bytes × Address)) (later : SessionInput τ) :
    ∃ input, (Phase.awaitingHello attempts).rest P options privateKey peerKey input () = (do
      let phase' ← Phase.next P .unlimited options privateKey peerKey next datagram
        (.awaitingHello attempts)
      phase'.rest P options privateKey peerKey later) () := by
  let attempts' := consAttempt (next.attempted datagram) later.attempt
  rcases hm : (serverAttempt P options.peer privateKey peerKey options.packetsPerKey
    (next.attempted datagram) () : Outcome PyError (SessionEffect τ) Unit _)
    with ⟨e | _ | session, ⟨⟩, t⟩
  · refine ⟨{ later with attempt := attempts' }, ?_⟩
    rw [Phase.rest, Phase.next, serverAttempts_succ, Program.bind_assoc, Program.bind_assoc]
    exact (bind_of_error hm _).trans (bind_of_error hm _).symm
  · let input : SessionInput τ := { later with attempt := attempts' }
    have htunnel : runTunnel P options later = runTunnel P options input := rfl
    refine ⟨input, ?_⟩
    rw [Phase.rest, Phase.next, serverAttempts_succ, Program.bind_assoc, Program.bind_assoc]
    refine (bind_of_ok hm _).trans (Eq.trans ?_ (bind_of_ok hm _).symm)
    refine congrArg (Outcome.after t) (congrFun ?_ ())
    exact awaitHello_rest rfl htunnel attempts
  · let input := next.entering later attempts'
    have htun : input.tunDevice = next.tunDevice := rfl
    have hiterations : later.iterations = input.iterations := rfl
    refine ⟨input, ?_⟩
    rw [Phase.rest, Phase.next, serverAttempts_succ, Program.bind_assoc, Program.bind_assoc]
    refine (bind_of_ok hm _).trans (Eq.trans ?_ (bind_of_ok hm _).symm)
    refine congrArg (Outcome.after t) (congrFun ?_ ())
    exact enterTunnel_rest htun rfl rfl rfl hiterations session

/-- **Every step is a step of a session**, whatever is left then. -/
theorem Phase.exists_rest (hephemeral : options.ephemeralHandshake = true) (phase : Phase τ)
    (next : ProcessInput τ) (datagram : Option (Bytes × Address)) (later : SessionInput τ) :
    ∃ input, phase.rest P options privateKey peerKey input () = (do
      let phase' ← Phase.next P .unlimited options privateKey peerKey next datagram phase
      phase'.rest P options privateKey peerKey later) () := by
  cases phase with
  | apart => exact Phase.exists_rest_apart hephemeral next datagram later
  | helloSent hello state attempts =>
      exact Phase.exists_rest_helloSent hello state attempts next datagram later
  | awaitingHello attempts => exact Phase.exists_rest_awaitingHello attempts next datagram later
  | running engine =>
      let input : SessionInput τ :=
        { later with iterations := next.iterationInput datagram :: later.iterations }
      have hiterations : input.iterations
        = next.iterationInput datagram :: later.iterations := rfl
      exact ⟨input, congrFun (Phase.rest_running hiterations rfl) ()⟩

/-! ## Runs -/

/-- What is left of the sessions of `run_with_reconnect` when a process waits. -/
def Phase.resume (P : Primitives) (options : EndpointConfig τ) (privateKey peerKey : Bytes)
    (phase : Phase τ) (input : SessionInput τ) (inputs : List (SessionInput τ)) :
    Program PyError (SessionEffect τ) Unit Unit := do
  match ← attempt (phase.rest P options privateKey peerKey input) with
  | .ok () => return ()
  | .error e =>
      if e.isOSError then reconnect P options (.ephemeral privateKey peerKey) inputs else raise e

/-- **The sessions go on with a step.** -/
theorem Phase.exists_resume (hephemeral : options.ephemeralHandshake = true)
    {W : WaitCalls τ} {phase phase' : Phase τ} {next : ProcessInput τ}
    {datagram : Option (Bytes × Address)}
    (h : Phase.ofResult W options
      (Phase.next P W options privateKey peerKey next datagram phase ()).result = some phase')
    (input : SessionInput τ) (inputs : List (SessionInput τ)) :
    ∃ input₀ inputs₀, phase.resume P options privateKey peerKey input₀ inputs₀ ()
      = Outcome.after (Phase.next P W options privateKey peerKey next datagram phase ()).trace
        (phase'.resume P options privateKey peerKey input inputs ()) := by
  obtain ⟨input₀, hrest⟩ := Phase.exists_rest hephemeral phase next datagram input
  refine ⟨input₀, ?_⟩
  have hsame : Phase.next P W options privateKey peerKey next datagram phase ()
      = Phase.next P .unlimited options privateKey peerKey next datagram phase () := by
    rcases Phase.next_or next datagram phase with hsame | ⟨e, he, hos⟩
    · exact hsame
    · rw [he] at h
      rcases Phase.ofResult_eq_some.1 h with hok | ⟨-, -, e', he', hos'⟩
      · cases hok
      · rw [Except.error.inj he', hos'] at hos
        cases hos
  rw [hsame] at h ⊢
  rcases hm : Phase.next P .unlimited options privateKey peerKey next datagram phase ()
    with ⟨r, ⟨⟩, t⟩
  rw [hm] at h
  rcases Phase.ofResult_eq_some.1 h with rfl | ⟨rfl, -, e, rfl, he⟩
  · rw [bind_of_ok hm] at hrest
    exact ⟨inputs, attempt_bind_of_after hrest _⟩
  · rw [bind_of_error hm] at hrest
    refine ⟨input :: inputs, ?_⟩
    have hattempt : attempt (phase.rest P options privateKey peerKey input₀) ()
        = ⟨.ok (.error e), (), t⟩ := by
      rw [attempt, hrest]
    refine (bind_of_ok hattempt _).trans ?_
    simp only [if_pos he]
    rfl

/-- The exit code of `main` after its sessions. -/
def exitCode (sessions : Program PyError (SessionEffect τ) Unit Unit) :
    Program PyError (SessionEffect τ) Unit ℕ := do
  match ← attempt sessions with
  | .ok () => return 0
  | .error .keyboardInterrupt => return 0
  | .error e => raise e

/-- `main` for a validated profile with an ephemeral handshake. -/
theorem main_eq (hvalid : options.validate = .ok ())
    (hephemeral : options.ephemeralHandshake = true) {files : KeyFiles}
    (hprivate : loadX25519PrivateKey files (options.privateKeyFile.getD "") = .ok privateKey)
    (hpeer : loadX25519PublicKey files (options.peerPublicKeyFile.getD "") = .ok peerKey)
    (inputs : List (SessionInput τ)) :
    main P options files inputs
      = exitCode (reconnect P options (.ephemeral privateKey peerKey) inputs) := by
  obtain ⟨hnumbers, hkeys⟩ := EndpointConfig.validate_ok hvalid
  obtain ⟨-, -, -, hx25519, -⟩ := EndpointConfig.validateKeys_ok hkeys
  have hencrypted : options.encrypted = true := by
    unfold EndpointConfig.encrypted
    rw [hx25519 hephemeral, Bool.or_true]
  have hdelay : ¬ options.reconnectDelay < 0 := by
    simp only [EndpointConfig.validateNumbers, ite_error_eq_ok, not_or] at hnumbers
    obtain ⟨-, -, ⟨-, hdelay⟩, -⟩ := hnumbers
    exact hdelay
  have hsessions : runSessions P options (.ephemeral privateKey peerKey) inputs
      = reconnect P options (.ephemeral privateKey peerKey) inputs := by
    unfold runSessions runWithReconnect
    rw [if_pos hephemeral, if_neg hdelay]
  have hload : (loadKeys P options files : Program PyError (SessionEffect τ) Unit _)
      = pure (.ephemeral privateKey peerKey) := by
    unfold loadKeys
    rw [if_neg (not_not.2 hencrypted), if_pos hephemeral, hprivate, hpeer]
    rfl
  unfold MatfVpn.main exitCode
  rewrite [checkOptions_of_validate hvalid, hload, Program.ofExcept_ok, Program.pure_bind,
    Program.pure_bind, hsessions]
  refine bind_congr fun r => ?_
  rcases r with e | ⟨⟩
  · cases e <;> rfl
  · rfl

end steps

/-- **Every reachable state is a state of two runs of `main`**: what a process did is the first
part of a run, and the run goes on from the phase of the process. -/
theorem Pair.Reachable.main {τ : Type} [AddCommGroup τ] [LinearOrder τ] {P : Primitives}
    {profiles : Profiles τ P} {pair : Pair τ}
    (h : pair.Reachable profiles) (role : EndpointRole) :
    ∃ t, ∀ input inputs, ∃ all, main P (profiles.options role) (profiles.files role) all ()
      = Outcome.after t (exitCode ((pair.phase role).resume P (profiles.options role)
        (profiles.privateKey role) (P.x25519Public (profiles.privateKey role.peer)) input inputs)
          ()) := by
  obtain ⟨start, hrun⟩ := h
  induction hrun with
  | refl =>
      refine ⟨[], ?_⟩
      intro input inputs
      refine ⟨input :: inputs, ?_⟩
      rw [main_eq (profiles.valid role) (profiles.ephemeral role) (profiles.privateKey_eq role)
        (profiles.peerKey_eq role)]
      rfl
  | @tail before _ _ hstep ih =>
      obtain ⟨t, ht⟩ := ih
      obtain ⟨s, hs⟩ := hstep
      cases s with
      | unheard who i =>
          obtain ⟨-, rfl⟩ := step_unheard.1 hs
          exact ⟨t, ht⟩
      | lost who i =>
          obtain rfl := Option.some.inj hs
          exact ⟨t, ht⟩
      | process who next received =>
          obtain ⟨-, phase, hphase, rfl⟩ := step_process.1 hs
          by_cases hrole : role = who
          · subst hrole
            refine ⟨t ++ (before.outcome profiles role next received).trace, ?_⟩
            intro input inputs
            rw [after_phase_self]
            obtain ⟨input₀, inputs₀, hresume⟩ :=
              Phase.exists_resume (profiles.ephemeral role) hphase input inputs
            obtain ⟨all, hall⟩ := ht input₀ inputs₀
            refine ⟨all, hall.trans ?_⟩
            refine (congrArg (Outcome.after t) (attempt_bind_of_after hresume _)).trans ?_
            exact Outcome.after_after ..
          · rw [after_phase_of_ne hrole]
            exact ⟨t, ht⟩

end MatfVpn
