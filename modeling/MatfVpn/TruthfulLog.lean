/-
# The records of an endpoint are true

The last record of an endpoint says what it is doing.

* `Truthful` : every effect fits the records before it;
* `establish_handshake`, `TunnelEngine.run_inTunnel` : the effects of the parts of a session;
* `Logged.trace_truthful` : the records of a process are true in every run.
-/
import MatfVpn.EngineSpec
import MatfVpn.HandshakeSpec
import MatfVpn.Lib.History
import MatfVpn.Supervision

namespace MatfVpn

open Program

/-! ## What the records tell -/

section truthful

variable {τ : Type}

/-- The effect belongs to the time before a session is established. -/
def SessionEffect.isHandshake : SessionEffect τ → Bool
  | .derived _ | .effect (.crypto _) | .effect (.receive _ _) => true
  | .effect (.send plain _ _) =>
      plain.messageType = .clientHello ∨ plain.messageType = .serverHello
  | .effect (.select _) | .effect (.write _) => false

/-- The effect belongs to the tunnel of the session. -/
def SessionEffect.isTunnel (sessionId : ℤ) : SessionEffect τ → Bool
  | .derived _ => false
  | .effect (.send plain _ _) =>
      (plain.messageType = .data ∨ plain.messageType = .keepalive) ∧ plain.sessionId = sessionId
  | .effect _ => true

/-- The effect is one of an endpoint whose last record is this one. -/
def SessionEffect.fits : Option (EndpointRecord τ) → SessionEffect τ → Bool
  | none, e | some (.reconnectScheduled _ _ _), e => e.isHandshake
  | some (.sessionEstablished _ _ sessionId _), e => e.isTunnel sessionId
  | some .endpointStopped, _ => false

/-- The records of a trace. -/
def recordsOf (t : List (ProcessEffect τ)) : List (EndpointRecord τ) :=
  t.filterMap DescriptorEffect.log?

/-- The last record of a trace. -/
def lastRecord? (t : List (ProcessEffect τ)) : Option (EndpointRecord τ) := (recordsOf t).getLast?

/-- The record is a warning before a reconnect. -/
def EndpointRecord.isReconnect : EndpointRecord τ → Bool
  | reconnectScheduled _ _ _ => true
  | _ => false

/-- The number of reconnects. -/
def reconnects (t : List (ProcessEffect τ)) : ℕ := (recordsOf t).countP EndpointRecord.isReconnect

/-- The sleep that a warning before a reconnect has just announced. -/
def dueSleep? (t : List (ProcessEffect τ)) : Option τ :=
  match t.getLast? with
  | some (.log (.reconnectScheduled _ delaySeconds _)) => some delaySeconds
  | _ => none

/-- The last record is that of an endpoint that is about to establish a session. -/
def Idle (record : Option (EndpointRecord τ)) : Prop :=
  record = none ∨ ∃ attempt delaySeconds error,
    record = some (.reconnectScheduled attempt delaySeconds error)

/-- The TUN device is opened, and configured under the name that the kernel has given it. -/
def configured (options : EndpointConfig τ) (tunName : String) : List (ProcessEffect τ) :=
  [.opened .tunDevice, .command ["ip", "address", "add", options.tunAddress, "dev", tunName],
    .command ["ip", "link", "set", "dev", tunName, "mtu", toString options.mtu, "up"]]

/-- The next record fits the trace: a session is established once, when its TUN device has just
been configured; reconnects are numbered from one on and announce the configured delay; nothing
comes after the stop. -/
def EndpointRecord.fits (options : EndpointConfig τ) (before : List (ProcessEffect τ)) :
    EndpointRecord τ → Prop
  | .sessionEstablished tunName _ _ _ =>
      Idle (lastRecord? before) ∧ ∃ start, before = start ++ configured options tunName
  | .reconnectScheduled attempt delaySeconds _ =>
      attempt = reconnects before + 1 ∧ delaySeconds = options.reconnectDelay ∧
        lastRecord? before ≠ some .endpointStopped
  | .endpointStopped => lastRecord? before ≠ some .endpointStopped

/-- What the endpoint does next fits what it has logged. -/
def DescriptorEffect.Fits (options : EndpointConfig τ) (before : List (ProcessEffect τ))
    (e : ProcessEffect τ) : Prop :=
  e.sleep? = dueSleep? before ∧
    match e with
    | .session e => e.fits (lastRecord? before) = true
    | .log record => record.fits options before
    | .opened _ | .lost _ | .command _ => Idle (lastRecord? before)
    | .closed _ => lastRecord? before ≠ some .endpointStopped
    | .sleep _ => True

/-- Everything that the endpoint does fits what it has logged before. -/
abbrev Truthful (options : EndpointConfig τ) (t : List (ProcessEffect τ)) : Prop :=
  History.Each (DescriptorEffect.Fits options) t

theorem recordsOf_append (s t : List (ProcessEffect τ)) :
    recordsOf (s ++ t) = recordsOf s ++ recordsOf t := List.filterMap_append

/-- A truthful trace that no sleep is due after, with its last record and its reconnects. -/
structure Shows (options : EndpointConfig τ) (t : List (ProcessEffect τ))
    (record : Option (EndpointRecord τ)) (n : ℕ) : Prop where
  truthful : Truthful options t
  lastRecord : lastRecord? t = record
  reconnects : reconnects t = n
  dueSleep : dueSleep? t = none

namespace Shows

variable {options : EndpointConfig τ} {t : List (ProcessEffect τ)}
  {record : Option (EndpointRecord τ)} {n : ℕ}

/-- An effect that is no record. -/
theorem concat (h : Shows options t record n) {e : ProcessEffect τ} (hlog : e.log? = none)
    (he : e.Fits options t) : Shows options (t ++ [e]) record n := by
  have hrecords : recordsOf (t ++ [e]) = recordsOf t := by
    rw [recordsOf_append, show recordsOf [e] = [] from List.filterMap_cons_none hlog,
      List.append_nil]
  refine ⟨History.each_concat_iff.2 ⟨h.truthful, he⟩, ?_, ?_, ?_⟩
  · exact (congrArg List.getLast? hrecords).trans h.lastRecord
  · exact (congrArg (List.countP _) hrecords).trans h.reconnects
  · rw [dueSleep?, List.getLast?_concat]
    split
    · rename_i heq
      obtain rfl := Option.some.inj heq
      cases hlog
    · rfl

/-- **Effects of a session.** -/
theorem session (h : Shows options t record n) {es : List (SessionEffect τ)}
    (hes : ∀ e ∈ es, e.fits record = true) :
    Shows options (t ++ es.map .session) record n := by
  induction es using List.reverseRecOn with
  | nil =>
    rw [List.map_nil, List.append_nil]
    exact h
  | append_singleton es e ih =>
    obtain ⟨hes, he⟩ := List.forall_mem_append.1 hes
    have hshows := ih hes
    rw [List.map_append, ← List.append_assoc]
    refine hshows.concat rfl ⟨hshows.dueSleep.symm, ?_⟩
    rw [hshows.lastRecord]
    exact he e (List.mem_singleton_self e)

/-- A record. -/
theorem log (h : Shows options t record n) {next : EndpointRecord τ}
    (hfits : next.fits options t) (hnext : next.isReconnect = false) :
    Shows options (t ++ [.log next]) (some next) n := by
  have hrecords : recordsOf (t ++ [.log next]) = recordsOf t ++ [next] := recordsOf_append _ _
  refine ⟨History.each_concat_iff.2 ⟨h.truthful, h.dueSleep.symm, hfits⟩, ?_, ?_, ?_⟩
  · rw [lastRecord?, hrecords, List.getLast?_concat]
  · rw [MatfVpn.reconnects, hrecords, List.countP_append, List.countP_singleton, hnext]
    exact h.reconnects
  · rw [dueSleep?, List.getLast?_concat]
    cases next with
    | reconnectScheduled attempt delaySeconds error => cases hnext
    | _ => rfl

/-- **A reconnect**: its record and the sleep. -/
theorem reconnect (h : Shows options t record n) (hrecord : record ≠ some .endpointStopped)
    (error : PyError) :
    Shows options (t ++ [.log (.reconnectScheduled (n + 1) options.reconnectDelay error),
        .sleep options.reconnectDelay])
      (some (.reconnectScheduled (n + 1) options.reconnectDelay error)) (n + 1) := by
  let announced : EndpointRecord τ := .reconnectScheduled (n + 1) options.reconnectDelay error
  have hrecords : recordsOf (t ++ [.log announced, .sleep options.reconnectDelay])
      = recordsOf t ++ [announced] := recordsOf_append _ _
  have hlog : Truthful options (t ++ [.log announced]) := by
    refine History.each_concat_iff.2 ⟨h.truthful, h.dueSleep.symm, ?_⟩
    refine ⟨congrArg (· + 1) h.reconnects.symm, rfl, ?_⟩
    rwa [h.lastRecord]
  refine ⟨?_, ?_, ?_, ?_⟩
  · rw [List.append_cons]
    refine History.each_concat_iff.2 ⟨hlog, ?_, trivial⟩
    rw [dueSleep?, List.getLast?_concat]
    rfl
  · rw [lastRecord?, hrecords, List.getLast?_concat]
  · rw [MatfVpn.reconnects, hrecords, List.countP_append]
    exact congrArg (· + 1) h.reconnects
  · rw [dueSleep?, List.getLast?_append]
    rfl

end Shows

/-! ## The parts of a session -/

/-- A list of calls into the cryptography package. -/
theorem isHandshake_crypto (calls : List CryptoCall) :
    ∀ e ∈ calls.map fun call => (.effect (.crypto call) : SessionEffect τ),
      e.isHandshake = true := by
  intro e he
  obtain ⟨call, -, rfl⟩ := List.mem_map.1 he
  rfl

theorem sessionCipher_handshake (P : Primitives) (secret : Bytes) (sessionId : ℤ)
    (role : EndpointRole) (packetsPerKey : ℤ) :
    wp (sessionCipher P secret sessionId role packetsPerKey :
      Program PyError (SessionEffect τ) Unit Cipher) () fun _ _ t =>
        ∀ e ∈ t, e.isHandshake = true := by
  unfold sessionCipher
  rw [wp_lift]
  exact isHandshake_crypto _

/-- A hello is sent, or not. -/
theorem transportSend_handshake {hello : Packet} (destination : Address)
    (failure : Option PyError)
    (htype : hello.messageType = .clientHello ∨ hello.messageType = .serverHello) :
    wp (lift .effect (transportSend hello hello destination failure) :
      Program PyError (SessionEffect τ) Unit Unit) () fun _ _ t =>
        ∀ e ∈ t, e.isHandshake = true := by
  rw [wp_lift]
  refine wp_mono (transportSend_spec hello hello destination failure ()) ?_
  rintro r s t ⟨-, hends⟩
  cases hends with
  | sent data _ => exact List.forall_mem_singleton.2 (decide_eq_true htype)
  | invalid e _ => exact List.forall_mem_nil _
  | refused e _ => exact List.forall_mem_nil _

theorem transportReceive_handshake (arrival : Except PyError (Bytes × Address)) :
    wp (lift .effect (transportReceive arrival) : Program PyError (SessionEffect τ) Unit _) ()
      fun _ _ t => ∀ e ∈ t, e.isHandshake = true := by
  rw [wp_lift]
  rcases arrival with e | ⟨datagram, source⟩
  · exact List.forall_mem_nil _
  · refine wp_mono (transportReceive_spec datagram source ()) ?_
    rintro r s t ⟨-, rfl, -⟩
    exact List.forall_mem_singleton.2 rfl

variable {P : Primitives}

theorem clientAttempts_handshake {remoteAddress : Address} {hello : Packet}
    {state : ClientHandshakeState} {packetsPerKey : ℤ} {input : ℕ → AttemptInput}
    (htype : hello.messageType = .clientHello) (attempts i : ℕ) :
    wp (clientAttempts P remoteAddress hello state packetsPerKey input attempts i :
      Program PyError (SessionEffect τ) Unit _) () fun _ _ t =>
        ∀ e ∈ t, e.isHandshake = true := by
  induction attempts generalizing i with
  | zero => exact List.forall_mem_nil _
  | succ attempts ih =>
    unfold clientAttempts
    rw [wp_bind]
    refine wp_mono (transportSend_handshake _ _ (Or.inl htype)) ?_
    rintro (e | ⟨⟩) ⟨⟩ t ht
    · exact ht
    rw [wp_bind, wp_attempt]
    refine wp_mono (transportReceive_handshake _) ?_
    have hnext : ∀ t' : List (SessionEffect τ), (∀ e ∈ t', e.isHandshake = true) →
        wp (clientAttempts P remoteAddress hello state packetsPerKey input attempts (i + 1) :
          Program PyError (SessionEffect τ) Unit _) () fun _ _ t'' =>
            ∀ e ∈ t ++ (t' ++ t''), e.isHandshake = true := by
      intro t' ht'
      refine wp_mono (ih (i + 1)) ?_
      intro _ _ t'' ht''
      exact List.forall_mem_append.2 ⟨ht, List.forall_mem_append.2 ⟨ht', ht''⟩⟩
    rintro (e | ⟨response, sender⟩) ⟨⟩ t' ht'
    · simp only
      split
      · exact hnext t' ht'
      · rw [wp_raise, List.append_nil]
        exact List.forall_mem_append.2 ⟨ht, ht'⟩
    · simp only
      split
      · exact hnext t' ht'
      cases finishClientHandshake P state response with
      | error e =>
        simp only
        split
        · exact hnext t' ht'
        · rw [wp_raise, List.append_nil]
          exact List.forall_mem_append.2 ⟨ht, ht'⟩
      | ok sessionSecret =>
        simp only
        rw [wp_emit_bind, wp_bind_pure]
        refine wp_mono (sessionCipher_handshake _ _ _ _ _) ?_
        intro _ _ t'' ht''
        exact List.forall_mem_append.2 ⟨ht, List.forall_mem_append.2
          ⟨ht', List.forall_mem_cons.2 ⟨rfl, ht''⟩⟩⟩

theorem serverAttempts_handshake {remoteAddress : Address}
    {staticPrivateKey peerStaticPublicKey : Bytes} {packetsPerKey : ℤ}
    {input : ℕ → AttemptInput} (attempts i : ℕ) :
    wp (serverAttempts P remoteAddress staticPrivateKey peerStaticPublicKey packetsPerKey input
      attempts i : Program PyError (SessionEffect τ) Unit _) () fun _ _ t =>
        ∀ e ∈ t, e.isHandshake = true := by
  induction attempts generalizing i with
  | zero => exact List.forall_mem_nil _
  | succ attempts ih =>
    unfold serverAttempts
    rw [wp_bind, wp_attempt]
    refine wp_mono (transportReceive_handshake _) ?_
    have hnext : ∀ t : List (SessionEffect τ), (∀ e ∈ t, e.isHandshake = true) →
        wp (serverAttempts P remoteAddress staticPrivateKey peerStaticPublicKey packetsPerKey
          input attempts (i + 1) : Program PyError (SessionEffect τ) Unit _) () fun _ _ t' =>
            ∀ e ∈ t ++ t', e.isHandshake = true := by
      intro t ht
      refine wp_mono (ih (i + 1)) ?_
      intro _ _ t' ht'
      exact List.forall_mem_append.2 ⟨ht, ht'⟩
    rintro (e | ⟨hello, sender⟩) ⟨⟩ t ht
    · simp only
      split
      · exact hnext t ht
      · rw [wp_raise, List.append_nil]
        exact ht
    · simp only
      split
      · exact hnext t ht
      cases haccept : acceptClientHello P hello staticPrivateKey peerStaticPublicKey
          (input i).entropy with
      | error e =>
        simp only
        split
        · exact hnext t ht
        · rw [wp_raise, List.append_nil]
          exact ht
      | ok accepted =>
        obtain ⟨response, sessionSecret⟩ := accepted
        obtain ⟨-, -, -, -, _, _, -, -, -, hresponse, -⟩ := acceptClientHello_ok haccept
        simp only
        rw [wp_emit_bind, wp_bind]
        refine wp_mono (transportSend_handshake _ _ (Or.inr (by rw [hresponse]))) ?_
        rintro (e | ⟨⟩) ⟨⟩ t' ht'
        · exact List.forall_mem_append.2 ⟨ht, List.forall_mem_cons.2 ⟨rfl, ht'⟩⟩
        rw [wp_bind_pure]
        refine wp_mono (sessionCipher_handshake _ _ _ _ _) ?_
        intro _ _ t'' ht''
        exact List.forall_mem_append.2 ⟨ht, List.forall_mem_cons.2
          ⟨rfl, List.forall_mem_append.2 ⟨ht', ht''⟩⟩⟩

/-- **A session is established** by effects of a handshake. -/
theorem establish_handshake (options : EndpointConfig τ) (input : SessionInput τ)
    (keys : SessionKeys) :
    wp (establish P options input keys) () fun _ _ t => ∀ e ∈ t, e.isHandshake = true := by
  cases keys with
  | static cipher => exact List.forall_mem_nil _
  | ephemeral staticPrivateKey peerStaticPublicKey =>
    unfold establish
    rw [wp_bind_pure]
    unfold handshake
    split
    · unfold runClientHandshake
      rw [wp_bind, wp_ofExcept]
      cases hcreate : createClientHello P staticPrivateKey peerStaticPublicKey input.entropy with
      | error e => exact List.forall_mem_nil _
      | ok created =>
        obtain ⟨hello, state⟩ := created
        obtain ⟨_, _, -, -, hhello, -⟩ := createClientHello_ok hcreate
        exact clientAttempts_handshake (by rw [hhello]) _ _
    · exact serverAttempts_handshake _ _

/-- **Keys are loaded** by calls into the cryptography package. -/
theorem loadKeys_handshake [Zero τ] [LT τ] [LE τ] [DecidableEq τ] [DecidableLT τ]
    [DecidableLE τ] {options : EndpointConfig τ} {files : KeyFiles} :
    wp (loadKeys P options files) () fun _ _ t => ∀ e ∈ t, e.isHandshake = true := by
  unfold loadKeys
  split
  · exact List.forall_mem_nil _
  split
  · rw [wp_bind, wp_ofExcept]
    cases loadX25519PrivateKey files (options.privateKeyFile.getD "") with
    | error e => exact List.forall_mem_nil _
    | ok staticPrivateKey =>
      simp only
      rw [wp_bind_pure, wp_ofExcept]
      exact List.forall_mem_nil _
  · rw [wp_bind, wp_ofExcept]
    cases loadStaticSecret P options files with
    | error e => exact List.forall_mem_nil _
    | ok secret =>
      simp only
      rw [wp_bind_pure]
      exact sessionCipher_handshake _ _ _ _ _

/-- The engine of the session, after effects of its tunnel. -/
def TunnelEngine.InTunnel (sessionId : ℕ) (engine : TunnelEngine τ) (t : List (Effect τ)) : Prop :=
  engine.sessionId = sessionId ∧
    ∀ e ∈ t, (SessionEffect.effect e).isTunnel (sessionId : ℤ) = true

namespace TunnelEngine

variable {sessionId : ℕ}

theorem InTunnel.append {engine : TunnelEngine τ} {s t : List (Effect τ)}
    (h : engine.InTunnel sessionId s)
    (ht : ∀ e ∈ t, (SessionEffect.effect e).isTunnel (sessionId : ℤ) = true) :
    engine.InTunnel sessionId (s ++ t) := ⟨h.1, List.forall_mem_append.2 ⟨h.2, ht⟩⟩

/-- Calls on the cipher. -/
theorem onCipher_inTunnel {α : Type} (cipher : Cipher) (m : Program PyError CryptoCall Cipher α) :
    Preserves (InTunnel sessionId) (InTunnel sessionId)
      (onCipher cipher m : Program PyError (Effect τ) _ α) := by
  refine preserves_self_iff.2 fun engine h hengine => ?_
  unfold onCipher
  rw [wp_zoom]
  refine InTunnel.append (show InTunnel sessionId { engine with cipher := some _ } h from hengine)
    fun e he => ?_
  obtain ⟨call, -, rfl⟩ := List.mem_map.1 he
  rfl

theorem sendPacket_inTunnel {messageType : MessageType}
    (htype : messageType = .data ∨ messageType = .keepalive) (payload : Bytes)
    (failure : Option PyError) :
    Preserves (InTunnel sessionId) (InTunnel sessionId)
      (sendPacket P messageType payload failure : Program PyError (Effect τ) _ Unit) := by
  intro engine h hengine
  unfold sendPacket
  rw [wp_read_bind]
  refine Preserves.ite _ (Preserves.raise_bind (fun _ _ h => h) _ _) ?_ engine h hengine
  have hsend : ∀ packet, Preserves (InTunnel sessionId) (InTunnel sessionId)
      (transportSend ⟨messageType, engine.sessionId, engine.sequenceNumber, payload⟩ packet
        engine.remoteAddress failure : Program PyError (Effect τ) _ Unit) := by
    intro packet engine' h' hengine'
    unfold transportSend
    rw [wp_bind, wp_ofExcept]
    cases packet.encode with
    | error e =>
      rw [List.append_nil]
      exact hengine'
    | ok data =>
      cases failure with
      | some e => exact hengine'.append (List.forall_mem_nil _)
      | none =>
        refine hengine'.append (List.forall_mem_singleton.2 (decide_eq_true ⟨htype, ?_⟩))
        exact congrArg Int.ofNat hengine.1
  have hcount : Preserves (InTunnel sessionId) (InTunnel sessionId)
      (update fun self => { self with sequenceNumber := self.sequenceNumber + 1 } :
        Program PyError (Effect τ) (TunnelEngine τ) Unit) :=
    Preserves.update fun _ _ hengine => hengine
  simp only
  cases engine.cipher with
  | none =>
    exact Preserves.bind (Preserves.pure _) fun packet =>
      Preserves.bind (hsend packet) fun _ => hcount
  | some cipher =>
    exact Preserves.bind (onCipher_inTunnel cipher _) fun packet =>
      Preserves.bind (hsend packet) fun _ => hcount

theorem receiveUdpPacket_inTunnel (arrival : Except PyError (Bytes × Address))
    (input : IterationInput τ) :
    Preserves (InTunnel sessionId) (InTunnel sessionId) (receiveUdpPacket P arrival input) := by
  have hdeliver : ∀ packet, Preserves (InTunnel sessionId) (InTunnel sessionId)
      (deliver packet input.tunWrite : Program PyError (Effect τ) _ Bool) := by
    intro packet
    refine Preserves.ite _ (Preserves.pure _) (Preserves.bind ?_ fun written => ?_)
    · refine Preserves.bind (Preserves.emit fun engine h hengine => ?_) fun _ =>
        Preserves.ofExcept (fun _ _ h => h) _
      exact hengine.append (List.forall_mem_singleton.2 rfl)
    · exact Preserves.ite _ (Preserves.raise (fun _ _ h => h) _) (Preserves.pure _)
  have hauthenticate : ∀ cipher packet, Preserves (InTunnel sessionId) (InTunnel sessionId)
      (authenticate P cipher packet input.receiveClock : Program PyError (Effect τ) _ _) := by
    intro cipher packet
    refine Preserves.bind Preserves.read fun engine => ?_
    refine Preserves.ite _ (Preserves.pure _) (Preserves.bind ?_ fun result => ?_)
    · intro engine' h hengine
      exact preserves_self_iff.1 (onCipher_inTunnel cipher _) engine' h hengine
    · rcases result with e | decrypted
      · cases e with
        | invalidTag => exact Preserves.pure _
        | _ => exact Preserves.raise (fun _ _ h => h) _
      · exact Preserves.bind (Preserves.ofExcept (fun _ _ h => h) _) fun window =>
          Preserves.bind (Preserves.update fun _ _ h => h) fun _ =>
          Preserves.bind (Preserves.update fun _ _ h => h) fun _ => Preserves.pure _
  have haccept : ∀ packet source, Preserves (InTunnel sessionId) (InTunnel sessionId)
      (acceptPacket P packet source input) := by
    intro packet source
    refine Preserves.bind Preserves.read fun engine => ?_
    refine Preserves.ite _ (Preserves.pure _) (Preserves.ite _ (Preserves.pure _)
      (Preserves.ite _ (Preserves.pure _) ?_))
    cases engine.cipher with
    | none => exact hdeliver packet
    | some cipher =>
      refine Preserves.bind (hauthenticate cipher packet) fun decrypted => ?_
      cases decrypted with
      | none => exact Preserves.pure _
      | some decrypted => exact hdeliver decrypted
  refine Preserves.bind (fun engine h hengine => ?_) fun result => ?_
  · rw [wp_attempt]
    rcases arrival with e | ⟨datagram, source⟩
    · exact hengine.append (List.forall_mem_nil _)
    · refine wp_mono (transportReceive_spec datagram source engine) ?_
      rintro r s t ⟨rfl, rfl, -⟩
      exact hengine.append (List.forall_mem_singleton.2 rfl)
  · rcases result with e | ⟨packet, source⟩
    · cases e with
      | invalidPacketError _ => exact Preserves.pure _
      | _ => exact Preserves.raise (fun _ _ h => h) _
    · exact haccept packet source

/-- **The tunnel** has the effects of its session. -/
theorem run_inTunnel [Zero τ] [Add τ] [Sub τ] [LT τ] [LE τ] [DecidableEq τ] [DecidableLT τ]
    [DecidableLE τ] (inputs : List (IterationInput τ)) :
    Preserves (InTunnel sessionId) (InTunnel sessionId) (TunnelEngine.run P inputs) := by
  induction inputs with
  | nil => exact Preserves.pure ()
  | cons input inputs ih =>
    refine Preserves.bind (runOnce_preserves (fun _ _ h => h) input none (fun timeout => ?_)
      (fun payload _ => sendPacket_inTunnel (Or.inl rfl) payload _)
      (sendPacket_inTunnel (Or.inr rfl) [] _)
      (fun arrival _ => receiveUdpPacket_inTunnel arrival input)
      fun f => Preserves.update fun _ _ h => h) fun _ => ih
    exact Preserves.emit fun engine h hengine =>
      hengine.append (List.forall_mem_singleton.2 rfl)

end TunnelEngine

/-! ## Runs -/

theorem Idle.fits {record : Option (EndpointRecord τ)} (h : Idle record) {e : SessionEffect τ}
    (he : e.isHandshake = true) : e.fits record = true := by
  rcases h with rfl | ⟨_, _, _, rfl⟩
  · exact he
  · exact he

theorem Idle.ne {record : Option (EndpointRecord τ)} (h : Idle record) :
    record ≠ some .endpointStopped := by
  rcases h with rfl | ⟨_, _, _, rfl⟩
  · exact nofun
  · exact nofun

namespace Logged

/-- The trace of an endpoint without a session. -/
def ShowsIdle (options : EndpointConfig τ) (n : ℕ) (t : List (ProcessEffect τ)) : Prop :=
  ∃ record, Shows options t record n ∧ Idle record

/-- The trace of an endpoint that has not stopped. -/
def ShowsLive (options : EndpointConfig τ) (n : ℕ) (t : List (ProcessEffect τ)) : Prop :=
  ∃ record, Shows options t record n ∧ record ≠ some .endpointStopped

variable {options : EndpointConfig τ} {t : List (ProcessEffect τ)} {n : ℕ}

theorem ShowsIdle.live (h : ShowsIdle options n t) : ShowsLive options n t := by
  obtain ⟨record, hshows, hidle⟩ := h
  exact ⟨record, hshows, hidle.ne⟩

theorem ShowsLive.of_established {tunName : String} {localAddress : Address} {sessionId : ℤ}
    {encrypted : Bool}
    (h : Shows options t (some (.sessionEstablished tunName localAddress sessionId encrypted)) n) :
    ShowsLive options n t := ⟨_, h, nofun⟩

/-- Effects of a handshake leave the endpoint without a session. -/
theorem ShowsIdle.handshake (h : ShowsIdle options n t) {es : List (SessionEffect τ)}
    (hes : ∀ e ∈ es, e.isHandshake = true) : ShowsIdle options n (t ++ es.map .session) := by
  obtain ⟨record, hshows, hidle⟩ := h
  exact ⟨record, hshows.session fun e he => hidle.fits (hes e he), hidle⟩

/-- So does what it does with its descriptors. -/
theorem ShowsIdle.descriptor (h : ShowsIdle options n t) {e : ProcessEffect τ}
    (he : e.effect? = none) : ShowsIdle options n (t ++ [e]) := by
  obtain ⟨record, hshows, hidle⟩ := h
  have hlast : Idle (lastRecord? t) := by rwa [hshows.lastRecord]
  refine ⟨record, ?_, hidle⟩
  cases e with
  | effect e => cases he
  | closed d => exact hshows.concat rfl ⟨hshows.dueSleep.symm, hlast.ne⟩
  | opened d => exact hshows.concat rfl ⟨hshows.dueSleep.symm, hlast⟩
  | lost d => exact hshows.concat rfl ⟨hshows.dueSleep.symm, hlast⟩
  | command arguments => exact hshows.concat rfl ⟨hshows.dueSleep.symm, hlast⟩

/-- Descriptors are closed before the stop. -/
theorem ShowsLive.closed (h : ShowsLive options n t) (d : Descriptor) :
    ShowsLive options n (t ++ [.closed d]) := by
  obtain ⟨record, hshows, hlive⟩ := h
  refine ⟨record, hshows.concat rfl ⟨hshows.dueSleep.symm, ?_⟩, hlive⟩
  show lastRecord? t ≠ _
  rwa [hshows.lastRecord]

/-! ### Descriptors -/

section descriptors

variable {σ : Type}

theorem close_shows (d : Descriptor) (failure : Option PyError) :
    Triple (fun _ => ShowsLive options n)
      (Descriptors.close d failure : Program PyError (ProcessEffect τ) σ Unit)
      (fun _ _ => ShowsLive options n) (fun _ => ShowsLive options n) := by
  refine Triple.bind (L := fun _ _ => ShowsLive options n) (Triple.emit fun _ _ h => h.closed d)
    fun _ => ?_
  exact Descriptors.triple_raises (fun _ _ h => h) failure

/-- An endpoint without a session goes on without one. -/
theorem emit_shows {e : ProcessEffect τ} (he : e.effect? = none) :
    Triple (fun _ => ShowsIdle options n) (emit e : Program PyError (ProcessEffect τ) σ Unit)
      (fun _ _ => ShowsIdle options n) (fun _ => ShowsLive options n) :=
  Triple.emit fun _ _ h => h.descriptor he

theorem raises_shows (failure : Option PyError) :
    Triple (fun _ => ShowsIdle options n)
      (raises failure : Program PyError (ProcessEffect τ) σ Unit)
      (fun _ _ => ShowsIdle options n) (fun _ => ShowsLive options n) :=
  Descriptors.triple_raises (fun _ _ h => h.live) failure

theorem newUdpTransport_shows (localAddress : Address) (timeout : Option τ)
    (answers : UdpAnswers τ) :
    Triple (fun _ => ShowsIdle options n)
      (Descriptors.newUdpTransport localAddress timeout answers :
        Program PyError (ProcessEffect τ) σ Unit)
      (fun _ _ => ShowsIdle options n) (fun _ => ShowsLive options n) := by
  unfold Descriptors.newUdpTransport
  refine Triple.bind (raises_shows _) fun _ => Triple.bind (emit_shows rfl) fun _ => ?_
  cases answers.setupFailure localAddress timeout with
  | none => exact Triple.pure fun _ _ h => h
  | some e =>
    exact Triple.bind (emit_shows rfl) fun _ => Triple.raise (fun _ _ h => h.live) e

/-- The TUN device has just been opened. -/
def ShowsOpened (options : EndpointConfig τ) (n : ℕ) (t : List (ProcessEffect τ)) : Prop :=
  ShowsIdle options n t ∧ ∃ start, t = start ++ [.opened .tunDevice]

theorem newTunDevice_shows (name : String) (answers : TunAnswers) :
    Triple (fun _ => ShowsIdle options n)
      (Descriptors.newTunDevice name answers : Program PyError (ProcessEffect τ) σ String)
      (fun _ _ => ShowsOpened options n) (fun _ => ShowsLive options n) := by
  unfold Descriptors.newTunDevice
  refine Triple.bind (L := fun _ _ => ShowsIdle options n)
    (Triple.ofExcept (fun _ _ _ _ h => h) fun _ _ h => h.live) fun encodedName => ?_
  refine Triple.ite _ (Triple.raise (fun _ _ h => h.live) _) ?_
  refine Triple.bind (raises_shows _) fun _ => ?_
  refine Triple.bind (L := fun _ _ => ShowsOpened options n)
    (Triple.emit fun _ t h => ⟨h.descriptor rfl, t, rfl⟩) fun _ => ?_
  have hraise : ∀ e : PyError, Triple (fun _ => ShowsLive options n)
      (raise e : Program PyError (ProcessEffect τ) σ String)
      (fun _ _ => ShowsOpened options n) (fun _ => ShowsLive options n) :=
    fun e => Triple.raise (fun _ _ h => h) e
  cases answers.ioctl with
  | error e =>
    refine Triple.bind (L := fun _ _ => ShowsLive options n) ?_ fun _ => hraise e
    intro s t h
    exact close_shows _ _ s t h.1.live
  | ok response =>
    dsimp only
    cases TunAnswers.responseName response with
    | ok tunName => exact Triple.pure fun _ _ h => h
    | error e =>
      refine Triple.bind (L := fun _ _ => ShowsLive options n) ?_ fun _ => hraise e
      exact Triple.emit fun _ t h => (h.1.descriptor rfl).live

/-- The TUN device has just been configured. -/
def ShowsConfigured (options : EndpointConfig τ) (n : ℕ) (tunName : String)
    (t : List (ProcessEffect τ)) : Prop :=
  ShowsIdle options n t ∧ ∃ start, t = start ++ configured options tunName

theorem configureTun_shows (tunName : String) (ipAddress ipLink : Option PyError) :
    Triple (fun _ => ShowsOpened options n)
      (Descriptors.configureTun tunName options.tunAddress options.mtu ipAddress ipLink :
        Program PyError (ProcessEffect τ) σ Unit)
      (fun _ _ => ShowsConfigured options n tunName) (fun _ => ShowsLive options n) := by
  unfold Descriptors.configureTun
  refine Triple.ite _ (Triple.raise (fun _ _ h => h.1.live) _) ?_
  intro s t h
  obtain ⟨hidle, start, rfl⟩ := h
  rw [wp_emit_bind]
  cases ipAddress with
  | some e => exact (hidle.descriptor rfl).live
  | none =>
    rw [raises, pure_bind, wp_emit_bind]
    have hcommands : ShowsIdle options n (start ++ configured options tunName) := by
      have h := (hidle.descriptor (e := .command ["ip", "address", "add", options.tunAddress,
        "dev", tunName]) rfl).descriptor (e := .command ["ip", "link", "set", "dev", tunName,
        "mtu", toString options.mtu, "up"]) rfl
      rwa [List.append_assoc, List.append_assoc] at h
    cases ipLink with
    | some e =>
      rw [raises, wp_raise, List.append_assoc]
      exact hcommands.live
    | none =>
      rw [raises, wp_pure, List.append_assoc]
      exact ⟨hcommands, start, rfl⟩

end descriptors

/-! ### Sessions -/

variable [Zero τ] [Add τ] [Sub τ] [LT τ] [LE τ] [DecidableEq τ] [DecidableLT τ]
  [DecidableLE τ] {keys : SessionKeys} {files : KeyFiles}

/-- **A tunnel** tells truly what it does. -/
theorem runTunnel_shows (n : ℕ) (input : LoggedInput τ) (session : ℤ × Option Cipher)
    (tunName : String) :
    Triple (fun _ => ShowsOpened options n) (runTunnel P options input session tunName)
      (fun _ _ => ShowsLive options n) (fun _ => ShowsLive options n) := by
  obtain ⟨sessionId, cipher⟩ := session
  unfold runTunnel
  refine Triple.bind (configureTun_shows tunName _ _) fun _ => ?_
  -- from here on an error leaves the established session as the last record
  let record : EndpointRecord τ :=
    .sessionEstablished tunName input.localAddress sessionId cipher.isSome
  have hup : ∀ (_ : Unit) (t : List (ProcessEffect τ)), Shows options t (some record) n →
      ShowsLive options n t := fun _ t h => ShowsLive.of_established h
  refine Triple.bind (L := fun _ _ t => Shows options t (some record) n)
    (Triple.emit fun _ t h => ?_) fun _ => ?_
  · obtain ⟨⟨last, hshows, hidle⟩, hconfigured⟩ := h
    refine @Shows.log τ options t last n hshows record ⟨?_, hconfigured⟩ rfl
    rwa [hshows.lastRecord]
  refine Triple.bind (L := fun engine _ t => Shows options t (some record) n ∧
    (engine.sessionId : ℤ) = sessionId) (Triple.ofExcept (fun engine _ t hnew h => ?_) hup)
    fun engine => ?_
  · refine ⟨h, ?_⟩
    simp only [TunnelEngine.new, ite_error_eq_ok, not_not] at hnew
    obtain ⟨hrange, -, -, -, hnew⟩ := hnew
    rw [← Except.ok.inj hnew]
    exact Int.toNat_of_nonneg hrange.1
  rintro s t ⟨hshows, hid⟩
  rw [wp_lift, wp_zoom]
  -- the engine has no effects outside its own session
  refine wp_mono (preserves_self_iff.1 (TunnelEngine.run_inTunnel input.iterations) engine []
    ⟨rfl, List.forall_mem_nil _⟩) ?_
  rintro r engine' es ⟨-, hes⟩
  have hlast : ShowsLive options n (t ++ (es.map .effect).map .session) := by
    refine hup () _ (hshows.session fun e he => ?_)
    obtain ⟨e', he', rfl⟩ := List.mem_map.1 he
    show SessionEffect.isTunnel sessionId (.effect e') = true
    rw [← hid]
    exact hes e' he'
  rcases r with e | ⟨⟩
  · exact hlast
  · exact hlast

/-- **A session** tells truly what it does. -/
theorem runSession_shows (n : ℕ) (input : LoggedInput τ) :
    Triple (fun _ => ShowsIdle options n) (runSession P options keys input)
      (fun _ _ => ShowsLive options n) (fun _ => ShowsLive options n) := by
  refine Triple.within (newUdpTransport_shows _ _ input.udp) (close_shows _ _) fun _ => ?_
  -- the handshake logs nothing, so the endpoint still looks idle
  refine Triple.bind (L := fun _ _ => ShowsIdle options n) ?_ fun session => ?_
  · exact Triple.lift (fun _ => establish_handshake options input.toSessionInput keys)
      (fun _ t _ _ es h hes => h.handshake hes) (fun _ t _ _ es h hes => (h.handshake hes).live)
  exact Triple.within (newTunDevice_shows _ input.tun) (close_shows _ _)
    (runTunnel_shows n input session)

/-- **Sessions after each other** tell truly what they do. -/
theorem reconnect_shows (inputs : List (LoggedInput τ)) (n : ℕ) :
    Triple (fun _ => ShowsIdle options n) (reconnect P options keys n inputs)
      (fun _ _ t => ∃ k, ShowsLive options k t) (fun _ t => ∃ k, ShowsLive options k t) := by
  induction inputs generalizing n with
  | nil => exact Triple.pure fun _ _ h => ⟨n, h.live⟩
  | cons input inputs ih =>
    unfold reconnect
    refine Triple.bind (runSession_shows n input).attempt fun result => ?_
    rcases result with e | ⟨⟩
    · refine Triple.ite _ ?_ (Triple.raise (fun _ t h => ⟨n, h⟩) e)
      -- The record and the sleep come together.
      rintro s t ⟨record, hshows, hlive⟩
      rw [wp_emit_bind, wp_emit_bind]
      have hidle : ShowsIdle options (n + 1) (t ++ [.log (.reconnectScheduled (n + 1)
          options.reconnectDelay e), .sleep options.reconnectDelay]) :=
        ⟨_, hshows.reconnect hlive e, Or.inr ⟨_, _, _, rfl⟩⟩
      cases input.sleepFailure with
      | some failure => exact ⟨n + 1, hidle.live⟩
      | none =>
        show wp (reconnect P options keys (n + 1) inputs) s _
        refine wp_mono (ih (n + 1) s _ hidle) ?_
        rintro (e' | ⟨⟩) s' t' h
        · rwa [List.append_assoc] at h
        · rwa [List.append_assoc] at h
    · exact Triple.pure fun _ t h => ⟨n, h⟩

/-- The trace is true, and its last sleep is done. -/
def Tells (options : EndpointConfig τ) (t : List (ProcessEffect τ)) : Prop :=
  Truthful options t ∧ dueSleep? t = none

/-- **What an endpoint logs is what it does**, in every run. -/
theorem main_tells (P : Primitives) (options : EndpointConfig τ) (files : KeyFiles)
    (inputs : List (LoggedInput τ)) : Tells options (main P options files inputs ()).trace := by
  have hstart : ShowsIdle options 0 ([] : List (ProcessEffect τ)) :=
    ⟨none, ⟨History.Each.nil, rfl, rfl, rfl⟩, Or.inl rfl⟩
  have hmain : Triple (fun _ => ShowsIdle options 0) (main P options files inputs)
      (fun _ _ => Tells options) (fun _ => Tells options) := by
    have htells : ∀ {n : ℕ} {t : List (ProcessEffect τ)}, ShowsLive options n t →
        Tells options t := by
      rintro n t ⟨record, hshows, -⟩
      exact ⟨hshows.truthful, hshows.dueSleep⟩
    refine Triple.bind (L := fun _ _ => ShowsIdle options 0)
      (Triple.ofExcept (fun _ _ _ _ h => h) fun _ _ h => htells h.live) fun _ => ?_
    refine Triple.bind (L := fun _ _ => ShowsIdle options 0) ?_ fun keys => ?_
    · exact Triple.lift (fun _ => loadKeys_handshake) (fun _ t _ _ es h hes => h.handshake hes)
        fun _ t _ _ es h hes => htells (h.handshake hes).live
    have hsessions : Triple (fun _ => ShowsIdle options 0) (runSessions P options keys inputs)
        (fun _ _ t => ∃ k, ShowsLive options k t) (fun _ t => ∃ k, ShowsLive options k t) := by
      refine Triple.ite _ (Triple.ite _ (Triple.raise (fun _ _ h => ⟨0, h.live⟩) _)
        (reconnect_shows inputs 0)) ?_
      cases inputs with
      | nil => exact Triple.pure fun _ _ h => ⟨0, h.live⟩
      | cons input inputs =>
        intro s t h
        refine wp_mono (runSession_shows 0 input s t h) ?_
        rintro (e | ⟨⟩) s' t' h'
        · exact ⟨0, h'⟩
        · exact ⟨0, h'⟩
    refine Triple.bind hsessions.attempt fun result => ?_
    have hraise : ∀ e : PyError, Triple (fun _ t => ∃ k, ShowsLive options k t)
        (raise e : Program PyError (ProcessEffect τ) Unit ℕ) (fun _ _ => Tells options)
        (fun _ => Tells options) := fun e =>
      Triple.raise (fun _ _ h => htells h.choose_spec) e
    rcases result with e | ⟨⟩
    · cases e with
      | keyboardInterrupt =>
        refine Triple.bind (L := fun _ _ => Tells options) (Triple.emit ?_) fun _ =>
          Triple.pure ?_
        · rintro _ t ⟨k, record, hshows, hlive⟩
          have hstop := @Shows.log τ options t record k hshows .endpointStopped (by
            show lastRecord? t ≠ _
            rwa [hshows.lastRecord]) rfl
          exact ⟨hstop.truthful, hstop.dueSleep⟩
        · exact fun _ _ h => h
      | _ => exact hraise _
    · exact Triple.pure fun _ _ h => htells h.choose_spec
  have h := hmain () [] hstart
  rw [wp] at h
  generalize (main P options files inputs ()).result = r at h
  rcases r with e | a
  · exact h
  · exact h

/-- **An endpoint and its records.**  Before the first record and after the announcement of a
reconnect it sends nothing but hellos, opens and configures the TUN device and reads and writes no
packet of it; a session is announced when its device has just been configured, and from then on
the endpoint sends the packets of this session only; the reconnects are numbered from one on, each
of them announces the configured delay and is followed by a sleep of it; nothing comes after the
stop.  While nothing disturbs closing and sleeping, the rest is the process without a log. -/
theorem main_records (P : Primitives) (options : EndpointConfig τ) (files : KeyFiles)
    (inputs : List (LoggedInput τ)) :
    (∀ before e after, (main P options files inputs ()).trace = before ++ e :: after →
      e.Fits options before) ∧
    dueSleep? (main P options files inputs ()).trace = none ∧
    ((∀ input ∈ inputs, Undisturbed input) →
      MatfVpn.main P options files (inputs.map LoggedInput.toSessionInput) ()
        = ⟨(main P options files inputs ()).result, (),
          (main P options files inputs ()).trace.filterMap DescriptorEffect.session?⟩) := by
  obtain ⟨htruthful, hsleep⟩ := main_tells P options files inputs
  exact ⟨htruthful, hsleep, fun hinputs => main_erases inputs hinputs ()⟩

end Logged

end truthful

end MatfVpn
