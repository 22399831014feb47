/-
# Runs of the session table (`multi_client.MultiClientServerEngine`)

The engine after any sequence of its calls, those that raise included.

* `wellFormed_of_reachable` : the two dictionaries always describe the same sessions;
* `sessionTable_correspondence` : the invariant in terms of the two dictionaries;
* `replaceSession_atomic_iff` : when `replace_session` is all or nothing.
-/
import MatfVpn.MultiClientSpec
import MatfVpn.SamplePrimitives

namespace MatfVpn

open Program

namespace MultiClientServerEngine

/-! ## Calls that leave the sessions alone -/

section packets

variable {τ ν : Type} {start : MultiClientServerEngine}

/-- The sessions of `start` are still the installed ones, however the program ends. -/
abbrev KeepsSessions {α : Type} (start : MultiClientServerEngine)
    (m : Program PyError (ServerEffect τ ν) MultiClientServerEngine α) : Prop :=
  Preserves (fun engine _ => SameSessions start engine) (fun engine _ => SameSessions start engine)
    m

theorem keeps_raise {α : Type} (e : PyError) :
    KeepsSessions start (raise e : Program PyError (ServerEffect τ ν) _ α) :=
  Preserves.raise (fun _ _ h => h) e

theorem keeps_ofExcept {α : Type} (x : Except PyError α) :
    KeepsSessions start (ofExcept x : Program PyError (ServerEffect τ ν) _ α) :=
  Preserves.ofExcept (fun _ _ h => h) x

theorem keeps_deref (ref : ℕ) :
    KeepsSessions start (deref ref : Program PyError (ServerEffect τ ν) _ ClientSession) := by
  apply Preserves.read.bind
  intro engine
  cases engine.session? ref with
  | none => exact keeps_raise _
  | some session => exact Preserves.pure _

/-- A change of one object that leaves its addresses and session id alone. -/
theorem keeps_update (ref : ℕ) {f : ClientSession → ClientSession}
    (hkey : ∀ s, (f s).key = s.key) (haddress : ∀ s, (f s).tunnelAddress = s.tunnelAddress) :
    KeepsSessions start (update fun engine => engine.modifySession ref f :
      Program PyError (ServerEffect τ ν) _ Unit) :=
  Preserves.update fun _ _ h => h.trans (.modifySession _ ref hkey haddress)

theorem keeps_onCipher {α : Type} (ref : ℕ) (cipher : Cipher)
    (m : Program PyError CryptoCall Cipher α) :
    KeepsSessions start (onCipher ref cipher m : Program PyError (ServerEffect τ ν) _ α) := by
  apply preserves_self_iff.2
  intro engine h hsame
  exact hsame.trans (.modifySession engine ref (fun _ => rfl) fun _ => rfl)

/-- Calls of the operating system do not look at the engine. -/
theorem keeps_lift {α : Type} {m : ∀ σ : Type, Program PyError (Effect τ) σ α}
    (hm : Stateless m) : KeepsSessions start
      (lift .effect (m MultiClientServerEngine) : Program PyError (ServerEffect τ ν) _ α) := by
  apply preserves_self_iff.2
  intro engine h hsame
  rw [wp_lift, wp, hm.run_eq engine engine]
  exact hsame

theorem stateless_transportSend (plain packet : Packet) (destination : Address)
    (failure : Option PyError) : Stateless fun σ =>
      (transportSend plain packet destination failure : Program PyError (Effect τ) σ Unit) := by
  apply (Stateless.ofExcept _).bind
  intro data
  cases failure with
  | none => exact Stateless.emit _
  | some e => exact Stateless.raise e

theorem stateless_tunWrite (payload : Bytes) (answer : Bytes → Except PyError ℕ) :
    Stateless fun σ => (tunWrite payload answer : Program PyError (Effect τ) σ ℕ) :=
  (Stateless.emit _).bind fun _ => Stateless.ofExcept _

/-- A TUN packet leaves the sessions installed, whatever ciphers they have. -/
theorem keeps_handleTunPacket (P : Primitives) (payload : Bytes) (failure : Option PyError) :
    KeepsSessions start
      (handleTunPacket P payload failure : Program PyError (ServerEffect τ ν) _ Bool) := by
  unfold handleTunPacket
  cases ipv4Destination payload with
  | error e => exact Preserves.ite _ (Preserves.pure _) (keeps_raise _)
  | ok destination =>
      apply Preserves.read.bind
      intro engine
      cases engine.routes.get? destination with
      | none => exact Preserves.pure _
      | some ref =>
          apply (keeps_deref ref).bind
          intro session
          apply Preserves.ite _ (keeps_raise _)
          apply (keeps_onCipher ref session.cipher _).bind
          intro packet
          apply (keeps_lift (stateless_transportSend _ packet session.remoteAddress failure)).bind
          intro _
          refine Preserves.bind (keeps_update ref ?_ ?_) fun _ => Preserves.pure _
          · exact fun _ => rfl
          · exact fun _ => rfl

theorem keeps_deliver (ref : ℕ) (session : ClientSession) (n : ℕ) (decrypted : Packet)
    (answer : Bytes → Except PyError ℕ) : KeepsSessions start
      (deliver ref session n decrypted answer : Program PyError (ServerEffect τ ν) _ Bool) := by
  unfold deliver
  cases ipv4Source decrypted.payload with
  | error e => exact Preserves.ite _ (Preserves.pure _) (keeps_raise _)
  | ok source =>
      apply Preserves.ite _ (Preserves.pure _)
      apply (keeps_ofExcept _).bind
      intro window
      refine Preserves.bind (keeps_update ref ?_ ?_) ?_
      · exact fun _ => rfl
      · exact fun _ => rfl
      intro _
      apply (Preserves.emit fun _ _ h => h).bind
      intro _
      apply (keeps_lift (stateless_tunWrite decrypted.payload answer)).bind
      intro written
      exact Preserves.ite _ (keeps_raise _) (Preserves.pure _)

/-- A UDP packet leaves the sessions installed, whatever ciphers they have. -/
theorem keeps_handleUdpPacket (P : Primitives) (packet : Packet) (remoteAddress : Address)
    (answer : Bytes → Except PyError ℕ) : KeepsSessions start
      (handleUdpPacket P packet remoteAddress answer :
        Program PyError (ServerEffect τ ν) _ Bool) := by
  unfold handleUdpPacket
  apply Preserves.read.bind
  intro engine
  cases engine.sessions.get? (remoteAddress, packet.sessionId) with
  | none => exact Preserves.pure _
  | some ref =>
      apply Preserves.ite _ (Preserves.pure _)
      apply (keeps_deref ref).bind
      intro session
      apply Preserves.ite _ (Preserves.pure _)
      have hattempt : KeepsSessions start
          (attempt (onCipher ref session.cipher (Cipher.decrypt P packet)) :
            Program PyError (ServerEffect τ ν) _ (Except PyError Packet)) := by
        apply preserves_self_iff.2
        intro engine h hsame
        exact preserves_self_iff.1 (keeps_onCipher ref session.cipher _) engine h hsame
      apply hattempt.bind
      intro result
      cases result with
      | ok decrypted => exact keeps_deliver ref session _ decrypted answer
      | error e => cases e <;> first | exact Preserves.pure _ | exact keeps_raise _

end packets

/-! ## Calls -/

/-- A call that is given new session objects. -/
abbrev TableCall : Type := EngineCall ClientSession

/-- A program of the data plane on its own, without a clock and without a registry. -/
abbrev TableProgram (α : Type) : Type :=
  Program PyError (ServerEffect Unit Empty) MultiClientServerEngine α

/-- Run a call. -/
def TableCall.run (P : Primitives) (call : TableCall) : TableProgram Unit :=
  EngineCall.run P MultiClientServerEngine.addSession MultiClientServerEngine.replaceSession call

/-- The engine after a sequence of calls; a call that raises leaves the engine as it is at the
exception. -/
def afterCalls (P : Primitives) (calls : List TableCall) : MultiClientServerEngine :=
  calls.foldl (fun engine call => (call.run P engine).state) new

/-- An engine that some sequence of calls leaves. -/
def Reachable (P : Primitives) (engine : MultiClientServerEngine) : Prop :=
  ∃ calls, engine = afterCalls P calls

/-! ## The invariant over runs -/

/-- `add_session` under any key and tunnel address. -/
theorem addSession_wellFormed {engine : MultiClientServerEngine} (h : engine.WellFormed)
    (session : ClientSession) :
    wp (addSession session : TableProgram Unit) engine fun _ engine' _ => engine'.WellFormed := by
  unfold addSession addWith
  rw [wp_read_bind, wp_ite]
  refine ⟨fun _ => h, fun hkey => ?_⟩
  rw [wp_ite]
  refine ⟨fun _ => h, fun hroute => ?_⟩
  rw [OrderedDict.contains_iff] at hkey hroute
  simp only [wp_update]
  exact h.install ((OrderedDict.get?_eq_none_iff _ _).2 hkey)
    ((OrderedDict.get?_eq_none_iff _ _).2 hroute)

/-- A session found under a key is the one of its tunnel address. -/
theorem WellFormed.routed_of_session {engine : MultiClientServerEngine} (h : engine.WellFormed)
    {key : SessionKey} {ref : ℕ} (hget : engine.sessions.get? key = some ref) :
    ∃ s, engine.session? ref = some s ∧ s.key = key ∧
      engine.routed? s.tunnelAddress = some s := by
  obtain ⟨s, hs, hk, hr⟩ := h.of_session key ref hget
  exact ⟨s, hs, hk, by rw [routed?, hr, Option.bind_some, hs]⟩

/-- `remove_session` under any key. -/
theorem removeSession_wellFormed {engine : MultiClientServerEngine} (h : engine.WellFormed)
    (remoteAddress : Address) (sessionId : ℕ) :
    wp (removeSession remoteAddress sessionId : TableProgram Unit) engine
      fun _ engine' _ => engine'.WellFormed := by
  cases hget : engine.sessions.get? (remoteAddress, sessionId) with
  | none =>
      unfold removeSession
      rw [wp_read_bind, hget]
      exact h
  | some ref =>
      obtain ⟨s, hs, hk, hrouted⟩ := h.routed_of_session hget
      obtain ⟨rfl, rfl⟩ := Prod.mk.inj hk
      refine wp_mono (removeSession_spec h hrouted) ?_
      rintro r engine' t ⟨-, rfl, -⟩
      exact h.withoutRoute s.tunnelAddress

/-- `replace_session`, whether it raises or not. -/
theorem replaceSession_wellFormed {engine : MultiClientServerEngine} (h : engine.WellFormed)
    (session : ClientSession) :
    wp (replaceSession session : TableProgram Unit) engine
      fun _ engine' _ => engine'.WellFormed := by
  refine wp_mono (replaceSession_spec h session) ?_
  rintro r engine' t ⟨hends, -⟩
  cases hends with
  | collided _ => exact h.withoutRoute session.tunnelAddress
  | installed hfree => exact h.replaced hfree

/-- **One call.** -/
theorem TableCall.run_wellFormed {P : Primitives} {engine : MultiClientServerEngine}
    (h : engine.WellFormed) (call : TableCall) : (call.run P engine).state.WellFormed := by
  have hkeeps : ∀ {m : TableProgram Bool}, KeepsSessions engine m →
      (m engine).state.WellFormed := fun hm =>
    h.of_sameSessions (preserves_self_iff.1 hm engine [] (.refl engine))
  have hdiscard : ∀ m : TableProgram Bool,
      ((m >>= fun _ => pure PUnit.unit : TableProgram PUnit) engine).state = (m engine).state := by
    intro m
    show wp (m >>= fun _ => pure PUnit.unit : TableProgram PUnit) engine
      (fun _ engine' _ => engine' = (m engine).state)
    rw [wp_bind_pure]
    rfl
  cases call with
  | addSession session => exact addSession_wellFormed h session
  | replaceSession session => exact replaceSession_wellFormed h session
  | removeSession remoteAddress sessionId =>
      exact removeSession_wellFormed h remoteAddress sessionId
  | handleTunPacket payload failure =>
      rw [run, EngineCall.run, hdiscard]
      exact hkeeps (keeps_handleTunPacket P payload failure)
  | handleUdpPacket packet remoteAddress answer =>
      rw [run, EngineCall.run, hdiscard]
      exact hkeeps (keeps_handleUdpPacket P packet remoteAddress answer)

/-- **The invariant holds after every sequence of calls.** -/
theorem wellFormed_of_reachable {P : Primitives} {engine : MultiClientServerEngine}
    (h : Reachable P engine) : engine.WellFormed := by
  obtain ⟨calls, rfl⟩ := h
  have hstep : ∀ (calls : List TableCall) (engine : MultiClientServerEngine),
      engine.WellFormed →
      (calls.foldl (fun engine call => (call.run P engine).state) engine).WellFormed := by
    intro calls
    induction calls with
    | nil => exact fun engine h => h
    | cons call rest ih => exact fun engine h => ih _ (call.run_wellFormed h)
  exact hstep calls new wellFormed_new

/-- The session of a route is removed without an exception. -/
theorem WellFormed.removeSession_ok {engine : MultiClientServerEngine} (h : engine.WellFormed)
    {address : IPv4Address} {ref : ℕ} (hroute : engine.routes.get? address = some ref) :
    ∃ existing, engine.session? ref = some existing ∧
      ((removeSession existing.remoteAddress existing.sessionId : TableProgram Unit)
        engine).result = .ok () := by
  obtain ⟨existing, hs, -, -⟩ := h.of_route address ref hroute
  have hrouted : engine.routed? address = some existing := by
    rw [routed?, hroute, Option.bind_some, hs]
  obtain ⟨hresult, -, -⟩ : _ ∧ _ ∧ _ := removeSession_spec (τ := Unit) (ν := Empty) h hrouted
  exact ⟨existing, hs, hresult⟩

/-- `replace_session` raises nothing but the error of a taken key. -/
theorem WellFormed.replaceSession_ne_keyError {engine : MultiClientServerEngine}
    (h : engine.WellFormed) (session : ClientSession) :
    ((replaceSession session : TableProgram Unit) engine).result ≠ .error .keyError := by
  have hwp : wp (replaceSession session : TableProgram Unit) engine
      (fun r _ _ => r ≠ .error .keyError) := by
    refine wp_mono (replaceSession_spec h session) ?_
    rintro r engine' t ⟨hends, -⟩
    cases hends with
    | collided _ => exact nofun
    | installed _ => exact nofun
  exact hwp

/-- **The two dictionaries after any calls.** They hold the same objects one to one, each
under its remote address and session id and under its tunnel address, and `replace_session`
meets no missing key. -/
theorem sessionTable_correspondence (P : Primitives) (calls : List TableCall) :
    let engine := afterCalls P calls
    (∀ key ref, engine.sessions.get? key = some ref → ∃ s, engine.session? ref = some s ∧
      (s.remoteAddress, s.sessionId) = key ∧ engine.routes.get? s.tunnelAddress = some ref) ∧
    (∀ address ref, engine.routes.get? address = some ref → ∃ s, engine.session? ref = some s ∧
      s.tunnelAddress = address ∧
        engine.sessions.get? (s.remoteAddress, s.sessionId) = some ref) ∧
    (∀ ref, (∃ key, engine.sessions.get? key = some ref) ↔
      ∃ address, engine.routes.get? address = some ref) ∧
    (∀ key key' ref, engine.sessions.get? key = some ref →
      engine.sessions.get? key' = some ref → key = key') ∧
    (∀ address address' ref, engine.routes.get? address = some ref →
      engine.routes.get? address' = some ref → address = address') ∧
    (∀ address ref, engine.routes.get? address = some ref →
      ∃ existing, engine.session? ref = some existing ∧
        ((removeSession existing.remoteAddress existing.sessionId : TableProgram Unit)
          engine).result = .ok ()) ∧
    ∀ session, ((replaceSession session : TableProgram Unit) engine).result
      ≠ .error .keyError := by
  intro engine
  have h : engine.WellFormed := wellFormed_of_reachable (P := P) ⟨calls, rfl⟩
  refine ⟨h.of_session, h.of_route, ?_, ?_, ?_, fun address ref => h.removeSession_ok,
    h.replaceSession_ne_keyError⟩
  · intro ref
    constructor
    · rintro ⟨key, hget⟩
      obtain ⟨s, -, -, hr⟩ := h.of_session key ref hget
      exact ⟨s.tunnelAddress, hr⟩
    · rintro ⟨address, hget⟩
      obtain ⟨s, -, -, hk⟩ := h.of_route address ref hget
      exact ⟨s.key, hk⟩
  · -- the object of a reference has one key
    intro key key' ref hget hget'
    obtain ⟨s, hs, hk, -⟩ := h.of_session key ref hget
    obtain ⟨s', hs', hk', -⟩ := h.of_session key' ref hget'
    rw [hs] at hs'
    rw [← hk, ← hk', Option.some.inj hs']
  · intro address address' ref hget hget'
    obtain ⟨s, hs, ha, -⟩ := h.of_route address ref hget
    obtain ⟨s', hs', ha', -⟩ := h.of_route address' ref hget'
    rw [hs] at hs'
    rw [← ha, ← ha', Option.some.inj hs']

/-! ## Replacing a session -/

/-- The session is the only one of its tunnel address, and the sessions of the other addresses
in `before` are still installed. -/
structure Replaced (before after : MultiClientServerEngine) (session : ClientSession) : Prop where
  routed : after.routed? session.tunnelAddress = some session
  only : ∀ key ref s, after.sessions.get? key = some ref → after.session? ref = some s →
    s.tunnelAddress = session.tunnelAddress → s = session ∧ key = session.key
  keeps : ∀ key ref s, before.sessions.get? key = some ref → before.session? ref = some s →
    s.tunnelAddress ≠ session.tunnelAddress → after.sessions.get? key = some ref ∧
      after.routes.get? s.tunnelAddress = some ref ∧ after.session? ref = some s

/-- `replace_session` is all or nothing: it returns and the session took its place, or it raises
and both dictionaries are as they were. -/
def ReplacesAtomically (engine : MultiClientServerEngine) (session : ClientSession) : Prop :=
  let o := (replaceSession session : TableProgram Unit) engine
  (o.result = .ok () ∧ Replaced engine o.state session) ∨
    (∃ e, o.result = .error e ∧ o.state.sessions = engine.sessions ∧
      o.state.routes = engine.routes)

/-- A session that was installed is the only one of its tunnel address. -/
theorem WellFormed.replaced_all {engine : MultiClientServerEngine} (h : engine.WellFormed)
    {session : ClientSession} (hfree : ¬ engine.Taken session.key session.tunnelAddress) :
    Replaced engine ((engine.withoutRoute session.tunnelAddress).install session) session where
  routed := by
    rw [routed?, MultiClientServerEngine.install, OrderedDict.get?_insert_self, Option.bind_some]
    show ((engine.withoutRoute session.tunnelAddress).install session).session? _ = _
    rw [session?_install, if_pos rfl]
  only key ref s hget hs haddress := by
    obtain ⟨s', hs', hk, hr⟩ := (h.replaced hfree).of_session key ref hget
    rw [hs] at hs'
    obtain rfl := Option.some.inj hs'
    -- the route of the tunnel address leads to the new object
    rw [haddress, MultiClientServerEngine.install, OrderedDict.get?_insert_self] at hr
    have href : ref = (engine.withoutRoute session.tunnelAddress).objects.length :=
      (Option.some.inj hr).symm
    rw [session?_install, if_pos href] at hs
    obtain rfl := Option.some.inj hs
    exact ⟨rfl, hk.symm⟩
  keeps key ref s hget hs hne := by
    obtain ⟨s', hs', hk, hr⟩ := h.of_session key ref hget
    rw [hs] at hs'
    obtain rfl := Option.some.inj hs'
    obtain ⟨hroute, hsession, hobject⟩ := h.replaced_keeps hfree hr hne hs
    exact ⟨by rw [← hk, hsession], hroute, hobject⟩

/-- **When `replace_session` is atomic.** It is, in every reachable state, unless the tunnel
address has a session and the key of the new one belongs to another tunnel address. -/
theorem replaceSession_atomic_iff (P : Primitives) (engine : MultiClientServerEngine)
    (h : Reachable P engine) (session : ClientSession) :
    ReplacesAtomically engine session ↔
      ¬ (engine.routed? session.tunnelAddress ≠ none ∧
        engine.Taken session.key session.tunnelAddress) := by
  have hwf : engine.WellFormed := wellFormed_of_reachable h
  have hends : ReplaceEnds engine session
      ((replaceSession session : TableProgram Unit) engine).result
      ((replaceSession session : TableProgram Unit) engine).state :=
    (replaceSession_spec (τ := Unit) (ν := Empty) hwf session).1
  unfold ReplacesAtomically
  generalize (replaceSession session : TableProgram Unit) engine = o at hends
  obtain ⟨r, engine', t⟩ := o
  simp only at hends ⊢
  cases hends with
  | installed hfree =>
      refine iff_of_true (Or.inl ⟨rfl, hwf.replaced_all hfree⟩) ?_
      exact fun hboth => hfree hboth.2
  | collided htaken =>
      constructor
      · rintro (⟨hok, -⟩ | ⟨e, -, -, hroutes⟩)
        · cases hok
        · rintro ⟨hrouted, -⟩
          -- the route of the tunnel address is gone
          obtain ⟨s, hs⟩ := Option.ne_none_iff_exists'.1 hrouted
          obtain ⟨ref, hget, -, -, -⟩ := hwf.routed hs
          rw [← hroutes, (hwf.withoutRoute_get? session.tunnelAddress).2, if_pos rfl] at hget
          cases hget
      · intro hnot
        have hnone : engine.routed? session.tunnelAddress = none := by
          by_contra hrouted
          exact hnot ⟨hrouted, htaken⟩
        have hsame : engine.withoutRoute session.tunnelAddress = engine := by
          rw [withoutRoute, hnone]
        rw [hsame]
        exact Or.inr ⟨_, rfl, rfl, rfl⟩

/-! ## Two clients with one key -/

/-- A cipher without rotation. -/
def sampleTableCipher : Cipher :=
  .packetCipher ⟨List.replicate 32 1, List.replicate 32 2, by decide, by decide⟩

/-- A new session of the client with tunnel address `10.8.0.n`, from port `port` of one host. -/
def sampleTableSession (n : UInt8) (port sessionId : ℕ) : ClientSession :=
  ⟨⟨.ofOctets 192 0 2 7, port⟩, .ofOctets 10 8 0 n, sessionId, sampleTableCipher, 0, .default⟩

/-- Two clients behind one address with a session each. -/
def sampleTableCalls : List TableCall :=
  [.addSession (sampleTableSession 2 5000 1), .addSession (sampleTableSession 3 5001 2)]

/-- The first client gets a new session under the key of the second one: its old session is
removed and the call raises. -/
theorem replaceSession_not_atomic :
    ¬ ReplacesAtomically (afterCalls sample sampleTableCalls) (sampleTableSession 2 5001 2) := by
  rintro (⟨hok, -⟩ | ⟨e, -, hsessions, -⟩)
  · cases hok
  · have hkeys := congrArg OrderedDict.keys hsessions
    revert hkeys
    decide

/-- The first client gets a new session under a new key: it replaces the old one. -/
theorem replaceSession_atomic_sample :
    (afterCalls sample sampleTableCalls).routed? (.ofOctets 10 8 0 2) ≠ none ∧
    ReplacesAtomically (afterCalls sample sampleTableCalls) (sampleTableSession 2 5002 3) := by
  refine ⟨by decide, (replaceSession_atomic_iff sample _ ⟨sampleTableCalls, rfl⟩ _).2 ?_⟩
  rintro ⟨-, ref, s, hget, -, -⟩
  have hfree : (afterCalls sample sampleTableCalls).sessions.get? (sampleTableSession 2 5002 3).key
      = none := by decide
  rw [hfree] at hget
  cases hget

end MultiClientServerEngine

end MatfVpn
