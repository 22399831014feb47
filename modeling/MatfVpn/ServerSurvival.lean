/-
# Whether the server survives a datagram

When the operating system accepts the sends and the TUN write, `run_once` raises for one
kind of datagram only: a hello that is accepted as new and whose source and session id are
the key of another client's session (`Collides`).

* `MultiClientServer.serves_iff_not_collides` : one iteration;
* `MultiClientServer.run_serves_iff` : the iterations of a run.
-/
import MatfVpn.HandshakeReplay

namespace MatfVpn

open Program

namespace MultiClientServer

variable {τ : Type} {P : Primitives}

/-! ## What can go wrong -/

/-- The calls of the operating system succeed in this iteration, and what was read from the
TUN device is forwarded or dropped without an exception. -/
structure DevicesWork (P : Primitives) (input : ServerInput) (server : MultiClientServer) :
    Prop where
  sends : input.helloSendFailure = none
  receives : ∀ e, input.udpReceive ≠ some (.error e)
  writes : ∀ payload, input.tunWrite payload = .ok payload.length
  forwards : ∃ n server₁ t₁, (forwardFromTun P input server :
    Outcome PyError (ServerEffect Unit Acceptance) _ ℕ) = ⟨.ok n, server₁, t₁⟩

/-- The datagram is a hello that is accepted as new, and its source and session id are the
key of the session of another client. -/
def Collides (P : Primitives) (input : ServerInput) (server : MultiClientServer) : Prop :=
  ∃ packet source identity response secret, Arrives input packet source ∧
    server.registry.reception P packet input.entropy = .fresh identity response secret ∧
    server.engine.Taken (source, packet.sessionId) identity.tunnelAddress

/-- Every installed session is still installed, but for that of a client whose hello was
accepted as new. -/
def KeepsOthers (server server' : MultiClientServer) (t' : ServerTrace τ) : Prop :=
  ∀ address ref s, server.engine.routes.get? address = some ref →
    server.engine.session? ref = some s →
    (∃ a ∈ freshAcceptances t', a.identity.tunnelAddress = address) ∨
      (server'.engine.routes.get? address = some ref ∧
        server'.engine.sessions.get? s.key = some ref ∧
        ∃ s', server'.engine.session? ref = some s' ∧ s'.key = s.key ∧
          s'.tunnelAddress = s.tunnelAddress)

/-- The iteration returns, and the server keeps serving the other sessions. -/
def Serves (P : Primitives) (input : ServerInput) (server : MultiClientServer) : Prop :=
  ∃ n server' t', (runOnce P input none server : Outcome PyError (ServerEffect Unit Acceptance)
      _ ℕ) = ⟨.ok n, server', t'⟩ ∧ KeepsOthers server server' t'

/-! ## One iteration -/

/-- Packets of the same sessions keep the others. -/
theorem keepsOthers_of_sameSessions {server : MultiClientServer} {registry : ClientRegistry}
    {engine : MultiClientServerEngine} {t' : ServerTrace τ}
    (hwf : server.engine.WellFormed) (hsame : server.engine.SameSessions engine) :
    KeepsOthers server ⟨registry, engine⟩ t' := by
  intro address ref s hroute hs
  obtain ⟨s₀, hs₀, -, hkey⟩ := hwf.of_route address ref hroute
  rw [hs] at hs₀
  obtain rfl := Option.some.inj hs₀
  exact Or.inr ⟨by rw [hsame.routes, hroute], by rw [hsame.sessions, hkey], hsame.session? hs⟩

/-- A session that replaces that of its own client keeps the others. -/
theorem keepsOthers_of_replaced {server : MultiClientServer} {registry : ClientRegistry}
    {engine : MultiClientServerEngine} {t' : ServerTrace τ} {session : ClientSession}
    (hsame : server.engine.SameSessions engine) (hwf : engine.WellFormed)
    (hfree : ¬ engine.Taken session.key session.tunnelAddress) {a : Acceptance}
    (ha : a ∈ freshAcceptances t') (haddress : a.identity.tunnelAddress = session.tunnelAddress) :
    KeepsOthers server ⟨registry, (engine.withoutRoute session.tunnelAddress).install session⟩
      t' := by
  intro address ref s hroute hs
  by_cases hown : address = session.tunnelAddress
  · exact Or.inl ⟨a, ha, haddress.trans hown.symm⟩
  · right
    obtain ⟨s', hs', hkey, htunnel⟩ := hsame.session? hs
    rw [← hsame.routes] at hroute
    obtain ⟨h1, h2, h3⟩ := hwf.replaced_keeps hfree hroute hown hs'
    rw [hkey] at h2
    exact ⟨h1, h2, s', h3, hkey, htunnel⟩

/-- Nothing collides when no fresh hello arrives. -/
theorem not_collides {input : ServerInput} {server : MultiClientServer}
    (h : ∀ packet source, Arrives input packet source → ∀ identity response secret,
      server.registry.reception P packet input.entropy ≠ .fresh identity response secret) :
    ¬ Collides P input server := by
  rintro ⟨packet, source, identity, response, secret, harrives, hfresh, -⟩
  exact h packet source harrives identity response secret hfresh

/-- A datagram whose packet is not accepted as a fresh hello does not collide. -/
theorem not_collides_of_arrives {input : ServerInput} {server : MultiClientServer}
    {packet : Packet} {source : Address} (harrives : Arrives input packet source)
    (h : ∀ identity response secret, server.registry.reception P packet input.entropy
      ≠ .fresh identity response secret) : ¬ Collides P input server := by
  refine not_collides fun packet' source' harrives' => ?_
  rw [(harrives.unique harrives').1]
  exact h

/-- The data plane returns when the TUN write succeeds. -/
theorem udpEnds_returns {packetsPerKey : ℕ} {secrets : ℕ → Bytes}
    {engine engine' : MultiClientServerEngine} {packet : Packet} {source : Address}
    {answer : Bytes → Except PyError ℕ} {r : Except PyError Bool} {t : ServerTrace τ}
    (h : MultiClientServerEngine.UdpEnds P packetsPerKey secrets engine packet source answer r
      engine' t)
    (hanswer : ∀ payload, answer payload = .ok payload.length) : ∃ b, r = .ok b := by
  cases h with
  | ignored _ => exact ⟨false, rfl⟩
  | dropped _ _ _ _ _ _ _ _ => exact ⟨false, rfl⟩
  | accepted ref s cipher calls decrypted window _ _ _ _ _ =>
      refine ⟨true, ?_⟩
      rw [MultiClientServerEngine.deliverResult, hanswer]
      exact if_neg (by simp)

/-- **One iteration.** In a state that a run reaches, with the calls of the operating system
succeeding, an iteration returns and serves the other sessions exactly when the datagram
does not collide. -/
theorem serves_iff_not_collides (hA : P.LawfulAead) (hH : P.LawfulHkdf) (hM : P.LawfulHmac)
    (hX : P.LawfulX25519) {start : ClientRegistry} {server : MultiClientServer}
    {t : ServerTrace Unit} (hinv : server.Invariant P start t) {input : ServerInput}
    (hwork : DevicesWork P input server) :
    Serves P input server ↔ ¬ Collides P input server := by
  obtain ⟨n, server₁, t₁, htun⟩ := hwork.forwards
  obtain ⟨⟨engine, hengine, hhalf⟩, r, server', t₂, hudp, hrun⟩ :=
    runOnce_of_forwardFromTun hA hH hM hX hinv.sound htun none
  rw [hengine] at hudp
  obtain ⟨hsame, hsound⟩ := hhalf.sound hinv.sound
  have hwf := hinv.sound.wellFormed
  -- an iteration that returns and keeps the others serves
  have hserves : ∀ m, r = .ok m → KeepsOthers server server' _ → Serves P input server :=
    fun m hm hkeeps => ⟨n + m, server', _, by rw [hrun, hm]; rfl, hkeeps⟩
  have hraises : ∀ e, r = .error e → ¬ Serves P input server := by
    rintro e rfl ⟨m, server'', t', hrun', -⟩
    rw [hrun] at hrun'
    cases (Outcome.mk.inj hrun').1
  cases hudp with
  | idle hnone =>
      refine iff_of_true (hserves 0 rfl (keepsOthers_of_sameSessions hwf hsame)) ?_
      refine not_collides fun packet source ⟨datagram, hreceive, _⟩ => ?_
      simp [hnone] at hreceive
  | failed e r herror => exact absurd herror (hwork.receives e)
  | malformed datagram source message hreceive hdecode =>
      refine iff_of_true (hserves 0 rfl (keepsOthers_of_sameSessions hwf hsame)) ?_
      refine not_collides fun packet source' ⟨datagram', hreceive', hdecode'⟩ => ?_
      obtain ⟨rfl, rfl⟩ := Prod.mk.inj (Except.ok.inj (Option.some.inj (hreceive ▸ hreceive')))
      rw [hdecode] at hdecode'
      cases hdecode'
  | received datagram source packet r _ t₂ hreceive hdecode hpacket =>
      have harrives : Arrives input packet source := ⟨datagram, hreceive, hdecode⟩
      cases hpacket with
      | forwarded r engine' t₂ hunknown hends =>
          obtain ⟨b, rfl⟩ := udpEnds_returns hends hwork.writes
          refine iff_of_true (hserves _ rfl (keepsOthers_of_sameSessions hwf
            (hsame.trans hends.sameSessions))) (not_collides_of_arrives harrives ?_)
          intro identity response secret hfresh
          simp [hunknown] at hfresh
      | notResent accepted e _ hfailure => simp [hwork.sends] at hfailure
      | notAnswered _ _ _ _ _ e _ hfailure => simp [hwork.sends] at hfailure
      | resent accepted data hcached _ _ =>
          refine iff_of_true (hserves 0 rfl (keepsOthers_of_sameSessions hwf hsame))
            (not_collides_of_arrives harrives ?_)
          intro identity response secret hfresh
          simp [hcached] at hfresh
      | answered identity response secret cipher calls data r engine' hfresh _ _ _ hreplace =>
          cases hreplace with
          | collided htaken =>
              -- another session has the id or the address, so `replace_session` raises
              refine iff_of_false (hraises _ rfl) (not_not.2 ?_)
              exact ⟨packet, source, identity, response, secret, harrives, hfresh,
                (hsame.taken _ _).1 htaken⟩
          | installed hfree =>
              refine iff_of_true (hserves 0 rfl ?_) ?_
              · refine keepsOthers_of_replaced hsame hsound.wellFormed hfree
                  (a := ⟨packet, source, response, identity, some secret⟩) ?_ rfl
                simp [freshAcceptances, hhalf.trace.1, Acceptance.isFresh]
              · rintro ⟨packet', source', identity', response', secret', harrives', hfresh', htaken⟩
                obtain ⟨rfl, rfl⟩ := harrives.unique harrives'
                rw [show server.registry.reception P packet' input.entropy = _ from
                  hfresh] at hfresh'
                obtain ⟨rfl, -, -⟩ := Reception.fresh.inj hfresh'
                exact hfree ((hsame.taken _ _).2 htaken)

/-! ## Runs -/

/-- `R` holds of every iteration of the run that is reached. -/
def EachStep (P : Primitives) (start : ClientRegistry) (inputs : List ServerInput)
    (R : MultiClientServer → ServerInput → Prop) : Prop :=
  ∀ before input after server t, inputs = before ++ input :: after →
    Reaches P (new start) before server (t : ServerTrace Unit) → R server input

section run

variable (hA : P.LawfulAead) (hH : P.LawfulHkdf) (hM : P.LawfulHmac) (hX : P.LawfulX25519)
  {start : ClientRegistry} (hstart : start.acceptedHellos = .empty)
include hA hH hM hX hstart

/-- A run goes on while its datagrams do not collide. -/
theorem reaches_of_not_collides {inputs : List ServerInput}
    (h : EachStep P start inputs fun server input =>
      DevicesWork P input server ∧ ¬ Collides P input server) :
    ∃ server t, Reaches P (new start) inputs server (t : ServerTrace Unit) := by
  induction inputs using List.reverseRecOn with
  | nil => exact ⟨new start, [], reaches_nil.2 ⟨rfl, rfl⟩⟩
  | append_singleton inputs input ih =>
      obtain ⟨server, t, hreach⟩ := ih fun before input' after server t hinputs =>
        h before input' (after ++ [input]) server t (by rw [hinputs]; simp)
      obtain ⟨hwork, hnot⟩ := h inputs input [] server t rfl hreach
      obtain ⟨n, server', t', hrun, -⟩ := (serves_iff_not_collides hA hH hM hX
        (hreach.invariant hA hH hM hX hstart) hwork).2 hnot
      exact ⟨server', t ++ t', reaches_concat.2 ⟨server, t, n, t', hreach, hrun, rfl⟩⟩

/-- **When the server survives.** In every run, the iterations return and serve the other
sessions, whenever the calls of the operating system succeed, exactly when no datagram
collides; a run without such a datagram goes on. -/
theorem run_serves_iff (inputs : List ServerInput) :
    ((EachStep P start inputs fun server input =>
        DevicesWork P input server → Serves P input server) ↔
      EachStep P start inputs fun server input =>
        DevicesWork P input server → ¬ Collides P input server) ∧
    ((EachStep P start inputs fun server input =>
        DevicesWork P input server ∧ ¬ Collides P input server) →
      ∃ server t, Reaches P (new start) inputs server (t : ServerTrace Unit)) := by
  refine ⟨⟨?_, ?_⟩, reaches_of_not_collides hA hH hM hX hstart⟩
  · intro h before input after server t hinputs hreach hwork
    exact (serves_iff_not_collides hA hH hM hX (hreach.invariant hA hH hM hX hstart) hwork).1
      (h before input after server t hinputs hreach hwork)
  · intro h before input after server t hinputs hreach hwork
    exact (serves_iff_not_collides hA hH hM hX (hreach.invariant hA hH hM hX hstart) hwork).2
      (h before input after server t hinputs hreach hwork)

end run

theorem run_serves_iff_sample :
    (EachStep sample sampleRegistry sampleInOrder fun server input =>
        DevicesWork sample input server → Serves sample input server) ↔
      EachStep sample sampleRegistry sampleInOrder fun server input =>
        DevicesWork sample input server → ¬ Collides sample input server :=
  (run_serves_iff sample_lawfulAead sample_lawfulHkdf sample_lawfulHmac sample_lawfulX25519 rfl
    sampleInOrder).1

/-- A hello of the second sample client, with the session id of the first. -/
def sampleSpoofedHello : Packet :=
  ((createClientHello sample (BigEndian.toBytes 32 9999999)
    (sample.x25519Public sampleKeys.serverPrivate)
    { sampleClientEntropy with
      ephemeralPrivate := BigEndian.toBytes 32 7777,
      clientRandom := BigEndian.toBytes 32 8888,
      length_ephemeralPrivate := BigEndian.length_toBytes _ _,
      length_clientRandom := BigEndian.length_toBytes _ _ }).toOption.get (by decide +kernel)).1

/-- It arrives from the address of the first client. -/
def sampleSpoofed : ServerInput :=
  sampleArrival (sampleSpoofedHello.encode.toOption.get (by decide +kernel)) (sampleSource 0)

/-- A client that takes the source and the session id of another one ends the server. -/
theorem spoofed_hello_raises :
    Reaches sample (new sampleRegistry) (sampleInOrder.take 1)
        (sampleOutcome (sampleInOrder.take 1)).state (sampleOutcome (sampleInOrder.take 1)).trace ∧
      DevicesWork sample sampleSpoofed (sampleOutcome (sampleInOrder.take 1)).state ∧
      (runOnce sample sampleSpoofed none (sampleOutcome (sampleInOrder.take 1)).state :
        Outcome PyError (ServerEffect Unit Acceptance) _ ℕ).result
          = .error (.valueError "client session already exists") := by
  refine ⟨reaches_of_returns (by decide +kernel), ⟨rfl, nofun, fun _ => rfl, 0, _, [], rfl⟩, ?_⟩
  decide +kernel

end MultiClientServer

end MatfVpn
