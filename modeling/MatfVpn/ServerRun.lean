/-
# Runs of the multi-client server

What holds of every state that a run reaches.  The trace of a run determines the session
objects: the object at position `n` comes from the `n`-th hello that was accepted as new
(`freshAcceptances`).

* `Reaches.invariant` : the invariant of the server and its trace, by induction over the
  iterations of a run.
-/
import MatfVpn.HandshakeAgreement
import MatfVpn.MultiServerSpec

namespace MatfVpn

open Program

/-! ## Traces -/

namespace ServerEffect

variable {τ ν : Type}

/-- The note in a trace entry. -/
def note? : ServerEffect τ ν → Option ν
  | note n => some n
  | _ => none

/-- The effect of an endpoint in a trace entry. -/
def effect? : ServerEffect τ ν → Option (Effect τ)
  | effect e => some e
  | _ => none

/-- The accepted packet in a trace entry, with its session object. -/
def deliver? : ServerEffect τ ν → Option (ℕ × Packet)
  | deliver session packet => some (session, packet)
  | _ => none

end ServerEffect

/-- The trace of a server. -/
abbrev ServerTrace (τ : Type) := List (ServerEffect τ Acceptance)

section traces

variable {τ : Type}

/-- The hellos that the registry accepted, in order. -/
def acceptances (t : ServerTrace τ) : List Acceptance := t.filterMap ServerEffect.note?

/-- The hello was accepted as new. -/
def Acceptance.isFresh (a : Acceptance) : Bool := a.secret.isSome

/-- The hellos that the registry accepted as new, in order. -/
def freshAcceptances (t : ServerTrace τ) : List Acceptance :=
  (acceptances t).filter Acceptance.isFresh

/-- The accepted packets with their session objects, in order. -/
def delivered (t : ServerTrace τ) : List (ℕ × Packet) := t.filterMap ServerEffect.deliver?

/-- The effects on the surroundings, in order. -/
def effects (t : ServerTrace τ) : List (Effect τ) := t.filterMap ServerEffect.effect?

variable (s t : ServerTrace τ) (e : Effect τ) (a : Acceptance) (ref : ℕ) (packet : Packet)
  (calls : List CryptoCall)

@[simp] theorem acceptances_nil : acceptances ([] : ServerTrace τ) = [] := rfl
@[simp] theorem acceptances_effect : acceptances (.effect e :: t) = acceptances t := rfl
@[simp] theorem acceptances_note : acceptances (.note a :: t) = a :: acceptances t := rfl
@[simp] theorem acceptances_deliver :
    acceptances (.deliver ref packet :: t) = acceptances t := rfl

@[simp] theorem acceptances_append :
    acceptances (s ++ t) = acceptances s ++ acceptances t := List.filterMap_append

@[simp] theorem acceptances_calls :
    acceptances (calls.map fun call => .effect (.crypto call) : ServerTrace τ) = [] := by
  rw [acceptances, List.filterMap_map]
  exact List.filterMap_eq_nil_iff.2 fun _ _ => rfl

@[simp] theorem freshAcceptances_append :
    freshAcceptances (s ++ t) = freshAcceptances s ++ freshAcceptances t := by
  rw [freshAcceptances, acceptances_append, List.filter_append]
  rfl

@[simp] theorem delivered_nil : delivered ([] : ServerTrace τ) = [] := rfl
@[simp] theorem delivered_effect : delivered (.effect e :: t) = delivered t := rfl
@[simp] theorem delivered_note : delivered (.note a :: t) = delivered t := rfl
@[simp] theorem delivered_deliver :
    delivered (.deliver ref packet :: t) = (ref, packet) :: delivered t := rfl

@[simp] theorem delivered_append : delivered (s ++ t) = delivered s ++ delivered t :=
  List.filterMap_append

@[simp] theorem delivered_calls :
    delivered (calls.map fun call => .effect (.crypto call) : ServerTrace τ) = [] := by
  rw [delivered, List.filterMap_map]
  exact List.filterMap_eq_nil_iff.2 fun _ _ => rfl

@[simp] theorem effects_nil : effects ([] : ServerTrace τ) = [] := rfl
@[simp] theorem effects_effect : effects (.effect e :: t) = e :: effects t := rfl
@[simp] theorem effects_note : effects (.note a :: t) = effects t := rfl
@[simp] theorem effects_deliver : effects (.deliver ref packet :: t) = effects t := rfl

@[simp] theorem effects_append : effects (s ++ t) = effects s ++ effects t :=
  List.filterMap_append

@[simp] theorem effects_calls :
    effects (calls.map fun call => .effect (.crypto call) : ServerTrace τ)
      = calls.map .crypto := by
  rw [effects, List.filterMap_map]
  exact congrFun List.filterMap_eq_map' calls

end traces

/-! ## What one call leaves in the trace -/

section ends

variable {τ : Type} {P : Primitives} {origins : List Acceptance} {input : ServerInput}
  {self : MultiClientServer} {engine engine' : MultiClientServerEngine} {t : ServerTrace τ}

/-- A TUN packet is neither a hello nor accepted on a session. -/
theorem MultiClientServer.TunHalf.trace {r : Except PyError ℕ}
    (h : MultiClientServer.TunHalf P origins input self r engine t) :
    acceptances t = [] ∧ delivered t = [] := by
  cases h with
  | idle _ => exact ⟨rfl, rfl⟩
  | failed _ _ => exact ⟨rfl, rfl⟩
  | handled payload r _ _ _ hends => cases hends <;> simp

/-- A packet of the data plane is no hello. -/
theorem MultiClientServerEngine.UdpEnds.acceptances {packetsPerKey : ℕ} {secrets : ℕ → Bytes}
    {packet : Packet} {source : Address} {answer : Bytes → Except PyError ℕ}
    {r : Except PyError Bool}
    (h : UdpEnds P packetsPerKey secrets engine packet source answer r engine' t) :
    acceptances t = [] := by
  cases h <;> simp

end ends

/-! ## The invariant of a run -/

namespace MultiClientServer

variable {τ : Type} {P : Primitives}

/-- The session object at this position is the last one of its tunnel address. -/
def Current (fresh : List Acceptance) (ref : ℕ) (a : Acceptance) : Prop :=
  fresh[ref]? = some a ∧ ∀ ref' a', ref < ref' → fresh[ref']? = some a' →
    a'.identity.tunnelAddress ≠ a.identity.tunnelAddress

/-- The acceptance is the last one as new of the hello with this key. -/
def Recorded (P : Primitives) (fresh : List Acceptance) (key : Bytes) (a : Acceptance) : Prop :=
  ∃ before after, fresh = before ++ a :: after ∧ fingerprint P a.hello = key ∧
    ∀ b ∈ after, fingerprint P b.hello ≠ key

/-- One more acceptance as new. -/
theorem recorded_concat_self (P : Primitives) (fresh : List Acceptance) (a : Acceptance) :
    Recorded P (fresh ++ [a]) (fingerprint P a.hello) a :=
  ⟨fresh, [], rfl, rfl, nofun⟩

theorem Recorded.concat {fresh : List Acceptance} {key : Bytes} {a b : Acceptance}
    (h : Recorded P fresh key a) (hne : key ≠ fingerprint P b.hello) :
    Recorded P (fresh ++ [b]) key a := by
  obtain ⟨before, after, rfl, hkey, hafter⟩ := h
  refine ⟨before, after ++ [b], by simp, hkey, ?_⟩
  intro c hc
  rcases List.mem_append.1 hc with hc | hc
  · exact hafter c hc
  · rw [List.mem_singleton.1 hc]
    exact hne.symm

theorem Recorded.mem {fresh : List Acceptance} {key : Bytes} {a : Acceptance}
    (h : Recorded P fresh key a) : a ∈ fresh := by
  obtain ⟨before, after, rfl, -, -⟩ := h
  exact List.mem_append_right _ List.mem_cons_self

/-- The acceptance is the return of `accept_client_hello` for a configured client. -/
def Genuine (P : Primitives) (start : ClientRegistry) (a : Acceptance) : Prop :=
  a.identity ∈ start.clients ∧ a.hello.Encodable ∧
    ∃ e, acceptClientHello P a.hello start.serverPrivateKey a.identity.publicKey e
      = .ok (a.response, a.sessionSecret)

/-- What holds of a server and its trace after any iterations that returned. -/
structure Invariant (P : Primitives) (start : ClientRegistry) (server : MultiClientServer)
    (t : ServerTrace τ) : Prop where
  sound : server.Sound P (freshAcceptances t)
  serverPrivateKey : server.registry.serverPrivateKey = start.serverPrivateKey
  clients : server.registry.clients = start.clients
  packetsPerKey : server.registry.packetsPerKey = start.packetsPerKey
  current : ∀ ref a, Current (freshAcceptances t) ref a →
    server.engine.routes.get? a.identity.tunnelAddress = some ref
  cache : ∀ key accepted, server.registry.acceptedHellos.get? key = some accepted →
    ∃ a, Recorded P (freshAcceptances t) key a ∧ a.response = accepted.response ∧
      a.identity = accepted.identity
  genuine : ∀ a ∈ freshAcceptances t, Genuine P start a

/-- A new server has the invariant. -/
theorem invariant_new {start : ClientRegistry} (h : start.acceptedHellos = .empty) :
    Invariant P start (new start) ([] : ServerTrace τ) where
  sound := sound_new h
  serverPrivateKey := rfl
  clients := rfl
  packetsPerKey := rfl
  current ref a hcurrent := by simp [Current, freshAcceptances] at hcurrent
  cache key accepted hget := by simp [new, h] at hget
  genuine a ha := by simp [freshAcceptances] at ha

section step

variable {start : ClientRegistry} {server : MultiClientServer} {t t' : ServerTrace τ}
  {engine : MultiClientServerEngine}

/-- Packets of the same sessions keep the invariant. -/
theorem Invariant.of_sameSessions (h : server.Invariant P start t)
    (hsame : server.engine.SameSessions engine)
    (hciphers : engine.Ciphers P server.registry.packetsPerKey (secretOf (freshAcceptances t)))
    (ht' : freshAcceptances t' = []) : Invariant P start ⟨server.registry, engine⟩ (t ++ t') := by
  have hfresh : freshAcceptances (t ++ t') = freshAcceptances t := by
    rw [freshAcceptances_append, ht', List.append_nil]
  exact {
    sound := by
      rw [hfresh]
      exact h.sound.of_sameSessions hsame hciphers
    serverPrivateKey := h.serverPrivateKey
    clients := h.clients
    packetsPerKey := h.packetsPerKey
    current := by
      rw [hfresh, hsame.routes]
      exact h.current
    cache := by
      rw [hfresh]
      exact h.cache
    genuine := by
      rw [hfresh]
      exact h.genuine }

/-- A hello that is presented again keeps the invariant. -/
theorem Invariant.presented (h : server.Invariant P start t) (packet : Packet)
    (ht' : freshAcceptances t' = []) :
    Invariant P start ⟨server.registry.presented P packet, server.engine⟩ (t ++ t') := by
  have hfresh : freshAcceptances (t ++ t') = freshAcceptances t := by
    rw [freshAcceptances_append, ht', List.append_nil]
  have hget : ∀ key, (server.registry.presented P packet).acceptedHellos.get? key
      = server.registry.acceptedHellos.get? key := fun key => OrderedDict.get?_moveToEnd ..
  exact {
    sound := by
      rw [hfresh]
      exact ⟨h.sound.wellFormed, h.sound.length_objects, h.sound.comesFrom, h.sound.ciphers,
        fun key accepted haccepted => h.sound.responses key accepted (hget key ▸ haccepted)⟩
    serverPrivateKey := h.serverPrivateKey
    clients := h.clients
    packetsPerKey := h.packetsPerKey
    current := by
      rw [hfresh]
      exact h.current
    cache := by
      rw [hfresh]
      exact fun key accepted haccepted => h.cache key accepted (hget key ▸ haccepted)
    genuine := by
      rw [hfresh]
      exact h.genuine }

/-- The position of a new session object. -/
theorem current_concat {fresh : List Acceptance} {a b : Acceptance} {ref : ℕ} :
    Current (fresh ++ [b]) ref a ↔
      (ref = fresh.length ∧ a = b) ∨
        (Current fresh ref a ∧ a.identity.tunnelAddress ≠ b.identity.tunnelAddress) := by
  unfold Current
  constructor
  · rintro ⟨hget, hlast⟩
    rcases Nat.lt_or_ge ref fresh.length with hlt | hge
    · rw [List.getElem?_append_left hlt] at hget
      refine Or.inr ⟨⟨hget, fun ref' a' href ha' => hlast ref' a' href ?_⟩, ?_⟩
      · rw [List.getElem?_append_left (List.getElem?_eq_some_iff.1 ha').1, ha']
      · exact (hlast fresh.length b hlt (by simp)).symm
    · rw [List.getElem?_append_right hge] at hget
      obtain ⟨hsub, hb⟩ := List.getElem?_eq_some_iff.1 hget
      rw [List.length_singleton] at hsub
      refine Or.inl ⟨by omega, ?_⟩
      rw [← hb]
      simp
  · rintro (⟨rfl, rfl⟩ | ⟨⟨hget, hlast⟩, hne⟩)
    · refine ⟨by simp, fun ref' a' href ha' => ?_⟩
      have hlt := (List.getElem?_eq_some_iff.1 ha').1
      rw [List.length_append, List.length_singleton] at hlt
      omega
    · have hlt := (List.getElem?_eq_some_iff.1 hget).1
      refine ⟨by rw [List.getElem?_append_left hlt, hget], fun ref' a' href ha' => ?_⟩
      rcases Nat.lt_or_ge ref' fresh.length with hlt' | hge
      · rw [List.getElem?_append_left hlt'] at ha'
        exact hlast ref' a' href ha'
      · rw [List.getElem?_append_right hge] at ha'
        obtain ⟨hsub, hb⟩ := List.getElem?_eq_some_iff.1 ha'
        rw [← hb]
        simpa using hne.symm

/-- A fresh hello whose session is installed leaves a sound server. -/
theorem Sound.installed {origins : List Acceptance} (h : server.Sound P origins)
    {packet response : Packet} {source : Address} {identity : ClientIdentity} {secret : Bytes}
    {cipher : Cipher} (hsession : packet.sessionId < 2 ^ 32)
    (hder : ∃ log, cipher.DerivedFrom P log secret packet.sessionId .server
      server.registry.packetsPerKey)
    (hresponse : response.Encodable)
    (hfree : ¬ server.engine.Taken (source, packet.sessionId) identity.tunnelAddress)
    (accepted : AcceptedSession) (haccepted : accepted.response = response) :
    Sound P (origins ++ [⟨packet, source, response, identity, some secret⟩])
      ⟨server.registry.recorded P packet accepted,
        (server.engine.withoutRoute identity.tunnelAddress).install
          (ClientRegistry.newSession packet source identity cipher)⟩ where
  wellFormed := h.wellFormed.replaced
    (show ¬ server.engine.Taken (ClientRegistry.newSession packet source identity cipher).key
      (ClientRegistry.newSession packet source identity cipher).tunnelAddress from hfree)
  length_objects := by
    rw [MultiClientServerEngine.install, List.length_append,
      MultiClientServerEngine.objects_withoutRoute, h.length_objects, List.length_append]
    rfl
  comesFrom ref s a hs ha := by
    rw [MultiClientServerEngine.session?_install, MultiClientServerEngine.objects_withoutRoute,
      h.length_objects] at hs
    -- the new object is the last one and comes from the new acceptance
    split at hs
    · rename_i href
      rw [href, List.getElem?_concat_length] at ha
      obtain rfl := Option.some.inj ha
      obtain rfl := Option.some.inj hs
      exact ⟨rfl, rfl, rfl⟩
    · rw [MultiClientServerEngine.session?_withoutRoute] at hs
      have hlt : ref < origins.length := by
        rw [← h.length_objects]
        exact (List.getElem?_eq_some_iff.1 hs).1
      rw [List.getElem?_append_left hlt] at ha
      exact h.comesFrom ref s a hs ha
  ciphers ref s hs := by
    rw [MultiClientServerEngine.session?_install, MultiClientServerEngine.objects_withoutRoute,
      h.length_objects] at hs
    split at hs
    · rename_i href
      obtain rfl := Option.some.inj hs
      rw [secretOf, href, List.getElem?_concat_length]
      exact ⟨hsession, hder⟩
    · rw [MultiClientServerEngine.session?_withoutRoute] at hs
      have hlt : ref < origins.length := by
        rw [← h.length_objects]
        exact (List.getElem?_eq_some_iff.1 hs).1
      rw [secretOf, List.getElem?_append_left hlt]
      exact h.ciphers ref s hs
  responses key accepted' hget := by
    -- the cache holds the new response and some of those it held before
    rcases LruCache.get?_store hget with ⟨-, rfl⟩ | ⟨-, hget⟩
    · rw [haccepted]
      exact hresponse
    · exact h.responses key accepted' hget

/-- A fresh hello whose session is installed keeps the invariant. -/
theorem Invariant.installed (h : server.Invariant P start t) (hM : P.LawfulHmac)
    (hX : P.LawfulX25519) {packet response : Packet} (hp : packet.Encodable) {source : Address}
    {identity : ClientIdentity} {secret : Bytes} {cipher : Cipher} {entropy : ℕ → ServerEntropy}
    (hreception : server.registry.reception P packet entropy = .fresh identity response secret)
    (hder : ∃ log, cipher.DerivedFrom P log secret packet.sessionId .server
      server.registry.packetsPerKey)
    (hfree : ¬ server.engine.Taken (source, packet.sessionId) identity.tunnelAddress)
    (ht' : freshAcceptances t' = [⟨packet, source, response, identity, some secret⟩])
    (accepted : AcceptedSession) (haccepted : accepted.response = response ∧
      accepted.identity = identity) :
    Invariant P start ⟨server.registry.recorded P packet accepted,
      (server.engine.withoutRoute identity.tunnelAddress).install
        (ClientRegistry.newSession packet source identity cipher)⟩ (t ++ t') := by
  obtain ⟨-, -, hidentity, e, haccept⟩ := ClientRegistry.reception_eq_fresh hreception
  have hresponse := encodable_of_acceptClientHello hM hX haccept
  have hfresh : freshAcceptances (t ++ t')
      = freshAcceptances t ++ [⟨packet, source, response, identity, some secret⟩] := by
    rw [freshAcceptances_append, ht']
  exact {
    sound := by
      rw [hfresh]
      exact h.sound.installed hp.1 hder hresponse hfree accepted haccepted.1
    serverPrivateKey := h.serverPrivateKey
    clients := h.clients
    packetsPerKey := h.packetsPerKey
    current := by
      intro ref a hcurrent
      rw [hfresh, current_concat] at hcurrent
      rw [MultiClientServerEngine.install, OrderedDict.get?_insert,
        MultiClientServerEngine.objects_withoutRoute, h.sound.length_objects]
      rcases hcurrent with ⟨rfl, rfl⟩ | ⟨hcurrent, hne⟩
      · exact if_pos rfl
      · have hroute := (h.sound.wellFormed.withoutRoute_get? identity.tunnelAddress).2
          a.identity.tunnelAddress
        rw [if_neg hne] at hroute
        exact (if_neg hne).trans (hroute.trans (h.current ref a hcurrent))
    cache := by
      intro key accepted' hget
      rw [hfresh]
      rcases LruCache.get?_store hget with ⟨rfl, rfl⟩ | ⟨hne, hget⟩
      · exact ⟨_, recorded_concat_self P _ _, haccepted.1.symm, haccepted.2.symm⟩
      · obtain ⟨a, ha, hrest⟩ := h.cache key accepted' hget
        exact ⟨a, ha.concat hne, hrest⟩
    genuine := by
      intro a ha
      rw [hfresh] at ha
      rcases List.mem_append.1 ha with ha | ha
      · exact h.genuine a ha
      · rw [List.mem_singleton.1 ha]
        refine ⟨h.clients ▸ hidentity, hp, e, ?_⟩
        rw [← h.serverPrivateKey]
        exact haccept }

/-- The session object is installed, in the session table and as the route of its client. -/
def Installed (engine : MultiClientServerEngine) (ref : ℕ) (a : Acceptance) : Prop :=
  engine.sessions.get? (a.source, a.hello.sessionId) = some ref ∧
    engine.routes.get? a.identity.tunnelAddress = some ref

/-- The engine holds a session for the hello of the acceptance, whose cipher is derived from
the hello and its answer. -/
def Holds (P : Primitives) (server : MultiClientServer) (a : Acceptance) : Prop :=
  ∃ ref s, Installed server.engine ref a ∧ server.engine.session? ref = some s ∧
    ∃ log, s.cipher.DerivedFrom P log a.sessionSecret a.hello.sessionId .server
      server.registry.packetsPerKey

/-- The last session object of a tunnel address is held. -/
theorem Invariant.holds (h : server.Invariant P start t) {ref : ℕ} {a : Acceptance}
    (hcurrent : Current (freshAcceptances t) ref a) : server.Holds P a := by
  have hroute := h.current ref a hcurrent
  obtain ⟨s, hs, haddress, hkey⟩ := h.sound.wellFormed.of_route _ ref hroute
  obtain ⟨hsource, -, hsession⟩ := h.sound.comesFrom ref s a hs hcurrent.1
  obtain ⟨-, log, hder⟩ := h.sound.ciphers ref s hs
  refine ⟨ref, s, ⟨?_, hroute⟩, hs, log, ?_⟩
  · rw [← hsource, ← hsession]
    exact hkey
  · rw [secretOf, hcurrent.1, hsession] at hder
    exact hder

/-- The answers to hellos are sent in this iteration and its replacement of a session, if any,
returns. -/
def KeepsSessions (input : ServerInput) (r : Except PyError ℕ) : Prop :=
  input.helloSendFailure = none ∧ r ≠ .error (.valueError "client session already exists")

/-- The TUN half keeps the invariant. -/
theorem Invariant.tunHalf (h : server.Invariant P start t) {input : ServerInput}
    {r : Except PyError ℕ} {t₁ : ServerTrace τ}
    (htun : TunHalf P (freshAcceptances t) input server r engine t₁) (timeout : Option τ) :
    Invariant P start ⟨server.registry, engine⟩ (t ++ (.effect (.select timeout) :: t₁)) ∧
      freshAcceptances (t ++ (.effect (.select timeout) :: t₁)) = freshAcceptances t := by
  have hnone : freshAcceptances (.effect (.select timeout) :: t₁) = [] := by
    rw [freshAcceptances, acceptances_effect, htun.trace.1]
    rfl
  constructor
  · exact h.of_sameSessions (htun.sound h.sound).1 (htun.sound h.sound).2.ciphers hnone
  · rw [freshAcceptances_append, hnone, List.append_nil]

/-- **One iteration.** An iteration keeps the invariant when it returns, and when it raises
without losing an answer or a session. -/
theorem Invariant.stepEnds (h : server.Invariant P start t) (hM : P.LawfulHmac)
    (hX : P.LawfulX25519) {input : ServerInput} {timeout : Option τ} {r : Except PyError ℕ}
    {server' : MultiClientServer} (hkeeps : (∃ n, r = .ok n) ∨ KeepsSessions input r)
    (hends : StepEnds P (freshAcceptances t) input timeout server r server' t') :
    server'.Invariant P start (t ++ t') := by
  cases hends with
  | raised e engine t₁ htun => exact (h.tunHalf htun timeout).1
  | ran n₁ engine t₁ r server' t₂ htun hudp =>
  obtain ⟨hmid, hfresh⟩ := h.tunHalf htun timeout
  rw [← List.cons_append, ← List.append_assoc]
  cases hudp with
  | idle _ => rwa [List.append_nil]
  | failed e r _ =>
      rwa [List.append_nil]
  | malformed datagram source message _ _ =>
      refine hmid.of_sameSessions (.refl _) hmid.sound.ciphers ?_
      rfl
  | received datagram source packet r _ t₂ _ hdecode hpacket =>
      have hp := Packet.encodable_of_decode (List.length_take_le _ _) hdecode
      cases hpacket with
      | forwarded r engine' t₂ _ hends =>
          refine hmid.of_sameSessions hends.sameSessions ?_ ?_
          · rw [hfresh]
            exact hends.ciphers (htun.sound h.sound).2.ciphers
          · rw [freshAcceptances, acceptances_effect, hends.acceptances]
            rfl
      | notResent accepted e _ hfailure =>
          rcases hkeeps with ⟨n, hn⟩ | hkeeps
          · cases hn
          · simp [hkeeps.1] at hfailure
      | resent accepted data _ _ _ => exact hmid.presented packet (by rfl)
      | notAnswered _ _ _ _ _ _ _ hfailure =>
          rcases hkeeps with ⟨n, hn⟩ | hkeeps
          · cases hn
          · simp [hkeeps.1] at hfailure
      | answered identity response secret cipher calls data r engine' hreception _ _ hder
            hreplace =>
          cases hreplace with
          | collided _ =>
              rcases hkeeps with ⟨n, hn⟩ | hkeeps
              · cases hn
              · exact absurd rfl hkeeps.2
          | installed hfree =>
              refine hmid.installed hM hX hp hreception hder hfree ?_ _ ⟨rfl, rfl⟩
              rw [freshAcceptances, acceptances_effect, acceptances_append, acceptances_calls]
              rfl

/-- An iteration that returns keeps the invariant. -/
theorem Invariant.step (h : server.Invariant P start t) (hM : P.LawfulHmac)
    (hX : P.LawfulX25519) {input : ServerInput} {timeout : Option τ} {n : ℕ}
    {server' : MultiClientServer}
    (hends : StepEnds P (freshAcceptances t) input timeout server (.ok n) server' t') :
    server'.Invariant P start (t ++ t') := h.stepEnds hM hX (Or.inl ⟨n, rfl⟩) hends

end step

/-! ## Runs -/

/-- The iterations with these inputs return, and leave this server and trace. -/
def Reaches (P : Primitives) (start : MultiClientServer) (inputs : List ServerInput)
    (server : MultiClientServer) (t : ServerTrace τ) : Prop :=
  run P inputs start = ⟨.ok (), server, t⟩

/-- A run of no iterations. -/
theorem reaches_nil {start server : MultiClientServer} {t : ServerTrace τ} :
    Reaches P start [] server t ↔ server = start ∧ t = [] := by
  constructor
  · intro h
    obtain ⟨-, hserver, ht⟩ := Outcome.mk.inj h
    exact ⟨hserver.symm, ht.symm⟩
  · rintro ⟨rfl, rfl⟩
    rfl

/-- A run goes on after another. -/
theorem run_append (inputs inputs' : List ServerInput) :
    (run P (inputs ++ inputs') : Program PyError (ServerEffect τ Acceptance) _ Unit)
      = run P inputs >>= fun _ => run P inputs' := by
  induction inputs with
  | nil => rw [List.nil_append, run, Program.pure_bind]
  | cons input inputs ih =>
      rw [List.cons_append, run, run, Program.bind_assoc]
      congr 1
      funext n
      exact ih

/-- One more iteration. -/
theorem reaches_concat {start server' : MultiClientServer} {inputs : List ServerInput}
    {input : ServerInput} {t' : ServerTrace τ} :
    Reaches P start (inputs ++ [input]) server' t' ↔
      ∃ server t n t₁, Reaches P start inputs server t ∧
        runOnce P input none server = ⟨.ok n, server', t₁⟩ ∧ t' = t ++ t₁ := by
  unfold Reaches
  rw [run_append, Program.bind_eq_ok]
  constructor
  · rintro ⟨_, server, t, t₂, hrun, hlast, rfl⟩
    rw [run, Program.bind_eq_ok] at hlast
    obtain ⟨n, _, t₁, _, honce, hpure, rfl⟩ := hlast
    obtain ⟨-, rfl, rfl⟩ := Outcome.mk.inj hpure
    exact ⟨server, t, n, t₁, hrun, honce, by rw [List.append_nil]⟩
  · rintro ⟨server, t, n, t₁, hrun, honce, rfl⟩
    refine ⟨(), server, t, t₁, hrun, ?_, rfl⟩
    rw [run, Program.bind_eq_ok]
    exact ⟨n, server', t₁, [], honce, rfl, (List.append_nil t₁).symm⟩

/-- **The invariant holds in every state that a run reaches.** -/
theorem Reaches.invariant (hA : P.LawfulAead) (hH : P.LawfulHkdf) (hM : P.LawfulHmac)
    (hX : P.LawfulX25519) {start : ClientRegistry} (hstart : start.acceptedHellos = .empty)
    {inputs : List ServerInput} {server : MultiClientServer} {t : ServerTrace τ}
    (h : Reaches P (new start) inputs server t) : server.Invariant P start t := by
  induction inputs using List.reverseRecOn generalizing server t with
  | nil =>
      obtain ⟨rfl, rfl⟩ := reaches_nil.1 h
      exact invariant_new hstart
  | append_singleton inputs input ih =>
      obtain ⟨server₁, t₁, n, t₂, hrun, honce, rfl⟩ := reaches_concat.1 h
      have hinv := ih hrun
      have hends := runOnce_spec hA hH hM hX hinv.sound input (none : Option τ)
      rw [wp, honce] at hends
      exact hinv.step hM hX hends

/-- A run whose iterations all return reaches its state. -/
theorem reaches_of_returns {start : MultiClientServer} {inputs : List ServerInput}
    (h : (run P inputs start : Outcome PyError (ServerEffect τ Acceptance) _ Unit).result
      = .ok ()) :
    Reaches P start inputs
      (run P inputs start : Outcome PyError (ServerEffect τ Acceptance) _ Unit).state
      (run P inputs start : Outcome PyError (ServerEffect τ Acceptance) _ Unit).trace := by
  rw [Reaches, ← h]

end MultiClientServer

/-! ## A sample server -/

/-- The server of two sample clients; the first has the key of the sample handshake. -/
def sampleRegistry : ClientRegistry where
  serverPrivateKey := sampleKeys.serverPrivate
  clients := [
    ⟨"laptop", .ofOctets 10 8 0 2, sample.x25519Public sampleKeys.clientPrivate⟩,
    ⟨"workstation", .ofOctets 10 8 0 3, sample.x25519Public (BigEndian.toBytes 32 9999999)⟩]
  packetsPerKey := 0
  acceptedHellos := .empty
  nodup_names := by decide
  nodup_addresses := by decide

/-- Two sample sources. -/
def sampleSource : ℕ → Address
  | 0 => ⟨.ofOctets 203 0 113 10, 51820⟩
  | _ => ⟨.ofOctets 198 51 100 7, 40000⟩

/-- A datagram arrives at the sample server, and every call of the operating system
succeeds. -/
def sampleArrival (data : Bytes) (source : Address) : ServerInput where
  tunRead := none
  tunSendFailure := none
  udpReceive := some (.ok (data, source))
  entropy _ := sampleServerEntropy
  helloSendFailure := none
  tunWrite payload := .ok payload.length

/-- What the sample client draws for its second hello. -/
def sampleSecondEntropy : ClientEntropy :=
  ⟨9, BigEndian.toBytes 32 5555, BigEndian.toBytes 32 6666, by decide,
    BigEndian.length_toBytes _ _, BigEndian.length_toBytes _ _⟩

/-- The second hello of the sample client. -/
def sampleSecondHello : Packet :=
  ((createClientHello sample sampleKeys.clientPrivate
    (sample.x25519Public sampleKeys.serverPrivate) sampleSecondEntropy).toOption.get
      (by decide +kernel)).1

/-- The datagrams of the two hellos. -/
def sampleHelloData : ℕ → Bytes
  | 0 => sampleHello.encode.toOption.get (by decide +kernel)
  | _ => sampleSecondHello.encode.toOption.get (by decide +kernel)

end MatfVpn
