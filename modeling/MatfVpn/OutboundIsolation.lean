/-
# Outbound isolation of the multi-client server

A packet from the TUN device goes to the client that has its destination, in the session of
the last hello that was accepted from this client, and nowhere else.

* `TunHalf.sends`, `UdpHalf.sends` : what the two halves of an iteration send and count;
* `AfterCalls` : the server after any calls of `run_once`, which may raise;
* `Numbered` : the counter of a session is the number of packets sent in it;
* `outbound_isolation` : what `handle_tun_packet` sends, in every reachable state.
-/
import MatfVpn.ServerRun

namespace MatfVpn

open Program

/-! ## What the server sends -/

namespace MultiClientServer

variable {τ : Type} {P : Primitives} {origins : List Acceptance} {input : ServerInput}
  {self self' : MultiClientServer} {engine : MultiClientServerEngine} {t : ServerTrace τ}

/-- The counters of all session objects but `ref` are the same, and that of `ref` has moved
by `k`. -/
def Counted (engine engine' : MultiClientServerEngine) (ref k : ℕ) : Prop :=
  ∀ ref' s, engine.session? ref' = some s → ∃ s', engine'.session? ref' = some s' ∧
    s'.sendSequence = if ref' = ref then s.sendSequence + k else s.sendSequence

theorem Counted.refl (engine : MultiClientServerEngine) (ref : ℕ) : Counted engine engine ref 0 :=
  fun ref' s hs => ⟨s, hs, by simp⟩

/-- A change of one object that moves its counter. -/
theorem counted_modifySession (engine : MultiClientServerEngine) (ref k : ℕ)
    {f : ClientSession → ClientSession} (hf : ∀ s, (f s).sendSequence = s.sendSequence + k) :
    Counted engine (engine.modifySession ref f) ref k := by
  intro ref' s hs
  rw [MultiClientServerEngine.session?_modifySession, hs]
  by_cases href : ref = ref'
  · rw [if_pos href, if_pos href.symm]
    exact ⟨f s, rfl, hf s⟩
  · rw [if_neg href, if_neg (Ne.symm href)]
    exact ⟨s, rfl, rfl⟩

/-- Two changes of one object. -/
theorem Counted.trans {engine engine' engine'' : MultiClientServerEngine} {ref k k' : ℕ}
    (h : Counted engine engine' ref k) (h' : Counted engine' engine'' ref k') :
    Counted engine engine'' ref (k + k') := by
  intro ref' s hs
  obtain ⟨s', hs', hcount⟩ := h ref' s hs
  obtain ⟨s'', hs'', hcount'⟩ := h' ref' s' hs'
  refine ⟨s'', hs'', ?_⟩
  split at hcount
  · rename_i href
    rw [if_pos href] at hcount' ⊢
    omega
  · rename_i href
    rw [if_neg href] at hcount' ⊢
    omega

/-- Nothing is counted on any object, whichever the reference. -/
theorem Counted.zero {engine engine' : MultiClientServerEngine} {ref : ℕ}
    (h : Counted engine engine' ref 0) (ref' : ℕ) : Counted engine engine' ref' 0 := by
  intro ref₁ s hs
  obtain ⟨s', hs', hcount⟩ := h ref₁ s hs
  refine ⟨s', hs', ?_⟩
  rw [hcount, Nat.add_zero, ite_self, ite_self]

/-- **The TUN half** sends nothing, or the TUN packet in the session of its destination. -/
theorem TunHalf.sends {r : Except PyError ℕ} (h : TunHalf P origins input self r engine t) :
    (sends (effects t) = [] ∧ ∀ ref, Counted self.engine engine ref 0) ∨
    ∃ destination ref s payload data, self.engine.routes.get? destination = some ref ∧
      self.engine.session? ref = some s ∧ s.sendSequence ≤ maxSequenceNumber ∧
      (sealPacket P (secretOf origins ref) s.sessionId .server self.registry.packetsPerKey
        (MultiClientServerEngine.nextPacket s payload)).encode = .ok data ∧
      sends (effects t)
        = [(MultiClientServerEngine.nextPacket s payload, data, s.remoteAddress)] ∧
      Counted self.engine engine ref 1 := by
  cases h with
  | idle _ => exact Or.inl ⟨rfl, fun ref => .refl _ ref⟩
  | failed e _ => exact Or.inl ⟨rfl, fun ref => .refl _ ref⟩
  | handled payload r _ _ _ hends =>
      cases hends with
      | ignored _ => exact Or.inl ⟨rfl, fun ref => .refl _ ref⟩
      | exhausted _ _ _ _ _ _ _ => exact Or.inl ⟨rfl, fun ref => .refl _ ref⟩
      | tooLarge _ ref _ cipher _ _ _ _ _ _ =>
          have hcipher := counted_modifySession self.engine ref 0
            (f := fun s => { s with cipher := cipher }) fun _ => rfl
          exact Or.inl ⟨by simp, fun ref' => hcipher.zero ref'⟩
      | failed _ _ ref _ cipher _ _ _ _ _ _ =>
          have hcipher := counted_modifySession self.engine ref 0
            (f := fun s => { s with cipher := cipher }) fun _ => rfl
          exact Or.inl ⟨by simp, fun ref' => hcipher.zero ref'⟩
      | sent destination ref s cipher calls data _ _ hroute hs hmax _ hdata =>
          refine Or.inr ⟨destination, ref, s, payload, data, hroute, hs, hmax, hdata, ?_, ?_⟩
          · simp
          · have hcipher := counted_modifySession self.engine ref 0
              (f := fun s => { s with cipher := cipher }) fun _ => rfl
            exact hcipher.trans (counted_modifySession _ ref 1 fun _ => rfl)

/-- A cached answer is an answer. -/
theorem Invariant.cached_serverHello {start : ClientRegistry} {server : MultiClientServer}
    {t : ServerTrace τ} (h : server.Invariant P start t) {key : Bytes}
    {accepted : AcceptedSession}
    (hget : server.registry.acceptedHellos.get? key = some accepted) :
    accepted.response.messageType = .serverHello := by
  obtain ⟨a, hrecorded, hresponse, -⟩ := h.cache key accepted hget
  obtain ⟨-, -, e, haccept⟩ := h.genuine a hrecorded.mem
  obtain ⟨-, -, -, -, _, _, -, -, -, hanswer, -⟩ := acceptClientHello_ok haccept
  rw [← hresponse, hanswer]

/-- **The UDP half** sends nothing but an answer to a hello, and counts nothing. -/
theorem UdpHalf.sends {start : ClientRegistry} {t₀ : ServerTrace τ}
    {r : Except PyError ℕ} (hinv : self.Invariant P start t₀)
    (h : UdpHalf P origins input self r self' t) :
    (∀ s ∈ sends (effects t), s.1.messageType = .serverHello ∧ s.1.encode = .ok s.2.1) ∧
      ∀ ref, Counted self.engine self'.engine ref 0 := by
  have hnone : ∀ {l : List (Packet × Bytes × Address)}, l = [] →
      ∀ s ∈ l, s.1.messageType = .serverHello ∧ s.1.encode = .ok s.2.1 := by
    rintro l rfl s hs
    cases hs
  cases h with
  | idle _ => exact ⟨hnone rfl, .refl _⟩
  | failed _ _ _ => exact ⟨hnone rfl, .refl _⟩
  | malformed _ _ _ _ _ => exact ⟨hnone rfl, .refl _⟩
  | received datagram source packet r self' t _ hdecode hpacket =>
      cases hpacket with
      | forwarded r engine t _ hends =>
          cases hends with
          | ignored _ => exact ⟨hnone rfl, .refl _⟩
          | dropped ref _ cipher _ _ _ _ _ =>
              have hcipher := counted_modifySession self.engine ref 0
                (f := fun s => { s with cipher := cipher }) fun _ => rfl
              exact ⟨hnone (by simp), fun ref' => hcipher.zero ref'⟩
          | accepted ref _ cipher _ _ window _ _ _ _ _ =>
              have hcipher := counted_modifySession self.engine ref 0
                (f := fun s => { s with cipher := cipher }) fun _ => rfl
              have hboth := hcipher.trans (counted_modifySession _ ref 0
                (f := fun s => { s with replayWindow := window }) fun _ => rfl)
              exact ⟨hnone (by simp), fun ref' => hboth.zero ref'⟩
      | notResent _ _ _ _ => exact ⟨hnone rfl, .refl _⟩
      | resent accepted data hcached _ hdata =>
          refine ⟨?_, .refl _⟩
          intro s hs
          obtain rfl : s = (accepted.response, data, source) := by simpa using hs
          exact ⟨hinv.cached_serverHello (ClientRegistry.reception_eq_cached.1 hcached).2, hdata⟩
      | notAnswered _ _ _ _ _ _ _ _ => exact ⟨hnone (by simp), .refl _⟩
      | answered identity response secret cipher calls data r engine hfresh _ hdata _ hreplace =>
          refine ⟨?_, fun ref => ?_⟩
          · intro s hs
            obtain rfl : s = (response, data, source) := by simpa using hs
            obtain ⟨-, -, -, e, haccept⟩ := ClientRegistry.reception_eq_fresh hfresh
            obtain ⟨-, -, -, -, _, _, -, -, -, hanswer, -⟩ := acceptClientHello_ok haccept
            exact ⟨by rw [hanswer], hdata⟩
          · cases hreplace with
            | collided _ =>
                intro ref' s hs
                refine ⟨s, ?_, by simp⟩
                rw [MultiClientServerEngine.session?, MultiClientServerEngine.objects_withoutRoute]
                exact hs
            | installed _ =>
                intro ref' s hs
                refine ⟨s, MultiClientServerEngine.session?_install_of_some ?_ _, by simp⟩
                rw [MultiClientServerEngine.session?, MultiClientServerEngine.objects_withoutRoute]
                exact hs

/-! ## Calls that may raise -/

/-- The server and its trace after any calls of `run_once`, which may have raised, but neither in
a send nor in the replacement of a session. -/
inductive AfterCalls (P : Primitives) (start : MultiClientServer) :
    MultiClientServer → ServerTrace τ → Prop
  | none : AfterCalls P start start []
  | call (server : MultiClientServer) (t : ServerTrace τ) (input : ServerInput)
      (timeout : Option τ) : AfterCalls P start server t → input.tunSendFailure = none →
      KeepsSessions input (runOnce P input timeout server).result →
      AfterCalls P start (runOnce P input timeout server).state
        (t ++ (runOnce P input timeout server).trace)

/-- **The invariant holds after any calls.** -/
theorem AfterCalls.invariant (hA : P.LawfulAead) (hH : P.LawfulHkdf) (hM : P.LawfulHmac)
    (hX : P.LawfulX25519) {start : ClientRegistry} (hstart : start.acceptedHellos = .empty)
    {server : MultiClientServer} (h : AfterCalls P (new start) server t) :
    server.Invariant P start t := by
  induction h with
  | none => exact invariant_new hstart
  | call server t input timeout _ _ hkeeps ih =>
      exact ih.stepEnds hM hX (Or.inr hkeeps) (runOnce_spec hA hH hM hX ih.sound input timeout)

/-! ## The numbers of the packets -/

/-- The sequence numbers of the DATA packets sent to the source of the hello, with its session
id. -/
def numbersSent (a : Acceptance) (t : ServerTrace τ) : List ℕ :=
  ((sends (effects t)).filter fun sent => sent.1.messageType = .data ∧
    sent.1.sessionId = a.hello.sessionId ∧ sent.2.2 = a.source).map fun sent =>
      sent.1.sequenceNumber

@[simp] theorem numbersSent_append (a : Acceptance) (s t : ServerTrace τ) :
    numbersSent a (s ++ t) = numbersSent a s ++ numbersSent a t := by
  rw [numbersSent, effects_append, sends_append, List.filter_append, List.map_append]
  rfl

/-- Answers to hellos are no DATA packets. -/
theorem numbersSent_eq_nil {a : Acceptance}
    (h : ∀ sent ∈ sends (effects t), sent.1.messageType = .serverHello) :
    numbersSent a t = [] := by
  rw [numbersSent, List.map_eq_nil_iff, List.filter_eq_nil_iff]
  intro sent hsent hdata
  simp [h sent hsent] at hdata

/-- The packets sent in the session of the hello, since the hello was accepted, have the numbers
below `n`. -/
def NextNumber (t : ServerTrace τ) (ref : ℕ) (a : Acceptance) (n : ℕ) : Prop :=
  ∃ before after, t = before ++ .note a :: after ∧ (freshAcceptances before).length = ref ∧
    numbersSent a after = List.range n

/-- The counter of every current session is the next unused number. -/
def Numbered (engine : MultiClientServerEngine) (t : ServerTrace τ) : Prop :=
  ∀ ref a s, Current (freshAcceptances t) ref a → engine.session? ref = some s →
    NextNumber t ref a s.sendSequence

section numbers

variable {start : ClientRegistry} {server server' : MultiClientServer} {t' : ServerTrace τ}

/-- More effects without a new session. -/
theorem Numbered.extend (h : Numbered server.engine t) (hinv : server.Invariant P start t)
    (ht' : freshAcceptances t' = [])
    (hcount : ∀ ref a s, Current (freshAcceptances t) ref a → server.engine.session? ref = some s →
      ∃ s', engine.session? ref = some s' ∧
        List.range s.sendSequence ++ numbersSent a t' = List.range s'.sendSequence) :
    Numbered engine (t ++ t') := by
  intro ref a s' hcurrent hs'
  rw [freshAcceptances_append, ht', List.append_nil] at hcurrent
  have hlt : ref < server.engine.objects.length := by
    rw [hinv.sound.length_objects]
    exact (List.getElem?_eq_some_iff.1 hcurrent.1).1
  have hs : server.engine.session? ref = some server.engine.objects[ref] :=
    List.getElem?_eq_getElem hlt
  obtain ⟨s'', hs'', hrange⟩ := hcount ref a _ hcurrent hs
  obtain rfl := Option.some.inj (hs'.symm.trans hs'')
  obtain ⟨before, after, rfl, hlen, hnumbers⟩ := h ref a _ hcurrent hs
  refine ⟨before, after ++ t', by simp, hlen, ?_⟩
  rw [numbersSent_append, hnumbers, hrange]

/-- **The TUN half** numbers the packet that it sends. -/
theorem Numbered.tunHalf (h : Numbered server.engine t) (hinv : server.Invariant P start t)
    {r : Except PyError ℕ} {t₁ : ServerTrace τ} (timeout : Option τ)
    (htun : TunHalf P (freshAcceptances t) input server r engine t₁) :
    Numbered engine (t ++ (.effect (.select timeout) :: t₁)) := by
  refine h.extend hinv (by rw [freshAcceptances, acceptances_effect, htun.trace.1]; rfl) ?_
  intro ref a s hcurrent hs
  have hselect : numbersSent a (.effect (.select timeout) :: t₁) = numbersSent a t₁ := rfl
  obtain ⟨hsource, -, hid⟩ := hinv.sound.comesFrom ref s a hs hcurrent.1
  rcases htun.sends with ⟨hnone, hcounted⟩ | ⟨destination, ref', s', payload, data, hroute, hs', -,
    -, hsent, hcounted⟩
  · obtain ⟨s'', hs'', hcount⟩ := hcounted ref ref s hs
    refine ⟨s'', hs'', ?_⟩
    rw [if_pos rfl, Nat.add_zero] at hcount
    rw [hselect, numbersSent, hnone, hcount, List.filter_nil, List.map_nil, List.append_nil]
  obtain ⟨s'', hs'', hcount⟩ := hcounted ref s hs
  refine ⟨s'', hs'', ?_⟩
  rw [hselect, numbersSent, hsent]
  by_cases href : ref = ref'
  · -- the packet goes out in this session
    subst href
    obtain rfl := Option.some.inj (hs.symm.trans hs')
    rw [if_pos rfl] at hcount
    rw [hcount, List.range_succ]
    simp [MultiClientServerEngine.nextPacket, hsource, hid]
  · -- another session has another address or another session id
    obtain ⟨s₀, hs₀, -, hkey'⟩ := hinv.sound.wellFormed.of_route destination ref' hroute
    obtain rfl := Option.some.inj (hs₀.symm.trans hs')
    obtain ⟨s₁, hs₁, -, hkey⟩ :=
      hinv.sound.wellFormed.of_route _ ref (hinv.current ref a hcurrent)
    obtain rfl := Option.some.inj (hs.symm.trans hs₁)
    rw [if_neg href] at hcount
    have hother : ¬ (s₀.sessionId = a.hello.sessionId ∧ s₀.remoteAddress = a.source) := by
      rintro ⟨hid', hsource'⟩
      have hsame : s₀.key = s.key := by
        rw [ClientSession.key, ClientSession.key, hid', hsource', hid, hsource]
      rw [hsame, hkey] at hkey'
      exact href (Option.some.inj hkey')
    have hnone : [(MultiClientServerEngine.nextPacket s₀ payload, data, s₀.remoteAddress)].filter
        (fun sent => sent.1.messageType = .data ∧ sent.1.sessionId = a.hello.sessionId ∧
          sent.2.2 = a.source) = [] := by
      simpa [MultiClientServerEngine.nextPacket] using hother
    rw [hcount, hnone, List.map_nil, List.append_nil]

/-- **The UDP half** starts the numbers of a new session. -/
theorem Numbered.udpHalf (h : Numbered server.engine t) (hinv : server.Invariant P start t)
    {r : Except PyError ℕ} (hkeeps : KeepsSessions input r)
    (hudp : UdpHalf P (freshAcceptances t) input server r server' t') :
    Numbered server'.engine (t ++ t') := by
  obtain ⟨hanswers, hcounted⟩ := hudp.sends hinv
  have hnone : ∀ a, numbersSent a t' = [] := fun a =>
    numbersSent_eq_nil fun sent hsent => (hanswers sent hsent).1
  by_cases hfresh : freshAcceptances t' = []
  · refine h.extend hinv hfresh fun ref a s _ hs => ?_
    obtain ⟨s', hs', hcount⟩ := hcounted ref ref s hs
    rw [if_pos rfl, Nat.add_zero] at hcount
    exact ⟨s', hs', by rw [hnone, hcount, List.append_nil]⟩
  cases hudp with
  | idle _ => exact absurd rfl hfresh
  | failed _ _ _ => exact absurd rfl hfresh
  | malformed _ _ _ _ _ => exact absurd rfl hfresh
  | received datagram source packet r _ t₂ _ _ hpacket =>
  cases hpacket with
  | forwarded r engine t₂ _ hends =>
      rw [freshAcceptances, acceptances_effect, hends.acceptances] at hfresh
      exact absurd rfl hfresh
  | notResent accepted e _ hfailure => simp [hkeeps.1] at hfailure
  | resent accepted data _ _ _ => exact absurd rfl hfresh
  | notAnswered _ _ _ _ _ e _ hfailure => simp [hkeeps.1] at hfailure
  | answered identity response secret cipher calls data r engine _ _ _ _ hreplace =>
  cases hreplace with
  | collided _ => exact absurd rfl hkeeps.2
  | installed _ =>
      intro ref a s hcurrent hs
      have hsplit : freshAcceptances (t ++ (.effect (.receive (datagram.take maxUdpDatagramSize)
          source) :: (calls.map (fun call => .effect (.crypto call)) ++
            [.note ⟨packet, source, response, identity, some secret⟩,
              .effect (.send response data source)])))
          = freshAcceptances t ++ [⟨packet, source, response, identity, some secret⟩] := by
        rw [freshAcceptances_append]
        congr 1
        rw [freshAcceptances, acceptances_effect, acceptances_append, acceptances_calls]
        rfl
      rw [hsplit, current_concat] at hcurrent
      rw [MultiClientServerEngine.session?_install, MultiClientServerEngine.objects_withoutRoute,
        hinv.sound.length_objects] at hs
      rcases hcurrent with ⟨rfl, rfl⟩ | ⟨hcurrent, -⟩
      · -- the new session
        rw [if_pos rfl] at hs
        obtain rfl := Option.some.inj hs
        refine ⟨t ++ (.effect (.receive (datagram.take maxUdpDatagramSize) source) ::
          calls.map fun call => .effect (.crypto call)), [.effect (.send response data source)],
          by simp, ?_, ?_⟩
        · rw [freshAcceptances_append, freshAcceptances, freshAcceptances, acceptances_effect,
            acceptances_calls, List.filter_nil, List.append_nil]
        · refine numbersSent_eq_nil fun sent hsent => (hanswers sent ?_).1
          simpa using hsent
      · have hlt := (List.getElem?_eq_some_iff.1 hcurrent.1).1
        rw [if_neg (by omega), MultiClientServerEngine.session?_withoutRoute] at hs
        obtain ⟨before, after, rfl, hlen, hnumbers⟩ := h ref a s hcurrent hs
        refine ⟨before, after ++ _,
          by simp only [List.append_assoc, List.cons_append]; rfl, hlen, ?_⟩
        rw [numbersSent_append, hnumbers, hnone, List.append_nil]

/-- **The counters are the next unused numbers**, after any calls. -/
theorem AfterCalls.numbered (hA : P.LawfulAead) (hH : P.LawfulHkdf) (hM : P.LawfulHmac)
    (hX : P.LawfulX25519) (hstart : start.acceptedHellos = .empty)
    (h : AfterCalls P (new start) server t) : Numbered server.engine t := by
  induction h with
  | none =>
      intro ref a s hcurrent
      simp [Current, freshAcceptances] at hcurrent
  | call server t input timeout hcalls _ hkeeps ih =>
      have hinv := hcalls.invariant hA hH hM hX hstart
      have hends := runOnce_spec hA hH hM hX hinv.sound input timeout
      rw [wp] at hends
      generalize runOnce P input timeout server = o at hends hkeeps ⊢
      rcases o with ⟨r, server', t'⟩
      cases hends with
      | raised e engine t₁ htun => exact ih.tunHalf hinv timeout htun
      | ran n engine t₁ r _ t₂ htun hudp =>
          obtain ⟨hmid, hfresh⟩ := hinv.tunHalf htun timeout
          simp only
          rw [← List.cons_append, ← List.append_assoc]
          refine (ih.tunHalf hinv timeout htun).udpHalf hmid ?_ (by rw [hfresh]; exact hudp)
          refine ⟨hkeeps.1, ?_⟩
          rintro rfl
          exact hkeeps.2 rfl

end numbers

/-! ## Outbound packets -/

/-- The last hello of the client that was accepted as new. -/
def latestHello (t : ServerTrace τ) (identity : ClientIdentity) : Option Acceptance :=
  ((freshAcceptances t).filter fun a => a.identity = identity).getLast?

/-- The client has an installed session. -/
def HasSession (engine : MultiClientServerEngine) (identity : ClientIdentity) : Prop :=
  ∃ key ref s, engine.sessions.get? key = some ref ∧ engine.session? ref = some s ∧
    s.tunnelAddress = identity.tunnelAddress

/-- The packet goes out in the session of the last new hello of the client, with the next number
of this session, and nothing changes but the cipher and the counter of this session. -/
def Forwards (P : Primitives) (start : ClientRegistry) (t : ServerTrace τ)
    (engine engine' : MultiClientServerEngine) (identity : ClientIdentity) (payload : Bytes)
    (sent : List (Packet × Bytes × Address)) : Prop :=
  ∃ a ref s data, latestHello t identity = some a ∧ a.identity = identity ∧ Genuine P start a ∧
    Installed engine ref a ∧ engine.session? ref = some s ∧
    NextNumber t ref a s.sendSequence ∧
    (sealPacket P a.sessionSecret a.hello.sessionId .server start.packetsPerKey
      ⟨.data, a.hello.sessionId, s.sendSequence, payload⟩).encode = .ok data ∧
    sent = [(⟨.data, a.hello.sessionId, s.sendSequence, payload⟩, data, a.source)] ∧
    engine'.sessions = engine.sessions ∧ engine'.routes = engine.routes ∧
    (∀ ref', ref' ≠ ref → engine'.session? ref' = engine.session? ref') ∧
    ∃ cipher, engine'.session? ref
      = some { s with cipher := cipher, sendSequence := s.sendSequence + 1 }

section isolation

variable {start : ClientRegistry} {server : MultiClientServer}

/-- Every tunnel address of a session object has a last one. -/
theorem exists_current {fresh : List Acceptance} {a : Acceptance} (ha : a ∈ fresh) :
    ∃ ref b, Current fresh ref b ∧ b.identity.tunnelAddress = a.identity.tunnelAddress := by
  induction fresh using List.reverseRecOn with
  | nil => cases ha
  | append_singleton fresh c ih =>
      by_cases hc : c.identity.tunnelAddress = a.identity.tunnelAddress
      · exact ⟨fresh.length, c, current_concat.2 (Or.inl ⟨rfl, rfl⟩), hc⟩
      · rcases List.mem_append.1 ha with ha | ha
        · obtain ⟨ref, b, hb, haddress⟩ := ih ha
          refine ⟨ref, b, current_concat.2 (Or.inr ⟨hb, ?_⟩), haddress⟩
          rw [haddress]
          exact Ne.symm hc
        · exact absurd (by rw [List.mem_singleton.1 ha]) hc

/-- The last session object of an address comes from the last hello of its client. -/
theorem latestHello_of_current {ref : ℕ} {a : Acceptance}
    (h : Current (freshAcceptances t) ref a) : latestHello t a.identity = some a := by
  unfold latestHello
  generalize freshAcceptances t = fresh at h ⊢
  induction fresh using List.reverseRecOn with
  | nil => simp [Current] at h
  | append_singleton fresh c ih =>
      rw [List.filter_append]
      rcases current_concat.1 h with ⟨-, rfl⟩ | ⟨h, hne⟩
      · simp
      · have hc : ¬ c.identity = a.identity := fun hc => hne (by rw [hc])
        rw [show [c].filter (fun b => b.identity = a.identity) = [] by simpa using hc,
          List.append_nil]
        exact ih h

/-- The route of an address leads to the session of the last hello of a client. -/
theorem Invariant.current_of_route (h : server.Invariant P start t) {address : IPv4Address}
    {ref : ℕ} (hroute : server.engine.routes.get? address = some ref) :
    ∃ a, Current (freshAcceptances t) ref a ∧ a.identity.tunnelAddress = address := by
  obtain ⟨s, hs, haddress, -⟩ := h.sound.wellFormed.of_route address ref hroute
  have hlt : ref < (freshAcceptances t).length := by
    rw [← h.sound.length_objects]
    exact (List.getElem?_eq_some_iff.1 hs).1
  have ha : (freshAcceptances t)[ref]? = some (freshAcceptances t)[ref] :=
    List.getElem?_eq_getElem hlt
  have hsame := (h.sound.comesFrom ref s _ hs ha).2.1
  obtain ⟨ref', b, hb, hbaddress⟩ := exists_current (List.mem_of_getElem? ha)
  have hroute' := h.current ref' b hb
  rw [hbaddress, ← hsame, haddress, hroute] at hroute'
  obtain rfl := Option.some.inj hroute'
  exact ⟨b, hb, by rw [hbaddress, ← hsame, haddress]⟩

/-- Clients with the same tunnel address are the same. -/
theorem eq_of_tunnelAddress {identity identity' : ClientIdentity}
    (hi : identity ∈ start.clients) (hi' : identity' ∈ start.clients)
    (h : identity.tunnelAddress = identity'.tunnelAddress) : identity = identity' :=
  List.inj_on_of_nodup_map start.nodup_addresses hi hi' h

/-- A client has an installed session exactly when its address has a route. -/
theorem Invariant.hasSession_iff (h : server.Invariant P start t) (identity : ClientIdentity) :
    HasSession server.engine identity ↔
      ∃ ref, server.engine.routes.get? identity.tunnelAddress = some ref := by
  constructor
  · rintro ⟨key, ref, s, hget, hs, haddress⟩
    obtain ⟨s', hs', -, hroute⟩ := h.sound.wellFormed.of_session key ref hget
    obtain rfl := Option.some.inj (hs.symm.trans hs')
    exact ⟨ref, by rw [← haddress, hroute]⟩
  · rintro ⟨ref, hroute⟩
    obtain ⟨s, hs, haddress, hkey⟩ := h.sound.wellFormed.of_route _ ref hroute
    exact ⟨s.key, ref, s, hkey, hs, haddress⟩

/-- **Outbound isolation.** After any calls, a TUN packet is sent at most once; it is sent exactly
when it is an IPv4 packet to the address of a client with an installed session, and then in the
session of this client, which is that of its last new hello. -/
theorem outbound_isolation (hA : P.LawfulAead) (hH : P.LawfulHkdf) (hM : P.LawfulHmac)
    (hX : P.LawfulX25519) (hstart : start.acceptedHellos = .empty)
    (h : AfterCalls P (new start) server t) {payload : Bytes}
    (hsize : payload.length ≤ maxPayloadSize - aesGcmTagSize)
    (hcounters : ∀ ref s, server.engine.session? ref = some s →
      s.sendSequence ≤ maxSequenceNumber) :
    wp (MultiClientServerEngine.handleTunPacket P payload none) server.engine
      (fun _ engine (t' : ServerTrace τ) =>
        (sends (effects t')).length ≤ 1 ∧
        ((sends (effects t')).length = 1 ↔ ∃ identity ∈ start.clients,
          ipv4Destination payload = .ok identity.tunnelAddress ∧
          HasSession server.engine identity) ∧
        ∀ identity ∈ start.clients, ipv4Destination payload = .ok identity.tunnelAddress →
          HasSession server.engine identity →
          Forwards P start t server.engine engine identity payload (sends (effects t'))) := by
  have hinv := h.invariant hA hH hM hX hstart
  have hnumbered := h.numbered hA hH hM hX hstart
  refine wp_mono (MultiClientServerEngine.handleTunPacket_spec hA hH hinv.sound.wellFormed
    hinv.sound.ciphers payload none) ?_
  intro r engine t' hends
  cases hends with
  | ignored hnone =>
      -- no route leads to the destination, so no client has a session there
      have hno : ∀ identity : ClientIdentity,
          ipv4Destination payload = .ok identity.tunnelAddress →
          ¬ HasSession server.engine identity := by
        intro identity hdestination hsession
        obtain ⟨ref, hroute⟩ := (hinv.hasSession_iff identity).1 hsession
        rw [hnone _ hdestination] at hroute
        cases hroute
      refine ⟨Nat.zero_le 1, iff_of_false (by simp) ?_, ?_⟩
      · rintro ⟨identity, -, hdestination, hsession⟩
        exact hno identity hdestination hsession
      · intro identity _ hdestination hsession
        exact absurd hsession (hno identity hdestination)
  | exhausted destination ref s _ _ hs hmax => exact absurd (hcounters ref s hs) (by omega)
  | tooLarge destination ref s cipher calls _ _ _ hbig _ => exact absurd hsize (by omega)
  | failed e destination ref s cipher calls hfailure _ _ _ _ => cases hfailure
  | sent destination ref s cipher calls data _ hdestination hroute hs _ _ hdata =>
      -- the route leads to the session of the last new hello of the client
      obtain ⟨a, hcurrent, haddress⟩ := hinv.current_of_route hroute
      have hgenuine := hinv.genuine a (List.mem_of_getElem? hcurrent.1)
      obtain ⟨hsource, -, hid⟩ := hinv.sound.comesFrom ref s a hs hcurrent.1
      obtain ⟨s', hs', -, hkey⟩ := hinv.sound.wellFormed.of_route destination ref hroute
      obtain rfl := Option.some.inj (hs.symm.trans hs')
      have hsent : sends (effects (calls.map (fun call => .effect (.crypto call)) ++
          [.effect (.send (MultiClientServerEngine.nextPacket s payload) data s.remoteAddress)] :
            ServerTrace τ)) = [(⟨.data, a.hello.sessionId, s.sendSequence, payload⟩, data,
              a.source)] := by
        simp [MultiClientServerEngine.nextPacket, hsource, hid]
      rw [hsent]
      refine ⟨le_refl 1, iff_of_true rfl ?_, ?_⟩
      · refine ⟨a.identity, hgenuine.1, by rw [hdestination, haddress], ?_⟩
        exact (hinv.hasSession_iff a.identity).2 ⟨ref, by rw [haddress, hroute]⟩
      · intro identity hidentity hdestination' _
        have hsame : a.identity = identity := by
          refine eq_of_tunnelAddress hgenuine.1 hidentity ?_
          rw [haddress, ← Except.ok.inj (hdestination.symm.trans hdestination')]
        refine ⟨a, ref, s, data, ?_, hsame, hgenuine, ⟨?_, by rw [haddress, hroute]⟩, hs,
          hnumbered ref a s hcurrent hs, ?_, rfl, rfl, rfl, ?_, cipher, ?_⟩
        · rw [← hsame]
          exact latestHello_of_current hcurrent
        · rw [← hsource, ← hid]
          exact hkey
        · rw [secretOf, hcurrent.1, hinv.packetsPerKey, hid,
            MultiClientServerEngine.nextPacket, hid] at hdata
          exact hdata
        · intro ref' hne
          rw [MultiClientServerEngine.session?_modifySession, if_neg (Ne.symm hne),
            MultiClientServerEngine.session?_modifySession, if_neg (Ne.symm hne)]
        · rw [MultiClientServerEngine.session?_modifySession, if_pos rfl,
            MultiClientServerEngine.session?_modifySession, if_pos rfl, hs]
          rfl

end isolation

/-- The sample server after the hello of the first client. -/
def sampleAccepted : Outcome PyError (ServerEffect Unit Acceptance) MultiClientServer ℕ :=
  runOnce sample (sampleArrival (sampleHelloData 0) (sampleSource 0)) none (new sampleRegistry)

/-- An IPv4 packet to the first sample client. -/
def sampleToClient : Bytes := 0x45 :: List.replicate 15 0 ++ [10, 8, 0, 2]

theorem outbound_isolation_sample :
    wp (MultiClientServerEngine.handleTunPacket sample sampleToClient none)
      sampleAccepted.state.engine (fun _ _ (t' : ServerTrace Unit) =>
        (sends (effects t')).length = 1 ∧
        HasSession sampleAccepted.state.engine
          (sampleRegistry.clients.get ⟨0, by decide⟩)) := by
  have hsession : HasSession sampleAccepted.state.engine
      (sampleRegistry.clients.get ⟨0, by decide⟩) :=
    ⟨(sampleSource 0, 7), 0, _, by decide +kernel,
      List.getElem?_eq_getElem (by decide +kernel), by decide +kernel⟩
  have hcalls : AfterCalls sample (new sampleRegistry) sampleAccepted.state
      ([] ++ sampleAccepted.trace) := .call _ _ _ none .none rfl ⟨rfl, by decide +kernel⟩
  have hcounters : ∀ s ∈ sampleAccepted.state.engine.objects,
      s.sendSequence ≤ maxSequenceNumber := by decide +kernel
  refine wp_mono (outbound_isolation sample_lawfulAead sample_lawfulHkdf sample_lawfulHmac
    sample_lawfulX25519 rfl hcalls (by decide +kernel)
    fun ref s hs => hcounters s (List.mem_of_getElem? hs)) ?_
  rintro r engine t' ⟨-, hiff, -⟩
  exact ⟨hiff.2 ⟨_, List.get_mem _ _, by decide +kernel, hsession⟩, hsession⟩

end MultiClientServer

end MatfVpn
