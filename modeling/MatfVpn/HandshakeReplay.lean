/-
# Hellos that are presented again

The registry answers a hello that it has accepted lately from its cache.  The cache keeps
a hello while fewer than `handshakeCacheSize` other hellos are accepted after it.

* `Reaches.recent` : what the cache holds after a run;
* `MultiClientServer.replayed_hello` : a hello that is presented again gets its recorded
  answer, and nothing else happens;
* `MultiClientServer.session_survives_replay` : the installed sessions stay;
* `MultiClientServer.answered_session` : which session belongs to an answer.
-/
import MatfVpn.ServerRun

namespace MatfVpn

open Program

namespace MultiClientServer

variable {τ : Type} {P : Primitives}

/-! ## The cache -/

/-- What an iteration does with the handshake cache, for the acceptances it notes. -/
inductive CacheEnds (P : Primitives) (cache : OrderedDict Bytes AcceptedSession) :
    List Acceptance → OrderedDict Bytes AcceptedSession → Prop
  | unchanged : CacheEnds P cache [] cache
  | hit (a : Acceptance) (accepted : AcceptedSession) : a.isFresh = false →
      cache.get? (fingerprint P a.hello) = some accepted → a.response = accepted.response →
      a.identity = accepted.identity →
      CacheEnds P cache [a] (LruCache.touch cache (fingerprint P a.hello))
  | miss (a : Acceptance) (accepted : AcceptedSession) : a.isFresh = true →
      cache.get? (fingerprint P a.hello) = none → a.response = accepted.response →
      a.identity = accepted.identity →
      CacheEnds P cache [a]
        (LruCache.store handshakeCacheSize cache (fingerprint P a.hello) accepted)

/-- An iteration notes at most one acceptance, a hit or a miss of the cache. -/
theorem StepEnds.cache {origins : List Acceptance} {input : ServerInput} {timeout : Option τ}
    {server server' : MultiClientServer} {n : ℕ} {t' : ServerTrace τ}
    (h : StepEnds P origins input timeout server (.ok n) server' t') :
    CacheEnds P server.registry.acceptedHellos (acceptances t')
      server'.registry.acceptedHellos := by
  generalize hr : Except.ok n = r at h
  cases h with
  | raised e _ _ _ => cases hr
  | ran n₁ engine t₁ r _ t₂ htun hudp =>
  rw [acceptances_effect, acceptances_append, htun.trace.1, List.nil_append]
  cases hudp with
  | idle _ => exact .unchanged
  | failed _ _ _ => exact .unchanged
  | malformed _ _ _ _ _ => exact .unchanged
  | received datagram source packet r _ t₂ _ _ hpacket =>
      rw [acceptances_effect]
      cases hpacket with
      | forwarded r engine' t₂ _ hends =>
          rw [hends.acceptances]
          exact .unchanged
      | notResent accepted e _ _ => cases hr
      | resent accepted data hreception _ _ =>
          exact .hit _ accepted rfl (ClientRegistry.reception_eq_cached.1 hreception).2 rfl rfl
      | notAnswered _ _ _ _ _ _ _ _ => cases hr
      | answered identity response secret cipher calls data r engine' hreception _ _ _ _ =>
          obtain ⟨-, hnone, -, -⟩ := ClientRegistry.reception_eq_fresh hreception
          rw [acceptances_append, acceptances_calls]
          exact .miss _ _ rfl hnone rfl rfl

/-- The keys of the hellos in a list of acceptances. -/
def keys (P : Primitives) (l : List Acceptance) : Finset Bytes :=
  (l.map fun a => fingerprint P a.hello).toFinset

/-- One more hello. -/
theorem keys_concat (l : List Acceptance) (a : Acceptance) :
    keys P (l ++ [a]) = insert (fingerprint P a.hello) (keys P l) := by
  rw [keys, keys, List.map_append, List.toFinset_append]
  exact Finset.union_comm _ _

/-- Every hello is in the cache while fewer than `handshakeCacheSize` others were accepted
after it. -/
def Recent (P : Primitives) (cache : OrderedDict Bytes AcceptedSession) (l : List Acceptance) :
    Prop :=
  ∀ before a after, l = before ++ a :: after →
    (∀ b ∈ after, fingerprint P b.hello ≠ fingerprint P a.hello) →
    (keys P after).card < handshakeCacheSize →
    ∃ accepted, LruCache.Recent cache (fingerprint P a.hello) accepted (keys P after)

/-- **One acceptance** moves its hello to the end of the cache. -/
theorem Recent.concat {cache cache' : OrderedDict Bytes AcceptedSession} {l l' : List Acceptance}
    (h : Recent P cache l) (hends : CacheEnds P cache l' cache') : Recent P cache' (l ++ l') := by
  cases hends with
  | unchanged => rwa [List.append_nil]
  | hit b accepted _ hget _ _ =>
      intro before a after hl hafter hcard
      rcases List.eq_nil_or_concat' after with rfl | ⟨after, c, rfl⟩
      · -- the hello itself is presented
        obtain ⟨-, hab⟩ := List.append_inj' hl rfl
        obtain rfl := List.singleton_inj.1 hab
        exact ⟨accepted, LruCache.Recent.of_touch hget⟩
      · -- another hello is presented
        rw [← List.cons_append, ← List.append_assoc] at hl
        obtain ⟨rfl, hbc⟩ := List.append_inj' hl rfl
        obtain rfl := List.singleton_inj.1 hbc
        rw [keys_concat] at hcard ⊢
        obtain ⟨accepted', hrecent⟩ := h before a after rfl
          (fun x hx => hafter x (List.mem_append_left _ hx))
          (lt_of_le_of_lt (Finset.card_le_card (Finset.subset_insert _ _)) hcard)
        exact ⟨accepted', hrecent.touch (hafter b (by simp))⟩
  | miss b accepted _ hget _ _ =>
      have hnot : fingerprint P b.hello ∉ cache.keys := (OrderedDict.get?_eq_none_iff _ _).1 hget
      intro before a after hl hafter hcard
      rcases List.eq_nil_or_concat' after with rfl | ⟨after, c, rfl⟩
      · obtain ⟨-, hab⟩ := List.append_inj' hl rfl
        obtain rfl := List.singleton_inj.1 hab
        exact ⟨accepted, LruCache.Recent.of_store accepted hnot (by decide)⟩
      · rw [← List.cons_append, ← List.append_assoc] at hl
        obtain ⟨rfl, hbc⟩ := List.append_inj' hl rfl
        obtain rfl := List.singleton_inj.1 hbc
        rw [keys_concat] at hcard ⊢
        obtain ⟨accepted', hrecent⟩ := h before a after rfl
          (fun x hx => hafter x (List.mem_append_left _ hx))
          (lt_of_le_of_lt (Finset.card_le_card (Finset.subset_insert _ _)) hcard)
        exact ⟨accepted', hrecent.store (hafter b (by simp)) hnot hcard⟩

section run

variable (hA : P.LawfulAead) (hH : P.LawfulHkdf) (hM : P.LawfulHmac) (hX : P.LawfulX25519)
  {start : ClientRegistry} (hstart : start.acceptedHellos = .empty)
include hA hH hM hX hstart

/-- **The cache after a run.** -/
theorem Reaches.recent {inputs : List ServerInput} {server : MultiClientServer}
    {t : ServerTrace τ} (h : Reaches P (new start) inputs server t) :
    Recent P server.registry.acceptedHellos (acceptances t) := by
  induction inputs using List.reverseRecOn generalizing server t with
  | nil =>
      obtain ⟨rfl, rfl⟩ := reaches_nil.1 h
      intro before a after hl
      simp at hl
  | append_singleton inputs input ih =>
      obtain ⟨server₁, t₁, n, t₂, hrun, honce, rfl⟩ := reaches_concat.1 h
      have hinv := hrun.invariant hA hH hM hX hstart
      have hends := runOnce_spec hA hH hM hX hinv.sound input (none : Option τ)
      rw [wp, honce] at hends
      rw [acceptances_append]
      exact (ih hrun).concat hends.cache

end run

/-! ## Presenting a hello again -/

/-- The hello of a datagram arrives from this source, and the operating system accepts the
answer. -/
structure Presents (input : ServerInput) (hello : Packet) (source : Address) : Prop where
  arrives : ∃ datagram, input.udpReceive = some (.ok (datagram, source)) ∧
    Packet.decode (datagram.take maxUdpDatagramSize) = .ok hello
  sends : input.helloSendFailure = none

/-- What an iteration with a cached hello leaves in the trace, after its TUN half. -/
def Resends (hello : Packet) (source : Address) (o : Acceptance) (t : ServerTrace τ) : Prop :=
  ∃ received data, o.response.encode = .ok data ∧
    t = [.effect (.receive received source), .note ⟨hello, source, o.response, o.identity, none⟩,
      .effect (.send o.response data source)]

/-- SHA-256 tells the hellos of the run apart. -/
def Distinguishes (P : Primitives) (l : List Acceptance) : Prop :=
  ∀ a ∈ l, ∀ b ∈ l, fingerprint P a.hello = fingerprint P b.hello → a.hello = b.hello

instance (P : Primitives) (l : List Acceptance) : Decidable (Distinguishes P l) :=
  inferInstanceAs (Decidable (∀ a ∈ l, ∀ b ∈ l, _))

/-- The hello was last presented before the acceptances `after`, and fewer hellos than the
cache holds were accepted since. -/
structure LatelyPresented (l : List Acceptance) (hello : Packet) (after : List Acceptance) :
    Prop where
  split : ∃ before a, l = before ++ a :: after ∧ a.hello = hello
  others : ∀ b ∈ after, b.hello ≠ hello
  few : ((after.map Acceptance.hello).toFinset).card < handshakeCacheSize

/-- The acceptance is the last one as new of this hello. -/
def Original (fresh : List Acceptance) (hello : Packet) (o : Acceptance) : Prop :=
  ∃ before after, fresh = before ++ o :: after ∧ o.hello = hello ∧ ∀ b ∈ after, b.hello ≠ hello

theorem mem_acceptances_of_fresh {t : ServerTrace τ} {a : Acceptance}
    (h : a ∈ freshAcceptances t) : a ∈ acceptances t := (List.mem_filter.1 h).1

/-- The keys of distinct hellos are distinct. -/
theorem card_keys_le (l : List Acceptance) :
    (keys P l).card ≤ ((l.map Acceptance.hello).toFinset).card := by
  have himage : keys P l = ((l.map Acceptance.hello).toFinset).image (fingerprint P) := by
    ext key
    simp [keys]
  rw [himage]
  exact Finset.card_image_le

section run

variable (hA : P.LawfulAead) (hH : P.LawfulHkdf) (hM : P.LawfulHmac) (hX : P.LawfulX25519)
  {start : ClientRegistry} (hstart : start.acceptedHellos = .empty)
include hA hH hM hX hstart

/-- A hello that was presented lately is in the cache, with its recorded answer. -/
theorem cached_of_latelyPresented {inputs : List ServerInput} {server : MultiClientServer}
    {t : ServerTrace τ} (h : Reaches P (new start) inputs server t)
    (hsha : Distinguishes P (acceptances t)) {hello : Packet} {after : List Acceptance}
    (hlately : LatelyPresented (acceptances t) hello after) :
    ∃ accepted o, server.registry.acceptedHellos.get? (fingerprint P hello) = some accepted ∧
      Original (freshAcceptances t) hello o ∧ o.response = accepted.response ∧
      o.identity = accepted.identity ∧ hello.messageType = .clientHello := by
  have hinv := h.invariant hA hH hM hX hstart
  obtain ⟨⟨before, a, hsplit, rfl⟩, hothers, hfew⟩ := hlately
  have ha : a ∈ acceptances t := by
    rw [hsplit]
    exact List.mem_append_right _ List.mem_cons_self
  have hafter : ∀ b ∈ after, b ∈ acceptances t := by
    intro b hb
    rw [hsplit]
    exact List.mem_append_right _ (List.mem_cons_of_mem _ hb)
  obtain ⟨accepted, hget, -⟩ := h.recent hA hH hM hX hstart before a after hsplit
    (fun b hb heq => hothers b hb (hsha b (hafter b hb) a ha heq))
    (lt_of_le_of_lt (card_keys_le after) hfew)
  -- the entry was recorded for the same hello
  obtain ⟨o, hrecorded, hresponse, hidentity⟩ := hinv.cache _ _ hget
  have ho := hrecorded.mem
  obtain ⟨before', after', hfresh, hkey, hlast⟩ := hrecorded
  have hhello := hsha o (mem_acceptances_of_fresh ho) a ha hkey
  obtain ⟨-, -, e, haccept⟩ := hinv.genuine o ho
  refine ⟨accepted, o, hget, ⟨before', after', hfresh, hhello, ?_⟩, hresponse, hidentity, ?_⟩
  · intro b hb heq
    exact hlast b hb (by rw [heq])
  · rw [← hhello]
    exact (acceptClientHello_ok haccept).1

/-- **A replayed hello.** In every run, presenting a hello again that was presented lately
sends exactly the answer recorded for it, is not new, and changes neither the engine nor
what the cache holds. -/
theorem replayed_hello {inputs : List ServerInput} {server : MultiClientServer}
    {t : ServerTrace τ} (h : Reaches P (new start) inputs server t)
    (hsha : Distinguishes P (acceptances t)) {hello : Packet} {after : List Acceptance}
    (hlately : LatelyPresented (acceptances t) hello after) {input : ServerInput}
    {source : Address} (hpresents : Presents input hello source) {n : ℕ}
    {server₁ : MultiClientServer} {t₁ : ServerTrace τ}
    (htun : forwardFromTun P input server = ⟨.ok n, server₁, t₁⟩) (timeout : Option τ) :
    ∃ o server' t₂, Original (freshAcceptances t) hello o ∧
      runOnce P input timeout server
        = ⟨.ok n, server', .effect (.select timeout) :: (t₁ ++ t₂)⟩ ∧
      Resends hello source o t₂ ∧ server'.engine = server₁.engine ∧
      (∀ key, server'.registry.acceptedHellos.get? key
        = server.registry.acceptedHellos.get? key) ∧
      ∃ accepted, (ClientRegistry.accept P hello source input.entropy server₁.registry :
          Outcome PyError (ServerEffect τ Acceptance) _ _).result = .ok (some accepted) ∧
        accepted.isNew = false ∧ accepted.response = o.response := by
  have hinv := h.invariant hA hH hM hX hstart
  obtain ⟨accepted, o, hget, horiginal, hresponse, hidentity, htype⟩ :=
    cached_of_latelyPresented hA hH hM hX hstart h hsha hlately
  obtain ⟨⟨datagram, hreceive, hdecode⟩, hsend⟩ := hpresents
  obtain ⟨⟨engine, rfl, hhalf⟩, r, server', t₂, hudp, hrun⟩ :=
    runOnce_of_forwardFromTun hA hH hM hX hinv.sound htun timeout
  have hreception : server.registry.reception P hello input.entropy = .cached accepted :=
    ClientRegistry.reception_eq_cached.2 ⟨htype, hget⟩
  have hp := Packet.encodable_of_decode (List.length_take_le _ _) hdecode
  refine ⟨o, server', t₂, horiginal, ?_⟩
  cases hudp with
  | idle hnone => simp [hreceive] at hnone
  | failed e r herror => simp [hreceive] at herror
  | malformed _ _ _ hreceive' hdecode' =>
      obtain ⟨rfl, rfl⟩ := Prod.mk.inj (Except.ok.inj (Option.some.inj (hreceive ▸ hreceive')))
      rw [hdecode] at hdecode'
      cases hdecode'
  | received datagram' source' packet r _ t₂ hreceive' hdecode' hpacket =>
      obtain ⟨rfl, rfl⟩ := Prod.mk.inj (Except.ok.inj (Option.some.inj (hreceive ▸ hreceive')))
      rw [hdecode] at hdecode'
      obtain rfl := Except.ok.inj hdecode'
      cases hpacket with
      | forwarded _ _ _ hunknown _ => simp [hreception] at hunknown
      | notResent accepted' e _ hfailure => simp [hsend] at hfailure
      | notAnswered _ _ _ _ _ e _ hfailure => simp [hsend] at hfailure
      | answered _ _ _ _ _ _ _ _ hfresh _ _ _ _ => simp [hreception] at hfresh
      | resent accepted' data hreception' _ hdata =>
          rw [hreception] at hreception'
          obtain rfl := Reception.cached.inj hreception'
          refine ⟨hrun,
            ⟨datagram.take maxUdpDatagramSize, data, by rw [hresponse]; exact hdata, ?_⟩, rfl,
            fun key => OrderedDict.get?_moveToEnd .., { accepted with isNew := false }, ?_, rfl,
            hresponse.symm⟩
          · rw [hresponse, hidentity]
          · rw [ClientRegistry.accept_of_cached hH hp hreception]

/-- **A replayed hello leaves the sessions.** In every run, a session that is installed stays
installed when a hello is presented again that was presented lately. -/
theorem session_survives_replay {inputs : List ServerInput} {server : MultiClientServer}
    {t : ServerTrace τ} (h : Reaches P (new start) inputs server t)
    (hsha : Distinguishes P (acceptances t)) {ref : ℕ} {installed : Acceptance}
    (hinstalled : Installed server.engine ref installed) {hello : Packet}
    {after : List Acceptance} (hlately : LatelyPresented (acceptances t) hello after)
    {input : ServerInput} {source : Address} (hpresents : Presents input hello source) {n : ℕ}
    {server₁ : MultiClientServer} {t₁ : ServerTrace τ}
    (htun : forwardFromTun P input server = ⟨.ok n, server₁, t₁⟩) (timeout : Option τ) :
    ∃ server' t', runOnce P input timeout server = ⟨.ok n, server', t'⟩ ∧
      Installed server'.engine ref installed := by
  have hinv := h.invariant hA hH hM hX hstart
  obtain ⟨o, server', t₂, -, hrun, -, hengine, -, -⟩ :=
    replayed_hello hA hH hM hX hstart h hsha hlately hpresents htun timeout
  obtain ⟨⟨engine, rfl, hhalf⟩, -⟩ :=
    runOnce_of_forwardFromTun hA hH hM hX hinv.sound htun timeout
  have hsame := (hhalf.sound hinv.sound).1
  refine ⟨server', _, hrun, ?_⟩
  rw [hengine]
  exact ⟨by rw [hsame.sessions, hinstalled.1], by rw [hsame.routes, hinstalled.2]⟩

end run

/-- The sample server after these iterations. -/
def sampleOutcome (inputs : List ServerInput) :
    Outcome PyError (ServerEffect Unit Acceptance) MultiClientServer Unit :=
  run sample inputs (new sampleRegistry)

/-- The hellos of the sample client arrive in the order of their creation. -/
def sampleInOrder : List ServerInput :=
  [sampleArrival (sampleHelloData 0) (sampleSource 0),
    sampleArrival (sampleHelloData 1) (sampleSource 0)]

/-- The first hello arrives again, from another source. -/
def sampleAgain : ServerInput := sampleArrival (sampleHelloData 0) (sampleSource 1)

theorem sampleInOrder_reaches : Reaches sample (new sampleRegistry) sampleInOrder
    (sampleOutcome sampleInOrder).state (sampleOutcome sampleInOrder).trace :=
  reaches_of_returns (by decide +kernel)

theorem sampleInOrder_latelyPresented :
    LatelyPresented (acceptances (sampleOutcome sampleInOrder).trace) sampleHello
      ((acceptances (sampleOutcome sampleInOrder).trace).drop 1) where
  split := ⟨[], (acceptances (sampleOutcome sampleInOrder).trace).head (by decide +kernel),
    by decide +kernel, by decide +kernel⟩
  others := by decide +kernel
  few := by decide +kernel

theorem sampleAgain_presents : Presents sampleAgain sampleHello (sampleSource 1) where
  arrives := ⟨sampleHelloData 0, rfl, by decide +kernel⟩
  sends := rfl

theorem replayed_hello_sample :
    ∃ (o : Acceptance) (server' : MultiClientServer) (t₂ : ServerTrace Unit),
      Original (freshAcceptances (sampleOutcome sampleInOrder).trace) sampleHello o ∧
      runOnce sample sampleAgain none (sampleOutcome sampleInOrder).state
        = ⟨.ok 0, server', .effect (.select none) :: ([] ++ t₂)⟩ ∧
      Resends sampleHello (sampleSource 1) o t₂ ∧
      server'.engine = (sampleOutcome sampleInOrder).state.engine := by
  obtain ⟨o, server', t₂, h1, h2, h3, h4, -, -⟩ := replayed_hello sample_lawfulAead
    sample_lawfulHkdf sample_lawfulHmac sample_lawfulX25519 rfl sampleInOrder_reaches
    (by decide +kernel) sampleInOrder_latelyPresented sampleAgain_presents rfl none
  exact ⟨o, server', t₂, h1, h2, h3, h4⟩

theorem session_survives_replay_sample :
    ∃ (server' : MultiClientServer) (t' : ServerTrace Unit),
      runOnce sample sampleAgain none (sampleOutcome sampleInOrder).state
        = ⟨.ok 0, server', t'⟩ ∧
      Installed server'.engine 1
        ((freshAcceptances (sampleOutcome sampleInOrder).trace).get ⟨1, by decide +kernel⟩) :=
  session_survives_replay sample_lawfulAead sample_lawfulHkdf sample_lawfulHmac
    sample_lawfulX25519 rfl sampleInOrder_reaches (by decide +kernel)
    ⟨by decide +kernel, by decide +kernel⟩ sampleInOrder_latelyPresented sampleAgain_presents rfl
    none

/-- The second hello of the sample client overtakes the first. -/
def sampleOvertaken : List ServerInput := sampleInOrder.reverse

/-- A hello that is delayed on its first delivery replaces the session of a later one: after
the second hello its session is installed, and after the first it is gone from both tables. -/
theorem delayed_hello_replaces_session :
    (∃ state, createClientHello sample sampleKeys.clientPrivate
      (sample.x25519Public sampleKeys.serverPrivate) sampleClientEntropy
        = .ok (sampleHello, state)) ∧
    (∃ state, createClientHello sample sampleKeys.clientPrivate
      (sample.x25519Public sampleKeys.serverPrivate) sampleSecondEntropy
        = .ok (sampleSecondHello, state)) ∧
    (sampleOutcome sampleOvertaken).result = .ok () ∧
    (freshAcceptances (sampleOutcome sampleOvertaken).trace).map Acceptance.hello
      = [sampleSecondHello, sampleHello] ∧
    (∀ a ∈ (freshAcceptances (sampleOutcome sampleOvertaken).trace).head?,
      Installed (sampleOutcome (sampleOvertaken.take 1)).state.engine 0 a ∧
      (sampleOutcome sampleOvertaken).state.engine.sessions.get? (a.source, a.hello.sessionId)
        = none ∧
      (sampleOutcome sampleOvertaken).state.engine.routes.get? a.identity.tunnelAddress
        ≠ some 0) := by
  refine ⟨⟨_, rfl⟩, ⟨_, rfl⟩, ?_⟩
  unfold Installed
  decide +kernel

/-! ## The session behind an answer -/

/-- A datagram with this packet arrives from this source. -/
def Arrives (input : ServerInput) (packet : Packet) (source : Address) : Prop :=
  ∃ datagram, input.udpReceive = some (.ok (datagram, source)) ∧
    Packet.decode (datagram.take maxUdpDatagramSize) = .ok packet

/-- A datagram is one packet from one source. -/
theorem Arrives.unique {input : ServerInput} {packet packet' : Packet} {source source' : Address}
    (h : Arrives input packet source) (h' : Arrives input packet' source') :
    packet' = packet ∧ source' = source := by
  obtain ⟨datagram, hreceive, hdecode⟩ := h
  obtain ⟨datagram', hreceive', hdecode'⟩ := h'
  rw [hreceive] at hreceive'
  obtain ⟨rfl, rfl⟩ := Prod.mk.inj (Except.ok.inj (Option.some.inj hreceive'))
  rw [hdecode] at hdecode'
  exact ⟨(Except.ok.inj hdecode').symm, rfl⟩

/-- No hello of the same client was accepted as new after this one. -/
def LastOfClient (fresh : List Acceptance) (o : Acceptance) : Prop :=
  ∃ before after, fresh = before ++ o :: after ∧ ∀ b ∈ after, b.identity ≠ o.identity

/-- Only an accepted hello is answered with a SERVER_HELLO. -/
theorem StepEnds.serverHello {origins : List Acceptance} {input : ServerInput}
    {timeout : Option τ} {server server' : MultiClientServer} {r : Except PyError ℕ}
    {t' : ServerTrace τ} (h : StepEnds P origins input timeout server r server' t')
    {response : Packet} {data : Bytes} {destination : Address}
    (hsend : .send response data destination ∈ effects t')
    (htype : response.messageType = .serverHello) :
    ∃ b, acceptances t' = [b] ∧ b.response = response ∧ b.source = destination ∧
      Arrives input b.hello destination := by
  -- the TUN half sends DATA packets only
  have htun : ∀ {r engine t}, TunHalf P origins input server r engine t →
      .send response data destination ∉ effects (t : ServerTrace τ) := by
    intro r engine t hhalf hmem
    cases hhalf with
    | idle _ => cases hmem
    | failed _ _ => cases hmem
    | handled payload r _ _ _ hends =>
        cases hends with
        | sent _ ref s cipher calls _ _ _ _ _ _ _ _ =>
            simp only [effects_append, effects_calls, effects_effect, effects_nil,
              List.mem_append, List.mem_map, reduceCtorEq, and_false, exists_false, false_or,
              List.mem_singleton, Effect.send.injEq] at hmem
            rw [hmem.1] at htype
            cases htype
        | ignored _ => simp at hmem
        | exhausted _ _ _ _ _ _ _ => simp at hmem
        | tooLarge _ _ _ _ _ _ _ _ _ _ => simp at hmem
        | failed _ _ _ _ _ _ _ _ _ _ _ => simp at hmem
  cases h with
  | raised e engine t hhalf =>
      simp only [effects_effect, List.mem_cons, reduceCtorEq, false_or] at hsend
      exact absurd hsend (htun hhalf)
  | ran n engine t r _ t₂ hhalf hudp =>
      simp only [effects_effect, effects_append, List.mem_cons, reduceCtorEq, false_or,
        List.mem_append] at hsend
      rcases hsend with hsend | hsend
      · exact absurd hsend (htun hhalf)
      rw [acceptances_effect, acceptances_append, hhalf.trace.1, List.nil_append]
      cases hudp with
      | idle _ => cases hsend
      | failed _ _ _ => cases hsend
      | malformed _ _ _ _ _ => simp at hsend
      | received datagram source packet r _ t₂ hreceive hdecode hpacket =>
          simp only [effects_effect, List.mem_cons, reduceCtorEq, false_or] at hsend
          rw [acceptances_effect]
          cases hpacket with
          | forwarded r engine' t₂ _ hends => cases hends <;> simp at hsend
          | notResent accepted e _ _ => simp at hsend
          | notAnswered _ _ _ _ _ _ _ _ => simp at hsend
          | resent accepted data' _ _ _ =>
              simp only [effects_note, effects_effect, effects_nil, List.mem_singleton,
                Effect.send.injEq] at hsend
              obtain ⟨rfl, -, rfl⟩ := hsend
              exact ⟨_, rfl, rfl, rfl, datagram, hreceive, hdecode⟩
          | answered identity response' secret cipher calls data' r engine' _ _ _ _ _ =>
              simp only [effects_append, effects_calls, effects_note, effects_effect, effects_nil,
                List.mem_append, List.mem_map, reduceCtorEq, and_false, exists_false, false_or,
                List.mem_singleton, Effect.send.injEq] at hsend
              obtain ⟨rfl, -, rfl⟩ := hsend
              rw [acceptances_append, acceptances_calls]
              exact ⟨_, rfl, rfl, rfl, datagram, hreceive, hdecode⟩

section run

variable (hA : P.LawfulAead) (hH : P.LawfulHkdf) (hM : P.LawfulHmac) (hX : P.LawfulX25519)
  {start : ClientRegistry} (hstart : start.acceptedHellos = .empty)
include hA hH hM hX hstart

/-- **The session behind an answer.** In every run, a SERVER_HELLO that an iteration sends
answers the hello that arrived, and is the answer recorded when this hello was last accepted
as new, from some source.  If no other hello of its client was accepted as new since, then
the engine holds, under this source, a session derived from the hello and the answer. -/
theorem answered_session {inputs : List ServerInput} {server server' : MultiClientServer}
    {t t' : ServerTrace τ} (h : Reaches P (new start) inputs server t) {input : ServerInput}
    {n : ℕ} (hstep : runOnce P input none server = ⟨.ok n, server', t'⟩)
    (hsha : Distinguishes P (acceptances (t ++ t'))) {response : Packet} {data : Bytes}
    {destination : Address} (hsend : .send response data destination ∈ effects t')
    (htype : response.messageType = .serverHello) :
    ∃ o, Arrives input o.hello destination ∧ o.response = response ∧ Genuine P start o ∧
      Original (freshAcceptances (t ++ t')) o.hello o ∧
      (freshAcceptances t' ≠ [] → o.source = destination) ∧
      (LastOfClient (freshAcceptances (t ++ t')) o → server'.Holds P o) := by
  have hinv := h.invariant hA hH hM hX hstart
  have hends : StepEnds P (freshAcceptances t) input none server (.ok n) server' t' := by
    have hspec := runOnce_spec hA hH hM hX hinv.sound input (none : Option τ)
    rwa [wp, hstep] at hspec
  have hinv' := hinv.step hM hX hends
  -- the last acceptance of a client is the route of its address
  have hholds : ∀ o, LastOfClient (freshAcceptances (t ++ t')) o → server'.Holds P o := by
    rintro o ⟨before, after, hfresh, hlast⟩
    have hgenuine := hinv'.genuine
    rw [hfresh] at hgenuine
    have hget : (freshAcceptances (t ++ t'))[before.length]? = some o := by
      rw [hfresh]
      simp
    refine hinv'.holds ⟨hget, ?_⟩
    intro ref' a' href ha' haddress
    rw [hfresh, List.getElem?_append_right (by omega)] at ha'
    obtain ⟨k, hk⟩ : ∃ k, ref' - before.length = k + 1 := ⟨ref' - before.length - 1, by omega⟩
    rw [hk, List.getElem?_cons_succ] at ha'
    have hmem := List.mem_of_getElem? ha'
    refine hlast a' hmem (List.inj_on_of_nodup_map start.nodup_addresses ?_ ?_ haddress)
    · exact (hgenuine a' (List.mem_append_right _ (List.mem_cons_of_mem _ hmem))).1
    · exact (hgenuine o (List.mem_append_right _ List.mem_cons_self)).1
  obtain ⟨b, hb, hresponse, hsource, harrives⟩ := hends.serverHello hsend htype
  have hcache := hends.cache
  rw [hb] at hcache
  generalize server'.registry.acceptedHellos = cache' at hcache
  have hfresh' : freshAcceptances t' = [b].filter Acceptance.isFresh := by
    rw [freshAcceptances, hb]
  rw [freshAcceptances_append] at hholds ⊢
  cases hcache with
  | hit _ accepted hold hget haccepted _ =>
      rw [hfresh', List.filter_singleton, hold, cond_false, List.append_nil] at hholds ⊢
      obtain ⟨o, hrecorded, hrecordedResponse, -⟩ := hinv.cache _ _ hget
      have hgenuine := hinv.genuine o hrecorded.mem
      have ho := mem_acceptances_of_fresh hrecorded.mem
      obtain ⟨before, after, hfresh, hkey, hlast⟩ := hrecorded
      have hhello : o.hello = b.hello := by
        refine hsha o ?_ b ?_ hkey
        · rw [acceptances_append]
          exact List.mem_append_left _ ho
        · rw [acceptances_append, hb]
          exact List.mem_append_right _ (List.mem_singleton_self b)
      refine ⟨o, by rwa [hhello], ?_, hgenuine,
        ⟨before, after, hfresh, rfl, ?_⟩, ?_, hholds o⟩
      · rw [hrecordedResponse, ← haccepted, hresponse]
      · intro c hc heq
        exact hlast c hc (by rw [heq, hkey])
      · exact fun hne => absurd rfl hne
  | miss _ accepted hnew _ _ _ =>
      rw [hfresh', List.filter_singleton, hnew, cond_true] at hholds ⊢
      have hgenuine : Genuine P start b := by
        refine hinv'.genuine b ?_
        rw [freshAcceptances_append, hfresh', List.filter_singleton, hnew, cond_true]
        exact List.mem_append_right _ (List.mem_singleton_self b)
      exact ⟨b, harrives, hresponse, hgenuine,
        ⟨freshAcceptances t, [], rfl, rfl, fun _ h => by cases h⟩, fun _ => hsource, hholds b⟩

end run

/-- The answer of the sample server, and its datagram. -/
def sampleAnswer : Packet × Bytes := (sampleResponse, sampleResponse.encode.toOption.get
  (by decide +kernel))

/-- The sample server after the first hello. -/
def sampleFirst : Outcome PyError (ServerEffect Unit Acceptance) MultiClientServer Unit :=
  sampleOutcome (sampleInOrder.take 1)

/-- The first hello arrives again, and is answered to its new source. -/
def sampleAnsweredAgain : Outcome PyError (ServerEffect Unit Acceptance) MultiClientServer ℕ :=
  runOnce sample sampleAgain none sampleFirst.state

/-- The engine holds the session of the hello that arrives again. -/
theorem answered_session_sample :
    ∃ o, Arrives sampleAgain o.hello (sampleSource 1) ∧ o.response = sampleAnswer.1 ∧
      Genuine sample sampleRegistry o ∧ sampleAnsweredAgain.state.Holds sample o := by
  have hreaches : Reaches sample (new sampleRegistry) (sampleInOrder.take 1) sampleFirst.state
      sampleFirst.trace := reaches_of_returns (by decide +kernel)
  have hresult : sampleAnsweredAgain.result = .ok 0 := by decide +kernel
  have hstep : sampleAnsweredAgain
      = ⟨.ok 0, sampleAnsweredAgain.state, sampleAnsweredAgain.trace⟩ := by rw [← hresult]
  obtain ⟨o, harrives, hresponse, hgenuine, ⟨before, after, hfresh, -, -⟩, -, hholds⟩ :=
    answered_session sample_lawfulAead sample_lawfulHkdf sample_lawfulHmac sample_lawfulX25519 rfl
      hreaches hstep (by decide +kernel)
      (show Effect.send sampleAnswer.1 sampleAnswer.2 (sampleSource 1) ∈ _ by decide +kernel)
      (by decide +kernel)
  refine ⟨o, harrives, hresponse, hgenuine, hholds ⟨before, after, hfresh, ?_⟩⟩
  -- it is the only hello that was accepted as new
  have hone : (freshAcceptances (sampleFirst.trace ++ sampleAnsweredAgain.trace)).length = 1 := by
    decide +kernel
  rw [hfresh, List.length_append, List.length_cons] at hone
  obtain rfl : after = [] := List.eq_nil_of_length_eq_zero (by omega)
  exact List.forall_mem_nil _

/-- A hello that is relayed from another source is answered there, and the engine holds no
session under that source. -/
theorem relayed_hello_has_no_session :
    (∃ state, createClientHello sample sampleKeys.clientPrivate
      (sample.x25519Public sampleKeys.serverPrivate) sampleClientEntropy
        = .ok (sampleHello, state)) ∧
    (sampleOutcome [sampleInOrder.head (by decide), sampleAgain]).result = .ok () ∧
    Effect.send sampleAnswer.1 sampleAnswer.2 (sampleSource 1)
      ∈ effects (sampleOutcome [sampleInOrder.head (by decide), sampleAgain]).trace ∧
    (sampleOutcome [sampleInOrder.head (by decide), sampleAgain]).state.engine.sessions.get?
      (sampleSource 1, sampleHello.sessionId) = none :=
  ⟨⟨_, rfl⟩, by decide +kernel, by decide +kernel, by decide +kernel⟩

end MultiClientServer

end MatfVpn
