/-
# What the multi-client server sends in its sessions

Every DATA packet of the server belongs to a session: that of the last hello from its destination,
with its session id.  It was read from the TUN device, and is addressed to the client of the hello.

* `sentPackets` : the DATA packets in a trace, with the hellos of their sessions;
* `Keyed` : the session table leads to the last hello of a source and a session id;
* `Relays.runOnce` : an iteration sends at most the packet that it reads, to its destination.
-/
import MatfVpn.OutboundIsolation
import MatfVpn.ServerAttribution

namespace MatfVpn

open Program History

/-! ## The sessions of the packets -/

/-- The last hello from this source, with this session id, that was accepted as new. -/
def latestFrom (t : ServerTrace Unit) (source : Address) (sessionId : ℕ) : Option Acceptance :=
  ((freshAcceptances t).filter fun a =>
    a.source = source ∧ a.hello.sessionId = sessionId).getLast?

/-- A DATA packet that is sent after a trace, with the hello of its session. -/
def sentIn (before : ServerTrace Unit) (sent : Packet × Bytes × Address) :
    Option (Acceptance × Packet) :=
  if sent.1.messageType = .data then
    (latestFrom before sent.2.2 sent.1.sessionId).map fun a => (a, sent.1)
  else none

/-- The DATA packet of an entry of the trace. -/
def sentAt (before : ServerTrace Unit) (e : ServerEffect Unit Acceptance) :
    Option (Acceptance × Packet) :=
  (e.effect?.bind Effect.send?).bind (sentIn before)

/-- The DATA packets that are sent in a trace, which goes on after another. -/
def sentPacketsFrom (before : ServerTrace Unit) : ServerTrace Unit → List (Acceptance × Packet)
  | [] => []
  | e :: t => (sentAt before e).toList ++ sentPacketsFrom (before ++ [e]) t

/-- The DATA packets that the server has sent, with the hellos of their sessions. -/
def sentPackets (t : ServerTrace Unit) : List (Acceptance × Packet) := sentPacketsFrom [] t

section traces

variable {before s t : ServerTrace Unit}

theorem sentPacketsFrom_append : sentPacketsFrom before (s ++ t)
    = sentPacketsFrom before s ++ sentPacketsFrom (before ++ s) t := by
  induction s generalizing before with
  | nil => rw [List.nil_append, List.append_nil, sentPacketsFrom, List.nil_append]
  | cons e s ih =>
    rw [List.cons_append, sentPacketsFrom, sentPacketsFrom, ih, List.append_assoc,
      List.append_assoc, List.singleton_append]

@[simp] theorem sentPackets_append : sentPackets (s ++ t)
    = sentPackets s ++ sentPacketsFrom s t := sentPacketsFrom_append

/-- The datagrams that are sent in a trace, entry by entry. -/
theorem sends_effects (t : ServerTrace Unit) :
    sends (effects t) = t.filterMap fun e => e.effect?.bind Effect.send? :=
  List.filterMap_filterMap

/-- Without new hellos the sessions are the same. -/
theorem latestFrom_of_fresh (h : freshAcceptances t = []) :
    latestFrom (before ++ t) = latestFrom before := by
  funext source sessionId
  rw [latestFrom, freshAcceptances_append, h, List.append_nil, latestFrom]

/-- **Without new hellos** the packets go out in the sessions of the trace before. -/
theorem sentPacketsFrom_of_fresh (h : freshAcceptances t = []) : sentPacketsFrom before t
    = (sends (effects t)).filterMap (sentIn before) := by
  rw [sends_effects, List.filterMap_filterMap]
  induction t generalizing before with
  | nil => rfl
  | cons e t ih =>
    rw [← List.singleton_append, freshAcceptances_append, List.append_eq_nil_iff] at h
    have hsame : sentIn (before ++ [e]) = sentIn before := by
      funext sent
      rw [sentIn, latestFrom_of_fresh h.1, sentIn]
    rw [sentPacketsFrom, ih h.2, hsame, List.filterMap_cons, sentAt]
    cases (e.effect?.bind Effect.send?).bind (sentIn before) <;> rfl

/-- Packets of other types are no DATA packets. -/
theorem sentPacketsFrom_eq_nil (h : ∀ sent ∈ sends (effects t), sent.1.messageType ≠ .data) :
    sentPacketsFrom before t = [] := by
  induction t generalizing before with
  | nil => rfl
  | cons e t ih =>
    rw [sends_effects, ← List.singleton_append, List.filterMap_append, ← sends_effects,
      ← sends_effects] at h
    obtain ⟨he, ht⟩ := List.forall_mem_append.1 h
    rw [sentPacketsFrom, ih ht, List.append_nil, sentAt]
    cases hsend : e.effect?.bind Effect.send? with
    | none => rfl
    | some sent =>
      have hother : sent.1.messageType ≠ .data := by
        refine he sent ?_
        rw [sends_effects, List.filterMap_cons, hsend]
        exact List.mem_singleton_self sent
      rw [Option.bind_some, sentIn, if_neg hother]
      rfl

/-- One more hello. -/
theorem latestFrom_concat {a : Acceptance} (h : freshAcceptances t = [a]) (source : Address)
    (sessionId : ℕ) : latestFrom (before ++ t) source sessionId
      = if a.source = source ∧ a.hello.sessionId = sessionId then some a
        else latestFrom before source sessionId := by
  rw [latestFrom, freshAcceptances_append, h, List.filter_append]
  split
  · rename_i hsame
    rw [List.filter_cons_of_pos (by simpa using hsame), List.filter_nil, List.getLast?_concat]
  · rename_i hother
    rw [List.filter_cons_of_neg (by simpa using hother), List.filter_nil, List.append_nil,
      latestFrom]

end traces

/-- The packet of this read, if it returned one. -/
def readPacket (read : Option (Except PyError Bytes)) : Option Bytes := read.bind Except.toOption

/-! ## The session table -/

namespace MultiClientServer

variable {P : Primitives} {start : ClientRegistry} {origins : List Acceptance}
  {server server' : MultiClientServer} {engine : MultiClientServerEngine} {input : ServerInput}
  {t t' : ServerTrace Unit}

/-- The session object under a source and a session id comes from the last hello with them. -/
def Keyed (engine : MultiClientServerEngine) (t : ServerTrace Unit) : Prop :=
  ∀ source sessionId ref, engine.sessions.get? (source, sessionId) = some ref →
    (freshAcceptances t)[ref]? = latestFrom t source sessionId

/-- Without new sessions nothing changes. -/
theorem Keyed.extend (h : Keyed server.engine t)
    (hsessions : engine.sessions = server.engine.sessions) (ht' : freshAcceptances t' = []) :
    Keyed engine (t ++ t') := by
  intro source sessionId ref hget
  rw [hsessions] at hget
  rw [freshAcceptances_append, ht', List.append_nil, latestFrom_of_fresh ht']
  exact h source sessionId ref hget

/-- A new session. -/
theorem Keyed.installed (h : Keyed server.engine t)
    (hsound : server.Sound P (freshAcceptances t)) {packet : Packet} {source : Address}
    {identity : ClientIdentity} {cipher : Cipher} {a : Acceptance}
    (ha : a.source = source ∧ a.hello.sessionId = packet.sessionId)
    (ht' : freshAcceptances t' = [a]) :
    Keyed ((server.engine.withoutRoute identity.tunnelAddress).install
      (ClientRegistry.newSession packet source identity cipher)) (t ++ t') := by
  intro source' sessionId ref hget
  rw [latestFrom_concat ht', freshAcceptances_append, ht', ha.1, ha.2]
  rw [MultiClientServerEngine.install, OrderedDict.get?_insert,
    MultiClientServerEngine.objects_withoutRoute, hsound.length_objects] at hget
  split at hget
  · rename_i hkey
    obtain ⟨rfl, rfl⟩ := Prod.mk.inj hkey
    obtain rfl := Option.some.inj hget
    rw [if_pos ⟨rfl, rfl⟩, List.getElem?_concat_length]
  · rename_i hkey
    have hother : ¬(source = source' ∧ packet.sessionId = sessionId) := by
      rintro ⟨rfl, rfl⟩
      exact hkey rfl
    have hbefore := (((hsound.wellFormed.withoutRoute_get? _).1 _ _).1 hget).1
    obtain ⟨s, hs, -, -⟩ := hsound.wellFormed.of_session _ _ hbefore
    have hlt : ref < (freshAcceptances t).length := by
      rw [← hsound.length_objects]
      exact (List.getElem?_eq_some_iff.1 hs).1
    rw [if_neg hother, List.getElem?_append_left hlt]
    exact h source' sessionId ref hbefore

/-! ## One iteration -/

/-- Nothing is sent, or the packet that was read, in a session of the client at its destination. -/
def Forwarded (start : ClientRegistry) (fresh : List Acceptance) (read : Option Bytes)
    (sent : List (Acceptance × Packet)) : Prop :=
  sent = [] ∨ ∃ a plain, sent = [(a, plain)] ∧ read = some plain.payload ∧ a ∈ fresh ∧
    a.identity ∈ start.clients ∧ plain.messageType = .data ∧
    ipv4Destination plain.payload = .ok a.identity.tunnelAddress

/-- **The TUN half** sends at most the packet that it reads, to its destination. -/
theorem TunHalf.forwarded {r : Except PyError ℕ} (hinv : server.Invariant P start t)
    (hkeyed : Keyed server.engine t)
    (h : TunHalf P (freshAcceptances t) input server r engine t') :
    Forwarded start (freshAcceptances t) (readPacket input.tunRead)
      (sentPacketsFrom t (.effect (.select none) :: t')) := by
  have hnone : MatfVpn.sends (effects t') = [] →
      sentPacketsFrom t (.effect (.select none) :: t') = [] := by
    intro hsends
    refine sentPacketsFrom_eq_nil ?_
    rw [effects_effect, sends_select, hsends]
    exact List.forall_mem_nil _
  cases h with
  | idle _ => exact Or.inl rfl
  | failed _ _ => exact Or.inl rfl
  | handled payload r engine t' hread hends =>
    cases hends with
    | ignored _ => exact Or.inl rfl
    | exhausted _ _ _ _ _ _ _ => exact Or.inl rfl
    | tooLarge _ _ _ _ _ _ _ _ _ _ => exact Or.inl (hnone (by simp))
    | failed _ _ _ _ _ _ _ _ _ _ _ => exact Or.inl (hnone (by simp))
    | sent destination ref s cipher calls data _ hdestination hroute hs _ _ _ =>
      obtain ⟨s', hs', haddress, hkey⟩ := hinv.sound.wellFormed.of_route destination ref hroute
      obtain rfl := Option.some.inj (hs.symm.trans hs')
      -- the session table leads to the last hello of the session
      have hlast := hkeyed s.remoteAddress s.sessionId ref hkey
      have hlt : ref < (freshAcceptances t).length := by
        rw [← hinv.sound.length_objects]
        exact (List.getElem?_eq_some_iff.1 hs).1
      have hget : (freshAcceptances t)[ref]? = some (freshAcceptances t)[ref] :=
        List.getElem?_eq_getElem hlt
      refine Or.inr ⟨(freshAcceptances t)[ref], MultiClientServerEngine.nextPacket s payload, ?_,
        ?_, List.getElem_mem hlt, (hinv.genuine _ (List.getElem_mem hlt)).1, rfl, ?_⟩
      · rw [sentPacketsFrom_of_fresh (by simp [freshAcceptances])]
        have hsent : sentIn t (MultiClientServerEngine.nextPacket s payload, data, s.remoteAddress)
            = some ((freshAcceptances t)[ref], MultiClientServerEngine.nextPacket s payload) := by
          refine (if_pos (show (MultiClientServerEngine.nextPacket s payload).messageType = .data
            from rfl)).trans ?_
          show (latestFrom t s.remoteAddress s.sessionId).map _ = _
          rw [← hlast, hget]
          rfl
        simp [hsent]
      · rw [hread]
        rfl
      · rw [← (hinv.sound.comesFrom ref s _ hs hget).2.1, haddress]
        exact hdestination

/-- The UDP half sends no DATA packets, and keeps the session table as long as it returns. -/
theorem UdpHalf.keyed {r : Except PyError ℕ} (hinv : server.Invariant P start t)
    (hkeyed : Keyed server.engine t)
    (h : UdpHalf P (freshAcceptances t) input server r server' t') :
    sentPacketsFrom t t' = [] ∧ (∀ n, r = .ok n → Keyed server'.engine (t ++ t')) := by
  constructor
  · refine sentPacketsFrom_eq_nil fun sent hsent hdata => ?_
    simp [((h.sends hinv).1 sent hsent).1] at hdata
  rintro n rfl
  cases h with
  | idle _ => exact hkeyed.extend rfl rfl
  | failed _ _ _ => exact hkeyed.extend rfl rfl
  | malformed _ _ _ _ _ => exact hkeyed.extend rfl rfl
  | received datagram source packet r _ t₂ _ _ hpacket =>
    generalize hr : Except.ok n = r at hpacket
    cases hpacket with
    | forwarded r engine t₂ _ hends =>
      refine hkeyed.extend hends.sameSessions.sessions ?_
      rw [freshAcceptances, acceptances_effect, hends.acceptances]
      rfl
    | notResent _ _ _ _ => cases hr
    | resent _ _ _ _ _ => exact hkeyed.extend rfl rfl
    | notAnswered _ _ _ _ _ _ _ _ => cases hr
    | answered identity response secret cipher calls data r engine _ _ _ _ hreplace =>
      cases hreplace with
      | collided _ => cases hr
      | installed _ =>
        have hnote : freshAcceptances (.effect (.receive (datagram.take maxUdpDatagramSize)
            source) :: (calls.map (fun call => .effect (.crypto call)) ++
              [.note ⟨packet, source, response, identity, some secret⟩,
                .effect (.send response data source)]) : ServerTrace Unit)
            = [⟨packet, source, response, identity, some secret⟩] := by
          rw [freshAcceptances, acceptances_effect, acceptances_append, acceptances_calls]
          rfl
        exact hkeyed.installed hinv.sound ⟨rfl, rfl⟩ hnote

/-! ## All iterations -/

/-- The server after any iterations, the last of which may have raised: what it sent was read
before, in this order, and went to its destination. -/
structure Relays (P : Primitives) (start : ClientRegistry) (server : MultiClientServer)
    (running : Bool) (t : ServerTrace Unit) (reads : List Bytes) : Prop where
  invariant : running = true → server.Invariant P start t
  keyed : running = true → Keyed server.engine t
  reads : ((sentPackets t).map fun sent => sent.2.payload).Sublist reads
  forwarded : ∀ sent ∈ sentPackets t, sent.1 ∈ freshAcceptances t ∧
    sent.1.identity ∈ start.clients ∧ sent.2.messageType = .data ∧
    ipv4Destination sent.2.payload = .ok sent.1.identity.tunnelAddress

/-- A new server has sent nothing. -/
theorem relays_new (h : start.acceptedHellos = .empty) : Relays P start (new start) true [] [] where
  invariant _ := invariant_new h
  keyed _ source sessionId ref hget := by
    simp [new, MultiClientServerEngine.new] at hget
  reads := List.Sublist.refl _
  forwarded := List.forall_mem_nil _

/-- What is sent next. -/
theorem Relays.extend {running : Bool} {reads : List Bytes}
    (h : Relays P start server running t reads) {read : Option Bytes}
    (hsent : Forwarded start (freshAcceptances t) read (sentPacketsFrom t t')) {running' : Bool}
    (hinvariant : running' = true → server'.Invariant P start (t ++ t'))
    (hkeyed : running' = true → Keyed server'.engine (t ++ t')) :
    Relays P start server' running' (t ++ t') (reads ++ read.toList) where
  invariant := hinvariant
  keyed := hkeyed
  reads := by
    rw [sentPackets_append, List.map_append]
    refine h.reads.append ?_
    rcases hsent with hnone | ⟨a, plain, hone, hread, -⟩
    · rw [hnone]
      exact List.nil_sublist _
    · rw [hone, hread]
      exact List.Sublist.refl _
  forwarded := by
    rw [sentPackets_append, freshAcceptances_append]
    refine List.forall_mem_append.2 ⟨fun sent hsent' => ?_, ?_⟩
    · obtain ⟨hmem, hrest⟩ := h.forwarded sent hsent'
      exact ⟨List.mem_append_left _ hmem, hrest⟩
    rcases hsent with hnone | ⟨a, plain, hone, -, hmem, hrest⟩
    · rw [hnone]
      exact List.forall_mem_nil _
    · rw [hone]
      exact List.forall_mem_singleton.2 ⟨List.mem_append_left _ hmem, hrest⟩

/-- **One iteration** of a server that runs. -/
theorem Relays.runOnce {reads : List Bytes} (h : Relays P start server true t reads)
    (hM : P.LawfulHmac) (hX : P.LawfulX25519) {r : Except PyError ℕ}
    (hends : StepEnds P (freshAcceptances t) input none server r server' t') :
    Relays P start server' r.toOption.isSome (t ++ t')
      (reads ++ (readPacket input.tunRead).toList) := by
  have hinv := h.invariant rfl
  have hkeyed := h.keyed rfl
  cases hends with
  | raised e engine t₁ htun =>
    exact h.extend (htun.forwarded hinv hkeyed) nofun nofun
  | ran n engine t₁ r server' t₂ htun hudp =>
    obtain ⟨hmid, hfresh⟩ := hinv.tunHalf htun none
    have hkeyed' : Keyed engine (t ++ (.effect (.select none) :: t₁)) := by
      refine hkeyed.extend (htun.sound hinv.sound).1.sessions ?_
      rw [freshAcceptances, acceptances_effect, htun.trace.1]
      rfl
    obtain ⟨hnone, hends'⟩ := UdpHalf.keyed hmid hkeyed' (by rwa [hfresh])
    refine h.extend ?_ ?_ ?_
    · rw [← List.cons_append, sentPacketsFrom_append, hnone, List.append_nil]
      exact htun.forwarded hinv hkeyed
    · intro hr
      cases r with
      | error e => cases hr
      | ok n' => exact hinv.step hM hX (.ran n engine t₁ (.ok n') server' t₂ htun hudp)
    · intro hr
      cases r with
      | error e => cases hr
      | ok n' =>
        rw [← List.cons_append, ← List.append_assoc]
        exact hends' n' rfl

end MultiClientServer

end MatfVpn
