/-
# What the multi-client server writes

The replay windows of the session objects hold the sequence numbers that were accepted on
them, so no number is accepted twice on one object.

* `Windows.udpEnds`, `delivery_of_udpEnds` : one packet of the data plane;
* `StepEnds.delivery` : one iteration of the server, whether it returns or raises.
-/
import MatfVpn.ReplayWindow
import MatfVpn.ServerRun

namespace MatfVpn

open Program

namespace MultiClientServerEngine

variable {P : Primitives} {packetsPerKey : ℕ} {secrets : ℕ → Bytes}

/-! ## The replay windows -/

/-- The sequence numbers accepted on a session object. -/
def numbers (d : List (ℕ × Packet)) (ref : ℕ) : Set ℤ :=
  {n | ∃ p, (ref, p) ∈ d ∧ (p.sequenceNumber : ℤ) = n}

/-- The replay window of every session object stands for the numbers accepted on it. -/
def Windows (engine : MultiClientServerEngine) (d : List (ℕ × Packet)) : Prop :=
  ∀ ref s, engine.session? ref = some s → s.replayWindow.Represents (numbers d ref)

/-- A change of an object that leaves its replay window alone. -/
theorem Windows.modifySession {engine : MultiClientServerEngine} {d : List (ℕ × Packet)}
    (h : engine.Windows d) (ref : ℕ) {f : ClientSession → ClientSession}
    (hf : ∀ s, (f s).replayWindow = s.replayWindow) : (engine.modifySession ref f).Windows d := by
  intro ref' s' hs'
  obtain ⟨s, hs, ⟨-, rfl⟩ | ⟨-, rfl⟩⟩ := session?_of_modifySession hs'
  · rw [hf]
    exact h ref' s hs
  · exact h ref' s' hs

/-- A TUN packet leaves the windows alone. -/
theorem Windows.tunEnds {engine engine' : MultiClientServerEngine} {d : List (ℕ × Packet)}
    (h : engine.Windows d) {payload : Bytes} {failure : Option PyError} {r : Except PyError Bool}
    {t : ServerTrace Unit}
    (hends : TunEnds P packetsPerKey secrets engine payload failure r engine' t) :
    engine'.Windows d := by
  cases hends with
  | ignored _ => exact h
  | exhausted _ _ _ _ _ _ _ => exact h
  | tooLarge _ ref _ _ _ _ _ _ _ _ => exact h.modifySession ref fun _ => rfl
  | failed _ _ ref _ _ _ _ _ _ _ _ => exact h.modifySession ref fun _ => rfl
  | sent _ ref _ _ _ _ _ _ _ _ _ _ _ =>
      refine Windows.modifySession ?_ ref fun _ => rfl
      exact h.modifySession ref fun _ => rfl

/-- The packet that a session accepts, in terms of the packet that arrived. -/
theorem openedBy_eq_some {secret : Bytes} {s : ClientSession} {packet decrypted : Packet}
    (h : openedBy P secret packetsPerKey s packet = some decrypted) :
    s.replayWindow.isReplay packet.sequenceNumber = false ∧
      openPayload P secret s.sessionId .client packetsPerKey packet = some decrypted.payload ∧
      ipv4Source decrypted.payload = .ok s.tunnelAddress ∧
      decrypted = { packet with payload := decrypted.payload } := by
  unfold openedBy at h
  split at h
  · rename_i hcheck
    obtain ⟨plaintext, hopen, h⟩ := Option.bind_eq_some_iff.1 h
    split at h
    · rename_i hsource
      obtain rfl := Option.some.inj h
      exact ⟨hcheck.2, hopen, hsource, rfl⟩
    · cases h
  · cases h

/-- One more number. -/
theorem numbers_concat (d : List (ℕ × Packet)) (ref : ℕ) (p : Packet) :
    numbers (d ++ [(ref, p)]) ref = insert (p.sequenceNumber : ℤ) (numbers d ref) := by
  ext n
  simp only [numbers, List.mem_append, List.mem_singleton, Prod.mk.injEq, true_and,
    Set.mem_ofPred_eq, Set.mem_insert_iff]
  constructor
  · rintro ⟨q, hq | rfl, hn⟩
    · exact Or.inr ⟨q, hq, hn⟩
    · exact Or.inl hn.symm
  · rintro (rfl | ⟨q, hq, hn⟩)
    · exact ⟨p, Or.inr rfl, rfl⟩
    · exact ⟨q, Or.inl hq, hn⟩

/-- A number of another object. -/
theorem numbers_concat_of_ne (d : List (ℕ × Packet)) {ref ref' : ℕ} (h : ref' ≠ ref)
    (p : Packet) : numbers (d ++ [(ref, p)]) ref' = numbers d ref' := by
  ext n
  simp [numbers, h]

/-- **A packet of the data plane** is accepted with a number that is new on its object. -/
theorem Windows.udpEnds {engine engine' : MultiClientServerEngine} {d : List (ℕ × Packet)}
    (h : engine.Windows d) {packet : Packet} {source : Address}
    {answer : Bytes → Except PyError ℕ} {r : Except PyError Bool} {t : ServerTrace Unit}
    (hends : UdpEnds P packetsPerKey secrets engine packet source answer r engine' t) :
    engine'.Windows (d ++ delivered t) ∧
      ∀ ref p, (ref, p) ∈ delivered t → (p.sequenceNumber : ℤ) ∉ numbers d ref := by
  cases hends with
  | ignored _ => simpa using h
  | dropped ref _ _ calls _ _ _ _ =>
      rw [delivered_calls, List.append_nil]
      exact ⟨h.modifySession ref fun _ => rfl, fun _ _ hmem => absurd hmem List.not_mem_nil⟩
  | accepted ref s cipher calls decrypted window hget hs hopened _ hwindow =>
      obtain ⟨hfresh, -, -, hdecrypted⟩ := openedBy_eq_some hopened
      have hnumber : decrypted.sequenceNumber = packet.sequenceNumber := by rw [hdecrypted]
      have hdelivered : delivered (calls.map (fun call => .effect (.crypto call)) ++
          [.deliver ref decrypted, .effect (.write decrypted.payload)] : ServerTrace Unit)
          = [(ref, decrypted)] := by simp
      rw [hdelivered]
      have hnew : (decrypted.sequenceNumber : ℤ) ∉ numbers d ref := by
        intro hmem
        have hreplay := (ReplayWindow.isReplay_iff (h ref s hs) packet.sequenceNumber).2
          (Or.inr (Or.inl (hnumber ▸ hmem)))
        rw [hfresh] at hreplay
        cases hreplay
      constructor
      · intro ref' s' hs'
        obtain ⟨s₁, hs₁, ⟨rfl, rfl⟩ | ⟨hne, rfl⟩⟩ := session?_of_modifySession hs'
        · obtain ⟨w, hw, -, hrepresents⟩ :=
            ReplayWindow.markAuthenticated_of_fresh (h ref' s hs) hfresh
          rw [hwindow] at hw
          obtain rfl := Except.ok.inj hw
          rw [numbers_concat, hnumber]
          exact hrepresents
        · rw [numbers_concat_of_ne d hne]
          have hmid : (engine.modifySession ref fun s => { s with cipher := cipher }).Windows d :=
            h.modifySession ref fun _ => rfl
          exact hmid ref' s' hs₁
      · intro ref' p hmem
        obtain ⟨rfl, rfl⟩ := Prod.mk.inj (List.mem_singleton.1 hmem)
        exact hnew

end MultiClientServerEngine

/-! ## An iteration -/

namespace MultiClientServer

variable {P : Primitives}

/-- The iteration writes this packet: it received a datagram that opens as the packet under
the secret of the session object, whose client has the source address of the packet. -/
def Delivers (P : Primitives) (packetsPerKey : ℕ) (origins : List Acceptance)
    (t' : ServerTrace Unit) (ref : ℕ) (decrypted : Packet) : Prop :=
  ∃ a u data source v, origins[ref]? = some a ∧
    t' = (u ++ .effect (.receive data source) :: v) ++
      [.deliver ref decrypted, .effect (.write decrypted.payload)] ∧
    (acceptances u = [] ∧ acceptances v = []) ∧ (delivered u = [] ∧ delivered v = []) ∧
    openDatagram P a.sessionSecret a.hello.sessionId .client packetsPerKey data
      = some decrypted ∧
    ipv4Source decrypted.payload = .ok a.identity.tunnelAddress

/-- Every iteration writes exactly the packets that it accepts on a session object. -/
structure Delivery (P : Primitives) (packetsPerKey : ℕ) (origins : List Acceptance)
    (d : List (ℕ × Packet)) (t' : ServerTrace Unit) : Prop where
  writes : writes (effects t') = (delivered t').map fun d => d.2.payload
  fresh : ∀ ref p, (ref, p) ∈ delivered t' →
    (p.sequenceNumber : ℤ) ∉ MultiClientServerEngine.numbers d ref
  delivers : delivered t' = [] ∨
    ∃ ref p, delivered t' = [(ref, p)] ∧ Delivers P packetsPerKey origins t' ref p

/-- An iteration that accepts nothing writes nothing. -/
theorem delivery_of_nothing {packetsPerKey : ℕ} {origins : List Acceptance}
    {d : List (ℕ × Packet)} {t' : ServerTrace Unit} (hd : delivered t' = [])
    (hw : MatfVpn.writes (effects t') = []) : Delivery P packetsPerKey origins d t' where
  writes := by rw [hd, hw]; rfl
  fresh ref p hmem := by simp [hd] at hmem
  delivers := Or.inl hd

/-- The TUN half writes nothing. -/
theorem TunHalf.writes {origins : List Acceptance} {input : ServerInput}
    {self : MultiClientServer} {r : Except PyError ℕ} {engine : MultiClientServerEngine}
    {t : ServerTrace Unit} (h : TunHalf P origins input self r engine t) :
    MatfVpn.writes (effects t) = [] := by
  cases h with
  | idle _ => rfl
  | failed _ _ => rfl
  | handled payload r _ _ _ hends => cases hends <;> simp

/-- The TUN half leaves the replay windows alone. -/
theorem TunHalf.windows {origins : List Acceptance} {input : ServerInput}
    {self : MultiClientServer} {r : Except PyError ℕ} {engine : MultiClientServerEngine}
    {t : ServerTrace Unit} (h : TunHalf P origins input self r engine t)
    {d : List (ℕ × Packet)} (hd : self.engine.Windows d) : engine.Windows d := by
  cases h with
  | idle _ => exact hd
  | failed _ _ => exact hd
  | handled payload r _ _ _ hends => exact hd.tunEnds hends

/-- The window of a new session object stands for no numbers. -/
theorem windows_installed {engine : MultiClientServerEngine} {d : List (ℕ × Packet)}
    (h : engine.Windows d) (hbound : ∀ ref p, (ref, p) ∈ d → ref < engine.objects.length)
    {session : ClientSession} (hwindow : session.replayWindow = .default) :
    ((engine.withoutRoute session.tunnelAddress).install session).Windows d := by
  intro ref s hs
  rw [MultiClientServerEngine.session?_install, MultiClientServerEngine.objects_withoutRoute] at hs
  split at hs
  · rename_i href
    obtain rfl := Option.some.inj hs
    have hempty : MultiClientServerEngine.numbers d ref = ∅ := by
      ext n
      simp only [MultiClientServerEngine.numbers, Set.mem_ofPred_eq, Set.mem_empty_iff_false,
        iff_false]
      rintro ⟨p, hp, -⟩
      exact absurd (hbound ref p hp) (by omega)
    rw [hempty, hwindow]
    exact ReplayWindow.represents_new _ _
  · rw [MultiClientServerEngine.session?_withoutRoute] at hs
    exact h ref s hs

/-- Effects that accept neither a hello nor a packet, and write nothing. -/
structure AcceptsNothing (t : ServerTrace Unit) : Prop where
  acceptances : acceptances t = []
  delivered : delivered t = []
  writes : MatfVpn.writes (effects t) = []

/-- What comes before the datagram accepts nothing. -/
theorem Delivery.prepend {packetsPerKey : ℕ} {origins : List Acceptance} {d : List (ℕ × Packet)}
    {s t : ServerTrace Unit} (hs : AcceptsNothing s) (h : Delivery P packetsPerKey origins d t) :
    Delivery P packetsPerKey origins d (s ++ t) := by
  have hsame : delivered (s ++ t) = delivered t := by
    rw [delivered_append, hs.delivered, List.nil_append]
  refine ⟨?_, ?_, ?_⟩
  · rw [hsame, effects_append, writes_append, hs.writes, List.nil_append]
    exact h.writes
  · rw [hsame]
    exact h.fresh
  · rw [hsame]
    rcases h.delivers with hnone | ⟨ref, p, hone, a, u, data, source, v, ha, ht, hacc, hdel, hlast⟩
    · exact Or.inl hnone
    · refine Or.inr ⟨ref, p, hone, a, s ++ u, data, source, v, ha, ?_, ⟨?_, hacc.2⟩,
        ⟨?_, hdel.2⟩, hlast⟩
      · rw [ht, List.append_assoc, List.append_assoc, List.append_assoc]
      · rw [acceptances_append, hs.acceptances, hacc.1, List.append_nil]
      · rw [delivered_append, hs.delivered, hdel.1, List.append_nil]

/-- **A datagram of the data plane** writes the packet that its session accepts. -/
theorem delivery_of_udpEnds {packetsPerKey : ℕ} {origins : List Acceptance}
    {server : MultiClientServer} (hsound : server.Sound P origins)
    {d : List (ℕ × Packet)} (hd : server.engine.Windows d) {datagram : Bytes} {source : Address}
    {packet : Packet} (hdecode : Packet.decode datagram = .ok packet)
    {answer : Bytes → Except PyError ℕ} {r : Except PyError Bool}
    {engine' : MultiClientServerEngine} {t : ServerTrace Unit}
    (hends : MultiClientServerEngine.UdpEnds P packetsPerKey (secretOf origins) server.engine
      packet source answer r engine' t) :
    Delivery P packetsPerKey origins d (.effect (.receive datagram source) :: t) := by
  obtain ⟨-, hfresh⟩ := hd.udpEnds hends
  cases hends with
  | ignored _ => exact delivery_of_nothing rfl rfl
  | dropped _ _ _ calls _ _ _ _ => exact delivery_of_nothing (by simp) (by simp)
  | accepted ref s cipher calls decrypted window hget hs hopened _ _ =>
    obtain ⟨-, hopen, hsource, hdecrypted⟩ := MultiClientServerEngine.openedBy_eq_some hopened
    have hlt : ref < origins.length := by
      rw [← hsound.length_objects]
      exact (List.getElem?_eq_some_iff.1 hs).1
    have ha : origins[ref]? = some origins[ref] := List.getElem?_eq_getElem hlt
    obtain ⟨-, haddress, hsession⟩ := hsound.comesFrom ref s _ hs ha
    have hall : delivered (.effect (.receive datagram source) ::
        (calls.map (fun call => .effect (.crypto call)) ++ [.deliver ref decrypted,
          .effect (.write decrypted.payload)]) : ServerTrace Unit) = [(ref, decrypted)] := by
      simp
    refine ⟨?_, ?_, Or.inr ⟨ref, decrypted, hall, origins[ref], [], datagram, source,
      calls.map fun call => .effect (.crypto call), ha, rfl, ⟨rfl, by simp⟩, ⟨rfl, by simp⟩,
      ?_, ?_⟩⟩
    · rw [hall]
      simp
    · rw [delivered_effect]
      exact hfresh
    · rw [openDatagram, hdecode, ← hsession]
      rw [secretOf, ha] at hopen
      simp only [Except.toOption, Option.bind_some]
      rw [show openPayload P origins[ref].sessionSecret s.sessionId .client
        packetsPerKey packet = some decrypted.payload from hopen]
      rw [Option.map_some, ← hdecrypted]
    · rw [← haddress]
      exact hsource

/-- **The UDP half** writes what it accepts, and keeps the replay windows when it returns. -/
theorem UdpHalf.delivery {origins : List Acceptance} {input : ServerInput}
    {server server' : MultiClientServer} {r : Except PyError ℕ} {t : ServerTrace Unit}
    (h : UdpHalf P origins input server r server' t) (hsound : server.Sound P origins)
    {d : List (ℕ × Packet)} (hd : server.engine.Windows d)
    (hbound : ∀ ref p, (ref, p) ∈ d → ref < origins.length) :
    Delivery P server.registry.packetsPerKey origins d t ∧
      (∀ n, r = .ok n → server'.engine.Windows (d ++ delivered t)) := by
  -- where nothing is delivered, the numbers are those from before
  have hsame : ∀ {l : ServerTrace Unit} {engine : MultiClientServerEngine},
      delivered l = [] → engine.Windows d → engine.Windows (d ++ delivered l) := by
    intro l engine hl hengine
    rw [hl, List.append_nil]
    exact hengine
  cases h with
  | idle _ => exact ⟨delivery_of_nothing rfl rfl, fun _ _ => hsame rfl hd⟩
  | failed _ _ _ => exact ⟨delivery_of_nothing rfl rfl, fun _ _ => hsame rfl hd⟩
  | malformed datagram source message _ _ =>
    exact ⟨delivery_of_nothing rfl rfl, fun _ _ => hsame rfl hd⟩
  | received datagram source packet r _ t₂ _ hdecode hpacket =>
    cases hpacket with
    | notResent accepted e _ _ =>
      exact ⟨delivery_of_nothing rfl rfl, fun _ h => by cases h⟩
    | notAnswered _ _ _ _ calls _ _ _ =>
      exact ⟨delivery_of_nothing (by simp) (by simp), fun _ h => by cases h⟩
    | resent accepted data _ _ _ =>
      exact ⟨delivery_of_nothing rfl rfl, fun _ _ => hsame rfl hd⟩
    | answered identity response secret cipher calls data r engine' _ _ _ _ hreplace =>
      refine ⟨delivery_of_nothing (by simp) (by simp), fun n hn => hsame (by simp) ?_⟩
      cases hreplace with
      | collided _ => cases hn
      | installed _ =>
        refine windows_installed hd ?_ rfl
        intro ref p hp
        rw [hsound.length_objects]
        exact hbound ref p hp
    | forwarded r engine' t₂ _ hends =>
      refine ⟨delivery_of_udpEnds hsound hd hdecode hends, fun n _ => ?_⟩
      rw [delivered_effect]
      exact (hd.udpEnds hends).1

/-- **An iteration** writes what it accepts, and keeps the replay windows when it returns. -/
theorem StepEnds.delivery {origins : List Acceptance} {input : ServerInput}
    {timeout : Option Unit} {server server' : MultiClientServer} {r : Except PyError ℕ}
    {t' : ServerTrace Unit} (h : StepEnds P origins input timeout server r server' t')
    (hsound : server.Sound P origins) {d : List (ℕ × Packet)} (hd : server.engine.Windows d)
    (hbound : ∀ ref p, (ref, p) ∈ d → ref < origins.length) :
    Delivery P server.registry.packetsPerKey origins d t' ∧
      (∀ n, r = .ok n → server'.engine.Windows (d ++ delivered t')) := by
  cases h with
  | raised e engine t hhalf =>
    refine ⟨delivery_of_nothing ?_ ?_, fun _ h => by cases h⟩
    · rw [delivered_effect, hhalf.trace.2]
    · rw [effects_effect, writes_select, hhalf.writes]
  | ran n engine t r _ t₂ hhalf hudp =>
    have hbefore : AcceptsNothing (.effect (.select timeout) :: t) := by
      refine ⟨?_, ?_, ?_⟩
      · rw [acceptances_effect, hhalf.trace.1]
      · rw [delivered_effect, hhalf.trace.2]
      · rw [effects_effect, writes_select, hhalf.writes]
    obtain ⟨hdelivery, hwindows⟩ := hudp.delivery (hhalf.sound hsound).2 (hhalf.windows hd) hbound
    refine ⟨hdelivery.prepend hbefore, fun k hk => ?_⟩
    show server'.engine.Windows (d ++ delivered ((.effect (.select timeout) :: t) ++ t₂))
    rw [delivered_append, hbefore.delivered, List.nil_append]
    rcases r with e | m
    · cases hk
    · exact hwindows m rfl

end MultiClientServer

end MatfVpn
