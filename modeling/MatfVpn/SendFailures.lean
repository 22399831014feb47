/-
# Nonces after failed sends

Both engines encrypt a packet, send it and move the packet counter afterwards.  A send that
raises leaves the counter where it was, so the next packet of the session takes the number
of a packet that was encrypted already.

* `encrypt_ends` : what `encrypt` does with any cipher;
* `MultiClientServerEngine.numbering_run`, `TunnelEngine.numbering_run` : the numbers come
  from counters that move when the send succeeded;
* `send_failures_iff` : a session cipher reuses no nonce exactly when every packet whose
  send failed is the next one that its session encrypts.
-/
import MatfVpn.CipherErrors
import MatfVpn.CipherPair
import MatfVpn.Lib.CommitCounter
import MatfVpn.ServerRun

namespace MatfVpn

open Program CommitCounter

/-! ## Any cipher -/

/-- The arguments of `AESGCM.encrypt` that come from a packet. -/
def AesCall.inputs (call : AesCall) : Bytes × Bytes × Bytes :=
  (call.nonce, call.plaintext, call.header)

/-- The nonce, the plaintext and the header under which a packet is encrypted. -/
def Packet.aesInputs (packet : Packet) : Bytes × Bytes × Bytes :=
  (nonceBytes packet, packet.payload, headerBytes packet (packet.payload.length + aesGcmTagSize))

/-- The packet can be encrypted. -/
def Packet.Sendable (packet : Packet) : Prop :=
  packet.HeaderInRange ∧ packet.payload.length ≤ maxPayloadSize - aesGcmTagSize

instance (packet : Packet) : Decidable packet.Sendable :=
  inferInstanceAs (Decidable ((_ < _ ∧ _ < _) ∧ _ ≤ _))

section ciphers

variable {σ : Type} {P : Primitives}

/-- `PacketCipher.encrypt` encrypts the packets that can be encrypted, and raises for others. -/
theorem packetCipher_encrypt_ends (hA : P.LawfulAead) (cipher : PacketCipher) (packet : Packet)
    (s : σ) :
    wp (cipher.encrypt P packet) s (fun r _ t =>
      if packet.Sendable then ∃ call : AesCall, ∃ sealed : Packet,
        call.inputs = packet.aesInputs ∧ aesCalls t = [call] ∧ r = .ok sealed ∧ sealed.Encodable
      else aesCalls t = [] ∧ ∃ e, r = .error e) := by
  unfold PacketCipher.encrypt
  by_cases hbig : packet.payload.length > maxPayloadSize - aesGcmTagSize
  · rw [if_pos hbig, wp_raise_bind, if_neg fun h => absurd h.2 (by omega)]
    exact ⟨rfl, _, rfl⟩
  rw [if_neg hbig]
  by_cases hp : packet.HeaderInRange
  · have hsize : packet.payload.length + aesGcmTagSize ≤ maxPayloadSize := by
      simp only [maxPayloadSize, maxUdpDatagramSize, headerSize, aesGcmTagSize] at hbig ⊢
      omega
    have hwire : packet.payload.length + aesGcmTagSize < 2 ^ 16 :=
      lt_of_le_of_lt hsize (by decide)
    have hsendable : packet.Sendable := ⟨hp, Nat.le_of_not_lt hbig⟩
    simp only [if_pos hsendable, nonce_of_inRange hp, authenticatedHeader_of_inRange hp hwire,
      ofExcept_ok, wp_pure_bind, wp_emit_bind, wp_pure]
    refine ⟨_, _, rfl, rfl, rfl, hp.1, hp.2, ?_⟩
    rw [hA.length_encrypt]
    exact hsize
  · have hnot : ¬ packet.Sendable := fun h => hp h.1
    simp only [if_neg hnot]
    cases hnonce : nonce packet with
    | ok iv => exact absurd (inRange_of_nonce hnonce) hp
    | error e => exact ⟨rfl, e, rfl⟩

/-- `_cipher_for` encrypts nothing. -/
theorem cipherFor_encrypts_nothing (P : Primitives) (n : ℕ) (cipher : RotatingPacketCipher) :
    aesCalls (RotatingPacketCipher.cipherFor P n cipher).trace = [] := by
  have hkeep : ∀ (s : RotatingPacketCipher) t, NoneEncrypted s t → NoneEncrypted s t :=
    fun _ _ h => h
  have hpreserves : Preserves (NoneEncrypted : RotatingPacketCipher → _ → Prop) NoneEncrypted
      (RotatingPacketCipher.cipherFor P n) := by
    unfold RotatingPacketCipher.cipherFor
    refine Preserves.bind Preserves.read fun self => ?_
    simp only
    cases self.ciphers.get? (self.epochFor n) with
    | some keys =>
        exact Preserves.bind (Preserves.update fun _ _ h => h) fun _ => Preserves.pure _
    | none =>
        refine Preserves.bind (Preserves.ofExcept hkeep _) fun _ => ?_
        refine Preserves.bind (Preserves.ofExcept hkeep _) fun _ => ?_
        refine Preserves.bind (Preserves.bind (Preserves.emit fun s t h => ?_) fun _ =>
          Preserves.pure _) fun _ => ?_
        · rw [NoneEncrypted, aesCalls_append, h]
          rfl
        · refine Preserves.bind (fromPresharedKey_encrypts_nothing P _ _ _) fun _ => ?_
          exact Preserves.bind (Preserves.update fun _ _ h => h) fun _ => Preserves.pure _
  exact preserves_self_iff.1 hpreserves cipher [] rfl

/-- **What `encrypt` does with any cipher.** A packet that can be encrypted is encrypted once,
another raises before anything is encrypted. -/
theorem encrypt_ends (hA : P.LawfulAead) (hH : P.LawfulHkdf) (cipher : Cipher)
    (packet : Packet) :
    wp (Cipher.encrypt P packet) cipher (fun r _ t =>
      if packet.Sendable then ∃ call : AesCall, ∃ sealed : Packet,
        call.inputs = packet.aesInputs ∧ aesCalls t = [call] ∧ r = .ok sealed ∧ sealed.Encodable
      else aesCalls t = [] ∧ ∃ e, r = .error e) := by
  cases cipher with
  | packetCipher cipher =>
      exact wp_of_run_eq (cipher.encrypt P packet) rfl (packetCipher_encrypt_ends hA cipher _ _)
  | rotating cipher =>
      refine wp_rotating (m := RotatingPacketCipher.encrypt P packet) rfl ?_
      have hnone := cipherFor_encrypts_nothing P packet.sequenceNumber cipher
      have hreturns := cipherFor_returns hH cipher (n := packet.sequenceNumber)
      unfold RotatingPacketCipher.encrypt
      rw [wp_bind, wp]
      rw [wp] at hreturns
      generalize RotatingPacketCipher.cipherFor P packet.sequenceNumber cipher = o
        at hnone hreturns
      rcases o with ⟨e | keys, c, t⟩
      · have hnot : ¬ packet.Sendable := fun h => by
          obtain ⟨keys, hkeys⟩ := hreturns h.1.2
          cases hkeys
        simp only [if_neg hnot]
        exact ⟨hnone, e, rfl⟩
      · refine wp_mono (packetCipher_encrypt_ends hA keys packet c) ?_
        intro r _ t' h
        rw [aesCalls_append, show aesCalls t = [] from hnone, List.nil_append]
        exact h

/-- `decrypt` encrypts nothing. -/
theorem decrypt_encrypts_nothing (P : Primitives) (packet : Packet) (cipher : Cipher) :
    aesCalls (Cipher.decrypt P packet cipher).trace = [] := by
  have hkeys : ∀ (σ : Type) (keys : PacketCipher) (s : σ),
      aesCalls (keys.decrypt P packet s).trace = [] := by
    intro σ keys s
    have h : Preserves (NoneEncrypted : σ → List CryptoCall → Prop) NoneEncrypted
        (keys.decrypt P packet) := by
      have hkeep : ∀ (s : σ) t, NoneEncrypted s t → NoneEncrypted s t := fun _ _ h => h
      unfold PacketCipher.decrypt
      refine Preserves.bind (Preserves.ofExcept hkeep _) fun iv => ?_
      refine Preserves.bind (Preserves.ofExcept hkeep _) fun header => ?_
      cases P.aesGcmDecrypt keys.receiveKey iv packet.payload header with
      | none => exact Preserves.raise hkeep _
      | some plaintext => exact Preserves.pure _
    exact preserves_self_iff.1 h s [] rfl
  cases cipher with
  | packetCipher cipher => exact hkeys _ cipher _
  | rotating cipher =>
      have h : wp (RotatingPacketCipher.decrypt P packet) cipher (fun _ _ t =>
          aesCalls t = []) := by
        have hnone := cipherFor_encrypts_nothing P packet.sequenceNumber cipher
        unfold RotatingPacketCipher.decrypt
        rw [wp_bind, wp]
        generalize RotatingPacketCipher.cipherFor P packet.sequenceNumber cipher = o at hnone
        rcases o with ⟨e | keys, c, t⟩
        · exact hnone
        · change aesCalls (t ++ _) = []
          rw [aesCalls_append, show aesCalls t = [] from hnone, List.nil_append]
          exact hkeys _ keys c
      exact h

end ciphers

/-! ## Encryptions and uses of the counters -/

/-- No owner encrypts two different packets under one nonce. -/
def ReusesNoNonce {κ : Type} (log : List (κ × AesCall)) : Prop :=
  ∀ e ∈ log, ∀ e' ∈ log, e.1 = e'.1 → e.2.nonce = e'.2.nonce →
    e.2.plaintext = e'.2.plaintext ∧ e.2.header = e'.2.header

instance {κ : Type} [DecidableEq κ] (log : List (κ × AesCall)) : Decidable (ReusesNoNonce log) :=
  inferInstanceAs (Decidable (∀ e ∈ log, ∀ e' ∈ log, e.1 = e'.1 → e.2.nonce = e'.2.nonce →
    e.2.plaintext = e'.2.plaintext ∧ e.2.header = e'.2.header))

/-- The use takes a packet that can be encrypted, with its number, in the session with this id. -/
structure Carries {κ : Type} (sessionId : ℕ) (u : Use κ Packet) : Prop where
  sendable : u.content.Sendable
  number : u.content.sequenceNumber = u.number
  session : u.content.sessionId = sessionId

/-- **From packets to nonces.** Encryptions of numbered packets reuse no nonce exactly when every
packet whose send failed is the next one of its owner. -/
theorem reusesNoNonce_iff {κ κ' : Type} [DecidableEq κ] (tag : κ → κ') (sid : κ → ℕ)
    (htag : Function.Injective tag) {log : List (κ' × AesCall)} {uses : List (Use κ Packet)}
    {start : κ → ℕ} (hcounts : Counts start uses)
    (hcarries : ∀ u ∈ uses, Carries (sid u.owner) u)
    (hlog : log.map (fun e => (e.1, e.2.inputs))
      = uses.map fun u => (tag u.owner, u.content.aesInputs)) :
    ReusesNoNonce log ↔ RepeatsFailed uses := by
  rw [← oncePerNumber_iff uses hcounts]
  constructor
  · intro hlogged u hu v hv howner hnumber
    have hfind : ∀ w ∈ uses, ∃ e ∈ log, (e.1, e.2.inputs) = (tag w.owner, w.content.aesInputs) := by
      intro w hw
      have hmem := List.mem_map_of_mem (f := fun u => (tag u.owner, u.content.aesInputs)) hw
      rw [← hlog] at hmem
      exact List.mem_map.1 hmem
    obtain ⟨e, he, heu⟩ := hfind u hu
    obtain ⟨e', he', hev⟩ := hfind v hv
    obtain ⟨htag1, hin1⟩ := Prod.mk.inj heu
    obtain ⟨htag2, hin2⟩ := Prod.mk.inj hev
    obtain ⟨hn1, hp1, hh1⟩ : e.2.nonce = nonceBytes u.content ∧ e.2.plaintext = u.content.payload ∧
        e.2.header = headerBytes u.content (u.content.payload.length + aesGcmTagSize) := by
      simpa [AesCall.inputs, Packet.aesInputs] using hin1
    obtain ⟨hn2, hp2, hh2⟩ : e'.2.nonce = nonceBytes v.content ∧
        e'.2.plaintext = v.content.payload ∧
        e'.2.header = headerBytes v.content (v.content.payload.length + aesGcmTagSize) := by
      simpa [AesCall.inputs, Packet.aesInputs] using hin2
    have hcu := hcarries u hu
    have hcv := hcarries v hv
    have hnonce : e.2.nonce = e'.2.nonce := by
      rw [hn1, hn2, nonceBytes, nonceBytes, hcu.number, hcv.number, hcu.session, hcv.session,
        hnumber, howner]
    obtain ⟨hplain, hheader⟩ := hlogged e he e' he' (by rw [htag1, htag2, howner]) hnonce
    rw [hp1, hp2] at hplain
    rw [hh1, hh2, hplain] at hheader
    have hsize : v.content.payload.length + aesGcmTagSize < 2 ^ 16 := by
      have := hcv.sendable.2
      simp only [maxPayloadSize, maxUdpDatagramSize, headerSize, aesGcmTagSize] at this ⊢
      omega
    obtain ⟨ht, hs, hn, -⟩ := headerBytes_inj hcu.sendable.1 hcv.sendable.1 hsize hsize hheader
    obtain ⟨_, _, p, _⟩ := u
    obtain ⟨_, _, q, _⟩ := v
    cases p
    cases q
    simp only at ht hs hn hplain ⊢
    rw [ht, hs, hn, hplain]
  · intro honce e he e' he' howner hnonce
    have hfind : ∀ x ∈ log, ∃ u ∈ uses, (tag u.owner, u.content.aesInputs) = (x.1, x.2.inputs) := by
      intro x hx
      have hmem := List.mem_map_of_mem (f := fun e : κ' × AesCall => (e.1, e.2.inputs)) hx
      rw [hlog] at hmem
      exact List.mem_map.1 hmem
    obtain ⟨u, hu, hue⟩ := hfind e he
    obtain ⟨v, hv, hve⟩ := hfind e' he'
    obtain ⟨htag1, hin1⟩ := Prod.mk.inj hue
    obtain ⟨htag2, hin2⟩ := Prod.mk.inj hve
    have hsame : u.owner = v.owner := htag (by rw [htag1, htag2, howner])
    have hnu : nonceBytes u.content = nonceBytes v.content := by
      have h1 : nonceBytes u.content = e.2.nonce := congrArg Prod.fst hin1
      have h2 : nonceBytes v.content = e'.2.nonce := congrArg Prod.fst hin2
      rw [h1, h2, hnonce]
    obtain ⟨-, hn⟩ := nonceBytes_inj (hcarries u hu).sendable.1 (hcarries v hv).sendable.1 hnu
    rw [(hcarries u hu).number, (hcarries v hv).number] at hn
    have hcontent := honce u hu v hv hsame hn
    rw [hcontent, hin2] at hin1
    have hrest : (e'.2.plaintext, e'.2.header) = (e.2.plaintext, e.2.header) :=
      congrArg Prod.snd hin1
    obtain ⟨h1, h2⟩ := Prod.mk.inj hrest
    exact ⟨h1.symm, h2.symm⟩

/-! ## The multi-client engine -/

namespace MultiClientServerEngine

variable {P : Primitives}

/-- A session object that a caller gives to the engine: a new one, with a cipher of its own, or
one that the engine was given before. -/
inductive SessionArgument where
  | new (session : ClientSession)
  | again (ref : ℕ)

/-- `add_session` of either object. -/
def SessionArgument.add {τ ν : Type} :
    SessionArgument → Program PyError (ServerEffect τ ν) MultiClientServerEngine Unit
  | new session => addSession session
  | again ref => addObject ref

/-- `replace_session` of either object. -/
def SessionArgument.replace {τ ν : Type} :
    SessionArgument → Program PyError (ServerEffect τ ν) MultiClientServerEngine Unit
  | new session => replaceSession session
  | again ref => replaceObject ref

/-- A call that is given new and known session objects. -/
abbrev ObjectCall : Type := EngineCall SessionArgument

/-- Run a call. -/
def ObjectCall.run (P : Primitives) (call : ObjectCall) :
    Program PyError (ServerEffect Unit Acceptance) MultiClientServerEngine Unit :=
  EngineCall.run P SessionArgument.add SessionArgument.replace call

/-- The session object that a TUN packet belongs to. -/
def routeOf (engine : MultiClientServerEngine) : ObjectCall → Option ℕ
  | .handleTunPacket payload _ => do
      let destination ← (ipv4Destination payload).toOption
      engine.routes.get? destination
  | _ => none

/-- The packet that an operation numbers and encrypts, if it can be encrypted. -/
def use? (engine : MultiClientServerEngine) (call : ObjectCall) : Option (Use ℕ Packet) :=
  match call with
  | .handleTunPacket payload failure => do
      let ref ← engine.routeOf call
      let s ← engine.session? ref
      if (nextPacket s payload).Sendable then
        some ⟨ref, s.sendSequence, nextPacket s payload, failure.isNone⟩
      else none
  | _ => none

/-- The uses of the counters in a sequence of operations; an operation that raises is followed by
the next one. -/
def uses (P : Primitives) : MultiClientServerEngine → List ObjectCall → List (Use ℕ Packet)
  | _, [] => []
  | engine, call :: calls =>
      (engine.use? call).toList ++ uses P (call.run P engine).state calls

/-- The AES-GCM encryptions of a sequence of operations, with the session objects whose ciphers
make them. -/
def encryptions (P : Primitives) :
    MultiClientServerEngine → List ObjectCall → List (Option ℕ × AesCall)
  | _, [] => []
  | engine, call :: calls =>
      (aesCalls (cryptoCalls (effects (call.run P engine).trace))).map
          (fun c => (engine.routeOf call, c)) ++
        encryptions P (call.run P engine).state calls

/-- The objects are still there with their session ids, and their counters have moved as these
uses say. -/
def Moved (engine engine' : MultiClientServerEngine) (l : List (Use ℕ Packet)) : Prop :=
  ∀ ref s, engine.session? ref = some s → ∃ s', engine'.session? ref = some s' ∧
    s'.sessionId = s.sessionId ∧ s'.sendSequence = s.sendSequence + moves l ref

theorem Moved.refl (engine : MultiClientServerEngine) : Moved engine engine [] :=
  fun _ s hs => ⟨s, hs, rfl, rfl⟩

theorem Moved.trans {e e' e'' : MultiClientServerEngine} {l l' : List (Use ℕ Packet)}
    (h : Moved e e' l) (h' : Moved e' e'' l') : Moved e e'' (l ++ l') := by
  intro ref s hs
  obtain ⟨s', hs', hid, hn⟩ := h ref s hs
  obtain ⟨s'', hs'', hid', hn'⟩ := h' ref s' hs'
  refine ⟨s'', hs'', hid'.trans hid, ?_⟩
  rw [hn', hn, moves_append, Nat.add_assoc]

/-- The same objects. -/
theorem moved_of_objects {engine engine' : MultiClientServerEngine}
    (h : engine'.objects = engine.objects) : Moved engine engine' [] := by
  intro ref s hs
  refine ⟨s, ?_, rfl, rfl⟩
  rw [session?, h]
  exact hs

/-- A change of one object that leaves its session id and its counter. -/
theorem moved_modifySession (engine : MultiClientServerEngine) (ref : ℕ)
    {f : ClientSession → ClientSession} (hid : ∀ s, (f s).sessionId = s.sessionId)
    (hn : ∀ s, (f s).sendSequence = s.sendSequence) :
    Moved engine (engine.modifySession ref f) [] := by
  intro ref' s hs
  rw [session?_modifySession, hs]
  by_cases href : ref = ref'
  · rw [if_pos href]
    exact ⟨f s, rfl, hid s, hn s⟩
  · rw [if_neg href]
    exact ⟨s, rfl, rfl, rfl⟩

/-- A use that fails moves no counter. -/
theorem moved_of_failed (engine : MultiClientServerEngine) {u : Use ℕ Packet}
    (hu : u.succeeded = false) : Moved engine engine [u] := by
  intro ref s hs
  refine ⟨s, hs, rfl, ?_⟩
  rw [moves_singleton, hu, if_neg (by simp)]
  rfl

/-- A use that succeeds moves the counter of its object. -/
theorem moved_of_succeeded (engine : MultiClientServerEngine) {u : Use ℕ Packet}
    (hu : u.succeeded = true) :
    Moved engine (engine.modifySession u.owner fun s =>
      { s with sendSequence := s.sendSequence + 1 }) [u] := by
  intro ref s hs
  rw [session?_modifySession, hs, moves_singleton, hu]
  by_cases href : u.owner = ref
  · rw [if_pos href, if_pos ⟨href, rfl⟩]
    exact ⟨_, rfl, rfl, rfl⟩
  · rw [if_neg href, if_neg fun h => href h.1]
    exact ⟨s, rfl, rfl, rfl⟩

/-- No counter moves and nothing is encrypted. -/
def Quiet (start engine : MultiClientServerEngine) (t : ServerTrace Unit) : Prop :=
  Moved start engine [] ∧ aesCalls (cryptoCalls (effects t)) = []

section quiet

variable {start : MultiClientServerEngine}

/-- A change of the engine that moves no counter. -/
theorem quiet_update {f : MultiClientServerEngine → MultiClientServerEngine}
    (hf : ∀ engine, Moved engine (f engine) []) :
    Preserves (Quiet start) (Quiet start) (update f : Program PyError _ _ Unit) :=
  Preserves.update fun engine _ h => ⟨h.1.trans (hf engine), h.2⟩

/-- The tables do not hold the counters. -/
theorem quiet_tables {f : MultiClientServerEngine → MultiClientServerEngine}
    (hf : ∀ engine, (f engine).objects = engine.objects) :
    Preserves (Quiet start) (Quiet start) (update f : Program PyError _ _ Unit) :=
  quiet_update fun engine => moved_of_objects (hf engine)

theorem quiet_deref (ref : ℕ) : Preserves (Quiet start) (Quiet start) (deref ref) := by
  unfold deref
  refine Preserves.bind Preserves.read fun self => ?_
  cases self.session? ref with
  | none => exact Preserves.raise (fun _ _ h => h) _
  | some s => exact Preserves.pure s

theorem quiet_addWith (session : ClientSession)
    {install : MultiClientServerEngine → MultiClientServerEngine}
    (hinstall : ∀ engine, Moved engine (install engine) []) :
    Preserves (Quiet start) (Quiet start) (addWith session install) := by
  unfold addWith
  refine Preserves.bind Preserves.read fun self => ?_
  refine Preserves.ite _ (Preserves.raise (fun _ _ h => h) _) ?_
  exact Preserves.ite _ (Preserves.raise (fun _ _ h => h) _) (quiet_update hinstall)

theorem quiet_addSession (session : ClientSession) :
    Preserves (Quiet start) (Quiet start) (addSession session) := by
  refine quiet_addWith session fun engine ref s hs => ⟨s, ?_, rfl, rfl⟩
  rw [session?, List.getElem?_append_left (List.getElem?_eq_some_iff.1 hs).1]
  exact hs

theorem quiet_addObject (ref : ℕ) : Preserves (Quiet start) (Quiet start) (addObject ref) := by
  unfold addObject
  refine Preserves.bind (quiet_deref ref) fun session => ?_
  exact quiet_addWith session fun engine => moved_of_objects rfl

theorem quiet_removeSession (remoteAddress : Address) (sessionId : ℕ) :
    Preserves (Quiet start) (Quiet start) (removeSession remoteAddress sessionId) := by
  unfold removeSession
  refine Preserves.bind Preserves.read fun self => ?_
  cases self.sessions.get? (remoteAddress, sessionId) with
  | none => exact Preserves.raise (fun _ _ h => h) _
  | some ref =>
      refine Preserves.bind (quiet_tables fun _ => rfl) fun _ => ?_
      exact Preserves.bind (quiet_deref ref) fun _ => quiet_tables fun _ => rfl

theorem quiet_replaceWith (tunnelAddress : IPv4Address)
    {add : Program PyError (ServerEffect Unit Acceptance) MultiClientServerEngine Unit}
    (hadd : Preserves (Quiet start) (Quiet start) add) :
    Preserves (Quiet start) (Quiet start) (replaceWith tunnelAddress add) := by
  unfold replaceWith
  refine Preserves.bind Preserves.read fun self => ?_
  cases self.routes.get? tunnelAddress with
  | none => exact hadd
  | some ref =>
      refine Preserves.bind (quiet_deref ref) fun existing => ?_
      exact Preserves.bind (quiet_removeSession _ _) fun _ => hadd

theorem quiet_replaceObject (ref : ℕ) :
    Preserves (Quiet start) (Quiet start) (replaceObject ref) := by
  unfold replaceObject
  refine Preserves.bind (quiet_deref ref) fun session => ?_
  exact quiet_replaceWith session.tunnelAddress (quiet_addObject ref)

/-- A session object is added or replaces another one. -/
theorem quiet_argument (argument : SessionArgument) :
    Preserves (Quiet start) (Quiet start) argument.add ∧
      Preserves (Quiet start) (Quiet start) argument.replace := by
  cases argument with
  | new session =>
      exact ⟨quiet_addSession session, quiet_replaceWith _ (quiet_addSession session)⟩
  | again ref => exact ⟨quiet_addObject ref, quiet_replaceObject ref⟩

/-- Decrypting with a session's cipher moves no counter. -/
theorem quiet_decrypt (ref : ℕ) (cipher : Cipher) (packet : Packet) :
    Preserves (Quiet start) (Quiet start) (attempt (onCipher ref cipher
      (Cipher.decrypt P packet))) := by
  rw [preserves_self_iff]
  intro engine t h
  rw [wp_attempt, onCipher, wp_zoom, wp]
  refine ⟨h.1.trans (moved_modifySession engine ref (fun _ => rfl) fun _ => rfl), ?_⟩
  rw [effects_append, cryptoCalls_append, aesCalls_append, h.2, List.nil_append, effects_calls,
    cryptoCalls_map_crypto]
  exact decrypt_encrypts_nothing P packet cipher

theorem quiet_deliver (ref : ℕ) (session : ClientSession) (n : ℕ) (decrypted : Packet)
    (answer : Bytes → Except PyError ℕ) :
    Preserves (Quiet start) (Quiet start) (deliver ref session n decrypted answer) := by
  have hkeep : ∀ engine t, Quiet start engine t → Quiet start engine t := fun _ _ h => h
  have hemit : ∀ w : ServerEffect Unit Acceptance, aesCalls (cryptoCalls (effects [w])) = [] →
      Preserves (Quiet start) (Quiet start) (emit w : Program PyError _ _ Unit) := by
    intro w hw
    refine Preserves.emit fun engine t h => ⟨h.1, ?_⟩
    rw [effects_append, cryptoCalls_append, aesCalls_append, h.2, hw]
    rfl
  unfold deliver
  cases ipv4Source decrypted.payload with
  | error e => exact Preserves.ite _ (Preserves.pure _) (Preserves.raise hkeep e)
  | ok source =>
      refine Preserves.ite _ (Preserves.pure _) ?_
      refine Preserves.bind (Preserves.ofExcept hkeep _) fun window => ?_
      refine Preserves.bind (quiet_update fun engine => ?_) fun _ => ?_
      · exact moved_modifySession engine ref (fun _ => rfl) fun _ => rfl
      refine Preserves.bind (hemit _ rfl) fun _ => ?_
      refine Preserves.bind ?_ fun written =>
        Preserves.ite _ (Preserves.raise hkeep _) (Preserves.pure _)
      rw [preserves_self_iff]
      intro engine t h
      rw [wp_lift, tunWrite, wp_emit_bind, wp_ofExcept]
      refine ⟨h.1, ?_⟩
      rw [effects_append, cryptoCalls_append, aesCalls_append, h.2]
      rfl

theorem quiet_handleUdpPacket (packet : Packet) (remoteAddress : Address)
    (answer : Bytes → Except PyError ℕ) :
    Preserves (Quiet start) (Quiet start) (handleUdpPacket P packet remoteAddress answer) := by
  have hkeep : ∀ engine t, Quiet start engine t → Quiet start engine t := fun _ _ h => h
  unfold handleUdpPacket
  refine Preserves.bind Preserves.read fun self => ?_
  cases self.sessions.get? (remoteAddress, packet.sessionId) with
  | none => exact Preserves.pure _
  | some ref =>
      refine Preserves.ite _ (Preserves.pure _) (Preserves.bind (quiet_deref ref) fun s => ?_)
      refine Preserves.ite _ (Preserves.pure _) ?_
      refine Preserves.bind (quiet_decrypt ref s.cipher packet) fun r => ?_
      cases r with
      | error e => cases e <;> first | exact Preserves.pure _ | exact Preserves.raise hkeep _
      | ok decrypted => exact quiet_deliver ref s _ decrypted answer

end quiet

/-! ### One operation -/

/-- What an operation encrypts, and how the counters move. -/
def CallEnds (engine engine' : MultiClientServerEngine) (route : Option ℕ)
    (use : Option (Use ℕ Packet)) (t : ServerTrace Unit) : Prop :=
  match use with
  | none => Quiet engine engine' t
  | some u => Moved engine engine' [u] ∧ route = some u.owner ∧
      (∃ s, engine.session? u.owner = some s ∧ s.sendSequence = u.number ∧
        Carries s.sessionId u) ∧
      ∃ call : AesCall, call.inputs = u.content.aesInputs ∧
        aesCalls (cryptoCalls (effects t)) = [call]

/-- **`handle_tun_packet`, with any ciphers.** -/
theorem handleTunPacket_ends (hA : P.LawfulAead) (hH : P.LawfulHkdf)
    (engine : MultiClientServerEngine) (payload : Bytes) (failure : Option PyError) :
    wp (handleTunPacket P payload failure : Program PyError (ServerEffect Unit Acceptance) _ Bool)
      engine (fun _ engine' t => CallEnds engine engine'
        (engine.routeOf (.handleTunPacket payload failure))
        (engine.use? (.handleTunPacket payload failure)) t) := by
  -- nothing happens when there is no use
  have hquiet : engine.use? (.handleTunPacket payload failure) = none →
      CallEnds engine engine (engine.routeOf (.handleTunPacket payload failure))
        (engine.use? (.handleTunPacket payload failure)) [] := by
    intro hnone
    rw [hnone]
    exact ⟨.refl engine, rfl⟩
  unfold handleTunPacket
  cases hdestination : ipv4Destination payload with
  | error e =>
      simp only
      rw [if_pos (ipv4_error (Or.inr hdestination))]
      exact hquiet (by simp [use?, routeOf, hdestination, Except.toOption])
  | ok destination =>
  simp only
  rw [wp_read_bind]
  cases hget : engine.routes.get? destination with
  | none => exact hquiet (by simp [use?, routeOf, hdestination, Except.toOption, hget])
  | some ref =>
  simp only
  have hroute : engine.routeOf (.handleTunPacket payload failure) = some ref := by
    simp [routeOf, hdestination, Except.toOption, hget]
  cases hs : engine.session? ref with
  | none =>
      rw [wp_bind, deref, wp_read_bind, hs]
      exact hquiet (by simp [use?, hroute, hs])
  | some s =>
  rw [deref_of_session? hs]
  have huse : engine.use? (.handleTunPacket payload failure)
      = if (nextPacket s payload).Sendable then
          some ⟨ref, s.sendSequence, nextPacket s payload, failure.isNone⟩ else none := by
    simp [use?, hroute, hs]
  rw [hroute, huse]
  by_cases hmax : s.sendSequence > maxSequenceNumber
  · have hnot : ¬ (nextPacket s payload).Sendable := by
      intro h
      have hn : s.sendSequence < 2 ^ 64 := h.1.2
      simp only [maxSequenceNumber] at hmax
      omega
    rw [if_pos hmax, if_neg hnot]
    exact ⟨.refl engine, rfl⟩
  rw [if_neg hmax, wp_bind, onCipher, wp_zoom]
  refine wp_mono (encrypt_ends hA hH s.cipher (nextPacket s payload)) ?_
  intro r c calls hends
  have hcipher : Moved engine (engine.modifySession ref fun s => { s with cipher := c }) [] :=
    moved_modifySession engine ref (fun _ => rfl) fun _ => rfl
  have haes : aesCalls (cryptoCalls (effects (calls.map fun call => .effect (.crypto call) :
      ServerTrace Unit))) = aesCalls calls := by
    rw [effects_calls, cryptoCalls_map_crypto]
  by_cases hsendable : (nextPacket s payload).Sendable
  swap
  · -- nothing is encrypted
    rw [if_neg hsendable] at hends
    obtain ⟨hnone, e, rfl⟩ := hends
    rw [if_neg hsendable]
    exact ⟨hcipher, haes.trans hnone⟩
  -- the packet is encrypted, and the counter moves when it is sent
  rw [if_pos hsendable] at hends
  obtain ⟨call, sealed, hinputs, hcall, rfl, hencodable⟩ := hends
  obtain ⟨data, hdata⟩ := Packet.encode_of_encodable hencodable
  have hcarries : ∃ s', engine.session? ref = some s' ∧ s'.sendSequence = s.sendSequence ∧
      Carries s'.sessionId (⟨ref, s.sendSequence, nextPacket s payload, failure.isNone⟩ :
        Use ℕ Packet) := ⟨s, hs, rfl, hsendable, rfl, rfl⟩
  rw [if_pos hsendable]
  simp only
  rw [wp_bind, wp_lift, wp]
  cases failure with
  | some e =>
      rw [transportSend_failed hdata]
      refine ⟨hcipher.trans (moved_of_failed _ rfl), rfl, hcarries, call, hinputs, ?_⟩
      rw [List.map_nil, List.append_nil, haes, hcall]
  | none =>
      rw [transportSend_of_encode hdata]
      simp only
      rw [wp_update_bind, wp_pure]
      have hsent := moved_of_succeeded (engine.modifySession ref fun s => { s with cipher := c })
        (u := ⟨ref, s.sendSequence, nextPacket s payload, true⟩) rfl
      refine ⟨hcipher.trans hsent, rfl, hcarries, call, hinputs, ?_⟩
      simp [hcall]

/-- **One operation.** -/
theorem call_ends (hA : P.LawfulAead) (hH : P.LawfulHkdf) (engine : MultiClientServerEngine)
    (call : ObjectCall) :
    wp (call.run P) engine (fun _ engine' t =>
      CallEnds engine engine' (engine.routeOf call) (engine.use? call) t) := by
  have hquiet : ∀ {α : Type} {m : Program PyError (ServerEffect Unit Acceptance)
      MultiClientServerEngine α}, Preserves (Quiet engine) (Quiet engine) m →
      wp m engine (fun _ engine' t => Quiet engine engine' t) := by
    intro α m hm
    refine wp_mono (preserves_self_iff.1 hm engine [] ⟨.refl engine, rfl⟩) ?_
    exact fun _ _ _ h => h
  cases call with
  | addSession argument => exact hquiet (quiet_argument argument).1
  | replaceSession argument => exact hquiet (quiet_argument argument).2
  | removeSession remoteAddress sessionId =>
      exact hquiet (quiet_removeSession remoteAddress sessionId)
  | handleTunPacket payload failure =>
      refine (wp_bind_pure fun _ => ()).2 ?_
      exact handleTunPacket_ends hA hH engine payload failure
  | handleUdpPacket packet remoteAddress answer =>
      refine (wp_bind_pure fun _ => ()).2 ?_
      exact hquiet (quiet_handleUdpPacket packet remoteAddress answer)

/-! ### Sequences of operations -/

/-- **The numbers of all packets** come from counters that move when the send succeeded. -/
theorem numbering_run (hA : P.LawfulAead) (hH : P.LawfulHkdf) (engine : MultiClientServerEngine)
    (calls : List ObjectCall) :
    ∃ start sid : ℕ → ℕ,
      (∀ ref s, engine.session? ref = some s → start ref = s.sendSequence ∧
        sid ref = s.sessionId) ∧
      Counts start (uses P engine calls) ∧
      (∀ u ∈ uses P engine calls, Carries (sid u.owner) u) ∧
      (encryptions P engine calls).map (fun e => (e.1, e.2.inputs))
        = (uses P engine calls).map fun u => (some u.owner, u.content.aesInputs) := by
  induction calls generalizing engine with
  | nil =>
      refine ⟨fun ref => ((engine.session? ref).map ClientSession.sendSequence).getD 0,
        fun ref => ((engine.session? ref).map ClientSession.sessionId).getD 0, ?_, counts_nil _,
        nofun, rfl⟩
      intro ref s hs
      simp only [hs]
      exact ⟨rfl, rfl⟩
  | cons call calls ih =>
      obtain ⟨start', sid', hfirst, hcounts, hcarries, hlog⟩ := ih (call.run P engine).state
      have hends := call_ends hA hH engine call
      rw [wp] at hends
      rw [uses, encryptions]
      cases huse : engine.use? call with
      | none =>
          rw [huse] at hends
          obtain ⟨hmoved, hnone⟩ := hends
          refine ⟨start', sid', ?_, ?_, ?_, ?_⟩
          · intro ref s hs
            obtain ⟨s', hs', hid, hn⟩ := hmoved ref s hs
            obtain ⟨hstart, hsid⟩ := hfirst ref s' hs'
            exact ⟨hstart.trans hn, hsid.trans hid⟩
          · exact hcounts
          · exact hcarries
          · rw [hnone]
            exact hlog
      | some u =>
          rw [huse] at hends
          obtain ⟨hmoved, hroute, ⟨s₀, hs₀, hn₀, hcarries₀⟩, c, hinputs, haes⟩ := hends
          -- the counters before the operation
          refine ⟨fun ref => start' ref - moves [u] ref, sid', ?_, ?_, ?_, ?_⟩
          · intro ref s hs
            obtain ⟨s', hs', hid, hn⟩ := hmoved ref s hs
            obtain ⟨hstart, hsid⟩ := hfirst ref s' hs'
            refine ⟨?_, hsid.trans hid⟩
            simp only
            rw [hstart, hn, Nat.add_sub_cancel]
          · obtain ⟨s', hs', hid, hn⟩ := hmoved u.owner s₀ hs₀
            have howner : start' u.owner = u.number + moves [u] u.owner := by
              rw [(hfirst u.owner s' hs').1, hn, hn₀]
            refine (counts_singleton ?_).append hcounts fun k => ?_
            · rw [howner, Nat.add_sub_cancel]
            · by_cases hk : k = u.owner
              · rw [hk, howner]
                omega
              · rw [moves_singleton, if_neg fun h => hk h.1.symm, Nat.sub_zero, Nat.add_zero]
          · intro v hv
            rcases List.mem_append.1 hv with hv | hv
            · obtain rfl : v = u := List.mem_singleton.1 hv
              obtain ⟨s', hs', hid, -⟩ := hmoved v.owner s₀ hs₀
              rw [(hfirst v.owner s' hs').2, hid]
              exact hcarries₀
            · exact hcarries v hv
          · rw [haes, hroute, List.map_append, List.map_append, hlog]
            simp [hinputs]

end MultiClientServerEngine

/-! ## The point-to-point engine -/

namespace TunnelEngine

variable {τ : Type} {P : Primitives}

/-- The packet that `_send_packet` numbers and encrypts, if it can be encrypted. -/
def use? (engine : TunnelEngine τ) (messageType : MessageType) (payload : Bytes)
    (failure : Option PyError) : Option (Use Unit Packet) :=
  if engine.cipher.isSome ∧ (engine.nextPacket messageType payload).Sendable then
    some ⟨(), engine.sequenceNumber, engine.nextPacket messageType payload, failure.isNone⟩
  else none

/-- What the TUN half of an iteration numbers and encrypts. -/
def tunUses (input : IterationInput τ) (engine : TunnelEngine τ) : List (Use Unit Packet) :=
  match input.tunRead with
  | some (.ok payload) => (engine.use? .data payload input.tunSendFailure).toList
  | _ => []

/-- The engine has moved its counter as these uses say, and these are their encryptions; an engine
without a cipher has no uses. -/
structure Moved (engine engine' : TunnelEngine τ) (l : List (Use Unit Packet))
    (calls : List AesCall) : Prop where
  cipher : engine'.cipher.isSome = engine.cipher.isSome
  sessionId : engine'.sessionId = engine.sessionId
  numbers : engine.cipher.isSome = true →
    engine'.sequenceNumber = engine.sequenceNumber + moves l () ∧
      Counts (fun _ => engine.sequenceNumber) l
  silent : engine.cipher.isSome = false → l = []
  carries : ∀ u ∈ l, Carries engine.sessionId u
  calls_eq : calls.map AesCall.inputs = l.map fun u => u.content.aesInputs

theorem Moved.refl (engine : TunnelEngine τ) : Moved engine engine [] [] :=
  ⟨rfl, rfl, fun _ => ⟨rfl, counts_nil _⟩, fun _ => rfl, nofun, rfl⟩

/-- Nothing that an engine counts with changed. -/
theorem moved_of_same {engine engine' : TunnelEngine τ}
    (hcipher : engine'.cipher.isSome = engine.cipher.isSome)
    (hid : engine'.sessionId = engine.sessionId)
    (hn : engine'.sequenceNumber = engine.sequenceNumber) : Moved engine engine' [] [] :=
  ⟨hcipher, hid, fun _ => ⟨hn, counts_nil _⟩, fun _ => rfl, nofun, rfl⟩

theorem Moved.trans {e e' e'' : TunnelEngine τ} {l l' : List (Use Unit Packet)}
    {calls calls' : List AesCall} (h : Moved e e' l calls) (h' : Moved e' e'' l' calls') :
    Moved e e'' (l ++ l') (calls ++ calls') where
  cipher := h'.cipher.trans h.cipher
  sessionId := h'.sessionId.trans h.sessionId
  numbers hcipher := by
    obtain ⟨hn, hcounts⟩ := h.numbers hcipher
    obtain ⟨hn', hcounts'⟩ := h'.numbers (h.cipher.trans hcipher)
    exact ⟨by rw [hn', hn, moves_append, Nat.add_assoc], hcounts.append hcounts' fun _ => hn⟩
  silent hcipher := by rw [h.silent hcipher, h'.silent (h.cipher.trans hcipher), List.append_nil]
  carries u hu := by
    rcases List.mem_append.1 hu with hu | hu
    · exact h.carries u hu
    · rw [← h.sessionId]
      exact h'.carries u hu
  calls_eq := by rw [List.map_append, List.map_append, h.calls_eq, h'.calls_eq]

/-- An engine without a cipher may count as it likes. -/
theorem moved_of_plain {engine engine' : TunnelEngine τ} (hcipher : engine.cipher = none)
    (hcipher' : engine'.cipher = none) (hid : engine'.sessionId = engine.sessionId) :
    Moved engine engine' [] [] := by
  refine ⟨?_, hid, fun h => ?_, fun _ => rfl, fun _ h => ?_, rfl⟩
  · rw [hcipher, hcipher']
  · rw [hcipher] at h
    cases h
  · cases h

/-- One use, and its encryption. -/
theorem moved_of_use {engine engine' : TunnelEngine τ} (hcipher : engine.cipher.isSome = true)
    (hcipher' : engine'.cipher.isSome = true) (hid : engine'.sessionId = engine.sessionId)
    {u : Use Unit Packet} (hu : Carries engine.sessionId u)
    (hnumber : u.number = engine.sequenceNumber)
    (hn : engine'.sequenceNumber = engine.sequenceNumber + if u.succeeded then 1 else 0)
    {call : AesCall} (hcall : call.inputs = u.content.aesInputs) :
    Moved engine engine' [u] [call] := by
  refine ⟨?_, hid, fun _ => ⟨?_, counts_singleton hnumber⟩, fun h => ?_, ?_, ?_⟩
  · rw [hcipher, hcipher']
  · rw [hn, moves_singleton]
    simp only [true_and]
  · rw [hcipher] at h
    cases h
  · intro v hv
    rw [List.mem_singleton.1 hv]
    exact hu
  · rw [List.map_singleton, List.map_singleton, hcall]

/-- Without a cipher nothing is encrypted. -/
theorem sendPlain_ends {engine : TunnelEngine τ} (hcipher : engine.cipher = none) (packet : Packet)
    (failure : Option PyError) :
    wp (do
      transportSend packet packet engine.remoteAddress failure
      update fun self => { self with sequenceNumber := self.sequenceNumber + 1 } :
        Program PyError (Effect τ) (TunnelEngine τ) Unit)
      engine fun _ engine' t => Moved engine engine' [] (aesCalls (cryptoCalls t)) := by
  rw [wp_bind, transportSend, wp_bind, wp_ofExcept]
  cases packet.encode with
  | error e => exact .refl engine
  | ok data =>
      cases failure with
      | some e => exact .refl engine
      | none => exact moved_of_plain hcipher hcipher rfl

/-- **`_send_packet`, with any cipher.** -/
theorem sendPacket_ends (hA : P.LawfulAead) (hH : P.LawfulHkdf) (engine : TunnelEngine τ)
    (messageType : MessageType) (payload : Bytes) (failure : Option PyError) :
    wp (sendPacket P messageType payload failure) engine (fun _ engine' t =>
      Moved engine engine' (engine.use? messageType payload failure).toList
        (aesCalls (cryptoCalls t))) := by
  -- nothing moves when there is no use
  have hquiet : engine.use? messageType payload failure = none → Moved engine engine
      (engine.use? messageType payload failure).toList [] := by
    intro hnone
    rw [hnone]
    exact .refl engine
  unfold sendPacket
  rw [wp_read_bind]
  by_cases hmax : engine.sequenceNumber > maxSequenceNumber
  · rw [if_pos hmax, wp_raise_bind]
    refine hquiet (if_neg fun h => ?_)
    have hn : engine.sequenceNumber < 2 ^ 64 := h.2.1.2
    simp only [maxSequenceNumber] at hmax
    omega
  rw [if_neg hmax]
  simp only
  rcases hcipher : engine.cipher with - | cipher
  · -- without a cipher nothing is encrypted
    have hnone : engine.use? messageType payload failure = none := by
      rw [use?, hcipher]
      exact if_neg (by simp)
    rw [hnone]
    simp only [wp_pure_bind]
    exact sendPlain_ends hcipher _ failure
  simp only
  rw [wp_bind, onCipher, wp_zoom]
  refine wp_mono (encrypt_ends hA hH cipher (engine.nextPacket messageType payload)) ?_
  intro r c calls hends
  have hsome : engine.cipher.isSome = true := by rw [hcipher]; rfl
  by_cases hsendable : (engine.nextPacket messageType payload).Sendable
  swap
  · rw [if_neg hsendable] at hends
    obtain ⟨hnone, e, rfl⟩ := hends
    have hcalls : aesCalls (cryptoCalls (calls.map Effect.crypto : List (Effect τ))) = [] := by
      rw [cryptoCalls_map_crypto, hnone]
    rw [use?, if_neg fun h => hsendable h.2]
    simp only [hcalls]
    exact moved_of_same hsome.symm rfl rfl
  -- the packet is encrypted, and the counter moves when it is sent
  rw [if_pos hsendable] at hends
  obtain ⟨call, sealed, hinputs, hcall, rfl, hencodable⟩ := hends
  obtain ⟨data, hdata⟩ := Packet.encode_of_encodable hencodable
  have huse : engine.use? messageType payload failure
      = some ⟨(), engine.sequenceNumber, engine.nextPacket messageType payload,
        failure.isNone⟩ := if_pos ⟨hsome, hsendable⟩
  rw [huse]
  simp only
  rw [wp_bind, wp]
  cases failure with
  | some e =>
      rw [transportSend_failed hdata]
      simp only [List.append_nil, cryptoCalls_map_crypto, hcall, Option.toList_some]
      apply moved_of_use hsome
      · rfl
      · rfl
      · exact ⟨hsendable, rfl, rfl⟩
      · rfl
      · rfl
      · exact hinputs
  | none =>
      rw [transportSend_of_encode hdata]
      simp only
      rw [wp_update]
      simp only [cryptoCalls_append, cryptoCalls_map_crypto, aesCalls_append, hcall,
        Option.toList_some]
      apply moved_of_use hsome
      · rfl
      · rfl
      · exact ⟨hsendable, rfl, rfl⟩
      · rfl
      · rfl
      · exact hinputs

/-- Nothing is encrypted and no counter moves. -/
def Quiet (start engine : TunnelEngine τ) (t : List (Effect τ)) : Prop :=
  Moved start engine [] (aesCalls (cryptoCalls t))

theorem quiet_emit {start : TunnelEngine τ} {w : Effect τ} (hw : cryptoCalls [w] = []) :
    Preserves (Quiet start) (Quiet start) (emit w : Program PyError _ _ Unit) := by
  refine Preserves.emit fun engine t h => ?_
  rw [Quiet, cryptoCalls_append, hw, List.append_nil]
  exact h

theorem quiet_deliver (start : TunnelEngine τ) (packet : Packet)
    (answer : Bytes → Except PyError ℕ) :
    Preserves (Quiet start) (Quiet start) (deliver packet answer) := by
  have hkeep : ∀ engine t, Quiet start engine t → Quiet start engine t := fun _ _ h => h
  unfold deliver
  refine Preserves.ite _ (Preserves.pure _) ?_
  refine Preserves.bind ?_ fun written =>
    Preserves.ite _ (Preserves.raise hkeep _) (Preserves.pure _)
  exact Preserves.bind (quiet_emit rfl) fun _ => Preserves.ofExcept hkeep _

/-- The replay check and the decryption move no counter of an engine with a cipher. -/
theorem quiet_authenticate {start : TunnelEngine τ} (hstart : start.cipher.isSome = true)
    (cipher : Cipher) (packet : Packet) (now : τ) :
    Preserves (Quiet start) (Quiet start) (authenticate P cipher packet now) := by
  have hkeep : ∀ engine t, Quiet start engine t → Quiet start engine t := fun _ _ h => h
  have hupdate : ∀ f : TunnelEngine τ → TunnelEngine τ, (∀ engine, Moved engine (f engine) [] []) →
      Preserves (Quiet start) (Quiet start) (update f : Program PyError (Effect τ) _ Unit) := by
    intro f hf
    refine Preserves.update fun engine t h => ?_
    have hmoved := h.trans (hf engine)
    rw [List.append_nil, List.append_nil] at hmoved
    exact hmoved
  unfold authenticate
  refine Preserves.bind Preserves.read fun self => Preserves.ite _ (Preserves.pure _) ?_
  refine Preserves.bind ?_ fun r => ?_
  · rw [preserves_self_iff]
    intro engine t h
    rw [wp_attempt, onCipher, wp_zoom, wp]
    rw [Quiet, cryptoCalls_append, cryptoCalls_map_crypto, aesCalls_append,
      decrypt_encrypts_nothing, List.append_nil]
    exact ⟨hstart.symm, h.sessionId, h.numbers, h.silent, h.carries, h.calls_eq⟩
  · cases r with
    | error e => cases e <;> first | exact Preserves.pure _ | exact Preserves.raise hkeep _
    | ok decrypted =>
        refine Preserves.bind (Preserves.ofExcept hkeep _) fun window => ?_
        refine Preserves.bind (hupdate _ fun _ => moved_of_same rfl rfl rfl) fun _ => ?_
        exact Preserves.bind (hupdate _ fun _ => moved_of_same rfl rfl rfl) fun _ =>
          Preserves.pure _

/-- A received datagram moves no counter. -/
theorem receiveUdpPacket_ends (engine : TunnelEngine τ)
    (arrival : Except PyError (Bytes × Address)) (input : IterationInput τ) :
    wp (receiveUdpPacket P arrival input) engine (fun _ engine' t =>
      Moved engine engine' [] (aesCalls (cryptoCalls t))) := by
  have hkeep : ∀ e t, Quiet engine e t → Quiet engine e t := fun _ _ h => h
  have haccept : ∀ packet source (h : List (Effect τ)), Quiet engine engine h →
      wp (acceptPacket P packet source input) engine
        (fun _ engine' t => Quiet engine engine' (h ++ t)) := by
    intro packet source h hquiet
    have hnothing : Quiet engine engine (h ++ []) := by
      rw [List.append_nil]
      exact hquiet
    unfold acceptPacket
    rw [wp_read_bind]
    by_cases hsource : source ≠ engine.remoteAddress
    · rw [if_pos hsource]
      exact hnothing
    rw [if_neg hsource]
    by_cases hid : packet.sessionId ≠ engine.sessionId
    · rw [if_pos hid]
      exact hnothing
    rw [if_neg hid]
    by_cases htype : ¬ (packet.messageType = .data ∨ packet.messageType = .keepalive)
    · rw [if_pos htype]
      exact hnothing
    rw [if_neg htype]
    rcases hcipher : engine.cipher with - | cipher
    · exact preserves_self_iff.1 (quiet_deliver engine packet input.tunWrite) engine h hquiet
    · have hsome : engine.cipher.isSome = true := by rw [hcipher]; rfl
      refine preserves_self_iff.1 (Preserves.bind (quiet_authenticate hsome cipher packet
        input.receiveClock) fun decrypted => ?_) engine h hquiet
      cases decrypted with
      | none => exact Preserves.pure _
      | some decrypted => exact quiet_deliver engine decrypted input.tunWrite
  cases arrival with
  | error e =>
      refine wp_mono (receiveUdpPacket_error e input engine) ?_
      rintro r engine' t ⟨rfl, rfl⟩
      exact .refl engine'
  | ok arrival =>
      obtain ⟨datagram, source⟩ := arrival
      unfold receiveUdpPacket
      rw [wp_bind, wp_attempt]
      refine wp_mono (transportReceive_spec datagram source engine) ?_
      rintro r engine' t ⟨rfl, rfl, rfl⟩
      cases hdecode : Packet.decode (datagram.take maxUdpDatagramSize) with
      | error e =>
          obtain ⟨message, rfl⟩ := Packet.decode_error hdecode
          exact .refl engine'
      | ok packet => exact haccept packet source _ (.refl engine')

/-- The TUN half of an iteration. -/
theorem forwardFromTun_ends (hA : P.LawfulAead) (hH : P.LawfulHkdf) (engine : TunnelEngine τ)
    (input : IterationInput τ) :
    wp (forwardFromTun P input) engine (fun _ engine' t =>
      Moved engine engine' (tunUses input engine) (aesCalls (cryptoCalls t))) := by
  unfold forwardFromTun tunUses
  cases input.tunRead with
  | none => exact .refl engine
  | some packet =>
      refine (wp_bind_pure fun _ => 1).2 ?_
      cases packet with
      | error e => exact .refl engine
      | ok payload => exact sendPacket_ends hA hH engine .data payload input.tunSendFailure

/-- The UDP half of an iteration. -/
theorem forwardFromUdp_ends (P : Primitives) (engine : TunnelEngine τ) (input : IterationInput τ) :
    wp (forwardFromUdp P input) engine (fun _ engine' t =>
      Moved engine engine' [] (aesCalls (cryptoCalls t))) := by
  unfold forwardFromUdp
  cases input.udpReceive with
  | none => exact .refl engine
  | some arrival =>
      refine (wp_bind_pure fun received : Bool => if received then 1 else 0).2 ?_
      exact receiveUdpPacket_ends engine arrival input

section iteration

variable [Zero τ] [Add τ] [Sub τ] [LT τ] [LE τ] [DecidableEq τ] [DecidableLT τ]
  [DecidableLE τ]

/-- What the timers of an iteration number and encrypt. -/
def timerUses (input : IterationInput τ) (engine : TunnelEngine τ) : List (Use Unit Packet) :=
  if engine.keepaliveInterval ≠ 0 ∧ engine.nextKeepalive ≤ input.loopClock then
    (engine.use? .keepalive [] input.keepaliveSendFailure).toList
  else []

/-- What an iteration numbers and encrypts. -/
def iterationUses (P : Primitives) (input : IterationInput τ) (engine : TunnelEngine τ) :
    List (Use Unit Packet) :=
  let afterTun := forwardFromTun P input engine
  let afterUdp := forwardFromUdp P input afterTun.state
  tunUses input engine ++
    match afterTun.result, afterUdp.result with
    | .ok _, .ok _ => timerUses input afterUdp.state
    | _, _ => []

/-- An iteration that raises is followed by the next one. -/
def uses (P : Primitives) : TunnelEngine τ → List (IterationInput τ × Option τ) →
    List (Use Unit Packet)
  | _, [] => []
  | engine, (input, timeout) :: inputs =>
      iterationUses P input engine ++ uses P (runOnce P input timeout engine).state inputs

/-- The AES-GCM encryptions of a sequence of iterations, all with the engine's cipher. -/
def encryptions (P : Primitives) : TunnelEngine τ → List (IterationInput τ × Option τ) →
    List (Unit × AesCall)
  | _, [] => []
  | engine, (input, timeout) :: inputs =>
      (aesCalls (cryptoCalls (runOnce P input timeout engine).trace)).map (fun c => ((), c)) ++
        encryptions P (runOnce P input timeout engine).state inputs

omit [LT τ] [DecidableLT τ] in
/-- The timers of an iteration. -/
theorem checkTimers_ends (hA : P.LawfulAead) (hH : P.LawfulHkdf) (engine : TunnelEngine τ)
    (input : IterationInput τ) :
    wp (checkTimers P input) engine (fun _ engine' t =>
      Moved engine engine' (timerUses input engine) (aesCalls (cryptoCalls t))) := by
  unfold timerUses
  rw [checkTimers_eq, wp_read_bind]
  by_cases hinterval : engine.keepaliveInterval ≠ 0
  swap
  · rw [if_neg hinterval, if_neg fun h => hinterval h.1]
    exact .refl engine
  rw [if_pos hinterval]
  by_cases hdue : engine.nextKeepalive ≤ input.loopClock
  · rw [if_pos hdue, if_pos ⟨hinterval, hdue⟩, wp_bind]
    refine wp_mono (sendPacket_ends hA hH engine .keepalive [] input.keepaliveSendFailure) ?_
    intro r engine' t hmoved
    cases r with
    | error e => exact hmoved
    | ok _ =>
        simp only
        rw [wp_update_bind]
        refine wp_mono (checkLiveness_spec _ input.loopClock) ?_
        rintro r engine'' t' ⟨rfl, rfl, -⟩
        rw [List.append_nil]
        exact ⟨hmoved.cipher, hmoved.sessionId, hmoved.numbers, hmoved.silent, hmoved.carries,
          hmoved.calls_eq⟩
  · rw [if_neg hdue, if_neg fun h => hdue h.2]
    refine wp_mono (checkLiveness_spec engine input.loopClock) ?_
    rintro r engine' t ⟨rfl, rfl, -⟩
    exact .refl engine'

/-- **One iteration.** -/
theorem runOnce_ends (hA : P.LawfulAead) (hH : P.LawfulHkdf) (engine : TunnelEngine τ)
    (input : IterationInput τ) (timeout : Option τ) :
    wp (runOnce P input timeout) engine (fun _ engine' t =>
      Moved engine engine' (iterationUses P input engine) (aesCalls (cryptoCalls t))) := by
  have htun := forwardFromTun_ends hA hH engine input
  unfold runOnce iterationUses
  rw [wp_read_bind, wp_emit_bind, wp_bind, wp]
  simp only
  rw [wp] at htun
  generalize forwardFromTun P input engine = o at htun
  rcases o with ⟨e | n, engine₁, t₁⟩
  · rw [List.append_nil]
    exact htun
  have hudp := forwardFromUdp_ends P engine₁ input
  simp only
  rw [wp_bind, wp]
  rw [wp] at hudp
  generalize forwardFromUdp P input engine₁ = o at hudp
  rcases o with ⟨e | m, engine₂, t₂⟩
  · have hmoved := htun.trans hudp
    rw [← aesCalls_append, ← cryptoCalls_append] at hmoved
    exact hmoved
  simp only
  rw [wp_bind]
  refine wp_mono (checkTimers_ends hA hH engine₂ input) ?_
  intro r engine₃ t₃ htimers
  have hmoved := (htun.trans hudp).trans htimers
  rw [← aesCalls_append, ← cryptoCalls_append, ← aesCalls_append, ← cryptoCalls_append,
    List.append_nil] at hmoved
  cases r with
  | error e => simpa using hmoved
  | ok _ => simpa using hmoved

/-! ### Sequences of iterations -/

/-- **The numbers of all packets** come from a counter that moves when the send succeeded. -/
theorem numbering_run (hA : P.LawfulAead) (hH : P.LawfulHkdf) (engine : TunnelEngine τ)
    (inputs : List (IterationInput τ × Option τ)) :
    ∃ engine', Moved engine engine' (uses P engine inputs)
      ((encryptions P engine inputs).map Prod.snd) := by
  induction inputs generalizing engine with
  | nil => exact ⟨engine, .refl engine⟩
  | cons input inputs ih =>
      obtain ⟨input, timeout⟩ := input
      obtain ⟨engine', hmoved⟩ := ih (runOnce P input timeout engine).state
      refine ⟨engine', ?_⟩
      have hfirst := runOnce_ends hA hH engine input timeout
      rw [wp] at hfirst
      have hall := hfirst.trans hmoved
      rw [uses, encryptions, List.map_append, List.map_map]
      rw [show (Prod.snd ∘ fun c : AesCall => ((), c)) = id from rfl, List.map_id]
      exact hall

end iteration

end TunnelEngine

/-! ## Both engines -/

/-- **Failed sends and nonces.** For every sequence of operations on either engine, with the sends
that raise and the operations that raise among them, no session cipher encrypts two packets under
one nonce exactly when every packet whose send failed is the next one that its session encrypts. -/
theorem send_failures_iff {τ : Type} [Zero τ] [Add τ] [Sub τ] [LT τ] [LE τ] [DecidableEq τ]
    [DecidableLT τ] [DecidableLE τ] {P : Primitives} (hA : P.LawfulAead) (hH : P.LawfulHkdf) :
    (∀ (engine : MultiClientServerEngine) (calls : List MultiClientServerEngine.ObjectCall),
      ReusesNoNonce (engine.encryptions P calls) ↔ RepeatsFailed (engine.uses P calls)) ∧
    ∀ (engine : TunnelEngine τ) (inputs : List (IterationInput τ × Option τ)),
      ReusesNoNonce (engine.encryptions P inputs) ↔ RepeatsFailed (engine.uses P inputs) := by
  constructor
  · intro engine calls
    obtain ⟨start, sid, -, hcounts, hcarries, hlog⟩ :=
      MultiClientServerEngine.numbering_run hA hH engine calls
    exact reusesNoNonce_iff some sid (fun _ _ h => Option.some.inj h) hcounts hcarries hlog
  · intro engine inputs
    obtain ⟨engine', hmoved⟩ := TunnelEngine.numbering_run hA hH engine inputs
    have hcounts : Counts (fun _ => engine.sequenceNumber) (engine.uses P inputs) := by
      cases hcipher : engine.cipher.isSome with
      | true => exact (hmoved.numbers hcipher).2
      | false =>
          rw [hmoved.silent hcipher]
          exact counts_nil _
    refine reusesNoNonce_iff id (fun _ => engine.sessionId) (fun _ _ h => h)
      hcounts hmoved.carries ?_
    have hcalls := congrArg (List.map fun i : Bytes × Bytes × Bytes => ((), i)) hmoved.calls_eq
    rw [List.map_map, List.map_map, List.map_map] at hcalls
    exact hcalls

/-! ### Sends that fail -/

/-- An IPv4 packet for the client at 10.8.0.2. -/
def sampleOutbound (mark : UInt8) : Bytes := 0x45 :: List.replicate 15 0 ++ [10, 8, 0, 2, mark]

/-- The session of a client. -/
def sampleClientSession : ClientSession :=
  ⟨sampleSource 0, .ofOctets 10 8 0 2, 7, sampleCipher .server, 0, .default⟩

/-- The first packet for the client is refused by the operating system, the next one is not. -/
def sampleRefusedCalls : List MultiClientServerEngine.ObjectCall := [
  .addSession (.new sampleClientSession),
  .handleTunPacket (sampleOutbound 1) (some (.osError "Message too long")),
  .handleTunPacket (sampleOutbound 2) none]

/-- The engine at the client's end. -/
def sampleEngine : TunnelEngine ℕ :=
  ⟨sampleSource 1, 7, 0, some (sampleCipher .client), .default, 0, 0, 0, 0⟩

/-- An iteration that reads a packet from the TUN device. -/
def sampleRead (mark : UInt8) (failure : Option PyError) : IterationInput ℕ × Option ℕ :=
  (⟨0, some (.ok (sampleOutbound mark)), failure, none, 0, fun _ => .ok 0, 0, none⟩, none)

/-- The same for the engine of a client. -/
def sampleRefusedInputs : List (IterationInput ℕ × Option ℕ) :=
  [sampleRead 1 (some (.osError "Message too long")), sampleRead 2 none]

/-- **After a failed send both engines reuse a nonce.** -/
theorem nonce_reused_after_failed_send :
    ¬ ReusesNoNonce (MultiClientServerEngine.new.encryptions sample sampleRefusedCalls) ∧
      ¬ ReusesNoNonce (sampleEngine.encryptions sample sampleRefusedInputs) := by
  decide +kernel

theorem send_failures_iff_sample :
    (ReusesNoNonce (MultiClientServerEngine.new.encryptions sample sampleRefusedCalls) ↔
      RepeatsFailed (MultiClientServerEngine.new.uses sample sampleRefusedCalls)) ∧
    (ReusesNoNonce (sampleEngine.encryptions sample sampleRefusedInputs) ↔
      RepeatsFailed (sampleEngine.uses sample sampleRefusedInputs)) :=
  ⟨(send_failures_iff (τ := ℕ) sample_lawfulAead sample_lawfulHkdf).1 _ _,
    (send_failures_iff sample_lawfulAead sample_lawfulHkdf).2 _ _⟩

end MatfVpn
