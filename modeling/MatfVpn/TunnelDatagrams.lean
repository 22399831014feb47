/-
# Datagrams and the TUN driver (`engine.TunnelEngine`)

What an iteration does with a received datagram when the TUN driver refuses payloads that are
no IP packets.

* `receiveUdpPacket_written` : the payload of an accepted DATA packet is written unchecked;
* `datagram_handled_iff` : when an iteration neither raises nor writes anything but IPv4.
-/
import MatfVpn.CipherErrors
import MatfVpn.EngineSpec
import MatfVpn.MultiClient
import MatfVpn.SamplePrimitives

namespace MatfVpn

open Program

/-- What the driver of a TUN device without packet information answers to a write: a payload
with the version of IPv4 or IPv6 in its first byte is taken whole, any other one refused. -/
def tunDriver (payload : Bytes) : Except PyError ℕ :=
  match payload with
  | [] => .error (.osError "Invalid argument")
  | first :: _ =>
      if first >>> 4 = 4 ∨ first >>> 4 = 6 then .ok payload.length
      else .error (.osError "Invalid argument")

/-- The driver takes a payload whole or raises. -/
theorem tunDriver_ok {payload : Bytes} {written : ℕ} (h : tunDriver payload = .ok written) :
    written = payload.length := by
  unfold tunDriver at h
  split at h
  · cases h
  split at h
  · exact (Except.ok.inj h).symm
  · cases h

/-- The driver takes every packet that `_validate_ipv4_packet` accepts. -/
theorem tunDriver_of_ipv4 {payload : Bytes} (h : validateIpv4Packet payload = .ok ()) :
    tunDriver payload = .ok payload.length := by
  unfold validateIpv4Packet at h
  split at h
  · cases h
  rename_i hstart
  rw [not_or, not_not] at hstart
  cases payload with
  | nil => exact absurd (Nat.zero_lt_succ 19) hstart.1
  | cons first rest =>
      rw [tunDriver]
      exact if_pos (Or.inl hstart.2)

namespace TunnelEngine

variable {τ : Type} {P : Primitives}

/-- The payload of a datagram that the engine accepts as a DATA packet, decrypted where it has
a cipher. -/
def acceptedPayload (P : Primitives) (self : TunnelEngine τ) (datagram : Bytes)
    (source : Address) : Option Bytes :=
  match Packet.decode (datagram.take maxUdpDatagramSize) with
  | .error _ => none
  | .ok packet =>
      if source = self.remoteAddress ∧ packet.sessionId = self.sessionId ∧
          packet.messageType = .data then
        match self.cipher with
        | none => some packet.payload
        | some cipher =>
            if self.replayWindow.isReplay packet.sequenceNumber then none
            else (Cipher.decrypt P packet cipher).result.toOption.map Packet.payload
      else none

/-- What the end of an iteration does with the payload of an accepted packet. -/
structure Written {α : Type} (payload : Option Bytes) (r : Except PyError α)
    (t : List (Effect τ)) : Prop where
  writes_eq : writes t = payload.toList
  raises_iff : (∃ e, r = .error e) ↔ ∃ data ∈ payload, ∃ e, tunDriver data = .error e

/-- Effects without a write change nothing of what is written. -/
theorem writes_append_of_nil {t t' : List (Effect τ)} (h : writes t = []) :
    writes (t ++ t') = writes t' := by
  rw [writes_append, h, List.nil_append]

theorem Written.append_left {α : Type} {payload : Option Bytes} {r : Except PyError α}
    {s t : List (Effect τ)} (h : Written payload r t) (hs : writes s = []) :
    Written payload r (s ++ t) :=
  ⟨(writes_append_of_nil hs).trans h.writes_eq, h.raises_iff⟩

theorem written_none {α : Type} {t : List (Effect τ)} (h : writes t = []) (r : α) :
    Written none (.ok r) t := by
  refine ⟨h, ?_⟩
  constructor
  · rintro ⟨e, he⟩
    cases he
  · rintro ⟨data, hdata, -⟩
    cases hdata

/-- The end of `_receive_udp_packet` on the driver. -/
theorem deliver_written (packet : Packet) (self : TunnelEngine τ) :
    wp (deliver packet tunDriver) self (fun r self' t => self' = self ∧
      Written (if packet.messageType = .keepalive then none else some packet.payload) r t) := by
  refine wp_mono (deliver_spec packet tunDriver self) ?_
  rintro r self' t ⟨rfl, rfl, rfl⟩
  refine ⟨rfl, ?_⟩
  unfold deliverResult deliverEffects deliverPayload
  by_cases hk : packet.messageType = .keepalive
  · simp only [if_pos hk]
    exact written_none rfl false
  · simp only [if_neg hk]
    refine ⟨rfl, ?_⟩
    cases hdriver : tunDriver packet.payload with
    | error e => exact iff_of_true ⟨e, rfl⟩ ⟨packet.payload, rfl, e, hdriver⟩
    | ok written =>
        simp only [tunDriver_ok hdriver, ne_eq, not_true_eq_false, if_false]
        refine iff_of_false ?_ ?_
        · rintro ⟨e, he⟩
          cases he
        · rintro ⟨data, hdata, e, he⟩
          obtain rfl := Option.some.inj hdata
          rw [hdriver] at he
          cases he

/-- The checks with a cipher: nothing is written, and the only way out is the packet or its
drop. -/
theorem authenticate_result (hH : P.LawfulHkdf) {cipher : Cipher} {packet : Packet}
    (hp : packet.HeaderInRange) (hsize : packet.payload.length < 2 ^ 16) (now : τ)
    (self : TunnelEngine τ) :
    wp (authenticate P cipher packet now) self (fun r self' t =>
      writes t = [] ∧ self'.keepaliveInterval = self.keepaliveInterval ∧
      r = .ok (if self.replayWindow.isReplay packet.sequenceNumber then none
        else (Cipher.decrypt P packet cipher).result.toOption)) := by
  unfold authenticate
  rw [wp_read_bind]
  by_cases hreplay : self.replayWindow.isReplay packet.sequenceNumber = true
  · rw [if_pos hreplay, if_pos hreplay]
    exact ⟨rfl, rfl, rfl⟩
  rw [if_neg hreplay, if_neg hreplay, wp_bind, wp_attempt, onCipher, wp_zoom]
  have hdecrypt : _ ∨ _ := decrypt_result hH cipher hp hsize (P := P)
  have hcrypto := writes_map_crypto (τ := τ) (Cipher.decrypt P packet cipher).trace
  rw [wp]
  generalize Cipher.decrypt P packet cipher = o at hdecrypt hcrypto
  obtain ⟨r, cipher', calls⟩ := o
  simp only at hdecrypt hcrypto ⊢
  rcases hdecrypt with rfl | ⟨plaintext, rfl⟩
  · change wp (pure none) _ _
    exact ⟨writes_append_of_nil hcrypto, rfl, rfl⟩
  · obtain ⟨window, hwindow⟩ := markAuthenticated_of_not_isReplay
      (Bool.eq_false_iff.2 hreplay)
    change wp (ofExcept (self.replayWindow.markAuthenticated packet.sequenceNumber) >>= _) _ _
    rw [hwindow]
    exact ⟨writes_append_of_nil hcrypto, rfl, rfl⟩

/-- The packet is for the engine, and of a type that it takes. -/
def Takes (self : TunnelEngine τ) (packet : Packet) (source : Address) : Prop :=
  source = self.remoteAddress ∧ packet.sessionId = self.sessionId ∧
    (packet.messageType = .data ∨ packet.messageType = .keepalive)

/-- Any other packet is dropped. -/
theorem acceptPacket_of_not_takes {packet : Packet} {source : Address} {self : TunnelEngine τ}
    (h : ¬ self.Takes packet source) (input : IterationInput τ) :
    wp (acceptPacket P packet source input) self (fun r self' t =>
      r = .ok false ∧ self' = self ∧ t = []) := by
  unfold acceptPacket
  rw [wp_read_bind]
  by_cases hsource : source ≠ self.remoteAddress
  · rw [if_pos hsource]
    exact ⟨rfl, rfl, rfl⟩
  rw [if_neg hsource]
  by_cases hid : packet.sessionId ≠ self.sessionId
  · rw [if_pos hid]
    exact ⟨rfl, rfl, rfl⟩
  rw [if_neg hid]
  have htype : ¬ (packet.messageType = .data ∨ packet.messageType = .keepalive) :=
    fun htype => h ⟨not_not.1 hsource, not_not.1 hid, htype⟩
  rw [if_pos htype]
  exact ⟨rfl, rfl, rfl⟩

/-- The payload that is made of a packet which the engine takes. -/
theorem acceptedPayload_of_takes {datagram : Bytes} {source : Address} {packet : Packet}
    {self : TunnelEngine τ}
    (hdecode : Packet.decode (datagram.take maxUdpDatagramSize) = .ok packet)
    (h : self.Takes packet source) :
    self.acceptedPayload P datagram source =
      if packet.messageType = .keepalive then none
      else
        match self.cipher with
        | none => some packet.payload
        | some cipher =>
            if self.replayWindow.isReplay packet.sequenceNumber then none
            else (Cipher.decrypt P packet cipher).result.toOption.map Packet.payload := by
  obtain ⟨hsource, hid, htype⟩ := h
  have hkeepalive : packet.messageType = .data ↔ ¬ packet.messageType = .keepalive := by
    rcases htype with h | h <;> simp [h]
  unfold acceptedPayload
  rw [hdecode]
  simp only [hsource, hid, true_and, hkeepalive, ite_not]

/-- The packets that the engine takes: a keepalive writes nothing, and a DATA packet what the
engine makes of its payload. -/
theorem acceptPacket_written (hH : P.LawfulHkdf) {datagram : Bytes} {source : Address}
    {packet : Packet} {self : TunnelEngine τ}
    (hdecode : Packet.decode (datagram.take maxUdpDatagramSize) = .ok packet)
    (htakes : self.Takes packet source) {input : IterationInput τ}
    (hwrite : input.tunWrite = tunDriver) :
    wp (acceptPacket P packet source input) self (fun r self' t =>
      self'.keepaliveInterval = self.keepaliveInterval ∧
        Written (self.acceptedPayload P datagram source) r t) := by
  have hencodable := Packet.encodable_of_decode (List.length_take_le _ _) hdecode
  rw [acceptedPayload_of_takes hdecode htakes]
  obtain ⟨hsource, hid, htype⟩ := htakes
  unfold acceptPacket
  rw [wp_read_bind, if_neg (not_not.2 hsource), if_neg (not_not.2 hid), if_neg (not_not.2 htype)]
  cases self.cipher with
  | none =>
    simp only
    rw [hwrite]
    refine wp_mono (deliver_written packet self) ?_
    rintro r self' t ⟨rfl, hwritten⟩
    exact ⟨rfl, hwritten⟩
  | some cipher =>
    simp only
    rw [wp_bind]
    refine wp_mono (authenticate_result hH ⟨hencodable.1, hencodable.2.1⟩
      hencodable.length_payload_lt input.receiveClock self) ?_
    rintro r self' t ⟨ht, hinterval, rfl⟩
    -- a replay and a packet that does not open write nothing
    by_cases hreplay : self.replayWindow.isReplay packet.sequenceNumber = true
    · simp only [if_pos hreplay]
      rw [ite_self]
      exact ⟨hinterval, written_none (writes_append_of_nil ht) false⟩
    simp only [if_neg hreplay]
    have hdecrypt : _ ∨ _ := decrypt_result hH cipher (P := P)
      ⟨hencodable.1, hencodable.2.1⟩ hencodable.length_payload_lt
    rcases hdecrypt with hr | ⟨plaintext, hr⟩
    · simp only [hr, Except.toOption, Option.map_none, ite_self]
      exact ⟨hinterval, written_none (writes_append_of_nil ht) false⟩
    · simp only [hr, Except.toOption, Option.map_some]
      rw [hwrite]
      refine wp_mono (deliver_written { packet with payload := plaintext } self') ?_
      rintro r self'' t' ⟨rfl, hwritten⟩
      exact ⟨hinterval, hwritten.append_left ht⟩

/-- **The payload of an accepted DATA packet is written**, whatever it is; any other datagram
is dropped. -/
theorem receiveUdpPacket_written (hH : P.LawfulHkdf) (datagram : Bytes) (source : Address)
    {input : IterationInput τ} (hwrite : input.tunWrite = tunDriver) (self : TunnelEngine τ) :
    wp (receiveUdpPacket P (.ok (datagram, source)) input) self (fun r self' t =>
      self'.keepaliveInterval = self.keepaliveInterval ∧
        Written (self.acceptedPayload P datagram source) r t) := by
  unfold receiveUdpPacket
  rw [wp_bind, wp_attempt]
  refine wp_mono (transportReceive_spec datagram source self) ?_
  rintro r self' t ⟨rfl, rfl, rfl⟩
  cases hdecode : Packet.decode (datagram.take maxUdpDatagramSize) with
  | error e =>
    obtain ⟨message, rfl⟩ := Packet.decode_error hdecode
    rw [acceptedPayload, hdecode]
    exact ⟨rfl, written_none rfl false⟩
  | ok packet =>
    change wp (acceptPacket P packet source input) _ _
    by_cases htakes : self'.Takes packet source
    · refine wp_mono (acceptPacket_written hH hdecode htakes hwrite) ?_
      rintro r self'' t ⟨hinterval, hwritten⟩
      exact ⟨hinterval, hwritten.append_left rfl⟩
    · have hnone : self'.acceptedPayload P datagram source = none := by
        rw [acceptedPayload, hdecode]
        exact if_neg fun h => htakes ⟨h.1, h.2.1, Or.inl h.2.2⟩
      refine wp_mono (acceptPacket_of_not_takes htakes input) ?_
      rintro r self'' t ⟨rfl, rfl, rfl⟩
      rw [hnone]
      exact ⟨rfl, written_none rfl false⟩

section iteration

variable [Zero τ] [Add τ] [Sub τ] [LT τ] [LE τ] [DecidableEq τ] [DecidableLT τ]
  [DecidableLE τ]

/-- An iteration in which only the UDP socket is readable, and the driver answers the write. -/
structure ReceivesOnly (input : IterationInput τ) (datagram : Bytes) (source : Address) :
    Prop where
  tunRead : input.tunRead = none
  udpReceive : input.udpReceive = some (.ok (datagram, source))
  tunWrite : input.tunWrite = tunDriver

/-- An iteration without keepalives ends as its received datagram does. -/
theorem runOnce_written (hH : P.LawfulHkdf) {engine : TunnelEngine τ}
    (hkeepalive : engine.keepaliveInterval = 0) {input : IterationInput τ} {datagram : Bytes}
    {source : Address} (hinput : ReceivesOnly input datagram source) (timeout : Option τ) :
    wp (runOnce P input timeout) engine (fun r _ t =>
      Written (engine.acceptedPayload P datagram source) r t) := by
  unfold runOnce
  rw [wp_read_bind, wp_emit_bind]
  unfold forwardFromTun forwardFromUdp
  rw [hinput.tunRead, hinput.udpReceive, wp_pure_bind, wp_bind]
  simp only
  rw [wp_bind]
  refine wp_mono (receiveUdpPacket_written hH datagram source hinput.tunWrite engine) ?_
  rintro r engine' t ⟨hinterval, hwritten⟩
  cases r with
  | error e =>
      refine ⟨hwritten.writes_eq, ?_⟩
      exact iff_of_true ⟨e, rfl⟩ (hwritten.raises_iff.1 ⟨e, rfl⟩)
  | ok received =>
      simp only
      rw [wp_pure]
      simp only
      unfold checkTimers
      rw [wp_bind, wp_read_bind]
      have hoff : ¬ engine'.keepaliveInterval ≠ 0 := by
        rw [hinterval, hkeepalive]
        exact not_not.2 rfl
      rw [if_neg hoff]
      refine ⟨?_, ?_⟩
      · show writes (t ++ [] ++ ([] ++ [])) = _
        rw [List.append_nil, List.append_nil, List.append_nil]
        exact hwritten.writes_eq
      · refine iff_of_false ?_ fun h => ?_
        · rintro ⟨e, he⟩
          cases he
        · obtain ⟨e, he⟩ := hwritten.raises_iff.2 h
          cases he

/-- The iteration returned and wrote nothing to the TUN device but IPv4 packets. -/
def HandledQuietly (o : Outcome PyError (Effect τ) (TunnelEngine τ) ℕ) : Prop :=
  (∀ e, o.result ≠ .error e) ∧ ∀ payload ∈ writes o.trace, validateIpv4Packet payload = .ok ()

/-- **When a datagram is handled.** For every engine without keepalives, an iteration that
receives a datagram returns and drops what is no IPv4 packet exactly when the datagram is not
accepted as DATA with a payload that `_validate_ipv4_packet` refuses; and it raises exactly when
the driver refuses the accepted payload. -/
theorem datagram_handled_iff (hH : P.LawfulHkdf) (engine : TunnelEngine τ)
    (hkeepalive : engine.keepaliveInterval = 0) (input : IterationInput τ) (datagram : Bytes)
    (source : Address) (hinput : ReceivesOnly input datagram source) (timeout : Option τ) :
    (HandledQuietly (runOnce P input timeout engine) ↔
      ∀ payload, engine.acceptedPayload P datagram source = some payload →
        validateIpv4Packet payload = .ok ()) ∧
    ((∃ e, (runOnce P input timeout engine).result = .error e) ↔
      ∃ payload, engine.acceptedPayload P datagram source = some payload ∧
        ∃ e, tunDriver payload = .error e) := by
  have hwritten : Written _ _ _ := runOnce_written (P := P) hH hkeepalive hinput timeout
  have hraises : (∃ e, (runOnce P input timeout engine).result = .error e) ↔
      ∃ payload, engine.acceptedPayload P datagram source = some payload ∧
        ∃ e, tunDriver payload = .error e := hwritten.raises_iff
  refine ⟨?_, hraises⟩
  constructor
  · rintro ⟨-, hwrites⟩ payload hpayload
    apply hwrites
    rw [hwritten.writes_eq, hpayload]
    exact List.mem_singleton.2 rfl
  · intro hvalid
    refine ⟨fun e he => ?_, fun payload hpayload => ?_⟩
    · obtain ⟨payload, hpayload, e', he'⟩ := hraises.1 ⟨e, he⟩
      rw [tunDriver_of_ipv4 (hvalid payload hpayload)] at he'
      cases he'
    · rw [hwritten.writes_eq, Option.mem_toList] at hpayload
      exact hvalid payload hpayload

end iteration

/-! ## A sample engine -/

/-- An engine without a cipher, in session 42 with one peer. -/
def samplePlainEngine : TunnelEngine ℕ :=
  ⟨⟨.ofOctets 127 0 0 1, 51820⟩, 42, 0, none, .default, 0, 0, 0, 0⟩

/-- The peer sends a datagram. -/
def samplePlainInput (datagram : Bytes) : IterationInput ℕ where
  selectClock := 0
  tunRead := none
  tunSendFailure := none
  udpReceive := some (.ok (datagram, samplePlainEngine.remoteAddress))
  receiveClock := 0
  tunWrite := tunDriver
  loopClock := 0
  keepaliveSendFailure := none

/-- A DATA packet with one zero byte, from the peer. -/
def sampleMalformed : Bytes := [1, 1, 0, 0, 0, 42, 0, 0, 0, 0, 0, 0, 0, 3, 0, 1, 0]

/-- A DATA packet with an IPv4 header, from the peer. -/
def sampleWellFormed : Bytes :=
  [1, 1, 0, 0, 0, 42, 0, 0, 0, 0, 0, 0, 0, 3, 0, 20, 0x45, 0, 0, 20, 0, 0, 0, 0, 64, 17, 0, 0,
    10, 8, 0, 2, 10, 8, 0, 1]

/-- The malformed payload ends the iteration with the error of the driver. -/
theorem datagram_not_handled :
    ¬ HandledQuietly (runOnce sample (samplePlainInput sampleMalformed) none
      samplePlainEngine) := by
  rintro ⟨hresult, -⟩
  exact hresult (.osError "Invalid argument") rfl

/-- The IPv4 packet is handled. -/
theorem datagram_handled_sample :
    HandledQuietly (runOnce sample (samplePlainInput sampleWellFormed) none
      samplePlainEngine) := by
  refine (datagram_handled_iff sample_lawfulHkdf samplePlainEngine rfl _ sampleWellFormed
    samplePlainEngine.remoteAddress ⟨rfl, rfl, rfl⟩ none).1.2 ?_
  intro payload hpayload
  obtain rfl := Option.some.inj hpayload
  rfl

end TunnelEngine

end MatfVpn
