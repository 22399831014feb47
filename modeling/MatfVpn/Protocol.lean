/-
# Wire format (`protocol.py`)

The 16-byte header `!BBIQH` followed by the payload, with the checks of
`Packet.encode` and `Packet.decode`.

* `decode_of_encode` : decoding an encoded packet returns the packet;
* `encode_of_decode` : a datagram of at most `maxUdpDatagramSize` bytes that decodes
  is the encoding of the packet it decodes to;
* `encode_inj` : different packets have different encodings;
* `wire_format_canonical` : a datagram is accepted exactly when it is the encoding of
  a packet, and `InvalidPacketError` is the only other outcome.
-/
import MatfVpn.Python

namespace MatfVpn

open BigEndian

/-! ## Constants -/

def protocolVersion : ℕ := 1

/-- `HEADER.size`. -/
def headerSize : ℕ := 16

def maxUdpDatagramSize : ℕ := 65507

def maxPayloadSize : ℕ := maxUdpDatagramSize - headerSize

/-! ## Packets -/

inductive MessageType where
  | data
  | keepalive
  | clientHello
  | serverHello
  deriving DecidableEq, Repr

namespace MessageType

/-- The number of a message type on the wire. -/
def value : MessageType → ℕ
  | data => 1
  | keepalive => 2
  | clientHello => 3
  | serverHello => 4

/-- `MessageType(raw)`, with `none` for the `ValueError` of an unknown number. -/
def ofValue? : ℕ → Option MessageType
  | 1 => some data
  | 2 => some keepalive
  | 3 => some clientHello
  | 4 => some serverHello
  | _ => none

@[simp] theorem ofValue?_value (t : MessageType) : ofValue? t.value = some t := by
  cases t <;> rfl

/-- The numbers `MessageType` accepts are those of the message types. -/
theorem value_of_ofValue? {n : ℕ} {t : MessageType} (h : ofValue? n = some t) :
    t.value = n := by
  unfold ofValue? at h
  split at h <;> simp_all [value] <;> subst h <;> rfl

theorem value_lt (t : MessageType) : t.value < 256 := by
  cases t <;> decide

end MessageType

/-- A VPN packet. -/
structure Packet where
  messageType : MessageType
  sessionId : ℕ
  sequenceNumber : ℕ
  payload : Bytes
  deriving DecidableEq, Repr

/-! ## The header -/

/-- `HEADER.pack`: the five header fields, or `struct.error` for a field out of range. -/
def headerPack (version messageType sessionId sequenceNumber payloadSize : ℕ) :
    Except PyError Bytes :=
  if version < 2 ^ 8 ∧ messageType < 2 ^ 8 ∧ sessionId < 2 ^ 32 ∧
      sequenceNumber < 2 ^ 64 ∧ payloadSize < 2 ^ 16 then
    .ok (toBytes 1 version ++ (toBytes 1 messageType ++ (toBytes 4 sessionId ++
      (toBytes 8 sequenceNumber ++ toBytes 2 payloadSize))))
  else .error (.structError "integer out of range for the header format")

/-- The fields that `HEADER.unpack_from` reads. -/
structure HeaderFields where
  version : ℕ
  messageType : ℕ
  sessionId : ℕ
  sequenceNumber : ℕ
  payloadSize : ℕ

/-- `HEADER.unpack_from(data)`. -/
def headerUnpackFrom (data : Bytes) : HeaderFields where
  version := fromBytes ((data.drop 0).take 1)
  messageType := fromBytes ((data.drop 1).take 1)
  sessionId := fromBytes ((data.drop 2).take 4)
  sequenceNumber := fromBytes ((data.drop 6).take 8)
  payloadSize := fromBytes ((data.drop 14).take 2)

/-- Fields in range are packed one after the other. -/
theorem headerPack_of_inRange {v t s n z : ℕ} (hv : v < 2 ^ 8) (ht : t < 2 ^ 8)
    (hs : s < 2 ^ 32) (hn : n < 2 ^ 64) (hz : z < 2 ^ 16) :
    headerPack v t s n z = .ok (toBytes 1 v ++ (toBytes 1 t ++ (toBytes 4 s ++
      (toBytes 8 n ++ toBytes 2 z)))) := by
  rw [headerPack, if_pos ⟨hv, ht, hs, hn, hz⟩]

theorem length_headerPack {v t s n z : ℕ} {header : Bytes}
    (h : headerPack v t s n z = .ok header) : header.length = headerSize := by
  unfold headerPack at h
  split at h
  · cases h
    simp [headerSize]
  · cases h

/-- **Round trip of the header.** Unpacking a packed header returns the fields. -/
theorem headerUnpackFrom_headerPack {v t s n z : ℕ} {header : Bytes}
    (h : headerPack v t s n z = .ok header) (rest : Bytes) :
    headerUnpackFrom (header ++ rest) = ⟨v, t, s, n, z⟩ := by
  unfold headerPack at h
  split at h
  · rename_i hr
    obtain ⟨hv, ht, hs, hn, hz⟩ := hr
    cases h
    simp only [headerUnpackFrom, List.append_assoc]
    have hlen : ∀ w n, (toBytes w n).length = w := length_toBytes
    congr 1
    · rw [List.drop_zero, List.take_left' (hlen 1 v), fromBytes_toBytes_of_lt hv]
    · rw [List.drop_left' (hlen 1 v), List.take_left' (hlen 1 t), fromBytes_toBytes_of_lt ht]
    · rw [show (2 : ℕ) = 1 + 1 from rfl, ← List.drop_drop, List.drop_left' (hlen 1 v),
        List.drop_left' (hlen 1 t), List.take_left' (hlen 4 s), fromBytes_toBytes_of_lt hs]
    · rw [show (6 : ℕ) = 1 + (1 + 4) from rfl, ← List.drop_drop, ← List.drop_drop,
        List.drop_left' (hlen 1 v), List.drop_left' (hlen 1 t), List.drop_left' (hlen 4 s),
        List.take_left' (hlen 8 n), fromBytes_toBytes_of_lt hn]
    · rw [show (14 : ℕ) = 1 + (1 + (4 + 8)) from rfl, ← List.drop_drop, ← List.drop_drop,
        ← List.drop_drop, List.drop_left' (hlen 1 v), List.drop_left' (hlen 1 t),
        List.drop_left' (hlen 4 s), List.drop_left' (hlen 8 n), List.take_left' (hlen 2 z),
        fromBytes_toBytes_of_lt hz]
  · cases h

/-- A packed header determines its fields. -/
theorem headerPack_inj {v t s n z v' t' s' n' z' : ℕ} {header : Bytes}
    (h : headerPack v t s n z = .ok header) (h' : headerPack v' t' s' n' z' = .ok header) :
    v = v' ∧ t = t' ∧ s = s' ∧ n = n' ∧ z = z' := by
  have e := headerUnpackFrom_headerPack h []
  rw [headerUnpackFrom_headerPack h' []] at e
  simp only [HeaderFields.mk.injEq] at e
  obtain ⟨hv, ht, hs, hn, hz⟩ := e
  exact ⟨hv.symm, ht.symm, hs.symm, hn.symm, hz.symm⟩

/-- **Round trip of the header.** The first 16 bytes of a datagram are the packed
header of the fields it unpacks to. -/
theorem headerPack_headerUnpackFrom {data : Bytes} (hlen : headerSize ≤ data.length) :
    headerPack (headerUnpackFrom data).version (headerUnpackFrom data).messageType
      (headerUnpackFrom data).sessionId (headerUnpackFrom data).sequenceNumber
      (headerUnpackFrom data).payloadSize = .ok (data.take headerSize) := by
  have hfield : ∀ i w, i + w ≤ 16 → ((data.drop i).take w).length = w := by
    intro i w hiw
    rw [List.length_take, List.length_drop]
    simp only [headerSize] at hlen
    omega
  have hlt : ∀ i w, i + w ≤ 16 → fromBytes ((data.drop i).take w) < 2 ^ (8 * w) := by
    intro i w hiw
    have := fromBytes_lt ((data.drop i).take w)
    rwa [hfield i w hiw, show 256 = 2 ^ 8 from rfl, ← pow_mul] at this
  have hback : ∀ i w, i + w ≤ 16 →
      toBytes w (fromBytes ((data.drop i).take w)) = (data.drop i).take w := by
    intro i w hiw
    have := toBytes_fromBytes ((data.drop i).take w)
    rwa [hfield i w hiw] at this
  simp only [headerUnpackFrom]
  rw [headerPack_of_inRange (hlt 0 1 (by omega)) (hlt 1 1 (by omega)) (hlt 2 4 (by omega))
    (hlt 6 8 (by omega)) (hlt 14 2 (by omega))]
  rw [hback 0 1 (by omega), hback 1 1 (by omega), hback 2 4 (by omega),
    hback 6 8 (by omega), hback 14 2 (by omega), List.drop_zero]
  congr 1
  rw [show headerSize = 1 + (1 + (4 + (8 + 2))) from rfl, List.take_add, List.take_add,
    List.take_add, List.take_add, List.drop_drop, List.drop_drop, List.drop_drop]

/-! ## `Packet.encode` and `Packet.decode` -/

namespace Packet

/-- `Packet.encode`. -/
def encode (p : Packet) : Except PyError Bytes :=
  if ¬ p.sessionId ≤ 0xFFFFFFFF then
    .error (.valueError "session_id must fit in 32 bits")
  else if ¬ p.sequenceNumber ≤ 0xFFFFFFFFFFFFFFFF then
    .error (.valueError "sequence_number must fit in 64 bits")
  else if p.payload.length > maxPayloadSize then
    .error (.valueError "payload is too large")
  else do
    let header ← headerPack protocolVersion p.messageType.value p.sessionId
      p.sequenceNumber p.payload.length
    return header ++ p.payload

/-- `Packet.decode`. -/
def decode (data : Bytes) : Except PyError Packet :=
  if data.length < headerSize then
    .error (.invalidPacketError "packet is shorter than the header")
  else
    let fields := headerUnpackFrom data
    if fields.version ≠ protocolVersion then
      .error (.invalidPacketError s!"unsupported protocol version: {fields.version}")
    else if data.length ≠ headerSize + fields.payloadSize then
      .error (.invalidPacketError "payload length does not match the header")
    else
      match MessageType.ofValue? fields.messageType with
      | none => .error (.invalidPacketError s!"unsupported message type: {fields.messageType}")
      | some messageType =>
          .ok ⟨messageType, fields.sessionId, fields.sequenceNumber, data.drop headerSize⟩

/-- The packets that `encode` accepts: fields in range and a payload that fits. -/
def Encodable (p : Packet) : Prop :=
  p.sessionId < 2 ^ 32 ∧ p.sequenceNumber < 2 ^ 64 ∧ p.payload.length ≤ maxPayloadSize

/-- `encode` succeeds exactly on the encodable packets, with the packed header in
front of the payload. -/
theorem encode_eq_ok_iff {p : Packet} {data : Bytes} :
    p.encode = .ok data ↔ p.Encodable ∧
      ∃ header, headerPack protocolVersion p.messageType.value p.sessionId
        p.sequenceNumber p.payload.length = .ok header ∧ data = header ++ p.payload := by
  unfold encode Encodable
  split
  · simp; omega
  split
  · simp; omega
  split
  · simp; omega
  rename_i hs hn hz
  have hin : p.sessionId < 2 ^ 32 ∧ p.sequenceNumber < 2 ^ 64 ∧
      p.payload.length ≤ maxPayloadSize := by omega
  cases hp : headerPack protocolVersion p.messageType.value p.sessionId
      p.sequenceNumber p.payload.length with
  | error e => simp [bind, Except.bind]
  | ok header =>
      simp only [bind, Except.bind, pure, Except.pure, Except.ok.injEq, exists_eq_left', hin,
        true_and, and_self]
      exact eq_comm

/-- Every encodable packet is encoded. -/
theorem encode_of_encodable {p : Packet} (h : p.Encodable) : ∃ data, p.encode = .ok data := by
  obtain ⟨hs, hn, hz⟩ := h
  have hsize : p.payload.length < 2 ^ 16 := by
    simp only [maxPayloadSize, maxUdpDatagramSize, headerSize] at hz
    omega
  have hpack := headerPack_of_inRange (v := protocolVersion) (by decide)
    p.messageType.value_lt hs hn hsize
  exact ⟨_, encode_eq_ok_iff.2 ⟨⟨hs, hn, hz⟩, _, hpack, rfl⟩⟩

/-- **Round trip.** Decoding an encoded packet returns the packet. -/
theorem decode_of_encode {p : Packet} {data : Bytes} (h : p.encode = .ok data) :
    decode data = .ok p := by
  obtain ⟨-, header, hpack, rfl⟩ := encode_eq_ok_iff.1 h
  have hlen := length_headerPack hpack
  have hfields := headerUnpackFrom_headerPack hpack p.payload
  unfold decode
  rw [if_neg (by rw [List.length_append]; omega)]
  simp only [hfields]
  rw [if_neg (by simp), if_neg (by rw [List.length_append]; omega)]
  simp [List.drop_left' hlen]

/-- **Round trip.** A datagram that decodes is the encoding of what it decodes to. -/
theorem encode_of_decode {p : Packet} {data : Bytes} (hlen : data.length ≤ maxUdpDatagramSize)
    (h : decode data = .ok p) : p.encode = .ok data := by
  unfold decode at h
  split at h
  · cases h
  rename_i hshort
  simp only at h
  split at h
  · cases h
  rename_i hver
  split at h
  · cases h
  rename_i hsize
  split at h
  · cases h
  rename_i t ht
  simp only [Except.ok.injEq] at h
  have hdrop : (data.drop headerSize).length = (headerUnpackFrom data).payloadSize := by
    rw [List.length_drop]
    omega
  -- packing what was unpacked gives the header back, so its fields are in range
  have hpack := headerPack_headerUnpackFrom (Nat.le_of_not_lt hshort)
  have hrange : (headerUnpackFrom data).sessionId < 2 ^ 32 ∧
      (headerUnpackFrom data).sequenceNumber < 2 ^ 64 := by
    unfold headerPack at hpack
    split at hpack
    · rename_i hr; exact ⟨hr.2.2.1, hr.2.2.2.1⟩
    · cases hpack
  subst h
  refine encode_eq_ok_iff.2 ⟨⟨hrange.1, hrange.2, ?_⟩, data.take headerSize, ?_, ?_⟩
  · rw [hdrop]
    simp only [maxPayloadSize, maxUdpDatagramSize, headerSize] at hlen hsize ⊢
    omega
  · rw [hdrop, ← not_ne_iff.1 hver, MessageType.value_of_ofValue? ht]
    exact hpack
  · exact (List.take_append_drop headerSize data).symm

/-- Different packets have different encodings. -/
theorem encode_inj {p q : Packet} {data : Bytes} (hp : p.encode = .ok data)
    (hq : q.encode = .ok data) : p = q := by
  have h := decode_of_encode hp
  rw [decode_of_encode hq] at h
  exact (Except.ok.inj h).symm

/-- The header fields of a decoded packet are in range. -/
theorem encodable_of_decode {p : Packet} {data : Bytes}
    (hlen : data.length ≤ maxUdpDatagramSize) (h : decode data = .ok p) : p.Encodable :=
  (encode_eq_ok_iff.1 (encode_of_decode hlen h)).1

/-- `Packet.decode` raises nothing but `InvalidPacketError`. -/
theorem decode_error {data : Bytes} {e : PyError} (h : decode data = .error e) :
    ∃ message, e = .invalidPacketError message := by
  unfold decode at h
  split at h
  · exact ⟨_, (Except.error.inj h).symm⟩
  simp only at h
  split at h
  · exact ⟨_, (Except.error.inj h).symm⟩
  split at h
  · exact ⟨_, (Except.error.inj h).symm⟩
  split at h
  · exact ⟨_, (Except.error.inj h).symm⟩
  · cases h

/-- An encoded packet fits into a datagram. -/
theorem length_encode_le {p : Packet} {data : Bytes} (h : p.encode = .ok data) :
    data.length ≤ maxUdpDatagramSize := by
  obtain ⟨⟨-, -, hsize⟩, header, hpack, rfl⟩ := encode_eq_ok_iff.1 h
  rw [List.length_append, length_headerPack hpack]
  simp only [maxPayloadSize, maxUdpDatagramSize, headerSize] at hsize ⊢
  omega

/-- The length of a payload fits into the header. -/
theorem Encodable.length_payload_lt {p : Packet} (h : p.Encodable) :
    p.payload.length < 2 ^ 16 := by
  have hsize := h.2.2
  simp only [maxPayloadSize, maxUdpDatagramSize, headerSize] at hsize
  omega

/-- **The wire format is canonical**: the datagrams that decode are the encodings of packets with
fields in range, each of exactly one, and every other datagram raises `InvalidPacketError`. -/
theorem wire_format_canonical {data : Bytes} (hlen : data.length ≤ maxUdpDatagramSize) :
    ((∃ p, decode data = .ok p) ↔ ∃ p : Packet, p.Encodable ∧ p.encode = .ok data) ∧
      (∀ p : Packet, p.encode = .ok data →
        decode data = .ok p ∧ ∀ q : Packet, q.encode = .ok data → q = p) ∧
      (∀ p, decode data = .ok p → p.encode = .ok data) ∧
      (∀ e, decode data = .error e → ∃ message, e = .invalidPacketError message) := by
  refine ⟨⟨?_, ?_⟩, ?_, fun p h => encode_of_decode hlen h, fun e h => decode_error h⟩
  · rintro ⟨p, h⟩
    exact ⟨p, encodable_of_decode hlen h, encode_of_decode hlen h⟩
  · rintro ⟨p, -, h⟩
    exact ⟨p, decode_of_encode h⟩
  · intro p h
    exact ⟨decode_of_encode h, fun q hq => encode_inj hq h⟩

theorem wire_format_canonical_sample :
    ((∃ p, decode [1, 2, 0, 0, 0, 7, 0, 0, 0, 0, 0, 0, 0, 9, 0, 0] = .ok p) ↔
      ∃ p : Packet, p.Encodable ∧
        p.encode = .ok [1, 2, 0, 0, 0, 7, 0, 0, 0, 0, 0, 0, 0, 9, 0, 0]) ∧
    decode [1, 2, 0, 0, 0, 7, 0, 0, 0, 0, 0, 0, 0, 9, 0, 0] = .ok ⟨.keepalive, 7, 9, []⟩ :=
  ⟨(wire_format_canonical (by decide)).1, by decide⟩

end Packet

end MatfVpn
