/-
# UDP transport and TUN device (`transport.py`, `tun.py`)

The effects of an endpoint on its surroundings, and the calls that make them.  What the
operating system answers (a received datagram, a failed send, the number of bytes
written) is an argument of the call.
-/
import MatfVpn.Crypto

namespace MatfVpn

open Program

/-- What an endpoint does, in order. -/
inductive Effect (τ : Type) where
  /-- A call into the cryptography package. -/
  | crypto (call : CryptoCall)
  /-- `select.select` with this timeout. -/
  | select (timeout : Option τ)
  /-- A datagram handed to `sendto`; `plain` records the packet before encryption. -/
  | send (plain : Packet) (data : Bytes) (destination : Address)
  /-- A datagram returned by `recvfrom`. -/
  | receive (data : Bytes) (source : Address)
  /-- `os.write` on the TUN device. -/
  | write (payload : Bytes)
  deriving DecidableEq

variable {τ σ : Type}

/-- `UdpTransport.send`; `failure` is the exception of `sendto`, if any. -/
def transportSend (plain packet : Packet) (destination : Address) (failure : Option PyError) :
    Program PyError (Effect τ) σ Unit := do
  let data ← ofExcept packet.encode
  match failure with
  | some e => raise e
  | none => emit (.send plain data destination)

/-- `UdpTransport.receive`, for what `recvfrom` returns or raises. -/
def transportReceive (arrival : Except PyError (Bytes × Address)) :
    Program PyError (Effect τ) σ (Packet × Address) := do
  let (datagram, source) ← ofExcept arrival
  let data := datagram.take maxUdpDatagramSize
  emit (.receive data source)
  let packet ← ofExcept (Packet.decode data)
  return (packet, source)

/-- `TunDevice.write`, for what `os.write` answers. -/
def tunWrite (payload : Bytes) (answer : Bytes → Except PyError ℕ) :
    Program PyError (Effect τ) σ ℕ := do
  emit (.write payload)
  ofExcept (answer payload)

/-! ## The effects of a trace -/

namespace Effect

/-- The cryptographic call of an effect. -/
def crypto? : Effect τ → Option CryptoCall
  | crypto call => some call
  | _ => none

/-- The sent datagram of an effect, with the packet before encryption. -/
def send? : Effect τ → Option (Packet × Bytes × Address)
  | send plain data destination => some (plain, data, destination)
  | _ => none

/-- The TUN write of an effect. -/
def write? : Effect τ → Option Bytes
  | write payload => some payload
  | _ => none

end Effect

/-- The cryptographic calls of a trace. -/
def cryptoCalls (trace : List (Effect τ)) : List CryptoCall := trace.filterMap Effect.crypto?

/-- The datagrams sent in a trace, with the packets before encryption. -/
def sends (trace : List (Effect τ)) : List (Packet × Bytes × Address) :=
  trace.filterMap Effect.send?

/-- The payloads written to the TUN device in a trace. -/
def writes (trace : List (Effect τ)) : List Bytes := trace.filterMap Effect.write?

@[simp] theorem cryptoCalls_append (s t : List (Effect τ)) :
    cryptoCalls (s ++ t) = cryptoCalls s ++ cryptoCalls t := List.filterMap_append

@[simp] theorem sends_append (s t : List (Effect τ)) : sends (s ++ t) = sends s ++ sends t :=
  List.filterMap_append

@[simp] theorem writes_append (s t : List (Effect τ)) :
    writes (s ++ t) = writes s ++ writes t := List.filterMap_append

/-- Nothing is written by effects that are no writes. -/
theorem writes_eq_nil {t : List (Effect τ)} (h : ∀ e ∈ t, ∀ payload, e ≠ .write payload) :
    writes t = [] := by
  refine List.filterMap_eq_nil_iff.2 fun e he => ?_
  cases e with
  | write payload => exact absurd rfl (h _ he payload)
  | crypto call => rfl
  | select timeout => rfl
  | send plain data destination => rfl
  | receive data source => rfl

@[simp] theorem cryptoCalls_nil : cryptoCalls ([] : List (Effect τ)) = [] := rfl
@[simp] theorem sends_nil : sends ([] : List (Effect τ)) = [] := rfl
@[simp] theorem writes_nil : writes ([] : List (Effect τ)) = [] := rfl

section cons

variable (t : List (Effect τ)) (call : CryptoCall) (timeout : Option τ) (plain : Packet)
  (data payload : Bytes) (address : Address)

@[simp] theorem cryptoCalls_crypto : cryptoCalls (.crypto call :: t) = call :: cryptoCalls t := rfl
@[simp] theorem cryptoCalls_select : cryptoCalls (.select timeout :: t) = cryptoCalls t := rfl
@[simp] theorem cryptoCalls_send :
    cryptoCalls (.send plain data address :: t) = cryptoCalls t := rfl
@[simp] theorem cryptoCalls_receive :
    cryptoCalls (.receive data address :: t) = cryptoCalls t := rfl
@[simp] theorem cryptoCalls_write : cryptoCalls (.write payload :: t) = cryptoCalls t := rfl

@[simp] theorem sends_crypto : sends (.crypto call :: t) = sends t := rfl
@[simp] theorem sends_select : sends (.select timeout :: t) = sends t := rfl
@[simp] theorem sends_send :
    sends (.send plain data address :: t) = (plain, data, address) :: sends t := rfl
@[simp] theorem sends_receive : sends (.receive data address :: t) = sends t := rfl
@[simp] theorem sends_write : sends (.write payload :: t) = sends t := rfl

@[simp] theorem writes_crypto : writes (.crypto call :: t) = writes t := rfl
@[simp] theorem writes_select : writes (.select timeout :: t) = writes t := rfl
@[simp] theorem writes_send : writes (.send plain data address :: t) = writes t := rfl
@[simp] theorem writes_receive : writes (.receive data address :: t) = writes t := rfl
@[simp] theorem writes_write : writes (.write payload :: t) = payload :: writes t := rfl

end cons

@[simp] theorem cryptoCalls_map_crypto (log : List CryptoCall) :
    cryptoCalls (log.map (Effect.crypto : CryptoCall → Effect τ)) = log := by
  rw [cryptoCalls, List.filterMap_map]
  exact List.filterMap_some

@[simp] theorem sends_map_crypto (log : List CryptoCall) :
    sends (log.map (Effect.crypto : CryptoCall → Effect τ)) = [] := by
  rw [sends, List.filterMap_map]
  exact List.filterMap_eq_nil_iff.2 fun _ _ => rfl

@[simp] theorem writes_map_crypto (log : List CryptoCall) :
    writes (log.map (Effect.crypto : CryptoCall → Effect τ)) = [] := by
  rw [writes, List.filterMap_map]
  exact List.filterMap_eq_nil_iff.2 fun _ _ => rfl

/-! ## Specifications of the calls -/

/-- How `UdpTransport.send` ends: the datagram is sent, or the call raises and nothing is. -/
inductive SendEnds (plain packet : Packet) (destination : Address) (failure : Option PyError) :
    Except PyError Unit → List (Effect τ) → Prop where
  | sent (data : Bytes) : packet.encode = .ok data →
      SendEnds plain packet destination failure (.ok ()) [.send plain data destination]
  | invalid (e : PyError) : packet.encode = .error e →
      SendEnds plain packet destination failure (.error e) []
  | refused (e : PyError) : failure = some e →
      SendEnds plain packet destination failure (.error e) []

/-- `UdpTransport.send` leaves the state alone. -/
theorem transportSend_spec (plain packet : Packet) (destination : Address)
    (failure : Option PyError) (s : σ) :
    wp (transportSend plain packet destination failure : Program PyError (Effect τ) σ Unit) s
      fun r s' t => s' = s ∧ SendEnds plain packet destination failure r t := by
  unfold transportSend
  rw [wp_bind, wp_ofExcept]
  cases hencode : packet.encode with
  | error e => exact ⟨rfl, .invalid e hencode⟩
  | ok data =>
    cases failure with
    | none => exact ⟨rfl, .sent data hencode⟩
    | some e => exact ⟨rfl, .refused e rfl⟩

/-- A packet that encodes is sent when the operating system accepts the datagram. -/
theorem transportSend_of_encode {plain packet : Packet} {data : Bytes}
    (h : packet.encode = .ok data) (destination : Address) (s : σ) :
    (transportSend plain packet destination none : Program PyError (Effect τ) σ Unit) s
      = ⟨.ok (), s, [.send plain data destination]⟩ := by
  rw [transportSend, h]
  rfl

/-- A packet that encodes is not sent when the operating system refuses the datagram. -/
theorem transportSend_failed {plain packet : Packet} {data : Bytes}
    (h : packet.encode = .ok data) (destination : Address) (e : PyError) (s : σ) :
    (transportSend plain packet destination (some e) : Program PyError (Effect τ) σ Unit) s
      = ⟨.error e, s, []⟩ := by
  rw [transportSend, h]
  rfl

/-- What `UdpTransport.receive` does with a received datagram. -/
theorem transportReceive_spec (datagram : Bytes) (source : Address) (s : σ) :
    wp (transportReceive (.ok (datagram, source)) : Program PyError (Effect τ) σ _) s
      (fun r s' t => s' = s ∧ t = [.receive (datagram.take maxUdpDatagramSize) source] ∧
        r = (Packet.decode (datagram.take maxUdpDatagramSize)).map fun packet =>
          (packet, source)) := by
  unfold transportReceive
  simp only [ofExcept_ok, wp_pure_bind, wp_emit_bind]
  rw [wp_bind, wp_ofExcept]
  cases Packet.decode (datagram.take maxUdpDatagramSize) with
  | error e => exact ⟨rfl, rfl, rfl⟩
  | ok packet => exact ⟨rfl, rfl, rfl⟩

/-- A datagram that encodes a packet is received as this packet. -/
theorem transportReceive_of_encode {packet : Packet} {data : Bytes}
    (hdata : packet.encode = .ok data) (source : Address) (s : σ) :
    (transportReceive (.ok (data, source)) : Program PyError (Effect τ) σ _) s
      = ⟨.ok (packet, source), s, [.receive data source]⟩ := by
  have htake : data.take maxUdpDatagramSize = data :=
    List.take_of_length_le (Packet.length_encode_le hdata)
  unfold transportReceive
  show (emit (Effect.receive (data.take maxUdpDatagramSize) source) >>= fun _ =>
    ofExcept (Packet.decode (data.take maxUdpDatagramSize)) >>= _) s = _
  rw [htake, Packet.decode_of_encode hdata]
  rfl

end MatfVpn
