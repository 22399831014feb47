/-
# Python exceptions and addresses

The exception classes that cross the functions of the VPN, with the base
classes that its `except` clauses name, `int.to_bytes`, and the IPv4 addresses of
`ipaddress`.
-/
import MatfVpn.Lib.BigEndian

namespace MatfVpn

/-! ## Exceptions -/

/-- The exceptions that the modelled functions raise or meet. -/
inductive PyError where
  | valueError (message : String)
  | invalidPacketError (message : String)
  | overflowError (message : String)
  | structError (message : String)
  | keyError
  | invalidTag
  | osError (message : String)
  | timeoutError (message : String)
  | runtimeError (message : String)
  | recursionError (message : String)
  | calledProcessError
  | systemExit (message : String)
  | keyboardInterrupt
  deriving DecidableEq, Repr

namespace PyError

/-- The classes below `ValueError`. -/
def isValueError : PyError → Bool
  | valueError _ | invalidPacketError _ => true
  | _ => false

/-- The classes below `OSError`; `TimeoutError` and `socket.timeout` are among them. -/
def isOSError : PyError → Bool
  | osError _ | timeoutError _ => true
  | _ => false

/-- The classes below `RuntimeError`. -/
def isRuntimeError : PyError → Bool
  | runtimeError _ | recursionError _ => true
  | _ => false

end PyError

/-- A computation that returned has returned its value. -/
theorem eq_ok_get {ε α : Type} {x : Except ε α} (h : x.toOption.isSome) :
    x = .ok (x.toOption.get h) := by
  cases x with
  | error e => cases h
  | ok a => rfl

/-- **Sequencing.** A sequence of two computations returns when both do. -/
theorem except_bind_eq_ok {ε α β : Type} {x : Except ε α} {f : α → Except ε β} {b : β} :
    (x >>= f) = .ok b ↔ ∃ a, x = .ok a ∧ f a = .ok b := by
  cases x with
  | error e => exact ⟨nofun, fun ⟨_, ha, _⟩ => nomatch ha⟩
  | ok a => exact ⟨fun h => ⟨a, rfl, h⟩, fun ⟨_, ha, hb⟩ => Except.ok.inj ha ▸ hb⟩

/-- A sequence of two computations raises when one of them does. -/
theorem except_bind_eq_error {ε α β : Type} {x : Except ε α} {f : α → Except ε β} {e : ε} :
    (x >>= f) = .error e ↔ x = .error e ∨ ∃ a, x = .ok a ∧ f a = .error e := by
  cases x with
  | error e' =>
      constructor
      · exact fun h => Or.inl (congrArg Except.error (Except.error.inj h))
      · rintro (h | ⟨_, ha, -⟩)
        · exact congrArg Except.error (Except.error.inj h)
        · cases ha
  | ok a =>
      constructor
      · exact fun h => Or.inr ⟨a, rfl, h⟩
      · rintro (h | ⟨a', ha, h⟩)
        · cases h
        · rw [← Except.ok.inj ha] at h
          exact h

/-- The exception of a call that raised one. -/
def raised? {α : Type} : Except PyError α → Option PyError
  | .ok _ => none
  | .error e => some e

/-- A check that raises was passed when the computation returns. -/
theorem ite_error_eq_ok {ε α : Type} {c : Prop} [Decidable c] {e : ε} {x : Except ε α} {a : α} :
    (if c then .error e else x) = .ok a ↔ ¬ c ∧ x = .ok a := by
  by_cases hc : c
  · rw [if_pos hc]
    exact ⟨nofun, fun h => absurd hc h.1⟩
  · rw [if_neg hc]
    exact ⟨fun h => ⟨hc, h⟩, fun h => h.2⟩

/-- `n.to_bytes(width, "big")` for a non-negative `n`. -/
def intToBytes (n width : ℕ) : Except PyError Bytes :=
  if n < 256 ^ width then .ok (BigEndian.toBytes width n)
  else .error (.overflowError "int too big to convert")

theorem intToBytes_of_lt {n width : ℕ} (h : n < 256 ^ width) :
    intToBytes n width = .ok (BigEndian.toBytes width n) := if_pos h

theorem intToBytes_eq_ok {n width : ℕ} {b : Bytes} (h : intToBytes n width = .ok b) :
    n < 256 ^ width ∧ b = BigEndian.toBytes width n := by
  unfold intToBytes at h
  split at h
  · rename_i hlt
    exact ⟨hlt, (Except.ok.inj h).symm⟩
  · cases h

/-! ## IPv4 addresses -/

/-- An `ipaddress.IPv4Address`, as its 32-bit number. -/
structure IPv4Address where
  value : ℕ
  isLt : value < 2 ^ 32
  deriving DecidableEq, Repr

namespace IPv4Address

/-- `ipaddress.IPv4Address(packed)` for a byte string. -/
def ofPacked (packed : Bytes) : Except PyError IPv4Address :=
  if h : packed.length = 4 then
    .ok ⟨BigEndian.fromBytes packed, by
      have := BigEndian.fromBytes_lt packed
      rw [h] at this
      exact this⟩
  else .error (.valueError "4 bytes are required")

/-- The address with the given dotted octets. -/
def ofOctets (a b c d : UInt8) : IPv4Address :=
  ⟨BigEndian.fromBytes [a, b, c, d], by
    have h := BigEndian.fromBytes_lt [a, b, c, d]
    rwa [show 256 ^ [a, b, c, d].length = 2 ^ 32 by simp] at h⟩

end IPv4Address

/-- `transport.Address`: a UDP address.  The host of an IPv4 socket is always the
canonical text of an IPv4 address, so the address itself stands for it. -/
structure Address where
  host : IPv4Address
  port : ℕ
  deriving DecidableEq, Repr

end MatfVpn
