/-
# Big-endian byte strings

Fixed-width big-endian encodings of natural numbers: `toBytes w n` writes the
low `w` bytes of `n`, `fromBytes` reads a byte string back.

* `fromBytes_toBytes` : reading a written number back gives it modulo `256 ^ w`;
* `toBytes_fromBytes` : writing a read number back gives the byte string;
* `toBytes_inj` : numbers below `256 ^ w` have different encodings.
-/
import Mathlib.Data.Nat.Notation
import Mathlib.Tactic.Ring

/-- A byte string. -/
abbrev Bytes := List UInt8

namespace BigEndian

/-! ## Encoding and decoding -/

/-- The `w` low bytes of `n`, most significant byte first. -/
def toBytes : ℕ → ℕ → Bytes
  | 0, _ => []
  | w + 1, n => UInt8.ofNat (n / 256 ^ w) :: toBytes w n

/-- The number a byte string denotes, most significant byte first. -/
def fromBytes : Bytes → ℕ
  | [] => 0
  | b :: rest => b.toNat * 256 ^ rest.length + fromBytes rest

@[simp] theorem length_toBytes (w n : ℕ) : (toBytes w n).length = w := by
  induction w with
  | zero => rfl
  | succ w ih => simp [toBytes, ih]

/-- A byte string of width `w` denotes a number below `256 ^ w`. -/
theorem fromBytes_lt (b : Bytes) : fromBytes b < 256 ^ b.length := by
  induction b with
  | nil => simp [fromBytes]
  | cons x rest ih =>
      have hx : x.toNat + 1 ≤ 256 := x.toNat_lt
      have hmul : (x.toNat + 1) * 256 ^ rest.length ≤ 256 * 256 ^ rest.length :=
        Nat.mul_le_mul_right _ hx
      rw [fromBytes, List.length_cons, pow_succ, mul_comm (256 ^ rest.length)]
      rw [add_mul, one_mul] at hmul
      omega

/-- Writing does not see the bytes above the width. -/
theorem toBytes_add_mul (w n k : ℕ) : toBytes w (n + k * 256 ^ w) = toBytes w n := by
  induction w generalizing k with
  | zero => rfl
  | succ w ih =>
      have hsplit : n + k * 256 ^ (w + 1) = n + (k * 256) * 256 ^ w := by ring
      rw [toBytes, toBytes, hsplit, ih (k * 256)]
      congr 1
      rw [Nat.add_mul_div_right _ _ (Nat.pow_pos (by decide)), UInt8.ofNat_add]
      rw [UInt8.ofNat_mul]
      have h256 : UInt8.ofNat 256 = 0 := rfl
      rw [h256]
      simp

/-- **Round trip.** Reading back a written number gives it modulo `256 ^ w`. -/
theorem fromBytes_toBytes (w n : ℕ) : fromBytes (toBytes w n) = n % 256 ^ w := by
  induction w with
  | zero => simp [toBytes, fromBytes, Nat.mod_one]
  | succ w ih =>
      rw [toBytes, fromBytes, length_toBytes, ih, UInt8.toNat_ofNat']
      have hsplit : n % 256 ^ (w + 1) = n % 256 ^ w + 256 ^ w * (n / 256 ^ w % 256) := by
        rw [pow_succ, Nat.mod_mul]
      rw [hsplit, show 2 ^ 8 = 256 from rfl]
      ring

/-- Reading back a number that fits gives that number. -/
theorem fromBytes_toBytes_of_lt {w n : ℕ} (h : n < 256 ^ w) :
    fromBytes (toBytes w n) = n := by
  rw [fromBytes_toBytes, Nat.mod_eq_of_lt h]

/-- **Round trip.** Writing back a read number gives the byte string. -/
theorem toBytes_fromBytes (b : Bytes) : toBytes b.length (fromBytes b) = b := by
  induction b with
  | nil => rfl
  | cons x rest ih =>
      have hlt := fromBytes_lt rest
      have hdiv : (x.toNat * 256 ^ rest.length + fromBytes rest) / 256 ^ rest.length
          = x.toNat := by
        rw [add_comm, Nat.add_mul_div_right _ _ (Nat.pow_pos (by decide)),
          Nat.div_eq_of_lt hlt, zero_add]
      rw [fromBytes, List.length_cons, toBytes, hdiv, add_comm, toBytes_add_mul, ih,
        UInt8.ofNat_toNat]

/-- Numbers that fit the width have different encodings. -/
theorem toBytes_inj {w m n : ℕ} (hm : m < 256 ^ w) (hn : n < 256 ^ w)
    (h : toBytes w m = toBytes w n) : m = n := by
  rw [← fromBytes_toBytes_of_lt hm, h, fromBytes_toBytes_of_lt hn]

end BigEndian
