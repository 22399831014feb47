/-
# Numbers and addresses in texts

`int(text)` and `float(text)` of Python, and the `IPv4_ADDRESS:PORT` texts of the command
line and the configuration files.

* `parseIPv4_lt` : a dotted address is a number of 32 bits.
-/
import MatfVpn.Config
import MatfVpn.Lib.Binary64

namespace MatfVpn

/-! ## Numbers -/

/-- The code points of the zeros of Unicode; the digits of each follow it. -/
def decimalZeros : List ℕ :=
  [0x30, 0x660, 0x6F0, 0x7C0, 0x966, 0x9E6, 0xA66, 0xAE6, 0xB66, 0xBE6, 0xC66, 0xCE6, 0xD66,
    0xDE6, 0xE50, 0xED0, 0xF20, 0x1040, 0x1090, 0x17E0, 0x1810, 0x1946, 0x19D0, 0x1A80, 0x1A90,
    0x1B50, 0x1BB0, 0x1C40, 0x1C50, 0xA620, 0xA8D0, 0xA900, 0xA9D0, 0xA9F0, 0xAA50, 0xABF0,
    0xFF10, 0x104A0, 0x10D30, 0x11066, 0x110F0, 0x11136, 0x111D0, 0x112F0, 0x11450, 0x114D0,
    0x11650, 0x116C0, 0x11730, 0x118E0, 0x11950, 0x11C50, 0x11D50, 0x11DA0, 0x16A60, 0x16AC0,
    0x16B50, 0x1D7CE, 0x1D7D8, 0x1D7E2, 0x1D7EC, 0x1D7F6, 0x1E140, 0x1E2F0, 0x1E950, 0x1FBF0]

/-- `unicodedata.decimal(c)`. -/
def decimalDigit? (c : Char) : Option ℕ :=
  (decimalZeros.find? fun first => first ≤ c.toNat ∧ c.toNat < first + 10).map fun first =>
    c.toNat - first

/-- The white space that may surround a number. -/
def isNumberSpace (c : Char) : Bool :=
  c = ' ' || (9 ≤ c.toNat && c.toNat ≤ 13) || (0x2000 ≤ c.toNat && c.toNat ≤ 0x200A) ||
    [0x85, 0xA0, 0x1680, 0x2028, 0x2029, 0x202F, 0x205F, 0x3000].contains c.toNat

/-- A text without the white space around it. -/
def stripNumber (text : List Char) : List Char :=
  ((text.dropWhile isNumberSpace).reverse.dropWhile isNumberSpace).reverse

/-- `c.isspace()`. -/
def isUnicodeSpace (c : Char) : Bool := isNumberSpace c || (0x1C ≤ c.toNat && c.toNat ≤ 0x1F)

/-- `text.strip()`. -/
def pyStrip (text : List Char) : List Char :=
  ((text.dropWhile isUnicodeSpace).reverse.dropWhile isUnicodeSpace).reverse

/-- The sign in front of a number is a minus, and the text after it. -/
def readSign : List Char → Bool × List Char
  | '-' :: rest => (true, rest)
  | '+' :: rest => (false, rest)
  | text => (false, text)

/-- Digits, with single underscores between them. -/
def digits? : List Char → Option (List ℕ)
  | [] => none
  | [c] => (decimalDigit? c).map fun digit => [digit]
  | c :: '_' :: rest => do return (← decimalDigit? c) :: (← digits? rest)
  | c :: rest => do return (← decimalDigit? c) :: (← digits? rest)

/-- The number that digits denote. -/
def ofDigits (digits : List ℕ) : ℕ := digits.foldl (fun n digit => 10 * n + digit) 0

/-- A number with its sign. -/
def signed (negative : Bool) (n : ℕ) : ℤ := if negative then -n else n

/-- `int(text)`, with `none` for `ValueError`. -/
def pyInt? (text : List Char) : Option ℤ := do
  let (negative, body) := readSign (stripNumber text)
  let digits ← digits? body
  -- the default of `sys.set_int_max_str_digits`
  if digits.length > 4300 then none else some (signed negative (ofDigits digits))

/-- The value of a decimal number without sign, in lower case. -/
def decimalValue? (text : List Char) : Option ℚ := do
  let (mantissa, exponent) := text.span (· ≠ 'e')
  let (whole, fraction) := mantissa.span (· ≠ '.')
  let wholeDigits ← if whole = [] then some [] else digits? whole
  let fractionDigits ← if fraction.tail = [] then some [] else digits? fraction.tail
  if wholeDigits ++ fractionDigits = [] then none
  else
    let (negative, exponentText) := readSign exponent.tail
    let exponentDigits ← if exponent = [] then some [] else digits? exponentText
    return (ofDigits (wholeDigits ++ fractionDigits) : ℚ) *
      10 ^ (signed negative (ofDigits exponentDigits) - fractionDigits.length)

/-- `float(text)`, with `none` for `ValueError`. -/
def pyFloat? (text : List Char) : Option Binary64 :=
  let (negative, body) := readSign (stripNumber text)
  let body := body.map Char.toLower
  if body = "nan".toList then some .nan
  else if body = "inf".toList ∨ body = "infinity".toList then some (.infinity negative)
  else (decimalValue? body).map fun value => .round (if negative then -value else value)

/-! ## Addresses -/

theorem parseOctet_le {text : List Char} {n : ℕ} (h : parseOctet text = some n) : n ≤ 255 := by
  unfold parseOctet at h
  split at h
  · cases h
  split at h
  · cases h
  split at h
  · cases h
  · rename_i hle
    rw [← Option.some.inj h]
    exact Nat.not_lt.1 hle

/-- An address has 32 bits. -/
theorem parseIPv4_lt {text : List Char} {n : ℕ} (h : parseIPv4 text = some n) : n < 2 ^ 32 := by
  unfold parseIPv4 at h
  split at h
  · simp only [Option.bind_eq_bind, Option.bind_eq_some_iff, Option.pure_def,
      Option.some.injEq] at h
    obtain ⟨a, ha, b, hb, c, hc, d, hd, rfl⟩ := h
    have := parseOctet_le ha
    have := parseOctet_le hb
    have := parseOctet_le hc
    have := parseOctet_le hd
    omega
  · cases h

/-- `ipaddress.IPv4Address(text)`, with `none` for `AddressValueError`. -/
def IPv4Address.ofText? (text : List Char) : Option IPv4Address :=
  match h : parseIPv4 text with
  | some n => some ⟨n, parseIPv4_lt h⟩
  | none => none

/-- `text.rsplit(":", 1)`, with `none` where there is no colon. -/
def rsplitColon? (text : List Char) : Option (List Char × List Char) :=
  let port := (text.reverse.takeWhile (· ≠ ':')).reverse
  if port.length = text.length then none
  else some (text.take (text.length - port.length - 1), port)

/-- The address in an `IPv4_ADDRESS:PORT` text, with the two exceptions of its readers. -/
def parseAddress {ε : Type} (malformed badPort : ε) (text : List Char) : Except ε Address :=
  match rsplitColon? text with
  | none => .error malformed
  | some (rawHost, rawPort) =>
      match IPv4Address.ofText? rawHost, pyInt? rawPort with
      | some host, some port =>
          if ¬ (1 ≤ port ∧ port ≤ 65535) then .error badPort else .ok ⟨host, port.toNat⟩
      | _, _ => .error malformed

end MatfVpn
