/-
# JSON texts

The compact ASCII texts of JSON values, and a reader that accepts all JSON texts.  A number is
kept as its text, so that the reader does not depend on what numbers mean.  `NaN`, `Infinity`
and `-Infinity` count as numbers.

* `decode_encode` : the reader inverts the writer;
* `isPrintable_of_mem_encode` : a text that was written has no control characters.
-/
import Mathlib.Data.List.Basic
import Mathlib.Data.List.TakeWhile
import Mathlib.Data.Nat.Notation
import Mathlib.Tactic.NormNum

namespace JsonText

/-! ## Numbers -/

/-- A digit of a number. -/
def isDigit (c : Char) : Bool := '0' ≤ c && c ≤ '9'

/-- Digits, at least one. -/
def isDigits (text : List Char) : Bool := !text.isEmpty && text.all isDigit

/-- The integer part: digits, where a zero stands alone. -/
def isWhole (text : List Char) : Bool := isDigits text && (text.head? ≠ some '0' || text = ['0'])

/-- A fraction with its point, or nothing. -/
def isFraction : List Char → Bool
  | [] => true
  | c :: digits => c = '.' && isDigits digits

/-- The digits of an exponent, after a sign or without one. -/
def isSigned : List Char → Bool
  | '+' :: digits | '-' :: digits => isDigits digits
  | digits => isDigits digits

/-- An exponent with its letter, or nothing. -/
def isExponent : List Char → Bool
  | [] => true
  | c :: digits => (c = 'e' || c = 'E') && isSigned digits

/-- A number without its sign. -/
def isUnsigned (text : List Char) : Bool :=
  text = "Infinity".toList ||
    let (mantissa, exponent) := text.span fun c => c ≠ 'e' && c ≠ 'E'
    let (whole, fraction) := mantissa.span (· ≠ '.')
    isWhole whole && isFraction fraction && isExponent exponent

/-- A number. -/
def isNumber : List Char → Bool
  | '-' :: text => isUnsigned text
  | text => text = "NaN".toList || isUnsigned text

/-- The characters of numbers and of the three names. -/
def isTokenCharacter (c : Char) : Bool :=
  isDigit c || ('a' ≤ c && c ≤ 'z') || ('A' ≤ c && c ≤ 'Z') || c = '+' || c = '-' || c = '.'

/-- The text of a number. -/
structure Numeral where
  text : List Char
  isNumber : isNumber text = true
  token : text.all isTokenCharacter = true
  deriving DecidableEq

/-! ## Values -/

/-- A JSON value. -/
inductive Tree where
  | null
  | bool (value : Bool)
  | number (numeral : Numeral)
  | string (text : String)
  | array (items : List Tree)
  | object (fields : List (String × Tree))

/-! ## Writing -/

/-- Four hexadecimal digits. -/
def hex4 (n : ℕ) : List Char :=
  [Nat.digitChar (n / 4096 % 16), Nat.digitChar (n / 256 % 16), Nat.digitChar (n / 16 % 16),
    Nat.digitChar (n % 16)]

/-- A code unit of UTF-16 as an escape. -/
def unitEscape (n : ℕ) : List Char := '\\' :: 'u' :: hex4 n

/-- A character of a string; the characters outside of ASCII are escaped. -/
def escape (c : Char) : List Char :=
  if c = '"' then ['\\', '"']
  else if c = '\\' then ['\\', '\\']
  else if c = '\n' then ['\\', 'n']
  else if c = '\r' then ['\\', 'r']
  else if c = '\t' then ['\\', 't']
  else if c.toNat = 0x0C then ['\\', 'f']
  else if c.toNat = 0x08 then ['\\', 'b']
  else if 0x20 ≤ c.toNat ∧ c.toNat ≤ 0x7E then [c]
  else if c.toNat < 0x10000 then unitEscape c.toNat
  else
    unitEscape (0xD800 + (c.toNat - 0x10000) / 0x400) ++
      unitEscape (0xDC00 + (c.toNat - 0x10000) % 0x400)

/-- A string in its quotes. -/
def encodeString (text : String) : List Char := '"' :: (text.toList.flatMap escape ++ ['"'])

mutual

/-- The compact text of a value. -/
def encode : Tree → List Char
  | .null => "null".toList
  | .bool true => "true".toList
  | .bool false => "false".toList
  | .number numeral => numeral.text
  | .string text => encodeString text
  | .array items => '[' :: encodeItems items
  | .object fields => '\x7b' :: encodeFields fields

/-- The items of an array and its closing bracket. -/
def encodeItems : List Tree → List Char
  | [] => [']']
  | [item] => encode item ++ [']']
  | item :: items => encode item ++ ',' :: encodeItems items

/-- The fields of an object and its closing bracket. -/
def encodeFields : List (String × Tree) → List Char
  | [] => ['\x7d']
  | [(key, value)] => encodeString key ++ ':' :: (encode value ++ ['\x7d'])
  | (key, value) :: fields =>
      encodeString key ++ ':' :: (encode value ++ ',' :: encodeFields fields)

end

/-! ## Reading -/

/-- The white space between the parts of a text. -/
def isSpace (c : Char) : Bool := c = ' ' || c = '\t' || c = '\n' || c = '\r'

/-- The text after its white space. -/
def skip (text : List Char) : List Char := text.dropWhile isSpace

/-- The value of a hexadecimal digit. -/
def hexValue? (c : Char) : Option ℕ :=
  if isDigit c then some (c.toNat - 48)
  else if 'a' ≤ c ∧ c ≤ 'f' then some (c.toNat - 87)
  else if 'A' ≤ c ∧ c ≤ 'F' then some (c.toNat - 55)
  else none

/-- Four hexadecimal digits, and the text after them. -/
def readHex4? : List Char → Option (ℕ × List Char)
  | a :: b :: c :: d :: rest => do
      return (4096 * (← hexValue? a) + 256 * (← hexValue? b) + 16 * (← hexValue? c)
        + (← hexValue? d), rest)
  | _ => none

/-- The second half of a surrogate pair, after the first. -/
def readLow? (high : ℕ) : List Char → Option (Char × List Char)
  | '\\' :: 'u' :: text => do
      let (low, rest) ← readHex4? text
      if 0xDC00 ≤ low ∧ low < 0xE000 then
        some (Char.ofNat (0x10000 + 0x400 * (high - 0xD800) + (low - 0xDC00)), rest)
      else none
  | _ => none

/-- The character of an escape, after the `\u`.  No text has a surrogate alone. -/
def readUnit? (text : List Char) : Option (Char × List Char) := do
  let (unit, rest) ← readHex4? text
  if 0xD800 ≤ unit ∧ unit < 0xDC00 then readLow? unit rest
  else if 0xDC00 ≤ unit ∧ unit < 0xE000 then none
  else some (Char.ofNat unit, rest)

/-- The character of a short escape, after the backslash. -/
def unescaped? (c : Char) : Option Char :=
  if c = '"' ∨ c = '\\' ∨ c = '/' then some c
  else if c = 'n' then some '\n'
  else if c = 'r' then some '\r'
  else if c = 't' then some '\t'
  else if c = 'f' then some (Char.ofNat 0x0C)
  else if c = 'b' then some (Char.ofNat 0x08)
  else none

/-- The first character of the rest of a string, which does not end here. -/
def readCharacter? : List Char → Option (Char × List Char)
  | [] => none
  | c :: text =>
      if c = '\\' then
        match text with
        | [] => none
        | 'u' :: text => readUnit? text
        | c :: text => (unescaped? c).map fun c => (c, text)
      else if c = '"' ∨ c.toNat < 0x20 then none
      else some (c, text)

/-- The rest of a string after its opening quote, and the text after the string. -/
def readString? : ℕ → List Char → Option (List Char × List Char)
  | 0, _ => none
  | fuel + 1, text =>
      if text.head? = some '"' then some ([], text.tail)
      else do
        let (c, text) ← readCharacter? text
        let (cs, rest) ← readString? fuel text
        return (c :: cs, rest)

/-- A number or one of the three names. -/
def readToken? (text : List Char) : Option Tree :=
  if h : isNumber text = true ∧ text.all isTokenCharacter = true then
    some (.number ⟨text, h.1, h.2⟩)
  else if text = "null".toList then some .null
  else if text = "true".toList then some (.bool true)
  else if text = "false".toList then some (.bool false)
  else none

mutual

/-- The value at the front of a text, and the text after it. -/
def readValue? : ℕ → List Char → Option (Tree × List Char)
  | 0, _ => none
  | fuel + 1, text =>
      match skip text with
      | [] => none
      | c :: text =>
          if c = '"' then do
            let (cs, rest) ← readString? (fuel + 1) text
            return (.string (String.ofList cs), rest)
          else if c = '[' then
            if (skip text).head? = some ']' then some (.array [], (skip text).tail)
            else do
              let (items, rest) ← readItems? fuel text
              return (.array items, rest)
          else if c = '\x7b' then
            if (skip text).head? = some '\x7d' then some (.object [], (skip text).tail)
            else do
              let (fields, rest) ← readFields? fuel text
              return (.object fields, rest)
          else do
            let value ← readToken? ((c :: text).takeWhile isTokenCharacter)
            return (value, (c :: text).dropWhile isTokenCharacter)

/-- The items of an array from one of them on, and the text after the array. -/
def readItems? : ℕ → List Char → Option (List Tree × List Char)
  | 0, _ => none
  | fuel + 1, text => do
      let (item, rest) ← readValue? fuel text
      match skip rest with
      | ',' :: text => do
          let (items, rest) ← readItems? fuel text
          return (item :: items, rest)
      | ']' :: rest => return ([item], rest)
      | _ => none

/-- The fields of an object from one of them on, and the text after the object. -/
def readFields? : ℕ → List Char → Option (List (String × Tree) × List Char)
  | 0, _ => none
  | fuel + 1, text =>
      match skip text with
      | '"' :: text => do
          let (key, rest) ← readString? (fuel + 1) text
          match skip rest with
          | ':' :: text => do
              let (value, rest) ← readValue? fuel text
              match skip rest with
              | ',' :: text => do
                  let (fields, rest) ← readFields? fuel text
                  return ((String.ofList key, value) :: fields, rest)
              | '\x7d' :: rest => return ([(String.ofList key, value)], rest)
              | _ => none
          | _ => none
      | _ => none

end

/-- The value of a text. -/
def decode (text : List Char) : Option Tree := do
  let (value, rest) ← readValue? text.length text
  if skip rest = [] then some value else none

/-! ## Characters of strings -/

theorem hexValue?_digitChar : ∀ n < 16, hexValue? (Nat.digitChar n) = some n := by decide

theorem readHex4?_hex4 {n : ℕ} (h : n < 0x10000) (rest : List Char) :
    readHex4? (hex4 n ++ rest) = some (n, rest) := by
  have hdigit : ∀ m, hexValue? (Nat.digitChar (m % 16)) = some (m % 16) :=
    fun m => hexValue?_digitChar _ (Nat.mod_lt m (by decide))
  have hsum : 4096 * (n / 4096 % 16) + 256 * (n / 256 % 16) + 16 * (n / 16 % 16) + n % 16 = n := by
    omega
  simp only [hex4, List.cons_append, List.nil_append, readHex4?, hdigit, Option.bind_eq_bind,
    Option.bind_some, hsum]
  rfl

/-- A character is not a surrogate. -/
theorem toNat_cases (c : Char) : c.toNat < 0xD800 ∨ 0xDFFF < c.toNat ∧ c.toNat < 0x110000 :=
  c.valid

/-- **A character of the basic plane** is read from its escape. -/
theorem readUnit?_hex4 {c : Char} (h : c.toNat < 0x10000) (rest : List Char) :
    readUnit? (hex4 c.toNat ++ rest) = some (c, rest) := by
  have hc := toNat_cases c
  simp only [readUnit?, readHex4?_hex4 h, Option.bind_eq_bind, Option.bind_some]
  rw [if_neg (by omega), if_neg (by omega), Char.ofNat_toNat]

/-- Two surrogates are read as one character. -/
theorem readUnit?_pair {high low : ℕ} (hhigh : 0xD800 ≤ high ∧ high < 0xDC00)
    (hlow : 0xDC00 ≤ low ∧ low < 0xE000) (rest : List Char) :
    readUnit? (hex4 high ++ (unitEscape low ++ rest))
      = some (Char.ofNat (0x10000 + 0x400 * (high - 0xD800) + (low - 0xDC00)), rest) := by
  have hread : readLow? high (unitEscape low ++ rest)
      = some (Char.ofNat (0x10000 + 0x400 * (high - 0xD800) + (low - 0xDC00)), rest) := by
    simp only [unitEscape, List.cons_append, readLow?, readHex4?_hex4 (show low < 0x10000 by omega),
      Option.bind_eq_bind, Option.bind_some, if_pos hlow]
  simp only [readUnit?, readHex4?_hex4 (show high < 0x10000 by omega), Option.bind_eq_bind,
    Option.bind_some, if_pos hhigh, hread]

/-- **Another character** is read from its two surrogates. -/
theorem readUnit?_surrogates {c : Char} (h : 0x10000 ≤ c.toNat) (rest : List Char) :
    readUnit? (hex4 (0xD800 + (c.toNat - 0x10000) / 0x400) ++
      (unitEscape (0xDC00 + (c.toNat - 0x10000) % 0x400) ++ rest)) = some (c, rest) := by
  have hc := toNat_cases c
  have hsum : 0x10000 + 0x400 * (0xD800 + (c.toNat - 0x10000) / 0x400 - 0xD800)
      + (0xDC00 + (c.toNat - 0x10000) % 0x400 - 0xDC00) = c.toNat := by omega
  rw [readUnit?_pair (by omega) (by omega), hsum, Char.ofNat_toNat]

/-- **A character** is read from its escape. -/
theorem readCharacter?_escape (c : Char) (rest : List Char) :
    readCharacter? (escape c ++ rest) = some (c, rest) := by
  unfold escape
  split_ifs with h1 h2 h3 h4 h5 h6 h7 h8 h9
  · rw [h1]; rfl
  · rw [h2]; rfl
  · rw [h3]; rfl
  · rw [h4]; rfl
  · rw [h5]; rfl
  · rw [← Char.ofNat_toNat c, h6]; rfl
  · rw [← Char.ofNat_toNat c, h7]; rfl
  · show (if c = '\\' then _ else if c = '"' ∨ c.toNat < 0x20 then none else some (c, rest)) = _
    rw [if_neg h2, if_neg (by rw [not_or]; exact ⟨h1, by omega⟩)]
  · exact readUnit?_hex4 h9 rest
  · rw [List.append_assoc]
    exact readUnit?_surrogates (by omega) rest

/-- No escape begins with a quote. -/
theorem head?_escape (c : Char) (rest : List Char) : (escape c ++ rest).head? ≠ some '"' := by
  unfold escape unitEscape
  split_ifs with h1 h2 h3 h4 h5 h6 h7 h8 h9
  all_goals first
    | exact fun h => absurd (Option.some.inj h) h1
    | exact fun h => absurd (Option.some.inj h) (by decide)

/-- **A string** is read from its text. -/
theorem readString?_flatMap_escape (cs rest : List Char) {fuel : ℕ} (h : cs.length < fuel) :
    readString? fuel (cs.flatMap escape ++ '"' :: rest) = some (cs, rest) := by
  induction cs generalizing fuel with
  | nil =>
    obtain ⟨fuel, rfl⟩ := Nat.exists_eq_add_one_of_ne_zero (Nat.ne_zero_of_lt h)
    rfl
  | cons c cs ih =>
    obtain ⟨fuel, rfl⟩ := Nat.exists_eq_add_one_of_ne_zero (Nat.ne_zero_of_lt h)
    rw [List.flatMap_cons, List.append_assoc, readString?, if_neg (head?_escape c _),
      readCharacter?_escape]
    simp only [Option.bind_eq_bind, Option.bind_some, ih (Nat.lt_of_succ_lt_succ h)]
    rfl

theorem length_le_encodeString (text : String) :
    text.toList.length + 2 ≤ (encodeString text).length := by
  have hescape : ∀ c, 1 ≤ (escape c).length := by
    intro c
    have := head?_escape c []
    unfold escape unitEscape
    split_ifs <;> simp
  have hsum : ∀ cs : List Char, cs.length ≤ (cs.flatMap escape).length := by
    intro cs
    induction cs with
    | nil => exact Nat.le_refl 0
    | cons c cs ih =>
      rw [List.flatMap_cons, List.length_append, List.length_cons]
      have := hescape c
      omega
  have := hsum text.toList
  simp only [encodeString, List.length_cons, List.length_append, List.length_nil]
  omega

/-! ## What begins and ends a value -/

/-- The text does not go on with a character of a number or a name. -/
def Follows (rest : List Char) : Prop := ∀ c ∈ rest.head?, isTokenCharacter c = false

/-- The first characters of values. -/
def Opens (c : Char) : Prop :=
  isTokenCharacter c = true ∨ c = '"' ∨ c = '[' ∨ c = '\x7b'

theorem follows_cons {c : Char} (h : isTokenCharacter c = false) (rest : List Char) :
    Follows (c :: rest) := by
  intro other hother
  rwa [← Option.some.inj hother]

theorem Opens.ne {c other : Char} (h : Opens c) (hother : ¬ Opens other) : c ≠ other := by
  rintro rfl
  exact hother h

theorem Opens.not_space {c : Char} (h : Opens c) : isSpace c = false := by
  have h1 : c ≠ ' ' := h.ne (by unfold Opens; decide)
  have h2 : c ≠ '\t' := h.ne (by unfold Opens; decide)
  have h3 : c ≠ '\n' := h.ne (by unfold Opens; decide)
  have h4 : c ≠ '\r' := h.ne (by unfold Opens; decide)
  unfold isSpace
  simp [h1, h2, h3, h4]

/-- The text of a number begins and goes on with characters of tokens. -/
theorem Numeral.exists_cons (numeral : Numeral) : ∃ c text, numeral.text = c :: text ∧
    isTokenCharacter c = true := by
  cases htext : numeral.text with
  | nil =>
    have hnumber := numeral.isNumber
    rw [htext] at hnumber
    exact absurd hnumber (by decide)
  | cons c text =>
    have htoken := numeral.token
    rw [htext, List.all_cons, Bool.and_eq_true] at htoken
    exact ⟨c, text, rfl, htoken.1⟩

theorem exists_encode_eq_cons (tree : Tree) : ∃ c text, encode tree = c :: text ∧ Opens c := by
  cases tree with
  | null => exact ⟨_, _, rfl, Or.inl (by decide)⟩
  | bool value => cases value <;> exact ⟨_, _, rfl, Or.inl (by decide)⟩
  | number numeral =>
    obtain ⟨c, text, htext, hc⟩ := numeral.exists_cons
    exact ⟨c, text, htext, Or.inl hc⟩
  | string text => exact ⟨_, _, rfl, Or.inr (Or.inl rfl)⟩
  | array items => exact ⟨_, _, rfl, Or.inr (Or.inr (Or.inl rfl))⟩
  | object fields => exact ⟨_, _, rfl, Or.inr (Or.inr (Or.inr rfl))⟩

/-- White space is skipped in front of a value only. -/
theorem skip_encode (tree : Tree) (rest : List Char) :
    skip (encode tree ++ rest) = encode tree ++ rest := by
  obtain ⟨c, text, htext, hc⟩ := exists_encode_eq_cons tree
  rw [htext, List.cons_append]
  exact List.dropWhile_cons_of_neg (by rw [hc.not_space]; exact Bool.false_ne_true)

/-- The first item of an array is not its end. -/
theorem head?_encode (tree : Tree) (rest : List Char) {c : Char} (hc : ¬ Opens c) :
    (encode tree ++ rest).head? ≠ some c := by
  obtain ⟨first, text, htext, hfirst⟩ := exists_encode_eq_cons tree
  rw [htext]
  exact fun h => hfirst.ne hc (Option.some.inj h)

/-! ## Reading what was written -/

/-- **A number or a name** is read back. -/
theorem readValue?_token {tree : Tree} {token rest : List Char} {fuel : ℕ}
    (htoken : token.all isTokenCharacter = true) (hread : readToken? token = some tree)
    (hne : token ≠ []) (hrest : Follows rest) :
    readValue? (fuel + 1) (token ++ rest) = some (tree, rest) := by
  obtain ⟨c, text, rfl⟩ := List.exists_cons_of_ne_nil hne
  have hc : isTokenCharacter c = true := by
    rw [List.all_cons, Bool.and_eq_true] at htoken
    exact htoken.1
  have hopens : Opens c := Or.inl hc
  have hend : rest.takeWhile isTokenCharacter = [] ∧ rest.dropWhile isTokenCharacter = rest := by
    cases rest with
    | nil => exact ⟨rfl, rfl⟩
    | cons other rest =>
      have hother := hrest other rfl
      exact ⟨List.takeWhile_cons_of_neg (by rw [hother]; exact Bool.false_ne_true),
        List.dropWhile_cons_of_neg (by rw [hother]; exact Bool.false_ne_true)⟩
  have hall : ∀ d ∈ c :: text, isTokenCharacter d = true := List.all_eq_true.1 htoken
  have hskip : skip (c :: (text ++ rest)) = c :: (text ++ rest) :=
    List.dropWhile_cons_of_neg (by rw [hopens.not_space]; exact Bool.false_ne_true)
  have hnot : ∀ d : Char, isTokenCharacter d = false → c ≠ d := by
    rintro d hd rfl
    rw [hc] at hd
    cases hd
  rw [List.cons_append, readValue?]
  simp only [hskip]
  rw [if_neg (hnot '"' (by decide)), if_neg (hnot '[' (by decide)),
    if_neg (hnot '\x7b' (by decide)), ← List.cons_append,
    List.takeWhile_append_of_pos hall, List.dropWhile_append_of_pos hall, hend.1, hend.2,
    List.append_nil, hread]
  rfl

theorem readToken?_numeral (numeral : Numeral) :
    readToken? numeral.text = some (.number numeral) :=
  dif_pos ⟨numeral.isNumber, numeral.token⟩

/-- **A string** is read back. -/
theorem readValue?_string (text : String) (rest : List Char) {fuel : ℕ}
    (h : (encodeString text).length ≤ fuel) :
    readValue? fuel (encodeString text ++ rest) = some (.string text, rest) := by
  have hlength := length_le_encodeString text
  obtain ⟨fuel, rfl⟩ := Nat.exists_eq_add_one_of_ne_zero (show fuel ≠ 0 by omega)
  show (readString? (fuel + 1) (text.toList.flatMap escape ++ ['"'] ++ rest) >>= _) = _
  rw [List.append_assoc, List.singleton_append, readString?_flatMap_escape _ _ (by omega)]
  show some (Tree.string (String.ofList text.toList), rest) = _
  rw [String.ofList_toList]

theorem encodeItems_cons (item : Tree) (items : List Tree) : encodeItems (item :: items)
    = encode item ++ if items = [] then [']'] else ',' :: encodeItems items := by
  cases items <;> rfl

theorem encodeFields_cons (key : String) (value : Tree) (fields : List (String × Tree)) :
    encodeFields ((key, value) :: fields) = encodeString key ++ ':' :: (encode value ++
      if fields = [] then ['\x7d'] else ',' :: encodeFields fields) := by
  cases fields <;> rfl

/-- The text of an object ends with its closing brace. -/
theorem exists_encodeFields_eq (fields : List (String × Tree)) :
    ∃ inner, encodeFields fields = inner ++ ['\x7d'] := by
  induction fields with
  | nil => exact ⟨[], rfl⟩
  | cons field fields ih =>
    obtain ⟨key, value⟩ := field
    obtain ⟨inner, hinner⟩ := ih
    rw [encodeFields_cons, hinner]
    split
    · exact ⟨encodeString key ++ ':' :: encode value, by simp⟩
    · exact ⟨encodeString key ++ ':' :: (encode value ++ ',' :: inner), by simp⟩

/-- An array whose items are read. -/
theorem readValue?_array {item : Tree} {items : List Tree} {rest : List Char} {fuel : ℕ}
    (h : readItems? fuel (encodeItems (item :: items) ++ rest) = some (item :: items, rest)) :
    readValue? (fuel + 1) (encode (.array (item :: items)) ++ rest)
      = some (.array (item :: items), rest) := by
  have hhead : (skip (encodeItems (item :: items) ++ rest)).head? ≠ some ']' := by
    rw [encodeItems_cons, List.append_assoc, skip_encode]
    exact head?_encode item _ (by unfold Opens; decide)
  show (if (skip (encodeItems (item :: items) ++ rest)).head? = some ']' then _
    else readItems? fuel (encodeItems (item :: items) ++ rest) >>= _) = _
  rw [if_neg hhead, h]
  rfl

/-- An object whose fields are read. -/
theorem readValue?_object {field : String × Tree} {fields : List (String × Tree)}
    {rest : List Char} {fuel : ℕ}
    (h : readFields? fuel (encodeFields (field :: fields) ++ rest)
      = some (field :: fields, rest)) :
    readValue? (fuel + 1) (encode (.object (field :: fields)) ++ rest)
      = some (.object (field :: fields), rest) := by
  have hhead : (skip (encodeFields (field :: fields) ++ rest)).head? ≠ some '\x7d' := by
    rw [encodeFields_cons]
    exact fun h => absurd (Option.some.inj h) (by decide)
  show (if (skip (encodeFields (field :: fields) ++ rest)).head? = some '\x7d' then _
    else readFields? fuel (encodeFields (field :: fields) ++ rest) >>= _) = _
  rw [if_neg hhead, h]
  rfl

/-- The end of an item, and the items after it. -/
theorem readItems?_cons {item : Tree} {items : List Tree} {rest : List Char} {fuel : ℕ}
    (hitem : ∀ tail, Follows tail → readValue? fuel (encode item ++ tail) = some (item, tail))
    (hitems : items ≠ [] → readItems? fuel (encodeItems items ++ rest) = some (items, rest)) :
    readItems? (fuel + 1) (encodeItems (item :: items) ++ rest) = some (item :: items, rest) := by
  rw [encodeItems_cons, List.append_assoc, readItems?]
  cases items with
  | nil =>
    rw [if_pos rfl, List.singleton_append, hitem (']' :: rest) (follows_cons (by decide) rest)]
    rfl
  | cons next items =>
    rw [if_neg (List.cons_ne_nil next items), List.cons_append,
      hitem (',' :: _) (follows_cons (by decide) _)]
    show (readItems? fuel (encodeItems (next :: items) ++ rest) >>= _) = _
    rw [hitems (List.cons_ne_nil next items)]
    rfl

/-- The end of a field, and the fields after it. -/
theorem readFields?_cons {key : String} {value : Tree} {fields : List (String × Tree)}
    {rest : List Char} {fuel : ℕ} (hkey : (encodeString key).length ≤ fuel + 1)
    (hvalue : ∀ tail, Follows tail → readValue? fuel (encode value ++ tail) = some (value, tail))
    (hfields : fields ≠ [] → readFields? fuel (encodeFields fields ++ rest) = some (fields, rest)) :
    readFields? (fuel + 1) (encodeFields ((key, value) :: fields) ++ rest)
      = some ((key, value) :: fields, rest) := by
  have hlength := length_le_encodeString key
  -- after the value stands the closing brace or a comma with more fields
  have hend : ∀ tail, Follows tail → readFields? (fuel + 1)
      (encodeString key ++ ':' :: (encode value ++ tail))
        = match skip tail with
          | ',' :: text => do
              let (fields, rest) ← readFields? fuel text
              return ((key, value) :: fields, rest)
          | '\x7d' :: rest => return ([(key, value)], rest)
          | _ => none := by
    intro tail htail
    show (readString? (fuel + 1) (key.toList.flatMap escape ++ ['"'] ++
      ':' :: (encode value ++ tail)) >>= _) = _
    rw [List.append_assoc, List.singleton_append, readString?_flatMap_escape _ _ (by omega)]
    show (readValue? fuel (encode value ++ tail) >>= _) = _
    rw [hvalue tail htail]
    show (match skip tail with
      | ',' :: text => do
          let (fields, rest) ← readFields? fuel text
          return ((String.ofList key.toList, value) :: fields, rest)
      | '\x7d' :: rest => return ([(String.ofList key.toList, value)], rest)
      | _ => none) = _
    rw [String.ofList_toList]
  rw [encodeFields_cons, List.append_assoc, List.cons_append, List.append_assoc]
  cases fields with
  | nil =>
    rw [if_pos rfl, List.singleton_append, hend ('\x7d' :: rest) (follows_cons (by decide) rest)]
    rfl
  | cons next fields =>
    rw [if_neg (List.cons_ne_nil next fields), List.cons_append,
      hend (',' :: _) (follows_cons (by decide) _)]
    show (readFields? fuel (encodeFields (next :: fields) ++ rest) >>= _) = _
    rw [hfields (List.cons_ne_nil next fields)]
    rfl

mutual

/-- **A value** is read back, whatever follows it. -/
theorem readValue?_encode : (tree : Tree) → (rest : List Char) → (fuel : ℕ) →
    (encode tree).length ≤ fuel → Follows rest →
      readValue? fuel (encode tree ++ rest) = some (tree, rest)
  | .null, rest, fuel + 1, _, hrest => readValue?_token (by decide) rfl (by decide) hrest
  | .bool true, rest, fuel + 1, _, hrest => readValue?_token (by decide) rfl (by decide) hrest
  | .bool false, rest, fuel + 1, _, hrest => readValue?_token (by decide) rfl (by decide) hrest
  | .number numeral, rest, fuel, h, hrest => by
    obtain ⟨c, text, htext, -⟩ := numeral.exists_cons
    have hne : numeral.text ≠ [] := by
      rw [htext]
      exact List.cons_ne_nil c text
    obtain ⟨fuel, rfl⟩ := Nat.exists_eq_add_one_of_ne_zero (n := fuel) (by
      rintro rfl
      exact hne (List.eq_nil_of_length_eq_zero (Nat.le_zero.1 h)))
    exact readValue?_token numeral.token (readToken?_numeral numeral) hne hrest
  | .string text, rest, fuel, h, _ => readValue?_string text rest h
  | .array [], rest, fuel + 1, _, _ => rfl
  | .array (item :: items), rest, fuel + 1, h, _ =>
    readValue?_array (readItems?_encode (item :: items) rest fuel (Nat.le_of_succ_le_succ h)
      (List.cons_ne_nil item items))
  | .object [], rest, fuel + 1, _, _ => rfl
  | .object (field :: fields), rest, fuel + 1, h, _ =>
    readValue?_object (readFields?_encode (field :: fields) rest fuel (Nat.le_of_succ_le_succ h)
      (List.cons_ne_nil field fields))

/-- **The items** of an array are read back. -/
theorem readItems?_encode : (items : List Tree) → (rest : List Char) → (fuel : ℕ) →
    (encodeItems items).length ≤ fuel → items ≠ [] →
      readItems? fuel (encodeItems items ++ rest) = some (items, rest)
  | [], _, _, _, hne => absurd rfl hne
  | item :: items, rest, fuel, h, _ => by
    rw [encodeItems_cons, List.length_append] at h
    have hend : 1 ≤ (if items = [] then [']'] else ',' :: encodeItems items).length := by
      split <;> exact Nat.le_add_left 1 _
    obtain ⟨fuel, rfl⟩ := Nat.exists_eq_add_one_of_ne_zero (show fuel ≠ 0 by omega)
    refine readItems?_cons (fun tail htail => ?_) fun hne => ?_
    · exact readValue?_encode item tail fuel (by omega) htail
    · rw [if_neg hne, List.length_cons] at h
      exact readItems?_encode items rest fuel (by omega) hne

/-- **The fields** of an object are read back. -/
theorem readFields?_encode : (fields : List (String × Tree)) → (rest : List Char) → (fuel : ℕ) →
    (encodeFields fields).length ≤ fuel → fields ≠ [] →
      readFields? fuel (encodeFields fields ++ rest) = some (fields, rest)
  | [], _, _, _, hne => absurd rfl hne
  | (key, value) :: fields, rest, fuel, h, _ => by
    rw [encodeFields_cons, List.length_append, List.length_cons, List.length_append] at h
    obtain ⟨fuel, rfl⟩ := Nat.exists_eq_add_one_of_ne_zero (show fuel ≠ 0 by omega)
    refine readFields?_cons (by omega) (fun tail htail => ?_) fun hne => ?_
    · exact readValue?_encode value tail fuel (by omega) htail
    · rw [if_neg hne, List.length_cons] at h
      exact readFields?_encode fields rest fuel (by omega) hne

end

/-- **Reading inverts writing.** -/
theorem decode_encode (tree : Tree) : decode (encode tree) = some tree := by
  have h := readValue?_encode tree [] (encode tree).length (Nat.le_refl _)
    (fun c hc => by cases hc)
  rw [List.append_nil] at h
  rw [decode, h]
  rfl

/-! ## The characters of a text -/

/-- A printable character of ASCII. -/
def IsPrintable (c : Char) : Prop := 0x20 ≤ c.toNat ∧ c.toNat ≤ 0x7E

instance (c : Char) : Decidable (IsPrintable c) := inferInstanceAs (Decidable (_ ∧ _))

theorem isPrintable_of_isTokenCharacter {c : Char} (h : isTokenCharacter c = true) :
    IsPrintable c := by
  simp only [isTokenCharacter, isDigit, Bool.or_eq_true, Bool.and_eq_true, decide_eq_true_eq] at h
  have hle : ∀ a b : Char, a ≤ b → a.toNat ≤ b.toNat := fun a b hab => hab
  rcases h with ((((⟨h1, h2⟩ | ⟨h1, h2⟩) | ⟨h1, h2⟩) | rfl) | rfl) | rfl
  · exact ⟨(show 0x20 ≤ '0'.toNat by decide).trans (hle _ _ h1),
      (hle _ _ h2).trans (show '9'.toNat ≤ 0x7E by decide)⟩
  · exact ⟨(show 0x20 ≤ 'a'.toNat by decide).trans (hle _ _ h1),
      (hle _ _ h2).trans (show 'z'.toNat ≤ 0x7E by decide)⟩
  · exact ⟨(show 0x20 ≤ 'A'.toNat by decide).trans (hle _ _ h1),
      (hle _ _ h2).trans (show 'Z'.toNat ≤ 0x7E by decide)⟩
  all_goals decide

theorem isPrintable_digitChar : ∀ n < 16, IsPrintable (Nat.digitChar n) := by decide

theorem isPrintable_of_mem_unitEscape {c : Char} {n : ℕ} (h : c ∈ unitEscape n) :
    IsPrintable c := by
  have hdigit : ∀ m, IsPrintable (Nat.digitChar (m % 16)) :=
    fun m => isPrintable_digitChar _ (Nat.mod_lt m (by decide))
  simp only [unitEscape, hex4, List.mem_cons, List.not_mem_nil, or_false] at h
  rcases h with rfl | rfl | rfl | rfl | rfl | rfl
  · decide
  · decide
  all_goals exact hdigit _

theorem isPrintable_of_mem_escape {c first : Char} (h : c ∈ escape first) : IsPrintable c := by
  have hpair : ∀ d, IsPrintable d → c ∈ ['\\', d] → IsPrintable c := by
    intro d hd hmem
    rcases List.mem_pair.1 hmem with rfl | rfl
    · decide
    · exact hd
  unfold escape at h
  split_ifs at h with h1 h2 h3 h4 h5 h6 h7 h8 h9
  · exact hpair _ (by decide) h
  · exact hpair _ (by decide) h
  · exact hpair _ (by decide) h
  · exact hpair _ (by decide) h
  · exact hpair _ (by decide) h
  · exact hpair _ (by decide) h
  · exact hpair _ (by decide) h
  · rw [List.mem_singleton.1 h]
    exact h8
  · exact isPrintable_of_mem_unitEscape h
  · rcases List.mem_append.1 h with h | h <;> exact isPrintable_of_mem_unitEscape h

theorem isPrintable_of_mem_encodeString {c : Char} {text : String} (h : c ∈ encodeString text) :
    IsPrintable c := by
  rw [encodeString, List.mem_cons, List.mem_append, List.mem_singleton] at h
  rcases h with rfl | h | rfl
  · decide
  · obtain ⟨first, -, hfirst⟩ := List.mem_flatMap.1 h
    exact isPrintable_of_mem_escape hfirst
  · decide

/-- The three names consist of characters of tokens. -/
theorem all_token_names : (∀ c ∈ "null".toList, isTokenCharacter c = true) ∧
    (∀ c ∈ "true".toList, isTokenCharacter c = true) ∧
    ∀ c ∈ "false".toList, isTokenCharacter c = true :=
  ⟨List.all_eq_true.1 rfl, List.all_eq_true.1 rfl, List.all_eq_true.1 rfl⟩

mutual

/-- **A text that was written** has printable characters of ASCII only. -/
theorem isPrintable_of_mem_encode {c : Char} : (tree : Tree) → c ∈ encode tree → IsPrintable c
  | .null, h => isPrintable_of_isTokenCharacter (all_token_names.1 c h)
  | .bool true, h => isPrintable_of_isTokenCharacter (all_token_names.2.1 c h)
  | .bool false, h => isPrintable_of_isTokenCharacter (all_token_names.2.2 c h)
  | .number numeral, h => isPrintable_of_isTokenCharacter (List.all_eq_true.1 numeral.token c h)
  | .string _, h => isPrintable_of_mem_encodeString h
  | .array items, h => by
    rcases List.mem_cons.1 h with rfl | h
    · decide
    · exact isPrintable_of_mem_encodeItems items h
  | .object fields, h => by
    rcases List.mem_cons.1 h with rfl | h
    · decide
    · exact isPrintable_of_mem_encodeFields fields h

theorem isPrintable_of_mem_encodeItems {c : Char} :
    (items : List Tree) → c ∈ encodeItems items → IsPrintable c
  | [], h => by
    rw [List.mem_singleton.1 h]
    decide
  | item :: items, h => by
    rw [encodeItems_cons, List.mem_append] at h
    rcases h with h | h
    · exact isPrintable_of_mem_encode item h
    split at h
    · rw [List.mem_singleton.1 h]
      decide
    rcases List.mem_cons.1 h with rfl | h
    · decide
    · exact isPrintable_of_mem_encodeItems items h

theorem isPrintable_of_mem_encodeFields {c : Char} :
    (fields : List (String × Tree)) → c ∈ encodeFields fields → IsPrintable c
  | [], h => by
    rw [List.mem_singleton.1 h]
    decide
  | (key, value) :: fields, h => by
    rw [encodeFields_cons, List.mem_append, List.mem_cons, List.mem_append] at h
    rcases h with h | rfl | h | h
    · exact isPrintable_of_mem_encodeString h
    · decide
    · exact isPrintable_of_mem_encode value h
    split at h
    · rw [List.mem_singleton.1 h]
      decide
    rcases List.mem_cons.1 h with rfl | h
    · decide
    · exact isPrintable_of_mem_encodeFields fields h

end

/-- **A text that starts like a number or a name** is nothing else but one. -/
theorem decode_eq_none_of_mem {c other : Char} {text : List Char}
    (hc : isTokenCharacter c = true) (hmem : other ∈ text)
    (htoken : isTokenCharacter other = false) (hspace : isSpace other = false) :
    decode (c :: text) = none := by
  have hne : ∀ d : Char, isTokenCharacter d = false → c ≠ d := by
    rintro d hd rfl
    rw [hc] at hd
    cases hd
  have hskip : skip (c :: text) = c :: text := by
    have hnot : isSpace c = false := Opens.not_space (Or.inl hc)
    rw [skip, List.dropWhile_cons_of_neg (by rw [hnot]; exact Bool.false_ne_true)]
  have hrest : skip ((c :: text).dropWhile isTokenCharacter) ≠ [] := by
    intro hnil
    have hsplit : other ∈ (c :: text).takeWhile isTokenCharacter ++
        (c :: text).dropWhile isTokenCharacter := by
      rw [List.takeWhile_append_dropWhile]
      exact List.mem_cons_of_mem c hmem
    rcases List.mem_append.1 hsplit with h | h
    · have := List.mem_takeWhile_imp h
      rw [htoken] at this
      cases this
    · have htrue := List.dropWhile_eq_nil_iff.1 hnil other h
      rw [hspace] at htrue
      cases htrue
  rw [decode, List.length_cons, readValue?, hskip]
  simp only [if_neg (hne '"' (by decide)), if_neg (hne '[' (by decide)),
    if_neg (hne '\x7b' (by decide))]
  cases readToken? ((c :: text).takeWhile isTokenCharacter) with
  | none => rfl
  | some value => exact if_neg hrest

end JsonText
