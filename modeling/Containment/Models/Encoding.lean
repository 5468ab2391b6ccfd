/-
# Octet and time encodings

Unpadded base64url for keys and signatures, the message a signature covers, and
the one timestamp spelling of the contract. Every encoder here is inverted by its
checker, which is what later lets a freshly signed structure pass its own
validation.
-/

import Containment.Models.Canonical

namespace Containment

/-! ## Unpadded base64url -/

def b64Char (n : ℕ) : Char :=
  if n < 26 then Char.ofNat (65 + n)
  else if n < 52 then Char.ofNat (71 + n)
  else if n < 62 then Char.ofNat (n - 4)
  else if n = 62 then '-'
  else '_'

def b64Value (c : Char) : Option ℕ :=
  if 'A' ≤ c ∧ c ≤ 'Z' then some (c.toNat - 65)
  else if 'a' ≤ c ∧ c ≤ 'z' then some (c.toNat - 71)
  else if '0' ≤ c ∧ c ≤ '9' then some (c.toNat + 4)
  else if c = '-' then some 62
  else if c = '_' then some 63
  else none

/-- Three octets become four characters; a shorter rest is filled with zero bits. -/
def b64urlChars : Bytes → List Char
  | [] => []
  | [a] =>
      let n := a.toNat * 16
      [b64Char (n / 64), b64Char (n % 64)]
  | [a, b] =>
      let n := (a.toNat * 256 + b.toNat) * 4
      [b64Char (n / 4096), b64Char (n / 64 % 64), b64Char (n % 64)]
  | a :: b :: c :: rest =>
      let n := a.toNat * 65536 + b.toNat * 256 + c.toNat
      b64Char (n / 262144) :: b64Char (n / 4096 % 64) :: b64Char (n / 64 % 64) ::
        b64Char (n % 64) :: b64urlChars rest

def b64urlEncode (value : Bytes) : String := String.ofList (b64urlChars value)

/-- The octets of a text. Surplus bits of an incomplete group are dropped. -/
def b64urlOctets : List Char → Option Bytes
  | [] => some []
  | [_] => none
  | [w, x] => do
      let n := (← b64Value w) * 64 + (← b64Value x)
      return [(n / 16).toUInt8]
  | [w, x, y] => do
      let n := ((← b64Value w) * 64 + (← b64Value x)) * 64 + (← b64Value y)
      return [(n / 1024).toUInt8, (n / 4).toUInt8]
  | w :: x :: y :: z :: rest => do
      let n := (((← b64Value w) * 64 + (← b64Value x)) * 64 + (← b64Value y)) * 64 + (← b64Value z)
      return (n / 65536).toUInt8 :: (n / 256).toUInt8 :: n.toUInt8 :: (← b64urlOctets rest)

def b64urlDecode (value : String) (expectedLength : ℕ) : Except PyError Bytes := do
  ensure (value.toList ≠ [] ∧ value.toList.all fun c => (b64Value c).isSome)
    (.valueError "value must be unpadded base64url")
  match b64urlOctets value.toList with
  | none => .error (.valueError "invalid base64url value")
  | some decoded => do
      ensure (decoded.length = expectedLength)
        (.valueError s!"decoded value must be exactly {expectedLength} bytes")
      ensure (b64urlEncode decoded = value)
        (.valueError "base64url value is not canonical")
      return decoded

theorem b64Value_b64Char {n : ℕ} (h : n < 64) : b64Value (b64Char n) = some n := by
  revert n
  decide

theorem toUInt8_eq_of_mod {n : ℕ} {a : UInt8} (h : n % 256 = a.toNat) : n.toUInt8 = a := by
  apply UInt8.toNat_inj.mp
  simpa using h

/-- Encoding loses nothing: the characters of an octet string denote it. -/
theorem b64urlOctets_b64urlChars : ∀ value : Bytes,
    b64urlOctets (b64urlChars value) = some value
  | [] => rfl
  | [a] => by
      have ha := a.toNat_lt
      rw [b64urlChars, b64urlOctets, b64Value_b64Char (by omega), b64Value_b64Char (by omega)]
      simp only [Option.bind_eq_bind, Option.bind_some, Option.pure_def]
      rw [toUInt8_eq_of_mod]
      omega
  | [a, b] => by
      have ha := a.toNat_lt
      have hb := b.toNat_lt
      rw [b64urlChars, b64urlOctets, b64Value_b64Char (by omega), b64Value_b64Char (by omega),
        b64Value_b64Char (by omega)]
      simp only [Option.bind_eq_bind, Option.bind_some, Option.pure_def]
      rw [toUInt8_eq_of_mod (a := a) (by omega), toUInt8_eq_of_mod (a := b) (by omega)]
  | a :: b :: c :: rest => by
      have ha := a.toNat_lt
      have hb := b.toNat_lt
      have hc := c.toNat_lt
      rw [b64urlChars, b64urlOctets, b64Value_b64Char (by omega), b64Value_b64Char (by omega),
        b64Value_b64Char (by omega), b64Value_b64Char (by omega), b64urlOctets_b64urlChars rest]
      simp only [Option.bind_eq_bind, Option.bind_some, Option.pure_def]
      rw [toUInt8_eq_of_mod (a := a) (by omega), toUInt8_eq_of_mod (a := b) (by omega),
        toUInt8_eq_of_mod (a := c) (by omega)]

theorem isSome_b64Value_of_mem : ∀ (value : Bytes) (c : Char),
    c ∈ b64urlChars value → (b64Value c).isSome
  | [], _, h => nomatch h
  | [a], c, h => by
      have ha := a.toNat_lt
      simp only [b64urlChars, List.mem_cons, List.not_mem_nil, or_false] at h
      rcases h with rfl | rfl <;> rw [b64Value_b64Char (by omega)] <;> rfl
  | [a, b], c, h => by
      have ha := a.toNat_lt
      have hb := b.toNat_lt
      simp only [b64urlChars, List.mem_cons, List.not_mem_nil, or_false] at h
      rcases h with rfl | rfl | rfl <;> rw [b64Value_b64Char (by omega)] <;> rfl
  | a :: b :: c :: rest, d, h => by
      have ha := a.toNat_lt
      have hb := b.toNat_lt
      have hc := c.toNat_lt
      simp only [b64urlChars, List.mem_cons] at h
      rcases h with rfl | rfl | rfl | rfl | h
      all_goals try (rw [b64Value_b64Char (by omega)]; rfl)
      exact isSome_b64Value_of_mem rest d h

/-- A canonical spelling passes the decoder of its own length. -/
theorem b64urlDecode_b64urlEncode {value : Bytes} (h : value ≠ []) :
    b64urlDecode (b64urlEncode value) value.length = .ok value := by
  have hne : b64urlChars value ≠ [] := by
    intro hnil
    have := b64urlOctets_b64urlChars value
    rw [hnil] at this
    exact h (Option.some.inj this).symm
  have hall : (b64urlChars value).all (fun c => (b64Value c).isSome) = true := by
    rw [List.all_eq_true]
    exact isSome_b64Value_of_mem value
  rw [b64urlDecode, b64urlEncode, String.toList_ofList, ensure_of ⟨hne, hall⟩,
    b64urlOctets_b64urlChars]
  simp only [except_ok_bind, ensure_of]
  rw [ensure_of (show b64urlEncode value = String.ofList (b64urlChars value) from rfl)]
  rfl

/-! ## Signed messages -/

def isHexDigit (c : Char) : Bool := ('0' ≤ c && c ≤ '9') || ('a' ≤ c && c ≤ 'f')

/-- Sixty-four lowercase hexadecimal digits. -/
def isSha256Hex (s : String) : Bool := s.toList.length == 64 && s.toList.all isHexDigit

/-- `bytes.fromhex`. -/
def bytesFromHex : List Char → Bytes
  | a :: b :: rest =>
      (((Json.hexValue a).getD 0) * 16 + (Json.hexValue b).getD 0).toUInt8 :: bytesFromHex rest
  | _ => []

def signingMessage (domain digest : String) : Except PyError Bytes := do
  ensure (isSha256Hex digest) (.valueError "digest must be lowercase SHA-256 hex")
  return utf8 protocol ++ 0 :: (utf8 domain ++ utf8 "\x00SHA-256\x00" ++
    bytesFromHex digest.toList)

/-! ## Timestamps -/

def isLeapYear (year : ℕ) : Bool := (year % 4 == 0 && year % 100 != 0) || year % 400 == 0

def daysInMonth (year month : ℕ) : ℕ :=
  if month = 2 then (if isLeapYear year then 29 else 28)
  else if month = 4 ∨ month = 6 ∨ month = 9 ∨ month = 11 then 30
  else 31

/-- A calendar time in UTC. -/
structure UtcTime where
  year : ℕ
  month : ℕ
  day : ℕ
  hour : ℕ
  minute : ℕ
  second : ℕ
  microsecond : ℕ
  year_range : 1 ≤ year ∧ year ≤ 9999
  month_range : 1 ≤ month ∧ month ≤ 12
  day_range : 1 ≤ day ∧ day ≤ daysInMonth year month
  time_range : hour < 24 ∧ minute < 60 ∧ second < 60 ∧ microsecond < 1000000

/-- A reading of a wall clock: an instant, or a datetime without a time zone. -/
inductive Datetime
  | aware (utc : UtcTime)
  | naive

/-- A number in decimal, cut or filled with zeros to a width. -/
def padded : ℕ → ℕ → List Char
  | 0, _ => []
  | width + 1, n => padded width (n / 10) ++ [Nat.digitChar (n % 10)]

def UtcTime.chars (t : UtcTime) : List Char :=
  padded 4 t.year ++ '-' :: (padded 2 t.month ++ '-' :: (padded 2 t.day ++ 'T' ::
    (padded 2 t.hour ++ ':' :: (padded 2 t.minute ++ ':' :: (padded 2 t.second ++ '.' ::
      (padded 6 t.microsecond ++ ['Z']))))))

/-- A run of decimal digits of a given width at the head of a text. -/
def scanDigits (width : ℕ) (cs : List Char) : Option (ℕ × List Char) :=
  let digits := cs.take width
  if digits.length = width ∧ digits.all Char.isDigit then
    some (Nat.ofDigitChars 10 digits 0, cs.drop width)
  else none

def scanMark (mark : Char) : List Char → Option (List Char)
  | c :: rest => if c = mark then some rest else none
  | [] => none

/-- The seven numbers of a text in the contract's timestamp shape. -/
def scanTimestamp (cs : List Char) : Option (ℕ × ℕ × ℕ × ℕ × ℕ × ℕ × ℕ) := do
  let (year, cs) ← scanDigits 4 cs
  let (month, cs) ← scanDigits 2 (← scanMark '-' cs)
  let (day, cs) ← scanDigits 2 (← scanMark '-' cs)
  let (hour, cs) ← scanDigits 2 (← scanMark 'T' cs)
  let (minute, cs) ← scanDigits 2 (← scanMark ':' cs)
  let (second, cs) ← scanDigits 2 (← scanMark ':' cs)
  let (microsecond, cs) ← scanDigits 6 (← scanMark '.' cs)
  if cs = ['Z'] then some (year, month, day, hour, minute, second, microsecond) else none

/-- `_validate_timestamp` behind the field's pattern. A text of this shape is
ASCII, so it is its own normal form and the source's first check cannot fail here. Its
last check cannot fail either where `strftime` writes every year with four digits, which
is assumed of the fields. `TimeTexts` has the check with either way of writing years below
1000. -/
def validateTimestamp (value : String) : Except PyError Unit :=
  match scanTimestamp value.toList with
  | none => .error (.valueError
      "timestamp must be UTC RFC 3339 with six fractional digits (YYYY-MM-DDTHH:MM:SS.ffffffZ)")
  | some (year, month, day, hour, minute, second, _) =>
      ensure ((1 ≤ year ∧ 1 ≤ month ∧ month ≤ 12) ∧ (1 ≤ day ∧ day ≤ daysInMonth year month) ∧
          hour < 24 ∧ minute < 60 ∧ second < 60)
        (.valueError "timestamp is not a real calendar time")

theorem length_padded (width n : ℕ) : (padded width n).length = width := by
  induction width generalizing n with
  | zero => rfl
  | succ width ih => rw [padded, List.length_append, ih]; rfl

theorem all_isDigit_padded (width n : ℕ) : (padded width n).all Char.isDigit = true := by
  induction width generalizing n with
  | zero => rfl
  | succ width ih =>
      have hdigit : (Nat.digitChar (n % 10)).isDigit = true := by
        have hn : n % 10 < 10 := Nat.mod_lt _ (by decide)
        generalize n % 10 = d at hn
        interval_cases d <;> decide
      rw [padded, List.all_append, ih, Bool.true_and]
      simpa using hdigit

theorem ofDigitChars_padded (width n : ℕ) (h : n < 10 ^ width) :
    Nat.ofDigitChars 10 (padded width n) 0 = n := by
  induction width generalizing n with
  | zero =>
      have : n = 0 := by simpa using h
      subst this
      rfl
  | succ width ih =>
      have hdiv : n / 10 < 10 ^ width := by
        rw [pow_succ] at h
        omega
      have hdigit : (Nat.digitChar (n % 10)).toNat - '0'.toNat = n % 10 := by
        have hn : n % 10 < 10 := Nat.mod_lt _ (by decide)
        generalize n % 10 = d at hn
        interval_cases d <;> decide
      rw [padded, Nat.ofDigitChars_append, ih _ hdiv, Nat.ofDigitChars_cons, Nat.ofDigitChars_nil,
        hdigit]
      omega

theorem scanDigits_padded {width n : ℕ} (h : n < 10 ^ width) (rest : List Char) :
    scanDigits width (padded width n ++ rest) = some (n, rest) := by
  have htake : (padded width n ++ rest).take width = padded width n :=
    List.take_left' (length_padded width n)
  have hdrop : (padded width n ++ rest).drop width = rest :=
    List.drop_left' (length_padded width n)
  simp only [scanDigits, htake, hdrop, length_padded, all_isDigit_padded, and_self, if_true,
    ofDigitChars_padded width n h]

theorem scanMark_cons (mark : Char) (rest : List Char) :
    scanMark mark (mark :: rest) = some rest := by
  rw [scanMark, if_pos rfl]

theorem daysInMonth_le (year month : ℕ) : daysInMonth year month ≤ 31 := by
  unfold daysInMonth
  split_ifs <;> decide

theorem scanTimestamp_chars (t : UtcTime) : scanTimestamp t.chars =
    some (t.year, t.month, t.day, t.hour, t.minute, t.second, t.microsecond) := by
  obtain ⟨-, hyear⟩ := t.year_range
  obtain ⟨-, hmonth⟩ := t.month_range
  obtain ⟨-, hday⟩ := t.day_range
  obtain ⟨hhour, hminute, hsecond, hmicro⟩ := t.time_range
  have hdays := daysInMonth_le t.year t.month
  have h4 : t.year < 10 ^ 4 := by omega
  have h2 {n : ℕ} (hn : n ≤ 60) : n < 10 ^ 2 := by omega
  have h6 : t.microsecond < 10 ^ 6 := by omega
  -- Each number is read off the head, then the mark that follows it.
  rw [scanTimestamp, UtcTime.chars, scanDigits_padded h4, Option.bind_eq_bind, Option.bind_some]
  dsimp only
  rw [scanMark_cons, Option.bind_eq_bind, Option.bind_some, scanDigits_padded (h2 (by omega)),
    Option.bind_some]
  dsimp only
  rw [scanMark_cons, Option.bind_some, scanDigits_padded (h2 (by omega)), Option.bind_some]
  dsimp only
  rw [scanMark_cons, Option.bind_some, scanDigits_padded (h2 (by omega)), Option.bind_some]
  dsimp only
  rw [scanMark_cons, Option.bind_some, scanDigits_padded (h2 (by omega)), Option.bind_some]
  dsimp only
  rw [scanMark_cons, Option.bind_some, scanDigits_padded (h2 (by omega)), Option.bind_some]
  dsimp only
  rw [scanMark_cons, Option.bind_some, scanDigits_padded h6, Option.bind_some]
  dsimp only
  rw [if_pos rfl]

/-- Every calendar time has an accepted spelling. -/
theorem validateTimestamp_chars (t : UtcTime) :
    validateTimestamp (String.ofList t.chars) = .ok () := by
  rw [validateTimestamp, String.toList_ofList, scanTimestamp_chars]
  simp only [ensure_eq_ok]
  exact ⟨⟨t.year_range.1, t.month_range⟩, t.day_range, t.time_range.1, t.time_range.2.1,
    t.time_range.2.2.1⟩

/-- The only timestamp text the contract accepts. -/
abbrev UtcTimestamp : Type := { s : String // validateTimestamp s = .ok () }

def formatUtcTimestamp : Datetime → Except PyError UtcTimestamp
  | .aware utc => .ok ⟨String.ofList utc.chars, validateTimestamp_chars utc⟩
  | .naive => .error (.valueError "datetime must be timezone-aware")

end Containment
