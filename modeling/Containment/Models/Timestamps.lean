/-
# Timestamps and instants

The contract compares timestamps as texts. An accepted timestamp is the one spelling of a
calendar time: the pattern fixes its width, and although `\d` admits the digits of every
script, writing the parsed time again leaves only the ASCII spelling. The text is then seven
zero-padded numbers from the largest unit to the smallest, so the order of texts is the order
of the instants they denote.
-/

import Containment.Models.Capacity
import Containment.Reference.Platform
import Containment.Text.Lexicographic

namespace Containment

open Lexicographic

/-! ## Instants -/

def daysInYear (year : ℕ) : ℕ := if isLeapYear year then 366 else 365

/-- The days of all earlier years. -/
def daysBeforeYear : ℕ → ℕ
  | 0 => 0
  | year + 1 => daysBeforeYear year + daysInYear year

/-- The days of the earlier months of a year. Months count from one. -/
def daysBeforeMonth (year : ℕ) : ℕ → ℕ
  | 0 => 0
  | month + 1 => daysBeforeMonth year month + if month = 0 then 0 else daysInMonth year month

namespace UtcTime

/-- The number of the day in the calendar. -/
def ordinal (t : UtcTime) : ℕ := daysBeforeYear t.year + (daysBeforeMonth t.year t.month + t.day)

/-- Microseconds since the start of the calendar. -/
def instant (t : UtcTime) : ℕ :=
  t.ordinal * 86400000000 + (t.hour * 3600000000 + (t.minute * 60000000 +
    (t.second * 1000000 + t.microsecond)))

/-- The numbers of a time, from the largest unit to the smallest. -/
def fields (t : UtcTime) : List ℕ :=
  [t.year, t.month, t.day, t.hour, t.minute, t.second, t.microsecond]

end UtcTime

theorem daysBeforeMonth_of_lt (year : ℕ) {month month' : ℕ} (hpos : 1 ≤ month) (h : month < month') :
    daysBeforeMonth year month + daysInMonth year month ≤ daysBeforeMonth year month' := by
  induction month', h using Nat.le_induction with
  | base => rw [daysBeforeMonth, if_neg (by omega)]
  | succ month' h ih => exact ih.trans (Nat.le_add_right _ _)

theorem daysBeforeMonth_thirteen (year : ℕ) : daysBeforeMonth year 13 = daysInYear year := by
  simp only [daysBeforeMonth, daysInMonth, daysInYear]
  cases isLeapYear year <;> rfl

theorem daysBeforeYear_of_lt {year year' : ℕ} (h : year < year') :
    daysBeforeYear year + daysInYear year ≤ daysBeforeYear year' := by
  induction year', h using Nat.le_induction with
  | base => exact le_rfl
  | succ year' h ih => exact ih.trans (Nat.le_add_right _ _)

namespace UtcTime

/-- Every day lies inside its year. -/
theorem dayOfYear_le (t : UtcTime) :
    daysBeforeMonth t.year t.month + t.day ≤ daysInYear t.year := by
  have hmonth := daysBeforeMonth_of_lt t.year t.month_range.1
    (Nat.lt_succ_of_le t.month_range.2)
  have hday := t.day_range.2
  rw [daysBeforeMonth_thirteen] at hmonth
  omega

theorem ordinal_lt_of_year {t u : UtcTime} (h : t.year < u.year) : t.ordinal < u.ordinal := by
  have hyears := daysBeforeYear_of_lt h
  have hday := t.dayOfYear_le
  have hpos := u.day_range.1
  rw [ordinal, ordinal]
  omega

theorem ordinal_lt_of_month {t u : UtcTime} (hyear : t.year = u.year) (h : t.month < u.month) :
    t.ordinal < u.ordinal := by
  have hmonths := daysBeforeMonth_of_lt t.year t.month_range.1 h
  have hday := t.day_range.2
  have hpos := u.day_range.1
  rw [ordinal, ordinal, ← hyear]
  omega

/-- Days are ordered by year, month and day. -/
theorem ordinal_lt_iff {t u : UtcTime} :
    t.ordinal < u.ordinal ↔
      t.year < u.year ∨ t.year = u.year ∧ (t.month < u.month ∨ t.month = u.month ∧ t.day < u.day) := by
  rcases Nat.lt_trichotomy t.year u.year with hyear | hyear | hyear
  · simp [hyear, ordinal_lt_of_year hyear]
  · rcases Nat.lt_trichotomy t.month u.month with hmonth | hmonth | hmonth
    · simp [hyear, hmonth, ordinal_lt_of_month hyear hmonth]
    · simp [ordinal, hyear, hmonth]
    · have := ordinal_lt_of_month hyear.symm hmonth
      omega
  · have := ordinal_lt_of_year hyear
    omega

theorem ordinal_eq_iff {t u : UtcTime} :
    t.ordinal = u.ordinal ↔ t.year = u.year ∧ t.month = u.month ∧ t.day = u.day := by
  have hless := @ordinal_lt_iff t u
  have hmore := @ordinal_lt_iff u t
  constructor
  · intro h
    omega
  · rintro ⟨hyear, hmonth, hday⟩
    rw [ordinal, ordinal, hyear, hmonth, hday]

/-- Instants are ordered by their numbers, from the largest unit to the smallest. -/
theorem instant_lt_iff {t u : UtcTime} : t.instant < u.instant ↔ t.fields < u.fields := by
  obtain ⟨hhour, hminute, hsecond, hmicro⟩ := t.time_range
  obtain ⟨hhour', hminute', hsecond', hmicro'⟩ := u.time_range
  rw [instant, instant, digit_lt_iff (by omega) (by omega), digit_lt_iff (by omega) (by omega),
    digit_lt_iff (by omega) (by omega), digit_lt_iff hmicro hmicro', ordinal_lt_iff, ordinal_eq_iff]
  simp only [fields, List.cons_lt_cons_iff, List.not_lt_nil, and_false, or_false, and_or_left,
    or_assoc, and_assoc]

/-- No two times share an instant. -/
theorem instant_eq_iff {t u : UtcTime} : t.instant = u.instant ↔ t = u := by
  constructor
  · intro h
    have hless : ¬ t.fields < u.fields := fun hlt => absurd (instant_lt_iff.mpr hlt) (by omega)
    have hmore : ¬ u.fields < t.fields := fun hlt => absurd (instant_lt_iff.mpr hlt) (by omega)
    have hfields : t.fields = u.fields := le_antisymm (not_lt.mp hmore) (not_lt.mp hless)
    simp only [fields, List.cons.injEq, and_true] at hfields
    cases t
    cases u
    simp_all
  · rintro rfl
    rfl

end UtcTime

/-! ## Texts -/

theorem digitChar_lt_iff {m n : ℕ} (hm : m < 10) (hn : n < 10) :
    Nat.digitChar m < Nat.digitChar n ↔ m < n := by
  have hall : ∀ m < 10, ∀ n < 10, Nat.digitChar m < Nat.digitChar n ↔ m < n := by decide
  exact hall m hm n hn

theorem padded_inj {width m n : ℕ} (hm : m < 10 ^ width) (hn : n < 10 ^ width) :
    padded width m = padded width n ↔ m = n := by
  constructor
  · intro h
    rw [← ofDigitChars_padded width m hm, h, ofDigitChars_padded width n hn]
  · rintro rfl
    rfl

/-- Numbers filled up to one width are ordered as texts. -/
theorem padded_lt_iff {width m n : ℕ} (hm : m < 10 ^ width) (hn : n < 10 ^ width) :
    padded width m < padded width n ↔ m < n := by
  induction width generalizing m n with
  | zero =>
      rw [pow_zero, Nat.lt_one_iff] at hm hn
      simp [hm, hn]
  | succ width ih =>
      have hm' : m / 10 < 10 ^ width := by
        rw [pow_succ] at hm
        omega
      have hn' : n / 10 < 10 ^ width := by
        rw [pow_succ] at hn
        omega
      rw [padded, padded, append_lt_append_iff (by rw [length_padded, length_padded]), ih hm' hn',
        padded_inj hm' hn', List.cons_lt_cons_iff,
        digitChar_lt_iff (Nat.mod_lt _ (by decide)) (Nat.mod_lt _ (by decide))]
      simp only [List.not_lt_nil, and_false, or_false]
      omega

/-- A number in front of a mark. -/
theorem padded_append_lt_iff {width m n : ℕ} (hm : m < 10 ^ width) (hn : n < 10 ^ width)
    (mark : Char) (rest rest' : List Char) :
    padded width m ++ mark :: rest < padded width n ++ mark :: rest' ↔
      m < n ∨ m = n ∧ rest < rest' := by
  rw [append_lt_append_iff (by rw [length_padded, length_padded]), padded_lt_iff hm hn,
    padded_inj hm hn, List.cons_lt_cons_self]

theorem UtcTime.chars_lt_iff {t u : UtcTime} : t.chars < u.chars ↔ t.fields < u.fields := by
  have hbounds (t : UtcTime) : t.year < 10 ^ 4 ∧ t.month < 10 ^ 2 ∧ t.day < 10 ^ 2 ∧
      t.hour < 10 ^ 2 ∧ t.minute < 10 ^ 2 ∧ t.second < 10 ^ 2 ∧ t.microsecond < 10 ^ 6 := by
    have hyear := t.year_range.2
    have hmonth := t.month_range.2
    have hday := t.day_range.2
    have hdays := daysInMonth_le t.year t.month
    obtain ⟨hhour, hminute, hsecond, hmicro⟩ := t.time_range
    omega
  obtain ⟨hyear, hmonth, hday, hhour, hminute, hsecond, hmicro⟩ := hbounds t
  obtain ⟨hyear', hmonth', hday', hhour', hminute', hsecond', hmicro'⟩ := hbounds u
  rw [chars, chars, padded_append_lt_iff hyear hyear', padded_append_lt_iff hmonth hmonth',
    padded_append_lt_iff hday hday', padded_append_lt_iff hhour hhour',
    padded_append_lt_iff hminute hminute', padded_append_lt_iff hsecond hsecond',
    padded_append_lt_iff hmicro hmicro']
  simp only [fields, List.cons_lt_cons_iff, List.not_lt_nil]

/-! ## The accepted texts -/

theorem digitChar_of_isDigit {c : Char} (h : c.isDigit = true) :
    Nat.digitChar (c.toNat - '0'.toNat) = c ∧ c.toNat - '0'.toNat < 10 := by
  have hrange : 48 ≤ c.toNat ∧ c.toNat ≤ 57 := by
    simpa [Char.isDigit, UInt32.le_iff_toNat_le] using h
  have hzero : '0'.toNat = 48 := rfl
  refine ⟨?_, by omega⟩
  apply Char.toNat_inj.mp
  rw [Nat.toNat_digitChar_of_lt_ten (by omega)]
  omega

/-- A run of digits is the padded form of its number. -/
theorem padded_ofDigitChars (width : ℕ) {digits : List Char} (hlength : digits.length = width)
    (hall : digits.all Char.isDigit = true) :
    padded width (Nat.ofDigitChars 10 digits 0) = digits ∧
      Nat.ofDigitChars 10 digits 0 < 10 ^ width := by
  induction width generalizing digits with
  | zero =>
      obtain rfl := List.length_eq_zero_iff.mp hlength
      exact ⟨rfl, by decide⟩
  | succ width ih =>
      cases digits using List.reverseRecOn with
      | nil => cases hlength
      | append_singleton front c =>
          rw [List.length_append, List.length_singleton] at hlength
          rw [List.all_append, Bool.and_eq_true] at hall
          obtain ⟨hpadded, hlt⟩ := ih (Nat.succ.inj hlength) hall.1
          obtain ⟨hdigit, hten⟩ := digitChar_of_isDigit (c := c) (by simpa using hall.2)
          rw [Nat.ofDigitChars_append, Nat.ofDigitChars_cons, Nat.ofDigitChars_nil, padded]
          generalize Nat.ofDigitChars 10 front 0 = n at hpadded hlt ⊢
          generalize c.toNat - '0'.toNat = d at hdigit hten ⊢
          rw [show (10 * n + d) / 10 = n by omega, show (10 * n + d) % 10 = d by omega, hpadded,
            hdigit, pow_succ]
          exact ⟨rfl, by omega⟩

theorem eq_padded_of_scanDigits {width n : ℕ} {cs rest : List Char}
    (h : scanDigits width cs = some (n, rest)) : cs = padded width n ++ rest ∧ n < 10 ^ width := by
  unfold scanDigits at h
  dsimp only at h
  split_ifs at h with hdigits
  obtain ⟨rfl, rfl⟩ := Prod.mk.inj (Option.some.inj h)
  obtain ⟨hpadded, hlt⟩ := padded_ofDigitChars width hdigits.1 hdigits.2
  exact ⟨by rw [hpadded, List.take_append_drop], hlt⟩

/-- The accepted texts are the spellings of the calendar times. -/
theorem validateTimestamp_eq_ok_iff {value : String} :
    validateTimestamp value = .ok () ↔ ∃ t : UtcTime, value.toList = t.chars := by
  constructor
  · intro h
    unfold validateTimestamp at h
    split at h
    · cases h
    · rename_i year month day hour minute second micro hscan
      simp only [ensure_eq_ok] at h
      obtain ⟨⟨hyear, hmonth⟩, hday, hhour, hminute, hsecond⟩ := h
      -- The seven numbers and the six marks between them, from left to right.
      obtain ⟨⟨_, _⟩, h₁, hscan⟩ := Option.bind_eq_some_iff.mp hscan
      obtain ⟨_, m₁, hscan⟩ := Option.bind_eq_some_iff.mp hscan
      obtain ⟨⟨_, _⟩, h₂, hscan⟩ := Option.bind_eq_some_iff.mp hscan
      obtain ⟨_, m₂, hscan⟩ := Option.bind_eq_some_iff.mp hscan
      obtain ⟨⟨_, _⟩, h₃, hscan⟩ := Option.bind_eq_some_iff.mp hscan
      obtain ⟨_, m₃, hscan⟩ := Option.bind_eq_some_iff.mp hscan
      obtain ⟨⟨_, _⟩, h₄, hscan⟩ := Option.bind_eq_some_iff.mp hscan
      obtain ⟨_, m₄, hscan⟩ := Option.bind_eq_some_iff.mp hscan
      obtain ⟨⟨_, _⟩, h₅, hscan⟩ := Option.bind_eq_some_iff.mp hscan
      obtain ⟨_, m₅, hscan⟩ := Option.bind_eq_some_iff.mp hscan
      obtain ⟨⟨_, _⟩, h₆, hscan⟩ := Option.bind_eq_some_iff.mp hscan
      obtain ⟨_, m₆, hscan⟩ := Option.bind_eq_some_iff.mp hscan
      obtain ⟨⟨_, _⟩, h₇, hend⟩ := Option.bind_eq_some_iff.mp hscan
      dsimp only at hend
      obtain ⟨hcs, hy⟩ := eq_padded_of_scanDigits h₁
      rw [scanMark_eq_some m₁, (eq_padded_of_scanDigits h₂).1, scanMark_eq_some m₂,
        (eq_padded_of_scanDigits h₃).1, scanMark_eq_some m₃, (eq_padded_of_scanDigits h₄).1,
        scanMark_eq_some m₄, (eq_padded_of_scanDigits h₅).1, scanMark_eq_some m₅,
        (eq_padded_of_scanDigits h₆).1, scanMark_eq_some m₆, (eq_padded_of_scanDigits h₇).1] at hcs
      have hmicro := (eq_padded_of_scanDigits h₇).2
      split_ifs at hend with hz
      simp only [Option.some.injEq, Prod.mk.injEq] at hend
      obtain ⟨rfl, rfl, rfl, rfl, rfl, rfl, rfl⟩ := hend
      refine ⟨⟨_, _, _, _, _, _, _, ⟨hyear, by omega⟩, hmonth, hday,
        hhour, hminute, hsecond, by omega⟩, ?_⟩
      rw [hcs, hz]
      rfl
  · rintro ⟨t, ht⟩
    have hvalid := validateTimestamp_chars t
    rw [← ht, String.ofList_toList] at hvalid
    exact hvalid

/-! ## Digits of other scripts -/

/-- What the timestamp functions take from the platform: the value of a decimal digit of any
script, and the year as `strftime` writes it, which may leave out the zeros in front. -/
structure TimeTexts where
  decimal : Char → Option ℕ
  yearText : ℕ → List Char
  decimal_hyphen : decimal '-' = none
  yearText_eq : ∀ year, yearText year = padded 4 year ∨ year < 1000 ∧ (yearText year).length < 4

/-- `format_utc_timestamp`. -/
def TimeTexts.format (T : TimeTexts) (t : UtcTime) : List Char :=
  T.yearText t.year ++ t.chars.drop 4

section Decimal

variable (decimal : Char → Option ℕ)

/-- A run of `\d` of a given width. -/
def scanDecimals (width : ℕ) (cs : List Char) : Option (List Char × List Char) :=
  let digits := cs.take width
  if digits.length = width ∧ digits.all (fun c => (decimal c).isSome) then
    some (digits, cs.drop width)
  else none

/-- The texts of the seven numbers of a timestamp. -/
structure TimestampTexts where
  year : List Char
  month : List Char
  day : List Char
  hour : List Char
  minute : List Char
  second : List Char
  microsecond : List Char

/-- `_TIMESTAMP_RE.fullmatch`. -/
def matchTimestamp (cs : List Char) : Option TimestampTexts := do
  let (year, cs) ← scanDecimals decimal 4 cs
  let (month, cs) ← scanDecimals decimal 2 (← scanMark '-' cs)
  let (day, cs) ← scanDecimals decimal 2 (← scanMark '-' cs)
  let (hour, cs) ← scanDecimals decimal 2 (← scanMark 'T' cs)
  let (minute, cs) ← scanDecimals decimal 2 (← scanMark ':' cs)
  let (second, cs) ← scanDecimals decimal 2 (← scanMark ':' cs)
  let (microsecond, cs) ← scanDecimals decimal 6 (← scanMark '.' cs)
  if cs = ['Z'] then some ⟨year, month, day, hour, minute, second, microsecond⟩ else none

/-- `int` of a text of digits. -/
def intOfDecimals (digits : List Char) : ℕ :=
  digits.foldl (fun n c => 10 * n + (decimal c).getD 0) 0

/-! The directives of `strptime`, of which the alternatives with one digit cannot match a text of
two. -/

def isMonthText : List Char → Bool
  | [c, d] => (c = '1' && '0' ≤ d && d ≤ '2') || (c = '0' && '1' ≤ d && d ≤ '9')
  | _ => false

def isDayText : List Char → Bool
  | [c, d] =>
      (c = '3' && '0' ≤ d && d ≤ '1') || ('1' ≤ c && c ≤ '2' && (decimal d).isSome) ||
        (c = '0' && '1' ≤ d && d ≤ '9')
  | _ => false

def isHourText : List Char → Bool
  | [c, d] => (c = '2' && '0' ≤ d && d ≤ '3') || ('0' ≤ c && c ≤ '1' && (decimal d).isSome)
  | _ => false

def isMinuteText : List Char → Bool
  | [c, d] => '0' ≤ c && c ≤ '5' && (decimal d).isSome
  | _ => false

def isSecondText : List Char → Bool
  | [c, d] => (c = '6' && '0' ≤ d && d ≤ '1') || ('0' ≤ c && c ≤ '5' && (decimal d).isSome)
  | _ => false

/-- `datetime.strptime(value, "%Y-%m-%dT%H:%M:%S.%fZ")` of a text that matches the pattern, or
nothing when it raises. -/
def strptime (texts : TimestampTexts) : Option UtcTime :=
  let year := intOfDecimals decimal texts.year
  let month := intOfDecimals decimal texts.month
  let day := intOfDecimals decimal texts.day
  let hour := intOfDecimals decimal texts.hour
  let minute := intOfDecimals decimal texts.minute
  let second := intOfDecimals decimal texts.second
  let microsecond := intOfDecimals decimal texts.microsecond
  if isMonthText texts.month && isDayText decimal texts.day && isHourText decimal texts.hour &&
      isMinuteText decimal texts.minute && isSecondText decimal texts.second &&
      texts.microsecond.all isDecimal then
    if h : (1 ≤ year ∧ year ≤ 9999) ∧ (1 ≤ month ∧ month ≤ 12) ∧
        (1 ≤ day ∧ day ≤ daysInMonth year month) ∧
        (hour < 24 ∧ minute < 60 ∧ second < 60 ∧ microsecond < 1000000) then
      some ⟨year, month, day, hour, minute, second, microsecond, h.1, h.2.1, h.2.2.1, h.2.2.2⟩
    else none
  else none

end Decimal

namespace TimeTexts

variable (T : TimeTexts)

/-- The time a text denotes. -/
def denotedTime (value : String) : Option UtcTime :=
  (matchTimestamp T.decimal value.toList).bind (strptime T.decimal)

/-- `_validate_timestamp`, for a `\d` that admits the digits of every script. -/
def validateTimestamp (P : Platform) (value : String) : Except PyError Unit := do
  requireNfc P value "timestamp"
  match matchTimestamp T.decimal value.toList with
  | none => .error (.valueError
      "timestamp must be UTC RFC 3339 with six fractional digits (YYYY-MM-DDTHH:MM:SS.ffffffZ)")
  | some texts =>
      match strptime T.decimal texts with
      | none => .error (.valueError "timestamp is not a real calendar time")
      | some parsed =>
          ensure (String.ofList (T.format parsed) = value)
            (.valueError "timestamp is not in canonical form")

variable {T}

theorem format_eq (t : UtcTime) :
    T.format t = T.yearText t.year ++ '-' :: t.chars.drop 5 := by
  have hlength := length_padded 4 t.year
  rw [format, UtcTime.chars, List.drop_append, List.drop_append, hlength]
  simp [List.drop_eq_nil_of_le, hlength]

/-- A text with digits in its first four places does not start with a shorter year. -/
theorem format_eq_chars {t : UtcTime} {value : String} {texts : TimestampTexts}
    (hmatch : matchTimestamp T.decimal value.toList = some texts)
    (h : String.ofList (T.format t) = value) : value.toList = t.chars := by
  have hchars : t.chars = padded 4 t.year ++ t.chars.drop 4 := by
    rw [UtcTime.chars, List.drop_left' (length_padded 4 t.year)]
  rw [← h, String.toList_ofList] at hmatch ⊢
  rcases T.yearText_eq t.year with hyear | ⟨-, hshort⟩
  · rw [format, hyear, ← hchars]
  · obtain ⟨⟨year, rest⟩, hscan, -⟩ := Option.bind_eq_some_iff.mp hmatch
    unfold scanDecimals at hscan
    dsimp only at hscan
    split_ifs at hscan with hdigits
    have hmem : '-' ∈ (T.format t).take 4 := by
      rw [format_eq, List.take_append]
      obtain ⟨room, hroom⟩ : ∃ room, 4 - (T.yearText t.year).length = room + 1 :=
        ⟨3 - (T.yearText t.year).length, by omega⟩
      rw [hroom, List.take_succ_cons]
      exact List.mem_append_right _ List.mem_cons_self
    have hdigit := List.all_eq_true.mp hdigits.2 '-' hmem
    rw [T.decimal_hyphen] at hdigit
    cases hdigit

/-- An accepted text denotes a time, and is its spelling. -/
theorem exists_denotedTime {P : Platform} {value : String}
    (h : T.validateTimestamp P value = .ok ()) :
    ∃ t : UtcTime, T.denotedTime value = some t ∧ value.toList = t.chars := by
  simp only [validateTimestamp, bind_eq_ok, Unique.exists_iff] at h
  obtain ⟨-, h⟩ := h
  split at h
  · cases h
  · rename_i texts hmatch
    split at h
    · cases h
    · rename_i t hparse
      rw [ensure_eq_ok] at h
      exact ⟨t, by rw [denotedTime, hmatch]; exact hparse, format_eq_chars hmatch h⟩

end TimeTexts

/-- Texts are ordered as the instants they denote. -/
theorem textLt_iff_instant {a b : String} {t u : UtcTime} (ha : a.toList = t.chars)
    (hb : b.toList = u.chars) :
    (textLt a b ↔ t.instant < u.instant) ∧ (a = b ↔ t.instant = u.instant) := by
  constructor
  · rw [textLt, ha, hb, UtcTime.chars_lt_iff, UtcTime.instant_lt_iff]
  · rw [UtcTime.instant_eq_iff]
    constructor
    · rintro rfl
      rw [ha] at hb
      have hless : ¬ t.fields < u.fields := by
        rw [← UtcTime.chars_lt_iff, hb]
        exact lt_irrefl _
      have hmore : ¬ u.fields < t.fields := by
        rw [← UtcTime.chars_lt_iff, hb]
        exact lt_irrefl _
      rw [← UtcTime.instant_lt_iff] at hless hmore
      exact UtcTime.instant_eq_iff.mp (by omega)
    · rintro rfl
      exact String.toList_inj.mp (ha.trans hb.symm)

/-- The texts the models keep are the spellings of times. -/
theorem UtcTimestamp.exists_time (x : UtcTimestamp) :
    ∃ t : UtcTime, x.1.toList = t.chars ∧ formatUtcTimestamp (.aware t) = .ok x := by
  obtain ⟨t, ht⟩ := validateTimestamp_eq_ok_iff.mp x.2
  have htext : String.ofList t.chars = x.1 := by
    rw [← ht]
    exact String.ofList_toList
  exact ⟨t, ht, congrArg Except.ok (Subtype.ext htext)⟩

/-- The order of accepted timestamps is the order of the instants they denote. Every accepted
timestamp is a text the models keep, and those are compared alike. -/
theorem timestamp_order (T : TimeTexts) (P : Platform) :
    (∀ a b : String, T.validateTimestamp P a = .ok () → T.validateTimestamp P b = .ok () →
      ∃ t u : UtcTime, T.denotedTime a = some t ∧ T.denotedTime b = some u ∧
        (textLt a b ↔ t.instant < u.instant) ∧ (a = b ↔ t.instant = u.instant)) ∧
    (∀ a : String, T.validateTimestamp P a = .ok () → validateTimestamp a = .ok ()) ∧
    ∀ x y : UtcTimestamp, ∃ t u : UtcTime,
      formatUtcTimestamp (.aware t) = .ok x ∧ formatUtcTimestamp (.aware u) = .ok y ∧
        (textLt x.1 y.1 ↔ t.instant < u.instant) ∧ (x = y ↔ t.instant = u.instant) := by
  refine ⟨fun a b ha hb => ?_, fun a ha => ?_, fun x y => ?_⟩
  · obtain ⟨t, ht, htext⟩ := TimeTexts.exists_denotedTime ha
    obtain ⟨u, hu, hutext⟩ := TimeTexts.exists_denotedTime hb
    exact ⟨t, u, ht, hu, textLt_iff_instant htext hutext⟩
  · obtain ⟨t, -, htext⟩ := TimeTexts.exists_denotedTime ha
    exact validateTimestamp_eq_ok_iff.mpr ⟨t, htext⟩
  · obtain ⟨t, htext, ht⟩ := x.exists_time
    obtain ⟨u, hutext, hu⟩ := y.exists_time
    obtain ⟨hless, hequal⟩ := textLt_iff_instant htext hutext
    exact ⟨t, u, ht, hu, hless, Subtype.ext_iff.trans hequal⟩

/-- ASCII and Arabic-Indic digits, and years with zeros in front. -/
def twoScripts : TimeTexts where
  decimal c :=
    if isDecimal c then some (c.toNat - 48)
    else if 0x660 ≤ c.toNat ∧ c.toNat ≤ 0x669 then some (c.toNat - 0x660)
    else none
  yearText := padded 4
  decimal_hyphen := by decide
  yearText_eq _ := .inl rfl

-- The Arabic-Indic day has the shape of a timestamp and is not its spelling.
example : twoScripts.validateTimestamp referencePlatform "2026-03-1٣T00:00:00.000000Z" =
    .error (.valueError "timestamp is not in canonical form") := by decide

/-- The last microsecond of February, and the next one. -/
theorem timestamp_order_february : ∃ t u : UtcTime,
    twoScripts.denotedTime "2026-02-28T23:59:59.999999Z" = some t ∧
      twoScripts.denotedTime "2026-03-01T00:00:00.000000Z" = some u ∧ t.instant < u.instant := by
  obtain ⟨t, u, ht, hu, hless, -⟩ := (timestamp_order twoScripts referencePlatform).1
    "2026-02-28T23:59:59.999999Z" "2026-03-01T00:00:00.000000Z" (by decide) (by decide)
  exact ⟨t, u, ht, hu, hless.mp (by decide)⟩

end Containment
