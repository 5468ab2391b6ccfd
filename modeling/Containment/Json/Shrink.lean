/-
# Compact texts are shortest

A reader that passes on what it read, refuses fractions and constants, and keeps the fields
of an object, reads no value whose compact text is longer than the text it read. The
lengths are in UTF-8: an escape is at least as long as what the compact text has for its
character, and whitespace is dropped. The order of fields does not change a length.
-/

import Containment.Json.Parser
import Mathlib.Algebra.BigOperators.Group.List.Basic

namespace Json

variable {ε : Type} {hooks : Hooks ε}

/-- The number of octets of a text in UTF-8. -/
def octets (cs : List Char) : ℕ := (cs.map Char.utf8Size).sum

@[simp] theorem octets_nil : octets [] = 0 := rfl

@[simp] theorem octets_cons (c : Char) (cs : List Char) :
    octets (c :: cs) = c.utf8Size + octets cs := by
  rw [octets, List.map_cons, List.sum_cons, octets]

@[simp] theorem octets_append (cs ds : List Char) : octets (cs ++ ds) = octets cs + octets ds := by
  rw [octets, List.map_append, List.sum_append, octets, octets]

/-- A reader that changes nothing. -/
structure Hooks.Faithful (hooks : Hooks ε) : Prop where
  int : ∀ n m, hooks.parseInt n = .ok m → m = n
  float : ∀ text v, hooks.parseFloat text ≠ .ok v
  constant : ∀ text v, hooks.parseConstant text ≠ .ok v
  object : ∀ fields fields', hooks.object fields = .ok fields' → fields' = fields

theorem octets_skipSpace (cs : List Char) : octets (skipSpace cs) ≤ octets cs := by
  induction cs with
  | nil => exact le_rfl
  | cons c rest ih =>
      rw [skipSpace, List.dropWhile_cons]
      split
      · rw [octets_cons]
        exact ih.trans (Nat.le_add_left _ _)
      · exact le_rfl

/-! ## Strings -/

theorem octets_escapeChar (c : Char) : octets (escapeChar c) ≤ 6 := by
  have hsize : c.utf8Size ≤ 4 := c.utf8Size_le_four
  have hhex (n : ℕ) (h : n < 16) : (hexDigit n).utf8Size = 1 := by
    interval_cases n <;> rfl
  unfold escapeChar
  split_ifs with h₁ h₂ h₃ h₄ h₅ h₆ h₇ hcontrol
  all_goals try decide
  · rw [octets_cons, octets_cons, octets_cons, octets_cons, octets_cons, octets_cons, octets_nil,
      hhex _ (by omega), hhex _ (by omega)]
    decide
  · rw [octets_cons, octets_nil]
    omega

theorem octets_scanHex {cs rest : List Char} {n : ℕ} (h : scanHex cs = some (n, rest)) :
    4 + octets rest ≤ octets cs := by
  unfold scanHex at h
  split at h
  · rename_i a b c d tail
    simp only [Option.bind_eq_bind, Option.bind_eq_some_iff, Option.pure_def, Option.some.injEq,
      Prod.mk.injEq] at h
    obtain ⟨_, -, _, -, _, -, _, -, -, rfl⟩ := h
    have ha := a.utf8Size_pos
    have hb := b.utf8Size_pos
    have hc := c.utf8Size_pos
    have hd := d.utf8Size_pos
    simp only [octets_cons]
    omega
  · cases h

theorem octets_scanUnicode {cs rest : List Char} {c : Char} (h : scanUnicode cs = some (c, rest)) :
    octets (escapeChar c) + octets rest ≤ octets cs + 2 := by
  have hescape := octets_escapeChar c
  simp only [scanUnicode, Option.bind_eq_bind, Option.bind_eq_some_iff, Prod.exists] at h
  obtain ⟨n, tail, hhex, h⟩ := h
  have htail := octets_scanHex hhex
  split_ifs at h with hhigh hlow
  · split at h
    · rename_i tail'
      simp only [Option.bind_eq_some_iff, Prod.exists] at h
      obtain ⟨m, tail'', hhex', h⟩ := h
      have htail' := octets_scanHex hhex'
      split_ifs at h with hpair
      simp only [Option.pure_def, Option.some.injEq, Prod.mk.injEq] at h
      obtain ⟨-, rfl⟩ := h
      rw [octets_cons, octets_cons] at htail
      omega
    · cases h
  · simp only [Option.pure_def, Option.some.injEq, Prod.mk.injEq] at h
    obtain ⟨-, rfl⟩ := h
    omega

theorem octets_scanEscape {cs rest : List Char} {c : Char} (h : scanEscape cs = some (c, rest)) :
    octets (escapeChar c) + octets rest ≤ octets cs + 1 := by
  have hshort {c x : Char} {rest : List Char} (h : octets (escapeChar c) ≤ x.utf8Size + 1) :
      octets (escapeChar c) + octets rest ≤ octets (x :: rest) + 1 := by
    rw [octets_cons]
    omega
  unfold scanEscape at h
  split at h
  case h_9 =>
    have hunicode := octets_scanUnicode h
    rw [octets_cons]
    have hu : 'u'.utf8Size = 1 := rfl
    omega
  case h_10 => cases h
  all_goals
    obtain ⟨rfl, rfl⟩ := Prod.mk.inj (Option.some.inj h)
    exact hshort (by decide)

theorem escapeChar_of_plain {c : Char} (hquote : c ≠ '"') (hescape : c ≠ '\\')
    (hcontrol : ¬ c.toNat < 0x20) : escapeChar c = [c] := by
  have hne {d : Char} (hd : d.toNat < 0x20) : c ≠ d := by
    rintro rfl
    exact hcontrol hd
  rw [escapeChar, if_neg hquote, if_neg hescape, if_neg (hne (by decide)), if_neg (hne (by decide)),
    if_neg (hne (by decide)), if_neg (hne (by decide)), if_neg (hne (by decide)), if_neg hcontrol]

theorem octets_scanString {fuel : ℕ} {cs chars rest : List Char}
    (h : scanString fuel cs = some (chars, rest)) :
    octets (dumpsChars chars) + octets rest ≤ octets cs := by
  induction fuel generalizing cs chars with
  | zero => cases h
  | succ fuel ih =>
      cases cs with
      | nil => cases h
      | cons c tail =>
          rw [scanString] at h
          split_ifs at h with hquote hescape hcontrol
          · obtain ⟨rfl, rfl⟩ := Prod.mk.inj (Option.some.inj h)
            rw [hquote]
            exact le_rfl
          · simp only [Option.bind_eq_bind, Option.bind_eq_some_iff, Option.pure_def,
              Option.some.injEq, Prod.mk.injEq, Prod.exists] at h
            obtain ⟨decoded, tail', hdecoded, chars', rest', hrest, rfl, rfl⟩ := h
            have hhead := octets_scanEscape hdecoded
            have htail := ih hrest
            have hone : '\\'.utf8Size = 1 := rfl
            rw [dumpsChars, octets_append, octets_cons, hescape, hone]
            omega
          · simp only [Option.bind_eq_bind, Option.bind_eq_some_iff, Option.pure_def,
              Option.some.injEq, Prod.mk.injEq, Prod.exists] at h
            obtain ⟨chars', rest', hrest, rfl, rfl⟩ := h
            have htail := ih hrest
            rw [dumpsChars, escapeChar_of_plain hquote hescape hcontrol, octets_append, octets_cons,
              octets_cons, octets_nil]
            omega

theorem octets_parseString {cs rest : List Char} {s : String}
    (h : parseString hooks cs = .ok (s, rest)) :
    octets (dumpsChars s.toList) + octets rest ≤ octets cs := by
  unfold parseString at h
  split at h
  · cases h
  · rename_i chars rest' hscan
    obtain ⟨rfl, rfl⟩ := Prod.mk.inj (Except.ok.inj h)
    rw [String.toList_ofList]
    exact octets_scanString hscan

/-! ## Numbers -/

theorem octets_of_digits {digits : List Char} (h : ∀ c ∈ digits, c.isDigit = true) :
    octets digits = digits.length := by
  induction digits with
  | nil => rfl
  | cons c rest ih =>
      have hc : c.utf8Size = 1 := by
        have hdigit := (Char.isDigit_iff_toNat.mp (h c List.mem_cons_self)).2
        have hnine : '9'.toNat = 57 := rfl
        rw [Char.utf8Size_eq_one_iff, UInt32.le_iff_toNat_le]
        change c.toNat ≤ 127
        omega
      rw [octets_cons, hc, ih fun d hd => h d (List.mem_cons_of_mem _ hd), List.length_cons,
        Nat.add_comm]

theorem ofDigitChars_lt {digits : List Char} (h : ∀ c ∈ digits, c.isDigit = true) (init : ℕ) :
    Nat.ofDigitChars 10 digits init < (init + 1) * 10 ^ digits.length := by
  induction digits generalizing init with
  | nil => simp
  | cons c rest ih =>
      have hc : c.toNat - '0'.toNat < 10 := by
        have hdigit := (Char.isDigit_iff_toNat.mp (h c List.mem_cons_self)).2
        have hnine : '9'.toNat = 57 := rfl
        have hzero : '0'.toNat = 48 := rfl
        omega
      rw [Nat.ofDigitChars_cons, List.length_cons]
      refine (ih (fun d hd => h d (List.mem_cons_of_mem _ hd)) _).trans_le ?_
      calc (10 * init + (c.toNat - '0'.toNat) + 1) * 10 ^ rest.length
          ≤ ((init + 1) * 10) * 10 ^ rest.length := Nat.mul_le_mul_right _ (by omega)
        _ = (init + 1) * 10 ^ (rest.length + 1) := by
          rw [Nat.pow_succ, Nat.mul_assoc, Nat.mul_comm 10]

/-- Leading zeros apart, a number is written with the digits it was read from. -/
theorem length_toDigits_ofDigitChars {digits : List Char} (h : ∀ c ∈ digits, c.isDigit = true)
    (hne : digits ≠ []) :
    (Nat.toDigits 10 (Nat.ofDigitChars 10 digits 0)).length ≤ digits.length := by
  refine (Nat.length_toDigits_le_iff (by decide) (List.length_pos_of_ne_nil hne)).mpr ?_
  simpa using ofDigitChars_lt h 0

theorem scanInteger_some {cs digits rest : List Char} (h : scanInteger cs = some (digits, rest)) :
    cs = digits ++ rest ∧ digits ≠ [] ∧ ∀ c ∈ digits, c.isDigit = true := by
  unfold scanInteger at h
  split at h
  · obtain ⟨rfl, rfl⟩ := Prod.mk.inj (Option.some.inj h)
    refine ⟨rfl, List.cons_ne_nil _ _, fun c hc => ?_⟩
    rw [List.mem_singleton.mp hc]
    decide
  · rename_i c tail _
    split_ifs at h with hdigit
    obtain ⟨rfl, rfl⟩ := Prod.mk.inj (Option.some.inj h)
    refine ⟨List.takeWhile_append_dropWhile.symm, ?_, fun d hd =>
      List.all_eq_true.mp List.all_takeWhile d hd⟩
    rw [List.takeWhile_cons_of_pos hdigit]
    exact List.cons_ne_nil _ _
  · cases h

theorem scanFraction_of_nil {cs : List Char} (h : (scanFraction cs).1 = []) :
    (scanFraction cs).2 = cs := by
  unfold scanFraction at h ⊢
  split at h
  · dsimp only at h ⊢
    split_ifs at h ⊢
    rfl
  · rfl

theorem scanExponent_of_nil {cs : List Char} (h : (scanExponent cs).1 = []) :
    (scanExponent cs).2 = cs := by
  unfold scanExponent at h ⊢
  split at h
  · split_ifs at h ⊢ with hexponent
    · dsimp only at h ⊢
      split_ifs at h ⊢
      · rfl
      · exact absurd h (List.cons_ne_nil _ _)
    · rfl
  · rfl

theorem length_dumpsInt_le (n : ℕ) (negative : Bool) :
    (dumpsInt (if negative then -(n : ℤ) else n)).length ≤
      negative.toNat + (Nat.toDigits 10 n).length := by
  cases negative with
  | false =>
      rw [if_neg Bool.false_ne_true, Bool.toNat_false, Nat.zero_add]
      exact le_rfl
  | true =>
      rw [if_pos rfl, Bool.toNat_true]
      cases n with
      | zero => exact Nat.le_add_left _ _
      | succ n =>
          have hneg : -((n + 1 : ℕ) : ℤ) = Int.negSucc n := rfl
          rw [hneg, dumpsInt, List.length_cons, Nat.add_comm]

theorem octets_dumpsInt (n : ℤ) : octets (dumpsInt n) = (dumpsInt n).length := by
  have hdigits (n : ℕ) : octets (Nat.toDigits 10 n) = (Nat.toDigits 10 n).length :=
    octets_of_digits fun c hc => Nat.isDigit_of_mem_toDigits (by decide) (by decide) hc
  cases n with
  | ofNat n => exact hdigits n
  | negSucc n =>
      rw [dumpsInt, octets_cons, hdigits, List.length_cons, Nat.add_comm]
      rfl

/-- The sign of a number has been read before its digits. -/
theorem octets_parseNumber (hooks_faithful : hooks.Faithful) {negative : Bool} {cs rest : List Char}
    {v : Json} (h : parseNumber hooks negative cs = .ok (v, rest)) :
    octets v.dumps + octets rest ≤ negative.toNat + octets cs := by
  unfold parseNumber at h
  split at h
  · cases h
  · rename_i digits tail hscan
    obtain ⟨rfl, hne, hdigits⟩ := scanInteger_some hscan
    dsimp only at h
    by_cases hinteger : ((scanFraction tail).1.isEmpty &&
        (scanExponent (scanFraction tail).2).1.isEmpty) = true
    · rw [if_pos hinteger] at h
      rw [Bool.and_eq_true, List.isEmpty_iff, List.isEmpty_iff] at hinteger
      have hfraction := scanFraction_of_nil hinteger.1
      have hexponent := scanExponent_of_nil hinteger.2
      rw [hexponent, hfraction] at h
      cases hint : hooks.parseInt (if negative then -((Nat.ofDigitChars 10 digits 0 : ℕ) : ℤ)
          else (Nat.ofDigitChars 10 digits 0 : ℕ)) with
      | error error =>
          rw [hint] at h
          cases h
      | ok n =>
          rw [hint] at h
          obtain ⟨rfl, rfl⟩ := Prod.mk.inj (Except.ok.inj h)
          rw [hooks_faithful.int _ _ hint]
          have hlength := length_dumpsInt_le (Nat.ofDigitChars 10 digits 0) negative
          have hshort := length_toDigits_ofDigitChars hdigits hne
          rw [dumps, octets_dumpsInt, octets_append, octets_of_digits hdigits]
          omega
    · rw [if_neg hinteger] at h
      cases hfloat : hooks.parseFloat (String.ofList ((if negative then ['-'] else []) ++ digits ++
          (scanFraction tail).1 ++ (scanExponent (scanFraction tail).2).1)) with
      | error error =>
          rw [hfloat] at h
          cases h
      | ok value => exact absurd hfloat (hooks_faithful.float _ _)

/-! ## Values -/

theorem octets_parseScalar (hooks_faithful : hooks.Faithful) {cs rest : List Char} {v : Json}
    (h : parseScalar hooks cs = .ok (v, rest)) : octets v.dumps + octets rest ≤ octets cs := by
  have hconstant {text : String} {rest rest' : List Char} {v : Json} :
      (do return (← hooks.parseConstant text, rest') : Except ε (Json × List Char)) ≠
        .ok (v, rest) := by
    intro h
    cases hread : hooks.parseConstant text with
    | error error =>
        rw [hread] at h
        cases h
    | ok value => exact hooks_faithful.constant _ _ hread
  unfold parseScalar at h
  split at h
  · obtain ⟨rfl, rfl⟩ := Prod.mk.inj (Except.ok.inj h)
    exact le_of_eq (octets_append (dumps .null) _).symm
  · obtain ⟨rfl, rfl⟩ := Prod.mk.inj (Except.ok.inj h)
    exact le_of_eq (octets_append (dumps (.bool true)) _).symm
  · obtain ⟨rfl, rfl⟩ := Prod.mk.inj (Except.ok.inj h)
    exact le_of_eq (octets_append (dumps (.bool false)) _).symm
  · exact absurd h hconstant
  · exact absurd h hconstant
  · exact absurd h hconstant
  · have hnumber := octets_parseNumber hooks_faithful h
    rw [octets_cons]
    exact hnumber
  · have hnumber := octets_parseNumber hooks_faithful h
    rw [Bool.toNat_false, Nat.zero_add] at hnumber
    exact hnumber

/-- What the four readers of nested text do, for one amount of fuel. -/
structure Shrinks (hooks : Hooks ε) (fuel : ℕ) : Prop where
  value : ∀ {cs v rest}, parseValue hooks fuel cs = .ok (v, rest) →
    octets v.dumps + octets rest ≤ octets cs
  items : ∀ {cs items rest}, parseItems hooks fuel cs = .ok (items, rest) →
    octets (dumpsItems items) + octets rest ≤ octets cs
  field : ∀ {cs key v rest}, parseField hooks fuel cs = .ok ((key, v), rest) →
    octets (dumpsStr key) + octets v.dumps + 1 + octets rest ≤ octets cs
  fields : ∀ {cs fields rest}, parseFields hooks fuel cs = .ok (fields, rest) →
    octets (dumpsFields fields) + octets rest ≤ octets cs

/-- A reader followed by more reading. -/
theorem exists_of_read {α β : Type} {first : Except ε (α × List Char)}
    {next : α × List Char → Except ε β} {result : β} (h : first >>= next = .ok result) :
    ∃ x rest, first = .ok (x, rest) ∧ next (x, rest) = .ok result := by
  cases first with
  | error error => cases h
  | ok read => exact ⟨read.1, read.2, rfl, h⟩

theorem octets_parseField {fuel : ℕ} (ih : Shrinks hooks fuel)
    {cs key rest} {v : Json} (h : parseField hooks (fuel + 1) cs = .ok ((key, v), rest)) :
    octets (dumpsStr key) + octets v.dumps + 1 + octets rest ≤ octets cs := by
  have hquote : '"'.utf8Size = 1 := rfl
  have hcolon : ':'.utf8Size = 1 := rfl
  unfold parseField at h
  split at h
  · obtain ⟨key', tail, hkey, h⟩ := exists_of_read h
    have hshort := octets_parseString hkey
    dsimp only at h
    have hspace := octets_skipSpace tail
    split at h
    · rename_i tail' htail
      obtain ⟨v', rest', hvalue, h⟩ := exists_of_read h
      have hread := ih.value hvalue
      have hspace' := octets_skipSpace tail'
      obtain ⟨⟨rfl, rfl⟩, rfl⟩ := (Prod.mk.inj (Except.ok.inj h)).imp_left Prod.mk.inj
      rw [htail, octets_cons, hcolon] at hspace
      rw [dumpsStr, octets_cons, octets_cons, hquote]
      dsimp only
      omega
    · cases h
  · cases h

theorem octets_parseItems {fuel : ℕ} (ih : Shrinks hooks fuel)
    {cs items rest} (h : parseItems hooks (fuel + 1) cs = .ok (items, rest)) :
    octets (dumpsItems items) + octets rest ≤ octets cs := by
  have hcomma : ','.utf8Size = 1 := rfl
  unfold parseItems at h
  split at h
  · obtain ⟨rfl, rfl⟩ := Prod.mk.inj (Except.ok.inj h)
    exact le_of_eq (octets_append (dumpsItems []) _).symm
  · rename_i tail
    obtain ⟨x, tail', hvalue, h⟩ := exists_of_read h
    obtain ⟨items', rest', hitems, h⟩ := exists_of_read h
    have hread := ih.value hvalue
    have hrest := ih.items hitems
    have hspace := octets_skipSpace tail
    have hspace' := octets_skipSpace tail'
    obtain ⟨rfl, rfl⟩ := Prod.mk.inj (Except.ok.inj h)
    rw [dumpsItems, octets_cons, octets_cons, octets_append]
    omega
  · cases h

theorem octets_parseFields {fuel : ℕ} (ih : Shrinks hooks fuel)
    {cs fields rest} (h : parseFields hooks (fuel + 1) cs = .ok (fields, rest)) :
    octets (dumpsFields fields) + octets rest ≤ octets cs := by
  have hcolon : ':'.utf8Size = 1 := rfl
  unfold parseFields at h
  split at h
  · obtain ⟨rfl, rfl⟩ := Prod.mk.inj (Except.ok.inj h)
    exact le_of_eq (octets_append (dumpsFields []) _).symm
  · rename_i tail
    obtain ⟨⟨key, v⟩, tail', hfield, h⟩ := exists_of_read h
    obtain ⟨fields', rest', hfields, h⟩ := exists_of_read h
    have hread := ih.field hfield
    have hrest := ih.fields hfields
    have hspace := octets_skipSpace tail
    have hspace' := octets_skipSpace tail'
    obtain ⟨rfl, rfl⟩ := Prod.mk.inj (Except.ok.inj h)
    rw [dumpsFields, octets_cons, octets_cons, octets_append, octets_cons, octets_append, hcolon]
    omega
  · cases h

theorem object_eq_of_ok (hooks_faithful : hooks.Faithful) {fields : List (String × Json)} {v : Json}
    {rest rest' : List Char}
    (h : (do return (.obj (← hooks.object fields), rest') : Except ε (Json × List Char)) =
      .ok (v, rest)) : v = .obj fields ∧ rest = rest' := by
  cases hobject : hooks.object fields with
  | error error =>
      rw [hobject] at h
      cases h
  | ok fields' =>
      rw [hobject] at h
      obtain ⟨rfl, rfl⟩ := Prod.mk.inj (Except.ok.inj h)
      exact ⟨by rw [hooks_faithful.object _ _ hobject], rfl⟩

theorem octets_parseValue (hooks_faithful : hooks.Faithful) {fuel : ℕ} (ih : Shrinks hooks fuel)
    {cs v rest} (h : parseValue hooks (fuel + 1) cs = .ok (v, rest)) :
    octets v.dumps + octets rest ≤ octets cs := by
  have hcolon : ':'.utf8Size = 1 := rfl
  unfold parseValue at h
  split at h
  · obtain ⟨s, tail, hstring, h⟩ := exists_of_read h
    obtain ⟨rfl, rfl⟩ := Prod.mk.inj (Except.ok.inj h)
    have hread := octets_parseString hstring
    rw [dumps, dumpsStr, octets_cons, octets_cons]
    omega
  · rename_i tail
    have hspace := octets_skipSpace tail
    split at h
    · rename_i tail' htail
      obtain ⟨rfl, rfl⟩ := Prod.mk.inj (Except.ok.inj h)
      rw [htail] at hspace
      rw [octets_cons]
      refine le_trans (le_of_eq ?_) (Nat.add_le_add_left hspace _)
      exact (octets_append ['[', ']'] _).symm.trans (octets_cons _ _)
    · obtain ⟨x, tail', hvalue, h⟩ := exists_of_read h
      obtain ⟨items, rest', hitems, h⟩ := exists_of_read h
      have hread := ih.value hvalue
      have hrest := ih.items hitems
      have hspace' := octets_skipSpace tail'
      obtain ⟨rfl, rfl⟩ := Prod.mk.inj (Except.ok.inj h)
      rw [dumps, octets_cons, octets_cons, octets_append]
      omega
  · rename_i tail
    have hspace := octets_skipSpace tail
    split at h
    · rename_i tail' htail
      obtain ⟨rfl, rfl⟩ := object_eq_of_ok hooks_faithful h
      rw [htail] at hspace
      rw [octets_cons]
      refine le_trans (le_of_eq ?_) (Nat.add_le_add_left hspace _)
      exact (octets_append ['\x7b', '\x7d'] _).symm.trans (octets_cons _ _)
    · obtain ⟨⟨key, value⟩, tail', hfield, h⟩ := exists_of_read h
      obtain ⟨fields, rest', hfields, h⟩ := exists_of_read h
      have hread := ih.field hfield
      have hrest := ih.fields hfields
      have hspace' := octets_skipSpace tail'
      obtain ⟨rfl, rfl⟩ := object_eq_of_ok hooks_faithful h
      rw [dumps, octets_cons, octets_cons, octets_append, octets_cons, octets_append, hcolon]
      omega
  · exact octets_parseScalar hooks_faithful h

/-- Nothing that is read gets longer. -/
theorem shrinks (hooks_faithful : hooks.Faithful) (fuel : ℕ) : Shrinks hooks fuel := by
  induction fuel with
  | zero => exact ⟨nofun, nofun, nofun, nofun⟩
  | succ fuel ih =>
      exact ⟨octets_parseValue hooks_faithful ih, octets_parseItems ih,
        octets_parseField ih, octets_parseFields ih⟩

/-- The compact text of a value is no longer than any text it was read from. -/
theorem octets_dumps_of_loads (hooks_faithful : hooks.Faithful) {text : String} {v : Json}
    (h : loads hooks text = .ok v) : octets v.dumps ≤ octets text.toList := by
  obtain ⟨value, rest, hvalue, h⟩ := exists_of_read h
  dsimp only at h
  split_ifs at h
  obtain rfl := Except.ok.inj h
  have hread := (shrinks hooks_faithful _).value hvalue
  have hspace := octets_skipSpace text.toList
  omega

/-! ## Ordered values -/

/-- The octets of a field and the comma or the brace in front of it. -/
def fieldOctets (field : String × Json) : ℕ :=
  octets (dumpsStr field.1) + octets field.2.dumps + 2

theorem octets_dumpsFields (fields : List (String × Json)) :
    octets (dumpsFields fields) = (fields.map fieldOctets).sum + 1 := by
  induction fields with
  | nil => rfl
  | cons field rest ih =>
      obtain ⟨key, value⟩ := field
      have hcolon : ':'.utf8Size = 1 := rfl
      have hcomma : ','.utf8Size = 1 := rfl
      rw [dumpsFields, octets_cons, octets_append, octets_cons, octets_append, ih, hcolon, hcomma,
        List.map_cons, List.sum_cons, fieldOctets]
      dsimp only
      omega

theorem octets_dumps_obj {fields : List (String × Json)} (h : fields ≠ []) :
    octets (dumps (.obj fields)) = (fields.map fieldOctets).sum + 1 := by
  cases fields with
  | nil => exact absurd rfl h
  | cons field rest =>
      obtain ⟨key, value⟩ := field
      have hcolon : ':'.utf8Size = 1 := rfl
      have hbrace : '\x7b'.utf8Size = 1 := rfl
      rw [dumps, octets_cons, octets_append, octets_cons, octets_append, octets_dumpsFields, hcolon,
        hbrace, List.map_cons, List.sum_cons, fieldOctets]
      dsimp only
      omega

/-- Only the multiset of an object's fields matters. -/
theorem octets_dumps_obj_eq {fields fields' : List (String × Json)}
    (h : (fields.map fieldOctets).Perm (fields'.map fieldOctets)) :
    octets (dumps (.obj fields)) = octets (dumps (.obj fields')) := by
  cases fields with
  | nil =>
      obtain rfl := List.map_eq_nil_iff.mp (List.nil_perm.mp h)
      rfl
  | cons field rest =>
      have hne : fields' ≠ [] := by
        rintro rfl
        simp at h
      rw [octets_dumps_obj (List.cons_ne_nil _ _), octets_dumps_obj hne, h.sum_eq]

mutual

theorem octets_dumps_orderForJcs : ∀ v : Json, octets v.orderForJcs.dumps = octets v.dumps
  | .null => rfl
  | .bool _ => rfl
  | .int _ => rfl
  | .str _ => rfl
  | .arr [] => rfl
  | .arr (x :: rest) => by
      rw [orderForJcs, orderItems, dumps, dumps, octets_cons, octets_cons, octets_append,
        octets_append, octets_dumps_orderForJcs x, octets_dumpsItems_orderItems rest]
  | .obj fields => by
      rw [orderForJcs]
      refine octets_dumps_obj_eq (((sortFields_perm _).map _).trans ?_)
      rw [map_fieldOctets_orderFields fields]

theorem octets_dumpsItems_orderItems : ∀ items : List Json,
    octets (dumpsItems (orderItems items)) = octets (dumpsItems items)
  | [] => rfl
  | x :: rest => by
      rw [orderItems, dumpsItems, dumpsItems, octets_cons, octets_cons, octets_append,
        octets_append, octets_dumps_orderForJcs x, octets_dumpsItems_orderItems rest]

theorem map_fieldOctets_orderFields : ∀ fields : List (String × Json),
    (orderFields fields).map fieldOctets = fields.map fieldOctets
  | [] => rfl
  | (key, value) :: rest => by
      rw [orderFields, List.map_cons, List.map_cons, fieldOctets, fieldOctets,
        octets_dumps_orderForJcs value, map_fieldOctets_orderFields rest]

end

end Json
