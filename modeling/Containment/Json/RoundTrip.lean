/-
# Reading back a compact text

`loads` inverts `text` on every value the hooks leave alone. The induction
follows the value: each writer function has one lemma saying that the matching
reader function consumes exactly its output and returns what was written,
whatever text follows. Only a number cares about what follows it, and there a
delimiter or the end of the text is enough.
-/

import Containment.Json.Parser

namespace Json

variable {ε : Type} {hooks : Hooks ε}

/-! ## Strings -/

theorem hexValue_hexDigit {n : ℕ} (hn : n < 16) : hexValue (hexDigit n) = some n := by
  interval_cases n <;> decide

/-- One escaped character is read back as itself. -/
theorem scanString_escapeChar (fuel : ℕ) (c : Char) (rest : List Char) :
    scanString (fuel + 1) (escapeChar c ++ rest) =
      (scanString fuel rest).map fun parsed => (c :: parsed.1, parsed.2) := by
  have hmap (o : Option (List Char × List Char)) (c : Char) :
      (o.bind fun parsed => some (c :: parsed.1, parsed.2)) =
        o.map fun parsed => (c :: parsed.1, parsed.2) := by
    cases o <;> rfl
  have hshort (letter : Char) (hescape : scanEscape (letter :: rest) = some (c, rest)) :
      scanString (fuel + 1) ('\\' :: letter :: rest) =
        (scanString fuel rest).map fun parsed => (c :: parsed.1, parsed.2) := by
    rw [scanString, if_neg (by decide), if_pos rfl, hescape]
    exact hmap _ c
  unfold escapeChar
  split_ifs with h₁ h₂ h₃ h₄ h₅ h₆ h₇ h₈
  · subst h₁; exact hshort '"' rfl
  · subst h₂; exact hshort '\\' rfl
  · subst h₃; exact hshort 'n' rfl
  · subst h₄; exact hshort 'r' rfl
  · subst h₅; exact hshort 't' rfl
  · subst h₆; exact hshort 'b' rfl
  · subst h₇; exact hshort 'f' rfl
  · -- The remaining control characters use the six-character escape.
    have hdigits : scanHex ('0' :: '0' :: hexDigit (c.toNat / 16) ::
        hexDigit (c.toNat % 16) :: rest) = some (c.toNat, rest) := by
      have hzero : hexValue '0' = some 0 := by decide
      have hhigh := @hexValue_hexDigit (c.toNat / 16) (by omega)
      have hlow := @hexValue_hexDigit (c.toNat % 16) (by omega)
      have hsum : c.toNat / 16 * 16 + c.toNat % 16 = c.toNat := by omega
      simp [scanHex, hzero, hhigh, hlow, hsum]
    have hunicode : scanUnicode ('0' :: '0' :: hexDigit (c.toNat / 16) ::
        hexDigit (c.toNat % 16) :: rest) = some (c, rest) := by
      have hhigh : ¬(0xD800 ≤ c.toNat ∧ c.toNat < 0xDC00) := by omega
      have hlow : ¬(0xDC00 ≤ c.toNat ∧ c.toNat < 0xE000) := by omega
      simp [scanUnicode, hdigits, hhigh, hlow, Char.ofNat_toNat]
    simp only [List.cons_append, List.nil_append]
    rw [scanString, if_neg (by decide), if_pos rfl, scanEscape, hunicode]
    exact hmap _ c
  · simp only [List.cons_append, List.nil_append]
    rw [scanString, if_neg h₁, if_neg h₂, if_neg h₈]
    exact hmap _ c

theorem escapeChar_ne_nil (c : Char) : escapeChar c ≠ [] := by
  unfold escapeChar
  split_ifs <;> exact List.cons_ne_nil _ _

theorem scanString_dumpsChars (chars : List Char) (rest : List Char) (fuel : ℕ)
    (hfuel : (dumpsChars chars).length ≤ fuel) :
    scanString fuel (dumpsChars chars ++ rest) = some (chars, rest) := by
  induction chars generalizing fuel with
  | nil =>
      obtain _ | fuel := fuel
      · simp [dumpsChars] at hfuel
      · simp [dumpsChars, scanString]
  | cons c chars ih =>
      have hescape := List.length_pos_iff.mpr (escapeChar_ne_nil c)
      rw [dumpsChars, List.length_append] at hfuel
      obtain _ | fuel := fuel
      · omega
      · rw [dumpsChars, List.append_assoc, scanString_escapeChar, ih fuel (by omega)]
        rfl

theorem parseString_dumpsChars (s : String) (rest : List Char) :
    parseString hooks (dumpsChars s.toList ++ rest) = .ok (s, rest) := by
  rw [parseString, scanString_dumpsChars _ _ _ (by rw [List.length_append]; omega)]
  simp

/-! ## Integers -/

/-- What may follow a number without becoming part of it. -/
def Delimited (rest : List Char) : Prop :=
  ∀ c ∈ rest.head?, c = ',' ∨ c = ']' ∨ c = '}'

theorem delimited_nil : Delimited [] := by simp [Delimited]

theorem delimited_dumpsItems (items : List Json) (rest : List Char) :
    Delimited (dumpsItems items ++ rest) := by
  cases items <;> simp [dumpsItems, Delimited]

theorem delimited_dumpsFields (fields : List (String × Json)) (rest : List Char) :
    Delimited (dumpsFields fields ++ rest) := by
  cases fields with
  | nil => simp [dumpsFields, Delimited]
  | cons field fields => cases field; simp [dumpsFields, Delimited]

theorem takeWhile_isDigit_append {digits rest : List Char}
    (hdigits : ∀ c ∈ digits, c.isDigit) (hrest : Delimited rest) :
    (digits ++ rest).takeWhile Char.isDigit = digits ∧
      (digits ++ rest).dropWhile Char.isDigit = rest := by
  induction digits with
  | nil =>
      cases rest with
      | nil => exact ⟨rfl, rfl⟩
      | cons c tail =>
          have hc : c.isDigit = false := by
            rcases hrest c rfl with rfl | rfl | rfl <;> decide
          simp [hc]
  | cons d digits ih =>
      have hd := hdigits d List.mem_cons_self
      have ih := ih fun c hc => hdigits c (List.mem_cons_of_mem _ hc)
      simp [hd, ih.1, ih.2]

theorem scanFraction_of_delimited {rest : List Char} (hrest : Delimited rest) :
    scanFraction rest = ([], rest) := by
  cases rest with
  | nil => rfl
  | cons c tail =>
      rcases hrest c rfl with rfl | rfl | rfl <;> rfl

theorem scanExponent_of_delimited {rest : List Char} (hrest : Delimited rest) :
    scanExponent rest = ([], rest) := by
  cases rest with
  | nil => rfl
  | cons c tail =>
      rcases hrest c rfl with rfl | rfl | rfl <;> rfl

/-- A positive number is written without a leading zero. -/
theorem head_toDigits_ne_zero (n : ℕ) (hn : 0 < n) :
    ∃ d ds, Nat.toDigits 10 n = d :: ds ∧ d ≠ '0' := by
  induction n using Nat.strong_induction_on with
  | _ n ih =>
      by_cases hlt : n < 10
      · rw [Nat.toDigits_of_lt_base hlt]
        refine ⟨_, _, rfl, ?_⟩
        interval_cases n <;> decide
      · obtain ⟨d, ds, hds, hd⟩ := ih (n / 10) (by omega) (by omega)
        rw [Nat.toDigits_of_base_le (by decide) (by omega), hds]
        exact ⟨d, _, rfl, hd⟩

theorem scanInteger_toDigits (n : ℕ) {rest : List Char} (hrest : Delimited rest) :
    scanInteger (Nat.toDigits 10 n ++ rest) = some (Nat.toDigits 10 n, rest) := by
  rcases Nat.eq_zero_or_pos n with rfl | hn
  · rfl
  · have hall : ∀ c ∈ Nat.toDigits 10 n, c.isDigit := fun c hc =>
      Nat.isDigit_of_mem_toDigits (by decide) (by decide) hc
    obtain ⟨htake, hdrop⟩ := takeWhile_isDigit_append hall hrest
    obtain ⟨d, ds, hds, hd⟩ := head_toDigits_ne_zero n hn
    have hdigit : d.isDigit := hall d (by rw [hds]; exact List.mem_cons_self)
    rw [hds, List.cons_append] at htake hdrop ⊢
    unfold scanInteger
    split
    · rename_i h
      exact absurd (List.cons.inj h).1 hd
    · rename_i h
      obtain ⟨rfl, rfl⟩ := List.cons.inj h
      rw [if_pos hdigit, htake, hdrop]
    · rename_i h
      cases h

theorem parseNumber_toDigits (n : ℕ) (negative : Bool) {rest : List Char}
    (hrest : Delimited rest) :
    parseNumber hooks negative (Nat.toDigits 10 n ++ rest) = do
      let value ← hooks.parseInt (if negative then -(n : ℤ) else n)
      return (.int value, rest) := by
  rw [parseNumber, scanInteger_toDigits n hrest]
  simp [scanFraction_of_delimited hrest, scanExponent_of_delimited hrest,
    Nat.ofDigitChars_ten_toDigits]

/-- Scalars other than numbers start with a letter, so a digit selects the
number branch. -/
theorem parseScalar_digit {d : Char} (hd : d.isDigit) (cs : List Char) :
    parseScalar hooks (d :: cs) = parseNumber hooks false (d :: cs) := by
  unfold parseScalar
  split <;> first
    | rfl
    | (rename_i h; obtain ⟨rfl, -⟩ := List.cons.inj h; exact absurd hd (by decide))

theorem parseScalar_dumpsInt (n : ℤ) {rest : List Char} (hrest : Delimited rest)
    (hint : hooks.parseInt n = .ok n) :
    parseScalar hooks (dumpsInt n ++ rest) = .ok (.int n, rest) := by
  have hall (k : ℕ) : ∀ c ∈ Nat.toDigits 10 k, c.isDigit := fun c hc =>
    Nat.isDigit_of_mem_toDigits (by decide) (by decide) hc
  cases n with
  | ofNat k =>
      rw [dumpsInt]
      obtain ⟨d, ds, hds⟩ := List.exists_cons_of_ne_nil (@Nat.toDigits_ne_nil k 10)
      have hd : d.isDigit := hall k d (by rw [hds]; exact List.mem_cons_self)
      have hnumber := @parseNumber_toDigits _ hooks k false _ hrest
      rw [hds, List.cons_append] at hnumber ⊢
      rw [parseScalar_digit hd, hnumber]
      simp only [Bool.false_eq_true, if_false]
      rw [show hooks.parseInt (k : ℤ) = .ok (Int.ofNat k) from hint]
      rfl
  | negSucc k =>
      rw [dumpsInt]
      obtain ⟨d, ds, hds⟩ := List.exists_cons_of_ne_nil (@Nat.toDigits_ne_nil (k + 1) 10)
      have hd : d.isDigit := hall (k + 1) d (by rw [hds]; exact List.mem_cons_self)
      have hnumber := @parseNumber_toDigits _ hooks (k + 1) true _ hrest
      have hsign : parseScalar hooks ('-' :: (Nat.toDigits 10 (k + 1) ++ rest)) =
          parseNumber hooks true (Nat.toDigits 10 (k + 1) ++ rest) := by
        rw [hds, List.cons_append]
        unfold parseScalar
        split <;> first | rfl | (rename_i h; simp_all)
      rw [List.cons_append, hsign, hnumber]
      simp only [if_true]
      rw [show hooks.parseInt (-((k + 1 : ℕ) : ℤ)) = .ok (Int.negSucc k) from hint]
      rfl

/-! ## Values -/

mutual

/-- The hooks return every integer and every field list of the value unchanged. -/
def Accepted (hooks : Hooks ε) : Json → Prop
  | .null => True
  | .bool _ => True
  | .int n => hooks.parseInt n = .ok n
  | .str _ => True
  | .arr items => AcceptedItems hooks items
  | .obj fields => hooks.object fields = .ok fields ∧ AcceptedFields hooks fields

def AcceptedItems (hooks : Hooks ε) : List Json → Prop
  | [] => True
  | x :: rest => Accepted hooks x ∧ AcceptedItems hooks rest

def AcceptedFields (hooks : Hooks ε) : List (String × Json) → Prop
  | [] => True
  | (_, value) :: rest => Accepted hooks value ∧ AcceptedFields hooks rest

end

/-- A value's text starts with a character that is neither whitespace, a closing
bracket nor a byte order mark. -/
theorem dumps_head (v : Json) :
    ∃ c cs, v.dumps = c :: cs ∧ isSpace c = false ∧ c ≠ ']' ∧ c ≠ '\ufeff' := by
  have hdigits (k : ℕ) : ∃ c cs, Nat.toDigits 10 k = c :: cs ∧
      isSpace c = false ∧ c ≠ ']' ∧ c ≠ '\ufeff' := by
    obtain ⟨d, ds, hds⟩ := List.exists_cons_of_ne_nil (@Nat.toDigits_ne_nil k 10)
    have hd : d.isDigit := Nat.isDigit_of_mem_toDigits (by decide : 0 < 10) (by decide)
      (by rw [hds]; exact List.mem_cons_self)
    refine ⟨d, ds, hds, ?_, ?_, ?_⟩
    · by_contra hspace
      simp only [isSpace, Bool.not_eq_false, Bool.or_eq_true, decide_eq_true_eq] at hspace
      rcases hspace with ((rfl | rfl) | rfl) | rfl <;> exact absurd hd (by decide)
    · rintro rfl; exact absurd hd (by decide)
    · rintro rfl; exact absurd hd (by decide)
  match v with
  | .null => exact ⟨_, _, rfl, by decide, by decide, by decide⟩
  | .bool true => exact ⟨_, _, rfl, by decide, by decide, by decide⟩
  | .bool false => exact ⟨_, _, rfl, by decide, by decide, by decide⟩
  | .int (.ofNat k) => exact hdigits k
  | .int (.negSucc k) => exact ⟨_, _, rfl, by decide, by decide, by decide⟩
  | .str s => exact ⟨_, _, rfl, by decide, by decide, by decide⟩
  | .arr [] => exact ⟨_, _, rfl, by decide, by decide, by decide⟩
  | .arr (x :: rest) => exact ⟨_, _, rfl, by decide, by decide, by decide⟩
  | .obj [] => exact ⟨_, _, rfl, by decide, by decide, by decide⟩
  | .obj ((key, value) :: rest) => exact ⟨_, _, rfl, by decide, by decide, by decide⟩

theorem skipSpace_dumps (v : Json) (rest : List Char) :
    skipSpace (v.dumps ++ rest) = v.dumps ++ rest := by
  obtain ⟨c, cs, hcs, hspace, -, -⟩ := dumps_head v
  simp [skipSpace, hcs, hspace]

theorem skipSpace_dumpsItems (items : List Json) (rest : List Char) :
    skipSpace (dumpsItems items ++ rest) = dumpsItems items ++ rest := by
  cases items with
  | nil => rfl
  | cons x items => rfl

theorem skipSpace_dumpsFields (fields : List (String × Json)) (rest : List Char) :
    skipSpace (dumpsFields fields ++ rest) = dumpsFields fields ++ rest := by
  cases fields with
  | nil => rfl
  | cons field fields => cases field; rfl

/-- Scalar texts do not start with a quote or an opening bracket. -/
theorem parseValue_scalar {fuel : ℕ} {c : Char} {cs : List Char}
    (hquote : c ≠ '"') (hbracket : c ≠ '[') (hbrace : c ≠ '{') :
    parseValue hooks (fuel + 1) (c :: cs) = parseScalar hooks (c :: cs) := by
  rw [parseValue]
  · intro rest h
    exact hquote (List.cons.inj h).1
  · intro rest h
    exact hbracket (List.cons.inj h).1
  · intro rest h
    exact hbrace (List.cons.inj h).1

mutual

/-- The reader consumes exactly the text of a value. -/
theorem parseValue_dumps : ∀ (v : Json) (fuel : ℕ) (rest : List Char),
    Accepted hooks v → v.dumps.length ≤ fuel → Delimited rest →
      parseValue hooks fuel (v.dumps ++ rest) = .ok (v, rest)
  | v, 0, rest, _, hfuel, _ => by
      obtain ⟨c, cs, hcs, -⟩ := dumps_head v
      simp [hcs] at hfuel
  | .null, fuel + 1, rest, _, _, _ => by
      exact parseValue_scalar (by decide) (by decide) (by decide)
  | .bool true, fuel + 1, rest, _, _, _ => by
      exact parseValue_scalar (by decide) (by decide) (by decide)
  | .bool false, fuel + 1, rest, _, _, _ => by
      exact parseValue_scalar (by decide) (by decide) (by decide)
  | .int n, fuel + 1, rest, haccepted, _, hrest => by
      have hscalar := parseScalar_dumpsInt n hrest (by simpa [Accepted] using haccepted)
      have hhead : ∃ c cs, dumpsInt n ++ rest = c :: cs ∧ c ≠ '"' ∧ c ≠ '[' ∧ c ≠ '{' := by
        cases n with
        | ofNat k =>
            obtain ⟨d, ds, hds⟩ := List.exists_cons_of_ne_nil (@Nat.toDigits_ne_nil k 10)
            have hd : d.isDigit := Nat.isDigit_of_mem_toDigits (by decide : 0 < 10) (by decide)
              (by rw [hds]; exact List.mem_cons_self)
            refine ⟨d, ds ++ rest, by rw [dumpsInt, hds]; rfl, ?_, ?_, ?_⟩ <;>
              (rintro rfl; exact absurd hd (by decide))
        | negSucc k => exact ⟨'-', _, rfl, by decide, by decide, by decide⟩
      obtain ⟨c, cs, hcs, hquote, hbracket, hbrace⟩ := hhead
      rw [dumps]
      rw [hcs] at hscalar ⊢
      rw [parseValue_scalar hquote hbracket hbrace, hscalar]
  | .str s, fuel + 1, rest, _, _, _ => by
      rw [dumps, dumpsStr, List.cons_append, parseValue]
      simp only [parseString_dumpsChars]
      rfl
  | .arr [], fuel + 1, rest, _, _, _ => by
      simp [dumps, parseValue, skipSpace, isSpace]
  | .arr (x :: items), fuel + 1, rest, haccepted, hfuel, _ => by
      simp only [Accepted, AcceptedItems] at haccepted
      simp only [dumps, List.length_cons, List.length_append] at hfuel
      have hx := parseValue_dumps x fuel (dumpsItems items ++ rest) haccepted.1
        (by omega) (delimited_dumpsItems items rest)
      have hitems := parseItems_dumpsItems items fuel rest haccepted.2 (by omega)
      obtain ⟨c, cs, hcs, -, hclose, -⟩ := dumps_head x
      rw [dumps, List.cons_append, List.append_assoc, parseValue]
      simp only [skipSpace_dumps]
      rw [hcs, List.cons_append] at hx ⊢
      split
      · rename_i h
        exact absurd (List.cons.inj h).1 hclose
      · simp only [hx, skipSpace_dumpsItems, hitems, bind, Except.bind]
        rfl
  | .obj [], fuel + 1, rest, haccepted, _, _ => by
      simp only [Accepted] at haccepted
      simp [dumps, parseValue, skipSpace, isSpace, haccepted.1]
  | .obj ((key, value) :: fields), fuel + 1, rest, haccepted, hfuel, _ => by
      simp only [Accepted, AcceptedFields] at haccepted
      simp only [dumps, dumpsStr, List.length_cons, List.length_append] at hfuel
      have hfield := parseField_dumps key value fuel (dumpsFields fields ++ rest) haccepted.2.1
        (by simp only [dumpsStr, List.length_cons, List.length_append]; omega)
        (delimited_dumpsFields fields rest)
      have hfields := parseFields_dumpsFields fields fuel rest haccepted.2.2 (by omega)
      have htext : (Json.obj ((key, value) :: fields)).dumps ++ rest =
          '{' :: (dumpsStr key ++ ':' :: (value.dumps ++ (dumpsFields fields ++ rest))) := by
        simp [dumps]
      have hopen : skipSpace (dumpsStr key ++ ':' :: (value.dumps ++ (dumpsFields fields ++ rest))) =
          dumpsStr key ++ ':' :: (value.dumps ++ (dumpsFields fields ++ rest)) := rfl
      rw [htext, parseValue]
      simp only [hopen]
      rw [dumpsStr, List.cons_append] at hfield ⊢
      split
      · rename_i h
        exact absurd (List.cons.inj h).1 (by decide)
      · simp only [hfield, skipSpace_dumpsFields, hfields, haccepted.1, bind, Except.bind]
        rfl

theorem parseItems_dumpsItems : ∀ (items : List Json) (fuel : ℕ) (rest : List Char),
    AcceptedItems hooks items → (dumpsItems items).length ≤ fuel →
      parseItems hooks fuel (dumpsItems items ++ rest) = .ok (items, rest)
  | items, 0, rest, _, hfuel => by
      cases items <;> simp [dumpsItems] at hfuel
  | [], fuel + 1, rest, _, _ => by
      simp [dumpsItems, parseItems]
  | x :: items, fuel + 1, rest, haccepted, hfuel => by
      simp only [AcceptedItems] at haccepted
      simp only [dumpsItems, List.length_cons, List.length_append] at hfuel
      have hx := parseValue_dumps x fuel (dumpsItems items ++ rest) haccepted.1
        (by omega) (delimited_dumpsItems items rest)
      have hitems := parseItems_dumpsItems items fuel rest haccepted.2 (by omega)
      rw [dumpsItems, List.cons_append, List.append_assoc, parseItems]
      simp only [skipSpace_dumps, hx, skipSpace_dumpsItems, hitems, bind, Except.bind]
      rfl

theorem parseField_dumps : ∀ (key : String) (value : Json) (fuel : ℕ) (rest : List Char),
    Accepted hooks value → (dumpsStr key ++ ':' :: value.dumps).length ≤ fuel →
      Delimited rest →
      parseField hooks fuel (dumpsStr key ++ ':' :: (value.dumps ++ rest)) =
        .ok ((key, value), rest)
  | key, value, 0, rest, _, hfuel, _ => by
      simp [dumpsStr] at hfuel
  | key, value, fuel + 1, rest, haccepted, hfuel, hrest => by
      simp only [dumpsStr, List.length_cons, List.length_append] at hfuel
      have hvalue := parseValue_dumps value fuel rest haccepted (by omega) hrest
      have hcolon : skipSpace (':' :: (value.dumps ++ rest)) = ':' :: (value.dumps ++ rest) := rfl
      rw [dumpsStr, List.cons_append, parseField]
      simp only [parseString_dumpsChars, hcolon, skipSpace_dumps, hvalue, bind, Except.bind]
      rfl

theorem parseFields_dumpsFields : ∀ (fields : List (String × Json)) (fuel : ℕ)
    (rest : List Char), AcceptedFields hooks fields → (dumpsFields fields).length ≤ fuel →
      parseFields hooks fuel (dumpsFields fields ++ rest) = .ok (fields, rest)
  | fields, 0, rest, _, hfuel => by
      obtain _ | ⟨⟨key, value⟩, fields⟩ := fields <;> simp [dumpsFields] at hfuel
  | [], fuel + 1, rest, _, _ => by
      simp [dumpsFields, parseFields]
  | (key, value) :: fields, fuel + 1, rest, haccepted, hfuel => by
      simp only [AcceptedFields] at haccepted
      simp only [dumpsFields, List.length_cons, List.length_append] at hfuel
      have hfield := parseField_dumps key value fuel (dumpsFields fields ++ rest) haccepted.1
        (by simp only [List.length_append, List.length_cons]; omega)
        (delimited_dumpsFields fields rest)
      have hfields := parseFields_dumpsFields fields fuel rest haccepted.2 (by omega)
      have htext : dumpsFields ((key, value) :: fields) ++ rest =
          ',' :: (dumpsStr key ++ ':' :: (value.dumps ++ (dumpsFields fields ++ rest))) := by
        simp [dumpsFields]
      have hopen : skipSpace (dumpsStr key ++ ':' :: (value.dumps ++ (dumpsFields fields ++ rest))) =
          dumpsStr key ++ ':' :: (value.dumps ++ (dumpsFields fields ++ rest)) := rfl
      rw [htext, parseFields]
      simp only [hopen, hfield, skipSpace_dumpsFields, hfields, bind, Except.bind]
      rfl

end

/-- Reading the compact text of an accepted value gives that value back. -/
theorem loads_text (v : Json) (haccepted : Accepted hooks v) : loads hooks v.text = .ok v := by
  have hvalue := parseValue_dumps v (v.dumps.length + 1) [] haccepted (by omega) delimited_nil
  have hspace := skipSpace_dumps v []
  rw [List.append_nil] at hvalue hspace
  rw [loads, text, String.toList_ofList, hspace, hvalue]
  rfl

end Json
