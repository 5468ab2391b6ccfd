/-
# Normal forms of a compact text

A normal form of Unicode is not closed under concatenation: the first characters of one text
may combine with the last one of the text before it. A compact JSON text has only ASCII
characters around its strings, and no ASCII character combines with what precedes it. So the
whole text is in normal form when the escaped body of every string is. The escapes are the
one place where a string and its body differ: an escape ends with a letter or a digit where
the string has a control character, and a letter can combine with what follows it.
-/

import Containment.Json.RoundTrip

namespace Json

/-- Texts in a normal form, as far as the ASCII characters are concerned. -/
structure NormalTexts (normal : List Char → Prop) : Prop where
  ascii : ∀ {cs : List Char}, (∀ c ∈ cs, c.toNat < 128) → normal cs
  /-- Every stretch of a normal text is normal. -/
  stretch : ∀ {cs ds : List Char}, normal (cs ++ ds) → normal cs ∧ normal ds
  /-- An ASCII character does not combine with what precedes it. -/
  boundary : ∀ {cs ds : List Char} {c : Char}, c.toNat < 128 → normal cs → normal (c :: ds) →
    normal (cs ++ c :: ds)
  /-- A quote and a backslash do not combine with what follows them. -/
  inert : ∀ {ds : List Char} {c : Char}, c = '"' ∨ c = '\\' → normal ds → normal (c :: ds)

/-- The body of a string literal, without its quotes. -/
def escaped (cs : List Char) : List Char := cs.flatMap escapeChar

theorem escaped_cons (c : Char) (cs : List Char) : escaped (c :: cs) = escapeChar c ++ escaped cs :=
  List.flatMap_cons

theorem dumpsChars_eq (cs : List Char) : dumpsChars cs = escaped cs ++ ['"'] := by
  induction cs with
  | nil => rfl
  | cons c rest ih => rw [dumpsChars, ih, escaped_cons, List.append_assoc]

/-- The last character of what is written for a character. -/
def escapeEnd (c : Char) : Char := (escapeChar c).getLastD c

/-- No control character's escape combines with what follows the control character. -/
def EscapesApart (normal : List Char → Prop) : List Char → Prop
  | [] => True
  | c :: rest => (c.toNat < 32 → normal (escapeEnd c :: rest)) ∧ EscapesApart normal rest

mutual

/-- The keys and strings of a value. -/
def strings : Json → List String
  | .str s => [s]
  | .arr items => stringsItems items
  | .obj fields => stringsFields fields
  | .null | .bool _ | .int _ => []

def stringsItems : List Json → List String
  | [] => []
  | x :: rest => strings x ++ stringsItems rest

def stringsFields : List (String × Json) → List String
  | [] => []
  | (key, value) :: rest => key :: (strings value ++ stringsFields rest)

end

/-! ## Escapes -/

theorem escapeChar_cases (c : Char) :
    (32 ≤ c.toNat ∧ escapeChar c = [c]) ∨
      (32 ≤ c.toNat ∧ (c = '"' ∨ c = '\\') ∧ escapeChar c = ['\\', c]) ∨
      c.toNat < 32 := by
  by_cases hcontrol : c.toNat < 32
  · exact .inr (.inr hcontrol)
  · have hother {d : Char} (hd : d.toNat < 32) : c ≠ d := by
      rintro rfl
      exact hcontrol hd
    by_cases hquote : c = '"'
    · subst hquote
      exact .inr (.inl ⟨by decide, .inl rfl, rfl⟩)
    by_cases hbackslash : c = '\\'
    · subst hbackslash
      exact .inr (.inl ⟨by decide, .inr rfl, rfl⟩)
    refine .inl ⟨not_lt.mp hcontrol, ?_⟩
    rw [escapeChar, if_neg hquote, if_neg hbackslash, if_neg (hother (by decide)),
      if_neg (hother (by decide)), if_neg (hother (by decide)), if_neg (hother (by decide)),
      if_neg (hother (by decide)), if_neg hcontrol]

theorem toNat_lt_of_mem_escapeChar {c x : Char} (hc : c.toNat < 128) (h : x ∈ escapeChar c) :
    x.toNat < 128 := by
  have hhex (n : ℕ) (hn : n < 16) : (hexDigit n).toNat < 128 := by
    interval_cases n <;> decide
  unfold escapeChar at h
  split_ifs at h with h₁ h₂ h₃ h₄ h₅ h₆ h₇ h₈
  iterate 7
    · simp only [List.mem_cons, List.not_mem_nil, or_false] at h
      rcases h with rfl | rfl <;> decide
  · simp only [List.mem_cons, List.not_mem_nil, or_false] at h
    rcases h with rfl | rfl | rfl | rfl | rfl | rfl
    · decide
    · decide
    · decide
    · decide
    · exact hhex _ (by omega)
    · exact hhex _ (by omega)
  · obtain rfl := List.mem_singleton.mp h
    exact hc

/-- What is written for an ASCII character, with its last character apart. -/
theorem exists_escapeEnd {c : Char} (hc : c.toNat < 128) : ∃ front,
    escapeChar c = front ++ [escapeEnd c] ∧ (∀ x ∈ front, x.toNat < 128) ∧
      (escapeEnd c).toNat < 128 := by
  have hne := escapeChar_ne_nil c
  have hlast : escapeEnd c = (escapeChar c).getLast hne := by
    rw [escapeEnd, List.getLastD_eq_getLast?, List.getLast?_eq_some_getLast hne]
    rfl
  refine ⟨(escapeChar c).dropLast, ?_, fun x hx => ?_, ?_⟩
  · rw [hlast, List.dropLast_append_getLast hne]
  · exact toNat_lt_of_mem_escapeChar hc (List.dropLast_subset _ hx)
  · rw [hlast]
    exact toNat_lt_of_mem_escapeChar hc (List.getLast_mem hne)

namespace NormalTexts

variable {normal : List Char → Prop}

/-- Before an ASCII character a text can be cut. -/
theorem append_iff (h : NormalTexts normal) {cs ds : List Char}
    (hds : ∀ c ∈ ds.head?, c.toNat < 128) : normal (cs ++ ds) ↔ normal cs ∧ normal ds := by
  refine ⟨h.stretch, fun hboth => ?_⟩
  cases ds with
  | nil =>
      rw [List.append_nil]
      exact hboth.1
  | cons c ds => exact h.boundary (hds c rfl) hboth.1 hboth.2

theorem of_all (h : NormalTexts normal) {cs : List Char}
    (hcs : (cs.all fun c => decide (c.toNat < 128)) = true) : normal cs :=
  h.ascii fun c hc => of_decide_eq_true (List.all_eq_true.mp hcs c hc)

theorem nil (h : NormalTexts normal) : normal [] := h.ascii fun _ hc => nomatch hc

theorem inert_iff (h : NormalTexts normal) {c : Char} {ds : List Char} (hc : c = '"' ∨ c = '\\') :
    normal (c :: ds) ↔ normal ds :=
  ⟨fun hboth => (h.stretch (show normal ([c] ++ ds) from hboth)).2, h.inert hc⟩

/-- What is written for an ASCII character begins and ends with ASCII characters. -/
theorem escapeChar_iff (h : NormalTexts normal) {c : Char} (hc : c.toNat < 128)
    {cs ds : List Char} :
    normal (cs ++ (escapeChar c ++ ds)) ↔ normal cs ∧ normal (escapeEnd c :: ds) := by
  obtain ⟨front, hescape, hfront, hend⟩ := exists_escapeEnd hc
  have hhead : ∀ x ∈ (escapeChar c ++ ds).head?, x.toNat < 128 := by
    intro x hx
    rw [List.head?_append_of_ne_nil _ (escapeChar_ne_nil c)] at hx
    exact toNat_lt_of_mem_escapeChar hc (List.mem_of_mem_head? hx)
  have hlast : ∀ x ∈ (escapeEnd c :: ds).head?, x.toNat < 128 := by
    rintro _ ⟨⟩
    exact hend
  rw [h.append_iff hhead, hescape, List.append_assoc, List.singleton_append, h.append_iff hlast]
  exact and_congr_right fun _ => and_iff_right (h.ascii hfront)

/-- A normal text stays so without its escapes. -/
theorem of_escaped (h : NormalTexts normal) {cs ds : List Char} (hds : normal ds)
    (hescaped : normal (cs ++ escaped ds)) : normal (cs ++ ds) := by
  induction ds generalizing cs with
  | nil => exact hescaped
  | cons c rest ih =>
      have hrest : normal rest := (h.stretch (show normal ([c] ++ rest) from hds)).2
      rw [escaped_cons] at hescaped
      -- An escaped character is an ASCII character.
      have hcut (hc : c.toNat < 128) : normal (cs ++ c :: rest) :=
        h.boundary hc ((h.escapeChar_iff hc).mp hescaped).1 hds
      rcases escapeChar_cases c with ⟨-, hplain⟩ | ⟨-, hquote, -⟩ | hcontrol
      · rw [hplain, ← List.append_assoc] at hescaped
        have hshift := ih hrest hescaped
        rwa [List.append_assoc] at hshift
      · exact hcut (by rcases hquote with rfl | rfl <;> decide)
      · exact hcut (by omega)

/-- A normal text with its escapes is normal when these stay apart. -/
theorem escaped_iff (h : NormalTexts normal) {cs ds : List Char} (hnormal : normal (cs ++ ds)) :
    normal (cs ++ escaped ds) ↔ EscapesApart normal ds := by
  induction ds generalizing cs with
  | nil => exact ⟨fun _ => trivial, fun _ => hnormal⟩
  | cons c rest ih =>
      obtain ⟨hcs, hds⟩ := h.stretch hnormal
      have hrest : normal rest := (h.stretch (show normal ([c] ++ rest) from hds)).2
      rw [escaped_cons, EscapesApart]
      rcases escapeChar_cases c with ⟨hlarge, hplain⟩ | ⟨hlarge, hquote, hescape⟩ | hcontrol
      · rw [hplain, ← List.append_assoc, ih (by rwa [List.append_assoc])]
        exact ⟨fun hapart => ⟨fun hsmall => absurd hlarge (not_le.mpr hsmall), hapart⟩, And.right⟩
      · have hascii : c.toNat < 128 := by rcases hquote with rfl | rfl <;> decide
        have hend : escapeEnd c = c := by rw [escapeEnd, hescape]; rfl
        have hbody := ih (show normal ([] ++ rest) from hrest)
        rw [List.nil_append] at hbody
        rw [h.escapeChar_iff hascii, hend, h.inert_iff hquote, hbody]
        exact ⟨fun hapart => ⟨fun hsmall => absurd hlarge (not_le.mpr hsmall), hapart.2⟩,
          fun hapart => ⟨hcs, hapart.2⟩⟩
      · rw [h.escapeChar_iff (by omega)]
        constructor
        · rintro ⟨-, hafter⟩
          have hmeets : normal ([escapeEnd c] ++ rest) := h.of_escaped hrest hafter
          exact ⟨fun _ => hmeets, (ih hmeets).mp hafter⟩
        · rintro ⟨hmeets, hapart⟩
          exact ⟨hcs, (ih (show normal ([escapeEnd c] ++ rest) from hmeets hcontrol)).mpr hapart⟩

/-! ## Whole texts -/

theorem dumpsStr_iff (h : NormalTexts normal) (s : String) :
    normal (dumpsStr s) ↔ normal (escaped s.toList) := by
  have hquote : ∀ c ∈ ['"'].head?, c.toNat < 128 := by simp
  rw [dumpsStr, dumpsChars_eq, h.inert_iff (.inl rfl), h.append_iff hquote]
  exact and_iff_left (h.inert (.inl rfl) h.nil)

theorem toNat_lt_of_mem_dumpsInt {n : ℤ} {x : Char} (h : x ∈ dumpsInt n) : x.toNat < 128 := by
  have hdigits (k : ℕ) (h : x ∈ Nat.toDigits 10 k) : x.toNat < 128 := by
    have hdigit := Nat.isDigit_of_mem_toDigits (by decide) (by decide) h
    simp only [Char.isDigit, Bool.and_eq_true, decide_eq_true_eq] at hdigit
    have hhigh : x.toNat ≤ 57 := hdigit.2
    omega
  cases n with
  | ofNat k => exact hdigits k h
  | negSucc k =>
      rcases List.mem_cons.mp h with rfl | h
      · decide
      · exact hdigits _ h

theorem head_dumps : ∀ v : Json, ∀ c ∈ v.dumps.head?, c.toNat < 128
  | .null, _, hc => by obtain rfl := Option.some.inj hc; decide
  | .bool true, _, hc => by obtain rfl := Option.some.inj hc; decide
  | .bool false, _, hc => by obtain rfl := Option.some.inj hc; decide
  | .int _, _, hc => toNat_lt_of_mem_dumpsInt (List.mem_of_mem_head? hc)
  | .str _, _, hc => by obtain rfl := Option.some.inj hc; decide
  | .arr [], _, hc => by obtain rfl := Option.some.inj hc; decide
  | .arr (_ :: _), _, hc => by
      rw [dumps] at hc
      obtain rfl := Option.some.inj hc
      decide
  | .obj [], _, hc => by obtain rfl := Option.some.inj hc; decide
  | .obj (_ :: _), _, hc => by
      rw [dumps] at hc
      obtain rfl := Option.some.inj hc
      decide

theorem head_dumpsStr (s : String) (ds : List Char) :
    ∀ c ∈ (dumpsStr s ++ ds).head?, c.toNat < 128 := by
  rw [dumpsStr]
  rintro _ ⟨⟩
  decide

theorem head_dumpsItems (items : List Json) : ∀ c ∈ (dumpsItems items).head?, c.toNat < 128 := by
  cases items <;>
  · rw [dumpsItems]
    rintro _ ⟨⟩
    decide

theorem head_dumpsFields (fields : List (String × Json)) :
    ∀ c ∈ (dumpsFields fields).head?, c.toNat < 128 := by
  cases fields <;>
  · rw [dumpsFields]
    rintro _ ⟨⟩
    decide

/-- A mark in front of a text that begins with an ASCII character. -/
theorem mark_iff (h : NormalTexts normal) {c : Char} {ds : List Char} (hc : c.toNat < 128)
    (hds : ∀ d ∈ ds.head?, d.toNat < 128) : normal (c :: ds) ↔ normal ds := by
  have hmark : normal [c] := h.ascii fun d hd => by rwa [List.mem_singleton.mp hd]
  rw [← List.singleton_append, h.append_iff hds]
  exact and_iff_right hmark

theorem field_iff (h : NormalTexts normal) (key : String) {ds : List Char}
    (hds : ∀ d ∈ ds.head?, d.toNat < 128) :
    normal (dumpsStr key ++ ':' :: ds) ↔ normal (escaped key.toList) ∧ normal ds := by
  have hcolon : ∀ d ∈ (':' :: ds).head?, d.toNat < 128 := by
    rintro _ ⟨⟩
    decide
  rw [h.append_iff hcolon, h.dumpsStr_iff, h.mark_iff (by decide) hds]

theorem head_append {cs ds : List Char} (hcs : ∀ c ∈ cs.head?, c.toNat < 128)
    (hds : ∀ d ∈ ds.head?, d.toNat < 128) : ∀ c ∈ (cs ++ ds).head?, c.toNat < 128 := by
  cases cs with
  | nil => exact hds
  | cons c rest => exact hcs

mutual

/-- A compact text is normal when the body of every string in it is. -/
theorem dumps_iff (h : NormalTexts normal) : ∀ v : Json,
    normal v.dumps ↔ ∀ s ∈ v.strings, normal (escaped s.toList)
  | .null => iff_of_true (h.of_all rfl) nofun
  | .bool true => iff_of_true (h.of_all rfl) nofun
  | .bool false => iff_of_true (h.of_all rfl) nofun
  | .int _ => iff_of_true (h.ascii fun _ hc => toNat_lt_of_mem_dumpsInt hc) nofun
  | .str s => by
      rw [dumps, h.dumpsStr_iff, strings]
      simp only [List.mem_singleton, forall_eq]
  | .arr [] => iff_of_true (h.of_all rfl) nofun
  | .arr (x :: rest) => by
      rw [dumps, h.mark_iff (by decide) (head_append (head_dumps x) (head_dumpsItems rest)),
        h.append_iff (head_dumpsItems rest), dumps_iff h x, dumpsItems_iff h rest, strings,
        stringsItems, List.forall_mem_append]
  | .obj [] => iff_of_true (h.of_all rfl) nofun
  | .obj ((key, value) :: rest) => by
      have hhead := head_append (head_dumps value) (head_dumpsFields rest)
      rw [dumps, h.mark_iff (by decide) (head_dumpsStr key _),
        h.field_iff key hhead, h.append_iff (head_dumpsFields rest), dumps_iff h value,
        dumpsFields_iff h rest, strings, stringsFields, List.forall_mem_cons,
        List.forall_mem_append]

theorem dumpsItems_iff (h : NormalTexts normal) : ∀ items : List Json,
    normal (dumpsItems items) ↔ ∀ s ∈ stringsItems items, normal (escaped s.toList)
  | [] => iff_of_true (h.of_all rfl) nofun
  | x :: rest => by
      rw [dumpsItems, h.mark_iff (by decide) (head_append (head_dumps x) (head_dumpsItems rest)),
        h.append_iff (head_dumpsItems rest), dumps_iff h x, dumpsItems_iff h rest, stringsItems,
        List.forall_mem_append]

theorem dumpsFields_iff (h : NormalTexts normal) : ∀ fields : List (String × Json),
    normal (dumpsFields fields) ↔ ∀ s ∈ stringsFields fields, normal (escaped s.toList)
  | [] => iff_of_true (h.of_all rfl) nofun
  | (key, value) :: rest => by
      have hhead := head_append (head_dumps value) (head_dumpsFields rest)
      rw [dumpsFields, h.mark_iff (by decide) (head_dumpsStr key _),
        h.field_iff key hhead, h.append_iff (head_dumpsFields rest), dumps_iff h value,
        dumpsFields_iff h rest, stringsFields, List.forall_mem_cons, List.forall_mem_append]

end

end NormalTexts

/-! ## Ordered values -/

theorem stringsFields_eq (fields : List (String × Json)) :
    stringsFields fields = fields.flatMap fun field => field.1 :: field.2.strings := by
  induction fields with
  | nil => rfl
  | cons field rest ih =>
      rw [stringsFields, ih, List.flatMap_cons, List.cons_append]

mutual

theorem mem_strings_orderForJcs {s : String} : ∀ v : Json, s ∈ v.orderForJcs.strings ↔ s ∈ v.strings
  | .null => Iff.rfl
  | .bool _ => Iff.rfl
  | .int _ => Iff.rfl
  | .str _ => Iff.rfl
  | .arr items => by
      rw [orderForJcs, strings, strings]
      exact mem_stringsItems_orderItems items
  | .obj fields => by
      rw [orderForJcs, strings, strings, stringsFields_eq,
        ((sortFields_perm (orderFields fields)).flatMap_right _).mem_iff, ← stringsFields_eq]
      exact mem_stringsFields_orderFields fields

theorem mem_stringsItems_orderItems {s : String} : ∀ items : List Json,
    s ∈ stringsItems (orderItems items) ↔ s ∈ stringsItems items
  | [] => Iff.rfl
  | x :: rest => by
      rw [orderItems, stringsItems, stringsItems, List.mem_append, List.mem_append,
        mem_strings_orderForJcs x, mem_stringsItems_orderItems rest]

theorem mem_stringsFields_orderFields {s : String} : ∀ fields : List (String × Json),
    s ∈ stringsFields (orderFields fields) ↔ s ∈ stringsFields fields
  | [] => Iff.rfl
  | (key, value) :: rest => by
      rw [orderFields, stringsFields, stringsFields, List.mem_cons, List.mem_cons, List.mem_append,
        List.mem_append, mem_strings_orderForJcs value, mem_stringsFields_orderFields rest]

end

end Json
