/-
# JSON values and their compact text

The value type carries no floats: a profile that forbids them rejects the number
while reading, so a value that exists has none. Objects keep the order of their
fields, because the order is what a canonical text fixes.

`dumps` writes the compact form without insignificant whitespace. A string is
written with the short escapes, a six-character escape for every other control
character, and all remaining characters verbatim. `orderForJcs` is the ordering
of RFC 8785: fields sorted by the UTF-16 code units of their keys, at every
depth.
-/

import Mathlib.Data.List.Sort
import Mathlib.Data.String.Basic
import Mathlib.Tactic.IntervalCases

/-- A JSON value without floating-point numbers. -/
inductive Json : Type
  | null
  | bool (value : Bool)
  | int (value : ℤ)
  | str (value : String)
  | arr (items : List Json)
  | obj (fields : List (String × Json))

namespace Json

/-! ## Compact text -/

/-- One hexadecimal digit in lowercase. -/
def hexDigit (n : ℕ) : Char :=
  if n < 10 then Char.ofNat (48 + n) else Char.ofNat (87 + n)

/-- The text a string literal holds for one character. -/
def escapeChar (c : Char) : List Char :=
  if c = '"' then ['\\', '"']
  else if c = '\\' then ['\\', '\\']
  else if c = '\n' then ['\\', 'n']
  else if c = '\r' then ['\\', 'r']
  else if c = '\t' then ['\\', 't']
  else if c = '\x08' then ['\\', 'b']
  else if c = '\x0c' then ['\\', 'f']
  else if c.toNat < 0x20 then
    ['\\', 'u', '0', '0', hexDigit (c.toNat / 16), hexDigit (c.toNat % 16)]
  else [c]

/-- The body of a string literal after its opening quote. -/
def dumpsChars : List Char → List Char
  | [] => ['"']
  | c :: rest => escapeChar c ++ dumpsChars rest

def dumpsStr (s : String) : List Char := '"' :: dumpsChars s.toList

def dumpsInt : ℤ → List Char
  | .ofNat n => Nat.toDigits 10 n
  | .negSucc n => '-' :: Nat.toDigits 10 (n + 1)

mutual

/-- The compact text of a value, as a list of characters. -/
def dumps : Json → List Char
  | .null => ['n', 'u', 'l', 'l']
  | .bool true => ['t', 'r', 'u', 'e']
  | .bool false => ['f', 'a', 'l', 's', 'e']
  | .int n => dumpsInt n
  | .str s => dumpsStr s
  | .arr [] => ['[', ']']
  | .arr (x :: rest) => '[' :: (dumps x ++ dumpsItems rest)
  | .obj [] => ['{', '}']
  | .obj ((key, value) :: rest) =>
      '{' :: (dumpsStr key ++ ':' :: (dumps value ++ dumpsFields rest))

/-- What follows an array element, up to the closing bracket. -/
def dumpsItems : List Json → List Char
  | [] => [']']
  | x :: rest => ',' :: (dumps x ++ dumpsItems rest)

/-- What follows an object field, up to the closing brace. -/
def dumpsFields : List (String × Json) → List Char
  | [] => ['}']
  | (key, value) :: rest =>
      ',' :: (dumpsStr key ++ ':' :: (dumps value ++ dumpsFields rest))

end

/-- The compact text of a value. -/
def text (v : Json) : String := String.ofList v.dumps

/-! ## Field order -/

/-- One character as big-endian UTF-16. -/
def utf16Char (c : Char) : List UInt8 :=
  let n := c.toNat
  if n < 0x10000 then [(n / 256).toUInt8, (n % 256).toUInt8]
  else
    let high := 0xD800 + (n - 0x10000) / 1024
    let low := 0xDC00 + (n - 0x10000) % 1024
    [(high / 256).toUInt8, (high % 256).toUInt8, (low / 256).toUInt8, (low % 256).toUInt8]

def utf16 (s : String) : List UInt8 := s.toList.flatMap utf16Char

/-- Sort fields by the UTF-16 code units of their keys. -/
def sortFields {α : Type} (fields : List (String × α)) : List (String × α) :=
  fields.insertionSort fun a b => utf16 a.1 ≤ utf16 b.1

mutual

/-- Order the fields of every object as RFC 8785 requires. -/
def orderForJcs : Json → Json
  | .arr items => .arr (orderItems items)
  | .obj fields => .obj (sortFields (orderFields fields))
  | .null => .null
  | .bool b => .bool b
  | .int n => .int n
  | .str s => .str s

def orderItems : List Json → List Json
  | [] => []
  | x :: rest => orderForJcs x :: orderItems rest

def orderFields : List (String × Json) → List (String × Json)
  | [] => []
  | (key, value) :: rest => (key, orderForJcs value) :: orderFields rest

end

theorem orderItems_eq_map (items : List Json) : orderItems items = items.map orderForJcs := by
  induction items with
  | nil => rfl
  | cons x rest ih => rw [orderItems, ih, List.map_cons]

theorem orderFields_eq_map (fields : List (String × Json)) :
    orderFields fields = fields.map fun field => (field.1, orderForJcs field.2) := by
  induction fields with
  | nil => rfl
  | cons field rest ih => rw [orderFields, ih, List.map_cons]

theorem sortFields_perm {α : Type} (fields : List (String × α)) :
    (sortFields fields).Perm fields :=
  List.perm_insertionSort _ fields

theorem sortFields_sorted {α : Type} (fields : List (String × α)) :
    (sortFields fields).Pairwise fun a b => utf16 a.1 ≤ utf16 b.1 := by
  have : Std.Total fun a b : String × α => utf16 a.1 ≤ utf16 b.1 := ⟨fun a b => List.le_total _ _⟩
  have : IsTrans (String × α) fun a b => utf16 a.1 ≤ utf16 b.1 := ⟨fun a b c => List.le_trans⟩
  exact List.pairwise_insertionSort _ fields

theorem sortFields_idem {α : Type} (fields : List (String × α)) :
    sortFields (sortFields fields) = sortFields fields :=
  (sortFields_sorted fields).insertionSort_eq

/-- Sorting looks at keys only. -/
theorem sortFields_map {α β : Type} (f : α → β) (fields : List (String × α)) :
    sortFields (fields.map fun field => (field.1, f field.2)) =
      (sortFields fields).map fun field => (field.1, f field.2) := by
  have hmap := List.map_insertionSort (fun a b : String × α => utf16 a.1 ≤ utf16 b.1)
    (fun a b : String × β => utf16 a.1 ≤ utf16 b.1) (fun field => (field.1, f field.2)) fields
    fun _ _ _ _ => Iff.rfl
  exact hmap.symm

mutual

/-- An ordered value is its own ordered form. -/
theorem orderForJcs_idem : ∀ v : Json, v.orderForJcs.orderForJcs = v.orderForJcs
  | .null => rfl
  | .bool _ => rfl
  | .int _ => rfl
  | .str _ => rfl
  | .arr items => by rw [orderForJcs, orderForJcs, orderItems_idem items]
  | .obj fields => by
      rw [orderForJcs, orderForJcs, orderFields_eq_map (sortFields _),
        ← sortFields_map, ← orderFields_eq_map, orderFields_idem fields, sortFields_idem]

theorem orderItems_idem : ∀ items : List Json, orderItems (orderItems items) = orderItems items
  | [] => rfl
  | x :: rest => by rw [orderItems, orderItems, orderForJcs_idem x, orderItems_idem rest]

theorem orderFields_idem : ∀ fields : List (String × Json),
    orderFields (orderFields fields) = orderFields fields
  | [] => rfl
  | (_, value) :: rest => by
      rw [orderFields, orderFields, orderForJcs_idem value, orderFields_idem rest]

end

/-- The value stored under a key; the first one if a key is repeated. -/
def lookup {α : Type} (key : String) (fields : List (String × α)) : Option α :=
  (fields.find? fun field => field.1 = key).map Prod.snd

/-- Reordering fields with distinct keys changes no lookup. -/
theorem lookup_eq_of_perm {α : Type} {fields fields' : List (String × α)}
    (hperm : fields.Perm fields') (hnodup : (fields.map Prod.fst).Nodup) (key : String) :
    lookup key fields = lookup key fields' := by
  induction hperm with
  | nil => rfl
  | cons field _ ih =>
      rw [List.map_cons, List.nodup_cons] at hnodup
      by_cases hkey : field.1 = key
      · simp [lookup, hkey]
      · simpa [lookup, hkey] using ih hnodup.2
  | swap first second rest =>
      simp only [List.map_cons, List.nodup_cons, List.mem_cons, not_or] at hnodup
      by_cases hfirst : first.1 = key
      · have hsecond : second.1 ≠ key := fun h => hnodup.1.1 (h.trans hfirst.symm)
        simp [lookup, hfirst, hsecond]
      · by_cases hsecond : second.1 = key <;> simp [lookup, hfirst, hsecond]
  | trans hperm₁ _ ih₁ ih₂ =>
      exact (ih₁ hnodup).trans (ih₂ ((hperm₁.map Prod.fst).nodup_iff.mp hnodup))

theorem lookup_eq_some_of_mem {α : Type} {fields : List (String × α)} {key : String} {value : α}
    (hnodup : (fields.map Prod.fst).Nodup) (hmem : (key, value) ∈ fields) :
    lookup key fields = some value := by
  induction fields with
  | nil => cases hmem
  | cons field rest ih =>
      rw [List.map_cons, List.nodup_cons] at hnodup
      rcases List.mem_cons.mp hmem with rfl | hrest
      · simp [lookup]
      · have hkey : field.1 ≠ key := fun h => hnodup.1 (h ▸ List.mem_map_of_mem hrest)
        simpa [lookup, hkey] using ih hnodup.2 hrest

/-! ## No control character in a compact text -/

theorem le_of_mem_escapeChar {c x : Char} (h : x ∈ escapeChar c) : 32 ≤ x.toNat := by
  have hhex (n : ℕ) (hn : n < 16) : 32 ≤ (hexDigit n).toNat := by
    interval_cases n <;> decide
  unfold escapeChar at h
  split_ifs at h with h₁ h₂ h₃ h₄ h₅ h₆ h₇ h₈
  iterate 7
    · simp only [List.mem_cons, List.not_mem_nil, or_false] at h
      rcases h with rfl | rfl <;> decide
  · simp only [List.mem_cons, List.not_mem_nil, or_false] at h
    rcases h with rfl | rfl | rfl | rfl | rfl | rfl
    · decide
    · decide
    · decide
    · decide
    · exact hhex _ (by omega)
    · exact hhex _ (by omega)
  · obtain rfl := List.mem_singleton.mp h
    omega

theorem le_of_mem_dumpsStr {s : String} {x : Char} (h : x ∈ dumpsStr s) : 32 ≤ x.toNat := by
  have hquote : 32 ≤ '"'.toNat := by decide
  have hchars (cs : List Char) (h : x ∈ dumpsChars cs) : 32 ≤ x.toNat := by
    induction cs with
    | nil =>
        obtain rfl := List.mem_singleton.mp h
        exact hquote
    | cons c rest ih => exact (List.mem_append.mp h).elim le_of_mem_escapeChar ih
  rcases List.mem_cons.mp h with rfl | h
  · exact hquote
  · exact hchars _ h

theorem le_of_mem_dumpsInt {n : ℤ} {x : Char} (h : x ∈ dumpsInt n) : 32 ≤ x.toNat := by
  have hdigits (k : ℕ) (h : x ∈ Nat.toDigits 10 k) : 32 ≤ x.toNat := by
    have hdigit := Nat.isDigit_of_mem_toDigits (by decide) (by decide) h
    simp only [Char.isDigit, Bool.and_eq_true, decide_eq_true_eq] at hdigit
    have hlow : 48 ≤ x.toNat := hdigit.1
    omega
  cases n with
  | ofNat k => exact hdigits k h
  | negSucc k =>
      rcases List.mem_cons.mp h with rfl | h
      · decide
      · exact hdigits _ h

mutual

/-- A control character inside a value is always written as an escape, so a compact text
is a single line. -/
theorem le_of_mem_dumps {x : Char} : ∀ v : Json, x ∈ v.dumps → 32 ≤ x.toNat
  | .null, h => by
      simp only [dumps, List.mem_cons, List.not_mem_nil, or_false] at h
      rcases h with rfl | rfl | rfl | rfl <;> decide
  | .bool true, h => by
      simp only [dumps, List.mem_cons, List.not_mem_nil, or_false] at h
      rcases h with rfl | rfl | rfl | rfl <;> decide
  | .bool false, h => by
      simp only [dumps, List.mem_cons, List.not_mem_nil, or_false] at h
      rcases h with rfl | rfl | rfl | rfl | rfl <;> decide
  | .int _, h => le_of_mem_dumpsInt h
  | .str _, h => le_of_mem_dumpsStr h
  | .arr [], h => by
      simp only [dumps, List.mem_cons, List.not_mem_nil, or_false] at h
      rcases h with rfl | rfl <;> decide
  | .arr (v :: rest), h => by
      simp only [dumps, List.mem_cons, List.mem_append] at h
      rcases h with rfl | h | h
      · decide
      · exact le_of_mem_dumps v h
      · exact le_of_mem_dumpsItems rest h
  | .obj [], h => by
      simp only [dumps, List.mem_cons, List.not_mem_nil, or_false] at h
      rcases h with rfl | rfl <;> decide
  | .obj ((key, value) :: rest), h => by
      simp only [dumps, List.mem_cons, List.mem_append] at h
      rcases h with rfl | h | rfl | h | h
      · decide
      · exact le_of_mem_dumpsStr h
      · decide
      · exact le_of_mem_dumps value h
      · exact le_of_mem_dumpsFields rest h

theorem le_of_mem_dumpsItems {x : Char} : ∀ items : List Json, x ∈ dumpsItems items → 32 ≤ x.toNat
  | [], h => by
      obtain rfl := List.mem_singleton.mp h
      decide
  | v :: rest, h => by
      simp only [dumpsItems, List.mem_cons, List.mem_append] at h
      rcases h with rfl | h | h
      · decide
      · exact le_of_mem_dumps v h
      · exact le_of_mem_dumpsItems rest h

theorem le_of_mem_dumpsFields {x : Char} :
    ∀ fields : List (String × Json), x ∈ dumpsFields fields → 32 ≤ x.toNat
  | [], h => by
      obtain rfl := List.mem_singleton.mp h
      decide
  | (key, value) :: rest, h => by
      simp only [dumpsFields, List.mem_cons, List.mem_append] at h
      rcases h with rfl | h | rfl | h | h
      · decide
      · exact le_of_mem_dumpsStr h
      · decide
      · exact le_of_mem_dumps value h
      · exact le_of_mem_dumpsFields rest h

end

end Json
