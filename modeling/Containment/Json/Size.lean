/-
# How long a compact text can get

`span` bounds the number of characters of a value's compact text. It is a sum over
the tree in which every character of a string counts for the longest escape, so it
does not depend on the order of an object's fields and it adds up along records.
-/

import Containment.Json.Codec
import Mathlib.Algebra.BigOperators.Group.List.Basic

namespace Json

/-- Characters a string literal can take. -/
def strSpan (s : String) : ℕ := 6 * s.toList.length + 2

mutual

def span : Json → ℕ
  | .null => 4
  | .bool _ => 5
  | .int n => (dumpsInt n).length
  | .str s => strSpan s
  | .arr items => spanItems items + 2
  | .obj fields => spanFields fields + 2

def spanItems : List Json → ℕ
  | [] => 0
  | x :: rest => span x + 1 + spanItems rest

def spanFields : List (String × Json) → ℕ
  | [] => 0
  | (key, value) :: rest => strSpan key + span value + 2 + spanFields rest

end

theorem spanFields_eq_sum (fields : List (String × Json)) :
    spanFields fields = (fields.map fun field => strSpan field.1 + span field.2 + 2).sum := by
  induction fields with
  | nil => rfl
  | cons field rest ih => rw [spanFields, ih, List.map_cons, List.sum_cons]

theorem spanFields_append (fields fields' : List (String × Json)) :
    spanFields (fields ++ fields') = spanFields fields + spanFields fields' := by
  rw [spanFields_eq_sum, spanFields_eq_sum, spanFields_eq_sum, List.map_append, List.sum_append]

mutual

theorem span_orderForJcs : ∀ v : Json, v.orderForJcs.span = v.span
  | .null => rfl
  | .bool _ => rfl
  | .int _ => rfl
  | .str _ => rfl
  | .arr items => by rw [orderForJcs, span, span, spanItems_orderItems items]
  | .obj fields => by
      rw [orderForJcs, span, span, spanFields_eq_sum,
        ((sortFields_perm (orderFields fields)).map _).sum_eq, ← spanFields_eq_sum,
        spanFields_orderFields fields]

theorem spanItems_orderItems : ∀ items : List Json,
    spanItems (orderItems items) = spanItems items
  | [] => rfl
  | x :: rest => by
      rw [orderItems, spanItems, spanItems, span_orderForJcs x, spanItems_orderItems rest]

theorem spanFields_orderFields : ∀ fields : List (String × Json),
    spanFields (orderFields fields) = spanFields fields
  | [] => rfl
  | (_, value) :: rest => by
      rw [orderFields, spanFields, spanFields, span_orderForJcs value,
        spanFields_orderFields rest]

end

theorem length_escapeChar (c : Char) : (escapeChar c).length ≤ 6 := by
  unfold escapeChar
  split_ifs <;> simp

theorem length_dumpsStr (s : String) : (dumpsStr s).length ≤ strSpan s := by
  have hchars (cs : List Char) : (dumpsChars cs).length ≤ 6 * cs.length + 1 := by
    induction cs with
    | nil => simp [dumpsChars]
    | cons c rest ih =>
        have := length_escapeChar c
        rw [dumpsChars, List.length_append, List.length_cons]
        omega
  have := hchars s.toList
  rw [dumpsStr, List.length_cons, strSpan]
  omega

mutual

/-- A compact text is no longer than the span of its value. -/
theorem length_dumps : ∀ v : Json, v.dumps.length ≤ v.span
  | .null => le_rfl
  | .bool true => by simp [dumps, span]
  | .bool false => by simp [dumps, span]
  | .int n => le_rfl
  | .str s => length_dumpsStr s
  | .arr [] => by simp [dumps, span]
  | .arr (x :: rest) => by
      have hx := length_dumps x
      have hrest := length_dumpsItems rest
      simp only [dumps, span, spanItems, List.length_cons, List.length_append]
      omega
  | .obj [] => by simp [dumps, span]
  | .obj ((key, value) :: rest) => by
      have hkey := length_dumpsStr key
      have hvalue := length_dumps value
      have hrest := length_dumpsFields rest
      simp only [dumps, span, spanFields, List.length_cons, List.length_append]
      omega

theorem length_dumpsItems : ∀ items : List Json,
    (dumpsItems items).length ≤ spanItems items + 1
  | [] => by simp [dumpsItems, spanItems]
  | x :: rest => by
      have hx := length_dumps x
      have hrest := length_dumpsItems rest
      simp only [dumpsItems, spanItems, List.length_cons, List.length_append]
      omega

theorem length_dumpsFields : ∀ fields : List (String × Json),
    (dumpsFields fields).length ≤ spanFields fields + 1
  | [] => by simp [dumpsFields, spanFields]
  | (key, value) :: rest => by
      have hkey := length_dumpsStr key
      have hvalue := length_dumps value
      have hrest := length_dumpsFields rest
      simp only [dumpsFields, spanFields, List.length_cons, List.length_append]
      omega

end

/-- A number of at most sixteen digits, with its sign. -/
theorem length_dumpsInt {n : ℤ} (h : |n| < 10 ^ 16) : (dumpsInt n).length ≤ 17 := by
  have hdigits {k : ℕ} (hk : k < 10 ^ 16) : (Nat.toDigits 10 k).length ≤ 16 :=
    (Nat.length_toDigits_le_iff (by decide) (by decide)).mpr hk
  cases n with
  | ofNat k =>
      have hk : k < 10 ^ 16 := by
        rw [Int.ofNat_eq_natCast, abs_of_nonneg (Int.natCast_nonneg k)] at h
        exact_mod_cast h
      exact (hdigits hk).trans (by decide)
  | negSucc k =>
      have hk : k + 1 < 10 ^ 16 := by
        rw [Int.negSucc_eq, abs_neg, abs_of_nonneg (by omega)] at h
        exact_mod_cast h
      rw [dumpsInt, List.length_cons]
      exact Nat.succ_le_succ (hdigits hk)

end Json
