/-
# Comparing number by number

Texts of equal length are compared block by block, and numbers in a mixed radix digit by
digit. Both comparisons are the lexicographic one on the list of the numbers, which is what
makes the order of zero-padded texts the order of what they denote.
-/

import Mathlib.Data.List.Basic
import Mathlib.Data.Nat.Basic

namespace Lexicographic

/-! ## Blocks of a text -/

theorem append_lt_append_iff {α : Type} [LT α] {block block' rest rest' : List α}
    (h : block.length = block'.length) :
    block ++ rest < block' ++ rest' ↔ block < block' ∨ block = block' ∧ rest < rest' := by
  induction block generalizing block' with
  | nil =>
      obtain rfl := List.length_eq_zero_iff.mp h.symm
      simp
  | cons a others ih =>
      cases block' with
      | nil => cases h
      | cons b others' =>
          rw [List.cons_append, List.cons_append, List.cons_lt_cons_iff, List.cons_lt_cons_iff,
            ih (Nat.succ.inj h), List.cons.injEq]
          tauto

/-! ## Digits of a number -/

theorem digit_lt_iff {base high high' low low' : ℕ} (h : low < base) (h' : low' < base) :
    high * base + low < high' * base + low' ↔ high < high' ∨ high = high' ∧ low < low' := by
  have hstep {m n : ℕ} (hlt : m < n) : m * base + base ≤ n * base := by
    rw [← Nat.succ_mul]
    exact Nat.mul_le_mul_right base hlt
  rcases Nat.lt_trichotomy high high' with hlt | rfl | hlt
  · have := hstep hlt
    constructor
    · exact fun _ => .inl hlt
    · intro _
      omega
  · simp
  · have := hstep hlt
    constructor
    · intro _
      omega
    · rintro (hlt' | ⟨rfl, -⟩)
      · omega
      · exact absurd hlt (Nat.lt_irrefl _)

end Lexicographic
