/-
# Records in order

A record is a list that only grows at its end. A rule about it says of every entry what must
stand before it. Such a rule is checked when an entry is written, and what stood before an
entry then is what stands before it ever after.
-/

import Mathlib.Data.List.Induction
import Mathlib.Data.List.Nodup

namespace Trace

variable {α : Type} {justified justified' : List α → α → Prop} {log : List α} {entry : α}

/-- Every entry is justified by what stands before it. -/
def Justified (justified : List α → α → Prop) (log : List α) : Prop :=
  ∀ before entry after, log = before ++ entry :: after → justified before entry

theorem justified_nil : Justified justified [] := by
  intro before entry after h
  simp at h

theorem justified_concat :
    Justified justified (log ++ [entry]) ↔ Justified justified log ∧ justified log entry := by
  constructor
  · intro h
    refine ⟨fun before entry' after heq => h before entry' (after ++ [entry]) ?_, h log entry [] rfl⟩
    rw [heq, List.append_assoc, List.cons_append]
  · rintro ⟨h, hentry⟩ before entry' after heq
    rcases List.eq_nil_or_concat after with rfl | ⟨rest, last, rfl⟩
    · obtain ⟨rfl, hlast⟩ := List.append_inj' heq rfl
      rw [← List.head_eq_of_cons_eq hlast]
      exact hentry
    · rw [List.concat_eq_append, ← List.cons_append, ← List.append_assoc] at heq
      exact h before entry' rest (List.append_inj' heq rfl).1

/-- A rule that asks for less. -/
theorem Justified.mono (himp : ∀ before entry, justified before entry → justified' before entry)
    (h : Justified justified log) : Justified justified' log :=
  fun before entry after heq => himp before entry (h before entry after heq)

/-- Keys that no entry takes twice are different. -/
theorem nodup_of_justified {κ : Type} {key : α → Option κ}
    (h : Justified (fun before entry => ∀ k, key entry = some k → ∀ other ∈ before, key other ≠ some k)
      log) : (log.filterMap key).Nodup := by
  induction log using List.reverseRecOn with
  | nil => exact List.nodup_nil
  | append_singleton log entry ih =>
      obtain ⟨hlog, hentry⟩ := justified_concat.mp h
      rw [List.filterMap_append]
      cases hkey : key entry with
      | none => simpa [hkey] using ih hlog
      | some k =>
          have hlast : List.filterMap key [entry] = [k] := by simp [hkey]
          rw [hlast]
          refine List.nodup_append.mpr ⟨ih hlog, List.nodup_singleton k, fun a ha b hb heq => ?_⟩
          obtain ⟨other, hother, hsome⟩ := List.mem_filterMap.mp ha
          rw [List.mem_singleton] at hb
          exact hentry k hkey other hother (by rw [hsome, heq, hb])

end Trace
