/-
# Hash chains

A chain numbers its items from zero, and every item names the hash of the one before it,
the first one a fixed genesis value. If the hash is injective on the items of two chains,
then the hash of the last item determines the whole chain: it gives the last item, hence
its number, hence the length, hence the hash the rest of the chain ends with.
-/

import Mathlib.Data.List.GetD
import Mathlib.Data.Int.Notation

namespace HashChain

variable {α H : Type} (hash previous : α → H) (index : α → ℤ) (genesis : H)

/-- The hash that the next item has to name. -/
def tip (items : List α) : H := (items.getLast?.map hash).getD genesis

/-- A list that was extended link by link. -/
inductive Linked : List α → Prop
  | nil : Linked []
  | snoc {items : List α} {item : α} (before : Linked items) (numbered : index item = items.length)
      (named : previous item = tip hash genesis items) : Linked (items ++ [item])

variable {hash previous index genesis} {items items' : List α}

/-- Every item has its place as its number. -/
theorem Linked.index_eq (h : Linked hash previous index genesis items) {i : ℕ} {item : α}
    (hi : items[i]? = some item) : index item = i := by
  induction h with
  | nil => cases hi
  | @snoc items last before numbered named ih =>
      by_cases hlt : i < items.length
      · rw [List.getElem?_append_left hlt] at hi
        exact ih hi
      · have hend : i = items.length := by
          have hbound := (List.getElem?_eq_some_iff.mp hi).1
          rw [List.length_append, List.length_singleton] at hbound
          omega
        subst hend
        rw [List.getElem?_concat_length, Option.some.injEq] at hi
        rw [← hi, numbered]

theorem getLast?_map_of_tip (hne : items ≠ []) (hne' : items' ≠ [])
    (h : tip hash genesis items = tip hash genesis items') :
    items.getLast?.map hash = items'.getLast?.map hash := by
  rw [tip, tip, List.getLast?_eq_some_getLast hne, List.getLast?_eq_some_getLast hne'] at h
  rw [List.getLast?_eq_some_getLast hne, List.getLast?_eq_some_getLast hne']
  exact congrArg some h

/-- The last hash commits to the whole chain. -/
theorem Linked.eq_of_final (h : Linked hash previous index genesis items)
    (h' : Linked hash previous index genesis items')
    (hinj : ∀ item ∈ items, ∀ item' ∈ items', hash item = hash item' → item = item')
    (hne : items ≠ []) (hfinal : items.getLast?.map hash = items'.getLast?.map hash) :
    items = items' := by
  induction h generalizing items' with
  | nil => exact absurd rfl hne
  | @snoc items last before numbered named ih =>
      cases h' with
      | nil => simp at hfinal
      | @snoc rest last' before' numbered' named' =>
          rw [List.getLast?_concat, List.getLast?_concat] at hfinal
          have hlast : last = last' := hinj last (by simp) last' (by simp) (Option.some.inj hfinal)
          subst hlast
          have hlength : items.length = rest.length := by
            have hsame := numbered.symm.trans numbered'
            exact_mod_cast hsame
          -- Equal lengths: either nothing is left on both sides, or both end with the same hash.
          by_cases hnil : items = []
          · have hrest : rest = [] := by
              rw [hnil] at hlength
              exact List.length_eq_zero_iff.mp hlength.symm
            rw [hnil, hrest]
          · have hrest : rest ≠ [] := by
              intro hempty
              rw [hempty] at hlength
              exact hnil (List.length_eq_zero_iff.mp hlength)
            rw [ih before' (fun item hitem item' hitem' => hinj item (by simp [hitem]) item' (by simp [hitem']))
              hnil (getLast?_map_of_tip hnil hrest (named.symm.trans named'))]

end HashChain
