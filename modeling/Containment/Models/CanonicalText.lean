/-
# Canonical texts are read back

What `validateJsonValue` accepts is described without the traversal: a bound on
the height, a bound on the number of nodes, and a condition on the leaves and
keys. None of the three depends on the order of an object's fields. A canonical
text is therefore read back as the ordered value it was written from, and the
second validation made on reading succeeds because the first one did.
-/

import Containment.Models.Canonical
import Mathlib.Algebra.BigOperators.Group.List.Basic

namespace Json

mutual

/-- The number of values in a tree, containers included. -/
def nodes : Json → ℕ
  | .arr items => nodesItems items + 1
  | .obj fields => nodesFields fields + 1
  | .null => 1
  | .bool _ => 1
  | .int _ => 1
  | .str _ => 1

def nodesItems : List Json → ℕ
  | [] => 0
  | x :: rest => nodes x + nodesItems rest

def nodesFields : List (String × Json) → ℕ
  | [] => 0
  | (_, value) :: rest => nodes value + nodesFields rest

end

mutual

/-- The depth of the deepest value below the root. -/
def height : Json → ℕ
  | .arr items => heightItems items
  | .obj fields => heightFields fields
  | .null => 0
  | .bool _ => 0
  | .int _ => 0
  | .str _ => 0

def heightItems : List Json → ℕ
  | [] => 0
  | x :: rest => max (height x + 1) (heightItems rest)

def heightFields : List (String × Json) → ℕ
  | [] => 0
  | (_, value) :: rest => max (height value + 1) (heightFields rest)

end

theorem nodesItems_eq_sum (items : List Json) : nodesItems items = (items.map nodes).sum := by
  induction items with
  | nil => rfl
  | cons x rest ih => rw [nodesItems, ih, List.map_cons, List.sum_cons]

theorem nodesFields_eq_sum (fields : List (String × Json)) :
    nodesFields fields = (fields.map fun field => nodes field.2).sum := by
  induction fields with
  | nil => rfl
  | cons field rest ih => rw [nodesFields, ih, List.map_cons, List.sum_cons]

theorem heightItems_le_iff {items : List Json} {n : ℕ} :
    heightItems items ≤ n ↔ ∀ x ∈ items, height x + 1 ≤ n := by
  induction items with
  | nil => simp [heightItems]
  | cons x rest ih => simp [heightItems, ih]

theorem heightFields_le_iff {fields : List (String × Json)} {n : ℕ} :
    heightFields fields ≤ n ↔ ∀ field ∈ fields, height field.2 + 1 ≤ n := by
  induction fields with
  | nil => simp [heightFields]
  | cons field rest ih => simp [heightFields, ih]

mutual

theorem nodes_orderForJcs : ∀ v : Json, v.orderForJcs.nodes = v.nodes
  | .null => rfl
  | .bool _ => rfl
  | .int _ => rfl
  | .str _ => rfl
  | .arr items => by
      rw [orderForJcs, nodes, nodes, nodesItems_orderItems items]
  | .obj fields => by
      rw [orderForJcs, nodes, nodes, nodesFields_eq_sum,
        ((sortFields_perm (orderFields fields)).map _).sum_eq, ← nodesFields_eq_sum,
        nodesFields_orderFields fields]

theorem nodesItems_orderItems : ∀ items : List Json,
    nodesItems (orderItems items) = nodesItems items
  | [] => rfl
  | x :: rest => by
      rw [orderItems, nodesItems, nodesItems, nodes_orderForJcs x, nodesItems_orderItems rest]

theorem nodesFields_orderFields : ∀ fields : List (String × Json),
    nodesFields (orderFields fields) = nodesFields fields
  | [] => rfl
  | (_, value) :: rest => by
      rw [orderFields, nodesFields, nodesFields, nodes_orderForJcs value,
        nodesFields_orderFields rest]

end

mutual

theorem height_orderForJcs : ∀ v : Json, v.orderForJcs.height = v.height
  | .null => rfl
  | .bool _ => rfl
  | .int _ => rfl
  | .str _ => rfl
  | .arr items => by
      rw [orderForJcs, height, height, heightItems_orderItems items]
  | .obj fields => by
      rw [orderForJcs, height, height, ← heightFields_orderFields fields]
      have hmem (field : String × Json) :
          field ∈ sortFields (orderFields fields) ↔ field ∈ orderFields fields :=
        (sortFields_perm (orderFields fields)).mem_iff
      apply le_antisymm
      · exact heightFields_le_iff.mpr fun field hfield =>
          heightFields_le_iff.mp le_rfl field ((hmem field).mp hfield)
      · exact heightFields_le_iff.mpr fun field hfield =>
          heightFields_le_iff.mp le_rfl field ((hmem field).mpr hfield)

theorem heightItems_orderItems : ∀ items : List Json,
    heightItems (orderItems items) = heightItems items
  | [] => rfl
  | x :: rest => by
      rw [orderItems, heightItems, heightItems, height_orderForJcs x, heightItems_orderItems rest]

theorem heightFields_orderFields : ∀ fields : List (String × Json),
    heightFields (orderFields fields) = heightFields fields
  | [] => rfl
  | (_, value) :: rest => by
      rw [orderFields, heightFields, heightFields, height_orderForJcs value,
        heightFields_orderFields rest]

end

theorem map_fst_orderFields (fields : List (String × Json)) :
    (orderFields fields).map Prod.fst = fields.map Prod.fst := by
  rw [orderFields_eq_map, List.map_map]
  rfl

end Json

namespace Containment

variable (P : Platform)

mutual

/-- The profile's conditions on integers, strings and keys. -/
def Admissible : Json → Prop
  | .null => True
  | .bool _ => True
  | .int n => |n| ≤ maxSafeInteger
  | .str s => P.normalizeNfc s = s
  | .arr items => AdmissibleItems items
  | .obj fields =>
      (∀ field ∈ fields, P.normalizeNfc field.1 = field.1) ∧
        (fields.map Prod.fst).Nodup ∧ AdmissibleFields fields

def AdmissibleItems : List Json → Prop
  | [] => True
  | x :: rest => Admissible x ∧ AdmissibleItems rest

def AdmissibleFields : List (String × Json) → Prop
  | [] => True
  | (_, value) :: rest => Admissible value ∧ AdmissibleFields rest

end

variable {P}

theorem admissibleFields_iff {fields : List (String × Json)} :
    AdmissibleFields P fields ↔ ∀ field ∈ fields, Admissible P field.2 := by
  induction fields with
  | nil => simp [AdmissibleFields]
  | cons field rest ih => simp [AdmissibleFields, ih]

theorem enterNode_eq_ok {path : String} {depth : ℕ} {budget budget' : ℤ} :
    enterNode path depth budget = .ok budget' ↔
      depth ≤ maxJsonDepth ∧ 1 ≤ budget ∧ budget' = budget - 1 := by
  rw [enterNode, bind_unit_eq_ok, bind_unit_eq_ok, ensure_eq_ok, ensure_eq_ok, except_pure,
    Except.ok.injEq]
  constructor
  · rintro ⟨hdepth, hbudget, rfl⟩
    exact ⟨hdepth, by omega, rfl⟩
  · rintro ⟨hdepth, hbudget, rfl⟩
    exact ⟨hdepth, by omega, rfl⟩

mutual

/-- The validator accepts exactly the profile and charges one unit per node. -/
theorem validateJsonValue_eq_ok : ∀ (v : Json) (path : String) (depth : ℕ) (budget budget' : ℤ),
    validateJsonValue P path depth budget v = .ok budget' ↔
      depth + v.height ≤ maxJsonDepth ∧ v.nodes ≤ budget ∧ Admissible P v ∧
        budget' = budget - v.nodes
  | .null, path, depth, budget, budget' => by
      simp [validateJsonValue, enterNode_eq_ok, Json.height, Json.nodes, Admissible]
  | .bool _, path, depth, budget, budget' => by
      simp [validateJsonValue, enterNode_eq_ok, Json.height, Json.nodes, Admissible]
  | .int n, path, depth, budget, budget' => by
      simp [validateJsonValue, bind_eq_ok, enterNode_eq_ok, Json.height, Json.nodes, Admissible]
      tauto
  | .str s, path, depth, budget, budget' => by
      simp [validateJsonValue, bind_eq_ok, enterNode_eq_ok, Json.height, Json.nodes, Admissible,
        requireNfc]
      tauto
  | .arr items, path, depth, budget, budget' => by
      rw [validateJsonValue, bind_eq_ok]
      simp only [enterNode_eq_ok, Json.height, Json.nodes, Admissible]
      constructor
      · rintro ⟨_, ⟨hdepth, hbudget, rfl⟩, hitems⟩
        obtain ⟨h₁, h₂, h₃, rfl⟩ :=
          (validateItems_eq_ok items path depth (budget - 1) 0 budget' hdepth (by omega)).mp hitems
        exact ⟨h₁, by push_cast; omega, h₃, by push_cast; omega⟩
      · rintro ⟨h₁, h₂, h₃, rfl⟩
        push_cast at h₂
        have hdepth : depth ≤ maxJsonDepth := by omega
        refine ⟨_, ⟨hdepth, by omega, rfl⟩, ?_⟩
        exact (validateItems_eq_ok items path depth (budget - 1) 0 _ hdepth (by omega)).mpr
          ⟨h₁, by omega, h₃, by push_cast; omega⟩
  | .obj fields, path, depth, budget, budget' => by
      rw [validateJsonValue, bind_eq_ok]
      simp only [enterNode_eq_ok, Json.height, Json.nodes, Admissible]
      constructor
      · rintro ⟨_, ⟨hdepth, hbudget, rfl⟩, hfields⟩
        obtain ⟨h₁, h₂, h₃, h₄, -, h₅, rfl⟩ :=
          (validateFields_eq_ok fields path depth (budget - 1) [] budget' hdepth (by omega)).mp
            hfields
        exact ⟨h₁, by push_cast; omega, ⟨h₃, h₄, h₅⟩, by push_cast; omega⟩
      · rintro ⟨h₁, h₂, ⟨h₃, h₄, h₅⟩, rfl⟩
        push_cast at h₂
        have hdepth : depth ≤ maxJsonDepth := by omega
        refine ⟨_, ⟨hdepth, by omega, rfl⟩, ?_⟩
        exact (validateFields_eq_ok fields path depth (budget - 1) [] _ hdepth (by omega)).mpr
          ⟨h₁, by omega, h₃, h₄, by simp, h₅, by push_cast; omega⟩

theorem validateItems_eq_ok : ∀ (items : List Json) (path : String) (depth : ℕ) (budget : ℤ)
    (index : ℕ) (budget' : ℤ), depth ≤ maxJsonDepth → 0 ≤ budget →
    (validateItems P path (depth + 1) budget index items = .ok budget' ↔
      depth + Json.heightItems items ≤ maxJsonDepth ∧ Json.nodesItems items ≤ budget ∧
        AdmissibleItems P items ∧ budget' = budget - Json.nodesItems items)
  | [], path, depth, budget, index, budget', hdepth, hbudget => by
      simp [validateItems, Json.heightItems, Json.nodesItems, AdmissibleItems, hdepth, hbudget,
        eq_comm]
  | x :: rest, path, depth, budget, index, budget', hdepth, hbudget => by
      rw [validateItems, bind_eq_ok]
      simp only [validateJsonValue_eq_ok x, Json.heightItems, Json.nodesItems, AdmissibleItems]
      constructor
      · rintro ⟨_, ⟨h₁, h₂, h₃, rfl⟩, hrest⟩
        obtain ⟨h₄, h₅, h₆, rfl⟩ :=
          (validateItems_eq_ok rest path depth _ _ budget' hdepth (by omega)).mp hrest
        exact ⟨by omega, by push_cast; omega, ⟨h₃, h₆⟩, by push_cast; omega⟩
      · rintro ⟨h₁, h₂, ⟨h₃, h₆⟩, rfl⟩
        push_cast at h₂
        refine ⟨_, ⟨by omega, by omega, h₃, rfl⟩, ?_⟩
        exact (validateItems_eq_ok rest path depth _ _ _ hdepth (by omega)).mpr
          ⟨by omega, by omega, h₆, by push_cast; omega⟩

theorem validateFields_eq_ok : ∀ (fields : List (String × Json)) (path : String) (depth : ℕ)
    (budget : ℤ) (seen : List String) (budget' : ℤ), depth ≤ maxJsonDepth → 0 ≤ budget →
    (validateFields P path (depth + 1) budget seen fields = .ok budget' ↔
      depth + Json.heightFields fields ≤ maxJsonDepth ∧ Json.nodesFields fields ≤ budget ∧
        (∀ field ∈ fields, P.normalizeNfc field.1 = field.1) ∧
        (fields.map Prod.fst).Nodup ∧ (∀ field ∈ fields, field.1 ∉ seen) ∧
        AdmissibleFields P fields ∧ budget' = budget - Json.nodesFields fields)
  | [], path, depth, budget, seen, budget', hdepth, hbudget => by
      simp [validateFields, Json.heightFields, Json.nodesFields, AdmissibleFields, hdepth, hbudget,
        eq_comm]
  | (key, value) :: rest, path, depth, budget, seen, budget', hdepth, hbudget => by
      rw [validateFields, bind_unit_eq_ok, bind_unit_eq_ok, bind_eq_ok, requireNfc, ensure_eq_ok,
        ensure_eq_ok]
      simp only [validateJsonValue_eq_ok value, Json.heightFields, Json.nodesFields,
        AdmissibleFields, List.forall_mem_cons, List.map_cons, List.nodup_cons, List.mem_map,
        Prod.exists, exists_and_right, exists_eq_right, not_exists]
      constructor
      · rintro ⟨hkey, hseen, _, ⟨h₁, h₂, h₃, rfl⟩, hrest⟩
        rw [hkey] at hseen hrest
        obtain ⟨h₄, h₅, h₆, h₇, h₈, h₉, rfl⟩ :=
          (validateFields_eq_ok rest path depth _ _ budget' hdepth (by omega)).mp hrest
        have hfresh : ∀ v, (key, v) ∉ rest := fun v hv => h₈ _ hv List.mem_cons_self
        refine ⟨by omega, by push_cast; omega, ⟨hkey, h₆⟩, ⟨hfresh, h₇⟩, ⟨hseen, ?_⟩, ⟨h₃, h₉⟩,
          by push_cast; omega⟩
        exact fun field hfield hmem => h₈ field hfield (List.mem_cons_of_mem _ hmem)
      · rintro ⟨h₁, h₂, ⟨hkey, h₆⟩, ⟨hfresh, h₇⟩, ⟨hseen, h₈⟩, ⟨h₃, h₉⟩, rfl⟩
        push_cast at h₂
        rw [hkey]
        refine ⟨rfl, hseen, _, ⟨by omega, by omega, h₃, rfl⟩, ?_⟩
        refine (validateFields_eq_ok rest path depth _ _ _ hdepth (by omega)).mpr
          ⟨by omega, by omega, h₆, h₇, ?_, h₉, by push_cast; omega⟩
        rintro ⟨key', value'⟩ hfield hmem
        rcases List.mem_cons.mp hmem with rfl | hmem
        · exact hfresh _ hfield
        · exact h₈ _ hfield hmem

end

mutual

theorem admissible_orderForJcs : ∀ v : Json, Admissible P v → Admissible P v.orderForJcs
  | .null, _ => trivial
  | .bool _, _ => trivial
  | .int _, h => h
  | .str _, h => h
  | .arr items, h => by
      rw [Json.orderForJcs, Admissible]
      exact admissible_orderItems items h
  | .obj fields, h => by
      obtain ⟨hkeys, hnodup, hvalues⟩ := h
      have hperm := Json.sortFields_perm (Json.orderFields fields)
      rw [← Json.map_fst_orderFields] at hnodup
      refine ⟨fun field hfield => ?_, (hperm.map Prod.fst).nodup_iff.mpr hnodup, ?_⟩
      · have hmem := List.mem_map_of_mem (f := Prod.fst) (hperm.mem_iff.mp hfield)
        rw [Json.map_fst_orderFields] at hmem
        obtain ⟨field', hfield', heq⟩ := List.mem_map.mp hmem
        rw [← heq]
        exact hkeys field' hfield'
      · refine admissibleFields_iff.mpr fun field hfield => ?_
        exact admissibleFields_iff.mp (admissible_orderFields fields hvalues) field
          (hperm.mem_iff.mp hfield)

theorem admissible_orderItems : ∀ items : List Json,
    AdmissibleItems P items → AdmissibleItems P (Json.orderItems items)
  | [], _ => trivial
  | x :: rest, h => ⟨admissible_orderForJcs x h.1, admissible_orderItems rest h.2⟩

theorem admissible_orderFields : ∀ fields : List (String × Json),
    AdmissibleFields P fields → AdmissibleFields P (Json.orderFields fields)
  | [], _ => trivial
  | (_, value) :: rest, h => ⟨admissible_orderForJcs value h.1, admissible_orderFields rest h.2⟩

end

/-- The strict reader returns a field list with distinct normalized keys as it
stands. -/
theorem uniqueObject_eq_self (fields : List (String × Json)) (seen : List String)
    (hkeys : ∀ field ∈ fields, P.normalizeNfc field.1 = field.1)
    (hnodup : (fields.map Prod.fst).Nodup) (hseen : ∀ field ∈ fields, field.1 ∉ seen) :
    uniqueObject P seen fields = .ok fields := by
  induction fields generalizing seen with
  | nil => rfl
  | cons field rest ih =>
      obtain ⟨key, value⟩ := field
      simp only [List.forall_mem_cons, List.map_cons, List.nodup_cons] at hkeys hnodup hseen
      have hrest : uniqueObject P (key :: seen) rest = .ok rest := by
        refine ih (key :: seen) hkeys.2 hnodup.2 fun field hfield hmem => ?_
        rcases List.mem_cons.mp hmem with heq | hmem
        · exact hnodup.1 (heq ▸ List.mem_map_of_mem hfield)
        · exact hseen.2 field hfield hmem
      simp [uniqueObject, requireNfc, ensure, hkeys.1, hseen.1, hrest]

mutual

theorem accepted_of_admissible : ∀ v : Json, Admissible P v → v.Accepted (strictHooks P)
  | .null, _ => trivial
  | .bool _, _ => trivial
  | .int n, h => by
      have hn : |n| ≤ maxSafeInteger := h
      simp [Json.Accepted, strictHooks, parseSafeInt, ensure, hn]
  | .str _, _ => trivial
  | .arr items, h => acceptedItems_of_admissible items h
  | .obj fields, h =>
      ⟨uniqueObject_eq_self fields [] h.1 h.2.1 (by simp),
        acceptedFields_of_admissible fields h.2.2⟩

theorem acceptedItems_of_admissible : ∀ items : List Json,
    AdmissibleItems P items → Json.AcceptedItems (strictHooks P) items
  | [], _ => trivial
  | x :: rest, h => ⟨accepted_of_admissible x h.1, acceptedItems_of_admissible rest h.2⟩

theorem acceptedFields_of_admissible : ∀ fields : List (String × Json),
    AdmissibleFields P fields → Json.AcceptedFields (strictHooks P) fields
  | [], _ => trivial
  | (_, value) :: rest, h =>
      ⟨accepted_of_admissible value h.1, acceptedFields_of_admissible rest h.2⟩

end

theorem canonicalJson_eq_ok {v : Json} {text : String} :
    canonicalJson P v = .ok text ↔
      v.height ≤ maxJsonDepth ∧ v.nodes ≤ maxJsonNodes ∧ Admissible P v ∧
        (utf8 v.orderForJcs.text).length ≤ maxCanonicalJsonBytes ∧
        v.orderForJcs.text = text := by
  rw [canonicalJson, bind_eq_ok]
  simp only [validateJsonValue_eq_ok, bind_unit_eq_ok, ensure_eq_ok, except_pure,
    Except.ok.injEq, Nat.zero_add]
  constructor
  · rintro ⟨_, ⟨h₁, h₂, h₃, -⟩, h₄, h₅⟩
    exact ⟨h₁, h₂, h₃, h₄, h₅⟩
  · rintro ⟨h₁, h₂, h₃, h₄, h₅⟩
    exact ⟨_, ⟨h₁, h₂, h₃, rfl⟩, h₄, h₅⟩

/-- A canonical text is accepted by the strict reader and denotes the ordered
value. -/
theorem parseCanonicalText_of_canonicalJson {v : Json} {text : String}
    (h : canonicalJson P v = .ok text) : parseCanonicalText P text = .ok v.orderForJcs := by
  obtain ⟨hheight, hnodes, hadmissible, hlength, rfl⟩ := canonicalJson_eq_ok.mp h
  have hordered := admissible_orderForJcs v hadmissible
  have hloads := Json.loads_text v.orderForJcs (accepted_of_admissible _ hordered)
  have hbom : v.orderForJcs.text.toList.head? ≠ some '\ufeff' := by
    obtain ⟨c, cs, hcs, -, -, hc⟩ := Json.dumps_head v.orderForJcs
    simpa [Json.text, hcs] using hc
  have hvalid : validateJsonValue P "$" 0 maxJsonNodes v.orderForJcs =
      .ok (maxJsonNodes - v.orderForJcs.nodes) := by
    refine (validateJsonValue_eq_ok _ _ _ _ _).mpr ⟨?_, ?_, hordered, rfl⟩
    · rw [Json.height_orderForJcs, Nat.zero_add]
      exact hheight
    · rw [Json.nodes_orderForJcs]
      exact hnodes
  simp [parseCanonicalText, ensure, hbom, hlength, hloads, hvalid]

/-- Canonical octets are read back like the text they encode. -/
theorem parseCanonicalJson_of_canonicalJson {v : Json} {text : String}
    (h : canonicalJson P v = .ok text) :
    parseCanonicalJson P (utf8 text) = .ok v.orderForJcs := by
  rw [parseCanonicalJson, decodeUtf8_utf8]
  exact parseCanonicalText_of_canonicalJson h

/-- A canonical text has no control characters. -/
theorem le_of_mem_canonicalJsonBytes {v : Json} {encoded : Bytes} {b : UInt8}
    (h : canonicalJsonBytes P v = .ok encoded) (hmem : b ∈ encoded) : 32 ≤ b.toNat := by
  obtain ⟨text, htext, hencoded⟩ := bind_eq_ok.mp h
  obtain ⟨-, -, -, -, rfl⟩ := canonicalJson_eq_ok.mp htext
  rw [except_pure, Except.ok.injEq] at hencoded
  subst hencoded
  by_contra hsmall
  obtain ⟨c, hc, heq⟩ := exists_of_mem_utf8 (by omega) hmem
  rw [Json.text, String.toList_ofList] at hc
  have hlarge := Json.le_of_mem_dumps _ hc
  omega

/-- A canonical text is one line. -/
theorem newline_notMem_of_canonicalJsonBytes {v : Json} {encoded : Bytes}
    (h : canonicalJsonBytes P v = .ok encoded) : (10 : UInt8) ∉ encoded :=
  fun hmem => absurd (le_of_mem_canonicalJsonBytes h hmem) (by decide)

end Containment
