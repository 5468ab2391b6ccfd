/-
# Equality up to the order of keys

Two values are the same up to key order if one becomes the other when the fields of its
objects are permuted, at every depth. Ordering the fields by UTF-16 code units decides it:
the encoding into code units is injective, so distinct keys have one sorted order.
-/

import Containment.Json.Value
import Mathlib.Data.List.Perm.Basic

namespace Json

/-! ## Code units -/

theorem mod_eq_of_toUInt8_eq {m n : ℕ} (h : m.toUInt8 = n.toUInt8) : m % 256 = n % 256 := by
  simpa using congrArg UInt8.toNat h

theorem utf16Char_ne_nil (c : Char) : utf16Char c ≠ [] := by
  unfold utf16Char
  dsimp only
  split_ifs <;> simp

/-- The first unit tells how many follow, because no character is a surrogate. -/
theorem utf16Char_append_inj {c d : Char} {rest rest' : List UInt8}
    (h : utf16Char c ++ rest = utf16Char d ++ rest') : c = d ∧ rest = rest' := by
  have hc : c.toNat < 0xD800 ∨ 0xDFFF < c.toNat ∧ c.toNat < 0x110000 := c.valid
  have hd : d.toNat < 0xD800 ∨ 0xDFFF < d.toNat ∧ d.toNat < 0x110000 := d.valid
  suffices hsuffices : c.toNat = d.toNat ∧ rest = rest' from
    ⟨Char.toNat_inj.mp hsuffices.1, hsuffices.2⟩
  unfold utf16Char at h
  dsimp only at h
  split_ifs at h with hc' hd' hd'
  · simp only [List.cons_append, List.nil_append, List.cons.injEq] at h
    have h₁ := mod_eq_of_toUInt8_eq h.1
    have h₂ := mod_eq_of_toUInt8_eq h.2.1
    exact ⟨by omega, h.2.2⟩
  · simp only [List.cons_append, List.nil_append, List.cons.injEq] at h
    have h₁ := mod_eq_of_toUInt8_eq h.1
    omega
  · simp only [List.cons_append, List.nil_append, List.cons.injEq] at h
    have h₁ := mod_eq_of_toUInt8_eq h.1
    omega
  · simp only [List.cons_append, List.nil_append, List.cons.injEq] at h
    have h₁ := mod_eq_of_toUInt8_eq h.1
    have h₂ := mod_eq_of_toUInt8_eq h.2.1
    have h₃ := mod_eq_of_toUInt8_eq h.2.2.1
    have h₄ := mod_eq_of_toUInt8_eq h.2.2.2.1
    exact ⟨by omega, h.2.2.2.2⟩

theorem utf16_injective : Function.Injective utf16 := by
  have hchars : ∀ cs ds : List Char, cs.flatMap utf16Char = ds.flatMap utf16Char → cs = ds := by
    intro cs
    induction cs with
    | nil =>
        intro ds h
        cases ds with
        | nil => rfl
        | cons d ds =>
            rw [List.flatMap_nil, List.flatMap_cons] at h
            exact absurd (List.append_eq_nil_iff.mp h.symm).1 (utf16Char_ne_nil d)
    | cons c cs ih =>
        intro ds h
        cases ds with
        | nil =>
            rw [List.flatMap_nil, List.flatMap_cons] at h
            exact absurd (List.append_eq_nil_iff.mp h).1 (utf16Char_ne_nil c)
        | cons d ds =>
            obtain ⟨rfl, hrest⟩ := utf16Char_append_inj h
            rw [ih ds hrest]
  exact fun s t h => String.toList_injective (hchars _ _ h)

/-! ## The relation -/

mutual

/-- Equal up to the order of fields at every depth. -/
def Same : Json → Json → Prop
  | .arr items, .arr items' => SameItems items items'
  | .obj fields, .obj fields' => ∃ permuted, fields'.Perm permuted ∧ SameFields fields permuted
  | .null, .null => True
  | .bool b, .bool b' => b = b'
  | .int n, .int n' => n = n'
  | .str s, .str s' => s = s'
  | _, _ => False

def SameItems : List Json → List Json → Prop
  | [], [] => True
  | x :: rest, x' :: rest' => Same x x' ∧ SameItems rest rest'
  | _, _ => False

def SameFields : List (String × Json) → List (String × Json) → Prop
  | [], [] => True
  | (key, value) :: rest, (key', value') :: rest' =>
      key = key' ∧ Same value value' ∧ SameFields rest rest'
  | _, _ => False

end

mutual

/-- The keys of every object are distinct. -/
def NodupKeys : Json → Prop
  | .arr items => NodupKeysItems items
  | .obj fields => (fields.map Prod.fst).Nodup ∧ NodupKeysFields fields
  | _ => True

def NodupKeysItems : List Json → Prop
  | [] => True
  | x :: rest => NodupKeys x ∧ NodupKeysItems rest

def NodupKeysFields : List (String × Json) → Prop
  | [] => True
  | (_, value) :: rest => NodupKeys value ∧ NodupKeysFields rest

end

theorem nodupKeysFields_iff {fields : List (String × Json)} :
    NodupKeysFields fields ↔ ∀ field ∈ fields, NodupKeys field.2 := by
  induction fields with
  | nil => simp [NodupKeysFields]
  | cons field rest ih => simp [NodupKeysFields, ih]

/-! ## Ordered forms decide it -/

mutual

theorem same_of_orderForJcs_eq : ∀ v w : Json, v.orderForJcs = w.orderForJcs → Same v w
  | .null, w, h => by cases w <;> simp_all [orderForJcs, Same]
  | .bool _, w, h => by cases w <;> simp_all [orderForJcs, Same]
  | .int _, w, h => by cases w <;> simp_all [orderForJcs, Same]
  | .str _, w, h => by cases w <;> simp_all [orderForJcs, Same]
  | .arr items, w, h => by
      cases w with
      | arr items' =>
          rw [orderForJcs, orderForJcs, Json.arr.injEq] at h
          exact sameItems_of_orderItems_eq items items' h
      | _ => simp [orderForJcs] at h
  | .obj fields, w, h => by
      cases w with
      | obj fields' =>
          rw [orderForJcs, orderForJcs, Json.obj.injEq] at h
          have hperm : (orderFields fields).Perm (orderFields fields') :=
            (sortFields_perm _).symm.trans (h ▸ sortFields_perm _)
          have hmap : List.Forall₂ (fun (field' field : String × Json) =>
              field' = (field.1, field.2.orderForJcs)) (orderFields fields') fields' := by
            rw [orderFields_eq_map, List.forall₂_map_left_iff]
            exact List.forall₂_same.mpr fun _ _ => rfl
          obtain ⟨permuted, hfields, hpermuted⟩ := List.perm_comp_forall₂ hperm hmap
          refine ⟨permuted, hpermuted.symm, sameFields_of_orderFields_eq fields permuted ?_⟩
          rw [orderFields_eq_map permuted]
          refine List.forall₂_eq_eq_eq.le _ _ ?_
          exact (List.forall₂_map_right_iff).mpr hfields
      | _ => simp [orderForJcs] at h

theorem sameItems_of_orderItems_eq : ∀ items items' : List Json,
    orderItems items = orderItems items' → SameItems items items'
  | [], items', h => by
      cases items' with
      | nil => trivial
      | cons x rest => simp [orderItems] at h
  | x :: rest, items', h => by
      cases items' with
      | nil => simp [orderItems] at h
      | cons x' rest' =>
          rw [orderItems, orderItems, List.cons.injEq] at h
          exact ⟨same_of_orderForJcs_eq x x' h.1, sameItems_of_orderItems_eq rest rest' h.2⟩

theorem sameFields_of_orderFields_eq : ∀ fields fields' : List (String × Json),
    orderFields fields = orderFields fields' → SameFields fields fields'
  | [], fields', h => by
      cases fields' with
      | nil => trivial
      | cons field rest => simp [orderFields] at h
  | (key, value) :: rest, fields', h => by
      cases fields' with
      | nil => simp [orderFields] at h
      | cons field rest' =>
          obtain ⟨key', value'⟩ := field
          rw [orderFields, orderFields, List.cons.injEq, Prod.mk.injEq] at h
          exact ⟨h.1.1, same_of_orderForJcs_eq value value' h.1.2,
            sameFields_of_orderFields_eq rest rest' h.2⟩

end

/-- Fields with distinct keys have one sorted order. -/
theorem sortFields_eq_of_perm {fields fields' : List (String × Json)} (hperm : fields.Perm fields')
    (hnodup : (fields.map Prod.fst).Nodup) : sortFields fields = sortFields fields' := by
  refine List.Perm.eq_of_pairwise ?_ (sortFields_sorted fields) (sortFields_sorted fields')
    ((sortFields_perm fields).trans (hperm.trans (sortFields_perm fields').symm))
  intro a b ha hb hab hba
  have hkey : a.1 = b.1 := utf16_injective (List.le_antisymm hab hba)
  have hmem : b ∈ fields := hperm.mem_iff.mpr ((sortFields_perm fields').mem_iff.mp hb)
  exact List.inj_on_of_nodup_map hnodup ((sortFields_perm fields).mem_iff.mp ha) hmem hkey

mutual

theorem orderForJcs_eq_of_same : ∀ v w : Json, NodupKeys v → Same v w →
    v.orderForJcs = w.orderForJcs
  | .null, w, _, h => by cases w <;> simp_all [orderForJcs, Same]
  | .bool _, w, _, h => by cases w <;> simp_all [orderForJcs, Same]
  | .int _, w, _, h => by cases w <;> simp_all [orderForJcs, Same]
  | .str _, w, _, h => by cases w <;> simp_all [orderForJcs, Same]
  | .arr items, w, hnodup, h => by
      cases w with
      | arr items' =>
          rw [orderForJcs, orderForJcs, orderItems_eq_of_same items items' hnodup h]
      | _ => simp [Same] at h
  | .obj fields, w, hnodup, h => by
      cases w with
      | obj fields' =>
          obtain ⟨permuted, hperm, hsame⟩ := h
          have heq := orderFields_eq_of_same fields permuted hnodup.2 hsame
          have hkeys : ((orderFields fields).map Prod.fst).Nodup := by
            rw [orderFields_eq_map, List.map_map]
            exact hnodup.1
          have hordered : (orderFields fields).Perm (orderFields fields') := by
            rw [heq, orderFields_eq_map, orderFields_eq_map]
            exact (hperm.map _).symm
          rw [orderForJcs, orderForJcs, sortFields_eq_of_perm hordered hkeys]
      | _ => simp [Same] at h

theorem orderItems_eq_of_same : ∀ items items' : List Json, NodupKeysItems items →
    SameItems items items' → orderItems items = orderItems items'
  | [], items', _, h => by
      cases items' with
      | nil => rfl
      | cons x rest => simp [SameItems] at h
  | x :: rest, items', hnodup, h => by
      cases items' with
      | nil => simp [SameItems] at h
      | cons x' rest' =>
          rw [orderItems, orderItems, orderForJcs_eq_of_same x x' hnodup.1 h.1,
            orderItems_eq_of_same rest rest' hnodup.2 h.2]

theorem orderFields_eq_of_same : ∀ fields fields' : List (String × Json), NodupKeysFields fields →
    SameFields fields fields' → orderFields fields = orderFields fields'
  | [], fields', _, h => by
      cases fields' with
      | nil => rfl
      | cons field rest => simp [SameFields] at h
  | (key, value) :: rest, fields', hnodup, h => by
      cases fields' with
      | nil => simp [SameFields] at h
      | cons field rest' =>
          obtain ⟨key', value'⟩ := field
          obtain ⟨rfl, hvalue, hrest⟩ := h
          rw [orderFields, orderFields, orderForJcs_eq_of_same value value' hnodup.1 hvalue,
            orderFields_eq_of_same rest rest' hnodup.2 hrest]

end

/-- Values with distinct keys are the same up to key order when their ordered forms are equal. -/
theorem same_iff {v w : Json} (hv : NodupKeys v) :
    Same v w ↔ v.orderForJcs = w.orderForJcs :=
  ⟨orderForJcs_eq_of_same v w hv, same_of_orderForJcs_eq v w⟩

/-- A value is its ordered form, up to key order. -/
theorem same_orderForJcs (v : Json) : Same v v.orderForJcs :=
  same_of_orderForJcs_eq v _ v.orderForJcs_idem.symm

end Json
