/-
# The canonical normal form

Two values have the same canonical octets exactly when they are equal up to the order of
their keys, and what is read back from canonical octets is the value they were written
from, up to that order. A text that is accepted can be rewritten canonically, which never
makes it longer, so the limit on the octets of a text cannot be hit on the way back.
-/

import Containment.Json.KeyOrder
import Containment.Json.Shrink
import Containment.Models.CanonicalText

namespace Containment

open Json

variable {P : Platform}

theorem utf8_of_decodeUtf8 {bytes : Bytes} {text : String} (h : decodeUtf8 bytes = some text) :
    utf8 text = bytes := by
  unfold decodeUtf8 String.fromUTF8? at h
  split_ifs at h with hvalid
  obtain rfl := Option.some.inj h
  rfl

theorem length_utf8 (s : String) : (utf8 s).length = Json.octets s.toList := by
  rw [utf8_eq_flatMap, List.length_flatMap, Json.octets]
  simp

mutual

theorem nodupKeys_of_admissible : ∀ v : Json, Admissible P v → v.NodupKeys
  | .null, _ => trivial
  | .bool _, _ => trivial
  | .int _, _ => trivial
  | .str _, _ => trivial
  | .arr items, h => nodupKeysItems_of_admissible items h
  | .obj fields, h => ⟨h.2.1, nodupKeysFields_of_admissible fields h.2.2⟩

theorem nodupKeysItems_of_admissible : ∀ items : List Json,
    AdmissibleItems P items → Json.NodupKeysItems items
  | [], _ => trivial
  | x :: rest, h => ⟨nodupKeys_of_admissible x h.1, nodupKeysItems_of_admissible rest h.2⟩

theorem nodupKeysFields_of_admissible : ∀ fields : List (String × Json),
    AdmissibleFields P fields → Json.NodupKeysFields fields
  | [], _ => trivial
  | (_, value) :: rest, h =>
      ⟨nodupKeys_of_admissible value h.1, nodupKeysFields_of_admissible rest h.2⟩

end

theorem uniqueObject_ok {seen : List String} {fields fields' : List (String × Json)}
    (h : uniqueObject P seen fields = .ok fields') : fields' = fields := by
  induction fields generalizing seen fields' with
  | nil => exact (Except.ok.inj h).symm
  | cons field rest ih =>
      obtain ⟨key, value⟩ := field
      simp only [uniqueObject, bind_eq_ok, except_pure, Except.ok.injEq] at h
      obtain ⟨_, -, _, -, rest', hrest, rfl⟩ := h
      rw [ih hrest]

theorem strictHooks_faithful : (strictHooks P).Faithful where
  int n m h := by
    simp only [strictHooks, parseSafeInt, bind_unit_eq_ok, except_pure, Except.ok.injEq] at h
    exact h.2.symm
  float _ _ h := nomatch h
  constant _ _ h := nomatch h
  object _ _ h := uniqueObject_ok h

theorem canonicalJsonBytes_eq_ok {v : Json} {encoded : Bytes} :
    canonicalJsonBytes P v = .ok encoded ↔
      canonicalJson P v = .ok v.orderForJcs.text ∧ encoded = utf8 v.orderForJcs.text := by
  rw [canonicalJsonBytes, bind_eq_ok]
  constructor
  · rintro ⟨text, htext, hencoded⟩
    obtain ⟨-, -, -, -, rfl⟩ := canonicalJson_eq_ok.mp htext
    exact ⟨htext, (Except.ok.inj hencoded).symm⟩
  · rintro ⟨htext, rfl⟩
    exact ⟨_, htext, rfl⟩

theorem admissible_of_canonicalJsonBytes {v : Json} {encoded : Bytes}
    (h : canonicalJsonBytes P v = .ok encoded) : Admissible P v :=
  (canonicalJson_eq_ok.mp (canonicalJsonBytes_eq_ok.mp h).1).2.2.1

theorem parseCanonicalJson_of_canonicalJsonBytes {v : Json} {encoded : Bytes}
    (h : canonicalJsonBytes P v = .ok encoded) :
    parseCanonicalJson P encoded = .ok v.orderForJcs := by
  obtain ⟨htext, rfl⟩ := canonicalJsonBytes_eq_ok.mp h
  exact parseCanonicalJson_of_canonicalJson htext

/-- Canonical octets are equal exactly for values that are equal up to key order. -/
theorem canonicalJsonBytes_eq_iff {v w : Json} {encoded encoded' : Bytes}
    (hv : canonicalJsonBytes P v = .ok encoded) (hw : canonicalJsonBytes P w = .ok encoded') :
    encoded = encoded' ↔ Same v w := by
  rw [same_iff (nodupKeys_of_admissible v (admissible_of_canonicalJsonBytes hv))]
  constructor
  · rintro rfl
    have hparse := parseCanonicalJson_of_canonicalJsonBytes hv
    rw [parseCanonicalJson_of_canonicalJsonBytes hw] at hparse
    exact (Except.ok.inj hparse).symm
  · intro heq
    rw [(canonicalJsonBytes_eq_ok.mp hv).2, (canonicalJsonBytes_eq_ok.mp hw).2, heq]

/-- An ordered value is its own canonical form. -/
theorem canonicalJsonBytes_orderForJcs {v : Json} {encoded : Bytes}
    (h : canonicalJsonBytes P v = .ok encoded) :
    canonicalJsonBytes P v.orderForJcs = .ok encoded := by
  obtain ⟨htext, rfl⟩ := canonicalJsonBytes_eq_ok.mp h
  obtain ⟨hheight, hnodes, hadmissible, hlength, -⟩ := canonicalJson_eq_ok.mp htext
  refine canonicalJsonBytes_eq_ok.mpr ⟨canonicalJson_eq_ok.mpr ⟨?_, ?_,
    admissible_orderForJcs v hadmissible, ?_, rfl⟩, by rw [orderForJcs_idem]⟩
  · rwa [height_orderForJcs]
  · rwa [nodes_orderForJcs]
  · rwa [orderForJcs_idem]

/-- An accepted text can be written canonically, and not at greater length. -/
theorem exists_canonicalJsonBytes {text : String} {v : Json}
    (h : parseCanonicalText P text = .ok v) :
    ∃ encoded, canonicalJsonBytes P v = .ok encoded ∧ encoded.length ≤ (utf8 text).length := by
  simp only [parseCanonicalText, bind_eq_ok, ensure_eq_ok, except_pure,
    Except.ok.injEq] at h
  obtain ⟨_, -, _, hlimit, parsed, hparsed, budget, hvalid, rfl⟩ := h
  obtain ⟨hheight, hnodes, hadmissible, -⟩ := (validateJsonValue_eq_ok _ _ _ _ _).mp hvalid
  rw [Nat.zero_add] at hheight
  have hshort : (utf8 parsed.orderForJcs.text).length ≤ (utf8 text).length := by
    rw [length_utf8, length_utf8, Json.text, String.toList_ofList, octets_dumps_orderForJcs]
    exact octets_dumps_of_loads strictHooks_faithful hparsed
  exact ⟨_, canonicalJsonBytes_eq_ok.mpr ⟨canonicalJson_eq_ok.mpr
    ⟨hheight, hnodes, hadmissible, hshort.trans hlimit, rfl⟩, rfl⟩, hshort⟩

theorem exists_canonicalJsonBytes_of_octets {bytes : Bytes} {v : Json}
    (h : parseCanonicalJson P bytes = .ok v) :
    ∃ encoded, canonicalJsonBytes P v = .ok encoded ∧ encoded.length ≤ bytes.length := by
  unfold parseCanonicalJson at h
  split at h
  · cases h
  · rename_i text hdecode
    rw [← utf8_of_decodeUtf8 hdecode]
    exact exists_canonicalJsonBytes h

/-- What makes canonical JSON a normal form. -/
structure CanonicalNormalForm (P : Platform) : Prop where
  /-- Canonical octets are read back. -/
  readBack : ∀ v encoded, canonicalJsonBytes P v = .ok encoded →
    ∃ w, parseCanonicalJson P encoded = .ok w ∧ Same v w
  /-- They are equal exactly for equal values. -/
  faithful : ∀ v w encoded encoded', canonicalJsonBytes P v = .ok encoded →
    canonicalJsonBytes P w = .ok encoded' → (encoded = encoded' ↔ Same v w)
  /-- Every accepted text has a canonical form that is not longer and is a fixed point. -/
  normalizes : ∀ text v, parseCanonicalText P text = .ok v →
    ∃ encoded, canonicalJsonBytes P v = .ok encoded ∧ encoded.length ≤ (utf8 text).length ∧
      ∃ w, parseCanonicalJson P encoded = .ok w ∧ canonicalJsonBytes P w = .ok encoded
  /-- The same for a text that is given by its octets. -/
  normalizesOctets : ∀ bytes v, parseCanonicalJson P bytes = .ok v →
    ∃ encoded, canonicalJsonBytes P v = .ok encoded ∧ encoded.length ≤ bytes.length ∧
      ∃ w, parseCanonicalJson P encoded = .ok w ∧ canonicalJsonBytes P w = .ok encoded

theorem canonicalNormalForm (P : Platform) : CanonicalNormalForm P where
  readBack v encoded h :=
    ⟨v.orderForJcs, parseCanonicalJson_of_canonicalJsonBytes h, same_orderForJcs v⟩
  faithful v w encoded encoded' hv hw := canonicalJsonBytes_eq_iff hv hw
  normalizes text v h := by
    obtain ⟨encoded, hencoded, hlength⟩ := exists_canonicalJsonBytes h
    exact ⟨encoded, hencoded, hlength, v.orderForJcs,
      parseCanonicalJson_of_canonicalJsonBytes hencoded, canonicalJsonBytes_orderForJcs hencoded⟩
  normalizesOctets bytes v h := by
    obtain ⟨encoded, hencoded, hlength⟩ := exists_canonicalJsonBytes_of_octets h
    exact ⟨encoded, hencoded, hlength, v.orderForJcs,
      parseCanonicalJson_of_canonicalJsonBytes hencoded, canonicalJsonBytes_orderForJcs hencoded⟩

end Containment
