/-
# Room for everything that is signed

Signing a body needs its canonical text, and a text exists only within the depth,
node and byte limits. Nothing a signed body holds can reach them: identifiers,
digests, keys and timestamps are short ASCII texts and numbers are safe integers.
`Fits` says so for one value, and the bounds add up along the codecs.

`Lawful` lists what is documented of the platform: hexadecimal digests, signatures
of 64 octets that verify, and normalization that leaves ASCII alone.
-/

import Containment.Json.Size
import Containment.Models.Receipt

namespace Json

mutual

/-- Every node of a tree takes at least one character of its span. -/
theorem nodes_le_span : ∀ v : Json, v.nodes ≤ v.span
  | .null => by simp [nodes, span]
  | .bool _ => by simp [nodes, span]
  | .int n => by
      have hpos : 0 < (dumpsInt n).length := by
        cases n with
        | ofNat k => exact Nat.length_toDigits_pos
        | negSucc k => exact Nat.succ_pos _
      exact hpos
  | .str s => by simp [nodes, span, strSpan]
  | .arr items => by
      have := nodesItems_le_spanItems items
      rw [nodes, span]
      omega
  | .obj fields => by
      have := nodesFields_le_spanFields fields
      rw [nodes, span]
      omega

theorem nodesItems_le_spanItems : ∀ items : List Json, nodesItems items ≤ spanItems items
  | [] => le_rfl
  | x :: rest => by
      have hx := nodes_le_span x
      have hrest := nodesItems_le_spanItems rest
      rw [nodesItems, spanItems]
      omega

theorem nodesFields_le_spanFields :
    ∀ fields : List (String × Json), nodesFields fields ≤ spanFields fields
  | [] => le_rfl
  | (_, value) :: rest => by
      have hvalue := nodes_le_span value
      have hrest := nodesFields_le_spanFields rest
      rw [nodesFields, spanFields]
      omega

end

end Json

namespace Containment

open Json

/-- Characters below 128 only. -/
def IsAscii (s : String) : Prop := ∀ c ∈ s.toList, c.toNat < 128

instance (s : String) : Decidable (IsAscii s) :=
  List.decidableBAll (fun c : Char => c.toNat < 128) s.toList

/-- Documented behaviour of the platform's functions. -/
structure Platform.Lawful (P : Platform) : Prop where
  digest_hex : ∀ value, isSha256Hex (P.sha256Hex value) = true
  nfc_ascii : ∀ s, IsAscii s → P.normalizeNfc s = s
  sign_length : ∀ key message, (P.ed25519Sign key message).length = 64
  verify_sign : ∀ key message,
    P.ed25519Verify (P.ed25519Public key) (P.ed25519Sign key message) message = true

variable {P : Platform}

theorem length_utf8_le (s : String) : (utf8 s).length ≤ 4 * s.toList.length := by
  have hchars (cs : List Char) : (cs.flatMap String.utf8EncodeChar).length ≤ 4 * cs.length := by
    induction cs with
    | nil => simp
    | cons c rest ih =>
        have hc : (String.utf8EncodeChar c).length ≤ 4 := by
          rw [String.length_utf8EncodeChar]
          exact c.utf8Size_le_four
        rw [List.flatMap_cons, List.length_append, List.length_cons]
        omega
  rw [utf8_eq_flatMap]
  exact hchars s.toList

/-! ## Values -/

/-- A value inside the profile, of bounded depth and length. -/
structure Fits (P : Platform) (h s : ℕ) (v : Json) : Prop where
  admissible : Admissible P v
  height : v.height ≤ h
  span : v.span ≤ s

/-- Whatever fits and has few nodes has a canonical text. -/
theorem Fits.canonicalJson_of_nodes {h s : ℕ} {v : Json} (hv : Fits P h s v) (hh : h ≤ 64)
    (hs : s ≤ 1000000) (hnodes : v.nodes ≤ 100000) :
    canonicalJson P v = .ok v.orderForJcs.text := by
  have hspan := hv.span
  refine canonicalJson_eq_ok.mpr ⟨hv.height.trans hh, ?_, hv.admissible, ?_, rfl⟩
  · rw [maxJsonNodes]
    exact_mod_cast hnodes
  · have hbytes := length_utf8_le v.orderForJcs.text
    have hdumps := length_dumps v.orderForJcs
    rw [Json.text, String.toList_ofList] at hbytes
    rw [span_orderForJcs] at hdumps
    rw [maxCanonicalJsonBytes, Json.text]
    omega

/-- Whatever is short enough has few nodes. -/
theorem Fits.canonicalJson {h s : ℕ} {v : Json} (hv : Fits P h s v) (hh : h ≤ 64)
    (hs : s ≤ 100000) : canonicalJson P v = .ok v.orderForJcs.text := by
  have hspan := hv.span
  have hnodes := nodes_le_span v
  exact hv.canonicalJson_of_nodes hh (by omega) (by omega)

/-- The fields of an object, inside the profile except for their distinctness. -/
structure FieldsFit (P : Platform) (h s : ℕ) (fields : List (String × Json)) : Prop where
  keys : ∀ field ∈ fields, P.normalizeNfc field.1 = field.1
  values : AdmissibleFields P fields
  height : heightFields fields ≤ h
  span : spanFields fields ≤ s

theorem fits_str (hP : P.Lawful) {s : String} {n h : ℕ} (hascii : IsAscii s)
    (hlen : s.toList.length ≤ n) : Fits P h (6 * n + 2) (.str s) := by
  refine ⟨hP.nfc_ascii s hascii, Nat.zero_le h, ?_⟩
  rw [Json.span, strSpan]
  omega

theorem fits_int {n : ℤ} {h : ℕ} (hn : |n| ≤ maxSafeInteger) : Fits P h 17 (.int n) := by
  refine ⟨hn, Nat.zero_le h, length_dumpsInt ?_⟩
  rw [maxSafeInteger] at hn
  omega

/-! ## The texts of the contract -/

theorem isAscii_of_all {p : Char → Bool} (hp : ∀ c, p c = true → c.toNat < 128) {s : String}
    (h : s.toList.all p = true) : IsAscii s :=
  fun c hc => hp c (List.all_eq_true.mp h c hc)

theorem toNat_lt_of_le {c d : Char} (h : c ≤ d) (hd : d.toNat < 128) : c.toNat < 128 :=
  lt_of_le_of_lt (UInt32.le_iff_toNat_le.mp h) hd

theorem toNat_of_isLower {c : Char} (h : isLower c = true) : c.toNat < 128 := by
  rw [isLower, Bool.and_eq_true, decide_eq_true_eq, decide_eq_true_eq] at h
  exact toNat_lt_of_le h.2 (by decide)

theorem toNat_of_isDecimal {c : Char} (h : isDecimal c = true) : c.toNat < 128 := by
  rw [isDecimal, Bool.and_eq_true, decide_eq_true_eq, decide_eq_true_eq] at h
  exact toNat_lt_of_le h.2 (by decide)

theorem toNat_of_isHexDigit {c : Char} (h : isHexDigit c = true) : c.toNat < 128 := by
  simp only [isHexDigit, Bool.or_eq_true, Bool.and_eq_true, decide_eq_true_eq] at h
  rcases h with h | h
  · exact toNat_lt_of_le h.2 (by decide)
  · exact toNat_lt_of_le h.2 (by decide)

theorem toNat_of_isSome_b64Value {c : Char} (h : (b64Value c).isSome = true) : c.toNat < 128 := by
  unfold b64Value at h
  split_ifs at h with h₁ h₂ h₃ h₄ h₅
  · exact toNat_lt_of_le h₁.2 (by decide)
  · exact toNat_lt_of_le h₂.2 (by decide)
  · exact toNat_lt_of_le h₃.2 (by decide)
  · rw [h₄]
    decide
  · rw [h₅]
    decide
  · cases h

theorem matched_of_matchPattern {pattern : String} {matched : String → Bool} {s : String}
    (h : matchPattern pattern matched s = .ok ()) : matched s = true := by
  rwa [matchPattern, ensure_eq_ok] at h

theorem OpaqueId.short (id : OpaqueId) : IsAscii id.1 ∧ id.1.toList.length ≤ 128 := by
  have h := matched_of_matchPattern id.2
  unfold isOpaqueId at h
  split at h
  · cases h
  · rename_i c rest hcs
    simp only [Bool.and_eq_true, Bool.or_eq_true, decide_eq_true_eq] at h
    obtain ⟨⟨hc, hlen⟩, hrest⟩ := h
    have hid {d : Char} (hd : isOpaqueIdChar d = true) : d.toNat < 128 := by
      simp only [isOpaqueIdChar, Bool.or_eq_true, decide_eq_true_eq] at hd
      rcases hd with ((((hd | hd) | rfl) | rfl) | rfl) | rfl
      · exact toNat_of_isLower hd
      · exact toNat_of_isDecimal hd
      all_goals decide
    constructor
    · intro d hd
      rw [hcs] at hd
      rcases List.mem_cons.mp hd with rfl | hd
      · exact hc.elim toNat_of_isLower toNat_of_isDecimal
      · exact hid (List.all_eq_true.mp hrest d hd)
    · rw [hcs, List.length_cons]
      omega

theorem isAscii_of_isSha256Hex {s : String} (h : isSha256Hex s = true) :
    IsAscii s ∧ s.toList.length ≤ 64 := by
  rw [isSha256Hex, Bool.and_eq_true, beq_iff_eq] at h
  exact ⟨isAscii_of_all (fun _ => toNat_of_isHexDigit) h.2, h.1.le⟩

theorem Sha256Hex.short (digest : Sha256Hex) :
    IsAscii digest.1 ∧ digest.1.toList.length ≤ 64 :=
  isAscii_of_isSha256Hex (matched_of_matchPattern digest.2)

/-! A timestamp has the shape its scanner reads off, mark by mark. -/

theorem scanDigits_eq_some {width n : ℕ} {cs rest : List Char}
    (h : scanDigits width cs = some (n, rest)) :
    ∃ digits, cs = digits ++ rest ∧ digits.length = width ∧ digits.all Char.isDigit = true := by
  unfold scanDigits at h
  dsimp only at h
  split_ifs at h with hdigits
  obtain ⟨-, rfl⟩ := Prod.mk.inj (Option.some.inj h)
  exact ⟨cs.take width, (List.take_append_drop width cs).symm, hdigits.1, hdigits.2⟩

theorem scanMark_eq_some {mark : Char} {cs rest : List Char} (h : scanMark mark cs = some rest) :
    cs = mark :: rest := by
  cases cs with
  | nil => cases h
  | cons c cs =>
      rw [scanMark] at h
      split_ifs at h with hc
      rw [hc, Option.some.inj h]

theorem toNat_of_isDigit {c : Char} (h : c.isDigit = true) : c.toNat < 128 := by
  rw [Char.isDigit, Bool.and_eq_true, decide_eq_true_eq, decide_eq_true_eq] at h
  exact lt_of_le_of_lt (UInt32.le_iff_toNat_le.mp h.2) (by decide)

/-- A field of digits was read, and the scan went on behind it. -/
theorem digits_of_bind {β : Type} {width : ℕ} {cs : List Char} {next : ℕ × List Char → Option β}
    {result : β} (h : scanDigits width cs >>= next = some result) :
    ∃ n digits rest, cs = digits ++ rest ∧ digits.length = width ∧
      digits.all Char.isDigit = true ∧ next (n, rest) = some result := by
  obtain ⟨⟨n, rest⟩, hscan, hnext⟩ := Option.bind_eq_some_iff.mp h
  obtain ⟨digits, hcs, hlength, hall⟩ := scanDigits_eq_some hscan
  exact ⟨n, digits, rest, hcs, hlength, hall, hnext⟩

theorem mark_of_bind {β : Type} {mark : Char} {cs : List Char} {next : List Char → Option β}
    {result : β} (h : scanMark mark cs >>= next = some result) :
    ∃ rest, cs = mark :: rest ∧ next rest = some result := by
  obtain ⟨rest, hscan, hnext⟩ := Option.bind_eq_some_iff.mp h
  exact ⟨rest, scanMark_eq_some hscan, hnext⟩

theorem UtcTimestamp.short (time : UtcTimestamp) :
    IsAscii time.1 ∧ time.1.toList.length ≤ 27 := by
  have h := time.2
  unfold validateTimestamp at h
  split at h
  · cases h
  · rename_i heq
    rw [scanTimestamp] at heq
    obtain ⟨_, d₁, c₁, e₁, l₁, a₁, heq⟩ := digits_of_bind heq
    obtain ⟨c₂, m₁, heq⟩ := mark_of_bind heq
    obtain ⟨_, d₂, c₃, e₂, l₂, a₂, heq⟩ := digits_of_bind heq
    obtain ⟨c₄, m₂, heq⟩ := mark_of_bind heq
    obtain ⟨_, d₃, c₅, e₃, l₃, a₃, heq⟩ := digits_of_bind heq
    obtain ⟨c₆, m₃, heq⟩ := mark_of_bind heq
    obtain ⟨_, d₄, c₇, e₄, l₄, a₄, heq⟩ := digits_of_bind heq
    obtain ⟨c₈, m₄, heq⟩ := mark_of_bind heq
    obtain ⟨_, d₅, c₉, e₅, l₅, a₅, heq⟩ := digits_of_bind heq
    obtain ⟨c₁₀, m₅, heq⟩ := mark_of_bind heq
    obtain ⟨_, d₆, c₁₁, e₆, l₆, a₆, heq⟩ := digits_of_bind heq
    obtain ⟨c₁₂, m₆, heq⟩ := mark_of_bind heq
    obtain ⟨_, d₇, c₁₃, e₇, l₇, a₇, heq⟩ := digits_of_bind heq
    obtain ⟨rfl, -⟩ := Option.ite_none_right_eq_some.mp heq
    have htext : time.1.toList = d₁ ++ '-' :: (d₂ ++ '-' :: (d₃ ++ 'T' :: (d₄ ++ ':' ::
        (d₅ ++ ':' :: (d₆ ++ '.' :: (d₇ ++ ['Z'])))))) := by
      rw [e₁, m₁, e₂, m₂, e₃, m₃, e₄, m₄, e₅, m₅, e₆, m₆, e₇]
    have hdigit {digits : List Char} (hall : digits.all Char.isDigit = true) {c : Char}
        (hc : c ∈ digits) : c.toNat < 128 := toNat_of_isDigit (List.all_eq_true.mp hall c hc)
    constructor
    · intro c hc
      simp only [htext, List.mem_append, List.mem_cons, List.not_mem_nil, or_false] at hc
      rcases hc with hc | rfl | hc | rfl | hc | rfl | hc | rfl | hc | rfl | hc | rfl | hc | rfl
      · exact hdigit a₁ hc
      · decide
      · exact hdigit a₂ hc
      · decide
      · exact hdigit a₃ hc
      · decide
      · exact hdigit a₄ hc
      · decide
      · exact hdigit a₅ hc
      · decide
      · exact hdigit a₆ hc
      · decide
      · exact hdigit a₇ hc
      · decide
    · rw [htext]
      simp only [List.length_append, List.length_cons, List.length_nil, l₁, l₂, l₃, l₄, l₅, l₆,
        l₇]
      decide

theorem length_b64urlChars : ∀ value : Bytes, (b64urlChars value).length ≤ 2 * value.length
  | [] => by simp [b64urlChars]
  | [_] => by simp [b64urlChars]
  | [_, _] => by simp [b64urlChars]
  | _ :: _ :: _ :: rest => by
      have := length_b64urlChars rest
      simp only [b64urlChars, List.length_cons]
      omega

theorem B64Url.short {length : ℕ} (value : B64Url length) :
    IsAscii value.1 ∧ value.1.toList.length ≤ 2 * length := by
  have h := value.2
  simp only [b64urlCheck, b64urlDecode, bind_eq_ok, Unique.exists_iff, ensure_eq_ok] at h
  obtain ⟨decoded, ⟨⟨-, hall⟩, h⟩, -⟩ := h
  refine ⟨isAscii_of_all (fun _ => toNat_of_isSome_b64Value) hall, ?_⟩
  split at h
  · cases h
  · rename_i octets _
    simp only [bind_eq_ok, Unique.exists_iff, ensure_eq_ok, except_pure] at h
    obtain ⟨hlen, hcanonical, -⟩ := h
    rw [← hcanonical, ← hlen, b64urlEncode, String.toList_ofList]
    exact length_b64urlChars octets

/-! ## Codecs -/

section Codecs

variable {α β : Type} (hP : P.Lawful)

/-- Every value of a codec fits. -/
def CodecFits (P : Platform) (h s : ℕ) (c : Codec PyError α) : Prop := ∀ x, Fits P h s (c.encode x)

/-- Every value of a record fits, field by field. -/
def RecordFits (P : Platform) (h s : ℕ) (r : Record PyError α) : Prop :=
  ∀ x, FieldsFit P h s (r.encode x)

include hP

theorem fits_opaqueId (h : ℕ) : CodecFits P h 770 Codecs.opaqueId := fun id =>
  fits_str hP (OpaqueId.short id).1 (OpaqueId.short id).2

theorem fits_sha256Hex (h : ℕ) : CodecFits P h 386 Codecs.sha256Hex := fun digest =>
  fits_str hP (Sha256Hex.short digest).1 (Sha256Hex.short digest).2

theorem fits_utcTimestamp (h : ℕ) : CodecFits P h 164 Codecs.utcTimestamp := fun time =>
  fits_str hP (UtcTimestamp.short time).1 (UtcTimestamp.short time).2

theorem fits_b64url (h length : ℕ) : CodecFits P h (6 * (2 * length) + 2) (b64urlField length) :=
  fun value => fits_str hP (B64Url.short value).1 (B64Url.short value).2

theorem fits_literal (h : ℕ) (value : String) (hascii : IsAscii value) :
    CodecFits P h (strSpan value) (Codecs.literal value) := fun _ =>
  ⟨hP.nfc_ascii value hascii, Nat.zero_le h, le_rfl⟩

theorem fits_enum (h n : ℕ) {other : PyError} {values : List α} {name : α → String}
    {find_name : ∀ x, values.find? (fun y => name y = name x) = some x}
    (hname : ∀ x, IsAscii (name x) ∧ (name x).toList.length ≤ n) :
    CodecFits P h (6 * n + 2) (Codec.enum other values name find_name) := fun x =>
  fits_str hP (hname x).1 (hname x).2

omit hP in
theorem fits_intIn (h : ℕ) {low high : ℤ} (hlow : -maxSafeInteger ≤ low)
    (hhigh : high ≤ maxSafeInteger) : CodecFits P h 17 (Codecs.intIn low high) := fun n =>
  fits_int (abs_le.mpr ⟨hlow.trans n.le, n.le_high.trans hhigh⟩)

omit hP in
theorem fits_safeInt (h : ℕ) : CodecFits P h 17 Codecs.safeNonNegativeInt :=
  fits_intIn h (by decide) le_rfl

omit hP in
theorem fits_bool (h : ℕ) : CodecFits P h 5 Codecs.canonicalBool := fun _ =>
  ⟨trivial, Nat.zero_le h, le_rfl⟩

omit hP in
theorem fits_option {h s : ℕ} {c : Codec PyError α}
    {ne_null : ∀ x, (c.encode x).orderForJcs ≠ .null} (hc : CodecFits P h s c) (hs : 4 ≤ s) :
    CodecFits P h s (c.option ne_null) := by
  intro x
  cases x with
  | some x => exact hc x
  | none => exact ⟨trivial, Nat.zero_le h, hs⟩

theorem fits_optionalOpaqueId (h : ℕ) : CodecFits P h 770 Codecs.optionalOpaqueId :=
  fits_option (fits_opaqueId hP h) (by decide)

theorem fits_optionalSha256Hex (h : ℕ) : CodecFits P h 386 Codecs.optionalSha256Hex :=
  fits_option (fits_sha256Hex hP h) (by decide)

omit hP in
theorem fits_optionalSafeInt (h : ℕ) : CodecFits P h 17 Codecs.optionalSafeInt :=
  fits_option (fits_safeInt h) (by decide)

theorem fieldsFit_singleton {h s : ℕ} {name : String} {v : Json} (hname : IsAscii name)
    (hv : Fits P h s v) : FieldsFit P (h + 1) (strSpan name + s + 2) [(name, v)] := by
  obtain ⟨hadmissible, hheight, hspan⟩ := hv
  refine ⟨?_, ⟨hadmissible, trivial⟩, ?_, ?_⟩
  · intro field hfield
    rw [List.mem_singleton.mp hfield]
    exact hP.nfc_ascii name hname
  · rw [heightFields, heightFields]
    omega
  · rw [spanFields, spanFields]
    omega

theorem fits_required {h s : ℕ} {name : String} {c : Codec PyError α} (hc : CodecFits P h s c)
    (hname : IsAscii name) :
    RecordFits P (h + 1) (strSpan name + s + 2) (Codecs.required name c) := fun x =>
  fieldsFit_singleton hP hname (hc x)

theorem fits_defaulted {h s : ℕ} {name : String} {c : Codec PyError α} {x : α}
    (hc : CodecFits P h s c) (hname : IsAscii name) :
    RecordFits P (h + 1) (strSpan name + s + 2) (Codecs.defaulted name c x) := fun y =>
  fieldsFit_singleton hP hname (hc y)

omit hP in
theorem FieldsFit.append {h s s' : ℕ} {fields fields' : List (String × Json)}
    (hf : FieldsFit P h s fields) (hf' : FieldsFit P h s' fields') :
    FieldsFit P h (s + s') (fields ++ fields') := by
  refine ⟨?_, ?_, ?_, ?_⟩
  · intro field hfield
    exact (List.mem_append.mp hfield).elim (hf.keys field) (hf'.keys field)
  · rw [admissibleFields_iff]
    intro field hfield
    exact (List.mem_append.mp hfield).elim (admissibleFields_iff.mp hf.values field)
      (admissibleFields_iff.mp hf'.values field)
  · rw [heightFields_le_iff]
    intro field hfield
    exact (List.mem_append.mp hfield).elim (heightFields_le_iff.mp hf.height field)
      (heightFields_le_iff.mp hf'.height field)
  · rw [spanFields_append]
    exact Nat.add_le_add hf.span hf'.span

omit hP in
theorem fits_and {h s s' : ℕ} {r : Record PyError α} {r' : Record PyError β}
    (hr : RecordFits P h s r) (hr' : RecordFits P h s' r') :
    RecordFits P h (s + s') (r.and r') := fun x => (hr x.1).append (hr' x.2)

omit hP in
theorem fits_iso {h s : ℕ} {r : Record PyError α} {make : α → β} {parts : β → α}
    {make_parts : ∀ y, make (parts y) = y} (hr : RecordFits P h s r) :
    RecordFits P h s (r.iso make parts make_parts) := fun y => hr (parts y)

omit hP in
theorem fits_refine {h s : ℕ} {r : Record PyError α} {check : α → Except PyError Unit}
    (hr : RecordFits P h s r) : RecordFits P h s (r.refine check) := fun x => hr x.1

omit hP in
/-- A closed object: its keys are the record's names, which are distinct. -/
theorem FieldsFit.obj {h s : ℕ} {fields : List (String × Json)} (hf : FieldsFit P h s fields)
    (hnodup : (fields.map Prod.fst).Nodup) : Fits P h (s + 2) (.obj fields) :=
  ⟨⟨hf.keys, hnodup, hf.values⟩, hf.height, Nat.add_le_add_right hf.span 2⟩

omit hP in
theorem fits_model_at {h s : ℕ} {r : Record PyError α} {hnodup : decide r.names.Nodup = true}
    {x : α} (hx : FieldsFit P h s (r.encode x)) :
    Fits P h (s + 2) ((Codecs.model r hnodup).encode x) := by
  refine hx.obj ?_
  rw [r.names_encode x]
  exact of_decide_eq_true hnodup

omit hP in
theorem fits_model {h s : ℕ} {r : Record PyError α} {hnodup : decide r.names.Nodup = true}
    (hr : RecordFits P h s r) : CodecFits P h (s + 2) (Codecs.model r hnodup) := fun x =>
  fits_model_at (hr x)

theorem fits_header (h : ℕ) : RecordFits P (h + 1)
    (strSpan "protocol" + strSpan protocol + 2 + (strSpan "schema_version" +
      strSpan schemaVersion + 2)) Codecs.header :=
  fits_and (fits_defaulted hP (fits_literal hP h protocol (by decide)) (by decide))
    (fits_defaulted hP (fits_literal hP h schemaVersion (by decide)) (by decide))

omit hP in
theorem CodecFits.mono {h s s' : ℕ} {c : Codec PyError α} (hc : CodecFits P h s c) (hs : s ≤ s') :
    CodecFits P h s' c := fun x =>
  ⟨(hc x).admissible, (hc x).height, (hc x).span.trans hs⟩

theorem fits_signature : CodecFits P 1 2500 Ed25519Signature.codec := by
  apply CodecFits.mono
  · apply fits_model
    apply fits_iso
    apply fits_and (fits_required hP (fits_opaqueId hP 0) (by decide))
    apply fits_and (fits_defaulted hP (fits_literal hP 0 _ (by decide)) (by decide))
    exact fits_required hP (fits_b64url hP 0 64) (by decide)
  · decide

omit hP in
theorem fits_one : CodecFits P 0 17 (Codec.literalInt 1 (.validationError "" "Input should be 1")) :=
  fun _ => fits_int (by decide)

theorem fits_decisionBody : CodecFits P 1 16000 DecisionBody.codec := by
  apply CodecFits.mono
  · apply fits_model
    apply fits_iso
    apply fits_refine
    apply fits_iso
    apply fits_and (fits_header hP 0)
    apply fits_and (fits_required hP (fits_opaqueId hP 0) (by decide))
    apply fits_and (fits_required hP (fits_sha256Hex hP 0) (by decide))
    apply fits_and (fits_required hP (fits_opaqueId hP 0) (by decide))
    apply fits_and (fits_required hP (fits_safeInt 0) (by decide))
    apply fits_and (fits_required hP (fits_sha256Hex hP 0) (by decide))
    apply fits_and (fits_required hP (fits_sha256Hex hP 0) (by decide))
    apply fits_and (fits_required hP (fits_opaqueId hP 0) (by decide))
    apply fits_and (fits_required hP (fits_opaqueId hP 0) (by decide))
    apply fits_and (fits_required hP (fits_utcTimestamp hP 0) (by decide))
    apply fits_and (fits_required hP (fits_safeInt 0) (by decide))
    apply fits_and (fits_required hP (fits_safeInt 0) (by decide))
    apply fits_and (fits_required hP (fits_enum hP 0 5 (by rintro (_ | _ | _) <;> decide)) (by decide))
    apply fits_and (fits_required hP (fits_opaqueId hP 0) (by decide))
    apply fits_and (fits_defaulted hP (fits_optionalOpaqueId hP 0) (by decide))
    apply fits_and (fits_required hP (fits_bool 0) (by decide))
    apply fits_and (fits_defaulted hP (fits_optionalOpaqueId hP 0) (by decide))
    apply fits_and (fits_defaulted hP (fits_optionalSafeInt 0) (by decide))
    exact fits_defaulted hP (fits_option fits_one (by decide)) (by decide)
  · decide

theorem fits_checkpointBody : CodecFits P 1 8000 WitnessCheckpointBody.codec := by
  apply CodecFits.mono
  · apply fits_model
    apply fits_iso
    apply fits_refine
    apply fits_iso
    apply fits_and (fits_header hP 0)
    apply fits_and (fits_required hP (fits_opaqueId hP 0) (by decide))
    apply fits_and (fits_required hP (fits_sha256Hex hP 0) (by decide))
    apply fits_and (fits_required hP (fits_opaqueId hP 0) (by decide))
    apply fits_and (fits_required hP (fits_utcTimestamp hP 0) (by decide))
    apply fits_and (fits_required hP (fits_safeInt 0) (by decide))
    apply fits_and (fits_required hP (fits_optionalSha256Hex hP 0) (by decide))
    exact fits_required hP (fits_sha256Hex hP 0) (by decide)
  · decide

omit hP in
theorem RecordFits.mono {h s s' : ℕ} {r : Record PyError α} (hr : RecordFits P h s r)
    (hs : s ≤ s') : RecordFits P h s' r := fun x =>
  ⟨(hr x).keys, (hr x).values, (hr x).height, (hr x).span.trans hs⟩

/-- The four fields of a dispatch, a result and a cancellation. -/
theorem fits_bindingRecord : RecordFits P 1 4000 bindingRecord := by
  apply RecordFits.mono
  · apply fits_iso
    apply fits_and (fits_required hP (fits_sha256Hex hP 0) (by decide))
    apply fits_and (fits_required hP (fits_opaqueId hP 0) (by decide))
    apply fits_and (fits_required hP (fits_sha256Hex hP 0) (by decide))
    exact fits_required hP (fits_safeInt 0) (by decide)
  · decide

theorem fits_dispatchPayload : CodecFits P 1 5000 DispatchEventPayload.codec :=
  CodecFits.mono (fits_model (fits_bindingRecord hP)) (by decide)

theorem fits_resultPayload : CodecFits P 1 6000 ResultEventPayload.codec := by
  apply CodecFits.mono
  · apply fits_model
    apply fits_iso
    apply fits_and (fits_bindingRecord hP)
    apply fits_and (fits_required hP (fits_safeInt 0) (by decide))
    apply fits_and (fits_required hP (fits_sha256Hex hP 0) (by decide))
    exact fits_required hP (fits_intIn 0 (by decide) (by decide)) (by decide)
  · decide

theorem fits_cancellationPayload : CodecFits P 1 6000 CancellationEventPayload.codec := by
  apply CodecFits.mono
  · apply fits_model
    apply fits_iso
    apply fits_refine
    apply fits_iso
    apply fits_and (fits_bindingRecord hP)
    apply fits_and (fits_required hP
      (fits_enum hP 0 9 (by rintro (_ | _) <;> decide)) (by decide))
    exact fits_defaulted hP (fits_optionalSha256Hex hP 0) (by decide)
  · decide


omit hP in
theorem Fits.mono {h h' s s' : ℕ} {v : Json} (hv : Fits P h s v) (hh : h ≤ h') (hs : s ≤ s') :
    Fits P h' s' v :=
  ⟨hv.admissible, hv.height.trans hh, hv.span.trans hs⟩

omit hP in
theorem fits_and_at {h s s' : ℕ} {r : Record PyError α} {r' : Record PyError β} {x : α × β}
    (hr : FieldsFit P h s (r.encode x.1)) (hr' : FieldsFit P h s' (r'.encode x.2)) :
    FieldsFit P h (s + s') ((r.and r').encode x) := hr.append hr'

/-- An envelope around a body that fits. -/
theorem fits_sealed_at {F : Sealing β} {s : ℕ} {x : Sealed P F}
    (hbody : Fits P 1 s (F.codec.encode x.body))
    (hhash : IsAscii F.hashName ∧ strSpan F.hashName ≤ 200)
    (hsignature : IsAscii F.signatureName ∧ strSpan F.signatureName ≤ 200) :
    Fits P 2 (s + 3500) ((Sealed.codec P F).encode x) := by
  have hfields := (fieldsFit_singleton hP (show IsAscii "body" by decide) hbody).append
    ((fieldsFit_singleton hP hhash.1 (fits_sha256Hex hP 1 x.digest)).append
      (fieldsFit_singleton hP hsignature.1 (fits_signature hP x.signature)))
  have hname : strSpan "body" = 26 := by decide
  refine (fits_model_at hfields).mono le_rfl ?_
  omega

/-- An acknowledgement of a simulated isolation names no workload. -/
theorem fits_killAcknowledgementBody_at {x : KillAcknowledgementBody}
    (hworkloads : x.terminatedWorkloadIds.1 = []) :
    Fits P 1 16000 (KillAcknowledgementBody.codec.encode x) := by
  have hempty : Fits P 0 2 ((tupleField Codecs.opaqueId
      (stringListCheck "terminated workload IDs")).encode x.terminatedWorkloadIds) := by
    have hencode : (tupleField Codecs.opaqueId
        (stringListCheck "terminated workload IDs")).encode x.terminatedWorkloadIds = .arr [] :=
      congrArg Json.arr (by rw [hworkloads]; rfl)
    rw [hencode]
    exact ⟨trivial, le_rfl, le_rfl⟩
  apply Fits.mono
  · apply fits_model_at
    apply fits_and_at (fits_header hP 0 _)
    apply fits_and_at (fits_required hP (fits_opaqueId hP 0) (by decide) _)
    apply fits_and_at (fits_required hP (fits_sha256Hex hP 0) (by decide) _)
    apply fits_and_at (fits_required hP (fits_opaqueId hP 0) (by decide) _)
    apply fits_and_at (fits_required hP (fits_opaqueId hP 0) (by decide) _)
    apply fits_and_at (fits_required hP (fits_safeInt 0) (by decide) _)
    apply fits_and_at (fits_required hP (fits_sha256Hex hP 0) (by decide) _)
    apply fits_and_at (fits_required hP (fits_safeInt 0) (by decide) _)
    apply fits_and_at (fits_required hP (fits_utcTimestamp hP 0) (by decide) _)
    apply fits_and_at (fits_required hP (fits_safeInt 0) (by decide) _)
    apply fits_and_at (fits_required hP (fits_utcTimestamp hP 0) (by decide) _)
    apply fits_and_at (fits_required hP (fits_safeInt 0) (by decide) _)
    apply fits_and_at (fits_required hP (fits_safeInt 0) (by decide) _)
    apply fits_and_at (fits_required hP (fits_enum hP 0 22 (by rintro (_ | _ | _ | _ | _) <;> decide)) (by decide) _)
    apply fits_and_at (fieldsFit_singleton hP (by decide) hempty)
    apply fits_and_at (fits_required hP (fits_safeInt 0) (by decide) _)
    apply fits_and_at (fits_defaulted hP (fits_safeInt 0) (by decide) _)
    apply fits_and_at (fits_required hP (fits_safeInt 0) (by decide) _)
    apply fits_and_at (fits_required hP (fits_bool 0) (by decide) _)
    exact fits_defaulted hP (fits_optionalSha256Hex hP 0) (by decide) _
  · exact le_rfl
  · decide

theorem fits_receiptBody_at {x : ReceiptBody P}
    (hsimulated : ∀ ack ∈ x.killAcknowledgement, ack.body.terminatedWorkloadIds.1 = []) :
    Fits P 3 60000 ((ReceiptBody.codec P).encode x) := by
  have hack : Fits P 2 19500 (((Sealed.codec P killAcknowledgementSealing).option
      fun _ h => by cases h).encode x.killAcknowledgement) := by
    cases h : x.killAcknowledgement with
    | none => exact ⟨trivial, Nat.zero_le _, show (4 : ℕ) ≤ 19500 by decide⟩
    | some ack =>
        have hbody := fits_killAcknowledgementBody_at hP (hsimulated ack h)
        exact fits_sealed_at hP hbody (by decide) (by decide)
  apply Fits.mono
  · apply fits_model_at
    apply fits_and_at (fits_header hP 2 _)
    apply fits_and_at (fits_required hP (fits_opaqueId hP 2) (by decide) _)
    apply fits_and_at (fits_required hP (fits_sha256Hex hP 2) (by decide) _)
    apply fits_and_at (fits_required hP (fits_opaqueId hP 2) (by decide) _)
    apply fits_and_at (fits_required hP (fits_opaqueId hP 2) (by decide) _)
    apply fits_and_at (fits_required hP (fits_enum hP 2 18 (by rintro (_ | _ | _ | _) <;> decide)) (by decide) _)
    apply fits_and_at (fits_required hP (fits_utcTimestamp hP 2) (by decide) _)
    apply fits_and_at (fits_required hP (fits_utcTimestamp hP 2) (by decide) _)
    apply fits_and_at (fits_required hP (fits_safeInt 2) (by decide) _)
    apply fits_and_at (fits_required hP (fits_safeInt 2) (by decide) _)
    apply fits_and_at (fits_required hP (fits_safeInt 2) (by decide) _)
    apply fits_and_at (fits_required hP (fits_optionalSha256Hex hP 2) (by decide) _)
    apply fits_and_at (fits_required hP (fits_optionalSha256Hex hP 2) (by decide) _)
    apply fits_and_at (fits_defaulted hP (fits_literal hP 2 _ (by decide)) (by decide) _)
    apply fits_and_at (fits_required hP (fits_sha256Hex hP 2) (by decide) _)
    apply fits_and_at (fits_required hP (fits_safeInt 2) (by decide) _)
    apply fits_and_at (fits_required hP (fits_safeInt 2) (by decide) _)
    apply fits_and_at (fits_required hP (fits_safeInt 2) (by decide) _)
    apply fits_and_at (fits_required hP (fits_safeInt 2) (by decide) _)
    apply fits_and_at (fits_required hP (fits_safeInt 2) (by decide) _)
    apply fits_and_at (fits_required hP (fits_safeInt 2) (by decide) _)
    apply fits_and_at (fits_required hP (fits_safeInt 2) (by decide) _)
    apply fits_and_at (fits_required hP (fits_safeInt 2) (by decide) _)
    apply fits_and_at (fits_required hP (fits_safeInt 2) (by decide) _)
    apply fits_and_at (fieldsFit_singleton hP (by decide) hack)
    exact fieldsFit_singleton hP (by decide) (fits_sealed_at hP (fits_checkpointBody hP _) (by decide) (by decide))
  · exact le_rfl
  · decide

/-- An event is as long as its payload, with every character escaped. -/
theorem fits_eventBody_at {x : EventBody P} {n : ℕ}
    (hlength : x.payloadCanonicalJson.1.toList.length ≤ n) :
    Fits P 1 (6 * n + 10000) ((EventBody.codec P).encode x) := by
  have hpayload : Fits P 0 (6 * n + 2) (.str x.payloadCanonicalJson.1) := by
    have hvalid := x.payloadCanonicalJson.2
    simp only [payloadIsCanonical, canonicalizeJsonText, requireNfc, bind_eq_ok,
      Unique.exists_iff, ensure_eq_ok] at hvalid
    refine ⟨hvalid.1.1, le_rfl, ?_⟩
    rw [Json.span, strSpan]
    omega
  apply Fits.mono
  · apply fits_model_at
    apply fits_and_at (fits_header hP 0 _)
    apply fits_and_at (fits_required hP (fits_opaqueId hP 0) (by decide) _)
    apply fits_and_at (fits_required hP (fits_sha256Hex hP 0) (by decide) _)
    apply fits_and_at (fits_required hP (fits_safeInt 0) (by decide) _)
    apply fits_and_at (fits_required hP (fits_sha256Hex hP 0) (by decide) _)
    apply fits_and_at (fits_required hP (fits_enum hP 0 17 (by rintro (_ | _ | _ | _ | _ | _ | _ | _ | _) <;> decide)) (by decide) _)
    apply fits_and_at (fits_defaulted hP (fits_optionalOpaqueId hP 0) (by decide) _)
    apply fits_and_at (fits_required hP (fits_opaqueId hP 0) (by decide) _)
    apply fits_and_at (fits_required hP (fits_utcTimestamp hP 0) (by decide) _)
    apply fits_and_at (fits_required hP (fits_safeInt 0) (by decide) _)
    apply fits_and_at (fieldsFit_singleton hP (by decide) hpayload)
    exact fits_required hP (fits_sha256Hex hP 0) (by decide) _
  · exact le_rfl
  · simp [strSpan, protocol, schemaVersion]
    omega

theorem fits_event_at {event : Event P} {n : ℕ}
    (hlength : event.body.payloadCanonicalJson.1.toList.length ≤ n) :
    Fits P 2 (6 * n + 11000) ((Event.codec P).encode event) := by
  have hfields := (fieldsFit_singleton hP (show IsAscii "body" by decide)
    (fits_eventBody_at hP hlength)).append
    (fieldsFit_singleton hP (show IsAscii "event_hash" by decide)
      (fits_sha256Hex hP 1 event.eventHash))
  have hbody : strSpan "body" = 26 := by decide
  have hhash : strSpan "event_hash" = 62 := by decide
  refine (fits_model_at hfields).mono le_rfl ?_
  omega

end Codecs

theorem encode_eventBody (body : EventBody P) : (EventBody.codec P).encode body = .obj
    [("protocol", .str protocol), ("schema_version", .str schemaVersion),
      ("run_id", .str body.runId.1), ("manifest_hash", .str body.manifestHash.1),
      ("sequence", .int body.sequence.1), ("previous_event_hash", .str body.previousEventHash.1),
      ("kind", .str body.kind.value),
      ("request_id", Codecs.optionalOpaqueId.encode body.requestId),
      ("producer_instance_id", .str body.producerInstanceId.1),
      ("observed_at", .str body.observedAt.1), ("monotonic_ns", .int body.monotonicNs.1),
      ("payload_canonical_json", .str body.payloadCanonicalJson.1),
      ("payload_sha256", .str body.payloadSha256.1)] := rfl

/-- An event has one node for each of its fields. -/
theorem nodes_eventBody (body : EventBody P) : ((EventBody.codec P).encode body).nodes = 14 := by
  have hrequest : (Codecs.optionalOpaqueId.encode body.requestId).nodes = 1 := by
    cases body.requestId <;> rfl
  rw [encode_eventBody]
  simp only [nodes, nodesFields, hrequest]

theorem nodes_event (event : Event P) : ((Event.codec P).encode event).nodes = 16 := by
  have h : ((Event.codec P).encode event).nodes =
      ((EventBody.codec P).encode event.body).nodes + 2 := by rfl
  rw [h, nodes_eventBody]

end Containment
