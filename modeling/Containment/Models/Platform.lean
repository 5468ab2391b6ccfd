/-
# Exceptions and the platform below the contract

`PyError` names the exceptions the contract code raises, with their texts. The
`Platform` gathers what the contract takes from outside its own sources: SHA-256,
Ed25519, Unicode normalization and case folding, and the address arithmetic of
the standard library. It is a parameter of the whole development. A result that
needs a documented property of one of these functions states it as a hypothesis.
-/

import Containment.Json.RoundTrip

namespace Containment

/-- Octet strings. -/
abbrev Bytes := List UInt8

/-- Exceptions, by class, with the text of the raising statement. -/
inductive PyError
  | valueError (message : String)
  | typeError (message : String)
  | runtimeError (message : String)
  | permissionError (message : String)
  | bufferError (message : String)
  | assertionError (message : String)
  | osError (message : String)
  | keyError (message : String)
  | stopIteration
  /-- Of the web framework: the client has left before its body was complete. -/
  | clientDisconnect
  /-- A model refused a field. -/
  | validationError (field : String) (message : String)
  deriving DecidableEq, Repr

/-- What the contract code takes from the platform it runs on. -/
structure Platform where
  /-- `hashlib.sha256(value).hexdigest()`. -/
  sha256Hex : Bytes → String
  /-- The raw public key of an Ed25519 private key. -/
  ed25519Public : Bytes → Bytes
  /-- Private key and message to signature. -/
  ed25519Sign : Bytes → Bytes → Bytes
  /-- Public key, signature and message. -/
  ed25519Verify : Bytes → Bytes → Bytes → Bool
  /-- `unicodedata.normalize("NFC", value)`. -/
  normalizeNfc : String → String
  /-- `value.lower()`. -/
  lower : String → String
  /-- `ipaddress.ip_address(value).compressed`, or nothing when it raises. -/
  ipAddress : String → Option String
  /-- `ipaddress.ip_network(value, strict=True).with_prefixlen`, or nothing when it
  raises. -/
  ipNetwork : String → Option String
  /-- Whether an address lies in a network. -/
  ipInNetwork : String → String → Bool

/-! ## Raising computations -/

section Except

variable {ε α β : Type}

@[simp]
theorem except_ok_bind (value : α) (next : α → Except ε β) :
    (Except.ok value >>= next) = next value := rfl

@[simp]
theorem except_error_bind (error : ε) (next : α → Except ε β) :
    ((Except.error error : Except ε α) >>= next) = .error error := rfl

@[simp]
theorem except_pure (value : α) : (pure value : Except ε α) = .ok value := rfl

/-- A sequence returns exactly when its first part does and the rest returns on
that part's value. -/
theorem bind_eq_ok {first : Except ε α} {next : α → Except ε β} {result : β} :
    (first >>= next) = .ok result ↔ ∃ value, first = .ok value ∧ next value = .ok result := by
  cases first with
  | error error => simp
  | ok value => simp

theorem map_eq_ok {first : Except ε α} {f : α → β} {result : β} :
    (f <$> first) = .ok result ↔ ∃ value, first = .ok value ∧ f value = result := by
  cases first with
  | error error => simp [Functor.map, Except.map]
  | ok value => simp [Functor.map, Except.map]

/-- Raise unless the condition holds. -/
def ensure (condition : Prop) [Decidable condition] (error : ε) : Except ε Unit :=
  if condition then .ok () else .error error

theorem ensure_of {condition : Prop} [Decidable condition] {error : ε} (h : condition) :
    ensure condition error = .ok () := if_pos h

@[simp]
theorem ensure_eq_ok {condition : Prop} [Decidable condition] {error : ε} {u : Unit} :
    ensure condition error = .ok u ↔ condition := by
  unfold ensure
  split <;> simp_all

/-- A sequence whose first part only checks. -/
theorem bind_unit_eq_ok {first : Except ε Unit} {next : Unit → Except ε β} {result : β} :
    (first >>= next) = .ok result ↔ first = .ok () ∧ next () = .ok result := by
  rw [bind_eq_ok]
  exact ⟨fun ⟨_, h⟩ => h, fun h => ⟨(), h⟩⟩

end Except

/-! ## Text and octets -/

/-- `value.encode("utf-8")`. -/
def utf8 (s : String) : Bytes := s.toByteArray.data.toList

/-- `value.decode("utf-8")`, or nothing when it raises. -/
def decodeUtf8 (b : Bytes) : Option String := String.fromUTF8? ⟨⟨b⟩⟩

theorem utf8_injective : Function.Injective utf8 := by
  intro s t h
  unfold utf8 at h
  apply String.toByteArray_inj.mp
  exact ByteArray.ext (Array.toList_inj.mp h)

@[simp]
theorem decodeUtf8_utf8 (s : String) : decodeUtf8 (utf8 s) = some s := by
  have hbytes : (⟨⟨utf8 s⟩⟩ : ByteArray) = s.toByteArray := rfl
  rw [decodeUtf8, hbytes, String.fromUTF8?, dif_pos s.isValidUTF8]
  rfl

/-- Every octet of a multi-octet character is at least 128, so a smaller octet is the
character itself. -/
theorem toNat_of_mem_utf8EncodeChar {c : Char} {b : UInt8} (hb : b.toNat < 128)
    (h : b ∈ String.utf8EncodeChar c) : c.toNat = b.toNat := by
  have hhigh (m : ℕ) (k : UInt8) (hk : 128 ≤ k.toNat) (hm : m + k.toNat < 256) :
      b ≠ UInt8.ofNat m + k := by
    intro heq
    have hnat := congrArg UInt8.toNat heq
    simp only [UInt8.toNat_add, UInt8.toNat_ofNat'] at hnat
    omega
  unfold String.utf8EncodeChar at h
  simp only at h
  split_ifs at h with h₁ h₂ h₃
  · simp only [List.mem_singleton] at h
    have hnat := congrArg UInt8.toNat h
    simp at hnat
    have : c.toNat ≤ 127 := h₁
    omega
  · simp at h
    rcases h with h | h
    · exact absurd h (hhigh _ 192 (by decide) (by simp only [UInt8.reduceToNat]; omega))
    · exact absurd h (hhigh _ 128 (by decide) (by simp only [UInt8.reduceToNat]; omega))
  · simp at h
    rcases h with h | h | h
    · exact absurd h (hhigh _ 224 (by decide) (by simp only [UInt8.reduceToNat]; omega))
    · exact absurd h (hhigh _ 128 (by decide) (by simp only [UInt8.reduceToNat]; omega))
    · exact absurd h (hhigh _ 128 (by decide) (by simp only [UInt8.reduceToNat]; omega))
  · simp at h
    rcases h with h | h | h | h
    · exact absurd h (hhigh _ 240 (by decide) (by simp only [UInt8.reduceToNat]; omega))
    · exact absurd h (hhigh _ 128 (by decide) (by simp only [UInt8.reduceToNat]; omega))
    · exact absurd h (hhigh _ 128 (by decide) (by simp only [UInt8.reduceToNat]; omega))
    · exact absurd h (hhigh _ 128 (by decide) (by simp only [UInt8.reduceToNat]; omega))

theorem utf8_eq_flatMap (s : String) : utf8 s = s.toList.flatMap String.utf8EncodeChar := by
  have h : s = String.ofList s.toList := by simp
  conv_lhs => rw [h]
  unfold utf8
  rw [String.toByteArray_ofList, List.utf8Encode]
  simp

theorem exists_of_mem_utf8 {s : String} {b : UInt8} (hb : b.toNat < 128) (h : b ∈ utf8 s) :
    ∃ c ∈ s.toList, c.toNat = b.toNat := by
  rw [utf8_eq_flatMap] at h
  obtain ⟨c, hc, hmem⟩ := List.mem_flatMap.mp h
  exact ⟨c, hc, toNat_of_mem_utf8EncodeChar hb hmem⟩

end Containment
