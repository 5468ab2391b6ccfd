/-
# Keys, signatures and signed envelopes

Six structures of the contract are a body, its domain-separated digest and a
signature over that digest. They differ in their domains, in whose key signs and
in the texts of their errors. `Sealing` holds what differs and `Sealed` is the
envelope: it cannot be built unless its digest is the digest of its body.

Signing a body that can be hashed yields an envelope, and the envelope verifies
under the matching public key. Both facts are proved once, for all of them.
-/

import Containment.Models.CanonicalText
import Containment.Models.Fields

namespace Containment

open Json

/-! ## Keys and signatures -/

/-- Octets of a fixed length as canonical base64url. -/
def b64urlCheck (length : ℕ) (value : String) : Except PyError Unit := do
  let _ ← b64urlDecode value length

abbrev B64Url (length : ℕ) : Type := { s : String // b64urlCheck length s = .ok () }

/-- `as_bytes`. A validated text always decodes. -/
def B64Url.asBytes {length : ℕ} (value : B64Url length) : Bytes :=
  match b64urlDecode value.1 length with
  | .ok bytes => bytes
  | .error _ => []

theorem b64urlCheck_encode {value : Bytes} {length : ℕ} (hlen : value.length = length)
    (hpos : 0 < length) : b64urlCheck length (b64urlEncode value) = .ok () := by
  subst hlen
  rw [b64urlCheck, b64urlDecode_b64urlEncode (List.ne_nil_of_length_pos hpos)]
  rfl

def b64urlField (length : ℕ) : Codec PyError (B64Url length) :=
  .ofString Codecs.notString (b64urlCheck length)

structure Ed25519Signature where
  keyId : OpaqueId
  value : B64Url 64
  deriving DecidableEq

structure Ed25519PublicKey where
  keyId : OpaqueId
  value : B64Url 32
  deriving DecidableEq

namespace Ed25519Signature

def record : Record PyError Ed25519Signature :=
  ((Codecs.required "key_id" Codecs.opaqueId).and
    ((Codecs.defaulted "algorithm" (Codecs.literal "Ed25519") ()).and
      (Codecs.required "value" (b64urlField 64)))).iso
    (fun (keyId, _, value) => ⟨keyId, value⟩) (fun x => (x.keyId, (), x.value)) fun _ => rfl

def codec : Codec PyError Ed25519Signature := Codecs.model record rfl

def fromBytes (keyId : OpaqueId) (value : Bytes) : Except PyError Ed25519Signature :=
  if h : value.length = 64 then
    .ok ⟨keyId, b64urlEncode value, b64urlCheck_encode h (by decide)⟩
  else .error (.valueError "Ed25519 signature must be 64 bytes")

def asBytes (signature : Ed25519Signature) : Bytes := B64Url.asBytes signature.value

theorem fromBytes_eq_ok (keyId : OpaqueId) {value : Bytes} (h : value.length = 64) :
    ∃ signature, fromBytes keyId value = .ok signature ∧ signature.keyId = keyId ∧
      signature.asBytes = value := by
  refine ⟨_, dif_pos h, rfl, ?_⟩
  have hdecode : b64urlDecode (b64urlEncode value) 64 = .ok value := by
    rw [← h]
    exact b64urlDecode_b64urlEncode (List.ne_nil_of_length_pos (by omega))
  simp only [asBytes, B64Url.asBytes, hdecode]

end Ed25519Signature

namespace Ed25519PublicKey

def record : Record PyError Ed25519PublicKey :=
  ((Codecs.required "key_id" Codecs.opaqueId).and
    ((Codecs.defaulted "algorithm" (Codecs.literal "Ed25519") ()).and
      (Codecs.required "value" (b64urlField 32)))).iso
    (fun (keyId, _, value) => ⟨keyId, value⟩) (fun x => (x.keyId, (), x.value)) fun _ => rfl

def codec : Codec PyError Ed25519PublicKey := Codecs.model record rfl

def asBytes (key : Ed25519PublicKey) : Bytes := B64Url.asBytes key.value

end Ed25519PublicKey

variable (P : Platform)

/-- `_verify_signature`. -/
def verifySignature (publicKey : Bytes) (signature : Ed25519Signature) (message : Bytes) :
    Except PyError Unit :=
  ensure (P.ed25519Verify publicKey signature.asBytes message = true)
    (.valueError "invalid Ed25519 signature")

/-! ## Envelopes -/

/-- What distinguishes one kind of signed envelope from another. -/
structure Sealing (β : Type) where
  hashDomain : String
  signatureDomain : String
  codec : Codec PyError β
  /-- The key the body says it is signed with. -/
  keyId : β → OpaqueId
  hashName : String
  signatureName : String
  hashMismatch : String
  keyMismatch : String
  wrongKey : String
  names_nodup : ["body", hashName, signatureName].Nodup

namespace Sealing

variable {β : Type} (F : Sealing β)

/-- `envelope_is_coherent`. -/
def envelopeIsCoherent : β × Sha256Hex × Ed25519Signature → Except PyError Unit
  | (body, digest, signature) => do
      let expected ← (domainHash P F.hashDomain (F.codec.encode body)).mapError (locate "")
      ensure (expected = digest.1) (reject F.hashMismatch)
      ensure (signature.keyId = F.keyId body) (reject F.keyMismatch)

end Sealing

/-- A body with its digest and a signature by the body's signer. -/
structure Sealed {β : Type} (F : Sealing β) where
  body : β
  digest : Sha256Hex
  signature : Ed25519Signature
  coherent : F.envelopeIsCoherent P (body, digest, signature) = .ok ()

variable {P} in
/-- A canonical encoding has one value. -/
theorem eq_of_canonicalJsonBytes {α : Type} {c : Codec PyError α} {x y : α} {encoded : Bytes}
    (hx : canonicalJsonBytes P (c.encode x) = .ok encoded)
    (hy : canonicalJsonBytes P (c.encode y) = .ok encoded) : x = y := by
  obtain ⟨text, htext, hencoded⟩ := bind_eq_ok.mp hx
  obtain ⟨text', htext', hencoded'⟩ := bind_eq_ok.mp hy
  have hbytes : utf8 text = utf8 text' :=
    (Except.ok.inj hencoded).trans (Except.ok.inj hencoded').symm
  have hparse := parseCanonicalJson_of_canonicalJson htext
  rw [hbytes, parseCanonicalJson_of_canonicalJson htext', Except.ok.injEq] at hparse
  have hdecode := c.decode_encode x
  rw [← hparse, c.decode_encode y, Except.ok.injEq] at hdecode
  exact hdecode.symm

namespace Sealed

variable {P} {β : Type} {F : Sealing β}

variable (P F) in
def record : Record PyError (Sealed P F) :=
  (((Codecs.required "body" F.codec).and
    ((Codecs.required F.hashName Codecs.sha256Hex).and
      (Codecs.required F.signatureName Ed25519Signature.codec))).refine
        (F.envelopeIsCoherent P)).iso
    (fun x => ⟨x.1.1, x.1.2.1, x.1.2.2, x.2⟩)
    (fun x => ⟨(x.body, x.digest, x.signature), x.coherent⟩) fun _ => rfl

variable (P F) in
def codec : Codec PyError (Sealed P F) := Codecs.model (record P F) (decide_eq_true F.names_nodup)

/-- Build the envelope, as its constructor does after every field has passed. -/
def make (body : β) (digest : Sha256Hex) (signature : Ed25519Signature) :
    Except PyError (Sealed P F) :=
  (fun x => ⟨x.1.1, x.1.2.1, x.1.2.2, x.2⟩) <$>
    checked (F.envelopeIsCoherent P) (body, digest, signature)

variable (F) in
def sign (body : β) (privateKey : Bytes) : Except PyError (Sealed P F) := do
  let digest ← domainHash P F.hashDomain (F.codec.encode body)
  let message ← signingMessage F.signatureDomain digest
  let signature ← Ed25519Signature.fromBytes (F.keyId body) (P.ed25519Sign privateKey message)
  let digest ← validate F.hashName sha256HexCheck digest
  make body digest signature

def verify (x : Sealed P F) (key : Ed25519PublicKey) : Except PyError Unit := do
  ensure (key.keyId = F.keyId x.body) (.valueError F.wrongKey)
  verifySignature P key.asBytes x.signature (← signingMessage F.signatureDomain x.digest.1)

theorem domainHash_eq (x : Sealed P F) :
    domainHash P F.hashDomain (F.codec.encode x.body) = .ok x.digest.1 := by
  have h := x.coherent
  rw [Sealing.envelopeIsCoherent, bind_eq_ok] at h
  obtain ⟨expected, hexpected, h⟩ := h
  rw [bind_unit_eq_ok, ensure_eq_ok] at h
  cases hhash : domainHash P F.hashDomain (F.codec.encode x.body) with
  | error error => rw [hhash] at hexpected; cases hexpected
  | ok digest =>
      rw [hhash] at hexpected
      rw [← h.1]
      exact congrArg Except.ok (Except.ok.inj hexpected)

/-- The octets behind the digest. -/
theorem exists_preimage (x : Sealed P F) :
    ∃ encoded, canonicalJsonBytes P (F.codec.encode x.body) = .ok encoded ∧
      P.sha256Hex (domainPreimage F.hashDomain encoded) = x.digest.1 := by
  have h := x.domainHash_eq
  rw [domainHash, bind_eq_ok] at h
  obtain ⟨encoded, hencoded, h⟩ := h
  exact ⟨encoded, hencoded, Except.ok.inj h⟩

theorem signature_keyId (x : Sealed P F) : x.signature.keyId = F.keyId x.body := by
  have h := x.coherent
  rw [Sealing.envelopeIsCoherent, bind_eq_ok] at h
  obtain ⟨_, -, h⟩ := h
  rw [bind_unit_eq_ok, ensure_eq_ok, ensure_eq_ok] at h
  exact h.2

/-- Signing keeps the body. -/
theorem body_of_sign {body : β} {privateKey : Bytes} {x : Sealed P F}
    (h : sign F body privateKey = .ok x) : x.body = body := by
  simp only [sign, bind_eq_ok, make, map_eq_ok] at h
  obtain ⟨_, -, _, -, _, -, digest, -, y, hy, rfl⟩ := h
  unfold checked at hy
  split at hy
  · rw [← Except.ok.inj hy]
  · cases hy

end Sealed

end Containment
