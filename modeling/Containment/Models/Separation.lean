/-
# Domain separation

A digest covers the protocol name, a domain name and the canonical octets of a value, and a
signed message covers the protocol name, a domain name and a digest, with a zero octet
after each name. Names without a zero octet make both formats unambiguous. Six classes sign
under six domain names, so a signature made for one of them is good for no other, and for no
other body of its own class.

Two assumptions about primitives are made where they are used: no collision among the octets
that are hashed, and a signature that verifies for the message it was made for only.
-/

import Containment.Models.Decision
import Containment.Models.NormalForm
import Containment.Models.Receipt

namespace Containment

open Json

variable {P : Platform}

/-! ## The two formats -/

/-- An ASCII name without a zero character. -/
def PlainDomain (domain : String) : Prop := ∀ c ∈ domain.toList, 0 < c.toNat ∧ c.toNat < 128

instance (domain : String) : Decidable (PlainDomain domain) :=
  List.decidableBAll (fun c : Char => 0 < c.toNat ∧ c.toNat < 128) domain.toList

theorem zero_notMem_utf8 {domain : String} (h : PlainDomain domain) : (0 : UInt8) ∉ utf8 domain := by
  rw [utf8_eq_flatMap, List.mem_flatMap]
  rintro ⟨c, hc, hmem⟩
  obtain ⟨hpos, hlt⟩ := h c hc
  have hencode : String.utf8EncodeChar c = [c.toNat.toUInt8] := by
    rw [String.utf8EncodeChar, if_pos (show c.val.toNat ≤ 127 from Nat.lt_succ_iff.mp hlt)]
    rfl
  rw [hencode, List.mem_singleton] at hmem
  have hzero := congrArg UInt8.toNat hmem
  simp only [UInt8.toNat_zero, Nat.toUInt8_eq, UInt8.toNat_ofNat'] at hzero
  omega

/-- A name, a zero octet and the rest can be told apart. -/
theorem named_inj {domain domain' : String} (h : PlainDomain domain) (h' : PlainDomain domain')
    {rest rest' : Bytes} (heq : utf8 domain ++ 0 :: rest = utf8 domain' ++ 0 :: rest') :
    domain = domain' ∧ rest = rest' := by
  -- The longer name would contain the zero octet behind the shorter one.
  have hshort {name name' rest rest' tail : Bytes} (hname : (0 : UInt8) ∉ name')
      (hsplit : name' = name ++ tail) (hrest : 0 :: rest = tail ++ 0 :: rest') :
      name = name' ∧ rest = rest' := by
    cases tail with
    | nil =>
        rw [List.append_nil] at hsplit
        rw [List.nil_append, List.cons.injEq] at hrest
        exact ⟨hsplit.symm, hrest.2⟩
    | cons x tail =>
        rw [List.cons_append, List.cons.injEq] at hrest
        rw [hsplit, ← hrest.1] at hname
        simp at hname
  rcases List.append_eq_append_iff.mp heq with ⟨tail, hsplit, hrest⟩ | ⟨tail, hsplit, hrest⟩
  · obtain ⟨hname, hrest⟩ := hshort (zero_notMem_utf8 h') hsplit hrest
    exact ⟨utf8_injective hname, hrest⟩
  · obtain ⟨hname, hrest⟩ := hshort (zero_notMem_utf8 h) hsplit hrest
    exact ⟨utf8_injective hname.symm, hrest.symm⟩

theorem domainPreimage_inj_of_plain {domain domain' : String} (h : PlainDomain domain)
    (h' : PlainDomain domain') {encoded encoded' : Bytes}
    (heq : domainPreimage domain encoded = domainPreimage domain' encoded') :
    domain = domain' ∧ encoded = encoded' := by
  rw [domainPreimage, domainPreimage, List.append_cancel_left_eq, List.cons.injEq] at heq
  exact named_inj h h' heq.2

theorem exists_hexDigit {c : Char} (h : isHexDigit c = true) : ∃ n < 16, c = hexDigit n := by
  simp only [isHexDigit, Bool.or_eq_true, Bool.and_eq_true, decide_eq_true_eq, Char.le_def,
    UInt32.le_iff_toNat_le] at h
  rcases h with ⟨hlow, hhigh⟩ | ⟨hlow, hhigh⟩
  · have hlow' : 48 ≤ c.toNat := hlow
    have hhigh' : c.toNat ≤ 57 := hhigh
    refine ⟨c.toNat - 48, by omega, ?_⟩
    rw [hexDigit, if_pos (by omega), Nat.add_sub_cancel' hlow', Char.ofNat_toNat]
  · have hlow' : 97 ≤ c.toNat := hlow
    have hhigh' : c.toNat ≤ 102 := hhigh
    refine ⟨c.toNat - 87, by omega, ?_⟩
    rw [hexDigit, if_neg (by omega), Nat.add_sub_cancel' (by omega), Char.ofNat_toNat]

theorem bytesFromHex_inj : ∀ {cs ds : List Char}, cs.all isHexDigit = true →
    ds.all isHexDigit = true → cs.length = ds.length → cs.length % 2 = 0 →
    bytesFromHex cs = bytesFromHex ds → cs = ds
  | [], [], _, _, _, _, _ => rfl
  | [], _ :: _, _, _, hlength, _, _ => nomatch hlength
  | _ :: _, [], _, _, hlength, _, _ => nomatch hlength
  | [_], _ :: _, _, _, _, heven, _ => nomatch heven
  | _ :: _ :: _, [_], _, _, hlength, _, _ => nomatch hlength
  | a :: b :: cs, c :: d :: ds, hcs, hds, hlength, heven, heq => by
      simp only [List.all_cons, Bool.and_eq_true] at hcs hds
      simp only [List.length_cons, Nat.add_right_cancel_iff] at hlength
      rw [List.length_cons, List.length_cons] at heven
      obtain ⟨i, hi, rfl⟩ := exists_hexDigit hcs.1
      obtain ⟨j, hj, rfl⟩ := exists_hexDigit hcs.2.1
      obtain ⟨k, hk, rfl⟩ := exists_hexDigit hds.1
      obtain ⟨l, hl, rfl⟩ := exists_hexDigit hds.2.1
      rw [bytesFromHex, bytesFromHex, List.cons.injEq, hexValue_hexDigit hi, hexValue_hexDigit hj,
        hexValue_hexDigit hk, hexValue_hexDigit hl] at heq
      have hbyte : (i * 16 + j) % 256 = (k * 16 + l) % 256 := mod_eq_of_toUInt8_eq heq.1
      have hrest := bytesFromHex_inj hcs.2.2 hds.2.2 hlength (by omega) heq.2
      have hik : i = k := by omega
      have hjl : j = l := by omega
      rw [hik, hjl, hrest]

theorem signingMessage_inj {domain domain' digest digest' : String} (h : PlainDomain domain)
    (h' : PlainDomain domain') {message : Bytes}
    (hmessage : signingMessage domain digest = .ok message)
    (hmessage' : signingMessage domain' digest' = .ok message) :
    domain = domain' ∧ digest = digest' := by
  have hsplit (domain : String) (tail : Bytes) : utf8 domain ++ utf8 "\x00SHA-256\x00" ++ tail =
      utf8 domain ++ 0 :: (utf8 "SHA-256\x00" ++ tail) := by
    rw [List.append_assoc]
    rfl
  simp only [signingMessage, bind_unit_eq_ok, ensure_eq_ok, except_pure, Except.ok.injEq]
    at hmessage hmessage'
  obtain ⟨hdigest, rfl⟩ := hmessage
  obtain ⟨hdigest', heq⟩ := hmessage'
  rw [hsplit, hsplit, List.append_cancel_left_eq, List.cons.injEq] at heq
  obtain ⟨hdomain, hrest⟩ := named_inj h' h heq.2
  rw [List.append_cancel_left_eq] at hrest
  simp only [isSha256Hex, Bool.and_eq_true, beq_iff_eq] at hdigest hdigest'
  refine ⟨hdomain.symm, String.toList_injective ?_⟩
  exact (bytesFromHex_inj hdigest'.2 hdigest.2 (by rw [hdigest'.1, hdigest.1])
    (by rw [hdigest'.1]) hrest).symm

/-! ## What is signed -/

theorem SecondHopAttestationFields.coherent_of_checked
    (x : { x : SecondHopAttestationFields P // x.envelopeIsCoherent = .ok () }) :
    x.1.envelopeIsCoherent = .ok () := x.2

/-- `SecondHopAttestation.sign`. -/
def SecondHopAttestation.sign (body : SecondHopAttestationBody P) (privateKey : Bytes)
    (providerKey : Ed25519PublicKey) : Except PyError (SecondHopAttestation P) := do
  let digest ← domainHash P "SECOND-HOP-ATTESTATION-HASH"
    ((SecondHopAttestationBody.codec P).encode body)
  let message ← signingMessage "SECOND-HOP-ATTESTATION-SIGNATURE" digest
  let signature ← Ed25519Signature.fromBytes body.providerKeyId (P.ed25519Sign privateKey message)
  let digest ← validate "attestation_hash" sha256HexCheck digest
  (fun x => ⟨x.1, SecondHopAttestationFields.coherent_of_checked x⟩) <$>
    checked SecondHopAttestationFields.envelopeIsCoherent ⟨body, providerKey, digest, signature⟩

theorem SecondHopAttestation.exists_preimage (x : SecondHopAttestation P) :
    ∃ encoded, canonicalJsonBytes P ((SecondHopAttestationBody.codec P).encode x.body) =
        .ok encoded ∧
      P.sha256Hex (domainPreimage "SECOND-HOP-ATTESTATION-HASH" encoded) =
        x.attestationHash.1 := by
  have h := x.coherent
  simp only [SecondHopAttestationFields.envelopeIsCoherent, bind_eq_ok, ensure_eq_ok] at h
  obtain ⟨_, -, _, -, expected, hexpected, hdigest⟩ := h
  cases hhash : domainHash P "SECOND-HOP-ATTESTATION-HASH"
      ((SecondHopAttestationBody.codec P).encode x.body) with
  | error error =>
      rw [hhash] at hexpected
      cases hexpected
  | ok digest =>
      rw [hhash] at hexpected
      obtain rfl : digest = expected := Except.ok.inj hexpected
      rw [domainHash, bind_eq_ok] at hhash
      obtain ⟨encoded, hencoded, hsha⟩ := hhash
      exact ⟨encoded, hencoded, (Except.ok.inj hsha).trans hdigest⟩

/-- `Manifest.sign`, which verifies the pinned attestations first. -/
def Manifest.sign (body : ManifestBody P) (privateKey : Bytes) : Except PyError (Manifest P) := do
  Manifest.verifySecondHops body
  Sealed.sign (manifestSealing P) body privateKey

/-- The six classes that carry a signature. -/
inductive Artifact (P : Platform)
  | manifest (x : Manifest P)
  | secondHopAttestation (x : SecondHopAttestation P)
  | decision (x : Decision P)
  | killAcknowledgement (x : KillAcknowledgement P)
  | witnessCheckpoint (x : WitnessCheckpoint P)
  | receipt (x : Receipt P)

/-- Their bodies. Equal bodies are bodies of the same class. -/
inductive ArtifactBody (P : Platform)
  | manifest (body : ManifestBody P)
  | secondHopAttestation (body : SecondHopAttestationBody P)
  | decision (body : DecisionBody)
  | killAcknowledgement (body : KillAcknowledgementBody)
  | witnessCheckpoint (body : WitnessCheckpointBody)
  | receipt (body : ReceiptBody P)

namespace Artifact

def body : Artifact P → ArtifactBody P
  | .manifest x => .manifest x.body
  | .secondHopAttestation x => .secondHopAttestation x.body
  | .decision x => .decision x.body
  | .killAcknowledgement x => .killAcknowledgement x.body
  | .witnessCheckpoint x => .witnessCheckpoint x.body
  | .receipt x => .receipt x.body

def hashDomain : Artifact P → String
  | .manifest _ => (manifestSealing P).hashDomain
  | .secondHopAttestation _ => "SECOND-HOP-ATTESTATION-HASH"
  | .decision _ => decisionSealing.hashDomain
  | .killAcknowledgement _ => killAcknowledgementSealing.hashDomain
  | .witnessCheckpoint _ => witnessCheckpointSealing.hashDomain
  | .receipt _ => (receiptSealing P).hashDomain

def signatureDomain : Artifact P → String
  | .manifest _ => (manifestSealing P).signatureDomain
  | .secondHopAttestation _ => "SECOND-HOP-ATTESTATION-SIGNATURE"
  | .decision _ => decisionSealing.signatureDomain
  | .killAcknowledgement _ => killAcknowledgementSealing.signatureDomain
  | .witnessCheckpoint _ => witnessCheckpointSealing.signatureDomain
  | .receipt _ => (receiptSealing P).signatureDomain

def digest : Artifact P → Sha256Hex
  | .manifest x => x.digest
  | .secondHopAttestation x => x.attestationHash
  | .decision x => x.digest
  | .killAcknowledgement x => x.digest
  | .witnessCheckpoint x => x.digest
  | .receipt x => x.digest

def signature : Artifact P → Ed25519Signature
  | .manifest x => x.signature
  | .secondHopAttestation x => x.providerSignature
  | .decision x => x.signature
  | .killAcknowledgement x => x.signature
  | .witnessCheckpoint x => x.signature
  | .receipt x => x.signature

/-- The value under the digest. -/
def dump : Artifact P → Json
  | .manifest x => (ManifestBody.codec P).encode x.body
  | .secondHopAttestation x => (SecondHopAttestationBody.codec P).encode x.body
  | .decision x => decisionSealing.codec.encode x.body
  | .killAcknowledgement x => killAcknowledgementSealing.codec.encode x.body
  | .witnessCheckpoint x => witnessCheckpointSealing.codec.encode x.body
  | .receipt x => (receiptSealing P).codec.encode x.body

/-- It is what the `sign` method of its class returned for its body. -/
def SignedWith (privateKey : Bytes) : Artifact P → Prop
  | .manifest x => Manifest.sign x.body privateKey = .ok x
  | .secondHopAttestation x => SecondHopAttestation.sign x.body privateKey x.providerKey = .ok x
  | .decision x => Sealed.sign decisionSealing x.body privateKey = .ok x
  | .killAcknowledgement x => Sealed.sign killAcknowledgementSealing x.body privateKey = .ok x
  | .witnessCheckpoint x => Sealed.sign witnessCheckpointSealing x.body privateKey = .ok x
  | .receipt x => Sealed.sign (receiptSealing P) x.body privateKey = .ok x

/-- The `verify` method of its class accepts it under these octets of a public key. -/
def VerifiedUnder (publicKey : Bytes) : Artifact P → Prop
  | .manifest x => x.verify publicKey = .ok ()
  | .secondHopAttestation x => x.providerKey.asBytes = publicKey ∧ x.verify = .ok ()
  | .decision x => ∃ key : Ed25519PublicKey, key.asBytes = publicKey ∧ x.verify key = .ok ()
  | .killAcknowledgement x =>
      ∃ key : Ed25519PublicKey, key.asBytes = publicKey ∧ x.verify key = .ok ()
  | .witnessCheckpoint x =>
      ∃ key : Ed25519PublicKey, key.asBytes = publicKey ∧ x.verify key = .ok ()
  | .receipt x => ∃ key : Ed25519PublicKey, key.asBytes = publicKey ∧ x.verify key = .ok ()

/-- The octets that its digest is the hash of. -/
def preimage (x : Artifact P) : Bytes :=
  domainPreimage x.hashDomain ((canonicalJsonBytes P x.dump).toOption.getD [])

/-- The octets that its signature is for. -/
def message (x : Artifact P) : Bytes :=
  (signingMessage x.signatureDomain x.digest.1).toOption.getD []

theorem plain_hashDomain (x : Artifact P) : PlainDomain x.hashDomain := by
  cases x with
  | manifest => exact (by decide : PlainDomain "MANIFEST-HASH")
  | secondHopAttestation => exact (by decide : PlainDomain "SECOND-HOP-ATTESTATION-HASH")
  | decision => exact (by decide : PlainDomain decisionSealing.hashDomain)
  | killAcknowledgement => exact (by decide : PlainDomain killAcknowledgementSealing.hashDomain)
  | witnessCheckpoint => exact (by decide : PlainDomain witnessCheckpointSealing.hashDomain)
  | receipt => exact (by decide : PlainDomain "RECEIPT-HASH")

theorem plain_signatureDomain (x : Artifact P) : PlainDomain x.signatureDomain := by
  cases x with
  | manifest => exact (by decide : PlainDomain "MANIFEST-SIGNATURE")
  | secondHopAttestation => exact (by decide : PlainDomain "SECOND-HOP-ATTESTATION-SIGNATURE")
  | decision => exact (by decide : PlainDomain decisionSealing.signatureDomain)
  | killAcknowledgement =>
      exact (by decide : PlainDomain killAcknowledgementSealing.signatureDomain)
  | witnessCheckpoint => exact (by decide : PlainDomain witnessCheckpointSealing.signatureDomain)
  | receipt => exact (by decide : PlainDomain "RECEIPT-SIGNATURE")

theorem signingMessage_eq (x : Artifact P) :
    signingMessage x.signatureDomain x.digest.1 = .ok x.message := by
  have hhex : isSha256Hex x.digest.1 = true := by
    have hcheck := x.digest.2
    simp only [sha256HexCheck, matchPattern, ensure_eq_ok] at hcheck
    exact hcheck
  rw [message, signingMessage, ensure_of hhex]
  rfl

/-! ## Signing and verifying -/

theorem asBytes_of_fromBytes {keyId : OpaqueId} {value : Bytes} {signature : Ed25519Signature}
    (h : Ed25519Signature.fromBytes keyId value = .ok signature) : signature.asBytes = value := by
  by_cases hlength : value.length = 64
  · obtain ⟨signature', hok, -, hbytes⟩ := Ed25519Signature.fromBytes_eq_ok keyId hlength
    rw [hok, Except.ok.injEq] at h
    rw [← h, hbytes]
  · rw [Ed25519Signature.fromBytes, dif_neg hlength] at h
    cases h

theorem asBytes_of_sealed {β : Type} {F : Sealing β} {body : β} {privateKey : Bytes}
    {x : Sealed P F} (h : Sealed.sign F body privateKey = .ok x) :
    ∃ message, signingMessage F.signatureDomain x.digest.1 = .ok message ∧
      x.signature.asBytes = P.ed25519Sign privateKey message := by
  simp only [Sealed.sign, bind_eq_ok, Sealed.make, map_eq_ok] at h
  obtain ⟨digest, -, message, hmessage, signature, hsignature, digest', hdigest, y, hy, rfl⟩ := h
  have hsame : y.1 = (body, digest', signature) := checked_eq_ok hy
  refine ⟨message, ?_, ?_⟩
  · change signingMessage F.signatureDomain y.1.2.1.1 = _
    rw [hsame, validate_eq_ok hdigest]
    exact hmessage
  · change y.1.2.2.asBytes = _
    rw [hsame]
    exact asBytes_of_fromBytes hsignature

theorem asBytes_of_secondHop {body : SecondHopAttestationBody P} {privateKey : Bytes}
    {providerKey : Ed25519PublicKey} {x : SecondHopAttestation P}
    (h : SecondHopAttestation.sign body privateKey providerKey = .ok x) :
    ∃ message, signingMessage "SECOND-HOP-ATTESTATION-SIGNATURE" x.attestationHash.1 = .ok message ∧
      x.providerSignature.asBytes = P.ed25519Sign privateKey message := by
  simp only [SecondHopAttestation.sign, bind_eq_ok, map_eq_ok] at h
  obtain ⟨digest, -, message, hmessage, signature, hsignature, digest', hdigest, y, hy, rfl⟩ := h
  have hsame : y.1 = ⟨body, providerKey, digest', signature⟩ := checked_eq_ok hy
  refine ⟨message, ?_, ?_⟩
  · change signingMessage _ y.1.attestationHash.1 = _
    rw [hsame, validate_eq_ok hdigest]
    exact hmessage
  · change y.1.providerSignature.asBytes = _
    rw [hsame]
    exact asBytes_of_fromBytes hsignature

/-- The signature that `sign` makes is for the message of the artifact. -/
theorem asBytes_of_signedWith {x : Artifact P} {privateKey : Bytes} (h : x.SignedWith privateKey) :
    x.signature.asBytes = P.ed25519Sign privateKey x.message := by
  have hsealed {message : Bytes} (hmessage : signingMessage x.signatureDomain x.digest.1 = .ok message)
      (hbytes : x.signature.asBytes = P.ed25519Sign privateKey message) :
      x.signature.asBytes = P.ed25519Sign privateKey x.message := by
    rw [x.signingMessage_eq, Except.ok.injEq] at hmessage
    rw [hbytes, hmessage]
  cases x with
  | manifest x =>
      obtain ⟨_, -, hsign⟩ := bind_eq_ok.mp h
      obtain ⟨message, hmessage, hbytes⟩ := asBytes_of_sealed hsign
      exact hsealed hmessage hbytes
  | secondHopAttestation x =>
      obtain ⟨message, hmessage, hbytes⟩ := asBytes_of_secondHop h
      exact hsealed hmessage hbytes
  | decision x | killAcknowledgement x | witnessCheckpoint x | receipt x =>
      obtain ⟨message, hmessage, hbytes⟩ := asBytes_of_sealed h
      exact hsealed hmessage hbytes

theorem verified_of_sealed {β : Type} {F : Sealing β} {x : Sealed P F} {key : Ed25519PublicKey}
    (h : x.verify key = .ok ()) {message : Bytes}
    (hmessage : signingMessage F.signatureDomain x.digest.1 = .ok message) :
    P.ed25519Verify key.asBytes x.signature.asBytes message = true := by
  simp only [Sealed.verify, bind_unit_eq_ok] at h
  obtain ⟨-, h⟩ := h
  rw [hmessage, except_ok_bind, verifySignature, ensure_eq_ok] at h
  exact h

/-- Every `verify` method checks the signature against the message of the artifact. -/
theorem verified_of_verifiedUnder {x : Artifact P} {publicKey : Bytes}
    (h : x.VerifiedUnder publicKey) :
    P.ed25519Verify publicKey x.signature.asBytes x.message = true := by
  have hmessage := x.signingMessage_eq
  cases x with
  | manifest x =>
      obtain ⟨message, hsigning, h⟩ := bind_eq_ok.mp h
      obtain rfl : message = _ := Except.ok.inj (hsigning.symm.trans hmessage)
      obtain ⟨_, hverify, -⟩ := bind_eq_ok.mp h
      rw [verifySignature, ensure_eq_ok] at hverify
      exact hverify
  | secondHopAttestation x =>
      obtain ⟨rfl, h⟩ := h
      obtain ⟨message, hsigning, hverify⟩ := bind_eq_ok.mp h
      obtain rfl : message = _ := Except.ok.inj (hsigning.symm.trans hmessage)
      rw [verifySignature, ensure_eq_ok] at hverify
      exact hverify
  | decision x | killAcknowledgement x | witnessCheckpoint x | receipt x =>
      obtain ⟨key, rfl, h⟩ := h
      exact verified_of_sealed h hmessage

/-! ## Bodies -/

theorem exists_encoded (x : Artifact P) : ∃ encoded, canonicalJsonBytes P x.dump = .ok encoded ∧
    x.preimage = domainPreimage x.hashDomain encoded ∧ P.sha256Hex x.preimage = x.digest.1 := by
  have hhash {encoded : Bytes} (hencoded : canonicalJsonBytes P x.dump = .ok encoded)
      (hdigest : P.sha256Hex (domainPreimage x.hashDomain encoded) = x.digest.1) :
      ∃ encoded, canonicalJsonBytes P x.dump = .ok encoded ∧
        x.preimage = domainPreimage x.hashDomain encoded ∧ P.sha256Hex x.preimage = x.digest.1 := by
    have hpreimage : x.preimage = domainPreimage x.hashDomain encoded := by
      rw [preimage, hencoded]
      rfl
    exact ⟨encoded, hencoded, hpreimage, by rw [hpreimage, hdigest]⟩
  cases x with
  | secondHopAttestation x =>
      obtain ⟨encoded, hencoded, hdigest⟩ := x.exists_preimage
      exact hhash hencoded hdigest
  | manifest x | decision x | killAcknowledgement x | witnessCheckpoint x | receipt x =>
      obtain ⟨encoded, hencoded, hdigest⟩ := x.exists_preimage
      exact hhash hencoded hdigest

/-- The class and the body are what the signature domain and the dump say. -/
theorem body_eq {x y : Artifact P} {encoded : Bytes} (hdomain : x.signatureDomain = y.signatureDomain)
    (hx : canonicalJsonBytes P x.dump = .ok encoded)
    (hy : canonicalJsonBytes P y.dump = .ok encoded) : x.body = y.body := by
  cases x <;> cases y
  case manifest.manifest x y => exact congrArg ArtifactBody.manifest (eq_of_canonicalJsonBytes hx hy)
  case secondHopAttestation.secondHopAttestation x y =>
    exact congrArg ArtifactBody.secondHopAttestation (eq_of_canonicalJsonBytes hx hy)
  case decision.decision x y => exact congrArg ArtifactBody.decision (eq_of_canonicalJsonBytes hx hy)
  case killAcknowledgement.killAcknowledgement x y =>
    exact congrArg ArtifactBody.killAcknowledgement (eq_of_canonicalJsonBytes hx hy)
  case witnessCheckpoint.witnessCheckpoint x y =>
    exact congrArg ArtifactBody.witnessCheckpoint (eq_of_canonicalJsonBytes hx hy)
  case receipt.receipt x y => exact congrArg ArtifactBody.receipt (eq_of_canonicalJsonBytes hx hy)
  all_goals
    simp [signatureDomain, manifestSealing, decisionSealing, killAcknowledgementSealing,
      witnessCheckpointSealing, receiptSealing] at hdomain

end Artifact

/-! ## Separation -/

/-- A signature by the key verifies, among these messages, for the signed one only. -/
def Platform.VerifiesOnlySigned (P : Platform) (privateKey : Bytes) (messages : Set Bytes) : Prop :=
  ∀ m ∈ messages, ∀ m' ∈ messages,
    P.ed25519Verify (P.ed25519Public privateKey) (P.ed25519Sign privateKey m) m' = true → m' = m

/-- What domain names keep apart. -/
structure DomainSeparated (P : Platform) : Prop where
  /-- Equal digests have equal domains and values. -/
  digests : ∀ domain domain' v v' encoded encoded', PlainDomain domain → PlainDomain domain' →
    canonicalJsonBytes P v = .ok encoded → canonicalJsonBytes P v' = .ok encoded' →
    Set.InjOn P.sha256Hex {domainPreimage domain encoded, domainPreimage domain' encoded'} →
    domainHash P domain v = domainHash P domain' v' → domain = domain' ∧ Same v v'
  /-- Equal messages have equal domains and digests. -/
  messages : ∀ domain domain' (digest digest' : Sha256Hex), PlainDomain domain →
    PlainDomain domain' → signingMessage domain digest.1 = signingMessage domain' digest'.1 →
    domain = domain' ∧ digest = digest'
  /-- A signature of one artifact is accepted for no other class and no other body. -/
  signatures : ∀ (x y : Artifact P) privateKey, x.SignedWith privateKey →
    y.signature.asBytes = x.signature.asBytes → y.VerifiedUnder (P.ed25519Public privateKey) →
    Set.InjOn P.sha256Hex {x.preimage, y.preimage} →
    P.VerifiesOnlySigned privateKey {x.message, y.message} → x.body = y.body

theorem domainSeparated (P : Platform) : DomainSeparated P where
  digests domain domain' v v' encoded encoded' hplain hplain' hv hv' hinj heq := by
    rw [domainHash, domainHash, hv, hv', except_ok_bind, except_ok_bind] at heq
    have hpreimage := hinj (Set.mem_insert _ _) (Set.mem_insert_of_mem _ rfl) (Except.ok.inj heq)
    obtain ⟨hdomain, hencoded⟩ := domainPreimage_inj_of_plain hplain hplain' hpreimage
    exact ⟨hdomain, (canonicalJsonBytes_eq_iff hv hv').mp hencoded⟩
  messages domain domain' digest digest' hplain hplain' heq := by
    have hhex : isSha256Hex digest.1 = true := by
      have hcheck := digest.2
      simp only [sha256HexCheck, matchPattern, ensure_eq_ok] at hcheck
      exact hcheck
    obtain ⟨message, hmessage⟩ : ∃ message, signingMessage domain digest.1 = .ok message :=
      ⟨_, by rw [signingMessage, ensure_of hhex]; rfl⟩
    obtain ⟨hdomain, hdigest⟩ := signingMessage_inj hplain hplain' hmessage (heq ▸ hmessage)
    exact ⟨hdomain, Subtype.ext hdigest⟩
  signatures x y privateKey hsigned hsame hverified hinj honly := by
    have hverify := Artifact.verified_of_verifiedUnder hverified
    rw [hsame, Artifact.asBytes_of_signedWith hsigned] at hverify
    have hmessage : y.message = x.message :=
      honly _ (Set.mem_insert _ _) _ (Set.mem_insert_of_mem _ rfl) hverify
    obtain ⟨hdomain, hdigest⟩ := signingMessage_inj x.plain_signatureDomain y.plain_signatureDomain
      x.signingMessage_eq (by rw [y.signingMessage_eq, hmessage])
    obtain ⟨encoded, hencoded, hpreimage, hhash⟩ := x.exists_encoded
    obtain ⟨encoded', hencoded', hpreimage', hhash'⟩ := y.exists_encoded
    have heq := hinj (Set.mem_insert _ _) (Set.mem_insert_of_mem _ rfl)
      (by rw [hhash, hhash', hdigest] : P.sha256Hex x.preimage = P.sha256Hex y.preimage)
    rw [hpreimage, hpreimage'] at heq
    obtain ⟨-, rfl⟩ := domainPreimage_inj_of_plain x.plain_hashDomain y.plain_hashDomain heq
    exact Artifact.body_eq hdomain hencoded hencoded'

end Containment
