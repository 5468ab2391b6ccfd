/-
# Keys of the four roles

The operator, the gateway, the supervisor and the witness each sign under a key of their
own. The manifest's validator compares the identifiers of the four keys, and verification
uses the octets. So the octets differ if nobody registers one key under two identifiers,
which the validator leaves to the operator.
-/

import Containment.Auditor.Acceptance
import Containment.Reference.Bundle

namespace Containment

variable {P : Platform}

/-- A validated text is the encoding of its octets. -/
theorem B64Url.b64urlEncode_asBytes {length : ℕ} (x : B64Url length) :
    b64urlEncode x.asBytes = x.1 := by
  have hcheck := x.2
  rw [b64urlCheck, bind_eq_ok] at hcheck
  obtain ⟨bytes, hbytes, -⟩ := hcheck
  rw [B64Url.asBytes, hbytes]
  simp only [b64urlDecode, bind_unit_eq_ok] at hbytes
  obtain ⟨-, hbytes⟩ := hbytes
  split at hbytes
  · cases hbytes
  · simp only [bind_unit_eq_ok, ensure_eq_ok, except_pure, Except.ok.injEq] at hbytes
    obtain ⟨-, hencode, rfl⟩ := hbytes
    exact hencode

theorem B64Url.asBytes_inj {length : ℕ} {x y : B64Url length} : x.asBytes = y.asBytes ↔ x = y := by
  refine ⟨fun h => Subtype.ext ?_, congrArg _⟩
  rw [← x.b64urlEncode_asBytes, ← y.b64urlEncode_asBytes, h]

/-- The keys under which the signatures of a bundle are verified: the operator's, which comes
from outside, and the three that the manifest pins. -/
def roleKeys (manifest : Manifest P) (operatorPublicKey : Ed25519PublicKey) :
    List Ed25519PublicKey :=
  [operatorPublicKey, manifest.body.gatewayKey, manifest.body.supervisorKey,
    manifest.body.witnessKey]

/-- The four roles verify under different octets, so no private key belongs to two of them. -/
def KeysIndependent (manifest : Manifest P) (operatorPublicKey : Ed25519PublicKey) : Prop :=
  ((roleKeys manifest operatorPublicKey).map Ed25519PublicKey.asBytes).Nodup

/-- No `value` is registered under two identifiers. -/
def OneIdentifierEach (keys : List Ed25519PublicKey) : Prop :=
  ∀ key ∈ keys, ∀ key' ∈ keys, key.value = key'.value → key.keyId = key'.keyId

/-- Acceptance gives the four roles different identifiers. -/
theorem nodup_keyIds_of_verifyBundle {manifest : Manifest P} {receipt : Receipt P}
    {lines : List Line} {operatorPublicKey : Ed25519PublicKey} {report : VerificationReport}
    (hok : verifyBundle manifest receipt lines operatorPublicKey = .ok report) :
    ((roleKeys manifest operatorPublicKey).map Ed25519PublicKey.keyId).Nodup := by
  have hcoherent := manifest.body.coherent
  simp only [ManifestBodyFields.policyIsCoherent, bind_eq_ok, Unique.exists_iff, ensure_eq_ok]
    at hcoherent
  obtain ⟨-, -, hdistinct, -⟩ := hcoherent
  rw [verifyBundle, bind_unit_eq_ok, ensure_eq_ok] at hok
  rw [roleKeys, List.map_cons, hok.1]
  exact hdistinct

/-- Keys with different identifiers have different octets exactly when no `value` has two
identifiers. -/
theorem nodup_asBytes_iff {keys : List Ed25519PublicKey}
    (hids : (keys.map Ed25519PublicKey.keyId).Nodup) :
    (keys.map Ed25519PublicKey.asBytes).Nodup ↔ OneIdentifierEach keys := by
  have hkeys : keys.Nodup := hids.of_map _
  rw [List.nodup_map_iff_inj_on hkeys]
  constructor
  · intro hinj key hkey key' hkey' hvalue
    rw [hinj key hkey key' hkey' (congrArg B64Url.asBytes hvalue)]
  · intro hone key hkey key' hkey' hbytes
    have hid := hone key hkey key' hkey' (B64Url.asBytes_inj.mp hbytes)
    exact List.inj_on_of_nodup_map hids hkey hkey' hid

/-- An accepted bundle has independent keys exactly when none of the four keys' `value` fields
stands under two identifiers. -/
theorem keysIndependent_iff (P : Platform) (manifest : Manifest P) (receipt : Receipt P)
    (lines : List Line) (operatorPublicKey : Ed25519PublicKey) (report : VerificationReport)
    (hok : verifyBundle manifest receipt lines operatorPublicKey = .ok report) :
    KeysIndependent manifest operatorPublicKey ↔
      OneIdentifierEach (roleKeys manifest operatorPublicKey) :=
  nodup_asBytes_iff (nodup_keyIds_of_verifyBundle hok)

open Reference

/-- A manifest that is signed with the witness's key, under the operator's identifier. -/
theorem operator_shares_witness_key :
    ¬ ∀ (P : Platform) (manifest : Manifest P) (receipt : Receipt P) (lines : List Line)
      (operatorPublicKey : Ed25519PublicKey) (report : VerificationReport),
      verifyBundle manifest receipt lines operatorPublicKey = .ok report →
      KeysIndependent manifest operatorPublicKey := by
  intro hclaim
  obtain ⟨manifest, hbody, hverified⟩ := exists_signedBy keys.witness
  have hkey : (publicKey keys.witness manifestBody.operatorKeyId).keyId =
      manifest.body.operatorKeyId := by
    rw [hbody]
    rfl
  obtain ⟨receipt, lines, _, report, hreport, -⟩ := exists_accepted_violation hbody hkey hverified
  have hdistinct := hclaim _ _ _ _ _ _ hreport
  have hwitness : manifest.body.witnessKey.asBytes =
      (publicKey keys.witness manifestBody.operatorKeyId).asBytes := by
    rw [hbody, asBytes_publicKey]
    exact asBytes_publicKey _ _
  simp [KeysIndependent, roleKeys, hwitness] at hdistinct

/-- The reference bundle has four different keys. -/
theorem keysIndependent_reference : ∃ (manifest : Manifest platform) (receipt : Receipt platform)
    (lines : List Line) (report : VerificationReport),
    verifyBundle manifest receipt lines operatorKey = .ok report ∧
      KeysIndependent manifest operatorKey := by
  obtain ⟨manifest, hm⟩ := exists_signed
  obtain ⟨receipt, lines, _, report, hreport, -⟩ :=
    exists_accepted_violation hm.body hm.operator_keyId hm.verified
  refine ⟨manifest, receipt, lines, report, hreport,
    (keysIndependent_iff _ _ _ _ _ _ hreport).mpr ?_⟩
  rw [OneIdentifierEach, roleKeys, hm.body]
  decide +kernel

end Containment
