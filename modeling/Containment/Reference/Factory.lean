/-
# The reference runtime

The manifest and the wiring of the reference factory, on the reference platform and
with fixed keys. Everything concrete in this development runs here.
-/

import Containment.Reference.Platform
import Containment.Runtime.Executor

namespace Containment

open Json

namespace Reference

abbrev platform : Platform := referencePlatform

/-! ## Keys -/

/-- One private key for each of the four trust domains. -/
structure KeyBundle where
  operator : Bytes
  gateway : Bytes
  supervisor : Bytes
  witness : Bytes

def keys : KeyBundle :=
  ⟨List.replicate 32 1, List.replicate 32 2, List.replicate 32 3, List.replicate 32 4⟩

theorem length_publicOctets (key : Bytes) : (publicOctets key).length = 32 := by
  simp [publicOctets]

/-- `_public`. -/
def publicKey (key : Bytes) (keyId : OpaqueId) : Ed25519PublicKey :=
  ⟨keyId, b64urlEncode (publicOctets key), b64urlCheck_encode (length_publicOctets key) (by decide)⟩

theorem asBytes_publicKey (key : Bytes) (keyId : OpaqueId) :
    (publicKey key keyId).asBytes = platform.ed25519Public key := by
  have hdecode : b64urlDecode (b64urlEncode (publicOctets key)) 32 = .ok (publicOctets key) := by
    have hne : publicOctets key ≠ [] :=
      List.ne_nil_of_length_pos (by rw [length_publicOctets]; decide)
    rw [← b64urlDecode_b64urlEncode hne, length_publicOctets]
  simp only [Ed25519PublicKey.asBytes, B64Url.asBytes, publicKey, hdecode]
  rfl

def demoSpkiPin : B64Url 32 :=
  ⟨b64urlEncode (List.replicate 32 80), b64urlCheck_encode (by decide) (by decide)⟩

/-! ## The manifest -/

def issued : UtcTime := ⟨2026, 7, 1, 11, 59, 59, 0, by decide, by decide, by decide, by decide⟩
def now : UtcTime := ⟨2026, 7, 1, 12, 0, 0, 0, by decide, by decide, by decide, by decide⟩
def expires : UtcTime := ⟨2026, 7, 1, 13, 0, 0, 0, by decide, by decide, by decide, by decide⟩

def timestamp (t : UtcTime) : UtcTimestamp := ⟨String.ofList t.chars, validateTimestamp_chars t⟩

def host : Host platform := ⟨"packages.example.test", by decide⟩

def rule : EgressRule platform where
  ruleId := ⟨"package-read", by decide⟩
  host := host
  port := ⟨443, by decide⟩
  methods := ⟨[.post], by decide⟩
  pathPrefixes := ⟨[⟨"/v1/packages", by decide⟩], by decide⟩
  resolvedIpCidrs := ⟨[⟨"203.0.113.0/24", by decide⟩], by decide⟩
  tlsSpkiSha256 := ⟨[demoSpkiPin], by decide⟩
  maxRequests := ⟨10000, by decide⟩
  maxRequestBytes := ⟨65536, by decide⟩
  maxResponseBytes := ⟨1048576, by decide⟩
  closed := by decide

def criteria : KillCriteria where
  maxRuntimeMs := ⟨3600000, by decide⟩
  maxTotalEvents := ⟨40000, by decide⟩
  maxAdmittedRequests := ⟨10000, by decide⟩
  maxInflightRequests := ⟨64, by decide⟩
  maxRequestsPerWindow := ⟨128, by decide⟩
  rateWindowMs := ⟨1000, by decide⟩
  maxQueuedEvents := ⟨1024, by decide⟩
  maxEventPayloadBytes := ⟨262144, by decide⟩
  maxTotalEgressBytes := ⟨8388608, by decide⟩
  supervisorKillLatencySlaMs := ⟨1000, by decide⟩
  coherent := by decide

def canaryGrant : CredentialGrant platform where
  credentialId := ⟨"credential:canary", by decide⟩
  brokerRef := ⟨"broker:canary", by decide⟩
  audience := host
  allowedRuleIds := ⟨[⟨"package-read", by decide⟩], by decide⟩
  scopes := ⟨["tripwire"], by decide⟩
  expiresAt := timestamp expires
  maxUses := ⟨1, by decide⟩
  isCanary := true

def packageGrant : CredentialGrant platform where
  credentialId := ⟨"credential:package-read", by decide⟩
  brokerRef := ⟨"broker:package-read", by decide⟩
  audience := host
  allowedRuleIds := ⟨[⟨"package-read", by decide⟩], by decide⟩
  scopes := ⟨["packages:read"], by decide⟩
  expiresAt := timestamp expires
  maxUses := ⟨10000, by decide⟩
  isCanary := false

def manifestBody : ManifestBody platform where
  manifestId := ⟨"manifest:demo", by decide⟩
  runId := ⟨"run:demo", by decide⟩
  issuedAt := timestamp issued
  notBefore := timestamp issued
  expiresAt := timestamp expires
  operatorKeyId := ⟨"operator:demo", by decide⟩
  gatewayKey := publicKey keys.gateway ⟨"gateway:demo", by decide⟩
  supervisorKey := publicKey keys.supervisor ⟨"supervisor:demo", by decide⟩
  witnessKey := publicKey keys.witness ⟨"witness:demo", by decide⟩
  allowedEgress := ⟨[rule], by decide⟩
  credentials := ⟨[canaryGrant, packageGrant], by decide⟩
  secondHops := ⟨[], by decide⟩
  killCriteria := criteria
  coherent := by decide

def operatorKey : Ed25519PublicKey := publicKey keys.operator manifestBody.operatorKeyId

theorem canonicalJson_manifestBody :
    ∃ text, canonicalJson platform ((ManifestBody.codec platform).encode manifestBody) = .ok text := by
  have hvalid : (validateJsonValue platform "$" 0 maxJsonNodes
      ((ManifestBody.codec platform).encode manifestBody)).toOption.isSome = true := by
    decide +kernel
  have hspan : ((ManifestBody.codec platform).encode manifestBody).span ≤ 100000 := by
    decide +kernel
  cases hbudget : validateJsonValue platform "$" 0 maxJsonNodes
      ((ManifestBody.codec platform).encode manifestBody) with
  | error error =>
      rw [hbudget] at hvalid
      cases hvalid
  | ok budget =>
      obtain ⟨hheight, -, hadmissible, -⟩ := (validateJsonValue_eq_ok _ _ _ _ _).mp hbudget
      rw [Nat.zero_add] at hheight
      exact ⟨_, Fits.canonicalJson ⟨hadmissible, hheight, hspan⟩ le_rfl le_rfl⟩

/-- The factory's manifest, signed by the operator. -/
structure Signed (manifest : Manifest platform) : Prop where
  body : manifest.body = manifestBody
  verified : manifest.verify operatorKey.asBytes = .ok ()

/-- The body of the manifest can be signed with any key. -/
theorem exists_signedBy (privateKey : Bytes) : ∃ manifest : Manifest platform,
    manifest.body = manifestBody ∧
      manifest.verify (publicKey privateKey manifestBody.operatorKeyId).asBytes = .ok () := by
  obtain ⟨text, htext⟩ := canonicalJson_manifestBody
  obtain ⟨manifest, -, hbody, hverify⟩ := Sealed.exists_sign referencePlatform_lawful
    (F := manifestSealing platform) htext privateKey
  have hkey := hverify (publicKey privateKey manifestBody.operatorKeyId) rfl (asBytes_publicKey _ _)
  refine ⟨manifest, hbody, ?_⟩
  rw [Sealed.verify, bind_unit_eq_ok] at hkey
  rw [Manifest.verify, bind_eq_ok]
  obtain ⟨message, hmessage, hsignature⟩ := bind_eq_ok.mp hkey.2
  refine ⟨message, hmessage, ?_⟩
  rw [hsignature, except_ok_bind, Manifest.verifySecondHops, hbody]
  rfl

theorem exists_signed : ∃ manifest : Manifest platform, Signed manifest := by
  obtain ⟨manifest, hbody, hverified⟩ := exists_signedBy keys.operator
  exact ⟨manifest, hbody, hverified⟩

namespace Signed

variable {manifest : Manifest platform} (h : Signed manifest)
include h

theorem gateway_public :
    manifest.body.gatewayKey.asBytes = platform.ed25519Public keys.gateway := by
  rw [h.body]
  exact asBytes_publicKey _ _

theorem supervisor_public :
    manifest.body.supervisorKey.asBytes = platform.ed25519Public keys.supervisor := by
  rw [h.body]
  exact asBytes_publicKey _ _

theorem witness_public :
    manifest.body.witnessKey.asBytes = platform.ed25519Public keys.witness := by
  rw [h.body]
  exact asBytes_publicKey _ _

theorem operator_keyId : operatorKey.keyId = manifest.body.operatorKeyId := by
  rw [h.body]
  rfl

end Signed

/-! ## The runtime -/

/-- What the factory wires together. -/
def deployment (manifest : Manifest platform) : Deployment platform where
  manifest := manifest
  gatewayKey := keys.gateway
  supervisorKey := keys.supervisor
  gatewayInstanceId := ⟨"gateway-instance:demo", by decide⟩
  supervisorInstanceId := ⟨"supervisor-instance:demo", by decide⟩
  producerInstanceId := ⟨"gateway-instance:demo", by decide⟩
  maxEvents := 40000
  authorizationTtlNs := 1000000000
  secrets ref :=
    if ref = "broker:package-read" then some (utf8 "demo-package-secret")
    else if ref = "broker:canary" then some (utf8 "never-release-canary")
    else none
  startedAt := .aware now
  startedMonotonicNs := 1000

/-- A witness that has issued nothing. -/
def witness : TransparencyWitness platform := ⟨keys.witness, manifestBody.witnessKey.keyId, ∅⟩

end Reference

end Containment
