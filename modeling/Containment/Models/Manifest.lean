/-
# The operator manifest

What the operator signs before a run: the keys of the other parties, the egress
rules, the credential grants, the attestations of further hops, and the limits
past which the run is contained. A manifest value carries the proof that its
lists are canonical, its policy coherent and its digest the digest of its body.
-/

import Containment.Models.Envelope

namespace Containment

open Json

inductive HttpMethod
  | delete
  | get
  | head
  | patch
  | post
  | put
  deriving DecidableEq, Repr

def HttpMethod.value : HttpMethod → String
  | .delete => "DELETE"
  | .get => "GET"
  | .head => "HEAD"
  | .patch => "PATCH"
  | .post => "POST"
  | .put => "PUT"

def HttpMethod.codec : Codec PyError HttpMethod :=
  .enum (.validationError ""
      "Input should be 'DELETE', 'GET', 'HEAD', 'PATCH', 'POST' or 'PUT'")
    [.delete, .get, .head, .patch, .post, .put] HttpMethod.value (by intro x; cases x <;> rfl)

/-! ## Canonical lists -/

/-- `Field(min_length=1)`. -/
def minLength {α : Type} (values : List α) : Except PyError Unit :=
  ensure (0 < values.length)
    (.validationError "" "Tuple should have at least 1 item after validation, not 0")

def methodsCheck (values : List HttpMethod) : Except PyError Unit := do
  minLength values
  sortedUnique (values.map HttpMethod.value) "methods"

/-- A list of validated texts in canonical order. -/
def stringListCheck {check : String → Except PyError Unit} (label : String)
    (values : List { s : String // check s = .ok () }) : Except PyError Unit :=
  sortedUnique (values.map Subtype.val) label

def nonEmptyListCheck {check : String → Except PyError Unit} (label : String)
    (values : List { s : String // check s = .ok () }) : Except PyError Unit := do
  minLength values
  stringListCheck label values

/-- A tuple of validated items that passes a check as a whole. -/
def tupleField {α : Type} (c : Codec PyError α) (check : List α → Except PyError Unit) :
    Codec PyError { values : List α // check values = .ok () } :=
  (c.list Codecs.notArray).refine check

variable (P : Platform)

/-! ## Egress rules -/

structure EgressRuleFields where
  ruleId : OpaqueId
  host : Host P
  port : Port
  methods : { values : List HttpMethod // methodsCheck values = .ok () }
  pathPrefixes : { values : List (CanonicalPathPrefix P) //
    nonEmptyListCheck "manifest lists" values = .ok () }
  resolvedIpCidrs : { values : List (CanonicalCidr P) //
    nonEmptyListCheck "manifest lists" values = .ok () }
  tlsSpkiSha256 : { values : List (B64Url 32) // stringListCheck "manifest lists" values = .ok () }
  maxRequests : SafePositiveInt
  maxRequestBytes : SafePositiveInt
  maxResponseBytes : SafePositiveInt

variable {P} in
def EgressRuleFields.tlsPolicyIsClosed (rule : EgressRuleFields P) : Except PyError Unit :=
  ensure (rule.tlsSpkiSha256.1 ≠ [])
    (reject "HTTPS rules require at least one TLS SPKI SHA-256 pin")

structure EgressRule extends EgressRuleFields P where
  closed : toEgressRuleFields.tlsPolicyIsClosed = .ok ()

def EgressRuleFields.record : Record PyError (EgressRuleFields P) :=
  ((Codecs.required "rule_id" Codecs.opaqueId).and <|
    (Codecs.defaulted "scheme" (Codecs.literal "https") ()).and <|
    (Codecs.required "host" (Codecs.host P)).and <|
    (Codecs.required "port" Codecs.port).and <|
    (Codecs.required "methods" (tupleField HttpMethod.codec methodsCheck)).and <|
    (Codecs.required "path_prefixes"
      (tupleField (Codecs.pathPrefix P) (nonEmptyListCheck "manifest lists"))).and <|
    (Codecs.required "resolved_ip_cidrs"
      (tupleField (Codecs.cidr P) (nonEmptyListCheck "manifest lists"))).and <|
    (Codecs.defaulted "tls_spki_sha256"
      (tupleField (b64urlField 32) (stringListCheck "manifest lists"))
        ⟨[], by decide⟩).and <|
    (Codecs.required "max_requests" Codecs.safePositiveInt).and <|
    (Codecs.required "max_request_bytes" Codecs.safePositiveInt).and <|
    Codecs.required "max_response_bytes" Codecs.safePositiveInt).iso
    (fun (ruleId, _, host, port, methods, paths, cidrs, pins, requests, request, response) =>
      ⟨ruleId, host, port, methods, paths, cidrs, pins, requests, request, response⟩)
    (fun x => (x.ruleId, (), x.host, x.port, x.methods, x.pathPrefixes, x.resolvedIpCidrs,
      x.tlsSpkiSha256, x.maxRequests, x.maxRequestBytes, x.maxResponseBytes))
    fun _ => rfl

def EgressRule.codec : Codec PyError (EgressRule P) :=
  Codecs.model (((EgressRuleFields.record P).refine EgressRuleFields.tlsPolicyIsClosed).iso
    (fun x => ⟨x.1, x.2⟩) (fun x => ⟨x.toEgressRuleFields, x.closed⟩) fun _ => rfl)
    rfl

/-! ## Credential grants -/

def grantsAreCanonical (values : List String) : Except PyError Unit := do
  values.forM fun value => requireNfc P value "credential grant value"
  sortedUnique values "credential grant values"

def allowedRuleIdsCheck (values : List OpaqueId) : Except PyError Unit := do
  minLength values
  grantsAreCanonical P (values.map Subtype.val)

/-- A capability reference. Secret material is never part of a manifest. -/
structure CredentialGrant where
  credentialId : OpaqueId
  brokerRef : OpaqueId
  audience : Host P
  allowedRuleIds : { values : List OpaqueId // allowedRuleIdsCheck P values = .ok () }
  scopes : { values : List String // grantsAreCanonical P values = .ok () }
  expiresAt : UtcTimestamp
  maxUses : SafePositiveInt
  isCanary : Bool

def CredentialGrant.codec : Codec PyError (CredentialGrant P) :=
  Codecs.model (((Codecs.required "credential_id" Codecs.opaqueId).and <|
    (Codecs.required "broker_ref" Codecs.opaqueId).and <|
    (Codecs.required "audience" (Codecs.host P)).and <|
    (Codecs.required "allowed_rule_ids"
      (tupleField Codecs.opaqueId (allowedRuleIdsCheck P))).and <|
    (Codecs.defaulted "scopes" (tupleField Codecs.text (grantsAreCanonical P))
      ⟨[], rfl⟩).and <|
    (Codecs.required "expires_at" Codecs.utcTimestamp).and <|
    (Codecs.required "max_uses" Codecs.safePositiveInt).and <|
    Codecs.defaulted "is_canary" Codecs.canonicalBool false).iso
    (fun (credential, broker, audience, rules, scopes, expires, uses, canary) =>
      ⟨credential, broker, audience, rules, scopes, expires, uses, canary⟩)
    (fun x => (x.credentialId, x.brokerRef, x.audience, x.allowedRuleIds, x.scopes, x.expiresAt,
      x.maxUses, x.isCanary))
    fun _ => rfl) rfl

/-! ## Kill criteria -/

/-- The limits of a run. `deny_is_kill` is always true and only written. -/
structure KillCriteriaFields where
  maxRuntimeMs : SafePositiveInt
  maxTotalEvents : SafePositiveInt
  maxAdmittedRequests : SafePositiveInt
  maxInflightRequests : SafePositiveInt
  maxRequestsPerWindow : SafePositiveInt
  rateWindowMs : SafePositiveInt
  maxQueuedEvents : SafePositiveInt
  maxEventPayloadBytes : SafePositiveInt
  maxTotalEgressBytes : SafePositiveInt
  supervisorKillLatencySlaMs : SafePositiveInt

def KillCriteriaFields.capacitiesAreCoherent (c : KillCriteriaFields) : Except PyError Unit := do
  ensure (c.maxEventPayloadBytes.1 ≤ Containment.maxEventPayloadBytes)
    (reject "max_event_payload_bytes exceeds protocol hard limit 1048576")
  ensure (c.maxRequestsPerWindow.1 ≤ c.maxAdmittedRequests.1)
    (reject "max_requests_per_window cannot exceed max_admitted_requests")
  ensure (c.maxInflightRequests.1 ≤ c.maxAdmittedRequests.1)
    (reject "max_inflight_requests cannot exceed max_admitted_requests")
  ensure (c.maxQueuedEvents.1 ≤ c.maxTotalEvents.1)
    (reject "max_queued_events cannot exceed max_total_events")

structure KillCriteria extends KillCriteriaFields where
  coherent : toKillCriteriaFields.capacitiesAreCoherent = .ok ()

def KillCriteriaFields.record : Record PyError KillCriteriaFields :=
  ((Codecs.defaulted "deny_is_kill" Codecs.canonicalTrue ()).and <|
    (Codecs.required "max_runtime_ms" Codecs.safePositiveInt).and <|
    (Codecs.required "max_total_events" Codecs.safePositiveInt).and <|
    (Codecs.required "max_admitted_requests" Codecs.safePositiveInt).and <|
    (Codecs.required "max_inflight_requests" Codecs.safePositiveInt).and <|
    (Codecs.required "max_requests_per_window" Codecs.safePositiveInt).and <|
    (Codecs.required "rate_window_ms" Codecs.safePositiveInt).and <|
    (Codecs.required "max_queued_events" Codecs.safePositiveInt).and <|
    (Codecs.required "max_event_payload_bytes" Codecs.safePositiveInt).and <|
    (Codecs.required "max_total_egress_bytes" Codecs.safePositiveInt).and <|
    Codecs.required "supervisor_kill_latency_sla_ms" Codecs.safePositiveInt).iso
    (fun (_, runtime, events, admitted, inflight, perWindow, window, queued, payload, egress,
        sla) =>
      ⟨runtime, events, admitted, inflight, perWindow, window, queued, payload, egress, sla⟩)
    (fun x => ((), x.maxRuntimeMs, x.maxTotalEvents, x.maxAdmittedRequests,
      x.maxInflightRequests, x.maxRequestsPerWindow, x.rateWindowMs, x.maxQueuedEvents,
      x.maxEventPayloadBytes, x.maxTotalEgressBytes, x.supervisorKillLatencySlaMs))
    fun _ => rfl

def KillCriteria.codec : Codec PyError KillCriteria :=
  Codecs.model ((KillCriteriaFields.record.refine KillCriteriaFields.capacitiesAreCoherent).iso
    (fun x => ⟨x.1, x.2⟩) (fun x => ⟨x.toKillCriteriaFields, x.coherent⟩) fun _ => rfl)
    rfl

/-! ## Second-hop attestations -/

/-- Provider assertions plus immutable external evidence references. The nine
assertions are always true and only written. -/
structure SecondHopAttestationBodyFields where
  runId : OpaqueId
  providerId : OpaqueId
  providerKeyId : OpaqueId
  endpointHost : Host P
  accountableOrg : OpaqueId
  responsibleOperator : OpaqueId
  securityContact : { s : String // nfcCheck P "second-hop security contact" s = .ok () }
  issuedAt : UtcTimestamp
  expiresAt : UtcTimestamp
  evidenceSha256 : List Sha256Hex

variable {P} in
def SecondHopAttestationBodyFields.evidenceIsFreshAndPresent
    (body : SecondHopAttestationBodyFields P) : Except PyError Unit := do
  ensure (textLt body.issuedAt.1 body.expiresAt.1)
    (reject "second-hop evidence must expire after issue")
  ensure (body.evidenceSha256 ≠ [])
    (reject "second-hop evidence requires at least one digest")
  sortedUnique (body.evidenceSha256.map Subtype.val) "second-hop evidence digests"

structure SecondHopAttestationBody extends SecondHopAttestationBodyFields P where
  fresh : toSecondHopAttestationBodyFields.evidenceIsFreshAndPresent = .ok ()

/-- The assertions a provider has to make. -/
def secondHopAssertions : Record PyError Unit :=
  ((Codecs.required "authenticated" Codecs.canonicalTrue).and <|
    (Codecs.required "non_root_workload" Codecs.canonicalTrue).and <|
    (Codecs.required "tenant_isolation" Codecs.canonicalTrue).and <|
    (Codecs.required "default_deny_egress" Codecs.canonicalTrue).and <|
    (Codecs.required "no_ambient_secrets" Codecs.canonicalTrue).and <|
    (Codecs.required "bounded_requests" Codecs.canonicalTrue).and <|
    (Codecs.required "abuse_monitoring" Codecs.canonicalTrue).and <|
    (Codecs.required "automatic_containment_authorized" Codecs.canonicalTrue).and <|
    Codecs.required "evidence_exchange_required" Codecs.canonicalTrue).iso
    (fun _ => ()) (fun _ => ((), (), (), (), (), (), (), (), ())) fun _ => rfl

def SecondHopAttestationBodyFields.record :
    Record PyError (SecondHopAttestationBodyFields P) :=
  ((Codecs.required "run_id" Codecs.opaqueId).and <|
    (Codecs.required "provider_id" Codecs.opaqueId).and <|
    (Codecs.required "provider_key_id" Codecs.opaqueId).and <|
    (Codecs.required "endpoint_host" (Codecs.host P)).and <|
    (Codecs.required "accountable_org" Codecs.opaqueId).and <|
    (Codecs.required "responsible_operator" Codecs.opaqueId).and <|
    (Codecs.required "security_contact"
      (.ofString Codecs.notString (nfcCheck P "second-hop security contact"))).and <|
    (Codecs.required "issued_at" Codecs.utcTimestamp).and <|
    (Codecs.required "expires_at" Codecs.utcTimestamp).and <|
    (Codecs.required "evidence_sha256" (Codecs.sha256Hex.list Codecs.notArray)).and
    secondHopAssertions).iso
    (fun (run, provider, key, host, org, operator, contact, issued, expires, evidence, _) =>
      ⟨run, provider, key, host, org, operator, contact, issued, expires, evidence⟩)
    (fun x => (x.runId, x.providerId, x.providerKeyId, x.endpointHost, x.accountableOrg,
      x.responsibleOperator, x.securityContact, x.issuedAt, x.expiresAt, x.evidenceSha256, ()))
    fun _ => rfl

def SecondHopAttestationBody.codec : Codec PyError (SecondHopAttestationBody P) :=
  Codecs.model (((SecondHopAttestationBodyFields.record P).refine
      SecondHopAttestationBodyFields.evidenceIsFreshAndPresent).iso
    (fun x => ⟨x.1, x.2⟩) (fun x => ⟨x.toSecondHopAttestationBodyFields, x.fresh⟩)
    fun _ => rfl) rfl

structure SecondHopAttestationFields where
  body : SecondHopAttestationBody P
  providerKey : Ed25519PublicKey
  attestationHash : Sha256Hex
  providerSignature : Ed25519Signature

variable {P} in
/-- Unlike the other envelopes this one names its key, and checks it first. -/
def SecondHopAttestationFields.envelopeIsCoherent (x : SecondHopAttestationFields P) :
    Except PyError Unit := do
  ensure (x.providerKey.keyId = x.body.providerKeyId)
    (reject "second-hop provider key ID does not match body")
  ensure (x.providerSignature.keyId = x.body.providerKeyId)
    (reject "second-hop signature key ID does not match body")
  let expected ← (domainHash P "SECOND-HOP-ATTESTATION-HASH"
    ((SecondHopAttestationBody.codec P).encode x.body)).mapError (locate "")
  ensure (expected = x.attestationHash.1)
    (reject "second-hop attestation hash does not match body")

structure SecondHopAttestation extends SecondHopAttestationFields P where
  coherent : toSecondHopAttestationFields.envelopeIsCoherent = .ok ()

def SecondHopAttestation.codec : Codec PyError (SecondHopAttestation P) :=
  Codecs.model ((((Codecs.required "body" (SecondHopAttestationBody.codec P)).and <|
    (Codecs.required "provider_key" Ed25519PublicKey.codec).and <|
    (Codecs.required "attestation_hash" Codecs.sha256Hex).and <|
    Codecs.required "provider_signature" Ed25519Signature.codec).iso
      (fun (body, key, hash, signature) =>
        (⟨body, key, hash, signature⟩ : SecondHopAttestationFields P))
      (fun x => (x.body, x.providerKey, x.attestationHash, x.providerSignature))
      fun _ => rfl).refine SecondHopAttestationFields.envelopeIsCoherent |>.iso
    (fun x => (⟨x.1, x.2⟩ : SecondHopAttestation P))
    (fun x => ⟨x.toSecondHopAttestationFields, x.coherent⟩) fun _ => rfl) rfl

variable {P} in
def SecondHopAttestation.verify (x : SecondHopAttestation P) : Except PyError Unit := do
  verifySignature P x.providerKey.asBytes x.providerSignature
    (← signingMessage "SECOND-HOP-ATTESTATION-SIGNATURE" x.attestationHash.1)

/-! ## The manifest -/

def egressRulesAreCanonical (values : List (EgressRule P)) : Except PyError Unit :=
  sortedUnique (values.map fun rule => rule.ruleId.1) "egress rule IDs"

def credentialsAreCanonical (values : List (CredentialGrant P)) : Except PyError Unit :=
  sortedUnique (values.map fun grant => grant.credentialId.1) "credential IDs"

def secondHopsAreCanonical (values : List (SecondHopAttestation P)) : Except PyError Unit :=
  sortedUnique (values.map fun item => item.body.providerId.1) "second-hop provider IDs"

structure ManifestBodyFields where
  manifestId : OpaqueId
  runId : OpaqueId
  issuedAt : UtcTimestamp
  notBefore : UtcTimestamp
  expiresAt : UtcTimestamp
  operatorKeyId : OpaqueId
  gatewayKey : Ed25519PublicKey
  supervisorKey : Ed25519PublicKey
  witnessKey : Ed25519PublicKey
  allowedEgress : { values : List (EgressRule P) // egressRulesAreCanonical P values = .ok () }
  credentials : { values : List (CredentialGrant P) //
    credentialsAreCanonical P values = .ok () }
  secondHops : { values : List (SecondHopAttestation P) //
    secondHopsAreCanonical P values = .ok () }
  killCriteria : KillCriteria

namespace ManifestBodyFields

variable {P}

/-- The checks of one grant against the manifest's rules. -/
def grantIsCoherent (body : ManifestBodyFields P) (grant : CredentialGrant P) :
    Except PyError Unit := do
  grant.allowedRuleIds.1.forM fun ruleId =>
    match body.allowedEgress.1.find? fun rule => rule.ruleId = ruleId with
    | none => .error (reject ("credential '" ++ grant.credentialId.1 ++
        "' references unknown egress rule '" ++ ruleId.1 ++ "'"))
    | some rule =>
        ensure (rule.host = grant.audience) (reject ("credential '" ++ grant.credentialId.1 ++
          "' audience does not match rule '" ++ ruleId.1 ++ "'"))
  ensure (¬ textLt body.expiresAt.1 grant.expiresAt.1)
    (reject "credential expiry exceeds manifest expiry")

def policyIsCoherent (body : ManifestBodyFields P) : Except PyError Unit := do
  ensure (textLt body.notBefore.1 body.expiresAt.1)
    (reject "not_before must be earlier than expires_at")
  ensure (¬ textLt body.notBefore.1 body.issuedAt.1)
    (reject "issued_at must not be later than not_before")
  ensure [body.operatorKeyId, body.gatewayKey.keyId, body.supervisorKey.keyId,
      body.witnessKey.keyId].Nodup
    (reject "operator, gateway, supervisor, and witness keys must be distinct")
  body.credentials.1.forM body.grantIsCoherent

end ManifestBodyFields

structure ManifestBody extends ManifestBodyFields P where
  coherent : toManifestBodyFields.policyIsCoherent = .ok ()

def ManifestBodyFields.record : Record PyError (ManifestBodyFields P) :=
  (Codecs.header.and <|
    (Codecs.required "manifest_id" Codecs.opaqueId).and <|
    (Codecs.required "run_id" Codecs.opaqueId).and <|
    (Codecs.required "issued_at" Codecs.utcTimestamp).and <|
    (Codecs.required "not_before" Codecs.utcTimestamp).and <|
    (Codecs.required "expires_at" Codecs.utcTimestamp).and <|
    (Codecs.required "operator_key_id" Codecs.opaqueId).and <|
    (Codecs.required "gateway_key" Ed25519PublicKey.codec).and <|
    (Codecs.required "supervisor_key" Ed25519PublicKey.codec).and <|
    (Codecs.required "witness_key" Ed25519PublicKey.codec).and <|
    (Codecs.defaulted "allowed_egress"
      (tupleField (EgressRule.codec P) (egressRulesAreCanonical P)) ⟨[], rfl⟩).and <|
    (Codecs.defaulted "credentials"
      (tupleField (CredentialGrant.codec P) (credentialsAreCanonical P)) ⟨[], rfl⟩).and <|
    (Codecs.defaulted "second_hops"
      (tupleField (SecondHopAttestation.codec P) (secondHopsAreCanonical P)) ⟨[], rfl⟩).and <|
    Codecs.required "kill_criteria" KillCriteria.codec).iso
    (fun (_, manifest, run, issued, notBefore, expires, operator, gateway, supervisor, witness,
        rules, grants, hops, criteria) =>
      ⟨manifest, run, issued, notBefore, expires, operator, gateway, supervisor, witness, rules,
        grants, hops, criteria⟩)
    (fun x => (((), ()), x.manifestId, x.runId, x.issuedAt, x.notBefore, x.expiresAt,
      x.operatorKeyId, x.gatewayKey, x.supervisorKey, x.witnessKey, x.allowedEgress,
      x.credentials, x.secondHops, x.killCriteria))
    fun _ => rfl

def ManifestBody.codec : Codec PyError (ManifestBody P) :=
  Codecs.model (((ManifestBodyFields.record P).refine ManifestBodyFields.policyIsCoherent).iso
    (fun x => ⟨x.1, x.2⟩) (fun x => ⟨x.toManifestBodyFields, x.coherent⟩) fun _ => rfl)
    rfl

/-- A manifest's own `verify` takes the operator's key from outside and checks no
key ID, so the last text is never used. -/
def manifestSealing : Sealing (ManifestBody P) where
  hashDomain := "MANIFEST-HASH"
  signatureDomain := "MANIFEST-SIGNATURE"
  codec := ManifestBody.codec P
  keyId body := body.operatorKeyId
  hashName := "manifest_hash"
  signatureName := "operator_signature"
  hashMismatch := "manifest_hash does not match manifest body"
  keyMismatch := "operator signature key ID does not match manifest"
  wrongKey := ""
  names_nodup := by decide

abbrev Manifest : Type := Sealed P (manifestSealing P)

namespace Manifest

variable {P}

def manifestHash (m : Manifest P) : Sha256Hex := m.digest

/-- `_verify_second_hops`. -/
def verifySecondHops (body : ManifestBody P) : Except PyError Unit :=
  body.secondHops.1.forM fun attestation => do
    attestation.verify
    ensure (attestation.body.runId = body.runId)
      (.valueError "second-hop attestation is bound to another run")
    ensure (¬ (textLt body.notBefore.1 attestation.body.issuedAt.1 ∨
        textLt attestation.body.expiresAt.1 body.expiresAt.1))
      (.valueError "second-hop attestation does not cover the manifest lifetime")

def verify (m : Manifest P) (operatorPublicKey : Bytes) : Except PyError Unit := do
  verifySignature P operatorPublicKey m.signature
    (← signingMessage "MANIFEST-SIGNATURE" m.manifestHash.1)
  verifySecondHops m.body

end Manifest

end Containment
