/-
# Signed decisions

The gateway's verdict on one request. An ALLOW carries a single-use capability;
any other verdict carries none. The correspondence is a field of the type, so a
decision body that mixes the two cannot be built.
-/

import Containment.Models.Event

namespace Containment

open Json

inductive Verdict
  | allow
  | deny
  | kill
  deriving DecidableEq, Repr

def Verdict.value : Verdict → String
  | .allow => "ALLOW"
  | .deny => "DENY"
  | .kill => "KILL"

def Verdict.codec : Codec PyError Verdict :=
  .enum (.validationError "" "Input should be 'ALLOW', 'DENY' or 'KILL'")
    [.allow, .deny, .kill] Verdict.value (by intro x; cases x <;> rfl)

structure DecisionBodyFields where
  runId : OpaqueId
  manifestHash : Sha256Hex
  requestId : OpaqueId
  requestEventSequence : SafeNonNegativeInt
  requestEventHash : Sha256Hex
  actionSha256 : Sha256Hex
  gatewayKeyId : OpaqueId
  gatewayInstanceId : OpaqueId
  decidedAt : UtcTimestamp
  decisionMonotonicNs : SafeNonNegativeInt
  killEpoch : SafeNonNegativeInt
  verdict : Verdict
  reasonCode : OpaqueId
  matchedRuleId : Option OpaqueId
  hardViolation : Bool
  authorizationId : Option OpaqueId
  authorizationExpiresMonotonicNs : Option SafeNonNegativeInt
  /-- The literal 1, when present. -/
  authorizationMaxUses : Option Unit

def DecisionBodyFields.capabilityMatchesVerdict (body : DecisionBodyFields) :
    Except PyError Unit :=
  if body.verdict = .allow then do
    ensure (body.authorizationId.isSome = true ∧
        body.authorizationExpiresMonotonicNs.isSome = true ∧
        body.authorizationMaxUses.isSome = true)
      (reject "ALLOW requires a complete single-use authorization")
    ensure (body.matchedRuleId.isSome = true) (reject "ALLOW requires matched_rule_id")
    ensure (body.hardViolation = false) (reject "ALLOW cannot be a hard violation")
    ensure (∀ expires ∈ body.authorizationExpiresMonotonicNs,
        body.decisionMonotonicNs.1 < expires.1)
      (reject "authorization must expire after the decision")
  else do
    ensure (body.authorizationId = none ∧ body.authorizationExpiresMonotonicNs = none ∧
        body.authorizationMaxUses = none)
      (reject "DENY/KILL decisions cannot carry authorization")
    ensure (¬ (body.verdict = .kill ∧ body.hardViolation = false))
      (reject "KILL must be marked as a hard violation")

structure DecisionBody extends DecisionBodyFields where
  coherent : toDecisionBodyFields.capabilityMatchesVerdict = .ok ()

def DecisionBodyFields.record : Record PyError DecisionBodyFields :=
  (Codecs.header.and <|
    (Codecs.required "run_id" Codecs.opaqueId).and <|
    (Codecs.required "manifest_hash" Codecs.sha256Hex).and <|
    (Codecs.required "request_id" Codecs.opaqueId).and <|
    (Codecs.required "request_event_sequence" Codecs.safeNonNegativeInt).and <|
    (Codecs.required "request_event_hash" Codecs.sha256Hex).and <|
    (Codecs.required "action_sha256" Codecs.sha256Hex).and <|
    (Codecs.required "gateway_key_id" Codecs.opaqueId).and <|
    (Codecs.required "gateway_instance_id" Codecs.opaqueId).and <|
    (Codecs.required "decided_at" Codecs.utcTimestamp).and <|
    (Codecs.required "decision_monotonic_ns" Codecs.safeNonNegativeInt).and <|
    (Codecs.required "kill_epoch" Codecs.safeNonNegativeInt).and <|
    (Codecs.required "verdict" Verdict.codec).and <|
    (Codecs.required "reason_code" Codecs.opaqueId).and <|
    (Codecs.defaulted "matched_rule_id" Codecs.optionalOpaqueId none).and <|
    (Codecs.required "hard_violation" Codecs.canonicalBool).and <|
    (Codecs.defaulted "authorization_id" Codecs.optionalOpaqueId none).and <|
    (Codecs.defaulted "authorization_expires_monotonic_ns" Codecs.optionalSafeInt none).and <|
    Codecs.defaulted "authorization_max_uses"
      ((Codec.literalInt 1 (.validationError "" "Input should be 1")).option fun _ h => nomatch h)
      none).iso
    (fun (_, run, manifest, request, sequence, hash, action, key, gateway, decidedAt, decidedNs,
        epoch, verdict, reason, rule, hard, authorization, expires, uses) =>
      ⟨run, manifest, request, sequence, hash, action, key, gateway, decidedAt, decidedNs, epoch,
        verdict, reason, rule, hard, authorization, expires, uses⟩)
    (fun x => (((), ()), x.runId, x.manifestHash, x.requestId, x.requestEventSequence,
      x.requestEventHash, x.actionSha256, x.gatewayKeyId, x.gatewayInstanceId, x.decidedAt,
      x.decisionMonotonicNs, x.killEpoch, x.verdict, x.reasonCode, x.matchedRuleId,
      x.hardViolation, x.authorizationId, x.authorizationExpiresMonotonicNs,
      x.authorizationMaxUses))
    fun _ => rfl

def DecisionBody.codec : Codec PyError DecisionBody :=
  Codecs.model ((DecisionBodyFields.record.refine
      DecisionBodyFields.capabilityMatchesVerdict).iso
    (fun x => ⟨x.1, x.2⟩) (fun x => ⟨x.toDecisionBodyFields, x.coherent⟩) fun _ => rfl) rfl

/-- Build a decision body, as its constructor does after every field has passed. -/
def DecisionBody.make (fields : DecisionBodyFields) : Except PyError DecisionBody :=
  (fun x => ⟨x.1, x.2⟩) <$> checked DecisionBodyFields.capabilityMatchesVerdict fields

def decisionSealing : Sealing DecisionBody where
  hashDomain := "DECISION-HASH"
  signatureDomain := "DECISION-SIGNATURE"
  codec := DecisionBody.codec
  keyId body := body.gatewayKeyId
  hashName := "decision_hash"
  signatureName := "gateway_signature"
  hashMismatch := "decision_hash does not match decision body"
  keyMismatch := "gateway signature key ID does not match decision"
  wrongKey := "wrong gateway verification key"
  names_nodup := by decide

variable (P : Platform)

abbrev Decision : Type := Sealed P decisionSealing

namespace Decision

variable {P}

def decisionHash (d : Decision P) : Sha256Hex := d.digest

end Decision

namespace DecisionBody

/-- An ALLOW is never a hard violation. -/
theorem hardViolation_of_allow {body : DecisionBody} (h : body.verdict = .allow) :
    body.hardViolation = false := by
  have hcoherent := body.coherent
  rw [DecisionBodyFields.capabilityMatchesVerdict, if_pos h] at hcoherent
  simp only [bind_unit_eq_ok, ensure_eq_ok] at hcoherent
  exact hcoherent.2.2.1

/-- An ALLOW carries an authorization with an expiry after the decision. -/
theorem authorization_of_allow {body : DecisionBody} (h : body.verdict = .allow) :
    ∃ authorizationId expires, body.authorizationId = some authorizationId ∧
      body.authorizationExpiresMonotonicNs = some expires ∧
      body.decisionMonotonicNs.1 < expires.1 := by
  have hcoherent := body.coherent
  rw [DecisionBodyFields.capabilityMatchesVerdict, if_pos h] at hcoherent
  simp only [bind_unit_eq_ok, ensure_eq_ok] at hcoherent
  obtain ⟨⟨hid, hexpires, -⟩, -, -, hafter⟩ := hcoherent
  obtain ⟨authorizationId, hid⟩ := Option.isSome_iff_exists.mp hid
  obtain ⟨expires, hexpires⟩ := Option.isSome_iff_exists.mp hexpires
  exact ⟨authorizationId, expires, hid, hexpires, hafter expires hexpires⟩

/-- Whatever carries an authorization is an ALLOW. -/
theorem allow_of_authorization {body : DecisionBody} (h : body.authorizationId ≠ none) :
    body.verdict = .allow := by
  by_contra hverdict
  have hcoherent := body.coherent
  rw [DecisionBodyFields.capabilityMatchesVerdict, if_neg hverdict] at hcoherent
  simp only [bind_unit_eq_ok, ensure_eq_ok] at hcoherent
  exact h hcoherent.1.1

end DecisionBody

end Containment
