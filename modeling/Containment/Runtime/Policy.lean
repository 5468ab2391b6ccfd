/-
# Closed-world authorization

The policy engine evaluates the signed manifest snapshot. Rule and credential
budgets are its only state, and both counters move together or not at all.
-/

import Containment.Models.Action
import Containment.Models.Decision

namespace Containment

variable {P : Platform}

structure PolicyResult where
  verdict : Verdict
  reasonCode : OpaqueId
  matchedRuleId : Option OpaqueId
  hardViolation : Bool

/-- The number of uses of each rule and each credential. -/
structure PolicyEngine where
  ruleUses : OpaqueId → ℕ
  credentialUses : OpaqueId → ℕ

namespace PolicyEngine

def empty : PolicyEngine := ⟨fun _ => 0, fun _ => 0⟩

/-- A fixed reason code of the engine. -/
def reason (text : String) (h : isOpaqueId text = true) : OpaqueId :=
  ⟨text, ensure_of h⟩

/-- `_kill`. -/
def kill (reasonCode : OpaqueId) : PolicyResult := ⟨.kill, reasonCode, none, true⟩

/-- `_path_matches`. -/
def pathMatches (path pathPrefix : String) : Bool :=
  if pathPrefix = "/" then true
  else
    let normalized := rstripSlash pathPrefix
    path = normalized || (normalized.toList ++ ['/']).isPrefixOf path.toList

/-- `_ip_matches`. -/
def ipMatches (ip : String) (cidrs : List (CanonicalCidr P)) : Bool :=
  cidrs.any fun cidr => P.ipInNetwork ip cidr.1

/-- `_rule_matches`. -/
def ruleMatches (rule : EgressRule P) (action : Action P) : Bool :=
  rule.methods.1.contains action.method &&
    rule.pathPrefixes.1.any (fun pathPrefix => pathMatches action.path.1 pathPrefix.1) &&
    ipMatches action.resolvedIp.1 rule.resolvedIpCidrs.1 &&
    (rule.tlsSpkiSha256.1.map Subtype.val).contains action.tlsSpkiSha256.1 &&
    decide (action.bodyBytes.1 ≤ rule.maxRequestBytes.1)

/-- The grant an action names: none if it names none, otherwise the manifest's
grant or the reason it cannot be used. -/
def selectGrant (manifest : Manifest P) (action : Action P) (rule : EgressRule P)
    (now : UtcTimestamp) : Except PolicyResult (Option (CredentialGrant P)) :=
  match action.credentialId with
  | none => .ok none
  | some credentialId =>
      match manifest.body.credentials.1.find? fun item => item.credentialId = credentialId with
      | none => .error (kill (reason "credential.unknown" (by decide)))
      | some grant =>
          if grant.isCanary then .error (kill (reason "credential.canary_used" (by decide)))
          else if grant.audience.1 ≠ action.host.1 ∨ rule.ruleId ∉ grant.allowedRuleIds.1 ∨
              textLt grant.expiresAt.1 now.1 then
            .error (kill (reason "credential.scope_violation" (by decide)))
          else .ok (some grant)

/-- The locked part of `authorize`: charge one use, or refuse. -/
def charge (engine : PolicyEngine) (rule : EgressRule P) (grant : Option (CredentialGrant P)) :
    PolicyEngine × PolicyResult :=
  let ruleUses := engine.ruleUses rule.ruleId
  let charged := Function.update engine.ruleUses rule.ruleId (ruleUses + 1)
  let allowed : PolicyResult :=
    ⟨.allow, reason "policy.allowed" (by decide), some rule.ruleId, false⟩
  if (ruleUses : ℤ) ≥ rule.maxRequests.1 then
    (engine, kill (reason "egress.rule_budget_exhausted" (by decide)))
  else
    match grant with
    | none => ({ engine with ruleUses := charged }, allowed)
    | some grant =>
        let grantUses := engine.credentialUses grant.credentialId
        if (grantUses : ℤ) ≥ grant.maxUses.1 then
          (engine, kill (reason "credential.use_budget_exhausted" (by decide)))
        else
          (⟨charged, Function.update engine.credentialUses grant.credentialId (grantUses + 1)⟩,
            allowed)

def authorize (manifest : Manifest P) (engine : PolicyEngine) (action : Action P)
    (now : UtcTimestamp) : PolicyEngine × PolicyResult :=
  let body := manifest.body
  if textLt now.1 body.notBefore.1 ∨ textLt body.expiresAt.1 now.1 then
    (engine, kill (reason "manifest.inactive" (by decide)))
  else
    let originRules := body.allowedEgress.1.filter fun rule =>
      rule.host.1 = action.host.1 ∧ rule.port.1 = action.port.1
    if originRules.isEmpty then
      (engine, kill (reason "egress.origin_not_allowed" (by decide)))
    else
      match originRules.find? fun rule => ruleMatches rule action with
      | none => (engine, kill (reason "egress.constraint_mismatch" (by decide)))
      | some rule =>
          match selectGrant manifest action rule now with
          | .error result => (engine, result)
          | .ok grant => charge engine rule grant

/-- The one rule of the action's origin matches, and its grant is usable. -/
theorem authorize_of_match {manifest : Manifest P} {engine : PolicyEngine} {action : Action P}
    {now : UtcTimestamp} {rule : EgressRule P} {grant : Option (CredentialGrant P)}
    (hactive : ¬ (textLt now.1 manifest.body.notBefore.1 ∨
      textLt manifest.body.expiresAt.1 now.1))
    (horigin : manifest.body.allowedEgress.1.filter (fun rule =>
      rule.host.1 = action.host.1 ∧ rule.port.1 = action.port.1) = [rule])
    (hmatches : ruleMatches rule action = true)
    (hgrant : selectGrant manifest action rule now = .ok grant) :
    authorize manifest engine action now = charge engine rule grant := by
  have hfind : [rule].find? (fun rule => ruleMatches rule action) = some rule :=
    List.find?_cons_of_pos hmatches
  rw [authorize]
  dsimp only
  rw [if_neg hactive, horigin, hfind]
  dsimp only
  rw [hgrant]
  rfl

/-! ## What a verdict means -/

/-- Every result is one of two shapes: an allowance naming a rule of the manifest,
or a kill. -/
def Shaped (manifest : Manifest P) (result : PolicyResult) : Prop :=
  (∃ rule ∈ manifest.body.allowedEgress.1, result.verdict = .allow ∧
      result.matchedRuleId = some rule.ruleId ∧ result.hardViolation = false) ∨
    (∃ code, result = kill code)

theorem shaped_kill (manifest : Manifest P) (code : OpaqueId) : Shaped manifest (kill code) :=
  .inr ⟨code, rfl⟩

theorem shaped_charge {manifest : Manifest P} {rule : EgressRule P}
    (hrule : rule ∈ manifest.body.allowedEgress.1) (engine : PolicyEngine)
    (grant : Option (CredentialGrant P)) :
    Shaped manifest (charge engine rule grant).2 := by
  unfold charge
  dsimp only
  split_ifs with hrules
  · exact shaped_kill manifest _
  · cases grant with
    | none => exact .inl ⟨rule, hrule, rfl, rfl, rfl⟩
    | some grant =>
        dsimp only
        split_ifs with hgrants
        · exact shaped_kill manifest _
        · exact .inl ⟨rule, hrule, rfl, rfl, rfl⟩

theorem shaped_selectGrant {manifest : Manifest P} {action : Action P} {rule : EgressRule P}
    {now : UtcTimestamp} {result : PolicyResult}
    (h : selectGrant manifest action rule now = .error result) : Shaped manifest result := by
  unfold selectGrant at h
  split at h
  · cases h
  · split at h
    · cases h; exact shaped_kill manifest _
    · split_ifs at h
      · cases h; exact shaped_kill manifest _
      · cases h; exact shaped_kill manifest _

theorem shaped_authorize (manifest : Manifest P) (engine : PolicyEngine) (action : Action P)
    (now : UtcTimestamp) : Shaped manifest (authorize manifest engine action now).2 := by
  unfold authorize
  dsimp only
  split_ifs with hactive horigin
  · exact shaped_kill manifest _
  · exact shaped_kill manifest _
  · split
    · exact shaped_kill manifest _
    · rename_i rule hfind
      have hrule : rule ∈ manifest.body.allowedEgress.1 :=
        List.mem_of_mem_filter (List.mem_of_find?_eq_some hfind)
      split
      · rename_i result hgrant
        exact shaped_selectGrant hgrant
      · exact shaped_charge hrule engine _

end PolicyEngine

end Containment
