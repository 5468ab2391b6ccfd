/-
# Rule names and verdicts

The rules of a manifest stand in the alphabetical order of their names, and the engine takes
the first rule that matches an action before it looks at budgets and grants. So names decide
which of the rules that match an action is taken, and nothing else: if a renaming leaves the
first of them first, an engine on the renamed manifest gives the same results, with the matched
rule renamed.
-/

import Containment.Reference.Submission
import Mathlib.Data.List.Forall2

namespace Containment

variable {P : Platform}

/-! ## Renaming -/

def EgressRule.rename (name : OpaqueId → OpaqueId) (rule : EgressRule P) : EgressRule P :=
  { rule with ruleId := name rule.ruleId, closed := rule.closed }

/-- A grant whose rules are renamed and sorted again. -/
structure RenamedGrant (name : OpaqueId → OpaqueId) (grant grant' : CredentialGrant P) : Prop where
  credentialId : grant'.credentialId = grant.credentialId
  brokerRef : grant'.brokerRef = grant.brokerRef
  audience : grant'.audience = grant.audience
  scopes : grant'.scopes = grant.scopes
  expiresAt : grant'.expiresAt = grant.expiresAt
  maxUses : grant'.maxUses = grant.maxUses
  isCanary : grant'.isCanary = grant.isCanary
  ruleIds : (grant.allowedRuleIds.1.map name).Perm grant'.allowedRuleIds.1

/-- A manifest whose rules are renamed and sorted again, in the policy and in the grants. -/
structure Renamed (name : OpaqueId → OpaqueId) (manifest manifest' : Manifest P) : Prop where
  injective : Function.Injective name
  manifestId : manifest'.body.manifestId = manifest.body.manifestId
  runId : manifest'.body.runId = manifest.body.runId
  issuedAt : manifest'.body.issuedAt = manifest.body.issuedAt
  notBefore : manifest'.body.notBefore = manifest.body.notBefore
  expiresAt : manifest'.body.expiresAt = manifest.body.expiresAt
  operatorKeyId : manifest'.body.operatorKeyId = manifest.body.operatorKeyId
  gatewayKey : manifest'.body.gatewayKey = manifest.body.gatewayKey
  supervisorKey : manifest'.body.supervisorKey = manifest.body.supervisorKey
  witnessKey : manifest'.body.witnessKey = manifest.body.witnessKey
  rules : (manifest.body.allowedEgress.1.map (EgressRule.rename name)).Perm
    manifest'.body.allowedEgress.1
  grants : List.Forall₂ (RenamedGrant name) manifest.body.credentials.1
    manifest'.body.credentials.1
  secondHops : manifest'.body.secondHops = manifest.body.secondHops
  killCriteria : manifest'.body.killCriteria = manifest.body.killCriteria

def PolicyResult.rename (name : OpaqueId → OpaqueId) (result : PolicyResult) : PolicyResult :=
  { result with matchedRuleId := result.matchedRuleId.map name }

namespace PolicyEngine

/-- The results of an engine on a sequence of actions and times. -/
def results (manifest : Manifest P) :
    PolicyEngine → List (Action P × UtcTimestamp) → List PolicyResult
  | _, [] => []
  | engine, (action, now) :: rest =>
      let (engine, result) := authorize manifest engine action now
      result :: results manifest engine rest

/-- The rule is one of the action's origin and matches it. -/
def Matches (rule : EgressRule P) (action : Action P) : Prop :=
  (rule.host.1 = action.host.1 ∧ rule.port.1 = action.port.1) ∧ ruleMatches rule action = true

instance (rule : EgressRule P) (action : Action P) : Decidable (Matches rule action) :=
  inferInstanceAs (Decidable (_ ∧ _))

/-- The first of the rules that match an action comes before the others after the renaming as
well. -/
def KeepsFirst (name : OpaqueId → OpaqueId) (manifest : Manifest P)
    (requests : List (Action P × UtcTimestamp)) : Prop :=
  ∀ request ∈ requests,
    ∀ first ∈ manifest.body.allowedEgress.1.find? fun rule => Matches rule request.1,
      ∀ rule ∈ manifest.body.allowedEgress.1, Matches rule request.1 →
        rule.ruleId ≠ first.ruleId → textLt (name first.ruleId).1 (name rule.ruleId).1

/-! ## The selected rule -/

/-- The rules of a manifest are in the order of their names. -/
theorem pairwise_allowedEgress (manifest : Manifest P) :
    manifest.body.allowedEgress.1.Pairwise fun rule rule' =>
      textLt rule.ruleId.1 rule'.ruleId.1 := by
  have hsorted := manifest.body.allowedEgress.2
  rw [egressRulesAreCanonical, sortedUnique, ensure_eq_ok, List.pairwise_map] at hsorted
  exact hsorted

variable {name : OpaqueId → OpaqueId} {manifest manifest' : Manifest P}

/-- What stands before the first rule that matches does not match, and what stands behind it has
a greater name. -/
theorem eq_or_textLt_of_find? {action : Action P} {first rule : EgressRule P}
    (hfirst : manifest.body.allowedEgress.1.find? (fun rule => Matches rule action) = some first)
    (hrule : rule ∈ manifest.body.allowedEgress.1) (hmatch : Matches rule action) :
    rule = first ∨ textLt first.ruleId.1 rule.ruleId.1 := by
  obtain ⟨-, before, behind, hsplit, hbefore⟩ := List.find?_eq_some_iff_append.mp hfirst
  have hsorted := pairwise_allowedEgress manifest
  rw [hsplit] at hsorted hrule
  rcases List.mem_append.mp hrule with hmem | hmem
  · have hnot := hbefore rule hmem
    rw [decide_eq_true hmatch] at hnot
    cases hnot
  · rcases List.mem_cons.mp hmem with heq | hmem
    · exact .inl heq
    · have htail := (List.pairwise_append.mp hsorted).2.1
      exact .inr ((List.pairwise_cons.mp htail).1 rule hmem)

/-- The first rule that matches an action is renamed. -/
theorem find?_matches (h : Renamed name manifest manifest') {action : Action P}
    (hfirst : ∀ first ∈ manifest.body.allowedEgress.1.find? fun rule => Matches rule action,
      ∀ rule ∈ manifest.body.allowedEgress.1, Matches rule action →
        rule.ruleId ≠ first.ruleId → textLt (name first.ruleId).1 (name rule.ruleId).1) :
    manifest'.body.allowedEgress.1.find? (fun rule => Matches rule action) =
      (manifest.body.allowedEgress.1.find? fun rule => Matches rule action).map
        (EgressRule.rename name) := by
  have hmem (rule' : EgressRule P) : rule' ∈ manifest'.body.allowedEgress.1 ↔
      ∃ rule ∈ manifest.body.allowedEgress.1, rule.rename name = rule' := by
    rw [← h.rules.mem_iff, List.mem_map]
  cases hfind : manifest.body.allowedEgress.1.find? fun rule => Matches rule action with
  | none =>
      refine List.find?_eq_none.mpr fun rule' hrule' => ?_
      obtain ⟨rule, hrule, rfl⟩ := (hmem rule').mp hrule'
      exact List.find?_eq_none.mp hfind rule hrule
  | some first =>
      have hin := List.mem_of_find?_eq_some hfind
      have hmatch : Matches first action := by simpa using List.find?_some hfind
      have hin' := (hmem _).mpr ⟨first, hin, rfl⟩
      have hmatched : Matches (first.rename name) action := hmatch
      cases hfind' : manifest'.body.allowedEgress.1.find? fun rule => Matches rule action with
      | none => exact absurd (decide_eq_true hmatched) (List.find?_eq_none.mp hfind' _ hin')
      | some first' =>
          rcases eq_or_textLt_of_find? hfind' hin' hmatched with heq | hlt
          · rw [Option.map_some, heq]
          · -- Another rule would now come before the first one.
            obtain ⟨rule, hrule, rfl⟩ := (hmem first').mp (List.mem_of_find?_eq_some hfind')
            have hmatched' : Matches (rule.rename name) action := by
              simpa using List.find?_some hfind'
            have hmatch' : Matches rule action := hmatched'
            have hne : rule.ruleId ≠ first.ruleId := fun heq => by
              change textLt (name rule.ruleId).1 (name first.ruleId).1 at hlt
              rw [heq] at hlt
              exact absurd hlt (lt_irrefl _)
            exact absurd (lt_trans hlt (hfirst first hfind rule hrule hmatch' hne)) (lt_irrefl _)

/-- The engine's selection is the first rule that matches. -/
theorem find?_filter_origin (rules : List (EgressRule P)) (action : Action P) :
    ((rules.filter fun rule => rule.host.1 = action.host.1 ∧ rule.port.1 = action.port.1).find?
      fun rule => ruleMatches rule action) = rules.find? fun rule => Matches rule action := by
  rw [List.find?_filter]
  congr 1
  funext rule
  rw [Bool.eq_iff_iff, decide_eq_true_eq, decide_eq_true_eq, decide_eq_true_eq, Matches]

/-! ## The grant -/

theorem find?_forall₂ {grants grants' : List (CredentialGrant P)}
    (h : List.Forall₂ (RenamedGrant name) grants grants') (credentialId : OpaqueId) :
    Option.Rel (RenamedGrant name) (grants.find? fun item => item.credentialId = credentialId)
      (grants'.find? fun item => item.credentialId = credentialId) := by
  induction h with
  | nil => exact .none
  | cons hgrant _ ih =>
      rw [List.find?_cons, List.find?_cons, hgrant.credentialId]
      split
      · exact .some hgrant
      · exact ih

/-- The same grant is selected, or none for the same reason. -/
theorem selectGrant_rename (h : Renamed name manifest manifest') (action : Action P)
    (rule : EgressRule P) (now : UtcTimestamp) :
    (∃ code, selectGrant manifest action rule now = .error (kill code) ∧
      selectGrant manifest' action (rule.rename name) now = .error (kill code)) ∨
    ∃ grant grant', selectGrant manifest action rule now = .ok grant ∧
      selectGrant manifest' action (rule.rename name) now = .ok grant' ∧
      Option.Rel (RenamedGrant name) grant grant' := by
  unfold selectGrant
  cases action.credentialId with
  | none => exact .inr ⟨none, none, rfl, rfl, .none⟩
  | some credentialId =>
      have hfind := find?_forall₂ h.grants credentialId
      dsimp only
      generalize manifest.body.credentials.1.find? (fun item => item.credentialId = credentialId) =
        found at hfind ⊢
      generalize manifest'.body.credentials.1.find? (fun item => item.credentialId = credentialId) =
        found' at hfind ⊢
      cases hfind with
      | none => exact .inl ⟨_, rfl, rfl⟩
      | @some grant grant' hgrant =>
          have hrules : (rule.rename name).ruleId ∈ grant'.allowedRuleIds.1 ↔
              rule.ruleId ∈ grant.allowedRuleIds.1 := by
            rw [← hgrant.ruleIds.mem_iff]
            exact List.mem_map_of_injective h.injective
          dsimp only
          rw [hgrant.isCanary, hgrant.audience, hgrant.expiresAt]
          simp only [hrules]
          split_ifs
          · exact .inl ⟨_, rfl, rfl⟩
          · exact .inl ⟨_, rfl, rfl⟩
          · exact .inr ⟨some grant, some grant', rfl, rfl, .some hgrant⟩

/-! ## Whole histories -/

/-- Two engines that have counted the same uses, under the old and the new names. -/
structure SameUses (name : OpaqueId → OpaqueId) (engine engine' : PolicyEngine) : Prop where
  rules : ∀ ruleId, engine'.ruleUses (name ruleId) = engine.ruleUses ruleId
  credentials : engine'.credentialUses = engine.credentialUses

theorem SameUses.update {engine engine' : PolicyEngine} (h : SameUses name engine engine')
    (hinjective : Function.Injective name) (ruleId : OpaqueId) (uses : ℕ) (used : OpaqueId) :
    Function.update engine'.ruleUses (name ruleId) uses (name used) =
      Function.update engine.ruleUses ruleId uses used := by
  by_cases heq : used = ruleId
  · rw [heq, Function.update_self, Function.update_self]
  · rw [Function.update_of_ne heq, Function.update_of_ne (hinjective.ne heq), h.rules]

theorem charge_rename {engine engine' : PolicyEngine} (h : SameUses name engine engine')
    (hinjective : Function.Injective name) (rule : EgressRule P)
    {grant grant' : Option (CredentialGrant P)}
    (hgrant : Option.Rel (RenamedGrant name) grant grant') :
    SameUses name (charge engine rule grant).1 (charge engine' (rule.rename name) grant').1 ∧
      (charge engine' (rule.rename name) grant').2 = (charge engine rule grant).2.rename name := by
  have huses : engine'.ruleUses (rule.rename name).ruleId = engine.ruleUses rule.ruleId :=
    h.rules rule.ruleId
  have hmax : (rule.rename name).maxRequests = rule.maxRequests := rfl
  unfold charge
  dsimp only
  rw [huses, hmax]
  cases hgrant with
  | none =>
      split_ifs
      · exact ⟨h, rfl⟩
      · exact ⟨⟨h.update hinjective rule.ruleId _, h.credentials⟩, rfl⟩
  | @some grant grant' hgrant =>
      dsimp only
      rw [hgrant.credentialId, hgrant.maxUses, h.credentials]
      split_ifs
      · exact ⟨h, rfl⟩
      · exact ⟨h, rfl⟩
      · exact ⟨⟨h.update hinjective rule.ruleId _, rfl⟩, rfl⟩

theorem isEmpty_filter_origin (h : Renamed name manifest manifest') (action : Action P) :
    (manifest'.body.allowedEgress.1.filter fun rule =>
      rule.host.1 = action.host.1 ∧ rule.port.1 = action.port.1).isEmpty =
    (manifest.body.allowedEgress.1.filter fun rule =>
      rule.host.1 = action.host.1 ∧ rule.port.1 = action.port.1).isEmpty := by
  have hperm := h.rules.filter fun rule =>
    decide (rule.host.1 = action.host.1 ∧ rule.port.1 = action.port.1)
  rw [List.filter_map] at hperm
  rw [← hperm.isEmpty_eq, List.isEmpty_map]
  rfl

/-- One action: the engines give the same result and count the same uses. -/
theorem authorize_rename (h : Renamed name manifest manifest') {engine engine' : PolicyEngine}
    (huses : SameUses name engine engine') {action : Action P} (now : UtcTimestamp)
    (hfirst : ∀ first ∈ manifest.body.allowedEgress.1.find? fun rule => Matches rule action,
      ∀ rule ∈ manifest.body.allowedEgress.1, Matches rule action →
        rule.ruleId ≠ first.ruleId → textLt (name first.ruleId).1 (name rule.ruleId).1) :
    SameUses name (authorize manifest engine action now).1
        (authorize manifest' engine' action now).1 ∧
      (authorize manifest' engine' action now).2 =
        (authorize manifest engine action now).2.rename name := by
  unfold authorize
  dsimp only
  rw [h.notBefore, h.expiresAt, isEmpty_filter_origin h, find?_filter_origin, find?_filter_origin,
    find?_matches h hfirst]
  split_ifs
  · exact ⟨huses, rfl⟩
  · exact ⟨huses, rfl⟩
  · cases manifest.body.allowedEgress.1.find? fun rule => Matches rule action with
    | none => exact ⟨huses, rfl⟩
    | some rule =>
        rw [Option.map_some]
        dsimp only
        rcases selectGrant_rename h action rule now with
          ⟨code, hold, hnew⟩ | ⟨grant, grant', hold, hnew, hgrant⟩
        · rw [hold, hnew]
          exact ⟨huses, rfl⟩
        · rw [hold, hnew]
          exact charge_rename huses h.injective rule hgrant

theorem results_rename (h : Renamed name manifest manifest') {engine engine' : PolicyEngine}
    (huses : SameUses name engine engine') {requests : List (Action P × UtcTimestamp)}
    (hkeeps : KeepsFirst name manifest requests) :
    results manifest' engine' requests =
      (results manifest engine requests).map (PolicyResult.rename name) := by
  induction requests generalizing engine engine' with
  | nil => rfl
  | cons request rest ih =>
      obtain ⟨action, now⟩ := request
      obtain ⟨hfirst, hrest⟩ := List.forall_mem_cons.mp hkeeps
      have hstep := @authorize_rename P name manifest manifest' h engine engine' huses action now
        hfirst
      change (authorize manifest' engine' action now).2 ::
          results manifest' (authorize manifest' engine' action now).1 rest =
        (authorize manifest engine action now).2.rename name ::
          (results manifest (authorize manifest engine action now).1 rest).map
            (PolicyResult.rename name)
      rw [hstep.2, ih hstep.1 hrest]

end PolicyEngine

open PolicyEngine

/-- Names decide only which of the rules that match an action is first: a renaming that leaves the
first of them first changes no verdict of a fresh engine, over any history. -/
theorem verdicts_rename (name : OpaqueId → OpaqueId) (manifest manifest' : Manifest P)
    (requests : List (Action P × UtcTimestamp)) (h : Renamed name manifest manifest')
    (hkeeps : KeepsFirst name manifest requests) :
    (results manifest' .empty requests).map PolicyResult.verdict =
        (results manifest .empty requests).map PolicyResult.verdict ∧
      results manifest' .empty requests =
        (results manifest .empty requests).map (PolicyResult.rename name) := by
  have huses : SameUses name .empty .empty := ⟨fun _ => rfl, rfl⟩
  have hresults := results_rename h huses hkeeps
  refine ⟨?_, hresults⟩
  rw [hresults, List.map_map]
  rfl

namespace Reference

/-! ## Two rules for one action -/

/-- The rule of the reference manifest under another name and with another budget. -/
def namedRule (ruleId : OpaqueId) (maxRequests : SafePositiveInt) : EgressRule platform :=
  { rule with ruleId := ruleId, maxRequests := maxRequests, closed := rule.closed }

def nameA : OpaqueId := ⟨"package-a", by decide⟩
def nameB : OpaqueId := ⟨"package-b", by decide⟩
def nameC : OpaqueId := ⟨"package-c", by decide⟩

theorem nameA_lt_nameB : textLt nameA.1 nameB.1 := by decide
theorem nameA_lt_nameC : textLt nameA.1 nameC.1 := by decide

theorem oneRequest_range : intRange 1 maxSafeInteger 1 = .ok () := by decide
theorem manyRequests_range : intRange 1 maxSafeInteger 10000 = .ok () := by decide

def oneRequest : SafePositiveInt := ⟨1, oneRequest_range⟩
def manyRequests : SafePositiveInt := ⟨10000, manyRequests_range⟩

theorem noSecondHops :
    secondHopsAreCanonical platform ([] : List (SecondHopAttestation platform)) = .ok () := by decide

/-- A manifest body with two rules for the same actions. -/
def overlappingBody (upper : OpaqueId) (h : textLt nameA.1 upper.1) (first last : SafePositiveInt) :
    ManifestBody platform where
  manifestId := manifestBody.manifestId
  runId := manifestBody.runId
  issuedAt := manifestBody.issuedAt
  notBefore := manifestBody.notBefore
  expiresAt := manifestBody.expiresAt
  operatorKeyId := manifestBody.operatorKeyId
  gatewayKey := manifestBody.gatewayKey
  supervisorKey := manifestBody.supervisorKey
  witnessKey := manifestBody.witnessKey
  allowedEgress := ⟨[namedRule nameA first, namedRule upper last],
    ensure_of (show [nameA.1, upper.1].Pairwise textLt by simpa using h)⟩
  credentials := ⟨[], by decide⟩
  secondHops := ⟨[], noSecondHops⟩
  killCriteria := criteria
  coherent := by
    have h := manifestBody.coherent
    simp only [ManifestBodyFields.policyIsCoherent, bind_eq_ok, Unique.exists_iff,
      ensure_eq_ok] at h ⊢
    exact ⟨h.1, h.2.1, h.2.2.1, rfl⟩

/-- The reference action without a credential. -/
def anonymousAction : Action platform := { action with credentialId := none, bound := action.bound }

theorem exists_manifest {body : ManifestBody platform}
    (hvalid : (validateJsonValue platform "$" 0 maxJsonNodes
      ((ManifestBody.codec platform).encode body)).toOption.isSome = true)
    (hspan : ((ManifestBody.codec platform).encode body).span ≤ 100000) :
    ∃ manifest : Manifest platform, manifest.body = body := by
  have htext := (fits_of_validate hvalid hspan).canonicalJson le_rfl le_rfl
  obtain ⟨manifest, -, hbody, -⟩ := Sealed.exists_sign referencePlatform_lawful
    (F := manifestSealing platform) htext keys.operator
  exact ⟨manifest, hbody⟩

/-- A manifest whose first rule in the order allows one request. -/
theorem exists_spent : ∃ manifest : Manifest platform,
    manifest.body = overlappingBody nameB nameA_lt_nameB oneRequest manyRequests :=
  exists_manifest (by decide +kernel) (by decide +kernel)

/-- The first rule is taken, whatever is left of its budget. -/
theorem authorize_overlapping {manifest : Manifest platform} {upper : OpaqueId}
    {h : textLt nameA.1 upper.1} {first last : SafePositiveInt}
    (hbody : manifest.body = overlappingBody upper h first last) (engine : PolicyEngine) :
    PolicyEngine.authorize manifest engine anonymousAction (timestamp now) =
      PolicyEngine.charge engine (namedRule nameA first) none := by
  have hactive : ¬ (textLt (timestamp now).1 (overlappingBody upper h first last).notBefore.1 ∨
      textLt (overlappingBody upper h first last).expiresAt.1 (timestamp now).1) :=
    manifestBody_active
  have hmatch : PolicyEngine.ruleMatches (namedRule nameA first) anonymousAction = true :=
    ruleMatches_action
  have horigin (ruleId : OpaqueId) (requests : SafePositiveInt) :
      (namedRule ruleId requests).host.1 = anonymousAction.host.1 ∧
        (namedRule ruleId requests).port.1 = anonymousAction.port.1 := ⟨rfl, rfl⟩
  have hrules : manifest.body.allowedEgress.1.filter (fun rule =>
      rule.host.1 = anonymousAction.host.1 ∧ rule.port.1 = anonymousAction.port.1) =
        [namedRule nameA first, namedRule upper last] := by
    rw [hbody]
    simp [overlappingBody, horigin]
  have hfind : [namedRule nameA first, namedRule upper last].find?
      (fun rule => PolicyEngine.ruleMatches rule anonymousAction) = some (namedRule nameA first) :=
    List.find?_cons_of_pos hmatch
  rw [PolicyEngine.authorize]
  dsimp only
  rw [hrules, hbody, if_neg hactive, hfind]
  rfl

theorem charge_of_lt {engine : PolicyEngine} {rule : EgressRule platform}
    (h : (engine.ruleUses rule.ruleId : ℤ) < rule.maxRequests.1) :
    (engine.charge rule none).2.verdict = .allow ∧
      (engine.charge rule none).1.ruleUses rule.ruleId = engine.ruleUses rule.ruleId + 1 := by
  unfold PolicyEngine.charge
  rw [if_neg (not_le.mpr h)]
  exact ⟨rfl, Function.update_self ..⟩

theorem charge_of_le {engine : PolicyEngine} {rule : EgressRule platform}
    (h : rule.maxRequests.1 ≤ (engine.ruleUses rule.ruleId : ℤ)) :
    (engine.charge rule none).2.verdict = .kill := by
  unfold PolicyEngine.charge
  rw [if_pos h]
  rfl

/-- Two requests of the same action. -/
def twoRequests : List (Action platform × UtcTimestamp) :=
  [(anonymousAction, timestamp now), (anonymousAction, timestamp now)]

/-- A budget of one is spent by the first request. -/
theorem verdicts_overlapping {manifest : Manifest platform} {upper : OpaqueId}
    {h : textLt nameA.1 upper.1} {first last : SafePositiveInt}
    (hbody : manifest.body = overlappingBody upper h first last) :
    (PolicyEngine.results manifest .empty twoRequests).map PolicyResult.verdict =
      [.allow, if 1 < first.1 then .allow else .kill] := by
  have hfirst := first.le
  have hempty : ((PolicyEngine.empty.ruleUses (namedRule nameA first).ruleId : ℕ) : ℤ) <
      (namedRule nameA first).maxRequests.1 :=
    lt_of_lt_of_le (show ((0 : ℕ) : ℤ) < 1 by decide) hfirst
  obtain ⟨hallow, hused⟩ := charge_of_lt hempty
  obtain ⟨engine, hengine⟩ : ∃ engine, engine =
      (PolicyEngine.charge PolicyEngine.empty (namedRule nameA first) none).1 := ⟨_, rfl⟩
  have hsecond : (PolicyEngine.charge engine (namedRule nameA first) none).2.verdict =
      if 1 < first.1 then .allow else .kill := by
    have huses : engine.ruleUses (namedRule nameA first).ruleId = 1 := by rw [hengine, hused]; rfl
    split_ifs with hlt
    · refine (charge_of_lt ?_).1
      rw [huses]
      exact hlt
    · refine charge_of_le ?_
      rw [huses]
      exact not_lt.mp hlt
  change [(PolicyEngine.authorize manifest .empty anonymousAction (timestamp now)).2.verdict,
    (PolicyEngine.authorize manifest
      (PolicyEngine.authorize manifest .empty anonymousAction (timestamp now)).1 anonymousAction
      (timestamp now)).2.verdict] = _
  rw [authorize_overlapping hbody, authorize_overlapping hbody, hallow, ← hengine, hsecond]

end Reference

open Reference

/-- The manifests differ in the names and budgets of their rules only. -/
theorem renamed_of_rules {name : OpaqueId → OpaqueId} (hinjective : Function.Injective name)
    {manifest manifest' : Manifest platform} {upper upper' : OpaqueId}
    {h : textLt nameA.1 upper.1} {h' : textLt nameA.1 upper'.1}
    {first last first' last' : SafePositiveInt}
    (hbody : manifest.body = overlappingBody upper h first last)
    (hbody' : manifest'.body = overlappingBody upper' h' first' last')
    (hrules : [namedRule (name nameA) first, namedRule (name upper) last].Perm
      [namedRule nameA first', namedRule upper' last']) : Renamed name manifest manifest' := by
  constructor
  case injective => exact hinjective
  case rules =>
    rw [hbody, hbody']
    exact hrules
  case grants =>
    rw [hbody, hbody']
    exact .nil
  all_goals
    rw [hbody, hbody']
    rfl

/-- Exchanging the names of two rules that match the same action turns an allowance into a kill:
the budget of one request is then the first in the order. -/
theorem exists_verdicts_ne :
    ∃ (name : OpaqueId → OpaqueId) (manifest manifest' : Manifest platform)
      (requests : List (Action platform × UtcTimestamp)), Renamed name manifest manifest' ∧
      (results manifest .empty requests).map PolicyResult.verdict = [.allow, .allow] ∧
      (results manifest' .empty requests).map PolicyResult.verdict = [.allow, .kill] := by
  obtain ⟨manifest, hbody⟩ : ∃ manifest : Manifest platform,
      manifest.body = overlappingBody nameB nameA_lt_nameB manyRequests oneRequest :=
    exists_manifest (by decide +kernel) (by decide +kernel)
  obtain ⟨manifest', hbody'⟩ := exists_spent
  refine ⟨Equiv.swap nameA nameB, manifest, manifest', twoRequests,
    renamed_of_rules (Equiv.swap nameA nameB).injective hbody hbody' ?_,
    verdicts_overlapping hbody, verdicts_overlapping hbody'⟩
  rw [Equiv.swap_apply_left, Equiv.swap_apply_right]
  exact List.Perm.swap _ _ _

/-- A new name for the second of two rules that match the same action, behind the first. -/
theorem verdicts_rename_second : ∃ manifest manifest' : Manifest platform,
    Renamed (Equiv.swap nameB nameC) manifest manifest' ∧
      (results manifest' .empty twoRequests).map PolicyResult.verdict = [.allow, .kill] := by
  obtain ⟨manifest, hbody⟩ := exists_spent
  obtain ⟨manifest', hbody'⟩ : ∃ manifest : Manifest platform,
      manifest.body = overlappingBody nameC nameA_lt_nameC oneRequest manyRequests :=
    exists_manifest (by decide +kernel) (by decide +kernel)
  have hA : Equiv.swap nameB nameC nameA = nameA := by decide
  have hrenamed : Renamed (Equiv.swap nameB nameC) manifest manifest' := by
    refine renamed_of_rules (Equiv.swap nameB nameC).injective hbody hbody' ?_
    rw [hA, Equiv.swap_apply_left]
  have hkeeps : KeepsFirst (Equiv.swap nameB nameC) manifest twoRequests := by
    have hnames : ∀ id ∈ [nameA, nameB], ∀ id' ∈ [nameA, nameB], textLt id.1 id'.1 →
        textLt (Equiv.swap nameB nameC id).1 (Equiv.swap nameB nameC id').1 := by decide
    have hmem (rule : EgressRule platform) (hrule : rule ∈ manifest.body.allowedEgress.1) :
        rule.ruleId ∈ [nameA, nameB] := by
      rw [hbody] at hrule
      exact List.mem_map_of_mem (f := EgressRuleFields.ruleId ∘ EgressRule.toEgressRuleFields) hrule
    intro request _ first hfirst rule hrule hmatch hne
    rcases eq_or_textLt_of_find? hfirst hrule hmatch with heq | hlt
    · exact absurd (congrArg (fun rule => rule.ruleId) heq) hne
    · exact hnames _ (hmem first (List.mem_of_find?_eq_some hfirst)) _ (hmem rule hrule) hlt
  obtain ⟨hverdicts, -⟩ := verdicts_rename _ manifest manifest' twoRequests hrenamed hkeeps
  exact ⟨manifest, manifest', hrenamed, hverdicts.trans (verdicts_overlapping hbody)⟩

end Containment
