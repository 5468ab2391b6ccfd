/-
# Runs of the policy engine

Any number of `authorize` calls on one engine, in any order. What an allowance says about
its action is read off the one call that made it. The budgets are a matter of the whole
run: the two usage maps count the allowances, and each stays below the limit of the rule or
the credential because rule and credential identifiers are unique in a manifest.
-/

import Containment.Runtime.Policy

namespace Containment

variable {P : Platform}

/-- The one scheme that the models of rules and actions accept. -/
def httpsScheme : String := "https"

def EgressRule.scheme (_ : EgressRule P) : String := httpsScheme

def Action.scheme (_ : Action P) : String := httpsScheme

/-- Identifiers that are sorted and unique name one item each. -/
theorem eq_of_sortedUnique {α : Type} {values : List α} {name : α → String} {label : String}
    (h : sortedUnique (values.map name) label = .ok ()) {x y : α} (hx : x ∈ values)
    (hy : y ∈ values) (heq : name x = name y) : x = y := by
  rw [sortedUnique, ensure_eq_ok] at h
  have hnodup : (values.map name).Nodup := by
    refine h.imp fun {a b} hlt => ?_
    rintro rfl
    exact List.lt_irrefl _ hlt
  exact List.inj_on_of_nodup_map hnodup hx hy heq

theorem Manifest.rule_eq {manifest : Manifest P} {rule rule' : EgressRule P}
    (h : rule ∈ manifest.body.allowedEgress.1) (h' : rule' ∈ manifest.body.allowedEgress.1)
    (heq : rule.ruleId = rule'.ruleId) : rule = rule' :=
  eq_of_sortedUnique manifest.body.allowedEgress.2 h h' (congrArg Subtype.val heq)

theorem Manifest.grant_eq {manifest : Manifest P} {grant grant' : CredentialGrant P}
    (h : grant ∈ manifest.body.credentials.1) (h' : grant' ∈ manifest.body.credentials.1)
    (heq : grant.credentialId = grant'.credentialId) : grant = grant' :=
  eq_of_sortedUnique manifest.body.credentials.2 h h' (congrArg Subtype.val heq)

namespace PolicyEngine

/-- One `authorize` call, with the engine before and after it. -/
structure Turn (P : Platform) where
  before : PolicyEngine
  action : Action P
  now : UtcTimestamp
  result : PolicyResult
  after : PolicyEngine

def turn (manifest : Manifest P) (engine : PolicyEngine) (action : Action P) (now : UtcTimestamp) :
    Turn P :=
  ⟨engine, action, now, (authorize manifest engine action now).2,
    (authorize manifest engine action now).1⟩

/-- The calls of a run, each on the engine that the one before left. -/
def turns (manifest : Manifest P) (engine : PolicyEngine) :
    List (Action P × UtcTimestamp) → List (Turn P)
  | [] => []
  | (action, now) :: rest =>
      turn manifest engine action now :: turns manifest (turn manifest engine action now).after rest

/-- What a credential must be for its use by an action under a rule. -/
structure Usable (manifest : Manifest P) (action : Action P) (rule : EgressRule P)
    (now : UtcTimestamp) (grant : CredentialGrant P) : Prop where
  listed : grant ∈ manifest.body.credentials.1
  named : action.credentialId = some grant.credentialId
  notCanary : grant.isCanary = false
  audience : grant.audience.1 = action.host.1
  scope : rule.ruleId ∈ grant.allowedRuleIds.1
  unexpired : ¬ textLt grant.expiresAt.1 now.1

/-- What an allowed action has to satisfy under the rule that allows it. -/
structure Permitted (manifest : Manifest P) (action : Action P) (now : UtcTimestamp)
    (rule : EgressRule P) : Prop where
  listed : rule ∈ manifest.body.allowedEgress.1
  active : ¬ textLt now.1 manifest.body.notBefore.1 ∧ ¬ textLt manifest.body.expiresAt.1 now.1
  scheme : rule.scheme = action.scheme
  host : rule.host.1 = action.host.1
  port : rule.port.1 = action.port.1
  method : action.method ∈ rule.methods.1
  path : ∃ pathPrefix ∈ rule.pathPrefixes.1, pathMatches action.path.1 pathPrefix.1 = true
  ip : ∃ cidr ∈ rule.resolvedIpCidrs.1, P.ipInNetwork action.resolvedIp.1 cidr.1 = true
  pin : ∃ pin ∈ rule.tlsSpkiSha256.1, pin.1 = action.tlsSpkiSha256.1
  size : action.bodyBytes.1 ≤ rule.maxRequestBytes.1
  credential : ∀ id ∈ action.credentialId, ∃ grant : CredentialGrant P,
    grant.credentialId = id ∧ Usable manifest action rule now grant

/-! ## One call -/

variable {manifest : Manifest P} {engine : PolicyEngine} {action : Action P} {now : UtcTimestamp}
  {rule : EgressRule P}

theorem selectGrant_ok {grant : Option (CredentialGrant P)}
    (h : selectGrant manifest action rule now = .ok grant) :
    action.credentialId = grant.map CredentialGrant.credentialId ∧
      ∀ g ∈ grant, Usable manifest action rule now g := by
  unfold selectGrant at h
  split at h
  · rename_i hnone
    obtain rfl := Except.ok.inj h
    exact ⟨hnone, fun _ hmem => nomatch hmem⟩
  · rename_i credentialId hsome
    split at h
    · cases h
    · rename_i found hfind
      split_ifs at h with hcanary hscope
      obtain rfl := Except.ok.inj h
      have hid : found.credentialId = credentialId := by simpa using List.find?_some hfind
      have hnamed : action.credentialId = some found.credentialId := by rw [hsome, hid]
      simp only [not_or, not_not] at hscope
      refine ⟨hnamed, ?_⟩
      rintro _ ⟨⟩
      exact ⟨List.mem_of_find?_eq_some hfind, hnamed, by simpa using hcanary, hscope.1, hscope.2.1,
        hscope.2.2⟩

theorem verdict_selectGrant {result : PolicyResult}
    (h : selectGrant manifest action rule now = .error result) : result.verdict ≠ .allow := by
  unfold selectGrant at h
  split at h
  · cases h
  · split at h
    · cases h
      decide
    · split_ifs at h
      · cases h
        decide
      · cases h
        decide

theorem ruleMatches_iff : ruleMatches rule action = true ↔
    action.method ∈ rule.methods.1 ∧
      (∃ pathPrefix ∈ rule.pathPrefixes.1, pathMatches action.path.1 pathPrefix.1 = true) ∧
      (∃ cidr ∈ rule.resolvedIpCidrs.1, P.ipInNetwork action.resolvedIp.1 cidr.1 = true) ∧
      (∃ pin ∈ rule.tlsSpkiSha256.1, pin.1 = action.tlsSpkiSha256.1) ∧
      action.bodyBytes.1 ≤ rule.maxRequestBytes.1 := by
  simp only [ruleMatches, ipMatches, Bool.and_eq_true, List.contains_iff_mem, List.any_eq_true,
    decide_eq_true_eq, List.mem_map, and_assoc]

/-- What the engine is after a use of the rule and of the credential was charged. -/
structure Charged (engine : PolicyEngine) (action : Action P) (rule : EgressRule P)
    (after : PolicyEngine) : Prop where
  ruleUses : ∀ id, after.ruleUses id =
    engine.ruleUses id + if id = rule.ruleId then 1 else 0
  credentialUses : ∀ id, after.credentialUses id =
    engine.credentialUses id + if action.credentialId = some id then 1 else 0

/-- The budgets a charge leaves intact. -/
structure Affordable (manifest : Manifest P) (engine : PolicyEngine) (action : Action P)
    (rule : EgressRule P) : Prop where
  rule : (engine.ruleUses rule.ruleId : ℤ) < rule.maxRequests.1
  credential : ∀ grant ∈ manifest.body.credentials.1,
    action.credentialId = some grant.credentialId →
      (engine.credentialUses grant.credentialId : ℤ) < grant.maxUses.1

/-- The two ways a call can end. -/
def Settled (manifest : Manifest P) (engine : PolicyEngine) (action : Action P) (now : UtcTimestamp)
    (done : PolicyEngine × PolicyResult) : Prop :=
  (∃ code, done = (engine, kill code)) ∨
    ∃ rule, Permitted manifest action now rule ∧ done.2.verdict = .allow ∧
      done.2.matchedRuleId = some rule.ruleId ∧ Affordable manifest engine action rule ∧
      Charged engine action rule done.1

theorem update_eq_add (uses : OpaqueId → ℕ) (key id : OpaqueId) :
    Function.update uses key (uses key + 1) id = uses id + if id = key then 1 else 0 := by
  by_cases h : id = key
  · subst h
    simp
  · simp [h]

theorem settled_charge {grant : Option (CredentialGrant P)} (hrule : Permitted manifest action now rule)
    (hnamed : action.credentialId = grant.map CredentialGrant.credentialId)
    (husable : ∀ g ∈ grant, Usable manifest action rule now g) :
    Settled manifest engine action now (charge engine rule grant) := by
  unfold charge
  dsimp only
  split_ifs with hbudget
  · exact .inl ⟨_, rfl⟩
  rw [ge_iff_le, not_le] at hbudget
  cases grant with
  | none =>
      rw [Option.map_none] at hnamed
      refine .inr ⟨rule, hrule, rfl, rfl, ⟨hbudget, fun g _ heq => ?_⟩, update_eq_add _ _,
        fun id => ?_⟩
      · rw [hnamed] at heq
        cases heq
      · simp [hnamed]
  | some grant =>
      dsimp only
      split_ifs with hcredential
      · exact .inl ⟨_, rfl⟩
      rw [ge_iff_le, not_le] at hcredential
      rw [Option.map_some] at hnamed
      refine .inr ⟨rule, hrule, rfl, rfl, ⟨hbudget, fun g hg heq => ?_⟩, update_eq_add _ _,
        fun id => ?_⟩
      · have hid : grant.credentialId = g.credentialId := Option.some.inj (hnamed.symm.trans heq)
        rwa [← Manifest.grant_eq (husable grant rfl).listed hg hid]
      · refine (update_eq_add _ _ _).trans ?_
        simp only [hnamed, Option.some.injEq, eq_comm]

/-- The spec of a call. -/
theorem settled_authorize (manifest : Manifest P) (engine : PolicyEngine) (action : Action P)
    (now : UtcTimestamp) :
    Settled manifest engine action now (authorize manifest engine action now) := by
  unfold authorize
  dsimp only
  split_ifs with hactive horigin
  · exact .inl ⟨_, rfl⟩
  · exact .inl ⟨_, rfl⟩
  rw [not_or] at hactive
  split
  · exact .inl ⟨_, rfl⟩
  · rename_i rule hfind
    obtain ⟨hlisted, horigin⟩ := List.mem_filter.mp (List.mem_of_find?_eq_some hfind)
    rw [decide_eq_true_eq] at horigin
    have hmatches : ruleMatches rule action = true :=
      List.find?_some (p := fun rule => ruleMatches rule action) hfind
    obtain ⟨hmethod, hpath, hip, hpin, hsize⟩ := ruleMatches_iff.mp hmatches
    split
    · rename_i result herror
      rcases shaped_selectGrant herror with ⟨rule', -, hallow, -⟩ | ⟨code, hkill⟩
      · exact absurd hallow (verdict_selectGrant herror)
      · exact .inl ⟨code, by rw [hkill]⟩
    · rename_i grant hgrant
      obtain ⟨hnamed, husable⟩ := selectGrant_ok hgrant
      refine settled_charge ⟨hlisted, hactive, rfl, horigin.1, horigin.2, hmethod, hpath, hip, hpin,
        hsize, fun id hid => ?_⟩ hnamed husable
      cases grant with
      | none =>
          rw [hnamed] at hid
          cases hid
      | some grant =>
          refine ⟨grant, ?_, husable grant rfl⟩
          rw [hnamed] at hid
          exact Option.some.inj hid

/-! ## Whole runs -/

/-- The turns that allowed under a rule. -/
def Turn.AllowsUnder (turn : Turn P) (id : OpaqueId) : Prop :=
  turn.result.verdict = .allow ∧ turn.result.matchedRuleId = some id

/-- The turns that allowed with a credential. -/
def Turn.AllowsWith (turn : Turn P) (id : OpaqueId) : Prop :=
  turn.result.verdict = .allow ∧ turn.action.credentialId = some id

instance (turn : Turn P) (id : OpaqueId) : Decidable (turn.AllowsUnder id) :=
  inferInstanceAs (Decidable (_ ∧ _))

instance (turn : Turn P) (id : OpaqueId) : Decidable (turn.AllowsWith id) :=
  inferInstanceAs (Decidable (_ ∧ _))

/-- Every turn is one call. -/
theorem settled_of_mem_turns {turn : Turn P} {calls : List (Action P × UtcTimestamp)}
    (h : turn ∈ turns manifest engine calls) :
    Settled manifest turn.before turn.action turn.now (turn.after, turn.result) := by
  induction calls generalizing engine with
  | nil => exact nomatch h
  | cons call rest ih =>
      rcases List.mem_cons.mp h with rfl | h
      · exact settled_authorize manifest engine call.1 call.2
      · exact ih h

/-- A counter that each charging turn raises by one, and only below the limit, bounds the
charging turns of a run. -/
theorem countP_turns_le (charges : Turn P → Prop) [DecidablePred charges] (uses : PolicyEngine → ℕ)
    (limit : ℤ)
    (hcharge : ∀ engine action now, charges (turn manifest engine action now) →
      (uses engine : ℤ) < limit ∧ uses (turn manifest engine action now).after = uses engine + 1)
    (hfree : ∀ engine action now, ¬ charges (turn manifest engine action now) →
      uses (turn manifest engine action now).after = uses engine)
    (calls : List (Action P × UtcTimestamp)) (h : (uses engine : ℤ) ≤ limit) :
    (uses engine : ℤ) + (turns manifest engine calls).countP (fun turn => charges turn) ≤ limit := by
  induction calls generalizing engine with
  | nil => simpa [turns] using h
  | cons call rest ih =>
      obtain ⟨action, now⟩ := call
      rw [turns, List.countP_cons]
      by_cases hturn : charges (turn manifest engine action now)
      · obtain ⟨hlt, hafter⟩ := hcharge engine action now hturn
        have hrest := @ih (turn manifest engine action now).after (by omega)
        rw [if_pos (decide_eq_true hturn)]
        omega
      · have hafter := hfree engine action now hturn
        have hrest := @ih (turn manifest engine action now).after (by omega)
        rw [if_neg (by simpa using hturn)]
        omega

theorem countP_allowsUnder_le (hrule : rule ∈ manifest.body.allowedEgress.1)
    (calls : List (Action P × UtcTimestamp)) :
    (turns manifest .empty calls).countP (fun turn => turn.AllowsUnder rule.ruleId) ≤
      rule.maxRequests.1 := by
  have hstep (engine : PolicyEngine) (action : Action P) (now : UtcTimestamp) :=
    settled_authorize manifest engine action now
  have hle := @countP_turns_le _ manifest .empty (fun turn => turn.AllowsUnder rule.ruleId) _
    (fun engine => engine.ruleUses rule.ruleId) rule.maxRequests.1 ?_ ?_ calls
    (le_trans (by simp [empty]) rule.maxRequests.le)
  · simpa [empty] using hle
  · intro engine action now hallows
    rcases hstep engine action now with ⟨code, heq⟩ |
      ⟨rule', hpermitted, hallow, hmatched, haffordable, hcharged⟩
    · have hverdict : (authorize manifest engine action now).2.verdict = .allow := hallows.1
      rw [heq] at hverdict
      cases hverdict
    · have hid : rule'.ruleId = rule.ruleId := Option.some.inj (hmatched.symm.trans hallows.2)
      obtain rfl := Manifest.rule_eq hpermitted.listed hrule hid
      refine ⟨haffordable.rule, ?_⟩
      have huses := hcharged.ruleUses rule'.ruleId
      rwa [if_pos rfl] at huses
  · intro engine action now hallows
    rcases hstep engine action now with ⟨code, heq⟩ |
      ⟨rule', hpermitted, hallow, hmatched, haffordable, hcharged⟩
    · change (authorize manifest engine action now).1.ruleUses rule.ruleId = _
      rw [heq]
    · have hne : rule.ruleId ≠ rule'.ruleId := fun hid => hallows ⟨hallow, by rw [hid]; exact hmatched⟩
      have huses := hcharged.ruleUses rule.ruleId
      rwa [if_neg hne] at huses

theorem countP_allowsWith_le {grant : CredentialGrant P}
    (hgrant : grant ∈ manifest.body.credentials.1) (calls : List (Action P × UtcTimestamp)) :
    (turns manifest .empty calls).countP (fun turn => turn.AllowsWith grant.credentialId) ≤
      grant.maxUses.1 := by
  have hstep (engine : PolicyEngine) (action : Action P) (now : UtcTimestamp) :=
    settled_authorize manifest engine action now
  have hle := @countP_turns_le _ manifest .empty (fun turn => turn.AllowsWith grant.credentialId) _
    (fun engine => engine.credentialUses grant.credentialId) grant.maxUses.1 ?_ ?_ calls (le_trans (by simp [empty]) grant.maxUses.le)
  · simpa [empty] using hle
  · intro engine action now hallows
    rcases hstep engine action now with ⟨code, heq⟩ |
      ⟨rule, hpermitted, hallow, hmatched, haffordable, hcharged⟩
    · have hverdict : (authorize manifest engine action now).2.verdict = .allow := hallows.1
      rw [heq] at hverdict
      cases hverdict
    · have hused : action.credentialId = some grant.credentialId := hallows.2
      refine ⟨haffordable.credential grant hgrant hused, ?_⟩
      have huses := hcharged.credentialUses grant.credentialId
      rwa [if_pos hused] at huses
  · intro engine action now hallows
    rcases hstep engine action now with ⟨code, heq⟩ |
      ⟨rule, hpermitted, hallow, hmatched, haffordable, hcharged⟩
    · change (authorize manifest engine action now).1.credentialUses grant.credentialId = _
      rw [heq]
    · have hne : action.credentialId ≠ some grant.credentialId := fun hid => hallows ⟨hallow, hid⟩
      have huses := hcharged.credentialUses grant.credentialId
      rwa [if_neg hne] at huses

/-- What a manifest promises of every run of its engine. -/
structure Sound (manifest : Manifest P) (turns : List (Turn P)) : Prop where
  /-- An allowance names a rule that permits the action at that time. -/
  permitted : ∀ turn ∈ turns, turn.result.verdict = .allow →
    ∃ rule, turn.result.matchedRuleId = some rule.ruleId ∧
      Permitted manifest turn.action turn.now rule
  ruleBudget : ∀ rule ∈ manifest.body.allowedEgress.1,
    turns.countP (fun turn => turn.AllowsUnder rule.ruleId) ≤ rule.maxRequests.1
  credentialBudget : ∀ grant ∈ manifest.body.credentials.1,
    turns.countP (fun turn => turn.AllowsWith grant.credentialId) ≤ grant.maxUses.1
  /-- A kill charges nothing. -/
  killed : ∀ turn ∈ turns, turn.result.verdict = .kill → turn.after = turn.before

end PolicyEngine

/-- Every sequence of calls on a fresh engine is sound. -/
theorem policy_sound (P : Platform) (manifest : Manifest P)
    (calls : List (Action P × UtcTimestamp)) :
    PolicyEngine.Sound manifest (PolicyEngine.turns manifest .empty calls) where
  permitted turn hturn hallow := by
    rcases PolicyEngine.settled_of_mem_turns hturn with ⟨code, heq⟩ |
      ⟨rule, hpermitted, -, hmatched, -⟩
    · rw [(Prod.mk.inj heq).2] at hallow
      cases hallow
    · exact ⟨rule, hmatched, hpermitted⟩
  ruleBudget _ hrule := PolicyEngine.countP_allowsUnder_le hrule calls
  credentialBudget _ hgrant := PolicyEngine.countP_allowsWith_le hgrant calls
  killed turn hturn hkill := by
    rcases PolicyEngine.settled_of_mem_turns hturn with ⟨code, heq⟩ | ⟨rule, -, hallow, -⟩
    · exact (Prod.mk.inj heq).1
    · have hverdict : turn.result.verdict = .allow := hallow
      rw [hkill] at hverdict
      cases hverdict

end Containment
