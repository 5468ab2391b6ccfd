/-
# Budgets of rules hold for what leaves

The policy engine charges a rule when it allows, the gateway commits the decision later, and
a transport may start much later on another thread. The charge is followed through: it is
outstanding until its thread commits a decision, and then it belongs to that decision. So an
allowance on record has been charged, and a transport, whose decision is on record and whose
authorization is its own, has been charged as well.
-/

import Containment.Runtime.Mediation

namespace Containment

open Json Concurrency Discipline Trace

variable {P : Platform}

/-- The charges of a run. -/
structure Spending where
  /-- The thread and the rule of each charge whose decision has not been committed. -/
  outstanding : List (ℕ × OpaqueId)
  /-- The payload and the rule of each committed decision that had a charge. -/
  granted : List (Json × OpaqueId)

def Spending.start : Spending := ⟨[], []⟩

/-- The rule that an `authorize` call charges. -/
def chargedRule (d : Deployment P) (engine : PolicyEngine) (action : Action P)
    (now : UtcTimestamp) : Option OpaqueId :=
  let result := (PolicyEngine.authorize d.manifest engine action now).2
  if result.verdict = .allow then result.matchedRuleId else none

/-- The latest charge of a thread that is outstanding. -/
def Spending.latest (spending : Spending) (t : ℕ) : Option (ℕ × OpaqueId) :=
  spending.outstanding.find? fun charge => charge.1 = t

def Spending.charge (spending : Spending) (t : ℕ) (rule : OpaqueId) : Spending :=
  { spending with outstanding := (t, rule) :: spending.outstanding }

/-- The latest charge of the thread becomes that of its decision. -/
def Spending.grant (spending : Spending) (t : ℕ) (payload : Json) : Spending :=
  (spending.latest t).elim spending fun charge =>
    ⟨spending.outstanding.erase charge, (payload, charge.2) :: spending.granted⟩

def spendingAfter (d : Deployment P) (op : Op P) (t : ℕ) (s : Runtime P) (spending : Spending) :
    Spending :=
  match op with
  | .authorize action now => (chargedRule d s.policy action now).elim spending (spending.charge t)
  | .commit .decision payload _ _ => spending.grant t payload
  | _ => spending

/-- The runtime beside its charges. -/
@[reducible]
def spendingService (d : Deployment P) : Service (Op P) Op.Res PyError :=
  (runtimeService d).ghost fun _ t op s _ spending => spendingAfter d op t s spending

def anySpending (d : Deployment P) : RunRule (spendingService d) where
  starts _ _ := True
  moves _ _ _ := True

/-- The charges of one rule. -/
def Spending.total (spending : Spending) (rule : OpaqueId) : ℕ :=
  spending.granted.countP (fun grant => grant.2 = rule) +
    spending.outstanding.countP fun charge => charge.2 = rule

section Spending

variable {spending : Spending} {t u : ℕ} {payload : Json} {rule rule' : OpaqueId}

theorem latest_charge_self : (spending.charge t rule).latest t = some (t, rule) := by
  simp [Spending.latest, Spending.charge]

theorem latest_charge_other (hu : u ≠ t) : (spending.charge t rule).latest u = spending.latest u := by
  simp [Spending.latest, Spending.charge, hu.symm]

theorem fst_of_latest {charge : ℕ × OpaqueId} (h : spending.latest t = some charge) : charge.1 = t := by
  simpa using List.find?_some h

/-- Erasing what is not looked for does not change what is found. -/
theorem find?_erase_of_not {α : Type} [BEq α] [LawfulBEq α] {p : α → Bool} {x : α} (hx : p x = false)
    (items : List α) : (items.erase x).find? p = items.find? p := by
  induction items with
  | nil => rfl
  | cons y items ih =>
      by_cases heq : y = x
      · subst heq
        rw [List.erase_cons_head, List.find?_cons_of_neg (by rw [hx]; decide)]
      · rw [List.erase_cons_tail (by simpa using heq)]
        cases hy : p y with
        | true => rw [List.find?_cons_of_pos hy, List.find?_cons_of_pos hy]
        | false =>
            rw [List.find?_cons_of_neg (by rw [hy]; decide), List.find?_cons_of_neg (by rw [hy]; decide),
              ih]

theorem latest_grant_other (hu : u ≠ t) : (spending.grant t payload).latest u = spending.latest u := by
  unfold Spending.grant
  cases hlatest : spending.latest t with
  | none => rfl
  | some charge =>
      rw [Option.elim_some]
      have hother : decide (charge.1 = u) = false := by simp [fst_of_latest hlatest, hu.symm]
      exact find?_erase_of_not (p := fun charge => decide (charge.1 = u)) hother spending.outstanding

/-- What was granted stays granted. -/
theorem granted_grant {grant : Json × OpaqueId} (h : grant ∈ spending.granted) :
    grant ∈ (spending.grant t payload).granted := by
  unfold Spending.grant
  cases spending.latest t with
  | none => exact h
  | some charge => exact List.mem_cons_of_mem _ h

theorem mem_grant (h : spending.latest t = some (t, rule)) :
    (payload, rule) ∈ (spending.grant t payload).granted := by
  rw [Spending.grant, h]
  exact List.mem_cons_self

theorem total_charge : (spending.charge t rule).total rule' =
    spending.total rule' + if rule' = rule then 1 else 0 := by
  simp only [Spending.total, Spending.charge, List.countP_cons, decide_eq_true_eq,
    eq_comm (a := rule)]
  omega

/-- A charge that changes hands is still one charge. -/
theorem total_grant : (spending.grant t payload).total rule' = spending.total rule' := by
  unfold Spending.grant
  cases hlatest : spending.latest t with
  | none => rfl
  | some charge =>
      have hmem : charge ∈ spending.outstanding := List.mem_of_find?_eq_some hlatest
      have hperm := List.perm_cons_erase hmem
      have hcount := hperm.countP_eq fun charge => decide (charge.2 = rule')
      rw [List.countP_cons] at hcount
      simp only [Spending.total, Option.elim_some, List.countP_cons, decide_eq_true_eq] at hcount ⊢
      omega

end Spending

namespace RuleBudgets

variable {d : Deployment P} {env : World} {t : ℕ} {s s' : Runtime P × Spending}

/-- The decision was charged to the rule it names. -/
def Charged (decision : Decision P) (spending : Spending) : Prop :=
  ∃ rule, decision.body.matchedRuleId = some rule ∧
    ((Sealed.codec P decisionSealing).encode decision, rule) ∈ spending.granted

/-- What holds at all times. -/
structure Inv (d : Deployment P) (s : Runtime P × Spending) : Prop where
  charged : ∀ rule, s.2.total rule = s.1.policy.ruleUses rule
  limited : ∀ rule ∈ d.manifest.body.allowedEgress.1,
    (s.1.policy.ruleUses rule.ruleId : ℤ) ≤ rule.maxRequests.1
  decided : ∀ event mirrored phase epoch, .committed event mirrored phase epoch ∈ s.1.history.log →
    ∀ decision, IsDecision event decision → decision.body.verdict = .allow → Charged decision s.2

/-- A decision is committed by the thread that was charged for it. -/
def Ready (t : ℕ) (s : Runtime P × Spending) : Op P → Prop
  | .commit .decision payload _ _ => ∃ decision : Decision P,
      payload = (Sealed.codec P decisionSealing).encode decision ∧
        (decision.body.verdict = .allow → ∃ rule, decision.body.matchedRuleId = some rule ∧
          s.2.latest t = some (t, rule))
  | _ => True

/-- Nobody else takes a charge away. -/
def Rely (t : ℕ) (s s' : Runtime P × Spending) : Prop := s'.2.latest t = s.2.latest t

/-! ## One operation -/

/-- Operations that neither charge nor decide. -/
def Op.Uncharged : Op P → Prop
  | .authorize .. => False
  | .commit kind .. => kind ≠ .decision
  | _ => True

theorem spending_uncharged {op : Op P} (hop : Op.Uncharged op) (s : Runtime P) (spending : Spending) :
    spendingAfter d op t s spending = spending := by
  cases op
  case authorize => exact absurd hop id
  case commit kind payload requestId ns => cases kind <;> first | rfl | exact absurd rfl hop
  all_goals rfl

theorem policy_exec {op : Op P} {r : op.Res} {s s' : Runtime P} (h : exec d env t s op = some (s', r))
    (hop : ∀ action now, op ≠ .authorize action now) : s'.policy = s.policy := by
  cases op
  case authorize action now => exact absurd rfl (hop action now)
  case commit kind payload requestId ns =>
    simp only [exec, Option.some.injEq] at h
    rcases commit_cases d env s kind payload requestId ns with ⟨_, heq⟩ |
      ⟨_, _, _, _, -, -, heq⟩ <;>
    · rw [heq, Prod.mk.injEq] at h
      obtain ⟨rfl, -⟩ := h
      rfl
  all_goals
    simp only [exec, onState_eq_some, Option.some.injEq, Prod.mk.injEq,
      Option.ite_none_right_eq_some] at h
  all_goals try split at h
  all_goals try split at h
  all_goals try simp only [Option.some.injEq, Prod.mk.injEq] at h
  all_goals first | obtain ⟨rfl, -⟩ := h | obtain ⟨-, rfl, -⟩ := h
  all_goals rfl

/-- An `authorize` call uses the rule it charges, within its limit. -/
theorem charge_authorize (engine : PolicyEngine) (action : Action P) (now : UtcTimestamp) :
    let after := (PolicyEngine.authorize d.manifest engine action now).1
    (chargedRule d engine action now = none ∧ after.ruleUses = engine.ruleUses) ∨
    ∃ rule ∈ d.manifest.body.allowedEgress.1, chargedRule d engine action now = some rule.ruleId ∧
      (engine.ruleUses rule.ruleId : ℤ) < rule.maxRequests.1 ∧
      ∀ id, after.ruleUses id = engine.ruleUses id + if id = rule.ruleId then 1 else 0 := by
  rcases PolicyEngine.settled_authorize d.manifest engine action now with ⟨code, heq⟩ |
    ⟨rule, hpermitted, hallow, hmatched, haffordable, hcharged⟩
  · refine .inl ⟨?_, by rw [heq]⟩
    have hkill : Verdict.kill ≠ .allow := by decide
    rw [chargedRule, heq]
    exact if_neg hkill
  · refine .inr ⟨rule, hpermitted.listed, ?_, haffordable.rule, hcharged.ruleUses⟩
    rw [chargedRule, if_pos hallow, hmatched]

theorem charged_append (h : ∀ rule, s.2.total rule = s.1.policy.ruleUses rule) {op : Op P} {r : op.Res}
    (hexec : (spendingService d).exec env t s op = some (s', r)) (rule : OpaqueId) :
    s'.2.total rule = s'.1.policy.ruleUses rule := by
  obtain ⟨hdone, hghost⟩ := ghost_exec.mp hexec
  by_cases hauthorize : ∃ action now, op = .authorize action now
  · obtain ⟨action, now, rfl⟩ := hauthorize
    have hpolicy : s'.1.policy = (PolicyEngine.authorize d.manifest s.1.policy action now).1 := by
      simp only [exec, Option.some.injEq, Prod.mk.injEq] at hdone
      rw [← hdone.1]
    rw [hghost, hpolicy]
    change ((chargedRule d s.1.policy action now).elim s.2 (s.2.charge t)).total rule = _
    rcases charge_authorize (d := d) s.1.policy action now with ⟨hnone, huses⟩ |
      ⟨rule', -, hsome, -, huses⟩
    · rw [hnone, huses]
      exact h rule
    · rw [hsome, huses, ← h rule]
      exact total_charge
  · simp only [not_exists] at hauthorize
    rw [policy_exec hdone hauthorize, ← h rule, hghost]
    by_cases hop : Op.Uncharged op
    · rw [spending_uncharged hop]
    · cases op
      case commit kind payload requestId ns =>
        obtain rfl : kind = .decision := not_not.mp hop
        exact total_grant
      case authorize action now => exact absurd rfl (hauthorize action now)
      all_goals exact absurd trivial hop

theorem limited_exec (h : Inv d s) {op : Op P} {r : op.Res}
    (hexec : (spendingService d).exec env t s op = some (s', r)) :
    ∀ rule ∈ d.manifest.body.allowedEgress.1,
      (s'.1.policy.ruleUses rule.ruleId : ℤ) ≤ rule.maxRequests.1 := by
  obtain ⟨hdone, -⟩ := ghost_exec.mp hexec
  intro rule hrule
  have hlimit := h.limited rule hrule
  by_cases hauthorize : ∃ action now, op = .authorize action now
  · obtain ⟨action, now, rfl⟩ := hauthorize
    simp only [exec, Option.some.injEq, Prod.mk.injEq] at hdone
    rw [← hdone.1]
    dsimp only
    rcases charge_authorize (d := d) s.1.policy action now with ⟨-, huses⟩ |
      ⟨rule', hrule', -, hbelow, huses⟩
    · rw [huses]
      exact hlimit
    · rw [huses]
      split_ifs with heq
      · obtain rfl := Manifest.rule_eq hrule hrule' heq
        push_cast
        omega
      · simpa using hlimit
  · simp only [not_exists] at hauthorize
    rw [policy_exec hdone hauthorize]
    exact hlimit

theorem granted_exec {op : Op P} {r : op.Res} (hexec : (spendingService d).exec env t s op = some (s', r))
    {grant : Json × OpaqueId} (h : grant ∈ s.2.granted) : grant ∈ s'.2.granted := by
  rw [(ghost_exec.mp hexec).2]
  by_cases hop : Op.Uncharged op
  · rw [spending_uncharged hop]
    exact h
  · cases op
    case authorize action now =>
      change grant ∈ ((chargedRule d s.1.policy action now).elim s.2 (s.2.charge t)).granted
      cases chargedRule d s.1.policy action now <;> exact h
    case commit kind payload requestId ns =>
      obtain rfl : kind = .decision := not_not.mp hop
      exact granted_grant h
    all_goals exact absurd trivial hop

theorem inv_exec {op : Op P} {r : op.Res} (h : Inv d s) (hready : Ready t s op)
    (hexec : (spendingService d).exec env t s op = some (s', r)) : Inv d s' := by
  refine ⟨charged_append h.charged hexec, limited_exec h hexec, ?_⟩
  obtain ⟨hdone, hghost⟩ := ghost_exec.mp hexec
  intro event mirrored phase epoch hmem decision hsays hallow
  have hkeep (hold : .committed event mirrored phase epoch ∈ s.1.history.log) : Charged decision s'.2 := by
    obtain ⟨rule, hmatched, hgranted⟩ := h.decided _ _ _ _ hold decision hsays hallow
    exact ⟨rule, hmatched, granted_exec hexec hgranted⟩
  by_cases hcommit : ∃ kind payload requestId ns, op = .commit kind payload requestId ns
  · obtain ⟨kind, payload, requestId, ns, rfl⟩ := hcommit
    simp only [exec, Option.some.injEq] at hdone
    rcases commit_cases d env s.1 kind payload requestId ns with ⟨_, heq⟩ |
      ⟨event', _, _, _, happend, -, heq⟩
    · rw [heq, Prod.mk.injEq] at hdone
      rw [← hdone.1] at hmem
      exact hkeep hmem
    · rw [heq, Prod.mk.injEq] at hdone
      rw [← hdone.1] at hmem
      rcases List.mem_append.mp hmem with hmem | hmem
      · exact hkeep hmem
      · -- The decision just committed is the one the thread was charged for.
        obtain ⟨rfl, -, -, -⟩ := Entry.committed.inj (List.mem_singleton.mp hmem)
        obtain ⟨hpayload, hkind, -⟩ := append_ok happend
        obtain rfl : kind = .decision := hkind.symm.trans hsays.1
        obtain ⟨decision', rfl, hcharge⟩ := hready
        obtain rfl : decision = decision' :=
          hsays.unique ⟨hkind, modelValidateJson_of_canonicalJson hpayload⟩
        obtain ⟨rule, hmatched, hlatest⟩ := hcharge hallow
        refine ⟨rule, hmatched, ?_⟩
        rw [hghost]
        exact mem_grant hlatest
  · have hlog : .committed event mirrored phase epoch ∈ s.1.history.log := by
      rcases Mediation.record_cases hdone with ⟨hlog, -⟩ | ⟨entry, hwrites, hlog, -⟩ |
        ⟨_, _, _, _, -, hlog, -⟩
      · rwa [← hlog]
      · rw [hlog] at hmem
        refine (List.mem_append.mp hmem).resolve_right fun hlast => ?_
        obtain rfl := List.mem_singleton.mp hlast
        cases op
        case commit => exact hcommit ⟨_, _, _, _, rfl⟩
        case release => cases hwrites
        case transport => cases hwrites
        all_goals exact absurd hwrites not_false
      · rwa [← hlog]
    exact hkeep hlog

theorem rely_exec {op : Op P} {r : op.Res} (hexec : (spendingService d).exec env t s op = some (s', r))
    {u : ℕ} (hu : u ≠ t) : Rely u s s' := by
  rw [Rely, (ghost_exec.mp hexec).2]
  by_cases hop : Op.Uncharged op
  · rw [spending_uncharged hop]
  · cases op
    case authorize action now =>
      change ((chargedRule d s.1.policy action now).elim s.2 (s.2.charge t)).latest u = _
      cases chargedRule d s.1.policy action now with
      | none => rfl
      | some rule => exact latest_charge_other hu
    case commit kind payload requestId ns =>
      obtain rfl : kind = .decision := not_not.mp hop
      exact latest_grant_other hu
    all_goals exact absurd trivial hop

variable (d) in
def discipline : Discipline (anySpending d) where
  inv := Inv d
  ready := Ready
  rely := Rely
  rely_refl _ _ := rfl
  rely_trans h h' := Eq.trans h' h
  act_inv h hready _ hexec := inv_exec h hready hexec
  act_rely _ _ _ hexec _ hu := rely_exec hexec hu

/-! ## Submissions -/

theorem ready_of_uncharged {op : Op P} (h : Op.Uncharged op) : Ready t s op := by
  cases op
  case commit kind payload requestId ns => cases kind <;> first | exact trivial | exact absurd rfl h
  all_goals exact trivial

/-- Code that decides nothing. -/
def Op.Undeciding : Op P → Prop
  | .commit kind .. => kind ≠ .decision
  | _ => True

theorem undeciding_of_side {op : Op P} (h : op.Side) : Op.Undeciding op := by
  cases op
  case commit kind payload requestId ns => rcases h with rfl | rfl | rfl <;> exact fun heq => by cases heq
  all_goals exact trivial

theorem undeciding_of_quiet {op : Op P} (h : op.Quiet) : Op.Undeciding op := by
  cases op <;> first | exact trivial | exact absurd h id

theorem clean_of_undeciding {α : Type} {p : Prog P α} (hp : p.All Op.Undeciding) :
    (discipline d).Clean p := by
  intro t s
  refine safe_of_all (K := fun _ => True) (fun _ _ => trivial) (fun {s op} hop _ _ => ?_)
    (fun _ _ _ _ _ => trivial) hp trivial
  by_cases hcharged : Op.Uncharged op
  · exact ready_of_uncharged hcharged
  · cases op
    case authorize => exact trivial
    case commit => exact absurd hop hcharged
    all_goals exact absurd trivial hcharged

theorem clean_side {α : Type} {p : Prog P α} (hp : p.All Op.Side) : (discipline d).Clean p :=
  clean_of_undeciding (all_mono (fun _ => undeciding_of_side) hp)

/-- The charge of an allowance is outstanding. -/
def Outstanding (t : ℕ) (result : PolicyResult) (s : Runtime P × Spending) : Prop :=
  result.verdict = .allow → ∃ rule, result.matchedRuleId = some rule ∧
    s.2.latest t = some (t, rule)

theorem Outstanding.rely {result : PolicyResult} (h : Outstanding t result s) (hrely : Rely t s s') :
    Outstanding t result s' := by
  intro hallow
  obtain ⟨rule, hmatched, hlatest⟩ := h hallow
  exact ⟨rule, hmatched, Eq.trans hrely hlatest⟩

theorem safe_uncharged {α : Type} {p : Prog P α} (hp : p.All Op.Uncharged) {result : PolicyResult}
    (h : Outstanding t result s) :
    (discipline d).Safe t (fun _ s => Outstanding t result s) p s :=
  safe_of_all (D := discipline d) (K := Outstanding t result) (fun hrely h => h.rely hrely)
    (fun hop _ _ => ready_of_uncharged hop)
    (fun hop _ hexec _ h => by
      unfold Outstanding
      rw [(ghost_exec.mp hexec).2, spending_uncharged hop]
      exact h) hp h

theorem safe_authorize (action : Action P) (now : UtcTimestamp) :
    (discipline d).Safe t (fun outcome s => ∀ result, outcome = .ok result → Outstanding t result s)
      (perform (.authorize action now) : Prog P PolicyResult) s := by
  refine safe_act fun s₁ _ _ => ⟨trivial, fun env s₂ r _ hexec _ => ?_⟩
  rintro result ⟨⟩
  obtain ⟨hdone, hghost⟩ := ghost_exec.mp hexec
  simp only [exec, Option.some.injEq, Prod.mk.injEq] at hdone
  intro hallow
  rcases PolicyEngine.settled_authorize d.manifest s₁.1.policy action now with ⟨code, heq⟩ |
    ⟨rule, -, -, hmatched, -⟩
  · rw [← hdone.2, heq] at hallow
    cases hallow
  · refine ⟨rule.ruleId, by rw [← hdone.2]; exact hmatched, ?_⟩
    have hcharged : chargedRule d s₁.1.policy action now = some rule.ruleId := by
      rw [chargedRule, hdone.2, if_pos hallow, ← hdone.2, hmatched]
    rw [hghost]
    change ((chargedRule d s₁.1.policy action now).elim s₁.2 (s₁.2.charge t)).latest t = _
    rw [hcharged]
    exact latest_charge_self

theorem clean_decideAction (action : Action P) (admittedNs : ℤ) :
    (discipline d).Clean (Gateway.decideAction d action admittedNs) := by
  have hperform (op : Op P) (hop : Op.Undeciding op) : (discipline d).Clean (perform op : Prog P _) :=
    clean_of_undeciding (all_perform hop)
  refine clean_bind (clean_ofExcept _) fun sha => ?_
  refine clean_bind (clean_handle (clean_bind (hperform _ fun heq => by cases heq) clean_ofExcept) fun error =>
    clean_bind (clean_side side_emergencyIsolate) fun _ => clean_raise error) fun request => ?_
  refine clean_bind (clean_side side_monotonicNow) fun decidedNs => ?_
  refine clean_bind (clean_side side_wallNow) fun wall => ?_
  refine clean_bind (clean_ofExcept _) fun decidedAt => ?_
  intro t s
  refine safe_seq (safe_authorize action decidedAt) (fun result s₁ h => ?_) fun _ _ _ => trivial
  have h := h result rfl
  -- The charge stays outstanding up to the commit of the decision.
  have huncharged (op : Op P) (hop : Op.Uncharged op) : (perform op : Prog P _).All Op.Uncharged :=
    all_perform hop
  have hlatch : (Gateway.latchOnKill result.verdict : Prog P Unit).All Op.Uncharged := by
    unfold Gateway.latchOnKill
    split_ifs
    · exact all_bind (huncharged _ trivial) fun _ => trivial
    · exact trivial
  have hauthorization : (Gateway.authorization d result.verdict decidedNs).All Op.Uncharged := by
    unfold Gateway.authorization
    split_ifs
    · exact all_bind (huncharged _ trivial) fun _ => trivial
    · exact trivial
  refine safe_seq (safe_uncharged hlatch h) (fun _ s₂ h => ?_) fun _ _ _ => trivial
  refine safe_seq (safe_uncharged (huncharged .currentEpoch trivial) h)
    (fun epoch s₃ h => ?_) fun _ _ _ => trivial
  refine safe_seq (safe_uncharged hauthorization h) (fun capability s₄ h => ?_) fun _ _ _ => trivial
  obtain ⟨authorizationId, expiresNs⟩ := capability
  dsimp only
  cases hdecision : Gateway.Deciding.decision d ⟨action, request, sha, decidedNs, decidedAt, result,
      epoch, authorizationId, expiresNs⟩ with
  | error error => exact trivial
  | ok decision =>
      rw [Program.ofExcept_ok, Program.ret_bind]
      obtain ⟨-, -, -, -, hverdict, hmatched, -⟩ := Mediation.fields_of_decision hdecision
      have hcommitted : (discipline d).Safe t (fun _ _ => True)
          (Gateway.commit .decision ((Sealed.codec P decisionSealing).encode decision)
            (some action.requestId.1) (some decidedNs)) s₄ := by
        refine safe_handle (safe_act fun s₅ hrely _ => ⟨⟨decision, rfl, ?_⟩, fun env s₆ r _ _ _ => ?_⟩)
        · rw [hverdict, hmatched]
          exact h.rely hrely
        · refine safe_ofExcept.mpr ?_
          cases r with
          | error error =>
              exact clean_bind (clean_side side_emergencyIsolate) (fun _ => clean_raise error) t s₆
          | ok event => exact trivial
      refine safe_seq hcommitted (fun _ s₅ _ => ?_) fun _ _ _ => trivial
      exact clean_bind (hperform (.recordDecision _) trivial) (fun _ => clean_side (side_conclude _ _ _ _)) t s₅

theorem clean_submitRaw (raw : Bytes) : (discipline d).Clean (Gateway.submitRaw d raw) := by
  refine clean_bind (clean_side side_monotonicNow) fun admittedNs => ?_
  split_ifs
  · exact clean_side (side_rejectLate _)
  have hadmit : (perform (.admitRaw raw.length admittedNs) : Prog P _).All
      Op.Undeciding := all_perform trivial
  refine clean_bind (clean_of_undeciding hadmit) fun admission => ?_
  cases admission with
  | droppedAfterKill => exact clean_ret _
  | firstOverload => exact clean_side (side_rejectOverload _ _)
  | admitted =>
      dsimp only
      cases Action.fromWire P raw with
      | ok action => exact clean_decideAction action admittedNs
      | error _ => exact clean_side (side_rejectMalformed _ _)

theorem covers : (discipline d).Covers fun _ _ _ => True := by
  refine covers_of_clean (fun call => ?_) (fun call outcome s h => ?_) fun call outcome s u => rfl
  · cases call with
    | submitRaw raw => exact clean_map (clean_submitRaw raw)
    | dispatch action decision ns =>
        exact clean_map (clean_of_undeciding (all_dispatch (fun _ => undeciding_of_quiet)
          (fun _ => undeciding_of_side) d action decision ns (fun _ _ heq => by cases heq)
          fun _ _ _ heq => by cases heq))
    | failClosed reasonCode requestId => exact clean_map (clean_side (side_failClosed _ _))
    | enforceRuntimeDeadline ns => exact clean_map (clean_side (side_enforceRuntimeDeadline d ns))
    | contain trigger ns => exact clean_map (clean_side (side_contain trigger ns))
    | emergencyIsolate => exact clean_map (clean_side side_emergencyIsolate)
    | complete => exact clean_map (clean_side (side_complete d))
    | receipt status => exact clean_map (clean_side (side_receipt d status))
  · dsimp only [spendingService]
    unfold retire
    split
    · exact ⟨h.charged, h.limited, h.decided⟩
    · exact h

theorem inv_init (witness : TransparencyWitness P) : Inv d (Runtime.init d witness, Spending.start) where
  charged _ := rfl
  limited rule _ := le_trans (by simp [Runtime.init, PolicyEngine.empty]) rule.maxRequests.le
  decided _ _ _ _ h := by cases h

/-- An allowance on record was charged. -/
theorem charged_of_onRecord (h : Inv d s) {decision : Decision P} {log : List (Entry P)}
    (hlog : ∀ entry ∈ log, entry ∈ s.1.history.log) (hrecord : OnRecord d decision log)
    (hallow : decision.body.verdict = .allow) : Charged decision s.2 := by
  obtain ⟨request, decided, action, ⟨before, phase, epoch, after, rfl, -⟩, -, hsays⟩ := hrecord
  exact h.decided decided true phase epoch (hlog _ (by simp)) decision hsays hallow

end RuleBudgets

/-- The authorization that an entry of the record uses up. -/
def Entry.carried : Entry P → Option OpaqueId
  | .transported _ id => some id
  | _ => none

theorem nodup_carried {d : Deployment P} {issuedOnly : Prop} {log : List (Entry P)}
    (h : Justified (Cleared d issuedOnly) log) : (log.filterMap Entry.carried).Nodup := by
  refine nodup_of_justified (h.mono fun before entry hcleared id hid other hother heq => ?_)
  cases entry with
  | committed => cases hid
  | released => cases hid
  | transported action id' =>
      obtain rfl := Option.some.inj hid
      cases other with
      | committed => cases heq
      | released => cases heq
      | transported action' id =>
          obtain rfl := Option.some.inj heq
          exact hcleared.2 action' hother

/-- No more transports are on record under a rule than its limit. A transport is under the rule
that the decision of its DISPATCH names. -/
def WithinBudgets (d : Deployment P) (log : List (Entry P)) : Prop :=
  ∀ rule ∈ d.manifest.body.allowedEgress.1, ∀ left : List (Action P × OpaqueId),
    (left.map fun departure => Entry.transported departure.1 departure.2).Sublist log →
    (∀ departure ∈ left, ∃ decision, Dispatched d True log departure.1 decision departure.2 ∧
      decision.body.matchedRuleId = some rule.ruleId) →
    (left.length : ℤ) ≤ rule.maxRequests.1

/-- The charges bound the transports. -/
theorem withinBudgets_of_charges {d : Deployment P} {s : Runtime P × Spending}
    (hcleared : Justified (Cleared d True) s.1.history.log) (hinv : RuleBudgets.Inv d s) :
    WithinBudgets d s.1.history.log := by
  intro rule hrule left hleft hunder
  -- Different transports carry different authorizations.
  have hnodup : (left.map fun departure => departure.2.1).Nodup := by
    have hsub := hleft.filterMap Entry.carried
    have hcarried : (left.map fun departure => Entry.transported departure.1 departure.2).filterMap
        Entry.carried = left.map Prod.snd := by
      rw [List.filterMap_map, ← List.filterMap_eq_map]
      rfl
    rw [hcarried] at hsub
    have hids := (hsub.nodup (nodup_carried hcleared)).map Subtype.val_injective
    rwa [List.map_map] at hids
  -- Each of them was granted to a decision of its own, under the rule.
  set charges := s.2.granted.filter fun grant => grant.2 = rule.ruleId with hcharges
  have hsubset : (left.map fun departure => departure.2.1) ⊆
      charges.filterMap fun grant => Coherence.authorizationOf P grant.1 := by
    intro text htext
    obtain ⟨departure, hmem, rfl⟩ := List.mem_map.mp htext
    obtain ⟨decision, hdispatched, hmatched⟩ := hunder departure hmem
    obtain ⟨event, before, after, hlog, -, -, hrecord⟩ := hdispatched.committed
    obtain ⟨rule', hmatched', hgranted⟩ := RuleBudgets.charged_of_onRecord hinv
      (fun entry hentry => by
        rw [hlog]
        exact List.mem_append_left _ hentry) (hrecord trivial) hdispatched.allow
    obtain rfl : rule' = rule.ruleId := Option.some.inj (hmatched'.symm.trans hmatched)
    refine List.mem_filterMap.mpr ⟨_, List.mem_filter.mpr ⟨hgranted, by simp⟩, ?_⟩
    rw [Coherence.authorizationOf_encode, hdispatched.named]
    rfl
  have htotal := hinv.charged rule.ruleId
  have hlimit := hinv.limited rule hrule
  have hlength : left.length ≤ charges.length := by
    calc left.length = (left.map fun departure => departure.2.1).length := by rw [List.length_map]
      _ ≤ (charges.filterMap fun grant => Coherence.authorizationOf P grant.1).length :=
        (hnodup.subperm hsubset).length_le
      _ ≤ charges.length := List.length_filterMap_le _ _
  rw [hcharges, ← List.countP_eq_length_filter] at hlength
  rw [Spending.total] at htotal
  change _ = s.1.policy.ruleUses rule.ruleId at htotal
  change (s.1.policy.ruleUses rule.ruleId : ℤ) ≤ _ at hlimit
  omega

/-- In every interleaving of any calls in which dispatches are handed decisions that the gateway
has returned, replayed or not, the transports that are started stay within the limits of the
rules. -/
theorem withinBudgets_of_reachable (P : Platform) (d : Deployment P)
    (witness : TransparencyWitness P) (c : Config (runtimeService d))
    (h : Reachable (issuedDispatches d) (Runtime.init d witness) c) :
    WithinBudgets d c.shared.history.log := by
  have hhanded : Reachable (handedDecisions d True) (Runtime.init d witness) c :=
    h.mono (fun _ _ hstart _ => hstart) fun _ _ _ _ => trivial
  have hcleared : Justified (Cleared d True) c.shared.history.log :=
    (invariant_of_reachable Mediation.covers (Mediation.inv_init witness) hhanded).cleared
  obtain ⟨spending, hreach⟩ : ∃ spending, Reachable (anySpending d)
      (Runtime.init d witness, Spending.start) (c.beside spending) :=
    steps_ghost (fun _ _ _ _ => trivial) (fun _ _ _ _ _ => trivial) h _
  exact withinBudgets_of_charges hcleared
    (invariant_of_reachable RuleBudgets.covers (RuleBudgets.inv_init witness) hreach)

open Reference in
/-- The theorem when the transport of a reference dispatch has been started. -/
theorem withinBudgets_transported : ∃ (manifest : Manifest platform)
    (c : Config (runtimeService (deployment manifest))),
    Reachable (issuedDispatches (deployment manifest))
      (Runtime.init (deployment manifest) Reference.witness) c ∧
    .transported action authorizationId ∈ c.shared.history.log ∧
    WithinBudgets (deployment manifest) c.shared.history.log := by
  obtain ⟨manifest, c, hreach, hmem⟩ := exists_transported
  exact ⟨manifest, c, hreach, hmem, withinBudgets_of_reachable _ _ _ _ hreach⟩

end Containment
