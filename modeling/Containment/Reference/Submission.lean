/-
# A submission on the reference deployment

The action of the reference tests goes through `submit_raw` while nothing fails: it is
admitted, requested, allowed and decided. The run is cut at the commit of the decision,
because the decision is only counted afterwards and other threads may run in between.
-/

import Containment.Concurrency.Execution
import Containment.Reference.Requests
import Containment.Runtime.Commit
import Containment.Runtime.Outage

namespace Containment

open Json Concurrency

namespace Reference

variable {manifest : Manifest platform}

/-! ## Parsing and policy -/

/-- The same action under another request ID. -/
def actionNamed (id : OpaqueId) : Action platform := { action with requestId := id }

/-- An action that differs from it in the request ID only, and has a wire form. -/
structure Servable (act : Action platform) : Prop where
  named : ∃ id, act = actionNamed id
  fits : Fits platform 63 6000 ((Action.codec platform).encode act)

theorem servable_action : Servable action := ⟨⟨action.requestId, rfl⟩, fits_action⟩

theorem Servable.exists_wire {act : Action platform} (h : Servable act) :
    ∃ raw : Bytes, Action.fromWire platform raw = .ok act ∧ raw.length ≤ 24000 := by
  obtain ⟨text, htext⟩ : ∃ text, canonicalJson platform ((Action.codec platform).encode act) =
      .ok text := ⟨_, h.fits.canonicalJson (by decide) (by decide)⟩
  refine ⟨utf8 text, ?_, ?_⟩
  · rw [Action.fromWire, parseCanonicalJson_of_canonicalJson htext, except_ok_bind,
      (Action.codec platform).decode_encode]
  · obtain ⟨-, -, -, -, rfl⟩ := canonicalJson_eq_ok.mp htext
    have hutf8 := length_utf8_le ((Action.codec platform).encode act).orderForJcs.text
    have hdumps := length_dumps ((Action.codec platform).encode act).orderForJcs
    have hspan := h.fits.span
    rw [span_orderForJcs] at hdumps
    rw [Json.text, String.toList_ofList] at hutf8
    rw [Json.text]
    omega

theorem exists_wire : ∃ raw : Bytes, Action.fromWire platform raw = .ok action ∧
    raw.length ≤ 24000 := servable_action.exists_wire

theorem ruleMatches_action : PolicyEngine.ruleMatches rule action = true := by decide +kernel

theorem manifestBody_active : ¬ (textLt (timestamp now).1 manifestBody.notBefore.1 ∨
    textLt manifestBody.expiresAt.1 (timestamp now).1) := by decide +kernel

theorem credentialId_action : action.credentialId = some packageGrant.credentialId := rfl

theorem find?_packageGrant : manifestBody.credentials.1.find?
    (fun item => item.credentialId = packageGrant.credentialId) = some packageGrant := by
  have hcredentials : manifestBody.credentials.1 = [canaryGrant, packageGrant] := rfl
  have hcanary : canaryGrant.credentialId ≠ packageGrant.credentialId := by decide
  rw [hcredentials, List.find?_cons_of_neg (by simpa using hcanary)]
  exact List.find?_cons_of_pos (by simp)

theorem packageGrant_scope : ¬ (packageGrant.audience.1 ≠ action.host.1 ∨
    rule.ruleId ∉ packageGrant.allowedRuleIds.1 ∨
    textLt packageGrant.expiresAt.1 (timestamp now).1) := by decide +kernel

theorem selectGrant_action (hm : Signed manifest) :
    PolicyEngine.selectGrant manifest action rule (timestamp now) = .ok (some packageGrant) := by
  have hcanary : ¬ packageGrant.isCanary = true := by decide
  simp only [PolicyEngine.selectGrant, credentialId_action, hm.body, find?_packageGrant,
    if_neg hcanary, if_neg packageGrant_scope]

theorem filter_action : manifestBody.allowedEgress.1.filter (fun rule =>
    rule.host.1 = action.host.1 ∧ rule.port.1 = action.port.1) = [rule] := by
  have hrules : manifestBody.allowedEgress.1 = [rule] := rfl
  have horigin : rule.host.1 = action.host.1 ∧ rule.port.1 = action.port.1 := by decide
  rw [hrules]
  exact List.filter_cons_of_pos (decide_eq_true horigin)

/-- The policy reaches the budget of the one rule. -/
theorem authorize_action (hm : Signed manifest) (engine : PolicyEngine) :
    PolicyEngine.authorize manifest engine action (timestamp now) =
      PolicyEngine.charge engine rule (some packageGrant) := by
  refine PolicyEngine.authorize_of_match ?_ ?_ ruleMatches_action (selectGrant_action hm)
  · rw [hm.body]
    exact manifestBody_active
  · rw [hm.body]
    exact filter_action

/-- The policy does not look at the request ID. -/
theorem Servable.authorize {act : Action platform} (h : Servable act) (hm : Signed manifest)
    (engine : PolicyEngine) : PolicyEngine.authorize manifest engine act (timestamp now) =
      PolicyEngine.charge engine rule (some packageGrant) := by
  obtain ⟨id, rfl⟩ := h.named
  exact authorize_action hm engine

/-- A policy result that allows the action. -/
def allowedResult : PolicyResult :=
  ⟨.allow, ⟨"policy.allowed", by decide⟩, some rule.ruleId, false⟩

/-- The counters that have to stay below a limit for the next submission. -/
structure Roomy (n : ℕ) (s : Runtime platform) : Prop where
  phase : s.state.phase = .running
  epoch : s.state.killEpoch = 0
  criteria : s.state.criteria = criteria
  admitted : s.state.admitted ≤ n
  window : s.state.windowCount ≤ n
  inflight : s.state.inflight ≤ n
  egress : s.state.egressBytes + s.state.reservedEgressBytes ≤ 1048576
  rule : s.policy.ruleUses rule.ruleId ≤ n
  grant : s.policy.credentialUses packageGrant.credentialId ≤ n
  stateLock : s.stateLock = none

theorem roomy_init (hm : Signed manifest) :
    Roomy 0 (Runtime.init (deployment manifest) witness) where
  phase := rfl
  epoch := rfl
  criteria := by
    change manifest.body.killCriteria = Reference.criteria
    rw [hm.body]
    rfl
  admitted := le_rfl
  window := le_rfl
  inflight := le_rfl
  egress := show (0 : ℤ) + 0 ≤ 1048576 by decide
  rule := le_rfl
  grant := le_rfl
  stateLock := rfl

theorem charge_action {engine : PolicyEngine} {n : ℕ} (hn : n ≤ 50)
    (hrule : engine.ruleUses rule.ruleId ≤ n)
    (hgrant : engine.credentialUses packageGrant.credentialId ≤ n) :
    PolicyEngine.charge engine rule (some packageGrant) =
      (⟨Function.update engine.ruleUses rule.ruleId (engine.ruleUses rule.ruleId + 1),
        Function.update engine.credentialUses packageGrant.credentialId
          (engine.credentialUses packageGrant.credentialId + 1)⟩, allowedResult) := by
  have hrules : ¬ (engine.ruleUses rule.ruleId : ℤ) ≥ rule.maxRequests.1 := by
    change ¬ (engine.ruleUses rule.ruleId : ℤ) ≥ 10000
    omega
  have hgrants : ¬ (engine.credentialUses packageGrant.credentialId : ℤ) ≥ packageGrant.maxUses.1 := by
    change ¬ (engine.credentialUses packageGrant.credentialId : ℤ) ≥ 10000
    omega
  rw [PolicyEngine.charge]
  dsimp only
  rw [if_neg hrules, if_neg hgrants]
  rfl

/-! ## The steps of a submission -/

/-- What a commit leaves behind. -/
structure Committed (manifest : Manifest platform) (s s' : Runtime platform)
    (event : Event platform) (ns : ℤ) : Prop where
  ledger : s'.ledger = { s.ledger with events := s.ledger.events ++ [event] }
  observed : EvidenceMirror.Observed manifest s'.mirror
  agrees : Agrees (s.ledger.events ++ [event]) s'.mirror
  last : s'.mirror.lastMonotonicNs = some ns
  dropped : s'.history.dropped = s.history.dropped
  others : ∃ mirror history, s' = { s with
    ledger := s'.ledger, mirror := mirror, history := history }

theorem Committed.healthy {s s' : Runtime platform} {event : Event platform} {ns : ℤ}
    (h : Committed manifest s s' event ns) (hs : Healthy manifest s ns)
    (hroom : s.ledger.events.length < 900) : Healthy manifest s' ns where
  observed := h.observed
  agrees := by rw [h.ledger]; exact h.agrees
  unsealed := by rw [h.ledger]; exact hs.unsealed
  room := by
    rw [h.ledger, List.length_append, List.length_singleton]
    omega
  last := by
    rw [h.last]
    rintro _ ⟨⟩
    exact le_rfl

theorem Committed.state {s s' : Runtime platform} {event : Event platform} {ns : ℤ}
    (h : Committed manifest s s' event ns) : s'.state = s.state := by
  obtain ⟨_, _, heq⟩ := h.others
  rw [heq]

variable {rule₀ : RunRule (runtimeService (deployment manifest))} {t : ℕ}

/-- The operations of a submission at one moment that is allowed. -/
def Calm (ns : ℤ) : Op platform → Prop
  | .monotonicClock | .wallClock | .admitRaw .. | .authorize .. | .currentEpoch | .tokenHex
  | .recordDecision _ => True
  | .commit kind _ _ monotonicNs =>
      (kind = .request ∨ kind = .decision) ∧ ∀ n ∈ monotonicNs, n = ns
  | _ => False

/-- If the operation is a commit, it succeeds. -/
def Succeeds (manifest : Manifest platform) (ns : ℤ) (s : Runtime platform) : Op platform → Prop
  | .commit kind payload requestId monotonicNs => ∃ event,
      (s.commit (deployment manifest) (world ns) kind payload requestId monotonicNs).2 = .ok event
  | _ => True

theorem exists_gatewayCommit {s : Runtime platform} {ns : SafeNonNegativeInt} {kind : EventKind}
    {payload : Json} {requestId : Option String} {n : Option ℤ}
    (hmove : Succeeds manifest ns.1 s (.commit kind payload requestId n) →
      rule₀.moves s (.commit kind payload requestId n) (world ns.1))
    (h : Healthy manifest s ns.1) (hfits : Fits platform 64 100000 payload)
    (hrequest : ∀ id ∈ requestId, opaqueIdCheck id = .ok ()) (hns : ∀ m ∈ n, m = ns.1) :
    ∃ event s', Ends rule₀ t s (raising (perform (.commit kind payload requestId n)))
        s' (.ok event) ∧ Committed manifest s s' event ns.1 ∧ event.body.kind = kind ∧
      event.body.requestId.map Subtype.val = requestId ∧ event.body.monotonicNs.1 = ns.1 ∧
      canonicalJson platform payload = .ok event.body.payloadCanonicalJson.1 := by
  have hreading : reading (world ns.1).toClocks n = .ok ns.1 := by
    cases n with
    | none => rfl
    | some m =>
        rw [hns m rfl]
        rfl
  obtain ⟨event, mirror, hcommit, hkind', hid, htime, htext, hlast, hobserved, hagrees⟩ :=
    exists_commit (world ns.1) n ns h hfits hrequest rfl rfl hreading kind
  have hexec : exec (deployment manifest) (world ns.1) t s
      (.commit kind payload requestId n) = some (Runtime.note { s with
        ledger := { s.ledger with events := s.ledger.events ++ [event] }
        mirror := mirror } (.committed event true s.state.phase s.state.killEpoch),
        .ok event) := by
    rw [exec, hcommit]
  have hsucceeds : Succeeds manifest ns.1 s (.commit kind payload requestId n) :=
    ⟨event, by rw [hcommit]⟩
  exact ⟨event, _, ends_raising (ends_perform (world ns.1) (hmove hsucceeds) hexec),
    ⟨rfl, hobserved, hagrees, hlast, rfl, mirror, _, rfl⟩, hkind', hid, htime, htext⟩

theorem wouldOverload_eq_false {state : RunState} {bytes : ℤ} {n : ℕ} (hn : n ≤ 50)
    (hcriteria : state.criteria = criteria) (hadmitted : state.admitted ≤ n)
    (hwindow : state.windowCount ≤ n) (hinflight : state.inflight ≤ n) (hbytes : bytes ≤ 24000) :
    state.wouldOverload bytes = false := by
  have hlimits : criteria.maxEventPayloadBytes.1 = 262144 ∧
      criteria.maxAdmittedRequests.1 = 10000 ∧ criteria.maxRequestsPerWindow.1 = 128 ∧
      criteria.maxInflightRequests.1 = 64 := ⟨rfl, rfl, rfl, rfl⟩
  simp only [RunState.wouldOverload, hcriteria, hlimits, Bool.or_eq_false_iff,
    decide_eq_false_iff_not]
  omega

/-- Admission of a small request into a roomy run. -/
theorem exists_admitted {s : Runtime platform} {n : ℕ} (hn : n ≤ 50) (h : Roomy n s) {raw : Bytes}
    (hraw : raw.length ≤ 24000) (ns : ℤ) :
    ∃ window count, (count = 0 ∨ count = s.state.windowCount) ∧
      s.state.admitRaw raw.length ns = ({ s.state with
        observed := s.state.observed + 1
        windowStartedNs := window
        windowCount := count + 1
        admitted := s.state.admitted + 1 }, .admitted) := by
  have hbytes : (raw.length : ℤ) ≤ 24000 := by exact_mod_cast hraw
  have hphase : ¬ s.state.phase ≠ .running := not_not.mpr h.phase
  obtain ⟨window, count, hcount, hopen⟩ : ∃ window count,
      (count = 0 ∨ count = s.state.windowCount) ∧
      RunState.openWindow { s.state with observed := s.state.observed + 1 } ns = { s.state with
        observed := s.state.observed + 1
        windowStartedNs := window
        windowCount := count } := by
    unfold RunState.openWindow
    dsimp only
    split
    · exact ⟨_, 0, .inl rfl, rfl⟩
    · split_ifs
      · exact ⟨_, 0, .inl rfl, rfl⟩
      · exact ⟨_, s.state.windowCount, .inr rfl, rfl⟩
  have hwindow := h.window
  have hover : RunState.wouldOverload { s.state with
      observed := s.state.observed + 1
      windowStartedNs := window
      windowCount := count } raw.length = false :=
    wouldOverload_eq_false hn h.criteria h.admitted (show count ≤ n by omega) h.inflight hbytes
  refine ⟨window, count, hcount, ?_⟩
  rw [RunState.admitRaw]
  dsimp only
  rw [if_neg hphase, hopen, hover]
  rfl

/-- The body of the decision on the action, as the gateway fills it in. -/
def decidedBody (act : Action platform) (manifest : Manifest platform) (request : Event platform) (digest : Sha256Hex)
    (ns expires : SafeNonNegativeInt) (h : ns.1 < expires.1) : DecisionBody where
  runId := manifest.body.runId
  manifestHash := manifest.manifestHash
  requestId := act.requestId
  requestEventSequence := request.body.sequence
  requestEventHash := request.eventHash
  actionSha256 := digest
  gatewayKeyId := manifest.body.gatewayKey.keyId
  gatewayInstanceId := ⟨"gateway-instance:demo", opaqueId_gatewayInstance⟩
  decidedAt := timestamp now
  decisionMonotonicNs := ns
  killEpoch := ⟨0, safeInt_zero⟩
  verdict := .allow
  reasonCode := ⟨"policy.allowed", opaqueId_allowed⟩
  matchedRuleId := some rule.ruleId
  hardViolation := false
  authorizationId := some authorizationId
  authorizationExpiresMonotonicNs := some expires
  authorizationMaxUses := some ()
  coherent := by
    simp [DecisionBodyFields.capabilityMatchesVerdict, bind_eq_ok, ensure_eq_ok]
    exact h

/-- The gateway can sign it. -/
theorem exists_decision (act : Action platform) (hm : Signed manifest) (request : Event platform) (digest : Sha256Hex)
    {ns expires : SafeNonNegativeInt} (hexpires : ns.1 + 1000000000 = expires.1)
    (hlt : ns.1 < expires.1) :
    ∃ decision : Decision platform, Gateway.Deciding.decision (deployment manifest)
        ⟨act, request, digest.1, ns.1, timestamp now, allowedResult, 0, some "auth:00",
          some (ns.1 + 1000000000)⟩ = .ok decision ∧
      decision.body = decidedBody act manifest request digest ns expires hlt ∧
      decision.verify manifest.body.gatewayKey = .ok () ∧
      Fits platform 64 100000 ((Sealed.codec platform decisionSealing).encode decision) := by
  have htext := (fits_decisionBody lawful (decidedBody act manifest request digest ns expires hlt)).canonicalJson
    (by decide) (by decide)
  obtain ⟨decision, hsign, hbody, hverify⟩ := Sealed.exists_sign lawful
    (F := decisionSealing) htext keys.gateway
  refine ⟨decision, ?_, hbody, hverify _ rfl hm.gateway_public, ?_⟩
  · have hmade : Gateway.Deciding.body (deployment manifest)
        ⟨act, request, digest.1, ns.1, timestamp now, allowedResult, 0, some "auth:00",
          some (ns.1 + 1000000000)⟩ = .ok (decidedBody act manifest request digest ns expires hlt) := by
      have hdigest : validate "action_sha256" sha256HexCheck digest.1 = .ok digest :=
        validate_of_ok digest.2
      have hns : validate "decision_monotonic_ns" (intRange 0 maxSafeInteger) ns.1 = .ok ns :=
        validate_of_ok ns.2
      have hauthorization : validateOption "authorization_id" opaqueIdCheck (some "auth:00") =
          .ok (some authorizationId) := by
        rw [validateOption, validate_of_ok (show opaqueIdCheck "auth:00" = .ok () by decide)]
        rfl
      have hexpiry : validateOption "authorization_expires_monotonic_ns"
          (intRange 0 maxSafeInteger) (some (ns.1 + 1000000000)) = .ok (some expires) := by
        rw [validateOption, hexpires, validate_of_ok expires.2]
        rfl
      have hepoch : validate "kill_epoch" (intRange 0 maxSafeInteger) (0 : ℤ) =
          .ok ⟨0, by decide⟩ := validate_of_ok _
      rw [Gateway.Deciding.body]
      dsimp only
      rw [hdigest, except_ok_bind, hns, except_ok_bind, hepoch, except_ok_bind, hauthorization,
        except_ok_bind, hexpiry, except_ok_bind, DecisionBody.make, checked_of_ok]
      · rfl
      · exact (decidedBody act manifest request digest ns expires hlt).coherent
    rw [Gateway.Deciding.decision, hmade, except_ok_bind]
    exact hsign
  · have hfits := fits_sealed_at lawful (fits_decisionBody lawful decision.body)
      (show IsAscii decisionSealing.hashName ∧ _ by decide)
      (show IsAscii decisionSealing.signatureName ∧ _ by decide)
    exact hfits.mono (by decide) (by decide)

/-- The code of a submission once its decision is in the ledger. -/
def decidedCode (act : Action platform) (decision : Decision platform) (digest : Sha256Hex) :
    Prog platform (GatewayResult platform) := do
  perform (.recordDecision .allow)
  Gateway.conclude act digest.1 allowedResult decision

/-- Where a submission stands when its decision is in the ledger and not yet counted. -/
structure Decided (act : Action platform) (manifest : Manifest platform) (s s' : Runtime platform)
    (request decided : Event platform) (decision : Decision platform) (digest : Sha256Hex)
    (ns expires : SafeNonNegativeInt) : Prop where
  hashed : act.digest = .ok digest.1
  body : ∃ hlt, decision.body = decidedBody act manifest request digest ns expires hlt
  verified : decision.verify manifest.body.gatewayKey = .ok ()
  requested : request.body.kind = .request ∧ request.body.requestId = some act.requestId
  located : IsDecision decided decision
  events : s'.ledger.events = s.ledger.events ++ [request, decided]
  healthy : Healthy manifest s' ns.1
  last : s'.mirror.lastMonotonicNs = some ns.1
  state : ∃ window count, (count = 0 ∨ count = s.state.windowCount) ∧ s'.state = { s.state with
    observed := s.state.observed + 1
    windowStartedNs := window
    windowCount := count + 1
    admitted := s.state.admitted + 1 }
  policy : s'.policy.ruleUses rule.ruleId = s.policy.ruleUses rule.ruleId + 1 ∧
    s'.policy.credentialUses packageGrant.credentialId =
      s.policy.credentialUses packageGrant.credentialId + 1
  dropped : s'.history.dropped = s.history.dropped
  others : ∃ ledger mirror history, s' = { s with
    state := s'.state, policy := s'.policy, ledger := ledger, mirror := mirror,
    history := history }

/-- Everything up to the commit of the decision. -/
theorem Servable.runs_submitRaw {act : Action platform} (hact : Servable act) (hm : Signed manifest) {s : Runtime platform} {ns expires : SafeNonNegativeInt}
    (hmoves : ∀ s op, Healthy manifest s ns.1 → Calm ns.1 op → Succeeds manifest ns.1 s op →
      rule₀.moves s op (world ns.1))
    (hhealthy : Healthy manifest s ns.1) {n : ℕ} (hn : n ≤ 50) (hroomy : Roomy n s) (hshort : s.ledger.events.length < 800)
    (hns : 1000 ≤ ns.1 ∧ ns.1 ≤ 1000000000000) (hexpires : ns.1 + 1000000000 = expires.1)
    {raw : Bytes} (hwire : Action.fromWire platform raw = .ok act) (hraw : raw.length ≤ 24000) :
    ∃ s' request decided decision digest,
      Runs rule₀ t s (Gateway.submitRaw (deployment manifest) raw) s' (decidedCode act decision digest) ∧
      Decided act manifest s s' request decided decision digest ns expires := by
  obtain ⟨digest, hdigest⟩ := exists_digest_of_fits hact.fits
  obtain ⟨window, count, hcount, hadmission⟩ := exists_admitted hn hroomy hraw ns.1
  have hlt : ns.1 < expires.1 := by omega
  have hidentifier : ∀ id ∈ some act.requestId.1, opaqueIdCheck id = .ok () := by
    rintro _ ⟨⟩
    exact act.requestId.2
  have hnow : ∀ m ∈ some ns.1, m = ns.1 := by
    rintro _ ⟨⟩
    rfl
  -- The clock and the runtime limit.
  have hclock {s : Runtime platform} (h : Healthy manifest s ns.1) :
      Ends rule₀ t s (monotonicNow : Prog platform ℤ) s (.ok ns.1) :=
    ends_raising (ends_perform (world ns.1) (hmoves _ _ h trivial trivial) (by simp only [exec, world]))
  have hwall {s : Runtime platform} (h : Healthy manifest s ns.1) :
      Ends rule₀ t s (wallNow : Prog platform Datetime) s (.ok (.aware now)) :=
    ends_raising (ends_perform (world ns.1) (hmoves _ _ h trivial trivial) (by simp only [exec, world]))
  have hlimit : ¬ ns.1 - (deployment manifest).startedMonotonicNs >
      Supervisor.runtimeLimitNs (deployment manifest) := by
    change ¬ ns.1 - 1000 > manifest.body.killCriteria.maxRuntimeMs.1 * 1000000
    rw [hm.body]
    change ¬ ns.1 - 1000 > 3600000 * 1000000
    omega
  -- Admission.
  set s₁ : Runtime platform := { s with state := { s.state with
    observed := s.state.observed + 1
    windowStartedNs := window
    windowCount := count + 1
    admitted := s.state.admitted + 1 } } with hs₁
  have hadmitted : Ends rule₀ t s (perform (.admitRaw raw.length ns.1) : Prog platform Admission) s₁
      (.ok .admitted) := by
    refine ends_perform (world ns.1) (hmoves _ _ hhealthy trivial trivial) ?_
    simp only [exec]
    exact onState_eq_some.mpr ⟨hroomy.stateLock, by rw [hadmission], by rw [hadmission]⟩
  -- The request.
  have hhealthy₁ : Healthy manifest s₁ ns.1 :=
    ⟨hhealthy.observed, hhealthy.agrees, hhealthy.unsealed, hhealthy.room, hhealthy.last⟩
  obtain ⟨request, s₂, hrequest, hcommitted, hkind, hid, -, htext⟩ :=
    exists_gatewayCommit (t := t) (n := some ns.1) (hmoves _ _ hhealthy₁ ⟨.inl rfl, hnow⟩) hhealthy₁
      (fits_requestPayload_of_fits hact.fits digest) hidentifier hnow
  have hhealthy₂ := hcommitted.healthy hhealthy₁ (show s.ledger.events.length < 900 by omega)
  have hstate₂ : s₂.state = s₁.state := hcommitted.state
  obtain ⟨mirror₂, history₂, hothers₂⟩ := hcommitted.others
  have hpolicy₂ : s₂.policy = s.policy := by rw [hothers₂]
  have hlock₂ : s₂.stateLock = none := by rw [hothers₂]; exact hroomy.stateLock
  have hevents₂ : s₂.ledger.events = s.ledger.events ++ [request] := by rw [hcommitted.ledger]
  -- The policy.
  set s₃ : Runtime platform := { s₂ with policy :=
    ⟨Function.update s.policy.ruleUses rule.ruleId (s.policy.ruleUses rule.ruleId + 1),
      Function.update s.policy.credentialUses packageGrant.credentialId
        (s.policy.credentialUses packageGrant.credentialId + 1)⟩ } with hs₃
  have hhealthy₃ : Healthy manifest s₃ ns.1 :=
    ⟨hhealthy₂.observed, hhealthy₂.agrees, hhealthy₂.unsealed, hhealthy₂.room, hhealthy₂.last⟩
  have hauthorized : Ends rule₀ t s₂
      (perform (.authorize act (timestamp now)) : Prog platform PolicyResult) s₃
      (.ok allowedResult) := by
    refine ends_perform (world ns.1) (hmoves _ _ hhealthy₂ trivial trivial) ?_
    simp only [exec]
    rw [show (deployment manifest).manifest = manifest from rfl, hact.authorize hm, hpolicy₂,
      charge_action hn hroomy.rule hroomy.grant]
  have hepoch : Ends rule₀ t s₃ (perform .currentEpoch : Prog platform ℤ) s₃ (.ok 0) := by
    refine ends_perform (world ns.1) (hmoves _ _ hhealthy₃ trivial trivial) ?_
    have hzero : s₃.state.killEpoch = 0 := by
      rw [hs₃]
      exact (congrArg RunState.killEpoch hstate₂).trans hroomy.epoch
    simp only [exec]
    exact onState_eq_some.mpr ⟨hlock₂, rfl, hzero⟩
  -- The capability.
  set s₄ : Runtime platform := { s₃ with history := { s₃.history with
    tokens := s₃.history.tokens ++ ["00"] } } with hs₄
  have htoken : Ends rule₀ t s₃ (Gateway.authorization (deployment manifest) .allow ns.1) s₄
      (.ok (some "auth:00", some (ns.1 + 1000000000))) := by
    have hhex : Ends rule₀ t s₃ (perform .tokenHex : Prog platform String) s₄ (.ok "00") :=
      ends_perform (world ns.1) (hmoves _ _ hhealthy₃ trivial trivial) (by simp only [exec, world, hs₄])
    exact Ends.bind hhex (.refl _ _)
  obtain ⟨decision, hdecision, hbody, hverify, hfits⟩ := exists_decision act hm request digest
    hexpires hlt
  have hsigned : Ends rule₀ t s₄ (.ofExcept (Gateway.Deciding.decision (deployment manifest)
      ⟨act, request, digest.1, ns.1, timestamp now, allowedResult, 0, some "auth:00",
        some (ns.1 + 1000000000)⟩) : Prog platform (Decision platform)) s₄ (.ok decision) := by
    rw [hdecision]
    exact ends_ret
  have hhealthy₄ : Healthy manifest s₄ ns.1 :=
    ⟨hhealthy₂.observed, hhealthy₂.agrees, hhealthy₂.unsealed, hhealthy₂.room, hhealthy₂.last⟩
  obtain ⟨decided, s₅, hdecided, hcommitted₅, hkind₅, hid₅, -, htext₅⟩ :=
    exists_gatewayCommit (t := t) (n := some ns.1) (hmoves _ _ hhealthy₄ ⟨.inr rfl, hnow⟩) hhealthy₄
      hfits hidentifier hnow
  have hlength₄ : s₄.ledger.events.length < 900 := by
    change s₂.ledger.events.length < 900
    rw [hevents₂, List.length_append, List.length_singleton]
    omega
  obtain ⟨mirror₅, history₅, hothers₅⟩ := hcommitted₅.others
  have hrequestId := requestId_eq_of_map hid
  refine ⟨s₅, request, decided, decision, digest, ?_, ?_⟩
  · refine Ends.bind (hclock hhealthy) ?_
    rw [if_neg hlimit]
    refine Ends.bind hadmitted ?_
    simp only [hwire]
    rw [Gateway.decideAction, hdigest]
    refine Ends.bind ends_ret (Ends.bind (Ends.handle hrequest) ?_)
    refine Ends.bind (hclock hhealthy₂) (Ends.bind (hwall hhealthy₂) (Ends.bind ends_ret ?_))
    refine Ends.bind hauthorized (Ends.bind ends_ret (Ends.bind hepoch (Ends.bind htoken ?_)))
    exact Ends.bind hsigned (Ends.bind (Ends.handle hdecided) (.refl _ _))
  · refine ⟨hdigest, ⟨hlt, hbody⟩, hverify, ⟨hkind, hrequestId⟩,
      ⟨hkind₅, modelValidateJson_of_canonicalJson htext₅⟩, ?_, hcommitted₅.healthy hhealthy₄ hlength₄,
      hcommitted₅.last, ⟨window, count, hcount, ?_⟩, ?_,
      hcommitted₅.dropped.trans hcommitted.dropped, ?_⟩
    · rw [hcommitted₅.ledger]
      change s₂.ledger.events ++ [decided] = _
      rw [hevents₂, List.append_assoc]
      rfl
    · rw [hcommitted₅.state]
      exact hstate₂
    · have hpolicy₅ : s₅.policy = s₃.policy := by rw [hothers₅]
      rw [hpolicy₅]
      simp only [hs₃, Function.update_self, and_self]
    · refine ⟨s₅.ledger, mirror₅, history₅, ?_⟩
      rw [hothers₅, hs₄, hs₃, hothers₂]

/-! ## Whole submissions -/

/-- The state once the decision is counted as well. -/
def counted (s : Runtime platform) : Runtime platform :=
  { s with state := s.state.recordDecision .allow }

variable {s s' : Runtime platform} {request decided : Event platform} {decision : Decision platform}
  {digest : Sha256Hex} {ns expires : SafeNonNegativeInt}

theorem Decided.roomy {act : Action platform} (h : Decided act manifest s s' request decided decision digest ns expires)
    {n : ℕ} (hroomy : Roomy n s) : Roomy (n + 1) (counted s') := by
  obtain ⟨window, count, hcount, hstate⟩ := h.state
  obtain ⟨hrule, hgrant⟩ := h.policy
  obtain ⟨_, _, _, hothers⟩ := h.others
  have hwindow := hroomy.window
  have hadmitted := hroomy.admitted
  have hinflight := hroomy.inflight
  have hcounted : (counted s').state = { s.state with
      observed := s.state.observed + 1
      windowStartedNs := window
      windowCount := count + 1
      admitted := s.state.admitted + 1
      allowed := s.state.allowed + 1 } := by
    rw [counted, hstate]
    rfl
  refine ⟨?_, ?_, ?_, ?_, ?_, ?_, ?_, ?_, ?_, ?_⟩
  · rw [hcounted]
    exact hroomy.phase
  · rw [hcounted]
    exact hroomy.epoch
  · rw [hcounted]
    exact hroomy.criteria
  · rw [hcounted]
    push_cast
    exact add_le_add hadmitted le_rfl
  · rw [hcounted]
    push_cast
    change count + 1 ≤ (n : ℤ) + 1
    omega
  · rw [hcounted]
    push_cast
    change s.state.inflight ≤ (n : ℤ) + 1
    omega
  · rw [hcounted]
    exact hroomy.egress
  · change s'.policy.ruleUses rule.ruleId ≤ n + 1
    rw [hrule]
    exact Nat.succ_le_succ hroomy.rule
  · change s'.policy.credentialUses packageGrant.credentialId ≤ n + 1
    rw [hgrant]
    exact Nat.succ_le_succ hroomy.grant
  · change s'.stateLock = none
    rw [hothers]
    exact hroomy.stateLock

/-- A submission that nothing disturbs returns an allowance. -/
theorem Servable.exists_submitRaw {act : Action platform} (hact : Servable act) (rule₀ : RunRule (runtimeService (deployment manifest))) (t : ℕ)
    (ns expires : SafeNonNegativeInt) (hm : Signed manifest)
    (hmoves : ∀ s op, Healthy manifest s ns.1 → Calm ns.1 op → Succeeds manifest ns.1 s op →
      rule₀.moves s op (world ns.1))
    (hhealthy : Healthy manifest s ns.1) {n : ℕ} (hn : n ≤ 50) (hroomy : Roomy n s)
    (hshort : s.ledger.events.length < 800) (hns : 1000 ≤ ns.1 ∧ ns.1 ≤ 1000000000000)
    (hexpires : ns.1 + 1000000000 = expires.1) {raw : Bytes}
    (hwire : Action.fromWire platform raw = .ok act) (hraw : raw.length ≤ 24000) :
    ∃ s' request decided decision digest,
      Ends rule₀ t s (body (deployment manifest) (.submitRaw raw)) (counted s')
        (.ok (.submitted ⟨true, "policy.allowed", some act, some decision⟩)) ∧
      Decided act manifest s s' request decided decision digest ns expires := by
  obtain ⟨s', request, decided, decision, digest, hruns, hdecided⟩ :=
    hact.runs_submitRaw (t := t) hm hmoves hhealthy hn hroomy hshort hns hexpires hwire hraw
  refine ⟨s', request, decided, decision, digest, ?_, hdecided⟩
  have hlock : s'.stateLock = none := (hdecided.roomy hroomy).stateLock
  have hrecord : Ends rule₀ t s' (perform (.recordDecision .allow) : Prog platform Unit) (counted s')
      (.ok ()) := by
    refine ends_perform (world ns.1) (hmoves _ _ hdecided.healthy trivial trivial) ?_
    simp only [exec]
    exact onState_eq_some.mpr ⟨hlock, rfl, rfl⟩
  have hconclude : Ends rule₀ t (counted s')
      (Gateway.conclude act digest.1 allowedResult decision) (counted s')
      (.ok ⟨true, "policy.allowed", some act, some decision⟩) := by
    unfold Gateway.conclude
    rw [if_neg (show ¬ allowedResult.verdict = .kill by decide)]
    exact ends_ret
  have hends : Ends rule₀ t s (Gateway.submitRaw (deployment manifest) raw) (counted s')
      (.ok ⟨true, "policy.allowed", some act, some decision⟩) :=
    hruns.trans (Ends.bind hrecord hconclude)
  exact Ends.bind hends ends_ret

theorem exists_submitRaw (rule₀ : RunRule (runtimeService (deployment manifest))) (t : ℕ)
    (ns expires : SafeNonNegativeInt) (hm : Signed manifest)
    (hmoves : ∀ s op, Healthy manifest s ns.1 → Calm ns.1 op → Succeeds manifest ns.1 s op →
      rule₀.moves s op (world ns.1))
    (hhealthy : Healthy manifest s ns.1) {n : ℕ} (hn : n ≤ 50) (hroomy : Roomy n s)
    (hshort : s.ledger.events.length < 800) (hns : 1000 ≤ ns.1 ∧ ns.1 ≤ 1000000000000)
    (hexpires : ns.1 + 1000000000 = expires.1) {raw : Bytes}
    (hwire : Action.fromWire platform raw = .ok action) (hraw : raw.length ≤ 24000) :
    ∃ s' request decided decision digest,
      Ends rule₀ t s (body (deployment manifest) (.submitRaw raw)) (counted s')
        (.ok (.submitted ⟨true, "policy.allowed", some action, some decision⟩)) ∧
      Decided action manifest s s' request decided decision digest ns expires :=
  servable_action.exists_submitRaw rule₀ t ns expires hm hmoves hhealthy hn hroomy hshort hns hexpires
    hwire hraw

end Reference

end Containment
