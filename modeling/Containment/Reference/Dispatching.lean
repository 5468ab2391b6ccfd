/-
# A dispatch on the reference deployment

A dispatch of the decision that a submission returned: verified, bound, registered, reserved
and committed, then released to its transport, and its result committed and settled. It can
be cut at the commit, at the transport and at its end. What the clock reads at the commit is
left to the caller.
-/

import Containment.Reference.Submission
import Containment.Runtime.Payloads

namespace Containment

open Json Concurrency

/-- No DISPATCH is committed. -/
def undispatched {P : Platform} (d : Deployment P) : RunRule (runtimeService d) where
  starts _ _ := True
  moves _ op _ := ∀ payload requestId ns, op ≠ .commit .dispatch payload requestId ns

namespace Reference

variable {manifest : Manifest platform} {rule₀ : RunRule (runtimeService (deployment manifest))}
  {t : ℕ} {s s' : Runtime platform} {request decided : Event platform}
  {decision : Decision platform} {digest : Sha256Hex} {ns expires : SafeNonNegativeInt} {now : ℤ}

theorem matchedRule_decision (hm : Signed manifest) {body : DecisionBody}
    (h : body.matchedRuleId = some rule.ruleId) :
    Executor.matchedRule (deployment manifest) body = .ok rule := by
  have hfind : manifestBody.allowedEgress.1.find?
      (fun item => some item.ruleId = some rule.ruleId) = some rule :=
    List.find?_cons_of_pos (by simp)
  rw [Executor.matchedRule, h, show (deployment manifest).manifest.body = manifestBody from hm.body,
    hfind]

/-- The state under the lease of the decision. -/
def leased (s : Runtime platform) (t : ℕ) : Runtime platform :=
  { s with
    state := { s.state with
      consumedAuthorizations := insert "auth:00" s.state.consumedAuthorizations
      dispatched := s.state.dispatched + 1
      inflight := s.state.inflight + 1
      reservedEgressBytes := s.state.reservedEgressBytes + 1048576
      activeAuthorizations := s.state.activeAuthorizations.insert "auth:00" 1048576 }
    stateLock := some t
    history := { s.history with owner := s.history.owner.insert "auth:00" t } }

/-- The state with the dispatch registered. -/
def registered (s : Runtime platform) : Runtime platform :=
  { s with inflight := s.inflight.insert "auth:00" false }

/-- The checks of the decision pass. -/
theorem dispatch_decided (hm : Signed manifest)
    (h : Decided action manifest s s' request decided decision digest ns expires) :
    Executor.dispatch (deployment manifest) action decision now =
      raising (perform (.register authorizationId)) >>= fun _ =>
        (Executor.attemptDispatch action decision authorizationId now 1048576).finalize
          (perform (.unregister authorizationId)) := by
  obtain ⟨hlt, hbody⟩ := h.body
  have hverify : decision.verify (deployment manifest).manifest.body.gatewayKey = .ok () := h.verified
  have hbind : Executor.checkBinding (deployment manifest) action decision.body = .ok () := by
    simp only [Executor.checkBinding, bind_eq_ok, Unique.exists_iff, ensure_eq_ok, h.hashed,
      Except.ok.injEq, exists_eq_left']
    rw [hbody]
    exact ⟨rfl, rfl, rfl, rfl⟩
  have hrule := matchedRule_decision hm (show decision.body.matchedRuleId = _ by rw [hbody]; rfl)
  have hid : decision.body.authorizationId = some authorizationId := by
    rw [hbody]
    rfl
  rw [Executor.dispatch, hverify, hbind, hrule, hid]
  rfl

theorem exec_register (env : World) (t : ℕ) {s₀ : Runtime platform}
    (hfresh : "auth:00" ∉ s₀.inflight) :
    exec (deployment manifest) env t s₀ (.register authorizationId) =
      some (registered s₀, .ok ()) := by
  have hinsert : s₀.inflight.register authorizationId.1 = .ok (s₀.inflight.insert "auth:00" false) :=
    if_neg hfresh
  simp only [exec, hinsert, registered]

/-- What the code of a dispatch does after the decision has been checked. -/
theorem runs_dispatch (env : World) (hm : Signed manifest)
    (hmoves : ∀ s, rule₀.moves s (.register authorizationId) env)
    (h : Decided action manifest s s' request decided decision digest ns expires)
    {s₀ s₁ : Runtime platform} (hfresh : "auth:00" ∉ s₀.inflight)
    {code : Prog platform TransportResult}
    (hruns : Runs rule₀ t (registered s₀)
      (Executor.attemptDispatch action decision authorizationId now 1048576) s₁ code) :
    Runs rule₀ t s₀ (Executor.dispatch (deployment manifest) action decision now) s₁
      (code.finalize (perform (.unregister authorizationId))) := by
  have hregister : Ends rule₀ t s₀ (raising (perform (.register authorizationId)) :
      Prog platform Unit) (registered s₀) (.ok ()) :=
    ends_raising (ends_perform env (hmoves _) (exec_register env t hfresh))
  rw [dispatch_decided hm h]
  exact Ends.bind hregister (Runs.bind (Runs.attempt hruns))

/-- A fresh capability gets its lease. -/
theorem ends_reserve (t : ℕ) (env : World)
    (hmoves : ∀ s, rule₀.moves s (.reserve decision.body now 1048576) env)
    (h : Decided action manifest s s' request decided decision digest ns expires)
    {s₀ : Runtime platform} {n : ℕ} (hroomy : Roomy n s₀)
    (hfresh : "auth:00" ∉ s₀.state.consumedAuthorizations) (hlive : now ≤ expires.1) :
    Ends rule₀ t s₀ (raising (perform (.reserve decision.body now 1048576)))
      (leased s₀ t) (.ok ⟨"auth:00", 1048576⟩) := by
  obtain ⟨hlt, hbody⟩ := h.body
  have hverdict : decision.body.verdict = .allow := by
    rw [hbody]
    rfl
  have hepoch : decision.body.killEpoch.1 = s₀.state.killEpoch := by
    rw [hbody, hroomy.epoch]
    rfl
  have hid : decision.body.authorizationId = some authorizationId := by
    rw [hbody]
    rfl
  have hexpires : decision.body.authorizationExpiresMonotonicNs = some expires := by
    rw [hbody]
    rfl
  have hbudget : s₀.state.egressBytes + s₀.state.reservedEgressBytes + 1048576 ≤
      s₀.state.criteria.maxTotalEgressBytes.1 := by
    have hlimit : criteria.maxTotalEgressBytes.1 = 8388608 := rfl
    have hegress := hroomy.egress
    rw [hroomy.criteria, hlimit]
    omega
  have hreserve := RunState.reserve_of_capability hroomy.phase hverdict hepoch hid hexpires hlive
    hfresh (by decide) hbudget
  refine ends_raising (ends_perform env (hmoves _) ?_)
  simp only [exec, hroomy.stateLock, if_true, hreserve]
  rfl

/-- Where a submission leaves the run for the dispatch of its decision. -/
theorem Decided.dispatchable (hm : Signed manifest)
    (h : Decided action manifest (Runtime.init (deployment manifest) Reference.witness) s' request decided
      decision digest ns expires) {now : ℤ} (hle : ns.1 ≤ now) {s₀ : Runtime platform} {history}
    (hs₀ : s₀ = { counted s' with history := history }) :
    Roomy 1 s₀ ∧ Healthy manifest s₀ now ∧ "auth:00" ∉ s₀.inflight ∧
      "auth:00" ∉ s₀.state.consumedAuthorizations := by
  obtain ⟨ledger, mirror, history', hothers⟩ := h.others
  obtain ⟨window, count, -, hstate⟩ := h.state
  have hroomy := h.roomy (roomy_init hm)
  subst hs₀
  refine ⟨⟨hroomy.phase, hroomy.epoch, hroomy.criteria, hroomy.admitted, hroomy.window,
      hroomy.inflight, hroomy.egress, hroomy.rule, hroomy.grant, hroomy.stateLock⟩,
    ⟨h.healthy.observed, h.healthy.agrees, h.healthy.unsealed, h.healthy.room,
      fun last hlast => (h.healthy.last last hlast).trans hle⟩, ?_, ?_⟩
  · change "auth:00" ∉ s'.inflight
    rw [hothers]
    exact AList.notMem_empty _
  · change "auth:00" ∉ (s'.state.recordDecision .allow).consumedAuthorizations
    rw [hstate]
    exact Finset.notMem_empty _

/-- The operations of a dispatch of the decision that is answered. -/
def Delivering (decision : Decision platform) : Op platform → Prop
  | .register _ | .confirm | .release _ | .transport .. | .prepareFinish .. | .settle ..
  | .unregister _ => True
  | .reserve body .. => body = decision.body
  | .commit kind _ _ ns => (kind = .dispatch ∨ kind = .result) ∧ ns = none
  | _ => False

/-- The first section of a dispatch up to the release of the state lock. The event is appended
at a later moment than the expiry was tested. -/
theorem exists_begun (rule₀ : RunRule (runtimeService (deployment manifest))) (t : ℕ)
    (now : SafeNonNegativeInt) {tested : ℤ} (hlive : tested ≤ expires.1)
    (h : Decided action manifest s s' request decided decision digest ns expires)
    (hmoves : ∀ s op, Delivering decision op → Succeeds manifest now.1 s op →
      rule₀.moves s op (world now.1))
    {s₀ : Runtime platform} {n : ℕ} (hroomy : Roomy n s₀) (hhealthy : Healthy manifest s₀ now.1)
    (hconsumed : "auth:00" ∉ s₀.state.consumedAuthorizations) :
    ∃ s₁ event, Runs rule₀ t s₀
        (Executor.beginAuthorized action decision authorizationId tested 1048576) s₁ (do
          perform .confirm
          return ⟨"auth:00", 1048576⟩) ∧
      s₁.ledger.events = s₀.ledger.events ++ [event] ∧ event.body.kind = .dispatch ∧
      canonicalJson platform (Executor.dispatchPayload digest.1 decision authorizationId) =
        .ok event.body.payloadCanonicalJson.1 ∧
      event.body.monotonicNs.1 = now.1 ∧
      (s₀.ledger.events.length + 1 < 1000 → Healthy manifest s₁ now.1) ∧
      s₁.history.dropped = s₀.history.dropped ∧
      ∃ ledger mirror history, s₁ = { leased s₀ t with
        ledger := ledger, mirror := mirror, history := history } := by
  have hleased := ends_reserve t (world now.1) (fun s => hmoves s _ rfl trivial) h hroomy hconsumed hlive
  set s₁ := leased s₀ t with hs₁
  have hhealthy₁ : Healthy manifest s₁ now.1 :=
    ⟨hhealthy.observed, hhealthy.agrees, hhealthy.unsealed, hhealthy.room, hhealthy.last⟩
  have hfits : Fits platform 64 100000
      (Executor.dispatchPayload digest.1 decision authorizationId) := by
    rw [encode_dispatchPayload]
    exact (fits_dispatchPayload lawful _).mono (by decide) (by decide)
  obtain ⟨event, s₂, hdispatched, hcommitted, hkind, -, htime, htext⟩ :=
    exists_gatewayCommit (t := t) (n := none) (hmoves s₁ (.commit .dispatch _ _ _) ⟨.inl rfl, rfl⟩)
      hhealthy₁ hfits opaqueId_request (fun _ hmem => by cases hmem)
  obtain ⟨mirror, history, hothers⟩ := hcommitted.others
  refine ⟨s₂, event, ?_, by rw [hcommitted.ledger]; rfl, hkind, htext, htime, fun hroom => ?_,
    hcommitted.dropped, _, _, _, hothers⟩
  · refine Ends.bind hleased ?_
    rw [h.hashed]
    exact Ends.bind (Ends.attempt (Ends.bind ends_ret hdispatched)) (.refl _ _)
  · refine ⟨hcommitted.observed, by rw [hcommitted.ledger]; exact hcommitted.agrees, ?_, ?_,
      fun last hmem => ?_⟩
    · rw [hcommitted.ledger]
      exact hhealthy.unsealed
    · rw [hcommitted.ledger]
      change (s₀.ledger.events ++ [event]).length < 1000
      rwa [List.length_append, List.length_singleton]
    · rw [hcommitted.last, Option.mem_some] at hmem
      exact hmem.symm.le

theorem Roomy.registered {n : ℕ} {s₀ : Runtime platform} (h : Roomy n s₀) :
    Roomy n (registered s₀) :=
  ⟨h.phase, h.epoch, h.criteria, h.admitted, h.window, h.inflight, h.egress, h.rule, h.grant,
    h.stateLock⟩

theorem Healthy.registered {now : ℤ} {s₀ : Runtime platform} (h : Healthy manifest s₀ now) :
    Healthy manifest (registered s₀) now :=
  ⟨h.observed, h.agrees, h.unsealed, h.room, h.last⟩

/-- A dispatch whose event is appended at a later moment than the expiry was tested. -/
theorem exists_dispatched (rule₀ : RunRule (runtimeService (deployment manifest))) (t : ℕ)
    (now : SafeNonNegativeInt) {tested : ℤ} (hlive : tested ≤ expires.1) (hm : Signed manifest)
    (h : Decided action manifest s s' request decided decision digest ns expires)
    (hmoves : ∀ s op, Delivering decision op → Succeeds manifest now.1 s op →
      rule₀.moves s op (world now.1))
    {s₀ : Runtime platform} {n : ℕ} (hroomy : Roomy n s₀) (hhealthy : Healthy manifest s₀ now.1)
    (hinflight : "auth:00" ∉ s₀.inflight)
    (hconsumed : "auth:00" ∉ s₀.state.consumedAuthorizations) :
    ∃ s₁ event code, Runs rule₀ t s₀
        (Executor.dispatch (deployment manifest) action decision tested) s₁ code ∧
      s₁.ledger.events = s₀.ledger.events ++ [event] ∧ event.body.kind = .dispatch ∧
      canonicalJson platform (Executor.dispatchPayload digest.1 decision authorizationId) =
        .ok event.body.payloadCanonicalJson.1 ∧
      event.body.monotonicNs.1 = now.1 := by
  obtain ⟨s₁, event, hbegun, hevents, hkind, htext, htime, -⟩ := exists_begun rule₀ t now hlive h
    hmoves hroomy.registered hhealthy.registered hconsumed
  have hruns := runs_dispatch (world now.1) hm (fun s => hmoves s _ trivial trivial) h
    hinflight (Runs.bind (Runs.attempt hbegun))
  exact ⟨s₁, event, _, hruns, hevents, hkind, htext, htime⟩

/-- The code of a dispatch that has its lease. -/
def leasedCode (decision : Decision platform) : Prog platform TransportResult :=
  (Executor.deliver action decision authorizationId 1048576 ⟨"auth:00", 1048576⟩).handle
    (Executor.failed action authorizationId (some ⟨"auth:00", 1048576⟩))

/-- A dispatch that has its lease and has released the state lock, with its transport still to
come. -/
theorem exists_inflight (rule₀ : RunRule (runtimeService (deployment manifest))) (t : ℕ)
    (now : SafeNonNegativeInt) {tested : ℤ} (hlive : tested ≤ expires.1) (hm : Signed manifest)
    (h : Decided action manifest s s' request decided decision digest ns expires)
    (hmoves : ∀ s op, Delivering decision op → Succeeds manifest now.1 s op →
      rule₀.moves s op (world now.1)) {s₀ : Runtime platform} {n : ℕ}
    (hroomy : Roomy n s₀) (hhealthy : Healthy manifest s₀ now.1)
    (hroom : s₀.ledger.events.length + 1 < 1000) (hinflight : "auth:00" ∉ s₀.inflight)
    (hconsumed : "auth:00" ∉ s₀.state.consumedAuthorizations) :
    ∃ s₁ event, Runs rule₀ t s₀
        (Executor.dispatch (deployment manifest) action decision tested) s₁
        ((leasedCode decision).finalize (perform (.unregister authorizationId))) ∧
      s₁.ledger.events = s₀.ledger.events ++ [event] ∧ event.body.kind = .dispatch ∧
      canonicalJson platform (Executor.dispatchPayload digest.1 decision authorizationId) =
        .ok event.body.payloadCanonicalJson.1 ∧
      Healthy manifest s₁ now.1 ∧ s₁.history.dropped = s₀.history.dropped ∧
      ∃ ledger mirror history, s₁ = { leased (registered s₀) t with
        stateLock := none, ledger := ledger, mirror := mirror, history := history } := by
  obtain ⟨s₁, event, hbegun, hevents, hkind, htext, -, hhealthy₁, hdropped, ledger, mirror, history,
      hs₁⟩ :=
    exists_begun rule₀ t now hlive h hmoves hroomy.registered hhealthy.registered hconsumed
  have hhealthy₁ := hhealthy₁ hroom
  have hlock : s₁.stateLock = some t := by rw [hs₁]; rfl
  have hconfirmed : Ends rule₀ t s₁ (perform .confirm : Prog platform Unit)
      { s₁ with stateLock := none } (.ok ()) := by
    refine ends_perform (world now.1) (hmoves _ _ trivial trivial) ?_
    simp only [exec, hlock, if_true]
  have hleased : Ends rule₀ t (registered s₀)
      (Executor.beginAuthorized action decision authorizationId tested 1048576)
      { s₁ with stateLock := none } (.ok ⟨"auth:00", 1048576⟩) :=
    hbegun.trans (Ends.bind hconfirmed ends_ret)
  have hruns := runs_dispatch (world now.1) hm (fun s => hmoves s _ trivial trivial) h hinflight
    (Ends.bind (Ends.attempt hleased) (.refl _ _))
  exact ⟨_, event, hruns, hevents, hkind, htext, ⟨hhealthy₁.observed, hhealthy₁.agrees,
    hhealthy₁.unsealed, hhealthy₁.room, hhealthy₁.last⟩, hdropped, ledger, mirror, history,
    by rw [hs₁]⟩

/-! ## The end of a dispatch -/

/-- The broker has the credential of the reference action. -/
theorem releaseCredential_action (hm : Signed manifest) :
    releaseCredential (deployment manifest).secrets (deployment manifest).manifest action =
      .ok (some (utf8 "demo-package-secret")) := by
  rw [releaseCredential, show (deployment manifest).manifest.body = manifestBody from hm.body]
  rfl

/-- The answer of the reference transport. -/
def response : TransportResult := ⟨200, 2, genesisHash⟩

/-- The state once the transport has been started. -/
def carried (s : Runtime platform) : Runtime platform :=
  Runtime.note (Runtime.note s (.released action)) (.transported action authorizationId)

/-- The transport of a leased dispatch is started, and answers. -/
theorem runs_carried {α : Type} (t : ℕ) (now : ℤ) (hm : Signed manifest)
    (hmoves : ∀ s op, Delivering decision op → Succeeds manifest now s op →
      rule₀.moves s op (world now)) {s₁ s₂ : Runtime platform}
    {next : TransportResult → Prog platform α} {code : Prog platform α}
    (hrest : Runs rule₀ t (carried s₁) (next response) s₂ code) :
    Runs rule₀ t s₁ (do
      let secret ← raising (perform (.release action))
      let result ← raising (perform (.transport action secret 1048576 authorizationId))
      next result) s₂ code := by
  have hreleased : Ends rule₀ t s₁
      (raising (perform (.release action)) : Prog platform (Option Bytes))
      (Runtime.note s₁ (.released action)) (.ok (some (utf8 "demo-package-secret"))) := by
    refine ends_raising (ends_perform (world now) (hmoves _ _ trivial trivial) ?_)
    simp only [exec, releaseCredential_action hm]
    rfl
  have htransported : Ends rule₀ t (Runtime.note s₁ (.released action))
      (raising (perform (.transport action (some (utf8 "demo-package-secret")) 1048576
        authorizationId)) : Prog platform TransportResult) (carried s₁) (.ok response) := by
    refine ends_raising (ends_perform (world now) (hmoves _ _ trivial trivial) ?_)
    simp only [exec]
    rfl
  exact Ends.bind hreleased (Ends.bind htransported hrest)

/-- The state once the result is settled. -/
def settled (s : Runtime platform) : Runtime platform :=
  { s with
    state := s.state.settle ⟨"auth:00", 1048576⟩ 1048576 2
    stateLock := none
    inflight := s.inflight.erase "auth:00" }

/-- A leased dispatch is answered, and its result is committed. -/
theorem exists_delivered (rule₀ : RunRule (runtimeService (deployment manifest))) (t : ℕ)
    (now : SafeNonNegativeInt) (hm : Signed manifest)
    (hhashed : action.digest = .ok digest.1)
    (hmoves : ∀ s op, Delivering decision op → Succeeds manifest now.1 s op →
      rule₀.moves s op (world now.1)) {s₁ : Runtime platform}
    (hhealthy : Healthy manifest s₁ now.1) (hroom : s₁.ledger.events.length < 900)
    (hlock : s₁.stateLock = none)
    (hactive : s₁.state.activeAuthorizations.lookup "auth:00" = some 1048576) :
    ∃ s₂ event, Ends rule₀ t s₁
        ((leasedCode decision).finalize (perform (.unregister authorizationId))) s₂ (.ok response) ∧
      s₂.ledger.events = s₁.ledger.events ++ [event] ∧ event.body.kind = .result ∧
      Healthy manifest s₂ now.1 ∧ s₂.history.dropped = s₁.history.dropped ∧
      ∃ ledger mirror history, s₂ = { settled s₁ with
        ledger := ledger, mirror := mirror, history := history } := by
  set s₃ : Runtime platform := { carried s₁ with stateLock := some t } with hs₃
  have hprepared : Ends rule₀ t (carried s₁)
      (raising (perform (.prepareFinish ⟨"auth:00", 1048576⟩ 2)) : Prog platform ℤ) s₃
      (.ok 1048576) := by
    have hprepare : (carried s₁).state.prepareFinish ⟨"auth:00", 1048576⟩ 2 =
        (s₁.state, .ok 1048576) := by
      change RunState.prepareFinish s₁.state _ _ = _
      simp only [RunState.prepareFinish, hactive]
      rfl
    refine ends_raising (ends_perform (world now.1) (hmoves _ _ trivial trivial) ?_)
    simp only [exec]
    rw [if_pos (show (carried s₁).stateLock = none from hlock), hprepare]
    rfl
  have hhealthy₃ : Healthy manifest s₃ now.1 :=
    ⟨hhealthy.observed, hhealthy.agrees, hhealthy.unsealed, hhealthy.room, hhealthy.last⟩
  have hfits : Fits platform 64 100000
      (Executor.resultPayload digest.1 decision authorizationId response) := by
    have hencode := @encode_resultPayload _ digest ⟨genesisHash, genesisHash_check⟩ decision
      authorizationId ⟨2, by decide⟩ ⟨200, by decide⟩
    rw [response, hencode]
    exact (fits_resultPayload lawful _).mono (by decide) (by decide)
  obtain ⟨event, s₄, hresult, hcommitted, hkind, -⟩ :=
    exists_gatewayCommit (t := t) (n := none) (hmoves s₃ (.commit .result _ _ _) ⟨.inr rfl, rfl⟩)
      hhealthy₃ hfits opaqueId_request (fun _ hmem => by cases hmem)
  obtain ⟨mirror, history, hothers⟩ := hcommitted.others
  have hhealthy₄ := hcommitted.healthy hhealthy₃ hroom
  set s₅ : Runtime platform := { s₄ with
    state := s₄.state.settle ⟨"auth:00", 1048576⟩ 1048576 2
    stateLock := none } with hs₅
  have hsettled : Ends rule₀ t s₄
      (perform (.settle ⟨"auth:00", 1048576⟩ 1048576 2) : Prog platform Unit) s₅ (.ok ()) := by
    have hheld : s₄.stateLock = some t := by rw [hothers]
    refine ends_perform (world now.1) (hmoves _ _ trivial trivial) ?_
    simp only [exec, hheld, if_true]
    rfl
  have hunregistered : Ends rule₀ t s₅ (perform (.unregister authorizationId) : Prog platform Unit)
      { s₅ with inflight := s₅.inflight.erase "auth:00" } (.ok ()) := by
    refine ends_perform (world now.1) (hmoves _ _ trivial trivial) ?_
    simp only [exec]
    rfl
  have hfinished : Ends rule₀ t (carried s₁)
      (Executor.finishAuthorized action decision authorizationId ⟨"auth:00", 1048576⟩ response) s₅
      (.ok ()) := by
    refine Ends.bind hprepared ?_
    rw [hhashed]
    exact Ends.bind (Ends.attempt (Ends.bind ends_ret hresult)) hsettled
  have hdelivered : Ends rule₀ t s₁
      (Executor.deliver action decision authorizationId 1048576 ⟨"auth:00", 1048576⟩) s₅
      (.ok response) := by
    refine runs_carried t now.1 hm hmoves ?_
    rw [ensure_of (show response.responseBytes ≤ 1048576 by decide)]
    exact Ends.bind ends_ret (Ends.bind hfinished ends_ret)
  refine ⟨_, event, Ends.finalize (Ends.handle hdelivered) hunregistered, ?_, hkind,
    ⟨hhealthy₄.observed, hhealthy₄.agrees, hhealthy₄.unsealed, hhealthy₄.room, hhealthy₄.last⟩,
    hcommitted.dropped, s₄.ledger, mirror, history, ?_⟩
  · change s₄.ledger.events = _
    rw [hcommitted.ledger]
    rfl
  · rw [hs₅, hothers]
    rfl

/-! ## One request -/

/-- The state of a run of one allowed request, without its ledger and its dispatch. -/
def requested (manifest : Manifest platform) (window : Option ℤ) (count : ℤ) : RunState :=
  { RunState.init (deployment manifest).manifest.body.killCriteria with
    windowStartedNs := window
    windowCount := count
    observed := 0 + 1
    admitted := 0 + 1
    allowed := 0 + 1 }

/-- A run of one request whose dispatch has its lease and waits for its transport. -/
structure Inflight (manifest : Manifest platform) (s : Runtime platform) : Prop where
  healthy : Healthy manifest s 2000
  dispatched : ∃ request decided event, s.ledger.events = [request, decided, event] ∧
    request.body.kind = .request ∧ decided.body.kind = .decision ∧ event.body.kind = .dispatch
  dropped : s.history.dropped = 0
  roomy : Roomy 2 s
  shape : ∃ window count policy ledger mirror history,
    s = { Runtime.init (deployment manifest) Reference.witness with
      state := { requested manifest window count with
        consumedAuthorizations := insert "auth:00" ∅
        dispatched := 0 + 1
        inflight := 0 + 1
        reservedEgressBytes := 0 + 1048576
        activeAuthorizations := AList.insert "auth:00" 1048576 ∅ }
      policy := policy
      ledger := ledger
      mirror := mirror
      inflight := AList.insert "auth:00" false ∅
      history := history }

/-- What the two calls of an answered request perform. -/
def Peaceful (op : Op platform) : Prop := Calm 2000 op ∨ ∃ decision, Delivering decision op

/-- Such a run is reached, with the dispatch on the first thread. -/
theorem exists_inflight_call (rule₀ : RunRule (runtimeService (deployment manifest)))
    (hm : Signed manifest) (hsubmit : ∀ s raw, rule₀.starts s (.submitRaw raw))
    (hmoves : ∀ s op, Peaceful op → Succeeds manifest 2000 s op → rule₀.moves s op (world 2000)) :
    ∃ (s₀ s₁ : Runtime platform) (decision : Decision platform) (digest : Sha256Hex),
      CallStep rule₀ (Runtime.init (deployment manifest) Reference.witness) s₀ ∧
      Runs rule₀ 0 s₀ (Executor.dispatch (deployment manifest) action decision 2000) s₁
        ((leasedCode decision).finalize (perform (.unregister authorizationId))) ∧
      action.digest = .ok digest.1 ∧ decision.body.authorizationId = some authorizationId ∧
      Inflight manifest s₁ := by
  obtain ⟨raw, hwire, hraw⟩ := exists_wire
  obtain ⟨s', request, decided, decision, digest, hends, hdecided⟩ :=
    exists_submitRaw rule₀ 0 ⟨2000, by decide⟩ ⟨1000002000, by decide⟩ hm
      (fun s op _ hop => hmoves s op (.inl hop)) (healthy_init manifest 2000) (by decide) (roomy_init hm)
      (show 0 < 800 by decide) ⟨by decide, by decide⟩ rfl hwire hraw
  obtain ⟨s₀, history₀, hs₀, hdropped₀, hcall⟩ : ∃ s₀ history,
      s₀ = { counted s' with history := history } ∧ history.dropped = s'.history.dropped ∧
      CallStep rule₀ (Runtime.init (deployment manifest) Reference.witness) s₀ :=
    ⟨_, { s'.history with issued := s'.history.issued ++ [decision] }, rfl, rfl,
      .call 0 (Call.submitRaw raw) _ (hsubmit _ _) hends⟩
  obtain ⟨hroomy, hhealthy, hinflight, hconsumed⟩ := hdecided.dispatchable hm (le_refl 2000) hs₀
  have hevents₀ : s₀.ledger.events = [request, decided] := by
    rw [hs₀]
    exact hdecided.events
  obtain ⟨s₁, event, hruns, hevents, hkind, -, hhealthy₁, hdropped, ledger, mirror, history, hs₁⟩ :=
    exists_inflight rule₀ 0 ⟨2000, by decide⟩
      (show (2000 : ℤ) ≤ (⟨1000002000, by decide⟩ : SafeNonNegativeInt).1 by decide) hm hdecided
      (fun s op hop => hmoves s op (.inr ⟨decision, hop⟩)) hroomy hhealthy
      (by rw [hevents₀]; exact (by decide : 2 + 1 < 1000)) hinflight hconsumed
  obtain ⟨hlt, hbody⟩ := hdecided.body
  obtain ⟨window, count, -, hstate⟩ := hdecided.state
  obtain ⟨ledger', mirror', history', hothers⟩ := hdecided.others
  refine ⟨s₀, s₁, decision, digest, hcall, hruns, hdecided.hashed, by rw [hbody]; rfl, hhealthy₁,
    ⟨request, decided, event, ?_, hdecided.requested.1, hdecided.located.1, hkind⟩, ?_, ?_, window,
    count + 1, s'.policy, ledger, mirror, history, ?_⟩
  · rw [hevents, hevents₀]
    rfl
  · rw [hdropped, hs₀]
    exact hdropped₀.trans hdecided.dropped
  · have hactive : s₀.state.inflight = 0 ∧ s₀.state.egressBytes + s₀.state.reservedEgressBytes = 0 := by
      rw [hs₀]
      simp only [counted, hstate]
      exact ⟨rfl, rfl⟩
    rw [hs₁]
    refine ⟨hroomy.phase, hroomy.epoch, hroomy.criteria, hroomy.admitted.trans (by decide),
      hroomy.window.trans (by decide), ?_, ?_, hroomy.rule.trans (by decide),
      hroomy.grant.trans (by decide), rfl⟩
    · change s₀.state.inflight + 1 ≤ ((2 : ℕ) : ℤ)
      rw [hactive.1]
      decide
    · change s₀.state.egressBytes + (s₀.state.reservedEgressBytes + 1048576) ≤ 1048576
      rw [← add_assoc, hactive.2]
      decide
  · rw [hs₁, hs₀, hothers]
    simp only [counted, registered, leased, hstate]
    rfl

/-- The same as a schedule. -/
theorem exists_reachable_inflight (rule₀ : RunRule (runtimeService (deployment manifest)))
    (hm : Signed manifest) (hsubmit : ∀ s raw, rule₀.starts s (.submitRaw raw))
    (hdispatch : ∀ s action decision ns, rule₀.starts s (.dispatch action decision ns))
    (hmoves : ∀ s op, Peaceful op → Succeeds manifest 2000 s op → rule₀.moves s op (world 2000)) :
    ∃ (s₁ : Runtime platform) (decision : Decision platform)
      (code : Prog platform (Reply platform)),
      Reachable rule₀ (Runtime.init (deployment manifest) Reference.witness)
        ((Config.initial (Runtime.init (deployment manifest) Reference.witness)).set s₁ 0
          (some (.dispatch action decision 2000, code))) ∧
      decision.body.authorizationId = some authorizationId ∧ Inflight manifest s₁ := by
  obtain ⟨s₀, s₁, decision, digest, hcall, hruns, -, hid, hinflight⟩ :=
    exists_inflight_call rule₀ hm hsubmit hmoves
  have hreach := (reachable_of_sequence (.single hcall)).trans
    (steps_call (t := 0) rfl (hdispatch s₀ action decision 2000) (Runs.bind hruns))
  exact ⟨s₁, decision, _, hreach, hid, hinflight⟩

/-- A run of one request that was answered. -/
structure Finished (manifest : Manifest platform) (s : Runtime platform) : Prop where
  healthy : Healthy manifest s 2000
  answered : ∃ request decided dispatched returned, s.ledger.events =
      [request, decided, dispatched, returned] ∧ request.body.kind = .request ∧
    decided.body.kind = .decision ∧ dispatched.body.kind = .dispatch ∧
    returned.body.kind = .result
  dropped : s.history.dropped = 0
  shape : ∃ window count policy ledger mirror history,
    s = { Runtime.init (deployment manifest) Reference.witness with
      state := { requested manifest window count with
        consumedAuthorizations := insert "auth:00" ∅
        dispatched := 0 + 1
        completed := 0 + 1
        egressBytes := 0 + 2 }
      policy := policy
      ledger := ledger
      mirror := mirror
      history := history }

/-- A submission and its dispatch, from beginning to end. -/
theorem exists_finished (rule₀ : RunRule (runtimeService (deployment manifest)))
    (hm : Signed manifest) (hsubmit : ∀ s raw, rule₀.starts s (.submitRaw raw))
    (hdispatch : ∀ s action decision ns, rule₀.starts s (.dispatch action decision ns))
    (hmoves : ∀ s op, Peaceful op → Succeeds manifest 2000 s op → rule₀.moves s op (world 2000)) :
    ∃ s, Sequence rule₀ (Runtime.init (deployment manifest) Reference.witness) s ∧
      Finished manifest s := by
  obtain ⟨s₀, s₁, decision, digest, hcall, hruns, hhashed, -, hinflight⟩ :=
    exists_inflight_call rule₀ hm hsubmit hmoves
  obtain ⟨request, decided, event, hevents, hrequest, hdecided, hdispatched⟩ := hinflight.dispatched
  obtain ⟨window, count, policy, ledger, mirror, history, hs₁⟩ := hinflight.shape
  obtain ⟨s₂, returned, hends, hevents₂, hreturned, hhealthy, hdropped, ledger', mirror', history',
      hs₂⟩ :=
    exists_delivered rule₀ 0 ⟨2000, by decide⟩ hm hhashed
      (fun s op hop => hmoves s op (.inr ⟨decision, hop⟩)) hinflight.healthy
      (by rw [hevents]; exact (by decide : 3 < 900)) (by rw [hs₁]; rfl) (by rw [hs₁]; rfl)
  have hdelivered : Ends rule₀ 0 s₀ (body (deployment manifest) (.dispatch action decision 2000)) s₂
      (.ok (.dispatched response)) := Ends.bind (hruns.trans hends) ends_ret
  refine ⟨s₂, .tail (.single hcall) (.call 0 _ _ (hdispatch _ _ _ _) hdelivered), hhealthy,
    ⟨request, decided, event, returned, by rw [hevents₂, hevents]; rfl, hrequest, hdecided, hdispatched,
      hreturned⟩, hdropped.trans hinflight.dropped, window, count, policy, ledger', mirror', history', ?_⟩
  rw [hs₂, hs₁]
  rfl

end Reference

end Containment
