/-
# Counters and evidence

Each counter of the run state stands for a kind of event. A decision is counted after its
commit, a result together with it, and a dispatch before it. Only the dispatch needs a
rollback, and its rollback forgets the counter. So the counters match the ledger between
the calls of a sequential run as long as no commit of a dispatch fails.
-/

import Containment.Auditor.Acceptance
import Containment.Auditor.Protocol
import Containment.Reference.Dispatching
import Containment.Runtime.Payloads
import Containment.Runtime.SideCode

namespace Containment

open Json Concurrency

variable {P : Platform}

/-! ## What the ledger says -/

/-- The `response_bytes` of a RESULT. -/
def responseBytesOf (event : Event P) : ℤ :=
  match parseCanonicalText P event.body.payloadCanonicalJson.1 with
  | .ok (.obj fields) =>
      match lookup "response_bytes" fields with
      | some (.int n) => n
      | _ => 0
  | _ => 0

/-- What the counters should be, read off the events. -/
def recount (events : List (Event P)) : Tally where
  allowed := events.countP fun event => verdictOf event = some .allow
  denied := events.countP fun event => verdictOf event = some .deny ∨ verdictOf event = some .kill
  dispatched := events.countP fun event => event.body.kind = .dispatch
  completed := events.countP fun event => event.body.kind = .result
  egressBytes := ((events.filter fun event => event.body.kind = .result).map responseBytesOf).sum

/-- The counters match the evidence. -/
def Matched (s : Runtime P) : Prop := s.state.tally = recount s.ledger.events

/-- An event that is no part of the protocol does not change the account. -/
theorem recount_snoc_side {events : List (Event P)} {event : Event P}
    (h : event.body.kind = .violation ∨ event.body.kind = .overloadSummary ∨
      event.body.kind = .killAcknowledged ∨ event.body.kind = .request) :
    recount (events ++ [event]) = recount events := by
  have hdecision : event.body.kind ≠ .decision := by rcases h with h | h | h | h <;> rw [h] <;> decide
  have hdispatch : event.body.kind ≠ .dispatch := by rcases h with h | h | h | h <;> rw [h] <;> decide
  have hresult : event.body.kind ≠ .result := by rcases h with h | h | h | h <;> rw [h] <;> decide
  have hverdict : verdictOf event = none := if_neg hdecision
  simp [recount, List.countP_append, List.filter_append, hverdict, hdispatch, hresult]

theorem recount_snoc_decision {events : List (Event P)} {event : Event P} {decision : Decision P}
    (h : IsDecision event decision) :
    recount (events ++ [event]) = { recount events with
      allowed := (recount events).allowed + (decide (decision.body.verdict = .allow)).toNat
      denied := (recount events).denied + (!decide (decision.body.verdict = .allow)).toNat } := by
  have hdispatch : event.body.kind ≠ .dispatch := by rw [h.1]; decide
  have hresult : event.body.kind ≠ .result := by rw [h.1]; decide
  have hverdict : verdictOf event = some decision.body.verdict := by
    rw [verdictOf, if_pos h.1, h.2]
  cases hbody : decision.body.verdict <;>
    simp [recount, List.countP_append, List.filter_append, hverdict, hdispatch, hresult, hbody]

theorem recount_snoc_dispatch {events : List (Event P)} {event : Event P}
    (h : event.body.kind = .dispatch) :
    recount (events ++ [event]) = { recount events with
      dispatched := (recount events).dispatched + 1 } := by
  have hverdict : verdictOf event = none := if_neg (by rw [h]; decide)
  simp [recount, List.countP_append, List.filter_append, hverdict, h]

theorem recount_snoc_result {events : List (Event P)} {event : Event P}
    (h : event.body.kind = .result) :
    recount (events ++ [event]) = { recount events with
      completed := (recount events).completed + 1
      egressBytes := (recount events).egressBytes + responseBytesOf event } := by
  have hverdict : verdictOf event = none := if_neg (by rw [h]; decide)
  simp [recount, List.countP_append, List.filter_append, hverdict, h]

theorem responseBytesOf_resultPayload {event : Event P} {sha : String} {decision : Decision P}
    {id : OpaqueId} {result : TransportResult}
    (h : canonicalJson P (Executor.resultPayload sha decision id result) =
      .ok event.body.payloadCanonicalJson.1) : responseBytesOf event = result.responseBytes := by
  rw [responseBytesOf, parseCanonicalText_of_canonicalJson h]
  have hkeys : (([("action_sha256", .str sha), ("authorization_id", .str id.1),
      ("decision_hash", .str decision.decisionHash.1),
      ("kill_epoch", .int decision.body.killEpoch.1), ("response_bytes", .int result.responseBytes),
      ("response_sha256", .str result.responseSha256), ("status_code", .int result.statusCode)] :
        List (String × Json)).map Prod.fst).Nodup := by simp
  have hlookup := Record.lookup_orderFields hkeys "response_bytes"
  rw [Executor.resultPayload, orderForJcs]
  simp only [hlookup]
  rfl

/-! ## Runs whose dispatches are committed -/

/-- A commit fails, if at all, before the event is appended. -/
def refusedBeforeAppending (d : Deployment P) : RunRule (runtimeService d) where
  starts _ _ := True
  moves s op env := ∀ kind payload requestId ns event, op = .commit kind payload requestId ns →
    s.ledger.append d.ledgerConfig env.toClocks kind payload requestId ns env.fault = .ok event →
      ∃ mirror, s.mirror.observe d.manifest event = .ok mirror

/-- In addition, the commit of a dispatch does not fail. -/
def dispatchesCommitted (d : Deployment P) : RunRule (runtimeService d) where
  starts _ _ := True
  moves s op env := (refusedBeforeAppending d).moves s op env ∧
    ∀ payload requestId ns, op = .commit .dispatch payload requestId ns → ∃ event,
      s.ledger.append d.ledgerConfig env.toClocks .dispatch payload requestId ns env.fault = .ok event

section Calls

variable {d : Deployment P} {t : ℕ} {s : Runtime P}

/-- A commit, in a run in which the mirror refuses nothing. -/
theorem commit_of_moves {env : World} {s' : Runtime P} {kind : EventKind} {payload : Json}
    {requestId : Option String} {ns : Option ℤ} {r : Except PyError (Event P)}
    (hmove : (dispatchesCommitted d).moves s (.commit kind payload requestId ns) env)
    (h : exec d env t s (.commit kind payload requestId ns) = some (s', r)) :
    (∃ error, r = .error error ∧ kind ≠ .dispatch ∧ s' = s) ∨
    ∃ event, r = .ok event ∧ s'.state = s.state ∧
      s'.ledger.events = s.ledger.events ++ [event] ∧ event.body.kind = kind ∧
      canonicalJson P payload = .ok event.body.payloadCanonicalJson.1 := by
  obtain ⟨hmirror, hdispatch⟩ := hmove
  rw [exec, Option.some.injEq, Runtime.commit] at h
  cases happend : s.ledger.append d.ledgerConfig env.toClocks kind payload requestId ns
      env.fault with
  | error error =>
      rw [happend, Prod.mk.injEq] at h
      refine .inl ⟨error, h.2.symm, ?_, h.1.symm⟩
      rintro rfl
      obtain ⟨event, hevent⟩ := hdispatch payload requestId ns rfl
      rw [happend] at hevent
      cases hevent
  | ok event =>
      obtain ⟨mirror, hobserve⟩ := hmirror kind payload requestId ns event rfl happend
      rw [happend] at h
      simp only [hobserve, Prod.mk.injEq] at h
      obtain ⟨rfl, rfl⟩ := h
      obtain ⟨hpayload, hkind, -, -⟩ := append_ok happend
      exact .inr ⟨event, rfl, rfl, rfl, hkind, hpayload⟩

/-- Side code keeps the counters matched. -/
theorem matched_of_side {α : Type} {p : Prog P α} (hp : p.All Op.Side) (h : Matched s) :
    Ensures (dispatchesCommitted d) t (fun _ s => Matched s) p s := by
  refine ensures_of_all ?_ hp h
  intro env s₁ op s₂ result hside _ hexec hmatched
  have htally := tally_exec hexec hside.uncounted
  unfold Matched at hmatched ⊢
  rcases side_events hexec hside with heq | ⟨event, heq, hkind⟩
  · rw [htally, heq, hmatched]
  · rw [htally, heq, hmatched, recount_snoc_side]
    exact hkind.imp_right (Or.imp_right .inl)

/-- What an attempted commit leaves: the event, not yet accounted for, or nothing at all. -/
def Uncounted (s : Runtime P) (kind : EventKind) (payload : Json) :
    Except PyError (Event P) → Runtime P → Prop
  | .ok event, s' => s'.state.tally = s.state.tally ∧
      s'.ledger.events = s.ledger.events ++ [event] ∧ event.body.kind = kind ∧
      canonicalJson P payload = .ok event.body.payloadCanonicalJson.1
  | .error _, s' => kind ≠ .dispatch ∧ s'.state.tally = s.state.tally ∧
      s'.ledger.events = s.ledger.events

theorem ensures_commit (kind : EventKind) (payload : Json) (requestId : Option String)
    (ns : Option ℤ) : Ensures (dispatchesCommitted d) t (Uncounted s kind payload)
      (raising (perform (.commit kind payload requestId ns))) s := by
  intro env s₁ result hmove hexec
  refine ensures_ofExcept.mpr ?_
  rcases commit_of_moves hmove hexec with ⟨error, rfl, hkind, rfl⟩ |
    ⟨event, rfl, hstate, hevents, hkind, htext⟩
  · exact ⟨hkind, rfl, rfl⟩
  · exact ⟨by rw [hstate], hevents, hkind, htext⟩

/-- The gateway's commit isolates the run when it fails, which counts nothing. -/
theorem ensures_gatewayCommit (h : Matched s) (kind : EventKind) (payload : Json)
    (requestId : Option String) (ns : Option ℤ) :
    Ensures (dispatchesCommitted d) t (fun outcome s' => match outcome with
      | .ok event => Uncounted s kind payload (.ok event) s'
      | .error _ => Matched s') (Gateway.commit kind payload requestId ns) s := by
  refine ensures_handle (ensures_commit kind payload requestId ns) ?_ ?_
  · exact fun event s₁ hcommitted => hcommitted
  · intro error s₁ hfailed
    have hmatched : Matched s₁ := by
      unfold Matched at h ⊢
      rw [hfailed.2.1, hfailed.2.2, h]
    exact ensures_seq (matched_of_side side_emergencyIsolate hmatched) (fun _ _ hkept => hkept)
      fun _ _ hkept => hkept

/-! ## Submissions -/

theorem tally_recordDecision (s : RunState) (verdict : Verdict) :
    (s.recordDecision verdict).tally = { s.tally with
      allowed := s.tally.allowed + (decide (verdict = .allow)).toNat
      denied := s.tally.denied + (!decide (verdict = .allow)).toNat } := by
  unfold RunState.recordDecision
  split_ifs with h <;> simp [RunState.tally, h]

/-- Counting a committed decision restores the match. -/
theorem matched_of_counted {s₁ s₂ : Runtime P} {decision : Decision P} {event : Event P}
    {verdict : Verdict} (h : Matched s)
    (hcommitted : Uncounted s .decision ((Sealed.codec P decisionSealing).encode decision)
      (.ok event) s₁) (hverdict : decision.body.verdict = verdict)
    (hstate : s₂.state = s₁.state.recordDecision verdict)
    (hledger : s₂.ledger.events = s₁.ledger.events) : Matched s₂ := by
  obtain ⟨htally, hevents, hkind, htext⟩ := hcommitted
  unfold Matched at h ⊢
  have hsays : IsDecision event decision := ⟨hkind, modelValidateJson_of_canonicalJson htext⟩
  rw [hstate, tally_recordDecision, hledger, hevents, recount_snoc_decision hsays, htally, h,
    hverdict]

theorem matched_decideAction (h : Matched s) (action : Action P) (ns : ℤ) :
    Ensures (dispatchesCommitted d) t (fun _ s => Matched s) (Gateway.decideAction d action ns) s := by
  refine ensures_seq (Q := fun _ s => Matched s) (ensures_ofExcept.mpr h)
    (fun sha s h => ?_) fun _ _ h => h
  refine ensures_seq (ensures_gatewayCommit h _ _ _ _) (fun request s₁ hcommitted => ?_)
    fun _ _ h => h
  have h₁ : Matched s₁ := by
    obtain ⟨htally, hevents, hkind, -⟩ := hcommitted
    unfold Matched at h ⊢
    rw [htally, hevents, h, recount_snoc_side (.inr (.inr (.inr hkind)))]
  refine ensures_seq (matched_of_side side_monotonicNow h₁) (fun decidedNs s h => ?_) fun _ _ h => h
  refine ensures_seq (matched_of_side side_wallNow h) (fun wall s h => ?_) fun _ _ h => h
  refine ensures_seq (Q := fun _ s => Matched s) (ensures_ofExcept.mpr h)
    (fun decidedAt s h => ?_) fun _ _ h => h
  refine ensures_seq (matched_of_side (all_perform trivial) h) (fun result s h => ?_) fun _ _ h => h
  refine ensures_seq (matched_of_side (side_latchOnKill _) h) (fun _ s h => ?_) fun _ _ h => h
  refine ensures_seq (matched_of_side (all_perform trivial) h) (fun epoch s h => ?_) fun _ _ h => h
  refine ensures_seq (matched_of_side (side_authorization d _ _) h) (fun capability s h => ?_)
    fun _ _ h => h
  refine ensures_seq (Q := fun outcome s => outcome = Gateway.Deciding.decision d _ ∧ Matched s)
    (ensures_ofExcept.mpr ⟨rfl, h⟩) (fun decision s hdecision => ?_) fun _ _ h => h.2
  obtain ⟨hdecision, h⟩ := hdecision
  refine ensures_seq (ensures_gatewayCommit h _ _ _ _) (fun event s₂ hcommitted => ?_)
    fun _ _ h => h
  refine ensures_seq (Q := fun _ s => Matched s) ?_ (fun _ s h => ?_) fun _ _ h => h
  · intro env s₃ _ _ hexec
    simp only [exec, onState_eq_some] at hexec
    obtain ⟨-, rfl, -⟩ := hexec
    exact matched_of_counted h hcommitted (policy_of_decision hdecision.symm).1 rfl rfl
  · exact matched_of_side (side_conclude _ _ _ _) h

theorem matched_submitRaw (h : Matched s) (raw : Bytes) :
    Ensures (dispatchesCommitted d) t (fun _ s => Matched s) (Gateway.submitRaw d raw) s := by
  refine ensures_seq (matched_of_side side_monotonicNow h) (fun admittedNs s h => ?_) fun _ _ h => h
  split_ifs
  · exact matched_of_side (side_rejectLate _) h
  refine ensures_seq (matched_of_side (all_perform trivial) h) (fun admission s h => ?_) fun _ _ h => h
  cases admission with
  | droppedAfterKill => exact h
  | firstOverload => exact matched_of_side (side_rejectOverload _ _) h
  | admitted =>
      dsimp only
      cases Action.fromWire P raw with
      | error _ => exact matched_of_side (side_rejectMalformed _ _) h
      | ok action => exact matched_decideAction h action admittedNs

/-! ## Dispatches -/

/-- The reservation counts a dispatch. -/
theorem ensures_reserve (body : DecisionBody) (ns bytes : ℤ) :
    Ensures (dispatchesCommitted d) t (fun outcome s' => s'.ledger.events = s.ledger.events ∧
      s'.state.tally = match outcome with
        | .ok _ => { s.state.tally with dispatched := s.state.tally.dispatched + 1 }
        | .error _ => s.state.tally) (raising (perform (.reserve body ns bytes))) s := by
  intro env s₁ result _ hexec
  refine ensures_ofExcept.mpr ?_
  simp only [exec, Option.ite_none_right_eq_some] at hexec
  obtain ⟨-, hexec⟩ := hexec
  rcases RunState.reserve_cases s.state body ns bytes with ⟨_, heq⟩ | ⟨_, heq⟩ |
    ⟨_, _, -, -, -, -, -, -, -, -, -, heq⟩ <;>
  · rw [heq] at hexec
    simp only [Option.some.injEq, Prod.mk.injEq] at hexec
    obtain ⟨rfl, rfl⟩ := hexec
    first | exact ⟨rfl, rfl⟩ | exact ⟨rfl, tally_latchKillLocked _⟩

theorem matched_beginAuthorized (h : Matched s) {action : Action P} {decision : Decision P}
    {id : OpaqueId} {ns bytes : ℤ} {sha : String} (hdigest : action.digest = .ok sha) :
    Ensures (dispatchesCommitted d) t (fun _ s => Matched s)
      (Executor.beginAuthorized action decision id ns bytes) s := by
  refine ensures_seq (ensures_reserve decision.body ns bytes) (fun lease s₁ hreserved => ?_) ?_
  · refine ensures_bind (ensures_attempt ?_)
    rw [hdigest]
    refine ensures_mono ?_ (ensures_commit (s := s₁) .dispatch
      (Executor.dispatchPayload sha decision id) (some action.requestId.1) none)
    intro outcome s₂ hcommitted
    cases outcome with
    | error error => exact absurd rfl hcommitted.1
    | ok event =>
        obtain ⟨htally, hevents, hkind, -⟩ := hcommitted
        have h₂ : Matched s₂ := by
          unfold Matched at h ⊢
          rw [htally, hreserved.2, hevents, hreserved.1, recount_snoc_dispatch hkind, h]
        refine ensures_seq (matched_of_side (all_perform trivial) h₂) (fun _ _ h => h) fun _ _ h => h
  · intro error s₁ hrefused
    unfold Matched at h ⊢
    rw [hrefused.2, hrefused.1, h]

theorem matched_finishAuthorized (h : Matched s) (action : Action P) (decision : Decision P)
    (id : OpaqueId) (lease : DispatchLease) (result : TransportResult) :
    Ensures (dispatchesCommitted d) t (fun _ s => Matched s)
      (Executor.finishAuthorized action decision id lease result) s := by
  refine ensures_seq (matched_of_side (side_raising (all_perform trivial)) h)
    (fun reserved s h => ?_) fun _ _ h => h
  refine ensures_bind (ensures_attempt ?_)
  refine ensures_seq (Q := fun _ s => Matched s) (ensures_ofExcept.mpr h)
    (fun sha s h => ?_) fun error s h => ?_
  · refine ensures_mono ?_ (ensures_commit (s := s) .result
      (Executor.resultPayload sha decision id result) (some action.requestId.1) none)
    intro outcome s₁ hcommitted
    cases outcome with
    | error error =>
        have h₁ : Matched s₁ := by
          unfold Matched at h ⊢
          rw [hcommitted.2.1, hcommitted.2.2, h]
        exact ensures_seq (matched_of_side (all_perform trivial) h₁) (fun _ _ h => h) fun _ _ h => h
    | ok event =>
        obtain ⟨htally, hevents, hkind, htext⟩ := hcommitted
        intro env s₂ _ _ hexec
        simp only [exec, Option.ite_none_right_eq_some, Option.some.injEq, Prod.mk.injEq] at hexec
        obtain ⟨-, rfl, -⟩ := hexec
        have hsettled : (s₁.state.settle lease reserved result.responseBytes).tally =
            { s₁.state.tally with
              completed := s₁.state.tally.completed + 1
              egressBytes := s₁.state.tally.egressBytes + result.responseBytes } := rfl
        change Matched _
        unfold Matched at h ⊢
        dsimp only
        rw [hsettled, htally, hevents, recount_snoc_result hkind,
          responseBytesOf_resultPayload htext, h]
  · exact ensures_seq (matched_of_side (all_perform trivial) h) (fun _ _ h => h) fun _ _ h => h

theorem matched_deliver (h : Matched s) (action : Action P) (decision : Decision P) (id : OpaqueId)
    (bytes : ℤ) (lease : DispatchLease) :
    Ensures (dispatchesCommitted d) t (fun _ s => Matched s)
      (Executor.deliver action decision id bytes lease) s := by
  refine ensures_seq (matched_of_side (side_raising (all_perform trivial)) h)
    (fun secret s h => ?_) fun _ _ h => h
  refine ensures_seq (matched_of_side (side_raising (all_perform trivial)) h)
    (fun result s h => ?_) fun _ _ h => h
  refine ensures_seq (Q := fun _ s => Matched s) (ensures_ofExcept.mpr h) (fun _ s h => ?_)
    fun _ _ h => h
  exact ensures_seq (matched_finishAuthorized h action decision id lease result) (fun _ _ h => h)
    fun _ _ h => h

theorem matched_attemptDispatch (h : Matched s) {action : Action P} {decision : Decision P}
    {id : OpaqueId} {ns bytes : ℤ} {sha : String} (hdigest : action.digest = .ok sha) :
    Ensures (dispatchesCommitted d) t (fun _ s => Matched s)
      (Executor.attemptDispatch action decision id ns bytes) s := by
  refine ensures_bind (ensures_attempt (ensures_mono ?_ (matched_beginAuthorized h hdigest)))
  intro outcome s₁ h₁
  cases outcome with
  | error error => exact matched_of_side (side_failed _ _ _ _) h₁
  | ok lease =>
      refine ensures_handle (matched_deliver h₁ action decision id bytes lease) (fun _ _ h => h) ?_
      exact fun error s₂ h₂ => matched_of_side (side_failed _ _ _ _) h₂

theorem digest_of_checkBinding {action : Action P} {body : DecisionBody}
    (h : Executor.checkBinding d action body = .ok ()) : ∃ sha, action.digest = .ok sha := by
  simp only [Executor.checkBinding, bind_eq_ok] at h
  obtain ⟨-, -, -, -, -, -, sha, hsha, -⟩ := h
  exact ⟨sha, hsha⟩

theorem matched_dispatch (h : Matched s) (action : Action P) (decision : Decision P) (ns : ℤ) :
    Ensures (dispatchesCommitted d) t (fun _ s => Matched s)
      (Executor.dispatch d action decision ns) s := by
  refine ensures_seq (Q := fun _ s => Matched s) (ensures_ofExcept.mpr h) (fun _ s h => ?_)
    fun _ _ h => h
  refine ensures_seq (Q := fun outcome s => outcome = Executor.checkBinding d action decision.body ∧
    Matched s) (ensures_ofExcept.mpr ⟨rfl, h⟩) (fun _ s hbound => ?_) fun _ _ h => h.2
  obtain ⟨hbound, h⟩ := hbound
  obtain ⟨sha, hdigest⟩ := digest_of_checkBinding hbound.symm
  refine ensures_seq (Q := fun _ s => Matched s) (ensures_ofExcept.mpr h) (fun rule s h => ?_)
    fun _ _ h => h
  cases decision.body.authorizationId with
  | none => exact h
  | some id =>
      refine ensures_seq (matched_of_side (side_raising (all_perform trivial)) h) (fun _ s h => ?_)
        fun _ _ h => h
      refine ensures_finalize (matched_attemptDispatch h hdigest) fun outcome s h => ?_
      refine ensures_mono ?_ (matched_of_side (all_perform trivial) h)
      intro done _ h
      cases done <;> exact h

/-- Every call of a run keeps the counters matched. -/
theorem matched_body (h : Matched s) (call : Call P) :
    Ensures (dispatchesCommitted d) t (fun _ s => Matched s) (body d call) s := by
  have hmap {α : Type} {p : Prog P α} {f : α → Reply P}
      (hp : Ensures (dispatchesCommitted d) t (fun _ s => Matched s) p s) :
      Ensures (dispatchesCommitted d) t (fun _ s => Matched s) (f <$> p) s :=
    ensures_seq hp (fun _ _ h => h) fun _ _ h => h
  cases call with
  | submitRaw raw => exact hmap (matched_submitRaw h raw)
  | dispatch action decision ns => exact hmap (matched_dispatch h action decision ns)
  | failClosed reasonCode requestId => exact hmap (matched_of_side (side_failClosed _ _) h)
  | enforceRuntimeDeadline ns => exact hmap (matched_of_side (side_enforceRuntimeDeadline d ns) h)
  | contain trigger ns => exact hmap (matched_of_side (side_contain trigger ns) h)
  | emergencyIsolate => exact hmap (matched_of_side side_emergencyIsolate h)
  | complete => exact hmap (matched_of_side (side_complete d) h)
  | receipt status => exact hmap (matched_of_side (side_receipt d status) h)

theorem matched_retire (h : Matched s) (call : Call P) (outcome : Except PyError (Reply P)) :
    Matched (retire call outcome s) := by
  unfold retire
  split <;> exact h

end Calls

/-- Between the calls of a sequential run the counters match the evidence, as long as no
commit of a dispatch fails. -/
theorem matched_of_sequence (P : Platform) (d : Deployment P) (witness : TransparencyWitness P)
    (s : Runtime P) (h : Sequence (dispatchesCommitted d) (Runtime.init d witness) s) :
    Matched s := by
  refine invariant_of_sequence Matched ?_ ?_ h
  · rfl
  · intro t call s hmatched _
    exact ensures_mono (fun outcome s h => matched_retire h call outcome)
      (matched_body hmatched call)

/-! ## A dispatch that could not be committed -/

section Uncommitted

open Reference

variable {manifest : Manifest platform}

/-- The mirror has taken the event of a commit that succeeds. -/
theorem refusedBeforeAppending_of_succeeds {s : Runtime platform} {ns : ℤ} {op : Op platform}
    (h : Succeeds manifest ns s op) :
    (refusedBeforeAppending (deployment manifest)).moves s op (world ns) := by
  rintro kind payload requestId n event rfl happend
  obtain ⟨event', hevent⟩ := h
  rw [Runtime.commit, happend] at hevent
  dsimp only at hevent
  cases hobserve : s.mirror.observe manifest event with
  | ok mirror => exact ⟨mirror, hobserve⟩
  | error error =>
      rw [show s.mirror.observe (deployment manifest).manifest event = .error error from hobserve]
        at hevent
      cases hevent

theorem dispatchesCommitted_of_succeeds {s : Runtime platform} {ns : ℤ} {op : Op platform}
    (h : Succeeds manifest ns s op) :
    (dispatchesCommitted (deployment manifest)).moves s op (world ns) := by
  refine ⟨refusedBeforeAppending_of_succeeds h, ?_⟩
  rintro payload requestId n rfl
  obtain ⟨event', hevent⟩ := h
  cases happend : s.ledger.append (deployment manifest).ledgerConfig (world ns).toClocks .dispatch
      payload requestId n (world ns).fault with
  | ok event => exact ⟨event, rfl⟩
  | error error =>
      rw [Runtime.commit, happend] at hevent
      cases hevent

theorem refusedBeforeAppending_failingWorld (manifest : Manifest platform) (now : ℤ) (s : Runtime platform) (op : Op platform) :
    (refusedBeforeAppending (deployment manifest)).moves s op (failingWorld now) := by
  rintro kind payload requestId ns event rfl happend
  obtain ⟨error, herror⟩ := append_failingWorld (d := deployment manifest) now s.ledger kind payload
    requestId ns
  rw [herror] at happend
  cases happend

/-- One dispatch has been counted and none is in the ledger. -/
def Overcounted (s : Runtime platform) : Prop :=
  s.state.tally.dispatched = 1 ∧ ∀ event ∈ s.ledger.events, event.body.kind ≠ .dispatch

theorem Overcounted.not_matched {s : Runtime platform} (h : Overcounted s) : ¬ Matched s := by
  intro hmatched
  have hzero : s.ledger.events.countP (fun event => event.body.kind = .dispatch) = 0 := by
    rw [List.countP_eq_zero]
    intro event hmem
    rw [decide_eq_true_eq]
    exact h.2 event hmem
  have hcount : s.state.tally.dispatched =
      s.ledger.events.countP (fun event => event.body.kind = .dispatch) :=
    congrArg Tally.dispatched hmatched
  rw [h.1, hzero] at hcount
  cases hcount

theorem overcounted_of_side {s : Runtime platform} (h : Overcounted s) {t : ℕ} {α : Type}
    {p : Prog platform α} (hp : p.All Op.Side) {rule : RunRule (runtimeService (deployment manifest))} :
    Ensures rule t (fun _ s => Overcounted s) p s := by
  refine ensures_of_all ?_ hp h
  intro env s₁ op s₂ result hside _ hexec hover
  have htally := tally_exec hexec hside.uncounted
  refine ⟨by rw [htally]; exact hover.1, ?_⟩
  rcases side_events hexec hside with heq | ⟨event, heq, hkind⟩
  · rw [heq]
    exact hover.2
  · rw [heq]
    intro e hmem
    rcases List.mem_append.mp hmem with hmem | hmem
    · exact hover.2 e hmem
    · rw [List.mem_singleton.mp hmem]
      rcases hkind with hkind | hkind | hkind <;> rw [hkind] <;> decide

variable {t : ℕ} {s s' s₀ : Runtime platform} {request decided : Event platform}
  {decision : Decision platform} {digest : Sha256Hex} {ns expires : SafeNonNegativeInt}

/-- The lease is taken back when the commit fails, and the counter stays. -/
theorem exists_uncommitted (t : ℕ) (now : ℤ)
    (h : Decided action manifest s s' request decided decision digest ns expires) {n : ℕ}
    (hroomy : Roomy n s₀) (hidle : Idle s₀)
    (hconsumed : "auth:00" ∉ s₀.state.consumedAuthorizations) (hlive : now ≤ expires.1)
    (hzero : s₀.state.dispatched = 0)
    (hnone : ∀ event ∈ s₀.ledger.events, event.body.kind ≠ .dispatch) :
    ∃ s₁ error, Ends (refusedBeforeAppending (deployment manifest)) t s₀
        (Executor.attemptDispatch action decision authorizationId now 1048576) s₁ (.error error) ∧
      Overcounted s₁ := by
  have hmoves := refusedBeforeAppending_failingWorld manifest now
  have hreserve := ends_reserve t (failingWorld now) (fun s => hmoves s _) h hroomy hconsumed hlive
  obtain ⟨refused, hrefused⟩ := append_failingWorld (d := deployment manifest) now
    (leased s₀ t).ledger .dispatch (Executor.dispatchPayload digest.1 decision authorizationId)
    (some action.requestId.1) none
  have hcommit : Ends (refusedBeforeAppending (deployment manifest)) t (leased s₀ t)
      (raising (perform (.commit .dispatch
        (Executor.dispatchPayload digest.1 decision authorizationId) (some action.requestId.1) none)) :
        Prog platform (Event platform)) (leased s₀ t) (.error refused) := by
    refine ends_raising (ends_perform (failingWorld now) (hmoves _ _) ?_)
    simp only [exec, Runtime.commit, hrefused]
  set rolled : Runtime platform := { leased s₀ t with
    state := (leased s₀ t).state.rollback ⟨"auth:00", 1048576⟩
    stateLock := none } with hrolled
  have hrollback : Ends (refusedBeforeAppending (deployment manifest)) t (leased s₀ t)
      (perform (.rollback ⟨"auth:00", 1048576⟩) : Prog platform Unit) rolled (.ok ()) := by
    refine ends_perform (failingWorld now) (hmoves _ _) ?_
    simp only [exec]
    exact if_pos rfl
  have hbegin : Ends (refusedBeforeAppending (deployment manifest)) t s₀
      (Executor.beginAuthorized action decision authorizationId now 1048576) rolled
      (.error refused) := by
    refine Ends.bind hreserve ?_
    rw [h.hashed]
    exact Ends.bind (Ends.attempt (Ends.bind ends_ret hcommit)) (Ends.bind hrollback (.refl _ _))
  have hover : Overcounted rolled := by
    refine ⟨?_, hnone⟩
    change ((leased s₀ t).state.rollback ⟨"auth:00", 1048576⟩).tally.dispatched = 1
    rw [RunState.rollback, tally_latchKillLocked]
    change s₀.state.dispatched + 1 = 1
    rw [hzero]
    rfl
  obtain ⟨s₁, error, hfailed⟩ := exists_failed (t := t) hmoves (s := rolled) ⟨rfl, hidle.contain⟩
    action authorizationId refused
  refine ⟨s₁, error, Ends.bind (Ends.attempt hbegin) hfailed, ?_⟩
  exact (overcounted_of_side hover (side_failed _ _ _ _)).sound hfailed

/-- A request that was submitted, dispatched and answered. -/
theorem matched_finished : ∃ (manifest : Manifest platform) (s : Runtime platform),
    Sequence (dispatchesCommitted (deployment manifest))
      (Runtime.init (deployment manifest) Reference.witness) s ∧
    Finished manifest s ∧ Matched s := by
  obtain ⟨manifest, hm⟩ := exists_signed
  obtain ⟨s, hcalls, hfinished⟩ := exists_finished (dispatchesCommitted (deployment manifest)) hm
    (fun _ _ => trivial) (fun _ _ _ _ => trivial) fun _ _ _ h => dispatchesCommitted_of_succeeds h
  exact ⟨manifest, s, hcalls, hfinished, matched_of_sequence _ _ _ _ hcalls⟩

/-- A request is submitted and allowed, and the ledger refuses its dispatch. -/
theorem counters_not_matched :
    ¬ ∀ (P : Platform) (d : Deployment P) (witness : TransparencyWitness P) (s : Runtime P),
      Sequence (refusedBeforeAppending d) (Runtime.init d witness) s → Matched s := by
  intro hclaim
  obtain ⟨manifest, hm⟩ := exists_signed
  obtain ⟨raw, hwire, hraw⟩ := exists_wire
  obtain ⟨s', request, decided, decision, digest, hends, hdecided⟩ :=
    exists_submitRaw (refusedBeforeAppending (deployment manifest)) 0 ⟨2000, by decide⟩ ⟨1000002000, by decide⟩ hm
      (fun _ _ _ _ h => refusedBeforeAppending_of_succeeds h) (healthy_init manifest 2000) (by decide)
      (roomy_init hm) (show 0 < 800 by decide) ⟨by decide, by decide⟩ rfl hwire hraw
  set s₁ := retire (.submitRaw raw)
    (.ok (.submitted ⟨true, "policy.allowed", some action, some decision⟩)) (counted s') with hs₁
  obtain ⟨ledger, mirror, history, hothers⟩ := hdecided.others
  obtain ⟨window, count, -, hstate⟩ := hdecided.state
  have hroomy := hdecided.roomy (roomy_init hm)
  have hroomy₁ : Roomy 1 (registered s₁) :=
    ⟨hroomy.phase, hroomy.epoch, hroomy.criteria, hroomy.admitted, hroomy.window, hroomy.inflight,
      hroomy.egress, hroomy.rule, hroomy.grant, hroomy.stateLock⟩
  have hcounted : (registered s₁).state = s'.state.recordDecision .allow := rfl
  have hidle : Idle (registered s₁) := by
    refine ⟨hroomy.stateLock, ?_⟩
    change s'.containLock = none
    rw [hothers]
    rfl
  have hkinds : ∀ event ∈ (registered s₁).ledger.events, event.body.kind ≠ .dispatch := by
    change ∀ event ∈ s'.ledger.events, event.body.kind ≠ .dispatch
    rw [hdecided.events]
    intro event hmem
    simp only [Runtime.init, List.nil_append, List.mem_cons, List.not_mem_nil, or_false] at hmem
    rcases hmem with rfl | rfl
    · rw [hdecided.requested.1]
      decide
    · rw [hdecided.located.1]
      decide
  obtain ⟨s₂, error, hattempt, hover⟩ := exists_uncommitted 0 2000 hdecided hroomy₁
    hidle (by rw [hcounted, hstate]; exact Finset.notMem_empty _) (by decide)
    (by rw [hcounted, hstate]; rfl) hkinds
  have hfresh : "auth:00" ∉ s₁.inflight := by
    change "auth:00" ∉ s'.inflight
    rw [hothers]
    exact AList.notMem_empty _
  have hruns := runs_dispatch (failingWorld 2000) hm (fun s => refusedBeforeAppending_failingWorld manifest 2000 s _) hdecided hfresh hattempt
  have hunregister : Ends (refusedBeforeAppending (deployment manifest)) 0 s₂
      (perform (.unregister authorizationId) : Prog platform Unit)
      { s₂ with inflight := s₂.inflight.unregister "auth:00" } (.ok ()) :=
    ends_perform (failingWorld 2000) (refusedBeforeAppending_failingWorld manifest 2000 _ _)
      (by simp only [exec]; rfl)
  have hdispatch : Ends (refusedBeforeAppending (deployment manifest)) 0 s₁
      (body (deployment manifest) (.dispatch action decision 2000))
      { s₂ with inflight := s₂.inflight.unregister "auth:00" } (.error error) :=
    Ends.bind_error (hruns.trans (Ends.finalize ends_ofExcept hunregister))
  have hfirst : CallStep (refusedBeforeAppending (deployment manifest))
      (Runtime.init (deployment manifest) Reference.witness) s₁ := by
    have hcall : CallStep (refusedBeforeAppending (deployment manifest)) _ _ :=
      .call 0 (Call.submitRaw raw) _ trivial hends
    exact hcall
  have hsecond : CallStep (refusedBeforeAppending (deployment manifest)) s₁ _ :=
    .call 0 (Call.dispatch action decision 2000) _ trivial hdispatch
  have hsequence : Sequence (refusedBeforeAppending (deployment manifest))
      (Runtime.init (deployment manifest) Reference.witness)
      { s₂ with inflight := s₂.inflight.unregister "auth:00" } := .tail (.single hfirst) hsecond
  have hsame : Overcounted { s₂ with inflight := s₂.inflight.unregister "auth:00" } := hover
  exact hsame.not_matched (hclaim _ _ _ _ hsequence)

end Uncommitted

end Containment
