/-
# Soundness of the verifier

The invariant ties the generator's dictionaries to the events read so far, in two
directions. `TraceSound` says that whatever a trace claims has happened is in the
events; `Recorded` says that whatever is in the events is claimed by a trace. An
accepted event is checked against its trace, so the first direction supplies the
earlier events it must refer to, and the second rules out any other.
-/

import Containment.Auditor.Stream
import Containment.Reference.Requests

namespace Containment

open Json

variable {P : Platform}

/-! ## What each turn does -/

namespace Inspection

variable {manifest : Manifest P} {receipt : Receipt P} {st st' : Inspection P} {event : Event P}

theorem inspectRequest_ok (h : st.inspectRequest event = .ok st')
    (hkind : event.body.kind = .request) :
    ∃ action digest, IsRequest event action ∧ action.digest = .ok digest.1 ∧
      event.body.requestId = some action.requestId ∧ action.requestId ∉ st.traces ∧
      st' = { st with
        traces := st.traces.insert action.requestId ⟨event, digest, none, false, false, false⟩
        requestSequences := st.requestSequences.insert event.body.sequence.1
          action.requestId } := by
  simp only [inspectRequest, bind_eq_ok, Unique.exists_iff, ensure_eq_ok, except_pure,
    Except.ok.injEq] at h
  obtain ⟨json, hjson, payload, hpayload, action, haction, hid, hfresh, digest, hdigest, heq,
    rfl⟩ := h
  subst heq
  exact ⟨action, payload.actionSha256, ⟨hkind, json, payload, hjson, hpayload, haction, hdigest⟩,
    hdigest, hid, hfresh, rfl⟩

theorem inspectDecision_ok (h : st.inspectDecision manifest event = .ok st')
    (hkind : event.body.kind = .decision) :
    ∃ decision id trace, IsDecision event decision ∧
      decision.verify manifest.body.gatewayKey = .ok () ∧
      st.requestSequences.lookup decision.body.requestEventSequence.1 = some id ∧
      st.traces.lookup id = some trace ∧
      decision.body.requestEventHash = trace.event.eventHash ∧
      some decision.body.requestId = trace.event.body.requestId ∧
      event.body.requestId = trace.event.body.requestId ∧
      decision.body.actionSha256 = trace.actionSha256 ∧ trace.decision = none ∧
      st' = { st.setTrace id { trace with decision := some decision } with
        stats := { st.stats with
          decisions := st.stats.decisions + 1
          allowed := st.stats.allowed + (decide (decision.body.verdict = .allow)).toNat
          denied := st.stats.denied + (!decide (decision.body.verdict = .allow)).toNat }
        killBarrier :=
          if decision.body.hardViolation then some event.body.sequence.1
          else st.killBarrier } := by
  simp only [inspectDecision, bind_eq_ok, Unique.exists_iff, ensure_eq_ok] at h
  obtain ⟨decision, hdecision, hverify, -, h⟩ := h
  split at h
  · cases h
  · rename_i id trace hfound
    obtain ⟨id', hid, hmap⟩ := Option.bind_eq_some_iff.mp hfound
    obtain ⟨trace', htrace, heq⟩ := Option.map_eq_some_iff.mp hmap
    obtain ⟨rfl, rfl⟩ := Prod.mk.inj heq
    simp only [bind_unit_eq_ok, ensure_eq_ok, except_pure, Except.ok.injEq] at h
    obtain ⟨⟨hhash, hrequest, hevent, hdigest⟩, hnone, rfl⟩ := h
    exact ⟨decision, id', trace', ⟨hkind, hdecision⟩, hverify, hid, htrace, hhash, hrequest,
      hevent, hdigest, Option.isNone_iff_eq_none.mp hnone, rfl⟩

theorem decidedTrace_eq_some {id : OpaqueId} {trace : RequestTrace P} {decision : Decision P} :
    st.decidedTrace event = some (id, trace, decision) ↔
      event.body.requestId = some id ∧ st.traces.lookup id = some trace ∧
        trace.decision = some decision := by
  simp only [decidedTrace, Option.bind_eq_bind, Option.bind_eq_some_iff, Option.pure_def,
    Option.some.injEq, Prod.mk.injEq]
  constructor
  · rintro ⟨id', hid, trace', htrace, decision', hdecision, rfl, rfl, rfl⟩
    exact ⟨hid, htrace, hdecision⟩
  · rintro ⟨hid, htrace, hdecision⟩
    exact ⟨id, hid, trace, htrace, decision, hdecision, rfl, rfl, rfl⟩

theorem inspectDispatch_ok (h : st.inspectDispatch event = .ok st')
    (hkind : event.body.kind = .dispatch) :
    ∃ payload id trace decision, IsDispatch event payload ∧ st.killBarrier = none ∧
      event.body.requestId = some id ∧ st.traces.lookup id = some trace ∧
      trace.decision = some decision ∧ decision.body.verdict = .allow ∧
      trace.dispatched = false ∧ BindsTo payload trace decision ∧
      payload.authorizationId ∉ st.authorizationIds ∧
      (∀ expires ∈ decision.body.authorizationExpiresMonotonicNs,
        event.body.monotonicNs.1 ≤ expires.1) ∧
      st' = { st.setTrace id { trace with dispatched := true } with
        authorizationIds := insert payload.authorizationId st.authorizationIds
        stats := { st.stats with dispatches := st.stats.dispatches + 1 } } := by
  simp only [inspectDispatch, bind_eq_ok, Unique.exists_iff, ensure_eq_ok] at h
  obtain ⟨payload, hpayload, hbarrier, h⟩ := h
  split at h
  · cases h
  · rename_i id trace decision hfound
    obtain ⟨hid, htrace, hdecision⟩ := decidedTrace_eq_some.mp hfound
    simp only [bind_unit_eq_ok, ensure_eq_ok, except_pure, Except.ok.injEq] at h
    obtain ⟨hallow, hfirst, hbinds, hunused, hexpiry, rfl⟩ := h
    exact ⟨payload, id, trace, decision, ⟨hkind, hpayload⟩, Option.isNone_iff_eq_none.mp hbarrier,
      hid, htrace, hdecision, hallow, hfirst, hbinds, hunused, hexpiry, rfl⟩

theorem inspectResult_ok (h : st.inspectResult event = .ok st')
    (hkind : event.body.kind = .result) :
    ∃ payload id trace decision, IsResult event payload ∧
      event.body.requestId = some id ∧ st.traces.lookup id = some trace ∧
      trace.decision = some decision ∧ trace.dispatched = true ∧ trace.completed = false ∧
      BindsTo payload.toDispatchEventPayload trace decision ∧
      st' = { st.setTrace id { trace with completed := true } with
        stats := { st.stats with results := st.stats.results + 1 } } := by
  simp only [inspectResult, bind_eq_ok] at h
  obtain ⟨payload, hpayload, h⟩ := h
  split at h
  · cases h
  · rename_i id trace decision hfound
    obtain ⟨hfound, hdispatched⟩ := Option.filter_eq_some_iff.mp hfound
    obtain ⟨hid, htrace, hdecision⟩ := decidedTrace_eq_some.mp hfound
    simp only [bind_unit_eq_ok, ensure_eq_ok, except_pure, Except.ok.injEq] at h
    obtain ⟨hfirst, hbinds, rfl⟩ := h
    exact ⟨payload, id, trace, decision, ⟨hkind, hpayload⟩, hid, htrace, hdecision, hdispatched,
      hfirst, hbinds, rfl⟩

theorem inspectCancellation_ok (h : st.inspectCancellation event = .ok st') :
    ∃ id trace confirmed, event.body.requestId = some id ∧ st.traces.lookup id = some trace ∧
      st' = st.setTrace id { trace with cancellationConfirmed := confirmed } ∧
      (trace.completed = false ∧ trace.cancellationConfirmed = false) ∧
      ∃ payload, modelValidateJson P CancellationEventPayload.codec
          event.body.payloadCanonicalJson.1 = .ok payload ∧
        confirmed = decide (payload.status = .confirmed) := by
  simp only [inspectCancellation, bind_eq_ok] at h
  obtain ⟨payload, hpayload, h⟩ := h
  split at h
  · cases h
  · rename_i id trace decision hfound
    obtain ⟨hfound, -⟩ := Option.filter_eq_some_iff.mp hfound
    obtain ⟨hid, htrace, -⟩ := decidedTrace_eq_some.mp hfound
    simp only [bind_unit_eq_ok, ensure_eq_ok, except_pure, Except.ok.injEq] at h
    exact ⟨id, trace, _, hid, htrace, h.2.2.symm, h.1, payload, hpayload, rfl⟩

theorem inspectBarrier_ok {α : Type} {c : Codec PyError α}
    (h : st.inspectBarrier c event = .ok st') :
    st' = { st with killBarrier := some event.body.sequence.1 } := by
  simp only [inspectBarrier, bind_eq_ok, except_pure, Except.ok.injEq] at h
  obtain ⟨-, -, rfl⟩ := h
  rfl

theorem inspectAcknowledgement_ok
    (h : st.inspectAcknowledgement manifest receipt event = .ok st') :
    ∃ ack own, st.loggedAck = none ∧
      modelValidateJson P (Sealed.codec P killAcknowledgementSealing)
        event.body.payloadCanonicalJson.1 = .ok ack ∧
      receipt.body.killAcknowledgement = some own ∧ ack.digest = own.digest ∧
      st' = { st with
        loggedAck := some ack
        stats := { st.stats with killAcks := st.stats.killAcks + 1 } } ∧
      ack.body.triggerEventSequence.1 < event.body.sequence.1 ∧
      st.eventHashes.lookup ack.body.triggerEventSequence.1 =
        some ack.body.triggerEventHash := by
  simp only [inspectAcknowledgement, bind_eq_ok, Unique.exists_iff, ensure_eq_ok, except_pure,
    Except.ok.injEq] at h
  obtain ⟨hnone, ack, hack, -, hbefore, htrigger, hown, rfl⟩ := h
  obtain ⟨own, hsome, hdigest⟩ := Option.any_eq_true _ _ |>.mp hown
  exact ⟨ack, own, Option.isNone_iff_eq_none.mp hnone, hack, hsome, of_decide_eq_true hdigest,
    rfl, hbefore, htrigger⟩

end Inspection

/-! ## The invariant -/

/-- What a trace claims is in the events. -/
structure TraceSound (manifest : Manifest P) (events : List (Event P)) (id : OpaqueId)
    (trace : RequestTrace P) : Prop where
  request : ∃ (i : ℕ) (action : Action P), events[i]? = some trace.event ∧
    IsRequest trace.event action ∧ trace.event.body.requestId = some id ∧
    action.digest = .ok trace.actionSha256.1
  decided : ∀ decision, trace.decision = some decision →
    decision.body.actionSha256 = trace.actionSha256 ∧ decision.body.requestId = id ∧
    ∃ (i j : ℕ), events[i]? = some trace.event ∧ Answers manifest events i j trace.event decision
  dispatched : trace.dispatched = true → ∃ (k : ℕ) (dispatch : Event P)
    (payload : DispatchEventPayload) (decision : Decision P), events[k]? = some dispatch ∧
      IsDispatch dispatch payload ∧ dispatch.body.requestId = some id ∧
      trace.decision = some decision ∧ Inspection.BindsTo payload trace decision

/-- What an event shows is claimed by a trace. -/
structure Recorded (st : Inspection P) (event : Event P) : Prop where
  request : event.body.kind = .request → ∃ id trace, event.body.requestId = some id ∧
    st.traces.lookup id = some trace ∧ trace.event = event
  decision : ∀ decision, IsDecision event decision → ∃ trace,
    st.traces.lookup decision.body.requestId = some trace ∧ trace.decision = some decision
  dispatch : ∀ payload, IsDispatch event payload → payload.authorizationId ∈ st.authorizationIds ∧
    ∃ id trace, event.body.requestId = some id ∧ st.traces.lookup id = some trace ∧
      trace.dispatched = true
  result : event.body.kind = .result → ∃ id trace, event.body.requestId = some id ∧
    st.traces.lookup id = some trace ∧ trace.completed = true

/-- Positions at which related events stand coincide. -/
def Distinct (R : Event P → Event P → Prop) (events : List (Event P)) : Prop :=
  ∀ (k k' : ℕ) event event', events[k]? = some event → events[k']? = some event' →
    R event event' → k = k'

def SameRequestDecided (event event' : Event P) : Prop :=
  ∃ decision decision', IsDecision event decision ∧ IsDecision event' decision' ∧
    decision.body.requestId = decision'.body.requestId

def SameDispatch (event event' : Event P) : Prop :=
  ∃ payload payload', IsDispatch event payload ∧ IsDispatch event' payload' ∧
    (event.body.requestId = event'.body.requestId ∨
      payload.authorizationId = payload'.authorizationId)

def SameResult (event event' : Event P) : Prop :=
  ∃ payload payload', IsResult event payload ∧ IsResult event' payload' ∧
    (event.body.requestId = event'.body.requestId ∨
      payload.authorizationId = payload'.authorizationId)

/-- The events seen so far and the statistics agree. -/
structure Tallied (st : Inspection P) (events : List (Event P)) : Prop where
  allowed : st.stats.allowed = events.countP fun event => verdictOf event = some .allow
  denied : st.stats.denied =
    events.countP fun event => verdictOf event = some .deny ∨ verdictOf event = some .kill
  dispatches : st.stats.dispatches = events.countP fun event => event.body.kind = .dispatch
  results : st.stats.results = events.countP fun event => event.body.kind = .result

/-- The generator's state after reading the events. -/
structure Audited (manifest : Manifest P) (events : List (Event P)) (st : Inspection P) :
    Prop where
  traces : ∀ id trace, st.traces.lookup id = some trace → TraceSound manifest events id trace
  sequences : ∀ s id, st.requestSequences.lookup s = some id →
    ∃ trace, st.traces.lookup id = some trace ∧ trace.event.body.sequence.1 = s
  recorded : ∀ (i : ℕ) event, events[i]? = some event → Recorded st event
  barrier : st.killBarrier = none → ∀ (i : ℕ) event, events[i]? = some event →
    ¬ HardViolation event
  decisions : Distinct SameRequestDecided events
  used : ∀ (k : ℕ) dispatch, events[k]? = some dispatch → dispatch.body.kind = .dispatch →
    ∃ j payload decision, IsDispatch dispatch payload ∧ Uses events j k dispatch payload decision
  dispatches : Distinct SameDispatch events
  respected : BarrierRespected events
  returned : ∀ (m : ℕ) result, events[m]? = some result → result.body.kind = .result →
    ∃ (k : ℕ) (dispatch : Event P) (payload : ResultEventPayload), IsResult result payload ∧
      k < m ∧ events[k]? = some dispatch ∧
      IsDispatch dispatch payload.toDispatchEventPayload ∧
      dispatch.body.requestId = result.body.requestId
  results : Distinct SameResult events
  total : st.stats.events = events.length
  tallied : Tallied st events

/-! ## One turn -/

theorem Distinct.snoc {R : Event P → Event P → Prop} {events : List (Event P)} {event : Event P}
    (h : Distinct R events) (hsymm : ∀ {a b}, R a b → R b a)
    (hnew : ∀ (k : ℕ) old, events[k]? = some old → ¬ R old event) :
    Distinct R (events ++ [event]) := by
  intro k k' e e' he he' hR
  rcases getElem?_snoc.mp he with hk | ⟨rfl, rfl⟩ <;>
    rcases getElem?_snoc.mp he' with hk' | ⟨rfl, rfl⟩
  · exact h k k' e e' hk hk' hR
  · exact absurd hR (hnew k e hk)
  · exact absurd (hsymm hR) (hnew k' e' hk')
  · rfl

theorem SameRequestDecided.symm {a b : Event P} :
    SameRequestDecided a b → SameRequestDecided b a
  | ⟨d, d', hd, hd', h⟩ => ⟨d', d, hd', hd, h.symm⟩

theorem SameDispatch.symm {a b : Event P} : SameDispatch a b → SameDispatch b a
  | ⟨p, p', hp, hp', h⟩ => ⟨p', p, hp', hp, h.imp Eq.symm Eq.symm⟩

theorem SameResult.symm {a b : Event P} : SameResult a b → SameResult b a
  | ⟨p, p', hp, hp', h⟩ => ⟨p', p, hp', hp, h.imp Eq.symm Eq.symm⟩

section Snoc

variable {manifest : Manifest P} {events : List (Event P)} {event : Event P} {id : OpaqueId}
  {trace : RequestTrace P}

theorem Answers.snoc {i j : ℕ} {request : Event P} {decision : Decision P}
    (h : Answers manifest events i j request decision) :
    Answers manifest (events ++ [event]) i j request decision := by
  obtain ⟨e, he, hdecision⟩ := h.located
  exact { h with located := ⟨e, getElem?_snoc_of_some he, hdecision⟩ }

theorem Uses.snoc {j k : ℕ} {dispatch : Event P} {payload : DispatchEventPayload}
    {decision : Decision P} (h : Uses events j k dispatch payload decision) :
    Uses (events ++ [event]) j k dispatch payload decision := by
  obtain ⟨e, he, hdecision⟩ := h.located
  exact { h with located := ⟨e, getElem?_snoc_of_some he, hdecision⟩ }

theorem TraceSound.snoc (h : TraceSound manifest events id trace) :
    TraceSound manifest (events ++ [event]) id trace := by
  refine ⟨?_, ?_, ?_⟩
  · obtain ⟨i, action, hi, hrest⟩ := h.request
    exact ⟨i, action, getElem?_snoc_of_some hi, hrest⟩
  · intro decision hdecision
    obtain ⟨hdigest, hid, i, j, hi, hanswers⟩ := h.decided decision hdecision
    exact ⟨hdigest, hid, i, j, getElem?_snoc_of_some hi, hanswers.snoc⟩
  · intro hdispatched
    obtain ⟨k, dispatch, payload, decision, hk, hrest⟩ := h.dispatched hdispatched
    exact ⟨k, dispatch, payload, decision, getElem?_snoc_of_some hk, hrest⟩

end Snoc

/-- A trace only gains claims. -/
structure Extends (trace trace' : RequestTrace P) : Prop where
  event : trace'.event = trace.event
  digest : trace'.actionSha256 = trace.actionSha256
  decision : ∀ decision, trace.decision = some decision → trace'.decision = some decision
  dispatched : trace.dispatched = true → trace'.dispatched = true
  completed : trace.completed = true → trace'.completed = true

theorem Extends.refl (trace : RequestTrace P) : Extends trace trace :=
  ⟨rfl, rfl, fun _ h => h, id, id⟩

/-- The dictionaries only grow. -/
structure Grows (st st' : Inspection P) : Prop where
  traces : ∀ id trace, st.traces.lookup id = some trace →
    ∃ trace', st'.traces.lookup id = some trace' ∧ Extends trace trace'
  authorizations : st.authorizationIds ⊆ st'.authorizationIds

theorem Grows.refl (st : Inspection P) : Grows st st :=
  ⟨fun _ trace h => ⟨trace, h, .refl trace⟩, fun _ h => h⟩

theorem Recorded.grows {st st' : Inspection P} {event : Event P} (h : Recorded st event)
    (hgrows : Grows st st') : Recorded st' event := by
  refine ⟨?_, ?_, ?_, ?_⟩
  · intro hkind
    obtain ⟨id, trace, hid, htrace, hevent⟩ := h.request hkind
    obtain ⟨trace', htrace', hext⟩ := hgrows.traces id trace htrace
    exact ⟨id, trace', hid, htrace', hext.event.trans hevent⟩
  · intro decision hdecision
    obtain ⟨trace, htrace, hsome⟩ := h.decision decision hdecision
    obtain ⟨trace', htrace', hext⟩ := hgrows.traces _ trace htrace
    exact ⟨trace', htrace', hext.decision decision hsome⟩
  · intro payload hpayload
    obtain ⟨hauth, id, trace, hid, htrace, hdispatched⟩ := h.dispatch payload hpayload
    obtain ⟨trace', htrace', hext⟩ := hgrows.traces id trace htrace
    exact ⟨hgrows.authorizations hauth, id, trace', hid, htrace', hext.dispatched hdispatched⟩
  · intro hkind
    obtain ⟨id, trace, hid, htrace, hcompleted⟩ := h.result hkind
    obtain ⟨trace', htrace', hext⟩ := hgrows.traces id trace htrace
    exact ⟨id, trace', hid, htrace', hext.completed hcompleted⟩

/-- What a turn has to check and to record for its event. -/
structure Turn (manifest : Manifest P) (events : List (Event P)) (st : Inspection P)
    (event : Event P) (st' : Inspection P) : Prop where
  grows : Grows st st'
  traces : ∀ id trace, st'.traces.lookup id = some trace →
    TraceSound manifest (events ++ [event]) id trace
  sequences : ∀ s id, st'.requestSequences.lookup s = some id →
    ∃ trace, st'.traces.lookup id = some trace ∧ trace.event.body.sequence.1 = s
  recorded : Recorded st' event
  barrier : st'.killBarrier = none → st.killBarrier = none ∧ ¬ HardViolation event
  undecided : ∀ decision, IsDecision event decision →
    ∃ trace, st.traces.lookup decision.body.requestId = some trace ∧ trace.decision = none
  dispatched : event.body.kind = .dispatch → st.killBarrier = none ∧
    ∃ payload id trace decision, IsDispatch event payload ∧ event.body.requestId = some id ∧
      st.traces.lookup id = some trace ∧ trace.decision = some decision ∧
      decision.body.verdict = .allow ∧ trace.dispatched = false ∧
      Inspection.BindsTo payload trace decision ∧
      payload.authorizationId ∉ st.authorizationIds ∧
      ∀ expires ∈ decision.body.authorizationExpiresMonotonicNs,
        event.body.monotonicNs.1 ≤ expires.1
  returned : event.body.kind = .result → ∃ payload id trace decision, IsResult event payload ∧
    event.body.requestId = some id ∧ st.traces.lookup id = some trace ∧
    trace.decision = some decision ∧ trace.dispatched = true ∧ trace.completed = false ∧
    Inspection.BindsTo payload.toDispatchEventPayload trace decision
  total : st'.stats.events = st.stats.events
  tallied : Tallied st' (events ++ [event])

section Turn

variable {manifest : Manifest P} {receipt : Receipt P} {events : List (Event P)}
  {st st' : Inspection P} {event : Event P}

/-- The capability of a dispatch is that of the decision in its trace. -/
theorem carries_of_bindsTo {payload : DispatchEventPayload} {id : OpaqueId}
    {trace : RequestTrace P} {decision : Decision P} (h : TraceSound manifest events id trace)
    (hdecision : trace.decision = some decision)
    (hbinds : Inspection.BindsTo payload trace decision) : Carries payload decision :=
  ⟨hbinds.1.trans (h.decided decision hdecision).1.symm, hbinds.2⟩

/-- A trace gives one capability to its dispatch and to its result. -/
theorem payload_eq_of_bindsTo {payload payload' : DispatchEventPayload} {trace : RequestTrace P}
    {decision : Decision P} (h : Inspection.BindsTo payload trace decision)
    (h' : Inspection.BindsTo payload' trace decision) : payload = payload' := by
  obtain ⟨hdigest, hhash, hid, hepoch⟩ := h
  obtain ⟨hdigest', hhash', hid', hepoch'⟩ := h'
  have hid := Option.some.inj (hid.trans hid'.symm)
  cases payload
  cases payload'
  simp_all

theorem Audited.turn_used (h : Audited manifest events st)
    (hturn : Turn manifest events st event st') (hkind : event.body.kind = .dispatch) :
    ∃ j payload decision, IsDispatch event payload ∧
      Uses (events ++ [event]) j events.length event payload decision := by
  obtain ⟨-, payload, id, trace, decision, hpayload, hid, htrace, hdecision, hallow, -, hbinds, -,
    hexpiry⟩ := hturn.dispatched hkind
  obtain ⟨hdigest, hrequest, i, j, hi, hanswers⟩ := (h.traces id trace htrace).decided decision
    hdecision
  obtain ⟨e, he, hlocated⟩ := hanswers.located
  obtain ⟨-, expires, -, hexpires, -⟩ := DecisionBody.authorization_of_allow hallow
  refine ⟨j, payload, decision, hpayload, ?_⟩
  exact {
    earlier := lt_length_of_getElem? he
    located := ⟨e, getElem?_snoc_of_some he, hlocated⟩
    allow := hallow
    requestId := by rw [hrequest, hid]
    carries := carries_of_bindsTo (h.traces id trace htrace) hdecision hbinds
    unexpired := ⟨expires, hexpires, hexpiry expires hexpires⟩ }

theorem Audited.turn_returned (h : Audited manifest events st)
    (hturn : Turn manifest events st event st') (hkind : event.body.kind = .result) :
    ∃ (k : ℕ) (dispatch : Event P) (payload : ResultEventPayload), IsResult event payload ∧
      k < events.length ∧ events[k]? = some dispatch ∧
      IsDispatch dispatch payload.toDispatchEventPayload ∧
      dispatch.body.requestId = event.body.requestId := by
  obtain ⟨payload, id, trace, decision, hpayload, hid, htrace, hdecision, hdispatched, -,
    hbinds⟩ := hturn.returned hkind
  obtain ⟨k, dispatch, payload', decision', hk, hpayload', hid', hdecision', hbinds'⟩ :=
    (h.traces id trace htrace).dispatched hdispatched
  obtain rfl : decision' = decision := Option.some.inj (hdecision'.symm.trans hdecision)
  obtain rfl := payload_eq_of_bindsTo hbinds' hbinds
  exact ⟨k, dispatch, payload, hpayload, lt_length_of_getElem? hk, hk, hpayload',
    hid'.trans hid.symm⟩

/-- A request is decided once: the new decision finds its trace undecided. -/
theorem Audited.turn_decisions (h : Audited manifest events st)
    (hturn : Turn manifest events st event st') :
    Distinct SameRequestDecided (events ++ [event]) := by
  refine h.decisions.snoc SameRequestDecided.symm ?_
  rintro k old hk ⟨decision, decision', hdecision, hdecision', hsame⟩
  obtain ⟨trace, htrace, hsome⟩ := (h.recorded k old hk).decision decision hdecision
  obtain ⟨trace', htrace', hnone⟩ := hturn.undecided decision' hdecision'
  rw [hsame, htrace', Option.some.injEq] at htrace
  rw [← htrace, hnone] at hsome
  cases hsome

theorem Audited.turn_dispatches (h : Audited manifest events st)
    (hturn : Turn manifest events st event st') : Distinct SameDispatch (events ++ [event]) := by
  refine h.dispatches.snoc SameDispatch.symm ?_
  rintro k old hk ⟨payload, payload', hpayload, hpayload', hsame⟩
  obtain ⟨hauth, id, trace, hid, htrace, hdispatched⟩ :=
    (h.recorded k old hk).dispatch payload hpayload
  obtain ⟨-, payload₁, id₁, trace₁, -, hpayload₁, hid₁, htrace₁, -, -, hfirst, -, hunused, -⟩ :=
    hturn.dispatched hpayload'.1
  obtain rfl := hpayload'.unique hpayload₁
  rcases hsame with hsame | hsame
  · rw [hid, hid₁, Option.some.injEq] at hsame
    rw [hsame, htrace₁, Option.some.injEq] at htrace
    rw [← htrace, hfirst] at hdispatched
    cases hdispatched
  · exact hunused (hsame ▸ hauth)

/-- A dispatch has one result: the same request finds its trace completed, and the
same authorization is the same dispatch. -/
theorem Audited.turn_results (h : Audited manifest events st)
    (hturn : Turn manifest events st event st') : Distinct SameResult (events ++ [event]) := by
  refine h.results.snoc SameResult.symm ?_
  rintro m old hm ⟨payload, payload', hpayload, hpayload', hsame⟩
  have hrequest : old.body.requestId = event.body.requestId := by
    rcases hsame with hsame | hsame
    · exact hsame
    · obtain ⟨k, dispatch, payload₁, hpayload₁, -, hk, hdispatch, hid⟩ :=
        h.returned m old hm hpayload.1
      obtain ⟨k', dispatch', payload₂, hpayload₂, -, hk', hdispatch', hid'⟩ :=
        h.turn_returned hturn hpayload'.1
      obtain rfl := hpayload.unique hpayload₁
      obtain rfl := hpayload'.unique hpayload₂
      obtain rfl := h.dispatches k k' dispatch dispatch' hk hk'
        ⟨_, _, hdispatch, hdispatch', .inr hsame⟩
      obtain rfl : dispatch = dispatch' := Option.some.inj (hk.symm.trans hk')
      exact hid.symm.trans hid'
  obtain ⟨id, trace, hid, htrace, hcompleted⟩ := (h.recorded m old hm).result hpayload.1
  obtain ⟨-, id₁, trace₁, -, -, hid₁, htrace₁, -, -, hfirst, -⟩ := hturn.returned hpayload'.1
  rw [hid, hid₁, Option.some.injEq] at hrequest
  rw [hrequest, htrace₁, Option.some.injEq] at htrace
  rw [← htrace, hfirst] at hcompleted
  cases hcompleted

theorem Audited.turn (h : Audited manifest events st) (hturn : Turn manifest events st event st') :
    Audited manifest (events ++ [event])
      { st' with stats := { st'.stats with events := st'.stats.events + 1 } } where
  traces := hturn.traces
  sequences := hturn.sequences
  recorded i e he := by
    rcases getElem?_snoc.mp he with hi | ⟨rfl, rfl⟩
    · exact (h.recorded i e hi).grows ⟨hturn.grows.traces, hturn.grows.authorizations⟩
    · exact ⟨hturn.recorded.request, hturn.recorded.decision, hturn.recorded.dispatch,
        hturn.recorded.result⟩
  barrier hnone i e he := by
    obtain ⟨hold, hnew⟩ := hturn.barrier hnone
    rcases getElem?_snoc.mp he with hi | ⟨rfl, rfl⟩
    · exact h.barrier hold i e hi
    · exact hnew
  decisions := h.turn_decisions hturn
  used k dispatch hk hkind := by
    rcases getElem?_snoc.mp hk with hk | ⟨rfl, rfl⟩
    · obtain ⟨j, payload, decision, hpayload, huses⟩ := h.used k dispatch hk hkind
      exact ⟨j, payload, decision, hpayload, huses.snoc⟩
    · exact h.turn_used hturn hkind
  dispatches := h.turn_dispatches hturn
  respected i k e dispatch hlt he hviolation hk := by
    have hi : events[i]? = some e := by
      rcases getElem?_snoc.mp he with hi | ⟨rfl, -⟩
      · exact hi
      · have hk := lt_length_of_getElem? hk
        rw [List.length_append, List.length_singleton] at hk
        omega
    rcases getElem?_snoc.mp hk with hk | ⟨-, rfl⟩
    · exact h.respected i k e dispatch hlt hi hviolation hk
    · intro hkind
      exact h.barrier (hturn.dispatched hkind).1 i e hi hviolation
  returned m result hm hkind := by
    rcases getElem?_snoc.mp hm with hm | ⟨rfl, rfl⟩
    · obtain ⟨k, dispatch, payload, hpayload, hlt, hk, hrest⟩ := h.returned m result hm hkind
      exact ⟨k, dispatch, payload, hpayload, hlt, getElem?_snoc_of_some hk, hrest⟩
    · obtain ⟨k, dispatch, payload, hpayload, hlt, hk, hrest⟩ := h.turn_returned hturn hkind
      exact ⟨k, dispatch, payload, hpayload, hlt, getElem?_snoc_of_some hk, hrest⟩
  results := h.turn_results hturn
  total := by
    rw [List.length_append, List.length_singleton, ← h.total, ← hturn.total]
  tallied := ⟨hturn.tallied.allowed, hturn.tallied.denied, hturn.tallied.dispatches,
    hturn.tallied.results⟩

/-! ## Each kind of turn -/

/-- An event of a kind that carries no decision, dispatch or result. -/
theorem Audited.turn_of_unchanged (h : Audited manifest events st)
    (hkind : event.body.kind ≠ .request ∧ event.body.kind ≠ .decision ∧
      event.body.kind ≠ .dispatch ∧ event.body.kind ≠ .result)
    (hgrows : Grows st st')
    (htraces : ∀ id trace, st'.traces.lookup id = some trace →
      TraceSound manifest (events ++ [event]) id trace)
    (hsequences : st'.requestSequences = st.requestSequences)
    (hbarrier : st'.killBarrier = none → st.killBarrier = none ∧ ¬ HardViolation event)
    (hstats : st'.stats = { st.stats with killAcks := st'.stats.killAcks }) :
    Turn manifest events st event st' where
  grows := hgrows
  traces := htraces
  sequences s id hid := by
    rw [hsequences] at hid
    obtain ⟨trace, htrace, hs⟩ := h.sequences s id hid
    obtain ⟨trace', htrace', hext⟩ := hgrows.traces id trace htrace
    exact ⟨trace', htrace', by rw [hext.event, hs]⟩
  recorded := ⟨fun hk => absurd hk hkind.1, fun _ hd => absurd hd.1 hkind.2.1,
    fun _ hd => absurd hd.1 hkind.2.2.1, fun hk => absurd hk hkind.2.2.2⟩
  barrier := hbarrier
  undecided _ hd := absurd hd.1 hkind.2.1
  dispatched hk := absurd hk hkind.2.2.1
  returned hk := absurd hk hkind.2.2.2
  total := by rw [hstats]
  tallied := by
    have hverdict : verdictOf event = none := if_neg hkind.2.1
    refine ⟨?_, ?_, ?_, ?_⟩ <;> rw [hstats, List.countP_append]
    · simp [h.tallied.allowed, hverdict]
    · simp [h.tallied.denied, hverdict]
    · simp [h.tallied.dispatches, hkind.2.2.1]
    · simp [h.tallied.results, hkind.2.2.2]

/-- A violation, an overload and an acknowledgement leave the traces alone. -/
theorem Audited.turn_of_same_traces (h : Audited manifest events st)
    (hkind : event.body.kind ≠ .request ∧ event.body.kind ≠ .decision ∧
      event.body.kind ≠ .dispatch ∧ event.body.kind ≠ .result)
    (htraces : st'.traces = st.traces) (hauth : st'.authorizationIds = st.authorizationIds)
    (hsequences : st'.requestSequences = st.requestSequences)
    (hbarrier : st'.killBarrier = none → st.killBarrier = none ∧ ¬ HardViolation event)
    (hstats : st'.stats = { st.stats with killAcks := st'.stats.killAcks }) :
    Turn manifest events st event st' := by
  refine h.turn_of_unchanged hkind ⟨?_, ?_⟩ ?_ hsequences hbarrier hstats
  · rw [htraces]
    exact (Grows.refl st).traces
  · rw [hauth]
  · rw [htraces]
    exact fun id trace hid => (h.traces id trace hid).snoc

theorem not_hardViolation (hviolation : event.body.kind ≠ .violation)
    (hoverload : event.body.kind ≠ .overloadSummary) (hdecision : event.body.kind ≠ .decision) :
    ¬ HardViolation event := by
  rintro (hk | hk | ⟨decision, hk, -⟩)
  · exact hviolation hk
  · exact hoverload hk
  · exact hdecision hk.1

section SetTrace

variable {id : OpaqueId} {trace trace' : RequestTrace P}

theorem grows_of_insert (htrace : st.traces.lookup id = some trace)
    (hst : st'.traces = st.traces.insert id trace') (hext : Extends trace trace')
    (hauth : st.authorizationIds ⊆ st'.authorizationIds) : Grows st st' := by
  refine ⟨?_, hauth⟩
  intro id₁ trace₁ htrace₁
  rw [hst]
  by_cases heq : id₁ = id
  · subst heq
    rw [htrace, Option.some.injEq] at htrace₁
    exact ⟨trace', AList.lookup_insert _, htrace₁ ▸ hext⟩
  · exact ⟨trace₁, by rw [AList.lookup_insert_ne heq, htrace₁], .refl trace₁⟩

theorem Audited.traces_of_insert (h : Audited manifest events st)
    (hst : st'.traces = st.traces.insert id trace')
    (hnew : TraceSound manifest (events ++ [event]) id trace') :
    ∀ id trace, st'.traces.lookup id = some trace →
      TraceSound manifest (events ++ [event]) id trace := by
  intro id₁ trace₁ htrace₁
  rw [hst] at htrace₁
  by_cases heq : id₁ = id
  · subst heq
    rw [AList.lookup_insert, Option.some.injEq] at htrace₁
    exact htrace₁ ▸ hnew
  · rw [AList.lookup_insert_ne heq] at htrace₁
    exact (h.traces id₁ trace₁ htrace₁).snoc

theorem Audited.sequences_of_grows (h : Audited manifest events st) (hgrows : Grows st st')
    {s : ℤ} (hid : st.requestSequences.lookup s = some id) :
    ∃ trace, st'.traces.lookup id = some trace ∧ trace.event.body.sequence.1 = s := by
  obtain ⟨trace, htrace, hs⟩ := h.sequences s id hid
  obtain ⟨trace', htrace', hext⟩ := hgrows.traces id trace htrace
  exact ⟨trace', htrace', by rw [hext.event, hs]⟩

/-- A trace that only changes its later flags claims nothing new. -/
theorem TraceSound.of_flags (h : TraceSound manifest events id trace)
    (hevent : trace'.event = trace.event) (hdigest : trace'.actionSha256 = trace.actionSha256)
    (hdecision : trace'.decision = trace.decision)
    (hdispatched : trace'.dispatched = trace.dispatched) :
    TraceSound manifest events id trace' := by
  refine ⟨?_, ?_, ?_⟩
  · rw [hevent, hdigest]
    exact h.request
  · rw [hevent, hdigest, hdecision]
    exact h.decided
  · unfold Inspection.BindsTo
    rw [hdispatched, hdigest, hdecision]
    exact h.dispatched

end SetTrace

theorem Audited.turn_request (h : Audited manifest events st)
    (hkind : event.body.kind = .request) (hok : st.inspectRequest event = .ok st') :
    Turn manifest events st event st' := by
  obtain ⟨action, digest, hrequest, hdigest, hid, hfresh, rfl⟩ :=
    Inspection.inspectRequest_ok hok hkind
  have hne : ∀ {id trace}, st.traces.lookup id = some trace → id ≠ action.requestId := by
    rintro id trace htrace rfl
    exact hfresh (AList.lookup_isSome.mp (by rw [htrace]; rfl))
  have hgrows : Grows st { st with
      traces := st.traces.insert action.requestId ⟨event, digest, none, false, false, false⟩ } := by
    refine ⟨fun id trace htrace => ⟨trace, ?_, .refl trace⟩, fun _ h => h⟩
    rw [AList.lookup_insert_ne (hne htrace), htrace]
  refine {
    grows := ⟨hgrows.traces, hgrows.authorizations⟩
    traces := h.traces_of_insert rfl ⟨?_, fun _ hd => (nomatch hd), fun hd => (nomatch hd)⟩
    sequences := ?_
    recorded := ⟨fun _ => ⟨_, _, hid, AList.lookup_insert _, rfl⟩, ?_, ?_, ?_⟩
    barrier := ?_
    undecided := ?_
    dispatched := ?_
    returned := ?_
    total := rfl
    tallied := ⟨?_, ?_, ?_, ?_⟩ }
  · exact ⟨events.length, action, getElem?_snoc.mpr (.inr ⟨rfl, rfl⟩), hrequest, hid, hdigest⟩
  · intro s id hs
    by_cases heq : s = event.body.sequence.1
    · subst heq
      rw [AList.lookup_insert, Option.some.injEq] at hs
      subst hs
      exact ⟨_, AList.lookup_insert _, rfl⟩
    · rw [AList.lookup_insert_ne heq] at hs
      exact h.sequences_of_grows hgrows hs
  · intro decision hd
    exact nomatch hkind.symm.trans hd.1
  · intro payload hd
    exact nomatch hkind.symm.trans hd.1
  · intro hd
    exact nomatch hkind.symm.trans hd
  · intro hnone
    refine ⟨hnone, not_hardViolation ?_ ?_ ?_⟩ <;> rw [hkind] <;> decide
  · intro decision hd
    exact nomatch hkind.symm.trans hd.1
  · intro hd
    exact nomatch hkind.symm.trans hd
  · intro hd
    exact nomatch hkind.symm.trans hd
  all_goals
    have hverdict : verdictOf event = none := if_neg (by rw [hkind]; decide)
    simp [List.countP_append, hverdict, hkind, h.tallied.allowed, h.tallied.denied,
      h.tallied.dispatches, h.tallied.results]

theorem verdictOf_of_isDecision {decision : Decision P} (h : IsDecision event decision) :
    verdictOf event = some decision.body.verdict := by
  unfold verdictOf
  rw [if_pos h.1, h.2]

theorem Audited.turn_decision (h : Audited manifest events st) (hchained : Chained events)
    (hkind : event.body.kind = .decision) (hok : st.inspectDecision manifest event = .ok st') :
    Turn manifest events st event st' := by
  obtain ⟨decision, id, trace, hdecision, hverify, hsequence, htrace, hhash, hrequest, -, hdigest,
    hnone, rfl⟩ := Inspection.inspectDecision_ok hok hkind
  have hsound := h.traces id trace htrace
  obtain ⟨i, action, hi, hisRequest, hid, haction⟩ := hsound.request
  have hrequestId : decision.body.requestId = id := Option.some.inj (hrequest.trans hid)
  -- The position of the request is the sequence number the decision names.
  have hposition : decision.body.requestEventSequence.1 = i := by
    obtain ⟨trace', htrace', hs⟩ := h.sequences _ id hsequence
    rw [htrace, Option.some.injEq] at htrace'
    rw [← hs, ← htrace', hchained.sequence i trace.event hi]
  have hanswers : Answers manifest (events ++ [event]) i events.length trace.event decision := {
    later := lt_length_of_getElem? hi
    located := ⟨event, getElem?_snoc.mpr (.inr ⟨rfl, rfl⟩), hdecision⟩
    verified := hverify
    sequence := hposition
    hash := hhash
    requestId := hrequest
    digest := ⟨action, hisRequest, by rw [hdigest, haction]⟩ }
  have hgrows : Grows st (st.setTrace id { trace with decision := some decision }) :=
    grows_of_insert htrace rfl ⟨rfl, rfl, fun _ hd => (nomatch hnone.symm.trans hd), fun h => h,
      fun h => h⟩ fun _ h => h
  refine {
    grows := ⟨hgrows.traces, hgrows.authorizations⟩
    traces := h.traces_of_insert rfl ⟨?_, ?_, ?_⟩
    sequences := fun s id hs => h.sequences_of_grows hgrows hs
    recorded := ⟨?_, ?_, ?_, ?_⟩
    barrier := ?_
    undecided := ?_
    dispatched := ?_
    returned := ?_
    total := rfl
    tallied := ⟨?_, ?_, ?_, ?_⟩ }
  · exact hsound.snoc.request
  · rintro decision' heq
    obtain rfl := Option.some.inj heq
    exact ⟨hdigest, hrequestId, i, events.length, getElem?_snoc_of_some hi, hanswers⟩
  · intro hdispatched
    obtain ⟨-, -, -, decision', -, -, -, hsome, -⟩ := hsound.dispatched hdispatched
    rw [hnone] at hsome
    cases hsome
  · intro hk
    exact nomatch hkind.symm.trans hk
  · intro decision' hdecision'
    obtain rfl := hdecision.unique hdecision'
    rw [hrequestId]
    exact ⟨_, AList.lookup_insert _, rfl⟩
  · intro payload hk
    exact nomatch hkind.symm.trans hk.1
  · intro hk
    exact nomatch hkind.symm.trans hk
  · intro hbarrier
    dsimp only at hbarrier
    split at hbarrier
    · cases hbarrier
    · rename_i hhard
      refine ⟨hbarrier, ?_⟩
      rintro (hk | hk | ⟨decision', hdecision', htrue⟩)
      · exact nomatch hkind.symm.trans hk
      · exact nomatch hkind.symm.trans hk
      · obtain rfl := hdecision.unique hdecision'
        exact hhard htrue
  · intro decision' hdecision'
    obtain rfl := hdecision.unique hdecision'
    exact ⟨trace, hrequestId ▸ htrace, hnone⟩
  · intro hk
    exact nomatch hkind.symm.trans hk
  · intro hk
    exact nomatch hkind.symm.trans hk
  all_goals
    have hverdict := verdictOf_of_isDecision hdecision
    cases hv : decision.body.verdict <;>
      simp [List.countP_append, hverdict, hkind, hv, h.tallied.allowed, h.tallied.denied,
        h.tallied.dispatches, h.tallied.results]

theorem Audited.turn_dispatch (h : Audited manifest events st)
    (hkind : event.body.kind = .dispatch) (hok : st.inspectDispatch event = .ok st') :
    Turn manifest events st event st' := by
  obtain ⟨payload, id, trace, decision, hpayload, hbarrier, hid, htrace, hdecision, hallow, hfirst,
    hbinds, hunused, hexpiry, rfl⟩ := Inspection.inspectDispatch_ok hok hkind
  have hsound := h.traces id trace htrace
  have hgrows : Grows st { st.setTrace id { trace with dispatched := true } with
      authorizationIds := insert payload.authorizationId st.authorizationIds } :=
    grows_of_insert htrace rfl ⟨rfl, rfl, fun _ h => h, fun _ => rfl, fun h => h⟩
      (Finset.subset_insert _ _)
  refine {
    grows := ⟨hgrows.traces, hgrows.authorizations⟩
    traces := h.traces_of_insert rfl ⟨hsound.snoc.request, hsound.snoc.decided, ?_⟩
    sequences := fun s id hs => h.sequences_of_grows hgrows hs
    recorded := ⟨?_, ?_, ?_, ?_⟩
    barrier := ?_
    undecided := ?_
    dispatched := ?_
    returned := ?_
    total := rfl
    tallied := ⟨?_, ?_, ?_, ?_⟩ }
  · intro _
    exact ⟨events.length, event, payload, decision, getElem?_snoc.mpr (.inr ⟨rfl, rfl⟩), hpayload,
      hid, hdecision, hbinds⟩
  · intro hk
    exact nomatch hkind.symm.trans hk
  · intro decision' hk
    exact nomatch hkind.symm.trans hk.1
  · intro payload' hpayload'
    obtain rfl := hpayload.unique hpayload'
    exact ⟨Finset.mem_insert_self _ _, id, _, hid, AList.lookup_insert _, rfl⟩
  · intro hk
    exact nomatch hkind.symm.trans hk
  · intro hnone
    refine ⟨hnone, not_hardViolation ?_ ?_ ?_⟩ <;> rw [hkind] <;> decide
  · intro decision' hk
    exact nomatch hkind.symm.trans hk.1
  · intro _
    exact ⟨hbarrier, payload, id, trace, decision, hpayload, hid, htrace, hdecision, hallow,
      hfirst, hbinds, hunused, hexpiry⟩
  · intro hk
    exact nomatch hkind.symm.trans hk
  all_goals
    have hverdict : verdictOf event = none := if_neg (by rw [hkind]; decide)
    simp [List.countP_append, hverdict, hkind, h.tallied.allowed, h.tallied.denied,
      h.tallied.dispatches, h.tallied.results]

theorem Audited.turn_result (h : Audited manifest events st)
    (hkind : event.body.kind = .result) (hok : st.inspectResult event = .ok st') :
    Turn manifest events st event st' := by
  obtain ⟨payload, id, trace, decision, hpayload, hid, htrace, hdecision, hdispatched, hfirst,
    hbinds, rfl⟩ := Inspection.inspectResult_ok hok hkind
  have hgrows : Grows st (st.setTrace id { trace with completed := true }) :=
    grows_of_insert htrace rfl ⟨rfl, rfl, fun _ h => h, fun h => h, fun _ => rfl⟩ fun _ h => h
  refine {
    grows := ⟨hgrows.traces, hgrows.authorizations⟩
    traces := h.traces_of_insert rfl
      ((h.traces id trace htrace).snoc.of_flags rfl rfl rfl rfl)
    sequences := fun s id hs => h.sequences_of_grows hgrows hs
    recorded := ⟨?_, ?_, ?_, ?_⟩
    barrier := ?_
    undecided := ?_
    dispatched := ?_
    returned := ?_
    total := rfl
    tallied := ⟨?_, ?_, ?_, ?_⟩ }
  · intro hk
    exact nomatch hkind.symm.trans hk
  · intro decision' hk
    exact nomatch hkind.symm.trans hk.1
  · intro payload' hk
    exact nomatch hkind.symm.trans hk.1
  · intro _
    exact ⟨id, _, hid, AList.lookup_insert _, rfl⟩
  · intro hnone
    refine ⟨hnone, not_hardViolation ?_ ?_ ?_⟩ <;> rw [hkind] <;> decide
  · intro decision' hk
    exact nomatch hkind.symm.trans hk.1
  · intro hk
    exact nomatch hkind.symm.trans hk
  · intro _
    exact ⟨payload, id, trace, decision, hpayload, hid, htrace, hdecision, hdispatched, hfirst,
      hbinds⟩
  all_goals
    have hverdict : verdictOf event = none := if_neg (by rw [hkind]; decide)
    simp [List.countP_append, hverdict, hkind, h.tallied.allowed, h.tallied.denied,
      h.tallied.dispatches, h.tallied.results]

theorem Audited.turn_cancellation (h : Audited manifest events st)
    (hkind : event.body.kind = .cancellation) (hok : st.inspectCancellation event = .ok st') :
    Turn manifest events st event st' := by
  obtain ⟨id, trace, confirmed, -, htrace, rfl, -⟩ := Inspection.inspectCancellation_ok hok
  refine h.turn_of_unchanged ?_ ?_ ?_ rfl ?_ rfl
  · rw [hkind]
    decide
  · exact grows_of_insert htrace rfl ⟨rfl, rfl, fun _ h => h, fun h => h, fun h => h⟩ fun _ h => h
  · exact h.traces_of_insert rfl ((h.traces id trace htrace).snoc.of_flags rfl rfl rfl rfl)
  · intro hnone
    refine ⟨hnone, not_hardViolation ?_ ?_ ?_⟩ <;> rw [hkind] <;> decide

theorem Audited.turn_barrier {α : Type} {c : Codec PyError α} (h : Audited manifest events st)
    (hkind : event.body.kind = .violation ∨ event.body.kind = .overloadSummary)
    (hok : st.inspectBarrier c event = .ok st') : Turn manifest events st event st' := by
  obtain rfl := Inspection.inspectBarrier_ok hok
  refine h.turn_of_same_traces ?_ rfl rfl rfl (fun hnone => nomatch hnone) rfl
  rcases hkind with hkind | hkind <;> rw [hkind] <;> decide

theorem Audited.turn_acknowledgement (h : Audited manifest events st)
    (hkind : event.body.kind = .killAcknowledged)
    (hok : st.inspectAcknowledgement manifest receipt event = .ok st') :
    Turn manifest events st event st' := by
  obtain ⟨-, -, -, -, -, -, rfl, -⟩ := Inspection.inspectAcknowledgement_ok hok
  refine h.turn_of_same_traces ?_ rfl rfl rfl ?_ rfl
  · rw [hkind]
    decide
  · intro hnone
    refine ⟨hnone, not_hardViolation ?_ ?_ ?_⟩ <;> rw [hkind] <;> decide

/-- The step lemma of the verifier. -/
theorem Audited.inspectEvent (h : Audited manifest events st) (hchained : Chained events)
    (hok : st.inspectEvent manifest receipt event = .ok st') :
    Audited manifest (events ++ [event]) st' := by
  simp only [Inspection.inspectEvent, bind_eq_ok, except_pure, Except.ok.injEq] at hok
  obtain ⟨st₁, hok, rfl⟩ := hok
  generalize hst : ({ st with
    eventHashes := st.eventHashes.insert event.body.sequence.1 event.eventHash } :
      Inspection P) = st₀ at hok
  have h₀ : Audited manifest events st₀ := by
    subst hst
    exact { h with
      recorded := fun i e he => (h.recorded i e he).grows
        ⟨(Grows.refl st).traces, (Grows.refl st).authorizations⟩
      tallied := ⟨h.tallied.allowed, h.tallied.denied, h.tallied.dispatches, h.tallied.results⟩ }
  apply h₀.turn
  unfold Inspection.inspectKind at hok
  split at hok
  case h_1 hkind => exact h₀.turn_request hkind hok
  case h_2 hkind => exact h₀.turn_decision hchained hkind hok
  case h_3 hkind => exact h₀.turn_dispatch hkind hok
  case h_4 hkind => exact h₀.turn_result hkind hok
  case h_5 hkind => exact h₀.turn_cancellation hkind hok
  case h_6 hkind => exact h₀.turn_barrier (.inl hkind) hok
  case h_7 hkind => exact h₀.turn_barrier (.inr hkind) hok
  case h_8 hkind => exact h₀.turn_acknowledgement hkind hok
  case h_9 => cases hok

theorem audited_start : Audited manifest [] (.start : Inspection P) where
  traces _ _ h := nomatch h
  sequences _ _ h := nomatch h
  recorded _ _ h := nomatch h
  barrier _ _ _ h := nomatch h
  decisions _ _ _ _ h := nomatch h
  used _ _ h := nomatch h
  dispatches _ _ _ _ h := nomatch h
  respected _ _ _ _ _ h := nomatch h
  returned _ _ h := nomatch h
  results _ _ _ _ h := nomatch h
  total := rfl
  tallied := ⟨rfl, rfl, rfl, rfl⟩

/-! ## From the invariant to the protocol -/

/-- Two decisions with one digest are one decision, unless SHA-256 collides. -/
theorem requestId_eq_of_decisionHash_eq {event' : Event P} {decision decision' : Decision P}
    (hinj : Set.InjOn P.sha256Hex (decisionPreimages events)) (hmem : event ∈ events)
    (hmem' : event' ∈ events) (h : IsDecision event decision) (h' : IsDecision event' decision')
    (hhash : decision.decisionHash = decision'.decisionHash) :
    decision.body.requestId = decision'.body.requestId := by
  obtain ⟨encoded, hencoded, hdigest⟩ := decision.exists_preimage
  obtain ⟨encoded', hencoded', hdigest'⟩ := decision'.exists_preimage
  have hpreimage := hinj ⟨event, hmem, decision, encoded, h, hencoded, rfl⟩
    ⟨event', hmem', decision', encoded', h', hencoded', rfl⟩
    (hdigest.trans ((congrArg Subtype.val hhash).trans hdigest'.symm))
  rw [domainPreimage_inj] at hpreimage
  rw [eq_of_canonicalJsonBytes hencoded (hpreimage ▸ hencoded')]

theorem Audited.requestsDecided (h : Audited manifest events st) (hchained : Chained events)
    (hclosed : ∀ entry ∈ st.traces.entries, entry.2.decision.isSome = true) :
    RequestsDecided manifest events := by
  intro i request hi hkind
  obtain ⟨id, trace, hid, htrace, rfl⟩ := (h.recorded i request hi).request hkind
  obtain ⟨decision, hdecision⟩ := Option.isSome_iff_exists.mp
    (hclosed ⟨id, trace⟩ (AList.mem_lookup_iff.mp htrace))
  obtain ⟨-, hrequest, i', j, hi', hanswers⟩ := (h.traces id trace htrace).decided decision hdecision
  obtain rfl : i' = i := by
    have hpos := hchained.sequence i trace.event hi
    have hpos' := hchained.sequence i' trace.event hi'
    omega
  refine ⟨j, decision, hanswers, ?_⟩
  intro j' event' decision' hj' hdecision' hsame
  obtain ⟨event, hj, hisDecision⟩ := hanswers.located
  refine (h.decisions j j' event event' hj hj' ⟨decision, decision', hisDecision, hdecision', ?_⟩).symm
  rcases hsame with hsame | hsame
  · -- A decision that names this position names this request.
    obtain ⟨trace', htrace', hsome'⟩ := (h.recorded j' event' hj').decision decision' hdecision'
    obtain ⟨-, -, i₁, j₁, hi₁, hanswers₁⟩ := (h.traces _ trace' htrace').decided decision' hsome'
    have hposition : i₁ = i' := by
      have hsequence := hanswers₁.sequence
      omega
    rw [hposition, hi, Option.some.injEq] at hi₁
    have hrequest' := hanswers₁.requestId
    rw [← hi₁, hid, Option.some.injEq] at hrequest'
    rw [hrequest, hrequest']
  · rw [hid, Option.some.injEq] at hsame
    rw [hrequest, hsame]

theorem Audited.dispatchesAllowed (h : Audited manifest events st) : DispatchesAllowed events := by
  intro k dispatch hk hkind
  obtain ⟨j, payload, decision, hpayload, huses⟩ := h.used k dispatch hk hkind
  refine ⟨j, payload, decision, hpayload, huses, ?_⟩
  intro hinj j' event' decision' _ hj' hdecision' _ hcarries
  obtain ⟨event, hj, hdecision⟩ := huses.located
  refine (h.decisions j j' event event' hj hj' ⟨decision, decision', hdecision, hdecision', ?_⟩).symm
  exact requestId_eq_of_decisionHash_eq hinj (List.mem_of_getElem? hj) (List.mem_of_getElem? hj')
    hdecision hdecision' (huses.carries.2.1.symm.trans hcarries.2.1)

theorem Audited.dispatchesDistinct (h : Audited manifest events st) :
    DispatchesDistinct events := by
  intro k k' dispatch dispatch' payload payload' hk hk' hpayload hpayload' hsame
  exact h.dispatches k k' dispatch dispatch' hk hk' ⟨payload, payload', hpayload, hpayload', hsame⟩

theorem Audited.resultsMatched (h : Audited manifest events st) : ResultsMatched events := by
  intro m result hm hkind
  obtain ⟨k, dispatch, payload, hpayload, hlt, hk, hdispatch, hid⟩ := h.returned m result hm hkind
  refine ⟨k, dispatch, payload, hpayload, hlt, hk, hdispatch, hid, ?_⟩
  intro m' result' payload' hm' hpayload' hsame
  exact h.results m' m result' result hm' hm ⟨payload', payload, hpayload', hpayload, hsame⟩

theorem Audited.counted {lines : List Line} (h : Audited manifest events st)
    (haccepted : Accepted manifest receipt lines events st) : Counted receipt events where
  total := by rw [← haccepted.total, h.total]
  allowed := by rw [← haccepted.allowed, h.tallied.allowed]
  denied := by rw [← haccepted.denied, h.tallied.denied]
  dispatched := by rw [← haccepted.dispatches, h.tallied.dispatches]
  completed := by rw [← haccepted.results, h.tallied.results]

end Turn

/-- Soundness of the offline auditor: the events of an accepted bundle follow the
per-request protocol. -/
theorem requestProtocol_of_verifyBundle (P : Platform) (manifest : Manifest P)
    (receipt : Receipt P) (operatorPublicKey : Ed25519PublicKey) (lines : List Line)
    (report : VerificationReport)
    (hok : verifyBundle manifest receipt lines operatorPublicKey = .ok report) :
    ∃ events, iterCanonicalJsonl P 0 lines = .ok events ∧
      RequestProtocol manifest receipt events := by
  obtain ⟨events, st, haudited, haccepted⟩ := verifyBundle_ok audited_start
    (fun _ _ _ _ h hchained hstep => h.inspectEvent hchained hstep) hok
  have hclosed := haccepted.closed
  simp only [Inspection.close, bind_eq_ok, Unique.exists_iff, ensure_eq_ok] at hclosed
  exact ⟨events, haccepted.decoded, {
    chained := haccepted.chained
    requests := haudited.requestsDecided haccepted.chained hclosed.1
    dispatches := haudited.dispatchesAllowed
    distinct := haudited.dispatchesDistinct
    barrier := haudited.respected
    results := haudited.resultsMatched
    counted := haudited.counted haccepted }⟩

/-- The theorem at the bundle of a request that was allowed, dispatched and answered. -/
theorem requestProtocol_of_answered :
    ∃ (manifest : Manifest Reference.platform) (receipt : Receipt Reference.platform)
      (events : List (Event Reference.platform))
      (request decided dispatched returned : Event Reference.platform),
      Reference.Answered events request decided dispatched returned ∧
      RequestProtocol manifest receipt events := by
  obtain ⟨manifest, receipt, lines, report, events, request, decided, dispatched, returned, hok,
    hdecoded, hanswered⟩ := Reference.exists_answered
  obtain ⟨events', hevents, hprotocol⟩ :=
    requestProtocol_of_verifyBundle Reference.platform manifest receipt Reference.operatorKey lines
      report hok
  obtain rfl : events = events' := Except.ok.inj (hdecoded.symm.trans hevents)
  exact ⟨manifest, receipt, events, request, decided, dispatched, returned, hanswered, hprotocol⟩

end Containment
