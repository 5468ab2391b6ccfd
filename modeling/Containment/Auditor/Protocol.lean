/-
# The per-request protocol

What an accepted evidence file means, said about its decoded events alone:
sequence numbers and hash links, one decision for each request, one earlier
allowance for each dispatch, at most one result for each dispatch, and no
dispatch after a hard violation. Nothing here mentions how the verifier works.
-/

import Containment.Auditor.Verify

namespace Containment

open Json

variable {P : Platform}

/-! ## Reading one event -/

/-- The event is a REQUEST for this action, and its digest is the action's. -/
def IsRequest (event : Event P) (action : Action P) : Prop :=
  event.body.kind = .request ∧ ∃ json payload,
    parseCanonicalText P event.body.payloadCanonicalJson.1 = .ok json ∧
    RequestEventPayload.modelValidate json = .ok payload ∧
    (Action.codec P).decode (.obj payload.action) = .ok action ∧
    action.digest = .ok payload.actionSha256.1

def IsDecision (event : Event P) (decision : Decision P) : Prop :=
  event.body.kind = .decision ∧
    modelValidateJson P (Sealed.codec P decisionSealing) event.body.payloadCanonicalJson.1 =
      .ok decision

def IsDispatch (event : Event P) (payload : DispatchEventPayload) : Prop :=
  event.body.kind = .dispatch ∧
    modelValidateJson P DispatchEventPayload.codec event.body.payloadCanonicalJson.1 =
      .ok payload

def IsResult (event : Event P) (payload : ResultEventPayload) : Prop :=
  event.body.kind = .result ∧
    modelValidateJson P ResultEventPayload.codec event.body.payloadCanonicalJson.1 = .ok payload

theorem IsDecision.unique {event : Event P} {d d' : Decision P} (h : IsDecision event d)
    (h' : IsDecision event d') : d = d' :=
  Except.ok.inj (h.2.symm.trans h'.2)

theorem IsDispatch.unique {event : Event P} {p p' : DispatchEventPayload} (h : IsDispatch event p)
    (h' : IsDispatch event p') : p = p' :=
  Except.ok.inj (h.2.symm.trans h'.2)

theorem IsResult.unique {event : Event P} {p p' : ResultEventPayload} (h : IsResult event p)
    (h' : IsResult event p') : p = p' :=
  Except.ok.inj (h.2.symm.trans h'.2)

/-- A VIOLATION, an OVERLOAD_SUMMARY or a DECISION marked as a hard violation. -/
def HardViolation (event : Event P) : Prop :=
  event.body.kind = .violation ∨ event.body.kind = .overloadSummary ∨
    ∃ decision, IsDecision event decision ∧ decision.body.hardViolation = true

/-- The payload of a dispatch names exactly this decision's capability. -/
def Carries (payload : DispatchEventPayload) (decision : Decision P) : Prop :=
  payload.actionSha256 = decision.body.actionSha256 ∧
    payload.decisionHash = decision.decisionHash ∧
    some payload.authorizationId = decision.body.authorizationId ∧
    payload.killEpoch = decision.body.killEpoch

/-- The verdict of a decision event. -/
def verdictOf (event : Event P) : Option Verdict :=
  if event.body.kind = .decision then
    match modelValidateJson P (Sealed.codec P decisionSealing)
        event.body.payloadCanonicalJson.1 with
    | .ok decision => some decision.body.verdict
    | .error _ => none
  else none

/-- The octets that were hashed for the decisions of an evidence file. -/
def decisionPreimages (events : List (Event P)) : Set Bytes :=
  { octets | ∃ event ∈ events, ∃ decision encoded, IsDecision event decision ∧
      canonicalJsonBytes P (DecisionBody.codec.encode decision.body) = .ok encoded ∧
      octets = domainPreimage decisionSealing.hashDomain encoded }

/-! ## The protocol -/

/-- Positions are sequence numbers, and each event extends the one before it. -/
structure Chained (events : List (Event P)) : Prop where
  sequence : ∀ (i : ℕ) event, events[i]? = some event → event.body.sequence.1 = i
  linked : ∀ (i : ℕ) event next, events[i]? = some event → events[i + 1]? = some next →
    next.body.previousEventHash = event.eventHash ∧
      event.body.monotonicNs.1 ≤ next.body.monotonicNs.1

/-- The request at a position is answered by the decision at a later one. -/
structure Answers (manifest : Manifest P) (events : List (Event P)) (i j : ℕ)
    (request : Event P) (decision : Decision P) : Prop where
  later : i < j
  located : ∃ event, events[j]? = some event ∧ IsDecision event decision
  verified : decision.verify manifest.body.gatewayKey = .ok ()
  sequence : decision.body.requestEventSequence.1 = i
  hash : decision.body.requestEventHash = request.eventHash
  requestId : some decision.body.requestId = request.body.requestId
  digest : ∃ action, IsRequest request action ∧ action.digest = .ok decision.body.actionSha256.1

/-- Every request has exactly one decision. A decision belongs to a request when
it names its position or its request ID. -/
def RequestsDecided (manifest : Manifest P) (events : List (Event P)) : Prop :=
  ∀ (i : ℕ) request, events[i]? = some request → request.body.kind = .request →
    ∃ j decision, Answers manifest events i j request decision ∧
      ∀ (j' : ℕ) event' decision', events[j']? = some event' → IsDecision event' decision' →
        (decision'.body.requestEventSequence.1 = i ∨
          some decision'.body.requestId = request.body.requestId) → j' = j

/-- The dispatch at a position uses the allowance at an earlier one. -/
structure Uses (events : List (Event P)) (j k : ℕ) (dispatch : Event P)
    (payload : DispatchEventPayload) (decision : Decision P) : Prop where
  earlier : j < k
  located : ∃ event, events[j]? = some event ∧ IsDecision event decision
  allow : decision.body.verdict = .allow
  requestId : some decision.body.requestId = dispatch.body.requestId
  carries : Carries payload decision
  unexpired : ∃ expires, decision.body.authorizationExpiresMonotonicNs = some expires ∧
    dispatch.body.monotonicNs.1 ≤ expires.1

/-- Every dispatch has exactly one earlier allowance with its capability. Two
decisions can only share a digest if SHA-256 collides on what was hashed. -/
def DispatchesAllowed (events : List (Event P)) : Prop :=
  ∀ (k : ℕ) dispatch, events[k]? = some dispatch → dispatch.body.kind = .dispatch →
    ∃ j payload decision, IsDispatch dispatch payload ∧
      Uses events j k dispatch payload decision ∧
      (Set.InjOn P.sha256Hex (decisionPreimages events) →
        ∀ (j' : ℕ) event' decision', j' < k → events[j']? = some event' →
          IsDecision event' decision' → decision'.body.verdict = .allow →
          Carries payload decision' → j' = j)

/-- No two dispatches share a request or an authorization. -/
def DispatchesDistinct (events : List (Event P)) : Prop :=
  ∀ (k k' : ℕ) dispatch dispatch' payload payload', events[k]? = some dispatch →
    events[k']? = some dispatch' → IsDispatch dispatch payload → IsDispatch dispatch' payload' →
    (dispatch.body.requestId = dispatch'.body.requestId ∨
      payload.authorizationId = payload'.authorizationId) → k = k'

/-- No dispatch follows a hard violation. -/
def BarrierRespected (events : List (Event P)) : Prop :=
  ∀ (i k : ℕ) event dispatch, i < k → events[i]? = some event → HardViolation event →
    events[k]? = some dispatch → dispatch.body.kind ≠ .dispatch

/-- Every result follows its dispatch and is the only one of it. -/
def ResultsMatched (events : List (Event P)) : Prop :=
  ∀ (m : ℕ) result, events[m]? = some result → result.body.kind = .result →
    ∃ (k : ℕ) (dispatch : Event P) (payload : ResultEventPayload), IsResult result payload ∧
      k < m ∧ events[k]? = some dispatch ∧
      IsDispatch dispatch payload.toDispatchEventPayload ∧
      dispatch.body.requestId = result.body.requestId ∧
      ∀ (m' : ℕ) result' payload', events[m']? = some result' → IsResult result' payload' →
        (result'.body.requestId = result.body.requestId ∨
          payload'.authorizationId = payload.authorizationId) → m' = m

/-- The receipt counts what the evidence holds. -/
structure Counted (receipt : Receipt P) (events : List (Event P)) : Prop where
  total : receipt.body.eventCount.1 = events.length
  allowed : receipt.body.allowedRequestCount.1 =
    events.countP fun event => verdictOf event = some .allow
  denied : receipt.body.deniedRequestCount.1 =
    events.countP fun event => verdictOf event = some .deny ∨ verdictOf event = some .kill
  dispatched : receipt.body.dispatchedRequestCount.1 =
    events.countP fun event => event.body.kind = .dispatch
  completed : receipt.body.completedRequestCount.1 =
    events.countP fun event => event.body.kind = .result

/-- What an accepted bundle establishes about its events. -/
structure RequestProtocol (manifest : Manifest P) (receipt : Receipt P)
    (events : List (Event P)) : Prop where
  chained : Chained events
  requests : RequestsDecided manifest events
  dispatches : DispatchesAllowed events
  distinct : DispatchesDistinct events
  barrier : BarrierRespected events
  results : ResultsMatched events
  counted : Counted receipt events

end Containment
