/-
# The offline verifier

Streaming verification of an evidence bundle. `inspectEvent` is one turn of the
inspecting generator, with its five dictionaries, its barrier and its statistics
as an explicit state. The receipt's `verifyAgainst` drives it, so the closing
checks of the generator run exactly when the loop there reaches the end of the
stream.

A request trace is one mutable object that two dictionaries of the source share.
Here the second dictionary holds the request ID under which the first keeps it.
-/

import Containment.Models.Receipt
import Containment.Models.Action
import Mathlib.Data.List.AList
import Mathlib.Data.Finset.Insert

namespace Containment

open Json

variable {P : Platform}

structure VerificationReport where
  valid : Bool
  eventCount : ℕ
  decisionCount : ℕ
  dispatchCount : ℕ
  resultCount : ℕ
  killed : Bool
  witnessCheckpointHash : Sha256Hex

/-- `_RequestTrace`. -/
structure RequestTrace (P : Platform) where
  event : Event P
  actionSha256 : Sha256Hex
  decision : Option (Decision P)
  dispatched : Bool
  completed : Bool
  cancellationConfirmed : Bool

structure Stats where
  events : ℕ
  decisions : ℕ
  allowed : ℕ
  denied : ℕ
  dispatches : ℕ
  results : ℕ
  killAcks : ℕ

/-- The variables of the inspecting generator. -/
structure Inspection (P : Platform) where
  traces : AList fun _ : OpaqueId => RequestTrace P
  requestSequences : AList fun _ : ℤ => OpaqueId
  authorizationIds : Finset OpaqueId
  eventHashes : AList fun _ : ℤ => Sha256Hex
  killBarrier : Option ℤ
  loggedAck : Option (KillAcknowledgement P)
  stats : Stats

def Inspection.start : Inspection P :=
  ⟨∅, ∅, ∅, ∅, none, none, ⟨0, 0, 0, 0, 0, 0, 0⟩⟩

/-- `model_validate_json` on text. -/
def modelValidateJson {α : Type} (P : Platform) (c : Codec PyError α) (text : String) :
    Except PyError α := do
  c.decode (← parseCanonicalText P text)

namespace Inspection

/-- Replace the trace of an event's request. -/
def setTrace (st : Inspection P) (id : OpaqueId) (trace : RequestTrace P) : Inspection P :=
  { st with traces := st.traces.insert id trace }

def inspectRequest (st : Inspection P) (event : Event P) : Except PyError (Inspection P) := do
  let json ← parseCanonicalText P event.body.payloadCanonicalJson.1
  let payload ← RequestEventPayload.modelValidate json
  let action ← (Action.codec P).decode (.obj payload.action)
  ensure (event.body.requestId = some action.requestId)
    (.valueError "REQUEST event request_id does not match action")
  ensure (action.requestId ∉ st.traces) (.valueError "duplicate REQUEST request_id")
  ensure ((← action.digest) = payload.actionSha256.1)
    (.valueError "REQUEST action digest does not match")
  return { st with
    traces := st.traces.insert action.requestId
      ⟨event, payload.actionSha256, none, false, false, false⟩
    requestSequences := st.requestSequences.insert event.body.sequence.1 action.requestId }

def inspectDecision (manifest : Manifest P) (st : Inspection P) (event : Event P) :
    Except PyError (Inspection P) := do
  let decision ← modelValidateJson P (Sealed.codec P decisionSealing)
    event.body.payloadCanonicalJson.1
  decision.verify manifest.body.gatewayKey
  ensure (decision.body.runId = manifest.body.runId ∧
      decision.body.manifestHash = manifest.manifestHash)
    (.valueError "DECISION is bound to another run")
  match (st.requestSequences.lookup decision.body.requestEventSequence.1).bind
      fun id => (st.traces.lookup id).map fun trace => (id, trace) with
  | none => .error (.valueError "DECISION references an absent REQUEST")
  | some (id, trace) => do
      ensure (decision.body.requestEventHash = trace.event.eventHash ∧
          some decision.body.requestId = trace.event.body.requestId ∧
          event.body.requestId = trace.event.body.requestId ∧
          decision.body.actionSha256 = trace.actionSha256)
        (.valueError "DECISION request binding is invalid")
      ensure (trace.decision.isNone = true)
        (.valueError "REQUEST has multiple DECISION events")
      let allow : Bool := decision.body.verdict = .allow
      return { st.setTrace id { trace with decision := some decision } with
        stats := { st.stats with
          decisions := st.stats.decisions + 1
          allowed := st.stats.allowed + allow.toNat
          denied := st.stats.denied + (!allow).toNat }
        killBarrier :=
          if decision.body.hardViolation then some event.body.sequence.1 else st.killBarrier }

/-- The comparison of a payload with the capability its request was granted. -/
def BindsTo (payload : DispatchEventPayload) (trace : RequestTrace P) (decision : Decision P) :
    Prop :=
  payload.actionSha256 = trace.actionSha256 ∧ payload.decisionHash = decision.decisionHash ∧
    some payload.authorizationId = decision.body.authorizationId ∧
    payload.killEpoch = decision.body.killEpoch

instance (payload : DispatchEventPayload) (trace : RequestTrace P) (decision : Decision P) :
    Decidable (BindsTo payload trace decision) :=
  inferInstanceAs (Decidable (_ ∧ _ ∧ _ ∧ _))

/-- The trace of a decided request together with its ID and decision. -/
def decidedTrace (st : Inspection P) (event : Event P) :
    Option (OpaqueId × RequestTrace P × Decision P) := do
  let id ← event.body.requestId
  let trace ← st.traces.lookup id
  let decision ← trace.decision
  return (id, trace, decision)

def inspectDispatch (st : Inspection P) (event : Event P) : Except PyError (Inspection P) := do
  let payload ← modelValidateJson P DispatchEventPayload.codec
    event.body.payloadCanonicalJson.1
  ensure (st.killBarrier.isNone = true) (.valueError "DISPATCH occurs after a kill barrier")
  match st.decidedTrace event with
  | none => .error (.valueError "DISPATCH has no bound DECISION")
  | some (id, trace, decision) => do
      ensure (decision.body.verdict = .allow)
        (.valueError "DISPATCH is bound to a non-ALLOW decision")
      ensure (trace.dispatched = false)
        (.valueError "authorization was dispatched more than once")
      ensure (BindsTo payload trace decision)
        (.valueError "DISPATCH capability binding is invalid")
      ensure (payload.authorizationId ∉ st.authorizationIds)
        (.valueError "authorization_id was reused")
      ensure (∀ expires ∈ decision.body.authorizationExpiresMonotonicNs,
          event.body.monotonicNs.1 ≤ expires.1)
        (.valueError "DISPATCH used an expired authorization")
      return { st.setTrace id { trace with dispatched := true } with
        authorizationIds := insert payload.authorizationId st.authorizationIds
        stats := { st.stats with dispatches := st.stats.dispatches + 1 } }

def inspectResult (st : Inspection P) (event : Event P) : Except PyError (Inspection P) := do
  let payload ← modelValidateJson P ResultEventPayload.codec event.body.payloadCanonicalJson.1
  match (st.decidedTrace event).filter fun found => found.2.1.dispatched with
  | none => .error (.valueError "RESULT has no bound DISPATCH")
  | some (id, trace, decision) => do
      ensure (trace.completed = false) (.valueError "DISPATCH has multiple RESULT events")
      ensure (BindsTo payload.toDispatchEventPayload trace decision)
        (.valueError "RESULT dispatch binding is invalid")
      return { st.setTrace id { trace with completed := true } with
        stats := { st.stats with results := st.stats.results + 1 } }

def inspectCancellation (st : Inspection P) (event : Event P) :
    Except PyError (Inspection P) := do
  let payload ← modelValidateJson P CancellationEventPayload.codec
    event.body.payloadCanonicalJson.1
  match (st.decidedTrace event).filter fun found => found.2.1.dispatched with
  | none => .error (.valueError "CANCELLATION has no bound DISPATCH")
  | some (id, trace, decision) => do
      ensure (trace.completed = false ∧ trace.cancellationConfirmed = false)
        (.valueError "CANCELLATION contradicts a terminal dispatch state")
      ensure (BindsTo payload.toDispatchEventPayload trace decision)
        (.valueError "CANCELLATION dispatch binding is invalid")
      return st.setTrace id { trace with
        cancellationConfirmed := decide (payload.status = .confirmed) }

/-- A violation and an overload only have to be well formed; both raise the
barrier. -/
def inspectBarrier {α : Type} (c : Codec PyError α) (st : Inspection P) (event : Event P) :
    Except PyError (Inspection P) := do
  let _ ← modelValidateJson P c event.body.payloadCanonicalJson.1
  return { st with killBarrier := some event.body.sequence.1 }

def inspectAcknowledgement (manifest : Manifest P) (receipt : Receipt P) (st : Inspection P)
    (event : Event P) : Except PyError (Inspection P) := do
  ensure (st.loggedAck.isNone = true) (.valueError "multiple KILL_ACKNOWLEDGED events")
  let ack ← modelValidateJson P (Sealed.codec P killAcknowledgementSealing)
    event.body.payloadCanonicalJson.1
  ack.verify manifest.body.supervisorKey
  let triggerSequence := ack.body.triggerEventSequence.1
  ensure (triggerSequence < event.body.sequence.1)
    (.valueError "kill acknowledgement does not follow its trigger")
  ensure (st.eventHashes.lookup triggerSequence = some ack.body.triggerEventHash)
    (.valueError "kill acknowledgement trigger binding is invalid")
  ensure (receipt.body.killAcknowledgement.any fun own => ack.digest = own.digest)
    (.valueError "logged kill acknowledgement differs from receipt")
  return { st with
    loggedAck := some ack
    stats := { st.stats with killAcks := st.stats.killAcks + 1 } }

/-- The part of one turn that depends on the kind of event. -/
def inspectKind (manifest : Manifest P) (receipt : Receipt P) (st : Inspection P)
    (event : Event P) : Except PyError (Inspection P) :=
  match event.body.kind with
  | .request => st.inspectRequest event
  | .decision => st.inspectDecision manifest event
  | .dispatch => st.inspectDispatch event
  | .result => st.inspectResult event
  | .cancellation => st.inspectCancellation event
  | .violation => st.inspectBarrier ViolationEventPayload.codec event
  | .overloadSummary => st.inspectBarrier OverloadSummaryPayload.codec event
  | .killAcknowledged => st.inspectAcknowledgement manifest receipt event
  | .killRequested => .error (.valueError "unsupported KILL_REQUESTED event")

/-- One turn of the generator. -/
def inspectEvent (manifest : Manifest P) (receipt : Receipt P) (st : Inspection P)
    (event : Event P) : Except PyError (Inspection P) := do
  let st := { st with
    eventHashes := st.eventHashes.insert event.body.sequence.1 event.eventHash }
  let st ← st.inspectKind manifest receipt event
  return { st with stats := { st.stats with events := st.stats.events + 1 } }

/-- A dispatch that neither returned a result nor was confirmed cancelled. -/
def Unfinished (trace : RequestTrace P) : Bool :=
  trace.dispatched && !trace.completed && !trace.cancellationConfirmed

def incomplete (st : Inspection P) : ℕ :=
  (st.traces.entries.filter fun entry => Unfinished entry.2).length

/-- The checks after the last event. -/
def close (receipt : Receipt P) (st : Inspection P) : Except PyError Unit := do
  ensure (∀ entry ∈ st.traces.entries, entry.2.decision.isSome = true)
    (.valueError "REQUEST is missing its DECISION")
  ensure (¬ (receipt.body.status = .completed ∧ st.incomplete ≠ 0))
    (.valueError "completed run contains an unfinished DISPATCH")
  ensure (st.incomplete = 0 ∨ receipt.body.killAcknowledgement.any fun ack =>
      (st.incomplete : ℤ) ≤ ack.body.inflightAtTrigger.1)
    (.valueError "unfinished DISPATCH is not explained by containment")

end Inspection

/-! ## Evidence lines -/

/-- A line of an evidence file, as octets or as text. -/
inductive Line
  | bytes (value : Bytes)
  | str (value : String)

def Line.raw : Line → Bytes
  | .bytes value => value
  | .str value => utf8 value

/-- One turn of `iter_canonical_jsonl`. -/
def decodeLine (P : Platform) (lineNumber : ℕ) (line : Line) : Except PyError (Event P) := do
  let raw := line.raw
  ensure (raw.getLast? = some 10)
    (.valueError ("line " ++ toString lineNumber ++ ": missing canonical newline"))
  let eventRaw := raw.dropLast
  let event ← (Event.codec P).decode (← parseCanonicalJson P eventRaw)
  ensure ((← event.canonicalBytes) = eventRaw)
    (.valueError ("line " ++ toString lineNumber ++ ": event is not canonical JSON"))
  return event

/-- `iter_canonical_jsonl`, run to its end. -/
def iterCanonicalJsonl (P : Platform) : ℕ → List Line → Except PyError (List (Event P))
  | _, [] => .ok []
  | lineNumber, line :: rest => do
      let event ← decodeLine P (lineNumber + 1) line
      let events ← iterCanonicalJsonl P (lineNumber + 1) rest
      return event :: events

/-- The two chained generators: decode the next line, then inspect its event. -/
def pullEvent (manifest : Manifest P) (receipt : Receipt P) :
    ℕ × Inspection P → Line → Except PyError (Event P × ℕ × Inspection P)
  | (lineNumber, st), line => do
      let event ← decodeLine P (lineNumber + 1) line
      let st ← st.inspectEvent manifest receipt event
      return (event, lineNumber + 1, st)

def compareCounter (key : String) (found : ℕ) (value : SafeNonNegativeInt) :
    Except PyError Unit :=
  ensure ((found : ℤ) = value.1)
    (.valueError ("receipt " ++ key ++ " counter " ++ toString value.1 ++
      " does not match evidence " ++ toString found))

def verifyBundle (manifest : Manifest P) (receipt : Receipt P) (evidenceLines : List Line)
    (operatorPublicKey : Ed25519PublicKey) : Except PyError VerificationReport := do
  ensure (operatorPublicKey.keyId = manifest.body.operatorKeyId)
    (.valueError "operator verification key ID does not match manifest")
  manifest.verify operatorPublicKey.asBytes
  let (_, st) ← receipt.verifyAgainst manifest (pullEvent manifest receipt)
    (fun stream => stream.2.close receipt) (0, .start) evidenceLines
  let body := receipt.body
  compareCounter "events" st.stats.events body.eventCount
  compareCounter "allowed" st.stats.allowed body.allowedRequestCount
  compareCounter "denied" st.stats.denied body.deniedRequestCount
  compareCounter "dispatches" st.stats.dispatches body.dispatchedRequestCount
  compareCounter "results" st.stats.results body.completedRequestCount
  ensure (¬ (body.killAcknowledgement.isSome = true ∧ st.stats.killAcks ≠ 1))
    (.valueError "killed receipt requires one logged kill acknowledgement")
  ensure (¬ (body.killAcknowledgement.isNone = true ∧ st.stats.killAcks ≠ 0))
    (.valueError "unexpected kill acknowledgement event")
  return {
    valid := true
    eventCount := st.stats.events
    decisionCount := st.stats.decisions
    dispatchCount := st.stats.dispatches
    resultCount := st.stats.results
    killed := body.killAcknowledgement.isSome
    witnessCheckpointHash := body.witnessCheckpoint.digest }

end Containment
