/-
# Evidence events

One event of the hash chain: who produced it, when, its place in the chain and a
canonical JSON payload. The payload is kept as text, and what the text must hold
for each kind of event is checked by whoever reads the chain; the payload models
are therefore here as well.
-/

import Containment.Models.Manifest

namespace Containment

open Json

inductive EventKind
  | request
  | decision
  | dispatch
  | result
  | cancellation
  | violation
  | killRequested
  | killAcknowledged
  | overloadSummary
  deriving DecidableEq, Repr

def EventKind.value : EventKind → String
  | .request => "REQUEST"
  | .decision => "DECISION"
  | .dispatch => "DISPATCH"
  | .result => "RESULT"
  | .cancellation => "CANCELLATION"
  | .violation => "VIOLATION"
  | .killRequested => "KILL_REQUESTED"
  | .killAcknowledged => "KILL_ACKNOWLEDGED"
  | .overloadSummary => "OVERLOAD_SUMMARY"

def EventKind.codec : Codec PyError EventKind :=
  .enum (.validationError "" ("Input should be 'REQUEST', 'DECISION', 'DISPATCH', 'RESULT', " ++
      "'CANCELLATION', 'VIOLATION', 'KILL_REQUESTED', 'KILL_ACKNOWLEDGED' or " ++
      "'OVERLOAD_SUMMARY'"))
    [.request, .decision, .dispatch, .result, .cancellation, .violation, .killRequested,
      .killAcknowledged, .overloadSummary]
    EventKind.value (by intro x; cases x <;> rfl)

/-! ## Payloads -/

/-- The payload of a REQUEST. Its action is any object; the reader validates it
separately, so the object's own field order is kept as read. -/
structure RequestEventPayload where
  action : List (String × Json)
  actionSha256 : Sha256Hex

def RequestEventPayload.modelValidate : Json → Except PyError RequestEventPayload
  | .obj fields =>
      match fields.find? fun field => field.1 ∉ ["action", "action_sha256"] with
      | some field => .error (.validationError field.1 "Extra inputs are not permitted")
      | none => do
          let action ← match lookup "action" fields with
            | some (.obj action) => .ok action
            | some _ => .error (.validationError "action" "Input should be a valid dictionary")
            | none => .error (.validationError "action" "Field required")
          let actionSha256 ← match lookup "action_sha256" fields with
            | some value => (Codecs.sha256Hex.decode value).mapError (locate "action_sha256")
            | none => .error (.validationError "action_sha256" "Field required")
          return ⟨action, actionSha256⟩
  | _ => .error (.validationError "" "Input should be a valid dictionary or instance")

structure DispatchEventPayload where
  actionSha256 : Sha256Hex
  authorizationId : OpaqueId
  decisionHash : Sha256Hex
  killEpoch : SafeNonNegativeInt

/-- The four fields that bind an event to a dispatched authorization. -/
def bindingRecord : Record PyError DispatchEventPayload :=
  ((Codecs.required "action_sha256" Codecs.sha256Hex).and <|
    (Codecs.required "authorization_id" Codecs.opaqueId).and <|
    (Codecs.required "decision_hash" Codecs.sha256Hex).and <|
    Codecs.required "kill_epoch" Codecs.safeNonNegativeInt).iso
    (fun (action, authorization, decision, epoch) => ⟨action, authorization, decision, epoch⟩)
    (fun x => (x.actionSha256, x.authorizationId, x.decisionHash, x.killEpoch)) fun _ => rfl

def DispatchEventPayload.codec : Codec PyError DispatchEventPayload :=
  Codecs.model bindingRecord rfl

structure ResultEventPayload extends DispatchEventPayload where
  responseBytes : SafeNonNegativeInt
  responseSha256 : Sha256Hex
  statusCode : IntIn 100 599

def ResultEventPayload.codec : Codec PyError ResultEventPayload :=
  Codecs.model ((bindingRecord.and <|
    (Codecs.required "response_bytes" Codecs.safeNonNegativeInt).and <|
    (Codecs.required "response_sha256" Codecs.sha256Hex).and <|
    Codecs.required "status_code" (Codecs.intIn 100 599)).iso
    (fun (binding, bytes, digest, status) => ⟨binding, bytes, digest, status⟩)
    (fun x => (x.toDispatchEventPayload, x.responseBytes, x.responseSha256, x.statusCode))
    fun _ => rfl) rfl

inductive CancellationStatus
  | signalled
  | confirmed
  deriving DecidableEq, Repr

def CancellationStatus.codec : Codec PyError CancellationStatus :=
  .enum (.validationError "" "Input should be 'SIGNALLED' or 'CONFIRMED'")
    [.signalled, .confirmed]
    (fun | .signalled => "SIGNALLED" | .confirmed => "CONFIRMED") (by intro x; cases x <;> rfl)

structure CancellationFields extends DispatchEventPayload where
  status : CancellationStatus
  evidenceSha256 : Option Sha256Hex

def CancellationFields.confirmationHasEvidence (x : CancellationFields) :
    Except PyError Unit := do
  ensure (¬ (x.status = .confirmed ∧ x.evidenceSha256 = none))
    (reject "confirmed cancellation requires evidence")
  ensure (¬ (x.status = .signalled ∧ x.evidenceSha256 ≠ none))
    (reject "a cancellation signal cannot carry confirmation evidence")

structure CancellationEventPayload extends CancellationFields where
  coherent : toCancellationFields.confirmationHasEvidence = .ok ()

def CancellationEventPayload.codec : Codec PyError CancellationEventPayload :=
  Codecs.model (((bindingRecord.and <|
      (Codecs.required "status" CancellationStatus.codec).and <|
      Codecs.defaulted "evidence_sha256" Codecs.optionalSha256Hex none).iso
      (fun (binding, status, evidence) => (⟨binding, status, evidence⟩ : CancellationFields))
      (fun x => (x.toDispatchEventPayload, x.status, x.evidenceSha256)) fun _ => rfl).refine
        CancellationFields.confirmationHasEvidence |>.iso
    (fun x => (⟨x.1, x.2⟩ : CancellationEventPayload))
    (fun x => ⟨x.toCancellationFields, x.coherent⟩) fun _ => rfl) rfl

structure ViolationFields where
  reasonCode : OpaqueId
  rawBytes : Option SafeNonNegativeInt
  rawSha256 : Option Sha256Hex
  actionSha256 : Option Sha256Hex
  decisionHash : Option Sha256Hex

def ViolationFields.optionalBindingsAreCompletePairs (x : ViolationFields) :
    Except PyError Unit := do
  ensure (x.rawBytes.isNone = x.rawSha256.isNone)
    (reject "raw violation fields must be supplied together")
  ensure (x.actionSha256.isNone = x.decisionHash.isNone)
    (reject "action violation fields must be supplied together")
  ensure (¬ (x.rawBytes.isSome = true ∧ x.actionSha256.isSome = true))
    (reject "violation cannot mix raw and action bindings")

structure ViolationEventPayload extends ViolationFields where
  coherent : toViolationFields.optionalBindingsAreCompletePairs = .ok ()

def ViolationEventPayload.codec : Codec PyError ViolationEventPayload :=
  Codecs.model ((((Codecs.required "reason_code" Codecs.opaqueId).and <|
      (Codecs.defaulted "raw_bytes" Codecs.optionalSafeInt none).and <|
      (Codecs.defaulted "raw_sha256" Codecs.optionalSha256Hex none).and <|
      (Codecs.defaulted "action_sha256" Codecs.optionalSha256Hex none).and <|
      Codecs.defaulted "decision_hash" Codecs.optionalSha256Hex none).iso
      (fun (reason, bytes, raw, action, decision) =>
        (⟨reason, bytes, raw, action, decision⟩ : ViolationFields))
      (fun x => (x.reasonCode, x.rawBytes, x.rawSha256, x.actionSha256, x.decisionHash))
      fun _ => rfl).refine ViolationFields.optionalBindingsAreCompletePairs |>.iso
    (fun x => (⟨x.1, x.2⟩ : ViolationEventPayload))
    (fun x => ⟨x.toViolationFields, x.coherent⟩) fun _ => rfl) rfl

/-- The reason code of an overload is a literal and only written. -/
structure OverloadSummaryPayload where
  firstExcessMonotonicNs : SafeNonNegativeInt
  rawBytes : SafeNonNegativeInt
  rawSha256 : Sha256Hex

def OverloadSummaryPayload.codec : Codec PyError OverloadSummaryPayload :=
  Codecs.model (((Codecs.required "first_excess_monotonic_ns" Codecs.safeNonNegativeInt).and <|
    (Codecs.required "raw_bytes" Codecs.safeNonNegativeInt).and <|
    (Codecs.required "raw_sha256" Codecs.sha256Hex).and <|
    Codecs.required "reason_code" (Codecs.literal "admission.overload")).iso
    (fun (first, bytes, raw, _) => ⟨first, bytes, raw⟩)
    (fun x => (x.firstExcessMonotonicNs, x.rawBytes, x.rawSha256, ())) fun _ => rfl) rfl

/-! ## Events -/

variable (P : Platform)

def payloadIsCanonical (value : String) : Except PyError Unit := do
  canonicalizeJsonText P value
  ensure ((utf8 value).length ≤ maxEventPayloadBytes)
    (reject "event payload exceeds the protocol hard byte limit")

structure EventBodyFields where
  runId : OpaqueId
  manifestHash : Sha256Hex
  sequence : SafeNonNegativeInt
  previousEventHash : Sha256Hex
  kind : EventKind
  requestId : Option OpaqueId
  producerInstanceId : OpaqueId
  observedAt : UtcTimestamp
  monotonicNs : SafeNonNegativeInt
  payloadCanonicalJson : { s : String // payloadIsCanonical P s = .ok () }
  payloadSha256 : Sha256Hex

variable {P} in
def EventBodyFields.payloadDigestMatches (body : EventBodyFields P) : Except PyError Unit := do
  ensure (Containment.payloadSha256 P body.payloadCanonicalJson.1 = body.payloadSha256.1)
    (reject "payload_sha256 does not match payload_canonical_json")
  ensure (¬ (body.sequence.1 = 0 ∧ body.previousEventHash.1 ≠ genesisHash))
    (reject "event zero must reference the genesis hash")
  ensure (¬ (0 < body.sequence.1 ∧ body.previousEventHash.1 = genesisHash))
    (reject "only event zero may reference the genesis hash")

structure EventBody extends EventBodyFields P where
  coherent : toEventBodyFields.payloadDigestMatches = .ok ()

def EventBodyFields.record : Record PyError (EventBodyFields P) :=
  (Codecs.header.and <|
    (Codecs.required "run_id" Codecs.opaqueId).and <|
    (Codecs.required "manifest_hash" Codecs.sha256Hex).and <|
    (Codecs.required "sequence" Codecs.safeNonNegativeInt).and <|
    (Codecs.required "previous_event_hash" Codecs.sha256Hex).and <|
    (Codecs.required "kind" EventKind.codec).and <|
    (Codecs.defaulted "request_id" Codecs.optionalOpaqueId none).and <|
    (Codecs.required "producer_instance_id" Codecs.opaqueId).and <|
    (Codecs.required "observed_at" Codecs.utcTimestamp).and <|
    (Codecs.required "monotonic_ns" Codecs.safeNonNegativeInt).and <|
    (Codecs.required "payload_canonical_json"
      (.ofString Codecs.notString (payloadIsCanonical P))).and <|
    Codecs.required "payload_sha256" Codecs.sha256Hex).iso
    (fun (_, run, manifest, sequence, previous, kind, request, producer, observed, monotonic,
        payload, digest) =>
      ⟨run, manifest, sequence, previous, kind, request, producer, observed, monotonic, payload,
        digest⟩)
    (fun x => (((), ()), x.runId, x.manifestHash, x.sequence, x.previousEventHash, x.kind,
      x.requestId, x.producerInstanceId, x.observedAt, x.monotonicNs, x.payloadCanonicalJson,
      x.payloadSha256))
    fun _ => rfl

def EventBody.codec : Codec PyError (EventBody P) :=
  Codecs.model (((EventBodyFields.record P).refine EventBodyFields.payloadDigestMatches).iso
    (fun x => ⟨x.1, x.2⟩) (fun x => ⟨x.toEventBodyFields, x.coherent⟩) fun _ => rfl) rfl

def eventDigestMatches : EventBody P × Sha256Hex → Except PyError Unit
  | (body, eventHash) => do
      let expected ← (domainHash P "EVENT-HASH" ((EventBody.codec P).encode body)).mapError
        (locate "")
      ensure (expected = eventHash.1) (reject "event_hash does not match event body")

structure Event where
  body : EventBody P
  eventHash : Sha256Hex
  coherent : eventDigestMatches P (body, eventHash) = .ok ()

def Event.codec : Codec PyError (Event P) :=
  Codecs.model ((((Codecs.required "body" (EventBody.codec P)).and
      (Codecs.required "event_hash" Codecs.sha256Hex)).refine (eventDigestMatches P)).iso
    (fun x => ⟨x.1.1, x.1.2, x.2⟩) (fun x => ⟨(x.body, x.eventHash), x.coherent⟩)
    fun _ => rfl) rfl

namespace Event

variable {P}

/-- `Event.create` for a producer whose own identifiers are already validated. -/
def create (payload : Json) (runId : OpaqueId) (manifestHash : Sha256Hex) (sequence : ℕ)
    (previousEventHash : Sha256Hex) (kind : EventKind) (producerInstanceId : OpaqueId)
    (observedAt : UtcTimestamp) (monotonicNs : ℤ) (requestId : Option String) :
    Except PyError (Event P) := do
  let payloadJson ← canonicalJson P payload
  let sequence ← validate "sequence" (intRange 0 maxSafeInteger) (sequence : ℤ)
  let requestId ← validateOption "request_id" opaqueIdCheck requestId
  let monotonicNs ← validate "monotonic_ns" (intRange 0 maxSafeInteger) monotonicNs
  let payloadText ← validate "payload_canonical_json" (payloadIsCanonical P) payloadJson
  let digest ← validate "payload_sha256" sha256HexCheck (Containment.payloadSha256 P payloadJson)
  let body ← checked EventBodyFields.payloadDigestMatches
    ⟨runId, manifestHash, sequence, previousEventHash, kind, requestId, producerInstanceId,
      observedAt, monotonicNs, payloadText, digest⟩
  let body : EventBody P := ⟨body.1, body.2⟩
  let eventHash ← domainHash P "EVENT-HASH" ((EventBody.codec P).encode body)
  let eventHash ← validate "event_hash" sha256HexCheck eventHash
  let event ← checked (eventDigestMatches P) (body, eventHash)
  return ⟨event.1.1, event.1.2, event.2⟩

/-- `follows`: the next link of the chain. -/
def Follows (event previous : Event P) : Prop :=
  event.body.runId = previous.body.runId ∧
    event.body.manifestHash = previous.body.manifestHash ∧
    event.body.sequence.1 = previous.body.sequence.1 + 1 ∧
    event.body.previousEventHash = previous.eventHash ∧
    previous.body.monotonicNs.1 ≤ event.body.monotonicNs.1

instance (event previous : Event P) : Decidable (event.Follows previous) :=
  inferInstanceAs (Decidable (_ ∧ _ ∧ _ ∧ _ ∧ _))

/-- `canonical_bytes`: the line of the evidence file without its line feed. -/
def canonicalBytes (event : Event P) : Except PyError Bytes :=
  canonicalJsonBytes P ((Event.codec P).encode event)

end Event

end Containment
