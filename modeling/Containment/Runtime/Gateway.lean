/-
# The gateway

Race-aware authorization: admission, parsing, policy, the signed decision and its
commit, and the fail-closed path the executor falls back on.
-/

import Containment.Runtime.Supervisor

namespace Containment

open Json Concurrency

variable {P : Platform}

structure GatewayResult (P : Platform) where
  accepted : Bool
  reasonCode : String
  action : Option (Action P)
  decision : Option (Decision P)

namespace Gateway

/-- A result that names no action. -/
def refused (reasonCode : String) : GatewayResult P := ⟨false, reasonCode, none, none⟩

/-- `_commit`: evidence that cannot be committed isolates the run. -/
def commit (kind : EventKind) (payload : Json) (requestId : Option String)
    (monotonicNs : Option ℤ) : Prog P (Event P) :=
  (raising (perform (.commit kind payload requestId monotonicNs))).handle fun error => do
    Supervisor.emergencyIsolate
    .raise error

/-! The payloads, as the dictionaries the methods write. -/

def overloadPayload (raw : Bytes) (admittedNs : ℤ) : Json :=
  .obj [("first_excess_monotonic_ns", .int admittedNs), ("raw_bytes", .int raw.length),
    ("raw_sha256", .str (P.sha256Hex raw)), ("reason_code", .str "admission.overload")]

def malformedPayload (P : Platform) (raw : Bytes) : Json :=
  .obj [("raw_bytes", .int raw.length), ("raw_sha256", .str (P.sha256Hex raw)),
    ("reason_code", .str "request.ambiguous_or_invalid")]

def requestPayload (action : Action P) (actionSha256 : String) : Json :=
  .obj [("action", (Action.codec P).encode action), ("action_sha256", .str actionSha256)]

def violationPayload (actionSha256 decisionHash reasonCode : String) : Json :=
  .obj [("action_sha256", .str actionSha256), ("decision_hash", .str decisionHash),
    ("reason_code", .str reasonCode)]

variable (d : Deployment P)

/-- What the gateway knows when it decides. -/
structure Deciding (P : Platform) where
  action : Action P
  request : Event P
  actionSha256 : String
  decidedNs : ℤ
  decidedAt : UtcTimestamp
  result : PolicyResult
  killEpoch : ℤ
  authorizationId : Option String
  expiresNs : Option ℤ

/-- The body of the decision, as its constructor checks it. -/
def Deciding.body (x : Deciding P) : Except PyError DecisionBody := do
  let digest ← validate "action_sha256" sha256HexCheck x.actionSha256
  let decidedNs ← validate "decision_monotonic_ns" (intRange 0 maxSafeInteger) x.decidedNs
  let killEpoch ← validate "kill_epoch" (intRange 0 maxSafeInteger) x.killEpoch
  let authorizationId ← validateOption "authorization_id" opaqueIdCheck x.authorizationId
  let expires ← validateOption "authorization_expires_monotonic_ns" (intRange 0 maxSafeInteger)
    x.expiresNs
  DecisionBody.make {
    runId := d.manifest.body.runId
    manifestHash := d.manifest.manifestHash
    requestId := x.action.requestId
    requestEventSequence := x.request.body.sequence
    requestEventHash := x.request.eventHash
    actionSha256 := digest
    gatewayKeyId := d.manifest.body.gatewayKey.keyId
    gatewayInstanceId := d.gatewayInstanceId
    decidedAt := x.decidedAt
    decisionMonotonicNs := decidedNs
    killEpoch := killEpoch
    verdict := x.result.verdict
    reasonCode := x.result.reasonCode
    matchedRuleId := x.result.matchedRuleId
    hardViolation := x.result.hardViolation
    authorizationId := authorizationId
    authorizationExpiresMonotonicNs := expires
    authorizationMaxUses := x.authorizationId.map fun _ => () }

def Deciding.decision (x : Deciding P) : Except PyError (Decision P) := do
  Sealed.sign decisionSealing (← x.body d) d.gatewayKey

/-- A fresh authorization and its expiry, for an allowance only. -/
def authorization (verdict : Verdict) (decidedNs : ℤ) : Prog P (Option String × Option ℤ) :=
  if verdict = .allow then do
    let token ← perform .tokenHex
    return (some ("auth:" ++ token), some (decidedNs + d.authorizationTtlNs))
  else return (none, none)

/-- Latch if the policy asks for it. -/
def latchOnKill (verdict : Verdict) : Prog P Unit :=
  if verdict = .kill then do
    let _ ← perform .latchKill
    return ()
  else return ()

/-- The end of `submit_raw`: contain a hard violation, or issue the decision. -/
def conclude (action : Action P) (actionSha256 : String) (result : PolicyResult)
    (decision : Decision P) : Prog P (GatewayResult P) :=
  if result.verdict = .kill then do
    let violation ← commit .violation
      (violationPayload actionSha256 decision.decisionHash.1 result.reasonCode.1)
      (some action.requestId.1) none
    let _ ← Supervisor.contain violation violation.body.monotonicNs.1
    return ⟨false, result.reasonCode.1, some action, some decision⟩
  else return ⟨true, result.reasonCode.1, some action, some decision⟩

/-- `submit_raw` for an admitted request that parses. -/
def decideAction (action : Action P) (admittedNs : ℤ) : Prog P (GatewayResult P) := do
  let actionSha256 ← .ofExcept action.digest
  let request ← commit .request (requestPayload action actionSha256)
    (some action.requestId.1) (some admittedNs)
  let decidedNs ← monotonicNow
  let decidedAt ← .ofExcept (formatUtcTimestamp (← wallNow))
  let result ← perform (.authorize action decidedAt)
  latchOnKill result.verdict
  let killEpoch ← perform .currentEpoch
  let (authorizationId, expiresNs) ← authorization d result.verdict decidedNs
  let decision ← .ofExcept (Deciding.decision d ⟨action, request, actionSha256, decidedNs,
    decidedAt, result, killEpoch, authorizationId, expiresNs⟩)
  let _ ← commit .decision ((Sealed.codec P decisionSealing).encode decision)
    (some action.requestId.1) (some decidedNs)
  perform (.recordDecision result.verdict)
  conclude action actionSha256 result decision

/-- `submit_raw` for a request that could not be parsed. The violation is committed
before the kill is latched. -/
def rejectMalformed (raw : Bytes) (admittedNs : ℤ) : Prog P (GatewayResult P) := do
  let event ← commit .violation (malformedPayload P raw) none (some admittedNs)
  let _ ← perform .latchKill
  let _ ← Supervisor.contain event admittedNs
  return refused "request.ambiguous_or_invalid"

def rejectOverload (raw : Bytes) (admittedNs : ℤ) : Prog P (GatewayResult P) := do
  let event ← commit .overloadSummary (overloadPayload raw admittedNs (P := P)) none
    (some admittedNs)
  let _ ← Supervisor.contain event admittedNs
  return refused "admission.overload"

/-- `submit_raw` after the runtime limit. -/
def rejectLate (admittedNs : ℤ) : Prog P (GatewayResult P) := do
  let _ ← perform .latchKill
  let event ← commit .violation (Supervisor.reasonPayload "runtime.budget_exhausted") none
    (some admittedNs)
  let _ ← Supervisor.contain event admittedNs
  return refused "runtime.budget_exhausted"

def submitRaw (raw : Bytes) : Prog P (GatewayResult P) := do
  let admittedNs ← monotonicNow
  if admittedNs - d.startedMonotonicNs > Supervisor.runtimeLimitNs d then
    rejectLate admittedNs
  else do
    match ← perform (.admitRaw raw.length admittedNs) with
    | .droppedAfterKill => return refused "run.not_dispatchable"
    | .firstOverload => rejectOverload raw admittedNs
    | .admitted =>
        match Action.fromWire P raw with
        | .error _ => rejectMalformed raw admittedNs
        | .ok action => decideAction d action admittedNs

/-- The trigger of a fail-closed containment. When its commit fails, the last event
of the ledger stands in for it. -/
def failClosedTrigger (reasonCode : String) (requestId : Option String) (triggerNs : ℤ) :
    Prog P (Event P) :=
  (commit .violation (Supervisor.reasonPayload reasonCode) requestId (some triggerNs)).handle
    fun _ => do
      let events ← perform .events
      match events.getLast? with
      | none =>
          .raise (.runtimeError "evidence failed before any trusted trigger could be recorded")
      | some event => return event

def failClosed (reasonCode : String) (requestId : Option String) : Prog P Unit := do
  let triggerNs ← monotonicNow
  let _ ← perform .latchKill
  let trigger ← failClosedTrigger reasonCode requestId triggerNs
  let _ ← Supervisor.contain trigger triggerNs
  return ()

end Gateway

end Containment
