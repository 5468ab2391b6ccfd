/-
# The executor

Verifies and atomically consumes a signed one-use dispatch decision. The two
methods of the run state that call back into the executor are written out here,
because the evidence commit in the middle is the executor's.
-/

import Containment.Runtime.Gateway

namespace Containment

open Json Concurrency

variable {P : Platform} (d : Deployment P)

namespace Executor

/-- The checks that bind a decision to an action and to this run. -/
def checkBinding (action : Action P) (body : DecisionBody) : Except PyError Unit := do
  let unbound : PyError := .permissionError "decision is not bound to this action and run"
  ensure (body.runId = d.manifest.body.runId) unbound
  ensure (body.manifestHash = d.manifest.manifestHash) unbound
  ensure (body.requestId = action.requestId) unbound
  ensure (body.actionSha256.1 = (← action.digest)) unbound

/-- The egress rule a decision names. Looking it up has no default. -/
def matchedRule (body : DecisionBody) : Except PyError (EgressRule P) :=
  match d.manifest.body.allowedEgress.1.find? fun item =>
      some item.ruleId = body.matchedRuleId with
  | none => .error .stopIteration
  | some rule => .ok rule

def dispatchPayload (actionSha256 : String) (decision : Decision P)
    (authorizationId : OpaqueId) : Json :=
  .obj [("action_sha256", .str actionSha256), ("authorization_id", .str authorizationId.1),
    ("decision_hash", .str decision.decisionHash.1), ("kill_epoch", .int decision.body.killEpoch.1)]

def resultPayload (actionSha256 : String) (decision : Decision P) (authorizationId : OpaqueId)
    (result : TransportResult) : Json :=
  .obj [("action_sha256", .str actionSha256), ("authorization_id", .str authorizationId.1),
    ("decision_hash", .str decision.decisionHash.1), ("kill_epoch", .int decision.body.killEpoch.1),
    ("response_bytes", .int result.responseBytes), ("response_sha256", .str result.responseSha256),
    ("status_code", .int result.statusCode)]

/-- `begin_authorized` with the executor's `commit_dispatch`. -/
def beginAuthorized (action : Action P) (decision : Decision P) (authorizationId : OpaqueId)
    (nowNs reserveEgressBytes : ℤ) : Prog P DispatchLease := do
  let lease ← raising (perform (.reserve decision.body nowNs reserveEgressBytes))
  let committed : Prog P (Event P) := do
    let actionSha256 ← .ofExcept action.digest
    raising (perform (.commit .dispatch (dispatchPayload actionSha256 decision authorizationId)
      (some action.requestId.1) none))
  match ← committed.attempt with
  | .ok _ => do
      perform .confirm
      return lease
  | .error error => do
      perform (.rollback lease)
      .raise error

/-- `finish_authorized` with the executor's `commit_result`. -/
def finishAuthorized (action : Action P) (decision : Decision P) (authorizationId : OpaqueId)
    (lease : DispatchLease) (result : TransportResult) : Prog P Unit := do
  let reserved ← raising (perform (.prepareFinish lease result.responseBytes))
  let committed : Prog P (Event P) := do
    let actionSha256 ← .ofExcept action.digest
    raising (perform (.commit .result (resultPayload actionSha256 decision authorizationId result)
      (some action.requestId.1) none))
  match ← committed.attempt with
  | .ok _ => perform (.settle lease reserved result.responseBytes)
  | .error error => do
      perform .failFinish
      .raise error

/-- What happens under a granted lease. -/
def deliver (action : Action P) (decision : Decision P) (authorizationId : OpaqueId)
    (maxResponseBytes : ℤ) (lease : DispatchLease) : Prog P TransportResult := do
  let secret ← raising (perform (.release action))
  let result ← raising (perform (.transport action secret maxResponseBytes authorizationId))
  .ofExcept (ensure (result.responseBytes ≤ maxResponseBytes)
    (.runtimeError "transport exceeded response byte bound"))
  finishAuthorized action decision authorizationId lease result
  return result

/-- The `except` branch: drop the lease, then fail closed unless a containment has
already cancelled this dispatch. -/
def failed (action : Action P) (authorizationId : OpaqueId) (lease : Option DispatchLease)
    (error : PyError) : Prog P TransportResult := do
  lease.elim (pure ()) fun lease => perform (.abort lease)
  if ← perform (.isSet authorizationId) then
    .raise (.permissionError "dispatch cancelled by containment")
  else do
    Gateway.failClosed "executor.atomic_dispatch_failed" (some action.requestId.1)
    .raise error

/-- The body of `dispatch` between registration and unregistration. -/
def attemptDispatch (action : Action P) (decision : Decision P) (authorizationId : OpaqueId)
    (nowNs maxResponseBytes : ℤ) : Prog P TransportResult := do
  match ← (beginAuthorized action decision authorizationId nowNs maxResponseBytes).attempt with
  | .error error => failed action authorizationId none error
  | .ok lease =>
      (deliver action decision authorizationId maxResponseBytes lease).handle
        (failed action authorizationId (some lease))

def dispatch (action : Action P) (decision : Decision P) (nowNs : ℤ) :
    Prog P TransportResult := do
  .ofExcept (decision.verify d.manifest.body.gatewayKey)
  .ofExcept (checkBinding d action decision.body)
  let rule ← .ofExcept (matchedRule d decision.body)
  match decision.body.authorizationId with
  | none => .raise (.permissionError "decision has no authorization ID")
  | some authorizationId => do
      raising (perform (.register authorizationId))
      (attemptDispatch action decision authorizationId nowNs rule.maxResponseBytes.1).finalize
        (perform (.unregister authorizationId))

end Executor

/-! ## The service -/

/-- The calls a runtime accepts. -/
inductive Call (P : Platform)
  | submitRaw (raw : Bytes)
  | dispatch (action : Action P) (decision : Decision P) (nowNs : ℤ)
  | failClosed (reasonCode : String) (requestId : Option String)
  | enforceRuntimeDeadline (monotonicNs : Option ℤ)
  | contain (trigger : Event P) (triggerMonotonicNs : ℤ)
  | emergencyIsolate
  | complete
  | receipt (status : Option RunStatus)

/-- What a call returns. -/
inductive Reply (P : Platform)
  | submitted (result : GatewayResult P)
  | dispatched (result : TransportResult)
  | closed
  | enforced (contained : Bool)
  | acknowledged (ack : KillAcknowledgement P)
  | isolated
  | receipted (receipt : Receipt P)

def body : Call P → Prog P (Reply P)
  | .submitRaw raw => .submitted <$> Gateway.submitRaw d raw
  | .dispatch action decision nowNs => .dispatched <$> Executor.dispatch d action decision nowNs
  | .failClosed reasonCode requestId => (fun _ => .closed) <$> Gateway.failClosed reasonCode requestId
  | .enforceRuntimeDeadline monotonicNs =>
      .enforced <$> Supervisor.enforceRuntimeDeadline d monotonicNs
  | .contain trigger triggerNs => .acknowledged <$> Supervisor.contain trigger triggerNs
  | .emergencyIsolate => (fun _ => .isolated) <$> Supervisor.emergencyIsolate
  | .complete => .receipted <$> Supervisor.complete d
  | .receipt status => .receipted <$> Supervisor.receipt d status

/-- A decision leaves the gateway when `submit_raw` returns it. -/
def retire (_ : Call P) (outcome : Except PyError (Reply P)) (s : Runtime P) : Runtime P :=
  match outcome with
  | .ok (.submitted ⟨_, _, _, some decision⟩) =>
      { s with history := { s.history with issued := s.history.issued ++ [decision] } }
  | _ => s

/-- The reference runtime as calls over its shared state. -/
@[reducible]
def runtimeService : Service (Op P) Op.Res PyError where
  State := Runtime P
  Env := World
  Call := Call P
  Reply := Reply P
  exec := exec d
  body := body d
  retire := retire

end Containment
