/-
# The supervisor

Containment, emergency isolation, the runtime watchdog and the receipt, each as
the sequence of critical sections its method runs through.
-/

import Containment.Runtime.Shared

namespace Containment

open Json Concurrency

variable {P : Platform} (d : Deployment P)

/-- `format_utc_timestamp(self.wall_clock())` and the like raise from the outside. -/
def monotonicNow : Prog P ℤ := raising (perform .monotonicClock)

def wallNow : Prog P Datetime := raising (perform .wallClock)

/-- `with lock:` around a method body. -/
def withLock {α : Type} (acquire release : Prog P Unit) (body : Prog P α) : Prog P α := do
  acquire
  body.finalize release

def withContainLock {α : Type} : Prog P α → Prog P α :=
  withLock (perform .acquireContain) (perform .releaseContain)

def withReceiptLock {α : Type} : Prog P α → Prog P α :=
  withLock (perform .acquireReceipt) (perform .releaseReceipt)

namespace Supervisor

/-- The commit of the acknowledgement. A failure takes it back. -/
def commitAcknowledgement (ack : KillAcknowledgement P) (acknowledgedNs : ℤ) :
    Prog P (KillAcknowledgement P) :=
  (do
    let _ ← raising (perform (.commit .killAcknowledged
      ((Sealed.codec P killAcknowledgementSealing).encode ack) none (some acknowledgedNs)))
    return ack).handle fun error => do
      perform .dropAcknowledgement
      .raise error

/-- `_contain_locked` once no acknowledgement was found. -/
def containFresh (trigger : Event P) (triggerMonotonicNs : ℤ) :
    Prog P (KillAcknowledgement P) := do
  let (_, _, inflight) ← perform .latchKill
  let cancellationSignals ← perform .signalAll
  let requestedAt ← wallNow
  let requestedNs ← monotonicNow
  let isolation ← raising (perform .isolate)
  let acknowledgedNs ← monotonicNow
  let acknowledgedAt ← wallNow
  raising (perform .markKilled)
  let ack ← raising (perform (.acknowledge ⟨trigger, triggerMonotonicNs, requestedAt, requestedNs,
    acknowledgedAt, acknowledgedNs, isolation, inflight, cancellationSignals⟩))
  commitAcknowledgement ack acknowledgedNs

/-- `_contain_locked`. -/
def containLocked (trigger : Event P) (triggerMonotonicNs : ℤ) :
    Prog P (KillAcknowledgement P) := do
  match ← perform .readAcknowledgement with
  | some ack => return ack
  | none => containFresh trigger triggerMonotonicNs

def contain (trigger : Event P) (triggerMonotonicNs : ℤ) : Prog P (KillAcknowledgement P) :=
  withContainLock (containLocked trigger triggerMonotonicNs)

/-- Contain even when no trustworthy evidence event can be committed. -/
def emergencyIsolate : Prog P Unit :=
  withContainLock do
    perform .raiseEmergency
    let _ ← perform .latchKill
    let _ ← raising (perform .isolate)
    raising (perform .markKilled)

/-- `{"reason_code": reason_code}`. -/
def reasonPayload (reasonCode : String) : Json := .obj [("reason_code", .str reasonCode)]

/-- The limit of a run, in nanoseconds. -/
def runtimeLimitNs : ℤ := d.manifest.body.killCriteria.maxRuntimeMs.1 * 1000000

/-- Watchdog hook: contain a still-running workload after its deadline. -/
def enforceRuntimeDeadline (monotonicNs : Option ℤ) : Prog P Bool := do
  let nowNs ← monotonicNs.elim monotonicNow pure
  let deadlineNs := d.startedMonotonicNs + runtimeLimitNs d
  let state ← perform .snapshot
  if state.phase ≠ .running ∨ nowNs ≤ deadlineNs then
    return false
  else do
    let _ ← perform .latchKill
    let event ← raising (perform (.commit .violation (reasonPayload "runtime.budget_exhausted")
      none (some nowNs)))
    let _ ← contain event nowNs
    return true

/-- The status a terminal run is reported with. -/
def derivedStatus (emergencyFailure : Bool) (phase : RunPhase) : Except PyError RunStatus :=
  if phase = .running ∨ phase = .killing then
    .error (.runtimeError "receipt requires a terminal run state")
  else if emergencyFailure then .ok .supervisorFailure
  else if phase = .killed then .ok .killed
  else .ok .completed

/-- The body of the receipt, as its constructor checks it. -/
def receiptBody (status : RunStatus) (state : RunState) (mirror : EvidenceMirror)
    (finishedAt : Datetime) (finishedNs : ℤ) (ack : Option (KillAcknowledgement P))
    (checkpoint : WitnessCheckpoint P) : Except PyError (ReceiptBody P) := do
  let count (name : String) (n : ℤ) : Except PyError SafeNonNegativeInt :=
    validate name (intRange 0 maxSafeInteger) n
  let startedAt ← formatUtcTimestamp d.startedAt
  let finishedAt ← formatUtcTimestamp finishedAt
  let startedNs ← count "started_monotonic_ns" d.startedMonotonicNs
  let finishedNs ← count "finished_monotonic_ns" finishedNs
  let eventCount ← count "event_count" mirror.count
  let evidence ← validate "evidence_file_sha256" sha256HexCheck (P.sha256Hex mirror.digest)
  let observed ← count "observed_request_count" state.observed
  let admitted ← count "admitted_request_count" state.admitted
  let allowed ← count "allowed_request_count" state.allowed
  let denied ← count "denied_request_count" state.denied
  let dispatched ← count "dispatched_request_count" state.dispatched
  let completed ← count "completed_request_count" state.completed
  let rejected ← count "rejected_overload_count" state.rejectedOverload
  let dropped ← count "dropped_after_kill_count" state.droppedAfterKill
  let egress ← count "total_egress_bytes" state.egressBytes
  ReceiptBody.make {
    runId := d.manifest.body.runId
    manifestHash := d.manifest.manifestHash
    supervisorKeyId := d.manifest.body.supervisorKey.keyId
    supervisorInstanceId := d.supervisorInstanceId
    status := status
    startedAt := startedAt
    finishedAt := finishedAt
    startedMonotonicNs := startedNs
    finishedMonotonicNs := finishedNs
    eventCount := eventCount
    firstEventHash := mirror.firstHash
    finalEventHash := mirror.finalHash
    evidenceFileSha256 := evidence
    observedRequestCount := observed
    admittedRequestCount := admitted
    allowedRequestCount := allowed
    deniedRequestCount := denied
    dispatchedRequestCount := dispatched
    completedRequestCount := completed
    rejectedOverloadCount := rejected
    droppedAfterKillCount := dropped
    totalEgressBytes := egress
    killAcknowledgement := ack
    witnessCheckpoint := checkpoint }

/-- `_receipt_locked` once no frozen receipt was found. -/
def receiptFresh (status : Option RunStatus) : Prog P (Receipt P) := do
  let state ← perform .snapshot
  let derived ← .ofExcept (derivedStatus (← perform .readEmergency) state.phase)
  .ofExcept (ensure (∀ requested ∈ status, requested = derived)
    (.valueError "requested receipt status conflicts with run state"))
  perform .seal
  let finishedAt ← wallNow
  let finishedNs ← monotonicNow
  let mirror ← perform .mirrorSnapshot
  let checkpoint ← raising (perform (.checkpoint mirror.count mirror.finalHash
    (P.sha256Hex mirror.digest)))
  let ack ← perform .readAcknowledgement
  let body ← .ofExcept (receiptBody d derived state mirror finishedAt finishedNs ack checkpoint)
  let receipt ← .ofExcept (Sealed.sign (receiptSealing P) body d.supervisorKey)
  perform (.storeReceipt receipt)
  return receipt

def receipt (status : Option RunStatus) : Prog P (Receipt P) :=
  withReceiptLock do
    match ← perform .readReceipt with
    | some frozen => do
        .ofExcept (ensure (∀ requested ∈ status, requested = frozen.body.status)
          (.valueError "receipt status conflicts with frozen receipt"))
        return frozen
    | none => receiptFresh d status

/-- Complete a running reference run through the trusted control plane. -/
def complete : Prog P (Receipt P) := do
  raising (perform .markCompleted)
  receipt d none

end Supervisor

end Containment
