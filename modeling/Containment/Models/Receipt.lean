/-
# Acknowledgements, checkpoints and receipts

What the supervisor and the witness sign: that the run was contained, which
evidence root the witness saw, and the closing account of the run.
`verifyAgainst` is the receipt's own check of an evidence stream. The stream is a
generator with a state of its own, so the check is written over a function that
pulls the next event and one that runs when the stream is exhausted.
-/

import Containment.Models.Decision

namespace Containment

open Json

inductive TerminationMode
  | simulated
  | cgroupKill
  | jobObjectTerminate
  | microvmDestroy
  | processNamespaceKill
  deriving DecidableEq, Repr

def TerminationMode.value : TerminationMode → String
  | .simulated => "SIMULATED"
  | .cgroupKill => "CGROUP_KILL"
  | .jobObjectTerminate => "JOB_OBJECT_TERMINATE"
  | .microvmDestroy => "MICROVM_DESTROY"
  | .processNamespaceKill => "PROCESS_NAMESPACE_KILL"

def TerminationMode.codec : Codec PyError TerminationMode :=
  .enum (.validationError "" ("Input should be 'SIMULATED', 'CGROUP_KILL', " ++
      "'JOB_OBJECT_TERMINATE', 'MICROVM_DESTROY' or 'PROCESS_NAMESPACE_KILL'"))
    [.simulated, .cgroupKill, .jobObjectTerminate, .microvmDestroy, .processNamespaceKill]
    TerminationMode.value (by intro x; cases x <;> rfl)

/-! ## Kill acknowledgements -/

structure KillAcknowledgementBodyFields where
  runId : OpaqueId
  manifestHash : Sha256Hex
  supervisorKeyId : OpaqueId
  supervisorInstanceId : OpaqueId
  triggerEventSequence : SafeNonNegativeInt
  triggerEventHash : Sha256Hex
  triggerMonotonicNs : SafeNonNegativeInt
  killRequestedAt : UtcTimestamp
  killRequestedMonotonicNs : SafeNonNegativeInt
  killAcknowledgedAt : UtcTimestamp
  killAcknowledgedMonotonicNs : SafeNonNegativeInt
  killLatencyNs : SafeNonNegativeInt
  terminationMode : TerminationMode
  terminatedWorkloadIds : { values : List OpaqueId //
    stringListCheck "terminated workload IDs" values = .ok () }
  inflightAtTrigger : SafeNonNegativeInt
  inflightCancelSignalled : SafeNonNegativeInt
  inflightCancelled : SafeNonNegativeInt
  networkIsolationConfirmed : Bool
  isolationEvidenceSha256 : Option Sha256Hex

def KillAcknowledgementBodyFields.timingIsCoherent (body : KillAcknowledgementBodyFields) :
    Except PyError Unit := do
  ensure (body.triggerMonotonicNs.1 ≤ body.killRequestedMonotonicNs.1)
    (reject "kill request precedes violation trigger")
  ensure (body.killRequestedMonotonicNs.1 ≤ body.killAcknowledgedMonotonicNs.1)
    (reject "kill acknowledgement precedes kill request")
  ensure (body.killLatencyNs.1 =
      body.killAcknowledgedMonotonicNs.1 - body.triggerMonotonicNs.1)
    (reject "kill_latency_ns must span trigger to acknowledgement")
  ensure (¬ textLt body.killAcknowledgedAt.1 body.killRequestedAt.1)
    (reject "kill wall-clock acknowledgement precedes request")
  ensure (body.inflightCancelled.1 ≤ body.inflightAtTrigger.1)
    (reject "cancelled inflight count exceeds trigger count")
  ensure (body.inflightCancelSignalled.1 ≤ body.inflightAtTrigger.1)
    (reject "signalled inflight count exceeds trigger count")
  ensure (body.inflightCancelled.1 ≤ body.inflightCancelSignalled.1)
    (reject "cancelled inflight exceeds cancellation signals")
  if body.terminationMode = .simulated then do
    ensure (body.terminatedWorkloadIds.1 = [])
      (reject "simulated isolation cannot claim terminated workloads")
    ensure (body.networkIsolationConfirmed = false)
      (reject "simulated isolation cannot confirm network isolation")
    ensure (body.isolationEvidenceSha256 = none)
      (reject "simulated isolation cannot carry production evidence")
  else do
    ensure (body.terminatedWorkloadIds.1 ≠ [])
      (reject "production isolation requires terminated workloads")
    ensure (¬ (body.networkIsolationConfirmed = true ∧ body.isolationEvidenceSha256 = none))
      (reject "confirmed network isolation requires an evidence digest")

structure KillAcknowledgementBody extends KillAcknowledgementBodyFields where
  coherent : toKillAcknowledgementBodyFields.timingIsCoherent = .ok ()

def KillAcknowledgementBodyFields.record : Record PyError KillAcknowledgementBodyFields :=
  (Codecs.header.and <|
    (Codecs.required "run_id" Codecs.opaqueId).and <|
    (Codecs.required "manifest_hash" Codecs.sha256Hex).and <|
    (Codecs.required "supervisor_key_id" Codecs.opaqueId).and <|
    (Codecs.required "supervisor_instance_id" Codecs.opaqueId).and <|
    (Codecs.required "trigger_event_sequence" Codecs.safeNonNegativeInt).and <|
    (Codecs.required "trigger_event_hash" Codecs.sha256Hex).and <|
    (Codecs.required "trigger_monotonic_ns" Codecs.safeNonNegativeInt).and <|
    (Codecs.required "kill_requested_at" Codecs.utcTimestamp).and <|
    (Codecs.required "kill_requested_monotonic_ns" Codecs.safeNonNegativeInt).and <|
    (Codecs.required "kill_acknowledged_at" Codecs.utcTimestamp).and <|
    (Codecs.required "kill_acknowledged_monotonic_ns" Codecs.safeNonNegativeInt).and <|
    (Codecs.required "kill_latency_ns" Codecs.safeNonNegativeInt).and <|
    (Codecs.required "termination_mode" TerminationMode.codec).and <|
    (Codecs.defaulted "terminated_workload_ids"
      (tupleField Codecs.opaqueId (stringListCheck "terminated workload IDs"))
      ⟨[], by decide⟩).and <|
    (Codecs.required "inflight_at_trigger" Codecs.safeNonNegativeInt).and <|
    (Codecs.defaulted "inflight_cancel_signalled" Codecs.safeNonNegativeInt
      ⟨0, by decide⟩).and <|
    (Codecs.required "inflight_cancelled" Codecs.safeNonNegativeInt).and <|
    (Codecs.required "network_isolation_confirmed" Codecs.canonicalBool).and <|
    Codecs.defaulted "isolation_evidence_sha256" Codecs.optionalSha256Hex none).iso
    (fun (_, run, manifest, key, supervisor, sequence, hash, trigger, requestedAt, requestedNs,
        acknowledgedAt, acknowledgedNs, latency, mode, workloads, inflight, signalled,
        cancelled, isolated, evidence) =>
      ⟨run, manifest, key, supervisor, sequence, hash, trigger, requestedAt, requestedNs,
        acknowledgedAt, acknowledgedNs, latency, mode, workloads, inflight, signalled,
        cancelled, isolated, evidence⟩)
    (fun x => (((), ()), x.runId, x.manifestHash, x.supervisorKeyId, x.supervisorInstanceId,
      x.triggerEventSequence, x.triggerEventHash, x.triggerMonotonicNs, x.killRequestedAt,
      x.killRequestedMonotonicNs, x.killAcknowledgedAt, x.killAcknowledgedMonotonicNs,
      x.killLatencyNs, x.terminationMode, x.terminatedWorkloadIds, x.inflightAtTrigger,
      x.inflightCancelSignalled, x.inflightCancelled, x.networkIsolationConfirmed,
      x.isolationEvidenceSha256))
    fun _ => rfl

def KillAcknowledgementBody.codec : Codec PyError KillAcknowledgementBody :=
  Codecs.model ((KillAcknowledgementBodyFields.record.refine
      KillAcknowledgementBodyFields.timingIsCoherent).iso
    (fun x => ⟨x.1, x.2⟩) (fun x => ⟨x.toKillAcknowledgementBodyFields, x.coherent⟩)
    fun _ => rfl) rfl

def KillAcknowledgementBody.make (fields : KillAcknowledgementBodyFields) :
    Except PyError KillAcknowledgementBody :=
  (fun x => ⟨x.1, x.2⟩) <$> checked KillAcknowledgementBodyFields.timingIsCoherent fields

def killAcknowledgementSealing : Sealing KillAcknowledgementBody where
  hashDomain := "KILL-ACK-HASH"
  signatureDomain := "KILL-ACK-SIGNATURE"
  codec := KillAcknowledgementBody.codec
  keyId body := body.supervisorKeyId
  hashName := "acknowledgement_hash"
  signatureName := "supervisor_signature"
  hashMismatch := "acknowledgement_hash does not match body"
  keyMismatch := "supervisor signature key ID does not match body"
  wrongKey := "wrong supervisor verification key"
  names_nodup := by decide

variable (P : Platform)

abbrev KillAcknowledgement : Type := Sealed P killAcknowledgementSealing

/-! ## Witness checkpoints -/

/-- Evidence root signed by an independently operated witness. -/
structure WitnessCheckpointBodyFields where
  runId : OpaqueId
  manifestHash : Sha256Hex
  witnessKeyId : OpaqueId
  witnessedAt : UtcTimestamp
  eventCount : SafeNonNegativeInt
  finalEventHash : Option Sha256Hex
  evidenceFileSha256 : Sha256Hex

def WitnessCheckpointBodyFields.rootMatchesCount (body : WitnessCheckpointBodyFields) :
    Except PyError Unit := do
  ensure (¬ (body.eventCount.1 = 0 ∧ body.finalEventHash ≠ none))
    (reject "empty evidence cannot have a final event hash")
  ensure (¬ (0 < body.eventCount.1 ∧ body.finalEventHash = none))
    (reject "non-empty evidence requires a final event hash")

structure WitnessCheckpointBody extends WitnessCheckpointBodyFields where
  coherent : toWitnessCheckpointBodyFields.rootMatchesCount = .ok ()

def WitnessCheckpointBody.codec : Codec PyError WitnessCheckpointBody :=
  Codecs.model (((Codecs.header.and <|
      (Codecs.required "run_id" Codecs.opaqueId).and <|
      (Codecs.required "manifest_hash" Codecs.sha256Hex).and <|
      (Codecs.required "witness_key_id" Codecs.opaqueId).and <|
      (Codecs.required "witnessed_at" Codecs.utcTimestamp).and <|
      (Codecs.required "event_count" Codecs.safeNonNegativeInt).and <|
      (Codecs.required "final_event_hash" Codecs.optionalSha256Hex).and <|
      Codecs.required "evidence_file_sha256" Codecs.sha256Hex).iso
      (fun (_, run, manifest, key, witnessedAt, count, final, evidence) =>
        (⟨run, manifest, key, witnessedAt, count, final, evidence⟩ :
          WitnessCheckpointBodyFields))
      (fun x => (((), ()), x.runId, x.manifestHash, x.witnessKeyId, x.witnessedAt, x.eventCount,
        x.finalEventHash, x.evidenceFileSha256)) fun _ => rfl).refine
        WitnessCheckpointBodyFields.rootMatchesCount |>.iso
    (fun x => (⟨x.1, x.2⟩ : WitnessCheckpointBody))
    (fun x => ⟨x.toWitnessCheckpointBodyFields, x.coherent⟩) fun _ => rfl) rfl

def WitnessCheckpointBody.make (fields : WitnessCheckpointBodyFields) :
    Except PyError WitnessCheckpointBody :=
  (fun x => ⟨x.1, x.2⟩) <$> checked WitnessCheckpointBodyFields.rootMatchesCount fields

def witnessCheckpointSealing : Sealing WitnessCheckpointBody where
  hashDomain := "WITNESS-CHECKPOINT-HASH"
  signatureDomain := "WITNESS-CHECKPOINT-SIGNATURE"
  codec := WitnessCheckpointBody.codec
  keyId body := body.witnessKeyId
  hashName := "checkpoint_hash"
  signatureName := "witness_signature"
  hashMismatch := "checkpoint_hash does not match checkpoint body"
  keyMismatch := "witness signature key ID does not match checkpoint"
  wrongKey := "wrong witness verification key"
  names_nodup := by decide

abbrev WitnessCheckpoint : Type := Sealed P witnessCheckpointSealing

/-! ## Receipts -/

inductive RunStatus
  | completed
  | failed
  | killed
  | supervisorFailure
  deriving DecidableEq, Repr

def RunStatus.value : RunStatus → String
  | .completed => "COMPLETED"
  | .failed => "FAILED"
  | .killed => "KILLED"
  | .supervisorFailure => "SUPERVISOR_FAILURE"

def RunStatus.codec : Codec PyError RunStatus :=
  .enum (.validationError ""
      "Input should be 'COMPLETED', 'FAILED', 'KILLED' or 'SUPERVISOR_FAILURE'")
    [.completed, .failed, .killed, .supervisorFailure] RunStatus.value
    (by intro x; cases x <;> rfl)

structure ReceiptBodyFields where
  runId : OpaqueId
  manifestHash : Sha256Hex
  supervisorKeyId : OpaqueId
  supervisorInstanceId : OpaqueId
  status : RunStatus
  startedAt : UtcTimestamp
  finishedAt : UtcTimestamp
  startedMonotonicNs : SafeNonNegativeInt
  finishedMonotonicNs : SafeNonNegativeInt
  eventCount : SafeNonNegativeInt
  firstEventHash : Option Sha256Hex
  finalEventHash : Option Sha256Hex
  evidenceFileSha256 : Sha256Hex
  observedRequestCount : SafeNonNegativeInt
  admittedRequestCount : SafeNonNegativeInt
  allowedRequestCount : SafeNonNegativeInt
  deniedRequestCount : SafeNonNegativeInt
  dispatchedRequestCount : SafeNonNegativeInt
  completedRequestCount : SafeNonNegativeInt
  rejectedOverloadCount : SafeNonNegativeInt
  droppedAfterKillCount : SafeNonNegativeInt
  totalEgressBytes : SafeNonNegativeInt
  killAcknowledgement : Option (KillAcknowledgement P)
  witnessCheckpoint : WitnessCheckpoint P

namespace ReceiptBodyFields

variable {P} (body : ReceiptBodyFields P)

/-- The part of `receipt_is_coherent` that reads the acknowledgement. -/
def acknowledgementIsCoherent (ack : KillAcknowledgementBody) : Except PyError Unit := do
  ensure (ack.runId = body.runId ∧ ack.manifestHash = body.manifestHash)
    (reject "kill acknowledgement belongs to another run")
  ensure (ack.supervisorKeyId = body.supervisorKeyId)
    (reject "kill acknowledgement uses another supervisor key")
  ensure (ack.killAcknowledgedMonotonicNs.1 ≤ body.finishedMonotonicNs.1)
    (reject "kill acknowledgement occurs after receipt finish")

def receiptIsCoherent : Except PyError Unit := do
  ensure (¬ textLt body.finishedAt.1 body.startedAt.1)
    (reject "receipt finish time precedes start time")
  ensure (body.startedMonotonicNs.1 ≤ body.finishedMonotonicNs.1)
    (reject "receipt monotonic finish precedes start")
  if body.eventCount.1 = 0 then
    ensure (body.firstEventHash = none ∧ body.finalEventHash = none)
      (reject "empty evidence cannot have event hashes")
  else
    ensure (body.firstEventHash ≠ none ∧ body.finalEventHash ≠ none)
      (reject "non-empty evidence requires first and final hashes")
  ensure (body.admittedRequestCount.1 ≤ body.observedRequestCount.1)
    (reject "admitted requests exceed observed requests")
  ensure (body.allowedRequestCount.1 + body.deniedRequestCount.1 ≤ body.admittedRequestCount.1)
    (reject "decisions exceed admitted requests")
  ensure (body.dispatchedRequestCount.1 ≤ body.allowedRequestCount.1)
    (reject "dispatches exceed allowed requests")
  ensure (body.completedRequestCount.1 ≤ body.dispatchedRequestCount.1)
    (reject "completed requests exceed dispatches")
  ensure (body.rejectedOverloadCount.1 + body.droppedAfterKillCount.1 ≤
      body.observedRequestCount.1)
    (reject "rejected/dropped counters exceed observed requests")
  if body.status = .killed then
    ensure (body.killAcknowledgement.isSome = true)
      (reject "KILLED receipt requires kill acknowledgement")
  else
    ensure (body.killAcknowledgement.isNone = true)
      (reject "only KILLED receipts may contain kill acknowledgement")
  match body.killAcknowledgement with
  | none => .ok ()
  | some ack => body.acknowledgementIsCoherent ack.body
  let checkpoint := body.witnessCheckpoint.body
  ensure (checkpoint.runId = body.runId ∧ checkpoint.manifestHash = body.manifestHash ∧
      checkpoint.eventCount = body.eventCount ∧
      checkpoint.finalEventHash = body.finalEventHash ∧
      checkpoint.evidenceFileSha256 = body.evidenceFileSha256)
    (reject "witness checkpoint does not match receipt evidence")

/-- The conditions under which `receipt_is_coherent` does not raise. -/
structure Coherent : Prop where
  finishedAt : ¬ textLt body.finishedAt.1 body.startedAt.1
  finishedNs : body.startedMonotonicNs.1 ≤ body.finishedMonotonicNs.1
  hashes : (body.eventCount.1 = 0 ∧ body.firstEventHash = none ∧ body.finalEventHash = none) ∨
    (body.eventCount.1 ≠ 0 ∧ body.firstEventHash ≠ none ∧ body.finalEventHash ≠ none)
  admitted : body.admittedRequestCount.1 ≤ body.observedRequestCount.1
  decided : body.allowedRequestCount.1 + body.deniedRequestCount.1 ≤ body.admittedRequestCount.1
  dispatched : body.dispatchedRequestCount.1 ≤ body.allowedRequestCount.1
  completed : body.completedRequestCount.1 ≤ body.dispatchedRequestCount.1
  dropped : body.rejectedOverloadCount.1 + body.droppedAfterKillCount.1 ≤
    body.observedRequestCount.1
  status : body.status = .killed ↔ body.killAcknowledgement.isSome = true
  acknowledged : ∀ ack ∈ body.killAcknowledgement,
    body.acknowledgementIsCoherent ack.body = .ok ()
  checkpoint : body.witnessCheckpoint.body.runId = body.runId ∧
    body.witnessCheckpoint.body.manifestHash = body.manifestHash ∧
    body.witnessCheckpoint.body.eventCount = body.eventCount ∧
    body.witnessCheckpoint.body.finalEventHash = body.finalEventHash ∧
    body.witnessCheckpoint.body.evidenceFileSha256 = body.evidenceFileSha256

theorem receiptIsCoherent_eq_ok : body.receiptIsCoherent = .ok () ↔ body.Coherent := by
  unfold receiptIsCoherent
  simp only [bind_eq_ok, Unique.exists_iff, ensure_eq_ok]
  by_cases hcount : body.eventCount.1 = 0 <;> by_cases hstatus : body.status = .killed <;>
    cases hack : body.killAcknowledgement
  all_goals
    simp only [hcount, hstatus, if_true, if_false, bind_eq_ok, Unique.exists_iff, ensure_eq_ok]
    constructor
    · intro h
      refine ⟨?_, ?_, ?_, ?_, ?_, ?_, ?_, ?_, ?_, ?_, ?_⟩ <;> simp_all
    · rintro ⟨h₁, h₂, h₃, h₄, h₅, h₆, h₇, h₈, h₉, h₁₀, h₁₁⟩
      simp_all

end ReceiptBodyFields

structure ReceiptBody extends ReceiptBodyFields P where
  coherent : toReceiptBodyFields.receiptIsCoherent = .ok ()

def ReceiptBodyFields.record : Record PyError (ReceiptBodyFields P) :=
  (Codecs.header.and <|
    (Codecs.required "run_id" Codecs.opaqueId).and <|
    (Codecs.required "manifest_hash" Codecs.sha256Hex).and <|
    (Codecs.required "supervisor_key_id" Codecs.opaqueId).and <|
    (Codecs.required "supervisor_instance_id" Codecs.opaqueId).and <|
    (Codecs.required "status" RunStatus.codec).and <|
    (Codecs.required "started_at" Codecs.utcTimestamp).and <|
    (Codecs.required "finished_at" Codecs.utcTimestamp).and <|
    (Codecs.required "started_monotonic_ns" Codecs.safeNonNegativeInt).and <|
    (Codecs.required "finished_monotonic_ns" Codecs.safeNonNegativeInt).and <|
    (Codecs.required "event_count" Codecs.safeNonNegativeInt).and <|
    (Codecs.required "first_event_hash" Codecs.optionalSha256Hex).and <|
    (Codecs.required "final_event_hash" Codecs.optionalSha256Hex).and <|
    (Codecs.defaulted "evidence_format" (Codecs.literal "canonical-jsonl-v1") ()).and <|
    (Codecs.required "evidence_file_sha256" Codecs.sha256Hex).and <|
    (Codecs.required "observed_request_count" Codecs.safeNonNegativeInt).and <|
    (Codecs.required "admitted_request_count" Codecs.safeNonNegativeInt).and <|
    (Codecs.required "allowed_request_count" Codecs.safeNonNegativeInt).and <|
    (Codecs.required "denied_request_count" Codecs.safeNonNegativeInt).and <|
    (Codecs.required "dispatched_request_count" Codecs.safeNonNegativeInt).and <|
    (Codecs.required "completed_request_count" Codecs.safeNonNegativeInt).and <|
    (Codecs.required "rejected_overload_count" Codecs.safeNonNegativeInt).and <|
    (Codecs.required "dropped_after_kill_count" Codecs.safeNonNegativeInt).and <|
    (Codecs.required "total_egress_bytes" Codecs.safeNonNegativeInt).and <|
    (Codecs.defaulted "kill_acknowledgement"
      ((Sealed.codec P killAcknowledgementSealing).option fun _ h => nomatch h)
      none).and <|
    Codecs.required "witness_checkpoint" (Sealed.codec P witnessCheckpointSealing)).iso
    (fun (_, run, manifest, key, supervisor, status, startedAt, finishedAt, startedNs,
        finishedNs, count, first, final, _, evidence, observed, admitted, allowed, denied,
        dispatched, completed, rejected, dropped, egress, ack, checkpoint) =>
      ⟨run, manifest, key, supervisor, status, startedAt, finishedAt, startedNs, finishedNs,
        count, first, final, evidence, observed, admitted, allowed, denied, dispatched,
        completed, rejected, dropped, egress, ack, checkpoint⟩)
    (fun x => (((), ()), x.runId, x.manifestHash, x.supervisorKeyId, x.supervisorInstanceId,
      x.status, x.startedAt, x.finishedAt, x.startedMonotonicNs, x.finishedMonotonicNs,
      x.eventCount, x.firstEventHash, x.finalEventHash, (), x.evidenceFileSha256,
      x.observedRequestCount, x.admittedRequestCount, x.allowedRequestCount,
      x.deniedRequestCount, x.dispatchedRequestCount, x.completedRequestCount,
      x.rejectedOverloadCount, x.droppedAfterKillCount, x.totalEgressBytes,
      x.killAcknowledgement, x.witnessCheckpoint))
    fun _ => rfl

def ReceiptBody.codec : Codec PyError (ReceiptBody P) :=
  Codecs.model (((ReceiptBodyFields.record P).refine ReceiptBodyFields.receiptIsCoherent).iso
    (fun x => ⟨x.1, x.2⟩) (fun x => ⟨x.toReceiptBodyFields, x.coherent⟩) fun _ => rfl) rfl

variable {P} in
def ReceiptBody.make (fields : ReceiptBodyFields P) : Except PyError (ReceiptBody P) :=
  (fun x => ⟨x.1, x.2⟩) <$> checked ReceiptBodyFields.receiptIsCoherent fields

def receiptSealing : Sealing (ReceiptBody P) where
  hashDomain := "RECEIPT-HASH"
  signatureDomain := "RECEIPT-SIGNATURE"
  codec := ReceiptBody.codec P
  keyId body := body.supervisorKeyId
  hashName := "receipt_hash"
  signatureName := "supervisor_signature"
  hashMismatch := "receipt_hash does not match receipt body"
  keyMismatch := "supervisor signature key ID does not match receipt"
  wrongKey := "wrong supervisor verification key"
  names_nodup := by decide

abbrev Receipt : Type := Sealed P (receiptSealing P)

namespace Receipt

variable {P}

/-- The variables of the loop in `verify_against`. The running digest is kept as
the octets fed to it. -/
structure Progress (P : Platform) where
  evidence : Bytes
  previous : Option (Event P)
  triggerEventHash : Option Sha256Hex
  count : ℕ

def Progress.start : Progress P := ⟨[], none, none, 0⟩

/-- One turn of the loop. -/
def accept (receipt : Receipt P) (progress : Progress P) (event : Event P) :
    Except PyError (Progress P) := do
  let body := receipt.body
  ensure ((progress.count : ℤ) < body.eventCount.1)
    (.valueError "evidence contains more events than receipt")
  ensure (event.body.runId = body.runId ∧ event.body.manifestHash = body.manifestHash)
    (.valueError "event belongs to another run or manifest")
  match progress.previous with
  | none => do
      ensure (event.body.sequence.1 = 0) (.valueError "evidence must start at sequence zero")
      ensure (event.body.previousEventHash.1 = genesisHash)
        (.valueError "first event does not reference genesis")
      ensure (some event.eventHash = body.firstEventHash)
        (.valueError "first event hash does not match receipt")
  | some previous =>
      ensure (event.Follows previous)
        (.valueError ("broken event chain at sequence " ++ toString event.body.sequence.1))
  let encoded ← event.canonicalBytes
  return {
    evidence := progress.evidence ++ encoded ++ [10]
    previous := some event
    triggerEventHash :=
      match body.killAcknowledgement with
      | none => progress.triggerEventHash
      | some ack =>
          if event.body.sequence = ack.body.triggerEventSequence then some event.eventHash
          else progress.triggerEventHash
    count := progress.count + 1 }

/-- The checks after the loop. -/
def conclude (receipt : Receipt P) (manifest : Manifest P) (progress : Progress P) :
    Except PyError Unit := do
  let body := receipt.body
  ensure ((progress.count : ℤ) = body.eventCount.1)
    (.valueError "event count does not match receipt")
  ensure (∀ previous ∈ progress.previous, some previous.eventHash = body.finalEventHash)
    (.valueError "final event hash does not match receipt")
  ensure (P.sha256Hex progress.evidence = body.evidenceFileSha256.1)
    (.valueError "canonical evidence file digest does not match receipt")
  match body.killAcknowledgement with
  | none => .ok ()
  | some ack => do
      ack.verify manifest.body.supervisorKey
      let slaNs := manifest.body.killCriteria.supervisorKillLatencySlaMs.1 * 1000000
      ensure (ack.body.killLatencyNs.1 ≤ slaNs)
        (.valueError "supervisor kill latency exceeded manifest SLA")
      match progress.triggerEventHash with
      | none => .error (.valueError "kill trigger event is absent from evidence")
      | some hash =>
          ensure (hash = ack.body.triggerEventHash)
            (.valueError "kill trigger hash does not match evidence")

variable {ι σ : Type}

/-- The loop: pull an event out of the stream, then check it. The stream's closing
checks run once it is exhausted. -/
def consume (receipt : Receipt P) (pull : σ → ι → Except PyError (Event P × σ))
    (close : σ → Except PyError Unit) :
    σ → Progress P → List ι → Except PyError (σ × Progress P)
  | stream, progress, [] => do
      close stream
      return (stream, progress)
  | stream, progress, item :: rest => do
      let (event, stream) ← pull stream item
      let progress ← receipt.accept progress event
      consume receipt pull close stream progress rest

/-- Verify run binding, chain continuity, root, count, and kill SLA. Returns the
final state of the stream. -/
def verifyAgainst (receipt : Receipt P) (manifest : Manifest P)
    (pull : σ → ι → Except PyError (Event P × σ)) (close : σ → Except PyError Unit)
    (stream : σ) (items : List ι) : Except PyError σ := do
  receipt.verify manifest.body.supervisorKey
  ensure (receipt.body.runId = manifest.body.runId)
    (.valueError "receipt run_id does not match manifest")
  ensure (receipt.body.manifestHash = manifest.manifestHash)
    (.valueError "receipt manifest_hash does not match manifest")
  ensure (receipt.body.supervisorKeyId = manifest.body.supervisorKey.keyId)
    (.valueError "receipt is not signed by the manifest supervisor")
  receipt.body.witnessCheckpoint.verify manifest.body.witnessKey
  let (stream, progress) ← consume receipt pull close stream .start items
  receipt.conclude manifest progress
  return stream

end Receipt

end Containment
