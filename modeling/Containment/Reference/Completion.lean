/-
# The receipt of a completed run on the reference deployment

A healthy run that nobody has completed can be: the witness signs the mirror's root, and
the supervisor signs a receipt with the counters of the state it was given. Nothing here
says that the counters are right, only that the models accept them.
-/

import Containment.Runtime.Commit
import Containment.Runtime.Supervisor

namespace Containment

open Json Concurrency

namespace Reference

variable {manifest : Manifest platform} {events : List (Event platform)} {mirror : EvidenceMirror}

/-- Counters that the checks of the receipt accept. -/
structure Countable (state : RunState) : Prop where
  observed : state.observed ≤ maxSafeInteger
  admitted : state.admitted ≤ state.observed
  decided : state.allowed + state.denied ≤ state.admitted
  denied : 0 ≤ state.denied
  dispatched : state.dispatched ≤ state.allowed
  completed : 0 ≤ state.completed ∧ state.completed ≤ state.dispatched
  rejected : 0 ≤ state.rejectedOverload
  dropped : 0 ≤ state.droppedAfterKill
  refused : state.rejectedOverload + state.droppedAfterKill ≤ state.observed
  egress : 0 ≤ state.egressBytes ∧ state.egressBytes ≤ maxSafeInteger

/-- The mirror's digest is one. -/
def mirrorDigest (mirror : EvidenceMirror) : Sha256Hex :=
  ⟨platform.sha256Hex mirror.digest, lawful.sha256Hex_check _⟩

/-- A witness that has issued nothing signs the root of the mirror. -/
theorem exists_witnessed (manifest : Manifest platform) (h : Agrees events mirror)
    (hroom : events.length < 1000) :
    ∃ checkpoint after, TransparencyWitness.checkpoint Reference.witness
        ⟨manifest, mirror.count, mirror.finalHash.map Subtype.val,
          platform.sha256Hex mirror.digest, .ok (.aware now)⟩ = .ok (checkpoint, after) ∧
      Rooted manifest events (mirrorDigest mirror) checkpoint := by
  have hle : (events.length : ℤ) ≤ maxSafeInteger := by
    rw [maxSafeInteger]
    omega
  obtain ⟨checkpoint, after, hok, -, hrooted⟩ :=
    exists_rooted manifest events hle (mirrorDigest mirror)
  rw [rootRequest, ← h.count, ← h.final] at hok
  exact ⟨checkpoint, after, hok, hrooted⟩

/-- The acknowledgement of the run, as the receipt's checks want it. -/
structure Ownable (manifest : Manifest platform) (status : RunStatus)
    (own : Option (KillAcknowledgement platform)) : Prop where
  status : status = .killed ↔ own.isSome = true
  bound : ∀ ack ∈ own, (ack.body.runId = manifest.body.runId ∧
    ack.body.manifestHash = manifest.manifestHash) ∧
    ack.body.supervisorKeyId = manifest.body.supervisorKey.keyId ∧
    ack.body.killAcknowledgedMonotonicNs.1 ≤ 2000
  simulated : ∀ ack ∈ own, ack.body.terminatedWorkloadIds.1 = []

theorem ownable_completed (manifest : Manifest platform) : Ownable manifest .completed none :=
  ⟨by simp, fun _ h => (by cases h), fun _ h => (by cases h)⟩

/-- The supervisor signs a receipt over countable counters. -/
theorem exists_countedReceipt (h : Agrees events mirror) (hroom : events.length < 1000)
    {checkpoint : WitnessCheckpoint platform}
    (hrooted : Rooted manifest events (mirrorDigest mirror) checkpoint) {state : RunState}
    (hstate : Countable state) {status : RunStatus} {own : Option (KillAcknowledgement platform)}
    (hown : Ownable manifest status own) :
    ∃ (body : ReceiptBody platform) (receipt : Receipt platform),
      Supervisor.receiptBody (deployment manifest) status state mirror (.aware now) 2000 own
        checkpoint = .ok body ∧
      Sealed.sign (receiptSealing platform) body keys.supervisor = .ok receipt ∧
      receipt.body.eventCount.1 = events.length ∧
      receipt.body.allowedRequestCount.1 = state.allowed ∧ receipt.body.status = status := by
  obtain ⟨hobserved, hadmitted, hdecided, hdenied, hdispatched, hcompleted, hrejected, hdropped,
    hrefused, hegress⟩ := hstate
  have hrange : 0 ≤ (mirror.count : ℤ) ∧ (mirror.count : ℤ) ≤ maxSafeInteger := by
    rw [h.count, maxSafeInteger]
    omega
  set fields : ReceiptBodyFields platform := {
    runId := manifest.body.runId
    manifestHash := manifest.manifestHash
    supervisorKeyId := manifest.body.supervisorKey.keyId
    supervisorInstanceId := ⟨"supervisor-instance:demo", by decide⟩
    status := status
    startedAt := timestamp now
    finishedAt := timestamp now
    startedMonotonicNs := count 1000 ⟨by decide, by decide⟩
    finishedMonotonicNs := count 2000 ⟨by decide, by decide⟩
    eventCount := count mirror.count hrange
    firstEventHash := mirror.firstHash
    finalEventHash := mirror.finalHash
    evidenceFileSha256 := mirrorDigest mirror
    observedRequestCount := count state.observed ⟨by omega, by omega⟩
    admittedRequestCount := count state.admitted ⟨by omega, by omega⟩
    allowedRequestCount := count state.allowed ⟨by omega, by omega⟩
    deniedRequestCount := count state.denied ⟨by omega, by omega⟩
    dispatchedRequestCount := count state.dispatched ⟨by omega, by omega⟩
    completedRequestCount := count state.completed ⟨by omega, by omega⟩
    rejectedOverloadCount := count state.rejectedOverload ⟨by omega, by omega⟩
    droppedAfterKillCount := count state.droppedAfterKill ⟨by omega, by omega⟩
    totalEgressBytes := count state.egressBytes hegress
    killAcknowledgement := own
    witnessCheckpoint := checkpoint } with hfields
  have hcoherent : fields.Coherent := by
    refine ⟨List.lt_irrefl _, (by decide : (1000 : ℤ) ≤ 2000), ?_, hadmitted, hdecided,
      hdispatched, hcompleted.2, hrefused, hown.status, ?_, hrooted.run, hrooted.manifestHash, ?_,
      hrooted.final.trans h.final.symm, hrooted.evidence⟩
    · simp only [fields, count, h.count, h.first, h.final]
      cases events using List.reverseRecOn with
      | nil => simp
      | append_singleton rest event =>
          refine .inr ⟨?_, by simp, by simp⟩
          rw [List.length_append, List.length_singleton]
          omega
    · intro ack hack
      simp only [ReceiptBodyFields.acknowledgementIsCoherent, bind_eq_ok, Unique.exists_iff,
        ensure_eq_ok]
      exact hown.bound ack hack
    · exact Subtype.ext (hrooted.count.trans (congrArg Nat.cast h.count).symm)
  have hok := fields.receiptIsCoherent_eq_ok.mpr hcoherent
  have htext := (fits_receiptBody_at lawful (x := ⟨fields, hok⟩) hown.simulated).canonicalJson
    (by decide) (by decide)
  obtain ⟨receipt, hsign, hbody, -⟩ := Sealed.exists_sign lawful
    (F := receiptSealing platform) htext keys.supervisor
  have hcount (name : String) (n : ℤ) (hn : 0 ≤ n ∧ n ≤ maxSafeInteger) :
      validate name (intRange 0 maxSafeInteger) n = .ok (count n hn) :=
    validate_of_ok (intRange_eq_ok.mpr hn)
  have hevidence : validate "evidence_file_sha256" sha256HexCheck
      (platform.sha256Hex mirror.digest) = .ok (mirrorDigest mirror) :=
    validate_of_ok (lawful.sha256Hex_check _)
  have hmade : ReceiptBody.make fields = .ok ⟨fields, hok⟩ := by
    rw [ReceiptBody.make, checked_of_ok hok]
    rfl
  refine ⟨⟨fields, hok⟩, receipt, ?_, hsign, ?_, ?_, ?_⟩
  · rw [Supervisor.receiptBody]
    dsimp only [deployment]
    rw [formatUtcTimestamp_now, except_ok_bind, except_ok_bind,
      hcount _ 1000 ⟨by decide, by decide⟩, except_ok_bind,
      hcount _ 2000 ⟨by decide, by decide⟩, except_ok_bind, hcount _ _ hrange, except_ok_bind,
      hevidence, except_ok_bind, hcount _ state.observed ⟨by omega, by omega⟩, except_ok_bind,
      hcount _ state.admitted ⟨by omega, by omega⟩, except_ok_bind,
      hcount _ state.allowed ⟨by omega, by omega⟩, except_ok_bind,
      hcount _ state.denied ⟨by omega, by omega⟩, except_ok_bind,
      hcount _ state.dispatched ⟨by omega, by omega⟩, except_ok_bind,
      hcount _ state.completed ⟨by omega, by omega⟩, except_ok_bind,
      hcount _ state.rejectedOverload ⟨by omega, by omega⟩, except_ok_bind,
      hcount _ state.droppedAfterKill ⟨by omega, by omega⟩, except_ok_bind,
      hcount _ state.egressBytes hegress, except_ok_bind]
    exact hmade
  · rw [hbody]
    exact congrArg Nat.cast h.count
  · rw [hbody]
    rfl
  · rw [hbody]

end Reference

end Containment
