/-
# Bundles on the reference platform

How to put an accepted bundle together. A `Chain` is a list of events that extend
each other, with their lines. It grows by any small payload. A receipt can be signed
for every chain and every account of it that is coherent, and what is then left to
check is what the inspecting generator makes of the events.
-/

import Containment.Auditor.Acceptance
import Containment.Reference.Factory
import Containment.Runtime.Payloads

namespace Containment

open Json

namespace Reference

theorem lawful : platform.Lawful := referencePlatform_lawful

theorem canonicalJson_eq_ok_of_fits {s : ℕ} {v : Json} (h : Fits platform 64 s v)
    (hs : s ≤ 100000) : canonicalJson platform v = .ok v.orderForJcs.text :=
  h.canonicalJson le_rfl hs

/-- A digest on this platform never is the start of a chain. -/
theorem sha256Hex_ne_genesis (message : Bytes) : platform.sha256Hex message ≠ genesisHash := by
  simp only [platform, referencePlatform]
  exact Sha256.hexDigest_ne_genesis message

theorem eventHash_ne_genesis (event : Event platform) : event.eventHash.1 ≠ genesisHash := by
  have h := event.coherent
  simp only [eventDigestMatches, bind_eq_ok, ensure_eq_ok] at h
  obtain ⟨expected, hexpected, heq⟩ := h
  rw [← heq]
  cases hhash : domainHash platform "EVENT-HASH" ((EventBody.codec platform).encode event.body) with
  | error error =>
      rw [hhash] at hexpected
      cases hexpected
  | ok digest =>
      rw [hhash] at hexpected
      obtain rfl : digest = expected := Except.ok.inj hexpected
      rw [domainHash, bind_eq_ok] at hhash
      obtain ⟨encoded, -, hdigest⟩ := hhash
      rw [← Except.ok.inj hdigest]
      exact sha256Hex_ne_genesis _

/-! ## Chains -/

variable {manifest : Manifest platform}


/-- Events of the reference run, each extending the one before, and their lines. -/
structure Chain (manifest : Manifest platform) (events : List (Event platform))
    (lines : List Bytes) : Prop where
  chained : Chained events
  bound : ∀ event ∈ events, event.body.runId = manifest.body.runId ∧
    event.body.manifestHash = manifest.manifestHash
  first : ∀ event, events[0]? = some event → event.body.previousEventHash.1 = genesisHash
  exported : List.Forall₂ (fun (event : Event platform) encoded =>
    event.canonicalBytes = .ok encoded) events lines

theorem chain_nil (manifest : Manifest platform) : Chain manifest [] [] where
  chained := ⟨fun _ _ h => (nomatch h), fun _ _ _ h => (nomatch h)⟩
  bound _ h := nomatch h
  first _ h := nomatch h
  exported := .nil

/-- What a new event has to bring. -/
structure Extension (events : List (Event platform)) (payload : Json) (monotonicNs : ℤ)
    (requestId : Option String) : Prop where
  fits : Fits platform 64 100000 payload
  room : (events.length : ℤ) ≤ maxSafeInteger
  clock : 0 ≤ monotonicNs ∧ monotonicNs ≤ maxSafeInteger
  later : ∀ previous, events.getLast? = some previous →
    previous.body.monotonicNs.1 ≤ monotonicNs
  request : ∀ id ∈ requestId, opaqueIdCheck id = .ok ()

theorem genesis_iff (events : List (Event platform)) :
    events.length = 0 ↔ (EvidenceLedger.previousHash events).1 = genesisHash := by
  rw [EvidenceLedger.previousHash, List.length_eq_zero_iff]
  constructor
  · rintro rfl
    rfl
  · intro h
    by_contra hne
    rw [List.getLast?_eq_some_getLast hne] at h
    exact eventHash_ne_genesis _ h

/-- One more event of any kind. -/
theorem exists_event {events : List (Event platform)} {payload : Json} {monotonicNs : ℤ}
    {requestId : Option String} (h : Extension events payload monotonicNs requestId)
    (kind : EventKind) (producer : OpaqueId) (observedAt : UtcTimestamp)
    (manifest : Manifest platform) :
    ∃ (event : Event platform) (encoded : Bytes), Event.create payload manifest.body.runId
        manifest.manifestHash events.length (EvidenceLedger.previousHash events) kind producer
        observedAt monotonicNs requestId = .ok event ∧ event.canonicalBytes = .ok encoded := by
  obtain ⟨event, hevent, encoded, hencoded⟩ := Event.exists_create lawful
    manifest.body.runId manifest.manifestHash kind producer observedAt
    ⟨h.fits, rfl, h.room, genesis_iff events, h.clock, h.request⟩
  exact ⟨event, encoded, hevent, hencoded⟩

theorem Chain.snoc {events : List (Event platform)} {lines : List Bytes} (h : Chain manifest events lines)
    {event : Event platform} {encoded : Bytes} (hencoded : event.canonicalBytes = .ok encoded)
    (hsequence : event.body.sequence.1 = events.length)
    (hprevious : event.body.previousEventHash = EvidenceLedger.previousHash events)
    (hbound : event.body.runId = manifest.body.runId ∧
      event.body.manifestHash = manifest.manifestHash)
    (hlater : ∀ previous, events.getLast? = some previous →
      previous.body.monotonicNs.1 ≤ event.body.monotonicNs.1) :
    Chain manifest (events ++ [event]) (lines ++ [encoded]) where
  chained := by
    refine h.chained.snoc hsequence fun previous hlast => ⟨?_, hlater previous hlast⟩
    rw [hprevious, EvidenceLedger.previousHash, hlast]
    rfl
  bound e he := by
    rcases List.mem_append.mp he with he | he
    · exact h.bound e he
    · rw [List.mem_singleton.mp he]
      exact hbound
  first e he := by
    rcases getElem?_snoc.mp he with he | ⟨hzero, rfl⟩
    · exact h.first e he
    · rw [hprevious]
      exact (genesis_iff events).mp hzero.symm
  exported := List.rel_append h.exported (.cons hencoded .nil)

/-- A chain with one more event of this kind and payload. -/
theorem Chain.extend {events : List (Event platform)} {lines : List Bytes} (h : Chain manifest events lines)
    {payload : Json} {monotonicNs : ℤ} {requestId : Option String}
    (hext : Extension events payload monotonicNs requestId) (kind : EventKind) :
    ∃ (event : Event platform) (encoded : Bytes), Chain manifest (events ++ [event]) (lines ++ [encoded]) ∧
      event.body.kind = kind ∧ event.body.requestId.map Subtype.val = requestId ∧
      event.body.sequence.1 = events.length ∧ event.body.monotonicNs.1 = monotonicNs ∧
      canonicalJson platform payload = .ok event.body.payloadCanonicalJson.1 := by
  obtain ⟨event, encoded, hcreate, hencoded⟩ :=
    exists_event hext kind ⟨"gateway-instance:demo", by decide⟩ (timestamp now) manifest
  obtain ⟨hpayload, hkind, hrequest, hsequence, hprevious, hrun, hmanifest, hclock⟩ :=
    Event.create_ok hcreate
  refine ⟨event, encoded, h.snoc hencoded hsequence hprevious ⟨hrun, hmanifest⟩ ?_, hkind, hrequest,
    hsequence, hclock, hpayload⟩
  rw [hclock]
  exact hext.later

/-! ## Receipts -/

/-- What a receipt says beyond the chain. -/
structure Account where
  status : RunStatus
  ack : Option (KillAcknowledgement platform)
  allowed : ℕ
  denied : ℕ
  dispatched : ℕ
  completed : ℕ

/-- An account that the receipt's own checks accept. -/
structure Account.Fair (manifest : Manifest platform) (account : Account)
    (events : List (Event platform)) : Prop where
  room : (events.length : ℤ) ≤ maxSafeInteger
  decided : (account.allowed + account.denied : ℤ) ≤ maxSafeInteger
  dispatched : account.dispatched ≤ account.allowed
  completed : account.completed ≤ account.dispatched
  status : account.status = .killed ↔ account.ack.isSome = true
  bound : ∀ ack ∈ account.ack, ack.body.runId = manifest.body.runId ∧
    ack.body.manifestHash = manifest.manifestHash ∧
    ack.body.supervisorKeyId = manifest.body.supervisorKey.keyId
  verified : ∀ ack ∈ account.ack, ack.verify manifest.body.supervisorKey = .ok ()
  latency : ∀ ack ∈ account.ack, ack.body.killLatencyNs.1 ≤
    manifest.body.killCriteria.supervisorKillLatencySlaMs.1 * 1000000
  simulated : ∀ ack ∈ account.ack, ack.body.terminatedWorkloadIds.1 = []
  trigger : ∀ ack ∈ account.ack,
    (events[ack.body.triggerEventSequence.1.toNat]?).map Event.eventHash =
      some ack.body.triggerEventHash

def count (n : ℤ) (h : 0 ≤ n ∧ n ≤ maxSafeInteger) : SafeNonNegativeInt :=
  ⟨n, intRange_eq_ok.mpr h⟩

/-- The octets of an evidence file. -/
def fileOctets (lines : List Bytes) : Bytes := ((lines.map exportLine).map Line.raw).flatten

def fileDigest (lines : List Bytes) : Sha256Hex :=
  ⟨platform.sha256Hex (fileOctets lines), lawful.sha256Hex_check _⟩

/-- The root of a list of events is one that a checkpoint takes. -/
theorem rootMatchesCount_of_events {fields : WitnessCheckpointBodyFields}
    {events : List (Event platform)} (hcount : fields.eventCount.1 = events.length)
    (hfinal : fields.finalEventHash = events.getLast?.map Event.eventHash) :
    fields.rootMatchesCount = .ok () := by
  rw [WitnessCheckpointBodyFields.rootMatchesCount, bind_unit_eq_ok, ensure_eq_ok, ensure_eq_ok,
    hcount, hfinal]
  cases events using List.reverseRecOn with
  | nil => simp
  | append_singleton rest event =>
      refine ⟨?_, fun hnone => by simp at hnone⟩
      rintro ⟨hzero, -⟩
      rw [List.length_append, List.length_singleton] at hzero
      omega

/-- What a checkpoint says of a list of events whose file has the digest. -/
structure Rooted (manifest : Manifest platform) (events : List (Event platform))
    (digest : Sha256Hex) (checkpoint : WitnessCheckpoint platform) : Prop where
  run : checkpoint.body.runId = manifest.body.runId
  manifestHash : checkpoint.body.manifestHash = manifest.manifestHash
  count : checkpoint.body.eventCount.1 = events.length
  final : checkpoint.body.finalEventHash = events.getLast?.map Event.eventHash
  evidence : checkpoint.body.evidenceFileSha256 = digest

theorem formatUtcTimestamp_now : formatUtcTimestamp (.aware now) = .ok (timestamp now) := rfl

/-- What the witness is asked for the root of these events. -/
def rootRequest (manifest : Manifest platform) (events : List (Event platform))
    (digest : Sha256Hex) : TransparencyWitness.Request platform :=
  ⟨manifest, events.length, (events.getLast?.map Event.eventHash).map Subtype.val, digest.1,
    .ok (.aware now)⟩

/-- A witness that has issued nothing signs the root. -/
theorem exists_rooted (manifest : Manifest platform) (events : List (Event platform))
    (hroom : (events.length : ℤ) ≤ maxSafeInteger) (digest : Sha256Hex) :
    ∃ checkpoint after, TransparencyWitness.checkpoint Reference.witness
        (rootRequest manifest events digest) = .ok (checkpoint, after) ∧
      checkpoint.verify manifestBody.witnessKey = .ok () ∧
      Rooted manifest events digest checkpoint := by
  have hrange : 0 ≤ (events.length : ℤ) ∧ (events.length : ℤ) ≤ maxSafeInteger :=
    ⟨Int.natCast_nonneg _, hroom⟩
  have hcoherent : WitnessCheckpointBodyFields.rootMatchesCount
      ⟨manifest.body.runId, manifest.manifestHash, manifestBody.witnessKey.keyId, timestamp now,
        count events.length hrange, events.getLast?.map Event.eventHash, digest⟩ = .ok () :=
    rootMatchesCount_of_events rfl rfl
  have htext := (fits_checkpointBody lawful ⟨_, hcoherent⟩).canonicalJson (by decide) (by decide)
  obtain ⟨checkpoint, hsign, hbody, hverify⟩ := Sealed.exists_sign lawful
    (F := witnessCheckpointSealing) htext keys.witness
  have hcount : validate "event_count" (intRange 0 maxSafeInteger) (events.length : ℤ) =
      .ok (count events.length hrange) := validate_of_ok (intRange_eq_ok.mpr hrange)
  have hfinal : validateOption "final_event_hash" sha256HexCheck
      ((events.getLast?.map Event.eventHash).map Subtype.val) =
        .ok (events.getLast?.map Event.eventHash) := by
    cases events.getLast?.map Event.eventHash with
    | none => rfl
    | some hash =>
        rw [Option.map_some, validateOption, validate_of_ok hash.2]
        rfl
  have hevidence : validate "evidence_file_sha256" sha256HexCheck digest.1 = .ok digest :=
    validate_of_ok digest.2
  have hmade : WitnessCheckpointBody.make ⟨manifest.body.runId, manifest.manifestHash,
      manifestBody.witnessKey.keyId, timestamp now, count events.length hrange,
      events.getLast?.map Event.eventHash, digest⟩ = .ok ⟨_, hcoherent⟩ := by
    rw [WitnessCheckpointBody.make, checked_of_ok hcoherent]
    rfl
  obtain ⟨after, hok⟩ : ∃ after, TransparencyWitness.checkpoint Reference.witness
      (rootRequest manifest events digest) = .ok (checkpoint, after) := by
    rw [TransparencyWitness.checkpoint, rootRequest]
    dsimp only
    rw [except_ok_bind, formatUtcTimestamp_now, except_ok_bind, hcount, except_ok_bind, hfinal,
      except_ok_bind, hevidence, except_ok_bind]
    dsimp only [Reference.witness]
    rw [hmade, except_ok_bind, hsign, except_ok_bind]
    exact ⟨_, rfl⟩
  refine ⟨checkpoint, after, hok, hverify _ rfl (asBytes_publicKey _ _), ?_⟩
  constructor <;> rw [hbody]
  rfl

/-- The checkpoint is one that the witness has issued. -/
theorem mem_issued_of_rooted {events : List (Event platform)} {digest : Sha256Hex}
    {checkpoint : WitnessCheckpoint platform} {after : TransparencyWitness platform}
    (h : TransparencyWitness.checkpoint Reference.witness (rootRequest manifest events digest) =
      .ok (checkpoint, after)) :
    checkpoint ∈ Reference.witness.issued [rootRequest manifest events digest] := by
  rw [TransparencyWitness.issued, h]
  exact List.mem_cons_self

/-- The supervisor can sign a receipt over a checkpoint of the chain, for any fair account and any
time that is not before the acknowledgement. -/
theorem exists_receipt_of_rooted (hm : manifest.body = manifestBody)
    {events : List (Event platform)} {lines : List Bytes} (h : Chain manifest events lines)
    {account : Account} (hfair : Account.Fair manifest account events)
    {checkpoint : WitnessCheckpoint platform}
    (hcheckpoint : checkpoint.verify manifestBody.witnessKey = .ok ())
    (hrooted : Rooted manifest events (fileDigest lines) checkpoint) (finished : SafeNonNegativeInt)
    (hfinished : ∀ ack ∈ account.ack, ack.body.killAcknowledgedMonotonicNs.1 ≤ finished.1) :
    ∃ receipt : Receipt platform, Recounts manifest receipt events lines ∧
      receipt.body.finishedMonotonicNs = finished ∧ receipt.body.witnessCheckpoint = checkpoint ∧
      receipt.body.status = account.status ∧ receipt.body.killAcknowledgement = account.ack ∧
      receipt.body.allowedRequestCount.1 = account.allowed ∧
      receipt.body.deniedRequestCount.1 = account.denied ∧
      receipt.body.dispatchedRequestCount.1 = account.dispatched ∧
      receipt.body.completedRequestCount.1 = account.completed := by
  obtain ⟨hrun, hmanifest, hcount, hfinal, hevidence⟩ := hrooted
  have hdispatched := hfair.dispatched
  have hcompleted := hfair.completed
  have hdecided := hfair.decided
  set fields : ReceiptBodyFields platform := {
    runId := manifest.body.runId
    manifestHash := manifest.manifestHash
    supervisorKeyId := manifest.body.supervisorKey.keyId
    supervisorInstanceId := ⟨"supervisor-instance:demo", by decide⟩
    status := account.status
    startedAt := timestamp now
    finishedAt := timestamp now
    startedMonotonicNs := count 0 ⟨le_rfl, by decide⟩
    finishedMonotonicNs := finished
    eventCount := count events.length ⟨Int.natCast_nonneg _, hfair.room⟩
    firstEventHash := events[0]?.map Event.eventHash
    finalEventHash := events.getLast?.map Event.eventHash
    evidenceFileSha256 := fileDigest lines
    observedRequestCount := count (account.allowed + account.denied) ⟨by omega, hdecided⟩
    admittedRequestCount := count (account.allowed + account.denied) ⟨by omega, hdecided⟩
    allowedRequestCount := count account.allowed ⟨by omega, by omega⟩
    deniedRequestCount := count account.denied ⟨by omega, by omega⟩
    dispatchedRequestCount := count account.dispatched ⟨by omega, by omega⟩
    completedRequestCount := count account.completed ⟨by omega, by omega⟩
    rejectedOverloadCount := count 0 ⟨le_rfl, by decide⟩
    droppedAfterKillCount := count 0 ⟨le_rfl, by decide⟩
    totalEgressBytes := count 0 ⟨le_rfl, by decide⟩
    killAcknowledgement := account.ack
    witnessCheckpoint := checkpoint } with hfields
  have hcoherent : fields.Coherent := by
    refine ⟨?_, ?_, ?_, le_rfl, le_rfl, ?_, ?_, ?_, hfair.status, ?_, hrun, hmanifest,
      Subtype.ext hcount, hfinal, hevidence⟩
    · exact List.lt_irrefl _
    · exact finished.le
    · cases events using List.reverseRecOn with
      | nil => exact .inl ⟨rfl, rfl, rfl⟩
      | append_singleton rest event =>
          refine .inr ⟨?_, ?_, ?_⟩
          · simp only [fields, count, List.length_append, List.length_singleton]
            omega
          · cases rest <;> simp [fields]
          · simp [fields]
    · exact Int.ofNat_le.mpr hdispatched
    · exact Int.ofNat_le.mpr hcompleted
    · exact (show (0 : ℤ) + 0 ≤ account.allowed + account.denied by omega)
    · intro ack hack
      obtain ⟨hackRun, hackManifest, hackKey⟩ := hfair.bound ack hack
      simp only [ReceiptBodyFields.acknowledgementIsCoherent, bind_eq_ok, Unique.exists_iff,
        ensure_eq_ok]
      exact ⟨⟨hackRun, hackManifest⟩, hackKey, hfinished ack hack⟩
  have hok := fields.receiptIsCoherent_eq_ok.mpr hcoherent
  have htext := (fits_receiptBody_at lawful (x := ⟨fields, hok⟩) hfair.simulated).canonicalJson
    (by decide) (by decide)
  obtain ⟨receipt, -, hbody, hverify⟩ := Sealed.exists_sign lawful
    (F := receiptSealing platform) htext keys.supervisor
  refine ⟨receipt, ?_, ?_⟩
  · constructor
    · refine hverify _ rfl ?_
      rw [hm]
      exact asBytes_publicKey _ _
    · rw [hbody]
    · rw [hbody]
    · rw [hbody]
    · rw [hbody, hm]
      exact hcheckpoint
    · exact h.chained
    · rw [hbody]
      exact h.bound
    · intro event hevent
      refine ⟨h.first event hevent, ?_⟩
      rw [hbody]
      exact (congrArg (Option.map Event.eventHash) hevent).symm
    · intro event hevent
      rw [hbody]
      exact (congrArg (Option.map Event.eventHash) hevent).symm
    · rw [hbody]
      rfl
    · exact h.exported
    · rw [hbody]
      rfl
    · intro ack hack
      rw [hbody] at hack
      refine ⟨hfair.verified ack hack, hfair.latency ack hack, ?_⟩
      rw [triggerOf, hbody]
      exact (congrArg (Option.bind · _) hack).trans (hfair.trigger ack hack)
  · rw [hbody]
    exact ⟨rfl, rfl, rfl, rfl, rfl, rfl, rfl, rfl⟩

/-- A receipt for any fair account. -/
theorem exists_receipt (hm : manifest.body = manifestBody) {events : List (Event platform)}
    {lines : List Bytes} (h : Chain manifest events lines) {account : Account}
    (hfair : Account.Fair manifest account events) :
    ∃ receipt : Receipt platform, Recounts manifest receipt events lines ∧
      receipt.body.status = account.status ∧ receipt.body.killAcknowledgement = account.ack ∧
      receipt.body.allowedRequestCount.1 = account.allowed ∧
      receipt.body.deniedRequestCount.1 = account.denied ∧
      receipt.body.dispatchedRequestCount.1 = account.dispatched ∧
      receipt.body.completedRequestCount.1 = account.completed := by
  obtain ⟨checkpoint, -, -, hcheckpoint, hrooted⟩ :=
    exists_rooted manifest events hfair.room (fileDigest lines)
  obtain ⟨receipt, hrecounts, -, -, hrest⟩ := exists_receipt_of_rooted hm h hfair hcheckpoint
    hrooted (count maxSafeInteger ⟨by decide, le_rfl⟩)
    fun ack _ => ack.body.killAcknowledgedMonotonicNs.le_high
  exact ⟨receipt, hrecounts, hrest⟩

/-! ## A violation -/

theorem fits_reasonPayload {reasonCode : String} (h : opaqueIdCheck reasonCode = .ok ()) :
    Fits platform 64 1000 (Supervisor.reasonPayload reasonCode) := by
  have hreason : Fits platform 63 _ (Codecs.opaqueId.encode ⟨reasonCode, h⟩) :=
    fits_opaqueId lawful 63 ⟨reasonCode, h⟩
  have hfields := fieldsFit_singleton lawful (show IsAscii "reason_code" by decide) hreason
  exact (hfields.obj (by simp)).mono le_rfl (by decide)

/-- A chain that is one violation, and what the generator makes of it. -/
theorem exists_violation (manifest : Manifest platform) (monotonicNs : SafeNonNegativeInt) :
    ∃ (event : Event platform) (encoded : Bytes), Chain manifest [event] [encoded] ∧
      event.body.kind = .violation ∧ event.body.sequence.1 = 0 ∧
      event.body.monotonicNs.1 = monotonicNs.1 ∧
      ∀ receipt : Receipt platform, inspectAll manifest receipt .start [event] = .ok
        { Inspection.start.logged event with killBarrier := some event.body.sequence.1 }.counted := by
  have hreason : opaqueIdCheck "operator.injected" = .ok () := by decide
  have hextension : Extension [] (Supervisor.reasonPayload "operator.injected") monotonicNs.1 none :=
    ⟨(fits_reasonPayload hreason).mono le_rfl (by decide), by decide,
      ⟨monotonicNs.le, monotonicNs.le_high⟩, fun _ h => (nomatch h), fun _ h => (nomatch h)⟩
  obtain ⟨event, encoded, hchain, hkind, -, hsequence, hclock, htext⟩ :=
    (chain_nil manifest).extend hextension .violation
  obtain ⟨x, hdecode⟩ := decode_reasonPayload hreason
  have hpayload := modelValidateJson_of_decode htext hdecode
  have hzero : event.body.sequence.1 = 0 := hsequence
  refine ⟨event, encoded, hchain, hkind, hzero, hclock, fun receipt => ?_⟩
  have hturn : Inspection.start.inspectEvent manifest receipt event = .ok
      { Inspection.start.logged event with killBarrier := some event.body.sequence.1 }.counted :=
    Inspection.inspectEvent_of_violation hkind hpayload
  exact inspectAll_cons.mpr ⟨_, hturn, rfl⟩

/-- Such a bundle for any operator key under which the manifest verifies. -/
theorem exists_accepted_violation (hm : manifest.body = manifestBody) {key : Ed25519PublicKey}
    (hkey : key.keyId = manifest.body.operatorKeyId)
    (hverified : manifest.verify key.asBytes = .ok ()) :
    ∃ (receipt : Receipt platform) (lines : List Line) (event : Event platform)
      (report : VerificationReport), verifyBundle manifest receipt lines key = .ok report ∧
      iterCanonicalJsonl platform 0 lines = .ok [event] ∧ event.body.kind = .violation ∧
      receipt.body.status = .completed ∧ receipt.body.killAcknowledgement = none ∧
      receipt.body.manifestHash = manifest.manifestHash := by
  obtain ⟨event, encoded, hchain, hkind, -, -, hinspect⟩ := exists_violation manifest ⟨0, by decide⟩
  have hfair : Account.Fair manifest ⟨.completed, none, 0, 0, 0, 0⟩ [event] :=
    ⟨by rw [List.length_singleton]; decide, by decide, le_rfl, le_rfl, by simp,
      fun _ h => (nomatch h), fun _ h => (nomatch h), fun _ h => (nomatch h),
      fun _ h => (nomatch h), fun _ h => (nomatch h)⟩
  obtain ⟨receipt, hrecounts, hstatus, hack, hallowed, hdenied, hdispatched, hcompleted⟩ :=
    exists_receipt hm hchain hfair
  obtain ⟨report, hreport, -⟩ := verifyBundle_of_recounts hkey hverified hrecounts
    (hinspect receipt) (Inspection.close_of_incomplete (fun _ h => nomatch h) rfl)
    ⟨by rw [hrecounts.count]; rfl, hallowed.symm, hdenied.symm, hdispatched.symm,
      hcompleted.symm, by rw [hack]; rfl⟩
  exact ⟨receipt, _, event, report, hreport,
    iterCanonicalJsonl_exportLine 0 hchain.exported, hkind, hstatus, hack, hrecounts.manifestHash⟩

/-- An accepted bundle whose only event is a violation, with the receipt of a completed run. -/
theorem exists_completed_violation :
    ∃ (manifest : Manifest platform) (receipt : Receipt platform) (lines : List Line)
      (event : Event platform) (report : VerificationReport),
      verifyBundle manifest receipt lines operatorKey = .ok report ∧
      iterCanonicalJsonl platform 0 lines = .ok [event] ∧ event.body.kind = .violation ∧
      receipt.body.status = .completed ∧ receipt.body.killAcknowledgement = none ∧
      receipt.body.manifestHash = manifest.manifestHash := by
  obtain ⟨manifest, hm⟩ := exists_signed
  exact ⟨manifest, exists_accepted_violation hm.body hm.operator_keyId hm.verified⟩

end Reference

end Containment
