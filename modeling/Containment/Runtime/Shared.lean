/-
# The state all threads share

Every component of the reference runtime in one record, with the locks that a
thread may hold while another one runs. `Op` lists the critical sections of the
components and `exec` runs one of them. A section that needs a lock held by
another thread is blocked.

`begin_authorized` and `finish_authorized` keep the state lock while they commit
evidence, so each of them is three sections and the lock is visible in between.
The supervisor's containment lock and receipt lock span whole methods. All other
locks protect one section and leave no trace here.

The `History` is what an observer of the run would write down. No section reads
it.
-/

import Containment.Runtime.Evidence
import Containment.Runtime.Policy
import Containment.Runtime.State
import Containment.Runtime.Witness
import Containment.Concurrency.Interleaving

namespace Containment

open Json Concurrency

variable {P : Platform}

/-! ## Small components -/

/-- Facts returned by the isolation backend, never inferred by the supervisor. -/
structure IsolationResult where
  terminationMode : TerminationMode
  terminatedWorkloadIds : List String
  inflightCancelled : ℤ
  networkIsolationConfirmed : Bool
  isolationEvidenceSha256 : Option String

/-- Cancellation handles: whether the event of a registered authorization is set. -/
abbrev InflightRegistry : Type := AList fun _ : String => Bool

namespace InflightRegistry

def register (registry : InflightRegistry) (authorizationId : String) :
    Except PyError InflightRegistry :=
  if authorizationId ∈ registry then
    .error (.runtimeError "inflight authorization is already registered")
  else .ok (registry.insert authorizationId false)

def unregister (registry : InflightRegistry) (authorizationId : String) : InflightRegistry :=
  registry.erase authorizationId

/-- Set every event, and count them. -/
def signalAll (registry : InflightRegistry) : InflightRegistry × ℕ :=
  (⟨registry.entries.map fun entry => ⟨entry.1, true⟩, by
      have hkeys : (registry.entries.map fun entry => (⟨entry.1, true⟩ : Σ _ : String, Bool)).keys =
          registry.entries.keys := by simp [List.keys, Function.comp_def]
      rw [List.NodupKeys, hkeys]
      exact registry.nodupKeys⟩,
    registry.entries.length)

end InflightRegistry

/-- `CredentialBroker.release`, over the broker's secret store. -/
def releaseCredential (secrets : String → Option Bytes) (manifest : Manifest P)
    (action : Action P) : Except PyError (Option Bytes) :=
  match action.credentialId with
  | none => .ok none
  | some credentialId =>
      match manifest.body.credentials.1.find? fun item => item.credentialId = credentialId with
      | none => .error (.permissionError "credential is not releasable for this action")
      | some grant =>
          if grant.isCanary ∨ grant.audience.1 ≠ action.host.1 then
            .error (.permissionError "credential is not releasable for this action")
          else
            match secrets grant.brokerRef.1 with
            | none => .error (.permissionError "credential broker reference is unavailable")
            | some secret => .ok (some secret)

/-- What `build_reference_runtime` wires together and nothing changes. -/
structure Deployment (P : Platform) where
  manifest : Manifest P
  gatewayKey : Bytes
  supervisorKey : Bytes
  gatewayInstanceId : OpaqueId
  supervisorInstanceId : OpaqueId
  producerInstanceId : OpaqueId
  maxEvents : ℕ
  authorizationTtlNs : ℤ
  secrets : String → Option Bytes
  startedAt : Datetime
  startedMonotonicNs : ℤ

def Deployment.ledgerConfig (d : Deployment P) : LedgerConfig P :=
  ⟨d.manifest, d.producerInstanceId, d.maxEvents⟩

/-- What the outside world answers to one operation. The fault is an exception of
the commit queue, of the write-ahead log or of the credential store. -/
structure World extends Clocks where
  fault : Option PyError
  token : String
  isolation : Except PyError IsolationResult
  transport : Except PyError TransportResult

/-! ## The acknowledgement -/

/-- What a containment has collected when it builds its acknowledgement. -/
structure KillRequest (P : Platform) where
  trigger : Event P
  triggerMonotonicNs : ℤ
  requestedAt : Datetime
  requestedNs : ℤ
  acknowledgedAt : Datetime
  acknowledgedNs : ℤ
  isolation : IsolationResult
  inflight : ℤ
  cancellationSignals : ℕ

/-- `tuple(sorted(set(values)))`. -/
def sortedSet (values : List String) : List String :=
  (values.mergeSort fun s t => !decide (textLt t s)).dedup

/-- The body of the acknowledgement, as its constructor checks it. -/
def KillRequest.body (d : Deployment P) (r : KillRequest P) :
    Except PyError KillAcknowledgementBody := do
  let triggerNs ← validate "trigger_monotonic_ns" (intRange 0 maxSafeInteger) r.triggerMonotonicNs
  let requestedAt ← formatUtcTimestamp r.requestedAt
  let requestedNs ← validate "kill_requested_monotonic_ns" (intRange 0 maxSafeInteger)
    r.requestedNs
  let acknowledgedAt ← formatUtcTimestamp r.acknowledgedAt
  let acknowledgedNs ← validate "kill_acknowledged_monotonic_ns" (intRange 0 maxSafeInteger)
    r.acknowledgedNs
  let latency ← validate "kill_latency_ns" (intRange 0 maxSafeInteger)
    (r.acknowledgedNs - r.triggerMonotonicNs)
  let workloads ← (sortedSet r.isolation.terminatedWorkloadIds).mapM
    (validate "terminated_workload_ids" opaqueIdCheck)
  let workloads ← validate "terminated_workload_ids"
    (stringListCheck "terminated workload IDs") workloads
  let inflight ← validate "inflight_at_trigger" (intRange 0 maxSafeInteger) r.inflight
  let signalled ← validate "inflight_cancel_signalled" (intRange 0 maxSafeInteger)
    (min (r.cancellationSignals : ℤ) r.inflight)
  let cancelled ← validate "inflight_cancelled" (intRange 0 maxSafeInteger)
    r.isolation.inflightCancelled
  let evidence ← validateOption "isolation_evidence_sha256" sha256HexCheck
    r.isolation.isolationEvidenceSha256
  KillAcknowledgementBody.make {
    runId := d.manifest.body.runId
    manifestHash := d.manifest.manifestHash
    supervisorKeyId := d.manifest.body.supervisorKey.keyId
    supervisorInstanceId := d.supervisorInstanceId
    triggerEventSequence := r.trigger.body.sequence
    triggerEventHash := r.trigger.eventHash
    triggerMonotonicNs := triggerNs
    killRequestedAt := requestedAt
    killRequestedMonotonicNs := requestedNs
    killAcknowledgedAt := acknowledgedAt
    killAcknowledgedMonotonicNs := acknowledgedNs
    killLatencyNs := latency
    terminationMode := r.isolation.terminationMode
    terminatedWorkloadIds := workloads
    inflightAtTrigger := inflight
    inflightCancelSignalled := signalled
    inflightCancelled := cancelled
    networkIsolationConfirmed := r.isolation.networkIsolationConfirmed
    isolationEvidenceSha256 := evidence }

def KillRequest.acknowledgement (d : Deployment P) (r : KillRequest P) :
    Except PyError (KillAcknowledgement P) := do
  Sealed.sign killAcknowledgementSealing (← r.body d) d.supervisorKey

/-! ## The shared state -/

/-- One line of the observer's record. -/
inductive Entry (P : Platform)
  /-- An event entered the ledger: whether it was mirrored too, and the phase and
  kill epoch at that moment. -/
  | committed (event : Event P) (mirrored : Bool) (phase : RunPhase) (epoch : ℤ)
  /-- The broker was asked for the credential of an action. -/
  | released (action : Action P)
  /-- The transport was started under an authorization. -/
  | transported (action : Action P) (authorizationId : OpaqueId)

structure History (P : Platform) where
  log : List (Entry P)
  /-- Decisions the gateway has returned. -/
  issued : List (Decision P)
  /-- Values `secrets.token_hex` has returned. -/
  tokens : List String
  /-- The thread that consumed an authorization. -/
  owner : AList fun _ : String => ℕ
  /-- Active leases that were dropped without a result. -/
  dropped : ℕ
  /-- The value of `dropped` when the current holder of the containment lock last
  latched. -/
  droppedAtLatch : ℕ

def History.empty : History P := ⟨[], [], [], ∅, 0, 0⟩

/-- A latch, possibly by the holder of the containment lock. -/
def History.latched (h : History P) (byContainment : Bool) : History P :=
  { h with droppedAtLatch := if byContainment then h.dropped else h.droppedAtLatch }

structure Runtime (P : Platform) where
  state : RunState
  stateLock : Option ℕ
  policy : PolicyEngine
  ledger : EvidenceLedger P
  mirror : EvidenceMirror
  inflight : InflightRegistry
  witness : TransparencyWitness P
  containLock : Option ℕ
  killAcknowledgement : Option (KillAcknowledgement P)
  emergencyFailure : Bool
  /-- What the isolation backend returned, once it has. -/
  isolationResult : Option IsolationResult
  receiptLock : Option ℕ
  receipt : Option (Receipt P)
  history : History P

namespace Runtime

/-- A runtime before its first call. -/
def init (d : Deployment P) (witness : TransparencyWitness P) : Runtime P where
  state := .init d.manifest.body.killCriteria
  stateLock := none
  policy := .empty
  ledger := ⟨[], false⟩
  mirror := .empty
  inflight := ∅
  witness := witness
  containLock := none
  killAcknowledgement := none
  emergencyFailure := false
  isolationResult := none
  receiptLock := none
  receipt := none
  history := .empty

/-- Write one line into the record. -/
def note (s : Runtime P) (entry : Entry P) : Runtime P :=
  { s with history := { s.history with log := s.history.log ++ [entry] } }

/-- A section of the run state that takes and releases the state lock. -/
def onState {α : Type} (s : Runtime P) (section_ : RunState → RunState × α) :
    Option (Runtime P × α) :=
  if s.stateLock = none then
    some ({ s with state := (section_ s.state).1 }, (section_ s.state).2)
  else none

/-- `ledger.commit` with the supervisor as its observer. -/
def commit (d : Deployment P) (env : World) (s : Runtime P) (kind : EventKind) (payload : Json)
    (requestId : Option String) (monotonicNs : Option ℤ) :
    Runtime P × Except PyError (Event P) :=
  match s.ledger.append d.ledgerConfig env.toClocks kind payload requestId monotonicNs
      env.fault with
  | .error error => (s, .error error)
  | .ok event =>
      let appended := { s with ledger := { s.ledger with events := s.ledger.events ++ [event] } }
      match s.mirror.observe d.manifest event with
      | .error error =>
          (appended.note (.committed event false s.state.phase s.state.killEpoch), .error error)
      | .ok mirror =>
          ({ appended with mirror := mirror }.note
            (.committed event true s.state.phase s.state.killEpoch), .ok event)

end Runtime

/-! ## Operations -/

inductive Op (P : Platform)
  | monotonicClock
  | wallClock
  | tokenHex
  -- the run state
  | admitRaw (rawBytes nowNs : ℤ)
  | latchKill
  | currentEpoch
  | recordDecision (verdict : Verdict)
  | snapshot
  | reserve (body : DecisionBody) (nowNs reserveEgressBytes : ℤ)
  | confirm
  | rollback (lease : DispatchLease)
  | prepareFinish (lease : DispatchLease) (egressBytes : ℤ)
  | settle (lease : DispatchLease) (reserved egressBytes : ℤ)
  | failFinish
  | abort (lease : DispatchLease)
  | markKilled
  | markCompleted
  -- policy, evidence and transport
  | authorize (action : Action P) (now : UtcTimestamp)
  | commit (kind : EventKind) (payload : Json) (requestId : Option String)
      (monotonicNs : Option ℤ)
  | events
  | register (authorizationId : OpaqueId)
  | unregister (authorizationId : OpaqueId)
  | signalAll
  | isSet (authorizationId : OpaqueId)
  | release (action : Action P)
  | transport (action : Action P) (secret : Option Bytes) (maxResponseBytes : ℤ)
      (authorizationId : OpaqueId)
  -- the supervisor
  | acquireContain
  | releaseContain
  | readAcknowledgement
  | isolate
  | acknowledge (request : KillRequest P)
  | dropAcknowledgement
  | raiseEmergency
  | acquireReceipt
  | releaseReceipt
  | readReceipt
  | readEmergency
  | seal
  | mirrorSnapshot
  | checkpoint (eventCount : ℕ) (finalHash : Option Sha256Hex) (evidenceFileSha256 : String)
  | storeReceipt (receipt : Receipt P)

/-- What an operation hands back to its thread. -/
@[reducible]
def Op.Res : Op P → Type
  | .monotonicClock => Except PyError ℤ
  | .wallClock => Except PyError Datetime
  | .tokenHex => String
  | .admitRaw _ _ => Admission
  | .latchKill => Bool × ℤ × ℤ
  | .currentEpoch => ℤ
  | .recordDecision _ => Unit
  | .snapshot => RunState
  | .reserve _ _ _ => Except PyError DispatchLease
  | .confirm => Unit
  | .rollback _ => Unit
  | .prepareFinish _ _ => Except PyError ℤ
  | .settle _ _ _ => Unit
  | .failFinish => Unit
  | .abort _ => Unit
  | .markKilled => Except PyError Unit
  | .markCompleted => Except PyError Unit
  | .authorize _ _ => PolicyResult
  | .commit _ _ _ _ => Except PyError (Event P)
  | .events => List (Event P)
  | .register _ => Except PyError Unit
  | .unregister _ => Unit
  | .signalAll => ℕ
  | .isSet _ => Bool
  | .release _ => Except PyError (Option Bytes)
  | .transport _ _ _ _ => Except PyError TransportResult
  | .acquireContain => Unit
  | .releaseContain => Unit
  | .readAcknowledgement => Option (KillAcknowledgement P)
  | .isolate => Except PyError IsolationResult
  | .acknowledge _ => Except PyError (KillAcknowledgement P)
  | .dropAcknowledgement => Unit
  | .raiseEmergency => Unit
  | .acquireReceipt => Unit
  | .releaseReceipt => Unit
  | .readReceipt => Option (Receipt P)
  | .readEmergency => Bool
  | .seal => Unit
  | .mirrorSnapshot => EvidenceMirror
  | .checkpoint _ _ _ => Except PyError (WitnessCheckpoint P)
  | .storeReceipt _ => Unit

/-- Run one operation of thread `t`. -/
@[irreducible]
def exec (d : Deployment P) (env : World) (t : ℕ) (s : Runtime P) :
    (op : Op P) → Option (Runtime P × op.Res)
  | .monotonicClock => some (s, env.monotonicClock)
  | .wallClock => some (s, env.wallClock)
  | .tokenHex =>
      some ({ s with history := { s.history with tokens := s.history.tokens ++ [env.token] } },
        env.token)
  | .admitRaw rawBytes nowNs => s.onState fun state => state.admitRaw rawBytes nowNs
  | .latchKill =>
      if s.stateLock = none then
        some ({ s with
          state := s.state.latchKill.1
          history := s.history.latched (s.containLock = some t) }, s.state.latchKill.2)
      else none
  | .currentEpoch => s.onState fun state => (state, state.killEpoch)
  | .recordDecision verdict => s.onState fun state => (state.recordDecision verdict, ())
  | .snapshot => s.onState fun state => (state, state)
  | .reserve body nowNs bytes =>
      if s.stateLock = none then
        match s.state.reserve body nowNs bytes with
        | (state, .error error) => some ({ s with state := state }, .error error)
        | (state, .ok lease) =>
            some ({ s with
              state := state
              stateLock := some t
              history := { s.history with
                owner := s.history.owner.insert lease.authorizationId t } }, .ok lease)
      else none
  | .confirm => if s.stateLock = some t then some ({ s with stateLock := none }, ()) else none
  | .rollback lease =>
      if s.stateLock = some t then
        some ({ s with state := s.state.rollback lease, stateLock := none }, ())
      else none
  | .prepareFinish lease egressBytes =>
      if s.stateLock = none then
        match s.state.prepareFinish lease egressBytes with
        | (state, .error error) => some ({ s with state := state }, .error error)
        | (state, .ok reserved) =>
            some ({ s with state := state, stateLock := some t }, .ok reserved)
      else none
  | .settle lease reserved egressBytes =>
      if s.stateLock = some t then
        some ({ s with
          state := s.state.settle lease reserved egressBytes
          stateLock := none }, ())
      else none
  | .failFinish =>
      if s.stateLock = some t then
        some ({ s with state := s.state.latchKillLocked, stateLock := none }, ())
      else none
  | .abort lease =>
      if s.stateLock = none then
        some ({ s with
          state := s.state.abortAuthorized lease
          history := { s.history with
            dropped := s.history.dropped +
              (s.state.activeAuthorizations.lookup lease.authorizationId).toList.length } }, ())
      else none
  | .markKilled => s.onState RunState.markKilled
  | .markCompleted => s.onState RunState.markCompleted
  | .authorize action now =>
      let charged := PolicyEngine.authorize d.manifest s.policy action now
      some ({ s with policy := charged.1 }, charged.2)
  | .commit kind payload requestId monotonicNs =>
      some (s.commit d env kind payload requestId monotonicNs)
  | .events => some (s, s.ledger.events)
  | .register authorizationId =>
      match s.inflight.register authorizationId.1 with
      | .error error => some (s, .error error)
      | .ok registry => some ({ s with inflight := registry }, .ok ())
  | .unregister authorizationId =>
      some ({ s with inflight := s.inflight.unregister authorizationId.1 }, ())
  | .signalAll => some ({ s with inflight := s.inflight.signalAll.1 }, s.inflight.signalAll.2)
  | .isSet authorizationId =>
      some (s, (decide (s.inflight.lookup authorizationId.1 = some true) : Bool))
  | .release action =>
      some (s.note (.released action),
        env.fault.elim (releaseCredential d.secrets d.manifest action) .error)
  | .transport action _ _ authorizationId =>
      some (s.note (.transported action authorizationId), env.transport)
  | .acquireContain =>
      if s.containLock = none then some ({ s with containLock := some t }, ()) else none
  | .releaseContain =>
      if s.containLock = some t then some ({ s with containLock := none }, ()) else none
  | .readAcknowledgement => some (s, s.killAcknowledgement)
  | .isolate =>
      match s.isolationResult with
      | some result => some (s, .ok result)
      | none =>
          match env.isolation with
          | .error error => some (s, .error error)
          | .ok result => some ({ s with isolationResult := some result }, .ok result)
  | .acknowledge request =>
      match request.acknowledgement d with
      | .error error => some (s, .error error)
      | .ok ack => some ({ s with killAcknowledgement := some ack }, .ok ack)
  | .dropAcknowledgement =>
      some ({ s with emergencyFailure := true, killAcknowledgement := none }, ())
  | .raiseEmergency => some ({ s with emergencyFailure := true }, ())
  | .acquireReceipt =>
      if s.receiptLock = none then some ({ s with receiptLock := some t }, ()) else none
  | .releaseReceipt =>
      if s.receiptLock = some t then some ({ s with receiptLock := none }, ()) else none
  | .readReceipt => some (s, s.receipt)
  | .readEmergency => some (s, s.emergencyFailure)
  | .seal => some ({ s with ledger := { s.ledger with isSealed := true } }, ())
  | .mirrorSnapshot => some (s, s.mirror)
  | .checkpoint eventCount finalHash evidence =>
      match s.witness.checkpoint ⟨d.manifest, eventCount, finalHash.map Subtype.val, evidence,
          env.wallClock⟩ with
      | .error error => some (s, .error error)
      | .ok (checkpoint, witness) => some ({ s with witness := witness }, .ok checkpoint)
  | .storeReceipt receipt => some ({ s with receipt := some receipt }, ())

/-- Code of one thread. -/
abbrev Prog (P : Platform) (α : Type) : Type := Program (Op P) Op.Res PyError α

/-- Run one critical section. -/
def perform (op : Op P) : Prog P op.Res := Program.perform op

/-- Run a section and raise what it raised. -/
def raising {α : Type} (operation : Prog P (Except PyError α)) : Prog P α :=
  operation >>= Program.ofExcept

end Containment
