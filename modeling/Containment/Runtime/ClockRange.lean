/-
# The range of the readings

Every model that holds a reading of the monotonic clock bounds it by the largest integer
that JSON carries exactly. The clock itself has no bound. A run in which the last reading,
and the last reading with the lifetime of an authorization added, are still in range never
has a field refused that holds a reading, in whatever order its threads run. A run on a
clock beyond the range cannot commit its first event.
-/

import Containment.Concurrency.Outcomes
import Containment.Models.FieldErrors
import Containment.Runtime.ClockOrder

namespace Containment

open Json Concurrency Discipline

variable {P : Platform}

/-! ## Runs within the runtime limit -/

/-- The fields of an event, a decision, an acknowledgement and a receipt that hold a reading,
or a sum or a difference of readings. -/
def clockFields : List String :=
  ["monotonic_ns", "decision_monotonic_ns", "authorization_expires_monotonic_ns",
    "trigger_monotonic_ns", "kill_requested_monotonic_ns", "kill_acknowledged_monotonic_ns",
    "kill_latency_ns", "started_monotonic_ns", "finished_monotonic_ns"]

/-- An answer that is not the refusal of a reading. -/
abbrev Unrefused {α : Type} (outcome : Except PyError α) : Prop := Avoids clockFields outcome

/-- The last moment of a run. -/
def Deployment.deadlineNs (d : Deployment P) : ℤ :=
  d.startedMonotonicNs + Supervisor.runtimeLimitNs d

/-- The clock does not go back and does not pass the deadline, and what the components outside
raise is no refusal of a reading. -/
structure Timely (d : Deployment P) (s : Runtime P × ℤ) (env : World) : Prop where
  clock : ∀ now, env.monotonicClock = .ok now → s.2 ≤ now ∧ now ≤ d.deadlineNs
  monotonicClock : Unrefused env.monotonicClock
  wallClock : Unrefused env.wallClock
  fault : ∀ error ∈ env.fault, ¬ error.Names clockFields
  isolation : Unrefused env.isolation
  transport : Unrefused env.transport

/-- A reading that a caller hands in was taken from the clock during the run. -/
def Call.HandsIn (d : Deployment P) (now : ℤ) : Call P → Prop
  | .contain _ ns | .enforceRuntimeDeadline (some ns) => d.startedMonotonicNs ≤ ns ∧ ns ≤ now
  | _ => True

/-- Concurrent calls whose readings lie between the start of the run and its deadline. -/
def runtimeWindow (d : Deployment P) : RunRule (clockedService d) where
  starts s call := call.HandsIn d s.2
  moves s _ env := Timely d s env

/-- The readings of the run, and the expiries computed from them, are in range. -/
structure ClockFits (d : Deployment P) : Prop where
  start : 0 ≤ d.startedMonotonicNs
  last : d.deadlineNs ≤ maxSafeInteger
  firstExpiry : 0 ≤ d.startedMonotonicNs + d.authorizationTtlNs
  lastExpiry : d.deadlineNs + d.authorizationTtlNs ≤ maxSafeInteger

/-- The bound of every field that holds a reading. -/
abbrev SafeReading (ns : ℤ) : Prop := intRange 0 maxSafeInteger ns = .ok ()

/-- Every reading that is handed to a component is in range. -/
def Op.InRange : Op P → Prop
  | .commit _ _ _ (some ns) => SafeReading ns
  | .acknowledge r => SafeReading r.triggerMonotonicNs ∧ SafeReading r.requestedNs ∧
      SafeReading r.acknowledgedNs ∧ SafeReading (r.acknowledgedNs - r.triggerMonotonicNs)
  | _ => True

/-- The answer is not the refusal of a reading. -/
def Op.Accepted : (op : Op P) → op.Res → Prop
  | .monotonicClock, outcome => Unrefused outcome
  | .wallClock, outcome => Unrefused outcome
  | .reserve .., outcome => Unrefused outcome
  | .prepareFinish .., outcome => Unrefused outcome
  | .markKilled, outcome => Unrefused outcome
  | .markCompleted, outcome => Unrefused outcome
  | .commit .., outcome => Unrefused outcome
  | .register _, outcome => Unrefused outcome
  | .release _, outcome => Unrefused outcome
  | .transport .., outcome => Unrefused outcome
  | .isolate, outcome => Unrefused outcome
  | .acknowledge _, outcome => Unrefused outcome
  | .checkpoint .., outcome => Unrefused outcome
  | _, _ => True

/-- No thread hands in a reading out of range, gets a reading refused, or ends because one
was refused. -/
structure ClockSafe (d : Deployment P) (c : Config (clockedService d)) : Prop where
  handed : ∀ t call op next, c.running t = some (call, .act op next) → op.InRange
  answered : ∀ t call op next env s result, c.running t = some (call, .act op next) →
    (runtimeWindow d).moves c.shared op env →
    (clockedService d).exec env t c.shared op = some (s, result) → op.Accepted result
  ended : ∀ t call error, c.running t = some (call, .raise error) → ¬ error.Names clockFields

namespace ClockRange

variable {d : Deployment P} {env : World} {t : ℕ}

theorem fieldNames_clockFields : FieldNames clockFields := by
  simp [FieldNames, clockFields]

/-! ## What the components raise -/

/-- A reading between the start and the deadline is in range. -/
theorem safeReading (hfits : ClockFits d) {ns : ℤ} (hstart : d.startedMonotonicNs ≤ ns)
    (hlast : ns ≤ d.deadlineNs) : SafeReading ns :=
  intRange_eq_ok.mpr ⟨hfits.start.trans hstart, hlast.trans hfits.last⟩

/-- The range of the difference of two readings. -/
theorem safeReading_sub (hfits : ClockFits d) {first last : ℤ}
    (hstart : d.startedMonotonicNs ≤ first) (hle : first ≤ last) (hlast : last ≤ d.deadlineNs) :
    SafeReading (last - first) := by
  have hfirst := hfits.start
  have hbound := hfits.last
  exact intRange_eq_ok.mpr ⟨by omega, by omega⟩

/-- The range of an expiry. -/
theorem safeReading_expiry (hfits : ClockFits d) {ns : ℤ} (hstart : d.startedMonotonicNs ≤ ns)
    (hlast : ns ≤ d.deadlineNs) : SafeReading (ns + d.authorizationTtlNs) := by
  have hfirst := hfits.firstExpiry
  have hbound := hfits.lastExpiry
  exact intRange_eq_ok.mpr ⟨by omega, by omega⟩

theorem unrefused_validate {α : Type} {name : String} (hname : name ∉ clockFields)
    (check : α → Except PyError Unit) (x : α) : Unrefused (validate name check x) :=
  avoids_validate fieldNames_clockFields hname check x

theorem unrefused_validateOption {α : Type} {name : String} (hname : name ∉ clockFields)
    (check : α → Except PyError Unit) (x : Option α) : Unrefused (validateOption name check x) :=
  avoids_validateOption fieldNames_clockFields hname check x

theorem unrefused_event {payload : Json} {runId : OpaqueId} {manifestHash : Sha256Hex}
    {sequence : ℕ} {previousEventHash : Sha256Hex} {kind : EventKind} {producer : OpaqueId}
    {observedAt : UtcTimestamp} {ns : ℤ} {requestId : Option String} (hns : SafeReading ns) :
    Unrefused (Event.create payload runId manifestHash sequence previousEventHash kind producer
      observedAt ns requestId : Except PyError (Event P)) :=
  avoids_event fieldNames_clockFields (by decide) hns

/-- Errors of the other kinds name no field. -/
theorem not_names_of_ne {error : PyError}
    (h : ∀ field message, error ≠ .validationError field message) : ¬ error.Names clockFields :=
  fun ⟨field, _, message, heq⟩ => h field message heq

theorem unrefused_ensure {condition : Prop} [Decidable condition] {error : PyError}
    (h : ∀ field message, error ≠ .validationError field message) :
    Unrefused (ensure condition error) := avoids_ensure (not_names_of_ne h)

theorem unrefused_append {config : LedgerConfig P} {ledger : EvidenceLedger P} {kind : EventKind}
    {payload : Json} {requestId : Option String} {ns : Option ℤ}
    (hwall : Unrefused env.wallClock) (hclock : Unrefused env.monotonicClock)
    (hfault : ∀ error ∈ env.fault, ¬ error.Names clockFields)
    (hns : ∀ now, reading env.toClocks ns = .ok now → SafeReading now) :
    Unrefused (ledger.append config env.toClocks kind payload requestId ns env.fault) := by
  refine avoids_bind (unrefused_ensure fun _ _ => PyError.noConfusion) fun _ => ?_
  refine avoids_bind (unrefused_ensure fun _ _ => PyError.noConfusion) fun _ => ?_
  refine avoids_bind hwall fun wall => ?_
  refine avoids_bind (avoids_formatUtcTimestamp wall) fun observedAt => ?_
  refine avoids_bind_ok ?_ fun now hnow => ?_
  · cases ns with
    | none => exact hclock
    | some ns => exact avoids_ok _
  refine avoids_bind (unrefused_event (hns now hnow)) fun event => ?_
  refine avoids_bind (avoids_canonicalJsonBytes _) fun _ => ?_
  cases hworld : env.fault with
  | none => exact avoids_ok _
  | some error => exact avoids_error (hfault error hworld)

theorem unrefused_observe (mirror : EvidenceMirror) (manifest : Manifest P) (event : Event P) :
    Unrefused (mirror.observe manifest event) := by
  have hvalue {condition : Prop} [Decidable condition] (message : String) :
      Unrefused (ensure condition (.valueError message)) := avoids_ensure not_names_valueError
  refine avoids_bind (hvalue _) fun _ => avoids_bind ?_ fun _ => ?_
  · unfold EvidenceMirror.checkHead
    split
    · exact hvalue _
    · refine avoids_bind (unrefused_ensure fun _ _ => PyError.noConfusion) fun _ => ?_
      exact avoids_bind (hvalue _) fun _ => avoids_bind (hvalue _) fun _ => hvalue _
  · exact avoids_bind (avoids_canonicalJsonBytes _) fun _ => avoids_ok _

theorem unrefused_decision (x : Gateway.Deciding P) (hdecided : SafeReading x.decidedNs)
    (hexpires : ∀ ns ∈ x.expiresNs, SafeReading ns) : Unrefused (x.decision d) := by
  refine avoids_bind (avoids_bind (unrefused_validate (by decide) _ _) fun digest => ?_)
    fun body => avoids_sign fieldNames_clockFields (by decide) _ _
  refine avoids_bind (avoids_validate_of_ok hdecided) fun decidedNs => ?_
  refine avoids_bind (unrefused_validate (by decide) _ _) fun killEpoch => ?_
  refine avoids_bind (unrefused_validateOption (by decide) _ _) fun authorizationId => ?_
  refine avoids_bind ?_ fun expires => avoids_decisionBody fieldNames_clockFields _
  cases hx : x.expiresNs with
  | none => exact avoids_ok _
  | some ns => exact avoids_map (avoids_validate_of_ok (hexpires ns hx))

theorem unrefused_acknowledgement (r : KillRequest P) (h : (Op.acknowledge r).InRange) :
    Unrefused (r.acknowledgement d) := by
  obtain ⟨htrigger, hrequested, hacknowledged, hlatency⟩ := h
  refine avoids_bind (avoids_bind (avoids_validate_of_ok htrigger) fun triggerNs => ?_)
    fun body => avoids_sign fieldNames_clockFields (by decide) _ _
  refine avoids_bind (avoids_formatUtcTimestamp _) fun requestedAt => ?_
  refine avoids_bind (avoids_validate_of_ok hrequested) fun requestedNs => ?_
  refine avoids_bind (avoids_formatUtcTimestamp _) fun acknowledgedAt => ?_
  refine avoids_bind (avoids_validate_of_ok hacknowledged) fun acknowledgedNs => ?_
  refine avoids_bind (avoids_validate_of_ok hlatency) fun latency => ?_
  refine avoids_bind (avoids_mapM (unrefused_validate (by decide) _) _) fun workloads => ?_
  refine avoids_bind (unrefused_validate (by decide) _ _) fun workloads => ?_
  refine avoids_bind (unrefused_validate (by decide) _ _) fun inflight => ?_
  refine avoids_bind (unrefused_validate (by decide) _ _) fun signalled => ?_
  refine avoids_bind (unrefused_validate (by decide) _ _) fun cancelled => ?_
  refine avoids_bind (unrefused_validateOption (by decide) _ _) fun evidence => ?_
  exact avoids_killAcknowledgementBody fieldNames_clockFields _

theorem unrefused_receiptBody {status : RunStatus} {state : RunState} {mirror : EvidenceMirror}
    {finishedAt : Datetime} {finishedNs : ℤ} {ack : Option (KillAcknowledgement P)}
    {checkpoint : WitnessCheckpoint P} (hstarted : SafeReading d.startedMonotonicNs)
    (hfinished : SafeReading finishedNs) :
    Unrefused (Supervisor.receiptBody d status state mirror finishedAt finishedNs ack checkpoint) := by
  refine avoids_bind (avoids_formatUtcTimestamp _) fun startedAt => ?_
  refine avoids_bind (avoids_formatUtcTimestamp _) fun finishedAt => ?_
  refine avoids_bind (avoids_validate_of_ok hstarted) fun startedNs => ?_
  refine avoids_bind (avoids_validate_of_ok hfinished) fun finishedNs => ?_
  -- The eleven fields that hold no reading.
  iterate 11 refine avoids_bind (unrefused_validate (by decide) _ _) fun _ => ?_
  exact avoids_receiptBody fieldNames_clockFields _

theorem unrefused_checkpoint (witness : TransparencyWitness P)
    (request : TransparencyWitness.Request P) (hwall : Unrefused request.wallClock) :
    Unrefused (witness.checkpoint request) := by
  refine avoids_bind hwall fun wall => ?_
  refine avoids_bind (avoids_formatUtcTimestamp _) fun witnessedAt => ?_
  refine avoids_bind (unrefused_validate (by decide) _ _) fun eventCount => ?_
  refine avoids_bind (unrefused_validateOption (by decide) _ _) fun finalEventHash => ?_
  refine avoids_bind (unrefused_validate (by decide) _ _) fun evidence => ?_
  refine avoids_bind (avoids_witnessCheckpointBody fieldNames_clockFields _) fun body => ?_
  refine avoids_bind (avoids_sign fieldNames_clockFields (by decide) _ _) fun fresh => ?_
  split
  · split
    · exact avoids_ok _
    · exact avoids_error not_names_valueError
  · exact avoids_ok _

theorem unrefused_reserve (state : RunState) (body : DecisionBody) (nowNs bytes : ℤ) :
    Unrefused (state.reserve body nowNs bytes).2 := by
  have hdenied (message : String) :
      Unrefused (.error (.permissionError message) : Except PyError DispatchLease) :=
    avoids_error (not_names_of_ne fun _ _ => PyError.noConfusion)
  unfold RunState.reserve
  cases body.authorizationId with
  | none => split_ifs <;> exact hdenied _
  | some id =>
      dsimp only
      split_ifs <;> first | exact hdenied _ | exact avoids_ok _

theorem unrefused_prepareFinish (state : RunState) (lease : DispatchLease) (bytes : ℤ) :
    Unrefused (state.prepareFinish lease bytes).2 := by
  unfold RunState.prepareFinish
  split
  · exact avoids_error (not_names_of_ne fun _ _ => PyError.noConfusion)
  · split
    · exact avoids_error (not_names_of_ne fun _ _ => PyError.noConfusion)
    · exact avoids_ok _

theorem unrefused_register (registry : InflightRegistry) (id : String) :
    Unrefused (registry.register id) := by
  unfold InflightRegistry.register
  split
  · exact avoids_error (not_names_of_ne fun _ _ => PyError.noConfusion)
  · exact avoids_ok _

theorem unrefused_release (secrets : String → Option Bytes) (manifest : Manifest P)
    (action : Action P) : Unrefused (releaseCredential secrets manifest action) := by
  have hdenied (message : String) :
      Unrefused (.error (.permissionError message) : Except PyError (Option Bytes)) :=
    avoids_error (not_names_of_ne fun _ _ => PyError.noConfusion)
  unfold releaseCredential
  split
  · exact avoids_ok _
  · split
    · exact hdenied _
    · split_ifs
      · exact hdenied _
      · split
        · exact hdenied _
        · exact avoids_ok _

/-- The reading of an event that was committed. -/
theorem reading_of_commit {s s' : Runtime P} {kind : EventKind} {payload : Json}
    {requestId : Option String} {ns : Option ℤ} {event : Event P}
    (h : exec d env t s (.commit kind payload requestId ns) = some (s', .ok event)) :
    reading env.toClocks ns = .ok event.body.monotonicNs.1 := by
  simp only [exec, Option.some.injEq] at h
  rcases commit_cases d env s kind payload requestId ns with ⟨_, heq⟩ |
    ⟨event', mirrored, outcome, mirror, happend, hmirror, heq⟩
  · rw [heq] at h
    cases (Prod.mk.inj h).2
  · rw [heq] at h
    obtain ⟨-, rfl⟩ := Prod.mk.inj h
    cases mirrored with
    | false =>
        obtain ⟨-, _, -, heq⟩ := hmirror
        cases heq
    | true =>
        obtain rfl : event = event' := Except.ok.inj hmirror.2
        exact (append_links happend).2.2.2.2.1

/-! ## The discipline -/

/-- The clock has a moment of the run. -/
structure Inv (d : Deployment P) (s : Runtime P × ℤ) : Prop where
  started : d.startedMonotonicNs ≤ s.2
  ahead : s.2 ≤ d.deadlineNs

/-- A reading that is handed in was taken during the run, and the acknowledgement after its
trigger. -/
def Ready (d : Deployment P) (s : Runtime P × ℤ) : Op P → Prop
  | .commit _ _ _ (some ns) => d.startedMonotonicNs ≤ ns ∧ ns ≤ s.2
  | .acknowledge r => d.startedMonotonicNs ≤ r.triggerMonotonicNs ∧
      r.triggerMonotonicNs ≤ r.requestedNs ∧ r.requestedNs ≤ r.acknowledgedNs ∧
      r.acknowledgedNs ≤ s.2
  | _ => True

variable {s s' : Runtime P × ℤ}

theorem inRange_of_ready (hfits : ClockFits d) (hinv : Inv d s) {op : Op P} (h : Ready d s op) :
    op.InRange := by
  cases op with
  | commit kind payload requestId ns =>
      cases ns with
      | none => exact trivial
      | some ns => exact safeReading hfits h.1 (h.2.trans hinv.ahead)
  | acknowledge r =>
      obtain ⟨hstart, hrequested, hacknowledged, hlast⟩ := h
      have hdeadline := hlast.trans hinv.ahead
      exact ⟨safeReading hfits hstart (hrequested.trans (hacknowledged.trans hdeadline)),
        safeReading hfits (hstart.trans hrequested) (hacknowledged.trans hdeadline),
        safeReading hfits (hstart.trans (hrequested.trans hacknowledged)) hdeadline,
        safeReading_sub hfits hstart (hrequested.trans hacknowledged) hdeadline⟩
  | _ => exact trivial

/-- A commit is not refused for its reading. -/
theorem unrefused_commit (hfits : ClockFits d) (hinv : Inv d s) (hmove : Timely d s env)
    {kind : EventKind} {payload : Json} {requestId : Option String} {ns : Option ℤ}
    (hready : Ready d s (.commit kind payload requestId ns)) :
    Unrefused (s.1.commit d env kind payload requestId ns).2 := by
  have happend : Unrefused (s.1.ledger.append d.ledgerConfig env.toClocks kind payload requestId ns
      env.fault) := by
    refine unrefused_append hmove.wallClock hmove.monotonicClock hmove.fault fun now hnow => ?_
    cases ns with
    | none =>
        obtain ⟨hle, hlast⟩ := hmove.clock now hnow
        exact safeReading hfits (hinv.started.trans hle) hlast
    | some ns =>
        obtain rfl : ns = now := Except.ok.inj hnow
        exact safeReading hfits hready.1 (hready.2.trans hinv.ahead)
  unfold Runtime.commit
  split
  · exact avoids_error (happend _ ‹_›)
  · dsimp only
    split
    · exact avoids_error (unrefused_observe _ _ _ _ ‹_›)
    · exact avoids_ok _

/-- No operation answers that it refuses a reading. -/
theorem accepted_exec (hfits : ClockFits d) (hinv : Inv d s) (hmove : Timely d s env) {op : Op P}
    {r : op.Res} {s' : Runtime P} (hready : Ready d s op)
    (hexec : exec d env t s.1 op = some (s', r)) : op.Accepted r := by
  cases op
  case monotonicClock =>
    simp only [exec, Option.some.injEq, Prod.mk.injEq] at hexec
    exact hexec.2 ▸ hmove.monotonicClock
  case wallClock =>
    simp only [exec, Option.some.injEq, Prod.mk.injEq] at hexec
    exact hexec.2 ▸ hmove.wallClock
  case reserve body nowNs bytes =>
    have hreserve := unrefused_reserve s.1.state body nowNs bytes
    simp only [exec, Option.ite_none_right_eq_some] at hexec
    obtain ⟨-, hexec⟩ := hexec
    split at hexec
    · rename_i heq
      obtain ⟨-, rfl⟩ := Prod.mk.inj (Option.some.inj hexec)
      rwa [heq] at hreserve
    · obtain ⟨-, rfl⟩ := Prod.mk.inj (Option.some.inj hexec)
      exact avoids_ok _
  case prepareFinish lease bytes =>
    have hprepare := unrefused_prepareFinish s.1.state lease bytes
    simp only [exec, Option.ite_none_right_eq_some] at hexec
    obtain ⟨-, hexec⟩ := hexec
    split at hexec
    · rename_i heq
      obtain ⟨-, rfl⟩ := Prod.mk.inj (Option.some.inj hexec)
      rwa [heq] at hprepare
    · obtain ⟨-, rfl⟩ := Prod.mk.inj (Option.some.inj hexec)
      exact avoids_ok _
  case markKilled =>
    simp only [exec, onState_eq_some] at hexec
    rw [← hexec.2.2]
    unfold RunState.markKilled
    split
    · exact avoids_error (not_names_of_ne fun _ _ => PyError.noConfusion)
    · exact avoids_ok _
  case markCompleted =>
    simp only [exec, onState_eq_some] at hexec
    rw [← hexec.2.2]
    unfold RunState.markCompleted
    split
    · exact avoids_error (not_names_of_ne fun _ _ => PyError.noConfusion)
    · exact avoids_ok _
  case commit =>
    simp only [exec, Option.some.injEq] at hexec
    have hcommit := unrefused_commit hfits hinv hmove hready
    rwa [hexec] at hcommit
  case register id =>
    simp only [exec] at hexec
    split at hexec
    · rename_i error heq
      obtain ⟨-, rfl⟩ := Prod.mk.inj (Option.some.inj hexec)
      exact avoids_error (unrefused_register _ _ _ heq)
    · obtain ⟨-, rfl⟩ := Prod.mk.inj (Option.some.inj hexec)
      exact avoids_ok _
  case release action =>
    simp only [exec, Option.some.injEq, Prod.mk.injEq] at hexec
    rw [← hexec.2]
    cases hfault : env.fault with
    | none => exact unrefused_release _ _ _
    | some error => exact avoids_error (hmove.fault error hfault)
  case transport =>
    simp only [exec, Option.some.injEq, Prod.mk.injEq] at hexec
    exact hexec.2 ▸ hmove.transport
  case isolate =>
    simp only [exec] at hexec
    split at hexec
    · obtain ⟨-, rfl⟩ := Prod.mk.inj (Option.some.inj hexec)
      exact avoids_ok _
    · have hisolation := hmove.isolation
      split at hexec
      · rename_i error heq
        obtain ⟨-, rfl⟩ := Prod.mk.inj (Option.some.inj hexec)
        exact avoids_error (hisolation error heq)
      · obtain ⟨-, rfl⟩ := Prod.mk.inj (Option.some.inj hexec)
        exact avoids_ok _
  case acknowledge request =>
    have hack := unrefused_acknowledgement (d := d) request (inRange_of_ready hfits hinv hready)
    simp only [exec] at hexec
    split at hexec
    · rename_i error heq
      obtain ⟨-, rfl⟩ := Prod.mk.inj (Option.some.inj hexec)
      exact avoids_error (hack error heq)
    · obtain ⟨-, rfl⟩ := Prod.mk.inj (Option.some.inj hexec)
      exact avoids_ok _
  case checkpoint =>
    simp only [exec] at hexec
    split at hexec
    · rename_i error heq
      obtain ⟨-, rfl⟩ := Prod.mk.inj (Option.some.inj hexec)
      exact avoids_error (unrefused_checkpoint _ _ hmove.wallClock error heq)
    · obtain ⟨-, rfl⟩ := Prod.mk.inj (Option.some.inj hexec)
      exact avoids_ok _
  all_goals exact trivial

theorem clock_refl (_ : ℕ) (s : Runtime P × ℤ) : s.2 ≤ s.2 := le_rfl

theorem clock_trans {s₁ s₂ s₃ : Runtime P × ℤ} (h : s₁.2 ≤ s₂.2) (h' : s₂.2 ≤ s₃.2) :
    s₁.2 ≤ s₃.2 := le_trans h h'

variable (d) in
/-- The clock only moves forward, within the run. -/
def discipline : Discipline (runtimeWindow d) where
  inv := Inv d
  ready _ := Ready d
  rely _ s s' := s.2 ≤ s'.2
  rely_refl := clock_refl
  rely_trans := clock_trans
  act_inv {env t s op s' result} h _ hmove hexec := by
    obtain ⟨done, -, heq⟩ := Option.map_eq_some_iff.mp hexec
    rw [← (Prod.mk.inj heq).1]
    refine ⟨h.started.trans (ClockOrder.le_tick fun now hnow => (hmove.clock now hnow).1), ?_⟩
    change tick env s.2 ≤ d.deadlineNs
    unfold tick
    split
    · exact (hmove.clock _ ‹_›).2
    · exact h.ahead
  act_rely _ _ hmove hexec _ _ := by
    obtain ⟨done, -, heq⟩ := Option.map_eq_some_iff.mp hexec
    rw [← (Prod.mk.inj heq).1]
    exact ClockOrder.le_tick fun now hnow => (hmove.clock now hnow).1

/-- The clock stays where it has been. -/
theorem stable_reached (ns : ℤ) : (discipline d).Stable fun s => ns ≤ s.2 where
  rely hrely h := le_trans h hrely
  act {env t s op s' result} hmove hexec h := by
    obtain ⟨done, -, heq⟩ := Option.map_eq_some_iff.mp hexec
    rw [← (Prod.mk.inj heq).1]
    exact h.trans (ClockOrder.le_tick fun now hnow => (hmove.clock now hnow).1)

variable {α β : Type} {ns : ℤ}

/-- Code that, once the clock has reached a reading, does not end with the refusal of one. -/
abbrev GivesFrom (d : Deployment P) (ns : ℤ) (Q : α → Runtime P × ℤ → Prop) (p : Prog P α) : Prop :=
  (discipline d).Gives (fun error => ¬ error.Names clockFields) (fun s => ns ≤ s.2) Q p

abbrev FineFrom (d : Deployment P) (ns : ℤ) (p : Prog P α) : Prop :=
  GivesFrom d ns (fun _ _ => True) p

theorem fine_ret (value : α) : FineFrom d ns (.ret value) := gives_ret fun _ _ => trivial

theorem fine_ofExcept {outcome : Except PyError α} (h : Unrefused outcome) :
    FineFrom d ns (.ofExcept outcome) := gives_ofExcept (fun _ _ _ _ => trivial) h

theorem fine_then {p : Prog P α} {next : α → Prog P β} {Q : β → Runtime P × ℤ → Prop}
    (hp : FineFrom d ns p) (hnext : ∀ value, GivesFrom d ns Q (next value)) :
    GivesFrom d ns Q (p >>= next) := gives_then (stable_reached ns) hp hnext

theorem fine_mono {earlier : ℤ} (hle : earlier ≤ ns) {p : Prog P α} (hp : FineFrom d earlier p) :
    FineFrom d ns p := gives_mono (fun _ hs => hle.trans hs) (fun _ _ h => h) hp

section Operations

variable (hfits : ClockFits d)
include hfits

theorem gives_perform {op : Op P} (hready : ∀ s, Inv d s → ns ≤ s.2 → Ready d s op) :
    GivesFrom d ns (fun result _ => op.Accepted result) (perform op) := by
  intro t s hs s₁ hrely hinv
  have hop := hready s₁ hinv (le_trans hs hrely)
  refine ⟨hop, fun env s₂ result hmove hexec _ => ?_⟩
  obtain ⟨⟨_, _⟩, hdone, heq⟩ := Option.map_eq_some_iff.mp hexec
  obtain ⟨-, rfl⟩ := Prod.mk.inj heq
  exact accepted_exec hfits hinv hmove hop hdone

/-- An operation that is handed no reading. -/
theorem fine_perform {op : Op P} (hready : ∀ s, Ready d s op) : FineFrom d ns (perform op) :=
  gives_mono (fun _ hs => hs) (fun _ _ _ => trivial) (gives_perform hfits fun s _ _ => hready s)

omit hfits in
theorem fine_raising {p : Prog P (Except PyError α)}
    (hp : GivesFrom d ns (fun outcome _ => Unrefused outcome) p) : FineFrom d ns (raising p) := by
  refine gives_bind hp fun outcome t s h => ?_
  have hraise : FineFrom d s.2 (.ofExcept outcome) := fine_ofExcept h
  exact hraise t s le_rfl

omit hfits in
/-- A reading is not below what the clock has reached, not after the deadline, and has been
reached. -/
theorem gives_monotonicNow : GivesFrom d ns (fun now s => (ns ≤ now ∧ now ≤ d.deadlineNs) ∧ now ≤ s.2)
    (monotonicNow : Prog P ℤ) := by
  intro t s hs s₁ hrely hinv
  refine ⟨trivial, fun env s₂ result hmove hexec _ => safe_ofExcept.mpr ?_⟩
  obtain ⟨done, hdone, heq⟩ := Option.map_eq_some_iff.mp hexec
  simp only [exec, Option.some.injEq] at hdone
  subst hdone
  obtain ⟨rfl, rfl⟩ := Prod.mk.inj heq
  cases hclock : env.monotonicClock with
  | error error => exact hmove.monotonicClock error hclock
  | ok now =>
      obtain ⟨hle, hlast⟩ := hmove.clock now hclock
      refine ⟨⟨hs.trans (le_trans hrely hle), hlast⟩, ?_⟩
      change now ≤ tick env s₁.2
      rw [tick, hclock]

omit hfits in
theorem fine_read {next : ℤ → Prog P β}
    (hnext : ∀ now, ns ≤ now ∧ now ≤ d.deadlineNs → FineFrom d now (next now)) :
    FineFrom d ns ((monotonicNow : Prog P ℤ) >>= next) :=
  gives_bind gives_monotonicNow fun now t s h => hnext now h.1 t s h.2

/-- An event that was just committed holds a reading of the run that has been reached. -/
theorem gives_commit (kind : EventKind) (payload : Json) (requestId : Option String)
    {reading : Option ℤ} (hreading : ∀ n ∈ reading, d.startedMonotonicNs ≤ n ∧ n ≤ ns) :
    GivesFrom d ns (fun event s => d.startedMonotonicNs ≤ event.body.monotonicNs.1 ∧
        event.body.monotonicNs.1 ≤ s.2)
      (raising (perform (.commit kind payload requestId reading)) : Prog P (Event P)) := by
  intro t s hs s₁ hrely hinv
  have hreached : ns ≤ s₁.2 := le_trans hs hrely
  have hready : Ready d s₁ (.commit kind payload requestId reading) := by
    cases reading with
    | none => exact trivial
    | some n => exact ⟨(hreading n rfl).1, (hreading n rfl).2.trans hreached⟩
  refine ⟨hready, fun env s₂ result hmove hexec _ => safe_ofExcept.mpr ?_⟩
  obtain ⟨⟨s₃, outcome⟩, hdone, heq⟩ := Option.map_eq_some_iff.mp hexec
  obtain ⟨rfl, rfl⟩ := Prod.mk.inj heq
  have haccepted : Unrefused outcome := accepted_exec hfits hinv hmove hready hdone
  cases outcome with
  | error error => exact haccepted error rfl
  | ok event =>
      have htick : s₁.2 ≤ tick env s₁.2 :=
        ClockOrder.le_tick fun now hnow => (hmove.clock now hnow).1
      have hlinks := reading_of_commit hdone
      cases reading with
      | some n =>
          obtain rfl : n = event.body.monotonicNs.1 := Except.ok.inj hlinks
          exact ⟨hready.1, hready.2.trans htick⟩
      | none =>
          have hclock : env.monotonicClock = .ok event.body.monotonicNs.1 := hlinks
          refine ⟨hinv.started.trans (hmove.clock _ hclock).1, ?_⟩
          change event.body.monotonicNs.1 ≤ tick env s₁.2
          rw [tick, hclock]

end Operations

/-! ## The calls -/

section Calls

variable (hfits : ClockFits d)
include hfits

theorem fine_wallNow : FineFrom d ns (wallNow : Prog P Datetime) :=
  fine_raising (gives_perform hfits fun _ _ _ => trivial)

theorem fine_emergencyIsolate : FineFrom d ns (Supervisor.emergencyIsolate : Prog P Unit) := by
  refine fine_then (fine_perform hfits fun _ => trivial) fun _ => ?_
  refine gives_finalize (stable_reached ns) ?_ (fine_perform hfits fun _ => trivial)
  refine fine_then (fine_perform hfits fun _ => trivial) fun _ => ?_
  refine fine_then (fine_perform hfits fun _ => trivial) fun _ => ?_
  refine fine_then (fine_raising (gives_perform hfits fun _ _ _ => trivial)) fun _ => ?_
  exact fine_raising (gives_perform hfits fun _ _ _ => trivial)

theorem fine_commit (kind : EventKind) (payload : Json) (requestId : Option String)
    {reading : Option ℤ} (hreading : ∀ n ∈ reading, d.startedMonotonicNs ≤ n ∧ n ≤ ns) :
    FineFrom d ns (raising (perform (.commit kind payload requestId reading)) :
      Prog P (Event P)) :=
  gives_mono (fun _ hs => hs) (fun _ _ _ => trivial) (gives_commit hfits kind payload requestId hreading)

theorem fine_commitAcknowledgement (ack : KillAcknowledgement P)
    (hns : d.startedMonotonicNs ≤ ns) : FineFrom d ns (Supervisor.commitAcknowledgement ack ns) := by
  refine gives_handle (stable_reached ns) (fine_then (fine_commit hfits _ _ _ ?_) fun _ => fine_ret _)
    fun error herror => ?_
  · rintro _ ⟨⟩
    exact ⟨hns, le_rfl⟩
  · exact fine_then (fine_perform hfits fun _ => trivial) fun _ => gives_raise herror

theorem fine_containFresh (trigger : Event P) (hns : d.startedMonotonicNs ≤ ns) :
    FineFrom d ns (Supervisor.containFresh trigger ns) := by
  refine fine_then (fine_perform hfits fun _ => trivial) fun latched => ?_
  refine fine_then (fine_perform hfits fun _ => trivial) fun signals => ?_
  refine fine_then (fine_wallNow hfits) fun requestedAt => ?_
  refine fine_read fun requestedNs ⟨hrequested, _⟩ => ?_
  refine fine_then (fine_raising (gives_perform hfits fun _ _ _ => trivial)) fun isolation => ?_
  refine fine_read fun acknowledgedNs ⟨hacknowledged, _⟩ => ?_
  refine fine_then (fine_wallNow hfits) fun acknowledgedAt => ?_
  refine fine_then (fine_raising (gives_perform hfits fun _ _ _ => trivial)) fun _ => ?_
  refine fine_then (fine_raising (gives_perform hfits fun _ _ h => ?_)) fun ack => ?_
  · exact ⟨hns, hrequested, hacknowledged, h⟩
  · exact fine_commitAcknowledgement hfits ack (hns.trans (hrequested.trans hacknowledged))

/-- A containment whose trigger has been read. -/
theorem fine_contain (trigger : Event P) (hns : d.startedMonotonicNs ≤ ns) :
    FineFrom d ns (Supervisor.contain trigger ns) := by
  refine fine_then (fine_perform hfits fun _ => trivial) fun _ => ?_
  refine gives_finalize (stable_reached ns) ?_ (fine_perform hfits fun _ => trivial)
  refine fine_then (fine_perform hfits fun _ => trivial) fun found => ?_
  cases found with
  | some ack => exact fine_ret _
  | none => exact fine_containFresh hfits trigger hns

theorem gives_gatewayCommit (kind : EventKind) (payload : Json) (requestId : Option String)
    {reading : Option ℤ} (hreading : ∀ n ∈ reading, d.startedMonotonicNs ≤ n ∧ n ≤ ns) :
    GivesFrom d ns (fun event s => d.startedMonotonicNs ≤ event.body.monotonicNs.1 ∧
        event.body.monotonicNs.1 ≤ s.2)
      (Gateway.commit kind payload requestId reading : Prog P (Event P)) :=
  gives_handle (stable_reached ns) (gives_commit hfits kind payload requestId hreading)
    fun _ herror => fine_then (fine_emergencyIsolate hfits) fun _ => gives_raise herror

/-- The gateway's commit of a reading it has taken. -/
theorem fine_gatewayCommit (kind : EventKind) (payload : Json) (requestId : Option String)
    (hns : d.startedMonotonicNs ≤ ns) :
    FineFrom d ns (Gateway.commit kind payload requestId (some ns) : Prog P (Event P)) := by
  refine gives_mono (fun _ hs => hs) (fun _ _ _ => trivial)
    (gives_gatewayCommit hfits kind payload requestId ?_)
  rintro _ ⟨⟩
  exact ⟨hns, le_rfl⟩

theorem fine_failClosed (reasonCode : String) (requestId : Option String)
    (hns : d.startedMonotonicNs ≤ ns) :
    FineFrom d ns (Gateway.failClosed reasonCode requestId : Prog P Unit) := by
  refine fine_read fun triggerNs ⟨hle, _⟩ => ?_
  have hstart := hns.trans hle
  refine fine_then (fine_perform hfits fun _ => trivial) fun _ => ?_
  refine fine_then (gives_handle (stable_reached triggerNs) (fine_gatewayCommit hfits _ _ _ hstart)
    fun _ _ => ?_) fun trigger => ?_
  · refine fine_then (fine_perform hfits fun _ => trivial) fun events => ?_
    cases events.getLast? with
    | none => exact gives_raise (not_names_of_ne fun _ _ => PyError.noConfusion)
    | some event => exact fine_ret _
  · exact fine_then (fine_contain hfits trigger hstart) fun _ => fine_ret _

theorem fine_enforceRuntimeDeadline {handed : Option ℤ} (hns : d.startedMonotonicNs ≤ ns)
    (hhanded : ∀ n ∈ handed, d.startedMonotonicNs ≤ n ∧ n ≤ ns) :
    FineFrom d ns (Supervisor.enforceRuntimeDeadline d handed) := by
  have hnow : GivesFrom d ns (fun now s => d.startedMonotonicNs ≤ now ∧ now ≤ s.2)
      (handed.elim monotonicNow pure) := by
    cases handed with
    | none =>
        exact gives_mono (fun _ hs => hs) (fun _ _ h => ⟨hns.trans h.1.1, h.2⟩) gives_monotonicNow
    | some n => exact gives_ret fun s hs => ⟨(hhanded n rfl).1, (hhanded n rfl).2.trans hs⟩
  refine gives_bind hnow fun nowNs t s h => ?_
  refine fine_then (p := perform .snapshot) (fine_perform hfits fun _ => trivial)
    (fun state => ?_) t s h.2
  split_ifs
  · exact fine_ret _
  refine fine_then (fine_perform hfits fun _ => trivial) fun _ => ?_
  refine fine_then (fine_commit hfits _ _ _ ?_) fun event => ?_
  · rintro _ ⟨⟩
    exact ⟨h.1, le_rfl⟩
  · exact fine_then (fine_contain hfits event h.1) fun _ => fine_ret _

/-- The containment of a hard violation reads the trigger off the committed event. -/
theorem fine_conclude (action : Action P) (sha : String) (result : PolicyResult)
    (decision : Decision P) : FineFrom d ns (Gateway.conclude action sha result decision) := by
  unfold Gateway.conclude
  split_ifs
  · refine gives_bind (gives_gatewayCommit hfits _ _ _ fun _ h => nomatch h)
      fun violation t s h => ?_
    exact fine_then (fine_contain hfits violation h.1) (fun _ => fine_ret _) t s h.2
  · exact fine_ret _

/-- An authorization expires a lifetime after the decision. -/
theorem gives_authorization (verdict : Verdict) (decidedNs : ℤ) :
    GivesFrom d ns (fun pair s => (∀ e ∈ pair.2, e = decidedNs + d.authorizationTtlNs) ∧ ns ≤ s.2)
      (Gateway.authorization d verdict decidedNs) := by
  unfold Gateway.authorization
  split_ifs
  · refine fine_then (fine_perform hfits fun _ => trivial) fun token => ?_
    refine gives_ret fun s hs => ⟨?_, hs⟩
    rintro _ ⟨⟩
    rfl
  · exact gives_ret fun s hs => ⟨fun _ h => (nomatch h), hs⟩

theorem fine_decideAction (action : Action P) (hns : d.startedMonotonicNs ≤ ns) :
    FineFrom d ns (Gateway.decideAction d action ns) := by
  refine fine_then (fine_ofExcept (avoids_domainHash _ _)) fun sha => ?_
  refine fine_then (fine_gatewayCommit hfits _ _ _ hns) fun request => ?_
  refine fine_read fun decidedNs ⟨hle, hlast⟩ => ?_
  have hstart := hns.trans hle
  refine fine_then (fine_wallNow hfits) fun wall => ?_
  refine fine_then (fine_ofExcept (avoids_formatUtcTimestamp wall)) fun decidedAt => ?_
  refine fine_then (fine_perform hfits fun _ => trivial) fun result => ?_
  refine fine_then ?_ fun _ => ?_
  · unfold Gateway.latchOnKill
    split_ifs
    · exact fine_then (fine_perform hfits fun _ => trivial) fun _ => fine_ret _
    · exact fine_ret _
  refine fine_then (fine_perform hfits fun _ => trivial) fun epoch => ?_
  refine gives_bind (gives_authorization hfits result.verdict decidedNs)
    fun capability t s h => ?_
  refine fine_then (fine_ofExcept ?_) (fun decision => ?_) t s h.2
  · refine unrefused_decision _ (safeReading hfits hstart hlast) fun expires hexpires => ?_
    rw [h.1 expires hexpires]
    exact safeReading_expiry hfits hstart hlast
  refine fine_then (fine_gatewayCommit hfits _ _ _ hstart) fun event => ?_
  refine fine_then (fine_perform hfits fun _ => trivial) fun _ => ?_
  exact fine_conclude hfits _ _ _ _

theorem fine_submitRaw (raw : Bytes) (hns : d.startedMonotonicNs ≤ ns) :
    FineFrom d ns (Gateway.submitRaw d raw) := by
  refine fine_read fun admittedNs ⟨hle, _⟩ => ?_
  have hstart := hns.trans hle
  have hcontain (event : Event P) (result : GatewayResult P) :
      FineFrom d admittedNs (Supervisor.contain event admittedNs >>= fun _ => .ret result) :=
    fine_then (fine_contain hfits event hstart) fun _ => fine_ret _
  have hlatch : FineFrom d admittedNs (perform .latchKill : Prog P _) :=
    fine_perform hfits fun _ => trivial
  split_ifs
  · refine fine_then hlatch fun _ => ?_
    exact fine_then (fine_gatewayCommit hfits _ _ _ hstart) fun event => hcontain _ _
  refine fine_then (fine_perform hfits fun _ => trivial) fun admission => ?_
  cases admission with
  | droppedAfterKill => exact fine_ret _
  | firstOverload => exact fine_then (fine_gatewayCommit hfits _ _ _ hstart) fun event => hcontain _ _
  | admitted =>
      dsimp only
      cases Action.fromWire P raw with
      | ok action => exact fine_decideAction hfits action hstart
      | error _ =>
          refine fine_then (fine_gatewayCommit hfits _ _ _ hstart) fun event => ?_
          exact fine_then hlatch fun _ => hcontain _ _

theorem fine_receiptFresh (status : Option RunStatus) (hns : d.startedMonotonicNs ≤ ns) :
    FineFrom d ns (Supervisor.receiptFresh d status) := by
  refine fine_then (fine_perform hfits fun _ => trivial) fun state => ?_
  refine fine_then (fine_perform hfits fun _ => trivial) fun emergency => ?_
  refine fine_then (fine_ofExcept ?_) fun derived => ?_
  · unfold Supervisor.derivedStatus
    split_ifs
    · exact avoids_error (not_names_of_ne fun _ _ => PyError.noConfusion)
    all_goals exact avoids_ok _
  refine fine_then (fine_ofExcept (avoids_ensure not_names_valueError)) fun _ => ?_
  refine fine_then (fine_perform hfits fun _ => trivial) fun _ => ?_
  refine fine_then (fine_wallNow hfits) fun finishedAt => ?_
  refine fine_read fun finishedNs ⟨hle, hlast⟩ => ?_
  have hstart := hns.trans hle
  refine fine_then (fine_perform hfits fun _ => trivial) fun mirror => ?_
  refine fine_then (fine_raising (gives_perform hfits fun _ _ _ => trivial)) fun checkpoint => ?_
  refine fine_then (fine_perform hfits fun _ => trivial) fun ack => ?_
  refine fine_then (fine_ofExcept (unrefused_receiptBody ?_ (safeReading hfits hstart hlast)))
    fun body => ?_
  · exact safeReading hfits le_rfl (hstart.trans hlast)
  have hname : (receiptSealing P).hashName ∉ clockFields := show "receipt_hash" ∉ clockFields by decide
  refine fine_then (fine_ofExcept (avoids_sign fieldNames_clockFields hname _ _)) fun receipt => ?_
  exact fine_then (fine_perform hfits fun _ => trivial) fun _ => fine_ret _

theorem fine_receipt (status : Option RunStatus) (hns : d.startedMonotonicNs ≤ ns) :
    FineFrom d ns (Supervisor.receipt d status) := by
  refine fine_then (fine_perform hfits fun _ => trivial) fun _ => ?_
  refine gives_finalize (stable_reached ns) ?_ (fine_perform hfits fun _ => trivial)
  refine fine_then (fine_perform hfits fun _ => trivial) fun frozen => ?_
  cases frozen with
  | none => exact fine_receiptFresh hfits status hns
  | some frozen =>
      exact fine_then (fine_ofExcept (avoids_ensure not_names_valueError)) fun _ => fine_ret _

theorem fine_complete (hns : d.startedMonotonicNs ≤ ns) : FineFrom d ns (Supervisor.complete d) :=
  fine_then (fine_raising (gives_perform hfits fun _ _ _ => trivial)) fun _ =>
    fine_receipt hfits none hns

/-- The evidence of a dispatch, whose reading is left to the ledger. -/
theorem fine_evidence (action : Action P) (kind : EventKind) (payload : String → Json)
    (requestId : Option String) :
    FineFrom d ns (do
      let sha ← .ofExcept action.digest
      raising (perform (.commit kind (payload sha) requestId none)) : Prog P (Event P)) :=
  fine_then (fine_ofExcept (avoids_domainHash _ _)) fun _ =>
    fine_commit hfits _ _ _ fun _ h => nomatch h

theorem fine_beginAuthorized (action : Action P) (decision : Decision P) (id : OpaqueId)
    (nowNs bytes : ℤ) :
    FineFrom d ns (Executor.beginAuthorized action decision id nowNs bytes) := by
  refine fine_then (fine_raising (gives_perform hfits fun _ _ _ => trivial)) fun lease => ?_
  refine gives_attempt (stable_reached ns) (fine_evidence hfits action _ _ _) (fun event => ?_)
    fun error herror => ?_
  · refine gives_mono (fun _ h => h.2) (fun _ _ h => h) ?_
    exact fine_then (fine_perform hfits fun _ => trivial) fun _ => fine_ret _
  · exact fine_then (fine_perform hfits fun _ => trivial) fun _ => gives_raise herror

theorem fine_finishAuthorized (action : Action P) (decision : Decision P) (id : OpaqueId)
    (lease : DispatchLease) (result : TransportResult) :
    FineFrom d ns (Executor.finishAuthorized action decision id lease result) := by
  refine fine_then (fine_raising (gives_perform hfits fun _ _ _ => trivial)) fun reserved => ?_
  refine gives_attempt (stable_reached ns) (fine_evidence hfits action _ _ _) (fun event => ?_)
    fun error herror => ?_
  · exact gives_mono (fun _ h => h.2) (fun _ _ h => h) (fine_perform hfits fun _ => trivial)
  · exact fine_then (fine_perform hfits fun _ => trivial) fun _ => gives_raise herror

theorem fine_failed (action : Action P) (id : OpaqueId) (lease : Option DispatchLease)
    {error : PyError} (herror : ¬ error.Names clockFields) (hns : d.startedMonotonicNs ≤ ns) :
    FineFrom d ns (Executor.failed action id lease error) := by
  refine fine_then ?_ fun _ => fine_then (fine_perform hfits fun _ => trivial) fun cancelled => ?_
  · cases lease with
    | none => exact fine_ret _
    | some lease => exact fine_perform hfits fun _ => trivial
  · cases cancelled with
    | true => exact gives_raise (not_names_of_ne fun _ _ => PyError.noConfusion)
    | false => exact fine_then (fine_failClosed hfits _ _ hns) fun _ => gives_raise herror

theorem fine_attemptDispatch (action : Action P) (decision : Decision P) (id : OpaqueId)
    (nowNs bytes : ℤ) (hns : d.startedMonotonicNs ≤ ns) :
    FineFrom d ns (Executor.attemptDispatch action decision id nowNs bytes) := by
  refine gives_attempt (stable_reached ns) (fine_beginAuthorized hfits action decision id nowNs bytes)
    (fun lease => ?_) fun error herror => fine_failed hfits action id none herror hns
  refine gives_mono (fun _ h => h.2) (fun _ _ h => h) ?_
  refine gives_handle (stable_reached ns) ?_ fun error herror =>
    fine_failed hfits action id (some lease) herror hns
  refine fine_then (fine_raising (gives_perform hfits fun _ _ _ => trivial)) fun secret => ?_
  refine fine_then (fine_raising (gives_perform hfits fun _ _ _ => trivial)) fun result => ?_
  refine fine_then (fine_ofExcept (unrefused_ensure fun _ _ => PyError.noConfusion)) fun _ => ?_
  exact fine_then (fine_finishAuthorized hfits action decision id lease result) fun _ => fine_ret _

theorem fine_dispatch (action : Action P) (decision : Decision P) (nowNs : ℤ)
    (hns : d.startedMonotonicNs ≤ ns) :
    FineFrom d ns (Executor.dispatch d action decision nowNs) := by
  have hunbound {condition : Prop} [Decidable condition] (message : String) :
      Unrefused (ensure condition (.permissionError message)) :=
    unrefused_ensure fun _ _ => PyError.noConfusion
  refine fine_then (fine_ofExcept (avoids_verify _ _)) fun _ => ?_
  refine fine_then (fine_ofExcept ?_) fun _ => ?_
  · iterate 3 refine avoids_bind (hunbound _) fun _ => ?_
    exact avoids_bind (avoids_domainHash _ _) fun _ => hunbound _
  refine fine_then (fine_ofExcept ?_) fun rule => ?_
  · unfold Executor.matchedRule
    split
    · exact avoids_error (not_names_of_ne fun _ _ => PyError.noConfusion)
    · exact avoids_ok _
  cases decision.body.authorizationId with
  | none => exact gives_raise (not_names_of_ne fun _ _ => PyError.noConfusion)
  | some id =>
      refine fine_then (fine_raising (gives_perform hfits fun _ _ _ => trivial)) fun _ => ?_
      exact gives_finalize (stable_reached ns)
        (fine_attemptDispatch hfits action decision id nowNs _ hns)
        (fine_perform hfits fun _ => trivial)

/-- No call ends with the refusal of a reading. -/
theorem fine_body {call : Call P} (hns : d.startedMonotonicNs ≤ ns) (hcall : call.HandsIn d ns) :
    FineFrom d ns (body d call) := by
  cases call with
  | submitRaw raw => exact gives_map (stable_reached ns) (fine_submitRaw hfits raw hns)
  | dispatch action decision nowNs =>
      exact gives_map (stable_reached ns) (fine_dispatch hfits action decision nowNs hns)
  | failClosed reasonCode requestId =>
      exact gives_map (stable_reached ns) (fine_failClosed hfits reasonCode requestId hns)
  | enforceRuntimeDeadline handed =>
      refine gives_map (stable_reached ns) (fine_enforceRuntimeDeadline hfits hns ?_)
      rintro n ⟨⟩
      exact hcall
  | contain trigger triggerNs =>
      refine gives_map (stable_reached ns) (fine_mono hcall.2 ?_)
      exact fine_contain hfits trigger hcall.1
  | emergencyIsolate => exact gives_map (stable_reached ns) (fine_emergencyIsolate hfits)
  | complete => exact gives_map (stable_reached ns) (fine_complete hfits hns)
  | receipt status => exact gives_map (stable_reached ns) (fine_receipt hfits status hns)

theorem covers : (discipline d).Covers fun _ outcome _ =>
    ∀ error, outcome = .error error → ¬ error.Names clockFields where
  stable _ h := h
  calls t {call s} hinv hcall := by
    refine safe_mono ?_ (fine_body hfits hinv.started hcall t s le_rfl)
    rintro outcome _ h error rfl
    exact h
  retire_inv h _ := ⟨h.started, h.ahead⟩
  retire_rely _ _ _ := le_rfl

end Calls

end ClockRange

/-- In every interleaving of calls whose readings lie between the start of the run and its
deadline, no reading is refused, as long as the deadline and the expiry of an authorization
granted at it are in range. -/
theorem clockSafe_of_reachable (P : Platform) (d : Deployment P) (witness : TransparencyWitness P)
    (hfits : ClockFits d) (c : Config (clockedService d))
    (h : Reachable (runtimeWindow d) (Runtime.init d witness, d.startedMonotonicNs) c) :
    ClockSafe d c := by
  have hlimit : 0 ≤ Supervisor.runtimeLimitNs d := by
    have hpositive := (intRange_eq_ok.mp d.manifest.body.killCriteria.maxRuntimeMs.2).1
    unfold Supervisor.runtimeLimitNs
    omega
  have hinit : ClockRange.Inv d (Runtime.init d witness, d.startedMonotonicNs) :=
    ⟨le_rfl, le_add_of_nonneg_right hlimit⟩
  obtain ⟨hinv, hsafe⟩ := holds_of_reachable (ClockRange.covers hfits) hinit h
  refine ⟨?_, ?_, ?_⟩
  · intro t call op next hrunning
    have hready := (hsafe t call _ hrunning c.shared le_rfl hinv).1
    exact ClockRange.inRange_of_ready hfits hinv hready
  · intro t call op next env s result hrunning hmove hexec
    have hready := (hsafe t call _ hrunning c.shared le_rfl hinv).1
    obtain ⟨⟨_, _⟩, hdone, heq⟩ := Option.map_eq_some_iff.mp hexec
    obtain ⟨-, rfl⟩ := Prod.mk.inj heq
    exact ClockRange.accepted_exec hfits hinv hmove hready hdone
  · intro t call error hrunning
    exact hsafe t call _ hrunning error rfl

section Moments

open Reference

/-- A fail-closed call on its own, at one moment. -/
def stopAt (d : Deployment platform) (now : ℤ) : RunRule (runtimeService d) where
  starts _ call := call = .failClosed "operator.stop" none
  moves _ _ env := env = world now

/-- A fail-closed call that has read the clock is about to hand the reading to the ledger. -/
theorem exists_handed (d : Deployment platform) {now : ℤ} (hstart : d.startedMonotonicNs ≤ now)
    (hlast : now ≤ d.deadlineNs) :
    ∃ (c : Config (clockedService d)) (call : Call platform) (kind : EventKind) (payload : Json)
      (next : Except PyError (Event platform) → Prog platform (Reply platform)),
      Reachable (runtimeWindow d) (Runtime.init d Reference.witness, d.startedMonotonicNs) c ∧
      c.running 0 = some (call, .act (.commit kind payload none (some now)) next) := by
  set s₀ := Runtime.init d Reference.witness with hs₀
  have hread : Ends (stopAt d now) 0 s₀ (monotonicNow : Prog platform ℤ) s₀ (.ok now) :=
    ends_raising (ends_perform (world now) rfl (by simp only [exec, world]))
  obtain ⟨s₁, latched, hlatch⟩ : ∃ s₁ latched, Ends (stopAt d now) 0 s₀
      (perform .latchKill : Prog platform (Bool × ℤ × ℤ)) s₁ (.ok latched) :=
    ⟨_, _, ends_perform (world now) rfl (by simp only [exec]; exact if_pos rfl)⟩
  have hruns : Runs (stopAt d now) 0 s₀ (body d (.failClosed "operator.stop" none)) s₁ _ :=
    Runs.bind (Ends.bind hread (Ends.bind hlatch (.refl _ _)))
  have hbegins : (stopAt d now).starts s₀ (.failClosed "operator.stop" none) := rfl
  have hcall : Relation.ReflTransGen (Step (stopAt d now)) (Config.initial s₀) _ :=
    steps_call rfl hbegins hruns
  have hlift (s : Runtime platform) (op : Op platform) (env : World) (earlier : ℤ)
      (hle : earlier ≤ now) (hmove : (stopAt d now).moves s op env) :
      env.monotonicClock = .ok now ∧ (runtimeWindow d).moves (s, earlier) op env := by
    obtain rfl : env = world now := hmove
    refine ⟨rfl, ⟨?_, avoids_ok _, avoids_ok _, fun _ h => (by cases h), avoids_ok _, avoids_ok _⟩⟩
    rintro _ ⟨⟩
    exact ⟨hle, hlast⟩
  have hstarts (s : Runtime platform) (call : Call platform) (earlier : ℤ)
      (hcall : (stopAt d now).starts s call) : (runtimeWindow d).starts (s, earlier) call := by
    obtain rfl : call = .failClosed "operator.stop" none := hcall
    exact trivial
  obtain ⟨after, -, hreach⟩ := steps_at hstart hstarts hlift hcall
  exact ⟨_, _, _, _, _, hreach, rfl⟩

/-- The reference run ends long before the clock leaves its range. -/
theorem clockSafe_stop : ∃ manifest : Manifest platform, ∃ c, ∃ call kind payload next,
    ClockFits (deployment manifest) ∧
    Reachable (runtimeWindow (deployment manifest))
      (Runtime.init (deployment manifest) Reference.witness, 1000) c ∧
    c.running 0 = some (call, .act (.commit kind payload none (some 2000)) next) ∧
    ClockSafe (deployment manifest) c := by
  obtain ⟨manifest, hm⟩ := exists_signed
  have hdeadline : (deployment manifest).deadlineNs = 3600000001000 := by
    change 1000 + manifest.body.killCriteria.maxRuntimeMs.1 * 1000000 = 3600000001000
    rw [hm.body]
    rfl
  have hfits : ClockFits (deployment manifest) := by
    refine ⟨show (0 : ℤ) ≤ 1000 by decide, ?_, show (0 : ℤ) ≤ 1000 + 1000000000 by decide, ?_⟩
    · rw [hdeadline]
      decide
    · rw [hdeadline]
      change (3600000001000 : ℤ) + 1000000000 ≤ maxSafeInteger
      decide
  obtain ⟨c, call, kind, payload, next, hreach, hrunning⟩ :=
    exists_handed (deployment manifest) (show 1000 ≤ 2000 by decide) (by rw [hdeadline]; decide)
  exact ⟨manifest, c, call, kind, payload, next, hfits, hreach, hrunning,
    clockSafe_of_reachable _ _ _ hfits c hreach⟩

/-- The same runtime on a host that has been up for 105 days. -/
theorem not_clockSafe : ¬ ∀ (P : Platform) (d : Deployment P) (witness : TransparencyWitness P),
    0 ≤ d.startedMonotonicNs → ∀ c : Config (clockedService d),
      Reachable (runtimeWindow d) (Runtime.init d witness, d.startedMonotonicNs) c →
        ClockSafe d c := by
  intro hclaim
  obtain ⟨manifest, hm⟩ := exists_signed
  set d : Deployment platform :=
    { deployment manifest with startedMonotonicNs := 105 * 86400 * 1000000000 } with hd
  have hlimit : d.startedMonotonicNs ≤ d.deadlineNs := by
    change d.startedMonotonicNs ≤
      d.startedMonotonicNs + manifest.body.killCriteria.maxRuntimeMs.1 * 1000000
    rw [hm.body]
    exact le_add_of_nonneg_right (by decide)
  obtain ⟨c, call, kind, payload, next, hreach, hrunning⟩ := exists_handed d le_rfl hlimit
  have hnonneg : (0 : ℤ) ≤ 105 * 86400 * 1000000000 := by decide
  have hsafe := hclaim platform d Reference.witness hnonneg c hreach
  have hrange : SafeReading (105 * 86400 * 1000000000) :=
    hsafe.handed 0 call (.commit kind payload none (some d.startedMonotonicNs)) next hrunning
  exact absurd (intRange_eq_ok.mp hrange).2 (by decide)

end Moments

end Containment
