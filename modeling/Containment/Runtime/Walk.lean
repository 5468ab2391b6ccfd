/-
# Following the code of a call

A predicate that holds of a sequence when it holds of its parts is established along the code
of the calls. The code is followed once, for any such predicate: what is left to each result
are the operations it is about and the sections that take a lock.
-/

import Containment.Concurrency.Execution
import Containment.Runtime.Executor

namespace Containment

open Json Concurrency

variable {P : Platform} {d : Deployment P}

/-- A predicate on code that is established part by part. -/
structure Compositional (K : (α : Type) → Prog P α → Prop) : Prop where
  ret : ∀ {α : Type} (value : α), K α (.ret value)
  raise : ∀ {α : Type} (error : PyError), K α (.raise error)
  bind : ∀ {α β : Type} {p : Prog P α} {next : α → Prog P β}, K α p → (∀ value, K β (next value)) →
    K β (p >>= next)
  attempt : ∀ {α : Type} {p : Prog P α}, K α p → K (Except PyError α) p.attempt

/-- To perform allowed operations only is such a predicate. -/
theorem compositional_all (ok : Op P → Prop) : Compositional fun _ p => (p : Prog P _).All ok where
  ret _ := trivial
  raise _ := trivial
  bind := all_bind
  attempt := all_attempt

/-- The operations of the gateway and the watchdog outside of their commits. -/
def Op.Ordinary : Op P → Prop
  | .monotonicClock | .wallClock | .tokenHex | .admitRaw .. | .latchKill | .currentEpoch
  | .recordDecision _ | .snapshot | .authorize .. | .events => True
  | _ => False

/-- The operations of the containment and the receipt outside of their commits. -/
def Op.OfSupervisor : Op P → Prop
  | .monotonicClock | .wallClock | .latchKill | .snapshot | .markKilled | .markCompleted
  | .signalAll | .acquireContain | .releaseContain | .readAcknowledgement | .isolate
  | .acknowledge _ | .dropAcknowledgement | .raiseEmergency | .acquireReceipt | .releaseReceipt
  | .readReceipt | .readEmergency | .seal | .mirrorSnapshot | .checkpoint .. | .storeReceipt _ => True
  | _ => False

/-- The kinds of events the gateway commits. -/
def EventKind.OfGateway (kind : EventKind) : Prop :=
  kind = .request ∨ kind = .decision ∨ kind = .violation ∨ kind = .overloadSummary

namespace Compositional

variable {K : (α : Type) → Prog P α → Prop} (h : Compositional K)
include h

theorem ofExcept {α : Type} (outcome : Except PyError α) : K α (.ofExcept outcome) := by
  cases outcome with
  | ok value => exact h.ret value
  | error error => exact h.raise error

theorem raising {α : Type} {p : Prog P (Except PyError α)} (hp : K _ p) :
    K α (Containment.raising p) :=
  h.bind hp h.ofExcept

theorem handle {α : Type} {p : Prog P α} {handler : PyError → Prog P α} (hp : K α p)
    (hhandler : ∀ error, K α (handler error)) : K α (p.handle handler) := by
  refine h.bind (h.attempt hp) fun outcome => ?_
  cases outcome with
  | ok value => exact h.ret value
  | error error => exact hhandler error

theorem finalize {α : Type} {p : Prog P α} {finalizer : Prog P Unit} (hp : K α p)
    (hfinalizer : K Unit finalizer) : K α (p.finalize finalizer) :=
  h.bind (h.attempt hp) fun outcome => h.bind hfinalizer fun _ => h.ofExcept outcome

theorem map {α β : Type} {p : Prog P α} (f : α → β) (hp : K α p) : K β (f <$> p) :=
  h.bind hp fun value => h.ret (f value)

section Gateway

variable (hordinary : ∀ op : Op P, op.Ordinary → K _ (perform op))
  (hcommit : ∀ kind payload requestId ns, EventKind.OfGateway kind →
    K _ (perform (.commit kind payload requestId ns)))
  (hcontain : ∀ trigger ns, K _ (Supervisor.contain trigger ns))
  (hisolate : K _ Supervisor.emergencyIsolate)
include hordinary

theorem monotonicNow : K ℤ Containment.monotonicNow := h.raising (hordinary .monotonicClock trivial)

theorem wallNow : K Datetime Containment.wallNow := h.raising (hordinary .wallClock trivial)

include hcommit hisolate

omit hordinary in
theorem gatewayCommit {kind : EventKind} (hkind : kind.OfGateway) (payload : Json)
    (requestId : Option String) (ns : Option ℤ) : K _ (Gateway.commit kind payload requestId ns) :=
  h.handle (h.raising (hcommit kind payload requestId ns hkind)) fun error =>
    h.bind hisolate fun _ => h.raise error

include hcontain

omit hordinary in
/-- The end of a refusal: a trigger is committed and the run is contained. -/
theorem report {kind : EventKind} (hkind : kind.OfGateway) (payload : Json)
    (requestId : Option String) (ns : Option ℤ) (clock : Event P → ℤ) {α : Type} (value : α) :
    K α (do
      let event ← Gateway.commit kind payload requestId ns
      let _ ← Supervisor.contain event (clock event)
      return value) :=
  h.bind (h.gatewayCommit hcommit hisolate hkind payload requestId ns) fun event =>
    h.bind (hcontain event (clock event)) fun _ => h.ret value

theorem failClosed (reasonCode : String) (requestId : Option String) :
    K Unit (Gateway.failClosed reasonCode requestId) := by
  refine h.bind (h.monotonicNow hordinary) fun triggerNs => ?_
  refine h.bind (hordinary _ trivial) fun _ => ?_
  refine h.bind (h.handle ?_ fun _ => ?_) fun trigger => ?_
  · exact h.gatewayCommit hcommit hisolate (.inr (.inr (.inl rfl))) _ _ _
  · refine h.bind (hordinary _ trivial) fun events => ?_
    cases events.getLast? with
    | none => exact h.raise _
    | some event => exact h.ret event
  · exact h.bind (hcontain trigger triggerNs) fun _ => h.ret ()

omit hisolate in
theorem enforceRuntimeDeadline (d : Deployment P) (ns : Option ℤ) :
    K Bool (Supervisor.enforceRuntimeDeadline d ns) := by
  refine h.bind ?_ fun nowNs => ?_
  · cases ns with
    | none => exact h.monotonicNow hordinary
    | some ns => exact h.ret ns
  refine h.bind (hordinary _ trivial) fun state => ?_
  split_ifs
  · exact h.ret false
  · refine h.bind (hordinary _ trivial) fun _ => ?_
    refine h.bind (h.raising (hcommit _ _ _ _ (.inr (.inr (.inl rfl))))) fun event => ?_
    exact h.bind (hcontain event nowNs) fun _ => h.ret true

omit hordinary in
theorem conclude (action : Action P) (sha : String) (result : PolicyResult)
    (decision : Decision P) : K _ (Gateway.conclude action sha result decision) := by
  unfold Gateway.conclude
  split_ifs
  · exact h.report hcommit hcontain hisolate (.inr (.inr (.inl rfl))) _ _ _
      (fun violation => violation.body.monotonicNs.1) _
  · exact h.ret _

omit hcommit hcontain hisolate in
theorem latchOnKill (verdict : Verdict) : K Unit (Gateway.latchOnKill verdict) := by
  unfold Gateway.latchOnKill
  split_ifs
  · exact h.bind (hordinary _ trivial) fun _ => h.ret ()
  · exact h.ret ()

omit hcommit hcontain hisolate in
theorem authorization (d : Deployment P) (verdict : Verdict) (decidedNs : ℤ) :
    K _ (Gateway.authorization d verdict decidedNs) := by
  unfold Gateway.authorization
  split_ifs
  · exact h.bind (hordinary _ trivial) fun token => h.ret _
  · exact h.ret _

theorem decideAction (d : Deployment P) (action : Action P) (admittedNs : ℤ) :
    K _ (Gateway.decideAction d action admittedNs) := by
  refine h.bind (h.ofExcept _) fun sha => ?_
  refine h.bind (h.gatewayCommit hcommit hisolate (.inl rfl) _ _ _) fun request => ?_
  refine h.bind (h.monotonicNow hordinary) fun decidedNs => ?_
  refine h.bind (h.wallNow hordinary) fun now => ?_
  refine h.bind (h.ofExcept _) fun decidedAt => ?_
  refine h.bind (hordinary _ trivial) fun result => ?_
  refine h.bind (h.latchOnKill hordinary _) fun _ => ?_
  refine h.bind (hordinary _ trivial) fun epoch => ?_
  refine h.bind (h.authorization hordinary d _ _) fun authorization => ?_
  refine h.bind (h.ofExcept _) fun decision => ?_
  refine h.bind (h.gatewayCommit hcommit hisolate (.inr (.inl rfl)) _ _ _) fun _ => ?_
  refine h.bind (hordinary (.recordDecision result.verdict) trivial) fun _ => ?_
  exact h.conclude hcommit hcontain hisolate _ _ _ _

theorem submitRaw (d : Deployment P) (raw : Bytes) : K _ (Gateway.submitRaw d raw) := by
  refine h.bind (h.monotonicNow hordinary) fun admittedNs => ?_
  split_ifs
  · exact h.bind (hordinary _ trivial) fun _ =>
      h.report hcommit hcontain hisolate (.inr (.inr (.inl rfl))) _ _ _ (fun _ => admittedNs) _
  refine h.bind (hordinary _ trivial) fun admission => ?_
  cases admission with
  | droppedAfterKill => exact h.ret _
  | firstOverload => exact h.report hcommit hcontain hisolate (.inr (.inr (.inr rfl))) _ _ _ (fun _ => admittedNs) _
  | admitted =>
      dsimp only
      cases Action.fromWire P raw with
      | ok action => exact h.decideAction hordinary hcommit hcontain hisolate d action admittedNs
      | error _ =>
          refine h.bind (h.gatewayCommit hcommit hisolate (.inr (.inr (.inl rfl))) _ _ _) fun event => ?_
          refine h.bind (hordinary _ trivial) fun _ => ?_
          exact h.bind (hcontain event admittedNs) fun _ => h.ret _

end Gateway

section Supervisor

variable (hop : ∀ op : Op P, op.OfSupervisor → K _ (perform op))
include hop

theorem emergencyIsolate : K Unit Supervisor.emergencyIsolate := by
  refine h.bind (hop .acquireContain trivial) fun _ =>
    h.finalize (h.bind (hop .raiseEmergency trivial) fun _ => ?_) (hop .releaseContain trivial)
  refine h.bind (hop .latchKill trivial) fun _ => ?_
  exact h.bind (h.raising (hop .isolate trivial)) fun _ => h.raising (hop .markKilled trivial)

theorem contain (hcommit : ∀ payload requestId ns,
      K _ (perform (.commit .killAcknowledged payload requestId ns)))
    (trigger : Event P) (ns : ℤ) : K _ (Supervisor.contain trigger ns) := by
  refine h.bind (hop .acquireContain trivial) fun _ =>
    h.finalize (h.bind (hop .readAcknowledgement trivial) fun found => ?_) (hop .releaseContain trivial)
  cases found with
  | some ack => exact h.ret ack
  | none =>
      refine h.bind (hop .latchKill trivial) fun latched => ?_
      refine h.bind (hop .signalAll trivial) fun signals => ?_
      refine h.bind (h.raising (hop .wallClock trivial)) fun requestedAt => ?_
      refine h.bind (h.raising (hop .monotonicClock trivial)) fun requestedNs => ?_
      refine h.bind (h.raising (hop .isolate trivial)) fun isolation => ?_
      refine h.bind (h.raising (hop .monotonicClock trivial)) fun acknowledgedNs => ?_
      refine h.bind (h.raising (hop .wallClock trivial)) fun acknowledgedAt => ?_
      refine h.bind (h.raising (hop .markKilled trivial)) fun _ => ?_
      refine h.bind (h.raising (hop (.acknowledge _) trivial)) fun ack => ?_
      refine h.handle (h.bind (h.raising (hcommit _ _ _)) fun _ => h.ret ack) fun error => ?_
      exact h.bind (hop .dropAcknowledgement trivial) fun _ => h.raise error

theorem receipt (d : Deployment P) (status : Option RunStatus) :
    K _ (Supervisor.receipt d status) := by
  refine h.bind (hop .acquireReceipt trivial) fun _ =>
    h.finalize (h.bind (hop .readReceipt trivial) fun found => ?_) (hop .releaseReceipt trivial)
  cases found with
  | some frozen => exact h.bind (h.ofExcept _) fun _ => h.ret frozen
  | none =>
      refine h.bind (hop .snapshot trivial) fun state => ?_
      refine h.bind (hop .readEmergency trivial) fun emergency => ?_
      refine h.bind (h.ofExcept _) fun derived => h.bind (h.ofExcept _) fun _ => ?_
      refine h.bind (hop .seal trivial) fun _ => ?_
      refine h.bind (h.raising (hop .wallClock trivial)) fun finishedAt => ?_
      refine h.bind (h.raising (hop .monotonicClock trivial)) fun finishedNs => ?_
      refine h.bind (hop .mirrorSnapshot trivial) fun mirror => ?_
      refine h.bind (h.raising (hop (.checkpoint ..) trivial)) fun checkpoint => ?_
      refine h.bind (hop .readAcknowledgement trivial) fun ack => ?_
      refine h.bind (h.ofExcept _) fun body => h.bind (h.ofExcept _) fun receipt => ?_
      exact h.bind (hop (.storeReceipt receipt) trivial) fun _ => h.ret receipt

theorem complete (d : Deployment P) : K _ (Supervisor.complete d) :=
  h.bind (h.raising (hop .markCompleted trivial)) fun _ => h.receipt hop d none

end Supervisor

section Executor

variable (hset : ∀ id, K _ (perform (.isSet id))) (habort : ∀ lease, K _ (perform (.abort lease)))
  (hfailClosed : ∀ reasonCode requestId, K _ (Gateway.failClosed reasonCode requestId))
include hset habort hfailClosed

theorem failed (action : Action P) (id : OpaqueId) (lease : Option DispatchLease)
    (error : PyError) : K _ (Executor.failed action id lease error) := by
  refine h.bind ?_ fun _ => ?_
  · cases lease with
    | none => exact h.ret ()
    | some lease => exact habort lease
  refine h.bind (hset id) fun cancelled => ?_
  cases cancelled with
  | true => exact h.raise _
  | false => exact h.bind (hfailClosed _ _) fun _ => h.raise error

theorem dispatch (d : Deployment P) (hregister : ∀ id, K _ (perform (.register id)))
    (hunregister : ∀ id, K _ (perform (.unregister id)))
    (hbegin : ∀ action decision id nowNs bytes,
      K _ (Executor.beginAuthorized action decision id nowNs bytes))
    (hdeliver : ∀ action decision id bytes lease,
      K _ (Executor.deliver action decision id bytes lease))
    (action : Action P) (decision : Decision P) (nowNs : ℤ) :
    K _ (Executor.dispatch d action decision nowNs) := by
  refine h.bind (h.ofExcept _) fun _ => ?_
  refine h.bind (h.ofExcept _) fun _ => ?_
  refine h.bind (h.ofExcept _) fun rule => ?_
  cases decision.body.authorizationId with
  | none => exact h.raise _
  | some id =>
      refine h.bind (h.raising (hregister id)) fun _ => ?_
      refine h.finalize (h.bind (h.attempt (hbegin _ _ _ _ _)) fun outcome => ?_) (hunregister id)
      cases outcome with
      | error error => exact h.failed hset habort hfailClosed action id none error
      | ok lease =>
          exact h.handle (hdeliver action decision id _ lease)
            (h.failed hset habort hfailClosed action id (some lease))

end Executor

/-- Every call. -/
theorem body (d : Deployment P) (hsubmitRaw : ∀ raw, K _ (Gateway.submitRaw d raw))
    (hdispatch : ∀ action decision nowNs, K _ (Executor.dispatch d action decision nowNs))
    (hfailClosed : ∀ reasonCode requestId, K _ (Gateway.failClosed reasonCode requestId))
    (hdeadline : ∀ ns, K _ (Supervisor.enforceRuntimeDeadline d ns))
    (hcontain : ∀ trigger ns, K _ (Supervisor.contain trigger ns))
    (hisolate : K _ Supervisor.emergencyIsolate)
    (hcomplete : K _ (Supervisor.complete d)) (hreceipt : ∀ status, K _ (Supervisor.receipt d status))
    (call : Call P) : K _ (Containment.body d call) := by
  cases call with
  | submitRaw raw => exact h.map _ (hsubmitRaw raw)
  | dispatch action decision nowNs => exact h.map _ (hdispatch action decision nowNs)
  | failClosed reasonCode requestId => exact h.map _ (hfailClosed reasonCode requestId)
  | enforceRuntimeDeadline ns => exact h.map _ (hdeadline ns)
  | contain trigger ns => exact h.map _ (hcontain trigger ns)
  | emergencyIsolate => exact h.map _ hisolate
  | complete => exact h.map _ hcomplete
  | receipt status => exact h.map _ (hreceipt status)

end Compositional

end Containment
