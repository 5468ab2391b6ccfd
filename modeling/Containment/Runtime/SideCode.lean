/-
# Code beside the protocol

Containment, isolation, the watchdog and the receipt commit violations and
acknowledgements. They never commit an event of the request protocol, and they leave the
counters of that protocol alone. The code is walked through once to say so; a result
about requests, decisions, dispatches or results then only looks at the code that makes
them.
-/

import Containment.Concurrency.Execution
import Containment.Runtime.Steps

namespace Containment

open Json Concurrency

variable {P : Platform}

/-- Operations that belong to no request. -/
def Op.Side : Op P → Prop
  | .commit kind _ _ _ => kind = .violation ∨ kind = .overloadSummary ∨ kind = .killAcknowledged
  | .recordDecision _ | .reserve .. | .settle .. => False
  | _ => True

/-- Operations that commit nothing. -/
def Op.Quiet : Op P → Prop
  | .commit .. => False
  | _ => True

theorem all_raising {ok : Op P → Prop} {α : Type} {p : Prog P (Except PyError α)} (hp : p.All ok) :
    (raising p).All ok :=
  all_bind hp all_ofExcept

/-- Operations outside the sections that count and the end of a dispatch, and beside the
ledger and the receipt. -/
def Op.Aside : Op P → Prop
  | .recordDecision _ | .commit .. | .reserve .. | .confirm | .rollback _ | .prepareFinish ..
  | .settle .. | .failFinish | .unregister _ | .seal | .storeReceipt _ | .snapshot => False
  | _ => True

theorem Op.Aside.side {op : Op P} (h : op.Aside) : op.Side := by
  cases op <;> first | exact trivial | exact absurd h id

theorem Op.Aside.quiet {op : Op P} (h : op.Aside) : op.Quiet := by
  cases op <;> first | exact trivial | exact absurd h id

section Aside

variable {ok : Op P → Prop} (haside : ∀ op : Op P, op.Aside → ok op)
  (hevent : ∀ kind payload requestId ns, kind = .violation ∨ kind = .overloadSummary ∨
    kind = .killAcknowledged → ok (.commit kind payload requestId ns))
include haside

/-! ## The supervisor -/

theorem all_monotonicNow : (monotonicNow : Prog P ℤ).All ok :=
  all_raising (all_perform (haside _ trivial))

theorem all_wallNow : (wallNow : Prog P Datetime).All ok :=
  all_raising (all_perform (haside _ trivial))

theorem all_emergencyIsolate : (Supervisor.emergencyIsolate : Prog P Unit).All ok := by
  refine all_bind (all_perform (haside _ trivial)) fun _ => ?_
  refine all_finalize (all_bind (all_perform (haside _ trivial)) fun _ => ?_)
    (all_perform (haside _ trivial))
  refine all_bind (all_perform (haside _ trivial)) fun _ => ?_
  exact all_bind (all_raising (all_perform (haside _ trivial))) fun _ =>
    all_raising (all_perform (haside _ trivial))

/-- A containment commits an acknowledgement. -/
theorem all_receipt (d : Deployment P) (status : Option RunStatus) (hsnapshot : ok .snapshot)
    (hseal : ok .seal) (hstore : ∀ receipt, ok (.storeReceipt receipt)) :
    (Supervisor.receipt d status).All ok := by
  have hperform {op : Op P} (h : op.Aside) : (perform op : Prog P _).All ok :=
    all_perform (haside op h)
  refine all_bind (hperform trivial) fun _ => ?_
  refine all_finalize (all_bind (hperform trivial) fun frozen => ?_) (hperform trivial)
  cases frozen with
  | some frozen => exact all_bind (all_ofExcept _) fun _ => trivial
  | none =>
      refine all_bind (all_perform hsnapshot) fun state => ?_
      refine all_bind (hperform trivial) fun emergency => ?_
      refine all_bind (all_ofExcept _) fun derived => ?_
      refine all_bind (all_ofExcept _) fun _ => ?_
      refine all_bind (all_perform hseal) fun _ => ?_
      refine all_bind (all_wallNow haside) fun finishedAt => ?_
      refine all_bind (all_monotonicNow haside) fun finishedNs => ?_
      refine all_bind (hperform trivial) fun mirror => ?_
      refine all_bind (all_raising (hperform trivial)) fun checkpoint => ?_
      refine all_bind (hperform trivial) fun ack => ?_
      refine all_bind (all_ofExcept _) fun body => ?_
      refine all_bind (all_ofExcept _) fun receipt => ?_
      exact all_bind (all_perform (hstore receipt)) fun _ => trivial

theorem all_complete (d : Deployment P) (hsnapshot : ok .snapshot) (hseal : ok .seal)
    (hstore : ∀ receipt, ok (.storeReceipt receipt)) : (Supervisor.complete d).All ok :=
  all_bind (all_raising (all_perform (haside _ trivial))) fun _ =>
    all_receipt haside d none hsnapshot hseal hstore

theorem all_contain (trigger : Event P) (ns : ℤ)
    (hack : ∀ payload requestId ns, ok (.commit .killAcknowledged payload requestId ns)) :
    (Supervisor.contain trigger ns).All ok := by
  have hperform {op : Op P} (h : op.Aside) : (perform op : Prog P _).All ok :=
    all_perform (haside op h)
  refine all_bind (hperform trivial) fun _ => ?_
  refine all_finalize (all_bind (hperform trivial) fun found => ?_) (hperform trivial)
  cases found with
  | some ack => exact trivial
  | none =>
      refine all_bind (hperform trivial) fun latched => ?_
      refine all_bind (hperform trivial) fun signals => ?_
      refine all_bind (all_wallNow haside) fun requestedAt => ?_
      refine all_bind (all_monotonicNow haside) fun requestedNs => ?_
      refine all_bind (all_raising (hperform trivial)) fun isolation => ?_
      refine all_bind (all_monotonicNow haside) fun acknowledgedNs => ?_
      refine all_bind (all_wallNow haside) fun acknowledgedAt => ?_
      refine all_bind (all_raising (hperform trivial)) fun _ => ?_
      refine all_bind (all_raising (hperform trivial)) fun ack => ?_
      refine all_handle (all_bind (all_raising (all_perform (hack _ _ _))) fun _ => trivial) ?_
      exact fun error => all_bind (hperform trivial) fun _ => trivial

include hevent

theorem all_containment (trigger : Event P) (ns : ℤ) : (Supervisor.contain trigger ns).All ok :=
  all_contain haside trigger ns fun _ _ _ => hevent _ _ _ _ (.inr (.inr rfl))

theorem all_enforceRuntimeDeadline (d : Deployment P) (ns : Option ℤ) (hsnapshot : ok .snapshot) :
    (Supervisor.enforceRuntimeDeadline d ns).All ok := by
  refine all_bind ?_ fun nowNs => ?_
  · cases ns with
    | none => exact all_monotonicNow haside
    | some n => exact trivial
  refine all_bind (all_perform hsnapshot) fun state => ?_
  split_ifs
  · exact trivial
  · refine all_bind (all_perform (haside _ trivial)) fun _ => ?_
    refine all_bind (all_raising (all_perform (hevent _ _ _ _ (.inl rfl)))) fun event => ?_
    exact all_bind (all_containment haside hevent event nowNs) fun _ => trivial

/-! ## The gateway -/

theorem all_report {kind : EventKind} {payload : Json} {requestId : Option String}
    {ns : Option ℤ} (hkind : kind = .violation ∨ kind = .overloadSummary) :
    (Gateway.commit kind payload requestId ns : Prog P (Event P)).All ok := by
  refine all_handle (all_raising (all_perform (hevent _ _ _ _ ?_))) fun error =>
    all_bind (all_emergencyIsolate haside) fun _ => trivial
  exact hkind.elim .inl fun h => .inr (.inl h)

theorem all_rejectMalformed (raw : Bytes) (ns : ℤ) :
    (Gateway.rejectMalformed raw ns : Prog P (GatewayResult P)).All ok := by
  refine all_bind (all_report haside hevent (.inl rfl)) fun event => ?_
  refine all_bind (all_perform (haside _ trivial)) fun _ => ?_
  exact all_bind (all_containment haside hevent event ns) fun _ => trivial

theorem all_rejectOverload (raw : Bytes) (ns : ℤ) :
    (Gateway.rejectOverload raw ns : Prog P (GatewayResult P)).All ok :=
  all_bind (all_report haside hevent (.inr rfl)) fun event =>
    all_bind (all_containment haside hevent event ns) fun _ => trivial

theorem all_rejectLate (ns : ℤ) :
    (Gateway.rejectLate ns : Prog P (GatewayResult P)).All ok := by
  refine all_bind (all_perform (haside _ trivial)) fun _ => ?_
  exact all_bind (all_report haside hevent (.inl rfl)) fun event =>
    all_bind (all_containment haside hevent event ns) fun _ => trivial

omit hevent in
theorem all_latchOnKill (verdict : Verdict) :
    (Gateway.latchOnKill verdict : Prog P Unit).All ok := by
  unfold Gateway.latchOnKill
  split_ifs
  · exact all_bind (all_perform (haside _ trivial)) fun _ => trivial
  · exact trivial

omit hevent in
theorem all_authorization (d : Deployment P) (verdict : Verdict) (ns : ℤ) :
    (Gateway.authorization d verdict ns).All ok := by
  unfold Gateway.authorization
  split_ifs
  · exact all_bind (all_perform (haside _ trivial)) fun _ => trivial
  · exact trivial

theorem all_conclude (action : Action P) (sha : String) (result : PolicyResult)
    (decision : Decision P) : (Gateway.conclude action sha result decision).All ok := by
  unfold Gateway.conclude
  split_ifs
  · refine all_bind (all_report haside hevent (.inl rfl)) fun violation => ?_
    exact all_bind (all_containment haside hevent violation _) fun _ => trivial
  · exact trivial

theorem all_failClosed (reasonCode : String) (requestId : Option String) :
    (Gateway.failClosed reasonCode requestId : Prog P Unit).All ok := by
  refine all_bind (all_monotonicNow haside) fun triggerNs => ?_
  refine all_bind (all_perform (haside _ trivial)) fun _ => ?_
  refine all_bind (all_handle (all_report haside hevent (.inl rfl)) fun _ => ?_) fun trigger => ?_
  · refine all_bind (all_perform (haside _ trivial)) fun events => ?_
    split <;> exact trivial
  · exact all_bind (all_containment haside hevent trigger triggerNs) fun _ => trivial

/-! ## The executor -/

theorem all_failed (action : Action P) (id : OpaqueId) (lease : Option DispatchLease)
    (error : PyError) : (Executor.failed action id lease error).All ok := by
  refine all_bind ?_ fun _ => ?_
  · cases lease with
    | none => exact trivial
    | some lease => exact all_perform (haside _ trivial)
  refine all_bind (all_perform (haside _ trivial)) fun cancelled => ?_
  split_ifs
  · exact trivial
  · exact all_bind (all_failClosed haside hevent _ _) fun _ => trivial

end Aside

/-! ## The same code, as side code -/

section Side

variable (d : Deployment P)

theorem side_event (kind : EventKind) (payload : Json) (requestId : Option String) (ns : Option ℤ)
    (h : kind = .violation ∨ kind = .overloadSummary ∨ kind = .killAcknowledged) :
    (.commit kind payload requestId ns : Op P).Side := h

theorem side_raising {α : Type} {p : Prog P (Except PyError α)} (hp : p.All Op.Side) :
    (raising p).All Op.Side :=
  all_raising hp

theorem side_monotonicNow : (monotonicNow : Prog P ℤ).All Op.Side :=
  all_monotonicNow fun _ h => h.side

theorem side_wallNow : (wallNow : Prog P Datetime).All Op.Side := all_wallNow fun _ h => h.side

theorem side_contain (trigger : Event P) (ns : ℤ) :
    (Supervisor.contain trigger ns).All Op.Side :=
  all_containment (fun _ h => h.side) side_event trigger ns

theorem side_emergencyIsolate : (Supervisor.emergencyIsolate : Prog P Unit).All Op.Side :=
  all_emergencyIsolate fun _ h => h.side

theorem side_enforceRuntimeDeadline (ns : Option ℤ) :
    (Supervisor.enforceRuntimeDeadline d ns).All Op.Side :=
  all_enforceRuntimeDeadline (fun _ h => h.side) side_event d ns trivial

theorem side_receipt (status : Option RunStatus) : (Supervisor.receipt d status).All Op.Side :=
  all_receipt (fun _ h => h.side) d status trivial trivial fun _ => trivial

theorem side_complete : (Supervisor.complete d).All Op.Side :=
  all_complete (fun _ h => h.side) d trivial trivial fun _ => trivial

theorem side_rejectMalformed (raw : Bytes) (ns : ℤ) :
    (Gateway.rejectMalformed raw ns : Prog P (GatewayResult P)).All Op.Side :=
  all_rejectMalformed (fun _ h => h.side) side_event raw ns

theorem side_rejectOverload (raw : Bytes) (ns : ℤ) :
    (Gateway.rejectOverload raw ns : Prog P (GatewayResult P)).All Op.Side :=
  all_rejectOverload (fun _ h => h.side) side_event raw ns

theorem side_rejectLate (ns : ℤ) :
    (Gateway.rejectLate ns : Prog P (GatewayResult P)).All Op.Side :=
  all_rejectLate (fun _ h => h.side) side_event ns

theorem side_latchOnKill (verdict : Verdict) :
    (Gateway.latchOnKill verdict : Prog P Unit).All Op.Side :=
  all_latchOnKill (fun _ h => h.side) verdict

theorem side_authorization (verdict : Verdict) (ns : ℤ) :
    (Gateway.authorization d verdict ns).All Op.Side :=
  all_authorization (fun _ h => h.side) d verdict ns

theorem side_conclude (action : Action P) (sha : String) (result : PolicyResult)
    (decision : Decision P) : (Gateway.conclude action sha result decision).All Op.Side :=
  all_conclude (fun _ h => h.side) side_event action sha result decision

theorem side_failClosed (reasonCode : String) (requestId : Option String) :
    (Gateway.failClosed reasonCode requestId : Prog P Unit).All Op.Side :=
  all_failClosed (fun _ h => h.side) side_event reasonCode requestId

theorem side_failed (action : Action P) (id : OpaqueId) (lease : Option DispatchLease)
    (error : PyError) : (Executor.failed action id lease error).All Op.Side :=
  all_failed (fun _ h => h.side) side_event action id lease error

end Side

/-! ## The code of the protocol -/

section Protocol

variable {ok : Op P → Prop} (hquiet : ∀ op : Op P, op.Quiet → ok op)
  (hside : ∀ op : Op P, op.Side → ok op)
include hquiet

theorem all_beginAuthorized {action : Action P} {decision : Decision P} {id : OpaqueId} (ns bytes : ℤ)
    (hcommit : ∀ sha, ok (.commit .dispatch (Executor.dispatchPayload sha decision id)
      (some action.requestId.1) none)) :
    (Executor.beginAuthorized action decision id ns bytes).All ok := by
  refine all_bind (all_raising (all_perform (hquiet _ trivial))) fun lease => ?_
  refine all_bind (all_attempt (all_bind (all_ofExcept _) fun sha => ?_)) fun outcome => ?_
  · exact all_raising (all_perform (hcommit sha))
  · cases outcome with
    | ok event => exact all_bind (all_perform (hquiet _ trivial)) fun _ => trivial
    | error error => exact all_bind (all_perform (hquiet _ trivial)) fun _ => trivial

theorem all_finishAuthorized {action : Action P} {decision : Decision P} {id : OpaqueId}
    (lease : DispatchLease) {result : TransportResult}
    (hcommit : ∀ sha, ok (.commit .result (Executor.resultPayload sha decision id result)
      (some action.requestId.1) none)) :
    (Executor.finishAuthorized action decision id lease result).All ok := by
  refine all_bind (all_raising (all_perform (hquiet _ trivial))) fun reserved => ?_
  refine all_bind (all_attempt (all_bind (all_ofExcept _) fun sha => ?_)) fun outcome => ?_
  · exact all_raising (all_perform (hcommit sha))
  · cases outcome with
    | ok event => exact all_perform (hquiet _ trivial)
    | error error => exact all_bind (all_perform (hquiet _ trivial)) fun _ => trivial

include hside

/-- A dispatch commits a DISPATCH and a RESULT, beside side code. -/
theorem all_dispatch (d : Deployment P) (action : Action P) (decision : Decision P) (ns : ℤ)
    (hdispatch : ∀ sha id, ok (.commit .dispatch (Executor.dispatchPayload sha decision id)
      (some action.requestId.1) none))
    (hresult : ∀ sha id result, ok (.commit .result (Executor.resultPayload sha decision id result)
      (some action.requestId.1) none)) :
    (Executor.dispatch d action decision ns).All ok := by
  refine all_bind (all_ofExcept _) fun _ => all_bind (all_ofExcept _) fun _ => ?_
  refine all_bind (all_ofExcept _) fun rule => ?_
  cases decision.body.authorizationId with
  | none => exact trivial
  | some id =>
      refine all_bind (all_raising (all_perform (hquiet _ trivial))) fun _ => ?_
      refine all_finalize ?_ (all_perform (hquiet _ trivial))
      refine all_bind (all_attempt (all_beginAuthorized hquiet _ _ fun sha => hdispatch sha id))
        fun outcome => ?_
      cases outcome with
      | error error => exact all_mono hside (side_failed _ _ _ _)
      | ok lease =>
          refine all_handle ?_ fun error => all_mono hside (side_failed _ _ _ _)
          refine all_bind (all_raising (all_perform (hquiet _ trivial))) fun secret => ?_
          refine all_bind (all_raising (all_perform (hquiet _ trivial))) fun result => ?_
          refine all_bind (all_ofExcept _) fun _ => ?_
          exact all_bind (all_finishAuthorized hquiet _ fun sha => hresult sha id result)
            fun _ => trivial

omit hquiet in
theorem all_commit {kind : EventKind} {payload : Json} {requestId : Option String}
    {ns : Option ℤ} (h : ok (.commit kind payload requestId ns)) :
    (Gateway.commit kind payload requestId ns : Prog P (Event P)).All ok :=
  all_handle (all_raising (all_perform h)) fun _ =>
    all_bind (all_mono hside side_emergencyIsolate) fun _ => trivial

/-- A submission commits a REQUEST and a DECISION, beside side code. -/
theorem all_submitRaw (d : Deployment P) (raw : Bytes)
    (hrequest : ∀ payload requestId ns, ok (.commit .request payload requestId ns))
    (hdecision : ∀ payload requestId ns, ok (.commit .decision payload requestId ns)) :
    (Gateway.submitRaw d raw).All ok := by
  refine all_bind (all_mono hside side_monotonicNow) fun admittedNs => ?_
  split_ifs
  · exact all_mono hside (side_rejectLate _)
  refine all_bind (all_perform (hquiet _ trivial)) fun admission => ?_
  cases admission with
  | droppedAfterKill => exact trivial
  | firstOverload => exact all_mono hside (side_rejectOverload _ _)
  | admitted =>
      dsimp only
      cases Action.fromWire P raw with
      | error _ => exact all_mono hside (side_rejectMalformed _ _)
      | ok action =>
          refine all_bind (all_ofExcept _) fun sha => ?_
          refine all_bind (all_commit hside (hrequest _ _ _)) fun request => ?_
          refine all_bind (all_mono hside side_monotonicNow) fun decidedNs => ?_
          refine all_bind (all_mono hside side_wallNow) fun wall => ?_
          refine all_bind (all_ofExcept _) fun decidedAt => ?_
          refine all_bind (all_perform (hquiet _ trivial)) fun result => ?_
          refine all_bind (all_mono hside (side_latchOnKill _)) fun _ => ?_
          refine all_bind (all_perform (hquiet _ trivial)) fun epoch => ?_
          refine all_bind (all_mono hside (side_authorization d _ _)) fun capability => ?_
          refine all_bind (all_ofExcept _) fun decision => ?_
          refine all_bind (all_commit hside (hdecision _ _ _)) fun event => ?_
          refine all_bind (all_perform (hquiet _ trivial)) fun _ => ?_
          exact all_mono hside (side_conclude _ _ _ _)

/-- Every call, by the commits of the protocol. -/
theorem all_body (d : Deployment P) (call : Call P)
    (hrequest : ∀ payload requestId ns, ok (.commit .request payload requestId ns))
    (hdecision : ∀ payload requestId ns, ok (.commit .decision payload requestId ns))
    (hdispatch : ∀ sha (decision : Decision P) id requestId,
      ok (.commit .dispatch (Executor.dispatchPayload sha decision id) requestId none))
    (hresult : ∀ sha (decision : Decision P) id result requestId,
      ok (.commit .result (Executor.resultPayload sha decision id result) requestId none)) :
    (body d call).All ok := by
  have hmap {α : Type} {p : Prog P α} {f : α → Reply P} (hp : p.All ok) : (f <$> p).All ok :=
    all_bind hp fun _ => trivial
  cases call with
  | submitRaw raw => exact hmap (all_submitRaw hquiet hside d raw hrequest hdecision)
  | dispatch action decision ns =>
      exact hmap (all_dispatch hquiet hside d action decision ns
        (fun sha id => hdispatch sha decision id _) fun sha id result => hresult sha decision id result _)
  | failClosed reasonCode requestId => exact hmap (all_mono hside (side_failClosed _ _))
  | enforceRuntimeDeadline ns => exact hmap (all_mono hside (side_enforceRuntimeDeadline d ns))
  | contain trigger ns => exact hmap (all_mono hside (side_contain trigger ns))
  | emergencyIsolate => exact hmap (all_mono hside side_emergencyIsolate)
  | complete => exact hmap (all_mono hside (side_complete d))
  | receipt status => exact hmap (all_mono hside (side_receipt d status))

end Protocol

/-! ## What side code keeps -/

/-- The state of the run, as far as requests have been counted. -/
structure Tally where
  allowed : ℤ
  denied : ℤ
  dispatched : ℤ
  completed : ℤ
  egressBytes : ℤ

def RunState.tally (s : RunState) : Tally :=
  ⟨s.allowed, s.denied, s.dispatched, s.completed, s.egressBytes⟩

theorem tally_latchKillLocked (s : RunState) : s.latchKillLocked.tally = s.tally := by
  unfold RunState.latchKillLocked
  split_ifs <;> rfl

theorem tally_admitRaw (s : RunState) (rawBytes ns : ℤ) : (s.admitRaw rawBytes ns).1.tally = s.tally := by
  unfold RunState.admitRaw
  dsimp only
  split_ifs
  · rfl
  · rw [tally_latchKillLocked]
    unfold RunState.openWindow
    dsimp only
    split
    · rfl
    · split_ifs <;> rfl
  · unfold RunState.openWindow
    dsimp only
    split
    · rfl
    · split_ifs <;> rfl

theorem tally_markKilled (s : RunState) : s.markKilled.1.tally = s.tally := by
  unfold RunState.markKilled
  split_ifs <;> rfl

theorem tally_markCompleted (s : RunState) : s.markCompleted.1.tally = s.tally := by
  unfold RunState.markCompleted
  split_ifs <;> rfl

theorem tally_abortAuthorized (s : RunState) (lease : DispatchLease) :
    (s.abortAuthorized lease).tally = s.tally := by
  unfold RunState.abortAuthorized
  split <;> rfl

theorem tally_prepareFinish (s : RunState) (lease : DispatchLease) (bytes : ℤ) :
    (s.prepareFinish lease bytes).1.tally = s.tally := by
  rcases RunState.prepareFinish_cases s lease bytes with ⟨_, heq⟩ | ⟨_, heq⟩ | ⟨_, -, -, -, heq⟩ <;>
    rw [heq]
  exact tally_latchKillLocked s

variable {d : Deployment P} {env : World} {t : ℕ} {s s' : Runtime P}

/-- An operation that counts nothing. -/
def Op.Uncounted : Op P → Prop
  | .recordDecision _ | .reserve .. | .settle .. => False
  | _ => True

theorem tally_exec {op : Op P} {r : op.Res} (h : exec d env t s op = some (s', r))
    (hop : op.Uncounted) : s'.state.tally = s.state.tally := by
  cases op
  case commit kind payload requestId ns =>
    simp only [exec, Option.some.injEq] at h
    rcases commit_cases d env s kind payload requestId ns with ⟨_, heq⟩ |
      ⟨_, _, _, _, -, -, heq⟩ <;>
    · rw [heq, Prod.mk.injEq] at h
      obtain ⟨rfl, -⟩ := h
      rfl
  case prepareFinish lease egressBytes =>
    have hkept := tally_prepareFinish s.state lease egressBytes
    simp only [exec, Option.ite_none_right_eq_some] at h
    obtain ⟨-, h⟩ := h
    split at h <;>
    · rename_i heq
      rw [heq] at hkept
      simp only [Option.some.injEq, Prod.mk.injEq] at h
      obtain ⟨rfl, -⟩ := h
      exact hkept
  case recordDecision => exact absurd hop id
  case reserve => exact absurd hop id
  case settle => exact absurd hop id
  all_goals
    simp only [exec, onState_eq_some, Option.some.injEq, Prod.mk.injEq,
      Option.ite_none_right_eq_some] at h
  all_goals try split at h
  all_goals try split at h
  all_goals try simp only [Option.some.injEq, Prod.mk.injEq] at h
  all_goals first | obtain ⟨rfl, -⟩ := h | obtain ⟨-, rfl, -⟩ := h
  case admitRaw => exact tally_admitRaw _ _ _
  case latchKill => exact tally_latchKillLocked _
  case rollback => exact tally_latchKillLocked _
  case failFinish => exact tally_latchKillLocked _
  case abort => exact tally_abortAuthorized _ _
  case markKilled => exact tally_markKilled _
  case markCompleted => exact tally_markCompleted _
  all_goals rfl

theorem Op.Side.uncounted {op : Op P} (h : op.Side) : op.Uncounted := by
  cases op <;> first | exact trivial | exact h

/-- Side code adds no event of the request protocol. -/
theorem side_events {op : Op P} {r : op.Res} (h : exec d env t s op = some (s', r))
    (hop : op.Side) : s'.ledger.events = s.ledger.events ∨ ∃ event,
      s'.ledger.events = s.ledger.events ++ [event] ∧
      (event.body.kind = .violation ∨ event.body.kind = .overloadSummary ∨
        event.body.kind = .killAcknowledged) := by
  by_cases hcommit : ∃ kind payload requestId ns, op = .commit kind payload requestId ns
  · obtain ⟨kind, payload, requestId, ns, rfl⟩ := hcommit
    simp only [exec, Option.some.injEq] at h
    rcases commit_cases d env s kind payload requestId ns with ⟨_, heq⟩ |
      ⟨event, _, _, _, happend, -, heq⟩
    · rw [heq, Prod.mk.injEq] at h
      obtain ⟨rfl, -⟩ := h
      exact .inl rfl
    · rw [heq, Prod.mk.injEq] at h
      obtain ⟨rfl, -⟩ := h
      obtain ⟨-, hkind, -, -⟩ := append_ok happend
      exact .inr ⟨event, rfl, by rw [hkind]; exact hop⟩
  · simp only [not_exists] at hcommit
    exact .inl (events_exec h hcommit).1

end Containment
