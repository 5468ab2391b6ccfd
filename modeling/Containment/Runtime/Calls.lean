/-
# Calls without a precondition

Most of the runtime's code needs nothing from the state it runs in. A safety
result is about a few sections: the two halves of a dispatch that hold the state
lock, the containment, and sometimes the commit of a violation. Given those, the
rest of every call is safe for the same reason in each result, so it is walked
through once.
-/

import Containment.Runtime.Steps

namespace Containment

open Json Concurrency Discipline

variable {P : Platform} {d : Deployment P} {S : Service (Op P) Op.Res PyError} {rule : RunRule S}
  {D : Discipline rule}

/-- Operations outside the dispatch sections and the containment that commit
nothing. -/
def Op.Plain : Op P → Prop
  | .reserve .. | .confirm | .rollback .. | .prepareFinish .. | .settle .. | .failFinish => False
  | .markKilled | .acknowledge .. | .dropAcknowledgement | .raiseEmergency => False
  | .acquireContain | .releaseContain | .isolate | .signalAll | .commit .. => False
  | _ => True

variable (D) in
/-- Every plain operation is always ready. -/
def PlainReady : Prop := ∀ op : Op P, op.Plain → ∀ t s, D.inv s → D.ready t s op

variable (D) in
/-- The gateway's commits are always ready. -/
def GatewayReady : Prop :=
  ∀ kind payload requestId ns, kind = .request ∨ kind = .decision ∨ kind = .violation ∨
    kind = .overloadSummary → ∀ t s, D.inv s → D.ready t s (.commit kind payload requestId ns)

theorem clean_raising {α : Type} {p : Prog P (Except PyError α)} (hp : D.Clean p) :
    D.Clean (raising p) :=
  clean_bind hp clean_ofExcept

theorem clean_monotonicNow (hplain : PlainReady D) : D.Clean (monotonicNow : Prog P ℤ) :=
  clean_raising (clean_perform (hplain _ trivial))

theorem clean_wallNow (hplain : PlainReady D) : D.Clean (wallNow : Prog P Datetime) :=
  clean_raising (clean_perform (hplain _ trivial))

/-! ## The receipt -/

theorem clean_receiptFresh (hplain : PlainReady D) (status : Option RunStatus) :
    D.Clean (Supervisor.receiptFresh d status) := by
  refine clean_bind (clean_perform (hplain _ trivial)) fun state => ?_
  refine clean_bind (clean_perform (hplain _ trivial)) fun emergency => ?_
  refine clean_bind (clean_ofExcept _) fun derived => ?_
  refine clean_bind (clean_ofExcept _) fun _ => ?_
  refine clean_bind (clean_perform (hplain _ trivial)) fun _ => ?_
  refine clean_bind (clean_wallNow hplain) fun finishedAt => ?_
  refine clean_bind (clean_monotonicNow hplain) fun finishedNs => ?_
  refine clean_bind (clean_perform (hplain _ trivial)) fun mirror => ?_
  refine clean_bind (clean_raising (clean_perform (hplain _ trivial))) fun checkpoint => ?_
  refine clean_bind (clean_perform (hplain _ trivial)) fun ack => ?_
  refine clean_bind (clean_ofExcept _) fun body => ?_
  refine clean_bind (clean_ofExcept _) fun receipt => ?_
  exact clean_bind (clean_perform (hplain _ trivial)) fun _ => clean_ret _

theorem clean_receipt (hplain : PlainReady D) (status : Option RunStatus) :
    D.Clean (Supervisor.receipt d status) := by
  refine clean_bind (clean_perform (hplain _ trivial)) fun _ => ?_
  refine clean_finalize (clean_bind (clean_perform (hplain _ trivial)) fun frozen => ?_)
    (clean_perform (hplain _ trivial))
  cases frozen with
  | none => exact clean_receiptFresh hplain status
  | some frozen => exact clean_bind (clean_ofExcept _) fun _ => clean_ret _

theorem clean_complete (hplain : PlainReady D) : D.Clean (Supervisor.complete d) :=
  clean_bind (clean_raising (clean_perform (hplain _ trivial))) fun _ => clean_receipt hplain none

/-! ## The executor -/

theorem clean_deliver (hplain : PlainReady D)
    (hfinish : ∀ action decision id lease result,
      D.Clean (Executor.finishAuthorized action decision id lease result))
    (action : Action P) (decision : Decision P) (id : OpaqueId) (bytes : ℤ)
    (lease : DispatchLease) : D.Clean (Executor.deliver action decision id bytes lease) := by
  refine clean_bind (clean_raising (clean_perform (hplain _ trivial))) fun secret => ?_
  refine clean_bind (clean_raising (clean_perform (hplain _ trivial))) fun result => ?_
  refine clean_bind (clean_ofExcept _) fun _ => ?_
  exact clean_bind (hfinish action decision id lease result) fun _ => clean_ret _

theorem clean_failed (hplain : PlainReady D)
    (hfailClosed : ∀ reason request, D.Clean (Gateway.failClosed reason request : Prog P Unit))
    (action : Action P) (id : OpaqueId) (lease : Option DispatchLease) (error : PyError) :
    D.Clean (Executor.failed action id lease error) := by
  refine clean_bind ?_ fun _ => ?_
  · cases lease with
    | none => exact clean_ret _
    | some lease => exact clean_perform (hplain _ trivial)
  · refine clean_bind (clean_perform (hplain _ trivial)) fun cancelled => ?_
    cases cancelled with
    | true => exact clean_raise _
    | false => exact clean_bind (hfailClosed _ _) fun _ => clean_raise _

theorem clean_dispatch (hplain : PlainReady D)
    (hbegin : ∀ action decision id nowNs bytes,
      D.Clean (Executor.beginAuthorized action decision id nowNs bytes))
    (hfinish : ∀ action decision id lease result,
      D.Clean (Executor.finishAuthorized action decision id lease result))
    (hfailClosed : ∀ reason request, D.Clean (Gateway.failClosed reason request : Prog P Unit))
    (action : Action P) (decision : Decision P) (nowNs : ℤ) :
    D.Clean (Executor.dispatch d action decision nowNs) := by
  refine clean_bind (clean_ofExcept _) fun _ => ?_
  refine clean_bind (clean_ofExcept _) fun _ => ?_
  refine clean_bind (clean_ofExcept _) fun rule => ?_
  cases decision.body.authorizationId with
  | none => exact clean_raise _
  | some id =>
      refine clean_bind (clean_raising (clean_perform (hplain _ trivial))) fun _ => ?_
      refine clean_finalize ?_ (clean_perform (hplain _ trivial))
      refine clean_bind (clean_attempt (hbegin _ _ _ _ _)) fun outcome => ?_
      cases outcome with
      | error error => exact clean_failed hplain hfailClosed action id none error
      | ok lease =>
          exact clean_handle (clean_deliver hplain hfinish action decision id _ lease)
            (clean_failed hplain hfailClosed action id (some lease))

/-! ## The gateway and the watchdog -/

section Gateway

variable (hplain : PlainReady D) (hgateway : GatewayReady D)
  (hcontain : ∀ trigger ns, D.Clean (Supervisor.contain trigger ns : Prog P _))
  (hisolate : D.Clean (Supervisor.emergencyIsolate : Prog P Unit))
include hplain hgateway hcontain hisolate

omit hplain hcontain in
theorem clean_gatewayCommit (kind : EventKind) (payload : Json) (requestId : Option String)
    (ns : Option ℤ) (hkind : kind = .request ∨ kind = .decision ∨ kind = .violation ∨
      kind = .overloadSummary) :
    D.Clean (Gateway.commit kind payload requestId ns : Prog P (Event P)) :=
  clean_handle (clean_raising (clean_perform (hgateway kind payload requestId ns hkind)))
    fun _ => clean_bind hisolate fun _ => clean_raise _

theorem clean_failClosed (reason : String) (requestId : Option String) :
    D.Clean (Gateway.failClosed reason requestId : Prog P Unit) := by
  refine clean_bind (clean_monotonicNow hplain) fun triggerNs => ?_
  refine clean_bind (clean_perform (hplain _ trivial)) fun _ => ?_
  refine clean_bind (clean_handle ?_ fun _ => ?_) fun trigger => ?_
  · exact clean_gatewayCommit hgateway hisolate _ _ _ _ (by simp)
  · refine clean_bind (clean_perform (hplain _ trivial)) fun events => ?_
    cases events.getLast? with
    | none => exact clean_raise _
    | some event => exact clean_ret _
  · exact clean_bind (hcontain _ _) fun _ => clean_ret _

omit hisolate in
theorem clean_enforceRuntimeDeadline (ns : Option ℤ) :
    D.Clean (Supervisor.enforceRuntimeDeadline d ns) := by
  refine clean_bind ?_ fun nowNs => ?_
  · cases ns with
    | none => exact clean_monotonicNow hplain
    | some ns => exact clean_ret _
  · refine clean_bind (clean_perform (hplain _ trivial)) fun state => ?_
    split_ifs with hphase
    · exact clean_ret _
    · refine clean_bind (clean_perform (hplain _ trivial)) fun _ => ?_
      refine clean_bind (clean_raising (clean_perform (hgateway _ _ _ _ (by simp))))
        fun event => ?_
      exact clean_bind (hcontain _ _) fun _ => clean_ret _

omit hplain in
theorem clean_conclude (action : Action P) (sha : String) (result : PolicyResult)
    (decision : Decision P) : D.Clean (Gateway.conclude action sha result decision) := by
  unfold Gateway.conclude
  split_ifs with hkill
  · refine clean_bind (clean_gatewayCommit hgateway hisolate _ _ _ _ (by simp)) fun event => ?_
    exact clean_bind (hcontain _ _) fun _ => clean_ret _
  · exact clean_ret _

omit hgateway hcontain hisolate in
theorem clean_latchOnKill (verdict : Verdict) :
    D.Clean (Gateway.latchOnKill verdict : Prog P Unit) := by
  unfold Gateway.latchOnKill
  split_ifs
  · exact clean_bind (clean_perform (hplain _ trivial)) fun _ => clean_ret _
  · exact clean_ret _

omit hgateway hcontain hisolate in
theorem clean_authorization (verdict : Verdict) (decidedNs : ℤ) :
    D.Clean (Gateway.authorization d verdict decidedNs) := by
  unfold Gateway.authorization
  split_ifs
  · exact clean_bind (clean_perform (hplain _ trivial)) fun _ => clean_ret _
  · exact clean_ret _

theorem clean_decideAction (action : Action P) (admittedNs : ℤ) :
    D.Clean (Gateway.decideAction d action admittedNs) := by
  refine clean_bind (clean_ofExcept _) fun sha => ?_
  refine clean_bind (clean_gatewayCommit hgateway hisolate _ _ _ _ (by simp)) fun request => ?_
  refine clean_bind (clean_monotonicNow hplain) fun decidedNs => ?_
  refine clean_bind (clean_wallNow hplain) fun now => ?_
  refine clean_bind (clean_ofExcept _) fun decidedAt => ?_
  refine clean_bind (clean_perform (hplain _ trivial)) fun result => ?_
  refine clean_bind (clean_latchOnKill hplain _) fun _ => ?_
  refine clean_bind (clean_perform (hplain _ trivial)) fun epoch => ?_
  refine clean_bind (clean_authorization hplain _ _) fun authorization => ?_
  refine clean_bind (clean_ofExcept _) fun decision => ?_
  refine clean_bind (clean_gatewayCommit hgateway hisolate _ _ _ _ (by simp)) fun _ => ?_
  refine clean_bind (clean_perform (hplain _ trivial)) fun _ => ?_
  exact clean_conclude hgateway hcontain hisolate _ _ _ _

theorem clean_submitRaw (raw : Bytes) : D.Clean (Gateway.submitRaw d raw) := by
  refine clean_bind (clean_monotonicNow hplain) fun admittedNs => ?_
  have hcommit := clean_gatewayCommit hgateway hisolate
  split_ifs with hlate
  · refine clean_bind (clean_perform (hplain _ trivial)) fun _ => ?_
    refine clean_bind (hcommit _ _ _ _ (by simp)) fun event => ?_
    exact clean_bind (hcontain _ _) fun _ => clean_ret _
  · refine clean_bind (clean_perform (hplain _ trivial)) fun admission => ?_
    cases admission with
    | droppedAfterKill => exact clean_ret _
    | firstOverload =>
        refine clean_bind (hcommit _ _ _ _ (by simp)) fun event => ?_
        exact clean_bind (hcontain _ _) fun _ => clean_ret _
    | admitted =>
        dsimp only
        cases Action.fromWire P raw with
        | ok action => exact clean_decideAction hplain hgateway hcontain hisolate action admittedNs
        | error error =>
            refine clean_bind (hcommit _ _ _ _ (by simp)) fun event => ?_
            refine clean_bind (clean_perform (hplain _ trivial)) fun _ => ?_
            exact clean_bind (hcontain _ _) fun _ => clean_ret _

/-- Every call is clean once the dispatch sections and the containment are. -/
theorem clean_body
    (hbegin : ∀ action decision id nowNs bytes,
      D.Clean (Executor.beginAuthorized action decision id nowNs bytes))
    (hfinish : ∀ action decision id lease result,
      D.Clean (Executor.finishAuthorized action decision id lease result))
    (call : Call P) : D.Clean (body d call) := by
  have hfailClosed := clean_failClosed hplain hgateway hcontain hisolate
  cases call with
  | submitRaw raw => exact clean_map (clean_submitRaw hplain hgateway hcontain hisolate raw)
  | dispatch action decision nowNs =>
      exact clean_map (clean_dispatch hplain hbegin hfinish hfailClosed action decision nowNs)
  | failClosed reason requestId => exact clean_map (hfailClosed reason requestId)
  | enforceRuntimeDeadline ns =>
      exact clean_map (clean_enforceRuntimeDeadline hplain hgateway hcontain ns)
  | contain trigger ns => exact clean_map (hcontain trigger ns)
  | emergencyIsolate => exact clean_map hisolate
  | complete => exact clean_map (clean_complete hplain)
  | receipt status => exact clean_map (clean_receipt hplain status)

end Gateway

/-- A discipline whose calls are all clean and whose retirement writes the history
only covers every call with nothing left to show. -/
theorem covers_of_clean (hclean : ∀ call, D.Clean (S.body call))
    (hinv : ∀ call outcome s, D.inv s → D.inv (S.retire call outcome s))
    (hrely : ∀ call outcome s u, D.rely u s (S.retire call outcome s)) :
    D.Covers fun _ _ _ => True where
  stable _ _ := trivial
  calls t {call} s _ _ := hclean call t s
  retire_inv {call outcome s} h _ := hinv call outcome s h
  retire_rely {call outcome s} _ _ u := hrely call outcome s u

end Containment
