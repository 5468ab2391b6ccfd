/-
# The locks of the runtime

The run state, the containment and the receipt have a lock each. A dispatch keeps the lock of
the state over the commit of its evidence, and a containment and a receipt take it again and
again under their own. Every other section gives it back before anything else happens.

So the state lock is always last: whoever holds it performs nothing that waits. The holder of
one of the other two locks waits for the state only, and neither of them is taken under the
other. Some call in progress can therefore always go on, whatever the outside world answers,
and since every call is finite, all of them end and leave every lock free.
-/

import Containment.Concurrency.Typestate
import Containment.Reference.Dispatching
import Containment.Runtime.SideCode
import Containment.Runtime.Walk

namespace Containment

open Json Concurrency Typestate

variable {P : Platform}

/-- The locks that a thread holds. -/
structure Locks where
  state : Bool
  contain : Bool
  receipt : Bool
deriving DecidableEq

namespace Locks

def free : Locks := ⟨false, false, false⟩

end Locks

/-- Operations that take the state lock, or wait for it. -/
def Op.OnState : Op P → Prop
  | .admitRaw .. | .latchKill | .currentEpoch | .recordDecision _ | .snapshot | .reserve ..
  | .prepareFinish .. | .abort _ | .markKilled | .markCompleted => True
  | _ => False

/-- Operations that end a section of the run state. -/
def Op.EndsSection : Op P → Prop
  | .confirm | .rollback _ | .settle .. | .failFinish => True
  | _ => False

/-- The locks of a thread and its operations: the state lock is the last one it takes, and the
other two are never taken under each other. -/
def lockProtocol (P : Platform) : Typestate (Op P) Op.Res where
  Own := Locks
  free := .free
  may held op :=
    (op.OnState → held.state = false) ∧ (op.EndsSection → held.state = true) ∧
      (op = .acquireContain ∨ op = .acquireReceipt → held = .free) ∧
      (op = .releaseContain → held.contain = true) ∧ (op = .releaseReceipt → held.receipt = true)
  after held op result := match op, result with
    | .reserve .., .ok _ | .prepareFinish .., .ok _ => { held with state := true }
    | .confirm, _ | .rollback _, _ | .settle .., _ | .failFinish, _ => { held with state := false }
    | .acquireContain, _ => { held with contain := true }
    | .releaseContain, _ => { held with contain := false }
    | .acquireReceipt, _ => { held with receipt := true }
    | .releaseReceipt, _ => { held with receipt := false }
    | _, _ => held

/-- What the shared state says about the locks of a thread. -/
def Runtime.heldBy (t : ℕ) (s : Runtime P) : Locks :=
  ⟨s.stateLock = some t, s.containLock = some t, s.receiptLock = some t⟩

/-- All locks are free. -/
structure Runtime.Unlocked (s : Runtime P) : Prop where
  state : s.stateLock = none
  contain : s.containLock = none
  receipt : s.receiptLock = none

namespace LockOrder

variable {d : Deployment P} {env : World} {t : ℕ} {s s' : Runtime P}

/-! ## What an operation does to the locks -/

/-- Operations after which every lock is as before, if they took none. -/
def Op.Lockless : Op P → Prop
  | .reserve .. | .prepareFinish .. | .confirm | .rollback _ | .settle .. | .failFinish
  | .acquireContain | .releaseContain | .acquireReceipt | .releaseReceipt => False
  | _ => True

theorem locks_exec {op : Op P} {r : op.Res} (hop : Op.Lockless op)
    (h : exec d env t s op = some (s', r)) :
    s'.stateLock = s.stateLock ∧ s'.containLock = s.containLock ∧ s'.receiptLock = s.receiptLock := by
  cases op
  case commit kind payload requestId ns =>
    simp only [exec, Option.some.injEq] at h
    rcases commit_cases d env s kind payload requestId ns with ⟨_, heq⟩ |
      ⟨_, _, _, _, -, -, heq⟩ <;>
    · rw [heq, Prod.mk.injEq] at h
      obtain ⟨rfl, -⟩ := h
      exact ⟨rfl, rfl, rfl⟩
  case reserve | prepareFinish | confirm | rollback | settle | failFinish | acquireContain |
      releaseContain | acquireReceipt | releaseReceipt => exact absurd hop id
  all_goals
    simp only [exec, onState_eq_some, Option.some.injEq, Prod.mk.injEq,
      Option.ite_none_right_eq_some] at h
  all_goals try split at h
  all_goals try split at h
  all_goals try simp only [Option.some.injEq, Prod.mk.injEq] at h
  all_goals first | obtain ⟨rfl, -⟩ := h | obtain ⟨-, rfl, -⟩ := h
  all_goals exact ⟨rfl, rfl, rfl⟩

theorem heldBy_eq (u : ℕ) (hstate : s'.stateLock = s.stateLock)
    (hcontain : s'.containLock = s.containLock) (hreceipt : s'.receiptLock = s.receiptLock) :
    s'.heldBy u = s.heldBy u := by
  simp only [Runtime.heldBy, hstate, hcontain, hreceipt]

theorem after_lockless {op : Op P} (hop : Op.Lockless op) (held : Locks) (r : op.Res) :
    (lockProtocol P).after held op r = held := by
  cases op <;> first | rfl | exact absurd hop id

/-- The locks of the thread that performs an operation follow the protocol, and those of the
others stay as they are. -/
theorem heldBy_exec {op : Op P} {r : op.Res} (h : exec d env t s op = some (s', r)) :
    s'.heldBy t = (lockProtocol P).after (s.heldBy t) op r ∧ ∀ u, u ≠ t → s'.heldBy u = s.heldBy u := by
  by_cases hop : Op.Lockless op
  · obtain ⟨hstate, hcontain, hreceipt⟩ := locks_exec hop h
    rw [after_lockless hop]
    exact ⟨heldBy_eq t hstate hcontain hreceipt, fun u _ => heldBy_eq u hstate hcontain hreceipt⟩
  have hne {u : ℕ} (hu : u ≠ t) : (some t : Option ℕ) ≠ some u := fun heq => hu (Option.some.inj heq).symm
  cases op
  case reserve body nowNs bytes =>
    simp only [exec, Option.ite_none_right_eq_some] at h
    obtain ⟨hfree, h⟩ := h
    split at h
    · rw [Option.some.injEq, Prod.mk.injEq] at h
      obtain ⟨rfl, rfl⟩ := h
      exact ⟨rfl, fun u _ => rfl⟩
    · rw [Option.some.injEq, Prod.mk.injEq] at h
      obtain ⟨rfl, rfl⟩ := h
      exact ⟨by simp [Runtime.heldBy, lockProtocol],
        fun u hu => by simp [Runtime.heldBy, hfree, hne hu]⟩
  case prepareFinish lease egressBytes =>
    simp only [exec, Option.ite_none_right_eq_some] at h
    obtain ⟨hfree, h⟩ := h
    split at h
    · rw [Option.some.injEq, Prod.mk.injEq] at h
      obtain ⟨rfl, rfl⟩ := h
      exact ⟨rfl, fun u _ => rfl⟩
    · rw [Option.some.injEq, Prod.mk.injEq] at h
      obtain ⟨rfl, rfl⟩ := h
      exact ⟨by simp [Runtime.heldBy, lockProtocol],
        fun u hu => by simp [Runtime.heldBy, hfree, hne hu]⟩
  case confirm | rollback | settle | failFinish | acquireContain | releaseContain | acquireReceipt |
      releaseReceipt =>
    simp only [exec, Option.ite_none_right_eq_some, Option.some.injEq, Prod.mk.injEq] at h
    obtain ⟨hlock, rfl, -⟩ := h
    exact ⟨by simp [Runtime.heldBy, lockProtocol], fun u hu => by simp [Runtime.heldBy, hlock, hne hu]⟩
  all_goals exact absurd trivial hop

theorem tracks : (lockProtocol P).Tracks (runtimeService d) (fun _ => True) Runtime.heldBy where
  kept _ _ _ := trivial
  self _ _ h := (heldBy_exec h).1
  others _ _ h := (heldBy_exec h).2
  retire_inv _ := trivial
  retire call outcome s t := by
    change (retire call outcome s).heldBy t = s.heldBy t
    unfold retire
    split <;> rfl

/-! ## The code -/

/-- Operations without a lock of their own change nothing, and wait for the state at most. -/
theorem neutral_of_lockless {op : Op P} (hop : Op.Lockless op) {held : Locks}
    (hstate : op.OnState → held.state = false) : (lockProtocol P).Neutral held op := by
  refine ⟨⟨hstate, ?_, ?_, ?_, ?_⟩, after_lockless hop held⟩
  · intro hends
    cases op <;> first | exact absurd hends id | exact absurd hop id
  · rintro (rfl | rfl) <;> exact absurd hop id
  · rintro rfl
    exact absurd hop id
  · rintro rfl
    exact absurd hop id

/-- Such code may run under the lock of the containment or of the receipt. -/
theorem keeps_of_lockless {α : Type} {p : Prog P α} {held : Locks} (hstate : held.state = false)
    (hp : p.All Op.Lockless) : (lockProtocol P).Keeps held p :=
  keeps_of_all (all_mono (fun _ hop => neutral_of_lockless hop fun _ => hstate) hp)

theorem keeps_perform (op : Op P) (hop : Op.Lockless op) {held : Locks} (hstate : held.state = false) :
    (lockProtocol P).Keeps held (perform op) :=
  keeps_of_lockless hstate (all_perform hop)

/-- The code of a call between two sections. -/
theorem compositional : Compositional fun _ p => (lockProtocol P).Keeps .free p where
  ret := keeps_ret
  raise := keeps_raise
  bind := keeps_bind
  attempt := keeps_attempt

theorem keeps_withContainLock {α : Type} {p : Prog P α}
    (hp : (lockProtocol P).Keeps ⟨false, true, false⟩ p) :
    (lockProtocol P).Keeps .free (withContainLock p) := by
  refine keeps_bracket ?_ hp ?_
  · exact ⟨⟨fun _ => rfl, fun h => absurd h id, fun _ => rfl, fun h => (by cases h),
      fun h => (by cases h)⟩, fun _ => ⟨rfl, rfl⟩⟩
  · refine ⟨⟨fun h => absurd h id, fun h => absurd h id, ?_, fun _ => rfl, fun h => (by cases h)⟩,
      fun _ => ⟨rfl, rfl⟩⟩
    rintro (h | h) <;> cases h

theorem keeps_withReceiptLock {α : Type} {p : Prog P α}
    (hp : (lockProtocol P).Keeps ⟨false, false, true⟩ p) :
    (lockProtocol P).Keeps .free (withReceiptLock p) := by
  refine keeps_bracket ?_ hp ?_
  · exact ⟨⟨fun _ => rfl, fun h => absurd h id, fun _ => rfl, fun h => (by cases h),
      fun h => (by cases h)⟩, fun _ => ⟨rfl, rfl⟩⟩
  · refine ⟨⟨fun h => absurd h id, fun h => absurd h id, ?_, fun h => (by cases h), fun _ => rfl⟩,
      fun _ => ⟨rfl, rfl⟩⟩
    rintro (h | h) <;> cases h

theorem lockless_wallNow : (wallNow : Prog P Datetime).All Op.Lockless :=
  all_raising (all_perform trivial)

theorem lockless_monotonicNow : (monotonicNow : Prog P ℤ).All Op.Lockless :=
  all_raising (all_perform trivial)

theorem lockless_containLocked (trigger : Event P) (ns : ℤ) :
    (Supervisor.containLocked trigger ns).All Op.Lockless := by
  refine all_bind (all_perform trivial) fun found => ?_
  cases found with
  | some ack => exact trivial
  | none =>
      refine all_bind (all_perform trivial) fun latched => ?_
      obtain ⟨first, epoch, inflight⟩ := latched
      refine all_bind (all_perform trivial) fun signals => ?_
      refine all_bind lockless_wallNow fun requestedAt => ?_
      refine all_bind lockless_monotonicNow fun requestedNs => ?_
      refine all_bind (all_raising (all_perform trivial)) fun isolation => ?_
      refine all_bind lockless_monotonicNow fun acknowledgedNs => ?_
      refine all_bind lockless_wallNow fun acknowledgedAt => ?_
      refine all_bind (all_raising (all_perform trivial)) fun _ => ?_
      refine all_bind (all_raising (all_perform trivial)) fun ack => ?_
      refine all_handle (all_bind (all_raising (all_perform trivial)) fun _ => trivial) fun error => ?_
      exact all_bind (all_perform trivial) fun _ => trivial

theorem keeps_contain (trigger : Event P) (ns : ℤ) :
    (lockProtocol P).Keeps .free (Supervisor.contain trigger ns) :=
  keeps_withContainLock (keeps_of_lockless rfl (lockless_containLocked trigger ns))

theorem keeps_emergencyIsolate :
    (lockProtocol P).Keeps .free (Supervisor.emergencyIsolate : Prog P Unit) := by
  refine keeps_withContainLock (keeps_of_lockless rfl ?_)
  refine all_bind (all_perform trivial) fun _ => all_bind (all_perform trivial) fun _ => ?_
  exact all_bind (all_raising (all_perform trivial)) fun _ => all_raising (all_perform trivial)

theorem lockless_receiptFresh (d : Deployment P) (status : Option RunStatus) :
    (Supervisor.receiptFresh d status).All Op.Lockless := by
  refine all_bind (all_perform trivial) fun state => ?_
  refine all_bind (all_perform trivial) fun emergency => ?_
  refine all_bind (all_ofExcept _) fun derived => all_bind (all_ofExcept _) fun _ => ?_
  refine all_bind (all_perform trivial) fun _ => ?_
  refine all_bind lockless_wallNow fun finishedAt => ?_
  refine all_bind lockless_monotonicNow fun finishedNs => ?_
  refine all_bind (all_perform trivial) fun mirror => ?_
  refine all_bind (all_raising (all_perform trivial)) fun checkpoint => ?_
  refine all_bind (all_perform trivial) fun ack => ?_
  refine all_bind (all_ofExcept _) fun body => all_bind (all_ofExcept _) fun receipt => ?_
  exact all_bind (all_perform trivial) fun _ => trivial

theorem keeps_receipt (d : Deployment P) (status : Option RunStatus) :
    (lockProtocol P).Keeps .free (Supervisor.receipt d status) := by
  refine keeps_withReceiptLock (keeps_of_lockless rfl (all_bind (all_perform trivial) fun frozen => ?_))
  cases frozen with
  | some frozen => exact all_bind (all_ofExcept _) fun _ => trivial
  | none => exact lockless_receiptFresh d status

/-! ## The two halves of a dispatch -/

/-- What a thread holds inside a section of the run state. -/
def Locks.inState : Locks := ⟨true, false, false⟩

/-- The answer decides whether the section has begun. -/
theorem keeps_section {α β : Type} {p : Prog P α} {next : α → Prog P β}
    (hp : (lockProtocol P).Obeys (fun outcome held =>
      (∀ value, outcome = .ok value → held = Locks.inState) ∧
        ∀ error, outcome = .error error → held = Locks.free) p Locks.free)
    (hnext : ∀ value, (lockProtocol P).Obeys (fun _ held => held = Locks.free) (next value)
      Locks.inState) : (lockProtocol P).Keeps Locks.free (p >>= next) := by
  refine obeys_bind hp (fun value held h => ?_) fun error _ h => h.2 error rfl
  rw [h.1 value rfl]
  exact hnext value

theorem obeys_reserve (body : DecisionBody) (nowNs bytes : ℤ) :
    (lockProtocol P).Obeys (fun outcome held =>
      (∀ value, outcome = .ok value → held = Locks.inState) ∧
        ∀ error, outcome = .error error → held = Locks.free)
      (raising (perform (.reserve body nowNs bytes)) : Prog P DispatchLease) Locks.free := by
  refine ⟨⟨fun _ => rfl, fun h => absurd h id, ?_, fun h => (by cases h), fun h => (by cases h)⟩,
    fun outcome => obeys_ofExcept.mpr ?_⟩
  · rintro (h | h) <;> cases h
  · cases outcome with
    | ok lease => exact ⟨fun _ _ => rfl, fun _ heq => (by cases heq)⟩
    | error error => exact ⟨fun _ heq => (by cases heq), fun _ _ => rfl⟩

theorem obeys_prepareFinish (lease : DispatchLease) (egressBytes : ℤ) :
    (lockProtocol P).Obeys (fun outcome held =>
      (∀ value, outcome = .ok value → held = Locks.inState) ∧
        ∀ error, outcome = .error error → held = Locks.free)
      (raising (perform (.prepareFinish lease egressBytes)) : Prog P ℤ) Locks.free := by
  refine ⟨⟨fun _ => rfl, fun h => absurd h id, ?_, fun h => (by cases h), fun h => (by cases h)⟩,
    fun outcome => obeys_ofExcept.mpr ?_⟩
  · rintro (h | h) <;> cases h
  · cases outcome with
    | ok reserved => exact ⟨fun _ _ => rfl, fun _ heq => (by cases heq)⟩
    | error error => exact ⟨fun _ heq => (by cases heq), fun _ _ => rfl⟩

/-- The commit of a dispatch or of its result waits for nothing. -/
theorem keeps_committed (action : Action P) (kind : EventKind) (payload : String → Json)
    (requestId : Option String) : (lockProtocol P).Keeps Locks.inState (do
      let sha ← .ofExcept action.digest
      raising (perform (.commit kind (payload sha) requestId none)) : Prog P (Event P)) := by
  refine keeps_of_all (all_bind (all_ofExcept _) fun sha => all_raising (all_perform ?_))
  exact neutral_of_lockless (show Op.Lockless (.commit kind (payload sha) requestId none) from trivial)
    fun h => absurd h id

/-- The end of a section of the run state. -/
theorem obeys_endsSection {α : Type} (op : Op P) (hop : op.EndsSection) {next : op.Res → Prog P α}
    (hnext : ∀ result, (lockProtocol P).Keeps Locks.free (next result)) :
    (lockProtocol P).Obeys (fun _ held => held = Locks.free) (perform op >>= next) Locks.inState := by
  cases op
  case confirm | rollback | settle | failFinish =>
    refine ⟨⟨fun h => absurd h id, fun _ => rfl, ?_, fun h => (by cases h), fun h => (by cases h)⟩,
      hnext⟩
    rintro (h | h) <;> cases h
  all_goals exact absurd hop id

theorem keeps_beginAuthorized (action : Action P) (decision : Decision P) (authorizationId : OpaqueId)
    (nowNs bytes : ℤ) : (lockProtocol P).Keeps Locks.free
      (Executor.beginAuthorized action decision authorizationId nowNs bytes) := by
  refine keeps_section (obeys_reserve _ _ _) fun lease => ?_
  refine obeys_bind (obeys_attempt_ok (keeps_committed action .dispatch
    (fun sha => Executor.dispatchPayload sha decision authorizationId) _)) (fun outcome held h => ?_)
    fun _ _ h => ?_
  · rw [h.2]
    cases outcome with
    | ok event => exact obeys_endsSection .confirm trivial fun _ => keeps_ret lease
    | error error => exact obeys_endsSection (.rollback lease) trivial fun _ => keeps_raise error
  · obtain ⟨⟨_, ⟨⟩⟩, -⟩ := h

theorem keeps_finishAuthorized (action : Action P) (decision : Decision P)
    (authorizationId : OpaqueId) (lease : DispatchLease) (result : TransportResult) :
    (lockProtocol P).Keeps Locks.free
      (Executor.finishAuthorized action decision authorizationId lease result) := by
  refine keeps_section (obeys_prepareFinish _ _) fun reserved => ?_
  refine obeys_bind (obeys_attempt_ok (keeps_committed action .result
    (fun sha => Executor.resultPayload sha decision authorizationId result) _))
    (fun outcome held h => ?_) fun _ _ h => ?_
  · rw [h.2]
    cases outcome with
    | ok event =>
        exact obeys_endsSection (.settle lease reserved result.responseBytes) trivial fun _ =>
          keeps_ret ()
    | error error => exact obeys_endsSection .failFinish trivial fun _ => keeps_raise error
  · obtain ⟨⟨_, ⟨⟩⟩, -⟩ := h

theorem keeps_deliver (action : Action P) (decision : Decision P) (authorizationId : OpaqueId)
    (bytes : ℤ) (lease : DispatchLease) : (lockProtocol P).Keeps Locks.free
      (Executor.deliver action decision authorizationId bytes lease) := by
  refine keeps_bind (keeps_of_lockless rfl (all_raising (all_perform trivial))) fun secret => ?_
  refine keeps_bind (keeps_of_lockless rfl (all_raising (all_perform trivial))) fun result => ?_
  refine keeps_bind (keeps_of_lockless rfl (all_ofExcept _)) fun _ => ?_
  exact keeps_bind (keeps_finishAuthorized _ _ _ _ _) fun _ => keeps_ret result

/-! ## All calls -/

theorem keeps_ordinary (op : Op P) (hop : op.Ordinary) : (lockProtocol P).Keeps Locks.free (perform op) := by
  refine keeps_perform op ?_ rfl
  cases op <;> first | exact trivial | exact absurd hop id

theorem keeps_body (d : Deployment P) (call : Call P) :
    (lockProtocol P).Keeps Locks.free (body d call) := by
  have hcommit (kind : EventKind) (payload : Json) (requestId : Option String) (ns : Option ℤ)
      (_ : kind.OfGateway) :
      (lockProtocol P).Keeps Locks.free (perform (.commit kind payload requestId ns)) :=
    keeps_perform (.commit kind payload requestId ns) trivial rfl
  have hfailClosed := compositional.failClosed keeps_ordinary hcommit keeps_contain
    keeps_emergencyIsolate
  refine compositional.body d ?_ ?_ hfailClosed ?_ keeps_contain keeps_emergencyIsolate ?_
    (keeps_receipt d) call
  · exact compositional.submitRaw keeps_ordinary hcommit keeps_contain keeps_emergencyIsolate d
  · exact compositional.dispatch (fun id => keeps_perform (.isSet id) trivial rfl)
      (fun lease => keeps_perform (.abort lease) trivial rfl) hfailClosed d
      (fun id => keeps_perform (.register id) trivial rfl)
      (fun id => keeps_perform (.unregister id) trivial rfl) keeps_beginAuthorized keeps_deliver
  · exact compositional.enforceRuntimeDeadline keeps_ordinary hcommit keeps_contain d
  · exact keeps_bind (keeps_of_lockless rfl (all_raising (all_perform trivial))) fun _ =>
      keeps_receipt d none

/-! ## Progress -/

/-- What an operation waits for. -/
theorem exists_exec (env : World) {op : Op P} (hmay : (lockProtocol P).may (s.heldBy t) op)
    (hstate : op.OnState → s.stateLock = none)
    (hcontain : op = .acquireContain → s.containLock = none)
    (hreceipt : op = .acquireReceipt → s.receiptLock = none) :
    ∃ s' result, exec d env t s op = some (s', result) := by
  obtain ⟨-, hends, -, hcontained, hreceipted⟩ := hmay
  have hsome : (exec d env t s op).isSome := by
    cases op
    case reserve | prepareFinish =>
      simp only [exec, hstate trivial, if_true]
      split <;> rfl
    case admitRaw | latchKill | currentEpoch | recordDecision | snapshot | abort | markKilled |
        markCompleted => simp [exec, Runtime.onState, hstate trivial]
    case confirm | rollback | settle | failFinish =>
      have hheld : s.stateLock = some t := by simpa [Runtime.heldBy] using hends trivial
      simp [exec, hheld]
    case acquireContain => simp [exec, hcontain rfl]
    case acquireReceipt => simp [exec, hreceipt rfl]
    case releaseContain =>
      have hheld : s.containLock = some t := by simpa [Runtime.heldBy] using hcontained rfl
      simp [exec, hheld]
    case releaseReceipt =>
      have hheld : s.receiptLock = some t := by simpa [Runtime.heldBy] using hreceipted rfl
      simp [exec, hheld]
    case register | acknowledge | checkpoint =>
      simp only [exec]
      split <;> rfl
    case isolate =>
      simp only [exec]
      split
      · rfl
      · split <;> rfl
    all_goals simp [exec]
  obtain ⟨⟨s', result⟩, heq⟩ := Option.isSome_iff_exists.mp hsome
  exact ⟨s', result, heq⟩

variable {c : Config (runtimeService d)}

theorem unlocked_of_free (h : ∀ t, s.heldBy t = Locks.free) : s.Unlocked := by
  refine ⟨?_, ?_, ?_⟩
  · refine Option.eq_none_iff_forall_ne_some.mpr fun t heq => ?_
    have hheld := congrArg Locks.state (h t)
    simp [Runtime.heldBy, heq, Locks.free] at hheld
  · refine Option.eq_none_iff_forall_ne_some.mpr fun t heq => ?_
    have hheld := congrArg Locks.contain (h t)
    simp [Runtime.heldBy, heq, Locks.free] at hheld
  · refine Option.eq_none_iff_forall_ne_some.mpr fun t heq => ?_
    have hheld := congrArg Locks.receipt (h t)
    simp [Runtime.heldBy, heq, Locks.free] at hheld

/-- A thread that holds something has an operation ahead of it. -/
theorem exists_ahead (h : (lockProtocol P).Held (fun _ => True) Runtime.heldBy c) {t : ℕ}
    (hheld : c.shared.heldBy t ≠ Locks.free) : ∃ call op next,
      c.running t = some (call, .act op next) ∧ (lockProtocol P).may (c.shared.heldBy t) op := by
  cases hrunning : c.running t with
  | none => exact absurd (h.idle t hrunning) hheld
  | some running =>
      obtain ⟨call, code⟩ := running
      have hobeys := h.busy t call code hrunning
      cases code with
      | ret value => exact absurd hobeys hheld
      | raise error => exact absurd hobeys hheld
      | act op next => exact ⟨call, op, next, rfl, hobeys.1⟩

/-- A thread at the end of its call, or one whose next operation is not blocked. -/
def CanGoOn (c : Config (runtimeService d)) (t : ℕ) : Prop :=
  ∃ call code, c.running t = some (call, code) ∧ ((∃ outcome, code = .ofExcept outcome) ∨
    ∃ op next, code = .act op next ∧ ∀ env, ∃ s' result, exec d env t c.shared op = some (s', result))

/-- Somebody can go on: the holder of the state lock, else the holder of another lock, else
anybody. -/
theorem exists_canGoOn (h : (lockProtocol P).Held (fun _ => True) Runtime.heldBy c) (hbusy : ¬ c.Quiescent) :
    ∃ t, CanGoOn c t := by
  cases hstate : c.shared.stateLock with
  | some t =>
      have hheld : (c.shared.heldBy t).state = true := by simp [Runtime.heldBy, hstate]
      obtain ⟨call, op, next, hrunning, hmay⟩ := exists_ahead h (t := t) fun heq => by
        rw [heq] at hheld
        cases hheld
      have hnot (hfree : c.shared.heldBy t = Locks.free) : False := by
        rw [hfree] at hheld
        cases hheld
      refine ⟨t, call, _, hrunning, .inr ⟨op, next, rfl, fun env => exists_exec env hmay ?_ ?_ ?_⟩⟩
      · intro hop
        rw [hmay.1 hop] at hheld
        cases hheld
      · exact fun hop => (hnot (hmay.2.2.1 (.inl hop))).elim
      · exact fun hop => (hnot (hmay.2.2.1 (.inr hop))).elim
  | none =>
      by_cases hheld : ∃ t, c.shared.heldBy t ≠ Locks.free
      · obtain ⟨t, hheld⟩ := hheld
        obtain ⟨call, op, next, hrunning, hmay⟩ := exists_ahead h hheld
        refine ⟨t, call, _, hrunning,
          .inr ⟨op, next, rfl, fun env => exists_exec env hmay (fun _ => hstate) ?_ ?_⟩⟩
        · exact fun hop => absurd (hmay.2.2.1 (.inl hop)) hheld
        · exact fun hop => absurd (hmay.2.2.1 (.inr hop)) hheld
      · simp only [not_exists, not_not] at hheld
        have hunlocked := unlocked_of_free hheld
        obtain ⟨t, hrunning⟩ := not_forall.mp hbusy
        obtain ⟨⟨call, code⟩, hrunning⟩ := Option.ne_none_iff_exists'.mp hrunning
        have hobeys := h.busy t call code hrunning
        refine ⟨t, call, code, hrunning, ?_⟩
        cases code with
        | ret value => exact .inl ⟨.ok value, rfl⟩
        | raise error => exact .inl ⟨.error error, rfl⟩
        | act op next =>
            exact .inr ⟨op, next, rfl, fun env =>
              exists_exec env hobeys.1 (fun _ => hstate) (fun _ => hunlocked.contain)
                fun _ => hunlocked.receipt⟩

end LockOrder

/-- Any calls in any order, with any answers of the outside world. -/
def anySchedule (d : Deployment P) : RunRule (runtimeService d) where
  starts _ _ := True
  moves _ _ _ := True

/-- Some call in progress can go on, whatever the outside world answers. A schedule that begins
no further calls is finite, and where it cannot be continued all calls have ended and every
lock is free. -/
structure NeverStuck {d : Deployment P} (c : Config (runtimeService d)) : Prop where
  progress : ¬ c.Quiescent → ∃ t, LockOrder.CanGoOn c t
  finite : Acc (fun c' c => Advance (anySchedule d) c c') c
  ends : ∀ c', Relation.ReflTransGen (Advance (anySchedule d)) c c' →
    (∀ c'', ¬ Advance (anySchedule d) c' c'') → c'.Quiescent ∧ c'.shared.Unlocked

namespace LockOrder

variable {d : Deployment P}

theorem held (witness : TransparencyWitness P) {c : Config (runtimeService d)}
    (h : Reachable (anySchedule d) (Runtime.init d witness) c) :
    (lockProtocol P).Held (fun _ => True) Runtime.heldBy c :=
  held_of_reachable tracks (keeps_body d) trivial (fun _ => rfl) h

/-- A thread that can go on makes a step. -/
theorem exists_advance {c : Config (runtimeService d)} {t : ℕ} (h : CanGoOn c t) :
    ∃ c', Advance (anySchedule d) c c' := by
  have hkept {call : Call P} {code : Prog P (Reply P)} (hrunning : c.running t = some (call, code))
      (s : Runtime P) (left : Option (Call P × Prog P (Reply P))) (u : ℕ)
      (hidle : c.running u = none) : (c.set s t left).running u = none := by
    have hne : u ≠ t := by
      rintro rfl
      rw [hrunning] at hidle
      cases hidle
    simp only [Config.set, Function.update_of_ne hne, hidle]
  obtain ⟨call, code, hrunning, ⟨outcome, hcode⟩ | ⟨op, next, rfl, hexec⟩⟩ := h
  · exact ⟨_, .stop t hrunning outcome hcode, hkept hrunning _ _⟩
  · let env : World := ⟨⟨.ok .naive, .ok 0⟩, none, "", .error (.runtimeError ""), .error (.runtimeError "")⟩
    obtain ⟨s', result, hdone⟩ := hexec env
    have hmove : (anySchedule d).moves c.shared op env := trivial
    exact ⟨_, .act t hrunning env hmove hdone, hkept hrunning _ _⟩

theorem reachable_of_advances {s₀ : Runtime P} {c c' : Config (runtimeService d)}
    (h : Reachable (anySchedule d) s₀ c) (hsteps : Relation.ReflTransGen (Advance (anySchedule d)) c c') :
    Reachable (anySchedule d) s₀ c' := by
  induction hsteps with
  | refl => exact h
  | tail _ hstep ih => exact ih.tail hstep.1

end LockOrder

/-- In every interleaving of any calls, with any answers of the outside world, no call waits
forever: the locks are taken in an order and given back. -/
theorem neverStuck_of_reachable (P : Platform) (d : Deployment P) (witness : TransparencyWitness P)
    (c : Config (runtimeService d)) (h : Reachable (anySchedule d) (Runtime.init d witness) c) :
    NeverStuck c := by
  refine ⟨LockOrder.exists_canGoOn (LockOrder.held witness h), ?_, fun c' hsteps hstuck => ?_⟩
  · obtain ⟨threads, hthreads⟩ := exists_threads h
    exact acc_advance hthreads
  · have hheld := LockOrder.held witness (LockOrder.reachable_of_advances h hsteps)
    have hquiescent : c'.Quiescent := by
      by_contra hbusy
      obtain ⟨t, hgo⟩ := LockOrder.exists_canGoOn hheld hbusy
      obtain ⟨c'', hadvance⟩ := LockOrder.exists_advance hgo
      exact hstuck c'' hadvance
    exact ⟨hquiescent, LockOrder.unlocked_of_free fun t => hheld.idle t (hquiescent t)⟩

open Reference in
/-- The theorem while a dispatch of the reference deployment holds its lease. -/
theorem neverStuck_inflight : ∃ (manifest : Manifest platform)
    (c : Config (runtimeService (deployment manifest))),
    Reachable (anySchedule (deployment manifest))
      (Runtime.init (deployment manifest) Reference.witness) c ∧ ¬ c.Quiescent ∧ NeverStuck c := by
  obtain ⟨manifest, hm⟩ := exists_signed
  obtain ⟨s₁, decision, code, hreach, -, -⟩ :=
    exists_reachable_inflight (anySchedule (deployment manifest)) hm (fun _ _ => trivial)
      (fun _ _ _ _ => trivial) fun _ _ _ _ => trivial
  refine ⟨manifest, _, hreach, fun hquiescent => ?_, neverStuck_of_reachable _ _ _ _ hreach⟩
  have hidle := hquiescent 0
  simp [Config.set] at hidle

/-! ## The kill switch -/

/-- The isolation backend works. Everything else may fail. -/
def workingIsolation (d : Deployment P) : RunRule (runtimeService d) where
  starts _ _ := True
  moves _ op env := op = .isolate → ∃ result, env.isolation = .ok result

/-- The calls in progress can be finished, and whenever they are, an emergency isolation kills
the run unless it was completed, whoever calls it. -/
structure Killable {d : Deployment P} (c : Config (runtimeService d)) : Prop where
  drains : ∃ c', Relation.ReflTransGen (Advance (anySchedule d)) c c' ∧ c'.Quiescent
  ends : ∀ c', Relation.ReflTransGen (Advance (anySchedule d)) c c' → c'.Quiescent → ∀ t,
    ∃ s' outcome, Ends (workingIsolation d) t c'.shared (Supervisor.emergencyIsolate : Prog P Unit) s'
      outcome
  kills : ∀ c', Relation.ReflTransGen (Advance (anySchedule d)) c c' → c'.Quiescent →
    c'.shared.state.phase ≠ .completed → ∀ t s' outcome,
    Ends (workingIsolation d) t c'.shared (Supervisor.emergencyIsolate : Prog P Unit) s' outcome →
      outcome = .ok () ∧ s'.state.phase = .killed ∧ s'.emergencyFailure = true

namespace KillSwitch

variable {d : Deployment P} {t : ℕ} {s : Runtime P}

theorem markKilled_of_latched {state : RunState} (h : state.phase = .killing ∨ state.phase = .killed) :
    state.markKilled.2 = .ok () ∧ state.markKilled.1.phase = .killed := by
  unfold RunState.markKilled
  rcases h with h | h <;> simp [h]

theorem latched_of_latchKill {state : RunState} (h : state.phase ≠ .completed) :
    state.latchKill.1.phase = .killing ∨ state.latchKill.1.phase = .killed := by
  change state.latchKillLocked.phase = .killing ∨ state.latchKillLocked.phase = .killed
  rw [RunState.phase_latchKillLocked]
  cases hphase : state.phase <;> simp_all

/-- What is done under the lock of the containment. -/
theorem ensures_isolation (hphase : s.state.phase ≠ .completed) :
    Ensures (workingIsolation d) t
      (fun outcome s' => outcome = .ok () ∧ s'.state.phase = .killed ∧ s'.emergencyFailure = true)
      (do
        perform .raiseEmergency
        let _ ← perform .latchKill
        let _ ← raising (perform .isolate)
        raising (perform .markKilled) : Prog P Unit) s := by
  intro env₁ s₁ _ _ hraise
  simp only [exec, Option.some.injEq, Prod.mk.injEq] at hraise
  obtain ⟨rfl, -⟩ := hraise
  intro env₂ s₂ _ _ hlatch
  simp only [exec, Option.ite_none_right_eq_some, Option.some.injEq, Prod.mk.injEq] at hlatch
  obtain ⟨-, rfl, -⟩ := hlatch
  have hlatched := latched_of_latchKill hphase
  have hmarked := markKilled_of_latched hlatched
  intro env₃ s₃ outcome hmove hisolate
  obtain ⟨result, hresult⟩ := hmove rfl
  have hok : (∃ result, outcome = .ok result) ∧ s₃.state = s.state.latchKill.1 ∧
      s₃.emergencyFailure = true := by
    simp only [exec, hresult] at hisolate
    split at hisolate <;>
    · rw [Option.some.injEq, Prod.mk.injEq] at hisolate
      obtain ⟨rfl, rfl⟩ := hisolate
      exact ⟨⟨_, rfl⟩, rfl, rfl⟩
  obtain ⟨⟨isolation, rfl⟩, hstate, hemergency⟩ := hok
  intro env₄ s₄ done _ hmark
  simp only [exec, onState_eq_some, hstate] at hmark
  obtain ⟨-, rfl, rfl⟩ := hmark
  refine ensures_ofExcept.mpr ⟨hmarked.1, hmarked.2, hemergency⟩

theorem ensures_emergencyIsolate (hphase : s.state.phase ≠ .completed) :
    Ensures (workingIsolation d) t
      (fun outcome s' => outcome = .ok () ∧ s'.state.phase = .killed ∧ s'.emergencyFailure = true)
      (Supervisor.emergencyIsolate : Prog P Unit) s := by
  intro env s₁ _ _ hacquire
  simp only [exec, Option.ite_none_right_eq_some, Option.some.injEq, Prod.mk.injEq] at hacquire
  obtain ⟨-, rfl, -⟩ := hacquire
  refine ensures_finalize (ensures_isolation hphase) fun outcome s₂ h => ?_
  intro env' s₃ _ _ hrelease
  simp only [exec, Option.ite_none_right_eq_some, Option.some.injEq, Prod.mk.injEq] at hrelease
  obtain ⟨-, rfl, -⟩ := hrelease
  exact h

/-- A thread that is alone with the locks gets to the end of its code. -/
theorem exists_ends {rule : RunRule (runtimeService d)} (hmoves : ∀ s op, ∃ env, rule.moves s op env)
    {α : Type} {p : Prog P α} {post : Except PyError α → Locks → Prop}
    (hp : (lockProtocol P).Obeys post p (s.heldBy t)) (halone : ∀ u, u ≠ t → s.heldBy u = Locks.free) :
    ∃ s' outcome, Ends rule t s p s' outcome := by
  induction p generalizing s with
  | ret value => exact ⟨s, .ok value, .refl _ _⟩
  | raise error => exact ⟨s, .error error, .refl _ _⟩
  | act op next ih =>
      -- A lock that the thread does not hold itself is free.
      have hfree (lock : Runtime P → Option ℕ) (field : Locks → Bool)
          (hfield : ∀ u, field (s.heldBy u) = decide (lock s = some u)) (hnone : field Locks.free = false)
          (hself : field (s.heldBy t) = false) : lock s = none := by
        refine Option.eq_none_iff_forall_ne_some.mpr fun u heq => ?_
        have hheld : field (s.heldBy u) = true := by rw [hfield, heq, decide_eq_true rfl]
        by_cases hu : u = t
        · rw [hu, hself] at hheld
          cases hheld
        · rw [halone u hu, hnone] at hheld
          cases hheld
      obtain ⟨env, hmove⟩ := hmoves s op
      obtain ⟨hmay, hnext⟩ := hp
      have hacquire (hop : op = .acquireContain ∨ op = .acquireReceipt) : s.heldBy t = Locks.free :=
        hmay.2.2.1 hop
      obtain ⟨s₁, result, hexec⟩ : ∃ s₁ result, exec d env t s op = some (s₁, result) := by
        refine LockOrder.exists_exec env hmay (fun hop => ?_) (fun hop => ?_) fun hop => ?_
        · exact hfree Runtime.stateLock Locks.state (fun _ => rfl) rfl (hmay.1 hop)
        · exact hfree Runtime.containLock Locks.contain (fun _ => rfl) rfl
            (by rw [hacquire (.inl hop)]; rfl)
        · exact hfree Runtime.receiptLock Locks.receipt (fun _ => rfl) rfl
            (by rw [hacquire (.inr hop)]; rfl)
      obtain ⟨hself, hothers⟩ := LockOrder.heldBy_exec hexec
      obtain ⟨s', outcome, hends⟩ := ih result (by rw [hself]; exact hnext result)
        fun u hu => (hothers u hu).trans (halone u hu)
      exact ⟨s', outcome, .act env hmove hexec hends⟩

end KillSwitch

/-- From every configuration of every interleaving, the run can be killed. -/
theorem killable_of_reachable (P : Platform) (d : Deployment P) (witness : TransparencyWitness P)
    (c : Config (runtimeService d)) (h : Reachable (anySchedule d) (Runtime.init d witness) c) :
    Killable c := by
  have hheld {c' : Config (runtimeService d)}
      (hsteps : Relation.ReflTransGen (Advance (anySchedule d)) c c') :
      (lockProtocol P).Held (fun _ => True) Runtime.heldBy c' :=
    LockOrder.held witness (LockOrder.reachable_of_advances h hsteps)
  refine ⟨?_, fun c' hsteps hquiescent t => ?_, fun c' _ _ hphase t s' outcome hends => ?_⟩
  · obtain ⟨threads, hthreads⟩ := exists_threads h
    refine exists_quiescent (I := Reachable (anySchedule d) (Runtime.init d witness))
      (fun hreach hadvance => hreach.tail hadvance.1) (fun hreach hbusy => ?_) h (acc_advance hthreads)
    obtain ⟨t, hgo⟩ := LockOrder.exists_canGoOn (LockOrder.held witness hreach) hbusy
    exact LockOrder.exists_advance hgo
  · have hfree (u : ℕ) : c'.shared.heldBy u = Locks.free := (hheld hsteps).idle u (hquiescent u)
    let env : World := ⟨⟨.ok .naive, .ok 0⟩, none, "", .ok ⟨.simulated, [], 0, false, none⟩,
      .error (.runtimeError "")⟩
    have hkeeps : (lockProtocol P).Keeps (c'.shared.heldBy t)
        (Supervisor.emergencyIsolate : Prog P Unit) := by
      rw [hfree t]
      exact LockOrder.keeps_emergencyIsolate
    exact KillSwitch.exists_ends (fun _ _ => ⟨env, fun _ => ⟨_, rfl⟩⟩) hkeeps fun u _ => hfree u
  · exact (KillSwitch.ensures_emergencyIsolate hphase).sound hends

open Reference in
/-- The theorem while a dispatch of the reference deployment holds its lease. -/
theorem killable_inflight : ∃ (manifest : Manifest platform)
    (c : Config (runtimeService (deployment manifest))),
    Reachable (anySchedule (deployment manifest))
      (Runtime.init (deployment manifest) Reference.witness) c ∧ ¬ c.Quiescent ∧ Killable c := by
  obtain ⟨manifest, hm⟩ := exists_signed
  obtain ⟨s₁, decision, code, hreach, -, -⟩ :=
    exists_reachable_inflight (anySchedule (deployment manifest)) hm (fun _ _ => trivial)
      (fun _ _ _ _ => trivial) fun _ _ _ _ => trivial
  refine ⟨manifest, _, hreach, fun hquiescent => ?_, killable_of_reachable _ _ _ _ hreach⟩
  have hidle := hquiescent 0
  simp [Config.set] at hidle

end Containment
