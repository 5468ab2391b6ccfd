/-
# Dispatches that fail

The clean-up of a dispatch is spread over five places: the roll-back in `begin_authorized`,
the latches in both sections, the abort, `fail_closed` with all that can go wrong in it, and
the final unregistration. Wherever a dispatch fails behind its registration, and whatever the
other threads do, it ends with the run latched, its lease gone and its handle taken back. A
dispatch that was cancelled skips `fail_closed`, and its event is the proof that somebody
else has latched.

The one exception is the clock that `fail_closed` reads before it latches. `standing` is the
note an observer keeps for each thread: it has registered a handle, and no clock has failed
it since while the run was running.
-/

import Containment.Concurrency.Threads
import Containment.Reference.Dispatching
import Containment.Runtime.Registration

namespace Containment

open Json Concurrency Discipline

variable {P : Platform}

/-- Whether a thread's last registration was granted and no clock reading of a running run has
failed it since. -/
def standingAfter (env : World) (t : ℕ) (op : Op P) (s : Runtime P) (standing : ℕ → Bool) :
    ℕ → Bool :=
  match op with
  | .register id => Function.update standing t (decide (id.1 ∉ s.inflight))
  | .monotonicClock =>
      if s.state.phase = .running ∧ env.monotonicClock.isOk = false then
        Function.update standing t false
      else standing
  | _ => standing

/-- The runtime beside the observer's notes. -/
@[reducible]
def standingService (d : Deployment P) : Service (Op P) Op.Res PyError :=
  (runtimeService d).ghost fun env t op s _ standing => standingAfter env t op s standing

/-- Concurrent calls of any kind, with any answers of the outside world. -/
def anyDispatches (d : Deployment P) : RunRule (standingService d) where
  starts _ _ := True
  moves _ _ _ := True

/-- Nothing is left of a dispatch but the latch. -/
structure LeftClosed (id : OpaqueId) (s : Runtime P) : Prop where
  latched : s.state.phase ≠ .running
  inactive : id.1 ∉ s.state.activeAuthorizations
  /-- The active leases, and no others, are counted. -/
  reserved : s.state.reservedEgressBytes = RunState.leaseTotal s.state.activeAuthorizations
  counted : s.state.inflight = s.state.activeAuthorizations.keys.length
  unregistered : id.1 ∉ s.inflight

/-- What a step leaves of the authorization: its lease, unless the kill clears all of them, and
its handle, which the kill may set. -/
structure Unaffected (id : String) (s s' : Runtime P) : Prop where
  lease : s'.state.activeAuthorizations.lookup id = s.state.activeAuthorizations.lookup id ∨
    (s'.state.phase = .killed ∧ s'.state.activeAuthorizations = ∅)
  handle : s'.inflight.lookup id = s.inflight.lookup id ∨
    (s.state.phase ≠ .running ∧ s'.inflight = s.inflight.signalAll.1)

/-- What a reachable configuration shows of its dispatches. -/
structure FailsClosed {d : Deployment P} (c : Config (standingService d)) : Prop where
  /-- The operation with which a dispatch raises, behind its registration. -/
  closed : ∀ t action decision nowNs op next env s' result error,
    c.running t = some (.dispatch action decision nowNs, .act op next) →
    (standingService d).exec env t c.shared op = some (s', result) →
    next result = .raise error → s'.2 t = true →
    ∃ id, decision.body.authorizationId = some id ∧ LeftClosed id s'.1
  /-- Every operation of a dispatch. -/
  others : ∀ t action decision nowNs op next env s' result,
    c.running t = some (.dispatch action decision nowNs, .act op next) →
    (standingService d).exec env t c.shared op = some (s', result) →
    ∃ id, decision.body.authorizationId = some id ∧
      ∀ other, other ≠ id.1 → Unaffected other c.shared.1 s'.1

namespace FailedDispatch

variable {d : Deployment P} {env : World} {t : ℕ} {s s' : Runtime P × (ℕ → Bool)}

def Stopped (s : Runtime P × (ℕ → Bool)) : Prop := s.1.state.phase ≠ .running

/-- Only a kill sets a handle. -/
def Inv (s : Runtime P × (ℕ → Bool)) : Prop :=
  ∀ id, s.1.inflight.lookup id = some true → Stopped s

/-- The handles are set behind the latch. -/
def Ready (s : Runtime P × (ℕ → Bool)) : Op P → Prop
  | .signalAll => Stopped s
  | _ => True

structure Rely (t : ℕ) (s s' : Runtime P × (ℕ → Bool)) : Prop where
  stopped : Stopped s → Stopped s'
  standing : s'.2 t = s.2 t

/-! ## One operation -/

theorem stopped_exec {op : Op P} {r : op.Res}
    (hexec : (standingService d).exec env t s op = some (s', r)) (h : Stopped s) : Stopped s' :=
  notRunning_exec (ghost_exec.mp hexec).1 h

theorem inv_exec {op : Op P} {r : op.Res} (h : Inv s) (hready : Ready s op)
    (hexec : (standingService d).exec env t s op = some (s', r)) : Inv s' := by
  intro id hset
  have hkeep : s.1.inflight.lookup id = some true → Stopped s' :=
    fun hbefore => stopped_exec hexec (h id hbefore)
  obtain ⟨hdone, -⟩ := ghost_exec.mp hexec
  rcases Registration.inflight_exec hdone with ⟨id', rfl, -, hinflight, -⟩ |
    ⟨id', rfl, hinflight, -⟩ | ⟨rfl, -, -⟩ | ⟨hinflight, -⟩
  · rw [hinflight] at hset
    by_cases heq : id = id'.1
    · rw [heq, AList.lookup_insert] at hset
      cases hset
    · rw [AList.lookup_insert_ne heq] at hset
      exact hkeep hset
  · rw [hinflight] at hset
    by_cases heq : id = id'.1
    · rw [heq, AList.lookup_erase] at hset
      cases hset
    · rw [AList.lookup_erase_ne heq] at hset
      exact hkeep hset
  · exact stopped_exec hexec hready
  · rw [hinflight] at hset
    exact hkeep hset

theorem standing_of_ne {op : Op P} {s : Runtime P} {standing : ℕ → Bool} {u : ℕ} (hu : u ≠ t) :
    standingAfter env t op s standing u = standing u := by
  unfold standingAfter
  split
  · exact Function.update_of_ne hu _ _
  · split_ifs
    · exact Function.update_of_ne hu _ _
    · rfl
  · rfl

variable (d) in
def discipline : Discipline (anyDispatches d) where
  inv := Inv
  ready _ := Ready
  rely := Rely
  rely_refl _ _ := ⟨id, rfl⟩
  rely_trans h h' := ⟨fun hstopped => h'.stopped (h.stopped hstopped), h'.standing.trans h.standing⟩
  act_inv h hready _ hexec := inv_exec h hready hexec
  act_rely _ _ _ hexec _ hu := ⟨stopped_exec hexec, by
    rw [(ghost_exec.mp hexec).2]
    exact standing_of_ne hu⟩

theorem stable_stopped : (discipline d).Stable Stopped :=
  ⟨fun hrely h => hrely.stopped h, fun _ hexec h => stopped_exec hexec h⟩

/-! ## The code beside the dispatches -/

theorem plainReady : PlainReady (discipline d) := by
  intro op hop t s _
  cases op <;> first | exact trivial | exact absurd hop id

theorem gatewayReady : GatewayReady (discipline d) := fun _ _ _ _ _ _ _ _ => trivial

theorem safe_latchKill :
    (discipline d).Safe t (fun _ s => Stopped s) (perform .latchKill : Prog P _) s := by
  refine safe_act fun s₁ _ _ => ⟨trivial, fun env s₂ r _ hexec _ => ?_⟩
  obtain ⟨hdone, -⟩ := ghost_exec.mp hexec
  simp only [exec, Option.ite_none_right_eq_some, Option.some.injEq, Prod.mk.injEq] at hdone
  obtain ⟨-, hstate, -⟩ := hdone
  have hphase := RunState.phase_latchKillLocked s₁.1.state
  change s₂.1.state.phase ≠ .running
  rw [← hstate]
  change s₁.1.state.latchKillLocked.phase ≠ .running
  rw [hphase]
  split_ifs with hrunning
  · decide
  · exact hrunning

theorem clean_containFresh (trigger : Event P) (ns : ℤ) :
    (discipline d).Clean (Supervisor.containFresh trigger ns : Prog P _) := by
  have hplain := plainReady (d := d)
  refine clean_establish (I := Stopped) (fun t s => ?_) fun latched => ?_
  · exact safe_mono (fun _ _ hstopped _ _ => hstopped) safe_latchKill
  refine cleanUnder_bind stable_stopped (cleanUnder_perform stable_stopped fun _ _ _ h => h)
    fun signals => Clean.under ?_
  refine clean_bind (clean_wallNow hplain) fun requestedAt => ?_
  refine clean_bind (clean_monotonicNow hplain) fun requestedNs => ?_
  refine clean_bind (clean_raising (clean_perform fun _ _ _ => trivial)) fun isolation => ?_
  refine clean_bind (clean_monotonicNow hplain) fun acknowledgedNs => ?_
  refine clean_bind (clean_wallNow hplain) fun acknowledgedAt => ?_
  refine clean_bind (clean_raising (clean_perform fun _ _ _ => trivial)) fun _ => ?_
  refine clean_bind (clean_raising (clean_perform fun _ _ _ => trivial)) fun ack => ?_
  refine clean_handle (clean_bind ?_ fun _ => clean_ret _) fun error => ?_
  · exact clean_raising (clean_perform fun _ _ _ => trivial)
  · exact clean_bind (clean_perform fun _ _ _ => trivial) fun _ => clean_raise _

theorem clean_contain (trigger : Event P) (ns : ℤ) :
    (discipline d).Clean (Supervisor.contain trigger ns : Prog P _) := by
  refine clean_bind (clean_perform fun _ _ _ => trivial) fun _ => ?_
  refine clean_finalize (clean_bind (clean_perform fun _ _ _ => trivial) fun found => ?_)
    (clean_perform fun _ _ _ => trivial)
  cases found with
  | none => exact clean_containFresh trigger ns
  | some ack => exact clean_ret _

theorem clean_emergencyIsolate :
    (discipline d).Clean (Supervisor.emergencyIsolate : Prog P Unit) := by
  refine clean_bind (clean_perform fun _ _ _ => trivial) fun _ => ?_
  refine clean_finalize (clean_bind (clean_perform fun _ _ _ => trivial) fun _ => ?_)
    (clean_perform fun _ _ _ => trivial)
  refine clean_bind (clean_perform fun _ _ _ => trivial) fun _ => ?_
  exact clean_bind (clean_raising (clean_perform fun _ _ _ => trivial)) fun _ =>
    clean_raising (clean_perform fun _ _ _ => trivial)

theorem clean_beginAuthorized (action : Action P) (decision : Decision P) (id : OpaqueId)
    (nowNs bytes : ℤ) :
    (discipline d).Clean (Executor.beginAuthorized action decision id nowNs bytes) := by
  refine clean_bind (clean_raising (clean_perform fun _ _ _ => trivial)) fun lease => ?_
  refine clean_bind (clean_attempt (clean_bind (clean_ofExcept _) fun sha => ?_)) fun outcome => ?_
  · exact clean_raising (clean_perform fun _ _ _ => trivial)
  cases outcome with
  | ok event => exact clean_bind (clean_perform fun _ _ _ => trivial) fun _ => clean_ret _
  | error error => exact clean_bind (clean_perform fun _ _ _ => trivial) fun _ => clean_raise _

theorem clean_finishAuthorized (action : Action P) (decision : Decision P) (id : OpaqueId)
    (lease : DispatchLease) (result : TransportResult) :
    (discipline d).Clean (Executor.finishAuthorized action decision id lease result) := by
  refine clean_bind (clean_raising (clean_perform fun _ _ _ => trivial)) fun reserved => ?_
  refine clean_bind (clean_attempt (clean_bind (clean_ofExcept _) fun sha => ?_)) fun outcome => ?_
  · exact clean_raising (clean_perform fun _ _ _ => trivial)
  cases outcome with
  | ok event => exact clean_perform fun _ _ _ => trivial
  | error error => exact clean_bind (clean_perform fun _ _ _ => trivial) fun _ => clean_raise _

/-! ## Where a dispatch ends -/

/-- `fail_closed` latches, or the clock has failed it before. -/
theorem safe_failClosed (reasonCode : String) (requestId : Option String) :
    (discipline d).Safe t (fun _ s => s.2 t = true → Stopped s)
      (Gateway.failClosed reasonCode requestId : Prog P Unit) s := by
  have hclock : (discipline d).Safe t (fun outcome s => ∀ error, outcome = .error error →
      s.2 t = true → Stopped s) (monotonicNow : Prog P ℤ) s := by
    refine safe_act fun s₁ _ _ => ⟨trivial, fun env s₂ r _ hexec _ => safe_ofExcept.mpr ?_⟩
    rintro error rfl hstanding
    obtain ⟨hdone, hghost⟩ := ghost_exec.mp hexec
    simp only [exec, Option.some.injEq, Prod.mk.injEq] at hdone
    by_contra hrunning
    have hphase : s₁.1.state.phase = .running := by
      rw [Stopped, not_not, ← hdone.1] at hrunning
      exact hrunning
    rw [hghost, standingAfter, if_pos ⟨hphase, by rw [hdone.2]; rfl⟩, Function.update_self] at hstanding
    cases hstanding
  refine safe_seq hclock (fun triggerNs s₁ _ => ?_) fun error s₁ h => h error rfl
  refine safe_seq safe_latchKill (fun latched s₂ hstopped => ?_) fun _ _ h _ => h
  have hrest : (discipline d).Clean (do
      let trigger ← Gateway.failClosedTrigger reasonCode requestId triggerNs
      let _ ← Supervisor.contain trigger triggerNs
      return () : Prog P Unit) := by
    refine clean_bind (clean_handle ?_ fun _ => ?_) fun trigger => ?_
    · exact clean_gatewayCommit gatewayReady clean_emergencyIsolate _ _ _ _ (by simp)
    · refine clean_bind (clean_perform fun _ _ _ => trivial) fun events => ?_
      cases events.getLast? with
      | none => exact clean_raise _
      | some event => exact clean_ret _
    · exact clean_bind (clean_contain _ _) fun _ => clean_ret _
  exact safe_mono (fun _ _ h _ => h.2) (safe_stable stable_stopped (hrest t s₂) hstopped)

/-- The event of a cancelled dispatch shows that the run was latched. -/
theorem safe_failed (action : Action P) (id : OpaqueId) (lease : Option DispatchLease)
    (error : PyError) : (discipline d).Safe t (fun _ s => s.2 t = true → Stopped s)
      (Executor.failed action id lease error) s := by
  have habort : (discipline d).Safe t (fun outcome _ => outcome = .ok ())
      (lease.elim (pure ()) fun lease => perform (.abort lease) : Prog P Unit) s := by
    cases lease with
    | none => exact safe_ret.mpr rfl
    | some lease => exact safe_act fun _ _ _ => ⟨trivial, fun _ _ _ _ _ _ => rfl⟩
  have hisSet : ∀ s, (discipline d).Safe t
      (fun outcome s => ∃ cancelled, outcome = .ok cancelled ∧ (cancelled = true → Stopped s))
      (perform (.isSet id) : Prog P Bool) s := by
    refine fun s => safe_act fun s₁ _ hinv => ⟨trivial, fun env s₂ cancelled _ hexec _ => ?_⟩
    refine ⟨cancelled, rfl, fun hset => ?_⟩
    obtain ⟨hdone, -⟩ := ghost_exec.mp hexec
    simp only [exec, Option.some.injEq, Prod.mk.injEq] at hdone
    rw [hset, decide_eq_true_eq] at hdone
    rw [Stopped, ← hdone.1]
    exact hinv id.1 hdone.2
  refine safe_seq habort (fun _ s₁ _ => ?_) fun _ _ heq => by cases heq
  refine safe_seq (hisSet s₁) ?_ (by rintro _ _ ⟨_, ⟨⟩, _⟩)
  rintro cancelled s₂ ⟨_, ⟨⟩, hstopped⟩
  cases cancelled with
  | true => exact fun _ => hstopped rfl
  | false => exact safe_seq (safe_failClosed _ _) (fun _ _ h => h) fun _ _ h => h

theorem safe_attemptDispatch (action : Action P) (decision : Decision P) (id : OpaqueId)
    (nowNs bytes : ℤ) : (discipline d).Safe t
      (fun outcome s => ∀ error, outcome = .error error → s.2 t = true → Stopped s)
      (Executor.attemptDispatch action decision id nowNs bytes) s := by
  refine safe_attempt_seq (clean_beginAuthorized action decision id nowNs bytes t s)
    fun outcome s₁ _ => ?_
  cases outcome with
  | error error => exact safe_mono (fun _ _ h _ _ => h) (safe_failed action id none error)
  | ok lease =>
      have hdeliver := clean_deliver plainReady clean_finishAuthorized (D := discipline d) action
        decision id bytes lease t s₁
      refine safe_handle (safe_mono (fun outcome s₂ _ => ?_) hdeliver)
      cases outcome with
      | ok result => exact fun _ heq => nomatch heq
      | error error => exact safe_mono (fun _ _ h _ _ => h) (safe_failed action id (some lease) error)

/-- What `dispatch` has tested before it registers. -/
structure Bound (d : Deployment P) (action : Action P) (decision : Decision P) : Prop where
  verified : decision.verify d.manifest.body.gatewayKey = .ok ()
  bound : Executor.checkBinding d action decision.body = .ok ()
  matched : ∃ rule, Executor.matchedRule d decision.body = .ok rule
  authorized : ∃ id, decision.body.authorizationId = some id

/-- How a dispatch stands when it is over. -/
def Done (d : Deployment P) (t : ℕ) (action : Action P) (decision : Decision P)
    {α : Type} (outcome : Except PyError α) (s : Runtime P × (ℕ → Bool)) : Prop :=
  Bound d action decision → ∀ error, outcome = .error error → s.2 t = true →
    Stopped s ∧ ∀ id, decision.body.authorizationId = some id → id.1 ∉ s.1.inflight

theorem safe_dispatch (action : Action P) (decision : Decision P) (nowNs : ℤ) :
    (discipline d).Safe t (Done d t action decision)
      (Executor.dispatch d action decision nowNs) s := by
  unfold Executor.dispatch
  cases hverify : decision.verify d.manifest.body.gatewayKey with
  | error error =>
      intro hbound
      rw [hbound.verified] at hverify
      cases hverify
  | ok _ =>
  cases hbinding : Executor.checkBinding d action decision.body with
  | error error =>
      intro hbound
      rw [hbound.bound] at hbinding
      cases hbinding
  | ok _ =>
  cases hrule : Executor.matchedRule d decision.body with
  | error error =>
      intro hbound
      obtain ⟨rule, hmatched⟩ := hbound.matched
      rw [hmatched] at hrule
      cases hrule
  | ok rule =>
  simp only [Program.ofExcept_ok, Program.ret_bind]
  cases hid : decision.body.authorizationId with
  | none =>
      intro hbound
      obtain ⟨id, hsome⟩ := hbound.authorized
      rw [hsome] at hid
      cases hid
  | some id =>
      dsimp only
      have hregister : (discipline d).Safe t (fun outcome s => ∀ error, outcome = .error error →
          s.2 t = false) (raising (perform (.register id)) : Prog P Unit) s := by
        refine safe_act fun s₁ _ _ => ⟨trivial, fun env s₂ r _ hexec _ => safe_ofExcept.mpr ?_⟩
        rintro error rfl
        obtain ⟨hdone, hghost⟩ := ghost_exec.mp hexec
        have hmem : id.1 ∈ s₁.1.inflight := by
          by_contra hfresh
          simp only [exec, InflightRegistry.register_eq_ok.mpr ⟨hfresh, rfl⟩, Option.some.injEq,
            Prod.mk.injEq] at hdone
          cases hdone.2
        rw [hghost, standingAfter, Function.update_self]
        exact decide_eq_false (not_not.mpr hmem)
      refine safe_seq hregister (fun _ s₁ _ => ?_) fun error s₁ hrefused => ?_
      · refine safe_finalize (safe_mono (fun outcome s₂ hended => ?_)
          (safe_attemptDispatch action decision id nowNs rule.maxResponseBytes.1))
        refine safe_act fun s₃ hrely _ => ⟨trivial, fun env s₄ _ _ hexec _ => ?_⟩
        rintro _ error rfl hstanding
        obtain ⟨hdone, hghost⟩ := ghost_exec.mp hexec
        have hbefore : s₂.2 t = true := by
          rw [hghost] at hstanding
          exact hrely.standing.symm.trans hstanding
        refine ⟨stopped_exec hexec (hrely.stopped (hended error rfl hbefore)), ?_⟩
        intro id' hid'
        obtain rfl := Option.some.inj (hid.symm.trans hid')
        simp only [exec, Option.some.injEq, Prod.mk.injEq] at hdone
        rw [← hdone.1]
        exact fun hmem => (AList.mem_erase.mp hmem).1 rfl
      · intro _ _ _ hstanding
        rw [hrefused error rfl] at hstanding
        cases hstanding

/-- What every call leaves behind. -/
def CallDone (d : Deployment P) (t : ℕ) : Call P → Except PyError (Reply P) →
    Runtime P × (ℕ → Bool) → Prop
  | .dispatch action decision _, outcome, s => Done d t action decision outcome s
  | _, _, _ => True

theorem safe_body (t : ℕ) (call : Call P) (s : Runtime P × (ℕ → Bool)) :
    (discipline d).Safe t (CallDone d t call) (body d call) s := by
  have hplain := plainReady (d := d)
  have hgateway := gatewayReady (d := d)
  have hcontain := clean_contain (d := d)
  have hisolate := clean_emergencyIsolate (d := d)
  cases call with
  | submitRaw raw => exact clean_map (clean_submitRaw hplain hgateway hcontain hisolate raw) t s
  | dispatch action decision nowNs =>
      refine safe_seq (safe_dispatch action decision nowNs) (fun result s₁ _ => ?_)
        fun error s₁ hdone => ?_
      · exact fun _ _ heq => by cases heq
      · rintro hbound _ ⟨⟩ hstanding
        exact hdone hbound error rfl hstanding
  | failClosed reasonCode requestId =>
      exact clean_map (clean_failClosed hplain hgateway hcontain hisolate reasonCode requestId) t s
  | enforceRuntimeDeadline ns =>
      exact clean_map (clean_enforceRuntimeDeadline hplain hgateway hcontain ns) t s
  | contain trigger ns => exact clean_map (hcontain trigger ns) t s
  | emergencyIsolate => exact clean_map hisolate t s
  | complete => exact clean_map (clean_complete hplain) t s
  | receipt status => exact clean_map (clean_receipt hplain status) t s

/-! ## What a dispatch touches -/

/-- The operation is about no authorization, or about this one. -/
def Op.Concerns (id : OpaqueId) : Op P → Prop
  | .register id' | .unregister id' => id' = id
  | .reserve body _ _ => body.authorizationId = some id
  | .rollback lease | .settle lease _ _ | .abort lease => lease.authorizationId = id.1
  | _ => True

/-- A reservation grants the lease that the decision names. -/
def Answers : (op : Op P) → op.Res → Prop
  | .reserve body _ _, answer =>
      ∀ id lease, body.authorizationId = some id → answer = .ok lease → lease.authorizationId = id.1
  | _, _ => True

theorem answers_exec {op : Op P} {r : op.Res}
    (hexec : (standingService d).exec env t s op = some (s', r)) : Answers op r := by
  obtain ⟨hdone, -⟩ := ghost_exec.mp hexec
  cases op
  case reserve body nowNs bytes =>
    intro id lease hid hok
    rcases Registration.lease_of_reserve hid hdone with ⟨lease', hlease', heq⟩ | ⟨error, herror, -⟩
    · obtain rfl : lease' = lease := Except.ok.inj (hlease'.symm.trans hok)
      exact heq
    · rw [herror] at hok
      cases hok
  all_goals exact trivial

/-- The operations that a call may come to. -/
def Allowed (d : Deployment P) : Call P → Op P → Prop
  | .dispatch action decision _, op => Bound d action decision ∧
      ∃ id, decision.body.authorizationId = some id ∧ Op.Concerns id op
  | _, _ => True

section Within

variable {action : Action P} {decision : Decision P} {id : OpaqueId}

/-- Operations that name no authorization. -/
theorem all_unnamed {α : Type} {op : Op P} (f : op.Res → Except PyError α)
    (hop : Op.Concerns id op) :
    (perform op >>= fun answer => Program.ofExcept (f answer) : Prog P α).All (Op.Concerns id) :=
  all_bind (all_perform hop) fun _ => all_ofExcept _

theorem all_isolation : (Supervisor.emergencyIsolate : Prog P Unit).All (Op.Concerns id) := by
  refine all_bind (all_perform trivial) fun _ => ?_
  refine all_finalize (all_bind (all_perform trivial) fun _ => ?_) (all_perform trivial)
  refine all_bind (all_perform trivial) fun _ => ?_
  exact all_bind (all_unnamed _ trivial) fun _ => all_unnamed _ trivial

theorem all_containing (trigger : Event P) (ns : ℤ) :
    (Supervisor.contain trigger ns).All (Op.Concerns id) := by
  refine all_bind (all_perform trivial) fun _ => ?_
  refine all_finalize (all_bind (all_perform trivial) fun found => ?_) (all_perform trivial)
  cases found with
  | some ack => exact trivial
  | none =>
      refine all_bind (all_perform trivial) fun latched => ?_
      refine all_bind (all_perform trivial) fun signals => ?_
      refine all_bind (all_unnamed _ trivial) fun requestedAt => ?_
      refine all_bind (all_unnamed _ trivial) fun requestedNs => ?_
      refine all_bind (all_unnamed _ trivial) fun isolation => ?_
      refine all_bind (all_unnamed _ trivial) fun acknowledgedNs => ?_
      refine all_bind (all_unnamed _ trivial) fun acknowledgedAt => ?_
      refine all_bind (all_unnamed _ trivial) fun _ => ?_
      refine all_bind (all_unnamed _ trivial) fun ack => ?_
      refine all_handle (all_bind (all_unnamed _ trivial) fun _ => trivial) fun error => ?_
      exact all_bind (all_perform trivial) fun _ => trivial

theorem all_closing (reasonCode : String) (requestId : Option String) :
    (Gateway.failClosed reasonCode requestId : Prog P Unit).All (Op.Concerns id) := by
  refine all_bind (all_unnamed _ trivial) fun triggerNs => ?_
  refine all_bind (all_perform trivial) fun _ => ?_
  refine all_bind (all_handle (all_handle (all_unnamed _ trivial) fun _ => ?_) fun _ => ?_)
    fun trigger => all_bind (all_containing _ _) fun _ => trivial
  · exact all_bind all_isolation fun _ => trivial
  · refine all_bind (all_perform trivial) fun events => ?_
    cases events.getLast? with
    | none => exact trivial
    | some event => exact trivial

theorem within_failed (lease : Option DispatchLease) (error : PyError)
    (hlease : ∀ granted ∈ lease, granted.authorizationId = id.1) :
    (Executor.failed action id lease error).Within (Op.Concerns id) Answers fun _ => True := by
  refine within_bind (q := fun _ => True) ?_ fun _ _ => ?_
  · cases lease with
    | none => exact trivial
    | some granted => exact within_perform (hlease granted rfl) fun _ _ => trivial
  refine within_bind (within_perform trivial fun _ _ => trivial) fun cancelled _ => ?_
  cases cancelled with
  | true => exact trivial
  | false => exact within_bind (within_of_all (all_closing _ _)) fun _ _ => trivial

theorem within_beginAuthorized (hid : decision.body.authorizationId = some id) (nowNs bytes : ℤ) :
    (Executor.beginAuthorized action decision id nowNs bytes).Within (Op.Concerns id) Answers
      fun lease => lease.authorizationId = id.1 := by
  refine within_bind (q := fun lease => lease.authorizationId = id.1) ?_ fun lease hlease => ?_
  · refine within_bind (q := fun answer => ∀ lease, answer = .ok lease → lease.authorizationId = id.1)
      (within_perform hid fun answer hanswer lease hok => hanswer id lease hid hok) ?_
    exact fun answer hanswer => within_ofExcept hanswer
  refine within_bind (within_attempt (q := fun _ => True) ?_) fun outcome _ => ?_
  · refine within_bind (q := fun _ => True) (within_ofExcept fun _ _ => trivial) fun sha _ => ?_
    exact within_bind (within_perform trivial fun _ _ => trivial) fun _ _ =>
      within_ofExcept fun _ _ => trivial
  cases outcome with
  | ok event => exact within_bind (within_perform trivial fun _ _ => trivial) fun _ _ => hlease
  | error error => exact within_bind (within_perform hlease fun _ _ => trivial) fun _ _ => trivial

theorem within_deliver {lease : DispatchLease} (hlease : lease.authorizationId = id.1) (bytes : ℤ) :
    (Executor.deliver action decision id bytes lease).Within (Op.Concerns id) Answers
      fun _ => True := by
  have hraising {α : Type} {op : Op P} (f : op.Res → Except PyError α) (hop : Op.Concerns id op) :
      (perform op >>= fun answer => Program.ofExcept (f answer) : Prog P α).Within (Op.Concerns id)
        Answers fun _ => True := within_of_all (all_unnamed f hop)
  refine within_bind (hraising _ trivial) fun secret _ => ?_
  refine within_bind (hraising _ trivial) fun result _ => ?_
  refine within_bind (q := fun _ => True) (within_ofExcept fun _ _ => trivial) fun _ _ => ?_
  refine within_bind (q := fun _ => True) ?_ fun _ _ => trivial
  refine within_bind (hraising _ trivial) fun reserved _ => ?_
  refine within_bind (within_attempt (q := fun _ => True) ?_) fun outcome _ => ?_
  · exact within_bind (q := fun _ => True) (within_ofExcept fun _ _ => trivial) fun sha _ =>
      hraising _ trivial
  cases outcome with
  | ok event => exact within_perform hlease fun _ _ => trivial
  | error error => exact within_bind (within_perform trivial fun _ _ => trivial) fun _ _ => trivial

theorem within_attemptDispatch (hid : decision.body.authorizationId = some id) (nowNs bytes : ℤ) :
    (Executor.attemptDispatch action decision id nowNs bytes).Within (Op.Concerns id) Answers
      fun _ => True := by
  refine within_bind (within_attempt (within_beginAuthorized hid nowNs bytes)) fun outcome hlease => ?_
  cases outcome with
  | error error => exact within_failed none error fun _ hnone => nomatch hnone
  | ok lease =>
      refine within_handle (within_deliver (hlease lease rfl) bytes) fun error => ?_
      refine within_failed (some lease) error ?_
      rintro _ ⟨⟩
      exact hlease lease rfl

theorem within_dispatch (nowNs : ℤ) : (Executor.dispatch d action decision nowNs).Within
    (Allowed d (.dispatch action decision nowNs)) Answers fun _ => True := by
  unfold Executor.dispatch
  cases hverify : decision.verify d.manifest.body.gatewayKey with
  | error error => exact trivial
  | ok _ =>
  cases hbinding : Executor.checkBinding d action decision.body with
  | error error => exact trivial
  | ok _ =>
  cases hrule : Executor.matchedRule d decision.body with
  | error error => exact trivial
  | ok rule =>
  simp only [Program.ofExcept_ok, Program.ret_bind]
  cases hid : decision.body.authorizationId with
  | none => exact trivial
  | some id =>
      have hallowed : ∀ op : Op P, Op.Concerns id op → Allowed d (.dispatch action decision nowNs) op :=
        fun op hop => ⟨⟨hverify, hbinding, ⟨rule, hrule⟩, ⟨id, hid⟩⟩, id, hid, hop⟩
      refine within_mono hallowed ?_
      have hregister : Op.Concerns id (.register id : Op P) := rfl
      refine within_bind (within_of_all (all_raising (all_perform hregister))) fun _ _ => ?_
      exact within_finalize (within_attemptDispatch hid nowNs _)
        (within_perform rfl fun _ _ => trivial)

theorem within_body (call : Call P) :
    (body d call).Within (Allowed d call) Answers fun _ => True := by
  cases call with
  | dispatch action decision nowNs =>
      exact within_bind (within_dispatch nowNs) fun _ _ => trivial
  | _ => exact within_of_forall (fun _ => trivial) _

end Within

/-- A lease changes by an operation about it, or when the kill clears all of them. -/
theorem lease_exec {op : Op P} {r : op.Res} {id : OpaqueId} {other : String} {s s' : Runtime P}
    (hconcerns : Op.Concerns id op) (hother : other ≠ id.1)
    (h : exec d env t s op = some (s', r)) :
    s'.state.activeAuthorizations.lookup other = s.state.activeAuthorizations.lookup other ∨
      (s'.state.phase = .killed ∧ s'.state.activeAuthorizations = ∅) := by
  cases op
  case commit kind payload requestId ns =>
    simp only [exec, Option.some.injEq] at h
    rcases commit_cases d env s kind payload requestId ns with ⟨_, heq⟩ |
      ⟨_, _, _, _, -, -, heq⟩ <;>
    · rw [heq, Prod.mk.injEq] at h
      obtain ⟨rfl, -⟩ := h
      exact .inl rfl
  case reserve body nowNs bytes =>
    simp only [exec, Option.ite_none_right_eq_some] at h
    obtain ⟨-, h⟩ := h
    rcases RunState.reserve_cases s.state body nowNs bytes with ⟨_, heq⟩ | ⟨_, heq⟩ |
      ⟨id', expires, -, -, -, hid', -, -, -, -, -, heq⟩
    · rw [heq] at h
      simp only [Option.some.injEq, Prod.mk.injEq] at h
      obtain ⟨rfl, -⟩ := h
      exact .inl rfl
    · rw [heq] at h
      simp only [Option.some.injEq, Prod.mk.injEq] at h
      obtain ⟨rfl, -⟩ := h
      exact .inl (by rw [RunState.active_latchKillLocked])
    · rw [heq] at h
      simp only [Option.some.injEq, Prod.mk.injEq] at h
      obtain ⟨rfl, -⟩ := h
      obtain rfl : id' = id := Option.some.inj (hid'.symm.trans hconcerns)
      exact .inl (AList.lookup_insert_ne hother)
  case prepareFinish lease egressBytes =>
    simp only [exec, Option.ite_none_right_eq_some] at h
    obtain ⟨-, h⟩ := h
    rcases RunState.prepareFinish_cases s.state lease egressBytes with ⟨_, heq⟩ | ⟨_, heq⟩ |
      ⟨_, -, -, -, heq⟩ <;>
    · rw [heq] at h
      simp only [Option.some.injEq, Prod.mk.injEq] at h
      obtain ⟨rfl, -⟩ := h
      first | exact .inl rfl | exact .inl (by rw [RunState.active_latchKillLocked])
  all_goals
    simp only [exec, onState_eq_some, Option.some.injEq, Prod.mk.injEq,
      Option.ite_none_right_eq_some] at h
  all_goals try split at h
  all_goals try split at h
  all_goals try simp only [Option.some.injEq, Prod.mk.injEq] at h
  all_goals first | obtain ⟨rfl, -⟩ := h | obtain ⟨-, rfl, -⟩ := h
  case admitRaw bytes ns =>
    obtain ⟨window, count, hwindow⟩ :=
      RunState.openWindow_eq { s.state with observed := s.state.observed + 1 } ns
    refine .inl ?_
    simp only [RunState.admitRaw, hwindow]
    split_ifs
    · rfl
    · rw [RunState.active_latchKillLocked]
    · rfl
  case latchKill =>
    exact .inl (by rw [show s.state.latchKill.1 = s.state.latchKillLocked from rfl,
      RunState.active_latchKillLocked])
  case recordDecision verdict =>
    refine .inl ?_
    simp only [RunState.recordDecision]
    split_ifs <;> rfl
  case rollback lease =>
    refine .inl ?_
    simp only [RunState.rollback, RunState.active_latchKillLocked]
    exact AList.lookup_erase_ne fun heq => hother (heq.trans hconcerns)
  case failFinish => exact .inl (by rw [RunState.active_latchKillLocked])
  case settle lease reserved bytes =>
    exact .inl (AList.lookup_erase_ne fun heq => hother (heq.trans hconcerns))
  case abort lease =>
    refine .inl ?_
    simp only [RunState.abortAuthorized]
    split
    · rfl
    · exact AList.lookup_erase_ne fun heq => hother (heq.trans hconcerns)
  case markKilled =>
    simp only [RunState.markKilled]
    split_ifs
    · exact .inl rfl
    · exact .inr ⟨rfl, rfl⟩
  case markCompleted =>
    refine .inl ?_
    simp only [RunState.markCompleted]
    split_ifs <;> rfl
  all_goals exact .inl rfl

/-- One operation of a dispatch leaves all other authorizations alone. -/
theorem unaffected_exec {op : Op P} {r : op.Res} {id : OpaqueId} {other : String}
    (hconcerns : Op.Concerns id op) (hother : other ≠ id.1) (hready : Ready s op)
    (hexec : (standingService d).exec env t s op = some (s', r)) : Unaffected other s.1 s'.1 := by
  obtain ⟨hdone, -⟩ := ghost_exec.mp hexec
  refine ⟨lease_exec hconcerns hother hdone, ?_⟩
  rcases Registration.inflight_exec hdone with ⟨id', rfl, -, hinflight, -⟩ |
    ⟨id', rfl, hinflight, -⟩ | ⟨rfl, hinflight, -⟩ | ⟨hinflight, -⟩
  · obtain rfl : id' = id := hconcerns
    rw [hinflight]
    exact .inl (AList.lookup_insert_ne hother)
  · obtain rfl : id' = id := hconcerns
    rw [hinflight]
    exact .inl (AList.lookup_erase_ne hother)
  · exact .inr ⟨hready, hinflight⟩
  · exact .inl (by rw [hinflight])

end FailedDispatch

/-- A dispatch that raises behind its registration leaves the run latched, no lease and no
handle, in every interleaving, and no step of it touches another authorization except as the
kill does. -/
theorem failsClosed_of_reachable {d : Deployment P} {witness : TransparencyWitness P}
    {c : Config (standingService d)}
    (h : Reachable (anyDispatches d) (Runtime.init d witness, fun _ => false) c) :
    FailsClosed c := by
  have hinit : FailedDispatch.Inv ((Runtime.init d witness, fun _ => false) :
      Runtime P × (ℕ → Bool)) := fun _ hnone => nomatch hnone
  have hretire : ∀ {call outcome s}, FailedDispatch.Inv s →
      FailedDispatch.Inv ((standingService d).retire call outcome s) := by
    intro call outcome s hinv
    dsimp only [standingService]
    unfold retire
    split <;> exact hinv
  have hretired : ∀ {call outcome s} u,
      FailedDispatch.Rely u s ((standingService d).retire call outcome s) := by
    intro call outcome s u
    dsimp only [standingService]
    unfold retire
    split <;> exact ⟨id, rfl⟩
  obtain ⟨hinv, hsafe⟩ := safe_of_reachable (D := FailedDispatch.discipline d)
    (fun t call s _ _ => FailedDispatch.safe_body t call s) hretire hretired hinit h
  have hwithin := fun {t call code} (hrunning : c.running t = some (call, code)) =>
    within_of_reachable FailedDispatch.answers_exec FailedDispatch.within_body h hrunning
  refine ⟨?_, ?_⟩
  · intro t action decision nowNs op next env s' result error hrunning hexec hraise hstanding
    obtain ⟨hready, hrest⟩ := hsafe t _ op next hrunning c.shared (Discipline.rely_refl _ _ _) hinv
    obtain ⟨⟨hbound, id, hid, -⟩, -⟩ := hwithin hrunning
    have hinv' := FailedDispatch.inv_exec hinv hready hexec
    have hdone := hrest env s' result trivial hexec hinv'
    rw [hraise] at hdone
    obtain ⟨hstopped, hgone⟩ := hdone hbound error rfl hstanding
    -- The same run without the observer, for what is known of all runs.
    have hreach : Reachable (Barrier.anyRun d) (Runtime.init d witness)
        (c.set s' t (some (.dispatch action decision nowNs, next result))).erase :=
      steps_erase (fun _ _ _ => trivial) (fun _ _ _ _ => trivial)
        (h.tail (.act t hrunning env trivial hexec))
    have hleases : LeasesRegistered s'.1 := leasesRegistered_of_reachable hreach
    have haccounting : RunState.Accounting s'.1.state :=
      (invariant_of_reachable Barrier.covers (Barrier.inv_init witness) hreach).accounting
    exact ⟨id, hid, hstopped, fun hactive => hgone id hid (hleases _ hactive),
      haccounting.reserved_eq, haccounting.inflight_eq, hgone id hid⟩
  · intro t action decision nowNs op next env s' result hrunning hexec
    obtain ⟨hready, -⟩ := hsafe t _ op next hrunning c.shared (Discipline.rely_refl _ _ _) hinv
    obtain ⟨⟨hbound, id, hid, hconcerns⟩, -⟩ := hwithin hrunning
    exact ⟨id, hid, fun other hother =>
      FailedDispatch.unaffected_exec hconcerns hother hready hexec⟩

/-- A world without a clock. -/
def clockless : World :=
  { failingWorld 0 with monotonicClock := .error (.runtimeError "monotonic clock unavailable") }

/-- A dispatch that comes too late and finds no clock either is about to raise. -/
theorem failsClosed_late : ∃ (manifest : Manifest Reference.platform)
    (c : Config (standingService (Reference.deployment manifest)))
    (decision : Decision Reference.platform)
    (next : Unit → Prog Reference.platform (Reply Reference.platform)) (error : PyError),
    c.running 0 = some (.dispatch Reference.action decision 2000,
      .act (.unregister Reference.authorizationId) next) ∧
    next () = .raise error ∧ c.shared.2 0 = true ∧ FailsClosed c := by
  obtain ⟨manifest, hm⟩ := Reference.exists_signed
  obtain ⟨raw, hwire, hraw⟩ := Reference.exists_wire
  obtain ⟨s', request, decided, decision, digest, hends, hdecided⟩ :=
    Reference.exists_submitRaw (Barrier.anyRun _) 0 ⟨2000, by decide⟩ ⟨1000002000, by decide⟩ hm
      (fun _ _ _ _ _ => trivial) (Reference.healthy_init manifest 2000) (by decide)
      (Reference.roomy_init hm) (show 0 < 800 by decide) ⟨by decide, by decide⟩ rfl hwire hraw
  obtain ⟨s₀, history₀, hs₀, hcall⟩ : ∃ s₀ history,
      s₀ = { Reference.counted s' with history := history } ∧
      CallStep (Barrier.anyRun _)
        (Runtime.init (Reference.deployment manifest) Reference.witness) s₀ :=
    ⟨_, _, rfl, .call 0 (Call.submitRaw raw) _ trivial hends⟩
  obtain ⟨hroomy, -, hfresh, -⟩ := hdecided.dispatchable hm (le_refl 2000) hs₀
  -- Another thread completes the run in between.
  obtain ⟨s₁, hs₁⟩ : ∃ s₁ : Runtime Reference.platform,
    s₁ = { s₀ with state := { s₀.state with phase := .completed } } := ⟨_, rfl⟩
  have hcompleted : Ends (Barrier.anyRun (Reference.deployment manifest)) 1 s₀
      (raising (perform .markCompleted) : Prog Reference.platform Unit) s₁ (.ok ()) := by
    refine ends_raising (ends_perform clockless trivial ?_)
    simp only [exec, Runtime.onState, hroomy.stateLock, if_true, RunState.markCompleted,
      if_neg (not_not.mpr hroomy.phase), hs₁]
  have hcomplete : Runs (Barrier.anyRun (Reference.deployment manifest)) 1 s₀
      (Supervisor.complete (Reference.deployment manifest)) s₁
      (Supervisor.receipt (Reference.deployment manifest) none) :=
    Ends.bind hcompleted (.refl _ _)
  have hstart : (Barrier.anyRun (Reference.deployment manifest)).starts s₀ .complete := trivial
  have hcompleting := (reachable_of_sequence (.single hcall)).trans
    (steps_call (S := runtimeService (Reference.deployment manifest)) (t := 1) rfl hstart
      (Runs.bind hcomplete))
  have hstarts (s : Runtime Reference.platform) (call : Call Reference.platform) (ghost : ℕ → Bool)
      (_ : (Barrier.anyRun (Reference.deployment manifest)).starts s call) :
      (anyDispatches (Reference.deployment manifest)).starts (s, ghost) call := trivial
  obtain ⟨standing, hreach⟩ := steps_ghost hstarts (fun _ _ _ _ _ => trivial) hcompleting
    fun _ => false
  have hphase : (Reference.registered s₁).state.phase ≠ .running := by
    rw [hs₁]
    exact RunPhase.noConfusion
  have hlock : (Reference.registered s₁).stateLock = none := by
    rw [hs₁]
    exact hroomy.stateLock
  have hfresh₁ : "auth:00" ∉ s₁.inflight := by
    rw [hs₁]
    exact hfresh
  set g := standingAfter clockless 0 (.register Reference.authorizationId) s₁ standing with hg
  have hregister : Ends (anyDispatches (Reference.deployment manifest)) 0 (s₁, standing)
      (raising (perform (.register Reference.authorizationId)) : Prog Reference.platform Unit)
      (Reference.registered s₁, g) (.ok ()) :=
    Ends.bind (ends_perform clockless trivial
      (ghost_exec.mpr ⟨Reference.exec_register clockless 0 hfresh₁, rfl⟩)) (.refl _ _)
  have hbegin : Ends (anyDispatches (Reference.deployment manifest)) 0
      (Reference.registered s₁, g) (Executor.beginAuthorized Reference.action decision
        Reference.authorizationId 2000 1048576) (Reference.registered s₁, g)
      (.error (.permissionError "run is not dispatchable")) := by
    refine Ends.bind_error (Ends.bind (ends_perform clockless trivial
      (ghost_exec.mpr ⟨?_, rfl⟩)) (.refl _ _))
    simp only [exec]
    rw [if_pos hlock, RunState.reserve, if_pos hphase]
  have hset : Ends (anyDispatches (Reference.deployment manifest)) 0 (Reference.registered s₁, g)
      (perform (.isSet Reference.authorizationId) : Prog Reference.platform Bool)
      (Reference.registered s₁, g) (.ok false) := by
    refine ends_perform clockless trivial (ghost_exec.mpr ⟨?_, rfl⟩)
    simp only [exec, Reference.registered, Reference.authorizationId, AList.lookup_insert]
    rfl
  have hclock : Ends (anyDispatches (Reference.deployment manifest)) 0 (Reference.registered s₁, g)
      (monotonicNow : Prog Reference.platform ℤ) (Reference.registered s₁, g)
      (.error (.runtimeError "monotonic clock unavailable")) := by
    refine Ends.bind (ends_perform clockless trivial (ghost_exec.mpr ⟨?_, ?_⟩)) (.refl _ _)
    · simp only [exec, clockless]
    · rw [standingAfter, if_neg fun hrunning => hphase hrunning.1]
  have hfailed : Ends (anyDispatches (Reference.deployment manifest)) 0 (Reference.registered s₁, g)
      (Executor.attemptDispatch Reference.action decision Reference.authorizationId 2000 1048576)
      (Reference.registered s₁, g) (.error (.runtimeError "monotonic clock unavailable")) :=
    Ends.bind (Ends.attempt hbegin) (Ends.bind ends_ret (Ends.bind hset
      (Ends.bind_error (Ends.bind_error hclock))))
  have hruns : Runs (anyDispatches (Reference.deployment manifest)) 0 (s₁, standing)
      (Executor.dispatch (Reference.deployment manifest) Reference.action decision 2000)
      (Reference.registered s₁, g) (.act (.unregister Reference.authorizationId) fun _ =>
        .raise (.runtimeError "monotonic clock unavailable")) := by
    rw [Reference.dispatch_decided hm hdecided]
    exact Ends.bind hregister (Runs.bind (Runs.attempt hfailed))
  have hdispatch (s : Runtime Reference.platform × (ℕ → Bool)) :
      (anyDispatches (Reference.deployment manifest)).starts s
        (.dispatch Reference.action decision 2000) := trivial
  have hlate := hreach.trans (steps_call (S := standingService (Reference.deployment manifest))
    (t := 0) rfl (hdispatch _) (Runs.bind hruns))
  refine ⟨manifest, _, decision, fun _ => .raise (.runtimeError "monotonic clock unavailable"), _,
    ?_, rfl, ?_, failsClosed_of_reachable hlate⟩
  · simp only [Config.set, Function.update_self]
    rfl
  change g 0 = true
  rw [hg, standingAfter, Function.update_self]
  exact decide_eq_true hfresh₁

end Containment
