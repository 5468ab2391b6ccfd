/-
# When everything fails

A world in which the write-ahead log, the wall clock and the isolation backend are out of
order. The fail-closed paths still end in it, each with an exception, and release their
locks.
-/

import Containment.Concurrency.Execution
import Containment.Runtime.Steps

namespace Containment

open Json Concurrency

variable {P : Platform}

/-- No call holds a lock. -/
structure Idle (s : Runtime P) : Prop where
  state : s.stateLock = none
  contain : s.containLock = none

section Outage

variable {d : Deployment P} {rule : RunRule (runtimeService d)} {t : ℕ} {s s₁ s₂ : Runtime P}

theorem ends_raising {α : Type} {p : Prog P (Except PyError α)} {outcome : Except PyError α}
    (h : Ends rule t s p s₁ (.ok outcome)) : Ends rule t s (raising p) s₁ outcome :=
  Ends.bind h (.refl _ _)

/-- Code that raises in the end, whatever the code before it did. -/
theorem ends_then_raise {α β : Type} {p : Prog P α} {outcome : Except PyError α}
    (error : PyError) (h : Ends rule t s p s₁ outcome) :
    ∃ error', Ends rule t s (p >>= fun _ => (.raise error : Prog P β)) s₁ (.error error') := by
  cases outcome with
  | ok value => exact ⟨error, Ends.bind h (.refl _ _)⟩
  | error error' => exact ⟨error', Ends.bind_error h⟩

/-- A world in which every commit and every isolation fails. -/
def failingWorld (ns : ℤ) : World where
  wallClock := .error (.runtimeError "wall clock unavailable")
  monotonicClock := .ok ns
  fault := some (.runtimeError "write-ahead log unavailable")
  token := ""
  isolation := .error (.runtimeError "isolation backend unavailable")
  transport := .error (.runtimeError "transport unavailable")

theorem observed_latchKill (s : RunState) : s.latchKill.1.observed = s.observed := by
  unfold RunState.latchKill RunState.latchKillLocked
  split_ifs <;> rfl

theorem observed_markKilled (s : RunState) : s.markKilled.1.observed = s.observed := by
  unfold RunState.markKilled
  split_ifs <;> rfl

theorem ends_latchKill (env : World) (hmove : rule.moves s .latchKill env)
    (hidle : s.stateLock = none) : Ends rule t s (perform .latchKill) { s with
      state := s.state.latchKill.1
      history := s.history.latched (s.containLock = some t) } (.ok s.state.latchKill.2) := by
  refine ends_perform env hmove ?_
  simp only [exec, hidle, if_true]

theorem ends_markKilled (env : World) (hmove : rule.moves s .markKilled env)
    (hidle : s.stateLock = none) : Ends rule t s (raising (perform .markKilled))
      { s with state := s.state.markKilled.1 } s.state.markKilled.2 := by
  refine ends_raising (ends_perform env hmove ?_)
  simp only [exec, Runtime.onState, hidle, if_true]

/-- Emergency isolation ends, and no request was counted on the way. -/
theorem exists_emergencyIsolate {now : ℤ} (hmoves : ∀ s op, rule.moves s op (failingWorld now))
    (hidle : Idle s) : ∃ s' outcome,
      Ends rule t s (Supervisor.emergencyIsolate : Prog P Unit) s' outcome ∧
        s'.state.observed = s.state.observed ∧ Idle s' := by
  have hacquire : Ends rule t s (perform .acquireContain : Prog P Unit)
      { s with containLock := some t } (.ok ()) :=
    ends_perform (failingWorld now) (hmoves _ _) (by simp only [exec, hidle.contain, if_true])
  have hraise : Ends rule t { s with containLock := some t } (perform .raiseEmergency : Prog P Unit)
      { s with containLock := some t, emergencyFailure := true } (.ok ()) :=
    ends_perform (failingWorld now) (hmoves _ _) (by simp only [exec])
  have hlatch := ends_latchKill (t := t)
    (s := { s with containLock := some t, emergencyFailure := true }) (failingWorld now) (hmoves _ _)
    hidle.state
  set s₁ : Runtime P := { s with
    containLock := some t
    emergencyFailure := true
    state := s.state.latchKill.1
    history := s.history.latched true } with hs₁
  have hlatch' : Ends rule t { s with containLock := some t, emergencyFailure := true }
      (perform .latchKill : Prog P _) s₁ (.ok s.state.latchKill.2) := by
    simp only [decide_true] at hlatch
    exact hlatch
  -- The rest of the body, with or without an isolation result of an earlier containment.
  obtain ⟨s₂, outcome, hrest, hlock, hobserved, hfree⟩ : ∃ s₂ outcome, Ends rule t s₁ (do
      let _ ← raising (perform .isolate)
      raising (perform .markKilled) : Prog P Unit) s₂ outcome ∧ s₂.containLock = some t ∧
        s₂.state.observed = s.state.observed ∧ s₂.stateLock = none := by
    cases hresult : s.isolationResult with
    | none =>
        refine ⟨s₁, .error (.runtimeError "isolation backend unavailable"), ?_, rfl,
          observed_latchKill s.state, hidle.state⟩
        refine Ends.bind_error (ends_raising (ends_perform (failingWorld now) (hmoves _ _) ?_))
        simp only [exec, hs₁, hresult, failingWorld]
    | some result =>
        refine ⟨{ s₁ with state := s₁.state.markKilled.1 }, s₁.state.markKilled.2, ?_, rfl,
          (observed_markKilled _).trans (observed_latchKill s.state), hidle.state⟩
        have hisolate : Ends rule t s₁ (raising (perform .isolate) : Prog P IsolationResult) s₁
            (.ok result) :=
          ends_raising (ends_perform (failingWorld now) (hmoves _ _)
            (by simp only [exec, hs₁, hresult]))
        exact Ends.bind hisolate (ends_markKilled (failingWorld now) (hmoves _ _) hidle.state)
  have hrelease : Ends rule t s₂ (perform .releaseContain : Prog P Unit)
      { s₂ with containLock := none } (.ok ()) :=
    ends_perform (failingWorld now) (hmoves _ _) (by simp only [exec, hlock, if_true])
  refine ⟨{ s₂ with containLock := none }, outcome, ?_, hobserved, hfree, rfl⟩
  exact Ends.bind hacquire (Ends.finalize (Ends.bind hraise (Ends.bind hlatch' hrest)) hrelease)

theorem append_failingWorld (now : ℤ) (ledger : EvidenceLedger P) (kind : EventKind) (payload : Json)
    (requestId : Option String) (ns : Option ℤ) : ∃ error,
      ledger.append d.ledgerConfig (failingWorld now).toClocks kind payload requestId ns
        (failingWorld now).fault = .error error := by
  cases happend : ledger.append d.ledgerConfig (failingWorld now).toClocks kind payload requestId ns
      (failingWorld now).fault with
  | error error => exact ⟨error, rfl⟩
  | ok event =>
      simp only [EvidenceLedger.append, bind_eq_ok] at happend
      obtain ⟨-, -, -, -, now, hnow, -⟩ := happend
      cases hnow

/-- A commit that fails isolates the run and raises. -/
theorem exists_failed_commit {now : ℤ} (hmoves : ∀ s op, rule.moves s op (failingWorld now)) (hidle : Idle s)
    (kind : EventKind) (payload : Json) (requestId : Option String) (ns : Option ℤ) :
    ∃ s' error, Ends rule t s (Gateway.commit kind payload requestId ns : Prog P (Event P)) s'
      (.error error) ∧ s'.state.observed = s.state.observed ∧ Idle s' := by
  obtain ⟨refused, hrefused⟩ := append_failingWorld (d := d) now s.ledger kind payload requestId ns
  have hcommit : Ends rule t s (raising (perform (.commit kind payload requestId ns)) :
      Prog P (Event P)) s (.error refused) := by
    refine ends_raising (ends_perform (failingWorld now) (hmoves _ _) ?_)
    simp only [exec, Runtime.commit, hrefused]
  obtain ⟨s', outcome, hisolate, hkept⟩ := exists_emergencyIsolate (t := t) hmoves hidle
  obtain ⟨error, hraised⟩ := ends_then_raise (β := Event P) refused hisolate
  exact ⟨s', error, Ends.handle_error hcommit hraised, hkept⟩

/-- A containment ends. It raises, unless an earlier one has been acknowledged. -/
theorem exists_contain {now : ℤ} (hmoves : ∀ s op, rule.moves s op (failingWorld now))
    (hidle : Idle s) (trigger : Event P) (ns : ℤ) :
    ∃ s' outcome, Ends rule t s (Supervisor.contain trigger ns) s' outcome := by
  have hacquire : Ends rule t s (perform .acquireContain : Prog P Unit)
      { s with containLock := some t } (.ok ()) :=
    ends_perform (failingWorld now) (hmoves _ _) (by simp only [exec, hidle.contain, if_true])
  have hread {found : Option (KillAcknowledgement P)} (hfound : s.killAcknowledgement = found) :
      Ends rule t { s with containLock := some t } (perform .readAcknowledgement : Prog P _)
        { s with containLock := some t } (.ok found) :=
    ends_perform (failingWorld now) (hmoves _ _) (by simp only [exec, hfound])
  obtain ⟨s₁, outcome, hbody, hlock⟩ : ∃ s₁ outcome, Ends rule t { s with containLock := some t }
      (Supervisor.containLocked trigger ns) s₁ outcome ∧ s₁.containLock = some t := by
    obtain ⟨found, hfound⟩ : ∃ found, s.killAcknowledgement = found := ⟨_, rfl⟩
    cases found with
    | some ack =>
        exact ⟨_, .ok ack, Ends.bind (hread hfound) ends_ret, rfl⟩
    | none =>
        have hlatch := ends_latchKill (t := t)
          (s := { s with containLock := some t }) (failingWorld now) (hmoves _ _) hidle.state
        set s₁ : Runtime P := { s with
          containLock := some t
          state := s.state.latchKill.1
          history := s.history.latched (some t = some t) } with hs₁
        have hsignal : Ends rule t s₁ (perform .signalAll : Prog P ℕ)
            { s₁ with inflight := s₁.inflight.signalAll.1 } (.ok s₁.inflight.signalAll.2) :=
          ends_perform (failingWorld now) (hmoves _ _) (by simp only [exec])
        have hwall : Ends rule t { s₁ with inflight := s₁.inflight.signalAll.1 }
            (wallNow : Prog P Datetime) { s₁ with inflight := s₁.inflight.signalAll.1 }
            (.error (.runtimeError "wall clock unavailable")) :=
          ends_raising (ends_perform (failingWorld now) (hmoves _ _)
            (by simp only [exec, failingWorld]))
        exact ⟨_, _, Ends.bind (hread hfound)
          (Ends.bind hlatch (Ends.bind hsignal (Ends.bind_error hwall))), rfl⟩
  have hrelease : Ends rule t s₁ (perform .releaseContain : Prog P Unit)
      { s₁ with containLock := none } (.ok ()) :=
    ends_perform (failingWorld now) (hmoves _ _) (by simp only [exec, hlock, if_true])
  exact ⟨_, outcome, Ends.bind hacquire (Ends.finalize hbody hrelease)⟩

/-- Failing closed ends, once there is an event to point at. -/
theorem exists_failClosed {now : ℤ} (hmoves : ∀ s op, rule.moves s op (failingWorld now))
    (hidle : Idle s) (reasonCode : String) (requestId : Option String) :
    ∃ s' outcome, Ends rule t s (Gateway.failClosed reasonCode requestId : Prog P Unit) s' outcome := by
  have hclock : Ends rule t s (monotonicNow : Prog P ℤ) s (.ok now) :=
    ends_raising (ends_perform (failingWorld now) (hmoves _ _) (by simp only [exec, failingWorld]))
  have hlatch := ends_latchKill (t := t) (failingWorld now) (hmoves s _) hidle.state
  set s₁ : Runtime P := { s with
    state := s.state.latchKill.1
    history := s.history.latched (s.containLock = some t) } with hs₁
  obtain ⟨s₂, error, hcommit, -, hidle₂⟩ := exists_failed_commit (t := t)
    (s := s₁) hmoves ⟨hidle.state, hidle.contain⟩ .violation (Supervisor.reasonPayload reasonCode)
    requestId (some now)
  have hevents : Ends rule t s₂ (perform .events : Prog P (List (Event P))) s₂
      (.ok s₂.ledger.events) :=
    ends_perform (failingWorld now) (hmoves _ _) (by simp only [exec])
  cases hlast : s₂.ledger.events.getLast? with
  | none =>
      have htrigger : Ends rule t s₁ (Gateway.failClosedTrigger reasonCode requestId now) s₂
          (.error (.runtimeError "evidence failed before any trusted trigger could be recorded")) := by
        refine Ends.handle_error hcommit (Ends.bind hevents ?_)
        rw [hlast]
        exact .refl _ _
      exact ⟨_, _, Ends.bind hclock (Ends.bind hlatch (Ends.bind_error htrigger))⟩
  | some trigger =>
      have htrigger : Ends rule t s₁ (Gateway.failClosedTrigger reasonCode requestId now) s₂
          (.ok trigger) := by
        refine Ends.handle_error hcommit (Ends.bind hevents ?_)
        rw [hlast]
        exact .refl _ _
      obtain ⟨s₃, outcome, hcontain⟩ := exists_contain (t := t) hmoves hidle₂ trigger now
      have hrest : ∃ outcome, Ends rule t s₂ (Supervisor.contain trigger now >>= fun _ => .ret ()) s₃
          outcome := by
        cases outcome with
        | ok ack => exact ⟨.ok (), Ends.bind hcontain ends_ret⟩
        | error error => exact ⟨.error error, Ends.bind_error hcontain⟩
      obtain ⟨outcome, hrest⟩ := hrest
      exact ⟨s₃, outcome, Ends.bind hclock (Ends.bind hlatch (Ends.bind htrigger hrest))⟩

/-- So does the error path of a dispatch that never got its lease. -/
theorem exists_failed {now : ℤ} (hmoves : ∀ s op, rule.moves s op (failingWorld now))
    (hidle : Idle s) (action : Action P) (id : OpaqueId) (error : PyError) :
    ∃ s' error', Ends rule t s (Executor.failed action id none error) s' (.error error') := by
  have hset : Ends rule t s (perform (.isSet id) : Prog P Bool) s
      (.ok (decide (s.inflight.lookup id.1 = some true))) :=
    ends_perform (failingWorld now) (hmoves _ _) (by simp only [exec])
  by_cases hcancelled : s.inflight.lookup id.1 = some true
  · refine ⟨s, .permissionError "dispatch cancelled by containment",
      Ends.bind ends_ret (Ends.bind hset ?_)⟩
    rw [if_pos (decide_eq_true hcancelled)]
    exact .refl _ _
  · obtain ⟨s', outcome, hclosed⟩ := exists_failClosed (t := t) hmoves hidle
      "executor.atomic_dispatch_failed" (some action.requestId.1)
    obtain ⟨error', hraised⟩ := ends_then_raise (β := TransportResult) error hclosed
    refine ⟨s', error', Ends.bind ends_ret (Ends.bind hset ?_)⟩
    rw [if_neg (by rw [decide_eq_true_eq]; exact hcancelled)]
    exact hraised

end Outage

end Containment
