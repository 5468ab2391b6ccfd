/-
# Requests after the end of a run

Admission counts and drops every request that comes after the kill. The runtime limit is
tested before admission and without a look at the phase, so a late request of a run that
is over takes another way: it latches, commits a violation and contains.
-/

import Containment.Reference.Factory
import Containment.Runtime.Outage

namespace Containment

open Json Concurrency

variable {P : Platform}

/-- The clock reads `ns` whenever it is asked. -/
def clockAt (d : Deployment P) (ns : ℤ) : RunRule (runtimeService d) where
  starts _ _ := True
  moves _ op env := op = .monotonicClock → env.monotonicClock = .ok ns

/-- Nothing has changed but the two counters of a dropped request. -/
def OnlyCounted (s s' : Runtime P) : Prop :=
  s' = { s with state := { s.state with
    observed := s.state.observed + 1
    droppedAfterKill := s.state.droppedAfterKill + 1 } }

theorem ensures_monotonicNow {d : Deployment P} {t : ℕ} {ns : ℤ} (s : Runtime P) :
    Ensures (clockAt d ns) t (fun outcome s' => outcome = .ok ns ∧ s' = s)
      (monotonicNow : Prog P ℤ) s := by
  intro env s₁ reading hmove hexec
  simp only [exec, Option.some.injEq, Prod.mk.injEq] at hexec
  obtain ⟨rfl, rfl⟩ := hexec
  rw [hmove rfl]
  exact ⟨rfl, rfl⟩

/-- Admission after the end of a run. -/
theorem admitRaw_of_ended {s : RunState} (h : s.phase ≠ .running) (rawBytes ns : ℤ) :
    s.admitRaw rawBytes ns = ({ s with
      observed := s.observed + 1
      droppedAfterKill := s.droppedAfterKill + 1 }, .droppedAfterKill) := by
  rw [RunState.admitRaw]
  exact if_pos h

/-- A late request can end without having been counted. -/
theorem exists_late_submitRaw {d : Deployment P} {t : ℕ} {s : Runtime P} (raw : Bytes) {ns : ℤ}
    (hlate : ns - d.startedMonotonicNs > Supervisor.runtimeLimitNs d) (hidle : Idle s) :
    ∃ s' outcome, Ends (clockAt d ns) t s (Gateway.submitRaw d raw) s' outcome ∧
      s'.state.observed = s.state.observed := by
  have hmoves : ∀ s op, (clockAt d ns).moves s op (failingWorld ns) := fun _ _ _ => rfl
  have hclock : Ends (clockAt d ns) t s (monotonicNow : Prog P ℤ) s (.ok ns) :=
    ends_raising (ends_perform (failingWorld ns) (hmoves _ _) (by simp only [exec, failingWorld]))
  have hlatch := ends_latchKill (t := t) (failingWorld ns) (hmoves s _)
    hidle.state
  obtain ⟨s', error, hcommit, hobserved, -⟩ := exists_failed_commit (t := t)
    (s := { s with
      state := s.state.latchKill.1
      history := s.history.latched (s.containLock = some t) }) hmoves
    ⟨hidle.state, hidle.contain⟩ .violation
    (Supervisor.reasonPayload "runtime.budget_exhausted") none (some ns)
  have hends : Ends (clockAt d ns) t s (Gateway.submitRaw d raw) s' (.error error) := by
    refine Ends.bind hclock ?_
    rw [if_pos hlate]
    exact Ends.bind hlatch (Ends.bind_error hcommit)
  exact ⟨s', _, hends, hobserved.trans (observed_latchKill s.state)⟩

/-- A request after the end of a run is only counted, exactly when the clock has not
passed the runtime limit. -/
theorem submitRaw_onlyCounted_iff (P : Platform) (d : Deployment P) (t : ℕ) (s : Runtime P)
    (raw : Bytes) (ns : ℤ) (hphase : s.state.phase ≠ .running) (hidle : Idle s) :
    (∀ s' outcome, Ends (clockAt d ns) t s (Gateway.submitRaw d raw) s' outcome →
      OnlyCounted s s') ↔ ns - d.startedMonotonicNs ≤ Supervisor.runtimeLimitNs d := by
  constructor
  · intro hclaim
    by_contra hlate
    rw [not_le] at hlate
    obtain ⟨s', outcome, hends, hobserved⟩ := exists_late_submitRaw raw hlate hidle
    have hcounted := congrArg (fun s => s.state.observed) (hclaim s' outcome hends)
    dsimp only at hcounted
    omega
  · intro hle s' outcome hends
    have hensures : Ensures (clockAt d ns) t (fun _ s' => OnlyCounted s s')
        (Gateway.submitRaw d raw) s := by
      refine ensures_seq (ensures_monotonicNow s) (fun admittedNs s₁ hread => ?_)
        fun error s₁ hread => by cases hread.1
      obtain ⟨hns, rfl⟩ := hread
      obtain rfl := Except.ok.inj hns
      rw [if_neg (not_lt.mpr hle)]
      refine ensures_seq (Q := fun outcome s' => outcome = .ok .droppedAfterKill ∧
        OnlyCounted s₁ s') (fun env s₂ admission _ hexec => ?_) (fun admission s₂ hadmitted => ?_)
        fun error s₂ hadmitted => by cases hadmitted.1
      · simp only [exec, onState_eq_some, admitRaw_of_ended hphase] at hexec
        obtain ⟨-, rfl, rfl⟩ := hexec
        exact ⟨rfl, rfl⟩
      · obtain ⟨hdropped, hcounted⟩ := hadmitted
        obtain rfl := Except.ok.inj hdropped
        exact hcounted
    exact hensures.sound hends

/-- A run of the reference deployment that was killed. -/
def killedRuntime (manifest : Manifest Reference.platform) : Runtime Reference.platform :=
  { Runtime.init (Reference.deployment manifest) Reference.witness with
    state := (RunState.init manifest.body.killCriteria).latchKill.1.markKilled.1 }

theorem phase_killedRuntime (manifest : Manifest Reference.platform) :
    (killedRuntime manifest).state.phase ≠ .running := by
  have hphase : (killedRuntime manifest).state.phase = .killed := rfl
  rw [hphase]
  decide

theorem submitRaw_onlyCounted_killed :
    ∃ manifest : Manifest Reference.platform, ∀ s' outcome,
      Ends (clockAt (Reference.deployment manifest) 2000) 0 (killedRuntime manifest)
        (Gateway.submitRaw (Reference.deployment manifest) []) s' outcome →
      OnlyCounted (killedRuntime manifest) s' := by
  obtain ⟨manifest, hm⟩ := Reference.exists_signed
  refine ⟨manifest, (submitRaw_onlyCounted_iff _ _ _ _ _ _ (phase_killedRuntime manifest)
    ⟨rfl, rfl⟩).mpr ?_⟩
  change 2000 - 1000 ≤ manifest.body.killCriteria.maxRuntimeMs.1 * 1000000
  rw [hm.body]
  decide

/-- A request of a killed run, long after the runtime limit. -/
theorem submitRaw_not_onlyCounted :
    ¬ ∀ (P : Platform) (d : Deployment P) (t : ℕ) (s : Runtime P) (raw : Bytes) (ns : ℤ),
      s.state.phase ≠ .running → Idle s → ∀ s' outcome,
        Ends (clockAt d ns) t s (Gateway.submitRaw d raw) s' outcome → OnlyCounted s s' := by
  intro hclaim
  obtain ⟨manifest, hm⟩ := Reference.exists_signed
  have hlate : (10 ^ 15 : ℤ) - (Reference.deployment manifest).startedMonotonicNs >
      Supervisor.runtimeLimitNs (Reference.deployment manifest) := by
    change manifest.body.killCriteria.maxRuntimeMs.1 * 1000000 < 10 ^ 15 - 1000
    rw [hm.body]
    decide
  have hidle : Idle (killedRuntime manifest) := ⟨rfl, rfl⟩
  obtain ⟨s', outcome, hends, hobserved⟩ := exists_late_submitRaw (t := 0) [] hlate hidle
  have hcounted := congrArg (fun s => s.state.observed)
    (hclaim _ _ 0 _ [] _ (phase_killedRuntime manifest) hidle s' outcome hends)
  dsimp only at hcounted
  omega

end Containment
