/-
# Violations and completion

A run completes by a change of phase, and a latched run no longer can. So a violation that
is recorded behind its latch excludes a completed receipt, provided the latch found the run
running. Two things can go wrong. A request that cannot be parsed is recorded before its
latch, and the run may complete in between. And a latch does nothing in a run that has just
completed, so the violation behind it still enters a ledger that is not sealed yet.

As long as neither happens, a completed receipt covers no violation, whatever the schedule
and the outside world.
-/

import Containment.Runtime.LatchFirst
import Containment.Runtime.Latching
import Containment.Runtime.ReceiptStatus

namespace Containment

open Json Concurrency Discipline

variable {P : Platform}

/-- The events that a receipt covers. -/
def Receipt.covered (receipt : Receipt P) (events : List (Event P)) : List (Event P) :=
  events.take receipt.body.eventCount.1.toNat

/-- A receipt of a completed run covers no violation. -/
def CompletedClean (s : Runtime P) : Prop :=
  ∀ receipt, s.receipt = some receipt → receipt.body.status = .completed →
    ∀ event ∈ Receipt.covered receipt s.ledger.events, ¬ HardViolation event

/-- The calls that can record a violation without a dispatch, and the completion. -/
def Call.Completing : Call P → Prop
  | .submitRaw _ | .failClosed .. | .enforceRuntimeDeadline _ | .complete => True
  | _ => False

/-- Concurrent calls of these kinds, in any order. -/
def completingCalls (d : Deployment P) : RunRule (runtimeService d) where
  starts _ call := call.Completing
  moves _ _ _ := True

/-- Concurrent calls of any kind. The run is not completed while a thread is exposed, and
between the completion and the seal nobody latches and no request that cannot be parsed is
recorded. -/
def unexposedCompletion (d : Deployment P) : RunRule (exposedService d) where
  starts _ _ := True
  moves s op _ := (op = .markCompleted → s.2 = ∅) ∧
    (op = .latchKill ∨ op.Exposes → s.1.state.phase = .completed → s.1.ledger.isSealed = true)

namespace Completing

variable {d : Deployment P} {env : World} {t : ℕ} {s s' : Runtime P × Set ℕ}

/-- What holds at all times. -/
def Inv (s : Runtime P × Set ℕ) : Prop :=
  ∀ event ∈ s.1.ledger.events, HardViolation event → s.1.state.phase = .killing ∨
    s.1.state.phase = .killed ∨ (s.1.state.phase = .running ∧ s.2.Nonempty)

/-- The run cannot complete any more, or the ledger is closed. -/
def Latched (s : Runtime P × Set ℕ) : Prop :=
  s.1.state.phase = .killing ∨ s.1.state.phase = .killed ∨ s.1.ledger.isSealed = true

/-- A violation is committed behind the latch, unless it exposes. -/
def Ready (s : Runtime P × Set ℕ) : Op P → Prop
  | .commit kind payload requestId ns =>
      ∀ event : Event P, event.body.kind = kind →
        canonicalJson P payload = .ok event.body.payloadCanonicalJson.1 → HardViolation event →
        Latched s ∨ (.commit kind payload requestId ns : Op P).Exposes
  | _ => True

/-! ## Phases -/

/-- Apart from the two ends of a run, the only move of the phase is the latch. -/
theorem phase_exec {op : Op P} {r : op.Res} {s s' : Runtime P}
    (h : exec d env t s op = some (s', r)) (hkilled : op ≠ .markKilled)
    (hcompleted : op ≠ .markCompleted) : s'.state.phase = s.state.phase ∨
      s.state.phase = .running ∧ s'.state.phase = .killing := by
  have hlatch (state : RunState) : state.latchKillLocked.phase = state.phase ∨
      state.phase = .running ∧ state.latchKillLocked.phase = .killing := by
    rw [RunState.phase_latchKillLocked]
    split_ifs with hrunning
    · exact .inr ⟨hrunning, rfl⟩
    · exact .inl rfl
  cases op
  case markKilled => exact absurd rfl hkilled
  case markCompleted => exact absurd rfl hcompleted
  case commit kind payload requestId ns =>
    simp only [exec, Option.some.injEq] at h
    rcases commit_cases d env s kind payload requestId ns with ⟨_, heq⟩ |
      ⟨_, _, _, _, -, -, heq⟩ <;>
    · rw [heq, Prod.mk.injEq] at h
      obtain ⟨rfl, -⟩ := h
      exact .inl rfl
  case reserve body nowNs bytes =>
    simp only [exec, Option.ite_none_right_eq_some] at h
    obtain ⟨-, h⟩ := h
    rcases RunState.reserve_cases s.state body nowNs bytes with ⟨_, heq⟩ | ⟨_, heq⟩ |
      ⟨_, _, -, -, -, -, -, -, -, -, -, heq⟩ <;>
    · rw [heq] at h
      simp only [Option.some.injEq, Prod.mk.injEq] at h
      obtain ⟨rfl, -⟩ := h
      first | exact .inl rfl | exact hlatch _
  case prepareFinish lease egressBytes =>
    simp only [exec, Option.ite_none_right_eq_some] at h
    obtain ⟨-, h⟩ := h
    rcases RunState.prepareFinish_cases s.state lease egressBytes with ⟨_, heq⟩ | ⟨_, heq⟩ |
      ⟨_, -, -, -, heq⟩ <;>
    · rw [heq] at h
      simp only [Option.some.injEq, Prod.mk.injEq] at h
      obtain ⟨rfl, -⟩ := h
      first | exact .inl rfl | exact hlatch _
  all_goals
    simp only [exec, onState_eq_some, Option.some.injEq, Prod.mk.injEq,
      Option.ite_none_right_eq_some] at h
  all_goals try split at h
  all_goals try split at h
  all_goals try simp only [Option.some.injEq, Prod.mk.injEq] at h
  all_goals first | obtain ⟨rfl, -⟩ := h | obtain ⟨-, rfl, -⟩ := h
  case admitRaw bytes ns =>
    unfold RunState.admitRaw
    dsimp only
    obtain ⟨window, count, hopen⟩ :=
      RunState.openWindow_eq { s.state with observed := s.state.observed + 1 } ns
    rw [hopen]
    split_ifs
    · exact .inl rfl
    · exact hlatch _
    · exact .inl rfl
  case latchKill => exact hlatch _
  case recordDecision => exact .inl (RunState.phase_recordDecision _ _)
  case rollback =>
    rw [RunState.phase_rollback]
    exact hlatch _
  case failFinish => exact hlatch _
  case abort => exact .inl (RunState.phase_abortAuthorized _ _)
  all_goals exact .inl rfl

theorem latched_exec {op : Op P} {r : op.Res} {s₁ : Runtime P} {exposed : Set ℕ} (h : Latched s)
    (hexec : exec d env t s.1 op = some (s₁, r)) : Latched (s₁, exposed) := by
  rcases h with hkilling | hkilled | hsealed
  · rcases phaseMove_exec hexec with heq | ⟨heq, -⟩ | ⟨-, heq⟩ | ⟨heq, -⟩
    · exact .inl (heq.symm.trans hkilling)
    · rw [hkilling] at heq
      cases heq
    · exact .inr (.inl heq)
    · rw [hkilling] at heq
      cases heq
  · exact .inr (.inl (killed_exec hexec hkilled))
  · refine .inr (.inr ?_)
    rw [(ReceiptStatus.sealed_exec hexec hsealed).1]
    exact hsealed

theorem inv_commit (env : World) (t : ℕ) {kind : EventKind} {payload : Json}
    {requestId : Option String} {ns : Option ℤ} (h : Inv s)
    (hready : Ready s (.commit kind payload requestId ns))
    (hmove : (.commit kind payload requestId ns : Op P).Exposes → s.1.state.phase = .completed →
      s.1.ledger.isSealed = true) :
    Inv ((s.1.commit d env kind payload requestId ns).1,
      exposedAfter (.commit kind payload requestId ns) t s.1
        (s.1.commit d env kind payload requestId ns).1 s.2) := by
  have hexposed {s' : Runtime P} (hopen : s.2.Nonempty) :
      (exposedAfter (.commit kind payload requestId ns) t s.1 s' s.2).Nonempty :=
    Latching.nonempty_exposedAfter (by simp) hopen
  rcases commit_cases d env s.1 kind payload requestId ns with ⟨_, heq⟩ |
    ⟨event, mirrored, outcome, mirror, happend, -, heq⟩
  · rw [heq]
    exact fun e he hhard => (h e he hhard).imp id fun h => h.imp id fun h => ⟨h.1, hexposed h.2⟩
  · rw [heq]
    obtain ⟨hpayload, hkind, -, -⟩ := append_ok happend
    have hunsealed := ReceiptCounts.unsealed_of_append happend
    intro e he hhard
    rcases List.mem_append.mp he with he | he
    · exact (h e he hhard).imp id fun h => h.imp id fun h => ⟨h.1, hexposed h.2⟩
    · obtain rfl := List.mem_singleton.mp he
      rcases hready e hkind hpayload hhard with (hkilling | hkilled | hsealed) | hexposes
      · exact .inl hkilling
      · exact .inr (.inl hkilled)
      · rw [hsealed] at hunsealed
        cases hunsealed
      · -- The run is not completed, for the ledger is open.
        cases hphase : s.1.state.phase with
        | killing => exact .inl hphase
        | killed => exact .inr (.inl hphase)
        | completed =>
            rw [hmove hexposes hphase] at hunsealed
            cases hunsealed
        | running =>
            refine .inr (.inr ⟨hphase, t, .inr ⟨rfl, hexposes, ?_⟩⟩)
            exact fun heq => List.cons_ne_nil _ _ (List.append_right_eq_self.mp heq)

theorem inv_exec {op : Op P} {r : op.Res} (h : Inv s) (hready : Ready s op)
    (hmove : (unexposedCompletion d).moves s op env)
    (hexec : (exposedService d).exec env t s op = some (s', r)) : Inv s' := by
  obtain ⟨hdone, hexposed⟩ := ghost_exec.mp hexec
  obtain ⟨s₁, exposed⟩ := s'
  dsimp only at hdone hexposed
  subst hexposed
  by_cases hcommit : ∃ kind payload requestId ns, op = .commit kind payload requestId ns
  · obtain ⟨kind, payload, requestId, ns, rfl⟩ := hcommit
    rw [exec, Option.some.injEq] at hdone
    have hinv := inv_commit (d := d) env t h hready fun hexposes => hmove.2 (.inr hexposes)
    rwa [hdone] at hinv
  simp only [not_exists] at hcommit
  obtain ⟨hevents, -⟩ := events_exec hdone hcommit
  intro e he hhard
  rw [show (s₁, _).1.ledger.events = s.1.ledger.events from hevents] at he
  rcases h e he hhard with hkilling | hkilled | ⟨hrunning, hopen⟩
  · rcases phaseMove_exec hdone with heq | ⟨heq, -⟩ | ⟨-, heq⟩ | ⟨heq, -⟩
    · exact .inl (heq.symm.trans hkilling)
    · rw [hkilling] at heq
      cases heq
    · exact .inr (.inl heq)
    · rw [hkilling] at heq
      cases heq
  · exact .inr (.inl (killed_exec hdone hkilled))
  · -- The run leaves its running phase by a latch: the completion would have needed that
    -- nobody is exposed.
    by_cases hcompleted : op = .markCompleted
    · exact absurd (hmove.1 hcompleted) hopen.ne_empty
    by_cases hkill : op = .markKilled
    · subst hkill
      simp only [exec, onState_eq_some] at hdone
      obtain ⟨-, rfl, -⟩ := hdone
      refine .inr (.inr ⟨?_, Latching.nonempty_exposedAfter (by simp) hopen⟩)
      simp [RunState.markKilled, hrunning]
    rcases phase_exec hdone hkill hcompleted with hsame | ⟨-, hkilling⟩
    · by_cases hlatch : op = .latchKill
      · subst hlatch
        exact absurd (hsame.trans hrunning) (Latching.notRunning_latchKill hdone)
      · exact .inr (.inr ⟨hsame.trans hrunning, Latching.nonempty_exposedAfter hlatch hopen⟩)
    · exact .inl hkilling

variable (d) in
def discipline : Discipline (unexposedCompletion d) where
  inv := Inv
  ready _ := Ready
  rely _ s s' := Latched s → Latched s'
  rely_refl _ _ := id
  rely_trans h h' := fun hlatched => h' (h hlatched)
  act_inv h hready hmove hexec := inv_exec h hready hmove hexec
  act_rely _ _ _ hexec _ _ := fun hlatched => latched_exec hlatched (ghost_exec.mp hexec).1

/-! ## The code -/

theorem ready_of_harmless {op : Op P} (h : op.Harmless) : Ready s op := by
  cases op with
  | commit kind payload requestId ns =>
      intro event hkind _ hhard
      have hcases := hhard.kind_cases
      rw [hkind] at hcases
      rcases hcases with heq | heq | heq
      · exact absurd heq h.1
      · exact absurd heq h.2.1
      · exact absurd heq h.2.2
  | _ => exact trivial

theorem clean_of_harmless {α : Type} {p : Prog P α} (hp : p.All Op.Harmless) :
    (discipline d).Clean p :=
  fun _ _ => safe_of_all (K := fun _ => True) (fun _ _ => trivial)
    (fun hop _ _ => ready_of_harmless hop) (fun _ _ _ _ _ => trivial) hp trivial

/-- `latch_kill` in a run that has not completed, or whose ledger is closed. -/
theorem safe_latchKill (t : ℕ) (s : Runtime P × Set ℕ) :
    (discipline d).Safe t (fun _ s => Latched s) (perform .latchKill : Prog P _) s := by
  refine safe_act fun s₁ _ _ => ⟨trivial, fun env s₂ _ hmove hexec _ => ?_⟩
  obtain ⟨hdone, -⟩ := ghost_exec.mp hexec
  have hphase := hmove.2 (.inl rfl)
  have hmoved := phase_exec hdone (by simp) (by simp)
  have hlatched := Latching.notRunning_latchKill hdone
  cases hbefore : s₁.1.state.phase with
  | running =>
      rcases hmoved with hsame | ⟨-, hkilling⟩
      · exact absurd (hsame.trans hbefore) hlatched
      · exact .inl hkilling
  | killing => exact latched_exec (.inl hbefore) hdone
  | killed => exact latched_exec (.inr (.inl hbefore)) hdone
  | completed => exact latched_exec (.inr (.inr (hphase hbefore))) hdone

theorem latchesFirst : LatchesFirst (discipline d) Latched where
  plain op hplain t s _ := ready_of_harmless (harmless_of_plain hplain)
  contain trigger ns := clean_of_harmless
    (all_contain (fun _ => harmless_of_aside) trigger ns fun _ _ _ => by exact ⟨nofun, nofun, nofun⟩)
  isolate := clean_of_harmless (all_emergencyIsolate fun _ => harmless_of_aside)
  stable := ⟨fun hrely h => hrely h, fun _ hexec h => latched_exec h (ghost_exec.mp hexec).1⟩
  latch := safe_latchKill
  overload bytes ns t s := by
    refine safe_act fun s₁ _ _ => ⟨trivial, fun env s₂ admission _ hexec _ => ?_⟩
    rintro ⟨⟩
    exact .inl (killing_of_firstOverload (ghost_exec.mp hexec).1)
  report _ _ h _ _ _ _ := .inl h
  request payload requestId ns _ s _ := by
    have hharmless : (.commit .request payload requestId ns : Op P).Harmless := ⟨nofun, nofun, nofun⟩
    exact ready_of_harmless (s := s) hharmless
  malformed raw ns _ _ _ _ _ _ _ := .inr ⟨raw, ns, rfl⟩
  decision hshaped hdecision _ h _ hkind htext hhard :=
    .inl (h (kill_of_hardDecision hshaped hdecision hkind htext hhard))

theorem clean_beginAuthorized (action : Action P) (decision : Decision P) (id : OpaqueId)
    (nowNs bytes : ℤ) :
    (discipline d).Clean (Executor.beginAuthorized action decision id nowNs bytes) :=
  clean_of_harmless (all_beginAuthorized (fun _ => harmless_of_quiet) nowNs bytes fun _ => by
    exact ⟨nofun, nofun, nofun⟩)

theorem clean_finishAuthorized (action : Action P) (decision : Decision P) (id : OpaqueId)
    (lease : DispatchLease) (result : TransportResult) :
    (discipline d).Clean (Executor.finishAuthorized action decision id lease result) :=
  clean_of_harmless (all_finishAuthorized (fun _ => harmless_of_quiet) lease fun _ => by
    exact ⟨nofun, nofun, nofun⟩)

theorem covers : (discipline d).Covers fun _ _ _ => True := by
  have hplain := latchesFirst (d := d).plain
  refine covers_of_clean (fun call => ?_) (fun call outcome s h => ?_) fun call outcome s u => ?_
  · exact latchesFirst.clean_body clean_beginAuthorized clean_finishAuthorized
      (clean_complete hplain) (clean_receipt hplain) call
  · dsimp only [exposedService]
    unfold retire
    split <;> exact h
  · dsimp only [exposedService]
    unfold retire
    split <;> exact id

end Completing

/-- In every interleaving of any calls in which the run is not completed while a thread is
exposed, and nobody latches between the completion and the seal, a completed receipt covers
no violation. -/
theorem completedClean_of_reachable (P : Platform) (d : Deployment P)
    (witness : TransparencyWitness P) (c : Config (exposedService d))
    (h : Reachable (unexposedCompletion d) (Runtime.init d witness, ∅) c) :
    CompletedClean c.shared.1 := by
  intro receipt hreceipt hstatus event hevent hhard
  have herased : Reachable (Barrier.anyRun d) (Runtime.init d witness) c.erase :=
    steps_erase (fun _ _ _ => trivial) (fun _ _ _ _ => trivial) h
  have hcompleted : c.shared.1.state.phase = .completed :=
    (stored_of_reachable herased hreceipt).completed hstatus
  have hinit : Completing.Inv ((Runtime.init d witness, ∅) : Runtime P × Set ℕ) :=
    fun _ hmem => (nomatch hmem)
  have hinv := invariant_of_reachable Completing.covers hinit h
  rcases hinv event (List.mem_of_mem_take hevent) hhard with hphase | hphase | ⟨hphase, -⟩ <;>
  · rw [hcompleted] at hphase
    cases hphase

/-! ## A violation that loses against the completion -/

section Exposed

open Reference

/-- A run with one admitted request and nothing else is completable. -/
theorem completable_of_exposed {s s' : Runtime platform} (h : Completable s)
    (hcounts : s.state = RunState.init s.state.criteria) {window : Option ℤ} {count : ℤ}
    {ledger : EvidenceLedger platform} {mirror : EvidenceMirror} {history : History platform}
    (hs' : s' = { s with
      state := { s.state with
        observed := s.state.observed + 1
        windowStartedNs := window
        windowCount := count
        admitted := s.state.admitted + 1 }
      ledger := ledger
      mirror := mirror
      history := history }) : Completable s' := by
  rw [hs', hcounts]
  exact ⟨rfl, h.stateLock, h.receiptLock, h.receipt, h.acknowledgement, h.emergency, h.witness,
    ⟨(by decide : (0 : ℤ) + 1 ≤ maxSafeInteger), le_rfl, (by decide : (0 : ℤ) + 0 ≤ 0 + 1), le_rfl,
      le_rfl, ⟨le_rfl, le_rfl⟩, le_rfl, le_rfl, (by decide : (0 : ℤ) + 0 ≤ 0 + 1), le_rfl,
      (by decide : (0 : ℤ) ≤ maxSafeInteger)⟩⟩

/-- A request that cannot be parsed is recorded, and before its thread latches another one
completes the run. -/
theorem completed_with_violation :
    ¬ ∀ (P : Platform) (d : Deployment P) (witness : TransparencyWitness P)
      (c : Config (runtimeService d)), Reachable (completingCalls d) (Runtime.init d witness) c →
      CompletedClean c.shared := by
  intro hclaim
  obtain ⟨manifest, hm⟩ := exists_signed
  obtain ⟨s₁, violation, code, hexposed, hevents, hviolation, -, hhealthy, -, -, window, count,
    ledger, mirror, history, hothers⟩ := exists_exposed (completingCalls (deployment manifest)) 0 hm
      (fun _ _ _ _ => trivial) (fun _ _ _ _ => trivial) (by decide) (roomy_init hm)
      (healthy_init manifest 2000)
      (show 0 < 900 by decide)
  -- The other thread runs `complete` to its end.
  obtain ⟨s₂, w, receipt, hends, hreceipt, hkept, hcount, -, -, hstatus⟩ := exists_completed
    (⟨fun _ _ => True, fun _ _ _ => True⟩ : RunRule (watchedService (deployment manifest))) 1 .start
    (completable_of_exposed (completable_init manifest) rfl hothers) (fun _ _ _ _ _ => trivial) hhealthy
  have hcompleted : Runs (completingCalls (deployment manifest)) 1 s₁
      (Supervisor.complete (deployment manifest)) s₂ (.ret receipt) :=
    Runs.erase (fun _ _ _ _ => trivial) hends
  have hsubmit : (completingCalls (deployment manifest)).starts
      (Runtime.init (deployment manifest) Reference.witness) (.submitRaw []) := trivial
  have hcomplete : (completingCalls (deployment manifest)).starts s₁ .complete := trivial
  have hfirst := steps_call (S := runtimeService (deployment manifest)) (t := 0)
    (c := Config.initial (Runtime.init (deployment manifest) Reference.witness)) rfl hsubmit
    (Runs.bind hexposed)
  have hsecond := hfirst.trans (steps_call (t := 1) rfl hcomplete (Runs.bind hcompleted))
  have hclean := hclaim _ _ _ _ hsecond receipt hreceipt hstatus violation
  refine hclean ?_ (.inl hviolation)
  change violation ∈ s₂.ledger.events.take receipt.body.eventCount.1.toNat
  rw [hcount, hkept, Int.toNat_natCast, List.take_length, hevents]
  exact List.mem_append_right _ (List.mem_singleton_self _)

/-- No request that cannot be parsed is recorded, and a completed run is latched behind its seal. -/
def sealedLatch (d : Deployment P) : RunRule (runtimeService d) where
  starts _ _ := True
  moves s op _ := ¬ op.Exposes ∧
    (op = .latchKill → s.state.phase = .completed → s.ledger.isSealed = true)

/-- Nobody is exposed in such a run. -/
theorem unexposed_of_sealedLatch {d : Deployment P} {s s' : Runtime P} {op : Op P} {env : World}
    (t : ℕ) (h : (sealedLatch d).moves s op env) : exposedAfter op t s s' ∅ = ∅ := by
  refine Set.eq_empty_iff_forall_notMem.mpr fun u hu => ?_
  rcases hu with ⟨hu, -⟩ | ⟨-, hexposes, -⟩
  · exact hu
  · exact h.1 hexposes

/-- A report behind the seal: it latches nothing, and its event is refused. -/
theorem exists_late (t : ℕ) {manifest : Manifest platform} {s : Runtime platform}
    (hphase : s.state.phase = .completed) (hsealed : s.ledger.isSealed = true)
    (hlock : s.stateLock = none) (reasonCode : String) (requestId : Option String) :
    ∃ history code, Runs (sealedLatch (deployment manifest)) t s
      (Gateway.failClosed reasonCode requestId) { s with history := history } code := by
  set s₁ : Runtime platform := { s with history := s.history.latched (s.containLock = some t) } with hs₁
  have hclock : Ends (sealedLatch (deployment manifest)) t s (monotonicNow : Prog platform ℤ) s
      (.ok 2000) := by
    refine Ends.bind (ends_perform (world 2000) ⟨?_, by rintro ⟨⟩⟩ ?_) (.refl _ _)
    · rintro ⟨_, _, ⟨⟩⟩
    · simp only [exec, world]
  have hlatch : Ends (sealedLatch (deployment manifest)) t s (perform .latchKill : Prog platform _) s₁
      (.ok s.state.latchKill.2) := by
    refine ends_perform (world 2000) ⟨?_, fun _ _ => hsealed⟩ ?_
    · rintro ⟨_, _, ⟨⟩⟩
    · simp [exec, hlock, hs₁, RunState.latchKill, RunState.latchKillLocked, hphase]
  have hcommit : Ends (sealedLatch (deployment manifest)) t s₁
      (raising (perform (.commit .violation (Supervisor.reasonPayload reasonCode) requestId
        (some 2000))) : Prog platform (Event platform)) s₁
      (.error (.runtimeError "evidence ledger is sealed")) := by
    have hrefused : exec (deployment manifest) (world 2000) t s₁ (.commit .violation
        (Supervisor.reasonPayload reasonCode) requestId (some 2000)) =
          some (s₁, .error (.runtimeError "evidence ledger is sealed")) := by
      simp [exec, Runtime.commit, EvidenceLedger.append, hs₁, hsealed, ensure]
    refine Ends.bind (ends_perform (world 2000) ⟨?_, by rintro ⟨⟩⟩ hrefused) (.refl _ _)
    rintro ⟨raw, ns, hop⟩
    simp [Supervisor.reasonPayload, Gateway.malformedPayload] at hop
  exact ⟨_, _, Ends.bind hclock (Ends.bind hlatch
    (Runs.bind (Runs.bind (Runs.attempt (Runs.bind (Runs.attempt hcommit))))))⟩

/-- A run of one answered request that completes, and a report behind the seal. -/
theorem completedClean_completed : ∃ (manifest : Manifest platform)
    (c : Config (exposedService (deployment manifest))) (receipt : Receipt platform),
    Reachable (unexposedCompletion (deployment manifest))
      (Runtime.init (deployment manifest) Reference.witness, ∅) c ∧
    c.shared.1.receipt = some receipt ∧ receipt.body.status = .completed ∧
    receipt.body.eventCount.1 = 4 ∧ (∃ running, c.running 1 = some running) ∧
    CompletedClean c.shared.1 := by
  obtain ⟨manifest, hm⟩ := exists_signed
  obtain ⟨s₁, s₂, receipt, hfinished, hreach, hreceipt, -, hcount, hlock, hstatus⟩ :=
    exists_reachable_completed (sealedLatch (deployment manifest)) hm (fun _ _ => trivial)
      (fun s op hop _ => by
        refine ⟨?_, ?_⟩
        · rintro ⟨raw, ns, rfl⟩
          rcases hop with ⟨hkind, -⟩ | ⟨decision, hkind, -⟩ <;> rcases hkind with hkind | hkind <;>
            cases hkind
        · rintro rfl
          rcases hop with hop | ⟨_, hop⟩ <;> exact hop.elim)
      (fun s op hop _ => by
        refine ⟨?_, ?_⟩
        · rintro ⟨raw, ns, rfl⟩
          exact hop.elim
        · rintro rfl
          exact hop.elim)
  have hany : Reachable (Barrier.anyRun (deployment manifest)) _ _ :=
    Reachable.mono (fun _ _ _ => trivial) (fun _ _ _ _ => trivial) hreach
  have hstored : Stored receipt s₂ := stored_of_reachable hany hreceipt
  obtain ⟨history, code, hlate⟩ := exists_late 1
    (hstored.completed hstatus) hstored.isSealed hlock "executor.failed" none
  have hstart : (sealedLatch (deployment manifest)).starts s₂ (.failClosed "executor.failed" none) :=
    trivial
  have hsteps := hreach.trans (steps_call (t := 1) (by simp [Config.set, Config.initial]) hstart
    (Runs.bind hlate))
  have hmoves (s : Runtime platform) (op : Op platform) (env : World) (exposed : Set ℕ)
      (hnone : exposed = ∅) (hmove : (sealedLatch (deployment manifest)).moves s op env) :
      (unexposedCompletion (deployment manifest)).moves (s, exposed) op env := by
    refine ⟨fun _ => hnone, ?_⟩
    rintro (hlatch | hexposes) hcompleted
    · exact hmove.2 hlatch hcompleted
    · exact absurd hexposes hmove.1
  obtain ⟨exposed, -, hghost⟩ := @steps_ghost_of _ _ _ _ _ _ _
    (unexposedCompletion (deployment manifest)) (· = ∅) (fun _ _ _ _ _ => trivial) hmoves (fun _ t op s s' exposed hmove hnone => by
      rw [hnone]
      exact unexposed_of_sealedLatch t hmove) _ _ hsteps _ rfl
  obtain ⟨request, decided, dispatched, returned, hevents, -⟩ := hfinished.answered
  refine ⟨manifest, _, receipt, hghost, hreceipt, hstatus, ?_, ⟨_, rfl⟩,
    completedClean_of_reachable _ _ _ _ hghost⟩
  rw [hcount, hevents]
  rfl

end Exposed

end Containment
