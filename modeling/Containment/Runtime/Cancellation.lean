/-
# Cancelled dispatches

A containment latches the kill, sets the handle of every registered dispatch, isolates, and
only then marks the run as killed. A dispatch that held a lease when the kill latched was
registered before that and stays registered until it is over, so its handle is among those
that are set. The emergency isolation latches, isolates and marks without setting anything. A
dispatch that it finds under way is not told, although the run is reported as killed.

As long as the emergency isolation marks no run as killed in which such a dispatch was not
signalled, all of them are.
-/

import Containment.Reference.Dispatching
import Containment.Runtime.Completing
import Containment.Runtime.Isolation
import Containment.Runtime.Registration

namespace Containment

open Json Concurrency Discipline

variable {P : Platform}

/-! ## Leases at the latch -/

/-- What an observer of the cancellation writes down. -/
structure Cancellation where
  /-- The authorizations whose lease was active when the kill latched and whose dispatch is
  not over. -/
  held : Set String
  /-- All handles were set after the latch. -/
  signalled : Bool

def Cancellation.start : Cancellation := ⟨∅, false⟩

/-- A dispatch is over when it takes its handle back. -/
def heldAfter (op : Op P) (s s' : Runtime P) (held : Set String) : Set String :=
  if s.state.phase = .running ∧ s'.state.phase = .killing then
    {id | id ∈ s'.state.activeAuthorizations}
  else
    match op with
    | .unregister id => held \ {id.1}
    | _ => held

def signalledAfter (op : Op P) (s : Runtime P) (signalled : Bool) : Bool :=
  match op with
  | .signalAll => signalled || decide (s.state.phase ≠ .running)
  | _ => signalled

def cancellationAfter (op : Op P) (s s' : Runtime P) (cancellation : Cancellation) : Cancellation where
  held := heldAfter op s s' cancellation.held
  signalled := signalledAfter op s cancellation.signalled

/-- The runtime beside the cancellation. -/
@[reducible]
def cancellingService (d : Deployment P) : Service (Op P) Op.Res PyError :=
  (runtimeService d).ghost fun _ _ op s s' cancellation => cancellationAfter op s s' cancellation

/-- In a killed run every dispatch that held a lease at the latch and is not over has its
handle set. -/
def CancelledWhenKilled (s : Runtime P × Cancellation) : Prop :=
  s.1.state.phase = .killed → ∀ id ∈ s.2.held, s.1.inflight.lookup id = some true

/-- The calls that lead to a dispatch, and the two ways of containing a run. -/
def Call.Contained : Call P → Prop
  | .submitRaw _ | .dispatch .. | .contain .. | .emergencyIsolate => True
  | _ => False

/-- Concurrent calls of these kinds, in any order. -/
def containedDispatches (d : Deployment P) : RunRule (cancellingService d) where
  starts _ call := call.Contained
  moves _ _ _ := True

/-- Concurrent calls of any kind. After an emergency isolation was started, a latched run is
marked as killed only when the handles were set or no dispatch that held a lease at the latch
is under way. -/
def signalledEmergency (d : Deployment P) : RunRule (cancellingService d) where
  starts _ _ := True
  moves s op _ := op = .markKilled → s.1.emergencyFailure = true → s.1.state.phase = .killing →
    s.2.signalled = true ∨ s.2.held = ∅

namespace Cancelling

variable {d : Deployment P} {env : World} {t : ℕ} {s s' : Runtime P × Cancellation}

/-- What holds at all times. -/
structure Inv (s : Runtime P × Cancellation) : Prop where
  held : ∀ id ∈ s.2.held, id ∈ s.1.inflight
  latched : s.2.signalled = true → s.1.state.phase ≠ .running
  signalled : s.2.signalled = true → ∀ id ∈ s.2.held, s.1.inflight.lookup id = some true
  killed : s.1.state.phase = .killed → s.2.signalled = true ∨ s.2.held = ∅

/-- Only an emergency isolation marks a run whose handles were not set. -/
def Ready (s : Runtime P × Cancellation) : Op P → Prop
  | .markKilled => s.1.emergencyFailure = true ∨ s.2.signalled = true
  | _ => True

/-- What a waiting thread can count on. -/
structure Rely (s s' : Runtime P × Cancellation) : Prop where
  latched : s.1.state.phase ≠ .running → s'.1.state.phase ≠ .running
  signalled : s.2.signalled = true → s'.2.signalled = true
  emergency : s.1.emergencyFailure = true → s'.1.emergencyFailure = true

/-! ## One operation -/

/-- An emergency is never called off. -/
theorem emergency_exec {op : Op P} {r : op.Res} {s s' : Runtime P}
    (h : exec d env t s op = some (s', r)) (hemergency : s.emergencyFailure = true) :
    s'.emergencyFailure = true := by
  cases op
  case commit kind payload requestId ns =>
    simp only [exec, Option.some.injEq] at h
    rcases commit_cases d env s kind payload requestId ns with ⟨_, heq⟩ |
      ⟨_, _, _, _, -, -, heq⟩ <;>
    · rw [heq, Prod.mk.injEq] at h
      obtain ⟨rfl, -⟩ := h
      exact hemergency
  all_goals
    simp only [exec, onState_eq_some, Option.some.injEq, Prod.mk.injEq,
      Option.ite_none_right_eq_some] at h
  all_goals try split at h
  all_goals try split at h
  all_goals try simp only [Option.some.injEq, Prod.mk.injEq] at h
  all_goals first | obtain ⟨rfl, -⟩ := h | obtain ⟨-, rfl, -⟩ := h
  all_goals first | exact hemergency | rfl

/-- A run is killed by one operation, and only when it was latched. -/
theorem killing_of_killed {op : Op P} {r : op.Res} {s s' : Runtime P}
    (h : exec d env t s op = some (s', r)) (hkilled : s'.state.phase = .killed) :
    s.state.phase = .killed ∨ (op = .markKilled ∧ s.state.phase = .killing) := by
  rcases phaseMove_exec h with heq | ⟨-, heq⟩ | ⟨hkilling, -⟩ | ⟨-, heq⟩
  · exact .inl (heq.trans hkilled)
  · rw [hkilled] at heq
    cases heq
  · by_cases hmark : op = .markKilled
    · exact .inr ⟨hmark, hkilling⟩
    by_cases hcomplete : op = .markCompleted
    · subst hcomplete
      simp only [exec, onState_eq_some] at h
      obtain ⟨-, rfl, -⟩ := h
      simp [RunState.markCompleted, hkilling] at hkilled
    rcases Completing.phase_exec h hmark hcomplete with heq | ⟨hrunning, -⟩
    · rw [hkilled, hkilling] at heq
      cases heq
    · rw [hkilling] at hrunning
      cases hrunning
  · rw [hkilled] at heq
    cases heq

theorem heldAfter_of_same (op : Op P) {s s' : Runtime P} (held : Set String)
    (hstate : s'.state = s.state) (hop : ∀ id, op ≠ .unregister id) :
    heldAfter op s s' held = held := by
  unfold heldAfter
  rw [if_neg]
  · split
    · exact absurd rfl (hop _)
    · rfl
  · rw [hstate]
    rintro ⟨hrunning, hkilling⟩
    rw [hrunning] at hkilling
    cases hkilling

theorem heldAfter_unregister {s s' : Runtime P} {id : OpaqueId} {held : Set String}
    (hstate : s'.state = s.state) : heldAfter (.unregister id) s s' held = held \ {id.1} := by
  unfold heldAfter
  rw [if_neg]
  rw [hstate]
  rintro ⟨hrunning, hkilling⟩
  rw [hrunning] at hkilling
  cases hkilling

theorem signalledAfter_of_other {op : Op P} {s : Runtime P} {signalled : Bool}
    (hop : op ≠ .signalAll) : signalledAfter op s signalled = signalled := by
  unfold signalledAfter
  split
  · exact absurd rfl hop
  · rfl

theorem signalled_exec (op : Op P) (s : Runtime P) {signalled : Bool} (h : signalled = true) :
    signalledAfter op s signalled = true := by
  unfold signalledAfter
  split
  · rw [h, Bool.true_or]
  · exact h

/-- The registered dispatches that held a lease at the latch, after an operation beside the
registry. -/
theorem inv_of_inflight {op : Op P} {r : op.Res} {s₁ : Runtime P} (h : Inv s)
    (hready : Ready s op) (hmove : (signalledEmergency d).moves s op env)
    (hleases : LeasesRegistered s.1) (hdone : exec d env t s.1 op = some (s₁, r))
    (hinflight : s₁.inflight = s.1.inflight) (hunregister : ∀ id, op ≠ .unregister id)
    (hsignal : op ≠ .signalAll) : Inv (s₁, cancellationAfter op s.1 s₁ s.2) := by
  have hsame : (cancellationAfter op s.1 s₁ s.2).signalled = s.2.signalled :=
    signalledAfter_of_other hsignal
  by_cases hlatch : s.1.state.phase = .running ∧ s₁.state.phase = .killing
  · -- The kill latches here, so nothing was signalled before.
    have hheld : (cancellationAfter op s.1 s₁ s.2).held = {id | id ∈ s₁.state.activeAuthorizations} :=
      if_pos hlatch
    have hunsignalled : s.2.signalled ≠ true := fun htrue => h.latched htrue hlatch.1
    refine ⟨fun id hid => ?_, fun htrue => ?_, fun htrue => ?_, fun hkilled => ?_⟩
    · rw [hheld] at hid
      rw [show (s₁, _).1.inflight = s.1.inflight from hinflight]
      rcases Registration.active_exec hdone hid with hold | ⟨hrunning, -⟩
      · exact hleases id hold
      · rw [hlatch.2] at hrunning
        cases hrunning
    · exact absurd (hsame.symm.trans htrue) hunsignalled
    · exact absurd (hsame.symm.trans htrue) hunsignalled
    · rw [show (s₁, _).1.state.phase = .killing from hlatch.2] at hkilled
      cases hkilled
  · have hheld : (cancellationAfter op s.1 s₁ s.2).held = s.2.held := by
      refine (if_neg hlatch).trans ?_
      split
      · exact absurd rfl (hunregister _)
      · rfl
    refine ⟨fun id hid => ?_, fun htrue => ?_, fun htrue id hid => ?_, fun hkilled => ?_⟩
    · rw [hheld] at hid
      rw [show (s₁, _).1.inflight = s.1.inflight from hinflight]
      exact h.held id hid
    · exact notRunning_exec hdone (h.latched (hsame.symm.trans htrue))
    · rw [hheld] at hid
      rw [show (s₁, _).1.inflight = s.1.inflight from hinflight]
      exact h.signalled (hsame.symm.trans htrue) id hid
    · dsimp only
      rw [hsame, hheld]
      rcases killing_of_killed hdone hkilled with hbefore | ⟨rfl, hkilling⟩
      · exact h.killed hbefore
      · exact hready.elim (fun hemergency => hmove rfl hemergency hkilling) .inl

theorem inv_exec {op : Op P} {r : op.Res} (h : Inv s) (hready : Ready s op)
    (hmove : (signalledEmergency d).moves s op env) (hleases : LeasesRegistered s.1)
    (hexec : (cancellingService d).exec env t s op = some (s', r)) : Inv s' := by
  obtain ⟨hdone, hghost⟩ := ghost_exec.mp hexec
  obtain ⟨s₁, cancellation⟩ := s'
  dsimp only at hdone hghost
  subst hghost
  rcases Registration.inflight_exec hdone with ⟨id', rfl, hfresh, hinflight, hstate⟩ |
    ⟨id', rfl, hinflight, hstate⟩ | ⟨rfl, hinflight, hstate⟩ | ⟨hinflight, -, hunregister, hsignal⟩
  · have hheld : (cancellationAfter (.register id') s.1 s₁ s.2).held = s.2.held :=
      heldAfter_of_same (.register id') s.2.held hstate (by rintro _ ⟨⟩)
    refine ⟨fun id hid => ?_, fun htrue => ?_, fun htrue id hid => ?_, fun hkilled => ?_⟩
    · rw [hheld] at hid
      rw [show (s₁, _).1.inflight = _ from hinflight]
      exact (AList.mem_insert _).mpr (.inr (h.held id hid))
    · rw [show (s₁, _).1.state = _ from hstate]
      exact h.latched htrue
    · rw [hheld] at hid
      have hne : id ≠ id'.1 := by
        rintro rfl
        exact hfresh (h.held _ hid)
      rw [show (s₁, _).1.inflight = _ from hinflight, AList.lookup_insert_ne hne]
      exact h.signalled htrue id hid
    · rw [show (s₁, _).1.state = _ from hstate] at hkilled
      dsimp only
      rw [hheld]
      exact h.killed hkilled
  · have hheld : (cancellationAfter (.unregister id') s.1 s₁ s.2).held = s.2.held \ {id'.1} :=
      heldAfter_unregister hstate
    refine ⟨fun id hid => ?_, fun htrue => ?_, fun htrue id hid => ?_, fun hkilled => ?_⟩
    · rw [hheld] at hid
      rw [show (s₁, _).1.inflight = _ from hinflight]
      exact AList.mem_erase.mpr ⟨hid.2, h.held id hid.1⟩
    · rw [show (s₁, _).1.state = _ from hstate]
      exact h.latched htrue
    · rw [hheld] at hid
      rw [show (s₁, _).1.inflight = _ from hinflight, AList.lookup_erase_ne hid.2]
      exact h.signalled htrue id hid.1
    · rw [show (s₁, _).1.state = _ from hstate] at hkilled
      dsimp only
      rw [hheld]
      refine (h.killed hkilled).imp_right fun hnone => ?_
      rw [hnone, Set.empty_sdiff]
  · have hheld : (cancellationAfter .signalAll s.1 s₁ s.2).held = s.2.held :=
      heldAfter_of_same .signalAll s.2.held hstate (by rintro _ ⟨⟩)
    refine ⟨fun id hid => ?_, fun htrue => ?_, fun htrue id hid => ?_, fun hkilled => ?_⟩
    · rw [hheld] at hid
      rw [show (s₁, _).1.inflight = _ from hinflight]
      exact InflightRegistry.mem_signalAll.mpr (h.held id hid)
    · rw [show (s₁, _).1.state = _ from hstate]
      rcases Bool.or_eq_true_iff.mp htrue with hbefore | hlatched
      · exact h.latched hbefore
      · exact of_decide_eq_true hlatched
    · rw [hheld] at hid
      rw [show (s₁, _).1.inflight = _ from hinflight]
      exact InflightRegistry.lookup_signalAll (h.held id hid)
    · rw [show (s₁, _).1.state = _ from hstate] at hkilled
      dsimp only
      rw [hheld]
      exact (h.killed hkilled).imp_left (signalled_exec .signalAll s.1)
  · exact inv_of_inflight h hready hmove hleases hdone hinflight hunregister hsignal

theorem rely_exec {op : Op P} {r : op.Res}
    (hexec : (cancellingService d).exec env t s op = some (s', r)) : Rely s s' := by
  obtain ⟨hdone, hghost⟩ := ghost_exec.mp hexec
  refine ⟨notRunning_exec hdone, fun htrue => ?_, emergency_exec hdone⟩
  rw [hghost]
  exact signalled_exec _ _ htrue

variable (d) in
def discipline : Discipline ((signalledEmergency d).given fun s => LeasesRegistered s.1) where
  inv := Inv
  ready _ := Ready
  rely _ := Rely
  rely_refl _ _ := ⟨id, id, id⟩
  rely_trans h h' := ⟨fun hphase => h'.latched (h.latched hphase),
    fun htrue => h'.signalled (h.signalled htrue), fun htrue => h'.emergency (h.emergency htrue)⟩
  act_inv h hready hmove hexec := inv_exec h hready hmove.1 hmove.2 hexec
  act_rely _ _ _ hexec _ _ := rely_exec hexec

/-! ## The code -/

theorem plainReady : PlainReady (discipline d) := by
  intro op hop t s _
  cases op <;> first | exact trivial | exact absurd hop id

theorem gatewayReady : GatewayReady (discipline d) := fun _ _ _ _ _ _ _ _ => trivial

/-- Code under an assertion that allows it to mark the run as killed. -/
theorem cleanUnder_marking {α : Type} {K : Runtime P × Cancellation → Prop}
    (hK : ∀ {s s'}, Rely s s' → K s → K s')
    (hmark : ∀ {s}, K s → s.1.emergencyFailure = true ∨ s.2.signalled = true) (p : Prog P α) :
    (discipline d).CleanUnder K p := by
  intro t s h
  induction p generalizing s with
  | ret value => exact trivial
  | raise error => exact trivial
  | act op next ih =>
      refine safe_act fun s₁ hrely _ => ⟨?_, fun env s₂ result _ hexec _ => ?_⟩
      · cases op <;> first | exact hmark (hK hrely h) | exact trivial
      · exact ih result s₂ (hK (rely_exec hexec) (hK hrely h))

theorem clean_containFresh (trigger : Event P) (ns : ℤ) :
    (discipline d).Clean (Supervisor.containFresh trigger ns : Prog P _) := by
  intro t s
  have hlatch : (discipline d).Safe t (fun _ s => s.1.state.phase ≠ .running)
      (perform .latchKill : Prog P _) s :=
    safe_act fun s₁ _ _ => ⟨trivial, fun env s₂ _ _ hexec _ =>
      Latching.notRunning_latchKill (ghost_exec.mp hexec).1⟩
  refine safe_seq hlatch (fun latched s₁ hphase => ?_) fun _ _ _ => trivial
  have hsignal : (discipline d).Safe t (fun _ s => s.2.signalled = true)
      (perform .signalAll : Prog P ℕ) s₁ := by
    refine safe_act fun s₂ hrely _ => ⟨trivial, fun env s₃ _ _ hexec _ => ?_⟩
    change s₃.2.signalled = true
    rw [(ghost_exec.mp hexec).2]
    exact Bool.or_eq_true_iff.mpr (.inr (decide_eq_true (hrely.latched hphase)))
  refine safe_seq hsignal (fun signals s₂ hsignalled => ?_) fun _ _ _ => trivial
  exact cleanUnder_marking (fun hrely => hrely.signalled) .inr _ t s₂ hsignalled

theorem clean_contain (trigger : Event P) (ns : ℤ) :
    (discipline d).Clean (Supervisor.contain trigger ns : Prog P _) := by
  refine clean_bind (clean_perform fun _ _ _ => trivial) fun _ => ?_
  refine clean_finalize (clean_bind (clean_perform fun _ _ _ => trivial) fun found => ?_)
    (clean_perform fun _ _ _ => trivial)
  cases found with
  | some ack => exact clean_ret _
  | none => exact clean_containFresh trigger ns

theorem clean_emergencyIsolate :
    (discipline d).Clean (Supervisor.emergencyIsolate : Prog P Unit) := by
  refine clean_bind (clean_perform fun _ _ _ => trivial) fun _ => ?_
  refine clean_finalize (fun t s => ?_) (clean_perform fun _ _ _ => trivial)
  have hraise : (discipline d).Safe t (fun _ s => s.1.emergencyFailure = true)
      (perform .raiseEmergency : Prog P Unit) s := by
    refine safe_act fun s₁ _ _ => ⟨trivial, fun env s₂ _ _ hexec _ => ?_⟩
    have hdone := (ghost_exec.mp hexec).1
    simp only [exec, Option.some.injEq, Prod.mk.injEq] at hdone
    change s₂.1.emergencyFailure = true
    rw [← hdone.1]
  refine safe_seq hraise (fun _ s₁ hemergency => ?_) fun _ _ _ => trivial
  exact cleanUnder_marking (fun hrely => hrely.emergency) .inl _ t s₁ hemergency

theorem clean_beginAuthorized (action : Action P) (decision : Decision P) (id : OpaqueId)
    (nowNs bytes : ℤ) :
    (discipline d).Clean (Executor.beginAuthorized action decision id nowNs bytes) := by
  refine clean_bind (clean_raising (clean_perform fun _ _ _ => trivial)) fun lease => ?_
  refine clean_bind (clean_attempt (clean_bind (clean_ofExcept _) fun sha => ?_)) fun outcome => ?_
  · exact clean_raising (clean_perform fun _ _ _ => trivial)
  · cases outcome with
    | ok event => exact clean_bind (clean_perform fun _ _ _ => trivial) fun _ => clean_ret _
    | error error => exact clean_bind (clean_perform fun _ _ _ => trivial) fun _ => clean_raise _

theorem clean_finishAuthorized (action : Action P) (decision : Decision P) (id : OpaqueId)
    (lease : DispatchLease) (result : TransportResult) :
    (discipline d).Clean (Executor.finishAuthorized action decision id lease result) := by
  refine clean_bind (clean_raising (clean_perform fun _ _ _ => trivial)) fun reserved => ?_
  refine clean_bind (clean_attempt (clean_bind (clean_ofExcept _) fun sha => ?_)) fun outcome => ?_
  · exact clean_raising (clean_perform fun _ _ _ => trivial)
  · cases outcome with
    | ok event => exact clean_perform fun _ _ _ => trivial
    | error error => exact clean_bind (clean_perform fun _ _ _ => trivial) fun _ => clean_raise _

theorem covers : (discipline d).Covers fun _ _ _ => True := by
  refine covers_of_clean (fun call => ?_) (fun call outcome s h => ?_) fun call outcome s u => ?_
  · exact clean_body plainReady gatewayReady clean_contain clean_emergencyIsolate
      clean_beginAuthorized clean_finishAuthorized call
  · dsimp only [cancellingService]
    unfold retire
    split
    · exact ⟨h.held, h.latched, h.signalled, h.killed⟩
    · exact h
  · dsimp only [cancellingService]
    unfold retire
    split <;> exact ⟨id, id, id⟩

end Cancelling

/-- In every interleaving of any calls in which an emergency isolation marks no latched run as
killed while a dispatch that held a lease at the latch is under way and not signalled, all such
dispatches have their handles set once the run is killed. -/
theorem cancelledWhenKilled_of_reachable (P : Platform) (d : Deployment P)
    (witness : TransparencyWitness P) (c : Config (cancellingService d))
    (h : Reachable (signalledEmergency d) (Runtime.init d witness, .start) c) :
    CancelledWhenKilled c.shared := by
  have hleases (c' : Config (cancellingService d))
      (h' : Reachable (signalledEmergency d) (Runtime.init d witness, .start) c') :
      LeasesRegistered c'.shared.1 := by
    have herased : Reachable (Barrier.anyRun d) (Runtime.init d witness) c'.erase :=
      steps_erase (fun _ _ _ => trivial) (fun _ _ _ _ => trivial) h'
    exact leasesRegistered_of_reachable herased
  have hinit : Cancelling.Inv ((Runtime.init d witness, .start) : Runtime P × Cancellation) :=
    ⟨nofun, nofun, nofun, nofun⟩
  have hinv := invariant_of_reachable Cancelling.covers hinit
    (Reachable.given hleases h)
  intro hkilled id hid
  rcases hinv.killed hkilled with hsignalled | hnone
  · exact hinv.signalled hsignalled id hid
  · rw [hnone] at hid
    exact absurd hid (Set.notMem_empty id)

/-! ## A dispatch that is not told -/

section Untold

open Reference

/-- The lease is active in a running run, or it was when the kill latched. -/
def Leased (id : String) (s : Runtime P) (cancellation : Cancellation) : Prop :=
  (s.state.phase = .running ∧ id ∈ s.state.activeAuthorizations) ∨
    (s.state.phase ≠ .running ∧ id ∈ cancellation.held)

/-- Neither way of killing the run ends a lease. -/
theorem leased_of_killing {d : Deployment P} {env : World} {t : ℕ} {op : Op P} {r : op.Res}
    {s s' : Runtime P} {id : String} {cancellation : Cancellation} (hop : op.OfIsolation ∨ op.Opening)
    (hexec : exec d env t s op = some (s', r)) (h : Leased id s cancellation) :
    Leased id s' (cancellationAfter op s s' cancellation) := by
  rcases h with ⟨hrunning, hactive⟩ | ⟨hended, hheld⟩
  · cases op
    all_goals try exact hop.elim False.elim False.elim
    all_goals
      simp only [exec, onState_eq_some, Option.some.injEq, Prod.mk.injEq,
        Option.ite_none_right_eq_some] at hexec
    all_goals try split at hexec
    all_goals try split at hexec
    all_goals try simp only [Option.some.injEq, Prod.mk.injEq] at hexec
    all_goals first | obtain ⟨rfl, -⟩ := hexec | obtain ⟨-, rfl, -⟩ := hexec
    case latchKill =>
      have hlatched : s.state.latchKill.1 =
          { s.state with phase := .killing, killEpoch := s.state.killEpoch + 1 } := if_pos hrunning
      refine .inr ⟨?_, ?_⟩
      · dsimp only
        rw [hlatched]
        rintro ⟨⟩
      · have hheld : heldAfter .latchKill s { s with
              state := s.state.latchKill.1
              history := s.history.latched (s.containLock = some t) } cancellation.held =
            {id | id ∈ s.state.latchKill.1.activeAuthorizations} := if_pos ⟨hrunning, by rw [hlatched]⟩
        dsimp only [cancellationAfter]
        rw [hheld, hlatched]
        exact hactive
    case markKilled =>
      have hrefused : s.state.markKilled.1 = s.state := by
        unfold RunState.markKilled
        rw [if_pos (by rw [hrunning]; exact ⟨by decide, by decide⟩)]
      refine .inl ⟨?_, ?_⟩
      · dsimp only
        rw [hrefused]
        exact hrunning
      · dsimp only
        rw [hrefused]
        exact hactive
    all_goals exact .inl ⟨hrunning, hactive⟩
  · refine .inr ⟨notRunning_exec hexec hended, ?_⟩
    have hkept : heldAfter op s s' cancellation.held = cancellation.held := by
      refine (if_neg fun hlatch => hended hlatch.1).trans ?_
      split
      · exact hop.elim False.elim False.elim
      · rfl
    change id ∈ heldAfter op s s' cancellation.held
    rw [hkept]
    exact hheld

/-- An emergency isolation kills the run while the transport of a dispatch is on its way. -/
theorem untold_dispatch :
    ¬ ∀ (P : Platform) (d : Deployment P) (witness : TransparencyWitness P)
      (c : Config (cancellingService d)),
      Reachable (containedDispatches d) (Runtime.init d witness, .start) c →
      CancelledWhenKilled c.shared := by
  intro hclaim
  obtain ⟨manifest, hm⟩ := exists_signed
  let rule₀ : RunRule (runtimeService (deployment manifest)) :=
    ⟨fun _ call => call.Contained, fun _ _ _ => True⟩
  obtain ⟨s₁, decision, code, hreach, -, hinflight⟩ := exists_reachable_inflight rule₀ hm
    (fun _ _ => trivial) (fun _ _ _ _ => trivial) fun _ _ _ _ => trivial
  obtain ⟨window, count, policy, ledger, mirror, history, hs₁⟩ := hinflight.shape
  -- The other thread runs `emergency_isolate` to its end.
  have hends := @ends_emergencyIsolate _ (deployment manifest)
    ⟨fun _ _ => True, fun _ op _ => op.OfIsolation⟩ 1 s₁ (world 2000) _ (fun _ _ hop => hop)
    (by rw [hs₁]; exact ⟨rfl, rfl⟩) (by rw [hs₁]; rfl) (by rw [hs₁]; rfl) rfl
  obtain ⟨cancellation, hsteps⟩ : ∃ cancellation, Reachable (containedDispatches (deployment manifest))
      (Runtime.init (deployment manifest) Reference.witness, .start)
      (Config.beside _ cancellation) :=
    steps_ghost (fun _ _ _ hstart => hstart) (fun _ _ _ _ _ => trivial) hreach _
  have hleased : Leased "auth:00" s₁ cancellation := by
    rw [hs₁]
    exact .inl ⟨rfl, (AList.mem_insert _).mpr (.inl rfl)⟩
  obtain ⟨cancellation', hleased', hruns⟩ :
      ∃ cancellation', Leased "auth:00" _ cancellation' ∧
        Runs (containedDispatches (deployment manifest)) 1 (s₁, cancellation)
          (Supervisor.emergencyIsolate : Prog platform Unit) (_, cancellation') (.ret ()) :=
    Runs.ghost (Leased "auth:00") (fun _ _ _ _ _ _ => trivial)
      (fun _ _ _ _ _ _ hop hexec h => leased_of_killing (.inl hop) hexec h) hends hleased
  have hstart : (containedDispatches (deployment manifest)).starts (s₁, cancellation)
    .emergencyIsolate := trivial
  have hisolated := hsteps.trans (steps_call (t := 1) rfl hstart (Runs.bind hruns))
  have hkilled : s₁.state.latchKillLocked.markKilled.1.phase = .killed := by rw [hs₁]; rfl
  have hset : s₁.inflight.lookup "auth:00" = some true := by
    refine hclaim _ _ _ _ hisolated hkilled "auth:00" ?_
    rcases hleased' with ⟨hrunning, -⟩ | ⟨-, hheld⟩
    · rw [show _ = RunPhase.killed from hkilled] at hrunning
      cases hrunning
    · exact hheld
  rw [hs₁] at hset
  cases hset

/-- A containment raises no emergency. -/
theorem emergency_of_opening {d : Deployment P} {env : World} {t : ℕ} {op : Op P} {r : op.Res}
    {s s' : Runtime P} (hop : op.Opening) (hexec : exec d env t s op = some (s', r)) :
    s'.emergencyFailure = s.emergencyFailure := by
  cases op
  all_goals try exact hop.elim
  all_goals
    simp only [exec, onState_eq_some, Option.some.injEq, Prod.mk.injEq,
      Option.ite_none_right_eq_some] at hexec
  all_goals try split at hexec
  all_goals try split at hexec
  all_goals try simp only [Option.some.injEq, Prod.mk.injEq] at hexec
  all_goals first | obtain ⟨rfl, -⟩ := hexec | obtain ⟨-, rfl, -⟩ := hexec
  all_goals rfl

/-- A containment kills the run while the transport of a dispatch is on its way. -/
theorem cancelledWhenKilled_contained : ∃ (manifest : Manifest platform)
    (c : Config (cancellingService (deployment manifest))),
    Reachable (signalledEmergency (deployment manifest))
      (Runtime.init (deployment manifest) Reference.witness, .start) c ∧
    c.shared.1.state.phase = .killed ∧ "auth:00" ∈ c.shared.2.held ∧ CancelledWhenKilled c.shared := by
  obtain ⟨manifest, hm⟩ := exists_signed
  obtain ⟨s₁, decision, code, hreach, -, hinflight⟩ := exists_reachable_inflight
    (⟨fun _ _ => True, fun _ op _ => Peaceful op⟩ : RunRule (runtimeService (deployment manifest))) hm
    (fun _ _ => trivial) (fun _ _ _ _ => trivial) fun _ _ hop _ => hop
  obtain ⟨cancellation, hsteps⟩ := @steps_ghost _ _ _ _ _ _ _ (signalledEmergency (deployment manifest))
    (fun _ _ _ _ => trivial) (fun s op env cancellation hop => by
      rintro rfl
      rcases hop with hop | ⟨_, hop⟩ <;> exact hop.elim) _ _ hreach .start
  obtain ⟨request, decided, dispatched, -⟩ := hinflight.dispatched
  obtain ⟨window, count, policy, ledger, mirror, history, hs₁⟩ := hinflight.shape
  -- The other thread runs `contain` up to its acknowledgement.
  have hruns := @runs_opening _ (deployment manifest) ⟨fun _ _ => True, fun _ op _ => op.Opening⟩ 1 s₁
    (world 2000) _ _ _ (fun _ _ hop => hop) (by rw [hs₁]; exact ⟨rfl, rfl⟩)
    (by rw [hs₁]; rfl) (by rw [hs₁]; rfl) (by rw [hs₁]; rfl) rfl rfl rfl dispatched 2000
  have hleased : Leased "auth:00" s₁ cancellation ∧ s₁.emergencyFailure = false := by
    rw [hs₁]
    exact ⟨.inl ⟨rfl, (AList.mem_insert _).mpr (.inl rfl)⟩, rfl⟩
  obtain ⟨cancellation', ⟨hleased', -⟩, hcontain⟩ := @Runs.ghost _ _ _ _ _ _ _ _
    (signalledEmergency (deployment manifest)) _
    (fun s cancellation => Leased "auth:00" s cancellation ∧ s.emergencyFailure = false)
    (fun s op env ghost hkept _ _ hemergency => by
      rw [hkept.2] at hemergency
      cases hemergency)
    (fun _ _ _ _ _ _ hop hexec h => ⟨leased_of_killing (.inr hop) hexec h.1,
      (emergency_of_opening hop hexec).trans h.2⟩) _ _ _ _ hruns _ hleased
  have hstart : (signalledEmergency (deployment manifest)).starts (s₁, cancellation)
    (.contain dispatched 2000) := trivial
  have hkilling := hsteps.trans (steps_call (t := 1) rfl hstart (Runs.bind hcontain))
  have hkilled : s₁.state.latchKillLocked.markKilled.1.phase = .killed := by rw [hs₁]; rfl
  refine ⟨manifest, _, hkilling, hkilled, ?_, cancelledWhenKilled_of_reachable _ _ _ _ hkilling⟩
  rcases hleased' with ⟨hrunning, -⟩ | ⟨-, hheld⟩
  · rw [show _ = RunPhase.killed from hkilled] at hrunning
    cases hrunning
  · exact hheld

end Untold

end Containment
