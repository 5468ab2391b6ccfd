/-
# Nothing is dispatched after the acknowledgement

A DISPATCH and a RESULT are committed under the state lock, by a thread that has
just seen a live lease there. The acknowledgement is committed after the leases
were cleared under that lock. So whatever order the threads run in, and however
late a transport returns, no dispatch and no result enters the ledger behind an
acknowledgement.
-/

import Containment.Reference.Factory
import Containment.Runtime.Calls

namespace Containment

open Json Concurrency Discipline

variable {P : Platform} {d : Deployment P}

/-- No event of these kinds stands behind an acknowledgement. -/
def ClosedByAcknowledgement (events : List (Event P)) : Prop :=
  ∀ (i j : ℕ) ack event, i < j → events[i]? = some ack → events[j]? = some event →
    ack.body.kind = .killAcknowledged →
    event.body.kind ≠ .dispatch ∧ event.body.kind ≠ .result

namespace Barrier

/-- What holds of the shared state at all times. -/
structure Inv (s : Runtime P) : Prop where
  accounting : RunState.Accounting s.state
  acknowledged : ∀ event ∈ s.ledger.events, event.body.kind = .killAcknowledged →
    s.state.phase = .killed
  closed : ClosedByAcknowledgement s.ledger.events

/-- What the code has established before an operation. -/
def Ready (s : Runtime P) : Op P → Prop
  | .commit kind _ _ _ =>
      (kind = .dispatch ∨ kind = .result → s.state.phase ≠ .killed) ∧
        (kind = .killAcknowledged → s.state.phase = .killed)
  | op => LeaseHeld s op

/-- What a waiting thread can count on. -/
structure Rely (t : ℕ) (s s' : Runtime P) : Prop where
  locked : s.stateLock = some t → s'.stateLock = some t ∧ s'.state = s.state
  killed : s.state.phase = .killed → s'.state.phase = .killed

theorem leaseHeld_of_ready {s : Runtime P} {op : Op P} (h : Ready s op) : LeaseHeld s op := by
  cases op <;> first | exact h | exact trivial

theorem inv_commit (env : World) {s : Runtime P} {kind : EventKind} {payload : Json}
    {requestId : Option String} {ns : Option ℤ} (h : Inv s)
    (hready : Ready s (.commit kind payload requestId ns)) :
    Inv (s.commit d env kind payload requestId ns).1 := by
  rcases commit_cases d env s kind payload requestId ns with ⟨_, heq⟩ |
    ⟨event, mirrored, outcome, mirror, happend, -, heq⟩
  · rw [heq]
    exact h
  · rw [heq]
    obtain ⟨-, hkind, -, -⟩ := append_ok happend
    refine ⟨h.accounting, ?_, ?_⟩
    · intro e he hack
      rcases List.mem_append.mp he with he | he
      · exact h.acknowledged e he hack
      · rw [List.mem_singleton.mp he, hkind] at hack
        exact hready.2 hack
    · intro i j ack e hij hi hj hack
      have hold : s.ledger.events[i]? = some ack := by
        have hlt := (List.getElem?_eq_some_iff.mp hj).1
        have hlen : j < s.ledger.events.length + 1 := by
          rwa [← List.length_singleton, ← List.length_append]
        rwa [← List.getElem?_append_left (by omega)]
      by_cases hj' : j < s.ledger.events.length
      · have hat : (s.ledger.events ++ [event])[j]? = some e := hj
        rw [List.getElem?_append_left hj'] at hat
        exact h.closed i j ack e hij hold hat hack
      · -- The new event: the run is killed by now, so it is neither of the two.
        have hkilled := h.acknowledged ack (List.mem_of_getElem? hold) hack
        have hnew : e = event := by
          have hat : (s.ledger.events ++ [event])[j]? = some e := hj
          rw [List.getElem?_append_right (by omega)] at hat
          exact (List.mem_singleton.mp (List.mem_of_getElem? hat))
        rw [hnew, hkind]
        constructor
        · intro hdispatch
          exact hready.1 (.inl hdispatch) hkilled
        · intro hresult
          exact hready.1 (.inr hresult) hkilled

theorem inv_exec {env : World} {t : ℕ} {s s' : Runtime P} {op : Op P} {r : op.Res} (h : Inv s)
    (hready : Ready s op) (hexec : exec d env t s op = some (s', r)) : Inv s' := by
  by_cases hcommit : ∃ kind payload requestId ns, op = .commit kind payload requestId ns
  · obtain ⟨kind, payload, requestId, ns, rfl⟩ := hcommit
    rw [exec, Option.some.injEq] at hexec
    have hinv := inv_commit (d := d) env h hready
    rwa [hexec] at hinv
  · simp only [not_exists] at hcommit
    obtain ⟨hevents, -⟩ := events_exec hexec hcommit
    refine ⟨accounting_exec hexec (leaseHeld_of_ready hready) h.accounting, ?_, ?_⟩
    · rw [hevents]
      exact fun e he hack => killed_exec hexec (h.acknowledged e he hack)
    · rw [hevents]
      exact h.closed

variable (d) in
/-- Every schedule and every answer of the outside world is allowed. -/
def anyRun : RunRule (runtimeService d) := ⟨fun _ _ => True, fun _ _ _ => True⟩

variable (d) in
def discipline : Discipline (anyRun d) where
  inv := Inv
  ready _ := Ready
  rely := Rely
  rely_refl _ _ := ⟨fun h => ⟨h, rfl⟩, id⟩
  rely_trans h h' := ⟨fun hlock =>
    ⟨(h'.locked (h.locked hlock).1).1, (h'.locked (h.locked hlock).1).2.trans (h.locked hlock).2⟩,
    fun hkilled => h'.killed (h.killed hkilled)⟩
  act_inv h hready _ hexec := inv_exec h hready hexec
  act_rely _ _ _ hexec _ hu := ⟨lock_exec hexec hu, killed_exec hexec⟩

theorem plainReady : PlainReady (discipline d) := by
  intro op hplain t s _
  cases op <;> first | exact trivial | exact absurd hplain id

theorem gatewayReady : GatewayReady (discipline d) := by
  rintro kind payload requestId ns hkind t s _
  refine ⟨?_, ?_⟩
  · rintro (rfl | rfl) <;> simp at hkind
  · rintro rfl
    simp at hkind

/-! ## The sections -/

/-- The state lock is held by a thread that has seen a live lease under it. -/
structure Holding (t : ℕ) (id : String) (reserved : ℤ) (s : Runtime P) : Prop where
  locked : s.stateLock = some t
  active : s.state.activeAuthorizations.lookup id = some reserved

theorem Holding.rely {t : ℕ} {id : String} {reserved : ℤ} {s s' : Runtime P}
    (h : Holding t id reserved s) (hrely : Rely t s s') : Holding t id reserved s' := by
  obtain ⟨hlock, hstate⟩ := hrely.locked h.locked
  exact ⟨hlock, by rw [hstate, h.active]⟩

/-- A live lease means that the run is not killed. -/
theorem Holding.notKilled {t : ℕ} {id : String} {reserved : ℤ} {s : Runtime P}
    (h : Holding t id reserved s) (hinv : Inv s) : s.state.phase ≠ .killed := by
  intro hkilled
  have hactive := h.active
  rw [hinv.accounting.killed_empty hkilled, AList.lookup_empty] at hactive
  cases hactive

theorem Holding.commit {env : World} {t : ℕ} {id : String} {reserved : ℤ} {s s' : Runtime P}
    {kind : EventKind} {payload : Json} {requestId : Option String} {ns : Option ℤ}
    {r : Except PyError (Event P)} (h : Holding t id reserved s)
    (hexec : exec d env t s (.commit kind payload requestId ns) = some (s', r)) :
    Holding t id reserved s' := by
  rw [exec, Option.some.injEq] at hexec
  rcases commit_cases d env s kind payload requestId ns with ⟨_, heq⟩ |
    ⟨_, _, _, _, -, -, heq⟩ <;>
  · rw [heq, Prod.mk.injEq] at hexec
    obtain ⟨rfl, -⟩ := hexec
    exact ⟨h.locked, h.active⟩

/-- The commit of a DISPATCH or a RESULT inside its section. -/
theorem safe_sectionCommit {t : ℕ} {id : String} {reserved : ℤ} {s : Runtime P}
    (action : Action P) (kind : EventKind) (payload : String → Json)
    (hkind : kind ≠ .killAcknowledged) (h : Holding t id reserved s) :
    (discipline d).Safe t (fun _ s => Holding t id reserved s)
      (do
        let sha ← Program.ofExcept action.digest
        raising (perform (.commit kind (payload sha) (some action.requestId.1) none))) s := by
  cases action.digest with
  | error error => exact h
  | ok sha =>
      refine safe_act fun s₁ hrely hinv => ⟨?_, fun env s₂ r _ hexec _ => ?_⟩
      · exact ⟨fun _ => (h.rely hrely).notKilled hinv, fun hack => absurd hack hkind⟩
      · exact safe_ofExcept.mpr ((h.rely hrely).commit hexec)

theorem holding_of_reserve {env : World} {t : ℕ} {s s' : Runtime P} {body : DecisionBody}
    {nowNs bytes : ℤ} {lease : DispatchLease}
    (h : exec d env t s (.reserve body nowNs bytes) = some (s', .ok lease)) :
    Holding t lease.authorizationId lease.reservedEgressBytes s' := by
  have hgranted := granted_of_reserve h
  exact ⟨hgranted.locked, hgranted.active⟩

theorem holding_of_prepareFinish {env : World} {t : ℕ} {s s' : Runtime P} {lease : DispatchLease}
    {egressBytes reserved : ℤ}
    (h : exec d env t s (.prepareFinish lease egressBytes) = some (s', .ok reserved)) :
    Holding t lease.authorizationId reserved s' ∧ egressBytes ≤ reserved := by
  simp only [exec, Option.ite_none_right_eq_some] at h
  obtain ⟨-, h⟩ := h
  rcases RunState.prepareFinish_cases s.state lease egressBytes with ⟨_, heq⟩ | ⟨_, heq⟩ |
    ⟨reserved', hlookup, -, hle, heq⟩
  · rw [heq] at h
    cases h
  · rw [heq] at h
    cases h
  · rw [heq] at h
    simp only [Option.some.injEq, Prod.mk.injEq, Except.ok.injEq] at h
    obtain ⟨rfl, rfl⟩ := h
    exact ⟨⟨rfl, hlookup⟩, hle⟩

theorem clean_beginAuthorized (action : Action P) (decision : Decision P) (id : OpaqueId)
    (nowNs bytes : ℤ) :
    (discipline d).Clean (Executor.beginAuthorized action decision id nowNs bytes) := by
  intro t s
  have hreserve : (discipline d).Safe t
      (fun outcome s => ∀ lease, outcome = .ok lease →
        Holding t lease.authorizationId lease.reservedEgressBytes s)
      (raising (perform (.reserve decision.body nowNs bytes)) : Prog P DispatchLease) s := by
    refine safe_act fun s₁ _ _ => ⟨trivial, fun env s₂ r _ hexec _ => safe_ofExcept.mpr ?_⟩
    rintro lease rfl
    exact holding_of_reserve hexec
  refine safe_seq hreserve (fun lease s₁ hheld => ?_) fun _ _ _ => trivial
  have hcommit := safe_sectionCommit (d := d) action .dispatch
    (fun sha => Executor.dispatchPayload sha decision id) (by decide) (hheld lease rfl)
  refine safe_attempt_seq hcommit fun outcome s₂ hheld => ?_
  cases outcome with
  | ok event => exact safe_act fun s₃ _ _ => ⟨trivial, fun _ _ _ _ _ _ => trivial⟩
  | error error =>
      exact safe_act fun s₃ hrely _ => ⟨(hheld.rely hrely).active, fun _ _ _ _ _ _ => trivial⟩

theorem clean_finishAuthorized (action : Action P) (decision : Decision P) (id : OpaqueId)
    (lease : DispatchLease) (result : TransportResult) :
    (discipline d).Clean (Executor.finishAuthorized action decision id lease result) := by
  intro t s
  have hprepare : (discipline d).Safe t
      (fun outcome s => ∀ reserved, outcome = .ok reserved →
        Holding t lease.authorizationId reserved s ∧ result.responseBytes ≤ reserved)
      (raising (perform (.prepareFinish lease result.responseBytes)) : Prog P ℤ) s := by
    refine safe_act fun s₁ _ _ => ⟨trivial, fun env s₂ r _ hexec _ => safe_ofExcept.mpr ?_⟩
    rintro reserved rfl
    exact holding_of_prepareFinish hexec
  refine safe_seq hprepare (fun reserved s₁ hheld => ?_) fun _ _ _ => trivial
  obtain ⟨hheld, hle⟩ := hheld reserved rfl
  have hcommit := safe_sectionCommit (d := d) action .result
    (fun sha => Executor.resultPayload sha decision id result) (by decide) hheld
  refine safe_attempt_seq hcommit fun outcome s₂ hheld => ?_
  cases outcome with
  | ok event =>
      exact safe_act fun s₃ hrely _ =>
        ⟨⟨(hheld.rely hrely).active, hle⟩, fun _ _ _ _ _ _ => trivial⟩
  | error error => exact safe_act fun s₃ _ _ => ⟨trivial, fun _ _ _ _ _ _ => trivial⟩

/-! ## Containment -/

theorem killed_of_markKilled {env : World} {t : ℕ} {s s' : Runtime P}
    (h : exec d env t s .markKilled = some (s', .ok ())) : s'.state.phase = .killed := by
  simp only [exec, onState_eq_some] at h
  obtain ⟨-, rfl, h⟩ := h
  revert h
  unfold RunState.markKilled
  split_ifs with hphase
  · intro h
    cases h
  · intro _
    rfl

/-- Code that starts with the run killed. -/
theorem safe_commitAcknowledgement {t : ℕ} {s : Runtime P} (ack : KillAcknowledgement P) (ns : ℤ)
    (hkilled : s.state.phase = .killed) :
    (discipline d).Safe t (fun _ _ => True) (Supervisor.commitAcknowledgement ack ns) s := by
  refine safe_handle (safe_act fun s₁ hrely _ => ⟨?_, fun env s₂ r _ _ _ => ?_⟩)
  · have hkilled₁ : s₁.state.phase = .killed := Rely.killed hrely hkilled
    refine ⟨?_, fun _ => hkilled₁⟩
    rintro (hkind | hkind) <;> cases hkind
  · cases r with
    | ok event => exact trivial
    | error error => exact safe_act fun _ _ _ => ⟨trivial, fun _ _ _ _ _ _ => trivial⟩

theorem clean_containFresh (trigger : Event P) (ns : ℤ) :
    (discipline d).Clean (Supervisor.containFresh trigger ns : Prog P _) := by
  have hplain := plainReady (d := d)
  refine clean_bind (clean_perform (hplain _ trivial)) fun latched => ?_
  refine clean_bind (clean_perform fun _ _ _ => trivial) fun signals => ?_
  refine clean_bind (clean_wallNow hplain) fun requestedAt => ?_
  refine clean_bind (clean_monotonicNow hplain) fun requestedNs => ?_
  refine clean_bind (clean_raising (clean_perform fun _ _ _ => trivial)) fun isolation => ?_
  refine clean_bind (clean_monotonicNow hplain) fun acknowledgedNs => ?_
  refine clean_bind (clean_wallNow hplain) fun acknowledgedAt => ?_
  -- From here on the run is killed.
  intro t s
  have hmark : (discipline d).Safe t
      (fun outcome s => outcome = .ok () → s.state.phase = .killed)
      (raising (perform .markKilled) : Prog P Unit) s := by
    refine safe_act fun s₁ _ _ => ⟨trivial, fun env s₂ r _ hexec _ => safe_ofExcept.mpr ?_⟩
    rintro rfl
    exact killed_of_markKilled hexec
  refine safe_seq hmark (fun _ s₁ hkilled => ?_) fun _ _ _ => trivial
  have hack (request : KillRequest P) : (discipline d).Safe t
      (fun _ s => s.state.phase = .killed)
      (raising (perform (.acknowledge request)) : Prog P _) s₁ :=
    safe_act fun s₂ hrely _ => ⟨trivial, fun env s₃ r _ hexec _ =>
      safe_ofExcept.mpr (killed_exec hexec (Rely.killed hrely (hkilled rfl)))⟩
  refine safe_seq (hack _) (fun ack s₂ hkilled => ?_) fun _ _ _ => trivial
  exact safe_commitAcknowledgement ack acknowledgedNs hkilled

theorem clean_contain (trigger : Event P) (ns : ℤ) :
    (discipline d).Clean (Supervisor.contain trigger ns : Prog P _) := by
  refine clean_bind (clean_perform fun _ _ _ => trivial) fun _ => ?_
  refine clean_finalize (clean_bind (clean_perform (plainReady _ trivial)) fun found => ?_)
    (clean_perform fun _ _ _ => trivial)
  cases found with
  | some ack => exact clean_ret _
  | none => exact clean_containFresh trigger ns

theorem clean_emergencyIsolate :
    (discipline d).Clean (Supervisor.emergencyIsolate : Prog P Unit) := by
  refine clean_bind (clean_perform fun _ _ _ => trivial) fun _ => ?_
  refine clean_finalize (clean_bind (clean_perform fun _ _ _ => trivial) fun _ => ?_)
    (clean_perform fun _ _ _ => trivial)
  refine clean_bind (clean_perform (plainReady _ trivial)) fun _ => ?_
  refine clean_bind (clean_raising (clean_perform fun _ _ _ => trivial)) fun _ => ?_
  exact clean_raising (clean_perform fun _ _ _ => trivial)

theorem covers : (discipline d).Covers fun _ _ _ => True := by
  refine covers_of_clean (clean_body plainReady gatewayReady clean_contain clean_emergencyIsolate
    clean_beginAuthorized clean_finishAuthorized) ?_ ?_
  · intro call outcome s h
    dsimp only [runtimeService]
    unfold retire
    split
    · exact ⟨h.accounting, h.acknowledged, h.closed⟩
    · exact h
  · intro call outcome s u
    dsimp only [runtimeService]
    unfold retire
    split
    · exact ⟨fun h => ⟨h, rfl⟩, fun h => h⟩
    · exact (discipline d).rely_refl u s

theorem inv_init (witness : TransparencyWitness P) : Inv (Runtime.init d witness) where
  accounting := RunState.accounting_init _
  acknowledged _ h := nomatch h
  closed _ _ _ _ _ h := nomatch h

end Barrier

/-- In every run of any number of concurrent calls, with any answers of the outside
world, the run state's accounting holds. -/
theorem accounting_of_reachable {witness : TransparencyWitness P}
    {c : Config (runtimeService d)}
    (h : Reachable (Barrier.anyRun d) (Runtime.init d witness) c) :
    RunState.Accounting c.shared.state :=
  (invariant_of_reachable Barrier.covers (Barrier.inv_init witness) h).accounting

end Containment
