/-
# Violations latch the run

Six pieces of code record a violation. Five of them latch the kill first and commit their
event afterwards: a dispatch is committed under the state lock, by a thread that has seen
the run running there, so no dispatch can follow. A request that cannot be parsed is
recorded the other way round. Between its event and its latch another thread may still
dispatch. As long as none does, the ledger has no dispatch behind a violation, whatever the
schedule and the outside world.
-/

import Containment.Auditor.Acceptance
import Containment.Concurrency.Ghost
import Containment.Reference.Dispatching
import Containment.Runtime.Calls
import Containment.Runtime.Payloads
import Containment.Runtime.SideCode

namespace Containment

open Json Concurrency Discipline

variable {P : Platform}

/-! ## Threads that have recorded a violation and not latched -/

/-- The commit of a request that cannot be parsed. -/
def Op.Exposes (op : Op P) : Prop :=
  ∃ raw ns, op = .commit .violation (Gateway.malformedPayload P raw) none (some ns)

/-- A thread is exposed from the moment such an event is in the ledger until it latches. -/
def exposedAfter (op : Op P) (t : ℕ) (s s' : Runtime P) (exposed : Set ℕ) : Set ℕ :=
  {u | (u ∈ exposed ∧ ¬ (u = t ∧ op = .latchKill)) ∨
    (u = t ∧ op.Exposes ∧ s'.ledger.events ≠ s.ledger.events)}

/-- The runtime beside the threads that are exposed. -/
@[reducible]
def exposedService (d : Deployment P) : Service (Op P) Op.Res PyError :=
  (runtimeService d).ghost fun _ t op s s' exposed => exposedAfter op t s s' exposed

/-- Concurrent calls of any kind. No dispatch is committed while a thread is exposed. -/
def coveredDispatch (d : Deployment P) : RunRule (exposedService d) where
  starts _ _ := True
  moves s op _ := ∀ payload requestId ns, op = .commit .dispatch payload requestId ns → s.2 = ∅

/-- The calls that can record a violation or dispatch. -/
def Call.Guarded : Call P → Prop
  | .submitRaw _ | .dispatch .. | .failClosed .. | .enforceRuntimeDeadline _ => True
  | _ => False

/-- Concurrent calls of these kinds, in any order. -/
def guardedCalls (d : Deployment P) : RunRule (runtimeService d) where
  starts _ call := call.Guarded
  moves _ _ _ := True

namespace Latching

variable {d : Deployment P} {env : World} {t : ℕ} {s s' : Runtime P × Set ℕ}

/-- What holds at all times. -/
structure Inv (s : Runtime P × Set ℕ) : Prop where
  barrier : BarrierRespected s.1.ledger.events
  closed : ∀ event ∈ s.1.ledger.events, HardViolation event →
    s.1.state.phase ≠ .running ∨ s.2.Nonempty

/-- A dispatch is committed in a running run only. A violation is not, unless it exposes. -/
def Ready (s : Runtime P × Set ℕ) : Op P → Prop
  | .commit kind payload requestId ns =>
      (kind = .dispatch → s.1.state.phase = .running) ∧
        ∀ event : Event P, event.body.kind = kind →
          canonicalJson P payload = .ok event.body.payloadCanonicalJson.1 → HardViolation event →
          s.1.state.phase ≠ .running ∨ (.commit kind payload requestId ns : Op P).Exposes
  | _ => True

/-- What a waiting thread can count on. -/
structure Rely (t : ℕ) (s s' : Runtime P × Set ℕ) : Prop where
  locked : s.1.stateLock = some t → s'.1.stateLock = some t ∧ s'.1.state = s.1.state
  latched : s.1.state.phase ≠ .running → s'.1.state.phase ≠ .running

theorem nonempty_exposedAfter {op : Op P} {s s' : Runtime P} {exposed : Set ℕ}
    (hop : op ≠ .latchKill) (h : exposed.Nonempty) :
    (exposedAfter op t s s' exposed).Nonempty :=
  h.mono fun _ hu => .inl ⟨hu, fun hlatch => hop hlatch.2⟩

/-- Latching ends the run. -/
theorem notRunning_latchKill {s s' : Runtime P} {r : (Op.latchKill : Op P).Res}
    (h : exec d env t s .latchKill = some (s', r)) : s'.state.phase ≠ .running := by
  simp only [exec, Option.ite_none_right_eq_some, Option.some.injEq, Prod.mk.injEq] at h
  obtain ⟨-, rfl, -⟩ := h
  change s.state.latchKillLocked.phase ≠ .running
  rw [RunState.phase_latchKillLocked]
  split_ifs with hphase
  · decide
  · exact hphase

theorem barrier_snoc {events : List (Event P)} {event : Event P} (h : BarrierRespected events)
    (hlast : event.body.kind = .dispatch → ∀ e ∈ events, ¬ HardViolation e) :
    BarrierRespected (events ++ [event]) := by
  intro i k violation dispatch hik hi hhard hk hkind
  have hlen : k < events.length + 1 := by
    have hlt := (List.getElem?_eq_some_iff.mp hk).1
    rwa [List.length_append, List.length_singleton] at hlt
  rw [List.getElem?_append_left (by omega)] at hi
  by_cases hold : k < events.length
  · rw [List.getElem?_append_left hold] at hk
    exact h i k violation dispatch hik hi hhard hk hkind
  · rw [List.getElem?_append_right (by omega)] at hk
    obtain rfl := List.mem_singleton.mp (List.mem_of_getElem? hk)
    exact hlast hkind violation (List.mem_of_getElem? hi) hhard

theorem inv_commit (env : World) (t : ℕ) {kind : EventKind} {payload : Json} {requestId : Option String} {ns : Option ℤ}
    (h : Inv s) (hready : Ready s (.commit kind payload requestId ns))
    (hmove : kind = .dispatch → s.2 = ∅) :
    Inv ((s.1.commit d env kind payload requestId ns).1,
      exposedAfter (.commit kind payload requestId ns) t s.1
        (s.1.commit d env kind payload requestId ns).1 s.2) := by
  have hexposed {s' : Runtime P} (hopen : s.2.Nonempty) :
      (exposedAfter (.commit kind payload requestId ns) t s.1 s' s.2).Nonempty :=
    nonempty_exposedAfter (by simp) hopen
  rcases commit_cases d env s.1 kind payload requestId ns with ⟨_, heq⟩ |
    ⟨event, mirrored, outcome, mirror, happend, -, heq⟩
  · rw [heq]
    exact ⟨h.barrier, fun e he hhard => (h.closed e he hhard).imp id hexposed⟩
  · rw [heq]
    obtain ⟨hpayload, hkind, -, -⟩ := append_ok happend
    refine ⟨barrier_snoc h.barrier fun hdispatch e he hhard => ?_, fun e he hhard => ?_⟩
    · rw [hkind] at hdispatch
      rcases h.closed e he hhard with hphase | hopen
      · exact hphase (hready.1 hdispatch)
      · exact hopen.ne_empty (hmove hdispatch)
    · rcases List.mem_append.mp he with he | he
      · exact (h.closed e he hhard).imp id hexposed
      · obtain rfl := List.mem_singleton.mp he
        refine (hready.2 e hkind hpayload hhard).imp id fun hexposes => ⟨t, .inr ⟨rfl, hexposes, ?_⟩⟩
        exact fun heq => List.cons_ne_nil _ _ (List.append_right_eq_self.mp heq)

theorem inv_exec {op : Op P} {r : op.Res} (h : Inv s) (hready : Ready s op)
    (hmove : (coveredDispatch d).moves s op env)
    (hexec : (exposedService d).exec env t s op = some (s', r)) : Inv s' := by
  obtain ⟨hdone, hexposed⟩ := ghost_exec.mp hexec
  obtain ⟨s₁, exposed⟩ := s'
  dsimp only at hdone hexposed
  subst hexposed
  by_cases hcommit : ∃ kind payload requestId ns, op = .commit kind payload requestId ns
  · obtain ⟨kind, payload, requestId, ns, rfl⟩ := hcommit
    rw [exec, Option.some.injEq] at hdone
    have hinv := inv_commit (d := d) env t h hready fun hkind =>
      hmove _ _ _ (by rw [hkind])
    rwa [hdone] at hinv
  · simp only [not_exists] at hcommit
    obtain ⟨hevents, -⟩ := events_exec hdone hcommit
    refine ⟨by rw [hevents]; exact h.barrier, ?_⟩
    rw [hevents]
    intro e he hhard
    by_cases hlatch : op = .latchKill
    · subst hlatch
      exact .inl (notRunning_latchKill hdone)
    · exact (h.closed e he hhard).imp (notRunning_exec hdone) (nonempty_exposedAfter hlatch)

variable (d) in
def discipline : Discipline (coveredDispatch d) where
  inv := Inv
  ready _ := Ready
  rely := Rely
  rely_refl _ _ := ⟨fun h => ⟨h, rfl⟩, id⟩
  rely_trans h h' := ⟨fun hlock =>
    ⟨(h'.locked (h.locked hlock).1).1, (h'.locked (h.locked hlock).1).2.trans (h.locked hlock).2⟩,
    fun hphase => h'.latched (h.latched hphase)⟩
  act_inv h hready hmove hexec := inv_exec h hready hmove hexec
  act_rely _ _ _ hexec _ hu :=
    ⟨lock_exec (ghost_exec.mp hexec).1 hu, notRunning_exec (ghost_exec.mp hexec).1⟩

/-! ## Code that latches first -/

/-- The kill has been latched. -/
def Latched (s : Runtime P × Set ℕ) : Prop := s.1.state.phase ≠ .running

theorem stable_latched : (discipline d).Stable Latched where
  rely hrely h := hrely.latched h
  act _ hexec h := notRunning_exec (ghost_exec.mp hexec).1 h

/-- Commits that are neither a dispatch nor a violation are always ready. -/
def Op.Mild : Op P → Prop
  | .commit kind _ _ _ => kind ≠ .dispatch ∧ kind ≠ .violation ∧ kind ≠ .overloadSummary ∧
      kind ≠ .decision
  | _ => True

theorem ready_of_mild {op : Op P} (h : Op.Mild op) : Ready s op := by
  cases op with
  | commit kind payload requestId ns =>
      refine ⟨fun hkind => absurd hkind h.1, fun event hkind _ hhard => ?_⟩
      rw [← hkind] at h
      rcases hhard with hviolation | hoverload | ⟨decision, hdecision, -⟩
      · exact absurd hviolation h.2.1
      · exact absurd hoverload h.2.2.1
      · exact absurd hdecision.1 h.2.2.2
  | _ => exact trivial

theorem mild_of_quiet {op : Op P} (h : op.Quiet) : Op.Mild op := by
  cases op <;> first | exact trivial | exact absurd h id

theorem clean_of_mild {α : Type} {p : Prog P α} (hp : p.All Op.Mild) :
    (discipline d).Clean p := by
  induction p with
  | ret value => exact clean_ret value
  | raise error => exact clean_raise error
  | act op next ih =>
      exact clean_act (fun _ _ _ => ready_of_mild hp.1) fun result => ih result (hp.2 result)

theorem clean_contain (trigger : Event P) (ns : ℤ) :
    (discipline d).Clean (Supervisor.contain trigger ns) :=
  clean_of_mild (all_contain (fun _ h => mild_of_quiet h.quiet) trigger ns fun _ _ _ => by
    exact ⟨by decide, by decide, by decide, by decide⟩)

theorem clean_emergencyIsolate : (discipline d).Clean (Supervisor.emergencyIsolate : Prog P Unit) :=
  clean_of_mild (all_emergencyIsolate fun _ h => mild_of_quiet h.quiet)

theorem plainReady : PlainReady (discipline d) := by
  intro op hplain t s _
  refine ready_of_mild (mild_of_quiet ?_)
  cases op <;> first | exact trivial | exact absurd hplain id

/-- The gateway's commit under an assertion that makes it ready. -/
theorem cleanUnder_commit {I : Runtime P × Set ℕ → Prop} (hI : (discipline d).Stable I)
    {kind : EventKind} {payload : Json} {requestId : Option String} {ns : Option ℤ}
    (hready : ∀ s, I s → Ready s (.commit kind payload requestId ns)) :
    (discipline d).CleanUnder I (Gateway.commit kind payload requestId ns) := by
  refine cleanUnder_handle hI (cleanUnder_bind hI ?_ fun outcome => ?_)
    fun error => Clean.under (clean_bind clean_emergencyIsolate fun _ => clean_raise _)
  · exact cleanUnder_perform hI fun _ s _ h => hready s h
  · exact Clean.under (clean_ofExcept outcome)

/-- Once the kill is latched, everything but a dispatch is. -/
theorem ready_of_latched {kind : EventKind} {payload : Json} {requestId : Option String}
    {ns : Option ℤ} (hkind : kind ≠ .dispatch) (h : Latched s) :
    Ready s (.commit kind payload requestId ns) :=
  ⟨fun heq => absurd heq hkind, fun _ _ _ _ => .inl h⟩

theorem clean_commit {kind : EventKind} {payload : Json} {requestId : Option String}
    {ns : Option ℤ} (hready : ∀ s : Runtime P × Set ℕ, Ready s (.commit kind payload requestId ns)) :
    (discipline d).Clean (Gateway.commit kind payload requestId ns) :=
  clean_handle (clean_raising (clean_perform fun _ s _ => hready s)) fun _ =>
    clean_bind clean_emergencyIsolate fun _ => clean_raise _

/-- `latch_kill` and what comes after it. -/
theorem clean_latch {α : Type} {next : (Op.latchKill : Op P).Res → Prog P α}
    (hnext : ∀ latched, (discipline d).CleanUnder Latched (next latched)) :
    (discipline d).Clean (perform .latchKill >>= next) := by
  refine clean_establish (I := Latched) (fun t s => ?_) hnext
  refine safe_act fun s₁ _ _ => ⟨trivial, fun env s₂ result _ hexec _ => ?_⟩
  exact fun _ _ => notRunning_latchKill (ghost_exec.mp hexec).1

/-- A violation that is committed under the latch, and its containment. -/
theorem cleanUnder_report {α : Type} {kind : EventKind} {payload : Json} {requestId : Option String}
    {ns : Option ℤ} (hkind : kind ≠ .dispatch) (triggerNs : Event P → ℤ) (value : α) :
    (discipline d).CleanUnder Latched (do
      let event ← Gateway.commit kind payload requestId ns
      let _ ← Supervisor.contain event (triggerNs event)
      return value) :=
  cleanUnder_bind stable_latched (cleanUnder_commit stable_latched fun _ => ready_of_latched hkind)
    fun _ => Clean.under (clean_bind (clean_contain _ _) fun _ => clean_ret _)

theorem clean_failClosed (reasonCode : String) (requestId : Option String) :
    (discipline d).Clean (Gateway.failClosed reasonCode requestId : Prog P Unit) := by
  refine clean_bind (clean_monotonicNow plainReady) fun triggerNs => clean_latch fun _ => ?_
  refine cleanUnder_bind stable_latched (cleanUnder_handle stable_latched ?_ fun _ => ?_)
    fun trigger => Clean.under (clean_bind (clean_contain _ _) fun _ => clean_ret _)
  · exact cleanUnder_commit stable_latched fun _ => ready_of_latched (by decide)
  · refine Clean.under (clean_bind (clean_perform (plainReady _ trivial)) fun events => ?_)
    cases events.getLast? with
    | none => exact clean_raise _
    | some event => exact clean_ret _

theorem clean_enforceRuntimeDeadline (ns : Option ℤ) :
    (discipline d).Clean (Supervisor.enforceRuntimeDeadline d ns) := by
  refine clean_bind ?_ fun nowNs => clean_bind (clean_perform (plainReady _ trivial)) fun state => ?_
  · cases ns with
    | none => exact clean_monotonicNow plainReady
    | some ns => exact clean_ret _
  split_ifs with hphase
  · exact clean_ret _
  refine clean_latch fun _ => cleanUnder_bind stable_latched ?_ fun event =>
    Clean.under (clean_bind (clean_contain _ _) fun _ => clean_ret _)
  refine cleanUnder_bind stable_latched ?_ fun outcome => Clean.under (clean_ofExcept outcome)
  exact cleanUnder_perform stable_latched fun _ _ _ => ready_of_latched (by decide)

/-! ## Submissions -/

theorem ready_malformed (raw : Bytes) (ns : ℤ) :
    Ready s (.commit .violation (Gateway.malformedPayload P raw) none (some ns)) :=
  ⟨fun hkind => (nomatch hkind), fun _ _ _ _ => .inr ⟨raw, ns, rfl⟩⟩

/-- A hard decision is a kill, and the kill has been latched for it. -/
theorem ready_decision {x : Gateway.Deciding P} {decision : Decision P} {requestId : Option String}
    {ns : Option ℤ} (hshaped : PolicyEngine.Shaped d.manifest x.result)
    (hdecision : x.decision d = .ok decision) (h : x.result.verdict = .kill → Latched s) :
    Ready s (.commit .decision ((Sealed.codec P decisionSealing).encode decision) requestId ns) := by
  refine ⟨fun hkind => (nomatch hkind), fun event hkind htext hhard => .inl (h ?_)⟩
  have hsays : IsDecision event decision := ⟨hkind, modelValidateJson_of_canonicalJson htext⟩
  rcases hhard with hviolation | hoverload | ⟨decision', hsays', htrue⟩
  · rw [hkind] at hviolation
    cases hviolation
  · rw [hkind] at hoverload
    cases hoverload
  · rw [hsays'.unique hsays, (policy_of_decision hdecision).2] at htrue
    rcases hshaped with ⟨_, -, -, -, hfalse⟩ | ⟨code, hkill⟩
    · rw [hfalse] at htrue
      cases htrue
    · rw [hkill]
      rfl

/-- The gateway latches before it commits a hard decision. -/
theorem clean_latchOnKill {α : Type} {verdict : Verdict} {next : Unit → Prog P α}
    (hnext : ∀ done, (discipline d).CleanUnder (fun s => verdict = .kill → Latched s) (next done)) :
    (discipline d).Clean (Gateway.latchOnKill verdict >>= next) := by
  refine clean_establish (fun t s => ?_) hnext
  unfold Gateway.latchOnKill
  split_ifs with hkill
  · refine safe_act fun s₁ _ _ => ⟨trivial, fun env s₂ result _ hexec _ => ?_⟩
    exact fun _ _ _ => notRunning_latchKill (ghost_exec.mp hexec).1
  · exact fun _ _ h => absurd h hkill

/-- What the policy returns. -/
theorem clean_authorize {α : Type} {action : Action P} {now : UtcTimestamp}
    {next : PolicyResult → Prog P α}
    (hnext : ∀ result, PolicyEngine.Shaped d.manifest result → (discipline d).Clean (next result)) :
    (discipline d).Clean (perform (.authorize action now) >>= next) := by
  intro t s
  refine safe_act fun s₁ _ _ => ⟨trivial, fun env s₂ result _ hexec _ => ?_⟩
  refine hnext result ?_ t s₂
  obtain ⟨hdone, -⟩ := ghost_exec.mp hexec
  simp only [exec, Option.some.injEq, Prod.mk.injEq] at hdone
  rw [← hdone.2]
  exact PolicyEngine.shaped_authorize _ _ _ _

theorem clean_decideAction (action : Action P) (admittedNs : ℤ) :
    (discipline d).Clean (Gateway.decideAction d action admittedNs) := by
  refine clean_bind (clean_ofExcept _) fun sha => ?_
  refine clean_bind (clean_commit fun _ => ready_of_mild ?_) fun request => ?_
  · exact ⟨by decide, by decide, by decide, by decide⟩
  refine clean_bind (clean_monotonicNow plainReady) fun decidedNs => ?_
  refine clean_bind (clean_wallNow plainReady) fun wall => ?_
  refine clean_bind (clean_ofExcept _) fun decidedAt => ?_
  refine clean_authorize fun result hshaped => clean_latchOnKill fun _ => ?_
  have hstable : (discipline d).Stable fun s => result.verdict = .kill → Latched s :=
    ⟨fun hrely h hkill => stable_latched.rely hrely (h hkill),
      fun hmove hexec h hkill => stable_latched.act hmove hexec (h hkill)⟩
  refine cleanUnder_bind hstable (Clean.under (clean_perform (plainReady _ trivial))) fun epoch => ?_
  refine cleanUnder_bind hstable (Clean.under (clean_authorization plainReady _ _)) fun capability => ?_
  obtain ⟨authorizationId, expiresNs⟩ := capability
  dsimp only
  cases hdecision : Gateway.Deciding.decision d ⟨action, request, sha, decidedNs, decidedAt, result,
      epoch, authorizationId, expiresNs⟩ with
  | error error => exact Clean.under (clean_raise error)
  | ok decision =>
      rw [Program.ofExcept_ok, Program.ret_bind]
      refine cleanUnder_bind hstable (cleanUnder_commit hstable fun s h => ?_) fun event => ?_
      · exact ready_decision hshaped hdecision h
      refine cleanUnder_bind hstable (Clean.under (clean_perform (plainReady _ trivial))) fun _ => ?_
      unfold Gateway.conclude
      split_ifs with hkill
      · exact fun t s h => cleanUnder_report (by decide) _ _ t s (h hkill)
      · exact Clean.under (clean_ret _)

/-- A first overload has latched the kill. -/
theorem notRunning_firstOverload {s s' : Runtime P} {bytes ns : ℤ}
    (h : exec d env t s (.admitRaw bytes ns) = some (s', .firstOverload)) :
    s'.state.phase ≠ .running := by
  simp only [exec, onState_eq_some] at h
  obtain ⟨-, rfl, h⟩ := h
  revert h
  unfold RunState.admitRaw
  dsimp only
  split_ifs with hphase hover
  · rintro ⟨⟩
  · intro _
    dsimp only
    rw [RunState.phase_latchKillLocked]
    split_ifs with hrunning
    · decide
    · exact hrunning
  · rintro ⟨⟩

theorem clean_submitRaw (raw : Bytes) : (discipline d).Clean (Gateway.submitRaw d raw) := by
  refine clean_bind (clean_monotonicNow plainReady) fun admittedNs => ?_
  split_ifs with hlate
  · exact clean_latch fun _ => cleanUnder_report (by decide) _ _
  intro t s
  refine safe_act fun s₁ _ _ => ⟨trivial, fun env s₂ admission _ hexec _ => ?_⟩
  cases admission with
  | droppedAfterKill => exact clean_ret _ t s₂
  | firstOverload =>
      exact cleanUnder_report (by decide) _ _ t s₂
        (notRunning_firstOverload (ghost_exec.mp hexec).1)
  | admitted =>
      dsimp only
      cases Action.fromWire P raw with
      | ok action => exact clean_decideAction action admittedNs t s₂
      | error error =>
          refine (?_ : (discipline d).Clean (Gateway.rejectMalformed raw admittedNs)) t s₂
          refine clean_bind (clean_commit fun _ => ready_malformed raw admittedNs) fun event => ?_
          refine clean_bind (clean_perform (plainReady _ trivial)) fun _ => ?_
          exact clean_bind (clean_contain _ _) fun _ => clean_ret _

/-! ## Dispatches -/

/-- The state lock is held by a thread that has seen the run running under it. -/
structure Holding (t : ℕ) (s : Runtime P × Set ℕ) : Prop where
  locked : s.1.stateLock = some t
  running : s.1.state.phase = .running

theorem Holding.rely {s s' : Runtime P × Set ℕ} (h : Holding t s) (hrely : Rely t s s') :
    Holding t s' := by
  obtain ⟨hlock, hstate⟩ := hrely.locked h.locked
  exact ⟨hlock, by rw [hstate, h.running]⟩

theorem holding_of_reserve {body : DecisionBody} {nowNs bytes : ℤ} {lease : DispatchLease}
    {s s' : Runtime P} {exposed : Set ℕ}
    (h : exec d env t s (.reserve body nowNs bytes) = some (s', .ok lease)) :
    Holding t (s', exposed) := by
  have hgranted := granted_of_reserve h
  exact ⟨hgranted.locked, hgranted.running⟩

theorem clean_beginAuthorized (action : Action P) (decision : Decision P) (id : OpaqueId)
    (nowNs bytes : ℤ) :
    (discipline d).Clean (Executor.beginAuthorized action decision id nowNs bytes) := by
  intro t s
  have hreserve : (discipline d).Safe t
      (fun outcome s => ∀ lease, outcome = .ok lease → Holding t s)
      (raising (perform (.reserve decision.body nowNs bytes)) : Prog P DispatchLease) s := by
    refine safe_act fun s₁ _ _ => ⟨trivial, fun env s₂ r _ hexec _ => safe_ofExcept.mpr ?_⟩
    rintro lease rfl
    exact holding_of_reserve (ghost_exec.mp hexec).1
  refine safe_seq hreserve (fun lease s₁ hheld => ?_) fun _ _ _ => trivial
  have hcommit : (discipline d).Safe t (fun _ _ => True) (do
      let sha ← Program.ofExcept action.digest
      raising (perform (.commit .dispatch (Executor.dispatchPayload sha decision id)
        (some action.requestId.1) none))) s₁ := by
    cases action.digest with
    | error error => exact trivial
    | ok sha =>
        refine safe_act fun s₂ hrely _ => ⟨⟨fun _ => ?_, fun event hkind _ hhard => ?_⟩, ?_⟩
        · exact ((hheld lease rfl).rely hrely).running
        · rcases hhard with hviolation | hoverload | ⟨_, hsays, -⟩
          · rw [hkind] at hviolation
            cases hviolation
          · rw [hkind] at hoverload
            cases hoverload
          · have hdecision := hsays.1
            rw [hkind] at hdecision
            cases hdecision
        · exact fun _ _ outcome _ _ _ => safe_ofExcept.mpr trivial
  refine safe_attempt_seq hcommit fun outcome s₂ _ => ?_
  cases outcome with
  | ok event => exact safe_act fun s₃ _ _ => ⟨trivial, fun _ _ _ _ _ _ => trivial⟩
  | error error => exact safe_act fun s₃ _ _ => ⟨trivial, fun _ _ _ _ _ _ => trivial⟩

theorem clean_finishAuthorized (action : Action P) (decision : Decision P) (id : OpaqueId)
    (lease : DispatchLease) (result : TransportResult) :
    (discipline d).Clean (Executor.finishAuthorized action decision id lease result) :=
  clean_of_mild (all_finishAuthorized (fun _ => mild_of_quiet) lease fun _ =>
    ⟨by decide, by decide, by decide, by decide⟩)

theorem covers : (discipline d).Covers fun _ _ _ => True := by
  refine covers_of_clean (fun call => ?_) (fun call outcome s h => ?_) fun call outcome s u => ?_
  · cases call with
    | submitRaw raw => exact clean_map (clean_submitRaw raw)
    | dispatch action decision nowNs =>
        exact clean_map (clean_dispatch plainReady clean_beginAuthorized clean_finishAuthorized
          clean_failClosed action decision nowNs)
    | failClosed reasonCode requestId => exact clean_map (clean_failClosed reasonCode requestId)
    | enforceRuntimeDeadline ns => exact clean_map (clean_enforceRuntimeDeadline ns)
    | contain trigger ns => exact clean_map (clean_contain trigger ns)
    | emergencyIsolate => exact clean_map clean_emergencyIsolate
    | complete => exact clean_map (clean_complete plainReady)
    | receipt status => exact clean_map (clean_receipt plainReady status)
  · dsimp only [exposedService]
    unfold retire
    split <;> exact ⟨h.barrier, h.closed⟩
  · dsimp only [exposedService]
    unfold retire
    split
    · exact ⟨fun h => ⟨h, rfl⟩, fun h => h⟩
    · exact (discipline d).rely_refl u s

end Latching

/-- In every interleaving of any calls in which no dispatch is committed while a thread is
exposed, no dispatch stands behind a violation. -/
theorem barrierRespected_of_reachable (P : Platform) (d : Deployment P)
    (witness : TransparencyWitness P) (c : Config (exposedService d))
    (h : Reachable (coveredDispatch d) (Runtime.init d witness, ∅) c) :
    BarrierRespected c.shared.1.ledger.events := by
  have hinit : Latching.Inv (Runtime.init d witness, (∅ : Set ℕ)) :=
    ⟨fun _ _ _ _ _ hi => (nomatch hi), fun _ hmem => (nomatch hmem)⟩
  exact (invariant_of_reachable Latching.covers hinit h).barrier

/-! ## A request that cannot be parsed -/

section Malformed

open Reference

variable {manifest : Manifest platform}

theorem fits_malformedPayload {raw : Bytes} (hraw : raw.length ≤ 24000) :
    Fits platform 64 100000 (Gateway.malformedPayload platform raw) := by
  obtain ⟨digest, hsha⟩ : ∃ digest : Sha256Hex, platform.sha256Hex raw = digest.1 :=
    ⟨⟨_, lawful.sha256Hex_check raw⟩, rfl⟩
  have hreason : Fits platform 63 _ (Codecs.opaqueId.encode
      ⟨"request.ambiguous_or_invalid", by decide⟩) := fits_opaqueId lawful 63 _
  have hbytes : Fits platform 63 17 (.int raw.length) := by
    refine fits_int ?_
    rw [abs_of_nonneg (Int.natCast_nonneg _), maxSafeInteger]
    omega
  have hfields := (fieldsFit_singleton lawful (show IsAscii "raw_bytes" by decide) hbytes).append
    ((fieldsFit_singleton lawful (show IsAscii "raw_sha256" by decide)
      (fits_sha256Hex lawful 63 digest)).append
      (fieldsFit_singleton lawful (show IsAscii "reason_code" by decide) hreason))
  rw [Gateway.malformedPayload, hsha]
  exact (hfields.obj (by simp)).mono le_rfl (by decide)

/-- The empty request, up to the moment its violation is in the ledger. -/
theorem exists_exposed (rule₀ : RunRule (runtimeService (deployment manifest))) (t : ℕ)
    (hm : Signed manifest)
    (hmoves : ∀ s op, Healthy manifest s 2000 → Calm 2000 op → rule₀.moves s op (world 2000))
    (hviolation : ∀ s payload requestId ns,
      rule₀.moves s (.commit .violation payload requestId ns) (world 2000))
    {s : Runtime platform} {n : ℕ} (hn : n ≤ 50) (hroomy : Roomy n s)
    (hhealthy : Healthy manifest s 2000) (hshort : s.ledger.events.length < 900) :
    ∃ s' event code, Runs rule₀ t s (Gateway.submitRaw (deployment manifest) []) s' code ∧
      s'.ledger.events = s.ledger.events ++ [event] ∧ event.body.kind = .violation ∧
      Roomy (n + 1) s' ∧ Healthy manifest s' 2000 ∧ s'.inflight = s.inflight ∧
      s'.state.consumedAuthorizations = s.state.consumedAuthorizations ∧
      ∃ window count ledger mirror history, s' = { s with
        state := { s.state with
          observed := s.state.observed + 1
          windowStartedNs := window
          windowCount := count
          admitted := s.state.admitted + 1 }
        ledger := ledger
        mirror := mirror
        history := history } := by
  have hempty : ([] : Bytes).length ≤ 24000 := by decide
  obtain ⟨window, count, hcount, hadmission⟩ := exists_admitted hn hroomy hempty 2000
  have hlimit : ¬ (2000 : ℤ) - (deployment manifest).startedMonotonicNs >
      Supervisor.runtimeLimitNs (deployment manifest) := by
    change ¬ (2000 : ℤ) - 1000 > manifest.body.killCriteria.maxRuntimeMs.1 * 1000000
    rw [hm.body]
    decide
  have hclock : Ends rule₀ t s (monotonicNow : Prog platform ℤ) s (.ok 2000) :=
    ends_raising (ends_perform (world 2000) (hmoves _ _ hhealthy trivial)
      (by simp only [exec, world]))
  set s₁ : Runtime platform := { s with state := { s.state with
    observed := s.state.observed + 1
    windowStartedNs := window
    windowCount := count + 1
    admitted := s.state.admitted + 1 } } with hs₁
  have hadmitted : Ends rule₀ t s
      (perform (.admitRaw ([] : Bytes).length 2000) : Prog platform Admission) s₁
      (.ok .admitted) := by
    refine ends_perform (world 2000) (hmoves _ _ hhealthy trivial) ?_
    simp only [exec]
    exact onState_eq_some.mpr ⟨hroomy.stateLock, by rw [hadmission], by rw [hadmission]⟩
  have hhealthy₁ : Healthy manifest s₁ 2000 :=
    ⟨hhealthy.observed, hhealthy.agrees, hhealthy.unsealed, hhealthy.room, hhealthy.last⟩
  have hnone : ∀ id ∈ (none : Option String), opaqueIdCheck id = .ok () := by simp
  have hreading : ∀ m ∈ some (2000 : ℤ), m = 2000 := by
    rintro _ ⟨⟩
    rfl
  obtain ⟨event, s', hcommit, hcommitted, hkind, -⟩ := @exists_gatewayCommit _ rule₀ t s₁
    ⟨2000, by decide⟩ .violation _ _ _ (fun _ => hviolation _ _ _ _) hhealthy₁
    (fits_malformedPayload hempty) hnone hreading
  obtain ⟨error, hwire⟩ : ∃ error, Action.fromWire platform [] = .error error := ⟨_, rfl⟩
  obtain ⟨code, hreject⟩ : ∃ code, Runs rule₀ t s₁
      (Gateway.rejectMalformed [] 2000 : Prog platform _) s' code := by
    rw [Gateway.rejectMalformed]
    exact ⟨_, Ends.bind (Ends.handle hcommit) (.refl _ _)⟩
  refine ⟨s', event, code, ?_, ?_, hkind, ?_, hcommitted.healthy hhealthy₁ hshort, ?_, ?_, ?_⟩
  · rw [Gateway.submitRaw]
    refine Ends.bind hclock ?_
    rw [if_neg hlimit]
    refine Ends.bind hadmitted ?_
    simp only [hwire]
    exact hreject
  · rw [hcommitted.ledger]
  · obtain ⟨mirror, history, hothers⟩ := hcommitted.others
    have hwindow := hroomy.window
    have hbelow := hroomy.admitted
    have hinflight := hroomy.inflight
    rw [hothers]
    refine ⟨hroomy.phase, hroomy.epoch, hroomy.criteria, ?_, ?_, ?_, hroomy.egress,
      Nat.le_succ_of_le hroomy.rule, Nat.le_succ_of_le hroomy.grant, hroomy.stateLock⟩
    · change s.state.admitted + 1 ≤ ((n + 1 : ℕ) : ℤ)
      omega
    · change count + 1 ≤ ((n + 1 : ℕ) : ℤ)
      omega
    · change s.state.inflight ≤ ((n + 1 : ℕ) : ℤ)
      omega
  · obtain ⟨mirror, history, hothers⟩ := hcommitted.others
    rw [hothers]
  · rw [hcommitted.state]
  · obtain ⟨mirror, history, hothers⟩ := hcommitted.others
    exact ⟨_, _, _, _, _, hothers⟩

/-- A request is allowed, another thread records a request that cannot be parsed, and the
first request is dispatched before the other thread latches. -/
theorem dispatched_behind_violation :
    ¬ ∀ (P : Platform) (d : Deployment P) (witness : TransparencyWitness P)
      (c : Config (runtimeService d)), Reachable (guardedCalls d) (Runtime.init d witness) c →
      BarrierRespected c.shared.ledger.events := by
  intro hclaim
  obtain ⟨manifest, hm⟩ := exists_signed
  obtain ⟨raw, hwire, hraw⟩ := exists_wire
  obtain ⟨s', request, decided, decision, digest, hends, hdecided⟩ :=
    exists_submitRaw (guardedCalls (deployment manifest)) 0 ⟨2000, by decide⟩
      ⟨1000002000, by decide⟩ hm (fun _ _ _ _ _ => trivial) (healthy_init manifest 2000) (by decide)
      (roomy_init hm) (show 0 < 800 by decide) ⟨by decide, by decide⟩ rfl hwire hraw
  have hstart (s : Runtime platform) (call : Call platform) (h : call.Guarded) :
      (guardedCalls (deployment manifest)).starts s call := h
  obtain ⟨s₀, history, hs₀, hcall⟩ : ∃ s₀ history, s₀ = { counted s' with history := history } ∧
      CallStep (guardedCalls (deployment manifest))
        (Runtime.init (deployment manifest) Reference.witness) s₀ :=
    ⟨_, _, rfl, .call 0 (Call.submitRaw raw) _ (hstart _ (.submitRaw raw) trivial) hends⟩
  obtain ⟨hroomy, hhealthy, hinflight, hconsumed⟩ := hdecided.dispatchable hm (le_refl 2000) hs₀
  have hshort : s₀.ledger.events.length < 900 := by
    rw [hs₀]
    change s'.ledger.events.length < 900
    rw [hdecided.events]
    exact (show 2 < 900 by decide)
  -- The violation is in the ledger, and its thread is about to latch.
  obtain ⟨s₁, violation, code, hexposed, hevents, hviolation, hroomy₁, hhealthy₁, hinflight₁,
    hconsumed₁, -⟩ := exists_exposed (guardedCalls (deployment manifest)) 1 hm
      (fun _ _ _ _ => trivial) (fun _ _ _ _ => trivial) (by decide) hroomy hhealthy hshort
  rw [← hinflight₁] at hinflight
  rw [← hconsumed₁] at hconsumed
  obtain ⟨s₂, dispatched, code₂, hruns, hevents₂, hdispatched, -⟩ := exists_dispatched
    (guardedCalls (deployment manifest)) 0 ⟨2000, by decide⟩
    (show (2000 : ℤ) ≤ (⟨1000002000, by decide⟩ : SafeNonNegativeInt).1 by decide) hm hdecided
    (fun _ _ _ _ => trivial) hroomy₁ hhealthy₁ hinflight hconsumed
  have hsecond := (reachable_of_sequence (.single hcall)).trans
    (steps_call (t := 1) rfl (hstart _ (.submitRaw []) trivial) (Runs.bind hexposed))
  have hthird := hsecond.trans
    (steps_call (t := 0) rfl (hstart _ (.dispatch action decision 2000) trivial)
      (Runs.bind hruns))
  have hbarrier := hclaim _ _ _ _ hthird
  change BarrierRespected s₂.ledger.events at hbarrier
  rw [hevents₂, hevents] at hbarrier
  refine hbarrier s₀.ledger.events.length (s₀.ledger.events.length + 1) violation dispatched
    (Nat.lt_succ_self _) ?_ (.inl hviolation) ?_ hdispatched
  · rw [List.getElem?_append_left (by simp), List.getElem?_concat_length]
  · rw [List.getElem?_append_right (by simp)]
    simp

/-- What an answered request performs exposes nobody. -/
theorem exposedAfter_of_peaceful {op : Op platform} (hop : Peaceful op) (t : ℕ)
    (s s' : Runtime platform) : exposedAfter op t s s' ∅ = ∅ := by
  refine Set.eq_empty_iff_forall_notMem.mpr fun u hu => ?_
  rcases hu with ⟨hu, -⟩ | ⟨-, ⟨raw, ns, rfl⟩, -⟩
  · exact hu
  · rcases hop with ⟨hkind, -⟩ | ⟨decision, hkind, -⟩ <;> rcases hkind with hkind | hkind <;> cases hkind

/-- A violation while a dispatch is under way. -/
theorem barrierRespected_exposed : ∃ (manifest : Manifest platform)
    (c : Config (exposedService (deployment manifest))),
    Reachable (coveredDispatch (deployment manifest))
      (Runtime.init (deployment manifest) Reference.witness, ∅) c ∧
    (∃ event ∈ c.shared.1.ledger.events, event.body.kind = .dispatch) ∧
    (∃ event ∈ c.shared.1.ledger.events, HardViolation event) ∧
    BarrierRespected c.shared.1.ledger.events := by
  obtain ⟨manifest, hm⟩ := exists_signed
  -- The dispatch, with nobody exposed.
  obtain ⟨s₁, decision, code₁, hfirst, -, hinflight⟩ := exists_reachable_inflight
    (⟨fun _ _ => True, fun _ op _ => Peaceful op⟩ : RunRule (runtimeService (deployment manifest))) hm
    (fun _ _ => trivial) (fun _ _ _ _ => trivial) fun _ _ hop _ => hop
  obtain ⟨exposed, rfl, hdispatched⟩ := @steps_ghost_of _ _ _ _ _ _ _
    (coveredDispatch (deployment manifest)) (· = ∅) (fun _ _ _ _ _ => trivial) (fun _ _ _ exposed hnone _ _ _ _ _ => hnone)
    (fun _ t op s s' exposed hop hnone => by
      rw [hnone]
      exact exposedAfter_of_peaceful hop t s s') _ _ hfirst _ rfl
  -- The violation.
  obtain ⟨request, decided, dispatched, hevents₁, -, -, hkind₁⟩ := hinflight.dispatched
  have hcalm (s : Runtime platform) (op : Op platform) (_ : Healthy manifest s 2000)
      (hop : Calm 2000 op) : (undispatched (deployment manifest)).moves s op (world 2000) := by
    rintro payload requestId ns rfl
    rcases hop.1 with hkind | hkind <;> cases hkind
  obtain ⟨s', event, code, hruns, hevents, hkind, -⟩ := exists_exposed
    (undispatched (deployment manifest)) 1 hm hcalm
    (fun s payload requestId ns _ _ _ heq => by cases heq) (by decide) hinflight.roomy hinflight.healthy
    (by rw [hevents₁]; exact (by decide : 3 < 900))
  have hstart : (undispatched (deployment manifest)).starts s₁ (.submitRaw []) := trivial
  have hsteps := steps_call (t := 1) (c := (Config.initial (S := runtimeService (deployment manifest))
    (Runtime.init (deployment manifest) Reference.witness)).set s₁ 0
      (some (Call.dispatch action decision 2000, code₁))) rfl hstart (Runs.bind hruns)
  have hlift (s : Runtime platform) (op : Op platform) (env : World) (exposed : Set ℕ)
      (hmove : (undispatched (deployment manifest)).moves s op env) :
      (coveredDispatch (deployment manifest)).moves (s, exposed) op env :=
    fun _ _ _ heq => absurd heq (hmove _ _ _)
  obtain ⟨exposed, hexposed⟩ := steps_ghost (fun _ _ _ _ => trivial) hlift hsteps ∅
  have hreach := hdispatched.trans hexposed
  refine ⟨manifest, _, hreach, ⟨dispatched, ?_, hkind₁⟩, ⟨event, ?_, .inl hkind⟩,
    barrierRespected_of_reachable _ _ _ _ hreach⟩
  · change dispatched ∈ s'.ledger.events
    rw [hevents, hevents₁]
    simp
  · change event ∈ s'.ledger.events
    rw [hevents]
    exact List.mem_append_right _ (List.mem_singleton_self _)

end Malformed

end Containment
