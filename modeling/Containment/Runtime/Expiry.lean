/-
# The expiry of a dispatch

`begin_authorized` compares the expiry of a decision with a reading that its caller took.
The DISPATCH event carries a later reading, taken when the ledger appends it, after the
state lock and the ledger lock have been waited for. The verifier compares the expiry with
that one. So a dispatch is in time for the verifier exactly as far as the expiry does not
pass between the two readings.
-/

import Containment.Concurrency.Ghost
import Containment.Reference.Dispatching
import Containment.Runtime.Calls
import Containment.Runtime.Walk

namespace Containment

open Json Concurrency Discipline

variable {P : Platform}

/-- The event is a DISPATCH of a decision with this body. -/
def DispatchOf (event : Event P) (body : DecisionBody) : Prop :=
  event.body.kind = .dispatch ∧ ∃ (sha : String) (decision : Decision P) (id : OpaqueId),
    decision.body = body ∧ canonicalJson P (Executor.dispatchPayload sha decision id) =
      .ok event.body.payloadCanonicalJson.1

/-- The event is not later than the expiry of the decision. -/
def InTime (event : Event P) (body : DecisionBody) : Prop :=
  ∀ expires ∈ body.authorizationExpiresMonotonicNs, event.body.monotonicNs.1 ≤ expires.1

/-- A decision that is being dispatched, and the reading that its caller took. -/
structure Tested where
  body : DecisionBody
  nowNs : ℤ

/-- What was tested last, and what had been tested for each DISPATCH when it was committed. -/
structure Timing (P : Platform) where
  tested : Option Tested
  dispatched : List (Event P × Tested)

def Timing.start : Timing P := ⟨none, []⟩

/-- The record after an operation. -/
def timed (op : Op P) (s s' : Runtime P) (timing : Timing P) : Timing P :=
  match op with
  | .reserve body nowNs _ => { timing with tested := some ⟨body, nowNs⟩ }
  | .commit .dispatch .. => { timing with
      dispatched := timing.dispatched ++
        (s'.ledger.events.drop s.ledger.events.length).flatMap fun event =>
          timing.tested.toList.map fun tested => (event, tested) }
  | _ => timing

/-- The runtime beside the record of its dispatches. -/
@[reducible]
def timedService (d : Deployment P) : Service (Op P) Op.Res PyError :=
  (runtimeService d).ghost fun _ _ op s s' timing => timed op s s' timing

/-- Concurrent calls of any kind. When a DISPATCH is appended, the expiry of its decision has not
passed since its caller took the reading that was tested. -/
def notExpiring (d : Deployment P) : RunRule (timedService d) where
  starts _ _ := True
  moves s op env := ∀ payload requestId ns now, op = .commit .dispatch payload requestId ns →
    env.monotonicClock = .ok now → ∀ tested ∈ s.2.tested,
    ∀ expires ∈ tested.body.authorizationExpiresMonotonicNs, tested.nowNs ≤ expires.1 →
      now ≤ expires.1

/-- Every DISPATCH of the ledger was committed for a tested decision and is in time for it. -/
def DispatchesInTime (s : Runtime P × Timing P) : Prop :=
  ∀ event ∈ s.1.ledger.events, event.body.kind = .dispatch →
    (∃ tested, (event, tested) ∈ s.2.dispatched) ∧
    ∀ tested, (event, tested) ∈ s.2.dispatched →
      DispatchOf event tested.body ∧ InTime event tested.body

namespace Expiry

variable {d : Deployment P} {env : World} {t : ℕ} {s s' : Runtime P × Timing P}

/-- What holds at all times. -/
structure Inv (s : Runtime P × Timing P) : Prop where
  recorded : ∀ event ∈ s.1.ledger.events, event.body.kind = .dispatch →
    ∃ tested, (event, tested) ∈ s.2.dispatched
  inTime : ∀ event tested, (event, tested) ∈ s.2.dispatched →
    DispatchOf event tested.body ∧ InTime event tested.body

/-- The thread has the state lock, and its caller's reading was not past the expiry. -/
structure Passed (t : ℕ) (decision : Decision P) (s : Runtime P × Timing P) : Prop where
  locked : s.1.stateLock = some t
  tested : ∃ nowNs, s.2.tested = some ⟨decision.body, nowNs⟩ ∧
    ∀ expires ∈ decision.body.authorizationExpiresMonotonicNs, nowNs ≤ expires.1

/-- A DISPATCH is committed with a payload of the executor, after the test, and its time is left
to the ledger. -/
def Ready (t : ℕ) (s : Runtime P × Timing P) : Op P → Prop
  | .commit kind payload _ ns => kind = .dispatch → ns = none ∧
      ∃ (sha : String) (decision : Decision P) (id : OpaqueId),
        payload = Executor.dispatchPayload sha decision id ∧ Passed t decision s
  | _ => True

/-- The holder of the state lock keeps it, and what it has tested stays the last test. -/
def Rely (t : ℕ) (s s' : Runtime P × Timing P) : Prop :=
  s.1.stateLock = some t → s'.1.stateLock = some t ∧ s'.2.tested = s.2.tested

theorem Passed.rely {decision : Decision P} (h : Passed t decision s) (hrely : Rely t s s') :
    Passed t decision s' := by
  obtain ⟨hlock, htested⟩ := hrely h.locked
  exact ⟨hlock, by rw [htested]; exact h.tested⟩

/-! ## One operation -/

/-- Only a reservation changes what was tested last. -/
theorem tested_timed {op : Op P} {s s' : Runtime P} {timing : Timing P}
    (hop : ∀ body nowNs bytes, op ≠ .reserve body nowNs bytes) :
    (timed op s s' timing).tested = timing.tested := by
  unfold timed
  split
  · exact absurd rfl (hop _ _ _)
  · rfl
  · rfl

/-- Only the commit of a DISPATCH adds to the record. -/
theorem dispatched_timed {op : Op P} {s s' : Runtime P} {timing : Timing P}
    (hop : ∀ payload requestId ns, op ≠ .commit .dispatch payload requestId ns) :
    (timed op s s' timing).dispatched = timing.dispatched := by
  unfold timed
  split
  · rfl
  · exact absurd rfl (hop _ _ _)
  · rfl

/-- The committed DISPATCH goes on record with what was tested last. -/
theorem dispatched_commit {payload : Json} {requestId : Option String} {ns : Option ℤ}
    {s s' : Runtime P} {timing : Timing P} {event : Event P} {tested : Tested}
    (h : s'.ledger.events = s.ledger.events ++ [event]) (htested : timing.tested = some tested) :
    (timed (.commit .dispatch payload requestId ns) s s' timing).dispatched =
      timing.dispatched ++ [(event, tested)] := by
  simp [timed, h, htested]

theorem inv_commit {kind : EventKind} {payload : Json} {requestId : Option String} {ns : Option ℤ}
    {r : Except PyError (Event P)} {s₁ : Runtime P} (h : Inv s)
    (hready : Ready t s (.commit kind payload requestId ns))
    (hmove : (notExpiring d).moves s (.commit kind payload requestId ns) env)
    (hexec : exec d env t s.1 (.commit kind payload requestId ns) = some (s₁, r)) :
    Inv (s₁, timed (.commit kind payload requestId ns) s.1 s₁ s.2) := by
  simp only [exec, Option.some.injEq] at hexec
  rcases commit_cases d env s.1 kind payload requestId ns with ⟨_, heq⟩ |
    ⟨event, _, _, _, happend, -, heq⟩
  · rw [heq, Prod.mk.injEq] at hexec
    obtain ⟨rfl, -⟩ := hexec
    have hsame : (timed (.commit kind payload requestId ns) s.1 s.1 s.2).dispatched =
        s.2.dispatched := by
      unfold timed
      split <;> simp
    exact ⟨by rw [hsame]; exact h.recorded, by rw [hsame]; exact h.inTime⟩
  · rw [heq, Prod.mk.injEq] at hexec
    have hevents : s₁.ledger.events = s.1.ledger.events ++ [event] := by rw [← hexec.1]; rfl
    obtain ⟨hpayload, hkind, -, -⟩ := append_ok happend
    obtain ⟨-, -, -, -, hreading, -⟩ := append_links happend
    by_cases hdispatch : kind = .dispatch
    · subst hdispatch
      obtain ⟨rfl, sha, decision, id, rfl, -, nowNs, htested, hlive⟩ := hready rfl
      refine ⟨fun e hmem hof => ?_, fun e tested hmem => ?_⟩
      · rw [hevents] at hmem
        rw [dispatched_commit hevents htested]
        rcases List.mem_append.mp hmem with hmem | hmem
        · obtain ⟨tested, hin⟩ := h.recorded e hmem hof
          exact ⟨tested, List.mem_append_left _ hin⟩
        · obtain rfl := List.mem_singleton.mp hmem
          exact ⟨_, List.mem_append_right _ (List.mem_singleton_self _)⟩
      · rw [dispatched_commit hevents htested] at hmem
        rcases List.mem_append.mp hmem with hmem | hmem
        · exact h.inTime e tested hmem
        · obtain ⟨rfl, rfl⟩ := Prod.mk.inj (List.mem_singleton.mp hmem)
          exact ⟨⟨hkind, sha, decision, id, rfl, hpayload⟩, fun expires hexpires =>
            hmove _ _ _ _ rfl hreading _ htested expires hexpires (hlive expires hexpires)⟩
    · have hsame : (timed (.commit kind payload requestId ns) s.1 s₁ s.2).dispatched =
          s.2.dispatched := dispatched_timed (by rintro _ _ _ ⟨⟩; exact hdispatch rfl)
      refine ⟨fun e hmem hof => ?_, by rw [hsame]; exact h.inTime⟩
      rw [hevents] at hmem
      rw [hsame]
      rcases List.mem_append.mp hmem with hmem | hmem
      · exact h.recorded e hmem hof
      · obtain rfl := List.mem_singleton.mp hmem
        exact absurd (hkind.symm.trans hof) hdispatch

theorem inv_exec {op : Op P} {r : op.Res} (h : Inv s) (hready : Ready t s op)
    (hmove : (notExpiring d).moves s op env)
    (hexec : (timedService d).exec env t s op = some (s', r)) : Inv s' := by
  obtain ⟨hdone, hghost⟩ := ghost_exec.mp hexec
  by_cases hcommit : ∃ kind payload requestId ns, op = .commit kind payload requestId ns
  · obtain ⟨kind, payload, requestId, ns, rfl⟩ := hcommit
    have hkept := inv_commit h hready hmove hdone
    rw [← hghost] at hkept
    exact hkept
  · simp only [not_exists] at hcommit
    have hevents := (events_exec hdone hcommit).1
    have hsame : s'.2.dispatched = s.2.dispatched := by
      rw [hghost]
      exact dispatched_timed fun _ _ _ => hcommit _ _ _ _
    exact ⟨by rw [hevents, hsame]; exact h.recorded, by rw [hsame]; exact h.inTime⟩

theorem rely_exec {op : Op P} {r : op.Res}
    (hexec : (timedService d).exec env t s op = some (s', r)) {u : ℕ} (hu : u ≠ t) :
    Rely u s s' := by
  obtain ⟨hdone, hghost⟩ := ghost_exec.mp hexec
  intro hlock
  refine ⟨(lock_exec hdone hu hlock).1, ?_⟩
  rw [hghost]
  refine tested_timed ?_
  -- The state lock is taken, so nobody can reserve.
  rintro body nowNs bytes rfl
  simp [exec, hlock] at hdone

variable (d) in
/-- The obligations of the dispatches. -/
def discipline : Discipline (notExpiring d) where
  inv := Inv
  ready := Ready
  rely := Rely
  rely_refl _ _ hlock := ⟨hlock, rfl⟩
  rely_trans h h' hlock := by
    obtain ⟨hlock₂, htested₂⟩ := h hlock
    obtain ⟨hlock₃, htested₃⟩ := h' hlock₂
    exact ⟨hlock₃, htested₃.trans htested₂⟩
  act_inv h hready hmove hexec := inv_exec h hready hmove hexec
  act_rely _ _ _ hexec _ hu := rely_exec hexec hu

/-! ## The code -/

/-- Operations other than the commit of a DISPATCH. -/
def Op.Undated : Op P → Prop
  | .commit kind _ _ _ => kind ≠ .dispatch
  | _ => True

theorem compositional : Compositional fun _ p => (discipline d).Clean (p : Prog P _) where
  ret := clean_ret
  raise := clean_raise
  bind := clean_bind
  attempt := clean_attempt

theorem clean_undated (op : Op P) (hop : Op.Undated op) :
    (discipline d).Clean (perform op : Prog P op.Res) := by
  refine clean_perform fun t s _ => ?_
  cases op with
  | commit kind payload requestId ns => exact fun hdispatch => absurd hdispatch hop
  | _ => exact trivial

theorem clean_ordinary (op : Op P) (h : op.Ordinary) :
    (discipline d).Clean (perform op : Prog P op.Res) := by
  refine clean_undated op ?_
  cases op <;> first | exact trivial | exact absurd h id

theorem clean_supervisor (op : Op P) (h : op.OfSupervisor) :
    (discipline d).Clean (perform op : Prog P op.Res) := by
  refine clean_undated op ?_
  cases op <;> first | exact trivial | exact absurd h id

theorem clean_gatewayEvent (kind : EventKind) (payload : Json) (requestId : Option String)
    (ns : Option ℤ) (h : kind.OfGateway) :
    (discipline d).Clean (perform (.commit kind payload requestId ns) : Prog P _) := by
  refine clean_undated (.commit kind payload requestId ns) ?_
  rcases h with rfl | rfl | rfl | rfl <;> exact nofun

theorem clean_isolate : (discipline d).Clean (Supervisor.emergencyIsolate : Prog P Unit) :=
  compositional.emergencyIsolate clean_supervisor

theorem clean_contain (trigger : Event P) (ns : ℤ) :
    (discipline d).Clean (Supervisor.contain trigger ns) :=
  compositional.contain clean_supervisor (fun _ _ _ => clean_undated (.commit ..) nofun) trigger ns

theorem clean_failClosed (reasonCode : String) (requestId : Option String) :
    (discipline d).Clean (Gateway.failClosed reasonCode requestId) :=
  compositional.failClosed clean_ordinary clean_gatewayEvent clean_contain clean_isolate reasonCode
    requestId

theorem passed_of_reserve {decision : Decision P} {nowNs bytes : ℤ} {lease : DispatchLease}
    (h : (timedService d).exec env t s (.reserve decision.body nowNs bytes) = some (s', .ok lease)) :
    Passed t decision s' := by
  obtain ⟨hdone, hghost⟩ := ghost_exec.mp h
  refine ⟨(granted_of_reserve hdone).locked, nowNs, by rw [hghost]; rfl, ?_⟩
  simp only [exec, Option.ite_none_right_eq_some] at hdone
  obtain ⟨-, hdone⟩ := hdone
  rcases RunState.reserve_cases s.1.state decision.body nowNs bytes with ⟨_, heq⟩ | ⟨_, heq⟩ |
    ⟨id, expires, -, -, -, -, hexpires, hlive, -⟩
  · rw [heq] at hdone
    simp at hdone
  · rw [heq] at hdone
    simp at hdone
  · rw [hexpires]
    rintro _ ⟨⟩
    exact hlive

/-- Between the test and the commit the state lock stays taken. -/
theorem clean_beginAuthorized (action : Action P) (decision : Decision P) (id : OpaqueId)
    (nowNs bytes : ℤ) :
    (discipline d).Clean (Executor.beginAuthorized action decision id nowNs bytes) := by
  intro t s
  refine safe_act fun s₁ _ _ => ⟨trivial, fun env s₂ granted _ hreserve _ => ?_⟩
  cases granted with
  | error error => exact trivial
  | ok lease =>
      have hpassed := passed_of_reserve hreserve
      have hcommitted : (discipline d).Safe t (fun _ _ => True) (do
          let actionSha256 ← .ofExcept action.digest
          raising (perform (.commit .dispatch (Executor.dispatchPayload actionSha256 decision id)
            (some action.requestId.1) none)) : Prog P (Event P)) s₂ := by
        have hdigest : (discipline d).Safe t (fun _ s => s = s₂)
            (.ofExcept action.digest : Prog P String) s₂ := safe_ofExcept.mpr rfl
        refine safe_seq hdigest ?_ fun _ _ _ => trivial
        rintro sha _ rfl
        refine safe_act fun s₃ hrely _ => ⟨fun _ => ⟨rfl, sha, decision, id, rfl, hpassed.rely hrely⟩,
          fun env s₄ r _ _ _ => ?_⟩
        exact safe_ofExcept.mpr trivial
      refine safe_attempt_seq hcommitted fun outcome s₃ _ => ?_
      cases outcome with
      | error error =>
          exact clean_bind (clean_undated (.rollback lease) trivial) (fun _ => clean_raise error) t s₃
      | ok event =>
          exact clean_bind (clean_undated .confirm trivial) (fun _ => clean_ret lease) t s₃

theorem clean_deliver (action : Action P) (decision : Decision P) (id : OpaqueId) (bytes : ℤ)
    (lease : DispatchLease) :
    (discipline d).Clean (Executor.deliver action decision id bytes lease) := by
  refine clean_bind (compositional.raising (clean_undated (.release action) trivial)) fun secret => ?_
  refine clean_bind (compositional.raising (clean_undated (.transport ..) trivial)) fun result => ?_
  refine clean_bind (clean_ofExcept _) fun _ => clean_bind ?_ fun _ => clean_ret _
  refine clean_bind (compositional.raising (clean_undated (.prepareFinish ..) trivial))
    fun reserved => ?_
  refine clean_bind (clean_attempt (clean_bind (clean_ofExcept _) fun _ =>
    compositional.raising (clean_undated (.commit ..) nofun))) fun outcome => ?_
  cases outcome with
  | ok event => exact clean_undated (.settle ..) trivial
  | error error => exact clean_bind (clean_undated .failFinish trivial) fun _ => clean_raise error

theorem clean_dispatch (action : Action P) (decision : Decision P) (nowNs : ℤ) :
    (discipline d).Clean (Executor.dispatch d action decision nowNs) :=
  compositional.dispatch (fun id => clean_undated (.isSet id) trivial)
    (fun lease => clean_undated (.abort lease) trivial) clean_failClosed d
    (fun id => clean_undated (.register id) trivial) (fun id => clean_undated (.unregister id) trivial)
    clean_beginAuthorized clean_deliver action decision nowNs

theorem clean_body (call : Call P) : (discipline d).Clean (body d call) :=
  compositional.body d
    (fun raw => compositional.submitRaw clean_ordinary clean_gatewayEvent clean_contain clean_isolate
      d raw)
    clean_dispatch clean_failClosed
    (fun ns => compositional.enforceRuntimeDeadline clean_ordinary clean_gatewayEvent clean_contain
      d ns)
    clean_contain clean_isolate (compositional.complete clean_supervisor d)
    (fun status => compositional.receipt clean_supervisor d status) call

theorem covers : (discipline d).Covers fun _ _ _ => True := by
  refine covers_of_clean clean_body (fun call outcome s h => ?_) fun call outcome s u => ?_
  · dsimp only [timedService]
    unfold retire
    split <;> exact ⟨h.recorded, h.inTime⟩
  · dsimp only [timedService]
    unfold retire
    split <;> exact fun hlock => ⟨hlock, rfl⟩

end Expiry

/-- In every interleaving of any calls in which no expiry passes between the reading that a caller
of `dispatch` took and the one that the ledger takes, every DISPATCH is in time for its decision. -/
theorem dispatchedInTime_of_reachable (P : Platform) (d : Deployment P)
    (witness : TransparencyWitness P) (c : Config (timedService d))
    (h : Reachable (notExpiring d) (Runtime.init d witness, Timing.start) c) :
    DispatchesInTime c.shared := by
  have hinv : Expiry.Inv (Runtime.init d witness, Timing.start) :=
    ⟨fun _ hmem => (by cases hmem), fun _ _ hmem => (by cases hmem)⟩
  have hholds := invariant_of_reachable Expiry.covers hinv h
  exact fun event hmem hkind => ⟨hholds.recorded event hmem hkind, hholds.inTime event⟩


/-! ## Before and after the expiry -/

section Boundary

open Reference

/-- The clock reads `ns`, for the code and for the ledger. -/
def clockReads (d : Deployment P) (ns : ℤ) : RunRule (runtimeService d) where
  starts _ _ := True
  moves _ _ env := env.monotonicClock = .ok ns

/-- Calls that reserve for one decision only. The clock reads `ns` when a DISPATCH is appended. -/
def dispatchesAt (d : Deployment P) (body : DecisionBody) (ns : ℤ) : RunRule (runtimeService d) where
  starts _ _ := True
  moves _ op env := (∀ reserved nowNs bytes, op = .reserve reserved nowNs bytes → reserved = body) ∧
    ∀ payload requestId at_, op = .commit .dispatch payload requestId at_ →
      env.monotonicClock = .ok ns

/-- A request performs no reservation and appends no DISPATCH. -/
theorem dispatchesAt_of_calm {d : Deployment platform} {body : DecisionBody} {ns : ℤ}
    {s : Runtime platform} {op : Op platform} {env : World} (hop : Calm 2000 op) :
    (dispatchesAt d body ns).moves s op env := by
  refine ⟨?_, ?_⟩
  · rintro reserved nowNs bytes rfl
    exact hop.elim
  · rintro payload requestId at_ rfl
    rcases hop.1 with hkind | hkind <;> cases hkind

/-- A dispatch reserves for its own decision. -/
theorem dispatchesAt_of_delivering {d : Deployment platform} {decision : Decision platform} {ns : ℤ}
    {s : Runtime platform} {op : Op platform} (hop : Delivering decision op) :
    (dispatchesAt d decision.body ns).moves s op (world ns) := by
  refine ⟨?_, fun _ _ _ _ => rfl⟩
  rintro reserved nowNs bytes rfl
  exact hop

/-- No expiry passes for a decision that has not expired at the reading of the ledger. -/
theorem notExpiring_of_dispatchesAt {d : Deployment P} {body : DecisionBody} {ns : ℤ}
    (hlive : ∀ expires ∈ body.authorizationExpiresMonotonicNs, ns ≤ expires.1) {s : Runtime P}
    {op : Op P} {env : World} {timing : Timing P} (htested : ∀ tested ∈ timing.tested, tested.body = body)
    (h : (dispatchesAt d body ns).moves s op env) : (notExpiring d).moves (s, timing) op env := by
  rintro payload requestId at_ now rfl hnow tested hmem expires hexpires -
  have hreads := h.2 _ _ _ rfl
  obtain rfl : now = ns := Except.ok.inj (hnow.symm.trans hreads)
  exact hlive expires (by rw [← htested tested hmem]; exact hexpires)

/-- What was tested last stays the decision. -/
theorem tested_of_dispatchesAt {d : Deployment P} {body : DecisionBody} {ns : ℤ} {s s' : Runtime P}
    {op : Op P} {env : World} {timing : Timing P} (h : (dispatchesAt d body ns).moves s op env)
    (htested : ∀ tested ∈ timing.tested, tested.body = body) :
    ∀ tested ∈ (timed op s s' timing).tested, tested.body = body := by
  by_cases hop : ∃ reserved nowNs bytes, op = .reserve reserved nowNs bytes
  · obtain ⟨reserved, nowNs, bytes, rfl⟩ := hop
    rintro _ ⟨⟩
    exact h.1 _ _ _ rfl
  · simp only [not_exists] at hop
    rw [Expiry.tested_timed hop]
    exact htested

/-- A dispatch one microsecond after its request. -/
theorem dispatchedInTime_at_once : ∃ (manifest : Manifest platform)
    (c : Config (timedService (deployment manifest))),
    Reachable (notExpiring (deployment manifest))
      (Runtime.init (deployment manifest) Reference.witness, Timing.start) c ∧
    (∃ event ∈ c.shared.1.ledger.events, event.body.kind = .dispatch) ∧
    DispatchesInTime c.shared := by
  obtain ⟨manifest, hm⟩ := exists_signed
  obtain ⟨raw, hwire, hraw⟩ := exists_wire
  obtain ⟨s', request, decided, decision, digest, hends, hdecided⟩ :=
    exists_submitRaw (⟨fun _ _ => True, fun _ op _ => Calm 2000 op⟩ :
      RunRule (runtimeService (deployment manifest))) 0 ⟨2000, by decide⟩ ⟨1000002000, by decide⟩ hm
      (fun _ _ _ hop _ => hop) (healthy_init manifest 2000) (by decide) (roomy_init hm)
      (show 0 < 800 by decide) ⟨by decide, by decide⟩ rfl hwire hraw
  have hsubmitted : Ends (dispatchesAt (deployment manifest) decision.body 3000) 0 _ _ _ _ :=
    Runs.mono (fun _ _ _ hop => dispatchesAt_of_calm hop) hends
  obtain ⟨s₀, history, hs₀, hcall⟩ : ∃ s₀ history, s₀ = { counted s' with history := history } ∧
      CallStep (dispatchesAt (deployment manifest) decision.body 3000)
        (Runtime.init (deployment manifest) Reference.witness) s₀ :=
    ⟨_, { s'.history with issued := s'.history.issued ++ [decision] }, rfl,
      .call 0 (Call.submitRaw raw) _ trivial hsubmitted⟩
  obtain ⟨hroomy, hhealthy, hinflight, hconsumed⟩ := hdecided.dispatchable hm
    (show (2000 : ℤ) ≤ 3000 by decide) hs₀
  obtain ⟨s₂, event, code, hruns, hevents, hkind, -⟩ := exists_dispatched
    (dispatchesAt (deployment manifest) decision.body 3000) 0 ⟨3000, by decide⟩
    (show (2000 : ℤ) ≤ (⟨1000002000, by decide⟩ : SafeNonNegativeInt).1 by decide) hm hdecided
    (fun s op hop _ => dispatchesAt_of_delivering hop) hroomy hhealthy hinflight hconsumed
  have hstart : (dispatchesAt (deployment manifest) decision.body 3000).starts s₀
    (Call.dispatch action decision 2000) := trivial
  have hreach := (reachable_of_sequence (.single hcall)).trans
    (steps_call (t := 0) rfl hstart (Runs.bind hruns))
  have hlive : ∀ expires ∈ decision.body.authorizationExpiresMonotonicNs,
      (3000 : ℤ) ≤ expires.1 := by
    obtain ⟨_, hbody⟩ := hdecided.body
    rw [hbody]
    rintro _ ⟨⟩
    decide
  obtain ⟨timing, -, hsteps⟩ := @steps_ghost_of _ _ _ _ _ _ _ (notExpiring (deployment manifest))
    (fun timing => ∀ tested ∈ timing.tested, tested.body = decision.body)
    (fun _ _ _ _ _ => trivial)
    (fun _ _ _ _ htested hmove => notExpiring_of_dispatchesAt hlive htested hmove)
    (fun _ _ _ _ _ _ hmove htested => tested_of_dispatchesAt hmove htested)
    _ _ hreach Timing.start nofun
  refine ⟨manifest, _, hsteps, ⟨event, ?_, hkind⟩, dispatchedInTime_of_reachable _ _ _ _ hsteps⟩
  change event ∈ s₂.ledger.events
  rw [hevents]
  exact List.mem_append_right _ (List.mem_singleton_self _)

/-- The clock reads 2000 until the dispatch begins, and has passed the expiry when its
event is appended. -/
theorem dispatch_not_inTime :
    ¬ ∀ (P : Platform) (d : Deployment P) (witness : TransparencyWitness P) (s s' : Runtime P) (t : ℕ)
      (action : Action P) (decision : Decision P) (before after : ℤ) (code : Prog P TransportResult),
      before ≤ after → Sequence (clockReads d before) (Runtime.init d witness) s →
      Runs (clockReads d after) t s (Executor.dispatch d action decision before) s' code →
      ∀ event ∈ s'.ledger.events, DispatchOf event decision.body → InTime event decision.body := by
  intro hclaim
  obtain ⟨manifest, hm⟩ := exists_signed
  obtain ⟨raw, hwire, hraw⟩ := exists_wire
  obtain ⟨s', request, decided, decision, digest, hends, hdecided⟩ :=
    exists_submitRaw (clockReads (deployment manifest) 2000) 0 ⟨2000, by decide⟩ ⟨1000002000, by decide⟩ hm
      (fun _ _ _ _ _ => rfl) (healthy_init manifest 2000) (by decide) (roomy_init hm)
      (show 0 < 800 by decide) ⟨by decide, by decide⟩ rfl hwire hraw
  have hcall : CallStep (clockReads (deployment manifest) 2000) _ _ :=
    .call 0 (Call.submitRaw raw) _ trivial hends
  obtain ⟨hroomy, hhealthy, hinflight, hconsumed⟩ := hdecided.dispatchable hm
    (show (2000 : ℤ) ≤ 1000002001 by decide) rfl
  have htested : (2000 : ℤ) ≤ (⟨1000002000, by decide⟩ : SafeNonNegativeInt).1 := by decide
  obtain ⟨s₂, event, code, hruns, hevents, hkind, htext, htime⟩ := exists_dispatched
    (clockReads (deployment manifest) 1000002001) 0 ⟨1000002001, by decide⟩ htested hm hdecided
    (fun _ _ _ _ => rfl) hroomy hhealthy hinflight hconsumed
  have hmem : event ∈ s₂.ledger.events := by
    rw [hevents]
    exact List.mem_append_right _ (List.mem_singleton_self _)
  obtain ⟨_, hbody⟩ := hdecided.body
  have hle := hclaim _ (deployment manifest) Reference.witness _ s₂ 0 action decision 2000 1000002001
    code (by decide) (.single hcall) hruns event hmem
    ⟨hkind, digest.1, decision, authorizationId, rfl, htext⟩ ⟨1000002000, by decide⟩
    (by rw [hbody]; rfl)
  rw [htime] at hle
  revert hle
  decide

end Boundary
end Containment
