/-
# What one operation can do

Each fact about the shared state is said once here, for all operations: which of
them touch the ledger, who may change the run state while its lock is held, what
happens to the accounting and the phase. The invariants of the later modules are
derived from these facts and never look at `exec` again, except for the few
operations they are about.
-/

import Containment.Runtime.Executor

namespace Containment

open Json Concurrency

variable {P : Platform} {d : Deployment P} {env : World} {t : ℕ} {s s' : Runtime P}

theorem onState_eq_some {α : Type} {f : RunState → RunState × α} {r : α} :
    s.onState f = some (s', r) ↔
      s.stateLock = none ∧ { s with state := (f s.state).1 } = s' ∧ (f s.state).2 = r := by
  unfold Runtime.onState
  split_ifs with h <;> simp [h]

/-! ## The ledger -/

/-- Only a commit writes to the ledger or the mirror. -/
theorem events_exec {op : Op P} {r : op.Res} (h : exec d env t s op = some (s', r))
    (hop : ∀ kind payload requestId ns, op ≠ .commit kind payload requestId ns) :
    s'.ledger.events = s.ledger.events ∧ s'.mirror = s.mirror := by
  cases op
  case commit => exact absurd rfl (hop _ _ _ _)
  all_goals
    simp only [exec, onState_eq_some, Option.some.injEq, Prod.mk.injEq,
      Option.ite_none_right_eq_some] at h
  all_goals try split at h
  all_goals try split at h
  all_goals try simp only [Option.some.injEq, Prod.mk.injEq] at h
  all_goals
    first
    | (obtain ⟨rfl, -⟩ := h; exact ⟨rfl, rfl⟩)
    | (obtain ⟨-, rfl, -⟩ := h; exact ⟨rfl, rfl⟩)

/-- An appended event is the next one of its kind. -/
theorem append_ok {config : LedgerConfig P} {ledger : EvidenceLedger P} {clocks : Clocks}
    {kind : EventKind} {payload : Json} {requestId : Option String} {monotonicNs : Option ℤ}
    {fault : Option PyError} {event : Event P}
    (h : ledger.append config clocks kind payload requestId monotonicNs fault = .ok event) :
    canonicalJson P payload = .ok event.body.payloadCanonicalJson.1 ∧ event.body.kind = kind ∧
      event.body.requestId.map Subtype.val = requestId ∧
      event.body.sequence.1 = ledger.events.length := by
  simp only [EvidenceLedger.append, bind_eq_ok, Unique.exists_iff, ensure_eq_ok] at h
  obtain ⟨-, -, now, -, observedAt, -, clock, -, event', hcreate, encoded, -, hfault⟩ := h
  have hevent : event' = event := by
    cases fault with
    | none => exact Except.ok.inj hfault
    | some error => cases hfault
  subst hevent
  obtain ⟨hpayload, hkind, hrequest, hsequence, -⟩ := Event.create_ok hcreate
  exact ⟨hpayload, hkind, hrequest, hsequence⟩

/-- The three ways a commit can go: nothing happens, the event is appended and the
mirror refuses it, or both take it. -/
theorem commit_cases (d : Deployment P) (env : World) (s : Runtime P) (kind : EventKind)
    (payload : Json) (requestId : Option String) (monotonicNs : Option ℤ) :
    (∃ error, s.commit d env kind payload requestId monotonicNs = (s, .error error)) ∨
    (∃ event mirrored outcome mirror,
      s.ledger.append d.ledgerConfig env.toClocks kind payload requestId monotonicNs env.fault =
        .ok event ∧
      (if mirrored then s.mirror.observe d.manifest event = .ok mirror ∧ outcome = .ok event
        else mirror = s.mirror ∧ ∃ error, s.mirror.observe d.manifest event = .error error ∧
          outcome = .error error) ∧
      s.commit d env kind payload requestId monotonicNs =
        (Runtime.note { s with
          ledger := { s.ledger with events := s.ledger.events ++ [event] }
          mirror := mirror } (.committed event mirrored s.state.phase s.state.killEpoch),
          outcome)) := by
  unfold Runtime.commit
  cases happend : s.ledger.append d.ledgerConfig env.toClocks kind payload requestId monotonicNs
      env.fault with
  | error error => exact .inl ⟨error, rfl⟩
  | ok event =>
      cases hobserve : s.mirror.observe d.manifest event with
      | error error =>
          exact .inr ⟨event, false, .error error, s.mirror, rfl, ⟨rfl, error, hobserve, rfl⟩,
            by simp only [hobserve]⟩
      | ok mirror =>
          exact .inr ⟨event, true, .ok event, mirror, rfl, ⟨hobserve, rfl⟩,
            by simp only [hobserve]⟩

/-! ## The run state and its lock -/

/-- What the two releasing operations rely on. The code that reaches them has just
taken the lease under the same lock. -/
def LeaseHeld (s : Runtime P) : Op P → Prop
  | .rollback lease =>
      s.state.activeAuthorizations.lookup lease.authorizationId = some lease.reservedEgressBytes
  | .settle lease reserved egressBytes =>
      s.state.activeAuthorizations.lookup lease.authorizationId = some reserved ∧
        egressBytes ≤ reserved
  | _ => True

/-- While a thread holds the state lock, no other thread changes the run state. -/
theorem lock_exec {op : Op P} {r : op.Res} (h : exec d env t s op = some (s', r)) {u : ℕ}
    (hu : u ≠ t) (hlock : s.stateLock = some u) :
    s'.stateLock = some u ∧ s'.state = s.state := by
  have hnone : s.stateLock ≠ none := by rw [hlock]; exact Option.some_ne_none u
  have hother : s.stateLock ≠ some t := by
    rw [hlock]
    exact fun heq => hu (Option.some.inj heq)
  cases op
  case commit kind payload requestId ns =>
    simp only [exec, Option.some.injEq] at h
    rcases commit_cases d env s kind payload requestId ns with ⟨_, heq⟩ |
      ⟨_, _, _, _, -, -, heq⟩ <;>
    · rw [heq, Prod.mk.injEq] at h
      obtain ⟨rfl, -⟩ := h
      exact ⟨hlock, rfl⟩
  all_goals
    simp only [exec, onState_eq_some, Option.some.injEq, Prod.mk.injEq, hnone, hother, if_false,
      false_and, reduceCtorEq] at h
  all_goals try split at h
  all_goals try split at h
  all_goals try simp only [Option.some.injEq, Prod.mk.injEq, reduceCtorEq] at h
  all_goals (obtain ⟨rfl, -⟩ := h; exact ⟨hlock, rfl⟩)

theorem accounting_exec {op : Op P} {r : op.Res} (h : exec d env t s op = some (s', r))
    (hheld : LeaseHeld s op) (haccounting : RunState.Accounting s.state) :
    RunState.Accounting s'.state := by
  cases op
  case commit kind payload requestId ns =>
    simp only [exec, Option.some.injEq] at h
    rcases commit_cases d env s kind payload requestId ns with ⟨_, heq⟩ |
      ⟨_, _, _, _, -, -, heq⟩ <;>
    · rw [heq, Prod.mk.injEq] at h
      obtain ⟨rfl, -⟩ := h
      exact haccounting
  case reserve body nowNs bytes =>
    have hreserve := haccounting.reserve body nowNs bytes
    simp only [exec, Option.ite_none_right_eq_some] at h
    obtain ⟨-, h⟩ := h
    split at h <;>
    · rename_i heq
      rw [heq] at hreserve
      rw [Option.some.injEq, Prod.mk.injEq] at h
      obtain ⟨rfl, -⟩ := h
      exact hreserve
  case prepareFinish lease egressBytes =>
    simp only [exec, Option.ite_none_right_eq_some] at h
    obtain ⟨-, h⟩ := h
    rcases RunState.prepareFinish_cases s.state lease egressBytes with ⟨_, heq⟩ | ⟨_, heq⟩ |
      ⟨_, -, -, -, heq⟩ <;>
    · rw [heq] at h
      simp only [Option.some.injEq, Prod.mk.injEq] at h
      obtain ⟨rfl, -⟩ := h
      first | exact haccounting | exact haccounting.latchKillLocked
  all_goals
    simp only [exec, onState_eq_some, Option.some.injEq, Prod.mk.injEq,
      Option.ite_none_right_eq_some] at h
  all_goals try split at h
  all_goals try split at h
  all_goals try simp only [Option.some.injEq, Prod.mk.injEq] at h
  all_goals first | obtain ⟨rfl, -⟩ := h | obtain ⟨-, rfl, -⟩ := h
  case admitRaw => exact haccounting.admitRaw _ _
  case latchKill => exact haccounting.latchKillLocked
  case recordDecision => exact haccounting.recordDecision _
  case rollback => exact haccounting.rollback hheld
  case settle => exact haccounting.dropLease hheld.1 hheld.2 le_rfl
  case failFinish => exact haccounting.latchKillLocked
  case abort => exact haccounting.abortAuthorized _
  case markKilled => exact haccounting.markKilled
  case markCompleted => exact haccounting.markCompleted
  all_goals exact haccounting

theorem phaseMove_exec {op : Op P} {r : op.Res} (h : exec d env t s op = some (s', r)) :
    RunState.PhaseMove s.state.phase s'.state.phase := by
  cases op
  case commit kind payload requestId ns =>
    simp only [exec, Option.some.injEq] at h
    rcases commit_cases d env s kind payload requestId ns with ⟨_, heq⟩ |
      ⟨_, _, _, _, -, -, heq⟩ <;>
    · rw [heq, Prod.mk.injEq] at h
      obtain ⟨rfl, -⟩ := h
      exact .inl rfl
  case reserve body nowNs bytes =>
    have hreserve := RunState.phaseMove_reserve s.state body nowNs bytes
    simp only [exec, Option.ite_none_right_eq_some] at h
    obtain ⟨-, h⟩ := h
    split at h <;>
    · rename_i heq
      rw [heq] at hreserve
      rw [Option.some.injEq, Prod.mk.injEq] at h
      obtain ⟨rfl, -⟩ := h
      exact hreserve
  case prepareFinish lease egressBytes =>
    simp only [exec, Option.ite_none_right_eq_some] at h
    obtain ⟨-, h⟩ := h
    rcases RunState.prepareFinish_cases s.state lease egressBytes with ⟨_, heq⟩ | ⟨_, heq⟩ |
      ⟨_, -, -, -, heq⟩ <;>
    · rw [heq] at h
      simp only [Option.some.injEq, Prod.mk.injEq] at h
      obtain ⟨rfl, -⟩ := h
      first | exact .inl rfl | exact RunState.phaseMove_latchKillLocked _
  all_goals
    simp only [exec, onState_eq_some, Option.some.injEq, Prod.mk.injEq,
      Option.ite_none_right_eq_some] at h
  all_goals try split at h
  all_goals try split at h
  all_goals try simp only [Option.some.injEq, Prod.mk.injEq] at h
  all_goals first | obtain ⟨rfl, -⟩ := h | obtain ⟨-, rfl, -⟩ := h
  case admitRaw => exact RunState.phaseMove_admitRaw _ _ _
  case latchKill => exact RunState.phaseMove_latchKillLocked _
  case recordDecision => exact .inl (RunState.phase_recordDecision _ _).symm
  case rollback =>
    rw [RunState.phase_rollback]
    exact RunState.phaseMove_latchKillLocked _
  case failFinish => exact RunState.phaseMove_latchKillLocked _
  case abort => exact .inl (RunState.phase_abortAuthorized _ _).symm
  case markKilled => exact RunState.phaseMove_markKilled _
  case markCompleted => exact RunState.phaseMove_markCompleted _
  all_goals exact .inl rfl

/-- Being killed is final. -/
theorem killed_exec {op : Op P} {r : op.Res} (h : exec d env t s op = some (s', r))
    (hkilled : s.state.phase = .killed) : s'.state.phase = .killed := by
  rcases phaseMove_exec h with heq | ⟨heq, -⟩ | ⟨-, heq⟩ | ⟨heq, -⟩
  · rw [← heq, hkilled]
  · rw [hkilled] at heq
    cases heq
  · exact heq
  · rw [hkilled] at heq
    cases heq

/-- A run never returns to running. -/
theorem notRunning_exec {op : Op P} {r : op.Res} (h : exec d env t s op = some (s', r))
    (hphase : s.state.phase ≠ .running) : s'.state.phase ≠ .running := by
  rcases phaseMove_exec h with heq | ⟨heq, -⟩ | ⟨-, heq⟩ | ⟨heq, -⟩
  · rwa [← heq]
  · exact absurd heq hphase
  · rw [heq]
    decide
  · exact absurd heq hphase

/-- What a reservation that was granted leaves behind: the thread holds the state lock of a
running run, and the lease is active under the id of the decision. -/
structure Granted (t : ℕ) (body : DecisionBody) (lease : DispatchLease) (s : Runtime P) : Prop where
  locked : s.stateLock = some t
  running : s.state.phase = .running
  named : ∃ id, body.authorizationId = some id ∧ lease.authorizationId = id.1
  active : s.state.activeAuthorizations.lookup lease.authorizationId = some lease.reservedEgressBytes

theorem granted_of_reserve {body : DecisionBody} {nowNs bytes : ℤ} {lease : DispatchLease}
    (h : exec d env t s (.reserve body nowNs bytes) = some (s', .ok lease)) :
    Granted t body lease s' := by
  simp only [exec, Option.ite_none_right_eq_some] at h
  obtain ⟨-, h⟩ := h
  rcases RunState.reserve_cases s.state body nowNs bytes with ⟨_, heq⟩ | ⟨_, heq⟩ |
    ⟨id, expires, hphase, -, -, hid, -, -, -, -, -, heq⟩
  · rw [heq] at h
    cases h
  · rw [heq] at h
    cases h
  · rw [heq] at h
    simp only [Option.some.injEq, Prod.mk.injEq, Except.ok.injEq] at h
    obtain ⟨rfl, rfl⟩ := h
    exact ⟨rfl, hphase, ⟨id, hid, rfl⟩, AList.lookup_insert _⟩

end Containment
