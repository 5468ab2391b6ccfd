/-
# Run state

Bounded admission, one-use authorizations and egress reservations, all under one
lock. Two operations call back into evidence code while they hold it; each is
split at that call into the part before it and the two ways it can go on, so that
the concurrent model can put the evidence commit between them.

`Accounting` is the joint invariant of the counters. It holds at every such
split point too, which is why no later proof needs a weaker form of it.
-/

import Containment.Models.Decision
import Mathlib.Data.List.AList
import Mathlib.Data.Finset.Card
import Mathlib.Algebra.Order.BigOperators.Group.List
import Mathlib.Algebra.Order.Group.Int

namespace Containment

inductive RunPhase
  | running
  | killing
  | killed
  | completed
  deriving DecidableEq, Repr

inductive Admission
  | admitted
  | firstOverload
  | droppedAfterKill
  deriving DecidableEq, Repr

structure DispatchLease where
  authorizationId : String
  reservedEgressBytes : ℤ
  deriving DecidableEq, Repr

/-- Atomic authorization consumption and bounded admission counters. -/
structure RunState where
  criteria : KillCriteria
  phase : RunPhase
  killEpoch : ℤ
  consumedAuthorizations : Finset String
  windowStartedNs : Option ℤ
  windowCount : ℤ
  observed : ℤ
  admitted : ℤ
  allowed : ℤ
  denied : ℤ
  dispatched : ℤ
  completed : ℤ
  rejectedOverload : ℤ
  droppedAfterKill : ℤ
  egressBytes : ℤ
  reservedEgressBytes : ℤ
  inflight : ℤ
  activeAuthorizations : AList fun _ : String => ℤ

namespace RunState

def init (criteria : KillCriteria) : RunState where
  criteria := criteria
  phase := .running
  killEpoch := 0
  consumedAuthorizations := ∅
  windowStartedNs := none
  windowCount := 0
  observed := 0
  admitted := 0
  allowed := 0
  denied := 0
  dispatched := 0
  completed := 0
  rejectedOverload := 0
  droppedAfterKill := 0
  egressBytes := 0
  reservedEgressBytes := 0
  inflight := 0
  activeAuthorizations := ∅

/-- `_latch_kill_locked`. -/
def latchKillLocked (s : RunState) : RunState :=
  if s.phase = .running then { s with phase := .killing, killEpoch := s.killEpoch + 1 } else s

/-- Start a new rate window when there is none or the current one is over. -/
def openWindow (s : RunState) (nowNs : ℤ) : RunState :=
  let windowNs := s.criteria.rateWindowMs.1 * 1000000
  match s.windowStartedNs with
  | none => { s with windowStartedNs := some nowNs, windowCount := 0 }
  | some started =>
      if nowNs - started ≥ windowNs then
        { s with windowStartedNs := some nowNs, windowCount := 0 }
      else s

def wouldOverload (s : RunState) (rawBytes : ℤ) : Bool :=
  rawBytes > s.criteria.maxEventPayloadBytes.1 ||
    s.admitted ≥ s.criteria.maxAdmittedRequests.1 ||
    s.windowCount ≥ s.criteria.maxRequestsPerWindow.1 ||
    s.inflight ≥ s.criteria.maxInflightRequests.1

/-- `admit`: perform fixed-cost limits before parsing or hashing. -/
def admitRaw (s : RunState) (rawBytes nowNs : ℤ) : RunState × Admission :=
  let s := { s with observed := s.observed + 1 }
  if s.phase ≠ .running then
    ({ s with droppedAfterKill := s.droppedAfterKill + 1 }, .droppedAfterKill)
  else
    let s := s.openWindow nowNs
    if s.wouldOverload rawBytes then
      ({ s with rejectedOverload := s.rejectedOverload + 1 }.latchKillLocked, .firstOverload)
    else
      ({ s with windowCount := s.windowCount + 1, admitted := s.admitted + 1 }, .admitted)

/-- Atomically transition RUNNING to KILLING and advance the epoch. -/
def latchKill (s : RunState) : RunState × (Bool × ℤ × ℤ) :=
  let s' := s.latchKillLocked
  (s', s.phase = .running, s'.killEpoch, s'.inflight)

def recordDecision (s : RunState) (verdict : Verdict) : RunState :=
  if verdict = .allow then { s with allowed := s.allowed + 1 }
  else { s with denied := s.denied + 1 }

/-- `begin_authorized` up to the evidence callback: consume the authorization and
reserve its egress budget, or refuse. -/
def reserve (s : RunState) (body : DecisionBody) (nowNs reserveEgressBytes : ℤ) :
    RunState × Except PyError DispatchLease :=
  if s.phase ≠ .running then
    (s, .error (.permissionError "run is not dispatchable"))
  else if body.verdict ≠ .allow then
    (s, .error (.permissionError "decision is not an ALLOW capability"))
  else if body.killEpoch.1 ≠ s.killEpoch then
    (s, .error (.permissionError "authorization kill epoch is stale"))
  else if ¬ body.authorizationExpiresMonotonicNs.any fun expires => nowNs ≤ expires.1 then
    (s, .error (.permissionError "authorization expired"))
  else
    match body.authorizationId with
    | none => (s, .error (.permissionError "authorization ID is absent"))
    | some authorizationId =>
        if authorizationId.1 ∈ s.consumedAuthorizations then
          (s, .error (.permissionError "authorization was already consumed"))
        else if reserveEgressBytes ≤ 0 ∨
            s.egressBytes + s.reservedEgressBytes + reserveEgressBytes >
              s.criteria.maxTotalEgressBytes.1 then
          (s.latchKillLocked, .error (.permissionError "egress budget cannot be reserved"))
        else
          ({ s with
              consumedAuthorizations := insert authorizationId.1 s.consumedAuthorizations
              dispatched := s.dispatched + 1
              inflight := s.inflight + 1
              reservedEgressBytes := s.reservedEgressBytes + reserveEgressBytes
              activeAuthorizations :=
                s.activeAuthorizations.insert authorizationId.1 reserveEgressBytes },
            .ok ⟨authorizationId.1, reserveEgressBytes⟩)

/-- The `except` branch of `begin_authorized`: the evidence commit failed. -/
def rollback (s : RunState) (lease : DispatchLease) : RunState :=
  { s with
    activeAuthorizations := s.activeAuthorizations.erase lease.authorizationId
    reservedEgressBytes := s.reservedEgressBytes - lease.reservedEgressBytes
    inflight := s.inflight - 1 }.latchKillLocked

/-- The whole of `begin_authorized`, given how its evidence commit ends. -/
def beginAuthorized (s : RunState) (body : DecisionBody) (nowNs reserveEgressBytes : ℤ)
    (commitDispatch : Except PyError Unit) : RunState × Except PyError DispatchLease :=
  match s.reserve body nowNs reserveEgressBytes with
  | (s, .error error) => (s, .error error)
  | (s, .ok lease) =>
      match commitDispatch with
      | .ok () => (s, .ok lease)
      | .error error => (s.rollback lease, .error error)

/-- `finish_authorized` up to the evidence callback. -/
def prepareFinish (s : RunState) (lease : DispatchLease) (egressBytes : ℤ) :
    RunState × Except PyError ℤ :=
  match s.activeAuthorizations.lookup lease.authorizationId with
  | none => (s, .error (.runtimeError "dispatch lease is not active"))
  | some reserved =>
      if egressBytes < 0 ∨ egressBytes > reserved then
        (s.latchKillLocked, .error (.runtimeError "transport exceeded reserved egress bytes"))
      else (s, .ok reserved)

/-- The rest of `finish_authorized` after a successful evidence commit. -/
def settle (s : RunState) (lease : DispatchLease) (reserved egressBytes : ℤ) : RunState :=
  { s with
    activeAuthorizations := s.activeAuthorizations.erase lease.authorizationId
    reservedEgressBytes := s.reservedEgressBytes - reserved
    inflight := s.inflight - 1
    completed := s.completed + 1
    egressBytes := s.egressBytes + egressBytes }

/-- The whole of `finish_authorized`, given how its evidence commit ends. -/
def finishAuthorized (s : RunState) (lease : DispatchLease) (egressBytes : ℤ)
    (commitResult : Except PyError Unit) : RunState × Except PyError Unit :=
  match s.prepareFinish lease egressBytes with
  | (s, .error error) => (s, .error error)
  | (s, .ok reserved) =>
      match commitResult with
      | .ok () => (s.settle lease reserved egressBytes, .ok ())
      | .error error => (s.latchKillLocked, .error error)

def abortAuthorized (s : RunState) (lease : DispatchLease) : RunState :=
  match s.activeAuthorizations.lookup lease.authorizationId with
  | none => s
  | some reserved =>
      { s with
        activeAuthorizations := s.activeAuthorizations.erase lease.authorizationId
        reservedEgressBytes := s.reservedEgressBytes - reserved
        inflight := s.inflight - 1 }

def markKilled (s : RunState) : RunState × Except PyError Unit :=
  if s.phase ≠ .killing ∧ s.phase ≠ .killed then
    (s, .error (.runtimeError "cannot acknowledge kill before kill latch"))
  else
    ({ s with
        phase := .killed
        inflight := 0
        activeAuthorizations := ∅
        reservedEgressBytes := 0 }, .ok ())

def markCompleted (s : RunState) : RunState × Except PyError Unit :=
  if s.phase ≠ .running then
    (s, .error (.runtimeError "only a running run can complete"))
  else ({ s with phase := .completed }, .ok ())

/-! ## The sum of the active reservations -/

/-- The bytes reserved by all active leases. -/
def leaseTotal (active : AList fun _ : String => ℤ) : ℤ := (active.entries.map Sigma.snd).sum

theorem leaseTotal_insert {active : AList fun _ : String => ℤ} {id : String} (bytes : ℤ)
    (h : id ∉ active) : leaseTotal (active.insert id bytes) = bytes + leaseTotal active := by
  rw [leaseTotal, AList.entries_insert_of_notMem h, List.map_cons, List.sum_cons, leaseTotal]

theorem leaseTotal_erase {active : AList fun _ : String => ℤ} {id : String} {bytes : ℤ}
    (h : active.lookup id = some bytes) :
    leaseTotal active = bytes + leaseTotal (active.erase id) := by
  have hmem : id ∈ active := AList.lookup_isSome.mp (by rw [h]; rfl)
  obtain ⟨value, left, right, hfresh, hentries, herase⟩ := List.exists_of_kerase hmem
  have hvalue : value = bytes := by
    have hlookup : active.lookup id = some value := by
      rw [AList.lookup, hentries, List.dlookup_append,
        List.dlookup_eq_none.mpr hfresh, List.dlookup_cons_eq]
      rfl
    rw [h] at hlookup
    exact (Option.some.inj hlookup).symm
  subst hvalue
  have herased : (active.erase id).entries = left ++ right := herase
  rw [leaseTotal, leaseTotal, hentries, herased]
  simp only [List.map_append, List.map_cons, List.sum_append, List.sum_cons]
  omega

theorem length_keys_insert {active : AList fun _ : String => ℤ} {id : String} (bytes : ℤ)
    (h : id ∉ active) : (active.insert id bytes).keys.length = active.keys.length + 1 := by
  rw [AList.keys_insert, List.erase_of_not_mem h, List.length_cons]

theorem length_keys_erase {active : AList fun _ : String => ℤ} {id : String}
    (h : id ∈ active) : ((active.erase id).keys.length : ℤ) = active.keys.length - 1 := by
  rw [AList.keys_erase, List.length_erase_of_mem h]
  have : 0 < active.keys.length := List.length_pos_of_mem h
  omega

/-! ## The accounting invariant -/

/-- What every reachable run state satisfies. -/
structure Accounting (s : RunState) : Prop where
  inflight_eq : s.inflight = s.activeAuthorizations.keys.length
  reserved_eq : s.reservedEgressBytes = leaseTotal s.activeAuthorizations
  reserved_pos : ∀ id bytes, s.activeAuthorizations.lookup id = some bytes → 0 < bytes
  budget : s.egressBytes + s.reservedEgressBytes ≤ s.criteria.maxTotalEgressBytes.1
  active_consumed : ∀ id ∈ s.activeAuthorizations, id ∈ s.consumedAuthorizations
  dispatched_eq : s.dispatched = s.consumedAuthorizations.card
  completed_le : s.completed + s.inflight ≤ s.dispatched
  observed_eq : s.observed = s.admitted + s.rejectedOverload + s.droppedAfterKill
  admitted_le : s.admitted ≤ s.criteria.maxAdmittedRequests.1
  rejected_le : s.rejectedOverload ≤ 1
  rejected_running : s.phase = .running → s.rejectedOverload = 0
  epoch_eq : s.killEpoch = if s.phase = .killing ∨ s.phase = .killed then 1 else 0
  killed_empty : s.phase = .killed → s.activeAuthorizations = ∅

/-- The moves a run's phase can make. -/
def PhaseMove (before after : RunPhase) : Prop :=
  before = after ∨ (before = .running ∧ after = .killing) ∨
    (before = .killing ∧ after = .killed) ∨ (before = .running ∧ after = .completed)

theorem accounting_init (criteria : KillCriteria) : Accounting (init criteria) where
  inflight_eq := rfl
  reserved_eq := rfl
  reserved_pos := fun _ _ h => nomatch h
  budget := by
    have := criteria.maxTotalEgressBytes.le
    simp only [init]
    omega
  active_consumed := fun id h => absurd h (AList.notMem_empty id)
  dispatched_eq := rfl
  completed_le := le_refl _
  observed_eq := rfl
  admitted_le := by
    have := criteria.maxAdmittedRequests.le
    simp only [init]
    omega
  rejected_le := zero_le_one
  rejected_running := fun _ => rfl
  epoch_eq := rfl
  killed_empty := fun h => nomatch h

variable {s : RunState}

theorem phase_latchKillLocked (s : RunState) :
    s.latchKillLocked.phase = if s.phase = .running then .killing else s.phase := by
  unfold latchKillLocked
  split_ifs <;> rfl

theorem inflight_latchKillLocked (s : RunState) : s.latchKillLocked.inflight = s.inflight := by
  unfold latchKillLocked
  split_ifs <;> rfl

theorem active_latchKillLocked (s : RunState) :
    s.latchKillLocked.activeAuthorizations = s.activeAuthorizations := by
  unfold latchKillLocked
  split_ifs <;> rfl

theorem phaseMove_latchKillLocked (s : RunState) : PhaseMove s.phase s.latchKillLocked.phase := by
  unfold latchKillLocked
  split_ifs with h
  · exact .inr (.inl ⟨h, rfl⟩)
  · exact .inl rfl

theorem Accounting.latchKillLocked (h : Accounting s) : Accounting s.latchKillLocked := by
  unfold RunState.latchKillLocked
  split_ifs with hphase
  · exact { h with
      rejected_running := fun hrunning => nomatch hrunning
      epoch_eq := by simp [h.epoch_eq, hphase]
      killed_empty := fun hkilled => nomatch hkilled }
  · exact h

theorem openWindow_eq (s : RunState) (nowNs : ℤ) :
    ∃ started count, s.openWindow nowNs =
      { s with windowStartedNs := started, windowCount := count } := by
  unfold openWindow
  dsimp only
  split
  · exact ⟨_, _, rfl⟩
  · split_ifs
    · exact ⟨_, _, rfl⟩
    · exact ⟨s.windowStartedNs, s.windowCount, rfl⟩

/-- A rate window is outside the accounting. -/
theorem Accounting.window (h : Accounting s) (started : Option ℤ) (count : ℤ) :
    Accounting { s with windowStartedNs := started, windowCount := count } := { h with }

/-- One overload is counted only while running, and the same step latches. -/
theorem Accounting.overload (h : Accounting s) (hphase : s.phase = .running) :
    Accounting { s with observed := s.observed + 1
                        rejectedOverload := s.rejectedOverload + 1 }.latchKillLocked := by
  have hrejected := h.rejected_running hphase
  have hobserved := h.observed_eq
  rw [RunState.latchKillLocked, if_pos hphase]
  exact { h with
    observed_eq := by dsimp only; omega
    rejected_le := by dsimp only; omega
    rejected_running := fun hrunning => nomatch hrunning
    epoch_eq := by simp [h.epoch_eq, hphase]
    killed_empty := fun hkilled => nomatch hkilled }

theorem Accounting.admitRaw (h : Accounting s) (rawBytes nowNs : ℤ) :
    Accounting (s.admitRaw rawBytes nowNs).1 := by
  have hobserved := h.observed_eq
  unfold RunState.admitRaw
  dsimp only
  split_ifs with hphase hoverload
  · exact { h with observed_eq := by dsimp only; omega }
  · rw [not_not] at hphase
    obtain ⟨started, count, hwindow⟩ :=
      openWindow_eq { s with observed := s.observed + 1 } nowNs
    rw [hwindow]
    exact (h.window started count).overload hphase
  · obtain ⟨started, count, hwindow⟩ :=
      openWindow_eq { s with observed := s.observed + 1 } nowNs
    rw [hwindow] at hoverload ⊢
    simp only [wouldOverload, Bool.or_eq_true, decide_eq_true_eq, not_or, not_le] at hoverload
    have hadmitted := hoverload.1.1.2
    exact { h with
      observed_eq := by dsimp only; omega
      admitted_le := by dsimp only; omega }

theorem phaseMove_admitRaw (s : RunState) (rawBytes nowNs : ℤ) :
    PhaseMove s.phase (s.admitRaw rawBytes nowNs).1.phase := by
  unfold RunState.admitRaw
  dsimp only
  obtain ⟨started, count, hwindow⟩ := openWindow_eq { s with observed := s.observed + 1 } nowNs
  split_ifs with hphase hoverload
  · exact .inl rfl
  · rw [hwindow]
    exact phaseMove_latchKillLocked { s with
      observed := s.observed + 1
      windowStartedNs := started
      windowCount := count
      rejectedOverload := s.rejectedOverload + 1 }
  · rw [hwindow]
    exact .inl rfl

theorem Accounting.recordDecision (h : Accounting s) (verdict : Verdict) :
    Accounting (s.recordDecision verdict) := by
  unfold RunState.recordDecision
  split_ifs
  · exact { h with }
  · exact { h with }

theorem phase_recordDecision (s : RunState) (verdict : Verdict) :
    (s.recordDecision verdict).phase = s.phase := by
  unfold RunState.recordDecision
  split_ifs <;> rfl

/-- What a reservation can do: refuse and leave the state, refuse and latch, or
take a fresh authorization within the budget. -/
theorem reserve_cases (s : RunState) (body : DecisionBody) (nowNs bytes : ℤ) :
    (∃ error, s.reserve body nowNs bytes = (s, .error error)) ∨
    (∃ error, s.reserve body nowNs bytes = (s.latchKillLocked, .error error)) ∨
    (∃ id expires, s.phase = .running ∧ body.verdict = .allow ∧ body.killEpoch.1 = s.killEpoch ∧
      body.authorizationId = some id ∧ body.authorizationExpiresMonotonicNs = some expires ∧
      nowNs ≤ expires.1 ∧ id.1 ∉ s.consumedAuthorizations ∧ 0 < bytes ∧
      s.egressBytes + s.reservedEgressBytes + bytes ≤ s.criteria.maxTotalEgressBytes.1 ∧
      s.reserve body nowNs bytes =
        ({ s with
            consumedAuthorizations := insert id.1 s.consumedAuthorizations
            dispatched := s.dispatched + 1
            inflight := s.inflight + 1
            reservedEgressBytes := s.reservedEgressBytes + bytes
            activeAuthorizations := s.activeAuthorizations.insert id.1 bytes },
          .ok ⟨id.1, bytes⟩)) := by
  unfold RunState.reserve
  by_cases hphase : s.phase ≠ .running
  · exact .inl ⟨_, if_pos hphase⟩
  by_cases hverdict : body.verdict ≠ .allow
  · exact .inl ⟨_, by rw [if_neg hphase, if_pos hverdict]⟩
  by_cases hepoch : body.killEpoch.1 ≠ s.killEpoch
  · exact .inl ⟨_, by rw [if_neg hphase, if_neg hverdict, if_pos hepoch]⟩
  by_cases hexpiry : ¬ body.authorizationExpiresMonotonicNs.any fun expires => nowNs ≤ expires.1
  · exact .inl ⟨_, by rw [if_neg hphase, if_neg hverdict, if_neg hepoch, if_pos hexpiry]⟩
  rw [if_neg hphase, if_neg hverdict, if_neg hepoch, if_neg hexpiry]
  rw [not_not] at hphase hverdict hepoch hexpiry
  cases hid : body.authorizationId with
  | none => exact .inl ⟨_, rfl⟩
  | some id =>
      dsimp only
      split_ifs with hconsumed hbudget
      · exact .inl ⟨_, rfl⟩
      · exact .inr (.inl ⟨_, rfl⟩)
      · simp only [not_or, not_le, not_lt] at hbudget
        obtain ⟨expires, hexpires, hnow⟩ := Option.any_eq_true _ _ |>.mp hexpiry
        exact .inr (.inr ⟨id, expires, hphase, hverdict, hepoch, rfl, hexpires,
          of_decide_eq_true hnow, hconsumed, hbudget.1, hbudget.2, rfl⟩)

/-- A capability that passes every test is consumed. -/
theorem reserve_of_capability {body : DecisionBody} {nowNs bytes : ℤ}
    {id : OpaqueId} {expires : SafeNonNegativeInt} (hphase : s.phase = .running)
    (hverdict : body.verdict = .allow) (hepoch : body.killEpoch.1 = s.killEpoch)
    (hid : body.authorizationId = some id)
    (hexpires : body.authorizationExpiresMonotonicNs = some expires) (hlive : nowNs ≤ expires.1)
    (hfresh : id.1 ∉ s.consumedAuthorizations) (hpos : 0 < bytes)
    (hbudget : s.egressBytes + s.reservedEgressBytes + bytes ≤ s.criteria.maxTotalEgressBytes.1) :
    s.reserve body nowNs bytes = ({ s with
      consumedAuthorizations := insert id.1 s.consumedAuthorizations
      dispatched := s.dispatched + 1
      inflight := s.inflight + 1
      reservedEgressBytes := s.reservedEgressBytes + bytes
      activeAuthorizations := s.activeAuthorizations.insert id.1 bytes }, .ok ⟨id.1, bytes⟩) := by
  rw [RunState.reserve, if_neg (not_not.mpr hphase), if_neg (not_not.mpr hverdict),
    if_neg (not_not.mpr hepoch), if_neg, hid]
  · simp only [if_neg hfresh]
    rw [if_neg]
    omega
  · rw [hexpires, Option.any_some]
    simpa using hlive

theorem Accounting.reserve (h : Accounting s) (body : DecisionBody) (nowNs bytes : ℤ) :
    Accounting (s.reserve body nowNs bytes).1 := by
  rcases reserve_cases s body nowNs bytes with ⟨_, heq⟩ | ⟨_, heq⟩ |
    ⟨id, -, hphase, -, -, -, -, -, hfresh, hpos, hbudget, heq⟩
  · rw [heq]
    exact h
  · rw [heq]
    exact h.latchKillLocked
  · have hinactive : id.1 ∉ s.activeAuthorizations :=
      fun hmem => hfresh (h.active_consumed id.1 hmem)
    have hlen := length_keys_insert bytes hinactive
    have htotal := leaseTotal_insert bytes hinactive
    have hinflight := h.inflight_eq
    have hreserved := h.reserved_eq
    have hcompleted := h.completed_le
    rw [heq]
    exact { h with
      inflight_eq := by dsimp only; omega
      reserved_eq := by dsimp only; omega
      reserved_pos := fun id' bytes' hlookup => by
        by_cases hid : id' = id.1
        · subst hid
          rw [AList.lookup_insert, Option.some.injEq] at hlookup
          exact hlookup ▸ hpos
        · rw [AList.lookup_insert_ne hid] at hlookup
          exact h.reserved_pos id' bytes' hlookup
      budget := by dsimp only; omega
      active_consumed := fun id' hmem => by
        rcases (AList.mem_insert _).mp hmem with rfl | hmem
        · exact Finset.mem_insert_self _ _
        · exact Finset.mem_insert_of_mem (h.active_consumed id' hmem)
      dispatched_eq := by
        dsimp only
        rw [Finset.card_insert_of_notMem hfresh, h.dispatched_eq]
        push_cast
        rfl
      completed_le := by dsimp only; omega
      killed_empty := fun hkilled => by
        dsimp only at hkilled
        rw [hphase] at hkilled
        cases hkilled }

/-- Dropping a lease keeps the accounting, whatever becomes of its bytes. -/
theorem Accounting.dropLease (h : Accounting s) {id : String} {reserved used : ℤ} {finished : ℤ}
    (hactive : s.activeAuthorizations.lookup id = some reserved) (hused : used ≤ reserved)
    (hfinished : finished ≤ 1) :
    Accounting { s with
      activeAuthorizations := s.activeAuthorizations.erase id
      reservedEgressBytes := s.reservedEgressBytes - reserved
      inflight := s.inflight - 1
      completed := s.completed + finished
      egressBytes := s.egressBytes + used } := by
  have hmem : id ∈ s.activeAuthorizations := AList.lookup_isSome.mp (by rw [hactive]; rfl)
  have hlen := length_keys_erase hmem
  have htotal := leaseTotal_erase hactive
  have hinflight := h.inflight_eq
  have hreserved := h.reserved_eq
  have hcompleted := h.completed_le
  have hbudget := h.budget
  exact { h with
    inflight_eq := by dsimp only; omega
    reserved_eq := by dsimp only; omega
    reserved_pos := fun id' bytes' hlookup => by
      by_cases hid : id' = id
      · subst hid
        rw [AList.lookup_erase] at hlookup
        cases hlookup
      · rw [AList.lookup_erase_ne hid] at hlookup
        exact h.reserved_pos id' bytes' hlookup
    budget := by dsimp only; omega
    active_consumed := fun id' hmem' => h.active_consumed id' (AList.mem_erase.mp hmem').2
    completed_le := by dsimp only; omega
    killed_empty := fun hkilled => by
      rw [h.killed_empty hkilled] at hmem
      exact absurd hmem (AList.notMem_empty id) }

theorem Accounting.rollback (h : Accounting s) {lease : DispatchLease}
    (hactive : s.activeAuthorizations.lookup lease.authorizationId =
      some lease.reservedEgressBytes) : Accounting (s.rollback lease) := by
  have hpos := h.reserved_pos _ _ hactive
  have hdrop := h.dropLease hactive hpos.le (zero_le_one : (0 : ℤ) ≤ 1)
  simp only [add_zero] at hdrop
  exact hdrop.latchKillLocked

/-- A granted reservation is active until it is dropped. -/
theorem lookup_of_reserve {body : DecisionBody} {nowNs bytes : ℤ} {s' : RunState}
    {lease : DispatchLease} (h : s.reserve body nowNs bytes = (s', .ok lease)) :
    s'.activeAuthorizations.lookup lease.authorizationId = some lease.reservedEgressBytes := by
  rcases reserve_cases s body nowNs bytes with ⟨_, heq⟩ | ⟨_, heq⟩ |
    ⟨id, -, -, -, -, -, -, -, -, -, -, heq⟩
  · rw [heq] at h; cases h
  · rw [heq] at h; cases h
  · rw [heq] at h
    obtain ⟨rfl, hlease⟩ := Prod.mk.inj h
    rw [← Except.ok.inj hlease]
    exact AList.lookup_insert _

theorem phaseMove_reserve (s : RunState) (body : DecisionBody) (nowNs bytes : ℤ) :
    PhaseMove s.phase (s.reserve body nowNs bytes).1.phase := by
  rcases reserve_cases s body nowNs bytes with ⟨_, heq⟩ | ⟨_, heq⟩ |
    ⟨_, _, _, _, _, _, _, _, _, _, _, heq⟩
  · rw [heq]
    exact .inl rfl
  · rw [heq]
    exact phaseMove_latchKillLocked s
  · rw [heq]
    exact .inl rfl

theorem Accounting.beginAuthorized (h : Accounting s) (body : DecisionBody) (nowNs bytes : ℤ)
    (commit : Except PyError Unit) :
    Accounting (s.beginAuthorized body nowNs bytes commit).1 := by
  have hreserve := h.reserve body nowNs bytes
  unfold RunState.beginAuthorized
  split
  · rename_i s' error heq
    rwa [heq] at hreserve
  · rename_i s' lease heq
    have hactive := lookup_of_reserve heq
    rw [heq] at hreserve
    split
    · exact hreserve
    · exact hreserve.rollback hactive

theorem phase_rollback (s : RunState) (lease : DispatchLease) :
    (s.rollback lease).phase = s.latchKillLocked.phase := by
  unfold RunState.rollback RunState.latchKillLocked
  dsimp only
  split_ifs <;> rfl

theorem phaseMove_beginAuthorized (s : RunState) (body : DecisionBody) (nowNs bytes : ℤ)
    (commit : Except PyError Unit) :
    PhaseMove s.phase (s.beginAuthorized body nowNs bytes commit).1.phase := by
  unfold RunState.beginAuthorized
  rcases reserve_cases s body nowNs bytes with ⟨_, heq⟩ | ⟨_, heq⟩ |
    ⟨_, _, _, _, _, _, _, _, _, _, _, heq⟩
  · rw [heq]
    exact .inl rfl
  · rw [heq]
    exact phaseMove_latchKillLocked s
  · rw [heq]
    dsimp only
    split
    · exact .inl rfl
    · rw [phase_rollback, phase_latchKillLocked, ← phase_latchKillLocked s]
      exact phaseMove_latchKillLocked s

theorem prepareFinish_cases (s : RunState) (lease : DispatchLease) (egressBytes : ℤ) :
    (∃ error, s.prepareFinish lease egressBytes = (s, .error error)) ∨
    (∃ error, s.prepareFinish lease egressBytes = (s.latchKillLocked, .error error)) ∨
    (∃ reserved, s.activeAuthorizations.lookup lease.authorizationId = some reserved ∧
      0 ≤ egressBytes ∧ egressBytes ≤ reserved ∧
      s.prepareFinish lease egressBytes = (s, .ok reserved)) := by
  unfold RunState.prepareFinish
  split
  · exact .inl ⟨_, rfl⟩
  · rename_i reserved hlookup
    split_ifs with hbytes
    · exact .inr (.inl ⟨_, rfl⟩)
    · simp only [not_or, not_lt] at hbytes
      exact .inr (.inr ⟨reserved, hlookup, hbytes.1, hbytes.2, rfl⟩)

theorem Accounting.finishAuthorized (h : Accounting s) (lease : DispatchLease) (egressBytes : ℤ)
    (commit : Except PyError Unit) :
    Accounting (s.finishAuthorized lease egressBytes commit).1 := by
  unfold RunState.finishAuthorized
  rcases prepareFinish_cases s lease egressBytes with ⟨_, heq⟩ | ⟨_, heq⟩ |
    ⟨reserved, hlookup, -, hle, heq⟩
  · rw [heq]
    exact h
  · rw [heq]
    exact h.latchKillLocked
  · rw [heq]
    dsimp only
    split
    · exact h.dropLease hlookup hle le_rfl
    · exact h.latchKillLocked

theorem phaseMove_finishAuthorized (s : RunState) (lease : DispatchLease) (egressBytes : ℤ)
    (commit : Except PyError Unit) :
    PhaseMove s.phase (s.finishAuthorized lease egressBytes commit).1.phase := by
  unfold RunState.finishAuthorized
  rcases prepareFinish_cases s lease egressBytes with ⟨_, heq⟩ | ⟨_, heq⟩ | ⟨_, _, _, _, heq⟩
  · rw [heq]
    exact .inl rfl
  · rw [heq]
    exact phaseMove_latchKillLocked s
  · rw [heq]
    dsimp only
    split
    · exact .inl rfl
    · exact phaseMove_latchKillLocked s

theorem Accounting.abortAuthorized (h : Accounting s) (lease : DispatchLease) :
    Accounting (s.abortAuthorized lease) := by
  unfold RunState.abortAuthorized
  split
  · exact h
  · rename_i reserved hlookup
    have hpos := h.reserved_pos _ _ hlookup
    have hdrop := h.dropLease hlookup hpos.le (zero_le_one : (0 : ℤ) ≤ 1)
    simpa only [add_zero] using hdrop

theorem phase_abortAuthorized (s : RunState) (lease : DispatchLease) :
    (s.abortAuthorized lease).phase = s.phase := by
  unfold RunState.abortAuthorized
  split <;> rfl

theorem Accounting.markKilled (h : Accounting s) : Accounting s.markKilled.1 := by
  have hinflight := h.inflight_eq
  have hreserved := h.reserved_eq
  have hcompleted := h.completed_le
  have hbudget := h.budget
  have htotal : 0 ≤ leaseTotal s.activeAuthorizations := by
    apply List.sum_nonneg
    intro bytes hbytes
    obtain ⟨entry, hentry, rfl⟩ := List.mem_map.mp hbytes
    have hlookup : s.activeAuthorizations.lookup entry.1 = some entry.2 :=
      AList.mem_lookup_iff.mpr hentry
    exact (h.reserved_pos _ _ hlookup).le
  unfold RunState.markKilled
  split_ifs with hphase
  · exact h
  · exact { h with
      inflight_eq := rfl
      reserved_eq := rfl
      reserved_pos := fun _ _ hlookup => nomatch hlookup
      budget := by dsimp only; omega
      active_consumed := fun id hmem => absurd hmem (AList.notMem_empty id)
      completed_le := by dsimp only; omega
      rejected_running := fun hrunning => nomatch hrunning
      epoch_eq := by
        have hepoch := h.epoch_eq
        rw [if_pos (by tauto)] at hepoch
        simp [hepoch]
      killed_empty := fun _ => rfl }

theorem phaseMove_markKilled (s : RunState) : PhaseMove s.phase s.markKilled.1.phase := by
  unfold RunState.markKilled PhaseMove
  split_ifs with hphase
  · exact .inl rfl
  · cases hs : s.phase <;> simp_all

theorem Accounting.markCompleted (h : Accounting s) : Accounting s.markCompleted.1 := by
  unfold RunState.markCompleted
  split_ifs with hphase
  · exact h
  · rw [not_not] at hphase
    exact { h with
      rejected_running := fun hrunning => nomatch hrunning
      epoch_eq := by simp [h.epoch_eq, hphase]
      killed_empty := fun hkilled => nomatch hkilled }

theorem phaseMove_markCompleted (s : RunState) : PhaseMove s.phase s.markCompleted.1.phase := by
  unfold RunState.markCompleted
  split_ifs with hphase
  · exact .inl rfl
  · exact .inr (.inr (.inr ⟨not_not.mp hphase, rfl⟩))

/-! ## Whole runs -/

/-- One call of the run state with all its arguments, and how the evidence commit
it makes ends. -/
inductive Call
  | admitRaw (rawBytes nowNs : ℤ)
  | latchKill
  | recordDecision (verdict : Verdict)
  | beginAuthorized (body : DecisionBody) (nowNs reserveEgressBytes : ℤ)
      (commitDispatch : Except PyError Unit)
  | finishAuthorized (lease : DispatchLease) (egressBytes : ℤ)
      (commitResult : Except PyError Unit)
  | abortAuthorized (lease : DispatchLease)
  | markKilled
  | markCompleted

/-- The state after a call, whether it returned or raised. -/
def perform (s : RunState) : Call → RunState
  | .admitRaw rawBytes nowNs => (s.admitRaw rawBytes nowNs).1
  | .latchKill => s.latchKill.1
  | .recordDecision verdict => s.recordDecision verdict
  | .beginAuthorized body nowNs bytes commit => (s.beginAuthorized body nowNs bytes commit).1
  | .finishAuthorized lease bytes commit => (s.finishAuthorized lease bytes commit).1
  | .abortAuthorized lease => s.abortAuthorized lease
  | .markKilled => s.markKilled.1
  | .markCompleted => s.markCompleted.1

def run (criteria : KillCriteria) (calls : List Call) : RunState :=
  calls.foldl perform (init criteria)

theorem Accounting.perform (h : Accounting s) : ∀ call, Accounting (s.perform call)
  | .admitRaw rawBytes nowNs => h.admitRaw rawBytes nowNs
  | .latchKill => h.latchKillLocked
  | .recordDecision verdict => h.recordDecision verdict
  | .beginAuthorized body nowNs bytes commit => h.beginAuthorized body nowNs bytes commit
  | .finishAuthorized lease bytes commit => h.finishAuthorized lease bytes commit
  | .abortAuthorized lease => h.abortAuthorized lease
  | .markKilled => h.markKilled
  | .markCompleted => h.markCompleted

theorem phaseMove_perform (s : RunState) : ∀ call, PhaseMove s.phase (s.perform call).phase
  | .admitRaw rawBytes nowNs => phaseMove_admitRaw s rawBytes nowNs
  | .latchKill => phaseMove_latchKillLocked s
  | .recordDecision verdict => .inl (phase_recordDecision s verdict).symm
  | .beginAuthorized body nowNs bytes commit => phaseMove_beginAuthorized s body nowNs bytes commit
  | .finishAuthorized lease bytes commit => phaseMove_finishAuthorized s lease bytes commit
  | .abortAuthorized lease => .inl (phase_abortAuthorized s lease).symm
  | .markKilled => phaseMove_markKilled s
  | .markCompleted => phaseMove_markCompleted s

/-- Every sequence of calls, with any arguments and any commit outcomes, leaves
the accounts balanced, and each further call moves the phase along its one line. -/
theorem accounting_run (criteria : KillCriteria) (calls : List Call) :
    Accounting (run criteria calls) ∧
      ∀ call, PhaseMove (run criteria calls).phase (run criteria (calls ++ [call])).phase := by
  constructor
  · induction calls using List.reverseRecOn with
    | nil => exact accounting_init criteria
    | append_singleton calls call ih =>
        rw [run, List.foldl_append]
        exact ih.perform call
  · intro call
    rw [run, run, List.foldl_append]
    exact phaseMove_perform _ call

end RunState

end Containment
