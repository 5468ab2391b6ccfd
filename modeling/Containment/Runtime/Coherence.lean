/-
# The counters of a receipt are coherent

A receipt refuses counters that contradict each other, so a run whose counters did would
have no receipt. Most of the inequalities belong to the run state alone. Two of them join it
to the code: a decision is counted by a thread whose request was admitted, and an
authorization is consumed by a thread that holds a decision counted before.

Both are kept beside the runtime, as what each thread is still entitled to count and which
decisions have been counted as allowances.
-/

import Containment.Concurrency.Ghost
import Containment.Reference.Dispatching
import Containment.Runtime.Barrier
import Containment.Runtime.Payloads
import Containment.Runtime.SideCode

namespace Containment

open Json Concurrency Discipline

variable {P : Platform}

/-- What `receipt_is_coherent` asks of the counters. -/
structure RunState.Coherent (s : RunState) : Prop where
  admitted : s.admitted ≤ s.observed
  decided : s.allowed + s.denied ≤ s.admitted
  dispatched : s.dispatched ≤ s.allowed
  completed : s.completed ≤ s.dispatched
  refused : s.rejectedOverload + s.droppedAfterKill ≤ s.observed

/-- Concurrent calls of any kind, with any answers of the outside world. A dispatch is handed
a decision that the gateway has returned, possibly again. -/
def issuedDispatches (d : Deployment P) : RunRule (runtimeService d) where
  starts s call := ∀ action decision ns, call = .dispatch action decision ns →
    decision ∈ s.history.issued
  moves _ _ _ := True

/-! ## Entitlements -/

/-- What is known of the threads and of the counted decisions. -/
structure Credit where
  /-- Threads with an admitted request that has no counted decision. -/
  admitted : Finset ℕ
  /-- The decision each thread committed last. -/
  deciding : ℕ → Json
  /-- The decisions that were counted as allowances. -/
  counted : List Json

def Credit.start : Credit := ⟨∅, fun _ => .null, []⟩

def creditAfter (op : Op P) (t : ℕ) (s s' : Runtime P) (credit : Credit) : Credit :=
  match op with
  | .admitRaw .. =>
      if s'.state.admitted = s.state.admitted then credit
      else { credit with admitted := insert t credit.admitted }
  | .commit .decision payload _ _ =>
      { credit with deciding := Function.update credit.deciding t payload }
  | .recordDecision verdict =>
      { credit with
        admitted := credit.admitted.erase t
        counted := if verdict = .allow then credit.counted ++ [credit.deciding t]
          else credit.counted }
  | _ => credit

/-- The runtime beside the credit. -/
@[reducible]
def creditedService (d : Deployment P) : Service (Op P) Op.Res PyError :=
  (runtimeService d).ghost fun _ t op s s' credit => creditAfter op t s s' credit

def issuedCredited (d : Deployment P) : RunRule (creditedService d) where
  starts s := (issuedDispatches d).starts s.1
  moves _ _ _ := True

namespace Coherence

variable {d : Deployment P} {env : World} {t : ℕ} {s s' : Runtime P × Credit}

/-- The decision was counted as an allowance. -/
def Counted (decision : Decision P) (s : Runtime P × Credit) : Prop :=
  (Sealed.codec P decisionSealing).encode decision ∈ s.2.counted

/-- What holds at all times. -/
structure Inv (s : Runtime P × Credit) : Prop where
  admitted_nonneg : 0 ≤ s.1.state.admitted
  rejected_nonneg : 0 ≤ s.1.state.rejectedOverload
  dropped_nonneg : 0 ≤ s.1.state.droppedAfterKill
  decided : s.1.state.allowed + s.1.state.denied + s.2.admitted.card ≤ s.1.state.admitted
  counted : (s.2.counted.length : ℤ) ≤ s.1.state.allowed
  issued : ∀ decision ∈ s.1.history.issued, decision.body.verdict = .allow → Counted decision s
  consumed : ∀ id ∈ s.1.state.consumedAuthorizations, ∃ decision : Decision P,
    Counted decision s ∧ decision.body.authorizationId.map Subtype.val = some id

/-- What the code has established before an operation. -/
def Ready (t : ℕ) (s : Runtime P × Credit) : Op P → Prop
  | .recordDecision _ => t ∈ s.2.admitted
  | .reserve body _ _ => body.verdict = .allow →
      ∃ decision : Decision P, Counted decision s ∧ decision.body = body
  | _ => True

/-- What a waiting thread can count on. -/
structure Rely (t : ℕ) (s s' : Runtime P × Credit) : Prop where
  admitted : t ∈ s.2.admitted → t ∈ s'.2.admitted
  deciding : s'.2.deciding t = s.2.deciding t
  counted : ∀ payload ∈ s.2.counted, payload ∈ s'.2.counted

/-! ## What an operation does to the counters -/

/-- Operations that move no counter of the inequalities that join threads. -/
def Op.Free : Op P → Prop
  | .recordDecision _ | .reserve .. => False
  | _ => True

/-- The counters are as before. -/
structure Untouched (s s' : Runtime P) : Prop where
  admitted : s'.state.admitted = s.state.admitted
  rejected : s'.state.rejectedOverload = s.state.rejectedOverload
  dropped : s'.state.droppedAfterKill = s.state.droppedAfterKill
  allowed : s'.state.allowed = s.state.allowed
  denied : s'.state.denied = s.state.denied
  consumed : s'.state.consumedAuthorizations = s.state.consumedAuthorizations
  issued : s'.history.issued = s.history.issued

theorem Untouched.of_state {s s' : Runtime P} (hstate : s'.state = s.state)
    (hissued : s'.history.issued = s.history.issued) : Untouched s s' := by
  constructor <;> first | rw [hstate] | exact hissued

theorem Untouched.latched {s s' : Runtime P} (hstate : s'.state = s.state.latchKillLocked)
    (hissued : s'.history.issued = s.history.issued) : Untouched s s' := by
  unfold RunState.latchKillLocked at hstate
  split_ifs at hstate <;> constructor <;> first | rw [hstate] | exact hissued

theorem untouched_exec {op : Op P} {r : op.Res} {s s' : Runtime P} (hop : Op.Free op)
    (htaken : ∀ bytes ns, op ≠ .admitRaw bytes ns) (h : exec d env t s op = some (s', r)) :
    Untouched s s' := by
  cases op
  case commit kind payload requestId ns =>
    simp only [exec, Option.some.injEq] at h
    rcases commit_cases d env s kind payload requestId ns with ⟨_, heq⟩ |
      ⟨_, _, _, _, -, -, heq⟩ <;>
    · rw [heq, Prod.mk.injEq] at h
      obtain ⟨rfl, -⟩ := h
      exact .of_state rfl rfl
  case prepareFinish lease egressBytes =>
    simp only [exec, Option.ite_none_right_eq_some] at h
    obtain ⟨-, h⟩ := h
    rcases RunState.prepareFinish_cases s.state lease egressBytes with ⟨_, heq⟩ | ⟨_, heq⟩ |
      ⟨_, -, -, -, heq⟩ <;>
    · rw [heq] at h
      simp only [Option.some.injEq, Prod.mk.injEq] at h
      obtain ⟨rfl, -⟩ := h
      first | exact .of_state rfl rfl | exact .latched rfl rfl
  case admitRaw bytes ns => exact absurd rfl (htaken bytes ns)
  case recordDecision => exact absurd hop id
  case reserve => exact absurd hop id
  all_goals
    simp only [exec, onState_eq_some, Option.some.injEq, Prod.mk.injEq,
      Option.ite_none_right_eq_some] at h
  all_goals try split at h
  all_goals try split at h
  all_goals try simp only [Option.some.injEq, Prod.mk.injEq] at h
  all_goals first | obtain ⟨rfl, -⟩ := h | obtain ⟨-, rfl, -⟩ := h
  case latchKill => exact .latched rfl rfl
  case failFinish => exact .latched rfl rfl
  case rollback lease =>
    unfold RunState.rollback RunState.latchKillLocked
    split_ifs <;> exact ⟨rfl, rfl, rfl, rfl, rfl, rfl, rfl⟩
  case abort lease =>
    unfold RunState.abortAuthorized
    cases s.state.activeAuthorizations.lookup lease.authorizationId <;>
      exact ⟨rfl, rfl, rfl, rfl, rfl, rfl, rfl⟩
  case markKilled =>
    unfold RunState.markKilled
    split_ifs <;> exact ⟨rfl, rfl, rfl, rfl, rfl, rfl, rfl⟩
  case markCompleted =>
    unfold RunState.markCompleted
    split_ifs <;> exact ⟨rfl, rfl, rfl, rfl, rfl, rfl, rfl⟩
  all_goals exact ⟨rfl, rfl, rfl, rfl, rfl, rfl, rfl⟩

/-- The three ways an admission can go. -/
theorem admitRaw_cases (s : RunState) (bytes ns : ℤ) :
    (s.admitRaw bytes ns).1.allowed = s.allowed ∧ (s.admitRaw bytes ns).1.denied = s.denied ∧
      (s.admitRaw bytes ns).1.consumedAuthorizations = s.consumedAuthorizations ∧
      ∃ admitted rejected dropped : ℕ,
        (s.admitRaw bytes ns).1.admitted = s.admitted + admitted ∧
        (s.admitRaw bytes ns).1.rejectedOverload = s.rejectedOverload + rejected ∧
        (s.admitRaw bytes ns).1.droppedAfterKill = s.droppedAfterKill + dropped ∧
        admitted ≤ 1 ∧ ((s.admitRaw bytes ns).2 = .admitted → admitted = 1) := by
  unfold RunState.admitRaw
  dsimp only
  split_ifs with hphase hover
  · exact ⟨rfl, rfl, rfl, 0, 0, 1, by simp, by simp, rfl, by omega, fun h => nomatch h⟩
  · obtain ⟨window, count, hopen⟩ := RunState.openWindow_eq { s with observed := s.observed + 1 } ns
    unfold RunState.latchKillLocked
    rw [hopen]
    split_ifs <;>
      exact ⟨rfl, rfl, rfl, 0, 1, 0, by simp, rfl, by simp, by omega, fun h => nomatch h⟩
  · obtain ⟨window, count, hopen⟩ := RunState.openWindow_eq { s with observed := s.observed + 1 } ns
    rw [hopen]
    exact ⟨rfl, rfl, rfl, 1, 0, 0, rfl, by simp, by simp, by omega, fun _ => rfl⟩

theorem creditAfter_free {op : Op P} {s s' : Runtime P} {credit : Credit} (hop : Op.Free op)
    (htaken : ∀ bytes ns, op ≠ .admitRaw bytes ns) :
    (creditAfter op t s s' credit).admitted = credit.admitted ∧
      (creditAfter op t s s' credit).counted = credit.counted := by
  unfold creditAfter
  split
  · exact absurd rfl (htaken _ _)
  · exact ⟨rfl, rfl⟩
  · exact absurd hop id
  · exact ⟨rfl, rfl⟩

/-- Only a thread's own commits change what it is deciding. -/
theorem creditAfter_deciding {op : Op P} {s s' : Runtime P} {credit : Credit} {u : ℕ} (hu : u ≠ t) :
    (creditAfter op t s s' credit).deciding u = credit.deciding u := by
  unfold creditAfter
  split
  · split_ifs <;> rfl
  · exact Function.update_of_ne hu _ _
  · rfl
  · rfl

/-- What was counted stays counted. -/
theorem creditAfter_counted {op : Op P} {s s' : Runtime P} {credit : Credit} {payload : Json}
    (h : payload ∈ credit.counted) : payload ∈ (creditAfter op t s s' credit).counted := by
  unfold creditAfter
  split
  · split_ifs <;> exact h
  · exact h
  · dsimp only
    split_ifs
    · exact List.mem_append_left _ h
    · exact h
  · exact h

/-- Only counting uses up an entitlement. -/
theorem creditAfter_admitted {op : Op P} {s s' : Runtime P} {credit : Credit} {u : ℕ}
    (hu : u ≠ t ∨ Op.Free op) (h : u ∈ credit.admitted) :
    u ∈ (creditAfter op t s s' credit).admitted := by
  unfold creditAfter
  split
  · split_ifs
    · exact h
    · exact Finset.mem_insert_of_mem h
  · exact h
  · exact Finset.mem_erase.mpr ⟨hu.resolve_right id, h⟩
  · exact h

theorem Inv.untouched (h : Inv s) {s₁ : Runtime P} {credit : Credit} (hsame : Untouched s.1 s₁)
    (hadmitted : credit.admitted = s.2.admitted) (hcounted : credit.counted = s.2.counted) :
    Inv (s₁, credit) where
  admitted_nonneg := by
    rw [hsame.admitted]
    exact h.admitted_nonneg
  rejected_nonneg := by
    rw [hsame.rejected]
    exact h.rejected_nonneg
  dropped_nonneg := by
    rw [hsame.dropped]
    exact h.dropped_nonneg
  decided := by
    rw [hsame.allowed, hsame.denied, hsame.admitted, hadmitted]
    exact h.decided
  counted := by
    rw [hsame.allowed, hcounted]
    exact h.counted
  issued decision hissued hallow := by
    rw [hsame.issued] at hissued
    change _ ∈ credit.counted
    rw [hcounted]
    exact h.issued decision hissued hallow
  consumed id hid := by
    rw [hsame.consumed] at hid
    obtain ⟨decision, hcount, hauthorization⟩ := h.consumed id hid
    refine ⟨decision, ?_, hauthorization⟩
    change _ ∈ credit.counted
    rw [hcounted]
    exact hcount

theorem inv_admitRaw {bytes ns : ℤ} (h : Inv s) {s₁ : Runtime P} {r : Admission}
    (hexec : exec d env t s.1 (.admitRaw bytes ns) = some (s₁, r)) :
    Inv (s₁, creditAfter (.admitRaw bytes ns : Op P) t s.1 s₁ s.2) := by
  simp only [exec, onState_eq_some] at hexec
  obtain ⟨-, hs₁, -⟩ := hexec
  have hstate : s₁.state = (s.1.state.admitRaw bytes ns).1 := by rw [← hs₁]
  have hissued : s₁.history.issued = s.1.history.issued := by rw [← hs₁]
  obtain ⟨hallowed, hdenied, hconsumed, n, rejected, dropped, hadmitted, hrejected, hdropped, hle, -⟩ :=
    admitRaw_cases s.1.state bytes ns
  rw [← hstate] at hallowed hdenied hconsumed hadmitted hrejected hdropped
  have hpos := h.admitted_nonneg
  have hrejected_pos := h.rejected_nonneg
  have hdropped_pos := h.dropped_nonneg
  have hdecided := h.decided
  have hcard : ((creditAfter (.admitRaw bytes ns : Op P) t s.1 s₁ s.2).admitted.card : ℤ) ≤
      s.2.admitted.card + n := by
    unfold creditAfter
    dsimp only
    split_ifs with hsame
    · omega
    · have hinsert := Finset.card_insert_le t s.2.admitted
      dsimp only
      omega
  have hcounted : (creditAfter (.admitRaw bytes ns : Op P) t s.1 s₁ s.2).counted = s.2.counted := by
    unfold creditAfter
    split_ifs <;> rfl
  refine ⟨?_, ?_, ?_, ?_, ?_, ?_, ?_⟩
  · dsimp only
    omega
  · dsimp only
    omega
  · dsimp only
    omega
  · dsimp only
    rw [hallowed, hdenied, hadmitted]
    omega
  · dsimp only
    rw [hallowed, hcounted]
    exact h.counted
  · intro decision hmem hallow
    change _ ∈ Credit.counted _
    rw [hcounted]
    exact h.issued decision (hissued ▸ hmem) hallow
  · intro id hid
    dsimp only at hid
    rw [hconsumed] at hid
    obtain ⟨decision, hcount, hauthorization⟩ := h.consumed id hid
    refine ⟨decision, ?_, hauthorization⟩
    change _ ∈ Credit.counted _
    rw [hcounted]
    exact hcount

theorem inv_recordDecision {verdict : Verdict} (h : Inv s) (hready : t ∈ s.2.admitted)
    {s₁ : Runtime P} {r : Unit}
    (hexec : exec d env t s.1 (.recordDecision verdict) = some (s₁, r)) :
    Inv (s₁, creditAfter (.recordDecision verdict : Op P) t s.1 s₁ s.2) := by
  simp only [exec, onState_eq_some] at hexec
  obtain ⟨-, rfl, -⟩ := hexec
  have hdecided := h.decided
  have hcounted := h.counted
  have hcard : ((s.2.admitted.erase t).card : ℤ) = s.2.admitted.card - 1 := by
    rw [Finset.card_erase_of_mem hready, Nat.cast_sub (Finset.card_pos.mpr ⟨t, hready⟩), Nat.cast_one]
  -- Counting keeps what was counted before.
  have hmem {decision : Decision P} (hcount : Counted decision s) : Counted decision
      ((s.1, creditAfter (.recordDecision verdict : Op P) t s.1
        { s.1 with state := s.1.state.recordDecision verdict } s.2) : Runtime P × Credit) :=
    creditAfter_counted hcount
  have hconsumed : (s.1.state.recordDecision verdict).consumedAuthorizations =
      s.1.state.consumedAuthorizations := by
    unfold RunState.recordDecision
    split_ifs <;> rfl
  unfold RunState.recordDecision at *
  by_cases hallow : verdict = .allow
  · simp only [creditAfter, hallow, if_true] at hmem hconsumed ⊢
    refine ⟨h.admitted_nonneg, h.rejected_nonneg, h.dropped_nonneg, ?_, ?_, ?_, ?_⟩
    · dsimp only
      omega
    · dsimp only
      rw [List.length_append, List.length_singleton]
      omega
    · exact fun decision hissued hverdict => hmem (h.issued decision hissued hverdict)
    · intro id hid
      obtain ⟨decision, hcount, hauthorization⟩ := h.consumed id hid
      exact ⟨decision, hmem hcount, hauthorization⟩
  · simp only [creditAfter, hallow, if_false] at hmem hconsumed ⊢
    refine ⟨h.admitted_nonneg, h.rejected_nonneg, h.dropped_nonneg, ?_, hcounted, ?_, ?_⟩
    · dsimp only
      omega
    · exact fun decision hissued hverdict => hmem (h.issued decision hissued hverdict)
    · intro id hid
      obtain ⟨decision, hcount, hauthorization⟩ := h.consumed id hid
      exact ⟨decision, hmem hcount, hauthorization⟩

theorem inv_reserve {body : DecisionBody} {ns bytes : ℤ} (h : Inv s)
    (hready : Ready t s (.reserve body ns bytes)) {s₁ : Runtime P}
    {r : (Op.reserve body ns bytes : Op P).Res}
    (hexec : exec d env t s.1 (.reserve body ns bytes) = some (s₁, r)) : Inv (s₁, s.2) := by
  simp only [exec, Option.ite_none_right_eq_some] at hexec
  obtain ⟨-, hexec⟩ := hexec
  rcases RunState.reserve_cases s.1.state body ns bytes with ⟨_, heq⟩ | ⟨_, heq⟩ |
    ⟨id, _, -, hallow, -, hid, -, -, -, -, -, heq⟩
  · rw [heq, Option.some.injEq, Prod.mk.injEq] at hexec
    obtain ⟨rfl, -⟩ := hexec
    exact h.untouched (.of_state rfl rfl) rfl rfl
  · rw [heq, Option.some.injEq, Prod.mk.injEq] at hexec
    obtain ⟨rfl, -⟩ := hexec
    exact h.untouched (.latched rfl rfl) rfl rfl
  · rw [heq, Option.some.injEq, Prod.mk.injEq] at hexec
    obtain ⟨rfl, -⟩ := hexec
    refine ⟨h.admitted_nonneg, h.rejected_nonneg, h.dropped_nonneg, h.decided, h.counted, h.issued, ?_⟩
    intro other hother
    rcases Finset.mem_insert.mp hother with rfl | hother
    · obtain ⟨decision, hcount, hbody⟩ := hready hallow
      exact ⟨decision, hcount, by rw [hbody, hid]; rfl⟩
    · exact h.consumed other hother

theorem inv_exec {op : Op P} {r : op.Res} (h : Inv s) (hready : Ready t s op)
    (hexec : (creditedService d).exec env t s op = some (s', r)) : Inv s' := by
  obtain ⟨hdone, hcredit⟩ := ghost_exec.mp hexec
  obtain ⟨s₁, credit⟩ := s'
  dsimp only at hdone hcredit
  subst hcredit
  by_cases htaken : ∃ bytes ns, op = .admitRaw bytes ns
  · obtain ⟨bytes, ns, rfl⟩ := htaken
    exact inv_admitRaw h hdone
  simp only [not_exists] at htaken
  by_cases hop : Op.Free op
  · obtain ⟨hadmitted, hcounted⟩ := creditAfter_free (t := t) hop htaken
    exact h.untouched (untouched_exec hop htaken hdone) hadmitted hcounted
  · cases op
    case recordDecision verdict => exact inv_recordDecision h hready hdone
    case reserve body ns bytes => exact inv_reserve h hready hdone
    all_goals exact absurd trivial hop

theorem rely_exec {op : Op P} {r : op.Res}
    (hexec : (creditedService d).exec env t s op = some (s', r)) {u : ℕ} (hu : u ≠ t) :
    Rely u s s' := by
  obtain ⟨-, hcredit⟩ := ghost_exec.mp hexec
  refine ⟨fun hmem => ?_, ?_, fun payload hmem => ?_⟩
  · rw [hcredit]
    exact creditAfter_admitted (.inl hu) hmem
  · rw [hcredit]
    exact creditAfter_deciding hu
  · rw [hcredit]
    exact creditAfter_counted hmem

variable (d) in
def discipline : Discipline (issuedCredited d) where
  inv := Inv
  ready := Ready
  rely := Rely
  rely_refl _ _ := ⟨id, rfl, fun _ => id⟩
  rely_trans h h' := ⟨fun hmem => h'.admitted (h.admitted hmem), h'.deciding.trans h.deciding,
    fun payload hmem => h'.counted payload (h.counted payload hmem)⟩
  act_inv h hready _ hexec := inv_exec h hready hexec
  act_rely _ _ _ hexec _ hu := rely_exec hexec hu

/-! ## Submissions -/

theorem ready_of_free {op : Op P} (h : Op.Free op) : Ready t s op := by
  cases op <;> first | exact trivial | exact absurd h id

theorem free_of_aside {op : Op P} (h : op.Aside) : Op.Free op := by
  cases op <;> first | exact trivial | exact absurd h id

theorem free_of_side {op : Op P} (h : op.Side) : Op.Free op := by
  cases op <;> first | exact trivial | exact absurd h id

theorem free_event (kind : EventKind) (payload : Json) (requestId : Option String) (ns : Option ℤ)
    (_ : kind = .violation ∨ kind = .overloadSummary ∨ kind = .killAcknowledged) :
    Op.Free (.commit kind payload requestId ns : Op P) := trivial

/-- A counted decision stays counted. -/
theorem stable_counted (I : Prop) (decision : Decision P) :
    (discipline d).Stable fun s => I → Counted decision s where
  rely hrely h hI := hrely.counted _ (h hI)
  act {env t s op s' r} _ hexec h hI := by
    change _ ∈ s'.2.counted
    rw [(ghost_exec.mp hexec).2]
    exact creditAfter_counted (h hI)

theorem clean_of_free {α : Type} {p : Prog P α} (hp : p.All Op.Free) : (discipline d).Clean p :=
  fun _ _ => safe_of_all (K := fun _ => True) (fun _ _ => trivial) (fun hop _ _ => ready_of_free hop)
    (fun _ _ _ _ _ => trivial) hp trivial

theorem safe_admitted {α : Type} {p : Prog P α} (hp : p.All Op.Free) (h : t ∈ s.2.admitted) :
    (discipline d).Safe t (fun _ s => t ∈ s.2.admitted) p s :=
  safe_of_all (D := discipline d) (K := fun s => t ∈ s.2.admitted)
    (fun hrely hmem => Rely.admitted hrely hmem) (fun hop _ _ => ready_of_free hop)
    (fun hop _ hexec _ hmem => by
      rw [(ghost_exec.mp hexec).2]
      exact creditAfter_admitted (.inr hop) hmem) hp h

/-- A committed decision is the one the thread is deciding. -/
theorem safe_decisionCommit {payload : Json} {requestId : Option String} {ns : Option ℤ}
    (h : t ∈ s.2.admitted) :
    (discipline d).Safe t (fun outcome s => ∀ event, outcome = .ok event →
      t ∈ s.2.admitted ∧ s.2.deciding t = payload)
      (Gateway.commit .decision payload requestId ns) s := by
  refine safe_handle (safe_act fun s₁ hrely _ => ⟨trivial, fun env s₂ r _ hexec _ => ?_⟩)
  refine safe_ofExcept.mpr ?_
  cases r with
  | error error =>
      exact safe_seq (clean_of_free (all_emergencyIsolate fun _ => free_of_aside) t s₂)
        (fun _ _ _ event heq => nomatch heq) fun _ _ _ event heq => nomatch heq
  | ok event =>
      rintro _ ⟨⟩
      have hmem := Rely.admitted hrely h
      rw [(ghost_exec.mp hexec).2]
      exact ⟨hmem, Function.update_self _ _ _⟩

/-- What a submission returns is not counted only if it is no allowance. -/
def Returned (result : GatewayResult P) (s : Runtime P × Credit) : Prop :=
  ∀ decision, result.decision = some decision → decision.body.verdict = .allow → Counted decision s

theorem safe_decideAction (action : Action P) (admittedNs : ℤ) (h : t ∈ s.2.admitted) :
    (discipline d).Safe t (fun outcome s => ∀ result, outcome = .ok result → Returned result s)
      (Gateway.decideAction d action admittedNs) s := by
  -- Up to the decision nothing is counted.
  have hraised (error : PyError) (s : Runtime P × Credit) (_ : t ∈ s.2.admitted) :
      ∀ result, (.error error : Except PyError (GatewayResult P)) = .ok result → Returned result s :=
    fun _ heq => nomatch heq
  have hofExcept {α : Type} (outcome : Except PyError α) {s : Runtime P × Credit}
      (h : t ∈ s.2.admitted) :
      (discipline d).Safe t (fun _ s => t ∈ s.2.admitted) (.ofExcept outcome : Prog P α) s :=
    safe_ofExcept.mpr h
  have haside := fun (op : Op P) (h : op.Aside) => free_of_aside h
  refine safe_seq (hofExcept _ h) (fun sha s₁ h => ?_) hraised
  refine safe_seq (safe_admitted ?_ h) (fun request s₂ h => ?_) hraised
  · exact all_handle (all_raising (all_perform trivial)) fun _ =>
      all_bind (all_emergencyIsolate haside) fun _ => trivial
  refine safe_seq (safe_admitted (all_monotonicNow haside) h) (fun decidedNs s₃ h => ?_) hraised
  refine safe_seq (safe_admitted (all_wallNow haside) h) (fun wall s₄ h => ?_) hraised
  refine safe_seq (hofExcept _ h) (fun decidedAt s₅ h => ?_) hraised
  refine safe_seq (safe_admitted (all_perform trivial) h) (fun result s₆ h => ?_) hraised
  refine safe_seq (safe_admitted (all_latchOnKill haside _) h) (fun _ s₇ h => ?_) hraised
  refine safe_seq (safe_admitted (all_perform trivial) h) (fun epoch s₈ h => ?_) hraised
  refine safe_seq (safe_admitted (all_authorization haside d _ _) h) (fun capability s₉ h => ?_) hraised
  obtain ⟨authorizationId, expiresNs⟩ := capability
  dsimp only
  cases hdecision : Gateway.Deciding.decision d ⟨action, request, sha, decidedNs, decidedAt, result,
      epoch, authorizationId, expiresNs⟩ with
  | error error => exact fun _ heq => nomatch heq
  | ok decision =>
      rw [Program.ofExcept_ok, Program.ret_bind]
      refine safe_seq (safe_decisionCommit h) (fun event s₁₀ h => ?_) fun _ _ _ _ heq => nomatch heq
      obtain ⟨hmem, hdeciding⟩ := h event rfl
      have hverdict : decision.body.verdict = result.verdict := (policy_of_decision hdecision).1
      have hrecord : (discipline d).Safe t
          (fun _ s => decision.body.verdict = .allow → Counted decision s)
          (perform (.recordDecision result.verdict) : Prog P Unit) s₁₀ := by
        refine safe_act fun s₁₁ hrely _ => ⟨Rely.admitted hrely hmem, fun env s₁₂ _ _ hexec _ => ?_⟩
        intro hallow
        change _ ∈ s₁₂.2.counted
        rw [(ghost_exec.mp hexec).2]
        simp only [creditAfter, ← hverdict, hallow, if_true]
        rw [Rely.deciding hrely, hdeciding]
        exact List.mem_append_right _ (List.mem_singleton_self _)
      refine safe_seq hrecord (fun _ s₁₁ hcounted => ?_) fun _ _ _ _ heq => nomatch heq
      have hyields : (Gateway.conclude action sha result decision).Yields fun result =>
          result.decision = some decision := by
        unfold Gateway.conclude
        split_ifs
        · exact yields_bind fun _ => yields_bind fun _ => rfl
        · exact rfl
      have hclean := clean_of_free (d := d) (all_conclude haside free_event action sha result decision) t s₁₁
      refine safe_mono ?_ (safe_yields hyields (safe_stable (stable_counted _ decision) hclean hcounted))
      rintro outcome s ⟨⟨-, hcounted⟩, hvalue⟩ result rfl decision' hsome hallow
      obtain rfl : decision = decision' := Option.some.inj ((hvalue result rfl).symm.trans hsome)
      exact hcounted hallow

/-- Code that counts nothing and returns no decision. -/
theorem safe_refused {p : Prog P (GatewayResult P)} (hp : p.All Op.Free)
    (hyields : p.Yields fun result => result.decision = none) :
    (discipline d).Safe t (fun outcome s => ∀ result, outcome = .ok result → Returned result s) p s := by
  refine safe_mono ?_ (safe_yields hyields (clean_of_free hp t s))
  rintro outcome s ⟨-, hvalue⟩ result rfl decision hsome
  rw [hvalue result rfl] at hsome
  cases hsome

theorem yields_rejectLate (ns : ℤ) :
    (Gateway.rejectLate ns : Prog P _).Yields fun result => result.decision = none := by
  refine yields_bind fun _ => yields_bind fun _ => yields_bind fun _ => ?_
  rfl

theorem yields_rejectOverload (raw : Bytes) (ns : ℤ) :
    (Gateway.rejectOverload raw ns : Prog P _).Yields fun result => result.decision = none := by
  refine yields_bind fun _ => yields_bind fun _ => ?_
  rfl

theorem yields_rejectMalformed (raw : Bytes) (ns : ℤ) :
    (Gateway.rejectMalformed raw ns : Prog P _).Yields fun result => result.decision = none := by
  refine yields_bind fun _ => yields_bind fun _ => yields_bind fun _ => ?_
  rfl

/-- An admission entitles the thread to count one decision. -/
theorem admitted_of_admitRaw {s s' : Runtime P × Credit} {bytes ns : ℤ}
    (hexec : (creditedService d).exec env t s (.admitRaw bytes ns) = some (s', .admitted)) :
    t ∈ s'.2.admitted := by
  obtain ⟨hdone, hcredit⟩ := ghost_exec.mp hexec
  simp only [exec, onState_eq_some] at hdone
  obtain ⟨-, hs', hadmitted⟩ := hdone
  obtain ⟨-, -, -, n, -, -, hcount, -, -, -, hone⟩ := admitRaw_cases s.1.state bytes ns
  have hne : s'.1.state.admitted ≠ s.1.state.admitted := by
    rw [← hs']
    dsimp only
    rw [hcount, hone hadmitted]
    omega
  rw [hcredit]
  simp only [creditAfter, hne, if_false]
  exact Finset.mem_insert_self _ _

theorem safe_submitRaw (raw : Bytes) :
    (discipline d).Safe t (fun outcome s => ∀ result, outcome = .ok result → Returned result s)
      (Gateway.submitRaw d raw) s := by
  have haside := fun (op : Op P) (h : op.Aside) => free_of_aside h
  refine safe_seq (clean_of_free (all_monotonicNow haside) t s) (fun admittedNs s₁ _ => ?_)
    fun _ _ _ _ heq => nomatch heq
  split_ifs
  · exact safe_refused (all_rejectLate haside free_event _) (yields_rejectLate _)
  refine safe_act fun s₂ _ _ => ⟨trivial, fun env s₃ admission _ hexec _ => ?_⟩
  cases admission with
  | droppedAfterKill => exact safe_refused trivial rfl
  | firstOverload =>
      exact safe_refused (all_rejectOverload haside free_event _ _) (yields_rejectOverload _ _)
  | admitted =>
      dsimp only
      cases Action.fromWire P raw with
      | error _ =>
          exact safe_refused (all_rejectMalformed haside free_event _ _) (yields_rejectMalformed _ _)
      | ok action => exact safe_decideAction action admittedNs (admitted_of_admitRaw hexec)

/-! ## Dispatches -/

/-- A dispatch reserves for its own decision, beside operations that count nothing. -/
theorem all_dispatch_reserve {ok : Op P → Prop} (hfree : ∀ op : Op P, Op.Free op → ok op)
    (action : Action P) (decision : Decision P) (nowNs : ℤ)
    (hreserve : ∀ ns bytes, ok (.reserve decision.body ns bytes)) :
    (Executor.dispatch d action decision nowNs).All ok := by
  have hside {α : Type} {p : Prog P α} (hp : p.All Op.Side) : p.All ok :=
    all_mono (fun _ hop => hfree _ (free_of_side hop)) hp
  refine all_bind (all_ofExcept _) fun _ => all_bind (all_ofExcept _) fun _ => ?_
  refine all_bind (all_ofExcept _) fun rule => ?_
  cases decision.body.authorizationId with
  | none => exact trivial
  | some id =>
      refine all_bind (all_raising (all_perform (hfree _ trivial))) fun _ => ?_
      refine all_finalize (all_bind (all_attempt ?_) fun outcome => ?_) (all_perform (hfree _ trivial))
      · refine all_bind (all_raising (all_perform (hreserve _ _))) fun lease => ?_
        refine all_bind (all_attempt (all_bind (all_ofExcept _) fun sha => ?_)) fun outcome => ?_
        · exact all_raising (all_perform (hfree _ trivial))
        · cases outcome with
          | ok event => exact all_bind (all_perform (hfree _ trivial)) fun _ => trivial
          | error error => exact all_bind (all_perform (hfree _ trivial)) fun _ => trivial
      · cases outcome with
        | error error => exact hside (side_failed _ _ _ _)
        | ok lease =>
            refine all_handle ?_ fun error => hside (side_failed _ _ _ _)
            refine all_bind (all_raising (all_perform (hfree _ trivial))) fun secret => ?_
            refine all_bind (all_raising (all_perform (hfree _ trivial))) fun result => ?_
            refine all_bind (all_ofExcept _) fun _ => all_bind ?_ fun _ => trivial
            refine all_bind (all_raising (all_perform (hfree _ trivial))) fun reserved => ?_
            refine all_bind (all_attempt (all_bind (all_ofExcept _) fun sha => ?_)) fun outcome => ?_
            · exact all_raising (all_perform (hfree _ trivial))
            · cases outcome with
              | ok event => exact all_perform (hfree _ trivial)
              | error error => exact all_bind (all_perform (hfree _ trivial)) fun _ => trivial

/-- The operations of a dispatch of the decision. -/
def Op.Reserving (decision : Decision P) : Op P → Prop
  | .reserve body _ _ => body = decision.body
  | op => Op.Free op

theorem safe_dispatch (action : Action P) (decision : Decision P) (nowNs : ℤ)
    (h : decision.body.verdict = .allow → Counted decision s) :
    (discipline d).Safe t (fun _ _ => True) (Executor.dispatch d action decision nowNs) s := by
  have hstable := stable_counted (d := d) (decision.body.verdict = .allow) decision
  have hall : (Executor.dispatch d action decision nowNs).All (Op.Reserving decision) := by
    refine all_dispatch_reserve (fun op hop => ?_) action decision nowNs fun _ _ => rfl
    cases op <;> first | exact trivial | exact absurd hop id
  refine safe_mono (fun _ _ _ => trivial) (safe_of_all (fun hrely h => hstable.rely hrely h) ?_
    (fun _ hmove hexec _ h => hstable.act hmove hexec h) hall h)
  intro s op hop _ hcounted
  cases op with
  | reserve body ns bytes =>
      intro hallow
      rw [show body = decision.body from hop] at hallow ⊢
      exact ⟨decision, hcounted hallow, rfl⟩
  | recordDecision verdict => exact absurd hop id
  | _ => exact trivial

/-! ## All calls -/

/-- What a call hands to the environment. -/
def Done (_ : Call P) (outcome : Except PyError (Reply P)) (s : Runtime P × Credit) : Prop :=
  ∀ result, outcome = .ok (.submitted result) → Returned result s

/-- Calls that count nothing and submit nothing. -/
theorem safe_unsubmitted {α : Type} {p : Prog P α} {reply : α → Reply P} {call : Call P}
    (hreply : ∀ value result, reply value ≠ .submitted result)
    (hp : (discipline d).Safe t (fun _ _ => True) p s) :
    (discipline d).Safe t (Done call) (reply <$> p) s :=
  safe_seq hp (fun value _ _ result heq => absurd (Except.ok.inj heq) (hreply value result))
    fun _ _ _ _ heq => nomatch heq

theorem safe_call (call : Call P) (h : Inv s) (hstart : (issuedDispatches d).starts s.1 call) :
    (discipline d).Safe t (Done call) (body d call) s := by
  have hside {α : Type} {p : Prog P α} (hp : p.All Op.Side) :
      (discipline d).Safe t (fun _ _ => True) p s :=
    clean_of_free (all_mono (fun _ hop => free_of_side hop) hp) t s
  cases call with
  | submitRaw raw =>
      refine safe_seq (safe_submitRaw raw) (fun result s₁ hreturned => ?_) fun _ _ _ _ heq => nomatch heq
      rintro _ ⟨⟩
      exact hreturned result rfl
  | dispatch action decision nowNs =>
      refine safe_unsubmitted (fun _ _ => nofun) (safe_dispatch action decision nowNs fun hallow => ?_)
      exact h.issued decision (hstart action decision nowNs rfl) hallow
  | failClosed reason requestId =>
      exact safe_unsubmitted (fun _ _ => nofun) (hside (side_failClosed reason requestId))
  | enforceRuntimeDeadline ns =>
      exact safe_unsubmitted (fun _ _ => nofun) (hside (side_enforceRuntimeDeadline d ns))
  | contain trigger ns => exact safe_unsubmitted (fun _ _ => nofun) (hside (side_contain trigger ns))
  | emergencyIsolate => exact safe_unsubmitted (fun _ _ => nofun) (hside side_emergencyIsolate)
  | complete => exact safe_unsubmitted (fun _ _ => nofun) (hside (side_complete d))
  | receipt status => exact safe_unsubmitted (fun _ _ => nofun) (hside (side_receipt d status))

theorem inv_retire (h : Inv s) {call : Call P} {outcome : Except PyError (Reply P)}
    (hdone : Done call outcome s) : Inv (retire call outcome s.1, s.2) := by
  unfold retire
  split
  · rename_i decision
    refine ⟨h.admitted_nonneg, h.rejected_nonneg, h.dropped_nonneg, h.decided, h.counted, ?_, h.consumed⟩
    intro issued hissued hallow
    rcases List.mem_append.mp hissued with hissued | hissued
    · exact h.issued issued hissued hallow
    · obtain rfl := List.mem_singleton.mp hissued
      exact hdone _ rfl issued rfl hallow
  · exact h

theorem covers : (discipline d).Covers Done where
  stable hrely h result heq decision hsome hallow :=
    hrely.counted _ (h result heq decision hsome hallow)
  calls _ call _ h hstart := safe_call call h hstart
  retire_inv h hdone := inv_retire h hdone
  retire_rely _ _ _ := ⟨id, rfl, fun _ => id⟩

theorem inv_init (witness : TransparencyWitness P) : Inv (Runtime.init d witness, Credit.start) where
  admitted_nonneg := le_rfl
  rejected_nonneg := le_rfl
  dropped_nonneg := le_rfl
  decided := le_rfl
  counted := le_rfl
  issued _ h := nomatch h
  consumed _ h := absurd h (Finset.notMem_empty _)

/-- The authorization that an encoded decision grants. -/
def authorizationOf (P : Platform) (payload : Json) : Option String :=
  match (Sealed.codec P decisionSealing).decode payload.orderForJcs with
  | .ok decision => decision.body.authorizationId.map Subtype.val
  | .error _ => none

theorem authorizationOf_encode (decision : Decision P) :
    authorizationOf P ((Sealed.codec P decisionSealing).encode decision) =
      decision.body.authorizationId.map Subtype.val := by
  rw [authorizationOf, (Sealed.codec P decisionSealing).decode_encode]

/-- No more authorizations are consumed than decisions counted as allowances. -/
theorem card_consumed_le (h : Inv s) :
    s.1.state.consumedAuthorizations.card ≤ s.2.counted.length := by
  have hsubset : s.1.state.consumedAuthorizations ⊆
      (s.2.counted.filterMap (authorizationOf P)).toFinset := by
    intro id hid
    obtain ⟨decision, hcounted, hauthorization⟩ := h.consumed id hid
    refine List.mem_toFinset.mpr (List.mem_filterMap.mpr ⟨_, hcounted, ?_⟩)
    rw [authorizationOf_encode, hauthorization]
  calc s.1.state.consumedAuthorizations.card
      ≤ (s.2.counted.filterMap (authorizationOf P)).toFinset.card := Finset.card_le_card hsubset
    _ ≤ (s.2.counted.filterMap (authorizationOf P)).length := List.toFinset_card_le _
    _ ≤ s.2.counted.length := List.length_filterMap_le _ _

end Coherence

/-- In every interleaving of any calls in which dispatches are handed decisions that the
gateway has returned, the counters are coherent. -/
theorem coherent_of_reachable (P : Platform) (d : Deployment P) (witness : TransparencyWitness P)
    (c : Config (runtimeService d))
    (h : Reachable (issuedDispatches d) (Runtime.init d witness) c) : c.shared.state.Coherent := by
  have haccounting : RunState.Accounting c.shared.state :=
    accounting_of_reachable (h.mono (fun _ _ _ => trivial) fun _ _ _ _ => trivial)
  obtain ⟨credit, hcredited⟩ : ∃ credit, Reachable (issuedCredited d)
      (Runtime.init d witness, Credit.start) (Config.beside c credit) :=
    steps_ghost (fun _ _ _ hstart => hstart) (fun _ _ _ _ _ => trivial) h _
  have hinv := invariant_of_reachable Coherence.covers (Coherence.inv_init witness) hcredited
  have hcard := Coherence.card_consumed_le hinv
  obtain ⟨hadmitted, hrejected, hdropped, hdecided, hcounted, -, -⟩ := hinv
  dsimp only [Config.beside] at *
  have hobserved := haccounting.observed_eq
  have hdispatched := haccounting.dispatched_eq
  have hcompleted := haccounting.completed_le
  have hinflight := haccounting.inflight_eq
  constructor <;> omega

open Reference in
/-- The theorem when a request of the reference deployment has been allowed and is being
dispatched. -/
theorem coherent_dispatched : ∃ (manifest : Manifest platform)
    (c : Config (runtimeService (deployment manifest))),
    Reachable (issuedDispatches (deployment manifest))
      (Runtime.init (deployment manifest) Reference.witness) c ∧
    (∃ event ∈ c.shared.ledger.events, event.body.kind = .dispatch) ∧ c.shared.state.Coherent := by
  obtain ⟨manifest, hm⟩ := exists_signed
  obtain ⟨raw, hwire, hraw⟩ := exists_wire
  obtain ⟨s', request, decided, decision, digest, hends, hdecided⟩ :=
    exists_submitRaw (issuedDispatches (deployment manifest)) 0 ⟨2000, by decide⟩
      ⟨1000002000, by decide⟩ hm (fun _ _ _ _ _ => trivial) (healthy_init manifest 2000) (by decide)
      (roomy_init hm) (show 0 < 800 by decide) ⟨by decide, by decide⟩ rfl hwire hraw
  have hsubmit : (issuedDispatches (deployment manifest)).starts
      (Runtime.init (deployment manifest) Reference.witness) (.submitRaw raw) :=
    fun _ _ _ heq => nomatch heq
  obtain ⟨s₀, history, hs₀, hissued, hcall⟩ : ∃ s₀ history,
      s₀ = { counted s' with history := history } ∧ decision ∈ history.issued ∧
      CallStep (issuedDispatches (deployment manifest))
        (Runtime.init (deployment manifest) Reference.witness) s₀ :=
    ⟨_, _, rfl, List.mem_append_right _ (List.mem_singleton_self _),
      .call 0 (Call.submitRaw raw) _ hsubmit hends⟩
  obtain ⟨hroomy, hhealthy, hinflight, hconsumed⟩ := hdecided.dispatchable hm (le_refl 2000) hs₀
  obtain ⟨s₁, dispatched, code, hruns, hevents, hdispatched, -⟩ := exists_dispatched
    (issuedDispatches (deployment manifest)) 0 ⟨2000, by decide⟩
    (show (2000 : ℤ) ≤ (⟨1000002000, by decide⟩ : SafeNonNegativeInt).1 by decide) hm hdecided
    (fun _ _ _ _ => trivial) hroomy hhealthy hinflight hconsumed
  have hstart : (issuedDispatches (deployment manifest)).starts s₀ (.dispatch action decision 2000) := by
    rintro _ _ _ ⟨⟩
    rw [hs₀]
    exact hissued
  have hreach := (reachable_of_sequence (.single hcall)).trans
    (steps_call (t := 0) rfl hstart (Runs.bind hruns))
  refine ⟨manifest, _, hreach, ⟨dispatched, ?_, hdispatched⟩, coherent_of_reachable _ _ _ _ hreach⟩
  change dispatched ∈ s₁.ledger.events
  rw [hevents]
  exact List.mem_append_right _ (List.mem_singleton_self _)

end Containment
