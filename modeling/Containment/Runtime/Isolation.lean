/-
# The run is contained once

Containment and emergency isolation share one lock, one isolation result and one
acknowledgement. The isolation backend and the commit of the acknowledgement may fail
whenever they are asked, and a later call tries again. Whatever fails and in whatever order
the calls run, the backend returns normally at most once, the run is killed only after that,
and one acknowledgement at most is ever observed by the mirror.

The acknowledgement is set before its commit and taken back when the commit fails. Nobody
sees it in between, because the calls that return it read it under the lock.
-/

import Containment.Concurrency.Ghost
import Containment.Reference.Factory
import Containment.Runtime.Calls
import Containment.Runtime.Outage

namespace Containment

open Json Concurrency Discipline

variable {P : Platform}

/-! ## Isolations and observed acknowledgements -/

/-- How often the isolation backend has returned normally. It is asked only while there is
no result. -/
def isolationsAfter (env : World) (op : Op P) (s : Runtime P) (isolations : ℕ) : ℕ :=
  match op, s.isolationResult, env.isolation with
  | .isolate, none, .ok _ => isolations + 1
  | _, _, _ => isolations

/-- The runtime beside the number of isolations. -/
@[reducible]
def isolatedService (d : Deployment P) : Service (Op P) Op.Res PyError :=
  (runtimeService d).ghost fun env _ op s _ isolations => isolationsAfter env op s isolations

/-- Concurrent calls of any kind, with any answers of the outside world. -/
def anyCalls (d : Deployment P) : RunRule (isolatedService d) where
  starts _ _ := True
  moves _ _ _ := True

def Entry.acknowledgement? : Entry P → Option (Event P)
  | .committed event true _ _ => if event.body.kind = .killAcknowledged then some event else none
  | _ => none

/-- The KILL_ACKNOWLEDGED events that the mirror has observed. -/
def Runtime.observedAcks (s : Runtime P) : List (Event P) :=
  s.history.log.filterMap Entry.acknowledgement?

/-- What a reachable configuration shows of the containment. -/
structure ContainedOnce {d : Deployment P} (c : Config (isolatedService d)) : Prop where
  isolations : c.shared.2 ≤ 1
  killed : c.shared.1.state.phase = .killed → c.shared.2 = 1
  observed : c.shared.1.observedAcks.length ≤ 1
  /-- The backend is asked by the holder of the containment lock only. -/
  exclusive : ∀ t call next, c.running t = some (call, .act .isolate next) →
    c.shared.1.containLock = some t
  /-- A containment that returns later returns the same acknowledgement. -/
  same : ∀ c', Relation.ReflTransGen (Step (anyCalls d)) c c' →
    ∀ t trigger ns ack u trigger' ns' ack',
      c.running t = some (.contain trigger ns, .ret (.acknowledged ack)) →
      c'.running u = some (.contain trigger' ns', .ret (.acknowledged ack')) → ack' = ack

namespace Isolation

variable {d : Deployment P} {env : World} {t : ℕ} {s s' : Runtime P × ℕ}

/-- The acknowledgement is final. -/
structure Settled (ack : KillAcknowledgement P) (s : Runtime P × ℕ) : Prop where
  set : s.1.killAcknowledgement = some ack
  observed : s.1.observedAcks ≠ []

/-- What holds at all times. -/
structure Inv (s : Runtime P × ℕ) : Prop where
  isolations : s.2 = if s.1.isolationResult.isSome then 1 else 0
  killed : s.1.state.phase = .killed → s.1.isolationResult.isSome
  once : s.1.observedAcks.length ≤ 1
  acknowledged : s.1.killAcknowledgement = none → s.1.observedAcks = []
  free : s.1.containLock = none → s.1.killAcknowledgement ≠ none → s.1.observedAcks ≠ []

/-- What the code has established before an operation. -/
def Ready (t : ℕ) (s : Runtime P × ℕ) : Op P → Prop
  | .commit kind _ _ _ => kind = .killAcknowledged →
      s.1.containLock = some t ∧ s.1.killAcknowledgement ≠ none ∧ s.1.observedAcks = []
  | .isolate => s.1.containLock = some t
  | .markKilled => s.1.isolationResult.isSome
  | .acknowledge _ => s.1.containLock = some t ∧ s.1.killAcknowledgement = none
  | .dropAcknowledgement => s.1.containLock = some t ∧ s.1.observedAcks = []
  | .releaseContain => s.1.killAcknowledgement ≠ none → s.1.observedAcks ≠ []
  | _ => True

/-- What a waiting thread can count on. -/
structure Rely (t : ℕ) (s s' : Runtime P × ℕ) : Prop where
  locked : s.1.containLock = some t → s'.1.containLock = some t ∧
    s'.1.killAcknowledgement = s.1.killAcknowledgement ∧ s'.1.observedAcks = s.1.observedAcks
  isolated : s.1.isolationResult.isSome → s'.1.isolationResult.isSome
  settled : ∀ {ack}, Settled ack s → Settled ack s'

/-! ## What an operation does to the containment -/

/-- Operations outside the containment. -/
def Op.Outside : Op P → Prop
  | .commit .. | .isolate | .markKilled | .acknowledge _ | .dropAcknowledgement
  | .acquireContain | .releaseContain => False
  | _ => True

/-- The containment is as before. -/
structure Untouched (s s' : Runtime P) : Prop where
  lock : s'.containLock = s.containLock
  acknowledgement : s'.killAcknowledgement = s.killAcknowledgement
  isolation : s'.isolationResult = s.isolationResult
  observed : s'.observedAcks = s.observedAcks
  killed : s'.state.phase = .killed → s.state.phase = .killed

theorem observedAcks_note (s : Runtime P) (entry : Entry P) :
    (s.note entry).observedAcks = s.observedAcks ++ entry.acknowledgement?.toList := by
  simp only [Runtime.observedAcks, Runtime.note, List.filterMap_append]
  cases h : entry.acknowledgement? <;> simp [h]

/-- No lease, latch or admission kills the run. -/
theorem killed_of_latchKillLocked {s : RunState} (h : s.latchKillLocked.phase = .killed) :
    s.phase = .killed := by
  rw [RunState.phase_latchKillLocked] at h
  split_ifs at h
  exact h

theorem killed_of_admitRaw {s : RunState} {bytes ns : ℤ}
    (h : (s.admitRaw bytes ns).1.phase = .killed) : s.phase = .killed := by
  rcases RunState.phaseMove_admitRaw s bytes ns with heq | ⟨-, heq⟩ | ⟨hkilling, -⟩ | ⟨-, heq⟩
  · rw [heq, h]
  · rw [heq] at h
    cases h
  · -- A run that is being killed drops the request.
    have hdropped : (s.admitRaw bytes ns).1.phase = s.phase := by
      unfold RunState.admitRaw
      simp [hkilling]
    rw [← hdropped, h]
  · rw [heq] at h
    cases h

theorem killed_of_markCompleted {s : RunState} (h : s.markCompleted.1.phase = .killed) :
    s.phase = .killed := by
  unfold RunState.markCompleted at h
  split_ifs at h
  exact h

theorem untouched_exec {op : Op P} {r : op.Res} {s s' : Runtime P} (hop : Op.Outside op)
    (h : exec d env t s op = some (s', r)) : Untouched s s' := by
  cases op
  case reserve body nowNs bytes =>
    have hkilled : (s.state.reserve body nowNs bytes).1.phase = .killed → s.state.phase = .killed := by
      rcases RunState.reserve_cases s.state body nowNs bytes with ⟨_, heq⟩ | ⟨_, heq⟩ |
        ⟨_, _, -, -, -, -, -, -, -, -, -, heq⟩ <;> rw [heq]
      · exact id
      · exact killed_of_latchKillLocked
      · exact id
    simp only [exec, Option.ite_none_right_eq_some] at h
    obtain ⟨-, h⟩ := h
    split at h <;>
    · rename_i heq
      rw [heq] at hkilled
      rw [Option.some.injEq, Prod.mk.injEq] at h
      obtain ⟨rfl, -⟩ := h
      exact ⟨rfl, rfl, rfl, rfl, hkilled⟩
  case prepareFinish lease egressBytes =>
    simp only [exec, Option.ite_none_right_eq_some] at h
    obtain ⟨-, h⟩ := h
    rcases RunState.prepareFinish_cases s.state lease egressBytes with ⟨_, heq⟩ | ⟨_, heq⟩ |
      ⟨_, -, -, -, heq⟩ <;>
    · rw [heq] at h
      simp only [Option.some.injEq, Prod.mk.injEq] at h
      obtain ⟨rfl, -⟩ := h
      first | exact ⟨rfl, rfl, rfl, rfl, id⟩ | exact ⟨rfl, rfl, rfl, rfl, killed_of_latchKillLocked⟩
  case commit | isolate | markKilled | acknowledge | dropAcknowledgement | acquireContain |
      releaseContain => exact absurd hop id
  all_goals
    simp only [exec, onState_eq_some, Option.some.injEq, Prod.mk.injEq,
      Option.ite_none_right_eq_some] at h
  all_goals try split at h
  all_goals try simp only [Option.some.injEq, Prod.mk.injEq] at h
  all_goals first | obtain ⟨rfl, -⟩ := h | obtain ⟨-, rfl, -⟩ := h
  case admitRaw => exact ⟨rfl, rfl, rfl, rfl, killed_of_admitRaw⟩
  case latchKill => exact ⟨rfl, rfl, rfl, rfl, killed_of_latchKillLocked⟩
  case recordDecision =>
    exact ⟨rfl, rfl, rfl, rfl, fun h => (RunState.phase_recordDecision _ _).symm.trans h⟩
  case rollback =>
    refine ⟨rfl, rfl, rfl, rfl, fun h => killed_of_latchKillLocked ?_⟩
    rwa [RunState.phase_rollback] at h
  case failFinish => exact ⟨rfl, rfl, rfl, rfl, killed_of_latchKillLocked⟩
  case abort => exact ⟨rfl, rfl, rfl, rfl, fun h => (RunState.phase_abortAuthorized _ _).symm.trans h⟩
  case markCompleted => exact ⟨rfl, rfl, rfl, rfl, killed_of_markCompleted⟩
  case release => exact ⟨rfl, rfl, rfl, by rw [observedAcks_note]; simp [Entry.acknowledgement?], id⟩
  case transport =>
    exact ⟨rfl, rfl, rfl, by rw [observedAcks_note]; simp [Entry.acknowledgement?], id⟩
  all_goals exact ⟨rfl, rfl, rfl, rfl, id⟩

theorem isolationsAfter_of_ne {op : Op P} {s : Runtime P} (hop : op ≠ .isolate) (n : ℕ) :
    isolationsAfter env op s n = n := by
  unfold isolationsAfter
  split
  · exact absurd rfl hop
  · rfl

/-- A commit changes the observed acknowledgements only, and only if it is one. -/
theorem commit_observedAcks {s s' : Runtime P} {kind : EventKind} {payload : Json}
    {requestId : Option String} {ns : Option ℤ} {outcome : Except PyError (Event P)}
    (h : exec d env t s (.commit kind payload requestId ns) = some (s', outcome)) :
    s'.containLock = s.containLock ∧ s'.killAcknowledgement = s.killAcknowledgement ∧
      s'.isolationResult = s.isolationResult ∧ s'.state = s.state ∧
      ((s'.observedAcks = s.observedAcks ∧
          (kind = .killAcknowledged → ∃ error, outcome = .error error)) ∨
        kind = .killAcknowledged ∧ ∃ event, outcome = .ok event ∧
          s'.observedAcks = s.observedAcks ++ [event]) := by
  rw [exec, Option.some.injEq] at h
  rcases commit_cases d env s kind payload requestId ns with ⟨error, heq⟩ |
    ⟨event, mirrored, outcome', mirror, happend, hmirrored, heq⟩
  · rw [heq, Prod.mk.injEq] at h
    obtain ⟨rfl, rfl⟩ := h
    exact ⟨rfl, rfl, rfl, rfl, .inl ⟨rfl, fun _ => ⟨error, rfl⟩⟩⟩
  · rw [heq, Prod.mk.injEq] at h
    obtain ⟨rfl, rfl⟩ := h
    obtain ⟨-, hkind, -, -⟩ := append_ok happend
    refine ⟨rfl, rfl, rfl, rfl, ?_⟩
    rw [observedAcks_note]
    cases mirrored with
    | false =>
        obtain ⟨-, error, -, rfl⟩ := hmirrored
        refine .inl ⟨?_, fun _ => ⟨error, rfl⟩⟩
        simp [Entry.acknowledgement?, Runtime.observedAcks]
    | true =>
        by_cases hack : kind = .killAcknowledged
        · refine .inr ⟨hack, event, hmirrored.2, ?_⟩
          simp [Entry.acknowledgement?, hkind, hack, Runtime.observedAcks]
        · refine .inl ⟨?_, fun heq => absurd heq hack⟩
          simp [Entry.acknowledgement?, hkind, hack, Runtime.observedAcks]

theorem Inv.untouched (h : Inv s) {s₁ : Runtime P} (hsame : Untouched s.1 s₁) : Inv (s₁, s.2) where
  isolations := by rw [hsame.isolation, h.isolations]
  killed hkilled := by
    rw [hsame.isolation]
    exact h.killed (hsame.killed hkilled)
  once := by
    rw [hsame.observed]
    exact h.once
  acknowledged hnone := by
    rw [hsame.acknowledgement] at hnone
    rw [hsame.observed, h.acknowledged hnone]
  free hfree hset := by
    rw [hsame.lock] at hfree
    rw [hsame.acknowledgement] at hset
    rw [hsame.observed]
    exact h.free hfree hset

theorem inv_exec {op : Op P} {r : op.Res} (h : Inv s) (hready : Ready t s op)
    (hexec : (isolatedService d).exec env t s op = some (s', r)) : Inv s' := by
  obtain ⟨hdone, hcount⟩ := ghost_exec.mp hexec
  obtain ⟨s₁, n⟩ := s'
  dsimp only at hdone hcount
  subst hcount
  by_cases hop : Op.Outside op
  · have hne : op ≠ .isolate := by
      rintro rfl
      exact hop
    rw [isolationsAfter_of_ne hne]
    exact h.untouched (untouched_exec hop hdone)
  cases op
  case commit kind payload requestId ns =>
    rw [isolationsAfter_of_ne (by simp)]
    obtain ⟨hlock, hack, hisolation, hstate, hobserved⟩ := commit_observedAcks hdone
    rcases hobserved with ⟨hobserved, -⟩ | ⟨hkind, event, -, hobserved⟩
    · exact h.untouched ⟨hlock, hack, hisolation, hobserved, by rw [hstate]; exact id⟩
    · obtain ⟨hheld, hset, hempty⟩ := hready hkind
      refine ⟨by rw [hisolation, h.isolations], ?_, ?_, ?_, ?_⟩
      · rw [hstate, hisolation]
        exact h.killed
      · rw [hobserved, hempty]
        exact le_rfl
      · intro hnone
        rw [hack] at hnone
        exact absurd hnone hset
      · intro _ _
        rw [hobserved]
        exact List.append_ne_nil_of_right_ne_nil _ (List.cons_ne_nil _ _)
  case isolate =>
    have hcount := h.isolations
    simp only [exec] at hdone
    cases hresult : s.1.isolationResult with
    | some result =>
        rw [hresult, Option.some.injEq, Prod.mk.injEq] at hdone
        obtain ⟨rfl, -⟩ := hdone
        simp only [isolationsAfter, hresult]
        exact h
    | none =>
        rw [hresult] at hdone hcount
        cases hisolation : env.isolation with
        | error error =>
            rw [hisolation, Option.some.injEq, Prod.mk.injEq] at hdone
            obtain ⟨rfl, -⟩ := hdone
            simp only [isolationsAfter, hresult, hisolation]
            exact h
        | ok result =>
            rw [hisolation, Option.some.injEq, Prod.mk.injEq] at hdone
            obtain ⟨rfl, -⟩ := hdone
            simp only [isolationsAfter, hresult, hisolation]
            refine ⟨?_, fun _ => rfl, h.once, h.acknowledged, h.free⟩
            rw [hcount]
            rfl
  case markKilled =>
    rw [isolationsAfter_of_ne (by simp)]
    simp only [exec, onState_eq_some] at hdone
    obtain ⟨-, rfl, -⟩ := hdone
    exact ⟨h.isolations, fun _ => hready, h.once, h.acknowledged, h.free⟩
  case acknowledge request =>
    rw [isolationsAfter_of_ne (by simp)]
    simp only [exec] at hdone
    split at hdone
    · rw [Option.some.injEq, Prod.mk.injEq] at hdone
      obtain ⟨rfl, -⟩ := hdone
      exact h
    · rw [Option.some.injEq, Prod.mk.injEq] at hdone
      obtain ⟨rfl, -⟩ := hdone
      refine ⟨h.isolations, h.killed, h.once, fun hnone => (by cases hnone), fun hfree _ => ?_⟩
      have hheld := hready.1
      rw [show s.1.containLock = none from hfree] at hheld
      cases hheld
  case dropAcknowledgement =>
    rw [isolationsAfter_of_ne (by simp)]
    simp only [exec, Option.some.injEq, Prod.mk.injEq] at hdone
    obtain ⟨rfl, -⟩ := hdone
    exact ⟨h.isolations, h.killed, h.once, fun _ => hready.2, fun _ hset => absurd rfl hset⟩
  case acquireContain =>
    rw [isolationsAfter_of_ne (by simp)]
    simp only [exec, Option.ite_none_right_eq_some, Option.some.injEq, Prod.mk.injEq] at hdone
    obtain ⟨-, rfl, -⟩ := hdone
    exact ⟨h.isolations, h.killed, h.once, h.acknowledged, fun hfree => (by cases hfree)⟩
  case releaseContain =>
    rw [isolationsAfter_of_ne (by simp)]
    simp only [exec, Option.ite_none_right_eq_some, Option.some.injEq, Prod.mk.injEq] at hdone
    obtain ⟨-, rfl, -⟩ := hdone
    exact ⟨h.isolations, h.killed, h.once, h.acknowledged, fun _ => hready⟩
  all_goals exact absurd trivial hop

theorem rely_exec {op : Op P} {r : op.Res} (hready : Ready t s op)
    (hexec : (isolatedService d).exec env t s op = some (s', r)) {u : ℕ} (hu : u ≠ t) :
    Rely u s s' := by
  obtain ⟨hdone, -⟩ := ghost_exec.mp hexec
  obtain ⟨s₁, n⟩ := s'
  dsimp only at hdone
  -- Another thread's lock keeps the holder's operations out.
  have hother (hlock : s.1.containLock = some t) : s.1.containLock ≠ some u := by
    rw [hlock]
    exact fun heq => hu (Option.some.inj heq).symm
  have hfree (hlock : s.1.containLock = none) : s.1.containLock ≠ some u := by
    rw [hlock]
    exact (Option.some_ne_none u).symm
  by_cases hop : Op.Outside op
  · have hsame := untouched_exec hop hdone
    refine ⟨fun hlock => ⟨hsame.lock.trans hlock, hsame.acknowledgement, hsame.observed⟩, ?_, ?_⟩
    · rw [hsame.isolation]
      exact id
    · exact fun hsettled => ⟨hsame.acknowledgement.trans hsettled.set,
        by rw [hsame.observed]; exact hsettled.observed⟩
  cases op
  case commit kind payload requestId ns =>
    obtain ⟨hlock, hack, hisolation, -, hobserved⟩ := commit_observedAcks hdone
    refine ⟨fun hheld => ⟨hlock.trans hheld, hack, ?_⟩, by rw [hisolation]; exact id,
      fun hsettled => ⟨hack.trans hsettled.set, ?_⟩⟩
    · rcases hobserved with ⟨hobserved, -⟩ | ⟨hkind, -⟩
      · exact hobserved
      · exact absurd hheld (hother (hready hkind).1)
    · rcases hobserved with ⟨hobserved, -⟩ | ⟨-, event, -, hobserved⟩
      · rw [hobserved]
        exact hsettled.observed
      · rw [hobserved]
        exact List.append_ne_nil_of_right_ne_nil _ (List.cons_ne_nil _ _)
  case isolate =>
    simp only [exec] at hdone
    split at hdone
    · rw [Option.some.injEq, Prod.mk.injEq] at hdone
      obtain ⟨rfl, -⟩ := hdone
      exact ⟨fun hheld => ⟨hheld, rfl, rfl⟩, id, fun h => ⟨h.set, h.observed⟩⟩
    · split at hdone <;>
      · rw [Option.some.injEq, Prod.mk.injEq] at hdone
        obtain ⟨rfl, -⟩ := hdone
        exact ⟨fun hheld => ⟨hheld, rfl, rfl⟩, fun h => by first | exact h | exact rfl,
          fun h => ⟨h.set, h.observed⟩⟩
  case markKilled =>
    simp only [exec, onState_eq_some] at hdone
    obtain ⟨-, rfl, -⟩ := hdone
    exact ⟨fun hheld => ⟨hheld, rfl, rfl⟩, id, fun h => ⟨h.set, h.observed⟩⟩
  case acknowledge request =>
    simp only [exec] at hdone
    split at hdone
    · rw [Option.some.injEq, Prod.mk.injEq] at hdone
      obtain ⟨rfl, -⟩ := hdone
      exact ⟨fun hheld => ⟨hheld, rfl, rfl⟩, id, fun h => ⟨h.set, h.observed⟩⟩
    · rw [Option.some.injEq, Prod.mk.injEq] at hdone
      obtain ⟨rfl, -⟩ := hdone
      refine ⟨fun hheld => absurd hheld (hother hready.1), id, fun hsettled => ?_⟩
      have hset := hsettled.set
      rw [hready.2] at hset
      cases hset
  case dropAcknowledgement =>
    simp only [exec, Option.some.injEq, Prod.mk.injEq] at hdone
    obtain ⟨rfl, -⟩ := hdone
    exact ⟨fun hheld => absurd hheld (hother hready.1), id,
      fun hsettled => absurd hready.2 hsettled.observed⟩
  case acquireContain =>
    simp only [exec, Option.ite_none_right_eq_some, Option.some.injEq, Prod.mk.injEq] at hdone
    obtain ⟨hlock, rfl, -⟩ := hdone
    exact ⟨fun hheld => absurd hheld (hfree hlock), id, fun h => ⟨h.set, h.observed⟩⟩
  case releaseContain =>
    simp only [exec, Option.ite_none_right_eq_some, Option.some.injEq, Prod.mk.injEq] at hdone
    obtain ⟨hlock, rfl, -⟩ := hdone
    exact ⟨fun hheld => absurd hheld (hother hlock), id, fun h => ⟨h.set, h.observed⟩⟩
  all_goals exact absurd trivial hop

variable (d) in
def discipline : Discipline (anyCalls d) where
  inv := Inv
  ready := Ready
  rely := Rely
  rely_refl _ _ := ⟨fun h => ⟨h, rfl, rfl⟩, id, id⟩
  rely_trans h h' := ⟨fun hlock => by
      obtain ⟨hlock₁, hack₁, hobserved₁⟩ := h.locked hlock
      obtain ⟨hlock₂, hack₂, hobserved₂⟩ := h'.locked hlock₁
      exact ⟨hlock₂, hack₂.trans hack₁, hobserved₂.trans hobserved₁⟩,
    fun hisolated => h'.isolated (h.isolated hisolated), fun hsettled => h'.settled (h.settled hsettled)⟩
  act_inv h hready _ hexec := inv_exec h hready hexec
  act_rely _ hready _ hexec _ hu := rely_exec hready hexec hu

/-! ## The code under the lock -/

/-- The thread holds the lock, and under it the acknowledgement and what was observed are
these. `done` says whether the backend has answered. -/
structure Owning (t : ℕ) (ack : Option (KillAcknowledgement P)) (observed : List (Event P))
    (done : Prop) (s : Runtime P × ℕ) : Prop where
  locked : s.1.containLock = some t
  set : s.1.killAcknowledgement = ack
  events : s.1.observedAcks = observed
  isolated : done → s.1.isolationResult.isSome

section Owning

variable {ack : Option (KillAcknowledgement P)} {observed : List (Event P)} {done : Prop}

theorem Owning.rely (h : Owning t ack observed done s) (hrely : Rely t s s') :
    Owning t ack observed done s' := by
  obtain ⟨hlock, hack, hobserved⟩ := hrely.locked h.locked
  exact ⟨hlock, hack.trans h.set, hobserved.trans h.events,
    fun hdone => hrely.isolated (h.isolated hdone)⟩

theorem Owning.untouched (h : Owning t ack observed done s) (hsame : Untouched s.1 s'.1) :
    Owning t ack observed done s' :=
  ⟨hsame.lock.trans h.locked, hsame.acknowledgement.trans h.set, hsame.observed.trans h.events,
    fun hdone => by rw [hsame.isolation]; exact h.isolated hdone⟩

theorem safe_outside {op : Op P} (hop : Op.Outside op) (h : Owning t ack observed done s) :
    (discipline d).Safe t (fun _ s => Owning t ack observed done s) (perform op) s := by
  refine safe_act fun s₁ hrely _ => ⟨?_, fun env s₂ result _ hexec _ => ?_⟩
  · cases op <;> first | exact trivial | exact absurd hop id
  · exact (h.rely hrely).untouched (untouched_exec hop (ghost_exec.mp hexec).1)

theorem safe_wallNow (h : Owning t ack observed done s) :
    (discipline d).Safe t (fun _ s => Owning t ack observed done s) (wallNow : Prog P Datetime) s :=
  safe_seq (safe_outside trivial h) (fun _ _ h => safe_ofExcept.mpr h) fun _ _ h => h

theorem safe_monotonicNow (h : Owning t ack observed done s) :
    (discipline d).Safe t (fun _ s => Owning t ack observed done s) (monotonicNow : Prog P ℤ) s :=
  safe_seq (safe_outside trivial h) (fun _ _ h => safe_ofExcept.mpr h) fun _ _ h => h

/-- An isolation that returned has a result. -/
theorem safe_isolate (h : Owning t ack observed False s) :
    (discipline d).Safe t (fun outcome s => Owning t ack observed (∃ result, outcome = .ok result) s)
      (raising (perform .isolate) : Prog P IsolationResult) s := by
  refine safe_act fun s₁ hrely _ => ⟨(h.rely hrely).locked, fun env s₂ result _ hexec _ => ?_⟩
  refine safe_ofExcept.mpr ?_
  have h₁ := h.rely hrely
  obtain ⟨hdone, -⟩ := ghost_exec.mp hexec
  obtain ⟨s₂, n⟩ := s₂
  simp only [exec] at hdone
  cases hresult : s₁.1.isolationResult with
  | some found =>
      rw [hresult, Option.some.injEq, Prod.mk.injEq] at hdone
      obtain ⟨rfl, -⟩ := hdone
      exact ⟨h₁.locked, h₁.set, h₁.events, fun _ => by rw [hresult]; rfl⟩
  | none =>
      rw [hresult] at hdone
      cases hisolation : env.isolation with
      | error error =>
          rw [hisolation, Option.some.injEq, Prod.mk.injEq] at hdone
          obtain ⟨rfl, rfl⟩ := hdone
          exact ⟨h₁.locked, h₁.set, h₁.events, by rintro ⟨_, ⟨⟩⟩⟩
      | ok found =>
          rw [hisolation, Option.some.injEq, Prod.mk.injEq] at hdone
          obtain ⟨rfl, -⟩ := hdone
          exact ⟨h₁.locked, h₁.set, h₁.events, fun _ => rfl⟩

theorem safe_markKilled (hdone : done) (h : Owning t ack observed done s) :
    (discipline d).Safe t (fun _ s => Owning t ack observed done s)
      (raising (perform .markKilled) : Prog P Unit) s := by
  refine safe_act fun s₁ hrely _ => ⟨(h.rely hrely).isolated hdone, fun env s₂ result _ hexec _ => ?_⟩
  refine safe_ofExcept.mpr ?_
  have h₁ := h.rely hrely
  obtain ⟨hexec, -⟩ := ghost_exec.mp hexec
  obtain ⟨s₂, n⟩ := s₂
  simp only [exec, onState_eq_some] at hexec
  obtain ⟨-, rfl, -⟩ := hexec
  exact ⟨h₁.locked, h₁.set, h₁.events, h₁.isolated⟩

end Owning

/-- The thread may release the lock. -/
def Releasable (t : ℕ) (s : Runtime P × ℕ) : Prop :=
  ∃ ack observed, Owning t ack observed False s ∧ (ack ≠ none → observed ≠ [])

theorem releasable_of_unset {done : Prop} {observed : List (Event P)}
    (h : Owning t none observed done s) : Releasable t s :=
  ⟨none, observed, ⟨h.locked, h.set, h.events, False.elim⟩, fun hne => absurd rfl hne⟩

/-- The acknowledgement, set and not yet committed. -/
theorem safe_commitAcknowledgement {ack : KillAcknowledgement P} (ns : ℤ)
    (h : Owning t (some ack) [] True s) :
    (discipline d).Safe t (fun outcome s => Releasable t s ∧ ∀ value, outcome = .ok value → Settled value s)
      (Supervisor.commitAcknowledgement ack ns) s := by
  refine safe_handle (safe_act fun s₁ hrely _ => ⟨fun _ => ?_, fun env s₂ outcome _ hexec _ => ?_⟩)
  · have h₁ := h.rely hrely
    exact ⟨h₁.locked, by rw [h₁.set]; exact Option.some_ne_none ack, h₁.events⟩
  have h₁ := h.rely hrely
  obtain ⟨hlock, hack, hisolation, -, hobserved⟩ := commit_observedAcks (ghost_exec.mp hexec).1
  cases outcome with
  | ok event =>
      rcases hobserved with ⟨-, herror⟩ | ⟨-, observed, -, hobserved⟩
      · obtain ⟨error, herror⟩ := herror rfl
        cases herror
      · have hne : s₂.1.observedAcks ≠ [] := by
          rw [hobserved]
          exact List.append_ne_nil_of_right_ne_nil _ (List.cons_ne_nil _ _)
        refine ⟨⟨_, _, ⟨hlock.trans h₁.locked, hack.trans h₁.set, rfl, False.elim⟩, fun _ => hne⟩, ?_⟩
        rintro _ ⟨⟩
        exact ⟨hack.trans h₁.set, hne⟩
  | error error =>
      -- Nothing was observed, and the acknowledgement is taken back.
      have h₂ : Owning t (some ack) s₂.1.observedAcks False s₂ :=
        ⟨hlock.trans h₁.locked, hack.trans h₁.set, rfl, False.elim⟩
      rcases hobserved with ⟨hobserved, -⟩ | ⟨-, observed, hok, -⟩
      · refine safe_act fun s₃ hrely₃ _ => ⟨?_, fun env s₄ _ _ hexec _ => ?_⟩
        · exact ⟨(h₂.rely hrely₃).locked, (h₂.rely hrely₃).events.trans (hobserved.trans h₁.events)⟩
        · obtain ⟨hdone, -⟩ := ghost_exec.mp hexec
          obtain ⟨s₄, n⟩ := s₄
          simp only [exec, Option.some.injEq, Prod.mk.injEq] at hdone
          obtain ⟨rfl, -⟩ := hdone
          have h₃ := h₂.rely hrely₃
          refine ⟨releasable_of_unset ⟨h₃.locked, rfl, rfl, False.elim⟩, by rintro _ ⟨⟩⟩
      · cases hok

theorem safe_containFresh (trigger : Event P) (ns : ℤ) (h : Owning t none [] False s) :
    (discipline d).Safe t
      (fun outcome s => Releasable t s ∧ ∀ value, outcome = .ok value → Settled value s)
      (Supervisor.containFresh trigger ns) s := by
  -- Before the acknowledgement is set, giving up leaves nothing behind.
  have hgiveUp {done : Prop} (error : PyError) (s : Runtime P × ℕ) (h : Owning t none [] done s) :
      Releasable t s ∧ ∀ value, (.error error : Except PyError (KillAcknowledgement P)) = .ok value →
        Settled value s :=
    ⟨releasable_of_unset h, fun _ heq => nomatch heq⟩
  refine safe_seq (safe_outside trivial h) (fun latched s₁ h => ?_) hgiveUp
  obtain ⟨first, epoch, inflight⟩ := latched
  refine safe_seq (safe_outside trivial h) (fun signals s₂ h => ?_) hgiveUp
  refine safe_seq (safe_wallNow h) (fun requestedAt s₃ h => ?_) hgiveUp
  refine safe_seq (safe_monotonicNow h) (fun requestedNs s₄ h => ?_) hgiveUp
  refine safe_seq (safe_isolate h) (fun isolation s₅ h => ?_) fun error s => hgiveUp error s
  refine safe_seq (safe_monotonicNow h) (fun acknowledgedNs s₆ h => ?_) hgiveUp
  refine safe_seq (safe_wallNow h) (fun acknowledgedAt s₇ h => ?_) hgiveUp
  refine safe_seq (safe_markKilled ⟨isolation, rfl⟩ h) (fun _ s₈ h => ?_) hgiveUp
  have hacknowledge (request : KillRequest P) : (discipline d).Safe t
      (fun outcome s => match outcome with
        | .ok ack => Owning t (some ack) [] True s
        | .error _ => Owning t none [] True s)
      (raising (perform (.acknowledge request)) : Prog P (KillAcknowledgement P)) s₈ := by
    refine safe_act fun s₉ hrely _ => ⟨⟨(h.rely hrely).locked, (h.rely hrely).set⟩, ?_⟩
    intro env s₁₀ outcome _ hexec _
    refine safe_ofExcept.mpr ?_
    have h₉ := h.rely hrely
    obtain ⟨hdone, -⟩ := ghost_exec.mp hexec
    obtain ⟨s₁₀, n⟩ := s₁₀
    simp only [exec] at hdone
    split at hdone <;>
    · rw [Option.some.injEq, Prod.mk.injEq] at hdone
      obtain ⟨rfl, rfl⟩ := hdone
      first
      | exact ⟨h₉.locked, h₉.set, h₉.events, fun _ => h₉.isolated ⟨isolation, rfl⟩⟩
      | exact ⟨h₉.locked, rfl, h₉.events, fun _ => h₉.isolated ⟨isolation, rfl⟩⟩
  refine safe_seq (hacknowledge _) (fun ack s₉ h => ?_) fun error s => hgiveUp error s
  exact safe_commitAcknowledgement acknowledgedNs h

/-- `with self._contain_lock` around code that leaves the acknowledgement settled or unset. -/
theorem safe_withContainLock {α : Type} {body : Prog P α} {post : Except PyError α → Runtime P × ℕ → Prop}
    (hbody : ∀ s, Releasable t s →
      (discipline d).Safe t (fun outcome s => Releasable t s ∧ post outcome s) body s)
    (hpost : ∀ outcome s s', (∀ {ack}, Settled ack s → Settled ack s') → post outcome s → post outcome s') :
    (discipline d).Safe t post (withContainLock body) s := by
  have hacquire : (discipline d).Safe t (fun outcome s => outcome = .ok () ∧ Releasable t s)
      (perform .acquireContain : Prog P Unit) s := by
    refine safe_act fun s₁ _ hinv => ⟨trivial, fun env s₂ _ _ hexec _ => ?_⟩
    obtain ⟨hdone, -⟩ := ghost_exec.mp hexec
    obtain ⟨s₂, n⟩ := s₂
    simp only [exec, Option.ite_none_right_eq_some, Option.some.injEq, Prod.mk.injEq] at hdone
    obtain ⟨hfree, rfl, -⟩ := hdone
    exact ⟨rfl, _, _, ⟨rfl, rfl, rfl, False.elim⟩, hinv.free hfree⟩
  refine safe_seq hacquire (fun _ s₁ h => safe_finalize (safe_mono ?_ (hbody s₁ h.2))) ?_
  · rintro outcome s₂ ⟨⟨ack, observed, howning, hsettled⟩, hout⟩
    refine safe_act fun s₃ hrely _ => ⟨?_, fun env s₄ _ _ hexec _ => ?_⟩
    · have h₃ := howning.rely hrely
      intro hset
      rw [h₃.set] at hset
      rw [h₃.events]
      exact hsettled hset
    · obtain ⟨hdone, -⟩ := ghost_exec.mp hexec
      obtain ⟨s₄, n⟩ := s₄
      simp only [exec, Option.ite_none_right_eq_some, Option.some.injEq, Prod.mk.injEq] at hdone
      obtain ⟨-, rfl, -⟩ := hdone
      exact hpost outcome s₂ _ (fun h => ⟨(hrely.settled h).set, (hrely.settled h).observed⟩) hout
  · intro error s h
    cases h.1

theorem safe_contain (trigger : Event P) (ns : ℤ) :
    (discipline d).Safe t (fun outcome s => ∀ ack, outcome = .ok ack → Settled ack s)
      (Supervisor.contain trigger ns) s := by
  refine safe_withContainLock (fun s₁ h => ?_) fun _ _ _ hkeep h ack heq => hkeep (h ack heq)
  obtain ⟨ack, observed, howning, hsettled⟩ := h
  refine safe_act fun s₂ hrely hinv => ⟨trivial, fun env s₃ found _ hexec _ => ?_⟩
  obtain ⟨hdone, -⟩ := ghost_exec.mp hexec
  obtain ⟨s₃, n⟩ := s₃
  simp only [exec, Option.some.injEq, Prod.mk.injEq] at hdone
  obtain ⟨rfl, rfl⟩ := hdone
  have h₂ := howning.rely hrely
  have hset := h₂.set
  cases hfound : s₂.1.killAcknowledgement with
  | some found =>
      rw [hfound] at hset
      have hne : observed ≠ [] := hsettled (by rw [← hset]; exact Option.some_ne_none found)
      refine ⟨⟨ack, observed, ⟨h₂.locked, h₂.set, h₂.events, False.elim⟩, hsettled⟩, ?_⟩
      rintro _ ⟨⟩
      exact ⟨hfound, by rw [h₂.events]; exact hne⟩
  | none =>
      exact safe_containFresh trigger ns ⟨h₂.locked, hfound, hinv.acknowledged hfound, False.elim⟩

theorem safe_emergencyIsolate :
    (discipline d).Safe t (fun _ _ => True) (Supervisor.emergencyIsolate : Prog P Unit) s := by
  refine safe_withContainLock (fun s₁ h => ?_) fun _ _ _ _ h => h
  obtain ⟨ack, observed, howning, hsettled⟩ := h
  have hgiveUp {done : Prop} (s : Runtime P × ℕ) (h : Owning t ack observed done s) :
      Releasable t s ∧ True :=
    ⟨⟨ack, observed, ⟨h.locked, h.set, h.events, False.elim⟩, hsettled⟩, trivial⟩
  refine safe_seq (safe_outside trivial howning) (fun _ s₂ h => ?_) fun _ => hgiveUp
  refine safe_seq (safe_outside trivial h) (fun _ s₃ h => ?_) fun _ => hgiveUp
  refine safe_seq (safe_isolate h) (fun isolation s₄ h => ?_) fun _ s => hgiveUp s
  exact safe_mono (fun _ => hgiveUp) (safe_markKilled ⟨isolation, rfl⟩ h)

/-! ## All calls -/

theorem plainReady : PlainReady (discipline d) := by
  intro op hplain t s _
  cases op <;> first | exact trivial | exact absurd hplain id

theorem gatewayReady : GatewayReady (discipline d) := by
  rintro kind payload requestId ns hkind t s _ rfl
  simp at hkind

theorem clean_contain (trigger : Event P) (ns : ℤ) :
    (discipline d).Clean (Supervisor.contain trigger ns) :=
  fun _ _ => safe_mono (fun _ _ _ => trivial) (safe_contain trigger ns)

theorem clean_beginAuthorized (action : Action P) (decision : Decision P) (id : OpaqueId)
    (nowNs bytes : ℤ) :
    (discipline d).Clean (Executor.beginAuthorized action decision id nowNs bytes) := by
  refine clean_bind (clean_raising (clean_perform fun _ _ _ => trivial)) fun lease => ?_
  refine clean_bind (clean_attempt (clean_bind (clean_ofExcept _) fun sha => ?_)) fun outcome => ?_
  · exact clean_raising (clean_perform fun _ _ _ hkind => nomatch hkind)
  · cases outcome with
    | ok event => exact clean_bind (clean_perform fun _ _ _ => trivial) fun _ => clean_ret _
    | error error => exact clean_bind (clean_perform fun _ _ _ => trivial) fun _ => clean_raise _

theorem clean_finishAuthorized (action : Action P) (decision : Decision P) (id : OpaqueId)
    (lease : DispatchLease) (result : TransportResult) :
    (discipline d).Clean (Executor.finishAuthorized action decision id lease result) := by
  refine clean_bind (clean_raising (clean_perform fun _ _ _ => trivial)) fun reserved => ?_
  refine clean_bind (clean_attempt (clean_bind (clean_ofExcept _) fun sha => ?_)) fun outcome => ?_
  · exact clean_raising (clean_perform fun _ _ _ hkind => nomatch hkind)
  · cases outcome with
    | ok event => exact clean_perform fun _ _ _ => trivial
    | error error => exact clean_bind (clean_perform fun _ _ _ => trivial) fun _ => clean_raise _

theorem clean_call (call : Call P) : (discipline d).Clean (body d call) :=
  clean_body plainReady gatewayReady clean_contain (fun _ _ => safe_emergencyIsolate)
    clean_beginAuthorized clean_finishAuthorized call

/-- A containment that ends normally has a settled acknowledgement. -/
def Done (call : Call P) (outcome : Except PyError (Reply P)) (s : Runtime P × ℕ) : Prop :=
  ∀ trigger ns ack, call = .contain trigger ns → outcome = .ok (.acknowledged ack) → Settled ack s

theorem Untouched.retire (s : Runtime P) (call : Call P) (outcome : Except PyError (Reply P)) :
    Untouched s (retire call outcome s) := by
  unfold Containment.retire
  split
  · exact ⟨rfl, rfl, rfl, rfl, id⟩
  · exact ⟨rfl, rfl, rfl, rfl, id⟩

theorem covers : (discipline d).Covers Done where
  stable hrely h trigger ns ack hcall houtcome := hrely.settled (h trigger ns ack hcall houtcome)
  calls t call s _ _ := by
    by_cases hcontain : ∃ trigger ns, call = .contain trigger ns
    · obtain ⟨trigger, ns, rfl⟩ := hcontain
      refine safe_seq (safe_contain trigger ns) (fun ack s₁ h => ?_) fun error s₁ _ => ?_
      · rintro _ _ _ - ⟨⟩
        exact h ack rfl
      · exact fun _ _ _ _ heq => nomatch heq
    · refine safe_mono (fun outcome s₁ _ trigger ns ack hcall _ => ?_) (clean_call call t s)
      exact absurd ⟨trigger, ns, hcall⟩ hcontain
  retire_inv {call outcome s} h _ := h.untouched (Untouched.retire s.1 call outcome)
  retire_rely {call outcome s} h _ u := by
    have hsame := Untouched.retire s.1 call outcome
    refine ⟨fun hlock => ⟨hsame.lock.trans hlock, hsame.acknowledgement, hsame.observed⟩, ?_, ?_⟩
    · dsimp only
      rw [hsame.isolation]
      exact id
    · exact fun hsettled => ⟨hsame.acknowledgement.trans hsettled.set,
        by dsimp only; rw [hsame.observed]; exact hsettled.observed⟩

theorem inv_init (witness : TransparencyWitness P) : Inv (Runtime.init d witness, 0) where
  isolations := rfl
  killed h := nomatch h
  once := Nat.zero_le 1
  acknowledged _ := rfl
  free _ h := absurd rfl h

end Isolation

/-- The operations of an emergency isolation. -/
def Op.OfIsolation : Op P → Prop
  | .acquireContain | .raiseEmergency | .latchKill | .isolate | .markKilled | .releaseContain => True
  | _ => False

/-- A run that is isolated for the first time. -/
theorem ends_emergencyIsolate {d : Deployment P} {rule : RunRule (runtimeService d)} {t : ℕ}
    {s : Runtime P} {env : World} {result : IsolationResult}
    (hmoves : ∀ s (op : Op P), op.OfIsolation → rule.moves s op env)
    (hidle : Idle s) (hphase : s.state.phase = .running) (hnone : s.isolationResult = none)
    (hisolation : env.isolation = .ok result) :
    Ends rule t s (Supervisor.emergencyIsolate : Prog P Unit)
      { s with
        state := s.state.latchKillLocked.markKilled.1
        emergencyFailure := true
        isolationResult := some result
        history := s.history.latched true } (.ok ()) := by
  have hacquire : Ends rule t s (perform .acquireContain : Prog P Unit)
      { s with containLock := some t } (.ok ()) :=
    ends_perform env (hmoves _ _ trivial) (by simp only [exec, hidle.contain, if_true])
  have hraise : Ends rule t { s with containLock := some t } (perform .raiseEmergency : Prog P Unit)
      { s with containLock := some t, emergencyFailure := true } (.ok ()) :=
    ends_perform env (hmoves _ _ trivial) (by simp only [exec])
  set latched : Runtime P := { s with
    containLock := some t
    emergencyFailure := true
    state := s.state.latchKillLocked
    history := s.history.latched true } with hlatched
  have hlatch : Ends rule t { s with containLock := some t, emergencyFailure := true }
      (perform .latchKill : Prog P _) latched (.ok s.state.latchKill.2) := by
    have hends := ends_latchKill (t := t)
      (s := { s with containLock := some t, emergencyFailure := true }) env (hmoves _ _ trivial) hidle.state
    simp only [decide_true] at hends
    exact hends
  have hisolate : Ends rule t latched (raising (perform .isolate) : Prog P IsolationResult)
      { latched with isolationResult := some result } (.ok result) :=
    ends_raising (ends_perform env (hmoves _ _ trivial) (by simp only [exec, hlatched, hnone, hisolation]))
  have hkilling : s.state.latchKillLocked.phase = .killing := by
    rw [RunState.phase_latchKillLocked, if_pos hphase]
  have hmark : Ends rule t { latched with isolationResult := some result }
      (raising (perform .markKilled) : Prog P Unit)
      { latched with
        isolationResult := some result
        state := s.state.latchKillLocked.markKilled.1 } (.ok ()) := by
    have hends := ends_markKilled (t := t) (s := { latched with isolationResult := some result }) env
      (hmoves _ _ trivial) hidle.state
    have hok : s.state.latchKillLocked.markKilled.2 = .ok () := by
      simp [RunState.markKilled, hkilling]
    rwa [show ({ latched with isolationResult := some result } : Runtime P).state =
      s.state.latchKillLocked from rfl, hok] at hends
  have hrelease : Ends rule t { latched with
        isolationResult := some result
        state := s.state.latchKillLocked.markKilled.1 } (perform .releaseContain : Prog P Unit)
      { s with
        state := s.state.latchKillLocked.markKilled.1
        emergencyFailure := true
        isolationResult := some result
        history := s.history.latched true } (.ok ()) := by
    refine ends_perform env (hmoves _ _ trivial) ?_
    simp only [exec, hlatched, if_true, ← hidle.contain]
  exact Ends.bind hacquire (Ends.finalize (Ends.bind hraise (Ends.bind hlatch
    (Ends.bind hisolate hmark))) hrelease)

/-- The operations of a containment before its acknowledgement. -/
def Op.Opening : Op P → Prop
  | .acquireContain | .readAcknowledgement | .latchKill | .signalAll | .wallClock
  | .monotonicClock | .isolate | .markKilled => True
  | _ => False

/-- A containment up to its acknowledgement, in a run that is contained for the first time. -/
theorem runs_opening {d : Deployment P} {rule : RunRule (runtimeService d)} {t : ℕ} {s : Runtime P}
    {env : World} {wall : Datetime} {ns : ℤ} {result : IsolationResult}
    (hmoves : ∀ s (op : Op P), op.Opening → rule.moves s op env) (hidle : Idle s)
    (hphase : s.state.phase = .running) (hunset : s.killAcknowledgement = none)
    (hnone : s.isolationResult = none) (hwall : env.wallClock = .ok wall)
    (hclock : env.monotonicClock = .ok ns) (hisolation : env.isolation = .ok result)
    (trigger : Event P) (triggerNs : ℤ) :
    Runs rule t s (Supervisor.contain trigger triggerNs)
      { s with
        containLock := some t
        state := s.state.latchKillLocked.markKilled.1
        inflight := s.inflight.signalAll.1
        isolationResult := some result
        history := s.history.latched true }
      ((do
        let ack ← raising (perform (.acknowledge ⟨trigger, triggerNs, wall, ns, wall, ns, result,
          s.state.latchKill.2.2.2, s.inflight.signalAll.2⟩))
        Supervisor.commitAcknowledgement ack ns).finalize (perform .releaseContain)) := by
  have hacquire : Ends rule t s (perform .acquireContain : Prog P Unit)
      { s with containLock := some t } (.ok ()) :=
    ends_perform env (hmoves _ _ trivial) (by simp only [exec, hidle.contain, if_true])
  have hread : Ends rule t { s with containLock := some t }
      (perform .readAcknowledgement : Prog P _) { s with containLock := some t } (.ok none) :=
    ends_perform env (hmoves _ _ trivial) (by simp only [exec, hunset])
  set latched : Runtime P := { s with
    containLock := some t
    state := s.state.latchKillLocked
    history := s.history.latched true } with hlatched
  have hlatch : Ends rule t { s with containLock := some t } (perform .latchKill : Prog P _)
      latched (.ok s.state.latchKill.2) := by
    have hends := ends_latchKill (t := t) (s := { s with containLock := some t }) env
      (hmoves _ _ trivial) hidle.state
    simp only [decide_true] at hends
    exact hends
  set signalled : Runtime P := { latched with inflight := s.inflight.signalAll.1 }
    with hsignalled
  have hsignal : Ends rule t latched (perform .signalAll : Prog P ℕ) signalled
      (.ok s.inflight.signalAll.2) :=
    ends_perform env (hmoves _ _ trivial) (by simp only [exec, hlatched, hsignalled])
  have hwallNow (s : Runtime P) : Ends rule t s (wallNow : Prog P Datetime) s (.ok wall) :=
    ends_raising (ends_perform env (hmoves _ _ trivial) (by simp only [exec, hwall]))
  have hclockNow (s : Runtime P) : Ends rule t s (monotonicNow : Prog P ℤ) s (.ok ns) :=
    ends_raising (ends_perform env (hmoves _ _ trivial) (by simp only [exec, hclock]))
  set isolated : Runtime P := { signalled with isolationResult := some result } with hisolated
  have hisolate : Ends rule t signalled (raising (perform .isolate) : Prog P IsolationResult)
      isolated (.ok result) :=
    ends_raising (ends_perform env (hmoves _ _ trivial)
      (by simp only [exec, hsignalled, hlatched, hnone, hisolation, hisolated]))
  have hmark : Ends rule t isolated (raising (perform .markKilled) : Prog P Unit)
      { isolated with state := s.state.latchKillLocked.markKilled.1 } (.ok ()) := by
    have hends := ends_markKilled (t := t) (s := isolated) env (hmoves _ _ trivial) hidle.state
    have hok : s.state.latchKillLocked.markKilled.2 = .ok () := by
      simp [RunState.markKilled, RunState.phase_latchKillLocked, hphase]
    rwa [show isolated.state = s.state.latchKillLocked from rfl, hok] at hends
  refine Ends.bind hacquire (Runs.bind (Runs.attempt (Ends.bind hread (Ends.bind hlatch ?_))))
  refine Ends.bind hsignal (Ends.bind (hwallNow _) (Ends.bind (hclockNow _) (Ends.bind hisolate ?_)))
  refine Ends.bind (hclockNow _) (Ends.bind (hwallNow _) (Ends.bind hmark ?_))
  exact .refl _ _

end Containment
