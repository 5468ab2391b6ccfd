/-
# Admission over whole runs

Every sequence of operations on the run state. The rate limit of `admit` is a fixed-window
limiter, and the library of these gives its bounds. The limit on the requests in flight is
tested by `admit` too, but the count grows only when a decision is dispatched, and
`begin_authorized` does not look at it. So the count stays below the limit exactly as long
as every reservation that is granted finds room.
-/

import Containment.Rate.FixedWindow
import Containment.Reference.Dispatching

namespace Containment

namespace RunState

/-- One thing that is done to the state under its lock. `begin_authorized` and
`finish_authorized` are two each, because the evidence callback between them may call the
state again on the thread that holds the lock. -/
inductive Move
  | admitRaw (rawBytes nowNs : ℤ)
  | latchKill
  | recordDecision (verdict : Verdict)
  | reserve (body : DecisionBody) (nowNs reserveEgressBytes : ℤ)
  | rollback (lease : DispatchLease)
  | prepareFinish (lease : DispatchLease) (egressBytes : ℤ)
  | settle (lease : DispatchLease) (reserved egressBytes : ℤ)
  | resultFailed
  | abortAuthorized (lease : DispatchLease)
  | markKilled
  | markCompleted

/-- The state after a move, whether it returned or raised. -/
def moved (s : RunState) : Move → RunState
  | .admitRaw rawBytes nowNs => (s.admitRaw rawBytes nowNs).1
  | .latchKill => s.latchKill.1
  | .recordDecision verdict => s.recordDecision verdict
  | .reserve body nowNs bytes => (s.reserve body nowNs bytes).1
  | .rollback lease => s.rollback lease
  | .prepareFinish lease bytes => (s.prepareFinish lease bytes).1
  | .settle lease reserved bytes => s.settle lease reserved bytes
  | .resultFailed => s.latchKillLocked
  | .abortAuthorized lease => s.abortAuthorized lease
  | .markKilled => s.markKilled.1
  | .markCompleted => s.markCompleted.1

def afterMoves (s : RunState) (moves : List Move) : RunState := moves.foldl moved s

variable {s : RunState}

theorem afterMoves_concat (moves : List Move) (move : Move) :
    s.afterMoves (moves ++ [move]) = (s.afterMoves moves).moved move := by
  rw [afterMoves, afterMoves, List.foldl_append, List.foldl_cons, List.foldl_nil]

/-- A whole call is a sequence of moves, so what holds of all sequences of moves holds of all
sequences of calls. -/
theorem exists_moves (s : RunState) (call : Call) : ∃ moves, s.perform call = s.afterMoves moves := by
  cases call with
  | admitRaw rawBytes nowNs => exact ⟨[.admitRaw rawBytes nowNs], rfl⟩
  | latchKill => exact ⟨[.latchKill], rfl⟩
  | recordDecision verdict => exact ⟨[.recordDecision verdict], rfl⟩
  | beginAuthorized body nowNs bytes commit =>
      cases hreserve : s.reserve body nowNs bytes with
      | mk s' outcome =>
          cases outcome with
          | error error =>
              refine ⟨[.reserve body nowNs bytes], ?_⟩
              simp only [perform, beginAuthorized, afterMoves, List.foldl_cons, List.foldl_nil,
                moved, hreserve]
          | ok lease =>
              cases commit with
              | ok _ =>
                  refine ⟨[.reserve body nowNs bytes], ?_⟩
                  simp only [perform, beginAuthorized, afterMoves, List.foldl_cons,
                    List.foldl_nil, moved, hreserve]
              | error error =>
                  refine ⟨[.reserve body nowNs bytes, .rollback lease], ?_⟩
                  simp only [perform, beginAuthorized, afterMoves, List.foldl_cons,
                    List.foldl_nil, moved, hreserve]
  | finishAuthorized lease bytes commit =>
      cases hprepare : s.prepareFinish lease bytes with
      | mk s' outcome =>
          cases outcome with
          | error error =>
              refine ⟨[.prepareFinish lease bytes], ?_⟩
              simp only [perform, finishAuthorized, afterMoves, List.foldl_cons, List.foldl_nil,
                moved, hprepare]
          | ok reserved =>
              cases commit with
              | ok _ =>
                  refine ⟨[.prepareFinish lease bytes, .settle lease reserved bytes], ?_⟩
                  simp only [perform, finishAuthorized, afterMoves, List.foldl_cons,
                    List.foldl_nil, moved, hprepare]
              | error error =>
                  refine ⟨[.prepareFinish lease bytes, .resultFailed], ?_⟩
                  simp only [perform, finishAuthorized, afterMoves, List.foldl_cons,
                    List.foldl_nil, moved, hprepare]
  | abortAuthorized lease => exact ⟨[.abortAuthorized lease], rfl⟩
  | markKilled => exact ⟨[.markKilled], rfl⟩
  | markCompleted => exact ⟨[.markCompleted], rfl⟩

/-! ## The answers of `admit` -/

/-- An answer, with the time of the call and whether the call started a window. -/
structure Answer where
  nowNs : ℤ
  admission : Admission
  opens : Bool
  deriving DecidableEq

/-- The branch of `admit` that resets the window is taken. -/
def opensWindow (s : RunState) (nowNs : ℤ) : Bool :=
  s.phase = .running &&
    s.windowStartedNs.all fun started => nowNs - started ≥ s.criteria.rateWindowMs.1 * 1000000

/-- The answers to the `admit` calls of a sequence of moves. -/
def answers (s : RunState) : List Move → List Answer
  | [] => []
  | move :: rest =>
      match move with
      | .admitRaw rawBytes nowNs =>
          ⟨nowNs, (s.admitRaw rawBytes nowNs).2, s.opensWindow nowNs⟩ ::
            (s.moved move).answers rest
      | _ => (s.moved move).answers rest

def Answer.isAdmitted (answer : Answer) : Bool := answer.admission = .admitted

/-- An admission as an arrival at the limiter. -/
def Answer.arrival (answer : Answer) : ℤ × Bool := (answer.nowNs, answer.opens)

/-- The width of a window in nanoseconds. -/
def windowNs (criteria : KillCriteria) : ℤ := criteria.rateWindowMs.1 * 1000000

def windowLimit (criteria : KillCriteria) : ℕ := criteria.maxRequestsPerWindow.1.toNat

theorem openWindow_of_opens {nowNs : ℤ} (h : s.opensWindow nowNs = true) :
    s.openWindow nowNs = { s with windowStartedNs := some nowNs, windowCount := 0 } ∧
      ∀ started ∈ s.windowStartedNs, started + windowNs s.criteria ≤ nowNs := by
  obtain ⟨-, hover⟩ := Bool.and_eq_true_iff.mp h
  unfold openWindow windowNs
  cases hstarted : s.windowStartedNs with
  | none => exact ⟨rfl, fun _ hnone => nomatch hnone⟩
  | some started =>
      rw [hstarted, Option.all_some, decide_eq_true_eq] at hover
      refine ⟨if_pos hover, ?_⟩
      intro started' hstarted'
      obtain rfl := Option.some.inj hstarted'
      omega

theorem openWindow_of_not_opens {nowNs : ℤ} (hphase : s.phase = .running)
    (h : s.opensWindow nowNs = false) :
    s.openWindow nowNs = s ∧ ∃ started, s.windowStartedNs = some started ∧
      nowNs < started + windowNs s.criteria := by
  rw [opensWindow, decide_eq_true hphase, Bool.true_and] at h
  unfold openWindow windowNs
  cases hstarted : s.windowStartedNs with
  | none =>
      rw [hstarted] at h
      cases h
  | some started =>
      rw [hstarted, Option.all_some, decide_eq_false_iff_not] at h
      exact ⟨if_neg h, started, rfl, by omega⟩

theorem windowCount_of_not_overload {rawBytes : ℤ} (h : s.wouldOverload rawBytes = false) :
    s.windowCount < s.criteria.maxRequestsPerWindow.1 := by
  simp only [wouldOverload, Bool.or_eq_false_iff, decide_eq_false_iff_not] at h
  omega

/-- The start of the window and its count. -/
def Windows (s s' : RunState) (started : Option ℤ) (count : ℤ) : Prop :=
  s'.criteria = s.criteria ∧ s'.windowStartedNs = started ∧ s'.windowCount = count

/-- The step lemma: `admit` drops, latches, or lets one more request into a window. -/
theorem admitRaw_cases (s : RunState) (rawBytes nowNs : ℤ) :
    ((s.admitRaw rawBytes nowNs).2 = .droppedAfterKill ∧
      s.Windows (s.admitRaw rawBytes nowNs).1 s.windowStartedNs s.windowCount) ∨
    ((s.admitRaw rawBytes nowNs).2 = .firstOverload ∧
      (s.admitRaw rawBytes nowNs).1.phase ≠ .running) ∨
    ((s.admitRaw rawBytes nowNs).2 = .admitted ∧
      (s.opensWindow nowNs = true ∧
          (∀ started ∈ s.windowStartedNs, started + windowNs s.criteria ≤ nowNs) ∧
          s.Windows (s.admitRaw rawBytes nowNs).1 (some nowNs) 1 ∨
        s.opensWindow nowNs = false ∧
          (∃ started, s.windowStartedNs = some started ∧
            nowNs < started + windowNs s.criteria) ∧
          s.windowCount < s.criteria.maxRequestsPerWindow.1 ∧
          s.Windows (s.admitRaw rawBytes nowNs).1 s.windowStartedNs (s.windowCount + 1))) := by
  unfold RunState.admitRaw
  dsimp only
  by_cases hphase : s.phase = .running
  swap
  · rw [if_pos hphase]
    exact .inl ⟨rfl, rfl, rfl, rfl⟩
  rw [if_neg (not_not.mpr hphase)]
  cases hover : (openWindow { s with observed := s.observed + 1 } nowNs).wouldOverload rawBytes with
  | true =>
      refine .inr (.inl ⟨rfl, ?_⟩)
      simp only [if_true, phase_latchKillLocked]
      split <;> simp_all
  | false =>
      have hcount := windowCount_of_not_overload hover
      refine .inr (.inr ⟨rfl, ?_⟩)
      cases hopens : s.opensWindow nowNs with
      | true =>
          obtain ⟨heq, hstarted⟩ := openWindow_of_opens
            (show opensWindow { s with observed := s.observed + 1 } nowNs = true from hopens)
          rw [heq] at hcount ⊢
          exact .inl ⟨rfl, hstarted, rfl, rfl, rfl⟩
      | false =>
          obtain ⟨heq, hstarted⟩ := openWindow_of_not_opens
            (show RunState.phase { s with observed := s.observed + 1 } = .running from hphase)
            (show opensWindow { s with observed := s.observed + 1 } nowNs = false from hopens)
          rw [heq] at hcount ⊢
          exact .inr ⟨rfl, hstarted, hcount, rfl, rfl, rfl⟩

/-! ## Every sequence of moves -/

/-- No other move touches the window, and no move starts a run again. -/
theorem moved_frame (s : RunState) (move : Move) (h : ∀ rawBytes nowNs, move ≠ .admitRaw rawBytes nowNs) :
    s.Windows (s.moved move) s.windowStartedNs s.windowCount := by
  have hlatch : ∀ s : RunState, s.Windows s.latchKillLocked s.windowStartedNs s.windowCount := by
    intro s
    unfold latchKillLocked
    split <;> exact ⟨rfl, rfl, rfl⟩
  cases move with
  | admitRaw rawBytes nowNs => exact absurd rfl (h rawBytes nowNs)
  | latchKill => exact hlatch s
  | recordDecision verdict =>
      simp only [moved, recordDecision]
      split <;> exact ⟨rfl, rfl, rfl⟩
  | reserve body nowNs bytes =>
      rw [moved]
      rcases reserve_cases s body nowNs bytes with ⟨_, heq⟩ | ⟨_, heq⟩ |
        ⟨_, _, _, _, _, _, _, _, _, _, _, heq⟩
      · rw [heq]
        exact ⟨rfl, rfl, rfl⟩
      · rw [heq]
        exact hlatch s
      · rw [heq]
        exact ⟨rfl, rfl, rfl⟩
  | rollback lease => exact hlatch _
  | prepareFinish lease bytes =>
      rw [moved]
      rcases prepareFinish_cases s lease bytes with ⟨_, heq⟩ | ⟨_, heq⟩ | ⟨_, _, _, _, heq⟩
      · rw [heq]
        exact ⟨rfl, rfl, rfl⟩
      · rw [heq]
        exact hlatch s
      · rw [heq]
        exact ⟨rfl, rfl, rfl⟩
  | settle lease reserved bytes => exact ⟨rfl, rfl, rfl⟩
  | resultFailed => exact hlatch s
  | abortAuthorized lease =>
      simp only [moved, abortAuthorized]
      split <;> exact ⟨rfl, rfl, rfl⟩
  | markKilled =>
      simp only [moved, markKilled]
      split <;> exact ⟨rfl, rfl, rfl⟩
  | markCompleted =>
      simp only [moved, markCompleted]
      split <;> exact ⟨rfl, rfl, rfl⟩

theorem phaseMove_moved (s : RunState) (move : Move) : PhaseMove s.phase (s.moved move).phase := by
  cases move with
  | admitRaw rawBytes nowNs => exact phaseMove_admitRaw s rawBytes nowNs
  | latchKill => exact phaseMove_latchKillLocked s
  | recordDecision verdict => exact .inl (phase_recordDecision s verdict).symm
  | reserve body nowNs bytes => exact phaseMove_reserve s body nowNs bytes
  | rollback lease =>
      rw [moved, phase_rollback]
      exact phaseMove_latchKillLocked s
  | prepareFinish lease bytes =>
      rw [moved]
      rcases prepareFinish_cases s lease bytes with ⟨_, heq⟩ | ⟨_, heq⟩ | ⟨_, _, _, _, heq⟩
      · rw [heq]
        exact .inl rfl
      · rw [heq]
        exact phaseMove_latchKillLocked s
      · rw [heq]
        exact .inl rfl
  | settle lease reserved bytes => exact .inl rfl
  | resultFailed => exact phaseMove_latchKillLocked s
  | abortAuthorized lease => exact .inl (phase_abortAuthorized s lease).symm
  | markKilled => exact phaseMove_markKilled s
  | markCompleted => exact phaseMove_markCompleted s

theorem PhaseMove.ne_running {before after : RunPhase} (h : PhaseMove before after)
    (hbefore : before ≠ .running) : after ≠ .running := by
  rcases h with rfl | ⟨hrun, -⟩ | ⟨-, rfl⟩ | ⟨hrun, -⟩
  · exact hbefore
  · exact absurd hrun hbefore
  · exact RunPhase.noConfusion
  · exact absurd hrun hbefore

/-- The cases of a list of moves: the next one is an `admit`, or it leaves the window alone. -/
theorem answers_cons (s : RunState) (move : Move) (rest : List Move) :
    (∃ rawBytes nowNs, move = .admitRaw rawBytes nowNs ∧ s.answers (move :: rest) =
      ⟨nowNs, (s.admitRaw rawBytes nowNs).2, s.opensWindow nowNs⟩ ::
        (s.admitRaw rawBytes nowNs).1.answers rest) ∨
    ((∀ rawBytes nowNs, move ≠ .admitRaw rawBytes nowNs) ∧
      s.answers (move :: rest) = (s.moved move).answers rest) := by
  cases move with
  | admitRaw rawBytes nowNs => exact .inl ⟨rawBytes, nowNs, rfl, rfl⟩
  | _ => exact .inr ⟨fun _ _ => Move.noConfusion, rfl⟩

/-- A run that has stopped admits nothing more. -/
theorem not_admitted_of_stopped (moves : List Move) (hphase : s.phase ≠ .running) :
    ∀ answer ∈ s.answers moves, answer.admission = .droppedAfterKill := by
  induction moves generalizing s with
  | nil => exact fun _ h => nomatch h
  | cons move rest ih =>
      have hrest := ih ((phaseMove_moved s move).ne_running hphase)
      rcases answers_cons s move rest with ⟨rawBytes, nowNs, rfl, heq⟩ | ⟨-, heq⟩
      · rw [heq]
        rintro answer (_ | ⟨_, hlater⟩)
        · simp only [admitRaw, if_pos hphase]
        · exact hrest answer hlater
      · rw [heq]
        exact hrest

theorem filter_admitted_of_stopped (moves : List Move) (hphase : s.phase ≠ .running) :
    (s.answers moves).filter Answer.isAdmitted = [] := by
  rw [List.filter_eq_nil_iff]
  intro answer hanswer
  rw [Answer.isAdmitted, not_admitted_of_stopped moves hphase answer hanswer]
  decide

/-- The run lemma: the admissions are what a fixed-window limiter lets through. -/
theorem paced_answers (moves : List Move) {count : ℕ} (hcount : s.windowCount = count) :
    FixedWindow.Paced (windowNs s.criteria) (windowLimit s.criteria) s.windowStartedNs count
      (((s.answers moves).filter Answer.isAdmitted).map Answer.arrival) := by
  induction moves generalizing s count with
  | nil => exact .nil
  | cons move rest ih =>
      replace ih : ∀ {s' : RunState} {started : Option ℤ} {total : ℤ} {count : ℕ},
          s.Windows s' started total → total = count →
          FixedWindow.Paced (windowNs s.criteria) (windowLimit s.criteria) started count
            (((s'.answers rest).filter Answer.isAdmitted).map Answer.arrival) := by
        rintro s' started total count ⟨hcriteria, rfl, rfl⟩ htotal
        have hrest := ih htotal
        rwa [hcriteria] at hrest
      rcases answers_cons s move rest with ⟨rawBytes, nowNs, rfl, heq⟩ | ⟨hother, heq⟩
      · rw [heq]
        rcases admitRaw_cases s rawBytes nowNs with ⟨hdrop, hnext⟩ | ⟨hover, hstop⟩ |
          ⟨hadmitted, ⟨hopens, hover, hnext⟩ | ⟨hopens, ⟨started, hstarted, hinside⟩, hroom, hnext⟩⟩
        · rw [List.filter_cons_of_neg (by simp [Answer.isAdmitted, hdrop])]
          exact ih hnext hcount
        · rw [List.filter_cons_of_neg (by simp [Answer.isAdmitted, hover]),
            filter_admitted_of_stopped rest hstop]
          exact .nil
        · rw [List.filter_cons_of_pos (by simp [Answer.isAdmitted, hadmitted]), hopens]
          have hpos := s.criteria.maxRequestsPerWindow.le
          refine .opens hover ?_ (ih hnext rfl)
          rw [windowLimit]
          omega
        · rw [List.filter_cons_of_pos (by simp [Answer.isAdmitted, hadmitted]), hopens, hstarted]
          rw [hstarted] at hnext
          refine .stay hinside ?_ (ih hnext ?_)
          · rw [windowLimit]
            omega
          · rw [hcount]
            rfl
      · rw [heq]
        exact ih (moved_frame s move hother) hcount

/-- Nothing is admitted behind an overload. -/
theorem overload_pairwise (s : RunState) (moves : List Move) :
    (s.answers moves).Pairwise fun earlier later =>
      earlier.admission = .firstOverload → later.admission ≠ .admitted := by
  induction moves generalizing s with
  | nil => exact .nil
  | cons move rest ih =>
      rcases answers_cons s move rest with ⟨rawBytes, nowNs, rfl, heq⟩ | ⟨-, heq⟩
      · rw [heq]
        refine .cons (fun later hlater hover => ?_) (ih _)
        have hstop : (s.admitRaw rawBytes nowNs).1.phase ≠ .running := by
          rcases admitRaw_cases s rawBytes nowNs with ⟨hdrop, -⟩ | ⟨-, hstop⟩ | ⟨hadmitted, -⟩
          · exact absurd (hdrop.symm.trans hover) (by decide)
          · exact hstop
          · exact absurd (hadmitted.symm.trans hover) (by decide)
        rw [not_admitted_of_stopped rest hstop later hlater]
        decide
      · rw [heq]
        exact ih _

/-- The rate bounds on the answers of a run. -/
structure RateBound (criteria : KillCriteria) (answers : List Answer) : Prop where
  interval : ∀ t, ((answers.filter fun answer => answer.admission = .admitted ∧ t ≤ answer.nowNs ∧
      answer.nowNs < t + criteria.rateWindowMs.1 * 1000000).length : ℤ) ≤
    2 * criteria.maxRequestsPerWindow.1
  /-- Answers of which at most the first started a window are a part of one window. -/
  window : ∀ before window after, answers = before ++ window ++ after →
    (∀ answer ∈ window.tail, answer.opens = false) →
    ((window.filter fun answer => answer.admission = .admitted).length : ℤ) ≤
      criteria.maxRequestsPerWindow.1
  overload : answers.Pairwise fun earlier later =>
    earlier.admission = .firstOverload → later.admission ≠ .admitted

/-- The tail of the admissions of a window is among the tail of its answers. -/
theorem mem_tail_of_filter {answers : List Answer} {answer : Answer}
    (h : answer ∈ (answers.filter Answer.isAdmitted).tail) : answer ∈ answers.tail := by
  cases answers with
  | nil => exact h
  | cons first rest =>
      rw [List.tail_cons]
      rw [List.filter_cons] at h
      split at h
      · exact List.mem_of_mem_filter h
      · exact List.mem_of_mem_filter (List.mem_of_mem_tail h)

end RunState

/-- The rate limit of every run: no interval of one window's length admits more than two
windows' worth, no counting window more than its own, and nothing follows an overload. -/
theorem rateBound_answers (criteria : KillCriteria) (moves : List RunState.Move)
    (hnow : ((RunState.init criteria).answers moves).Pairwise fun earlier later =>
      earlier.nowNs ≤ later.nowNs) :
    RunState.RateBound criteria ((RunState.init criteria).answers moves) := by
  have hpaced : FixedWindow.Paced (RunState.windowNs criteria) (RunState.windowLimit criteria)
      none 0 ((((RunState.init criteria).answers moves).filter RunState.Answer.isAdmitted).map
        RunState.Answer.arrival) :=
    RunState.paced_answers (s := .init criteria) moves rfl
  have hpos := criteria.maxRequestsPerWindow.le
  have hlimit : (RunState.windowLimit criteria : ℤ) = criteria.maxRequestsPerWindow.1 := by
    rw [RunState.windowLimit]
    omega
  refine ⟨fun t => ?_, fun before window after hsplit hstay => ?_,
    RunState.overload_pairwise _ moves⟩
  · have hsorted : ((((RunState.init criteria).answers moves).filter
        RunState.Answer.isAdmitted).map RunState.Answer.arrival |>.map Prod.fst).Pairwise
          (· ≤ ·) := by
      rw [List.map_map, List.pairwise_map]
      exact hnow.filter _
    have hbound := hpaced.within_le_two_mul hsorted t
    rw [FixedWindow.within, List.filter_map, List.length_map, List.filter_filter] at hbound
    have hcast := (@Nat.cast_le ℤ _ _ _ _).mpr hbound
    rw [Nat.cast_mul, hlimit] at hcast
    refine le_trans (le_of_eq ?_) hcast
    congr 2
    refine List.filter_congr fun answer _ => ?_
    rw [Bool.eq_iff_iff, Bool.and_eq_true, Function.comp_apply, decide_eq_true_eq,
      decide_eq_true_eq, RunState.Answer.isAdmitted, decide_eq_true_eq]
    exact and_comm
  · rw [hsplit, List.filter_append, List.filter_append, List.map_append, List.map_append] at hpaced
    have hbound := hpaced.length_le (Nat.zero_le _) ?_
    · rw [List.length_map] at hbound
      have hcast : (((window.filter RunState.Answer.isAdmitted).length : ℕ) : ℤ) ≤
          RunState.windowLimit criteria := Nat.cast_le.mpr hbound
      exact hcast.trans hlimit.le
    · rw [← List.map_tail]
      intro arrival harrival
      obtain ⟨answer, hanswer, rfl⟩ := List.mem_map.mp harrival
      exact hstay answer (RunState.mem_tail_of_filter hanswer)

/-- Three requests around the end of a window, and a kill between them. -/
def paceMoves : List RunState.Move :=
  [.admitRaw 1 0, .admitRaw 1 999999999, .admitRaw 1 1000000000, .latchKill, .admitRaw 1 1000000000]

theorem rateBound_paceMoves : RunState.RateBound Reference.criteria
    ((RunState.init Reference.criteria).answers paceMoves) :=
  rateBound_answers Reference.criteria paceMoves (by decide)

/-! ## Requests in flight -/

namespace RunState

/-- Everything that `begin_authorized` checks is in order. -/
def Grants (s : RunState) (body : DecisionBody) (nowNs reserveEgressBytes : ℤ) : Prop :=
  s.phase = .running ∧ body.verdict = .allow ∧ body.killEpoch.1 = s.killEpoch ∧
    (∃ expires, body.authorizationExpiresMonotonicNs = some expires ∧ nowNs ≤ expires.1) ∧
    (∃ id, body.authorizationId = some id ∧ id.1 ∉ s.consumedAuthorizations) ∧
    0 < reserveEgressBytes ∧
    s.egressBytes + s.reservedEgressBytes + reserveEgressBytes ≤ s.criteria.maxTotalEgressBytes.1

variable {s : RunState}

theorem inflight_admitRaw (s : RunState) (rawBytes nowNs : ℤ) :
    (s.admitRaw rawBytes nowNs).1.inflight = s.inflight := by
  obtain ⟨started, count, hwindow⟩ := openWindow_eq { s with observed := s.observed + 1 } nowNs
  simp only [admitRaw, hwindow]
  split_ifs
  · rfl
  · exact inflight_latchKillLocked _
  · rfl

theorem inflight_reserve_of_grants {body : DecisionBody} {nowNs bytes : ℤ}
    (h : s.Grants body nowNs bytes) : (s.reserve body nowNs bytes).1.inflight = s.inflight + 1 := by
  obtain ⟨hphase, hverdict, hepoch, ⟨expires, hexpires, hlive⟩, ⟨id, hid, hfresh⟩, hpos, hbudget⟩ := h
  rw [reserve_of_capability hphase hverdict hepoch hid hexpires hlive hfresh hpos hbudget]

/-- Only a granted reservation adds to the requests in flight, and only one. -/
theorem inflight_moved_le (s : RunState) (move : Move) :
    (s.moved move).inflight ≤ max s.inflight 0 ∨
    ∃ body nowNs bytes, move = .reserve body nowNs bytes ∧ s.Grants body nowNs bytes ∧
      (s.moved move).inflight = s.inflight + 1 := by
  have hkeep : ∀ {n : ℤ}, n ≤ s.inflight → n ≤ max s.inflight 0 := fun h => le_max_of_le_left h
  cases move with
  | admitRaw rawBytes nowNs => exact .inl (hkeep (inflight_admitRaw s rawBytes nowNs).le)
  | latchKill => exact .inl (hkeep (inflight_latchKillLocked s).le)
  | recordDecision verdict =>
      refine .inl (hkeep ?_)
      simp only [moved, recordDecision]
      split <;> exact le_rfl
  | reserve body nowNs bytes =>
      rw [moved]
      rcases reserve_cases s body nowNs bytes with ⟨_, heq⟩ | ⟨_, heq⟩ |
        ⟨id, expires, hphase, hverdict, hepoch, hid, hexpires, hlive, hfresh, hpos, hbudget, heq⟩
      · rw [heq]
        exact .inl (hkeep le_rfl)
      · rw [heq]
        exact .inl (hkeep (inflight_latchKillLocked s).le)
      · refine .inr ⟨body, nowNs, bytes, rfl, ?_, by rw [heq]⟩
        exact ⟨hphase, hverdict, hepoch, ⟨expires, hexpires, hlive⟩, ⟨id, hid, hfresh⟩, hpos, hbudget⟩
  | rollback lease =>
      refine .inl (hkeep ?_)
      rw [moved, rollback, inflight_latchKillLocked]
      exact Int.sub_le_self _ zero_le_one
  | prepareFinish lease bytes =>
      refine .inl (hkeep ?_)
      rw [moved]
      rcases prepareFinish_cases s lease bytes with ⟨_, heq⟩ | ⟨_, heq⟩ | ⟨_, _, _, _, heq⟩
      · rw [heq]
      · rw [heq, inflight_latchKillLocked]
      · rw [heq]
  | settle lease reserved bytes => exact .inl (hkeep (Int.sub_le_self _ zero_le_one))
  | resultFailed => exact .inl (hkeep (inflight_latchKillLocked s).le)
  | abortAuthorized lease =>
      refine .inl (hkeep ?_)
      simp only [moved, abortAuthorized]
      split
      · exact le_rfl
      · exact Int.sub_le_self _ zero_le_one
  | markKilled =>
      simp only [moved, markKilled]
      split
      · exact .inl (hkeep le_rfl)
      · exact .inl (le_max_right _ _)
  | markCompleted =>
      refine .inl (hkeep ?_)
      simp only [moved, markCompleted]
      split <;> exact le_rfl

end RunState

/-- The requests in flight stay within their limit in every state of a run exactly when every
reservation that is granted finds fewer requests in flight than the limit. -/
theorem inflight_le_iff (criteria : KillCriteria) (moves : List RunState.Move) :
    (∀ earlier later, moves = earlier ++ later →
      ((RunState.init criteria).afterMoves earlier).inflight ≤ criteria.maxInflightRequests.1) ↔
    ∀ earlier body nowNs bytes later, moves = earlier ++ .reserve body nowNs bytes :: later →
      ((RunState.init criteria).afterMoves earlier).Grants body nowNs bytes →
      ((RunState.init criteria).afterMoves earlier).inflight < criteria.maxInflightRequests.1 := by
  constructor
  · intro h earlier body nowNs bytes later heq hgrants
    have hafter := h (earlier ++ [.reserve body nowNs bytes]) later (by rw [heq]; simp)
    rw [RunState.afterMoves_concat, RunState.moved,
      RunState.inflight_reserve_of_grants hgrants] at hafter
    omega
  · intro h earlier
    induction earlier using List.reverseRecOn with
    | nil =>
        intro _ _
        exact zero_le_one.trans criteria.maxInflightRequests.le
    | append_singleton earlier move ih =>
        intro later heq
        have hbefore := ih (move :: later) (by rw [heq]; simp)
        have hpos := criteria.maxInflightRequests.le
        rw [RunState.afterMoves_concat]
        rcases RunState.inflight_moved_le ((RunState.init criteria).afterMoves earlier) move with
          hle | ⟨body, nowNs, bytes, rfl, hgrants, hnext⟩
        · omega
        · have hroom := h earlier body nowNs bytes later (by rw [heq]; simp) hgrants
          omega

theorem oneAtATime_limit : intRange 1 maxSafeInteger 1 = .ok () := by decide

/-- The reference criteria with room for one request at a time. -/
def oneAtATime : KillCriteria :=
  { Reference.criteria with maxInflightRequests := ⟨1, oneAtATime_limit⟩, coherent := by decide }

theorem opaqueId_run : opaqueIdCheck "run:demo" = .ok () := by decide

/-- An allowance that one dispatch may use. -/
def allowance (id : OpaqueId) : DecisionBody where
  runId := ⟨"run:demo", opaqueId_run⟩
  manifestHash := ⟨genesisHash, by decide⟩
  requestId := ⟨"request:demo", by decide⟩
  requestEventSequence := ⟨0, Reference.safeInt_zero⟩
  requestEventHash := ⟨genesisHash, by decide⟩
  actionSha256 := ⟨genesisHash, by decide⟩
  gatewayKeyId := ⟨"gateway-key:demo", by decide⟩
  gatewayInstanceId := ⟨"gateway-instance:demo", Reference.opaqueId_gatewayInstance⟩
  decidedAt := Reference.timestamp Reference.now
  decisionMonotonicNs := ⟨2000, Reference.safeInt_decided⟩
  killEpoch := ⟨0, Reference.safeInt_zero⟩
  verdict := .allow
  reasonCode := ⟨"policy.allowed", Reference.opaqueId_allowed⟩
  matchedRuleId := some Reference.rule.ruleId
  hardViolation := false
  authorizationId := some id
  authorizationExpiresMonotonicNs := some ⟨1000002000, Reference.safeInt_expires⟩
  authorizationMaxUses := some ()
  coherent := rfl

/-- Two requests are admitted before the first of them is dispatched. -/
theorem two_in_flight : ¬ ∀ (criteria : KillCriteria) (moves : List RunState.Move),
    ((RunState.init criteria).afterMoves moves).inflight ≤ criteria.maxInflightRequests.1 := by
  intro hclaim
  have hbound := hclaim oneAtATime [.admitRaw 100 1000, .admitRaw 100 1000,
    .reserve (allowance ⟨"auth:00", by decide⟩) 3000 10,
    .reserve (allowance ⟨"auth:01", by decide⟩) 3000 10]
  exact absurd hbound (by decide)

end Containment
