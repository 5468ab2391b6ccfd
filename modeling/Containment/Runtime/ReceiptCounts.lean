/-
# The counters of the receipt

A receipt takes the counters, seals the ledger and covers the events it then finds. A
decision is counted after its commit, and between the snapshot and the seal another thread
may commit. So the counters can fall short of the events that the receipt covers. They do
not when no decision waits to be counted at the snapshot and no event of the request
protocol is appended before the seal, whatever the schedule.
-/

import Containment.Concurrency.Ghost
import Containment.Runtime.Calls
import Containment.Runtime.Commit
import Containment.Runtime.Counting
import Containment.Reference.Completion
import Containment.Reference.Submission

namespace Containment

open Json Concurrency Discipline

variable {P : Platform}

/-! ## Snapshots that are complete -/

/-- The decisions that are in the ledger and not yet counted, each with the thread that will
count it, and whether the last snapshot for a receipt still shows all of the ledger. -/
structure Watch where
  pending : List (ℕ × Verdict)
  complete : Bool

def Watch.start : Watch := ⟨[], false⟩

/-- The kinds of the events that are counted. -/
def EventKind.Counted (kind : EventKind) : Prop :=
  kind = .decision ∨ kind = .dispatch ∨ kind = .result

instance (kind : EventKind) : Decidable kind.Counted :=
  inferInstanceAs (Decidable (_ ∨ _ ∨ _))

/-- The watch after an operation of thread `t`. -/
def watched (op : Op P) (t : ℕ) (s s' : Runtime P) (w : Watch) : Watch :=
  match op with
  | .recordDecision verdict => { w with pending := w.pending.erase (t, verdict) }
  | .snapshot => if s.receiptLock = some t then { w with complete := w.pending.isEmpty } else w
  | .commit .. =>
      match s'.ledger.events.drop s.ledger.events.length with
      | [] => w
      | event :: _ =>
          { pending := w.pending ++ (verdictOf event).toList.map fun verdict => (t, verdict)
            complete := w.complete && !decide event.body.kind.Counted }
  | _ => w

/-- The runtime beside the watch. -/
@[reducible]
def watchedService (d : Deployment P) : Service (Op P) Op.Res PyError :=
  (runtimeService d).ghost fun _ t op s s' w => watched op t s s' w

/-- Concurrent calls of any kind. Every commit before the seal succeeds. -/
def committedBeforeSeal (d : Deployment P) : RunRule (runtimeService d) where
  starts _ _ := True
  moves s op env := ∀ kind payload requestId ns, op = .commit kind payload requestId ns →
    s.ledger.isSealed = false → ∃ event, (s.commit d env kind payload requestId ns).2 = .ok event

/-- In addition, the ledger is sealed while the last snapshot is complete. -/
def sealedComplete (d : Deployment P) : RunRule (watchedService d) where
  starts _ _ := True
  moves s op env := (committedBeforeSeal d).moves s.1 op env ∧ (op = .seal → s.2.complete = true)

/-- The four counters of the receipt are those of the events it covers. -/
structure CountsCovered (receipt : Receipt P) (events : List (Event P)) : Prop where
  allowed : receipt.body.allowedRequestCount.1 =
    (recount (events.take receipt.body.eventCount.1.toNat)).allowed
  denied : receipt.body.deniedRequestCount.1 =
    (recount (events.take receipt.body.eventCount.1.toNat)).denied
  dispatched : receipt.body.dispatchedRequestCount.1 =
    (recount (events.take receipt.body.eventCount.1.toNat)).dispatched
  completed : receipt.body.completedRequestCount.1 =
    (recount (events.take receipt.body.eventCount.1.toNat)).completed

namespace ReceiptCounts

variable {d : Deployment P} {env : World} {t : ℕ} {s s' : Runtime P × Watch}

/-- The snapshot shows the events. -/
structure Shows (state : RunState) (events : List (Event P)) : Prop where
  allowed : state.allowed = (recount events).allowed
  denied : state.denied = (recount events).denied
  dispatched : state.dispatched = (recount events).dispatched
  completed : state.completed = (recount events).completed

/-- Dispatches and results are counted. -/
structure Balanced (s : Runtime P) : Prop where
  dispatched : s.state.dispatched = (recount s.ledger.events).dispatched
  completed : s.state.completed = (recount s.ledger.events).completed

/-- What holds at all times. A decision is counted or pending. -/
structure Inv (s : Runtime P × Watch) : Prop where
  agrees : Agrees s.1.ledger.events s.1.mirror
  allowed : (recount s.1.ledger.events).allowed =
    s.1.state.allowed + s.2.pending.countP fun entry => entry.2 = .allow
  denied : (recount s.1.ledger.events).denied =
    s.1.state.denied + s.2.pending.countP fun entry => ¬ entry.2 = .allow
  balanced : s.1.stateLock = none → Balanced s.1
  ended : s.1.ledger.isSealed = true → s.1.state.phase ≠ .running
  covered : ∀ receipt ∈ s.1.receipt, s.1.ledger.isSealed = true ∧
    CountsCovered receipt s.1.ledger.events

/-- What the code has established before an operation. -/
def Ready (t : ℕ) (s : Runtime P × Watch) : Op P → Prop
  | .recordDecision verdict => (t, verdict) ∈ s.2.pending
  | .commit kind _ _ _ => kind = .dispatch ∨ kind = .result → s.1.stateLock = some t
  | .confirm | .failFinish => Balanced s.1
  | .rollback _ => False
  | .settle .. => s.1.state.dispatched = (recount s.1.ledger.events).dispatched ∧
      s.1.state.completed + 1 = (recount s.1.ledger.events).completed
  | .seal => s.1.state.phase ≠ .running
  | .storeReceipt receipt => s.1.ledger.isSealed = true ∧ CountsCovered receipt s.1.ledger.events
  | _ => True

/-- What a waiting thread can count on. -/
structure Rely (t : ℕ) (s s' : Runtime P × Watch) : Prop where
  locked : s.1.stateLock = some t → s'.1.stateLock = some t ∧ s'.1.state = s.1.state ∧
    (recount s'.1.ledger.events).dispatched = (recount s.1.ledger.events).dispatched ∧
    (recount s'.1.ledger.events).completed = (recount s.1.ledger.events).completed
  ended : s.1.state.phase ≠ .running → s'.1.state.phase ≠ .running
  frozen : s.1.ledger.isSealed = true → s'.1.ledger = s.1.ledger ∧ s'.1.mirror = s.1.mirror
  pending : ∀ verdict, (t, verdict) ∈ s.2.pending → (t, verdict) ∈ s'.2.pending
  snapped : s.1.receiptLock = some t → s'.1.receiptLock = some t ∧ (s'.2.complete = true →
    s.2.complete = true ∧ recount s'.1.ledger.events = recount s.1.ledger.events)

/-! ## One operation -/

/-- What an operation aside leaves alone. -/
theorem aside_exec {op : Op P} {r : op.Res} {s s' : Runtime P} (hop : op.Aside)
    (h : exec d env t s op = some (s', r)) :
    s'.stateLock = s.stateLock ∧ s'.ledger = s.ledger ∧ s'.mirror = s.mirror ∧
      s'.receipt = s.receipt := by
  cases op
  all_goals try exact absurd hop id
  all_goals
    simp only [exec, onState_eq_some, Option.some.injEq, Prod.mk.injEq,
      Option.ite_none_right_eq_some] at h
  all_goals try split at h
  all_goals try split at h
  all_goals try simp only [Option.some.injEq, Prod.mk.injEq] at h
  all_goals first | obtain ⟨rfl, -⟩ := h | obtain ⟨-, rfl, -⟩ := h
  all_goals exact ⟨rfl, rfl, rfl, rfl⟩

theorem watched_of_aside {op : Op P} {s s' : Runtime P} {w : Watch} (hop : op.Aside) :
    watched op t s s' w = w := by
  cases op <;> first | rfl | exact absurd hop id

theorem Balanced.of_eq {s s' : Runtime P} (h : Balanced s) (htally : s'.state.tally = s.state.tally)
    (hledger : s'.ledger = s.ledger) : Balanced s' := by
  have hdispatched : s'.state.dispatched = s.state.dispatched := congrArg Tally.dispatched htally
  have hcompleted : s'.state.completed = s.state.completed := congrArg Tally.completed htally
  exact ⟨by rw [hdispatched, hledger, h.dispatched], by rw [hcompleted, hledger, h.completed]⟩

/-- Neither the evidence nor the decision counters change. -/
theorem Inv.of_eq (h : Inv s) {s₁ : Runtime P} (complete : Bool)
    (hallowed : s₁.state.allowed = s.1.state.allowed)
    (hdenied : s₁.state.denied = s.1.state.denied) (hledger : s₁.ledger = s.1.ledger)
    (hmirror : s₁.mirror = s.1.mirror) (hreceipt : s₁.receipt = s.1.receipt)
    (hphase : s.1.state.phase ≠ .running → s₁.state.phase ≠ .running)
    (hbalanced : s₁.stateLock = none → Balanced s₁) : Inv (s₁, ⟨s.2.pending, complete⟩) := by
  refine ⟨?_, ?_, ?_, hbalanced, ?_, ?_⟩
  · rw [hledger, hmirror]
    exact h.agrees
  · rw [hledger, hallowed]
    exact h.allowed
  · rw [hledger, hdenied]
    exact h.denied
  · rw [hledger]
    exact fun hsealed => hphase (h.ended hsealed)
  · rw [hledger, hreceipt]
    exact h.covered

/-! ### Commits -/

theorem unsealed_of_append {config : LedgerConfig P} {ledger : EvidenceLedger P} {clocks : Clocks}
    {kind : EventKind} {payload : Json} {requestId : Option String} {ns : Option ℤ}
    {fault : Option PyError} {event : Event P}
    (h : ledger.append config clocks kind payload requestId ns fault = .ok event) :
    ledger.isSealed = false := by
  simp only [EvidenceLedger.append, bind_eq_ok, Unique.exists_iff, ensure_eq_ok] at h
  exact h.1

theorem allowed_snoc (events : List (Event P)) (event : Event P) :
    (recount (events ++ [event])).allowed = (recount events).allowed +
      ((verdictOf event).toList.map fun verdict => (t, verdict)).countP fun entry =>
        entry.2 = .allow := by
  cases hverdict : verdictOf event with
  | none => simp [recount, List.countP_append, hverdict]
  | some verdict => cases verdict <;> simp [recount, List.countP_append, hverdict]

theorem denied_snoc (events : List (Event P)) (event : Event P) :
    (recount (events ++ [event])).denied = (recount events).denied +
      ((verdictOf event).toList.map fun verdict => (t, verdict)).countP fun entry =>
        ¬ entry.2 = .allow := by
  cases hverdict : verdictOf event with
  | none => simp [recount, List.countP_append, hverdict]
  | some verdict => cases verdict <;> simp [recount, List.countP_append, hverdict]

theorem dispatched_snoc {events : List (Event P)} {event : Event P}
    (h : ¬ (event.body.kind = .dispatch ∨ event.body.kind = .result)) :
    (recount (events ++ [event])).dispatched = (recount events).dispatched ∧
      (recount (events ++ [event])).completed = (recount events).completed := by
  obtain ⟨hdispatch, hresult⟩ := not_or.mp h
  simp [recount, List.countP_append, hdispatch, hresult]

theorem recount_snoc_uncounted {events : List (Event P)} {event : Event P}
    (h : ¬ event.body.kind.Counted) : recount (events ++ [event]) = recount events := by
  obtain ⟨hdecision, hdispatch, hresult⟩ : event.body.kind ≠ .decision ∧
      event.body.kind ≠ .dispatch ∧ event.body.kind ≠ .result := by
    simpa only [EventKind.Counted, not_or] using h
  have hverdict : verdictOf event = none := if_neg hdecision
  simp [recount, List.countP_append, List.filter_append, hverdict, hdispatch, hresult]

/-- A commit does nothing on a sealed ledger, and is appended and mirrored on another. -/
theorem commit_moves {s : Runtime P} {kind : EventKind} {payload : Json}
    {requestId : Option String} {ns : Option ℤ}
    (hmove : (committedBeforeSeal d).moves s (.commit kind payload requestId ns) env) :
    (∃ error, s.ledger.isSealed = true ∧
      s.commit d env kind payload requestId ns = (s, .error error)) ∨
    ∃ event mirror history, s.ledger.isSealed = false ∧ event.body.kind = kind ∧
      canonicalJson P payload = .ok event.body.payloadCanonicalJson.1 ∧
      s.mirror.observe d.manifest event = .ok mirror ∧
      s.commit d env kind payload requestId ns = ({ s with
        ledger := { s.ledger with events := s.ledger.events ++ [event] }
        mirror := mirror
        history := history }, .ok event) := by
  have hok := hmove _ _ _ _ rfl
  rcases commit_cases d env s kind payload requestId ns with ⟨error, heq⟩ |
    ⟨event, mirrored, outcome, mirror, happend, hmirror, heq⟩
  · refine .inl ⟨error, ?_, heq⟩
    by_contra hsealed
    obtain ⟨event, hevent⟩ := hok (by simpa using hsealed)
    rw [heq] at hevent
    cases hevent
  · have hunsealed := unsealed_of_append happend
    obtain ⟨hpayload, hkind, -, -⟩ := append_ok happend
    obtain ⟨event', hevent⟩ := hok hunsealed
    cases mirrored with
    | false =>
        obtain ⟨-, error, -, houtcome⟩ := hmirror
        rw [heq, houtcome] at hevent
        cases hevent
    | true =>
        obtain ⟨hobserve, houtcome⟩ := hmirror
        exact .inr ⟨event, mirror, _, hunsealed, hkind, hpayload, hobserve, by rw [heq, houtcome]; rfl⟩

theorem watched_commit {s : Runtime P} {kind : EventKind} {payload : Json}
    {requestId : Option String} {ns : Option ℤ} {w : Watch} {s' : Runtime P} {event : Event P}
    (h : s'.ledger.events = s.ledger.events ++ [event]) :
    watched (.commit kind payload requestId ns) t s s' w =
      { pending := w.pending ++ (verdictOf event).toList.map fun verdict => (t, verdict)
        complete := w.complete && !decide event.body.kind.Counted } := by
  simp only [watched, h, List.drop_left]

theorem watched_refused {s : Runtime P} {kind : EventKind} {payload : Json}
    {requestId : Option String} {ns : Option ℤ} {w : Watch} :
    watched (.commit kind payload requestId ns) t s s w = w := by
  simp only [watched, List.drop_length]

theorem inv_commit {kind : EventKind} {payload : Json} {requestId : Option String} {ns : Option ℤ}
    {r : Except PyError (Event P)} {s₁ : Runtime P} (h : Inv s)
    (hready : Ready t s (.commit kind payload requestId ns))
    (hmove : (committedBeforeSeal d).moves s.1 (.commit kind payload requestId ns) env)
    (hexec : exec d env t s.1 (.commit kind payload requestId ns) = some (s₁, r)) :
    Inv (s₁, watched (.commit kind payload requestId ns) t s.1 s₁ s.2) := by
  rw [exec, Option.some.injEq] at hexec
  rcases commit_moves hmove with ⟨error, -, heq⟩ |
    ⟨event, mirror, history, hunsealed, hkind, -, hobserve, heq⟩
  · rw [heq, Prod.mk.injEq] at hexec
    obtain ⟨rfl, -⟩ := hexec
    rw [watched_refused]
    exact h
  · rw [heq, Prod.mk.injEq] at hexec
    obtain ⟨rfl, -⟩ := hexec
    rw [watched_commit rfl]
    refine ⟨h.agrees.snoc hobserve, ?_, ?_, fun hlock => ?_, fun hsealed => ?_, fun receipt hmem => ?_⟩
    · change (recount (s.1.ledger.events ++ [event])).allowed = _
      rw [allowed_snoc (t := t), h.allowed, List.countP_append]
      dsimp only
      omega
    · change (recount (s.1.ledger.events ++ [event])).denied = _
      rw [denied_snoc (t := t), h.denied, List.countP_append]
      dsimp only
      omega
    · have hkinds : ¬ (event.body.kind = .dispatch ∨ event.body.kind = .result) := by
        rw [hkind]
        intro hprotocol
        have hheld := hready hprotocol
        rw [show s.1.stateLock = none from hlock] at hheld
        cases hheld
      obtain ⟨hdispatched, hcompleted⟩ := @dispatched_snoc _ s.1.ledger.events _ hkinds
      have hbalanced := h.balanced hlock
      exact ⟨hbalanced.dispatched.trans hdispatched.symm, hbalanced.completed.trans hcompleted.symm⟩
    · rw [show s.1.ledger.isSealed = true from hsealed] at hunsealed
      cases hunsealed
    · rw [(h.covered receipt hmem).1] at hunsealed
      cases hunsealed

/-! ### The sections -/

/-- The decision counters of equal tallies. -/
theorem decisions_of_tally {state state' : RunState} (h : state'.tally = state.tally) :
    state'.allowed = state.allowed ∧ state'.denied = state.denied :=
  ⟨congrArg Tally.allowed h, congrArg Tally.denied h⟩

theorem inv_recordDecision {verdict : Verdict} (h : Inv s) (hpending : (t, verdict) ∈ s.2.pending)
    {s₁ : Runtime P} {r : Unit}
    (hexec : exec d env t s.1 (.recordDecision verdict) = some (s₁, r)) :
    Inv (s₁, watched (.recordDecision verdict) t s.1 s₁ s.2) := by
  have hphase := notRunning_exec hexec
  simp only [exec, onState_eq_some] at hexec
  obtain ⟨hlock, rfl, -⟩ := hexec
  have htally := tally_recordDecision s.1.state verdict
  have hallowed : (s.1.state.recordDecision verdict).allowed = s.1.state.allowed +
      (decide (verdict = .allow)).toNat := congrArg Tally.allowed htally
  have hdenied : (s.1.state.recordDecision verdict).denied = s.1.state.denied +
      (!decide (verdict = .allow)).toNat := congrArg Tally.denied htally
  have hbalanced := h.balanced hlock
  -- The decision moves from the pending ones to the counters.
  have hperm := List.perm_cons_erase hpending
  refine ⟨h.agrees, ?_, ?_, fun _ => ⟨?_, ?_⟩, fun hsealed => hphase (h.ended hsealed), h.covered⟩
  · change (recount s.1.ledger.events).allowed = (s.1.state.recordDecision verdict).allowed +
      ((s.2.pending.erase (t, verdict)).countP fun entry => entry.2 = .allow : ℕ)
    rw [h.allowed, hallowed, hperm.countP_eq, List.countP_cons]
    cases verdict with
    | allow => simp; omega
    | deny | kill => simp
  · change (recount s.1.ledger.events).denied = (s.1.state.recordDecision verdict).denied +
      ((s.2.pending.erase (t, verdict)).countP fun entry => ¬ entry.2 = .allow : ℕ)
    rw [h.denied, hdenied, hperm.countP_eq, List.countP_cons]
    cases verdict <;> simp <;> omega
  · exact (congrArg Tally.dispatched htally).trans hbalanced.dispatched
  · exact (congrArg Tally.completed htally).trans hbalanced.completed

theorem inv_reserve {body : DecisionBody} {ns bytes : ℤ} (h : Inv s) {s₁ : Runtime P}
    {r : Except PyError DispatchLease}
    (hexec : exec d env t s.1 (.reserve body ns bytes) = some (s₁, r)) : Inv (s₁, s.2) := by
  have hphase := notRunning_exec hexec
  simp only [exec, Option.ite_none_right_eq_some] at hexec
  obtain ⟨hlock, hexec⟩ := hexec
  have hbalanced := h.balanced hlock
  rcases RunState.reserve_cases s.1.state body ns bytes with ⟨_, heq⟩ | ⟨_, heq⟩ |
    ⟨_, _, -, -, -, -, -, -, -, -, -, heq⟩
  · rw [heq] at hexec
    simp only [Option.some.injEq, Prod.mk.injEq] at hexec
    obtain ⟨rfl, -⟩ := hexec
    exact h.of_eq _ rfl rfl rfl rfl rfl hphase fun _ => hbalanced.of_eq rfl rfl
  · rw [heq] at hexec
    simp only [Option.some.injEq, Prod.mk.injEq] at hexec
    obtain ⟨rfl, -⟩ := hexec
    have htally := tally_latchKillLocked s.1.state
    obtain ⟨hallowed, hdenied⟩ := decisions_of_tally htally
    exact h.of_eq _ hallowed hdenied rfl rfl rfl hphase fun _ => hbalanced.of_eq htally rfl
  · rw [heq] at hexec
    simp only [Option.some.injEq, Prod.mk.injEq] at hexec
    obtain ⟨rfl, -⟩ := hexec
    exact h.of_eq _ rfl rfl rfl rfl rfl hphase fun hfree => by cases hfree

theorem inv_prepareFinish {lease : DispatchLease} {bytes : ℤ} (h : Inv s) {s₁ : Runtime P}
    {r : Except PyError ℤ}
    (hexec : exec d env t s.1 (.prepareFinish lease bytes) = some (s₁, r)) : Inv (s₁, s.2) := by
  have hphase := notRunning_exec hexec
  simp only [exec, Option.ite_none_right_eq_some] at hexec
  obtain ⟨hlock, hexec⟩ := hexec
  have hbalanced := h.balanced hlock
  rcases RunState.prepareFinish_cases s.1.state lease bytes with ⟨_, heq⟩ | ⟨_, heq⟩ |
    ⟨_, -, -, -, heq⟩
  · rw [heq] at hexec
    simp only [Option.some.injEq, Prod.mk.injEq] at hexec
    obtain ⟨rfl, -⟩ := hexec
    exact h.of_eq _ rfl rfl rfl rfl rfl hphase fun _ => hbalanced.of_eq rfl rfl
  · rw [heq] at hexec
    simp only [Option.some.injEq, Prod.mk.injEq] at hexec
    obtain ⟨rfl, -⟩ := hexec
    have htally := tally_latchKillLocked s.1.state
    obtain ⟨hallowed, hdenied⟩ := decisions_of_tally htally
    exact h.of_eq _ hallowed hdenied rfl rfl rfl hphase fun _ => hbalanced.of_eq htally rfl
  · rw [heq] at hexec
    simp only [Option.some.injEq, Prod.mk.injEq] at hexec
    obtain ⟨rfl, -⟩ := hexec
    exact h.of_eq _ rfl rfl rfl rfl rfl hphase fun hfree => by cases hfree

theorem inv_exec {op : Op P} {r : op.Res} (h : Inv s) (hready : Ready t s op)
    (hmove : (sealedComplete d).moves s op env)
    (hexec : (watchedService d).exec env t s op = some (s', r)) : Inv s' := by
  obtain ⟨hdone, hwatch⟩ := ghost_exec.mp hexec
  obtain ⟨s₁, w⟩ := s'
  dsimp only at hdone hwatch
  subst hwatch
  have hphase := notRunning_exec hdone
  by_cases haside : op.Aside
  · obtain ⟨hlock, hledger, hmirror, hreceipt⟩ := aside_exec haside hdone
    have htally := tally_exec hdone haside.side.uncounted
    obtain ⟨hallowed, hdenied⟩ := decisions_of_tally htally
    rw [watched_of_aside haside]
    refine h.of_eq _ hallowed hdenied hledger hmirror hreceipt hphase fun hfree => ?_
    rw [hlock] at hfree
    exact (h.balanced hfree).of_eq htally hledger
  by_cases hseal : op = .seal
  · subst hseal
    simp only [exec, Option.some.injEq, Prod.mk.injEq] at hdone
    obtain ⟨rfl, -⟩ := hdone
    exact ⟨h.agrees, h.allowed, h.denied, fun hfree => ⟨(h.balanced hfree).dispatched,
      (h.balanced hfree).completed⟩, fun _ => hready,
      fun receipt hmem => ⟨rfl, (h.covered receipt hmem).2⟩⟩
  cases op
  case commit => exact inv_commit h hready hmove.1 hdone
  case recordDecision => exact inv_recordDecision h hready hdone
  case reserve => exact inv_reserve h hdone
  case prepareFinish => exact inv_prepareFinish h hdone
  case rollback => exact absurd hready id
  case snapshot =>
    simp only [exec, onState_eq_some] at hdone
    obtain ⟨-, rfl, -⟩ := hdone
    unfold watched
    dsimp only
    split_ifs
    · exact h.of_eq _ rfl rfl rfl rfl rfl hphase h.balanced
    · exact h
  case unregister =>
    simp only [exec, Option.some.injEq, Prod.mk.injEq] at hdone
    obtain ⟨rfl, -⟩ := hdone
    exact h.of_eq _ rfl rfl rfl rfl rfl hphase fun hfree => ⟨(h.balanced hfree).dispatched,
      (h.balanced hfree).completed⟩
  case confirm =>
    simp only [exec, Option.ite_none_right_eq_some, Option.some.injEq, Prod.mk.injEq] at hdone
    obtain ⟨-, rfl, -⟩ := hdone
    exact h.of_eq _ rfl rfl rfl rfl rfl hphase fun _ => ⟨hready.dispatched, hready.completed⟩
  case failFinish =>
    simp only [exec, Option.ite_none_right_eq_some, Option.some.injEq, Prod.mk.injEq] at hdone
    obtain ⟨-, rfl, -⟩ := hdone
    have htally := tally_latchKillLocked s.1.state
    obtain ⟨hallowed, hdenied⟩ := decisions_of_tally htally
    exact h.of_eq _ hallowed hdenied rfl rfl rfl hphase fun _ => hready.of_eq htally rfl
  case settle =>
    simp only [exec, Option.ite_none_right_eq_some, Option.some.injEq, Prod.mk.injEq] at hdone
    obtain ⟨-, rfl, -⟩ := hdone
    exact h.of_eq _ rfl rfl rfl rfl rfl hphase fun _ => ⟨hready.1, hready.2⟩
  case storeReceipt receipt =>
    simp only [exec, Option.some.injEq, Prod.mk.injEq] at hdone
    obtain ⟨rfl, -⟩ := hdone
    refine ⟨h.agrees, h.allowed, h.denied, fun hfree => ⟨(h.balanced hfree).dispatched,
      (h.balanced hfree).completed⟩, h.ended, ?_⟩
    rintro _ ⟨⟩
    exact hready
  all_goals first | exact absurd trivial haside | exact absurd rfl hseal

/-! ### Interference -/

theorem receiptLock_exec {op : Op P} {r : op.Res} {s s' : Runtime P}
    (h : exec d env t s op = some (s', r)) {u : ℕ} (hu : u ≠ t) (hlock : s.receiptLock = some u) :
    s'.receiptLock = some u := by
  have hnone : s.receiptLock ≠ none := by rw [hlock]; exact Option.some_ne_none u
  have hother : s.receiptLock ≠ some t := by
    rw [hlock]
    exact fun heq => hu (Option.some.inj heq)
  cases op
  case commit kind payload requestId ns =>
    simp only [exec, Option.some.injEq] at h
    rcases commit_cases d env s kind payload requestId ns with ⟨_, heq⟩ |
      ⟨_, _, _, _, -, -, heq⟩ <;>
    · rw [heq, Prod.mk.injEq] at h
      obtain ⟨rfl, -⟩ := h
      exact hlock
  all_goals
    simp only [exec, onState_eq_some, Option.some.injEq, Prod.mk.injEq,
      Option.ite_none_right_eq_some, hnone, hother, false_and] at h
  all_goals try split at h
  all_goals try split at h
  all_goals try simp only [Option.some.injEq, Prod.mk.injEq] at h
  all_goals first
    | (obtain ⟨rfl, -⟩ := h; exact hlock)
    | (obtain ⟨-, rfl, -⟩ := h; exact hlock)

/-- Only a commit and the seal write to the ledger. -/
theorem ledger_exec {op : Op P} {r : op.Res} {s s' : Runtime P}
    (h : exec d env t s op = some (s', r))
    (hcommit : ∀ kind payload requestId ns, op ≠ .commit kind payload requestId ns)
    (hseal : op ≠ .seal) : s'.ledger = s.ledger ∧ s'.mirror = s.mirror := by
  cases op
  case commit => exact absurd rfl (hcommit _ _ _ _)
  all_goals try exact absurd rfl hseal
  all_goals
    simp only [exec, onState_eq_some, Option.some.injEq, Prod.mk.injEq,
      Option.ite_none_right_eq_some] at h
  all_goals try split at h
  all_goals try split at h
  all_goals try simp only [Option.some.injEq, Prod.mk.injEq] at h
  all_goals
    first
    | (obtain ⟨rfl, -⟩ := h; exact ⟨rfl, rfl⟩)
    | (obtain ⟨-, rfl, -⟩ := h; exact ⟨rfl, rfl⟩)

/-- A sealed ledger stays as it is. -/
theorem frozen_exec {op : Op P} {r : op.Res} {s s' : Runtime P}
    (hmove : (committedBeforeSeal d).moves s op env) (h : exec d env t s op = some (s', r))
    (hsealed : s.ledger.isSealed = true) : s'.ledger = s.ledger ∧ s'.mirror = s.mirror := by
  by_cases hcommit : ∃ kind payload requestId ns, op = .commit kind payload requestId ns
  · obtain ⟨kind, payload, requestId, ns, rfl⟩ := hcommit
    rw [exec, Option.some.injEq] at h
    rcases commit_moves hmove with ⟨_, -, heq⟩ | ⟨_, _, _, hunsealed, -⟩
    · rw [heq, Prod.mk.injEq] at h
      obtain ⟨rfl, -⟩ := h
      exact ⟨rfl, rfl⟩
    · rw [hsealed] at hunsealed
      cases hunsealed
  · simp only [not_exists] at hcommit
    by_cases hseal : op = .seal
    · subst hseal
      simp only [exec, Option.some.injEq, Prod.mk.injEq] at h
      obtain ⟨rfl, -⟩ := h
      refine ⟨?_, rfl⟩
      rw [← hsealed]
    · exact ledger_exec h hcommit hseal

theorem rely_exec {op : Op P} {r : op.Res} (hready : Ready t s op)
    (hmove : (sealedComplete d).moves s op env)
    (hexec : (watchedService d).exec env t s op = some (s', r)) {u : ℕ} (hu : u ≠ t) :
    Rely u s s' := by
  obtain ⟨hdone, hwatch⟩ := ghost_exec.mp hexec
  obtain ⟨s₁, w⟩ := s'
  dsimp only at hdone hwatch
  subst hwatch
  by_cases hcommit : ∃ kind payload requestId ns, op = .commit kind payload requestId ns
  · obtain ⟨kind, payload, requestId, ns, rfl⟩ := hcommit
    have hlocks := lock_exec hdone hu
    have hreceipts := receiptLock_exec hdone hu
    have hended := notRunning_exec hdone
    have hfrozen := frozen_exec hmove.1 hdone
    rw [exec, Option.some.injEq] at hdone
    rcases commit_moves hmove.1 with ⟨error, -, heq⟩ | ⟨event, mirror, history, -, hkind, -, -, heq⟩
    · rw [heq, Prod.mk.injEq] at hdone
      obtain ⟨rfl, -⟩ := hdone
      rw [watched_refused]
      exact ⟨fun hlock => ⟨hlock, rfl, rfl, rfl⟩, id, fun _ => ⟨rfl, rfl⟩, fun _ hmem => hmem,
        fun hlock => ⟨hlock, fun hcomplete => ⟨hcomplete, rfl⟩⟩⟩
    · rw [heq, Prod.mk.injEq] at hdone
      obtain ⟨rfl, -⟩ := hdone
      rw [watched_commit rfl]
      refine ⟨fun hlock => ?_, hended, hfrozen, fun verdict hmem => List.mem_append_left _ hmem,
        fun hlock => ⟨hreceipts hlock, fun hcomplete => ?_⟩⟩
      · have hkinds : ¬ (event.body.kind = .dispatch ∨ event.body.kind = .result) := by
          rw [hkind]
          intro hprotocol
          have hheld := hready hprotocol
          rw [hlock] at hheld
          exact hu (Option.some.inj hheld)
        exact ⟨(hlocks hlock).1, (hlocks hlock).2, dispatched_snoc hkinds⟩
      · simp only [Bool.and_eq_true, Bool.not_eq_true', decide_eq_false_iff_not] at hcomplete
        exact ⟨hcomplete.1, recount_snoc_uncounted hcomplete.2⟩
  · simp only [not_exists] at hcommit
    obtain ⟨hevents, -⟩ := events_exec hdone hcommit
    refine ⟨fun hlock => ⟨(lock_exec hdone hu hlock).1, (lock_exec hdone hu hlock).2, ?_, ?_⟩,
      notRunning_exec hdone, frozen_exec hmove.1 hdone, fun verdict hmem => ?_,
      fun hlock => ⟨receiptLock_exec hdone hu hlock, fun hcomplete => ?_⟩⟩
    · rw [hevents]
    · rw [hevents]
    · cases op
      case commit => exact absurd rfl (hcommit _ _ _ _)
      case recordDecision verdict' =>
        exact (List.mem_erase_of_ne fun heq => hu (Prod.mk.inj heq).1).mpr hmem
      case snapshot =>
        unfold watched
        dsimp only
        split_ifs <;> exact hmem
      all_goals exact hmem
    · refine ⟨?_, by rw [hevents]⟩
      cases op
      case commit => exact absurd rfl (hcommit _ _ _ _)
      case snapshot =>
        unfold watched at hcomplete
        dsimp only at hcomplete
        rwa [if_neg] at hcomplete
        rw [hlock]
        exact fun heq => hu (Option.some.inj heq)
      all_goals exact hcomplete

theorem Rely.trans {s₁ s₂ s₃ : Runtime P × Watch} (h : Rely t s₁ s₂) (h' : Rely t s₂ s₃) :
    Rely t s₁ s₃ where
  locked hlock := by
    obtain ⟨hlock₂, hstate, hdispatched, hcompleted⟩ := h.locked hlock
    obtain ⟨hlock₃, hstate', hdispatched', hcompleted'⟩ := h'.locked hlock₂
    exact ⟨hlock₃, hstate'.trans hstate, hdispatched'.trans hdispatched,
      hcompleted'.trans hcompleted⟩
  ended hphase := h'.ended (h.ended hphase)
  frozen hsealed := by
    obtain ⟨hledger, hmirror⟩ := h.frozen hsealed
    obtain ⟨hledger', hmirror'⟩ := h'.frozen (by rw [hledger, hsealed])
    exact ⟨hledger'.trans hledger, hmirror'.trans hmirror⟩
  pending verdict hmem := h'.pending verdict (h.pending verdict hmem)
  snapped hlock := by
    obtain ⟨hlock₂, hcomplete⟩ := h.snapped hlock
    obtain ⟨hlock₃, hcomplete'⟩ := h'.snapped hlock₂
    refine ⟨hlock₃, fun htrue => ?_⟩
    obtain ⟨htrue₂, heq'⟩ := hcomplete' htrue
    obtain ⟨htrue₁, heq⟩ := hcomplete htrue₂
    exact ⟨htrue₁, heq'.trans heq⟩

variable (d) in
def discipline : Discipline (sealedComplete d) where
  inv := Inv
  ready := Ready
  rely := Rely
  rely_refl _ _ := ⟨fun hlock => ⟨hlock, rfl, rfl, rfl⟩, id, fun _ => ⟨rfl, rfl⟩, fun _ hmem => hmem,
    fun hlock => ⟨hlock, fun hcomplete => ⟨hcomplete, rfl⟩⟩⟩
  rely_trans h h' := h.trans h'
  act_inv h hready hmove hexec := inv_exec h hready hmove hexec
  act_rely _ hready hmove hexec _ hu := rely_exec hready hmove hexec hu

/-! ## Code that needs nothing -/

/-- Operations that are always ready. -/
def Op.Free : Op P → Prop
  | .recordDecision _ | .confirm | .rollback _ | .settle .. | .failFinish | .seal
  | .storeReceipt _ => False
  | .commit kind _ _ _ => kind ≠ .dispatch ∧ kind ≠ .result
  | _ => True

theorem ready_of_free {op : Op P} (h : Op.Free op) : Ready t s op := by
  cases op
  case commit => exact fun hkind => hkind.elim (fun heq => absurd heq h.1) fun heq => absurd heq h.2
  all_goals first | exact trivial | exact absurd h id

theorem free_of_aside {op : Op P} (h : op.Aside) : Op.Free op := by
  cases op <;> first | exact trivial | exact absurd h id

theorem free_event (kind : EventKind) (payload : Json) (requestId : Option String) (ns : Option ℤ)
    (h : kind = .violation ∨ kind = .overloadSummary ∨ kind = .killAcknowledged) :
    Op.Free (.commit kind payload requestId ns : Op P) := by
  rcases h with rfl | rfl | rfl <;> exact ⟨by decide, by decide⟩

theorem clean_of_free {α : Type} {p : Prog P α} (hp : p.All Op.Free) : (discipline d).Clean p := by
  induction p with
  | ret value => exact clean_ret value
  | raise error => exact clean_raise error
  | act op next ih =>
      exact clean_act (fun _ _ _ => ready_of_free hp.1) fun result => ih result (hp.2 result)

theorem clean_perform_of_free {op : Op P} (h : Op.Free op) :
    (discipline d).Clean (perform op : Prog P op.Res) :=
  clean_perform fun _ _ _ => ready_of_free h

/-! ## Decisions -/

/-- A committed decision is pending for the thread that committed it. -/
theorem safe_decisionCommit {decision : Decision P} {requestId : Option String} {ns : Option ℤ} :
    (discipline d).Safe t (fun outcome s => ∀ event, outcome = .ok event →
      (t, decision.body.verdict) ∈ s.2.pending)
      (Gateway.commit .decision ((Sealed.codec P decisionSealing).encode decision) requestId ns)
      s := by
  refine safe_handle (safe_act fun s₁ _ _ => ⟨?_, fun env s₂ r hmove hexec _ => ?_⟩)
  · exact fun hkind => hkind.elim (fun heq => nomatch heq) fun heq => nomatch heq
  refine safe_ofExcept.mpr ?_
  cases r with
  | error error =>
      refine safe_seq (clean_of_free (all_emergencyIsolate fun _ => free_of_aside) t s₂)
        (fun _ _ _ event heq => nomatch heq) fun _ _ _ event heq => nomatch heq
  | ok event =>
      rintro _ ⟨⟩
      obtain ⟨hdone, hwatch⟩ := ghost_exec.mp hexec
      simp only [exec, Option.some.injEq] at hdone
      rcases commit_moves hmove.1 with ⟨error, -, heq⟩ |
        ⟨event', mirror, history, -, hkind, htext, -, heq⟩
      · rw [heq] at hdone
        have hrefused := (Prod.mk.inj hdone).2
        cases hrefused
      · have hsays : IsDecision event' decision := ⟨hkind, modelValidateJson_of_canonicalJson htext⟩
        have hverdict : verdictOf event' = some decision.body.verdict := by
          rw [verdictOf, if_pos hsays.1, hsays.2]
        have hevents : s₂.1.ledger.events = s₁.1.ledger.events ++ [event'] := by
          rw [heq] at hdone
          rw [← (Prod.mk.inj hdone).1]
        rw [hwatch, watched_commit hevents, hverdict]
        exact List.mem_append_right _ (List.mem_singleton_self _)

theorem clean_decideAction (action : Action P) (admittedNs : ℤ) :
    (discipline d).Clean (Gateway.decideAction d action admittedNs) := by
  have hfree {α : Type} {p : Prog P α} (hp : p.All Op.Free) : (discipline d).Clean p :=
    clean_of_free hp
  refine clean_bind (clean_ofExcept _) fun sha => ?_
  refine clean_bind (hfree ?_) fun request => ?_
  · exact all_handle (all_raising (all_perform ⟨by decide, by decide⟩)) fun _ =>
      all_bind (all_emergencyIsolate fun _ => free_of_aside) fun _ => trivial
  refine clean_bind (hfree (all_monotonicNow fun _ => free_of_aside)) fun decidedNs => ?_
  refine clean_bind (hfree (all_wallNow fun _ => free_of_aside)) fun wall => ?_
  refine clean_bind (clean_ofExcept _) fun decidedAt => ?_
  refine clean_bind (clean_perform_of_free trivial) fun result => ?_
  refine clean_bind (hfree (all_latchOnKill (fun _ => free_of_aside) _)) fun _ => ?_
  refine clean_bind (clean_perform_of_free trivial) fun epoch => ?_
  refine clean_bind (hfree (all_authorization (fun _ => free_of_aside) d _ _)) fun capability => ?_
  obtain ⟨authorizationId, expiresNs⟩ := capability
  dsimp only
  cases hdecision : Gateway.Deciding.decision d ⟨action, request, sha, decidedNs, decidedAt, result,
      epoch, authorizationId, expiresNs⟩ with
  | error error => exact clean_raise error
  | ok decision =>
      rw [Program.ofExcept_ok, Program.ret_bind]
      intro t s
      refine safe_seq safe_decisionCommit (fun event s₁ hpending => ?_) fun _ _ _ => trivial
      have hmem := hpending event rfl
      rw [(policy_of_decision hdecision).1] at hmem
      refine safe_act fun s₂ hrely _ => ⟨hrely.pending _ hmem, fun _ s₃ _ _ _ _ => ?_⟩
      exact hfree (all_conclude (fun _ => free_of_aside) free_event _ _ _ _) t s₃

theorem clean_submitRaw (raw : Bytes) : (discipline d).Clean (Gateway.submitRaw d raw) := by
  refine clean_bind (clean_of_free (all_monotonicNow fun _ => free_of_aside)) fun admittedNs => ?_
  split_ifs
  · exact clean_of_free (all_rejectLate (fun _ => free_of_aside) free_event _)
  refine clean_bind (clean_perform_of_free trivial) fun admission => ?_
  cases admission with
  | droppedAfterKill => exact clean_ret _
  | firstOverload => exact clean_of_free (all_rejectOverload (fun _ => free_of_aside) free_event _ _)
  | admitted =>
      dsimp only
      cases Action.fromWire P raw with
      | error _ => exact clean_of_free (all_rejectMalformed (fun _ => free_of_aside) free_event _ _)
      | ok action => exact clean_decideAction action admittedNs

/-! ## Dispatches -/

/-- The thread is inside a section, with these many dispatches and results uncounted. -/
structure Inside (t : ℕ) (dispatches results : ℤ) (s : Runtime P × Watch) : Prop where
  locked : s.1.stateLock = some t
  dispatched : (recount s.1.ledger.events).dispatched + dispatches = s.1.state.dispatched
  completed : (recount s.1.ledger.events).completed = s.1.state.completed + results

theorem Inside.rely {dispatches results : ℤ} {s s' : Runtime P × Watch}
    (h : Inside t dispatches results s) (hrely : Rely t s s') : Inside t dispatches results s' := by
  obtain ⟨hlock, hstate, hdispatched, hcompleted⟩ := hrely.locked h.locked
  exact ⟨hlock, by rw [hdispatched, hstate]; exact h.dispatched,
    by rw [hcompleted, hstate]; exact h.completed⟩

theorem Inside.balanced (h : Inside t 0 0 s) : Balanced s.1 :=
  ⟨by have := h.dispatched; omega, by have := h.completed; omega⟩

/-- A reservation counts its dispatch in advance, in a running run. -/
theorem inside_reserve {body : DecisionBody} {ns bytes : ℤ} {lease : DispatchLease} {w : Watch}
    (h : Inv s) {s₁ : Runtime P}
    (hexec : exec d env t s.1 (.reserve body ns bytes) = some (s₁, .ok lease)) :
    Inside t 1 0 (s₁, w) ∧ s₁.state.phase = .running := by
  simp only [exec, Option.ite_none_right_eq_some] at hexec
  obtain ⟨hlock, hexec⟩ := hexec
  have hbalanced := h.balanced hlock
  rcases RunState.reserve_cases s.1.state body ns bytes with ⟨_, heq⟩ | ⟨_, heq⟩ |
    ⟨_, _, hphase, -, -, -, -, -, -, -, -, heq⟩
  · rw [heq] at hexec
    cases hexec
  · rw [heq] at hexec
    cases hexec
  · rw [heq] at hexec
    simp only [Option.some.injEq, Prod.mk.injEq] at hexec
    obtain ⟨rfl, -⟩ := hexec
    have hdispatched := hbalanced.dispatched
    have hcompleted := hbalanced.completed
    refine ⟨⟨rfl, ?_, ?_⟩, hphase⟩
    · change (recount s.1.ledger.events).dispatched + 1 = s.1.state.dispatched + 1
      omega
    · change (recount s.1.ledger.events).completed = s.1.state.completed + 0
      omega

theorem inside_prepareFinish {lease : DispatchLease} {bytes reserved : ℤ} {w : Watch} (h : Inv s)
    {s₁ : Runtime P}
    (hexec : exec d env t s.1 (.prepareFinish lease bytes) = some (s₁, .ok reserved)) :
    Inside t 0 0 (s₁, w) := by
  simp only [exec, Option.ite_none_right_eq_some] at hexec
  obtain ⟨hlock, hexec⟩ := hexec
  have hbalanced := h.balanced hlock
  rcases RunState.prepareFinish_cases s.1.state lease bytes with ⟨_, heq⟩ | ⟨_, heq⟩ |
    ⟨_, -, -, -, heq⟩
  · rw [heq] at hexec
    cases hexec
  · rw [heq] at hexec
    cases hexec
  · rw [heq] at hexec
    simp only [Option.some.injEq, Prod.mk.injEq] at hexec
    obtain ⟨rfl, -⟩ := hexec
    have hdispatched := hbalanced.dispatched
    have hcompleted := hbalanced.completed
    refine ⟨rfl, ?_, ?_⟩
    · change (recount s.1.ledger.events).dispatched + 0 = s.1.state.dispatched
      omega
    · change (recount s.1.ledger.events).completed = s.1.state.completed + 0
      omega

/-- What a commit inside a section does to the account. -/
theorem inside_commit {dispatches results : ℤ} {kind : EventKind} {payload : Json}
    {requestId : Option String} {ns : Option ℤ} {r : Except PyError (Event P)}
    {w : Watch} {s₁ : Runtime P} (h : Inside t dispatches results s)
    (hmove : (committedBeforeSeal d).moves s.1 (.commit kind payload requestId ns) env)
    (hexec : exec d env t s.1 (.commit kind payload requestId ns) = some (s₁, r)) :
    (∃ error, r = .error error ∧ s.1.ledger.isSealed = true ∧
      Inside t dispatches results (s₁, w)) ∨
    ∃ event, r = .ok event ∧ (kind = .dispatch → Inside t (dispatches - 1) results (s₁, w)) ∧
      (kind = .result → Inside t dispatches (results + 1) (s₁, w)) := by
  rw [exec, Option.some.injEq] at hexec
  rcases commit_moves hmove with ⟨error, hsealed, heq⟩ |
    ⟨event, mirror, history, -, hkind, -, -, heq⟩
  · rw [heq, Prod.mk.injEq] at hexec
    obtain ⟨rfl, rfl⟩ := hexec
    exact .inl ⟨error, rfl, hsealed, h.locked, h.dispatched, h.completed⟩
  · rw [heq, Prod.mk.injEq] at hexec
    obtain ⟨rfl, rfl⟩ := hexec
    have hdispatched := h.dispatched
    have hcompleted := h.completed
    refine .inr ⟨event, rfl, fun hdispatch => ⟨h.locked, ?_, ?_⟩, fun hresult => ⟨h.locked, ?_, ?_⟩⟩
    all_goals
      dsimp only
      first
      | rw [recount_snoc_dispatch (hkind.trans hdispatch)]
      | rw [recount_snoc_result (hkind.trans hresult)]
      dsimp only
      omega

theorem clean_beginAuthorized {action : Action P} {sha : String} (hdigest : action.digest = .ok sha)
    (decision : Decision P) (id : OpaqueId) (nowNs bytes : ℤ) :
    (discipline d).Clean (Executor.beginAuthorized action decision id nowNs bytes) := by
  intro t s
  have hreserve : (discipline d).Safe t
      (fun outcome s => ∀ lease, outcome = .ok lease →
        Inside t 1 0 s ∧ s.1.state.phase = .running)
      (raising (perform (.reserve decision.body nowNs bytes)) : Prog P DispatchLease) s := by
    refine safe_act fun s₁ _ hinv => ⟨trivial, fun env s₂ r _ hexec _ => safe_ofExcept.mpr ?_⟩
    rintro lease rfl
    exact inside_reserve hinv (ghost_exec.mp hexec).1
  refine safe_seq hreserve (fun lease s₁ hinside => ?_) fun _ _ _ => trivial
  obtain ⟨hinside, hphase⟩ := hinside lease rfl
  rw [hdigest, Program.ofExcept_ok, Program.ret_bind]
  have hcommit : (discipline d).Safe t (fun outcome s => ∃ event, outcome = .ok event ∧
      Inside t 0 0 s)
      (raising (perform (.commit .dispatch (Executor.dispatchPayload sha decision id)
        (some action.requestId.1) none)) : Prog P (Event P)) s₁ := by
    refine safe_act fun s₂ hrely hinv => ⟨fun _ => (hinside.rely hrely).locked,
      fun env s₃ r hmove hexec _ => safe_ofExcept.mpr ?_⟩
    rcases inside_commit (w := s₃.2) (hinside.rely hrely) hmove.1 (ghost_exec.mp hexec).1 with
      ⟨error, -, hsealed, -⟩ | ⟨event, rfl, hdone, -⟩
    · -- The ledger cannot be sealed while the run is running.
      have hstate := (hrely.locked hinside.locked).2.1
      rw [← hstate] at hphase
      exact absurd hphase (hinv.ended hsealed)
    · exact ⟨event, rfl, hdone rfl⟩
  refine safe_attempt_seq hcommit fun outcome s₂ hdone => ?_
  obtain ⟨event, rfl, hinside₂⟩ := hdone
  exact safe_act fun s₃ hrely _ => ⟨(hinside₂.rely hrely).balanced, fun _ _ _ _ _ _ => trivial⟩

theorem clean_finishAuthorized (action : Action P) (decision : Decision P) (id : OpaqueId)
    (lease : DispatchLease) (result : TransportResult) :
    (discipline d).Clean (Executor.finishAuthorized action decision id lease result) := by
  intro t s
  have hprepare : (discipline d).Safe t
      (fun outcome s => ∀ reserved, outcome = .ok reserved → Inside t 0 0 s)
      (raising (perform (.prepareFinish lease result.responseBytes)) : Prog P ℤ) s := by
    refine safe_act fun s₁ _ hinv => ⟨trivial, fun env s₂ r _ hexec _ => safe_ofExcept.mpr ?_⟩
    rintro reserved rfl
    exact inside_prepareFinish hinv (ghost_exec.mp hexec).1
  refine safe_seq hprepare (fun reserved s₁ hinside => ?_) fun _ _ _ => trivial
  have hinside := hinside reserved rfl
  have hcommit : (discipline d).Safe t (fun outcome s =>
      (∀ event, outcome = .ok event → Inside t 0 1 s) ∧
        ∀ error, outcome = .error error → Inside t 0 0 s)
      (do
        let sha ← Program.ofExcept action.digest
        raising (perform (.commit .result (Executor.resultPayload sha decision id result)
          (some action.requestId.1) none)) : Prog P (Event P)) s₁ := by
    cases action.digest with
    | error error => exact ⟨by rintro _ ⟨⟩, fun _ _ => hinside⟩
    | ok sha =>
        refine safe_act fun s₂ hrely _ => ⟨fun _ => (hinside.rely hrely).locked,
          fun env s₃ r hmove hexec _ => safe_ofExcept.mpr ?_⟩
        rcases inside_commit (w := s₃.2) (hinside.rely hrely) hmove.1 (ghost_exec.mp hexec).1 with
          ⟨error, rfl, -, hkept⟩ | ⟨event, rfl, -, hdone⟩
        · exact ⟨by rintro _ ⟨⟩, fun _ _ => hkept⟩
        · exact ⟨fun _ _ => hdone rfl, by rintro _ ⟨⟩⟩
  refine safe_attempt_seq hcommit fun outcome s₂ hdone => ?_
  cases outcome with
  | ok event =>
      refine safe_act fun s₃ hrely _ => ⟨?_, fun _ _ _ _ _ _ => trivial⟩
      have hinside₃ := (hdone.1 event rfl).rely hrely
      have hdispatched := hinside₃.dispatched
      have hcompleted := hinside₃.completed
      exact ⟨by omega, by omega⟩
  | error error =>
      exact safe_act fun s₃ hrely _ => ⟨((hdone.2 error rfl).rely hrely).balanced, fun _ _ _ _ _ _ => trivial⟩

theorem clean_dispatch (action : Action P) (decision : Decision P) (nowNs : ℤ) :
    (discipline d).Clean (Executor.dispatch d action decision nowNs) := by
  have hfailed (id : OpaqueId) (lease : Option DispatchLease) (error : PyError) :
      (discipline d).Clean (Executor.failed action id lease error) :=
    clean_of_free (all_failed (fun _ => free_of_aside) free_event _ _ _ _)
  refine clean_bind (clean_ofExcept _) fun _ => ?_
  cases hbound : Executor.checkBinding d action decision.body with
  | error error => exact clean_raise error
  | ok _ =>
      obtain ⟨sha, hdigest⟩ := digest_of_checkBinding hbound
      refine clean_bind (clean_ret _) fun _ => clean_bind (clean_ofExcept _) fun rule => ?_
      cases decision.body.authorizationId with
      | none => exact clean_raise _
      | some id =>
          refine clean_bind (clean_raising (clean_perform_of_free trivial)) fun _ => ?_
          refine clean_finalize ?_ (clean_perform_of_free trivial)
          refine clean_bind (clean_attempt (clean_beginAuthorized hdigest _ _ _ _)) fun outcome => ?_
          cases outcome with
          | error error => exact hfailed id none error
          | ok lease =>
              refine clean_handle ?_ (hfailed id (some lease))
              refine clean_bind (clean_raising (clean_perform_of_free trivial)) fun secret => ?_
              refine clean_bind (clean_raising (clean_perform_of_free trivial)) fun result => ?_
              refine clean_bind (clean_ofExcept _) fun _ => ?_
              exact clean_bind (clean_finishAuthorized _ _ _ _ _) fun _ => clean_ret _

/-! ## The receipt -/

theorem fields_of_receiptMake {fields : ReceiptBodyFields P} {body : ReceiptBody P}
    (h : ReceiptBody.make fields = .ok body) : body.toReceiptBodyFields = fields := by
  unfold ReceiptBody.make at h
  cases hchecked : checked ReceiptBodyFields.receiptIsCoherent fields with
  | error error =>
      rw [hchecked] at h
      cases h
  | ok x =>
      rw [hchecked] at h
      rw [← Except.ok.inj h]
      exact checked_eq_ok hchecked

/-- The receipt carries the counters of the snapshot and the count of the mirror. -/
theorem counts_of_receiptBody {status : RunStatus} {state : RunState} {mirror : EvidenceMirror}
    {finishedAt : Datetime} {finishedNs : ℤ} {ack : Option (KillAcknowledgement P)}
    {checkpoint : WitnessCheckpoint P} {body : ReceiptBody P}
    (h : Supervisor.receiptBody d status state mirror finishedAt finishedNs ack checkpoint =
      .ok body) :
    body.eventCount.1 = mirror.count ∧ body.allowedRequestCount.1 = state.allowed ∧
      body.deniedRequestCount.1 = state.denied ∧
      body.dispatchedRequestCount.1 = state.dispatched ∧
      body.completedRequestCount.1 = state.completed := by
  simp only [Supervisor.receiptBody, bind_eq_ok] at h
  obtain ⟨_, -, _, -, _, -, _, -, eventCount, hevents, _, -, _, -, _, -, allowed, hallowed, denied,
    hdenied, dispatched, hdispatched, completed, hcompleted, _, -, _, -, _, -, hmake⟩ := h
  have hfields := fields_of_receiptMake hmake
  rw [congrArg ReceiptBodyFields.eventCount hfields,
    congrArg ReceiptBodyFields.allowedRequestCount hfields,
    congrArg ReceiptBodyFields.deniedRequestCount hfields,
    congrArg ReceiptBodyFields.dispatchedRequestCount hfields,
    congrArg ReceiptBodyFields.completedRequestCount hfields]
  exact ⟨validate_eq_ok hevents, validate_eq_ok hallowed, validate_eq_ok hdenied,
    validate_eq_ok hdispatched, validate_eq_ok hcompleted⟩

/-- The ledger is sealed with these events. -/
structure Frozen (events : List (Event P)) (mirror : EvidenceMirror) (s : Runtime P × Watch) :
    Prop where
  isSealed : s.1.ledger.isSealed = true
  events : s.1.ledger.events = events
  mirror : s.1.mirror = mirror

theorem Frozen.of_eq {events : List (Event P)} {mirror : EvidenceMirror} {s s' : Runtime P × Watch}
    (h : Frozen events mirror s) (heq : s'.1.ledger = s.1.ledger ∧ s'.1.mirror = s.1.mirror) :
    Frozen events mirror s' :=
  ⟨by rw [heq.1]; exact h.isSealed, by rw [heq.1]; exact h.events, by rw [heq.2]; exact h.mirror⟩

theorem stable_frozen (events : List (Event P)) (mirror : EvidenceMirror) :
    (discipline d).Stable (Frozen events mirror) where
  rely hrely h := h.of_eq (hrely.frozen h.isSealed)
  act hmove hexec h := h.of_eq (frozen_exec hmove.1 (ghost_exec.mp hexec).1 h.isSealed)

/-- What the receipt does once the ledger is sealed. -/
theorem cleanUnder_frozen {state : RunState} {events : List (Event P)} {mirror : EvidenceMirror}
    (hshows : Shows state events) (hagrees : Agrees events mirror) (derived : RunStatus) :
    (discipline d).CleanUnder (Frozen events mirror) (do
      let finishedAt ← wallNow
      let finishedNs ← monotonicNow
      let mirror ← perform .mirrorSnapshot
      let checkpoint ← raising (perform (.checkpoint mirror.count mirror.finalHash
        (P.sha256Hex mirror.digest)))
      let ack ← perform .readAcknowledgement
      let body ← .ofExcept (Supervisor.receiptBody d derived state mirror finishedAt finishedNs ack
        checkpoint)
      let receipt ← .ofExcept (Sealed.sign (receiptSealing P) body d.supervisorKey)
      perform (.storeReceipt receipt)
      return receipt) := by
  have hstable := stable_frozen (d := d) events mirror
  have hfree {op : Op P} (h : Op.Free op) :
      (discipline d).CleanUnder (Frozen events mirror) (perform op : Prog P op.Res) :=
    Clean.under (clean_perform_of_free h)
  refine cleanUnder_bind hstable (Clean.under (clean_of_free (all_wallNow fun _ => free_of_aside)))
    fun finishedAt => ?_
  refine cleanUnder_bind hstable
    (Clean.under (clean_of_free (all_monotonicNow fun _ => free_of_aside))) fun finishedNs => ?_
  -- The mirror is read as it was when the ledger was sealed.
  intro t s h
  have hread : (discipline d).Safe t (fun outcome s => outcome = .ok mirror ∧
      Frozen events mirror s) (perform .mirrorSnapshot : Prog P EvidenceMirror) s := by
    refine safe_act fun s₁ hrely _ => ⟨trivial, fun env s₂ found hmove hexec _ => ?_⟩
    have h₁ := hstable.rely hrely h
    obtain ⟨hdone, -⟩ := ghost_exec.mp hexec
    simp only [exec, Option.some.injEq, Prod.mk.injEq] at hdone
    refine ⟨?_, hstable.act hmove hexec h₁⟩
    rw [← hdone.2, h₁.mirror]
  refine safe_seq hread (fun found s₂ hfound => ?_) fun _ _ _ => trivial
  obtain ⟨hfound, h₂⟩ := hfound
  obtain rfl := Except.ok.inj hfound
  refine (?_ : (discipline d).CleanUnder (Frozen events found) _) t s₂ h₂
  refine cleanUnder_bind hstable (Clean.under (clean_raising (clean_perform_of_free trivial)))
    fun checkpoint => ?_
  refine cleanUnder_bind hstable (hfree trivial) fun ack => ?_
  cases hbody : Supervisor.receiptBody d derived state found finishedAt finishedNs ack checkpoint with
  | error error => exact Clean.under (clean_raise error)
  | ok body =>
      rw [Program.ofExcept_ok, Program.ret_bind]
      cases hsign : Sealed.sign (receiptSealing P) body d.supervisorKey with
      | error error => exact Clean.under (clean_raise error)
      | ok receipt =>
          rw [Program.ofExcept_ok, Program.ret_bind]
          refine cleanUnder_bind hstable (cleanUnder_perform hstable fun _ s₃ _ h₃ => ?_) fun _ =>
            Clean.under (clean_ret _)
          obtain ⟨hcount, hallowed, hdenied, hdispatched, hcompleted⟩ := counts_of_receiptBody hbody
          have hreceipt : receipt.body = body := Sealed.body_of_sign hsign
          have htake : s₃.1.ledger.events.take receipt.body.eventCount.1.toNat = events := by
            rw [hreceipt, hcount, hagrees.count, h₃.events, Int.toNat_natCast, List.take_length]
          refine ⟨h₃.isSealed, ?_, ?_, ?_, ?_⟩
          · rw [htake, hreceipt, hallowed, hshows.allowed]
          · rw [htake, hreceipt, hdenied, hshows.denied]
          · rw [htake, hreceipt, hdispatched, hshows.dispatched]
          · rw [htake, hreceipt, hcompleted, hshows.completed]

/-- What the thread of the receipt knows after its snapshot. -/
structure Snapped (t : ℕ) (state : RunState) (s : Runtime P × Watch) : Prop where
  locked : s.1.receiptLock = some t
  ended : state.phase ≠ .running → s.1.state.phase ≠ .running
  shows : s.2.complete = true → Shows state s.1.ledger.events

theorem Snapped.rely {state : RunState} {s s' : Runtime P × Watch} (h : Snapped t state s)
    (hrely : Rely t s s') : Snapped t state s' where
  locked := (hrely.snapped h.locked).1
  ended hphase := hrely.ended (h.ended hphase)
  shows hcomplete := by
    obtain ⟨hbefore, heq⟩ := (hrely.snapped h.locked).2 hcomplete
    have hshows := h.shows hbefore
    exact ⟨by rw [heq]; exact hshows.allowed, by rw [heq]; exact hshows.denied,
      by rw [heq]; exact hshows.dispatched, by rw [heq]; exact hshows.completed⟩

/-- A snapshot with nothing pending shows the events. -/
theorem snapped_of_snapshot {s : Runtime P × Watch} {state : RunState} {s₁ : Runtime P} (h : Inv s)
    (hlock : s.1.receiptLock = some t)
    (hexec : exec d env t s.1 .snapshot = some (s₁, state)) :
    Snapped t state (s₁, watched .snapshot t s.1 s₁ s.2) := by
  simp only [exec, onState_eq_some] at hexec
  obtain ⟨hfree, rfl, rfl⟩ := hexec
  refine ⟨hlock, id, fun hcomplete => ?_⟩
  unfold watched at hcomplete
  dsimp only at hcomplete
  rw [if_pos hlock] at hcomplete
  have hnone : s.2.pending = [] := List.isEmpty_iff.mp hcomplete
  have hallowed := h.allowed
  have hdenied := h.denied
  rw [hnone, List.countP_nil] at hallowed hdenied
  have hbalanced := h.balanced hfree
  exact ⟨by simpa using hallowed.symm, by simpa using hdenied.symm, hbalanced.dispatched,
    hbalanced.completed⟩

theorem notRunning_of_derivedStatus {emergency : Bool} {phase : RunPhase} {derived : RunStatus}
    (h : Supervisor.derivedStatus emergency phase = .ok derived) : phase ≠ .running := by
  rintro rfl
  rw [Supervisor.derivedStatus, if_pos (.inl rfl)] at h
  cases h

theorem safe_receiptFresh (status : Option RunStatus) (hlock : s.1.receiptLock = some t) :
    (discipline d).Safe t (fun _ _ => True) (Supervisor.receiptFresh d status) s := by
  have hsnapshot : (discipline d).Safe t (fun outcome s => ∀ state, outcome = .ok state →
      Snapped t state s) (perform .snapshot : Prog P RunState) s := by
    refine safe_act fun s₁ hrely hinv => ⟨trivial, fun env s₂ state _ hexec _ => ?_⟩
    rintro _ ⟨⟩
    obtain ⟨hdone, hwatch⟩ := ghost_exec.mp hexec
    have hsnapped := snapped_of_snapshot hinv (hrely.snapped hlock).1 hdone
    rwa [← hwatch] at hsnapped
  refine safe_seq hsnapshot (fun state s₁ hsnapped => ?_) fun _ _ _ => trivial
  have hread : (discipline d).Safe t (fun _ s => Snapped t state s)
      (perform .readEmergency : Prog P Bool) s₁ := by
    refine safe_act fun s₂ hrely _ => ⟨trivial, fun env s₃ emergency _ hexec _ => ?_⟩
    obtain ⟨hdone, hwatch⟩ := ghost_exec.mp hexec
    simp only [exec, Option.some.injEq, Prod.mk.injEq] at hdone
    have heq : s₃ = s₂ := Prod.ext hdone.1.symm hwatch
    change Snapped t state s₃
    rw [heq]
    exact (hsnapped state rfl).rely hrely
  refine safe_seq hread (fun emergency s₄ hsnapped₄ => ?_) fun _ _ _ => trivial
  cases hderived : Supervisor.derivedStatus emergency state.phase with
  | error error => exact trivial
  | ok derived =>
      rw [Program.ofExcept_ok, Program.ret_bind]
      have hended := hsnapped₄.ended (notRunning_of_derivedStatus hderived)
      refine safe_seq (?_ : (discipline d).Safe t (fun _ s => s = s₄) _ s₄) (fun _ s₅ heq => ?_)
        fun _ _ _ => trivial
      · exact safe_ofExcept.mpr rfl
      subst heq
      refine safe_act fun s₅ hrely₅ hinv₅ => ⟨hrely₅.ended hended, fun env₅ s₆ _ hmove₅ hexec₅ _ => ?_⟩
      have hshows := (hsnapped₄.rely hrely₅).shows (hmove₅.2 rfl)
      obtain ⟨hdone₅, -⟩ := ghost_exec.mp hexec₅
      simp only [exec, Option.some.injEq, Prod.mk.injEq] at hdone₅
      refine cleanUnder_frozen hshows hinv₅.agrees derived t s₆ ⟨?_, ?_, ?_⟩ <;> rw [← hdone₅.1]

theorem clean_receipt (status : Option RunStatus) :
    (discipline d).Clean (Supervisor.receipt d status) := by
  intro t s
  have hacquire : (discipline d).Safe t (fun _ s => s.1.receiptLock = some t)
      (perform .acquireReceipt : Prog P Unit) s := by
    refine safe_act fun s₁ _ _ => ⟨trivial, fun env s₂ _ _ hexec _ => ?_⟩
    obtain ⟨hdone, -⟩ := ghost_exec.mp hexec
    simp only [exec, Option.ite_none_right_eq_some, Option.some.injEq, Prod.mk.injEq] at hdone
    change s₂.1.receiptLock = some t
    rw [← hdone.2.1]
  refine safe_seq hacquire (fun _ s₁ hlock => ?_) fun _ _ _ => trivial
  have hread : (discipline d).Safe t (fun _ s => s.1.receiptLock = some t)
      (perform .readReceipt : Prog P (Option (Receipt P))) s₁ := by
    refine safe_act fun s₂ hrely _ => ⟨trivial, fun env s₃ _ _ hexec _ => ?_⟩
    obtain ⟨hdone, -⟩ := ghost_exec.mp hexec
    simp only [exec, Option.some.injEq, Prod.mk.injEq] at hdone
    change s₃.1.receiptLock = some t
    rw [← hdone.1]
    exact (hrely.snapped hlock).1
  refine safe_finalize (safe_mono ?release (?body : (discipline d).Safe t (fun _ _ => True) _ s₁))
  case body =>
    refine safe_seq hread (fun frozen s₂ hlock₂ => ?_) fun _ _ _ => trivial
    cases frozen with
    | none => exact safe_receiptFresh status hlock₂
    | some receipt => exact clean_bind (clean_ofExcept _) (fun _ => clean_ret _) t s₂
  intro outcome s₂ _
  have hrelease : (discipline d).Clean (perform .releaseReceipt : Prog P Unit) :=
    clean_perform_of_free trivial
  refine safe_mono ?_ (hrelease t s₂)
  intro done _ _
  cases done <;> exact trivial

theorem covers : (discipline d).Covers fun _ _ _ => True := by
  have hfree {α : Type} {p : Prog P α} (hp : p.All Op.Free) : (discipline d).Clean p :=
    clean_of_free hp
  refine covers_of_clean (fun call => ?_) (fun call outcome s h => ?_) fun call outcome s u => ?_
  · cases call with
    | submitRaw raw => exact clean_map (clean_submitRaw raw)
    | dispatch action decision nowNs => exact clean_map (clean_dispatch action decision nowNs)
    | failClosed reasonCode requestId =>
        exact clean_map (hfree (all_failClosed (fun _ => free_of_aside) free_event _ _))
    | enforceRuntimeDeadline ns =>
        exact clean_map (hfree
          (all_enforceRuntimeDeadline (fun _ => free_of_aside) free_event d ns trivial))
    | contain trigger ns =>
        exact clean_map (hfree (all_containment (fun _ => free_of_aside) free_event trigger ns))
    | emergencyIsolate => exact clean_map (hfree (all_emergencyIsolate fun _ => free_of_aside))
    | complete =>
        exact clean_map (clean_bind (clean_raising (clean_perform_of_free trivial)) fun _ =>
          clean_receipt none)
    | receipt status => exact clean_map (clean_receipt status)
  · dsimp only [watchedService]
    unfold retire
    split
    · exact ⟨h.agrees, h.allowed, h.denied,
        fun hfree => ⟨(h.balanced hfree).dispatched, (h.balanced hfree).completed⟩, h.ended, h.covered⟩
    · exact h
  · dsimp only [watchedService]
    unfold retire
    split
    · exact ⟨fun hlock => ⟨hlock, rfl, rfl, rfl⟩, id, fun _ => ⟨rfl, rfl⟩, fun _ hmem => hmem,
        fun hlock => ⟨hlock, fun hcomplete => ⟨hcomplete, rfl⟩⟩⟩
    · exact (discipline d).rely_refl u s

theorem inv_init (witness : TransparencyWitness P) : Inv (Runtime.init d witness, Watch.start) where
  agrees := agrees_empty
  allowed := rfl
  denied := rfl
  balanced _ := ⟨rfl, rfl⟩
  ended h := nomatch h
  covered _ h := nomatch h

end ReceiptCounts

/-- In every interleaving of any calls in which every commit before the seal succeeds and the
ledger is sealed while the snapshot is complete, the counters of the receipt are those of the
events it covers. -/
theorem countsCovered_of_reachable (P : Platform) (d : Deployment P)
    (witness : TransparencyWitness P) (c : Config (watchedService d)) (receipt : Receipt P)
    (h : Reachable (sealedComplete d) (Runtime.init d witness, Watch.start) c)
    (hreceipt : c.shared.1.receipt = some receipt) :
    CountsCovered receipt c.shared.1.ledger.events :=
  ((invariant_of_reachable ReceiptCounts.covers (ReceiptCounts.inv_init witness) h).covered receipt
    hreceipt).2

/-! ## A run that completes -/

section Completed

open Reference

variable {manifest : Manifest platform}

/-- A run that nobody has ended. -/
structure Completable (s : Runtime platform) : Prop where
  phase : s.state.phase = .running
  stateLock : s.stateLock = none
  receiptLock : s.receiptLock = none
  receipt : s.receipt = none
  acknowledgement : s.killAcknowledgement = none
  emergency : s.emergencyFailure = false
  witness : s.witness = Reference.witness
  counts : Countable s.state

/-- The operations of `complete`. -/
def Op.OfCompletion : Op P → Prop
  | .markCompleted | .acquireReceipt | .readReceipt | .snapshot | .readEmergency | .seal
  | .wallClock | .monotonicClock | .mirrorSnapshot | .checkpoint .. | .readAcknowledgement
  | .storeReceipt _ | .releaseReceipt => True
  | _ => False

/-- A run whose receipt nobody has asked for, with the status and the acknowledgement that it
will have. -/
structure Receivable (s : Runtime platform) (status : RunStatus)
    (own : Option (KillAcknowledgement platform)) : Prop where
  derived : Supervisor.derivedStatus false s.state.phase = .ok status
  stateLock : s.stateLock = none
  receiptLock : s.receiptLock = none
  receipt : s.receipt = none
  acknowledgement : s.killAcknowledgement = own
  emergency : s.emergencyFailure = false
  witness : s.witness = Reference.witness
  counts : Countable s.state

/-- `receipt` with nobody else running. The receipt has the counters of the state. -/
theorem exists_received (rule₀ : RunRule (watchedService (deployment manifest))) (t : ℕ)
    (w : Watch) {s : Runtime platform} {status : RunStatus}
    {own : Option (KillAcknowledgement platform)} (h : Receivable s status own)
    (hown : Ownable manifest status own)
    (hmoves : ∀ s' (op : Op platform), op.OfCompletion → op ≠ .markCompleted →
      (op = .seal → s'.2.complete = w.pending.isEmpty ∧ s'.1.containLock = s.containLock) →
      rule₀.moves s' op (world 2000))
    (hhealthy : Healthy manifest s 2000) :
    ∃ s' w' receipt, Ends rule₀ t (s, w) (Supervisor.receipt (deployment manifest) none) (s', w')
        (.ok receipt) ∧
      s'.receipt = some receipt ∧ s'.ledger.events = s.ledger.events ∧
      receipt.body.eventCount.1 = s.ledger.events.length ∧
      receipt.body.allowedRequestCount.1 = s.state.allowed ∧ s'.stateLock = none ∧
      receipt.body.status = status := by
  obtain ⟨checkpoint, after, hcheckpoint, hwitnessed⟩ :=
    exists_witnessed manifest hhealthy.agrees hhealthy.room
  obtain ⟨body, receipt, hbody, hsign, hcount, hallowed, hstatus⟩ :=
    exists_countedReceipt hhealthy.agrees hhealthy.room hwitnessed h.counts hown
  set s₂ : Runtime platform := { s with receiptLock := some t } with hs₂
  set w₁ : Watch := { w with complete := w.pending.isEmpty } with hw₁
  set s₃ : Runtime platform := { s₂ with ledger := { s.ledger with isSealed := true } } with hs₃
  set s₄ : Runtime platform := { s₃ with witness := after } with hs₄
  set s₅ : Runtime platform := { s₄ with receipt := some receipt } with hs₅
  set s₆ : Runtime platform := { s₅ with receiptLock := none } with hs₆
  -- One operation other than the seal.
  have hperform {op : Op platform} {a b : Runtime platform} {u v : Watch} {result : op.Res}
      (hop : op.OfCompletion) (hseal : op ≠ .seal) (hmark : op ≠ .markCompleted)
      (hexec : exec (deployment manifest) (world 2000) t a op = some (b, result))
      (hwatch : v = watched op t a b u) :
      Ends rule₀ t (a, u) (perform op : Prog platform op.Res) (b, v) (.ok result) :=
    ends_perform (world 2000) (hmoves _ _ hop hmark fun heq => absurd heq hseal)
      (ghost_exec.mpr ⟨hexec, hwatch⟩)
  have hacquire : Ends rule₀ t (s, w) (perform .acquireReceipt : Prog platform Unit) (s₂, w)
      (.ok ()) := by
    refine hperform trivial (by rintro ⟨⟩) (by rintro ⟨⟩) ?_ rfl
    simp only [exec, h.receiptLock, if_true, hs₂]
  have hread : Ends rule₀ t (s₂, w) (perform .readReceipt : Prog platform _) (s₂, w)
      (.ok none) := by
    refine hperform trivial (by rintro ⟨⟩) (by rintro ⟨⟩) ?_ rfl
    simp only [exec, hs₂, h.receipt]
  have hsnapshot : Ends rule₀ t (s₂, w) (perform .snapshot : Prog platform RunState) (s₂, w₁)
      (.ok s.state) := by
    refine hperform trivial (by rintro ⟨⟩) (by rintro ⟨⟩) ?_ (if_pos rfl).symm
    simp only [exec]
    exact onState_eq_some.mpr ⟨h.stateLock, rfl, rfl⟩
  have hemergency : Ends rule₀ t (s₂, w₁) (perform .readEmergency : Prog platform Bool) (s₂, w₁)
      (.ok false) := by
    refine hperform trivial (by rintro ⟨⟩) (by rintro ⟨⟩) ?_ rfl
    simp only [exec, hs₂, h.emergency]
  have hsealed : Ends rule₀ t (s₂, w₁) (perform .seal : Prog platform Unit) (s₃, w₁) (.ok ()) := by
    refine ends_perform (world 2000) (hmoves _ _ trivial (by rintro ⟨⟩) fun _ => ⟨rfl, rfl⟩)
      (ghost_exec.mpr ⟨?_, rfl⟩)
    simp only [exec, hs₃, hs₂]
  have hwall : Ends rule₀ t (s₃, w₁) (wallNow : Prog platform Datetime) (s₃, w₁)
      (.ok (.aware now)) :=
    Ends.bind (hperform trivial (by rintro ⟨⟩) (by rintro ⟨⟩) (by simp only [exec, world]) rfl) (.refl _ _)
  have hclock : Ends rule₀ t (s₃, w₁) (monotonicNow : Prog platform ℤ) (s₃, w₁) (.ok 2000) :=
    Ends.bind (hperform trivial (by rintro ⟨⟩) (by rintro ⟨⟩) (by simp only [exec, world]) rfl) (.refl _ _)
  have hmirror : Ends rule₀ t (s₃, w₁) (perform .mirrorSnapshot : Prog platform EvidenceMirror)
      (s₃, w₁) (.ok s.mirror) := by
    refine hperform trivial (by rintro ⟨⟩) (by rintro ⟨⟩) ?_ rfl
    simp only [exec, hs₃, hs₂]
  have hcheck : Ends rule₀ t (s₃, w₁) (raising (perform (.checkpoint s.mirror.count
      s.mirror.finalHash (platform.sha256Hex s.mirror.digest))) : Prog platform _) (s₄, w₁)
      (.ok checkpoint) := by
    refine Ends.bind (hperform trivial (by rintro ⟨⟩) (by rintro ⟨⟩) ?_ rfl) (.refl _ _)
    simp only [exec, world, hs₃, hs₂, h.witness]
    rw [show (deployment manifest).manifest = manifest from rfl, hcheckpoint]
  have hack : Ends rule₀ t (s₄, w₁) (perform .readAcknowledgement : Prog platform _) (s₄, w₁)
      (.ok own) := by
    refine hperform trivial (by rintro ⟨⟩) (by rintro ⟨⟩) ?_ rfl
    simp only [exec, hs₄, hs₃, hs₂, h.acknowledgement]
  have hstore : Ends rule₀ t (s₄, w₁) (perform (.storeReceipt receipt) : Prog platform Unit)
      (s₅, w₁) (.ok ()) := by
    refine hperform trivial (by rintro ⟨⟩) (by rintro ⟨⟩) ?_ rfl
    simp only [exec, hs₅]
  have hrelease : Ends rule₀ t (s₅, w₁) (perform .releaseReceipt : Prog platform Unit) (s₆, w₁)
      (.ok ()) := by
    refine hperform trivial (by rintro ⟨⟩) (by rintro ⟨⟩) ?_ rfl
    simp only [exec, hs₅, hs₄, hs₃, hs₂, if_true, hs₆]
  have hfresh : Ends rule₀ t (s₂, w) (Supervisor.receiptFresh (deployment manifest) none) (s₅, w₁)
      (.ok receipt) := by
    refine Ends.bind hsnapshot (Ends.bind hemergency ?_)
    have hderived : Supervisor.derivedStatus false s.state.phase = .ok status := h.derived
    have hrequested : ensure (∀ requested ∈ (none : Option RunStatus), requested = status)
        (PyError.valueError "requested receipt status conflicts with run state") = .ok () :=
      ensure_of fun _ hnone => (by cases hnone)
    rw [hderived]
    refine Ends.bind ends_ret ?_
    rw [hrequested]
    refine Ends.bind ends_ret (Ends.bind hsealed (Ends.bind hwall (Ends.bind hclock
      (Ends.bind hmirror (Ends.bind hcheck (Ends.bind hack ?_))))))
    rw [show Supervisor.receiptBody (deployment manifest) status s.state s.mirror (.aware now)
      2000 own checkpoint = .ok body from hbody]
    refine Ends.bind ends_ret ?_
    rw [show Sealed.sign (receiptSealing platform) body (deployment manifest).supervisorKey =
      .ok receipt from hsign]
    exact Ends.bind ends_ret (Ends.bind hstore (.refl _ _))
  refine ⟨s₆, w₁, receipt, ?_, rfl, rfl, hcount, hallowed, h.stateLock, hstatus⟩
  refine Ends.bind hacquire ?_
  exact Ends.finalize (Ends.bind hread hfresh) hrelease

/-- `complete` with nobody else running. -/
theorem exists_completed (rule₀ : RunRule (watchedService (deployment manifest))) (t : ℕ)
    (w : Watch) {s : Runtime platform} (h : Completable s)
    (hmoves : ∀ s' (op : Op platform), op.OfCompletion →
      (op = .seal → s'.2.complete = w.pending.isEmpty) → (op = .markCompleted → s'.1 = s) →
      rule₀.moves s' op (world 2000))
    (hhealthy : Healthy manifest s 2000) :
    ∃ s' w' receipt, Ends rule₀ t (s, w) (Supervisor.complete (deployment manifest)) (s', w')
        (.ok receipt) ∧
      s'.receipt = some receipt ∧ s'.ledger.events = s.ledger.events ∧
      receipt.body.eventCount.1 = s.ledger.events.length ∧
      receipt.body.allowedRequestCount.1 = s.state.allowed ∧ s'.stateLock = none ∧
      receipt.body.status = .completed := by
  set s₁ : Runtime platform := { s with state := { s.state with phase := .completed } } with hs₁
  have hcompleted : Ends rule₀ t (s, w) (perform .markCompleted : Prog platform _) (s₁, w)
      (.ok (.ok ())) := by
    have hmark : s.state.markCompleted = ({ s.state with phase := .completed }, .ok ()) :=
      if_neg (not_not.mpr h.phase)
    refine ends_perform (world 2000) (hmoves _ _ trivial (by rintro ⟨⟩) fun _ => rfl)
      (ghost_exec.mpr ⟨?_, rfl⟩)
    simp only [exec]
    exact onState_eq_some.mpr ⟨h.stateLock, by rw [hmark], by rw [hmark]⟩
  have hcounts : Countable s₁.state :=
    ⟨h.counts.observed, h.counts.admitted, h.counts.decided, h.counts.denied, h.counts.dispatched,
      h.counts.completed, h.counts.rejected, h.counts.dropped, h.counts.refused, h.counts.egress⟩
  obtain ⟨s', w', receipt, hends, hkept⟩ := exists_received rule₀ t w (s := s₁)
    ⟨rfl, h.stateLock, h.receiptLock, h.receipt, h.acknowledgement, h.emergency, h.witness, hcounts⟩
    (ownable_completed manifest) (fun s' op hop hmark hseal => hmoves s' op hop
      (fun heq => (hseal heq).1) fun heq => absurd heq hmark)
    ⟨hhealthy.observed, hhealthy.agrees, hhealthy.unsealed, hhealthy.room, hhealthy.last⟩
  exact ⟨s', w', receipt, Ends.bind (Ends.bind hcompleted ends_ret) hends, hkept⟩

theorem completable_init (manifest : Manifest platform) :
    Completable (Runtime.init (deployment manifest) Reference.witness) :=
  ⟨rfl, rfl, rfl, rfl, rfl, rfl, rfl, ⟨(by decide : (0 : ℤ) ≤ maxSafeInteger), le_rfl, le_rfl,
    le_rfl, le_rfl, ⟨le_rfl, le_rfl⟩, le_rfl, le_rfl, le_rfl, le_rfl,
    (by decide : (0 : ℤ) ≤ maxSafeInteger)⟩⟩

theorem completable_of_finished {s : Runtime platform} (h : Finished manifest s) : Completable s := by
  obtain ⟨window, count, policy, ledger, mirror, history, hs⟩ := h.shape
  rw [hs]
  exact ⟨rfl, rfl, rfl, rfl, rfl, rfl, rfl, ⟨(by decide : (0 : ℤ) + 1 ≤ maxSafeInteger), le_rfl,
    le_rfl, le_rfl, le_rfl, ⟨(by decide : (0 : ℤ) ≤ 0 + 1), le_rfl⟩, le_rfl, le_rfl,
    (by decide : (0 : ℤ) + 0 ≤ 0 + 1), (by decide : (0 : ℤ) ≤ 0 + 2),
    (by decide : (0 : ℤ) + 2 ≤ maxSafeInteger)⟩⟩

/-- The one decision of such a run is counted. -/
theorem pending_of_finished {s : Runtime platform} {w : Watch} (h : Finished manifest s)
    (hinv : ReceiptCounts.Inv (s, w)) : w.pending = [] := by
  obtain ⟨request, decided, dispatched, returned, hevents, hrequest, -, hdispatched, hreturned⟩ :=
    h.answered
  have hnone {event : Event platform} (hkind : event.body.kind ≠ .decision) :
      verdictOf event = none := by rw [verdictOf, if_neg hkind]
  have hcounted : s.state.allowed = 1 ∧ s.state.denied = 0 := by
    obtain ⟨window, count, policy, ledger, mirror, history, hs⟩ := h.shape
    rw [hs]
    exact ⟨rfl, rfl⟩
  have hallowed := hinv.allowed
  have hdenied := hinv.denied
  simp only [hcounted, hevents, recount, List.countP_cons, List.countP_nil,
    hnone (by rw [hrequest]; decide : request.body.kind ≠ .decision),
    hnone (by rw [hdispatched]; decide : dispatched.body.kind ≠ .decision),
    hnone (by rw [hreturned]; decide : returned.body.kind ≠ .decision)] at hallowed hdenied
  have hempty : w.pending.countP (fun entry => entry.2 = .allow) = 0 ∧
      w.pending.countP (fun entry => ¬ entry.2 = .allow) = 0 := by
    generalize w.pending.countP (fun entry => entry.2 = .allow) = allowed at hallowed ⊢
    generalize w.pending.countP (fun entry => ¬ entry.2 = .allow) = denied at hdenied ⊢
    cases hverdict : verdictOf decided with
    | none => simp [hverdict] at hallowed; omega
    | some verdict => cases verdict <;> simp [hverdict] at hallowed hdenied <;> omega
  rw [List.eq_nil_iff_forall_not_mem]
  intro entry hmem
  have hallow := List.countP_eq_zero.mp hempty.1 entry hmem
  have hother := List.countP_eq_zero.mp hempty.2 entry hmem
  simp only [decide_eq_true_eq, not_not] at hallow hother
  exact hallow hother

/-- A submission, its dispatch from beginning to end and `complete`. -/
theorem exists_finished_completed (rule₀ : RunRule (watchedService (deployment manifest)))
    (hm : Signed manifest) (hstarts : ∀ s call, rule₀.starts s call)
    (hmoves : ∀ s op, Peaceful op → Succeeds manifest 2000 s.1 op → rule₀.moves s op (world 2000))
    (hcompletion : ∀ s (op : Op platform), op.OfCompletion → (op = .seal → s.2.complete = true) →
      (op = .markCompleted → Finished manifest s.1) → rule₀.moves s op (world 2000)) :
    ∃ s₁ w₁ s₂ w₂ receipt, Finished manifest s₁ ∧
      Reachable rule₀ (Runtime.init (deployment manifest) Reference.witness, Watch.start)
        ((Config.initial (S := watchedService (deployment manifest)) (s₁, w₁)).set (s₂, w₂) 0
          (some (Call.complete, .ret (.receipted receipt)))) ∧
      s₂.receipt = some receipt ∧ s₂.ledger.events = s₁.ledger.events ∧
      receipt.body.eventCount.1 = s₁.ledger.events.length ∧ s₂.stateLock = none ∧
      receipt.body.status = .completed := by
  set peaceful : RunRule (runtimeService (deployment manifest)) := ⟨fun _ _ => True,
    fun s op env => Peaceful op ∧ Succeeds manifest 2000 s op ∧ env = world 2000⟩
  obtain ⟨s₁, hsequence, hfinished⟩ := exists_finished peaceful hm (fun _ _ => trivial)
    (fun _ _ _ _ => trivial) fun _ _ hop hsucceeds => ⟨hop, hsucceeds, rfl⟩
  set both : RunRule (watchedService (deployment manifest)) := ⟨fun _ _ => True,
    fun s op env => rule₀.moves s op env ∧ (sealedComplete (deployment manifest)).moves s op env⟩
  obtain ⟨w₁, hboth⟩ := @steps_ghost _ _ _ _ _ _ _ both (fun _ _ _ _ => trivial) (fun s op env w hop => by
    obtain ⟨hpeaceful, hsucceeds, rfl⟩ := hop
    refine ⟨hmoves _ _ hpeaceful hsucceeds, ?_, ?_⟩
    · rintro kind payload requestId ns rfl -
      exact hsucceeds
    · rintro rfl
      rcases hpeaceful with hop | ⟨_, hop⟩ <;> exact hop.elim) _ _ (reachable_of_sequence hsequence) Watch.start
  have hinv := invariant_of_reachable (ReceiptCounts.covers (d := deployment manifest))
    (ReceiptCounts.inv_init Reference.witness)
    (Reachable.mono (fun _ _ _ => trivial) (fun s op env (hop : both.moves s op env) => hop.2) hboth)
  have hpending : w₁.pending = [] := pending_of_finished hfinished hinv
  obtain ⟨s₂, w₂, receipt, hends, hreceipt, hevents, hcount, -, hkept⟩ := exists_completed rule₀ 0 w₁
    (completable_of_finished hfinished)
    (fun s op hop hseal hmark => hcompletion s op hop (fun heq => by rw [hseal heq, hpending]; rfl)
      fun heq => by rw [hmark heq]; exact hfinished) hfinished.healthy
  refine ⟨s₁, w₁, s₂, w₂, receipt, hfinished, ?_, hreceipt, hevents, hcount, hkept⟩
  have hreach := Reachable.mono (fun s call _ => hstarts s call)
    (fun s op env (hop : both.moves s op env) => hop.1) hboth
  exact hreach.trans (steps_call (t := 0) rfl (hstarts _ .complete) (Runs.bind hends))

/-- The same without the watch. -/
theorem exists_reachable_completed (rule₀ : RunRule (runtimeService (deployment manifest)))
    (hm : Signed manifest) (hstarts : ∀ s call, rule₀.starts s call)
    (hmoves : ∀ s op, Peaceful op → Succeeds manifest 2000 s op → rule₀.moves s op (world 2000))
    (hcompletion : ∀ s (op : Op platform), op.OfCompletion →
      (op = .markCompleted → Finished manifest s) → rule₀.moves s op (world 2000)) :
    ∃ s₁ s₂ receipt, Finished manifest s₁ ∧
      Reachable rule₀ (Runtime.init (deployment manifest) Reference.witness)
        ((Config.initial (S := runtimeService (deployment manifest)) s₁).set s₂ 0
          (some (Call.complete, .ret (.receipted receipt)))) ∧
      s₂.receipt = some receipt ∧ s₂.ledger.events = s₁.ledger.events ∧
      receipt.body.eventCount.1 = s₁.ledger.events.length ∧ s₂.stateLock = none ∧
      receipt.body.status = .completed := by
  obtain ⟨s₁, w₁, s₂, w₂, receipt, hfinished, hreach, hkept⟩ := exists_finished_completed
    (⟨fun _ _ => True, fun s op env => rule₀.moves s.1 op env⟩ :
      RunRule (watchedService (deployment manifest))) hm (fun _ _ => trivial)
    (fun s op hop hsucceeds => hmoves s.1 op hop hsucceeds)
    fun s op hop _ hmark => hcompletion s.1 op hop hmark
  exact ⟨s₁, s₂, receipt, hfinished,
    steps_erase (fun s call _ => hstarts s.1 call) (fun _ _ _ hop => hop) hreach, hkept⟩

/-- A submission whose decision is not counted yet. -/
theorem completable_of_decided {s' : Runtime platform} {request decided : Event platform}
    {decision : Decision platform} {digest : Sha256Hex} {ns expires : SafeNonNegativeInt}
    (h : Decided action manifest (Runtime.init (deployment manifest) Reference.witness) s' request decided
      decision digest ns expires) : Completable s' := by
  obtain ⟨window, count, -, hstate⟩ := h.state
  obtain ⟨ledger, mirror, history, hothers⟩ := h.others
  rw [hothers, hstate]
  exact ⟨rfl, rfl, rfl, rfl, rfl, rfl, rfl, ⟨(by decide : (0 : ℤ) + 1 ≤ maxSafeInteger), le_rfl,
    (by decide : (0 : ℤ) + 0 ≤ 0 + 1), le_rfl, le_rfl, ⟨le_rfl, le_rfl⟩, le_rfl, le_rfl,
    (by decide : (0 : ℤ) + 0 ≤ 0 + 1), le_rfl, (by decide : (0 : ℤ) ≤ maxSafeInteger)⟩⟩

/-- A request is allowed, and before its decision is counted another thread completes the
run. Its receipt covers the decision and has no allowance. -/
theorem uncounted_decision :
    ¬ ∀ (P : Platform) (d : Deployment P) (witness : TransparencyWitness P)
      (c : Config (runtimeService d)) (receipt : Receipt P),
      Reachable (committedBeforeSeal d) (Runtime.init d witness) c →
      c.shared.receipt = some receipt → CountsCovered receipt c.shared.ledger.events := by
  intro hclaim
  obtain ⟨manifest, hm⟩ := exists_signed
  obtain ⟨raw, hwire, hraw⟩ := exists_wire
  have hcalm (s : Runtime platform) (op : Op platform) (_ : Healthy manifest s 2000)
      (_ : Calm 2000 op) (hsucceeds : Succeeds manifest 2000 s op) :
      (committedBeforeSeal (deployment manifest)).moves s op (world 2000) := by
    rintro kind payload requestId ns rfl -
    exact hsucceeds
  obtain ⟨s', request, decided, decision, digest, hruns, hdecided⟩ :=
    @Servable.runs_submitRaw manifest (committedBeforeSeal (deployment manifest)) 0 action
      servable_action hm _ ⟨2000, by decide⟩
      ⟨1000002000, by decide⟩ hcalm
      (healthy_init manifest 2000) _ (by decide) (roomy_init hm) (show 0 < 800 by decide)
      ⟨by decide, by decide⟩ rfl _ hwire hraw
  -- The other thread runs `complete` to its end.
  obtain ⟨s₁, w₁, receipt, hends, hreceipt, hevents, hcount, hallowed, -⟩ := exists_completed
    (⟨fun _ _ => True, fun s op env => (committedBeforeSeal (deployment manifest)).moves s.1 op env⟩ :
      RunRule (watchedService (deployment manifest))) 1 .start
    (completable_of_decided hdecided)
    (fun _ _ hop _ _ => by
      rintro _ _ _ _ rfl
      exact absurd hop id) hdecided.healthy
  have hcomplete : Ends (committedBeforeSeal (deployment manifest)) 1 s'
      (Supervisor.complete (deployment manifest)) s₁ (.ok receipt) :=
    Runs.erase (fun _ _ _ hmove => hmove) hends
  have hstart (s : Runtime platform) (call : Call platform) :
      (committedBeforeSeal (deployment manifest)).starts s call := trivial
  have hfirst := steps_call (t := 0) (c := Config.initial _) rfl (hstart _ (.submitRaw raw))
    (Runs.bind hruns)
  have hsecond := hfirst.trans (steps_call (t := 1) rfl (hstart _ .complete) (Runs.bind hcomplete))
  have hcovered := (hclaim _ _ _ _ receipt hsecond hreceipt).allowed
  change receipt.body.allowedRequestCount.1 =
    (recount (s₁.ledger.events.take receipt.body.eventCount.1.toNat)).allowed at hcovered
  have hzero : s'.state.allowed = 0 := by
    obtain ⟨window, count, -, hstate⟩ := hdecided.state
    rw [hstate]
    rfl
  rw [hallowed, hzero, hcount, hevents, Int.toNat_natCast, List.take_length, hdecided.events]
    at hcovered
  have hverdict : verdictOf decided = some .allow := by
    obtain ⟨_, hbody⟩ := hdecided.body
    rw [verdictOf, if_pos hdecided.located.1, hdecided.located.2]
    dsimp only
    rw [hbody]
    rfl
  have hpos : 0 < (recount ((Runtime.init (deployment manifest) Reference.witness).ledger.events ++
      [request, decided])).allowed :=
    Int.natCast_pos.mpr (List.countP_pos_iff.mpr ⟨decided, by simp, by simp [hverdict]⟩)
  omega

/-- A run of one answered request that completes. -/
theorem countsCovered_completed : ∃ (manifest : Manifest platform)
    (c : Config (watchedService (deployment manifest))) (receipt : Receipt platform),
    Reachable (sealedComplete (deployment manifest))
      (Runtime.init (deployment manifest) Reference.witness, Watch.start) c ∧
    c.shared.1.receipt = some receipt ∧ receipt.body.eventCount.1 = 4 ∧
    CountsCovered receipt c.shared.1.ledger.events := by
  obtain ⟨manifest, hm⟩ := exists_signed
  obtain ⟨s₁, w₁, s₂, w₂, receipt, hfinished, hreach, hreceipt, -, hcount, -⟩ :=
    exists_finished_completed (sealedComplete (deployment manifest)) hm (fun _ _ => trivial)
      (fun s op hop hsucceeds => by
        refine ⟨?_, ?_⟩
        · rintro kind payload requestId ns rfl -
          exact hsucceeds
        · rintro rfl
          rcases hop with hop | ⟨_, hop⟩ <;> exact hop.elim)
      (fun s op hop hseal _ => by
        refine ⟨?_, hseal⟩
        rintro _ _ _ _ rfl
        exact absurd hop id)
  obtain ⟨request, decided, dispatched, returned, hevents, -⟩ := hfinished.answered
  refine ⟨manifest, _, receipt, hreach, hreceipt, ?_,
    countsCovered_of_reachable _ _ _ _ _ hreach hreceipt⟩
  rw [hcount, hevents]
  rfl

end Completed

end Containment
