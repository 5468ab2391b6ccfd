/-
# The order of the readings

The callers of a commit share one clock that never goes back. A dispatch and its result
leave the reading to the ledger, which takes it when it appends. A submission, a
fail-closed containment and an acknowledgement take it themselves, earlier, and hand it
in. Another thread may commit with a later reading in between, and the mirror then
refuses the first thread's event although nothing is wrong with the clock. Without such an
overtaking the mirror refuses nothing, whatever the schedule.
-/

import Containment.Reference.Submission
import Containment.Runtime.SideCode

namespace Containment

open Json Concurrency Discipline

variable {P : Platform}

/-! ## A shared clock -/

/-- The clock after a step. -/
def tick (env : World) (now : ℤ) : ℤ :=
  match env.monotonicClock with
  | .ok reading => reading
  | .error _ => now

/-- The runtime beside the value its clock has reached. -/
@[reducible]
def clockedService (d : Deployment P) : Service (Op P) Op.Res PyError where
  State := Runtime P × ℤ
  Env := World
  Call := Call P
  Reply := Reply P
  exec env t s op := (exec d env t s.1 op).map fun done => ((done.1, tick env s.2), done.2)
  body := body d
  retire call outcome s := (retire call outcome s.1, s.2)

/-- The calls of the workload. -/
def Call.Working : Call P → Prop
  | .submitRaw _ | .dispatch .. | .failClosed .. => True
  | _ => False

/-- The clock does not go back, and the ledger has room and a free slot for a commit. -/
structure Undisturbed (d : Deployment P) (s : Runtime P × ℤ) (op : Op P) (env : World) : Prop where
  clock : ∀ now, env.monotonicClock = .ok now → s.2 ≤ now
  ledger : ¬ op.Quiet → s.1.ledger.isSealed = false ∧
    s.1.ledger.events.length < d.ledgerConfig.maxEvents ∧ env.fault = none

/-- Concurrent calls of the workload on one clock. -/
def sharedClock (d : Deployment P) : RunRule (clockedService d) where
  starts _ call := call.Working
  moves s op env := Undisturbed d s op env

/-- In addition, no event with a later reading has been committed since a reading that is
handed to a commit was taken. -/
def notOvertaken (d : Deployment P) : RunRule (clockedService d) where
  starts _ call := call.Working
  moves s op env := Undisturbed d s op env ∧ ∀ kind payload requestId ns,
    op = .commit kind payload requestId (some ns) →
      ∀ last ∈ s.1.mirror.lastMonotonicNs, last ≤ ns

/-- The mirror has taken every event of the ledger, in the order of the readings. -/
structure Mirrored (s : Runtime P) : Prop where
  agrees : Agrees s.ledger.events s.mirror
  accepted : ∀ event phase epoch, Entry.committed event false phase epoch ∉ s.history.log
  ordered : s.ledger.events.Pairwise fun event later =>
    event.body.monotonicNs.1 ≤ later.body.monotonicNs.1

/-- Operations that are handed no reading. -/
def Op.Unread : Op P → Prop
  | .commit _ _ _ ns => ns = none
  | _ => True

namespace ClockOrder

/-- What holds at all times. The last reading of the mirror bounds the others. -/
structure Inv (d : Deployment P) (s : Runtime P × ℤ) : Prop where
  mirrored : Mirrored s.1
  observed : EvidenceMirror.Observed d.manifest s.1.mirror
  reached : ∀ last ∈ s.1.mirror.lastMonotonicNs, last ≤ s.2
  bounded : ∀ event ∈ s.1.ledger.events, ∃ last ∈ s.1.mirror.lastMonotonicNs,
    event.body.monotonicNs.1 ≤ last

/-- A reading that is handed in was taken from the clock. -/
def Ready (s : Runtime P × ℤ) : Op P → Prop
  | .commit _ _ _ (some ns) => ns ≤ s.2
  | _ => True

variable {d : Deployment P} {env : World} {t : ℕ} {s s' : Runtime P × ℤ}

theorem le_tick (h : ∀ now, env.monotonicClock = .ok now → s.2 ≤ now) : s.2 ≤ tick env s.2 := by
  unfold tick
  split
  · exact h _ ‹_›
  · exact le_rfl

theorem log_exec {op : Op P} {r : op.Res} {s s' : Runtime P} (h : exec d env t s op = some (s', r))
    (hop : op.Quiet) {event : Event P} {phase : RunPhase} {epoch : ℤ}
    (hmem : Entry.committed event false phase epoch ∈ s'.history.log) :
    Entry.committed event false phase epoch ∈ s.history.log := by
  cases op
  case commit => exact absurd hop id
  all_goals
    simp only [exec, onState_eq_some, Option.some.injEq, Prod.mk.injEq,
      Option.ite_none_right_eq_some] at h
  all_goals try split at h
  all_goals try split at h
  all_goals try simp only [Option.some.injEq, Prod.mk.injEq] at h
  all_goals first | obtain ⟨rfl, -⟩ := h | obtain ⟨-, rfl, -⟩ := h
  case release | transport =>
    rcases List.mem_append.mp hmem with hmem | hmem
    · exact hmem
    · simp at hmem
  all_goals exact hmem

/-- A commit whose reading is not below the last one is mirrored. -/
theorem inv_commit {kind : EventKind} {payload : Json} {requestId : Option String} {ns : Option ℤ}
    (h : Inv d s) (hready : Ready s (.commit kind payload requestId ns))
    (hclock : ∀ now, env.monotonicClock = .ok now → s.2 ≤ now)
    (horder : ∀ n ∈ ns, ∀ last ∈ s.1.mirror.lastMonotonicNs, last ≤ n) :
    Inv d ((s.1.commit d env kind payload requestId ns).1, tick env s.2) := by
  have htick := le_tick hclock
  rcases commit_cases d env s.1 kind payload requestId ns with ⟨_, heq⟩ |
    ⟨event, mirrored, outcome, mirror, happend, hmirror, heq⟩
  · rw [heq]
    exact ⟨h.mirrored, h.observed, fun last hlast => (h.reached last hlast).trans htick, h.bounded⟩
  · obtain ⟨-, -, -, -, hreading, -⟩ := append_links happend
    -- The reading of the event lies between the last one and the clock.
    have hbetween : (∀ last ∈ s.1.mirror.lastMonotonicNs, last ≤ event.body.monotonicNs.1) ∧
        event.body.monotonicNs.1 ≤ tick env s.2 := by
      cases ns with
      | some n =>
          obtain rfl : n = event.body.monotonicNs.1 := Except.ok.inj hreading
          exact ⟨horder _ rfl, le_trans hready htick⟩
      | none =>
          have hnow : env.monotonicClock = .ok event.body.monotonicNs.1 := hreading
          refine ⟨fun last hlast => (h.reached last hlast).trans (hclock _ hnow), ?_⟩
          rw [tick, hnow]
    obtain ⟨mirror', hobserve⟩ := (observe_of_append h.observed h.mirrored.agrees happend).mpr
      hbetween.1
    cases mirrored with
    | false =>
        obtain ⟨-, error, hrefused, -⟩ := hmirror
        rw [hobserve] at hrefused
        cases hrefused
    | true =>
        obtain ⟨haccepted, -⟩ := hmirror
        rw [heq]
        have hlast : mirror.lastMonotonicNs = some event.body.monotonicNs.1 := by
          obtain ⟨-, -, _, -, hfields⟩ := EvidenceMirror.observe_eq_ok.mp haccepted
          rw [← hfields]
        refine ⟨⟨h.mirrored.agrees.snoc haccepted, ?_, ?_⟩, .observe h.observed haccepted, ?_, ?_⟩
        · intro e phase epoch hmem
          rcases List.mem_append.mp hmem with hmem | hmem
          · exact h.mirrored.accepted e phase epoch hmem
          · simp at hmem
        · refine List.pairwise_append.mpr ⟨h.mirrored.ordered, List.pairwise_singleton _ _, ?_⟩
          intro earlier hearlier later hlater
          obtain rfl := List.mem_singleton.mp hlater
          obtain ⟨last, hmem, hle⟩ := h.bounded earlier hearlier
          exact hle.trans (hbetween.1 last hmem)
        · change ∀ last ∈ mirror.lastMonotonicNs, last ≤ tick env s.2
          rw [hlast]
          rintro _ ⟨⟩
          exact hbetween.2
        · intro e hmem
          refine ⟨event.body.monotonicNs.1, hlast, ?_⟩
          rcases List.mem_append.mp hmem with hmem | hmem
          · obtain ⟨last, hlast', hle⟩ := h.bounded e hmem
            exact hle.trans (hbetween.1 last hlast')
          · rw [List.mem_singleton.mp hmem]

theorem inv_exec {op : Op P} {r : op.Res} (h : Inv d s) (hready : Ready s op)
    (hmove : (notOvertaken d).moves s op env)
    (hexec : (clockedService d).exec env t s op = some (s', r)) : Inv d s' := by
  obtain ⟨⟨s₁, r₁⟩, hdone, hs'⟩ := Option.map_eq_some_iff.mp hexec
  obtain ⟨rfl, rfl⟩ := Prod.mk.inj hs'
  by_cases hcommit : ∃ kind payload requestId ns, op = .commit kind payload requestId ns
  · obtain ⟨kind, payload, requestId, ns, rfl⟩ := hcommit
    rw [exec, Option.some.injEq] at hdone
    have hinv := inv_commit (d := d) h hready hmove.1.clock fun n hn => by
      cases hn
      exact hmove.2 _ _ _ _ rfl
    rwa [hdone] at hinv
  · simp only [not_exists] at hcommit
    have hquiet : op.Quiet := by
      cases op <;> first | exact trivial | exact absurd rfl (hcommit _ _ _ _)
    obtain ⟨hevents, hmirror⟩ := events_exec hdone hcommit
    have htick := le_tick hmove.1.clock
    refine ⟨⟨?_, ?_, ?_⟩, ?_, ?_, ?_⟩
    · rw [hevents, hmirror]
      exact h.mirrored.agrees
    · exact fun e phase epoch hmem => h.mirrored.accepted e phase epoch (log_exec hdone hquiet hmem)
    · rw [hevents]
      exact h.mirrored.ordered
    · rw [hmirror]
      exact h.observed
    · rw [hmirror]
      exact fun last hlast => (h.reached last hlast).trans htick
    · rw [hevents, hmirror]
      exact h.bounded

variable (d) in
/-- A waiting thread can count on the clock. -/
def discipline : Discipline (notOvertaken d) where
  inv := Inv d
  ready _ := Ready
  rely _ s s' := s.2 ≤ s'.2
  rely_refl _ _ := le_rfl
  rely_trans h h' := le_trans h h'
  act_inv h hready hmove hexec := inv_exec h hready hmove hexec
  act_rely _ _ hmove hexec _ _ := by
    obtain ⟨done, -, heq⟩ := Option.map_eq_some_iff.mp hexec
    rw [← (Prod.mk.inj heq).1]
    exact le_tick hmove.1.clock

/-! ## Code that takes its readings from the clock -/

/-- Code that may run as soon as the clock has reached a reading. -/
def CleanFrom (d : Deployment P) {α : Type} (ns : ℤ) (p : Prog P α) : Prop :=
  (discipline d).CleanUnder (fun s => ns ≤ s.2) p

variable {α β : Type} {ns : ℤ}

theorem clean_of_all {p : Prog P α} (hp : p.All Op.Unread) : (discipline d).Clean p := by
  induction p with
  | ret value => exact clean_ret value
  | raise error => exact clean_raise error
  | act op next ih =>
      refine clean_act (fun t s _ => ?_) fun result => ih result (hp.2 result)
      cases op with
      | commit kind payload requestId ns =>
          rw [show ns = none from hp.1]
          exact trivial
      | _ => exact trivial

theorem cleanFrom_of_clean {p : Prog P α} (hp : (discipline d).Clean p) : CleanFrom d ns p :=
  fun t s _ => hp t s

/-- The clock stays where it has been. -/
theorem stable_reached (ns : ℤ) : (discipline d).Stable fun s => ns ≤ s.2 where
  rely hrely h := le_trans h hrely
  act {env t s op s' result} hmove hexec h := by
    obtain ⟨done, -, heq⟩ := Option.map_eq_some_iff.mp hexec
    rw [← (Prod.mk.inj heq).1]
    exact h.trans (le_tick hmove.1.clock)

theorem cleanFrom_bind {p : Prog P α} {next : α → Prog P β} (hp : CleanFrom d ns p)
    (hnext : ∀ value, CleanFrom d ns (next value)) : CleanFrom d ns (p >>= next) :=
  cleanUnder_bind (stable_reached ns) hp hnext

theorem cleanFrom_handle {p : Prog P α} {handler : PyError → Prog P α} (hp : CleanFrom d ns p)
    (hhandler : ∀ error, CleanFrom d ns (handler error)) : CleanFrom d ns (p.handle handler) :=
  cleanUnder_handle (stable_reached ns) hp hhandler

theorem cleanFrom_commit (kind : EventKind) (payload : Json) (requestId : Option String) :
    CleanFrom d ns (raising (perform (.commit kind payload requestId (some ns))) :
      Prog P (Event P)) := by
  refine cleanFrom_bind ?_ fun outcome => cleanFrom_of_clean (clean_ofExcept outcome)
  intro t s h s₁ hrely _
  exact ⟨le_trans h hrely, fun _ _ _ _ _ _ => trivial⟩

/-- A reading that was just taken has been reached. -/
theorem clean_read {next : ℤ → Prog P β} (hnext : ∀ ns, CleanFrom d ns (next ns)) :
    (discipline d).Clean ((monotonicNow : Prog P ℤ) >>= next) := by
  intro t s
  have hread : (discipline d).Safe t (fun outcome s => ∀ ns, outcome = .ok ns → ns ≤ s.2)
      (monotonicNow : Prog P ℤ) s := by
    intro s₁ _ _
    refine ⟨trivial, fun env s₂ result _ hexec _ => safe_ofExcept.mpr ?_⟩
    obtain ⟨done, hdone, heq⟩ := Option.map_eq_some_iff.mp hexec
    simp only [exec, Option.some.injEq] at hdone
    subst hdone
    obtain ⟨rfl, rfl⟩ := Prod.mk.inj heq
    intro ns hns
    have hclock : env.monotonicClock = .ok ns := hns
    change ns ≤ tick env s₁.2
    rw [tick, hclock]
  exact safe_seq hread (fun ns s₁ h => hnext ns t s₁ (h ns rfl)) fun _ _ _ => trivial

/-! ## The calls of the workload -/

theorem clean_emergencyIsolate : (discipline d).Clean (Supervisor.emergencyIsolate : Prog P Unit) := by
  refine clean_of_all (all_bind (all_perform trivial) fun _ => ?_)
  refine all_finalize (all_bind (all_perform trivial) fun _ => ?_) (all_perform trivial)
  refine all_bind (all_perform trivial) fun _ => ?_
  exact all_bind (all_raising (all_perform trivial)) fun _ => all_raising (all_perform trivial)

theorem cleanFrom_commitAcknowledgement (ack : KillAcknowledgement P) :
    CleanFrom d ns (Supervisor.commitAcknowledgement ack ns) := by
  refine cleanFrom_handle (cleanFrom_bind (cleanFrom_commit _ _ _) fun _ => ?_) fun error => ?_
  · exact cleanFrom_of_clean (clean_ret _)
  · exact cleanFrom_of_clean (clean_of_all (all_bind (all_perform trivial) fun _ => trivial))

theorem clean_contain (trigger : Event P) (triggerNs : ℤ) :
    (discipline d).Clean (Supervisor.contain trigger triggerNs) := by
  have hquiet {op : Op P} (hop : op.Unread) : (discipline d).Clean (perform op) :=
    clean_of_all (all_perform hop)
  have hraising {α : Type} {p : Prog P (Except PyError α)} (hp : p.All Op.Unread) :
      (discipline d).Clean (raising p) := clean_of_all (all_raising hp)
  refine clean_bind (hquiet trivial) fun _ => ?_
  refine clean_finalize (clean_bind (hquiet trivial) fun found => ?_) (hquiet trivial)
  cases found with
  | some ack => exact clean_ret _
  | none =>
      refine clean_bind (hquiet trivial) fun latched => ?_
      refine clean_bind (hquiet trivial) fun signals => ?_
      refine clean_bind (hraising (all_perform trivial)) fun requestedAt => ?_
      refine clean_bind (hraising (all_perform trivial)) fun requestedNs => ?_
      refine clean_bind (hraising (all_perform trivial)) fun isolation => ?_
      refine clean_read fun acknowledgedNs => ?_
      refine cleanFrom_bind (cleanFrom_of_clean (hraising (all_perform trivial))) fun wall => ?_
      refine cleanFrom_bind (cleanFrom_of_clean (hraising (all_perform trivial))) fun _ => ?_
      refine cleanFrom_bind (cleanFrom_of_clean (hraising (all_perform trivial))) fun ack => ?_
      exact cleanFrom_commitAcknowledgement ack

/-- The gateway's commit, with a reading of its own or without. -/
theorem cleanFrom_gatewayCommit (kind : EventKind) (payload : Json) (requestId : Option String) :
    CleanFrom d ns (Gateway.commit kind payload requestId (some ns) : Prog P (Event P)) :=
  cleanFrom_handle (cleanFrom_commit _ _ _) fun _ =>
    cleanFrom_of_clean (clean_bind clean_emergencyIsolate fun _ => clean_raise _)

theorem clean_gatewayCommit (kind : EventKind) (payload : Json) (requestId : Option String) :
    (discipline d).Clean (Gateway.commit kind payload requestId none : Prog P (Event P)) :=
  clean_handle (clean_of_all (all_raising (all_perform rfl))) fun _ =>
    clean_bind clean_emergencyIsolate fun _ => clean_raise _

theorem clean_failClosed (reasonCode : String) (requestId : Option String) :
    (discipline d).Clean (Gateway.failClosed reasonCode requestId : Prog P Unit) := by
  refine clean_read fun triggerNs => ?_
  refine cleanFrom_bind (cleanFrom_of_clean (clean_of_all (all_perform trivial))) fun _ => ?_
  refine cleanFrom_bind (cleanFrom_handle (cleanFrom_gatewayCommit _ _ _) fun _ => ?_) fun trigger => ?_
  · refine cleanFrom_of_clean (clean_bind (clean_of_all (all_perform trivial)) fun events => ?_)
    cases events.getLast? with
    | none => exact clean_raise _
    | some event => exact clean_ret _
  · exact cleanFrom_of_clean (clean_bind (clean_contain _ _) fun _ => clean_ret _)

theorem clean_conclude (action : Action P) (sha : String) (result : PolicyResult)
    (decision : Decision P) :
    (discipline d).Clean (Gateway.conclude action sha result decision) := by
  unfold Gateway.conclude
  split_ifs
  · refine clean_bind (clean_gatewayCommit _ _ _) fun violation => ?_
    exact clean_bind (clean_contain _ _) fun _ => clean_ret _
  · exact clean_ret _

theorem cleanFrom_decideAction (action : Action P) :
    CleanFrom d ns (Gateway.decideAction d action ns) := by
  refine cleanFrom_bind (cleanFrom_of_clean (clean_ofExcept _)) fun sha => ?_
  refine cleanFrom_bind (cleanFrom_gatewayCommit _ _ _) fun request => ?_
  refine cleanFrom_of_clean (clean_read fun decidedNs => ?_)
  refine cleanFrom_bind (cleanFrom_of_clean ?_) fun wall => ?_
  · exact clean_of_all (all_raising (all_perform trivial))
  refine cleanFrom_bind (cleanFrom_of_clean (clean_ofExcept _)) fun decidedAt => ?_
  refine cleanFrom_bind (cleanFrom_of_clean (clean_of_all (all_perform trivial))) fun result => ?_
  refine cleanFrom_bind (cleanFrom_of_clean (clean_of_all ?_)) fun _ => ?_
  · unfold Gateway.latchOnKill
    split_ifs
    · exact all_bind (all_perform trivial) fun _ => trivial
    · exact trivial
  refine cleanFrom_bind (cleanFrom_of_clean (clean_of_all (all_perform trivial))) fun epoch => ?_
  refine cleanFrom_bind (cleanFrom_of_clean (clean_of_all ?_)) fun capability => ?_
  · unfold Gateway.authorization
    split_ifs
    · exact all_bind (all_perform trivial) fun _ => trivial
    · exact trivial
  refine cleanFrom_bind (cleanFrom_of_clean (clean_ofExcept _)) fun decision => ?_
  refine cleanFrom_bind (cleanFrom_gatewayCommit _ _ _) fun event => ?_
  refine cleanFrom_of_clean (clean_bind (clean_of_all (all_perform trivial)) fun _ => ?_)
  exact clean_conclude _ _ _ _

theorem clean_submitRaw (raw : Bytes) : (discipline d).Clean (Gateway.submitRaw d raw) := by
  refine clean_read fun admittedNs => ?_
  have hcontain (event : Event P) (result : GatewayResult P) :
      CleanFrom d admittedNs (Supervisor.contain event admittedNs >>= fun _ => .ret result) :=
    cleanFrom_of_clean (clean_bind (clean_contain _ _) fun _ => clean_ret _)
  have hlatch : CleanFrom d admittedNs (perform .latchKill : Prog P _) :=
    cleanFrom_of_clean (clean_of_all (all_perform trivial))
  split_ifs
  · refine cleanFrom_bind hlatch fun _ => ?_
    exact cleanFrom_bind (cleanFrom_gatewayCommit _ _ _) fun event => hcontain _ _
  refine cleanFrom_bind (cleanFrom_of_clean (clean_of_all (all_perform trivial))) fun admission => ?_
  cases admission with
  | droppedAfterKill => exact cleanFrom_of_clean (clean_ret _)
  | firstOverload => exact cleanFrom_bind (cleanFrom_gatewayCommit _ _ _) fun event => hcontain _ _
  | admitted =>
      dsimp only
      cases Action.fromWire P raw with
      | ok action => exact cleanFrom_decideAction action
      | error _ =>
          refine cleanFrom_bind (cleanFrom_gatewayCommit _ _ _) fun event => ?_
          exact cleanFrom_bind hlatch fun _ => hcontain _ _

theorem clean_dispatch (action : Action P) (decision : Decision P) (nowNs : ℤ) :
    (discipline d).Clean (Executor.dispatch d action decision nowNs) := by
  have hunread (op : Op P) (hop : op.Quiet) : op.Unread := by
    cases op <;> first | exact trivial | exact absurd hop id
  have hfailed (id : OpaqueId) (lease : Option DispatchLease) (error : PyError) :
      (discipline d).Clean (Executor.failed action id lease error) := by
    refine clean_bind ?_ fun _ => clean_bind (clean_of_all (all_perform trivial)) fun cancelled => ?_
    · cases lease with
      | none => exact clean_ret _
      | some lease => exact clean_of_all (all_perform trivial)
    · cases cancelled with
      | true => exact clean_raise _
      | false => exact clean_bind (clean_failClosed _ _) fun _ => clean_raise _
  refine clean_bind (clean_ofExcept _) fun _ => clean_bind (clean_ofExcept _) fun _ => ?_
  refine clean_bind (clean_ofExcept _) fun rule => ?_
  cases decision.body.authorizationId with
  | none => exact clean_raise _
  | some id =>
      refine clean_bind (clean_of_all (all_raising (all_perform trivial))) fun _ => ?_
      refine clean_finalize ?_ (clean_of_all (all_perform trivial))
      refine clean_bind (clean_attempt (clean_of_all (all_beginAuthorized hunread _ _ fun _ => rfl)))
        fun outcome => ?_
      cases outcome with
      | error error => exact hfailed id none error
      | ok lease =>
          refine clean_handle ?_ (hfailed id (some lease))
          refine clean_of_all (all_bind (all_raising (all_perform trivial)) fun secret => ?_)
          refine all_bind (all_raising (all_perform trivial)) fun result => ?_
          refine all_bind (all_ofExcept _) fun _ => ?_
          exact all_bind (all_finishAuthorized hunread _ fun _ => rfl) fun _ => trivial

variable (d) in
theorem covers : (discipline d).Covers fun _ _ _ => True where
  stable _ _ := trivial
  calls t {call s} _ hcall := by
    have hclean : (discipline d).Clean (body d call) := by
      cases call with
      | submitRaw raw => exact clean_map (clean_submitRaw raw)
      | dispatch action decision nowNs => exact clean_map (clean_dispatch action decision nowNs)
      | failClosed reasonCode requestId => exact clean_map (clean_failClosed reasonCode requestId)
      | _ => exact absurd hcall id
    exact hclean t s
  retire_inv {call outcome s} h _ := by
    have hretire : (retire call outcome s.1).ledger = s.1.ledger ∧
        (retire call outcome s.1).mirror = s.1.mirror ∧
        (retire call outcome s.1).history.log = s.1.history.log := by
      unfold retire
      split <;> exact ⟨rfl, rfl, rfl⟩
    obtain ⟨hledger, hmirror, hlog⟩ := hretire
    refine ⟨⟨?_, ?_, ?_⟩, ?_, ?_, ?_⟩
    · rw [hledger, hmirror]
      exact h.mirrored.agrees
    · rw [hlog]
      exact h.mirrored.accepted
    · rw [hledger]
      exact h.mirrored.ordered
    · rw [hmirror]
      exact h.observed
    · rw [hmirror]
      exact h.reached
    · rw [hledger, hmirror]
      exact h.bounded
  retire_rely _ _ _ := le_rfl

end ClockOrder

/-- In every interleaving of the workload's calls on one clock in which no commit is
overtaken, the mirror refuses nothing and agrees with the ledger. -/
theorem mirrored_of_reachable (P : Platform) (d : Deployment P) (witness : TransparencyWitness P)
    (start : ℤ) (c : Config (clockedService d))
    (h : Reachable (notOvertaken d) (Runtime.init d witness, start) c) : Mirrored c.shared.1 := by
  have hinit : ClockOrder.Inv d (Runtime.init d witness, start) :=
    ⟨⟨agrees_empty, fun _ _ _ hmem => (nomatch hmem), .nil⟩, .start, fun _ hmem => (nomatch hmem),
      fun _ hmem => (nomatch hmem)⟩
  exact (invariant_of_reachable (ClockOrder.covers d) hinit h).mirrored

/-! ## Runs at one moment -/

section Moments

variable {d : Deployment P} {rule : RunRule (runtimeService d)} {rule' : RunRule (clockedService d)}
  {c c' : Config (runtimeService d)} {now : ℤ}

/-- A configuration of the runtime, with the clock. -/
def clockedAt (c : Config (runtimeService d)) (now : ℤ) : Config (clockedService d) :=
  ⟨(c.shared, now), c.running⟩

/-- A stretch at one moment is a stretch on the shared clock. -/
theorem steps_at {before : ℤ} (hle : before ≤ now)
    (hstarts : ∀ s call earlier, rule.starts s call → rule'.starts (s, earlier) call)
    (hmoves : ∀ s op env earlier, earlier ≤ now → rule.moves s op env →
      env.monotonicClock = .ok now ∧ rule'.moves (s, earlier) op env)
    (h : Relation.ReflTransGen (Step rule) c c') :
    ∃ after ≤ now, Relation.ReflTransGen (Step rule') (clockedAt c before) (clockedAt c' after) := by
  induction h with
  | refl => exact ⟨before, hle, .refl⟩
  | @tail c₁ c₂ _ hstep ih =>
      obtain ⟨after, hafter, hreach⟩ := ih
      cases hstep with
      | start t call idle admitted =>
          have hidle : (clockedAt c₁ after).running t = none := idle
          have hstart := @Step.start _ _ _ _ rule' (clockedAt c₁ after) t call hidle
            (hstarts _ _ _ admitted)
          exact ⟨after, hafter, hreach.tail hstart⟩
      | @act t call op next running env allowed s₁ result executed =>
          obtain ⟨hclock, hmove⟩ := hmoves _ _ _ after hafter allowed
          have hrunning : (clockedAt c₁ after).running t = some (call, .act op next) := running
          have hexec : (clockedService d).exec env t (clockedAt c₁ after).shared op =
              some ((s₁, now), result) := by
            refine Option.map_eq_some_iff.mpr ⟨_, executed, ?_⟩
            rw [tick, hclock]
          exact ⟨now, le_rfl, hreach.tail (.act t hrunning env hmove hexec)⟩
      | @stop t call code running outcome ended =>
          have hrunning : (clockedAt c₁ after).running t = some (call, code) := running
          exact ⟨after, hafter, hreach.tail (.stop t hrunning outcome ended)⟩

/-- The workload at one moment, on a ledger with room and a free slot. -/
def moment (d : Deployment P) (now : ℤ) : RunRule (runtimeService d) where
  starts _ call := call.Working
  moves s op env := env.monotonicClock = .ok now ∧ (¬ op.Quiet → s.ledger.isSealed = false ∧
    s.ledger.events.length < d.ledgerConfig.maxEvents ∧ env.fault = none)

/-- In addition, every reading that is handed in is in order. -/
def orderlyMoment (d : Deployment P) (now : ℤ) : RunRule (runtimeService d) where
  starts _ call := call.Working
  moves s op env := (moment d now).moves s op env ∧ ∀ kind payload requestId ns,
    op = .commit kind payload requestId (some ns) → ∀ last ∈ s.mirror.lastMonotonicNs, last ≤ ns

theorem undisturbed_of_moment {s : Runtime P} {op : Op P} {env : World} {earlier : ℤ}
    (hle : earlier ≤ now) (h : (moment d now).moves s op env) :
    env.monotonicClock = .ok now ∧ Undisturbed d (s, earlier) op env := by
  refine ⟨h.1, ?_, h.2⟩
  intro reading hreading
  rw [h.1] at hreading
  exact hle.trans (le_of_eq (Except.ok.inj hreading))

end Moments

section Overtaking

open Reference

variable {manifest : Manifest platform}

theorem moment_world {s : Runtime platform} {ns : ℤ} (h : Healthy manifest s ns)
    (op : Op platform) : (moment (deployment manifest) ns).moves s op (world ns) :=
  ⟨rfl, fun _ => ⟨h.unsealed, lt_trans h.room (show 1000 < 40000 by decide), rfl⟩⟩

theorem orderlyMoment_world {s : Runtime platform} {ns : ℤ} (h : Healthy manifest s ns)
    {op : Op platform} (hop : Calm ns op) :
    (orderlyMoment (deployment manifest) ns).moves s op (world ns) := by
  refine ⟨moment_world h op, ?_⟩
  rintro kind payload requestId n rfl
  rw [hop.2 n rfl]
  exact h.last

/-- One submission that nobody overtakes. -/
theorem mirrored_submission : ∃ (manifest : Manifest platform)
    (c : Config (clockedService (deployment manifest))),
    Reachable (notOvertaken (deployment manifest))
      (Runtime.init (deployment manifest) Reference.witness, 2000) c ∧
    c.shared.1.ledger.events.length = 2 ∧ Mirrored c.shared.1 := by
  obtain ⟨manifest, hm⟩ := exists_signed
  obtain ⟨raw, hwire, hraw⟩ := exists_wire
  obtain ⟨s', request, decided, decision, digest, hends, hdecided⟩ :=
    exists_submitRaw (orderlyMoment (deployment manifest) 2000) 0 ⟨2000, by decide⟩ ⟨1000002000, by decide⟩ hm
      (fun _ _ h hop _ => orderlyMoment_world h hop) (healthy_init manifest 2000) (by decide)
      (roomy_init hm) (show 0 < 800 by decide) ⟨by decide, by decide⟩ rfl hwire hraw
  have hworking : (orderlyMoment (deployment manifest) 2000).starts
      (Runtime.init (deployment manifest) Reference.witness) (Call.submitRaw raw) := trivial
  have hcall : CallStep (orderlyMoment (deployment manifest) 2000) _ _ :=
    .call 0 (Call.submitRaw raw) _ hworking hends
  have hlift (s : Runtime platform) (op : Op platform) (env : World) (earlier : ℤ)
      (hle : earlier ≤ 2000) (hmove : (orderlyMoment (deployment manifest) 2000).moves s op env) :
      env.monotonicClock = .ok 2000 ∧
        (notOvertaken (deployment manifest)).moves (s, earlier) op env :=
    ⟨hmove.1.1, (undisturbed_of_moment hle hmove.1).2, hmove.2⟩
  obtain ⟨after, -, hreach⟩ := steps_at (le_refl 2000) (fun _ _ _ hstart => hstart) hlift
    (reachable_of_sequence (.single hcall))
  refine ⟨manifest, _, hreach, ?_, mirrored_of_reachable _ _ _ _ _ hreach⟩
  change s'.ledger.events.length = 2
  rw [hdecided.events]
  rfl

/-- `submit_raw` after it has read the clock. -/
def admittedCode (d : Deployment P) (raw : Bytes) (admittedNs : ℤ) : Prog P (GatewayResult P) :=
  if admittedNs - d.startedMonotonicNs > Supervisor.runtimeLimitNs d then
    Gateway.rejectLate admittedNs
  else do
    match ← perform (.admitRaw raw.length admittedNs) with
    | .droppedAfterKill => return Gateway.refused "run.not_dispatchable"
    | .firstOverload => Gateway.rejectOverload raw admittedNs
    | .admitted =>
        match Action.fromWire P raw with
        | .error _ => Gateway.rejectMalformed raw admittedNs
        | .ok action => Gateway.decideAction d action admittedNs

/-- A request whose reading is below the last one is appended and not mirrored. -/
theorem exists_unmirrored (hm : Signed manifest) {t : ℕ} {s : Runtime platform} {n : ℕ}
    (hn : n ≤ 50) (hroomy : Roomy n s) (hhealthy : Healthy manifest s 3000)
    (hlast : s.mirror.lastMonotonicNs = some 3000) {raw : Bytes}
    (hwire : Action.fromWire platform raw = .ok action) (hraw : raw.length ≤ 24000) :
    ∃ s' code, Runs (moment (deployment manifest) 3000) t s
        (admittedCode (deployment manifest) raw 2000) s' code ∧ ¬ Mirrored s' := by
  obtain ⟨digest, hdigest⟩ := exists_digest
  obtain ⟨window, count, -, hadmission⟩ := exists_admitted hn hroomy hraw 2000
  have hlimit : ¬ (2000 : ℤ) - (deployment manifest).startedMonotonicNs >
      Supervisor.runtimeLimitNs (deployment manifest) := by
    change ¬ (2000 : ℤ) - 1000 > manifest.body.killCriteria.maxRuntimeMs.1 * 1000000
    rw [hm.body]
    decide
  set s₁ : Runtime platform := { s with state := { s.state with
    observed := s.state.observed + 1
    windowStartedNs := window
    windowCount := count + 1
    admitted := s.state.admitted + 1 } } with hs₁
  have hadmitted : Ends (moment (deployment manifest) 3000) t s
      (perform (.admitRaw raw.length 2000) : Prog platform Admission) s₁ (.ok .admitted) := by
    refine ends_perform (world 3000) (moment_world hhealthy _) ?_
    simp only [exec]
    exact onState_eq_some.mpr ⟨hroomy.stateLock, by rw [hadmission], by rw [hadmission]⟩
  have hhealthy₁ : Healthy manifest s₁ 3000 :=
    ⟨hhealthy.observed, hhealthy.agrees, hhealthy.unsealed, hhealthy.room, hhealthy.last⟩
  obtain ⟨event, happend⟩ := exists_append (world 3000) (some 2000) ⟨2000, by decide⟩
    hhealthy₁ (fits_requestPayload digest) opaqueId_request rfl rfl rfl .request
  -- The ledger takes the event, and the mirror has seen a later one.
  obtain ⟨error, hrefused⟩ : ∃ error, s₁.mirror.observe manifest event = .error error := by
    cases hobserve : s₁.mirror.observe manifest event with
    | error error => exact ⟨error, rfl⟩
    | ok mirror =>
        obtain ⟨-, -, -, -, hreading, -⟩ := append_links happend
        have htime : event.body.monotonicNs.1 = 2000 := (Except.ok.inj hreading).symm
        have hle := (observe_of_append hhealthy₁.observed hhealthy₁.agrees happend).mp
          ⟨mirror, hobserve⟩ 3000 hlast
        omega
  set s₂ : Runtime platform := Runtime.note { s₁ with
    ledger := { s₁.ledger with events := s₁.ledger.events ++ [event] } }
    (.committed event false s₁.state.phase s₁.state.killEpoch) with hs₂
  have hcommit : Ends (moment (deployment manifest) 3000) t s₁ (raising (perform
      (.commit .request (Gateway.requestPayload action digest.1) (some action.requestId.1)
        (some 2000))) : Prog platform (Event platform)) s₂ (.error error) := by
    refine ends_raising (ends_perform (world 3000) (moment_world hhealthy₁ _) ?_)
    simp only [exec, Runtime.commit, happend]
    erw [hrefused]
  obtain ⟨rest, hrequest⟩ : ∃ rest, Runs (moment (deployment manifest) 3000) t s₁
      (Gateway.commit .request (Gateway.requestPayload action digest.1) (some action.requestId.1)
        (some 2000)) s₂ rest := by
    unfold Gateway.commit Program.handle
    exact ⟨_, Runs.bind hcommit.attempt⟩
  obtain ⟨code, hdecide⟩ : ∃ code, Runs (moment (deployment manifest) 3000) t s₁
      (Gateway.decideAction (deployment manifest) action 2000) s₂ code := by
    rw [Gateway.decideAction, hdigest]
    exact ⟨_, Ends.bind ends_ret (Runs.bind hrequest)⟩
  have hruns : Runs (moment (deployment manifest) 3000) t s
      (admittedCode (deployment manifest) raw 2000) s₂ code := by
    rw [admittedCode, if_neg hlimit]
    refine Ends.bind hadmitted ?_
    simp only [hwire]
    exact hdecide
  refine ⟨s₂, code, hruns, fun hmirrored => ?_⟩
  have hbefore := hhealthy.agrees.count
  have hafter := hmirrored.agrees.count
  change s.mirror.count = (s.ledger.events ++ [event]).length at hafter
  rw [List.length_append, List.length_singleton, ← hbefore] at hafter
  omega

/-- A submission reads the clock at 2000, another one is served whole at 3000, and then the
first one commits its request. -/
theorem overtaken_not_mirrored :
    ¬ ∀ (P : Platform) (d : Deployment P) (witness : TransparencyWitness P) (start : ℤ)
      (c : Config (clockedService d)),
      Reachable (sharedClock d) (Runtime.init d witness, start) c → Mirrored c.shared.1 := by
  intro hclaim
  obtain ⟨manifest, hm⟩ := exists_signed
  obtain ⟨raw, hwire, hraw⟩ := exists_wire
  set s₀ := Runtime.init (deployment manifest) Reference.witness with hs₀
  have hworking {now : ℤ} (s : Runtime platform) :
      (moment (deployment manifest) now).starts s (Call.submitRaw raw) := trivial
  have hlift {now : ℤ} (s : Runtime platform) (op : Op platform) (env : World) (earlier : ℤ)
      (hle : earlier ≤ now) (hmove : (moment (deployment manifest) now).moves s op env) :
      env.monotonicClock = .ok now ∧ (sharedClock (deployment manifest)).moves (s, earlier) op env :=
    undisturbed_of_moment hle hmove
  -- The first submission takes its reading.
  have hread : Runs (moment (deployment manifest) 2000) 0 s₀
      (body (deployment manifest) (.submitRaw raw)) s₀
      (Reply.submitted <$> admittedCode (deployment manifest) raw 2000) := by
    have hclock : Ends (moment (deployment manifest) 2000) 0 s₀ (monotonicNow : Prog platform ℤ) s₀
        (.ok 2000) :=
      ends_raising (ends_perform (world 2000) (moment_world (healthy_init manifest 2000) _)
        (by simp only [exec, world]))
    exact Runs.bind (Ends.bind hclock (.refl _ _))
  have hfirst := steps_call (t := 0) (c := Config.initial s₀) rfl (hworking _) hread
  obtain ⟨after, hafter, hfirst⟩ := steps_at (le_refl 2000) (fun _ _ _ hstart => hstart) hlift hfirst
  -- The second one runs to its end.
  obtain ⟨s', request, decided, decision, digest, hends, hdecided⟩ :=
    exists_submitRaw (moment (deployment manifest) 3000) 1 ⟨3000, by decide⟩ ⟨1000003000, by decide⟩ hm
      (fun _ op h _ _ => moment_world h op) (healthy_init manifest 3000) (by decide)
      (roomy_init hm) (show 0 < 800 by decide) ⟨by decide, by decide⟩ rfl hwire hraw
  -- The first one goes on with its old reading.
  obtain ⟨s₂, code, hlate, hunmirrored⟩ := exists_unmirrored (t := 0) hm (by decide)
    (hdecided.roomy (roomy_init hm)) ⟨hdecided.healthy.observed, hdecided.healthy.agrees,
      hdecided.healthy.unsealed, hdecided.healthy.room, hdecided.healthy.last⟩ hdecided.last hwire hraw
  set c₁ := (Config.initial s₀ : Config (runtimeService (deployment manifest))).set s₀ 0
    (some (Call.submitRaw raw, Reply.submitted <$> admittedCode (deployment manifest) raw 2000))
    with hc₁
  obtain ⟨c₂, hsecond, hshared, hrunning⟩ : ∃ c₂,
      Relation.ReflTransGen (Step (moment (deployment manifest) 3000)) c₁ c₂ ∧
      c₂.shared = counted s' ∧ c₂.running 0 = c₁.running 0 :=
    ⟨_, steps_call (t := 1) (c := c₁) rfl (hworking _) hends, rfl, rfl⟩
  rw [← hshared] at hlate
  have hthird := Runs.steps (Runs.bind hlate) (hrunning.trans rfl)
  obtain ⟨_, -, hrest⟩ := steps_at (hafter.trans (by decide)) (fun _ _ _ hstart => hstart) hlift
    (hsecond.trans hthird)
  exact hunmirrored (hclaim _ _ _ _ _ (hfirst.trans hrest))

end Overtaking

end Containment
