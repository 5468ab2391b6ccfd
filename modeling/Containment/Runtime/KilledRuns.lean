/-
# The flags of a killed run

The supervisor keeps three pieces of information about the end of a run: the phase, the
acknowledgement and the emergency flag. A receipt derives its status from the phase and the
flag, and its body is refused unless it is KILLED exactly when there is an acknowledgement.
So a killed run can have a receipt only if one of the two is set and not both.

Nothing in the code keeps them apart. The phase is set before the acknowledgement passes its
checks, so a refused one leaves neither. A containment does not look at the emergency flag
and an emergency isolation does not look at the acknowledgement, so one after the other
leaves both. These are the only ways.
-/

import Containment.Runtime.Cancellation

namespace Containment

open Json Concurrency

variable {P : Platform}

/-- The end of a killed run is either acknowledged or an emergency, and the status of its
receipt says which. -/
structure Explained (s : Runtime P) : Prop where
  one : s.state.phase = .killed → Xor (s.killAcknowledgement ≠ none) (s.emergencyFailure = true)
  status : s.state.phase = .killed → ∀ status,
    Supervisor.derivedStatus s.emergencyFailure s.state.phase = .ok status →
      (status = .killed ↔ s.killAcknowledgement.isSome = true)

/-- The calls of a run before its receipt, with any answers of the outside world. -/
def beforeReceipt (d : Deployment P) : RunRule (runtimeService d) where
  starts _ call := match call with
    | .complete | .receipt _ => False
    | _ => True
  moves _ _ _ := True

/-- In addition, no emergency is raised once there is an acknowledgement, and without an
emergency the acknowledgement passes its checks. After one, the ledger does not take it. -/
def oneEnding (d : Deployment P) : RunRule (runtimeService d) where
  starts := (beforeReceipt d).starts
  moves s op env := (op = .raiseEmergency → s.killAcknowledgement = none) ∧
    (∀ request, op = .acknowledge request → s.emergencyFailure = false →
      ∃ ack, request.acknowledgement d = .ok ack) ∧
    ∀ payload requestId ns, op = .commit .killAcknowledged payload requestId ns →
      s.emergencyFailure = true →
      ∃ error, (s.commit d env .killAcknowledged payload requestId ns).2 = .error error

namespace Explained

variable {d : Deployment P} {env : World} {t : ℕ} {s s' : Runtime P}

/-- What holds between two calls. -/
def Inv (s : Runtime P) : Prop :=
  s.state.phase = .killed → (s.killAcknowledgement ≠ none ↔ s.emergencyFailure = false)

theorem of_inv (h : Inv s) : Explained s where
  one hkilled := by
    have hiff := h hkilled
    by_cases hemergency : s.emergencyFailure = true
    · exact .inr ⟨hemergency, fun hset => by simp [hiff.mp hset] at hemergency⟩
    · exact .inl ⟨hiff.mpr (Bool.eq_false_iff.mpr hemergency), hemergency⟩
  status hkilled status hderived := by
    have hiff := h hkilled
    rw [hkilled] at hderived
    cases hemergency : s.emergencyFailure with
    | true =>
        rw [hemergency] at hiff hderived
        have hnone : s.killAcknowledgement = none := by simpa using hiff
        cases hderived
        simp [hnone]
    | false =>
        rw [hemergency] at hiff hderived
        have hset : s.killAcknowledgement ≠ none := hiff.mpr rfl
        cases hderived
        simpa [Option.isSome_iff_ne_none] using hset

/-! ## One operation -/

/-- Operations that leave the end of the run alone. -/
def Op.Still : Op P → Prop
  | .markKilled | .acknowledge _ | .dropAcknowledgement | .raiseEmergency => False
  | _ => True

theorem still_commit (kind : EventKind) (payload : Json) (requestId : Option String)
    (ns : Option ℤ) : Op.Still (.commit kind payload requestId ns : Op P) := trivial

/-- The end of the run is as before. -/
structure Kept (s s' : Runtime P) : Prop where
  acknowledgement : s'.killAcknowledgement = s.killAcknowledgement
  emergency : s'.emergencyFailure = s.emergencyFailure
  killed : s'.state.phase = .killed → s.state.phase = .killed

theorem flags_exec {op : Op P} {r : op.Res} (hop : Op.Still op)
    (h : exec d env t s op = some (s', r)) :
    s'.killAcknowledgement = s.killAcknowledgement ∧ s'.emergencyFailure = s.emergencyFailure := by
  cases op
  case commit kind payload requestId ns =>
    simp only [exec, Option.some.injEq] at h
    rcases commit_cases d env s kind payload requestId ns with ⟨_, heq⟩ |
      ⟨_, _, _, _, -, -, heq⟩ <;>
    · rw [heq, Prod.mk.injEq] at h
      obtain ⟨rfl, -⟩ := h
      exact ⟨rfl, rfl⟩
  case markKilled | acknowledge | dropAcknowledgement | raiseEmergency => exact absurd hop id
  all_goals
    simp only [exec, onState_eq_some, Option.some.injEq, Prod.mk.injEq,
      Option.ite_none_right_eq_some] at h
  all_goals try split at h
  all_goals try split at h
  all_goals try simp only [Option.some.injEq, Prod.mk.injEq] at h
  all_goals first | obtain ⟨rfl, -⟩ := h | obtain ⟨-, rfl, -⟩ := h
  all_goals exact ⟨rfl, rfl⟩

theorem kept_exec {op : Op P} {r : op.Res} (hop : Op.Still op)
    (h : exec d env t s op = some (s', r)) : Kept s s' := by
  obtain ⟨hack, hemergency⟩ := flags_exec hop h
  refine ⟨hack, hemergency, fun hkilled => ?_⟩
  rcases Cancelling.killing_of_killed h hkilled with hbefore | ⟨rfl, -⟩
  · exact hbefore
  · exact absurd hop id

theorem Inv.kept (h : Inv s) (hkept : Kept s s') : Inv s' := by
  intro hkilled
  rw [hkept.acknowledgement, hkept.emergency]
  exact h (hkept.killed hkilled)

/-- An emergency without an acknowledgement. -/
theorem inv_emergency (hnone : s.killAcknowledgement = none) (hemergency : s.emergencyFailure = true) :
    Inv s := by
  intro _
  simp [hnone, hemergency]

/-! ## Code that keeps the flags right -/

/-- Alone, the code leads from one state that is explained to another. -/
def Keeps (d : Deployment P) {α : Type} (p : Prog P α) : Prop :=
  ∀ t s, Inv s → Ensures (oneEnding d) t (fun _ s => Inv s) p s

section Keeps

variable {α β : Type}

theorem keeps_of_still {p : Prog P α} (hp : p.All Op.Still) : Keeps d p := by
  intro t s h
  refine ensures_of_all (fun env s op s₁ result hop _ hexec hinv => ?_) hp h
  exact hinv.kept (kept_exec hop hexec)

theorem keeps_perform {op : Op P} (hop : Op.Still op) : Keeps d (perform op) :=
  keeps_of_still (all_perform hop)

theorem keeps_ofExcept (outcome : Except PyError α) : Keeps d (.ofExcept outcome : Prog P α) :=
  fun _ _ h => ensures_ofExcept.mpr h

theorem keeps_ret (value : α) : Keeps d (.ret value : Prog P α) := fun _ _ h => h

theorem keeps_raise (error : PyError) : Keeps d (.raise error : Prog P α) := fun _ _ h => h

theorem keeps_bind {p : Prog P α} {next : α → Prog P β} (hp : Keeps d p)
    (hnext : ∀ value, Keeps d (next value)) : Keeps d (p >>= next) :=
  fun t s h => ensures_seq (hp t s h) (fun value s₁ h₁ => hnext value t s₁ h₁) fun _ _ h₁ => h₁

theorem keeps_attempt {p : Prog P α} (hp : Keeps d p) : Keeps d p.attempt :=
  fun t s h => ensures_attempt (hp t s h)

theorem keeps_handle {p : Prog P α} {handler : PyError → Prog P α} (hp : Keeps d p)
    (hhandler : ∀ error, Keeps d (handler error)) : Keeps d (p.handle handler) :=
  fun t s h => ensures_handle (hp t s h) (fun _ _ h₁ => h₁) fun error s₁ h₁ => hhandler error t s₁ h₁

theorem keeps_finalize {p : Prog P α} {finalizer : Prog P Unit} (hp : Keeps d p)
    (hfinalizer : Keeps d finalizer) : Keeps d (p.finalize finalizer) := by
  refine fun t s h => ensures_finalize (hp t s h) fun outcome s₁ h₁ => ?_
  refine ensures_mono (fun done s₂ h₂ => ?_) (hfinalizer t s₁ h₁)
  cases done <;> exact h₂

theorem keeps_raising {p : Prog P (Except PyError α)} (hp : Keeps d p) : Keeps d (raising p) :=
  keeps_bind hp keeps_ofExcept

end Keeps

/-! ## The containment -/

/-- What the acknowledgement leaves behind, whether its commit succeeds or not. -/
theorem ensures_commitAcknowledgement {ack : KillAcknowledgement P} (ns : ℤ)
    (h : s.killAcknowledgement = some ack) :
    Ensures (oneEnding d) t (fun _ s => Inv s) (Supervisor.commitAcknowledgement ack ns) s := by
  have hcommit : Ensures (oneEnding d) t (fun outcome s => ∀ value, outcome = .ok value → Inv s)
      (raising (perform (.commit .killAcknowledged
        ((Sealed.codec P killAcknowledgementSealing).encode ack) none (some ns))) >>= fun _ =>
          (.ret ack : Prog P (KillAcknowledgement P))) s := by
    intro env s₁ outcome hmove hexec
    have hkept := kept_exec (still_commit _ _ _ _) hexec
    cases outcome with
    | error error =>
        intro value heq
        cases heq
    | ok event =>
        intro _ _ _
        rw [hkept.acknowledgement, hkept.emergency, h]
        -- A ledger that took the acknowledgement had seen no emergency.
        have hcalm : s.emergencyFailure ≠ true := by
          intro hemergency
          obtain ⟨error, herror⟩ := hmove.2.2 _ _ _ rfl hemergency
          simp only [exec, Option.some.injEq] at hexec
          rw [hexec] at herror
          cases herror
        simp [hcalm]
  refine ensures_handle hcommit (fun value _ h₁ => h₁ value rfl) fun error s₁ _ => ?_
  intro env s₂ _ _ hexec
  simp only [exec, Option.some.injEq, Prod.mk.injEq] at hexec
  obtain ⟨rfl, -⟩ := hexec
  exact inv_emergency rfl rfl

/-- Before the acknowledgement, the phase may be the only thing that has changed. -/
theorem ensures_acknowledge (request : KillRequest P) (h : s.killAcknowledgement = none) :
    Ensures (oneEnding d) t (fun outcome s =>
        (∀ ack, outcome = .ok ack → s.killAcknowledgement = some ack) ∧
          ∀ error, outcome = .error error → Inv s)
      (raising (perform (.acknowledge request)) : Prog P (KillAcknowledgement P)) s := by
  intro env s₁ outcome hmove hexec
  refine ensures_ofExcept.mpr ?_
  simp only [exec] at hexec
  cases hbody : request.acknowledgement d with
  | ok ack =>
      rw [hbody, Option.some.injEq, Prod.mk.injEq] at hexec
      obtain ⟨rfl, rfl⟩ := hexec
      refine ⟨fun value heq => ?_, fun error heq => (by cases heq)⟩
      cases heq
      rfl
  | error error =>
      rw [hbody, Option.some.injEq, Prod.mk.injEq] at hexec
      obtain ⟨rfl, rfl⟩ := hexec
      refine ⟨fun value heq => (by cases heq), fun _ _ => ?_⟩
      -- An acknowledgement is refused in an emergency only.
      refine inv_emergency h (Bool.of_not_eq_false fun hcalm => ?_)
      obtain ⟨ack, hack⟩ := hmove.2.1 request rfl hcalm
      rw [hbody] at hack
      cases hack

/-- The phase is set last, so a failure leaves the run as it was. -/
theorem ensures_markKilled (h : Inv s) (hnone : s.killAcknowledgement = none) :
    Ensures (oneEnding d) t (fun outcome s => s.killAcknowledgement = none ∧
        ∀ error, outcome = .error error → Inv s)
      (raising (perform .markKilled) : Prog P Unit) s := by
  intro env s₁ outcome _ hexec
  refine ensures_ofExcept.mpr ?_
  simp only [exec, onState_eq_some] at hexec
  obtain ⟨-, rfl, rfl⟩ := hexec
  refine ⟨hnone, fun error hmark => ?_⟩
  have hsame : s.state.markKilled.1 = s.state := by
    unfold RunState.markKilled at hmark ⊢
    split_ifs at hmark ⊢
    rfl
  simp only [hsame]
  exact h

/-- No acknowledgement yet, and the run is explained. -/
def Open (s : Runtime P) : Prop := Inv s ∧ s.killAcknowledgement = none

theorem ensures_open {α : Type} {p : Prog P α} (hp : p.All Op.Still) (h : Open s) :
    Ensures (oneEnding d) t (fun _ s => Open s) p s := by
  refine ensures_of_all (fun env s op s₁ result hop _ hexec hopen => ?_) hp h
  have hkept := kept_exec hop hexec
  exact ⟨hopen.1.kept hkept, hkept.acknowledgement.trans hopen.2⟩

theorem still_wallNow : (wallNow : Prog P Datetime).All Op.Still :=
  all_raising (all_perform trivial)

theorem still_monotonicNow : (monotonicNow : Prog P ℤ).All Op.Still :=
  all_raising (all_perform trivial)

theorem ensures_containFresh (trigger : Event P) (ns : ℤ) (h : Open s) :
    Ensures (oneEnding d) t (fun _ s => Inv s) (Supervisor.containFresh trigger ns) s := by
  have hgiveUp (_ : PyError) (s : Runtime P) (h : Open s) : Inv s := h.1
  refine ensures_seq (ensures_open (all_perform trivial) h) (fun latched s₁ h => ?_) hgiveUp
  obtain ⟨first, epoch, inflight⟩ := latched
  refine ensures_seq (ensures_open (all_perform trivial) h) (fun signals s₂ h => ?_) hgiveUp
  refine ensures_seq (ensures_open still_wallNow h) (fun requestedAt s₃ h => ?_) hgiveUp
  refine ensures_seq (ensures_open still_monotonicNow h) (fun requestedNs s₄ h => ?_) hgiveUp
  refine ensures_seq (ensures_open (all_raising (all_perform trivial)) h) (fun isolation s₅ h => ?_)
    hgiveUp
  refine ensures_seq (ensures_open still_monotonicNow h) (fun acknowledgedNs s₆ h => ?_) hgiveUp
  refine ensures_seq (ensures_open still_wallNow h) (fun acknowledgedAt s₇ h => ?_) hgiveUp
  refine ensures_seq (ensures_markKilled h.1 h.2) (fun _ s₈ h => ?_) fun error _ h => h.2 error rfl
  refine ensures_seq (ensures_acknowledge _ h.1) (fun ack s₉ h => ?_) fun error _ h => h.2 error rfl
  exact ensures_commitAcknowledgement acknowledgedNs (h.1 ack rfl)

theorem keeps_withContainLock {α : Type} {p : Prog P α} (hp : Keeps d p) :
    Keeps d (withContainLock p) :=
  keeps_bind (keeps_perform trivial) fun _ => keeps_finalize hp (keeps_perform trivial)

theorem keeps_contain (trigger : Event P) (ns : ℤ) : Keeps d (Supervisor.contain trigger ns) := by
  refine keeps_withContainLock fun t s h => ?_
  intro env s₁ found _ hexec
  simp only [exec, Option.some.injEq, Prod.mk.injEq] at hexec
  obtain ⟨rfl, rfl⟩ := hexec
  cases hfound : s.killAcknowledgement with
  | some ack => exact h
  | none => exact ensures_containFresh trigger ns ⟨h, hfound⟩

theorem keeps_emergencyIsolate : Keeps d (Supervisor.emergencyIsolate : Prog P Unit) := by
  refine keeps_withContainLock fun t s h => ?_
  intro env s₁ _ hmove hexec
  have hnone := hmove.1 rfl
  simp only [exec, Option.some.injEq, Prod.mk.injEq] at hexec
  obtain ⟨rfl, -⟩ := hexec
  -- From here on there is an emergency and no acknowledgement.
  have hrest : Ensures (oneEnding d) t
      (fun _ s => s.killAcknowledgement = none ∧ s.emergencyFailure = true)
      (do
        let _ ← perform .latchKill
        let _ ← raising (perform .isolate)
        raising (perform .markKilled) : Prog P Unit) { s with emergencyFailure := true } := by
    have hkeep (env : World) (s : Runtime P) (op : Op P) (s₁ : Runtime P) (result : op.Res)
        (hop : Op.Still op ∨ op = .markKilled) (_ : (oneEnding d).moves s op env)
        (hexec : exec d env t s op = some (s₁, result))
        (h : s.killAcknowledgement = none ∧ s.emergencyFailure = true) :
        s₁.killAcknowledgement = none ∧ s₁.emergencyFailure = true := by
      rcases hop with hop | rfl
      · obtain ⟨hack, hemergency⟩ := flags_exec hop hexec
        exact ⟨hack.trans h.1, hemergency.trans h.2⟩
      · simp only [exec, onState_eq_some] at hexec
        obtain ⟨-, rfl, -⟩ := hexec
        exact h
    refine ensures_of_all hkeep ?_ ⟨hnone, rfl⟩
    refine all_bind (all_perform (.inl trivial)) fun _ => ?_
    refine all_bind (all_raising (all_perform (.inl trivial))) fun _ => ?_
    exact all_raising (all_perform (.inr rfl))
  exact ensures_mono (fun _ _ h => inv_emergency h.1 h.2) hrest

/-! ## The calls -/

theorem keeps_monotonicNow : Keeps d (monotonicNow : Prog P ℤ) := keeps_of_still still_monotonicNow

theorem keeps_commit (kind : EventKind) (payload : Json) (requestId : Option String) (ns : Option ℤ) :
    Keeps d (Gateway.commit kind payload requestId ns : Prog P (Event P)) :=
  keeps_handle (keeps_raising (keeps_perform trivial)) fun error =>
    keeps_bind keeps_emergencyIsolate fun _ => keeps_raise error

/-- The end of every refusal: a trigger is committed and the run is contained. -/
theorem keeps_report {α : Type} (kind : EventKind) (payload : Json) (requestId : Option String)
    (ns : Option ℤ) (clock : Event P → ℤ) (value : α) :
    Keeps d (do
      let event ← Gateway.commit kind payload requestId ns
      let _ ← Supervisor.contain event (clock event)
      return value) :=
  keeps_bind (keeps_commit _ _ _ _) fun event =>
    keeps_bind (keeps_contain event (clock event)) fun _ => keeps_ret value

theorem keeps_failClosed (reasonCode : String) (requestId : Option String) :
    Keeps d (Gateway.failClosed reasonCode requestId : Prog P Unit) := by
  refine keeps_bind keeps_monotonicNow fun triggerNs => ?_
  refine keeps_bind (keeps_perform trivial) fun _ => ?_
  refine keeps_bind (keeps_handle (keeps_commit _ _ _ _) fun _ => ?_) fun trigger => ?_
  · refine keeps_bind (keeps_perform trivial) fun events => ?_
    cases events.getLast? with
    | none => exact keeps_raise _
    | some event => exact keeps_ret event
  · exact keeps_bind (keeps_contain trigger triggerNs) fun _ => keeps_ret ()

theorem keeps_enforceRuntimeDeadline (ns : Option ℤ) :
    Keeps d (Supervisor.enforceRuntimeDeadline d ns) := by
  refine keeps_bind ?_ fun nowNs => ?_
  · cases ns with
    | none => exact keeps_monotonicNow
    | some ns => exact keeps_ret ns
  refine keeps_bind (keeps_perform trivial) fun state => ?_
  split_ifs
  · exact keeps_ret false
  · refine keeps_bind (keeps_perform trivial) fun _ => ?_
    refine keeps_bind (keeps_raising (keeps_perform trivial)) fun event => ?_
    exact keeps_bind (keeps_contain event nowNs) fun _ => keeps_ret true

theorem keeps_conclude (action : Action P) (sha : String) (result : PolicyResult)
    (decision : Decision P) : Keeps d (Gateway.conclude action sha result decision) := by
  unfold Gateway.conclude
  split_ifs
  · exact keeps_report _ _ _ _ (fun violation => violation.body.monotonicNs.1) _
  · exact keeps_ret _

theorem keeps_decideAction (action : Action P) (admittedNs : ℤ) :
    Keeps d (Gateway.decideAction d action admittedNs) := by
  refine keeps_bind (keeps_ofExcept _) fun sha => ?_
  refine keeps_bind (keeps_commit _ _ _ _) fun request => ?_
  refine keeps_bind keeps_monotonicNow fun decidedNs => ?_
  refine keeps_bind (keeps_of_still still_wallNow) fun now => ?_
  refine keeps_bind (keeps_ofExcept _) fun decidedAt => ?_
  refine keeps_bind (keeps_perform trivial) fun result => ?_
  refine keeps_bind ?_ fun _ => ?_
  · unfold Gateway.latchOnKill
    split_ifs
    · exact keeps_bind (keeps_perform trivial) fun _ => keeps_ret ()
    · exact keeps_ret ()
  refine keeps_bind (keeps_perform trivial) fun epoch => ?_
  refine keeps_bind ?_ fun capability => ?_
  · unfold Gateway.authorization
    split_ifs
    · exact keeps_bind (keeps_perform trivial) fun _ => keeps_ret _
    · exact keeps_ret _
  refine keeps_bind (keeps_ofExcept _) fun decision => ?_
  refine keeps_bind (keeps_commit _ _ _ _) fun _ => ?_
  exact keeps_bind (keeps_perform trivial) fun _ => keeps_conclude _ _ _ _

theorem keeps_submitRaw (raw : Bytes) : Keeps d (Gateway.submitRaw d raw) := by
  refine keeps_bind keeps_monotonicNow fun admittedNs => ?_
  split_ifs
  · exact keeps_bind (keeps_perform trivial) fun _ =>
      keeps_report _ _ _ _ (fun _ => admittedNs) _
  refine keeps_bind (keeps_perform trivial) fun admission => ?_
  cases admission with
  | droppedAfterKill => exact keeps_ret _
  | firstOverload => exact keeps_report _ _ _ _ (fun _ => admittedNs) _
  | admitted =>
      dsimp only
      cases Action.fromWire P raw with
      | ok action => exact keeps_decideAction action admittedNs
      | error _ =>
          refine keeps_bind (keeps_commit _ _ _ _) fun event => ?_
          refine keeps_bind (keeps_perform trivial) fun _ => ?_
          exact keeps_bind (keeps_contain event admittedNs) fun _ => keeps_ret _

theorem keeps_failed (action : Action P) (id : OpaqueId) (lease : Option DispatchLease)
    (error : PyError) : Keeps d (Executor.failed action id lease error) := by
  refine keeps_bind ?_ fun _ => ?_
  · cases lease with
    | none => exact keeps_ret ()
    | some lease => exact keeps_perform trivial
  refine keeps_bind (keeps_perform trivial) fun cancelled => ?_
  cases cancelled with
  | true => exact keeps_raise _
  | false => exact keeps_bind (keeps_failClosed _ _) fun _ => keeps_raise error

theorem keeps_dispatch (action : Action P) (decision : Decision P) (nowNs : ℤ) :
    Keeps d (Executor.dispatch d action decision nowNs) := by
  refine keeps_bind (keeps_ofExcept _) fun _ => ?_
  refine keeps_bind (keeps_ofExcept _) fun _ => ?_
  refine keeps_bind (keeps_ofExcept _) fun rule => ?_
  cases decision.body.authorizationId with
  | none => exact keeps_raise _
  | some id =>
      refine keeps_bind (keeps_raising (keeps_perform trivial)) fun _ => ?_
      refine keeps_finalize (keeps_bind (keeps_attempt (keeps_of_still ?_)) fun outcome => ?_)
        (keeps_perform trivial)
      · refine all_bind (all_raising (all_perform trivial)) fun lease => ?_
        refine all_bind (all_attempt (all_bind (all_ofExcept _) fun sha => ?_)) fun outcome => ?_
        · exact all_raising (all_perform trivial)
        · cases outcome <;> exact all_bind (all_perform trivial) fun _ => trivial
      cases outcome with
      | error error => exact keeps_failed action id none error
      | ok lease =>
          refine keeps_handle (keeps_of_still ?_) fun error => keeps_failed action id (some lease) error
          refine all_bind (all_raising (all_perform trivial)) fun secret => ?_
          refine all_bind (all_raising (all_perform trivial)) fun result => ?_
          refine all_bind (all_ofExcept _) fun _ => all_bind ?_ fun _ => trivial
          refine all_bind (all_raising (all_perform trivial)) fun reserved => ?_
          refine all_bind (all_attempt (all_bind (all_ofExcept _) fun sha => ?_)) fun outcome => ?_
          · exact all_raising (all_perform trivial)
          · cases outcome with
            | ok event => exact all_perform trivial
            | error error => exact all_bind (all_perform trivial) fun _ => trivial

theorem keeps_body {call : Call P} (hcall : (beforeReceipt d).starts s call) :
    Keeps d (body d call) := by
  have hmap {α : Type} {p : Prog P α} {f : α → Reply P} (hp : Keeps d p) : Keeps d (f <$> p) :=
    keeps_bind hp fun _ => keeps_ret _
  cases call with
  | submitRaw raw => exact hmap (keeps_submitRaw raw)
  | dispatch action decision nowNs => exact hmap (keeps_dispatch action decision nowNs)
  | failClosed reasonCode requestId => exact hmap (keeps_failClosed reasonCode requestId)
  | enforceRuntimeDeadline ns => exact hmap (keeps_enforceRuntimeDeadline ns)
  | contain trigger ns => exact hmap (keeps_contain trigger ns)
  | emergencyIsolate => exact hmap keeps_emergencyIsolate
  | complete => exact absurd hcall id
  | receipt status => exact absurd hcall id

end Explained

/-- In every sequence of calls in which the run ends in one way only, a killed run is
explained whenever no call is in progress. -/
theorem explained_of_sequence (P : Platform) (d : Deployment P) (witness : TransparencyWitness P)
    (s : Runtime P) (h : Sequence (oneEnding d) (Runtime.init d witness) s) : Explained s := by
  refine Explained.of_inv (invariant_of_sequence Explained.Inv ?_ ?_ h)
  · intro hkilled
    cases hkilled
  · intro t call s hinv hstart
    refine ensures_mono ?_ (Explained.keeps_body (s := s) hstart t s hinv)
    intro outcome s h
    change Explained.Inv (retire call outcome s)
    unfold retire
    split <;> exact h

/-- An isolation of a run without an acknowledgement. -/
theorem runs_isolation {d : Deployment P} {t : ℕ} {α : Type} {s s' : (runtimeService d).State}
    {p p' : Prog P α}
    (h : Runs (⟨fun _ _ => True, fun _ op _ => op.OfIsolation⟩ : RunRule (runtimeService d)) t s p s' p')
    (hunset : Runtime.killAcknowledgement s = none) : Runs (oneEnding d) t s p s' p' := by
  induction h with
  | refl s code => exact .refl s code
  | @act s s₁ s₂ op next code result env allowed executed _ ih =>
      have hmove : (oneEnding d).moves s op env := by
        refine ⟨fun _ => hunset, ?_, ?_⟩
        · rintro request rfl
          exact absurd allowed id
        · rintro payload requestId ns rfl
          exact absurd allowed id
      refine .act env hmove executed (ih ?_)
      by_cases hstill : Explained.Op.Still op
      · exact (Explained.flags_exec hstill executed).1.trans hunset
      cases op
      case markKilled =>
        simp only [exec, onState_eq_some] at executed
        obtain ⟨-, rfl, -⟩ := executed
        exact hunset
      case raiseEmergency =>
        simp only [exec, Option.some.injEq, Prod.mk.injEq] at executed
        obtain ⟨rfl, -⟩ := executed
        exact hunset
      case acknowledge | dropAcknowledgement => exact absurd allowed id
      all_goals exact absurd trivial hstill

open Reference in
/-- The theorem after an emergency isolation of the reference deployment. -/
theorem explained_isolated : ∃ (manifest : Manifest platform) (s : Runtime platform),
    Sequence (oneEnding (deployment manifest))
      (Runtime.init (deployment manifest) Reference.witness) s ∧
    s.state.phase = .killed ∧ Explained s := by
  obtain ⟨manifest, -⟩ := exists_signed
  have hends := @ends_emergencyIsolate _ (deployment manifest)
    ⟨fun _ _ => True, fun _ op _ => op.OfIsolation⟩ 0
    (Runtime.init (deployment manifest) Reference.witness) (world 2000) _ (fun _ _ hop => hop)
    ⟨rfl, rfl⟩ rfl rfl rfl
  have hruns : Ends (oneEnding (deployment manifest)) 0
      (Runtime.init (deployment manifest) Reference.witness)
      (body (deployment manifest) .emergencyIsolate) _ (.ok .isolated) :=
    Ends.bind (runs_isolation hends rfl) ends_ret
  have hstart : (oneEnding (deployment manifest)).starts
    (Runtime.init (deployment manifest) Reference.witness) .emergencyIsolate := trivial
  have hcall : CallStep (oneEnding (deployment manifest)) _ _ :=
    .call 0 Call.emergencyIsolate _ hstart hruns
  exact ⟨manifest, _, .single hcall, rfl, explained_of_sequence _ (deployment manifest)
    Reference.witness _ (.single hcall)⟩

/-! ## A containment that leaves nothing behind -/

/-- An acknowledgement from before its trigger is refused. -/
theorem exists_refused {d : Deployment P} {request : KillRequest P}
    (h : request.acknowledgedNs < request.triggerMonotonicNs) :
    ∃ error, request.acknowledgement d = .error error := by
  cases hack : request.acknowledgement d with
  | error error => exact ⟨error, rfl⟩
  | ok ack =>
      simp only [KillRequest.acknowledgement, KillRequest.body, bind_eq_ok] at hack
      obtain ⟨_, ⟨_, -, _, -, _, -, _, -, _, -, latency, hlatency, -⟩, -⟩ := hack
      have hvalue := validate_eq_ok hlatency
      have hle := IntIn.le latency
      omega

/-- The run is killed before its acknowledgement is refused. -/
theorem exists_ends_refused {d : Deployment P} {rule : RunRule (runtimeService d)} {t : ℕ}
    {s : Runtime P} {env : World} {wall : Datetime} {ns : ℤ} {result : IsolationResult}
    (hmoves : ∀ s op, rule.moves s op env) (hidle : Idle s) (hphase : s.state.phase = .running)
    (hunset : s.killAcknowledgement = none) (hnone : s.isolationResult = none)
    (hwall : env.wallClock = .ok wall) (hclock : env.monotonicClock = .ok ns)
    (hisolation : env.isolation = .ok result) (trigger : Event P) {triggerNs : ℤ}
    (hbehind : ns < triggerNs) :
    ∃ s' error, Ends rule t s (Supervisor.contain trigger triggerNs) s' (.error error) ∧
      s'.state.phase = .killed ∧ s'.killAcknowledgement = none ∧
      s'.emergencyFailure = s.emergencyFailure := by
  have hopening := runs_opening (t := t) (fun s op _ => hmoves s op) hidle hphase hunset hnone hwall
    hclock hisolation trigger triggerNs
  set killed : Runtime P := { s with
    containLock := some t
    state := s.state.latchKillLocked.markKilled.1
    inflight := s.inflight.signalAll.1
    isolationResult := some result
    history := s.history.latched true } with hkilled
  set request : KillRequest P := ⟨trigger, triggerNs, wall, ns, wall, ns, result,
    s.state.latchKill.2.2.2, s.inflight.signalAll.2⟩
  obtain ⟨error, hrefused⟩ : ∃ error, request.acknowledgement d = .error error :=
    exists_refused hbehind
  have hraise : Ends rule t killed (raising (perform (.acknowledge request)) : Prog P _) killed
      (.error error) :=
    ends_raising (ends_perform env (hmoves _ _) (by simp only [exec, hrefused]))
  have hrelease : Ends rule t killed (perform .releaseContain : Prog P Unit)
      { killed with containLock := none } (.ok ()) :=
    ends_perform env (hmoves _ _) (by simp only [exec, hkilled, if_true])
  refine ⟨_, error, hopening.trans (Ends.finalize (Ends.bind_error hraise) hrelease), ?_, hunset, rfl⟩
  change s.state.latchKillLocked.markKilled.1.phase = .killed
  simp [RunState.markKilled, RunState.phase_latchKillLocked, hphase]

open Reference in
/-- One containment, with a clock that is behind its trigger. -/
theorem not_explained :
    ¬ ∀ (P : Platform) (d : Deployment P) (witness : TransparencyWitness P) (s : Runtime P),
      Sequence (beforeReceipt d) (Runtime.init d witness) s → Explained s := by
  intro hclaim
  obtain ⟨manifest, -⟩ := exists_signed
  obtain ⟨trigger, -⟩ := exists_violation manifest ⟨3000, by decide⟩
  obtain ⟨s', error, hends, hkilled, hunset, hcalm⟩ := @exists_ends_refused _ (deployment manifest)
    (beforeReceipt (deployment manifest)) 0 (Runtime.init (deployment manifest) Reference.witness)
    (world 2000) _ _ _ (fun _ _ => trivial) ⟨rfl, rfl⟩ rfl rfl rfl rfl rfl rfl trigger 3000 (by decide)
  have hstart : (beforeReceipt (deployment manifest)).starts
    (Runtime.init (deployment manifest) Reference.witness) (.contain trigger 3000) := trivial
  have hcall : CallStep (beforeReceipt (deployment manifest)) _ _ :=
    .call 0 (Call.contain trigger 3000) (.error error) hstart (Ends.bind_error hends)
  have hone := (hclaim _ (deployment manifest) Reference.witness _ (.single hcall)).one hkilled
  rcases hone with ⟨hset, -⟩ | ⟨hemergency, -⟩
  · exact hset hunset
  · have hraised : s'.emergencyFailure = true := hemergency
    rw [hcalm] at hraised
    cases hraised

end Containment
