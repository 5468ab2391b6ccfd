/-
# Receipts and acknowledgements

A containment marks the run as killed, sets its acknowledgement and commits it, all under
the containment lock. A receipt reads the phase, seals the ledger and reads the
acknowledgement under a lock of its own. A receipt that is asked for in between finds a
killed run and seals a ledger that still waits for its last event. The commit of the
acknowledgement then fails, and the receipt has no acknowledgement or covers no event of it.

As long as the ledger is sealed while nobody holds the containment lock, no acknowledgement
is refused, and the receipt of a killed run carries the acknowledgement and covers its event.
-/

import Containment.Runtime.CompletedDispatches
import Containment.Runtime.Isolation

namespace Containment

open Json Concurrency Discipline

variable {P : Platform}

/-- The event holds the acknowledgement. -/
def IsAcknowledgement (event : Event P) (ack : KillAcknowledgement P) : Prop :=
  event.body.kind = .killAcknowledged ∧
    modelValidateJson P (Sealed.codec P killAcknowledgementSealing)
      event.body.payloadCanonicalJson.1 = .ok ack

/-- The KILL_ACKNOWLEDGED events. -/
def acksOf (events : List (Event P)) : List (Event P) :=
  events.filter fun event => event.body.kind = .killAcknowledged

/-- A run that no containment has killed and nobody has closed. -/
structure Uncontained (d : Deployment P) (s : Runtime P) : Prop where
  phase : s.state.phase = .running ∨ s.state.phase = .killing
  containLock : s.containLock = none
  unset : s.killAcknowledgement = none
  unacknowledged : acksOf s.ledger.events = []
  unsealed : s.ledger.isSealed = false
  receipt : s.receipt = none
  observed : EvidenceMirror.Observed d.manifest s.mirror

/-- Concurrent containments and receipts. The outside world is healthy: every acknowledgement
passes its checks, and a ledger that is not sealed takes it. -/
def healthyContainment (d : Deployment P) : RunRule (runtimeService d) where
  starts _ call := match call with
    | .contain .. | .receipt _ => True
    | _ => False
  moves s op env := (∀ request, op = .acknowledge request →
      ∃ ack, request.acknowledgement d = .ok ack) ∧
    ∀ payload requestId ns, op = .commit .killAcknowledged payload requestId ns →
      s.ledger.isSealed = false →
      ∃ event, (s.commit d env .killAcknowledged payload requestId ns).2 = .ok event

/-- In addition, the ledger is sealed while nobody holds the containment lock. -/
def sealedOutside (d : Deployment P) : RunRule (runtimeService d) where
  starts := (healthyContainment d).starts
  moves s op env := (healthyContainment d).moves s op env ∧ (op = .seal → s.containLock = none)

/-- The commit of an acknowledgement does not fail, and the receipt of a killed run carries the
acknowledgement and covers exactly one event of its kind, which holds it. -/
structure AcknowledgedReceipts {d : Deployment P} (c : Config (runtimeService d)) : Prop where
  unrefused : ∀ t call payload requestId ns next env,
    c.running t = some (call, .act (.commit .killAcknowledged payload requestId ns) next) →
    (healthyContainment d).moves c.shared (.commit .killAcknowledged payload requestId ns) env →
    ∃ event, (c.shared.commit d env .killAcknowledged payload requestId ns).2 = .ok event
  carried : ∀ receipt, c.shared.receipt = some receipt → receipt.body.status = .killed →
    ∃ ack event, receipt.body.killAcknowledgement = some ack ∧
      acksOf (Receipt.covered receipt c.shared.ledger.events) = [event] ∧
      IsAcknowledgement event ack

namespace Acknowledged

variable {d : Deployment P} {env : World} {t : ℕ} {s s' : Runtime P}

/-- The acknowledgement is final and its event is covered. -/
structure Settled (ack : KillAcknowledgement P) (s : Runtime P) : Prop where
  set : s.killAcknowledgement = some ack
  event : ∃ event, acksOf s.ledger.events = [event] ∧
    event ∈ s.ledger.events.take s.mirror.count ∧ IsAcknowledgement event ack

/-- What holds at all times. -/
structure Inv (d : Deployment P) (s : Runtime P) : Prop where
  observed : EvidenceMirror.Observed d.manifest s.mirror
  unset : s.killAcknowledgement = none → acksOf s.ledger.events = []
  rested : s.containLock = none → s.state.phase = .killed ∨ s.killAcknowledgement ≠ none →
    ∃ ack, Settled ack s
  isSealed : s.ledger.isSealed = true → s.state.phase = .completed ∨ ∃ ack, Settled ack s
  receipt : ∀ receipt, s.receipt = some receipt → ∀ ack,
    receipt.body.killAcknowledgement = some ack → s.killAcknowledgement = some ack

/-- What the code has established before an operation. -/
def Ready (t : ℕ) (s : Runtime P) : Op P → Prop
  | .commit kind payload _ _ => kind = .killAcknowledged → s.containLock = some t ∧
      acksOf s.ledger.events = [] ∧ s.state.phase = .killed ∧
      ∃ ack, s.killAcknowledgement = some ack ∧
        payload = (Sealed.codec P killAcknowledgementSealing).encode ack
  | .acknowledge _ => s.containLock = some t ∧ s.killAcknowledgement = none ∧
      s.state.phase = .killed
  | .dropAcknowledgement => False
  | .markKilled => s.containLock = some t
  | .releaseContain => s.state.phase = .killed ∨ s.killAcknowledgement ≠ none →
      ∃ ack, Settled ack s
  | .seal => s.state.phase = .killed ∨ s.state.phase = .completed
  | .storeReceipt receipt => ∀ ack, receipt.body.killAcknowledgement = some ack →
      s.killAcknowledgement = some ack
  | _ => True

/-- What a waiting thread can count on. -/
structure Rely (t : ℕ) (s s' : Runtime P) : Prop where
  locked : s.containLock = some t → s'.containLock = some t ∧
    s'.killAcknowledgement = s.killAcknowledgement ∧
    acksOf s'.ledger.events = acksOf s.ledger.events ∧
    (s'.state.phase = .killed → s.state.phase = .killed)
  set : ∀ ack, s.killAcknowledgement = some ack → s'.killAcknowledgement = some ack
  killed : s.state.phase = .killed → s'.state.phase = .killed
  completed : s.state.phase = .completed → s'.state.phase = .completed
  settled : ∀ ack, Settled ack s → Settled ack s'

/-! ## One operation -/

/-- Operations that leave the containment, the evidence and the receipt alone. -/
def Op.Calm : Op P → Prop
  | .commit .. | .markKilled | .acknowledge _ | .dropAcknowledgement | .acquireContain
  | .releaseContain | .seal | .storeReceipt _ => False
  | _ => True

structure Kept (s s' : Runtime P) : Prop where
  lock : s'.containLock = s.containLock
  acknowledgement : s'.killAcknowledgement = s.killAcknowledgement
  ledger : s'.ledger = s.ledger
  mirror : s'.mirror = s.mirror
  receipt : s'.receipt = s.receipt
  killed : s'.state.phase = .killed → s.state.phase = .killed
  completed : s.state.phase = .completed → s'.state.phase = .completed

theorem kept_exec {op : Op P} {r : op.Res} (hop : Op.Calm op)
    (h : exec d env t s op = some (s', r)) : Kept s s' := by
  obtain ⟨hledger, hmirror⟩ := ReceiptCounts.ledger_exec h
    (by rintro _ _ _ _ rfl; exact hop) (by rintro rfl; exact hop)
  have hreceipt := ReceiptStatus.receipt_exec h (by rintro _ rfl; exact hop)
  have hcompleted := ReceiptStatus.completed_exec h
  by_cases hisolate : op = .isolate
  · subst hisolate
    simp only [exec] at h
    split at h
    · rw [Option.some.injEq, Prod.mk.injEq] at h
      obtain ⟨rfl, -⟩ := h
      exact ⟨rfl, rfl, rfl, rfl, rfl, id, id⟩
    · split at h <;>
      · rw [Option.some.injEq, Prod.mk.injEq] at h
        obtain ⟨rfl, -⟩ := h
        exact ⟨rfl, rfl, rfl, rfl, rfl, id, id⟩
  · have houtside : Isolation.Op.Outside op := by
      cases op <;> first | exact trivial | exact absurd rfl hisolate | exact hop
    have hsame := Isolation.untouched_exec houtside h
    exact ⟨hsame.lock, hsame.acknowledgement, hledger, hmirror, hreceipt, hsame.killed, hcompleted⟩

theorem Settled.of_kept {ack : KillAcknowledgement P} (h : Settled ack s) (hkept : Kept s s') :
    Settled ack s' := by
  refine ⟨hkept.acknowledgement.trans h.set, ?_⟩
  rw [hkept.ledger, hkept.mirror]
  exact h.event

theorem acksOf_snoc_of_ne {events : List (Event P)} {event : Event P}
    (h : event.body.kind ≠ .killAcknowledged) : acksOf (events ++ [event]) = acksOf events := by
  simp [acksOf, List.filter_append, h]

/-- A commit of another kind leaves the acknowledgement alone, and so does a sealed ledger. -/
theorem commit_kept (env : World) {kind : EventKind} (payload : Json) (requestId : Option String)
    (ns : Option ℤ) (h : kind ≠ .killAcknowledged) :
    acksOf (s.commit d env kind payload requestId ns).1.ledger.events = acksOf s.ledger.events ∧
      s.ledger.events.take s.mirror.count ⊆
        (s.commit d env kind payload requestId ns).1.ledger.events.take
          (s.commit d env kind payload requestId ns).1.mirror.count := by
  rcases commit_cases d env s kind payload requestId ns with ⟨_, heq⟩ |
    ⟨event, mirrored, outcome, mirror, happend, hmirror, heq⟩
  · rw [heq]
    exact ⟨rfl, List.Subset.refl _⟩
  · rw [heq]
    obtain ⟨-, hkind, -, -⟩ := append_ok happend
    refine ⟨acksOf_snoc_of_ne (by rw [hkind]; exact h), fun e he => ?_⟩
    have hcount : s.mirror.count ≤ mirror.count := by
      cases mirrored with
      | false => rw [hmirror.1]
      | true =>
          rw [CompletedDispatches.count_of_observe hmirror.1]
          exact Nat.le_succ _
    exact ((List.prefix_append _ _).take _).subset (List.take_subset_take_left _ hcount he)

theorem events_of_commit {kind : EventKind} {payload : Json} {requestId : Option String}
    {ns : Option ℤ} {event : Event P}
    (h : s.commit d env kind payload requestId ns = (s', .ok event)) :
    s'.ledger.events = s.ledger.events ++ [event] := by
  rcases commit_cases d env s kind payload requestId ns with ⟨_, heq⟩ |
    ⟨event', mirrored, outcome, mirror, -, hmirror, heq⟩
  · rw [heq, Prod.mk.injEq] at h
    cases h.2
  · rw [heq, Prod.mk.injEq] at h
    obtain ⟨rfl, houtcome⟩ := h
    cases mirrored with
    | false =>
        obtain ⟨-, error, -, hrefused⟩ := hmirror
        rw [hrefused] at houtcome
        cases houtcome
    | true =>
        obtain rfl : event' = event := Except.ok.inj (hmirror.2.symm.trans houtcome)
        rfl

/-- What every commit leaves alone. -/
theorem commit_frame (env : World) (kind : EventKind) (payload : Json) (requestId : Option String)
    (ns : Option ℤ) :
    (s.commit d env kind payload requestId ns).1.containLock = s.containLock ∧
      (s.commit d env kind payload requestId ns).1.killAcknowledgement = s.killAcknowledgement ∧
      (s.commit d env kind payload requestId ns).1.receipt = s.receipt ∧
      (s.commit d env kind payload requestId ns).1.state = s.state ∧
      (s.commit d env kind payload requestId ns).1.ledger.isSealed = s.ledger.isSealed := by
  rcases commit_cases d env s kind payload requestId ns with ⟨_, heq⟩ | ⟨_, _, _, _, -, -, heq⟩ <;>
  · rw [heq]
    exact ⟨rfl, rfl, rfl, rfl, rfl⟩

theorem settled_commit (env : World) {ack : KillAcknowledgement P} {kind : EventKind} {payload : Json}
    {requestId : Option String} {ns : Option ℤ} (h : Settled ack s)
    (hready : Ready t s (.commit kind payload requestId ns)) :
    Settled ack (s.commit d env kind payload requestId ns).1 := by
  have hkind : kind ≠ .killAcknowledged := by
    intro hkind
    obtain ⟨event, hone, -⟩ := h.event
    rw [(hready hkind).2.1] at hone
    cases hone
  obtain ⟨-, hack, -⟩ := commit_frame (d := d) (s := s) env kind payload requestId ns
  obtain ⟨hacks, hcovered⟩ := commit_kept (d := d) (s := s) env payload requestId ns hkind
  obtain ⟨event, hone, hmem, hholds⟩ := h.event
  exact ⟨hack.trans h.set, event, hacks.trans hone, hcovered hmem, hholds⟩

/-- A settled acknowledgement stays. -/
theorem settled_exec {ack : KillAcknowledgement P} {op : Op P} {r : op.Res} (h : Settled ack s)
    (hready : Ready t s op) (hexec : exec d env t s op = some (s', r)) : Settled ack s' := by
  by_cases hcalm : Op.Calm op
  · exact h.of_kept (kept_exec hcalm hexec)
  by_cases hseal : op = .seal
  · subst hseal
    simp only [exec, Option.some.injEq, Prod.mk.injEq] at hexec
    obtain ⟨rfl, -⟩ := hexec
    exact ⟨h.set, h.event⟩
  cases op
  case commit kind payload requestId ns =>
    simp only [exec, Option.some.injEq] at hexec
    have hsettled := settled_commit (d := d) env h hready
    rwa [hexec] at hsettled
  case acknowledge request =>
    have hset := h.set
    rw [hready.2.1] at hset
    cases hset
  case dropAcknowledgement => exact absurd hready id
  case markKilled =>
    simp only [exec, onState_eq_some] at hexec
    obtain ⟨-, rfl, -⟩ := hexec
    exact ⟨h.set, h.event⟩
  case acquireContain | releaseContain =>
    simp only [exec, Option.ite_none_right_eq_some, Option.some.injEq, Prod.mk.injEq] at hexec
    obtain ⟨-, rfl, -⟩ := hexec
    exact ⟨h.set, h.event⟩
  case storeReceipt =>
    simp only [exec, Option.some.injEq, Prod.mk.injEq] at hexec
    obtain ⟨rfl, -⟩ := hexec
    exact ⟨h.set, h.event⟩
  all_goals first | exact absurd trivial hcalm | exact absurd rfl hseal

theorem inv_commit (env : World) {kind : EventKind} {payload : Json} {requestId : Option String}
    {ns : Option ℤ} (h : Inv d s) (hready : Ready t s (.commit kind payload requestId ns)) :
    Inv d (s.commit d env kind payload requestId ns).1 := by
  obtain ⟨hlock, hack, hreceipt, hstate, hsealed⟩ :=
    commit_frame (d := d) (s := s) env kind payload requestId ns
  have hsettled (ack : KillAcknowledgement P) (hold : Settled ack s) :
      Settled ack (s.commit d env kind payload requestId ns).1 := settled_commit env hold hready
  refine ⟨CompletedDispatches.observed_commit env kind payload requestId ns h.observed, ?_, ?_, ?_, ?_⟩
  · intro hunset
    rw [hack] at hunset
    have hkind : kind ≠ .killAcknowledged := by
      intro hkind
      obtain ⟨-, -, -, ack, hset, -⟩ := hready hkind
      rw [hunset] at hset
      cases hset
    rw [(commit_kept env payload requestId ns hkind).1]
    exact h.unset hunset
  · rw [hlock, hstate, hack]
    exact fun hfree hended => (h.rested hfree hended).imp hsettled
  · rw [hsealed, hstate]
    exact fun htrue => (h.isSealed htrue).imp_right fun hold => hold.imp hsettled
  · rw [hreceipt, hack]
    exact h.receipt

theorem inv_exec {op : Op P} {r : op.Res} (h : Inv d s) (hready : Ready t s op)
    (hmove : (sealedOutside d).moves s op env) (hexec : exec d env t s op = some (s', r)) :
    Inv d s' := by
  have hsettled (ack : KillAcknowledgement P) (hold : Settled ack s) : Settled ack s' :=
    settled_exec hold hready hexec
  by_cases hcalm : Op.Calm op
  · have hkept := kept_exec hcalm hexec
    refine ⟨by rw [hkept.mirror]; exact h.observed, ?_, ?_, ?_, ?_⟩
    · rw [hkept.acknowledgement, hkept.ledger]
      exact h.unset
    · rw [hkept.lock, hkept.acknowledgement]
      exact fun hfree hended => (h.rested hfree (hended.imp_left hkept.killed)).imp hsettled
    · rw [hkept.ledger]
      exact fun htrue => (h.isSealed htrue).imp hkept.completed fun hold => hold.imp hsettled
    · rw [hkept.receipt, hkept.acknowledgement]
      exact h.receipt
  by_cases hseal : op = .seal
  · -- Nobody is containing, so a killed run has its acknowledgement in the ledger.
    subst hseal
    have hfree : s.containLock = none := hmove.2 rfl
    simp only [exec, Option.some.injEq, Prod.mk.injEq] at hexec
    obtain ⟨rfl, -⟩ := hexec
    refine ⟨h.observed, h.unset, fun _ hended => (h.rested hfree hended).imp hsettled, fun _ => ?_,
      h.receipt⟩
    exact (Or.symm hready).imp_right fun hkilled => (h.rested hfree (.inl hkilled)).imp hsettled
  cases op
  case commit kind payload requestId ns =>
    simp only [exec, Option.some.injEq] at hexec
    have hinv := inv_commit env h hready
    rwa [hexec] at hinv
  case acknowledge request =>
    obtain ⟨hheld, hunset, hkilled⟩ := hready
    simp only [exec] at hexec
    split at hexec
    · rw [Option.some.injEq, Prod.mk.injEq] at hexec
      obtain ⟨rfl, -⟩ := hexec
      exact h
    · rw [Option.some.injEq, Prod.mk.injEq] at hexec
      obtain ⟨rfl, -⟩ := hexec
      refine ⟨h.observed, by rintro ⟨⟩, fun hfree => ?_, fun htrue => ?_, fun receipt hreceipt ack hack => ?_⟩
      · rw [show s.containLock = none from hfree] at hheld
        cases hheld
      · exact (h.isSealed htrue).imp_right fun hold => hold.imp hsettled
      · have hset := h.receipt receipt hreceipt ack hack
        rw [hunset] at hset
        cases hset
  case dropAcknowledgement => exact absurd hready id
  case markKilled =>
    have hheld : s.containLock = some t := hready
    have hcompleted := ReceiptStatus.completed_exec hexec
    simp only [exec, onState_eq_some] at hexec
    obtain ⟨-, rfl, -⟩ := hexec
    refine ⟨h.observed, h.unset, fun hfree => ?_, fun htrue => ?_, h.receipt⟩
    · rw [show s.containLock = none from hfree] at hheld
      cases hheld
    · exact (h.isSealed htrue).imp hcompleted fun hold => hold.imp hsettled
  case acquireContain =>
    simp only [exec, Option.ite_none_right_eq_some, Option.some.injEq, Prod.mk.injEq] at hexec
    obtain ⟨-, rfl, -⟩ := hexec
    exact ⟨h.observed, h.unset, by rintro ⟨⟩, fun htrue => (h.isSealed htrue).imp_right fun hold =>
      hold.imp hsettled, h.receipt⟩
  case releaseContain =>
    simp only [exec, Option.ite_none_right_eq_some, Option.some.injEq, Prod.mk.injEq] at hexec
    obtain ⟨-, rfl, -⟩ := hexec
    exact ⟨h.observed, h.unset, fun _ hended => (hready hended).imp hsettled,
      fun htrue => (h.isSealed htrue).imp_right fun hold => hold.imp hsettled, h.receipt⟩
  case storeReceipt receipt =>
    simp only [exec, Option.some.injEq, Prod.mk.injEq] at hexec
    obtain ⟨rfl, -⟩ := hexec
    refine ⟨h.observed, h.unset, fun hfree hended => (h.rested hfree hended).imp hsettled,
      fun htrue => (h.isSealed htrue).imp_right fun hold => hold.imp hsettled, ?_⟩
    rintro _ ⟨⟩
    exact hready
  all_goals first | exact absurd trivial hcalm | exact absurd rfl hseal

theorem rely_exec {op : Op P} {r : op.Res} (hready : Ready t s op)
    (hexec : exec d env t s op = some (s', r)) {u : ℕ} (hu : u ≠ t) : Rely u s s' := by
  have hother (hlock : s.containLock = some t) : s.containLock ≠ some u := by
    rw [hlock]
    exact fun heq => hu (Option.some.inj heq).symm
  have hfinal : ReceiptStatus.Final s s' := ReceiptStatus.final_exec hexec
  have hsettled (ack : KillAcknowledgement P) (hold : Settled ack s) : Settled ack s' :=
    settled_exec hold hready hexec
  by_cases hseal : op = .seal
  · subst hseal
    simp only [exec, Option.some.injEq, Prod.mk.injEq] at hexec
    obtain ⟨rfl, -⟩ := hexec
    exact ⟨fun hheld => ⟨hheld, rfl, rfl, id⟩, fun _ hset => hset, id, id, hsettled⟩
  by_cases hcalm : Op.Calm op
  · have hkept := kept_exec hcalm hexec
    refine ⟨fun hheld => ?_, fun ack hset => ?_, hfinal.killed, hfinal.completed, hsettled⟩
    · exact ⟨hkept.lock.trans hheld, hkept.acknowledgement, by rw [hkept.ledger], hkept.killed⟩
    · exact hkept.acknowledgement.trans hset
  refine ⟨fun hheld => ?_, fun ack hset => ?_, hfinal.killed, hfinal.completed, hsettled⟩
  · cases op
    case commit kind payload requestId ns =>
      have hkind : kind ≠ .killAcknowledged := fun hkind => hother (hready hkind).1 hheld
      obtain ⟨hlock, hack, -, hstate, -⟩ :=
        commit_frame (d := d) (s := s) env kind payload requestId ns
      obtain ⟨hacks, -⟩ := commit_kept (d := d) (s := s) env payload requestId ns hkind
      simp only [exec, Option.some.injEq] at hexec
      rw [hexec] at hlock hack hstate hacks
      exact ⟨hlock.trans hheld, hack, hacks, by rw [hstate]; exact id⟩
    case acknowledge request => exact absurd hheld (hother hready.1)
    case dropAcknowledgement => exact absurd hready id
    case markKilled => exact absurd hheld (hother hready)
    case acquireContain =>
      simp only [exec, Option.ite_none_right_eq_some] at hexec
      rw [hexec.1] at hheld
      cases hheld
    case releaseContain =>
      simp only [exec, Option.ite_none_right_eq_some] at hexec
      exact absurd hheld (hother hexec.1)
    case storeReceipt =>
      simp only [exec, Option.some.injEq, Prod.mk.injEq] at hexec
      obtain ⟨rfl, -⟩ := hexec
      exact ⟨hheld, rfl, rfl, id⟩
    all_goals first | exact absurd trivial hcalm | exact absurd rfl hseal
  · cases op
    case commit kind payload requestId ns =>
      obtain ⟨-, hack, -⟩ := commit_frame (d := d) (s := s) env kind payload requestId ns
      simp only [exec, Option.some.injEq] at hexec
      rw [hexec] at hack
      exact hack.trans hset
    case acknowledge request =>
      rw [hready.2.1] at hset
      cases hset
    case dropAcknowledgement => exact absurd hready id
    case markKilled =>
      simp only [exec, onState_eq_some] at hexec
      obtain ⟨-, rfl, -⟩ := hexec
      exact hset
    case acquireContain | releaseContain =>
      simp only [exec, Option.ite_none_right_eq_some, Option.some.injEq, Prod.mk.injEq] at hexec
      obtain ⟨-, rfl, -⟩ := hexec
      exact hset
    case storeReceipt =>
      simp only [exec, Option.some.injEq, Prod.mk.injEq] at hexec
      obtain ⟨rfl, -⟩ := hexec
      exact hset
    all_goals first | exact absurd trivial hcalm | exact absurd rfl hseal

variable (d) in
def discipline : Discipline (sealedOutside d) where
  inv := Inv d
  ready := Ready
  rely := Rely
  rely_refl _ _ := ⟨fun h => ⟨h, rfl, rfl, id⟩, fun _ h => h, id, id, fun _ h => h⟩
  rely_trans h h' := ⟨fun hlock => by
      obtain ⟨hlock₁, hack₁, hacks₁, hkilled₁⟩ := h.locked hlock
      obtain ⟨hlock₂, hack₂, hacks₂, hkilled₂⟩ := h'.locked hlock₁
      exact ⟨hlock₂, hack₂.trans hack₁, hacks₂.trans hacks₁, fun hkilled => hkilled₁ (hkilled₂ hkilled)⟩,
    fun ack hset => h'.set ack (h.set ack hset), fun hkilled => h'.killed (h.killed hkilled),
    fun hcompleted => h'.completed (h.completed hcompleted),
    fun ack hsettled => h'.settled ack (h.settled ack hsettled)⟩
  act_inv h hready hmove hexec := inv_exec h hready hmove hexec
  act_rely _ hready _ hexec _ hu := rely_exec hready hexec hu

/-! ## The containment -/

/-- The thread holds the lock and has nothing to settle. -/
structure Rested (t : ℕ) (s : Runtime P) : Prop where
  locked : s.containLock = some t
  rested : s.state.phase = .killed ∨ s.killAcknowledgement ≠ none → ∃ ack, Settled ack s

/-- The thread holds the lock, and no acknowledgement is set. -/
structure Unset (t : ℕ) (killed : Prop) (s : Runtime P) : Prop where
  locked : s.containLock = some t
  unset : s.killAcknowledgement = none
  phase : s.state.phase = .killed ↔ killed

/-- The acknowledgement is set and waits for its commit. -/
structure Pending (t : ℕ) (ack : KillAcknowledgement P) (s : Runtime P) : Prop where
  locked : s.containLock = some t
  set : s.killAcknowledgement = some ack
  unacknowledged : acksOf s.ledger.events = []
  phase : s.state.phase = .killed

theorem Rested.rely (h : Rested t s) (hrely : Rely t s s') : Rested t s' := by
  obtain ⟨hlock, hack, -, hkilled⟩ := hrely.locked h.locked
  refine ⟨hlock, ?_⟩
  rw [hack]
  exact fun hended => (h.rested (hended.imp_left hkilled)).imp hrely.settled

theorem Unset.rely {killed : Prop} (h : Unset t killed s) (hrely : Rely t s s') :
    Unset t killed s' := by
  obtain ⟨hlock, hack, -, hkilled⟩ := hrely.locked h.locked
  exact ⟨hlock, hack.trans h.unset, fun hphase => h.phase.mp (hkilled hphase),
    fun htrue => hrely.killed (h.phase.mpr htrue)⟩

theorem Pending.rely {ack : KillAcknowledgement P} (h : Pending t ack s) (hrely : Rely t s s') :
    Pending t ack s' := by
  obtain ⟨hlock, hack, hacks, -⟩ := hrely.locked h.locked
  exact ⟨hlock, hack.trans h.set, hacks.trans h.unacknowledged, hrely.killed h.phase⟩

theorem Unset.rested (h : Unset t False s) : Rested t s :=
  ⟨h.locked, fun hended => hended.elim (fun hkilled => (h.phase.mp hkilled).elim)
    fun hset => absurd h.unset hset⟩

theorem ready_of_calm {op : Op P} (h : Op.Calm op) : Ready t s op := by
  cases op <;> first | exact trivial | exact absurd h id

/-- Calm code before the run is killed. -/
theorem safe_calm {α : Type} {p : Prog P α} (hp : p.All Op.Calm) (h : Unset t False s) :
    (discipline d).Safe t (fun _ s => Unset t False s) p s :=
  safe_of_all (D := discipline d) (K := Unset t False) (fun hrely h => h.rely hrely)
    (fun hop _ _ => ready_of_calm hop)
    (fun hop _ hexec _ h => by
      have hkept := kept_exec hop hexec
      exact ⟨hkept.lock.trans h.locked, hkept.acknowledgement.trans h.unset,
        fun hkilled => h.phase.mp (hkept.killed hkilled), False.elim⟩) hp h

theorem safe_markKilled (h : Unset t False s) :
    (discipline d).Safe t (fun outcome s => match outcome with
      | .ok _ => Unset t True s
      | .error _ => Unset t False s) (raising (perform .markKilled) : Prog P Unit) s := by
  refine safe_act fun s₁ hrely _ => ⟨(h.rely hrely).locked, fun env s₂ result _ hexec _ => ?_⟩
  refine safe_ofExcept.mpr ?_
  have h₁ := h.rely hrely
  simp only [exec, onState_eq_some] at hexec
  obtain ⟨-, rfl, rfl⟩ := hexec
  by_cases hopen : s₁.state.phase ≠ .killing ∧ s₁.state.phase ≠ .killed
  · have hmark : s₁.state.markKilled.1 = s₁.state ∧ ∃ error, s₁.state.markKilled.2 = .error error := by
      unfold RunState.markKilled
      rw [if_pos hopen]
      exact ⟨rfl, _, rfl⟩
    obtain ⟨hsame, error, hrefused⟩ := hmark
    rw [hrefused]
    refine ⟨h₁.locked, h₁.unset, ?_⟩
    dsimp only
    rw [hsame]
    exact h₁.phase
  · have hmark : s₁.state.markKilled.1.phase = .killed ∧ s₁.state.markKilled.2 = .ok () := by
      unfold RunState.markKilled
      rw [if_neg hopen]
      exact ⟨rfl, rfl⟩
    rw [hmark.2]
    exact ⟨h₁.locked, h₁.unset, fun _ => trivial, fun _ => hmark.1⟩

theorem safe_acknowledge (request : KillRequest P) (h : Unset t True s) :
    (discipline d).Safe t (fun outcome s => ∃ ack, outcome = .ok ack ∧ Pending t ack s)
      (raising (perform (.acknowledge request)) : Prog P (KillAcknowledgement P)) s := by
  refine safe_act fun s₁ hrely hinv => ⟨?_, fun env s₂ result hmove hexec _ => ?_⟩
  · exact ⟨(h.rely hrely).locked, (h.rely hrely).unset, (h.rely hrely).phase.mpr trivial⟩
  refine safe_ofExcept.mpr ?_
  have h₁ := h.rely hrely
  obtain ⟨ack, hack⟩ := hmove.1.1 request rfl
  simp only [exec, hack, Option.some.injEq, Prod.mk.injEq] at hexec
  obtain ⟨rfl, rfl⟩ := hexec
  exact ⟨ack, rfl, h₁.locked, rfl, hinv.unset h₁.unset, h₁.phase.mpr trivial⟩

/-- The commit meets an open ledger, and succeeds. -/
theorem unsealed_of_pending {ack : KillAcknowledgement P} (h : Pending t ack s) (hinv : Inv d s) :
    s.ledger.isSealed = false := by
  by_contra hsealed
  rcases hinv.isSealed (by simpa using hsealed) with hcompleted | ⟨ack', hsettled⟩
  · rw [h.phase] at hcompleted
    cases hcompleted
  · obtain ⟨event, hone, -⟩ := hsettled.event
    rw [h.unacknowledged] at hone
    cases hone

theorem safe_commitAcknowledgement {ack : KillAcknowledgement P} (ns : ℤ) (h : Pending t ack s) :
    (discipline d).Safe t (fun _ s => Rested t s) (Supervisor.commitAcknowledgement ack ns) s := by
  refine safe_handle (safe_act fun s₁ hrely hinv => ⟨fun _ => ?_, fun env s₂ outcome hmove hexec _ => ?_⟩)
  · have h₁ := h.rely hrely
    exact ⟨h₁.locked, h₁.unacknowledged, h₁.phase, ack, h₁.set, rfl⟩
  have h₁ := h.rely hrely
  obtain ⟨event, hok⟩ := hmove.1.2 _ _ _ rfl (unsealed_of_pending h₁ hinv)
  obtain ⟨hlock, hack, -⟩ := commit_frame (d := d) (s := s₁) env .killAcknowledged
    ((Sealed.codec P killAcknowledgementSealing).encode ack) none (some ns)
  simp only [exec, Option.some.injEq] at hexec
  rw [hexec] at hok hlock hack
  obtain rfl : outcome = .ok event := hok
  obtain ⟨hmem, hkind, htext⟩ := CompletedDispatches.mem_of_commit hinv.observed hexec
  refine ⟨hlock.trans h₁.locked, fun _ => ⟨ack, hack.trans h₁.set, event, ?_, hmem, hkind, ?_⟩⟩
  · have hunacknowledged : s₁.ledger.events.filter (fun event =>
        event.body.kind = .killAcknowledged) = [] := h₁.unacknowledged
    rw [events_of_commit hexec, acksOf, List.filter_append, hunacknowledged, List.nil_append]
    simp [hkind]
  · exact modelValidateJson_of_canonicalJson htext

theorem safe_containFresh (trigger : Event P) (ns : ℤ) (h : Unset t False s) :
    (discipline d).Safe t (fun _ s => Rested t s) (Supervisor.containFresh trigger ns) s := by
  -- Before the run is killed, giving up leaves nothing to settle.
  have hgiveUp (s : Runtime P) (h : Unset t False s) : Rested t s := h.rested
  have hperform {op : Op P} (hop : Op.Calm op) : (perform op : Prog P op.Res).All Op.Calm :=
    all_perform hop
  have hraising {α : Type} {p : Prog P (Except PyError α)} (hp : p.All Op.Calm) :
      (raising p).All Op.Calm := all_raising hp
  refine safe_seq (safe_calm (hperform trivial) h) (fun latched s₁ h => ?_) fun _ => hgiveUp
  obtain ⟨first, epoch, inflight⟩ := latched
  refine safe_seq (safe_calm (hperform trivial) h) (fun signals s₂ h => ?_) fun _ => hgiveUp
  refine safe_seq (safe_calm (hraising (hperform trivial)) h) (fun requestedAt s₃ h => ?_)
    fun _ => hgiveUp
  refine safe_seq (safe_calm (hraising (hperform trivial)) h) (fun requestedNs s₄ h => ?_)
    fun _ => hgiveUp
  refine safe_seq (safe_calm (hraising (hperform trivial)) h) (fun isolation s₅ h => ?_)
    fun _ => hgiveUp
  refine safe_seq (safe_calm (hraising (hperform trivial)) h) (fun acknowledgedNs s₆ h => ?_)
    fun _ => hgiveUp
  refine safe_seq (safe_calm (hraising (hperform trivial)) h) (fun acknowledgedAt s₇ h => ?_)
    fun _ => hgiveUp
  refine safe_seq (safe_markKilled h) (fun _ s₈ h => ?_) fun _ s => hgiveUp s
  refine safe_seq (safe_acknowledge _ h) (fun ack s₉ hpending => ?_) fun _ _ hfailed => ?_
  · obtain ⟨ack', heq, hpending⟩ := hpending
    obtain rfl := Except.ok.inj heq
    exact safe_commitAcknowledgement acknowledgedNs hpending
  · obtain ⟨_, heq, -⟩ := hfailed
    cases heq

theorem safe_containLocked (trigger : Event P) (ns : ℤ) (h : Rested t s) :
    (discipline d).Safe t (fun _ s => Rested t s) (Supervisor.containLocked trigger ns) s := by
  refine safe_act fun s₁ hrely _ => ⟨trivial, fun env s₂ found _ hexec _ => ?_⟩
  have h₁ := h.rely hrely
  simp only [exec, Option.some.injEq, Prod.mk.injEq] at hexec
  obtain ⟨rfl, rfl⟩ := hexec
  cases hfound : s₁.killAcknowledgement with
  | some ack => exact h₁
  | none =>
      refine safe_containFresh trigger ns ⟨h₁.locked, hfound, fun hkilled => ?_, False.elim⟩
      obtain ⟨ack, hsettled⟩ := h₁.rested (.inl hkilled)
      have hset := hsettled.set
      rw [hfound] at hset
      cases hset

theorem clean_contain (trigger : Event P) (ns : ℤ) :
    (discipline d).Clean (Supervisor.contain trigger ns) := by
  intro t s
  have hacquire : (discipline d).Safe t (fun _ s => Rested t s)
      (perform .acquireContain : Prog P Unit) s := by
    refine safe_act fun s₁ _ hinv => ⟨trivial, fun env s₂ _ _ hexec _ => ?_⟩
    simp only [exec, Option.ite_none_right_eq_some, Option.some.injEq, Prod.mk.injEq] at hexec
    obtain ⟨hfree, rfl, -⟩ := hexec
    exact ⟨rfl, fun hended => (hinv.rested hfree hended).imp fun _ h => ⟨h.set, h.event⟩⟩
  refine safe_seq hacquire (fun _ s₁ h => ?_) fun _ _ _ => trivial
  refine safe_finalize (safe_mono (fun outcome s₂ h₂ => ?_) (safe_containLocked trigger ns h))
  exact safe_act fun s₃ hrely _ => ⟨(h₂.rely hrely).rested, fun _ _ _ _ _ _ => trivial⟩

/-! ## The receipt -/

/-- A final phase that was read is the run's. -/
def Ended (state : RunState) (s : Runtime P) : Prop :=
  (state.phase = .killed → s.state.phase = .killed) ∧
    (state.phase = .completed → s.state.phase = .completed)

theorem Ended.rely {state : RunState} (h : Ended state s) (hrely : Rely t s s') : Ended state s' :=
  ⟨fun hphase => hrely.killed (h.1 hphase), fun hphase => hrely.completed (h.2 hphase)⟩

theorem clean_of_calm {α : Type} {p : Prog P α} (hp : p.All Op.Calm) : (discipline d).Clean p :=
  fun _ _ => safe_of_all (K := fun _ => True) (fun _ _ => trivial)
    (fun hop _ _ => ready_of_calm hop) (fun _ _ _ _ _ => trivial) hp trivial

/-- A receipt is built with the acknowledgement that was read. -/
theorem safe_storing {derived : RunStatus} {state : RunState} {mirror : EvidenceMirror}
    {finishedAt : Datetime} {finishedNs : ℤ} {checkpoint : WitnessCheckpoint P}
    {found : Option (KillAcknowledgement P)}
    (hfound : ∀ ack, found = some ack → s.killAcknowledgement = some ack) :
    (discipline d).Safe t (fun _ _ => True) (do
      let body ← .ofExcept (Supervisor.receiptBody d derived state mirror finishedAt finishedNs found
        checkpoint)
      let receipt ← .ofExcept (Sealed.sign (receiptSealing P) body d.supervisorKey)
      perform (.storeReceipt receipt)
      return receipt : Prog P (Receipt P)) s := by
  cases hbody : Supervisor.receiptBody d derived state mirror finishedAt finishedNs found
      checkpoint with
  | error error => exact trivial
  | ok body =>
      rw [Program.ofExcept_ok, Program.ret_bind]
      cases hsign : Sealed.sign (receiptSealing P) body d.supervisorKey with
      | error error => exact trivial
      | ok receipt =>
          rw [Program.ofExcept_ok, Program.ret_bind]
          refine safe_act fun s₁ hrely _ => ⟨fun ack hack => ?_, fun _ _ _ _ _ _ => trivial⟩
          rw [Sealed.body_of_sign hsign, (ReceiptStatus.status_of_receiptBody hbody).2] at hack
          exact hrely.set ack (hfound ack hack)

theorem clean_storing {derived : RunStatus} {state : RunState} {mirror : EvidenceMirror}
    {finishedAt : Datetime} {finishedNs : ℤ} {checkpoint : WitnessCheckpoint P} :
    (discipline d).Clean (do
      let ack ← perform .readAcknowledgement
      let body ← .ofExcept (Supervisor.receiptBody d derived state mirror finishedAt finishedNs ack
        checkpoint)
      let receipt ← .ofExcept (Sealed.sign (receiptSealing P) body d.supervisorKey)
      perform (.storeReceipt receipt)
      return receipt : Prog P (Receipt P)) := by
  intro t s
  refine safe_act fun s₁ _ _ => ⟨trivial, fun env s₂ found _ hexec _ => ?_⟩
  simp only [exec, Option.some.injEq, Prod.mk.injEq] at hexec
  obtain ⟨rfl, rfl⟩ := hexec
  exact safe_storing fun _ h => h

theorem clean_receiptFresh (status : Option RunStatus) :
    (discipline d).Clean (Supervisor.receiptFresh d status) := by
  intro t s
  have hsnapshot : (discipline d).Safe t (fun outcome s => ∀ state, outcome = .ok state → Ended state s)
      (perform .snapshot : Prog P RunState) s := by
    refine safe_act fun s₁ _ _ => ⟨trivial, fun env s₂ state _ hexec _ => ?_⟩
    rintro _ ⟨⟩
    simp only [exec, onState_eq_some] at hexec
    obtain ⟨-, rfl, rfl⟩ := hexec
    exact ⟨id, id⟩
  refine safe_seq hsnapshot (fun state s₁ hended => ?_) fun _ _ _ => trivial
  have hended := hended state rfl
  have hemergency : (discipline d).Safe t (fun _ s => Ended state s)
      (perform .readEmergency : Prog P Bool) s₁ := by
    refine safe_act fun s₂ hrely _ => ⟨trivial, fun env s₃ emergency _ hexec _ => ?_⟩
    simp only [exec, Option.some.injEq, Prod.mk.injEq] at hexec
    obtain ⟨rfl, -⟩ := hexec
    exact hended.rely hrely
  refine safe_seq hemergency (fun emergency s₂ hended => ?_) fun _ _ _ => trivial
  cases hderived : Supervisor.derivedStatus emergency state.phase with
  | error error => exact trivial
  | ok derived =>
      rw [Program.ofExcept_ok, Program.ret_bind]
      have hfinal : state.phase = .killed ∨ state.phase = .completed := by
        unfold Supervisor.derivedStatus at hderived
        split_ifs at hderived with hopen
        all_goals
          cases hphase : state.phase with
          | running => exact absurd (.inl hphase) hopen
          | killing => exact absurd (.inr hphase) hopen
          | killed => exact .inl rfl
          | completed => exact .inr rfl
      cases hrequested : ensure (∀ requested ∈ status, requested = derived)
          (PyError.valueError "requested receipt status conflicts with run state") with
      | error error => exact trivial
      | ok _ =>
          refine safe_act fun s₃ hrely _ => ⟨?_, fun env s₄ _ _ _ _ => ?_⟩
          · exact hfinal.imp (fun hphase => hrely.killed (hended.1 hphase))
              fun hphase => hrely.completed (hended.2 hphase)
          · refine clean_bind (clean_of_calm (all_raising (all_perform trivial)))
              (fun finishedAt => ?_) t s₄
            refine clean_bind (clean_of_calm (all_raising (all_perform trivial))) fun finishedNs => ?_
            refine clean_bind (clean_of_calm (all_perform trivial)) fun mirror => ?_
            refine clean_bind (clean_of_calm (all_raising (all_perform trivial))) fun checkpoint => ?_
            exact clean_storing

theorem clean_receipt (status : Option RunStatus) :
    (discipline d).Clean (Supervisor.receipt d status) := by
  refine clean_bind (clean_of_calm (all_perform trivial)) fun _ => ?_
  refine clean_finalize (clean_bind (clean_of_calm (all_perform trivial)) fun found => ?_)
    (clean_of_calm (all_perform trivial))
  cases found with
  | none => exact clean_receiptFresh status
  | some frozen => exact clean_bind (clean_ofExcept _) fun _ => clean_ret _

theorem covers : (discipline d).Covers fun _ _ _ => True where
  stable _ _ := trivial
  calls t {call} s _ hstart := by
    cases call with
    | contain trigger ns => exact clean_map (clean_contain trigger ns) t s
    | receipt status => exact clean_map (clean_receipt status) t s
    | _ => exact absurd hstart id
  retire_inv {call outcome s} h _ := by
    dsimp only [runtimeService]
    unfold retire
    split
    · exact ⟨h.observed, h.unset, fun hfree hended => (h.rested hfree hended).imp fun _ h =>
        ⟨h.set, h.event⟩, fun hsealed => (h.isSealed hsealed).imp_right fun hold => hold.imp fun _ h =>
        ⟨h.set, h.event⟩, h.receipt⟩
    · exact h
  retire_rely {call outcome s} _ _ u := by
    dsimp only [runtimeService]
    unfold retire
    split
    · exact ⟨fun h => ⟨h, rfl, rfl, id⟩, fun _ h => h, id, id, fun _ h => ⟨h.set, h.event⟩⟩
    · exact (discipline d).rely_refl u s

theorem inv_of_uncontained (h : Uncontained d s) : Inv d s where
  observed := h.observed
  unset _ := h.unacknowledged
  rested _ hended := by
    rcases hended with hkilled | hset
    · rcases h.phase with hphase | hphase <;>
      · rw [hphase] at hkilled
        cases hkilled
    · exact absurd h.unset hset
  isSealed hsealed := by
    rw [h.unsealed] at hsealed
    cases hsealed
  receipt _ hstored := by
    rw [h.receipt] at hstored
    cases hstored

/-- The only acknowledgement event of the log is among those that are covered. -/
theorem acksOf_take {events : List (Event P)} {event : Event P} {n : ℕ}
    (hone : acksOf events = [event]) (hmem : event ∈ events.take n)
    (hkind : event.body.kind = .killAcknowledged) : acksOf (events.take n) = [event] := by
  have hsub : (acksOf (events.take n)).Sublist [event] := by
    rw [← hone]
    exact (List.take_sublist n events).filter _
  have hin : event ∈ acksOf (events.take n) := List.mem_filter.mpr ⟨hmem, decide_eq_true hkind⟩
  rcases List.sublist_singleton.mp hsub with hnil | heq
  · rw [hnil] at hin
    cases hin
  · exact heq

theorem carried_of_stored {receipt : Receipt P} (h : Inv d s) (hstored : Stored receipt s)
    (hreceipt : s.receipt = some receipt) (hstatus : receipt.body.status = .killed) :
    ∃ ack event, receipt.body.killAcknowledgement = some ack ∧
      acksOf (Receipt.covered receipt s.ledger.events) = [event] ∧
      IsAcknowledgement event ack := by
  have hkilled := hstored.killed hstatus
  obtain ⟨ack, hack⟩ := Option.isSome_iff_exists.mp
    ((receipt.body.receiptIsCoherent_eq_ok.mp receipt.body.coherent).status.mp hstatus)
  rcases h.isSealed hstored.isSealed with hcompleted | ⟨ack', hsettled⟩
  · rw [hkilled] at hcompleted
    cases hcompleted
  · obtain ⟨event, hone, hmem, hholds⟩ := hsettled.event
    obtain rfl : ack' = ack :=
      Option.some.inj (hsettled.set.symm.trans (h.receipt receipt hreceipt ack hack))
    refine ⟨ack', event, hack, ?_, hholds⟩
    have hcount : receipt.body.eventCount.1.toNat = s.mirror.count := by
      rw [hstored.count, Int.toNat_natCast]
    rw [Receipt.covered, hcount]
    exact acksOf_take hone hmem hholds.1

end Acknowledged

/-- In every run that seals the ledger outside of containments, acknowledgements are committed
and the receipts of killed runs carry them. -/
theorem acknowledgedReceipts_of_reachable {P : Platform} (d : Deployment P) (s₀ : Runtime P)
    (h₀ : Uncontained d s₀) (c : Config (runtimeService d)) (h : Reachable (sealedOutside d) s₀ c) :
    AcknowledgedReceipts c := by
  have hholds := holds_of_reachable (D := Acknowledged.discipline d) Acknowledged.covers
    (Acknowledged.inv_of_uncontained h₀) h
  have hinv : Acknowledged.Inv d c.shared := hholds.1
  refine ⟨fun t call payload requestId ns next env hrunning hmove => ?_, fun receipt hreceipt hstatus => ?_⟩
  · obtain ⟨hready, -⟩ := (hholds.2 t call _ hrunning) _ ((Acknowledged.discipline d).rely_refl t _) hinv
    obtain ⟨hlock, hacks, hphase, ack, hset, -⟩ := hready rfl
    exact hmove.2 _ _ _ rfl
      (Acknowledged.unsealed_of_pending (Acknowledged.Pending.mk hlock hset hacks hphase) hinv)
  · have hnone : ReceiptStatus.Inv s₀ := fun _ hstored => by
      rw [h₀.receipt] at hstored
      cases hstored
    have hstored := invariant_of_reachable ReceiptStatus.covers hnone
      (h.mono (fun _ _ _ => trivial) fun _ _ _ _ => trivial) receipt hreceipt
    exact Acknowledged.carried_of_stored hinv hstored hreceipt hstatus

/-! ## A receipt in the middle of a containment -/

section Interrupted

open Reference

variable {manifest : Manifest platform} {rule : RunRule (runtimeService (deployment manifest))}
  {t : ℕ} {s : Runtime platform}

/-- What a containment has collected on the reference platform, with nothing in flight. -/
def killRequest (trigger : Event platform) : KillRequest platform :=
  ⟨trigger, 1999, .aware now, 2000, .aware now, 2000, ⟨.simulated, [], 0, false, none⟩, 0, 0⟩

theorem body_killRequest (manifest : Manifest platform) (trigger : Event platform) :
    (killRequest trigger).body (deployment manifest) = .ok (killBody manifest trigger) := by
  have hcoherent := (killBody manifest trigger).coherent
  simp only [KillRequest.body, bind_eq_ok, killRequest]
  refine ⟨⟨1999, by decide⟩, rfl, timestamp now, rfl, ⟨2000, by decide⟩, rfl, timestamp now, rfl,
    ⟨2000, by decide⟩, rfl, ⟨1, by decide⟩, rfl, [], by simp [sortedSet], ⟨[], by decide⟩, rfl,
    ⟨0, by decide⟩, rfl, ⟨0, by decide⟩, rfl, ⟨0, by decide⟩, rfl, none, rfl, ?_⟩
  exact map_eq_ok.mpr ⟨⟨_, hcoherent⟩, checked_of_ok hcoherent, rfl⟩

theorem exists_acknowledged (manifest : Manifest platform) (trigger : Event platform) :
    ∃ ack, (killRequest trigger).acknowledgement (deployment manifest) = .ok ack ∧
      ack.body = killBody manifest trigger ∧
      Fits platform 64 100000 ((Sealed.codec platform killAcknowledgementSealing).encode ack) := by
  have hfits := fits_killAcknowledgementBody_at lawful
    (x := killBody manifest trigger) rfl
  obtain ⟨ack, hsign, hbody, -⟩ := Sealed.exists_sign lawful (F := killAcknowledgementSealing)
    (hfits.canonicalJson (by decide) (by decide)) keys.supervisor
  refine ⟨ack, ?_, hbody, ?_⟩
  · rw [KillRequest.acknowledgement, body_killRequest]
    exact hsign
  · rw [← hbody] at hfits
    exact (fits_sealed_at lawful hfits (by decide) (by decide)).mono (by decide) (by decide)

theorem ownable_killed {ack : KillAcknowledgement platform} {trigger : Event platform}
    (h : ack.body = killBody manifest trigger) : Ownable manifest .killed (some ack) := by
  refine ⟨by simp, ?_, ?_⟩
  · rintro _ ⟨⟩
    rw [h]
    exact ⟨⟨rfl, rfl⟩, rfl, le_refl 2000⟩
  · rintro _ ⟨⟩
    rw [h]
    rfl

/-- A run in which nothing is under way. -/
structure Quiet (s : Runtime platform) : Prop where
  idle : Idle s
  phase : s.state.phase = .running
  unset : s.killAcknowledgement = none
  isolation : s.isolationResult = none
  inflight : s.state.inflight = 0
  registry : s.inflight = ∅
  receiptLock : s.receiptLock = none
  receipt : s.receipt = none
  emergency : s.emergencyFailure = false

/-- The same run, killed by the thread. -/
def killed (t : ℕ) (s : Runtime platform) : Runtime platform :=
  { s with
    containLock := some t
    state := s.state.latchKillLocked.markKilled.1
    inflight := s.inflight.signalAll.1
    isolationResult := some ⟨.simulated, [], 0, false, none⟩
    history := s.history.latched true }

/-- What is left of the containment. -/
def acknowledging (trigger : Event platform) : Prog platform (KillAcknowledgement platform) :=
  (do
    let ack ← raising (perform (.acknowledge (killRequest trigger)))
    Supervisor.commitAcknowledgement ack 2000).finalize (perform .releaseContain)

theorem runs_contain (hmoves : ∀ s (op : Op platform), Op.Opening op → rule.moves s op (world 2000))
    (h : Quiet s) (trigger : Event platform) :
    Runs rule t s (Supervisor.contain trigger 1999) (killed t s) (acknowledging trigger) := by
  have hruns := runs_opening (t := t) hmoves h.idle h.phase h.unset h.isolation rfl rfl rfl trigger 1999
  have hsignals : s.inflight.signalAll.2 = 0 := by rw [h.registry]; rfl
  have hinflight : s.state.latchKill.2.2.2 = 0 := by
    simp [RunState.latchKill, RunState.latchKillLocked, h.phase, h.inflight]
  rw [hsignals, hinflight] at hruns
  exact hruns

/-- The acknowledgement is set, and its commit is due. -/
theorem runs_acknowledging (trigger : Event platform) {ack : KillAcknowledgement platform}
    (hack : (killRequest trigger).acknowledgement (deployment manifest) = .ok ack)
    (hmove : rule.moves s (.acknowledge (killRequest trigger)) (world 2000)) :
    Runs rule t s (acknowledging trigger) { s with killAcknowledgement := some ack }
      ((Supervisor.commitAcknowledgement ack 2000).finalize (perform .releaseContain)) := by
  have hset : Ends rule t s (raising (perform (.acknowledge (killRequest trigger))) : Prog platform _)
      { s with killAcknowledgement := some ack } (.ok ack) :=
    ends_raising (ends_perform (world 2000) hmove (by simp only [exec, hack]))
  exact Runs.bind (Runs.attempt (Ends.bind hset (.refl _ _)))

/-- The operations of a containment that acknowledges. -/
def Containing (trigger : Event platform) : Op platform → Prop
  | .acknowledge request => request = killRequest trigger
  | .commit kind _ requestId ns => kind = .killAcknowledged ∧ requestId = none ∧ ns = some 2000
  | .releaseContain => True
  | op => Op.Opening op

/-- A containment from beginning to end. -/
theorem exists_contained (trigger : Event platform)
    (hmoves : ∀ s op, Containing trigger op → Succeeds manifest 2000 s op →
      rule.moves s op (world 2000))
    (h : Quiet s) (hhealthy : Healthy manifest s 2000) (hshort : s.ledger.events.length < 900) :
    ∃ s' ack event ledger mirror history,
      Ends rule t s (Supervisor.contain trigger 1999) s' (.ok ack) ∧
      s' = { s with
        containLock := none
        state := { s.state with
          phase := .killed
          killEpoch := s.state.killEpoch + 1
          inflight := 0
          activeAuthorizations := ∅
          reservedEgressBytes := 0 }
        inflight := s.inflight.signalAll.1
        isolationResult := some ⟨.simulated, [], 0, false, none⟩
        killAcknowledgement := some ack
        ledger := ledger
        mirror := mirror
        history := history } ∧
      s'.ledger.events = s.ledger.events ++ [event] ∧ event.body.kind = .killAcknowledged ∧
      Healthy manifest s' 2000 ∧ Ownable manifest .killed (some ack) := by
  obtain ⟨ack, hack, hbody, hfits⟩ := exists_acknowledged manifest trigger
  have hopening (s : Runtime platform) (op : Op platform) (hop : Op.Opening op) :
      rule.moves s op (world 2000) := by
    cases op <;> first | exact hop.elim | exact hmoves _ _ hop trivial
  have hrest := (runs_contain (t := t) hopening h trigger).trans
    (runs_acknowledging trigger hack (hmoves _ _ rfl trivial))
  set s₁ : Runtime platform := { killed t s with killAcknowledgement := some ack } with hs₁
  have hhealthy₁ : Healthy manifest s₁ 2000 :=
    ⟨hhealthy.observed, hhealthy.agrees, hhealthy.unsealed, hhealthy.room, hhealthy.last⟩
  obtain ⟨event, mirror, hcommit, hkind, -, -, -, hlast, hobserved, hagrees⟩ := exists_commit
    (world 2000) (some 2000) ⟨2000, by decide⟩ hhealthy₁ hfits
    (show ∀ id ∈ (none : Option String), _ from nofun) rfl rfl rfl .killAcknowledged
  set s₂ : Runtime platform := Runtime.note { s₁ with
    ledger := { s₁.ledger with events := s₁.ledger.events ++ [event] }
    mirror := mirror } (.committed event true s₁.state.phase s₁.state.killEpoch) with hs₂
  have hcommitted : Ends rule t s₁ (Supervisor.commitAcknowledgement ack 2000) s₂ (.ok ack) := by
    have hperform : Ends rule t s₁ (raising (perform (.commit .killAcknowledged
        ((Sealed.codec platform killAcknowledgementSealing).encode ack) none (some 2000))) :
        Prog platform _) s₂ (.ok event) :=
      ends_raising (ends_perform (world 2000) (hmoves _ _ ⟨rfl, rfl, rfl⟩ ⟨event, by rw [hcommit]⟩)
        (by simp only [exec, hcommit]))
    exact Ends.handle (Ends.bind hperform ends_ret)
  have hrelease : Ends rule t s₂ (perform .releaseContain : Prog platform Unit)
      { s₂ with containLock := none } (.ok ()) :=
    ends_perform (world 2000) (hmoves _ _ trivial trivial)
      (by simp only [exec, hs₂, hs₁, killed, Runtime.note, if_true])
  have hkilled : s.state.latchKillLocked.markKilled.1 = { s.state with
      phase := .killed
      killEpoch := s.state.killEpoch + 1
      inflight := 0
      activeAuthorizations := ∅
      reservedEgressBytes := 0 } := by
    simp [RunState.latchKillLocked, RunState.markKilled, h.phase]
  refine ⟨{ s₂ with containLock := none }, ack, event, s₂.ledger, s₂.mirror, s₂.history,
    hrest.trans (Ends.finalize hcommitted hrelease), ?_, rfl, hkind, ?_, ownable_killed hbody⟩
  · simp only [hs₂, hs₁, killed, hkilled, Runtime.note]
  · refine ⟨hobserved, hagrees, hhealthy.unsealed, ?_, fun last hmem => ?_⟩
    · change (s.ledger.events ++ [event]).length < 1000
      rw [List.length_append, List.length_singleton]
      omega
    · change last ∈ mirror.lastMonotonicNs at hmem
      rw [hlast] at hmem
      obtain rfl := Option.some.inj hmem
      exact le_rfl

/-- A receipt of a killed run seals the ledger, whoever holds the containment lock. -/
theorem exists_sealing (hmoves : ∀ s op, op = .seal ∨ Acknowledged.Op.Calm op → rule.moves s op (world 2000))
    (hstate : s.stateLock = none) (hlock : s.receiptLock = none) (hreceipt : s.receipt = none)
    (hemergency : s.emergencyFailure = false) (hphase : s.state.phase = .killed) :
    ∃ code, Runs rule t s (Supervisor.receipt (deployment manifest) none) { s with
      receiptLock := some t
      ledger := { s.ledger with isSealed := true } } code := by
  have hcalm (s : Runtime platform) {op : Op platform} (hop : Acknowledged.Op.Calm op) :
      rule.moves s op (world 2000) := hmoves s op (.inr hop)
  have hacquire : Ends rule t s (perform .acquireReceipt : Prog platform Unit)
      { s with receiptLock := some t } (.ok ()) :=
    ends_perform (world 2000) (hcalm _ trivial) (by simp only [exec, hlock, if_true])
  have hread : Ends rule t { s with receiptLock := some t }
      (perform .readReceipt : Prog platform _) { s with receiptLock := some t } (.ok none) :=
    ends_perform (world 2000) (hcalm _ trivial) (by simp only [exec, hreceipt])
  have hsnapshot : Ends rule t { s with receiptLock := some t }
      (perform .snapshot : Prog platform RunState) { s with receiptLock := some t } (.ok s.state) :=
    ends_perform (world 2000) (hcalm _ trivial)
      (by simp only [exec, Runtime.onState, hstate, if_true])
  have hread' : Ends rule t { s with receiptLock := some t }
      (perform .readEmergency : Prog platform Bool) { s with receiptLock := some t } (.ok false) :=
    ends_perform (world 2000) (hcalm _ trivial) (by simp only [exec, hemergency])
  have hderived : Ends rule t { s with receiptLock := some t }
      (.ofExcept (Supervisor.derivedStatus false s.state.phase) : Prog platform RunStatus)
      { s with receiptLock := some t } (.ok .killed) := by
    rw [hphase]
    exact ends_ofExcept
  have hseal : Ends rule t { s with receiptLock := some t } (perform .seal : Prog platform Unit)
      { s with
        receiptLock := some t
        ledger := { s.ledger with isSealed := true } } (.ok ()) :=
    ends_perform (world 2000) (hmoves _ _ (.inl rfl)) (by simp only [exec])
  obtain ⟨code, hfresh⟩ : ∃ code, Runs rule t { s with receiptLock := some t }
      (Supervisor.receiptFresh (deployment manifest) none) { s with
        receiptLock := some t
        ledger := { s.ledger with isSealed := true } } code :=
    ⟨_, Ends.bind hsnapshot (Ends.bind hread' (Ends.bind hderived
      (Ends.bind ends_ofExcept (Ends.bind hseal (.refl _ _)))))⟩
  exact ⟨_, Ends.bind hacquire (Runs.bind (Runs.attempt (Ends.bind hread hfresh)))⟩

theorem unsealed_of_commit {P : Platform} {d : Deployment P} {env : World} {s : Runtime P}
    {kind : EventKind} {payload : Json} {requestId : Option String} {ns : Option ℤ} {event : Event P}
    (h : (s.commit d env kind payload requestId ns).2 = .ok event) : s.ledger.isSealed = false := by
  rcases commit_cases d env s kind payload requestId ns with ⟨_, heq⟩ | ⟨_, _, _, _, happend, -, -⟩
  · rw [heq] at h
    cases h
  · exact ReceiptCounts.unsealed_of_append happend

/-- The run after its first violation. -/
theorem exists_violated (manifest : Manifest platform) : ∃ (s : Runtime platform)
    (trigger : Event platform), trigger ∈ s.ledger.events ∧ Quiet s ∧
      Uncontained (deployment manifest) s ∧ Healthy manifest s 2000 ∧
      s.ledger.events.length < 900 ∧ s.witness = Reference.witness ∧ Countable s.state := by
  have hreason : opaqueIdCheck "operator.injected" = .ok () := by decide
  have hfits := (fits_reasonPayload hreason).mono le_rfl (show 1000 ≤ 100000 by decide)
  have hnone : ∀ id ∈ (none : Option String), opaqueIdCheck id = .ok () := fun _ h => nomatch h
  obtain ⟨event, mirror, -, hkind, -, -, -, hlast, hobserved, hagrees⟩ := exists_commit (world 1999) none
    ⟨1999, by decide⟩ (healthy_init manifest 1999) hfits hnone rfl rfl rfl .violation
  have hother : event.body.kind ≠ .killAcknowledged := by
    rw [hkind]
    exact nofun
  refine ⟨{ Runtime.init (deployment manifest) Reference.witness with
    ledger := ⟨[event], false⟩
    mirror := mirror }, event, List.mem_singleton.mpr rfl, ?_, ?_, ⟨hobserved, hagrees, rfl, ?_, ?_⟩,
    (by decide : 1 < 900), rfl, (completable_init manifest).counts⟩
  · exact ⟨⟨rfl, rfl⟩, rfl, rfl, rfl, rfl, rfl, rfl, rfl, rfl⟩
  · exact ⟨.inl rfl, rfl, rfl, by simp [acksOf, hother], rfl, rfl, hobserved⟩
  · exact (by decide : 1 < 1000)
  · intro last hmem
    change last ∈ mirror.lastMonotonicNs at hmem
    rw [hlast] at hmem
    obtain rfl := Option.some.inj hmem
    decide

theorem moves_opening {P : Platform} {d : Deployment P} (s : Runtime P) (env : World) {op : Op P}
    (hop : Op.Opening op) : (sealedOutside d).moves s op env := by
  refine ⟨⟨?_, ?_⟩, ?_⟩
  · rintro _ rfl
    exact hop.elim
  · rintro _ _ _ rfl
    exact hop.elim
  · rintro rfl
    exact hop.elim

theorem moves_acknowledge {P : Platform} {d : Deployment P} (s : Runtime P) (env : World)
    {request : KillRequest P} {ack : KillAcknowledgement P}
    (hack : request.acknowledgement d = .ok ack) :
    (sealedOutside d).moves s (.acknowledge request) env := by
  refine ⟨⟨?_, fun _ _ _ h => nomatch h⟩, fun h => nomatch h⟩
  rintro _ ⟨⟩
  exact ⟨ack, hack⟩

/-- A receipt is asked for right after the run was marked as killed. -/
theorem sealed_before_acknowledgement :
    ¬ ∀ (P : Platform) (d : Deployment P) (s₀ : Runtime P) (c : Config (runtimeService d)),
      Uncontained d s₀ → Reachable (healthyContainment d) s₀ c → AcknowledgedReceipts c := by
  intro hclaim
  obtain ⟨manifest, -⟩ := exists_signed
  obtain ⟨s₀, trigger, -, hquiet, hstart₀, -⟩ := exists_violated manifest
  obtain ⟨ack, hack, -⟩ := exists_acknowledged manifest trigger
  let rule := healthyContainment (deployment manifest)
  have hcalm (s : Runtime platform) (op : Op platform) (hop : op = .seal ∨ Acknowledged.Op.Calm op) :
      rule.moves s op (world 2000) := by
    refine ⟨?_, ?_⟩
    · rintro _ rfl
      exact (hop.resolve_left (by rintro ⟨⟩)).elim
    · rintro _ _ _ rfl
      exact (hop.resolve_left (by rintro ⟨⟩)).elim
  have hcontain : rule.starts s₀ (.contain trigger 1999) := trivial
  have hkilled := steps_call (S := runtimeService (deployment manifest)) (t := 0)
    (c := Config.initial s₀) rfl hcontain (Runs.bind (runs_contain
      (fun s _ hop => (moves_opening s (world 2000) hop).1) hquiet trigger))
  obtain ⟨code, hseal⟩ := exists_sealing (t := 1) (s := killed 0 s₀) hcalm hquiet.idle.state
    hquiet.receiptLock hquiet.receipt hquiet.emergency
    (by simp [killed, RunState.markKilled, RunState.phase_latchKillLocked, hquiet.phase])
  have hreceipt : rule.starts (killed 0 s₀) (.receipt none) := trivial
  have hsealed := hkilled.trans (steps_call (S := runtimeService (deployment manifest)) (t := 1)
    rfl hreceipt (Runs.bind hseal))
  have hpending : Reachable rule s₀ _ := hsealed.trans (Runs.steps (t := 0)
    (Runs.bind (runs_acknowledging trigger hack (moves_acknowledge _ _ hack).1)) rfl)
  obtain ⟨event, hok⟩ := (hclaim _ _ _ _ hstart₀ hpending).unrefused 0 (.contain trigger 1999) _ none
    (some 2000) _ (world 2000) rfl ⟨fun _ h => (by cases h), fun _ _ _ _ hopen => (by cases hopen)⟩
  -- The ledger was sealed before the commit.
  have hopen := unsealed_of_commit hok
  cases hopen

theorem moves_containing {trigger : Event platform} {ack : KillAcknowledgement platform}
    (hack : (killRequest trigger).acknowledgement (deployment manifest) = .ok ack)
    {s : Runtime platform} {op : Op platform} (hop : Containing trigger op)
    (hsucceeds : Succeeds manifest 2000 s op) :
    (sealedOutside (deployment manifest)).moves s op (world 2000) := by
  refine ⟨⟨?_, ?_⟩, ?_⟩
  · rintro request rfl
    obtain rfl : request = killRequest trigger := hop
    exact ⟨ack, hack⟩
  · rintro payload requestId ns rfl -
    exact hsucceeds
  · rintro rfl
    exact hop.elim

theorem moves_receiving {s : Runtime platform} {op : Op platform} (hop : op.OfCompletion)
    (hseal : op = .seal → s.containLock = none) :
    (sealedOutside (deployment manifest)).moves s op (world 2000) := by
  refine ⟨⟨?_, ?_⟩, hseal⟩
  · rintro request rfl
    exact hop.elim
  · rintro payload requestId ns rfl
    exact hop.elim

/-- The containment has ended, and its run can have a receipt. -/
theorem receivable_of_contained {s s' : Runtime platform} {ack : KillAcknowledgement platform}
    {ledger mirror history} (h : Quiet s) (hwitness : s.witness = Reference.witness)
    (hcounts : Countable s.state)
    (hs' : s' = { s with
      containLock := none
      state := { s.state with
        phase := .killed
        killEpoch := s.state.killEpoch + 1
        inflight := 0
        activeAuthorizations := ∅
        reservedEgressBytes := 0 }
      inflight := s.inflight.signalAll.1
      isolationResult := some ⟨.simulated, [], 0, false, none⟩
      killAcknowledgement := some ack
      ledger := ledger
      mirror := mirror
      history := history }) : Receivable s' .killed (some ack) := by
  rw [hs']
  exact ⟨rfl, h.idle.state, h.receiptLock, h.receipt, rfl, h.emergency, hwitness,
    ⟨hcounts.observed, hcounts.admitted, hcounts.decided, hcounts.denied, hcounts.dispatched,
      hcounts.completed, hcounts.rejected, hcounts.dropped, hcounts.refused, hcounts.egress⟩⟩

/-- A containment that has committed its acknowledgement, and the receipt that was asked for
afterwards. -/
theorem acknowledgedReceipts_killed : ∃ (manifest : Manifest platform) (s₀ : Runtime platform)
    (trigger : Event platform) (receipt : Receipt platform)
    (c : Config (runtimeService (deployment manifest))),
    Uncontained (deployment manifest) s₀ ∧ trigger ∈ s₀.ledger.events ∧
    Reachable (sealedOutside (deployment manifest)) s₀ c ∧
    c.shared.receipt = some receipt ∧ receipt.body.status = .killed ∧ AcknowledgedReceipts c := by
  obtain ⟨manifest, -⟩ := exists_signed
  obtain ⟨s₀, trigger, hmem, hquiet, hstart₀, hhealthy, hshort, hwitness, hcounts⟩ :=
    exists_violated manifest
  obtain ⟨ack₀, hack, -⟩ := exists_acknowledged manifest trigger
  obtain ⟨s₁, ack, event, ledger, mirror, history, hcontained, hs₁, hevents, -, hhealthy₁, hown⟩ :=
    exists_contained (t := 0) trigger (fun _ _ hop hsucceeds => moves_containing hack hop hsucceeds)
      hquiet hhealthy hshort
  have hfree : s₁.containLock = none := by rw [hs₁]
  obtain ⟨s₂, w, receipt, hends, hreceipt, -, -, -, -, hstatus⟩ := exists_received
    (⟨fun _ _ => True, fun s op env => (sealedOutside (deployment manifest)).moves s.1 op env⟩ :
      RunRule (watchedService (deployment manifest))) 1 .start
    (receivable_of_contained hquiet hwitness hcounts hs₁) hown
    (fun _ _ hop _ hseal => moves_receiving hop fun heq => (hseal heq).2.trans hfree) hhealthy₁
  have hreceived : Ends (sealedOutside (deployment manifest)) 1 s₁
      (Supervisor.receipt (deployment manifest) none) s₂ (.ok receipt) :=
    Runs.erase (fun _ _ _ hmove => hmove) hends
  have hcontain : (sealedOutside (deployment manifest)).starts s₀ (.contain trigger 1999) := trivial
  have hreceive : (sealedOutside (deployment manifest)).starts s₁ (.receipt none) := trivial
  have hreach := (steps_call (S := runtimeService (deployment manifest)) (t := 0)
    (c := Config.initial s₀) rfl hcontain (Runs.bind hcontained)).trans
      (steps_call (t := 1) rfl hreceive (Runs.bind hreceived))
  exact ⟨manifest, s₀, trigger, receipt, _, hstart₀, hmem, hreach, hreceipt, hstatus,
    acknowledgedReceipts_of_reachable _ s₀ hstart₀ _ hreach⟩

end Interrupted

/-! ## After the acknowledgement -/

section Contained

open Reference

theorem quiet_of_finished {manifest : Manifest platform} {s : Runtime platform}
    (h : Finished manifest s) : Quiet s := by
  obtain ⟨window, count, policy, ledger, mirror, history, hs⟩ := h.shape
  rw [hs]
  exact ⟨⟨rfl, rfl⟩, rfl, rfl, rfl, rfl, rfl, rfl, rfl, rfl⟩

/-- The run of one answered request, contained up to the end of the containment. -/
theorem exists_contained_finished {manifest : Manifest platform} (hm : Signed manifest) :
    ∃ (s₁ s₂ : Runtime platform) (ack : KillAcknowledgement platform)
      (request decided dispatched returned acknowledged : Event platform),
      Reachable (Barrier.anyRun (deployment manifest))
        (Runtime.init (deployment manifest) Reference.witness)
        ((Config.initial (S := runtimeService (deployment manifest)) s₁).set s₂ 0
          (some (.contain returned 1999, .ret (.acknowledged ack)))) ∧
      s₂.ledger.events = [request, decided, dispatched, returned, acknowledged] ∧
      dispatched.body.kind = .dispatch ∧ returned.body.kind = .result ∧
      acknowledged.body.kind = .killAcknowledged ∧ s₂.state.phase = .killed := by
  obtain ⟨s₁, hsequence, hfinished⟩ := exists_finished (Barrier.anyRun (deployment manifest)) hm
    (fun _ _ => trivial) (fun _ _ _ _ => trivial) fun _ _ _ _ => trivial
  obtain ⟨request, decided, dispatched, returned, hevents, -, -, hdispatched, hreturned⟩ :=
    hfinished.answered
  obtain ⟨s₂, ack, acknowledged, ledger, mirror, history, hcontained, hs₂, hevents₂, hkind, -⟩ :=
    @exists_contained manifest (Barrier.anyRun (deployment manifest)) 0 s₁ returned
      (fun _ _ _ _ => trivial) (quiet_of_finished hfinished) hfinished.healthy
      (by rw [hevents]; exact (by decide : 4 < 900))
  have hstart : (Barrier.anyRun (deployment manifest)).starts s₁ (.contain returned 1999) := trivial
  refine ⟨s₁, s₂, ack, request, decided, dispatched, returned, acknowledged,
    (reachable_of_sequence hsequence).trans (steps_call (t := 0) rfl hstart (Runs.bind hcontained)), ?_,
    hdispatched, hreturned, hkind, by rw [hs₂]⟩
  rw [hevents₂, hevents]
  rfl

/-- No DISPATCH and no RESULT is appended after a KILL_ACKNOWLEDGED event, in any
interleaving of any calls. -/
theorem nothing_dispatched_after_acknowledgement (d : Deployment P)
    (witness : TransparencyWitness P) (c : Config (runtimeService d))
    (h : Reachable (Barrier.anyRun d) (Runtime.init d witness) c) :
    ClosedByAcknowledgement c.shared.ledger.events :=
  (invariant_of_reachable Barrier.covers (Barrier.inv_init witness) h).closed

/-- The run of one answered request, contained up to its committed acknowledgement. -/
theorem nothing_dispatched_after_acknowledgement_contained :
    ∃ (manifest : Manifest platform) (c : Config (runtimeService (deployment manifest)))
      (request decided dispatched returned acknowledged : Event platform),
      Reachable (Barrier.anyRun (deployment manifest))
        (Runtime.init (deployment manifest) Reference.witness) c ∧
      c.shared.ledger.events = [request, decided, dispatched, returned, acknowledged] ∧
      dispatched.body.kind = .dispatch ∧ returned.body.kind = .result ∧
      acknowledged.body.kind = .killAcknowledged ∧
      ClosedByAcknowledgement c.shared.ledger.events := by
  obtain ⟨manifest, hm⟩ := exists_signed
  obtain ⟨s₁, s₂, ack, request, decided, dispatched, returned, acknowledged, hreach, hevents,
    hdispatched, hreturned, hkind, -⟩ := exists_contained_finished hm
  exact ⟨manifest, _, request, decided, dispatched, returned, acknowledged, hreach, hevents, hdispatched,
    hreturned, hkind, nothing_dispatched_after_acknowledgement _ _ _ hreach⟩

end Contained

/-- In every interleaving of any calls, with any failures of the isolation backend and of the
commits, the run is contained once. -/
theorem containedOnce_of_reachable (P : Platform) (d : Deployment P)
    (witness : TransparencyWitness P) (c : Config (isolatedService d))
    (h : Reachable (anyCalls d) (Runtime.init d witness, 0) c) : ContainedOnce c := by
  have hholds := holds_of_reachable Isolation.covers (Isolation.inv_init witness) h
  have hinv := hholds.1
  refine ⟨?_, ?_, hinv.once, ?_, ?_⟩
  · rw [hinv.isolations]
    split_ifs <;> omega
  · intro hkilled
    rw [hinv.isolations, if_pos (hinv.killed hkilled)]
  · intro t call next hrunning
    have hsafe := hholds.2 t call _ hrunning
    exact (hsafe _ ((Isolation.discipline d).rely_refl t _) hinv).1
  · intro c' hsteps t trigger ns ack u trigger' ns' ack' hrunning hrunning'
    have hsettled : Isolation.Settled ack c.shared := hholds.2 t _ _ hrunning trigger ns ack rfl rfl
    obtain ⟨hholds', hkept⟩ := hholds.steps Isolation.covers (fun hrely h => hrely.settled h)
      hsettled hsteps
    have hsettled' : Isolation.Settled ack' c'.shared :=
      hholds'.2 u _ _ hrunning' trigger' ns' ack' rfl rfl
    exact Option.some.inj (hsettled'.set.symm.trans hkept.set)

open Reference in
/-- The containment of that run, which has returned its acknowledgement. -/
theorem containedOnce_contained : ∃ (manifest : Manifest platform)
    (c : Config (isolatedService (deployment manifest))) (trigger : Event platform)
    (ack : KillAcknowledgement platform),
    Reachable (anyCalls (deployment manifest))
      (Runtime.init (deployment manifest) Reference.witness, 0) c ∧
    trigger ∈ c.shared.1.ledger.events ∧
    c.running 0 = some (.contain trigger 1999, .ret (.acknowledged ack)) ∧
    c.shared.1.state.phase = .killed ∧ ContainedOnce c := by
  obtain ⟨manifest, hm⟩ := exists_signed
  obtain ⟨s₁, s₂, ack, request, decided, dispatched, returned, acknowledged, hreach, hevents, -, -, -,
    hphase⟩ := exists_contained_finished hm
  obtain ⟨isolations, hisolated⟩ : ∃ isolations, Reachable (anyCalls (deployment manifest))
      (Runtime.init (deployment manifest) Reference.witness, 0) (Config.beside _ isolations) :=
    steps_ghost (fun _ _ _ _ => trivial) (fun _ _ _ _ _ => trivial) hreach 0
  refine ⟨manifest, _, returned, ack, hisolated, ?_, rfl, hphase,
    containedOnce_of_reachable _ _ _ _ hisolated⟩
  change returned ∈ s₂.ledger.events
  rw [hevents]
  simp

end Containment
