/-
# Dispatches of a completed run

A dispatch is recorded when its lease is taken and its result when the lease is settled. In
between the lease is active, or it was dropped without a result. A completion looks at
neither: it asks for the phase alone. So a run can complete while a transport is on its way,
or between the moment a failed dispatch drops its lease and the moment it latches.

As long as the run is completed with no lease active and none dropped, every dispatch that a
completed receipt covers has its result beside it.
-/

import Containment.Runtime.Completing

namespace Containment

open Json Concurrency Discipline

variable {P : Platform}

/-! ## The authorization of an event -/

/-- The authorization that an object names. -/
def authorizationOf : Json → Option String
  | .obj fields =>
      match lookup "authorization_id" fields with
      | some (.str id) => some id
      | _ => none
  | _ => none

/-- The authorization that the payload of an event names. -/
def Event.authorization (event : Event P) : Option String :=
  (parseCanonicalText P event.body.payloadCanonicalJson.1).toOption.bind authorizationOf

theorem authorization_of_payload {fields : List (String × Json)} {event : Event P} {id : String}
    (hkeys : (fields.map Prod.fst).Nodup) (hid : lookup "authorization_id" fields = some (.str id))
    (htext : canonicalJson P (.obj fields) = .ok event.body.payloadCanonicalJson.1) :
    Event.authorization event = some id := by
  have hlookup := Record.lookup_orderFields hkeys "authorization_id"
  rw [hid, Option.map_some, orderForJcs] at hlookup
  rw [Event.authorization, parseCanonicalText_of_canonicalJson htext]
  simp only [Except.toOption, Option.bind_some, orderForJcs, authorizationOf, hlookup]

theorem authorization_of_dispatch {sha : String} {decision : Decision P} {id : OpaqueId}
    {event : Event P} (htext : canonicalJson P (Executor.dispatchPayload sha decision id) =
      .ok event.body.payloadCanonicalJson.1) : Event.authorization event = some id.1 :=
  authorization_of_payload (by simp) rfl htext

theorem authorization_of_result {sha : String} {decision : Decision P} {id : OpaqueId}
    {result : TransportResult} {event : Event P}
    (htext : canonicalJson P (Executor.resultPayload sha decision id result) =
      .ok event.body.payloadCanonicalJson.1) : Event.authorization event = some id.1 :=
  authorization_of_payload (by simp) rfl htext

/-! ## Completed receipts -/

/-- The RESULT of the authorization is among the events. -/
def HasResult (id : String) (events : List (Event P)) : Prop :=
  ∃ result ∈ events, result.body.kind = .result ∧ Event.authorization result = some id

/-- A receipt of a completed run covers no dispatch without its result. -/
def DispatchesFinished (s : Runtime P) : Prop :=
  ∀ receipt, s.receipt = some receipt → receipt.body.status = .completed →
    ∀ event ∈ Receipt.covered receipt s.ledger.events, event.body.kind = .dispatch →
      ∃ id, Event.authorization event = some id ∧ HasResult id (Receipt.covered receipt s.ledger.events)

/-- Concurrent submissions, dispatches and completions, in any order. -/
def dispatchesAndCompletion (d : Deployment P) : RunRule (runtimeService d) where
  starts _ call := match call with
    | .submitRaw _ | .dispatch .. | .complete => True
    | _ => False
  moves _ _ _ := True

/-- Concurrent calls of any kind. A running run is completed only while no lease is active and
none was dropped without a result. -/
def completedIdle (d : Deployment P) : RunRule (runtimeService d) where
  starts _ _ := True
  moves s op _ := op = .markCompleted → s.state.phase = .running →
    s.state.activeAuthorizations = ∅ ∧ s.history.dropped = 0

namespace CompletedDispatches

variable {d : Deployment P} {env : World} {t : ℕ} {s s' : Runtime P} {id : String}

/-- The result of the authorization is in the ledger and mirrored. -/
def Finished (id : String) (s : Runtime P) : Prop := HasResult id (s.ledger.events.take s.mirror.count)

/-- The authorization has its result, or the run has not completed without it. -/
def Tracked (id : String) (s : Runtime P) : Prop :=
  Finished id s ∨ s.state.phase = .killing ∨ s.state.phase = .killed ∨
    (s.state.phase = .running ∧ (id ∈ s.state.activeAuthorizations ∨ 0 < s.history.dropped))

/-- What holds at all times. -/
structure Inv (d : Deployment P) (s : Runtime P) : Prop where
  observed : EvidenceMirror.Observed d.manifest s.mirror
  tracked : ∀ event ∈ s.ledger.events, event.body.kind = .dispatch →
    ∃ id, Event.authorization event = some id ∧ Tracked id s

/-- What the code has established before an operation. -/
def Ready (s : Runtime P) : Op P → Prop
  | .commit kind payload _ _ => kind = .dispatch → s.state.phase = .running ∧
      ∃ (sha : String) (decision : Decision P) (id : OpaqueId),
        payload = Executor.dispatchPayload sha decision id ∧ id.1 ∈ s.state.activeAuthorizations
  | .settle lease _ _ => Finished lease.authorizationId s
  | _ => True

/-- What a waiting thread can count on. -/
structure Rely (t : ℕ) (s s' : Runtime P) : Prop where
  locked : s.stateLock = some t → s'.stateLock = some t ∧ s'.state = s.state
  finished : ∀ id, Finished id s → Finished id s'

/-! ## One operation -/

theorem HasResult.mono {events events' : List (Event P)} (h : HasResult id events)
    (hsub : events ⊆ events') : HasResult id events' := by
  obtain ⟨result, hmem, hresult⟩ := h
  exact ⟨result, hsub hmem, hresult⟩

theorem finished_mono (hevents : s.ledger.events <+: s'.ledger.events)
    (hcount : s.mirror.count ≤ s'.mirror.count) (h : Finished id s) : Finished id s' := by
  refine HasResult.mono h fun event hmem => ?_
  exact (hevents.take _).subset (List.take_subset_take_left _ hcount hmem)

theorem observed_commit (env : World) (kind : EventKind) (payload : Json)
    (requestId : Option String) (ns : Option ℤ) (h : EvidenceMirror.Observed d.manifest s.mirror) :
    EvidenceMirror.Observed d.manifest (s.commit d env kind payload requestId ns).1.mirror := by
  rcases commit_cases d env s kind payload requestId ns with ⟨_, heq⟩ |
    ⟨event, mirrored, outcome, mirror, -, hmirror, heq⟩
  · rw [heq]
    exact h
  · rw [heq]
    cases mirrored with
    | false =>
        obtain ⟨rfl, -⟩ := hmirror
        exact h
    | true => exact .observe h hmirror.1

theorem count_of_observe {mirror mirror' : EvidenceMirror} {event : Event P}
    (h : mirror.observe d.manifest event = .ok mirror') : mirror'.count = mirror.count + 1 := by
  obtain ⟨-, -, encoded, -, rfl⟩ := EvidenceMirror.observe_eq_ok.mp h
  rfl

theorem finished_commit (env : World) (kind : EventKind) (payload : Json)
    (requestId : Option String) (ns : Option ℤ) (h : Finished id s) :
    Finished id (s.commit d env kind payload requestId ns).1 := by
  rcases commit_cases d env s kind payload requestId ns with ⟨_, heq⟩ |
    ⟨event, mirrored, outcome, mirror, -, hmirror, heq⟩
  · rw [heq]
    exact h
  · rw [heq]
    refine finished_mono (List.prefix_append _ _) ?_ h
    cases mirrored with
    | false =>
        obtain ⟨rfl, -⟩ := hmirror
        exact le_rfl
    | true => exact (Nat.le_succ _).trans (count_of_observe hmirror.1).ge

theorem finished_exec {op : Op P} {r : op.Res} (hexec : exec d env t s op = some (s', r))
    (h : Finished id s) : Finished id s' := by
  by_cases hcommit : ∃ kind payload requestId ns, op = .commit kind payload requestId ns
  · obtain ⟨kind, payload, requestId, ns, rfl⟩ := hcommit
    simp only [exec, Option.some.injEq] at hexec
    have hfinished := finished_commit (d := d) env kind payload requestId ns h
    rwa [hexec] at hfinished
  · simp only [not_exists] at hcommit
    obtain ⟨hevents, hmirror⟩ := events_exec hexec hcommit
    rw [Finished, hevents, hmirror]
    exact h

/-- An event that was committed is covered by the mirror. -/
theorem mem_of_commit {kind : EventKind} {payload : Json} {requestId : Option String}
    {ns : Option ℤ} {event : Event P} (h : EvidenceMirror.Observed d.manifest s.mirror)
    (hcommit : s.commit d env kind payload requestId ns = (s', .ok event)) :
    event ∈ s'.ledger.events.take s'.mirror.count ∧ event.body.kind = kind ∧
      canonicalJson P payload = .ok event.body.payloadCanonicalJson.1 := by
  rcases commit_cases d env s kind payload requestId ns with ⟨_, heq⟩ |
    ⟨event', mirrored, outcome, mirror, happend, hmirror, heq⟩
  · rw [heq, Prod.mk.injEq] at hcommit
    cases hcommit.2
  · rw [heq, Prod.mk.injEq] at hcommit
    obtain ⟨rfl, houtcome⟩ := hcommit
    cases mirrored with
    | false =>
        obtain ⟨-, error, -, hrefused⟩ := hmirror
        rw [hrefused] at houtcome
        cases houtcome
    | true =>
        obtain ⟨hobserve, hok⟩ := hmirror
        obtain rfl : event' = event := Except.ok.inj (hok.symm.trans houtcome)
        obtain ⟨hpayload, hkind, -, hsequence⟩ := append_ok happend
        refine ⟨?_, hkind, hpayload⟩
        have hcount : mirror.count = s.mirror.count + 1 := count_of_observe hobserve
        -- The event's number is the length of the ledger for one and the count for the other.
        have hlast := (EvidenceMirror.Observed.observe h hobserve).last
        obtain ⟨-, -, encoded, -, hfields⟩ := EvidenceMirror.observe_eq_ok.mp hobserve
        rw [if_neg (by omega), ← hfields] at hlast
        have hlength : s.ledger.events.length = s.mirror.count := by
          have := Option.some.inj hlast.1
          dsimp only at this
          omega
        change event' ∈ (s.ledger.events ++ [event']).take mirror.count
        rw [List.take_of_length_le]
        · exact List.mem_append_right _ (List.mem_singleton_self _)
        · rw [List.length_append, List.length_singleton, hlength, hcount]

/-- An open dispatch stays open, or the run latches, unless its lease is settled or the run
completes. -/
theorem open_exec {op : Op P} {r : op.Res} (hexec : exec d env t s op = some (s', r))
    (hsettle : ∀ lease reserved bytes, op = .settle lease reserved bytes → id ≠ lease.authorizationId)
    (hcompleted : op ≠ .markCompleted) (hrunning : s.state.phase = .running)
    (hopen : id ∈ s.state.activeAuthorizations ∨ 0 < s.history.dropped) :
    s'.state.phase = .killing ∨ (s'.state.phase = .running ∧
      (id ∈ s'.state.activeAuthorizations ∨ 0 < s'.history.dropped)) := by
  have hlatch (state : RunState) (h : state.phase = .running) :
      state.latchKillLocked.phase = .killing := by
    rw [RunState.phase_latchKillLocked, if_pos h]
  cases op
  case markCompleted => exact absurd rfl hcompleted
  case commit kind payload requestId ns =>
    simp only [exec, Option.some.injEq] at hexec
    rcases commit_cases d env s kind payload requestId ns with ⟨_, heq⟩ |
      ⟨_, _, _, _, -, -, heq⟩ <;>
    · rw [heq, Prod.mk.injEq] at hexec
      obtain ⟨rfl, -⟩ := hexec
      exact .inr ⟨hrunning, hopen⟩
  case reserve body nowNs bytes =>
    simp only [exec, Option.ite_none_right_eq_some] at hexec
    obtain ⟨-, hexec⟩ := hexec
    rcases RunState.reserve_cases s.state body nowNs bytes with ⟨_, heq⟩ | ⟨_, heq⟩ |
      ⟨_, _, -, -, -, -, -, -, -, -, -, heq⟩ <;>
    · rw [heq] at hexec
      simp only [Option.some.injEq, Prod.mk.injEq] at hexec
      obtain ⟨rfl, -⟩ := hexec
      first
      | exact .inr ⟨hrunning, hopen⟩
      | exact .inl (hlatch _ hrunning)
      | exact .inr ⟨hrunning, hopen.imp_left fun h => (AList.mem_insert _).mpr (.inr h)⟩
  case prepareFinish lease egressBytes =>
    simp only [exec, Option.ite_none_right_eq_some] at hexec
    obtain ⟨-, hexec⟩ := hexec
    rcases RunState.prepareFinish_cases s.state lease egressBytes with ⟨_, heq⟩ | ⟨_, heq⟩ |
      ⟨_, -, -, -, heq⟩ <;>
    · rw [heq] at hexec
      simp only [Option.some.injEq, Prod.mk.injEq] at hexec
      obtain ⟨rfl, -⟩ := hexec
      first | exact .inr ⟨hrunning, hopen⟩ | exact .inl (hlatch _ hrunning)
  all_goals
    simp only [exec, onState_eq_some, Option.some.injEq, Prod.mk.injEq,
      Option.ite_none_right_eq_some] at hexec
  all_goals try split at hexec
  all_goals try split at hexec
  all_goals try simp only [Option.some.injEq, Prod.mk.injEq] at hexec
  all_goals first | obtain ⟨rfl, -⟩ := hexec | obtain ⟨-, rfl, -⟩ := hexec
  case admitRaw bytes ns =>
    unfold RunState.admitRaw
    dsimp only
    obtain ⟨window, count, hwindow⟩ :=
      RunState.openWindow_eq { s.state with observed := s.state.observed + 1 } ns
    rw [hwindow]
    split_ifs
    · exact .inr ⟨hrunning, hopen⟩
    · exact .inl (hlatch _ hrunning)
    · exact .inr ⟨hrunning, hopen⟩
  case latchKill => exact .inl (hlatch _ hrunning)
  case recordDecision verdict =>
    unfold RunState.recordDecision
    split_ifs <;> exact .inr ⟨hrunning, hopen⟩
  case rollback => exact .inl (hlatch _ hrunning)
  case failFinish => exact .inl (hlatch _ hrunning)
  case settle lease reserved bytes =>
    refine .inr ⟨hrunning, hopen.imp_left fun h => ?_⟩
    exact AList.mem_erase.mpr ⟨hsettle _ _ _ rfl, h⟩
  case abort lease =>
    refine .inr ⟨(RunState.phase_abortAuthorized _ _).trans hrunning, ?_⟩
    dsimp only
    unfold RunState.abortAuthorized
    cases hlookup : s.state.activeAuthorizations.lookup lease.authorizationId with
    | none => exact hopen.imp_right fun h => Nat.add_pos_left h _
    | some reserved => exact .inr (Nat.succ_pos _)
  case markKilled =>
    unfold RunState.markKilled
    rw [if_pos (by rw [hrunning]; exact ⟨by decide, by decide⟩)]
    exact .inr ⟨hrunning, hopen⟩
  all_goals exact .inr ⟨hrunning, hopen⟩

/-- A dispatch stays tracked. -/
theorem tracked_exec {op : Op P} {r : op.Res} (h : Tracked id s) (hready : Ready s op)
    (hmove : (completedIdle d).moves s op env) (hexec : exec d env t s op = some (s', r)) :
    Tracked id s' := by
  rcases h with hfinished | hkilling | hkilled | ⟨hrunning, hopen⟩
  · exact .inl (finished_exec hexec hfinished)
  · rcases phaseMove_exec hexec with heq | ⟨heq, -⟩ | ⟨-, heq⟩ | ⟨heq, -⟩
    · exact .inr (.inl (heq.symm.trans hkilling))
    · rw [hkilling] at heq
      cases heq
    · exact .inr (.inr (.inl heq))
    · rw [hkilling] at heq
      cases heq
  · exact .inr (.inr (.inl (killed_exec hexec hkilled)))
  · by_cases hcompleted : op = .markCompleted
    · -- Nothing is open, so nothing is left to show.
      obtain ⟨hactive, hdropped⟩ := hmove hcompleted hrunning
      rw [hactive, hdropped] at hopen
      exact hopen.elim (fun h => absurd h (AList.notMem_empty _)) fun h => absurd h (lt_irrefl 0)
    by_cases hsettle : ∃ lease reserved bytes, op = .settle lease reserved bytes ∧
        id = lease.authorizationId
    · obtain ⟨lease, reserved, bytes, rfl, rfl⟩ := hsettle
      exact .inl (finished_exec hexec hready)
    · have hother (lease : DispatchLease) (reserved bytes : ℤ)
          (heq : op = .settle lease reserved bytes) : id ≠ lease.authorizationId :=
        fun hid => hsettle ⟨lease, reserved, bytes, heq, hid⟩
      exact (open_exec hexec hother hcompleted hrunning hopen).elim (fun h => .inr (.inl h))
        fun h => .inr (.inr (.inr h))

theorem inv_exec {op : Op P} {r : op.Res} (h : Inv d s) (hready : Ready s op)
    (hmove : (completedIdle d).moves s op env) (hexec : exec d env t s op = some (s', r)) :
    Inv d s' := by
  have hold (event : Event P) (hmem : event ∈ s.ledger.events)
      (hkind : event.body.kind = .dispatch) :
      ∃ id, Event.authorization event = some id ∧ Tracked id s' := by
    obtain ⟨id, hid, htracked⟩ := h.tracked event hmem hkind
    exact ⟨id, hid, tracked_exec htracked hready hmove hexec⟩
  by_cases hcommit : ∃ kind payload requestId ns, op = .commit kind payload requestId ns
  · obtain ⟨kind, payload, requestId, ns, rfl⟩ := hcommit
    simp only [exec, Option.some.injEq] at hexec
    have hobserved := observed_commit env kind payload requestId ns h.observed
    rw [hexec] at hobserved
    refine ⟨hobserved, fun event hmem hkind => ?_⟩
    rcases commit_cases d env s kind payload requestId ns with ⟨_, heq⟩ |
      ⟨event', mirrored, outcome, mirror, happend, -, heq⟩
    · rw [heq, Prod.mk.injEq] at hexec
      obtain ⟨rfl, -⟩ := hexec
      exact h.tracked event hmem hkind
    · rw [heq, Prod.mk.injEq] at hexec
      obtain ⟨rfl, -⟩ := hexec
      rcases List.mem_append.mp hmem with hmem | hmem
      · exact hold event hmem hkind
      · -- The new dispatch is under an active lease.
        obtain rfl := List.mem_singleton.mp hmem
        obtain ⟨htext, hsame, -, -⟩ := append_ok happend
        obtain ⟨hrunning, sha, decision, id, rfl, hactive⟩ := hready (hsame.symm.trans hkind)
        exact ⟨id.1, authorization_of_dispatch htext, .inr (.inr (.inr ⟨hrunning, .inl hactive⟩))⟩
  · simp only [not_exists] at hcommit
    obtain ⟨hevents, hmirror⟩ := events_exec hexec hcommit
    refine ⟨by rw [hmirror]; exact h.observed, fun event hmem hkind => ?_⟩
    rw [hevents] at hmem
    exact hold event hmem hkind

variable (d) in
def discipline : Discipline (completedIdle d) where
  inv := Inv d
  ready _ := Ready
  rely := Rely
  rely_refl _ _ := ⟨fun h => ⟨h, rfl⟩, fun _ h => h⟩
  rely_trans h h' := ⟨fun hlock => by
      obtain ⟨hlock₁, hstate₁⟩ := h.locked hlock
      obtain ⟨hlock₂, hstate₂⟩ := h'.locked hlock₁
      exact ⟨hlock₂, hstate₂.trans hstate₁⟩,
    fun id hfinished => h'.finished id (h.finished id hfinished)⟩
  act_inv h hready hmove hexec := inv_exec h hready hmove hexec
  act_rely _ _ _ hexec _ hu := ⟨lock_exec hexec hu, fun _ => finished_exec hexec⟩

/-! ## The code -/

/-- Operations that are always ready. -/
def Op.Free : Op P → Prop
  | .commit kind _ _ _ => kind ≠ .dispatch
  | .settle .. => False
  | _ => True

theorem ready_of_free {op : Op P} (h : Op.Free op) : Ready s op := by
  cases op
  case commit => exact fun hkind => absurd hkind h
  all_goals first | exact trivial | exact absurd h id

theorem free_of_aside {op : Op P} (h : op.Aside) : Op.Free op := by
  cases op <;> first | exact trivial | exact absurd h id

theorem free_event (kind : EventKind) (payload : Json) (requestId : Option String) (ns : Option ℤ)
    (h : kind = .violation ∨ kind = .overloadSummary ∨ kind = .killAcknowledged) :
    Op.Free (.commit kind payload requestId ns : Op P) := by
  rcases h with rfl | rfl | rfl <;> exact nofun

theorem clean_of_free {α : Type} {p : Prog P α} (hp : p.All Op.Free) : (discipline d).Clean p :=
  fun _ _ => safe_of_all (K := fun _ => True) (fun _ _ => trivial)
    (fun hop _ _ => ready_of_free hop) (fun _ _ _ _ _ => trivial) hp trivial

/-- The thread is inside the section that begins a dispatch. -/
structure Begun (t : ℕ) (id : OpaqueId) (lease : DispatchLease) (s : Runtime P) : Prop where
  locked : s.stateLock = some t
  phase : s.state.phase = .running
  active : id.1 ∈ s.state.activeAuthorizations
  lease : lease.authorizationId = id.1

theorem begun_of_reserve {body : DecisionBody} {id : OpaqueId} {ns bytes : ℤ}
    {lease : DispatchLease} (hid : body.authorizationId = some id)
    (hexec : exec d env t s (.reserve body ns bytes) = some (s', .ok lease)) :
    Begun t id lease s' := by
  have hgranted := granted_of_reserve hexec
  obtain ⟨id', hid', hlease⟩ := hgranted.named
  obtain rfl : id' = id := Option.some.inj (hid'.symm.trans hid)
  have hactive := AList.lookup_isSome.mp (Option.isSome_of_eq_some hgranted.active)
  rw [hlease] at hactive
  exact ⟨hgranted.locked, hgranted.running, hactive, hlease⟩

theorem safe_beginAuthorized {action : Action P} {decision : Decision P} {id : OpaqueId}
    (hid : decision.body.authorizationId = some id) (nowNs bytes : ℤ) :
    (discipline d).Safe t (fun outcome _ => ∀ lease, outcome = .ok lease →
      lease.authorizationId = id.1)
      (Executor.beginAuthorized action decision id nowNs bytes) s := by
  have hreserve : (discipline d).Safe t (fun outcome s => ∀ lease, outcome = .ok lease →
      Begun t id lease s)
      (raising (perform (.reserve decision.body nowNs bytes)) : Prog P DispatchLease) s := by
    refine safe_act fun s₁ _ _ => ⟨trivial, fun env s₂ r _ hexec _ => safe_ofExcept.mpr ?_⟩
    rintro lease rfl
    exact begun_of_reserve hid hexec
  refine safe_seq hreserve (fun lease s₁ hbegun => ?_) fun error _ _ => fun _ heq => nomatch heq
  have h := hbegun lease rfl
  have hcommit : (discipline d).Safe t (fun _ _ => True) (do
      let sha ← Program.ofExcept action.digest
      raising (perform (.commit .dispatch (Executor.dispatchPayload sha decision id)
        (some action.requestId.1) none)) : Prog P (Event P)) s₁ := by
    cases action.digest with
    | error error => exact trivial
    | ok sha =>
        refine safe_act fun s₂ hrely _ => ⟨fun _ => ?_, fun env s₃ r _ _ _ => ?_⟩
        · have hstate := (hrely.locked h.locked).2
          rw [hstate]
          exact ⟨h.phase, sha, decision, id, rfl, h.active⟩
        · exact safe_ofExcept.mpr trivial
  refine safe_attempt_seq hcommit fun outcome s₂ _ => ?_
  cases outcome with
  | ok event =>
      refine safe_act fun _ _ _ => ⟨trivial, fun _ _ _ _ _ _ => ?_⟩
      rintro _ ⟨⟩
      exact h.lease
  | error error =>
      exact safe_act fun _ _ _ => ⟨trivial, fun _ _ _ _ _ _ _ heq => nomatch heq⟩

theorem clean_finishAuthorized {action : Action P} {decision : Decision P} {id : OpaqueId}
    {lease : DispatchLease} (hlease : lease.authorizationId = id.1) (result : TransportResult) :
    (discipline d).Clean (Executor.finishAuthorized action decision id lease result) := by
  refine clean_bind (clean_of_free (all_raising (all_perform trivial))) fun reserved => ?_
  intro t s
  have hcommit : (discipline d).Safe t (fun outcome s => ∀ event, outcome = .ok event →
      Finished id.1 s) (do
      let sha ← Program.ofExcept action.digest
      raising (perform (.commit .result (Executor.resultPayload sha decision id result)
        (some action.requestId.1) none)) : Prog P (Event P)) s := by
    cases action.digest with
    | error error => exact fun _ heq => nomatch heq
    | ok sha =>
        refine safe_act fun s₁ _ hinv => ⟨nofun, fun env s₂ r _ hexec _ => safe_ofExcept.mpr ?_⟩
        rintro event rfl
        simp only [exec, Option.some.injEq] at hexec
        obtain ⟨hmem, hkind, htext⟩ := mem_of_commit hinv.observed hexec
        exact ⟨event, hmem, hkind, authorization_of_result htext⟩
  refine safe_attempt_seq hcommit fun outcome s₁ hfinished => ?_
  cases outcome with
  | ok event =>
      refine safe_act fun s₂ hrely _ => ⟨?_, fun _ _ _ _ _ _ => trivial⟩
      change Finished lease.authorizationId s₂
      rw [hlease]
      exact hrely.finished _ (hfinished event rfl)
  | error error => exact safe_act fun _ _ _ => ⟨trivial, fun _ _ _ _ _ _ => trivial⟩

theorem clean_attemptDispatch {action : Action P} {decision : Decision P} {id : OpaqueId}
    (hid : decision.body.authorizationId = some id) (nowNs bytes : ℤ) :
    (discipline d).Clean (Executor.attemptDispatch action decision id nowNs bytes) := by
  have hfailed (lease : Option DispatchLease) (error : PyError) :
      (discipline d).Clean (Executor.failed action id lease error) :=
    clean_of_free (all_failed (fun _ => free_of_aside) free_event _ _ _ _)
  intro t s
  refine safe_attempt_seq (safe_beginAuthorized hid nowNs bytes) fun outcome s₁ hlease => ?_
  cases outcome with
  | error error => exact hfailed none error t s₁
  | ok lease =>
      refine clean_handle ?_ (hfailed (some lease)) t s₁
      refine clean_bind (clean_of_free (all_raising (all_perform trivial))) fun secret => ?_
      refine clean_bind (clean_of_free (all_raising (all_perform trivial))) fun result => ?_
      refine clean_bind (clean_ofExcept _) fun _ => ?_
      exact clean_bind (clean_finishAuthorized (hlease lease rfl) result) fun _ => clean_ret _

theorem clean_dispatch (action : Action P) (decision : Decision P) (nowNs : ℤ) :
    (discipline d).Clean (Executor.dispatch d action decision nowNs) := by
  refine clean_bind (clean_ofExcept _) fun _ => clean_bind (clean_ofExcept _) fun _ => ?_
  refine clean_bind (clean_ofExcept _) fun rule => ?_
  cases hid : decision.body.authorizationId with
  | none => exact clean_raise _
  | some id =>
      refine clean_bind (clean_of_free (all_raising (all_perform trivial))) fun _ => ?_
      exact clean_finalize (clean_attemptDispatch hid _ _) (clean_of_free (all_perform trivial))

theorem covers : (discipline d).Covers fun _ _ _ => True := by
  have haside := fun (op : Op P) (h : op.Aside) => free_of_aside h
  have hplain : PlainReady (discipline d) := by
    intro op hop t s _
    refine ready_of_free (s := s) ?_
    cases op <;> first | exact trivial | exact absurd hop id
  refine covers_of_clean (fun call => ?_) (fun call outcome s h => ?_) fun call outcome s u => ?_
  · cases call with
    | submitRaw raw =>
        refine clean_map (clean_of_free (all_submitRaw_of haside free_event raw ?_ fun _ => trivial))
        rintro _ _ _ _ (rfl | rfl) <;> exact nofun
    | dispatch action decision nowNs => exact clean_map (clean_dispatch action decision nowNs)
    | failClosed reason requestId =>
        exact clean_map (clean_of_free (all_failClosed haside free_event reason requestId))
    | enforceRuntimeDeadline ns =>
        exact clean_map (clean_of_free (all_enforceRuntimeDeadline haside free_event d ns trivial))
    | contain trigger ns => exact clean_map (clean_of_free (all_containment haside free_event trigger ns))
    | emergencyIsolate => exact clean_map (clean_of_free (all_emergencyIsolate haside))
    | complete => exact clean_map (clean_complete hplain)
    | receipt status => exact clean_map (clean_receipt hplain status)
  · dsimp only [runtimeService]
    unfold retire
    split
    · exact ⟨h.observed, h.tracked⟩
    · exact h
  · dsimp only [runtimeService]
    unfold retire
    split
    · exact ⟨fun hlock => ⟨hlock, rfl⟩, fun _ h => h⟩
    · exact (discipline d).rely_refl u s

end CompletedDispatches

/-- In every interleaving of any calls in which a running run is completed only while no lease
is active and none was dropped without a result, a completed receipt covers the result of every
dispatch that it covers. -/
theorem dispatchesFinished_of_reachable (P : Platform) (d : Deployment P)
    (witness : TransparencyWitness P) (c : Config (runtimeService d))
    (h : Reachable (completedIdle d) (Runtime.init d witness) c) : DispatchesFinished c.shared := by
  intro receipt hreceipt hstatus event hevent hkind
  have hany : Reachable (Barrier.anyRun d) (Runtime.init d witness) c :=
    Reachable.mono (fun _ _ _ => trivial) (fun _ _ _ _ => trivial) h
  have hstored := stored_of_reachable hany hreceipt
  have hinit : CompletedDispatches.Inv d (Runtime.init d witness) := ⟨.start, fun _ h => nomatch h⟩
  have hinv := invariant_of_reachable CompletedDispatches.covers hinit h
  have hcovered : Receipt.covered receipt c.shared.ledger.events =
      c.shared.ledger.events.take c.shared.mirror.count := by
    rw [Receipt.covered, hstored.count, Int.toNat_natCast]
  obtain ⟨id, hid, htracked⟩ := hinv.tracked event (List.mem_of_mem_take hevent) hkind
  refine ⟨id, hid, ?_⟩
  rw [hcovered]
  rcases htracked with hfinished | hphase | hphase | ⟨hphase, -⟩
  · exact hfinished
  all_goals
    rw [hstored.completed hstatus] at hphase
    cases hphase

/-! ## A completion that does not wait -/

section Unfinished

open Reference

theorem completable_of_inflight {manifest : Manifest platform} {s : Runtime platform}
    (h : Inflight manifest s) : Completable s := by
  obtain ⟨window, count, policy, ledger, mirror, history, hs⟩ := h.shape
  rw [hs]
  exact ⟨rfl, rfl, rfl, rfl, rfl, rfl, rfl, ⟨(by decide : (0 : ℤ) + 1 ≤ maxSafeInteger), le_rfl,
    le_rfl, le_rfl, le_rfl, ⟨le_rfl, (by decide : (0 : ℤ) ≤ 0 + 1)⟩, le_rfl, le_rfl,
    (by decide : (0 : ℤ) + 0 ≤ 0 + 1), le_rfl, (by decide : (0 : ℤ) ≤ maxSafeInteger)⟩⟩

/-- While the transport of a dispatch is on its way another thread completes the run. -/
theorem completed_with_unfinished_dispatch :
    ¬ ∀ (P : Platform) (d : Deployment P) (witness : TransparencyWitness P)
      (c : Config (runtimeService d)),
      Reachable (dispatchesAndCompletion d) (Runtime.init d witness) c →
      DispatchesFinished c.shared := by
  intro hclaim
  obtain ⟨manifest, hm⟩ := exists_signed
  obtain ⟨s₁, decision, code, hreach, -, hinflight⟩ := exists_reachable_inflight
    (dispatchesAndCompletion (deployment manifest)) hm (fun _ _ => trivial) (fun _ _ _ _ => trivial)
    fun _ _ _ _ => trivial
  -- The other thread runs `complete` to its end.
  obtain ⟨s₂, w, receipt, hends, hreceipt, hkept, hcount, -, -, hstatus⟩ := exists_completed
    (⟨fun _ _ => True, fun _ _ _ => True⟩ : RunRule (watchedService (deployment manifest))) 1 .start
    (completable_of_inflight hinflight) (fun _ _ _ _ _ => trivial) hinflight.healthy
  have hcompleted : Runs (dispatchesAndCompletion (deployment manifest)) 1 s₁
      (Supervisor.complete (deployment manifest)) s₂ (.ret receipt) :=
    Runs.erase (fun _ _ _ _ => trivial) hends
  have hcomplete : (dispatchesAndCompletion (deployment manifest)).starts s₁ .complete := trivial
  have hsecond := hreach.trans (steps_call (t := 1) rfl hcomplete (Runs.bind hcompleted))
  obtain ⟨request, decided, event, hevents, hrequest, hdecided, hdispatch⟩ := hinflight.dispatched
  have hcovered : Receipt.covered receipt s₂.ledger.events = [request, decided, event] := by
    rw [Receipt.covered, hcount, hkept, Int.toNat_natCast, List.take_length, hevents]
  have hfinished : DispatchesFinished s₂ := hclaim _ _ _ _ hsecond
  obtain ⟨id, -, result, hmem, hresult, -⟩ :=
    hfinished receipt hreceipt hstatus event (by simp [hcovered]) hdispatch
  rw [hcovered] at hmem
  simp only [List.mem_cons, List.not_mem_nil, or_false] at hmem
  rcases hmem with rfl | rfl | rfl
  · rw [hrequest] at hresult
    cases hresult
  · rw [hdecided] at hresult
    cases hresult
  · rw [hdispatch] at hresult
    cases hresult

/-- A run that completes after its dispatch has returned. -/
theorem dispatchesFinished_completed : ∃ (manifest : Manifest platform)
    (c : Config (runtimeService (deployment manifest))) (receipt : Receipt platform),
    Reachable (completedIdle (deployment manifest))
      (Runtime.init (deployment manifest) Reference.witness) c ∧
    c.shared.receipt = some receipt ∧ receipt.body.status = .completed ∧
    (∃ event ∈ Receipt.covered receipt c.shared.ledger.events, event.body.kind = .dispatch) ∧
    DispatchesFinished c.shared := by
  obtain ⟨manifest, hm⟩ := exists_signed
  obtain ⟨s₁, s₂, receipt, hfinished, hreach, hreceipt, hkept, hcount, -, hstatus⟩ :=
    exists_reachable_completed (completedIdle (deployment manifest)) hm (fun _ _ => trivial)
      (fun s op hop _ => by
        rintro rfl
        rcases hop with hop | ⟨_, hop⟩ <;> exact hop.elim)
      (fun s op _ hmark heq _ => by
        have hfinished := hmark heq
        refine ⟨?_, hfinished.dropped⟩
        obtain ⟨window, count, policy, ledger, mirror, history, hs⟩ := hfinished.shape
        rw [hs]
        rfl)
  obtain ⟨request, decided, dispatched, returned, hevents, -, -, hdispatch, -⟩ := hfinished.answered
  refine ⟨manifest, _, receipt, hreach, hreceipt, hstatus, ⟨dispatched, ?_, hdispatch⟩,
    dispatchesFinished_of_reachable _ _ _ _ hreach⟩
  change dispatched ∈ s₂.ledger.events.take receipt.body.eventCount.1.toNat
  rw [hcount, hkept, Int.toNat_natCast, List.take_length, hevents]
  simp

end Unfinished

end Containment
