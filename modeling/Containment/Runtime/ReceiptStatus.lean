/-
# What a stored receipt says

A receipt is stored once, after the ledger was sealed. Its status is that of a phase which
is final, and its event count is that of a mirror which no longer changes. So in every run a
stored receipt agrees with the state beside it, whatever else the threads do.
-/

import Containment.Reference.Factory
import Containment.Runtime.Barrier
import Containment.Runtime.ReceiptCounts
import Containment.Runtime.SideCode

namespace Containment

open Json Concurrency Discipline

variable {P : Platform} {d : Deployment P}

/-! ## The operations of a submission and of a dispatch -/

/-- The operations of the two sections of a dispatch of the decision, and its end. -/
def Op.OfDispatch (decision : Decision P) : Op P → Prop
  | .reserve body _ _ => body = decision.body
  | .confirm | .rollback _ | .prepareFinish .. | .settle .. | .failFinish | .unregister _ => True
  | .commit kind _ _ _ => kind = .dispatch ∨ kind = .result
  | _ => False

section Operations

variable {ok : Op P → Prop} (haside : ∀ op : Op P, op.Aside → ok op)
  (hevent : ∀ kind payload requestId ns, kind = .violation ∨ kind = .overloadSummary ∨
    kind = .killAcknowledged → ok (.commit kind payload requestId ns))
include haside hevent

theorem all_dispatch_of (action : Action P) (decision : Decision P) (nowNs : ℤ)
    (hsection : ∀ op : Op P, op.OfDispatch decision → ok op) :
    (Executor.dispatch d action decision nowNs).All ok := by
  have hfailed (id : OpaqueId) (lease : Option DispatchLease) (error : PyError) :
      (Executor.failed action id lease error).All ok := all_failed haside hevent action id lease error
  refine all_bind (all_ofExcept _) fun _ => all_bind (all_ofExcept _) fun _ => ?_
  refine all_bind (all_ofExcept _) fun rule => ?_
  cases decision.body.authorizationId with
  | none => exact trivial
  | some id =>
      refine all_bind (all_raising (all_perform (haside _ trivial))) fun _ => ?_
      refine all_finalize (all_bind (all_attempt ?_) fun outcome => ?_) (all_perform (hsection _ trivial))
      · refine all_bind (all_raising (all_perform (hsection _ rfl))) fun lease => ?_
        refine all_bind (all_attempt (all_bind (all_ofExcept _) fun sha => ?_)) fun outcome => ?_
        · exact all_raising (all_perform (hsection _ (.inl rfl)))
        · cases outcome with
          | ok event => exact all_bind (all_perform (hsection _ trivial)) fun _ => trivial
          | error error => exact all_bind (all_perform (hsection _ trivial)) fun _ => trivial
      · cases outcome with
        | error error => exact hfailed id none error
        | ok lease =>
            refine all_handle ?_ fun error => hfailed id (some lease) error
            refine all_bind (all_raising (all_perform (haside _ trivial))) fun secret => ?_
            refine all_bind (all_raising (all_perform (haside _ trivial))) fun result => ?_
            refine all_bind (all_ofExcept _) fun _ => all_bind ?_ fun _ => trivial
            refine all_bind (all_raising (all_perform (hsection _ trivial))) fun reserved => ?_
            refine all_bind (all_attempt (all_bind (all_ofExcept _) fun sha => ?_)) fun outcome => ?_
            · exact all_raising (all_perform (hsection _ (.inr rfl)))
            · cases outcome with
              | ok event => exact all_perform (hsection _ trivial)
              | error error => exact all_bind (all_perform (hsection _ trivial)) fun _ => trivial

theorem all_submitRaw_of (raw : Bytes)
    (hcommit : ∀ kind payload requestId ns, kind = .request ∨ kind = .decision →
      ok (.commit kind payload requestId ns))
    (hrecord : ∀ verdict, ok (.recordDecision verdict)) : (Gateway.submitRaw d raw).All ok := by
  have hgateway {kind : EventKind} {payload : Json} {requestId : Option String} {ns : Option ℤ}
      (hkind : kind = .request ∨ kind = .decision) :
      (Gateway.commit kind payload requestId ns : Prog P (Event P)).All ok :=
    all_handle (all_raising (all_perform (hcommit _ _ _ _ hkind))) fun _ =>
      all_bind (all_emergencyIsolate haside) fun _ => trivial
  refine all_bind (all_monotonicNow haside) fun admittedNs => ?_
  split_ifs
  · exact all_rejectLate haside hevent _
  refine all_bind (all_perform (haside _ trivial)) fun admission => ?_
  cases admission with
  | droppedAfterKill => exact trivial
  | firstOverload => exact all_rejectOverload haside hevent _ _
  | admitted =>
      dsimp only
      cases Action.fromWire P raw with
      | error _ => exact all_rejectMalformed haside hevent _ _
      | ok action =>
          refine all_bind (all_ofExcept _) fun sha => ?_
          refine all_bind (hgateway (.inl rfl)) fun request => ?_
          refine all_bind (all_monotonicNow haside) fun decidedNs => ?_
          refine all_bind (all_wallNow haside) fun wall => ?_
          refine all_bind (all_ofExcept _) fun decidedAt => ?_
          refine all_bind (all_perform (haside _ trivial)) fun result => ?_
          refine all_bind (all_latchOnKill haside _) fun _ => ?_
          refine all_bind (all_perform (haside _ trivial)) fun epoch => ?_
          refine all_bind (all_authorization haside d _ _) fun capability => ?_
          refine all_bind (all_ofExcept _) fun decision => ?_
          refine all_bind (hgateway (.inr rfl)) fun event => ?_
          refine all_bind (all_perform (hrecord _)) fun _ => ?_
          exact all_conclude haside hevent _ _ _ _

end Operations

/-! ## Stored receipts -/

/-- What a stored receipt has in common with the state beside it. -/
structure Stored (receipt : Receipt P) (s : Runtime P) : Prop where
  isSealed : s.ledger.isSealed = true
  count : receipt.body.eventCount.1 = s.mirror.count
  completed : receipt.body.status = .completed → s.state.phase = .completed
  killed : receipt.body.status = .killed → s.state.phase = .killed

namespace ReceiptStatus

variable {env : World} {t : ℕ} {s s' : Runtime P}

def Inv (s : Runtime P) : Prop := ∀ receipt, s.receipt = some receipt → Stored receipt s

def Ready (s : Runtime P) : Op P → Prop
  | .storeReceipt receipt => Stored receipt s
  | _ => True

/-- What is final stays as it is. -/
structure Final (s s' : Runtime P) : Prop where
  isSealed : s.ledger.isSealed = true → s'.ledger.isSealed = true ∧ s'.mirror = s.mirror
  completed : s.state.phase = .completed → s'.state.phase = .completed
  killed : s.state.phase = .killed → s'.state.phase = .killed

theorem stored_final {receipt : Receipt P} (h : Stored receipt s) (hfinal : Final s s') :
    Stored receipt s' := by
  obtain ⟨hsealed, hmirror⟩ := hfinal.isSealed h.isSealed
  exact ⟨hsealed, by rw [hmirror, h.count], fun hstatus => hfinal.completed (h.completed hstatus),
    fun hstatus => hfinal.killed (h.killed hstatus)⟩

/-- Being completed is final. -/
theorem completed_exec {op : Op P} {r : op.Res} (h : exec d env t s op = some (s', r))
    (hcompleted : s.state.phase = .completed) : s'.state.phase = .completed := by
  rcases phaseMove_exec h with heq | ⟨heq, -⟩ | ⟨heq, -⟩ | ⟨heq, -⟩
  · rw [← heq, hcompleted]
  all_goals
    rw [hcompleted] at heq
    cases heq

/-- A sealed ledger takes no event. -/
theorem sealed_exec {op : Op P} {r : op.Res} (h : exec d env t s op = some (s', r))
    (hsealed : s.ledger.isSealed = true) : s'.ledger = s.ledger ∧ s'.mirror = s.mirror := by
  by_cases hcommit : ∃ kind payload requestId ns, op = .commit kind payload requestId ns
  · obtain ⟨kind, payload, requestId, ns, rfl⟩ := hcommit
    simp only [exec, Option.some.injEq] at h
    rcases commit_cases d env s kind payload requestId ns with ⟨_, heq⟩ |
      ⟨event, _, _, _, happend, -, -⟩
    · rw [heq, Prod.mk.injEq] at h
      obtain ⟨rfl, -⟩ := h
      exact ⟨rfl, rfl⟩
    · have hunsealed := ReceiptCounts.unsealed_of_append happend
      rw [hsealed] at hunsealed
      cases hunsealed
  · simp only [not_exists] at hcommit
    by_cases hseal : op = .seal
    · subst hseal
      simp only [exec, Option.some.injEq, Prod.mk.injEq] at h
      obtain ⟨rfl, -⟩ := h
      exact ⟨by rw [← hsealed], rfl⟩
    · exact ReceiptCounts.ledger_exec h hcommit hseal

theorem final_exec {op : Op P} {r : op.Res} (h : exec d env t s op = some (s', r)) : Final s s' where
  isSealed hsealed := by
    obtain ⟨hledger, hmirror⟩ := sealed_exec h hsealed
    exact ⟨by rw [hledger, hsealed], hmirror⟩
  completed := completed_exec h
  killed := killed_exec h

/-- Only one operation stores a receipt. -/
theorem receipt_exec {op : Op P} {r : op.Res} (h : exec d env t s op = some (s', r))
    (hop : ∀ receipt, op ≠ .storeReceipt receipt) : s'.receipt = s.receipt := by
  cases op
  case storeReceipt receipt => exact absurd rfl (hop receipt)
  case commit kind payload requestId ns =>
    simp only [exec, Option.some.injEq] at h
    rcases commit_cases d env s kind payload requestId ns with ⟨_, heq⟩ |
      ⟨_, _, _, _, -, -, heq⟩ <;>
    · rw [heq, Prod.mk.injEq] at h
      obtain ⟨rfl, -⟩ := h
      rfl
  all_goals
    simp only [exec, onState_eq_some, Option.some.injEq, Prod.mk.injEq,
      Option.ite_none_right_eq_some] at h
  all_goals try split at h
  all_goals try split at h
  all_goals try simp only [Option.some.injEq, Prod.mk.injEq] at h
  all_goals
    first
    | (obtain ⟨rfl, -⟩ := h; rfl)
    | (obtain ⟨-, rfl, -⟩ := h; rfl)

theorem inv_exec {op : Op P} {r : op.Res} (h : Inv s) (hready : Ready s op)
    (hexec : exec d env t s op = some (s', r)) : Inv s' := by
  intro receipt hreceipt
  by_cases hstore : ∃ receipt', op = .storeReceipt receipt'
  · obtain ⟨receipt', rfl⟩ := hstore
    have hfinal := final_exec hexec
    simp only [exec, Option.some.injEq, Prod.mk.injEq] at hexec
    obtain ⟨rfl, -⟩ := hexec
    obtain rfl : receipt' = receipt := Option.some.inj hreceipt
    exact stored_final hready hfinal
  · simp only [not_exists] at hstore
    rw [receipt_exec hexec hstore] at hreceipt
    exact stored_final (h receipt hreceipt) (final_exec hexec)

variable (d) in
def discipline : Discipline (Barrier.anyRun d) where
  inv := Inv
  ready _ := Ready
  rely _ := Final
  rely_refl _ _ := ⟨fun h => ⟨h, rfl⟩, id, id⟩
  rely_trans h h' := ⟨fun hsealed => by
      obtain ⟨hsealed₁, hmirror₁⟩ := h.isSealed hsealed
      obtain ⟨hsealed₂, hmirror₂⟩ := h'.isSealed hsealed₁
      exact ⟨hsealed₂, hmirror₂.trans hmirror₁⟩,
    fun hphase => h'.completed (h.completed hphase), fun hphase => h'.killed (h.killed hphase)⟩
  act_inv h hready _ hexec := inv_exec h hready hexec
  act_rely _ _ _ hexec _ _ := final_exec hexec

/-! ## The code of the receipt -/

/-- Operations other than the storing of a receipt. -/
def Op.Free : Op P → Prop
  | .storeReceipt _ => False
  | _ => True

theorem free_of_aside {op : Op P} (h : op.Aside) : Op.Free op := by
  cases op <;> first | exact trivial | exact absurd h id

theorem free_event (kind : EventKind) (payload : Json) (requestId : Option String) (ns : Option ℤ)
    (_ : kind = .violation ∨ kind = .overloadSummary ∨ kind = .killAcknowledged) :
    Op.Free (.commit kind payload requestId ns : Op P) := trivial

/-- An assertion about what is final. -/
structure FinalAssertion (I : Runtime P → Prop) : Prop where
  kept : ∀ {s s'}, Final s s' → I s → I s'

theorem safe_free {α : Type} {I : Runtime P → Prop} (hI : FinalAssertion I) {p : Prog P α}
    (hp : p.All Op.Free) (h : I s) : (discipline d).Safe t (fun _ s => I s) p s :=
  safe_of_all (D := discipline d) (K := I) (fun hrely => hI.kept hrely)
    (fun {s op} hop _ _ => by cases op <;> first | exact trivial | exact absurd hop id)
    (fun _ _ hexec _ => hI.kept (final_exec hexec)) hp h

theorem clean_of_free {α : Type} {p : Prog P α} (hp : p.All Op.Free) : (discipline d).Clean p :=
  fun _ _ => safe_mono (fun _ _ _ => trivial) (safe_free ⟨fun _ _ => trivial⟩ hp trivial)

theorem status_of_receiptBody {status : RunStatus} {state : RunState} {mirror : EvidenceMirror}
    {finishedAt : Datetime} {finishedNs : ℤ} {ack : Option (KillAcknowledgement P)}
    {checkpoint : WitnessCheckpoint P} {body : ReceiptBody P}
    (h : Supervisor.receiptBody d status state mirror finishedAt finishedNs ack checkpoint =
      .ok body) : body.status = status ∧ body.killAcknowledgement = ack := by
  simp only [Supervisor.receiptBody, bind_eq_ok] at h
  obtain ⟨_, -, _, -, _, -, _, -, _, -, _, -, _, -, _, -, _, -, _, -, _, -, _, -, _, -, _, -, _, -,
    hmake⟩ := h
  have hfields := ReceiptCounts.fields_of_receiptMake hmake
  exact ⟨congrArg ReceiptBodyFields.status hfields,
    congrArg ReceiptBodyFields.killAcknowledgement hfields⟩

/-- A status other than a failure is the phase's. -/
theorem phase_of_derivedStatus {emergency : Bool} {phase : RunPhase} {derived : RunStatus}
    (h : Supervisor.derivedStatus emergency phase = .ok derived) :
    (derived = .completed → phase = .completed) ∧ (derived = .killed → phase = .killed) := by
  unfold Supervisor.derivedStatus at h
  split_ifs at h with hopen hemergency hkilled
  · obtain rfl := Except.ok.inj h
    exact ⟨nofun, nofun⟩
  · obtain rfl := Except.ok.inj h
    exact ⟨nofun, fun _ => hkilled⟩
  · obtain rfl := Except.ok.inj h
    refine ⟨fun _ => ?_, nofun⟩
    cases phase <;> simp_all

/-- The phase of the snapshot, if it is a final one, is the run's. -/
structure Snapped (state : RunState) (s : Runtime P) : Prop where
  completed : state.phase = .completed → s.state.phase = .completed
  killed : state.phase = .killed → s.state.phase = .killed

theorem final_snapped (state : RunState) : FinalAssertion (P := P) (Snapped state) :=
  ⟨fun hfinal h => ⟨fun hphase => hfinal.completed (h.completed hphase),
    fun hphase => hfinal.killed (h.killed hphase)⟩⟩

/-- The same, once the ledger is sealed and perhaps the mirror read. -/
structure Closed (state : RunState) (mirror : Option EvidenceMirror) (s : Runtime P) : Prop where
  snapped : Snapped state s
  isSealed : s.ledger.isSealed = true
  mirror : ∀ found ∈ mirror, s.mirror = found

theorem final_closed (state : RunState) (mirror : Option EvidenceMirror) :
    FinalAssertion (P := P) (Closed state mirror) where
  kept hfinal h := by
    obtain ⟨hsealed, hmirror⟩ := hfinal.isSealed h.isSealed
    exact ⟨(final_snapped state).kept hfinal h.snapped, hsealed,
      fun found hfound => hmirror.trans (h.mirror found hfound)⟩

theorem clean_receiptFresh (status : Option RunStatus) :
    (discipline d).Clean (Supervisor.receiptFresh d status) := by
  have haside := fun (op : Op P) (h : op.Aside) => free_of_aside h
  intro t s
  have hsnapshot : (discipline d).Safe t
      (fun outcome s => ∀ state, outcome = .ok state → Snapped state s)
      (perform .snapshot : Prog P RunState) s := by
    refine safe_act fun s₁ _ _ => ⟨trivial, fun env s₂ state _ hexec _ => ?_⟩
    rintro _ ⟨⟩
    simp only [exec, onState_eq_some] at hexec
    obtain ⟨-, rfl, rfl⟩ := hexec
    exact ⟨id, id⟩
  refine safe_seq hsnapshot (fun state s₁ h => ?_) fun _ _ _ => trivial
  have h₁ := h state rfl
  refine safe_seq (safe_free (final_snapped state) (all_perform trivial) h₁)
    (fun emergency s₂ h₂ => ?_) fun _ _ _ => trivial
  cases hderived : Supervisor.derivedStatus emergency state.phase with
  | error error => exact trivial
  | ok derived =>
      rw [Program.ofExcept_ok, Program.ret_bind]
      refine safe_seq (safe_ofExcept.mpr h₂ : (discipline d).Safe t (fun _ s => Snapped state s) _ s₂)
        (fun _ s₃ h₃ => ?_) fun _ _ _ => trivial
      have hseal : (discipline d).Safe t (fun _ s => Closed state none s)
          (perform .seal : Prog P Unit) s₃ := by
        refine safe_act fun s₄ hrely _ => ⟨trivial, fun env s₅ _ _ hexec _ => ?_⟩
        have hsnapped := (final_snapped state).kept (final_exec hexec)
          ((final_snapped state).kept hrely h₃)
        simp only [exec, Option.some.injEq, Prod.mk.injEq] at hexec
        exact ⟨hsnapped, by rw [← hexec.1], by rintro _ ⟨⟩⟩
      refine safe_seq hseal (fun _ s₄ h₄ => ?_) fun _ _ _ => trivial
      refine safe_seq (safe_free (final_closed state none) (all_wallNow haside) h₄)
        (fun finishedAt s₅ h₅ => ?_) fun _ _ _ => trivial
      refine safe_seq (safe_free (final_closed state none) (all_monotonicNow haside) h₅)
        (fun finishedNs s₆ h₆ => ?_) fun _ _ _ => trivial
      have hmirror : (discipline d).Safe t
          (fun outcome s => ∀ mirror, outcome = .ok mirror → Closed state (some mirror) s)
          (perform .mirrorSnapshot : Prog P EvidenceMirror) s₆ := by
        refine safe_act fun s₇ hrely _ => ⟨trivial, fun env s₈ mirror _ hexec _ => ?_⟩
        rintro _ ⟨⟩
        have h₇ := (final_closed state none).kept hrely h₆
        simp only [exec, Option.some.injEq, Prod.mk.injEq] at hexec
        obtain ⟨rfl, rfl⟩ := hexec
        refine ⟨h₇.snapped, h₇.isSealed, ?_⟩
        rintro _ ⟨⟩
        rfl
      refine safe_seq hmirror (fun mirror s₇ h => ?_) fun _ _ _ => trivial
      have h₇ := h mirror rfl
      have hclosed := final_closed (P := P) state (some mirror)
      refine safe_seq (safe_free hclosed (all_raising (all_perform trivial)) h₇)
        (fun checkpoint s₈ h₈ => ?_) fun _ _ _ => trivial
      refine safe_seq (safe_free hclosed (all_perform trivial) h₈) (fun ack s₉ h₉ => ?_)
        fun _ _ _ => trivial
      cases hbody : Supervisor.receiptBody d derived state mirror finishedAt finishedNs ack checkpoint with
      | error error => exact trivial
      | ok body =>
          rw [Program.ofExcept_ok, Program.ret_bind]
          cases hsign : Sealed.sign (receiptSealing P) body d.supervisorKey with
          | error error => exact trivial
          | ok receipt =>
              rw [Program.ofExcept_ok, Program.ret_bind]
              refine safe_act fun s₁₀ hrely _ => ⟨?_, fun _ _ _ _ _ _ => trivial⟩
              have h₁₀ := hclosed.kept hrely h₉
              have hreceipt : receipt.body = body := Sealed.body_of_sign hsign
              have hstatus := (status_of_receiptBody hbody).1
              obtain ⟨hcompleted, hkilled⟩ := phase_of_derivedStatus hderived
              refine ⟨h₁₀.isSealed, ?_, ?_, ?_⟩
              · rw [hreceipt, (ReceiptCounts.counts_of_receiptBody hbody).1, h₁₀.mirror mirror rfl]
              · rw [hreceipt, hstatus]
                exact fun h => h₁₀.snapped.completed (hcompleted h)
              · rw [hreceipt, hstatus]
                exact fun h => h₁₀.snapped.killed (hkilled h)

theorem clean_receipt (status : Option RunStatus) :
    (discipline d).Clean (Supervisor.receipt d status) := by
  refine clean_bind (clean_of_free (all_perform trivial)) fun _ => ?_
  refine clean_finalize (clean_bind (clean_of_free (all_perform trivial)) fun found => ?_)
    (clean_of_free (all_perform trivial))
  cases found with
  | none => exact clean_receiptFresh status
  | some frozen => exact clean_bind (clean_ofExcept _) fun _ => clean_ret _

theorem covers : (discipline d).Covers fun _ _ _ => True := by
  have haside := fun (op : Op P) (h : op.Aside) => free_of_aside h
  refine covers_of_clean (fun call => ?_) (fun call outcome s h => ?_) fun call outcome s u => ?_
  · cases call with
    | submitRaw raw =>
        exact clean_map (clean_of_free (all_submitRaw_of haside free_event raw
          (fun _ _ _ _ _ => trivial) fun _ => trivial))
    | dispatch action decision nowNs =>
        refine clean_map (clean_of_free (all_dispatch_of haside free_event action decision nowNs ?_))
        intro op hop
        cases op <;> first | exact trivial | exact absurd hop id
    | failClosed reason requestId =>
        exact clean_map (clean_of_free (all_failClosed haside free_event reason requestId))
    | enforceRuntimeDeadline ns =>
        exact clean_map (clean_of_free (all_enforceRuntimeDeadline haside free_event d ns trivial))
    | contain trigger ns => exact clean_map (clean_of_free (all_containment haside free_event trigger ns))
    | emergencyIsolate => exact clean_map (clean_of_free (all_emergencyIsolate haside))
    | complete =>
        exact clean_map (clean_bind (clean_of_free (all_raising (all_perform trivial))) fun _ =>
          clean_receipt none)
    | receipt status => exact clean_map (clean_receipt status)
  · dsimp only [runtimeService]
    unfold retire
    split
    · exact fun receipt hreceipt => stored_final (h receipt hreceipt) ⟨fun h => ⟨h, rfl⟩, id, id⟩
    · exact h
  · dsimp only [runtimeService]
    unfold retire
    split
    · exact ⟨fun h => ⟨h, rfl⟩, id, id⟩
    · exact (discipline d).rely_refl u s

end ReceiptStatus

/-- In every run a stored receipt agrees with the state beside it. -/
theorem stored_of_reachable {witness : TransparencyWitness P} {c : Config (runtimeService d)}
    (h : Reachable (Barrier.anyRun d) (Runtime.init d witness) c) {receipt : Receipt P}
    (hreceipt : c.shared.receipt = some receipt) : Stored receipt c.shared := by
  have hinit : ReceiptStatus.Inv (Runtime.init d witness) := fun _ hnone => nomatch hnone
  exact invariant_of_reachable ReceiptStatus.covers hinit h receipt hreceipt

end Containment
