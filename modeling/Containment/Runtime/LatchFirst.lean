/-
# Code that latches before it records

Most of the code that records a violation latches the kill first. Given what a latch
establishes and which commits are ready behind it, every such call is safe for the same
reason in each result, so it is walked through once.
-/

import Containment.Auditor.Acceptance
import Containment.Concurrency.Ghost
import Containment.Runtime.Calls
import Containment.Runtime.Payloads
import Containment.Runtime.SideCode

namespace Containment

open Json Concurrency Discipline

/-! ## Which commits record a violation -/

section Events

variable {P : Platform} {d : Deployment P} {event : Event P}

/-- Operations that cannot record a violation. -/
def Op.Harmless : Op P → Prop
  | .commit kind _ _ _ => kind ≠ .violation ∧ kind ≠ .overloadSummary ∧ kind ≠ .decision
  | _ => True

theorem harmless_of_quiet {op : Op P} (h : op.Quiet) : op.Harmless := by
  cases op <;> first | exact trivial | exact absurd h id

theorem harmless_of_aside {op : Op P} (h : op.Aside) : op.Harmless := harmless_of_quiet h.quiet

theorem harmless_of_plain {op : Op P} (h : op.Plain) : op.Harmless := by
  cases op <;> first | exact trivial | exact absurd h id

theorem HardViolation.kind_cases (h : HardViolation event) : event.body.kind = .violation ∨
    event.body.kind = .overloadSummary ∨ event.body.kind = .decision := by
  rcases h with hviolation | hoverload | ⟨_, hsays, -⟩
  · exact .inl hviolation
  · exact .inr (.inl hoverload)
  · exact .inr (.inr hsays.1)

/-- A hard decision is a kill. -/
theorem kill_of_hardDecision {x : Gateway.Deciding P} {decision : Decision P}
    (hshaped : PolicyEngine.Shaped d.manifest x.result) (hdecision : x.decision d = .ok decision)
    (hkind : event.body.kind = .decision)
    (htext : canonicalJson P ((Sealed.codec P decisionSealing).encode decision) =
      .ok event.body.payloadCanonicalJson.1) (h : HardViolation event) :
    x.result.verdict = .kill := by
  have hsays : IsDecision event decision := ⟨hkind, modelValidateJson_of_canonicalJson htext⟩
  rcases h with hviolation | hoverload | ⟨decision', hsays', htrue⟩
  · rw [hkind] at hviolation
    cases hviolation
  · rw [hkind] at hoverload
    cases hoverload
  · rw [hsays'.unique hsays, (policy_of_decision hdecision).2] at htrue
    rcases hshaped with ⟨_, -, -, -, hfalse⟩ | ⟨code, hkill⟩
    · rw [hfalse] at htrue
      cases htrue
    · rw [hkill]
      rfl

/-- A first overload has latched the kill. -/
theorem killing_of_firstOverload {env : World} {t : ℕ} {s s' : Runtime P} {bytes ns : ℤ}
    (h : exec d env t s (.admitRaw bytes ns) = some (s', .firstOverload)) :
    s'.state.phase = .killing := by
  simp only [exec, onState_eq_some] at h
  obtain ⟨-, rfl, h⟩ := h
  revert h
  unfold RunState.admitRaw
  dsimp only
  obtain ⟨window, count, hopen⟩ :=
    RunState.openWindow_eq { s.state with observed := s.state.observed + 1 } ns
  rw [hopen]
  split_ifs with hphase hover
  · rintro ⟨⟩
  · intro _
    dsimp only
    rw [RunState.phase_latchKillLocked]
    exact if_pos (not_not.mp hphase)
  · rintro ⟨⟩

end Events

/-! ## The calls -/

variable {P : Platform} {d : Deployment P} {G : Type}
  {update : World → ℕ → Op P → Runtime P → Runtime P → G → G}
  {rule : RunRule ((runtimeService d).ghost update)} {D : Discipline rule}
  {Latched : Runtime P × G → Prop}

variable (D Latched) in
/-- What a discipline offers to code that latches first. -/
structure LatchesFirst : Prop where
  plain : PlainReady D
  contain : ∀ trigger ns, D.Clean (Supervisor.contain trigger ns : Prog P _)
  isolate : D.Clean (Supervisor.emergencyIsolate : Prog P Unit)
  stable : D.Stable Latched
  latch : ∀ t s, D.Safe t (fun _ s => Latched s) (perform .latchKill : Prog P _) s
  overload : ∀ bytes ns t s, D.Safe t (fun outcome s => outcome = .ok .firstOverload → Latched s)
    (perform (.admitRaw bytes ns) : Prog P Admission) s
  /-- Behind the latch every commit of the gateway is ready. -/
  report : ∀ {kind payload requestId ns t s}, kind ≠ .dispatch → D.inv s → Latched s →
    D.ready t s (.commit kind payload requestId ns)
  request : ∀ payload requestId ns t s, D.inv s → D.ready t s (.commit .request payload requestId ns)
  malformed : ∀ raw ns t s, D.inv s →
    D.ready t s (.commit .violation (Gateway.malformedPayload P raw) none (some ns))
  decision : ∀ {x : Gateway.Deciding P} {decision : Decision P} {requestId ns t s},
    PolicyEngine.Shaped d.manifest x.result → x.decision d = .ok decision → D.inv s →
    (x.result.verdict = .kill → Latched s) →
    D.ready t s (.commit .decision ((Sealed.codec P decisionSealing).encode decision) requestId ns)

namespace LatchesFirst

variable (h : LatchesFirst D Latched)
include h

/-- The gateway's commit under an assertion that makes it ready. -/
theorem cleanUnder_commit {I : Runtime P × G → Prop} (hI : D.Stable I) {kind : EventKind}
    {payload : Json} {requestId : Option String} {ns : Option ℤ}
    (hready : ∀ t s, D.inv s → I s → D.ready t s (.commit kind payload requestId ns)) :
    D.CleanUnder I (Gateway.commit kind payload requestId ns) := by
  refine cleanUnder_handle hI (cleanUnder_bind hI ?_ fun outcome => ?_)
    fun error => Clean.under (clean_bind h.isolate fun _ => clean_raise _)
  · exact cleanUnder_perform hI hready
  · exact Clean.under (clean_ofExcept outcome)

theorem clean_commit {kind : EventKind} {payload : Json} {requestId : Option String} {ns : Option ℤ}
    (hready : ∀ t s, D.inv s → D.ready t s (.commit kind payload requestId ns)) :
    D.Clean (Gateway.commit kind payload requestId ns) :=
  clean_handle (clean_raising (clean_perform hready)) fun _ =>
    clean_bind h.isolate fun _ => clean_raise _

/-- `latch_kill` and what comes after it. -/
theorem clean_latch {α : Type} {next : (Op.latchKill : Op P).Res → Prog P α}
    (hnext : ∀ latched, D.CleanUnder Latched (next latched)) :
    D.Clean (perform .latchKill >>= next) :=
  clean_establish (fun t s => safe_mono (fun _ _ hlatched _ _ => hlatched) (h.latch t s)) hnext

/-- A violation that is committed under the latch, and its containment. -/
theorem cleanUnder_report {α : Type} {kind : EventKind} {payload : Json} {requestId : Option String}
    {ns : Option ℤ} (hkind : kind ≠ .dispatch) (triggerNs : Event P → ℤ) (value : α) :
    D.CleanUnder Latched (do
      let event ← Gateway.commit kind payload requestId ns
      let _ ← Supervisor.contain event (triggerNs event)
      return value) :=
  cleanUnder_bind h.stable (h.cleanUnder_commit h.stable fun _ _ => h.report hkind) fun _ =>
    Clean.under (clean_bind (h.contain _ _) fun _ => clean_ret _)

theorem clean_failClosed (reasonCode : String) (requestId : Option String) :
    D.Clean (Gateway.failClosed reasonCode requestId : Prog P Unit) := by
  refine clean_bind (clean_monotonicNow h.plain) fun triggerNs => h.clean_latch fun _ => ?_
  refine cleanUnder_bind h.stable (cleanUnder_handle h.stable ?_ fun _ => ?_)
    fun trigger => Clean.under (clean_bind (h.contain _ _) fun _ => clean_ret _)
  · exact h.cleanUnder_commit h.stable fun _ _ => h.report (by decide)
  · refine Clean.under (clean_bind (clean_perform (h.plain _ trivial)) fun events => ?_)
    cases events.getLast? with
    | none => exact clean_raise _
    | some event => exact clean_ret _

theorem clean_enforceRuntimeDeadline (ns : Option ℤ) :
    D.Clean (Supervisor.enforceRuntimeDeadline d ns) := by
  refine clean_bind ?_ fun nowNs => clean_bind (clean_perform (h.plain _ trivial)) fun state => ?_
  · cases ns with
    | none => exact clean_monotonicNow h.plain
    | some ns => exact clean_ret _
  split_ifs with hphase
  · exact clean_ret _
  refine h.clean_latch fun _ => cleanUnder_bind h.stable ?_ fun event =>
    Clean.under (clean_bind (h.contain _ _) fun _ => clean_ret _)
  refine cleanUnder_bind h.stable ?_ fun outcome => Clean.under (clean_ofExcept outcome)
  exact cleanUnder_perform h.stable fun _ _ => h.report (by decide)

/-! ## Submissions -/

/-- The gateway latches before it commits a hard decision. -/
theorem clean_latchOnKill {α : Type} {verdict : Verdict} {next : Unit → Prog P α}
    (hnext : ∀ done, D.CleanUnder (fun s => verdict = .kill → Latched s) (next done)) :
    D.Clean (Gateway.latchOnKill verdict >>= next) := by
  refine clean_establish (fun t s => ?_) hnext
  unfold Gateway.latchOnKill
  split_ifs with hkill
  · exact safe_seq (h.latch t s) (fun _ _ hlatched _ _ _ => hlatched) fun _ _ _ _ heq => nomatch heq
  · exact fun _ _ hkilled => absurd hkilled hkill

/-- What the policy returns. -/
theorem clean_authorize {α : Type} {action : Action P} {now : UtcTimestamp}
    {next : PolicyResult → Prog P α}
    (hnext : ∀ result, PolicyEngine.Shaped d.manifest result → D.Clean (next result)) :
    D.Clean (perform (.authorize action now) >>= next) := by
  intro t s
  refine safe_act fun s₁ _ hinv => ⟨h.plain (.authorize action now) trivial t s₁ hinv, ?_⟩
  intro env s₂ result _ hexec _
  refine hnext result ?_ t s₂
  obtain ⟨hdone, -⟩ := ghost_exec.mp hexec
  simp only [exec, Option.some.injEq, Prod.mk.injEq] at hdone
  rw [← hdone.2]
  exact PolicyEngine.shaped_authorize _ _ _ _

theorem clean_decideAction (action : Action P) (admittedNs : ℤ) :
    D.Clean (Gateway.decideAction d action admittedNs) := by
  refine clean_bind (clean_ofExcept _) fun sha => ?_
  refine clean_bind (h.clean_commit (h.request _ _ _)) fun request => ?_
  refine clean_bind (clean_monotonicNow h.plain) fun decidedNs => ?_
  refine clean_bind (clean_wallNow h.plain) fun wall => ?_
  refine clean_bind (clean_ofExcept _) fun decidedAt => ?_
  refine h.clean_authorize fun result hshaped => h.clean_latchOnKill fun _ => ?_
  have hstable : D.Stable fun s => result.verdict = .kill → Latched s :=
    ⟨fun hrely hlatched hkill => h.stable.rely hrely (hlatched hkill),
      fun hmove hexec hlatched hkill => h.stable.act hmove hexec (hlatched hkill)⟩
  refine cleanUnder_bind hstable (Clean.under (clean_perform (h.plain _ trivial))) fun epoch => ?_
  refine cleanUnder_bind hstable (Clean.under (clean_authorization h.plain _ _)) fun capability => ?_
  obtain ⟨authorizationId, expiresNs⟩ := capability
  dsimp only
  cases hdecision : Gateway.Deciding.decision d ⟨action, request, sha, decidedNs, decidedAt, result,
      epoch, authorizationId, expiresNs⟩ with
  | error error => exact Clean.under (clean_raise error)
  | ok decision =>
      rw [Program.ofExcept_ok, Program.ret_bind]
      refine cleanUnder_bind hstable (h.cleanUnder_commit hstable fun t s hinv hlatched => ?_)
        fun event => ?_
      · exact h.decision hshaped hdecision hinv hlatched
      refine cleanUnder_bind hstable (Clean.under (clean_perform (h.plain _ trivial))) fun _ => ?_
      unfold Gateway.conclude
      split_ifs with hkill
      · exact fun t s hlatched => h.cleanUnder_report (by decide) _ _ t s (hlatched hkill)
      · exact Clean.under (clean_ret _)

theorem clean_submitRaw (raw : Bytes) : D.Clean (Gateway.submitRaw d raw) := by
  refine clean_bind (clean_monotonicNow h.plain) fun admittedNs => ?_
  split_ifs with hlate
  · exact h.clean_latch fun _ => h.cleanUnder_report (by decide) _ _
  intro t s
  refine safe_seq (h.overload _ _ t s) (fun admission s₁ hoverload => ?_) fun _ _ _ => trivial
  cases admission with
  | droppedAfterKill => exact clean_ret _ t s₁
  | firstOverload => exact h.cleanUnder_report (by decide) _ _ t s₁ (hoverload rfl)
  | admitted =>
      dsimp only
      cases Action.fromWire P raw with
      | ok action => exact h.clean_decideAction action admittedNs t s₁
      | error error =>
          refine (?_ : D.Clean (Gateway.rejectMalformed raw admittedNs)) t s₁
          refine clean_bind (h.clean_commit (h.malformed raw admittedNs)) fun event => ?_
          refine clean_bind (clean_perform (h.plain _ trivial)) fun _ => ?_
          exact clean_bind (h.contain _ _) fun _ => clean_ret _

/-- Every call, once the two sections of a dispatch and the receipt are clean. -/
theorem clean_body
    (hbegin : ∀ action decision id nowNs bytes,
      D.Clean (Executor.beginAuthorized action decision id nowNs bytes))
    (hfinish : ∀ action decision id lease result,
      D.Clean (Executor.finishAuthorized action decision id lease result))
    (hcomplete : D.Clean (Supervisor.complete d))
    (hreceipt : ∀ status, D.Clean (Supervisor.receipt d status)) (call : Call P) :
    D.Clean (body d call) := by
  cases call with
  | submitRaw raw => exact clean_map (h.clean_submitRaw raw)
  | dispatch action decision nowNs =>
      exact clean_map (clean_dispatch h.plain hbegin hfinish h.clean_failClosed action decision nowNs)
  | failClosed reasonCode requestId => exact clean_map (h.clean_failClosed reasonCode requestId)
  | enforceRuntimeDeadline ns => exact clean_map (h.clean_enforceRuntimeDeadline ns)
  | contain trigger ns => exact clean_map (h.contain trigger ns)
  | emergencyIsolate => exact clean_map h.isolate
  | complete => exact clean_map hcomplete
  | receipt status => exact clean_map (hreceipt status)

end LatchesFirst

end Containment
