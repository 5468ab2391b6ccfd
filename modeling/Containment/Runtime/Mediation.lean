/-
# Nothing leaves without its evidence

A credential is released and a transport is started on behalf of an action. Before either of
them, the record holds the mirrored DISPATCH of a signed allowance that is bound to the action,
committed while the run was running at the epoch of that allowance. If dispatches are only
handed what the gateway has returned, the record holds before that the mirrored REQUEST and the
mirrored DECISION, in this order. No authorization is carried by two transports.

Two things carry this across the interleavings. The thread that consumed an authorization owns
it, and only the owner starts its transport. And while a thread is between its reservation and
its commit, it holds the state lock, so the phase and the epoch it was granted under are those
of the commit.
-/

import Containment.Concurrency.Trace
import Containment.Runtime.Budgets
import Containment.Runtime.Coherence
import Containment.Runtime.Locks

namespace Containment

open Json Concurrency Discipline Trace

variable {P : Platform}

/-- Concurrent calls of any kind, with any answers of the outside world. What a dispatch may be
handed is restricted to decisions of the gateway only under the condition. -/
def handedDecisions (d : Deployment P) (issuedOnly : Prop) : RunRule (runtimeService d) where
  starts s call := issuedOnly → (issuedDispatches d).starts s call
  moves _ _ _ := True

/-! ## What the record holds -/

/-- The event was committed and mirrored at a point of the record before which the condition
held. -/
def MirroredAfter (event : Event P) (earlier : List (Entry P) → Prop) (log : List (Entry P)) : Prop :=
  ∃ before phase epoch after, log = before ++ .committed event true phase epoch :: after ∧
    earlier before

/-- The decision answers the request, and it allows only what the policy permits. -/
structure AnswersRequest (d : Deployment P) (decision : Decision P) (request : Event P)
    (action : Action P) : Prop where
  requested : IsRequest request action
  requestId : action.requestId = decision.body.requestId ∧
    request.body.requestId = some decision.body.requestId
  digest : action.digest = .ok decision.body.actionSha256.1
  sequence : decision.body.requestEventSequence = request.body.sequence
  hash : decision.body.requestEventHash = request.eventHash
  permitted : decision.body.verdict = .allow → ∃ rule : EgressRule P,
    decision.body.matchedRuleId = some rule.ruleId ∧
      PolicyEngine.Permitted d.manifest action decision.body.decidedAt rule

/-- The request that a decision answers and then the decision itself are on record. -/
def OnRecord (d : Deployment P) (decision : Decision P) (log : List (Entry P)) : Prop :=
  ∃ request decided action, MirroredAfter decided (MirroredAfter request fun _ => True) log ∧
    AnswersRequest d decision request action ∧ IsDecision decided decision

/-- The payload of the decision's DISPATCH. -/
def Decision.dispatchRecord (decision : Decision P) (id : OpaqueId) : DispatchEventPayload :=
  ⟨decision.body.actionSha256, id, decision.decisionHash, decision.body.killEpoch⟩

/-- The decision lets the action leave under the authorization, and its DISPATCH is on record:
mirrored, and committed while the run was running at the epoch of the decision. -/
structure Dispatched (d : Deployment P) (issuedOnly : Prop) (log : List (Entry P))
    (action : Action P) (decision : Decision P) (id : OpaqueId) : Prop where
  signed : decision.verify d.manifest.body.gatewayKey = .ok ()
  bound : Executor.checkBinding d action decision.body = .ok ()
  allow : decision.body.verdict = .allow
  named : decision.body.authorizationId = some id
  committed : ∃ event before after,
    log = before ++ .committed event true .running decision.body.killEpoch.1 :: after ∧
    IsDispatch event (decision.dispatchRecord id) ∧
    event.body.requestId = some action.requestId ∧ (issuedOnly → OnRecord d decision before)

/-- What stands in the record before an action leaves. -/
def Cleared (d : Deployment P) (issuedOnly : Prop) (before : List (Entry P)) : Entry P → Prop
  | .committed .. => True
  | .released action => ∃ decision id, Dispatched d issuedOnly before action decision id
  | .transported action id => (∃ decision, Dispatched d issuedOnly before action decision id) ∧
      ∀ action', .transported action' id ∉ before

theorem MirroredAfter.append {event : Event P} {earlier : List (Entry P) → Prop} {log : List (Entry P)}
    (h : MirroredAfter event earlier log) (rest : List (Entry P)) : MirroredAfter event earlier (log ++ rest) := by
  obtain ⟨before, phase, epoch, after, rfl, hearlier⟩ := h
  exact ⟨before, phase, epoch, after ++ rest, by simp, hearlier⟩

theorem OnRecord.append {d : Deployment P} {decision : Decision P} {log : List (Entry P)}
    (h : OnRecord d decision log) (rest : List (Entry P)) : OnRecord d decision (log ++ rest) := by
  obtain ⟨request, decided, action, hmirrored, hrest⟩ := h
  exact ⟨request, decided, action, hmirrored.append rest, hrest⟩

theorem Dispatched.append {d : Deployment P} {issuedOnly : Prop} {log : List (Entry P)}
    {action : Action P} {decision : Decision P} {id : OpaqueId}
    (h : Dispatched d issuedOnly log action decision id) (rest : List (Entry P)) :
    Dispatched d issuedOnly (log ++ rest) action decision id := by
  obtain ⟨event, before, after, hlog, hevent⟩ := h.committed
  exact ⟨h.signed, h.bound, h.allow, h.named, event, before, after ++ rest, by simp [hlog], hevent⟩

namespace Mediation

variable {d : Deployment P} {env : World} {t : ℕ} {s s' : Runtime P} {issuedOnly : Prop}

/-! ## What one operation writes -/

/-- The line an operation writes into the record. -/
def Writes (s : Runtime P) : Op P → Entry P → Prop
  | .commit .., entry => ∃ event mirrored,
      entry = .committed event mirrored s.state.phase s.state.killEpoch
  | .release action, entry => entry = .released action
  | .transport action _ _ id, entry => entry = .transported action id
  | _, _ => False

/-- Operations that write no line and consume no authorization. -/
def Op.Silent : Op P → Prop
  | .commit .. | .release _ | .transport .. | .reserve .. => False
  | _ => True

/-- Who owns which authorization is as before. -/
structure Kept (s s' : Runtime P) : Prop where
  owner : s'.history.owner = s.history.owner
  issued : s'.history.issued = s.history.issued
  consumed : s'.state.consumedAuthorizations = s.state.consumedAuthorizations

theorem history_exec {op : Op P} {r : op.Res} (h : exec d env t s op = some (s', r))
    (hop : Op.Silent op) :
    s'.history.log = s.history.log ∧ s'.history.owner = s.history.owner ∧
      s'.history.issued = s.history.issued := by
  cases op
  case commit => exact absurd hop id
  case release => exact absurd hop id
  case transport => exact absurd hop id
  case reserve => exact absurd hop id
  all_goals
    simp only [exec, onState_eq_some, Option.some.injEq, Prod.mk.injEq,
      Option.ite_none_right_eq_some] at h
  all_goals try split at h
  all_goals try split at h
  all_goals try simp only [Option.some.injEq, Prod.mk.injEq] at h
  all_goals
    first
    | (obtain ⟨rfl, -⟩ := h; exact ⟨rfl, rfl, rfl⟩)
    | (obtain ⟨-, rfl, -⟩ := h; exact ⟨rfl, rfl, rfl⟩)

theorem consumed_exec {op : Op P} {r : op.Res} (h : exec d env t s op = some (s', r))
    (hop : Op.Silent op) : s'.state.consumedAuthorizations = s.state.consumedAuthorizations := by
  by_cases htaken : ∃ bytes ns, op = .admitRaw bytes ns
  · obtain ⟨bytes, ns, rfl⟩ := htaken
    simp only [exec, onState_eq_some] at h
    obtain ⟨-, rfl, -⟩ := h
    exact (Coherence.admitRaw_cases s.state bytes ns).2.2.1
  simp only [not_exists] at htaken
  by_cases hfree : Coherence.Op.Free op
  · exact (Coherence.untouched_exec hfree htaken h).consumed
  · cases op
    case recordDecision verdict =>
      simp only [exec, onState_eq_some] at h
      obtain ⟨-, rfl, -⟩ := h
      unfold RunState.recordDecision
      dsimp only
      split_ifs <;> rfl
    case reserve => exact absurd hop id
    all_goals exact absurd trivial hfree

/-- An operation writes nothing, or one line, or it consumes a fresh authorization for its
thread. -/
theorem record_cases {op : Op P} {r : op.Res} (h : exec d env t s op = some (s', r)) :
    (s'.history.log = s.history.log ∧ Kept s s') ∨
    (∃ entry, Writes s op entry ∧ s'.history.log = s.history.log ++ [entry] ∧ Kept s s') ∨
    (∃ body ns bytes id, op = .reserve body ns bytes ∧ s'.history.log = s.history.log ∧
      s'.history.issued = s.history.issued ∧ id ∉ s.state.consumedAuthorizations ∧
      s'.state.consumedAuthorizations = insert id s.state.consumedAuthorizations ∧
      s'.history.owner = s.history.owner.insert id t) := by
  by_cases hop : Op.Silent op
  · obtain ⟨hlog, howner, hissued⟩ := history_exec h hop
    exact .inl ⟨hlog, howner, hissued, consumed_exec h hop⟩
  cases op
  case commit kind payload requestId ns =>
    simp only [exec, Option.some.injEq] at h
    rcases commit_cases d env s kind payload requestId ns with ⟨_, heq⟩ |
      ⟨event, mirrored, _, _, -, -, heq⟩
    · rw [heq, Prod.mk.injEq] at h
      obtain ⟨rfl, -⟩ := h
      exact .inl ⟨rfl, rfl, rfl, rfl⟩
    · rw [heq, Prod.mk.injEq] at h
      obtain ⟨rfl, -⟩ := h
      exact .inr (.inl ⟨_, ⟨event, mirrored, rfl⟩, rfl, rfl, rfl, rfl⟩)
  case release action =>
    simp only [exec, Option.some.injEq, Prod.mk.injEq] at h
    obtain ⟨rfl, -⟩ := h
    exact .inr (.inl ⟨_, rfl, rfl, rfl, rfl, rfl⟩)
  case transport action secret bytes id =>
    simp only [exec, Option.some.injEq, Prod.mk.injEq] at h
    obtain ⟨rfl, -⟩ := h
    exact .inr (.inl ⟨_, rfl, rfl, rfl, rfl, rfl⟩)
  case reserve body ns bytes =>
    simp only [exec, Option.ite_none_right_eq_some] at h
    obtain ⟨-, h⟩ := h
    rcases RunState.reserve_cases s.state body ns bytes with ⟨_, heq⟩ | ⟨_, heq⟩ |
      ⟨id, _, -, -, -, -, -, -, hfresh, -, -, heq⟩
    · rw [heq, Option.some.injEq, Prod.mk.injEq] at h
      obtain ⟨rfl, -⟩ := h
      exact .inl ⟨rfl, rfl, rfl, rfl⟩
    · rw [heq, Option.some.injEq, Prod.mk.injEq] at h
      obtain ⟨rfl, -⟩ := h
      refine .inl ⟨rfl, rfl, rfl, ?_⟩
      unfold RunState.latchKillLocked
      dsimp only
      split_ifs <;> rfl
    · rw [heq, Option.some.injEq, Prod.mk.injEq] at h
      obtain ⟨rfl, -⟩ := h
      exact .inr (.inr ⟨body, ns, bytes, id.1, rfl, rfl, rfl, hfresh, rfl, rfl⟩)
  all_goals exact absurd trivial hop

/-- The record only grows. -/
theorem grows_exec {op : Op P} {r : op.Res} (h : exec d env t s op = some (s', r)) :
    ∃ rest, s'.history.log = s.history.log ++ rest := by
  rcases record_cases h with ⟨hlog, -⟩ | ⟨entry, -, hlog, -⟩ | ⟨_, _, _, _, -, hlog, -⟩
  · exact ⟨[], by rw [hlog, List.append_nil]⟩
  · exact ⟨[entry], hlog⟩
  · exact ⟨[], by rw [hlog, List.append_nil]⟩

/-! ## The discipline -/

/-- No transport carried the authorization. -/
def Unused (id : OpaqueId) (s : Runtime P) : Prop :=
  ∀ action, .transported action id ∉ s.history.log

/-- The thread consumed the authorization. -/
def Owns (t : ℕ) (id : OpaqueId) (s : Runtime P) : Prop :=
  s.history.owner.lookup id.1 = some t

/-- What holds at all times. -/
structure Inv (d : Deployment P) (issuedOnly : Prop) (s : Runtime P) : Prop where
  cleared : Justified (Cleared d issuedOnly) s.history.log
  owned : ∀ id u, s.history.owner.lookup id = some u → id ∈ s.state.consumedAuthorizations
  transported : ∀ action (id : OpaqueId), .transported action id ∈ s.history.log →
    id.1 ∈ s.state.consumedAuthorizations
  issued : ∀ decision ∈ s.history.issued, OnRecord d decision s.history.log

/-- What the code has established before an operation. -/
def Ready (d : Deployment P) (issuedOnly : Prop) (t : ℕ) (s : Runtime P) : Op P → Prop
  | .release action => ∃ decision id, Dispatched d issuedOnly s.history.log action decision id
  | .transport action _ _ id =>
      (∃ decision, Dispatched d issuedOnly s.history.log action decision id) ∧ Owns t id s ∧
        Unused id s
  | _ => True

/-- What a waiting thread can count on. -/
structure Rely (t : ℕ) (s s' : Runtime P) : Prop where
  log : ∃ rest, s'.history.log = s.history.log ++ rest
  owns : ∀ id, Owns t id s → Owns t id s'
  unused : ∀ id, Owns t id s → Unused id s → Unused id s'
  locked : s.stateLock = some t → s'.stateLock = some t ∧ s'.state = s.state

theorem Rely.refl (t : ℕ) (s : Runtime P) : Rely t s s :=
  ⟨⟨[], (List.append_nil _).symm⟩, fun _ => id, fun _ _ => id, fun h => ⟨h, rfl⟩⟩

theorem Rely.trans {s₁ s₂ s₃ : Runtime P} (h : Rely t s₁ s₂) (h' : Rely t s₂ s₃) : Rely t s₁ s₃ := by
  refine ⟨?_, fun id howns => h'.owns id (h.owns id howns),
    fun id howns hunused => h'.unused id (h.owns id howns) (h.unused id howns hunused),
    fun hlock => ?_⟩
  · obtain ⟨rest, hrest⟩ := h.log
    obtain ⟨rest', hrest'⟩ := h'.log
    exact ⟨rest ++ rest', by rw [hrest', hrest, List.append_assoc]⟩
  · obtain ⟨hlock₂, hstate₂⟩ := h.locked hlock
    obtain ⟨hlock₃, hstate₃⟩ := h'.locked hlock₂
    exact ⟨hlock₃, hstate₃.trans hstate₂⟩

theorem cleared_of_ready {op : Op P} {entry : Entry P} (hready : Ready d issuedOnly t s op)
    (hwrites : Writes s op entry) : Cleared d issuedOnly s.history.log entry := by
  cases op
  case commit =>
    obtain ⟨event, mirrored, rfl⟩ := hwrites
    exact trivial
  case release =>
    obtain rfl := hwrites
    exact hready
  case transport =>
    obtain rfl := hwrites
    exact ⟨hready.1, hready.2.2⟩
  all_goals exact absurd hwrites id

/-- A transport is started by the owner of its authorization. -/
theorem owns_of_writes {op : Op P} {action : Action P} {id : OpaqueId}
    (hready : Ready d issuedOnly t s op) (hwrites : Writes s op (.transported action id)) :
    Owns t id s := by
  cases op
  case transport =>
    obtain ⟨-, rfl⟩ := Entry.transported.inj hwrites
    exact hready.2.1
  case commit =>
    obtain ⟨_, _, heq⟩ := hwrites
    cases heq
  case release => cases hwrites
  all_goals exact absurd hwrites not_false

theorem inv_exec {op : Op P} {r : op.Res} (h : Inv d issuedOnly s) (hready : Ready d issuedOnly t s op)
    (hexec : exec d env t s op = some (s', r)) : Inv d issuedOnly s' := by
  rcases record_cases hexec with ⟨hlog, hkept⟩ | ⟨entry, hwrites, hlog, hkept⟩ |
    ⟨_, _, _, id, -, hlog, hissued, hfresh, hconsumed, howner⟩
  · refine ⟨?_, ?_, ?_, ?_⟩
    · rw [hlog]
      exact h.cleared
    · rw [hkept.owner, hkept.consumed]
      exact h.owned
    · rw [hlog, hkept.consumed]
      exact h.transported
    · rw [hlog, hkept.issued]
      exact h.issued
  · refine ⟨?_, ?_, ?_, ?_⟩
    · rw [hlog, justified_concat]
      exact ⟨h.cleared, cleared_of_ready hready hwrites⟩
    · rw [hkept.owner, hkept.consumed]
      exact h.owned
    · rw [hlog, hkept.consumed]
      intro action id hmem
      rcases List.mem_append.mp hmem with hmem | hmem
      · exact h.transported action id hmem
      · obtain rfl := List.mem_singleton.mp hmem
        exact h.owned _ _ (owns_of_writes hready hwrites)
    · rw [hlog, hkept.issued]
      exact fun decision hmem => (h.issued decision hmem).append _
  · refine ⟨?_, ?_, ?_, ?_⟩
    · rw [hlog]
      exact h.cleared
    · rw [howner, hconsumed]
      intro id' u hlookup
      by_cases heq : id' = id
      · exact heq ▸ Finset.mem_insert_self _ _
      · rw [AList.lookup_insert_ne heq] at hlookup
        exact Finset.mem_insert_of_mem (h.owned id' u hlookup)
    · rw [hlog, hconsumed]
      exact fun action id' hmem => Finset.mem_insert_of_mem (h.transported action id' hmem)
    · rw [hlog, hissued]
      exact h.issued

theorem rely_exec {op : Op P} {r : op.Res} (h : Inv d issuedOnly s)
    (hready : Ready d issuedOnly t s op) (hexec : exec d env t s op = some (s', r)) {u : ℕ}
    (hu : u ≠ t) : Rely u s s' := by
  refine ⟨grows_exec hexec, fun id howns => ?_, fun id howns hunused => ?_, lock_exec hexec hu⟩
  · unfold Owns at howns ⊢
    rcases record_cases hexec with ⟨-, hkept⟩ | ⟨_, -, -, hkept⟩ |
      ⟨_, _, _, id', -, -, -, hfresh, -, howner⟩
    · rwa [hkept.owner]
    · rwa [hkept.owner]
    · have hne : id.1 ≠ id' := by
        rintro rfl
        exact hfresh (h.owned _ _ howns)
      rwa [howner, AList.lookup_insert_ne hne]
  · unfold Unused at hunused ⊢
    rcases record_cases hexec with ⟨hlog, -⟩ | ⟨entry, hwrites, hlog, -⟩ | ⟨_, _, _, _, -, hlog, -⟩
    · rwa [hlog]
    · rw [hlog]
      intro action hmem
      rcases List.mem_append.mp hmem with hmem | hmem
      · exact hunused action hmem
      · -- Another thread carries its own authorizations only.
        obtain rfl := List.mem_singleton.mp hmem
        exact hu (Option.some.inj (howns.symm.trans (owns_of_writes hready hwrites)))
    · rwa [hlog]

variable (d issuedOnly) in
def discipline : Discipline (handedDecisions d issuedOnly) where
  inv := Inv d issuedOnly
  ready := Ready d issuedOnly
  rely := Rely
  rely_refl := Rely.refl
  rely_trans := Rely.trans
  act_inv h hready _ hexec := inv_exec h hready hexec
  act_rely h hready _ hexec _ hu := rely_exec h hready hexec hu

/-- What is on record stays on record. -/
theorem stable_log {I : List (Entry P) → Prop} (hI : ∀ log rest, I log → I (log ++ rest)) :
    (discipline d issuedOnly).Stable fun s => I s.history.log where
  rely hrely h := by
    obtain ⟨rest, hrest⟩ := Rely.log hrely
    rw [hrest]
    exact hI _ rest h
  act _ hexec h := by
    obtain ⟨rest, hrest⟩ := grows_exec hexec
    rw [hrest]
    exact hI _ rest h

/-! ## Code that lets nothing leave -/

/-- Operations other than releases and transports. -/
def Op.Inside : Op P → Prop
  | .release _ | .transport .. => False
  | _ => True

theorem compositional : Compositional fun _ p => (p : Prog P _).All Op.Inside :=
  compositional_all Op.Inside

theorem inside_perform (op : Op P) (h : Op.Inside op) : (perform op : Prog P _).All Op.Inside :=
  all_perform h

theorem inside_ordinary (op : Op P) (h : op.Ordinary) : (perform op : Prog P _).All Op.Inside := by
  refine all_perform ?_
  cases op <;> first | exact trivial | exact absurd h id

theorem inside_supervisor (op : Op P) (h : op.OfSupervisor) :
    (perform op : Prog P _).All Op.Inside := by
  refine all_perform ?_
  cases op <;> first | exact trivial | exact absurd h id

theorem inside_commit (kind : EventKind) (payload : Json) (requestId : Option String)
    (ns : Option ℤ) : (perform (.commit kind payload requestId ns) : Prog P _).All Op.Inside :=
  inside_perform _ trivial

theorem inside_isolate : (Supervisor.emergencyIsolate : Prog P Unit).All Op.Inside :=
  compositional.emergencyIsolate inside_supervisor

theorem inside_contain (trigger : Event P) (ns : ℤ) :
    (Supervisor.contain trigger ns).All Op.Inside :=
  compositional.contain inside_supervisor (fun _ _ _ => inside_commit _ _ _ _) trigger ns

theorem inside_failClosed (reasonCode : String) (requestId : Option String) :
    (Gateway.failClosed reasonCode requestId : Prog P Unit).All Op.Inside :=
  compositional.failClosed inside_ordinary (fun _ _ _ _ _ => inside_commit _ _ _ _) inside_contain
    inside_isolate reasonCode requestId

theorem clean_of_inside {α : Type} {p : Prog P α} (hp : p.All Op.Inside) :
    (discipline d issuedOnly).Clean p := by
  intro t s
  refine safe_of_all (K := fun _ => True) (fun _ _ => trivial) (fun {s op} hop _ _ => ?_)
    (fun _ _ _ _ _ => trivial) hp trivial
  cases op <;> first | exact trivial | exact absurd hop id

/-! ## Submissions -/

/-- The event says what was to be committed. -/
structure Says (event : Event P) (kind : EventKind) (payload : Json) (requestId : Option String) :
    Prop where
  kind : event.body.kind = kind
  payload : canonicalJson P payload = .ok event.body.payloadCanonicalJson.1
  requestId : event.body.requestId.map Subtype.val = requestId

/-- A commit that returns has been mirrored at the end of the record. -/
theorem mirrored_of_commit {kind : EventKind} {payload : Json} {requestId : Option String}
    {ns : Option ℤ} {event : Event P}
    (h : exec d env t s (.commit kind payload requestId ns) = some (s', .ok event)) :
    s'.history.log = s.history.log ++ [.committed event true s.state.phase s.state.killEpoch] ∧
      Says event kind payload requestId := by
  simp only [exec, Option.some.injEq] at h
  rcases commit_cases d env s kind payload requestId ns with ⟨_, heq⟩ |
    ⟨event', mirrored, outcome, mirror, happend, hmirror, heq⟩
  · rw [heq] at h
    cases h
  · rw [heq, Prod.mk.injEq] at h
    obtain ⟨rfl, houtcome⟩ := h
    obtain ⟨hpayload, hkind, hrequest, -⟩ := append_ok happend
    cases mirrored with
    | false =>
        obtain ⟨-, error, -, herror⟩ := hmirror
        rw [herror] at houtcome
        cases houtcome
    | true =>
        obtain rfl : event' = event := Except.ok.inj (hmirror.2.symm.trans houtcome)
        exact ⟨rfl, hkind, hpayload, hrequest⟩

theorem safe_gatewayCommit {I : List (Entry P) → Prop} (hI : ∀ log rest, I log → I (log ++ rest))
    {kind : EventKind} {payload : Json} {requestId : Option String} {ns : Option ℤ}
    (h : I s.history.log) :
    (discipline d issuedOnly).Safe t (fun outcome s => ∀ event, outcome = .ok event →
      MirroredAfter event I s.history.log ∧ Says event kind payload requestId)
      (Gateway.commit kind payload requestId ns) s := by
  refine safe_handle (safe_act fun s₁ hrely _ => ⟨trivial, fun env s₂ r _ hexec _ => ?_⟩)
  refine safe_ofExcept.mpr ?_
  cases r with
  | error error =>
      exact safe_seq (clean_of_inside inside_isolate t s₂) (fun _ _ _ event heq => by cases heq)
        fun _ _ _ event heq => by cases heq
  | ok event =>
      rintro _ ⟨⟩
      obtain ⟨hlog, hpaid⟩ := mirrored_of_commit hexec
      obtain ⟨rest, hrest⟩ := Rely.log hrely
      exact ⟨⟨s₁.history.log, _, _, [], hlog, by rw [hrest]; exact hI _ rest h⟩, hpaid⟩

/-- A decision carries what it was made from. -/
theorem fields_of_decision {x : Gateway.Deciding P} {decision : Decision P}
    (h : x.decision d = .ok decision) : decision.body.requestId = x.action.requestId ∧
      decision.body.requestEventSequence = x.request.body.sequence ∧
      decision.body.requestEventHash = x.request.eventHash ∧
      decision.body.actionSha256.1 = x.actionSha256 ∧ decision.body.verdict = x.result.verdict ∧
      decision.body.matchedRuleId = x.result.matchedRuleId ∧ decision.body.decidedAt = x.decidedAt := by
  rw [Gateway.Deciding.decision, bind_eq_ok] at h
  obtain ⟨body, hbody, hsign⟩ := h
  rw [Sealed.body_of_sign hsign]
  simp only [Gateway.Deciding.body, bind_eq_ok] at hbody
  obtain ⟨digest, hdigest, _, -, _, -, _, -, _, -, hmake⟩ := hbody
  have hfields := fields_of_make hmake
  have hsha : body.actionSha256 = digest := congrArg DecisionBodyFields.actionSha256 hfields
  refine ⟨congrArg DecisionBodyFields.requestId hfields,
    congrArg DecisionBodyFields.requestEventSequence hfields,
    congrArg DecisionBodyFields.requestEventHash hfields, ?_,
    congrArg DecisionBodyFields.verdict hfields, congrArg DecisionBodyFields.matchedRuleId hfields,
    congrArg DecisionBodyFields.decidedAt hfields⟩
  rw [hsha]
  exact validate_eq_ok hdigest

/-- What the policy allows it permits, under the rule it names. -/
def Backed (d : Deployment P) (action : Action P) (now : UtcTimestamp) (result : PolicyResult) : Prop :=
  result.verdict = .allow → ∃ rule : EgressRule P, result.matchedRuleId = some rule.ruleId ∧
    PolicyEngine.Permitted d.manifest action now rule

theorem backed_of_authorize {action : Action P} {now : UtcTimestamp} {result : PolicyResult}
    (h : exec d env t s (.authorize action now) = some (s', result)) : Backed d action now result := by
  simp only [exec, Option.some.injEq, Prod.mk.injEq] at h
  obtain ⟨-, rfl⟩ := h
  intro hallow
  rcases PolicyEngine.settled_authorize d.manifest s.policy action now with ⟨code, heq⟩ |
    ⟨rule, hpermitted, -, hmatched, -⟩
  · rw [heq] at hallow
    cases hallow
  · exact ⟨rule, hmatched, hpermitted⟩

/-- What a submission returns is on record. -/
def Returned (d : Deployment P) (outcome : Except PyError (GatewayResult P)) (s : Runtime P) : Prop :=
  ∀ result, outcome = .ok result → ∀ decision, result.decision = some decision →
    OnRecord d decision s.history.log

theorem returned_error (d : Deployment P) (error : PyError) (s : Runtime P) : Returned d (.error error) s := by
  intro result heq
  cases heq

theorem option_eq_of_map_val {id : Option OpaqueId} {text : OpaqueId}
    (h : id.map Subtype.val = some text.1) : id = some text := by
  obtain ⟨value, rfl, hvalue⟩ := Option.map_eq_some_iff.mp h
  rw [Subtype.ext hvalue]

theorem safe_decideAction (action : Action P) (admittedNs : ℤ) :
    (discipline d issuedOnly).Safe t (Returned d) (Gateway.decideAction d action admittedNs) s := by
  have hclean {α : Type} {p : Prog P α} (hp : p.All Op.Inside) {I : List (Entry P) → Prop}
      (hI : ∀ log rest, I log → I (log ++ rest)) {s : Runtime P} (h : I s.history.log) :
      (discipline d issuedOnly).Safe t (fun _ s => I s.history.log) p s :=
    safe_mono (fun _ _ h => h.2) (safe_stable (stable_log hI) (clean_of_inside hp t s) h)
  have hordinary (op : Op P) (h : op.Ordinary) := inside_ordinary op h
  cases hdigest : action.digest with
  | error error =>
      unfold Gateway.decideAction
      rw [hdigest]
      exact returned_error d _ _
  | ok sha =>
  unfold Gateway.decideAction
  rw [hdigest, Program.ofExcept_ok, Program.ret_bind]
  refine safe_seq (safe_gatewayCommit (I := fun _ => True) (fun _ _ => id) trivial)
    (fun request s₁ hrequest => ?_) fun error s _ => returned_error d error s
  obtain ⟨hmirrored, hpaid⟩ := hrequest request rfl
  -- The request stays on record up to the commit of the decision.
  have hstays := fun (log rest : List (Entry P)) (h : MirroredAfter request (fun _ => True) log) => h.append rest
  have hraised (error : PyError) (s : Runtime P) (_ : MirroredAfter request (fun _ => True) s.history.log) :
      Returned d (.error error) s := returned_error d error s
  refine safe_seq (hclean (compositional.monotonicNow hordinary) hstays hmirrored)
    (fun decidedNs s₂ h => ?_) hraised
  refine safe_seq (hclean (compositional.wallNow hordinary) hstays h) (fun wall s₃ h => ?_) hraised
  refine safe_seq (hclean (compositional.ofExcept _) hstays h) (fun decidedAt s₄ h => ?_) hraised
  have hauthorized : (discipline d issuedOnly).Safe t (fun outcome s =>
      MirroredAfter request (fun _ => True) s.history.log ∧
        ∀ result, outcome = .ok result → Backed d action decidedAt result)
      (perform (.authorize action decidedAt) : Prog P PolicyResult) s₄ := by
    refine safe_act fun s hrely _ => ⟨trivial, fun env s' result _ hexec _ => ⟨?_, ?_⟩⟩
    · have hstable : (discipline d issuedOnly).Stable fun s =>
          MirroredAfter request (fun _ => True) s.history.log := stable_log hstays
      exact hstable.act trivial hexec (hstable.rely hrely h)
    · rintro _ ⟨⟩
      exact backed_of_authorize hexec
  refine safe_seq hauthorized (fun result s₅ h => ?_) fun error s h => returned_error d error s
  obtain ⟨h, hbacked⟩ := h
  have hbacked := hbacked result rfl
  refine safe_seq (hclean (compositional.latchOnKill hordinary _) hstays h) (fun _ s₆ h => ?_) hraised
  refine safe_seq (hclean (hordinary .currentEpoch trivial) hstays h) (fun epoch s₇ h => ?_) hraised
  refine safe_seq (hclean (compositional.authorization hordinary d _ _) hstays h)
    (fun capability s₈ h => ?_) hraised
  obtain ⟨authorizationId, expiresNs⟩ := capability
  dsimp only
  cases hdecision : Gateway.Deciding.decision d ⟨action, request, sha, decidedNs, decidedAt, result,
      epoch, authorizationId, expiresNs⟩ with
  | error error => exact returned_error d _ _
  | ok decision =>
      rw [Program.ofExcept_ok, Program.ret_bind]
      refine safe_seq (safe_gatewayCommit hstays h) (fun decided s₉ hdecided => ?_)
        fun error s _ => returned_error d error s
      obtain ⟨hplaced, hverdict⟩ := hdecided decided rfl
      obtain ⟨hid, hsequence, hhash, hsha, hallow, hmatched, hnow⟩ := fields_of_decision hdecision
      dsimp only at hid hsequence hhash hsha hallow hmatched hnow
      have hdigested : action.digest = .ok decision.body.actionSha256.1 := by rw [hsha, hdigest]
      have hanswers : AnswersRequest d decision request action := by
        refine ⟨isRequest_of_payload hpaid.kind hdigested (by rw [hsha]; exact hpaid.payload),
          ⟨hid.symm, ?_⟩, hdigested, hsequence, hhash, ?_⟩
        · rw [hid]
          exact option_eq_of_map_val hpaid.requestId
        · rw [hallow, hmatched, hnow]
          exact hbacked
      have hrecorded : OnRecord d decision s₉.history.log :=
        ⟨request, decided, action, hplaced, hanswers, hverdict.kind,
          modelValidateJson_of_canonicalJson hverdict.payload⟩
      have hrest := fun (log rest : List (Entry P)) (h : OnRecord d decision log) => h.append rest
      refine safe_seq (hclean (hordinary (.recordDecision _) trivial) hrest hrecorded)
        (fun _ s₁₀ hrecorded => ?_) fun error s _ => returned_error d error s
      have hyields : (Gateway.conclude action sha result decision).Yields fun result =>
          result.decision = some decision := by
        unfold Gateway.conclude
        split_ifs
        · exact yields_bind fun _ => yields_bind fun _ => rfl
        · exact rfl
      have hconclude := hclean (compositional.conclude (fun _ _ _ _ _ => inside_commit _ _ _ _)
        inside_contain inside_isolate action sha result decision) hrest hrecorded
      refine safe_mono ?_ (safe_yields hyields hconclude)
      rintro outcome s ⟨hrecorded, hvalue⟩ result rfl decision' hsome
      obtain rfl : decision = decision' := Option.some.inj ((hvalue result rfl).symm.trans hsome)
      exact hrecorded

/-- A submission that returns no decision. -/
theorem safe_refused {p : Prog P (GatewayResult P)} (hp : p.All Op.Inside)
    (hyields : p.Yields fun result => result.decision = none) :
    (discipline d issuedOnly).Safe t (Returned d) p s := by
  refine safe_mono ?_ (safe_yields hyields (clean_of_inside hp t s))
  rintro outcome s ⟨-, hvalue⟩ result rfl decision hsome
  rw [hvalue result rfl] at hsome
  cases hsome

theorem safe_submitRaw (raw : Bytes) :
    (discipline d issuedOnly).Safe t (Returned d) (Gateway.submitRaw d raw) s := by
  have hcommit (kind : EventKind) (payload : Json) (requestId : Option String) (ns : Option ℤ)
      (_ : kind.OfGateway) := inside_commit (P := P) kind payload requestId ns
  have hreport {kind : EventKind} (hkind : kind.OfGateway) (payload : Json) (ns : ℤ)
      (result : GatewayResult P) :=
    compositional.report hcommit inside_contain inside_isolate hkind payload none (some ns)
      (fun _ => ns) result
  refine safe_seq (clean_of_inside (compositional.monotonicNow inside_ordinary) t s)
    (fun admittedNs s₁ _ => ?_) fun error s _ => returned_error d error s
  split_ifs
  · refine safe_refused ?_ (Coherence.yields_rejectLate _)
    exact compositional.bind (inside_ordinary .latchKill trivial) fun _ =>
      hreport (.inr (.inr (.inl rfl))) _ _ _
  refine safe_act fun s₂ _ _ => ⟨trivial, fun env s₃ admission _ _ _ => ?_⟩
  cases admission with
  | droppedAfterKill => exact safe_refused trivial rfl
  | firstOverload =>
      exact safe_refused (hreport (.inr (.inr (.inr rfl))) _ _ _) (Coherence.yields_rejectOverload _ _)
  | admitted =>
      cases Action.fromWire P raw with
      | ok action => exact safe_decideAction action admittedNs
      | error _ =>
          refine safe_refused (p := Gateway.rejectMalformed raw admittedNs) ?_
            (Coherence.yields_rejectMalformed _ _)
          refine compositional.bind (compositional.gatewayCommit hcommit inside_isolate
            (.inr (.inr (.inl rfl))) _ _ _) fun event => ?_
          exact compositional.bind (inside_ordinary .latchKill trivial) fun _ =>
            compositional.bind (inside_contain event admittedNs) fun _ => trivial

/-! ## Dispatches -/

/-- The thread may let the action leave, once. -/
structure Holding (d : Deployment P) (issuedOnly : Prop) (t : ℕ) (action : Action P)
    (decision : Decision P) (id : OpaqueId) (s : Runtime P) : Prop where
  dispatched : Dispatched d issuedOnly s.history.log action decision id
  owns : Owns t id s
  unused : Unused id s

variable {action : Action P} {decision : Decision P} {id : OpaqueId}

theorem Holding.rely (h : Holding d issuedOnly t action decision id s) (hrely : Rely t s s') :
    Holding d issuedOnly t action decision id s' := by
  refine ⟨?_, hrely.owns id h.owns, hrely.unused id h.owns h.unused⟩
  obtain ⟨rest, hrest⟩ := hrely.log
  rw [hrest]
  exact h.dispatched.append rest

/-- The credential is released before the transport uses the authorization up. -/
theorem Holding.release {r : Except PyError (Option Bytes)}
    (h : Holding d issuedOnly t action decision id s)
    (hexec : exec d env t s (.release action) = some (s', r)) :
    Holding d issuedOnly t action decision id s' := by
  simp only [exec, Option.some.injEq, Prod.mk.injEq] at hexec
  obtain ⟨rfl, -⟩ := hexec
  refine ⟨h.dispatched.append _, h.owns, fun action' hmem => ?_⟩
  rcases List.mem_append.mp hmem with hmem | hmem
  · exact h.unused action' hmem
  · cases List.mem_singleton.mp hmem

theorem inside_failed (lease : Option DispatchLease) (error : PyError) :
    (Executor.failed action id lease error).All Op.Inside :=
  compositional.failed (fun _ => inside_perform _ trivial)
    (fun _ => inside_perform _ trivial) inside_failClosed action id lease error

theorem digest_of_binding (h : Executor.checkBinding d action decision.body = .ok ()) :
    action.digest = .ok decision.body.actionSha256.1 := by
  simp only [Executor.checkBinding, bind_eq_ok] at h
  obtain ⟨-, -, -, -, -, -, sha, hsha, hbound⟩ := h
  rw [hsha, ensure_eq_ok.mp hbound]

/-- The answer to an action is on record, behind its dispatch and its transport. -/
structure Delivered (d : Deployment P) (issuedOnly : Prop) (log : List (Entry P)) (action : Action P)
    (decision : Decision P) (id : OpaqueId) (result : TransportResult) : Prop where
  dispatched : Dispatched d issuedOnly log action decision id
  resulted : ∃ event, MirroredAfter event (fun before => .transported action id ∈ before) log ∧
    Says event .result (Executor.resultPayload decision.body.actionSha256.1 decision id result)
      (some action.requestId.1)

theorem Delivered.append {log : List (Entry P)} {result : TransportResult}
    (h : Delivered d issuedOnly log action decision id result) (rest : List (Entry P)) :
    Delivered d issuedOnly (log ++ rest) action decision id result := by
  obtain ⟨event, hmirrored, hsays⟩ := h.resulted
  exact ⟨h.dispatched.append rest, event, hmirrored.append rest, hsays⟩

theorem safe_finishAuthorized (lease : DispatchLease) (result : TransportResult)
    (hdispatched : Dispatched d issuedOnly s.history.log action decision id)
    (hleft : .transported action id ∈ s.history.log) :
    (discipline d issuedOnly).Safe t (fun outcome s => outcome = .ok () →
      Delivered d issuedOnly s.history.log action decision id result)
      (Executor.finishAuthorized action decision id lease result) s := by
  have hstable : (discipline d issuedOnly).Stable fun s =>
      Dispatched d issuedOnly s.history.log action decision id ∧
        .transported action id ∈ s.history.log :=
    stable_log (I := fun log => Dispatched d issuedOnly log action decision id ∧
      .transported action id ∈ log) fun _ rest h => ⟨h.1.append rest, List.mem_append_left rest h.2⟩
  have hreserved := safe_stable hstable (clean_of_inside (all_raising
    (inside_perform (.prepareFinish lease result.responseBytes) trivial)) t s) ⟨hdispatched, hleft⟩
  refine safe_seq hreserved (fun reserved s₁ h₁ => ?_) fun _ _ _ heq => by cases heq
  have hcommitted : (discipline d issuedOnly).Safe t (fun outcome s => ∀ event, outcome = .ok event →
      Delivered d issuedOnly s.history.log action decision id result)
      (do
        let actionSha256 ← .ofExcept action.digest
        raising (perform (.commit .result (Executor.resultPayload actionSha256 decision id result)
          (some action.requestId.1) none)) : Prog P (Event P)) s₁ := by
    rw [digest_of_binding hdispatched.bound, Program.ofExcept_ok, Program.ret_bind]
    refine safe_act fun s₂ hrely _ => ⟨trivial, fun env s₃ r _ hcommit _ => safe_ofExcept.mpr ?_⟩
    rintro event rfl
    obtain ⟨hdispatched₂, hleft₂⟩ := hstable.rely hrely h₁.2
    obtain ⟨hlog, hsays⟩ := mirrored_of_commit hcommit
    refine ⟨?_, event, ⟨s₂.history.log, _, _, [], hlog, hleft₂⟩, hsays⟩
    rw [hlog]
    exact hdispatched₂.append _
  refine safe_attempt_seq hcommitted fun outcome s₂ h₂ => ?_
  cases outcome with
  | ok event =>
      have hkept : (discipline d issuedOnly).Stable fun s =>
          Delivered d issuedOnly s.history.log action decision id result :=
        stable_log (I := fun log => Delivered d issuedOnly log action decision id result)
          fun _ rest h => h.append rest
      exact safe_mono (fun _ _ h _ => h.2) (safe_stable hkept (clean_of_inside
        (inside_perform (.settle lease reserved result.responseBytes) trivial) t s₂) (h₂ event rfl))
  | error error =>
      exact safe_seq (clean_of_inside (inside_perform .failFinish trivial) t s₂)
        (fun _ _ _ heq => by cases heq) fun _ _ _ heq => by cases heq

theorem safe_deliver (bytes : ℤ) (lease : DispatchLease)
    (h : Holding d issuedOnly t action decision id s) :
    (discipline d issuedOnly).Safe t (fun outcome s => ∀ result, outcome = .ok result →
      Delivered d issuedOnly s.history.log action decision id result)
      (Executor.deliver action decision id bytes lease) s := by
  have hreleased : (discipline d issuedOnly).Safe t
      (fun _ s => Holding d issuedOnly t action decision id s)
      (raising (perform (.release action)) : Prog P (Option Bytes)) s := by
    refine safe_act fun s₁ hrely _ => ?_
    have h₁ := h.rely hrely
    refine ⟨⟨decision, id, h₁.dispatched⟩, fun env s₂ r _ hexec _ => ?_⟩
    exact safe_ofExcept.mpr (h₁.release hexec)
  refine safe_seq hreleased (fun secret s₁ h₁ => ?_) fun _ _ _ _ heq => by cases heq
  refine safe_act fun s₂ hrely _ => ?_
  have h₂ := h₁.rely hrely
  refine ⟨⟨⟨decision, h₂.dispatched⟩, h₂.owns, h₂.unused⟩, fun env s₃ r _ hexec _ => ?_⟩
  have hlog : s₃.history.log = s₂.history.log ++ [.transported action id] := by
    simp only [exec, Option.some.injEq, Prod.mk.injEq] at hexec
    obtain ⟨rfl, -⟩ := hexec
    rfl
  cases r with
  | error error =>
      intro _ heq
      cases heq
  | ok result =>
      have hleft : Dispatched d issuedOnly s₃.history.log action decision id ∧
          .transported action id ∈ s₃.history.log := by
        rw [hlog]
        exact ⟨h₂.dispatched.append _, List.mem_append_right _ (List.mem_singleton_self _)⟩
      have hfits (outcome : Except PyError Unit) : (discipline d issuedOnly).Safe t
          (fun _ s => Dispatched d issuedOnly s.history.log action decision id ∧
            .transported action id ∈ s.history.log) (.ofExcept outcome) s₃ := safe_ofExcept.mpr hleft
      change (discipline d issuedOnly).Safe t _ ((.ofExcept (ensure (result.responseBytes ≤ bytes)
        (PyError.runtimeError "transport exceeded response byte bound")) : Prog P Unit) >>= fun _ =>
          Executor.finishAuthorized action decision id lease result >>= fun _ => .ret result) s₃
      refine safe_seq (hfits _) (fun _ s₄ h₄ => ?_) fun _ _ _ _ heq => by cases heq
      refine safe_seq (safe_finishAuthorized lease result h₄.1 h₄.2) (fun _ s₅ hdelivered => ?_)
        fun _ _ _ _ heq => by cases heq
      rintro _ ⟨⟩
      exact hdelivered rfl

theorem yields_failed (lease : Option DispatchLease) (error : PyError) :
    (Executor.failed action id lease error : Prog P TransportResult).Yields fun _ => False := by
  refine yields_bind fun _ => yields_bind fun cancelled => ?_
  cases cancelled with
  | true => exact trivial
  | false => exact yields_bind fun _ => trivial

/-- A dispatch that fails has no result. -/
theorem safe_failed {Q : TransportResult → Runtime P → Prop} (lease : Option DispatchLease)
    (error : PyError) : (discipline d issuedOnly).Safe t (fun outcome s => ∀ result,
      outcome = .ok result → Q result s) (Executor.failed action id lease error) s :=
  safe_mono (fun _ _ h result heq => (h.2 result heq).elim)
    (safe_yields (yields_failed lease error) (clean_of_inside (inside_failed lease error) t s))

/-- Between its reservation and its commit, a thread holds the state lock of a running run at
the epoch of its decision, and it owns a fresh authorization. -/
structure Reserved (d : Deployment P) (issuedOnly : Prop) (t : ℕ) (decision : Decision P)
    (id : OpaqueId) (s : Runtime P) : Prop where
  locked : s.stateLock = some t
  running : s.state.phase = .running
  epoch : s.state.killEpoch = decision.body.killEpoch.1
  allow : decision.body.verdict = .allow
  owns : Owns t id s
  unused : Unused id s
  recorded : issuedOnly → OnRecord d decision s.history.log

theorem Reserved.rely (h : Reserved d issuedOnly t decision id s) (hrely : Rely t s s') :
    Reserved d issuedOnly t decision id s' := by
  obtain ⟨hlock, hstate⟩ := hrely.locked h.locked
  refine ⟨hlock, by rw [hstate]; exact h.running, by rw [hstate]; exact h.epoch, h.allow,
    hrely.owns id h.owns, hrely.unused id h.owns h.unused, fun hissued => ?_⟩
  obtain ⟨rest, hrest⟩ := hrely.log
  rw [hrest]
  exact (h.recorded hissued).append rest

theorem reserved_of_reserve {ns bytes : ℤ} {lease : DispatchLease} (hinv : Inv d issuedOnly s)
    (hid : decision.body.authorizationId = some id)
    (hrecorded : issuedOnly → OnRecord d decision s.history.log)
    (h : exec d env t s (.reserve decision.body ns bytes) = some (s', .ok lease)) :
    Reserved d issuedOnly t decision id s' := by
  simp only [exec, Option.ite_none_right_eq_some] at h
  obtain ⟨-, h⟩ := h
  rcases RunState.reserve_cases s.state decision.body ns bytes with ⟨_, heq⟩ | ⟨_, heq⟩ |
    ⟨id', expires, hphase, hallow, hepoch, hid', -, -, hfresh, -, -, heq⟩
  · rw [heq] at h
    cases h
  · rw [heq] at h
    cases h
  · obtain rfl : id' = id := Option.some.inj (hid'.symm.trans hid)
    rw [heq] at h
    simp only [Option.some.injEq, Prod.mk.injEq, Except.ok.injEq] at h
    obtain ⟨rfl, rfl⟩ := h
    exact ⟨rfl, hphase, hepoch.symm, hallow, AList.lookup_insert _,
      fun action hmem => hfresh (hinv.transported action id' hmem), hrecorded⟩

/-- The commit of the DISPATCH under the state lock. -/
theorem holding_of_commit {sha : String} {event : Event P}
    (hsigned : decision.verify d.manifest.body.gatewayKey = .ok ())
    (hbound : Executor.checkBinding d action decision.body = .ok ())
    (hid : decision.body.authorizationId = some id) (hsha : sha = decision.body.actionSha256.1)
    (h : Reserved d issuedOnly t decision id s)
    (hexec : exec d env t s (.commit .dispatch (Executor.dispatchPayload sha decision id)
      (some action.requestId.1) none) = some (s', .ok event)) :
    Holding d issuedOnly t action decision id s' := by
  obtain ⟨hlog, hpaid⟩ := mirrored_of_commit hexec
  rcases record_cases hexec with ⟨hsame, -⟩ | ⟨entry, -, -, hkept⟩ | ⟨_, _, _, _, heq, -⟩
  · rw [hsame] at hlog
    simp at hlog
  · rw [h.running, h.epoch] at hlog
    refine ⟨⟨hsigned, hbound, h.allow, hid, event, s.history.log, [], hlog, ⟨hpaid.kind, ?_⟩,
      option_eq_of_map_val hpaid.requestId, h.recorded⟩, ?_, fun action' hmem => ?_⟩
    · have hpayload := hpaid.payload
      rw [hsha, encode_dispatchPayload] at hpayload
      exact modelValidateJson_of_canonicalJson hpayload
    · unfold Owns
      rw [hkept.owner]
      exact h.owns
    · rw [hlog] at hmem
      rcases List.mem_append.mp hmem with hmem | hmem
      · exact h.unused action' hmem
      · cases List.mem_singleton.mp hmem
  · cases heq

theorem Holding.confirm {r : Unit} (h : Holding d issuedOnly t action decision id s)
    (hexec : exec d env t s .confirm = some (s', r)) :
    Holding d issuedOnly t action decision id s' := by
  simp only [exec, Option.ite_none_right_eq_some, Option.some.injEq, Prod.mk.injEq] at hexec
  obtain ⟨-, rfl, -⟩ := hexec
  exact ⟨h.dispatched, h.owns, h.unused⟩

/-- What a dispatch is handed. -/
structure Handed (d : Deployment P) (issuedOnly : Prop) (action : Action P) (decision : Decision P)
    (id : OpaqueId) (s : Runtime P) : Prop where
  signed : decision.verify d.manifest.body.gatewayKey = .ok ()
  bound : Executor.checkBinding d action decision.body = .ok ()
  named : decision.body.authorizationId = some id
  recorded : issuedOnly → OnRecord d decision s.history.log

theorem Handed.rely (h : Handed d issuedOnly action decision id s) (hrely : Rely t s s') :
    Handed d issuedOnly action decision id s' := by
  obtain ⟨rest, hrest⟩ := hrely.log
  exact ⟨h.signed, h.bound, h.named, fun hissued => by rw [hrest]; exact (h.recorded hissued).append rest⟩

theorem safe_beginAuthorized (ns bytes : ℤ) (h : Handed d issuedOnly action decision id s) :
    (discipline d issuedOnly).Safe t (fun outcome s => ∀ lease, outcome = .ok lease →
      Holding d issuedOnly t action decision id s)
      (Executor.beginAuthorized action decision id ns bytes) s := by
  refine safe_act fun s₁ hrely hinv => ⟨trivial, fun env s₂ granted _ hreserve _ => ?_⟩
  cases granted with
  | error error =>
      intro lease heq
      cases heq
  | ok lease =>
      have hreserved := reserved_of_reserve hinv h.named (h.rely hrely).recorded hreserve
      have hdigest := digest_of_binding h.bound
      have hcommitted : (discipline d issuedOnly).Safe t
          (fun outcome s => ∀ event, outcome = .ok event → Holding d issuedOnly t action decision id s)
          (do
            let actionSha256 ← .ofExcept action.digest
            raising (perform (.commit .dispatch (Executor.dispatchPayload actionSha256 decision id)
              (some action.requestId.1) none)) : Prog P (Event P)) s₂ := by
        rw [hdigest, Program.ofExcept_ok, Program.ret_bind]
        refine safe_act fun s₃ hrely₃ _ => ⟨trivial, fun env s₄ r _ hcommit _ => ?_⟩
        refine safe_ofExcept.mpr ?_
        rintro event rfl
        exact holding_of_commit h.signed h.bound h.named rfl (hreserved.rely hrely₃) hcommit
      refine safe_attempt_seq hcommitted fun outcome s₃ hholding => ?_
      cases outcome with
      | error error =>
          refine safe_act fun s₄ _ _ => ⟨trivial, fun env s₅ r _ _ _ => ?_⟩
          intro lease heq
          cases heq
      | ok event =>
          refine safe_act fun s₄ hrely₄ _ => ⟨trivial, fun env s₅ r _ hconfirm _ => ?_⟩
          rintro _ ⟨⟩
          exact ((hholding event rfl).rely hrely₄).confirm hconfirm

theorem safe_dispatch (ns : ℤ) (hrecorded : issuedOnly → OnRecord d decision s.history.log) :
    (discipline d issuedOnly).Safe t (fun outcome s => ∀ result, outcome = .ok result →
      ∃ id, Delivered d issuedOnly s.history.log action decision id result)
      (Executor.dispatch d action decision ns) s := by
  have hraised (error : PyError) (s : Runtime P) (result : TransportResult)
      (heq : (Except.error error : Except PyError TransportResult) = .ok result) :
      ∃ id, Delivered d issuedOnly s.history.log action decision id result := by
    cases heq
  unfold Executor.dispatch
  cases hsigned : decision.verify d.manifest.body.gatewayKey with
  | error error => exact hraised error s
  | ok _ =>
  cases hbound : Executor.checkBinding d action decision.body with
  | error error => exact hraised error s
  | ok _ =>
  cases hrule : Executor.matchedRule d decision.body with
  | error error => exact hraised error s
  | ok rule =>
  simp only [Program.ofExcept_ok, Program.ret_bind]
  cases hid : decision.body.authorizationId with
  | none => exact hraised _ s
  | some id =>
      have hhanded : Handed d issuedOnly action decision id s := ⟨hsigned, hbound, hid, hrecorded⟩
      refine safe_act fun s₁ hrely _ => ⟨trivial, fun env s₂ registered _ hregister _ => ?_⟩
      have hgrows := grows_exec hregister
      cases registered with
      | error error => exact hraised error s₂
      | ok _ =>
          have hhanded₂ : Handed d issuedOnly action decision id s₂ := by
            obtain ⟨rest, hrest⟩ := hgrows
            refine ⟨hsigned, hbound, hid, fun hissued => ?_⟩
            rw [hrest]
            exact ((hhanded.rely hrely).recorded hissued).append rest
          have hattempt : (discipline d issuedOnly).Safe t (fun outcome s => ∀ result,
              outcome = .ok result → Delivered d issuedOnly s.history.log action decision id result)
              (Executor.attemptDispatch action decision id ns rule.maxResponseBytes.1) s₂ := by
            refine safe_attempt_seq (safe_beginAuthorized ns _ hhanded₂) fun outcome s₃ hholding => ?_
            cases outcome with
            | error error => exact safe_failed none error
            | ok lease =>
                refine safe_handle (safe_mono ?_ (safe_deliver _ lease (hholding lease rfl)))
                intro outcome s₄ hdelivered
                cases outcome with
                | ok result => exact hdelivered
                | error error => exact safe_failed (some lease) error
          refine safe_finalize (safe_mono ?_ hattempt)
          intro outcome s₃ hdelivered
          have hkept : (discipline d issuedOnly).Stable fun s => ∀ result, outcome = .ok result →
              Delivered d issuedOnly s.history.log action decision id result :=
            stable_log (I := fun log => ∀ result, outcome = .ok result →
              Delivered d issuedOnly log action decision id result)
              fun _ rest h result heq => (h result heq).append rest
          refine safe_mono ?_ (safe_stable hkept (clean_of_inside (inside_perform (.unregister id)
            trivial) t s₃) hdelivered)
          rintro done s₄ ⟨-, h⟩
          cases done with
          | ok _ => exact fun result heq => ⟨id, h result heq⟩
          | error error => exact hraised error s₄

/-! ## All calls -/

/-- What a call hands to the environment. -/
def Done (d : Deployment P) (_ : Call P) (outcome : Except PyError (Reply P)) (s : Runtime P) : Prop :=
  ∀ result, outcome = .ok (.submitted result) → ∀ decision, result.decision = some decision →
    OnRecord d decision s.history.log

/-- Calls that submit nothing. -/
theorem safe_unsubmitted {α : Type} {p : Prog P α} {reply : α → Reply P} {call : Call P}
    (hreply : ∀ value result, reply value ≠ .submitted result)
    (hp : (discipline d issuedOnly).Safe t (fun _ _ => True) p s) :
    (discipline d issuedOnly).Safe t (Done d call) (reply <$> p) s :=
  safe_seq hp (fun value _ _ result heq => absurd (Except.ok.inj heq) (hreply value result))
    fun _ _ _ _ heq => by cases heq

theorem safe_call (call : Call P) (h : Inv d issuedOnly s)
    (hstart : (handedDecisions d issuedOnly).starts s call) :
    (discipline d issuedOnly).Safe t (Done d call) (body d call) s := by
  have hunsubmitted {α : Type} {p : Prog P α} (hp : p.All Op.Inside) {reply : α → Reply P}
      (hreply : ∀ value result, reply value ≠ .submitted result) :
      (discipline d issuedOnly).Safe t (Done d call) (reply <$> p) s :=
    safe_unsubmitted hreply (clean_of_inside hp t s)
  cases call with
  | submitRaw raw =>
      refine safe_seq (safe_submitRaw raw) (fun result s₁ hreturned => ?_) fun _ _ _ _ heq => by cases heq
      rintro _ ⟨⟩
      exact hreturned result rfl
  | dispatch action decision ns =>
      refine safe_unsubmitted (fun _ _ heq => by cases heq)
        (safe_mono (fun _ _ _ => trivial) (safe_dispatch ns fun hissued => ?_))
      exact h.issued decision (hstart hissued action decision ns rfl)
  | failClosed reason requestId =>
      exact hunsubmitted (inside_failClosed reason requestId) fun _ _ heq => by cases heq
  | enforceRuntimeDeadline ns =>
      refine hunsubmitted (compositional.enforceRuntimeDeadline inside_ordinary
        (fun _ _ _ _ _ => inside_commit _ _ _ _) inside_contain d ns) fun _ _ heq => by cases heq
  | contain trigger ns => exact hunsubmitted (inside_contain trigger ns) fun _ _ heq => by cases heq
  | emergencyIsolate => exact hunsubmitted inside_isolate fun _ _ heq => by cases heq
  | complete =>
      exact hunsubmitted (compositional.complete inside_supervisor d) fun _ _ heq => by cases heq
  | receipt status =>
      exact hunsubmitted (compositional.receipt inside_supervisor d status) fun _ _ heq => by cases heq

theorem inv_retire (h : Inv d issuedOnly s) {call : Call P} {outcome : Except PyError (Reply P)}
    (hdone : Done d call outcome s) : Inv d issuedOnly (retire call outcome s) := by
  unfold retire
  split
  · rename_i decision
    refine ⟨h.cleared, h.owned, h.transported, fun issued hissued => ?_⟩
    rcases List.mem_append.mp hissued with hissued | hissued
    · exact h.issued issued hissued
    · obtain rfl := List.mem_singleton.mp hissued
      exact hdone _ rfl issued rfl
  · exact h

theorem rely_retire (call : Call P) (outcome : Except PyError (Reply P)) (u : ℕ) :
    Rely u s (retire call outcome s) := by
  unfold retire
  split
  · exact ⟨⟨[], (List.append_nil _).symm⟩, fun _ => id, fun _ _ => id, fun h => ⟨h, rfl⟩⟩
  · exact .refl u s

theorem covers : (discipline d issuedOnly).Covers (Done d) where
  stable hrely h result heq decision hsome := by
    obtain ⟨rest, hrest⟩ := Rely.log hrely
    rw [hrest]
    exact (h result heq decision hsome).append rest
  calls _ call _ h hstart := safe_call call h hstart
  retire_inv h hdone := inv_retire h hdone
  retire_rely {call outcome _} _ _ u := rely_retire call outcome u

theorem inv_init (witness : TransparencyWitness P) : Inv d issuedOnly (Runtime.init d witness) where
  cleared := justified_nil
  owned id u h := by
    rw [show (Runtime.init d witness).history.owner = ∅ from rfl, AList.lookup_empty] at h
    cases h
  transported _ _ h := by cases h
  issued _ h := by cases h

end Mediation

/-- In every interleaving of any calls, whatever dispatches are handed and whatever the outside
world answers: a credential is only released and a transport only started for an action after
the mirrored DISPATCH of a signed allowance bound to it, committed while the run was running at
the epoch of the allowance, and no authorization is carried twice. If dispatches are handed what
the gateway has returned, the DISPATCH comes after the mirrored DECISION and the mirrored REQUEST
it answers, and the requested action is one that the policy permits. -/
theorem cleared_of_reachable (P : Platform) (d : Deployment P) (issuedOnly : Prop)
    (witness : TransparencyWitness P) (c : Config (runtimeService d))
    (h : Reachable (handedDecisions d issuedOnly) (Runtime.init d witness) c) :
    Justified (Cleared d issuedOnly) c.shared.history.log :=
  (invariant_of_reachable Mediation.covers (Mediation.inv_init witness) h).cleared

namespace Reference

/-- The dispatch of a reference decision gets as far as its transport. -/
theorem exists_carried {manifest : Manifest platform} (hm : Signed manifest)
    (rule : RunRule (runtimeService (deployment manifest)))
    (hmoves : ∀ s op, rule.moves s op (world 2000)) {s' s₀ : Runtime platform}
    {request decided : Event platform} {decision : Decision platform} {digest : Sha256Hex} {history}
    (hdecided : Decided action manifest (Runtime.init (deployment manifest) Reference.witness) s' request
      decided decision digest ⟨2000, by decide⟩ ⟨1000002000, by decide⟩)
    (hs₀ : s₀ = { counted s' with history := history }) :
    ∃ s₂ code, Runs rule 0 s₀ (Executor.dispatch (deployment manifest) action decision 2000) s₂ code ∧
      .transported action authorizationId ∈ s₂.history.log := by
  obtain ⟨hroomy, hhealthy, hinflight, hconsumed⟩ := hdecided.dispatchable hm (le_refl 2000) hs₀
  have hevents : s₀.ledger.events = [request, decided] := by
    rw [hs₀]
    exact hdecided.events
  obtain ⟨s₁, event, hleased, -⟩ := exists_inflight rule 0 ⟨2000, by decide⟩
    (show (2000 : ℤ) ≤ (⟨1000002000, by decide⟩ : SafeNonNegativeInt).1 by decide) hm hdecided
    (fun _ _ _ _ => hmoves _ _) hroomy hhealthy (by rw [hevents]; exact (by decide : 2 + 1 < 1000))
    hinflight hconsumed
  have hruns := hleased.trans (Runs.bind (Runs.attempt (Runs.bind (Runs.attempt
    (@runs_carried _ _ decision _ 0 2000 hm (fun _ _ _ _ => hmoves _ _) s₁ _ _ _ (.refl _ _))))))
  exact ⟨_, _, hruns, List.mem_append_right _ (List.mem_singleton_self _)⟩

/-- A request of the reference deployment is submitted, and the transport of its dispatch is
started. -/
theorem exists_transported : ∃ (manifest : Manifest platform)
    (c : Config (runtimeService (deployment manifest))),
    Reachable (issuedDispatches (deployment manifest))
      (Runtime.init (deployment manifest) Reference.witness) c ∧
    .transported action authorizationId ∈ c.shared.history.log := by
  obtain ⟨manifest, hm⟩ := exists_signed
  obtain ⟨raw, hwire, hraw⟩ := exists_wire
  set rule := issuedDispatches (deployment manifest)
  obtain ⟨s', request, decided, decision, digest, hends, hdecided⟩ :=
    exists_submitRaw rule 0 ⟨2000, by decide⟩
      ⟨1000002000, by decide⟩ hm (fun _ _ _ _ _ => trivial) (healthy_init manifest 2000) (by decide)
      (roomy_init hm) (show 0 < 800 by decide) ⟨by decide, by decide⟩ rfl hwire hraw
  have hsubmit : rule.starts (Runtime.init (deployment manifest) Reference.witness)
      (.submitRaw raw) := by
    intro _ _ _ heq
    cases heq
  obtain ⟨s₀, history, hs₀, hissued, hcall⟩ : ∃ s₀ history,
      s₀ = { counted s' with history := history } ∧ decision ∈ history.issued ∧
      CallStep rule (Runtime.init (deployment manifest) Reference.witness) s₀ :=
    ⟨_, _, rfl, List.mem_append_right _ (List.mem_singleton_self _),
      .call 0 (Call.submitRaw raw) _ hsubmit hends⟩
  obtain ⟨s₂, code, hruns, hmem⟩ := exists_carried hm rule (fun _ _ => trivial) hdecided hs₀
  have hstart : rule.starts s₀ (.dispatch action decision 2000) := by
    rintro _ _ _ ⟨⟩
    rw [hs₀]
    exact hissued
  have hreach := (reachable_of_sequence (.single hcall)).trans
    (steps_call (t := 0) rfl hstart (Runs.bind hruns))
  exact ⟨manifest, _, hreach, hmem⟩

end Reference

open Reference in
/-- The theorem when the transport of a reference dispatch has been started. -/
theorem cleared_transported : ∃ (manifest : Manifest platform)
    (c : Config (runtimeService (deployment manifest))),
    Reachable (handedDecisions (deployment manifest) True)
      (Runtime.init (deployment manifest) Reference.witness) c ∧
    .transported action authorizationId ∈ c.shared.history.log ∧
    Justified (Cleared (deployment manifest) True) c.shared.history.log := by
  obtain ⟨manifest, c, hreach, hmem⟩ := exists_transported
  have hhanded : Reachable (handedDecisions (deployment manifest) True) _ c :=
    hreach.mono (fun _ _ hstart _ => hstart) fun _ _ _ _ => trivial
  exact ⟨manifest, c, hhanded, hmem, cleared_of_reachable _ _ _ _ _ hhanded⟩

end Containment
