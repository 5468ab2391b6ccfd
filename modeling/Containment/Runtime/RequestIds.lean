/-
# Request identifiers

The workload chooses the identifier of a request, and `submit_raw` commits it without
looking for an earlier one. The verifier refuses a second request with the same
identifier. So the identifiers in the ledger are distinct as long as the workload never
uses one again, and one that does makes the evidence of the whole run unverifiable.
-/

import Containment.Reference.Submission
import Containment.Runtime.SideCode

namespace Containment

open Json Concurrency

variable {P : Platform}

/-- No two requests carry the same identifier. -/
def RequestsDistinct (events : List (Event P)) : Prop :=
  (events.filter fun event => event.body.kind = .request).Pairwise fun event event' =>
    event.body.requestId ≠ event'.body.requestId

/-- No request in the ledger carries the identifier. -/
def Unused (events : List (Event P)) (id : OpaqueId) : Prop :=
  ∀ event ∈ events, event.body.kind = .request → event.body.requestId ≠ some id

theorem requestsDistinct_snoc {events : List (Event P)} {event : Event P}
    (h : event.body.kind ≠ .request) :
    RequestsDistinct (events ++ [event]) ↔ RequestsDistinct events := by
  rw [RequestsDistinct, List.filter_append, List.filter_cons_of_neg (by simpa using h),
    List.filter_nil, List.append_nil, RequestsDistinct]

theorem RequestsDistinct.snoc_request {events : List (Event P)} {event : Event P} {id : OpaqueId}
    (h : RequestsDistinct events) (hunused : Unused events id)
    (hid : event.body.requestId = some id) : RequestsDistinct (events ++ [event]) := by
  rw [RequestsDistinct, List.filter_append, List.pairwise_append]
  refine ⟨h, ?_, ?_⟩
  · exact List.Pairwise.sublist List.filter_sublist (List.pairwise_singleton _ _)
  · intro earlier hearlier event' hevent'
    rw [List.mem_filter, decide_eq_true_eq] at hearlier
    rw [List.mem_singleton.mp (List.mem_of_mem_filter hevent'), hid]
    exact hunused earlier hearlier.1 hearlier.2

/-- A request is submitted only with an identifier that is not in the ledger yet. -/
def freshRequests (d : Deployment P) : RunRule (runtimeService d) where
  starts s call := ∀ raw action, call = .submitRaw raw → Action.fromWire P raw = .ok action →
    Unused s.ledger.events action.requestId
  moves _ _ _ := True

/-! ## Code that commits no request -/

/-- Operations that commit no request. -/
def Op.NoRequest : Op P → Prop
  | .commit kind _ _ _ => kind ≠ .request
  | _ => True

theorem Op.Side.noRequest (op : Op P) (h : op.Side) : op.NoRequest := by
  cases op with
  | commit kind payload requestId ns =>
      rcases h with rfl | rfl | rfl <;> exact nofun
  | _ => exact trivial

theorem noRequest_of_side {α : Type} {p : Prog P α} (hp : p.All Op.Side) : p.All Op.NoRequest :=
  all_mono Op.Side.noRequest hp

theorem Op.Quiet.noRequest (op : Op P) (h : op.Quiet) : op.NoRequest := by
  cases op <;> first | exact trivial | exact absurd h id

theorem noRequest_dispatch (d : Deployment P) (action : Action P) (decision : Decision P) (ns : ℤ) :
    (Executor.dispatch d action decision ns).All Op.NoRequest :=
  all_dispatch Op.Quiet.noRequest Op.Side.noRequest d action decision ns (fun _ _ => nofun)
    fun _ _ _ => nofun

section Calls

variable {d : Deployment P} {t : ℕ} {s : Runtime P}

/-- Such code leaves the requests alone. -/
theorem distinct_of_noRequest {α : Type} {p : Prog P α} (hp : p.All Op.NoRequest)
    (h : RequestsDistinct s.ledger.events) :
    Ensures (freshRequests d) t (fun _ s => RequestsDistinct s.ledger.events) p s := by
  refine ensures_of_all ?_ hp h
  intro env s₁ op s₂ result hop _ hexec hdistinct
  by_cases hcommit : ∃ kind payload requestId ns, op = .commit kind payload requestId ns
  · obtain ⟨kind, payload, requestId, ns, rfl⟩ := hcommit
    simp only [exec, Option.some.injEq] at hexec
    rcases commit_cases d env s₁ kind payload requestId ns with ⟨_, heq⟩ |
      ⟨event, _, _, _, happend, -, heq⟩
    · rw [heq, Prod.mk.injEq] at hexec
      obtain ⟨rfl, -⟩ := hexec
      exact hdistinct
    · rw [heq, Prod.mk.injEq] at hexec
      obtain ⟨rfl, -⟩ := hexec
      obtain ⟨-, hkind, -, -⟩ := append_ok happend
      exact (requestsDistinct_snoc (by rw [hkind]; exact hop)).mpr hdistinct
  · simp only [not_exists] at hcommit
    rwa [(events_exec hexec hcommit).1]

/-- The commit of a request whose identifier is unused. -/
theorem distinct_commit_request (h : RequestsDistinct s.ledger.events) {id : OpaqueId}
    (hunused : Unused s.ledger.events id) (payload : Json) (ns : Option ℤ) :
    Ensures (freshRequests d) t (fun _ s => RequestsDistinct s.ledger.events)
      (Gateway.commit .request payload (some id.1) ns) s := by
  have hcommit : Ensures (freshRequests d) t (fun _ s => RequestsDistinct s.ledger.events)
      (raising (perform (.commit .request payload (some id.1) ns)) : Prog P (Event P)) s := by
    intro env s₁ result _ hexec
    refine ensures_ofExcept.mpr ?_
    simp only [exec, Option.some.injEq] at hexec
    rcases commit_cases d env s .request payload (some id.1) ns with ⟨_, heq⟩ |
      ⟨event, _, _, _, happend, -, heq⟩
    · rw [heq, Prod.mk.injEq] at hexec
      obtain ⟨rfl, -⟩ := hexec
      exact h
    · rw [heq, Prod.mk.injEq] at hexec
      obtain ⟨rfl, -⟩ := hexec
      obtain ⟨-, -, hid, -⟩ := append_ok happend
      exact h.snoc_request hunused (Reference.requestId_eq_of_map hid)
  refine ensures_handle hcommit (fun _ _ h => h) fun error s₁ h₁ => ?_
  exact distinct_of_noRequest (all_bind (noRequest_of_side side_emergencyIsolate) fun _ => trivial) h₁

theorem distinct_decideAction (h : RequestsDistinct s.ledger.events) {action : Action P}
    (hunused : Unused s.ledger.events action.requestId) (admittedNs : ℤ) :
    Ensures (freshRequests d) t (fun _ s => RequestsDistinct s.ledger.events)
      (Gateway.decideAction d action admittedNs) s := by
  refine ensures_bind (ensures_ofExcept.mpr ?_)
  cases action.digest with
  | error error => exact h
  | ok sha =>
      refine ensures_seq (distinct_commit_request h hunused _ _) (fun request s₁ h₁ => ?_)
        fun _ _ h => h
      refine distinct_of_noRequest ?_ h₁
      refine all_bind (noRequest_of_side side_monotonicNow) fun decidedNs => ?_
      refine all_bind (noRequest_of_side side_wallNow) fun wall => ?_
      refine all_bind (all_ofExcept _) fun decidedAt => ?_
      refine all_bind (all_perform trivial) fun result => ?_
      refine all_bind (noRequest_of_side (side_latchOnKill _)) fun _ => ?_
      refine all_bind (all_perform trivial) fun epoch => ?_
      refine all_bind (noRequest_of_side (side_authorization d _ _)) fun capability => ?_
      refine all_bind (all_ofExcept _) fun decision => ?_
      refine all_bind (all_commit Op.Side.noRequest nofun) fun event => ?_
      exact all_bind (all_perform trivial) fun _ => noRequest_of_side (side_conclude _ _ _ _)

/-- Admission leaves the ledger as it is. -/
theorem ensures_silent {op : Op P} (hop : ∀ kind payload requestId ns,
    op ≠ .commit kind payload requestId ns) :
    Ensures (freshRequests d) t (fun _ s' => s'.ledger.events = s.ledger.events)
      (perform op : Prog P op.Res) s :=
  fun _ _ _ _ hexec => (events_exec hexec hop).1

theorem distinct_submitRaw (h : RequestsDistinct s.ledger.events) {raw : Bytes}
    (hunused : ∀ action, Action.fromWire P raw = .ok action →
      Unused s.ledger.events action.requestId) :
    Ensures (freshRequests d) t (fun _ s => RequestsDistinct s.ledger.events)
      (Gateway.submitRaw d raw) s := by
  have hclock : Ensures (freshRequests d) t (fun _ s' => s'.ledger.events = s.ledger.events)
      (monotonicNow : Prog P ℤ) s :=
    ensures_seq (ensures_silent fun _ _ _ _ => nofun) (fun _ _ heq => ensures_ofExcept.mpr heq)
      fun _ _ heq => heq
  refine ensures_seq hclock (fun admittedNs s₁ heq₁ => ?_) fun _ _ heq => by rw [heq]; exact h
  split_ifs
  · exact distinct_of_noRequest (noRequest_of_side (side_rejectLate _)) (by rw [heq₁]; exact h)
  refine ensures_seq (ensures_silent (s := s₁) fun _ _ _ _ => nofun) (fun admission s₂ heq₂ => ?_)
    fun _ _ heq => by rw [heq, heq₁]; exact h
  have h₂ : RequestsDistinct s₂.ledger.events := by rw [heq₂, heq₁]; exact h
  cases admission with
  | droppedAfterKill => exact h₂
  | firstOverload => exact distinct_of_noRequest (noRequest_of_side (side_rejectOverload _ _)) h₂
  | admitted =>
      dsimp only
      cases hwire : Action.fromWire P raw with
      | error _ => exact distinct_of_noRequest (noRequest_of_side (side_rejectMalformed _ _)) h₂
      | ok action =>
          exact distinct_decideAction h₂ (by rw [heq₂, heq₁]; exact hunused action hwire) admittedNs

theorem distinct_body (h : RequestsDistinct s.ledger.events) {call : Call P}
    (hcall : (freshRequests d).starts s call) :
    Ensures (freshRequests d) t (fun _ s => RequestsDistinct s.ledger.events) (body d call) s := by
  have hmap {α : Type} {p : Prog P α} {f : α → Reply P} (hp : p.All Op.Side) :
      Ensures (freshRequests d) t (fun _ s => RequestsDistinct s.ledger.events) (f <$> p) s :=
    distinct_of_noRequest (all_bind (noRequest_of_side hp) fun _ => trivial) h
  cases call with
  | submitRaw raw =>
      exact ensures_seq (distinct_submitRaw h fun action hwire => hcall raw action rfl hwire)
        (fun _ _ h => h) fun _ _ h => h
  | dispatch action decision ns =>
      exact distinct_of_noRequest
        (all_bind (noRequest_dispatch d action decision ns) fun _ => trivial) h
  | failClosed reasonCode requestId => exact hmap (side_failClosed _ _)
  | enforceRuntimeDeadline ns => exact hmap (side_enforceRuntimeDeadline d ns)
  | contain trigger ns => exact hmap (side_contain trigger ns)
  | emergencyIsolate => exact hmap side_emergencyIsolate
  | complete => exact hmap (side_complete d)
  | receipt status => exact hmap (side_receipt d status)

end Calls

/-- In every sequence of calls in which no submission uses an identifier again, the
requests in the ledger have distinct identifiers. -/
theorem requestsDistinct_of_sequence (P : Platform) (d : Deployment P)
    (witness : TransparencyWitness P) (s : Runtime P)
    (h : Sequence (freshRequests d) (Runtime.init d witness) s) :
    RequestsDistinct s.ledger.events := by
  refine invariant_of_sequence (fun s : Runtime P => RequestsDistinct s.ledger.events) ?_ ?_ h
  · exact List.Pairwise.nil
  · intro t call s hdistinct hstart
    refine ensures_mono ?_ (distinct_body hdistinct hstart)
    intro outcome s h
    change RequestsDistinct (retire call outcome s).ledger.events
    unfold retire
    split <;> exact h

section Reused

open Reference

/-- A sequence of submissions, whatever the outside world does. -/
def anyRequests (d : Deployment P) : RunRule (runtimeService d) where
  starts _ call := ∃ raw, call = .submitRaw raw
  moves _ _ _ := True

/-- An action with a request ID of its own. -/
def otherAction : Action platform := actionNamed ⟨"request:other", by decide⟩

theorem servable_other : Servable otherAction := by
  have hfits : Fits platform 64 6000 ((Action.codec platform).encode otherAction) :=
    fits_of_validate (by decide +kernel) (by decide +kernel)
  have hheight : ((Action.codec platform).encode otherAction).height ≤ 63 := by decide +kernel
  exact ⟨⟨_, rfl⟩, hfits.admissible, hheight, hfits.span⟩

/-- The state in which the next submission of a healthy run starts. -/
theorem healthy_of_decided {act : Action platform} {manifest : Manifest platform}
    {s' s₁ : Runtime platform} {request decided : Event platform} {decision : Decision platform}
    {digest : Sha256Hex} {expires : SafeNonNegativeInt} {history} (hm : Signed manifest)
    (h : Decided act manifest (Runtime.init (deployment manifest) Reference.witness) s' request decided
      decision digest ⟨2000, by decide⟩ expires)
    (hs₁ : s₁ = { counted s' with history := history }) :
    Healthy manifest s₁ 2000 ∧ Roomy 1 s₁ ∧ s₁.ledger.events = [request, decided] := by
  have hroomy := h.roomy (roomy_init hm)
  rw [hs₁]
  exact ⟨⟨h.healthy.observed, h.healthy.agrees, h.healthy.unsealed, h.healthy.room, h.healthy.last⟩,
    ⟨hroomy.phase, hroomy.epoch, hroomy.criteria, hroomy.admitted, hroomy.window, hroomy.inflight,
      hroomy.egress, hroomy.rule, hroomy.grant, hroomy.stateLock⟩, h.events⟩

/-- Two submissions with request IDs of their own. -/
theorem requestsDistinct_submissions : ∃ (manifest : Manifest platform) (s : Runtime platform)
    (request decided request' decided' : Event platform),
    Sequence (freshRequests (deployment manifest))
      (Runtime.init (deployment manifest) Reference.witness) s ∧
    s.ledger.events = [request, decided, request', decided'] ∧
    request.body.kind = .request ∧ request'.body.kind = .request ∧
    RequestsDistinct s.ledger.events := by
  obtain ⟨manifest, hm⟩ := exists_signed
  obtain ⟨raw, hwire, hraw⟩ := exists_wire
  obtain ⟨raw', hwire', hraw'⟩ := servable_other.exists_wire
  obtain ⟨s', request, decided, decision, digest, hends, hdecided⟩ :=
    exists_submitRaw (freshRequests (deployment manifest)) 0 ⟨2000, by decide⟩ ⟨1000002000, by decide⟩ hm
      (fun _ _ _ _ _ => trivial) (healthy_init manifest 2000) (by decide)
      (roomy_init hm) (show 0 < 800 by decide) ⟨by decide, by decide⟩ rfl hwire hraw
  have hunused : (freshRequests (deployment manifest)).starts
      (Runtime.init (deployment manifest) Reference.witness) (.submitRaw raw) := by
    intro raw' action' _ _ event hmem
    cases hmem
  obtain ⟨s₁, history, hs₁, hfirst⟩ : ∃ s₁ history, s₁ = { counted s' with history := history } ∧
      CallStep (freshRequests (deployment manifest))
        (Runtime.init (deployment manifest) Reference.witness) s₁ :=
    ⟨_, { s'.history with issued := s'.history.issued ++ [decision] }, rfl,
      .call 0 (Call.submitRaw raw) _ hunused hends⟩
  obtain ⟨hhealthy, hroomy, hevents⟩ := healthy_of_decided hm hdecided hs₁
  obtain ⟨s'', request', decided', decision', digest', hends', hdecided'⟩ :=
    servable_other.exists_submitRaw (freshRequests (deployment manifest)) 0 ⟨2000, by decide⟩
      ⟨1000002000, by decide⟩ hm (fun _ _ _ _ _ => trivial) hhealthy (by decide) hroomy
      (by rw [hevents]; exact (show 2 < 800 by decide)) ⟨by decide, by decide⟩ rfl hwire' hraw'
  have hfresh : (freshRequests (deployment manifest)).starts s₁ (.submitRaw raw') := by
    rintro _ act ⟨⟩ hact event hmem hkind
    obtain rfl : otherAction = act := Except.ok.inj (hwire'.symm.trans hact)
    rw [hevents, List.mem_pair] at hmem
    rcases hmem with rfl | rfl
    · rw [hdecided.requested.2]
      decide
    · rw [hdecided.located.1] at hkind
      cases hkind
  have hsequence : Sequence (freshRequests (deployment manifest))
      (Runtime.init (deployment manifest) Reference.witness) _ :=
    .tail (.single hfirst) (.call 0 (Call.submitRaw raw') _ hfresh hends')
  refine ⟨manifest, _, request, decided, request', decided', hsequence, ?_, hdecided.requested.1,
    hdecided'.requested.1, requestsDistinct_of_sequence _ (deployment manifest) Reference.witness _
      hsequence⟩
  change s''.ledger.events = _
  rw [hdecided'.events, hevents]
  rfl

/-- The same bytes are submitted twice. -/
theorem requests_not_distinct :
    ¬ ∀ (P : Platform) (d : Deployment P) (witness : TransparencyWitness P) (s : Runtime P),
      Sequence (anyRequests d) (Runtime.init d witness) s → RequestsDistinct s.ledger.events := by
  intro hclaim
  obtain ⟨manifest, hm⟩ := exists_signed
  obtain ⟨raw, hwire, hraw⟩ := exists_wire
  have hmoves (s : Runtime platform) (op : Op platform) : Healthy manifest s 2000 → Calm 2000 op →
      Succeeds manifest 2000 s op →
      (anyRequests (deployment manifest)).moves s op (world 2000) := fun _ _ _ => trivial
  obtain ⟨s', request, decided, decision, digest, hends, hdecided⟩ :=
    exists_submitRaw _ 0 ⟨2000, by decide⟩ ⟨1000002000, by decide⟩ hm
      hmoves (healthy_init manifest 2000) (by decide) (roomy_init hm) (show 0 < 800 by decide)
      ⟨by decide, by decide⟩ rfl hwire hraw
  have hfirst : CallStep (anyRequests (deployment manifest)) _ _ :=
    .call 0 (Call.submitRaw raw) _ ⟨raw, rfl⟩ hends
  -- The second submission starts where the first one ended.
  set s₁ := retire (.submitRaw raw)
    (.ok (.submitted ⟨true, "policy.allowed", some action, some decision⟩)) (counted s') with hs₁
  obtain ⟨hhealthy, hroomy₁, hevents⟩ := healthy_of_decided hm hdecided (rfl : s₁ = _)
  obtain ⟨s'', request', decided', decision', digest', hends', hdecided'⟩ :=
    exists_submitRaw _ 0 ⟨2000, by decide⟩ ⟨1000002000, by decide⟩ hm
      hmoves hhealthy (by decide) hroomy₁ (by rw [hevents]; exact (show 2 < 800 by decide)) ⟨by decide, by decide⟩ rfl
      hwire hraw
  have hsecond : CallStep (anyRequests (deployment manifest)) s₁ _ :=
    .call 0 (Call.submitRaw raw) _ ⟨raw, rfl⟩ hends'
  have hdistinct := hclaim _ (deployment manifest) Reference.witness _ (.tail (.single hfirst) hsecond)
  change RequestsDistinct s''.ledger.events at hdistinct
  rw [hdecided'.events, hevents] at hdistinct
  have hfilter : ([request, decided] ++ [request', decided']).filter
      (fun event => event.body.kind = .request) = [request, request'] := by
    have hkind : decided.body.kind ≠ .request := by rw [hdecided.located.1]; decide
    have hkind' : decided'.body.kind ≠ .request := by rw [hdecided'.located.1]; decide
    simp [hdecided.requested.1, hdecided'.requested.1, hkind, hkind']
  rw [RequestsDistinct, hfilter, List.pairwise_pair] at hdistinct
  exact hdistinct (hdecided.requested.2.trans hdecided'.requested.2.symm)

end Reused

end Containment
