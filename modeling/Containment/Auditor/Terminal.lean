/-
# The end of a dispatch

A dispatch can end with a result or with a confirmed cancellation. The generator keeps
one flag for each. A cancellation is tested against both flags and a result only against
its own, so the one way for a dispatch to end twice is a result that comes after a
confirmed cancellation.
-/

import Containment.Auditor.Soundness
import Containment.Reference.Requests

namespace Containment

open Json

variable {P : Platform}

/-- The event is a CANCELLATION with status CONFIRMED. -/
def IsConfirmation (event : Event P) : Prop :=
  event.body.kind = .cancellation ∧ ∃ payload,
    modelValidateJson P CancellationEventPayload.codec event.body.payloadCanonicalJson.1 =
      .ok payload ∧ payload.status = .confirmed

def IsTerminal (event : Event P) : Prop := event.body.kind = .result ∨ IsConfirmation event

/-- No dispatch has two terminal events. -/
def AtMostOneTerminal (events : List (Event P)) : Prop :=
  ∀ dispatch ∈ events, dispatch.body.kind = .dispatch →
    ∀ (i j : ℕ) event event', events[i]? = some event → events[j]? = some event' →
      IsTerminal event → IsTerminal event' → event.body.requestId = dispatch.body.requestId →
      event'.body.requestId = dispatch.body.requestId → i = j

/-- A result comes after a confirmed cancellation of the same request. -/
def ResultAfterConfirmation (events : List (Event P)) : Prop :=
  ∃ (i j : ℕ) (event event' : Event P), i < j ∧ events[i]? = some event ∧
    events[j]? = some event' ∧ IsConfirmation event ∧ event'.body.kind = .result ∧
    event.body.requestId = event'.body.requestId

/-- The flags of the traces, as far as the events set them. -/
structure Flagged (events : List (Event P)) (st : Inspection P) : Prop where
  completed : ∀ event ∈ events, event.body.kind = .result → ∃ id trace,
    event.body.requestId = some id ∧ st.traces.lookup id = some trace ∧ trace.completed = true
  confirmed : ∀ event ∈ events, IsConfirmation event → ∃ id trace,
    event.body.requestId = some id ∧ st.traces.lookup id = some trace ∧
      trace.cancellationConfirmed = true
  ordered : ∀ (i j : ℕ) event event', i < j → events[i]? = some event →
    events[j]? = some event' → IsTerminal event → IsTerminal event' →
    event.body.requestId = event'.body.requestId →
    IsConfirmation event ∧ event'.body.kind = .result

/-- No flag is taken back. -/
def KeepsFlags (st st' : Inspection P) : Prop :=
  ∀ id trace, st.traces.lookup id = some trace → ∃ trace', st'.traces.lookup id = some trace' ∧
    (trace.completed = true → trace'.completed = true) ∧
    (trace.cancellationConfirmed = true → trace'.cancellationConfirmed = true)

theorem keepsFlags_of_traces {st st' : Inspection P} (h : st'.traces = st.traces) :
    KeepsFlags st st' := fun _ trace htrace => ⟨trace, by rwa [h], fun hc => hc, fun hc => hc⟩

theorem keepsFlags_of_insert {st st' : Inspection P} {id : OpaqueId} {trace' : RequestTrace P}
    (h : st'.traces = st.traces.insert id trace')
    (hkept : ∀ trace, st.traces.lookup id = some trace →
      (trace.completed = true → trace'.completed = true) ∧
      (trace.cancellationConfirmed = true → trace'.cancellationConfirmed = true)) :
    KeepsFlags st st' := by
  intro id₀ trace htrace
  by_cases hid : id₀ = id
  · subst hid
    exact ⟨trace', by rw [h, AList.lookup_insert], hkept trace htrace⟩
  · exact ⟨trace, by rwa [h, AList.lookup_insert_ne hid], fun hc => hc, fun hc => hc⟩

section Turn

variable {manifest : Manifest P} {receipt : Receipt P} {events : List (Event P)}
  {st st' : Inspection P} {event : Event P}

/-- A turn that keeps the flags and accounts for its own event. -/
theorem Flagged.turn (h : Flagged events st) (hkeeps : KeepsFlags st st')
    (hcompleted : event.body.kind = .result → ∃ id trace,
      event.body.requestId = some id ∧ st'.traces.lookup id = some trace ∧ trace.completed = true)
    (hconfirmed : IsConfirmation event → ∃ id trace, event.body.requestId = some id ∧
      st'.traces.lookup id = some trace ∧ trace.cancellationConfirmed = true)
    (hordered : ∀ e ∈ events, IsTerminal e → IsTerminal event →
      e.body.requestId = event.body.requestId → IsConfirmation e ∧ event.body.kind = .result) :
    Flagged (events ++ [event]) st' := by
  refine ⟨?_, ?_, ?_⟩
  · intro e he hkind
    rcases List.mem_append.mp he with he | he
    · obtain ⟨id, trace, hid, htrace, hflag⟩ := h.completed e he hkind
      obtain ⟨trace', htrace', hkept, -⟩ := hkeeps id trace htrace
      exact ⟨id, trace', hid, htrace', hkept hflag⟩
    · obtain rfl := List.mem_singleton.mp he
      exact hcompleted hkind
  · intro e he hconfirmation
    rcases List.mem_append.mp he with he | he
    · obtain ⟨id, trace, hid, htrace, hflag⟩ := h.confirmed e he hconfirmation
      obtain ⟨trace', htrace', -, hkept⟩ := hkeeps id trace htrace
      exact ⟨id, trace', hid, htrace', hkept hflag⟩
    · obtain rfl := List.mem_singleton.mp he
      exact hconfirmed hconfirmation
  · intro i j e e' hij hi hj hterminal hterminal' hid
    rcases getElem?_snoc.mp hj with hj | ⟨rfl, rfl⟩
    · have hi' : events[i]? = some e := by
        have hlt := lt_length_of_getElem? hj
        rwa [List.getElem?_append_left (by omega)] at hi
      exact h.ordered i j e e' hij hi' hj hterminal hterminal' hid
    · rw [List.getElem?_append_left hij] at hi
      exact hordered e (List.mem_of_getElem? hi) hterminal hterminal' hid

/-- A turn of an event that ends nothing. -/
theorem Flagged.turn_other (h : Flagged events st) (hkeeps : KeepsFlags st st')
    (hresult : event.body.kind ≠ .result) (hcancellation : event.body.kind ≠ .cancellation) :
    Flagged (events ++ [event]) st' := by
  refine h.turn hkeeps (fun hkind => absurd hkind hresult)
    (fun hkind => absurd hkind.1 hcancellation) fun _ _ _ hterminal _ => ?_
  rcases hterminal with hkind | hkind
  · exact absurd hkind hresult
  · exact absurd hkind.1 hcancellation

theorem Flagged.inspectKind (h : Flagged events st)
    (hok : st.inspectKind manifest receipt event = .ok st') :
    Flagged (events ++ [event]) st' := by
  unfold Inspection.inspectKind at hok
  split at hok
  case h_1 hkind =>
    obtain ⟨action, digest, -, -, -, hfresh, rfl⟩ := Inspection.inspectRequest_ok hok hkind
    refine h.turn_other (keepsFlags_of_insert rfl fun trace htrace => ?_) (by rw [hkind]; decide)
      (by rw [hkind]; decide)
    exact absurd (AList.lookup_isSome.mp (by rw [htrace]; rfl)) hfresh
  case h_2 hkind =>
    obtain ⟨decision, id, trace, -, -, -, htrace, -, -, -, -, -, rfl⟩ :=
      Inspection.inspectDecision_ok hok hkind
    refine h.turn_other (keepsFlags_of_insert rfl fun trace₀ htrace₀ => ?_)
      (by rw [hkind]; decide) (by rw [hkind]; decide)
    obtain rfl := Option.some.inj (htrace.symm.trans htrace₀)
    exact ⟨fun hc => hc, fun hc => hc⟩
  case h_3 hkind =>
    obtain ⟨payload, id, trace, decision, -, -, -, htrace, -, -, -, -, -, -, rfl⟩ :=
      Inspection.inspectDispatch_ok hok hkind
    refine h.turn_other (keepsFlags_of_insert rfl fun trace₀ htrace₀ => ?_)
      (by rw [hkind]; decide) (by rw [hkind]; decide)
    obtain rfl := Option.some.inj (htrace.symm.trans htrace₀)
    exact ⟨fun hc => hc, fun hc => hc⟩
  case h_4 hkind =>
    obtain ⟨payload, id, trace, decision, -, hid, htrace, -, -, hopen, -, rfl⟩ :=
      Inspection.inspectResult_ok hok hkind
    refine h.turn (keepsFlags_of_insert rfl fun trace₀ htrace₀ => ?_)
      (fun _ => ⟨id, _, hid, AList.lookup_insert _, rfl⟩) ?_ ?_
    · obtain rfl := Option.some.inj (htrace.symm.trans htrace₀)
      exact ⟨fun _ => rfl, fun hc => hc⟩
    · rintro ⟨hcancellation, -⟩
      rw [hkind] at hcancellation
      cases hcancellation
    · -- An earlier result would have set the flag that was just tested.
      intro e he hterminal _ hsame
      rcases hterminal with hresult | hconfirmation
      · obtain ⟨id₀, trace₀, hid₀, htrace₀, hflag⟩ := h.completed e he hresult
        obtain rfl := Option.some.inj (hid₀.symm.trans (hsame.trans hid))
        obtain rfl := Option.some.inj (htrace.symm.trans htrace₀)
        rw [hopen] at hflag
        cases hflag
      · exact ⟨hconfirmation, hkind⟩
  case h_5 hkind =>
    obtain ⟨id, trace, confirmed, hid, htrace, rfl, ⟨hopen, hunconfirmed⟩, payload, hpayload,
      hstatus⟩ := Inspection.inspectCancellation_ok hok
    refine h.turn (keepsFlags_of_insert rfl fun trace₀ htrace₀ => ?_) ?_ ?_ ?_
    · obtain rfl := Option.some.inj (htrace.symm.trans htrace₀)
      refine ⟨fun hc => hc, fun hc => ?_⟩
      rw [hunconfirmed] at hc
      cases hc
    · intro hresult
      rw [hkind] at hresult
      cases hresult
    · rintro ⟨-, payload', hpayload', hconfirmed⟩
      obtain rfl := Except.ok.inj (hpayload.symm.trans hpayload')
      exact ⟨id, _, hid, AList.lookup_insert _, by rw [hstatus]; exact decide_eq_true hconfirmed⟩
    · -- Both flags were tested, so nothing has ended this dispatch before.
      intro e he hterminal _ hsame
      rcases hterminal with hresult | hconfirmation
      · obtain ⟨id₀, trace₀, hid₀, htrace₀, hflag⟩ := h.completed e he hresult
        obtain rfl := Option.some.inj (hid₀.symm.trans (hsame.trans hid))
        obtain rfl := Option.some.inj (htrace.symm.trans htrace₀)
        rw [hopen] at hflag
        cases hflag
      · obtain ⟨id₀, trace₀, hid₀, htrace₀, hflag⟩ := h.confirmed e he hconfirmation
        obtain rfl := Option.some.inj (hid₀.symm.trans (hsame.trans hid))
        obtain rfl := Option.some.inj (htrace.symm.trans htrace₀)
        rw [hunconfirmed] at hflag
        cases hflag
  case h_6 hkind =>
    obtain rfl := Inspection.inspectBarrier_ok hok
    exact h.turn_other (keepsFlags_of_traces rfl) (by rw [hkind]; decide) (by rw [hkind]; decide)
  case h_7 hkind =>
    obtain rfl := Inspection.inspectBarrier_ok hok
    exact h.turn_other (keepsFlags_of_traces rfl) (by rw [hkind]; decide) (by rw [hkind]; decide)
  case h_8 hkind =>
    obtain ⟨ack, own, -, -, -, -, rfl, -⟩ := Inspection.inspectAcknowledgement_ok hok
    exact h.turn_other (keepsFlags_of_traces rfl) (by rw [hkind]; decide) (by rw [hkind]; decide)
  case h_9 => cases hok

/-- The step lemma. -/
theorem Flagged.inspectEvent (h : Flagged events st)
    (hok : st.inspectEvent manifest receipt event = .ok st') :
    Flagged (events ++ [event]) st' := by
  simp only [Inspection.inspectEvent, bind_eq_ok, except_pure, Except.ok.injEq] at hok
  obtain ⟨st₁, hok, rfl⟩ := hok
  have hstart : Flagged events { st with
      eventHashes := st.eventHashes.insert event.body.sequence.1 event.eventHash } :=
    ⟨h.completed, h.confirmed, h.ordered⟩
  obtain ⟨hcompleted, hconfirmed, hordered⟩ := hstart.inspectKind hok
  exact ⟨hcompleted, hconfirmed, hordered⟩

theorem flagged_start : Flagged [] (.start : Inspection P) where
  completed _ h := nomatch h
  confirmed _ h := nomatch h
  ordered _ _ _ _ _ h := nomatch h

end Turn

/-- An accepted dispatch ends at most once, exactly when no result comes after a
confirmed cancellation. -/
theorem atMostOneTerminal_iff (P : Platform) (manifest : Manifest P) (receipt : Receipt P)
    (operatorPublicKey : Ed25519PublicKey) (lines : List Line) (report : VerificationReport)
    (events : List (Event P))
    (hok : verifyBundle manifest receipt lines operatorPublicKey = .ok report)
    (hdecoded : iterCanonicalJsonl P 0 lines = .ok events) :
    AtMostOneTerminal events ↔ ¬ ResultAfterConfirmation events := by
  obtain ⟨events', st, ⟨haudited, hflagged⟩, haccepted⟩ :=
    @verifyBundle_ok P manifest receipt
      (fun events st => Audited manifest events st ∧ Flagged events st) lines _ _
      ⟨audited_start, flagged_start⟩
      (fun _ _ _ _ h hchained hstep =>
        ⟨h.1.inspectEvent hchained hstep, h.2.inspectEvent hstep⟩) hok
  obtain rfl := Except.ok.inj (haccepted.decoded.symm.trans hdecoded)
  constructor
  · rintro honce ⟨i, j, e, e', hij, hi, hj, hconfirmation, hresult, hsame⟩
    obtain ⟨k, dispatch, payload, -, -, hk, hdispatch, hrequest, -⟩ :=
      haudited.resultsMatched j e' hj hresult
    have heq := honce dispatch (List.mem_of_getElem? hk) hdispatch.1 i j e e' hi hj
      (.inr hconfirmation) (.inl hresult) (hsame.trans hrequest.symm) hrequest.symm
    omega
  · intro hnone dispatch _ _ i j e e' hi hj hterminal hterminal' hid hid'
    have hsame := hid.trans hid'.symm
    rcases Nat.lt_trichotomy i j with hij | hij | hij
    · obtain ⟨hconfirmation, hresult⟩ :=
        hflagged.ordered i j e e' hij hi hj hterminal hterminal' hsame
      exact absurd ⟨i, j, e, e', hij, hi, hj, hconfirmation, hresult, hsame⟩ hnone
    · exact hij
    · obtain ⟨hconfirmation, hresult⟩ :=
        hflagged.ordered j i e' e hij hj hi hterminal' hterminal hsame.symm
      exact absurd ⟨j, i, e', e, hij, hj, hi, hconfirmation, hresult, hsame.symm⟩ hnone

/-- The theorem at the bundle of a request that was allowed, dispatched and answered. -/
theorem atMostOneTerminal_of_answered :
    ∃ (manifest : Manifest Reference.platform) (receipt : Receipt Reference.platform)
      (lines : List Line) (report : VerificationReport) (events : List (Event Reference.platform))
      (request decided dispatched returned : Event Reference.platform),
      verifyBundle manifest receipt lines Reference.operatorKey = .ok report ∧
      iterCanonicalJsonl Reference.platform 0 lines = .ok events ∧
      Reference.Answered events request decided dispatched returned ∧ AtMostOneTerminal events := by
  obtain ⟨manifest, receipt, lines, report, events, request, decided, dispatched, returned, hok,
    hdecoded, hanswered⟩ := Reference.exists_answered
  refine ⟨manifest, receipt, lines, report, events, request, decided, dispatched, returned, hok,
    hdecoded, hanswered, ?_⟩
  refine (atMostOneTerminal_iff _ _ _ _ _ _ _ hok hdecoded).mpr ?_
  -- No event is a cancellation.
  rintro ⟨i, j, e, e', -, hi, -, hconfirmation, -⟩
  have hmem := List.mem_of_getElem? hi
  rw [hanswered.events] at hmem
  simp only [List.mem_cons, List.not_mem_nil, or_false] at hmem
  have hkind := hconfirmation.1
  rcases hmem with rfl | rfl | rfl | rfl
  · rw [hanswered.request.1] at hkind
    cases hkind
  · rw [hanswered.decided] at hkind
    cases hkind
  · rw [hanswered.dispatched.1] at hkind
    cases hkind
  · rw [hanswered.returned.1] at hkind
    cases hkind

/-- The cancellation of a dispatch was confirmed, its result came later, and the bundle
is accepted. -/
theorem not_atMostOneTerminal :
    ¬ ∀ (P : Platform) (manifest : Manifest P) (receipt : Receipt P)
      (operatorPublicKey : Ed25519PublicKey) (lines : List Line) (report : VerificationReport)
      (events : List (Event P)),
      verifyBundle manifest receipt lines operatorPublicKey = .ok report →
      iterCanonicalJsonl P 0 lines = .ok events → AtMostOneTerminal events := by
  intro hclaim
  obtain ⟨manifest, receipt, lines, report, request, decided, dispatched, cancelled, returned, hok,
    hdecoded, hdispatch, hid, hcancellation, hid₃, hconfirmed, hresult, hid₄⟩ :=
    Reference.exists_cancelled_result
  have hsame := hclaim _ _ _ _ _ _ _ hok hdecoded dispatched (by simp) hdispatch 3 4 cancelled
    returned rfl rfl (.inr ⟨hcancellation, hconfirmed⟩) (.inl hresult) (hid₃.trans hid.symm)
    (hid₄.trans hid.symm)
  cases hsame

end Containment
