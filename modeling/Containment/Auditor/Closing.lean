/-
# How an accepted run ended

What acceptance says about containment. The acknowledgement of the receipt is
logged exactly once, and it is there exactly when the receipt says KILLED. A
dispatch that was left open has to be explained by it, and nothing is dispatched
after a hard violation. That a hard violation was contained at all is not asked:
the last theorem is a run that records a violation and is accepted as completed.
-/

import Containment.Auditor.Soundness
import Containment.Reference.Requests

namespace Containment

open Json

variable {P : Platform}

/-- The acknowledgement in the receipt is the one in the evidence. -/
structure Acknowledged (receipt : Receipt P) (events : List (Event P)) : Prop where
  status : receipt.body.status = .killed ↔ receipt.body.killAcknowledgement.isSome = true
  once : (events.countP fun event => event.body.kind = .killAcknowledged) =
    receipt.body.killAcknowledgement.toList.length
  logged : ∀ event ∈ events, event.body.kind = .killAcknowledged → ∃ ack own,
    modelValidateJson P (Sealed.codec P killAcknowledgementSealing)
      event.body.payloadCanonicalJson.1 = .ok ack ∧
    receipt.body.killAcknowledgement = some own ∧ ack.digest = own.digest

/-- A dispatch without a result or a cancellation comes with an acknowledgement. -/
def OpenDispatchAcknowledged (receipt : Receipt P) (events : List (Event P)) : Prop :=
  ∀ dispatch ∈ events, dispatch.body.kind = .dispatch →
    (∀ event ∈ events, event.body.requestId = dispatch.body.requestId →
      event.body.kind ≠ .result ∧ event.body.kind ≠ .cancellation) →
    receipt.body.killAcknowledgement.isSome = true

/-- The trace says that its dispatch is over. -/
def Over (trace : RequestTrace P) : Prop :=
  trace.completed = true ∨ trace.cancellationConfirmed = true

/-- The generator's state, as far as the end of the run is concerned. -/
structure Ended (receipt : Receipt P) (events : List (Event P)) (st : Inspection P) : Prop where
  acks : st.stats.killAcks = events.countP fun event => event.body.kind = .killAcknowledged
  logged : ∀ event ∈ events, event.body.kind = .killAcknowledged → ∃ ack own,
    modelValidateJson P (Sealed.codec P killAcknowledgementSealing)
      event.body.payloadCanonicalJson.1 = .ok ack ∧
    receipt.body.killAcknowledgement = some own ∧ ack.digest = own.digest
  finished : ∀ id trace, st.traces.lookup id = some trace → Over trace →
    ∃ event ∈ events, event.body.requestId = some id ∧
      (event.body.kind = .result ∨ event.body.kind = .cancellation)

section Turn

variable {manifest : Manifest P} {receipt : Receipt P} {events : List (Event P)}
  {st st' : Inspection P} {event : Event P}

/-- A turn that logs no acknowledgement. -/
theorem Ended.turn (h : Ended receipt events st) (hkind : event.body.kind ≠ .killAcknowledged)
    (hacks : st'.stats.killAcks = st.stats.killAcks)
    (hover : ∀ id trace, st'.traces.lookup id = some trace → Over trace →
      (∃ trace₀, st.traces.lookup id = some trace₀ ∧ Over trace₀) ∨
      (event.body.requestId = some id ∧
        (event.body.kind = .result ∨ event.body.kind = .cancellation))) :
    Ended receipt (events ++ [event]) st' := by
  refine ⟨?_, ?_, ?_⟩
  · rw [hacks, h.acks, List.countP_append]
    simp [hkind]
  · intro e he hack
    rcases List.mem_append.mp he with he | he
    · exact h.logged e he hack
    · rw [List.mem_singleton.mp he] at hack
      exact absurd hack hkind
  · intro id trace htrace htraceOver
    rcases hover id trace htrace htraceOver with ⟨trace₀, htrace₀, hover₀⟩ | ⟨hid, hend⟩
    · obtain ⟨e, he, hrequest⟩ := h.finished id trace₀ htrace₀ hover₀
      exact ⟨e, List.mem_append_left _ he, hrequest⟩
    · exact ⟨event, List.mem_append_right _ (List.mem_singleton_self _), hid, hend⟩

/-- The traces after one of them was replaced. -/
theorem over_of_insert {traces : AList fun _ : OpaqueId => RequestTrace P} {id' : OpaqueId}
    {trace' : RequestTrace P} {Q : OpaqueId → Prop}
    (hnew : Over trace' → (∃ trace₀, traces.lookup id' = some trace₀ ∧ Over trace₀) ∨ Q id')
    (id : OpaqueId) (trace : RequestTrace P)
    (h : (traces.insert id' trace').lookup id = some trace) (hover : Over trace) :
    (∃ trace₀, traces.lookup id = some trace₀ ∧ Over trace₀) ∨ Q id := by
  by_cases hid : id = id'
  · subst hid
    rw [AList.lookup_insert, Option.some.injEq] at h
    rw [← h] at hover
    exact hnew hover
  · rw [AList.lookup_insert_ne hid] at h
    exact .inl ⟨trace, h, hover⟩

theorem Ended.inspectKind (h : Ended receipt events st)
    (hok : st.inspectKind manifest receipt event = .ok st') :
    Ended receipt (events ++ [event]) st' := by
  unfold Inspection.inspectKind at hok
  split at hok
  case h_1 hkind =>
    obtain ⟨action, digest, -, -, -, -, rfl⟩ := Inspection.inspectRequest_ok hok hkind
    refine h.turn (by rw [hkind]; decide) rfl (over_of_insert fun hover => ?_)
    rcases hover with hover | hover <;> cases hover
  case h_2 hkind =>
    obtain ⟨decision, id, trace, -, -, -, htrace, -, -, -, -, -, rfl⟩ :=
      Inspection.inspectDecision_ok hok hkind
    exact h.turn (by rw [hkind]; decide) rfl
      (over_of_insert fun hover => .inl ⟨trace, htrace, hover⟩)
  case h_3 hkind =>
    obtain ⟨payload, id, trace, decision, -, -, -, htrace, -, -, -, -, -, -, rfl⟩ :=
      Inspection.inspectDispatch_ok hok hkind
    exact h.turn (by rw [hkind]; decide) rfl
      (over_of_insert fun hover => .inl ⟨trace, htrace, hover⟩)
  case h_4 hkind =>
    obtain ⟨payload, id, trace, decision, -, hid, -, -, -, -, -, rfl⟩ :=
      Inspection.inspectResult_ok hok hkind
    exact h.turn (by rw [hkind]; decide) rfl
      (over_of_insert (Q := fun id => event.body.requestId = some id ∧ _)
        fun _ => .inr ⟨hid, .inl hkind⟩)
  case h_5 hkind =>
    obtain ⟨id, trace, confirmed, hid, -, rfl, -⟩ := Inspection.inspectCancellation_ok hok
    exact h.turn (by rw [hkind]; decide) rfl
      (over_of_insert (Q := fun id => event.body.requestId = some id ∧ _)
        fun _ => .inr ⟨hid, .inr hkind⟩)
  case h_6 hkind =>
    obtain rfl := Inspection.inspectBarrier_ok hok
    exact h.turn (by rw [hkind]; decide) rfl fun id trace ht hover => .inl ⟨trace, ht, hover⟩
  case h_7 hkind =>
    obtain rfl := Inspection.inspectBarrier_ok hok
    exact h.turn (by rw [hkind]; decide) rfl fun id trace ht hover => .inl ⟨trace, ht, hover⟩
  case h_8 hkind =>
    obtain ⟨ack, own, -, hack, hown, hdigest, rfl, -⟩ := Inspection.inspectAcknowledgement_ok hok
    refine ⟨?_, ?_, ?_⟩
    · rw [List.countP_append, ← h.acks]
      simp [hkind]
    · intro e he hlogged
      rcases List.mem_append.mp he with he | he
      · exact h.logged e he hlogged
      · rw [List.mem_singleton.mp he]
        exact ⟨ack, own, hack, hown, hdigest⟩
    · intro id trace htrace hover
      obtain ⟨e, he, hrequest⟩ := h.finished id trace htrace hover
      exact ⟨e, List.mem_append_left _ he, hrequest⟩
  case h_9 => cases hok

/-- The step lemma. -/
theorem Ended.inspectEvent (h : Ended receipt events st)
    (hok : st.inspectEvent manifest receipt event = .ok st') :
    Ended receipt (events ++ [event]) st' := by
  simp only [Inspection.inspectEvent, bind_eq_ok, except_pure, Except.ok.injEq] at hok
  obtain ⟨st₁, hok, rfl⟩ := hok
  have hstart : Ended receipt events { st with
      eventHashes := st.eventHashes.insert event.body.sequence.1 event.eventHash } :=
    ⟨h.acks, h.logged, h.finished⟩
  obtain ⟨hacks, hlogged, hover⟩ := hstart.inspectKind hok
  exact ⟨hacks, hlogged, hover⟩

theorem ended_start : Ended receipt [] (.start : Inspection P) where
  acks := rfl
  logged _ h := nomatch h
  finished _ _ h := nomatch h

end Turn

/-- What acceptance says about the end of a run, hard violations included. -/
theorem ending_of_verifyBundle (P : Platform) (manifest : Manifest P) (receipt : Receipt P)
    (operatorPublicKey : Ed25519PublicKey) (lines : List Line) (report : VerificationReport)
    (hok : verifyBundle manifest receipt lines operatorPublicKey = .ok report) :
    ∃ events, iterCanonicalJsonl P 0 lines = .ok events ∧ BarrierRespected events ∧
      Acknowledged receipt events ∧ OpenDispatchAcknowledged receipt events := by
  obtain ⟨events, st, ⟨haudited, hended⟩, haccepted⟩ :=
    @verifyBundle_ok P manifest receipt
      (fun events st => Audited manifest events st ∧ Ended receipt events st) lines _ _
      ⟨audited_start, ended_start⟩
      (fun _ _ _ _ h hchained hstep =>
        ⟨h.1.inspectEvent hchained hstep, h.2.inspectEvent hstep⟩) hok
  have hcoherent := (ReceiptBodyFields.receiptIsCoherent_eq_ok _).mp receipt.body.coherent
  refine ⟨events, haccepted.decoded, haudited.respected, ⟨hcoherent.status, ?_, hended.logged⟩, ?_⟩
  · rw [← hended.acks, haccepted.killAcks]
  · intro dispatch hdispatch hkind hopen
    obtain ⟨k, hk⟩ := List.mem_iff_getElem?.mp hdispatch
    obtain ⟨j, payload, decision, hpayload, -⟩ := haudited.used k dispatch hk hkind
    obtain ⟨-, id, trace, hid, htrace, hdispatched⟩ :=
      (haudited.recorded k dispatch hk).dispatch payload hpayload
    -- Its trace is unfinished, so the closing check needs the acknowledgement.
    have hunfinished : Inspection.Unfinished trace = true := by
      have hnot : ¬ Over trace := by
        intro hover
        obtain ⟨e, he, hrequest, hend⟩ := hended.finished id trace htrace hover
        obtain ⟨hresult, hcancel⟩ := hopen e he (hrequest.trans hid.symm)
        exact hend.elim hresult hcancel
      simp only [Over, not_or, Bool.not_eq_true] at hnot
      simp [Inspection.Unfinished, hdispatched, hnot]
    have hincomplete : st.incomplete ≠ 0 := by
      rw [Inspection.incomplete, ← Nat.pos_iff_ne_zero]
      apply List.length_pos_of_mem
      exact List.mem_filter.mpr ⟨AList.mem_lookup_iff.mp htrace, hunfinished⟩
    have hclosed := haccepted.closed
    simp only [Inspection.close, bind_eq_ok, Unique.exists_iff, ensure_eq_ok] at hclosed
    obtain ⟨ack, hack, -⟩ := (Option.any_eq_true _ _).mp (hclosed.2.2.resolve_left hincomplete)
    rw [hack]
    rfl

/-- The theorem at the bundle of a killed run with a dispatch. -/
theorem ending_of_acknowledged :
    ∃ (manifest : Manifest Reference.platform) (receipt : Receipt Reference.platform)
      (lines : List Line) (report : VerificationReport)
      (request decided acknowledged dispatched returned : Event Reference.platform),
      verifyBundle manifest receipt lines Reference.operatorKey = .ok report ∧
      receipt.body.killAcknowledgement.isSome = true ∧
      acknowledged.body.kind = .killAcknowledged ∧ dispatched.body.kind = .dispatch ∧
      BarrierRespected [request, decided, acknowledged, dispatched, returned] ∧
      Acknowledged receipt [request, decided, acknowledged, dispatched, returned] ∧
      OpenDispatchAcknowledged receipt [request, decided, acknowledged, dispatched, returned] := by
  obtain ⟨manifest, receipt, own, lines, report, request, decided, acknowledged, dispatched, returned,
    hok, hdecoded, hack, -, -, -, -, hacknowledged, hdispatched⟩ :=
    Reference.exists_dispatch_after_acknowledgement
  obtain ⟨events, hevents, hending⟩ :=
    ending_of_verifyBundle Reference.platform manifest receipt Reference.operatorKey lines report hok
  obtain rfl := Except.ok.inj (hdecoded.symm.trans hevents)
  exact ⟨manifest, receipt, lines, report, request, decided, acknowledged, dispatched, returned, hok,
    by rw [hack]; rfl, hacknowledged, hdispatched, hending⟩

/-- A hard violation in accepted evidence does not mean that the run was contained. -/
theorem not_contained_of_hardViolation :
    ¬ ∀ (P : Platform) (manifest : Manifest P) (receipt : Receipt P)
      (operatorPublicKey : Ed25519PublicKey) (lines : List Line) (report : VerificationReport)
      (events : List (Event P)),
      verifyBundle manifest receipt lines operatorPublicKey = .ok report →
      iterCanonicalJsonl P 0 lines = .ok events → (∃ event ∈ events, HardViolation event) →
      receipt.body.killAcknowledgement.isSome = true ∨
        receipt.body.status = .supervisorFailure := by
  intro hclaim
  obtain ⟨manifest, receipt, lines, event, report, hok, hdecoded, hkind, hstatus, hack, -⟩ :=
    Reference.exists_completed_violation
  rcases hclaim _ _ _ _ _ _ _ hok hdecoded ⟨event, List.mem_singleton_self _, .inl hkind⟩ with
    hsome | hfailure
  · rw [hack] at hsome
    cases hsome
  · rw [hstatus] at hfailure
    cases hfailure

end Containment
