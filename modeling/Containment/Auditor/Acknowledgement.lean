/-
# What an acknowledgement is bound to

An accepted acknowledgement names an event of the evidence by sequence and hash, and its
own latency stays within the limit of the manifest. The kind of that event and its time
are the supervisor's statement: the gateway falls back on the last event of the ledger
when no violation can be committed, and takes the time of the trigger itself.
-/

import Containment.Auditor.Closing
import Containment.Reference.Requests

namespace Containment

open Json

variable {P : Platform}

/-- The receipt's acknowledgement, as far as the evidence confirms it. -/
structure TriggerBound (manifest : Manifest P) (events : List (Event P))
    (ack : KillAcknowledgement P) : Prop where
  verified : ack.verify manifest.body.supervisorKey = .ok ()
  /-- The trigger is an event of the evidence. -/
  trigger : ∃ trigger, events[ack.body.triggerEventSequence.1.toNat]? = some trigger ∧
    trigger.body.sequence = ack.body.triggerEventSequence ∧
    trigger.eventHash = ack.body.triggerEventHash
  /-- The latency is measured from the acknowledgement's own trigger time. -/
  latency : ack.body.killLatencyNs.1 =
    ack.body.killAcknowledgedMonotonicNs.1 - ack.body.triggerMonotonicNs.1
  sla : ack.body.killAcknowledgedMonotonicNs.1 - ack.body.triggerMonotonicNs.1 ≤
    manifest.body.killCriteria.supervisorKillLatencySlaMs.1 * 1000000

/-- What holds of the events around the logged acknowledgement. -/
structure LoggedAfterTrigger (receipt : Receipt P) (events : List (Event P)) (k : ℕ)
    (logged : Event P) : Prop where
  acknowledgement : ∃ ack own, modelValidateJson P (Sealed.codec P killAcknowledgementSealing)
      logged.body.payloadCanonicalJson.1 = .ok ack ∧
    receipt.body.killAcknowledgement = some own ∧ ack.digest = own.digest ∧
    ∃ (i : ℕ) (trigger : Event P), i < k ∧ events[i]? = some trigger ∧
      trigger.body.sequence = ack.body.triggerEventSequence ∧
      trigger.eventHash = ack.body.triggerEventHash
  /-- Nothing is dispatched after it if a hard violation came before it. -/
  barrier : (∃ (i : ℕ) (event : Event P), i ≤ k ∧ events[i]? = some event ∧ HardViolation event) →
    ∀ (j : ℕ) event, k < j → events[j]? = some event → event.body.kind ≠ .dispatch

/-- The hashes the generator has stored are those of the events. -/
structure Indexed (receipt : Receipt P) (events : List (Event P)) (st : Inspection P) : Prop where
  hashes : ∀ n hash, st.eventHashes.lookup n = some hash →
    ∃ event ∈ events, event.body.sequence.1 = n ∧ event.eventHash = hash
  logged : ∀ (k : ℕ) event, events[k]? = some event → event.body.kind = .killAcknowledged →
    ∃ ack own, modelValidateJson P (Sealed.codec P killAcknowledgementSealing)
      event.body.payloadCanonicalJson.1 = .ok ack ∧
    receipt.body.killAcknowledgement = some own ∧ ack.digest = own.digest ∧
    ack.body.triggerEventSequence.1 < event.body.sequence.1 ∧
    ∃ trigger ∈ events, trigger.body.sequence.1 = ack.body.triggerEventSequence.1 ∧
      trigger.eventHash = ack.body.triggerEventHash

section Turn

variable {manifest : Manifest P} {receipt : Receipt P} {events : List (Event P)}
  {st st' : Inspection P} {event : Event P}

/-- Only the start of a turn stores a hash. -/
theorem eventHashes_inspectKind (hok : st.inspectKind manifest receipt event = .ok st') :
    st'.eventHashes = st.eventHashes := by
  unfold Inspection.inspectKind at hok
  split at hok
  case h_1 hkind =>
    obtain ⟨_, _, -, -, -, -, rfl⟩ := Inspection.inspectRequest_ok hok hkind
    rfl
  case h_2 hkind =>
    obtain ⟨_, _, _, -, -, -, -, -, -, -, -, -, rfl⟩ := Inspection.inspectDecision_ok hok hkind
    rfl
  case h_3 hkind =>
    obtain ⟨_, _, _, _, -, -, -, -, -, -, -, -, -, -, rfl⟩ :=
      Inspection.inspectDispatch_ok hok hkind
    rfl
  case h_4 hkind =>
    obtain ⟨_, _, _, _, -, -, -, -, -, -, -, rfl⟩ := Inspection.inspectResult_ok hok hkind
    rfl
  case h_5 =>
    obtain ⟨_, _, _, -, -, rfl, -⟩ := Inspection.inspectCancellation_ok hok
    rfl
  case h_6 =>
    obtain rfl := Inspection.inspectBarrier_ok hok
    rfl
  case h_7 =>
    obtain rfl := Inspection.inspectBarrier_ok hok
    rfl
  case h_8 =>
    obtain ⟨_, _, -, -, -, -, rfl, -⟩ := Inspection.inspectAcknowledgement_ok hok
    rfl
  case h_9 => cases hok

/-- The step lemma. -/
theorem Indexed.inspectEvent (h : Indexed receipt events st)
    (hok : st.inspectEvent manifest receipt event = .ok st') :
    Indexed receipt (events ++ [event]) st' := by
  simp only [Inspection.inspectEvent, bind_eq_ok, except_pure, Except.ok.injEq] at hok
  obtain ⟨st₁, hok, rfl⟩ := hok
  have hhashes := eventHashes_inspectKind hok
  have hstored : ∀ n hash, (st.eventHashes.insert event.body.sequence.1 event.eventHash).lookup n =
      some hash → ∃ e ∈ events ++ [event], e.body.sequence.1 = n ∧ e.eventHash = hash := by
    intro n hash hlookup
    by_cases hn : n = event.body.sequence.1
    · subst hn
      rw [AList.lookup_insert, Option.some.injEq] at hlookup
      exact ⟨event, List.mem_append_right _ (List.mem_singleton_self _), rfl, hlookup⟩
    · rw [AList.lookup_insert_ne hn] at hlookup
      obtain ⟨e, he, hfound⟩ := h.hashes n hash hlookup
      exact ⟨e, List.mem_append_left _ he, hfound⟩
  refine ⟨?_, ?_⟩
  · dsimp only
    rw [hhashes]
    exact hstored
  · intro k e hk hkind
    rcases getElem?_snoc.mp hk with hk | ⟨rfl, rfl⟩
    · obtain ⟨ack, own, hack, hown, hdigest, hbefore, trigger, htrigger, hfound⟩ :=
        h.logged k e hk hkind
      exact ⟨ack, own, hack, hown, hdigest, hbefore, trigger, List.mem_append_left _ htrigger,
        hfound⟩
    · rw [Inspection.inspectKind_killAcknowledged hkind] at hok
      obtain ⟨ack, own, -, hack, hown, hdigest, -, hbefore, htrigger⟩ :=
        Inspection.inspectAcknowledgement_ok hok
      exact ⟨ack, own, hack, hown, hdigest, hbefore, hstored _ _ htrigger⟩

theorem indexed_start : Indexed receipt [] (.start : Inspection P) where
  hashes _ _ h := nomatch h
  logged _ _ h := nomatch h

end Turn

theorem Chained.getElem?_of_mem {events : List (Event P)} (h : Chained events) {event : Event P}
    (hmem : event ∈ events) : events[event.body.sequence.1.toNat]? = some event := by
  obtain ⟨i, hi⟩ := List.mem_iff_getElem?.mp hmem
  rw [h.sequence i event hi]
  exact hi

/-- An accepted acknowledgement is logged once its trigger is, and a hard violation
before it keeps every later dispatch away. -/
theorem loggedAfterTrigger_of_verifyBundle (P : Platform) (manifest : Manifest P)
    (receipt : Receipt P) (operatorPublicKey : Ed25519PublicKey) (lines : List Line)
    (report : VerificationReport)
    (hok : verifyBundle manifest receipt lines operatorPublicKey = .ok report) :
    ∃ events, iterCanonicalJsonl P 0 lines = .ok events ∧
      (receipt.body.killAcknowledgement.isSome = true →
        ∃ (k : ℕ) (logged : Event P), events[k]? = some logged ∧
          logged.body.kind = .killAcknowledged) ∧
      ∀ (k : ℕ) logged, events[k]? = some logged → logged.body.kind = .killAcknowledged →
        LoggedAfterTrigger receipt events k logged := by
  obtain ⟨events, st, ⟨haudited, hindexed, hended⟩, haccepted⟩ :=
    @verifyBundle_ok P manifest receipt (fun events st => Audited manifest events st ∧
        Indexed receipt events st ∧ Ended receipt events st) lines _ _
      ⟨audited_start, indexed_start, ended_start⟩
      (fun _ _ _ _ h hchained hstep =>
        ⟨h.1.inspectEvent hchained hstep, h.2.1.inspectEvent hstep, h.2.2.inspectEvent hstep⟩) hok
  refine ⟨events, haccepted.decoded, ?_, ?_⟩
  · intro hsome
    have hcount : 0 < events.countP fun event => event.body.kind = .killAcknowledged := by
      rw [← hended.acks, haccepted.killAcks]
      obtain ⟨own, hown⟩ := Option.isSome_iff_exists.mp hsome
      rw [hown]
      exact Nat.one_pos
    obtain ⟨logged, hmem, hkind⟩ := List.countP_pos_iff.mp hcount
    obtain ⟨k, hk⟩ := List.mem_iff_getElem?.mp hmem
    exact ⟨k, logged, hk, of_decide_eq_true hkind⟩
  · intro k logged hk hkind
    obtain ⟨ack, own, hack, hown, hdigest, hbefore, trigger, htrigger, hsequence, hhash⟩ :=
      hindexed.logged k logged hk hkind
    refine ⟨⟨ack, own, hack, hown, hdigest, trigger.body.sequence.1.toNat, trigger, ?_,
      haccepted.chained.getElem?_of_mem htrigger, Subtype.ext hsequence, hhash⟩, ?_⟩
    · rw [haccepted.chained.sequence k logged hk, ← hsequence] at hbefore
      have := trigger.body.sequence.le
      omega
    · rintro ⟨i, event, hi, hevent, hhard⟩ j dispatch hj hdispatch
      exact haudited.respected i j event dispatch (by omega) hevent hhard hdispatch

/-- An accepted acknowledgement names an event of the evidence and stays within the
limit, measured from the trigger time it states itself. -/
theorem triggerBound_of_verifyBundle (P : Platform) (manifest : Manifest P) (receipt : Receipt P)
    (operatorPublicKey : Ed25519PublicKey) (lines : List Line) (report : VerificationReport)
    (ack : KillAcknowledgement P)
    (hok : verifyBundle manifest receipt lines operatorPublicKey = .ok report)
    (hack : receipt.body.killAcknowledgement = some ack) :
    ∃ events, iterCanonicalJsonl P 0 lines = .ok events ∧ TriggerBound manifest events ack := by
  obtain ⟨events, st, -, haccepted⟩ := @verifyBundle_ok P manifest receipt (fun _ _ => True) lines
    operatorPublicKey report trivial (fun _ _ _ _ _ _ _ => trivial) hok
  obtain ⟨hverify, hsla, trigger, hmem, hsequence, hhash⟩ := haccepted.acknowledged ack hack
  have hcoherent := ack.body.coherent
  simp only [KillAcknowledgementBodyFields.timingIsCoherent, bind_eq_ok, Unique.exists_iff,
    ensure_eq_ok] at hcoherent
  have hlatency := hcoherent.2.2.1
  refine ⟨events, haccepted.decoded, hverify, ⟨trigger, ?_, hsequence, hhash⟩, hlatency, ?_⟩
  · rw [← hsequence]
    exact haccepted.chained.getElem?_of_mem hmem
  · rw [← hlatency]
    exact hsla

theorem loggedAfterTrigger_of_request_trigger :
    ∃ (receipt : Receipt Reference.platform) (events : List (Event Reference.platform))
      (logged : Event Reference.platform), logged.body.kind = .killAcknowledged ∧
      LoggedAfterTrigger receipt events 2 logged := by
  obtain ⟨manifest, receipt, own, lines, report, request, decided, acknowledged, dispatched,
    returned, hok, hdecoded, -, -, -, -, -, hacknowledged, -⟩ :=
    Reference.exists_dispatch_after_acknowledgement
  obtain ⟨events, hevents, -, hlogged⟩ := loggedAfterTrigger_of_verifyBundle _ _ _ _ _ _ hok
  obtain rfl := Except.ok.inj (hdecoded.symm.trans hevents)
  exact ⟨receipt, _, acknowledged, hacknowledged, hlogged 2 acknowledged rfl hacknowledged⟩

/-- An accepted acknowledgement whose trigger is a REQUEST, and a dispatch after it: neither
half of the stronger statement holds. -/
theorem not_triggerHard_of_verifyBundle :
    (¬ ∀ (P : Platform) (manifest : Manifest P) (receipt : Receipt P)
      (operatorPublicKey : Ed25519PublicKey) (lines : List Line) (report : VerificationReport)
      (events : List (Event P)) (ack : KillAcknowledgement P),
      verifyBundle manifest receipt lines operatorPublicKey = .ok report →
      iterCanonicalJsonl P 0 lines = .ok events →
      receipt.body.killAcknowledgement = some ack →
      ∃ trigger, events[ack.body.triggerEventSequence.1.toNat]? = some trigger ∧
        HardViolation trigger) ∧
    ¬ ∀ (P : Platform) (manifest : Manifest P) (receipt : Receipt P)
      (operatorPublicKey : Ed25519PublicKey) (lines : List Line) (report : VerificationReport)
      (events : List (Event P)),
      verifyBundle manifest receipt lines operatorPublicKey = .ok report →
      iterCanonicalJsonl P 0 lines = .ok events →
      receipt.body.killAcknowledgement.isSome = true →
      ∀ (k j : ℕ) logged event, events[k]? = some logged →
        logged.body.kind = .killAcknowledged → k < j → events[j]? = some event →
        event.body.kind ≠ .dispatch := by
  obtain ⟨manifest, receipt, own, lines, report, request, decided, acknowledged, dispatched,
    returned, hok, hdecoded, hack, hzero, -, hrequest, -, hacknowledged, hdispatched⟩ :=
    Reference.exists_dispatch_after_acknowledgement
  constructor
  · intro hclaim
    obtain ⟨trigger, htrigger, hhard⟩ := hclaim _ _ _ _ _ _ _ own hok hdecoded hack
    rw [hzero] at htrigger
    obtain rfl : request = trigger := Option.some.inj htrigger
    rcases hhard with hkind | hkind | ⟨decision, ⟨hkind, -⟩, -⟩ <;>
    · rw [hrequest] at hkind
      cases hkind
  · intro hclaim
    exact hclaim _ _ _ _ _ _ _ hok hdecoded (by rw [hack]; rfl) 2 3 acknowledged dispatched rfl
      hacknowledged (by decide) rfl hdispatched

theorem triggerBound_of_request_trigger :
    ∃ (manifest : Manifest Reference.platform) (events : List (Event Reference.platform))
      (ack : KillAcknowledgement Reference.platform), ack.body.triggerMonotonicNs.1 = 1999 ∧
      TriggerBound manifest events ack := by
  obtain ⟨manifest, receipt, own, lines, report, request, decided, acknowledged, dispatched,
    returned, hok, -, hack, -, htrigger, -⟩ := Reference.exists_dispatch_after_acknowledgement
  obtain ⟨events, -, hbound⟩ := triggerBound_of_verifyBundle _ _ _ _ _ _ own hok hack
  exact ⟨manifest, events, own, htrigger, hbound⟩

/-- An accepted acknowledgement that states another trigger time than its event. -/
theorem not_triggerTime_of_verifyBundle :
    ¬ ∀ (P : Platform) (manifest : Manifest P) (receipt : Receipt P)
      (operatorPublicKey : Ed25519PublicKey) (lines : List Line) (report : VerificationReport)
      (events : List (Event P)) (ack : KillAcknowledgement P) (trigger : Event P),
      verifyBundle manifest receipt lines operatorPublicKey = .ok report →
      iterCanonicalJsonl P 0 lines = .ok events →
      receipt.body.killAcknowledgement = some ack →
      events[ack.body.triggerEventSequence.1.toNat]? = some trigger →
      ack.body.triggerMonotonicNs.1 = trigger.body.monotonicNs.1 := by
  intro hclaim
  obtain ⟨manifest, receipt, own, lines, report, request, decided, acknowledged, dispatched,
    returned, hok, hdecoded, hack, hzero, htrigger, -, htime, -⟩ :=
    Reference.exists_dispatch_after_acknowledgement
  have heq := hclaim _ _ _ _ _ _ _ own request hok hdecoded hack (by rw [hzero]; rfl)
  rw [htrigger, htime] at heq
  cases heq

end Containment
