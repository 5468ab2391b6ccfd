/-
# When a bundle is accepted

The other direction of reading a bundle. `Recounts` gathers what a receipt has to
say about a list of events, and `inspectAll` runs the inspecting generator over
them. A receipt that recounts events the generator passes, with the counters the
generator arrives at, is accepted together with the lines of those events.
-/

import Containment.Auditor.Stream

namespace Containment

open Json

variable {P : Platform}

/-! ## Lines -/

/-- The line an event is exported as. -/
def exportLine (encoded : Bytes) : Line := .bytes (encoded ++ [10])

theorem modelValidateJson_of_canonicalJson {α : Type} {c : Codec PyError α} {x : α} {text : String}
    (h : canonicalJson P (c.encode x) = .ok text) : modelValidateJson P c text = .ok x := by
  rw [modelValidateJson, parseCanonicalText_of_canonicalJson h, except_ok_bind, c.decode_encode]

/-- An exported line is read back as its event. -/
theorem decodeLine_exportLine {event : Event P} {encoded : Bytes} (n : ℕ)
    (h : event.canonicalBytes = .ok encoded) :
    decodeLine P n (exportLine encoded) = .ok event := by
  have hcanonical := h
  rw [Event.canonicalBytes, canonicalJsonBytes, bind_eq_ok] at hcanonical
  obtain ⟨text, htext, hencoded⟩ := hcanonical
  have hparse : parseCanonicalJson P encoded = .ok ((Event.codec P).encode event).orderForJcs := by
    rw [← Except.ok.inj hencoded]
    exact parseCanonicalJson_of_canonicalJson htext
  have hlast : (exportLine encoded).raw.getLast? = some 10 := List.getLast?_concat
  have hdrop : (exportLine encoded).raw.dropLast = encoded := List.dropLast_concat
  rw [decodeLine]
  dsimp only
  rw [ensure_of hlast, except_ok_bind, hdrop, hparse, except_ok_bind, (Event.codec P).decode_encode,
    except_ok_bind, h, except_ok_bind, ensure_of rfl]
  rfl

/-- An exported file is read back as its events. -/
theorem iterCanonicalJsonl_exportLine {events : List (Event P)} {lines : List Bytes} (n : ℕ)
    (h : List.Forall₂ (fun (event : Event P) encoded => event.canonicalBytes = .ok encoded)
      events lines) : iterCanonicalJsonl P n (lines.map exportLine) = .ok events := by
  induction h generalizing n with
  | nil => rfl
  | cons hencoded _ ih =>
      rw [List.map_cons, iterCanonicalJsonl, decodeLine_exportLine _ hencoded, except_ok_bind, ih,
        except_ok_bind]
      rfl

/-! ## The generator over a list of events -/

/-- Run the inspecting generator over decoded events. -/
def inspectAll (manifest : Manifest P) (receipt : Receipt P) (st : Inspection P)
    (events : List (Event P)) : Except PyError (Inspection P) :=
  events.foldlM (fun st event => st.inspectEvent manifest receipt event) st

theorem inspectAll_cons {manifest : Manifest P} {receipt : Receipt P} {st st' : Inspection P}
    {event : Event P} {events : List (Event P)} :
    inspectAll manifest receipt st (event :: events) = .ok st' ↔
      ∃ st₁, st.inspectEvent manifest receipt event = .ok st₁ ∧
        inspectAll manifest receipt st₁ events = .ok st' := by
  rw [inspectAll, List.foldlM_cons, bind_eq_ok]
  rfl

theorem inspectAll_snoc {manifest : Manifest P} {receipt : Receipt P} {st st' : Inspection P}
    {event : Event P} {events : List (Event P)} :
    inspectAll manifest receipt st (events ++ [event]) = .ok st' ↔
      ∃ st₁, inspectAll manifest receipt st events = .ok st₁ ∧
        st₁.inspectEvent manifest receipt event = .ok st' := by
  rw [inspectAll, List.foldlM_append, bind_eq_ok]
  simp only [List.foldlM_cons, List.foldlM_nil, bind_pure]
  rfl

/-! ## Turns that succeed -/

namespace Inspection

variable {manifest : Manifest P} {receipt : Receipt P} {st : Inspection P} {event : Event P}

theorem inspectRequest_of {action : Action P} {digest : Sha256Hex} (h : IsRequest event action)
    (hdigest : action.digest = .ok digest.1) (hid : event.body.requestId = some action.requestId)
    (hfresh : action.requestId ∉ st.traces) :
    st.inspectRequest event = .ok { st with
      traces := st.traces.insert action.requestId ⟨event, digest, none, false, false, false⟩
      requestSequences := st.requestSequences.insert event.body.sequence.1
        action.requestId } := by
  obtain ⟨-, json, payload, hjson, hpayload, haction, hsame⟩ := h
  obtain rfl : payload.actionSha256 = digest :=
    Subtype.ext (Except.ok.inj (hsame.symm.trans hdigest))
  rw [inspectRequest, hjson, except_ok_bind, hpayload, except_ok_bind, haction, except_ok_bind,
    ensure_of hid, except_ok_bind, ensure_of hfresh, except_ok_bind, hsame, except_ok_bind,
    ensure_of rfl]
  rfl

theorem inspectDecision_of {decision : Decision P} {id : OpaqueId} {trace : RequestTrace P}
    (h : IsDecision event decision) (hverify : decision.verify manifest.body.gatewayKey = .ok ())
    (hrun : decision.body.runId = manifest.body.runId ∧
      decision.body.manifestHash = manifest.manifestHash)
    (hsequence : st.requestSequences.lookup decision.body.requestEventSequence.1 = some id)
    (htrace : st.traces.lookup id = some trace)
    (hbinds : decision.body.requestEventHash = trace.event.eventHash ∧
      some decision.body.requestId = trace.event.body.requestId ∧
      event.body.requestId = trace.event.body.requestId ∧
      decision.body.actionSha256 = trace.actionSha256)
    (hnone : trace.decision = none) :
    st.inspectDecision manifest event = .ok { st.setTrace id { trace with
        decision := some decision } with
      stats := { st.stats with
        decisions := st.stats.decisions + 1
        allowed := st.stats.allowed + (decide (decision.body.verdict = .allow)).toNat
        denied := st.stats.denied + (!decide (decision.body.verdict = .allow)).toNat }
      killBarrier :=
        if decision.body.hardViolation then some event.body.sequence.1
        else st.killBarrier } := by
  rw [inspectDecision, h.2, except_ok_bind, hverify, except_ok_bind, ensure_of hrun,
    except_ok_bind]
  simp only [hsequence, Option.bind_some, htrace, Option.map_some, ensure_of hbinds,
    except_ok_bind, hnone, Option.isNone_none]
  rw [ensure_of trivial]
  rfl

theorem decidedTrace_of {id : OpaqueId} {trace : RequestTrace P} {decision : Decision P}
    (hid : event.body.requestId = some id) (htrace : st.traces.lookup id = some trace)
    (hdecision : trace.decision = some decision) :
    st.decidedTrace event = some (id, trace, decision) := by
  simp [decidedTrace, hid, htrace, hdecision]

theorem inspectDispatch_of {payload : DispatchEventPayload} {id : OpaqueId}
    {trace : RequestTrace P} {decision : Decision P} (h : IsDispatch event payload)
    (hbarrier : st.killBarrier = none) (hid : event.body.requestId = some id)
    (htrace : st.traces.lookup id = some trace) (hdecision : trace.decision = some decision)
    (hallow : decision.body.verdict = .allow) (hfirst : trace.dispatched = false)
    (hbinds : BindsTo payload trace decision)
    (hunused : payload.authorizationId ∉ st.authorizationIds)
    (hexpiry : ∀ expires ∈ decision.body.authorizationExpiresMonotonicNs,
      event.body.monotonicNs.1 ≤ expires.1) :
    st.inspectDispatch event = .ok { st.setTrace id { trace with dispatched := true } with
      authorizationIds := insert payload.authorizationId st.authorizationIds
      stats := { st.stats with dispatches := st.stats.dispatches + 1 } } := by
  have hnone : st.killBarrier.isNone = true := by rw [hbarrier]; rfl
  rw [inspectDispatch, h.2, except_ok_bind, ensure_of hnone, except_ok_bind]
  simp only [decidedTrace_of hid htrace hdecision, ensure_of hallow, ensure_of hfirst,
    ensure_of hbinds, ensure_of hunused, ensure_of hexpiry, except_ok_bind]
  rfl

theorem inspectResult_of {payload : ResultEventPayload} {id : OpaqueId}
    {trace : RequestTrace P} {decision : Decision P} (h : IsResult event payload)
    (hid : event.body.requestId = some id) (htrace : st.traces.lookup id = some trace)
    (hdecision : trace.decision = some decision) (hdispatched : trace.dispatched = true)
    (hfirst : trace.completed = false)
    (hbinds : BindsTo payload.toDispatchEventPayload trace decision) :
    st.inspectResult event = .ok { st.setTrace id { trace with completed := true } with
      stats := { st.stats with results := st.stats.results + 1 } } := by
  have hfound : ((st.decidedTrace event).filter fun found => found.2.1.dispatched) =
      some (id, trace, decision) := by
    rw [decidedTrace_of hid htrace hdecision, Option.filter_some, if_pos hdispatched]
  rw [inspectResult, h.2, except_ok_bind]
  simp only [hfound, ensure_of hfirst, ensure_of hbinds, except_ok_bind]
  rfl

theorem inspectCancellation_of {payload : CancellationEventPayload} {id : OpaqueId}
    {trace : RequestTrace P} {decision : Decision P}
    (h : modelValidateJson P CancellationEventPayload.codec event.body.payloadCanonicalJson.1 =
      .ok payload)
    (hid : event.body.requestId = some id) (htrace : st.traces.lookup id = some trace)
    (hdecision : trace.decision = some decision) (hdispatched : trace.dispatched = true)
    (hopen : trace.completed = false ∧ trace.cancellationConfirmed = false)
    (hbinds : BindsTo payload.toDispatchEventPayload trace decision) :
    st.inspectCancellation event = .ok (st.setTrace id { trace with
      cancellationConfirmed := decide (payload.status = .confirmed) }) := by
  have hfound : ((st.decidedTrace event).filter fun found => found.2.1.dispatched) =
      some (id, trace, decision) := by
    rw [decidedTrace_of hid htrace hdecision, Option.filter_some, if_pos hdispatched]
  rw [inspectCancellation, h, except_ok_bind]
  simp only [hfound, ensure_of hopen, ensure_of hbinds, except_ok_bind]
  rfl

theorem inspectBarrier_of {α : Type} {c : Codec PyError α} {x : α}
    (h : modelValidateJson P c event.body.payloadCanonicalJson.1 = .ok x) :
    st.inspectBarrier c event = .ok { st with killBarrier := some event.body.sequence.1 } := by
  rw [inspectBarrier, h]
  rfl

theorem inspectAcknowledgement_of {ack own : KillAcknowledgement P}
    (hnone : st.loggedAck = none)
    (h : modelValidateJson P (Sealed.codec P killAcknowledgementSealing)
      event.body.payloadCanonicalJson.1 = .ok ack)
    (hverify : ack.verify manifest.body.supervisorKey = .ok ())
    (hbefore : ack.body.triggerEventSequence.1 < event.body.sequence.1)
    (htrigger : st.eventHashes.lookup ack.body.triggerEventSequence.1 =
      some ack.body.triggerEventHash)
    (hown : receipt.body.killAcknowledgement = some own) (hdigest : ack.digest = own.digest) :
    st.inspectAcknowledgement manifest receipt event = .ok { st with
      loggedAck := some ack
      stats := { st.stats with killAcks := st.stats.killAcks + 1 } } := by
  have hisNone : st.loggedAck.isNone = true := by rw [hnone]; rfl
  have hany : (receipt.body.killAcknowledgement.any fun own => ack.digest = own.digest) = true := by
    rw [hown]
    exact decide_eq_true hdigest
  rw [inspectAcknowledgement, ensure_of hisNone, except_ok_bind, h, except_ok_bind, hverify,
    except_ok_bind]
  dsimp only
  rw [ensure_of hbefore, except_ok_bind, ensure_of htrigger, except_ok_bind, ensure_of hany]
  rfl

/-- The state a turn starts from. -/
def logged (st : Inspection P) (event : Event P) : Inspection P :=
  { st with eventHashes := st.eventHashes.insert event.body.sequence.1 event.eventHash }

/-- The state a turn ends in. -/
def counted (st : Inspection P) : Inspection P :=
  { st with stats := { st.stats with events := st.stats.events + 1 } }

/-- One turn, from its part that depends on the kind of event. -/
theorem inspectEvent_of {st' : Inspection P}
    (h : inspectKind manifest receipt (st.logged event) event = .ok st') :
    st.inspectEvent manifest receipt event = .ok st'.counted := by
  rw [logged] at h
  rw [inspectEvent]
  dsimp only
  rw [h]
  rfl

theorem inspectKind_request (h : event.body.kind = .request) :
    st.inspectKind manifest receipt event = st.inspectRequest event := by
  simp only [inspectKind, h]

theorem inspectKind_decision (h : event.body.kind = .decision) :
    st.inspectKind manifest receipt event = st.inspectDecision manifest event := by
  simp only [inspectKind, h]

theorem inspectKind_dispatch (h : event.body.kind = .dispatch) :
    st.inspectKind manifest receipt event = st.inspectDispatch event := by
  simp only [inspectKind, h]

theorem inspectKind_result (h : event.body.kind = .result) :
    st.inspectKind manifest receipt event = st.inspectResult event := by
  simp only [inspectKind, h]

theorem inspectKind_cancellation (h : event.body.kind = .cancellation) :
    st.inspectKind manifest receipt event = st.inspectCancellation event := by
  simp only [inspectKind, h]

theorem inspectKind_killAcknowledged (h : event.body.kind = .killAcknowledged) :
    st.inspectKind manifest receipt event =
      st.inspectAcknowledgement manifest receipt event := by
  simp only [inspectKind, h]

/-- The turn of a violation. -/
theorem inspectEvent_of_violation {x : ViolationEventPayload} (hkind : event.body.kind = .violation)
    (h : modelValidateJson P ViolationEventPayload.codec event.body.payloadCanonicalJson.1 = .ok x) :
    st.inspectEvent manifest receipt event = .ok
      { st.logged event with killBarrier := some event.body.sequence.1 }.counted := by
  apply inspectEvent_of
  rw [inspectKind]
  simp only [hkind]
  exact inspectBarrier_of h

theorem close_of_incomplete (hdecided : ∀ entry ∈ st.traces.entries, entry.2.decision.isSome = true)
    (hincomplete : st.incomplete = 0) : st.close receipt = .ok () := by
  have hcompleted : ¬ (receipt.body.status = .completed ∧ st.incomplete ≠ 0) :=
    fun h => h.2 hincomplete
  rw [close, ensure_of hdecided, except_ok_bind, ensure_of hcompleted, except_ok_bind]
  exact ensure_of (Or.inl hincomplete)

end Inspection

/-! ## What the receipt says -/

/-- The event an acknowledgement names as its trigger. -/
def triggerOf (receipt : Receipt P) (events : List (Event P)) : Option Sha256Hex :=
  receipt.body.killAcknowledgement.bind fun ack =>
    (events[ack.body.triggerEventSequence.1.toNat]?).map Event.eventHash

/-- The receipt's account of the events and of their lines. -/
structure Recounts (manifest : Manifest P) (receipt : Receipt P) (events : List (Event P))
    (lines : List Bytes) : Prop where
  signed : receipt.verify manifest.body.supervisorKey = .ok ()
  runId : receipt.body.runId = manifest.body.runId
  manifestHash : receipt.body.manifestHash = manifest.manifestHash
  keyId : receipt.body.supervisorKeyId = manifest.body.supervisorKey.keyId
  checkpoint : receipt.body.witnessCheckpoint.verify manifest.body.witnessKey = .ok ()
  chained : Chained events
  bound : ∀ event ∈ events, event.body.runId = receipt.body.runId ∧
    event.body.manifestHash = receipt.body.manifestHash
  first : ∀ event, events[0]? = some event → event.body.previousEventHash.1 = genesisHash ∧
    some event.eventHash = receipt.body.firstEventHash
  final : ∀ event, events.getLast? = some event →
    some event.eventHash = receipt.body.finalEventHash
  count : receipt.body.eventCount.1 = events.length
  exported : List.Forall₂ (fun (event : Event P) encoded => event.canonicalBytes = .ok encoded)
    events lines
  digest : P.sha256Hex ((lines.map exportLine).map Line.raw).flatten =
    receipt.body.evidenceFileSha256.1
  acknowledged : ∀ ack ∈ receipt.body.killAcknowledgement,
    ack.verify manifest.body.supervisorKey = .ok () ∧
      ack.body.killLatencyNs.1 ≤
        manifest.body.killCriteria.supervisorKillLatencySlaMs.1 * 1000000 ∧
      triggerOf receipt events = some ack.body.triggerEventHash

/-- What the receipt's loop has collected after some events. -/
structure Collected (receipt : Receipt P) (events : List (Event P)) (lines : List Bytes)
    (progress : Receipt.Progress P) : Prop where
  evidence : progress.evidence = ((lines.map exportLine).map Line.raw).flatten
  previous : progress.previous = events.getLast?
  trigger : progress.triggerEventHash = triggerOf receipt events
  count : progress.count = events.length

theorem collected_start (receipt : Receipt P) : Collected receipt [] [] .start where
  evidence := rfl
  previous := rfl
  trigger := by cases h : receipt.body.killAcknowledgement <;> simp [triggerOf, h, Receipt.Progress.start]
  count := rfl

variable {manifest : Manifest P} {receipt : Receipt P}

/-- The trigger after one more event. -/
theorem triggerOf_snoc {events : List (Event P)} {event : Event P}
    (hsequence : event.body.sequence.1 = events.length) :
    triggerOf receipt (events ++ [event]) =
      match receipt.body.killAcknowledgement with
      | none => triggerOf receipt events
      | some ack =>
          if event.body.sequence = ack.body.triggerEventSequence then some event.eventHash
          else triggerOf receipt events := by
  cases hack : receipt.body.killAcknowledgement with
  | none => simp [triggerOf, hack]
  | some ack =>
      have hnonneg := ack.body.triggerEventSequence.le
      dsimp only
      split_ifs with heq
      · have hpos : ack.body.triggerEventSequence.1.toNat = events.length := by
          rw [← heq, hsequence]
          rfl
        simp [triggerOf, hack, hpos]
      · have hpos : ack.body.triggerEventSequence.1.toNat ≠ events.length := by
          intro hpos
          apply heq
          apply Subtype.ext
          rw [hsequence]
          omega
        simp only [triggerOf, hack, Option.bind_some]
        rcases Nat.lt_or_gt_of_ne hpos with hlt | hgt
        · rw [List.getElem?_append_left hlt]
        · have hlen : (events ++ [event]).length = events.length + 1 := List.length_append
          rw [List.getElem?_eq_none (by omega), List.getElem?_eq_none (by omega)]

/-- The event extends what the loop has seen. -/
def Links (receipt : Receipt P) (previous : Option (Event P)) (event : Event P) : Prop :=
  match previous with
  | none => event.body.sequence.1 = 0 ∧ event.body.previousEventHash.1 = genesisHash ∧
      some event.eventHash = receipt.body.firstEventHash
  | some previous => event.Follows previous

theorem accept_of_links {progress : Receipt.Progress P} {event : Event P} {encoded : Bytes}
    (hlt : (progress.count : ℤ) < receipt.body.eventCount.1)
    (hbound : event.body.runId = receipt.body.runId ∧
      event.body.manifestHash = receipt.body.manifestHash)
    (hlinks : Links receipt progress.previous event)
    (hencoded : event.canonicalBytes = .ok encoded) :
    receipt.accept progress event = .ok {
      evidence := progress.evidence ++ encoded ++ [10]
      previous := some event
      triggerEventHash :=
        match receipt.body.killAcknowledgement with
        | none => progress.triggerEventHash
        | some ack =>
            if event.body.sequence = ack.body.triggerEventSequence then some event.eventHash
            else progress.triggerEventHash
      count := progress.count + 1 } := by
  rw [Receipt.accept]
  dsimp only
  rw [ensure_of hlt, except_ok_bind, ensure_of hbound, except_ok_bind]
  cases hprevious : progress.previous with
  | none =>
      rw [hprevious] at hlinks
      obtain ⟨hzero, hgenesis, hfirst⟩ := hlinks
      simp only [ensure_of hzero, ensure_of hgenesis, ensure_of hfirst, except_ok_bind, hencoded]
      rfl
  | some previous =>
      rw [hprevious] at hlinks
      have hfollows : event.Follows previous := hlinks
      simp only [ensure_of hfollows, except_ok_bind, hencoded]
      rfl

theorem Recounts.links {events rest : List (Event P)} {event : Event P} {lines : List Bytes}
    (h : Recounts manifest receipt (events ++ event :: rest) lines) :
    Links receipt events.getLast? event := by
  have hat : (events ++ event :: rest)[events.length]? = some event := by simp
  have hsequence := h.chained.sequence _ _ hat
  have hbound := h.bound event (by simp)
  cases hlast : events.getLast? with
  | none =>
      obtain rfl := List.getLast?_eq_none_iff.mp hlast
      exact ⟨hsequence, h.first event rfl⟩
  | some previous =>
      have hmem := List.mem_of_getLast? hlast
      have hbound' := h.bound previous (by simp [hmem])
      have hpos := List.length_pos_of_mem hmem
      have hprevious : (events ++ event :: rest)[events.length - 1]? = some previous := by
        rw [List.getElem?_append_left (by omega), ← List.getLast?_eq_getElem?, hlast]
      have hnext : (events ++ event :: rest)[events.length - 1 + 1]? = some event := by
        rwa [Nat.sub_add_cancel hpos]
      obtain ⟨hhash, htime⟩ := h.chained.linked _ previous event hprevious hnext
      have hbefore := h.chained.sequence _ _ hprevious
      refine ⟨hbound.1.trans hbound'.1.symm, hbound.2.trans hbound'.2.symm, ?_, hhash, htime⟩
      omega

/-- One turn of the receipt's loop over events it recounts. -/
theorem Recounts.accept {events rest : List (Event P)} {event : Event P}
    {lines all : List Bytes} {encoded : Bytes} {progress : Receipt.Progress P}
    (h : Recounts manifest receipt (events ++ event :: rest) all)
    (hprogress : Collected receipt events lines progress)
    (hencoded : event.canonicalBytes = .ok encoded) :
    ∃ progress', receipt.accept progress event = .ok progress' ∧
      Collected receipt (events ++ [event]) (lines ++ [encoded]) progress' := by
  have hat : (events ++ event :: rest)[events.length]? = some event := by simp
  have hsequence := h.chained.sequence _ _ hat
  have hlt : (progress.count : ℤ) < receipt.body.eventCount.1 := by
    rw [h.count, hprogress.count, List.length_append, List.length_cons]
    omega
  have hlinks := h.links
  rw [← hprogress.previous] at hlinks
  refine ⟨_, accept_of_links hlt (h.bound event (by simp)) hlinks hencoded, ?_, ?_, ?_, ?_⟩
  · simp [hprogress.evidence, exportLine, Line.raw]
  · simp
  · rw [triggerOf_snoc hsequence, hprogress.trigger]
  · simp [hprogress.count]

/-- The run lemma: the three readers go through the rest of the file together. -/
theorem Recounts.consume {rest : List (Event P)} {restLines : List Bytes} {st st' : Inspection P}
    {events : List (Event P)} {lines all : List Bytes} {progress : Receipt.Progress P} {n : ℕ}
    (h : Recounts manifest receipt (events ++ rest) all)
    (hprogress : Collected receipt events lines progress)
    (hexported : List.Forall₂ (fun (event : Event P) encoded =>
      event.canonicalBytes = .ok encoded) rest restLines)
    (hinspect : inspectAll manifest receipt st rest = .ok st')
    (hclose : st'.close receipt = .ok ()) :
    ∃ n' progress', receipt.consume (pullEvent manifest receipt)
        (fun stream => stream.2.close receipt) (n, st) progress (restLines.map exportLine) =
        .ok ((n', st'), progress') ∧
      Collected receipt (events ++ rest) (lines ++ restLines) progress' := by
  induction hexported generalizing events lines progress n st with
  | nil =>
      obtain rfl : st = st' := Except.ok.inj hinspect
      refine ⟨n, progress, ?_, ?_⟩
      · rw [List.map_nil, Receipt.consume, hclose]
        rfl
      · rwa [List.append_nil, List.append_nil]
  | @cons event encoded rest restLines hencoded _ ih =>
      obtain ⟨st₁, hst₁, hinspect⟩ := inspectAll_cons.mp hinspect
      obtain ⟨progress₁, haccept, hprogress₁⟩ := h.accept hprogress hencoded
      rw [show events ++ event :: rest = (events ++ [event]) ++ rest by simp] at h ⊢
      rw [show lines ++ encoded :: restLines = (lines ++ [encoded]) ++ restLines by simp]
      obtain ⟨n', progress', hconsume, hcollected⟩ := ih (n := n + 1) h hprogress₁ hinspect
      refine ⟨n', progress', ?_, hcollected⟩
      have hpull : pullEvent manifest receipt (n, st) (exportLine encoded) =
          .ok (event, n + 1, st₁) := by
        rw [pullEvent, decodeLine_exportLine _ hencoded, except_ok_bind, hst₁]
        rfl
      rw [List.map_cons, Receipt.consume, hpull, except_ok_bind]
      dsimp only
      rw [haccept, except_ok_bind]
      exact hconsume

/-- The counters the generator arrives at are the receipt's. -/
structure Tallies (receipt : Receipt P) (st : Inspection P) : Prop where
  events : (st.stats.events : ℤ) = receipt.body.eventCount.1
  allowed : (st.stats.allowed : ℤ) = receipt.body.allowedRequestCount.1
  denied : (st.stats.denied : ℤ) = receipt.body.deniedRequestCount.1
  dispatches : (st.stats.dispatches : ℤ) = receipt.body.dispatchedRequestCount.1
  results : (st.stats.results : ℤ) = receipt.body.completedRequestCount.1
  killAcks : st.stats.killAcks = receipt.body.killAcknowledgement.toList.length

/-- A bundle whose receipt recounts what the generator passes is accepted. -/
theorem verifyBundle_of_recounts {events : List (Event P)} {lines : List Bytes}
    {st : Inspection P} {key : Ed25519PublicKey}
    (hkey : key.keyId = manifest.body.operatorKeyId) (hmanifest : manifest.verify key.asBytes = .ok ())
    (h : Recounts manifest receipt events lines)
    (hinspect : inspectAll manifest receipt .start events = .ok st)
    (hclose : st.close receipt = .ok ()) (htallies : Tallies receipt st) :
    ∃ report, verifyBundle manifest receipt (lines.map exportLine) key = .ok report ∧
      report.valid = true := by
  obtain ⟨n, progress, hconsume, hcollected⟩ :=
    Recounts.consume (n := 0) (show Recounts manifest receipt ([] ++ events) lines from h)
      (collected_start receipt) h.exported hinspect hclose
  simp only [List.nil_append] at hcollected
  have hconclude : receipt.conclude manifest progress = .ok () := by
    have hcount : (progress.count : ℤ) = receipt.body.eventCount.1 := by
      rw [hcollected.count, h.count]
    have hfinal : ∀ previous ∈ progress.previous,
        some previous.eventHash = receipt.body.finalEventHash := by
      rw [hcollected.previous]
      exact fun previous hprevious => h.final previous hprevious
    have hdigest : P.sha256Hex progress.evidence = receipt.body.evidenceFileSha256.1 := by
      rw [hcollected.evidence, h.digest]
    rw [Receipt.conclude]
    dsimp only
    rw [ensure_of hcount, except_ok_bind, ensure_of hfinal, except_ok_bind, ensure_of hdigest,
      except_ok_bind]
    cases hack : receipt.body.killAcknowledgement with
    | none => rfl
    | some ack =>
        obtain ⟨hverify, hsla, htrigger⟩ := h.acknowledged ack hack
        simp only [hverify, except_ok_bind, ensure_of hsla, hcollected.trigger, htrigger]
        exact ensure_of trivial
  have hagainst : receipt.verifyAgainst manifest (pullEvent manifest receipt)
      (fun stream => stream.2.close receipt) (0, .start) (lines.map exportLine) = .ok (n, st) := by
    rw [Receipt.verifyAgainst, h.signed, except_ok_bind, ensure_of h.runId, except_ok_bind,
      ensure_of h.manifestHash, except_ok_bind, ensure_of h.keyId, except_ok_bind, h.checkpoint,
      except_ok_bind, hconsume, except_ok_bind]
    dsimp only
    rw [hconclude, except_ok_bind]
    rfl
  have hsome : ¬ (receipt.body.killAcknowledgement.isSome = true ∧ st.stats.killAcks ≠ 1) := by
    rw [htallies.killAcks]
    cases receipt.body.killAcknowledgement <;> simp
  have hnone : ¬ (receipt.body.killAcknowledgement.isNone = true ∧ st.stats.killAcks ≠ 0) := by
    rw [htallies.killAcks]
    cases receipt.body.killAcknowledgement <;> simp
  refine ⟨⟨true, st.stats.events, st.stats.decisions, st.stats.dispatches, st.stats.results,
    receipt.body.killAcknowledgement.isSome, receipt.body.witnessCheckpoint.digest⟩, ?_, rfl⟩
  rw [verifyBundle, ensure_of hkey, except_ok_bind, hmanifest, except_ok_bind, hagainst,
    except_ok_bind]
  dsimp only [compareCounter]
  rw [ensure_of htallies.events, except_ok_bind, ensure_of htallies.allowed, except_ok_bind,
    ensure_of htallies.denied, except_ok_bind, ensure_of htallies.dispatches, except_ok_bind,
    ensure_of htallies.results, except_ok_bind, ensure_of hsome, except_ok_bind, ensure_of hnone,
    except_ok_bind]
  rfl

end Containment
