/-
# A request on the reference platform

The action of the reference tests, and a chain that starts with its request and an
allowance for it. The bundles below continue it in ways that the verifier accepts.
-/

import Containment.Reference.Bundle

namespace Containment

open Json

namespace Reference

def actionBodyText : String := "\x7b\"name\":\"numpy\"\x7d"

theorem bodyIsCanonical_actionBodyText : bodyIsCanonical platform actionBodyText = .ok () := by
  decide +kernel

/-! Values that several records share. -/

theorem port_https : intRange 1 65535 443 = .ok () := by decide
theorem safeInt_zero : intRange 0 maxSafeInteger 0 = .ok () := by decide
theorem safeInt_decided : intRange 0 maxSafeInteger 2000 = .ok () := by decide
theorem safeInt_expires : intRange 0 maxSafeInteger 1000002000 = .ok () := by decide
theorem opaqueId_packageRead : opaqueIdCheck "credential:package-read" = .ok () := by decide
theorem opaqueId_gatewayInstance : opaqueIdCheck "gateway-instance:demo" = .ok () := by decide
theorem opaqueId_supervisorInstance : opaqueIdCheck "supervisor-instance:demo" = .ok () := by decide
theorem opaqueId_allowed : opaqueIdCheck "policy.allowed" = .ok () := by decide

theorem noWorkloads : stringListCheck "terminated workload IDs" ([] : List OpaqueId) = .ok () := by
  decide

def action : Action platform where
  requestId := ⟨"request:allowed", by decide⟩
  method := .post
  host := ⟨"packages.example.test", by decide⟩
  port := ⟨443, port_https⟩
  path := ⟨"/v1/packages/resolve", by decide⟩
  resolvedIp := ⟨"203.0.113.17", by decide⟩
  tlsSpkiSha256 := ⟨demoSpkiPin.1, by decide⟩
  bodyCanonicalJson := ⟨actionBodyText, bodyIsCanonical_actionBodyText⟩
  bodySha256 := ⟨platform.sha256Hex (utf8 actionBodyText), lawful.sha256Hex_check _⟩
  bodyBytes := ⟨16, by decide⟩
  credentialId := some ⟨"credential:package-read", opaqueId_packageRead⟩
  bound := by decide +kernel

theorem fits_of_validate {v : Json} {s : ℕ}
    (hvalid : (validateJsonValue platform "$" 0 maxJsonNodes v).toOption.isSome = true)
    (hspan : v.span ≤ s) : Fits platform 64 s v := by
  cases hbudget : validateJsonValue platform "$" 0 maxJsonNodes v with
  | error error =>
      rw [hbudget] at hvalid
      cases hvalid
  | ok budget =>
      obtain ⟨hheight, -, hadmissible, -⟩ := (validateJsonValue_eq_ok _ _ _ _ _).mp hbudget
      rw [Nat.zero_add] at hheight
      exact ⟨hadmissible, hheight, hspan⟩

theorem fits_action : Fits platform 63 6000 ((Action.codec platform).encode action) := by
  have hfits : Fits platform 64 6000 ((Action.codec platform).encode action) :=
    fits_of_validate (by decide +kernel) (by decide +kernel)
  have hheight : ((Action.codec platform).encode action).height ≤ 63 := by decide +kernel
  exact ⟨hfits.admissible, hheight, hfits.span⟩

section Fitting

variable {act : Action platform}
  (hfits : Fits platform 63 6000 ((Action.codec platform).encode act))
include hfits

theorem exists_digest_of_fits : ∃ digest : Sha256Hex, act.digest = .ok digest.1 := by
  obtain ⟨text, htext⟩ : ∃ text, canonicalJson platform ((Action.codec platform).encode act) =
      .ok text := ⟨_, hfits.canonicalJson (by decide) (by decide)⟩
  have hdigest : act.digest =
      .ok (platform.sha256Hex (domainPreimage "ACTION-HASH" (utf8 text))) :=
    domainHash_of_canonicalJson "ACTION-HASH" htext
  have hcheck := lawful.sha256Hex_check (domainPreimage "ACTION-HASH" (utf8 text))
  -- The digest is not to be computed.
  generalize platform.sha256Hex (domainPreimage "ACTION-HASH" (utf8 text)) = value at hdigest hcheck
  exact ⟨⟨value, hcheck⟩, hdigest⟩

theorem fits_requestPayload_of_fits (digest : Sha256Hex) :
    Fits platform 64 100000 (Gateway.requestPayload act digest.1) := by
  have hfields := (fieldsFit_singleton lawful (show IsAscii "action" by decide) hfits).append
    (fieldsFit_singleton lawful (show IsAscii "action_sha256" by decide)
      (fits_sha256Hex lawful 63 digest))
  exact (hfields.obj (by simp)).mono le_rfl (by decide)

end Fitting

theorem exists_digest : ∃ digest : Sha256Hex, action.digest = .ok digest.1 :=
  exists_digest_of_fits fits_action

theorem fits_requestPayload (digest : Sha256Hex) :
    Fits platform 64 100000 (Gateway.requestPayload action digest.1) :=
  fits_requestPayload_of_fits fits_action digest

/-! ## The allowance -/

def authorizationId : OpaqueId := ⟨"auth:00", by decide⟩

/-- The body of an allowance for the request. -/
def allowBody (manifest : Manifest platform) (request : Event platform) (digest : Sha256Hex) :
    DecisionBody where
  runId := manifest.body.runId
  manifestHash := manifest.manifestHash
  requestId := action.requestId
  requestEventSequence := request.body.sequence
  requestEventHash := request.eventHash
  actionSha256 := digest
  gatewayKeyId := manifest.body.gatewayKey.keyId
  gatewayInstanceId := ⟨"gateway-instance:demo", opaqueId_gatewayInstance⟩
  decidedAt := timestamp now
  decisionMonotonicNs := ⟨2000, safeInt_decided⟩
  killEpoch := ⟨0, safeInt_zero⟩
  verdict := .allow
  reasonCode := ⟨"policy.allow", by decide⟩
  matchedRuleId := some rule.ruleId
  hardViolation := false
  authorizationId := some authorizationId
  authorizationExpiresMonotonicNs := some ⟨1000002000, safeInt_expires⟩
  authorizationMaxUses := some ()
  coherent := rfl

theorem exists_allowance {manifest : Manifest platform} (hm : Signed manifest)
    (request : Event platform) (digest : Sha256Hex) :
    ∃ decision : Decision platform, decision.body = allowBody manifest request digest ∧
      decision.verify manifest.body.gatewayKey = .ok () ∧
      Fits platform 64 20000 ((Sealed.codec platform decisionSealing).encode decision) := by
  have htext := (fits_decisionBody lawful (allowBody manifest request digest)).canonicalJson
    (by decide) (by decide)
  obtain ⟨decision, -, hbody, hverify⟩ := Sealed.exists_sign lawful
    (F := decisionSealing) htext keys.gateway
  refine ⟨decision, hbody, hverify _ rfl hm.gateway_public, ?_⟩
  have hfits := fits_sealed_at lawful (fits_decisionBody lawful decision.body)
    (show IsAscii decisionSealing.hashName ∧ _ by decide)
    (show IsAscii decisionSealing.signatureName ∧ _ by decide)
  exact hfits.mono (by decide) (by decide)

/-! ## Following the request -/

/-- The generator's state while it follows the one request. -/
structure Following (st : Inspection platform) (request : Event platform)
    (trace : RequestTrace platform) (stats : Stats)
    (ack : Option (KillAcknowledgement platform)) : Prop where
  traces : st.traces.entries = [⟨action.requestId, trace⟩]
  sequence : st.requestSequences.lookup 0 = some action.requestId
  hash : st.eventHashes.lookup 0 = some request.eventHash
  unused : trace.dispatched = false → authorizationId ∉ st.authorizationIds
  barrier : st.killBarrier = none
  stats : st.stats = stats
  logged : st.loggedAck = ack

variable {st : Inspection platform} {request : Event platform} {trace : RequestTrace platform}
  {stats : Stats} {ack : Option (KillAcknowledgement platform)} {manifest : Manifest platform}

theorem Following.lookup (h : Following st request trace stats ack) :
    st.traces.lookup action.requestId = some trace := by
  simp [AList.lookup, h.traces]

theorem entries_insert (h : Following st request trace stats ack)
    (trace' : RequestTrace platform) :
    (st.traces.insert action.requestId trace').entries = [⟨action.requestId, trace'⟩] := by
  rw [AList.entries_insert, h.traces]
  exact congrArg (List.cons _) (List.kerase_cons_eq rfl)

/-- A chain of events at one moment, and what the generator makes of it. -/
structure Story (manifest : Manifest platform) (own : Option (KillAcknowledgement platform))
    (events : List (Event platform)) (lines : List Bytes) (request : Event platform)
    (trace : RequestTrace platform) (stats : Stats)
    (ack : Option (KillAcknowledgement platform)) : Prop where
  chain : Chain manifest events lines
  time : ∀ event, events.getLast? = some event → event.body.monotonicNs.1 = 2000
  short : events.length < 1000
  followed : ∀ receipt : Receipt platform, receipt.body.killAcknowledgement = own →
    ∃ st, inspectAll manifest receipt .start events = .ok st ∧ Following st request trace stats ack

/-- What is known about a new event of a story. -/
structure Told (event : Event platform) (kind : EventKind) (payload : Json)
    (requestId : Option String) (sequence : ℕ) : Prop where
  kind : event.body.kind = kind
  requestId : event.body.requestId.map Subtype.val = requestId
  sequence : event.body.sequence.1 = sequence
  time : event.body.monotonicNs.1 = 2000
  text : canonicalJson platform payload = .ok event.body.payloadCanonicalJson.1

theorem requestId_eq_of_map {id : Option OpaqueId} {own : OpaqueId}
    (h : id.map Subtype.val = some own.1) : id = some own := by
  cases id with
  | none => cases h
  | some id => exact congrArg some (Subtype.ext (Option.some.inj h))

theorem Told.request_eq {event : Event platform} {kind : EventKind} {payload : Json} {n : ℕ}
    (h : Told event kind payload (some action.requestId.1) n) :
    event.body.requestId = some action.requestId :=
  requestId_eq_of_map h.requestId

theorem Story.extend {own : Option (KillAcknowledgement platform)}
    {events : List (Event platform)} {lines : List Bytes}
    (h : Story manifest own events lines request trace stats ack) (trace' : RequestTrace platform)
    (stats' : Stats) (ack' : Option (KillAcknowledgement platform)) {payload : Json}
    {requestId : Option String} (hfits : Fits platform 64 100000 payload)
    (hrequest : ∀ id ∈ requestId, opaqueIdCheck id = .ok ()) (kind : EventKind)
    (hshort : events.length < 900)
    (hturn : ∀ event, Told event kind payload requestId events.length →
      ∀ (receipt : Receipt platform) st, receipt.body.killAcknowledgement = own →
        Following st request trace stats ack →
        ∃ st', st.inspectEvent manifest receipt event = .ok st' ∧
          Following st' request trace' stats' ack') :
    ∃ event encoded, Told event kind payload requestId events.length ∧
      Story manifest own (events ++ [event]) (lines ++ [encoded]) request trace' stats' ack' := by
  have hroom : (events.length : ℤ) ≤ maxSafeInteger := by
    rw [maxSafeInteger]
    omega
  have hlater : ∀ previous, events.getLast? = some previous →
      previous.body.monotonicNs.1 ≤ 2000 := fun previous hlast => (h.time previous hlast).le
  obtain ⟨event, encoded, hchain, hkind, hid, hsequence, htime, htext⟩ :=
    h.chain.extend ⟨hfits, hroom, ⟨by decide, by decide⟩, hlater, hrequest⟩ kind
  have htold : Told event kind payload requestId events.length :=
    ⟨hkind, hid, hsequence, htime, htext⟩
  refine ⟨event, encoded, htold, hchain, ?_, ?_, fun receipt hown => ?_⟩
  · intro last hlast
    rw [List.getLast?_concat] at hlast
    rw [← Option.some.inj hlast, htime]
  · rw [List.length_append, List.length_singleton]
    omega
  · obtain ⟨st, hinspect, hfollowing⟩ := h.followed receipt hown
    obtain ⟨st', hevent, hfollowing'⟩ := hturn event htold receipt st hown hfollowing
    exact ⟨st', inspectAll_snoc.mpr ⟨st, hinspect, hevent⟩, hfollowing'⟩

/-! ## The turns of the story -/

/-- The chain that is only the request. -/
theorem exists_request (manifest : Manifest platform) {digest : Sha256Hex}
    (hdigest : action.digest = .ok digest.1) :
    ∃ (request : Event platform) (encoded : Bytes), request.body.kind = .request ∧
      request.body.requestId = some action.requestId ∧ request.body.monotonicNs.1 = 2000 ∧
      ∀ own, Story manifest own [request] [encoded] request
        ⟨request, digest, none, false, false, false⟩ ⟨1, 0, 0, 0, 0, 0, 0⟩ none := by
  have hextension : Extension [] (Gateway.requestPayload action digest.1) 2000
      (some action.requestId.1) :=
    ⟨fits_requestPayload digest, by decide, ⟨by decide, by decide⟩, fun _ h => (nomatch h),
      fun id hid => by rw [← Option.some.inj hid]; exact action.requestId.2⟩
  obtain ⟨event, encoded, hchain, hkind, hid, hsequence, htime, htext⟩ :=
    (chain_nil manifest).extend hextension .request
  have htold : Told event .request (Gateway.requestPayload action digest.1)
      (some action.requestId.1) 0 := ⟨hkind, hid, hsequence, htime, htext⟩
  have hzero : event.body.sequence.1 = 0 := hsequence
  refine ⟨event, encoded, hkind, htold.request_eq, htime, fun own =>
    ⟨hchain, ?_, Nat.one_lt_ofNat, fun receipt _ => ?_⟩⟩
  · rintro last ⟨⟩
    exact htime
  · have hrequest := isRequest_of_payload hkind hdigest htext
    have hfresh : action.requestId ∉ (Inspection.start.logged event : Inspection platform).traces :=
      AList.notMem_empty _
    have hturn := Inspection.inspectRequest_of hrequest hdigest htold.request_eq hfresh
    refine ⟨_, inspectAll_cons.mpr ⟨_, Inspection.inspectEvent_of
      ((Inspection.inspectKind_request hkind).trans hturn), rfl⟩, ?_⟩
    constructor
    · rfl
    · rw [hzero]
      exact AList.lookup_insert _
    · simp only [Inspection.counted, Inspection.logged, hzero]
      exact AList.lookup_insert _
    · exact fun _ => Finset.notMem_empty _
    · rfl
    · rfl
    · rfl

/-- After a turn that replaced the trace. -/
theorem Following.turn (h : Following st request trace stats ack) {event : Event platform}
    (hpos : event.body.sequence.1 ≠ 0) {st' : Inspection platform}
    {trace' : RequestTrace platform} {stats' : Stats}
    (htraces : st'.traces = st.traces.insert action.requestId trace')
    (hsequences : st'.requestSequences = st.requestSequences)
    (hhashes : st'.eventHashes = st.eventHashes.insert event.body.sequence.1 event.eventHash)
    (hunused : trace'.dispatched = false → authorizationId ∉ st'.authorizationIds)
    (hbarrier : st'.killBarrier = none) (hstats : st'.stats = stats')
    (hlogged : st'.loggedAck = ack) : Following st' request trace' stats' ack where
  traces := by rw [htraces, entries_insert h]
  sequence := by rw [hsequences, h.sequence]
  hash := by rw [hhashes, AList.lookup_insert_ne hpos.symm, h.hash]
  unused := hunused
  barrier := hbarrier
  stats := hstats
  logged := hlogged

variable {own : Option (KillAcknowledgement platform)} {events : List (Event platform)}
  {lines : List Bytes} {digest : Sha256Hex}

theorem opaqueId_request : ∀ id ∈ some action.requestId.1, opaqueIdCheck id = .ok () := by
  rintro id ⟨⟩
  exact action.requestId.2

/-- The allowance comes next. -/
theorem Story.decide (h : Story manifest own events lines request
      ⟨request, digest, none, false, false, false⟩ stats none)
    (hfirst : request.body.sequence.1 = 0)
    (hrequest : request.body.requestId = some action.requestId) {decision : Decision platform}
    (hbody : decision.body = allowBody manifest request digest)
    (hverify : decision.verify manifest.body.gatewayKey = .ok ())
    (hfits : Fits platform 64 20000 ((Sealed.codec platform decisionSealing).encode decision))
    (hpos : events ≠ []) (hshort : events.length < 900) :
    ∃ event encoded, IsDecision event decision ∧
      Story manifest own (events ++ [event]) (lines ++ [encoded]) request
        ⟨request, digest, some decision, false, false, false⟩ { stats with
          events := stats.events + 1
          decisions := stats.decisions + 1
          allowed := stats.allowed + 1 } none := by
  have hlength := List.length_pos_iff.mpr hpos
  obtain ⟨event, encoded, htold, hstory⟩ := h.extend
    ⟨request, digest, some decision, false, false, false⟩
    { stats with
      events := stats.events + 1
      decisions := stats.decisions + 1
      allowed := stats.allowed + 1 }
    none (hfits.mono le_rfl (by decide)) opaqueId_request .decision hshort (by
      intro event htold receipt st hown hf
      have hdecision : IsDecision event decision :=
        ⟨htold.kind, modelValidateJson_of_canonicalJson htold.text⟩
      have hne : event.body.sequence.1 ≠ 0 := by
        rw [htold.sequence]
        omega
      have hrun : decision.body.runId = manifest.body.runId ∧
          decision.body.manifestHash = manifest.manifestHash := by
        rw [hbody]
        exact ⟨rfl, rfl⟩
      have hsequence : (st.logged event).requestSequences.lookup
          decision.body.requestEventSequence.1 = some action.requestId := by
        have hzero : decision.body.requestEventSequence.1 = 0 := by
          rw [hbody]
          exact hfirst
        rw [hzero]
        exact hf.sequence
      have hbinds : decision.body.requestEventHash = request.eventHash ∧
          some decision.body.requestId = request.body.requestId ∧
          event.body.requestId = request.body.requestId ∧
          decision.body.actionSha256 = digest := by
        rw [hbody, hrequest]
        exact ⟨rfl, rfl, htold.request_eq, rfl⟩
      have hturn := Inspection.inspectDecision_of hdecision hverify hrun hsequence hf.lookup hbinds
        rfl
      refine ⟨_, Inspection.inspectEvent_of
        ((Inspection.inspectKind_decision htold.kind).trans hturn), ?_⟩
      have hverdict : decision.body.verdict = .allow := by rw [hbody]; rfl
      have hhard : decision.body.hardViolation = false := by rw [hbody]; rfl
      refine hf.turn hne rfl rfl rfl hf.unused ?_ ?_ hf.logged
      · simp only [Inspection.counted, hhard]
        exact hf.barrier
      · simp [Inspection.counted, Inspection.logged, hverdict, hf.stats])
  exact ⟨event, encoded, ⟨htold.kind, modelValidateJson_of_canonicalJson htold.text⟩, hstory⟩

/-- What a dispatch, a result and a cancellation of the request carry. -/
def binding (decision : Decision platform) (digest : Sha256Hex) : DispatchEventPayload :=
  ⟨digest, authorizationId, decision.decisionHash, decision.body.killEpoch⟩

variable {decision : Decision platform} {completed cancelled : Bool}

theorem bindsTo_binding (hbody : decision.body = allowBody manifest request digest)
    {dispatched : Bool} : Inspection.BindsTo (binding decision digest)
      ⟨request, digest, some decision, dispatched, completed, cancelled⟩ decision :=
  ⟨rfl, rfl, by rw [hbody]; rfl, rfl⟩

/-- The dispatch. -/
theorem Story.dispatch (h : Story manifest own events lines request
      ⟨request, digest, some decision, false, false, false⟩ stats ack)
    (hbody : decision.body = allowBody manifest request digest)
    (hpos : events ≠ []) (hshort : events.length < 900) :
    ∃ event encoded, event.body.kind = .dispatch ∧
      event.body.requestId = some action.requestId ∧
      Story manifest own (events ++ [event]) (lines ++ [encoded]) request
        ⟨request, digest, some decision, true, false, false⟩ { stats with
          events := stats.events + 1
          dispatches := stats.dispatches + 1 } ack := by
  have hlength := List.length_pos_iff.mpr hpos
  obtain ⟨event, encoded, htold, hstory⟩ := h.extend
    ⟨request, digest, some decision, true, false, false⟩
    { stats with
      events := stats.events + 1
      dispatches := stats.dispatches + 1 }
    ack ((fits_dispatchPayload lawful (binding decision digest)).mono (by decide) (by decide))
    opaqueId_request .dispatch hshort (by
      intro event htold receipt st hown hf
      have hdispatch : IsDispatch event (binding decision digest) :=
        ⟨htold.kind, modelValidateJson_of_canonicalJson htold.text⟩
      have hne : event.body.sequence.1 ≠ 0 := by
        rw [htold.sequence]
        omega
      have hallow : decision.body.verdict = .allow := by rw [hbody]; rfl
      have hexpiry : ∀ expires ∈ decision.body.authorizationExpiresMonotonicNs,
          event.body.monotonicNs.1 ≤ expires.1 := by
        rw [hbody, htold.time]
        rintro expires ⟨⟩
        decide
      have hturn := Inspection.inspectDispatch_of hdispatch
        (show (st.logged event).killBarrier = none from hf.barrier)
        htold.request_eq hf.lookup rfl hallow rfl (bindsTo_binding hbody) (hf.unused rfl) hexpiry
      refine ⟨_, Inspection.inspectEvent_of
        ((Inspection.inspectKind_dispatch htold.kind).trans hturn), ?_⟩
      refine hf.turn hne rfl rfl rfl (fun hfalse => nomatch hfalse) hf.barrier ?_ hf.logged
      simp [Inspection.counted, Inspection.logged, hf.stats])
  exact ⟨event, encoded, htold.kind, htold.request_eq, hstory⟩

def resultOf (decision : Decision platform) (digest : Sha256Hex) : ResultEventPayload :=
  ⟨binding decision digest, ⟨2, by decide⟩, digest, ⟨200, by decide⟩⟩

/-- The result. A confirmed cancellation does not stand in its way. -/
theorem Story.result (h : Story manifest own events lines request
      ⟨request, digest, some decision, true, false, cancelled⟩ stats ack)
    (hbody : decision.body = allowBody manifest request digest)
    (hpos : events ≠ []) (hshort : events.length < 900) :
    ∃ event encoded, event.body.kind = .result ∧
      event.body.requestId = some action.requestId ∧
      Story manifest own (events ++ [event]) (lines ++ [encoded]) request
        ⟨request, digest, some decision, true, true, cancelled⟩ { stats with
          events := stats.events + 1
          results := stats.results + 1 } ack := by
  have hlength := List.length_pos_iff.mpr hpos
  obtain ⟨event, encoded, htold, hstory⟩ := h.extend
    ⟨request, digest, some decision, true, true, cancelled⟩
    { stats with
      events := stats.events + 1
      results := stats.results + 1 }
    ack ((fits_resultPayload lawful (resultOf decision digest)).mono (by decide) (by decide))
    opaqueId_request .result hshort (by
      intro event htold receipt st hown hf
      have hresult : IsResult event (resultOf decision digest) :=
        ⟨htold.kind, modelValidateJson_of_canonicalJson htold.text⟩
      have hne : event.body.sequence.1 ≠ 0 := by
        rw [htold.sequence]
        omega
      have hturn := Inspection.inspectResult_of hresult htold.request_eq
        (show (st.logged event).traces.lookup action.requestId = some _ from hf.lookup) rfl rfl rfl (bindsTo_binding hbody)
      refine ⟨_, Inspection.inspectEvent_of
        ((Inspection.inspectKind_result htold.kind).trans hturn), ?_⟩
      refine hf.turn hne rfl rfl rfl (fun hfalse => nomatch hfalse) hf.barrier ?_ hf.logged
      simp [Inspection.counted, Inspection.logged, hf.stats])
  exact ⟨event, encoded, htold.kind, htold.request_eq, hstory⟩

def cancellationOf (decision : Decision platform) (digest : Sha256Hex) :
    CancellationEventPayload where
  toDispatchEventPayload := binding decision digest
  status := .confirmed
  evidenceSha256 := some digest
  coherent := rfl

/-- The confirmed cancellation. -/
theorem Story.cancel (h : Story manifest own events lines request
      ⟨request, digest, some decision, true, false, false⟩ stats ack)
    (hbody : decision.body = allowBody manifest request digest)
    (hpos : events ≠ []) (hshort : events.length < 900) :
    ∃ event encoded, event.body.kind = .cancellation ∧
      modelValidateJson platform CancellationEventPayload.codec
        event.body.payloadCanonicalJson.1 = .ok (cancellationOf decision digest) ∧
      event.body.requestId = some action.requestId ∧
      Story manifest own (events ++ [event]) (lines ++ [encoded]) request
        ⟨request, digest, some decision, true, false, true⟩ { stats with
          events := stats.events + 1 } ack := by
  have hlength := List.length_pos_iff.mpr hpos
  obtain ⟨event, encoded, htold, hstory⟩ := h.extend
    ⟨request, digest, some decision, true, false, true⟩ { stats with events := stats.events + 1 } ack
    ((fits_cancellationPayload lawful (cancellationOf decision digest)).mono (by decide) (by decide))
    opaqueId_request .cancellation hshort (by
      intro event htold receipt st hown hf
      have hcancel := modelValidateJson_of_canonicalJson htold.text
      have hne : event.body.sequence.1 ≠ 0 := by
        rw [htold.sequence]
        omega
      have hturn := Inspection.inspectCancellation_of hcancel htold.request_eq
        (show (st.logged event).traces.lookup action.requestId = some _ from hf.lookup) rfl rfl ⟨rfl, rfl⟩ (bindsTo_binding hbody)
      refine ⟨_, Inspection.inspectEvent_of
        ((Inspection.inspectKind_cancellation htold.kind).trans hturn), ?_⟩
      refine hf.turn hne rfl rfl rfl (fun hfalse => nomatch hfalse) hf.barrier ?_ hf.logged
      simp [Inspection.counted, Inspection.logged, Inspection.setTrace, hf.stats])
  exact ⟨event, encoded, htold.kind, modelValidateJson_of_canonicalJson htold.text,
    htold.request_eq, hstory⟩

/-- The acknowledgement of a kill with nothing in flight. -/
def killBody (manifest : Manifest platform) (trigger : Event platform) :
    KillAcknowledgementBody where
  runId := manifest.body.runId
  manifestHash := manifest.manifestHash
  supervisorKeyId := manifest.body.supervisorKey.keyId
  supervisorInstanceId := ⟨"supervisor-instance:demo", opaqueId_supervisorInstance⟩
  triggerEventSequence := trigger.body.sequence
  triggerEventHash := trigger.eventHash
  triggerMonotonicNs := ⟨1999, by decide⟩
  killRequestedAt := timestamp now
  killRequestedMonotonicNs := ⟨2000, safeInt_decided⟩
  killAcknowledgedAt := timestamp now
  killAcknowledgedMonotonicNs := ⟨2000, safeInt_decided⟩
  killLatencyNs := ⟨1, by decide⟩
  terminationMode := .simulated
  terminatedWorkloadIds := ⟨[], noWorkloads⟩
  inflightAtTrigger := ⟨0, safeInt_zero⟩
  inflightCancelSignalled := ⟨0, safeInt_zero⟩
  inflightCancelled := ⟨0, safeInt_zero⟩
  networkIsolationConfirmed := false
  isolationEvidenceSha256 := none
  coherent := by
    simp only [KillAcknowledgementBodyFields.timingIsCoherent, bind_eq_ok, Unique.exists_iff,
      ensure_eq_ok, if_true]
    exact ⟨by decide, by decide, by decide, List.lt_irrefl _, by decide, by decide, by decide,
      by simp⟩

/-- An acknowledgement that names the request as its trigger, with a time of its own. -/
theorem exists_acknowledgement (hm : Signed manifest) (request : Event platform) :
    ∃ own : KillAcknowledgement platform, own.verify manifest.body.supervisorKey = .ok () ∧
      own.body.runId = manifest.body.runId ∧ own.body.manifestHash = manifest.manifestHash ∧
      own.body.supervisorKeyId = manifest.body.supervisorKey.keyId ∧
      own.body.triggerEventSequence = request.body.sequence ∧
      own.body.triggerEventHash = request.eventHash ∧ own.body.triggerMonotonicNs.1 = 1999 ∧
      own.body.killLatencyNs.1 = 1 ∧ own.body.terminatedWorkloadIds.1 = [] ∧
      Fits platform 64 100000 ((Sealed.codec platform killAcknowledgementSealing).encode own) := by
  have hfits := fits_killAcknowledgementBody_at lawful (x := killBody manifest request) rfl
  obtain ⟨own, -, hbody, hverify⟩ := Sealed.exists_sign lawful (F := killAcknowledgementSealing)
    (hfits.canonicalJson (by decide) (by decide)) keys.supervisor
  refine ⟨own, hverify _ rfl hm.supervisor_public, ?_⟩
  rw [hbody]
  refine ⟨rfl, rfl, rfl, rfl, rfl, rfl, rfl, rfl, ?_⟩
  rw [← hbody] at hfits
  exact (fits_sealed_at lawful hfits (by decide) (by decide)).mono (by decide) (by decide)

/-- The acknowledgement is logged. -/
theorem Story.acknowledge {own : KillAcknowledgement platform}
    (h : Story manifest (some own) events lines request trace stats none)
    (hfirst : request.body.sequence.1 = 0)
    (hverify : own.verify manifest.body.supervisorKey = .ok ())
    (hsequence : own.body.triggerEventSequence = request.body.sequence)
    (hhash : own.body.triggerEventHash = request.eventHash)
    (hfits : Fits platform 64 100000
      ((Sealed.codec platform killAcknowledgementSealing).encode own))
    (hpos : events ≠ []) (hshort : events.length < 900) :
    ∃ event encoded, event.body.kind = .killAcknowledged ∧
      Story manifest (some own) (events ++ [event]) (lines ++ [encoded]) request trace { stats with
          events := stats.events + 1
          killAcks := stats.killAcks + 1 } (some own) := by
  have hlength := List.length_pos_iff.mpr hpos
  have hnone : ∀ id ∈ (none : Option String), opaqueIdCheck id = .ok () := fun _ h => nomatch h
  obtain ⟨event, encoded, htold, hstory⟩ := h.extend trace
    { stats with
      events := stats.events + 1
      killAcks := stats.killAcks + 1 }
    (some own) hfits hnone .killAcknowledged hshort (by
      intro event htold receipt st hown hf
      have hne : event.body.sequence.1 ≠ 0 := by
        rw [htold.sequence]
        omega
      have hzero : own.body.triggerEventSequence.1 = 0 := by rw [hsequence, hfirst]
      have hbefore : own.body.triggerEventSequence.1 < event.body.sequence.1 := by
        rw [hzero, htold.sequence]
        omega
      have hkept : (st.logged event).eventHashes.lookup 0 = some request.eventHash := by
        rw [Inspection.logged, AList.lookup_insert_ne hne.symm, hf.hash]
      have htrigger : (st.logged event).eventHashes.lookup own.body.triggerEventSequence.1 =
          some own.body.triggerEventHash := by rw [hzero, hkept, hhash]
      have hturn := Inspection.inspectAcknowledgement_of
        (show (st.logged event).loggedAck = none from hf.logged)
        (modelValidateJson_of_canonicalJson htold.text) hverify hbefore htrigger hown rfl
      refine ⟨_, Inspection.inspectEvent_of
        ((Inspection.inspectKind_killAcknowledged htold.kind).trans hturn), ?_⟩
      refine ⟨hf.traces, hf.sequence, hkept, hf.unused, hf.barrier, ?_, rfl⟩
      simp [Inspection.counted, Inspection.logged, hf.stats])
  exact ⟨event, encoded, htold.kind, hstory⟩

/-- A story that is over is accepted with any checkpoint of it, and with any finishing time that is
not before its acknowledgement. -/
theorem Story.accepted_of_rooted (hm : Signed manifest)
    (h : Story manifest own events lines request trace stats ack)
    (hdecided : trace.decision.isSome = true) (hover : Inspection.Unfinished trace = false)
    (status : RunStatus) (hevents : stats.events = events.length)
    (hacks : stats.killAcks = own.toList.length)
    (hfair : Account.Fair manifest ⟨status, own, stats.allowed, stats.denied, stats.dispatches,
      stats.results⟩ events) {checkpoint : WitnessCheckpoint platform}
    (hcheckpoint : checkpoint.verify manifestBody.witnessKey = .ok ())
    (hrooted : Rooted manifest events (fileDigest lines) checkpoint) (finished : SafeNonNegativeInt)
    (hfinished : ∀ ack ∈ own, ack.body.killAcknowledgedMonotonicNs.1 ≤ finished.1) :
    ∃ (receipt : Receipt platform) (report : VerificationReport),
      verifyBundle manifest receipt (lines.map exportLine) operatorKey = .ok report ∧
      receipt.body.status = status ∧ receipt.body.killAcknowledgement = own ∧
      receipt.body.finishedMonotonicNs = finished ∧ receipt.body.witnessCheckpoint = checkpoint := by
  obtain ⟨receipt, hrecounts, htime, hsigned, hstatus, hack, hallowed, hdenied, hdispatched,
      hcompleted⟩ :=
    exists_receipt_of_rooted hm.body h.chain hfair hcheckpoint hrooted finished hfinished
  obtain ⟨st, hinspect, hf⟩ := h.followed receipt hack
  have hclose : st.close receipt = .ok () := by
    refine Inspection.close_of_incomplete ?_ ?_
    · rw [hf.traces]
      intro entry hentry
      rw [List.mem_singleton.mp hentry]
      exact hdecided
    · rw [Inspection.incomplete, hf.traces]
      simp [hover]
  obtain ⟨report, hreport, -⟩ := verifyBundle_of_recounts hm.operator_keyId hm.verified hrecounts
    hinspect hclose (by
      constructor
      · rw [hf.stats, hevents, hrecounts.count]
      · rw [hf.stats, hallowed]
      · rw [hf.stats, hdenied]
      · rw [hf.stats, hdispatched]
      · rw [hf.stats, hcompleted]
      · rw [hf.stats, hacks, hack])
  exact ⟨receipt, report, hreport, hstatus, hack, htime, hsigned⟩

/-- A story that is over is accepted. -/
theorem Story.accepted (hm : Signed manifest)
    (h : Story manifest own events lines request trace stats ack)
    (hdecided : trace.decision.isSome = true) (hover : Inspection.Unfinished trace = false)
    (status : RunStatus) (hevents : stats.events = events.length)
    (hacks : stats.killAcks = own.toList.length)
    (hfair : Account.Fair manifest ⟨status, own, stats.allowed, stats.denied, stats.dispatches,
      stats.results⟩ events) :
    ∃ (receipt : Receipt platform) (report : VerificationReport),
      verifyBundle manifest receipt (lines.map exportLine) operatorKey = .ok report ∧
      receipt.body.status = status ∧ receipt.body.killAcknowledgement = own := by
  obtain ⟨checkpoint, -, -, hcheckpoint, hrooted⟩ :=
    exists_rooted manifest events hfair.room (fileDigest lines)
  obtain ⟨receipt, report, hok, hstatus, hack, -⟩ := h.accepted_of_rooted hm hdecided hover status
    hevents hacks hfair hcheckpoint hrooted (count maxSafeInteger ⟨by decide, le_rfl⟩)
    fun ack _ => ack.body.killAcknowledgedMonotonicNs.le_high
  exact ⟨receipt, report, hok, hstatus, hack⟩

/-! ## Accepted histories -/

/-- The events of a request that was allowed, dispatched and answered. -/
structure Answered (events : List (Event platform)) (request decided dispatched returned :
    Event platform) : Prop where
  events : events = [request, decided, dispatched, returned]
  request : request.body.kind = .request ∧ request.body.requestId = some action.requestId
  decided : decided.body.kind = .decision
  dispatched : dispatched.body.kind = .dispatch ∧
    dispatched.body.requestId = some action.requestId
  returned : returned.body.kind = .result ∧ returned.body.requestId = some action.requestId

/-- The story of such a request, and its account. -/
theorem exists_answered_story (hm : Signed manifest) :
    ∃ (events : List (Event platform)) (lines : List Bytes)
      (request decided dispatched returned : Event platform) (digest : Sha256Hex)
      (decision : Decision platform),
      Story manifest none events lines request ⟨request, digest, some decision, true, true, false⟩
        ⟨4, 1, 1, 0, 1, 1, 0⟩ none ∧
      Answered events request decided dispatched returned ∧
      Account.Fair manifest ⟨.completed, none, 1, 0, 1, 1⟩ events := by
  obtain ⟨digest, hdigest⟩ := exists_digest
  obtain ⟨request, line₀, hrequest, hid, -, hstory⟩ := exists_request manifest hdigest
  have hfirst := (hstory none).chain.chained.sequence 0 request rfl
  obtain ⟨decision, hbody, hverify, hfits⟩ := exists_allowance hm request digest
  obtain ⟨decided, line₁, hdecided, hstory⟩ :=
    (hstory none).decide hfirst hid hbody hverify hfits (by simp) (by simp)
  obtain ⟨dispatched, line₂, hdispatched, hid₂, hstory⟩ := hstory.dispatch hbody (by simp) (by simp)
  obtain ⟨returned, line₃, hreturned, hid₃, hstory⟩ := hstory.result hbody (by simp) (by simp)
  exact ⟨_, _, request, decided, dispatched, returned, digest, decision, hstory,
    ⟨rfl, ⟨hrequest, hid⟩, hdecided.1, ⟨hdispatched, hid₂⟩, ⟨hreturned, hid₃⟩⟩,
    ⟨by simp [maxSafeInteger], by simp [maxSafeInteger], le_rfl, le_rfl, by simp,
      fun _ h => (nomatch h), fun _ h => (nomatch h), fun _ h => (nomatch h),
      fun _ h => (nomatch h), fun _ h => (nomatch h)⟩⟩

/-- The bundle of such a request is accepted. -/
theorem exists_answered :
    ∃ (manifest : Manifest platform) (receipt : Receipt platform) (lines : List Line)
      (report : VerificationReport) (events : List (Event platform))
      (request decided dispatched returned : Event platform),
      verifyBundle manifest receipt lines operatorKey = .ok report ∧
      iterCanonicalJsonl platform 0 lines = .ok events ∧
      Answered events request decided dispatched returned := by
  obtain ⟨manifest, hm⟩ := exists_signed
  obtain ⟨events, lines, request, decided, dispatched, returned, digest, decision, hstory, hanswered,
    hfair⟩ := exists_answered_story hm
  obtain ⟨receipt, report, hok, -⟩ := hstory.accepted hm rfl rfl .completed
    (by rw [hanswered.events]; rfl) rfl hfair
  exact ⟨manifest, receipt, _, report, events, request, decided, dispatched, returned, hok,
    iterCanonicalJsonl_exportLine 0 hstory.chain.exported, hanswered⟩

/-- Two receipts for one such history, signed at different times over one checkpoint that the
witness has issued. -/
theorem exists_two_receipts :
    ∃ (manifest : Manifest platform) (receipt receipt' : Receipt platform) (lines : List Line)
      (report report' : VerificationReport) (events : List (Event platform))
      (requests : List (TransparencyWitness.Request platform)),
      verifyBundle manifest receipt lines operatorKey = .ok report ∧
      verifyBundle manifest receipt' lines operatorKey = .ok report' ∧ receipt ≠ receipt' ∧
      iterCanonicalJsonl platform 0 lines = .ok events ∧ events.length = 4 ∧
      receipt.body.witnessCheckpoint ∈ witness.issued requests ∧
      receipt'.body.witnessCheckpoint ∈ witness.issued requests := by
  obtain ⟨manifest, hm⟩ := exists_signed
  obtain ⟨events, lines, request, decided, dispatched, returned, digest, decision, hstory, hanswered,
    hfair⟩ := exists_answered_story hm
  obtain ⟨checkpoint, after, hissued, hcheckpoint, hrooted⟩ :=
    exists_rooted manifest events hfair.room (fileDigest lines)
  have hreceipt (finished : SafeNonNegativeInt) := hstory.accepted_of_rooted hm rfl rfl .completed
    (by rw [hanswered.events]; rfl) rfl hfair hcheckpoint hrooted finished fun _ h => (nomatch h)
  obtain ⟨receipt, report, hok, -, -, htime, hsigned⟩ := hreceipt ⟨2000, by decide⟩
  obtain ⟨receipt', report', hok', -, -, htime', hsigned'⟩ := hreceipt ⟨3000, by decide⟩
  refine ⟨manifest, receipt, receipt', _, report, report', events, _, hok, hok', ?_,
    iterCanonicalJsonl_exportLine 0 hstory.chain.exported, by rw [hanswered.events]; rfl,
    hsigned ▸ mem_issued_of_rooted hissued, hsigned' ▸ mem_issued_of_rooted hissued⟩
  rintro rfl
  exact absurd (htime.symm.trans htime') (by decide)

/-- The request was dispatched, its cancellation was confirmed, and then it returned. -/
theorem exists_cancelled_result :
    ∃ (manifest : Manifest platform) (receipt : Receipt platform) (lines : List Line)
      (report : VerificationReport) (request decided dispatched cancelled returned : Event platform),
      verifyBundle manifest receipt lines operatorKey = .ok report ∧
      iterCanonicalJsonl platform 0 lines =
        .ok [request, decided, dispatched, cancelled, returned] ∧
      dispatched.body.kind = .dispatch ∧ dispatched.body.requestId = some action.requestId ∧
      cancelled.body.kind = .cancellation ∧ cancelled.body.requestId = some action.requestId ∧
      (∃ payload, modelValidateJson platform CancellationEventPayload.codec
        cancelled.body.payloadCanonicalJson.1 = .ok payload ∧ payload.status = .confirmed) ∧
      returned.body.kind = .result ∧ returned.body.requestId = some action.requestId := by
  obtain ⟨manifest, hm⟩ := exists_signed
  obtain ⟨digest, hdigest⟩ := exists_digest
  obtain ⟨request, line₀, -, hid, -, hstory⟩ := exists_request manifest hdigest
  have hfirst := (hstory none).chain.chained.sequence 0 request rfl
  obtain ⟨decision, hbody, hverify, hfits⟩ := exists_allowance hm request digest
  obtain ⟨decided, line₁, -, hstory⟩ := (hstory none).decide hfirst hid hbody hverify hfits
    (by simp) (by simp)
  obtain ⟨dispatched, line₂, hdispatched, hid₂, hstory⟩ := hstory.dispatch hbody (by simp) (by simp)
  obtain ⟨cancelled, line₃, hcancelled, hpayload, hid₃, hstory⟩ :=
    hstory.cancel hbody (by simp) (by simp)
  obtain ⟨returned, line₄, hreturned, hid₄, hstory⟩ := hstory.result hbody (by simp) (by simp)
  obtain ⟨receipt, report, hok, -⟩ := hstory.accepted hm rfl rfl .completed rfl rfl
    ⟨by simp [maxSafeInteger], by simp [maxSafeInteger], le_rfl, le_rfl, by simp,
      fun _ h => (nomatch h), fun _ h => (nomatch h), fun _ h => (nomatch h),
      fun _ h => (nomatch h), fun _ h => (nomatch h)⟩
  exact ⟨manifest, receipt, _, report, request, decided, dispatched, cancelled, returned, hok,
    iterCanonicalJsonl_exportLine 0 hstory.chain.exported, hdispatched, hid₂, hcancelled, hid₃,
    ⟨_, hpayload, rfl⟩, hreturned, hid₄⟩

/-- The acknowledgement names the request as its trigger and another time than the
request's, and the dispatch comes after it. -/
theorem exists_dispatch_after_acknowledgement :
    ∃ (manifest : Manifest platform) (receipt : Receipt platform)
      (own : KillAcknowledgement platform) (lines : List Line) (report : VerificationReport)
      (request decided acknowledged dispatched returned : Event platform),
      verifyBundle manifest receipt lines operatorKey = .ok report ∧
      iterCanonicalJsonl platform 0 lines =
        .ok [request, decided, acknowledged, dispatched, returned] ∧
      receipt.body.killAcknowledgement = some own ∧
      own.body.triggerEventSequence.1 = 0 ∧ own.body.triggerMonotonicNs.1 = 1999 ∧
      request.body.kind = .request ∧ request.body.monotonicNs.1 = 2000 ∧
      acknowledged.body.kind = .killAcknowledged ∧ dispatched.body.kind = .dispatch := by
  obtain ⟨manifest, hm⟩ := exists_signed
  obtain ⟨digest, hdigest⟩ := exists_digest
  obtain ⟨request, line₀, hrequest, hid, htime, hstory⟩ := exists_request manifest hdigest
  have hfirst := (hstory none).chain.chained.sequence 0 request rfl
  obtain ⟨decision, hbody, hverify, hfits⟩ := exists_allowance hm request digest
  obtain ⟨own, hown, hrun, hmanifest, hkey, hsequence, hhash, htrigger, hlatency, hworkloads,
    hownFits⟩ := exists_acknowledgement hm request
  obtain ⟨decided, line₁, -, hstory⟩ := (hstory (some own)).decide hfirst hid hbody hverify hfits
    (by simp) (by simp)
  obtain ⟨acknowledged, line₂, hacknowledged, hstory⟩ :=
    hstory.acknowledge hfirst hown hsequence hhash hownFits (by simp) (by simp)
  obtain ⟨dispatched, line₃, hdispatched, -, hstory⟩ := hstory.dispatch hbody (by simp) (by simp)
  obtain ⟨returned, line₄, -, -, hstory⟩ := hstory.result hbody (by simp) (by simp)
  have hzero : own.body.triggerEventSequence.1 = 0 := by rw [hsequence, hfirst]; rfl
  obtain ⟨receipt, report, hok, -, hack⟩ := hstory.accepted hm rfl rfl .killed rfl rfl (by
    constructor
    · simp [maxSafeInteger]
    · simp [maxSafeInteger]
    · exact le_rfl
    · exact le_rfl
    · simp
    · rintro _ ⟨⟩
      exact ⟨hrun, hmanifest, hkey⟩
    · rintro _ ⟨⟩
      exact hown
    · rintro _ ⟨⟩
      rw [hlatency, hm.body]
      decide
    · rintro _ ⟨⟩
      exact hworkloads
    · rintro _ ⟨⟩
      rw [hzero, hhash]
      rfl)
  exact ⟨manifest, receipt, own, _, report, request, decided, acknowledged, dispatched, returned,
    hok, iterCanonicalJsonl_exportLine 0 hstory.chain.exported, hack, hzero, htrigger, hrequest,
    htime, hacknowledged, hdispatched⟩

end Reference

end Containment
