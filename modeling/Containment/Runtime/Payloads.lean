/-
# What the payloads are read as

The runtime writes its payloads as dictionaries and the verifier reads them through
models. Each dictionary is read back as the model it stands for. A dispatch, a
result and an overload are written with exactly the fields of their models; a
violation leaves the optional ones out, and a request holds its action as an object.
-/

import Containment.Auditor.Protocol
import Containment.Models.Signing
import Containment.Runtime.Executor

namespace Containment

open Json

variable {P : Platform}

theorem modelValidateJson_of_decode {α : Type} {c : Codec PyError α} {v : Json} {x : α}
    {text : String} (htext : canonicalJson P v = .ok text)
    (h : c.decode v.orderForJcs = .ok x) : modelValidateJson P c text = .ok x := by
  rw [modelValidateJson, parseCanonicalText_of_canonicalJson htext, except_ok_bind, h]

/-! ## Dictionaries that are a model's own encoding -/

theorem encode_dispatchPayload {digest : Sha256Hex} {decision : Decision P} {id : OpaqueId} :
    Executor.dispatchPayload digest.1 decision id = DispatchEventPayload.codec.encode
      ⟨digest, id, decision.decisionHash, decision.body.killEpoch⟩ := rfl

theorem encode_resultPayload {digest responseDigest : Sha256Hex} {decision : Decision P}
    {id : OpaqueId} {bytes : SafeNonNegativeInt} {status : IntIn 100 599} :
    Executor.resultPayload digest.1 decision id ⟨status.1, bytes.1, responseDigest.1⟩ =
      ResultEventPayload.codec.encode ⟨⟨digest, id, decision.decisionHash, decision.body.killEpoch⟩,
        bytes, responseDigest, status⟩ := rfl

theorem encode_overloadPayload {raw : Bytes} {digest : Sha256Hex} {ns bytes : SafeNonNegativeInt}
    (hdigest : P.sha256Hex raw = digest.1) (hbytes : (raw.length : ℤ) = bytes.1) :
    Gateway.overloadPayload raw ns.1 (P := P) =
      OverloadSummaryPayload.codec.encode ⟨ns, bytes, digest⟩ := by
  rw [Gateway.overloadPayload, hdigest, hbytes]
  rfl

/-! ## Violations -/

theorem decode_and {α β : Type} {r : Record PyError α} {r' : Record PyError β} {x : α} {y : β}
    {get : String → Option Json} (h : r.decode get = .ok x) (h' : r'.decode get = .ok y) :
    (r.and r').decode get = .ok (x, y) := by
  simp only [Record.and, h, h']
  rfl

theorem decode_required {α : Type} {name : String} {c : Codec PyError α} {x : α}
    {get : String → Option Json} (h : get name = some (c.encode x).orderForJcs) :
    (Codecs.required name c).decode get = .ok x := by
  simp only [Codecs.required, Record.field, h, c.decode_encode]
  rfl

/-- An optional field is read as absent when it is left out. -/
theorem decode_optional {α : Type} {name : String} {c : Codec PyError α} {x : Option α}
    (ne_null : ∀ x, (c.encode x).orderForJcs ≠ .null) {get : String → Option Json}
    (h : get name = x.map fun y => (c.encode y).orderForJcs) :
    (Codecs.defaulted name (c.option ne_null) none).decode get = .ok x := by
  cases x with
  | none => simp only [Codecs.defaulted, Record.field, h, Option.map_none]
  | some y =>
      have hdecode := (c.option ne_null).decode_encode (some y)
      simp only [Codecs.defaulted, Record.field, h, Option.map_some]
      exact congrArg (Except.mapError (locate name)) hdecode

/-- The fields of a violation, read one by one. -/
theorem decode_violation {fields : List (String × Json)} (x : ViolationFields)
    (hkeys : (fields.map Prod.fst).Nodup)
    (hnames : fields.map Prod.fst ⊆
      ["reason_code", "raw_bytes", "raw_sha256", "action_sha256", "decision_hash"])
    (hreason : lookup "reason_code" fields = some (.str x.reasonCode.1))
    (hbytes : lookup "raw_bytes" fields = x.rawBytes.map fun n => .int n.1)
    (hraw : lookup "raw_sha256" fields = x.rawSha256.map fun s => .str s.1)
    (haction : lookup "action_sha256" fields = x.actionSha256.map fun s => .str s.1)
    (hdecision : lookup "decision_hash" fields = x.decisionHash.map fun s => .str s.1)
    (hcoherent : x.optionalBindingsAreCompletePairs = .ok ()) :
    ViolationEventPayload.codec.decode (Json.obj fields).orderForJcs = .ok ⟨x, hcoherent⟩ := by
  have hget {α : Type} {name : String} {y : Option α} {f : α → Json}
      (h : lookup name fields = y.map f) :
      (lookup name fields).map orderForJcs = y.map fun z => (f z).orderForJcs := by
    rw [h, Option.map_map]
    rfl
  unfold ViolationEventPayload.codec Codecs.model
  refine (Record.decode_codec hkeys ?_).trans ?_
  · exact hnames
  have hcode : (Codecs.required "reason_code" Codecs.opaqueId).decode
      (fun name => (lookup name fields).map orderForJcs) = .ok x.reasonCode :=
    decode_required (by rw [hreason]; rfl)
  have hfields := decode_and hcode
    (decode_and (decode_optional (c := Codecs.safeNonNegativeInt) (fun _ h => by cases h)
        (hget hbytes))
      (decode_and (decode_optional (c := Codecs.sha256Hex) (fun _ h => by cases h) (hget hraw))
        (decode_and (decode_optional (c := Codecs.sha256Hex) (fun _ h => by cases h) (hget haction))
          (decode_optional (c := Codecs.sha256Hex) (fun _ h => by cases h) (hget hdecision)))))
  simp only [Record.iso, Record.refine]
  erw [hfields]
  simp only [Functor.map, Except.map]
  erw [checked_of_ok hcoherent]

theorem decode_reasonPayload {reasonCode : String} (h : opaqueIdCheck reasonCode = .ok ()) :
    ∃ x, ViolationEventPayload.codec.decode
      (Supervisor.reasonPayload reasonCode).orderForJcs = .ok x :=
  ⟨_, decode_violation ⟨⟨reasonCode, h⟩, none, none, none, none⟩ (by simp) (by simp) rfl rfl rfl rfl
    rfl rfl⟩

theorem decode_malformedPayload (hP : P.Lawful) {raw : Bytes}
    (hlength : (raw.length : ℤ) ≤ maxSafeInteger) :
    ∃ x, ViolationEventPayload.codec.decode
      (Gateway.malformedPayload P raw).orderForJcs = .ok x :=
  ⟨_, decode_violation ⟨⟨"request.ambiguous_or_invalid", by decide⟩,
    some ⟨raw.length, intRange_eq_ok.mpr ⟨Int.natCast_nonneg _, hlength⟩⟩,
    some ⟨P.sha256Hex raw, hP.sha256Hex_check raw⟩, none, none⟩ (by simp) (by simp) rfl rfl rfl rfl
    rfl rfl⟩

theorem decode_violationPayload (digest decisionHash : Sha256Hex) (reasonCode : OpaqueId) :
    ∃ x, ViolationEventPayload.codec.decode
      (Gateway.violationPayload digest.1 decisionHash.1 reasonCode.1).orderForJcs = .ok x :=
  ⟨_, decode_violation ⟨reasonCode, none, none, some digest, some decisionHash⟩ (by simp) (by simp)
    rfl rfl rfl rfl rfl rfl⟩

/-! ## Decisions -/

theorem fields_of_make {fields : DecisionBodyFields} {body : DecisionBody}
    (h : DecisionBody.make fields = .ok body) : body.toDecisionBodyFields = fields := by
  cases hcheck : fields.capabilityMatchesVerdict with
  | ok _ =>
      rw [DecisionBody.make, checked_of_ok hcheck] at h
      rw [← Except.ok.inj h]
  | error error =>
      unfold DecisionBody.make checked at h
      split at h
      · rename_i hok
        rw [hcheck] at hok
        cases hok
      · cases h

/-- A decision carries the result of the policy. -/
theorem policy_of_decision {d : Deployment P} {x : Gateway.Deciding P} {decision : Decision P}
    (h : x.decision d = .ok decision) : decision.body.verdict = x.result.verdict ∧
      decision.body.hardViolation = x.result.hardViolation := by
  rw [Gateway.Deciding.decision, bind_eq_ok] at h
  obtain ⟨body, hbody, hsign⟩ := h
  rw [Sealed.body_of_sign hsign]
  simp only [Gateway.Deciding.body, bind_eq_ok] at hbody
  obtain ⟨_, -, _, -, _, -, _, -, _, -, hmake⟩ := hbody
  exact ⟨congrArg DecisionBodyFields.verdict (fields_of_make hmake),
    congrArg DecisionBodyFields.hardViolation (fields_of_make hmake)⟩

/-! ## Requests -/

/-- A request is read back as the action it was written for. -/
theorem isRequest_of_payload {event : Event P} {action : Action P} {digest : Sha256Hex}
    (hkind : event.body.kind = .request) (hdigest : action.digest = .ok digest.1)
    (htext : canonicalJson P (Gateway.requestPayload action digest.1) =
      .ok event.body.payloadCanonicalJson.1) : IsRequest event action := by
  have hkeys : (([("action", (Action.codec P).encode action), ("action_sha256", .str digest.1)] :
      List (String × Json)).map Prod.fst).Nodup := by simp
  obtain ⟨fields, hfields⟩ : ∃ fields, ((Action.codec P).encode action).orderForJcs = .obj fields :=
    ⟨_, rfl⟩
  refine ⟨hkind, _, ⟨fields, digest⟩, parseCanonicalText_of_canonicalJson htext, ?_, ?_, hdigest⟩
  · have hnames : ([("action", (Action.codec P).encode action), ("action_sha256", .str digest.1)] :
        List (String × Json)).map Prod.fst ⊆ ["action", "action_sha256"] := by simp
    have hextra := Record.find?_orderFields hnames
    have haction := Record.lookup_orderFields hkeys "action"
    have hsha := Record.lookup_orderFields hkeys "action_sha256"
    have hcheck := checked_of_ok digest.2
    rw [Gateway.requestPayload, orderForJcs, RequestEventPayload.modelValidate]
    simp only [hextra, haction, hsha]
    have hsome : lookup "action" [("action", (Action.codec P).encode action),
        ("action_sha256", .str digest.1)] = some ((Action.codec P).encode action) := rfl
    have hsome' : lookup "action_sha256" [("action", (Action.codec P).encode action),
        ("action_sha256", .str digest.1)] = some (.str digest.1) := rfl
    simp only [hsome, hsome', Option.map_some, hfields]
    simp only [orderForJcs, Codecs.sha256Hex, Codec.ofString, hcheck]
    rfl
  · have hdecode := (Action.codec P).decode_encode action
    rwa [hfields] at hdecode

end Containment
