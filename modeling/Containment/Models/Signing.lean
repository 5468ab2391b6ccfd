/-
# Signing and creating succeed

A body with a canonical text can be signed, and the envelope verifies under the
signer's public key. A payload with a short canonical text becomes an event. Both
rest on the platform being lawful and on nothing else.
-/

import Containment.Models.Capacity

namespace Containment

open Json

variable {P : Platform}

theorem Platform.Lawful.sha256Hex_check (hP : P.Lawful) (value : Bytes) :
    sha256HexCheck (P.sha256Hex value) = .ok () := by
  rw [sha256HexCheck, matchPattern]
  exact ensure_of (hP.digest_hex value)

theorem domainHash_of_canonicalJson (domain : String) {text : String} {v : Json}
    (h : canonicalJson P v = .ok text) :
    domainHash P domain v = .ok (P.sha256Hex (domainPreimage domain (utf8 text))) := by
  rw [domainHash, canonicalJsonBytes, h]
  rfl

theorem signingMessage_of_hex (domain : String) {digest : String} (h : isSha256Hex digest = true) :
    ∃ message, signingMessage domain digest = .ok message :=
  ⟨_, by rw [signingMessage, ensure_of h]; rfl⟩

/-- Signing returns an envelope, and it verifies under the matching key. -/
theorem Sealed.exists_sign (hP : P.Lawful) {β : Type} {F : Sealing β} {body : β} {text : String}
    (h : canonicalJson P (F.codec.encode body) = .ok text) (privateKey : Bytes) :
    ∃ x : Sealed P F, Sealed.sign F body privateKey = .ok x ∧ x.body = body ∧
      ∀ key : Ed25519PublicKey, key.keyId = F.keyId body →
        key.asBytes = P.ed25519Public privateKey → x.verify key = .ok () := by
  set digest := P.sha256Hex (domainPreimage F.hashDomain (utf8 text)) with hdigest
  have hhash : domainHash P F.hashDomain (F.codec.encode body) = .ok digest :=
    domainHash_of_canonicalJson _ h
  have hcheck : sha256HexCheck digest = .ok () := hP.sha256Hex_check _
  obtain ⟨message, hmessage⟩ :=
    signingMessage_of_hex F.signatureDomain (hP.digest_hex _ : isSha256Hex digest = _)
  obtain ⟨signature, hsignature, hkey, hbytes⟩ := Ed25519Signature.fromBytes_eq_ok
    (F.keyId body) (hP.sign_length privateKey message)
  have hcoherent : F.envelopeIsCoherent P (body, ⟨digest, hcheck⟩, signature) = .ok () := by
    rw [Sealing.envelopeIsCoherent, hhash]
    change (ensure (digest = digest) _ >>= fun _ => ensure _ _) = _
    rw [ensure_of rfl, except_ok_bind, ensure_of hkey]
  refine ⟨⟨body, ⟨digest, hcheck⟩, signature, hcoherent⟩, ?_, rfl, ?_⟩
  · rw [Sealed.sign, hhash, except_ok_bind, hmessage, except_ok_bind, hsignature, except_ok_bind,
      validate_of_ok hcheck, except_ok_bind, Sealed.make, checked_of_ok hcoherent]
    rfl
  · intro key hkeyId hpublic
    rw [Sealed.verify, ensure_of hkeyId, except_ok_bind]
    change (signingMessage F.signatureDomain digest >>= fun message => _) = _
    rw [hmessage, except_ok_bind, verifySignature, hpublic]
    apply ensure_of
    rw [hbytes]
    exact hP.verify_sign privateKey message

/-- A canonical text that is its own normal form is recognised. -/
theorem canonicalizeJsonText_of_canonicalJson {v : Json} {text : String}
    (h : canonicalJson P v = .ok text) (hnfc : P.normalizeNfc text = text) :
    canonicalizeJsonText P text = .ok () := by
  obtain ⟨hheight, hnodes, hadmissible, hlength, rfl⟩ := canonicalJson_eq_ok.mp h
  have hagain : canonicalJson P v.orderForJcs = .ok v.orderForJcs.text := by
    refine canonicalJson_eq_ok.mpr ⟨?_, ?_, admissible_orderForJcs v hadmissible, ?_, ?_⟩
    · rwa [height_orderForJcs]
    · rwa [nodes_orderForJcs]
    · rwa [orderForJcs_idem]
    · rw [orderForJcs_idem]
  rw [canonicalizeJsonText, requireNfc, ensure_of hnfc, except_ok_bind,
    parseCanonicalText_of_canonicalJson h, except_ok_bind, hagain, except_ok_bind, ensure_of rfl]

/-- What an event is made of, when its payload is in the profile. -/
structure Event.Createable (P : Platform) (payload : Json) (sequence : ℕ)
    (previousEventHash : Sha256Hex) (monotonicNs : ℤ) (requestId : Option String) : Prop where
  fits : Fits P 64 100000 payload
  nfc : P.normalizeNfc payload.orderForJcs.text = payload.orderForJcs.text
  sequence_le : (sequence : ℤ) ≤ maxSafeInteger
  genesis : sequence = 0 ↔ previousEventHash.1 = genesisHash
  clock : 0 ≤ monotonicNs ∧ monotonicNs ≤ maxSafeInteger
  request : ∀ id ∈ requestId, opaqueIdCheck id = .ok ()

theorem validateOption_of_ok {α : Type} (name : String) {check : α → Except PyError Unit}
    {x : Option α} (h : ∀ value ∈ x, check value = .ok ()) :
    ∃ y, validateOption name check x = .ok y := by
  cases x with
  | none => exact ⟨none, rfl⟩
  | some value =>
      refine ⟨some ⟨value, h value rfl⟩, ?_⟩
      rw [validateOption, validate_of_ok (h value rfl)]
      rfl

theorem Event.canonicalBytes_of_length (hP : P.Lawful) {event : Event P}
    (h : event.body.payloadCanonicalJson.1.toList.length ≤ 100000) :
    ∃ encoded, event.canonicalBytes = .ok encoded := by
  have htext := (fits_event_at hP h).canonicalJson_of_nodes (by decide) (by decide)
    (by rw [nodes_event]; decide)
  exact ⟨_, by rw [canonicalBytes, canonicalJsonBytes, htext]; rfl⟩

/-- A small payload becomes an event, and the event has its line. -/
theorem Event.exists_create (hP : P.Lawful) {payload : Json} (runId : OpaqueId)
    (manifestHash : Sha256Hex) {sequence : ℕ} {previousEventHash : Sha256Hex} (kind : EventKind)
    (producer : OpaqueId) (observedAt : UtcTimestamp) {monotonicNs : ℤ}
    {requestId : Option String}
    (h : Event.Createable P payload sequence previousEventHash monotonicNs requestId) :
    ∃ event : Event P, Event.create payload runId manifestHash sequence previousEventHash kind
        producer observedAt monotonicNs requestId = .ok event ∧
      ∃ encoded, event.canonicalBytes = .ok encoded := by
  have htext := h.fits.canonicalJson le_rfl (by decide)
  set text := payload.orderForJcs.text with hdef
  have hlength : text.toList.length ≤ 100000 := by
    have hdumps := length_dumps payload.orderForJcs
    have hspan := h.fits.span
    rw [span_orderForJcs] at hdumps
    rw [hdef, Json.text, String.toList_ofList]
    omega
  have hbytes : (utf8 text).length ≤ maxEventPayloadBytes := by
    have := length_utf8_le text
    rw [maxEventPayloadBytes]
    omega
  have hpayload : payloadIsCanonical P text = .ok () := by
    rw [payloadIsCanonical, canonicalizeJsonText_of_canonicalJson htext h.nfc, except_ok_bind,
      ensure_of hbytes]
  have hsequence : intRange 0 maxSafeInteger (sequence : ℤ) = .ok () :=
    intRange_eq_ok.mpr ⟨Int.natCast_nonneg _, h.sequence_le⟩
  have hclock : intRange 0 maxSafeInteger monotonicNs = .ok () := intRange_eq_ok.mpr h.clock
  obtain ⟨request, hrequest⟩ := validateOption_of_ok "request_id" h.request
  have hdigest := hP.sha256Hex_check (utf8 text)
  have hfields : EventBodyFields.payloadDigestMatches (P := P) ⟨runId, manifestHash,
      ⟨sequence, hsequence⟩, previousEventHash, kind, request, producer, observedAt,
      ⟨monotonicNs, hclock⟩, ⟨text, hpayload⟩, ⟨P.sha256Hex (utf8 text), hdigest⟩⟩ = .ok () := by
    have hgenesis := h.genesis
    simp only [EventBodyFields.payloadDigestMatches, bind_eq_ok, Unique.exists_iff, ensure_eq_ok]
    refine ⟨rfl, ?_, ?_⟩
    · rintro ⟨hzero, hne⟩
      exact hne (hgenesis.mp (by exact_mod_cast hzero))
    · rintro ⟨hpos, heq⟩
      have := hgenesis.mpr heq
      omega
  obtain ⟨body, hbody⟩ : ∃ body : EventBody P, body = ⟨_, hfields⟩ := ⟨_, rfl⟩
  have hlen : body.payloadCanonicalJson.1.toList.length ≤ 100000 := by rw [hbody]; exact hlength
  have hcanonical := (fits_eventBody_at hP hlen).canonicalJson_of_nodes (by decide) (by decide)
    (by rw [nodes_eventBody]; decide)
  have hhash := domainHash_of_canonicalJson "EVENT-HASH" hcanonical
  set digest := P.sha256Hex (domainPreimage "EVENT-HASH"
    (utf8 ((EventBody.codec P).encode body).orderForJcs.text))
  have hcheck : sha256HexCheck digest = .ok () := hP.sha256Hex_check _
  have hcoherent : eventDigestMatches P (body, ⟨digest, hcheck⟩) = .ok () := by
    rw [eventDigestMatches, hhash]
    exact ensure_of rfl
  refine ⟨⟨body, ⟨digest, hcheck⟩, hcoherent⟩, ?_, ?_⟩
  · rw [Event.create, htext, except_ok_bind, validate_of_ok hsequence, except_ok_bind, hrequest,
      except_ok_bind, validate_of_ok hclock, except_ok_bind, validate_of_ok hpayload,
      except_ok_bind, payloadSha256, validate_of_ok hdigest, except_ok_bind,
      checked_of_ok hfields, except_ok_bind]
    subst hbody
    dsimp only
    rw [hhash, except_ok_bind, validate_of_ok hcheck, except_ok_bind, checked_of_ok hcoherent]
    rfl
  · exact canonicalBytes_of_length hP hlen

end Containment
