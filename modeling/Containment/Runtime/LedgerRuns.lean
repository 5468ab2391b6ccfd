/-
# Ledgers and their histories

Whatever is called on a ledger, in whatever order and with whatever failures, its events
form a hash chain: a call either appends the next link or leaves the list alone. So the
last hash commits to the whole list, also across ledgers of different runs.
-/

import Containment.Chain.HashChain
import Containment.Models.NormalForm
import Containment.Models.Separation
import Containment.Runtime.Commit

namespace Containment

open Json

variable {P : Platform}

/-! ## The calls -/

/-- What is called on a ledger, with what the outside world answers during the call: the
readings of the clocks, a failure of the write-ahead log, whether a commit slot is free and
what the observer raises. -/
inductive LedgerCall (P : Platform)
  | append (clocks : Clocks) (kind : EventKind) (payload : Json) (requestId : Option String)
      (monotonicNs : Option ℤ) (fault : Option PyError)
  | commit (slotFree : Bool) (observer : Event P → Option PyError) (clocks : Clocks)
      (kind : EventKind) (payload : Json) (requestId : Option String) (monotonicNs : Option ℤ)
      (fault : Option PyError)
  | seal

namespace EvidenceLedger

/-- A ledger as it is constructed. -/
def start : EvidenceLedger P := ⟨[], false⟩

/-- `append` with its effect on the list. -/
def appended (config : LedgerConfig P) (ledger : EvidenceLedger P) (clocks : Clocks)
    (kind : EventKind) (payload : Json) (requestId : Option String) (monotonicNs : Option ℤ)
    (fault : Option PyError) : EvidenceLedger P × Except PyError (Event P) :=
  match ledger.append config clocks kind payload requestId monotonicNs fault with
  | .error error => (ledger, .error error)
  | .ok event => ({ ledger with events := ledger.events ++ [event] }, .ok event)

/-- One call: the ledger afterwards, and what is returned or raised. -/
def call (config : LedgerConfig P) (ledger : EvidenceLedger P) :
    LedgerCall P → EvidenceLedger P × Except PyError (Option (Event P))
  | .append clocks kind payload requestId monotonicNs fault =>
      let (ledger, outcome) := ledger.appended config clocks kind payload requestId monotonicNs fault
      (ledger, some <$> outcome)
  | .commit false _ _ _ _ _ _ _ =>
      (ledger, .error (.bufferError "evidence commit queue budget exhausted"))
  | .commit true observer clocks kind payload requestId monotonicNs fault =>
      let (ledger, outcome) := ledger.appended config clocks kind payload requestId monotonicNs fault
      (ledger, do
        let event ← outcome
        (observer event).elim (.ok (some event)) .error)
  | .seal => ({ ledger with isSealed := true }, .ok none)

/-- The ledger after a sequence of calls. -/
def after (config : LedgerConfig P) (ledger : EvidenceLedger P) (calls : List (LedgerCall P)) :
    EvidenceLedger P :=
  calls.foldl (fun ledger call => (ledger.call config call).1) ledger

/-- `final_hash`. -/
def finalHash (ledger : EvidenceLedger P) : Option Sha256Hex :=
  ledger.events.getLast?.map Event.eventHash

/-- The events form a hash chain. -/
def Linked : List (Event P) → Prop :=
  HashChain.Linked Event.eventHash (fun event => event.body.previousEventHash)
    (fun event => event.body.sequence.1) genesis

/-- What a call can do to the ledger: append the next link while there is room, seal it, or
nothing. -/
inductive Change (config : LedgerConfig P) (ledger : EvidenceLedger P) : EvidenceLedger P → Prop
  | grown {event : Event P} (unsealed : ledger.isSealed = false)
      (room : ledger.events.length < config.maxEvents)
      (numbered : event.body.sequence.1 = ledger.events.length)
      (named : event.body.previousEventHash = previousHash ledger.events) :
      Change config ledger { ledger with events := ledger.events ++ [event] }
  | closed : Change config ledger { ledger with isSealed := true }
  | unchanged : Change config ledger ledger

variable {config : LedgerConfig P} {ledger : EvidenceLedger P}

theorem change_of_appended (clocks : Clocks) (kind : EventKind) (payload : Json)
    (requestId : Option String) (monotonicNs : Option ℤ) (fault : Option PyError) :
    Change config ledger
      (ledger.appended config clocks kind payload requestId monotonicNs fault).1 := by
  unfold appended
  cases happend : ledger.append config clocks kind payload requestId monotonicNs fault with
  | error error => exact .unchanged
  | ok event =>
      obtain ⟨-, -, hsequence, hprevious, -⟩ := append_links happend
      simp only [append, bind_eq_ok, Unique.exists_iff, ensure_eq_ok] at happend
      exact .grown happend.1 happend.2.1 hsequence hprevious

theorem change_of_call (call : LedgerCall P) : Change config ledger (ledger.call config call).1 := by
  cases call with
  | append clocks kind payload requestId monotonicNs fault =>
      exact change_of_appended clocks kind payload requestId monotonicNs fault
  | commit slotFree observer clocks kind payload requestId monotonicNs fault =>
      cases slotFree with
      | false => exact .unchanged
      | true => exact change_of_appended clocks kind payload requestId monotonicNs fault
  | _ => exact .closed

section Outcome

variable {clocks : Clocks} {kind : EventKind} {payload : Json} {requestId : Option String}
  {monotonicNs : Option ℤ} {fault : Option PyError} {event : Event P} {error : PyError}

theorem call_append_ok
    (h : ledger.append config clocks kind payload requestId monotonicNs fault = .ok event) :
    (ledger.call config (.append clocks kind payload requestId monotonicNs fault)).1 =
      { ledger with events := ledger.events ++ [event] } := by
  simp only [call, appended, h]

theorem call_append_error
    (h : ledger.append config clocks kind payload requestId monotonicNs fault = .error error) :
    (ledger.call config (.append clocks kind payload requestId monotonicNs fault)).1 = ledger := by
  simp only [call, appended, h]

/-- The event is in the ledger, whatever the observer makes of it. -/
theorem call_commit_ok (observer : Event P → Option PyError)
    (h : ledger.append config clocks kind payload requestId monotonicNs fault = .ok event) :
    (ledger.call config (.commit true observer clocks kind payload requestId monotonicNs fault)).1 =
      { ledger with events := ledger.events ++ [event] } := by
  simp only [call, appended, h]

end Outcome

/-! ## Every sequence of calls -/

/-- What a ledger is at any time. -/
structure Sound (config : LedgerConfig P) (ledger : EvidenceLedger P) : Prop where
  linked : Linked ledger.events
  bounded : ledger.events.length ≤ config.maxEvents

/-- What a later ledger has in common with an earlier one. -/
structure Extends (before later : EvidenceLedger P) : Prop where
  grown : before.events <+: later.events
  closed : before.isSealed = true → later.isSealed = true ∧ later.events = before.events

theorem Extends.refl (ledger : EvidenceLedger P) : Extends ledger ledger :=
  ⟨List.prefix_refl _, fun h => ⟨h, rfl⟩⟩

theorem Extends.trans {before between later : EvidenceLedger P} (h : Extends before between)
    (h' : Extends between later) : Extends before later where
  grown := h.grown.trans h'.grown
  closed hclosed := by
    obtain ⟨hbetween, hevents⟩ := h.closed hclosed
    obtain ⟨hlater, hevents'⟩ := h'.closed hbetween
    exact ⟨hlater, hevents'.trans hevents⟩

theorem Change.extends {later : EvidenceLedger P} (h : Change config ledger later) :
    Extends ledger later := by
  cases h with
  | grown unsealed =>
      refine ⟨List.prefix_append _ _, fun hclosed => ?_⟩
      rw [unsealed] at hclosed
      cases hclosed
  | closed => exact ⟨List.prefix_refl _, fun _ => ⟨rfl, rfl⟩⟩
  | unchanged => exact .refl ledger

theorem Change.sound {later : EvidenceLedger P} (h : Change config ledger later)
    (hsound : Sound config ledger) : Sound config later := by
  cases h with
  | grown unsealed room numbered named =>
      refine ⟨hsound.linked.snoc numbered named, ?_⟩
      dsimp only
      rw [List.length_append, List.length_singleton]
      exact room
  | closed => exact ⟨hsound.linked, hsound.bounded⟩
  | unchanged => exact hsound

theorem extends_after (calls : List (LedgerCall P)) : Extends ledger (ledger.after config calls) := by
  induction calls generalizing ledger with
  | nil => exact .refl ledger
  | cons call rest ih => exact (change_of_call call).extends.trans ih

theorem Sound.after (h : Sound config ledger) (calls : List (LedgerCall P)) :
    Sound config (ledger.after config calls) := by
  induction calls generalizing ledger with
  | nil => exact h
  | cons call rest ih => exact ih ((change_of_call call).sound h)

theorem sound_start : Sound config (start : EvidenceLedger P) :=
  ⟨.nil, Nat.zero_le _⟩

end EvidenceLedger

/-! ## What the last hash commits to -/

/-- The octets that the hashes of the events are digests of. -/
def eventPreimages (events : List (Event P)) : Set Bytes :=
  {preimage | ∃ event ∈ events, ∃ encoded,
    canonicalJsonBytes P ((EventBody.codec P).encode event.body) = .ok encoded ∧
      preimage = domainPreimage "EVENT-HASH" encoded}

theorem Event.exists_preimage (event : Event P) :
    ∃ encoded, canonicalJsonBytes P ((EventBody.codec P).encode event.body) = .ok encoded ∧
      P.sha256Hex (domainPreimage "EVENT-HASH" encoded) = event.eventHash.1 := by
  have h := event.coherent
  rw [eventDigestMatches, bind_eq_ok] at h
  obtain ⟨digest, hdigest, hsame⟩ := h
  rw [ensure_eq_ok] at hsame
  cases hhash : domainHash P "EVENT-HASH" ((EventBody.codec P).encode event.body) with
  | error error =>
      rw [hhash] at hdigest
      cases hdigest
  | ok hash =>
      rw [hhash] at hdigest
      obtain rfl : hash = digest := Except.ok.inj hdigest
      rw [domainHash, bind_eq_ok] at hhash
      obtain ⟨encoded, hencoded, hhash⟩ := hhash
      exact ⟨encoded, hencoded, (Except.ok.inj hhash).trans hsame⟩

theorem Event.eq_of_eventHash_eq {event event' : Event P} {events : List (Event P)}
    (hinj : Set.InjOn P.sha256Hex (eventPreimages events)) (hmem : event ∈ events)
    (hmem' : event' ∈ events) (hhash : event.eventHash = event'.eventHash) : event = event' := by
  obtain ⟨encoded, hencoded, hdigest⟩ := event.exists_preimage
  obtain ⟨encoded', hencoded', hdigest'⟩ := event'.exists_preimage
  have hpreimage := hinj ⟨event, hmem, encoded, hencoded, rfl⟩ ⟨event', hmem', encoded', hencoded', rfl⟩
    (hdigest.trans ((congrArg Subtype.val hhash).trans hdigest'.symm))
  rw [domainPreimage_inj] at hpreimage
  have hbody := eq_of_canonicalJsonBytes hencoded (hpreimage ▸ hencoded')
  cases event
  cases event'
  cases hbody
  cases hhash
  rfl

/-- Two histories, and what their ledgers have to do with each other and with their own past. -/
structure Committed (config config' : LedgerConfig P) (calls calls' : List (LedgerCall P)) : Prop where
  /-- Equal last hashes have equal events before them. -/
  history : ∀ hash, (EvidenceLedger.start.after config calls).finalHash = some hash →
    (EvidenceLedger.start.after config' calls').finalHash = some hash →
    (EvidenceLedger.start.after config calls).events =
      (EvidenceLedger.start.after config' calls').events
  /-- The list only grows, and not after it was sealed. -/
  growing : ∀ earlier later, calls = earlier ++ later →
    EvidenceLedger.Extends (EvidenceLedger.start.after config earlier)
      (EvidenceLedger.start.after config calls)
  numbered : ∀ (i : ℕ) event, (EvidenceLedger.start.after config calls).events[i]? = some event →
    event.body.sequence.1 = i
  bounded : (EvidenceLedger.start.after config calls).events.length ≤ config.maxEvents

/-! ## Events of different lengths -/

theorem octets_dumpsStr_hex {s : String} (h : isSha256Hex s = true) : octets (dumpsStr s) = 66 := by
  have hchars (cs : List Char) (hall : ∀ c ∈ cs, isHexDigit c = true) :
      octets (dumpsChars cs) = cs.length + 1 := by
    induction cs with
    | nil => rfl
    | cons c rest ih =>
        obtain ⟨n, hn, rfl⟩ := exists_hexDigit (hall c List.mem_cons_self)
        have hescape : octets (escapeChar (hexDigit n)) = 1 := by
          interval_cases n <;> rfl
        rw [dumpsChars, octets_append, hescape, ih fun d hd => hall d (List.mem_cons_of_mem _ hd),
          List.length_cons]
        omega
  rw [isSha256Hex, Bool.and_eq_true, beq_iff_eq, List.all_eq_true] at h
  have hquote : '"'.utf8Size = 1 := by decide
  rw [dumpsStr, octets_cons, hquote, hchars _ h.2, h.1]

/-- Where an event comes from. -/
structure EventBody.SameSource (body body' : EventBody P) : Prop where
  runId : body.runId = body'.runId
  manifestHash : body.manifestHash = body'.manifestHash
  kind : body.kind = body'.kind
  requestId : body.requestId = body'.requestId
  producer : body.producerInstanceId = body'.producerInstanceId
  observedAt : body.observedAt = body'.observedAt
  monotonicNs : body.monotonicNs = body'.monotonicNs

/-- Events of one source are as long as their numbers and their payloads make them. -/
theorem EventBody.SameSource.octets_add {body body' : EventBody P} (h : body.SameSource body') :
    octets ((EventBody.codec P).encode body).dumps + (octets (Json.int body'.sequence.1).dumps +
        octets (dumpsStr body'.payloadCanonicalJson.1)) =
      octets ((EventBody.codec P).encode body').dumps + (octets (Json.int body.sequence.1).dumps +
        octets (dumpsStr body.payloadCanonicalJson.1)) := by
  have hhex (digest : Sha256Hex) : octets (dumpsStr digest.1) = 66 :=
    octets_dumpsStr_hex (matched_of_matchPattern digest.2)
  rw [encode_eventBody, encode_eventBody, octets_dumps_obj (by simp), octets_dumps_obj (by simp),
    h.runId, h.manifestHash, h.kind, h.requestId, h.producer, h.observedAt, h.monotonicNs]
  simp only [List.map_cons, List.map_nil, List.sum_cons, List.sum_nil, fieldOctets, Json.dumps, hhex]
  omega

theorem Event.create_source {payload : Json} {runId : OpaqueId} {manifestHash : Sha256Hex}
    {sequence : ℕ} {previousEventHash : Sha256Hex} {kind : EventKind} {producer : OpaqueId}
    {observedAt : UtcTimestamp} {monotonicNs : ℤ} {requestId : Option String} {event : Event P}
    (h : Event.create payload runId manifestHash sequence previousEventHash kind producer
      observedAt monotonicNs requestId = .ok event) :
    event.body.producerInstanceId = producer ∧ event.body.observedAt = observedAt := by
  simp only [Event.create, bind_eq_ok, except_pure, Except.ok.injEq] at h
  obtain ⟨text, -, number, -, request, -, clock, -, payloadText, -, digest, -, fields, hfields,
    hash, -, hash', -, pair, hpair, rfl⟩ := h
  obtain ⟨fields, hvalid⟩ := fields
  obtain ⟨⟨body, hash₁⟩, hcoherent⟩ := pair
  obtain rfl := checked_eq_ok hfields
  obtain ⟨rfl, rfl⟩ := Prod.mk.inj (checked_eq_ok hpair)
  exact ⟨rfl, rfl⟩

section Source

variable {config : LedgerConfig P} {ledger ledger' : EvidenceLedger P} {clocks : Clocks}
  {kind : EventKind} {payload payload' : Json} {requestId : Option String}
  {monotonicNs : Option ℤ} {fault : Option PyError} {event event' : Event P}

theorem exists_create_of_append
    (h : ledger.append config clocks kind payload requestId monotonicNs fault = .ok event) :
    ∃ observedAt ns, (clocks.wallClock >>= formatUtcTimestamp) = .ok observedAt ∧
      Event.create payload config.manifest.body.runId config.manifest.manifestHash
        ledger.events.length (EvidenceLedger.previousHash ledger.events) kind
        config.producerInstanceId observedAt ns requestId = .ok event := by
  simp only [EvidenceLedger.append, bind_eq_ok, Unique.exists_iff, ensure_eq_ok] at h
  obtain ⟨-, -, now, hnow, observedAt, hobserved, ns, -, created, hcreate, -, -, hfault⟩ := h
  obtain rfl : created = event := by
    cases fault with
    | none => exact Except.ok.inj hfault
    | some error => cases hfault
  exact ⟨observedAt, ns, bind_eq_ok.mpr ⟨now, hnow, hobserved⟩, hcreate⟩

theorem payload_of_append
    (h : ledger.append config clocks kind payload requestId monotonicNs fault = .ok event) :
    event.body.payloadCanonicalJson.1 = payload.orderForJcs.text := by
  obtain ⟨observedAt, ns, -, hcreate⟩ := exists_create_of_append h
  exact (canonicalJson_eq_ok.mp (Event.create_ok hcreate).1).2.2.2.2.symm

theorem sameSource_of_append
    (h : ledger.append config clocks kind payload requestId monotonicNs fault = .ok event)
    (h' : ledger'.append config clocks kind payload' requestId monotonicNs fault = .ok event') :
    event.body.SameSource event'.body := by
  obtain ⟨observedAt, ns, hobserved, hcreate⟩ := exists_create_of_append h
  obtain ⟨observedAt', ns', hobserved', hcreate'⟩ := exists_create_of_append h'
  obtain ⟨hrun, hmanifest, -, -, hreading, -⟩ := append_links h
  obtain ⟨hrun', hmanifest', -, -, hreading', -⟩ := append_links h'
  obtain ⟨-, hkind, hrequest, -⟩ := Event.create_ok hcreate
  obtain ⟨-, hkind', hrequest', -⟩ := Event.create_ok hcreate'
  obtain ⟨hproducer, hstamp⟩ := Event.create_source hcreate
  obtain ⟨hproducer', hstamp'⟩ := Event.create_source hcreate'
  have hsame : observedAt = observedAt' := Except.ok.inj (hobserved.symm.trans hobserved')
  exact {
    runId := hrun.trans hrun'.symm
    manifestHash := hmanifest.trans hmanifest'.symm
    kind := hkind.trans hkind'.symm
    requestId := Option.map_injective Subtype.val_injective (hrequest.trans hrequest'.symm)
    producer := hproducer.trans hproducer'.symm
    observedAt := hstamp.trans (hsame.trans hstamp'.symm)
    monotonicNs := Subtype.ext (Except.ok.inj (hreading.symm.trans hreading')) }

end Source

/-! ## A digest of the length

A platform whose digests of different events can be told apart without computing them. -/

namespace Reference

/-- The number of octets, modulo 64. -/
def countDigest (message : Bytes) : String :=
  String.ofList (List.replicate (message.length % 64) 'a' ++
    List.replicate (64 - message.length % 64) 'b')

theorem count_countDigest (message : Bytes) :
    (countDigest message).toList.count 'a' = message.length % 64 := by
  simp [countDigest, List.count_replicate]

theorem isSha256Hex_countDigest (message : Bytes) : isSha256Hex (countDigest message) = true := by
  have hlt := Nat.mod_lt message.length (show 64 > 0 by decide)
  have hhex : ∀ c ∈ (countDigest message).toList, isHexDigit c = true := by
    intro c hc
    rw [countDigest, String.toList_ofList, List.mem_append, List.mem_replicate,
      List.mem_replicate] at hc
    rcases hc with ⟨-, rfl⟩ | ⟨-, rfl⟩ <;> decide
  rw [isSha256Hex, Bool.and_eq_true, beq_iff_eq, List.all_eq_true]
  refine ⟨?_, hhex⟩
  rw [countDigest, String.toList_ofList, List.length_append, List.length_replicate,
    List.length_replicate]
  omega

theorem countDigest_ne_genesis (message : Bytes) : countDigest message ≠ genesisHash := by
  intro h
  have hcount : (countDigest message).toList.count '0' = 0 := by
    simp [countDigest, List.count_replicate]
  rw [h] at hcount
  exact absurd hcount (by decide)

def countingPlatform : Platform := { referencePlatform with sha256Hex := countDigest }

theorem lawful_of_digest {P : Platform} (hP : P.Lawful) {digest : Bytes → String}
    (h : ∀ message, isSha256Hex (digest message) = true) :
    Platform.Lawful { P with sha256Hex := digest } where
  digest_hex := h
  nfc_ascii := hP.nfc_ascii
  sign_length := hP.sign_length
  verify_sign := hP.verify_sign

theorem countingPlatform_lawful : countingPlatform.Lawful :=
  lawful_of_digest referencePlatform_lawful isSha256Hex_countDigest

/-- The reference manifest without its rules and grants. -/
def closedBody : ManifestBody countingPlatform where
  manifestId := manifestBody.manifestId
  runId := manifestBody.runId
  issuedAt := manifestBody.issuedAt
  notBefore := manifestBody.notBefore
  expiresAt := manifestBody.expiresAt
  operatorKeyId := manifestBody.operatorKeyId
  gatewayKey := manifestBody.gatewayKey
  supervisorKey := manifestBody.supervisorKey
  witnessKey := manifestBody.witnessKey
  allowedEgress := ⟨[], rfl⟩
  credentials := ⟨[], rfl⟩
  secondHops := ⟨[], rfl⟩
  killCriteria := criteria
  coherent := by
    have h := manifestBody.coherent
    simp only [ManifestBodyFields.policyIsCoherent, bind_eq_ok, Unique.exists_iff,
      ensure_eq_ok] at h ⊢
    exact ⟨h.1, h.2.1, h.2.2.1, rfl⟩

theorem exists_closed : ∃ manifest : Manifest countingPlatform, manifest.body = closedBody := by
  have hvalid : (validateJsonValue countingPlatform "$" 0 maxJsonNodes
      ((ManifestBody.codec countingPlatform).encode closedBody)).toOption.isSome = true := by
    decide +kernel
  have hspan : ((ManifestBody.codec countingPlatform).encode closedBody).span ≤ 100000 := by
    decide +kernel
  cases hbudget : validateJsonValue countingPlatform "$" 0 maxJsonNodes
      ((ManifestBody.codec countingPlatform).encode closedBody) with
  | error error =>
      rw [hbudget] at hvalid
      cases hvalid
  | ok budget =>
      obtain ⟨hheight, -, hadmissible, -⟩ := (validateJsonValue_eq_ok _ _ _ _ _).mp hbudget
      rw [Nat.zero_add] at hheight
      have hfits : Fits countingPlatform 64 100000
          ((ManifestBody.codec countingPlatform).encode closedBody) := ⟨hadmissible, hheight, hspan⟩
      obtain ⟨manifest, -, hbody, -⟩ := Sealed.exists_sign countingPlatform_lawful
        (F := manifestSealing countingPlatform) (hfits.canonicalJson le_rfl le_rfl) keys.operator
      exact ⟨manifest, hbody⟩

/-- The ledger takes a violation. -/
theorem exists_append_reason {config : LedgerConfig countingPlatform}
    {events : List (Event countingPlatform)} {reasonCode : String}
    (hroom : events.length < config.maxEvents) (hsafe : (events.length : ℤ) ≤ maxSafeInteger)
    (hreason : opaqueIdCheck reasonCode = .ok ()) :
    ∃ event, (⟨events, false⟩ : EvidenceLedger countingPlatform).append config (world 5).toClocks
      .violation (Supervisor.reasonPayload reasonCode) none none none = .ok event := by
  have hgenesis : events.length = 0 ↔ (EvidenceLedger.previousHash events).1 = genesisHash := by
    rw [EvidenceLedger.previousHash, List.length_eq_zero_iff]
    constructor
    · rintro rfl
      rfl
    · intro h
      by_contra hne
      rw [List.getLast?_eq_some_getLast hne] at h
      obtain ⟨encoded, -, hdigest⟩ := (events.getLast hne).exists_preimage
      exact countDigest_ne_genesis _ (hdigest.trans h)
  have hfits : Fits countingPlatform 64 100000 (Supervisor.reasonPayload reasonCode) := by
    have hcode : Fits countingPlatform 63 _ (Codecs.opaqueId.encode ⟨reasonCode, hreason⟩) :=
      fits_opaqueId countingPlatform_lawful 63 ⟨reasonCode, hreason⟩
    have hfields := fieldsFit_singleton countingPlatform_lawful
      (show IsAscii "reason_code" by decide) hcode
    exact (hfields.obj (by simp)).mono le_rfl (by decide)
  have hnone : ∀ id ∈ (none : Option String), opaqueIdCheck id = .ok () := by simp
  obtain ⟨event, hevent, encoded, hencoded⟩ := Event.exists_create countingPlatform_lawful
    config.manifest.body.runId config.manifest.manifestHash .violation config.producerInstanceId
    (timestamp now) ⟨hfits, rfl, hsafe, hgenesis, (show (0 : ℤ) ≤ 5 ∧ (5 : ℤ) ≤ _ by decide), hnone⟩
  refine ⟨event, ?_⟩
  rw [EvidenceLedger.append, ensure_of rfl, except_ok_bind, ensure_of hroom, except_ok_bind]
  refine bind_eq_ok.mpr ⟨.aware now, rfl, bind_eq_ok.mpr ⟨timestamp now, rfl, ?_⟩⟩
  refine bind_eq_ok.mpr ⟨5, rfl, bind_eq_ok.mpr ⟨event, hevent, ?_⟩⟩
  rw [hencoded]
  rfl

end Reference

/-! ## The last hash of two histories -/

theorem committed_of_injOn {P : Platform} (config config' : LedgerConfig P)
    (calls calls' : List (LedgerCall P))
    (hinj : Set.InjOn P.sha256Hex (eventPreimages ((EvidenceLedger.start.after config calls).events ++
      (EvidenceLedger.start.after config' calls').events))) :
    Committed config config' calls calls' := by
  have hsound : EvidenceLedger.Sound config _ := EvidenceLedger.sound_start.after calls
  have hsound' : EvidenceLedger.Sound config' _ := EvidenceLedger.sound_start.after calls'
  refine ⟨fun hash hfinal hfinal' => ?_, fun earlier later hcalls => ?_,
    fun i event hi => hsound.linked.index_eq hi, hsound.bounded⟩
  · refine hsound.linked.eq_of_final hsound'.linked ?_ ?_ (hfinal.trans hfinal'.symm)
    · intro event hevent event' hevent' hhash
      exact Event.eq_of_eventHash_eq hinj (List.mem_append_left _ hevent)
        (List.mem_append_right _ hevent') hhash
    · intro hnil
      rw [EvidenceLedger.finalHash, hnil] at hfinal
      cases hfinal
  · rw [hcalls, EvidenceLedger.after, EvidenceLedger.after, List.foldl_append]
    exact EvidenceLedger.extends_after later


/-- The digests of two events of different lengths differ. -/
theorem injOn_of_count (hcount : ∀ message, P.sha256Hex message = Reference.countDigest message)
    {first second : Event P}
    (h : octets ((EventBody.codec P).encode second.body).dumps =
      octets ((EventBody.codec P).encode first.body).dumps + 7) :
    Set.InjOn P.sha256Hex (eventPreimages ([first, second] ++ [first, second])) := by
  have hlength {event : Event P} {encoded : Bytes}
      (hencoded : canonicalJsonBytes P ((EventBody.codec P).encode event.body) = .ok encoded) :
      encoded.length = octets ((EventBody.codec P).encode event.body).dumps := by
    rw [canonicalJsonBytes, bind_eq_ok] at hencoded
    obtain ⟨text, htext, hencoded⟩ := hencoded
    obtain ⟨-, -, -, -, rfl⟩ := canonicalJson_eq_ok.mp htext
    rw [← Except.ok.inj hencoded, length_utf8, Json.text, String.toList_ofList,
      octets_dumps_orderForJcs]
  have hmod {encoded encoded' : Bytes}
      (hdigest : P.sha256Hex (domainPreimage "EVENT-HASH" encoded) =
        P.sha256Hex (domainPreimage "EVENT-HASH" encoded')) :
      encoded.length % 64 = encoded'.length % 64 := by
    rw [hcount, hcount] at hdigest
    have hmessage := congrArg (fun digest => digest.toList.count 'a') hdigest
    simp only [Reference.count_countDigest, domainPreimage, List.length_append, List.length_cons]
      at hmessage
    omega
  have hpair {event : Event P} (hmem : event ∈ [first, second] ++ [first, second]) :
      event = first ∨ event = second := by
    rw [List.mem_append, or_self, List.mem_pair] at hmem
    exact hmem
  rintro _ ⟨event, hmem, encoded, hencoded, rfl⟩ _ ⟨event', hmem', encoded', hencoded', rfl⟩ hdigest
  have hsame := hmod hdigest
  have hle := hlength hencoded
  have hle' := hlength hencoded'
  rw [domainPreimage_inj]
  rcases hpair hmem with rfl | rfl <;> rcases hpair hmem' with rfl | rfl
  · exact Except.ok.inj (hencoded.symm.trans hencoded')
  · omega
  · omega
  · exact Except.ok.inj (hencoded.symm.trans hencoded')

/-- Two violations, once in two calls and once between calls that are refused, and sealed. -/
theorem committed_sealed : ∃ (config : LedgerConfig Reference.countingPlatform)
    (calls calls' : List (LedgerCall Reference.countingPlatform)) (hash : Sha256Hex),
    (EvidenceLedger.start.after config calls).events.length = 2 ∧
    (EvidenceLedger.start.after config calls).isSealed = false ∧
    (EvidenceLedger.start.after config calls').isSealed = true ∧
    (EvidenceLedger.start.after config calls).finalHash = some hash ∧
    (EvidenceLedger.start.after config calls').finalHash = some hash ∧
    Committed config config calls calls' := by
  obtain ⟨manifest, -⟩ := Reference.exists_closed
  obtain ⟨config, hmax⟩ : ∃ config : LedgerConfig Reference.countingPlatform, config.maxEvents = 2 :=
    ⟨⟨manifest, ⟨"gateway-instance:demo", by decide⟩, 2⟩, rfl⟩
  obtain ⟨first, hfirst⟩ := @Reference.exists_append_reason config [] "operator.injected"
    (by rw [hmax]; decide) (by decide) (by decide)
  obtain ⟨second, hsecond⟩ := @Reference.exists_append_reason config [first]
    "runtime.budget_exhausted" (by rw [hmax]; exact Nat.one_lt_two) (by simp [maxSafeInteger]) (by decide)
  set clocks := (Reference.world 5).toClocks
  set payload := Supervisor.reasonPayload "operator.injected" with hpayload
  set payload' := Supervisor.reasonPayload "runtime.budget_exhausted" with hpayload'
  set lost : Clocks := ⟨.error (.osError ""), clocks.monotonicClock⟩
  have hlost : EvidenceLedger.append config ⟨[first], false⟩ lost .violation payload' none none none =
      .error (.osError "") := by
    have hroom : [first].length < config.maxEvents := by
      rw [hmax]
      exact Nat.one_lt_two
    rw [EvidenceLedger.append, ensure_of rfl, except_ok_bind, ensure_of hroom, except_ok_bind]
    rfl
  have hone : (EvidenceLedger.call config ⟨[], false⟩
      (.append clocks .violation payload none none none)).1 = ⟨[first], false⟩ :=
    EvidenceLedger.call_append_ok hfirst
  have htwo : (EvidenceLedger.call config ⟨[first], false⟩
      (.append clocks .violation payload' none none none)).1 = ⟨[first, second], false⟩ :=
    EvidenceLedger.call_append_ok hsecond
  have hobserved : (EvidenceLedger.call config ⟨[first], false⟩ (.commit true
      (fun _ => some (.runtimeError "")) clocks .violation payload' none none none)).1 =
        ⟨[first, second], false⟩ :=
    EvidenceLedger.call_commit_ok _ hsecond
  have hclosed : (EvidenceLedger.call config ⟨[first, second], true⟩
      (.append clocks .violation payload none none none)).1 = ⟨[first, second], true⟩ :=
    EvidenceLedger.call_append_error rfl
  set calls : List (LedgerCall Reference.countingPlatform) :=
    [.append clocks .violation payload none none none,
      .append clocks .violation payload' none none none] with hcalls
  set calls' : List (LedgerCall Reference.countingPlatform) :=
    [.append clocks .violation payload none none none,
      .append lost .violation payload' none none none,
      .commit true (fun _ => some (.runtimeError "")) clocks .violation payload' none none none,
      .seal, .append clocks .violation payload none none none] with hcalls'
  have hafter : EvidenceLedger.start.after config calls = ⟨[first, second], false⟩ := by
    rw [hcalls, EvidenceLedger.after, EvidenceLedger.start, List.foldl_cons, hone, List.foldl_cons,
      htwo, List.foldl_nil]
  have hafter' : EvidenceLedger.start.after config calls' = ⟨[first, second], true⟩ := by
    rw [hcalls', EvidenceLedger.after, EvidenceLedger.start, List.foldl_cons, hone, List.foldl_cons,
      EvidenceLedger.call_append_error hlost, List.foldl_cons, hobserved, List.foldl_cons]
    exact hclosed
  -- The second event is as much longer as its reason is.
  have hoctets := (sameSource_of_append hfirst hsecond).octets_add
  have hsequence := (append_links hfirst).2.2.1
  have hsequence' := (append_links hsecond).2.2.1
  rw [payload_of_append hfirst, payload_of_append hsecond, hsequence, hsequence'] at hoctets
  have hshort : octets (dumpsStr payload.orderForJcs.text) = 41 := by decide +kernel
  have hlong : octets (dumpsStr payload'.orderForJcs.text) = 48 := by decide +kernel
  have hzero : octets (Json.int (([] : List (Event Reference.countingPlatform)).length : ℤ)).dumps = 1 := by
    decide
  have hnext : octets (Json.int ([first].length : ℤ)).dumps = 1 := by
    rw [List.length_singleton]
    decide
  rw [hshort, hlong, hzero, hnext] at hoctets
  refine ⟨config, calls, calls', second.eventHash, ?_, ?_, ?_, ?_, ?_,
    committed_of_injOn config config calls calls' ?_⟩
  · rw [hafter]
    rfl
  · rw [hafter]
  · rw [hafter']
  · rw [hafter]
    rfl
  · rw [hafter']
    rfl
  · rw [hafter, hafter']
    exact injOn_of_count (fun _ => rfl) (by omega)

end Containment
