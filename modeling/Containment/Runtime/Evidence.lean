/-
# The ledger and its mirror

The ledger appends an event and hands it to an independent observer before it
releases its lock. An observer that raises leaves the event in the ledger: from
then on the two disagree about the next sequence number, and nothing is mirrored
again. A successful commit needs and keeps their agreement.
-/

import Containment.Models.Event
import Containment.Models.Manifest
import Mathlib.Data.List.GetD

namespace Containment

open Json

variable {P : Platform}

/-! ## What the outside world answers -/

structure TransportResult where
  statusCode : ℤ
  responseBytes : ℤ
  responseSha256 : String

/-- The clocks a component reads. Reading one may raise. -/
structure Clocks where
  wallClock : Except PyError Datetime
  monotonicClock : Except PyError ℤ

/-! ## The ledger -/

/-- Append-only ledger. -/
structure EvidenceLedger (P : Platform) where
  events : List (Event P)
  isSealed : Bool

/-- What a ledger is constructed with. -/
structure LedgerConfig (P : Platform) where
  manifest : Manifest P
  producerInstanceId : OpaqueId
  maxEvents : ℕ

namespace EvidenceLedger

def genesis : Sha256Hex := ⟨genesisHash, genesisHash_check⟩

/-- The hash the next event has to name. -/
def previousHash (events : List (Event P)) : Sha256Hex :=
  (events.getLast?.map Event.eventHash).getD genesis

/-- `append`: the next event, or the exception that keeps it out of the ledger.
The last argument is a failure of the write-ahead log. -/
def append (config : LedgerConfig P) (ledger : EvidenceLedger P) (clocks : Clocks)
    (kind : EventKind) (payload : Json) (requestId : Option String) (monotonicNs : Option ℤ)
    (fault : Option PyError) : Except PyError (Event P) := do
  ensure (ledger.isSealed = false) (.runtimeError "evidence ledger is sealed")
  ensure (ledger.events.length < config.maxEvents)
    (.bufferError "evidence ledger event budget exhausted")
  let observedAt ← formatUtcTimestamp (← clocks.wallClock)
  let monotonicNs ← monotonicNs.elim clocks.monotonicClock .ok
  let event ← Event.create payload config.manifest.body.runId config.manifest.manifestHash
    ledger.events.length (previousHash ledger.events) kind config.producerInstanceId observedAt
    monotonicNs requestId
  let _ ← event.canonicalBytes
  fault.elim (.ok event) .error

end EvidenceLedger

/-! ## The mirror -/

/-- O(1)-memory independent observation of committed event heads. The running
digest is kept as the octets fed to it. -/
structure EvidenceMirror where
  digest : Bytes
  count : ℕ
  firstHash : Option Sha256Hex
  finalHash : Option Sha256Hex
  lastSequence : Option ℤ
  lastMonotonicNs : Option ℤ

namespace EvidenceMirror

def empty : EvidenceMirror := ⟨[], 0, none, none, none, none⟩

/-- The comparison of an event with the last one observed. -/
def checkHead (mirror : EvidenceMirror) (body : EventBody P) : Except PyError Unit :=
  if mirror.count = 0 then
    ensure (body.sequence.1 = 0) (.valueError "mirror must begin at sequence zero")
  else do
    ensure (mirror.lastSequence.isSome = true ∧ mirror.lastMonotonicNs.isSome = true)
      (.assertionError "")
    ensure (∀ last ∈ mirror.lastSequence, body.sequence.1 = last + 1)
      (.valueError "mirror observed a sequence gap")
    ensure (some body.previousEventHash = mirror.finalHash)
      (.valueError "mirror observed a chain fork")
    ensure (∀ last ∈ mirror.lastMonotonicNs, last ≤ body.monotonicNs.1)
      (.valueError "mirror observed monotonic time reversal")

def observe (manifest : Manifest P) (mirror : EvidenceMirror) (event : Event P) :
    Except PyError EvidenceMirror := do
  let body := event.body
  ensure (body.runId = manifest.body.runId ∧ body.manifestHash = manifest.manifestHash)
    (.valueError "mirrored event belongs to another run")
  mirror.checkHead body
  let encoded ← event.canonicalBytes
  return {
    digest := mirror.digest ++ encoded ++ [10]
    count := mirror.count + 1
    firstHash := if mirror.count = 0 then some event.eventHash else mirror.firstHash
    finalHash := some event.eventHash
    lastSequence := some body.sequence.1
    lastMonotonicNs := some body.monotonicNs.1 }

end EvidenceMirror

/-! ## What an appended event holds -/

theorem Event.create_ok {payload : Json} {runId : OpaqueId} {manifestHash : Sha256Hex}
    {sequence : ℕ} {previousEventHash : Sha256Hex} {kind : EventKind} {producer : OpaqueId}
    {observedAt : UtcTimestamp} {monotonicNs : ℤ} {requestId : Option String} {event : Event P}
    (h : Event.create payload runId manifestHash sequence previousEventHash kind producer
      observedAt monotonicNs requestId = .ok event) :
    canonicalJson P payload = .ok event.body.payloadCanonicalJson.1 ∧ event.body.kind = kind ∧
      event.body.requestId.map Subtype.val = requestId ∧ event.body.sequence.1 = sequence ∧
      event.body.previousEventHash = previousEventHash ∧ event.body.runId = runId ∧
      event.body.manifestHash = manifestHash ∧ event.body.monotonicNs.1 = monotonicNs := by
  simp only [Event.create, bind_eq_ok, except_pure, Except.ok.injEq] at h
  obtain ⟨text, htext, number, hnumber, request, hrequest, clock, hclock, payloadText, hpayload,
    digest, hdigest, fields, hfields, hash, hhash, hash', hhash', pair, hpair, rfl⟩ := h
  obtain ⟨fields, hvalid⟩ := fields
  obtain ⟨⟨body, hash₁⟩, hcoherent⟩ := pair
  obtain rfl := checked_eq_ok hfields
  obtain ⟨rfl, rfl⟩ := Prod.mk.inj (checked_eq_ok hpair)
  refine ⟨?_, rfl, ?_, validate_eq_ok hnumber, rfl, rfl, rfl, validate_eq_ok hclock⟩
  · rw [validate_eq_ok hpayload]
    exact htext
  · exact map_val_validateOption hrequest

end Containment
