/-
# The mirror and the chain check

The mirror keeps the ends of the chain and a running digest, the receipt's loop the whole
previous event. Both are folds over the events. They accept the same lists: the mirror
leaves out the genesis hash of the first event, which the event's own validator has checked
already, and the run of the previous event, which it has compared with the manifest. Where
they accept, both have seen the same octets.
-/

import Containment.Auditor.Stream
import Containment.Reference.Requests
import Containment.Runtime.Commit

namespace Containment

open Json

variable {P : Platform}

namespace EvidenceMirror

/-- Show the events to the mirror, one after the other. -/
def observeAll (manifest : Manifest P) : EvidenceMirror → List (Event P) →
    Except PyError EvidenceMirror
  | mirror, [] => .ok mirror
  | mirror, event :: rest => do
      let mirror ← mirror.observe manifest event
      observeAll manifest mirror rest

/-- `snapshot`: the count, both ends and the digest. -/
def snapshot (P : Platform) (mirror : EvidenceMirror) :
    ℕ × Option Sha256Hex × Option Sha256Hex × String :=
  (mirror.count, mirror.firstHash, mirror.finalHash, P.sha256Hex mirror.digest)

end EvidenceMirror

/-- The loop of `verify_against` over a list of events. -/
def Receipt.chainLoop (receipt : Receipt P) (events : List (Event P)) :
    Except PyError (Unit × Receipt.Progress P) :=
  receipt.consume (fun _ event => .ok (event, ())) (fun _ => .ok ()) () .start events

/-- A receipt of the manifest with the count and the first hash of the events. -/
structure Receipt.Announces (receipt : Receipt P) (manifest : Manifest P) (events : List (Event P)) :
    Prop where
  runId : receipt.body.runId = manifest.body.runId
  manifestHash : receipt.body.manifestHash = manifest.manifestHash
  count : receipt.body.eventCount.1 = events.length
  first : receipt.body.firstEventHash = events.head?.map Event.eventHash

namespace MirrorChain

variable {manifest : Manifest P} {receipt : Receipt P} {mirror mirror' : EvidenceMirror}
  {progress progress' : Receipt.Progress P} {event : Event P}

/-- An event that comes first references the genesis hash. -/
theorem genesis_of_zero (event : Event P) (h : event.body.sequence.1 = 0) :
    event.body.previousEventHash.1 = genesisHash := by
  have hcoherent := event.body.coherent
  simp only [EventBodyFields.payloadDigestMatches, bind_eq_ok, Unique.exists_iff,
    ensure_eq_ok] at hcoherent
  by_contra hother
  exact hcoherent.2.1 ⟨h, hother⟩

theorem accept_eq_ok : receipt.accept progress event = .ok progress' ↔
    (progress.count : ℤ) < receipt.body.eventCount.1 ∧
    (event.body.runId = receipt.body.runId ∧
      event.body.manifestHash = receipt.body.manifestHash) ∧
    (match progress.previous with
      | none => event.body.sequence.1 = 0 ∧ event.body.previousEventHash.1 = genesisHash ∧
          some event.eventHash = receipt.body.firstEventHash
      | some previous => event.Follows previous) ∧
    ∃ encoded, event.canonicalBytes = .ok encoded ∧ {
      evidence := progress.evidence ++ encoded ++ [10]
      previous := some event
      triggerEventHash :=
        match receipt.body.killAcknowledgement with
        | none => progress.triggerEventHash
        | some ack =>
            if event.body.sequence = ack.body.triggerEventSequence then some event.eventHash
            else progress.triggerEventHash
      count := progress.count + 1 : Receipt.Progress P } = progress' := by
  simp only [Receipt.accept, bind_eq_ok, Unique.exists_iff, ensure_eq_ok, except_pure]
  cases progress.previous with
  | none =>
      refine ⟨fun h => ?_, fun h => ?_⟩ <;>
      · simp only [bind_eq_ok, Unique.exists_iff, ensure_eq_ok, Except.ok.injEq, and_assoc] at h ⊢
        exact h
  | some previous =>
      refine ⟨fun h => ?_, fun h => ?_⟩ <;>
      · simp only [bind_eq_ok, Unique.exists_iff, ensure_eq_ok, Except.ok.injEq, and_assoc] at h ⊢
        exact h

/-- The mirror and the loop have read the same events. -/
structure Alike (manifest : Manifest P) (mirror : EvidenceMirror) (progress : Receipt.Progress P) :
    Prop where
  count : mirror.count = progress.count
  digest : mirror.digest = progress.evidence
  begun : mirror.count = 0 ↔ progress.previous = none
  final : mirror.finalHash = progress.previous.map Event.eventHash
  sequence : mirror.lastSequence = progress.previous.map fun event => event.body.sequence.1
  time : mirror.lastMonotonicNs = progress.previous.map fun event => event.body.monotonicNs.1
  bound : ∀ previous ∈ progress.previous, previous.body.runId = manifest.body.runId ∧
    previous.body.manifestHash = manifest.manifestHash

theorem alike_start : Alike manifest .empty (.start : Receipt.Progress P) :=
  ⟨rfl, rfl, by simp [EvidenceMirror.empty, Receipt.Progress.start], rfl, rfl, rfl,
    fun _ h => nomatch h⟩

/-- What the mirror compares is what the loop compares. -/
theorem checkHead_iff (h : Alike manifest mirror progress)
    (hbound : event.body.runId = manifest.body.runId ∧
      event.body.manifestHash = manifest.manifestHash)
    (hfirst : progress.previous = none → some event.eventHash = receipt.body.firstEventHash) :
    mirror.checkHead event.body = .ok () ↔
      match progress.previous with
      | none => event.body.sequence.1 = 0 ∧ event.body.previousEventHash.1 = genesisHash ∧
          some event.eventHash = receipt.body.firstEventHash
      | some previous => event.Follows previous := by
  rw [EvidenceMirror.checkHead_eq_ok]
  cases hprevious : progress.previous with
  | none =>
      rw [if_pos (h.begun.mpr hprevious)]
      exact ⟨fun hzero => ⟨hzero, genesis_of_zero event hzero, hfirst hprevious⟩, fun hall => hall.1⟩
  | some previous =>
      have hcount : mirror.count ≠ 0 := by
        intro hzero
        rw [h.begun.mp hzero] at hprevious
        cases hprevious
      obtain ⟨hrun, hmanifest⟩ := h.bound previous hprevious
      rw [if_neg hcount, h.sequence, h.time, h.final, hprevious]
      simp only [Option.map_some, Option.isSome_some, Option.mem_def, Option.some.injEq,
        forall_eq', and_self, true_and]
      constructor
      · rintro ⟨hsequence, hhash, htime⟩
        exact ⟨hbound.1.trans hrun.symm, hbound.2.trans hmanifest.symm, hsequence, hhash, htime⟩
      · rintro ⟨-, -, hsequence, hhash, htime⟩
        exact ⟨hsequence, hhash, htime⟩

/-- The step lemma: both accept an event or neither does, and they stay alike. -/
theorem Alike.step (h : Alike manifest mirror progress)
    (hrun : receipt.body.runId = manifest.body.runId)
    (hmanifest : receipt.body.manifestHash = manifest.manifestHash)
    (hroom : (progress.count : ℤ) < receipt.body.eventCount.1)
    (hfirst : progress.previous = none → some event.eventHash = receipt.body.firstEventHash) :
    (∃ mirror' progress', mirror.observe manifest event = .ok mirror' ∧
      receipt.accept progress event = .ok progress' ∧ Alike manifest mirror' progress') ∨
    ((∀ mirror', mirror.observe manifest event ≠ .ok mirror') ∧
      ∀ progress', receipt.accept progress event ≠ .ok progress') := by
  by_cases hbound : event.body.runId = manifest.body.runId ∧
      event.body.manifestHash = manifest.manifestHash
  · have hhead := checkHead_iff h hbound hfirst
    by_cases hcheck : mirror.checkHead event.body = .ok ()
    · cases hencoded : event.canonicalBytes with
      | error error =>
          refine .inr ⟨fun mirror' hok => ?_, fun progress' hok => ?_⟩
          · obtain ⟨-, -, encoded, henc, -⟩ := EvidenceMirror.observe_eq_ok.mp hok
            rw [hencoded] at henc
            cases henc
          · obtain ⟨-, -, -, encoded, henc, -⟩ := accept_eq_ok.mp hok
            rw [hencoded] at henc
            cases henc
      | ok encoded =>
          refine .inl ⟨_, _, EvidenceMirror.observe_eq_ok.mpr
            ⟨hbound, hcheck, encoded, hencoded, rfl⟩, accept_eq_ok.mpr ⟨hroom, ?_, hhead.mp hcheck,
            encoded, hencoded, rfl⟩, ?_⟩
          · rw [hrun, hmanifest]
            exact hbound
          · refine ⟨by rw [h.count], by rw [h.digest], by simp, rfl, rfl, rfl, ?_⟩
            rintro _ ⟨⟩
            exact hbound
    · refine .inr ⟨fun mirror' hok => ?_, fun progress' hok => ?_⟩
      · exact hcheck (EvidenceMirror.observe_eq_ok.mp hok).2.1
      · exact hcheck (hhead.mpr (accept_eq_ok.mp hok).2.2.1)
  · refine .inr ⟨fun mirror' hok => ?_, fun progress' hok => ?_⟩
    · exact hbound (EvidenceMirror.observe_eq_ok.mp hok).1
    · have hsame := (accept_eq_ok.mp hok).2.1
      rw [hrun, hmanifest] at hsame
      exact hbound hsame

/-- The run lemma: from alike states the two folds accept the same events, and end alike. -/
theorem Alike.run (hrun : receipt.body.runId = manifest.body.runId)
    (hmanifest : receipt.body.manifestHash = manifest.manifestHash) {events : List (Event P)}
    (h : Alike manifest mirror progress)
    (hcount : (progress.count : ℤ) + events.length = receipt.body.eventCount.1)
    (hfirst : progress.previous = none →
      events.head?.map Event.eventHash = receipt.body.firstEventHash) :
    (∃ mirror' progress', mirror.observeAll manifest events = .ok mirror' ∧
      receipt.consume (fun _ event => .ok (event, ())) (fun _ => .ok ()) () progress events =
        .ok ((), progress') ∧ Alike manifest mirror' progress') ∨
    ((∀ mirror', mirror.observeAll manifest events ≠ .ok mirror') ∧
      ∀ progress', receipt.consume (fun _ event => .ok (event, ())) (fun _ => .ok ()) () progress
        events ≠ .ok ((), progress')) := by
  induction events generalizing mirror progress with
  | nil => exact .inl ⟨mirror, progress, rfl, rfl, h⟩
  | cons event rest ih =>
      have hroom : (progress.count : ℤ) < receipt.body.eventCount.1 := by
        rw [List.length_cons] at hcount
        omega
      rcases h.step hrun hmanifest hroom hfirst with
        ⟨mirror₁, progress₁, hobserve, haccept, halike⟩ | ⟨hobserve, haccept⟩
      · obtain ⟨-, -, -, encoded, -, hprogress⟩ := accept_eq_ok.mp haccept
        have hrest := ih halike (by
          rw [← hprogress]
          rw [List.length_cons] at hcount
          push_cast at hcount ⊢
          omega) (fun hnone => by
          rw [← hprogress] at hnone
          cases hnone)
        simp only [EvidenceMirror.observeAll, Receipt.consume, hobserve, haccept, except_ok_bind]
        exact hrest
      · refine .inr ⟨fun mirror' hok => ?_, fun progress' hok => ?_⟩
        · obtain ⟨mirror₁, hone, -⟩ := bind_eq_ok.mp hok
          exact hobserve mirror₁ hone
        · simp only [Receipt.consume, except_ok_bind] at hok
          obtain ⟨progress₁, hone, -⟩ := bind_eq_ok.mp hok
          exact haccept progress₁ hone

/-- A mirror agrees with the events it was shown. -/
theorem agrees_of_observeAll {before events : List (Event P)} (h : Agrees before mirror)
    (hok : mirror.observeAll manifest events = .ok mirror') : Agrees (before ++ events) mirror' := by
  induction events generalizing before mirror with
  | nil =>
      obtain rfl := Except.ok.inj hok
      rw [List.append_nil]
      exact h
  | cons event rest ih =>
      obtain ⟨mirror₁, hobserve, hrest⟩ := bind_eq_ok.mp hok
      have hsnoc := ih (h.snoc hobserve) hrest
      rwa [List.append_assoc, List.singleton_append] at hsnoc

end MirrorChain

/-- The mirror refines the chain check: it accepts the same lists of events, and its snapshot
is what the loop of `verify_against` recomputes. -/
structure MirrorRefines (manifest : Manifest P) (receipt : Receipt P) (events : List (Event P)) :
    Prop where
  accepts : (∃ mirror, EvidenceMirror.empty.observeAll manifest events = .ok mirror) ↔
    ∃ progress, receipt.chainLoop events = .ok ((), progress)
  roots : ∀ mirror, EvidenceMirror.empty.observeAll manifest events = .ok mirror →
    ∃ lines, List.Forall₂ (fun (event : Event P) encoded => event.canonicalBytes = .ok encoded)
        events lines ∧
      mirror.snapshot P = (events.length, events.head?.map Event.eventHash,
        events.getLast?.map Event.eventHash,
        P.sha256Hex (lines.map fun encoded => encoded ++ [10]).flatten)
  recomputed : ∀ mirror progress, EvidenceMirror.empty.observeAll manifest events = .ok mirror →
    receipt.chainLoop events = .ok ((), progress) →
    mirror.count = progress.count ∧ mirror.finalHash = progress.previous.map Event.eventHash ∧
      mirror.digest = progress.evidence

theorem mirrorRefines_of_announces {P : Platform} (manifest : Manifest P) (receipt : Receipt P)
    (events : List (Event P)) (h : receipt.Announces manifest events) :
    MirrorRefines manifest receipt events := by
  have hcount : ((.start : Receipt.Progress P).count : ℤ) + events.length =
      receipt.body.eventCount.1 := by
    rw [h.count]
    simp [Receipt.Progress.start]
  have hrun := MirrorChain.alike_start.run h.runId h.manifestHash hcount fun _ => h.first.symm
  refine ⟨?_, fun mirror hok => ?_, fun mirror progress hok hloop => ?_⟩
  · rcases hrun with ⟨mirror, progress, hobserve, hconsume, -⟩ | ⟨hobserve, hconsume⟩
    · exact ⟨fun _ => ⟨progress, hconsume⟩, fun _ => ⟨mirror, hobserve⟩⟩
    · constructor
      · rintro ⟨mirror, hok⟩
        exact absurd hok (hobserve mirror)
      · rintro ⟨progress, hok⟩
        exact absurd hok (hconsume progress)
  · have hagrees := MirrorChain.agrees_of_observeAll agrees_empty hok
    rw [List.nil_append] at hagrees
    obtain ⟨lines, hlines, hdigest⟩ := hagrees.digest
    refine ⟨lines, hlines, ?_⟩
    rw [EvidenceMirror.snapshot, hagrees.count, hagrees.first, hagrees.final, hdigest, List.map_map]
    rfl
  · rcases hrun with ⟨mirror', progress', hobserve, hconsume, halike⟩ | ⟨hobserve, -⟩
    · obtain rfl := Except.ok.inj (hobserve.symm.trans hok)
      obtain rfl := (Prod.mk.inj (Except.ok.inj (hconsume.symm.trans hloop))).2
      exact ⟨halike.count, halike.final, halike.digest⟩
    · exact absurd hok (hobserve mirror)

/-- The loop goes through the events that a receipt recounts. -/
theorem exists_consume {manifest : Manifest P} {receipt : Receipt P} {events rest : List (Event P)}
    {lines restLines all : List Bytes} {progress : Receipt.Progress P}
    (h : Recounts manifest receipt (events ++ rest) all)
    (hprogress : Collected receipt events lines progress)
    (hexported : List.Forall₂ (fun (event : Event P) encoded => event.canonicalBytes = .ok encoded)
      rest restLines) :
    ∃ progress', receipt.consume (fun _ event => .ok (event, ())) (fun _ => .ok ()) () progress rest =
      .ok ((), progress') := by
  induction hexported generalizing events lines progress with
  | nil => exact ⟨progress, rfl⟩
  | @cons event encoded rest restLines hencoded _ ih =>
      obtain ⟨progress₁, haccept, hprogress₁⟩ := h.accept hprogress hencoded
      rw [show events ++ event :: rest = (events ++ [event]) ++ rest by simp] at h
      obtain ⟨progress', hconsume⟩ := ih h hprogress₁
      refine ⟨progress', ?_⟩
      rw [Receipt.consume, except_ok_bind]
      dsimp only
      rw [haccept, except_ok_bind]
      exact hconsume

/-- The file of a request that was allowed, dispatched and answered, and the receipt that the
reference supervisor signs for it. -/
theorem mirrorRefines_answered : ∃ (manifest : Manifest Reference.platform)
    (receipt : Receipt Reference.platform) (events : List (Event Reference.platform))
    (request decided dispatched returned : Event Reference.platform),
    Reference.Answered events request decided dispatched returned ∧
    receipt.Announces manifest events ∧
    (∃ progress, receipt.chainLoop events = .ok ((), progress)) ∧
    MirrorRefines manifest receipt events := by
  obtain ⟨manifest, hm⟩ := Reference.exists_signed
  obtain ⟨events, lines, request, decided, dispatched, returned, digest, decision, hstory, hanswered,
    hfair⟩ := Reference.exists_answered_story hm
  obtain ⟨receipt, hrecounts, -⟩ := Reference.exists_receipt hm.body hstory.chain hfair
  have hhead : events.head? = some request := by rw [hanswered.events]; rfl
  have hfirst := hrecounts.first request (by rw [← List.head?_eq_getElem?, hhead])
  have hannounces : receipt.Announces manifest events :=
    ⟨hrecounts.runId, hrecounts.manifestHash, hrecounts.count, by rw [hhead, ← hfirst.2]; rfl⟩
  exact ⟨manifest, receipt, events, request, decided, dispatched, returned, hanswered, hannounces,
    exists_consume hrecounts (collected_start receipt) hrecounts.exported,
    mirrorRefines_of_announces _ _ _ hannounces⟩

end Containment
