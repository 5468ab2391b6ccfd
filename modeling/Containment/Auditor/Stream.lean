/-
# Reading a bundle to its end

The verifier reads the evidence once, and three things advance together: the line
decoder, the inspecting generator and the receipt's own loop. `verifyBundle_ok` is
the one place where that loop is unrolled. It takes any property of the events read
so far and the generator's state, carries it over the file, and hands back
everything else the verifier has established by the time it accepts.
-/

import Containment.Auditor.Protocol

namespace Containment

open Json

variable {P : Platform}

/-! ## One more event -/

theorem getElem?_snoc {α : Type} {xs : List α} {x y : α} {i : ℕ} :
    (xs ++ [x])[i]? = some y ↔ xs[i]? = some y ∨ (i = xs.length ∧ y = x) := by
  rcases lt_trichotomy i xs.length with h | rfl | h
  · rw [List.getElem?_append_left h]
    exact ⟨.inl, fun h' => h'.resolve_right fun heq => absurd heq.1 (by omega)⟩
  · simp [eq_comm]
  · have hnone : xs[i]? = none := List.getElem?_eq_none (by omega)
    have hnone' : (xs ++ [x])[i]? = none :=
      List.getElem?_eq_none (by rw [List.length_append]; exact h)
    rw [hnone, hnone']
    simp only [reduceCtorEq, false_or, false_iff, not_and]
    intro heq
    omega

theorem getElem?_snoc_of_some {α : Type} {xs : List α} {x y : α} {i : ℕ} (h : xs[i]? = some y) :
    (xs ++ [x])[i]? = some y :=
  getElem?_snoc.mpr (.inl h)

theorem lt_length_of_getElem? {α : Type} {xs : List α} {y : α} {i : ℕ} (h : xs[i]? = some y) :
    i < xs.length :=
  (List.getElem?_eq_some_iff.mp h).1

/-! ## The receipt's loop -/

/-- What the receipt's loop knows after reading the events. -/
structure Followed (receipt : Receipt P) (events : List (Event P))
    (progress : Receipt.Progress P) : Prop where
  chained : Chained events
  previous : progress.previous = events.getLast?
  count : progress.count = events.length
  bound : ∀ event ∈ events, event.body.runId = receipt.body.runId ∧
    event.body.manifestHash = receipt.body.manifestHash
  trigger : ∀ ack ∈ receipt.body.killAcknowledgement, ∀ hash ∈ progress.triggerEventHash,
    ∃ event ∈ events, event.body.sequence = ack.body.triggerEventSequence ∧ event.eventHash = hash

theorem followed_start (receipt : Receipt P) : Followed receipt [] .start where
  chained := ⟨fun _ _ h => (nomatch h), fun _ _ _ h => (nomatch h)⟩
  previous := rfl
  count := rfl
  bound _ h := nomatch h
  trigger _ _ _ h := nomatch h

theorem Chained.snoc {events : List (Event P)} {event : Event P} (h : Chained events)
    (hsequence : event.body.sequence.1 = events.length)
    (hlinked : ∀ previous, events.getLast? = some previous →
      event.body.previousEventHash = previous.eventHash ∧
        previous.body.monotonicNs.1 ≤ event.body.monotonicNs.1) :
    Chained (events ++ [event]) where
  sequence i e he := by
    rcases getElem?_snoc.mp he with hi | ⟨rfl, rfl⟩
    · exact h.sequence i e hi
    · exact hsequence
  linked i e next he hnext := by
    rcases getElem?_snoc.mp hnext with hi | ⟨hi, rfl⟩
    · refine h.linked i e next ?_ hi
      rwa [List.getElem?_append_left (by have := lt_length_of_getElem? hi; omega)] at he
    · apply hlinked
      rw [List.getElem?_append_left (by omega)] at he
      rw [List.getLast?_eq_getElem?, ← hi, Nat.add_sub_cancel, he]

theorem mem_of_mem_ite {α : Type} {condition : Prop} [Decidable condition] {old : Option α} {new x : α}
    (h : x ∈ if condition then some new else old) : x ∈ old ∨ condition ∧ new = x := by
  split_ifs at h with hcondition
  · exact .inr ⟨hcondition, Option.some.inj h⟩
  · exact .inl h

/-- What one turn of the receipt's loop does. -/
theorem accept_ok {receipt : Receipt P} {progress progress' : Receipt.Progress P}
    {event : Event P} (hok : receipt.accept progress event = .ok progress') :
    (event.body.runId = receipt.body.runId ∧
      event.body.manifestHash = receipt.body.manifestHash) ∧
    ((progress.previous = none ∧ event.body.sequence.1 = 0) ∨
      ∃ previous, progress.previous = some previous ∧ event.Follows previous) ∧
    ∃ encoded, event.canonicalBytes = .ok encoded ∧
      progress'.evidence = progress.evidence ++ (encoded ++ [10]) ∧
      progress'.previous = some event ∧ progress'.count = progress.count + 1 ∧
      ∀ ack ∈ receipt.body.killAcknowledgement, ∀ hash ∈ progress'.triggerEventHash,
        hash ∈ progress.triggerEventHash ∨
          event.body.sequence = ack.body.triggerEventSequence ∧ event.eventHash = hash := by
  simp only [Receipt.accept, bind_eq_ok, Unique.exists_iff, ensure_eq_ok, except_pure] at hok
  obtain ⟨-, hbound, hok⟩ := hok
  split at hok <;>
    simp only [bind_eq_ok, Unique.exists_iff, ensure_eq_ok, Except.ok.injEq] at hok
  · rename_i hnone
    obtain ⟨hzero, -, -, encoded, hencoded, rfl⟩ := hok
    refine ⟨hbound, .inl ⟨hnone, hzero⟩, encoded, hencoded, List.append_assoc _ _ _, rfl, rfl,
      fun ack hack hash hhash => ?_⟩
    rw [Option.mem_def.mp hack] at hhash
    exact mem_of_mem_ite hhash
  · rename_i previous hsome
    obtain ⟨hfollows, encoded, hencoded, rfl⟩ := hok
    refine ⟨hbound, .inr ⟨previous, hsome, hfollows⟩, encoded, hencoded, List.append_assoc _ _ _,
      rfl, rfl, fun ack hack hash hhash => ?_⟩
    rw [Option.mem_def.mp hack] at hhash
    exact mem_of_mem_ite hhash

/-- The step lemma of the receipt's loop. -/
theorem Followed.accept {receipt : Receipt P} {events : List (Event P)}
    {progress progress' : Receipt.Progress P} {event : Event P}
    (h : Followed receipt events progress) (hok : receipt.accept progress event = .ok progress') :
    Followed receipt (events ++ [event]) progress' := by
  obtain ⟨hbound, hlink, -, -, -, hprevious, hcount, htrigger⟩ := accept_ok hok
  refine ⟨?_, ?_, ?_, ?_, ?_⟩
  · rcases hlink with ⟨hnone, hzero⟩ | ⟨previous, hsome, -, -, hsequence, hhash, htime⟩
    · -- The first event: nothing has been read yet.
      have hnil : events = [] := List.getLast?_eq_none_iff.mp (h.previous.symm.trans hnone)
      subst hnil
      exact h.chained.snoc hzero fun _ hlast => (nomatch hlast)
    · have hlast : events.getLast? = some previous := h.previous.symm.trans hsome
      refine h.chained.snoc ?_ ?_
      · have hat : events[events.length - 1]? = some previous := by
          rw [← List.getLast?_eq_getElem?, hlast]
        have hlt := lt_length_of_getElem? hat
        rw [hsequence, h.chained.sequence _ previous hat]
        omega
      · intro previous' hlast'
        obtain rfl := Option.some.inj (hlast.symm.trans hlast')
        exact ⟨hhash, htime⟩
  · rw [hprevious, List.getLast?_concat]
  · rw [hcount, List.length_append, List.length_singleton, ← h.count]
  · intro e he
    rcases List.mem_append.mp he with he | he
    · exact h.bound e he
    · rw [List.mem_singleton.mp he]
      exact hbound
  · intro ack hack hash hhash
    rcases htrigger ack hack hash hhash with hold | hnew
    · obtain ⟨e, he, hfound⟩ := h.trigger ack hack hash hold
      exact ⟨e, List.mem_append_left _ he, hfound⟩
    · exact ⟨event, List.mem_append_right _ (List.mem_singleton_self _), hnew⟩

/-- A decoded line is its event's canonical form and a line feed. -/
theorem raw_of_decodeLine {n : ℕ} {line : Line} {event : Event P}
    (h : decodeLine P n line = .ok event) :
    ∃ encoded, event.canonicalBytes = .ok encoded ∧ line.raw = encoded ++ [10] := by
  simp only [decodeLine, bind_eq_ok, Unique.exists_iff, ensure_eq_ok, except_pure,
    Except.ok.injEq] at h
  obtain ⟨hlast, json, -, event', -, encoded, hencoded, heq, rfl⟩ := h
  refine ⟨encoded, hencoded, ?_⟩
  rw [heq]
  exact (List.dropLast_append_getLast? 10 hlast).symm

/-! ## The whole file -/

/-- Everything an accepted bundle has passed, the generator's dictionaries apart. -/
structure Accepted (manifest : Manifest P) (receipt : Receipt P) (lines : List Line)
    (events : List (Event P)) (st : Inspection P) : Prop where
  decoded : iterCanonicalJsonl P 0 lines = .ok events
  chained : Chained events
  bound : ∀ event ∈ events, event.body.runId = receipt.body.runId ∧
    event.body.manifestHash = receipt.body.manifestHash
  closed : st.close receipt = .ok ()
  signed : receipt.verify manifest.body.supervisorKey = .ok ()
  manifestHash : receipt.body.manifestHash = manifest.manifestHash
  runId : receipt.body.runId = manifest.body.runId
  checkpoint : receipt.body.witnessCheckpoint.verify manifest.body.witnessKey = .ok ()
  digest : P.sha256Hex (lines.map Line.raw).flatten = receipt.body.evidenceFileSha256.1
  total : (st.stats.events : ℤ) = receipt.body.eventCount.1
  allowed : (st.stats.allowed : ℤ) = receipt.body.allowedRequestCount.1
  denied : (st.stats.denied : ℤ) = receipt.body.deniedRequestCount.1
  dispatches : (st.stats.dispatches : ℤ) = receipt.body.dispatchedRequestCount.1
  results : (st.stats.results : ℤ) = receipt.body.completedRequestCount.1
  killAcks : st.stats.killAcks = receipt.body.killAcknowledgement.toList.length
  acknowledged : ∀ ack ∈ receipt.body.killAcknowledgement,
    ack.verify manifest.body.supervisorKey = .ok () ∧
      ack.body.killLatencyNs.1 ≤
        manifest.body.killCriteria.supervisorKillLatencySlaMs.1 * 1000000 ∧
      ∃ event ∈ events, event.body.sequence = ack.body.triggerEventSequence ∧
        event.eventHash = ack.body.triggerEventHash

section Run

variable {manifest : Manifest P} {receipt : Receipt P}
  {Inv : List (Event P) → Inspection P → Prop}

/-- The run lemma: the three readers advance together over the rest of the file. -/
theorem consume_ok
    (hstep : ∀ events st event st', Inv events st → Chained events →
      st.inspectEvent manifest receipt event = .ok st' → Inv (events ++ [event]) st')
    {lines : List Line} {events : List (Event P)} {n n' : ℕ} {st st' : Inspection P}
    {progress progress' : Receipt.Progress P} (hinv : Inv events st)
    (hfollowed : Followed receipt events progress)
    (hok : receipt.consume (pullEvent manifest receipt) (fun stream => stream.2.close receipt)
      (n, st) progress lines = .ok ((n', st'), progress')) :
    ∃ rest, iterCanonicalJsonl P n lines = .ok rest ∧ Inv (events ++ rest) st' ∧
      Followed receipt (events ++ rest) progress' ∧ st'.close receipt = .ok () ∧
      progress'.evidence = progress.evidence ++ (lines.map Line.raw).flatten := by
  induction lines generalizing events n st progress with
  | nil =>
      simp only [Receipt.consume, bind_eq_ok, Unique.exists_iff, except_pure, Except.ok.injEq,
        Prod.mk.injEq] at hok
      obtain ⟨hclose, ⟨-, rfl⟩, rfl⟩ := hok
      refine ⟨[], rfl, ?_, ?_, hclose, ?_⟩
      · rwa [List.append_nil]
      · rwa [List.append_nil]
      · simp
  | cons line lines ih =>
      simp only [Receipt.consume, pullEvent, bind_eq_ok, except_pure, Except.ok.injEq] at hok
      obtain ⟨⟨event, n₁, st₁⟩, ⟨event', hevent, st₂, hst, heq⟩, progress₁, haccept, hok⟩ := hok
      obtain ⟨rfl, rfl, rfl⟩ : event' = event ∧ n + 1 = n₁ ∧ st₂ = st₁ := by simpa using heq
      obtain ⟨-, -, encoded, hencoded, hevidence, -⟩ := accept_ok haccept
      obtain ⟨encoded', hencoded', hraw⟩ := raw_of_decodeLine hevent
      obtain rfl := Except.ok.inj (hencoded.symm.trans hencoded')
      obtain ⟨rest, hrest, hinv', hfollowed'', hclose, hevidence'⟩ :=
        ih (hstep events st event' st₂ hinv hfollowed.chained hst) (hfollowed.accept haccept) hok
      refine ⟨event' :: rest, ?_, ?_, ?_, hclose, ?_⟩
      · simp only [iterCanonicalJsonl, hevent, hrest, except_ok_bind, except_pure]
      · rwa [List.append_assoc] at hinv'
      · rwa [List.append_assoc] at hfollowed''
      · rw [hevidence', hevidence, List.map_cons, List.flatten_cons, hraw, List.append_assoc]

theorem verifyBundle_ok {lines : List Line} {key : Ed25519PublicKey}
    {report : VerificationReport} (hstart : Inv [] .start)
    (hstep : ∀ events st event st', Inv events st → Chained events →
      st.inspectEvent manifest receipt event = .ok st' → Inv (events ++ [event]) st')
    (hok : verifyBundle manifest receipt lines key = .ok report) :
    ∃ events st, Inv events st ∧ Accepted manifest receipt lines events st := by
  simp only [verifyBundle, Receipt.verifyAgainst, compareCounter, bind_eq_ok, Unique.exists_iff,
    ensure_eq_ok, except_pure, Except.ok.injEq] at hok
  obtain ⟨-, -, ⟨n, st⟩, ⟨hsigned, hrun, hmanifest, -, hcheckpoint, ⟨stream, progress⟩, hconsume,
    hconclude, hstream⟩, htotal, hallowed, hdenied, hdispatches, hresults, hsome, hnone, -⟩ := hok
  obtain rfl : stream = (n, st) := hstream
  obtain ⟨events, hdecoded, hinv, hfollowed, hclose, hevidence⟩ :=
    consume_ok hstep hstart (followed_start receipt) hconsume
  simp only [Receipt.conclude, bind_eq_ok, Unique.exists_iff, ensure_eq_ok] at hconclude
  refine ⟨events, st, hinv, {
    decoded := hdecoded
    chained := hfollowed.chained
    bound := hfollowed.bound
    closed := hclose
    signed := hsigned
    manifestHash := hmanifest
    runId := hrun
    checkpoint := hcheckpoint
    digest := ?_
    total := htotal
    allowed := hallowed
    denied := hdenied
    dispatches := hdispatches
    results := hresults
    killAcks := ?_
    acknowledged := ?_ }⟩
  · rw [← hconclude.2.2.1, hevidence]
    rfl
  · cases hack : receipt.body.killAcknowledgement <;> simp_all
  · intro ack hack
    have hchecks := hconclude.2.2.2
    rw [Option.mem_def.mp hack] at hchecks
    simp only [bind_eq_ok, Unique.exists_iff, ensure_eq_ok] at hchecks
    obtain ⟨hverify, hsla, htrigger⟩ := hchecks
    refine ⟨hverify, hsla, ?_⟩
    cases hhash : progress.triggerEventHash with
    | none =>
        rw [hhash] at htrigger
        cases htrigger
    | some hash =>
        rw [hhash] at htrigger
        rw [← ensure_eq_ok.mp htrigger]
        exact hfollowed.trigger ack hack hash hhash

end Run

end Containment
