/-
# Agreement of accepted histories

An accepted receipt pins down the evidence file: the receipt holds its digest, the
digest is of the lines in order, and the lines can be read back from their
concatenation because no line has a line feed inside it. Two receipts under one
manifest hold the same digest as soon as one witness signed both checkpoints.
-/

import Containment.Auditor.Stream
import Containment.Reference.Requests
import Containment.Runtime.Witness

namespace Containment

open Json

variable {P : Platform}

/-- Lines of octets that end with their only line feed. -/
def Terminated (raw : Bytes) : Prop := ∃ encoded, (10 : UInt8) ∉ encoded ∧ raw = encoded ++ [10]

/-- A prefix up to the first separator is determined by the whole. -/
theorem append_cons_inj_of_notMem {α : Type} {x : α} {xs ys us vs : List α} (hx : x ∉ xs)
    (hy : x ∉ ys) (h : xs ++ x :: us = ys ++ x :: vs) : xs = ys ∧ us = vs := by
  induction xs generalizing ys with
  | nil =>
      cases ys with
      | nil => exact ⟨rfl, (List.cons.inj h).2⟩
      | cons y ys => exact absurd (List.mem_cons.mpr (.inl (List.cons.inj h).1)) hy
  | cons z xs ih =>
      cases ys with
      | nil => exact absurd (List.mem_cons.mpr (.inl (List.cons.inj h).1.symm)) hx
      | cons y ys =>
          obtain ⟨rfl, hrest⟩ := List.cons.inj h
          obtain ⟨rfl, rfl⟩ := ih (fun hmem => hx (List.mem_cons_of_mem _ hmem))
            (fun hmem => hy (List.mem_cons_of_mem _ hmem)) hrest
          exact ⟨rfl, rfl⟩

/-- The concatenation of an evidence file's lines can be split in one way only. -/
theorem eq_of_flatten_eq {xs ys : List Bytes} (hxs : ∀ raw ∈ xs, Terminated raw)
    (hys : ∀ raw ∈ ys, Terminated raw) (h : xs.flatten = ys.flatten) : xs = ys := by
  induction xs generalizing ys with
  | nil =>
      cases ys with
      | nil => rfl
      | cons raw ys =>
          obtain ⟨encoded, -, rfl⟩ := hys raw List.mem_cons_self
          simp at h
  | cons raw xs ih =>
      obtain ⟨encoded, hencoded, rfl⟩ := hxs raw List.mem_cons_self
      cases ys with
      | nil => simp at h
      | cons raw' ys =>
          obtain ⟨encoded', hencoded', rfl⟩ := hys raw' List.mem_cons_self
          simp only [List.flatten_cons, List.append_assoc, List.singleton_append] at h
          obtain ⟨rfl, hrest⟩ := append_cons_inj_of_notMem hencoded hencoded' h
          rw [ih (fun raw hraw => hxs raw (List.mem_cons_of_mem _ hraw))
            (fun raw hraw => hys raw (List.mem_cons_of_mem _ hraw)) hrest]

theorem terminated_of_decoded {n : ℕ} {lines : List Line} {events : List (Event P)}
    (h : iterCanonicalJsonl P n lines = .ok events) :
    ∀ raw ∈ lines.map Line.raw, Terminated raw := by
  induction lines generalizing n events with
  | nil => exact fun _ hraw => (nomatch hraw)
  | cons line lines ih =>
      simp only [iterCanonicalJsonl, bind_eq_ok] at h
      obtain ⟨event, hevent, rest, hrest, -⟩ := h
      intro raw hraw
      rcases List.mem_cons.mp hraw with rfl | hraw
      · obtain ⟨encoded, hencoded, heq⟩ := raw_of_decodeLine hevent
        exact ⟨encoded, newline_notMem_of_canonicalJsonBytes hencoded, heq⟩
      · exact ih hrest raw hraw

/-- What an accepted bundle fixes about its lines. -/
theorem pinned_of_verifyBundle {manifest : Manifest P} {receipt : Receipt P} {lines : List Line}
    {key : Ed25519PublicKey} {report : VerificationReport}
    (hok : verifyBundle manifest receipt lines key = .ok report) :
    (∀ raw ∈ lines.map Line.raw, Terminated raw) ∧
      P.sha256Hex (lines.map Line.raw).flatten = receipt.body.evidenceFileSha256.1 ∧
      TransparencyWitness.registryKey receipt.body.witnessCheckpoint.body =
        (manifest.body.runId, manifest.manifestHash) ∧
      receipt.body.witnessCheckpoint.body.evidenceFileSha256 =
        receipt.body.evidenceFileSha256 := by
  obtain ⟨events, st, -, haccepted⟩ := @verifyBundle_ok P manifest receipt (fun _ _ => True) lines
    key report trivial (fun _ _ _ _ _ _ _ => trivial) hok
  obtain ⟨hrun, hmanifest, -, -, hdigest⟩ :=
    (receipt.body.receiptIsCoherent_eq_ok.mp receipt.body.coherent).checkpoint
  refine ⟨terminated_of_decoded haccepted.decoded, haccepted.digest, ?_,
    hdigest⟩
  rw [TransparencyWitness.registryKey, hrun, hmanifest, haccepted.runId, haccepted.manifestHash]

/-- Agreement: two accepted bundles have the same lines, either because they share
the receipt or because one witness issued both of their checkpoints, over any calls.
Lines are compared as octets. -/
theorem evidence_unique (P : Platform) (manifest : Manifest P) (receipt receipt' : Receipt P)
    (lines lines' : List Line) (key key' : Ed25519PublicKey) (report report' : VerificationReport)
    (hok : verifyBundle manifest receipt lines key = .ok report)
    (hok' : verifyBundle manifest receipt' lines' key' = .ok report')
    (hwitness : receipt = receipt' ∨
      ∃ (witness : TransparencyWitness P) (requests : List (TransparencyWitness.Request P)),
        witness.runRoots = ∅ ∧ receipt.body.witnessCheckpoint ∈ witness.issued requests ∧
          receipt'.body.witnessCheckpoint ∈ witness.issued requests)
    (hcollision : Set.InjOn P.sha256Hex
      {(lines.map Line.raw).flatten, (lines'.map Line.raw).flatten}) :
    lines.map Line.raw = lines'.map Line.raw := by
  obtain ⟨hterminated, hdigest, hkey, hroot⟩ := pinned_of_verifyBundle hok
  obtain ⟨hterminated', hdigest', hkey', hroot'⟩ := pinned_of_verifyBundle hok'
  have hsame : receipt.body.evidenceFileSha256 = receipt'.body.evidenceFileSha256 := by
    rcases hwitness with rfl | ⟨witness, requests, hempty, hissued, hissued'⟩
    · rfl
    · have hcheckpoint := TransparencyWitness.eq_of_mem_issued hempty hissued hissued'
        (hkey.trans hkey'.symm)
      rw [← hroot, ← hroot', hcheckpoint]
  apply eq_of_flatten_eq hterminated hterminated'
  apply hcollision (Set.mem_insert _ _) (Set.mem_insert_of_mem _ rfl)
  rw [hdigest, hdigest', hsame]

/-- Two receipts of one run, signed at different times over the checkpoint of one witness. -/
theorem evidence_unique_of_two_receipts :
    ∃ (manifest : Manifest Reference.platform) (receipt receipt' : Receipt Reference.platform)
      (lines lines' : List Line) (report report' : VerificationReport),
      verifyBundle manifest receipt lines Reference.operatorKey = .ok report ∧
      verifyBundle manifest receipt' lines' Reference.operatorKey = .ok report' ∧
      receipt ≠ receipt' ∧ lines.map Line.raw = lines'.map Line.raw := by
  obtain ⟨manifest, receipt, receipt', lines, report, report', events, requests, hok, hok', hne, -, -,
    hissued, hissued'⟩ := Reference.exists_two_receipts
  refine ⟨manifest, receipt, receipt', lines, lines, report, report', hok, hok', hne, ?_⟩
  refine evidence_unique _ _ receipt receipt' _ _ _ _ _ _ hok hok'
    (.inr ⟨Reference.witness, requests, rfl, hissued, hissued'⟩) ?_
  rw [Set.pair_eq_singleton]
  exact Set.injOn_singleton _ _

end Containment
