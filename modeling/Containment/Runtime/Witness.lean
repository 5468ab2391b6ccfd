/-
# The transparency witness

A registry that signs one evidence root for each run and refuses a second one.
Whatever is asked of it, in whatever order, two checkpoints it returns for one run
are the same checkpoint.
-/

import Containment.Models.Receipt
import Mathlib.Data.List.AList

namespace Containment

open Json

variable {P : Platform}

/-- Reference one-time run registry. -/
structure TransparencyWitness (P : Platform) where
  key : Bytes
  keyId : OpaqueId
  runRoots : AList fun _ : OpaqueId × Sha256Hex => WitnessCheckpoint P

namespace TransparencyWitness

/-- The arguments of one call, and what the wall clock answers during it. -/
structure Request (P : Platform) where
  manifest : Manifest P
  eventCount : ℤ
  finalEventHash : Option String
  evidenceFileSha256 : String
  wallClock : Except PyError Datetime

/-- The comparison of a registered root with a new one. -/
def SameRoot (prior body : WitnessCheckpointBody) : Prop :=
  prior.eventCount = body.eventCount ∧ prior.finalEventHash = body.finalEventHash ∧
    prior.evidenceFileSha256 = body.evidenceFileSha256

instance (prior body : WitnessCheckpointBody) : Decidable (SameRoot prior body) :=
  inferInstanceAs (Decidable (_ ∧ _ ∧ _))

/-- The run a checkpoint is registered under. -/
def registryKey (body : WitnessCheckpointBody) : OpaqueId × Sha256Hex :=
  (body.runId, body.manifestHash)

def checkpoint (witness : TransparencyWitness P) (request : Request P) :
    Except PyError (WitnessCheckpoint P × TransparencyWitness P) := do
  let witnessedAt ← formatUtcTimestamp (← request.wallClock)
  let eventCount ← validate "event_count" (intRange 0 maxSafeInteger) request.eventCount
  let finalEventHash ← validateOption "final_event_hash" sha256HexCheck request.finalEventHash
  let evidence ← validate "evidence_file_sha256" sha256HexCheck request.evidenceFileSha256
  let body ← WitnessCheckpointBody.make {
    runId := request.manifest.body.runId
    manifestHash := request.manifest.manifestHash
    witnessKeyId := witness.keyId
    witnessedAt := witnessedAt
    eventCount := eventCount
    finalEventHash := finalEventHash
    evidenceFileSha256 := evidence }
  let fresh ← Sealed.sign witnessCheckpointSealing body witness.key
  match witness.runRoots.lookup (registryKey body) with
  | some existing =>
      if SameRoot existing.body body then .ok (existing, witness)
      else .error (.valueError "witness refuses an equivocal root for this run")
  | none => .ok (fresh,
      { witness with runRoots := witness.runRoots.insert (registryKey body) fresh })

/-- The checkpoints returned over a sequence of calls. A call that raises leaves
the registry alone. -/
def issued (witness : TransparencyWitness P) : List (Request P) → List (WitnessCheckpoint P)
  | [] => []
  | request :: rest =>
      match witness.checkpoint request with
      | .ok (checkpoint, witness) => checkpoint :: witness.issued rest
      | .error _ => witness.issued rest

/-- Every checkpoint is registered under its own run. -/
def Registered (witness : TransparencyWitness P) : Prop :=
  ∀ key checkpoint, witness.runRoots.lookup key = some checkpoint →
    registryKey checkpoint.body = key

/-- What is registered stays registered. -/
def Keeps (witness witness' : TransparencyWitness P) : Prop :=
  ∀ key checkpoint, witness.runRoots.lookup key = some checkpoint →
    witness'.runRoots.lookup key = some checkpoint

/-- The step lemma: a returned checkpoint is the registered one of its run. -/
theorem checkpoint_ok {witness witness' : TransparencyWitness P} {request : Request P}
    {returned : WitnessCheckpoint P} (hregistered : witness.Registered)
    (hok : witness.checkpoint request = .ok (returned, witness')) :
    witness'.Registered ∧ Keeps witness witness' ∧
      witness'.runRoots.lookup (registryKey returned.body) = some returned := by
  simp only [checkpoint, bind_eq_ok] at hok
  obtain ⟨_, -, _, -, _, -, _, -, _, -, body, -, fresh, hsign, hok⟩ := hok
  have hbody : fresh.body = body := Sealed.body_of_sign hsign
  split at hok
  · rename_i existing hexisting
    split at hok
    · obtain ⟨rfl, rfl⟩ := Prod.mk.inj (Except.ok.inj hok)
      refine ⟨hregistered, fun _ _ h => h, ?_⟩
      rw [hregistered _ _ hexisting, hexisting]
    · cases hok
  · rename_i hnone
    obtain ⟨rfl, rfl⟩ := Prod.mk.inj (Except.ok.inj hok)
    refine ⟨?_, ?_, ?_⟩
    · intro key registered hlookup
      by_cases hkey : key = registryKey body
      · subst hkey
        rw [AList.lookup_insert, Option.some.injEq] at hlookup
        rw [← hlookup, hbody]
      · rw [AList.lookup_insert_ne hkey] at hlookup
        exact hregistered key registered hlookup
    · intro key registered hlookup
      have hkey : key ≠ registryKey body := by
        rintro rfl
        rw [hnone] at hlookup
        cases hlookup
      rw [AList.lookup_insert_ne hkey, hlookup]
    · rw [hbody, AList.lookup_insert]

/-- The run lemma: one registry explains everything that is returned. -/
theorem exists_registry_of_issued (witness : TransparencyWitness P) (requests : List (Request P))
    (hregistered : witness.Registered) :
    ∃ final : TransparencyWitness P, Keeps witness final ∧
      ∀ checkpoint ∈ witness.issued requests,
        final.runRoots.lookup (registryKey checkpoint.body) = some checkpoint := by
  induction requests generalizing witness with
  | nil => exact ⟨witness, fun _ _ h => h, fun _ h => (nomatch h)⟩
  | cons request rest ih =>
      unfold issued
      split
      · rename_i returned witness' hok
        obtain ⟨hregistered', hkeeps, hlookup⟩ := checkpoint_ok hregistered hok
        obtain ⟨final, hkeeps', hall⟩ := ih witness' hregistered'
        refine ⟨final, fun key c h => hkeeps' key c (hkeeps key c h), ?_⟩
        intro c hc
        rcases List.mem_cons.mp hc with rfl | hc
        · exact hkeeps' _ _ hlookup
        · exact hall c hc
      · exact ih witness hregistered

/-- A witness that starts with an empty registry never equivocates. -/
theorem eq_of_mem_issued {witness : TransparencyWitness P} {requests : List (Request P)}
    {c c' : WitnessCheckpoint P} (hempty : witness.runRoots = ∅)
    (hc : c ∈ witness.issued requests) (hc' : c' ∈ witness.issued requests)
    (hrun : registryKey c.body = registryKey c'.body) : c = c' := by
  have hregistered : witness.Registered := by
    intro key checkpoint hlookup
    rw [hempty, AList.lookup_empty] at hlookup
    cases hlookup
  obtain ⟨final, -, hall⟩ := exists_registry_of_issued witness requests hregistered
  have hlookup := hall c hc
  rw [hrun, hall c' hc', Option.some.injEq] at hlookup
  exact hlookup.symm

end TransparencyWitness

end Containment
