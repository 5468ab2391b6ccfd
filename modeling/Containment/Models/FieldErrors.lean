/-
# Which field an error names

A model that refuses a value raises an error that names the field. A computation avoids
some fields if none of its errors names one of them. What a constructor raises names the
field it checks, or nothing, so it avoids every field that it does not check, and every
field that it checks and accepts.
-/

import Containment.Models.Receipt

namespace Containment

open Json

variable {P : Platform} {α β : Type} {fields : List String}

/-- The error is a refusal of one of the fields. -/
def PyError.Names (fields : List String) (error : PyError) : Prop :=
  ∃ field ∈ fields, ∃ message, error = .validationError field message

/-- No error of the computation names one of the fields. -/
def Avoids (fields : List String) (outcome : Except PyError α) : Prop :=
  ∀ error, outcome = .error error → ¬ error.Names fields

/-- Names of fields of one model: there is one, and it is no path. -/
def FieldNames (fields : List String) : Prop := ∀ field ∈ fields, field ≠ "" ∧ '.' ∉ field.toList

theorem avoids_ok (value : α) : Avoids fields (.ok value) := fun _ h => nomatch h

theorem avoids_error {error : PyError} (h : ¬ error.Names fields) :
    Avoids fields (.error error : Except PyError α) := by
  rintro _ ⟨⟩
  exact h

/-- The second part may use what the first one returned. -/
theorem avoids_bind_ok {x : Except PyError α} {next : α → Except PyError β} (hx : Avoids fields x)
    (hnext : ∀ value, x = .ok value → Avoids fields (next value)) : Avoids fields (x >>= next) := by
  cases x with
  | error error => exact avoids_error (hx error rfl)
  | ok value => exact hnext value rfl

theorem avoids_bind {x : Except PyError α} {next : α → Except PyError β} (hx : Avoids fields x)
    (hnext : ∀ value, Avoids fields (next value)) : Avoids fields (x >>= next) :=
  avoids_bind_ok hx fun value _ => hnext value

/-- Two branches that go on in the same way. -/
theorem avoids_either {condition : Prop} [Decidable condition] {x y : Except PyError α}
    {next : α → Except PyError β} (hx : Avoids fields x) (hy : Avoids fields y)
    (hnext : ∀ value, Avoids fields (next value)) :
    Avoids fields (if condition then x >>= next else y >>= next) := by
  split
  · exact avoids_bind hx hnext
  · exact avoids_bind hy hnext

theorem avoids_map {x : Except PyError α} {f : α → β} (hx : Avoids fields x) :
    Avoids fields (f <$> x) := by
  cases x with
  | error error => exact avoids_error (hx error rfl)
  | ok value => exact avoids_ok _

theorem avoids_ensure {condition : Prop} [Decidable condition] {error : PyError}
    (h : ¬ error.Names fields) : Avoids fields (ensure condition error) := by
  unfold ensure
  split
  · exact avoids_ok _
  · exact avoids_error h

theorem avoids_checked {check : α → Except PyError Unit} {x : α} (h : Avoids fields (check x)) :
    Avoids fields (checked check x) := by
  unfold checked
  split
  · exact avoids_ok _
  · exact avoids_error (h _ ‹_›)

theorem avoids_mapM {f : α → Except PyError β} (h : ∀ x, Avoids fields (f x)) (values : List α) :
    Avoids fields (values.mapM f) := by
  induction values with
  | nil => exact avoids_ok _
  | cons x rest ih =>
      rw [List.mapM_cons]
      exact avoids_bind (h x) fun _ => avoids_bind ih fun _ => avoids_ok _

theorem not_names_valueError {message : String} : ¬ (PyError.valueError message).Names fields :=
  fun ⟨_, _, _, heq⟩ => nomatch heq

section Located

variable (hfields : FieldNames fields)
include hfields

/-- What a model rejects as a whole names no field. -/
theorem not_names_reject {message : String} : ¬ (reject message).Names fields := by
  rintro ⟨field, hmem, _, heq⟩
  exact (hfields field hmem).1 (PyError.validationError.inj heq).1.symm

theorem avoids_rejecting {condition : Prop} [Decidable condition] {message : String} :
    Avoids fields (ensure condition (reject message)) := avoids_ensure (not_names_reject hfields)

theorem names_locate {name : String} {error : PyError} (h : (locate name error).Names fields) :
    name ∈ fields := by
  obtain ⟨field, hmem, message, heq⟩ := h
  unfold locate at heq
  split at heq
  · obtain ⟨hfield, -⟩ := PyError.validationError.inj heq
    split at hfield
    · exact hfield ▸ hmem
    -- A path inside the field has a dot.
    · refine absurd ?_ (hfields field hmem).2
      rw [← hfield]
      simp
  · exact (PyError.validationError.inj heq).1 ▸ hmem
  · rename_i hother _
    exact absurd heq (hother field message)

theorem avoids_locate {name : String} (hname : name ∉ fields) (x : Except PyError α) :
    Avoids fields (x.mapError (locate name)) := by
  cases x with
  | error error => exact avoids_error fun h => hname (names_locate hfields h)
  | ok value => exact avoids_ok _

theorem avoids_validate {name : String} (hname : name ∉ fields) (check : α → Except PyError Unit)
    (x : α) : Avoids fields (validate name check x) := avoids_locate hfields hname _

theorem avoids_validateOption {name : String} (hname : name ∉ fields)
    (check : α → Except PyError Unit) (x : Option α) :
    Avoids fields (validateOption name check x) := by
  cases x with
  | none => exact avoids_ok _
  | some x => exact avoids_map (avoids_validate hfields hname check x)

end Located

/-- A field that is accepted is not refused. -/
theorem avoids_validate_of_ok {name : String} {check : α → Except PyError Unit} {x : α}
    (h : check x = .ok ()) : Avoids fields (validate name check x) := by
  rw [validate_of_ok h]
  exact avoids_ok _

/-! ## Canonical texts -/

theorem avoids_enterNode (path : String) (depth : ℕ) (budget : ℤ) :
    Avoids fields (enterNode path depth budget) :=
  avoids_bind (avoids_ensure not_names_valueError) fun _ =>
    avoids_bind (avoids_ensure not_names_valueError) fun _ => avoids_ok _

mutual

theorem avoids_validateJsonValue (path : String) (depth : ℕ) (budget : ℤ) :
    (value : Json) → Avoids fields (validateJsonValue P path depth budget value)
  | .null => avoids_enterNode path depth budget
  | .bool _ => avoids_enterNode path depth budget
  | .int _ => by
      refine avoids_bind (avoids_enterNode path depth budget) fun _ => ?_
      exact avoids_bind (avoids_ensure not_names_valueError) fun _ => avoids_ok _
  | .str _ => by
      refine avoids_bind (avoids_enterNode path depth budget) fun _ => ?_
      exact avoids_bind (avoids_ensure not_names_valueError) fun _ => avoids_ok _
  | .arr items => avoids_bind (avoids_enterNode path depth budget) fun _ =>
      avoids_validateItems path (depth + 1) _ 0 items
  | .obj entries => avoids_bind (avoids_enterNode path depth budget) fun _ =>
      avoids_validateFields path (depth + 1) _ [] entries

theorem avoids_validateItems (path : String) (depth : ℕ) (budget : ℤ) (index : ℕ) :
    (items : List Json) → Avoids fields (validateItems P path depth budget index items)
  | [] => avoids_ok _
  | x :: rest => avoids_bind (avoids_validateJsonValue _ depth budget x) fun _ =>
      avoids_validateItems path depth _ (index + 1) rest

theorem avoids_validateFields (path : String) (depth : ℕ) (budget : ℤ) (seen : List String) :
    (entries : List (String × Json)) → Avoids fields (validateFields P path depth budget seen entries)
  | [] => avoids_ok _
  | (key, value) :: rest => by
      refine avoids_bind (avoids_ensure not_names_valueError) fun _ => ?_
      refine avoids_bind (avoids_ensure not_names_valueError) fun _ => ?_
      exact avoids_bind (avoids_validateJsonValue _ depth budget value) fun _ =>
        avoids_validateFields path depth _ _ rest

end

theorem avoids_canonicalJson (value : Json) : Avoids fields (canonicalJson P value) :=
  avoids_bind (avoids_validateJsonValue _ _ _ _) fun _ =>
    avoids_bind (avoids_ensure not_names_valueError) fun _ => avoids_ok _

theorem avoids_canonicalJsonBytes (value : Json) : Avoids fields (canonicalJsonBytes P value) :=
  avoids_bind (avoids_canonicalJson value) fun _ => avoids_ok _

theorem avoids_domainHash (domain : String) (value : Json) :
    Avoids fields (domainHash P domain value) :=
  avoids_bind (avoids_canonicalJsonBytes value) fun _ => avoids_ok _

theorem avoids_signingMessage (domain digest : String) :
    Avoids fields (signingMessage domain digest) :=
  avoids_bind (avoids_ensure not_names_valueError) fun _ => avoids_ok _

theorem avoids_formatUtcTimestamp (time : Datetime) : Avoids fields (formatUtcTimestamp time) := by
  cases time with
  | aware utc => exact avoids_ok _
  | naive => exact avoids_error not_names_valueError

/-! ## Envelopes -/

section Envelopes

variable {F : Sealing β}

theorem avoids_verify (x : Sealed P F) (key : Ed25519PublicKey) : Avoids fields (x.verify key) :=
  avoids_bind (avoids_ensure not_names_valueError) fun _ =>
    avoids_bind (avoids_signingMessage _ _) fun _ => avoids_ensure not_names_valueError

variable (hfields : FieldNames fields)
include hfields

theorem avoids_sign (hname : F.hashName ∉ fields) (body : β) (privateKey : Bytes) :
    Avoids fields (Sealed.sign F body privateKey : Except PyError (Sealed P F)) := by
  have hempty : "" ∉ fields := fun hmem => (hfields "" hmem).1 rfl
  refine avoids_bind (avoids_domainHash _ _) fun digest => ?_
  refine avoids_bind (avoids_signingMessage _ _) fun message => ?_
  refine avoids_bind ?_ fun signature => ?_
  · unfold Ed25519Signature.fromBytes
    split
    · exact avoids_ok _
    · exact avoids_error not_names_valueError
  refine avoids_bind (avoids_validate hfields hname _ _) fun digest => ?_
  refine avoids_map (avoids_checked (avoids_bind (avoids_locate hfields hempty _) fun _ => ?_))
  exact avoids_bind (avoids_rejecting hfields) fun _ => avoids_rejecting hfields

/-! ## Bodies -/

omit hfields in
/-- A check that only rejects the model as a whole. -/
theorem avoids_make {check : α → Except PyError Unit} {x : α} {f : { x // check x = .ok () } → β}
    (h : Avoids fields (check x)) : Avoids fields (f <$> checked check x) :=
  avoids_map (avoids_checked h)

theorem avoids_decisionBody (body : DecisionBodyFields) :
    Avoids fields (DecisionBody.make body) := by
  refine avoids_make ?_
  unfold DecisionBodyFields.capabilityMatchesVerdict
  split
  · iterate 3 refine avoids_bind (avoids_rejecting hfields) fun _ => ?_
    exact avoids_rejecting hfields
  · exact avoids_bind (avoids_rejecting hfields) fun _ => avoids_rejecting hfields

theorem avoids_killAcknowledgementBody (body : KillAcknowledgementBodyFields) :
    Avoids fields (KillAcknowledgementBody.make body) := by
  refine avoids_make ?_
  unfold KillAcknowledgementBodyFields.timingIsCoherent
  iterate 7 refine avoids_bind (avoids_rejecting hfields) fun _ => ?_
  split
  · iterate 2 refine avoids_bind (avoids_rejecting hfields) fun _ => ?_
    exact avoids_rejecting hfields
  · exact avoids_bind (avoids_rejecting hfields) fun _ => avoids_rejecting hfields

theorem avoids_witnessCheckpointBody (body : WitnessCheckpointBodyFields) :
    Avoids fields (WitnessCheckpointBody.make body) :=
  avoids_make (avoids_bind (avoids_rejecting hfields) fun _ => avoids_rejecting hfields)

theorem avoids_receiptBody (body : ReceiptBodyFields P) : Avoids fields (ReceiptBody.make body) := by
  refine avoids_make ?_
  unfold ReceiptBodyFields.receiptIsCoherent
  iterate 2 refine avoids_bind (avoids_rejecting hfields) fun _ => ?_
  refine avoids_either (avoids_rejecting hfields) (avoids_rejecting hfields) fun _ => ?_
  iterate 5 refine avoids_bind (avoids_rejecting hfields) fun _ => ?_
  refine avoids_either (avoids_rejecting hfields) (avoids_rejecting hfields) fun _ => ?_
  cases body.killAcknowledgement with
  | none => exact avoids_bind (avoids_ok _) fun _ => avoids_rejecting hfields
  | some ack =>
      refine avoids_bind (avoids_bind (avoids_rejecting hfields) fun _ => ?_) fun _ =>
        avoids_rejecting hfields
      exact avoids_bind (avoids_rejecting hfields) fun _ => avoids_rejecting hfields

/-! ## Events -/

/-- An event avoids the names of its other fields, and its reading if it is in range. -/
theorem avoids_event (hnames : ∀ name ∈ ["sequence", "request_id", "payload_canonical_json",
      "payload_sha256", "event_hash"], name ∉ fields) {payload : Json} {runId : OpaqueId}
    {manifestHash : Sha256Hex} {sequence : ℕ} {previousEventHash : Sha256Hex} {kind : EventKind}
    {producer : OpaqueId} {observedAt : UtcTimestamp} {monotonicNs : ℤ}
    {requestId : Option String} (hrange : intRange 0 maxSafeInteger monotonicNs = .ok ()) :
    Avoids fields (Event.create payload runId manifestHash sequence previousEventHash kind producer
      observedAt monotonicNs requestId : Except PyError (Event P)) := by
  have hempty : "" ∉ fields := fun hmem => (hfields "" hmem).1 rfl
  refine avoids_bind (avoids_canonicalJson _) fun payloadJson => ?_
  refine avoids_bind (avoids_validate hfields (hnames _ (by simp)) _ _) fun number => ?_
  refine avoids_bind (avoids_validateOption hfields (hnames _ (by simp)) _ _) fun request => ?_
  refine avoids_bind (avoids_validate_of_ok hrange) fun reading => ?_
  refine avoids_bind (avoids_validate hfields (hnames _ (by simp)) _ _) fun payloadText => ?_
  refine avoids_bind (avoids_validate hfields (hnames _ (by simp)) _ _) fun digest => ?_
  refine avoids_bind (avoids_checked ?_) fun body => ?_
  · iterate 2 refine avoids_bind (avoids_rejecting hfields) fun _ => ?_
    exact avoids_rejecting hfields
  refine avoids_bind (avoids_domainHash _ _) fun eventHash => ?_
  refine avoids_bind (avoids_validate hfields (hnames _ (by simp)) _ _) fun eventHash => ?_
  refine avoids_bind (avoids_checked ?_) fun event => avoids_ok _
  exact avoids_bind (avoids_locate hfields hempty _) fun _ => avoids_rejecting hfields

end Envelopes

end Containment
