/-
# The write-ahead log

A ledger with a log writes the line of an event to the file before it appends the event to
its list. Opening, writing and syncing the file can fail, and the write may have put a part
of the line into the file by then. Nothing takes these octets back, and the next line is
written behind them. The file agrees with the list exactly as long as every call writes the
whole line and returns, or writes nothing and raises.
-/

import Containment.Runtime.LedgerRuns

namespace Containment

open Json

variable {P : Platform}

/-! ## The file -/

/-- What the operating system answers during an append. The write puts this many octets of
the line into the file, at most all of them, whether it raises or not. -/
structure FileAnswer where
  openFault : Option PyError
  written : ℕ
  writeFault : Option PyError
  syncFault : Option PyError

/-- A call of `append` on a ledger with a log. -/
structure DurableAppend where
  clocks : Clocks
  kind : EventKind
  payload : Json
  requestId : Option String
  monotonicNs : Option ℤ
  answer : FileAnswer

structure DurableLedger (P : Platform) where
  ledger : EvidenceLedger P
  file : Bytes

namespace DurableLedger

/-- The log is new and empty. -/
def start : DurableLedger P := ⟨.start, []⟩

/-- The line that is written for an event. -/
def line (event : Event P) : Except PyError Bytes := do
  return (← event.canonicalBytes) ++ [10]

/-- `canonical_jsonl_bytes`. -/
def canonicalJsonlBytes : List (Event P) → Except PyError Bytes
  | [] => .ok []
  | event :: rest => do
      let first ← line event
      return first ++ (← canonicalJsonlBytes rest)

/-- The event of the call and its line, before the file is touched. -/
def prepare (config : LedgerConfig P) (ledger : EvidenceLedger P) (call : DurableAppend) :
    Except PyError (Event P × Bytes) := do
  let event ← ledger.append config call.clocks call.kind call.payload call.requestId
    call.monotonicNs none
  return (event, ← line event)

/-- The block that opens the file, writes, flushes and syncs: what is in the file
afterwards, and what it raises. -/
def writeLine (file encoded : Bytes) (answer : FileAnswer) : Bytes × Except PyError Unit :=
  match answer.openFault with
  | some error => (file, .error error)
  | none =>
      (file ++ encoded.take answer.written,
        (answer.writeFault.or answer.syncFault).elim (.ok ()) .error)

/-- `append` with a log. -/
def append (config : LedgerConfig P) (durable : DurableLedger P) (call : DurableAppend) :
    DurableLedger P × Except PyError (Event P) :=
  match prepare config durable.ledger call with
  | .error error => (durable, .error error)
  | .ok (event, encoded) =>
      match writeLine durable.file encoded call.answer with
      | (file, .error error) => (⟨durable.ledger, file⟩, .error error)
      | (file, .ok ()) =>
          (⟨{ durable.ledger with events := durable.ledger.events ++ [event] }, file⟩, .ok event)

def after (config : LedgerConfig P) (durable : DurableLedger P) (calls : List DurableAppend) :
    DurableLedger P :=
  calls.foldl (fun durable call => (durable.append config call).1) durable

/-- The file is the list, line by line, and no sequence number appears twice. -/
structure Agreement (durable : DurableLedger P) : Prop where
  contents : canonicalJsonlBytes durable.ledger.events = .ok durable.file
  distinct : durable.ledger.events.Pairwise fun event event' =>
    event.body.sequence ≠ event'.body.sequence

/-- The call writes the whole line and returns, or writes nothing and raises. A call that does
not come as far as the file is not restricted. -/
def Untorn (config : LedgerConfig P) (durable : DurableLedger P) (call : DurableAppend) : Prop :=
  ∀ event encoded, prepare config durable.ledger call = .ok (event, encoded) →
    call.answer.openFault = none →
    if call.answer.writeFault.or call.answer.syncFault = none
      then encoded.length ≤ call.answer.written
      else call.answer.written = 0

variable {config : LedgerConfig P} {durable : DurableLedger P}

/-! ## One call -/

theorem canonicalJsonlBytes_snoc {events : List (Event P)} {event : Event P} {file encoded : Bytes}
    (h : canonicalJsonlBytes events = .ok file) (hline : line event = .ok encoded) :
    canonicalJsonlBytes (events ++ [event]) = .ok (file ++ encoded) := by
  induction events generalizing file with
  | nil =>
      obtain rfl := Except.ok.inj h
      simp only [List.nil_append, canonicalJsonlBytes, hline, except_ok_bind, except_pure,
        List.append_nil]
  | cons first rest ih =>
      simp only [canonicalJsonlBytes, bind_eq_ok, except_pure, Except.ok.injEq] at h
      obtain ⟨head, hhead, tail, htail, rfl⟩ := h
      simp only [List.cons_append, canonicalJsonlBytes, hhead, ih htail, except_ok_bind,
        except_pure, List.append_assoc]

theorem line_of_prepare {ledger : EvidenceLedger P} {call : DurableAppend} {event : Event P}
    {encoded : Bytes} (h : prepare config ledger call = .ok (event, encoded)) :
    ledger.append config call.clocks call.kind call.payload call.requestId call.monotonicNs none =
      .ok event ∧ line event = .ok encoded ∧ encoded ≠ [] := by
  simp only [prepare, bind_eq_ok, except_pure, Except.ok.injEq, Prod.mk.injEq] at h
  obtain ⟨event', hevent, encoded', hline, rfl, rfl⟩ := h
  refine ⟨hevent, hline, ?_⟩
  simp only [line, bind_eq_ok, except_pure, Except.ok.injEq] at hline
  obtain ⟨_, -, rfl⟩ := hline
  exact List.append_ne_nil_of_right_ne_nil _ (List.cons_ne_nil _ _)

/-- What a call can do: raise before the file is touched, raise behind a part of the line, or
append the event behind a part of the line. -/
theorem append_cases (config : LedgerConfig P) (durable : DurableLedger P) (call : DurableAppend) :
    ((durable.append config call).1 = durable ∧ Untorn config durable call) ∨
    ∃ event encoded, prepare config durable.ledger call = .ok (event, encoded) ∧
      call.answer.openFault = none ∧
      ((call.answer.writeFault.or call.answer.syncFault ≠ none ∧
          (durable.append config call).1 =
            ⟨durable.ledger, durable.file ++ encoded.take call.answer.written⟩) ∨
        (call.answer.writeFault.or call.answer.syncFault = none ∧
          (durable.append config call).1 =
            ⟨{ durable.ledger with events := durable.ledger.events ++ [event] },
              durable.file ++ encoded.take call.answer.written⟩)) := by
  unfold append
  cases hprepare : prepare config durable.ledger call with
  | error error =>
      refine .inl ⟨rfl, fun event encoded hok => ?_⟩
      rw [hprepare] at hok
      cases hok
  | ok prepared =>
      obtain ⟨event, encoded⟩ := prepared
      cases hopen : call.answer.openFault with
      | some error =>
          refine .inl ⟨by simp only [writeLine, hopen], fun _ _ _ hnone => ?_⟩
          rw [hopen] at hnone
          cases hnone
      | none =>
          refine .inr ⟨event, encoded, rfl, rfl, ?_⟩
          cases hfault : call.answer.writeFault.or call.answer.syncFault with
          | some error =>
              exact .inl ⟨by simp, by simp only [writeLine, hopen, hfault, Option.elim_some]⟩
          | none => exact .inr ⟨rfl, by simp only [writeLine, hopen, hfault, Option.elim_none]⟩

theorem take_eq_self_iff {encoded file : Bytes} {n : ℕ} :
    file ++ encoded.take n = file ++ encoded ↔ encoded.length ≤ n := by
  rw [List.append_cancel_left_eq, List.take_eq_self_iff]

theorem append_take_eq_iff {encoded file : Bytes} {n : ℕ} (hne : encoded ≠ []) :
    file ++ encoded.take n = file ↔ n = 0 := by
  rw [List.append_right_eq_self, List.take_eq_nil_iff]
  exact or_iff_left hne

/-- The step lemma: a call keeps the file and the list together exactly when it is not torn. -/
theorem contents_append_iff
    (h : canonicalJsonlBytes durable.ledger.events = .ok durable.file) (call : DurableAppend) :
    canonicalJsonlBytes (durable.append config call).1.ledger.events =
      .ok (durable.append config call).1.file ↔ Untorn config durable call := by
  rcases append_cases config durable call with ⟨heq, huntorn⟩ |
    ⟨event, encoded, hprepare, hopen, hcase⟩
  · rw [heq]
    exact ⟨fun _ => huntorn, fun _ => h⟩
  · obtain ⟨-, hline, hne⟩ := line_of_prepare hprepare
    -- Whether the call is torn can be read off its own line.
    have huntorn : Untorn config durable call ↔
        if call.answer.writeFault.or call.answer.syncFault = none
          then encoded.length ≤ call.answer.written
          else call.answer.written = 0 := by
      constructor
      · exact fun hall => hall event encoded hprepare hopen
      · intro hone event' encoded' hprepare' _
        obtain ⟨-, rfl⟩ := Prod.mk.inj (Except.ok.inj (hprepare.symm.trans hprepare'))
        exact hone
    rcases hcase with ⟨hfault, heq⟩ | ⟨hfault, heq⟩
    · rw [heq, huntorn, if_neg hfault, ← append_take_eq_iff hne, h, Except.ok.injEq]
      exact eq_comm
    · rw [heq, huntorn, if_pos hfault, ← take_eq_self_iff, canonicalJsonlBytes_snoc h hline,
        Except.ok.injEq]
      exact eq_comm

/-- The list of a ledger with a log is a hash chain like any other. -/
theorem linked_append (h : EvidenceLedger.Linked durable.ledger.events) (call : DurableAppend) :
    EvidenceLedger.Linked (durable.append config call).1.ledger.events := by
  rcases append_cases config durable call with ⟨heq, -⟩ |
    ⟨event, encoded, hprepare, -, ⟨-, heq⟩ | ⟨-, heq⟩⟩
  · rw [heq]
    exact h
  · rw [heq]
    exact h
  · rw [heq]
    obtain ⟨happend, -, -⟩ := line_of_prepare hprepare
    obtain ⟨-, -, hsequence, hprevious, -⟩ := append_links happend
    exact h.snoc hsequence hprevious

/-! ## Every sequence of calls -/

theorem after_concat (calls : List DurableAppend) (call : DurableAppend) :
    durable.after config (calls ++ [call]) =
      ((durable.after config calls).append config call).1 := by
  rw [after, after, List.foldl_append, List.foldl_cons, List.foldl_nil]

theorem linked_after (calls : List DurableAppend) :
    EvidenceLedger.Linked ((start : DurableLedger P).after config calls).ledger.events := by
  induction calls using List.reverseRecOn with
  | nil => exact .nil
  | append_singleton calls call ih =>
      rw [after_concat]
      exact linked_append ih call

/-- Numbers that are places are distinct. -/
theorem distinct_of_linked {events : List (Event P)} (h : EvidenceLedger.Linked events) :
    events.Pairwise fun event event' => event.body.sequence ≠ event'.body.sequence := by
  rw [List.pairwise_iff_getElem]
  intro i j hi hj hlt hsame
  have hplace := h.index_eq (List.getElem?_eq_getElem hi)
  have hplace' := h.index_eq (List.getElem?_eq_getElem hj)
  rw [hsame, hplace'] at hplace
  omega

/-- The run lemma, from left to right. -/
theorem contents_after {calls : List DurableAppend}
    (h : ∀ earlier call later, calls = earlier ++ call :: later →
      Untorn config ((start : DurableLedger P).after config earlier) call) :
    canonicalJsonlBytes ((start : DurableLedger P).after config calls).ledger.events =
      .ok ((start : DurableLedger P).after config calls).file := by
  induction calls using List.reverseRecOn with
  | nil => rfl
  | append_singleton calls call ih =>
      rw [after_concat]
      refine (contents_append_iff (ih fun earlier call' later heq => ?_) call).mpr
        (h calls call [] rfl)
      exact h earlier call' (later ++ [call]) (by rw [heq]; simp)

end DurableLedger

/-- The file and the list agree after every call of a sequence exactly when no call of it is
torn. -/
theorem durable_agreement_iff {P : Platform} (config : LedgerConfig P) (calls : List DurableAppend) :
    (∀ earlier later, calls = earlier ++ later →
      DurableLedger.Agreement ((DurableLedger.start : DurableLedger P).after config earlier)) ↔
    ∀ earlier call later, calls = earlier ++ call :: later →
      DurableLedger.Untorn config ((DurableLedger.start : DurableLedger P).after config earlier)
        call := by
  constructor
  · intro h earlier call later heq
    have hbefore := (h earlier (call :: later) heq).contents
    have hafter := (h (earlier ++ [call]) later (by rw [heq]; simp)).contents
    rw [DurableLedger.after_concat] at hafter
    exact (DurableLedger.contents_append_iff hbefore call).mp hafter
  · intro h earlier later heq
    refine ⟨DurableLedger.contents_after fun first call rest hsplit => ?_,
      DurableLedger.distinct_of_linked (DurableLedger.linked_after earlier)⟩
    exact h first call (rest ++ later) (by rw [heq, hsplit]; simp)

/-- The first octet of a line reaches the file, and then the disk is full. -/
theorem torn_line : ¬ ∀ (P : Platform) (config : LedgerConfig P) (calls : List DurableAppend),
    DurableLedger.Agreement ((DurableLedger.start : DurableLedger P).after config calls) := by
  intro hclaim
  obtain ⟨manifest, -⟩ := Reference.exists_signed
  have hreason : opaqueIdCheck "operator.injected" = .ok () := by decide
  have hfits := (Reference.fits_reasonPayload hreason).mono le_rfl (show 1000 ≤ 100000 by decide)
  have hnone : ∀ id ∈ (none : Option String), opaqueIdCheck id = .ok () := fun _ h => nomatch h
  obtain ⟨event, happend⟩ := Reference.exists_append (Reference.world 5) none ⟨5, by decide⟩
    (Reference.healthy_init manifest 5) hfits hnone rfl rfl rfl .violation
  obtain ⟨-, -, -, -, -, encoded, hencoded⟩ := append_links happend
  let call : DurableAppend := ⟨(Reference.world 5).toClocks, .violation,
    Supervisor.reasonPayload "operator.injected", none, none,
    ⟨none, 1, some (.osError "No space left on device"), none⟩⟩
  have hprepare : DurableLedger.prepare (Reference.deployment manifest).ledgerConfig .start call =
      .ok (event, encoded ++ [10]) := by
    refine bind_eq_ok.mpr ⟨event, happend, ?_⟩
    rw [DurableLedger.line, hencoded]
    rfl
  have hcontents := (hclaim _ (Reference.deployment manifest).ledgerConfig [call]).contents
  have huntorn := (DurableLedger.contents_append_iff rfl call).mp hcontents event _ hprepare rfl
  simp [call] at huntorn

end Containment
