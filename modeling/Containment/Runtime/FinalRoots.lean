/-
# The roots of a receipt

A receipt takes its roots from the mirror, after the ledger was sealed under another lock. A
commit holds the ledger's lock from the append to the observation, so at the seal the two
stores agree if no observation has raised, and behind it neither changes again. The receipt
lock lets one thread at a time look for a stored receipt and store one. So the first receipt
is the only one, and its roots are those of the ledger from then on.
-/

import Containment.Concurrency.Threads
import Containment.Runtime.Counting
import Containment.Runtime.ReceiptStatus
import Containment.Runtime.WriteAhead

namespace Containment

open Json Concurrency Discipline

variable {P : Platform}

/-- `evidence_digest`. -/
def EvidenceLedger.evidenceDigest (ledger : EvidenceLedger P) : Except PyError String := do
  return P.sha256Hex (← DurableLedger.canonicalJsonlBytes ledger.events)

/-- The receipt names the roots of the ledger. -/
structure NamesRoots (receipt : Receipt P) (ledger : EvidenceLedger P) : Prop where
  count : receipt.body.eventCount.1 = ledger.events.length
  first : receipt.body.firstEventHash = ledger.events.head?.map Event.eventHash
  final : receipt.body.finalEventHash = ledger.events.getLast?.map Event.eventHash
  evidence : ledger.evidenceDigest = .ok receipt.body.evidenceFileSha256.1

/-- What `receipt()` answers once this receipt is stored. -/
def AnswersWith (receipt : Receipt P) (status : Option RunStatus)
    (outcome : Except PyError (Reply P)) : Prop :=
  outcome = if ∀ requested ∈ status, requested = receipt.body.status
    then .ok (.receipted receipt)
    else .error (.valueError "receipt status conflicts with frozen receipt")

/-- What a reachable configuration shows of its receipt, now and at every later time. -/
structure RootsFinal {d : Deployment P} (c : Config (runtimeService d)) : Prop where
  /-- What a call has returned is stored. -/
  issued : ∀ t call receipt, c.running t = some (call, .ret (.receipted receipt)) →
    c.shared.receipt = some receipt
  final : ∀ receipt, c.shared.receipt = some receipt → ∀ c',
    Relation.ReflTransGen (Step (refusedBeforeAppending d)) c c' →
      c'.shared.receipt = some receipt ∧ c'.shared.ledger = c.shared.ledger ∧
      NamesRoots receipt c'.shared.ledger ∧
      /- A call of `receipt()` that begins later, and has ended. -/
      ∀ t status outcome, c.running t = none →
        c'.running t = some (.receipt status, .ofExcept outcome) →
        AnswersWith receipt status outcome

namespace FinalRoots

variable {d : Deployment P} {env : World} {t : ℕ} {s s' : Runtime P}

/-- The receipt names the roots of the mirror. -/
structure MirrorRoots (receipt : Receipt P) (mirror : EvidenceMirror) : Prop where
  count : receipt.body.eventCount.1 = mirror.count
  first : receipt.body.firstEventHash = mirror.firstHash
  final : receipt.body.finalEventHash = mirror.finalHash
  evidence : receipt.body.evidenceFileSha256.1 = P.sha256Hex mirror.digest

/-- What holds at all times. -/
structure Inv (s : Runtime P) : Prop where
  agrees : Agrees s.ledger.events s.mirror
  stored : ∀ receipt, s.receipt = some receipt →
    s.ledger.isSealed = true ∧ MirrorRoots receipt s.mirror

/-- A receipt is stored by the holder of the lock, when there is none. -/
def Ready (t : ℕ) (s : Runtime P) : Op P → Prop
  | .storeReceipt receipt => s.receiptLock = some t ∧ s.receipt = none ∧
      s.ledger.isSealed = true ∧ MirrorRoots receipt s.mirror
  | _ => True

structure Rely (t : ℕ) (s s' : Runtime P) : Prop where
  isSealed : s.ledger.isSealed = true → s'.ledger = s.ledger ∧ s'.mirror = s.mirror
  stored : ∀ receipt, s.receipt = some receipt → s'.receipt = some receipt
  locked : s.receiptLock = some t → s'.receiptLock = some t ∧ s'.receipt = s.receipt

/-! ## One operation -/

theorem agrees_exec {op : Op P} {r : op.Res} (h : Agrees s.ledger.events s.mirror)
    (hmove : (refusedBeforeAppending d).moves s op env) (hexec : exec d env t s op = some (s', r)) :
    Agrees s'.ledger.events s'.mirror := by
  by_cases hcommit : ∃ kind payload requestId ns, op = .commit kind payload requestId ns
  · obtain ⟨kind, payload, requestId, ns, rfl⟩ := hcommit
    simp only [exec, Option.some.injEq] at hexec
    rcases commit_cases d env s kind payload requestId ns with ⟨_, heq⟩ |
      ⟨event, mirrored, _, mirror, happend, hmirror, heq⟩
    · rw [heq, Prod.mk.injEq] at hexec
      obtain ⟨rfl, -⟩ := hexec
      exact h
    · obtain ⟨observed, hobserve⟩ := hmove _ _ _ _ event rfl happend
      rw [heq, Prod.mk.injEq] at hexec
      obtain ⟨rfl, -⟩ := hexec
      cases mirrored with
      | true => exact h.snoc hmirror.1
      | false =>
          obtain ⟨-, error, herror, -⟩ := hmirror
          rw [hobserve] at herror
          cases herror
  · simp only [not_exists] at hcommit
    by_cases hseal : op = .seal
    · subst hseal
      simp only [exec, Option.some.injEq, Prod.mk.injEq] at hexec
      obtain ⟨rfl, -⟩ := hexec
      exact h
    · obtain ⟨hledger, hmirror⟩ := ReceiptCounts.ledger_exec hexec hcommit hseal
      rw [hledger, hmirror]
      exact h

theorem inv_exec {op : Op P} {r : op.Res} (h : Inv s) (hready : Ready t s op)
    (hmove : (refusedBeforeAppending d).moves s op env) (hexec : exec d env t s op = some (s', r)) :
    Inv s' := by
  refine ⟨agrees_exec h.agrees hmove hexec, fun receipt hreceipt => ?_⟩
  have hkeep (hsealed : s.ledger.isSealed = true) (hroots : MirrorRoots receipt s.mirror) :
      s'.ledger.isSealed = true ∧ MirrorRoots receipt s'.mirror := by
    obtain ⟨hledger, hmirror⟩ := ReceiptStatus.sealed_exec hexec hsealed
    rw [hledger, hmirror]
    exact ⟨hsealed, hroots⟩
  by_cases hstore : ∃ receipt', op = .storeReceipt receipt'
  · obtain ⟨receipt', rfl⟩ := hstore
    obtain ⟨-, -, hsealed, hroots⟩ := hready
    have hstored : s'.receipt = some receipt' := by
      simp only [exec, Option.some.injEq, Prod.mk.injEq] at hexec
      rw [← hexec.1]
    obtain rfl : receipt' = receipt := Option.some.inj (hstored.symm.trans hreceipt)
    exact hkeep hsealed hroots
  · simp only [not_exists] at hstore
    rw [ReceiptStatus.receipt_exec hexec hstore] at hreceipt
    obtain ⟨hsealed, hroots⟩ := h.stored receipt hreceipt
    exact hkeep hsealed hroots

theorem rely_exec {op : Op P} {r : op.Res} (hready : Ready t s op)
    (hexec : exec d env t s op = some (s', r)) {u : ℕ} (hu : u ≠ t) : Rely u s s' := by
  by_cases hstore : ∃ receipt', op = .storeReceipt receipt'
  · obtain ⟨receipt', rfl⟩ := hstore
    obtain ⟨hlock, hnone, -⟩ := hready
    refine ⟨ReceiptStatus.sealed_exec hexec, fun receipt hreceipt => ?_, fun hmine => ?_⟩
    · rw [hnone] at hreceipt
      cases hreceipt
    · exact absurd (Option.some.inj (hmine.symm.trans hlock)) hu
  · simp only [not_exists] at hstore
    have hsame := ReceiptStatus.receipt_exec hexec hstore
    exact ⟨ReceiptStatus.sealed_exec hexec, fun receipt hreceipt => hsame.trans hreceipt,
      fun hmine => ⟨ReceiptCounts.receiptLock_exec hexec hu hmine, hsame⟩⟩

variable (d) in
def discipline : Discipline (refusedBeforeAppending d) where
  inv := Inv
  ready := Ready
  rely := Rely
  rely_refl _ _ := ⟨fun _ => ⟨rfl, rfl⟩, fun _ h => h, fun h => ⟨h, rfl⟩⟩
  rely_trans h h' := ⟨fun hsealed => by
      obtain ⟨hledger, hmirror⟩ := h.isSealed hsealed
      obtain ⟨hledger', hmirror'⟩ := h'.isSealed (by rw [hledger]; exact hsealed)
      exact ⟨hledger'.trans hledger, hmirror'.trans hmirror⟩,
    fun receipt hreceipt => h'.stored receipt (h.stored receipt hreceipt),
    fun hlock => by
      obtain ⟨hlock₁, hsame⟩ := h.locked hlock
      obtain ⟨hlock₂, hsame'⟩ := h'.locked hlock₁
      exact ⟨hlock₂, hsame'.trans hsame⟩⟩
  act_inv h hready hmove hexec := inv_exec h hready hmove hexec
  act_rely _ hready _ hexec _ hu := rely_exec hready hexec hu

/-! ## The code of the receipt -/

/-- What a receipt has from the mirror. -/
theorem roots_of_receiptBody {status : RunStatus} {state : RunState} {mirror : EvidenceMirror}
    {finishedAt : Datetime} {finishedNs : ℤ} {ack : Option (KillAcknowledgement P)}
    {checkpoint : WitnessCheckpoint P} {body : ReceiptBody P} {receipt : Receipt P}
    (h : Supervisor.receiptBody d status state mirror finishedAt finishedNs ack checkpoint =
      .ok body) (hsign : Sealed.sign (receiptSealing P) body d.supervisorKey = .ok receipt) :
    MirrorRoots receipt mirror := by
  simp only [Supervisor.receiptBody, bind_eq_ok] at h
  obtain ⟨_, -, _, -, _, -, _, -, eventCount, hevents, evidence, hevidence, _, -, _, -, _, -, _, -,
    _, -, _, -, _, -, _, -, _, -, hmake⟩ := h
  have hfields := ReceiptCounts.fields_of_receiptMake hmake
  have hreceipt : receipt.body = body := Sealed.body_of_sign hsign
  refine ⟨?_, ?_, ?_, ?_⟩
  · rw [hreceipt, congrArg ReceiptBodyFields.eventCount hfields]
    exact validate_eq_ok hevents
  · rw [hreceipt, congrArg ReceiptBodyFields.firstEventHash hfields]
  · rw [hreceipt, congrArg ReceiptBodyFields.finalEventHash hfields]
  · rw [hreceipt, congrArg ReceiptBodyFields.evidenceFileSha256 hfields]
    exact validate_eq_ok hevidence

/-- Operations that leave the receipt and its lock alone. -/
def Op.Inner : Op P → Prop
  | .storeReceipt _ | .acquireReceipt | .releaseReceipt => False
  | _ => True

theorem inner_exec {op : Op P} {r : op.Res} (hop : Op.Inner op)
    (h : exec d env t s op = some (s', r)) :
    s'.receiptLock = s.receiptLock ∧ s'.receipt = s.receipt := by
  refine ⟨?_, ReceiptStatus.receipt_exec h fun receipt heq => by rw [heq] at hop; exact hop⟩
  cases op
  all_goals try exact absurd hop id
  case commit kind payload requestId ns =>
    simp only [exec, Option.some.injEq] at h
    rcases commit_cases d env s kind payload requestId ns with ⟨_, heq⟩ |
      ⟨_, _, _, _, -, -, heq⟩ <;>
    · rw [heq, Prod.mk.injEq] at h
      obtain ⟨rfl, -⟩ := h
      rfl
  all_goals
    simp only [exec, onState_eq_some, Option.some.injEq, Prod.mk.injEq,
      Option.ite_none_right_eq_some] at h
  all_goals try split at h
  all_goals try split at h
  all_goals try simp only [Option.some.injEq, Prod.mk.injEq] at h
  all_goals
    first
    | (obtain ⟨rfl, -⟩ := h; rfl)
    | (obtain ⟨-, rfl, -⟩ := h; rfl)

/-- The thread has the lock and found no receipt. -/
structure Fresh (t : ℕ) (s : Runtime P) : Prop where
  locked : s.receiptLock = some t
  unstored : s.receipt = none

/-- In addition the ledger is sealed and perhaps the mirror read. -/
structure Closed (t : ℕ) (mirror : Option EvidenceMirror) (s : Runtime P) : Prop where
  fresh : Fresh t s
  isSealed : s.ledger.isSealed = true
  mirror : ∀ found ∈ mirror, s.mirror = found

theorem Fresh.rely (h : Fresh t s) (hrely : Rely t s s') : Fresh t s' := by
  obtain ⟨hlock, hsame⟩ := hrely.locked h.locked
  exact ⟨hlock, hsame.trans h.unstored⟩

theorem Fresh.exec {op : Op P} {r : op.Res} (h : Fresh t s) (hop : Op.Inner op)
    (hexec : exec d env t s op = some (s', r)) : Fresh t s' := by
  obtain ⟨hlock, hsame⟩ := inner_exec hop hexec
  exact ⟨hlock.trans h.locked, hsame.trans h.unstored⟩

theorem Closed.of_eq {mirror : Option EvidenceMirror} (h : Closed t mirror s) (hfresh : Fresh t s')
    (heq : s'.ledger = s.ledger ∧ s'.mirror = s.mirror) : Closed t mirror s' :=
  ⟨hfresh, by rw [heq.1]; exact h.isSealed, fun found hfound => by rw [heq.2]; exact h.mirror found hfound⟩

theorem Closed.rely {mirror : Option EvidenceMirror} (h : Closed t mirror s) (hrely : Rely t s s') :
    Closed t mirror s' :=
  h.of_eq (h.fresh.rely hrely) (hrely.isSealed h.isSealed)

theorem ready_of_inner {op : Op P} (h : Op.Inner op) : Ready t s op := by
  cases op <;> first | exact trivial | exact absurd h id

theorem safe_fresh {α : Type} {p : Prog P α} (hp : p.All Op.Inner) (h : Fresh t s) :
    (discipline d).Safe t (fun _ s => Fresh t s) p s :=
  safe_of_all (D := discipline d) (K := Fresh t) (fun hrely h => h.rely hrely)
    (fun hop _ _ => ready_of_inner hop) (fun hop _ hexec _ h => h.exec hop hexec) hp h

theorem safe_closed {α : Type} {p : Prog P α} {mirror : Option EvidenceMirror}
    (hp : p.All Op.Inner) (h : Closed t mirror s) :
    (discipline d).Safe t (fun _ s => Closed t mirror s) p s :=
  safe_of_all (D := discipline d) (K := Closed t mirror) (fun hrely h => h.rely hrely)
    (fun hop _ _ => ready_of_inner hop)
    (fun hop _ hexec _ h => h.of_eq (h.fresh.exec hop hexec) (ReceiptStatus.sealed_exec hexec h.isSealed))
    hp h

/-- What is returned is stored. -/
def Issued (outcome : Except PyError (Receipt P)) (s : Runtime P) : Prop :=
  ∀ receipt, outcome = .ok receipt → s.receipt = some receipt

theorem issued_error {error : PyError} : Issued (.error error) s := fun _ heq => nomatch heq

theorem safe_receiptFresh (status : Option RunStatus) (h : Fresh t s) :
    (discipline d).Safe t Issued (Supervisor.receiptFresh d status) s := by
  have hinner {op : Op P} (hop : Op.Inner op) : (perform op : Prog P op.Res).All Op.Inner :=
    all_perform hop
  have hwall : (wallNow : Prog P Datetime).All Op.Inner :=
    all_bind (hinner trivial) fun _ => all_ofExcept _
  have hclock : (monotonicNow : Prog P ℤ).All Op.Inner :=
    all_bind (hinner trivial) fun _ => all_ofExcept _
  refine safe_seq (safe_fresh (hinner trivial) h) (fun state s₁ h₁ => ?_) fun _ _ _ => issued_error
  refine safe_seq (safe_fresh (hinner trivial) h₁) (fun emergency s₂ h₂ => ?_)
    fun _ _ _ => issued_error
  refine safe_seq (safe_fresh (all_ofExcept _) h₂) (fun derived s₃ h₃ => ?_)
    fun _ _ _ => issued_error
  refine safe_seq (safe_fresh (all_ofExcept _) h₃) (fun _ s₄ h₄ => ?_) fun _ _ _ => issued_error
  have hseal : (discipline d).Safe t (fun _ s => Closed t none s) (perform .seal : Prog P Unit) s₄ := by
    refine safe_act fun s₅ hrely _ => ⟨trivial, fun env s₆ _ _ hexec _ => ?_⟩
    have hfresh := (h₄.rely hrely).exec (show Op.Inner (.seal : Op P) from trivial) hexec
    simp only [exec, Option.some.injEq, Prod.mk.injEq] at hexec
    exact ⟨hfresh, by rw [← hexec.1], by rintro _ ⟨⟩⟩
  refine safe_seq hseal (fun _ s₅ h₅ => ?_) fun _ _ _ => issued_error
  refine safe_seq (safe_closed hwall h₅) (fun finishedAt s₆ h₆ => ?_) fun _ _ _ => issued_error
  refine safe_seq (safe_closed hclock h₆) (fun finishedNs s₇ h₇ => ?_) fun _ _ _ => issued_error
  have hmirror : (discipline d).Safe t
      (fun outcome s => ∀ mirror, outcome = .ok mirror → Closed t (some mirror) s)
      (perform .mirrorSnapshot : Prog P EvidenceMirror) s₇ := by
    refine safe_act fun s₈ hrely _ => ⟨trivial, fun env s₉ mirror _ hexec _ => ?_⟩
    rintro _ ⟨⟩
    have h₈ := h₇.rely hrely
    simp only [exec, Option.some.injEq, Prod.mk.injEq] at hexec
    obtain ⟨rfl, rfl⟩ := hexec
    refine ⟨h₈.fresh, h₈.isSealed, ?_⟩
    rintro _ ⟨⟩
    rfl
  refine safe_seq hmirror (fun mirror s₈ h => ?_) fun _ _ _ => issued_error
  refine safe_seq (safe_closed (all_raising (hinner trivial)) (h mirror rfl))
    (fun checkpoint s₉ h₉ => ?_) fun _ _ _ => issued_error
  refine safe_seq (safe_closed (hinner trivial) h₉) (fun ack s₁₀ h₁₀ => ?_)
    fun _ _ _ => issued_error
  cases hbody : Supervisor.receiptBody d derived state mirror finishedAt finishedNs ack checkpoint with
  | error error => exact issued_error
  | ok body =>
      rw [Program.ofExcept_ok, Program.ret_bind]
      cases hsign : Sealed.sign (receiptSealing P) body d.supervisorKey with
      | error error => exact issued_error
      | ok receipt =>
          rw [Program.ofExcept_ok, Program.ret_bind]
          refine safe_act fun s₁₁ hrely _ => ?_
          have h₁₁ := h₁₀.rely hrely
          have hroots : MirrorRoots receipt s₁₁.mirror := by
            rw [h₁₁.mirror mirror rfl]
            exact roots_of_receiptBody hbody hsign
          refine ⟨⟨h₁₁.fresh.locked, h₁₁.fresh.unstored, h₁₁.isSealed, hroots⟩, ?_⟩
          intro env s₁₂ _ _ hexec _
          rintro _ ⟨⟩
          simp only [exec, Option.some.injEq, Prod.mk.injEq] at hexec
          rw [← hexec.1]

theorem locked_acquireReceipt (s : Runtime P) :
    (discipline d).Safe t (fun _ s => s.receiptLock = some t) (perform .acquireReceipt : Prog P Unit)
      s := by
  refine safe_act fun s₁ _ _ => ⟨trivial, fun env s₂ _ _ hexec _ => ?_⟩
  simp only [exec, Option.ite_none_right_eq_some, Option.some.injEq, Prod.mk.injEq] at hexec
  obtain ⟨-, rfl, -⟩ := hexec
  exact rfl

/-- What the holder of the lock reads stays so. -/
theorem safe_readReceipt (h : s.receiptLock = some t) :
    (discipline d).Safe t
      (fun outcome s => s.receiptLock = some t ∧ ∀ found, outcome = .ok found → s.receipt = found)
      (perform .readReceipt : Prog P (Option (Receipt P))) s := by
  refine safe_act fun s₁ hrely _ => ⟨trivial, fun env s₂ found _ hexec _ => ?_⟩
  simp only [exec, Option.some.injEq, Prod.mk.injEq] at hexec
  obtain ⟨rfl, rfl⟩ := hexec
  refine ⟨(hrely.locked h).1, ?_⟩
  rintro _ ⟨⟩
  rfl

/-- The release of the lock leaves a stored receipt alone. -/
theorem safe_releaseReceipt {receipt : Receipt P} (h : s.receipt = some receipt) :
    (discipline d).Safe t (fun _ s => s.receipt = some receipt)
      (perform .releaseReceipt : Prog P Unit) s := by
  refine safe_act fun s₁ hrely _ => ⟨trivial, fun env s₂ _ _ hexec _ => ?_⟩
  have hsame := ReceiptStatus.receipt_exec hexec fun _ heq => nomatch heq
  exact hsame.trans (hrely.stored receipt h)

theorem safe_receipt (status : Option RunStatus) (s : Runtime P) :
    (discipline d).Safe t Issued (Supervisor.receipt d status) s := by
  refine safe_seq (locked_acquireReceipt s) (fun _ s₁ hlock => ?_) fun _ _ _ => issued_error
  refine safe_finalize (safe_mono ?release (?body : (discipline d).Safe t Issued _ s₁))
  case body =>
    refine safe_seq (safe_readReceipt hlock) (fun found s₂ h₂ => ?_) fun _ _ _ => issued_error
    obtain ⟨hlock₂, hfound⟩ := h₂
    have hreceipt : s₂.receipt = found := hfound found rfl
    cases found with
    | none => exact safe_receiptFresh status ⟨hlock₂, hreceipt⟩
    | some frozen =>
        refine safe_seq (safe_ofExcept.mpr hreceipt :
          (discipline d).Safe t (fun _ s => s.receipt = some frozen) _ s₂) (fun _ s₃ h₃ => ?_)
          fun _ _ _ => issued_error
        rintro _ ⟨⟩
        exact h₃
  intro outcome s₂ hissued
  cases outcome with
  | error error =>
      refine safe_act fun s₃ _ _ => ⟨trivial, fun env s₄ _ _ _ _ => ?_⟩
      exact issued_error
  | ok receipt =>
      refine safe_mono ?_ (safe_releaseReceipt (hissued receipt rfl))
      intro done s₃ h₃
      cases done with
      | error error => exact issued_error
      | ok _ =>
          rintro _ ⟨⟩
          exact h₃

/-! ## All calls -/

/-- A call that answered with a receipt has it stored. -/
def Done (_ : Call P) (outcome : Except PyError (Reply P)) (s : Runtime P) : Prop :=
  ∀ receipt, outcome = .ok (.receipted receipt) → s.receipt = some receipt

theorem clean_of_free {α : Type} {p : Prog P α} (hp : p.All ReceiptStatus.Op.Free) (s : Runtime P) :
    (discipline d).Safe t (fun _ _ => True) p s :=
  safe_of_all (D := discipline d) (K := fun _ => True) (fun _ _ => trivial)
    (fun {s op} hop _ _ => by cases op <;> first | exact trivial | exact absurd hop id)
    (fun _ _ _ _ _ => trivial) hp trivial

/-- Calls that answer with no receipt. -/
theorem safe_unreceipted {α : Type} {p : Prog P α} {reply : α → Reply P} {call : Call P}
    (hreply : ∀ value receipt, reply value ≠ .receipted receipt)
    (hp : (discipline d).Safe t (fun _ _ => True) p s) :
    (discipline d).Safe t (Done call) (reply <$> p) s :=
  safe_seq hp (fun value _ _ receipt heq => absurd (Except.ok.inj heq) (hreply value receipt))
    fun _ _ _ _ heq => nomatch heq

theorem safe_receipted {p : Prog P (Receipt P)} {call : Call P}
    (hp : (discipline d).Safe t Issued p s) :
    (discipline d).Safe t (Done call) (Reply.receipted <$> p) s := by
  refine safe_seq hp (fun receipt s₁ hissued => ?_) fun _ _ _ _ heq => nomatch heq
  rintro _ ⟨⟩
  exact hissued receipt rfl

theorem retire_eq (call : Call P) (outcome : Except PyError (Reply P)) (s : Runtime P) :
    (retire call outcome s).ledger = s.ledger ∧ (retire call outcome s).mirror = s.mirror ∧
      (retire call outcome s).receipt = s.receipt ∧
      (retire call outcome s).receiptLock = s.receiptLock := by
  unfold retire
  split <;> exact ⟨rfl, rfl, rfl, rfl⟩

theorem safe_call (call : Call P) (s : Runtime P) :
    (discipline d).Safe t (Done call) (body d call) s := by
  have haside := fun (op : Op P) (h : op.Aside) => ReceiptStatus.free_of_aside h
  have hevent := ReceiptStatus.free_event (P := P)
  cases call with
  | submitRaw raw =>
      exact safe_unreceipted (fun _ _ => nofun) (clean_of_free (all_submitRaw_of haside hevent raw
        (fun _ _ _ _ _ => trivial) fun _ => trivial) s)
  | dispatch action decision nowNs =>
      refine safe_unreceipted (fun _ _ => nofun)
        (clean_of_free (all_dispatch_of haside hevent action decision nowNs ?_) s)
      intro op hop
      cases op <;> first | exact trivial | exact absurd hop id
  | failClosed reason requestId =>
      exact safe_unreceipted (fun _ _ => nofun)
        (clean_of_free (all_failClosed haside hevent reason requestId) s)
  | enforceRuntimeDeadline ns =>
      exact safe_unreceipted (fun _ _ => nofun)
        (clean_of_free (all_enforceRuntimeDeadline haside hevent d ns trivial) s)
  | contain trigger ns =>
      exact safe_unreceipted (fun _ _ => nofun)
        (clean_of_free (all_containment haside hevent trigger ns) s)
  | emergencyIsolate =>
      exact safe_unreceipted (fun _ _ => nofun) (clean_of_free (all_emergencyIsolate haside) s)
  | complete =>
      have hmark : (discipline d).Safe t (fun _ _ => True)
          (raising (perform .markCompleted) : Prog P Unit) s :=
        clean_of_free (all_raising (all_perform trivial)) s
      exact safe_receipted (safe_seq hmark (fun _ s₁ _ => safe_receipt none s₁)
        fun _ _ _ => issued_error)
  | receipt status => exact safe_receipted (safe_receipt status s)

theorem covers : (discipline d).Covers Done where
  stable hrely hdone receipt heq := hrely.stored receipt (hdone receipt heq)
  calls _ call s _ _ := safe_call call s
  retire_inv {call outcome s} h _ := by
    obtain ⟨hledger, hmirror, hreceipt, -⟩ := retire_eq call outcome s
    change Inv (retire call outcome s)
    refine ⟨?_, ?_⟩
    · rw [hledger, hmirror]
      exact h.agrees
    · rw [hledger, hmirror, hreceipt]
      exact h.stored
  retire_rely {call outcome s} _ _ u := by
    obtain ⟨hledger, hmirror, hreceipt, hlock⟩ := retire_eq call outcome s
    exact ⟨fun _ => ⟨hledger, hmirror⟩, fun _ h => hreceipt.trans h,
      fun h => ⟨hlock.trans h, hreceipt⟩⟩

/-! ## Later calls -/

/-- Reading the receipt once it is stored. -/
theorem safe_frozen {receipt : Receipt P} (status : Option RunStatus) (h : s.receipt = some receipt) :
    (discipline d).Safe t (fun outcome _ => outcome =
        if ∀ requested ∈ status, requested = receipt.body.status then .ok receipt
        else .error (.valueError "receipt status conflicts with frozen receipt"))
      (Supervisor.receipt d status) s := by
  have hacquire : (discipline d).Safe t (fun outcome s => outcome = .ok () ∧ s.receipt = some receipt)
      (perform .acquireReceipt : Prog P Unit) s := by
    refine safe_act fun s₁ hrely _ => ⟨trivial, fun env s₂ _ _ hexec _ => ⟨rfl, ?_⟩⟩
    have hsame := ReceiptStatus.receipt_exec hexec fun _ heq => by cases heq
    exact hsame.trans (hrely.stored receipt h)
  refine safe_seq hacquire (fun _ s₁ h₁ => ?_) fun _ _ hnone => by cases hnone.1
  refine safe_finalize ?_
  have hread : (discipline d).Safe t (fun outcome _ => outcome = .ok (some receipt))
      (perform .readReceipt : Prog P (Option (Receipt P))) s₁ := by
    refine safe_act fun s₂ hrely _ => ⟨trivial, fun env s₃ found _ hexec _ => ?_⟩
    simp only [exec, Option.some.injEq, Prod.mk.injEq] at hexec
    change Except.ok found = .ok (some receipt)
    rw [← hexec.2, hrely.stored receipt h₁.2]
  refine safe_seq hread (fun found s₂ hfound => ?_) fun _ _ hnone => by cases hnone
  obtain rfl := Except.ok.inj hfound
  by_cases hstatus : ∀ requested ∈ status, requested = receipt.body.status
  · have hpassed : ensure (∀ requested ∈ status, requested = receipt.body.status)
        (PyError.valueError "receipt status conflicts with frozen receipt") = .ok () :=
      ensure_of hstatus
    dsimp only
    rw [hpassed, if_pos hstatus]
    exact safe_act fun s₃ _ _ => ⟨trivial, fun env s₄ _ _ _ _ => rfl⟩
  · have hrefused : ensure (∀ requested ∈ status, requested = receipt.body.status)
        (PyError.valueError "receipt status conflicts with frozen receipt") =
          .error (.valueError "receipt status conflicts with frozen receipt") := if_neg hstatus
    dsimp only
    rw [hrefused, if_neg hstatus]
    exact safe_act fun s₃ _ _ => ⟨trivial, fun env s₄ _ _ _ _ => rfl⟩

theorem safe_answers {receipt : Receipt P} (call : Call P) (h : s.receipt = some receipt) :
    (discipline d).Safe t
      (fun outcome _ => ∀ status, call = .receipt status → AnswersWith receipt status outcome)
      (body d call) s := by
  by_cases hcall : ∃ status, call = .receipt status
  · obtain ⟨status, rfl⟩ := hcall
    refine safe_bind (safe_mono (fun outcome s₁ houtcome => ?_) (safe_frozen status h))
    rw [houtcome]
    split_ifs with hstatus
    · rintro _ ⟨⟩
      exact (if_pos hstatus).symm
    · rintro _ ⟨⟩
      exact (if_neg hstatus).symm
  · simp only [not_exists] at hcall
    exact safe_mono (fun _ _ _ status heq => absurd heq (hcall status)) (safe_call call s)

/-! ## The roots of the ledger -/

/-- The octets of the mirror are the file. -/
theorem canonicalJsonlBytes_of_forall₂ {events : List (Event P)} {lines : List Bytes}
    (h : List.Forall₂ (fun (event : Event P) encoded => event.canonicalBytes = .ok encoded) events
      lines) :
    DurableLedger.canonicalJsonlBytes events = .ok ((lines.map exportLine).map Line.raw).flatten := by
  induction h with
  | nil => rfl
  | cons hline _ ih =>
      simp only [DurableLedger.canonicalJsonlBytes, DurableLedger.line, hline, ih, except_ok_bind]
      rfl

theorem namesRoots_of_mirrorRoots {receipt : Receipt P} (hagrees : Agrees s.ledger.events s.mirror)
    (h : MirrorRoots receipt s.mirror) : NamesRoots receipt s.ledger := by
  refine ⟨by rw [h.count, hagrees.count], h.first.trans hagrees.first, h.final.trans hagrees.final, ?_⟩
  obtain ⟨lines, hlines, hdigest⟩ := hagrees.digest
  rw [EvidenceLedger.evidenceDigest, canonicalJsonlBytes_of_forall₂ hlines, ← hdigest, h.evidence]
  rfl

theorem inv_init (witness : TransparencyWitness P) : Inv (Runtime.init d witness) :=
  ⟨agrees_empty, fun _ hnone => nomatch hnone⟩

end FinalRoots

/-- In every interleaving of any calls in which the mirror refuses no event that the ledger took,
what a call returned as the receipt is the stored one, its roots are those of the ledger at
that time and at every later time, and later calls answer with it. -/
theorem rootsFinal_of_reachable (P : Platform) (d : Deployment P) (witness : TransparencyWitness P)
    (c : Config (runtimeService d))
    (h : Reachable (refusedBeforeAppending d) (Runtime.init d witness) c) : RootsFinal c := by
  have hholds := holds_of_reachable FinalRoots.covers (FinalRoots.inv_init witness) h
  refine ⟨fun t call receipt hrunning => hholds.2 t call _ hrunning receipt rfl, ?_⟩
  intro receipt hreceipt c' hsteps
  obtain ⟨hinv', hreceipt'⟩ := Holds.steps FinalRoots.covers
    (I := fun s => s.receipt = some receipt) (fun hrely hs => hrely.stored receipt hs) hholds
    hreceipt hsteps
  obtain ⟨-, hledger⟩ := Holds.steps FinalRoots.covers
    (I := fun s => s.ledger.isSealed = true ∧ s.ledger = c.shared.ledger)
    (fun hrely hs => by
      obtain ⟨heq, -⟩ := hrely.isSealed hs.1
      rw [heq]
      exact hs) hholds ⟨(hholds.1.stored receipt hreceipt).1, rfl⟩ hsteps
  refine ⟨hreceipt', hledger.2, ?_, ?_⟩
  · exact FinalRoots.namesRoots_of_mirrorRoots hinv'.1.agrees
      (hinv'.1.stored receipt hreceipt').2
  · intro t status outcome hidle hrunning
    have hsafe := answers_of_steps FinalRoots.covers
      (fun hrely hs => hrely.stored receipt hs)
      (fun {call s} _ hs => FinalRoots.safe_answers call hs) hholds hreceipt hidle hsteps
      (.receipt status) _ hrunning
    exact safe_ofExcept.mp hsafe status rfl

/-- A run of one answered request that completes. -/
theorem rootsFinal_completed : ∃ (manifest : Manifest Reference.platform)
    (c : Config (runtimeService (Reference.deployment manifest))) (receipt : Receipt Reference.platform),
    Reachable (refusedBeforeAppending (Reference.deployment manifest))
      (Runtime.init (Reference.deployment manifest) Reference.witness) c ∧
    c.running 0 = some (.complete, .ret (.receipted receipt)) ∧
    c.shared.ledger.events.length = 4 ∧ RootsFinal c ∧ NamesRoots receipt c.shared.ledger := by
  obtain ⟨manifest, hm⟩ := Reference.exists_signed
  obtain ⟨s₁, s₂, receipt, hfinished, hreach, -, hkept, -⟩ := exists_reachable_completed
    (refusedBeforeAppending (Reference.deployment manifest)) hm (fun _ _ => trivial)
    (fun _ _ _ hsucceeds => refusedBeforeAppending_of_succeeds hsucceeds)
    (fun _ _ hop _ => by
      rintro _ _ _ _ _ rfl
      exact absurd hop id)
  obtain ⟨request, decided, dispatched, returned, hevents, -⟩ := hfinished.answered
  have hrunning : (Config.set (S := runtimeService (Reference.deployment manifest))
      (Config.initial s₁) s₂ 0 (some (.complete, .ret (.receipted receipt)))).running 0 =
        some (.complete, .ret (.receipted receipt)) := by
    simp only [Config.set, Function.update_self]
  have hlength : s₂.ledger.events.length = 4 := by
    rw [hkept, hevents]
    rfl
  have hfinal := rootsFinal_of_reachable _ _ _ _ hreach
  have hstored := hfinal.issued 0 _ receipt hrunning
  exact ⟨manifest, _, receipt, hreach, hrunning, hlength, hfinal,
    (hfinal.final receipt hstored _ .refl).2.2.1⟩

end Containment
