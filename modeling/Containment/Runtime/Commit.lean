/-
# A commit and its observer

The ledger takes an event first and shows it to the mirror afterwards. As long as the
two agree, the mirror has one reason left to refuse: a clock reading below the one of
the last event. Nothing takes the event back then, so a commit is all-or-nothing
exactly when it is refused by the ledger itself or comes in the order of the readings.
-/

import Containment.Reference.Bundle
import Containment.Runtime.Steps

namespace Containment

open Json

variable {P : Platform}

/-! ## Agreement -/

/-- What a mirror can be: it starts empty and observes. -/
inductive EvidenceMirror.Observed (manifest : Manifest P) : EvidenceMirror → Prop
  | start : Observed manifest .empty
  | observe {mirror mirror' : EvidenceMirror} {event : Event P} (before : Observed manifest mirror)
      (accepted : mirror.observe manifest event = .ok mirror') : Observed manifest mirror'

/-- The ledger and the mirror have the same count, ends and octets. -/
structure Agrees (events : List (Event P)) (mirror : EvidenceMirror) : Prop where
  count : mirror.count = events.length
  first : mirror.firstHash = events.head?.map Event.eventHash
  final : mirror.finalHash = events.getLast?.map Event.eventHash
  digest : ∃ lines, List.Forall₂ (fun (event : Event P) encoded =>
    event.canonicalBytes = .ok encoded) events lines ∧
      mirror.digest = ((lines.map exportLine).map Line.raw).flatten

theorem agrees_empty : Agrees ([] : List (Event P)) .empty := ⟨rfl, rfl, rfl, [], .nil, rfl⟩

namespace EvidenceMirror

variable {manifest : Manifest P} {mirror mirror' : EvidenceMirror} {event : Event P}

theorem observe_eq_ok : mirror.observe manifest event = .ok mirror' ↔
    (event.body.runId = manifest.body.runId ∧
      event.body.manifestHash = manifest.manifestHash) ∧
    mirror.checkHead event.body = .ok () ∧
    ∃ encoded, event.canonicalBytes = .ok encoded ∧ {
      digest := mirror.digest ++ encoded ++ [10]
      count := mirror.count + 1
      firstHash := if mirror.count = 0 then some event.eventHash else mirror.firstHash
      finalHash := some event.eventHash
      lastSequence := some event.body.sequence.1
      lastMonotonicNs := some event.body.monotonicNs.1 } = mirror' := by
  simp only [observe, bind_eq_ok, Unique.exists_iff, ensure_eq_ok, except_pure, Except.ok.injEq]

theorem checkHead_eq_ok : mirror.checkHead event.body = .ok () ↔
    if mirror.count = 0 then event.body.sequence.1 = 0
    else (mirror.lastSequence.isSome = true ∧ mirror.lastMonotonicNs.isSome = true) ∧
      (∀ last ∈ mirror.lastSequence, event.body.sequence.1 = last + 1) ∧
      some event.body.previousEventHash = mirror.finalHash ∧
      ∀ last ∈ mirror.lastMonotonicNs, last ≤ event.body.monotonicNs.1 := by
  rw [checkHead]
  split_ifs
  · exact ensure_eq_ok
  · simp only [bind_eq_ok, Unique.exists_iff, ensure_eq_ok]

/-- The mirror counts what it numbers. -/
theorem Observed.last (h : Observed manifest mirror) : if mirror.count = 0
    then mirror.lastSequence = none ∧ mirror.lastMonotonicNs = none
    else mirror.lastSequence = some (mirror.count - 1 : ℤ) ∧
      mirror.lastMonotonicNs.isSome = true := by
  induction h with
  | start => exact ⟨rfl, rfl⟩
  | @observe mirror mirror' event before accepted ih =>
      obtain ⟨-, hhead, encoded, -, rfl⟩ := observe_eq_ok.mp accepted
      rw [checkHead_eq_ok] at hhead
      refine ⟨?_, rfl⟩
      have hsequence : event.body.sequence.1 = mirror.count := by
        split_ifs at hhead ih with hzero
        · rw [hhead, hzero]
          rfl
        · rw [hhead.2.1 _ ih.1]
          omega
      rw [hsequence]
      push_cast
      congr 1
      omega

end EvidenceMirror

/-- The reading an event is stamped with: the one handed in, or the clock's. -/
def reading (clocks : Clocks) (monotonicNs : Option ℤ) : Except PyError ℤ :=
  monotonicNs.elim clocks.monotonicClock .ok

section Append

variable {config : LedgerConfig P} {ledger : EvidenceLedger P} {clocks : Clocks}
  {kind : EventKind} {payload : Json} {requestId : Option String} {monotonicNs : Option ℤ}
  {fault : Option PyError} {event : Event P}

/-- An appended event belongs to the run and extends the ledger. -/
theorem append_links
    (h : ledger.append config clocks kind payload requestId monotonicNs fault = .ok event) :
    event.body.runId = config.manifest.body.runId ∧
      event.body.manifestHash = config.manifest.manifestHash ∧
      event.body.sequence.1 = ledger.events.length ∧
      event.body.previousEventHash = EvidenceLedger.previousHash ledger.events ∧
      reading clocks monotonicNs = .ok event.body.monotonicNs.1 ∧
      ∃ encoded, event.canonicalBytes = .ok encoded := by
  simp only [EvidenceLedger.append, bind_eq_ok, Unique.exists_iff, ensure_eq_ok] at h
  obtain ⟨-, -, now, -, observedAt, -, clock, hclock, event', hcreate, encoded, hencoded, hfault⟩ := h
  have hevent : event' = event := by
    cases fault with
    | none => exact Except.ok.inj hfault
    | some error => cases hfault
  subst hevent
  obtain ⟨-, -, -, hsequence, hprevious, hrun, hmanifest, hns⟩ := Event.create_ok hcreate
  refine ⟨hrun, hmanifest, hsequence, hprevious, ?_, encoded, hencoded⟩
  rw [reading, hclock, hns]

end Append

section Observe

variable {d : Deployment P} {clocks : Clocks} {fault : Option PyError} {ledger : EvidenceLedger P}
  {mirror mirror' : EvidenceMirror} {kind : EventKind} {payload : Json}
  {requestId : Option String} {monotonicNs : Option ℤ} {event : Event P}

/-- The one thing an agreeing mirror still checks is the order of the readings. -/
theorem observe_of_append (hmirror : EvidenceMirror.Observed d.manifest mirror)
    (hagrees : Agrees ledger.events mirror)
    (happend : ledger.append d.ledgerConfig clocks kind payload requestId monotonicNs fault =
      .ok event) :
    (∃ mirror', mirror.observe d.manifest event = .ok mirror') ↔
      ∀ last ∈ mirror.lastMonotonicNs, last ≤ event.body.monotonicNs.1 := by
  obtain ⟨hrun, hmanifest, hsequence, hprevious, -, encoded, hencoded⟩ := append_links happend
  have hlast := hmirror.last
  have hcount := hagrees.count
  constructor
  · rintro ⟨mirror', hok⟩ last hmem
    obtain ⟨-, hhead, -⟩ := EvidenceMirror.observe_eq_ok.mp hok
    rw [EvidenceMirror.checkHead_eq_ok] at hhead
    split_ifs at hhead hlast with hzero
    · rw [hlast.2] at hmem
      cases hmem
    · exact hhead.2.2.2 last hmem
  · intro htime
    refine ⟨_, EvidenceMirror.observe_eq_ok.mpr ⟨⟨hrun, hmanifest⟩, ?_, encoded, hencoded, rfl⟩⟩
    rw [EvidenceMirror.checkHead_eq_ok]
    split_ifs at hlast ⊢ with hzero
    · rw [hsequence, ← hcount, hzero]
      rfl
    · refine ⟨⟨by rw [hlast.1]; rfl, hlast.2⟩, ?_, ?_, htime⟩
      · intro last hmem
        rw [hlast.1, Option.mem_some] at hmem
        rw [hsequence, ← hcount]
        omega
      · rw [hagrees.final, hprevious, EvidenceLedger.previousHash]
        have hne : ledger.events ≠ [] := by
          intro hnil
          rw [hnil] at hcount
          exact hzero hcount
        rw [List.getLast?_eq_some_getLast hne]
        rfl

theorem Agrees.snoc {manifest : Manifest P} {events : List (Event P)} (h : Agrees events mirror)
    (hok : mirror.observe manifest event = .ok mirror') :
    Agrees (events ++ [event]) mirror' := by
  obtain ⟨-, -, encoded, hencoded, rfl⟩ := EvidenceMirror.observe_eq_ok.mp hok
  obtain ⟨lines, hlines, hdigest⟩ := h.digest
  refine ⟨?_, ?_, ?_, lines ++ [encoded], List.rel_append hlines (.cons hencoded .nil), ?_⟩
  · rw [List.length_append, List.length_singleton, ← h.count]
  · have hcount := h.count
    have hfirst := h.first
    dsimp only
    cases hevents : events with
    | nil =>
        rw [hevents] at hcount
        exact if_pos hcount
    | cons first rest =>
        rw [hevents] at hcount hfirst
        rw [if_neg (by rw [hcount]; exact Nat.succ_ne_zero _), hfirst]
        rfl
  · rw [List.getLast?_concat]
    rfl
  · rw [hdigest]
    simp [exportLine, Line.raw]

end Observe

namespace Reference

variable {manifest : Manifest platform}

/-- A world in which nothing goes wrong, at one moment. -/
def world (ns : ℤ) : World where
  wallClock := .ok (.aware now)
  monotonicClock := .ok ns
  fault := none
  token := "00"
  isolation := .ok ⟨.simulated, [], 0, false, none⟩
  transport := .ok ⟨200, 2, genesisHash⟩

/-- The ledger and the mirror of a healthy run. -/
structure Healthy (manifest : Manifest platform) (s : Runtime platform) (ns : ℤ) : Prop where
  observed : EvidenceMirror.Observed manifest s.mirror
  agrees : Agrees s.ledger.events s.mirror
  unsealed : s.ledger.isSealed = false
  room : s.ledger.events.length < 1000
  last : ∀ last ∈ s.mirror.lastMonotonicNs, last ≤ ns

theorem healthy_init (manifest : Manifest platform) (ns : ℤ) :
    Healthy manifest (Runtime.init (deployment manifest) witness) ns :=
  ⟨.start, agrees_empty, rfl, show 0 < 1000 by decide, fun _ h => nomatch h⟩

/-- The ledger takes a small payload at any moment. -/
theorem exists_append (env : World) (monotonicNs : Option ℤ) (ns : SafeNonNegativeInt) {t : ℤ}
    {s : Runtime platform} (h : Healthy manifest s t) {payload : Json} {requestId : Option String}
    (hfits : Fits platform 64 100000 payload)
    (hrequest : ∀ id ∈ requestId, opaqueIdCheck id = .ok ())
    (hwall : env.wallClock = .ok (.aware now)) (hfault : env.fault = none)
    (hreading : reading env.toClocks monotonicNs = .ok ns.1) (kind : EventKind) :
    ∃ event, s.ledger.append (deployment manifest).ledgerConfig env.toClocks kind payload requestId
      monotonicNs env.fault = .ok event := by
  have hroom := h.room
  have hle : (s.ledger.events.length : ℤ) ≤ maxSafeInteger := by
    rw [maxSafeInteger]
    omega
  have hbudget : s.ledger.events.length < (deployment manifest).ledgerConfig.maxEvents :=
    lt_trans hroom (show 1000 < 40000 by decide)
  obtain ⟨event, hevent, encoded, hencoded⟩ := Event.exists_create lawful
    manifest.body.runId manifest.manifestHash kind ⟨"gateway-instance:demo", by decide⟩
    (timestamp now) ⟨hfits, rfl, hle, genesis_iff s.ledger.events, ⟨ns.le, ns.le_high⟩, hrequest⟩
  refine ⟨event, ?_⟩
  rw [EvidenceLedger.append, ensure_of h.unsealed, except_ok_bind, ensure_of hbudget,
    except_ok_bind, hwall, except_ok_bind]
  rw [reading] at hreading
  rw [hreading, hfault]
  refine bind_eq_ok.mpr ⟨timestamp now, rfl, ?_⟩
  rw [except_ok_bind]
  refine bind_eq_ok.mpr ⟨event, hevent, ?_⟩
  rw [hencoded, except_ok_bind]
  rfl

/-- A commit in the order of the readings goes through. -/
theorem exists_commit (env : World) (monotonicNs : Option ℤ) (ns : SafeNonNegativeInt)
    {s : Runtime platform} (h : Healthy manifest s ns.1) {payload : Json} {requestId : Option String}
    (hfits : Fits platform 64 100000 payload)
    (hrequest : ∀ id ∈ requestId, opaqueIdCheck id = .ok ())
    (hwall : env.wallClock = .ok (.aware now)) (hfault : env.fault = none)
    (hreading : reading env.toClocks monotonicNs = .ok ns.1) (kind : EventKind) :
    ∃ event mirror, s.commit (deployment manifest) env kind payload requestId monotonicNs =
        (Runtime.note { s with
          ledger := { s.ledger with events := s.ledger.events ++ [event] }
          mirror := mirror } (.committed event true s.state.phase s.state.killEpoch),
          .ok event) ∧
      event.body.kind = kind ∧ event.body.requestId.map Subtype.val = requestId ∧
      event.body.monotonicNs.1 = ns.1 ∧
      canonicalJson platform payload = .ok event.body.payloadCanonicalJson.1 ∧
      mirror.lastMonotonicNs = some ns.1 ∧ EvidenceMirror.Observed manifest mirror ∧
      Agrees (s.ledger.events ++ [event]) mirror := by
  obtain ⟨event, happend⟩ := exists_append env monotonicNs ns h hfits hrequest hwall hfault
    hreading kind
  obtain ⟨hpayload, hkind, hrequestId, -⟩ := append_ok happend
  obtain ⟨-, -, -, -, hns, -⟩ := append_links happend
  have htime : event.body.monotonicNs.1 = ns.1 := Except.ok.inj (hns.symm.trans hreading)
  obtain ⟨mirror, hmirror⟩ := (observe_of_append h.observed h.agrees happend).mpr
    (by rw [htime]; exact h.last)
  obtain ⟨-, -, encoded, -, hfields⟩ := EvidenceMirror.observe_eq_ok.mp hmirror
  refine ⟨event, mirror, ?_, hkind, hrequestId, htime, hpayload, ?_, .observe h.observed hmirror,
    h.agrees.snoc hmirror⟩
  · rw [Runtime.commit, happend]
    dsimp only
    erw [hmirror]
  · rw [← hfields, htime]

end Reference

/-! ## All or nothing -/

/-- A commit that returns gave its event to both; one that raised changed neither; and
the two agree afterwards. -/
def AllOrNothing (d : Deployment P) (s : Runtime P)
    (result : Runtime P × Except PyError (Event P)) : Prop :=
  Agrees result.1.ledger.events result.1.mirror ∧
    match result.2 with
    | .ok event => result.1.ledger.events = s.ledger.events ++ [event] ∧
        s.mirror.observe d.manifest event = .ok result.1.mirror
    | .error _ => result.1.ledger = s.ledger ∧ result.1.mirror = s.mirror

/-- The reading of the event is not below that of the last event the mirror saw. -/
def InOrder (mirror : EvidenceMirror) (clocks : Clocks) (monotonicNs : Option ℤ) : Prop :=
  ∀ ns, reading clocks monotonicNs = .ok ns → ∀ last ∈ mirror.lastMonotonicNs, last ≤ ns

section Commit

variable {env : World} {s : Runtime P} {kind : EventKind} {payload : Json}
  {requestId : Option String} {monotonicNs : Option ℤ} {event : Event P}

/-- Once the ledger took the event, only the order of the readings is left. -/
theorem allOrNothing_of_append (hmirror : EvidenceMirror.Observed d.manifest s.mirror)
    (hagrees : Agrees s.ledger.events s.mirror)
    (happend : s.ledger.append d.ledgerConfig env.toClocks kind payload requestId monotonicNs
      env.fault = .ok event) :
    AllOrNothing d s (s.commit d env kind payload requestId monotonicNs) ↔
      InOrder s.mirror env.toClocks monotonicNs := by
  have hobserve := observe_of_append hmirror hagrees happend
  obtain ⟨-, -, -, -, hreading, -⟩ := append_links happend
  have horder : InOrder s.mirror env.toClocks monotonicNs ↔
      ∀ last ∈ s.mirror.lastMonotonicNs, last ≤ event.body.monotonicNs.1 := by
    rw [InOrder, hreading]
    simp
  rw [horder, ← hobserve, Runtime.commit, happend]
  dsimp only
  cases hmirrored : s.mirror.observe d.manifest event with
  | ok mirror => exact ⟨fun _ => ⟨mirror, rfl⟩, fun _ => ⟨hagrees.snoc hmirrored, rfl, hmirrored⟩⟩
  | error error =>
      constructor
      · rintro ⟨-, hledger, -⟩
        have hlength := congrArg (fun ledger => ledger.events.length) hledger
        simp [Runtime.note] at hlength
      · rintro ⟨mirror, hok⟩
        cases hok

theorem allOrNothing_of_refused {error : PyError} (hagrees : Agrees s.ledger.events s.mirror)
    (hrefused : s.ledger.append d.ledgerConfig env.toClocks kind payload requestId monotonicNs
      env.fault = .error error) :
    AllOrNothing d s (s.commit d env kind payload requestId monotonicNs) := by
  rw [Runtime.commit, hrefused]
  exact ⟨hagrees, rfl, rfl⟩

end Commit

/-- A commit on an agreeing ledger and mirror is all-or-nothing exactly when the ledger
itself refuses the event or the event comes in the order of the readings. -/
theorem commit_allOrNothing_iff (P : Platform) (d : Deployment P) (env : World) (s : Runtime P)
    (kind : EventKind) (payload : Json) (requestId : Option String) (monotonicNs : Option ℤ)
    (hmirror : EvidenceMirror.Observed d.manifest s.mirror)
    (hagrees : Agrees s.ledger.events s.mirror) :
    AllOrNothing d s (s.commit d env kind payload requestId monotonicNs) ↔
      (∃ error, s.ledger.append d.ledgerConfig env.toClocks kind payload requestId monotonicNs
        env.fault = .error error) ∨ InOrder s.mirror env.toClocks monotonicNs := by
  cases happend : s.ledger.append d.ledgerConfig env.toClocks kind payload requestId monotonicNs
      env.fault with
  | error error =>
      exact ⟨fun _ => .inl ⟨error, rfl⟩, fun _ => allOrNothing_of_refused hagrees happend⟩
  | ok event =>
      rw [allOrNothing_of_append hmirror hagrees happend]
      refine ⟨.inr, ?_⟩
      rintro (⟨error, herror⟩ | horder)
      · cases herror
      · exact horder

/-- A run that has committed its first event, a violation at 5. -/
theorem Reference.exists_first (manifest : Manifest Reference.platform) :
    ∃ (s : Runtime Reference.platform) (event : Event Reference.platform),
      s.ledger.events = [event] ∧ Reference.Healthy manifest s 5 ∧
        s.mirror.lastMonotonicNs = some 5 := by
  have hreason : opaqueIdCheck "operator.injected" = .ok () := by decide
  have hfits := (Reference.fits_reasonPayload hreason).mono le_rfl (show 1000 ≤ 100000 by decide)
  have hnone : ∀ id ∈ (none : Option String), opaqueIdCheck id = .ok () := fun _ h => nomatch h
  obtain ⟨event, mirror, -, -, -, -, -, hlast, hobserved, hagrees⟩ := Reference.exists_commit
    (Reference.world 5) none ⟨5, by decide⟩ (Reference.healthy_init manifest 5) hfits hnone rfl rfl
    rfl .violation
  exact ⟨{ Runtime.init (Reference.deployment manifest) Reference.witness with
    ledger := ⟨[event], false⟩, mirror := mirror }, event, rfl,
    ⟨hobserved, hagrees, rfl, show 1 < 1000 by decide, by rw [hlast]; rintro _ ⟨⟩; exact le_rfl⟩, hlast⟩

/-- The second event comes at 7, behind the one at 5. -/
theorem commit_allOrNothing_second :
    ∃ (manifest : Manifest Reference.platform) (s s' : Runtime Reference.platform)
      (first second : Event Reference.platform),
      s.ledger.events = [first] ∧
      s.commit (Reference.deployment manifest) (Reference.world 7) .violation
        (Supervisor.reasonPayload "operator.injected") none none = (s', .ok second) ∧
      AllOrNothing (Reference.deployment manifest) s (s', .ok second) := by
  obtain ⟨manifest, -⟩ := Reference.exists_signed
  obtain ⟨s, first, hevents, hhealthy, hlast⟩ := Reference.exists_first manifest
  have hreason : opaqueIdCheck "operator.injected" = .ok () := by decide
  have hfits := (Reference.fits_reasonPayload hreason).mono le_rfl (show 1000 ≤ 100000 by decide)
  have hnone : ∀ id ∈ (none : Option String), opaqueIdCheck id = .ok () := fun _ h => nomatch h
  have hlater : Reference.Healthy manifest s 7 :=
    ⟨hhealthy.observed, hhealthy.agrees, hhealthy.unsealed, hhealthy.room, fun last hmem =>
      (hhealthy.last last hmem).trans (by decide)⟩
  obtain ⟨second, mirror, hcommit, -⟩ := Reference.exists_commit (Reference.world 7) none
    ⟨7, by decide⟩ hlater hfits hnone rfl rfl rfl .violation
  refine ⟨manifest, s, _, first, second, hevents, hcommit, ?_⟩
  rw [← hcommit]
  refine (commit_allOrNothing_iff _ _ _ _ _ _ _ _ hhealthy.observed hhealthy.agrees).mpr (.inr ?_)
  intro ns hreading last hmem
  obtain rfl : 7 = ns := Except.ok.inj hreading
  rw [hlast] at hmem
  obtain rfl := Option.some.inj hmem
  decide

/-- A violation at 5, and then another one with a reading of 3. -/
theorem commit_not_allOrNothing :
    ¬ ∀ (P : Platform) (d : Deployment P) (env : World) (s : Runtime P) (kind : EventKind)
      (payload : Json) (requestId : Option String) (monotonicNs : Option ℤ),
      EvidenceMirror.Observed d.manifest s.mirror → Agrees s.ledger.events s.mirror →
      AllOrNothing d s (s.commit d env kind payload requestId monotonicNs) := by
  intro hclaim
  obtain ⟨manifest, -⟩ := Reference.exists_signed
  obtain ⟨s, first, -, hhealthy, hlast⟩ := Reference.exists_first manifest
  have hreason : opaqueIdCheck "operator.injected" = .ok () := by decide
  have hfits := (Reference.fits_reasonPayload hreason).mono le_rfl (show 1000 ≤ 100000 by decide)
  have hnone : ∀ id ∈ (none : Option String), opaqueIdCheck id = .ok () := fun _ h => nomatch h
  obtain ⟨late, happend⟩ := Reference.exists_append (Reference.world 3) none
    ⟨3, by decide⟩ hhealthy hfits hnone rfl rfl rfl .violation
  have horder := (allOrNothing_of_append hhealthy.observed hhealthy.agrees happend).mp
    (hclaim _ (Reference.deployment manifest) (Reference.world 3) _ .violation _ none none
      hhealthy.observed hhealthy.agrees)
  have hle := horder 3 rfl 5 hlast
  omega

end Containment
