/-
# No lease is left behind

A dispatch registers a handle, reserves egress under a lease, and gives both back on every
path, whatever fails on the way and whoever kills the run meanwhile. The handles are followed as
a typestate: a thread has at most one, takes one only when it has none, and ends its call
without. So the handles in the registry belong to calls in progress, one each. Every lease has
its handle, and when no call is in progress nothing is reserved.
-/

import Containment.Runtime.Locks
import Containment.Runtime.Registration

namespace Containment

open Json Concurrency Typestate

variable {P : Platform}

/-- A thread registers when it has no handle and takes back its own. -/
def handleProtocol (P : Platform) : Typestate (Op P) Op.Res where
  Own := Set String
  free := ∅
  may held op := match op with
    | .register _ => held = ∅
    | .unregister id => held = {id.1}
    | _ => True
  after held op result := match op, result with
    | .register id, .ok _ => {id.1}
    | .unregister _, _ => ∅
    | _, _ => held

namespace Handles

variable {d : Deployment P} {env : World} {t : ℕ} {s s' : Runtime P × (String → Option ℕ)}

/-- The handles that a thread has registered. -/
def of (t : ℕ) (s : Runtime P × (String → Option ℕ)) : Set String := {id | s.2 id = some t}

/-- The registry holds what somebody has registered, and nobody has registered twice. -/
structure Inv (s : Runtime P × (String → Option ℕ)) : Prop where
  registered : ∀ id, id ∈ s.1.inflight ↔ ∃ t, s.2 id = some t
  single : ∀ id id' t, s.2 id = some t → s.2 id' = some t → id = id'

/-- Operations that neither register nor take back. -/
def Op.Handless : Op P → Prop
  | .register _ | .unregister _ => False
  | _ => True

theorem after_handless {op : Op P} (hop : Op.Handless op) (held : Set String) (r : op.Res) :
    (handleProtocol P).after held op r = held := by
  cases op <;> first | rfl | exact absurd hop id

theorem registrant_handless {op : Op P} (hop : Op.Handless op) (s : Runtime P)
    (registrant : String → Option ℕ) : registrantAfter op t s registrant = registrant := by
  cases op <;> first | rfl | exact absurd hop id

/-- A registration succeeds exactly when there was no handle. -/
theorem register_cases {id : OpaqueId} {r : Except PyError Unit} {s s' : Runtime P}
    (h : exec d env t s (.register id) = some (s', r)) :
    (id.1 ∉ s.inflight ∧ r = .ok () ∧ s'.inflight = s.inflight.insert id.1 false) ∨
      (id.1 ∈ s.inflight ∧ (∃ error, r = .error error) ∧ s'.inflight = s.inflight) := by
  simp only [exec] at h
  cases hregister : s.inflight.register id.1 with
  | error error =>
      rw [hregister] at h
      simp only [Option.some.injEq, Prod.mk.injEq] at h
      obtain ⟨rfl, rfl⟩ := h
      refine .inr ⟨?_, ⟨error, rfl⟩, rfl⟩
      by_contra hfresh
      rw [InflightRegistry.register_eq_ok.mpr ⟨hfresh, rfl⟩] at hregister
      cases hregister
  | ok registry =>
      rw [hregister] at h
      simp only [Option.some.injEq, Prod.mk.injEq] at h
      obtain ⟨rfl, rfl⟩ := h
      obtain ⟨hfresh, hinsert⟩ := InflightRegistry.register_eq_ok.mp hregister
      exact .inl ⟨hfresh, rfl, hinsert.symm⟩

theorem mem_inflight_handless {op : Op P} {r : op.Res} {s s' : Runtime P} (hop : Op.Handless op)
    (h : exec d env t s op = some (s', r)) (id : String) : id ∈ s'.inflight ↔ id ∈ s.inflight := by
  rcases Registration.inflight_exec h with ⟨_, rfl, -⟩ | ⟨_, rfl, -⟩ | ⟨-, hsignal, -⟩ | ⟨hsame, -⟩
  · exact absurd hop not_false
  · exact absurd hop not_false
  · rw [hsignal]
    exact InflightRegistry.mem_signalAll
  · rw [hsame]

theorem of_empty (h : of t s = ∅) (id : String) : s.2 id ≠ some t := fun heq =>
  Set.eq_empty_iff_forall_notMem.mp h id heq

/-- What one operation does to the handles. -/
structure Moved (op : Op P) (r : op.Res) (t : ℕ) (s s' : Runtime P × (String → Option ℕ)) :
    Prop where
  inv : Inv s'
  self : of t s' = (handleProtocol P).after (of t s) op r
  others : ∀ u, u ≠ t → of u s' = of u s

theorem moved_exec {op : Op P} {r : op.Res} (hinv : Inv s)
    (hmay : (handleProtocol P).may (of t s) op)
    (hexec : (registeringService d).exec env t s op = some (s', r)) : Moved op r t s s' := by
  obtain ⟨hdone, hghost⟩ := ghost_exec.mp hexec
  by_cases hop : Op.Handless op
  · rw [registrant_handless hop] at hghost
    have hof (u : ℕ) : of u s' = of u s := by rw [of, hghost]; rfl
    refine ⟨⟨fun id => ?_, ?_⟩, by rw [after_handless hop, hof], fun u _ => hof u⟩
    · rw [mem_inflight_handless hop hdone, hghost]
      exact hinv.registered id
    · rw [hghost]
      exact hinv.single
  cases op
  case register id =>
    have hnone : of t s = ∅ := hmay
    rcases register_cases hdone with ⟨hfresh, rfl, hinflight⟩ | ⟨htaken, ⟨error, rfl⟩, hinflight⟩
    · have hregistrant : s'.2 = Function.update s.2 id.1 (some t) :=
        hghost.trans (if_neg hfresh)
      have hunowned : s.2 id.1 = none := Option.eq_none_iff_forall_ne_some.mpr fun u heq =>
        hfresh ((hinv.registered id.1).mpr ⟨u, heq⟩)
      refine ⟨⟨fun id' => ?_, fun id₁ id₂ u h₁ h₂ => ?_⟩, ?_, fun u hu => ?_⟩
      · rw [hinflight, AList.mem_insert, hinv.registered, hregistrant]
        by_cases heq : id' = id.1
        · subst heq
          simp
        · simp [heq]
      · rw [hregistrant] at h₁ h₂
        by_cases heq₁ : id₁ = id.1 <;> by_cases heq₂ : id₂ = id.1
        · rw [heq₁, heq₂]
        · rw [heq₁, Function.update_self] at h₁
          rw [Function.update_of_ne heq₂, ← h₁] at h₂
          exact absurd h₂ (of_empty hnone id₂)
        · rw [heq₂, Function.update_self] at h₂
          rw [Function.update_of_ne heq₁, ← h₂] at h₁
          exact absurd h₁ (of_empty hnone id₁)
        · rw [Function.update_of_ne heq₁] at h₁
          rw [Function.update_of_ne heq₂] at h₂
          exact hinv.single id₁ id₂ u h₁ h₂
      · ext id'
        change s'.2 id' = some t ↔ id' = id.1
        rw [hregistrant]
        by_cases heq : id' = id.1
        · simp [heq]
        · simp only [Function.update_of_ne heq, heq, iff_false]
          exact of_empty hnone id'
      · ext id'
        change s'.2 id' = some u ↔ s.2 id' = some u
        rw [hregistrant]
        by_cases heq : id' = id.1
        · rw [heq, Function.update_self, hunowned]
          simp [hu.symm]
        · rw [Function.update_of_ne heq]
    · have hregistrant : s'.2 = s.2 := hghost.trans (if_pos htaken)
      have hof (u : ℕ) : of u s' = of u s := by rw [of, hregistrant]; rfl
      refine ⟨⟨fun id' => ?_, ?_⟩, hof t, fun u _ => hof u⟩
      · rw [hinflight, hregistrant]
        exact hinv.registered id'
      · rw [hregistrant]
        exact hinv.single
  case unregister id =>
    have hmine : of t s = {id.1} := hmay
    have howned : s.2 id.1 = some t := by
      change id.1 ∈ of t s
      rw [hmine]
      rfl
    have hregistrant : s'.2 = Function.update s.2 id.1 none := hghost
    have hinflight : s'.1.inflight = s.1.inflight.erase id.1 := by
      simp only [exec, Option.some.injEq, Prod.mk.injEq] at hdone
      rw [← hdone.1]
      rfl
    refine ⟨⟨fun id' => ?_, fun id₁ id₂ u h₁ h₂ => ?_⟩, ?_, fun u hu => ?_⟩
    · rw [hinflight, AList.mem_erase, hinv.registered, hregistrant]
      by_cases heq : id' = id.1
      · simp [heq]
      · simp [heq]
    · rw [hregistrant] at h₁ h₂
      by_cases heq₁ : id₁ = id.1
      · rw [heq₁, Function.update_self] at h₁
        cases h₁
      by_cases heq₂ : id₂ = id.1
      · rw [heq₂, Function.update_self] at h₂
        cases h₂
      rw [Function.update_of_ne heq₁] at h₁
      rw [Function.update_of_ne heq₂] at h₂
      exact hinv.single id₁ id₂ u h₁ h₂
    · refine Set.eq_empty_iff_forall_notMem.mpr fun id' hmem => ?_
      change s'.2 id' = some t at hmem
      rw [hregistrant] at hmem
      by_cases heq : id' = id.1
      · rw [heq, Function.update_self] at hmem
        cases hmem
      · rw [Function.update_of_ne heq] at hmem
        exact heq (hinv.single _ _ t hmem howned)
    · ext id'
      change s'.2 id' = some u ↔ s.2 id' = some u
      rw [hregistrant]
      by_cases heq : id' = id.1
      · rw [heq, Function.update_self, howned]
        simp [hu.symm]
      · rw [Function.update_of_ne heq]
  all_goals exact absurd trivial hop

theorem tracks : (handleProtocol P).Tracks (registeringService d) Inv of where
  kept hinv hmay hexec := (moved_exec hinv hmay hexec).inv
  self hinv hmay hexec := (moved_exec hinv hmay hexec).self
  others hinv hmay hexec := (moved_exec hinv hmay hexec).others
  retire_inv {call outcome s} hinv := by
    refine ⟨fun id => ?_, hinv.single⟩
    dsimp only [registeringService, Service.ghost]
    unfold retire
    split <;> exact hinv.registered id
  retire _ _ _ _ := rfl

/-! ## The code -/

theorem keeps_handless {α : Type} {p : Prog P α} {held : Set String} (hp : p.All Op.Handless) :
    (handleProtocol P).Keeps held p := by
  refine keeps_of_all (all_mono (fun op hop => ⟨?_, after_handless hop held⟩) hp)
  cases op <;> first | exact trivial | exact absurd hop id

theorem handless_perform (op : Op P) (hop : Op.Handless op) :
    (perform op : Prog P _).All Op.Handless := all_perform hop

/-- A section of the gateway or the supervisor leaves the registry alone. -/
theorem handless_side {op : Op P} (hop : op.Ordinary ∨ op.OfSupervisor) :
    (perform op : Prog P _).All Op.Handless := by
  refine handless_perform op ?_
  rcases hop with hop | hop <;> cases op <;> first | exact trivial | exact absurd hop id

theorem compositional : Compositional fun _ p => (p : Prog P _).All Op.Handless :=
  compositional_all Op.Handless

theorem handless_contain (trigger : Event P) (ns : ℤ) :
    (Supervisor.contain trigger ns).All Op.Handless :=
  compositional.contain (fun _ hop => handless_side (.inr hop))
    (fun _ _ _ => handless_perform _ trivial) trigger ns

theorem handless_isolate : (Supervisor.emergencyIsolate : Prog P Unit).All Op.Handless :=
  compositional.emergencyIsolate fun _ hop => handless_side (.inr hop)

theorem handless_failClosed (reasonCode : String) (requestId : Option String) :
    (Gateway.failClosed reasonCode requestId : Prog P Unit).All Op.Handless :=
  compositional.failClosed (fun _ hop => handless_side (.inl hop))
    (fun _ _ _ _ _ => handless_perform _ trivial) handless_contain handless_isolate reasonCode
    requestId

theorem handless_attemptDispatch (action : Action P) (decision : Decision P) (id : OpaqueId)
    (ns bytes : ℤ) : (Executor.attemptDispatch action decision id ns bytes).All Op.Handless := by
  have hfailed := compositional.failed (fun id => handless_perform (.isSet id) trivial)
    (fun lease => handless_perform (.abort lease) trivial) (handless_failClosed (P := P)) action id
  have hcommitted (kind : EventKind) (payload : String → Json) :
      (do
        let sha ← Program.ofExcept action.digest
        raising (perform (.commit kind (payload sha) (some action.requestId.1) none)) :
        Prog P (Event P)).All Op.Handless :=
    all_bind (all_ofExcept _) fun sha => all_raising (handless_perform _ trivial)
  refine all_bind (all_attempt ?_) fun outcome => ?_
  · refine all_bind (all_raising (handless_perform _ trivial)) fun lease => ?_
    refine all_bind (all_attempt (hcommitted .dispatch _)) fun outcome => ?_
    cases outcome with
    | ok event => exact all_bind (handless_perform .confirm trivial) fun _ => trivial
    | error error => exact all_bind (handless_perform (.rollback lease) trivial) fun _ => trivial
  · cases outcome with
    | error error => exact hfailed none error
    | ok lease =>
        refine all_handle ?_ (hfailed (some lease))
        refine all_bind (all_raising (handless_perform _ trivial)) fun secret => ?_
        refine all_bind (all_raising (handless_perform _ trivial)) fun result => ?_
        refine all_bind (all_ofExcept _) fun _ => all_bind ?_ fun _ => trivial
        refine all_bind (all_raising (handless_perform _ trivial)) fun reserved => ?_
        refine all_bind (all_attempt (hcommitted .result _)) fun outcome => ?_
        cases outcome with
        | ok event => exact handless_perform (.settle ..) trivial
        | error error => exact all_bind (handless_perform .failFinish trivial) fun _ => trivial

theorem keeps_dispatch (action : Action P) (decision : Decision P) (ns : ℤ) :
    (handleProtocol P).Keeps (∅ : Set String) (Executor.dispatch d action decision ns) := by
  refine keeps_bind (keeps_handless (all_ofExcept _)) fun _ => ?_
  refine keeps_bind (keeps_handless (all_ofExcept _)) fun _ => ?_
  refine keeps_bind (keeps_handless (all_ofExcept _)) fun rule => ?_
  cases decision.body.authorizationId with
  | none => exact keeps_raise _
  | some id =>
      refine ⟨rfl, fun registered => ?_⟩
      cases registered with
      | error error => exact keeps_raise error
      | ok _ =>
          change (handleProtocol P).Obeys _ ((Executor.attemptDispatch action decision id ns
            rule.maxResponseBytes.1).finalize (perform (.unregister id))) ({id.1} : Set String)
          refine obeys_bind (obeys_attempt_ok (keeps_handless
            (handless_attemptDispatch action decision id ns _))) (fun outcome own h => ?_) ?_
          · rw [h.2]
            exact ⟨rfl, fun _ => obeys_ofExcept.mpr rfl⟩
          · rintro _ _ ⟨⟨_, ⟨⟩⟩, -⟩

theorem keeps_body (call : Call P) :
    (handleProtocol P).Keeps (handleProtocol P).free (body d call) := by
  have hmap {α β : Type} {p : Prog P α} {f : α → β} (hp : p.All Op.Handless) :
      (handleProtocol P).Keeps (∅ : Set String) (f <$> p) :=
    keeps_handless (all_bind hp fun _ => trivial)
  have hordinary (op : Op P) (hop : op.Ordinary) := handless_side (P := P) (.inl hop)
  have hsupervisor (op : Op P) (hop : op.OfSupervisor) := handless_side (P := P) (.inr hop)
  have hcommit (kind : EventKind) (payload : Json) (requestId : Option String) (ns : Option ℤ)
      (_ : kind.OfGateway) := handless_perform (P := P) (.commit kind payload requestId ns) trivial
  cases call with
  | submitRaw raw =>
      exact hmap (compositional.submitRaw hordinary hcommit handless_contain handless_isolate d raw)
  | dispatch action decision ns =>
      exact keeps_bind (keeps_dispatch action decision ns) fun _ => keeps_ret _
  | failClosed reasonCode requestId => exact hmap (handless_failClosed reasonCode requestId)
  | enforceRuntimeDeadline ns =>
      exact hmap (compositional.enforceRuntimeDeadline hordinary hcommit handless_contain d ns)
  | contain trigger ns => exact hmap (handless_contain trigger ns)
  | emergencyIsolate => exact hmap handless_isolate
  | complete => exact hmap (compositional.complete hsupervisor d)
  | receipt status => exact hmap (compositional.receipt hsupervisor d status)

/-- The handles of a reachable configuration are those of its calls. -/
theorem held (witness : TransparencyWitness P) {c : Config (runtimeService d)}
    (h : Reachable (anySchedule d) (Runtime.init d witness) c) : ∃ registrant,
    (handleProtocol P).Held Inv of (c.beside registrant : Config (registeringService d)) := by
  obtain ⟨registrant, hreach⟩ : ∃ registrant, Reachable (anyRegistrations d)
      (Runtime.init d witness, fun _ => none) (c.beside registrant) :=
    steps_ghost (fun _ _ _ _ => trivial) (fun _ _ _ _ _ => trivial) h _
  refine ⟨registrant, held_of_reachable tracks keeps_body ⟨fun id => ?_, ?_⟩ (fun t => ?_) hreach⟩
  · simp [Runtime.init]
  · intro id id' t heq
    cases heq
  · exact Set.eq_empty_iff_forall_notMem.mpr fun id heq => by cases heq

end Handles

/-- Every handle belongs to a call in progress, no two to the same one, and every lease has its
handle. Between calls nothing is left: no handle, no lease and no reserved egress. -/
structure LeakFree {d : Deployment P} (c : Config (runtimeService d)) : Prop where
  owned : ∃ owner : String → ℕ, Set.InjOn owner {id | id ∈ c.shared.inflight} ∧
    ∀ id ∈ c.shared.inflight, c.running (owner id) ≠ none
  leased : ∀ id ∈ c.shared.state.activeAuthorizations, id ∈ c.shared.inflight
  idle : c.Quiescent → c.shared.inflight = ∅ ∧ c.shared.state.activeAuthorizations = ∅ ∧
    c.shared.state.inflight = 0 ∧ c.shared.state.reservedEgressBytes = 0

theorem eq_empty_of_forall_notMem {β : String → Type} {table : AList β} (h : ∀ id, id ∉ table) :
    table = ∅ := by
  have hkeys : table.keys = [] := List.eq_nil_iff_forall_not_mem.mpr fun id hid =>
    h id (AList.mem_keys.mpr hid)
  exact AList.ext (List.map_eq_nil_iff.mp hkeys)

/-- In every interleaving of any calls, with any answers of the outside world, no lease, no
reservation and no handle outlives its call. -/
theorem leakFree_of_reachable (P : Platform) (d : Deployment P) (witness : TransparencyWitness P)
    (c : Config (runtimeService d)) (h : Reachable (anySchedule d) (Runtime.init d witness) c) :
    LeakFree c := by
  obtain ⟨registrant, hheld⟩ := Handles.held witness h
  have hleases : LeasesRegistered c.shared :=
    leasesRegistered_of_reachable (h.mono (fun _ _ _ => trivial) fun _ _ _ _ => trivial)
  have haccounting : RunState.Accounting c.shared.state :=
    accounting_of_reachable (h.mono (fun _ _ _ => trivial) fun _ _ _ _ => trivial)
  have hregistered (id : String) : id ∈ c.shared.inflight ↔ ∃ t, registrant id = some t :=
    hheld.inv.registered id
  have hbusy {id : String} {t : ℕ} (howner : registrant id = some t) : c.running t ≠ none := by
    intro hidle
    have hnone : Handles.of t (c.beside registrant : Config (registeringService d)).shared = ∅ :=
      hheld.idle t hidle
    exact Handles.of_empty hnone id howner
  refine ⟨⟨fun id => (registrant id).getD 0, ?_, ?_⟩, hleases, fun hquiescent => ?_⟩
  · intro id hid id' hid' heq
    obtain ⟨t, ht⟩ := (hregistered id).mp hid
    obtain ⟨t', ht'⟩ := (hregistered id').mp hid'
    simp only [ht, ht', Option.getD_some] at heq
    exact hheld.inv.single id id' t ht (heq ▸ ht')
  · intro id hid
    obtain ⟨t, ht⟩ := (hregistered id).mp hid
    simp only [ht, Option.getD_some]
    exact hbusy ht
  · have hempty (id : String) : id ∉ c.shared.inflight := by
      intro hid
      obtain ⟨t, ht⟩ := (hregistered id).mp hid
      exact hbusy ht (hquiescent t)
    have hactive : c.shared.state.activeAuthorizations = ∅ :=
      eq_empty_of_forall_notMem fun id hid => hempty id (hleases id hid)
    refine ⟨eq_empty_of_forall_notMem hempty, hactive, ?_, ?_⟩
    · rw [haccounting.inflight_eq, hactive]
      rfl
    · rw [haccounting.reserved_eq, hactive]
      rfl

open Reference in
/-- The theorem while a dispatch of the reference deployment holds its lease. -/
theorem leakFree_inflight : ∃ (manifest : Manifest platform)
    (c : Config (runtimeService (deployment manifest))),
    Reachable (anySchedule (deployment manifest))
      (Runtime.init (deployment manifest) Reference.witness) c ∧
    "auth:00" ∈ c.shared.state.activeAuthorizations ∧ LeakFree c := by
  obtain ⟨manifest, hm⟩ := exists_signed
  obtain ⟨s₁, decision, code, hreach, -, hinflight⟩ :=
    exists_reachable_inflight (anySchedule (deployment manifest)) hm (fun _ _ => trivial)
      (fun _ _ _ _ => trivial) fun _ _ _ _ => trivial
  refine ⟨manifest, _, hreach, ?_, leakFree_of_reachable _ _ _ _ hreach⟩
  obtain ⟨_, _, _, _, _, _, hshape⟩ := hinflight.shape
  change "auth:00" ∈ s₁.state.activeAuthorizations
  rw [hshape]
  exact (AList.mem_insert _).mpr (.inl rfl)

end Containment
