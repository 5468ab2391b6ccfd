/-
# Leases and cancellation handles

A dispatch registers its cancellation handle before it asks for a lease and takes the handle
back after the lease is gone. The registry has no owners: it refuses an authorization that is
already there, and that is what keeps a second dispatch of the same decision from taking the
handle of the first one away. So in every run each active lease has its handle in the
registry.
-/

import Containment.Runtime.ReceiptStatus

namespace Containment

open Json Concurrency Discipline

variable {P : Platform}

/-! ## The registry -/

namespace InflightRegistry

variable {registry : InflightRegistry} {id : String}

theorem register_eq_ok {registry' : InflightRegistry} :
    registry.register id = .ok registry' ↔ id ∉ registry ∧ registry.insert id false = registry' := by
  unfold register
  split_ifs with h <;> simp [h]

theorem keys_signalAll : registry.signalAll.1.keys = registry.keys := by
  simp [signalAll, AList.keys, List.keys, Function.comp_def]

theorem mem_signalAll : id ∈ registry.signalAll.1 ↔ id ∈ registry := by
  rw [AList.mem_keys, AList.mem_keys, keys_signalAll]

/-- Every handle is set. -/
theorem lookup_signalAll (h : id ∈ registry) : registry.signalAll.1.lookup id = some true := by
  obtain ⟨value, hvalue⟩ := Option.isSome_iff_exists.mp (AList.lookup_isSome.mpr (mem_signalAll.mpr h))
  have hmem := AList.mem_lookup_iff.mp hvalue
  obtain ⟨entry, -, heq⟩ := List.mem_map.mp hmem
  obtain ⟨-, hset⟩ := Sigma.mk.inj heq
  rw [hvalue, ← eq_of_heq hset]

end InflightRegistry

/-- Every active lease has its handle in the registry. -/
def LeasesRegistered (s : Runtime P) : Prop :=
  ∀ id ∈ s.state.activeAuthorizations, id ∈ s.inflight

/-- The thread that has registered an authorization. -/
def registrantAfter (op : Op P) (t : ℕ) (s : Runtime P) (registrant : String → Option ℕ) :
    String → Option ℕ :=
  match op with
  | .register id =>
      if id.1 ∈ s.inflight then registrant else Function.update registrant id.1 (some t)
  | .unregister id => Function.update registrant id.1 none
  | _ => registrant

/-- The runtime beside the threads that have registered. -/
@[reducible]
def registeringService (d : Deployment P) : Service (Op P) Op.Res PyError :=
  (runtimeService d).ghost fun _ t op s _ registrant => registrantAfter op t s registrant

/-- Concurrent calls of any kind, with any answers of the outside world. -/
def anyRegistrations (d : Deployment P) : RunRule (registeringService d) where
  starts _ _ := True
  moves _ _ _ := True

namespace Registration

variable {d : Deployment P} {env : World} {t : ℕ} {s s' : Runtime P × (String → Option ℕ)}
  {id : String}

/-- What holds at all times. -/
structure Inv (s : Runtime P × (String → Option ℕ)) : Prop where
  registered : ∀ id t, s.2 id = some t → id ∈ s.1.inflight
  leases : LeasesRegistered s.1

/-- A lease is asked for and a handle is taken back by the thread that registered it. -/
def Ready (t : ℕ) (s : Runtime P × (String → Option ℕ)) : Op P → Prop
  | .reserve body _ _ => ∀ id, body.authorizationId = some id → s.2 id.1 = some t
  | .unregister id => s.2 id.1 = some t ∧ id.1 ∉ s.1.state.activeAuthorizations
  | _ => True

/-- Nobody else touches the lease or the handle of a registered authorization. -/
def Rely (t : ℕ) (s s' : Runtime P × (String → Option ℕ)) : Prop :=
  ∀ id, s.2 id = some t → s'.2 id = some t ∧
    (id ∉ s.1.state.activeAuthorizations → id ∉ s'.1.state.activeAuthorizations)

/-! ## One operation -/

/-- The four things that can happen to the registry. -/
theorem inflight_exec {op : Op P} {r : op.Res} {s s' : Runtime P}
    (h : exec d env t s op = some (s', r)) :
    (∃ id, op = .register id ∧ id.1 ∉ s.inflight ∧ s'.inflight = s.inflight.insert id.1 false ∧
      s'.state = s.state) ∨
    (∃ id, op = .unregister id ∧ s'.inflight = s.inflight.erase id.1 ∧ s'.state = s.state) ∨
    (op = .signalAll ∧ s'.inflight = s.inflight.signalAll.1 ∧ s'.state = s.state) ∨
    (s'.inflight = s.inflight ∧ (∀ id, op = .register id → id.1 ∈ s.inflight) ∧
      (∀ id, op ≠ .unregister id) ∧ op ≠ .signalAll) := by
  cases op
  case register id =>
    simp only [exec] at h
    cases hregister : s.inflight.register id.1 with
    | error error =>
        rw [hregister] at h
        simp only [Option.some.injEq, Prod.mk.injEq] at h
        obtain ⟨rfl, -⟩ := h
        have hmem : id.1 ∈ s.inflight := by
          by_contra hfresh
          rw [InflightRegistry.register_eq_ok.mpr ⟨hfresh, rfl⟩] at hregister
          cases hregister
        refine .inr (.inr (.inr ⟨rfl, ?_, by rintro _ ⟨⟩, by rintro ⟨⟩⟩))
        rintro _ ⟨⟩
        exact hmem
    | ok registry =>
        rw [hregister] at h
        simp only [Option.some.injEq, Prod.mk.injEq] at h
        obtain ⟨rfl, -⟩ := h
        obtain ⟨hfresh, hinsert⟩ := InflightRegistry.register_eq_ok.mp hregister
        exact .inl ⟨id, rfl, hfresh, hinsert.symm, rfl⟩
  case unregister id =>
    simp only [exec, Option.some.injEq, Prod.mk.injEq] at h
    obtain ⟨rfl, -⟩ := h
    exact .inr (.inl ⟨id, rfl, rfl, rfl⟩)
  case signalAll =>
    simp only [exec, Option.some.injEq, Prod.mk.injEq] at h
    obtain ⟨rfl, -⟩ := h
    exact .inr (.inr (.inl ⟨rfl, rfl, rfl⟩))
  case commit kind payload requestId ns =>
    simp only [exec, Option.some.injEq] at h
    rcases commit_cases d env s kind payload requestId ns with ⟨_, heq⟩ |
      ⟨_, _, _, _, -, -, heq⟩ <;>
    · rw [heq, Prod.mk.injEq] at h
      obtain ⟨rfl, -⟩ := h
      exact .inr (.inr (.inr ⟨rfl, by rintro _ ⟨⟩, by rintro _ ⟨⟩, by rintro ⟨⟩⟩))
  all_goals
    simp only [exec, onState_eq_some, Option.some.injEq, Prod.mk.injEq,
      Option.ite_none_right_eq_some] at h
  all_goals try split at h
  all_goals try split at h
  all_goals try simp only [Option.some.injEq, Prod.mk.injEq] at h
  all_goals first | obtain ⟨rfl, -⟩ := h | obtain ⟨-, rfl, -⟩ := h
  all_goals exact .inr (.inr (.inr ⟨rfl, by rintro _ ⟨⟩, by rintro _ ⟨⟩, by rintro ⟨⟩⟩))

/-- A registration that returns found no handle. -/
theorem fresh_of_register {id : OpaqueId} {s s' : Runtime P}
    (h : exec d env t s (.register id) = some (s', .ok ())) :
    id.1 ∉ s.inflight ∧ s'.state = s.state := by
  simp only [exec] at h
  cases hregister : s.inflight.register id.1 with
  | error error =>
      rw [hregister] at h
      cases h
  | ok registry =>
      rw [hregister] at h
      simp only [Option.some.injEq, Prod.mk.injEq] at h
      obtain ⟨rfl, -⟩ := h
      exact ⟨(InflightRegistry.register_eq_ok.mp hregister).1, rfl⟩

/-- Only a granted reservation makes a lease, and it does not latch. -/
theorem active_exec {op : Op P} {r : op.Res} {s s' : Runtime P}
    (h : exec d env t s op = some (s', r)) (hactive : id ∈ s'.state.activeAuthorizations) :
    id ∈ s.state.activeAuthorizations ∨ (s'.state.phase = .running ∧ ∃ body ns bytes,
      op = .reserve body ns bytes ∧ ∃ id' : OpaqueId, body.authorizationId = some id' ∧ id'.1 = id) := by
  cases op
  case commit kind payload requestId ns =>
    simp only [exec, Option.some.injEq] at h
    rcases commit_cases d env s kind payload requestId ns with ⟨_, heq⟩ |
      ⟨_, _, _, _, -, -, heq⟩ <;>
    · rw [heq, Prod.mk.injEq] at h
      obtain ⟨rfl, -⟩ := h
      exact .inl hactive
  case reserve body nowNs bytes =>
    simp only [exec, Option.ite_none_right_eq_some] at h
    obtain ⟨-, h⟩ := h
    rcases RunState.reserve_cases s.state body nowNs bytes with ⟨_, heq⟩ | ⟨_, heq⟩ |
      ⟨id', expires, hphase, -, -, hid', -, -, -, -, -, heq⟩
    · rw [heq] at h
      simp only [Option.some.injEq, Prod.mk.injEq] at h
      obtain ⟨rfl, -⟩ := h
      exact .inl hactive
    · rw [heq] at h
      simp only [Option.some.injEq, Prod.mk.injEq] at h
      obtain ⟨rfl, -⟩ := h
      dsimp only at hactive
      rw [RunState.active_latchKillLocked] at hactive
      exact .inl hactive
    · rw [heq] at h
      simp only [Option.some.injEq, Prod.mk.injEq] at h
      obtain ⟨rfl, -⟩ := h
      rcases (AList.mem_insert _).mp hactive with rfl | hold
      · exact .inr ⟨hphase, body, nowNs, bytes, rfl, id', hid', rfl⟩
      · exact .inl hold
  case prepareFinish lease egressBytes =>
    simp only [exec, Option.ite_none_right_eq_some] at h
    obtain ⟨-, h⟩ := h
    rcases RunState.prepareFinish_cases s.state lease egressBytes with ⟨_, heq⟩ | ⟨_, heq⟩ |
      ⟨_, -, -, -, heq⟩ <;>
    · rw [heq] at h
      simp only [Option.some.injEq, Prod.mk.injEq] at h
      obtain ⟨rfl, -⟩ := h
      first
      | exact .inl hactive
      | (dsimp only at hactive; rw [RunState.active_latchKillLocked] at hactive; exact .inl hactive)
  all_goals
    simp only [exec, onState_eq_some, Option.some.injEq, Prod.mk.injEq,
      Option.ite_none_right_eq_some] at h
  all_goals try split at h
  all_goals try split at h
  all_goals try simp only [Option.some.injEq, Prod.mk.injEq] at h
  all_goals first | obtain ⟨rfl, -⟩ := h | obtain ⟨-, rfl, -⟩ := h
  all_goals refine .inl ?_
  case admitRaw bytes ns =>
    unfold RunState.admitRaw at hactive
    dsimp only at hactive
    obtain ⟨window, count, hwindow⟩ :=
      RunState.openWindow_eq { s.state with observed := s.state.observed + 1 } ns
    rw [hwindow] at hactive
    split_ifs at hactive
    · exact hactive
    · rwa [RunState.active_latchKillLocked] at hactive
    · exact hactive
  case latchKill =>
    rwa [show s.state.latchKill.1 = s.state.latchKillLocked from rfl,
      RunState.active_latchKillLocked] at hactive
  case recordDecision verdict =>
    unfold RunState.recordDecision at hactive
    split_ifs at hactive <;> exact hactive
  case rollback lease =>
    dsimp only [RunState.rollback] at hactive
    rw [RunState.active_latchKillLocked] at hactive
    exact (AList.mem_erase.mp hactive).2
  case failFinish => rwa [RunState.active_latchKillLocked] at hactive
  case settle lease reserved bytes => exact (AList.mem_erase.mp hactive).2
  case abort lease =>
    dsimp only at hactive
    unfold RunState.abortAuthorized at hactive
    split at hactive
    · exact hactive
    · exact (AList.mem_erase.mp hactive).2
  case markKilled =>
    unfold RunState.markKilled at hactive
    split_ifs at hactive
    · exact hactive
    · exact absurd hactive (AList.notMem_empty _)
  case markCompleted =>
    unfold RunState.markCompleted at hactive
    split_ifs at hactive <;> exact hactive
  all_goals exact hactive

theorem registrant_of_other {op : Op P} {s : Runtime P} {registrant : String → Option ℕ}
    (hregister : ∀ id, op = .register id → id.1 ∈ s.inflight)
    (hunregister : ∀ id, op ≠ .unregister id) : registrantAfter op t s registrant = registrant := by
  cases op
  case register id => exact if_pos (hregister id rfl)
  case unregister id => exact absurd rfl (hunregister id)
  all_goals rfl

theorem inv_exec {op : Op P} {r : op.Res} (h : Inv s) (hready : Ready t s op)
    (hexec : (registeringService d).exec env t s op = some (s', r)) : Inv s' := by
  obtain ⟨hdone, hghost⟩ := ghost_exec.mp hexec
  obtain ⟨s₁, registrant⟩ := s'
  dsimp only at hdone hghost
  subst hghost
  rcases inflight_exec hdone with ⟨id', rfl, hfresh, hinflight, hstate⟩ |
    ⟨id', rfl, hinflight, hstate⟩ | ⟨rfl, hinflight, hstate⟩ |
    ⟨hinflight, hregister, hunregister, -⟩
  · refine ⟨fun id u hu => ?_, fun id hid => ?_⟩
    · rw [hinflight]
      by_cases heq : id = id'.1
      · exact (AList.mem_insert _).mpr (.inl heq)
      · dsimp only [registrantAfter] at hu
        rw [if_neg hfresh, Function.update_of_ne heq] at hu
        exact (AList.mem_insert _).mpr (.inr (h.registered id u hu))
    · rw [hstate] at hid
      rw [hinflight]
      exact (AList.mem_insert _).mpr (.inr (h.leases id hid))
  · refine ⟨fun id u hu => ?_, fun id hid => ?_⟩
    · rw [hinflight]
      dsimp only [registrantAfter] at hu
      by_cases heq : id = id'.1
      · rw [heq, Function.update_self] at hu
        cases hu
      · rw [Function.update_of_ne heq] at hu
        exact AList.mem_erase.mpr ⟨heq, h.registered id u hu⟩
    · rw [hstate] at hid
      rw [hinflight]
      refine AList.mem_erase.mpr ⟨?_, h.leases id hid⟩
      rintro rfl
      exact hready.2 hid
  · refine ⟨fun id u hu => ?_, fun id hid => ?_⟩
    · rw [hinflight]
      exact InflightRegistry.mem_signalAll.mpr (h.registered id u hu)
    · rw [hstate] at hid
      rw [hinflight]
      exact InflightRegistry.mem_signalAll.mpr (h.leases id hid)
  · rw [registrant_of_other hregister hunregister]
    refine ⟨fun id u hu => ?_, fun id hid => ?_⟩
    · rw [hinflight]
      exact h.registered id u hu
    · rw [hinflight]
      rcases active_exec hdone hid with hold | ⟨-, body, ns, bytes, rfl, id', hid', rfl⟩
      · exact h.leases id hold
      · exact h.registered _ t (hready id' hid')

theorem rely_exec {op : Op P} {r : op.Res} (h : Inv s) (hready : Ready t s op)
    (hexec : (registeringService d).exec env t s op = some (s', r)) {u : ℕ} (hu : u ≠ t) :
    Rely u s s' := by
  obtain ⟨hdone, hghost⟩ := ghost_exec.mp hexec
  obtain ⟨s₁, registrant⟩ := s'
  dsimp only at hdone hghost
  subst hghost
  intro id hid
  have hmine : s.2 id ≠ some t := by
    rw [hid]
    exact fun heq => hu (Option.some.inj heq)
  refine ⟨?_, fun hinactive hactive => ?_⟩
  · rcases inflight_exec hdone with ⟨id', rfl, hfresh, -⟩ | ⟨id', rfl, -⟩ | ⟨rfl, -⟩ |
      ⟨-, hregister, hunregister, -⟩
    · dsimp only [registrantAfter]
      rw [if_neg hfresh, Function.update_of_ne]
      · exact hid
      · rintro rfl
        exact hfresh (h.registered _ u hid)
    · dsimp only [registrantAfter]
      rw [Function.update_of_ne]
      · exact hid
      · rintro rfl
        exact hmine hready.1
    · exact hid
    · rw [registrant_of_other hregister hunregister]
      exact hid
  · rcases active_exec hdone hactive with hold | ⟨-, body, ns, bytes, rfl, id', hid', rfl⟩
    · exact hinactive hold
    · exact hmine (hready id' hid')

variable (d) in
def discipline : Discipline (anyRegistrations d) where
  inv := Inv
  ready := Ready
  rely := Rely
  rely_refl _ _ := fun _ hid => ⟨hid, fun hinactive => hinactive⟩
  rely_trans h h' := fun id hid =>
    ⟨(h' id (h id hid).1).1, fun hinactive => (h' id (h id hid).1).2 ((h id hid).2 hinactive)⟩
  act_inv h hready _ hexec := inv_exec h hready hexec
  act_rely h hready _ hexec _ hu := rely_exec h hready hexec hu

/-! ## The code -/

/-- Operations that neither ask for a lease nor take a handle back. -/
def Op.Free : Op P → Prop
  | .reserve .. | .unregister _ => False
  | _ => True

theorem ready_of_free {op : Op P} (h : Op.Free op) : Ready t s op := by
  cases op <;> first | exact trivial | exact absurd h id

theorem free_of_aside {op : Op P} (h : op.Aside) : Op.Free op := by
  cases op <;> first | exact trivial | exact absurd h id

theorem free_event (kind : EventKind) (payload : Json) (requestId : Option String) (ns : Option ℤ)
    (_ : kind = .violation ∨ kind = .overloadSummary ∨ kind = .killAcknowledged) :
    Op.Free (.commit kind payload requestId ns : Op P) := trivial

/-- The thread has registered the authorization. -/
def Mine (t : ℕ) (id : OpaqueId) (s : Runtime P × (String → Option ℕ)) : Prop := s.2 id.1 = some t

/-- The same, and no lease is active under it. -/
structure Unleased (t : ℕ) (id : OpaqueId) (s : Runtime P × (String → Option ℕ)) : Prop where
  mine : Mine t id s
  inactive : id.1 ∉ s.1.state.activeAuthorizations

theorem mine_exec {op : Op P} {r : op.Res} {id : OpaqueId} (hop : ∀ id, op ≠ .unregister id)
    (hexec : (registeringService d).exec env t s op = some (s', r)) (h : Mine t id s) :
    Mine t id s' := by
  obtain ⟨-, hghost⟩ := ghost_exec.mp hexec
  rw [Mine, hghost]
  cases op
  case register id' =>
    dsimp only [registrantAfter]
    split_ifs
    · exact h
    · by_cases heq : id.1 = id'.1
      · rw [heq, Function.update_self]
      · rw [Function.update_of_ne heq]
        exact h
  case unregister id' => exact absurd rfl (hop id')
  all_goals exact h

theorem safe_mine {α : Type} {id : OpaqueId} {p : Prog P α} (hp : p.All Op.Free) (h : Mine t id s) :
    (discipline d).Safe t (fun _ s => Mine t id s) p s :=
  safe_of_all (D := discipline d) (K := Mine t id) (fun hrely h => (hrely _ h).1)
    (fun hop _ _ => ready_of_free hop)
    (fun hop _ hexec _ h => mine_exec (fun _ heq => by rw [heq] at hop; exact hop) hexec h) hp h

theorem safe_unleased {α : Type} {id : OpaqueId} {p : Prog P α} (hp : p.All Op.Free)
    (h : Unleased t id s) : (discipline d).Safe t (fun _ s => Unleased t id s) p s :=
  safe_of_all (D := discipline d) (K := Unleased t id)
    (fun hrely h => ⟨(hrely _ h.mine).1, (hrely _ h.mine).2 h.inactive⟩)
    (fun hop _ _ => ready_of_free hop)
    (fun hop _ hexec _ h => by
      refine ⟨mine_exec (fun _ heq => by rw [heq] at hop; exact hop) hexec h.mine, fun hactive => ?_⟩
      rcases active_exec (ghost_exec.mp hexec).1 hactive with hold | ⟨-, _, _, _, rfl, -⟩
      · exact h.inactive hold
      · exact hop) hp h

theorem clean_of_free {α : Type} {p : Prog P α} (hp : p.All Op.Free) : (discipline d).Clean p :=
  fun _ _ => safe_of_all (K := fun _ => True) (fun _ _ => trivial)
    (fun hop _ _ => ready_of_free hop) (fun _ _ _ _ _ => trivial) hp trivial

/-- An operation that ends the lease. -/
theorem safe_release {op : Op P} {id : OpaqueId} (hfree : Op.Free op)
    (hgone : ∀ {env : World} {s s' : Runtime P} {r : op.Res}, exec d env t s op = some (s', r) →
      id.1 ∉ s'.state.activeAuthorizations) (h : Mine t id s) :
    (discipline d).Safe t (fun _ s => Unleased t id s) (perform op : Prog P op.Res) s := by
  refine safe_act fun s₁ hrely _ => ⟨ready_of_free hfree, fun env s₂ _ _ hexec _ => ⟨?_, ?_⟩⟩
  · exact mine_exec (fun _ heq => by rw [heq] at hfree; exact hfree) hexec (hrely _ h).1
  · exact hgone (ghost_exec.mp hexec).1

theorem notMem_rollback {lease : DispatchLease} {id : OpaqueId} {s s' : Runtime P} {r : Unit}
    (hlease : lease.authorizationId = id.1)
    (h : exec d env t s (.rollback lease) = some (s', r)) :
    id.1 ∉ s'.state.activeAuthorizations := by
  simp only [exec, Option.ite_none_right_eq_some, Option.some.injEq, Prod.mk.injEq] at h
  obtain ⟨-, rfl, -⟩ := h
  have hactive : (s.state.rollback lease).activeAuthorizations =
      s.state.activeAuthorizations.erase lease.authorizationId := by
    unfold RunState.rollback RunState.latchKillLocked
    split_ifs <;> rfl
  rw [show ({ s with state := s.state.rollback lease, stateLock := none } : Runtime P).state =
    s.state.rollback lease from rfl, hactive, hlease]
  exact fun hmem => (AList.mem_erase.mp hmem).1 rfl

theorem notMem_settle {lease : DispatchLease} {id : OpaqueId} {reserved bytes : ℤ}
    {s s' : Runtime P} {r : Unit} (hlease : lease.authorizationId = id.1)
    (h : exec d env t s (.settle lease reserved bytes) = some (s', r)) :
    id.1 ∉ s'.state.activeAuthorizations := by
  simp only [exec, Option.ite_none_right_eq_some, Option.some.injEq, Prod.mk.injEq] at h
  obtain ⟨-, rfl, -⟩ := h
  intro hmem
  exact (AList.mem_erase.mp hmem).1 hlease.symm

theorem notMem_abort {lease : DispatchLease} {id : OpaqueId} {s s' : Runtime P} {r : Unit}
    (hlease : lease.authorizationId = id.1)
    (h : exec d env t s (.abort lease) = some (s', r)) :
    id.1 ∉ s'.state.activeAuthorizations := by
  simp only [exec, Option.ite_none_right_eq_some, Option.some.injEq, Prod.mk.injEq] at h
  obtain ⟨-, rfl, -⟩ := h
  dsimp only
  unfold RunState.abortAuthorized
  rw [hlease]
  cases hlookup : s.state.activeAuthorizations.lookup id.1 with
  | none => exact AList.lookup_eq_none.mp hlookup
  | some reserved => exact fun hmem => (AList.mem_erase.mp hmem).1 rfl

/-- A reservation grants the lease that the decision names, or leaves the leases alone. -/
theorem lease_of_reserve {body : DecisionBody} {id : OpaqueId} {ns bytes : ℤ} {s s' : Runtime P}
    {r : Except PyError DispatchLease} (hid : body.authorizationId = some id)
    (h : exec d env t s (.reserve body ns bytes) = some (s', r)) :
    (∃ lease, r = .ok lease ∧ lease.authorizationId = id.1) ∨
      ∃ error, r = .error error ∧ s'.state.activeAuthorizations = s.state.activeAuthorizations := by
  simp only [exec, Option.ite_none_right_eq_some] at h
  obtain ⟨-, h⟩ := h
  rcases RunState.reserve_cases s.state body ns bytes with ⟨error, heq⟩ | ⟨error, heq⟩ |
    ⟨id', expires, -, -, -, hid', -, -, -, -, -, heq⟩
  · rw [heq] at h
    simp only [Option.some.injEq, Prod.mk.injEq] at h
    obtain ⟨rfl, rfl⟩ := h
    exact .inr ⟨error, rfl, rfl⟩
  · rw [heq] at h
    simp only [Option.some.injEq, Prod.mk.injEq] at h
    obtain ⟨rfl, rfl⟩ := h
    refine .inr ⟨error, rfl, ?_⟩
    dsimp only
    unfold RunState.latchKillLocked
    split_ifs <;> rfl
  · rw [heq] at h
    simp only [Option.some.injEq, Prod.mk.injEq] at h
    obtain ⟨rfl, rfl⟩ := h
    obtain rfl : id' = id := Option.some.inj (hid'.symm.trans hid)
    exact .inl ⟨_, rfl, rfl⟩

/-- How a dispatch stands when its first section is over. -/
def Begun (t : ℕ) (id : OpaqueId) (outcome : Except PyError DispatchLease)
    (s : Runtime P × (String → Option ℕ)) : Prop :=
  match outcome with
  | .ok lease => Mine t id s ∧ lease.authorizationId = id.1
  | .error _ => Unleased t id s

theorem safe_reserve {body : DecisionBody} {id : OpaqueId} {ns bytes : ℤ}
    (hid : body.authorizationId = some id) (h : Unleased t id s) :
    (discipline d).Safe t (Begun t id)
      (raising (perform (.reserve body ns bytes)) : Prog P DispatchLease) s := by
  refine safe_act fun s₁ hrely _ => ⟨?_, fun env s₂ r _ hexec _ => safe_ofExcept.mpr ?_⟩
  · intro id' hid'
    obtain rfl : id' = id := Option.some.inj (hid'.symm.trans hid)
    exact (hrely _ h.mine).1
  have hmine := mine_exec (by rintro _ ⟨⟩) hexec (hrely _ h.mine).1
  rcases lease_of_reserve hid (ghost_exec.mp hexec).1 with ⟨lease, rfl, hlease⟩ |
    ⟨error, rfl, hactive⟩
  · exact ⟨hmine, hlease⟩
  · refine ⟨hmine, ?_⟩
    rw [hactive]
    exact (hrely _ h.mine).2 h.inactive

theorem safe_beginAuthorized {action : Action P} {decision : Decision P} {id : OpaqueId}
    (hid : decision.body.authorizationId = some id) (nowNs bytes : ℤ) (h : Unleased t id s) :
    (discipline d).Safe t (Begun t id) (Executor.beginAuthorized action decision id nowNs bytes) s := by
  refine safe_seq (safe_reserve hid h) (fun lease s₁ hleased => ?_) fun error s₁ hrefused => hrefused
  obtain ⟨hmine, hlease⟩ := hleased
  have hcommit : (discipline d).Safe t (fun _ s => Mine t id s) (do
      let sha ← Program.ofExcept action.digest
      raising (perform (.commit .dispatch (Executor.dispatchPayload sha decision id)
        (some action.requestId.1) none)) : Prog P (Event P)) s₁ :=
    safe_mine (all_bind (all_ofExcept _) fun _ => all_raising (all_perform trivial)) hmine
  refine safe_attempt_seq hcommit fun outcome s₂ hmine₂ => ?_
  cases outcome with
  | ok event =>
      refine safe_act fun s₃ hrely _ => ⟨trivial, fun env s₄ _ _ hexec _ => ?_⟩
      exact ⟨mine_exec (by rintro _ ⟨⟩) hexec (hrely _ hmine₂).1, hlease⟩
  | error error =>
      exact safe_seq (safe_release trivial (fun hexec => notMem_rollback hlease hexec) hmine₂)
        (fun _ s₃ hgone => hgone) fun error s₃ hgone => hgone

/-- How a dispatch stands when its lease is settled, or an exception is on its way. -/
def Delivered {α : Type} (t : ℕ) (id : OpaqueId) (outcome : Except PyError α)
    (s : Runtime P × (String → Option ℕ)) : Prop :=
  match outcome with
  | .ok _ => Unleased t id s
  | .error _ => Mine t id s

theorem safe_finishAuthorized {action : Action P} {decision : Decision P} {id : OpaqueId}
    {lease : DispatchLease} {result : TransportResult} (hlease : lease.authorizationId = id.1)
    (h : Mine t id s) : (discipline d).Safe t (Delivered t id)
      (Executor.finishAuthorized action decision id lease result) s := by
  refine safe_seq (safe_mine (all_raising (all_perform trivial)) h) (fun reserved s₁ h₁ => ?_)
    fun error s₁ h₁ => h₁
  have hcommit : (discipline d).Safe t (fun _ s => Mine t id s) (do
      let sha ← Program.ofExcept action.digest
      raising (perform (.commit .result (Executor.resultPayload sha decision id result)
        (some action.requestId.1) none)) : Prog P (Event P)) s₁ :=
    safe_mine (all_bind (all_ofExcept _) fun _ => all_raising (all_perform trivial)) h₁
  refine safe_attempt_seq hcommit fun outcome s₂ h₂ => ?_
  cases outcome with
  | ok event =>
      refine safe_mono (fun outcome _ hgone => ?_)
        (safe_release trivial (fun hexec => notMem_settle hlease hexec) h₂)
      cases outcome with
      | ok _ => exact hgone
      | error _ => exact hgone.mine
  | error error =>
      exact safe_seq (safe_mine (all_perform trivial) h₂) (fun _ _ h₃ => h₃) fun _ _ h₃ => h₃

theorem safe_deliver {action : Action P} {decision : Decision P} {id : OpaqueId}
    {lease : DispatchLease} (hlease : lease.authorizationId = id.1) (bytes : ℤ) (h : Mine t id s) :
    (discipline d).Safe t (Delivered t id) (Executor.deliver action decision id bytes lease) s := by
  refine safe_seq (safe_mine (all_raising (all_perform trivial)) h) (fun secret s₁ h₁ => ?_)
    fun _ _ h₁ => h₁
  refine safe_seq (safe_mine (all_raising (all_perform trivial)) h₁) (fun result s₂ h₂ => ?_)
    fun _ _ h₂ => h₂
  refine safe_seq (safe_mine (all_ofExcept _) h₂) (fun _ s₃ h₃ => ?_) fun _ _ h₃ => h₃
  exact safe_seq (safe_finishAuthorized hlease h₃) (fun _ _ h₄ => h₄) fun _ _ h₄ => h₄

theorem safe_failed {action : Action P} {id : OpaqueId} {lease : Option DispatchLease}
    (error : PyError) (hlease : ∀ granted ∈ lease, granted.authorizationId = id.1)
    (hnone : lease = none → Unleased t id s) (h : Mine t id s) :
    (discipline d).Safe t (fun _ s => Unleased t id s) (Executor.failed action id lease error) s := by
  have haside := fun (op : Op P) (h : op.Aside) => free_of_aside h
  have habort : (discipline d).Safe t (fun _ s => Unleased t id s)
      (lease.elim (pure ()) fun lease => perform (.abort lease) : Prog P Unit) s := by
    cases lease with
    | none => exact hnone rfl
    | some granted =>
        exact safe_release trivial (fun hexec => notMem_abort (hlease granted rfl) hexec) h
  refine safe_seq habort (fun _ s₁ h₁ => ?_) fun _ _ h₁ => h₁
  refine safe_seq (safe_unleased (all_perform trivial) h₁) (fun cancelled s₂ h₂ => ?_) fun _ _ h₂ => h₂
  cases cancelled with
  | true => exact h₂
  | false =>
      exact safe_unleased (all_bind (all_failClosed haside free_event _ _) fun _ => trivial) h₂

theorem safe_attemptDispatch {action : Action P} {decision : Decision P} {id : OpaqueId}
    (hid : decision.body.authorizationId = some id) (nowNs bytes : ℤ) (h : Unleased t id s) :
    (discipline d).Safe t (fun _ s => Unleased t id s)
      (Executor.attemptDispatch action decision id nowNs bytes) s := by
  refine safe_attempt_seq (safe_beginAuthorized hid nowNs bytes h) fun outcome s₁ hbegun => ?_
  cases outcome with
  | error error =>
      exact safe_failed error (fun _ hnone => nomatch hnone) (fun _ => hbegun) hbegun.mine
  | ok lease =>
      obtain ⟨hmine, hlease⟩ := hbegun
      refine safe_handle (safe_mono (fun outcome s₂ h₂ => ?_) (safe_deliver hlease bytes hmine))
      cases outcome with
      | ok result => exact h₂
      | error error =>
          refine safe_failed error ?_ nofun h₂
          rintro _ ⟨⟩
          exact hlease

theorem clean_dispatch (action : Action P) (decision : Decision P) (nowNs : ℤ) :
    (discipline d).Clean (Executor.dispatch d action decision nowNs) := by
  refine clean_bind (clean_ofExcept _) fun _ => clean_bind (clean_ofExcept _) fun _ => ?_
  refine clean_bind (clean_ofExcept _) fun rule => ?_
  cases hid : decision.body.authorizationId with
  | none => exact clean_raise _
  | some id =>
      intro t s
      have hregister : (discipline d).Safe t
          (fun outcome s => ∀ value, outcome = .ok value → Unleased t id s)
          (raising (perform (.register id)) : Prog P Unit) s := by
        refine safe_act fun s₁ _ hinv => ⟨trivial, fun env s₂ r _ hexec _ => safe_ofExcept.mpr ?_⟩
        rintro _ rfl
        obtain ⟨hdone, hghost⟩ := ghost_exec.mp hexec
        obtain ⟨hfresh, hstate⟩ := fresh_of_register hdone
        refine ⟨?_, ?_⟩
        · rw [Mine, hghost, registrantAfter, if_neg hfresh, Function.update_self]
        · rw [hstate]
          exact fun hactive => hfresh (hinv.leases _ hactive)
      refine safe_seq hregister (fun _ s₁ h₁ => ?_) fun _ _ _ => trivial
      refine safe_finalize (safe_mono (fun outcome s₂ h₂ => ?_)
        (safe_attemptDispatch hid nowNs rule.maxResponseBytes.1 (h₁ () rfl)))
      refine safe_act fun s₃ hrely _ => ⟨?_, fun _ _ _ _ _ _ => ?_⟩
      · exact ⟨(hrely _ h₂.mine).1, (hrely _ h₂.mine).2 h₂.inactive⟩
      · exact trivial

theorem covers : (discipline d).Covers fun _ _ _ => True := by
  have haside := fun (op : Op P) (h : op.Aside) => free_of_aside h
  refine covers_of_clean (fun call => ?_) (fun call outcome s h => ?_) fun call outcome s u => ?_
  · cases call with
    | submitRaw raw =>
        exact clean_map (clean_of_free (all_submitRaw_of haside free_event raw
          (fun _ _ _ _ _ => trivial) fun _ => trivial))
    | dispatch action decision nowNs => exact clean_map (clean_dispatch action decision nowNs)
    | failClosed reason requestId =>
        exact clean_map (clean_of_free (all_failClosed haside free_event reason requestId))
    | enforceRuntimeDeadline ns =>
        exact clean_map (clean_of_free (all_enforceRuntimeDeadline haside free_event d ns trivial))
    | contain trigger ns => exact clean_map (clean_of_free (all_containment haside free_event trigger ns))
    | emergencyIsolate => exact clean_map (clean_of_free (all_emergencyIsolate haside))
    | complete =>
        exact clean_map (clean_of_free (all_complete haside d trivial trivial fun _ => trivial))
    | receipt status =>
        exact clean_map (clean_of_free (all_receipt haside d status trivial trivial fun _ => trivial))
  · dsimp only [registeringService]
    unfold retire
    split
    · exact ⟨h.registered, h.leases⟩
    · exact h
  · dsimp only [registeringService]
    unfold retire
    split <;> exact fun _ hid => ⟨hid, fun hinactive => hinactive⟩

end Registration

/-- In every run each active lease has its handle in the registry. -/
theorem leasesRegistered_of_reachable {d : Deployment P} {witness : TransparencyWitness P}
    {c : Config (runtimeService d)} (h : Reachable (Barrier.anyRun d) (Runtime.init d witness) c) :
    LeasesRegistered c.shared := by
  obtain ⟨registrant, hreach⟩ : ∃ registrant, Reachable (anyRegistrations d)
      (Runtime.init d witness, fun _ => none) (c.beside registrant) :=
    steps_ghost (fun _ _ _ _ => trivial) (fun _ _ _ _ _ => trivial) h _
  have hinit : Registration.Inv ((Runtime.init d witness, fun _ => none) :
      Runtime P × (String → Option ℕ)) :=
    ⟨fun _ _ hnone => (nomatch hnone), fun _ hmem => absurd hmem (AList.notMem_empty _)⟩
  exact (invariant_of_reachable Registration.covers hinit hreach).leases

end Containment
