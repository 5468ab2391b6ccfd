/-
# Ghost state

A service beside a value that its operations write and never read. Its runs are the runs of
the service, so a condition on a schedule can be stated in terms of what has happened
before, without a change to the code.
-/

import Containment.Concurrency.Execution

namespace Concurrency

variable {Op : Type} {Res : Op → Type} {ε G : Type}

/-- The service beside the ghost value. -/
@[reducible]
def Service.ghost (S : Service Op Res ε) (update : S.Env → ℕ → Op → S.State → S.State → G → G) :
    Service Op Res ε where
  State := S.State × G
  Env := S.Env
  Call := S.Call
  Reply := S.Reply
  exec env t s op := (S.exec env t s.1 op).map fun done =>
    ((done.1, update env t op s.1 done.1 s.2), done.2)
  body := S.body
  retire call outcome s := (S.retire call outcome s.1, s.2)

variable {S : Service Op Res ε} {update : S.Env → ℕ → Op → S.State → S.State → G → G}

theorem ghost_exec {env : S.Env} {t : ℕ} {s s' : S.State × G} {op : Op} {result : Res op} :
    (S.ghost update).exec env t s op = some (s', result) ↔
      S.exec env t s.1 op = some (s'.1, result) ∧ s'.2 = update env t op s.1 s'.1 s.2 := by
  rw [Option.map_eq_some_iff]
  constructor
  · rintro ⟨done, hdone, heq⟩
    obtain ⟨rfl, rfl⟩ := Prod.mk.inj heq
    exact ⟨hdone, rfl⟩
  · rintro ⟨hdone, hghost⟩
    exact ⟨_, hdone, by rw [← hghost]⟩

/-- A configuration beside a ghost value. -/
def Config.beside (c : Config S) (ghost : G) : Config (S.ghost update) := ⟨(c.shared, ghost), c.running⟩

/-- A stretch of the service is a stretch beside the ghost value, if what the condition asks
of the ghost value is kept. -/
theorem steps_ghost_of {rule : RunRule S} {rule' : RunRule (S.ghost update)} (Q : G → Prop)
    (hstarts : ∀ s call ghost, Q ghost → rule.starts s call → rule'.starts (s, ghost) call)
    (hmoves : ∀ s op env ghost, Q ghost → rule.moves s op env → rule'.moves (s, ghost) op env)
    (hkept : ∀ env t op s s' ghost, rule.moves s op env → Q ghost → Q (update env t op s s' ghost))
    {c c' : Config S} (h : Relation.ReflTransGen (Step rule) c c') {ghost : G} (hghost : Q ghost) :
    ∃ ghost', Q ghost' ∧
      Relation.ReflTransGen (Step rule') (c.beside ghost) (c'.beside ghost') := by
  induction h with
  | refl => exact ⟨ghost, hghost, .refl⟩
  | @tail c₁ c₂ _ hstep ih =>
      obtain ⟨ghost₁, hghost₁, hreach⟩ := ih
      cases hstep with
      | start t call idle admitted =>
          have hidle : (c₁.beside ghost₁ : Config (S.ghost update)).running t = none := idle
          have hstart := @Step.start _ _ _ _ rule' (c₁.beside ghost₁) t call hidle
            (hstarts _ _ _ hghost₁ admitted)
          exact ⟨ghost₁, hghost₁, hreach.tail hstart⟩
      | @act t call op next running env allowed s₁ result executed =>
          have hrunning : (c₁.beside ghost₁ : Config (S.ghost update)).running t =
            some (call, .act op next) := running
          have hexec : (S.ghost update).exec env t (c₁.beside ghost₁ : Config (S.ghost update)).shared op =
              some ((s₁, update env t op c₁.shared s₁ ghost₁), result) :=
            ghost_exec.mpr ⟨executed, rfl⟩
          exact ⟨_, hkept env t op c₁.shared s₁ ghost₁ allowed hghost₁,
            hreach.tail (.act t hrunning env (hmoves _ _ _ _ hghost₁ allowed) hexec)⟩
      | @stop t call code running outcome ended =>
          have hrunning : (c₁.beside ghost₁ : Config (S.ghost update)).running t =
            some (call, code) := running
          exact ⟨ghost₁, hghost₁, hreach.tail (.stop t hrunning outcome ended)⟩

/-- A stretch of the service is a stretch beside the ghost value. -/
theorem steps_ghost {rule : RunRule S} {rule' : RunRule (S.ghost update)}
    (hstarts : ∀ s call ghost, rule.starts s call → rule'.starts (s, ghost) call)
    (hmoves : ∀ s op env ghost, rule.moves s op env → rule'.moves (s, ghost) op env)
    {c c' : Config S} (h : Relation.ReflTransGen (Step rule) c c') (ghost : G) :
    ∃ ghost', Relation.ReflTransGen (Step rule') (c.beside ghost) (c'.beside ghost') := by
  obtain ⟨ghost', -, hsteps⟩ := steps_ghost_of (fun _ => True) (fun s call ghost _ => hstarts s call ghost)
    (fun s op env ghost _ => hmoves s op env ghost) (fun _ _ _ _ _ _ _ _ => trivial) h trivial
  exact ⟨ghost', hsteps⟩

/-- A stretch of one thread is a stretch beside the ghost value, with what its operations keep
of the state and the ghost value together. -/
theorem Runs.ghost {α : Type} {rule : RunRule S} {rule' : RunRule (S.ghost update)} {t : ℕ}
    (J : S.State → G → Prop)
    (hmoves : ∀ s op env ghost, J s ghost → rule.moves s op env → rule'.moves (s, ghost) op env)
    (hkept : ∀ env op s s' result ghost, rule.moves s op env →
      S.exec env t s op = some (s', result) → J s ghost → J s' (update env t op s s' ghost))
    {s s' : S.State} {p p' : Program Op Res ε α} (h : Runs rule t s p s' p') {ghost : G}
    (hghost : J s ghost) :
    ∃ ghost', J s' ghost' ∧ Runs rule' t (s, ghost) p (s', ghost') p' := by
  induction h generalizing ghost with
  | refl s code => exact ⟨ghost, hghost, .refl _ _⟩
  | act env allowed executed _ ih =>
      obtain ⟨ghost', hghost', hruns⟩ := ih (hkept env _ _ _ _ ghost allowed executed hghost)
      exact ⟨ghost', hghost', .act env (hmoves _ _ _ _ hghost allowed)
        (ghost_exec.mpr ⟨executed, rfl⟩) hruns⟩

/-- A stretch beside a ghost value is a stretch of the service. -/
theorem Runs.erase {α : Type} {rule : RunRule S} {rule' : RunRule (S.ghost update)} {t : ℕ}
    (hmoves : ∀ s op env, rule'.moves s op env → rule.moves s.1 op env)
    {s s' : (S.ghost update).State}
    {p p' : Program Op Res ε α} (h : Runs rule' t s p s' p') : Runs rule t s.1 p s'.1 p' := by
  induction h with
  | refl s code => exact .refl _ _
  | act env allowed executed _ ih =>
      exact .act env (hmoves _ _ _ allowed) (ghost_exec.mp executed).1 ih

/-- A configuration without its ghost value. -/
def Config.erase (c : Config (S.ghost update)) : Config S := ⟨c.shared.1, c.running⟩

/-- A run beside a ghost value is a run of the service. -/
theorem steps_erase {rule : RunRule S} {rule' : RunRule (S.ghost update)}
    (hstarts : ∀ s call, rule'.starts s call → rule.starts s.1 call)
    (hmoves : ∀ s op env, rule'.moves s op env → rule.moves s.1 op env)
    {c c' : Config (S.ghost update)} (h : Relation.ReflTransGen (Step rule') c c') :
    Relation.ReflTransGen (Step rule) c.erase c'.erase := by
  induction h with
  | refl => exact .refl
  | @tail c₁ c₂ _ hstep ih =>
      refine ih.tail ?_
      cases hstep with
      | start t call idle admitted =>
          have hidle : c₁.erase.running t = none := idle
          exact @Step.start _ _ _ S rule c₁.erase t call hidle (hstarts _ _ admitted)
      | @act t call op next running env allowed s₁ result executed =>
          have hrunning : c₁.erase.running t = some (call, .act op next) := running
          exact .act t hrunning env (hmoves _ _ _ allowed) (ghost_exec.mp executed).1
      | @stop t call code running outcome ended =>
          have hrunning : c₁.erase.running t = some (call, code) := running
          exact .stop t hrunning outcome ended

end Concurrency
