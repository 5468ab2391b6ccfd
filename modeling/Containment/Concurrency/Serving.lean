/-
# Other callers of the same state

The operations of a service may be offered under other calls, whose code is put together from
the code of the old ones. What a discipline says about code does not depend on who calls it, so
it is carried over with the code.
-/

import Containment.Concurrency.Execution

namespace Concurrency

variable {Op : Type} {Res : Op → Type} {ε α : Type} {S : Service Op Res ε} {Call Reply : Type}
  {body : Call → Program Op Res ε Reply} {retire : Call → Except ε Reply → S.State → S.State}

/-- The operations of the service under other calls. -/
@[reducible]
def Service.serving (S : Service Op Res ε) (Call Reply : Type)
    (body : Call → Program Op Res ε Reply) (retire : Call → Except ε Reply → S.State → S.State) :
    Service Op Res ε where
  State := S.State
  Env := S.Env
  Call := Call
  Reply := Reply
  exec := S.exec
  body := body
  retire := retire

/-- A stretch of one thread is a stretch under the other calls. -/
theorem Runs.serving {rule : RunRule S} {rule' : RunRule (S.serving Call Reply body retire)} {t : ℕ}
    (hmoves : ∀ s op env, rule.moves s op env → rule'.moves s op env) {s s' : S.State}
    {p p' : Program Op Res ε α} (h : Runs rule t s p s' p') : Runs rule' t s p s' p' := by
  induction h with
  | refl => exact .refl _ _
  | act env allowed executed _ ih => exact .act env (hmoves _ _ _ allowed) executed ih

/-- The code of a call, without the form of its reply. -/
theorem Ends.of_map {β : Type} {rule : RunRule S} {t : ℕ} {f : α → β} (hf : Function.Injective f)
    {s s' : S.State} {p : Program Op Res ε α} {value : α}
    (h : Ends rule t s (f <$> p) s' (.ok (f value))) : Ends rule t s p s' (.ok value) := by
  induction p generalizing s with
  | ret found =>
      change Runs rule t s (.ret (f found)) s' (.ret (f value)) at h
      generalize hcode : (Program.ret (f value) : Program Op Res ε β) = code at h
      cases h with
      | refl =>
          obtain rfl := hf (Program.ret.inj hcode)
          exact ends_ret
  | raise error =>
      change Runs rule t s (.raise error) s' (.ret (f value)) at h
      generalize hcode : (Program.ret (f value) : Program Op Res ε β) = code at h
      cases h with
      | refl => cases hcode
  | act op next ih =>
      change Runs rule t s (.act op fun result => f <$> next result) s' (.ret (f value)) at h
      generalize hcode : (Program.ret (f value) : Program Op Res ε β) = code at h
      cases h with
      | refl => cases hcode
      | act env allowed executed rest =>
          subst hcode
          exact .act env allowed executed (ih _ rest)

namespace Discipline

variable {rule : RunRule S} {rule' : RunRule (S.serving Call Reply body retire)}

/-- The discipline, for the other calls. -/
def serving (D : Discipline rule)
    (hmoves : ∀ s op env, rule'.moves s op env → rule.moves s op env) : Discipline rule' where
  inv := D.inv
  ready := D.ready
  rely := D.rely
  rely_refl := D.rely_refl
  rely_trans := D.rely_trans
  act_inv hinv hready hmove := D.act_inv hinv hready (hmoves _ _ _ hmove)
  act_rely hinv hready hmove := D.act_rely hinv hready (hmoves _ _ _ hmove)

theorem safe_serving {D : Discipline rule}
    {hmoves : ∀ s op env, rule'.moves s op env → rule.moves s op env} {t : ℕ}
    {post : Except ε α → S.State → Prop} {p : Program Op Res ε α} {s : S.State}
    (h : D.Safe t post p s) : (D.serving hmoves).Safe t post p s := by
  induction p generalizing s with
  | ret value => exact h
  | raise error => exact h
  | act op next ih =>
      intro s₁ hrely hinv
      obtain ⟨hready, hnext⟩ := h s₁ hrely hinv
      refine ⟨hready, fun env s₂ result hmove hexec hinv₂ => ?_⟩
      exact ih result (hnext env s₂ result (hmoves _ _ _ hmove) hexec hinv₂)

/-- The other calls are covered when their code is safe. -/
theorem covers_serving {D : Discipline rule}
    {hmoves : ∀ s op env, rule'.moves s op env → rule.moves s op env}
    {done : Call → Except ε Reply → S.State → Prop}
    (hstable : ∀ {t call outcome s s'}, D.rely t s s' → done call outcome s → done call outcome s')
    (hcalls : ∀ t {call s}, D.inv s → rule'.starts s call → D.Safe t (done call) (body call) s)
    (hretire : ∀ call outcome s, retire call outcome s = s) :
    (D.serving hmoves).Covers done where
  stable := hstable
  calls t {call s} hinv hstart := safe_serving (hcalls t hinv hstart)
  retire_inv {call outcome s} hinv _ := by
    change D.inv (retire call outcome s)
    rw [hretire]
    exact hinv
  retire_rely {call outcome s} _ _ u := by
    change D.rely u s (retire call outcome s)
    rw [hretire]
    exact D.rely_refl u s

end Discipline

end Concurrency
