/-
# What a thread has left to do

Two things that the remaining code of a call keeps while all threads run. `Within` is about
the operations alone: which of them the code can come to, given what each one can answer.
`safe_of_reachable` is about a thread's own postcondition, which may name the thread and
need not survive the others, because it is only asked for at the operation that ends the
call.
-/

import Containment.Concurrency.Execution

namespace Concurrency

variable {Op : Type} {Res : Op → Type} {ε α β : Type} {S : Service Op Res ε} {rule : RunRule S}

/-- Code whose operations all satisfy a predicate and whose value satisfies another one, as long
as every operation answers what it can. -/
def Program.Within (ok : Op → Prop) (answer : (op : Op) → Res op → Prop) (q : α → Prop) :
    Program Op Res ε α → Prop
  | .ret value => q value
  | .raise _ => True
  | .act op next => ok op ∧ ∀ result, answer op result → (next result).Within ok answer q

section Within

variable {ok : Op → Prop} {answer : (op : Op) → Res op → Prop} {q : α → Prop}
  {p : Program Op Res ε α}

theorem within_perform {op : Op} {q : Res op → Prop} (hop : ok op)
    (hq : ∀ result, answer op result → q result) :
    (Program.perform op : Program Op Res ε (Res op)).Within ok answer q := ⟨hop, hq⟩

theorem within_ofExcept {outcome : Except ε α} (h : ∀ value, outcome = .ok value → q value) :
    (Program.ofExcept outcome : Program Op Res ε α).Within ok answer q := by
  cases outcome with
  | ok value => exact h value rfl
  | error error => exact trivial

theorem within_bind {next : α → Program Op Res ε β} {q' : β → Prop} (hp : p.Within ok answer q)
    (hnext : ∀ value, q value → (next value).Within ok answer q') :
    (p >>= next).Within ok answer q' := by
  induction p with
  | ret value => exact hnext value hp
  | raise error => exact trivial
  | act op rest ih => exact ⟨hp.1, fun result hresult => ih result (hp.2 result hresult)⟩

theorem within_attempt (hp : p.Within ok answer q) :
    p.attempt.Within ok answer fun outcome => ∀ value, outcome = .ok value → q value := by
  induction p with
  | ret value =>
      rintro _ ⟨⟩
      exact hp
  | raise error => exact fun _ heq => nomatch heq
  | act op rest ih => exact ⟨hp.1, fun result hresult => ih result (hp.2 result hresult)⟩

theorem within_handle {handler : ε → Program Op Res ε α} (hp : p.Within ok answer q)
    (hhandler : ∀ error, (handler error).Within ok answer q) :
    (p.handle handler).Within ok answer q := by
  refine within_bind (within_attempt hp) fun outcome houtcome => ?_
  cases outcome with
  | ok value => exact houtcome value rfl
  | error error => exact hhandler error

theorem within_finalize {finalizer : Program Op Res ε Unit} (hp : p.Within ok answer q)
    (hfinalizer : finalizer.Within ok answer fun _ => True) :
    (p.finalize finalizer).Within ok answer q :=
  within_bind (within_attempt hp) fun _ houtcome =>
    within_bind hfinalizer fun _ _ => within_ofExcept houtcome

theorem within_mono {ok' : Op → Prop} (h : ∀ op, ok op → ok' op) (hp : p.Within ok answer q) :
    p.Within ok' answer q := by
  induction p with
  | ret value => exact hp
  | raise error => exact trivial
  | act op rest ih => exact ⟨h op hp.1, fun result hresult => ih result (hp.2 result hresult)⟩

theorem within_of_all (hp : p.All ok) : p.Within ok answer fun _ => True := by
  induction p with
  | ret value => exact trivial
  | raise error => exact trivial
  | act op rest ih => exact ⟨hp.1, fun result _ => ih result (hp.2 result)⟩

theorem within_of_forall (h : ∀ op, ok op) (p : Program Op Res ε α) :
    p.Within ok answer fun _ => True := by
  induction p with
  | ret value => exact trivial
  | raise error => exact trivial
  | act op rest ih => exact ⟨h op, fun result _ => ih result⟩

end Within

/-- Every call in progress is within what its code allows. -/
theorem within_of_reachable {ok : S.Call → Op → Prop} {answer : (op : Op) → Res op → Prop}
    (hanswer : ∀ {env t s op s' result}, S.exec env t s op = some (s', result) → answer op result)
    (hcalls : ∀ call, (S.body call).Within (ok call) answer fun _ => True) {s₀ : S.State}
    {c : Config S} (h : Reachable rule s₀ c) {t : ℕ} {call : S.Call}
    {code : Program Op Res ε S.Reply} (hrunning : c.running t = some (call, code)) :
    code.Within (ok call) answer fun _ => True := by
  induction h generalizing t call code with
  | refl => simp [Config.initial] at hrunning
  | tail _ hstep ih =>
      cases hstep with
      | start u call' idle admitted =>
          by_cases hu : t = u
          · subst hu
            simp only [Config.set, Function.update_self, Option.some.injEq, Prod.mk.injEq] at hrunning
            obtain ⟨rfl, rfl⟩ := hrunning
            exact hcalls _
          · simp only [Config.set, Function.update_of_ne hu] at hrunning
            exact ih hrunning
      | act u running env allowed executed =>
          by_cases hu : t = u
          · subst hu
            simp only [Config.set, Function.update_self, Option.some.injEq, Prod.mk.injEq] at hrunning
            obtain ⟨rfl, rfl⟩ := hrunning
            exact (ih running).2 _ (hanswer executed)
          · simp only [Config.set, Function.update_of_ne hu] at hrunning
            exact ih hrunning
      | stop u running outcome ended =>
          by_cases hu : t = u
          · subst hu
            simp [Config.set] at hrunning
          · simp only [Config.set, Function.update_of_ne hu] at hrunning
            exact ih hrunning

namespace Discipline

variable {D : Discipline rule} {done : ℕ → S.Call → Except ε S.Reply → S.State → Prop}

/-- The invariant holds, and a thread with an operation ahead of it will end as its call
promises. -/
theorem safe_of_reachable
    (hcalls : ∀ t {call s}, D.inv s → rule.starts s call → D.Safe t (done t call) (S.body call) s)
    (hretire : ∀ {call outcome s}, D.inv s → D.inv (S.retire call outcome s))
    (hretired : ∀ {call outcome s}, ∀ u, D.rely u s (S.retire call outcome s)) {s₀ : S.State}
    (h₀ : D.inv s₀) {c : Config S} (h : Reachable rule s₀ c) :
    D.inv c.shared ∧ ∀ t call op next, c.running t = some (call, .act op next) →
      D.Safe t (done t call) (.act op next) c.shared := by
  induction h with
  | refl => exact ⟨h₀, fun t call op next hrunning => by simp [Config.initial] at hrunning⟩
  | @tail c c' _ hstep ih =>
      obtain ⟨hinv, hsafe⟩ := ih
      have others {u : ℕ} {s₁ : S.State} {call op next} (hrely : D.rely u c.shared s₁)
          (hrun : c.running u = some (call, .act op next)) :
          D.Safe u (done u call) (.act op next) s₁ :=
        fun s₂ hrely₂ hinv₂ => hsafe u call op next hrun s₂ (D.rely_trans hrely hrely₂) hinv₂
      cases hstep with
      | start t call idle admitted =>
          refine ⟨hinv, fun u call' op next hrun => ?_⟩
          by_cases hu : u = t
          · subst hu
            simp only [Config.set, Function.update_self, Option.some.injEq, Prod.mk.injEq] at hrun
            obtain ⟨rfl, hbody⟩ := hrun
            rw [← hbody]
            exact hcalls u hinv admitted
          · simp only [Config.set, Function.update_of_ne hu] at hrun
            exact hsafe u call' op next hrun
      | @act t call op next running env allowed s₂ result executed =>
          have hact := hsafe t call op next running c.shared (D.rely_refl t _) hinv
          have hinv₂ := D.act_inv hinv hact.1 allowed executed
          refine ⟨hinv₂, fun u call' op' next' hrun => ?_⟩
          by_cases hu : u = t
          · subst hu
            simp only [Config.set, Function.update_self, Option.some.injEq, Prod.mk.injEq] at hrun
            obtain ⟨rfl, hnext⟩ := hrun
            rw [← hnext]
            exact hact.2 env s₂ result allowed executed hinv₂
          · simp only [Config.set, Function.update_of_ne hu] at hrun
            exact others (D.act_rely hinv hact.1 allowed executed u hu) hrun
      | @stop t call code running outcome ended =>
          refine ⟨hretire hinv, fun u call' op next hrun => ?_⟩
          by_cases hu : u = t
          · subst hu
            simp [Config.set] at hrun
          · simp only [Config.set, Function.update_of_ne hu] at hrun
            exact others (hretired u) hrun

/-- What an idle thread will answer from now on, once a fact is settled that no thread can
change. -/
theorem answers_of_steps {finished : S.Call → Except ε S.Reply → S.State → Prop}
    (covers : D.Covers finished) {I : S.State → Prop} {post : S.Call → Except ε S.Reply → Prop}
    {t : ℕ} (hrely : ∀ {u s s'}, D.rely u s s' → I s → I s')
    (hcalls : ∀ {call s}, D.inv s → I s →
      D.Safe t (fun outcome _ => post call outcome) (S.body call) s)
    {c c' : Config S} (h : D.Holds finished c) (hI : I c.shared) (hidle : c.running t = none)
    (hsteps : Relation.ReflTransGen (Step rule) c c') :
    ∀ call code, c'.running t = some (call, code) →
      D.Safe t (fun outcome _ => post call outcome) code c'.shared := by
  induction hsteps with
  | refl =>
      intro call code hrunning
      rw [hidle] at hrunning
      cases hrunning
  | @tail c₁ c₂ hbefore hstep ih =>
      obtain ⟨⟨hinv, hsafe⟩, hI₁⟩ := Holds.steps covers hrely h hI hbefore
      intro call code hrunning
      cases hstep with
      | start u call' idle admitted =>
          by_cases hu : t = u
          · subst hu
            simp only [Config.set, Function.update_self, Option.some.injEq, Prod.mk.injEq] at hrunning
            obtain ⟨rfl, rfl⟩ := hrunning
            exact hcalls hinv hI₁
          · simp only [Config.set, Function.update_of_ne hu] at hrunning
            exact ih call code hrunning
      | @act u call' op next running env allowed s₂ result executed =>
          have hready := (hsafe u call' _ running _ (D.rely_refl u _) hinv).1
          by_cases hu : t = u
          · subst hu
            simp only [Config.set, Function.update_self, Option.some.injEq, Prod.mk.injEq] at hrunning
            obtain ⟨rfl, rfl⟩ := hrunning
            exact (ih _ _ running _ (D.rely_refl _ _) hinv).2 env s₂ result allowed executed
              (D.act_inv hinv hready allowed executed)
          · simp only [Config.set, Function.update_of_ne hu] at hrunning
            exact safe_of_rely (fun _ _ _ _ hpost => hpost) (ih call code hrunning)
              (D.act_rely hinv hready allowed executed t hu)
      | @stop u call' code' running outcome ended =>
          by_cases hu : t = u
          · subst hu
            simp [Config.set] at hrunning
          · simp only [Config.set, Function.update_of_ne hu] at hrunning
            subst ended
            have hdone := safe_ofExcept.mp (hsafe u call' _ running)
            exact safe_of_rely (fun _ _ _ _ hpost => hpost) (ih call code hrunning)
              (covers.retire_rely hinv hdone t)

end Discipline

end Concurrency
