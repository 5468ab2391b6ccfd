/-
# One thread at a time

Between two switches of the schedule one thread runs alone. `Runs` is such a stretch,
from one point of its code to another, and `Ends` is a stretch to the end. Runs compose
along the code, and they are also stretches of an interleaving, so a particular schedule
is put together from them.

`Ensures` is the matching precondition: whatever the outside world answers, the code
ends in the postcondition. It has the rules of `Discipline.Safe` without interference.
A `Sequence` is a run of calls that do not overlap.
-/

import Containment.Concurrency.Interleaving

namespace Concurrency

variable {Op : Type} {Res : Op → Type} {ε α β : Type} {S : Service Op Res ε}
  {rule : RunRule S} {t : ℕ}

/-- The thread gets from one point of its code to another with nobody else running. -/
inductive Runs (rule : RunRule S) (t : ℕ) :
    S.State → Program Op Res ε α → S.State → Program Op Res ε α → Prop
  | refl (s : S.State) (code : Program Op Res ε α) : Runs rule t s code s code
  | act {s s₁ s₂ : S.State} {op : Op} {next : Res op → Program Op Res ε α}
      {code : Program Op Res ε α} {result : Res op} (env : S.Env)
      (allowed : rule.moves s op env) (executed : S.exec env t s op = some (s₁, result))
      (rest : Runs rule t s₁ (next result) s₂ code) : Runs rule t s (.act op next) s₂ code

/-- The thread gets to the end of its code. -/
def Ends (rule : RunRule S) (t : ℕ) (s : S.State) (p : Program Op Res ε α) (s' : S.State)
    (outcome : Except ε α) : Prop :=
  Runs rule t s p s' (.ofExcept outcome)

section Runs

variable {s s₁ s₂ : S.State} {p p₁ p₂ : Program Op Res ε α} {next : α → Program Op Res ε β}

theorem Runs.trans (h : Runs rule t s p s₁ p₁) (h' : Runs rule t s₁ p₁ s₂ p₂) :
    Runs rule t s p s₂ p₂ := by
  induction h with
  | refl => exact h'
  | act env allowed executed _ ih => exact .act env allowed executed (ih h')

theorem Runs.bind (h : Runs rule t s p s₁ p₁) :
    Runs rule t s (p >>= next) s₁ (p₁ >>= next) := by
  induction h with
  | refl => exact .refl _ _
  | act env allowed executed _ ih => exact .act env allowed executed ih

theorem Runs.attempt (h : Runs rule t s p s₁ p₁) : Runs rule t s p.attempt s₁ p₁.attempt := by
  induction h with
  | refl => exact .refl _ _
  | act env allowed executed _ ih => exact .act env allowed executed ih

/-- A run of one rule is a run of every rule that allows as much. -/
theorem Runs.mono {rule' : RunRule S}
    (hmoves : ∀ s op env, rule.moves s op env → rule'.moves s op env)
    (h : Runs rule t s p s₁ p₁) : Runs rule' t s p s₁ p₁ := by
  induction h with
  | refl => exact .refl _ _
  | act env allowed executed _ ih => exact .act env (hmoves _ _ _ allowed) executed ih

/-- One operation. -/
theorem ends_perform {op : Op} {result : Res op} (env : S.Env) (allowed : rule.moves s op env)
    (executed : S.exec env t s op = some (s₁, result)) :
    Ends rule t s (.perform op) s₁ (.ok result) :=
  .act env allowed executed (.refl _ _)

theorem ends_ret {value : α} : Ends rule t s (.ret value : Program Op Res ε α) s (.ok value) :=
  .refl _ _

theorem ends_ofExcept {outcome : Except ε α} :
    Ends rule t s (.ofExcept outcome : Program Op Res ε α) s outcome := .refl _ _

/-- Code that returned hands over to the code behind it. -/
theorem Ends.bind {value : α} {code : Program Op Res ε β} (h : Ends rule t s p s₁ (.ok value))
    (h' : Runs rule t s₁ (next value) s₂ code) : Runs rule t s (p >>= next) s₂ code :=
  (Runs.bind h).trans h'

/-- Code that raised skips the code behind it. -/
theorem Ends.bind_error {error : ε} (h : Ends rule t s p s₁ (.error error)) :
    Ends rule t s (p >>= next) s₁ (.error error) := by
  have hbind : Runs rule t s (p >>= next) s₁ (.ofExcept (.error error) >>= next) := Runs.bind h
  exact hbind

theorem Ends.attempt {outcome : Except ε α} (h : Ends rule t s p s₁ outcome) :
    Ends rule t s p.attempt s₁ (.ok outcome) := by
  have hattempt := Runs.attempt h
  cases outcome <;> exact hattempt

theorem Ends.handle {value : α} {handler : ε → Program Op Res ε α}
    (h : Ends rule t s p s₁ (.ok value)) : Ends rule t s (p.handle handler) s₁ (.ok value) :=
  Ends.bind h.attempt (.refl _ _)

theorem Ends.handle_error {error : ε} {outcome : Except ε α}
    {handler : ε → Program Op Res ε α} (h : Ends rule t s p s₁ (.error error))
    (h' : Ends rule t s₁ (handler error) s₂ outcome) :
    Ends rule t s (p.handle handler) s₂ outcome :=
  Ends.bind h.attempt h'

theorem Ends.finalize {outcome : Except ε α} {finalizer : Program Op Res ε Unit}
    (h : Ends rule t s p s₁ outcome) (h' : Ends rule t s₁ finalizer s₂ (.ok ())) :
    Ends rule t s (p.finalize finalizer) s₂ outcome :=
  Ends.bind h.attempt (Ends.bind h' (.refl _ _))

end Runs

/-! ## Stretches of an interleaving -/

theorem Reachable.start {s₀ : S.State} {c : Config S} (h : Reachable rule s₀ c) {call : S.Call}
    (hidle : c.running t = none) (hstart : rule.starts c.shared call) :
    Reachable rule s₀ (c.set c.shared t (some (call, S.body call))) :=
  h.tail (.start t call hidle hstart)

/-- A thread of an interleaving may run for a while. -/
theorem Runs.steps {c : Config S} {call : S.Call} {code code' : Program Op Res ε S.Reply}
    {s : S.State} (hruns : Runs rule t c.shared code s code')
    (hrunning : c.running t = some (call, code)) :
    Relation.ReflTransGen (Step rule) c (c.set s t (some (call, code'))) := by
  obtain ⟨shared, running⟩ := c
  dsimp only at hruns hrunning
  induction hruns generalizing running with
  | refl s code =>
      have hset : Config.set ⟨s, running⟩ s t (some (call, code)) = ⟨s, running⟩ := by
        rw [Config.set, ← hrunning, Function.update_eq_self]
      rw [hset]
  | @act s s₁ s₂ op next code result env allowed executed _ ih =>
      have hstep : Step rule ⟨s, running⟩ (Config.set ⟨s, running⟩ s₁ t (some (call, next result))) :=
        .act t hrunning env allowed executed
      have hnext := ih (Function.update running t (some (call, next result)))
        (Function.update_self _ _ _)
      simp only [Config.set, Function.update_idem] at hnext
      exact .head hstep hnext

/-- A call begins and runs for a while. -/
theorem steps_call {c : Config S} {call : S.Call} {s : S.State} {code : Program Op Res ε S.Reply}
    (hidle : c.running t = none) (hstart : rule.starts c.shared call)
    (hruns : Runs rule t c.shared (S.body call) s code) :
    Relation.ReflTransGen (Step rule) c (c.set s t (some (call, code))) := by
  have hbegun : Step rule c (c.set c.shared t (some (call, S.body call))) :=
    .start t call hidle hstart
  have hrest := Runs.steps (c := c.set c.shared t (some (call, S.body call))) hruns
    (Function.update_self _ _ _)
  simp only [Config.set, Function.update_idem] at hrest
  exact .head hbegun hrest

theorem Reachable.runs {s₀ : S.State} {c : Config S} (h : Reachable rule s₀ c) {call : S.Call}
    {code code' : Program Op Res ε S.Reply} {s : S.State}
    (hrunning : c.running t = some (call, code)) (hruns : Runs rule t c.shared code s code') :
    Reachable rule s₀ (c.set s t (some (call, code'))) :=
  h.trans (hruns.steps hrunning)

theorem Reachable.stop {s₀ : S.State} {c : Config S} (h : Reachable rule s₀ c) {call : S.Call}
    {outcome : Except ε S.Reply} (hrunning : c.running t = some (call, .ofExcept outcome)) :
    Reachable rule s₀ (c.set (S.retire call outcome c.shared) t none) :=
  h.tail (.stop t hrunning outcome rfl)

/-! ## Calls that do not overlap -/

/-- One call, from its beginning to its end. -/
inductive CallStep (rule : RunRule S) : S.State → S.State → Prop
  | call {s s' : S.State} (t : ℕ) (call : S.Call) (outcome : Except ε S.Reply)
      (admitted : rule.starts s call) (ended : Ends rule t s (S.body call) s' outcome) :
      CallStep rule s (S.retire call outcome s')

/-- Any number of calls, one after the other. -/
def Sequence (rule : RunRule S) : S.State → S.State → Prop :=
  Relation.ReflTransGen (CallStep rule)

/-- A sequence of calls is a schedule. -/
theorem reachable_of_sequence {s₀ s : S.State} (h : Sequence rule s₀ s) :
    Reachable rule s₀ (Config.initial s) := by
  induction h with
  | refl => exact .refl
  | @tail s₁ s₂ _ hcall ih =>
      obtain ⟨t, call, outcome, admitted, ended⟩ := hcall
      have hstart := ih.start (t := t) rfl admitted
      have hruns := hstart.runs (Function.update_self _ _ _) ended
      have hstop := hruns.stop (Function.update_self _ _ _)
      simp only [Config.set, Config.initial, Function.update_idem] at hstop
      rw [Function.update_eq_self_iff.mpr rfl] at hstop
      exact hstop

/-! ## What alone is ensured -/

/-- Whatever the outside world answers, the code ends in the postcondition. -/
def Ensures (rule : RunRule S) (t : ℕ) (post : Except ε α → S.State → Prop) :
    Program Op Res ε α → S.State → Prop
  | .ret value, s => post (.ok value) s
  | .raise error, s => post (.error error) s
  | .act op next, s => ∀ env s₁ result, rule.moves s op env →
      S.exec env t s op = some (s₁, result) → Ensures rule t post (next result) s₁

section Ensures

variable {post post' : Except ε α → S.State → Prop} {s s' : S.State} {p : Program Op Res ε α}

theorem Ensures.sound (h : Ensures rule t post p s) {outcome : Except ε α}
    (hends : Ends rule t s p s' outcome) : post outcome s' := by
  unfold Ends at hends
  generalize hcode : Program.ofExcept outcome = code at hends
  induction hends with
  | refl s code =>
      subst hcode
      cases outcome <;> exact h
  | act env allowed executed _ ih => exact ih (h env _ _ allowed executed) hcode

theorem ensures_mono (hpost : ∀ outcome s, post outcome s → post' outcome s)
    (h : Ensures rule t post p s) : Ensures rule t post' p s := by
  induction p generalizing s with
  | ret value => exact hpost _ _ h
  | raise error => exact hpost _ _ h
  | act op next ih => exact fun env s₁ result hmove hexec => ih result (h env s₁ result hmove hexec)

theorem ensures_ofExcept {outcome : Except ε α} :
    Ensures rule t post (.ofExcept outcome) s ↔ post outcome s := by
  cases outcome <;> exact Iff.rfl

theorem ensures_bind {next : α → Program Op Res ε β} {post : Except ε β → S.State → Prop}
    (h : Ensures rule t (fun outcome s => match outcome with
      | .ok value => Ensures rule t post (next value) s
      | .error error => post (.error error) s) p s) : Ensures rule t post (p >>= next) s := by
  induction p generalizing s with
  | ret value => exact h
  | raise error => exact h
  | act op rest ih => exact fun env s₁ result hmove hexec => ih result (h env s₁ result hmove hexec)

/-- Sequencing with the intermediate assertion written out. -/
theorem ensures_seq {next : α → Program Op Res ε β} {post : Except ε β → S.State → Prop}
    {Q : Except ε α → S.State → Prop} (h : Ensures rule t Q p s)
    (hok : ∀ value s, Q (.ok value) s → Ensures rule t post (next value) s)
    (herror : ∀ error s, Q (.error error) s → post (.error error) s) :
    Ensures rule t post (p >>= next) s := by
  refine ensures_bind (ensures_mono ?_ h)
  intro outcome s hmid
  cases outcome with
  | ok value => exact hok value s hmid
  | error error => exact herror error s hmid

theorem ensures_attempt {post : Except ε (Except ε α) → S.State → Prop}
    (h : Ensures rule t (fun outcome s => post (.ok outcome) s) p s) :
    Ensures rule t post p.attempt s := by
  induction p generalizing s with
  | ret value => exact h
  | raise error => exact h
  | act op rest ih => exact fun env s₁ result hmove hexec => ih result (h env s₁ result hmove hexec)

theorem ensures_handle {handler : ε → Program Op Res ε α}
    {Q : Except ε α → S.State → Prop} (h : Ensures rule t Q p s)
    (hok : ∀ value s, Q (.ok value) s → post (.ok value) s)
    (herror : ∀ error s, Q (.error error) s → Ensures rule t post (handler error) s) :
    Ensures rule t post (p.handle handler) s := by
  refine ensures_bind (ensures_attempt (ensures_mono ?_ h))
  intro outcome s hmid
  cases outcome with
  | ok value => exact hok value s hmid
  | error error => exact herror error s hmid

theorem ensures_finalize {finalizer : Program Op Res ε Unit} {Q : Except ε α → S.State → Prop}
    (h : Ensures rule t Q p s)
    (hfinal : ∀ outcome s, Q outcome s → Ensures rule t (fun done s => match done with
      | .ok _ => post outcome s
      | .error error => post (.error error) s) finalizer s) :
    Ensures rule t post (p.finalize finalizer) s := by
  refine ensures_bind (ensures_attempt (ensures_mono ?_ h))
  intro outcome s hmid
  change Ensures rule t post (finalizer >>= fun _ => Program.ofExcept outcome) s
  refine ensures_bind (ensures_mono ?_ (hfinal outcome s hmid))
  intro done s hdone
  cases done with
  | ok _ => exact ensures_ofExcept.mpr hdone
  | error error => exact hdone

end Ensures

/-- Code whose operations all satisfy a predicate. -/
def Program.All (ok : Op → Prop) : Program Op Res ε α → Prop
  | .ret _ => True
  | .raise _ => True
  | .act op next => ok op ∧ ∀ result, (next result).All ok

/-- Such code keeps what each of these operations keeps. -/
theorem ensures_of_all {ok : Op → Prop} {inv : S.State → Prop}
    (hkeep : ∀ env s op s₁ result, ok op → rule.moves s op env →
      S.exec env t s op = some (s₁, result) → inv s → inv s₁)
    {p : Program Op Res ε α} (hall : p.All ok) {s : S.State} (h : inv s) :
    Ensures rule t (fun _ s => inv s) p s := by
  induction p generalizing s with
  | ret value => exact h
  | raise error => exact h
  | act op next ih =>
      exact fun env s₁ result hmove hexec =>
        ih result (hall.2 result) (hkeep env s op s₁ result hall.1 hmove hexec h)

section All

variable {ok : Op → Prop} {p : Program Op Res ε α}

theorem all_perform {op : Op} (h : ok op) :
    (Program.perform op : Program Op Res ε (Res op)).All ok := ⟨h, fun _ => trivial⟩

theorem all_mono {ok' : Op → Prop} (h : ∀ op, ok op → ok' op) (hp : p.All ok) : p.All ok' := by
  induction p with
  | ret value => exact trivial
  | raise error => exact trivial
  | act op rest ih => exact ⟨h op hp.1, fun result => ih result (hp.2 result)⟩

theorem all_ofExcept (outcome : Except ε α) :
    (Program.ofExcept outcome : Program Op Res ε α).All ok := by
  cases outcome <;> exact trivial

theorem all_bind {next : α → Program Op Res ε β} (hp : p.All ok)
    (hnext : ∀ value, (next value).All ok) : (p >>= next).All ok := by
  induction p with
  | ret value => exact hnext value
  | raise error => exact trivial
  | act op rest ih => exact ⟨hp.1, fun result => ih result (hp.2 result)⟩

theorem all_attempt (hp : p.All ok) : p.attempt.All ok := by
  induction p with
  | ret value => exact trivial
  | raise error => exact trivial
  | act op rest ih => exact ⟨hp.1, fun result => ih result (hp.2 result)⟩

theorem all_handle {handler : ε → Program Op Res ε α} (hp : p.All ok)
    (hhandler : ∀ error, (handler error).All ok) : (p.handle handler).All ok := by
  refine all_bind (all_attempt hp) fun outcome => ?_
  cases outcome with
  | ok value => exact trivial
  | error error => exact hhandler error

theorem all_finalize {finalizer : Program Op Res ε Unit} (hp : p.All ok)
    (hfinalizer : finalizer.All ok) : (p.finalize finalizer).All ok :=
  all_bind (all_attempt hp) fun outcome => all_bind hfinalizer fun _ => all_ofExcept outcome

end All

/-! ## What code keeps and what it returns -/

/-- Code keeps what each of its operations and the interference it relies on keep. -/
theorem Discipline.safe_of_all {D : Discipline rule} {ok : Op → Prop} {K : S.State → Prop}
    (hrely : ∀ {s s'}, D.rely t s s' → K s → K s')
    (hready : ∀ {s op}, ok op → D.inv s → K s → D.ready t s op)
    (hact : ∀ {env s op s' result}, ok op → rule.moves s op env →
      S.exec env t s op = some (s', result) → D.inv s → K s → K s')
    {p : Program Op Res ε α} (hp : p.All ok) {s : S.State} (h : K s) :
    D.Safe t (fun _ s => K s) p s := by
  induction p generalizing s with
  | ret value => exact h
  | raise error => exact h
  | act op next ih =>
      intro s₁ hs hinv
      have hK := hrely hs h
      exact ⟨hready hp.1 hinv hK, fun _ _ result hmove hexec _ =>
        ih result (hp.2 result) (hact hp.1 hmove hexec hinv hK)⟩

/-- Every value the code can return satisfies the predicate. -/
def Program.Yields (q : α → Prop) : Program Op Res ε α → Prop
  | .ret value => q value
  | .raise _ => True
  | .act _ next => ∀ result, (next result).Yields q

theorem yields_bind {p : Program Op Res ε α} {next : α → Program Op Res ε β} {q : β → Prop}
    (hnext : ∀ value, (next value).Yields q) : (p >>= next).Yields q := by
  induction p with
  | ret value => exact hnext value
  | raise error => exact trivial
  | act op rest ih => exact ih

theorem Discipline.safe_yields {D : Discipline rule} {post : Except ε α → S.State → Prop}
    {q : α → Prop} {p : Program Op Res ε α} (hq : p.Yields q) {s : S.State}
    (hp : D.Safe t post p s) :
    D.Safe t (fun outcome s => post outcome s ∧ ∀ value, outcome = .ok value → q value) p s := by
  induction p generalizing s with
  | ret value =>
      refine ⟨hp, ?_⟩
      rintro _ ⟨⟩
      exact hq
  | raise error => exact ⟨hp, fun _ heq => nomatch heq⟩
  | act op next ih =>
      intro s₁ hs hinv
      obtain ⟨hready, hrest⟩ := hp s₁ hs hinv
      exact ⟨hready, fun env s₂ result hmove hexec hinv₂ =>
        ih result (hq result) (hrest env s₂ result hmove hexec hinv₂)⟩

/-- A run of one rule is a run of every rule that allows as much. -/
theorem Reachable.mono {rule' : RunRule S} (hstarts : ∀ s call, rule.starts s call → rule'.starts s call)
    (hmoves : ∀ s op env, rule.moves s op env → rule'.moves s op env) {s₀ : S.State} {c : Config S}
    (h : Reachable rule s₀ c) : Reachable rule' s₀ c := by
  refine Relation.ReflTransGen.mono (fun c₁ c₂ hstep => ?_) _ _ h
  cases hstep with
  | start t call idle admitted => exact .start t call idle (hstarts _ _ admitted)
  | act t running env allowed executed => exact .act t running env (hmoves _ _ _ allowed) executed
  | stop t running outcome ended => exact .stop t running outcome ended

/-- The rule, with a fact about the state before every operation. -/
def RunRule.given (rule : RunRule S) (I : S.State → Prop) : RunRule S where
  starts := rule.starts
  moves s op env := rule.moves s op env ∧ I s

/-- What holds in every reachable state may be asked of every operation. -/
theorem Reachable.given {s₀ : S.State} {I : S.State → Prop}
    (hI : ∀ c, Reachable rule s₀ c → I c.shared) {c : Config S} (h : Reachable rule s₀ c) :
    Reachable (rule.given I) s₀ c := by
  induction h with
  | refl => exact .refl
  | @tail c₁ c₂ hreach hstep ih =>
      refine ih.tail ?_
      cases hstep with
      | start t call idle admitted => exact .start t call idle admitted
      | act t running env allowed executed =>
          have hgiven : (rule.given I).moves _ _ _ := ⟨allowed, hI c₁ hreach⟩
          exact .act t running env hgiven executed
      | stop t running outcome ended => exact .stop t running outcome ended

/-- An invariant of every sequence of calls. -/
theorem invariant_of_sequence (inv : S.State → Prop) {s₀ s : S.State} (h₀ : inv s₀)
    (hcalls : ∀ t call s, inv s → rule.starts s call →
      Ensures rule t (fun outcome s => inv (S.retire call outcome s)) (S.body call) s)
    (h : Sequence rule s₀ s) : inv s := by
  induction h with
  | refl => exact h₀
  | tail _ hcall ih =>
      obtain ⟨t, call, outcome, admitted, ended⟩ := hcall
      exact (hcalls t call _ ih admitted).sound ended

/-- An invariant of every interleaving, when it is kept by each operation that the code of
the calls can perform. -/
theorem invariant_of_all {ok : Op → Prop} (inv : S.State → Prop) {s₀ : S.State}
    (hcalls : ∀ call, (S.body call).All ok)
    (hkeep : ∀ {env t s op s₁ result}, ok op → rule.moves s op env →
      S.exec env t s op = some (s₁, result) → inv s → inv s₁)
    (hretire : ∀ {call outcome s}, inv s → inv (S.retire call outcome s)) (h₀ : inv s₀)
    {c : Config S} (h : Reachable rule s₀ c) : inv c.shared := by
  -- What is left of the code is carried along with the invariant.
  have hcode : inv c.shared ∧ ∀ t call code, c.running t = some (call, code) → code.All ok := by
    induction h with
    | refl => exact ⟨h₀, fun t call code hrunning => by simp [Config.initial] at hrunning⟩
    | tail _ hstep ih =>
        obtain ⟨hinv, hrest⟩ := ih
        cases hstep with
        | start t call idle admitted =>
            refine ⟨hinv, fun u call' code hrunning => ?_⟩
            by_cases hu : u = t
            · subst hu
              simp only [Config.set, Function.update_self, Option.some.injEq, Prod.mk.injEq]
                at hrunning
              obtain ⟨-, rfl⟩ := hrunning
              exact hcalls call
            · simp only [Config.set, Function.update_of_ne hu] at hrunning
              exact hrest u call' code hrunning
        | act t running env allowed executed =>
            obtain ⟨hop, hnext⟩ := hrest t _ _ running
            refine ⟨hkeep hop allowed executed hinv, fun u call' code hrunning => ?_⟩
            by_cases hu : u = t
            · subst hu
              simp only [Config.set, Function.update_self, Option.some.injEq, Prod.mk.injEq]
                at hrunning
              obtain ⟨-, rfl⟩ := hrunning
              exact hnext _
            · simp only [Config.set, Function.update_of_ne hu] at hrunning
              exact hrest u call' code hrunning
        | stop t running outcome ended =>
            refine ⟨hretire hinv, fun u call' code hrunning => ?_⟩
            by_cases hu : u = t
            · subst hu
              simp [Config.set] at hrunning
            · simp only [Config.set, Function.update_of_ne hu] at hrunning
              exact hrest u call' code hrunning
  exact hcode.1

end Concurrency
