/-
# Interleaved calls on one shared state

A `Service` offers calls whose bodies are programs over the atomic operations of
a shared state. Any number of calls may be in progress, and a schedule may
switch threads between any two operations. The environment answers whatever an
operation asks of the outside world, so one relation covers every clock reading,
every external result and every failure.

Safety of all interleavings is proved one thread at a time. A `Discipline` says
what holds of the shared state, what an operation needs before it may run, and
what a thread may rely on while others run. `Safe` is the resulting weakest
precondition. The bind, handler and finalizer rules compose it along the code,
and `Discipline.invariant_of_reachable` turns it into a statement about every
reachable configuration.
-/

import Mathlib.Logic.Relation
import Mathlib.Logic.Function.Basic
import Mathlib.Data.Nat.Notation
import Containment.Concurrency.Program

namespace Concurrency

variable {Op : Type} {Res : Op → Type} {ε α β : Type}

/-- Calls over a shared state. `exec` is partial because an operation may be
blocked by a lock that another thread holds. -/
structure Service (Op : Type) (Res : Op → Type) (ε : Type) where
  /-- The state all threads share. -/
  State : Type
  /-- What the outside world answers to one operation. -/
  Env : Type
  Call : Type
  Reply : Type
  exec : Env → ℕ → State → (op : Op) → Option (State × Res op)
  body : Call → Program Op Res ε Reply
  /-- What the environment learns when a call ends. -/
  retire : Call → Except ε Reply → State → State

/-- Which calls may begin and which operation steps may be taken. A run
condition restricts a schedule here, never inside the code. -/
structure RunRule (S : Service Op Res ε) where
  starts : S.State → S.Call → Prop
  moves : S.State → Op → S.Env → Prop

/-- The shared state together with the remaining code of every call in progress. -/
structure Config (S : Service Op Res ε) where
  shared : S.State
  running : ℕ → Option (S.Call × Program Op Res ε S.Reply)

namespace Config

variable {S : Service Op Res ε}

/-- No call is in progress. -/
def Quiescent (c : Config S) : Prop := ∀ t, c.running t = none

/-- The configuration in which no call has begun. -/
def initial (s : S.State) : Config S := ⟨s, fun _ => none⟩

/-- Replace the shared state and what one thread is running. -/
def set (c : Config S) (s : S.State) (t : ℕ)
    (code : Option (S.Call × Program Op Res ε S.Reply)) : Config S :=
  ⟨s, Function.update c.running t code⟩

end Config

variable {S : Service Op Res ε}

/-- One scheduling step: a call begins, performs one operation, or ends. -/
inductive Step (rule : RunRule S) : Config S → Config S → Prop
  | start {c : Config S} (t : ℕ) (call : S.Call) (idle : c.running t = none)
      (admitted : rule.starts c.shared call) :
      Step rule c (c.set c.shared t (some (call, S.body call)))
  | act {c : Config S} (t : ℕ) {call : S.Call} {op : Op}
      {next : Res op → Program Op Res ε S.Reply}
      (running : c.running t = some (call, .act op next))
      (env : S.Env) (allowed : rule.moves c.shared op env)
      {s : S.State} {result : Res op}
      (executed : S.exec env t c.shared op = some (s, result)) :
      Step rule c (c.set s t (some (call, next result)))
  | stop {c : Config S} (t : ℕ) {call : S.Call} {code : Program Op Res ε S.Reply}
      (running : c.running t = some (call, code)) (outcome : Except ε S.Reply)
      (ended : code = .ofExcept outcome) :
      Step rule c (c.set (S.retire call outcome c.shared) t none)

/-- Configurations some schedule leads to. -/
def Reachable (rule : RunRule S) (s₀ : S.State) (c : Config S) : Prop :=
  Relation.ReflTransGen (Step rule) (Config.initial s₀) c

/-- The proof obligations of one group of safety results. `ready` is what the
code must have established before an operation; `rely` is what every other
thread's operations keep true for a thread that is waiting. -/
structure Discipline (rule : RunRule S) where
  inv : S.State → Prop
  ready : ℕ → S.State → Op → Prop
  rely : ℕ → S.State → S.State → Prop
  rely_refl : ∀ t s, rely t s s
  rely_trans : ∀ {t s₁ s₂ s₃}, rely t s₁ s₂ → rely t s₂ s₃ → rely t s₁ s₃
  act_inv : ∀ {env t s op s' result}, inv s → ready t s op → rule.moves s op env →
    S.exec env t s op = some (s', result) → inv s'
  act_rely : ∀ {env t s op s' result}, inv s → ready t s op → rule.moves s op env →
    S.exec env t s op = some (s', result) → ∀ u, u ≠ t → rely u s s'

namespace Discipline

variable {rule : RunRule S} (D : Discipline rule)

/-- From `s`, thread `t` can run the program under any interference: each
operation is ready when its turn comes, and the outcome satisfies `post`. -/
def Safe (t : ℕ) (post : Except ε α → S.State → Prop) :
    Program Op Res ε α → S.State → Prop
  | .ret value, s => post (.ok value) s
  | .raise error, s => post (.error error) s
  | .act op next, s =>
      ∀ s₁, D.rely t s s₁ → D.inv s₁ → D.ready t s₁ op ∧
        ∀ env s₂ result, rule.moves s₁ op env → S.exec env t s₁ op = some (s₂, result) →
          D.inv s₂ → Safe t post (next result) s₂

variable {D} {t : ℕ} {post : Except ε α → S.State → Prop} {s s' : S.State}

@[simp]
theorem safe_ret {value : α} : D.Safe t post (.ret value) s ↔ post (.ok value) s := Iff.rfl

@[simp]
theorem safe_raise {error : ε} :
    D.Safe t post (.raise error) s ↔ post (.error error) s := Iff.rfl

theorem safe_ofExcept {outcome : Except ε α} :
    D.Safe t post (.ofExcept outcome) s ↔ post outcome s := by
  cases outcome <;> exact Iff.rfl

/-- A single operation, with its result handed straight to the postcondition. -/
theorem safe_act {op : Op} {next : Res op → Program Op Res ε α}
    (h : ∀ s₁, D.rely t s s₁ → D.inv s₁ → D.ready t s₁ op ∧
      ∀ env s₂ result, rule.moves s₁ op env → S.exec env t s₁ op = some (s₂, result) →
        D.inv s₂ → D.Safe t post (next result) s₂) :
    D.Safe t post (.act op next) s := h

theorem safe_mono {post' : Except ε α → S.State → Prop}
    (h : ∀ outcome s, post outcome s → post' outcome s) :
    ∀ {p : Program Op Res ε α} {s : S.State}, D.Safe t post p s → D.Safe t post' p s
  | .ret _, s, hp => h _ s hp
  | .raise _, s, hp => h _ s hp
  | .act _ _, _, hp => fun s₁ hrely hinv =>
      ⟨(hp s₁ hrely hinv).1, fun env s₂ result hmove hexec hinv₂ =>
        safe_mono h ((hp s₁ hrely hinv).2 env s₂ result hmove hexec hinv₂)⟩

/-- What a thread has established survives the interference it relies on. -/
theorem safe_of_rely
    (stable : ∀ outcome s s', D.rely t s s' → post outcome s → post outcome s') :
    ∀ {p : Program Op Res ε α}, D.Safe t post p s → D.rely t s s' → D.Safe t post p s'
  | .ret _, hp, hrely => stable _ _ _ hrely hp
  | .raise _, hp, hrely => stable _ _ _ hrely hp
  | .act _ _, hp, hrely => fun s₁ hrely₁ hinv => hp s₁ (D.rely_trans hrely hrely₁) hinv

/-- Sequencing: the first program's outcome is the second one's precondition. -/
theorem safe_bind {post : Except ε β → S.State → Prop} {next : α → Program Op Res ε β} :
    ∀ {p : Program Op Res ε α} {s : S.State},
      D.Safe t (fun outcome s => D.Safe t post
        (Program.ofExcept outcome >>= next) s) p s →
      D.Safe t post (p >>= next) s
  | .ret _, _, hp => hp
  | .raise _, _, hp => hp
  | .act _ _, _, hp => fun s₁ hrely hinv =>
      ⟨(hp s₁ hrely hinv).1, fun env s₂ result hmove hexec hinv₂ =>
        safe_bind ((hp s₁ hrely hinv).2 env s₂ result hmove hexec hinv₂)⟩

theorem safe_attempt {post : Except ε (Except ε α) → S.State → Prop} :
    ∀ {p : Program Op Res ε α} {s : S.State},
      D.Safe t (fun outcome s => post (.ok outcome) s) p s → D.Safe t post p.attempt s
  | .ret _, _, hp => hp
  | .raise _, _, hp => hp
  | .act _ _, _, hp => fun s₁ hrely hinv =>
      ⟨(hp s₁ hrely hinv).1, fun env s₂ result hmove hexec hinv₂ =>
        safe_attempt ((hp s₁ hrely hinv).2 env s₂ result hmove hexec hinv₂)⟩

/-- Sequencing, with what the first program establishes named. -/
theorem safe_seq {first : Except ε α → S.State → Prop} {post : Except ε β → S.State → Prop}
    {p : Program Op Res ε α} {next : α → Program Op Res ε β} (hp : D.Safe t first p s)
    (hok : ∀ value s, first (.ok value) s → D.Safe t post (next value) s)
    (herror : ∀ error s, first (.error error) s → post (.error error) s) :
    D.Safe t post (p >>= next) s := by
  refine safe_bind (safe_mono ?_ hp)
  intro outcome s₁ h
  cases outcome with
  | ok value => exact hok value s₁ h
  | error error => exact herror error s₁ h

theorem safe_attempt_seq {first : Except ε α → S.State → Prop}
    {post : Except ε β → S.State → Prop} {p : Program Op Res ε α}
    {next : Except ε α → Program Op Res ε β} (hp : D.Safe t first p s)
    (hnext : ∀ outcome s, first outcome s → D.Safe t post (next outcome) s) :
    D.Safe t post (p.attempt >>= next) s :=
  safe_bind (safe_attempt (safe_mono hnext hp))

theorem safe_handle {p : Program Op Res ε α} {handler : ε → Program Op Res ε α}
    (h : D.Safe t (fun outcome s =>
      match outcome with
      | .ok value => post (.ok value) s
      | .error error => D.Safe t post (handler error) s) p s) :
    D.Safe t post (p.handle handler) s := by
  refine safe_bind (safe_attempt (safe_mono ?_ h))
  intro outcome s hs
  cases outcome <;> exact hs

theorem safe_finalize {p : Program Op Res ε α} {finalizer : Program Op Res ε Unit}
    (h : D.Safe t (fun outcome s => D.Safe t (fun done s =>
      match done with
      | .ok _ => post outcome s
      | .error error => post (.error error) s) finalizer s) p s) :
    D.Safe t post (p.finalize finalizer) s := by
  refine safe_bind (safe_attempt (safe_mono ?_ h))
  intro outcome s hs
  change D.Safe t post (finalizer >>= fun _ => Program.ofExcept outcome) s
  refine safe_bind (safe_mono ?_ hs)
  intro done s hdone
  cases done with
  | ok _ => exact safe_ofExcept.mpr hdone
  | error error => exact hdone

/-! ### Code without a precondition -/

variable (D) in
/-- Code that may run from any state. What it establishes is of no interest. -/
def Clean (p : Program Op Res ε α) : Prop := ∀ t s, D.Safe t (fun _ _ => True) p s

theorem clean_ret (value : α) : D.Clean (.ret value) := fun _ _ => trivial

theorem clean_raise (error : ε) : D.Clean (.raise error : Program Op Res ε α) :=
  fun _ _ => trivial

theorem clean_ofExcept (outcome : Except ε α) : D.Clean (.ofExcept outcome) :=
  fun _ _ => safe_ofExcept.mpr trivial

/-- An operation that is always ready. -/
theorem clean_act {op : Op} {next : Res op → Program Op Res ε α}
    (hready : ∀ t s, D.inv s → D.ready t s op) (hnext : ∀ result, D.Clean (next result)) :
    D.Clean (.act op next) :=
  fun t _ s₁ _ hinv => ⟨hready t s₁ hinv, fun _ s₂ result _ _ _ => hnext result t s₂⟩

theorem clean_perform {op : Op} (hready : ∀ t s, D.inv s → D.ready t s op) :
    D.Clean (.perform op : Program Op Res ε (Res op)) :=
  clean_act hready fun _ => clean_ret _

theorem clean_bind {p : Program Op Res ε α} {next : α → Program Op Res ε β} (hp : D.Clean p)
    (hnext : ∀ value, D.Clean (next value)) : D.Clean (p >>= next) := by
  intro t s
  refine safe_bind (safe_mono ?_ (hp t s))
  intro outcome s₁ _
  cases outcome with
  | ok value => exact hnext value t s₁
  | error error => exact trivial

theorem clean_map {p : Program Op Res ε α} {f : α → β} (hp : D.Clean p) : D.Clean (f <$> p) :=
  clean_bind hp fun _ => clean_ret _

theorem clean_attempt {p : Program Op Res ε α} (hp : D.Clean p) : D.Clean p.attempt :=
  fun t s => safe_attempt (hp t s)

theorem clean_handle {p : Program Op Res ε α} {handler : ε → Program Op Res ε α}
    (hp : D.Clean p) (hhandler : ∀ error, D.Clean (handler error)) :
    D.Clean (p.handle handler) := by
  intro t s
  refine safe_handle (safe_mono ?_ (hp t s))
  intro outcome s₁ _
  cases outcome with
  | ok value => exact trivial
  | error error => exact hhandler error t s₁

theorem clean_finalize {p : Program Op Res ε α} {finalizer : Program Op Res ε Unit}
    (hp : D.Clean p) (hfinalizer : D.Clean finalizer) : D.Clean (p.finalize finalizer) := by
  intro t s
  refine safe_finalize (safe_mono ?_ (hp t s))
  intro outcome s₁ _
  refine safe_mono ?_ (hfinalizer t s₁)
  intro done _ _
  cases done <;> exact trivial

/-! ## Code under a stable assertion -/

variable (D) in
/-- An assertion that no thread can break. -/
structure Stable (I : S.State → Prop) : Prop where
  rely : ∀ {t s s'}, D.rely t s s' → I s → I s'
  act : ∀ {env t s op s' result}, rule.moves s op env → S.exec env t s op = some (s', result) →
    I s → I s'

variable (D) in
/-- Code that may run from any state that satisfies the assertion. -/
def CleanUnder (I : S.State → Prop) (p : Program Op Res ε α) : Prop :=
  ∀ t s, I s → D.Safe t (fun _ _ => True) p s

section Stable

variable {I : S.State → Prop} {p : Program Op Res ε α}

theorem Clean.under (hp : D.Clean p) : D.CleanUnder I p := fun t s _ => hp t s

/-- A stable assertion holds at the end if it holds at the beginning. -/
theorem safe_stable (hI : D.Stable I) (hp : D.Safe t post p s) (h : I s) :
    D.Safe t (fun outcome s => post outcome s ∧ I s) p s := by
  induction p generalizing s with
  | ret value => exact ⟨hp, h⟩
  | raise error => exact ⟨hp, h⟩
  | act op next ih =>
      intro s₁ hrely hinv
      obtain ⟨hready, hnext⟩ := hp s₁ hrely hinv
      refine ⟨hready, fun env s₂ result hmove hexec hinv₂ => ?_⟩
      exact ih result (hnext env s₂ result hmove hexec hinv₂) (hI.act hmove hexec (hI.rely hrely h))

theorem cleanUnder_perform {op : Op} (hI : D.Stable I)
    (hready : ∀ t s, D.inv s → I s → D.ready t s op) :
    D.CleanUnder I (.perform op : Program Op Res ε (Res op)) :=
  fun t _ h s₁ hrely hinv => ⟨hready t s₁ hinv (hI.rely hrely h), fun _ _ _ _ _ _ => trivial⟩

theorem cleanUnder_bind {next : α → Program Op Res ε β} (hI : D.Stable I)
    (hp : D.CleanUnder I p) (hnext : ∀ value, D.CleanUnder I (next value)) :
    D.CleanUnder I (p >>= next) := by
  intro t s h
  exact safe_seq (safe_stable hI (hp t s h) h) (fun value s₁ h₁ => hnext value t s₁ h₁.2)
    fun _ _ _ => trivial

theorem cleanUnder_handle {handler : ε → Program Op Res ε α} (hI : D.Stable I)
    (hp : D.CleanUnder I p) (hhandler : ∀ error, D.CleanUnder I (handler error)) :
    D.CleanUnder I (p.handle handler) := by
  intro t s h
  refine safe_handle (safe_mono ?_ (safe_stable hI (hp t s h) h))
  intro outcome s₁ h₁
  cases outcome with
  | ok value => exact trivial
  | error error => exact hhandler error t s₁ h₁.2

/-- Code that establishes the assertion, and code that needs it. -/
theorem clean_establish {next : α → Program Op Res ε β}
    (hp : ∀ t s, D.Safe t (fun outcome s => ∀ value, outcome = .ok value → I s) p s)
    (hnext : ∀ value, D.CleanUnder I (next value)) : D.Clean (p >>= next) :=
  fun t s => safe_seq (hp t s) (fun value s₁ h => hnext value t s₁ (h value rfl))
    fun _ _ _ => trivial

end Stable

variable (D) in
/-- Every call is safe from every state that satisfies the invariant, and what it
has established when it ends justifies handing its outcome to the environment. -/
structure Covers (done : S.Call → Except ε S.Reply → S.State → Prop) : Prop where
  stable : ∀ {t call outcome s s'}, D.rely t s s' → done call outcome s → done call outcome s'
  calls : ∀ t {call s}, D.inv s → rule.starts s call → D.Safe t (done call) (S.body call) s
  retire_inv : ∀ {call outcome s}, D.inv s → done call outcome s →
    D.inv (S.retire call outcome s)
  retire_rely : ∀ {call outcome s}, D.inv s → done call outcome s →
    ∀ u, D.rely u s (S.retire call outcome s)

variable {done : S.Call → Except ε S.Reply → S.State → Prop}

/-- The shared invariant and every running thread's safety, together. -/
def Holds (D : Discipline rule) (done : S.Call → Except ε S.Reply → S.State → Prop)
    (c : Config S) : Prop :=
  D.inv c.shared ∧ ∀ t call code, c.running t = some (call, code) →
    D.Safe t (done call) code c.shared

/-- One step keeps the invariant, keeps the stepping thread safe and, through
what they rely on, keeps all other threads safe. -/
theorem Holds.step (covers : D.Covers done) {c c' : Config S} (h : D.Holds done c)
    (hstep : Step rule c c') : D.Holds done c' := by
  obtain ⟨hinv, hsafe⟩ := h
  -- In every case the other threads only see what they rely on.
  have others {u : ℕ} {s₁ : S.State} {call code} (hrely : D.rely u c.shared s₁)
      (hrun : c.running u = some (call, code)) : D.Safe u (done call) code s₁ := by
    have hstable : ∀ outcome s s', D.rely u s s' → done call outcome s → done call outcome s' :=
      fun _ _ _ => covers.stable
    exact safe_of_rely hstable (hsafe u call code hrun) hrely
  cases hstep with
  | start t call idle admitted =>
      refine ⟨hinv, fun u call' code hrun => ?_⟩
      by_cases hu : u = t
      · subst hu
        simp only [Config.set, Function.update_self, Option.some.injEq, Prod.mk.injEq] at hrun
        obtain ⟨rfl, rfl⟩ := hrun
        exact covers.calls u hinv admitted
      · simp only [Config.set, Function.update_of_ne hu] at hrun
        exact hsafe u call' code hrun
  | @act t call op next running env allowed s₂ result executed =>
      have hact := hsafe t call _ running c.shared (D.rely_refl t _) hinv
      have hinv₂ := D.act_inv hinv hact.1 allowed executed
      refine ⟨hinv₂, fun u call' code hrun => ?_⟩
      by_cases hu : u = t
      · subst hu
        simp only [Config.set, Function.update_self, Option.some.injEq, Prod.mk.injEq] at hrun
        obtain ⟨rfl, rfl⟩ := hrun
        exact hact.2 env s₂ result allowed executed hinv₂
      · simp only [Config.set, Function.update_of_ne hu] at hrun
        exact others (D.act_rely hinv hact.1 allowed executed u hu) hrun
  | @stop t call code running outcome ended =>
      subst ended
      have hdone : done call outcome c.shared := safe_ofExcept.mp (hsafe t call _ running)
      refine ⟨covers.retire_inv hinv hdone, fun u call' code hrun => ?_⟩
      by_cases hu : u = t
      · subst hu
        simp [Config.set] at hrun
      · simp only [Config.set, Function.update_of_ne hu] at hrun
        exact others (covers.retire_rely hinv hdone u) hrun

/-- The invariant and every thread's safety hold in every configuration any schedule
reaches. -/
theorem holds_of_reachable (covers : D.Covers done) {s₀ : S.State} (h₀ : D.inv s₀)
    {c : Config S} (hc : Reachable rule s₀ c) : D.Holds done c := by
  induction hc with
  | refl => exact ⟨h₀, fun t call code hrun => by simp [Config.initial] at hrun⟩
  | tail _ hstep ih => exact ih.step covers hstep

theorem invariant_of_reachable (covers : D.Covers done) {s₀ : S.State} (h₀ : D.inv s₀)
    {c : Config S} (hc : Reachable rule s₀ c) : D.inv c.shared :=
  (holds_of_reachable covers h₀ hc).1

/-- What no thread's interference changes is not changed along a run. -/
theorem Holds.steps (covers : D.Covers done) {I : S.State → Prop}
    (hrely : ∀ {u s s'}, D.rely u s s' → I s → I s') {c c' : Config S} (h : D.Holds done c)
    (hI : I c.shared) (hsteps : Relation.ReflTransGen (Step rule) c c') :
    D.Holds done c' ∧ I c'.shared := by
  induction hsteps with
  | refl => exact ⟨h, hI⟩
  | tail _ hstep ih =>
      obtain ⟨hholds, hI⟩ := ih
      refine ⟨hholds.step covers hstep, ?_⟩
      cases hstep with
      | start t call idle admitted => exact hI
      | act t running env allowed executed =>
          -- Some other thread is waiting.
          have hact := hholds.2 t _ _ running _ (D.rely_refl t _) hholds.1
          exact hrely (D.act_rely hholds.1 hact.1 allowed executed (t + 1) t.succ_ne_self) hI
      | stop t running outcome ended =>
          subst ended
          have hdone := safe_ofExcept.mp (hholds.2 t _ _ running)
          exact hrely (covers.retire_rely hholds.1 hdone t) hI

end Discipline

end Concurrency
