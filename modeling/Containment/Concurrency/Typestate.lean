/-
# Typestates

A thread that has taken a lock has to give it back, and until then there are operations it
must not perform. Neither fact can be seen in the code it has left. A typestate follows a
thread through its own operations and their answers: what it holds, what it may do next, and
what it holds afterwards. The other threads do not enter, so code is checked once, alone.

What a thread holds is also a view of the shared state. Where the two agree, every thread of
every schedule obeys its typestate and an idle thread holds nothing. That is what progress
arguments need: somebody who holds a lock is somebody who is running. Nobody runs forever
here, because an operation leaves strictly less code, so where some thread can always move,
all calls come to their end.
-/

import Containment.Concurrency.Execution
import Mathlib.Algebra.Order.BigOperators.Group.Finset
import Mathlib.Logic.Hydra

namespace Concurrency

variable {Op : Type} {Res : Op → Type} {ε α β : Type}

/-- What a thread can hold, which operations this allows, and how each answer changes it. -/
structure Typestate (Op : Type) (Res : Op → Type) where
  Own : Type
  /-- What an idle thread holds. -/
  free : Own
  may : Own → Op → Prop
  after : Own → (op : Op) → Res op → Own

namespace Typestate

variable {T : Typestate Op Res} {own : T.Own} {p : Program Op Res ε α}
  {post post' : Except ε α → T.Own → Prop}

variable (T) in
/-- The code does what it may, whatever is answered, and ends in the postcondition. -/
def Obeys (post : Except ε α → T.Own → Prop) : Program Op Res ε α → T.Own → Prop
  | .ret value, own => post (.ok value) own
  | .raise error, own => post (.error error) own
  | .act op next, own => T.may own op ∧ ∀ result, Obeys post (next result) (T.after own op result)

theorem obeys_ofExcept {outcome : Except ε α} :
    T.Obeys post (.ofExcept outcome) own ↔ post outcome own := by
  cases outcome <;> exact Iff.rfl

theorem obeys_mono (hpost : ∀ outcome own, post outcome own → post' outcome own)
    (h : T.Obeys post p own) : T.Obeys post' p own := by
  induction p generalizing own with
  | ret value => exact hpost _ _ h
  | raise error => exact hpost _ _ h
  | act op next ih => exact ⟨h.1, fun result => ih result (h.2 result)⟩

theorem obeys_bind {next : α → Program Op Res ε β} {mid : Except ε α → T.Own → Prop}
    {post : Except ε β → T.Own → Prop} (h : T.Obeys mid p own)
    (hok : ∀ value own, mid (.ok value) own → T.Obeys post (next value) own)
    (herror : ∀ error own, mid (.error error) own → post (.error error) own) :
    T.Obeys post (p >>= next) own := by
  induction p generalizing own with
  | ret value => exact hok value own h
  | raise error => exact herror error own h
  | act op rest ih => exact ⟨h.1, fun result => ih result (h.2 result)⟩

theorem obeys_attempt {post : Except ε (Except ε α) → T.Own → Prop}
    (h : T.Obeys (fun outcome own => post (.ok outcome) own) p own) : T.Obeys post p.attempt own := by
  induction p generalizing own with
  | ret value => exact h
  | raise error => exact h
  | act op rest ih => exact ⟨h.1, fun result => ih result (h.2 result)⟩

/-! ## Code that gives back what it takes -/

variable (T) in
/-- The code ends holding what it held at the beginning. -/
def Keeps (own : T.Own) (p : Program Op Res ε α) : Prop := T.Obeys (fun _ own' => own' = own) p own

variable (T) in
/-- An operation that changes nothing. -/
def Neutral (own : T.Own) (op : Op) : Prop := T.may own op ∧ ∀ result, T.after own op result = own

theorem keeps_ret (value : α) : T.Keeps own (.ret value : Program Op Res ε α) := rfl

theorem keeps_raise (error : ε) : T.Keeps own (.raise error : Program Op Res ε α) := rfl

theorem keeps_bind {next : α → Program Op Res ε β} (hp : T.Keeps own p)
    (hnext : ∀ value, T.Keeps own (next value)) : T.Keeps own (p >>= next) := by
  refine obeys_bind hp (fun value own' heq => ?_) fun _ _ heq => heq
  rw [heq]
  exact hnext value

/-- An attempt does not raise. -/
theorem obeys_attempt_ok (hp : T.Keeps own p) :
    T.Obeys (fun outcome own' => (∃ inner, outcome = .ok inner) ∧ own' = own) p.attempt own :=
  obeys_attempt (obeys_mono (fun inner _ heq => ⟨⟨inner, rfl⟩, heq⟩) hp)

theorem keeps_attempt (hp : T.Keeps own p) : T.Keeps own p.attempt :=
  obeys_mono (fun _ _ h => h.2) (obeys_attempt_ok hp)

theorem keeps_of_all (hp : p.All (T.Neutral own)) : T.Keeps own p := by
  induction p with
  | ret value => rfl
  | raise error => rfl
  | act op next ih =>
      obtain ⟨⟨hmay, hafter⟩, hnext⟩ := hp
      refine ⟨hmay, fun result => ?_⟩
      rw [hafter result]
      exact ih result (hnext result)

/-- Take something, run code that keeps it, and give it back. -/
theorem keeps_bracket {held : T.Own} {acquire finalizer : Program Op Res ε Unit}
    (hacquire : T.Obeys (fun outcome own' => outcome = .ok () ∧ own' = held) acquire own)
    (hp : T.Keeps held p)
    (hfinalizer : T.Obeys (fun outcome own' => outcome = .ok () ∧ own' = own) finalizer held) :
    T.Keeps own (acquire >>= fun _ => p.finalize finalizer) := by
  refine obeys_bind hacquire (fun _ own' h => ?_) fun _ _ h => by cases h.1
  rw [h.2]
  refine obeys_bind (obeys_attempt_ok hp) (fun outcome own' h => ?_) fun _ _ h => ?_
  · rw [h.2]
    exact obeys_bind hfinalizer (fun _ _ h => obeys_ofExcept.mpr h.2) fun _ _ h => by cases h.1
  · obtain ⟨⟨_, ⟨⟩⟩, -⟩ := h

/-! ## Every thread of every schedule -/

variable {S : Service Op Res ε} {rule : RunRule S}

variable (T) in
/-- A view of the shared state that shows what each thread holds, where the state satisfies an
invariant and the threads do what they may. -/
structure Tracks (S : Service Op Res ε) (inv : S.State → Prop) (view : ℕ → S.State → T.Own) :
    Prop where
  kept : ∀ {env t s op s' result}, inv s → T.may (view t s) op →
    S.exec env t s op = some (s', result) → inv s'
  self : ∀ {env t s op s' result}, inv s → T.may (view t s) op →
    S.exec env t s op = some (s', result) → view t s' = T.after (view t s) op result
  others : ∀ {env t s op s' result}, inv s → T.may (view t s) op →
    S.exec env t s op = some (s', result) → ∀ u, u ≠ t → view u s' = view u s
  retire_inv : ∀ {call outcome s}, inv s → inv (S.retire call outcome s)
  retire : ∀ call outcome s t, view t (S.retire call outcome s) = view t s

variable {inv : S.State → Prop} {view : ℕ → S.State → T.Own}

variable (T) in
/-- Idle threads hold nothing, and the others will obey to the end. -/
structure Held (inv : S.State → Prop) (view : ℕ → S.State → T.Own) (c : Config S) : Prop where
  inv : inv c.shared
  idle : ∀ t, c.running t = none → view t c.shared = T.free
  busy : ∀ t call code, c.running t = some (call, code) →
    T.Obeys (fun _ own => own = T.free) code (view t c.shared)

theorem Held.step (htracks : T.Tracks S inv view) (hcalls : ∀ call, T.Keeps T.free (S.body call))
    {c c' : Config S} (h : T.Held inv view c) (hstep : Step rule c c') : T.Held inv view c' := by
  cases hstep with
  | start t call idle admitted =>
      refine ⟨h.inv, fun u hu => ?_, fun u call' code hu => ?_⟩
      · by_cases hut : u = t
        · subst hut
          simp [Config.set] at hu
        · simp only [Config.set, Function.update_of_ne hut] at hu
          exact h.idle u hu
      · by_cases hut : u = t
        · subst hut
          simp only [Config.set, Function.update_self, Option.some.injEq, Prod.mk.injEq] at hu
          obtain ⟨rfl, rfl⟩ := hu
          change T.Obeys _ _ (view u c.shared)
          rw [h.idle u idle]
          exact hcalls call
        · simp only [Config.set, Function.update_of_ne hut] at hu
          exact h.busy u call' code hu
  | @act t call op next running env allowed s result executed =>
      obtain ⟨hmay, hnext⟩ := h.busy t call _ running
      refine ⟨htracks.kept h.inv hmay executed, fun u hu => ?_, fun u call' code hu => ?_⟩
      · by_cases hut : u = t
        · subst hut
          simp [Config.set] at hu
        · simp only [Config.set, Function.update_of_ne hut] at hu
          exact (htracks.others h.inv hmay executed u hut).trans (h.idle u hu)
      · by_cases hut : u = t
        · subst hut
          simp only [Config.set, Function.update_self, Option.some.injEq, Prod.mk.injEq] at hu
          obtain ⟨rfl, rfl⟩ := hu
          change T.Obeys _ _ (view u s)
          rw [htracks.self h.inv hmay executed]
          exact hnext result
        · simp only [Config.set, Function.update_of_ne hut] at hu
          change T.Obeys _ _ (view u s)
          rw [htracks.others h.inv hmay executed u hut]
          exact h.busy u call' code hu
  | @stop t call code running outcome ended =>
      refine ⟨htracks.retire_inv h.inv, fun u hu => ?_, fun u call' code' hu => ?_⟩
      · refine (htracks.retire call outcome c.shared u).trans ?_
        by_cases hut : u = t
        · subst hut
          have hend := h.busy u call code running
          rw [ended] at hend
          exact obeys_ofExcept.mp hend
        · simp only [Config.set, Function.update_of_ne hut] at hu
          exact h.idle u hu
      · by_cases hut : u = t
        · subst hut
          simp [Config.set] at hu
        · simp only [Config.set, Function.update_of_ne hut] at hu
          change T.Obeys _ _ (view u (S.retire call outcome c.shared))
          rw [htracks.retire]
          exact h.busy u call' code' hu

theorem held_of_reachable (htracks : T.Tracks S inv view)
    (hcalls : ∀ call, T.Keeps T.free (S.body call)) {s₀ : S.State} (hinv : inv s₀)
    (h₀ : ∀ t, view t s₀ = T.free) {c : Config S} (h : Reachable rule s₀ c) : T.Held inv view c := by
  induction h with
  | refl =>
      exact ⟨hinv, fun t _ => h₀ t, fun t call code hrunning => by simp [Config.initial] at hrunning⟩
  | tail _ hstep ih => exact ih.step htracks hcalls hstep

end Typestate

/-! ## Coming to an end -/

variable {S : Service Op Res ε} {rule : RunRule S}

/-- A step that begins no call. -/
def Advance (rule : RunRule S) (c c' : Config S) : Prop :=
  Step rule c c' ∧ ∀ t, c.running t = none → c'.running t = none

/-- What is left after one operation. -/
def Program.Rest (p' p : Program Op Res ε α) : Prop := ∃ op next result, p = .act op next ∧ p' = next result

theorem wellFounded_rest : WellFounded (@Program.Rest Op Res ε α) := by
  refine ⟨fun p => ?_⟩
  induction p with
  | ret value => exact ⟨_, by rintro _ ⟨_, _, _, ⟨⟩, _⟩⟩
  | raise error => exact ⟨_, by rintro _ ⟨_, _, _, ⟨⟩, _⟩⟩
  | act op next ih =>
      refine ⟨_, ?_⟩
      rintro _ ⟨_, _, result, ⟨⟩, rfl⟩
      exact ih result

/-- The code a thread has left. -/
def Config.left (c : Config S) (t : ℕ) : Multiset (Program Op Res ε S.Reply) :=
  (c.running t).elim 0 fun call => {call.2}

/-- The code all of these threads have left. -/
def Config.work (c : Config S) (threads : Finset ℕ) : Multiset (Program Op Res ε S.Reply) :=
  ∑ t ∈ threads, c.left t

theorem work_set (c : Config S) {threads : Finset ℕ} {t : ℕ} (ht : t ∈ threads) (s : S.State)
    (code : Option (S.Call × Program Op Res ε S.Reply)) :
    (c.set s t code).work threads + c.left t =
      c.work threads + code.elim 0 fun call => {call.2} := by
  have hsame : ∑ u ∈ threads.erase t, (c.set s t code).left u = ∑ u ∈ threads.erase t, c.left u := by
    refine Finset.sum_congr rfl fun u hu => ?_
    simp only [Config.left, Config.set, Function.update_of_ne (Finset.ne_of_mem_erase hu)]
  have hself : (c.set s t code).left t = code.elim 0 fun call => {call.2} := by
    simp only [Config.left, Config.set, Function.update_self]
  rw [Config.work, Config.work, ← Finset.add_sum_erase _ _ ht, ← Finset.add_sum_erase _ _ ht, hsame,
    hself]
  ac_rfl

/-- Every such step leaves less work, in the order in which one piece of code may be replaced
by any number of smaller ones. -/
theorem cutExpand_of_advance {threads : Finset ℕ} {c c' : Config S}
    (hthreads : ∀ t, c.running t ≠ none → t ∈ threads) (h : Advance rule c c') :
    Relation.CutExpand Program.Rest (c'.work threads) (c.work threads) := by
  obtain ⟨hstep, hidle⟩ := h
  cases hstep with
  | start t call idle admitted =>
      have hnone := hidle t idle
      simp [Config.set] at hnone
  | @act t call op next running env allowed s result executed =>
      have ht : t ∈ threads := hthreads t (by rw [running]; exact Option.some_ne_none _)
      refine ⟨{next result}, .act op next, ?_, ?_⟩
      · intro code hcode
        rw [Multiset.mem_singleton] at hcode
        exact ⟨op, next, result, rfl, hcode⟩
      · have hwork := work_set c ht s (some (call, next result))
        simpa [Config.left, running] using hwork
  | @stop t call code running outcome ended =>
      have ht : t ∈ threads := hthreads t (by rw [running]; exact Option.some_ne_none _)
      refine ⟨0, code, by simp, ?_⟩
      have hwork := work_set c ht (S.retire call outcome c.shared) none
      simpa [Config.left, running] using hwork

theorem Advance.threads {threads : Finset ℕ} {c c' : Config S}
    (hthreads : ∀ t, c.running t ≠ none → t ∈ threads) (h : Advance rule c c') :
    ∀ t, c'.running t ≠ none → t ∈ threads :=
  fun t hrunning => hthreads t fun hidle => hrunning (h.2 t hidle)

/-- Without new calls there is no infinite schedule. -/
theorem acc_advance {threads : Finset ℕ} {c : Config S}
    (hthreads : ∀ t, c.running t ≠ none → t ∈ threads) :
    Acc (fun c' c => Advance rule c c') c := by
  generalize hwork : c.work threads = work
  induction work using wellFounded_rest.cutExpand.induction generalizing c with
  | _ work ih =>
      subst hwork
      exact ⟨c, fun c' h => ih _ (cutExpand_of_advance hthreads h) (h.threads hthreads) rfl⟩

/-- Finitely many threads are running in a configuration that some schedule reaches. -/
theorem exists_threads {s₀ : S.State} {c : Config S} (h : Reachable rule s₀ c) :
    ∃ threads : Finset ℕ, ∀ t, c.running t ≠ none → t ∈ threads := by
  induction h with
  | refl => exact ⟨∅, fun t hrunning => absurd rfl hrunning⟩
  | @tail c c' _ hstep ih =>
      obtain ⟨threads, hthreads⟩ := ih
      have hset (t : ℕ) (s : S.State) (code : Option (S.Call × Program Op Res ε S.Reply)) :
          ∃ threads' : Finset ℕ, ∀ u, (c.set s t code).running u ≠ none → u ∈ threads' := by
        refine ⟨insert t threads, fun u hu => ?_⟩
        by_cases hut : u = t
        · exact hut ▸ Finset.mem_insert_self _ _
        · simp only [Config.set, Function.update_of_ne hut] at hu
          exact Finset.mem_insert_of_mem (hthreads u hu)
      cases hstep with
      | start t call idle admitted => exact hset t _ _
      | act t running env allowed executed => exact hset t _ _
      | stop t running outcome ended => exact hset t _ _

/-- Where some call can always go on, every schedule without new calls is finite and can be
continued until no call is left. -/
theorem exists_quiescent {I : Config S → Prop}
    (hI : ∀ {c c'}, I c → Advance rule c c' → I c')
    (hprogress : ∀ {c}, I c → ¬ c.Quiescent → ∃ c', Advance rule c c') {c : Config S} (h : I c)
    (hacc : Acc (fun c' c => Advance rule c c') c) :
    ∃ c', Relation.ReflTransGen (Advance rule) c c' ∧ c'.Quiescent := by
  induction hacc with
  | intro c _ ih =>
      by_cases hquiescent : c.Quiescent
      · exact ⟨c, .refl, hquiescent⟩
      · obtain ⟨c₁, hadvance⟩ := hprogress h hquiescent
        obtain ⟨c', hrest, hend⟩ := ih c₁ hadvance (hI h hadvance)
        exact ⟨c', .head hadvance hrest, hend⟩

end Concurrency
