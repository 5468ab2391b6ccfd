/-
# What code hands back

Rules of pre- and postconditions for the code of one thread: from a state that satisfies
the first assertion, the code returns a value and a state that satisfy the second one, or
raises an error of an expected kind. No rule looks inside an operation.
-/

import Containment.Concurrency.Interleaving

namespace Concurrency

namespace Discipline

variable {Op : Type} {Res : Op → Type} {ε α β : Type} {S : Service Op Res ε} {rule : RunRule S}
  {D : Discipline rule}

/-- An outcome is a value that satisfies the assertion, or an expected error. -/
def Returned (expected : ε → Prop) (Q : α → S.State → Prop) : Except ε α → S.State → Prop
  | .ok value, s => Q value s
  | .error error, _ => expected error

variable (D) in
/-- From every state of the first assertion the code ends as the second one says. -/
def Gives (expected : ε → Prop) (I : S.State → Prop) (Q : α → S.State → Prop)
    (p : Program Op Res ε α) : Prop :=
  ∀ t s, I s → D.Safe t (Returned expected Q) p s

variable {expected : ε → Prop} {I : S.State → Prop} {Q : α → S.State → Prop}
  {R : β → S.State → Prop} {p : Program Op Res ε α}

theorem gives_ret {value : α} (h : ∀ s, I s → Q value s) : D.Gives expected I Q (.ret value) :=
  fun _ s hs => h s hs

theorem gives_raise {error : ε} (h : expected error) :
    D.Gives expected I Q (.raise error : Program Op Res ε α) := fun _ _ _ => h

theorem gives_ofExcept {outcome : Except ε α}
    (hok : ∀ value, outcome = .ok value → ∀ s, I s → Q value s)
    (herror : ∀ error, outcome = .error error → expected error) :
    D.Gives expected I Q (.ofExcept outcome) := by
  cases outcome with
  | ok value => exact gives_ret (hok value rfl)
  | error error => exact gives_raise (herror error rfl)

theorem gives_mono {I' : S.State → Prop} {Q' : α → S.State → Prop} (hI : ∀ s, I' s → I s)
    (hQ : ∀ value s, Q value s → Q' value s) (hp : D.Gives expected I Q p) :
    D.Gives expected I' Q' p := by
  intro t s hs
  refine safe_mono ?_ (hp t s (hI s hs))
  intro outcome s₁ h
  cases outcome with
  | ok value => exact hQ value s₁ h
  | error error => exact h

theorem gives_bind {next : α → Program Op Res ε β} (hp : D.Gives expected I Q p)
    (hnext : ∀ value, D.Gives expected (Q value) R (next value)) :
    D.Gives expected I R (p >>= next) := fun t s hs =>
  safe_seq (hp t s hs) (fun value s₁ h => hnext value t s₁ h) fun _ _ h => h

/-- What no thread can break is still there at the end. -/
theorem gives_frame {J : S.State → Prop} (hJ : D.Stable J) (hp : D.Gives expected I Q p) :
    D.Gives expected (fun s => I s ∧ J s) (fun value s => Q value s ∧ J s) p := by
  intro t s hs
  refine safe_mono ?_ (safe_stable hJ (hp t s hs.1) hs.2)
  intro outcome s₁ h
  cases outcome with
  | ok value => exact h
  | error error => exact h.1

/-! ## Code under one stable assertion -/

section Under

variable (hI : D.Stable I)
include hI

/-- The value of the first part is of no interest. -/
theorem gives_then {next : α → Program Op Res ε β}
    (hp : D.Gives expected I (fun _ _ => True) p)
    (hnext : ∀ value, D.Gives expected I R (next value)) : D.Gives expected I R (p >>= next) := by
  have hkept : D.Gives expected I (fun _ => I) p :=
    gives_mono (fun s hs => ⟨hs, hs⟩) (fun _ _ h => h.2) (gives_frame hI hp)
  exact gives_bind hkept hnext

theorem gives_attempt {next : Except ε α → Program Op Res ε β} (hp : D.Gives expected I Q p)
    (hok : ∀ value, D.Gives expected (fun s => Q value s ∧ I s) R (next (.ok value)))
    (herror : ∀ error, expected error → D.Gives expected I R (next (.error error))) :
    D.Gives expected I R (p.attempt >>= next) := by
  intro t s hs
  refine safe_attempt_seq (safe_stable hI (hp t s hs) hs) fun outcome s₁ h => ?_
  cases outcome with
  | ok value => exact hok value t s₁ h
  | error error => exact herror error h.1 t s₁ h.2

theorem gives_handle {handler : ε → Program Op Res ε α} (hp : D.Gives expected I Q p)
    (hhandler : ∀ error, expected error → D.Gives expected I Q (handler error)) :
    D.Gives expected I Q (p.handle handler) :=
  gives_attempt hI hp (fun _ => gives_ret fun _ h => h.1) hhandler

theorem gives_finalize {finalizer : Program Op Res ε Unit}
    (hp : D.Gives expected I (fun _ _ => True) p)
    (hfinalizer : D.Gives expected I (fun _ _ => True) finalizer) :
    D.Gives expected I (fun _ _ => True) (p.finalize finalizer) :=
  gives_attempt hI hp
    (fun _ => gives_mono (fun _ h => h.2) (fun _ _ h => h)
      (gives_then hI hfinalizer fun _ => gives_ret fun _ _ => trivial))
    fun _ herror => gives_then hI hfinalizer fun _ => gives_raise herror

theorem gives_map {f : α → β} (hp : D.Gives expected I (fun _ _ => True) p) :
    D.Gives expected I (fun _ _ => True) (f <$> p) :=
  gives_then hI hp fun _ => gives_ret fun _ _ => trivial

end Under

end Discipline

end Concurrency
