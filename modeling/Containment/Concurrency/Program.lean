/-
# Programs over atomic operations

A method of a lock-protected service is not one transition: it is a sequence of
critical sections, with other threads free to run between any two of them. A
`Program` records exactly that structure. Each node performs one atomic
operation and continues with its result, and a leaf either returns or raises.

Exceptions are leaves rather than results, so the `do` blocks below read like
the methods they model. `attempt` is the single primitive that turns an
exception back into a value; handlers and finalizers are defined from it.
-/

import Mathlib.Logic.Basic

namespace Concurrency

/-- One thread's remaining code: perform an operation and continue with its
result, or stop by returning or raising. -/
inductive Program (Op : Type) (Res : Op → Type) (ε α : Type) : Type
  | ret (value : α)
  | raise (error : ε)
  | act (op : Op) (next : Res op → Program Op Res ε α)

namespace Program

variable {Op : Type} {Res : Op → Type} {ε α β γ : Type}

/-- Sequencing: an exception in the first program skips the second. -/
def bind : Program Op Res ε α → (α → Program Op Res ε β) → Program Op Res ε β
  | .ret value, next => next value
  | .raise error, _ => .raise error
  | .act op rest, next => .act op fun result => (rest result).bind next

instance : Monad (Program Op Res ε) where
  pure := .ret
  bind := bind

@[simp]
theorem pure_eq (value : α) : (pure value : Program Op Res ε α) = .ret value := rfl

@[simp]
theorem ret_bind (value : α) (next : α → Program Op Res ε β) :
    (Program.ret value >>= next) = next value := rfl

@[simp]
theorem raise_bind (error : ε) (next : α → Program Op Res ε β) :
    ((Program.raise error : Program Op Res ε α) >>= next) = .raise error := rfl

@[simp]
theorem act_bind (op : Op) (rest : Res op → Program Op Res ε α)
    (next : α → Program Op Res ε β) :
    (Program.act op rest >>= next) = .act op fun result => rest result >>= next := rfl

/-- Perform one operation and return its result. -/
def perform (op : Op) : Program Op Res ε (Res op) := .act op .ret

/-- Continue with a computed value, or raise the exception it stands for. -/
def ofExcept : Except ε α → Program Op Res ε α
  | .ok value => .ret value
  | .error error => .raise error

@[simp]
theorem ofExcept_ok (value : α) :
    (ofExcept (.ok value) : Program Op Res ε α) = .ret value := rfl

@[simp]
theorem ofExcept_error (error : ε) :
    (ofExcept (.error error) : Program Op Res ε α) = .raise error := rfl

/-- Run a program to its end and hand its outcome on as a value. -/
def attempt : Program Op Res ε α → Program Op Res ε (Except ε α)
  | .ret value => .ret (.ok value)
  | .raise error => .ret (.error error)
  | .act op rest => .act op fun result => (rest result).attempt

/-- Replace an exception by the handler's outcome. -/
def handle (body : Program Op Res ε α) (handler : ε → Program Op Res ε α) :
    Program Op Res ε α :=
  body.attempt >>= fun outcome =>
    match outcome with
    | .ok value => .ret value
    | .error error => handler error

/-- Run a finalizer whichever way the body ended. An exception of the finalizer
replaces the body's outcome. -/
def finalize (body : Program Op Res ε α) (finalizer : Program Op Res ε Unit) :
    Program Op Res ε α :=
  body.attempt >>= fun outcome => finalizer >>= fun _ => ofExcept outcome

end Program

end Concurrency
