import Mathlib.Logic.Function.Basic

/-!
# Programs that proceed by atomic calls

A `Prog` is a finite tree of calls to a shared machine.  Every call is one
atomic step: the machine answers it with a reply and moves to a new state, and
the program continues with the reply.  Everything a program does between two
calls is local computation, so a tree of calls records exactly the points at
which another program may be scheduled.

The type of replies depends on the call.  Programs form a monad, and they are
written with `do` notation over the wrappers `Prog.perform`.
-/

namespace SettleAgent
namespace Interaction

/-- A program over the calls `Call` that returns a value of type `α`. -/
inductive Prog (Call : Type) (Resp : Call → Type) (α : Type) : Type
  | ret (value : α)
  | call (request : Call) (next : Resp request → Prog Call Resp α)

namespace Prog

variable {Call : Type} {Resp : Call → Type} {α β : Type}

/-- Continue with `rest` once the first program has returned. -/
def bind : Prog Call Resp α → (α → Prog Call Resp β) → Prog Call Resp β
  | .ret value, rest => rest value
  | .call request next, rest =>
      .call request fun reply => (next reply).bind rest

instance : Monad (Prog Call Resp) where
  pure := .ret
  bind := Prog.bind

/-- The call that the program makes next. -/
def request? : Prog Call Resp α → Option Call
  | .ret _ => none
  | .call request _ => some request

variable {program : Prog Call Resp α}

theorem request?_eq_some {request : Call} :
    program.request? = some request ↔
      ∃ following, program = .call request following := by
  cases program with
  | ret value => simp [request?]
  | call other following =>
      simp only [request?, Option.some.injEq, call.injEq]
      constructor
      · rintro rfl
        exact ⟨following, rfl, HEq.rfl⟩
      · rintro ⟨_, equal, _⟩
        exact equal

/-- The value that the program returns, if it is about to return. -/
def result? : Prog Call Resp α → Option α
  | .ret value => some value
  | .call _ _ => none

theorem result?_eq_some {value : α} :
    program.result? = some value ↔ program = .ret value := by
  cases program with
  | ret other => simp [result?]
  | call request following => simp [result?]

/-- The program that makes one call and returns its reply. -/
def perform (request : Call) : Prog Call Resp (Resp request) :=
  .call request .ret

@[simp] theorem pure_eq (value : α) :
    (pure value : Prog Call Resp α) = .ret value := rfl

@[simp] theorem ret_bind (value : α) (rest : α → Prog Call Resp β) :
    (Prog.ret value >>= rest) = rest value := rfl

@[simp] theorem call_bind (request : Call)
    (next : Resp request → Prog Call Resp α)
    (rest : α → Prog Call Resp β) :
    (Prog.call request next >>= rest) =
      .call request fun reply => next reply >>= rest := rfl

@[simp] theorem perform_bind (request : Call)
    (rest : Resp request → Prog Call Resp β) :
    (perform request >>= rest) = .call request rest := rfl

/-- Every call that the program can ever make, whatever the replies, satisfies
the predicate. -/
def AllCalls (allowed : Call → Prop) : Prog Call Resp α → Prop
  | .ret _ => True
  | .call request next =>
      allowed request ∧ ∀ reply, (next reply).AllCalls allowed

@[simp] theorem allCalls_ret (allowed : Call → Prop) (value : α) :
    (ret value : Prog Call Resp α).AllCalls allowed := trivial

@[simp] theorem allCalls_call (allowed : Call → Prop) (request : Call)
    (next : Resp request → Prog Call Resp α) :
    (call request next).AllCalls allowed ↔
      allowed request ∧ ∀ reply, (next reply).AllCalls allowed := Iff.rfl

theorem AllCalls.call {allowed : Call → Prop} {request : Call}
    {next : Resp request → Prog Call Resp α} (permitted : allowed request)
    (following : ∀ reply, (next reply).AllCalls allowed) :
    (Prog.call request next).AllCalls allowed :=
  ⟨permitted, following⟩

theorem AllCalls.bind {allowed : Call → Prop} {rest : α → Prog Call Resp β}
    (first : program.AllCalls allowed)
    (second : ∀ value, (rest value).AllCalls allowed) :
    (program >>= rest).AllCalls allowed := by
  induction program with
  | ret value => exact second value
  | call request next inductionHypothesis =>
      exact ⟨first.1, fun reply => inductionHypothesis reply (first.2 reply)⟩

theorem AllCalls.mono {allowed permitted : Call → Prop}
    (weaker : ∀ request, allowed request → permitted request)
    (all : program.AllCalls allowed) :
    program.AllCalls permitted := by
  induction program with
  | ret value => trivial
  | call request next inductionHypothesis =>
      exact ⟨weaker request all.1,
        fun reply => inductionHypothesis reply (all.2 reply)⟩

section Evaluate

variable {S : Type} (answer : (request : Call) → S → Resp request × S)

/-- Carry a program to its end on a machine that answers from its state
alone. -/
def evaluate : Prog Call Resp α → S → α × S
  | .ret value, state => (value, state)
  | .call request next, state =>
      (next (answer request state).1).evaluate (answer request state).2

@[simp] theorem evaluate_ret (value : α) (state : S) :
    (ret value : Prog Call Resp α).evaluate answer state = (value, state) :=
  rfl

@[simp] theorem evaluate_call
    (request : Call) (next : Resp request → Prog Call Resp α) (state : S) :
    (call request next).evaluate answer state =
      (next (answer request state).1).evaluate answer
        (answer request state).2 := rfl

theorem evaluate_bind
    (program : Prog Call Resp α) (rest : α → Prog Call Resp β) (state : S) :
    (program >>= rest).evaluate answer state =
      (rest (program.evaluate answer state).1).evaluate answer
        (program.evaluate answer state).2 := by
  induction program generalizing state with
  | ret value => rfl
  | call request next inductionHypothesis =>
      exact inductionHypothesis (answer request state).1 (answer request state).2

end Evaluate

end Prog
end Interaction
end SettleAgent
