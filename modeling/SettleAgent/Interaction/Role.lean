import SettleAgent.Interaction.Prog

/-!
# Roles

A program decides its next call from the replies it has received so far.  A
`Role` says which calls it may make: `learn` folds every call and its reply
into a view, the part of the past that matters, and `may` is the condition on
the next call.  Nothing here mentions the state of the machine, so whether a
program obeys its role does not depend on what other programs do meanwhile.
Invariants of the machine are proved from the roles alone, call by call, and no
program has to be looked at again.

The replies themselves are arbitrary, up to what every reply to a call is known
to satisfy, which is `fits`.
-/

namespace SettleAgent
namespace Interaction

variable {Call : Type} {Resp : Call → Type} {V α β : Type}

/-- What a program may do next, by what it has seen. -/
structure Role (Call : Type) (Resp : Call → Type) (V : Type) where
  learn : V → (request : Call) → Resp request → V
  may : V → Call → Prop
  fits : (request : Call) → Resp request → Prop

/-- The role that sees the same and permits everything. -/
def Role.watching (role : Role Call Resp V) : Role Call Resp V :=
  { role with may := fun _ _ => True }

namespace Prog

variable (role : Role Call Resp V)

/-- From the given view on, every call the program makes is one its role
permits, and the postcondition holds of the value it returns and of the view
it has then. -/
def Obeys : Prog Call Resp α → (α → V → Prop) → V → Prop
  | .ret value, post, view => post value view
  | .call request next, post, view =>
      role.may view request ∧ ∀ reply, role.fits request reply →
        (next reply).Obeys post (role.learn view request reply)

@[simp] theorem obeys_ret (value : α) (post : α → V → Prop) (view : V) :
    (ret value : Prog Call Resp α).Obeys role post view ↔ post value view :=
  Iff.rfl

@[simp] theorem obeys_call
    (request : Call) (next : Resp request → Prog Call Resp α)
    (post : α → V → Prop) (view : V) :
    (call request next).Obeys role post view ↔
      role.may view request ∧ ∀ reply, role.fits request reply →
        (next reply).Obeys role post (role.learn view request reply) :=
  Iff.rfl

theorem obeys_bind (program : Prog Call Resp α) (rest : α → Prog Call Resp β)
    (post : β → V → Prop) (view : V) :
    (program >>= rest).Obeys role post view ↔
      program.Obeys role (fun value after => (rest value).Obeys role post after)
        view := by
  induction program generalizing view with
  | ret value => rfl
  | call request next inductionHypothesis =>
      simp only [call_bind, obeys_call, inductionHypothesis]

variable {program : Prog Call Resp α}

theorem Obeys.mono {role : Role Call Resp V}
    {post weaker : α → V → Prop} {view : V}
    (holds : program.Obeys role post view)
    (implies : ∀ value after, post value after → weaker value after) :
    program.Obeys role weaker view := by
  induction program generalizing view with
  | ret value => exact implies value view holds
  | call request next inductionHypothesis =>
      exact ⟨holds.1, fun reply fitting =>
        inductionHypothesis reply (holds.2 reply fitting)⟩

/-- Compose a verified program with what follows it. -/
theorem Obeys.bind {role : Role Call Resp V} {rest : α → Prog Call Resp β}
    {middle : α → V → Prop} {post : β → V → Prop} {view : V}
    (first : program.Obeys role middle view)
    (second : ∀ value after, middle value after →
      (rest value).Obeys role post after) :
    (program >>= rest).Obeys role post view :=
  (obeys_bind role program rest post view).mpr (first.mono second)

/-- What a program ends with holds of its end beside what its role promises,
however it was shown. -/
theorem Obeys.and {role : Role Call Resp V}
    {post more : α → V → Prop} {view : V}
    (obeys : program.Obeys role post view)
    (ends : program.Obeys role.watching more view) :
    program.Obeys role (fun value after => post value after ∧ more value after)
      view := by
  induction program generalizing view with
  | ret value => exact ⟨obeys, ends⟩
  | call request next inductionHypothesis =>
      exact ⟨obeys.1, fun reply fitting =>
        inductionHypothesis reply (obeys.2 reply fitting)
          (ends.2 reply fitting)⟩

/-- What a program promises holds where it ends on a machine that answers from
its state, beside what every answer of the machine keeps. -/
theorem Obeys.evaluate {role : Role Call Resp V} {S : Type}
    {answer : (request : Call) → S → Resp request × S}
    {post : α → V → Prop}
    {keeps : S → Prop} {view : V} {state : S}
    (obeys : program.Obeys role post view)
    (fits : ∀ request state, role.fits request (answer request state).1)
    (kept : ∀ request state, keeps state → keeps (answer request state).2)
    (start : keeps state) :
    (∃ after, post (program.evaluate answer state).1 after) ∧
      keeps (program.evaluate answer state).2 := by
  induction program generalizing view state with
  | ret value => exact ⟨⟨view, obeys⟩, start⟩
  | call request next inductionHypothesis =>
      exact inductionHypothesis _ (obeys.2 _ (fits request state))
        (kept request state start)

/-- Every program obeys a role that permits everything. -/
theorem obeys_of_forall {role : Role Call Resp V}
    (program : Prog Call Resp α) {post : α → V → Prop}
    (permitted : ∀ view request, role.may view request)
    (ends : ∀ value view, post value view) (view : V) :
    program.Obeys role post view := by
  induction program generalizing view with
  | ret value => exact ends value view
  | call request next inductionHypothesis =>
      exact ⟨permitted view request, fun reply _ =>
        inductionHypothesis reply _⟩

/-- A program all of whose calls are allowed obeys its role as long as a
property of views lasts that permits all allowed calls and that they keep. -/
theorem obeys_of_allCalls {role : Role Call Resp V}
    {allowed : Call → Prop} {keeps : V → Prop} {view : V}
    (all : program.AllCalls allowed)
    (permitted : ∀ view request, keeps view → allowed request →
      role.may view request)
    (kept : ∀ view request reply, keeps view → allowed request →
      keeps (role.learn view request reply))
    (start : keeps view) :
    program.Obeys role (fun _ after => keeps after) view := by
  induction program generalizing view with
  | ret value => exact start
  | call request next inductionHypothesis =>
      exact ⟨permitted view request start all.1, fun reply _ =>
        inductionHypothesis reply (all.2 reply)
          (kept view request reply start all.1)⟩

end Prog
end Interaction
end SettleAgent
