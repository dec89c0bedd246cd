import SettleAgent.Interaction.Session
import Mathlib.Logic.Function.Basic

/-!
# Interleaved runs

A pool holds one program for every thread number.  A schedule names, step by
step, the thread that makes its next call and the environment value the call
meets; a thread whose program has returned uses one last step to retire.  The
pool accumulates a history: the shared state, a mark for every call made so
far, and which threads have retired.

The view of a thread is what its role has learned from the thread's own marks.
`Pool.run_invariant` is the rule for interleaved runs: a property of histories
that permitted calls and retirements keep holds after every schedule, and every
call that is about to be made is permitted in the view of its thread.
-/

namespace SettleAgent
namespace Interaction

variable {Call : Type} {Resp : Call → Type} {Env S V α : Type}

/-- Everything the threads of a pool share, and what they have done so far. -/
structure History (Call Env S : Type) where
  state : S
  marks : List (Mark Nat Call Env S)
  retired : Nat → Bool

section Machine

variable (exec : (request : Call) → Env → S → Resp request × S)

namespace History

/-- The history in which nothing has happened yet. -/
def start (state : S) : History Call Env S where
  state := state
  marks := []
  retired := fun _ => false

/-- The history after one more call. -/
def next
    (history : History Call Env S)
    (thread : Nat) (request : Call) (env : Env) : History Call Env S where
  state := (exec request env history.state).2
  marks := history.marks ++ [⟨thread, history.state, request, env⟩]
  retired := history.retired

/-- The history after a thread whose program has returned retires. -/
def retire (history : History Call Env S) (thread : Nat) :
    History Call Env S where
  state := history.state
  marks := history.marks
  retired := Function.update history.retired thread true

/-- What a thread has learned from its own calls. -/
def view (role : Role Call Resp V) (first : V)
    (history : History Call Env S) (thread : Nat) : V :=
  (history.marks.filter fun mark => mark.caller = thread).foldl
    (fun seen mark => role.learn seen mark.request (mark.reply exec)) first

variable {exec} (role : Role Call Resp V) (first : V)

@[simp] theorem view_start (state : S) (thread : Nat) :
    (start state).view exec role first thread = first := rfl

variable (history : History Call Env S)

@[simp] theorem view_retire (other thread : Nat) :
    (history.retire other).view exec role first thread =
      history.view exec role first thread := rfl

@[simp] theorem view_next_self (thread : Nat) (request : Call) (env : Env) :
    (history.next exec thread request env).view exec role first thread =
      role.learn (history.view exec role first thread) request
        (exec request env history.state).1 := by
  simp [view, next, Mark.reply]

theorem view_next_of_ne {other thread : Nat} (request : Call) (env : Env)
    (different : thread ≠ other) :
    (history.next exec other request env).view exec role first thread =
      history.view exec role first thread := by
  simp [view, next, Ne.symm different]

end History

/-- A pool of programs over a shared history. -/
structure Pool (Call : Type) (Resp : Call → Type) (Env S α : Type) where
  history : History Call Env S
  threads : Nat → Prog Call Resp α

namespace Pool

/-- The pool in which no thread has made a call yet. -/
def start (state : S) (threads : Nat → Prog Call Resp α) :
    Pool Call Resp Env S α where
  history := History.start state
  threads := threads

/-- One step of one thread. -/
def step
    (pool : Pool Call Resp Env S α) (thread : Nat) (env : Env) :
    Pool Call Resp Env S α :=
  match pool.threads thread with
  | .ret _ =>
      if pool.history.retired thread then pool
      else { pool with history := pool.history.retire thread }
  | .call request following =>
      { history := pool.history.next exec thread request env
        threads := Function.update pool.threads thread
          (following (exec request env pool.history.state).1) }

/-- Run a schedule. -/
def run (pool : Pool Call Resp Env S α) (schedule : List (Nat × Env)) :
    Pool Call Resp Env S α :=
  schedule.foldl (fun current turn => current.step exec turn.1 turn.2) pool

@[simp] theorem run_nil (pool : Pool Call Resp Env S α) :
    pool.run exec [] = pool := rfl

@[simp] theorem run_cons (pool : Pool Call Resp Env S α)
    (turn : Nat × Env) (schedule : List (Nat × Env)) :
    pool.run exec (turn :: schedule) =
      (pool.step exec turn.1 turn.2).run exec schedule := rfl

theorem run_append
    (pool : Pool Call Resp Env S α) (first second : List (Nat × Env)) :
    pool.run exec (first ++ second) = (pool.run exec first).run exec second := by
  simp [run, List.foldl_append]

/-- A step adds at most its own mark, which records the state before. -/
theorem marks_step (pool : Pool Call Resp Env S α) (thread : Nat) (env : Env) :
    (∀ mark ∈ pool.history.marks,
      mark ∈ (pool.step exec thread env).history.marks) ∧
    ((pool.step exec thread env).history.state = pool.history.state ∨
      ∃ mark ∈ (pool.step exec thread env).history.marks,
        mark.before = pool.history.state) := by
  unfold step
  split
  · split
    · exact ⟨fun _ made => made, Or.inl rfl⟩
    · exact ⟨fun _ made => made, Or.inl rfl⟩
  · rename_i request following calls
    exact ⟨fun _ made => List.mem_append_left _ made,
      Or.inr ⟨⟨thread, pool.history.state, request, env⟩,
        List.mem_append_right _ (List.mem_singleton_self _), rfl⟩⟩

/-- The marks of a run remember the state it started in, unless it is the state
it ends in. -/
theorem marks_run
    (pool : Pool Call Resp Env S α) (schedule : List (Nat × Env)) :
    (∀ mark ∈ pool.history.marks,
      mark ∈ (pool.run exec schedule).history.marks) ∧
    ((pool.run exec schedule).history.state = pool.history.state ∨
      ∃ mark ∈ (pool.run exec schedule).history.marks,
        mark.before = pool.history.state) := by
  induction schedule generalizing pool with
  | nil => exact ⟨fun _ made => made, Or.inl rfl⟩
  | cons turn schedule inductionHypothesis =>
      obtain ⟨kept, same | ⟨mark, made, before⟩⟩ :=
        pool.marks_step exec turn.1 turn.2
      all_goals
        obtain ⟨later, origin⟩ :=
          inductionHypothesis (pool.step exec turn.1 turn.2)
        refine ⟨fun mark made => later mark (kept mark made), ?_⟩
      · rwa [same] at origin
      · exact Or.inr ⟨mark, later mark made, before⟩

/-- Every call of the schedule meets the side condition `adm` on the history it
is made in. -/
def Valid (adm : History Call Env S → Nat → Call → Env → Prop) :
    Pool Call Resp Env S α → List (Nat × Env) → Prop
  | _, [] => True
  | pool, (thread, env) :: schedule =>
      (∀ request following, pool.threads thread = .call request following →
        adm pool.history thread request env) ∧
      Valid adm (pool.step exec thread env) schedule

variable {pool : Pool Call Resp Env S α}

theorem valid_cons {adm : History Call Env S → Nat → Call → Env → Prop}
    {thread : Nat} {env : Env}
    {schedule : List (Nat × Env)} :
    pool.Valid exec adm ((thread, env) :: schedule) ↔
      (∀ request ∈ (pool.threads thread).request?,
        adm pool.history thread request env) ∧
      (pool.step exec thread env).Valid exec adm schedule := by
  simp only [Valid, Option.mem_def, Prog.request?_eq_some]
  exact and_congr_left' ⟨fun met request ⟨following, calls⟩ =>
      met request following calls,
    fun met request following calls => met request ⟨following, calls⟩⟩

/-- A schedule can be checked step by step. -/
instance decidableValid
    {adm : History Call Env S → Nat → Call → Env → Prop}
    [∀ history thread request env,
      Decidable (adm history thread request env)] :
    (pool : Pool Call Resp Env S α) → (schedule : List (Nat × Env)) →
      Decidable (pool.Valid exec adm schedule)
  | _, [] => isTrue trivial
  | pool, (thread, env) :: schedule =>
      have : Decidable ((pool.step exec thread env).Valid exec adm schedule) :=
        decidableValid (pool.step exec thread env) schedule
      decidable_of_iff' _ (valid_cons exec)

theorem step_of_ret {thread : Nat} {value : α}
    (returned : pool.threads thread = .ret value) (env : Env) :
    pool.step exec thread env =
      if pool.history.retired thread then pool
      else { pool with history := pool.history.retire thread } := by
  simp [step, returned]

theorem step_of_call {thread : Nat} {request : Call}
    {following : Resp request → Prog Call Resp α}
    (calls : pool.threads thread = .call request following) (env : Env) :
    pool.step exec thread env =
      { history := pool.history.next exec thread request env
        threads := Function.update pool.threads thread
          (following (exec request env pool.history.state).1) } := by
  simp [step, calls]

section Rule

variable {role : Nat → Role Call Resp V} {first : V}
  {post : Nat → α → V → Prop} {inv : History Call Env S → Prop}
  {adm : History Call Env S → Nat → Call → Env → Prop}

/-- What the rule maintains of a pool: the invariant, and for every thread
that it has retired or goes on obeying its role. -/
def Sound (role : Nat → Role Call Resp V) (first : V)
    (post : Nat → α → V → Prop) (inv : History Call Env S → Prop)
    (pool : Pool Call Resp Env S α) : Prop :=
  inv pool.history ∧
    ∀ thread,
      (pool.history.retired thread = true ∧
        ∃ value, pool.threads thread = .ret value) ∨
      (pool.history.retired thread = false ∧
        (pool.threads thread).Obeys (role thread) (post thread)
          (pool.history.view exec (role thread) first thread))

/-- Every call a sound pool is about to make is permitted, and the thread has
not retired. -/
theorem Sound.permitted (sound : pool.Sound exec role first post inv)
    {thread : Nat} {request : Call}
    {following : Resp request → Prog Call Resp α}
    (calls : pool.threads thread = .call request following) :
    pool.history.retired thread = false ∧
      (role thread).may
        (pool.history.view exec (role thread) first thread) request := by
  rcases sound.2 thread with ⟨_, value, returned⟩ | ⟨active, obeys⟩
  · rw [calls] at returned
    exact absurd returned (by simp)
  · rw [calls] at obeys
    exact ⟨active, obeys.1⟩

variable
  (fits : ∀ history thread request env, inv history →
    adm history thread request env →
      (role thread).fits request (exec request env history.state).1)
  (kept : ∀ history thread request env, inv history →
    history.retired thread = false → adm history thread request env →
      (role thread).may (history.view exec (role thread) first thread)
        request →
      inv (history.next exec thread request env))
  (leave : ∀ history thread value, inv history →
    history.retired thread = false →
      post thread value (history.view exec (role thread) first thread) →
      inv (history.retire thread))

include fits kept leave

theorem Sound.step (sound : pool.Sound exec role first post inv)
    (thread : Nat) (env : Env)
    (admissible : ∀ request following,
      pool.threads thread = .call request following →
        adm pool.history thread request env) :
    (pool.step exec thread env).Sound exec role first post inv := by
  obtain ⟨invariant, obeying⟩ := sound
  cases program : pool.threads thread with
  | ret value =>
      rw [step_of_ret exec program]
      rcases obeying thread with ⟨retired, _⟩ | ⟨active, obeys⟩
      · simp only [retired, if_true]
        exact ⟨invariant, obeying⟩
      · simp only [active, Bool.false_eq_true, if_false]
        rw [program] at obeys
        refine ⟨leave _ _ value invariant active obeys, fun other => ?_⟩
        by_cases same : other = thread
        · subst same
          exact Or.inl ⟨by simp [History.retire], value, program⟩
        · have unchanged :
              (pool.history.retire thread).retired other =
                pool.history.retired other := by
            simp [History.retire, same]
          simpa only [unchanged, History.view_retire] using obeying other
  | call request following =>
      rw [step_of_call exec program]
      obtain ⟨active, permitted⟩ :=
        Sound.permitted exec ⟨invariant, obeying⟩ program
      have allowed := admissible request following program
      refine ⟨kept _ _ _ _ invariant active allowed permitted,
        fun other => ?_⟩
      by_cases same : other = thread
      · subst same
        rcases obeying other with ⟨_, value, returned⟩ | ⟨_, obeys⟩
        · rw [program] at returned
          exact absurd returned (by simp)
        · rw [program] at obeys
          refine Or.inr ⟨active, ?_⟩
          simpa using obeys.2 _ (fits _ _ _ env invariant allowed)
      · simp only [Function.update_of_ne same,
          History.view_next_of_ne _ _ _ _ _ same]
        exact obeying other

/-- The invariant rule for interleaved runs. -/
theorem run_invariant (sound : pool.Sound exec role first post inv)
    (schedule : List (Nat × Env))
    (valid : pool.Valid exec adm schedule) :
    (pool.run exec schedule).Sound exec role first post inv := by
  induction schedule generalizing pool with
  | nil => exact sound
  | cons turn schedule inductionHypothesis =>
      obtain ⟨admissible, validRest⟩ := valid
      exact inductionHypothesis
        (sound.step exec fits kept leave turn.1 turn.2 admissible) validRest

end Rule

section Unconditional

variable {role : Nat → Role Call Resp V} {first : V}
  {post : Nat → α → V → Prop} {inv : History Call Env S → Prop}
  (fits : ∀ history thread request env, inv history →
    (role thread).fits request (exec request env history.state).1)
  (kept : ∀ history thread request env, inv history →
    (role thread).may (history.view exec (role thread) first thread)
      request → inv (history.next exec thread request env))
  (leave : ∀ history thread, inv history → inv (history.retire thread))

include fits kept leave

theorem Sound.step_any (sound : pool.Sound exec role first post inv)
    (thread : Nat) (env : Env) :
    (pool.step exec thread env).Sound exec role first post inv := by
  let always (_ : History Call Env S) (_ : Nat) (_ : Call) (_ : Env) : Prop :=
    True
  exact @Sound.step _ _ _ _ _ _ exec pool role first post inv always
    (fun history thread request env holds _ =>
      fits history thread request env holds)
    (fun history thread request env holds _ _ =>
      kept history thread request env holds)
    (fun history thread _ holds _ _ => leave history thread holds)
    sound thread env fun _ _ _ => trivial

/-- The invariant rule for interleaved runs without a side condition. -/
theorem run_sound (sound : pool.Sound exec role first post inv)
    (schedule : List (Nat × Env)) :
    (pool.run exec schedule).Sound exec role first post inv := by
  induction schedule generalizing pool with
  | nil => exact sound
  | cons turn schedule inductionHypothesis =>
      exact inductionHypothesis
        (sound.step_any exec fits kept leave turn.1 turn.2)

/-- Where a side condition comes to the same as a property of the mark of the
call, a schedule meets it exactly if all its marks have the property. -/
theorem valid_iff_marks {adm : History Call Env S → Nat → Call → Env → Prop}
    {good : Mark Nat Call Env S → Prop}
    (same : ∀ history thread request env, inv history →
      (role thread).may (history.view exec (role thread) first thread)
        request → (adm history thread request env ↔
          good ⟨thread, history.state, request, env⟩))
    (sound : pool.Sound exec role first post inv)
    (past : ∀ mark ∈ pool.history.marks, good mark)
    (schedule : List (Nat × Env)) :
    pool.Valid exec adm schedule ↔
      ∀ mark ∈ (pool.run exec schedule).history.marks, good mark := by
  induction schedule generalizing pool with
  | nil => exact ⟨fun _ => past, fun _ => trivial⟩
  | cons turn schedule inductionHypothesis =>
      obtain ⟨thread, env⟩ := turn
      have following := sound.step_any exec fits kept leave thread env
      cases program : pool.threads thread with
      | ret value =>
          have unmarked : (pool.step exec thread env).history.marks =
              pool.history.marks := by
            rw [step_of_ret exec program]
            split <;> rfl
          rw [run_cons, ← inductionHypothesis following (unmarked ▸ past)]
          refine ⟨And.right, fun valid => ⟨?_, valid⟩⟩
          intro request next calls
          rw [program] at calls
          cases calls
      | call request next =>
          have marked : (pool.step exec thread env).history.marks =
              pool.history.marks ++
                [⟨thread, pool.history.state, request, env⟩] := by
            rw [step_of_call exec program]
            rfl
          have met := same pool.history thread request env sound.1
            (sound.permitted exec program).2
          have head : (∀ other rest, pool.threads thread = .call other rest →
              adm pool.history thread other env) ↔
              good ⟨thread, pool.history.state, request, env⟩ := by
            rw [← met]
            constructor
            · exact fun all => all request next program
            · intro holds other rest calls
              obtain ⟨rfl, _⟩ := Prog.call.inj (program.symm.trans calls)
              exact holds
          rw [Valid, head, run_cons]
          constructor
          · rintro ⟨fine, valid⟩
            refine (inductionHypothesis following ?_).mp valid
            intro mark made
            rw [marked] at made
            rcases List.mem_append.mp made with earlier | now
            · exact past mark earlier
            · obtain rfl := List.mem_singleton.mp now
              exact fine
          · intro all
            have lasting := ((pool.step exec thread env).marks_run exec
              schedule).1
            have present : ∀ mark ∈ (pool.step exec thread env).history.marks,
                good mark := fun mark made => all mark (lasting mark made)
            refine ⟨present _ ?_, (inductionHypothesis following present).mpr
              all⟩
            rw [marked]
            exact List.mem_append_right _ (List.mem_singleton_self _)

end Unconditional

/-- All threads go on obeying roles that every reply fits, whatever the
schedule, and so the postcondition holds of whatever they return. -/
theorem run_obeys
    {role : Nat → Role Call Resp V} {first : V} {post : Nat → α → V → Prop}
    (fits : ∀ thread request reply, (role thread).fits request reply)
    (pool : Pool Call Resp Env S α)
    (obeys : ∀ thread, (pool.threads thread).Obeys (role thread) (post thread)
      (pool.history.view exec (role thread) first thread))
    (schedule : List (Nat × Env)) (thread : Nat) :
    ((pool.run exec schedule).threads thread).Obeys (role thread) (post thread)
      ((pool.run exec schedule).history.view exec (role thread) first
        thread) := by
  induction schedule generalizing pool with
  | nil => exact obeys thread
  | cons turn schedule inductionHypothesis =>
      rw [run_cons]
      apply inductionHypothesis
      intro other
      cases program : pool.threads turn.1 with
      | ret value =>
          rw [step_of_ret exec program]
          split <;> exact obeys other
      | call request following =>
          rw [step_of_call exec program]
          by_cases same : other = turn.1
          · subst same
            have own := obeys turn.1
            rw [program] at own
            simpa using own.2 _ (fits _ _ _)
          · simp only [Function.update_of_ne same,
              History.view_next_of_ne _ _ _ _ _ same]
            exact obeys other

/-- A pool whose threads obey their roles from the first view on is sound at
its start. -/
theorem sound_start {role : Nat → Role Call Resp V} {first : V}
    {post : Nat → α → V → Prop} {inv : History Call Env S → Prop}
    {state : S} {threads : Nat → Prog Call Resp α}
    (start : inv (History.start state))
    (obeys : ∀ thread, (threads thread).Obeys (role thread) (post thread) first) :
    (Pool.start state threads).Sound exec role first post inv :=
  ⟨start, fun thread => Or.inr ⟨rfl, obeys thread⟩⟩

end Pool
end Machine
end Interaction
end SettleAgent
