import SettleAgent.Interaction.Role

/-!
# Sequential runs

A machine answers each call from its state and from an environment value that
stands for everything the machine does not decide itself: clock readings, fresh
identifiers, the replies of remote services.  In a sequential run every program
is carried to its end before the next one starts.  The run keeps a mark for
every call it made, with the state the call was made in, so that a property of
every single step of a run is a property of its marks.

There are two rules.  `Session.run_invariant` is for properties that hold
between programs and may be broken inside one: the invariant speaks about the
state and the view of the running program, and it is kept call by call.
`Session.run_stepwise` is for properties that every single step keeps, and
`Session.run_since` for those among them that only hold from some step on.
-/

namespace SettleAgent
namespace Interaction

variable {Tag Call : Type} {Resp : Call → Type} {Env S V α : Type}

/-- One atomic step of a run: who made it, the state before it, the call, and
the environment value the machine answered it with. -/
structure Mark (Tag Call Env S : Type) where
  caller : Tag
  before : S
  request : Call
  env : Env

section Machine

variable (exec : (request : Call) → Env → S → Resp request × S)

/-- The reply to the call of a mark. -/
def Mark.reply (mark : Mark Tag Call Env S) : Resp mark.request :=
  (exec mark.request mark.env mark.before).1

/-- The state after the step of a mark. -/
def Mark.after (mark : Mark Tag Call Env S) : S :=
  (exec mark.request mark.env mark.before).2

variable (keeps : S → Prop)

namespace Prog

/-- Carry a program to its end.  The environment values are taken from a
stream, one for every call. -/
def complete (caller : Tag) :
    Prog Call Resp α → (Nat → Env) → S → α × S × List (Mark Tag Call Env S)
  | .ret value, _, state => (value, state, [])
  | .call request next, envs, state =>
      let answer := exec request (envs 0) state
      let rest := (next answer.1).complete caller (fun n => envs (n + 1)) answer.2
      (rest.1, rest.2.1, ⟨caller, state, request, envs 0⟩ :: rest.2.2)

variable (program : Prog Call Resp α)

/-- Carry two programs to their end, one after the other. -/
theorem complete_bind {β : Type} (rest : α → Prog Call Resp β)
    (caller : Tag) (envs : Nat → Env) (state : S) :
    (program >>= rest).complete exec caller envs state =
      let first := program.complete exec caller envs state
      let second := (rest first.1).complete exec caller
        (fun n => envs (n + first.2.2.length)) first.2.1
      (second.1, second.2.1, first.2.2 ++ second.2.2) := by
  induction program generalizing envs state with
  | ret value => rfl
  | call request next inductionHypothesis =>
      simp only [call_bind, complete, inductionHypothesis]
      rfl

/-- A program that obeys its role, carried to its end, keeps every property of
view and state that permitted calls keep. -/
theorem complete_of_obeys
    {role : Role Call Resp V} {adm : S → Call → Env → Prop}
    {inv : V → S → Prop}
    (fits : ∀ view state request env, inv view state → adm state request env →
      role.fits request (exec request env state).1)
    (step : ∀ view state request env, inv view state → adm state request env →
      role.may view request →
        inv (role.learn view request (exec request env state).1)
          (exec request env state).2)
    {program : Prog Call Resp α} {post : α → V → Prop} {view : V} {state : S}
    (obeys : program.Obeys role post view) (start : inv view state)
    (caller : Tag) (envs : Nat → Env)
    (admissible : ∀ mark ∈ (program.complete exec caller envs state).2.2,
      adm mark.before mark.request mark.env) :
    (∃ last, post (program.complete exec caller envs state).1 last ∧
        inv last (program.complete exec caller envs state).2.1) ∧
      ∀ mark ∈ (program.complete exec caller envs state).2.2,
        mark.caller = caller ∧
          ∃ seen, inv seen mark.before ∧ role.may seen mark.request := by
  induction program generalizing view state envs with
  | ret value => exact ⟨⟨view, obeys, start⟩, by simp [complete]⟩
  | call request next inductionHypothesis =>
      have admissibleHead : adm state request (envs 0) :=
        admissible ⟨caller, state, request, envs 0⟩ (by simp [complete])
      have rest := inductionHypothesis
        (exec request (envs 0) state).1
        (obeys.2 _ (fits view state request (envs 0) start admissibleHead))
        (step view state request (envs 0) start admissibleHead obeys.1)
        (fun n => envs (n + 1))
        (fun mark present => admissible mark (by
          simp only [complete, List.mem_cons]
          exact Or.inr present))
      refine ⟨rest.1, fun mark present => ?_⟩
      simp only [complete, List.mem_cons] at present
      rcases present with equal | later
      · subst equal
        exact ⟨rfl, view, start, obeys.1⟩
      · exact rest.2 mark later

theorem caller_of_mem_complete (caller : Tag) (envs : Nat → Env) (state : S) :
    ∀ mark ∈ (program.complete exec caller envs state).2.2,
      mark.caller = caller := by
  induction program generalizing envs state with
  | ret value => simp [complete]
  | call request next inductionHypothesis =>
      intro mark present
      simp only [complete, List.mem_cons] at present
      rcases present with rfl | later
      · rfl
      · exact inductionHypothesis _ _ _ mark later

theorem exists_env_of_mem_complete
    (caller : Tag) (envs : Nat → Env) (state : S) :
    ∀ mark ∈ (program.complete exec caller envs state).2.2,
      ∃ n, mark.env = envs n := by
  induction program generalizing envs state with
  | ret value => simp [complete]
  | call request next inductionHypothesis =>
      intro mark present
      simp only [complete, List.mem_cons] at present
      rcases present with rfl | later
      · exact ⟨0, rfl⟩
      · obtain ⟨n, same⟩ := inductionHypothesis _ _ _ mark later
        exact ⟨n + 1, same⟩

/-- A state property that every step keeps holds at the end of a program and
before each of its steps. -/
theorem complete_stepwise (program : Prog Call Resp α) (caller : Tag)
    (envs : Nat → Env) (state : S) (start : keeps state)
    (step : ∀ mark ∈ (program.complete exec caller envs state).2.2,
      keeps mark.before → keeps (mark.after exec)) :
    keeps (program.complete exec caller envs state).2.1 ∧
      ∀ mark ∈ (program.complete exec caller envs state).2.2,
        keeps mark.before := by
  induction program generalizing envs state with
  | ret value => exact ⟨start, by simp [complete]⟩
  | call request next inductionHypothesis =>
      have head : keeps (exec request (envs 0) state).2 :=
        step ⟨caller, state, request, envs 0⟩ (by simp [complete]) start
      have rest := inductionHypothesis (exec request (envs 0) state).1
        (fun n => envs (n + 1)) (exec request (envs 0) state).2 head
        (fun mark present => step mark (by
          simp only [complete, List.mem_cons]
          exact Or.inr present))
      refine ⟨rest.1, fun mark present => ?_⟩
      simp only [complete, List.mem_cons] at present
      rcases present with equal | later
      · subst equal
        exact start
      · exact rest.2 mark later

/-- A state property that every step keeps holds at the end of a program if it
held after one of its steps. -/
theorem complete_since (program : Prog Call Resp α) (caller : Tag)
    (envs : Nat → Env) (state : S)
    (step : ∀ mark ∈ (program.complete exec caller envs state).2.2,
      keeps mark.before → keeps (mark.after exec))
    {mark : Mark Tag Call Env S}
    (made : mark ∈ (program.complete exec caller envs state).2.2)
    (holds : keeps (mark.after exec)) :
    keeps (program.complete exec caller envs state).2.1 := by
  induction program generalizing envs state with
  | ret value => simp [complete] at made
  | call request next inductionHypothesis =>
      have later : ∀ mark ∈ ((next (exec request (envs 0) state).1).complete exec
          caller (fun n => envs (n + 1)) (exec request (envs 0) state).2).2.2,
          keeps mark.before → keeps (mark.after exec) :=
        fun mark present => step mark (by
          simp only [complete, List.mem_cons]
          exact Or.inr present)
      simp only [complete, List.mem_cons] at made
      rcases made with rfl | behind
      · exact (complete_stepwise exec keeps _ caller _ _ holds later).1
      · exact inductionHypothesis _ _ _ later behind

end Prog

/-! ## Sequences of programs -/

/-- A program to be run, with a tag that says what it is and with the
environment values its calls will meet. -/
structure Job (Tag Call : Type) (Resp : Call → Type) (Env α : Type) where
  tag : Tag
  program : Prog Call Resp α
  envs : Nat → Env

/-- What a sequential run has produced so far. -/
structure Session (Tag Call Env S α : Type) where
  state : S
  marks : List (Mark Tag Call Env S)
  results : List (Tag × α)

namespace Session

/-- The session in which nothing has run yet. -/
def start (state : S) : Session Tag Call Env S α where
  state := state
  marks := []
  results := []

/-- Carry one more job to its end. -/
def advance
    (session : Session Tag Call Env S α) (job : Job Tag Call Resp Env α) :
    Session Tag Call Env S α :=
  let outcome := job.program.complete exec job.tag job.envs session.state
  { state := outcome.2.1
    marks := session.marks ++ outcome.2.2
    results := session.results ++ [(job.tag, outcome.1)] }

/-- Run a list of jobs one after the other. -/
def run
    (session : Session Tag Call Env S α)
    (jobs : List (Job Tag Call Resp Env α)) :
    Session Tag Call Env S α :=
  jobs.foldl (advance exec) session

variable (session : Session Tag Call Env S α)

@[simp] theorem run_nil :
    session.run exec ([] : List (Job Tag Call Resp Env α)) = session := rfl

@[simp] theorem run_cons
    (job : Job Tag Call Resp Env α) (jobs : List (Job Tag Call Resp Env α)) :
    session.run exec (job :: jobs) = (session.advance exec job).run exec jobs :=
  rfl

theorem run_append (first second : List (Job Tag Call Resp Env α)) :
    session.run exec (first ++ second) =
      (session.run exec first).run exec second := by
  simp [run, List.foldl_append]

variable (jobs : List (Job Tag Call Resp Env α))

theorem marks_run :
    ∃ later, (session.run exec jobs).marks = session.marks ++ later := by
  induction jobs generalizing session with
  | nil => exact ⟨[], by simp⟩
  | cons job jobs inductionHypothesis =>
      obtain ⟨later, equal⟩ := inductionHypothesis (session.advance exec job)
      refine ⟨(job.program.complete exec job.tag
        job.envs session.state).2.2 ++ later, ?_⟩
      rw [run_cons, equal]
      simp [advance]

/-- Every job of the run finds its condition met in the state it starts in. -/
def Meets (cond : Tag → S → Prop) :
    Session Tag Call Env S α → List (Job Tag Call Resp Env α) → Prop
  | _, [] => True
  | session, job :: jobs =>
      cond job.tag session.state ∧ Meets cond (session.advance exec job) jobs

section Rules

variable {role : Tag → Role Call Resp V} {adm : S → Call → Env → Prop}
  {inv : Tag → V → S → Prop} {between : S → Prop} {cond : Tag → S → Prop}
  {post : Tag → α → V → Prop} {first : V}

/-- The invariant rule for sequential runs.  `between` holds whenever no
program is running, and `inv` while one is; at every step of the run the
invariant held for some view in which the step was permitted. -/
theorem run_invariant
    (fits : ∀ tag view state request env, inv tag view state →
      adm state request env → (role tag).fits request (exec request env state).1)
    (step : ∀ tag view state request env, inv tag view state →
      adm state request env → (role tag).may view request →
        inv tag ((role tag).learn view request (exec request env state).1)
          (exec request env state).2)
    (enter : ∀ tag state, between state → cond tag state →
      inv tag first state)
    (leave : ∀ tag value view state, post tag value view →
      inv tag view state → between state)
    (session : Session Tag Call Env S α)
    (jobs : List (Job Tag Call Resp Env α))
    (obeys : ∀ job ∈ jobs,
      job.program.Obeys (role job.tag) (post job.tag) first)
    (start : between session.state)
    (startMarks : ∀ mark ∈ session.marks, ∃ view,
      inv mark.caller view mark.before ∧
        (role mark.caller).may view mark.request)
    (meets : Meets exec cond session jobs)
    (admissible : ∀ mark ∈ (session.run exec jobs).marks,
      adm mark.before mark.request mark.env) :
    between (session.run exec jobs).state ∧
      ∀ mark ∈ (session.run exec jobs).marks, ∃ view,
        inv mark.caller view mark.before ∧
          (role mark.caller).may view mark.request := by
  induction jobs generalizing session with
  | nil => exact ⟨start, startMarks⟩
  | cons job jobs inductionHypothesis =>
      obtain ⟨later, marksEqual⟩ :=
        marks_run exec (session.advance exec job) jobs
      obtain ⟨⟨last, ended, holds⟩, marked⟩ := Prog.complete_of_obeys exec
        (fits job.tag) (step job.tag) (obeys job (by simp))
        (enter job.tag session.state start meets.1) job.tag job.envs
        (fun mark present => admissible mark (by
          rw [run_cons, marksEqual]
          simp [advance, present]))
      refine inductionHypothesis (session.advance exec job)
        (fun other member => obeys other (by simp [member]))
        (leave job.tag _ last _ ended holds) ?_ meets.2 admissible
      intro mark present
      simp only [advance, List.mem_append] at present
      rcases present with earlier | now
      · exact startMarks mark earlier
      · obtain ⟨caller, view, facts⟩ := marked mark now
        rw [caller]
        exact ⟨view, facts⟩

end Rules

/-- The rule for properties that every single step keeps. -/
theorem run_stepwise (start : keeps session.state)
    (step : ∀ mark ∈ (session.run exec jobs).marks,
      keeps mark.before → keeps (mark.after exec)) :
    keeps (session.run exec jobs).state ∧
      ∀ mark ∈ (session.run exec jobs).marks,
        mark ∈ session.marks ∨ keeps mark.before := by
  induction jobs generalizing session with
  | nil => exact ⟨start, fun mark present => Or.inl present⟩
  | cons job jobs inductionHypothesis =>
      obtain ⟨later, marksEqual⟩ :=
        marks_run exec (session.advance exec job) jobs
      have outcome := Prog.complete_stepwise exec keeps job.program job.tag job.envs
        session.state start (fun mark present => step mark (by
          rw [run_cons, marksEqual]
          simp [advance, present]))
      have rest :=
        inductionHypothesis (session.advance exec job) outcome.1 step
      refine ⟨rest.1, fun mark present => ?_⟩
      rcases rest.2 mark present with earlier | kept
      · simp only [advance, List.mem_append] at earlier
        exact earlier.imp_right (outcome.2 mark)
      · exact Or.inr kept

/-- A state property that every step keeps holds at the end of a run if it held
after one of its steps. -/
theorem run_since
    (step : ∀ mark ∈ (session.run exec jobs).marks,
      keeps mark.before → keeps (mark.after exec))
    {mark : Mark Tag Call Env S}
    (start : mark ∈ session.marks → keeps session.state)
    (made : mark ∈ (session.run exec jobs).marks)
    (holds : keeps (mark.after exec)) :
    keeps (session.run exec jobs).state := by
  induction jobs generalizing session with
  | nil => exact start made
  | cons job jobs inductionHypothesis =>
      obtain ⟨later, marksEqual⟩ :=
        marks_run exec (session.advance exec job) jobs
      have kept : ∀ mark ∈ (job.program.complete exec job.tag job.envs
          session.state).2.2, keeps mark.before → keeps (mark.after exec) :=
        fun mark present => step mark (by
          rw [run_cons, marksEqual]
          simp [advance, present])
      refine inductionHypothesis (session.advance exec job) step ?_ made
      intro present
      simp only [advance, List.mem_append] at present
      rcases present with earlier | now
      · exact (Prog.complete_stepwise exec keeps job.program job.tag job.envs
          session.state (start earlier) kept).1
      · exact Prog.complete_since exec keeps job.program job.tag job.envs
          session.state kept now holds

/-- Every call of a run was made by one of its programs. -/
theorem exists_job_of_mem_marks :
    ∀ mark ∈ (session.run exec jobs).marks,
      mark ∈ session.marks ∨ ∃ job ∈ jobs, mark.caller = job.tag := by
  induction jobs generalizing session with
  | nil => exact fun mark present => Or.inl present
  | cons job jobs inductionHypothesis =>
      intro mark present
      rcases inductionHypothesis (session.advance exec job) mark present with
        earlier | ⟨other, member, equal⟩
      · simp only [advance, List.mem_append] at earlier
        rcases earlier with earlier | made
        · exact Or.inl earlier
        · exact Or.inr ⟨job, by simp,
            Prog.caller_of_mem_complete exec job.program job.tag job.envs
              session.state mark made⟩
      · exact Or.inr ⟨other, by simp [member], equal⟩

/-- A condition that is always met is met by every run. -/
theorem meets_of_forall {cond : Tag → S → Prop}
    (always : ∀ tag state, cond tag state)
    (session : Session Tag Call Env S α)
    (jobs : List (Job Tag Call Resp Env α)) :
    Meets exec cond session jobs := by
  induction jobs generalizing session with
  | nil => trivial
  | cons job jobs inductionHypothesis =>
      exact ⟨always _ _, inductionHypothesis _⟩

section Agreed

variable {role : Tag → Role Call Resp V} {adm : S → Call → Env → Prop}
  {first : V}
  (fits : ∀ tag state request env, adm state request env →
    (role tag).fits request (exec request env state).1)
  (state : S)
  (obeys : ∀ job ∈ jobs,
    job.program.Obeys (role job.tag) (fun _ _ => True) first)
  (admissible : ∀ mark ∈ ((start state).run exec jobs).marks,
    adm mark.before mark.request mark.env)

include fits obeys admissible

/-- Every call of a run is made in a view in which it is permitted, and with
which the state agrees as far as permitted calls keep it that way. -/
theorem run_agreed {inv : Tag → V → S → Prop}
    (step : ∀ tag view state request env, inv tag view state →
      adm state request env → (role tag).may view request →
        inv tag ((role tag).learn view request (exec request env state).1)
          (exec request env state).2)
    (enter : ∀ tag state, inv tag first state) :
    ∀ mark ∈ ((start state).run exec jobs).marks, ∃ view,
      inv mark.caller view mark.before ∧
        (role mark.caller).may view mark.request := by
  let post : Tag → α → V → Prop := fun _ _ _ => True
  have ends : ∀ job ∈ jobs,
      job.program.Obeys (role job.tag) (post job.tag) first := obeys
  exact (run_invariant exec
    (fun tag _ state request env _ => fits tag state request env) step
    (fun tag state (_ : True) (_ : True) => enter tag state)
    (fun _ _ _ _ _ _ => trivial) (start state) jobs ends trivial
    (by simp [start]) (meets_of_forall exec (fun _ _ => trivial) _ _)
    admissible).2

/-- Every call of a run is one that its program may make in some view. -/
theorem run_permitted :
    ∀ mark ∈ ((start state).run exec jobs).marks, ∃ view,
      (role mark.caller).may view mark.request := by
  intro mark made
  let inv : Tag → V → S → Prop := fun _ _ _ => True
  obtain ⟨view, _, may⟩ := @run_agreed _ _ _ _ _ _ _ exec jobs role adm first
    fits state obeys admissible inv (fun _ _ _ _ _ _ _ _ => trivial)
    (fun _ _ => trivial) mark made
  exact ⟨view, may⟩

end Agreed

/-- A condition is met by a run if every program finds it met in the state
that the programs before it leave. -/
theorem meets_of_split {cond : Tag → S → Prop}
    (met : ∀ earlier job later, jobs = earlier ++ job :: later →
      cond job.tag (session.run exec earlier).state) :
    Meets exec cond session jobs := by
  induction jobs generalizing session with
  | nil => trivial
  | cons job jobs inductionHypothesis =>
      refine ⟨met [] job jobs rfl, inductionHypothesis _ ?_⟩
      rintro earlier other later rfl
      exact met (job :: earlier) other later rfl

end Session
end Machine
end Interaction
end SettleAgent
