import SettleAgent.Interaction.Session

/-!
# Pre- and postconditions of one program

For a program that runs alone, `Prog.Ensures` is its weakest precondition: from
the given state, whatever admissible values the environment supplies, every
call is made in a state in which it meets the step condition, and the
postcondition holds at the end.  `Prog.Yields` has no step condition, and what
is admissible depends on the state that the call is made in.  `Prog.Shows` lists
the calls of one kind that a program makes on every path, in their order, and
`Prog.Observes` relates the end of a run to the calls and replies on its path.
-/

namespace SettleAgent
namespace Interaction

variable {Tag Call : Type} {Resp : Call → Type} {Env S α β γ : Type}

namespace Prog

variable {program : Prog Call Resp α} {state : S} {rest : α → Prog Call Resp β}

section Machine

variable (exec : (request : Call) → Env → S → Resp request × S)
  (good : Env → Prop) (step : S → Call → Env → Prop)

/-- From this state on, every call meets the step condition and the
postcondition holds at the end. -/
def Ensures : Prog Call Resp α → (α → S → Prop) → S → Prop
  | .ret value, post, state => post value state
  | .call request next, post, state =>
      ∀ env, good env → step state request env ∧
        (next (exec request env state).1).Ensures post
          (exec request env state).2

@[simp] theorem ensures_call
    (request : Call) (next : Resp request → Prog Call Resp α)
    (post : α → S → Prop) (state : S) :
    (call request next).Ensures exec good step post state ↔
      ∀ env, good env → step state request env ∧
        (next (exec request env state).1).Ensures exec good step post
          (exec request env state).2 := Iff.rfl

theorem ensures_bind (program : Prog Call Resp α) (rest : α → Prog Call Resp β)
    (post : β → S → Prop) (state : S) :
    (program >>= rest).Ensures exec good step post state ↔
      program.Ensures exec good step
        (fun value after => (rest value).Ensures exec good step post after)
        state := by
  induction program generalizing state with
  | ret value => rfl
  | call request next inductionHypothesis =>
      simp only [call_bind, ensures_call, inductionHypothesis]

variable {exec good step}

theorem Ensures.mono {post weaker : α → S → Prop}
    (holds : program.Ensures exec good step post state)
    (implies : ∀ value after, post value after → weaker value after) :
    program.Ensures exec good step weaker state := by
  induction program generalizing state with
  | ret value => exact implies value state holds
  | call request next inductionHypothesis =>
      intro env admitted
      obtain ⟨met, rest⟩ := holds env admitted
      exact ⟨met, inductionHypothesis _ rest⟩

theorem Ensures.mono_step {post : α → S → Prop} {weaker : S → Call → Env → Prop}
    (holds : program.Ensures exec good step post state)
    (implies : ∀ state request env, step state request env →
      weaker state request env) :
    program.Ensures exec good weaker post state := by
  induction program generalizing state with
  | ret value => exact holds
  | call request next inductionHypothesis =>
      intro env admitted
      obtain ⟨met, rest⟩ := holds env admitted
      exact ⟨implies _ _ _ met, inductionHypothesis _ rest⟩

/-- Compose a verified program with what follows it. -/
theorem Ensures.bind {middle : α → S → Prop} {post : β → S → Prop}
    (first : program.Ensures exec good step middle state)
    (second : ∀ value after, middle value after →
      (rest value).Ensures exec good step post after) :
    (program >>= rest).Ensures exec good step post state :=
  (ensures_bind exec good step program rest post state).mpr
    (first.mono second)

/-- What a program ensures holds when it is carried to its end. -/
theorem Ensures.complete {post : α → S → Prop}
    (holds : program.Ensures exec good step post state)
    (caller : Tag) (envs : Nat → Env) (admitted : ∀ n, good (envs n)) :
    post (program.complete exec caller envs state).1
        (program.complete exec caller envs state).2.1 ∧
      ∀ mark ∈ (program.complete exec caller envs state).2.2,
        step mark.before mark.request mark.env := by
  induction program generalizing envs state with
  | ret value => exact ⟨holds, by simp [Prog.complete]⟩
  | call request next inductionHypothesis =>
      obtain ⟨met, following⟩ := holds (envs 0) (admitted 0)
      have rest := inductionHypothesis _ following (fun n => envs (n + 1))
        fun n => admitted (n + 1)
      refine ⟨rest.1, ?_⟩
      intro mark present
      rcases List.mem_cons.mp present with rfl | later
      · exact met
      · exact rest.2 mark later

/-- A program all of whose calls are allowed ensures what allowed calls
keep. -/
theorem AllCalls.ensures {allowed : Call → Prop} {keeps : S → Prop}
    (all : program.AllCalls allowed)
    (kept : ∀ state request env, keeps state → allowed request →
      step state request env ∧ keeps (exec request env state).2)
    (start : keeps state) :
    program.Ensures exec good step (fun _ after => keeps after) state := by
  induction program generalizing state with
  | ret value => exact start
  | call request next inductionHypothesis =>
      intro env _
      obtain ⟨met, after⟩ := kept state request env start all.1
      exact ⟨met, inductionHypothesis _ (all.2 _) after⟩

end Machine

/-! ## Values that are admissible in the state they meet -/

section State

variable (exec : (request : Call) → Env → S → Resp request × S)
  (adm : S → Env → Prop)

/-- From this state on, the postcondition holds at the end. -/
def Yields : Prog Call Resp α → (α → S → Prop) → S → Prop
  | .ret value, post, state => post value state
  | .call request next, post, state =>
      ∀ env, adm state env →
        (next (exec request env state).1).Yields post
          (exec request env state).2

theorem yields_bind (program : Prog Call Resp α) (rest : α → Prog Call Resp β)
    (post : β → S → Prop) (state : S) :
    (program >>= rest).Yields exec adm post state ↔
      program.Yields exec adm
        (fun value after => (rest value).Yields exec adm post after) state := by
  induction program generalizing state with
  | ret value => rfl
  | call request next inductionHypothesis =>
      simp only [call_bind, Yields, inductionHypothesis]

variable {exec adm}

theorem Yields.mono {post weaker : α → S → Prop}
    (holds : program.Yields exec adm post state)
    (implies : ∀ value after, post value after → weaker value after) :
    program.Yields exec adm weaker state := by
  induction program generalizing state with
  | ret value => exact implies value state holds
  | call request next inductionHypothesis =>
      exact fun env admitted => inductionHypothesis _ (holds env admitted)

/-- Compose a verified program with what follows it. -/
theorem Yields.bind {middle : α → S → Prop} {post : β → S → Prop}
    (first : program.Yields exec adm middle state)
    (second : ∀ value after, middle value after →
      (rest value).Yields exec adm post after) :
    (program >>= rest).Yields exec adm post state :=
  (yields_bind exec adm program rest post state).mpr (first.mono second)

/-- What a program yields holds when it is carried to its end. -/
theorem Yields.complete {post : α → S → Prop}
    (holds : program.Yields exec adm post state)
    (caller : Tag) (envs : Nat → Env)
    (admitted : ∀ mark ∈ (program.complete exec caller envs state).2.2,
      adm mark.before mark.env) :
    post (program.complete exec caller envs state).1
      (program.complete exec caller envs state).2.1 := by
  induction program generalizing envs state with
  | ret value => exact holds
  | call request next inductionHypothesis =>
      have head : adm state (envs 0) :=
        admitted ⟨caller, state, request, envs 0⟩ (by simp [Prog.complete])
      exact inductionHypothesis _ (holds (envs 0) head) (fun n => envs (n + 1))
        fun mark present => admitted mark (List.mem_cons_of_mem _ present)

/-- A program that obeys its role yields every property of view and state that
permitted calls keep. -/
theorem Obeys.yields {V : Type} {role : Role Call Resp V} {inv : V → S → Prop}
    (fits : ∀ view state request env, inv view state → adm state env →
      role.fits request (exec request env state).1)
    (kept : ∀ view state request env, inv view state → adm state env →
      role.may view request →
        inv (role.learn view request (exec request env state).1)
          (exec request env state).2)
    {post : α → V → Prop} {view : V}
    (obeys : program.Obeys role post view) (start : inv view state) :
    program.Yields exec adm
      (fun value after => ∃ last, post value last ∧ inv last after) state := by
  induction program generalizing view state with
  | ret value => exact ⟨view, obeys, start⟩
  | call request next inductionHypothesis =>
      intro env admitted
      exact inductionHypothesis _
        (obeys.2 _ (fits view state request env start admitted))
        (kept view state request env start admitted obeys.1)

/-- A program all of whose calls are allowed yields what allowed calls
keep. -/
theorem AllCalls.yields {allowed : Call → Prop} {keeps : S → Prop}
    (all : program.AllCalls allowed)
    (kept : ∀ state request env, keeps state → allowed request →
      keeps (exec request env state).2)
    (start : keeps state) :
    program.Yields exec adm (fun _ after => keeps after) state := by
  induction program generalizing state with
  | ret value => exact start
  | call request next inductionHypothesis =>
      intro env _
      exact inductionHypothesis _ (all.2 _) (kept state request env start all.1)

end State

/-! ## Calls of one kind -/

/-- On every path the program makes these calls of one kind, in this order. -/
def Shows (kind : Call → Option γ) : Prog Call Resp α → List γ → Prop
  | .ret _, shown => shown = []
  | .call request next, shown =>
      ∃ rest, shown = (kind request).toList ++ rest ∧
        ∀ reply, (next reply).Shows kind rest

variable {kind : Call → Option γ}

theorem shows_call
    {request : Call} {next : Resp request → Prog Call Resp α} {rest : List γ}
    (following : ∀ reply, (next reply).Shows kind rest) :
    (call request next).Shows kind ((kind request).toList ++ rest) :=
  ⟨rest, rfl, following⟩

/-- A call of another kind is not seen. -/
theorem shows_call_of_none
    {request : Call} {next : Resp request → Prog Call Resp α} {rest : List γ}
    (other : kind request = none)
    (following : ∀ reply, (next reply).Shows kind rest) :
    (call request next).Shows kind rest :=
  ⟨rest, by simp [other], following⟩

theorem Shows.bind {first second : List γ} (shows : program.Shows kind first)
    (following : ∀ value, (rest value).Shows kind second) :
    (program >>= rest).Shows kind (first ++ second) := by
  induction program generalizing first with
  | ret value =>
      rw [show first = [] from shows]
      exact following value
  | call request next inductionHypothesis =>
      obtain ⟨later, rfl, nexts⟩ := shows
      refine ⟨later ++ second, by simp, ?_⟩
      intro reply
      exact inductionHypothesis reply (nexts reply)

/-- The calls of this kind that a run makes. -/
theorem Shows.complete {exec : (request : Call) → Env → S → Resp request × S}
    {shown : List γ}
    (shows : program.Shows kind shown)
    (caller : Tag) (envs : Nat → Env) (state : S) :
    (program.complete exec caller envs state).2.2.filterMap
      (fun mark => kind mark.request) = shown := by
  induction program generalizing envs state shown with
  | ret value => exact shows.symm
  | call request next inductionHypothesis =>
      obtain ⟨rest, rfl, nexts⟩ := shows
      have later := inductionHypothesis (exec request (envs 0) state).1
        (nexts _) (fun n => envs (n + 1)) (exec request (envs 0) state).2
      simp only [Prog.complete, List.filterMap_cons, later]
      cases kind request <;> rfl

section Observes

variable (exec : (request : Call) → Env → S → Resp request × S)
  (see : (request : Call) → Resp request → Option γ)

/-- From this state on, whatever values the environment supplies, the
postcondition holds of the returned value, the last state and what is seen of
the calls and their replies, in order. -/
def Observes : Prog Call Resp α → (α → S → List γ → Prop) → S → Prop
  | .ret value, post, state => post value state []
  | .call request next, post, state =>
      ∀ env, (next (exec request env state).1).Observes
        (fun value after seen => post value after
          ((see request (exec request env state).1).toList ++ seen))
        (exec request env state).2

variable {exec see}

theorem Observes.mono {post weaker : α → S → List γ → Prop}
    (holds : program.Observes exec see post state)
    (implies : ∀ value after seen, post value after seen →
      weaker value after seen) :
    program.Observes exec see weaker state := by
  induction program generalizing state post weaker with
  | ret value => exact implies value state [] holds
  | call request next inductionHypothesis =>
      intro env
      exact inductionHypothesis _ (holds env) fun value after seen =>
        implies value after _

theorem Observes.bind
    {middle : α → S → List γ → Prop} {post : β → S → List γ → Prop}
    (first : program.Observes exec see middle state)
    (second : ∀ value after seen, middle value after seen →
      (rest value).Observes exec see
        (fun final last more => post final last (seen ++ more)) after) :
    (program >>= rest).Observes exec see post state := by
  induction program generalizing state middle post with
  | ret value => exact second value state [] first
  | call request next inductionHypothesis =>
      intro env
      refine inductionHypothesis _ (first env) ?_
      intro value after seen holds
      refine (second value after _ holds).mono ?_
      intro final last more held
      rw [← List.append_assoc]
      exact held

/-- What a program is known to show when it is carried to its end. -/
theorem Observes.complete {post : α → S → List γ → Prop}
    (holds : program.Observes exec see post state)
    (caller : Tag) (envs : Nat → Env) :
    post (program.complete exec caller envs state).1
      (program.complete exec caller envs state).2.1
      ((program.complete exec caller envs state).2.2.filterMap fun mark =>
        see mark.request (mark.reply exec)) := by
  induction program generalizing envs state post with
  | ret value => exact holds
  | call request next inductionHypothesis =>
      have rest := inductionHypothesis _ (holds (envs 0)) fun n => envs (n + 1)
      simp only [Prog.complete, List.filterMap_cons, Mark.reply]
      cases seen : see request (exec request (envs 0) state).1 with
      | none => simpa [seen, Mark.reply] using rest
      | some observation => simpa [seen, Mark.reply] using rest

end Observes

end Prog
end Interaction
end SettleAgent
