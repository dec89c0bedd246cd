import SettleAgent.Interaction.Pool
import SettleAgent.Protocol.Effects
import SettleAgent.Protocol.Programs

/-!
# Interleaved runs of the gateway

Every thread runs one operation, and a schedule interleaves their calls.  A
scene is what an invariant of such a run speaks about: the world, what every
thread has learned so far, the calls made so far, and which threads have
retired.
-/

namespace SettleAgent

open Interaction

structure Scene where
  world : World
  views : Nat → View
  marks : List (Mark Nat Call Env World)
  retired : Nat → Bool

namespace Scene

/-- The scene in which nothing has happened yet. -/
def start (world : World) : Scene where
  world := world
  views := fun _ => View.first
  marks := []
  retired := fun _ => false

/-- The scene after a call of a thread. -/
def next (config : Config) (scene : Scene) (thread : Nat) (request : Call)
    (env : Env) : Scene where
  world := (exec config request env scene.world).2
  views := Function.update scene.views thread
    ((scene.views thread).learn request
      (exec config request env scene.world).1)
  marks := scene.marks ++ [⟨thread, scene.world, request, env⟩]
  retired := scene.retired

/-- The scene after a thread has retired. -/
def retire (scene : Scene) (thread : Nat) : Scene :=
  { scene with retired := Function.update scene.retired thread true }

@[simp] theorem views_next_self
    (config : Config) (scene : Scene) (thread : Nat) (request : Call)
    (env : Env) :
    (scene.next config thread request env).views thread =
      (scene.views thread).learn request
        (exec config request env scene.world).1 :=
  Function.update_self _ _ _

theorem views_next_of_ne
    (config : Config) (scene : Scene) {thread other : Nat} (request : Call)
    (env : Env) (different : other ≠ thread) :
    (scene.next config thread request env).views other = scene.views other :=
  Function.update_of_ne different _ _

end Scene

/-- The scene that a history shows, with one operation for each thread. -/
def sceneOf (config : Config) (operations : Nat → Operation)
    (history : History Call Env World) : Scene where
  world := history.state
  views := fun thread =>
    history.view (exec config) (roleOf (operations thread).intent) View.first
      thread
  marks := history.marks
  retired := history.retired

/-- The interleaved run of the operations under a schedule. -/
def interleaved (config : Config) (world : World)
    (operations : Nat → Operation) (schedule : List (Nat × Env)) :
    Pool Call Call.Resp Env World Outcome :=
  (Pool.start world fun thread => (operations thread).program config).run
    (exec config) schedule

/-- The scene at the end of an interleaved run. -/
def lastScene (config : Config) (world : World)
    (operations : Nat → Operation) (schedule : List (Nat × Env)) : Scene :=
  sceneOf config operations
    (interleaved config world operations schedule).history

/-- Every call of the schedule meets a condition on the scene it is made
in. -/
def Scheduled (config : Config) (world : World) (operations : Nat → Operation)
    (cond : Scene → Nat → Call → Env → Prop) (schedule : List (Nat × Env)) :
    Prop :=
  (Pool.start world fun thread => (operations thread).program config).Valid
    (exec config)
    (fun history => cond (sceneOf config operations history)) schedule

/-- Every call of the schedule is answered with fresh identifiers. -/
def FreshSchedule (config : Config) (world : World)
    (operations : Nat → Operation) (schedule : List (Nat × Env)) : Prop :=
  Scheduled config world operations
    (fun scene _ _ env => Admissible scene.world env) schedule

instance (config : Config) (world : World) (operations : Nat → Operation)
    (schedule : List (Nat × Env)) :
    Decidable (FreshSchedule config world operations schedule) :=
  inferInstanceAs (Decidable (Pool.Valid (exec config)
    (fun history _ _ env => Admissible history.state env) _ schedule))

variable {config : Config} {world : World} {operations : Nat → Operation}

theorem sceneOf_next
    (history : History Call Env World) (thread : Nat) (request : Call)
    (env : Env) :
    sceneOf config operations (history.next (exec config) thread request env) =
      (sceneOf config operations history).next config thread request env := by
  have views : (sceneOf config operations
      (history.next (exec config) thread request env)).views =
        Function.update (sceneOf config operations history).views thread
          (((sceneOf config operations history).views thread).learn request
            (exec config request env history.state).1) := by
    funext other
    by_cases same : other = thread
    · subst same
      simp [sceneOf]
    · rw [Function.update_of_ne same]
      exact History.view_next_of_ne _ _ _ _ _ same
  simp only [sceneOf, Scene.next] at views ⊢
  rw [views]
  rfl

/-- What holds of every thread that has learned nothing holds of all threads
as soon as it holds of those that have made a call. -/
theorem forall_thread_iff
    {history : History Call Env World} {holds : Nat → Prop}
    (idle : ∀ thread,
      (sceneOf config operations history).views thread = View.first →
        holds thread) :
    (∀ thread, holds thread) ↔
      ∀ mark ∈ history.marks, holds mark.caller := by
  constructor
  · exact fun all mark _ => all mark.caller
  · intro called thread
    by_cases calls : ∃ mark ∈ history.marks, mark.caller = thread
    · obtain ⟨mark, made, rfl⟩ := calls
      exact called mark made
    · apply idle
      have none : (history.marks.filter fun mark => mark.caller = thread) =
          [] := by
        rw [List.filter_eq_nil_iff]
        intro mark made
        simpa using fun same => calls ⟨mark, made, same⟩
      simp only [sceneOf, History.view, none, List.foldl_nil]

/-- The invariant rule for interleaved runs of the gateway, for properties of
histories. -/
theorem interleaved_sound
    (inv : History Call Env World → Prop)
    {cond : History Call Env World → Nat → Call → Env → Prop}
    (keyed : ∀ history, inv history → history.state.ledger.WellKeyed)
    (step : ∀ history thread request env, inv history →
      history.retired thread = false → cond history thread request env →
        May (operations thread).intent
          ((sceneOf config operations history).views thread) request →
            inv (history.next (exec config) thread request env))
    (leave : ∀ history thread, inv history → history.retired thread = false →
      ((sceneOf config operations history).views thread).Settled →
        inv (history.retire thread))
    (start : inv (History.start world)) {schedule : List (Nat × Env)}
    (valid : Pool.Valid (exec config) cond
      (Pool.start world fun thread => (operations thread).program config)
      schedule) :
    (interleaved config world operations schedule).Sound (exec config)
      (fun thread => roleOf (operations thread).intent) View.first
      (fun _ _ after => after.Settled) inv :=
  Pool.run_invariant (exec config)
    (fun history _ request _ holds _ => fits_exec request (keyed history holds))
    step (fun history thread _ => leave history thread)
    (Pool.sound_start (exec config) start fun thread =>
      (operations thread).obeys config) schedule valid

/-- The invariant rule for interleaved runs of the gateway.  At the end the
invariant holds, and every call that a thread is about to make is one that it
may make. -/
theorem interleaved_invariant
    (inv : Scene → Prop) (cond : Scene → Nat → Call → Env → Prop)
    (keyed : ∀ scene, inv scene → scene.world.ledger.WellKeyed)
    (step : ∀ scene thread request env, inv scene →
      scene.retired thread = false → cond scene thread request env →
        May (operations thread).intent (scene.views thread) request →
          inv (scene.next config thread request env))
    (leave : ∀ scene thread, inv scene → scene.retired thread = false →
      (scene.views thread).Settled → inv (scene.retire thread))
    (start : inv (Scene.start world)) {schedule : List (Nat × Env)}
    (scheduled : Scheduled config world operations cond schedule) :
    inv (lastScene config world operations schedule) ∧
      ∀ thread request following,
        (interleaved config world operations schedule).threads thread =
            .call request following →
          (lastScene config world operations schedule).retired thread =
              false ∧
            May (operations thread).intent
              ((lastScene config world operations schedule).views thread)
              request := by
  have sound := interleaved_sound
    (fun history => inv (sceneOf config operations history)) (fun _ => keyed _)
    (fun history thread request env holds active met may => by
      rw [sceneOf_next]
      exact step _ thread request env holds active met may)
    (fun _ => leave _) start scheduled
  exact ⟨sound.1, fun thread request following calls =>
    Pool.Sound.permitted (exec config) sound calls⟩

namespace Sample

/-- The threads take their turns in this order, with environments numbered
from the first one on. -/
def turns (first : Nat) (threads : List Nat) : List (Nat × Env) :=
  (threads.zipIdx first).map fun entry => (entry.1, env entry.2)

/-- One thread for each of the operations. -/
def threads (operations : List Operation) (thread : Nat) : Operation :=
  operations.getD thread create

end Sample
end SettleAgent
