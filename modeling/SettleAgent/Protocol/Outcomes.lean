import SettleAgent.Interaction.Ensures
import SettleAgent.Protocol.Effects

/-!
# What becomes of an action

Dispatching an action and reconciling it end with a write of its record.  The
status is the one that the handler's outcome or the reconciler's answer leads
to, whatever the calls around it meet.
-/

namespace SettleAgent

open Interaction Gateway

theorem attest_writes {config : Config} {orgID : String} {action : TxnAction}
    (result : Object) (compensation : Compensation)
    (started completed : Time) :
    (attest config orgID action result compensation started
      completed).AllCalls fun request => ¬ request.WritesActions := by
  simp only [attest, signReceipt, Prog.perform_bind]
  refine ⟨id, fun receipt => ?_⟩
  split
  · exact ⟨id, fun _ => trivial⟩
  · exact ⟨id, fun _ => ⟨id, fun _ => trivial⟩⟩

section Ends

variable {config : Config} {good : Env → Prop} {world : World}
  {traceID orgID : String} {action old : TxnAction} {α : Type}

/-- From here on, the program ends with the action in this status. -/
def EndsIn (config : Config) (good : Env → Prop) (program : Gate α)
    (id : String) (status : ActionStatus) (world : World) : Prop :=
  program.Ensures (exec config) good (fun _ _ _ => True)
    (fun _ after => after.ledger.status? id = some status) world

theorem EndsIn.call {request : Call} {next : request.Resp → Gate α}
    {id : String} {status : ActionStatus}
    (following : ∀ env, good env → EndsIn config good
      (next (exec config request env world).1) id status
        (exec config request env world).2) :
    EndsIn config good (.call request next) id status world :=
  fun env admitted => ⟨trivial, following env admitted⟩

/-- A program that ends with the action in this status, carried to its end. -/
theorem EndsIn.complete {program : Gate α} {id : String}
    {status : ActionStatus} (ends : EndsIn config good program id status world)
    (caller : Operation) (envs : Nat → Env) (admitted : ∀ n, good (envs n)) :
    (program.complete (exec config) caller envs world).2.1.ledger.status? id =
      some status :=
  (Prog.Ensures.complete ends caller envs admitted).1

/-- The last write of the action decides its status. -/
theorem endsIn_updateAction {next : Unit → Gate α}
    (present : world.ledger.actions.get? action.id = some old)
    (silent : (next ()).AllCalls fun request => ¬ request.WritesActions) :
    EndsIn config good (.call (.updateAction action) next) action.id
      action.status world := by
  refine EndsIn.call fun env _ => ?_
  refine silent.ensures ?_ ?_
  · intro state request env written untouched
    refine ⟨trivial, ?_⟩
    rw [Ledger.status?, actions_exec untouched]
    exact written
  · change (world.ledger.updateAction action).status? action.id = _
    rw [Ledger.updateAction_of_present present, Ledger.status?,
      Table.get?_set_self]
    rfl

/-! ## Dispatch -/

theorem recordFailure_endsIn (latency : Int) (error : ToolError)
    (present : world.ledger.actions.get? action.id = some old) :
    EndsIn config good (recordFailure traceID orgID action latency error)
      action.id (statusOf (.error error)) world := by
  cases error with
  | uncertain text =>
      exact endsIn_updateAction present ⟨id, fun _ => trivial⟩
  | plain text =>
      exact endsIn_updateAction present ⟨id, fun _ => trivial⟩

theorem recordSuccess_endsIn (latency : Int) (started : Time) (result : Object)
    (present : world.ledger.actions.get? action.id = some old) :
    EndsIn config good (recordSuccess config traceID orgID action latency
      started result) action.id .executed world := by
  refine endsIn_updateAction present ⟨id, fun completed => ?_⟩
  exact (attest_writes _ _ _ _).bind fun _ => ⟨id, fun _ => trivial⟩

/-- What the handler returns in this world, whenever the outside world behaves
like this. -/
def World.handled (config : Config) (world : World)
    (outside : Outside) (action : TxnAction) : Except ToolError Object :=
  (world.tools.execute config.runtime world.store outside action).result

theorem dispatch_endsIn {outside : Outside}
    (present : world.ledger.actions.get? action.id = some old) :
    EndsIn config (fun env => env.outside = outside)
      (dispatch config traceID orgID action) action.id
      (statusOf (world.handled config outside action)) world := by
  simp only [dispatch, Prog.perform_bind]
  refine EndsIn.call fun _ _ => EndsIn.call fun _ _ => EndsIn.call
    fun env same => EndsIn.call fun _ _ => ?_
  subst same
  -- Neither the clock nor the audit log matters to the handler.
  have replied (event : AuditEvent) (first second : Env) :
      (exec config (.execute action) env (exec config (.emit event) second
        (exec config .timeNow first world).2).2).1 =
          world.handled config env.outside action := rfl
  rw [replied]
  cases world.handled config env.outside action with
  | error error => exact recordFailure_endsIn _ error present
  | ok result => exact recordSuccess_endsIn _ _ result present

/-- Running an action leaves it in the status that the handler's outcome leads
to. -/
theorem run_endsIn {outside : Outside}
    (present : world.ledger.actions.get? action.id = some old) :
    EndsIn config (fun env => env.outside = outside)
      (run config traceID orgID action) action.id
      (statusOf (world.handled config outside action)) world := by
  simp only [run, Prog.perform_bind]
  refine EndsIn.call fun _ _ => ?_
  split
  · split
    · refine EndsIn.call fun env _ => ?_
      refine dispatch_endsIn (Eq.trans ?_ present)
      rw [actions_exec id]
      rfl
    · exact dispatch_endsIn present
  · exact dispatch_endsIn present

/-! ## Reconcile -/

theorem settle_endsIn (answer : Option Object)
    (present : world.ledger.actions.get? action.id = some old) :
    EndsIn config good (settle config traceID orgID action answer) action.id
      (settledStatus answer) world := by
  cases answer with
  | none => exact endsIn_updateAction present ⟨id, fun _ => trivial⟩
  | some result =>
      refine EndsIn.call fun _ _ => ?_
      refine endsIn_updateAction present ?_
      exact (attest_writes _ _ _ _).bind fun _ => ⟨id, fun _ => trivial⟩

/-- The status of an uncertain action after its reconciler was called. -/
def reconciledStatus : Except ToolError (Option Object) → ActionStatus
  | .ok answer => settledStatus answer
  | .error _ => .unknown

/-- Reconciling an uncertain action leaves it in the status that the
reconciler's answer leads to, and uncertain if there is none. -/
theorem reconcile_endsIn {outside : Outside} {reconciler : Reconciler}
    (present : world.ledger.actions.get? action.id = some action)
    (uncertain : action.status = .unknown)
    (registered : world.tools.reconcilerFor action.tool action.action =
      some reconciler) :
    EndsIn config (fun env => env.outside = outside)
      (reconcile config traceID action.orgID action.id) action.id
      (reconciledStatus (Registry.reconcile world.store outside reconciler
        action).result) world := by
  have found : world.ledger.getAction action.orgID action.id = some action :=
    Ledger.getAction_eq_some.mpr ⟨present, rfl⟩
  simp only [reconcile, Prog.perform_bind]
  refine EndsIn.call fun _ _ => ?_
  simp only [exec]
  rw [found]
  simp only [uncertain, ne_eq, not_true_eq_false, if_false]
  refine EndsIn.call fun _ _ => ?_
  simp only [exec]
  rw [registered]
  refine EndsIn.call fun env same => ?_
  subst same
  simp only [exec, World.withSent]
  cases (Registry.reconcile world.store env.outside reconciler action).result with
  | error error =>
      refine EndsIn.call fun _ _ => ?_
      change (world.ledger.actions.get? action.id).map _ = _
      rw [present]
      exact congrArg some uncertain
  | ok answer => exact settle_endsIn answer present

end Ends
end SettleAgent
