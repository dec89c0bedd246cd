import SettleAgent.Concurrent.Linked

/-!
# Nothing is undone over HTTP

No route leads to `CompensateTransaction`.  However HTTP requests interleave,
no transaction is compensated, rolled back or marked as failed, and no action
is compensated.
-/

namespace SettleAgent

/-- The statuses that HTTP requests give to transactions. -/
def TxnStatus.Onward : TxnStatus → Prop
  | .planning | .awaitingApproval | .executing | .aborting | .committed => True
  | _ => False

/-- The statuses of actions that were undone, or should have been. -/
def ActionStatus.Undone : ActionStatus → Prop
  | .compensated | .compensationFailed => True
  | _ => False

theorem Moves.onward
    {intent : Intent} {view : View} {txn : Transaction} {status : TxnStatus}
    (moves : Moves intent view txn status) (forward : intent.Forward)
    (onward : txn.status.Onward) : status.Onward := by
  have kept {target : TxnStatus} (fine : target.Onward) :
      (statusAfter txn target).Onward := by
    rcases statusAfter_eq txn target with equal | equal
    · rwa [equal]
    · rwa [equal]
  cases moves with
  | pause | resume | abort => exact kept trivial
  | begin | close => trivial
  | compensate status compensates =>
      exact absurd compensates (forward.uncompensated _ _)

/-- What an interleaved run of HTTP requests maintains. -/
structure MovesOnward (scene : Scene) : Prop where
  keyed : scene.world.ledger.WellKeyed
  txns : ∀ id txn, scene.world.ledger.txns.get? id = some txn →
    txn.status.Onward
  read : ∀ thread txn, (scene.views thread).txn = some txn → txn.status.Onward
  actions : ∀ id action, scene.world.ledger.actions.get? id = some action →
    ¬ action.status.Undone

namespace MovesOnward

variable {config : Config} {scene : Scene} {intent : Intent} {thread : Nat}
  {request : Call} {env : Env}

variable (onward : MovesOnward scene)
  (admissible : Admissible scene.world env) (forward : intent.Forward)
  (may : May intent (scene.views thread) request)

include onward admissible forward may

theorem txns_next (id : String) (txn : Transaction)
    (present : (exec config request env scene.world).2.ledger.txns.get? id =
      some txn) : txn.status.Onward := by
  cases txnWrite config admissible may id with
  | kept same => exact onward.txns id txn (same ▸ present)
  | created new planned creates status named absent written =>
      rw [written, Option.some.injEq] at present
      subst present
      cases planned with
      | true =>
          rw [status rfl]
          trivial
      | false => exact absurd creates forward.planned
  | moved read stored status seen named found sameOrg moves written =>
      rw [written, Option.some.injEq] at present
      subst present
      exact moves.onward forward (onward.read thread read seen)

omit admissible in
theorem read_learn (txn : Transaction)
    (read : ((scene.views thread).learn request
      (exec config request env scene.world).1).txn = some txn) :
    txn.status.Onward := by
  rcases View.txn_learn read with
    ⟨old, seen, _, _, same | ⟨orgID, id, rfl⟩⟩ | ⟨orgID, id, rfl⟩
  · rw [same]
    exact onward.read thread old seen
  · obtain ⟨copy, copied, _, _, moves⟩ := may
    exact moves.onward forward (onward.read thread copy copied)
  · exact onward.txns id txn (Ledger.getTxn_eq_some.mp read).1

theorem actions_next (id : String) (action : TxnAction)
    (present : (exec config request env scene.world).2.ledger.actions.get? id =
      some action) : ¬ action.status.Undone := by
  cases actionWrite config onward.keyed admissible may id with
  | kept same => exact onward.actions id action (same ▸ present)
  | added new may named absent written =>
      rw [written, Option.some.injEq] at present
      subst present
      have proposed : new.status = .proposed := may.2.2.2.2.1
      simp [Ledger.newAction, proposed, ActionStatus.Undone]
  | decided draft old decision drafted named undecided found written =>
      rw [written, Option.some.injEq] at present
      subst present
      exact onward.actions id old found
  | placed draft old decision drafted named undecided known found written =>
      rw [written, Option.some.injEq] at present
      subst present
      change ¬ (initialStatus decision.effect).Undone
      cases decision.effect <;> exact not_false
  | rewritten held old new holding unstored rewrites named found written =>
      rw [written, Option.some.injEq] at present
      subst present
      cases rewrites with
      | ran orgID actionID outcome action executes runnable dispatched revises
          status =>
          rw [status]
          rcases outcome with (reason | reason) | result <;> exact not_false
      | settled orgID actionID answer action reconciles uncertain answered
          revises status =>
          rw [status]
          cases answer <;> exact not_false
      | granted => exact not_false
      | undone orgID txnID txn scan listed status compensates =>
          exact absurd compensates (forward.uncompensated _ _)

theorem next :
    MovesOnward (scene.next config thread request env) where
  keyed := wellKeyed_exec request onward.keyed
  txns := onward.txns_next admissible forward may
  actions := onward.actions_next admissible forward may
  read := by
    intro other txn seen
    by_cases same : other = thread
    · subst same
      rw [Scene.views_next_self] at seen
      exact onward.read_learn forward may txn seen
    · rw [scene.views_next_of_ne config request env same] at seen
      exact onward.read other txn seen

end MovesOnward

/-- However HTTP requests interleave, every transaction is planning, waiting,
executing, aborting or committed, and no action was undone. -/
theorem http_never_undoes {config : Config} {world : World}
    {operations : Nat → Operation} {schedule : List (Nat × Env)}
    (http : ∀ thread, (operations thread).IsHTTP) (initial : world.Initial)
    (fresh : FreshSchedule config world operations schedule) :
    let ledger :=
      (interleaved config world operations schedule).history.state.ledger
    (∀ id txn, ledger.txns.get? id = some txn → txn.status.Onward) ∧
      ∀ id action, ledger.actions.get? id = some action →
        ¬ action.status.Undone := by
  have start : MovesOnward (Scene.start world) := by
    have empty : (Scene.start world).world.ledger = Ledger.empty := initial
    constructor
    · rw [empty]
      exact Ledger.wellKeyed_empty
    · intro id txn present
      simp [empty, Ledger.empty] at present
    · intro thread txn seen
      cases seen
    · intro id action present
      simp [empty, Ledger.empty] at present
  obtain ⟨onward, _⟩ := interleaved_invariant MovesOnward _
    (fun _ onward => onward.keyed)
    (fun _ thread _ _ onward _ admissible may =>
      onward.next admissible (http thread).forward may)
    (fun _ _ onward _ _ => { onward with }) start fresh
  exact ⟨onward.txns, onward.actions⟩

namespace Sample

/-- The operator opens a transaction, and meanwhile proposes a refund in it and
decides on the refund. -/
def hasty : Nat → Operation :=
  threads [create, propose "id201" "stripe" "refund" none "k",
    decideApproval "id215" false]

/-- The order in which the calls of these requests are made. -/
def hastily : List (Nat × Env) :=
  turns 200 ([0, 0] ++ List.replicate 14 1 ++ List.replicate 5 2 ++ [1, 1, 1])

end Sample

/-- The refund is denied while its proposal is still being recorded, and the
proposal then overwrites the status that the denial has left. -/
theorem http_never_undoes_hasty :
    let ledger := (interleaved Sample.config Sample.world Sample.hasty
      Sample.hastily).history.state.ledger
    (ledger.txns.get? "id201").map Transaction.status =
        some .awaitingApproval ∧
      (ledger.approvals.get? "id215").map Approval.status = some .denied ∧
      (∀ id txn, ledger.txns.get? id = some txn → txn.status.Onward) ∧
      ∀ id action, ledger.actions.get? id = some action →
        ¬ action.status.Undone :=
  ⟨by decide +kernel, by decide +kernel,
    http_never_undoes (Sample.isHTTP_threads (by decide +kernel))
      Sample.initial (by decide +kernel)⟩

end SettleAgent
