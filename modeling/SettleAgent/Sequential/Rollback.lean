import SettleAgent.Sequential.Compensation

/-!
# The effect of a compensation

What `CompensateTransaction` does to the store, given what the compensators
answer: which of them it runs, what becomes of the actions, and which status it
returns and stores.  Nothing of it depends on the order in which the actions are
listed.
-/

namespace SettleAgent

open Interaction

/-- An action whose compensator was run, and the error that it returned. -/
abbrev Attempt := TxnAction × Option String

/-- What the call of a compensator shows. -/
def attempted : (request : Call) → request.Resp → Option Attempt
  | .compensate action, error => some (action, error)
  | _, _ => none

/-- The record that an attempt leaves. -/
def Attempt.settled (attempt : Attempt) : TxnAction :=
  { attempt.1 with
    status := if attempt.2.isSome then .compensationFailed else .compensated }

/-- The compensators that a run of a compensation calls, with their answers. -/
def attemptsOf (config : Config) (marks : List (Mark Unit Call Env World)) :
    List Attempt :=
  marks.filterMap fun mark => attempted mark.request (mark.reply (exec config))

instance (action : TxnAction) : Decidable (Skipped action) :=
  inferInstanceAs (Decidable (_ ∧ _))

/-- The compensator of the action is run. -/
def Tried (action : TxnAction) : Bool :=
  decide (action.status = .executed ∧ ¬ Skipped action)

/-- The action is executed and is not undone. -/
def LeftBehind (action : TxnAction) : Bool :=
  decide (action.status = .executed ∧ Skipped action)

/-- What undoing the listed actions does, by the attempts that are made. -/
structure Effect (start after : World) (actions : List TxnAction)
    (failed value : Bool) (attempts : List Attempt) : Prop where
  tried : attempts.map Prod.fst = actions.filter Tried
  settled : ∀ attempt ∈ attempts,
    after.ledger.actions.get? attempt.1.id = some attempt.settled
  others : ∀ id, (∀ attempt ∈ attempts, attempt.1.id ≠ id) →
    after.ledger.actions.get? id = start.ledger.actions.get? id
  txns : after.ledger.txns = start.ledger.txns
  value : value = (failed || actions.any LeftBehind ||
    attempts.any fun attempt => attempt.2.isSome)

namespace Effect

variable {start middle after : World} {action : TxnAction}
  {rest : List TxnAction} {failed value : Bool} {attempts : List Attempt}

/-- Nothing was done for an action at the front that was not executed. -/
theorem cons_of_not_executed (executed : action.status ≠ .executed)
    (effect : Effect start after rest failed value attempts) :
    Effect start after (action :: rest) failed value attempts where
  tried := by
    rw [effect.tried, List.filter_cons_of_neg]
    simp [Tried, executed]
  settled := effect.settled
  others := effect.others
  txns := effect.txns
  value := by
    rw [effect.value]
    simp [LeftBehind, executed]

/-- An action at the front that is skipped only sets the flag. -/
theorem cons_of_skipped (executed : action.status = .executed)
    (skipped : Skipped action) (ledger : middle.ledger = start.ledger)
    (effect : Effect middle after rest true value attempts) :
    Effect start after (action :: rest) failed value attempts where
  tried := by
    rw [effect.tried, List.filter_cons_of_neg]
    simp [Tried, skipped]
  settled := effect.settled
  others := by
    rw [← ledger]
    exact effect.others
  txns := by
    rw [← ledger]
    exact effect.txns
  value := by
    rw [effect.value]
    simp [LeftBehind, executed, skipped]

/-- An action at the front that is tried is left with its outcome. -/
theorem cons_of_tried {error : Option String}
    (executed : action.status = .executed) (tried : ¬ Skipped action)
    (distinct : action.id ∉ rest.map TxnAction.id)
    (recorded : middle.ledger.actions =
      start.ledger.actions.set action.id (Attempt.settled (action, error)))
    (txns : middle.ledger.txns = start.ledger.txns)
    (effect : Effect middle after rest (failed || error.isSome) value
      attempts) :
    Effect start after (action :: rest) failed value
      ((action, error) :: attempts) := by
  have later : ∀ attempt ∈ attempts, attempt.1.id ≠ action.id := by
    intro attempt made same
    have listed : attempt.1 ∈ rest.filter Tried := by
      rw [← effect.tried]
      exact List.mem_map_of_mem made
    apply distinct
    rw [← same]
    exact List.mem_map_of_mem (List.mem_of_mem_filter listed)
  constructor
  · rw [List.map_cons, effect.tried, List.filter_cons_of_pos]
    simp [Tried, executed, tried]
  · intro attempt made
    rcases List.mem_cons.mp made with rfl | earlier
    · rw [effect.others action.id later, recorded, Table.get?_set_self]
    · exact effect.settled attempt earlier
  · intro id spared
    have own : action.id ≠ id := spared _ List.mem_cons_self
    rw [effect.others id fun attempt made =>
      spared attempt (List.mem_cons_of_mem _ made), recorded,
      Table.get?_set_of_ne _ _ own.symm]
  · exact effect.txns.trans txns
  · rw [effect.value, List.any_cons, List.any_cons]
    simp [LeftBehind, tried, Bool.or_assoc, Bool.or_left_comm]

end Effect

open Gateway in
/-- Recording an outcome writes the status into the action's record. -/
theorem recordCompensation_observes {config : Config} {now : World}
    {action : TxnAction} {orgID : String} {status : ActionStatus}
    (stored : now.ledger.actions.get? action.id = some action)
    (owned : action.orgID = orgID) :
    (recordCompensation orgID action status).Observes (exec config) attempted
      (fun _ after seen => seen = [] ∧
        after.ledger.actions = now.ledger.actions.set action.id
          { action with status := status } ∧
        after.ledger.txns = now.ledger.txns) now := by
  have found : now.ledger.getAction orgID action.id = some action :=
    Ledger.getAction_eq_some.mpr ⟨stored, owned⟩
  intro readEnv
  have reply : (exec config (.getAction orgID action.id) readEnv now).1 =
      some action := found
  rw [reply]
  intro writeEnv
  refine ⟨rfl, actions_exec_updateAction writeEnv stored, ?_⟩
  exact txns_exec id

open Gateway in
theorem compensateAll_observes {config : Config} {now : World}
    {orgID txnID : String} {actions : List TxnAction}
    (listed : ∀ action ∈ actions,
      now.ledger.actions.get? action.id = some action ∧ action.orgID = orgID)
    (distinct : (actions.map TxnAction.id).Nodup) (failed : Bool) :
    (compensateAll orgID txnID actions failed).Observes (exec config) attempted
      (fun value after attempts =>
        Effect now after actions failed value attempts) now := by
  induction actions generalizing now failed with
  | nil => exact ⟨rfl, by simp, fun _ _ => rfl, rfl, by simp⟩
  | cons action rest inductionHypothesis =>
      obtain ⟨stored, owned⟩ := listed action List.mem_cons_self
      have later := fun other member =>
        listed other (List.mem_cons_of_mem action member)
      obtain ⟨alone, distinctRest⟩ := List.nodup_cons.mp distinct
      rw [compensateAll]
      by_cases executed : action.status = .executed
      swap
      · rw [if_pos executed]
        exact (inductionHypothesis later distinctRest failed).mono
          fun _ _ _ effect => effect.cons_of_not_executed executed
      rw [if_neg (by simpa using executed)]
      by_cases skipped : Skipped action
      · rw [if_pos (by simpa [Skipped] using skipped)]
        intro env
        refine (inductionHypothesis ?_ distinctRest true).mono ?_
        · exact later
        · intro _ _ _ effect
          refine Effect.cons_of_skipped executed skipped ?_ effect
          rfl
      rw [if_neg (by simpa [Skipped] using skipped)]
      intro env
      -- what is left to do is the same for both outcomes but for the flag
      have goesOn : ∀ (error : Option String) (status : ActionStatus)
          (flag : Bool) (event : AuditEvent),
          Attempt.settled (action, error) = { action with status := status } →
          flag = (failed || error.isSome) →
          (recordCompensation orgID action status >>= fun _ =>
            Prog.call (.emit event) fun _ =>
              compensateAll orgID txnID rest flag).Observes (exec config)
            attempted (fun value after attempts => Effect now after
              (action :: rest) failed value ((action, error) :: attempts))
            now := by
        intro error status flag event settled set
        subst set
        refine (recordCompensation_observes stored owned).bind ?_
        rintro _ middle _ ⟨rfl, recorded, txns⟩ emitEnv
        have kept : ∀ other ∈ rest,
            middle.ledger.actions.get? other.id = some other ∧
              other.orgID = orgID := by
          intro other member
          refine ⟨?_, (later other member).2⟩
          rw [recorded, Table.get?_set_of_ne]
          · exact (later other member).1
          · intro same
            apply alone
            rw [← same]
            exact List.mem_map_of_mem member
        refine (inductionHypothesis ?_ distinctRest _).mono ?_
        · exact kept
        · intro _ _ _ effect
          refine Effect.cons_of_tried executed skipped alone ?_ ?_ effect
          · rw [settled]
            exact recorded
          · exact txns
      cases (exec config (.compensate action) env now).1 with
      | some error =>
          exact goesOn (some error) .compensationFailed true _ rfl
            (Bool.or_true failed).symm
      | none =>
          exact goesOn none .compensated failed _ rfl (Bool.or_false failed).symm

/-! ## Whole compensations -/

/-- What a compensation does to the store and what it returns, by the answers of
the compensators. -/
structure Compensated (orgID txnID : String) (start after : World)
    (txn : Transaction) (result : Except String TxnStatus)
    (attempts : List Attempt) : Prop where
  /-- No compensator is run twice for an action. -/
  once : (attempts.map fun attempt => attempt.1.id).Nodup
  /-- Compensators are run for the executed actions that are not skipped. -/
  tried : ∀ action, (∃ error, (action, error) ∈ attempts) ↔
    start.ledger.OfTxn orgID txnID action ∧ action.status = .executed ∧
      ¬ Skipped action
  /-- These actions get the status of their outcome. -/
  settled : ∀ attempt ∈ attempts,
    after.ledger.actions.get? attempt.1.id = some attempt.settled
  /-- All other actions are unchanged. -/
  otherActions : ∀ id, (∀ attempt ∈ attempts, attempt.1.id ≠ id) →
    after.ledger.actions.get? id = start.ledger.actions.get? id
  /-- All other transactions are unchanged. -/
  otherTxns : ∀ id, id ≠ txnID →
    after.ledger.txns.get? id = start.ledger.txns.get? id
  /-- The status tells whether an executed action was skipped or failed. -/
  status : ∃ final now,
    result = .ok final ∧
    after.ledger.getTxn orgID txnID =
      some { txn with status := final, updatedAt := now } ∧
    (final = .partiallyCompensated ∨ final = .rolledBack) ∧
    (final = .partiallyCompensated ↔
      (∃ action, start.ledger.OfTxn orgID txnID action ∧
        action.status = .executed ∧ Skipped action) ∨
      ∃ attempt ∈ attempts, attempt.2.isSome = true)

variable {config : Config} {world : World} {orgID txnID : String}

/-- The effect on the actions, between the two changes of the status. -/
theorem Effect.compensated {begun after last : World} {txn : Transaction}
    {actions : List TxnAction} {failed : Bool} {attempts : List Attempt}
    {begunAt endedAt : Time} {final : TxnStatus}
    (found : world.ledger.getTxn orgID txnID = some txn)
    (listed : ∀ action, action ∈ actions ↔
      world.ledger.OfTxn orgID txnID action)
    (distinct : (actions.map TxnAction.id).Nodup)
    (begunActions : begun.ledger.actions = world.ledger.actions)
    (begunTxns : begun.ledger.txns = world.ledger.txns.set txnID
      { txn with status := .compensating, updatedAt := begunAt })
    (effect : Effect begun after actions false failed attempts)
    (chosen : final =
      if failed then .partiallyCompensated else .rolledBack)
    (lastActions : last.ledger.actions = after.ledger.actions)
    (lastTxns : last.ledger.txns = after.ledger.txns.set txnID
      { txn with status := final, updatedAt := endedAt }) :
    Compensated orgID txnID world last txn (.ok final) attempts := by
  have triedIDs : attempts.map (fun attempt => attempt.1.id) =
      (actions.filter Tried).map TxnAction.id := by
    rw [← effect.tried, List.map_map]
    rfl
  constructor
  · rw [triedIDs]
    exact distinct.sublist (List.filter_sublist.map _)
  · intro action
    have made : (∃ error, (action, error) ∈ attempts) ↔
        action ∈ attempts.map Prod.fst := by
      simp
    rw [made, effect.tried, List.mem_filter, listed, Tried, decide_eq_true_eq]
  · rw [lastActions]
    exact effect.settled
  · rw [lastActions, ← begunActions]
    exact effect.others
  · intro id other
    rw [lastTxns, Table.get?_set_of_ne _ _ other, effect.txns, begunTxns,
      Table.get?_set_of_ne _ _ other]
  · refine ⟨final, endedAt, rfl, ?_, ?_, ?_⟩
    · rw [Ledger.getTxn_eq_some, lastTxns]
      exact ⟨Table.get?_set_self _ _ _, (Ledger.getTxn_eq_some.mp found).2⟩
    · rw [chosen]
      cases failed with
      | true => exact .inl rfl
      | false => exact .inr rfl
    · have reported : final = .partiallyCompensated ↔ failed = true := by
        rw [chosen]
        cases failed <;> simp
      rw [reported, effect.value]
      simp only [Bool.false_or, Bool.or_eq_true, List.any_eq_true, LeftBehind,
        decide_eq_true_eq, listed]

theorem undoListed_observes {txn : Transaction}
    (found : world.ledger.getTxn orgID txnID = some txn)
    {actions : List TxnAction}
    (listed : ∀ action, action ∈ actions ↔
      world.ledger.OfTxn orgID txnID action)
    (distinct : (actions.map TxnAction.id).Nodup) :
    (undoListed orgID txnID actions).Observes (exec config) attempted
      (fun result after attempts =>
        Compensated orgID txnID world after txn result attempts) world := by
  intro beginEnv startEnv
  let begun := (exec config (.emit (Gateway.compensationEvent orgID txnID
    .compensationStarted [])) startEnv
    (exec config (.setTxnStatus orgID txnID .compensating) beginEnv world).2).2
  have begunActions : begun.ledger.actions = world.ledger.actions :=
    (world.ledger.setTxnStatus_frame beginEnv.now orgID txnID .compensating).1
  have begunTxns : begun.ledger.txns = world.ledger.txns.set txnID
      { txn with status := .compensating, updatedAt := beginEnv.now } :=
    congrArg Ledger.txns
      (Ledger.setTxnStatus_of_found beginEnv.now .compensating found)
  have listedBack : ∀ action, action ∈ actions.reverse ↔
      world.ledger.OfTxn orgID txnID action := by
    intro action
    rw [List.mem_reverse, listed]
  have distinctBack : (actions.reverse.map TxnAction.id).Nodup := by
    rw [List.map_reverse, List.nodup_reverse]
    exact distinct
  have members : ∀ action ∈ actions.reverse,
      begun.ledger.actions.get? action.id = some action ∧
        action.orgID = orgID := by
    intro action member
    have ofTxn := (listedBack action).mp member
    rw [begunActions]
    exact ⟨ofTxn.1, ofTxn.2.1⟩
  refine (@compensateAll_observes config begun orgID txnID actions.reverse
    members distinctBack false).bind ?_
  intro failed after attempts effect endEnv
  have foundAfter : after.ledger.getTxn orgID txnID =
      some { txn with status := .compensating, updatedAt := beginEnv.now } := by
    rw [Ledger.getTxn_eq_some, effect.txns, begunTxns]
    exact ⟨Table.get?_set_self _ _ _, (Ledger.getTxn_eq_some.mp found).2⟩
  let final := if failed then TxnStatus.partiallyCompensated else .rolledBack
  let last := (exec config (.setTxnStatus orgID txnID final) endEnv after).2
  have lastActions : last.ledger.actions = after.ledger.actions :=
    (after.ledger.setTxnStatus_frame endEnv.now orgID txnID final).1
  have lastTxns : last.ledger.txns = after.ledger.txns.set txnID
      { txn with status := final, updatedAt := endEnv.now } :=
    congrArg Ledger.txns
      (Ledger.setTxnStatus_of_found endEnv.now final foundAfter)
  change Compensated orgID txnID world last txn (.ok final) (attempts ++ [])
  rw [List.append_nil]
  exact effect.compensated found listedBack distinctBack begunActions begunTxns
    rfl lastActions lastTxns

/-- For every transaction of a keyed store, in whatever order its actions are
listed and whatever the compensators answer: a compensation runs the compensator
of each executed action that it does not skip once and no other, leaves the
outcome in these actions and changes no other action or transaction, and the
status that it returns and stores tells whether all executed actions were
undone. -/
theorem compensation_effect (config : Config) {txn : Transaction}
    (keyed : world.ledger.WellKeyed)
    (found : world.ledger.getTxn orgID txnID = some txn) (envs : Nat → Env) :
    let run := compensation config orgID txnID envs world
    Compensated orgID txnID world run.2.1 txn run.1
      (attemptsOf config run.2.2) := by
  have observes : (Gateway.compensateTransaction orgID txnID).Observes
      (exec config) attempted (fun result after attempts =>
        Compensated orgID txnID world after txn result attempts) world := by
    rw [compensateTransaction_eq]
    intro readEnv
    have reply : (exec config (.getTxn orgID txnID) readEnv world).1 =
        some txn := found
    rw [reply]
    intro listEnv
    have distinct : ((world.ledger.actionsForTxn listEnv.rank orgID txnID).map
        TxnAction.id).Nodup :=
      Table.nodup_map_select _ keyed.action _ _
    exact undoListed_observes found (mem_actionsForTxn_iff keyed listEnv.rank)
      distinct
  exact observes.complete () envs

/-- The compensation of an updated record makes one attempt, and claims a
rollback. -/
theorem compensation_effect_update :
    let reached := (sequential Sample.config Sample.world
      Sample.openUpdate).state
    let run := Sample.undoAfter Sample.openUpdate
    (attemptsOf Sample.config run.2.2).length = 1 ∧
      run.1.toOption = some .rolledBack ∧
      ∃ txn, reached.ledger.getTxn "acme" "id1" = some txn ∧
        Compensated "acme" "id1" reached run.2.1 txn run.1
          (attemptsOf Sample.config run.2.2) := by
  refine ⟨by decide +kernel, by decide +kernel, ?_⟩
  have keyed : (sequential Sample.config Sample.world
      Sample.openUpdate).state.ledger.WellKeyed :=
    wellKeyed_sequential Sample.initial
  obtain ⟨txn, found⟩ := Option.isSome_iff_exists.mp (show ((sequential
    Sample.config Sample.world Sample.openUpdate).state.ledger.getTxn "acme"
      "id1").isSome = true by decide +kernel)
  exact ⟨txn, found, compensation_effect Sample.config keyed found _⟩

end SettleAgent
