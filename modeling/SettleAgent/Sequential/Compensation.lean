import SettleAgent.Interaction.Ensures
import SettleAgent.Sequential.Lifecycle

/-!
# Compensating a transaction

`CompensateTransaction` reads the transaction but not its status, lists its
actions and undoes those that are executed when it lists them.  It therefore
starts from any status, and its verdict speaks only about the actions that it
tried itself.
-/

namespace SettleAgent

open Interaction

/-- Carry a compensation to its end. -/
abbrev compensation (config : Config) (orgID txnID : String)
    (envs : Nat → Env) (world : World) :
    Except String TxnStatus × World × List (Mark Unit Call Env World) :=
  (Gateway.compensateTransaction orgID txnID).complete (exec config) () envs
    world

/-- What a compensation does once it has listed the actions. -/
def undoListed (orgID txnID : String) (actions : List TxnAction) :
    Gate (Except String TxnStatus) := do
  let _ ← perform (.setTxnStatus orgID txnID .compensating)
  perform (.emit (Gateway.compensationEvent orgID txnID .compensationStarted []))
  let failed ← Gateway.compensateAll orgID txnID actions.reverse false
  let final : TxnStatus :=
    if failed then .partiallyCompensated else .rolledBack
  let _ ← perform (.setTxnStatus orgID txnID final)
  return .ok final

theorem compensateTransaction_eq (orgID txnID : String) :
    Gateway.compensateTransaction orgID txnID =
      .call (.getTxn orgID txnID) fun found => match found with
        | none => .ret (.error "transaction not found")
        | some _ => .call (.actionsForTxn orgID txnID)
            (undoListed orgID txnID) := by
  rw [Gateway.compensateTransaction, Prog.perform_bind]
  congr 1

variable {config : Config} {world : World} {orgID txnID : String}
  {good : Env → Prop} {txn : Transaction}

/-- A compensation of a transaction that exists reads it, lists its actions and
goes on from there. -/
theorem ensures_compensateTransaction {step : World → Call → Env → Prop}
    {post : Except String TxnStatus → World → Prop}
    (found : world.ledger.getTxn orgID txnID = some txn)
    (reads : ∀ env, step world (.getTxn orgID txnID) env)
    (lists : ∀ env, step world (.actionsForTxn orgID txnID) env)
    (listed : ∀ rank, (undoListed orgID txnID
      (world.ledger.actionsForTxn rank orgID txnID)).Ensures (exec config) good
        step post world) :
    (Gateway.compensateTransaction orgID txnID).Ensures (exec config) good step
      post world := by
  rw [compensateTransaction_eq]
  intro readEnv _
  refine ⟨reads readEnv, ?_⟩
  have reply : (exec config (.getTxn orgID txnID) readEnv world).1 =
      some txn := found
  rw [reply]
  intro listEnv _
  exact ⟨lists listEnv, listed listEnv.rank⟩

/-! ## The status graph -/

/-- A step moves every transaction along the graph. -/
def LegalStep (config : Config) (world : World) (request : Call) (env : Env) :
    Prop :=
  ∀ id txn, world.ledger.txns.get? id = some txn →
    ∃ next, (exec config request env world).2.ledger.txns.get? id =
      some next ∧ canTransition txn.status next.status = true

theorem legalStep_of_kept {request : Call} {env : Env}
    (kept : (exec config request env world).2.ledger.txns =
      world.ledger.txns) :
    LegalStep config world request env := by
  intro id txn present
  exact ⟨txn, by rw [kept, present], canTransition_self txn.status⟩

/-- Writing a legal status is a legal step. -/
theorem legalStep_setTxnStatus {status : TxnStatus}
    (env : Env) (found : world.ledger.getTxn orgID txnID = some txn)
    (legal : canTransition txn.status status = true) :
    LegalStep config world (.setTxnStatus orgID txnID status) env := by
  intro id old present
  have written := Ledger.setTxnStatus_of_found env.now status found
  change ∃ next, (world.ledger.setTxnStatus env.now orgID txnID
    status).2.txns.get? id = some next ∧ _
  rw [written]
  by_cases same : id = txnID
  · subst same
    have stored := (Ledger.getTxn_eq_some.mp found).1
    rw [present, Option.some.injEq] at stored
    subst stored
    exact ⟨_, Table.get?_set_self _ _ _, legal⟩
  · rw [Table.get?_set_of_ne _ _ same]
    exact ⟨old, present, canTransition_self old.status⟩

/-- The transaction as it is found after its status was written. -/
theorem getTxn_setTxnStatus {ledger : Ledger} (status : TxnStatus) (now : Time)
    (found : ledger.getTxn orgID txnID = some txn) :
    (ledger.setTxnStatus now orgID txnID status).2.getTxn orgID txnID =
      some { txn with status := status, updatedAt := now } := by
  rw [Ledger.setTxnStatus_of_found now status found, Ledger.getTxn_eq_some]
  exact ⟨Table.get?_set_self _ _ _, (Ledger.getTxn_eq_some.mp found).2⟩

/-- The calls that undo single actions. -/
def Call.Undoes : Call → Prop
  | .emit _ | .compensate _ | .getAction _ _ | .updateAction _ => True
  | _ => False

theorem Call.Undoes.not_writesTxns {request : Call}
    (undoes : request.Undoes) : ¬ request.WritesTxns := by
  cases request with
  | emit _ | compensate _ | getAction _ _ | updateAction _ =>
      simp [Call.WritesTxns]
  | _ => exact undoes.elim

open Gateway in
theorem compensateAll_undoes (actions : List TxnAction) (failed : Bool) :
    (compensateAll orgID txnID actions failed).AllCalls Call.Undoes := by
  induction actions generalizing failed with
  | nil => trivial
  | cons action rest inductionHypothesis =>
      have record : ∀ status, (recordCompensation orgID action
          status).AllCalls Call.Undoes := by
        intro status
        refine ⟨trivial, fun found => ?_⟩
        cases found with
        | none => trivial
        | some current => exact ⟨trivial, fun _ => trivial⟩
      rw [compensateAll]
      split
      · exact inductionHypothesis failed
      · split
        · exact ⟨trivial, fun _ => inductionHypothesis true⟩
        · refine ⟨trivial, fun outcome => ?_⟩
          cases outcome with
          | none =>
              exact (record .compensated).bind fun _ =>
                ⟨trivial, fun _ => inductionHypothesis failed⟩
          | some error =>
              exact (record .compensationFailed).bind fun _ =>
                ⟨trivial, fun _ => inductionHypothesis true⟩

/-- Undoing single actions leaves the transactions alone. -/
theorem compensateAll_keeps_txns (actions : List TxnAction) (failed : Bool) :
    (Gateway.compensateAll orgID txnID actions failed).Ensures (exec config)
      good (LegalStep config)
      (fun _ after => after.ledger.txns = world.ledger.txns) world := by
  refine Prog.AllCalls.ensures (compensateAll_undoes actions failed) ?_ rfl
  intro now request env same undoes
  have kept : (exec config request env now).2.ledger.txns =
      now.ledger.txns := txns_exec undoes.not_writesTxns
  exact ⟨legalStep_of_kept kept, kept.trans same⟩

theorem getTxn_congr {ledger other : Ledger} (same : other.txns = ledger.txns) :
    other.getTxn orgID txnID = ledger.getTxn orgID txnID := by
  rw [Ledger.getTxn, Ledger.getTxn, same]

/-- The steps of a compensation that has listed the actions are legal if the
first one is. -/
theorem undoListed_ensures_legal
    (found : world.ledger.getTxn orgID txnID = some txn)
    (legal : canTransition txn.status .compensating = true)
    (actions : List TxnAction) :
    (undoListed orgID txnID actions).Ensures (exec config) good
      (LegalStep config) (fun _ _ => True) world := by
  intro beginEnv _
  refine ⟨legalStep_setTxnStatus beginEnv found legal, ?_⟩
  intro startEnv _
  refine ⟨legalStep_of_kept rfl, ?_⟩
  refine (compensateAll_keeps_txns actions.reverse false).bind ?_
  intro failed after kept
  have begun : after.ledger.getTxn orgID txnID =
      some { txn with status := .compensating, updatedAt := beginEnv.now } := by
    rw [getTxn_congr kept]
    exact getTxn_setTxnStatus .compensating beginEnv.now found
  intro endEnv _
  refine ⟨legalStep_setTxnStatus endEnv begun ?_, trivial⟩
  cases failed <;> rfl

/-- A compensation of a transaction that it finds returns a status. -/
theorem undoListed_ensures_ok (actions : List TxnAction) :
    (undoListed orgID txnID actions).Ensures (exec config) good
      (fun _ _ _ => True) (fun value _ => ∃ status, value = .ok status)
      world := by
  intro beginEnv _
  refine ⟨trivial, fun startEnv _ => ⟨trivial, ?_⟩⟩
  refine ((compensateAll_keeps_txns actions.reverse false).mono_step
    fun _ _ _ _ => trivial).bind ?_
  intro failed after _ endEnv _
  exact ⟨trivial, _, rfl⟩

/-- A compensation refuses a transaction from whose status it may not start and
changes nothing then, and otherwise all its steps are legal. -/
structure HeedsGraph (config : Config) (orgID txnID : String)
    (envs : Nat → Env) (world : World) (txn : Transaction) : Prop where
  refuses : canTransition txn.status .compensating = false →
    let run := compensation config orgID txnID envs world
    (∃ error, run.1 = .error error) ∧
      run.2.1.ledger.txns = world.ledger.txns ∧
      run.2.1.ledger.actions = world.ledger.actions ∧
      run.2.1.store.audit = world.store.audit
  moves : canTransition txn.status .compensating = true →
    ∀ mark ∈ (compensation config orgID txnID envs world).2.2,
      LegalStep config mark.before mark.request mark.env

theorem compensation_heeds_graph_iff
    (config : Config) (orgID txnID : String) (envs : Nat → Env)
    (world : World) :
    (∀ txn, world.ledger.getTxn orgID txnID = some txn →
        HeedsGraph config orgID txnID envs world txn) ↔
      ∀ txn, world.ledger.getTxn orgID txnID = some txn →
        canTransition txn.status .compensating = true := by
  constructor
  · intro heeds txn found
    by_contra illegal
    obtain ⟨⟨error, refused⟩, _⟩ :=
      (heeds txn found).refuses (by simpa using illegal)
    have ensures : (Gateway.compensateTransaction orgID txnID).Ensures
        (exec config) (fun _ => True) (fun _ _ _ => True)
        (fun value _ => ∃ status, value = .ok status) world :=
      ensures_compensateTransaction found (fun _ => trivial)
        (fun _ => trivial) fun _ => undoListed_ensures_ok _
    have returns := ensures.complete () envs fun _ => trivial
    obtain ⟨status, returned⟩ := returns.1
    exact nomatch refused.symm.trans returned
  · intro legal txn found
    refine ⟨fun illegal => absurd (legal txn found) (by simp [illegal]), ?_⟩
    intro _
    have ensures : (Gateway.compensateTransaction orgID txnID).Ensures
        (exec config) (fun _ => True) (LegalStep config) (fun _ _ => True)
        world :=
      ensures_compensateTransaction found (fun _ => legalStep_of_kept rfl)
        (fun _ => legalStep_of_kept rfl) fun _ =>
          undoListed_ensures_legal found (legal txn found) _
    exact (ensures.complete () envs fun _ => trivial).2

namespace Sample

/-- A record is updated, and the transaction is committed. -/
def committedUpdate : List Arrival :=
  inTurn [create, propose "id1" "crm" "update_record" none "k",
    decideApproval "id113" true, execute "id103", commit "id1"]

/-- Compensate the transaction after a run. -/
def undoAfter (arrivals : List Arrival) :
    Except String TxnStatus × World × List (Mark Unit Call Env World) :=
  compensation Sample.config "acme" "id1" (envs arrivals.length)
    (sequential Sample.config Sample.world arrivals).state

/-- The status of the transaction. -/
def txnStatus (world : World) : Option TxnStatus :=
  (world.ledger.getTxn "acme" "id1").map Transaction.status

end Sample

/-- A committed transaction is compensated and ends as rolled back. -/
theorem committed_is_rolled_back :
    FreshRun Sample.config Sample.world Sample.committedUpdate ∧
      Sample.txnStatus (sequential Sample.config Sample.world
        Sample.committedUpdate).state = some .committed ∧
      canTransition .committed .compensating = false ∧
      (Sample.undoAfter Sample.committedUpdate).1.toOption =
        some .rolledBack ∧
      Sample.txnStatus (Sample.undoAfter Sample.committedUpdate).2.1 =
        some .rolledBack := by
  decide +kernel

/-! ## The verdict -/

/-- Between two moments of a compensation the registry is the same, and only
executed actions have changed, to a status of a compensation. -/
structure Undone (start now : World) : Prop where
  tools : now.tools = start.tools
  actions : ∀ id,
    now.ledger.actions.get? id = start.ledger.actions.get? id ∨
      ∃ old status, start.ledger.actions.get? id = some old ∧
        old.status = .executed ∧
        (status = .compensated ∨ status = .compensationFailed) ∧
        now.ledger.actions.get? id = some { old with status := status }

/-- The compensation skips the action. -/
def Skipped (action : TxnAction) : Prop :=
  isIrreversible action = true ∧ isCompensable action = false

/-- No compensation of the action can succeed. -/
def Irrecoverable (tools : Registry) (action : TxnAction) : Prop :=
  Skipped action ∨
    tools.compensators.get? (Registry.key action.tool action.action) = none

theorem Undone.refl (world : World) : Undone world world :=
  ⟨rfl, fun _ => .inl rfl⟩

/-- Calls that touch neither the registry nor the actions. -/
theorem Undone.congr {start now after : World} (undone : Undone start now)
    (tools : after.tools = now.tools)
    (actions : after.ledger.actions = now.ledger.actions) :
    Undone start after := by
  refine ⟨tools.trans undone.tools, ?_⟩
  rw [actions]
  exact undone.actions

variable {start now : World}

theorem Undone.emit (undone : Undone start now)
    (event : AuditEvent) (env : Env) :
    Undone start (exec config (.emit event) env now).2 :=
  undone.congr rfl rfl

variable {action : TxnAction}

/-- An executed action of the start is still found, unchanged but for its
status. -/
theorem Undone.found (undone : Undone start now)
    (stored : start.ledger.actions.get? action.id = some action) :
    ∃ status, now.ledger.actions.get? action.id =
      some { action with status := status } := by
  rcases undone.actions action.id with same | ⟨old, status, present, _, _, now⟩
  · exact ⟨action.status, same.trans stored⟩
  · rw [stored, Option.some.injEq] at present
    subst present
    exact ⟨status, now⟩

theorem actions_exec_updateAction {now : World} {action old : TxnAction}
    (env : Env) (present : now.ledger.actions.get? action.id = some old) :
    (exec config (.updateAction action) env now).2.ledger.actions =
      now.ledger.actions.set action.id action :=
  congrArg Ledger.actions (Ledger.updateAction_of_present present)

open Gateway in
/-- Recording an outcome gives the action its status and leaves the other
actions alone. -/
theorem recordCompensation_ensures {status : ActionStatus}
    (undone : Undone start now)
    (stored : start.ledger.actions.get? action.id = some action)
    (owned : action.orgID = orgID) (executed : action.status = .executed)
    (written : status = .compensated ∨ status = .compensationFailed) :
    (recordCompensation orgID action status).Ensures (exec config) good
      (fun _ _ _ => True)
      (fun _ after => Undone start after ∧
        after.ledger.status? action.id = some status ∧
        ∀ id, id ≠ action.id →
          after.ledger.status? id = now.ledger.status? id) now := by
  obtain ⟨old, present⟩ := undone.found stored
  have found : now.ledger.getAction orgID action.id =
      some { action with status := old } :=
    Ledger.getAction_eq_some.mpr ⟨present, owned⟩
  intro readEnv _
  refine ⟨trivial, ?_⟩
  have reply : (exec config (.getAction orgID action.id) readEnv now).1 =
      some { action with status := old } := found
  rw [reply]
  intro writeEnv _
  refine ⟨trivial, ?_⟩
  have after : (exec config (.updateAction { action with status := status })
      writeEnv now).2.ledger.actions =
      now.ledger.actions.set action.id { action with status := status } := by
    apply actions_exec_updateAction
    exact present
  change Undone start (exec config _ writeEnv now).2 ∧
    Ledger.status? (exec config _ writeEnv now).2.ledger action.id =
        some status ∧
    ∀ id, id ≠ action.id →
      Ledger.status? (exec config _ writeEnv now).2.ledger id =
        now.ledger.status? id
  unfold Ledger.status?
  refine ⟨⟨undone.tools, ?_⟩, ?_, ?_⟩
  · intro id
    rw [after]
    by_cases same : id = action.id
    · subst same
      exact .inr ⟨action, status, stored, executed, written,
        Table.get?_set_self _ _ _⟩
    · rw [Table.get?_set_of_ne _ _ same]
      exact undone.actions id
  · rw [after, Table.get?_set_self]
    rfl
  · intro id different
    rw [after, Table.get?_set_of_ne _ _ different]

/-- The compensator of the action succeeds whatever admissible values the
environment supplies. -/
structure Recovers (good : Env → Prop) (tools : Registry) (action : TxnAction) :
    Prop where
  tried : ¬ Skipped action
  succeeds : ∀ env, good env → tools.compensate env.outside action = none

/-- What the flag returned after undoing some actions says. -/
structure Verdict (good : Env → Prop) (start now after : World)
    (actions : List TxnAction) (failed value : Bool) : Prop where
  undone : Undone start after
  keeps : value = false → ∀ id, now.ledger.status? id = some .compensated →
    after.ledger.status? id = some .compensated
  carried : value = false → failed = false
  recovered : value = false → ∀ action ∈ actions, action.status = .executed →
    after.ledger.status? action.id = some .compensated ∧
      ¬ Irrecoverable start.tools action
  succeeds : (∀ action ∈ actions, action.status = .executed →
    Recovers good start.tools action) → value = failed

/-- One more action at the front that was not executed. -/
theorem Verdict.cons_of_not_executed
    {start now after : World} {rest : List TxnAction}
    {failed value : Bool} (executed : action.status ≠ .executed)
    (verdict : Verdict good start now after rest failed value) :
    Verdict good start now after (action :: rest) failed value where
  undone := verdict.undone
  keeps := verdict.keeps
  carried := verdict.carried
  recovered := by
    intro passed other member ran
    rcases List.mem_cons.mp member with rfl | later
    · exact absurd ran executed
    · exact verdict.recovered passed other later ran
  succeeds := fun recovers => verdict.succeeds fun other member =>
    recovers other (List.mem_cons_of_mem action member)

/-- One more action at the front that failed. -/
theorem Verdict.cons_of_failed {start now middle after : World}
    {rest : List TxnAction} {failed value : Bool}
    (executed : action.status = .executed)
    (lost : ¬ Recovers good start.tools action)
    (verdict : Verdict good start middle after rest true value) :
    Verdict good start now after (action :: rest) failed value := by
  have reported : value ≠ false := fun passed =>
    nomatch verdict.carried passed
  exact
    { undone := verdict.undone
      keeps := fun passed => absurd passed reported
      carried := fun passed => absurd passed reported
      recovered := fun passed => absurd passed reported
      succeeds := fun recovers =>
        absurd (recovers action List.mem_cons_self executed) lost }

/-- One more action at the front that was undone. -/
theorem Verdict.cons_of_recovered {start now middle after : World}
    {rest : List TxnAction} {failed value : Bool}
    (recoverable : ¬ Irrecoverable start.tools action)
    (recorded : middle.ledger.status? action.id = some .compensated)
    (others : ∀ id, id ≠ action.id →
      middle.ledger.status? id = now.ledger.status? id)
    (verdict : Verdict good start middle after rest failed value) :
    Verdict good start now after (action :: rest) failed value where
  undone := verdict.undone
  keeps := by
    intro passed id before
    apply verdict.keeps passed
    by_cases same : id = action.id
    · rw [same, recorded]
    · rw [others id same, before]
  carried := verdict.carried
  recovered := by
    intro passed other member ran
    rcases List.mem_cons.mp member with rfl | later
    · exact ⟨verdict.keeps passed _ recorded, recoverable⟩
    · exact verdict.recovered passed other later ran
  succeeds := fun recovers => verdict.succeeds fun other member =>
    recovers other (List.mem_cons_of_mem action member)

open Gateway in
theorem compensateAll_ensures {actions : List TxnAction}
    (listed : ∀ action ∈ actions,
      start.ledger.actions.get? action.id = some action ∧
        action.orgID = orgID)
    (undone : Undone start now) (failed : Bool) :
    (compensateAll orgID txnID actions failed).Ensures (exec config) good
      (fun _ _ _ => True)
      (fun value after => Verdict good start now after actions failed value)
      now := by
  induction actions generalizing now failed with
  | nil =>
      exact ⟨undone, fun _ _ same => same, id, fun _ => by simp, fun _ => rfl⟩
  | cons action rest inductionHypothesis =>
      obtain ⟨stored, owned⟩ := listed action List.mem_cons_self
      have later := fun other member =>
        listed other (List.mem_cons_of_mem action member)
      rw [compensateAll]
      by_cases executed : action.status = .executed
      swap
      · rw [if_pos executed]
        exact (inductionHypothesis later undone failed).mono
          fun _ _ verdict => verdict.cons_of_not_executed executed
      rw [if_neg (by simpa using executed)]
      by_cases skipped : Skipped action
      · rw [if_pos (by simpa [Skipped] using skipped)]
        intro env _
        refine ⟨trivial, ?_⟩
        exact (inductionHypothesis later (undone.emit _ env) true).mono
          fun _ _ verdict => verdict.cons_of_failed executed
            fun recovers => recovers.tried skipped
      rw [if_neg (by simpa [Skipped] using skipped)]
      intro env admitted
      refine ⟨trivial, ?_⟩
      -- the registry has not changed since the start
      have outcome : (exec config (.compensate action) env now).1 =
          start.tools.compensate env.outside action := by
        rw [← undone.tools]
        rfl
      rw [outcome]
      cases replied : start.tools.compensate env.outside action with
      | some error =>
          refine (recordCompensation_ensures undone stored owned executed
            (.inr rfl)).bind ?_
          rintro _ middle ⟨undoneMiddle, _, _⟩ emitEnv _
          refine ⟨trivial, ?_⟩
          refine (inductionHypothesis later (undoneMiddle.emit _ emitEnv)
            true).mono fun _ _ verdict => verdict.cons_of_failed executed ?_
          intro recovers
          exact nomatch replied.symm.trans (recovers.succeeds env admitted)
      | none =>
          refine (recordCompensation_ensures undone stored owned executed
            (.inl rfl)).bind ?_
          rintro _ middle ⟨undoneMiddle, recorded, others⟩ emitEnv _
          refine ⟨trivial, ?_⟩
          refine (inductionHypothesis later (undoneMiddle.emit _ emitEnv)
            failed).mono fun _ _ verdict =>
              verdict.cons_of_recovered ?_ ?_ ?_
          · rintro (skips | missing)
            · exact skipped skips
            · simp [Registry.compensate, missing] at replied
          · exact recorded
          · exact others

/-- The actions of a transaction. -/
def Ledger.OfTxn (ledger : Ledger) (orgID txnID : String) (action : TxnAction) :
    Prop :=
  ledger.actions.get? action.id = some action ∧ action.orgID = orgID ∧
    action.transactionID = txnID

/-- What the returned status says. -/
structure TxnVerdict (good : Env → Prop) (orgID txnID : String)
    (start after : World) (failed : Bool) : Prop where
  undone : Undone start after
  recovered : failed = false → ∀ action, start.ledger.OfTxn orgID txnID action →
    action.status = .executed →
      after.ledger.status? action.id = some .compensated ∧
        ¬ Irrecoverable start.tools action
  succeeds : (∀ action, start.ledger.OfTxn orgID txnID action →
    action.status = .executed → Recovers good start.tools action) →
      failed = false

theorem undoListed_ensures_verdict {actions : List TxnAction}
    (listed : ∀ action, action ∈ actions ↔
      world.ledger.OfTxn orgID txnID action) :
    (undoListed orgID txnID actions).Ensures (exec config) good
      (fun _ _ _ => True)
      (fun value after => ∃ failed,
        value = .ok (if failed then .partiallyCompensated else .rolledBack) ∧
          TxnVerdict good orgID txnID world after failed) world := by
  intro beginEnv _
  refine ⟨trivial, fun startEnv _ => ⟨trivial, ?_⟩⟩
  have frame := world.ledger.setTxnStatus_frame beginEnv.now orgID txnID
    .compensating
  have begun : Undone world (exec config (.setTxnStatus orgID txnID
      .compensating) beginEnv world).2 :=
    (Undone.refl world).congr rfl frame.1
  have members : ∀ action ∈ actions.reverse,
      world.ledger.actions.get? action.id = some action ∧
        action.orgID = orgID := by
    intro action member
    have ofTxn := (listed action).mp (List.mem_reverse.mp member)
    exact ⟨ofTxn.1, ofTxn.2.1⟩
  refine (compensateAll_ensures members (begun.emit _ startEnv) false).bind ?_
  intro failed after verdict endEnv _
  refine ⟨trivial, failed, rfl, ?_⟩
  have ended : (exec config (.setTxnStatus orgID txnID
      (if failed then .partiallyCompensated else .rolledBack)) endEnv
        after).2.ledger.actions = after.ledger.actions :=
    (after.ledger.setTxnStatus_frame endEnv.now orgID txnID _).1
  have member : ∀ action, world.ledger.OfTxn orgID txnID action →
      action ∈ actions.reverse :=
    fun action ofTxn => List.mem_reverse.mpr ((listed action).mpr ofTxn)
  refine ⟨verdict.undone.congr rfl ended, ?_, ?_⟩
  · intro passed action ofTxn executed
    rw [Ledger.status?, ended]
    exact verdict.recovered passed action (member action ofTxn) executed
  · intro recovers
    apply verdict.succeeds
    intro action present
    exact recovers action ((listed action).mp (List.mem_reverse.mp present))

/-- In a keyed ledger the listed actions are those of the transaction. -/
theorem mem_actionsForTxn_iff {ledger : Ledger} (keyed : ledger.WellKeyed)
    (rank : String → Nat) (action : TxnAction) :
    action ∈ ledger.actionsForTxn rank orgID txnID ↔
      ledger.OfTxn orgID txnID action := by
  rw [Ledger.mem_actionsForTxn]
  constructor
  · rintro ⟨owned, id, present⟩
    have named := keyed.action id action present
    subst named
    exact ⟨present, owned⟩
  · rintro ⟨present, owned⟩
    exact ⟨owned, action.id, present⟩

/-- What a compensation returns, and what it says about the actions. -/
theorem compensation_verdict (config : Config) (good : Env → Prop)
    (keyed : world.ledger.WellKeyed)
    (found : world.ledger.getTxn orgID txnID = some txn)
    (envs : Nat → Env) (admitted : ∀ n, good (envs n)) :
    let run := compensation config orgID txnID envs world
    ∃ failed,
      run.1 = .ok (if failed then .partiallyCompensated else .rolledBack) ∧
        TxnVerdict good orgID txnID world run.2.1 failed := by
  have ensures : (Gateway.compensateTransaction orgID txnID).Ensures
      (exec config) good (fun _ _ _ => True)
      (fun value after => ∃ failed,
        value = .ok (if failed then .partiallyCompensated else .rolledBack) ∧
          TxnVerdict good orgID txnID world after failed) world :=
    ensures_compensateTransaction found (fun _ => trivial) (fun _ => trivial)
      fun rank => undoListed_ensures_verdict (mem_actionsForTxn_iff keyed rank)
  exact (ensures.complete () envs admitted).1

/-- A side effect of the action happened or may have happened, and it has not
been undone. -/
def Outstanding (status : ActionStatus) : Prop :=
  status = .executed ∨ status = .unknown ∨ status = .compensationFailed

/-- If the compensation claims a rollback, then no action of the transaction is
outstanding. -/
def RollsBackCleanly (config : Config) (orgID txnID : String)
    (envs : Nat → Env) (world : World) : Prop :=
  let run := compensation config orgID txnID envs world
  run.1 = .ok .rolledBack →
    ∀ action, run.2.1.ledger.OfTxn orgID txnID action →
      ¬ Outstanding action.status

/-- Some executed action can only make the compensation fail, or no action is
left over from a failed compensation or with an unknown outcome. -/
def Reversible (orgID txnID : String) (world : World) : Prop :=
  (∃ action, world.ledger.OfTxn orgID txnID action ∧
      action.status = .executed ∧ Irrecoverable world.tools action) ∨
    ∀ action, world.ledger.OfTxn orgID txnID action →
      action.status ≠ .unknown ∧ action.status ≠ .compensationFailed

theorem compensation_of_missing (envs : Nat → Env)
    (missing : world.ledger.getTxn orgID txnID = none) :
    (compensation config orgID txnID envs world).1 =
      .error "transaction not found" := by
  rw [compensation, compensateTransaction_eq, Prog.complete]
  have reply : (exec config (.getTxn orgID txnID) (envs 0) world).1 = none :=
    missing
  rw [reply]
  rfl

theorem Reversible.rollsBackCleanly (reversible : Reversible orgID txnID world)
    (keyed : world.ledger.WellKeyed)
    (found : world.ledger.getTxn orgID txnID = some txn) (envs : Nat → Env) :
    RollsBackCleanly config orgID txnID envs world := by
  intro claimed action ofTxn outstanding
  obtain ⟨failed, returned, verdict⟩ :=
    compensation_verdict config (fun _ => True) keyed found envs
      fun _ => trivial
  have passed : failed = false := by
    cases failed with
    | false => rfl
    | true => exact nomatch returned.symm.trans claimed
  rcases reversible with ⟨lost, lostOf, executed, irrecoverable⟩ | settled
  · exact (verdict.recovered passed lost lostOf executed).2 irrecoverable
  -- the final status of any action that was executed at the start
  have compensated : ∀ old, world.ledger.OfTxn orgID txnID old →
      old.status = .executed → old.id = action.id →
        action.status = .compensated := by
    intro old oldOf executed same
    have status := (verdict.recovered passed old oldOf executed).1
    rw [Ledger.status?, same, ofTxn.1] at status
    exact Option.some.inj status
  rcases verdict.undone.actions action.id with
    same | ⟨old, status, present, executed, _, now⟩
  · have startOf : world.ledger.OfTxn orgID txnID action :=
      ⟨same.symm.trans ofTxn.1, ofTxn.2⟩
    rcases outstanding with executed | unknown | failedBefore
    · exact nomatch executed.symm.trans (compensated action startOf executed rfl)
    · exact (settled action startOf).1 unknown
    · exact (settled action startOf).2 failedBefore
  · rw [ofTxn.1, Option.some.injEq] at now
    have named := keyed.action action.id old present
    have oldOf : world.ledger.OfTxn orgID txnID old := by
      refine ⟨named ▸ present, ?_⟩
      rw [now] at ofTxn
      exact ofTxn.2
    rw [Outstanding, compensated old oldOf executed named] at outstanding
    simp at outstanding

/-- An executed action that is not irrecoverable is undone if the compensators
that are not mocks succeed. -/
theorem recovers_of_not_irrecoverable {tools : Registry}
    (recoverable : ¬ Irrecoverable tools action) :
    Recovers (fun env => env.outside.compensated = none) tools action := by
  refine ⟨fun skipped => recoverable (.inl skipped), ?_⟩
  intro env succeeds
  rw [Registry.compensate]
  cases given : tools.compensators.get?
      (Registry.key action.tool action.action) with
  | none => exact absurd (.inr given) recoverable
  | some compensator =>
      cases compensator with
      | mock => rfl
      | custom name => exact succeeds

theorem reversible_of_rollsBackCleanly (keyed : world.ledger.WellKeyed)
    (found : world.ledger.getTxn orgID txnID = some txn)
    (cleanly : ∀ envs, RollsBackCleanly config orgID txnID envs world) :
    Reversible orgID txnID world := by
  by_contra irreversible
  rw [Reversible, not_or] at irreversible
  obtain ⟨recoverable, leftOver⟩ := irreversible
  push Not at recoverable leftOver
  obtain ⟨action, ofTxn, unsettled⟩ := leftOver
  -- a run in which all compensators succeed
  obtain ⟨failed, returned, verdict⟩ := compensation_verdict config
    (fun env => env.outside.compensated = none) keyed found
    (fun _ => Sample.env 0) fun _ => rfl
  have passed : failed = false := by
    apply verdict.succeeds
    intro other otherOf executed
    exact recovers_of_not_irrecoverable (recoverable other otherOf executed)
  rw [passed] at returned
  rcases verdict.undone.actions action.id with
    same | ⟨old, _, present, executed, _, _⟩
  · have still := cleanly _ returned action ⟨same.trans ofTxn.1, ofTxn.2⟩
    apply still
    by_cases unknown : action.status = .unknown
    · exact .inr (.inl unknown)
    · exact .inr (.inr (unsettled unknown))
  · rw [ofTxn.1, Option.some.injEq] at present
    rw [← present] at executed
    simp [executed] at unsettled

/-- For every transaction in every state that a sequential run reaches: a
rollback is claimed cleanly, whatever the compensators answer, exactly if the
transaction is reversible. -/
theorem rolls_back_cleanly_iff
    {arrivals : List Arrival} (initial : world.Initial)
    (fresh : FreshRun config world arrivals) (orgID txnID : String) :
    let reached := (sequential config world arrivals).state
    (∀ envs, RollsBackCleanly config orgID txnID envs reached) ↔
      ∀ txn, reached.ledger.getTxn orgID txnID = some txn →
        Reversible orgID txnID reached := by
  intro reached
  have keyed : reached.ledger.WellKeyed :=
    (sequential_coherent initial fresh).1.keyed
  constructor
  · intro cleanly txn found
    exact reversible_of_rollsBackCleanly keyed found cleanly
  · intro reversible envs
    cases found : reached.ledger.getTxn orgID txnID with
    | none =>
        intro claimed
        exact nomatch
          (compensation_of_missing envs found).symm.trans claimed
    | some txn =>
        exact (reversible txn found).rollsBackCleanly keyed found envs

namespace Sample

/-- A record is updated, and the transaction stays open. -/
def openUpdate : List Arrival :=
  inTurn [create, propose "id1" "crm" "update_record" none "k",
    decideApproval "id113" true, execute "id103"]

/-- After the lookup, for which no compensator exists, a first compensation
fails. -/
def triedLookup : List Arrival :=
  lookup ++ [⟨.compensateTransaction "acme" "id1", envs 3⟩]

end Sample

/-- The updated record is executed, and it is undone before a rollback is
claimed. -/
theorem rolls_back_cleanly_iff_update :
    (sequential Sample.config Sample.world
        Sample.openUpdate).state.ledger.status? "id103" = some .executed ∧
      ∀ envs, RollsBackCleanly Sample.config "acme" "id1" envs
        (sequential Sample.config Sample.world Sample.openUpdate).state := by
  refine ⟨by decide +kernel, (rolls_back_cleanly_iff Sample.initial
    (by decide +kernel) "acme" "id1").mpr ?_⟩
  intro txn _
  right
  have settled : ∀ action ∈ (sequential Sample.config Sample.world
      Sample.openUpdate).state.ledger.actions.values,
      action.status ≠ .unknown ∧ action.status ≠ .compensationFailed := by
    decide +kernel
  intro action ofTxn
  exact settled action (Table.mem_values.mpr ⟨action.id, ofTxn.1⟩)

/-- The second compensation skips the lookup, whose compensation has failed,
and claims a rollback. -/
theorem failed_compensation_is_rolled_back :
    FreshRun Sample.config Sample.world Sample.triedLookup ∧
      (sequential Sample.config Sample.world
        Sample.triedLookup).state.ledger.status? "id103" =
          some .compensationFailed ∧
      (Sample.undoAfter Sample.triedLookup).1.toOption = some .rolledBack ∧
      (Sample.undoAfter Sample.triedLookup).2.1.ledger.status? "id103" =
        some .compensationFailed := by
  decide +kernel

end SettleAgent
