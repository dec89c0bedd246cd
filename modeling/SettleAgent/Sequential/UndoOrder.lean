import SettleAgent.Postgres.Store
import SettleAgent.Sequential.Compensation

/-!
# The order of compensation

`CompensateTransaction` undoes the executed actions in the reverse of the order
in which the store lists the actions of the transaction.  The memory store
lists them in the order of a map iteration, and Postgres in the order in which
they were proposed.  Neither has to be the order in which they were executed,
which is the order of their receipts.
-/

namespace SettleAgent

open Interaction

/-- The registry has a compensator for the action. -/
def Registry.compensates (tools : Registry) (action : TxnAction) : Bool :=
  (tools.compensators.get? (Registry.key action.tool action.action)).isSome

/-- The action whose compensator a call runs. -/
def Call.compensated (tools : Registry) : Call → Option TxnAction
  | .compensate action =>
      if tools.compensates action then some action else none
  | _ => none

/-- A compensation runs the compensator of the action. -/
def undoable (tools : Registry) (action : TxnAction) : Bool :=
  action.status = .executed &&
    !(isIrreversible action && !isCompensable action) &&
    tools.compensates action

variable {config : Config} {orgID txnID : String}

open Gateway in
theorem recordCompensation_shows (tools : Registry) (action : TxnAction)
    (status : ActionStatus) :
    (recordCompensation orgID action status).Shows (Call.compensated tools)
      [] := by
  refine Prog.shows_call_of_none rfl fun found => ?_
  cases found with
  | none => rfl
  | some current => exact Prog.shows_call_of_none rfl fun _ => rfl

open Gateway in
/-- Whatever the compensators answer, each undoable action is tried in turn. -/
theorem compensateAll_shows (tools : Registry) (actions : List TxnAction)
    (failed : Bool) :
    (compensateAll orgID txnID actions failed).Shows (Call.compensated tools)
      (actions.filter (undoable tools)) := by
  induction actions generalizing failed with
  | nil => rfl
  | cons action rest inductionHypothesis =>
      rw [compensateAll]
      by_cases executed : action.status = .executed
      swap
      · rw [if_pos executed,
          List.filter_cons_of_neg (by simp [undoable, executed])]
        exact inductionHypothesis failed
      rw [if_neg (by simpa using executed)]
      by_cases skipped : isIrreversible action = true ∧
          (!isCompensable action) = true
      · rw [if_pos skipped, List.filter_cons_of_neg
          (by simp [undoable, executed, skipped.1, skipped.2])]
        exact Prog.shows_call_of_none rfl fun _ => inductionHypothesis true
      rw [if_neg skipped]
      have tried : undoable tools action = tools.compensates action := by
        revert skipped
        rw [undoable, executed]
        cases isIrreversible action <;> cases isCompensable action <;> simp
      have shown : (action :: rest).filter (undoable tools) =
          (Call.compensated tools (.compensate action)).toList ++
            rest.filter (undoable tools) := by
        rw [List.filter_cons, tried, Call.compensated]
        cases tools.compensates action <;> rfl
      rw [shown]
      refine Prog.shows_call fun outcome => ?_
      cases outcome with
      | none =>
          exact (recordCompensation_shows tools action .compensated).bind
            fun _ => Prog.shows_call_of_none rfl
              fun _ => inductionHypothesis failed
      | some error =>
          exact (recordCompensation_shows tools action
            .compensationFailed).bind fun _ => Prog.shows_call_of_none rfl
              fun _ => inductionHypothesis true

theorem undoListed_shows (tools : Registry) (actions : List TxnAction) :
    (undoListed orgID txnID actions).Shows (Call.compensated tools)
      (actions.reverse.filter (undoable tools)) := by
  refine Prog.shows_call_of_none rfl fun _ =>
    Prog.shows_call_of_none rfl fun _ => ?_
  rw [← List.append_nil (actions.reverse.filter (undoable tools))]
  exact (compensateAll_shows tools actions.reverse false).bind fun _ =>
    Prog.shows_call_of_none rfl fun _ => rfl

/-! ## Two stores -/

/-- What a store makes of the calls. -/
abbrev Machine := (request : Call) → Env → World → request.Resp × World

/-- The actions whose compensators a compensation runs, in this order. -/
def invoked (store : Machine) (orgID txnID : String) (envs : Nat → Env)
    (world : World) : List TxnAction :=
  ((Gateway.compensateTransaction orgID txnID).complete store () envs
    world).2.2.filterMap fun mark => mark.request.compensated mark.before.tools

/-- The call registers a tool. -/
def Call.Registers : Call → Prop
  | .register _ _ _ _ => True
  | _ => False

/-- Only a registration changes the registry. -/
def Machine.KeepsTools (store : Machine) : Prop :=
  ∀ request env world, ¬ request.Registers →
    (store request env world).2.tools = world.tools

theorem keepsTools_exec (config : Config) :
    Machine.KeepsTools (exec config) := by
  intro request env world other
  apply tools_exec
  rintro tool action classes handler rfl
  exact other trivial

theorem undoListed_keepsTools (actions : List TxnAction) :
    (undoListed orgID txnID actions).AllCalls
      fun request => ¬ request.Registers := by
  simp only [undoListed, Prog.perform_bind, Prog.allCalls_call]
  refine ⟨id, fun _ => ⟨id, fun _ => ?_⟩⟩
  refine Prog.AllCalls.bind ((compensateAll_undoes actions.reverse false).mono
    ?_) fun failed => ⟨id, fun _ => trivial⟩
  intro request undoes registers
  cases request with
  | register => exact undoes
  | _ => exact registers

theorem compensateTransaction_keepsTools (orgID txnID : String) :
    (Gateway.compensateTransaction orgID txnID).AllCalls
      fun request => ¬ request.Registers := by
  rw [compensateTransaction_eq]
  refine ⟨id, fun found => ?_⟩
  cases found with
  | none => trivial
  | some txn => exact ⟨id, undoListed_keepsTools⟩

/-- The undoable actions are tried in the reverse of the order in which the
store lists them. -/
theorem invoked_eq {store : Machine} {envs : Nat → Env} {world : World}
    {txn : Transaction} {actions : List TxnAction}
    (keeps : store.KeepsTools)
    (found : (store (.getTxn orgID txnID) (envs 0) world).1 = some txn)
    (listed : (store (.actionsForTxn orgID txnID) (envs 1)
      (store (.getTxn orgID txnID) (envs 0) world).2).1 = actions) :
    invoked store orgID txnID envs world =
      (actions.filter (undoable world.tools)).reverse := by
  have steady : (Gateway.compensateTransaction orgID txnID).Ensures store
      (fun _ => True) (fun now _ _ => now.tools = world.tools)
      (fun _ after => after.tools = world.tools) world := by
    refine (compensateTransaction_keepsTools orgID txnID).ensures ?_ rfl
    intro now request env same other
    exact ⟨same, (keeps request env now other).trans same⟩
  have fixed : invoked store orgID txnID envs world =
      ((Gateway.compensateTransaction orgID txnID).complete store () envs
        world).2.2.filterMap fun mark =>
          mark.request.compensated world.tools := by
    refine List.filterMap_congr fun mark present => ?_
    rw [(steady.complete () envs fun _ => trivial).2 mark present]
  rw [fixed, compensateTransaction_eq, Prog.complete, ← List.filter_reverse]
  simp only [found, Prog.complete, listed, List.filterMap_cons,
    Call.compensated]
  exact (undoListed_shows world.tools actions).complete () _ _

namespace Postgres

/-- The query of `Tables.actionsForTxn`, on identifiers as they are stored. -/
def actionsForTxn (ledger : Ledger) (orgID txnID : String) : List TxnAction :=
  selectActions (fun action => action.orgID = orgID ∧
    action.transactionID = txnID) ledger.actions.values

/-- The Postgres store holds the same tables and differs in the order in which
it lists the actions of a transaction.  It answers here, and reads do not
fail. -/
def exec (config : Config) : Machine
  | .actionsForTxn orgID txnID, _, world =>
      (actionsForTxn world.ledger orgID txnID, world)
  | request, env, world => SettleAgent.exec config request env world

/-- `serve` lists the same actions when its rows are those of the ledger and
nothing fails. -/
theorem serve_eq_exec {config : Config} {setting : Setting} {state : State}
    {world : World} (env : Env) {orgID txnID : String}
    (rows : state.tables.actions = world.ledger.actions.values)
    (org : setting.canonical orgID = some orgID)
    (txn : setting.canonical txnID = some txnID) :
    (serve config setting (.actionsForTxn orgID txnID) Reads.healthy state).1 =
      (exec config (.actionsForTxn orgID txnID) env world).1 := by
  rw [serve_actionsForTxn, list_healthy]
  simp only [exec, actionsForTxn, Tables.actionsForTxn, rows, Tables.named, org,
    txn, Option.some.injEq, Bool.decide_and, eq_comm]

theorem keepsTools_exec (config : Config) :
    Machine.KeepsTools (exec config) := by
  intro request env world other
  cases request with
  | actionsForTxn orgID txnID => rfl
  | _ => exact SettleAgent.keepsTools_exec config _ env world other

end Postgres

/-- Position of the first receipt of an action. -/
def Ledger.executedAt (ledger : Ledger) (action : TxnAction) : Nat :=
  ledger.receiptsList.findIdx fun receipt => receipt.actionID = action.id

/-- Later executed actions come first. -/
def Ledger.InReverse (ledger : Ledger) (actions : List TxnAction) : Prop :=
  actions.Pairwise fun first second =>
    ledger.executedAt second < ledger.executedAt first

instance (ledger : Ledger) (actions : List TxnAction) :
    Decidable (ledger.InReverse actions) :=
  inferInstanceAs (Decidable (actions.Pairwise _))

/-- The undoable actions of a transaction. -/
def World.Undoable (world : World) (orgID txnID : String)
    (action : TxnAction) : Prop :=
  world.ledger.OfTxn orgID txnID action ∧ undoable world.tools action = true

/-- Two members of a list stand in both of two pairwise relations, in one order
or the other. -/
theorem pairwise_both {α : Type} {first second : α → α → Prop} {items : List α}
    (one : items.Pairwise first) (two : items.Pairwise second) {left right : α}
    (leftMember : left ∈ items) (rightMember : right ∈ items)
    (different : left ≠ right) :
    (first left right ∧ second left right) ∨
      (first right left ∧ second right left) := by
  have either : items.Pairwise fun earlier later =>
      (first earlier later ∧ second earlier later) ∨
        (first later earlier ∧ second later earlier) :=
    (one.and two).imp Or.inl
  have symmetric : Std.Symm fun earlier later =>
      (first earlier later ∧ second earlier later) ∨
        (first later earlier ∧ second later earlier) := ⟨fun _ _ => Or.symm⟩
  exact either.forall leftMember rightMember different

variable {world : World} {txn : Transaction}

theorem inReverse_reverse (ledger : Ledger) (actions : List TxnAction) :
    ledger.InReverse actions.reverse ↔
      actions.Pairwise fun first second =>
        ledger.executedAt first < ledger.executedAt second :=
  List.pairwise_reverse

section Memory

variable (keyed : world.ledger.WellKeyed)

include keyed

theorem mem_filter_actionsForTxn (rank : String → Nat) (action : TxnAction) :
    action ∈ (world.ledger.actionsForTxn rank orgID txnID).filter
        (undoable world.tools) ↔
      world.Undoable orgID txnID action := by
  rw [List.mem_filter, mem_actionsForTxn_iff keyed]
  rfl

/-- Whichever of two undoable actions the map iteration visits first is taken
for the one that was executed first. -/
theorem executedAt_lt_of_rank {rank : String → Nat} {first second : TxnAction}
    (ordered : ((world.ledger.actionsForTxn rank orgID txnID).filter
      (undoable world.tools)).Pairwise fun first second =>
        world.ledger.executedAt first < world.ledger.executedAt second)
    (undoesFirst : world.Undoable orgID txnID first)
    (undoesSecond : world.Undoable orgID txnID second)
    (ahead : rank first.id < rank second.id) :
    world.ledger.executedAt first < world.ledger.executedAt second := by
  have ranked := (Table.pairwise_select TxnAction.id keyed.action rank
    fun action => action.orgID = orgID ∧ action.transactionID = txnID).filter
      (undoable world.tools)
  have different : first ≠ second := by
    rintro rfl
    omega
  rcases pairwise_both ranked ordered
    ((mem_filter_actionsForTxn keyed rank first).mpr undoesFirst)
    ((mem_filter_actionsForTxn keyed rank second).mpr undoesSecond)
    different with ⟨_, executed⟩ | ⟨behind, _⟩
  · exact executed
  · omega

/-- Every iteration order is right exactly if at most one action is
undoable. -/
theorem memory_inReverse_iff
    (found : world.ledger.getTxn orgID txnID = some txn) :
    (∀ envs, world.ledger.InReverse
        (invoked (exec config) orgID txnID envs world)) ↔
      ∀ first second, world.Undoable orgID txnID first →
        world.Undoable orgID txnID second → first = second := by
  have order : ∀ envs, world.ledger.InReverse
      (invoked (exec config) orgID txnID envs world) ↔
      ((world.ledger.actionsForTxn (envs 1).rank orgID txnID).filter
        (undoable world.tools)).Pairwise fun first second =>
          world.ledger.executedAt first < world.ledger.executedAt second := by
    intro envs
    rw [invoked_eq (keepsTools_exec config) found rfl]
    exact inReverse_reverse world.ledger _
  constructor
  · intro reverse first second undoesFirst undoesSecond
    by_contra different
    have names : first.id ≠ second.id := by
      intro same
      have stored := undoesSecond.1.1
      rw [← same, undoesFirst.1.1] at stored
      exact different (Option.some.inj stored)
    -- put one of the two ahead of all others
    have ahead : ∀ earlier later : TxnAction, earlier.id ≠ later.id →
        world.Undoable orgID txnID earlier →
        world.Undoable orgID txnID later →
          world.ledger.executedAt earlier < world.ledger.executedAt later := by
      intro earlier later distinct undoesEarlier undoesLater
      let rank (id : String) : Nat := if id = earlier.id then 0 else 1
      have ordered := (order fun _ => { Sample.env 0 with rank := rank }).mp
        (reverse _)
      apply executedAt_lt_of_rank keyed ordered undoesEarlier undoesLater
      simp [rank, Ne.symm distinct]
    have forth := ahead first second names undoesFirst undoesSecond
    have back := ahead second first (Ne.symm names) undoesSecond undoesFirst
    omega
  · intro single envs
    rw [order]
    have distinct := (List.pairwise_map.mp (Table.nodup_map_select TxnAction.id
      keyed.action (envs 1).rank fun action =>
        action.orgID = orgID ∧ action.transactionID = txnID)).filter
          (undoable world.tools)
    refine distinct.imp_of_mem ?_
    intro first second firstMember secondMember different
    have same := single first second
      ((mem_filter_actionsForTxn keyed _ first).mp firstMember)
      ((mem_filter_actionsForTxn keyed _ second).mp secondMember)
    exact absurd (congrArg TxnAction.id same) different

end Memory

section Postgres

variable (keyed : world.ledger.WellKeyed)

include keyed

theorem mem_postgres_actionsForTxn (action : TxnAction) :
    action ∈ (Postgres.actionsForTxn world.ledger orgID txnID).filter
        (undoable world.tools) ↔
      world.Undoable orgID txnID action := by
  rw [List.mem_filter, Postgres.actionsForTxn, Postgres.selectActions,
    List.mem_insertionSort, List.mem_filter, Table.mem_values]
  constructor
  · rintro ⟨⟨⟨id, present⟩, owned⟩, undoes⟩
    have named := keyed.action id action present
    subst named
    exact ⟨⟨present, by simpa using owned⟩, undoes⟩
  · rintro ⟨⟨present, owned⟩, undoes⟩
    exact ⟨⟨⟨action.id, present⟩, by simpa using owned⟩, undoes⟩

/-- Postgres lists actions strictly by time of proposal and identifier. -/
theorem pairwise_postgres_actionsForTxn (orgID txnID : String) :
    (Postgres.actionsForTxn world.ledger orgID txnID).Pairwise
      fun first second =>
        Postgres.proposedAt first < Postgres.proposedAt second := by
  have trans : IsTrans TxnAction fun first second =>
      Postgres.proposedAt first ≤ Postgres.proposedAt second :=
    ⟨fun _ _ _ => le_trans⟩
  have total : Std.Total fun first second : TxnAction =>
      Postgres.proposedAt first ≤ Postgres.proposedAt second :=
    ⟨fun _ _ => le_total _ _⟩
  let owned := world.ledger.actions.values.filter fun action =>
    action.orgID = orgID ∧ action.transactionID = txnID
  have sorted := List.pairwise_insertionSort
    (fun first second => Postgres.proposedAt first ≤ Postgres.proposedAt second)
    owned
  have names : (owned.map TxnAction.id).Nodup :=
    (Table.nodup_map_values TxnAction.id keyed.action).sublist
      (List.filter_sublist.map TxnAction.id)
  have listed := (List.perm_insertionSort (fun first second =>
    Postgres.proposedAt first ≤ Postgres.proposedAt second) owned).map
      TxnAction.id
  have distinct := List.pairwise_map.mp (listed.nodup_iff.mpr names)
  refine (sorted.and distinct).imp ?_
  rintro first second ⟨ordered, different⟩
  refine lt_of_le_of_ne ordered fun same => different ?_
  exact congrArg (fun key => (ofLex key).2) same

/-- The listed order is right exactly if the undoable actions were executed in
the order in which they were proposed. -/
theorem postgres_inReverse_iff
    (found : world.ledger.getTxn orgID txnID = some txn) :
    (∀ envs, world.ledger.InReverse
        (invoked (Postgres.exec config) orgID txnID envs world)) ↔
      ∀ first second, world.Undoable orgID txnID first →
        world.Undoable orgID txnID second →
        Postgres.proposedAt first < Postgres.proposedAt second →
          world.ledger.executedAt first < world.ledger.executedAt second := by
  have order : ∀ envs, world.ledger.InReverse
      (invoked (Postgres.exec config) orgID txnID envs world) ↔
      ((Postgres.actionsForTxn world.ledger orgID txnID).filter
        (undoable world.tools)).Pairwise fun first second =>
          world.ledger.executedAt first < world.ledger.executedAt second := by
    intro envs
    rw [invoked_eq (Postgres.keepsTools_exec config) found rfl]
    exact inReverse_reverse world.ledger _
  have listed :=
    (pairwise_postgres_actionsForTxn keyed orgID txnID).filter
      (undoable world.tools)
  constructor
  · intro reverse first second undoesFirst undoesSecond proposed
    have ordered := (order fun _ => Sample.env 0).mp (reverse _)
    have different : first ≠ second := by
      rintro rfl
      exact lt_irrefl _ proposed
    rcases pairwise_both listed ordered
      ((mem_postgres_actionsForTxn keyed first).mpr undoesFirst)
      ((mem_postgres_actionsForTxn keyed second).mpr undoesSecond)
      different with ⟨_, executed⟩ | ⟨behind, _⟩
    · exact executed
    · exact absurd behind (lt_asymm proposed)
  · intro agrees envs
    rw [order]
    refine listed.imp_of_mem ?_
    intro first second firstMember secondMember proposed
    exact agrees first second
      ((mem_postgres_actionsForTxn keyed first).mp firstMember)
      ((mem_postgres_actionsForTxn keyed second).mp secondMember) proposed

/-- For every transaction in every history of either store: the memory store
undoes the executed actions in the reverse of their execution, in whatever
order it iterates over its map, exactly if there is at most one to undo.
Postgres does so exactly if they were executed in the order in which they were
proposed. -/
theorem undone_in_reverse_iff (config : Config) (orgID txnID : String)
    (found : world.ledger.getTxn orgID txnID = some txn) :
    ((∀ envs, world.ledger.InReverse
        (invoked (exec config) orgID txnID envs world)) ↔
      ∀ first second, world.Undoable orgID txnID first →
        world.Undoable orgID txnID second → first = second) ∧
    ((∀ envs, world.ledger.InReverse
        (invoked (Postgres.exec config) orgID txnID envs world)) ↔
      ∀ first second, world.Undoable orgID txnID first →
        world.Undoable orgID txnID second →
        Postgres.proposedAt first < Postgres.proposedAt second →
          world.ledger.executedAt first < world.ledger.executedAt second) :=
  ⟨memory_inReverse_iff keyed found, postgres_inReverse_iff keyed found⟩

end Postgres

namespace Sample

/-- Two records are updated, in the order in which they were proposed. -/
def inOrder : List Arrival :=
  inTurn [create, propose "id1" "crm" "update_record" none "first",
    propose "id1" "crm" "update_record" none "second",
    decideApproval "id113" true, decideApproval "id213" true,
    execute "id103", execute "id203"]

/-- The record proposed last is updated first. -/
def outOfOrder : List Arrival :=
  inTurn [create, propose "id1" "crm" "update_record" none "first",
    propose "id1" "crm" "update_record" none "second",
    decideApproval "id113" true, decideApproval "id213" true,
    execute "id203", execute "id103"]

/-- The records of which a store runs the compensators after a run. -/
def invokedAfter (store : Machine) (arrivals : List Arrival) :
    List TxnAction :=
  invoked store "acme" "id1" (envs arrivals.length)
    (sequential Sample.config Sample.world arrivals).state

end Sample

/-- Two records updated in the order of their proposal are undone in reverse by
Postgres. -/
theorem undone_in_reverse_iff_inOrder :
    let reached := (sequential Sample.config Sample.world Sample.inOrder).state
    reached.ledger.status? "id103" = some .executed ∧
      reached.ledger.status? "id203" = some .executed ∧
      ∀ envs, reached.ledger.InReverse
        (invoked (Postgres.exec Sample.config) "acme" "id1" envs reached) := by
  intro reached
  refine ⟨by decide +kernel, by decide +kernel, ?_⟩
  have keyed : reached.ledger.WellKeyed :=
    wellKeyed_sequential Sample.initial
  obtain ⟨txn, found⟩ : ∃ txn,
      reached.ledger.getTxn "acme" "id1" = some txn :=
    Option.isSome_iff_exists.mp (by decide +kernel)
  apply (undone_in_reverse_iff keyed Sample.config "acme" "id1" found).2.mpr
  have agrees : ∀ first ∈ reached.ledger.actions.values,
      ∀ second ∈ reached.ledger.actions.values,
        Postgres.proposedAt first < Postgres.proposedAt second →
          reached.ledger.executedAt first <
            reached.ledger.executedAt second := by
    decide +kernel
  intro first second undoesFirst undoesSecond
  exact agrees first (Table.mem_values.mpr ⟨_, undoesFirst.1.1⟩)
    second (Table.mem_values.mpr ⟨_, undoesSecond.1.1⟩)

/-- Both stores undo first the record that was updated first. -/
theorem undone_in_order_of_execution :
    let reached := (sequential Sample.config Sample.world
      Sample.outOfOrder).state
    FreshRun Sample.config Sample.world Sample.outOfOrder ∧
      reached.ledger.receiptsList.map Receipt.actionID = ["id203", "id103"] ∧
      ((Sample.invokedAfter (exec Sample.config) Sample.outOfOrder).map
        TxnAction.id = ["id203", "id103"]) ∧
      ((Sample.invokedAfter (Postgres.exec Sample.config)
        Sample.outOfOrder).map TxnAction.id = ["id203", "id103"]) ∧
      ¬ reached.ledger.InReverse
        (Sample.invokedAfter (exec Sample.config) Sample.outOfOrder) ∧
      ¬ reached.ledger.InReverse
        (Sample.invokedAfter (Postgres.exec Sample.config)
          Sample.outOfOrder) := by
  decide +kernel

end SettleAgent
