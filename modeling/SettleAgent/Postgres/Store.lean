import SettleAgent.Postgres.Receipts
import SettleAgent.Protocol.Operations
import Mathlib.Data.Prod.Lex
import Mathlib.Data.String.Basic

/-!
# The Postgres store

`PGStore` as it serves `ProposeAction` and `Commit`: the tables they use, the
queries on them, and what the store makes of a read that fails.  The methods
report no errors of reads.  A row that does not arrive or does not scan is
missing from the reply, and a query that fails has no rows.

Rows are kept as the records that they scan to.  Writes succeed unless a
constraint of the schema rejects them.
-/

namespace SettleAgent
namespace Postgres

/-! ## Reads -/

/-- How the statements of one call turn out. -/
structure Access where
  /-- The row of a `QueryRow` arrives and scans. -/
  row : Bool
  /-- So does the row of the second `QueryRow` of the call. -/
  again : Bool
  /-- An `INSERT` whose row is not returned was applied all the same. -/
  applied : Bool
  /-- The `Query` of the call succeeds. -/
  answered : Bool
  /-- Which rows of the `Query` arrive and scan. -/
  scans : Nat → Bool

/-- How the calls turn out. -/
abbrev Reads := Call → Access

/-- Nothing fails. -/
def Reads.healthy : Reads := fun _ =>
  { row := true, again := true, applied := true, answered := true,
    scans := fun _ => true }

/-- The loop over `rows.Next`, which skips a row that does not scan. -/
def scanned {α : Type} : (Nat → Bool) → List α → List α
  | _, [] => []
  | scans, row :: rows =>
      if scans 0 then row :: scanned (fun n => scans (n + 1)) rows
      else scanned (fun n => scans (n + 1)) rows

namespace Access

variable {α : Type} (access : Access)

/-- The reply to a `Query`. -/
def list (rows : List α) : List α :=
  if access.answered then scanned access.scans rows else []

/-- The reply to a `QueryRow`. -/
def one (found : Option α) : Option α :=
  if access.row then found else none

end Access

theorem scanned_sublist {α : Type} (scans : Nat → Bool) (rows : List α) :
    (scanned scans rows).Sublist rows := by
  induction rows generalizing scans with
  | nil => exact List.Sublist.refl _
  | cons row rows inductionHypothesis =>
      rw [scanned]
      split
      · exact (inductionHypothesis _).cons_cons row
      · exact (inductionHypothesis _).cons row

theorem scanned_all {α : Type} (rows : List α) :
    scanned (fun _ => true) rows = rows := by
  induction rows with
  | nil => rfl
  | cons row rows inductionHypothesis =>
      rw [scanned, if_pos rfl, inductionHypothesis]

theorem Access.list_sublist {α : Type} (access : Access) (rows : List α) :
    (access.list rows).Sublist rows := by
  unfold Access.list
  split
  · exact scanned_sublist _ rows
  · exact List.nil_sublist rows

theorem Access.one_eq_some {α : Type} {access : Access} {found : Option α}
    {value : α} :
    access.one found = some value ↔
      access.row = true ∧ found = some value := by
  unfold Access.one
  split <;> simp_all

@[simp] theorem list_healthy {α : Type} (request : Call) (rows : List α) :
    (Reads.healthy request).list rows = rows :=
  scanned_all rows

/-! ## Tables -/

/-- The order of `ORDER BY seq, created_at, action_id`.  No code assigns `seq`,
and times are stored in microseconds. -/
def proposedAt (action : TxnAction) : Lex (Int × String) :=
  toLex (truncate action.createdAt, action.id)

/-- The rows that a query for actions selects, in its order. -/
def selectActions (owned : TxnAction → Bool) (rows : List TxnAction) :
    List TxnAction :=
  (rows.filter owned).insertionSort
    fun first second => proposedAt first ≤ proposedAt second

/-- The tables.  A rule outside of policy sets comes with its organization. -/
structure Tables where
  agents : List Agent
  transactions : List Transaction
  actions : List TxnAction
  grants : List AuthorityGrant
  policySets : List PolicySet
  policyRules : List (String × PolicyRule)

/-- What the store and the calls that do not go to it depend on. -/
structure Setting where
  canonical : UUIDs
  /-- The canonical text of an identifier is canonical. -/
  stable : ∀ text id, canonical text = some id → canonical id = some id
  /-- A JSON value as it is read back, unless `jsonb` rejects it. -/
  jsonb : Object → Option Object
  /-- What was read back is stored as it is. -/
  steady : ∀ value read, jsonb value = some read → jsonb read = some read
  /-- The identifier that `uuid.NewString` draws. -/
  uid : String
  drawn : canonical uid = some uid
  /-- The readings of the clock. -/
  clock : Nat → Time
  /-- The readings for the checks of grants and rules. -/
  checks : Nat → Clock
  tools : Registry
  judge : RiskQuestion → Jev.Reply
  /-- The replies to all other calls. -/
  other : (request : Call) → request.Resp

/-- The tables, the record behind the pointer that `AddAction` returned, and the
number of readings of the clock so far.  The record is the caller's own. -/
structure State where
  tables : Tables
  stored : Option TxnAction
  ticks : Nat

/-- A row is found after an update as before it, if what is searched for is not
what changes. -/
theorem find?_map_ite {α : Type} {rows : List α} {wanted chosen : α → Bool}
    {change : α → α} (kept : ∀ row, wanted (change row) = wanted row) :
    (rows.map fun row => if chosen row then change row else row).find? wanted =
      (rows.find? wanted).map fun row =>
        if chosen row then change row else row := by
  rw [List.find?_map]
  congr 2
  funext row
  simp only [Function.comp_apply]
  split
  · exact kept row
  · rfl

namespace Tables

variable (setting : Setting) (tables : Tables) (orgID : String)

/-- Whether a text names the identifier of a column. -/
def named (text id : String) : Bool :=
  setting.canonical text = some id

def getTxn (id : String) : Option Transaction :=
  tables.transactions.find? fun row =>
    named setting orgID row.orgID && named setting id row.id

def getAgent (agentID : String) : Option Agent :=
  tables.agents.find? fun row =>
    named setting orgID row.orgID && named setting agentID row.id

def actionsForTxn (txnID : String) : List TxnAction :=
  selectActions (fun row => named setting orgID row.orgID &&
    named setting txnID row.transactionID) tables.actions

def grantsForAgent (agentID : String) : List AuthorityGrant :=
  (tables.grants.filter fun row =>
    named setting orgID row.orgID &&
      named setting agentID row.agentID).insertionSort
    fun first second => first.issuedAt ≤ second.issuedAt

def activePolicySet : Option PolicySet :=
  tables.policySets.find? fun row =>
    named setting orgID row.orgID && decide (row.status = .active)

def legacyPolicies : List PolicyRule :=
  ((tables.policyRules.filter fun row => named setting orgID row.1).map
    Prod.snd).insertionSort fun first second => first.priority ≤ second.priority

/-- The action that holds an idempotency key. -/
def actionByKey (txnID key : String) : Option TxnAction :=
  tables.actions.find? fun row =>
    named setting orgID row.orgID && named setting txnID row.transactionID &&
      decide (row.idempotencyKey = key)

/-- The decision that is recorded for an action. -/
def recorded (id : String) : Option PolicyDecision :=
  (tables.actions.find? fun row => row.id = id).bind TxnAction.decision

/-- `UPDATE transactions`.  The column admits the statuses of the table of
transitions only. -/
def setTxnStatus (now : Time) (id : String) (status : TxnStatus) :
    Except String Unit × Tables :=
  if status = .unset then
    (.error ("ERROR: new row for relation \"transactions\" violates check " ++
      "constraint \"transactions_state_check\" (SQLSTATE 23514)"),
      tables)
  else if (tables.getTxn setting orgID id).isSome then
    (.ok (), { tables with
      transactions := tables.transactions.map fun row =>
        if named setting orgID row.orgID && named setting id row.id then
          { row with status := status, updatedAt := now }
        else row })
  else (.error "transaction not found", tables)

end Tables

/-- The effects that the column `policy_result` admits. -/
def admits : PolicyEffect → Bool
  | .other _ => false
  | _ => true

/-- The row of an action, as it is read back. -/
def Setting.rowOf (setting : Setting) (action : TxnAction) :
    Option TxnAction := do
  let orgID ← setting.canonical action.orgID
  let transactionID ← setting.canonical action.transactionID
  let arguments ← setting.jsonb action.arguments
  return { action with
    orgID := orgID
    transactionID := transactionID
    arguments := arguments
    createdAt := truncate action.createdAt }

/-- `UPDATE actions`, unless `policy_result`, `args` or `result` is rejected. -/
def Tables.updateAction (setting : Setting) (tables : Tables)
    (action : TxnAction) : Tables :=
  match setting.jsonb action.arguments,
    (if action.result = none then some none else setting.jsonb action.result)
  with
  | some arguments, some result =>
      if action.decision.all fun decision => admits decision.effect then
        { tables with
          actions := tables.actions.map fun row =>
            if Tables.named setting action.orgID row.orgID &&
                Tables.named setting action.id row.id then
              { row with
                tool := action.tool
                action := action.action
                arguments := arguments
                classes := action.classes
                amountCents := action.amountCents
                decision := action.decision
                status := action.status
                result := result
                error := action.error
                latencyMS := action.latencyMS }
            else row }
      else tables
  | _, _ => tables

/-- The action that `AddAction` inserts. -/
def Setting.made (config : Config) (setting : Setting) (state : State)
    (action : TxnAction) : TxnAction :=
  { action with
    id := setting.uid
    createdAt := setting.clock state.ticks
    status := if action.status = .unset then .proposed else action.status
    argumentsHash := config.runtime.hashing.canonical action.arguments }

/-- The row that the `INSERT` adds, unless the key is taken. -/
def Setting.insertable (setting : Setting) (tables : Tables)
    (made : TxnAction) : Option TxnAction :=
  if (tables.actionByKey setting made.orgID made.transactionID
      made.idempotencyKey).isSome then none
  else setting.rowOf made

def Tables.insertAction (tables : Tables) (row : TxnAction) : Tables :=
  { tables with actions := tables.actions ++ [row] }

/-- `PGStore.AddAction`.  Whenever the `INSERT` returns no row, the action under
the key is looked up and reported as a duplicate. -/
def addAction (config : Config) (setting : Setting) (access : Access)
    (action : TxnAction) (state : State) : (TxnAction × Bool) × State :=
  let made := setting.made config state action
  let inserted := setting.insertable state.tables made
  match access.one inserted with
  | some row =>
      ((row, false),
        { tables := state.tables.insertAction row
          stored := some row
          ticks := state.ticks + 1 })
  | none =>
      let tables := match inserted with
        | some row =>
            if access.applied then state.tables.insertAction row
            else state.tables
        | none => state.tables
      let existing := if access.again then
        tables.actionByKey setting made.orgID made.transactionID
          made.idempotencyKey else none
      ((existing.getD made, true),
        { tables := tables, stored := none, ticks := state.ticks + 1 })

/-- A write through the pointer that `AddAction` returned. -/
def State.modifyStored (state : State) (id : String)
    (change : TxnAction → TxnAction) : State :=
  { state with stored := state.stored.map fun action =>
      if action.id = id then change action else action }

/-- The meaning of the gateway's calls over the Postgres store. -/
def serve (config : Config) (setting : Setting) (request : Call)
    (reads : Reads) (state : State) : request.Resp × State :=
  let access := reads request
  let tables := state.tables
  match request with
  | .getTxn orgID id => (access.one (tables.getTxn setting orgID id), state)
  | .setTxnStatus orgID id status =>
      let done := tables.setTxnStatus setting orgID
        (setting.clock state.ticks) id status
      (done.1, { state with tables := done.2, ticks := state.ticks + 1 })
  | .getAgent orgID agentID =>
      (access.one (tables.getAgent setting orgID agentID), state)
  | .addAction action => addAction config setting access action state
  | .setStoredDecision id decision =>
      ((), state.modifyStored id fun action =>
        { action with decision := some decision })
  | .setStoredStatus id status =>
      ((), state.modifyStored id fun action => { action with status := status })
  | .updateStored id =>
      match state.stored with
      | some action =>
          if action.id = id then
            ((), { state with tables := tables.updateAction setting action })
          else ((), state)
      | none => ((), state)
  | .updateAction action =>
      ((), { state with tables := tables.updateAction setting action })
  | .actionsForTxn orgID txnID =>
      (access.list (tables.actionsForTxn setting orgID txnID), state)
  | .grantsForAgent orgID agentID =>
      (access.list (tables.grantsForAgent setting orgID agentID), state)
  | .policies orgID =>
      (match access.one (tables.activePolicySet setting orgID) with
        | some set => set.rules
        | none => access.list (tables.legacyPolicies setting orgID), state)
  | .activePolicySet orgID =>
      (access.one (tables.activePolicySet setting orgID), state)
  | .classes tool action => (setting.tools.classes tool action, state)
  | .timeNow =>
      (setting.clock state.ticks, { state with ticks := state.ticks + 1 })
  | .clock =>
      (setting.checks state.ticks, { state with ticks := state.ticks + 1 })
  | .screenRisk question =>
      (Jev.screenRisk config.jevKey (setting.judge question), state)
  | request => (setting.other request, state)

section Serve

variable {config : Config} {setting : Setting} {reads : Reads} {state : State}
  {orgID id : String}

@[simp] theorem serve_getTxn :
    serve config setting (.getTxn orgID id) reads state =
      ((reads (.getTxn orgID id)).one (state.tables.getTxn setting orgID id),
        state) := rfl

@[simp] theorem serve_getAgent :
    serve config setting (.getAgent orgID id) reads state =
      ((reads (.getAgent orgID id)).one
        (state.tables.getAgent setting orgID id), state) := rfl

@[simp] theorem serve_classes (tool action : String) :
    serve config setting (.classes tool action) reads state =
      (setting.tools.classes tool action, state) := rfl

@[simp] theorem serve_addAction (action : TxnAction) :
    serve config setting (.addAction action) reads state =
      addAction config setting (reads (.addAction action)) action state := rfl

@[simp] theorem serve_actionsForTxn :
    serve config setting (.actionsForTxn orgID id) reads state =
      ((reads (.actionsForTxn orgID id)).list
        (state.tables.actionsForTxn setting orgID id), state) := rfl

@[simp] theorem serve_setTxnStatus (status : TxnStatus) :
    serve config setting (.setTxnStatus orgID id status) reads state =
      let done := state.tables.setTxnStatus setting orgID
        (setting.clock state.ticks) id status
      (done.1, { state with tables := done.2, ticks := state.ticks + 1 }) :=
  rfl

@[simp] theorem serve_emit (event : AuditEvent) :
    serve config setting (.emit event) reads state =
      (setting.other (.emit event), state) := rfl

end Serve

end Postgres

namespace Sample

/-- Every text is an identifier, and every value is stored. -/
def setting : Postgres.Setting where
  canonical := some
  stable := fun _ _ _ => rfl
  jsonb := some
  steady := fun _ _ _ => rfl
  uid := "id9"
  drawn := rfl
  clock := fun reading => reading
  checks := fun reading => .still reading
  tools := Registry.default
  judge := fun _ => .noResponse "timeout"
  other := fun request => (exec Sample.config request (env 0) Sample.world).1

/-- A transaction that is being executed, by the sample agent. -/
def tables : Postgres.Tables where
  agents := [agent]
  transactions :=
    [{ id := "id1", orgID := "acme", agentID := "bot", principalID := "owner"
       sessionID := "", objective := "", status := .executing }]
  actions := []
  grants := []
  policySets := []
  policyRules := []

/-- The queries of these calls fail. -/
def unread (fails : Call → Bool) : Postgres.Reads := fun request =>
  { Postgres.Reads.healthy request with answered := !fails request }

end Sample
end SettleAgent
