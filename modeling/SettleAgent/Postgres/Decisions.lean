import SettleAgent.Postgres.Store

/-!
# Decisions over partial reads

`ProposeAction` decides on what it gets to see: the agent's grants, the policies
in force and the other actions of the transaction.  A read that fails leaves
something out.  An agent that seems to have no grants is not held to them, and
an organization that seems to have no active policy set is judged by the rules
outside of sets.  So a failed read can make the decision more permissive.

Every read of `ProposeAction` is a call of its own, so an outcome for each call
is an outcome for each read.
-/

namespace SettleAgent
namespace Postgres

open Interaction Gateway

/-- `ALLOW` is less strict than `REQUIRE_APPROVAL`, which is less strict than
`DENY`. -/
def strictness : PolicyEffect → Nat
  | .deny => 2
  | .requireApproval => 1
  | _ => 0

/-! ## What is decided on -/

/-- What a proposal gets to see of the tables. -/
structure Sight where
  grants : List AuthorityGrant
  legacy : List PolicyRule
  active : Option PolicySet
  siblings : List TxnAction

/-- What `ProposeAction` sees when its reads turn out like this. -/
def Tables.sight (setting : Setting) (tables : Tables) (reads : Reads)
    (orgID txnID agentID : String) : Sight where
  grants := (reads (.grantsForAgent orgID agentID)).list
    (tables.grantsForAgent setting orgID agentID)
  legacy := match (reads (.policies orgID)).one
      (tables.activePolicySet setting orgID) with
    | some set => set.rules
    | none => (reads (.policies orgID)).list
        (tables.legacyPolicies setting orgID)
  active := (reads (.activePolicySet orgID)).one
    (tables.activePolicySet setting orgID)
  siblings := (reads (.actionsForTxn orgID txnID)).list
    (tables.actionsForTxn setting orgID txnID)

/-- A stored proposal: its agent, its row and amount, and the readings of the
clock for the authority check and for the policies. -/
structure Proposed where
  agent : Agent
  row : TxnAction
  amount : Option Int
  checkedAt : Clock
  judgedAt : Clock

section Verdicts

variable (config : Config) (setting : Setting) (proposed : Proposed)

/-- The authority check on some grants. -/
def authorityOn (grants : List AuthorityGrant) : Authority :=
  checkAuthority config.runtime proposed.checkedAt grants proposed.agent
    proposed.row.tool proposed.row.action proposed.amount

/-- The decision of the policies, before the risk screen. -/
def policyOn (sight : Sight) : PolicyDecision :=
  policyDecision config.runtime proposed.judgedAt sight.legacy sight.active
    proposed.agent proposed.row

/-- Why the risk screen escalates an action with these siblings. -/
def escalation (agent : Agent) (action : TxnAction)
    (actions : List TxnAction) : Option String :=
  if config.jevEnabled then
    riskVerdict config.jevThreshold (Jev.screenRisk config.jevKey (setting.judge
      { tool := action.tool, name := action.action,
        amountCents := action.amountCents.getD 0,
        arguments := action.arguments,
        classes := action.classes.map ActionClass.text,
        agentName := agent.name, agentGroups := agent.groups,
        agentEnv := agent.environment,
        siblingCount := (siblings action actions).1,
        siblingTotal := (siblings action actions).2 }))
  else none

/-- A decision after a verdict of the risk screen. -/
def afterScreen (decision : PolicyDecision) (verdict : Option String) :
    PolicyDecision :=
  if permits decision.effect then
    match verdict with
    | some why => { decision with
        effect := .requireApproval
        reasonCode := .approvalRequired
        explanation := "risk screen: " ++ why }
    | none => decision
  else decision

/-- The decision of the policies and the risk screen. -/
def rulingOn (sight : Sight) : PolicyDecision :=
  afterScreen (policyOn config proposed sight)
    (escalation config setting proposed.agent proposed.row sight.siblings)

/-- The decision on a proposal. -/
def decisionOn (sight : Sight) : PolicyDecision :=
  let authority := authorityOn config proposed sight.grants
  if authority.hasGrants ∧ !authority.covered then
    authorityExceeded authority.why
  else rulingOn config setting proposed sight

end Verdicts

/-! ## What is recorded -/

/-- A row that was just inserted, at the end of the table. -/
structure Inserted (setting : Setting) (row : TxnAction) (tables : Tables) :
    Prop where
  last : ∃ rows, tables.actions = rows ++ [row] ∧
    ∀ other ∈ rows, other.id ≠ row.id
  orgID : setting.canonical row.orgID = some row.orgID
  id : setting.canonical row.id = some row.id
  arguments : setting.jsonb row.arguments = some row.arguments
  result : row.result = none

variable {config : Config} {setting : Setting} {reads : Reads} {state : State}
  {row : TxnAction} {tables : Tables} {orgID txnID agentID : String}

/-- The machine on which the reads turn out like this. -/
abbrev answer (config : Config) (setting : Setting) (reads : Reads) :
    (request : Call) → State → request.Resp × State :=
  fun request => serve config setting request reads

/-- An update of the row records the decision, unless the column does not admit
it. -/
theorem recorded_updateAction (inserted : Inserted setting row tables)
    (undecided : row.decision = none) (decision : PolicyDecision)
    (status : ActionStatus) :
    (tables.updateAction setting
        { row with decision := some decision, status := status }).recorded
          row.id =
      if admits decision.effect then some decision else none := by
  obtain ⟨rows, split, fresh⟩ := inserted.last
  have found : tables.actions.find? (fun other => other.id = row.id) =
      some row := by
    rw [split, List.find?_append, List.find?_eq_none.mpr]
    · simp
    · intro other member
      simpa using fresh other member
  simp only [Tables.updateAction, inserted.arguments, inserted.result, if_true,
    Option.all_some]
  by_cases admitted : admits decision.effect = true
  · rw [if_pos admitted, if_pos admitted]
    simp only [Tables.recorded]
    rw [find?_map_ite (by intro other; rfl), found]
    simp [Tables.named, inserted.orgID, inserted.id]
  · rw [if_neg admitted, if_neg admitted]
    simp only [Tables.recorded, found, Option.bind_some, undecided]

theorem recorded_setTxnStatus (now : Time) (status : TxnStatus) (id : String) :
    (tables.setTxnStatus setting orgID now txnID status).2.recorded id =
      tables.recorded id := by
  unfold Tables.setTxnStatus
  split
  · rfl
  split <;> rfl

/-- The local copy of the row, with a decision. -/
def Decided (row : TxnAction) (decision : PolicyDecision) (state : State) :
    Prop :=
  ∃ status, state.stored =
    some { row with decision := some decision, status := status }

theorem Decided.modifyStored {old : PolicyDecision}
    (decided : Decided row old state) (decision : PolicyDecision) :
    Decided row decision (state.modifyStored row.id fun action =>
      { action with decision := some decision }) := by
  obtain ⟨status, held⟩ := decided
  exact ⟨status, by simp [State.modifyStored, held]⟩

variable (inserted : Inserted setting row state.tables)
  (undecided : row.decision = none)

include inserted undecided in
/-- Writing a status to the local copy and the copy to the table records the
decision. -/
theorem recorded_store {decision : PolicyDecision}
    (decided : Decided row decision state) (status : ActionStatus) :
    (answer config setting reads (.updateStored row.id)
      (answer config setting reads (.setStoredStatus row.id status)
        state).2).2.tables.recorded row.id =
      if admits decision.effect then some decision else none := by
  obtain ⟨old, held⟩ := decided
  have written := recorded_updateAction inserted undecided decision status
  simp only [answer, serve, State.modifyStored, held, Option.map_some, if_true]
  exact written

include inserted undecided in
/-- The endings of a judged proposal record its decision. -/
theorem recorded_recordDecision {decision : PolicyDecision}
    (decided : Decided row decision state) (txn : Transaction)
    (amount : Option Int) :
    ((recordDecision txn orgID txnID agentID row amount decision).evaluate
        (answer config setting reads) state).2.tables.recorded row.id =
      if admits decision.effect then some decision else none := by
  unfold recordDecision
  split
  · exact recorded_store inserted undecided decided .denied
  · simp only [Prog.perform_bind, Prog.evaluate_call, Prog.pure_eq,
      Prog.evaluate_ret, serve_emit, serve_setTxnStatus]
    rw [recorded_setTxnStatus]
    exact recorded_store inserted undecided decided .awaitingApproval
  · exact recorded_store inserted undecided decided .allowed

/-! ## Evaluation -/

theorem evaluate_jevScreenRisk (agent : Agent) :
    (jevScreenRisk config orgID txnID agent row).evaluate
        (answer config setting reads) state =
      (escalation config setting agent row
        ((reads (.actionsForTxn orgID txnID)).list
          (state.tables.actionsForTxn setting orgID txnID)), state) := by
  unfold jevScreenRisk escalation
  split <;> rfl

/-- The risk screen gives its verdict, and the local copy follows it. -/
theorem evaluate_screened (agent : Agent) {decision : PolicyDecision}
    (decided : Decided row decision state) :
    let final := afterScreen decision (escalation config setting agent row
      ((reads (.actionsForTxn orgID txnID)).list
        (state.tables.actionsForTxn setting orgID txnID)))
    let done := (screened config orgID txnID agent row decision).evaluate
      (answer config setting reads) state
    done.1 = final ∧ done.2.tables = state.tables ∧
      Decided row final done.2 := by
  unfold screened afterScreen
  by_cases permitted : permits decision.effect = true
  · simp only [if_pos permitted, Prog.evaluate_bind, evaluate_jevScreenRisk]
    cases escalation config setting agent row
        ((reads (.actionsForTxn orgID txnID)).list
          (state.tables.actionsForTxn setting orgID txnID)) with
    | none => exact ⟨rfl, rfl, decided⟩
    | some why => exact ⟨rfl, rfl, decided.modifyStored _⟩
  · simp only [if_neg permitted]
    exact ⟨rfl, rfl, decided⟩

include inserted undecided in
/-- A covered proposal is recorded with the ruling on what is seen. -/
theorem recorded_judge (held : state.stored = some row)
    (txn : Transaction) (agent : Agent) (amount : Option Int)
    (checkedAt : Clock) :
    let ruling := rulingOn config setting
      ⟨agent, row, amount, checkedAt, setting.checks state.ticks⟩
      (state.tables.sight setting reads orgID txnID agentID)
    ((judge config txn agent orgID txnID agentID row amount).evaluate
        (answer config setting reads) state).2.tables.recorded row.id =
      if admits ruling.effect then some ruling else none := by
  intro ruling
  let decision := policyOn config
    ⟨agent, row, amount, checkedAt, setting.checks state.ticks⟩
    (state.tables.sight setting reads orgID txnID agentID)
  let judged : State := { state with
    stored := some { row with decision := some decision }
    ticks := state.ticks + 1 }
  have reaches : (judge config txn agent orgID txnID agentID row
      amount).evaluate (answer config setting reads) state =
      (screened config orgID txnID agent row decision >>= fun final =>
        recordDecision txn orgID txnID agentID row amount final).evaluate
          (answer config setting reads) judged := by
    have noted : judged = State.modifyStored
        { state with ticks := state.ticks + 1 } row.id fun action =>
          { action with decision := some decision } := by
      simp [State.modifyStored, held, judged]
    rw [noted]
    rfl
  have decided : Decided row decision judged := ⟨row.status, rfl⟩
  obtain ⟨final, kept, copied⟩ :=
    @evaluate_screened config setting reads judged row orgID txnID agent
      decision decided
  rw [reaches, Prog.evaluate_bind, final]
  refine recorded_recordDecision ?_ undecided copied txn amount
  rw [kept]
  exact inserted

include inserted undecided in
/-- A proposal that no grant covers is recorded as denied. -/
theorem recorded_denyUncovered (held : state.stored = some row) (why : String) :
    ((denyUncovered orgID txnID agentID row why).evaluate
        (answer config setting reads) state).2.tables.recorded row.id =
      some (authorityExceeded why) := by
  let noted := state.modifyStored row.id fun action =>
    { action with decision := some (authorityExceeded why) }
  have decided : Decided row (authorityExceeded why) noted :=
    ⟨row.status, by simp [noted, State.modifyStored, held]⟩
  exact @recorded_store config setting reads noted row inserted undecided
    (authorityExceeded why) decided .denied

include inserted undecided in
/-- A stored proposal is recorded with the decision on what is seen. -/
theorem recorded_authorize (held : state.stored = some row)
    (traceID : String) (txn : Transaction) (agent : Agent)
    (amount : Option Int) :
    let decision := decisionOn config setting
      ⟨agent, row, amount, setting.checks state.ticks,
        setting.checks (state.ticks + 1)⟩
      (state.tables.sight setting reads orgID txnID agentID)
    ((authorize config traceID txn agent orgID txnID agentID row
        amount).evaluate (answer config setting reads) state).2.tables.recorded
          row.id =
      if admits decision.effect then some decision else none := by
  intro decision
  let proposed : Proposed := ⟨agent, row, amount, setting.checks state.ticks,
    setting.checks (state.ticks + 1)⟩
  let sight := state.tables.sight setting reads orgID txnID agentID
  let later : State := { state with ticks := state.ticks + 1 }
  have judging := @recorded_judge config setting reads later row orgID txnID
    agentID inserted undecided held txn agent amount
    (setting.checks state.ticks)
  simp only [authorize, Prog.perform_bind, Prog.evaluate_call]
  change ((if (authorityOn config proposed sight.grants).hasGrants = true then
    _ else _ : Gate TxnAction).evaluate _ later).2.tables.recorded row.id = _
  by_cases granted : (authorityOn config proposed sight.grants).hasGrants = true
  · rw [if_pos granted]
    simp only [Prog.evaluate_call, serve_emit]
    by_cases covered : (authorityOn config proposed sight.grants).covered = true
    · have ruled : decision = rulingOn config setting proposed sight := by
        simp only [decision, decisionOn]
        exact if_neg fun both => by simp_all [sight, proposed]
      rw [ruled]
      refine Eq.trans ?_ judging
      exact congrArg (fun program : Gate TxnAction => (program.evaluate
        (answer config setting reads) later).2.tables.recorded row.id)
        (if_pos covered)
    · have denied : decision = authorityExceeded
          (authorityOn config proposed sight.grants).why := by
        simp only [decision, decisionOn]
        exact if_pos ⟨granted, by simpa using covered⟩
      rw [denied]
      refine Eq.trans ?_ (@recorded_denyUncovered config setting reads later
        row orgID txnID agentID inserted undecided held _)
      exact congrArg (fun program : Gate TxnAction => (program.evaluate
        (answer config setting reads) later).2.tables.recorded row.id)
        (if_neg covered)
  · rw [if_neg granted]
    have ruled : decision = rulingOn config setting proposed sight := by
      simp only [decision, decisionOn]
      exact if_neg fun both => granted both.1
    rw [ruled]
    exact judging

/-! ## Proposals -/

/-- The arguments of `ProposeAction`. -/
structure Draft where
  orgID : String
  txnID : String
  agentID : String
  tool : String
  action : String
  arguments : Object
  idemKey : String

namespace Draft

variable (config : Config) (setting : Setting) (reads : Reads) (state : State)
  (draft : Draft)

def propose (traceID : String) : Gate (Except String TxnAction) :=
  proposeAction config traceID draft.orgID draft.txnID draft.agentID draft.tool
    draft.action draft.arguments draft.idemKey

/-- The action that is handed to `AddAction`. -/
def record : TxnAction :=
  { orgID := draft.orgID, transactionID := draft.txnID, tool := draft.tool,
    action := draft.action, arguments := draft.arguments,
    classes := setting.tools.classes draft.tool draft.action,
    amountCents := extractCents draft.arguments,
    idempotencyKey := draft.idemKey, status := .proposed }

/-- The decision that a proposal records. -/
def recorded (traceID : String) : Option PolicyDecision :=
  ((draft.propose config traceID).evaluate (answer config setting reads)
    state).2.tables.recorded setting.uid

/-- The proposal gets as far as being decided: an open transaction and the agent
are found, and the row of the action is inserted and returned. -/
structure Stores (agent : Agent) (row : TxnAction) : Prop where
  txn : ∃ txn, (reads (.getTxn draft.orgID draft.txnID)).one
    (state.tables.getTxn setting draft.orgID draft.txnID) = some txn ∧
      txn.status.terminal = false
  agent : (reads (.getAgent draft.orgID draft.agentID)).one
    (state.tables.getAgent setting draft.orgID draft.agentID) = some agent
  row : (reads (.addAction (draft.record setting))).one
    (setting.insertable state.tables
      (setting.made config state (draft.record setting))) = some row

end Draft

theorem inserted_of_insertable {action : TxnAction}
    (fresh : ∀ other ∈ state.tables.actions, other.id ≠ setting.uid)
    (result : action.result = none) (undecided : action.decision = none)
    (insertable : setting.insertable state.tables
      (setting.made config state action) = some row) :
    row.id = setting.uid ∧ row.decision = none ∧
      Inserted setting row (state.tables.insertAction row) ∧
      row.tool = action.tool ∧ row.action = action.action := by
  unfold Setting.insertable at insertable
  split at insertable
  · cases insertable
  simp only [Setting.rowOf, Setting.made, Option.bind_eq_bind,
    Option.bind_eq_some_iff, Option.pure_def, Option.some.injEq] at insertable
  obtain ⟨orgID, named, txnID, _, arguments, stored, rfl⟩ := insertable
  exact ⟨rfl, undecided, ⟨⟨_, rfl, fresh⟩, setting.stable _ _ named,
    setting.drawn, setting.steady _ _ stored, result⟩, rfl, rfl⟩

theorem recorded_eq_none {id : String}
    (undecided : ∀ other ∈ tables.actions, other.id = id →
      other.decision = none) : tables.recorded id = none := by
  simp only [Tables.recorded, Option.bind_eq_none_iff]
  intro other found
  refine undecided other (List.mem_of_find?_eq_some found) ?_
  simpa using List.find?_some found

/-- An `INSERT` that returns no row is reported as a duplicate, and leaves the
action without a decision if it was applied. -/
theorem addAction_of_unreturned {access : Access} {action : TxnAction}
    (fresh : ∀ other ∈ state.tables.actions, other.id ≠ setting.uid)
    (result : action.result = none) (undecided : action.decision = none)
    (unreturned : access.one (setting.insertable state.tables
      (setting.made config state action)) = none) :
    (addAction config setting access action state).1.2 = true ∧
      (addAction config setting access action state).2.tables.recorded
        setting.uid = none := by
  have absent : state.tables.recorded setting.uid = none :=
    recorded_eq_none fun other member same =>
      absurd same (fresh other member)
  simp only [addAction, unreturned, true_and]
  split
  · rename_i row insertable
    split
    · apply recorded_eq_none
      intro other member same
      rcases List.mem_append.mp member with old | new
      · exact absurd same (fresh other old)
      · rw [List.mem_singleton.mp new]
        exact (inserted_of_insertable fresh result undecided insertable).2.1
    · exact absent
  · exact absent

/-- The proposal gets as far as `AddAction`. -/
structure Draft.Opens (setting : Setting) (reads : Reads) (state : State)
    (draft : Draft) (txn : Transaction) (agent : Agent) : Prop where
  readTxn : (reads (.getTxn draft.orgID draft.txnID)).one
    (state.tables.getTxn setting draft.orgID draft.txnID) = some txn
  unfinished : txn.status.terminal = false
  readAgent : (reads (.getAgent draft.orgID draft.agentID)).one
    (state.tables.getAgent setting draft.orgID draft.agentID) = some agent

section Proposals

variable {draft : Draft} {txn : Transaction} {agent : Agent}
  {traceID : String}

theorem propose_of_opens (opens : draft.Opens setting reads state txn agent) :
    let added := addAction config setting
      (reads (.addAction (draft.record setting))) (draft.record setting) state
    let decided := (authorize config traceID txn agent draft.orgID draft.txnID
      draft.agentID added.1.1 (extractCents draft.arguments)).evaluate
        (answer config setting reads) added.2
    (draft.propose config traceID).evaluate (answer config setting reads)
        state =
      if added.1.2 then (.ok added.1.1, added.2)
      else (.ok decided.1, decided.2) := by
  intro added decided
  simp only [Draft.propose, proposeAction, Prog.perform_bind,
    Prog.evaluate_call, serve_getTxn, opens.readTxn, opens.unfinished,
    Bool.false_eq_true, if_false, serve_getAgent, opens.readAgent, serve_classes,
    serve_addAction]
  change Prog.evaluate _ (if added.1.2 then _ else _) added.2 = _
  split
  · rfl
  · exact Prog.evaluate_bind _ _ _ _

theorem propose_of_not_opens
    (shut : ∀ txn agent, ¬ draft.Opens setting reads state txn agent) :
    ∃ message, (draft.propose config traceID).evaluate
      (answer config setting reads) state = (.error message, state) := by
  simp only [Draft.propose, proposeAction, Prog.perform_bind,
    Prog.evaluate_call, serve_getTxn]
  cases readTxn : (reads (.getTxn draft.orgID draft.txnID)).one
      (state.tables.getTxn setting draft.orgID draft.txnID) with
  | none => exact ⟨_, rfl⟩
  | some txn =>
      cases terminal : txn.status.terminal with
      | true =>
          simp only [terminal, if_true]
          exact ⟨_, rfl⟩
      | false =>
          simp only [terminal, Bool.false_eq_true, if_false,
            Prog.evaluate_call, serve_getAgent]
          cases readAgent : (reads (.getAgent draft.orgID draft.agentID)).one
              (state.tables.getAgent setting draft.orgID draft.agentID) with
          | none => exact ⟨_, rfl⟩
          | some agent =>
              exact absurd ⟨readTxn, terminal, readAgent⟩ (shut txn agent)

section Fresh

variable (fresh : ∀ other ∈ state.tables.actions, other.id ≠ setting.uid)

include fresh

/-- The decision that a stored proposal records. -/
theorem recorded_of_stores
    (stores : draft.Stores config setting reads state agent row)
    (traceID : String) :
    let decision := decisionOn config setting
      ⟨agent, row, extractCents draft.arguments,
        setting.checks (state.ticks + 1), setting.checks (state.ticks + 2)⟩
      ((state.tables.insertAction row).sight setting reads draft.orgID
        draft.txnID draft.agentID)
    draft.recorded config setting reads state traceID =
      if admits decision.effect then some decision else none := by
  intro decision
  obtain ⟨txn, readTxn, unfinished⟩ := stores.txn
  have insertable := (Access.one_eq_some.mp stores.row).2
  obtain ⟨named, undecided, inserted, _⟩ :=
    inserted_of_insertable fresh rfl rfl insertable
  have added : addAction config setting
      (reads (.addAction (draft.record setting))) (draft.record setting) state =
      ((row, false),
        { tables := state.tables.insertAction row
          stored := some row
          ticks := state.ticks + 1 }) := by
    simp only [addAction, stores.row]
  rw [Draft.recorded, propose_of_opens ⟨readTxn, unfinished, stores.agent⟩,
    added, ← named]
  exact recorded_authorize inserted undecided rfl traceID txn agent _

/-- A proposal that does not get as far records nothing. -/
theorem recorded_of_not_stores
    (fails : ∀ agent row,
      ¬ draft.Stores config setting reads state agent row)
    (traceID : String) :
    draft.recorded config setting reads state traceID = none := by
  have absent : state.tables.recorded setting.uid = none :=
    recorded_eq_none fun other member same =>
      absurd same (fresh other member)
  by_cases opens : ∃ txn agent, draft.Opens setting reads state txn agent
  · obtain ⟨txn, agent, opens⟩ := opens
    have unreturned : (reads (.addAction (draft.record setting))).one
        (setting.insertable state.tables (setting.made config state
          (draft.record setting))) = none := by
      apply Option.eq_none_iff_forall_ne_some.mpr
      intro row returned
      exact fails agent row
        ⟨⟨txn, opens.readTxn, opens.unfinished⟩, opens.readAgent, returned⟩
    obtain ⟨duplicate, unrecorded⟩ :=
      addAction_of_unreturned fresh rfl rfl unreturned
    rw [Draft.recorded, propose_of_opens opens, if_pos duplicate]
    exact unrecorded
  · have shut : ∀ txn agent, ¬ draft.Opens setting reads state txn agent :=
      fun txn agent opened => opens ⟨txn, agent, opened⟩
    obtain ⟨message, refused⟩ := propose_of_not_opens shut
    rw [Draft.recorded, refused]
    exact absent

end Fresh

end Proposals

/-! ## Comparison -/

theorem strictness_le (effect : PolicyEffect) : strictness effect ≤ 2 := by
  cases effect <;> simp [strictness]

section Compare

variable {proposed : Proposed} {seen full : Sight}

/-- An authority check finds a cover among the grants, or no grants. -/
theorem authorityOn_covered {grants : List AuthorityGrant} :
    (authorityOn config proposed grants).covered = true ↔
      grants = [] ∨ ∃ grant ∈ grants, Admits config.runtime proposed.checkedAt
        grant proposed.row.tool proposed.row.action proposed.amount
        proposed.agent.environment :=
  checkAuthority_covered

/-- Grants that are left out cover nothing. -/
theorem authorityOn_covered_of_sublist
    {grants others : List AuthorityGrant} (part : grants.Sublist others)
    (some : grants ≠ [])
    (covered : (authorityOn config proposed grants).covered = true) :
    (authorityOn config proposed others).covered = true := by
  rw [authorityOn_covered] at covered ⊢
  rcases covered with none | ⟨grant, member, admits⟩
  · exact absurd none some
  · exact .inr ⟨grant, part.mem member, admits⟩

theorem decisionOn_of_uncovered (some : seen.grants ≠ [])
    (uncovered : (authorityOn config proposed seen.grants).covered = false) :
    (decisionOn config setting proposed seen).effect = .deny := by
  simp only [decisionOn]
  rw [if_pos ⟨checkAuthority_hasGrants some, by rw [uncovered]; rfl⟩]
  rfl

theorem decisionOn_of_covered
    (covered : (authorityOn config proposed seen.grants).covered = true) :
    decisionOn config setting proposed seen =
      rulingOn config setting proposed seen := by
  simp only [decisionOn]
  exact if_neg fun both => by simp [covered] at both

/-- The version of the policies has no influence on the effect. -/
theorem evaluate_effect (clock : Clock) (rules : List PolicyRule)
    (first second : Int) (agent : Agent) (action : TxnAction) :
    (Policies.evaluate config.runtime clock rules first agent action).effect =
      (Policies.evaluate config.runtime clock rules second agent
        action).effect := by
  simp only [Policies.evaluate]
  split <;> rfl

/-- The rules that are in force. -/
def Sight.rules (sight : Sight) : List PolicyRule :=
  match sight.active with
  | some set => set.rules
  | none => sight.legacy

/-- The same rules and siblings lead to the same effect.  The siblings matter to
the risk screen only. -/
theorem rulingOn_effect_congr (rules : seen.rules = full.rules)
    (siblings : config.jevEnabled = true → seen.siblings = full.siblings) :
    (rulingOn config setting proposed seen).effect =
      (rulingOn config setting proposed full).effect := by
  have same : (policyOn config proposed seen).effect =
      (policyOn config proposed full).effect := by
    simp only [policyOn, policyDecision]
    change (Policies.evaluate _ _ seen.rules _ _ _).effect =
      (Policies.evaluate _ _ full.rules _ _ _).effect
    rw [rules]
    exact evaluate_effect _ _ _ _ _ _
  have escalated : escalation config setting proposed.agent proposed.row
      seen.siblings = escalation config setting proposed.agent proposed.row
        full.siblings := by
    by_cases enabled : config.jevEnabled = true
    · rw [siblings enabled]
    · simp only [escalation, enabled, Bool.false_eq_true, if_false]
  simp only [rulingOn, afterScreen, same, escalated]
  split
  · split <;> first | rfl | exact same
  · exact same

/-- Grants that are left out loosen nothing, unless none is seen and an action
is let through that they do not cover. -/
theorem decisionOn_no_looser (part : seen.grants.Sublist full.grants)
    (grants : seen.grants ≠ [] ∨
      (authorityOn config proposed full.grants).covered = true)
    (ruled : (rulingOn config setting proposed seen).effect =
      (rulingOn config setting proposed full).effect) :
    strictness (decisionOn config setting proposed full).effect ≤
      strictness (decisionOn config setting proposed seen).effect := by
  by_cases held : (authorityOn config proposed seen.grants).covered = true
  · have covered : (authorityOn config proposed full.grants).covered = true := by
      rcases grants with seenSome | covered
      · exact authorityOn_covered_of_sublist part seenSome held
      · exact covered
    rw [decisionOn_of_covered covered, decisionOn_of_covered held, ruled]
  · have seenSome : seen.grants ≠ [] := fun none =>
      held (authorityOn_covered.mpr (.inl none))
    rw [decisionOn_of_uncovered seenSome (by simpa using held)]
    exact strictness_le _

end Compare

/-- When nothing fails, all grants are seen. -/
theorem grants_sight_healthy :
    (tables.sight setting Reads.healthy orgID txnID agentID).grants =
      tables.grantsForAgent setting orgID agentID :=
  list_healthy _ _

/-- One of the two reads of the active policy set succeeds. -/
def RulesSeen (reads : Reads) (orgID : String) : Prop :=
  (reads (.policies orgID)).row = true ∨
    (reads (.activePolicySet orgID)).row = true

theorem rules_sight {set : PolicySet}
    (active : tables.activePolicySet setting orgID = some set)
    (rulesSeen : RulesSeen reads orgID) :
    (tables.sight setting reads orgID txnID agentID).rules = set.rules := by
  simp only [Sight.rules, Tables.sight, active, Access.one]
  by_cases second : (reads (.activePolicySet orgID)).row = true
  · rw [if_pos second]
  · rw [if_neg second, if_pos (rulesSeen.resolve_right second)]

/-- The reads tell what matters: some grant is read, or the grants of the table
cover the action; one of the two reads of the active policy set succeeds; and
the risk screen is off, or all actions of the transaction are read. -/
structure Draft.Informed (config : Config) (setting : Setting) (reads : Reads)
    (tables : Tables) (draft : Draft) (agent : Agent) (clock : Clock) :
    Prop where
  grants : (reads (.grantsForAgent draft.orgID draft.agentID)).list
      (tables.grantsForAgent setting draft.orgID draft.agentID) ≠ [] ∨
    ∃ grant ∈ tables.grantsForAgent setting draft.orgID draft.agentID,
      Admits config.runtime clock grant draft.tool draft.action
        (extractCents draft.arguments) agent.environment
  rules : RulesSeen reads draft.orgID
  siblings : config.jevEnabled = true →
    (reads (.actionsForTxn draft.orgID draft.txnID)).list
        (tables.actionsForTxn setting draft.orgID draft.txnID) =
      tables.actionsForTxn setting draft.orgID draft.txnID

/-- A proposal that is decided in spite of failing reads is decided when nothing
fails. -/
theorem Draft.Stores.healthy {draft : Draft} {agent : Agent}
    (stores : draft.Stores config setting reads state agent row) :
    draft.Stores config setting Reads.healthy state agent row := by
  obtain ⟨txn, readTxn, unfinished⟩ := stores.txn
  exact ⟨⟨txn, (Access.one_eq_some.mp readTxn).2, unfinished⟩,
    (Access.one_eq_some.mp stores.agent).2,
    (Access.one_eq_some.mp stores.row).2⟩

/-- Whatever reads fail, `ProposeAction` records a decision that is no less
strict than the one it records when nothing fails, if the reads tell what
matters. -/
theorem recorded_no_looser {draft : Draft} {set : PolicySet}
    (fresh : ∀ other ∈ state.tables.actions, other.id ≠ setting.uid)
    (active : state.tables.activePolicySet setting draft.orgID = some set)
    (traceID : String) (reads : Reads)
    (informed : ∀ agent row,
      draft.Stores config setting reads state agent row →
        draft.Informed config setting reads (state.tables.insertAction row)
          agent (setting.checks (state.ticks + 1))) :
    ∀ loose ∈ draft.recorded config setting reads state traceID,
      ∀ strict ∈ draft.recorded config setting Reads.healthy state traceID,
        strictness strict.effect ≤ strictness loose.effect := by
  by_cases decided : ∃ agent row,
      draft.Stores config setting reads state agent row
  swap
  · rw [recorded_of_not_stores fresh fun agent row stores =>
      decided ⟨agent, row, stores⟩]
    intro loose absent
    cases absent
  obtain ⟨agent, row, stores⟩ := decided
  obtain ⟨grants, rulesSeen, siblings⟩ := informed agent row stores
  rw [recorded_of_stores fresh stores, recorded_of_stores fresh stores.healthy]
  simp only [Option.mem_def, Option.ite_none_right_eq_some, Option.some.injEq]
  rintro _ ⟨_, rfl⟩ _ ⟨_, rfl⟩
  have activeAfter : (state.tables.insertAction row).activePolicySet setting
      draft.orgID = some set := active
  obtain ⟨_, _, _, tool, action⟩ := inserted_of_insertable fresh rfl rfl
    (Access.one_eq_some.mp stores.row).2
  apply decisionOn_no_looser
  · rw [grants_sight_healthy]
    exact Access.list_sublist _ _
  · refine grants.imp_right ?_
    rintro ⟨grant, member, admits⟩
    rw [authorityOn_covered, grants_sight_healthy]
    refine .inr ⟨grant, member, ?_⟩
    simp only [tool, action]
    exact admits
  · apply rulingOn_effect_congr
    · rw [rules_sight activeAfter rulesSeen, rules_sight activeAfter (.inl rfl)]
    · intro enabled
      exact (siblings enabled).trans (list_healthy _ _).symm

end Postgres

namespace Sample

/-- The agent's only grant is for reading customers. -/
def readGrant : AuthorityGrant where
  id := "id3"
  orgID := "acme"
  principalID := "owner"
  agentID := "bot"
  scope := ["crm.lookup_customer"]
  constraints := {}
  environment := ""
  issuedBy := "ops"
  expiresAt := none
  bootstrap := false

/-- The active policy set allows everything. -/
def lenient : PolicySet where
  id := "id4"
  orgID := "acme"
  version := 1
  rules :=
    [{ id := "id5", name := "all", priority := 1, ruleMatch := {}
       effect := .allow, explanation := "" }]
  status := .active
  createdBy := "ops"
  createdAt := 0

def governed : Postgres.State where
  tables := { tables with grants := [readGrant], policySets := [lenient] }
  stored := none
  ticks := 0

/-- A refund, which no grant covers. -/
def refundDraft : Postgres.Draft where
  orgID := "acme"
  txnID := "id1"
  agentID := "bot"
  tool := "stripe"
  action := "refund"
  arguments := none
  idemKey := "k"

/-- The query for the other actions of the transaction fails. -/
def withoutSiblings : Postgres.Reads := unread fun request =>
  match request with
  | .actionsForTxn _ _ => true
  | _ => false

/-- The query for the grants fails. -/
def withoutGrants : Postgres.Reads := unread fun request =>
  match request with
  | .grantsForAgent _ _ => true
  | _ => false

end Sample

open Postgres in
/-- The query for the siblings fails, and the refund is still denied. -/
theorem recorded_no_looser_siblings :
    Sample.governed.tables.grants ≠ [] ∧
      ∀ loose ∈ Sample.refundDraft.recorded Sample.config Sample.setting
        Sample.withoutSiblings Sample.governed "",
      ∀ strict ∈ Sample.refundDraft.recorded Sample.config Sample.setting
        Reads.healthy Sample.governed "",
        strictness strict.effect ≤ strictness loose.effect := by
  refine ⟨by simp [Sample.governed], recorded_no_looser
    (by intro other member; cases member) (by rfl) "" Sample.withoutSiblings ?_⟩
  have read : (Sample.withoutSiblings (.grantsForAgent "acme" "bot")).list
      (Sample.governed.tables.grantsForAgent Sample.setting "acme" "bot") ≠
        [] := by
    decide +kernel
  exact fun _ _ _ => ⟨.inl read, .inl rfl, fun enabled => by cases enabled⟩

open Postgres in
/-- The query for the grants fails, and a refund is allowed that no grant
covers. -/
theorem refund_is_allowed_without_grants :
    Sample.governed.tables.grantsForAgent Sample.setting "acme" "bot" ≠ [] ∧
      (Sample.governed.tables.activePolicySet Sample.setting "acme").isSome ∧
      (Sample.refundDraft.recorded Sample.config Sample.setting Reads.healthy
        Sample.governed "").map PolicyDecision.effect = some .deny ∧
      (Sample.refundDraft.recorded Sample.config Sample.setting
        Sample.withoutGrants Sample.governed "").map PolicyDecision.effect =
          some .allow := by
  decide +kernel

end SettleAgent
