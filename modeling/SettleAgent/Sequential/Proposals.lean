import SettleAgent.Interaction.Ensures
import SettleAgent.Sequential.Runs

/-!
# What a proposal leaves behind

A proposal that is carried to its end records one action, decided by the
agent's grants and by the policies as they were when the proposal arrived.  The
risk screen may turn an allowed action into one that needs approval, and
changes nothing else about the decision.
-/

namespace SettleAgent

open Interaction Gateway

/-- What an agent proposes. -/
structure Proposal where
  orgID : String
  agentID : String
  tool : String
  action : String
  arguments : Object

/-- The action as it is judged: what no rule and no grant looks at is left
empty. -/
def Proposal.record (proposal : Proposal) (tools : Registry) : TxnAction :=
  { orgID := proposal.orgID, transactionID := "", tool := proposal.tool,
    action := proposal.action, arguments := proposal.arguments,
    classes := tools.classes proposal.tool proposal.action,
    amountCents := extractCents proposal.arguments, idempotencyKey := "",
    status := .proposed }

/-- The proposal that an operation makes: directly, over HTTP, or as the call
of an upstream tool. -/
def Operation.proposal : Operation → Option Proposal
  | .proposeAction _ orgID _ agentID tool action arguments _ =>
      some ⟨orgID, agentID, tool, action, arguments⟩
  | .http request =>
      match request.route with
      | .proposeAction body =>
          some ⟨request.orgOf, body.value.agentID, body.value.tool,
            body.value.action, body.value.arguments⟩
      | .mcpCall body =>
          some ⟨request.orgOf, body.value.agentID,
            Integrations.toolName body.value.server, body.value.tool,
            body.value.arguments⟩
      | _ => none
  | _ => none

/-- An operation that means to propose makes a proposal. -/
theorem Operation.exists_proposal {operation : Operation}
    {orgID txnID key : String}
    (proposes : operation.intent = .propose orgID txnID key) :
    ∃ proposal, operation.proposal = some proposal := by
  cases operation with
  | proposeAction => exact ⟨_, rfl⟩
  | http request =>
      obtain ⟨caller, traceID, route⟩ := request
      simp only [Operation.intent, Api.Request.intent] at proposes
      cases route with
      | proposeAction body => exact ⟨_, rfl⟩
      | mcpCall body => exact ⟨_, rfl⟩
      | _ => split at proposes <;> simp_all
  | _ => cases proposes

/-- The registry that the proposal of an operation meets: the call of an
upstream tool registers the tool first. -/
def Operation.registry (operation : Operation) (world : World) : Registry :=
  match operation with
  | .http request =>
      match request.route with
      | .mcpCall body =>
          match world.store.getMCPServer request.orgOf body.value.server with
          | some (server, token) =>
              world.tools.register (Integrations.toolName body.value.server)
                body.value.tool (Api.classesFor server.classes body.value.tool)
                (some (.mcp server.url token body.value.tool)) none
          | none => world.tools
      | _ => world.tools
  | _ => world.tools

/-! ## The clock -/

def Call.readsClock : Call → Bool
  | .clock => true
  | _ => false

/-- The clocks of the checks among these calls. -/
def clocksOf {Tag : Type} (marks : List (Mark Tag Call Env World)) :
    List Clock :=
  (marks.filter fun mark => mark.request.readsClock).map fun mark =>
    mark.env.clock

section Clock

variable {Tag : Type}

theorem clocksOf_cons {mark : Mark Tag Call Env World}
    {marks : List (Mark Tag Call Env World)}
    (silent : mark.request.readsClock = false) :
    clocksOf (mark :: marks) = clocksOf marks := by
  simp [clocksOf, silent]

/-- Where every check meets the same clock, so do these. -/
theorem clocksOf_steady {α : Type} {config : Config} {clock : Clock}
    {envs : Nat → Env} (fixed : ∀ n, (envs n).clock = clock)
    (program : Gate α) (caller : Tag) (world : World) :
    ∀ other ∈ clocksOf (program.complete (exec config) caller envs world).2.2,
      other = clock := by
  intro other read
  obtain ⟨mark, reading, rfl⟩ := List.mem_map.mp read
  obtain ⟨n, same⟩ := Prog.exists_env_of_mem_complete (exec config) program
    caller envs world mark (List.mem_of_mem_filter reading)
  rw [same]
  exact fixed n

end Clock

/-! ## Decisions -/

/-- The answer of the judge, if the call asks it. -/
def judgement : (request : Call) → request.Resp → Option (Except String Risk)
  | .screenRisk _, answer => some answer
  | _, _ => none

/-- The answers of the judge during these calls. -/
def judgements {Tag : Type} (config : Config)
    (marks : List (Mark Tag Call Env World)) : List (Except String Risk) :=
  marks.filterMap fun mark =>
    judgement mark.request (mark.reply (exec config))

/-- The decision when the risk screen speaks up. -/
def escalation (ruling : PolicyDecision) (why : String) : PolicyDecision :=
  { ruling with
    effect := .requireApproval
    reasonCode := .approvalRequired
    explanation := "risk screen: " ++ why }

/-- The decision after the risk screen, by the answers of the judge.  It is
asked once, and only about an action that would be let run. -/
def ScreenedBy (config : Config) (ruling : PolicyDecision)
    (answers : List (Except String Risk)) (decision : PolicyDecision) : Prop :=
  if config.jevEnabled = true ∧ permits ruling.effect = true then
    ∃ risk, answers = [risk] ∧
      decision = (riskVerdict config.jevThreshold risk).elim ruling
        (escalation ruling)
  else answers = [] ∧ decision = ruling

/-- The decision stays, or it is escalated if it would let the action run. -/
theorem ScreenedBy.cases {config : Config}
    {ruling decision : PolicyDecision} {answers : List (Except String Risk)}
    (judged : ScreenedBy config ruling answers decision) :
    decision = ruling ∨ config.jevEnabled = true ∧
      permits ruling.effect = true ∧
      ∃ why, decision = escalation ruling why := by
  unfold ScreenedBy at judged
  split at judged
  · rename_i asked
    obtain ⟨risk, _, rfl⟩ := judged
    cases riskVerdict config.jevThreshold risk with
    | none => exact Or.inl rfl
    | some why => exact Or.inr ⟨asked.1, asked.2, _, rfl⟩
  · exact Or.inl judged.2

/-- The decision after the risk screen, whatever the judge answers. -/
def Screened (config : Config) (ruling decision : PolicyDecision) : Prop :=
  ∃ answers, ScreenedBy config ruling answers decision

/-- How the decision on an action comes about.  The first clock is the one that
the check of the grants meets, and the second one that of the policies. -/
def Weighed (config : Config) (store : MemoryStore) (rank : String → Nat)
    (clocks : List Clock) (agent : Agent) (orgID agentID : String)
    (record : TxnAction) (decision : PolicyDecision) : Prop :=
  ∃ clock later, clocks = clock :: later ∧
    let authority := checkAuthority config.runtime clock
      (store.grantsForAgent rank orgID agentID) agent record.tool record.action
      record.amountCents
    if authority.hasGrants = true ∧ authority.covered = false then
      decision = authorityExceeded authority.why
    else ∃ now rest, later = now :: rest ∧
      Screened config (policyDecision config.runtime now
        (store.policiesOf orgID) (store.activePolicySet orgID) agent record)
        decision

/-- A decision other than a denial is one of the policies. -/
theorem Weighed.judged {config : Config} {store : MemoryStore}
    {rank : String → Nat} {clocks : List Clock} {agent : Agent}
    {orgID agentID : String} {record : TxnAction} {decision : PolicyDecision}
    (weighed : Weighed config store rank clocks agent orgID agentID record
      decision) (undenied : decision.effect ≠ .deny) :
    ∃ clock now rest, clocks = clock :: now :: rest ∧
      Screened config (policyDecision config.runtime now
        (store.policiesOf orgID) (store.activePolicySet orgID) agent record)
        decision := by
  obtain ⟨clock, later, rfl, weighed⟩ := weighed
  dsimp only at weighed
  split at weighed
  · rw [weighed] at undenied
    exact absurd rfl undenied
  · obtain ⟨now, rest, rfl, screened⟩ := weighed
    exact ⟨clock, now, rest, rfl, screened⟩

theorem Screened.of_disabled {config : Config}
    {ruling decision : PolicyDecision} (disabled : config.jevEnabled = false)
    (screened : Screened config ruling decision) : decision = ruling := by
  obtain ⟨answers, judged⟩ := screened
  exact judged.cases.resolve_right (by simp [disabled])

/-- The risk screen leaves the policy version alone. -/
theorem Screened.policyVersion {config : Config}
    {ruling decision : PolicyDecision}
    (screened : Screened config ruling decision) :
    decision.policyVersion = ruling.policyVersion := by
  obtain ⟨answers, judged⟩ := screened
  rcases judged.cases with rfl | ⟨_, _, why, rfl⟩
  · rfl
  · rfl

/-- What a proposal that is recorded makes of the actions: one more, decided by
the grants and policies of the store. -/
def ProposalRecorded (config : Config) (proposal : Proposal) (before : World)
    (clocks : List Clock) (after : Table TxnAction) : Prop :=
  ∃ agent rank decision id action,
    before.store.getAgent proposal.orgID proposal.agentID = some agent ∧
      Weighed config before.store rank clocks agent proposal.orgID
        proposal.agentID (proposal.record before.tools) decision ∧
      action.orgID = proposal.orgID ∧ action.decision = some decision ∧
      action.status = initialStatus decision.effect ∧
      after = before.ledger.actions.set id action

/-- The record of an action with its decision. -/
def TxnAction.decidedAs (action : TxnAction) (decision : PolicyDecision) :
    TxnAction :=
  { action with
    decision := some decision
    status := initialStatus decision.effect }

/-- The table of actions is this one, with the action stored in it. -/
def Stores (base : Table TxnAction) (action : TxnAction) (world : World) :
    Prop :=
  world.ledger.actions = base.set action.id action

section Stores

variable {config : Config} {base : Table TxnAction} {action : TxnAction}
  {world : World} {request : Call} {env : Env}

variable (stores : Stores base action world)

include stores

theorem Stores.passing (untouched : ¬ request.WritesActions) :
    Stores base action (exec config request env world).2 := by
  rw [Stores, actions_exec untouched]
  exact stores

theorem Stores.present :
    world.ledger.actions.get? action.id = some action := by
  rw [stores]
  exact Table.get?_set_self _ _ _

theorem Stores.modifyStored
    {change : TxnAction → TxnAction} (named : (change action).id = action.id) :
    (world.ledger.modifyStored action.id change).actions =
      base.set (change action).id (change action) := by
  rw [Ledger.modifyStored_of_present _ stores.present, named]
  change world.ledger.actions.set _ _ = _
  rw [stores]
  exact AList.insert_insert _

theorem Stores.setStoredDecision (decision : PolicyDecision) :
    Stores base { action with decision := some decision }
      (exec config (.setStoredDecision action.id decision) env world).2 :=
  stores.modifyStored rfl

theorem Stores.setStoredStatus (status : ActionStatus) :
    Stores base { action with status := status }
      (exec config (.setStoredStatus action.id status) env world).2 :=
  stores.modifyStored rfl

theorem Stores.updateStored :
    Stores base action
      (exec config (.updateStored action.id) env world).2 := by
  change (world.ledger.updateStored action.id).actions = _
  rw [Ledger.updateStored_of_present stores.present rfl]
  change world.ledger.actions.set _ _ = _
  rw [stores]
  exact AList.insert_insert _

end Stores

/-- The action is stored, and these are the approvals. -/
structure Holding (base : Table TxnAction) (asked : Table Approval)
    (action : TxnAction) (world : World) : Prop where
  stores : Stores base action world
  approvals : world.ledger.approvals = asked

/-- What a decision leaves behind: the action with its decision, and a new
approval that waits if the action needs one. -/
structure Filed (base : Table TxnAction) (asked : Table Approval)
    (stored : TxnAction) (decision : PolicyDecision) (world : World) :
    Prop where
  stores : Stores base (stored.decidedAs decision) world
  requested : decision.effect = .requireApproval → ∃ key approval,
    approval.actionID = some stored.id ∧ approval.status = .pending ∧
      world.ledger.approvals = asked.set key approval
  unrequested : decision.effect ≠ .requireApproval →
    world.ledger.approvals = asked

namespace Holding

variable {config : Config} {base : Table TxnAction} {asked : Table Approval}
  {action : TxnAction} {world : World} {request : Call} {env : Env}

variable (holding : Holding base asked action world)

include holding

theorem passing (actions : ¬ request.WritesActions)
    (approvals : ¬ request.WritesApprovals) :
    Holding base asked action (exec config request env world).2 :=
  ⟨holding.stores.passing actions,
    (approvals_exec approvals).trans holding.approvals⟩

theorem setStoredDecision (decision : PolicyDecision) :
    Holding base asked { action with decision := some decision }
      (exec config (.setStoredDecision action.id decision) env world).2 :=
  ⟨holding.stores.setStoredDecision decision,
    (approvals_exec id).trans holding.approvals⟩

/-- Give the action a status and write it back. -/
theorem place (status : ActionStatus) (second : Env) :
    Holding base asked { action with status := status }
      (exec config (.updateStored action.id) second
        (exec config (.setStoredStatus action.id status) env world).2).2 :=
  ⟨(holding.stores.setStoredStatus status).updateStored,
    (approvals_exec id).trans ((approvals_exec id).trans holding.approvals)⟩

theorem createApproval (approval : Approval) (env : Env) :
    (exec config (.createApproval approval) env world).2.ledger.approvals =
      asked.set env.uid { approval with
        id := env.uid, createdAt := env.now, status := .pending } := by
  change world.ledger.approvals.set _ _ = _
  rw [holding.approvals]

omit holding in
theorem filed {stored : TxnAction} {decision : PolicyDecision}
    (holding : Holding base asked (stored.decidedAs decision) world)
    (unneeded : decision.effect ≠ .requireApproval) :
    Filed base asked stored decision world where
  stores := holding.stores
  requested needed := absurd needed unneeded
  unrequested _ := holding.approvals

end Holding

section Programs

variable {config : Config} {base : Table TxnAction} {asked : Table Approval}
  {world : World} {traceID orgID txnID agentID : String}
  {txn : Transaction} {agent : Agent} {stored : TxnAction}
  {decision : PolicyDecision}

/-- Whatever the environment answers, the program ends like this. -/
abbrev Ends {α : Type} (config : Config) (program : Gate α)
    (post : α → World → Prop) (world : World) : Prop :=
  program.Yields (exec config) (fun _ _ => True) post world

/-- Whatever the environment answers, the program ends like this, with these
answers of the judge. -/
abbrev Judges {α : Type} (config : Config) (program : Gate α)
    (post : α → World → List (Except String Risk) → Prop) (world : World) :
    Prop :=
  program.Observes (exec config) judgement post world

/-- The endings of a judged proposal. -/
theorem recordDecision_judges
    (holding : Holding base asked { stored with decision := some decision }
      world) (amount : Option Int) :
    Judges config
      (recordDecision txn orgID txnID agentID stored amount decision)
      (fun action after answers => answers = [] ∧
        action = stored.decidedAs decision ∧
        Filed base asked stored decision after) world := by
  have decided (status : ActionStatus)
      (initial : initialStatus decision.effect = status) :
      { stored with
        decision := some decision
        status := status } = stored.decidedAs decision := by
    rw [← initial]
    rfl
  unfold recordDecision
  split
  · rename_i denied
    have result := decided .denied (by rw [denied]; rfl)
    intro first second third fourth
    refine ⟨rfl, result, Holding.filed ?_ (by simp [denied])⟩
    rw [← result]
    exact ((holding.place .denied second).passing id id).passing id id
  · rename_i needed
    have result := decided .awaitingApproval (by rw [needed]; rfl)
    intro first second third fourth fifth sixth
    refine ⟨rfl, result, ?_, ?_, fun unneeded => absurd needed unneeded⟩
    · rw [← result]
      exact ((((holding.place .awaitingApproval second).stores.passing
        id).passing id).passing id).passing id
    · intro _
      refine ⟨fourth.uid, _, ?_, ?_, (approvals_exec id).trans
        ((approvals_exec id).trans (Holding.createApproval
          ((holding.place .awaitingApproval second).passing id id) _ _))⟩
      · rfl
      · rfl
  · rename_i undenied unneeded
    have status : initialStatus decision.effect = .allowed := by
      cases effect : decision.effect with
      | deny => exact absurd effect undenied
      | requireApproval => exact absurd effect unneeded
      | _ => rfl
    have result := decided .allowed status
    intro first second third
    refine ⟨rfl, result, Holding.filed ?_ unneeded⟩
    rw [← result]
    exact (holding.place .allowed second).passing id id

/-- The risk screen asks the judge if it is enabled, and writes nothing. -/
theorem jevScreenRisk_judges {action : TxnAction}
    (holding : Holding base asked action world) :
    Judges config (jevScreenRisk config orgID txnID agent stored)
      (fun verdict after answers => Holding base asked action after ∧
        if config.jevEnabled = true then ∃ risk, answers = [risk] ∧
          verdict = riskVerdict config.jevThreshold risk
        else answers = [] ∧ verdict = none) world := by
  unfold jevScreenRisk
  split
  · intro first second
    exact ⟨(holding.passing id id).passing id id, _, rfl, rfl⟩
  · exact ⟨holding, rfl, rfl⟩

/-- The risk screen keeps the decision or escalates it, in the record too. -/
theorem screened_judges {ruling : PolicyDecision}
    (holding : Holding base asked { stored with decision := some ruling }
      world) :
    Judges config (screened config orgID txnID agent stored ruling)
      (fun decision after answers =>
        ScreenedBy config ruling answers decision ∧
        Holding base asked { stored with decision := some decision } after)
      world := by
  unfold screened ScreenedBy
  by_cases permitted : permits ruling.effect = true
  · rw [if_pos permitted]
    refine (jevScreenRisk_judges holding).bind ?_
    rintro verdict after answers ⟨kept, asked⟩
    split at asked
    · rename_i enabled
      obtain ⟨risk, rfl, rfl⟩ := asked
      cases verdict : riskVerdict config.jevThreshold risk with
      | none =>
          refine ⟨?_, kept⟩
          rw [if_pos ⟨enabled, permitted⟩]
          exact ⟨risk, rfl, by rw [verdict]; rfl⟩
      | some why =>
          intro env
          refine ⟨?_, kept.setStoredDecision _⟩
          rw [if_pos ⟨enabled, permitted⟩]
          exact ⟨risk, rfl, by rw [verdict]; rfl⟩
    · rename_i disabled
      obtain ⟨rfl, rfl⟩ := asked
      exact ⟨by simp [disabled], kept⟩
  · rw [if_neg permitted]
    exact ⟨by simp [permitted], holding⟩

variable {Tag : Type} {caller : Tag} {envs : Nat → Env}

/-- A covered proposal is decided by the policies in force. -/
theorem judge_complete (holding : Holding base asked stored world)
    (amount : Option Int) :
    let outcome := (judge config txn agent orgID txnID agentID stored
      amount).complete (exec config) caller envs world
    ∃ decision rest, clocksOf outcome.2.2 = (envs 2).clock :: rest ∧
      ScreenedBy config (policyDecision config.runtime (envs 2).clock
        (world.store.policiesOf orgID) (world.store.activePolicySet orgID)
        agent stored) (judgements config outcome.2.2) decision ∧
      outcome.1 = stored.decidedAs decision ∧
      Filed base asked stored decision outcome.2.1 := by
  intro outcome
  let ruling := policyDecision config.runtime (envs 2).clock
    (world.store.policiesOf orgID) (world.store.activePolicySet orgID) agent
    stored
  let noted := (exec config (.setStoredDecision stored.id ruling) (envs 3)
    world).2
  let rest := screened config orgID txnID agent stored ruling >>=
    recordDecision txn orgID txnID agentID stored amount
  have judges : Judges config rest (fun action after answers => ∃ decision,
      ScreenedBy config ruling answers decision ∧
        action = stored.decidedAs decision ∧
        Filed base asked stored decision after) noted := by
    refine (screened_judges (holding.setStoredDecision ruling)).bind ?_
    rintro decision after answers ⟨screened, kept⟩
    refine (recordDecision_judges kept amount).mono ?_
    rintro action final _ ⟨rfl, recorded, filed⟩
    rw [List.append_nil]
    exact ⟨decision, screened, recorded, filed⟩
  let done := rest.complete (exec config) caller (fun n => envs (n + 4)) noted
  have reaches : outcome = (done.1, done.2.1,
      ⟨caller, world, .policies orgID, envs 0⟩ ::
        ⟨caller, world, .activePolicySet orgID, envs 1⟩ ::
        ⟨caller, world, .clock, envs 2⟩ ::
        ⟨caller, world, .setStoredDecision stored.id ruling, envs 3⟩ ::
        done.2.2) := rfl
  obtain ⟨decision, screened, recorded, filed⟩ :=
    judges.complete caller fun n => envs (n + 4)
  rw [reaches]
  exact ⟨decision, clocksOf done.2.2, rfl, screened, recorded, filed⟩

/-- A proposal that no grant covers is denied. -/
theorem denyUncovered_judges (holding : Holding base asked stored world)
    (why : String) :
    Judges config (denyUncovered orgID txnID agentID stored why)
      (fun action after answers => answers = [] ∧
        action = stored.decidedAs (authorityExceeded why) ∧
        Filed base asked stored (authorityExceeded why) after) world := by
  intro first second third fourth
  refine ⟨rfl, rfl, Holding.filed ?_ (by simp [authorityExceeded])⟩
  exact ((holding.setStoredDecision _).place .denied third).passing id id

/-- What the grants and the policies decide about an action, before the risk
screen.  The calls of `authorize` meet these environments. -/
def rulingOn (runtime : Runtime) (store : MemoryStore) (envs : Nat → Env)
    (agent : Agent) (orgID agentID : String) (record : TxnAction) :
    PolicyDecision :=
  let authority := checkAuthority runtime (envs 1).clock
    (store.grantsForAgent (envs 0).rank orgID agentID) agent record.tool
    record.action record.amountCents
  let judged (clock : Clock) := policyDecision runtime clock
    (store.policiesOf orgID) (store.activePolicySet orgID) agent record
  if authority.hasGrants then
    if authority.covered then judged (envs 5).clock
    else authorityExceeded authority.why
  else judged (envs 4).clock

/-- A newly stored action is decided by the agent's grants and, if they do not
stand in the way, by the policies in force and the risk screen. -/
theorem authorize_complete {amount : Option Int}
    (holding : Holding base asked stored world)
    (exposed : stored.amountCents = amount) :
    let outcome := (authorize config traceID txn agent orgID txnID agentID
      stored amount).complete (exec config) caller envs world
    ∃ decision, Weighed config world.store (envs 0).rank
        (clocksOf outcome.2.2) agent orgID agentID stored decision ∧
      ScreenedBy config (rulingOn config.runtime world.store envs agent orgID
        agentID stored) (judgements config outcome.2.2) decision ∧
      outcome.1 = stored.decidedAs decision ∧
      Filed base asked stored decision outcome.2.1 := by
  subst exposed
  let authority := checkAuthority config.runtime (envs 1).clock
    (world.store.grantsForAgent (envs 0).rank orgID agentID) agent stored.tool
    stored.action stored.amountCents
  let judged (clock : Clock) := policyDecision config.runtime clock
    (world.store.policiesOf orgID) (world.store.activePolicySet orgID) agent
    stored
  simp only [authorize, Prog.perform_bind, Prog.complete]
  by_cases granted : authority.hasGrants = true
  · rw [if_pos]
    swap
    · exact granted
    simp only [Prog.complete]
    by_cases covered : authority.covered = true
    · have ruled : rulingOn config.runtime world.store envs agent orgID
          agentID stored = judged (envs 5).clock :=
        (if_pos granted).trans (if_pos covered)
      rw [if_pos]
      swap
      · exact covered
      obtain ⟨decision, rest, clocks, screened, recorded, filed⟩ :=
        @judge_complete config base asked
          (exec config (.emit _) (envs 2) world).2 orgID txnID agentID txn
          agent stored Tag caller (fun n => envs (n + 3))
          (holding.passing id id) stored.amountCents
      refine ⟨decision, ⟨(envs 1).clock, _, rfl, ?_⟩, ?_, recorded, filed⟩
      · rw [if_neg (by simp [authority, covered])]
        exact ⟨_, rest, clocks, _, screened⟩
      · rw [ruled]
        exact screened
    · have ruled : rulingOn config.runtime world.store envs agent orgID
          agentID stored = authorityExceeded authority.why :=
        (if_pos granted).trans (if_neg covered)
      rw [if_neg]
      swap
      · exact covered
      obtain ⟨silent, recorded, filed⟩ := (@denyUncovered_judges config base
        asked (exec config (.emit _) (envs 2) world).2 orgID txnID agentID
        stored (holding.passing id id) authority.why).complete caller
          fun n => envs (n + 3)
      refine ⟨_, ⟨(envs 1).clock, _, rfl, ?_⟩, ?_, recorded, filed⟩
      · rw [if_pos ⟨granted, Bool.eq_false_of_not_eq_true covered⟩]
      · rw [ruled, ScreenedBy, if_neg (by simp [authorityExceeded, permits])]
        exact ⟨silent, rfl⟩
  · have ruled : rulingOn config.runtime world.store envs agent orgID agentID
        stored = judged (envs 4).clock := if_neg granted
    rw [if_neg]
    swap
    · exact granted
    obtain ⟨decision, rest, clocks, screened, recorded, filed⟩ :=
      @judge_complete config base asked world orgID txnID agentID txn agent
        stored Tag caller (fun n => envs (n + 2)) holding stored.amountCents
    refine ⟨decision, ⟨(envs 1).clock, _, rfl, ?_⟩, ?_, recorded, filed⟩
    · rw [if_neg fun both => granted both.1]
      exact ⟨_, rest, clocks, _, screened⟩
    · rw [ruled]
      exact screened

/-- The record of a new proposal. -/
def proposedRecord (config : Config) (env : Env) (txnID idemKey : String)
    (proposal : Proposal) (tools : Registry) : TxnAction :=
  Ledger.newAction config.runtime.hashing env.uid env.now
    { proposal.record tools with
      transactionID := txnID, idempotencyKey := idemKey }

/-- A proposal under a new key in an open transaction is recorded with its
decision. -/
theorem proposeAction_records {idemKey : String} (proposal : Proposal)
    (found : world.ledger.getTxn proposal.orgID txnID = some txn)
    (unclosed : txn.status.terminal = false)
    (known : world.store.getAgent proposal.orgID proposal.agentID = some agent)
    (new : world.ledger.byIdem?
      (Ledger.idemKey proposal.orgID txnID idemKey) = none) :
    let outcome := (proposeAction config traceID proposal.orgID txnID
      proposal.agentID proposal.tool proposal.action proposal.arguments
      idemKey).complete (exec config) caller envs world
    let stored := proposedRecord config (envs 3) txnID idemKey proposal
      world.tools
    ∃ decision rank, Weighed config world.store rank (clocksOf outcome.2.2)
        agent proposal.orgID proposal.agentID stored decision ∧
      outcome.1 = .ok (stored.decidedAs decision) ∧
      ScreenedBy config (rulingOn config.runtime world.store
        (fun n => envs (n + 4)) agent proposal.orgID proposal.agentID stored)
        (judgements config outcome.2.2) decision ∧
      Filed world.ledger.actions world.ledger.approvals stored decision
        outcome.2.1 := by
  let draft : TxnAction :=
    { orgID := proposal.orgID, transactionID := txnID, tool := proposal.tool,
      action := proposal.action, arguments := proposal.arguments,
      classes := world.tools.classes proposal.tool proposal.action,
      amountCents := extractCents proposal.arguments,
      idempotencyKey := idemKey, status := .proposed }
  let added := exec config (.addAction draft) (envs 3) world
  have recorded : added = world.withLedger ((Ledger.newAction
      config.runtime.hashing (envs 3).uid (envs 3).now draft, false), _) :=
    congrArg world.withLedger (Ledger.addAction_of_new _ _ new)
  have same : proposedRecord config (envs 3) txnID idemKey proposal
      world.tools = added.1.1 := by
    rw [recorded]
    rfl
  have fresh : added.1.2 = false := by
    rw [recorded]
    rfl
  have holding : Holding world.ledger.actions world.ledger.approvals added.1.1
      added.2 := by
    rw [recorded]
    exact ⟨rfl, rfl⟩
  have exposed : added.1.1.amountCents = extractCents proposal.arguments := by
    rw [recorded]
    rfl
  obtain ⟨decision, weighed, screened, value, filed⟩ :=
    @authorize_complete config world.ledger.actions world.ledger.approvals
      added.2 traceID proposal.orgID txnID proposal.agentID txn agent added.1.1
      Tag caller (fun n => envs (n + 4)) _ holding exposed
  simp only [proposeAction, Prog.perform_bind, Prog.complete, exec]
  rw [found]
  simp only [unclosed, Bool.false_eq_true, if_false, Prog.complete, exec]
  rw [known]
  simp only [Prog.complete]
  rw [if_neg, same]
  swap
  · exact ne_true_of_eq_false fresh
  simp only [Prog.complete_bind, Prog.pure_eq, Prog.complete, List.append_nil]
  refine ⟨decision, (envs 4).rank, ?_, ?_, ?_, ?_⟩
  · exact weighed
  · exact congrArg Except.ok value
  · exact screened
  · exact filed

/-- Nothing has changed but that the audit log has grown. -/
def Audited (before after : World) : Prop :=
  ∃ events, after = { before with store := { before.store with
    audit := before.store.audit ++ events } }

theorem audited_emit {before world : World}
    (config : Config) (event : AuditEvent) (env : Env) (same : world = before) :
    Audited before (exec config (.emit event) env world).2 := by
  subst same
  exact ⟨[_], rfl⟩

/-- As long as the transaction is not terminal, the stored action is returned. -/
theorem proposeAction_replays {previous : TxnAction} {idemKey : String}
    (traceID tool action : String) (arguments : Object)
    (found : world.ledger.getTxn orgID txnID = some txn)
    (unclosed : txn.status.terminal = false)
    (known : world.store.getAgent orgID agentID = some agent)
    (stored : world.ledger.byIdem? (Ledger.idemKey orgID txnID idemKey) =
      some previous) :
    let outcome := (proposeAction config traceID orgID txnID agentID tool action
      arguments idemKey).complete (exec config) caller envs world
    outcome.1 = .ok previous ∧ Audited world outcome.2.1 := by
  let draft : TxnAction :=
    { orgID := orgID, transactionID := txnID, tool := tool,
      action := action, arguments := arguments,
      classes := world.tools.classes tool action,
      amountCents := extractCents arguments,
      idempotencyKey := idemKey, status := .proposed }
  have duplicate : world.ledger.addAction config.runtime.hashing (envs 3).uid
      (envs 3).now draft = ((previous, true), world.ledger) :=
    Ledger.addAction_of_duplicate _ _ stored
  have replayed : exec config (.addAction draft) (envs 3) world =
      ((previous, true), world) := congrArg world.withLedger duplicate
  simp only [proposeAction, Prog.perform_bind, Prog.complete, exec]
  rw [found]
  simp only [unclosed, Bool.false_eq_true, if_false, Prog.complete, exec]
  rw [known]
  simp only [Prog.complete]
  rw [if_pos]
  swap
  · exact congrArg (fun added => added.1.2) replayed
  constructor
  · exact congrArg (fun added => Except.ok added.1.1) replayed
  · exact audited_emit config _ _ (congrArg Prod.snd replayed)

/-- The proposal gets a record: its transaction is open, its agent is known and
its key is new. -/
def Taken (world : World) (orgID txnID agentID idemKey : String) : Prop :=
  ∃ txn agent, world.ledger.getTxn orgID txnID = some txn ∧
    txn.status.terminal = false ∧
    world.store.getAgent orgID agentID = some agent ∧
    world.ledger.byIdem? (Ledger.idemKey orgID txnID idemKey) = none

/-- Any other proposal leaves the actions as they are. -/
theorem proposeAction_unrecorded
    {tool action idemKey : String} {arguments : Object}
    (untaken : ¬ Taken world orgID txnID agentID idemKey) :
    ((proposeAction config traceID orgID txnID agentID tool action arguments
      idemKey).complete (exec config) caller envs world).2.1.ledger.actions =
        world.ledger.actions := by
  by_cases settled : ∃ txn agent,
      world.ledger.getTxn orgID txnID = some txn ∧
        txn.status.terminal = false ∧
        world.store.getAgent orgID agentID = some agent
  · obtain ⟨txn, agent, found, unclosed, known⟩ := settled
    obtain ⟨previous, stored⟩ := Option.ne_none_iff_exists'.mp fun new =>
      untaken ⟨txn, agent, found, unclosed, known, new⟩
    obtain ⟨_, events, same⟩ := proposeAction_replays traceID tool action
      arguments found unclosed known stored
    rw [same]
  · simp only [proposeAction, Prog.perform_bind, Prog.complete, exec]
    cases found : world.ledger.getTxn orgID txnID with
    | none => rfl
    | some txn =>
        dsimp only
        split
        · rfl
        rename_i unclosed
        simp only [Prog.complete, exec]
        cases known : world.store.getAgent orgID agentID with
        | none => rfl
        | some agent =>
            exact absurd ⟨txn, agent, found, by simpa using unclosed, known⟩
              settled

/-- A proposal that is carried to its end leaves the actions as they are or is
recorded with its decision. -/
theorem proposeAction_recorded
    (traceID orgID txnID agentID tool action idemKey : String)
    (arguments : Object) :
    let outcome := (proposeAction config traceID orgID txnID agentID tool action
      arguments idemKey).complete (exec config) caller envs world
    outcome.2.1.ledger.actions = world.ledger.actions ∨
      ProposalRecorded config ⟨orgID, agentID, tool, action, arguments⟩ world
        (clocksOf outcome.2.2) outcome.2.1.ledger.actions := by
  by_cases taken : Taken world orgID txnID agentID idemKey
  · right
    obtain ⟨txn, agent, found, unclosed, known, new⟩ := taken
    obtain ⟨decision, rank, weighed, _, _, filed⟩ :=
      proposeAction_records
        ⟨orgID, agentID, tool, action, arguments⟩ found unclosed known new
    exact ⟨agent, rank, decision, _, _, known, weighed, rfl, rfl, rfl,
      filed.stores⟩
  · exact Or.inl (proposeAction_unrecorded taken)

/-- Every operation that makes a proposal leaves the actions as they are or has
the proposal recorded with its decision. -/
theorem Operation.recorded {operation : Operation} {proposal : Proposal}
    (proposes : operation.proposal = some proposal) :
    let outcome := (operation.program config).complete (exec config) caller
      envs world
    outcome.2.1.ledger.actions = world.ledger.actions ∨
      ProposalRecorded config proposal
        { world with tools := operation.registry world }
        (clocksOf outcome.2.2) outcome.2.1.ledger.actions := by
  cases operation with
  | proposeAction traceID orgID txnID agentID tool action arguments idemKey =>
      obtain rfl := Option.some.inj proposes
      simp only [Operation.program, Prog.complete_bind, Prog.pure_eq,
        Prog.complete, List.append_nil]
      apply proposeAction_recorded
  | http request =>
      obtain ⟨identity, traceID, route⟩ := request
      simp only [Operation.program, Prog.complete_bind, Prog.pure_eq,
        Prog.complete, List.append_nil]
      cases route with
      | proposeAction body =>
          obtain rfl := Option.some.inj proposes
          simp only [Api.handle, Api.handleProposeAction]
          split
          · exact Or.inl rfl
          split
          · exact Or.inl rfl
          split
          · exact Or.inl rfl
          simp only [Prog.complete_bind, Prog.pure_eq, Prog.complete,
            List.append_nil]
          apply proposeAction_recorded
      | mcpCall body =>
          obtain rfl := Option.some.inj proposes
          simp only [Api.handle, Api.handleMCPCall]
          split
          · exact Or.inl rfl
          split
          · exact Or.inl rfl
          split
          · exact Or.inl rfl
          simp only [Prog.perform_bind, Prog.complete]
          rw [clocksOf_cons (by rfl)]
          simp only [exec, Operation.registry]
          split
          · exact Or.inl rfl
          rename_i server token found
          simp only [found]
          split
          · exact Or.inl rfl
          simp only [Prog.complete, Prog.complete_bind, Prog.pure_eq,
            List.append_nil]
          rw [clocksOf_cons (by rfl)]
          exact @proposeAction_recorded config { world with tools := _ } _
            caller (fun n => envs (n + 2)) traceID _ _ _ _ _ _ _
      | _ => cases proposes
  | _ => cases proposes

end Programs
end SettleAgent
