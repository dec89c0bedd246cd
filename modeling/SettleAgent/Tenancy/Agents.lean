import SettleAgent.Protocol.Outcomes
import SettleAgent.Tenancy.Isolation

/-!
# Agents of one organization

A request with an agent's credential should leave the transactions of the other
agents alone.  Proposals and executions do not look at who owns the
transaction, so it does so exactly if it is not one of those that go through.
-/

namespace SettleAgent

open Interaction Gateway

/-! ## What is to be kept -/

/-- The transaction has this action in this status. -/
def Ledger.HasAction (ledger : Ledger) (orgID txnID id : String)
    (status : ActionStatus) : Prop :=
  ∃ action, ledger.getAction orgID id = some action ∧
    action.transactionID = txnID ∧ action.status = status

/-- A transaction keeps its status, its actions with their statuses, its
approvals and its receipts. -/
structure Kept (orgID txnID : String) (before after : Ledger) : Prop where
  status : (after.getTxn orgID txnID).map Transaction.status =
    (before.getTxn orgID txnID).map Transaction.status
  actions : ∀ id status, after.HasAction orgID txnID id status ↔
    before.HasAction orgID txnID id status
  approvals : ∀ id approval, approval.transactionID = txnID →
    (after.getApproval orgID id = some approval ↔
      before.getApproval orgID id = some approval)
  receipts : after.receiptsForTxn orgID txnID =
    before.receiptsForTxn orgID txnID

/-- All transactions of the organization's other agents are kept. -/
def OthersKept (orgID agentID : String) (before after : Ledger) : Prop :=
  ∀ txnID txn, before.getTxn orgID txnID = some txn → txn.agentID ≠ agentID →
    Kept orgID txnID before after

theorem OthersKept.refl (orgID agentID : String) (ledger : Ledger) :
    OthersKept orgID agentID ledger ledger :=
  fun _ _ _ _ => ⟨rfl, fun _ _ => Iff.rfl, fun _ _ _ => Iff.rfl, rfl⟩

/-- The part of the organization that is not another agent's. -/
def Territory.agent (ledger : Ledger) (orgID agentID : String) : Territory where
  orgID := orgID
  mine := fun id =>
    (ledger.getTxn orgID id).all fun txn => txn.agentID = agentID

section Kept

variable {orgID agentID : String} {before after : MemoryStore}

/-- Writing outside of the other agents' transactions keeps them. -/
theorem OthersKept.of_confined
    (confined : Confined (.agent before.toLedger orgID agentID) before after)
    (keyed : before.WellKeyed) :
    OthersKept orgID agentID before.toLedger after.toLedger := by
  intro txnID txn found foreign
  obtain ⟨present, owned⟩ := Ledger.getTxn_eq_some.mp found
  have named := keyed.txn txnID txn present
  have other : (Territory.agent before.toLedger orgID agentID).mine txnID =
      false := by
    simp [Territory.agent, found, foreign]
  have actions : ∀ id action, action.transactionID = txnID →
      (after.actions.get? id = some action ↔
        before.actions.get? id = some action) := by
    intro id action within
    refine (confined.actions.get? ?_).symm
    simp [Territory.action, within, other]
  constructor
  · have still : after.txns.get? txnID = some txn := by
      refine (confined.txns.get? ?_).mp present
      simp [Territory.txn, named, other]
    have foundAfter := Ledger.getTxn_eq_some.mpr ⟨still, owned⟩
    rw [foundAfter, found]
  · intro id status
    refine exists_congr fun action => ?_
    rw [Ledger.getAction_eq_some, Ledger.getAction_eq_some]
    constructor
    · rintro ⟨⟨stored, own⟩, within, rest⟩
      exact ⟨⟨(actions id action within).mp stored, own⟩, within, rest⟩
    · rintro ⟨⟨stored, own⟩, within, rest⟩
      exact ⟨⟨(actions id action within).mpr stored, own⟩, within, rest⟩
  · intro id approval within
    rw [Ledger.getApproval_eq_some, Ledger.getApproval_eq_some]
    refine and_congr_left fun _ => (confined.approvals.get? ?_).symm
    simp [Territory.approval, within, other]
  · have outside : ∀ receipts : List Receipt,
        (receipts.filter fun receipt =>
          receipt.orgID = orgID ∧ receipt.transactionID = txnID) =
        (receipts.filter fun receipt => !(Territory.agent before.toLedger orgID
          agentID).receipt receipt).filter fun receipt =>
            receipt.orgID = orgID ∧ receipt.transactionID = txnID := by
      intro receipts
      rw [List.filter_filter]
      refine List.filter_congr fun receipt _ => ?_
      by_cases within : receipt.transactionID = txnID
      · simp [Territory.receipt, within, other]
      · simp [within]
    rw [Ledger.receiptsForTxn, outside, confined.receipts, ← outside]
    rfl

/-- A transaction that gains an action is not kept. -/
theorem not_othersKept_of_new {txnID id : String} {txn : Transaction}
    {action : TxnAction} (found : before.getTxn orgID txnID = some txn)
    (foreign : txn.agentID ≠ agentID) (absent : before.actions.get? id = none)
    (present : after.actions.get? id = some action)
    (owned : action.orgID = orgID) (within : action.transactionID = txnID) :
    ¬ OthersKept orgID agentID before.toLedger after.toLedger := by
  intro kept
  have gained : after.HasAction orgID txnID id action.status :=
    ⟨action, Ledger.getAction_eq_some.mpr ⟨present, owned⟩, within, rfl⟩
  obtain ⟨old, stored, _⟩ :=
    ((kept txnID txn found foreign).actions id action.status).mp gained
  have missing := (Ledger.getAction_eq_some.mp stored).1
  rw [absent] at missing
  cases missing

/-- A transaction with an action that changes its status is not kept. -/
theorem not_othersKept_of_changed {id : String} {txn : Transaction}
    {old action : TxnAction}
    (found : before.getTxn orgID old.transactionID = some txn)
    (foreign : txn.agentID ≠ agentID)
    (stored : before.getAction orgID id = some old)
    (present : after.actions.get? id = some action)
    (changed : action.status ≠ old.status) :
    ¬ OthersKept orgID agentID before.toLedger after.toLedger := by
  intro kept
  have had : before.HasAction orgID old.transactionID id old.status :=
    ⟨old, stored, rfl, rfl⟩
  obtain ⟨still, storedAfter, _, same⟩ :=
    ((kept _ txn found foreign).actions id old.status).mpr had
  have equal := (Ledger.getAction_eq_some.mp storedAfter).1
  rw [present, Option.some.injEq] at equal
  rw [equal] at changed
  exact changed same

end Kept

/-! ## Requests that go through -/

/-- A proposal of the agent into a transaction of another agent is taken in. -/
def MemoryStore.TakesIn (store : MemoryStore)
    (orgID agentID txnID idemKey : String) : Prop :=
  (∃ txn, store.getTxn orgID txnID = some txn ∧ txn.agentID ≠ agentID ∧
    txn.status.terminal = false) ∧
  (∃ agent, store.getAgent orgID agentID = some agent) ∧
  store.byIdem? (Ledger.idemKey orgID txnID idemKey) = none

/-- The action is in a transaction of another agent, and it can be executed. -/
def MemoryStore.Executes (store : MemoryStore) (orgID agentID id : String) :
    Prop :=
  ∃ action txn, store.getAction orgID id = some action ∧
    store.getTxn orgID action.transactionID = some txn ∧
    txn.agentID ≠ agentID ∧ Runnable action

/-- The body of a proposal is complete, and the caller acts as its own agent. -/
def Api.Request.Submits (request : Api.Request)
    (body : Api.Decoded Api.ProposeBody) : Prop :=
  body.failed = false ∧ body.value.transactionID ≠ "" ∧
    body.value.tool ≠ "" ∧ body.value.idempotencyKey ≠ "" ∧
    body.value.agentID = request.callerAgentID

/-- The body of an MCP call is complete, the caller acts as its own agent, and
the server of the organization lists the tool. -/
def Api.Request.Calls (request : Api.Request) (store : MemoryStore)
    (body : Api.Decoded Api.MCPCallBody) : Prop :=
  (body.failed = false ∧ body.value.transactionID ≠ "" ∧
    body.value.server ≠ "" ∧ body.value.tool ≠ "" ∧
    body.value.idempotencyKey ≠ "" ∧
    body.value.agentID = request.callerAgentID) ∧
  ∃ server token, store.getMCPServer request.orgOf body.value.server =
    some (server, token) ∧ ∃ tool ∈ server.tools, tool.name = body.value.tool

/-- The request of an agent goes through although it is about a transaction of
another agent. -/
def Api.Request.Encroaches (request : Api.Request) (store : MemoryStore) :
    Prop :=
  match request.route with
  | .proposeAction body =>
      request.Submits body ∧
        store.TakesIn request.orgOf request.callerAgentID
          body.value.transactionID body.value.idempotencyKey
  | .mcpCall body =>
      request.Calls store body ∧
        store.TakesIn request.orgOf request.callerAgentID
          body.value.transactionID body.value.idempotencyKey
  | .actionSub [id, "execute"] =>
      store.Executes request.orgOf request.callerAgentID id
  | _ => False

/-! ## Rules for single calls -/

variable {config : Config} {world : World} {α : Type} {post : α → World → Prop}

/-- A call that only reads. -/
theorem yields_read {request : Call} {next : request.Resp → Gate α}
    {reply : request.Resp}
    (reads : ∀ env, (exec config request env world).2 = world)
    (replies : ∀ env, (exec config request env world).1 = reply)
    (following : (next reply).Yields (exec config) Generates post world) :
    (Prog.call request next).Yields (exec config) Generates post world := by
  intro env _
  rw [reads, replies]
  exact following

/-- A program that does not write actions. -/
theorem yields_actions {program : Gate α}
    (all : program.AllCalls fun request => ¬ request.WritesActions) :
    program.Yields (exec config) Generates
      (fun _ after => after.ledger.actions = world.ledger.actions) world :=
  all.yields (fun _ _ _ kept untouched => (actions_exec untouched).trans kept)
    rfl

/-- A program that does not write to the ledger keeps everybody's
transactions. -/
theorem yields_othersKept {program : Gate α} {orgID agentID : String}
    (all : program.AllCalls fun request => ¬ request.Writes) :
    program.Yields (exec config) Generates
      (fun _ after => OthersKept orgID agentID world.ledger after.ledger)
      world := by
  have same : program.Yields (exec config) Generates
      (fun _ after => after.ledger = world.ledger) world :=
    all.yields (fun _ _ _ kept reads =>
      (ledger_exec_of_not_writes reads).trans kept) rfl
  refine same.mono fun _ after equal => ?_
  rw [equal]
  exact .refl orgID agentID _

/-! ## Proposals -/

section Proposal

/-- A proposal whose key is in use is not added. -/
theorem yields_duplicate {action previous : TxnAction}
    {next : TxnAction × Bool → Gate α}
    (found : world.ledger.byIdem? (Ledger.keyOf action) = some previous)
    (following : (next (previous, true)).Yields (exec config) Generates post
      world) :
    (Prog.call (.addAction action) next).Yields (exec config) Generates post
      world := by
  have known : ∀ env,
      exec config (.addAction action) env world = ((previous, true), world) :=
    fun env => congrArg world.withLedger
      (Ledger.addAction_of_duplicate env.uid env.now found)
  exact yields_read (fun env => congrArg Prod.snd (known env))
    (fun env => congrArg Prod.fst (known env)) following

/-- A proposal whose key is new is added.  The rest of the program goes on with
what it knows of the new action. -/
theorem yields_added (territory : Territory) {action : TxnAction}
    {next : TxnAction × Bool → Gate α}
    (plain : Plain territory.orgID) (sound : world.store.Sound)
    (inside : territory.action action = true)
    (new : world.ledger.byIdem? (Ledger.keyOf action) = none)
    (following : ∀ stored after,
      world.ledger.actions.get? stored.id = none →
      after.store.Sound → Holds territory { actions := [stored] } after.store →
      (next (stored, false)).Yields (exec config) Generates post after) :
    (Prog.call (.addAction action) next).Yields (exec config) Generates post
      world := by
  intro env ⟨admissible, unused⟩
  let stored := Ledger.newAction config.runtime.hashing env.uid env.now action
  have added : (exec config (.addAction action) env world).1 =
      (stored, false) :=
    congrArg (fun outcome => (world.withLedger outcome).1)
      (Ledger.addAction_of_new env.uid env.now new)
  have may : territory.May {} (.addAction action) := inside
  have holds := (Holds.nothing territory world.store).learn config sound
    admissible unused may
  rw [added] at holds ⊢
  exact following stored _ admissible.1.action
    (sound_exec plain sound (Holds.nothing _ _) admissible inside) holds

variable {traceID orgID agentID txnID tool action idemKey : String}
  {arguments : Object}

/-- A proposal that is not taken into another agent's transaction. -/
theorem proposeAction_spares (plain : Plain orgID) (sound : world.store.Sound)
    (refused : ¬ world.store.TakesIn orgID agentID txnID idemKey) :
    (proposeAction config traceID orgID txnID agentID tool action arguments
      idemKey).Yields (exec config) Generates
        (fun _ after => OthersKept orgID agentID world.ledger after.ledger)
        world := by
  by_cases mine : (Territory.agent world.ledger orgID agentID).mine txnID = true
  · have within : Within (.agent world.ledger orgID agentID) {}
        (proposeAction config traceID orgID txnID agentID tool action arguments
          idemKey) := proposeAction_within mine
    refine (within.yields plain sound (Holds.nothing _ _)).mono ?_
    rintro _ after ⟨confined, _⟩
    exact .of_confined confined sound.keyed
  -- the transaction is another agent's, so the proposal stops at some check
  obtain ⟨txn, found, foreign⟩ : ∃ txn,
      world.ledger.getTxn orgID txnID = some txn ∧ txn.agentID ≠ agentID := by
    cases found : world.ledger.getTxn orgID txnID with
    | none => simp [Territory.agent, found] at mine
    | some txn => exact ⟨txn, rfl, by simpa [Territory.agent, found] using mine⟩
  simp only [proposeAction, Prog.perform_bind]
  refine yields_read (fun _ => rfl) (fun _ => found) ?_
  have nothing := OthersKept.refl orgID agentID world.ledger
  cases terminal : txn.status.terminal with
  | true =>
      simp only [terminal, if_true]
      exact nothing
  | false =>
      simp only [terminal, Bool.false_eq_true, if_false]
      cases listed : world.store.getAgent orgID agentID with
      | none => exact yields_read (fun _ => rfl) (fun _ => listed) nothing
      | some agent =>
          refine yields_read (fun _ => rfl) (fun _ => listed)
            (yields_read (fun _ => rfl) (fun _ => rfl) ?_)
          cases duplicate : world.ledger.byIdem?
              (Ledger.idemKey orgID txnID idemKey) with
          | none =>
              exact absurd ⟨⟨txn, found, foreign, terminal⟩, ⟨agent, listed⟩,
                duplicate⟩ refused
          | some previous =>
              apply yields_duplicate
              · exact duplicate
              · exact fun _ _ => nothing

/-- A proposal that is taken in adds an action to the other agent's
transaction. -/
theorem proposeAction_encroaches (plain : Plain orgID)
    (sound : world.store.Sound)
    (taken : world.store.TakesIn orgID agentID txnID idemKey) :
    (proposeAction config traceID orgID txnID agentID tool action arguments
      idemKey).Yields (exec config) Generates
        (fun _ after => ¬ OthersKept orgID agentID world.ledger after.ledger)
        world := by
  obtain ⟨⟨txn, found, foreign, pending⟩, ⟨agent, listed⟩, new⟩ := taken
  let territory : Territory := ⟨orgID, fun id => id = txnID⟩
  have mine : territory.mine txnID = true := decide_eq_true rfl
  simp only [proposeAction, Prog.perform_bind]
  refine yields_read (fun _ => rfl) (fun _ => found) ?_
  simp only [pending, Bool.false_eq_true, if_false]
  refine yields_read (fun _ => rfl) (fun _ => listed)
    (yields_read (fun _ => rfl) (fun _ => rfl) ?_)
  apply yields_added territory plain sound
  · simp [territory, Territory.action]
  · exact new
  intro stored after absent soundAfter holds
  have within : Within territory { actions := [stored] }
      (authorize config traceID txn agent orgID txnID agentID stored
        (extractCents arguments)) :=
    authorize_within ⟨stored, List.mem_singleton_self _, rfl⟩ mine
  refine (within.yields plain soundAfter holds).bind ?_
  rintro _ last ⟨_, known, remembered, kept⟩
  obtain ⟨current, present, inside, _⟩ :=
    kept.actions stored (remembered (List.mem_singleton_self _))
  simp only [territory, Territory.action, Bool.and_eq_true,
    decide_eq_true_eq] at inside
  exact not_othersKept_of_new found foreign absent present inside.1 inside.2

end Proposal

/-! ## Executions -/

section Execution

variable {traceID orgID agentID id : String} {action old : TxnAction}

/-- The action has left the statuses in which it can be executed. -/
def Ledger.Attempted (ledger : Ledger) (id : String) : Prop :=
  ∃ action, ledger.actions.get? id = some action ∧
    action.status ≠ .approved ∧ action.status ≠ .allowed

theorem Ledger.Attempted.of_actions {ledger other : Ledger}
    (attempted : ledger.Attempted id)
    (same : other.actions = ledger.actions) : other.Attempted id := by
  unfold Attempted
  rw [same]
  exact attempted

/-- Storing the outcome of an attempt. -/
theorem yields_attempted {next : Unit → Gate α}
    (present : world.ledger.actions.get? action.id = some old)
    (unapproved : action.status ≠ .approved)
    (unallowed : action.status ≠ .allowed)
    (following : (next ()).AllCalls fun request => ¬ request.WritesActions) :
    (Prog.call (.updateAction action) next).Yields (exec config) Generates
      (fun _ after => after.ledger.Attempted action.id) world := by
  intro env _
  have written : (exec config (.updateAction action) env
      world).2.ledger.Attempted action.id := by
    refine ⟨action, ?_, unapproved, unallowed⟩
    rw [show (exec config (.updateAction action) env world).2.ledger =
      world.ledger.updateAction action from rfl,
      Ledger.updateAction_of_present present]
    exact Table.get?_set_self _ _ _
  exact (yields_actions following).mono fun _ _ same => written.of_actions same

/-- A call that does not write actions. -/
theorem yields_passing {request : Call} {next : request.Resp → Gate α}
    (untouched : ¬ request.WritesActions)
    (present : world.ledger.actions.get? id = some old)
    (following : ∀ reply (after : World),
      after.ledger.actions.get? id = some old →
        (next reply).Yields (exec config) Generates post after) :
    (Prog.call request next).Yields (exec config) Generates post world := by
  intro env _
  refine following _ _ ?_
  rw [actions_exec untouched]
  exact present

theorem dispatch_attempts
    (present : world.ledger.actions.get? action.id = some old) :
    (dispatch config traceID orgID action).Yields (exec config) Generates
      (fun _ after => after.ledger.Attempted action.id) world := by
  simp only [dispatch, Prog.perform_bind]
  refine yields_passing not_false present fun started _ present =>
    yields_passing not_false present fun _ _ present =>
    yields_passing not_false present fun outcome _ present =>
    yields_passing not_false present fun ended _ present => ?_
  cases outcome with
  | error error =>
      cases error with
      | uncertain text =>
          exact yields_attempted present (by simp) (by simp)
            ⟨not_false, fun _ => trivial⟩
      | plain text =>
          exact yields_attempted present (by simp) (by simp)
            ⟨not_false, fun _ => trivial⟩
  | ok result =>
      refine yields_attempted present (by simp) (by simp)
        ⟨not_false, fun completed => ?_⟩
      exact (attest_writes _ _ _ _).bind fun _ => ⟨not_false, fun _ => trivial⟩

theorem run_attempts
    (present : world.ledger.actions.get? action.id = some old) :
    (run config traceID orgID action).Yields (exec config) Generates
      (fun _ after => after.ledger.Attempted action.id) world := by
  simp only [run, Prog.perform_bind]
  refine yields_passing not_false present fun found _ present => ?_
  cases found with
  | none => exact dispatch_attempts present
  | some txn =>
      simp only
      split
      · exact yields_passing not_false present fun _ _ present =>
          dispatch_attempts present
      · exact dispatch_attempts present

/-- What an execution request comes to when the action is there: it is run if it
can be, and otherwise nothing is written. -/
theorem yields_actionSub {request : Api.Request} {post : World → Prop}
    (found : world.ledger.getAction request.orgOf id = some action)
    (runs : Runnable action →
      (run config request.traceID request.orgOf action).Yields (exec config)
        Generates (fun _ after => post after) world)
    (stays : ¬ Runnable action → post world) :
    (Api.handleActionSub config request [id, "execute"]).Yields (exec config)
      Generates (fun _ after => post after) world := by
  simp only [Api.handleActionSub, Prog.perform_bind]
  refine yields_read (fun _ => rfl) (fun _ => found) ?_
  by_cases approved : action.status = .approved
  · have ran := runs (.inr approved)
    simp only [Option.any_some, approved, decide_true, if_true, runApproved,
      Prog.perform_bind, Prog.call_bind]
    refine yields_read (fun _ => rfl) (fun _ => found) ?_
    simp only [approved, reduceCtorEq, ne_eq, not_true, if_false]
    exact ran.bind fun _ _ done => done
  simp only [Option.any_some, approved, decide_false, Bool.false_eq_true,
    if_false, executeAllowed, Prog.perform_bind, Prog.call_bind]
  refine yields_read (fun _ => rfl) (fun _ => found) ?_
  by_cases permitted : decisionPermits action = true
  · by_cases allowed : action.status = .allowed
    · simp only [allowed, permitted, reduceCtorEq, ne_eq, not_true, false_and,
        if_false, Bool.not_true, Bool.false_eq_true]
      exact (runs (.inl ⟨allowed, permitted⟩)).bind fun _ _ done => done
    · have blocked : ¬ Runnable action :=
        fun runnable => runnable.elim (fun can => allowed can.1) approved
      simp only [allowed, approved, permitted, ne_eq, not_false_eq_true,
        true_and, if_true, Bool.not_true, Bool.false_eq_true, if_false]
      split
      · exact stays blocked
      · split <;> exact stays blocked
  · have blocked : ¬ Runnable action :=
      fun runnable => runnable.elim (fun can => permitted can.2) approved
    simp only [permitted, Bool.not_false, if_true]
    split
    · exact stays blocked
    · split <;> exact stays blocked

theorem handleActionSub_of_other {request : Api.Request} {parts : List String}
    (other : ¬ ∃ id, parts = [id, "execute"]) :
    Api.handleActionSub config request parts =
      .ret (Api.errJSON 404 "not_found"
        "Use POST /v1/actions/:id/execute.") := by
  unfold Api.handleActionSub
  split
  · exact absurd ⟨_, rfl⟩ other
  · rfl

/-- Executing an action of another agent changes its status. -/
theorem handleActionSub_encroaches {request : Api.Request}
    (keyed : world.ledger.WellKeyed)
    (executes : world.store.Executes request.orgOf agentID id) :
    (Api.handleActionSub config request [id, "execute"]).Yields (exec config)
      Generates (fun _ after => ¬ OthersKept request.orgOf agentID world.ledger
        after.ledger) world := by
  obtain ⟨action, txn, found, owner, foreign, runnable⟩ := executes
  have present := (Ledger.getAction_eq_some.mp found).1
  have named := keyed.action id action present
  subst named
  refine yields_actionSub found (fun _ => ?_) fun blocked => absurd runnable blocked
  refine (run_attempts present).mono ?_
  rintro _ after ⟨done, stored, unapproved, unallowed⟩
  refine not_othersKept_of_changed owner foreign found stored ?_
  rcases runnable with ⟨allowed, _⟩ | approved
  · rwa [allowed]
  · rwa [approved]

/-- Executing any other action leaves the transactions of other agents
alone. -/
theorem handleActionSub_spares {request : Api.Request}
    (plain : Plain request.orgOf) (sound : world.store.Sound)
    (refused : ¬ world.store.Executes request.orgOf agentID id) :
    (Api.handleActionSub config request [id, "execute"]).Yields (exec config)
      Generates (fun _ after => OthersKept request.orgOf agentID world.ledger
        after.ledger) world := by
  have nothing := OthersKept.refl request.orgOf agentID world.ledger
  cases found : world.ledger.getAction request.orgOf id with
  | none =>
      simp only [Api.handleActionSub, Prog.perform_bind]
      refine yields_read (fun _ => rfl) (fun _ => found) ?_
      simp only [Option.any_none, Bool.false_eq_true, if_false, executeAllowed,
        Prog.perform_bind, Prog.call_bind]
      exact yields_read (fun _ => rfl) (fun _ => found) nothing
  | some action =>
      obtain ⟨present, owned⟩ := Ledger.getAction_eq_some.mp found
      have named := sound.keyed.action id action present
      subst named
      refine yields_actionSub found (fun runnable => ?_) fun _ => nothing
      let territory := Territory.agent world.ledger request.orgOf agentID
      have inside : territory.action action = true := by
        cases owner : world.ledger.getTxn request.orgOf
            action.transactionID with
        | none =>
            simp [territory, Territory.action, Territory.agent, owned, owner]
        | some txn =>
            have own : txn.agentID = agentID := by
              by_contra foreign
              exact refused ⟨action, txn, found, owner, foreign, runnable⟩
            simp [territory, Territory.action, Territory.agent, owned, owner,
              own]
      have within : Within territory { actions := [action] }
          (run config request.traceID request.orgOf action) :=
        run_within ⟨action, List.mem_singleton_self _, rfl, rfl⟩ inside
      have holds : Holds territory { actions := [action] } world.store :=
        (Holds.nothing _ _).addAction present inside rfl
      refine (within.yields plain sound holds).mono ?_
      rintro _ after ⟨confined, _⟩
      exact .of_confined confined sound.keyed

end Execution

/-! ## All requests of agents -/

section Requests

variable {request : Api.Request} (agent : request.callerIsOperator = false)

include agent

theorem actsAs_iff {agentID : String} :
    request.actsAs agentID = true ↔ agentID = request.callerAgentID := by
  simp [Api.Request.actsAs, agent]

theorem handleCommitTxn_spares (id : String) (plain : Plain request.orgOf)
    (sound : world.store.Sound) :
    (Api.handleCommitTxn request id).Yields (exec config) Generates
      (fun _ after => OthersKept request.orgOf request.callerAgentID
        world.ledger after.ledger) world := by
  have nothing := OthersKept.refl request.orgOf request.callerAgentID world.ledger
  by_cases mine : (Territory.agent world.ledger request.orgOf
      request.callerAgentID).mine id = true
  · have within : Within
        (.agent world.ledger request.orgOf request.callerAgentID) {}
        (Api.handleCommitTxn request id) := handleCommitTxn_within id rfl mine
    refine (within.yields plain sound (Holds.nothing _ _)).mono ?_
    rintro _ after ⟨confined, _⟩
    exact .of_confined confined sound.keyed
  · cases found : world.ledger.getTxn request.orgOf id with
    | none => simp [Territory.agent, found] at mine
    | some txn =>
        have foreign : txn.agentID ≠ request.callerAgentID := by
          simpa [Territory.agent, found] using mine
        have refused : request.actsAs txn.agentID = false :=
          Bool.eq_false_iff.mpr fun acts => foreign ((actsAs_iff agent).mp acts)
        simp only [Api.handleCommitTxn, Prog.perform_bind]
        refine yields_read (fun _ => rfl) (fun _ => found) ?_
        simp only [refused, Bool.not_false, if_true]
        exact nothing

/-- What a proposal comes to: it is handed on, or nothing is written. -/
theorem yields_handleProposeAction {post : World → Prop}
    {body : Api.Decoded Api.ProposeBody}
    (runs : request.Submits body →
      (proposeAction config request.traceID request.orgOf
        body.value.transactionID request.callerAgentID body.value.tool
        body.value.action body.value.arguments
        body.value.idempotencyKey).Yields (exec config) Generates
          (fun _ after => post after) world)
    (stays : ¬ request.Submits body → post world) :
    (Api.handleProposeAction config request body).Yields (exec config) Generates
      (fun _ after => post after) world := by
  simp only [Api.handleProposeAction]
  split
  · rename_i incomplete
    refine stays fun submits => ?_
    simp [submits.1, submits.2.1, submits.2.2.1] at incomplete
  split
  · rename_i unkeyed
    exact stays fun submits => submits.2.2.2.1 unkeyed
  split
  · rename_i incomplete unkeyed acts
    refine stays fun submits => ?_
    simp [(actsAs_iff agent).mpr submits.2.2.2.2] at acts
  · rename_i incomplete unkeyed acts
    simp only [not_or, Bool.not_eq_true] at incomplete
    have own : body.value.agentID = request.callerAgentID :=
      (actsAs_iff agent).mp (by simpa using acts)
    rw [own]
    exact (runs ⟨incomplete.1, incomplete.2.1, incomplete.2.2, unkeyed,
      own⟩).bind fun _ _ done => done

/-- What an MCP call comes to: its tool is registered and it is proposed, or
nothing is written. -/
theorem yields_handleMCPCall {post : World → Prop}
    {body : Api.Decoded Api.MCPCallBody}
    (runs : request.Calls world.store body → ∀ tools,
      (proposeAction config request.traceID request.orgOf
        body.value.transactionID request.callerAgentID
        (Integrations.toolName body.value.server) body.value.tool
        body.value.arguments body.value.idempotencyKey).Yields (exec config)
          Generates (fun _ after => post after) { world with tools := tools })
    (stays : ¬ request.Calls world.store body → post world) :
    (Api.handleMCPCall config request body).Yields (exec config) Generates
      (fun _ after => post after) world := by
  simp only [Api.handleMCPCall, Prog.perform_bind]
  split
  · rename_i incomplete
    refine stays fun calls => ?_
    simp [calls.1.1, calls.1.2.1, calls.1.2.2.1, calls.1.2.2.2.1] at incomplete
  split
  · rename_i unkeyed
    exact stays fun calls => calls.1.2.2.2.2.1 unkeyed
  split
  · rename_i incomplete unkeyed acts
    refine stays fun calls => ?_
    simp [(actsAs_iff agent).mpr calls.1.2.2.2.2.2] at acts
  rename_i incomplete unkeyed acts
  simp only [not_or, Bool.not_eq_true] at incomplete
  have own : body.value.agentID = request.callerAgentID :=
    (actsAs_iff agent).mp (by simpa using acts)
  cases found : world.store.getMCPServer request.orgOf body.value.server with
  | none =>
      refine yields_read (fun _ => rfl) (fun _ => found) (stays ?_)
      rintro ⟨_, server, token, listed, _⟩
      rw [found] at listed
      cases listed
  | some entry =>
      refine yields_read (fun _ => rfl) (fun _ => found) ?_
      obtain ⟨server, token⟩ := entry
      simp only
      split
      · rename_i unlisted
        refine stays ?_
        rintro ⟨_, other, secret, same, tool, member, named⟩
        rw [found, Option.some.injEq, Prod.mk.injEq] at same
        obtain ⟨rfl, _⟩ := same
        simp only [List.all_eq_true] at unlisted
        simpa [named] using unlisted tool member
      · rename_i listed
        obtain ⟨tool, member, named⟩ :
            ∃ tool ∈ server.tools, tool.name = body.value.tool := by
          simpa using listed
        rw [own]
        intro env _
        exact (runs ⟨⟨incomplete.1, incomplete.2.1, incomplete.2.2.1,
          incomplete.2.2.2, unkeyed, own⟩, server, token, found, tool, member,
          named⟩ _).bind fun _ _ done => done

omit agent in
/-- A new transaction leaves the others alone. -/
theorem othersKept_createTxn {env : Env} {orgID agentID : String}
    (txn : Transaction) (fresh : world.ledger.txns.get? env.uid = none) :
    OthersKept orgID agentID world.ledger
      (exec config (.createTxn txn) env world).2.ledger := by
  intro txnID old found _
  have other : txnID ≠ env.uid := by
    rintro rfl
    have present := (Ledger.getTxn_eq_some.mp found).1
    rw [fresh] at present
    cases present
  refine ⟨?_, fun _ _ => Iff.rfl, fun _ _ _ => Iff.rfl, rfl⟩
  refine congrArg (Option.map Transaction.status) ?_
  unfold Ledger.getTxn
  rw [show (exec config (.createTxn txn) env world).2.ledger.txns.get? txnID =
    world.ledger.txns.get? txnID from Table.get?_set_of_ne _ _ other]

/-- A request of an agent that does not encroach keeps the transactions of the
other agents. -/
theorem handle_spares (plain : Plain request.orgOf) (sound : world.store.Sound)
    (apart : ¬ request.Encroaches world.store) :
    (Api.handle config request).Yields (exec config) Generates
      (fun _ after => OthersKept request.orgOf request.callerAgentID
        world.ledger after.ledger) world := by
  have nothing := OthersKept.refl request.orgOf request.callerAgentID world.ledger
  by_cases other : request.intent = .other
  · refine yields_othersKept ((handle_quiet other).mono ?_)
    intro call quiet writes
    cases call <;> first | exact quiet | exact writes
  obtain ⟨caller, traceID, route⟩ := request
  cases route with
  | createTxn body =>
      simp only [Api.handle, Api.handleCreateTxn, Prog.perform_bind]
      split
      · exact nothing
      cases listed : world.store.getAgent _ body.value.agentID with
      | none => exact yields_read (fun _ => rfl) (fun _ => listed) nothing
      | some owner =>
          refine yields_read (fun _ => rfl) (fun _ => listed) ?_
          simp only
          split
          · exact nothing
          · exact fun env generates =>
              othersKept_createTxn _ generates.1.1.txn
  | proposeAction body =>
      refine yields_handleProposeAction agent (fun submits => ?_)
        fun _ => nothing
      exact proposeAction_spares plain sound fun taken => apart ⟨submits, taken⟩
  | mcpCall body =>
      refine yields_handleMCPCall agent (fun calls tools => ?_) fun _ => nothing
      exact proposeAction_spares plain sound fun taken => apart ⟨calls, taken⟩
  | actionSub parts =>
      by_cases form : ∃ id, parts = [id, "execute"]
      · obtain ⟨id, rfl⟩ := form
        exact handleActionSub_spares plain sound apart
      · rw [show Api.handle config ⟨caller, traceID, .actionSub parts⟩ =
          .ret (Api.errJSON 404 "not_found" "Use POST /v1/actions/:id/execute.")
          from handleActionSub_of_other form]
        exact nothing
  | commitTxn id => exact handleCommitTxn_spares agent id plain sound
  | decideApproval parts body =>
      simp only [Api.handle, Api.handleDecideApproval, agent, Bool.not_false,
        if_true]
      exact nothing
  | reconcile id =>
      simp only [Api.handle, Api.handleReconcile, agent, Bool.not_false,
        if_true]
      exact nothing
  | _ => exact absurd rfl other

/-- A request of an agent that encroaches changes a transaction of another
agent. -/
theorem handle_encroaches (plain : Plain request.orgOf)
    (sound : world.store.Sound) (crosses : request.Encroaches world.store) :
    (Api.handle config request).Yields (exec config) Generates
      (fun _ after => ¬ OthersKept request.orgOf request.callerAgentID
        world.ledger after.ledger) world := by
  obtain ⟨caller, traceID, route⟩ := request
  cases route with
  | proposeAction body =>
      refine yields_handleProposeAction agent (fun _ => ?_)
        fun rejected => absurd crosses.1 rejected
      exact proposeAction_encroaches plain sound crosses.2
  | mcpCall body =>
      refine yields_handleMCPCall agent (fun _ tools => ?_)
        fun rejected => absurd crosses.1 rejected
      exact proposeAction_encroaches plain sound crosses.2
  | actionSub parts =>
      have form : ∃ id, parts = [id, "execute"] := by
        unfold Api.Request.Encroaches at crosses
        split at crosses
        case h_1 equal => cases equal
        case h_2 equal => cases equal
        case h_3 id equal => exact ⟨id, Api.Route.actionSub.inj equal⟩
        case h_4 => exact crosses.elim
      obtain ⟨id, rfl⟩ := form
      exact handleActionSub_encroaches sound.keyed crosses
  | _ => exact crosses.elim

end Requests

variable {check : String → String → Bool} {site : Site}

/-- Whether a request encroaches does not depend on the check of its secret. -/
theorem encroaches_authenticate (check : String → String → Bool)
    (store : MemoryStore) (env : Env) (secret headerOrg : String)
    (request : Api.Request) :
    request.Encroaches (Api.authenticate check store env secret headerOrg).2 ↔
      request.Encroaches store := by
  rcases authenticate_cases store env secret headerOrg with same |
    ⟨keyID, ref, identity, _, present, _, touched⟩ |
    ⟨keyID, token, identity, _, present, _, touched⟩
  · rw [same]
  · rw [touched, MemoryStore.touchCredential, present]
    exact Iff.rfl
  · rw [touched, MemoryStore.touchOperatorToken, present]
    exact Iff.rfl

/-- In every reachable state, a request that is authenticated with an agent's
credential keeps the transactions of the organization's other agents exactly if
it is not one of those that go through. -/
theorem agents_kept_apart_iff (reached : Reachable check config site)
    {incoming : Api.Incoming} {env : Env} {identity : Api.Identity}
    (verified : incoming.identity? check env site.world.store = some identity)
    (agent : identity.operator = false) (plain : Plain identity.orgID)
    {envs : Nat → Env}
    (fresh : ∀ mark ∈
      (Api.serve check config incoming env envs site.world).2.2,
        Generates mark.before mark.env) :
    OthersKept identity.orgID identity.agentID site.world.ledger
        (Api.serve check config incoming env envs site.world).2.1.ledger ↔
      ¬ (incoming.verified identity).Encroaches site.world.store := by
  obtain ⟨known, sound⟩ := reached.sound
  obtain ⟨secret, headerOrg, traceID, route⟩ := incoming
  cases secret with
  | none => simp [Api.Incoming.identity?] at verified
  | some secret =>
      have authentic : (Api.authenticate check site.world.store env secret
          headerOrg).1 = some identity := verified
      have still : (Api.authenticate check site.world.store env secret
          headerOrg).2.Sound :=
        Chore.sound_run check (.authenticate secret headerOrg) env sound.store
      have ledger : (Api.authenticate check site.world.store env secret
          headerOrg).2.toLedger = site.world.ledger :=
        ((Chore.authenticate secret headerOrg).frame check env
          site.world.store).1
      let request : Api.Request := ⟨some identity, traceID, route⟩
      have agentRequest : request.callerIsOperator = false := agent
      simp only [Api.serve, authentic] at fresh ⊢
      rw [← ledger, ← encroaches_authenticate check site.world.store env secret
        headerOrg]
      let entered : World := { site.world with
        store := (Api.authenticate check site.world.store env secret
          headerOrg).2 }
      by_cases crosses : request.Encroaches entered.store
      · have changed := (handle_encroaches agentRequest plain still
          crosses).complete () envs fresh
        exact iff_of_false changed fun apart => apart crosses
      · have kept := (handle_spares agentRequest plain still
          crosses).complete () envs fresh
        exact iff_of_true kept crosses

namespace Sample

/-- The first agent opens a transaction. -/
def creating : Api.Request where
  caller := some
    { orgID := "acme", agentID := "id1", operator := false, name := "" }
  traceID := ""
  route := .createTxn
    { failed := false
      value :=
        { agentID := "id1", principalID := "owner", sessionID := ""
          objective := "" } }

/-- The site with the transaction. -/
def opened : Site :=
  ((staffed.admitted Sample.config 0 (.http creating)).step Sample.config 0
    (env 100)).step Sample.config 0 (env 101)

theorem opened_reachable : Reachable compare Sample.config opened := by
  unfold opened
  refine Reachable.step (Reachable.step (staffed_reachable.admitted ?_ ?_) 0
    ?_ ?_) 0 ?_ ?_
  · rfl
  · decide
  · decide +kernel
  · rfl
  · decide +kernel
  · rfl

/-- The second agent proposes a lookup in a transaction, under its own name. -/
def proposing (txnID : String) : Api.Incoming where
  secret := some "st_k3_c"
  headerOrg := ""
  traceID := ""
  route := .proposeAction
    { failed := false
      value :=
        { transactionID := txnID, agentID := "id3", tool := "crm"
          action := "lookup_customer", arguments := none
          idempotencyKey := "k" } }

/-- The identity behind the second agent's secret. -/
def clerk : Api.Identity where
  orgID := "acme"
  agentID := "id3"
  operator := false
  name := ""

end Sample

/-- A proposal for a transaction that does not exist is refused. -/
theorem agents_kept_apart_iff_unknown :
    ¬ ((Sample.proposing "id9").verified Sample.clerk).Encroaches
        Sample.opened.world.store ∧
      OthersKept "acme" "id3" Sample.opened.world.ledger
        (Api.serve Sample.compare Sample.config (Sample.proposing "id9")
          (Sample.env 200) (Sample.envs 3) Sample.opened.world).2.1.ledger := by
  have verified : (Sample.proposing "id9").identity? Sample.compare
      (Sample.env 200) Sample.opened.world.store = some Sample.clerk := rfl
  have apart : ¬ ((Sample.proposing "id9").verified Sample.clerk).Encroaches
      Sample.opened.world.store := by
    rintro ⟨_, ⟨txn, found, _⟩, _⟩
    have absent : Sample.opened.world.ledger.getTxn "acme" "id9" = none := by
      decide +kernel
    cases absent.symm.trans found
  exact ⟨apart, (agents_kept_apart_iff Sample.opened_reachable verified rfl
    (by decide) (by decide +kernel)).mpr apart⟩

/-- An agent adds an action to the transaction of another agent. -/
theorem clerk_proposes_for_bot :
    Reachable Sample.compare Sample.config Sample.opened ∧
      (Sample.proposing "id101").identity? Sample.compare (Sample.env 200)
        Sample.opened.world.store = some Sample.clerk ∧
      (∀ mark ∈ (Api.serve Sample.compare Sample.config
        (Sample.proposing "id101") (Sample.env 200) (Sample.envs 3)
        Sample.opened.world).2.2, Generates mark.before mark.env) ∧
      ¬ OthersKept "acme" "id3" Sample.opened.world.ledger
        (Api.serve Sample.compare Sample.config (Sample.proposing "id101")
          (Sample.env 200) (Sample.envs 3) Sample.opened.world).2.1.ledger := by
  refine ⟨Sample.opened_reachable, rfl, by decide +kernel, ?_⟩
  have owned : ((Sample.opened.world.ledger.getTxn "acme" "id101").any
      fun txn => txn.agentID ≠ "id3") = true := by decide +kernel
  have added : (((Api.serve Sample.compare Sample.config
      (Sample.proposing "id101") (Sample.env 200) (Sample.envs 3)
      Sample.opened.world).2.1.ledger.actions.get? "id303").any fun action =>
        action.orgID = "acme" ∧ action.transactionID = "id101") = true := by
    decide +kernel
  obtain ⟨txn, found, foreign⟩ := (Option.any_eq_true _ _).mp owned
  obtain ⟨action, present, inside⟩ := (Option.any_eq_true _ _).mp added
  obtain ⟨own, within⟩ := of_decide_eq_true inside
  have absent : Sample.opened.world.ledger.actions.get? "id303" = none := by
    decide +kernel
  exact not_othersKept_of_new found (of_decide_eq_true foreign) absent present
    own within

end SettleAgent
