import SettleAgent.Interaction.Ensures
import SettleAgent.Protocol.Programs
import SettleAgent.Tenancy.Role

/-!
# The programs stay in their territory

One lemma for every program of the service and for every handler.  The programs
of one transaction stay in any territory that holds the transaction; all
operations stay in the territory of their organization.
-/

namespace SettleAgent

open Interaction Gateway

variable {territory : Territory} {holdings : Holdings} {config : Config}

/-- Every call of the program is one that an operation in the territory may
make. -/
def Within (territory : Territory) (holdings : Holdings) {α : Type}
    (program : Gate α) : Prop :=
  program.Obeys territory.role (fun _ _ => True) holdings

/-- Known actions stay known. -/
theorem subset_learn (request : Call) (reply : request.Resp) :
    holdings.actions ⊆ (territory.learn holdings request reply).actions := by
  cases request with
  | getAction orgID id =>
      cases reply with
      | none => exact List.Subset.refl _
      | some action =>
          simp only [Territory.learn]
          split
          · exact List.subset_cons_self _ _
          · exact List.Subset.refl _
  | addAction action =>
      obtain ⟨stored, duplicate⟩ := reply
      cases duplicate with
      | true => exact List.Subset.refl _
      | false => exact List.subset_cons_self _ _
  | getAgent orgID agentID => cases reply <;> exact List.Subset.refl _
  | newAgentSecret => cases reply <;> exact List.Subset.refl _
  | getCredential keyID =>
      cases reply with
      | none => exact List.Subset.refl _
      | some ref =>
          simp only [Territory.learn]
          split <;> exact List.Subset.refl _
  | _ => exact List.Subset.refl _

/-- What was known before a program is known after it. -/
theorem Within.remembers {α : Type} {program : Gate α}
    (within : Within territory holdings program) :
    program.Obeys territory.role
      (fun _ after => holdings.actions ⊆ after.actions) holdings := by
  have remembers : ∀ {start : Holdings}, holdings.actions ⊆ start.actions →
      Within territory start program → program.Obeys territory.role
        (fun _ after => holdings.actions ⊆ after.actions) start := by
    clear within
    intro start
    induction program generalizing start with
    | ret value => exact fun known _ => known
    | call request next inductionHypothesis =>
        intro known within
        refine ⟨within.1, fun reply fitting => ?_⟩
        exact inductionHypothesis reply
          (List.Subset.trans known (subset_learn request reply))
          (within.2 reply fitting)
  exact remembers (List.Subset.refl _) within

/-- Compose two programs. -/
theorem Within.bind {α β : Type} {program : Gate α} {rest : α → Gate β}
    (first : Within territory holdings program)
    (second : ∀ value after, holdings.actions ⊆ after.actions →
      Within territory after (rest value)) :
    Within territory holdings (program >>= rest) :=
  first.remembers.bind second

/-- A program in the territory writes there only, and the actions it knew are
still there at its end. -/
theorem Within.yields {α : Type} {program : Gate α} {world : World}
    (within : Within territory holdings program)
    (plain : Plain territory.orgID) (sound : world.store.Sound)
    (holds : Holds territory holdings world.store) :
    program.Yields (exec config) Generates
      (fun _ after => Confined territory world.store after.store ∧
        ∃ last, holdings.actions ⊆ last.actions ∧
          Holds territory last after.store) world := by
  let inv (known : Holdings) (now : World) : Prop :=
    Holds territory known now.store ∧ now.store.Sound ∧
      Confined territory world.store now.store
  have fits : ∀ known now request env, inv known now → Generates now env →
      territory.role.fits request (exec config request env now).1 :=
    fun _ _ request _ kept _ => fits_exec request kept.2.1.keyed
  have step : ∀ known now request env, inv known now → Generates now env →
      territory.role.may known request →
        inv (territory.role.learn known request
          (exec config request env now).1) (exec config request env now).2 := by
    rintro known now request env ⟨kept, sound, confined⟩
      ⟨admissible, unused⟩ may
    exact ⟨kept.learn config sound admissible unused may,
      sound_exec plain sound kept admissible may,
      confined.trans (confined_exec plain sound kept admissible may)⟩
  refine (Prog.Obeys.yields fits step within.remembers
    ⟨holds, sound, .refl _⟩).mono ?_
  rintro value after ⟨last, remembered, kept, _, confined⟩
  exact ⟨confined, last, remembered, kept⟩

/-- The program of a call that is permitted and teaches nothing about
actions. -/
theorem Within.call {α : Type} {request : Call} {next : request.Resp → Gate α}
    (may : territory.May holdings request)
    (following : ∀ reply, Fits request reply →
      Within territory (territory.learn holdings request reply) (next reply)) :
    Within territory holdings (.call request next) :=
  ⟨may, following⟩

theorem Within.ite {α : Type} {condition : Prop} [Decidable condition]
    {program other : Gate α} (first : Within territory holdings program)
    (second : Within territory holdings other) :
    Within territory holdings (if condition then program else other) := by
  split
  · exact first
  · exact second

/-! ## Proposals -/

section Proposal

variable {txn : Transaction} {agent : Agent} {txnID agentID traceID : String}
  {stored : TxnAction} {amount : Option Int}
  (known : ∃ held ∈ holdings.actions, held.id = stored.id)
  (mine : territory.mine txnID = true)

theorem jevScreenRisk_within :
    Within territory holdings
      (jevScreenRisk config territory.orgID txnID agent stored) := by
  unfold jevScreenRisk
  split
  · exact ⟨rfl, fun _ _ => ⟨trivial, fun _ _ => trivial⟩⟩
  · trivial

include known

theorem denyUncovered_within (why : String) :
    Within territory holdings
      (denyUncovered territory.orgID txnID agentID stored why) :=
  ⟨known, fun _ _ => ⟨known, fun _ _ => ⟨known, fun _ _ =>
    ⟨rfl, fun _ _ => trivial⟩⟩⟩⟩

theorem screened_within (decision : PolicyDecision) :
    Within territory holdings
      (screened config territory.orgID txnID agent stored decision) := by
  unfold screened
  split
  · refine jevScreenRisk_within.bind fun verdict after kept => ?_
    cases verdict with
    | none => trivial
    | some why =>
        obtain ⟨held, member, same⟩ := known
        exact ⟨⟨held, kept member, same⟩, fun _ _ => trivial⟩
  · trivial

include mine

theorem recordDecision_within (decision : PolicyDecision) :
    Within territory holdings (recordDecision txn territory.orgID txnID agentID
      stored amount decision) := by
  unfold recordDecision
  split
  · exact ⟨known, fun _ _ => ⟨known, fun _ _ => ⟨rfl, fun _ _ =>
      ⟨rfl, fun _ _ => trivial⟩⟩⟩⟩
  · refine ⟨known, fun _ _ => ⟨known, fun _ _ => ⟨rfl, fun _ _ =>
      ⟨?_, fun _ _ => ⟨rfl, fun _ _ => ⟨⟨rfl, mine⟩, fun _ _ => trivial⟩⟩⟩⟩⟩⟩
    simp [Territory.May, Territory.approval, mine]
  · exact ⟨known, fun _ _ => ⟨known, fun _ _ => ⟨rfl, fun _ _ => trivial⟩⟩⟩

theorem judge_within (config : Config) (txn : Transaction) (agent : Agent)
    (agentID : String) (amount : Option Int) :
    Within territory holdings
      (judge config txn agent territory.orgID txnID agentID stored amount) := by
  refine ⟨rfl, fun legacy _ => ⟨rfl, fun active _ => ⟨trivial, fun now _ =>
    ⟨known, fun _ _ => ?_⟩⟩⟩⟩
  refine (screened_within known _).bind fun final after kept => ?_
  obtain ⟨held, member, same⟩ := known
  exact recordDecision_within ⟨held, kept member, same⟩ mine final

theorem authorize_within :
    Within territory holdings (authorize config traceID txn agent
      territory.orgID txnID agentID stored amount) := by
  have judged := judge_within known mine config txn agent agentID amount
  simp only [authorize, Prog.perform_bind]
  refine .call rfl fun grants _ => .call trivial fun now _ => ?_
  split
  · refine .call rfl fun _ _ => ?_
    split
    · exact judged
    · exact denyUncovered_within known _
  · exact judged

end Proposal

theorem proposeAction_within
    {traceID txnID agentID tool action idemKey : String} {arguments : Object}
    (mine : territory.mine txnID = true) :
    Within territory holdings (proposeAction config traceID territory.orgID
      txnID agentID tool action arguments idemKey) := by
  simp only [proposeAction, Prog.perform_bind]
  refine .call rfl fun found _ => ?_
  cases found with
  | none => trivial
  | some txn =>
      simp only
      split
      · trivial
      refine .call rfl fun agent _ => ?_
      cases agent with
      | none => trivial
      | some agent =>
          refine .call trivial fun classes _ => .call ?_ fun reply _ => ?_
          · simp [Territory.May, Territory.action, mine]
          obtain ⟨stored, duplicate⟩ := reply
          cases duplicate with
          | true => exact ⟨rfl, fun _ _ => trivial⟩
          | false =>
              exact (authorize_within ⟨stored, List.mem_cons_self, rfl⟩
                mine).bind fun _ _ _ => trivial

/-! ## Execution -/

section Execution

variable {traceID : String} {action : TxnAction}

theorem mine_of_inside (inside : territory.action action = true) :
    territory.mine action.transactionID = true := by
  simp only [Territory.action, Bool.and_eq_true] at inside
  exact inside.2

theorem attest_within (mine : territory.mine action.transactionID = true)
    (result : Object) (compensation : Compensation) (started completed : Time) :
    Within territory holdings (attest config territory.orgID action result
      compensation started completed) := by
  simp only [attest, signReceipt, Prog.perform_bind]
  refine .call ?_ fun receipt _ => ?_
  · simp [Territory.May, Territory.receipt, receiptFor, mine]
  have appended : receipt.id ∈ (territory.learn holdings (.appendReceipt
      (receiptFor config territory.orgID action result compensation started
        completed)) receipt).receipts := List.mem_cons_self
  split
  · exact ⟨⟨rfl, appended⟩, fun _ _ => trivial⟩
  · exact ⟨⟨rfl, appended⟩, fun _ _ => ⟨⟨rfl, appended⟩, fun _ _ => trivial⟩⟩

variable (known : ∃ held ∈ holdings.actions,
    held.id = action.id ∧ Ledger.keyOf held = Ledger.keyOf action)
  (inside : territory.action action = true)

include known inside

theorem recordFailure_within (latency : Int) (error : ToolError) :
    Within territory holdings
      (recordFailure traceID territory.orgID action latency error) := by
  cases error with
  | uncertain text =>
      exact ⟨⟨inside, known⟩, fun _ _ => ⟨rfl, fun _ _ => trivial⟩⟩
  | plain text =>
      exact ⟨⟨inside, known⟩, fun _ _ => ⟨rfl, fun _ _ => trivial⟩⟩

theorem recordSuccess_within (latency : Int) (started : Time)
    (result : Object) :
    Within territory holdings (recordSuccess config traceID territory.orgID
      action latency started result) := by
  simp only [recordSuccess, Prog.perform_bind]
  refine .call ⟨inside, known⟩ fun _ _ => .call trivial fun completed _ => ?_
  exact (attest_within (mine_of_inside inside) _ _ _ _).bind fun _ _ _ =>
    ⟨rfl, fun _ _ => trivial⟩

theorem dispatch_within (config : Config) (traceID : String) :
    Within territory holdings
      (dispatch config traceID territory.orgID action) := by
  have own : action.orgID = territory.orgID := by
    simp only [Territory.action, Bool.and_eq_true, decide_eq_true_eq] at inside
    exact inside.1
  simp only [dispatch, Prog.perform_bind]
  refine .call trivial fun started _ => .call rfl fun _ _ =>
    .call own fun outcome _ => .call trivial fun ended _ => ?_
  cases outcome with
  | error error => exact recordFailure_within known inside _ error
  | ok result => exact recordSuccess_within known inside _ started result

theorem run_within :
    Within territory holdings (run config traceID territory.orgID action) := by
  have dispatched := dispatch_within known inside config traceID
  simp only [run, Prog.perform_bind]
  refine .call rfl fun found fits => ?_
  cases found with
  | none => exact dispatched
  | some txn =>
      obtain ⟨named, _⟩ := fits
      simp only
      split
      · refine .call ⟨rfl, ?_⟩ fun _ _ => dispatched
        rw [named]
        exact mine_of_inside inside
      · exact dispatched

end Execution

section Organization

variable {orgID traceID : String}

/-- The actions of the organization are all in its territory. -/
theorem inside_whole {action : TxnAction} (owned : action.orgID = orgID) :
    (Territory.whole orgID).action action = true := by
  simp [Territory.action, Territory.whole, owned]

/-- Go on with the action that was read. -/
theorem getAction_within {actionID : String} {α : Type}
    {next : Option TxnAction → Gate α}
    (missing : Within (.whole orgID) holdings (next none))
    (found : ∀ action after, holdings.actions ⊆ after.actions →
      action.orgID = orgID → action ∈ after.actions →
        Within (.whole orgID) after (next (some action))) :
    Within (.whole orgID) holdings (.call (.getAction orgID actionID) next) := by
  refine .call rfl fun reply fits => ?_
  cases reply with
  | none => exact missing
  | some action =>
      have inside := inside_whole fits.2
      refine found action _ (subset_learn _ _) fits.2 ?_
      simp [Territory.learn, inside]

theorem run_within_whole {action : TxnAction}
    (owned : action.orgID = orgID) (known : action ∈ holdings.actions) :
    Within (.whole orgID) holdings (run config traceID orgID action) :=
  run_within ⟨action, known, rfl, rfl⟩ (inside_whole owned)

theorem executeAllowed_within (actionID : String) :
    Within (.whole orgID) holdings
      (executeAllowed config traceID orgID actionID) := by
  simp only [executeAllowed, Prog.perform_bind]
  refine getAction_within trivial fun action after _ owned known => ?_
  simp only
  repeat' split
  all_goals first | trivial | exact run_within_whole owned known

theorem runApproved_within (actionID : String) :
    Within (.whole orgID) holdings
      (runApproved config traceID orgID actionID) := by
  simp only [runApproved, Prog.perform_bind]
  refine getAction_within trivial fun action after _ owned known => ?_
  simp only
  repeat' split
  all_goals first | trivial | exact run_within_whole owned known

theorem settle_within {action : TxnAction} (owned : action.orgID = orgID)
    (known : action ∈ holdings.actions) (answer : Option Object) :
    Within (.whole orgID) holdings
      (settle config traceID orgID action answer) := by
  have inside := inside_whole owned
  have held : ∃ held ∈ holdings.actions, held.id = action.id ∧
      Ledger.keyOf held = Ledger.keyOf action := ⟨action, known, rfl, rfl⟩
  cases answer with
  | none => exact ⟨⟨inside, held⟩, fun _ _ => ⟨rfl, fun _ _ => trivial⟩⟩
  | some result =>
      simp only [settle, Prog.perform_bind]
      refine .call trivial fun now _ => .call ⟨inside, held⟩ fun _ _ => ?_
      exact (attest_within rfl _ _ _ _).bind fun _ _ _ =>
        ⟨rfl, fun _ _ => trivial⟩

theorem reconcile_within (actionID : String) :
    Within (.whole orgID) holdings
      (reconcile config traceID orgID actionID) := by
  simp only [reconcile, Prog.perform_bind]
  refine getAction_within trivial fun action after _ owned known => ?_
  simp only
  split
  · trivial
  refine .call trivial fun reconciler _ => ?_
  cases reconciler with
  | none => exact ⟨rfl, fun _ _ => trivial⟩
  | some reconciler =>
      refine .call owned fun answer _ => ?_
      cases answer with
      | error error => exact ⟨rfl, fun _ _ => trivial⟩
      | ok found => exact settle_within owned known found

theorem recordCompensation_within (action : TxnAction) (status : ActionStatus) :
    Within (.whole orgID) holdings
      (recordCompensation orgID action status) := by
  simp only [recordCompensation, Prog.perform_bind]
  refine getAction_within trivial fun current after _ owned known => ?_
  exact ⟨⟨inside_whole owned, current, known, rfl, rfl⟩, fun _ _ => trivial⟩

theorem compensateAll_within (txnID : String) (actions : List TxnAction)
    (failed : Bool) :
    Within (.whole orgID) holdings
      (compensateAll orgID txnID actions failed) := by
  induction actions generalizing failed holdings with
  | nil => trivial
  | cons action rest inductionHypothesis =>
      rw [compensateAll]
      split
      · exact inductionHypothesis failed
      split
      · exact ⟨rfl, fun _ _ => inductionHypothesis true⟩
      simp only [Prog.perform_bind]
      refine .call trivial fun outcome _ => ?_
      cases outcome with
      | none =>
          exact (recordCompensation_within action _).bind fun _ _ _ =>
            ⟨rfl, fun _ _ => inductionHypothesis failed⟩
      | some error =>
          exact (recordCompensation_within action _).bind fun _ _ _ =>
            ⟨rfl, fun _ _ => inductionHypothesis true⟩

theorem compensateTransaction_within (txnID : String) :
    Within (.whole orgID) holdings (compensateTransaction orgID txnID) := by
  simp only [compensateTransaction, Prog.perform_bind]
  refine .call rfl fun found _ => ?_
  cases found with
  | none => trivial
  | some txn =>
      refine .call rfl fun actions _ => .call ⟨rfl, rfl⟩ fun _ _ =>
        .call rfl fun _ _ => ?_
      exact (compensateAll_within txnID _ false).bind fun _ _ _ =>
        ⟨⟨rfl, rfl⟩, fun _ _ => trivial⟩

theorem simulate_within (agentID tool action : String) (arguments : Object) :
    Within (.whole orgID) holdings
      (simulate config orgID agentID tool action arguments) := by
  simp only [simulate, Prog.perform_bind]
  refine .call rfl fun agent _ => ?_
  cases agent with
  | none => trivial
  | some agent =>
      refine .call trivial fun classes _ => .call rfl fun grants _ =>
        .call trivial fun clock _ => ?_
      split
      · trivial
      · exact ⟨rfl, fun _ _ => ⟨rfl, fun _ _ => ⟨trivial, fun _ _ => trivial⟩⟩⟩

end Organization

theorem commit_within {traceID txnID : String}
    (mine : territory.mine txnID = true) :
    Within territory holdings (commit traceID territory.orgID txnID) := by
  simp only [commit, Prog.perform_bind]
  refine .call rfl fun found _ => ?_
  cases found with
  | none => trivial
  | some txn =>
      simp only
      split
      · trivial
      refine .call rfl fun actions _ => ?_
      split
      · trivial
      split
      · trivial
      refine .call ⟨rfl, mine⟩ fun written _ => ?_
      cases written with
      | error error => trivial
      | ok _ =>
          refine .call rfl fun _ _ => .call rfl fun out _ => ?_
          cases out <;> trivial

/-! ## Handlers -/

section Handlers

variable {request : Api.Request}

theorem handleRegisterAgent_within (body : Api.Decoded Api.RegisterAgentBody) :
    Within (.whole request.orgOf) {}
      (Api.handleRegisterAgent config request body) := by
  simp only [Api.handleRegisterAgent, Prog.perform_bind]
  repeat' split
  all_goals try trivial
  refine .call trivial fun issued _ => ?_
  cases issued with
  | none => trivial
  | some issued =>
      refine .call rfl fun agent _ => .call ?_ fun _ _ =>
        .call rfl fun _ _ => trivial
      exact ⟨rfl, List.mem_cons_self, List.mem_cons_self⟩

theorem handleRotateCredential_within (agentID : String) :
    Within (.whole request.orgOf) {}
      (Api.handleRotateCredential request agentID) := by
  simp only [Api.handleRotateCredential, Prog.perform_bind]
  split
  · trivial
  refine .call rfl fun found _ => ?_
  cases found with
  | none => trivial
  | some agent =>
      refine .call trivial fun issued _ => ?_
      cases issued with
      | none => trivial
      | some issued =>
          refine .call ?_ fun _ _ => .call rfl fun _ _ => trivial
          exact ⟨rfl, List.mem_cons_self, List.mem_cons_self⟩

theorem handleRevokeCredential_within (keyID : String) :
    Within (.whole request.orgOf) {}
      (Api.handleRevokeCredential request keyID) := by
  simp only [Api.handleRevokeCredential, Prog.perform_bind]
  split
  · trivial
  refine .call trivial fun found _ => ?_
  cases found with
  | none => trivial
  | some ref =>
      simp only
      split
      · trivial
      rename_i owned
      have own : ref.orgID = request.orgOf := by simpa using owned
      refine .call ?_ fun _ _ => .call rfl fun _ _ => trivial
      simp [Territory.May, Territory.learn, Territory.whole, own]

theorem registerTools_within {orgID name url token : String}
    {classes : List (String × List ActionClass)} (tools : List MCPTool) :
    Within (.whole orgID) holdings
      (Api.registerTools name url token classes tools) := by
  induction tools with
  | nil => trivial
  | cons tool tools inductionHypothesis =>
      exact ⟨trivial, fun _ _ => inductionHypothesis⟩

theorem handleRegisterMCPServer_within
    (body : Api.Decoded Api.RegisterMCPServerBody) :
    Within (.whole request.orgOf) {}
      (Api.handleRegisterMCPServer config request body) := by
  simp only [Api.handleRegisterMCPServer, Prog.perform_bind]
  repeat' split
  all_goals try trivial
  refine .call trivial fun listed _ => ?_
  cases listed with
  | error error => trivial
  | ok tools =>
      refine .call rfl fun server _ => ?_
      exact (registerTools_within tools).bind fun _ _ _ =>
        ⟨rfl, fun _ _ => trivial⟩

theorem handleMCPCall_within (body : Api.Decoded Api.MCPCallBody)
    (owner : request.orgOf = territory.orgID)
    (mine : territory.mine body.value.transactionID = true) :
    Within territory {} (Api.handleMCPCall config request body) := by
  simp only [Api.handleMCPCall, Prog.perform_bind, owner]
  repeat' split
  all_goals try trivial
  refine .call owner fun found _ => ?_
  cases found with
  | none => trivial
  | some found =>
      simp only
      split
      · trivial
      refine .call trivial fun _ _ => ?_
      exact (proposeAction_within mine).bind fun _ _ _ => trivial

theorem handleProposeAction_within (body : Api.Decoded Api.ProposeBody)
    (owner : request.orgOf = territory.orgID)
    (mine : territory.mine body.value.transactionID = true) :
    Within territory {} (Api.handleProposeAction config request body) := by
  simp only [Api.handleProposeAction, owner]
  repeat' split
  all_goals try trivial
  exact (proposeAction_within mine).bind fun _ _ _ => trivial

theorem handleCommitTxn_within (id : String)
    (owner : request.orgOf = territory.orgID)
    (mine : territory.mine id = true) :
    Within territory {} (Api.handleCommitTxn request id) := by
  simp only [Api.handleCommitTxn, Prog.perform_bind, owner]
  refine .call owner fun found _ => ?_
  cases found with
  | none => trivial
  | some txn =>
      simp only
      split
      · trivial
      · exact (commit_within mine).bind fun _ _ _ => trivial

theorem handleActionSub_within (parts : List String) :
    Within (.whole request.orgOf) {}
      (Api.handleActionSub config request parts) := by
  simp only [Api.handleActionSub, Prog.perform_bind]
  split
  · refine .call rfl fun found _ => ?_
    split
    · exact (runApproved_within _).bind fun _ _ _ => trivial
    · exact (executeAllowed_within _).bind fun _ _ _ => trivial
  · trivial

theorem applyGrant_within (orgID : String) (approval : Approval) :
    Within (.whole orgID) holdings (Api.applyGrant orgID approval) := by
  simp only [Api.applyGrant, Prog.perform_bind]
  split
  · trivial
  refine getAction_within trivial fun action after _ owned known => ?_
  refine .call ⟨inside_whole owned, action, known, rfl, rfl⟩ fun _ _ =>
    .call rfl fun found _ => ?_
  cases found with
  | none => trivial
  | some txn => exact ⟨⟨rfl, rfl⟩, fun _ _ => trivial⟩

theorem applyDenial_within (orgID : String) (approval : Approval) :
    Within (.whole orgID) holdings (Api.applyDenial orgID approval) := by
  simp only [Api.applyDenial, Prog.perform_bind]
  refine .call rfl fun found _ => ?_
  cases found with
  | none => trivial
  | some txn => exact ⟨⟨rfl, rfl⟩, fun _ _ => trivial⟩

theorem handleDecideApproval_within (parts : List String)
    (body : Api.Decoded Api.DecideBody) :
    Within (.whole request.orgOf) {}
      (Api.handleDecideApproval request parts body) := by
  simp only [Api.handleDecideApproval, Api.decideOn, Prog.perform_bind]
  split
  · trivial
  split
  swap
  · trivial
  refine .call ⟨rfl, fun _ => rfl⟩ fun decided _ => ?_
  cases decided with
  | none => trivial
  | some approval =>
      refine .call rfl fun _ _ => ?_
      apply Within.ite
      · exact (applyGrant_within _ approval).bind fun _ _ _ => trivial
      · exact (applyDenial_within _ approval).bind fun _ _ _ => trivial

/-- Every request stays in the territory of its organization. -/
theorem handle_within (config : Config) (request : Api.Request) :
    Within (.whole request.orgOf) {} (Api.handle config request) := by
  obtain ⟨caller, traceID, route⟩ := request
  cases route
  case registerAgent body => exact handleRegisterAgent_within body
  case proposeAction body => exact handleProposeAction_within body rfl rfl
  case actionSub parts => exact handleActionSub_within parts
  case decideApproval parts body => exact handleDecideApproval_within parts body
  case registerMCPServer body => exact handleRegisterMCPServer_within body
  case mcpCall body => exact handleMCPCall_within body rfl rfl
  case rotateCredential agentID => exact handleRotateCredential_within agentID
  case revokeCredential keyID => exact handleRevokeCredential_within keyID
  case commitTxn id => exact handleCommitTxn_within id rfl rfl
  case reconcile id =>
    simp only [Api.handle, Api.handleReconcile]
    split
    · trivial
    · exact (reconcile_within id).bind fun _ _ _ => trivial
  case simulatePolicy body =>
    simp only [Api.handle, Api.handleSimulatePolicy]
    split
    · trivial
    split
    · trivial
    · exact (simulate_within _ _ _ _).bind fun _ _ _ => trivial
  case createTxn body =>
    simp only [Api.handle, Api.handleCreateTxn, Prog.perform_bind]
    split
    · trivial
    refine .call rfl fun agent _ => ?_
    cases agent with
    | none => trivial
    | some agent =>
        simp only
        split
        · trivial
        · exact ⟨⟨rfl, fun _ => rfl⟩, fun _ _ => trivial⟩
  case createGrant body =>
    simp only [Api.handle, Api.handleCreateGrant, Prog.perform_bind]
    split
    · trivial
    split
    · trivial
    refine .call rfl fun agent _ => ?_
    cases agent with
    | none => trivial
    | some agent =>
        simp only
        split
        · trivial
        · exact ⟨⟨rfl, rfl⟩, fun _ _ => ⟨rfl, fun _ _ => trivial⟩⟩
  all_goals
    simp only [Api.handle, Api.handleListTxns, Api.handleGetTxn,
      Api.handleListApprovals, Api.handleListReceipts, Api.handleAudit,
      Api.handleListPolicies, Api.handleListMCPServers, Api.handleListMCPTools,
      Api.handleListGrants, Api.handleRevokeGrant, Api.handleVerifyReceipts,
      Api.handleVerifyReceipt, Api.handleCreatePolicySet,
      Api.handleListPolicySets, Api.handleActivatePolicySet,
      Api.handleListIntegrations, Api.handleSetIntegrationCredential,
      Api.handleSetHTTPDomains, Prog.perform_bind]
    repeat' first
      | exact trivial
      | refine .call rfl fun _ _ => ?_
      | split

end Handlers

/-! ## Operations -/

/-- The organization for which an operation is made. -/
def Operation.orgID : Operation → String
  | http request => request.orgOf
  | createTxn txn => txn.orgID
  | proposeAction _ orgID _ _ _ _ _ _ | executeAllowed _ orgID _
  | runApproved _ orgID _ | commit _ orgID _ | reconcile _ orgID _
  | compensateTransaction orgID _ | simulate orgID _ _ _ _ => orgID

/-- Every operation stays in the territory of its organization. -/
theorem Operation.within (config : Config) (operation : Operation) :
    Within (.whole operation.orgID) {} (operation.program config) := by
  cases operation with
  | http request =>
      exact (handle_within config request).bind fun _ _ _ => trivial
  | createTxn txn =>
      exact ⟨⟨rfl, fun _ => rfl⟩, fun _ _ => trivial⟩
  | proposeAction traceID orgID txnID agentID tool action arguments idemKey =>
      have stays : Within (.whole orgID) {} (Gateway.proposeAction config
          traceID orgID txnID agentID tool action arguments idemKey) :=
        proposeAction_within rfl
      exact stays.bind fun _ _ _ => trivial
  | executeAllowed traceID orgID actionID =>
      exact (executeAllowed_within actionID).bind fun _ _ _ => trivial
  | runApproved traceID orgID actionID =>
      exact (runApproved_within actionID).bind fun _ _ _ => trivial
  | commit traceID orgID txnID =>
      have stays : Within (.whole orgID) {}
          (Gateway.commit traceID orgID txnID) := commit_within rfl
      exact stays.bind fun _ _ _ => trivial
  | reconcile traceID orgID actionID =>
      exact (reconcile_within actionID).bind fun _ _ _ => trivial
  | compensateTransaction orgID txnID =>
      exact (compensateTransaction_within txnID).bind fun _ _ _ => trivial
  | simulate orgID agentID tool action arguments =>
      exact (simulate_within agentID tool action arguments).bind
        fun _ _ _ => trivial

end SettleAgent
