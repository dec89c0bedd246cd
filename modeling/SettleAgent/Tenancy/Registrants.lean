import SettleAgent.Interaction.Unwinding
import SettleAgent.Tenancy.Programs

/-!
# Who has registered a tool

The registry is shared by all organizations.  Its keys name a server and a tool
of it, and not the organization for which the server was registered, so the
last registration under a key counts for everybody.

A program registers a tool only with the address and the token under which its
own organization has filed the server.  From this it follows what a handler
that stands in the registry calls.
-/

namespace SettleAgent

open Interaction Gateway Integrations

/-! ## Definitions -/

/-- The key under which a call registers a tool action. -/
def Call.registers : Call → Option String
  | .register tool action _ _ => some (Registry.key tool action)
  | _ => none

/-- The organization for which the last registration under a key was made. -/
def registrant (operations : Nat → Operation)
    (marks : List (Mark Nat Call Env World)) (key : String) : Option String :=
  marks.foldl (fun last mark =>
    if mark.request.registers = some key then
      some (operations mark.caller).orgID
    else last) none

theorem registrant_concat (operations : Nat → Operation)
    (marks : List (Mark Nat Call Env World)) (mark : Mark Nat Call Env World)
    (key : String) :
    registrant operations (marks ++ [mark]) key =
      if mark.request.registers = some key then
        some (operations mark.caller).orgID
      else registrant operations marks key := by
  simp only [registrant, List.foldl_append, List.foldl_cons, List.foldl_nil]

/-- A server as it is on file. -/
structure ServerFile where
  name : String
  url : String
  token : String

/-- The organization has filed the server, under a valid name. -/
def OnFile (operations : Nat → Operation)
    (marks : List (Mark Nat Call Env World)) (orgID : String)
    (file : ServerFile) : Prop :=
  Api.mcpName file.name = true ∧
    ∃ mark ∈ marks, (operations mark.caller).orgID = orgID ∧
      ∃ server, mark.request = .upsertMCPServer server file.token ∧
        server.name = file.name ∧ server.url = file.url

theorem OnFile.append {operations : Nat → Operation}
    {marks : List (Mark Nat Call Env World)} {orgID : String}
    {file : ServerFile} (filed : OnFile operations marks orgID file)
    (later : List (Mark Nat Call Env World)) :
    OnFile operations (marks ++ later) orgID file := by
  obtain ⟨valid, mark, made, stored⟩ := filed
  exact ⟨valid, mark, List.mem_append_left later made, stored⟩

/-- The operation only asks what would become of a proposal. -/
def Operation.simulates : Operation → Bool
  | http request =>
      match request.route with
      | .simulatePolicy _ => true
      | _ => false
  | simulate _ _ _ _ _ => true
  | _ => false

/-- The call changes nothing. -/
def Call.Silent (request : Call) : Prop :=
  ∀ config env world, (exec config request env world).2 = world

/-! ## The role -/

/-- What a program has found out: the servers that its organization has on
file, and that it was turned away, since a credential is not one of its
organization. -/
structure Standing where
  dismissed : Bool := false
  files : List ServerFile := []

namespace Standing

def learn (orgID : String) (standing : Standing) :
    (request : Call) → request.Resp → Standing
  | .upsertMCPServer server token, _ =>
      { standing with
        files := ⟨server.name, server.url, token⟩ :: standing.files }
  | .getMCPServer _ name, some (server, token) =>
      { standing with files := ⟨name, server.url, token⟩ :: standing.files }
  | .getCredential _, reply =>
      { standing with
        dismissed := standing.dismissed ||
          !reply.any fun ref => ref.orgID = orgID }
  | _, _ => standing

theorem dismissed_learn {orgID : String} {standing : Standing}
    (dismissed : standing.dismissed = true) (request : Call)
    (reply : request.Resp) :
    (standing.learn orgID request reply).dismissed = true := by
  cases request with
  | getCredential keyID => simp only [learn, dismissed, Bool.true_or]
  | getMCPServer owner name => cases reply <;> exact dismissed
  | _ => exact dismissed

/-- Whether a program may make the call for its organization. -/
def Permits (orgID : String) (standing : Standing) : Call → Prop
  | .register tool action _ handler =>
      ∃ file ∈ standing.files, tool = toolName file.name ∧
        handler = .mcp file.url file.token action
  | .upsertMCPServer server _ =>
      server.orgID = orgID ∧ Api.mcpName server.name = true
  | .getMCPServer owner _ => owner = orgID
  | _ => True

/-- The role of an operation. -/
def role (operation : Operation) : Role Call Call.Resp Standing where
  learn := learn operation.orgID
  may := fun standing request =>
    (standing.dismissed = true ∨ operation.simulates = true →
      request.Silent) ∧ standing.Permits operation.orgID request
  fits := fun _ _ => True

end Standing

/-! ## Programs -/

/-- The calls that neither read nor write the files of servers, nor look up a
credential. -/
def Call.Ordinary : Call → Prop
  | .register _ _ _ _ | .upsertMCPServer _ _ | .getMCPServer _ _
  | .getCredential _ => False
  | _ => True

section Programs

variable {config : Config}

theorem authorize_ordinary (traceID : String) (txn : Transaction)
    (agent : Agent) (orgID txnID agentID : String) (stored : TxnAction)
    (amount : Option Int) :
    (authorize config traceID txn agent orgID txnID agentID stored
      amount).AllCalls Call.Ordinary := by
  have screens : ∀ decision, (screened config orgID txnID agent stored
      decision).AllCalls Call.Ordinary := by
    intro decision
    have screen : (jevScreenRisk config orgID txnID agent stored).AllCalls
        Call.Ordinary := by
      unfold jevScreenRisk
      split
      · exact ⟨trivial, fun _ => ⟨trivial, fun _ => trivial⟩⟩
      · exact trivial
    unfold screened
    split
    · refine screen.bind fun verdict => ?_
      cases verdict with
      | none => exact trivial
      | some why => exact ⟨trivial, fun _ => trivial⟩
    · exact trivial
  have records : ∀ decision, (recordDecision txn orgID txnID agentID stored
      amount decision).AllCalls Call.Ordinary := by
    intro decision
    simp only [recordDecision, Prog.perform_bind]
    repeat' first
      | exact trivial
      | refine Prog.AllCalls.call trivial fun _ => ?_
      | split
  have judges : (judge config txn agent orgID txnID agentID stored
      amount).AllCalls Call.Ordinary := by
    refine ⟨trivial, fun _ => ⟨trivial, fun _ => ⟨trivial, fun _ =>
      ⟨trivial, fun _ => ?_⟩⟩⟩⟩
    exact (screens _).bind fun decision => records decision
  simp only [authorize, denyUncovered, Prog.perform_bind]
  repeat' first
    | exact judges
    | exact trivial
    | refine Prog.AllCalls.call trivial fun _ => ?_
    | split

theorem proposeAction_ordinary
    (traceID orgID txnID agentID tool action : String)
    (arguments : Object) (idemKey : String) :
    (proposeAction config traceID orgID txnID agentID tool action arguments
      idemKey).AllCalls Call.Ordinary := by
  simp only [proposeAction, Prog.perform_bind]
  repeat' first
    | exact trivial
    | exact (authorize_ordinary _ _ _ _ _ _ _ _).bind fun _ => trivial
    | refine Prog.AllCalls.call trivial fun _ => ?_
    | split

theorem attest_ordinary (orgID : String) (action : TxnAction) (result : Object)
    (compensation : Compensation) (started completed : Time) :
    (attest config orgID action result compensation started
      completed).AllCalls Call.Ordinary := by
  refine ⟨trivial, fun receipt => ?_⟩
  have signs : (signReceipt config orgID receipt).AllCalls Call.Ordinary := by
    unfold signReceipt
    split
    · exact trivial
    · exact ⟨trivial, fun _ => trivial⟩
  exact signs.bind fun signed => ⟨trivial, fun _ => trivial⟩

theorem run_ordinary (traceID orgID : String) (action : TxnAction) :
    (Gateway.run config traceID orgID action).AllCalls Call.Ordinary := by
  simp only [Gateway.run, dispatch, recordFailure, recordSuccess,
    Prog.perform_bind]
  repeat' first
    | exact trivial
    | exact (attest_ordinary _ _ _ _ _ _).bind fun _ =>
        ⟨trivial, fun _ => trivial⟩
    | refine Prog.AllCalls.call trivial fun _ => ?_
    | split

theorem executeAllowed_ordinary (traceID orgID actionID : String) :
    (executeAllowed config traceID orgID actionID).AllCalls Call.Ordinary := by
  simp only [executeAllowed, Prog.perform_bind]
  repeat' first
    | exact trivial
    | exact run_ordinary _ _ _
    | refine Prog.AllCalls.call trivial fun _ => ?_
    | split

theorem runApproved_ordinary (traceID orgID actionID : String) :
    (runApproved config traceID orgID actionID).AllCalls Call.Ordinary := by
  simp only [runApproved, Prog.perform_bind]
  repeat' first
    | exact trivial
    | exact run_ordinary _ _ _
    | refine Prog.AllCalls.call trivial fun _ => ?_
    | split

theorem commit_ordinary (traceID orgID txnID : String) :
    (commit traceID orgID txnID).AllCalls Call.Ordinary := by
  simp only [commit, Prog.perform_bind]
  repeat' first
    | exact trivial
    | refine Prog.AllCalls.call trivial fun _ => ?_
    | split

theorem reconcile_ordinary (traceID orgID actionID : String) :
    (reconcile config traceID orgID actionID).AllCalls Call.Ordinary := by
  simp only [reconcile, settle, Prog.perform_bind]
  repeat' first
    | exact trivial
    | exact (attest_ordinary _ _ _ _ _ _).bind fun _ =>
        ⟨trivial, fun _ => trivial⟩
    | refine Prog.AllCalls.call trivial fun _ => ?_
    | split

theorem compensateTransaction_ordinary (orgID txnID : String) :
    (compensateTransaction orgID txnID).AllCalls Call.Ordinary := by
  have records : ∀ action status, (recordCompensation orgID action
      status).AllCalls Call.Ordinary := by
    intro action status
    refine ⟨trivial, fun found => ?_⟩
    cases found with
    | none => exact trivial
    | some current => exact ⟨trivial, fun _ => trivial⟩
  have all : ∀ actions failed, (compensateAll orgID txnID actions
      failed).AllCalls Call.Ordinary := by
    intro actions
    induction actions with
    | nil => exact fun _ => trivial
    | cons action rest inductionHypothesis =>
        intro failed
        simp only [compensateAll, Prog.perform_bind]
        repeat' first
          | exact inductionHypothesis _
          | exact (records _ _).bind fun _ =>
              ⟨trivial, fun _ => inductionHypothesis _⟩
          | refine Prog.AllCalls.call trivial fun _ => ?_
          | split
  refine ⟨trivial, fun txn => ?_⟩
  cases txn with
  | none => exact trivial
  | some txn =>
      refine ⟨trivial, fun actions => ⟨trivial, fun _ => ⟨trivial, fun _ => ?_⟩⟩⟩
      exact (all actions.reverse false).bind fun failed =>
        ⟨trivial, fun _ => trivial⟩

theorem handleDecideApproval_ordinary (request : Api.Request)
    (parts : List String) (body : Api.Decoded Api.DecideBody) :
    (Api.handleDecideApproval request parts body).AllCalls Call.Ordinary := by
  have grants : ∀ orgID approval,
      (Api.applyGrant orgID approval).AllCalls Call.Ordinary := by
    intro orgID approval
    simp only [Api.applyGrant, Prog.perform_bind]
    repeat' first
      | exact trivial
      | refine Prog.AllCalls.call trivial fun _ => ?_
      | split
  have denies : ∀ orgID approval,
      (Api.applyDenial orgID approval).AllCalls Call.Ordinary := by
    intro orgID approval
    simp only [Api.applyDenial, Prog.perform_bind]
    repeat' first
      | exact trivial
      | refine Prog.AllCalls.call trivial fun _ => ?_
      | split
  unfold Api.handleDecideApproval
  split
  · exact trivial
  split
  · refine ⟨trivial, fun decided => ?_⟩
    cases decided with
    | none => exact trivial
    | some approval =>
        refine ⟨trivial, fun _ => ?_⟩
        change Prog.AllCalls _ (if _ then _ else _)
        split
        · exact (grants _ _).bind fun _ => trivial
        · exact (denies _ _).bind fun _ => trivial
  · exact trivial

/-- The handlers of all routes but five make ordinary calls only. -/
theorem handle_ordinary (request : Api.Request)
    (other : match request.route with
      | .registerMCPServer _ | .listMCPTools _ | .mcpCall _
      | .revokeCredential _ | .simulatePolicy _ => False
      | _ => True) :
    (Api.handle config request).AllCalls Call.Ordinary := by
  obtain ⟨caller, traceID, route⟩ := request
  cases route
  case registerMCPServer => exact other.elim
  case listMCPTools => exact other.elim
  case mcpCall => exact other.elim
  case revokeCredential => exact other.elim
  case simulatePolicy => exact other.elim
  case decideApproval => exact handleDecideApproval_ordinary _ _ _
  all_goals
    simp only [Api.handle, Api.handleRegisterAgent, Api.handleCreateTxn,
      Api.handleListTxns, Api.handleGetTxn, Api.handleProposeAction,
      Api.handleActionSub, Api.handleListApprovals, Api.handleListReceipts,
      Api.handleAudit, Api.handleListPolicies, Api.handleListMCPServers,
      Api.handleCreateGrant, Api.handleListGrants, Api.handleReconcile,
      Api.handleRevokeGrant, Api.handleRotateCredential,
      Api.handleVerifyReceipts, Api.handleVerifyReceipt,
      Api.handleCreatePolicySet, Api.handleListPolicySets,
      Api.handleActivatePolicySet, Api.handleListIntegrations,
      Api.handleSetIntegrationCredential, Api.handleSetHTTPDomains,
      Api.handleCommitTxn, Prog.perform_bind]
    repeat' first
      | exact trivial
      | exact (proposeAction_ordinary _ _ _ _ _ _ _ _).bind fun _ => trivial
      | exact (executeAllowed_ordinary _ _ _).bind fun _ => trivial
      | exact (runApproved_ordinary _ _ _).bind fun _ => trivial
      | exact (commit_ordinary _ _ _).bind fun _ => trivial
      | exact (reconcile_ordinary _ _ _).bind fun _ => trivial
      | refine Prog.AllCalls.call trivial fun _ => ?_
      | split

/-- Nothing that a simulation does leaves a trace. -/
theorem simulate_silent
    (orgID agentID tool action : String) (arguments : Object) :
    (simulate config orgID agentID tool action arguments).AllCalls
      fun request => request.Silent ∧ request.Ordinary := by
  have quiet : ∀ {request : Call},
      (∀ config env world, (exec config request env world).2 = world) →
        request.Ordinary → request.Silent ∧ request.Ordinary :=
    fun silent ordinary => ⟨silent, ordinary⟩
  refine ⟨quiet (fun _ _ _ => rfl) trivial, fun agent => ?_⟩
  cases agent with
  | none => exact trivial
  | some agent =>
      refine ⟨quiet (fun _ _ _ => rfl) trivial, fun _ =>
        ⟨quiet (fun _ _ _ => rfl) trivial, fun _ =>
          ⟨quiet (fun _ _ _ => rfl) trivial, fun _ => ?_⟩⟩⟩
      change Prog.AllCalls _ (if _ then _ else _)
      split
      · exact trivial
      · exact ⟨quiet (fun _ _ _ => rfl) trivial, fun _ =>
          ⟨quiet (fun _ _ _ => rfl) trivial, fun _ =>
            ⟨quiet (fun _ _ _ => rfl) trivial, fun _ => trivial⟩⟩⟩

/-- A program of an operation, with any value and any standing at its end. -/
abbrev Upright (operation : Operation) (standing : Standing) {α : Type}
    (program : Gate α) : Prop :=
  program.Obeys (Standing.role operation) (fun _ _ => True) standing

variable {operation : Operation} {standing : Standing} {α : Type}
  {program : Gate α}

/-- Ordinary calls may be made at any time, by an operation that is not
dismissed. -/
theorem upright_of_ordinary (ordinary : program.AllCalls Call.Ordinary)
    (active : standing.dismissed = false)
    (acts : operation.simulates = false) :
    Upright operation standing program := by
  have obeys : program.Obeys (Standing.role operation)
      (fun _ after => after.dismissed = false) standing := by
    refine Prog.obeys_of_allCalls ordinary ?_ ?_ active
    · intro current request still usual
      refine ⟨fun barred => ?_, ?_⟩
      · simp [still, acts] at barred
      · cases request <;> first | exact trivial | exact usual.elim
    · intro current request reply still usual
      cases request <;> first | exact still | exact usual.elim
  exact obeys.mono fun _ _ _ => trivial

/-- So may those that leave no trace, by any operation. -/
theorem upright_of_silent
    (silent : program.AllCalls fun request =>
      request.Silent ∧ request.Ordinary) :
    Upright operation standing program := by
  refine Prog.obeys_of_allCalls silent ?_ (fun _ _ _ _ _ => trivial) trivial
  intro current request _ usual
  refine ⟨fun _ => usual.1, ?_⟩
  cases request <;> first | exact trivial | exact usual.2.elim

/-- One call, by an operation that is not dismissed. -/
theorem Upright.call {request : Call} {next : request.Resp → Gate α}
    (acts : operation.simulates = false) (active : standing.dismissed = false)
    (permitted : standing.Permits operation.orgID request)
    (following : ∀ reply, Upright operation
      (standing.learn operation.orgID request reply) (next reply)) :
    Upright operation standing (.call request next) := by
  refine ⟨⟨fun barred => ?_, permitted⟩, fun reply _ => following reply⟩
  simp [acts, active] at barred

theorem registerTools_upright
    (acts : operation.simulates = false) (active : standing.dismissed = false)
    {file : ServerFile} (filed : file ∈ standing.files)
    (classes : List (String × List ActionClass)) (tools : List MCPTool) :
    (Api.registerTools file.name file.url file.token classes tools).Obeys
      (Standing.role operation) (fun _ after => after.dismissed = false)
      standing := by
  induction tools with
  | nil => exact active
  | cons tool tools inductionHypothesis =>
      refine ⟨⟨fun barred => ?_, file, filed, rfl, rfl⟩, fun _ _ =>
        inductionHypothesis⟩
      simp [acts, active] at barred

end Programs

section Handlers

variable (config : Config) (request : Api.Request)

theorem handleRegisterMCPServer_upright
    (acts : (Operation.http request).simulates = false)
    (body : Api.Decoded Api.RegisterMCPServerBody) :
    Upright (.http request) {}
      (Api.handleRegisterMCPServer config request body) := by
  simp only [Api.handleRegisterMCPServer, Prog.perform_bind]
  split
  · trivial
  split
  · trivial
  split
  · trivial
  rename_i refused
  have valid : Api.mcpName body.value.name = true := by simpa using refused
  repeat' split
  all_goals try trivial
  refine .call acts rfl trivial fun listed => ?_
  cases listed with
  | error error => trivial
  | ok tools =>
      refine .call acts rfl ⟨rfl, valid⟩ fun server => ?_
      let file : ServerFile :=
        ⟨body.value.name, body.value.url, body.value.authToken⟩
      have filed : file ∈ (Standing.mk false [file]).files :=
        List.mem_cons_self
      refine (registerTools_upright acts rfl filed _ tools).bind
        fun _ after active => ?_
      exact Upright.call acts active trivial fun _ => trivial

theorem handleMCPCall_upright
    (acts : (Operation.http request).simulates = false)
    (body : Api.Decoded Api.MCPCallBody) :
    Upright (.http request) {} (Api.handleMCPCall config request body) := by
  simp only [Api.handleMCPCall, Prog.perform_bind]
  repeat' split
  all_goals try trivial
  refine .call acts rfl rfl fun found => ?_
  cases found with
  | none => trivial
  | some found =>
      simp only
      split
      · trivial
      refine .call acts rfl ⟨_, List.mem_cons_self, rfl, rfl⟩ fun _ => ?_
      exact (upright_of_ordinary (proposeAction_ordinary _ _ _ _ _ _ _ _) rfl
        acts).bind fun _ _ _ => trivial

theorem handleRevokeCredential_upright
    (acts : (Operation.http request).simulates = false) (keyID : String) :
    Upright (.http request) {}
      (Api.handleRevokeCredential request keyID) := by
  simp only [Api.handleRevokeCredential, Prog.perform_bind]
  split
  · trivial
  refine .call acts rfl trivial fun found => ?_
  cases found with
  | none => trivial
  | some ref =>
      simp only
      split
      · trivial
      rename_i owned
      have own : ref.orgID = request.orgOf := by simpa using owned
      have active : (Standing.learn request.orgOf {} (.getCredential keyID)
          (some ref)).dismissed = false := by
        simp [Standing.learn, own]
      exact .call acts active trivial fun _ => .call acts active trivial
        fun _ => trivial

theorem handle_upright :
    Upright (.http request) {} (Api.handle config request) := by
  obtain ⟨caller, traceID, route⟩ := request
  cases route
  case registerMCPServer body =>
    exact handleRegisterMCPServer_upright config _ rfl body
  case mcpCall body => exact handleMCPCall_upright config _ rfl body
  case revokeCredential keyID => exact handleRevokeCredential_upright _ rfl keyID
  case listMCPTools server =>
    simp only [Api.handle, Api.handleListMCPTools, Prog.perform_bind]
    split
    · exact .call rfl rfl trivial fun _ => trivial
    · refine .call rfl rfl rfl fun found => ?_
      cases found <;> trivial
  case simulatePolicy body =>
    simp only [Api.handle, Api.handleSimulatePolicy]
    split
    · trivial
    split
    · trivial
    · exact (upright_of_silent (simulate_silent _ _ _ _ _)).bind
        fun _ _ _ => trivial
  all_goals exact upright_of_ordinary (handle_ordinary _ trivial) rfl rfl

end Handlers

/-- Every operation keeps to its role. -/
theorem Operation.upright (config : Config) (operation : Operation) :
    Upright operation {} (operation.program config) := by
  cases operation with
  | http request =>
      exact (handle_upright config request).bind fun _ _ _ => trivial
  | createTxn txn =>
      refine ⟨⟨fun barred => ?_, trivial⟩, fun _ _ => trivial⟩
      simp [Operation.simulates] at barred
  | proposeAction traceID orgID txnID agentID tool action arguments idemKey =>
      exact (upright_of_ordinary (proposeAction_ordinary _ _ _ _ _ _ _ _) rfl
        rfl).bind fun _ _ _ => trivial
  | executeAllowed traceID orgID actionID =>
      exact (upright_of_ordinary (executeAllowed_ordinary _ _ _) rfl
        rfl).bind fun _ _ _ => trivial
  | runApproved traceID orgID actionID =>
      exact (upright_of_ordinary (runApproved_ordinary _ _ _) rfl
        rfl).bind fun _ _ _ => trivial
  | commit traceID orgID txnID =>
      exact (upright_of_ordinary (commit_ordinary _ _ _) rfl
        rfl).bind fun _ _ _ => trivial
  | reconcile traceID orgID actionID =>
      exact (upright_of_ordinary (reconcile_ordinary _ _ _) rfl
        rfl).bind fun _ _ _ => trivial
  | compensateTransaction orgID txnID =>
      exact (upright_of_ordinary (compensateTransaction_ordinary _ _) rfl
        rfl).bind fun _ _ _ => trivial
  | simulate orgID agentID tool action arguments =>
      exact (upright_of_silent (simulate_silent _ _ _ _ _)).bind
        fun _ _ _ => trivial

/-! ## What is on file and in the registry -/

/-- The contract of `keys.Provider`: what was sealed is not empty and opens to
the secret.  A secret that could not be sealed is stored as it is, and opens to
itself or not at all. -/
structure KeyProvider.Restores (provider : KeyProvider) : Prop where
  sealed : ∀ nonce secret text, provider.sealSecret nonce secret = some text →
    text ≠ "" ∧ provider.openSealed text = some secret
  unsealed : ∀ nonce secret opened, provider.sealSecret nonce secret = none →
    provider.openSealed secret = some opened → opened = secret

/-- What is opened is what was stored. -/
theorem MemoryStore.openLocked_sealLocked {store : MemoryStore}
    (restores : ∀ provider, store.keyProvider = some provider →
      provider.Restores) {nonce secret opened : String}
    (opens : store.openLocked (store.sealLocked nonce secret) = some opened) :
    opened = secret := by
  unfold openLocked sealLocked at opens
  cases given : store.keyProvider with
  | none =>
      simp only [given] at opens
      split at opens <;> simp_all
  | some provider =>
      obtain ⟨sealed, unsealed⟩ := restores provider given
      simp only [given] at opens
      by_cases empty : secret = ""
      · simp only [empty, if_true, Option.some.injEq] at opens
        rw [empty, opens]
      · simp only [empty, if_false] at opens
        cases done : provider.sealSecret nonce secret with
        | none =>
            simp only [done, Option.getD_none, empty, if_false] at opens
            exact unsealed nonce secret opened done opens
        | some text =>
            obtain ⟨filled, opensTo⟩ := sealed nonce secret text done
            simp only [done, Option.getD_some, filled, if_false, opensTo,
              Option.some.injEq] at opens
            exact opens.symm

/-- One of the calls has stored the entry for its own organization. -/
def Stored (world : World) (operations : Nat → Operation)
    (marks : List (Mark Nat Call Env World)) (key : String)
    (entry : MCPEntry) : Prop :=
  ∃ mark ∈ marks, ∃ server token nonce,
    mark.request = .upsertMCPServer server token ∧
    server.orgID = (operations mark.caller).orgID ∧
    Api.mcpName server.name = true ∧
    key = MemoryStore.mcpKey server.orgID server.name ∧
    entry.server.url = server.url ∧
    entry.token = world.store.sealLocked nonce token

/-- What the files and the registry hold, by the calls that were made. -/
structure Recorded (config : Config) (world : World)
    (operations : Nat → Operation) (history : History Call Env World) :
    Prop where
  keyProvider :
    history.state.store.keyProvider = world.store.keyProvider
  servers : ∀ key entry, history.state.store.mcpServers.get? key = some entry →
    Stored world operations history.marks key entry
  unclaimed : ∀ key, registrant operations history.marks key = none →
    history.state.tools.handlers.get? key = world.tools.handlers.get? key
  claimed : ∀ key orgID,
    registrant operations history.marks key = some orgID →
      ∃ file tool, OnFile operations history.marks orgID file ∧
        key = Registry.key (toolName file.name) tool ∧
        history.state.tools.handlers.get? key =
          some (.mcp file.url file.token tool)
  files : ∀ thread, ∀ file ∈ (history.view (exec config)
      (Standing.role (operations thread)) {} thread).files,
    OnFile operations history.marks (operations thread).orgID file

theorem keyProvider_exec (config : Config) (request : Call) (env : Env)
    (world : World) :
    (exec config request env world).2.store.keyProvider =
      world.store.keyProvider := by
  by_cases admits : request.Admits
  swap
  · exact (admitted_exec config env world admits).2.2
  cases request with
  | revokeCredential keyID =>
      simp only [exec, World.withStore, MemoryStore.revokeCredential]
      split <;> rfl
  | _ => first | rfl | exact admits.elim

theorem mcpServers_exec (config : Config) {request : Call} (env : Env)
    (world : World)
    (keeps : ∀ server token, request ≠ .upsertMCPServer server token) :
    (exec config request env world).2.store.mcpServers =
      world.store.mcpServers := by
  by_cases admits : request.Admits
  swap
  · exact (admitted_exec config env world admits).2.1
  cases request with
  | createAgent => rfl
  | storeCredential => rfl
  | revokeCredential keyID => exact (revokeCredential_frame world.store keyID).2
  | upsertMCPServer server token => exact absurd rfl (keeps server token)
  | _ => exact admits.elim

theorem Call.registers_eq_some {request : Call} {key : String} :
    request.registers = some key ↔ ∃ tool action classes handler,
      request = .register tool action classes handler ∧
        key = Registry.key tool action := by
  cases request <;> simp [Call.registers, eq_comm]

variable {env : Env}

theorem handlers_exec {config : Config} {request : Call}
    {world : World} {key : String} (elsewhere : ¬ request.registers = some key) :
    (exec config request env world).2.tools.handlers.get? key =
      world.tools.handlers.get? key := by
  cases request with
  | register tool action classes handler =>
      refine Table.get?_set_of_ne _ _ ?_
      rintro rfl
      exact elsewhere rfl
  | _ => rfl

theorem classMeta_exec {config : Config} {request : Call}
    {world : World} {key : String} (elsewhere : ¬ request.registers = some key) :
    (exec config request env world).2.tools.classMeta.get? key =
      world.tools.classMeta.get? key := by
  cases request with
  | register tool action classes handler =>
      refine Table.get?_set_of_ne _ _ ?_
      rintro rfl
      exact elsewhere rfl
  | _ => rfl

/-- A call that changes nothing registers nothing. -/
theorem Call.Silent.registers {request : Call} (silent : request.Silent)
    (config : Config) (env : Env) (store : MemoryStore) :
    request.registers = none := by
  cases request with
  | register tool action classes handler =>
      let bare : World :=
        { store := store, tools := ⟨∅, ∅, ∅, ∅⟩, network := [] }
      have present : (exec config (.register tool action classes handler) env
          bare).2.tools.handlers.get? (Registry.key tool action) =
            some handler := Table.get?_set_self _ _ _
      rw [silent config env bare] at present
      cases present
  | _ => rfl

variable {thread : Nat}

namespace Recorded

variable {config : Config} {world : World} {operations : Nat → Operation}
  {history : History Call Env World}

theorem start (unserved : world.store.mcpServers = ∅) :
    Recorded config world operations (History.start world) where
  keyProvider := rfl
  servers := by
    intro key entry present
    simp [History.start, unserved] at present
  unclaimed := fun _ _ => rfl
  claimed := by simp [History.start, registrant]
  files := by simp

variable (recorded : Recorded config world operations history)
  (plain : ∀ thread, Plain (operations thread).orgID)
  (restores : ∀ provider, world.store.keyProvider = some provider →
    provider.Restores)

include recorded

theorem sealLocked (nonce secret : String) :
    history.state.store.sealLocked nonce secret =
      world.store.sealLocked nonce secret := by
  rw [MemoryStore.sealLocked, recorded.keyProvider]
  rfl

include plain restores

/-- A server that an organization reads is one that it has filed. -/
theorem getMCPServer {name token : String} {server : MCPServer}
    (found : history.state.store.getMCPServer (operations thread).orgID name =
      some (server, token)) :
    OnFile operations history.marks (operations thread).orgID
      ⟨name, server.url, token⟩ := by
  unfold MemoryStore.getMCPServer at found
  split at found
  swap
  · cases found
  rename_i entry present
  rw [Option.map_eq_some_iff] at found
  obtain ⟨opened, opens, same⟩ := found
  obtain ⟨rfl, rfl⟩ := Prod.mk.inj same
  obtain ⟨mark, made, filed, stored, nonce, request, owned, valid, key, url,
    sealed⟩ := recorded.servers _ entry present
  rw [owned] at key
  obtain ⟨sameOrg, sameName⟩ := joined_inj (plain thread) (plain mark.caller) key
  have unchanged : opened = stored := by
    rw [sealed, MemoryStore.openLocked, recorded.keyProvider] at opens
    exact MemoryStore.openLocked_sealLocked restores opens
  subst unchanged
  exact ⟨sameName ▸ valid, mark, made, sameOrg.symm, filed, request,
    sameName.symm, url.symm⟩

omit plain restores in
/-- The files of servers after a call. -/
theorem servers_next {request : Call}
    (permitted : (history.view (exec config)
      (Standing.role (operations thread)) {} thread).Permits
        (operations thread).orgID request) :
    let after := history.next (exec config) thread request env
    ∀ key entry, after.state.store.mcpServers.get? key = some entry →
      Stored world operations after.marks key entry := by
  intro after key entry present
  have before : ∀ key entry,
      history.state.store.mcpServers.get? key = some entry →
        Stored world operations after.marks key entry := by
    intro key entry present
    obtain ⟨mark, made, filed⟩ := recorded.servers key entry present
    exact ⟨mark, List.mem_append_left _ made, filed⟩
  by_cases files : ∃ server token, request = .upsertMCPServer server token
  · obtain ⟨server, token, rfl⟩ := files
    refine Table.forall_get?_set (fun other stored _ there =>
      before other stored there) ?_ key entry present
    refine ⟨_, List.mem_append_right _ (List.mem_singleton_self _), server,
      token, env.nonce, rfl, permitted.1, permitted.2, rfl, rfl, ?_⟩
    exact recorded.sealLocked env.nonce token
  · have keeps : ∀ server token, request ≠ .upsertMCPServer server token :=
      fun server token equal => files ⟨server, token, equal⟩
    rw [show after.state.store.mcpServers = history.state.store.mcpServers from
      mcpServers_exec config env history.state keeps] at present
    exact before key entry present

/-- What a thread knows to be on file after a call. -/
theorem files_next {request : Call}
    (permitted : (history.view (exec config)
      (Standing.role (operations thread)) {} thread).Permits
        (operations thread).orgID request) :
    let after := history.next (exec config) thread request env
    ∀ other, ∀ file ∈ (after.view (exec config)
        (Standing.role (operations other)) {} other).files,
      OnFile operations after.marks (operations other).orgID file := by
  intro after other file known
  have before : ∀ file ∈ (history.view (exec config)
      (Standing.role (operations other)) {} other).files,
      OnFile operations after.marks (operations other).orgID file :=
    fun file filed => (recorded.files other file filed).append _
  by_cases same : other = thread
  swap
  · rw [History.view_next_of_ne _ _ _ _ _ same] at known
    exact before file known
  subst same
  rw [History.view_next_self] at known
  cases request with
  | upsertMCPServer server token =>
      rcases List.mem_cons.mp known with rfl | old
      · exact ⟨permitted.2, _, List.mem_append_right _
          (List.mem_singleton_self _), rfl, server, rfl, rfl, rfl⟩
      · exact before file old
  | getMCPServer owner name =>
      obtain rfl : owner = (operations other).orgID := permitted
      change file ∈ (Standing.learn _ _ (.getMCPServer _ name)
        (history.state.store.getMCPServer (operations other).orgID
          name)).files at known
      cases found : history.state.store.getMCPServer (operations other).orgID
          name with
      | none =>
          rw [found] at known
          exact before file known
      | some reply =>
          obtain ⟨server, token⟩ := reply
          rw [found] at known
          rcases List.mem_cons.mp known with rfl | old
          · exact (recorded.getMCPServer plain restores found).append _
          · exact before file old
  | _ => exact before file known

/-- A permitted call keeps the invariant. -/
theorem next {request : Call}
    (permitted : (history.view (exec config)
      (Standing.role (operations thread)) {} thread).Permits
        (operations thread).orgID request) :
    Recorded config world operations
      (history.next (exec config) thread request env) := by
  constructor
  · exact (keyProvider_exec config request env history.state).trans
      recorded.keyProvider
  · exact recorded.servers_next permitted
  · intro key unclaimed
    simp only [History.next, registrant_concat] at unclaimed
    split at unclaimed
    · cases unclaimed
    · rename_i elsewhere
      exact (handlers_exec elsewhere).trans (recorded.unclaimed key unclaimed)
  · intro key orgID claims
    simp only [History.next, registrant_concat] at claims
    split at claims
    · rename_i registers
      obtain ⟨tool, action, classes, handler, rfl, rfl⟩ :=
        Call.registers_eq_some.mp registers
      obtain ⟨file, known, rfl, rfl⟩ := permitted
      obtain rfl := Option.some.inj claims
      exact ⟨file, action, (recorded.files thread file known).append _, rfl,
        Table.get?_set_self _ _ _⟩
    · rename_i elsewhere
      obtain ⟨file, tool, filed, named, handler⟩ :=
        recorded.claimed key orgID claims
      exact ⟨file, tool, filed.append _, named,
        (handlers_exec elsewhere).trans handler⟩
  · exact recorded.files_next plain restores permitted

end Recorded

/-! ## Dispatches -/

/-- Server names contain no dot. -/
theorem dotless_of_mcpName {name : String} (valid : Api.mcpName name = true) :
    '.' ∉ (toolName name).toList := by
  have letter : Api.lowerOrDigit '.' = false := by decide
  have absent : '.' ∉ name.toList := by
    unfold Api.mcpName at valid
    split at valid
    · cases valid
    rename_i first rest characters
    simp only [Bool.and_eq_true, List.all_eq_true] at valid
    obtain ⟨⟨start, _⟩, following⟩ := valid
    rw [characters]
    intro member
    rcases List.mem_cons.mp member with rfl | later
    · rw [letter] at start
      cases start
    · simpa [letter] using following '.' later
  simpa [toolName] using absent

/-- The handler of a tool sends to the server's address, with its token. -/
theorem sent_handlerFor {format : Value → String} {url token tool : String}
    {action : TxnAction} {reply : Reply RPCResponse} {sent : Outgoing}
    (member : sent ∈ (handlerFor format url token tool action reply).sent) :
    sent = callUpstream.request url token
      (.rpc "tools/call" tool action.arguments) := by
  cases reply with
  | unsendable error =>
      simp [handlerFor, callUpstream, Sent.refuse] at member
  | noResponse error => exact List.mem_singleton.mp member
  | response status raw decoded => exact List.mem_singleton.mp member

/-- The requests that a call sends. -/
def sentBy (config : Config) (mark : Mark Nat Call Env World) : List Outgoing :=
  (mark.after (exec config)).network.drop mark.before.network.length

theorem sentBy_execute (config : Config) {world : World}
    {action : TxnAction} :
    sentBy config ⟨thread, world, .execute action, env⟩ =
      (world.tools.execute config.runtime world.store env.outside
        action).sent :=
  List.drop_left

/-- A dispatch for a server goes to the address, with the token, that the
organization has filed, if the last registration was its own. -/
theorem Recorded.dispatch {config : Config} {world : World}
    {operations : Nat → Operation} {history : History Call Env World}
    (recorded : Recorded config world operations history)
    (bare : ∀ name tool,
      world.tools.handlers.get? (Registry.key (toolName name) tool) = none)
    {orgID name : String} {action : TxnAction} (outside : Outside)
    (tool : action.tool = toolName name) (valid : Api.mcpName name = true)
    (own : ∀ owner ∈ registrant operations history.marks
      (Registry.key action.tool action.action), owner = orgID) :
    ∀ sent ∈ (history.state.tools.execute config.runtime
        history.state.store outside action).sent,
      OnFile operations history.marks orgID ⟨name, sent.url, sent.token⟩ := by
  intro sent member
  unfold Registry.execute at member
  cases last : registrant operations history.marks
      (Registry.key action.tool action.action) with
  | none =>
      have missing := recorded.unclaimed _ last
      rw [tool, bare] at missing
      rw [tool, missing] at member
      simp [Sent.refuse] at member
  | some owner =>
      obtain rfl := own owner last
      obtain ⟨file, named, filed, key, handler⟩ :=
        recorded.claimed _ owner last
      rw [handler] at member
      have same : name = file.name := by
        rw [tool] at key
        have equal := (joined_inj (dotless_of_mcpName valid)
          (dotless_of_mcpName filed.1) key).1
        exact (String.append_right_inj "mcp:").mp equal
      subst same
      have addressed := sent_handlerFor member
      rw [addressed]
      exact filed

end SettleAgent
