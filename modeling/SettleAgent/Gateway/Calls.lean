import SettleAgent.Actions
import SettleAgent.Gateway.Authority
import SettleAgent.Interaction.Prog
import SettleAgent.Jev

/-!
# Atomic calls of the gateway

Everything a request does that touches shared state or the outside world, as
one type of calls.  A method of the memory store is one call, because it runs
under the store's mutex; so is an access to the tool registry and the run of a
handler.  Reading the clock and calling a remote service are calls as well.

`AddAction` returns a pointer to the record it has just stored, and
`ProposeAction` writes its decision through that pointer.  Such a write is
visible to every other request at once and is a call of its own.
-/

namespace SettleAgent

open Integrations

/-- A newly drawn credential. -/
structure AgentSecret where
  keyID : String
  secret : String
  hash : String

/-- Everything that a call's answer depends on besides the gateway's own
state. -/
structure Env where
  uid : String
  eventID : String
  now : Time
  clock : Clock
  rank : String → Nat
  nonce : String
  outside : Outside
  catalog : Except String (List MCPTool)
  judge : Jev.Reply
  agentSecret : Option AgentSecret

/-- What is fixed for the lifetime of the process. -/
structure Config where
  runtime : Runtime
  signer : Option KeyProvider
  jevEnabled : Bool
  /-- `SETTLE_JEV_THRESHOLD`, if it is set to a number. -/
  jevLimit : Option Int
  jevKey : String

def Config.jevThreshold (config : Config) : Int :=
  Jev.threshold config.jevLimit

/-- The shared state: the store, the tool registry, and the requests sent to
remote services so far. -/
structure World where
  store : MemoryStore
  tools : Registry
  network : List Outgoing

/-- The ledger tables of the store. -/
abbrev World.ledger (world : World) : Ledger := world.store.toLedger

inductive Call : Type
  | createTxn (txn : Transaction)
  | getTxn (orgID id : String)
  | setTxnStatus (orgID id : String) (status : TxnStatus)
  | listTxns (orgID : String)
  | addAction (action : TxnAction)
  | getAction (orgID id : String)
  | updateAction (action : TxnAction)
  | setStoredDecision (id : String) (decision : PolicyDecision)
  | setStoredStatus (id : String) (status : ActionStatus)
  | updateStored (id : String)
  | actionsForTxn (orgID txnID : String)
  | createApproval (approval : Approval)
  | decideApproval (orgID id decidedBy : String) (approve : Bool)
  | pendingApprovals (orgID : String)
  | appendReceipt (receipt : Receipt)
  | setStoredSignature (orgID id keyID signature : String)
  | updateReceipt (orgID id keyID signature : String)
  | receiptsForTxn (orgID txnID : String)
  | verifyChain (orgID : String)
  | emit (event : AuditEvent)
  | audit (orgID txnID : String) (limit : Nat)
  | createAgent (orgID principalID name environment : String)
      (groups : List String) (secretHash : String)
  | getAgent (orgID agentID : String)
  | storeCredential (orgID agentID keyID secretHash : String)
  | getCredential (keyID : String)
  | revokeCredential (keyID : String)
  | policies (orgID : String)
  | createPolicySet (orgID : String) (rules : List PolicyRule)
      (createdBy : String)
  | activatePolicySet (orgID : String) (version : Int)
  | policySets (orgID : String)
  | activePolicySet (orgID : String)
  | createGrant (grant : AuthorityGrant)
  | grantsForAgent (orgID agentID : String)
  | revokeGrant (orgID grantID : String)
  | upsertMCPServer (server : MCPServer) (authToken : String)
  | getMCPServer (orgID name : String)
  | listMCPServers (orgID : String)
  | setIntegrationCredential (orgID name secret : String)
  | listIntegrationCredentials (orgID : String)
  | setIntegrationConfig (orgID name : String)
      (config : List (String × Value))
  | classes (tool action : String)
  | register (tool action : String) (classes : List ActionClass)
      (handler : ToolHandler)
  | execute (action : TxnAction)
  | compensate (action : TxnAction)
  | reconcilerFor (tool action : String)
  | reconcile (reconciler : Reconciler) (action : TxnAction)
  | timeNow
  | clock
  | screenRisk (question : RiskQuestion)
  | listTools (serverURL token : String)
  | newAgentSecret

namespace Call

/-- Type of the reply to a call. -/
@[reducible] def Resp : Call → Type
  | createTxn _ => Transaction
  | getTxn _ _ => Option Transaction
  | setTxnStatus _ _ _ => Except String Unit
  | listTxns _ => List Transaction
  | addAction _ => TxnAction × Bool
  | getAction _ _ => Option TxnAction
  | updateAction _ => Unit
  | setStoredDecision _ _ => Unit
  | setStoredStatus _ _ => Unit
  | updateStored _ => Unit
  | actionsForTxn _ _ => List TxnAction
  | createApproval _ => Approval
  | decideApproval _ _ _ _ => Option Approval
  | pendingApprovals _ => List Approval
  | appendReceipt _ => Receipt
  | setStoredSignature _ _ _ _ => Unit
  | updateReceipt _ _ _ _ => Unit
  | receiptsForTxn _ _ => List Receipt
  | verifyChain _ => Int
  | emit _ => Unit
  | audit _ _ _ => List AuditEvent
  | createAgent _ _ _ _ _ _ => Agent
  | getAgent _ _ => Option Agent
  | storeCredential _ _ _ _ => Unit
  | getCredential _ => Option CredRef
  | revokeCredential _ => Bool
  | policies _ => List PolicyRule
  | createPolicySet _ _ _ => PolicySet
  | activatePolicySet _ _ => Bool
  | policySets _ => List PolicySet
  | activePolicySet _ => Option PolicySet
  | createGrant _ => AuthorityGrant
  | grantsForAgent _ _ => List AuthorityGrant
  | revokeGrant _ _ => Bool
  | upsertMCPServer _ _ => MCPServer
  | getMCPServer _ _ => Option (MCPServer × String)
  | listMCPServers _ => List MCPServer
  | setIntegrationCredential _ _ _ => Except String Unit
  | listIntegrationCredentials _ => List String
  | setIntegrationConfig _ _ _ => Unit
  | classes _ _ => List ActionClass
  | register _ _ _ _ => Unit
  | execute _ => Except ToolError Object
  | compensate _ => Option String
  | reconcilerFor _ _ => Option Reconciler
  | reconcile _ _ => Except ToolError (Option Object)
  | timeNow => Time
  | clock => Clock
  | screenRisk _ => Except String Risk
  | listTools _ _ => Except ToolError (List MCPTool)
  | newAgentSecret => Option AgentSecret

end Call

namespace World

/-- The world with another store. -/
def withStore {ρ : Type} (world : World) (answer : ρ × MemoryStore) :
    ρ × World :=
  (answer.1, { world with store := answer.2 })

/-- The world with other ledger tables. -/
def withLedger {ρ : Type} (world : World) (answer : ρ × Ledger) :
    ρ × World :=
  (answer.1, { world with store := { world.store with toLedger := answer.2 } })

/-- The world after the given requests have left the gateway. -/
def withSent {ρ : Type} (world : World) (call : Sent ρ) :
    Except ToolError ρ × World :=
  (call.result, { world with network := world.network ++ call.sent })

end World

/-- The meaning of the calls. -/
def exec (config : Config) (request : Call) (env : Env) (world : World) :
    request.Resp × World :=
  let store := world.store
  let ledger := world.ledger
  match request with
  | .createTxn txn =>
      world.withStore (store.createTxn env.uid env.eventID env.now txn)
  | .getTxn orgID id => (ledger.getTxn orgID id, world)
  | .setTxnStatus orgID id status =>
      world.withLedger (ledger.setTxnStatus env.now orgID id status)
  | .listTxns orgID => (ledger.listTxns env.rank orgID, world)
  | .addAction action =>
      world.withLedger
        (ledger.addAction config.runtime.hashing env.uid env.now action)
  | .getAction orgID id => (ledger.getAction orgID id, world)
  | .updateAction action =>
      world.withLedger ((), ledger.updateAction action)
  | .setStoredDecision id decision =>
      world.withLedger ((), ledger.modifyStored id fun action =>
        { action with decision := some decision })
  | .setStoredStatus id status =>
      world.withLedger ((), ledger.modifyStored id fun action =>
        { action with status := status })
  | .updateStored id => world.withLedger ((), ledger.updateStored id)
  | .actionsForTxn orgID txnID =>
      (ledger.actionsForTxn env.rank orgID txnID, world)
  | .createApproval approval =>
      world.withLedger (ledger.createApproval env.uid env.now approval)
  | .decideApproval orgID id decidedBy approve =>
      world.withLedger
        (ledger.decideApproval env.now orgID id decidedBy approve)
  | .pendingApprovals orgID =>
      (ledger.pendingApprovals env.rank orgID, world)
  | .appendReceipt receipt =>
      world.withLedger
        (ledger.appendReceipt config.runtime.hashing env.uid receipt)
  | .setStoredSignature orgID id keyID signature =>
      world.withLedger ((), ledger.updateReceipt orgID id keyID signature)
  | .updateReceipt orgID id keyID signature =>
      world.withLedger ((), ledger.updateReceipt orgID id keyID signature)
  | .receiptsForTxn orgID txnID => (ledger.receiptsForTxn orgID txnID, world)
  | .verifyChain orgID =>
      (ledger.verifyChain config.runtime.hashing orgID, world)
  | .emit event => world.withStore ((), store.emit env.uid env.now event)
  | .audit orgID txnID limit => (store.auditOf orgID txnID limit, world)
  | .createAgent orgID principalID name environment groups secretHash =>
      world.withStore (store.createAgent env.uid env.now orgID principalID
        name environment groups secretHash)
  | .getAgent orgID agentID => (store.getAgent orgID agentID, world)
  | .storeCredential orgID agentID keyID secretHash =>
      world.withStore
        ((), store.storeCredential orgID agentID keyID secretHash)
  | .getCredential keyID => (store.getCredential keyID, world)
  | .revokeCredential keyID => world.withStore (store.revokeCredential keyID)
  | .policies orgID => (store.policiesOf orgID, world)
  | .createPolicySet orgID rules createdBy =>
      world.withStore
        (store.createPolicySet env.uid env.now orgID rules createdBy)
  | .activatePolicySet orgID version =>
      world.withStore (store.activatePolicySet orgID version)
  | .policySets orgID => (store.policySetsOf orgID, world)
  | .activePolicySet orgID => (store.activePolicySet orgID, world)
  | .createGrant grant =>
      world.withStore (store.createGrant env.uid env.now grant)
  | .grantsForAgent orgID agentID =>
      (store.grantsForAgent env.rank orgID agentID, world)
  | .revokeGrant orgID grantID =>
      world.withStore (store.revokeGrant env.now orgID grantID)
  | .upsertMCPServer server authToken =>
      world.withStore
        (store.upsertMCPServer env.uid env.nonce env.now server authToken)
  | .getMCPServer orgID name => (store.getMCPServer orgID name, world)
  | .listMCPServers orgID => (store.listMCPServers env.rank orgID, world)
  | .setIntegrationCredential orgID name secret =>
      world.withStore
        (store.setIntegrationCredential env.nonce orgID name secret)
  | .listIntegrationCredentials orgID =>
      (store.listIntegrationCredentials env.rank orgID, world)
  | .setIntegrationConfig orgID name config =>
      world.withStore ((), store.setIntegrationConfig orgID name config)
  | .classes tool action => (world.tools.classes tool action, world)
  | .register tool action classes handler =>
      ((), { world with
        tools := world.tools.register tool action classes (some handler) none })
  | .execute action =>
      world.withSent (world.tools.execute config.runtime store
        env.outside action)
  | .compensate action => (world.tools.compensate env.outside action, world)
  | .reconcilerFor tool action =>
      (world.tools.reconcilerFor tool action, world)
  | .reconcile reconciler action =>
      world.withSent (Registry.reconcile store env.outside reconciler action)
  | .timeNow => (env.now, world)
  | .clock => (env.clock, world)
  | .screenRisk _ => (Jev.screenRisk config.jevKey env.judge, world)
  | .listTools serverURL token =>
      world.withSent (Integrations.listTools serverURL token env.catalog
        env.outside.upstream)
  | .newAgentSecret => (env.agentSecret, world)

/-- Only a registration changes the registry. -/
theorem tools_exec
    {config : Config} {request : Call} {env : Env} {world : World}
    (keeps : ∀ tool action classes handler,
      request ≠ .register tool action classes handler) :
    (exec config request env world).2.tools = world.tools := by
  cases request with
  | register tool action classes handler =>
      exact absurd rfl (keeps tool action classes handler)
  | _ => rfl

/-- Programs over the gateway's calls. -/
abbrev Gate := Interaction.Prog Call Call.Resp

/-- Make one call. -/
abbrev perform (request : Call) : Gate request.Resp :=
  Interaction.Prog.perform request

end SettleAgent
