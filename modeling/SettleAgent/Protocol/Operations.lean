import SettleAgent.Api.Handlers

/-!
# Operations on the gateway

Whatever can be asked of the gateway: an HTTP request, or a direct call of one
of the service's methods.  The intent of an operation says what it is about,
whichever way it comes in.
-/

namespace SettleAgent

inductive Operation : Type
  | http (request : Api.Request)
  | createTxn (txn : Transaction)
  | proposeAction (traceID orgID txnID agentID tool action : String)
      (arguments : Object) (idemKey : String)
  | executeAllowed (traceID orgID actionID : String)
  | runApproved (traceID orgID actionID : String)
  | commit (traceID orgID txnID : String)
  | reconcile (traceID orgID actionID : String)
  | compensateTransaction (orgID txnID : String)
  | simulate (orgID agentID tool action : String) (arguments : Object)

/-- What an operation returns. -/
inductive Outcome : Type
  | response (response : Api.Response)
  | transaction (result : Except String Transaction)
  | action (result : Except String TxnAction)
  | status (result : Except String TxnStatus)
  | simulation (result : Except String Gateway.Simulation)

/-- The status code of an HTTP response. -/
def Outcome.code? : Outcome → Option Nat
  | .response answer => some answer.code
  | _ => none

/-- What an operation is about. -/
inductive Intent : Type
  | create (planned : Bool)
  | propose (orgID txnID idemKey : String)
  | execute (orgID actionID : String)
  | decide (orgID approvalID : String) (approve : Bool)
  | reconcile (orgID actionID : String)
  | commit (orgID txnID : String)
  | compensate (orgID txnID : String)
  | other
  deriving DecidableEq

/-- The intent of an HTTP request. -/
def Api.Request.intent (request : Api.Request) : Intent :=
  match request.route with
  | .createTxn _ => .create true
  | .proposeAction body =>
      .propose request.orgOf body.value.transactionID body.value.idempotencyKey
  | .mcpCall body =>
      .propose request.orgOf body.value.transactionID body.value.idempotencyKey
  | .actionSub [id, _] => .execute request.orgOf id
  | .decideApproval [id, _] body => .decide request.orgOf id body.value.approve
  | .reconcile id => .reconcile request.orgOf id
  | .commitTxn id => .commit request.orgOf id
  | _ => .other

namespace Operation

def intent : Operation → Intent
  | http request => request.intent
  | createTxn _ => .create false
  | proposeAction _ orgID txnID _ _ _ _ idemKey => .propose orgID txnID idemKey
  | executeAllowed _ orgID actionID => .execute orgID actionID
  | runApproved _ orgID actionID => .execute orgID actionID
  | commit _ orgID txnID => .commit orgID txnID
  | reconcile _ orgID actionID => .reconcile orgID actionID
  | compensateTransaction orgID txnID => .compensate orgID txnID
  | simulate _ _ _ _ _ => .other

/-- The program of an operation. -/
def program (config : Config) : Operation → Gate Outcome
  | http request => do
      let response ← Api.handle config request
      return .response response
  | createTxn txn => do
      let created ← perform (.createTxn txn)
      return .transaction (.ok created)
  | proposeAction traceID orgID txnID agentID tool action arguments idemKey => do
      let out ← Gateway.proposeAction config traceID orgID txnID agentID tool
        action arguments idemKey
      return .action out
  | executeAllowed traceID orgID actionID => do
      let out ← Gateway.executeAllowed config traceID orgID actionID
      return .action out
  | runApproved traceID orgID actionID => do
      let out ← Gateway.runApproved config traceID orgID actionID
      return .action out
  | commit traceID orgID txnID => do
      let out ← Gateway.commit traceID orgID txnID
      return .transaction out
  | reconcile traceID orgID actionID => do
      let out ← Gateway.reconcile config traceID orgID actionID
      return .action out
  | compensateTransaction orgID txnID => do
      let out ← Gateway.compensateTransaction orgID txnID
      return .status out
  | simulate orgID agentID tool action arguments => do
      let out ← Gateway.simulate config orgID agentID tool action arguments
      return .simulation out

end Operation

/-- The action for which the call dispatches a handler. -/
def Call.dispatched : Call → Option TxnAction
  | .execute action => some action
  | _ => none

theorem Call.dispatched_eq_some {request : Call} {action : TxnAction} :
    request.dispatched = some action ↔ request = .execute action := by
  cases request <;> simp [Call.dispatched]

/-! ## A small gateway

The least configuration with an agent, on which runs can be evaluated. -/

namespace Sample

def config : Config where
  runtime := runtime
  signer := none
  jevEnabled := false
  jevLimit := none
  jevKey := "key"

/-- A new store with one agent, and the default registry. -/
def world : World where
  store := { MemoryStore.new with agents := (∅ : Table Agent).set "bot" agent }
  tools := Registry.default
  network := []

/-- The environment of the call with this number. -/
def env (number : Nat) : Env where
  uid := "id" ++ toString number
  eventID := "event" ++ toString number
  now := number
  clock := .still number
  rank := fun _ => 0
  nonce := ""
  outside :=
    { cancelled := none
      provider := .noResponse "timeout"
      upstream := .noResponse "timeout"
      egress :=
        { lookup := fun _ => .ok []
          replies := fun _ => .noResponse "timeout"
          unfollowed := "" }
      outcome := Integrations.Sent.refuse "timeout"
      reconciled := .ok none
      compensated := none }
  catalog := .ok []
  judge := .noResponse "timeout"
  agentSecret := none

/-- The environments of the operation with this number, a hundred for each. -/
def envs (number call : Nat) : Env :=
  env (100 * number + call)

/-- A request of the organization's operator. -/
def request (route : Api.Route) : Api.Request where
  caller := some
    { orgID := "acme", agentID := "", operator := true, name := "ops" }
  traceID := ""
  route := route

def ask (route : Api.Route) : Operation :=
  .http (request route)

/-- The operator opens a transaction for the agent. -/
def create : Operation :=
  ask (.createTxn
    { failed := false
      value :=
        { agentID := "bot", principalID := "owner", sessionID := ""
          objective := "" } })

/-- The operator proposes an action for the agent. -/
def propose (txnID tool action : String) (arguments : Object)
    (idempotencyKey : String) : Operation :=
  ask (.proposeAction
    { failed := false
      value :=
        { transactionID := txnID, agentID := "bot", tool := tool
          action := action, arguments := arguments
          idempotencyKey := idempotencyKey } })

def execute (actionID : String) : Operation :=
  ask (.actionSub [actionID, "execute"])

def decideApproval (approvalID : String) (approve : Bool) : Operation :=
  ask (.decideApproval [approvalID, "decide"]
    { failed := false, value := { approve := approve, decidedBy := "ops" } })

def commit (txnID : String) : Operation :=
  ask (.commitTxn txnID)

end Sample
end SettleAgent
