import SettleAgent.Api.Requests

/-!
# Handlers of the HTTP API

Every handler as a program over the gateway's calls.  `handle` sends a request
to the handler of its route.
-/

namespace SettleAgent
namespace Api

open Gateway Integrations

variable (config : Config) (request : Request)

/-- The response to an agent credential where an operator's is needed. -/
def operatorRequired (why : String) : Response :=
  errJSON 403 "operator_required" why

/-- The response to a credential that acts as another agent. -/
def agentMismatch (why : String) : Response :=
  errJSON 403 "agent_mismatch" why

/-- The response to a service operation: its record, or its error. -/
def answer {α : Type} (code : Nat) (payload : α → Payload) (failure : String) :
    Except String α → Response
  | .ok value => { code := code, body := payload value }
  | .error error => errJSON 400 failure error

/-! ## Agents and transactions -/

def handleRegisterAgent (body : Decoded RegisterAgentBody) : Gate Response :=
  let orgID := request.orgOf
  let value := body.value
  if orgID = "" then
    return errJSON 401 "unauthenticated" "Valid bearer credential required."
  else if !request.callerIsOperator then
    return operatorRequired "Only a human operator token can register agents."
  else if body.failed ∨ value.name = "" then
    return errJSON 400 "bad_request"
      "Body needs name, principal_id, environment, groups."
  else if !config.runtime.uuidParses value.principalID then
    return errJSON 400 "bad_principal"
      "principal_id must be a UUID of a principal in this organization."
  else do
    match ← perform .newAgentSecret with
    | none => return errJSON 500 "secret_failed" "Could not issue credential."
    | some issued => do
      let agent ← perform (.createAgent orgID value.principalID value.name
        value.environment value.groups issued.hash)
      perform (.storeCredential orgID agent.id issued.keyID issued.hash)
      perform (.emit
        { orgID := orgID, actorType := .system, actorID := "api",
          type := .agentRegistered,
          payload := [("agent_id", .string agent.id)] })
      return { code := 201, body := .agent agent issued.secret }

def handleCreateTxn (body : Decoded CreateTxnBody) : Gate Response :=
  let orgID := request.orgOf
  let value := body.value
  if body.failed ∨ value.agentID = "" then
    return errJSON 400 "bad_request"
      "Body needs agent_id, principal_id, session_id, objective."
  else do
    match ← perform (.getAgent orgID value.agentID) with
    | none =>
      return errJSON 404 "agent_not_found" "Agent is not in this organization."
    | some _ =>
      if !request.actsAs value.agentID then
        return agentMismatch
          "A credential may only act as its own agent identity."
      else do
        let txn ← perform (.createTxn
          { orgID := orgID, agentID := value.agentID,
            principalID := value.principalID, sessionID := value.sessionID,
            objective := value.objective, status := .planning })
        return { code := 201, body := .transaction txn }

def handleListTxns : Gate Response := do
  let txns ← perform (.listTxns request.orgOf)
  return { code := 200, body := .transactions txns }

def handleGetTxn (id : String) : Gate Response := do
  let orgID := request.orgOf
  match ← perform (.getTxn orgID id) with
  | none =>
    return errJSON 404 "not_found" "Transaction not found in this organization."
  | some txn => do
    let actions ← perform (.actionsForTxn orgID id)
    let receipts ← perform (.receiptsForTxn orgID id)
    let events ← perform (.audit orgID id 100)
    return { code := 200,
             body := .transactionDetail txn actions receipts events }

def handleCommitTxn (id : String) : Gate Response := do
  let orgID := request.orgOf
  match ← perform (.getTxn orgID id) with
  | none =>
    return errJSON 404 "not_found" "Transaction not found in this organization."
  | some txn =>
    if !request.actsAs txn.agentID then
      return agentMismatch
        "Only the owning agent or an operator can commit a transaction."
    else do
      let out ← commit request.traceID orgID id
      return answer 200 .transaction "commit_refused" out

/-! ## Actions -/

def handleProposeAction (body : Decoded ProposeBody) : Gate Response :=
  let orgID := request.orgOf
  let value := body.value
  if body.failed ∨ value.transactionID = "" ∨ value.tool = "" then
    return errJSON 400 "bad_request"
      "Body needs transaction_id, agent_id, tool, action, arguments, idempotency_key."
  else if value.idempotencyKey = "" then
    return errJSON 400 "idempotency_required"
      "Every action needs an idempotency_key so retries never double-execute payments, emails, or deletions."
  else if !request.actsAs value.agentID then
    return agentMismatch "A credential may only act as its own agent identity."
  else do
    let out ← proposeAction config request.traceID orgID value.transactionID
      value.agentID value.tool value.action value.arguments
      value.idempotencyKey
    return answer 201 .action "propose_failed" out

/-- Execute an action: an approved one through `RunApproved`, any other
through `ExecuteAllowed`. -/
def handleActionSub (parts : List String) : Gate Response :=
  let orgID := request.orgOf
  match parts with
  | [id, "execute"] => do
    let found ← perform (.getAction orgID id)
    if found.any fun action => action.status = .approved then do
      let out ← runApproved config request.traceID orgID id
      return answer 200 .action "execute_failed" out
    else do
      let out ← executeAllowed config request.traceID orgID id
      return answer 200 .action "execute_refused" out
  | _ =>
    return errJSON 404 "not_found" "Use POST /v1/actions/:id/execute."

def handleReconcile (id : String) : Gate Response :=
  if !request.callerIsOperator then
    return operatorRequired
      "Reconciliation settles uncertain side effects; an operator token is required."
  else do
    let out ← reconcile config request.traceID request.orgOf id
    return answer 200 .action "reconcile_failed" out

/-! ## Approvals -/

def handleListApprovals : Gate Response := do
  let approvals ← perform (.pendingApprovals request.orgOf)
  return { code := 200, body := .approvals approvals }

/-- Mark the action of a granted approval as approved and resume its
transaction. -/
def applyGrant (orgID : String) (approval : Approval) : Gate Unit :=
  match approval.actionID with
  | none => return ()
  | some actionID => do
    match ← perform (.getAction orgID actionID) with
    | none => return ()
    | some action => do
      perform (.updateAction { action with status := .approved })
      match ← perform (.getTxn orgID approval.transactionID) with
      | none => return ()
      | some txn => do
        let _ ← perform (.setTxnStatus orgID txn.id (statusAfter txn .executing))
        return ()

/-- Abort the transaction of a denied approval.  The action keeps its
status. -/
def applyDenial (orgID : String) (approval : Approval) : Gate Unit := do
  match ← perform (.getTxn orgID approval.transactionID) with
  | none => return ()
  | some txn => do
    let _ ← perform (.setTxnStatus orgID txn.id (statusAfter txn .aborting))
    return ()

/-- Decide an approval and carry the decision over to action and
transaction. -/
def decideOn (orgID id decidedBy : String) (approve : Bool) :
    Gate Response := do
  match ← perform (.decideApproval orgID id decidedBy approve) with
  | none =>
    return errJSON 404 "approval_not_found"
      "Approval is missing, already decided, or in another organization."
  | some approval => do
    perform (.emit
      { orgID := orgID, transactionID := approval.transactionID,
        actorType := .human, actorID := decidedBy,
        type := if approve then .approvalGranted else .approvalDenied,
        payload := [("approval_id", .string approval.id)] })
    if approve then applyGrant orgID approval
    else applyDenial orgID approval
    return { code := 200, body := .approval approval }

/-- A body that does not decode counts as a denial by whatever was read. -/
def handleDecideApproval (parts : List String) (body : Decoded DecideBody) :
    Gate Response :=
  if !request.callerIsOperator then
    return operatorRequired
      "Approvals are human decisions; an operator token is required."
  else match parts with
  | [id, "decide"] =>
    let decidedBy :=
      if body.value.decidedBy = "" then "human" else body.value.decidedBy
    decideOn request.orgOf id decidedBy body.value.approve
  | _ =>
    return errJSON 404 "not_found" "Use POST /v1/approvals/:id/decide."

/-! ## Receipts and audit -/

def handleListReceipts (txnID : String) : Gate Response := do
  let receipts ← perform (.receiptsForTxn request.orgOf txnID)
  return { code := 200, body := .receipts receipts }

def handleAudit (txnID : String) : Gate Response := do
  let events ← perform (.audit request.orgOf txnID 200)
  return { code := 200, body := .audit events }

/-- Whether a receipt's signature is that of its hash, with the reason. -/
def sigOK (receipt : Receipt) : Bool × String :=
  if receipt.signature = "" ∨ receipt.keyID = "" then (false, "unsigned")
  else match config.signer with
    | none => (false, "no verifier configured")
    | some verifier =>
        match hexDecode receipt.signature.toList with
        | none => (false, "malformed signature")
        | some signature =>
            if verifier.verify receipt.hash signature then
              (true, "valid (key " ++ receipt.keyID ++ ")")
            else (false, "signature invalid")

def handleVerifyReceipts (txnID : String) : Gate Response := do
  let orgID := request.orgOf
  let receipts ← perform (.receiptsForTxn orgID txnID)
  let broken ← perform (.verifyChain orgID)
  let check (receipt : Receipt) : SignatureCheck :=
    { receiptID := receipt.id, actionID := receipt.actionID,
      hash := receipt.hash, chainOK := decide (broken = -1),
      signatureOK := (sigOK config receipt).1,
      detail := (sigOK config receipt).2 }
  return { code := 200, body := .verification broken (receipts.map check) }

def handleVerifyReceipt (body : Decoded Receipt) : Gate Response :=
  if body.failed then
    return errJSON 400 "bad_request" "Body must be a receipt object."
  else
    let verdict := sigOK config body.value
    let payload := .signature body.value.id body.value.hash verdict.1 verdict.2
    return { code := 200, body := payload }

/-! ## MCP servers -/

/-- The classes given for a tool; none when it is not listed. -/
def classesFor (classes : List (String × List ActionClass)) (tool : String) :
    List ActionClass :=
  (classes.lookup tool).getD []

/-- Register the tools of a catalog under the server's name. -/
def registerTools (name url token : String)
    (classes : List (String × List ActionClass)) : List MCPTool → Gate Unit
  | [] => return ()
  | tool :: tools => do
    perform (.register (toolName name) tool.name (classesFor classes tool.name)
      (.mcp url token tool.name))
    registerTools name url token classes tools

def handleRegisterMCPServer (body : Decoded RegisterMCPServerBody) :
    Gate Response :=
  let orgID := request.orgOf
  let value := body.value
  if !request.callerIsOperator then
    return operatorRequired
      "Only a human operator token can register upstream MCP servers."
  else if body.failed ∨ value.name = "" ∨ value.url = "" then
    return errJSON 400 "bad_request"
      "Body needs name (lowercase letters, digits, dashes), url, and optional auth_token and classes."
  else if !mcpName value.name then
    return errJSON 400 "bad_name"
      "Server name must match ^[a-z0-9][a-z0-9-]\x7b0,63\x7d$ so policy rules can target mcp:<name> unambiguously."
  else match validateURL config.runtime value.url with
  | .error error => return errJSON 400 "bad_url" error
  | .ok _ => match validClasses value.classes with
    | .error error =>
      return errJSON 400 "bad_class" (error ++ ". Valid: READ_ONLY REVERSIBLE COMPENSABLE IRREVERSIBLE FINANCIAL DESTRUCTIVE EXTERNAL_COMMUNICATION PRIVILEGED UNKNOWN.")
    | .ok classes => do
      match ← perform (.listTools value.url value.authToken) with
      | .error error =>
        return errJSON 502 "upstream_unreachable"
          ("Could not fetch tools/list from upstream: " ++ error.text)
      | .ok tools => do
        let server ← perform (.upsertMCPServer
          { orgID := orgID, name := value.name, url := value.url,
            tools := tools, classes := classes } value.authToken)
        registerTools value.name value.url value.authToken classes tools
        perform (.emit
          { orgID := orgID, actorType := .human,
            actorID := request.operatorName, type := .mcpServerRegistered,
            payload := [("server", .string value.name),
              ("url", .string (redactURL value.url)),
              ("tools", .int tools.length)] })
        return { code := 201, body := .mcpServer server }

def handleListMCPServers : Gate Response := do
  let servers ← perform (.listMCPServers request.orgOf)
  return { code := 200, body := .mcpServers servers }

def handleListMCPTools (name : String) : Gate Response :=
  let orgID := request.orgOf
  if name = "" then do
    let servers ← perform (.listMCPServers orgID)
    return { code := 200, body := .mcpServers servers }
  else do
    match ← perform (.getMCPServer orgID name) with
    | none =>
      return errJSON 404 "server_not_found"
        ("No MCP server " ++ name ++ " in this organization.")
    | some (server, _) => return { code := 200, body := .mcpServer server }

/-- Propose a call of an upstream tool.  The tool is registered again first,
with what the caller's organization has on file for the server. -/
def handleMCPCall (body : Decoded MCPCallBody) : Gate Response :=
  let orgID := request.orgOf
  let value := body.value
  if body.failed ∨ value.transactionID = "" ∨ value.server = "" ∨
      value.tool = "" then
    return errJSON 400 "bad_request"
      "Body needs transaction_id, agent_id, server, tool, arguments, idempotency_key."
  else if value.idempotencyKey = "" then
    return errJSON 400 "idempotency_required"
      "Every proxied call needs an idempotency_key."
  else if !request.actsAs value.agentID then
    return agentMismatch "A credential may only act as its own agent identity."
  else do
    match ← perform (.getMCPServer orgID value.server) with
    | none =>
      return errJSON 404 "server_not_found"
        ("No MCP server " ++ value.server ++ " in this organization.")
    | some (server, token) =>
      if server.tools.all fun tool => tool.name ≠ value.tool then
        return errJSON 400 "tool_not_listed" ("Tool " ++ value.tool ++
          " is not in " ++ value.server ++
          "'s cached catalog; re-register the server to refresh it.")
      else do
        perform (.register (toolName value.server) value.tool
          (classesFor server.classes value.tool)
          (.mcp server.url token value.tool))
        let out ← proposeAction config request.traceID orgID
          value.transactionID value.agentID (toolName value.server) value.tool
          value.arguments value.idempotencyKey
        return answer 201 .action "propose_failed" out

/-! ## Grants and credentials -/

def handleCreateGrant (body : Decoded CreateGrantBody) : Gate Response :=
  let orgID := request.orgOf
  let value := body.value
  if !request.callerIsOperator then
    return operatorRequired "Only a human operator token can grant authority."
  else if body.failed ∨ value.agentID = "" then
    return errJSON 400 "bad_request"
      "Body needs agent_id, scope (e.g. [\"stripe.refund\", \"crm.*\"]), and optional constraints/environment/expires_at."
  else do
    match ← perform (.getAgent orgID value.agentID) with
    | none =>
      return errJSON 404 "agent_not_found" "Agent is not in this organization."
    | some _ =>
      if !validScope value.scope then
        return errJSON 400 "bad_scope"
          "Scope entries must be \"*\", \"tool.*\", or \"tool.action\" (lowercase, digits, _ - :)."
      else do
        let grant ← perform (.createGrant
          { orgID := orgID, principalID := value.principalID,
            agentID := value.agentID, scope := value.scope,
            constraints := value.constraints,
            environment := value.environment,
            issuedBy := request.operatorName, expiresAt := value.expiresAt,
            bootstrap := value.bootstrap })
        perform (.emit
          { orgID := orgID, actorType := .human,
            actorID := request.operatorName, type := .grantIssued,
            payload := [("grant_id", .string grant.id),
              ("agent_id", .string grant.agentID),
              ("scope", .strings grant.scope)] })
        return { code := 201, body := .grant grant }

def handleListGrants (agentID : String) : Gate Response :=
  if !request.callerIsOperator ∧
      (agentID = "" ∨ agentID ≠ request.callerAgentID) then
    return agentMismatch "Agents may only inspect their own grants."
  else if agentID = "" then
    return errJSON 400 "bad_request"
      "Pass ?agent_id= (operators may list per agent)."
  else do
    let grants ← perform (.grantsForAgent request.orgOf agentID)
    return { code := 200, body := .grants grants }

def handleRevokeGrant (id : String) : Gate Response :=
  let orgID := request.orgOf
  if !request.callerIsOperator then
    return operatorRequired "Only a human operator token can revoke authority."
  else do
    let revoked ← perform (.revokeGrant orgID id)
    if !revoked then
      return errJSON 404 "grant_not_found"
        "Grant is missing, already revoked, or in another organization."
    else do
      perform (.emit
        { orgID := orgID, actorType := .human,
          actorID := request.operatorName, type := .grantRevoked,
          payload := [("grant_id", .string id)] })
      return { code := 200, body := .revoked id }

def handleRotateCredential (agentID : String) : Gate Response :=
  let orgID := request.orgOf
  if !request.callerIsOperator then
    return operatorRequired "Only a human operator token can issue credentials."
  else do
    match ← perform (.getAgent orgID agentID) with
    | none =>
      return errJSON 404 "agent_not_found" "Agent is not in this organization."
    | some agent => do
      match ← perform .newAgentSecret with
      | none => return errJSON 500 "secret_failed" "Could not issue credential."
      | some issued => do
        perform (.storeCredential orgID agent.id issued.keyID issued.hash)
        perform (.emit
          { orgID := orgID, actorType := .human,
            actorID := request.operatorName, type := .credentialIssued,
            payload := [("agent_id", .string agent.id),
              ("key_id", .string issued.keyID)] })
        return { code := 201,
                 body := .credential agent.id issued.keyID issued.secret }

def handleRevokeCredential (keyID : String) : Gate Response :=
  let orgID := request.orgOf
  let missing := errJSON 404 "credential_not_found"
    "Credential is missing, already revoked, or in another organization."
  if !request.callerIsOperator then
    return operatorRequired
      "Only a human operator token can revoke credentials."
  else do
    match ← perform (.getCredential keyID) with
    | none => return missing
    | some ref =>
      if ref.orgID ≠ orgID then return missing
      else do
        let _ ← perform (.revokeCredential keyID)
        perform (.emit
          { orgID := orgID, actorType := .human,
            actorID := request.operatorName, type := .credentialRevoked,
            payload := [("key_id", .string keyID)] })
        return { code := 200, body := .revoked keyID }

/-! ## Policies -/

def handleListPolicies : Gate Response := do
  let rules ← perform (.policies request.orgOf)
  return { code := 200, body := .policies rules }

def handleSimulatePolicy (body : Decoded SimulateBody) : Gate Response :=
  let value := body.value
  if body.failed ∨ value.tool = "" then
    return errJSON 400 "bad_request"
      "Body needs agent_id, tool, action, arguments. Nothing is persisted or executed."
  else if !request.actsAs value.agentID then
    return agentMismatch
      "A credential may only simulate its own agent identity."
  else do
    let out ← simulate config request.orgOf value.agentID value.tool
      value.action value.arguments
    return answer 200 .simulation "simulate_failed" out

def handleCreatePolicySet (body : Decoded (List PolicyRule)) : Gate Response :=
  let orgID := request.orgOf
  if !request.callerIsOperator then
    return operatorRequired "Only a human operator token can draft policies."
  else if body.failed ∨ body.value = [] then
    return errJSON 400 "bad_request"
      "Body needs rules (array of \x7bname, match, effect, explanation\x7d). Created as draft; activate separately."
  else match firstIllegal body.value with
  | some (index, rule) =>
    return errJSON 400 "bad_rule" ("Rule " ++ toString index ++ " (" ++
      rule.name ++
      "): effect must be ALLOW, DENY, REQUIRE_APPROVAL, or ALLOW_WITH_CONSTRAINTS.")
  | none => do
    let set ← perform
      (.createPolicySet orgID body.value request.operatorName)
    perform (.emit
      { orgID := orgID, actorType := .human,
        actorID := request.operatorName, type := .policySetCreated,
        payload := [("version", .int set.version),
          ("rules", .int set.rules.length)] })
    return { code := 201, body := .policySet set }

def handleListPolicySets : Gate Response := do
  let sets ← perform (.policySets request.orgOf)
  return { code := 200, body := .policySets sets }

def handleActivatePolicySet (version : Option Int) : Gate Response :=
  let orgID := request.orgOf
  if !request.callerIsOperator then
    return operatorRequired "Only a human operator token can activate policies."
  else match version with
  | none => return errJSON 400 "bad_request" "Version must be an integer."
  | some number => do
    let activated ← perform (.activatePolicySet orgID number)
    if !activated then
      return errJSON 404 "policy_set_not_found"
        "No such draft version in this organization."
    else do
      perform (.emit
        { orgID := orgID, actorType := .human,
          actorID := request.operatorName, type := .policyActivated,
          payload := [("version", .int number)] })
      return { code := 200, body := .activated number }

/-! ## Integrations -/

def handleListIntegrations : Gate Response := do
  let credentials ← perform (.listIntegrationCredentials request.orgOf)
  let servers ← perform (.listMCPServers request.orgOf)
  return { code := 200, body := .integrations credentials servers.length }

def handleSetIntegrationCredential (name : String) (body : Decoded String) :
    Gate Response :=
  let orgID := request.orgOf
  if !request.callerIsOperator then
    return operatorRequired
      "Only a human operator token can register third-party credentials."
  else if name ∉ credentialNames then
    return errJSON 400 "unknown_integration"
      "Known integrations: stripe, github, postgres."
  else if body.failed ∨ body.value = "" then
    return errJSON 400 "bad_request"
      "Body needs a secret. It is sealed at rest and never returned."
  else match refusedSecret name body.value with
  | some (msg, why) => return errJSON 400 msg why
  | none => do
    match ← perform (.setIntegrationCredential orgID name body.value) with
    | .error _ =>
      return errJSON 500 "store_failed" "Could not store credential."
    | .ok _ => do
      perform (.emit
        { orgID := orgID, actorType := .human,
          actorID := request.operatorName, type := .integrationCredentialSet,
          payload := [("integration", .string name)] })
      return { code := 201, body := .configured name }

def handleSetHTTPDomains (body : Decoded HTTPDomainsBody) : Gate Response :=
  let orgID := request.orgOf
  let methods :=
    if body.value.methods = [] then ["GET", "HEAD"] else body.value.methods
  if !request.callerIsOperator then
    return operatorRequired
      "Only a human operator token can set the HTTP allowlist."
  else if body.failed ∨ body.value.domains = [] then
    return errJSON 400 "bad_request"
      "Body needs domains (e.g. [\"api.example.com\"]) and optional methods (default GET, HEAD)."
  else match body.value.domains.mapM (cleanDomain config.runtime) with
  | .error error => return errJSON 400 "bad_domain" error
  | .ok clean =>
    match methods.find? fun method =>
        !supportedMethod config.runtime method with
    | some method =>
      return errJSON 400 "bad_method" (method ++ " is not a supported method.")
    | none => do
      let allowlist :=
        [("domains", Value.strings clean), ("methods", Value.strings methods)]
      perform (.setIntegrationConfig orgID "http" allowlist)
      perform (.emit
        { orgID := orgID, actorType := .human,
          actorID := request.operatorName,
          type := .integrationHTTPAllowlistSet, payload := allowlist })
      return { code := 201, body := .httpDomains clean methods }

/-! ## Routing -/

/-- The program that serves a request. -/
def handle : Gate Response :=
  match request.route with
  | .registerAgent body => handleRegisterAgent config request body
  | .createTxn body => handleCreateTxn request body
  | .listTxns => handleListTxns request
  | .getTxn id => handleGetTxn request id
  | .proposeAction body => handleProposeAction config request body
  | .actionSub parts => handleActionSub config request parts
  | .listApprovals => handleListApprovals request
  | .decideApproval parts body => handleDecideApproval request parts body
  | .listReceipts txnID => handleListReceipts request txnID
  | .audit txnID => handleAudit request txnID
  | .listPolicies => handleListPolicies request
  | .registerMCPServer body => handleRegisterMCPServer config request body
  | .listMCPServers => handleListMCPServers request
  | .listMCPTools server => handleListMCPTools request server
  | .mcpCall body => handleMCPCall config request body
  | .createGrant body => handleCreateGrant request body
  | .listGrants agentID => handleListGrants request agentID
  | .revokeGrant id => handleRevokeGrant request id
  | .rotateCredential agentID => handleRotateCredential request agentID
  | .revokeCredential keyID => handleRevokeCredential request keyID
  | .reconcile id => handleReconcile config request id
  | .verifyReceipts txnID => handleVerifyReceipts config request txnID
  | .verifyReceipt body => handleVerifyReceipt config body
  | .simulatePolicy body => handleSimulatePolicy config request body
  | .createPolicySet body => handleCreatePolicySet request body
  | .listPolicySets => handleListPolicySets request
  | .activatePolicySet version => handleActivatePolicySet request version
  | .listIntegrations => handleListIntegrations request
  | .setIntegrationCredential name secret =>
      handleSetIntegrationCredential request name secret
  | .commitTxn id => handleCommitTxn request id
  | .setHTTPDomains body => handleSetHTTPDomains config request body

end Api
end SettleAgent
