import SettleAgent.Gateway.Service

/-!
# Requests and responses of the HTTP API

One constructor of `Route` for every route that reads or changes state, with
the path values and the decoded body its handler works on, and the checks that
the handlers make on them.  A request reaches its handler with the identity
that the authentication middleware has attached to it.
-/

namespace SettleAgent
namespace Api

/-- The verified caller of a request. -/
structure Identity where
  orgID : String
  agentID : String
  operator : Bool
  name : String

/-- A body after the JSON decoder has run over it.  A decoder that fails may
have filled in part of the value. -/
structure Decoded (α : Type) where
  failed : Bool
  value : α

/-! ## Bodies -/

structure RegisterAgentBody where
  principalID : String
  name : String
  environment : String
  groups : List String

structure CreateTxnBody where
  agentID : String
  principalID : String
  sessionID : String
  objective : String

structure ProposeBody where
  transactionID : String
  agentID : String
  tool : String
  action : String
  arguments : Object
  idempotencyKey : String

structure DecideBody where
  approve : Bool
  decidedBy : String

structure RegisterMCPServerBody where
  name : String
  url : String
  authToken : String
  classes : List (String × List String)

structure MCPCallBody where
  transactionID : String
  agentID : String
  server : String
  tool : String
  arguments : Object
  idempotencyKey : String

structure CreateGrantBody where
  agentID : String
  principalID : String
  scope : List String
  constraints : GrantConstraints
  environment : String
  expiresAt : Option Time
  bootstrap : Bool

structure SimulateBody where
  agentID : String
  tool : String
  action : String
  arguments : Object

structure HTTPDomainsBody where
  domains : List String
  methods : List String

/-! ## Routes -/

/-- The route of a request.  `parts` are the segments that follow the route's
own path. -/
inductive Route : Type
  | registerAgent (body : Decoded RegisterAgentBody)
  | createTxn (body : Decoded CreateTxnBody)
  | listTxns
  | getTxn (id : String)
  | proposeAction (body : Decoded ProposeBody)
  | actionSub (parts : List String)
  | listApprovals
  | decideApproval (parts : List String) (body : Decoded DecideBody)
  | listReceipts (txnID : String)
  | audit (txnID : String)
  | listPolicies
  | registerMCPServer (body : Decoded RegisterMCPServerBody)
  | listMCPServers
  | listMCPTools (server : String)
  | mcpCall (body : Decoded MCPCallBody)
  | createGrant (body : Decoded CreateGrantBody)
  | listGrants (agentID : String)
  | revokeGrant (id : String)
  | rotateCredential (agentID : String)
  | revokeCredential (keyID : String)
  | reconcile (id : String)
  | verifyReceipts (txnID : String)
  | verifyReceipt (body : Decoded Receipt)
  | simulatePolicy (body : Decoded SimulateBody)
  | createPolicySet (body : Decoded (List PolicyRule))
  | listPolicySets
  | activatePolicySet (version : Option Int)
  | listIntegrations
  | setIntegrationCredential (name : String) (secret : Decoded String)
  | commitTxn (id : String)
  | setHTTPDomains (body : Decoded HTTPDomainsBody)

structure Request where
  caller : Option Identity
  traceID : String
  route : Route

/-- The tenant of the verified credential. -/
def Request.orgOf (request : Request) : String :=
  match request.caller with
  | some identity => identity.orgID
  | none => ""

def Request.callerIsOperator (request : Request) : Bool :=
  match request.caller with
  | some identity => identity.operator
  | none => false

def Request.callerAgentID (request : Request) : String :=
  match request.caller with
  | some identity => identity.agentID
  | none => ""

/-- The name under which an operator's act is logged. -/
def Request.operatorName (request : Request) : String :=
  match request.caller with
  | some identity => if identity.name = "" then "operator" else identity.name
  | none => "operator"

/-- Whether the caller may act as the given agent. -/
def Request.actsAs (request : Request) (agentID : String) : Bool :=
  request.callerIsOperator || decide (agentID = request.callerAgentID)

/-! ## Responses -/

/-- The verdict on one receipt's signature. -/
structure SignatureCheck where
  receiptID : String
  actionID : String
  hash : String
  chainOK : Bool
  signatureOK : Bool
  detail : String

/-- What a response's body encodes. -/
inductive Payload : Type
  | error (msg why : String)
  | agent (agent : Agent) (secret : String)
  | transaction (txn : Transaction)
  | transactions (txns : List Transaction)
  | transactionDetail (txn : Transaction) (actions : List TxnAction)
      (receipts : List Receipt) (audit : List AuditEvent)
  | action (action : TxnAction)
  | approval (approval : Approval)
  | approvals (approvals : List Approval)
  | receipts (receipts : List Receipt)
  | audit (events : List AuditEvent)
  | policies (rules : List PolicyRule)
  | mcpServer (server : MCPServer)
  | mcpServers (servers : List MCPServer)
  | grant (grant : AuthorityGrant)
  | grants (grants : List AuthorityGrant)
  | revoked (id : String)
  | credential (agentID keyID secret : String)
  | verification (brokenAt : Int) (checks : List SignatureCheck)
  | signature (receiptID hash : String) (ok : Bool) (detail : String)
  | simulation (simulation : Gateway.Simulation)
  | policySet (set : PolicySet)
  | policySets (sets : List PolicySet)
  | activated (version : Int)
  | integrations (credentials : List String) (mcpServers : Nat)
  | configured (name : String)
  | httpDomains (domains methods : List String)

structure Response where
  code : Nat
  body : Payload

/-- `errJSON`. -/
def errJSON (code : Nat) (msg why : String) : Response :=
  { code := code, body := .error msg why }

/-! ## Checks -/

def lowerOrDigit (char : Char) : Bool :=
  ('a' ≤ char ∧ char ≤ 'z') ∨ ('0' ≤ char ∧ char ≤ '9')

/-- The pattern of MCP server names: a lower-case letter or digit, then at
most 63 of these or dashes. -/
def mcpName (name : String) : Bool :=
  match name.toList with
  | [] => false
  | first :: rest =>
      lowerOrDigit first && decide (rest.length ≤ 63) &&
        rest.all fun char => lowerOrDigit char || char == '-'

/-- The class of a constant's text. -/
def classOf (text : String) : Option ActionClass :=
  [.readOnly, .reversible, .compensable, .irreversible, .financial,
    .destructive, .externalCommunication, .privileged, .unknown].find?
    fun (cls : ActionClass) => cls.text = text

/-- Translate the classes given for the tools of a server, or report the first
text that names no class. -/
def validClasses (given : List (String × List String)) :
    Except String (List (String × List ActionClass)) :=
  given.mapM fun (tool, list) => do
    let classes ← list.mapM fun text =>
      match classOf text with
      | some cls => .ok cls
      | none => .error ("unknown action class " ++ text)
    return (tool, classes)

/-- Characters of the two halves of a scope entry. -/
def scopeChar (char : Char) : Bool :=
  lowerOrDigit char || char == ':' || char == '_' || char == '-'

/-- The pattern of scope entries: two non-empty halves around one dot. -/
def scopeEntry (entry : String) : Bool :=
  let tool := entry.toList.takeWhile (· ≠ '.')
  match entry.toList.dropWhile (· ≠ '.') with
  | [] => false
  | _ :: action =>
      !tool.isEmpty && tool.all scopeChar && !action.isEmpty &&
        action.all fun char => scopeChar char || char == '*'

def validScope (scope : List String) : Bool :=
  !scope.isEmpty && scope.all fun entry => entry == "*" || scopeEntry entry

/-- Whether a rule has one of the four legal effects. -/
def legalEffect (rule : PolicyRule) : Bool :=
  match rule.effect with
  | .other _ => false
  | _ => true

/-- Position and rule of the first illegal effect of a drafted set. -/
def firstIllegal (rules : List PolicyRule) : Option (Nat × PolicyRule) :=
  (rules.zipIdx.find? fun entry => !legalEffect entry.1).map fun entry =>
    (entry.2, entry.1)

/-- The integrations that take a credential. -/
def credentialNames : List String := ["stripe", "github", "postgres"]

/-- Why a secret is refused for an integration. -/
def refusedSecret (name secret : String) : Option (String × String) :=
  if name = "stripe" then
    if hasPrefix secret "sk_live" then
      some ("live_key_refused",
        "Live Stripe keys are never accepted; use a test-mode key (sk_test_).")
    else if !hasPrefix secret "sk_test_" then
      some ("bad_secret", "Not a Stripe test-mode key.")
    else none
  else if name = "postgres" then
    if !hasPrefix secret "postgres://" ∧ !hasPrefix secret "postgresql://" then
      some ("bad_secret", "Postgres credential must be a postgres:// DSN.")
    else none
  else none

/-- A domain as it is stored in the allowlist, if it is a bare hostname. -/
def cleanDomain (runtime : Runtime) (text : String) : Except String String :=
  let domain := runtime.toLower (runtime.trimSpace text)
  match runtime.parseURL ("https://" ++ domain) with
  | some url =>
      if url.hostname ≠ domain ∨ '/' ∈ domain.toList then
        .error (domain ++ " is not a bare hostname.")
      else .ok domain
  | none => .error (domain ++ " is not a bare hostname.")

/-- The methods that the allowlist may name. -/
def supportedMethod (runtime : Runtime) (method : String) : Bool :=
  runtime.toUpper method ∈ ["GET", "HEAD", "POST", "PUT", "PATCH", "DELETE"]

end Api
end SettleAgent
