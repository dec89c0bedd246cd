import SettleAgent.Integrations.GitHub
import SettleAgent.Integrations.HTTP
import SettleAgent.Integrations.MCP
import SettleAgent.Store.Memory

/-!
# The tool registry

Handlers, compensators, reconcilers and action classes live in four maps with
one key per tool action.  Go keeps closures in them; the model names each
closure that the gateway registers and gives its body in `ToolHandler.run`.
`custom` stands for any other closure passed to `Register`.
-/

namespace SettleAgent

open Integrations

inductive ToolHandler : Type
  /-- A mock of the default registry that returns a fixed result. -/
  | mock (result : Object)
  /-- The mock of `stripe.refund`. -/
  | mockRefund
  /-- A mock that always fails. -/
  | refuse (error : String)
  | stripeRefund
  | stripeReadCustomer
  | github (method pathTmpl : String)
  | postgresQuery
  | httpRequest
  | mcp (serverURL token tool : String)
  | custom (name : String)
  deriving Inhabited

inductive Compensator : Type
  /-- A mock that always succeeds. -/
  | mock
  | custom (name : String)
  deriving DecidableEq

inductive Reconciler : Type
  | stripeRefund
  | custom (name : String)
  deriving DecidableEq

/-- Answers of the outside world to one registry call: the cancellation of the
request's context, the replies of Stripe or GitHub and of an upstream MCP
server, what an HTTP request meets, and the outcomes of closures whose bodies
are not modelled here. -/
structure Outside where
  cancelled : Option String
  provider : Reply Object
  upstream : Reply RPCResponse
  egress : Egress
  outcome : Sent Object
  reconciled : Except ToolError (Option Object)
  compensated : Option String

structure Registry where
  handlers : Table ToolHandler
  compensators : Table Compensator
  reconcilers : Table Reconciler
  classMeta : Table (List ActionClass)

namespace Registry

def key (tool action : String) : String := tool ++ "." ++ action

/-- `shortKey`, for a prefix of an idempotency key. -/
def shortKey (text : String) (limit : Nat) : String :=
  takeBytes text limit

def defaultClasses : List (String × List ActionClass) :=
  [("crm.lookup_customer", [.readOnly]),
    ("crm.update_record", [.reversible]),
    ("stripe.refund", [.financial, .compensable]),
    ("email.send", [.externalCommunication, .irreversible]),
    ("fs.read", [.readOnly]),
    ("fs.write", [.reversible]),
    ("shell.exec", [.privileged, .destructive]),
    ("postgres.delete_database", [.destructive, .privileged, .irreversible]),
    ("github.create_issue", [.reversible]),
    ("http.fetch", [.readOnly]),
    ("deploy.deploy", [.privileged, .compensable]),
    ("iam.grant", [.privileged, .destructive])]

def defaultHandlers : List (String × ToolHandler) :=
  [("crm.lookup_customer", .mock (some
      [("customer", .string "cust_9182"), ("tier", .string "pro")])),
    ("crm.update_record", .mock (some [("updated", .bool true)])),
    ("stripe.refund", .mockRefund),
    ("email.send", .mock (some [("sent", .bool true)])),
    ("fs.read", .mock (some [("content", .string "(mock file)")])),
    ("fs.write", .mock (some [("written", .bool true)])),
    ("http.fetch", .mock (some [("status", .int 200)])),
    ("github.create_issue", .mock (some [("issue", .int 1)])),
    ("shell.exec", .refuse
      "shell.exec requires explicit approval and is disabled in sandbox demo"),
    ("postgres.delete_database", .refuse
      "refusing to execute destructive db delete in demo without approval path"),
    ("deploy.deploy", .mock (some [("deployed", .bool true)])),
    ("iam.grant", .refuse "iam.grant is never executed by policy")]

def defaultCompensators : List (String × Compensator) :=
  ["stripe.refund", "crm.update_record", "fs.write", "deploy.deploy",
    "github.create_issue"].map fun name => (name, .mock)

/-- The table with the listed entries. -/
def tableOf {V : Type} (entries : List (String × V)) : Table V :=
  entries.foldl (fun table entry => table.set entry.1 entry.2) ∅

def default : Registry where
  handlers := tableOf defaultHandlers
  compensators := tableOf defaultCompensators
  reconcilers := ∅
  classMeta := tableOf defaultClasses

def classes (registry : Registry) (tool action : String) :
    List ActionClass :=
  (registry.classMeta.get? (key tool action)).getD [.unknown]

/-- Add or replace a tool action.  Missing parts leave the parts of an earlier
registration in place. -/
def register (registry : Registry) (tool action : String)
    (classes : List ActionClass) (handler : Option ToolHandler)
    (compensator : Option Compensator) : Registry :=
  { registry with
    classMeta := registry.classMeta.set (key tool action)
      (if classes = [] then [.unknown] else classes)
    handlers := match handler with
      | some given => registry.handlers.set (key tool action) given
      | none => registry.handlers
    compensators := match compensator with
      | some given => registry.compensators.set (key tool action) given
      | none => registry.compensators }

def registerReconciler (registry : Registry) (tool action : String)
    (reconciler : Reconciler) : Registry :=
  { registry with
    reconcilers := registry.reconcilers.set (key tool action) reconciler }

def reconcilerFor (registry : Registry) (tool action : String) :
    Option Reconciler :=
  registry.reconcilers.get? (key tool action)

end Registry

/-- The result of the `stripe.refund` mock. -/
def mockRefundResult (action : TxnAction) : Except ToolError Object :=
  match action.arguments.get? "__fail_after" with
  | some (.bool true) =>
      .error (.plain "injected downstream failure after refund")
  | _ => .ok (some
      [("refunded_cents", (action.arguments.get? "amount_cents").getD .null),
        ("refund_id", .string
          ("re_" ++ Registry.shortKey action.idempotencyKey 8))])

/-- Unless the request's context is cancelled first, the given result. -/
def afterDelay (outside : Outside) (result : Except ToolError Object) :
    Except ToolError Object :=
  match outside.cancelled with
  | some error => .error (.plain error)
  | none => result

/-- The body of a handler.  The body of the Postgres handler is left to the
outside world here. -/
def ToolHandler.run (runtime : Runtime) (store : MemoryStore)
    (outside : Outside) (action : TxnAction) : ToolHandler → Sent Object
  | .mock result =>
      { sent := [], result := afterDelay outside (.ok result) }
  | .mockRefund =>
      { sent := [], result := afterDelay outside (mockRefundResult action) }
  | .refuse error => Sent.refuse error
  | .stripeRefund =>
      stripeRefundHandler
        (store.getIntegrationCredential action.orgID "stripe")
        action outside.provider
  | .stripeReadCustomer =>
      stripeReadCustomerHandler
        (store.getIntegrationCredential action.orgID "stripe")
        action outside.provider
  | .mcp serverURL token tool =>
      handlerFor runtime.format serverURL token tool action outside.upstream
  | .github method pathTmpl =>
      githubHandler (store.getIntegrationCredential action.orgID "github")
        method pathTmpl action outside.provider
  | .httpRequest =>
      (httpRequestHandler runtime outside.egress
        (store.getIntegrationConfig action.orgID "http") action).toSent
  | .postgresQuery | .custom _ => outside.outcome

namespace Registry

def execute (registry : Registry) (runtime : Runtime)
    (store : MemoryStore) (outside : Outside) (action : TxnAction) :
    Sent Object :=
  match registry.handlers.get? (key action.tool action.action) with
  | some handler => handler.run runtime store outside action
  | none => Sent.refuse
      ("unknown tool action " ++ action.tool ++ "." ++ action.action)

/-- The error of a compensation, if it fails. -/
def compensate (registry : Registry) (outside : Outside)
    (action : TxnAction) : Option String :=
  match registry.compensators.get? (key action.tool action.action) with
  | some .mock => none
  | some (.custom _) => outside.compensated
  | none => some ("no compensation defined for " ++ action.tool ++ "." ++
      action.action ++ " (treated as irreversible)")

/-- `none` in the result says that the action never executed upstream. -/
def reconcile (store : MemoryStore) (outside : Outside)
    (reconciler : Reconciler) (action : TxnAction) : Sent (Option Object) :=
  match reconciler with
  | .stripeRefund =>
      stripeRefundReconciler
        (store.getIntegrationCredential action.orgID "stripe")
        action outside.provider
  | .custom _ => { sent := [], result := outside.reconciled }

/-- The handlers that `RegisterReal` registers, none with a compensator. -/
def liveHandlers : List (String × String × List ActionClass × ToolHandler) :=
  [("stripe", "refund", [.financial, .compensable], .stripeRefund),
    ("stripe", "read_customer", [.readOnly], .stripeReadCustomer),
    ("github", "read_repo", [.readOnly],
      .github "GET" "/repos/\x7bowner\x7d/\x7brepo\x7d"),
    ("github", "read_issue", [.readOnly],
      .github "GET" "/repos/\x7bowner\x7d/\x7brepo\x7d/issues/\x7bnumber\x7d"),
    ("github", "create_issue", [.externalCommunication],
      .github "POST" "/repos/\x7bowner\x7d/\x7brepo\x7d/issues"),
    ("github", "comment", [.externalCommunication],
      .github "POST"
        "/repos/\x7bowner\x7d/\x7brepo\x7d/issues/\x7bnumber\x7d/comments"),
    ("github", "open_pr", [.externalCommunication],
      .github "POST" "/repos/\x7bowner\x7d/\x7brepo\x7d/pulls"),
    ("github", "merge_pr", [.privileged, .externalCommunication],
      .github "PUT"
        "/repos/\x7bowner\x7d/\x7brepo\x7d/pulls/\x7bnumber\x7d/merge"),
    ("postgres", "query", [.readOnly], .postgresQuery),
    ("http", "request", [.readOnly, .externalCommunication], .httpRequest)]

/-- `RegisterReal`.  With demo mocks the mock handlers stay. -/
def registerReal (demoMocks : Bool) (registry : Registry) : Registry :=
  if demoMocks then registry
  else (liveHandlers.foldl (fun current entry =>
      current.register entry.1 entry.2.1 entry.2.2.1 (some entry.2.2.2) none)
    registry).registerReconciler "stripe" "refund" .stripeRefund

end Registry

/-! ## Action classes -/

def isCompensable (action : TxnAction) : Bool :=
  action.classes.any fun c => c = .compensable || c = .reversible

def isIrreversible (action : TxnAction) : Bool :=
  action.classes.any fun c => c = .irreversible || c = .destructive

end SettleAgent
