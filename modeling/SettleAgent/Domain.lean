import SettleAgent.Data.Float64

/-!
# Domain records

The records that the gateway passes between its packages.  Fields keep the
names they have in the source.  Strings that only ever hold one of a fixed set
of constants are enumerations; `unset` is Go's zero value, the empty string.
Pointers to immutable data are options.  Fields that no modelled function reads
or writes are left out.
-/

namespace SettleAgent

/-- Instants, in nanoseconds since the Unix epoch. -/
abbrev Time := Int

/-! ## Dynamically typed values -/

/-- The dynamic types that occur behind Go's `any`. -/
inductive Value : Type
  | null
  | bool (value : Bool)
  | int (value : Int)
  | int64 (value : Int)
  | float64 (value : Float64)
  | string (value : String)
  | strings (items : List String)
  | slice (items : List Value)
  | object (fields : List (String × Value))

/-- A `map[string]any`; `none` is the nil map. -/
abbrev Object := Option (List (String × Value))

/-- The entry of a `map[string]any` under a key. -/
def Object.get? (object : Object) (key : String) : Option Value :=
  object.bind fun fields => fields.lookup key

/-! ## Enumerations -/

inductive ActionClass : Type
  | readOnly
  | reversible
  | compensable
  | irreversible
  | financial
  | destructive
  | externalCommunication
  | privileged
  | unknown
  deriving DecidableEq

/-- The constant's text. -/
def ActionClass.text : ActionClass → String
  | .readOnly => "READ_ONLY"
  | .reversible => "REVERSIBLE"
  | .compensable => "COMPENSABLE"
  | .irreversible => "IRREVERSIBLE"
  | .financial => "FINANCIAL"
  | .destructive => "DESTRUCTIVE"
  | .externalCommunication => "EXTERNAL_COMMUNICATION"
  | .privileged => "PRIVILEGED"
  | .unknown => "UNKNOWN"

inductive TxnStatus : Type
  | unset
  | created
  | planning
  | awaitingApproval
  | executing
  | committed
  | aborting
  | compensating
  | rolledBack
  | partiallyCompensated
  | failed
  deriving DecidableEq

/-- The constant's text. -/
def TxnStatus.text : TxnStatus → String
  | .unset => ""
  | .created => "CREATED"
  | .planning => "PLANNING"
  | .awaitingApproval => "AWAITING_APPROVAL"
  | .executing => "EXECUTING"
  | .committed => "COMMITTED"
  | .aborting => "ABORTING"
  | .compensating => "COMPENSATING"
  | .rolledBack => "ROLLED_BACK"
  | .partiallyCompensated => "PARTIALLY_COMPENSATED"
  | .failed => "FAILED"

/-- Effects of policy rules.  A rule set that does not come in over the API is
not checked, so a rule may carry any other text. -/
inductive PolicyEffect : Type
  | allow
  | deny
  | requireApproval
  | allowWithConstraints
  | other (text : String)
  deriving DecidableEq

/-- The constant's text. -/
def PolicyEffect.text : PolicyEffect → String
  | .allow => "ALLOW"
  | .deny => "DENY"
  | .requireApproval => "REQUIRE_APPROVAL"
  | .allowWithConstraints => "ALLOW_WITH_CONSTRAINTS"
  | .other text => text

inductive ReasonCode : Type
  | unset
  | allowed
  | authorityExceeded
  | policyDenied
  | approvalRequired
  deriving DecidableEq

/-- The constant's text. -/
def ReasonCode.text : ReasonCode → String
  | .unset => ""
  | .allowed => "ALLOWED"
  | .authorityExceeded => "AUTHORITY_EXCEEDED"
  | .policyDenied => "POLICY_DENIED"
  | .approvalRequired => "APPROVAL_REQUIRED"

inductive ActionStatus : Type
  | unset
  | proposed
  | allowed
  | awaitingApproval
  | approved
  | denied
  | executed
  | failed
  | unknown
  | compensated
  | compensationFailed
  deriving DecidableEq

/-- The constant's text. -/
def ActionStatus.text : ActionStatus → String
  | .unset => ""
  | .proposed => "proposed"
  | .allowed => "allowed"
  | .awaitingApproval => "awaiting_approval"
  | .approved => "approved"
  | .denied => "denied"
  | .executed => "executed"
  | .failed => "failed"
  | .unknown => "unknown"
  | .compensated => "compensated"
  | .compensationFailed => "compensation_failed"

inductive ApprovalStatus : Type
  | unset
  | pending
  | approved
  | denied
  deriving DecidableEq

inductive PolicySetStatus : Type
  | draft
  | active
  | disabled
  deriving DecidableEq

/-- The receipt's note on how the execution was established. -/
inductive Compensation : Type
  | none
  | reconciled
  deriving DecidableEq

inductive ActorType : Type
  | agent
  | system
  | authority
  | policy
  | tool
  | human
  deriving DecidableEq

/-- Types of audit events. -/
inductive EventType : Type
  | agentRegistered
  | transactionCreated
  | transactionCommitted
  | actionReplayed
  | authorityEvaluated
  | actionDenied
  | policyEvaluated
  | approvalRequested
  | approvalGranted
  | approvalDenied
  | actionExecuting
  | actionExecuted
  | actionUnknown
  | actionFailed
  | actionReconciled
  | reconcileNoReconciler
  | reconcileError
  | compensationStarted
  | compensationSkippedIrreversible
  | compensationFailed
  | compensationSucceeded
  | mcpServerRegistered
  | grantIssued
  | grantRevoked
  | credentialIssued
  | credentialRevoked
  | policySetCreated
  | policyActivated
  | integrationCredentialSet
  | integrationHTTPAllowlistSet
  deriving DecidableEq

/-! ## Records -/

structure Organization where
  id : String
  name : String
  createdAt : Time

inductive PrincipalType : Type
  | user
  | organization
  deriving DecidableEq

structure Principal where
  id : String
  orgID : String
  type : PrincipalType
  name : String
  createdAt : Time

structure Agent where
  id : String
  orgID : String
  principalID : String
  name : String
  groups : List String
  environment : String
  status : String
  createdAt : Time

/-- Weekdays count from Sunday; hours from the start inclusive to the end
exclusive. -/
structure TimeWindow where
  weekdays : List Int
  startHour : Int
  endHour : Int

structure PolicyMatch where
  agentGroups : List String := []
  tool : String := ""
  action : String := ""
  maxAmountCents : Option Int := none
  minAmountCents : Option Int := none
  minRecipients : Option Int := none
  environment : String := ""
  classifications : List String := []
  environments : List String := []
  resourcePrefix : String := ""
  timeWindow : Option TimeWindow := none

structure PolicyRule where
  id : String
  name : String
  priority : Int
  ruleMatch : PolicyMatch
  effect : PolicyEffect
  explanation : String

structure PolicyDecision where
  effect : PolicyEffect
  ruleID : String := ""
  explanation : String
  reasonCode : ReasonCode := .unset
  policyVersion : Int := 0
  deriving DecidableEq

/-- One immutable version of an organization's rules. -/
structure PolicySet where
  id : String
  orgID : String
  version : Int
  rules : List PolicyRule
  status : PolicySetStatus
  createdBy : String
  createdAt : Time

structure GrantConstraints where
  maxAmountCents : Option Int := none
  environments : List String := []

structure AuthorityGrant where
  id : String := ""
  orgID : String
  principalID : String
  agentID : String
  scope : List String
  constraints : GrantConstraints
  environment : String
  issuedBy : String
  issuedAt : Time := 0
  expiresAt : Option Time
  revokedAt : Option Time := none
  bootstrap : Bool

structure TxnAction where
  id : String := ""
  orgID : String
  transactionID : String
  tool : String
  action : String
  arguments : Object
  argumentsHash : String := ""
  classes : List ActionClass
  amountCents : Option Int
  idempotencyKey : String
  decision : Option PolicyDecision := none
  status : ActionStatus
  result : Object := none
  error : String := ""
  latencyMS : Int := 0
  createdAt : Time := 0

structure Transaction where
  id : String := ""
  orgID : String
  agentID : String
  principalID : String
  sessionID : String
  objective : String
  status : TxnStatus
  createdAt : Time := 0
  updatedAt : Time := 0

structure Approval where
  id : String := ""
  orgID : String
  transactionID : String
  actionID : Option String
  requestedBy : String
  reason : String
  exposureCents : Option Int
  status : ApprovalStatus := .unset
  decidedBy : String := ""
  decidedAt : Option Time := none
  createdAt : Time := 0

structure Receipt where
  id : String := ""
  orgID : String
  transactionID : String
  actionID : String
  tool : String
  action : String
  argumentsHash : String
  decision : PolicyEffect
  resultHash : String
  financialCents : Option Int
  compensation : Compensation
  prevHash : String := ""
  hash : String := ""
  keyID : String := ""
  signature : String := ""
  policyVersion : Int
  startedAt : Time
  completedAt : Time
  deriving DecidableEq

structure AuditEvent where
  id : String := ""
  orgID : String
  transactionID : String := ""
  actorType : ActorType
  actorID : String
  type : EventType
  payload : List (String × Value) := []
  createdAt : Time := 0

structure MCPTool where
  name : String
  description : String

structure MCPServer where
  id : String := ""
  orgID : String
  name : String
  url : String
  hasToken : Bool := false
  tools : List MCPTool
  classes : List (String × List ActionClass)
  createdAt : Time := 0

end SettleAgent
