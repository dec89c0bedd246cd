import SettleAgent.Data.Hex
import SettleAgent.Gateway.Calls
import SettleAgent.Transactions

/-!
# The gateway service

Propose, execute, commit, reconcile and compensate, as programs over the
gateway's calls.  A record that a program holds is the copy it read, so a
program that writes one back overwrites whatever was stored meanwhile.
-/

namespace SettleAgent
namespace Gateway

variable (config : Config)

/-! ## Amounts -/

/-- The amount in cents under one of the cent keys, or the dollar amount. -/
def extractCents (arguments : Object) : Option Int :=
  match ["amount_cents", "amountCents"].findSome? fun key =>
      (arguments.get? key).bind Value.int64? with
  | some cents => some cents
  | none =>
      match arguments.get? "amount" with
      | some (.int dollars) => some (wrap64 (dollars * 100))
      | some (.float64 dollars) => some dollars.centsOfDollars
      | _ => none

/-! ## Risk screen -/

/-- The other actions of the transaction: how many, and their total. -/
def siblings (action : TxnAction) (actions : List TxnAction) : Int × Int :=
  let others := actions.filter fun other => other.id ≠ action.id
  (others.length,
    others.foldl (fun total other =>
      wrap64 (total + other.amountCents.getD 0)) 0)

/-- The explanation for an escalation, or `none` when the action passes. -/
def riskVerdict (threshold : Int) : Except String Risk → Option String
  | .error error => some ("risk screen unavailable: " ++ error)
  | .ok risk =>
      if risk.confidence.ltHalf then
        some ("uncertain risk (score " ++ toString risk.score100 ++
          ", confidence " ++ risk.confidence.toFixed2 ++ ")")
      else if threshold ≤ risk.score100 then
        some ("risk score " ++ toString risk.score100 ++ " >= threshold " ++
          toString threshold)
      else none

def jevScreenRisk (orgID txnID : String) (agent : Agent)
    (action : TxnAction) : Gate (Option String) :=
  if config.jevEnabled then do
    let actions ← perform (.actionsForTxn orgID txnID)
    let total := siblings action actions
    let risk ← perform (.screenRisk
      { tool := action.tool, name := action.action,
        amountCents := action.amountCents.getD 0,
        arguments := action.arguments,
        classes := action.classes.map ActionClass.text,
        agentName := agent.name, agentGroups := agent.groups,
        agentEnv := agent.environment,
        siblingCount := total.1, siblingTotal := total.2 })
    return riskVerdict config.jevThreshold risk
  else return none

/-! ## Propose -/

/-- The reason code that goes with a policy effect. -/
def reasonFor : PolicyEffect → ReasonCode
  | .deny => .policyDenied
  | .requireApproval => .approvalRequired
  | _ => .allowed

/-- Whether an effect lets an action run without approval. -/
def permits : PolicyEffect → Bool
  | .allow | .allowWithConstraints => true
  | _ => false

/-- Event of a policy decision. -/
def policyEvent (orgID txnID : String) (decision : PolicyDecision) :
    AuditEvent :=
  { orgID := orgID, transactionID := txnID, actorType := .policy,
    actorID := decision.ruleID, type := .policyEvaluated,
    payload := [("effect", .string decision.effect.text),
      ("why", .string decision.explanation),
      ("reason_code", .string decision.reasonCode.text)] }

/-- The decision on a proposal that no grant covers. -/
def authorityExceeded (why : String) : PolicyDecision :=
  { effect := .deny, explanation := why, reasonCode := .authorityExceeded }

/-- Record a proposal that no grant covers as denied. -/
def denyUncovered (orgID txnID agentID : String) (stored : TxnAction)
    (why : String) : Gate TxnAction := do
  let denied := authorityExceeded why
  perform (.setStoredDecision stored.id denied)
  perform (.setStoredStatus stored.id .denied)
  perform (.updateStored stored.id)
  perform (.emit
    { orgID := orgID, transactionID := txnID, actorType := .authority,
      actorID := agentID, type := .actionDenied,
      payload := [("action_id", .string stored.id),
        ("reason_code", .string ReasonCode.authorityExceeded.text)] })
  return { stored with decision := some denied, status := .denied }

/-- The three endings of a judged proposal. -/
def recordDecision (txn : Transaction) (orgID txnID agentID : String)
    (stored : TxnAction) (amount : Option Int) (decision : PolicyDecision) :
    Gate TxnAction :=
  match decision.effect with
  | .deny => do
      perform (.setStoredStatus stored.id .denied)
      perform (.updateStored stored.id)
      perform (.emit (policyEvent orgID txnID decision))
      perform (.emit
        { orgID := orgID, transactionID := txnID, actorType := .policy,
          actorID := decision.ruleID, type := .actionDenied,
          payload := [("action_id", .string stored.id)] })
      return { stored with decision := some decision, status := .denied }
  | .requireApproval => do
      perform (.setStoredStatus stored.id .awaitingApproval)
      perform (.updateStored stored.id)
      perform (.emit (policyEvent orgID txnID decision))
      let _ ← perform (.createApproval
        { orgID := orgID, transactionID := txnID,
          actionID := some stored.id, requestedBy := agentID,
          reason := decision.explanation, exposureCents := amount })
      perform (.emit
        { orgID := orgID, transactionID := txnID, actorType := .system,
          actorID := agentID, type := .approvalRequested,
          payload := [("action_id", .string stored.id)] })
      -- The status written back is the one read before the action was judged.
      let _ ← perform
        (.setTxnStatus orgID txnID (statusAfter txn .awaitingApproval))
      return { stored with
        decision := some decision, status := .awaitingApproval }
  | _ => do
      perform (.setStoredStatus stored.id .allowed)
      perform (.updateStored stored.id)
      perform (.emit (policyEvent orgID txnID decision))
      return { stored with decision := some decision, status := .allowed }

/-- The decision after the risk screen.  An escalation is written through the
pointer to the stored decision. -/
def screened (orgID txnID : String) (agent : Agent) (stored : TxnAction)
    (decision : PolicyDecision) : Gate PolicyDecision :=
  if permits decision.effect then do
    let verdict ← jevScreenRisk config orgID txnID agent stored
    match verdict with
    | some why =>
        let escalated := { decision with
          effect := .requireApproval
          reasonCode := .approvalRequired
          explanation := "risk screen: " ++ why }
        perform (.setStoredDecision stored.id escalated)
        return escalated
    | none => return decision
  else return decision

/-- The version of the policies in force. -/
def versionOf : Option PolicySet → Int
  | some set => set.version
  | none => 0

/-- The decision of the policies in force, with its reason code: the rules of
the active set, or else the rules stored without versions. -/
def policyDecision (runtime : Runtime) (clock : Clock)
    (legacy : List PolicyRule) (active : Option PolicySet) (agent : Agent)
    (action : TxnAction) : PolicyDecision :=
  let rules := match active with
    | some set => set.rules
    | none => legacy
  let evaluated := Policies.evaluate runtime clock rules (versionOf active)
    agent action
  { evaluated with reasonCode := reasonFor evaluated.effect }

/-- Judge a covered proposal by the policies in force. -/
def judge (txn : Transaction) (agent : Agent)
    (orgID txnID agentID : String) (stored : TxnAction)
    (amount : Option Int) : Gate TxnAction := do
  let legacy ← perform (.policies orgID)
  let active ← perform (.activePolicySet orgID)
  let clock ← perform .clock
  let decision := policyDecision config.runtime clock legacy active agent stored
  perform (.setStoredDecision stored.id decision)
  let final ← screened config orgID txnID agent stored decision
  recordDecision txn orgID txnID agentID stored amount final

/-- Authorize a newly stored proposal: authority first, then policy. -/
def authorize (traceID : String) (txn : Transaction) (agent : Agent)
    (orgID txnID agentID : String) (stored : TxnAction)
    (amount : Option Int) : Gate TxnAction := do
  let grants ← perform (.grantsForAgent orgID agentID)
  let clock ← perform .clock
  let authority := checkAuthority config.runtime clock grants agent
    stored.tool stored.action amount
  if authority.hasGrants then do
    perform (.emit
      { orgID := orgID, transactionID := txnID, actorType := .authority,
        actorID := agentID, type := .authorityEvaluated,
        payload := [("action_id", .string stored.id),
          ("covered", .bool authority.covered),
          ("why", .string authority.why),
          ("trace_id", .string traceID)] })
    if authority.covered then
      judge config txn agent orgID txnID agentID stored amount
    else denyUncovered orgID txnID agentID stored authority.why
  else judge config txn agent orgID txnID agentID stored amount

/-- Record a proposal and decide it before anything is executed. -/
def proposeAction (traceID orgID txnID agentID tool action : String)
    (arguments : Object) (idemKey : String) :
    Gate (Except String TxnAction) := do
  match ← perform (.getTxn orgID txnID) with
  | none => return .error "transaction not found"
  | some txn =>
    if txn.status.terminal then
      return .error ("transaction is terminal (" ++ txn.status.text ++ ")")
    else match ← perform (.getAgent orgID agentID) with
    | none => return .error "agent not found"
    | some agent => do
      let amount := extractCents arguments
      let classes ← perform (.classes tool action)
      let (stored, duplicate) ← perform (.addAction
        { orgID := orgID, transactionID := txnID, tool := tool,
          action := action, arguments := arguments, classes := classes,
          amountCents := amount, idempotencyKey := idemKey,
          status := .proposed })
      if duplicate then do
        perform (.emit
          { orgID := orgID, transactionID := txnID, actorType := .system,
            actorID := agentID, type := .actionReplayed,
            payload := [("action_id", .string stored.id),
              ("status", .string stored.status.text)] })
        return .ok stored
      else do
        let decided ← authorize config traceID txn agent orgID txnID agentID
          stored amount
        return .ok decided

/-! ## Simulate -/

/-- What a proposal would come to, without recording anything. -/
structure Simulation where
  covered : Bool
  enforced : Bool
  why : String
  decision : PolicyDecision
  classes : List ActionClass
  policyVersion : Option Int
  wouldExecute : Bool

def simulate (orgID agentID tool action : String) (arguments : Object) :
    Gate (Except String Simulation) := do
  match ← perform (.getAgent orgID agentID) with
  | none => return .error "agent not found"
  | some agent => do
    let amount := extractCents arguments
    let classes ← perform (.classes tool action)
    let proposal : TxnAction :=
      { orgID := orgID, transactionID := "", tool := tool, action := action,
        arguments := arguments, classes := classes, amountCents := amount,
        idempotencyKey := "", status := .unset,
        argumentsHash := config.runtime.hashing.canonical arguments }
    let grants ← perform (.grantsForAgent orgID agentID)
    let clock ← perform .clock
    let authority := checkAuthority config.runtime clock grants agent tool
      action amount
    if authority.hasGrants ∧ !authority.covered then
      return .ok
        { covered := false, enforced := true, why := authority.why,
          decision := authorityExceeded authority.why,
          classes := classes, policyVersion := none, wouldExecute := false }
    else do
      let legacy ← perform (.policies orgID)
      let active ← perform (.activePolicySet orgID)
      let later ← perform .clock
      let decision := policyDecision config.runtime later legacy active agent
        proposal
      return .ok
        { covered := authority.covered, enforced := authority.hasGrants,
          why := authority.why, decision := decision, classes := classes,
          policyVersion := some (versionOf active),
          wouldExecute := permits decision.effect }

/-! ## Execute -/

/-- An event about an action. -/
def actionEvent (orgID : String) (action : TxnAction) (actor : ActorType)
    (actorID : String) (type : EventType) (payload : List (String × Value)) :
    AuditEvent :=
  { orgID := orgID, transactionID := action.transactionID,
    actorType := actor, actorID := actorID, type := type,
    payload := ("action_id", .string action.id) :: payload }

/-- Sign the stored receipt, when there is a signer. -/
def signReceipt (orgID : String) (receipt : Receipt) : Gate Receipt :=
  match config.signer with
  | none => return receipt
  | some signer => do
      let signature := hexEncode (signer.sign receipt.hash)
      perform (.setStoredSignature orgID receipt.id signer.keyID signature)
      return { receipt with keyID := signer.keyID, signature := signature }

/-- The receipt of an execution.  The decision of an action that got this far
is never missing. -/
def receiptFor (orgID : String) (action : TxnAction) (result : Object)
    (compensation : Compensation) (started completed : Time) : Receipt :=
  let effect := match action.decision with
    | some decision => decision.effect
    | none => .other ""
  let version := match action.decision with
    | some decision => decision.policyVersion
    | none => 0
  { orgID := orgID, transactionID := action.transactionID,
    actionID := action.id, tool := action.tool, action := action.action,
    argumentsHash := action.argumentsHash, decision := effect,
    resultHash := config.runtime.hashing.canonical result,
    financialCents := action.amountCents, compensation := compensation,
    policyVersion := version, startedAt := started,
    completedAt := completed }

/-- Append, sign and store the receipt of an execution. -/
def attest (orgID : String) (action : TxnAction) (result : Object)
    (compensation : Compensation) (started completed : Time) :
    Gate Receipt := do
  let receipt ← perform (.appendReceipt
    (receiptFor config orgID action result compensation started completed))
  let signed ← signReceipt config orgID receipt
  perform (.updateReceipt orgID signed.id signed.keyID signed.signature)
  return signed

/-- Park or fail an action whose handler returned an error. -/
def recordFailure (traceID orgID : String) (action : TxnAction)
    (latency : Int) (error : ToolError) :
    Gate (Except String TxnAction) :=
  match error with
  | .uncertain _ => do
      let parked := { action with
        status := .unknown, error := error.text, latencyMS := latency }
      perform (.updateAction parked)
      perform (.emit (actionEvent orgID action .tool action.tool
        .actionUnknown [("error", .string error.text),
          ("trace_id", .string traceID),
          ("hint", .string "reconcile before retrying")]))
      return .error error.text
  | .plain _ => do
      let failed := { action with
        status := .failed, error := error.text, latencyMS := latency }
      perform (.updateAction failed)
      perform (.emit (actionEvent orgID action .tool action.tool
        .actionFailed [("error", .string error.text),
          ("trace_id", .string traceID)]))
      return .error error.text

/-- Store the outcome of a successful execution and attest it. -/
def recordSuccess (traceID orgID : String) (action : TxnAction)
    (latency : Int) (started : Time) (result : Object) :
    Gate (Except String TxnAction) := do
  let done := { action with
    status := .executed, result := result, latencyMS := latency }
  perform (.updateAction done)
  let completed ← perform .timeNow
  let receipt ← attest config orgID done result .none started completed
  perform (.emit (actionEvent orgID action .tool action.tool
    .actionExecuted [("receipt_id", .string receipt.id),
      ("trace_id", .string traceID)]))
  return .ok done

/-- Dispatch the action and store what came of it. -/
def dispatch (traceID orgID : String) (action : TxnAction) :
    Gate (Except String TxnAction) := do
  let started ← perform .timeNow
  perform (.emit (actionEvent orgID action .agent "" .actionExecuting
    [("trace_id", .string traceID)]))
  let outcome ← perform (.execute action)
  let ended ← perform .timeNow
  let latency := (ended - started) / 1000000
  match outcome with
  | .error error => recordFailure traceID orgID action latency error
  | .ok result =>
    recordSuccess config traceID orgID action latency started result

def run (traceID orgID : String) (action : TxnAction) :
    Gate (Except String TxnAction) := do
  match ← perform (.getTxn orgID action.transactionID) with
  | some txn =>
    if txn.status = .created ∨ txn.status = .planning ∨
        txn.status = .awaitingApproval then do
      let _ ← perform (.setTxnStatus orgID txn.id .executing)
      dispatch config traceID orgID action
    else dispatch config traceID orgID action
  | none => dispatch config traceID orgID action

/-- Whether the recorded decision lets the action run without approval. -/
def decisionPermits (action : TxnAction) : Bool :=
  action.decision.any fun decision => permits decision.effect

/-- A decision as Go's `%v` prints the pointer to it. -/
def decisionText : Option PolicyDecision → String
  | none => "<nil>"
  | some decision =>
      "&\x7b" ++ decision.effect.text ++ " " ++ decision.ruleID ++ " " ++
        decision.explanation ++ " " ++ decision.reasonCode.text ++ " " ++
        toString decision.policyVersion ++ "\x7d"

/-- Run an action that was decided `ALLOW`. -/
def executeAllowed (traceID orgID actionID : String) :
    Gate (Except String TxnAction) := do
  match ← perform (.getAction orgID actionID) with
  | none => return .error "action not found"
  | some action =>
    if action.status = .executed then return .ok action
    else if action.status = .unknown then
      return .error ("action " ++ action.id ++
        " is in EXECUTION_UNKNOWN: reconcile it before retrying, or it may duplicate the side effect")
    else if !decisionPermits action then
      return .error ("action " ++ action.id ++ " is not executable (status=" ++
        action.status.text ++ " decision=" ++ decisionText action.decision ++
        "): approval required or denied")
    else if action.status ≠ .allowed ∧ action.status ≠ .approved then
      return .error ("action " ++ action.id ++
        " not in executable state (" ++ action.status.text ++ ")")
    else run config traceID orgID action

/-- Run an action whose approval was granted. -/
def runApproved (traceID orgID actionID : String) :
    Gate (Except String TxnAction) := do
  match ← perform (.getAction orgID actionID) with
  | none => return .error "action not found"
  | some action =>
    if action.status = .executed then return .ok action
    else if action.status ≠ .approved then
      return .error ("action " ++ action.id ++
        " has no granted approval (status=" ++ action.status.text ++ ")")
    else run config traceID orgID action

/-! ## Commit -/

/-- Why an action keeps its transaction from being committed. -/
def blocksCommit (action : TxnAction) : Option String :=
  match action.status with
  | .executed | .denied | .compensated => none
  | .awaitingApproval =>
      some ("cannot commit: action " ++ action.id ++ " awaits approval")
  | .unknown =>
      some ("cannot commit: action " ++ action.id ++ " is unreconciled")
  | .failed | .compensationFailed =>
      some ("cannot commit: action " ++ action.id ++ " failed")
  | other =>
      some ("cannot commit: action " ++ action.id ++ " is " ++ other.text)

/-- Close a transaction all of whose actions are resolved. -/
def commit (traceID orgID txnID : String) :
    Gate (Except String Transaction) := do
  match ← perform (.getTxn orgID txnID) with
  | none => return .error "transaction not found"
  | some txn =>
    if txn.status.terminal then
      return .error ("transaction is terminal (" ++ txn.status.text ++ ")")
    else do
      let actions ← perform (.actionsForTxn orgID txnID)
      match actions.findSome? blocksCommit with
      | some reason => return .error reason
      | none =>
        match mustTransition txn .committed with
        | .error error => return .error error
        | .ok _ =>
          match ← perform (.setTxnStatus orgID txnID .committed) with
          | .error error => return .error error
          | .ok _ => do
            perform (.emit
              { orgID := orgID, transactionID := txnID, actorType := .system,
                actorID := "gateway", type := .transactionCommitted,
                payload := [("trace_id", .string traceID)] })
            match ← perform (.getTxn orgID txnID) with
            | some out => return .ok out
            | none => return .ok txn

/-! ## Reconcile -/

/-- Settle an uncertain action with the provider's answer. -/
def settle (traceID orgID : String) (action : TxnAction) :
    Option Object → Gate (Except String TxnAction)
  | none => do
      let failed := { action with
        status := .failed
        error := "reconciliation confirmed the action never executed upstream" }
      perform (.updateAction failed)
      perform (.emit (actionEvent orgID action .tool action.tool
        .actionReconciled [("outcome", .string "absent"),
          ("trace_id", .string traceID)]))
      return .ok failed
  | some result => do
      let now ← perform .timeNow
      let confirmed := { action with
        status := .executed, result := result, error := "" }
      perform (.updateAction confirmed)
      let receipt ← attest config orgID confirmed result .reconciled
        action.createdAt now
      perform (.emit (actionEvent orgID action .tool action.tool
        .actionReconciled [("outcome", .string "confirmed"),
          ("receipt_id", .string receipt.id),
          ("trace_id", .string traceID)]))
      return .ok confirmed

/-- Ask the provider what became of an uncertain action. -/
def reconcile (traceID orgID actionID : String) :
    Gate (Except String TxnAction) := do
  match ← perform (.getAction orgID actionID) with
  | none => return .error "action not found"
  | some action =>
    if action.status ≠ .unknown then
      return .error ("action " ++ action.id ++ " is " ++ action.status.text ++
        ", nothing to reconcile")
    else match ← perform (.reconcilerFor action.tool action.action) with
    | none => do
      perform (.emit (actionEvent orgID action .system "gateway"
        .reconcileNoReconciler [("tool", .string action.tool)]))
      return .error ("no reconciler for " ++ action.tool ++ "." ++
        action.action ++ "; action remains unknown")
    | some reconciler =>
      match ← perform (.reconcile reconciler action) with
      | .error error => do
        perform (.emit (actionEvent orgID action .tool action.tool
          .reconcileError [("error", .string error.text)]))
        return .error ("reconciliation failed: " ++ error.text)
      | .ok found => settle config traceID orgID action found

/-! ## Compensate -/

/-- An event of a compensation. -/
def compensationEvent (orgID txnID : String) (type : EventType)
    (payload : List (String × Value)) : AuditEvent :=
  { orgID := orgID, transactionID := txnID, actorType := .system,
    actorID := "gateway", type := type, payload := payload }

/-- Store the outcome of one compensation in the action's current record. -/
def recordCompensation (orgID : String) (action : TxnAction)
    (status : ActionStatus) : Gate Unit := do
  match ← perform (.getAction orgID action.id) with
  | some current => perform (.updateAction { current with status := status })
  | none => return ()

/-- Compensate the listed actions; the flag tells whether one was skipped or
failed. -/
def compensateAll (orgID txnID : String) :
    List TxnAction → Bool → Gate Bool
  | [], failed => return failed
  | action :: actions, failed =>
      if action.status ≠ .executed then
        compensateAll orgID txnID actions failed
      else if isIrreversible action ∧ !isCompensable action then do
        perform (.emit (compensationEvent orgID txnID
          .compensationSkippedIrreversible
          [("action_id", .string action.id)]))
        compensateAll orgID txnID actions true
      else do
        match ← perform (.compensate action) with
        | some error => do
          recordCompensation orgID action .compensationFailed
          perform (.emit (compensationEvent orgID txnID .compensationFailed
            [("action_id", .string action.id), ("error", .string error)]))
          compensateAll orgID txnID actions true
        | none => do
          recordCompensation orgID action .compensated
          perform (.emit (compensationEvent orgID txnID .compensationSucceeded
            [("action_id", .string action.id)]))
          compensateAll orgID txnID actions failed

/-- Compensate the executed actions of a transaction, last listed first. -/
def compensateTransaction (orgID txnID : String) :
    Gate (Except String TxnStatus) := do
  match ← perform (.getTxn orgID txnID) with
  | none => return .error "transaction not found"
  | some _ => do
    let actions ← perform (.actionsForTxn orgID txnID)
    let _ ← perform (.setTxnStatus orgID txnID .compensating)
    perform (.emit (compensationEvent orgID txnID .compensationStarted []))
    let failed ← compensateAll orgID txnID actions.reverse false
    let final : TxnStatus :=
      if failed then .partiallyCompensated else .rolledBack
    let _ ← perform (.setTxnStatus orgID txnID final)
    return .ok final

end Gateway

theorem blocksCommit_eq_none {action : TxnAction} :
    Gateway.blocksCommit action = none ↔ action.status.resolved = true := by
  unfold Gateway.blocksCommit ActionStatus.resolved
  cases action.status <;> simp

end SettleAgent
