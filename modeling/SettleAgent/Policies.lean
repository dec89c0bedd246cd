import SettleAgent.Runtime

/-!
# The policy engine

Rules are tried in ascending order of priority and the first match decides.
When no rule matches, a purely read-only action is allowed and everything else
requires approval.
-/

namespace SettleAgent

/-- The three numeric cases of the type switches over `any` that read an
`int64`. -/
def Value.int64? : Value → Option Int
  | .int64 value => some value
  | .int value => some value
  | .float64 value => some value.toInt64
  | _ => none

namespace Policies

def amountOf (action : TxnAction) : Int :=
  match action.amountCents with
  | some cents => cents
  | none =>
      ((action.arguments.get? "amount_cents").bind Value.int64?).getD 0

/-- Number of recipients given by count, when no list of them is given. -/
def recipientCount (action : TxnAction) : Int :=
  match action.arguments.get? "recipient_count" with
  | some (.int count) => count
  | some (.float64 count) => count.toInt64
  | _ => 0

def recipientsOf (action : TxnAction) : Int :=
  match action.arguments.get? "recipients" with
  | some (.slice items) => items.length
  | _ => recipientCount action

def inWindow (window : TimeWindow) (now : Time) : Bool :=
  if window.weekdays ≠ [] ∧ weekday now ∉ window.weekdays then false
  else if window.startHour ≤ window.endHour then
    decide (window.startHour ≤ hour now ∧ hour now < window.endHour)
  else decide (window.startHour ≤ hour now ∨ hour now < window.endHour)

/-- The argument `resource` as text, empty when it is missing or no text. -/
def resourceOf (action : TxnAction) : String :=
  match action.arguments.get? "resource" with
  | some (.string resource) => resource
  | _ => ""

def ruleMatches (runtime : Runtime) (clock : Clock) (rule : PolicyRule)
    (agent : Agent) (action : TxnAction) : Bool :=
  let m := rule.ruleMatch
  let amount := amountOf action
  (m.tool = "" || m.tool = "*" || m.tool = action.tool) &&
  (m.action = "" || m.action = "*" || m.action = action.action) &&
  (m.agentGroups = [] ||
    m.agentGroups.any fun group => agent.groups.contains group) &&
  (m.environment = "" || m.environment = agent.environment) &&
  (m.maxAmountCents.all fun limit => amount ≤ limit) &&
  (m.minAmountCents.all fun limit => limit ≤ amount) &&
  (m.minRecipients.all fun least => least ≤ recipientsOf action) &&
  (m.classifications = [] ||
    m.classifications.any fun wanted =>
      action.classes.any fun c => c.text = wanted) &&
  (m.environments = [] ||
    m.environments.any fun environment =>
      runtime.equalFold environment agent.environment) &&
  (m.resourcePrefix = "" || hasPrefix (resourceOf action) m.resourcePrefix) &&
  (m.timeWindow.all fun window => inWindow window (clock.rule rule))

/-- Decision when no rule matches. -/
def defaultDecision (action : TxnAction) : PolicyDecision :=
  if action.classes.any fun c => c ≠ .readOnly then
    { effect := .requireApproval
      explanation := action.tool ++ "." ++ action.action ++
        " has no matching policy; default require approval." }
  else
    { effect := .allow
      explanation := "Pure read-only action with no matching policy; allowed." }

def evaluate (runtime : Runtime) (clock : Clock) (rules : List PolicyRule)
    (version : Int) (agent : Agent) (action : TxnAction) : PolicyDecision :=
  match (runtime.sortRules.sort rules).find? fun rule =>
      ruleMatches runtime clock rule agent action with
  | some rule =>
      { effect := rule.effect, ruleID := rule.id,
        explanation := rule.explanation, policyVersion := version }
  | none => defaultDecision action

end Policies
end SettleAgent
