import SettleAgent.Policies.Precedence

/-!
# The policies of a support team

The rule set that an organization starts with.  Its three rules about refunds
cut the amounts into tiers.
-/

namespace SettleAgent
namespace Policies

/-- A rule about the refunds of support agents. -/
def refundRule (id name : String) (priority : Int) (least most : Option Int)
    (effect : PolicyEffect) (explanation : String) : PolicyRule where
  id := id
  name := name
  priority := priority
  ruleMatch :=
    { agentGroups := ["support"], tool := "stripe", action := "refund",
      minAmountCents := least, maxAmountCents := most }
  effect := effect
  explanation := explanation

def refundAuto : PolicyRule :=
  refundRule "pol-refund-auto" "refund-auto" 10 none (some 10000) .allow
    "Support agents may refund up to $100 automatically."

def refundApproval : PolicyRule :=
  refundRule "pol-refund-approval" "refund-approval" 11 (some 10001)
    (some 50000) .requireApproval
    "Refunds between $100-$500 require manager approval."

def refundDeny : PolicyRule :=
  refundRule "pol-refund-deny" "refund-deny" 12 (some 50001) none .deny
    "Refunds above $500 are prohibited for support agents."

def refundRules : List PolicyRule :=
  [refundAuto, refundApproval, refundDeny]

/-- `DefaultSupportPolicies`, without the organization noted in each rule. -/
def defaultSupportPolicies : List PolicyRule :=
  [{ id := "pol-no-iam", name := "deny-iam", priority := 1
     ruleMatch := { tool := "iam" }
     effect := .deny
     explanation := "Agents cannot modify IAM permissions." },
   { id := "pol-prod-db", name := "prod-db-delete-approval", priority := 2
     ruleMatch := { tool := "postgres", action := "delete_database" }
     effect := .requireApproval
     explanation :=
       "Production database deletion always requires human approval." },
   refundAuto,
   refundApproval,
   refundDeny,
   { id := "pol-crm", name := "crm-allow", priority := 20
     ruleMatch := { tool := "crm", action := "update_record" }
     effect := .allow
     explanation := "CRM record updates are reversible and allowed." },
   { id := "pol-email-bulk", name := "email-bulk-approval", priority := 30
     ruleMatch := { tool := "email", minRecipients := some 51 }
     effect := .requireApproval
     explanation :=
       "Sending email to more than 50 recipients requires approval." },
   { id := "pol-email", name := "email-allow", priority := 31
     ruleMatch := { tool := "email" }
     effect := .allow
     explanation := "Single-recipient customer email allowed." },
   { id := "pol-deploy-staging", name := "deploy-staging", priority := 40
     ruleMatch :=
       { tool := "deploy", action := "deploy", environment := "staging" }
     effect := .allow
     explanation := "Agents may deploy to staging automatically." },
   { id := "pol-deploy-prod", name := "deploy-prod", priority := 41
     ruleMatch :=
       { tool := "deploy", action := "deploy", environment := "production" }
     effect := .requireApproval
     explanation := "Production deployment requires approval." }]

/-- The refund rule whose bounds hold an amount. -/
def refundTier (amount : Int) : PolicyRule :=
  if amount ≤ 10000 then refundAuto
  else if amount ≤ 50000 then refundApproval
  else refundDeny

/-- The effects of the refund rules, from the least to the most strict. -/
def tierEffects : List PolicyEffect :=
  [.allow, .requireApproval, .deny]

/-- One effect is at most as strict as another. -/
def NoStricter (first second : PolicyEffect) : Prop :=
  first ∈ tierEffects ∧ second ∈ tierEffects ∧
    tierEffects.idxOf first ≤ tierEffects.idxOf second
  deriving Decidable

theorem NoStricter.tier_mono {least most : Int} (ordered : least ≤ most) :
    NoStricter (refundTier least).effect (refundTier most).effect := by
  unfold refundTier
  split
  · split
    · decide
    split <;> decide
  rename_i above
  rw [if_neg (by omega : ¬ most ≤ 10000)]
  split
  · split <;> decide
  rename_i higher
  rw [if_neg (by omega : ¬ most ≤ 50000)]
  decide

/-! ## The tier of an amount -/

/-- Every amount is in one tier. -/
theorem refundTier_cases (amount : Int) :
    amount ≤ 10000 ∧ refundTier amount = refundAuto ∨
      (10000 < amount ∧ amount ≤ 50000) ∧
        refundTier amount = refundApproval ∨
      50000 < amount ∧ refundTier amount = refundDeny := by
  unfold refundTier
  by_cases small : amount ≤ 10000
  · exact Or.inl ⟨small, if_pos small⟩
  rw [if_neg small]
  by_cases medium : amount ≤ 50000
  · exact Or.inr (Or.inl ⟨⟨by omega, medium⟩, if_pos medium⟩)
  · exact Or.inr (Or.inr ⟨by omega, if_neg medium⟩)

theorem refundTier_mem (amount : Int) : refundTier amount ∈ refundRules := by
  rcases refundTier_cases amount with ⟨_, tier⟩ | ⟨_, tier⟩ | ⟨_, tier⟩ <;>
    simp [tier, refundRules]

/-- The bounds that a rule sets on an amount. -/
def withinBounds (least most : Option Int) (amount : Int) : Bool :=
  (most.all fun limit => amount ≤ limit) &&
    least.all fun limit => limit ≤ amount

variable {rule : PolicyRule}

/-- The bounds of the refund rules leave no gap and do not overlap. -/
theorem withinBounds_iff (member : rule ∈ refundRules) {amount : Int} :
    withinBounds rule.ruleMatch.minAmountCents rule.ruleMatch.maxAmountCents
        amount = true ↔ rule = refundTier amount := by
  simp only [refundRules, List.mem_cons, List.not_mem_nil, or_false] at member
  rcases refundTier_cases amount with
    ⟨bounds, tier⟩ | ⟨bounds, tier⟩ | ⟨bounds, tier⟩
  all_goals
    rw [tier]
    rcases member with rfl | rfl | rfl <;>
      simp [withinBounds, refundAuto, refundApproval, refundDeny,
        refundRule] <;> omega

theorem refundRules_subset : refundRules ⊆ defaultSupportPolicies := by
  simp [refundRules, defaultSupportPolicies]

theorem tool_of_refundRules (member : rule ∈ refundRules) :
    rule.ruleMatch.tool = "stripe" := by
  simp only [refundRules, List.mem_cons, List.not_mem_nil, or_false] at member
  rcases member with rfl | rfl | rfl <;> rfl

/-- The other rules are about other tools. -/
theorem mem_refundRules_or_elsewhere (member : rule ∈ defaultSupportPolicies) :
    rule ∈ refundRules ∨ rule.ruleMatch.tool ∉ ["", "*", "stripe"] := by
  simp only [defaultSupportPolicies, List.mem_cons, List.not_mem_nil,
    or_false] at member
  rcases member with rfl | rfl | tier | tier | tier | rfl | rfl | rfl | rfl |
    rfl
  case inr.inr.inl => exact Or.inl (by simp [refundRules, tier])
  case inr.inr.inr.inl => exact Or.inl (by simp [refundRules, tier])
  case inr.inr.inr.inr.inl => exact Or.inl (by simp [refundRules, tier])
  all_goals exact Or.inr (by decide)

/-- A support agent's refund. -/
structure SupportRefund (agent : Agent) (action : TxnAction) : Prop where
  support : "support" ∈ agent.groups
  tool : action.tool = "stripe"
  action : action.action = "refund"

section

variable {runtime : Runtime} {clock : Clock} {agent : Agent}
  {action : TxnAction}

/-- A rule about another tool does not match. -/
theorem ruleMatches_of_tool_ne
    (other : rule.ruleMatch.tool ∉ ["", "*", action.tool]) :
    ruleMatches runtime clock rule agent action = false := by
  simp only [List.mem_cons, List.not_mem_nil, or_false, not_or] at other
  simp [ruleMatches, other]

/-- Of the refund rules exactly the one of the amount's tier matches. -/
theorem ruleMatches_tier_iff (refunds : SupportRefund agent action)
    (member : rule ∈ refundRules) :
    ruleMatches runtime clock rule agent action = true ↔
      rule = refundTier (amountOf action) := by
  have looks (id name : String) (priority : Int) (least most : Option Int)
      (effect : PolicyEffect) (explanation : String) :
      ruleMatches runtime clock
          (refundRule id name priority least most effect explanation) agent
          action =
        withinBounds least most (amountOf action) := by
    simp [ruleMatches, refundRule, withinBounds, refunds.support, refunds.tool,
      refunds.action]
  rw [← withinBounds_iff member]
  simp only [refundRules, List.mem_cons, List.not_mem_nil, or_false] at member
  rcases member with rfl | rfl | rfl
  · rw [refundAuto, looks]
    rfl
  · rw [refundApproval, looks]
    rfl
  · rw [refundDeny, looks]
    rfl

/-- Of all the rules exactly the one of the amount's tier matches. -/
theorem ruleMatches_support_iff (refunds : SupportRefund agent action)
    (member : rule ∈ defaultSupportPolicies) :
    ruleMatches runtime clock rule agent action = true ↔
      rule = refundTier (amountOf action) := by
  rcases mem_refundRules_or_elsewhere member with tier | elsewhere
  · exact ruleMatches_tier_iff refunds tier
  · rw [ruleMatches_of_tool_ne (by rw [refunds.tool]; exact elsewhere)]
    constructor
    · intro applies
      cases applies
    · rintro rfl
      rw [tool_of_refundRules (refundTier_mem _)] at elsewhere
      exact absurd (by decide) elsewhere

/-- The rule of the amount's tier decides, whatever the sort. -/
theorem evaluate_refund (refunds : SupportRefund agent action) (version : Int) :
    evaluate runtime clock defaultSupportPolicies version agent action =
      decisionOf version (refundTier (amountOf action)) := by
  have member := refundRules_subset (refundTier_mem (amountOf action))
  obtain ⟨rule, leads, decided⟩ := @exists_leads_of_matched runtime clock
    defaultSupportPolicies version agent action
    ⟨_, member, (ruleMatches_support_iff refunds member).mpr rfl⟩
  rw [decided, (ruleMatches_support_iff refunds leads.member).mp leads.applies]

end

end Policies
end SettleAgent
