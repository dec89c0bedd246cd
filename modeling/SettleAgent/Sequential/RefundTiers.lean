import SettleAgent.Policies.Support
import SettleAgent.Sequential.Proposals

/-!
# Scrutiny of larger refunds

The policies of a support team cut the refunds into tiers by their amount in
cents.  A proposal may give the amount in dollars; the conversion is in 64-bit
arithmetic, so that a large amount of dollars can come out as a small or
negative amount of cents.
-/

namespace SettleAgent

open Gateway Policies

/-- A way to give an integer as the amount of a refund, and the cents that are
read from it. -/
structure AmountArgument where
  key : String
  value : Int → Value
  cents : Int → Int

def AmountArgument.dollars : AmountArgument :=
  ⟨"amount", .int, fun amount => wrap64 (amount * 100)⟩

def AmountArgument.all : List AmountArgument :=
  [⟨"amount_cents", .int, id⟩, ⟨"amount_cents", .int64, id⟩,
   ⟨"amountCents", .int, id⟩, ⟨"amountCents", .int64, id⟩, .dollars]

theorem AmountArgument.kinds {argument : AmountArgument}
    (listed : argument ∈ AmountArgument.all) :
    argument = .dollars ∨
      argument.key ∈ ["amount_cents", "amountCents"] ∧
        (∀ amount, (argument.value amount).int64? = some amount) ∧
        argument.cents = id := by
  simp only [AmountArgument.all, List.mem_cons, List.not_mem_nil,
    or_false] at listed
  rcases listed with rfl | rfl | rfl | rfl | rfl
  case inr.inr.inr.inr => exact Or.inl rfl
  all_goals exact Or.inr ⟨by decide, fun _ => rfl, rfl⟩

/-- Two lots of arguments that differ in one argument only. -/
structure DifferIn (argument : AmountArgument) (x y : Int)
    (first second : Object) : Prop where
  givenFirst : first.get? argument.key = some (argument.value x)
  givenSecond : second.get? argument.key = some (argument.value y)
  others : ∀ key, key ≠ argument.key → first.get? key = second.get? key

/-- The amount that is given in cents, which goes before one in dollars. -/
def centsGiven (arguments : Object) : Option Int :=
  ["amount_cents", "amountCents"].findSome? fun key =>
    (arguments.get? key).bind Value.int64?

theorem extractCents_of_given {arguments : Object} {cents : Int}
    (given : centsGiven arguments = some cents) :
    extractCents arguments = some cents := by
  rw [centsGiven] at given
  simp only [extractCents, given]

theorem extractCents_dollars {arguments : Object} {amount : Int}
    (ungiven : centsGiven arguments = none)
    (dollars : arguments.get? "amount" = some (.int amount)) :
    extractCents arguments = some (wrap64 (amount * 100)) := by
  rw [centsGiven] at ungiven
  simp only [extractCents, ungiven, dollars]

theorem centsGiven_eq (arguments : Object) :
    centsGiven arguments =
      ((arguments.get? "amount_cents").bind Value.int64?).or
        ((arguments.get? "amountCents").bind Value.int64?) := by
  cases first : (arguments.get? "amount_cents").bind Value.int64? <;>
    cases second : (arguments.get? "amountCents").bind Value.int64? <;>
    simp [centsGiven, first, second]

/-- Two amounts in cents are read as they are, unless both are hidden behind
one that goes before them. -/
theorem centsGiven_differIn {argument : AmountArgument} {x y : Int}
    {first second : Object}
    (cents : argument.key ∈ ["amount_cents", "amountCents"])
    (number : ∀ amount, (argument.value amount).int64? = some amount)
    (differ : DifferIn argument x y first second) :
    (∃ other, centsGiven first = some other ∧
      centsGiven second = some other) ∨
      centsGiven first = some x ∧ centsGiven second = some y := by
  obtain ⟨givenFirst, givenSecond, others⟩ := differ
  simp only [List.mem_cons, List.not_mem_nil, or_false] at cents
  simp only [centsGiven_eq]
  rcases cents with key | key
  · rw [key] at givenFirst givenSecond
    right
    simp [givenFirst, givenSecond, number]
  · rw [key] at givenFirst givenSecond others
    rw [others "amount_cents" (by decide), givenFirst, givenSecond]
    cases (second.get? "amount_cents").bind Value.int64? with
    | none => exact Or.inr ⟨number x, number y⟩
    | some other => exact Or.inl ⟨other, rfl, rfl⟩

/-- Amounts in dollars leave those in cents alone. -/
theorem centsGiven_dollars {x y : Int} {first second : Object}
    (differ : DifferIn .dollars x y first second) :
    centsGiven first = centsGiven second := by
  rw [centsGiven_eq, centsGiven_eq,
    differ.others "amount_cents" (by decide),
    differ.others "amountCents" (by decide)]

/-- The amount is read from the argument in question or from one that goes
before it. -/
theorem extractCents_differIn {argument : AmountArgument} {x y : Int}
    {first second : Object} (listed : argument ∈ AmountArgument.all)
    (differ : DifferIn argument x y first second) :
    (∃ other, extractCents first = some other ∧
      extractCents second = some other) ∨
      (argument = .dollars ∧ centsGiven first = none ∨ argument.cents = id) ∧
        extractCents first = some (argument.cents x) ∧
        extractCents second = some (argument.cents y) := by
  rcases AmountArgument.kinds listed with rfl | ⟨cents, number, plain⟩
  · have same := centsGiven_dollars differ
    cases given : centsGiven first with
    | some cents =>
        exact Or.inl ⟨cents, extractCents_of_given given,
          extractCents_of_given (same ▸ given)⟩
    | none =>
        exact Or.inr ⟨Or.inl ⟨rfl, rfl⟩,
          extractCents_dollars given differ.givenFirst,
          extractCents_dollars (same ▸ given) differ.givenSecond⟩
  · rcases centsGiven_differIn cents number differ with
      ⟨other, one, two⟩ | ⟨one, two⟩
    · exact Or.inl ⟨other, extractCents_of_given one, extractCents_of_given two⟩
    · rw [plain]
      exact Or.inr ⟨Or.inr rfl, extractCents_of_given one,
        extractCents_of_given two⟩

/-! ## Decisions -/

/-- A proposal to refund. -/
structure Proposal.Refunds (proposal : Proposal) : Prop where
  tool : proposal.tool = "stripe"
  action : proposal.action = "refund"

/-- The effect that the policies of the support team decide on. -/
def supportEffect (runtime : Runtime) (clock : Clock) (version : Int)
    (agent : Agent) (tools : Registry) (proposal : Proposal) : PolicyEffect :=
  (evaluate runtime clock defaultSupportPolicies version agent
    (proposal.record tools)).effect

section

variable {runtime : Runtime} {clock : Clock} {version : Int} {agent : Agent}
  {tools : Registry} {proposal : Proposal}

theorem Proposal.Refunds.record (refunds : proposal.Refunds)
    (support : "support" ∈ agent.groups) (tools : Registry) :
    SupportRefund agent (proposal.record tools) :=
  ⟨support, refunds.tool, refunds.action⟩

/-- The amount that was extracted selects the tier. -/
theorem supportEffect_eq (refunds : proposal.Refunds)
    (support : "support" ∈ agent.groups) {cents : Int}
    (extracted : extractCents proposal.arguments = some cents) :
    supportEffect runtime clock version agent tools proposal =
      (refundTier cents).effect := by
  have amount : amountOf (proposal.record tools) = cents := by
    simp only [amountOf, Proposal.record, extracted]
  rw [supportEffect, evaluate_refund (refunds.record support tools), amount]
  rfl

/-- Every refund is in exactly one tier. -/
theorem existsUnique_tier (refunds : proposal.Refunds)
    (support : "support" ∈ agent.groups) :
    ∃! rule, rule ∈ refundRules ∧
      ruleMatches runtime clock rule agent (proposal.record tools) = true := by
  have matched {rule : PolicyRule} (member : rule ∈ refundRules) :=
    @ruleMatches_tier_iff rule runtime clock agent _
      (refunds.record support tools) member
  have member := refundTier_mem (amountOf (proposal.record tools))
  refine ⟨_, ⟨member, (matched member).mpr rfl⟩, ?_⟩
  rintro rule ⟨listed, applies⟩
  exact (matched listed).mp applies

end

theorem wrap64_of_fits {value : Int} (least : -2 ^ 63 ≤ value)
    (most : value < 2 ^ 63) : wrap64 value = value := by
  unfold wrap64
  omega

theorem noStricter_iff
    {runtime : Runtime} {clock later : Clock} {version : Int} {tools : Registry}
    {agent : Agent} (support : "support" ∈ agent.groups)
    {argument : AmountArgument} (listed : argument ∈ AmountArgument.all)
    {x y : Int} (ordered : x ≤ y) {first second : Proposal}
    (refundsFirst : first.Refunds) (refundsSecond : second.Refunds)
    (differ : DifferIn argument x y first.arguments second.arguments) :
    NoStricter (supportEffect runtime clock version agent tools first)
        (supportEffect runtime later version agent tools second) ↔
      (argument = .dollars → centsGiven first.arguments = none →
        NoStricter (refundTier (wrap64 (x * 100))).effect
          (refundTier (wrap64 (y * 100))).effect) := by
  constructor
  · rintro noStricter rfl ungiven
    have same := centsGiven_dollars differ
    rw [supportEffect_eq refundsFirst support
        (extractCents_dollars ungiven differ.givenFirst),
      supportEffect_eq refundsSecond support
        (extractCents_dollars (same ▸ ungiven) differ.givenSecond)]
      at noStricter
    exact noStricter
  · intro converted
    rcases extractCents_differIn listed differ with
      ⟨other, one, two⟩ | ⟨read, one, two⟩
    · rw [supportEffect_eq refundsFirst support one,
        supportEffect_eq refundsSecond support two]
      exact NoStricter.tier_mono le_rfl
    rw [supportEffect_eq refundsFirst support one,
      supportEffect_eq refundsSecond support two]
    rcases read with ⟨rfl, ungiven⟩ | plain
    · exact converted rfl ungiven
    · rw [plain]
      exact NoStricter.tier_mono ordered

/-- A support agent's refund is in exactly one tier.  Of two refunds that
differ in the amount, the larger one is decided no less strictly unless both
amounts are read in dollars and the conversion to cents turns them around; no
conversion within 64 bits does. -/
theorem larger_refund_no_less_strict_iff
    (runtime : Runtime) (clock later : Clock) (version : Int) (tools : Registry)
    {agent : Agent} (support : "support" ∈ agent.groups)
    {argument : AmountArgument} (listed : argument ∈ AmountArgument.all)
    {x y : Int} (ordered : x ≤ y) {first second : Proposal}
    (refundsFirst : first.Refunds) (refundsSecond : second.Refunds)
    (differ : DifferIn argument x y first.arguments second.arguments) :
    let lower := supportEffect runtime clock version agent tools first
    let upper := supportEffect runtime later version agent tools second
    (∃! rule, rule ∈ refundRules ∧
      ruleMatches runtime clock rule agent (first.record tools) = true) ∧
    (NoStricter lower upper ↔
      (argument = .dollars → centsGiven first.arguments = none →
        NoStricter (refundTier (wrap64 (x * 100))).effect
          (refundTier (wrap64 (y * 100))).effect)) ∧
    ((argument = .dollars → -2 ^ 63 ≤ x * 100 ∧ y * 100 < 2 ^ 63) →
      NoStricter lower upper) := by
  intro lower upper
  have iff := @noStricter_iff runtime clock later version tools agent support
    argument listed x y ordered first second refundsFirst refundsSecond differ
  refine ⟨existsUnique_tier refundsFirst support, iff, ?_⟩
  intro fits
  apply iff.mpr
  intro dollars _
  obtain ⟨least, most⟩ := fits dollars
  rw [wrap64_of_fits least (by omega), wrap64_of_fits (by omega) most]
  exact NoStricter.tier_mono (by omega)

namespace Sample

/-- An agent of the support team. -/
def supporter : Agent :=
  { agent with groups := ["support"] }

/-- A proposal to refund an amount of dollars. -/
def dollarRefund (amount : Int) : Proposal where
  orgID := "acme"
  agentID := "bot"
  tool := "stripe"
  action := "refund"
  arguments := some [("amount", .int amount)]

theorem dollarRefunds_differ (x y : Int) :
    DifferIn .dollars x y (dollarRefund x).arguments
      (dollarRefund y).arguments where
  givenFirst := rfl
  givenSecond := rfl
  others := by
    intro key other
    have skipped : (key == "amount") = false := beq_false_of_ne other
    simp [dollarRefund, Object.get?, List.lookup_cons, skipped]

end Sample

/-- Refunds of one hundred and of five hundred dollars are decided in order. -/
theorem larger_refund_no_less_strict_iff_hundreds :
    NoStricter
      (supportEffect Sample.runtime (.still 0) 1 Sample.supporter
        .default (Sample.dollarRefund 100))
      (supportEffect Sample.runtime (.still 0) 1 Sample.supporter
        .default (Sample.dollarRefund 500)) :=
  (larger_refund_no_less_strict_iff Sample.runtime (.still 0) (.still 0) 1
    .default (by decide : "support" ∈ Sample.supporter.groups)
    (by simp [AmountArgument.all] : AmountArgument.dollars ∈ AmountArgument.all)
    (by decide) ⟨rfl, rfl⟩ ⟨rfl, rfl⟩
    (Sample.dollarRefunds_differ 100 500)).2.2 fun _ => by decide

/-- A refund of a thousand dollars is denied, and one of more than ninety
quadrillion dollars is allowed. -/
theorem overflowing_refund_is_allowed :
    let huge : Int := 92233720368547759
    (1000 ≤ huge ∧ huge < 2 ^ 63) ∧
      DifferIn .dollars 1000 huge (Sample.dollarRefund 1000).arguments
        (Sample.dollarRefund huge).arguments ∧
      supportEffect Sample.runtime (.still 0) 1 Sample.supporter .default
        (Sample.dollarRefund 1000) = .deny ∧
      supportEffect Sample.runtime (.still 0) 1 Sample.supporter .default
        (Sample.dollarRefund huge) = .allow :=
  ⟨by decide, Sample.dollarRefunds_differ 1000 _, by decide +kernel,
    by decide +kernel⟩

end SettleAgent
