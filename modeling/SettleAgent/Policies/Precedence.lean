import SettleAgent.Policies
import Mathlib.Data.List.MinMax

/-!
# Precedence of policy rules

The documentation says that the first match wins, rules being tried by
priority and, within one priority, as they are written.  The engine sorts them
with an algorithm that need not be stable.  It therefore keeps this order
exactly when the rules that tie for the lowest matching priority agree.
-/

namespace SettleAgent

namespace PrioritySort

/-- Ascending by priority, with one rule ahead of its equals. -/
def Favours (favourite earlier later : PolicyRule) : Prop :=
  earlier.priority < later.priority ∨
    earlier.priority = later.priority ∧
      (earlier = favourite ∨ later ≠ favourite)

theorem Favours.trans {favourite first second third : PolicyRule}
    (front : Favours favourite first second)
    (back : Favours favourite second third) :
    Favours favourite first third := by
  rcases front with below | ⟨equal, ahead⟩
  · rcases back with _ | ⟨_, _⟩
    · left
      omega
    · left
      omega
  · rcases back with below | ⟨equal', ahead'⟩
    · left
      omega
    · refine .inr ⟨equal.trans equal', ?_⟩
      rcases ahead with leads | trails
      · exact .inl leads
      · exact .inr (ahead'.resolve_left trails)

theorem Favours.total (favourite first second : PolicyRule) :
    Favours favourite first second ∨ Favours favourite second first := by
  rcases lt_trichotomy first.priority second.priority with below | equal | above
  · exact .inl (.inl below)
  · by_cases leads : first = favourite
    · exact .inl (.inr ⟨equal, .inl leads⟩)
    · exact .inr (.inr ⟨equal.symm, .inr leads⟩)
  · exact .inr (.inl above)

theorem Favours.le {favourite earlier later : PolicyRule}
    (favours : Favours favourite earlier later) :
    earlier.priority ≤ later.priority := by
  rcases favours with below | ⟨equal, _⟩
  · exact below.le
  · exact equal.le

open Classical in
theorem pairwise_favours (favourite : PolicyRule) (rules : List PolicyRule) :
    (rules.insertionSort (Favours favourite)).Pairwise
      (Favours favourite) := by
  have trans : IsTrans PolicyRule (Favours favourite) :=
    ⟨fun _ _ _ => Favours.trans⟩
  have total : Std.Total (Favours favourite) := ⟨Favours.total favourite⟩
  exact List.pairwise_insertionSort (Favours favourite) rules

open Classical in
/-- A sort that puts one rule ahead of the others of its priority. -/
noncomputable def favouring (favourite : PolicyRule) : PrioritySort where
  sort := List.insertionSort (Favours favourite)
  perm := List.perm_insertionSort _
  ascending := fun rules => (pairwise_favours favourite rules).imp Favours.le

end PrioritySort

namespace Policies

/-- The decision that a matching rule makes. -/
def decisionOf (version : Int) (rule : PolicyRule) : PolicyDecision :=
  { effect := rule.effect, ruleID := rule.id,
    explanation := rule.explanation, policyVersion := version }

/-- The first matching rule in the order of priority and then of position:
`argmin` returns the first of several least elements. -/
def firstMatch (runtime : Runtime) (clock : Clock) (rules : List PolicyRule)
    (agent : Agent) (action : TxnAction) : Option PolicyRule :=
  @List.argmin PolicyRule Int Int.instLinearOrder.toPreorder _
    PolicyRule.priority
    (rules.filter fun rule => ruleMatches runtime clock rule agent action)

/-- What `Evaluate` is documented to return. -/
def documented (runtime : Runtime) (clock : Clock) (rules : List PolicyRule)
    (version : Int) (agent : Agent) (action : TxnAction) : PolicyDecision :=
  ((firstMatch runtime clock rules agent action).map
    (decisionOf version)).getD (defaultDecision action)

section

variable {runtime : Runtime} {clock : Clock} {rules : List PolicyRule}
  {version : Int} {agent : Agent} {action : TxnAction}

/-- A matching rule of the lowest priority among those that match. -/
structure Leads (runtime : Runtime) (clock : Clock) (rules : List PolicyRule)
    (agent : Agent) (action : TxnAction) (rule : PolicyRule) : Prop where
  member : rule ∈ rules
  applies : ruleMatches runtime clock rule agent action = true
  least : ∀ other ∈ rules,
    ruleMatches runtime clock other agent action = true →
      rule.priority ≤ other.priority

variable {rule : PolicyRule}

theorem leads_firstMatch
    (found : firstMatch runtime clock rules agent action = some rule) :
    Leads runtime clock rules agent action rule := by
  have member := List.argmin_mem found
  rw [List.mem_filter] at member
  refine ⟨member.1, member.2, ?_⟩
  intro other present applies
  apply List.le_of_mem_argmin _ found
  exact List.mem_filter.mpr ⟨present, applies⟩

theorem firstMatch_eq_none :
    firstMatch runtime clock rules agent action = none ↔
      ∀ rule ∈ rules, ruleMatches runtime clock rule agent action = false := by
  simp [firstMatch, List.filter_eq_nil_iff]

/-- What `Evaluate` finds in any sorted arrangement of the rules leads. -/
theorem leads_find? {sorted : List PolicyRule}
    (perm : sorted.Perm rules)
    (ascending : sorted.Pairwise fun earlier later =>
      earlier.priority ≤ later.priority)
    (found : (sorted.find? fun rule =>
      ruleMatches runtime clock rule agent action) = some rule) :
    Leads runtime clock rules agent action rule := by
  obtain ⟨applies, before, after, rfl, skipped⟩ :=
    List.find?_eq_some_iff_append.mp found
  refine ⟨perm.mem_iff.mp (by simp), applies, ?_⟩
  intro other present applies
  have behind := (List.pairwise_append.mp ascending).2.1
  rcases List.mem_append.mp (perm.mem_iff.mpr present) with passed | rest
  · have fails := skipped other passed
    simp [applies] at fails
  · rcases List.mem_cons.mp rest with rfl | later
    · exact le_rfl
    · exact List.rel_of_pairwise_cons behind later

/-- A leading rule decides under the sort that favours it. -/
theorem find?_favouring
    (leads : Leads runtime clock rules agent action rule) :
    ((PrioritySort.favouring rule).sort rules).find? (fun other =>
      ruleMatches runtime clock other agent action) = some rule := by
  have perm := (PrioritySort.favouring rule).perm rules
  have listed := perm.mem_iff.mpr leads.member
  cases found : ((PrioritySort.favouring rule).sort rules).find? (fun other =>
      ruleMatches runtime clock other agent action) with
  | none =>
      have fails := List.find?_eq_none.mp found rule listed
      exact absurd leads.applies fails
  | some other =>
      have rival :=
        leads_find? perm ((PrioritySort.favouring rule).ascending rules) found
      obtain ⟨_, before, after, split, skipped⟩ :=
        List.find?_eq_some_iff_append.mp found
      have favoured := PrioritySort.pairwise_favours rule rules
      change ((PrioritySort.favouring rule).sort rules).Pairwise _ at favoured
      rw [split] at favoured listed
      have behind := (List.pairwise_append.mp favoured).2.1
      rcases List.mem_append.mp listed with passed | rest
      · have fails := skipped rule passed
        simp [leads.applies] at fails
      · rcases List.mem_cons.mp rest with rfl | later
        · rfl
        · -- only the favourite itself comes before it among its equals
          have ahead := List.rel_of_pairwise_cons behind later
          have least := leads.least other rival.member rival.applies
          rcases ahead with below | ⟨_, same | differs⟩
          · omega
          · rw [same]
          · exact absurd rfl differs

theorem evaluate_sorting (sorting : PrioritySort) :
    evaluate { runtime with sortRules := sorting } clock rules version agent
        action =
      (((sorting.sort rules).find? fun rule =>
        ruleMatches runtime clock rule agent action).map
          (decisionOf version)).getD (defaultDecision action) := by
  have same : (fun rule => ruleMatches { runtime with sortRules := sorting }
      clock rule agent action) = fun rule =>
        ruleMatches runtime clock rule agent action := rfl
  simp only [evaluate, same]
  cases (sorting.sort rules).find? fun rule =>
    ruleMatches runtime clock rule agent action <;> rfl

/-- For every sort that meets the contract, `Evaluate` returns the decision of
the documented rule exactly when all leading rules make the same decision. -/
theorem evaluate_eq_documented_iff
    (runtime : Runtime) (clock : Clock) (rules : List PolicyRule)
    (version : Int) (agent : Agent) (action : TxnAction) :
    (∀ sorting : PrioritySort,
        evaluate { runtime with sortRules := sorting } clock rules version agent
            action =
          documented runtime clock rules version agent action) ↔
      ∀ first second, Leads runtime clock rules agent action first →
        Leads runtime clock rules agent action second →
          decisionOf version first = decisionOf version second := by
  constructor
  · intro agrees first second leadsFirst leadsSecond
    have decides : ∀ rule, Leads runtime clock rules agent action rule →
        decisionOf version rule =
          documented runtime clock rules version agent action := by
      intro rule leads
      rw [← agrees (PrioritySort.favouring rule), evaluate_sorting,
        find?_favouring leads]
      rfl
    rw [decides first leadsFirst, decides second leadsSecond]
  · intro agree sorting
    rw [evaluate_sorting, documented]
    cases found : (sorting.sort rules).find? fun rule =>
        ruleMatches runtime clock rule agent action with
    | none =>
        have fails : firstMatch runtime clock rules agent action = none := by
          apply firstMatch_eq_none.mpr
          intro rule member
          have listed := (sorting.perm rules).mem_iff.mpr member
          simpa using List.find?_eq_none.mp found rule listed
        rw [fails]
    | some rule =>
        have leads :=
          leads_find? (sorting.perm rules) (sorting.ascending rules) found
        cases documents : firstMatch runtime clock rules agent action with
        | none =>
            have fails := firstMatch_eq_none.mp documents rule leads.member
            simp [leads.applies] at fails
        | some first => exact agree rule first leads (leads_firstMatch documents)

/-! ## The deciding rule -/

/-- If no rule matches, the default decides. -/
theorem evaluate_of_unmatched
    (unmatched : ∀ rule ∈ rules,
      ruleMatches runtime clock rule agent action = false) :
    evaluate runtime clock rules version agent action =
      defaultDecision action := by
  have none : (runtime.sortRules.sort rules).find? (fun rule =>
      ruleMatches runtime clock rule agent action) = none := by
    rw [List.find?_eq_none]
    intro rule listed
    rw [unmatched rule ((runtime.sortRules.perm rules).mem_iff.mp listed)]
    exact Bool.false_ne_true
  simp only [evaluate, none]

/-- If some rule matches, a leading one decides. -/
theorem exists_leads_of_matched
    (matched : ∃ rule ∈ rules,
      ruleMatches runtime clock rule agent action = true) :
    ∃ rule, Leads runtime clock rules agent action rule ∧
      evaluate runtime clock rules version agent action =
        decisionOf version rule := by
  obtain ⟨candidate, member, applies⟩ := matched
  have listed := (runtime.sortRules.perm rules).mem_iff.mpr member
  cases found : (runtime.sortRules.sort rules).find? fun rule =>
      ruleMatches runtime clock rule agent action with
  | none => exact absurd applies (List.find?_eq_none.mp found candidate listed)
  | some rule =>
      refine ⟨rule, leads_find? (runtime.sortRules.perm rules)
        (runtime.sortRules.ascending rules) found, ?_⟩
      simp only [evaluate, found]
      rfl

theorem Leads.perm {other : List PolicyRule}
    (leads : Leads runtime clock other agent action rule)
    (perm : other.Perm rules) : Leads runtime clock rules agent action rule where
  member := perm.mem_iff.mp leads.member
  applies := leads.applies
  least := fun rival member =>
    leads.least rival (perm.mem_iff.mpr member)

/-- Of rules with different priorities, one leads. -/
theorem Leads.unique {first second : PolicyRule}
    (distinct : (rules.map PolicyRule.priority).Nodup)
    (leadsFirst : Leads runtime clock rules agent action first)
    (leadsSecond : Leads runtime clock rules agent action second) :
    first = second := by
  apply List.inj_on_of_nodup_map distinct leadsFirst.member leadsSecond.member
  apply le_antisymm
  · exact leadsFirst.least second leadsSecond.member leadsSecond.applies
  · exact leadsSecond.least first leadsFirst.member leadsFirst.applies

/-- Whatever sorted permutation `sort.Slice` returns: without a matching rule
the default decides, otherwise a matching rule of the lowest priority does, and
if all priorities are different, the decision does not depend on the order of
the rules. -/
theorem evaluate_decides
    (runtime : Runtime) (clock : Clock) (rules : List PolicyRule)
    (version : Int) (agent : Agent) (action : TxnAction) :
    ((∀ rule ∈ rules, ruleMatches runtime clock rule agent action = false) →
      evaluate runtime clock rules version agent action =
        defaultDecision action) ∧
    ((∃ rule ∈ rules, ruleMatches runtime clock rule agent action = true) →
      ∃ rule, Leads runtime clock rules agent action rule ∧
        evaluate runtime clock rules version agent action =
          decisionOf version rule) ∧
    ((rules.map PolicyRule.priority).Nodup →
      ∀ (sorting : PrioritySort) (other : List PolicyRule), other.Perm rules →
        evaluate { runtime with sortRules := sorting } clock other version agent
            action =
          evaluate runtime clock rules version agent action) := by
  refine ⟨evaluate_of_unmatched, exists_leads_of_matched, ?_⟩
  intro distinct sorting other perm
  by_cases matched : ∃ rule ∈ rules,
      ruleMatches runtime clock rule agent action = true
  · obtain ⟨rule, leads, decided⟩ :=
      @exists_leads_of_matched runtime clock rules version agent action matched
    obtain ⟨candidate, member, applies⟩ := matched
    obtain ⟨rival, leadsOther, decidedOther⟩ := @exists_leads_of_matched
      { runtime with sortRules := sorting } clock other version agent action
      ⟨candidate, perm.mem_iff.mpr member, applies⟩
    have leadsRival : Leads runtime clock rules agent action rival :=
      Leads.perm ⟨leadsOther.member, leadsOther.applies, leadsOther.least⟩ perm
    rw [decided, decidedOther, Leads.unique distinct leadsRival leads]
  · have unmatched : ∀ rule ∈ rules,
        ruleMatches runtime clock rule agent action = false := by
      intro rule member
      by_contra applies
      exact matched ⟨rule, member, by simpa using applies⟩
    rw [evaluate_of_unmatched unmatched]
    apply evaluate_of_unmatched
    intro rule member
    exact unmatched rule (perm.mem_iff.mp member)

end

namespace Sample

/-- A sort that meets the contract and puts the seventh rule ahead of its
equals.  So does `sort.Slice` with thirteen rules that are not in order: the
seventh is the pivot of its first partition. -/
def pivoting : PrioritySort where
  sort := fun rules => PrioritySort.insertion.sort ((rules.drop 6).take 1 ++
    (rules.take 6 ++ (rules.drop 6).drop 1))
  perm := by
    intro rules
    refine (PrioritySort.insertion.perm _).trans ?_
    refine (List.perm_append_comm_assoc _ _ _).trans ?_
    rw [List.take_append_drop, List.take_append_drop]
  ascending := fun _ => PrioritySort.insertion.ascending _

def ruleOn (tool id : String) (priority : Int) (effect : PolicyEffect) :
    PolicyRule where
  id := id
  name := id
  priority := priority
  ruleMatch := { tool := tool }
  effect := effect
  explanation := id

/-- Thirteen rules.  The first is out of order, the second denies the use of
the shell, and the seventh, of the same priority, permits it. -/
def denyThenAllow : List PolicyRule :=
  ruleOn "email" "late" 1 .allow :: ruleOn "shell" "deny" 0 .deny ::
    (List.replicate 4 (ruleOn "email" "mail" 0 .allow) ++
      ruleOn "shell" "allow" 0 .allow ::
        List.replicate 6 (ruleOn "email" "mail" 0 .allow))

def shellAction : TxnAction where
  orgID := "acme"
  transactionID := "txn"
  tool := "shell"
  action := "exec"
  arguments := none
  classes := [.privileged, .destructive]
  amountCents := none
  idempotencyKey := "k"
  status := .proposed

end Sample

/-- The permission wins over the denial that is written before it. -/
theorem later_rule_decides :
    (documented SettleAgent.Sample.runtime (.still 0) Sample.denyThenAllow 1
        SettleAgent.Sample.agent Sample.shellAction).effect = .deny ∧
      (evaluate { SettleAgent.Sample.runtime with
          sortRules := Sample.pivoting } (.still 0) Sample.denyThenAllow 1
        SettleAgent.Sample.agent Sample.shellAction).effect = .allow := by
  decide +kernel

end Policies
end SettleAgent
