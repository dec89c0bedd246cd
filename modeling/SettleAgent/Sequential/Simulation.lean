import SettleAgent.Sequential.Proposals

/-!
# Dry runs

`Simulate` repeats the checks of `ProposeAction` on a record that is never
stored.  With the risk screen off, a fixed clock and rules whose effects are all
known, it foretells the decision on a proposal and whether the action will be
allowed, and it changes nothing.
-/

namespace SettleAgent

open Interaction Gateway

/-! ## The two checks -/

/-- A refused authority check, in terms of the grants. -/
theorem checkAuthority_refuses {runtime : Runtime} {clock : Clock}
    {grants : List AuthorityGrant} {agent : Agent} {tool action : String}
    {amount : Option Int} :
    let authority := checkAuthority runtime clock grants agent tool action amount
    (authority.hasGrants = true ∧ authority.covered = false) ↔
      grants ≠ [] ∧ ∀ grant ∈ grants,
        ¬ Admits runtime clock grant tool action amount agent.environment := by
  intro authority
  constructor
  · rintro ⟨granted, uncovered⟩
    have refused : ¬ authority.covered = true := ne_true_of_eq_false uncovered
    rw [checkAuthority_covered, not_or] at refused
    refine ⟨refused.1, ?_⟩
    intro grant member admits
    exact refused.2 ⟨grant, member, admits⟩
  · rintro ⟨some, uncovered⟩
    exact checkAuthority_of_uncovered some uncovered

/-- The order in which the grants are listed does not matter to whether they
stand in the way. -/
theorem refuses_of_rank {config : Config} {store : MemoryStore}
    {clock : Clock} {agent : Agent} {orgID agentID tool action : String}
    {amount : Option Int} (first second : String → Nat) :
    let check := fun rank => checkAuthority config.runtime clock
      (store.grantsForAgent rank orgID agentID) agent tool action amount
    ((check first).hasGrants = true ∧ (check first).covered = false) ↔
      ((check second).hasGrants = true ∧ (check second).covered = false) := by
  intro check
  have member : ∀ grant, grant ∈ store.grantsForAgent first orgID agentID ↔
      grant ∈ store.grantsForAgent second orgID agentID := by
    intro grant
    rw [MemoryStore.grantsForAgent, MemoryStore.grantsForAgent,
      Table.mem_select, Table.mem_select]
  simp only [check, checkAuthority_refuses, ne_eq,
    List.eq_nil_iff_forall_not_mem, member]

theorem legalEffect_ne_other {rule : PolicyRule}
    (legal : Api.legalEffect rule = true) (text : String) :
    rule.effect ≠ .other text := by
  intro other
  simp [Api.legalEffect, other] at legal

/-- Rules with legal effects come to a decision with a legal effect. -/
theorem evaluate_ne_other {runtime : Runtime} {rules : List PolicyRule}
    (clock : Clock) (version : Int) (agent : Agent) (action : TxnAction)
    (legal : ∀ rule ∈ rules, Api.legalEffect rule = true) (text : String) :
    (Policies.evaluate runtime clock rules version agent action).effect ≠
      .other text := by
  unfold Policies.evaluate
  split
  · rename_i rule found
    have member := List.mem_of_find?_eq_some found
    exact legalEffect_ne_other
      (legal rule ((runtime.sortRules.perm rules).mem_iff.mp member)) text
  · unfold Policies.defaultDecision
    split <;> simp

theorem policyDecision_ne_other {runtime : Runtime} {store : MemoryStore}
    {orgID : String} (clock : Clock) (agent : Agent) (action : TxnAction)
    (legal : ∀ rule ∈ store.policiesOf orgID, Api.legalEffect rule = true)
    (text : String) :
    (policyDecision runtime clock (store.policiesOf orgID)
      (store.activePolicySet orgID) agent action).effect ≠ .other text := by
  refine evaluate_ne_other clock _ agent action ?_ text
  -- Whether there is an active set or not, its rules are the policies.
  cases active : store.activePolicySet orgID with
  | none => exact legal
  | some set =>
      rw [MemoryStore.policiesOf_eq, active] at legal
      exact legal

/-- An effect that is one of the four permits an action exactly when the action
starts out as allowed. -/
theorem permits_iff_allowed {effect : PolicyEffect}
    (legal : ∀ text, effect ≠ .other text) :
    permits effect = true ↔ initialStatus effect = .allowed := by
  cases effect with
  | other text => exact absurd rfl (legal text)
  | _ => simp [permits, initialStatus]

/-! ## The dry run -/

section DryRun

variable {config : Config} {world : World} {agent : Agent}
  {Tag : Type} {caller : Tag} {envs : Nat → Env}

/-- What a dry run says, and that it leaves everything as it is. -/
theorem simulate_complete (proposal : Proposal)
    (known : world.store.getAgent proposal.orgID proposal.agentID =
      some agent) :
    let outcome := (simulate config proposal.orgID proposal.agentID
      proposal.tool proposal.action proposal.arguments).complete (exec config)
        caller envs world
    let authority := checkAuthority config.runtime (envs 3).clock
      (world.store.grantsForAgent (envs 2).rank proposal.orgID
        proposal.agentID) agent proposal.tool proposal.action
        (extractCents proposal.arguments)
    outcome.2.1 = world ∧ ∃ simulation, outcome.1 = .ok simulation ∧
      if authority.hasGrants = true ∧ authority.covered = false then
        simulation.decision = authorityExceeded authority.why ∧
          simulation.wouldExecute = false
      else
        simulation.decision = policyDecision config.runtime (envs 6).clock
            (world.store.policiesOf proposal.orgID)
            (world.store.activePolicySet proposal.orgID) agent
            (proposal.record world.tools) ∧
          simulation.wouldExecute = permits simulation.decision.effect := by
  intro outcome authority
  simp only [outcome, simulate, Prog.perform_bind, Prog.complete, exec]
  rw [known]
  simp only [Prog.complete]
  have negated : (authority.hasGrants = true ∧ (!authority.covered) = true) ↔
      authority.hasGrants = true ∧ authority.covered = false := by
    rw [Bool.not_eq_true']
  by_cases refused : authority.hasGrants = true ∧ authority.covered = false
  · rw [if_pos]
    · exact ⟨rfl, _, rfl, (if_pos refused).mpr ⟨rfl, rfl⟩⟩
    · exact negated.mpr refused
  · rw [if_neg]
    · exact ⟨rfl, _, rfl, (if_neg refused).mpr ⟨rfl, rfl⟩⟩
    · exact fun both => refused (negated.mp both)

theorem simulate_unknown (proposal : Proposal)
    (unknown : world.store.getAgent proposal.orgID proposal.agentID = none) :
    let outcome := (simulate config proposal.orgID proposal.agentID
      proposal.tool proposal.action proposal.arguments).complete (exec config)
        caller envs world
    outcome.2.1 = world ∧ outcome.1 = .error "agent not found" := by
  simp only [simulate, Prog.perform_bind, Prog.complete, exec]
  rw [unknown]
  exact ⟨rfl, rfl⟩

end DryRun

/-- With the risk screen off and all readings of the clock alike, a dry run
leaves the world as it is and comes to the decision that a proposal under a new
key, in a transaction that is open, is recorded with.  It announces an
execution exactly if the recorded action is allowed. -/
theorem simulate_agrees_with_proposal
    {config : Config} {world : World} (proposal : Proposal)
    (disabled : config.jevEnabled = false)
    (legal : ∀ rule ∈ world.store.policiesOf proposal.orgID,
      Api.legalEffect rule = true)
    {txnID idemKey : String} {txn : Transaction}
    (found : world.ledger.getTxn proposal.orgID txnID = some txn)
    (unclosed : txn.status.terminal = false)
    (new : world.ledger.byIdem?
      (Ledger.idemKey proposal.orgID txnID idemKey) = none)
    (caller : Operation) (traceID : String) (envs others : Nat → Env)
    {clock : Clock} (fixed : ∀ n, (envs n).clock = clock)
    (fixedOthers : ∀ n, (others n).clock = clock) :
    let simulated := (simulate config proposal.orgID proposal.agentID
      proposal.tool proposal.action proposal.arguments).complete (exec config)
        caller envs world
    let proposed := (proposeAction config traceID proposal.orgID txnID
      proposal.agentID proposal.tool proposal.action proposal.arguments
        idemKey).complete (exec config) caller others world
    simulated.2.1 = world ∧
      match world.store.getAgent proposal.orgID proposal.agentID with
      | none => simulated.1 = .error "agent not found" ∧
          proposed.1 = .error "agent not found"
      | some _ => ∃ simulation action decision,
          simulated.1 = .ok simulation ∧ proposed.1 = .ok action ∧
          proposed.2.1.ledger.actions.get? action.id = some action ∧
          action.decision = some decision ∧
          simulation.decision.effect = decision.effect ∧
          simulation.decision.ruleID = decision.ruleID ∧
          simulation.decision.reasonCode = decision.reasonCode ∧
          simulation.decision.policyVersion = decision.policyVersion ∧
          (simulation.wouldExecute = true ↔ action.status = .allowed) := by
  intro simulated proposed
  cases known : world.store.getAgent proposal.orgID proposal.agentID with
  | none =>
      obtain ⟨unchanged, refused⟩ := @simulate_unknown config world Operation
        caller envs proposal known
      refine ⟨unchanged, refused, ?_⟩
      simp only [proposed, proposeAction, Prog.perform_bind, Prog.complete,
        exec]
      rw [found]
      simp only [unclosed, Bool.false_eq_true, if_false, Prog.complete, exec]
      rw [known]
      rfl
  | some agent =>
      obtain ⟨unchanged, simulation, simulates, foretold⟩ :=
        @simulate_complete config world agent Operation caller envs proposal
          known
      obtain ⟨decision, rank, ⟨first, later, clocks, weighed⟩, records, _,
        filed⟩ := @proposeAction_records config world traceID txnID txn agent
          Operation caller others idemKey proposal found unclosed known new
      refine ⟨unchanged, simulation, _, decision, simulates, records,
        filed.stores.present, rfl, ?_⟩
      have steady := @clocksOf_steady Operation _ config clock others
        fixedOthers (proposeAction config traceID proposal.orgID txnID
          proposal.agentID proposal.tool proposal.action proposal.arguments
          idemKey) caller world
      rw [clocks] at steady
      obtain rfl : first = clock := steady first List.mem_cons_self
      rw [fixed 3, fixed 6] at foretold
      let check (rank : String → Nat) := checkAuthority config.runtime first
        (world.store.grantsForAgent rank proposal.orgID proposal.agentID) agent
        proposal.tool proposal.action (extractCents proposal.arguments)
      have orders : ((check rank).hasGrants = true ∧
          (check rank).covered = false) ↔
        ((check (envs 2).rank).hasGrants = true ∧
          (check (envs 2).rank).covered = false) := refuses_of_rank _ _
      by_cases refused : (check rank).hasGrants = true ∧
        (check rank).covered = false
      · have denied := (if_pos refused).mp weighed
        obtain ⟨foreseen, stays⟩ := (if_pos (orders.mp refused)).mp foretold
        rw [foreseen, denied, stays]
        simp [authorityExceeded, TxnAction.decidedAs, initialStatus]
      · obtain ⟨second, rest, split, screened⟩ := (if_neg refused).mp weighed
        obtain ⟨foreseen, announces⟩ :=
          (if_neg fun both => refused (orders.mpr both)).mp foretold
        obtain rfl : second = first := steady second (by simp [split])
        have unscreened := screened.of_disabled disabled
        have same : simulation.decision = decision :=
          foreseen.trans unscreened.symm
        rw [announces, same]
        refine ⟨rfl, rfl, rfl, rfl, permits_iff_allowed ?_⟩
        rw [unscreened]
        exact policyDecision_ne_other second agent _ legal

namespace Sample

/-- A lookup by the agent. -/
def lookingUp : Proposal where
  orgID := "acme"
  agentID := "bot"
  tool := "crm"
  action := "lookup_customer"
  arguments := none

/-- The environments of an operation during which the clock stands still. -/
def stillEnvs (number call : Nat) : Env :=
  { envs number call with clock := .still 0 }

end Sample

/-- A lookup in a transaction that was just opened. -/
theorem simulate_agrees_with_proposal_lookup :
    let world := (sequential Sample.config Sample.world
      (Sample.inTurn [Sample.create])).state
    let simulated := (simulate Sample.config "acme" "bot" "crm"
      "lookup_customer" none).complete (exec Sample.config) Sample.create
        (Sample.stillEnvs 1) world
    let proposed := (proposeAction Sample.config "" "acme" "id1" "bot" "crm"
      "lookup_customer" none "k").complete (exec Sample.config) Sample.create
        (Sample.stillEnvs 2) world
    simulated.2.1 = world ∧ ∃ simulation action,
      simulated.1 = .ok simulation ∧ proposed.1 = .ok action ∧
        (simulation.wouldExecute = true ↔ action.status = .allowed) := by
  intro world simulated proposed
  have new : world.ledger.byIdem? (Ledger.idemKey "acme" "id1" "k") = none := by
    decide +kernel
  obtain ⟨unchanged, simulation, action, _, simulates, records, _, _, _, _, _,
    _, announces⟩ := @simulate_agrees_with_proposal Sample.config world
      Sample.lookingUp rfl (by decide +kernel) "id1" "k" _ rfl rfl new
      Sample.create "" (Sample.stillEnvs 1) (Sample.stillEnvs 2) _
      (fun _ => rfl) fun _ => rfl
  exact ⟨unchanged, simulation, action, simulates, records, announces⟩

end SettleAgent
