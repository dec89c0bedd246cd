import SettleAgent.Actions.Registrations
import SettleAgent.Policies.Precedence
import SettleAgent.Sequential.Simulation

/-!
# Proposals that no rule matches

A proposal that no rule matches is decided by the classes of its tool: it is
allowed if they are all read-only and needs approval otherwise.  The classes
are those stored under the joined name of the tool and the action, which may
come from the registration of another pair, and the grants of the agent are
looked at before.
-/

namespace SettleAgent

open Interaction Gateway

/-- The default for the tool as it is registered: to allow what is read-only and
to have the rest approved. -/
def registeredDefault (calls : List Registration) (tool action : String) :
    PolicyEffect :=
  if (Registry.registered calls tool action).any Registration.readsOnly then
    .allow
  else .requireApproval

/-- Of the registrations, the latest one for the pair and the latest one for
the joined name are both read-only or neither is. -/
def ReadAsRegistered (calls : List Registration) (tool action : String) :
    Prop :=
  (Registry.classified calls tool action).any Registration.readsOnly =
    (Registry.registered calls tool action).any Registration.readsOnly

/-- At this time the agent has no grants, or one that covers the proposal. -/
def Proposal.Covered (proposal : Proposal) (config : Config)
    (store : MemoryStore) (agent : Agent) (clock : Clock) : Prop :=
  ∀ rank, (checkAuthority config.runtime clock
    (store.grantsForAgent rank proposal.orgID proposal.agentID) agent
    proposal.tool proposal.action (extractCents proposal.arguments)).covered =
      true

/-- At this time none of the rules in force matches the proposal. -/
def Proposal.Unmatched (proposal : Proposal) (config : Config) (world : World)
    (agent : Agent) (clock : Clock) : Prop :=
  ∀ rule ∈ world.store.policiesOf proposal.orgID,
    Policies.ruleMatches config.runtime clock rule agent
      (proposal.record world.tools) = false

/-- The default depends on the classes alone. -/
theorem defaultDecision_effect (action : TxnAction) :
    (Policies.defaultDecision action).effect =
      if action.classes.all fun risk => risk = .readOnly then .allow
      else .requireApproval := by
  unfold Policies.defaultDecision
  by_cases risky : (action.classes.any fun risk => risk ≠ .readOnly) = true
  · rw [if_pos risky, if_neg]
    simpa using risky
  · rw [if_neg risky, if_pos]
    simpa using risky

section

variable {config : Config} {world : World} {agent : Agent}

/-- Where no rule matches, the policies come to the default. -/
theorem policyDecision_of_unmatched {proposal : Proposal} {clock : Clock}
    (unmatched : proposal.Unmatched config world agent clock) :
    (policyDecision config.runtime clock
        (world.store.policiesOf proposal.orgID)
        (world.store.activePolicySet proposal.orgID) agent
        (proposal.record world.tools)).effect =
      if (world.tools.classes proposal.tool proposal.action).all fun risk =>
        risk = .readOnly then .allow else .requireApproval := by
  have evaluated : ∀ rules, rules = world.store.policiesOf proposal.orgID →
      ∀ version, (Policies.evaluate config.runtime clock rules version agent
        (proposal.record world.tools)).effect =
          (Policies.defaultDecision (proposal.record world.tools)).effect := by
    rintro rules rfl version
    rw [Policies.evaluate_of_unmatched unmatched]
  refine Eq.trans (evaluated _ ?_ _) (defaultDecision_effect _)
  -- Whether there is an active set or not, its rules are the policies.
  cases active : world.store.activePolicySet proposal.orgID with
  | none => rfl
  | some set => rw [MemoryStore.policiesOf_eq, active, Option.elim_some]

/-- It does not matter in which order the grants are listed. -/
theorem Proposal.covered_iff {proposal : Proposal} {clock : Clock}
    (rank : String → Nat) :
    proposal.Covered config world.store agent clock ↔
      (checkAuthority config.runtime clock (world.store.grantsForAgent rank
        proposal.orgID proposal.agentID) agent proposal.tool proposal.action
        (extractCents proposal.arguments)).covered = true := by
  have member : ∀ other grant, grant ∈ world.store.grantsForAgent other
      proposal.orgID proposal.agentID ↔ grant ∈ world.store.grantsForAgent rank
        proposal.orgID proposal.agentID := by
    intro other grant
    rw [MemoryStore.grantsForAgent, MemoryStore.grantsForAgent,
      Table.mem_select, Table.mem_select]
  simp only [Proposal.Covered, checkAuthority_covered,
    List.eq_nil_iff_forall_not_mem, member, forall_const]

/-- An agent without grants is covered. -/
theorem hasGrants_of_uncovered {runtime : Runtime} {clock : Clock}
    {grants : List AuthorityGrant} {tool action : String} {amount : Option Int}
    (uncovered : ¬ (checkAuthority runtime clock grants agent tool action
      amount).covered = true) :
    (checkAuthority runtime clock grants agent tool action amount).hasGrants =
      true := by
  rw [checkAuthority_covered, not_or] at uncovered
  exact checkAuthority_hasGrants uncovered.1

/-- A proposal is denied or decided by the policies, depending on whether the
grants cover it. -/
theorem Weighed.covered {proposal : Proposal} {rank : String → Nat}
    {clocks : List Clock} {decision : PolicyDecision}
    (weighed : Weighed config world.store rank clocks agent proposal.orgID
      proposal.agentID (proposal.record world.tools) decision) :
    ∃ clock, clocks[0]? = some clock ∧
      (¬ proposal.Covered config world.store agent clock ∧
          decision.effect = .deny ∨
        proposal.Covered config world.store agent clock ∧
          ∃ now, clocks[1]? = some now ∧
            Screened config (policyDecision config.runtime now
              (world.store.policiesOf proposal.orgID)
              (world.store.activePolicySet proposal.orgID) agent
              (proposal.record world.tools)) decision) := by
  obtain ⟨clock, later, rfl, weighed⟩ := weighed
  refine ⟨clock, rfl, ?_⟩
  rw [Proposal.covered_iff rank]
  dsimp only at weighed
  split at weighed
  · rename_i refused
    left
    rw [weighed]
    exact ⟨ne_true_of_eq_false refused.2, rfl⟩
  · rename_i unrefused
    right
    obtain ⟨now, rest, rfl, screened⟩ := weighed
    refine ⟨?_, now, rfl, screened⟩
    by_contra uncovered
    exact unrefused ⟨hasGrants_of_uncovered uncovered,
      Bool.eq_false_of_not_eq_true uncovered⟩

/-- With the risk screen off, what is decided on a proposal that no rule
matches is the default for its tool as it was registered, exactly when the
grants of the agent cover it and the registrations under the joined name agree
with those for the pair. -/
theorem decided_as_registered_iff
    (calls : List Registration) (proposal : Proposal)
    (filled : world.tools = Registry.default.registerAll calls)
    (disabled : config.jevEnabled = false)
    {txnID idemKey : String} {txn : Transaction}
    (found : world.ledger.getTxn proposal.orgID txnID = some txn)
    (unclosed : txn.status.terminal = false)
    (known : world.store.getAgent proposal.orgID proposal.agentID = some agent)
    (new : world.ledger.byIdem?
      (Ledger.idemKey proposal.orgID txnID idemKey) = none)
    (caller : Operation) (traceID : String) (envs : Nat → Env) :
    let proposed := (proposeAction config traceID proposal.orgID txnID
      proposal.agentID proposal.tool proposal.action proposal.arguments
      idemKey).complete (exec config) caller envs world
    let clocks := clocksOf proposed.2.2
    -- The first clock is for the grants, the second one for the
    -- rules.
    (∀ now, clocks[1]? = some now →
      proposal.Unmatched config world agent now) →
    ∃ clock action decision, clocks[0]? = some clock ∧
      proposed.1 = .ok action ∧
      proposed.2.1.ledger.actions.get? action.id = some action ∧
      action.decision = some decision ∧
      (decision.effect =
          registeredDefault calls proposal.tool proposal.action ↔
        proposal.Covered config world.store agent clock ∧
          ReadAsRegistered calls proposal.tool proposal.action) := by
  intro proposed clocks unmatched
  obtain ⟨decision, rank, weighed, records, _, filed⟩ :=
    @proposeAction_records config world traceID txnID txn agent Operation
      caller envs idemKey proposal found unclosed known new
  have weighed : Weighed config world.store rank clocks agent proposal.orgID
      proposal.agentID (proposal.record world.tools) decision := weighed
  obtain ⟨clock, first, denied | judged⟩ := weighed.covered
  · refine ⟨clock, _, decision, first, records, filed.stores.present, rfl, ?_⟩
    have other : decision.effect ≠
        registeredDefault calls proposal.tool proposal.action := by
      rw [denied.2, registeredDefault]
      split <;> simp
    exact iff_of_false other fun both => denied.1 both.1
  · obtain ⟨covered, now, second, screened⟩ := judged
    refine ⟨clock, _, decision, first, records, filed.stores.present, rfl, ?_⟩
    have decided := policyDecision_of_unmatched (unmatched now second)
    rw [← screened.of_disabled disabled, filled,
      Registry.all_readOnly_classes] at decided
    rw [and_iff_right covered, decided, registeredDefault, ReadAsRegistered]
    cases (Registry.classified calls proposal.tool proposal.action).any
        Registration.readsOnly <;>
      cases (Registry.registered calls proposal.tool proposal.action).any
        Registration.readsOnly <;> simp

end

namespace Sample

/-- An open transaction, and a tool of an upstream server whose name holds a
dot. -/
def serving : World :=
  { (sequential config world (inTurn [create])).state with
    tools := Registry.default.registerAll [Registry.Sample.readFiles] }

/-- The effect that is decided on what the agent proposes there. -/
def decided (tool action : String) : Option PolicyEffect :=
  let proposed := (proposeAction config "" "acme" "id1" "bot" tool action none
    "k").complete (exec config) create (envs 1) serving
  match proposed.1 with
  | .ok stored => stored.decision.map PolicyDecision.effect
  | .error _ => none

end Sample

/-- A lookup is registered as read-only, and it is allowed. -/
theorem decided_as_registered_iff_lookup :
    Registry.registered [Registry.Sample.readFiles] "crm" "lookup_customer" ≠
        none ∧
      Sample.decided "crm" "lookup_customer" = some .allow := by
  refine ⟨by decide +kernel, ?_⟩
  have new : Sample.serving.ledger.byIdem?
      (Ledger.idemKey "acme" "id1" "k") = none := by decide +kernel
  have unruled : Sample.serving.store.policiesOf "acme" = [] := by decide +kernel
  obtain ⟨clock, action, decision, _, records, _, noted, agrees⟩ :=
    @decided_as_registered_iff Sample.config Sample.serving _
      [Registry.Sample.readFiles] Sample.lookingUp rfl rfl "id1" "k" _ rfl rfl
      rfl new Sample.create "" (Sample.envs 1) (by
        intro now _ rule member
        rw [Sample.lookingUp, unruled] at member
        cases member)
  have effect : decision.effect = _ :=
    agrees.mpr ⟨fun _ => rfl, by unfold ReadAsRegistered; decide +kernel⟩
  have allows : registeredDefault [Registry.Sample.readFiles]
      Sample.lookingUp.tool Sample.lookingUp.action = .allow := by
    decide +kernel
  have recorded : ((proposeAction Sample.config "" "acme" "id1" "bot" "crm"
      "lookup_customer" none "k").complete (exec Sample.config) Sample.create
        (Sample.envs 1) Sample.serving).1 = .ok action := records
  rw [Sample.decided, recorded]
  change action.decision.map PolicyDecision.effect = _
  rw [noted, Option.map_some, effect, allows]

/-- No tool is registered under these names, but what is registered as
`files.read` of `mcp:srv` is found for them too, and its class has the proposal
allowed. -/
theorem unregistered_tool_is_allowed :
    Registry.registered [Registry.Sample.readFiles] "mcp:srv.files" "read" =
        none ∧
      Sample.config.jevEnabled = false ∧
      Sample.serving.store.policiesOf "acme" = [] ∧
      registeredDefault [Registry.Sample.readFiles] "mcp:srv.files" "read" =
        .requireApproval ∧
      Sample.decided "mcp:srv.files" "read" = some .allow := by
  decide +kernel

end SettleAgent
