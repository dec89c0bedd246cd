import SettleAgent.Sequential.Proposals
import SettleAgent.Tenancy.Programs

/-!
# Delegated authority over runs

Grants are never removed, and a revocation is final.  An agent that was once
given a grant is therefore held to its grants in every later proposal: what
none of them covers at the time of the check is recorded as denied, before any
policy is looked at.
-/

namespace SettleAgent

open Interaction Gateway

/-! ## Grants stay -/

/-- Every grant is still there, for the same agent, and a revoked one is still
the same. -/
def Retains (before after : Table AuthorityGrant) : Prop :=
  ∀ id grant, before.get? id = some grant →
    ∃ later, after.get? id = some later ∧ later.orgID = grant.orgID ∧
      later.agentID = grant.agentID ∧ (grant.revokedAt ≠ none → later = grant)

namespace Retains

variable {first second third : Table AuthorityGrant}

theorem refl (grants : Table AuthorityGrant) : Retains grants grants :=
  fun _ grant present => ⟨grant, present, rfl, rfl, fun _ => rfl⟩

theorem trans (left : Retains first second) (right : Retains second third) :
    Retains first third := by
  intro id grant present
  obtain ⟨middle, held, org, agent, frozen⟩ := left id grant present
  obtain ⟨later, kept, org', agent', frozen'⟩ := right id middle held
  refine ⟨later, kept, org'.trans org, agent'.trans agent, ?_⟩
  intro revoked
  obtain rfl := frozen revoked
  exact frozen' revoked

/-- A grant under a new identifier leaves the others alone. -/
theorem set_new {id : String} (new : first.get? id = none)
    (grant : AuthorityGrant) : Retains first (first.set id grant) := by
  intro other old present
  have different : other ≠ id := by
    rintro rfl
    rw [new] at present
    cases present
  exact ⟨old, (Table.get?_set_of_ne _ _ different).trans present, rfl, rfl,
    fun _ => rfl⟩

theorem revokeGrant (store : MemoryStore) (now : Time)
    (orgID grantID : String) :
    Retains store.grants (store.revokeGrant now orgID grantID).2.grants := by
  unfold MemoryStore.revokeGrant
  split
  swap
  · exact refl _
  rename_i grant found
  split
  swap
  · exact refl _
  rename_i revocable
  intro id old present
  by_cases same : id = grantID
  · subst same
    obtain rfl : grant = old := Option.some.inj (found.symm.trans present)
    exact ⟨_, Table.get?_set_self _ _ _, rfl, rfl,
      fun revoked => absurd revocable.2 revoked⟩
  · exact ⟨old, (Table.get?_set_of_ne _ _ same).trans present, rfl, rfl,
      fun _ => rfl⟩

end Retains

/-- A call with new identifiers retains all grants. -/
theorem retains_exec {config : Config} {request : Call} {env : Env}
    {world : World}
    (unnamed : ∀ grant, request = .createGrant grant → grant.id = "")
    (admissible : Admissible world env) :
    Retains world.store.grants
      (exec config request env world).2.store.grants := by
  cases request with
  | createGrant grant =>
      have new := admissible.1.grant
      have id : (if grant.id = "" then env.uid else grant.id) = env.uid := by
        rw [if_pos (unnamed grant rfl)]
      change Retains _ (Table.set _ (if grant.id = "" then env.uid else grant.id)
        _)
      rw [id]
      exact Retains.set_new new _
  | revokeGrant orgID grantID => exact Retains.revokeGrant _ _ _ _
  | revokeCredential keyID =>
      change Retains _ (world.store.revokeCredential keyID).2.grants
      unfold MemoryStore.revokeCredential
      split <;> exact Retains.refl _
  | activatePolicySet orgID version =>
      change Retains _ (world.store.activatePolicySet orgID version).2.grants
      simp only [MemoryStore.activatePolicySet]
      split <;> exact Retains.refl _
  | setIntegrationCredential orgID name secret =>
      change Retains _ (world.store.setIntegrationCredential env.nonce orgID
        name secret).2.grants
      unfold MemoryStore.setIntegrationCredential
      split <;> exact Retains.refl _
  | _ => exact Retains.refl _

/-! ## Over runs -/

section Runs

variable {config : Config} {world : World} {earlier later : List Arrival}

/-- No operation chooses the identifier of a grant. -/
theorem unnamed_of_sequential
    (initial : world.Initial) (fresh : FreshRun config world earlier)
    {mark : Mark Operation Call Env World}
    (made : mark ∈ (sequential config world earlier).marks)
    {grant : AuthorityGrant} (created : mark.request = .createGrant grant) :
    grant.id = "" := by
  have keyed : ∀ mark ∈ (sequential config world earlier).marks,
      mark.before.ledger.WellKeyed := by
    intro mark made
    obtain ⟨view, coherent, _⟩ :=
      (sequential_coherent initial fresh).2 mark made
    exact coherent.keyed
  have within : ∀ job ∈ earlier.map (Arrival.job config), job.program.Obeys
      (Territory.whole job.tag.orgID).role (fun _ _ => True) {} := by
    intro job member
    obtain ⟨arrival, _, rfl⟩ := List.mem_map.mp member
    exact arrival.operation.within config
  have fits : ∀ (operation : Operation) (state : World) request env,
      state.ledger.WellKeyed → (Territory.whole operation.orgID).role.fits
        request (exec config request env state).1 :=
    fun _ _ request _ keyed => fits_exec request keyed
  obtain ⟨holdings, may⟩ := Session.run_permitted (exec config) _ fits world
    within keyed mark made
  rw [created] at may
  exact may.2

/-- A run retains all grants. -/
theorem retains_run (initial : world.Initial)
    (fresh : FreshRun config world (earlier ++ later)) :
    Retains (sequential config world earlier).state.store.grants
      (sequential config world (earlier ++ later)).state.store.grants := by
  rw [sequential_append]
  refine (Session.run_stepwise (exec config)
    (fun world => Retains (sequential config _ earlier).state.store.grants
      world.store.grants) _ _ (Retains.refl _) ?_).1
  rw [← sequential_append]
  intro mark made kept
  refine kept.trans (retains_exec ?_ (fresh mark made))
  intro grant created
  exact unnamed_of_sequential initial fresh made created

/-- The agent was given a grant, whatever has become of it. -/
def Adopted (orgID agentID : String) (grants : Table AuthorityGrant) : Prop :=
  ∃ id grant, grants.get? id = some grant ∧ grant.orgID = orgID ∧
    grant.agentID = agentID

theorem Adopted.retained {orgID agentID : String}
    {before after : Table AuthorityGrant}
    (adopted : Adopted orgID agentID before) (retains : Retains before after) :
    Adopted orgID agentID after := by
  obtain ⟨id, grant, present, org, agent⟩ := adopted
  obtain ⟨later, kept, org', agent', _⟩ := retains id grant present
  exact ⟨id, later, kept, org'.trans org, agent'.trans agent⟩

/-- Whoever was given a grant in a run has adopted grants at its end. -/
theorem adopted_run
    (initial : world.Initial) (fresh : FreshRun config world earlier)
    {mark : Mark Operation Call Env World}
    (made : mark ∈ (sequential config world earlier).marks)
    {grant : AuthorityGrant} (created : mark.request = .createGrant grant) :
    Adopted grant.orgID grant.agentID
      (sequential config world earlier).state.store.grants := by
  refine Session.run_since (exec config)
    (fun world => Adopted grant.orgID grant.agentID world.store.grants) _ _ ?_
    (by simp [Session.start]) made ?_
  · intro other happened adopted
    refine adopted.retained (retains_exec ?_ (fresh other happened))
    intro given creates
    exact unnamed_of_sequential initial fresh happened creates
  · rw [Mark.after, created]
    exact ⟨_, _, Table.get?_set_self _ _ _, rfl, rfl⟩

theorem Adopted.grants_ne_nil {orgID agentID : String} {store : MemoryStore}
    (adopted : Adopted orgID agentID store.grants) (rank : String → Nat) :
    store.grantsForAgent rank orgID agentID ≠ [] := by
  obtain ⟨id, grant, present, org, agent⟩ := adopted
  apply List.ne_nil_of_mem
  exact Table.mem_select.mpr ⟨by simp [org, agent], id, present⟩

end Runs

/-! ## Proposals -/

/-- No call removes an action. -/
theorem isSome_actions_exec {config : Config} {request : Call} {env : Env}
    {world : World} {id : String}
    (present : (world.ledger.actions.get? id).isSome = true) :
    ((exec config request env world).2.ledger.actions.get? id).isSome =
      true := by
  have stays (key : String) (action : TxnAction) :
      ((world.ledger.actions.set key action).get? id).isSome = true := by
    rw [Table.get?_set]
    split <;> simp_all
  have updated (action : TxnAction) :
      ((world.ledger.updateAction action).actions.get? id).isSome = true := by
    unfold Ledger.updateAction
    split
    · exact stays _ _
    · exact present
  have modified (key : String) (change : TxnAction → TxnAction) :
      ((world.ledger.modifyStored key change).actions.get? id).isSome =
        true := by
    unfold Ledger.modifyStored
    split
    · exact stays _ _
    · exact present
  by_cases writes : request.WritesActions
  swap
  · rw [actions_exec writes]
    exact present
  cases request with
  | addAction action =>
      simp only [exec, World.withLedger, Ledger.addAction]
      split
      · exact present
      · exact stays _ _
  | updateAction action => exact updated action
  | setStoredDecision key decision => exact modified key _
  | setStoredStatus key status => exact modified key _
  | updateStored key =>
      simp only [exec, World.withLedger, Ledger.updateStored]
      split
      · exact updated _
      · exact present
  | _ => exact writes.elim

/-- The action is recorded as denied because it exceeds the agent's
authority. -/
def Exceeds (action : TxnAction) : Prop :=
  action.status = .denied ∧ ∃ decision, action.decision = some decision ∧
    decision.effect = .deny ∧ decision.reasonCode = .authorityExceeded

/-- What the calls of a proposal make of the store: no action is recorded, or
one is, and it exceeds the agent's authority if the agent has grants and none
of them covers the proposal by the clock of the check. -/
def Checked (runtime : Runtime) (proposal : Proposal) (before : MemoryStore)
    (marks : List (Mark Operation Call Env World)) (after : MemoryStore) :
    Prop :=
  after.actions = before.actions ∨
    ∃ agent clock,
      before.getAgent proposal.orgID proposal.agentID = some agent ∧
      (clocksOf marks).head? = some clock ∧
      (Adopted proposal.orgID proposal.agentID before.grants →
        (∀ id grant, before.grants.get? id = some grant →
          grant.orgID = proposal.orgID → grant.agentID = proposal.agentID →
            ¬ Admits runtime clock grant proposal.tool proposal.action
              (extractCents proposal.arguments) agent.environment) →
        ∃ id action, Exceeds action ∧
          after.actions = before.actions.set id action)

/-- Every operation that makes a proposal has it checked. -/
theorem Operation.checked {config : Config} {world : World}
    {caller : Operation} {envs : Nat → Env}
    {operation : Operation} {proposal : Proposal}
    (proposes : operation.proposal = some proposal) :
    let outcome := (operation.program config).complete (exec config) caller envs
      world
    Checked config.runtime proposal world.store outcome.2.2
      outcome.2.1.store := by
  intro outcome
  have recorded := @Operation.recorded config world Operation caller envs
    operation proposal proposes
  rcases recorded with unchanged | ⟨agent, rank, decision, id, action, known,
    ⟨clock, later, clocks, weighed⟩, _, decided, status, written⟩
  · exact Or.inl unchanged
  refine Or.inr ⟨agent, clock, known, ?_, ?_⟩
  · rw [clocks]
    rfl
  intro adopted uncovered
  have refused := checkAuthority_of_uncovered (adopted.grants_ne_nil rank)
    (fun grant member => by
      obtain ⟨own, id, present⟩ := Table.mem_select.mp member
      simp only [decide_eq_true_eq] at own
      exact uncovered id grant present own.1 own.2)
  have denied : decision = authorityExceeded _ := (if_pos refused).mp weighed
  subst denied
  exact ⟨id, action, ⟨status, _, decided, rfl, rfl⟩, written⟩

/-- An action that is added under a new key is there when the program ends. -/
theorem isSome_of_addAction {α Tag : Type} {config : Config} {world : World}
    {program : Prog Call Call.Resp α} {caller : Tag} {envs : Nat → Env}
    {mark : Mark Tag Call Env World} {draft : TxnAction}
    (called : mark ∈ (program.complete (exec config) caller envs world).2.2)
    (request : mark.request = .addAction draft)
    (new : mark.before.ledger.byIdem? (Ledger.keyOf draft) = none) :
    ((program.complete (exec config) caller envs
      world).2.1.ledger.actions.get? mark.env.uid).isSome = true := by
  refine Prog.complete_since (exec config)
    (fun world => (world.ledger.actions.get? mark.env.uid).isSome = true)
    _ _ _ _ (fun _ _ => isSome_actions_exec) called ?_
  rw [Mark.after, request]
  simp only [exec, World.withLedger, Ledger.addAction_of_new _ _ new]
  rw [Table.get?_set_self]
  rfl

/-! ## Held to the grants -/

/-- Once a grant was created for an agent, the agent is held to its grants for
ever: it is never back in policy-only mode, a revoked grant never covers again,
and a later proposal that gets as far as `AddAction` under a new key is
recorded.  Every action that a later proposal records exceeds the agent's
authority, unless a grant of the agent admits it at the time of the check. -/
theorem grants_bind_from_creation
    {config : Config} {world : World} {earlier later : List Arrival}
    (initial : world.Initial)
    (fresh : FreshRun config world (earlier ++ later))
    {mark : Mark Operation Call Env World}
    (made : mark ∈ (sequential config world earlier).marks)
    {given : AuthorityGrant} (created : mark.request = .createGrant given) :
    let before := (sequential config world earlier).state
    let after := (sequential config world (earlier ++ later)).state
    (∀ rank clock agent tool action amount,
      (checkAuthority config.runtime clock
        (after.store.grantsForAgent rank given.orgID given.agentID) agent tool
          action amount).hasGrants = true) ∧
    (∀ id revoked, before.store.grants.get? id = some revoked →
      revoked.revokedAt ≠ none →
        after.store.grants.get? id = some revoked ∧
        ∀ clock tool action amount environment,
          (grantCovers config.runtime clock revoked tool action amount
            environment).1 = false) ∧
    ∀ (arrival : Arrival) (proposal : Proposal),
      arrival.operation.proposal = some proposal →
      proposal.orgID = given.orgID → proposal.agentID = given.agentID →
      let outcome := arrival.complete config after
      (∀ mark ∈ outcome.2.2, ∀ draft, mark.request = .addAction draft →
        mark.before.ledger.byIdem? (Ledger.keyOf draft) = none →
          (outcome.2.1.ledger.actions.get? mark.env.uid).isSome = true) ∧
      ∀ id action, after.ledger.actions.get? id = none →
        outcome.2.1.ledger.actions.get? id = some action →
        ∃ agent clock,
          after.store.getAgent given.orgID given.agentID = some agent ∧
          (clocksOf outcome.2.2).head? = some clock ∧
          (Exceeds action ∨ ∃ grantID grant,
            after.store.grants.get? grantID = some grant ∧
            grant.orgID = given.orgID ∧ grant.agentID = given.agentID ∧
            Admits config.runtime clock grant proposal.tool proposal.action
              (extractCents proposal.arguments) agent.environment) := by
  have retains := retains_run initial fresh
  have adopted := (adopted_run initial fresh.earlier made created).retained
    retains
  refine ⟨?_, ?_, ?_⟩
  · intro rank clock agent tool action amount
    exact checkAuthority_hasGrants (adopted.grants_ne_nil rank)
  · intro id revoked present final
    obtain ⟨later, kept, _, _, frozen⟩ := retains id revoked present
    obtain rfl := frozen final
    refine ⟨kept, ?_⟩
    intro clock tool action amount environment
    apply Bool.eq_false_of_not_eq_true
    intro covers
    exact final (grantCovers_eq_true.mp covers).unrevoked
  · intro arrival proposal proposes org agentID outcome
    constructor
    · intro mark called draft request new
      exact isSome_of_addAction called request new
    intro id action new recorded
    have checked : Checked config.runtime proposal _ outcome.2.2
      outcome.2.1.store := Operation.checked proposes
    rw [Checked, org, agentID] at checked
    rcases checked with unchanged | ⟨agent, clock, found, first, exceeds⟩
    · rw [World.ledger, unchanged, new] at recorded
      cases recorded
    refine ⟨agent, clock, found, first, ?_⟩
    by_contra! neither
    obtain ⟨unexceeded, uncovered⟩ := neither
    obtain ⟨own, denied, exceeds, written⟩ := exceeds adopted uncovered
    rw [World.ledger, written, Table.get?_set] at recorded
    split at recorded
    · obtain rfl := Option.some.inj recorded
      exact unexceeded exceeds
    · rw [new] at recorded
      cases recorded

namespace Sample

/-- The operator grants the agent the tools of the CRM. -/
def grant : Operation :=
  ask (.createGrant
    { failed := false
      value :=
        { agentID := "bot", principalID := "", scope := ["crm.*"]
          constraints := {}, environment := "", expiresAt := none
          bootstrap := false } })

/-- The grant is created, and then revoked. -/
def granted : List Arrival :=
  inTurn [grant]

def revoked : List Arrival :=
  [⟨ask (.revokeGrant "id1"), envs 1⟩]

end Sample

/-- The only grant of the agent is revoked, and the agent is still held to its
grants. -/
theorem grants_bind_from_creation_revoked :
    FreshRun Sample.config Sample.world (Sample.granted ++ Sample.revoked) ∧
      (checkAuthority SettleAgent.Sample.runtime (.still 1000)
        ((sequential Sample.config Sample.world
          (Sample.granted ++ Sample.revoked)).state.store.grantsForAgent
            (fun _ => 0) "acme" "bot") SettleAgent.Sample.agent "crm"
              "lookup_customer" none).hasGrants = true := by
  have fresh : FreshRun Sample.config Sample.world
      (Sample.granted ++ Sample.revoked) := by
    decide +kernel
  have made : ∃ mark ∈ (sequential Sample.config Sample.world
      Sample.granted).marks, ∃ given : AuthorityGrant,
        mark.request = .createGrant given ∧ given.orgID = "acme" ∧
          given.agentID = "bot" :=
    ⟨_, List.mem_cons_of_mem _ List.mem_cons_self, _, rfl, rfl, rfl⟩
  obtain ⟨mark, made, given, created, org, agent⟩ := made
  have bound := (grants_bind_from_creation Sample.initial fresh made created).1
  rw [org, agent] at bound
  exact ⟨fresh, bound _ _ _ _ _ _⟩

end SettleAgent
