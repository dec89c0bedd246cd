import SettleAgent.Tenancy.Reachable
import SettleAgent.Tenancy.Share

/-!
# Organizations are isolated

Whatever an organization can read is the same before and after a request of
another organization.  Every read of the store is covered; iterations over maps
take the same order on both sides.
-/

namespace SettleAgent

open Interaction

/-- Every read that an organization can make returns the same in two states. -/
structure SameReadings (orgID : String) (before after : MemoryStore) : Prop where
  getTxn : ∀ id, after.getTxn orgID id = before.getTxn orgID id
  listTxns : ∀ rank, after.listTxns rank orgID = before.listTxns rank orgID
  getAction : ∀ id, after.getAction orgID id = before.getAction orgID id
  actionsForTxn : ∀ rank txnID,
    after.actionsForTxn rank orgID txnID =
      before.actionsForTxn rank orgID txnID
  byIdem : ∀ txnID key,
    after.byIdem? (Ledger.idemKey orgID txnID key) =
      before.byIdem? (Ledger.idemKey orgID txnID key)
  getApproval : ∀ id, after.getApproval orgID id = before.getApproval orgID id
  pendingApprovals : ∀ rank,
    after.pendingApprovals rank orgID = before.pendingApprovals rank orgID
  receiptsForTxn : ∀ txnID,
    after.receiptsForTxn orgID txnID = before.receiptsForTxn orgID txnID
  verifyChain : ∀ hashing,
    Ledger.verifyChain hashing after.toLedger orgID =
      Ledger.verifyChain hashing before.toLedger orgID
  audit : ∀ txnID limit,
    after.auditOf orgID txnID limit = before.auditOf orgID txnID limit
  getAgent : ∀ id, after.getAgent orgID id = before.getAgent orgID id
  policySets : after.policySetsOf orgID = before.policySetsOf orgID
  activePolicySet : after.activePolicySet orgID = before.activePolicySet orgID
  policies : after.policiesOf orgID = before.policiesOf orgID
  grants : ∀ rank agentID,
    after.grantsForAgent rank orgID agentID =
      before.grantsForAgent rank orgID agentID
  credentials : ∀ keyID ref, ref.orgID = orgID →
    (after.credByKey.get? keyID = some ref ↔
      before.credByKey.get? keyID = some ref)
  getCredential : ∀ keyID ref, ref.orgID = orgID →
    (after.getCredential keyID = some ref ↔
      before.getCredential keyID = some ref)
  credentialHash : ∀ id agent, before.getAgent orgID id = some agent →
    after.credentials.get? id = before.credentials.get? id
  agentCredentialHashes : ∀ rank,
    after.agentCredentialHashes rank orgID =
      before.agentCredentialHashes rank orgID
  operatorTokens : ∀ keyID token, token.orgID = orgID →
    (after.opTokens.get? keyID = some token ↔
      before.opTokens.get? keyID = some token)
  getOperatorToken : ∀ keyID token, token.orgID = orgID →
    (after.getOperatorToken keyID = some token ↔
      before.getOperatorToken keyID = some token)
  getMCPServer : ∀ name,
    after.getMCPServer orgID name = before.getMCPServer orgID name
  listMCPServers : ∀ rank,
    after.listMCPServers rank orgID = before.listMCPServers rank orgID
  getIntegrationCredential : ∀ name,
    after.getIntegrationCredential orgID name =
      before.getIntegrationCredential orgID name
  listIntegrationCredentials : ∀ rank,
    after.listIntegrationCredentials rank orgID =
      before.listIntegrationCredentials rank orgID
  getIntegrationConfig : ∀ name,
    after.getIntegrationConfig orgID name =
      before.getIntegrationConfig orgID name

namespace Confined

variable {owner orgID : String} {before after : MemoryStore}
  (confined : Confined (.whole owner) before after) (different : orgID ≠ owner)

include confined different

theorem operatorToken (keyID : String) (token : OpToken)
    (owned : token.orgID = orgID) :
    after.opTokens.get? keyID = some token ↔
      before.opTokens.get? keyID = some token :=
  (confined.opTokens.get? (by simp [Territory.whole, owned, different])).symm

variable (plain : Plain orgID)

include plain

/-- The legacy hashes are looked up for the organization's own agents only. -/
theorem agentCredentialHashes (rank : String → Nat) :
    after.agentCredentialHashes rank orgID =
      before.agentCredentialHashes rank orgID := by
  have share := (confined.sameShare different plain).symm
  have agents : after.agents.restrict (fun agent => agent.orgID = orgID) =
      before.agents.restrict fun agent => agent.orgID = orgID := share.agents
  have hashes : ∀ entry ∈
      before.agents.restrict (fun agent => agent.orgID = orgID),
      after.credentials.get? entry.1 = before.credentials.get? entry.1 := by
    intro entry listed
    obtain ⟨present, owned⟩ := Table.mem_restrict.mp listed
    exact (confined.elsewhere orgID different plain).credentials entry.1 entry.2
      present (of_decide_eq_true owned)
  simp only [MemoryStore.agentCredentialHashes, agents,
    share.credByKey.select rank]
  congr 1
  refine List.foldl_ext _ _ _ fun collected entry listed => ?_
  rw [hashes entry listed]

/-- What is written in one organization's territory is not seen by another. -/
theorem sameReadings : SameReadings orgID before after := by
  have elsewhere := confined.elsewhere orgID different plain
  have share := (confined.sameShare different plain).symm
  constructor
  case getTxn => exact share.getTxn
  case listTxns => exact share.listTxns
  case getAction => exact share.getAction
  case actionsForTxn => exact share.actionsForTxn
  case byIdem => exact share.byIdem
  case getApproval => exact share.getApproval
  case pendingApprovals => exact share.pendingApprovals
  case receiptsForTxn => exact share.receiptsForTxn
  case verifyChain => exact elsewhere.chain
  case audit => exact share.auditOf
  case getAgent => exact share.getAgent
  case policySets => exact share.policySetsOf
  case activePolicySet => exact share.activePolicySet
  case policies => exact share.policiesOf
  case grants => exact share.grantsForAgent
  case credentials => exact fun _ _ owned => share.credential owned
  case getCredential => exact fun _ _ owned => share.getCredential owned
  case credentialHash =>
    intro id agent found
    obtain ⟨present, owned⟩ := MemoryStore.getAgent_eq_some.mp found
    exact elsewhere.credentials id agent present owned
  case agentCredentialHashes =>
    exact confined.agentCredentialHashes different plain
  case operatorTokens => exact confined.operatorToken different
  case getOperatorToken =>
    intro keyID token owned
    rw [MemoryStore.getOperatorToken_eq_some,
      MemoryStore.getOperatorToken_eq_some,
      confined.operatorToken different keyID token owned]
  case getMCPServer => exact share.getMCPServer
  case listMCPServers => exact share.listMCPServers
  case getIntegrationCredential => exact share.getIntegrationCredential
  case listIntegrationCredentials => exact share.listIntegrationCredentials
  case getIntegrationConfig => exact share.integConfig

end Confined

variable {check : String → String → Bool} {config : Config} {site : Site}

/-- Whatever is under way, no call of one organization's operations changes
what another can read from the store. -/
theorem Reachable.advanced_sameReadings (reached : Reachable check config site)
    {thread : Nat} {owner orgID : String} {request : Call}
    {next : request.Resp → Gate Outcome}
    (running : site.running thread = some (owner, .call request next))
    {env : Env} (generates : Generates site.world env)
    (different : orgID ≠ owner) (plain : Plain orgID) :
    SameReadings orgID site.world.store
      (site.advanced config thread owner request next env).world.store :=
  (reached.advanced_confined running generates).sameReadings different plain

/-- In every reachable state, a request that is authenticated for one
organization changes nothing that another organization can read. -/
theorem organizations_isolated (reached : Reachable check config site)
    {incoming : Api.Incoming} {env : Env} {identity : Api.Identity}
    (verified : incoming.identity? check env site.world.store = some identity)
    {orgID : String} (different : orgID ≠ identity.orgID)
    (plain : Plain orgID) (plainOwner : Plain identity.orgID)
    {envs : Nat → Env}
    (fresh : ∀ mark ∈
      (Api.serve check config incoming env envs site.world).2.2,
        Generates mark.before mark.env) :
    SameReadings orgID site.world.store
      (Api.serve check config incoming env envs site.world).2.1.store := by
  obtain ⟨known, sound⟩ := reached.sound
  exact (serve_confined sound.store verified plainOwner fresh).sameReadings
    different plain

namespace Sample

/-- The operator of one organization stores an integration's secret. -/
def storing : Api.Incoming where
  secret := some "sto_k0_a"
  headerOrg := ""
  traceID := ""
  route := .setIntegrationCredential "stripe"
    { failed := false, value := "sk_test_1" }

end Sample

theorem organizations_isolated_storing :
    SameReadings "globex" Sample.staffed.world.store
      (Api.serve Sample.compare Sample.config Sample.storing (Sample.env 10)
        (Sample.envs 1) Sample.staffed.world).2.1.store := by
  have verified : Sample.storing.identity? Sample.compare (Sample.env 10)
      Sample.staffed.world.store = some
        { orgID := "acme", agentID := "", operator := true, name := "ops" } :=
    rfl
  exact organizations_isolated Sample.staffed_reachable verified (by decide)
    (by decide) (by decide) (by decide +kernel)

/-- While the operator of one organization proposes an action, the first call
changes nothing that the other organization can read. -/
theorem advanced_sameReadings_propose :
    let site := Sample.staffed.admitted Sample.config 0
      (Sample.propose "id1" "stripe" "refund" none "k")
    SameReadings "globex" site.world.store
      (site.step Sample.config 0 (Sample.env 10)).world.store :=
  (Sample.staffed_reachable.admitted rfl (by decide)).advanced_sameReadings
    rfl (by decide +kernel) (by decide) (by decide)

end SettleAgent
