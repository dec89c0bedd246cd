import SettleAgent.Store.Chain
import SettleAgent.Tenancy.Role

/-!
# The share of an organization

What a store holds for one organization.  Two stores with the same share answer
the organization's reads alike, a write in another organization's territory
keeps the share, and when the organization makes the same call in both, the
replies are equal and the shares stay the same.
-/

namespace SettleAgent

open Integrations

/-- Two stores hold the same for an organization. -/
structure SameShare (orgID : String) (first second : MemoryStore) : Prop where
  txns : Table.Agree (fun txn => txn.orgID = orgID) first.txns second.txns
  actions : Table.Agree (fun action => action.orgID = orgID)
    first.actions second.actions
  byIdem : ∀ txnID key,
    first.byIdem? (Ledger.idemKey orgID txnID key) =
      second.byIdem? (Ledger.idemKey orgID txnID key)
  approvals : Table.Agree (fun approval => approval.orgID = orgID)
    first.approvals second.approvals
  receipts : (first.receiptsList.filter fun receipt => receipt.orgID = orgID) =
    second.receiptsList.filter fun receipt => receipt.orgID = orgID
  lastHash : first.lastHash.get? orgID = second.lastHash.get? orgID
  audit : (first.audit.filter fun event => event.orgID = orgID) =
    second.audit.filter fun event => event.orgID = orgID
  agents : Table.Agree (fun agent => agent.orgID = orgID)
    first.agents second.agents
  credByKey : Table.Agree (fun ref => ref.orgID = orgID)
    first.credByKey second.credByKey
  grants : Table.Agree (fun grant => grant.orgID = orgID)
    first.grants second.grants
  policySets : first.policySets.get? orgID = second.policySets.get? orgID
  policies : first.policies.get? orgID = second.policies.get? orgID
  mcpServers : Table.Agree (fun entry => entry.server.orgID = orgID)
    first.mcpServers second.mcpServers
  servers : ∀ name,
    first.mcpServers.get? (MemoryStore.mcpKey orgID name) =
      second.mcpServers.get? (MemoryStore.mcpKey orgID name)
  integCreds : ∀ name,
    first.integCreds.get? (MemoryStore.mcpKey orgID name) =
      second.integCreds.get? (MemoryStore.mcpKey orgID name)
  integNames : (first.integCreds.keys.filter fun key =>
      (MemoryStore.mcpKey orgID "").toList.isPrefixOf key.toList) =
    second.integCreds.keys.filter fun key =>
      (MemoryStore.mcpKey orgID "").toList.isPrefixOf key.toList
  integConfig : ∀ name,
    first.integConfig.get? (MemoryStore.mcpKey orgID name) =
      second.integConfig.get? (MemoryStore.mcpKey orgID name)
  keyProvider : first.keyProvider = second.keyProvider

/-- A list keeps what a weaker choice takes when a stronger one takes the same. -/
theorem filter_eq_of_filter_eq {α : Type} {keep weaker : α → Bool}
    {first second : List α} (same : first.filter keep = second.filter keep)
    (implies : ∀ value, weaker value = true → keep value = true) :
    first.filter weaker = second.filter weaker := by
  have both : ∀ list : List α,
      list.filter weaker = (list.filter keep).filter weaker := by
    intro list
    rw [List.filter_filter]
    refine List.filter_congr fun value _ => ?_
    cases held : weaker value with
    | true => simp [implies value held]
    | false => rfl
  rw [both first, both second, same]

namespace SameShare

variable {orgID : String} {first second third : MemoryStore}

theorem symm (share : SameShare orgID first second) :
    SameShare orgID second first where
  txns := share.txns.symm
  actions := share.actions.symm
  byIdem := fun txnID key => (share.byIdem txnID key).symm
  approvals := share.approvals.symm
  receipts := share.receipts.symm
  lastHash := share.lastHash.symm
  audit := share.audit.symm
  agents := share.agents.symm
  credByKey := share.credByKey.symm
  grants := share.grants.symm
  policySets := share.policySets.symm
  policies := share.policies.symm
  mcpServers := share.mcpServers.symm
  servers := fun name => (share.servers name).symm
  integCreds := fun name => (share.integCreds name).symm
  integNames := share.integNames.symm
  integConfig := fun name => (share.integConfig name).symm
  keyProvider := share.keyProvider.symm

theorem trans (share : SameShare orgID first second)
    (following : SameShare orgID second third) :
    SameShare orgID first third where
  txns := share.txns.trans following.txns
  actions := share.actions.trans following.actions
  byIdem := fun txnID key =>
    (share.byIdem txnID key).trans (following.byIdem txnID key)
  approvals := share.approvals.trans following.approvals
  receipts := share.receipts.trans following.receipts
  lastHash := share.lastHash.trans following.lastHash
  audit := share.audit.trans following.audit
  agents := share.agents.trans following.agents
  credByKey := share.credByKey.trans following.credByKey
  grants := share.grants.trans following.grants
  policySets := share.policySets.trans following.policySets
  policies := share.policies.trans following.policies
  mcpServers := share.mcpServers.trans following.mcpServers
  servers := fun name => (share.servers name).trans (following.servers name)
  integCreds := fun name =>
    (share.integCreds name).trans (following.integCreds name)
  integNames := share.integNames.trans following.integNames
  integConfig := fun name =>
    (share.integConfig name).trans (following.integConfig name)
  keyProvider := share.keyProvider.trans following.keyProvider

theorem refl (orgID : String) (store : MemoryStore) :
    SameShare orgID store store :=
  ⟨.refl _, .refl _, fun _ _ => rfl, .refl _, rfl, rfl, rfl, .refl _, .refl _,
    .refl _, rfl, rfl, .refl _, fun _ => rfl, fun _ => rfl, rfl, fun _ => rfl,
    rfl⟩

end SameShare

/-- The record that an index entry points to once a place in the table has been
taken by another record. -/
theorem Ledger.byIdem?_set_action {ledger : Ledger} {id key : String}
    {action : TxnAction} {byIdem : Table String} (keyed : ledger.WellKeyed)
    (indexed : ledger.Indexed)
    (index : byIdem.get? key = ledger.byIdem.get? key) :
    ({ ledger with
      actions := ledger.actions.set id action
      byIdem := byIdem } : Ledger).byIdem? key =
        (ledger.byIdem? key).map fun record =>
          if record.id = id then action else record := by
  rw [Ledger.byIdem?, Ledger.byIdem?, index]
  cases entry : ledger.byIdem.get? key with
  | none => rfl
  | some pointed =>
      obtain ⟨record, present, _⟩ := indexed key pointed entry
      have named := keyed.action pointed record present
      simp only [Option.bind_some, present, Option.map_some, named,
        Table.get?_set]
      split <;> rfl

/-- Deciding an approval starts by looking it up. -/
theorem Ledger.decideApproval_eq (ledger : Ledger) (now : Time)
    (orgID id decidedBy : String) (approve : Bool) :
    ledger.decideApproval now orgID id decidedBy approve =
      match ledger.getApproval orgID id with
      | some approval =>
          if approval.status = .pending then
            let outcome := Ledger.decided now decidedBy approve approval
            (some outcome, { ledger with
              approvals := ledger.approvals.set id outcome })
          else (none, ledger)
      | none => (none, ledger) := by
  unfold decideApproval getApproval
  cases ledger.approvals.get? id with
  | none => rfl
  | some approval =>
      by_cases owned : approval.orgID = orgID
      · simp only [owned, true_and, if_true]
      · simp only [owned, false_and, if_false]

/-- Only a grant of the organization is revoked. -/
theorem MemoryStore.revokeGrant_eq (store : MemoryStore) (now : Time)
    (orgID grantID : String) :
    store.revokeGrant now orgID grantID =
      match (store.grants.get? grantID).filter fun grant =>
        grant.orgID = orgID with
      | some grant =>
          if grant.revokedAt = none then
            (true, { store with
              grants := store.grants.set grantID
                { grant with revokedAt := some now } })
          else (false, store)
      | none => (false, store) := by
  unfold revokeGrant
  cases store.grants.get? grantID with
  | none => rfl
  | some grant =>
      by_cases owned : grant.orgID = orgID
      · simp only [owned, true_and, Option.filter, decide_true, if_true]
      · simp only [owned, false_and, Option.filter, decide_false, if_false,
          Bool.false_eq_true]

/-- What is written in one organization's territory keeps the share of every
other organization. -/
theorem Confined.sameShare {owner orgID : String} {before after : MemoryStore}
    (confined : Confined (.whole owner) before after)
    (different : orgID ≠ owner) (plain : Plain orgID) :
    SameShare orgID before after := by
  have elsewhere := confined.elsewhere orgID different plain
  -- a record of the organization is outside of the territory
  have outside : ∀ {owned : String}, decide (owned = orgID) = true →
      decide (owned ≠ owner) = true := by
    intro owned belongs
    simpa [of_decide_eq_true belongs] using different
  have foreign : ∀ {owned : String}, decide (owned = orgID) = true →
      (!(decide (owned = owner) && true)) = true := by
    intro owned belongs
    simpa [of_decide_eq_true belongs] using different
  exact
    { txns := confined.txns.mono fun _ owned => foreign owned
      actions := confined.actions.mono fun _ owned => foreign owned
      byIdem := fun txnID key => (elsewhere.byIdem txnID key).symm
      approvals := confined.approvals.mono fun _ owned => foreign owned
      receipts := filter_eq_of_filter_eq confined.receipts.symm
        fun _ owned => foreign owned
      lastHash := elsewhere.lastHash.symm
      audit := filter_eq_of_filter_eq confined.audit.symm
        fun _ owned => outside owned
      agents := confined.agents.mono fun _ owned => outside owned
      credByKey := confined.credByKey.mono fun _ owned => outside owned
      grants := confined.grants.mono fun _ owned => outside owned
      policySets := elsewhere.policySets.symm
      policies := congrArg (·.get? orgID) confined.policies.symm
      mcpServers := confined.mcpServers.mono fun _ owned => outside owned
      servers := fun name => (elsewhere.servers name).symm
      integCreds := fun name => (elsewhere.integCreds name).symm
      integNames := elsewhere.integNames.symm
      integConfig := fun name => (elsewhere.integConfig name).symm
      keyProvider := confined.keyProvider.symm }

namespace SameShare

variable {orgID : String} {first second : MemoryStore}
  (share : SameShare orgID first second)

include share

/-! ## Reads -/

theorem getTxn (id : String) :
    first.getTxn orgID id = second.getTxn orgID id := by
  refine Option.ext fun txn => ?_
  rw [Ledger.getTxn_eq_some, Ledger.getTxn_eq_some]
  exact and_congr_left fun owned => share.txns.get? (decide_eq_true owned)

variable (rank : String → Nat)

theorem listTxns :
    first.listTxns rank orgID = second.listTxns rank orgID :=
  share.txns.select rank

theorem getAction (id : String) :
    first.getAction orgID id = second.getAction orgID id := by
  refine Option.ext fun action => ?_
  rw [Ledger.getAction_eq_some, Ledger.getAction_eq_some]
  exact and_congr_left fun owned => share.actions.get? (decide_eq_true owned)

theorem actionsForTxn (txnID : String) :
    first.actionsForTxn rank orgID txnID =
      second.actionsForTxn rank orgID txnID := by
  refine (share.actions.mono ?_).select rank
  intro action chosen
  exact decide_eq_true (of_decide_eq_true chosen).1

theorem getApproval (id : String) :
    first.getApproval orgID id = second.getApproval orgID id := by
  refine Option.ext fun approval => ?_
  rw [Ledger.getApproval_eq_some, Ledger.getApproval_eq_some]
  exact and_congr_left fun owned => share.approvals.get? (decide_eq_true owned)

theorem pendingApprovals :
    first.pendingApprovals rank orgID = second.pendingApprovals rank orgID := by
  refine (share.approvals.mono ?_).select rank
  intro approval chosen
  exact decide_eq_true (of_decide_eq_true chosen).1

theorem receiptsForTxn (txnID : String) :
    first.receiptsForTxn orgID txnID = second.receiptsForTxn orgID txnID := by
  refine filter_eq_of_filter_eq share.receipts ?_
  intro receipt chosen
  exact decide_eq_true (of_decide_eq_true chosen).1

theorem auditOf (txnID : String) (limit : Nat) :
    first.auditOf orgID txnID limit = second.auditOf orgID txnID limit := by
  have reversed : (first.audit.reverse.filter fun event =>
      event.orgID = orgID) =
        second.audit.reverse.filter fun event => event.orgID = orgID := by
    rw [List.filter_reverse, List.filter_reverse, share.audit]
  refine congrArg (List.take limit) (filter_eq_of_filter_eq reversed ?_)
  intro event chosen
  exact decide_eq_true (of_decide_eq_true chosen).1

theorem getAgent (id : String) :
    first.getAgent orgID id = second.getAgent orgID id := by
  refine Option.ext fun agent => ?_
  rw [MemoryStore.getAgent_eq_some, MemoryStore.getAgent_eq_some]
  exact and_congr_left fun owned => share.agents.get? (decide_eq_true owned)

theorem grantsForAgent (agentID : String) :
    first.grantsForAgent rank orgID agentID =
      second.grantsForAgent rank orgID agentID := by
  refine (share.grants.mono ?_).select rank
  intro grant chosen
  exact decide_eq_true (of_decide_eq_true chosen).1

theorem credential {keyID : String} {ref : CredRef} (owned : ref.orgID = orgID) :
    first.credByKey.get? keyID = some ref ↔
      second.credByKey.get? keyID = some ref :=
  share.credByKey.get? (decide_eq_true owned)

theorem getCredential {keyID : String} {ref : CredRef}
    (owned : ref.orgID = orgID) :
    first.getCredential keyID = some ref ↔
      second.getCredential keyID = some ref := by
  rw [MemoryStore.getCredential_eq_some, MemoryStore.getCredential_eq_some,
    share.credential owned]

theorem policySetsOf : first.policySetsOf orgID = second.policySetsOf orgID :=
  congrArg (·.getD []) share.policySets

theorem activePolicySet :
    first.activePolicySet orgID = second.activePolicySet orgID := by
  rw [MemoryStore.activePolicySet, MemoryStore.activePolicySet,
    share.policySetsOf]

theorem policiesOf : first.policiesOf orgID = second.policiesOf orgID := by
  rw [MemoryStore.policiesOf_eq, MemoryStore.policiesOf_eq,
    share.activePolicySet, share.policies]

theorem sealLocked (nonce secret : String) :
    first.sealLocked nonce secret = second.sealLocked nonce secret := by
  rw [MemoryStore.sealLocked, MemoryStore.sealLocked, share.keyProvider]

theorem openLocked (sealed : String) :
    first.openLocked sealed = second.openLocked sealed := by
  rw [MemoryStore.openLocked, MemoryStore.openLocked, share.keyProvider]

theorem getMCPServer (name : String) :
    first.getMCPServer orgID name = second.getMCPServer orgID name := by
  rw [MemoryStore.getMCPServer, MemoryStore.getMCPServer, share.servers name]
  simp only [share.openLocked]

theorem listMCPServers :
    first.listMCPServers rank orgID = second.listMCPServers rank orgID :=
  congrArg (List.map MCPEntry.server) (share.mcpServers.select rank)

theorem getIntegrationCredential (name : String) :
    first.getIntegrationCredential orgID name =
      second.getIntegrationCredential orgID name := by
  rw [MemoryStore.getIntegrationCredential,
    MemoryStore.getIntegrationCredential, share.integCreds name,
    funext share.openLocked]

theorem listIntegrationCredentials :
    first.listIntegrationCredentials rank orgID =
      second.listIntegrationCredentials rank orgID := by
  rw [MemoryStore.listIntegrationCredentials,
    MemoryStore.listIntegrationCredentials, share.integNames]

/-! ## Writes

The same write is made in both stores. -/

variable {now : Time}

/-- Another record under the same key, and perhaps an index entry for it. -/
theorem of_action {id : String} {action : TxnAction}
    {firstIndex secondIndex : Table String}
    (firstSound : first.Sound) (secondSound : second.Sound)
    (index : ∀ key,
      (firstIndex.get? key = some id ∧ secondIndex.get? key = some id) ∨
      (firstIndex.get? key = first.byIdem.get? key ∧
        secondIndex.get? key = second.byIdem.get? key)) :
    SameShare orgID
      { first with toLedger := { first.toLedger with
        actions := first.actions.set id action, byIdem := firstIndex } }
      { second with toLedger := { second.toLedger with
        actions := second.actions.set id action, byIdem := secondIndex } } := by
  refine
    { share with
      actions := share.actions.set id action
      byIdem := fun txnID key => ?_ }
  rcases index (Ledger.idemKey orgID txnID key) with
    ⟨new, newToo⟩ | ⟨old, oldToo⟩
  · simp only [Ledger.byIdem?, new, newToo, Option.bind_some,
      Table.get?_set_self]
  · rw [Ledger.byIdem?_set_action firstSound.keyed firstSound.indexed old,
      Ledger.byIdem?_set_action secondSound.keyed secondSound.indexed oldToo,
      share.byIdem]

omit share in
theorem index_set (key id : String) (firstIndex secondIndex : Table String) :
    ∀ other,
      ((firstIndex.set key id).get? other = some id ∧
        (secondIndex.set key id).get? other = some id) ∨
      ((firstIndex.set key id).get? other = firstIndex.get? other ∧
        (secondIndex.set key id).get? other = secondIndex.get? other) := by
  intro other
  by_cases same : other = key
  · subst same
    exact .inl ⟨Table.get?_set_self _ _ _, Table.get?_set_self _ _ _⟩
  · exact .inr ⟨Table.get?_set_of_ne _ _ same, Table.get?_set_of_ne _ _ same⟩

theorem setTxnStatus (id : String) (status : TxnStatus) :
    (first.toLedger.setTxnStatus now orgID id status).1 =
        (second.toLedger.setTxnStatus now orgID id status).1 ∧
      SameShare orgID
        { first with toLedger :=
          (first.toLedger.setTxnStatus now orgID id status).2 }
        { second with toLedger :=
          (second.toLedger.setTxnStatus now orgID id status).2 } := by
  unfold Ledger.setTxnStatus
  rw [share.getTxn id]
  cases second.getTxn orgID id with
  | none => exact ⟨rfl, share⟩
  | some txn => exact ⟨rfl, { share with txns := share.txns.set id _ }⟩

theorem addAction (hashing : Hashing) (uid : String) {action : TxnAction}
    (owned : action.orgID = orgID)
    (firstSound : first.Sound) (secondSound : second.Sound) :
    (first.toLedger.addAction hashing uid now action).1 =
        (second.toLedger.addAction hashing uid now action).1 ∧
      SameShare orgID
        { first with toLedger :=
          (first.toLedger.addAction hashing uid now action).2 }
        { second with toLedger :=
          (second.toLedger.addAction hashing uid now action).2 } := by
  have looked : first.byIdem? (Ledger.keyOf action) =
      second.byIdem? (Ledger.keyOf action) := by
    subst owned
    exact share.byIdem _ _
  unfold Ledger.addAction
  rw [looked]
  cases second.byIdem? (Ledger.keyOf action) with
  | some previous => exact ⟨rfl, share⟩
  | none =>
      exact ⟨rfl, share.of_action firstSound secondSound (index_set _ _ _ _)⟩

/-- An action of the organization that one store has is in the other one. -/
theorem present {id : String} {action : TxnAction}
    (inside : (Territory.whole orgID).action action = true)
    (stored : first.actions.get? id = some action) :
    second.actions.get? id = some action := by
  rw [Territory.action, Bool.and_eq_true] at inside
  exact (share.actions.get? inside.1).mp stored

theorem updateAction {action old : TxnAction}
    (firstSound : first.Sound) (secondSound : second.Sound)
    (stored : first.actions.get? action.id = some old)
    (inside : (Territory.whole orgID).action old = true) :
    SameShare orgID
      { first with toLedger := first.toLedger.updateAction action }
      { second with toLedger := second.toLedger.updateAction action } := by
  rw [Ledger.updateAction_of_present stored,
    Ledger.updateAction_of_present (share.present inside stored)]
  exact share.of_action firstSound secondSound (index_set _ _ _ _)

theorem modifyStored {id : String} {old : TxnAction}
    (change : TxnAction → TxnAction)
    (firstSound : first.Sound) (secondSound : second.Sound)
    (stored : first.actions.get? id = some old)
    (inside : (Territory.whole orgID).action old = true) :
    SameShare orgID
      { first with toLedger := first.toLedger.modifyStored id change }
      { second with toLedger := second.toLedger.modifyStored id change } := by
  rw [Ledger.modifyStored_of_present change stored,
    Ledger.modifyStored_of_present change (share.present inside stored)]
  exact share.of_action firstSound secondSound fun _ => .inr ⟨rfl, rfl⟩

theorem updateStored {id : String} {old : TxnAction}
    (firstSound : first.Sound) (secondSound : second.Sound)
    (stored : first.actions.get? id = some old)
    (inside : (Territory.whole orgID).action old = true) :
    SameShare orgID
      { first with toLedger := first.toLedger.updateStored id }
      { second with toLedger := second.toLedger.updateStored id } := by
  have named := firstSound.keyed.action id old stored
  subst named
  rw [Ledger.updateStored, Ledger.updateStored, stored,
    share.present inside stored]
  exact share.updateAction firstSound secondSound stored inside

theorem createApproval (uid : String) (approval : Approval) :
    SameShare orgID
      { first with toLedger :=
        (first.toLedger.createApproval uid now approval).2 }
      { second with toLedger :=
        (second.toLedger.createApproval uid now approval).2 } :=
  { share with approvals := share.approvals.set uid _ }

theorem decideApproval (id decidedBy : String) (approve : Bool) :
    (first.toLedger.decideApproval now orgID id decidedBy approve).1 =
        (second.toLedger.decideApproval now orgID id decidedBy approve).1 ∧
      SameShare orgID
        { first with toLedger :=
          (first.toLedger.decideApproval now orgID id decidedBy approve).2 }
        { second with toLedger :=
          (second.toLedger.decideApproval now orgID id decidedBy
            approve).2 } := by
  rw [Ledger.decideApproval_eq, Ledger.decideApproval_eq, share.getApproval id]
  cases second.getApproval orgID id with
  | none => exact ⟨rfl, share⟩
  | some approval =>
      simp only
      split
      · exact ⟨rfl, { share with approvals := share.approvals.set id _ }⟩
      · exact ⟨rfl, share⟩

theorem appendReceipt (hashing : Hashing) (uid : String) {receipt : Receipt}
    (owned : receipt.orgID = orgID) :
    (first.toLedger.appendReceipt hashing uid receipt).1 =
        (second.toLedger.appendReceipt hashing uid receipt).1 ∧
      SameShare orgID
        { first with toLedger :=
          (first.toLedger.appendReceipt hashing uid receipt).2 }
        { second with toLedger :=
          (second.toLedger.appendReceipt hashing uid receipt).2 } := by
  subst owned
  unfold Ledger.appendReceipt
  simp only
  rw [share.lastHash]
  refine ⟨rfl,
    { share with
      receipts := ?_
      lastHash := ?_ }⟩
  · simp only [List.filter_append]
    rw [share.receipts]
  · simp only [Table.get?_set_self]

theorem updateReceipt (id keyID signature : String) :
    SameShare orgID
      { first with toLedger :=
        first.toLedger.updateReceipt orgID id keyID signature }
      { second with toLedger :=
        second.toLedger.updateReceipt orgID id keyID signature } := by
  -- signing keeps the organization of a receipt
  have kept : ((fun receipt : Receipt => decide (receipt.orgID = orgID)) ∘
      fun current : Receipt =>
        if current.id = id ∧ current.orgID = orgID then
          { current with keyID := keyID, signature := signature }
        else current) = fun receipt => decide (receipt.orgID = orgID) := by
    funext receipt
    simp only [Function.comp]
    split <;> rfl
  refine { share with receipts := ?_ }
  simp only [Ledger.updateReceipt, List.filter_map, kept]
  rw [share.receipts]

theorem emit (uid : String) (event : AuditEvent) :
    SameShare orgID (first.emit uid now event) (second.emit uid now event) :=
  { share with
    audit := by
      simp only [MemoryStore.emit, List.filter_append]
      rw [share.audit] }

theorem createTxn (uid eventID : String) (txn : Transaction) :
    SameShare orgID (first.createTxn uid eventID now txn).2
      (second.createTxn uid eventID now txn).2 := by
  have stored : SameShare orgID
      { first with toLedger := (first.toLedger.createTxn uid now txn).2 }
      { second with toLedger := (second.toLedger.createTxn uid now txn).2 } :=
    { share with txns := share.txns.set uid _ }
  exact stored.emit eventID _

theorem createAgent (uid owner principalID name environment : String)
    (groups : List String) (secretHash : String) :
    SameShare orgID
      (first.createAgent uid now owner principalID name environment groups
        secretHash).2
      (second.createAgent uid now owner principalID name environment groups
        secretHash).2 :=
  { share with agents := share.agents.set uid _ }

theorem storeCredential (owner agentID keyID secretHash : String) :
    SameShare orgID (first.storeCredential owner agentID keyID secretHash)
      (second.storeCredential owner agentID keyID secretHash) :=
  { share with credByKey := share.credByKey.set keyID _ }

/-- Revoking one of the organization's credentials. -/
theorem revokeCredential {keyID : String} {ref : CredRef}
    (stored : first.credByKey.get? keyID = some ref)
    (owned : ref.orgID = orgID) :
    (first.revokeCredential keyID).1 = (second.revokeCredential keyID).1 ∧
      SameShare orgID (first.revokeCredential keyID).2
        (second.revokeCredential keyID).2 := by
  have found : first.getCredential keyID = second.getCredential keyID := by
    rw [MemoryStore.getCredential, MemoryStore.getCredential, stored,
      (share.credential owned).mp stored]
  unfold MemoryStore.revokeCredential
  rw [found]
  cases second.getCredential keyID with
  | none => exact ⟨rfl, share⟩
  | some ref =>
      exact ⟨rfl, { share with credByKey := share.credByKey.set keyID _ }⟩

theorem createPolicySet (uid : String) (rules : List PolicyRule)
    (createdBy : String) :
    (first.createPolicySet uid now orgID rules createdBy).1 =
        (second.createPolicySet uid now orgID rules createdBy).1 ∧
      SameShare orgID (first.createPolicySet uid now orgID rules createdBy).2
        (second.createPolicySet uid now orgID rules createdBy).2 := by
  unfold MemoryStore.createPolicySet
  rw [share.policySetsOf]
  exact ⟨rfl, { share with policySets := by simp only [Table.get?_set_self] }⟩

theorem activatePolicySet (version : Int) :
    (first.activatePolicySet orgID version).1 =
        (second.activatePolicySet orgID version).1 ∧
      SameShare orgID (first.activatePolicySet orgID version).2
        (second.activatePolicySet orgID version).2 := by
  unfold MemoryStore.activatePolicySet
  simp only
  rw [share.policySetsOf]
  split
  · exact ⟨rfl, { share with policySets := by simp only [Table.get?_set_self] }⟩
  · exact ⟨rfl, share⟩

theorem createGrant (uid : String) (grant : AuthorityGrant) :
    SameShare orgID (first.createGrant uid now grant).2
      (second.createGrant uid now grant).2 :=
  { share with grants := share.grants.set _ _ }

theorem revokeGrant (grantID : String) :
    (first.revokeGrant now orgID grantID).1 =
        (second.revokeGrant now orgID grantID).1 ∧
      SameShare orgID (first.revokeGrant now orgID grantID).2
        (second.revokeGrant now orgID grantID).2 := by
  rw [MemoryStore.revokeGrant_eq, MemoryStore.revokeGrant_eq,
    share.grants.filter_get? grantID]
  cases (second.grants.get? grantID).filter (fun grant =>
      grant.orgID = orgID) with
  | none => exact ⟨rfl, share⟩
  | some grant =>
      simp only
      split
      · exact ⟨rfl, { share with grants := share.grants.set grantID _ }⟩
      · exact ⟨rfl, share⟩

theorem upsertMCPServer (uid nonce : String) (server : MCPServer)
    (authToken : String) :
    SameShare orgID (first.upsertMCPServer uid nonce now server authToken).2
      (second.upsertMCPServer uid nonce now server authToken).2 := by
  unfold MemoryStore.upsertMCPServer
  rw [share.sealLocked]
  exact
    { share with
      mcpServers := share.mcpServers.set _ _
      servers := fun name => by
        simp only [Table.get?_set]
        rw [share.servers] }

theorem setIntegrationCredential (nonce name secret : String) :
    (first.setIntegrationCredential nonce orgID name secret).1 =
        (second.setIntegrationCredential nonce orgID name secret).1 ∧
      SameShare orgID
        (first.setIntegrationCredential nonce orgID name secret).2
        (second.setIntegrationCredential nonce orgID name secret).2 := by
  unfold MemoryStore.setIntegrationCredential
  split
  · exact ⟨rfl, share⟩
  · rw [share.sealLocked]
    refine ⟨rfl,
      { share with
        integCreds := fun other => ?_
        integNames := ?_ }⟩
    · simp only [Table.get?_set]
      rw [share.integCreds]
    · exact Table.filter_keys_set_congr share.integNames _ _

theorem setIntegrationConfig (owner name : String)
    (config : List (String × Value)) :
    SameShare orgID (first.setIntegrationConfig owner name config)
      (second.setIntegrationConfig owner name config) :=
  { share with
    integConfig := fun other => by
      simp only [MemoryStore.setIntegrationConfig, Table.get?_set]
      rw [share.integConfig] }

end SameShare

/-! ## Calls -/

/-- Two registries agree on the handler and the classes under every key that is
not astray, and on everything else. -/
structure SameTools (astray : String → Prop) (first second : Registry) :
    Prop where
  handlers : ∀ key, ¬ astray key →
    first.handlers.get? key = second.handlers.get? key
  classMeta : ∀ key, ¬ astray key →
    first.classMeta.get? key = second.classMeta.get? key
  compensators : first.compensators = second.compensators
  reconcilers : first.reconcilers = second.reconcilers

namespace SameTools

variable {astray : String → Prop} {first second third : Registry}

theorem symm (tools : SameTools astray first second) :
    SameTools astray second first where
  handlers := fun key kept => (tools.handlers key kept).symm
  classMeta := fun key kept => (tools.classMeta key kept).symm
  compensators := tools.compensators.symm
  reconcilers := tools.reconcilers.symm

theorem mono {more : String → Prop} (tools : SameTools astray first second)
    (implies : ∀ key, astray key → more key) : SameTools more first second :=
  { tools with
    handlers := fun key kept =>
      tools.handlers key fun gone => kept (implies key gone)
    classMeta := fun key kept =>
      tools.classMeta key fun gone => kept (implies key gone) }

theorem trans (tools : SameTools astray first second)
    (following : SameTools astray second third) :
    SameTools astray first third where
  handlers := fun key kept =>
    (tools.handlers key kept).trans (following.handlers key kept)
  classMeta := fun key kept =>
    (tools.classMeta key kept).trans (following.classMeta key kept)
  compensators := tools.compensators.trans following.compensators
  reconcilers := tools.reconcilers.trans following.reconcilers

/-- The same registration in both sets the key right. -/
theorem register (tools : SameTools astray first second)
    (tool action : String) (classes : List ActionClass)
    (handler : ToolHandler) :
    SameTools (fun key => astray key ∧ key ≠ Registry.key tool action)
      (first.register tool action classes (some handler) none)
      (second.register tool action classes (some handler) none) := by
  refine
    { tools with
      handlers := fun key kept => ?_
      classMeta := fun key kept => ?_ }
  · simp only [Registry.register, Table.get?_set]
    split
    · rfl
    · rename_i different
      exact tools.handlers key fun gone => kept ⟨gone, different⟩
  · simp only [Registry.register, Table.get?_set]
    split
    · rfl
    · rename_i different
      exact tools.classMeta key fun gone => kept ⟨gone, different⟩

end SameTools

/-- The key under which a call looks up a handler or classes. -/
def Call.consults : Call → Option String
  | .classes tool action => some (Registry.key tool action)
  | .execute action => some (Registry.key action.tool action.action)
  | _ => none

section Handlers

variable {orgID : String} {first second : MemoryStore}
  (share : SameShare orgID first second) {action : TxnAction}
  (owned : action.orgID = orgID)

include share owned

/-- Handlers read nothing but the organization's own credentials and
settings. -/
theorem SameShare.run (runtime : Runtime) (outside : Outside)
    (handler : ToolHandler) :
    handler.run runtime first outside action =
      handler.run runtime second outside action := by
  subst owned
  cases handler with
  | stripeRefund =>
      simp only [ToolHandler.run, share.getIntegrationCredential]
  | stripeReadCustomer =>
      simp only [ToolHandler.run, share.getIntegrationCredential]
  | github method pathTmpl =>
      simp only [ToolHandler.run, share.getIntegrationCredential]
  | httpRequest =>
      simp only [ToolHandler.run, MemoryStore.getIntegrationConfig,
        share.integConfig]
  | _ => rfl

theorem SameShare.reconcile (outside : Outside) (reconciler : Reconciler) :
    Registry.reconcile first outside reconciler action =
      Registry.reconcile second outside reconciler action := by
  subst owned
  cases reconciler with
  | stripeRefund =>
      simp only [Registry.reconcile, share.getIntegrationCredential]
  | custom name => rfl

/-- A dispatch goes to the same handler. -/
theorem SameTools.execute {astray : String → Prop}
    {firstTools secondTools : Registry}
    (tools : SameTools astray firstTools secondTools)
    {runtime : Runtime} {outside : Outside}
    (heeds : ¬ astray (Registry.key action.tool action.action)) :
    firstTools.execute runtime first outside action =
      secondTools.execute runtime second outside action := by
  rw [Registry.execute, Registry.execute, tools.handlers _ heeds]
  cases secondTools.handlers.get? (Registry.key action.tool action.action) with
  | none => rfl
  | some handler => exact share.run owned runtime outside handler

end Handlers

/-- The organization's calls are answered alike in two worlds with the same
share, and keep it the same. -/
theorem share_exec (config : Config) (env : Env) {orgID : String}
    {holdings : Holdings} {request : Call} {first second : World}
    {astray : String → Prop}
    (share : SameShare orgID first.store second.store)
    (tools : SameTools astray first.tools second.tools)
    (firstSound : first.store.Sound) (secondSound : second.store.Sound)
    (firstChained : first.ledger.WellChained config.runtime.hashing)
    (secondChained : second.ledger.WellChained config.runtime.hashing)
    (holds : Holds (.whole orgID) holdings first.store)
    (may : (Territory.whole orgID).May holdings request)
    (heeds : ∀ key ∈ request.consults, ¬ astray key)
    (unasked : ∀ keyID, request ≠ .getCredential keyID) :
    (exec config request env first).1 = (exec config request env second).1 ∧
      SameShare orgID (exec config request env first).2.store
        (exec config request env second).2.store := by
  -- the calls that carry the organization carry this one
  have owns : ∀ {owner : String} {txnID : String},
      (decide (owner = (Territory.whole orgID).orgID) &&
        (Territory.whole orgID).mine txnID) = true → owner = orgID := by
    intro owner txnID inside
    rw [Bool.and_eq_true] at inside
    exact of_decide_eq_true inside.1
  cases request with
  | createTxn txn => exact ⟨rfl, share.createTxn _ _ _⟩
  | getTxn owner id =>
      obtain rfl : owner = orgID := may
      exact ⟨share.getTxn id, share⟩
  | setTxnStatus owner id status =>
      obtain rfl : owner = orgID := may.1
      exact share.setTxnStatus id status
  | listTxns owner =>
      obtain rfl : owner = orgID := may
      exact ⟨share.listTxns _, share⟩
  | addAction action =>
      exact share.addAction _ _ (owns may) firstSound secondSound
  | getAction owner id =>
      obtain rfl : owner = orgID := may
      exact ⟨share.getAction id, share⟩
  | updateAction action =>
      obtain ⟨_, known, member, named, _⟩ := may
      obtain ⟨stored, present, inside, _⟩ := holds.actions known member
      rw [named] at present
      exact ⟨rfl, share.updateAction firstSound secondSound present inside⟩
  | setStoredDecision id decision =>
      obtain ⟨known, member, rfl⟩ := may
      obtain ⟨stored, present, inside, _⟩ := holds.actions known member
      exact ⟨rfl, share.modifyStored _ firstSound secondSound present inside⟩
  | setStoredStatus id status =>
      obtain ⟨known, member, rfl⟩ := may
      obtain ⟨stored, present, inside, _⟩ := holds.actions known member
      exact ⟨rfl, share.modifyStored _ firstSound secondSound present inside⟩
  | updateStored id =>
      obtain ⟨known, member, rfl⟩ := may
      obtain ⟨stored, present, inside, _⟩ := holds.actions known member
      exact ⟨rfl, share.updateStored firstSound secondSound present inside⟩
  | actionsForTxn owner txnID =>
      obtain rfl : owner = orgID := may
      exact ⟨share.actionsForTxn _ txnID, share⟩
  | createApproval approval => exact ⟨rfl, share.createApproval _ _⟩
  | decideApproval owner id decidedBy approve =>
      obtain rfl : owner = orgID := may.1
      exact share.decideApproval id decidedBy approve
  | pendingApprovals owner =>
      obtain rfl : owner = orgID := may
      exact ⟨share.pendingApprovals _, share⟩
  | appendReceipt receipt => exact share.appendReceipt _ _ (owns may)
  | setStoredSignature owner id keyID signature =>
      obtain rfl : owner = orgID := may.1
      exact ⟨rfl, share.updateReceipt id keyID signature⟩
  | updateReceipt owner id keyID signature =>
      obtain rfl : owner = orgID := may.1
      exact ⟨rfl, share.updateReceipt id keyID signature⟩
  | receiptsForTxn owner txnID =>
      obtain rfl : owner = orgID := may
      exact ⟨share.receiptsForTxn txnID, share⟩
  | verifyChain owner =>
      -- both chains are intact
      exact ⟨(firstChained.verifyChain owner).trans
        (secondChained.verifyChain owner).symm, share⟩
  | emit event => exact ⟨rfl, share.emit _ event⟩
  | audit owner txnID limit =>
      obtain rfl : owner = orgID := may
      exact ⟨share.auditOf txnID limit, share⟩
  | createAgent owner principalID name environment groups secretHash =>
      exact ⟨rfl, share.createAgent _ _ _ _ _ _ _⟩
  | getAgent owner agentID =>
      obtain rfl : owner = orgID := may
      exact ⟨share.getAgent agentID, share⟩
  | storeCredential owner agentID keyID secretHash =>
      exact ⟨rfl, share.storeCredential _ _ _ _⟩
  | getCredential keyID => exact absurd rfl (unasked keyID)
  | revokeCredential keyID =>
      obtain ⟨ref, present, owned⟩ := holds.credentials keyID may
      exact share.revokeCredential present owned
  | policies owner =>
      obtain rfl : owner = orgID := may
      exact ⟨share.policiesOf, share⟩
  | createPolicySet owner rules createdBy =>
      obtain rfl : owner = orgID := may
      exact share.createPolicySet _ rules createdBy
  | activatePolicySet owner version =>
      obtain rfl : owner = orgID := may
      exact share.activatePolicySet version
  | policySets owner =>
      obtain rfl : owner = orgID := may
      exact ⟨share.policySetsOf, share⟩
  | activePolicySet owner =>
      obtain rfl : owner = orgID := may
      exact ⟨share.activePolicySet, share⟩
  | createGrant grant => exact ⟨rfl, share.createGrant _ grant⟩
  | grantsForAgent owner agentID =>
      obtain rfl : owner = orgID := may
      exact ⟨share.grantsForAgent _ agentID, share⟩
  | revokeGrant owner grantID =>
      obtain rfl : owner = orgID := may
      exact share.revokeGrant grantID
  | upsertMCPServer server authToken =>
      exact ⟨rfl, share.upsertMCPServer _ _ server authToken⟩
  | getMCPServer owner name =>
      obtain rfl : owner = orgID := may
      exact ⟨share.getMCPServer name, share⟩
  | listMCPServers owner =>
      obtain rfl : owner = orgID := may
      exact ⟨share.listMCPServers _, share⟩
  | setIntegrationCredential owner name secret =>
      obtain rfl : owner = orgID := may
      exact share.setIntegrationCredential _ name secret
  | listIntegrationCredentials owner =>
      obtain rfl : owner = orgID := may
      exact ⟨share.listIntegrationCredentials _, share⟩
  | setIntegrationConfig owner name settings =>
      exact ⟨rfl, share.setIntegrationConfig owner name settings⟩
  | classes tool action =>
      refine ⟨?_, share⟩
      exact congrArg (·.getD [.unknown]) (tools.classMeta _ (heeds _ rfl))
  | register tool action classes handler => exact ⟨rfl, share⟩
  | execute action =>
      refine ⟨congrArg Sent.result ?_, share⟩
      exact SameTools.execute share may tools (heeds _ rfl)
  | compensate action =>
      refine ⟨?_, share⟩
      change first.tools.compensate env.outside action =
        second.tools.compensate env.outside action
      rw [Registry.compensate, Registry.compensate, tools.compensators]
  | reconcilerFor tool action =>
      exact ⟨congrArg (·.get? (Registry.key tool action)) tools.reconcilers,
        share⟩
  | reconcile reconciler action =>
      exact ⟨congrArg Sent.result (share.reconcile may _ reconciler), share⟩
  | timeNow => exact ⟨rfl, share⟩
  | clock => exact ⟨rfl, share⟩
  | screenRisk question => exact ⟨rfl, share⟩
  | listTools serverURL token => exact ⟨rfl, share⟩
  | newAgentSecret => exact ⟨rfl, share⟩

end SettleAgent
