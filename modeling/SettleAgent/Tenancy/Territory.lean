import SettleAgent.Data.Cut
import SettleAgent.Protocol.Effects

/-!
# Territories

A territory is a part of the records: those of one organization, or of some of
its transactions.  `Confined` says that two states of the store differ inside a
territory only.  It says so of every table, of those that hold records of the
organization as well as of the maps that are keyed by composite strings.
-/

namespace SettleAgent

/-- The records of an organization that belong to some of its transactions. -/
structure Territory where
  orgID : String
  mine : String → Bool

namespace Territory

/-- All records of an organization. -/
def whole (orgID : String) : Territory where
  orgID := orgID
  mine := fun _ => true

variable (territory : Territory)

def txn (txn : Transaction) : Bool :=
  txn.orgID = territory.orgID && territory.mine txn.id

def action (action : TxnAction) : Bool :=
  action.orgID = territory.orgID && territory.mine action.transactionID

def approval (approval : Approval) : Bool :=
  approval.orgID = territory.orgID && territory.mine approval.transactionID

def receipt (receipt : Receipt) : Bool :=
  receipt.orgID = territory.orgID && territory.mine receipt.transactionID

end Territory

/-! ## Composite keys -/

/-- The identifier does not contain the separator of the composite keys. -/
def Plain (id : String) : Prop := '|' ∉ id.toList

instance (id : String) : Decidable (Plain id) :=
  inferInstanceAs (Decidable (_ ∉ _))

theorem idemKey_eq (orgID txnID key : String) :
    Ledger.idemKey orgID txnID key =
      orgID ++ String.singleton '|' ++ (txnID ++ "|" ++ key) := by
  simp [Ledger.idemKey, String.append_assoc]

theorem mcpKey_eq (orgID name : String) :
    MemoryStore.mcpKey orgID name =
      orgID ++ String.singleton '|' ++ name := rfl

section Plain

variable {first second : String} (plainFirst : Plain first)
  (plainSecond : Plain second)

include plainFirst plainSecond

/-- Idempotency keys of two organizations are different. -/
theorem org_eq_of_idemKey_eq {txnID otherTxnID key otherKey : String}
    (equal : Ledger.idemKey first txnID key =
      Ledger.idemKey second otherTxnID otherKey) : first = second := by
  rw [idemKey_eq, idemKey_eq] at equal
  exact (joined_inj plainFirst plainSecond equal).1

/-- Names that two organizations use are kept under different keys. -/
theorem org_eq_of_mcpKey_eq {name otherName : String}
    (equal : MemoryStore.mcpKey first name =
      MemoryStore.mcpKey second otherName) : first = second := by
  rw [mcpKey_eq, mcpKey_eq] at equal
  exact (joined_inj plainFirst plainSecond equal).1

/-- A key of one organization does not start like those of another. -/
theorem org_eq_of_starts {name : String}
    (starts : (MemoryStore.mcpKey second "").toList.isPrefixOf
      (MemoryStore.mcpKey first name).toList = true) : first = second := by
  obtain ⟨rest, equal⟩ := List.isPrefixOf_iff_prefix.mp starts
  have same : MemoryStore.mcpKey first name =
      MemoryStore.mcpKey second (String.ofList rest) := by
    rw [← String.toList_inj, ← equal]
    simp [MemoryStore.mcpKey]
  exact org_eq_of_mcpKey_eq plainFirst plainSecond same

end Plain

/-- Every index entry points to an action with that idempotency key. -/
def Ledger.Indexed (ledger : Ledger) : Prop :=
  ∀ key id, ledger.byIdem.get? key = some id →
    ∃ action, ledger.actions.get? id = some action ∧
      Ledger.keyOf action = key

/-- Agents and servers are stored under their own names. -/
structure MemoryStore.Tidy (store : MemoryStore) : Prop where
  agent : ∀ id agent, store.agents.get? id = some agent → agent.id = id
  server : ∀ key entry, store.mcpServers.get? key = some entry →
    Plain entry.server.orgID ∧
      key = MemoryStore.mcpKey entry.server.orgID entry.server.name

/-! ## Receipts of others -/

/-- Checking a chain passes over the receipts of other organizations. -/
theorem verifyFrom_append_other (hashing : Hashing) {orgID : String}
    (receipts : List Receipt) {last : Receipt} (other : last.orgID ≠ orgID)
    (index : Int) (prev : String) :
    Ledger.verifyFrom hashing orgID (receipts ++ [last]) index prev =
      Ledger.verifyFrom hashing orgID receipts index prev := by
  induction receipts generalizing index prev with
  | nil => simp [Ledger.verifyFrom, other]
  | cons receipt rest inductionHypothesis =>
      simp only [List.cons_append, Ledger.verifyFrom, inductionHypothesis]

/-- Checking a chain does not see a change to receipts of others. -/
theorem verifyFrom_map_other (hashing : Hashing) {orgID : String}
    {change : Receipt → Receipt}
    (kept : ∀ receipt, (change receipt).orgID = receipt.orgID)
    (others : ∀ receipt, receipt.orgID = orgID → change receipt = receipt)
    (receipts : List Receipt) (index : Int) (prev : String) :
    Ledger.verifyFrom hashing orgID (receipts.map change) index prev =
      Ledger.verifyFrom hashing orgID receipts index prev := by
  induction receipts generalizing index prev with
  | nil => rfl
  | cons receipt rest inductionHypothesis =>
      by_cases owned : receipt.orgID = orgID
      · simp only [List.map_cons, others receipt owned, Ledger.verifyFrom,
          inductionHypothesis]
      · simp only [List.map_cons, Ledger.verifyFrom, kept, ne_eq, owned,
          not_false_eq_true, if_true, inductionHypothesis]

/-! ## Confinement -/

/-- What the maps hold for one organization is the same in two states. -/
structure Elsewhere (orgID : String) (before after : MemoryStore) : Prop where
  byIdem : ∀ txnID key,
    after.byIdem? (Ledger.idemKey orgID txnID key) =
      before.byIdem? (Ledger.idemKey orgID txnID key)
  lastHash : after.lastHash.get? orgID = before.lastHash.get? orgID
  chain : ∀ hashing, Ledger.verifyChain hashing after.toLedger orgID =
    Ledger.verifyChain hashing before.toLedger orgID
  policySets : after.policySets.get? orgID = before.policySets.get? orgID
  servers : ∀ name,
    after.mcpServers.get? (MemoryStore.mcpKey orgID name) =
      before.mcpServers.get? (MemoryStore.mcpKey orgID name)
  integCreds : ∀ name,
    after.integCreds.get? (MemoryStore.mcpKey orgID name) =
      before.integCreds.get? (MemoryStore.mcpKey orgID name)
  integNames : (after.integCreds.keys.filter fun key =>
      (MemoryStore.mcpKey orgID "").toList.isPrefixOf key.toList) =
    before.integCreds.keys.filter fun key =>
      (MemoryStore.mcpKey orgID "").toList.isPrefixOf key.toList
  integConfig : ∀ name,
    after.integConfig.get? (MemoryStore.mcpKey orgID name) =
      before.integConfig.get? (MemoryStore.mcpKey orgID name)
  credentials : ∀ id agent, before.agents.get? id = some agent →
    agent.orgID = orgID →
      after.credentials.get? id = before.credentials.get? id

/-- Two states differ inside the territory only. -/
structure Confined (territory : Territory) (before after : MemoryStore) :
    Prop where
  txns : Table.Agree (fun txn => !territory.txn txn) before.txns after.txns
  actions : Table.Agree (fun action => !territory.action action)
    before.actions after.actions
  approvals : Table.Agree (fun approval => !territory.approval approval)
    before.approvals after.approvals
  receipts : (after.receiptsList.filter fun receipt =>
      !territory.receipt receipt) =
    before.receiptsList.filter fun receipt => !territory.receipt receipt
  agents : Table.Agree (fun agent => agent.orgID ≠ territory.orgID)
    before.agents after.agents
  grants : Table.Agree (fun grant => grant.orgID ≠ territory.orgID)
    before.grants after.grants
  credByKey : Table.Agree (fun ref => ref.orgID ≠ territory.orgID)
    before.credByKey after.credByKey
  opTokens : Table.Agree (fun token => token.orgID ≠ territory.orgID)
    before.opTokens after.opTokens
  mcpServers : Table.Agree (fun entry => entry.server.orgID ≠ territory.orgID)
    before.mcpServers after.mcpServers
  audit : (after.audit.filter fun event => event.orgID ≠ territory.orgID) =
    before.audit.filter fun event => event.orgID ≠ territory.orgID
  policies : after.policies = before.policies
  keyProvider : after.keyProvider = before.keyProvider
  elsewhere : ∀ other, other ≠ territory.orgID → Plain other →
    Elsewhere other before after

theorem Elsewhere.refl (orgID : String) (store : MemoryStore) :
    Elsewhere orgID store store :=
  ⟨fun _ _ => rfl, rfl, fun _ => rfl, rfl, fun _ => rfl, fun _ => rfl, rfl,
    fun _ => rfl, fun _ _ _ _ => rfl⟩

namespace Confined

variable {territory : Territory} {before middle after store : MemoryStore}

theorem refl (store : MemoryStore) : Confined territory store store :=
  ⟨.refl _, .refl _, .refl _, rfl, .refl _, .refl _, .refl _, .refl _,
    .refl _, rfl, rfl, rfl, fun other _ _ => .refl other store⟩

theorem trans (first : Confined territory before middle)
    (second : Confined territory middle after) :
    Confined territory before after where
  txns := first.txns.trans second.txns
  actions := first.actions.trans second.actions
  approvals := first.approvals.trans second.approvals
  receipts := second.receipts.trans first.receipts
  agents := first.agents.trans second.agents
  grants := first.grants.trans second.grants
  credByKey := first.credByKey.trans second.credByKey
  opTokens := first.opTokens.trans second.opTokens
  mcpServers := first.mcpServers.trans second.mcpServers
  audit := second.audit.trans first.audit
  policies := second.policies.trans first.policies
  keyProvider := second.keyProvider.trans first.keyProvider
  elsewhere := by
    intro other different plain
    have one := first.elsewhere other different plain
    have two := second.elsewhere other different plain
    refine
      { byIdem := fun txnID key =>
          (two.byIdem txnID key).trans (one.byIdem txnID key)
        lastHash := two.lastHash.trans one.lastHash
        chain := fun hashing => (two.chain hashing).trans (one.chain hashing)
        policySets := two.policySets.trans one.policySets
        servers := fun name => (two.servers name).trans (one.servers name)
        integCreds := fun name =>
          (two.integCreds name).trans (one.integCreds name)
        integNames := two.integNames.trans one.integNames
        integConfig := fun name =>
          (two.integConfig name).trans (one.integConfig name)
        credentials := ?_ }
    intro id agent present owned
    have still : middle.agents.get? id = some agent :=
      (first.agents.get? (by simpa [owned] using different)).mp present
    exact (two.credentials id agent still owned).trans
      (one.credentials id agent present owned)

/-! ### Methods on the ledger -/

variable {now : Time}

/-- Another transaction table that agrees outside of the territory. -/
theorem of_txns {txns : Table Transaction}
    (agree : Table.Agree (fun txn => !territory.txn txn) store.txns txns) :
    Confined territory store
      { store with toLedger := { store.toLedger with txns := txns } } :=
  { refl store with
    txns := agree
    elsewhere := fun other _ _ => { Elsewhere.refl other store with } }

theorem of_approvals {approvals : Table Approval}
    (agree : Table.Agree (fun approval => !territory.approval approval)
      store.approvals approvals) :
    Confined territory store
      { store with toLedger := { store.toLedger with approvals := approvals } } :=
  { refl store with
    approvals := agree
    elsewhere := fun other _ _ => { Elsewhere.refl other store with } }

variable {id : String}

theorem setTxnStatus (status : TxnStatus)
    (mine : territory.mine id = true) (keyed : store.WellKeyed) :
    Confined territory store { store with
      toLedger :=
        (store.toLedger.setTxnStatus now territory.orgID id status).2 } := by
  cases found : store.toLedger.getTxn territory.orgID id with
  | none =>
      rw [Ledger.setTxnStatus, found]
      exact refl store
  | some txn =>
      obtain ⟨present, owned⟩ := Ledger.getTxn_eq_some.mp found
      have named := keyed.txn id txn present
      rw [Ledger.setTxnStatus_of_found now status found]
      refine of_txns (.set_other ?_ ?_)
      · simp [Territory.txn, owned, named, mine]
      · intro old stored
        rw [present, Option.some.injEq] at stored
        subst stored
        simp [Territory.txn, owned, named, mine]

/-- Writing one of the territory's actions, and perhaps its index entry. -/
theorem of_action {action : TxnAction} {byIdem : Table String}
    (plain : Plain territory.orgID) (indexed : store.Indexed)
    (owned : territory.action action = true)
    (replaced : ∀ old, store.actions.get? id = some old →
      territory.action old = true)
    (index : ∀ key, key ≠ Ledger.keyOf action →
      byIdem.get? key = store.byIdem.get? key) :
    Confined territory store { store with
      toLedger := { store.toLedger with
        actions := store.actions.set id action
        byIdem := byIdem } } := by
  have isOwn : ∀ {record : TxnAction}, territory.action record = true →
      record.orgID = territory.orgID := by
    intro record inside
    simp only [Territory.action, Bool.and_eq_true, decide_eq_true_eq] at inside
    exact inside.1
  refine
    { refl store with
      actions := .set_other (by simp [owned]) fun old present => by
        simp [replaced old present]
      elsewhere := fun other different plainOther =>
        { Elsewhere.refl other store with byIdem := ?_ } }
  intro txnID key
  have foreign : ∀ {record : TxnAction}, territory.action record = true →
      Ledger.idemKey other txnID key ≠ Ledger.keyOf record := by
    intro record inside equal
    rw [Ledger.keyOf, isOwn inside] at equal
    exact different (org_eq_of_idemKey_eq plainOther plain equal)
  rw [Ledger.byIdem?, Ledger.byIdem?, index _ (foreign owned)]
  cases entry : store.byIdem.get? (Ledger.idemKey other txnID key) with
  | none => rfl
  | some pointed =>
      obtain ⟨record, present, keyed⟩ := indexed _ _ entry
      -- the entry of another organization points to a record of that one
      have elsewhere : pointed ≠ id := by
        rintro rfl
        exact foreign (replaced record present) keyed.symm
      exact Table.get?_set_of_ne _ _ elsewhere

variable {uid : String}

theorem addAction (hashing : Hashing) {action : TxnAction}
    (plain : Plain territory.orgID) (indexed : store.Indexed)
    (owned : territory.action action = true)
    (fresh : store.actions.get? uid = none) :
    Confined territory store { store with
      toLedger := (store.toLedger.addAction hashing uid now action).2 } := by
  cases found : store.toLedger.byIdem? (Ledger.keyOf action) with
  | some previous =>
      rw [Ledger.addAction_of_duplicate uid now found]
      exact refl store
  | none =>
      rw [Ledger.addAction_of_new uid now found]
      refine of_action plain indexed owned ?_ fun key different =>
        Table.get?_set_of_ne _ _ different
      intro old present
      simp [fresh] at present

/-- Replacing one of the territory's actions by another record of it. -/
theorem updateAction {action old : TxnAction}
    (plain : Plain territory.orgID) (indexed : store.Indexed)
    (owned : territory.action action = true)
    (present : store.actions.get? action.id = some old)
    (ownedOld : territory.action old = true) :
    Confined territory store { store with
      toLedger := store.toLedger.updateAction action } := by
  rw [Ledger.updateAction_of_present present]
  refine of_action plain indexed owned ?_ fun key different =>
    Table.get?_set_of_ne _ _ different
  intro record stored
  rw [present, Option.some.injEq] at stored
  rwa [← stored]

theorem modifyStored {old : TxnAction}
    {change : TxnAction → TxnAction}
    (plain : Plain territory.orgID) (indexed : store.Indexed)
    (owned : territory.action (change old) = true)
    (present : store.actions.get? id = some old)
    (ownedOld : territory.action old = true) :
    Confined territory store { store with
      toLedger := store.toLedger.modifyStored id change } := by
  rw [Ledger.modifyStored_of_present change present]
  refine of_action plain indexed owned ?_ fun _ _ => rfl
  intro record stored
  rw [present, Option.some.injEq] at stored
  rwa [← stored]

theorem updateStored {old : TxnAction}
    (plain : Plain territory.orgID) (indexed : store.Indexed)
    (keyed : store.WellKeyed)
    (present : store.actions.get? id = some old)
    (owned : territory.action old = true) :
    Confined territory store { store with
      toLedger := store.toLedger.updateStored id } := by
  have named := keyed.action id old present
  subst named
  rw [Ledger.updateStored, present]
  exact updateAction plain indexed owned present owned

theorem createApproval {approval : Approval}
    (owned : territory.approval approval = true)
    (fresh : store.approvals.get? uid = none) :
    Confined territory store { store with
      toLedger := (store.toLedger.createApproval uid now approval).2 } := by
  refine of_approvals (.set_other ?_ ?_)
  · simpa [Territory.approval] using owned
  · intro old present
    simp [fresh] at present

theorem decideApproval (id decidedBy : String) (approve : Bool)
    (all : ∀ txnID, territory.mine txnID = true) :
    Confined territory store { store with
      toLedger := (store.toLedger.decideApproval now territory.orgID id
        decidedBy approve).2 } := by
  cases done : (store.toLedger.decideApproval now territory.orgID id decidedBy
      approve).1 with
  | none =>
      rw [Ledger.decideApproval_of_none done]
      exact refl store
  | some approval =>
      obtain ⟨old, present, owned, _, rfl, after⟩ :=
        Ledger.decideApproval_of_some done
      rw [after]
      refine of_approvals (.set_other ?_ ?_)
      · simp [Territory.approval, Ledger.decided, owned, all]
      · intro record stored
        rw [present, Option.some.injEq] at stored
        subst stored
        simp [Territory.approval, owned, all]

theorem appendReceipt (hashing : Hashing) (uid : String) {receipt : Receipt}
    (owned : territory.receipt receipt = true) :
    Confined territory store { store with
      toLedger := (store.toLedger.appendReceipt hashing uid receipt).2 } := by
  have own : receipt.orgID = territory.orgID := by
    simp only [Territory.receipt, Bool.and_eq_true, decide_eq_true_eq] at owned
    exact owned.1
  refine
    { refl store with
      receipts := ?_
      elsewhere := fun other different _ =>
        { Elsewhere.refl other store with
          lastHash := Table.get?_set_of_ne _ _ (own ▸ different)
          chain := fun hashing => ?_ } }
  · rw [Ledger.appendReceipt, List.filter_append]
    simpa [Territory.receipt] using owned
  · apply verifyFrom_append_other
    exact own.trans_ne different.symm

/-- Signing receipts of the territory. -/
theorem updateReceipt (keyID signature : String)
    (owned : ∀ receipt ∈ store.receiptsList, receipt.id = id →
      territory.receipt receipt = true) :
    Confined territory store { store with
      toLedger := store.toLedger.updateReceipt territory.orgID id keyID
        signature } := by
  refine
    { refl store with
      receipts := ?_
      elsewhere := fun other different _ =>
        { Elsewhere.refl other store with chain := fun hashing => ?_ } }
  · -- a signed receipt stays in the territory, and the others are unchanged
    rw [Ledger.updateReceipt, List.filter_map]
    have inside : ∀ receipt ∈ store.receiptsList,
        ((!territory.receipt ·) ∘ fun current : Receipt =>
          if current.id = id ∧ current.orgID = territory.orgID then
            { current with keyID := keyID, signature := signature }
          else current) receipt = !territory.receipt receipt := by
      intro receipt _
      simp only [Function.comp]
      split <;> rfl
    rw [List.filter_congr inside]
    refine (List.map_congr_left fun receipt member => ?_).trans
      (List.map_id _)
    obtain ⟨listed, foreign⟩ := List.mem_filter.mp member
    apply if_neg
    rintro ⟨named, _⟩
    simp [owned receipt listed named] at foreign
  · refine verifyFrom_map_other hashing ?_ ?_ _ _ _
    · intro receipt
      split <;> rfl
    · intro receipt foreign
      rw [if_neg]
      rintro ⟨_, own⟩
      exact different (foreign.symm.trans own)

/-! ### Other methods -/

theorem emit (uid : String) {event : AuditEvent}
    (owned : event.orgID = territory.orgID) :
    Confined territory store (store.emit uid now event) :=
  { refl store with
    audit := by
      rw [MemoryStore.emit, List.filter_append]
      simp [owned]
    elsewhere := fun other _ _ => { Elsewhere.refl other store with } }

theorem createTxn (eventID : String) {txn : Transaction}
    (owned : txn.orgID = territory.orgID) (mine : territory.mine uid = true)
    (fresh : store.txns.get? uid = none) :
    Confined territory store (store.createTxn uid eventID now txn).2 := by
  have stored : Confined territory store { store with
      toLedger := (store.toLedger.createTxn uid now txn).2 } := by
    refine of_txns (.set_other ?_ ?_)
    · simp [Territory.txn, owned, mine]
    · intro old present
      simp [fresh] at present
  exact stored.trans (emit eventID owned)

theorem createAgent
    (principalID name environment : String) (groups : List String)
    (secretHash : String) (fresh : store.agents.get? uid = none) :
    Confined territory store (store.createAgent uid now territory.orgID
      principalID name environment groups secretHash).2 :=
  { refl store with
    agents := .set_other (by simp) fun old present => by
      simp [fresh] at present
    elsewhere := fun other _ _ =>
      { Elsewhere.refl other store with
        credentials := by
          intro id agent present _
          refine Table.get?_set_of_ne _ _ ?_
          rintro rfl
          simp [fresh] at present } }

/-- Issuing a credential to an agent of the organization. -/
theorem storeCredential {agentID keyID : String} {agent : Agent}
    (secretHash : String)
    (present : store.agents.get? agentID = some agent)
    (owned : agent.orgID = territory.orgID)
    (fresh : store.credByKey.get? keyID = none) :
    Confined territory store (store.storeCredential territory.orgID agentID
      keyID secretHash) :=
  { refl store with
    credByKey := .set_other (by simp) fun old stored => by
      simp [fresh] at stored
    elsewhere := fun other different _ =>
      { Elsewhere.refl other store with
        credentials := by
          intro id holder stored belongs
          refine Table.get?_set_of_ne _ _ ?_
          rintro rfl
          rw [present, Option.some.injEq] at stored
          rw [← stored, owned] at belongs
          exact different belongs.symm } }

variable {keyID : String}

/-- Changing a credential of the organization. -/
theorem of_credential {ref changed : CredRef}
    (present : store.credByKey.get? keyID = some ref)
    (owned : ref.orgID = territory.orgID)
    (kept : changed.orgID = ref.orgID) :
    Confined territory store { store with
      credByKey := store.credByKey.set keyID changed } :=
  { refl store with
    credByKey := .set_other (by simp [kept, owned]) fun old stored => by
      rw [present, Option.some.injEq] at stored
      simp [← stored, owned]
    elsewhere := fun other _ _ => { Elsewhere.refl other store with } }

theorem revokeCredential {ref : CredRef}
    (present : store.credByKey.get? keyID = some ref)
    (owned : ref.orgID = territory.orgID) :
    Confined territory store (store.revokeCredential keyID).2 := by
  cases revoked : ref.revoked with
  | true =>
      have missing : store.getCredential keyID = none := by
        simp [MemoryStore.getCredential, present, revoked]
      rw [MemoryStore.revokeCredential, missing]
      exact refl store
  | false =>
      have found : store.getCredential keyID = some ref := by
        simp [MemoryStore.getCredential, present, revoked]
      rw [MemoryStore.revokeCredential, found]
      exact of_credential present owned rfl

theorem touchCredential {ref : CredRef}
    (present : store.credByKey.get? keyID = some ref)
    (owned : ref.orgID = territory.orgID) :
    Confined territory store (store.touchCredential now keyID) := by
  rw [MemoryStore.touchCredential, present]
  exact of_credential present owned rfl

theorem touchOperatorToken {token : OpToken}
    (present : store.opTokens.get? keyID = some token)
    (owned : token.orgID = territory.orgID) :
    Confined territory store (store.touchOperatorToken now keyID) := by
  rw [MemoryStore.touchOperatorToken, present]
  exact
    { refl store with
      opTokens := .set_other (by simp [owned]) fun old stored => by
        rw [present, Option.some.injEq] at stored
        simp [← stored, owned]
      elsewhere := fun other _ _ => { Elsewhere.refl other store with } }

/-- Other policy sets for the organization. -/
theorem of_policySets (sets : List PolicySet) :
    Confined territory store { store with
      policySets := store.policySets.set territory.orgID sets } :=
  { refl store with
    elsewhere := fun other different _ =>
      { Elsewhere.refl other store with
        policySets := Table.get?_set_of_ne _ _ different } }

theorem activatePolicySet (version : Int) :
    Confined territory store
      (store.activatePolicySet territory.orgID version).2 := by
  unfold MemoryStore.activatePolicySet
  simp only
  split
  · exact of_policySets _
  · exact refl store

theorem createGrant {grant : AuthorityGrant}
    (owned : grant.orgID = territory.orgID) (unnamed : grant.id = "")
    (fresh : store.grants.get? uid = none) :
    Confined territory store (store.createGrant uid now grant).2 := by
  rw [MemoryStore.createGrant, unnamed]
  exact
    { refl store with
      grants := .set_other (by simp [owned]) fun old present => by
        simp [fresh] at present
      elsewhere := fun other _ _ => { Elsewhere.refl other store with } }

theorem revokeGrant (grantID : String) :
    Confined territory store
      (store.revokeGrant now territory.orgID grantID).2 := by
  unfold MemoryStore.revokeGrant
  split
  · rename_i grant present
    split
    · rename_i pending
      exact
        { refl store with
          grants := .set_other (by simp [pending.1]) fun old stored => by
            rw [present, Option.some.injEq] at stored
            simp [← stored, pending.1]
          elsewhere := fun other _ _ => { Elsewhere.refl other store with } }
    · exact refl store
  · exact refl store

/-- Storing a server of the organization. -/
theorem upsertMCPServer (uid nonce : String) {server : MCPServer}
    (authToken : String) (plain : Plain territory.orgID)
    (owned : server.orgID = territory.orgID) (tidy : store.Tidy) :
    Confined territory store
      (store.upsertMCPServer uid nonce now server authToken).2 :=
  { refl store with
    mcpServers := .set_other (by simp [owned]) fun old present => by
      obtain ⟨plainOld, named⟩ := tidy.server _ old present
      have same := org_eq_of_mcpKey_eq (owned ▸ plain) plainOld named
      simp [← same, owned]
    elsewhere := fun other different plainOther =>
      { Elsewhere.refl other store with
        servers := fun name => Table.get?_set_of_ne _ _ fun equal =>
          different (org_eq_of_mcpKey_eq plainOther plain (owned ▸ equal)) } }

/-- Storing an integration's credential of the organization. -/
theorem setIntegrationCredential (nonce name secret : String)
    (plain : Plain territory.orgID) :
    Confined territory store (store.setIntegrationCredential nonce
      territory.orgID name secret).2 := by
  unfold MemoryStore.setIntegrationCredential
  split
  · exact refl store
  · exact
      { refl store with
        elsewhere := fun other different plainOther =>
          { Elsewhere.refl other store with
            integCreds := fun _ => Table.get?_set_of_ne _ _ fun equal =>
              different (org_eq_of_mcpKey_eq plainOther plain equal)
            integNames := Table.filter_keys_set _ _ (by
              rw [Bool.eq_false_iff]
              intro starts
              exact different
                (org_eq_of_starts plain plainOther starts).symm) } }

theorem setIntegrationConfig (name : String)
    (config : List (String × Value)) (plain : Plain territory.orgID) :
    Confined territory store
      (store.setIntegrationConfig territory.orgID name config) :=
  { refl store with
    elsewhere := fun other different plainOther =>
      { Elsewhere.refl other store with
        integConfig := fun _ => Table.get?_set_of_ne _ _ fun equal =>
          different (org_eq_of_mcpKey_eq plainOther plain equal) } }

end Confined
end SettleAgent
