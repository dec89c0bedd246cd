import SettleAgent.Data.HashChain
import SettleAgent.Gateway.Calls

/-!
# The receipt chains of the memory store

The receipts of all organizations lie in one list, and a map keeps the last
hash of each organization.  `Ledger.WellChained` ties the map to the list.  All
methods of the store keep it, in any order and whatever their arguments, and
`VerifyChain` accepts every ledger that satisfies it.
-/

namespace SettleAgent

open HashChain

variable {hashing : Hashing}

namespace Ledger

/-- What `VerifyChain` looks at in a receipt. -/
def link (receipt : Receipt) : Link String ChainPayload where
  prev := receipt.prevHash
  hash := receipt.hash
  payload := payload receipt

/-- The links of one organization, in the order of the list. -/
def linksOf (orgID : String) (receipts : List Receipt) :
    List (Link String ChainPayload) :=
  (receipts.filter fun receipt => receipt.orgID = orgID).map link

theorem linksOf_append (orgID : String) (first second : List Receipt) :
    linksOf orgID (first ++ second) =
      linksOf orgID first ++ linksOf orgID second := by
  simp [linksOf]

theorem linksOf_cons (orgID : String) (receipt : Receipt)
    (rest : List Receipt) :
    linksOf orgID (receipt :: rest) =
      if receipt.orgID = orgID then link receipt :: linksOf orgID rest
      else linksOf orgID rest := by
  by_cases owned : receipt.orgID = orgID
  · simp [linksOf, owned]
  · simp [linksOf, owned]

/-- The walk finds no broken position exactly if the links are chained. -/
theorem verifyFrom_eq_neg_one_iff
    (hashing : Hashing) (orgID : String) (receipts : List Receipt)
    {index : Int} (prev : String) (position : 0 ≤ index) :
    verifyFrom hashing orgID receipts index prev = -1 ↔
      Chained hashing.chainHash prev (linksOf orgID receipts) := by
  induction receipts generalizing index prev with
  | nil => simp [verifyFrom, linksOf, Chained]
  | cons receipt rest inductionHypothesis =>
      have following : 0 ≤ index + 1 := by omega
      rw [verifyFrom, linksOf_cons]
      by_cases owned : receipt.orgID = orgID
      · simp only [owned, ne_eq, not_true_eq_false, if_false, if_true]
        exact chained_step_iff (link receipt) position
          (inductionHypothesis receipt.hash following)
      · simp only [owned, ne_eq, not_false_eq_true, if_true, if_false]
        exact inductionHypothesis prev following

/-- The receipts of every organization form a chain, and the map holds the hash
of its last link. -/
structure WellChained (hashing : Hashing) (ledger : Ledger) : Prop where
  chained : ∀ orgID,
    Chained hashing.chainHash "" (linksOf orgID ledger.receiptsList)
  headed : ∀ orgID, (ledger.lastHash.get? orgID).getD "" =
    head "" (linksOf orgID ledger.receiptsList)

theorem WellChained.verifyChain {ledger : Ledger}
    (well : ledger.WellChained hashing) (orgID : String) :
    ledger.verifyChain hashing orgID = -1 :=
  (verifyFrom_eq_neg_one_iff hashing orgID _ "" le_rfl).mpr
    (well.chained orgID)

theorem wellChained_empty (hashing : Hashing) :
    empty.WellChained hashing where
  chained := fun _ => trivial
  headed := fun _ => rfl

/-- Neither the receipts nor the last hashes differ. -/
structure SameReceipts (ledger other : Ledger) : Prop where
  receipts : other.receiptsList = ledger.receiptsList
  hashes : other.lastHash = ledger.lastHash

theorem WellChained.congr {ledger other : Ledger}
    (well : ledger.WellChained hashing)
    (same : ledger.SameReceipts other) :
    other.WellChained hashing where
  chained := by
    rw [same.receipts]
    exact well.chained
  headed := by
    rw [same.receipts, same.hashes]
    exact well.headed

section

variable (ledger : Ledger)

theorem sameReceipts_setTxnStatus
    (now : Time) (orgID id : String) (status : TxnStatus) :
    ledger.SameReceipts (ledger.setTxnStatus now orgID id status).2 := by
  unfold setTxnStatus
  split
  · exact ⟨rfl, rfl⟩
  · exact ⟨rfl, rfl⟩

theorem sameReceipts_addAction
    (hashing : Hashing) (uid : String) (now : Time) (action : TxnAction) :
    ledger.SameReceipts (ledger.addAction hashing uid now action).2 := by
  unfold addAction
  split
  · exact ⟨rfl, rfl⟩
  · exact ⟨rfl, rfl⟩

theorem sameReceipts_updateAction (action : TxnAction) :
    ledger.SameReceipts (ledger.updateAction action) := by
  unfold updateAction
  split
  · exact ⟨rfl, rfl⟩
  · exact ⟨rfl, rfl⟩

theorem sameReceipts_modifyStored
    (id : String) (change : TxnAction → TxnAction) :
    ledger.SameReceipts (ledger.modifyStored id change) := by
  unfold modifyStored
  split
  · exact ⟨rfl, rfl⟩
  · exact ⟨rfl, rfl⟩

theorem sameReceipts_updateStored (id : String) :
    ledger.SameReceipts (ledger.updateStored id) := by
  unfold updateStored
  split
  · exact sameReceipts_updateAction ledger _
  · exact ⟨rfl, rfl⟩

theorem sameReceipts_decideApproval
    (now : Time) (orgID id decidedBy : String) (approve : Bool) :
    ledger.SameReceipts
      (ledger.decideApproval now orgID id decidedBy approve).2 := by
  unfold decideApproval
  split
  · split
    · exact ⟨rfl, rfl⟩
    · exact ⟨rfl, rfl⟩
  · exact ⟨rfl, rfl⟩

end

theorem WellChained.appendReceipt {ledger : Ledger}
    (well : ledger.WellChained hashing) (uid : String) (receipt : Receipt) :
    (ledger.appendReceipt hashing uid receipt).2.WellChained hashing := by
  constructor
  · intro orgID
    simp only [Ledger.appendReceipt, linksOf_append, linksOf_cons]
    by_cases owned : receipt.orgID = orgID
    · simp only [owned, if_true]
      exact (well.chained orgID).concat (well.headed orgID) rfl
    · simpa [owned, linksOf] using well.chained orgID
  · intro orgID
    simp only [Ledger.appendReceipt, linksOf_append, linksOf_cons]
    by_cases owned : receipt.orgID = orgID
    · simp [owned, head_append, linksOf, head, link]
    · rw [Table.get?_set_of_ne _ _ (Ne.symm owned), if_neg owned]
      simpa [linksOf] using well.headed orgID

/-- The signature fields are not part of a link. -/
theorem linksOf_updateReceipt (ledger : Ledger)
    (owner id keyID signature orgID : String) :
    linksOf orgID (ledger.updateReceipt owner id keyID signature).receiptsList =
      linksOf orgID ledger.receiptsList := by
  simp only [Ledger.updateReceipt]
  induction ledger.receiptsList with
  | nil => rfl
  | cons receipt rest inductionHypothesis =>
      rw [List.map_cons, linksOf_cons, linksOf_cons, inductionHypothesis]
      by_cases named : receipt.id = id ∧ receipt.orgID = owner
      · rw [if_pos named]
        rfl
      · rw [if_neg named]

theorem WellChained.updateReceipt {ledger : Ledger}
    (well : ledger.WellChained hashing) (owner id keyID signature : String) :
    (ledger.updateReceipt owner id keyID signature).WellChained hashing where
  chained := by
    intro orgID
    rw [linksOf_updateReceipt]
    exact well.chained orgID
  headed := by
    intro orgID
    rw [linksOf_updateReceipt]
    exact well.headed orgID

end Ledger

/-! ## All methods of the store -/

/-- Fresh identifiers, clock readings and the nonce that a method draws. -/
structure Draws where
  uid : String
  otherUID : String
  now : Time
  later : Time
  nonce : String

/-- A call of a method of the memory store, or a write through a pointer to a
record that a method has handed out.  Methods that only read are one case. -/
inductive StoreCall : Type
  | read
  | seedOrg (name : String)
  | createAgent (orgID principalID name environment : String)
      (groups : List String) (secretHash : String)
  | setPolicies (orgID : String) (rules : List PolicyRule)
  | createPolicySet (orgID : String) (rules : List PolicyRule)
      (createdBy : String)
  | activatePolicySet (orgID : String) (version : Int)
  | createTxn (txn : Transaction)
  | setTxnStatus (orgID id : String) (status : TxnStatus)
  | addAction (action : TxnAction)
  | updateAction (action : TxnAction)
  | modifyStored (id : String) (change : TxnAction → TxnAction)
  | updateStored (id : String)
  | createApproval (approval : Approval)
  | decideApproval (orgID id decidedBy : String) (approve : Bool)
  | appendReceipt (receipt : Receipt)
  | setStoredSignature (orgID id keyID signature : String)
  | updateReceipt (orgID id keyID signature : String)
  | emit (event : AuditEvent)
  | storeCredential (orgID agentID keyID secretHash : String)
  | revokeCredential (keyID : String)
  | touchCredential (keyID : String)
  | createOperatorToken (orgID name keyID secretHash : String)
  | touchOperatorToken (keyID : String)
  | upsertMCPServer (server : MCPServer) (authToken : String)
  | createGrant (grant : AuthorityGrant)
  | revokeGrant (orgID grantID : String)
  | setKeyProvider (provider : Option KeyProvider)
  | setIntegrationCredential (orgID name secret : String)
  | setIntegrationConfig (orgID name : String)
      (config : List (String × Value))

namespace MemoryStore

/-- The store after a call. -/
def after (hashing : Hashing) (store : MemoryStore) (draws : Draws) :
    StoreCall → MemoryStore
  | .read => store
  | .seedOrg name =>
      (store.seedOrg draws.uid draws.otherUID draws.now draws.later name).2
  | .createAgent orgID principalID name environment groups secretHash =>
      (store.createAgent draws.uid draws.now orgID principalID name
        environment groups secretHash).2
  | .setPolicies orgID rules => store.setPolicies draws.uid draws.now orgID rules
  | .createPolicySet orgID rules createdBy =>
      (store.createPolicySet draws.uid draws.now orgID rules createdBy).2
  | .activatePolicySet orgID version =>
      (store.activatePolicySet orgID version).2
  | .createTxn txn =>
      (store.createTxn draws.uid draws.otherUID draws.now txn).2
  | .setTxnStatus orgID id status => { store with
      toLedger := (store.toLedger.setTxnStatus draws.now orgID id status).2 }
  | .addAction action => { store with
      toLedger :=
        (store.toLedger.addAction hashing draws.uid draws.now action).2 }
  | .updateAction action => { store with
      toLedger := store.toLedger.updateAction action }
  | .modifyStored id change => { store with
      toLedger := store.toLedger.modifyStored id change }
  | .updateStored id => { store with
      toLedger := store.toLedger.updateStored id }
  | .createApproval approval => { store with
      toLedger :=
        (store.toLedger.createApproval draws.uid draws.now approval).2 }
  | .decideApproval orgID id decidedBy approve => { store with
      toLedger := (store.toLedger.decideApproval draws.now orgID id decidedBy
        approve).2 }
  | .appendReceipt receipt => { store with
      toLedger := (store.toLedger.appendReceipt hashing draws.uid receipt).2 }
  | .setStoredSignature orgID id keyID signature
  | .updateReceipt orgID id keyID signature => { store with
      toLedger := store.toLedger.updateReceipt orgID id keyID signature }
  | .emit event => store.emit draws.uid draws.now event
  | .storeCredential orgID agentID keyID secretHash =>
      store.storeCredential orgID agentID keyID secretHash
  | .revokeCredential keyID => (store.revokeCredential keyID).2
  | .touchCredential keyID => store.touchCredential draws.now keyID
  | .createOperatorToken orgID name keyID secretHash =>
      store.createOperatorToken orgID name keyID secretHash
  | .touchOperatorToken keyID => store.touchOperatorToken draws.now keyID
  | .upsertMCPServer server authToken =>
      (store.upsertMCPServer draws.uid draws.nonce draws.now server authToken).2
  | .createGrant grant => (store.createGrant draws.uid draws.now grant).2
  | .revokeGrant orgID grantID => (store.revokeGrant draws.now orgID grantID).2
  | .setKeyProvider provider => store.setKeyProvider provider
  | .setIntegrationCredential orgID name secret =>
      (store.setIntegrationCredential draws.nonce orgID name secret).2
  | .setIntegrationConfig orgID name config =>
      store.setIntegrationConfig orgID name config

/-- The store after a sequence of calls. -/
def afterAll (hashing : Hashing) (store : MemoryStore)
    (calls : List (StoreCall × Draws)) : MemoryStore :=
  calls.foldl (fun current call => current.after hashing call.2 call.1) store

@[simp] theorem toLedger_setPolicies (store : MemoryStore) (uid : String)
    (now : Time) (orgID : String) (rules : List PolicyRule) :
    (store.setPolicies uid now orgID rules).toLedger = store.toLedger := by
  simp only [setPolicies, toLedger_activatePolicySet]
  rfl

/-- One call keeps the chains. -/
theorem wellChained_after {store : MemoryStore}
    (well : store.toLedger.WellChained hashing)
    (call : StoreCall) (draws : Draws) :
    (store.after hashing draws call).toLedger.WellChained hashing := by
  cases call with
  | appendReceipt receipt => exact well.appendReceipt draws.uid receipt
  | setStoredSignature orgID id keyID signature
  | updateReceipt orgID id keyID signature =>
      exact well.updateReceipt orgID id keyID signature
  | setTxnStatus orgID id status =>
      exact well.congr (store.sameReceipts_setTxnStatus _ _ _ _)
  | addAction action =>
      exact well.congr (store.sameReceipts_addAction _ _ _ _)
  | updateAction action => exact well.congr (store.sameReceipts_updateAction _)
  | modifyStored id change =>
      exact well.congr (store.sameReceipts_modifyStored _ _)
  | updateStored id => exact well.congr (store.sameReceipts_updateStored _)
  | decideApproval orgID id decidedBy approve =>
      exact well.congr (store.sameReceipts_decideApproval _ _ _ _ _)
  | setPolicies orgID rules => simpa [after] using well
  | activatePolicySet orgID version => simpa [after] using well
  | revokeCredential keyID => simpa [after] using well
  | touchCredential keyID => simpa [after] using well
  | touchOperatorToken keyID => simpa [after] using well
  | revokeGrant orgID grantID => simpa [after] using well
  | setIntegrationCredential orgID name secret => simpa [after] using well
  | _ => exact well.congr ⟨rfl, rfl⟩

/-- A sequence of calls keeps the chains. -/
theorem wellChained_afterAll {store : MemoryStore}
    (well : store.toLedger.WellChained hashing)
    (calls : List (StoreCall × Draws)) :
    (store.afterAll hashing calls).toLedger.WellChained hashing := by
  induction calls generalizing store with
  | nil => exact well
  | cons call rest inductionHypothesis =>
      exact inductionHypothesis (wellChained_after well call.1 call.2)

/-- Every chain verifies after every sequence of calls to a new store. -/
theorem verifyChain_afterAll
    (hashing : Hashing) (calls : List (StoreCall × Draws)) (orgID : String) :
    (new.afterAll hashing calls).toLedger.verifyChain hashing orgID = -1 := by
  have well : (new.afterAll hashing calls).toLedger.WellChained hashing :=
    wellChained_afterAll (Ledger.wellChained_empty hashing) calls
  exact well.verifyChain orgID

end MemoryStore

/-! ## The calls of the gateway -/

/-- The store methods behind a call of the gateway. -/
def Call.storeCall : Call → StoreCall
  | .createTxn txn => .createTxn txn
  | .setTxnStatus orgID id status => .setTxnStatus orgID id status
  | .addAction action => .addAction action
  | .updateAction action => .updateAction action
  | .setStoredDecision id decision =>
      .modifyStored id fun action => { action with decision := some decision }
  | .setStoredStatus id status =>
      .modifyStored id fun action => { action with status := status }
  | .updateStored id => .updateStored id
  | .createApproval approval => .createApproval approval
  | .decideApproval orgID id decidedBy approve =>
      .decideApproval orgID id decidedBy approve
  | .appendReceipt receipt => .appendReceipt receipt
  | .setStoredSignature orgID id keyID signature =>
      .setStoredSignature orgID id keyID signature
  | .updateReceipt orgID id keyID signature =>
      .updateReceipt orgID id keyID signature
  | .emit event => .emit event
  | .createAgent orgID principalID name environment groups secretHash =>
      .createAgent orgID principalID name environment groups secretHash
  | .storeCredential orgID agentID keyID secretHash =>
      .storeCredential orgID agentID keyID secretHash
  | .revokeCredential keyID => .revokeCredential keyID
  | .createPolicySet orgID rules createdBy =>
      .createPolicySet orgID rules createdBy
  | .activatePolicySet orgID version => .activatePolicySet orgID version
  | .createGrant grant => .createGrant grant
  | .revokeGrant orgID grantID => .revokeGrant orgID grantID
  | .upsertMCPServer server authToken => .upsertMCPServer server authToken
  | .setIntegrationCredential orgID name secret =>
      .setIntegrationCredential orgID name secret
  | .setIntegrationConfig orgID name config =>
      .setIntegrationConfig orgID name config
  | _ => .read

/-- What a call of the gateway draws. -/
def Env.draws (env : Env) : Draws where
  uid := env.uid
  otherUID := env.eventID
  now := env.now
  later := env.now
  nonce := env.nonce

/-- Every call of the gateway acts on the store as a method of it, so the chains
verify along all runs of the gateway. -/
theorem store_exec (config : Config) (request : Call) (env : Env)
    (world : World) :
    (exec config request env world).2.store =
      world.store.after config.runtime.hashing env.draws
        request.storeCall := by
  cases request <;> rfl

theorem wellChained_exec {config : Config} {world : World}
    (well : world.ledger.WellChained config.runtime.hashing)
    (request : Call) (env : Env) :
    (exec config request env world).2.ledger.WellChained
      config.runtime.hashing := by
  rw [World.ledger, store_exec]
  exact MemoryStore.wellChained_after well request.storeCall env.draws

end SettleAgent
