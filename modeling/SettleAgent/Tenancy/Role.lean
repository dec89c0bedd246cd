import SettleAgent.Tenancy.Territory

/-!
# Operations inside a territory

The role of an operation that stays in a territory.  It may write a record only
if it knows that the record belongs there: because it carries the organization
itself, or because the operation has read or created the record before.  One
step lemma says what follows for the store.
-/

namespace SettleAgent

open Interaction

/-- The records that an operation knows to be in its territory. -/
structure Holdings where
  actions : List TxnAction := []
  receipts : List String := []
  agents : List String := []
  issued : List String := []
  credentials : List String := []

/-- Storing a credential uses up the drawn keys. -/
def Holdings.spent (holdings : Holdings) : Call → Holdings
  | .storeCredential _ _ _ _ => { holdings with issued := [] }
  | _ => holdings

namespace Territory

variable (territory : Territory)

/-- Fold a call and its reply into the holdings. -/
def learn (holdings : Holdings) : (request : Call) → request.Resp → Holdings
  | .getAction _ _, some action =>
      if territory.action action then
        { holdings with actions := action :: holdings.actions }
      else holdings
  | .addAction _, (stored, false) =>
      { holdings with actions := stored :: holdings.actions }
  | .appendReceipt _, receipt =>
      { holdings with receipts := receipt.id :: holdings.receipts }
  | .getAgent _ _, some agent =>
      { holdings with agents := agent.id :: holdings.agents }
  | .createAgent _ _ _ _ _ _, agent =>
      { holdings with agents := agent.id :: holdings.agents }
  | .newAgentSecret, some secret =>
      { holdings with issued := secret.keyID :: holdings.issued }
  | .storeCredential _ _ _ _, _ => { holdings with issued := [] }
  | .getCredential keyID, some ref =>
      if ref.orgID = territory.orgID then
        { holdings with credentials := keyID :: holdings.credentials }
      else holdings
  | _, _ => holdings

/-- Whether an operation in the territory may make the call. -/
def May (holdings : Holdings) : Call → Prop
  | .createTxn txn =>
      txn.orgID = territory.orgID ∧ ∀ txnID, territory.mine txnID = true
  | .setTxnStatus orgID id _ =>
      orgID = territory.orgID ∧ territory.mine id = true
  | .addAction action => territory.action action = true
  | .updateAction action =>
      territory.action action = true ∧ ∃ known ∈ holdings.actions,
        known.id = action.id ∧ Ledger.keyOf known = Ledger.keyOf action
  | .setStoredDecision id _ | .setStoredStatus id _ | .updateStored id =>
      ∃ known ∈ holdings.actions, known.id = id
  | .createApproval approval => territory.approval approval = true
  | .decideApproval orgID _ _ _ =>
      orgID = territory.orgID ∧ ∀ txnID, territory.mine txnID = true
  | .appendReceipt receipt => territory.receipt receipt = true
  | .setStoredSignature orgID id _ _ | .updateReceipt orgID id _ _ =>
      orgID = territory.orgID ∧ id ∈ holdings.receipts
  | .emit event => event.orgID = territory.orgID
  | .storeCredential orgID agentID keyID _ =>
      orgID = territory.orgID ∧ agentID ∈ holdings.agents ∧
        keyID ∈ holdings.issued
  | .revokeCredential keyID => keyID ∈ holdings.credentials
  | .createGrant grant => grant.orgID = territory.orgID ∧ grant.id = ""
  | .upsertMCPServer server _ => server.orgID = territory.orgID
  | .execute action | .reconcile _ action => action.orgID = territory.orgID
  | .getTxn orgID _ | .listTxns orgID | .getAction orgID _
  | .actionsForTxn orgID _ | .pendingApprovals orgID
  | .receiptsForTxn orgID _ | .verifyChain orgID | .audit orgID _ _
  | .createAgent orgID _ _ _ _ _ | .getAgent orgID _ | .policies orgID
  | .createPolicySet orgID _ _ | .activatePolicySet orgID _
  | .policySets orgID | .activePolicySet orgID | .grantsForAgent orgID _
  | .revokeGrant orgID _ | .getMCPServer orgID _ | .listMCPServers orgID
  | .setIntegrationCredential orgID _ _ | .listIntegrationCredentials orgID
  | .setIntegrationConfig orgID _ _ => orgID = territory.orgID
  | _ => True

/-- The role of an operation in the territory. -/
def role : Role Call Call.Resp Holdings where
  learn := territory.learn
  may := territory.May
  fits := Fits

@[simp] theorem role_learn : territory.role.learn = territory.learn := rfl

@[simp] theorem role_may : territory.role.may = territory.May := rfl

@[simp] theorem role_fits : territory.role.fits = Fits := rfl

end Territory

/-- The environment supplies a key identifier that is not in use. -/
def FreshKey (world : World) (env : Env) : Prop :=
  ∀ secret, env.agentSecret = some secret →
    world.store.credByKey.get? secret.keyID = none

instance (world : World) (env : Env) : Decidable (FreshKey world env) :=
  decidable_of_iff
    (∀ secret ∈ env.agentSecret,
      (world.store.credByKey.get? secret.keyID).isNone = true)
    (by simp [FreshKey])

/-- What an operation knows is true of the store. -/
structure Holds (territory : Territory) (holdings : Holdings)
    (store : MemoryStore) : Prop where
  actions : ∀ known ∈ holdings.actions, ∃ stored,
    store.actions.get? known.id = some stored ∧
      territory.action stored = true ∧
      Ledger.keyOf stored = Ledger.keyOf known
  receipts : ∀ id ∈ holdings.receipts,
    (∃ receipt ∈ store.receiptsList, receipt.id = id) ∧
      ∀ receipt ∈ store.receiptsList, receipt.id = id →
        territory.receipt receipt = true
  agents : ∀ id ∈ holdings.agents, ∃ agent,
    store.agents.get? id = some agent ∧ agent.orgID = territory.orgID
  issued : ∀ keyID ∈ holdings.issued, store.credByKey.get? keyID = none
  credentials : ∀ keyID ∈ holdings.credentials, ∃ ref,
    store.credByKey.get? keyID = some ref ∧ ref.orgID = territory.orgID

theorem Holds.nothing (territory : Territory) (store : MemoryStore) :
    Holds territory {} store := by
  constructor <;> simp

/-- The store keeps every record where its names say. -/
structure MemoryStore.Sound (store : MemoryStore) : Prop where
  keyed : store.WellKeyed
  indexed : store.Indexed
  tidy : store.Tidy

variable {territory : Territory} {holdings : Holdings} {config : Config}
  {world : World} {env : Env} {request : Call}

variable (plain : Plain territory.orgID) (sound : world.store.Sound)
  (holds : Holds territory holdings world.store)
  (admissible : Admissible world env) (may : territory.May holdings request)

include plain sound holds admissible may in
/-- A permitted call writes inside the territory only. -/
theorem confined_exec :
    Confined territory world.store (exec config request env world).2.store := by
  cases request with
  | createTxn txn =>
      exact .createTxn _ may.1 (may.2 _) admissible.1.txn
  | setTxnStatus orgID id status =>
      obtain ⟨rfl, mine⟩ := may
      exact .setTxnStatus status mine sound.keyed
  | addAction action =>
      exact .addAction _ plain sound.indexed may admissible.1.action
  | updateAction action =>
      obtain ⟨owned, known, member, named, _⟩ := may
      obtain ⟨stored, present, inside, _⟩ := holds.actions known member
      rw [named] at present
      exact .updateAction plain sound.indexed owned present inside
  | setStoredDecision id decision =>
      obtain ⟨known, member, rfl⟩ := may
      obtain ⟨stored, present, inside, _⟩ := holds.actions known member
      exact .modifyStored plain sound.indexed inside present inside
  | setStoredStatus id status =>
      obtain ⟨known, member, rfl⟩ := may
      obtain ⟨stored, present, inside, _⟩ := holds.actions known member
      exact .modifyStored plain sound.indexed inside present inside
  | updateStored id =>
      obtain ⟨known, member, rfl⟩ := may
      obtain ⟨stored, present, inside, _⟩ := holds.actions known member
      exact .updateStored plain sound.indexed sound.keyed present inside
  | createApproval approval => exact .createApproval may admissible.1.approval
  | decideApproval orgID id decidedBy approve =>
      obtain ⟨rfl, all⟩ := may
      exact .decideApproval id decidedBy approve all
  | appendReceipt receipt => exact .appendReceipt _ _ may
  | setStoredSignature orgID id keyID signature =>
      obtain ⟨rfl, known⟩ := may
      exact .updateReceipt keyID signature (holds.receipts id known).2
  | updateReceipt orgID id keyID signature =>
      obtain ⟨rfl, known⟩ := may
      exact .updateReceipt keyID signature (holds.receipts id known).2
  | emit event => exact .emit _ may
  | createAgent orgID principalID name environment groups secretHash =>
      obtain rfl := may
      exact .createAgent _ _ _ _ _ admissible.1.agent
  | storeCredential orgID agentID keyID secretHash =>
      obtain ⟨rfl, known, drawn⟩ := may
      obtain ⟨agent, present, owned⟩ := holds.agents agentID known
      exact .storeCredential secretHash present owned (holds.issued keyID drawn)
  | revokeCredential keyID =>
      obtain ⟨ref, present, owned⟩ := holds.credentials keyID may
      exact .revokeCredential present owned
  | createPolicySet orgID rules createdBy =>
      obtain rfl := may
      exact .of_policySets _
  | activatePolicySet orgID version =>
      obtain rfl := may
      exact .activatePolicySet version
  | createGrant grant =>
      exact .createGrant may.1 may.2 admissible.1.grant
  | revokeGrant orgID grantID =>
      obtain rfl := may
      exact .revokeGrant grantID
  | upsertMCPServer server authToken =>
      exact .upsertMCPServer _ _ _ plain may sound.tidy
  | setIntegrationCredential orgID name secret =>
      obtain rfl := may
      exact .setIntegrationCredential _ name secret plain
  | setIntegrationConfig orgID name settings =>
      obtain rfl := may
      exact .setIntegrationConfig name settings plain
  | _ => exact .refl world.store

/-! ## What a step keeps -/

variable {id : String} {ledger : Ledger}

/-- Writing an action in the place of one with the same key, and perhaps its
index entry. -/
theorem Ledger.Indexed.of_action
    {action : TxnAction} {byIdem : Table String}
    (indexed : ledger.Indexed)
    (kept : ∀ old, ledger.actions.get? id = some old →
      Ledger.keyOf old = Ledger.keyOf action)
    (index : ∀ key target, byIdem.get? key = some target →
      ledger.byIdem.get? key = some target ∨
        (key = Ledger.keyOf action ∧ target = id)) :
    ({ ledger with
      actions := ledger.actions.set id action
      byIdem := byIdem } : Ledger).Indexed := by
  intro key target entry
  have written : (ledger.actions.set id action).get? id = some action :=
    Table.get?_set_self _ _ _
  rcases index key target entry with before | ⟨rfl, rfl⟩
  swap
  · exact ⟨action, written, rfl⟩
  obtain ⟨record, present, named⟩ := indexed key target before
  by_cases same : target = id
  · subst same
    exact ⟨action, written, (kept record present).symm.trans named⟩
  · exact ⟨record, (Table.get?_set_of_ne _ _ same).trans present, named⟩

/-- The index entries after one more is set. -/
theorem index_set {byIdem : Table String} {key id : String} :
    ∀ other target, (byIdem.set key id).get? other = some target →
      byIdem.get? other = some target ∨ (other = key ∧ target = id) := by
  intro other target entry
  rw [Table.get?_set] at entry
  split at entry
  · rename_i same
    exact .inr ⟨same, (Option.some.inj entry).symm⟩
  · exact .inl entry

theorem Ledger.Indexed.updateAction {action old : TxnAction}
    (indexed : ledger.Indexed)
    (present : ledger.actions.get? action.id = some old)
    (kept : Ledger.keyOf old = Ledger.keyOf action) :
    (ledger.updateAction action).Indexed := by
  rw [Ledger.updateAction_of_present present]
  refine indexed.of_action ?_ index_set
  intro record stored
  rw [present, Option.some.injEq] at stored
  rwa [← stored]

theorem Ledger.Indexed.modifyStored
    {change : TxnAction → TxnAction} (indexed : ledger.Indexed)
    (kept : ∀ action, Ledger.keyOf (change action) = Ledger.keyOf action) :
    (ledger.modifyStored id change).Indexed := by
  cases found : ledger.actions.get? id with
  | none =>
      rw [Ledger.modifyStored, found]
      exact indexed
  | some action =>
      rw [Ledger.modifyStored_of_present change found]
      refine indexed.of_action ?_ fun _ _ entry => .inl entry
      intro record stored
      rw [found, Option.some.injEq] at stored
      rw [← stored, kept]

include sound holds admissible may in
theorem indexed_exec :
    (exec config request env world).2.ledger.Indexed := by
  have indexed : world.ledger.Indexed := sound.indexed
  by_cases writes : request.WritesActions
  swap
  · unfold Ledger.Indexed
    rw [actions_exec writes, byIdem_exec writes]
    exact indexed
  cases request with
  | addAction action =>
      change (world.ledger.addAction config.runtime.hashing env.uid env.now
        action).2.Indexed
      cases found : world.ledger.byIdem? (Ledger.keyOf action) with
      | some previous =>
          rw [Ledger.addAction_of_duplicate _ _ found]
          exact indexed
      | none =>
          rw [Ledger.addAction_of_new _ _ found]
          refine indexed.of_action ?_ index_set
          intro old present
          have fresh : world.ledger.actions.get? env.uid = none :=
            admissible.1.action
          simp [fresh] at present
  | updateAction action =>
      obtain ⟨_, known, member, named, same⟩ := may
      obtain ⟨stored, present, _, kept⟩ := holds.actions known member
      rw [named] at present
      exact indexed.updateAction present (kept.trans same)
  | setStoredDecision id decision => exact indexed.modifyStored fun _ => rfl
  | setStoredStatus id status => exact indexed.modifyStored fun _ => rfl
  | updateStored id =>
      obtain ⟨known, member, rfl⟩ := may
      obtain ⟨stored, present, _⟩ := holds.actions known member
      have found : world.ledger.actions.get? known.id = some stored := present
      have own := sound.keyed.action _ _ present
      change (world.ledger.updateStored known.id).Indexed
      rw [Ledger.updateStored, found]
      exact indexed.updateAction (own.symm ▸ present) rfl
  | _ => exact writes.elim

/-- The calls that may change agents, keyed credentials or servers. -/
def Call.Admits : Call → Prop
  | .createAgent _ _ _ _ _ _ | .storeCredential _ _ _ _
  | .revokeCredential _ | .upsertMCPServer _ _ => True
  | _ => False

/-- Organizations, and the tables that authentication reads. -/
structure Directory where
  orgs : Table Organization
  agents : Table Agent
  credentials : Table String
  credByKey : Table CredRef
  opTokens : Table OpToken

def MemoryStore.directory (store : MemoryStore) : Directory where
  orgs := store.orgs
  agents := store.agents
  credentials := store.credentials
  credByKey := store.credByKey
  opTokens := store.opTokens

theorem admitted_exec (config : Config) (env : Env) (world : World)
    (untouched : ¬ request.Admits) :
    let after := (exec config request env world).2.store
    after.directory = world.store.directory ∧
      after.mcpServers = world.store.mcpServers ∧
      after.keyProvider = world.store.keyProvider := by
  cases request with
  | createAgent orgID principalID name environment groups secretHash =>
      exact absurd trivial untouched
  | storeCredential orgID agentID keyID secretHash =>
      exact absurd trivial untouched
  | revokeCredential keyID => exact absurd trivial untouched
  | upsertMCPServer server authToken => exact absurd trivial untouched
  | activatePolicySet orgID version =>
      simp only [exec, World.withStore, MemoryStore.activatePolicySet]
      split <;> exact ⟨rfl, rfl, rfl⟩
  | revokeGrant orgID grantID =>
      simp only [exec, World.withStore, MemoryStore.revokeGrant]
      split
      · split <;> exact ⟨rfl, rfl, rfl⟩
      · exact ⟨rfl, rfl, rfl⟩
  | setIntegrationCredential orgID name secret =>
      simp only [exec, World.withStore, MemoryStore.setIntegrationCredential]
      split <;> exact ⟨rfl, rfl, rfl⟩
  | _ => exact ⟨rfl, rfl, rfl⟩

theorem revokeCredential_frame (store : MemoryStore) (keyID : String) :
    let after := (store.revokeCredential keyID).2
    after.agents = store.agents ∧ after.mcpServers = store.mcpServers := by
  simp only [MemoryStore.revokeCredential]
  split <;> exact ⟨rfl, rfl⟩

/-- Agents and servers stay under their own names. -/
theorem tidy_exec (plain : Plain territory.orgID)
    (tidy : world.store.Tidy) (may : territory.May holdings request) :
    (exec config request env world).2.store.Tidy := by
  by_cases admits : request.Admits
  swap
  · obtain ⟨directory, servers, _⟩ := admitted_exec config env world admits
    have agents : (exec config request env world).2.store.agents = _ :=
      congrArg Directory.agents directory
    exact ⟨agents ▸ tidy.agent, servers ▸ tidy.server⟩
  cases request with
  | createAgent orgID principalID name environment groups secretHash =>
      exact ⟨Ledger.keyed_set tidy.agent rfl, tidy.server⟩
  | storeCredential orgID agentID keyID secretHash =>
      exact ⟨tidy.agent, tidy.server⟩
  | revokeCredential keyID =>
      obtain ⟨agents, servers⟩ := revokeCredential_frame world.store keyID
      exact ⟨agents ▸ tidy.agent, servers ▸ tidy.server⟩
  | upsertMCPServer server authToken =>
      refine ⟨tidy.agent, Table.forall_get?_set ?_ ?_⟩
      · exact fun key entry _ present => tidy.server key entry present
      · have owned : server.orgID = territory.orgID := may
        exact ⟨owned ▸ plain, rfl⟩
  | _ => exact admits.elim

/-- A write through the pointer that leaves the proposal alone. -/
theorem known_modifyStored {key id : String}
    {stored : TxnAction} {change : TxnAction → TxnAction}
    (present : ledger.actions.get? key = some stored) :
    ∃ after, (ledger.modifyStored id change).actions.get? key = some after ∧
      (after = stored ∨ after = change stored) := by
  cases found : ledger.actions.get? id with
  | none =>
      rw [Ledger.modifyStored, found]
      exact ⟨stored, present, .inl rfl⟩
  | some action =>
      rw [Ledger.modifyStored_of_present change found]
      by_cases same : key = id
      · subst same
        rw [found, Option.some.injEq] at present
        subst present
        exact ⟨_, Table.get?_set_self _ _ _, .inr rfl⟩
      · exact ⟨stored, (Table.get?_set_of_ne _ _ same).trans present, .inl rfl⟩

section Others

variable {other : Territory} {theirs : Holdings}

/-- What an operation in the territory makes of an action that is in the other
territory as well is still there. -/
def Territory.Respects (territory other : Territory) : Prop :=
  ∀ old new : TxnAction, territory.action old = true →
    territory.action new = true → other.action old = true →
      other.action new = true

theorem Territory.respects_self : territory.Respects territory :=
  fun _ _ _ inside _ => inside

theorem Territory.respects_whole (orgID : String) :
    territory.Respects (.whole orgID) := by
  intro old new oldInside newInside theirs
  simp only [Territory.action, Territory.whole, Bool.and_true,
    Bool.and_eq_true, decide_eq_true_eq] at *
  rw [newInside.1, ← oldInside.1, theirs]

include sound holds admissible may in
/-- Known actions stay where they are, under their keys. -/
theorem known_exec (respects : territory.Respects other)
    (kept : Holds other theirs world.store)
    {known : TxnAction} (member : known ∈ theirs.actions) :
    ∃ stored,
      (exec config request env world).2.ledger.actions.get? known.id =
        some stored ∧
      other.action stored = true ∧
      Ledger.keyOf stored = Ledger.keyOf known := by
  obtain ⟨stored, present, inside, keyed⟩ := kept.actions known member
  have found : world.ledger.actions.get? known.id = some stored := present
  by_cases writes : request.WritesActions
  swap
  · rw [actions_exec writes]
    exact ⟨stored, found, inside, keyed⟩
  cases request with
  | addAction action =>
      have absent : world.ledger.actions.get? env.uid = none :=
        admissible.1.action
      have different : known.id ≠ env.uid := by
        intro same
        rw [same, absent] at found
        cases found
      refine ⟨stored, ?_, inside, keyed⟩
      change (world.ledger.addAction config.runtime.hashing env.uid env.now
        action).2.actions.get? known.id = some stored
      unfold Ledger.addAction
      split
      · exact found
      · exact (Table.get?_set_of_ne _ _ different).trans found
  | updateAction action =>
      obtain ⟨owned, mine, mineMember, named, same⟩ := may
      obtain ⟨old, oldPresent, oldInside, oldKeyed⟩ :=
        holds.actions mine mineMember
      rw [named] at oldPresent
      rw [show (exec config (.updateAction action) env world).2.ledger =
        world.ledger.updateAction action from rfl,
        Ledger.updateAction_of_present oldPresent]
      by_cases one : known.id = action.id
      · rw [one] at found ⊢
        have equal := found.symm.trans oldPresent
        rw [Option.some.injEq] at equal
        subst equal
        refine ⟨action, Table.get?_set_self _ _ _,
          respects stored action oldInside owned inside, ?_⟩
        rw [← same, ← oldKeyed, keyed]
      · exact ⟨stored, (Table.get?_set_of_ne _ _ one).trans found, inside,
          keyed⟩
  | setStoredDecision id decision =>
      obtain ⟨after, written, same | changed⟩ := known_modifyStored found
      · exact ⟨after, written, same ▸ inside, same ▸ keyed⟩
      · exact ⟨after, written, changed ▸ inside, changed ▸ keyed⟩
  | setStoredStatus id status =>
      obtain ⟨after, written, same | changed⟩ := known_modifyStored found
      · exact ⟨after, written, same ▸ inside, same ▸ keyed⟩
      · exact ⟨after, written, changed ▸ inside, changed ▸ keyed⟩
  | updateStored id =>
      exact ⟨stored, (Ledger.get?_updateStored sound.keyed id _).trans found,
        inside, keyed⟩
  | _ => exact writes.elim

/-- Known receipts stay where they are. -/
theorem receipts_exec (admissible : Admissible world env)
    (kept : Holds other theirs world.store)
    (member : id ∈ theirs.receipts) :
    let after := (exec config request env world).2.ledger.receiptsList
    (∃ receipt ∈ after, receipt.id = id) ∧
      ∀ receipt ∈ after, receipt.id = id → other.receipt receipt = true := by
  obtain ⟨⟨known, listed, named⟩, inside⟩ := kept.receipts id member
  by_cases writes : request.WritesReceipts
  swap
  · rw [receiptsList_exec writes]
    exact ⟨⟨known, listed, named⟩, inside⟩
  have signed : ∀ orgID target keyID signature,
      let after := (world.ledger.updateReceipt orgID target keyID
        signature).receiptsList
      (∃ receipt ∈ after, receipt.id = id) ∧
        ∀ receipt ∈ after, receipt.id = id → other.receipt receipt = true := by
    intro orgID target keyID signature
    refine ⟨⟨_, List.mem_map_of_mem listed, ?_⟩, ?_⟩
    · split <;> exact named
    · intro receipt member
      obtain ⟨old, oldListed, rfl⟩ := List.mem_map.mp member
      split
      · exact inside old oldListed
      · exact inside old oldListed
  cases request with
  | appendReceipt receipt =>
      refine ⟨⟨known, List.mem_append_left _ listed, named⟩, ?_⟩
      intro current present sameName
      rcases List.mem_append.mp present with old | new
      · exact inside current old sameName
      · -- the new receipt has another identifier
        rw [List.mem_singleton.mp new] at sameName
        exact absurd (named.trans sameName.symm)
          (admissible.1.receipt known listed)
  | setStoredSignature orgID target keyID signature => exact signed _ _ _ _
  | updateReceipt orgID target keyID signature => exact signed _ _ _ _
  | _ => exact writes.elim

/-- Known agents stay agents of the organization. -/
theorem agents_exec (admissible : Admissible world env)
    (kept : Holds other theirs world.store)
    (member : id ∈ theirs.agents) :
    ∃ agent,
      (exec config request env world).2.store.agents.get? id = some agent ∧
        agent.orgID = other.orgID := by
  obtain ⟨agent, present, owned⟩ := kept.agents id member
  refine ⟨agent, ?_, owned⟩
  by_cases admits : request.Admits
  swap
  · have same := congrArg Directory.agents
      (admitted_exec config env world admits).1
    exact (congrArg (·.get? id) same).trans present
  cases request with
  | createAgent orgID principalID name environment groups secretHash =>
      refine (Table.get?_set_of_ne _ _ ?_).trans present
      rintro rfl
      rw [admissible.1.agent] at present
      cases present
  | storeCredential orgID agentID keyID secretHash => exact present
  | revokeCredential keyID =>
      exact (congrArg (·.get? id)
        (revokeCredential_frame world.store keyID).1).trans present
  | upsertMCPServer server authToken => exact present
  | _ => exact admits.elim

/-- A credential that is looked up after a call was there before, with the same
organization, or the call has stored it. -/
theorem credential_exec (config : Config) (request : Call) (env : Env)
    (world : World) (keyID : String) :
    let before := world.store.credByKey.get? keyID
    let after := (exec config request env world).2.store.credByKey.get? keyID
    after = before ∨
      (∃ old, before = some old ∧ after = some { old with revoked := true }) ∨
      ∃ orgID agentID secretHash,
        request = .storeCredential orgID agentID keyID secretHash ∧
        after = some { orgID := orgID, agentID := agentID,
                       hash := secretHash } := by
  by_cases admits : request.Admits
  swap
  · exact .inl (congrArg (·.credByKey.get? keyID)
      (admitted_exec config env world admits).1)
  cases request with
  | createAgent orgID principalID name environment groups secretHash =>
      exact .inl rfl
  | storeCredential orgID agentID stored secretHash =>
      by_cases same : keyID = stored
      · subst same
        exact .inr (.inr ⟨orgID, agentID, secretHash, rfl,
          Table.get?_set_self _ _ _⟩)
      · exact .inl (Table.get?_set_of_ne _ _ same)
  | revokeCredential revoked =>
      cases found : world.store.getCredential revoked with
      | none =>
          simp [exec, World.withStore, MemoryStore.revokeCredential, found]
      | some ref =>
          obtain ⟨present, _⟩ := MemoryStore.getCredential_eq_some.mp found
          simp only [exec, World.withStore, MemoryStore.revokeCredential, found]
          by_cases same : keyID = revoked
          · subst same
            exact .inr (.inl ⟨ref, present, Table.get?_set_self _ _ _⟩)
          · exact .inl (Table.get?_set_of_ne _ _ same)
  | upsertMCPServer server authToken => exact .inl rfl
  | _ => exact admits.elim

variable (config) in
include sound holds admissible may in
/-- What somebody knew before a permitted call is still true after it, unless
the call uses up a drawn key. -/
theorem holds_exec (respects : territory.Respects other)
    (kept : Holds other theirs world.store)
    (unspent : ∀ keyID ∈ theirs.issued, ∀ orgID agentID secretHash,
      request ≠ .storeCredential orgID agentID keyID secretHash) :
    Holds other theirs (exec config request env world).2.store := by
  constructor
  · exact fun _ member =>
      known_exec sound holds admissible may respects kept member
  · exact fun _ member => receipts_exec admissible kept member
  · exact fun _ member => agents_exec admissible kept member
  · intro keyID member
    have absent := kept.issued keyID member
    rcases credential_exec config request env world keyID with
      same | ⟨old, present, _⟩ | ⟨orgID, agentID, secretHash, stores, _⟩
    · rw [same, absent]
    · rw [absent] at present
      cases present
    · exact absurd stores (unspent keyID member orgID agentID secretHash)
  · intro keyID member
    obtain ⟨ref, present, owned⟩ := kept.credentials keyID member
    rcases credential_exec config request env world keyID with
      same | ⟨old, before, after⟩ | ⟨orgID, agentID, secretHash, rfl, _⟩
    · exact ⟨ref, same.trans present, owned⟩
    · rw [present, Option.some.injEq] at before
      subst before
      exact ⟨_, after, owned⟩
    · -- a key that is stored under was not in use
      have absent := holds.issued keyID may.2.2
      rw [absent] at present
      cases present

end Others

variable (config) in
include sound holds admissible may in
/-- An operation's own knowledge, without the keys that the call uses up. -/
theorem holds_spent :
    Holds territory (holdings.spent request)
      (exec config request env world).2.store := by
  have fewer : Holds territory (holdings.spent request) world.store := by
    cases request with
    | storeCredential => exact { holds with issued := by simp [Holdings.spent] }
    | _ => exact holds
  refine holds_exec config sound holds admissible may Territory.respects_self
    fewer ?_
  rintro keyID member orgID agentID secretHash rfl
  simp [Holdings.spent] at member

theorem Holds.addAction {store : MemoryStore} {known stored : TxnAction}
    (holds : Holds territory holdings store)
    (present : store.actions.get? known.id = some stored)
    (inside : territory.action stored = true)
    (keyed : Ledger.keyOf stored = Ledger.keyOf known) :
    Holds territory
      { holdings with actions := known :: holdings.actions } store :=
  { holds with
    actions := List.forall_mem_cons.mpr
      ⟨⟨stored, present, inside, keyed⟩, holds.actions⟩ }

theorem Holds.addAgent {store : MemoryStore} {agent : Agent}
    (holds : Holds territory holdings store)
    (present : store.agents.get? id = some agent)
    (owned : agent.orgID = territory.orgID) :
    Holds territory { holdings with agents := id :: holdings.agents } store :=
  { holds with
    agents := List.forall_mem_cons.mpr ⟨⟨agent, present, owned⟩, holds.agents⟩ }

/-- Every permitted call keeps the holdings true, with what it adds to them. -/
theorem Holds.learn (config : Config) (sound : world.store.Sound)
    (holds : Holds territory holdings world.store)
    (admissible : Admissible world env) (unused : FreshKey world env)
    (may : territory.May holdings request) :
    Holds territory
      (territory.learn holdings request (exec config request env world).1)
      (exec config request env world).2.store := by
  have kept := holds_spent config sound holds admissible may
  cases request with
  | getAction orgID id =>
      change Holds territory (territory.learn holdings (.getAction orgID id)
        (world.ledger.getAction orgID id)) world.store
      cases found : world.ledger.getAction orgID id with
      | none => exact holds
      | some action =>
          obtain ⟨present, _⟩ := Ledger.getAction_eq_some.mp found
          have named := sound.keyed.action id action present
          subst named
          simp only [Territory.learn]
          split
          · rename_i inside
            exact holds.addAction present inside rfl
          · exact holds
  | addAction action =>
      cases found : world.ledger.byIdem? (Ledger.keyOf action) with
      | some previous =>
          have reply : (exec config (.addAction action) env world).1 =
              (previous, true) :=
            congrArg Prod.fst
              (Ledger.addAction_of_duplicate env.uid env.now found)
          rw [reply]
          exact kept
      | none =>
          let stored := Ledger.newAction config.runtime.hashing env.uid env.now
            action
          have added : exec config (.addAction action) env world =
              world.withLedger ((stored, false), { world.ledger with
                actions := world.ledger.actions.set env.uid stored
                byIdem := world.ledger.byIdem.set (Ledger.keyOf action)
                  env.uid }) :=
            congrArg world.withLedger
              (Ledger.addAction_of_new env.uid env.now found)
          have present : (exec config (.addAction action) env
              world).2.store.actions.get? stored.id = some stored := by
            rw [added]
            exact Table.get?_set_self _ _ _
          have learned := Holds.addAction kept present may rfl
          rw [show (exec config (.addAction action) env world).1 =
            (stored, false) from congrArg Prod.fst added]
          exact learned
  | appendReceipt receipt =>
      refine { kept with
        receipts := List.forall_mem_cons.mpr ⟨⟨?_, ?_⟩, kept.receipts⟩ }
      · exact ⟨_, List.mem_append_right _ (List.mem_singleton_self _), rfl⟩
      intro listed present named
      rcases List.mem_append.mp present with old | new
      · exact absurd named (admissible.1.receipt listed old)
      · rw [List.mem_singleton.mp new]
        exact may
  | getAgent orgID agentID =>
      change Holds territory (territory.learn holdings (.getAgent orgID agentID)
        (world.store.getAgent orgID agentID)) world.store
      cases found : world.store.getAgent orgID agentID with
      | none => exact holds
      | some agent =>
          obtain ⟨present, owned⟩ := MemoryStore.getAgent_eq_some.mp found
          have named := sound.tidy.agent agentID agent present
          subst named
          exact holds.addAgent present (owned.trans may)
  | createAgent orgID principalID name environment groups secretHash =>
      exact Holds.addAgent kept (Table.get?_set_self _ _ _) may
  | newAgentSecret =>
      change Holds territory (territory.learn holdings .newAgentSecret
        env.agentSecret) world.store
      cases drawn : env.agentSecret with
      | none => exact holds
      | some secret =>
          exact { holds with
            issued := List.forall_mem_cons.mpr
              ⟨unused secret drawn, holds.issued⟩ }
  | getCredential keyID =>
      change Holds territory (territory.learn holdings (.getCredential keyID)
        (world.store.getCredential keyID)) world.store
      cases found : world.store.getCredential keyID with
      | none => exact holds
      | some ref =>
          obtain ⟨present, _⟩ := MemoryStore.getCredential_eq_some.mp found
          simp only [Territory.learn]
          split
          · rename_i owned
            exact { holds with
              credentials := List.forall_mem_cons.mpr
                ⟨⟨ref, present, owned⟩, holds.credentials⟩ }
          · exact holds
  | storeCredential orgID agentID keyID secretHash => exact kept
  | _ => exact kept

include plain sound holds admissible may in
theorem sound_exec :
    (exec config request env world).2.store.Sound where
  keyed := wellKeyed_exec request sound.keyed
  indexed := indexed_exec sound holds admissible may
  tidy := tidy_exec plain sound.tidy may

/-- Everything that the environment of a call generates is new. -/
def Generates (world : World) (env : Env) : Prop :=
  Admissible world env ∧ FreshKey world env

instance (world : World) (env : Env) : Decidable (Generates world env) :=
  inferInstanceAs (Decidable (_ ∧ _))

end SettleAgent
