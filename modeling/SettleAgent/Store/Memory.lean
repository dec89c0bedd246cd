import SettleAgent.Store.Ledger

/-!
# The memory store

The ledger tables together with agents and credentials, policy sets, authority
grants, registered MCP servers, integration settings and the audit log.
-/

namespace SettleAgent

/-- The interface `keys.Provider`: receipt signatures, and sealing of stored
secrets.  Sealing draws a nonce and may fail. -/
structure KeyProvider where
  keyID : String
  sign : String → List UInt8
  verify : String → List UInt8 → Bool
  sealSecret : String → String → Option String
  openSealed : String → Option String

structure CredRef where
  orgID : String
  agentID : String
  hash : String
  revoked : Bool := false
  lastUsed : Time := 0

structure OpToken where
  orgID : String
  name : String
  hash : String
  revoked : Bool := false
  lastUsed : Time := 0

structure MCPEntry where
  server : MCPServer
  token : String

structure MemoryStore extends Ledger where
  orgs : Table Organization
  principals : Table Principal
  agents : Table Agent
  credentials : Table String
  credByKey : Table CredRef
  opTokens : Table OpToken
  mcpServers : Table MCPEntry
  grants : Table AuthorityGrant
  policySets : Table (List PolicySet)
  integCreds : Table String
  integConfig : Table (List (String × Value))
  keyProvider : Option KeyProvider
  policies : Table (List PolicyRule)
  audit : List AuditEvent

namespace MemoryStore

/-- The store that `New` returns. -/
def new : MemoryStore where
  toLedger := Ledger.empty
  orgs := ∅
  principals := ∅
  agents := ∅
  credentials := ∅
  credByKey := ∅
  opTokens := ∅
  mcpServers := ∅
  grants := ∅
  policySets := ∅
  integCreds := ∅
  integConfig := ∅
  keyProvider := none
  policies := ∅
  audit := []

/-! ## Audit log -/

def emit (store : MemoryStore) (uid : String) (now : Time)
    (event : AuditEvent) : MemoryStore :=
  { store with
    audit := store.audit ++ [{ event with id := uid, createdAt := now }] }

/-- The newest `limit` events of an organization, or of one transaction. -/
def auditOf (store : MemoryStore) (orgID txnID : String) (limit : Nat) :
    List AuditEvent :=
  (store.audit.reverse.filter fun event =>
    event.orgID = orgID ∧ (txnID = "" ∨ event.transactionID = txnID)).take limit

/-- `CreateTxn`, which also logs the creation. -/
def createTxn (store : MemoryStore) (uid eventID : String) (now : Time)
    (txn : Transaction) : Transaction × MemoryStore :=
  let created := store.toLedger.createTxn uid now txn
  (created.1, emit { store with toLedger := created.2 } eventID now
    { orgID := txn.orgID, transactionID := uid, actorType := .agent,
      actorID := txn.agentID, type := .transactionCreated })

/-! ## Organizations, agents and credentials -/

def seedOrg (store : MemoryStore) (orgUID principalUID : String)
    (now later : Time) (name : String) :
    (Organization × Principal) × MemoryStore :=
  let org : Organization := { id := orgUID, name := name, createdAt := now }
  let principal : Principal :=
    { id := principalUID, orgID := orgUID, type := .organization,
      name := name, createdAt := later }
  ((org, principal), { store with
    orgs := store.orgs.set orgUID org
    principals := store.principals.set principalUID principal })

def createAgent (store : MemoryStore) (uid : String) (now : Time)
    (orgID principalID name environment : String) (groups : List String)
    (secretHash : String) : Agent × MemoryStore :=
  let agent : Agent :=
    { id := uid, orgID := orgID, principalID := principalID, name := name,
      groups := groups, environment := environment, status := "active",
      createdAt := now }
  (agent, { store with
    agents := store.agents.set uid agent
    credentials := store.credentials.set uid secretHash })

def getAgent (store : MemoryStore) (orgID agentID : String) : Option Agent :=
  match store.agents.get? agentID with
  | some agent => if agent.orgID = orgID then some agent else none
  | none => none

theorem getAgent_eq_some {store : MemoryStore} {orgID agentID : String}
    {agent : Agent} :
    store.getAgent orgID agentID = some agent ↔
      store.agents.get? agentID = some agent ∧ agent.orgID = orgID := by
  unfold getAgent
  cases store.agents.get? agentID with
  | none => simp
  | some stored =>
      exact Table.kept_eq_some (Agent.orgID · = orgID)

def storeCredential (store : MemoryStore)
    (orgID agentID keyID secretHash : String) : MemoryStore :=
  { store with
    credByKey := store.credByKey.set keyID
      { orgID := orgID, agentID := agentID, hash := secretHash }
    credentials := store.credentials.set agentID secretHash }

/-- The organization, agent and hash of an unrevoked credential. -/
def getCredential (store : MemoryStore) (keyID : String) : Option CredRef :=
  match store.credByKey.get? keyID with
  | some ref => if ref.revoked then none else some ref
  | none => none

theorem getCredential_eq_some {store : MemoryStore} {keyID : String}
    {ref : CredRef} :
    store.getCredential keyID = some ref ↔
      store.credByKey.get? keyID = some ref ∧ ref.revoked = false := by
  unfold getCredential
  cases store.credByKey.get? keyID with
  | none => simp
  | some stored =>
      exact Table.unmarked_eq_some CredRef.revoked

def revokeCredential (store : MemoryStore) (keyID : String) :
    Bool × MemoryStore :=
  match store.getCredential keyID with
  | some ref =>
      (true, { store with
        credByKey := store.credByKey.set keyID { ref with revoked := true } })
  | none => (false, store)

variable (store : MemoryStore)

@[simp] theorem toLedger_revokeCredential (keyID : String) :
    (store.revokeCredential keyID).2.toLedger = store.toLedger := by
  unfold revokeCredential
  split <;> rfl

def touchCredential (store : MemoryStore) (now : Time) (keyID : String) :
    MemoryStore :=
  match store.credByKey.get? keyID with
  | some ref => { store with
      credByKey := store.credByKey.set keyID { ref with lastUsed := now } }
  | none => store

@[simp] theorem toLedger_touchCredential (now : Time) (keyID : String) :
    (store.touchCredential now keyID).toLedger = store.toLedger := by
  unfold touchCredential
  split <;> rfl

/-! ## Operator tokens -/

def createOperatorToken (store : MemoryStore)
    (orgID name keyID secretHash : String) : MemoryStore :=
  { store with
    opTokens := store.opTokens.set keyID
      { orgID := orgID, name := name, hash := secretHash } }

/-- The organization, name and hash of an unrevoked token. -/
def getOperatorToken (store : MemoryStore) (keyID : String) : Option OpToken :=
  match store.opTokens.get? keyID with
  | some token => if token.revoked then none else some token
  | none => none

theorem getOperatorToken_eq_some {store : MemoryStore} {keyID : String}
    {token : OpToken} :
    store.getOperatorToken keyID = some token ↔
      store.opTokens.get? keyID = some token ∧ token.revoked = false := by
  unfold getOperatorToken
  cases store.opTokens.get? keyID with
  | none => simp
  | some stored =>
      exact Table.unmarked_eq_some OpToken.revoked

def touchOperatorToken (store : MemoryStore) (now : Time) (keyID : String) :
    MemoryStore :=
  match store.opTokens.get? keyID with
  | some token => { store with
      opTokens := store.opTokens.set keyID { token with lastUsed := now } }
  | none => store

@[simp] theorem toLedger_touchOperatorToken (now : Time) (keyID : String) :
    (store.touchOperatorToken now keyID).toLedger = store.toLedger := by
  unfold touchOperatorToken
  split <;> rfl

/-! ## Policy sets -/

/-- The policy sets of an organization, in order of creation. -/
def policySetsOf (store : MemoryStore) (orgID : String) : List PolicySet :=
  (store.policySets.get? orgID).getD []

def latestVersion (sets : List PolicySet) : Int :=
  sets.foldl (fun highest set => max highest set.version) 0

def createPolicySet (store : MemoryStore) (uid : String) (now : Time)
    (orgID : String) (rules : List PolicyRule) (createdBy : String) :
    PolicySet × MemoryStore :=
  let sets := store.policySetsOf orgID
  let set : PolicySet :=
    { id := uid, orgID := orgID, version := latestVersion sets + 1,
      rules := rules, status := .draft, createdBy := createdBy,
      createdAt := now }
  (set, { store with policySets := store.policySets.set orgID (sets ++ [set]) })

def activatePolicySet (store : MemoryStore) (orgID : String) (version : Int) :
    Bool × MemoryStore :=
  let sets := store.policySetsOf orgID
  if sets.any fun set => set.version = version then
    (true, { store with
      policySets := store.policySets.set orgID (sets.map fun set =>
        if set.version = version then { set with status := .active }
        else if set.status = .active then { set with status := .disabled }
        else set) })
  else (false, store)

@[simp] theorem toLedger_activatePolicySet (orgID : String) (version : Int) :
    (store.activatePolicySet orgID version).2.toLedger = store.toLedger := by
  simp only [activatePolicySet]
  split <;> rfl

def activePolicySet (store : MemoryStore) (orgID : String) :
    Option PolicySet :=
  (store.policySetsOf orgID).find? fun set => set.status = .active

def policiesOf (store : MemoryStore) (orgID : String) : List PolicyRule :=
  match (store.policySetsOf orgID).find? fun set => set.status = .active with
  | some set => set.rules
  | none => (store.policies.get? orgID).getD []

theorem policiesOf_eq (orgID : String) :
    store.policiesOf orgID = (store.activePolicySet orgID).elim
      ((store.policies.get? orgID).getD []) PolicySet.rules := by
  unfold policiesOf activePolicySet
  cases (store.policySetsOf orgID).find? fun set => set.status = .active <;> rfl

/-- `SetPolicies` takes the mutex once to create a set and once to activate
the latest one. -/
def setPolicies (store : MemoryStore) (uid : String) (now : Time)
    (orgID : String) (rules : List PolicyRule) : MemoryStore :=
  let created := (store.createPolicySet uid now orgID rules "system").2
  (created.activatePolicySet orgID
    (latestVersion (created.policySetsOf orgID))).2

/-! ## Authority grants -/

def createGrant (store : MemoryStore) (uid : String) (now : Time)
    (grant : AuthorityGrant) : AuthorityGrant × MemoryStore :=
  let stored := { grant with
    id := if grant.id = "" then uid else grant.id
    issuedAt := now }
  (stored, { store with grants := store.grants.set stored.id stored })

def grantsForAgent (store : MemoryStore) (rank : String → Nat)
    (orgID agentID : String) : List AuthorityGrant :=
  store.grants.select rank fun grant =>
    grant.orgID = orgID ∧ grant.agentID = agentID

def revokeGrant (store : MemoryStore) (now : Time) (orgID grantID : String) :
    Bool × MemoryStore :=
  match store.grants.get? grantID with
  | some grant =>
      if grant.orgID = orgID ∧ grant.revokedAt = none then
        (true, { store with
          grants := store.grants.set grantID
            { grant with revokedAt := some now } })
      else (false, store)
  | none => (false, store)

@[simp] theorem toLedger_revokeGrant (now : Time) (orgID grantID : String) :
    (store.revokeGrant now orgID grantID).2.toLedger = store.toLedger := by
  unfold revokeGrant
  split
  · split <;> rfl
  · rfl

/-! ## Sealed secrets -/

def setKeyProvider (store : MemoryStore) (provider : Option KeyProvider) :
    MemoryStore :=
  { store with keyProvider := provider }

def sealLocked (store : MemoryStore) (nonce secret : String) : String :=
  match store.keyProvider with
  | none => secret
  | some provider =>
      if secret = "" then secret
      else (provider.sealSecret nonce secret).getD secret

def openLocked (store : MemoryStore) (sealed : String) : Option String :=
  if sealed = "" then some ""
  else match store.keyProvider with
    | none => some sealed
    | some provider => provider.openSealed sealed

/-! ## MCP servers -/

def mcpKey (orgID name : String) : String := orgID ++ "|" ++ name

def upsertMCPServer (store : MemoryStore) (uid nonce : String) (now : Time)
    (server : MCPServer) (authToken : String) : MCPServer × MemoryStore :=
  let stored := { server with
    id := if server.id = "" then uid else server.id
    createdAt := now
    hasToken := authToken ≠ "" }
  (stored, { store with
    mcpServers := store.mcpServers.set (mcpKey server.orgID server.name)
      { server := stored, token := store.sealLocked nonce authToken } })

def getMCPServer (store : MemoryStore) (orgID name : String) :
    Option (MCPServer × String) :=
  match store.mcpServers.get? (mcpKey orgID name) with
  | some entry => (store.openLocked entry.token).map fun token =>
      (entry.server, token)
  | none => none

def listMCPServers (store : MemoryStore) (rank : String → Nat)
    (orgID : String) : List MCPServer :=
  (store.mcpServers.select rank fun entry =>
    entry.server.orgID = orgID).map MCPEntry.server

/-! ## Integration settings -/

def setIntegrationCredential (store : MemoryStore) (nonce : String)
    (orgID name secret : String) : Except String Unit × MemoryStore :=
  if secret = "" then (.error "empty secret", store)
  else (.ok (), { store with
    integCreds := store.integCreds.set (mcpKey orgID name)
      (store.sealLocked nonce secret) })

@[simp] theorem toLedger_setIntegrationCredential
    (nonce orgID name secret : String) :
    (store.setIntegrationCredential nonce orgID name secret).2.toLedger =
      store.toLedger := by
  unfold setIntegrationCredential
  split <;> rfl

def getIntegrationCredential (store : MemoryStore) (orgID name : String) :
    Option String :=
  (store.integCreds.get? (mcpKey orgID name)).bind store.openLocked

/-- The names under which an organization has stored a credential: the keys
that start with the organization's identifier and a bar. -/
def listIntegrationCredentials (store : MemoryStore) (rank : String → Nat)
    (orgID : String) : List String :=
  ((store.integCreds.keys.filter fun key =>
      (mcpKey orgID "").toList.isPrefixOf key.toList).insertionSort
    fun left right => rank left ≤ rank right).map fun key =>
      String.ofList (key.toList.drop (mcpKey orgID "").length)

def setIntegrationConfig (store : MemoryStore) (orgID name : String)
    (config : List (String × Value)) : MemoryStore :=
  { store with
    integConfig := store.integConfig.set (mcpKey orgID name) config }

def getIntegrationConfig (store : MemoryStore) (orgID name : String) :
    Option (List (String × Value)) :=
  store.integConfig.get? (mcpKey orgID name)

end MemoryStore
end SettleAgent
