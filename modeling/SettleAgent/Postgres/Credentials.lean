import SettleAgent.Api.Auth
import SettleAgent.Postgres.Receipts
import Mathlib.Data.Prod.Lex
import Mathlib.Data.String.Basic

/-!
# Legacy hashes in the two stores

`AgentCredentialHashes` collects the hashes that legacy secrets are compared
with.  The memory store lets the keyed credentials overwrite each other in the
order of a map iteration, and lets a revoked one erase the hash of its agent.
Postgres picks the newest row that is not revoked, and the row with which an
agent was created is never revoked.  The two agree as long as no keyed
credential of an agent is revoked or replaced by one with another hash.
-/

namespace SettleAgent

/-- A call that changes agents or their credentials. -/
inductive CredentialCall : Type
  | createAgent (orgID principalID name environment : String)
      (groups : List String) (secretHash : String)
  | storeCredential (orgID agentID keyID secretHash : String)
  | revokeCredential (keyID : String)

/-- What a call meets: the identifier that is drawn for a new agent, the time,
and whether a constraint apart from the keys rejects the agent's row. -/
structure Occasion where
  uid : String
  now : Time
  rejected : Bool

/-- The call on the memory store. -/
def CredentialCall.onMemory (occasion : Occasion) (store : MemoryStore) :
    CredentialCall → MemoryStore
  | createAgent orgID principalID name environment groups secretHash =>
      (store.createAgent occasion.uid occasion.now orgID principalID name
        environment groups secretHash).2
  | storeCredential orgID agentID keyID secretHash =>
      store.storeCredential orgID agentID keyID secretHash
  | revokeCredential keyID => (store.revokeCredential keyID).2

/-- The memory store after a sequence of calls. -/
def memoryAfter (calls : List (CredentialCall × Occasion)) : MemoryStore :=
  calls.foldl (fun store call => call.1.onMemory call.2 store) MemoryStore.new

namespace Postgres

/-- A row of `agent_credentials`. -/
structure CredentialRow where
  orgID : String
  agentID : String
  keyID : Option String
  secretHash : String
  createdAt : Time
  revoked : Bool

/-- The row after its key has been revoked: it is marked unless it is marked
already. -/
def CredentialRow.revokedBy (keyID : String) (row : CredentialRow) :
    CredentialRow :=
  if row.keyID = some keyID ∧ row.revoked = false then
    { row with revoked := true }
  else row

/-- The tables behind agents and their credentials.  An agent's row is its
identifier and its organization. -/
structure Roster where
  organizations : List String
  principals : List String
  agents : List (String × String)
  credentials : List CredentialRow

namespace Roster

variable (canonical : UUIDs) (roster : Roster)

/-- `INSERT INTO agents`. -/
def insertAgent (id orgID principalID : String) : Roster :=
  match canonical id, canonical orgID, canonical principalID with
  | some agent, some org, some principal =>
      if org ∈ roster.organizations ∧ principal ∈ roster.principals ∧
          agent ∉ roster.agents.map Prod.fst then
        { roster with agents := roster.agents ++ [(agent, org)] }
      else roster
  | _, _, _ => roster

/-- `INSERT INTO agent_credentials`.  Keys are unique where they are not
null. -/
def insertCredential (orgID agentID : String) (keyID : Option String)
    (secretHash : String) (now : Time) : Roster :=
  match canonical orgID, canonical agentID with
  | some org, some agent =>
      if org ∈ roster.organizations ∧ agent ∈ roster.agents.map Prod.fst ∧
          (keyID = none ∨ ∀ row ∈ roster.credentials, row.keyID ≠ keyID) then
        { roster with
          credentials := roster.credentials ++
            [{ orgID := org, agentID := agent, keyID := keyID
               secretHash := secretHash, createdAt := now
               revoked := false }] }
      else roster
  | _, _ => roster

/-- `PGStore.CreateAgent`. -/
def createAgent (occasion : Occasion)
    (orgID principalID secretHash : String) : Roster :=
  let inserted :=
    if occasion.rejected then roster
    else roster.insertAgent canonical occasion.uid orgID principalID
  inserted.insertCredential canonical orgID occasion.uid none secretHash
    occasion.now

/-- `PGStore.StoreCredential`. -/
def storeCredential (occasion : Occasion)
    (orgID agentID keyID secretHash : String) : Roster :=
  roster.insertCredential canonical orgID agentID (some keyID) secretHash
    occasion.now

/-- `PGStore.RevokeCredential`. -/
def revokeCredential (keyID : String) : Roster :=
  { roster with
    credentials := roster.credentials.map (CredentialRow.revokedBy keyID) }

/-- The rows of an organization that are not revoked. -/
def valid (orgID : String) : List CredentialRow :=
  roster.credentials.filter fun row =>
    canonical orgID = some row.orgID ∧ row.revoked = false

end Roster

/-- `ORDER BY agent_id, created_at DESC`. -/
def CredentialRow.position (row : CredentialRow) : Lex (String × Timeᵒᵈ) :=
  toLex (row.agentID, OrderDual.toDual row.createdAt)

/-- `DISTINCT ON`: the first row with each key. -/
def distinctOn {α : Type} (key : α → String) (rows : List α) : List α :=
  rows.foldl (fun kept row =>
    if kept.any fun other => key other = key row then kept
    else kept ++ [row]) []

/-- `PGStore.AgentCredentialHashes`. -/
def Roster.agentCredentialHashes (canonical : UUIDs) (roster : Roster)
    (orgID : String) : Table String :=
  let ordered := (roster.valid canonical orgID).insertionSort
    fun first second => first.position ≤ second.position
  (distinctOn CredentialRow.agentID ordered).foldl
    (fun out row => out.set row.agentID row.secretHash) ∅

end Postgres

/-- The call on Postgres. -/
def CredentialCall.onPostgres (canonical : Postgres.UUIDs)
    (occasion : Occasion) (roster : Postgres.Roster) :
    CredentialCall → Postgres.Roster
  | createAgent orgID principalID _ _ _ secretHash =>
      roster.createAgent canonical occasion orgID principalID secretHash
  | storeCredential orgID agentID keyID secretHash =>
      roster.storeCredential canonical occasion orgID agentID keyID secretHash
  | revokeCredential keyID => roster.revokeCredential keyID

namespace Postgres

/-- Postgres after a sequence of calls. -/
def Roster.after (canonical : UUIDs) (roster : Roster)
    (calls : List (CredentialCall × Occasion)) : Roster :=
  calls.foldl
    (fun roster call => call.1.onPostgres canonical call.2 roster) roster

/-- A database with organizations and principals, but without agents. -/
def Roster.unstaffed (organizations principals : List String) : Roster where
  organizations := organizations
  principals := principals
  agents := []
  credentials := []

/-- The memory store lists the same hashes in every order, and Postgres
lists them too. -/
def Agrees (store : MemoryStore) (canonical : UUIDs) (roster : Roster)
    (orgID : String) : Prop :=
  ∀ rank agentID, (store.agentCredentialHashes rank orgID).get? agentID =
    (roster.agentCredentialHashes canonical orgID).get? agentID

/-! ## What Postgres lists -/

variable {canonical : UUIDs} {roster : Roster} {orgID agentID : String}

/-- Of the rows with one key, the first is left. -/
theorem filter_distinctOn {α : Type} (key : α → String) (rows : List α)
    (name : String) :
    ((distinctOn key rows).filter fun row => key row = name) =
      (rows.filter fun row => key row = name).head?.toList := by
  -- Rows are added to those kept so far, as long as none of these has the key.
  have general : ∀ kept : List α,
      ((rows.foldl (fun kept row =>
        if kept.any fun other => key other = key row then kept
        else kept ++ [row]) kept).filter fun row => key row = name) =
      if kept.any fun row => key row = name then
        kept.filter fun row => key row = name
      else (rows.filter fun row => key row = name).head?.toList := by
    induction rows with
    | nil =>
        intro kept
        by_cases listed : (kept.any fun row => key row = name) = true
        · rw [if_pos listed]
          rfl
        · rw [if_neg listed]
          simpa using listed
    | cons row rows inductionHypothesis =>
        intro kept
        rw [List.foldl_cons, inductionHypothesis]
        by_cases same : key row = name
        · subst same
          by_cases listed : (kept.any fun other => key other = key row) = true
          · simp only [listed, if_true]
          · have none : (kept.filter fun other => key other = key row) = [] := by
              simpa using listed
            simp [listed, none]
        · split
          · simp [same]
          · simp [same]
  exact general []

theorem get?_foldl_set {α : Type} (key value : α → String) (rows : List α)
    (table : Table String) (name : String) :
    (rows.foldl (fun out row => out.set (key row) (value row)) table).get? name =
      ((rows.filter fun row => key row = name).getLast?.map value).or
        (table.get? name) := by
  induction rows generalizing table with
  | nil => rfl
  | cons row rows inductionHypothesis =>
      rw [List.foldl_cons, inductionHypothesis, Table.get?_set]
      by_cases same : key row = name
      · rw [if_pos same.symm, List.filter_cons_of_pos (by simpa using same),
          List.getLast?_cons]
        cases (rows.filter fun row => key row = name).getLast? <;> rfl
      · rw [if_neg (Ne.symm same), List.filter_cons_of_neg (by simpa using same)]

/-- An agent's hash is that of the first of its rows in the order of the
query. -/
theorem get?_agentCredentialHashes :
    (roster.agentCredentialHashes canonical orgID).get? agentID =
      (((roster.valid canonical orgID).insertionSort fun first second =>
        first.position ≤ second.position).filter fun row =>
          row.agentID = agentID).head?.map CredentialRow.secretHash := by
  rw [Roster.agentCredentialHashes, get?_foldl_set, filter_distinctOn]
  cases (((roster.valid canonical orgID).insertionSort fun first second =>
    first.position ≤ second.position).filter fun row =>
      row.agentID = agentID).head? <;> rfl

/-- The hash of the agent's newest row that is not revoked, if there is one. -/
def Roster.Newest (canonical : UUIDs) (roster : Roster)
    (orgID agentID : String) : Option String → Prop
  | none => ∀ row ∈ roster.valid canonical orgID, row.agentID ≠ agentID
  | some hash => ∃ row ∈ roster.valid canonical orgID,
      row.agentID = agentID ∧ row.secretHash = hash ∧
        ∀ other ∈ roster.valid canonical orgID, other.agentID = agentID →
          other.createdAt ≤ row.createdAt

theorem mem_valid {row : CredentialRow} :
    row ∈ roster.valid canonical orgID ↔ row ∈ roster.credentials ∧
      canonical orgID = some row.orgID ∧ row.revoked = false := by
  rw [Roster.valid, List.mem_filter, decide_eq_true_eq]

/-- With distinct creation times, Postgres lists the newest hash. -/
theorem get?_eq_iff_newest
    (distinct : (roster.credentials.map CredentialRow.createdAt).Nodup)
    {found : Option String} :
    (roster.agentCredentialHashes canonical orgID).get? agentID = found ↔
      roster.Newest canonical orgID agentID found := by
  rw [get?_agentCredentialHashes]
  have sorted := (List.pairwise_insertionSort
    (fun first second : CredentialRow => first.position ≤ second.position)
    (roster.valid canonical orgID)).filter fun row => row.agentID = agentID
  have listed : ∀ row, row ∈ (((roster.valid canonical orgID).insertionSort
      fun first second => first.position ≤ second.position).filter fun row =>
        row.agentID = agentID) ↔
      row ∈ roster.valid canonical orgID ∧ row.agentID = agentID := by
    intro row
    rw [List.mem_filter, List.mem_insertionSort, decide_eq_true_eq]
  revert sorted listed
  generalize (((roster.valid canonical orgID).insertionSort
    fun first second => first.position ≤ second.position).filter fun row =>
      row.agentID = agentID) = rows
  intro sorted listed
  cases rows with
  | nil =>
      have none : ∀ row ∈ roster.valid canonical orgID,
          row.agentID ≠ agentID := by
        intro row member named
        exact absurd ((listed row).mpr ⟨member, named⟩) List.not_mem_nil
      cases found with
      | none => exact ⟨fun _ => none, fun _ => rfl⟩
      | some hash =>
          constructor
          · intro absurdity
            cases absurdity
          · rintro ⟨row, member, named, _⟩
            exact absurd named (none row member)
  | cons first rows =>
      obtain ⟨member, named⟩ := (listed first).mp List.mem_cons_self
      have latest : ∀ other ∈ roster.valid canonical orgID,
          other.agentID = agentID → other.createdAt ≤ first.createdAt := by
        intro other valid same
        rcases List.mem_cons.mp ((listed other).mpr ⟨valid, same⟩) with
          rfl | later
        · exact le_rfl
        have ordered := List.rel_of_pairwise_cons sorted later
        rw [CredentialRow.position, CredentialRow.position, Prod.Lex.le_iff]
          at ordered
        rcases ordered with less | ⟨_, newer⟩
        · exact absurd (named.trans same.symm) (ne_of_lt less)
        · exact newer
      cases found with
      | none =>
          constructor
          · intro absurdity
            cases absurdity
          · intro none
            exact absurd named (none first member)
      | some hash =>
          constructor
          · intro same
            exact ⟨first, member, named, Option.some.inj same, latest⟩
          · rintro ⟨row, valid, same, rfl, newest⟩
            have simultaneous : row.createdAt = first.createdAt :=
              le_antisymm (latest row valid same) (newest first member named)
            have equal := List.inj_on_of_nodup_map distinct
              (mem_valid.mp valid).1 (mem_valid.mp member).1 simultaneous
            rw [equal]
            rfl

end Postgres

/-! ## What the memory store lists -/

namespace MemoryStore

/-- All keyed credentials of the agent leave it the same hash.  Without any, it
is the hash that is kept with the agent. -/
def Leaves (store : MemoryStore) (orgID agentID : String)
    (found : Option String) : Prop :=
  (∀ keyID ref, store.credByKey.get? keyID = some ref → ref.orgID = orgID →
    ref.agentID = agentID → ref.current = found) ∧
  ((∀ keyID ref, store.credByKey.get? keyID = some ref → ref.orgID = orgID →
      ref.agentID ≠ agentID) →
    ((store.getAgent orgID agentID).bind fun _ =>
      store.credentials.get? agentID) = found)

/-- Every credential of an agent is the last one in some order, so that all of
them have a say. -/
theorem get?_eq_iff_leaves {store : MemoryStore} {orgID agentID : String}
    {found : Option String} :
    (∀ rank, (store.agentCredentialHashes rank orgID).get? agentID = found) ↔
      store.Leaves orgID agentID found := by
  constructor
  · intro always
    constructor
    · intro keyID ref present owned named
      let rank (key : String) : Nat := if key = keyID then 1 else 0
      have highest : ∀ other ≠ keyID, rank other < rank keyID := by
        intro other different
        simp [rank, different]
      have last : (store.credByKey.select rank fun ref =>
          ref.orgID = orgID).getLast? = some ref :=
        Table.getLast?_select present (decide_eq_true owned) highest
      obtain ⟨before, whole⟩ := List.getLast?_eq_some_iff.mp last
      have own : ([ref].filter fun ref => ref.agentID = agentID) = [ref] := by
        simp [named]
      have listed := always rank
      rw [get?_agentCredentialHashes, whole, List.filter_append, own,
        List.getLast?_concat] at listed
      exact listed
    · intro none
      have listed := always fun _ => 0
      have empty : ((store.credByKey.select (fun _ => 0) fun ref =>
          ref.orgID = orgID).filter fun ref => ref.agentID = agentID) = [] := by
        rw [List.filter_eq_nil_iff]
        intro ref selected named
        obtain ⟨owned, keyID, present⟩ := Table.mem_select.mp selected
        exact none keyID ref present (of_decide_eq_true owned)
          (of_decide_eq_true named)
      rw [get?_agentCredentialHashes, empty] at listed
      exact listed
  · rintro ⟨keyed, legacy⟩ rank
    rw [get?_agentCredentialHashes]
    cases last : ((store.credByKey.select rank fun ref =>
        ref.orgID = orgID).filter fun ref => ref.agentID = agentID).getLast? with
    | some ref =>
        obtain ⟨selected, named⟩ :=
          List.mem_filter.mp (List.mem_of_getLast? last)
        obtain ⟨owned, keyID, present⟩ := Table.mem_select.mp selected
        exact keyed keyID ref present (of_decide_eq_true owned)
          (of_decide_eq_true named)
    | none =>
        apply legacy
        intro keyID ref present owned named
        have member : ref ∈ ((store.credByKey.select rank fun ref =>
            ref.orgID = orgID).filter fun ref => ref.agentID = agentID) :=
          List.mem_filter.mpr ⟨Table.mem_select.mpr
            ⟨decide_eq_true owned, keyID, present⟩, decide_eq_true named⟩
        rw [List.getLast?_eq_none_iff.mp last] at member
        cases member

/-- Revoking a key marks its credential and leaves the other tables alone. -/
theorem revokeCredential_tables (store : MemoryStore) (keyID : String) :
    let after := (store.revokeCredential keyID).2
    after.agents = store.agents ∧ after.credentials = store.credentials ∧
      ∀ stored, after.credByKey.get? stored =
        (store.credByKey.get? stored).map fun ref =>
          if stored = keyID then { ref with revoked := true } else ref := by
  intro after
  cases found : store.getCredential keyID with
  | none =>
      have same : after = store := by
        simp only [after, revokeCredential, found]
      rw [same]
      refine ⟨rfl, rfl, ?_⟩
      intro stored
      cases present : store.credByKey.get? stored with
      | none => rfl
      | some ref =>
          by_cases named : stored = keyID
          · subst named
            have revoked : ref.revoked = true := by
              by_contra valid
              have listed := getCredential_eq_some.mpr
                ⟨present, Bool.eq_false_iff.mpr valid⟩
              rw [found] at listed
              cases listed
            simp [← revoked]
          · simp [named]
  | some ref =>
      obtain ⟨present, _⟩ := getCredential_eq_some.mp found
      have changed : after = { store with
          credByKey := store.credByKey.set keyID
            { ref with revoked := true } } := by
        simp only [after, revokeCredential, found]
      rw [changed]
      refine ⟨rfl, rfl, ?_⟩
      intro stored
      rw [Table.get?_set]
      by_cases named : stored = keyID
      · subst named
        simp [present]
      · simp [named]

end MemoryStore

namespace Postgres

/-! ## Mirrored calls -/

variable {canonical : UUIDs} {roster : Roster} {orgID agentID : String}

/-- The credential that a keyed row stands for. -/
def CredentialRow.ref (row : CredentialRow) : CredRef where
  orgID := row.orgID
  agentID := row.agentID
  hash := row.secretHash
  revoked := row.revoked

namespace CredentialRow

variable (keyID : String) (row : CredentialRow)

theorem revokedBy_eq : row.revokedBy keyID =
    { row with revoked := row.revoked || row.keyID = some keyID } := by
  obtain ⟨orgID, agentID, key, secretHash, createdAt, revoked⟩ := row
  by_cases named : key = some keyID
  · cases revoked <;> simp [revokedBy, named]
  · simp [revokedBy, named]

@[simp] theorem orgID_revokedBy : (row.revokedBy keyID).orgID = row.orgID := by
  rw [revokedBy_eq]

@[simp] theorem agentID_revokedBy :
    (row.revokedBy keyID).agentID = row.agentID := by
  rw [revokedBy_eq]

@[simp] theorem keyID_revokedBy : (row.revokedBy keyID).keyID = row.keyID := by
  rw [revokedBy_eq]

@[simp] theorem secretHash_revokedBy :
    (row.revokedBy keyID).secretHash = row.secretHash := by
  rw [revokedBy_eq]

theorem ref_revokedBy : (row.revokedBy keyID).ref =
    if row.keyID = some keyID then { row.ref with revoked := true }
    else row.ref := by
  rw [revokedBy_eq]
  by_cases named : row.keyID = some keyID <;> simp [named, ref]

theorem revokedBy_of_keyless (keyless : row.keyID = none) :
    row.revokedBy keyID = row := by
  simp [revokedBy, keyless]

end CredentialRow

/-- The tables of Postgres say what the memory store holds. -/
structure Mirrors (store : MemoryStore) (roster : Roster) : Prop where
  agent : ∀ id org, (id, org) ∈ roster.agents ↔
    ∃ agent, store.agents.get? id = some agent ∧ agent.orgID = org
  keyed : ∀ keyID ref, store.credByKey.get? keyID = some ref ↔
    ∃ row ∈ roster.credentials, row.keyID = some keyID ∧ row.ref = ref
  kept : ∀ id, store.credentials.get? id =
    (roster.credentials.filter fun row =>
      row.agentID = id).getLast?.map CredentialRow.secretHash
  registered : ∀ row ∈ roster.credentials,
    (row.agentID, row.orgID) ∈ roster.agents
  created : ∀ id org, (id, org) ∈ roster.agents →
    ∃ row ∈ roster.credentials, row.agentID = id ∧ row.keyID = none
  single : ∀ row ∈ roster.credentials, ∀ other ∈ roster.credentials,
    row.keyID = none → other.keyID = none → row.agentID = other.agentID →
      row = other
  standing : ∀ row ∈ roster.credentials, row.keyID = none →
    row.revoked = false

/-- Postgres carries the call out.  A new agent is one of an organization and a
principal of the database, and a new credential is one of an agent of its
organization, under a new key. -/
def Roster.Accepts (canonical : UUIDs) (roster : Roster) (occasion : Occasion) :
    CredentialCall → Prop
  | .createAgent orgID principalID _ _ _ _ =>
      canonical orgID = some orgID ∧ orgID ∈ roster.organizations ∧
        (∃ principal ∈ roster.principals,
          canonical principalID = some principal) ∧
        canonical occasion.uid = some occasion.uid ∧
        occasion.uid ∉ roster.agents.map Prod.fst ∧ occasion.rejected = false
  | .storeCredential orgID agentID keyID _ =>
      canonical orgID = some orgID ∧ orgID ∈ roster.organizations ∧
        canonical agentID = some agentID ∧ (agentID, orgID) ∈ roster.agents ∧
        ∀ row ∈ roster.credentials, row.keyID ≠ some keyID
  | .revokeCredential _ => True

/-- Postgres carries all calls out. -/
def Roster.AcceptsAll (canonical : UUIDs) :
    Roster → List (CredentialCall × Occasion) → Prop
  | _, [] => True
  | roster, call :: calls =>
      roster.Accepts canonical call.2 call.1 ∧
        AcceptsAll canonical (call.1.onPostgres canonical call.2 roster) calls

variable {occasion : Occasion}

theorem createAgent_of_accepts
    {principalID name environment secretHash : String} {groups : List String}
    (accepts : roster.Accepts canonical occasion
      (.createAgent orgID principalID name environment groups secretHash)) :
    roster.createAgent canonical occasion orgID principalID secretHash =
      { roster with
        agents := roster.agents ++ [(occasion.uid, orgID)]
        credentials := roster.credentials ++
          [{ orgID := orgID, agentID := occasion.uid, keyID := none
             secretHash := secretHash, createdAt := occasion.now
             revoked := false }] } := by
  obtain ⟨named, known, ⟨principal, listed, owner⟩, drawn, new, inserted⟩ :=
    accepts
  simp [Roster.createAgent, Roster.insertAgent, Roster.insertCredential, named,
    owner, drawn, known, listed, new, inserted]

theorem storeCredential_of_accepts {keyID secretHash : String}
    (accepts : roster.Accepts canonical occasion
      (.storeCredential orgID agentID keyID secretHash)) :
    roster.storeCredential canonical occasion orgID agentID keyID secretHash =
      { roster with
        credentials := roster.credentials ++
          [{ orgID := orgID, agentID := agentID, keyID := some keyID
             secretHash := secretHash, createdAt := occasion.now
             revoked := false }] } := by
  obtain ⟨named, known, agent, registered, unused⟩ := accepts
  have listed : agentID ∈ roster.agents.map Prod.fst :=
    List.mem_map.mpr ⟨_, registered, rfl⟩
  rw [Roster.storeCredential, Roster.insertCredential, named, agent]
  exact if_pos ⟨known, listed, .inr unused⟩

namespace Mirrors

variable {store : MemoryStore} (mirrors : Mirrors store roster)

include mirrors

theorem createAgent
    {principalID name environment secretHash : String} {groups : List String}
    (accepts : roster.Accepts canonical occasion
      (.createAgent orgID principalID name environment groups secretHash)) :
    Mirrors
      (store.createAgent occasion.uid occasion.now orgID principalID name
        environment groups secretHash).2
      (roster.createAgent canonical occasion orgID principalID secretHash) := by
  have new := accepts.2.2.2.2.1
  have unlisted : ∀ row ∈ roster.credentials, row.agentID ≠ occasion.uid := by
    intro row member named
    exact new (List.mem_map.mpr ⟨_, mirrors.registered row member, named⟩)
  rw [createAgent_of_accepts accepts]
  constructor
  · intro id org
    simp only [MemoryStore.createAgent, List.mem_append, List.mem_singleton,
      mirrors.agent, Table.get?_set, Prod.mk.injEq]
    by_cases same : id = occasion.uid
    · subst same
      have absent : ∀ agent, store.agents.get? occasion.uid ≠ some agent := by
        intro agent present
        exact new (List.mem_map.mpr
          ⟨_, (mirrors.agent _ _).mpr ⟨agent, present, rfl⟩, rfl⟩)
      simp [absent, eq_comm]
    · simp [same]
  · intro keyID ref
    simp only [MemoryStore.createAgent, mirrors.keyed, List.mem_append,
      List.mem_singleton]
    constructor
    · rintro ⟨row, member, rest⟩
      exact ⟨row, .inl member, rest⟩
    · rintro ⟨row, member | rfl, rest⟩
      · exact ⟨row, member, rest⟩
      · cases rest.1
  · intro id
    simp only [MemoryStore.createAgent, Table.get?_set, List.filter_append]
    by_cases same : id = occasion.uid
    · subst same
      simp
    · simp [same, Ne.symm same, mirrors.kept]
  · intro row member
    rcases List.mem_append.mp member with old | new
    · exact List.mem_append_left _ (mirrors.registered row old)
    · rw [List.mem_singleton.mp new]
      exact List.mem_append_right _ List.mem_cons_self
  · intro id org member
    rcases List.mem_append.mp member with old | new
    · obtain ⟨row, listed, named, created⟩ := mirrors.created id org old
      exact ⟨row, List.mem_append_left _ listed, named, created⟩
    · obtain ⟨rfl, rfl⟩ := Prod.mk.injEq _ _ _ _ ▸ List.mem_singleton.mp new
      exact ⟨_, List.mem_append_right _ List.mem_cons_self, rfl, rfl⟩
  · intro row member other listed keyless keylessToo same
    rcases List.mem_append.mp member with old | new
    · rcases List.mem_append.mp listed with oldToo | newToo
      · exact mirrors.single row old other oldToo keyless keylessToo same
      · rw [List.mem_singleton.mp newToo] at same
        exact absurd same (unlisted row old)
    · rcases List.mem_append.mp listed with oldToo | newToo
      · rw [List.mem_singleton.mp new] at same
        exact absurd same.symm (unlisted other oldToo)
      · rw [List.mem_singleton.mp new, List.mem_singleton.mp newToo]
  · intro row member keyless
    rcases List.mem_append.mp member with old | new
    · exact mirrors.standing row old keyless
    · rw [List.mem_singleton.mp new]

theorem storeCredential {keyID secretHash : String}
    (accepts : roster.Accepts canonical occasion
      (.storeCredential orgID agentID keyID secretHash)) :
    Mirrors (store.storeCredential orgID agentID keyID secretHash)
      (roster.storeCredential canonical occasion orgID agentID keyID
        secretHash) := by
  rw [storeCredential_of_accepts accepts]
  obtain ⟨_, _, _, registered, unused⟩ := accepts
  constructor
  · exact mirrors.agent
  · intro stored ref
    simp only [MemoryStore.storeCredential, Table.get?_set, List.mem_append,
      List.mem_singleton]
    by_cases same : stored = keyID
    · subst same
      rw [if_pos rfl, Option.some.injEq]
      constructor
      · intro equal
        exact ⟨_, .inr rfl, rfl, equal⟩
      · rintro ⟨row, member | rfl, named, equal⟩
        · exact absurd named (unused row member)
        · exact equal
    · rw [if_neg same, mirrors.keyed]
      constructor
      · rintro ⟨row, member, rest⟩
        exact ⟨row, .inl member, rest⟩
      · rintro ⟨row, member | rfl, named, equal⟩
        · exact ⟨row, member, named, equal⟩
        · exact absurd (Option.some.inj named).symm same
  · intro id
    simp only [MemoryStore.storeCredential, Table.get?_set, List.filter_append]
    by_cases same : id = agentID
    · subst same
      simp
    · simp [same, Ne.symm same, mirrors.kept]
  · intro row member
    rcases List.mem_append.mp member with old | new
    · exact mirrors.registered row old
    · rw [List.mem_singleton.mp new]
      exact registered
  · intro id org member
    obtain ⟨row, listed, named, created⟩ := mirrors.created id org member
    exact ⟨row, List.mem_append_left _ listed, named, created⟩
  · intro row member other listed keyless keylessToo same
    rcases List.mem_append.mp member with old | new
    · rcases List.mem_append.mp listed with oldToo | newToo
      · exact mirrors.single row old other oldToo keyless keylessToo same
      · rw [List.mem_singleton.mp newToo] at keylessToo
        cases keylessToo
    · rw [List.mem_singleton.mp new] at keyless
      cases keyless
  · intro row member keyless
    rcases List.mem_append.mp member with old | new
    · exact mirrors.standing row old keyless
    · rw [List.mem_singleton.mp new]

/-- Revoking a key changes nothing but the mark of its row. -/
theorem revokeCredential (keyID : String) :
    Mirrors (store.revokeCredential keyID).2
      (roster.revokeCredential keyID) := by
  obtain ⟨agents, credentials, keys⟩ := store.revokeCredential_tables keyID
  constructor
  · rw [agents]
    exact mirrors.agent
  · intro stored ref
    rw [keys, Option.map_eq_some_iff]
    constructor
    · rintro ⟨old, present, rfl⟩
      obtain ⟨row, member, named, rfl⟩ := (mirrors.keyed stored old).mp present
      refine ⟨row.revokedBy keyID, List.mem_map_of_mem member,
        row.keyID_revokedBy keyID ▸ named, ?_⟩
      simp only [row.ref_revokedBy keyID, named, Option.some.injEq]
    · rintro ⟨changed, listed, named, rfl⟩
      obtain ⟨row, member, rfl⟩ := List.mem_map.mp listed
      rw [row.keyID_revokedBy] at named
      refine ⟨row.ref, (mirrors.keyed stored _).mpr
        ⟨row, member, named, rfl⟩, ?_⟩
      simp only [row.ref_revokedBy keyID, named, Option.some.injEq]
  · intro id
    rw [credentials, mirrors.kept]
    change _ = ((roster.credentials.map (CredentialRow.revokedBy keyID)).filter
      fun row => row.agentID = id).getLast?.map CredentialRow.secretHash
    rw [List.filter_map, List.getLast?_map, Option.map_map]
    simp only [Function.comp_def, CredentialRow.agentID_revokedBy,
      CredentialRow.secretHash_revokedBy]
  · intro changed listed
    obtain ⟨row, member, rfl⟩ := List.mem_map.mp listed
    rw [row.agentID_revokedBy, row.orgID_revokedBy]
    exact mirrors.registered row member
  · intro id org member
    obtain ⟨row, listed, named, keyless⟩ := mirrors.created id org member
    exact ⟨row.revokedBy keyID, List.mem_map_of_mem listed,
      row.agentID_revokedBy keyID ▸ named, row.keyID_revokedBy keyID ▸ keyless⟩
  · intro changed listed changedToo listedToo keyless keylessToo same
    obtain ⟨row, member, rfl⟩ := List.mem_map.mp listed
    obtain ⟨other, memberToo, rfl⟩ := List.mem_map.mp listedToo
    rw [row.keyID_revokedBy] at keyless
    rw [other.keyID_revokedBy] at keylessToo
    rw [row.agentID_revokedBy, other.agentID_revokedBy] at same
    rw [mirrors.single row member other memberToo keyless keylessToo same]
  · intro changed listed keyless
    obtain ⟨row, member, rfl⟩ := List.mem_map.mp listed
    rw [row.keyID_revokedBy] at keyless
    rw [row.revokedBy_of_keyless keyID keyless]
    exact mirrors.standing row member keyless

/-- The tables still say what the memory store holds after an accepted call. -/
theorem onPostgres {call : CredentialCall}
    (accepts : roster.Accepts canonical occasion call) :
    Mirrors (call.onMemory occasion store)
      (call.onPostgres canonical occasion roster) := by
  cases call with
  | createAgent => exact mirrors.createAgent accepts
  | storeCredential => exact mirrors.storeCredential accepts
  | revokeCredential keyID => exact mirrors.revokeCredential keyID

omit mirrors in
theorem after {calls : List (CredentialCall × Occasion)}
    {store : MemoryStore} {roster : Roster} (mirrors : Mirrors store roster)
    (accepts : roster.AcceptsAll canonical calls) :
    Mirrors (calls.foldl (fun store call => call.1.onMemory call.2 store) store)
      (roster.after canonical calls) := by
  induction calls generalizing store roster with
  | nil => exact mirrors
  | cons call calls inductionHypothesis =>
      exact inductionHypothesis (mirrors.onPostgres accepts.1) accepts.2

end Mirrors

/-! ## Agreement -/

/-- The agent's rows in an organization. -/
def Roster.rowsOf (roster : Roster) (orgID agentID : String) :
    List CredentialRow :=
  roster.credentials.filter fun row =>
    row.orgID = orgID ∧ row.agentID = agentID

/-- No keyed credential of the agent is revoked, and all of them have the same
hash.  It is also the hash that the agent was created with, unless some keyed
credential is newer than the agent. -/
def Roster.Steady (roster : Roster) (orgID agentID : String) : Prop :=
  ∀ row ∈ roster.rowsOf orgID agentID, row.keyID ≠ none →
    row.revoked = false ∧ ∀ other ∈ roster.rowsOf orgID agentID,
      other.secretHash = row.secretHash ∨
        (other.keyID = none ∧ ∃ later ∈ roster.rowsOf orgID agentID,
          later.keyID ≠ none ∧ other.createdAt < later.createdAt)

theorem mem_rowsOf {row : CredentialRow} :
    row ∈ roster.rowsOf orgID agentID ↔ row ∈ roster.credentials ∧
      row.orgID = orgID ∧ row.agentID = agentID := by
  rw [Roster.rowsOf, List.mem_filter, decide_eq_true_eq]

namespace Mirrors

variable {store : MemoryStore} (mirrors : Mirrors store roster)

include mirrors

/-- All rows of an agent are in its organization. -/
theorem mem_rowsOf_of_registered (registered : (agentID, orgID) ∈ roster.agents)
    {row : CredentialRow} (member : row ∈ roster.credentials)
    (same : row.agentID = agentID) : row ∈ roster.rowsOf orgID agentID := by
  obtain ⟨agent, present, owned⟩ := (mirrors.agent _ _).mp registered
  obtain ⟨other, presentToo, ownedToo⟩ :=
    (mirrors.agent _ _).mp (mirrors.registered row member)
  rw [same, present, Option.some.injEq] at presentToo
  refine mem_rowsOf.mpr ⟨member, ?_, same⟩
  rw [← ownedToo, ← presentToo, owned]

theorem registered_of_rowsOf {row : CredentialRow}
    (listed : row ∈ roster.rowsOf orgID agentID) :
    (agentID, orgID) ∈ roster.agents := by
  obtain ⟨member, rfl, rfl⟩ := mem_rowsOf.mp listed
  exact mirrors.registered row member

/-- The row with which an agent was created. -/
theorem exists_keyless (registered : (agentID, orgID) ∈ roster.agents) :
    ∃ first ∈ roster.rowsOf orgID agentID,
      first.keyID = none ∧ first.revoked = false := by
  obtain ⟨first, created, same, keyless⟩ := mirrors.created _ _ registered
  exact ⟨first, mirrors.mem_rowsOf_of_registered registered created same,
    keyless, mirrors.standing first created keyless⟩

/-- The keyed credentials of an agent are those of its rows that have a key. -/
theorem exists_row {keyID : String} {ref : CredRef}
    (present : store.credByKey.get? keyID = some ref)
    (owned : ref.orgID = orgID) (same : ref.agentID = agentID) :
    ∃ row ∈ roster.rowsOf orgID agentID, row.keyID = some keyID ∧
      row.ref = ref := by
  obtain ⟨row, member, key, rfl⟩ := (mirrors.keyed keyID ref).mp present
  exact ⟨row, mem_rowsOf.mpr ⟨member, owned, same⟩, key, rfl⟩

variable (named : canonical orgID = some orgID)
  (distinct : (roster.credentials.map CredentialRow.createdAt).Nodup)

include named

omit mirrors in
theorem mem_valid_of_rowsOf {row : CredentialRow}
    (listed : row ∈ roster.rowsOf orgID agentID)
    (standing : row.revoked = false) : row ∈ roster.valid canonical orgID := by
  obtain ⟨member, owned, _⟩ := mem_rowsOf.mp listed
  exact mem_valid.mpr ⟨member, owned ▸ named, standing⟩

omit mirrors in
theorem mem_rowsOf_of_valid {row : CredentialRow}
    (valid : row ∈ roster.valid canonical orgID)
    (same : row.agentID = agentID) : row ∈ roster.rowsOf orgID agentID := by
  obtain ⟨member, owned, _⟩ := mem_valid.mp valid
  rw [named, Option.some.injEq] at owned
  exact mem_rowsOf.mpr ⟨member, owned.symm, same⟩

include distinct

/-- If the two stores list one hash, the agent's credentials are steady. -/
theorem steady {found : Option String}
    (leaves : store.Leaves orgID agentID found)
    (newest : roster.Newest canonical orgID agentID found) :
    roster.Steady orgID agentID := by
  intro row listed keyed
  obtain ⟨first, created, keyless, standing⟩ :=
    mirrors.exists_keyless (mirrors.registered_of_rowsOf listed)
  -- The row with which the agent was created is valid, so there is a newest.
  cases found with
  | none =>
      have valid := mem_valid_of_rowsOf named created standing
      exact absurd (mem_rowsOf.mp created).2.2 (newest first valid)
  | some hash =>
      obtain ⟨last, valid, same, rfl, latest⟩ := newest
      have hashed : ∀ other ∈ roster.rowsOf orgID agentID,
          other.keyID ≠ none →
            other.revoked = false ∧ other.secretHash = last.secretHash := by
        intro other listed keyed
        obtain ⟨member, owned, agent⟩ := mem_rowsOf.mp listed
        obtain ⟨keyID, key⟩ := Option.ne_none_iff_exists'.mp keyed
        have present := (mirrors.keyed keyID other.ref).mpr
          ⟨other, member, key, rfl⟩
        exact CredRef.current_eq_some.mp
          (leaves.1 keyID other.ref present owned agent)
      refine ⟨(hashed row listed keyed).1, ?_⟩
      intro other listedToo
      rw [(hashed row listed keyed).2]
      by_cases keylessToo : other.keyID = none
      swap
      · exact .inl (hashed other listedToo keylessToo).2
      have lastListed := mem_rowsOf_of_valid named valid same
      obtain ⟨member, _, agent⟩ := mem_rowsOf.mp listedToo
      obtain ⟨lastMember, _, _⟩ := mem_rowsOf.mp lastListed
      by_cases lastKeyless : last.keyID = none
      · left
        rw [mirrors.single other member last lastMember keylessToo lastKeyless
          (agent.trans same.symm)]
      · refine .inr ⟨keylessToo, last, lastListed, lastKeyless, ?_⟩
        have early := latest other (mem_valid_of_rowsOf named listedToo
          (mirrors.standing other member keylessToo)) agent
        refine lt_of_le_of_ne early fun simultaneous => lastKeyless ?_
        rw [← List.inj_on_of_nodup_map distinct member lastMember simultaneous]
        exact keylessToo

/-- If the agent's credentials are steady, the two stores list one hash. -/
theorem exists_of_steady (steady : roster.Steady orgID agentID) :
    ∃ found, store.Leaves orgID agentID found ∧
      roster.Newest canonical orgID agentID found := by
  refine ⟨_, ?_, (get?_eq_iff_newest distinct).mp rfl⟩
  have newest := (@get?_eq_iff_newest canonical roster orgID agentID distinct
    _).mp rfl
  revert newest
  cases (roster.agentCredentialHashes canonical orgID).get? agentID with
  | none =>
      intro none
      have unregistered : (agentID, orgID) ∉ roster.agents := by
        intro registered
        obtain ⟨first, created, _, standing⟩ :=
          mirrors.exists_keyless registered
        exact none first (mem_valid_of_rowsOf named created standing)
          (mem_rowsOf.mp created).2.2
      constructor
      · intro keyID ref present owned same
        obtain ⟨row, listed, _⟩ := mirrors.exists_row present owned same
        exact absurd (mirrors.registered_of_rowsOf listed) unregistered
      · intro _
        cases found : store.getAgent orgID agentID with
        | none => rfl
        | some agent =>
            obtain ⟨present, owned⟩ := MemoryStore.getAgent_eq_some.mp found
            exact absurd ((mirrors.agent _ _).mpr ⟨agent, present, owned⟩)
              unregistered
  | some hash =>
      rintro ⟨last, valid, same, rfl, latest⟩
      have listed := mem_rowsOf_of_valid named valid same
      have registered := mirrors.registered_of_rowsOf listed
      constructor
      · intro keyID ref present owned agent
        obtain ⟨row, member, key, rfl⟩ := mirrors.exists_row present owned agent
        obtain ⟨standing, alike⟩ := steady row member (by simp [key])
        refine CredRef.current_eq_some.mpr ⟨standing, ?_⟩
        rcases alike last listed with equal | ⟨_, later, laterListed, keyed, less⟩
        · exact equal.symm
        · -- the later one is valid as well, so the last is not the newest
          have standingToo := (steady later laterListed keyed).1
          have early := latest later
            (mem_valid_of_rowsOf named laterListed standingToo)
            (mem_rowsOf.mp laterListed).2.2
          exact absurd less (not_lt_of_ge early)
      · intro unkeyed
        have keyless : ∀ row ∈ roster.rowsOf orgID agentID,
            row.keyID = none := by
          intro row member
          by_contra keyed
          obtain ⟨keyID, key⟩ := Option.ne_none_iff_exists'.mp keyed
          obtain ⟨stored, owned, agent⟩ := mem_rowsOf.mp member
          exact unkeyed keyID row.ref ((mirrors.keyed keyID row.ref).mpr
            ⟨row, stored, key, rfl⟩) owned agent
        obtain ⟨agent, present, owned⟩ := (mirrors.agent _ _).mp registered
        have found := MemoryStore.getAgent_eq_some.mpr ⟨present, owned⟩
        rw [found, Option.bind_some, mirrors.kept]
        obtain ⟨member, _⟩ := mem_rowsOf.mp listed
        have own : last ∈ roster.credentials.filter fun row =>
            row.agentID = agentID :=
          List.mem_filter.mpr ⟨member, decide_eq_true same⟩
        obtain ⟨final, ends⟩ := Option.ne_none_iff_exists'.mp fun none =>
          List.ne_nil_of_mem own (List.getLast?_eq_none_iff.mp none)
        obtain ⟨finalMember, finalSame⟩ :=
          List.mem_filter.mp (List.mem_of_getLast? ends)
        have finalListed := mirrors.mem_rowsOf_of_registered registered
          finalMember (of_decide_eq_true finalSame)
        rw [ends, mirrors.single final finalMember last member
          (keyless final finalListed) (keyless last listed)
          ((of_decide_eq_true finalSame).trans same.symm)]
        rfl

end Mirrors

/-! ## Creation times -/

theorem createdAt_insertCredential (canonical : UUIDs) (roster : Roster)
    (orgID agentID : String) (keyID : Option String) (secretHash : String)
    (now : Time) :
    ∃ added : List Time, added.Sublist [now] ∧
      (roster.insertCredential canonical orgID agentID keyID secretHash
        now).credentials.map CredentialRow.createdAt =
        roster.credentials.map CredentialRow.createdAt ++ added := by
  unfold Roster.insertCredential
  split
  · split
    · exact ⟨[now], .refl _, by simp⟩
    · exact ⟨[], List.nil_sublist _, by simp⟩
  · exact ⟨[], List.nil_sublist _, by simp⟩

theorem credentials_insertAgent (canonical : UUIDs) (roster : Roster)
    (id orgID principalID : String) :
    (roster.insertAgent canonical id orgID principalID).credentials =
      roster.credentials := by
  unfold Roster.insertAgent
  split
  · split <;> rfl
  · rfl

theorem CredentialRow.createdAt_revokedBy (keyID : String)
    (row : CredentialRow) : (row.revokedBy keyID).createdAt = row.createdAt := by
  rw [revokedBy_eq]

/-- A call adds at most one row, with the time of the call. -/
theorem createdAt_onPostgres (canonical : UUIDs) (roster : Roster)
    (call : CredentialCall × Occasion) :
    ∃ added : List Time, added.Sublist [call.2.now] ∧
      (call.1.onPostgres canonical call.2 roster).credentials.map
        CredentialRow.createdAt =
        roster.credentials.map CredentialRow.createdAt ++ added := by
  obtain ⟨call, occasion⟩ := call
  cases call with
  | createAgent orgID principalID name environment groups secretHash =>
      have same : (if occasion.rejected then roster
          else roster.insertAgent canonical occasion.uid orgID
            principalID).credentials = roster.credentials := by
        split
        · rfl
        · exact credentials_insertAgent canonical roster _ _ _
      obtain ⟨added, single, times⟩ := createdAt_insertCredential canonical
        (if occasion.rejected then roster
          else roster.insertAgent canonical occasion.uid orgID principalID)
        orgID occasion.uid none secretHash occasion.now
      rw [same] at times
      exact ⟨added, single, times⟩
  | storeCredential orgID agentID keyID secretHash =>
      exact createdAt_insertCredential canonical roster orgID agentID
        (some keyID) secretHash occasion.now
  | revokeCredential keyID =>
      refine ⟨[], List.nil_sublist _, ?_⟩
      change (roster.credentials.map (CredentialRow.revokedBy keyID)).map
        CredentialRow.createdAt = _
      simp [Function.comp_def, CredentialRow.createdAt_revokedBy]

theorem createdAt_after (canonical : UUIDs) (roster : Roster)
    (calls : List (CredentialCall × Occasion)) :
    ∃ added : List Time, added.Sublist (calls.map fun call => call.2.now) ∧
      (roster.after canonical calls).credentials.map CredentialRow.createdAt =
        roster.credentials.map CredentialRow.createdAt ++ added := by
  induction calls generalizing roster with
  | nil => exact ⟨[], .refl _, by simp [Roster.after]⟩
  | cons call calls inductionHypothesis =>
      obtain ⟨first, single, start⟩ := createdAt_onPostgres canonical roster call
      obtain ⟨rest, sublist, times⟩ :=
        inductionHypothesis (call.1.onPostgres canonical call.2 roster)
      refine ⟨first ++ rest, single.append sublist, ?_⟩
      change ((call.1.onPostgres canonical call.2 roster).after canonical
        calls).credentials.map CredentialRow.createdAt = _
      rw [times, start, List.append_assoc]

theorem Mirrors.unstaffed (organizations principals : List String) :
    Mirrors MemoryStore.new (Roster.unstaffed organizations principals) := by
  constructor <;> simp [MemoryStore.new, Roster.unstaffed]

/-- After any calls with distinct creation times, the two stores agree exactly
if what the memory store holds for each agent is one hash, that of the newest
valid row.  If Postgres carries the calls out, this means that the credentials
of each agent are steady. -/
theorem hashes_agree_iff (canonical : UUIDs)
    (organizations principals : List String)
    (calls : List (CredentialCall × Occasion))
    (distinct : (calls.map fun call => call.2.now).Nodup) (orgID : String) :
    let store := memoryAfter calls
    let unstaffed := Roster.unstaffed organizations principals
    let roster := unstaffed.after canonical calls
    (Agrees store canonical roster orgID ↔ ∀ agentID, ∃ found,
      store.Leaves orgID agentID found ∧
        roster.Newest canonical orgID agentID found) ∧
    (unstaffed.AcceptsAll canonical calls → canonical orgID = some orgID →
      (Agrees store canonical roster orgID ↔
        ∀ agentID, roster.Steady orgID agentID)) := by
  intro store unstaffed roster
  have times : (roster.credentials.map CredentialRow.createdAt).Nodup := by
    obtain ⟨added, sublist, listed⟩ := createdAt_after canonical unstaffed calls
    rw [show roster.credentials.map CredentialRow.createdAt = added from listed]
    exact distinct.sublist sublist
  have settled : Agrees store canonical roster orgID ↔ ∀ agentID, ∃ found,
      store.Leaves orgID agentID found ∧
        roster.Newest canonical orgID agentID found := by
    constructor
    · intro agrees agentID
      exact ⟨_, MemoryStore.get?_eq_iff_leaves.mp fun rank =>
        agrees rank agentID, (get?_eq_iff_newest times).mp rfl⟩
    · intro settled rank agentID
      obtain ⟨found, leaves, newest⟩ := settled agentID
      rw [MemoryStore.get?_eq_iff_leaves.mpr leaves rank,
        (get?_eq_iff_newest times).mpr newest]
  refine ⟨settled, fun accepts named => settled.trans ?_⟩
  have mirrors : Mirrors store roster :=
    (Mirrors.unstaffed organizations principals).after accepts
  constructor
  · intro all agentID
    obtain ⟨found, leaves, newest⟩ := all agentID
    exact mirrors.steady named times leaves newest
  · intro all agentID
    exact mirrors.exists_of_steady named times (all agentID)

end Postgres

namespace Sample

/-- An agent is registered: it is created, and its credential is stored. -/
def registering : List (CredentialCall × Occasion) :=
  [(.createAgent "acme" "owner" "bot" "production" [] "h1",
      { uid := "bot", now := 1, rejected := false }),
    (.storeCredential "acme" "bot" "k1" "h1",
      { uid := "", now := 2, rejected := false })]

/-- Then its credential is rotated. -/
def rotating : List (CredentialCall × Occasion) :=
  registering ++ [(.storeCredential "acme" "bot" "k2" "h2",
    { uid := "", now := 3, rejected := false })]

/-- Or it is revoked. -/
def revokingFirst : List (CredentialCall × Occasion) :=
  registering ++ [(.revokeCredential "k1",
    { uid := "", now := 3, rejected := false })]

/-- Postgres after the calls, with every text as an identifier. -/
def rosterAfter (calls : List (CredentialCall × Occasion)) : Postgres.Roster :=
  (Postgres.Roster.unstaffed ["acme"] ["owner"]).after some calls

end Sample

/-- The hash of a registered agent is the same in both stores. -/
theorem hashes_agree_iff_registered :
    (Sample.registering.map fun call => call.2.now).Nodup ∧
      Postgres.Agrees (memoryAfter Sample.registering) some
        (Sample.rosterAfter Sample.registering) "acme" := by
  have distinct : (Sample.registering.map fun call => call.2.now).Nodup := by
    decide
  refine ⟨distinct, ?_⟩
  refine ((Postgres.hashes_agree_iff some ["acme"] ["owner"] Sample.registering
    distinct "acme").2 ?_ rfl).mpr ?_
  · exact ⟨⟨rfl, by decide, ⟨"owner", by decide, rfl⟩, rfl, by decide, rfl⟩,
      ⟨rfl, by decide, rfl, by decide, by decide⟩, trivial⟩
  · have alike : ∀ row ∈ (Sample.rosterAfter Sample.registering).credentials,
        row.revoked = false ∧ row.secretHash = "h1" := by decide
    intro agentID row listed _
    obtain ⟨member, _⟩ := Postgres.mem_rowsOf.mp listed
    refine ⟨(alike row member).1, ?_⟩
    intro other listedToo
    obtain ⟨memberToo, _⟩ := Postgres.mem_rowsOf.mp listedToo
    exact .inl ((alike other memberToo).2.trans (alike row member).2.symm)

/-- After a rotation the memory store lists either hash, depending on the order
in which it visits its keys.  After a revocation it lists none, while Postgres
still lists the hash that the agent was created with. -/
theorem rotated_and_revoked_hashes :
    let agree (calls : List (CredentialCall × Occasion)) :=
      Postgres.Agrees (memoryAfter calls) some (Sample.rosterAfter calls) "acme"
    (Sample.rotating.map fun call => call.2.now).Nodup ∧
      ¬ agree Sample.rotating ∧
      (Sample.revokingFirst.map fun call => call.2.now).Nodup ∧
      ¬ agree Sample.revokingFirst := by
  refine ⟨by decide, ?_, by decide, ?_⟩
  · intro agrees
    let rank (key : String) : Nat := if key = "k1" then 1 else 0
    have listed : ((memoryAfter Sample.rotating).agentCredentialHashes rank
          "acme").get? "bot" = some "h1" ∧
        ((Sample.rosterAfter Sample.rotating).agentCredentialHashes some
          "acme").get? "bot" = some "h2" := by
      decide +kernel
    have equal := agrees rank "bot"
    rw [listed.1, listed.2] at equal
    exact absurd equal (by decide)
  · intro agrees
    have listed : ((memoryAfter Sample.revokingFirst).agentCredentialHashes
          (fun _ => 0) "acme").get? "bot" = none ∧
        ((Sample.rosterAfter Sample.revokingFirst).agentCredentialHashes some
          "acme").get? "bot" = some "h1" := by
      decide +kernel
    have equal := agrees (fun _ => 0) "bot"
    rw [listed.1, listed.2] at equal
    cases equal

end SettleAgent
