import SettleAgent.Data.Hex
import SettleAgent.Tenancy.Reachable

/-!
# Runs of the HTTP handlers

The gateway behind its middleware.  It is set up, a request is taken in when
its secret is verified, and the handlers of the requests under way advance call
by call in any order.  A log keeps the hashes that have been stored and the
keys that have been revoked.

What a secret is verified against has been stored for the agent in the
organization that it is verified for, and a key that has been revoked stays
revoked.
-/

namespace SettleAgent

open Interaction

variable {check : String → String → Bool} {config : Config}

/-! ## Issued secrets -/

/-- The secret that `NewAgentSecret` makes of its random bytes, with the hash of
that secret. -/
def newAgentSecret (key random : List UInt8) (hash : String) : AgentSecret where
  keyID := hexEncode key
  secret := "st_" ++ hexEncode key ++ "_" ++ hexEncode random
  hash := hash

/-- The secret may have come from `NewAgentSecret`. -/
def AgentSecret.Drawn (issued : AgentSecret) : Prop :=
  ∃ key random hash, key.length = 6 ∧ random.length = 24 ∧
    issued = newAgentSecret key random hash

theorem AgentSecret.Drawn.plain {issued : AgentSecret} (drawn : issued.Drawn) :
    '_' ∉ issued.keyID.toList := by
  obtain ⟨key, random, hash, _, _, rfl⟩ := drawn
  exact notMem_hexEncode (by decide) key

/-! ## Runs -/

/-- What a run notes about credentials. -/
inductive CredentialEvent : Type
  | stored (orgID agentID hash : String)
  | revoked (keyID : String)
  deriving DecidableEq

/-- What a call and its reply add to the log. -/
def Call.notes : (request : Call) → request.Resp → List CredentialEvent
  | .createAgent orgID _ _ _ _ secretHash, agent =>
      [.stored orgID agent.id secretHash]
  | .storeCredential orgID agentID _ secretHash, _ =>
      [.stored orgID agentID secretHash]
  | .revokeCredential keyID, true => [.revoked keyID]
  | _, _ => []

/-- What a chore adds to the log. -/
def Chore.notes (env : Env) : Chore → List CredentialEvent
  | createAgent orgID _ _ _ _ secretHash => [.stored orgID env.uid secretHash]
  | _ => []

/-- The chore sets the gateway up for an organization of the store.  Keyed
credentials are left to the handlers. -/
def Chore.SetsUp (store : MemoryStore) (env : Env) : Chore → Prop
  | seedOrg _ _ _ => Plain env.uid
  | createAgent orgID _ _ _ _ _ =>
      (store.orgs.get? orgID).isSome ∧ store.agents.get? env.uid = none
  | createOperatorToken orgID _ _ _ => (store.orgs.get? orgID).isSome
  | storeCredential _ _ _ _ => False
  | setPolicies _ _ | setKeyProvider _ | authenticate _ _ => True

/-- The site after the middleware has verified a secret and passed the request
on to its handler. -/
def Site.received (check : String → String → Bool) (config : Config)
    (site : Site) (thread : Nat) (incoming : Api.Incoming) (env : Env)
    (secret : String) (identity : Api.Identity) : Site :=
  (site.tended check (.authenticate secret incoming.headerOrg) env).admitted
    config thread (.http (incoming.verified identity))

/-- The states of a gateway that starts with a new store, each with the log of
the run that leads to it. -/
inductive Runs (check : String → String → Bool) (config : Config) :
    Site → List CredentialEvent → Prop
  | start {world : World} (new : world.store = MemoryStore.new) :
      Runs check config ⟨world, fun _ => none, []⟩ []
  | tended {site : Site} {log : List CredentialEvent}
      (runs : Runs check config site log) {chore : Chore} {env : Env}
      (setsUp : chore.SetsUp site.world.store env) :
      Runs check config (site.tended check chore env) (chore.notes env ++ log)
  | received {site : Site} {log : List CredentialEvent}
      (runs : Runs check config site log) {thread : Nat}
      (idle : site.running thread = none) {incoming : Api.Incoming} {env : Env}
      {secret : String} (presented : incoming.secret = some secret)
      {identity : Api.Identity}
      (authentic : (Api.authenticate check site.world.store env secret
        incoming.headerOrg).1 = some identity) :
      Runs check config
        (site.received check config thread incoming env secret identity) log
  | advanced {site : Site} {log : List CredentialEvent}
      (runs : Runs check config site log)
      {thread : Nat} {orgID : String} {request : Call}
      {next : request.Resp → Gate Outcome}
      (running : site.running thread = some (orgID, .call request next))
      {env : Env} (generates : Generates site.world env)
      (drawn : ∀ issued, env.agentSecret = some issued → issued.Drawn)
      (undrawn : ∀ keyID ∈ request.issues
        (exec config request env site.world).1, keyID ∉ site.drawn) :
      Runs check config (site.advanced config thread orgID request next env)
        (request.notes (exec config request env site.world).1 ++ log)

/-! ## The tables behind authentication -/

/-- The calls that change the directory. -/
def Call.Enrolls : Call → Prop
  | .createAgent _ _ _ _ _ _ | .storeCredential _ _ _ _
  | .revokeCredential _ => True
  | _ => False

variable {request : Call}

theorem directory_exec (untouched : ¬ request.Enrolls)
    (config : Config) (env : Env) (world : World) :
    (exec config request env world).2.store.directory =
      world.store.directory := by
  by_cases admits : request.Admits
  swap
  · exact (admitted_exec config env world admits).1
  cases request with
  | upsertMCPServer server authToken => rfl
  | _ => first | exact absurd trivial untouched | exact admits.elim

/-- The log accounts for the directory.  Keys have no separator in them, and
organizations are named by plain identifiers. -/
structure Accounts (directory : Directory) (drawn : List String)
    (log : List CredentialEvent) : Prop where
  org : ∀ id org, directory.orgs.get? id = some org → Plain id
  token : ∀ keyID token, directory.opTokens.get? keyID = some token →
    Plain token.orgID
  agent : ∀ id agent, directory.agents.get? id = some agent →
    Plain agent.orgID
  legacy : ∀ id agent hash, directory.agents.get? id = some agent →
    directory.credentials.get? id = some hash →
      .stored agent.orgID id hash ∈ log
  ref : ∀ keyID ref, directory.credByKey.get? keyID = some ref →
    '_' ∉ keyID.toList ∧ Plain ref.orgID ∧
      .stored ref.orgID ref.agentID ref.hash ∈ log
  revoked : ∀ keyID, .revoked keyID ∈ log → ∃ ref,
    directory.credByKey.get? keyID = some ref ∧ ref.revoked = true
  drawn : ∀ keyID ∈ drawn, '_' ∉ keyID.toList

namespace Accounts

variable {directory : Directory} {drawn : List String}
  {log : List CredentialEvent} (accounted : Accounts directory drawn log)

include accounted

/-- A registered agent, with the hash it is registered with. -/
theorem createAgent {agent : Agent} (plain : Plain agent.orgID)
    (id hash : String) :
    Accounts { directory with
      agents := directory.agents.set id agent
      credentials := directory.credentials.set id hash } drawn
      (.stored agent.orgID id hash :: log) where
  org := accounted.org
  token := accounted.token
  agent := Table.forall_get?_set (fun other stored _ present =>
    accounted.agent other stored present) plain
  legacy := by
    intro other stored kept present found
    simp only [Table.get?_set] at present found
    by_cases same : other = id
    · rw [if_pos same, Option.some.injEq] at present found
      rw [← present, ← found, same]
      exact List.mem_cons_self
    · rw [if_neg same] at present found
      exact List.mem_cons_of_mem _ (accounted.legacy _ _ _ present found)
  ref := by
    intro keyID ref present
    obtain ⟨key, org, noted⟩ := accounted.ref keyID ref present
    exact ⟨key, org, List.mem_cons_of_mem _ noted⟩
  revoked := by
    intro keyID noted
    exact accounted.revoked keyID (List.mem_of_ne_of_mem (by simp) noted)
  drawn := accounted.drawn

/-- A new credential of a registered agent. -/
theorem storeCredential {agent : Agent} {agentID keyID : String}
    (registered : directory.agents.get? agentID = some agent)
    (plain : '_' ∉ keyID.toList)
    (unused : directory.credByKey.get? keyID = none) (hash : String) :
    Accounts { directory with
      credByKey := directory.credByKey.set keyID
        { orgID := agent.orgID, agentID := agentID, hash := hash }
      credentials := directory.credentials.set agentID hash } drawn
      (.stored agent.orgID agentID hash :: log) where
  org := accounted.org
  token := accounted.token
  agent := accounted.agent
  legacy := by
    intro other stored kept present found
    change directory.agents.get? other = some stored at present
    rw [Table.get?_set] at found
    by_cases same : other = agentID
    · rw [if_pos same, Option.some.injEq] at found
      rw [same, registered, Option.some.injEq] at present
      rw [same, ← present, ← found]
      exact List.mem_cons_self
    · rw [if_neg same] at found
      exact List.mem_cons_of_mem _ (accounted.legacy _ _ _ present found)
  ref := by
    refine Table.forall_get?_set (fun other ref _ present => ?_) ?_
    · obtain ⟨key, org, noted⟩ := accounted.ref other ref present
      exact ⟨key, org, List.mem_cons_of_mem _ noted⟩
    · exact ⟨plain, accounted.agent _ _ registered, List.mem_cons_self⟩
  revoked := by
    intro other noted
    obtain ⟨ref, present, revoked⟩ :=
      accounted.revoked other (List.mem_of_ne_of_mem (by simp) noted)
    refine ⟨ref, (Table.get?_set_of_ne _ _ ?_).trans present, revoked⟩
    rintro rfl
    rw [unused] at present
    cases present
  drawn := accounted.drawn

/-- A credential that is used or revoked: its agent and hash stay. -/
theorem setCredential {keyID : String} {ref changed : CredRef}
    (present : directory.credByKey.get? keyID = some ref)
    (owner : changed.orgID = ref.orgID) (agent : changed.agentID = ref.agentID)
    (hash : changed.hash = ref.hash)
    (revoked : ref.revoked = true → changed.revoked = true) :
    Accounts { directory with
      credByKey := directory.credByKey.set keyID changed } drawn log where
  org := accounted.org
  token := accounted.token
  agent := accounted.agent
  legacy := accounted.legacy
  ref := by
    refine Table.forall_get?_set (fun other ref _ => accounted.ref other ref) ?_
    rw [owner, agent, hash]
    exact accounted.ref keyID ref present
  revoked := by
    intro other noted
    obtain ⟨old, found, gone⟩ := accounted.revoked other noted
    by_cases same : other = keyID
    · subst same
      rw [present, Option.some.injEq] at found
      exact ⟨changed, Table.get?_set_self _ _ _, revoked (found ▸ gone)⟩
    · exact ⟨old, (Table.get?_set_of_ne _ _ same).trans found, gone⟩
  drawn := accounted.drawn

/-- A credential that is noted as revoked. -/
theorem noteRevoked {keyID : String} {ref : CredRef}
    (present : directory.credByKey.get? keyID = some ref)
    (revoked : ref.revoked = true) :
    Accounts directory drawn (.revoked keyID :: log) where
  org := accounted.org
  token := accounted.token
  agent := accounted.agent
  legacy := fun _ _ _ present found =>
    List.mem_cons_of_mem _ (accounted.legacy _ _ _ present found)
  ref := by
    intro keyID ref present
    obtain ⟨key, org, noted⟩ := accounted.ref keyID ref present
    exact ⟨key, org, List.mem_cons_of_mem _ noted⟩
  revoked := by
    intro other noted
    rcases List.mem_cons.mp noted with same | old
    · rw [CredentialEvent.revoked.injEq] at same
      exact ⟨ref, same ▸ present, revoked⟩
    · exact accounted.revoked other old
  drawn := accounted.drawn

theorem createOperatorToken {token : OpToken} (plain : Plain token.orgID)
    (keyID : String) :
    Accounts { directory with
      opTokens := directory.opTokens.set keyID token } drawn log :=
  { accounted with
    token := Table.forall_get?_set (fun other stored _ present =>
      accounted.token other stored present) plain }

theorem seedOrg {id : String} (plain : Plain id) (org : Organization) :
    Accounts { directory with orgs := directory.orgs.set id org }
      drawn log :=
  { accounted with
    org := Table.forall_get?_set (fun other stored _ present =>
      accounted.org other stored present) plain }

theorem drawKeys {keys : List String} (plain : ∀ keyID ∈ keys,
    '_' ∉ keyID.toList) : Accounts directory (keys ++ drawn) log :=
  { accounted with
    drawn := fun keyID member => (List.mem_append.mp member).elim
      (plain keyID) (accounted.drawn keyID) }

end Accounts

/-! ## Chores and calls -/

variable {site : Site} {log : List CredentialEvent}

/-- The log accounts for the site's store. -/
def Site.Accounted (site : Site) (log : List CredentialEvent) : Prop :=
  Accounts site.world.store.directory site.drawn log

/-- Checking a secret only notes its use. -/
theorem Site.Accounted.authenticate (accounted : site.Accounted log)
    (env : Env) (secret headerOrg : String) :
    (site.tended check (.authenticate secret headerOrg) env).Accounted log := by
  unfold Site.Accounted Site.tended
  dsimp only [Chore.run]
  rcases authenticate_cases site.world.store env secret headerOrg with same |
    ⟨keyID, ref, identity, _, present, _, touched⟩ |
    ⟨keyID, token, identity, _, present, _, touched⟩
  · rw [same]
    exact accounted
  · rw [touched, MemoryStore.touchCredential, present]
    exact accounted.setCredential present rfl rfl rfl fun gone => gone
  · rw [touched, MemoryStore.touchOperatorToken, present]
    have plain : Plain ({ token with lastUsed := env.now } : OpToken).orgID :=
      accounted.token keyID token present
    exact accounted.createOperatorToken plain keyID

theorem Site.Accounted.tended (accounted : site.Accounted log) {chore : Chore}
    {env : Env} (setsUp : chore.SetsUp site.world.store env) :
    (site.tended check chore env).Accounted (chore.notes env ++ log) := by
  have known : ∀ orgID, (site.world.store.orgs.get? orgID).isSome →
      Plain orgID := by
    intro orgID seeded
    obtain ⟨org, present⟩ := Option.isSome_iff_exists.mp seeded
    exact accounted.org orgID org present
  cases chore with
  | seedOrg principalUID name later => exact accounted.seedOrg setsUp _
  | createAgent orgID principalID name environment groups secretHash =>
      exact accounted.createAgent (known orgID setsUp.1) env.uid secretHash
  | storeCredential orgID agentID keyID secretHash => exact setsUp.elim
  | createOperatorToken orgID name keyID secretHash =>
      exact accounted.createOperatorToken (known orgID setsUp) keyID
  | setPolicies orgID rules =>
      unfold Site.Accounted Site.tended
      simp only [Chore.run, MemoryStore.setPolicies,
        MemoryStore.activatePolicySet]
      split <;> exact accounted
  | setKeyProvider provider => exact accounted
  | authenticate secret headerOrg =>
      exact accounted.authenticate env secret headerOrg

/-- A key that a call issues is that of the secret drawn for it. -/
theorem agentSecret_of_issues {env : Env} {world : World}
    {keyID : String}
    (member : keyID ∈ request.issues (exec config request env world).1) :
    ∃ issued, env.agentSecret = some issued ∧ issued.keyID = keyID := by
  cases request with
  | newAgentSecret =>
      change keyID ∈ Call.issues .newAgentSecret env.agentSecret at member
      cases issued : env.agentSecret with
      | none =>
          rw [issued] at member
          cases member
      | some secret =>
          rw [issued] at member
          exact ⟨secret, rfl, (List.mem_singleton.mp member).symm⟩
  | _ => cases member

theorem notes_eq_nil (untouched : ¬ request.Enrolls)
    (reply : request.Resp) : request.notes reply = [] := by
  cases request with
  | createAgent => exact absurd trivial untouched
  | storeCredential => exact absurd trivial untouched
  | revokeCredential => exact absurd trivial untouched
  | _ => rfl

theorem Site.Accounted.advanced (accounted : site.Accounted log)
    {known : Nat → Holdings} (sound : site.Sound known)
    {thread : Nat} {orgID : String}
    {next : request.Resp → Gate Outcome}
    (running : site.running thread = some (orgID, .call request next))
    {env : Env}
    (drawn : ∀ issued, env.agentSecret = some issued → issued.Drawn) :
    (site.advanced config thread orgID request next env).Accounted
      (request.notes (exec config request env site.world).1 ++ log) := by
  obtain ⟨plain, ⟨may, _⟩, holds⟩ := sound.thread _ _ _ running
  have keys : ∀ keyID ∈ request.issues (exec config request env site.world).1,
      '_' ∉ keyID.toList := by
    intro keyID member
    obtain ⟨issued, found, rfl⟩ := agentSecret_of_issues member
    exact (drawn issued found).plain
  refine Accounts.drawKeys ?_ keys
  by_cases enrolls : request.Enrolls
  swap
  · rw [notes_eq_nil enrolls]
    change Accounts (exec config request env site.world).2.store.directory _ _
    rw [directory_exec enrolls]
    exact accounted
  cases request with
  | createAgent owner principalID name environment groups secretHash =>
      obtain rfl := may
      exact accounted.createAgent plain env.uid secretHash
  | storeCredential owner agentID keyID secretHash =>
      obtain ⟨rfl, agents, issued⟩ := may
      obtain ⟨agent, registered, owned⟩ := holds.agents agentID agents
      have stored := accounted.storeCredential registered
        (accounted.drawn keyID (sound.drawn thread keyID issued))
        (holds.issued keyID issued) secretHash
      rw [owned] at stored
      exact stored
  | revokeCredential keyID =>
      change Accounts (site.world.store.revokeCredential keyID).2.directory _
        (Call.notes (.revokeCredential keyID)
          (site.world.store.revokeCredential keyID).1 ++ log)
      cases found : site.world.store.getCredential keyID with
      | none =>
          rw [MemoryStore.revokeCredential, found]
          exact accounted
      | some ref =>
          obtain ⟨present, _⟩ := MemoryStore.getCredential_eq_some.mp found
          rw [MemoryStore.revokeCredential, found]
          let directory := site.world.store.directory
          let gone : CredRef := { ref with revoked := true }
          have changed : Accounts { directory with
              credByKey := directory.credByKey.set keyID gone } site.drawn log :=
            accounted.setCredential present rfl rfl rfl fun _ => rfl
          exact changed.noteRevoked (Table.get?_set_self _ _ _) rfl
  | _ => exact enrolls.elim

/-! ## Verified secrets -/

/-- The store keeps a hash for an agent of an organization: with one of its
keyed credentials that is not revoked, or with the agent itself. -/
def MemoryStore.Keeps (store : MemoryStore) (orgID agentID hash : String) :
    Prop :=
  (∃ keyID ref, store.getCredential keyID = some ref ∧ ref.orgID = orgID ∧
    ref.agentID = agentID ∧ ref.hash = hash) ∨
  ∃ agent, store.getAgent orgID agentID = some agent ∧
    store.credentials.get? agentID = some hash

/-- Legacy secrets are compared with hashes that are kept for agents of the
organization. -/
theorem keeps_of_agentCredentialHashes {store : MemoryStore}
    {rank : String → Nat} {orgID agentID hash : String}
    (listed : (store.agentCredentialHashes rank orgID).get? agentID =
      some hash) :
    store.Keeps orgID agentID hash := by
  rw [MemoryStore.get?_agentCredentialHashes] at listed
  cases last : ((store.credByKey.select rank fun ref => ref.orgID =
      orgID).filter fun ref => ref.agentID = agentID).getLast? with
  | none =>
      rw [last] at listed
      obtain ⟨agent, registered, kept⟩ := Option.bind_eq_some_iff.mp listed
      exact .inr ⟨agent, registered, kept⟩
  | some ref =>
      rw [last] at listed
      obtain ⟨valid, hashed⟩ := CredRef.current_eq_some.mp listed
      obtain ⟨selected, named⟩ :=
        List.mem_filter.mp (List.mem_of_getLast? last)
      obtain ⟨owned, keyID, present⟩ := Table.mem_select.mp selected
      exact .inl ⟨keyID, ref,
        MemoryStore.getCredential_eq_some.mpr ⟨present, valid⟩,
        of_decide_eq_true owned, of_decide_eq_true named, hashed⟩

/-- What is kept for an agent has been stored for it. -/
theorem Site.Accounted.stored (accounted : site.Accounted log)
    {orgID agentID hash : String}
    (keeps : site.world.store.Keeps orgID agentID hash) :
    Plain orgID ∧ .stored orgID agentID hash ∈ log := by
  rcases keeps with ⟨keyID, ref, found, rfl, rfl, rfl⟩ |
    ⟨agent, registered, kept⟩
  · obtain ⟨present, _⟩ := MemoryStore.getCredential_eq_some.mp found
    exact (accounted.ref keyID ref present).2
  · obtain ⟨present, rfl⟩ := MemoryStore.getAgent_eq_some.mp registered
    exact ⟨accounted.agent agentID agent present,
      accounted.legacy agentID agent hash present kept⟩

/-- A secret is verified for an organization of the directory. -/
theorem Site.Accounted.plain_of_verified (accounted : site.Accounted log)
    {rank : String → Nat} {secret headerOrg : String}
    {identity : Api.Identity}
    (verified : Api.Verified check site.world.store rank secret headerOrg
      identity) :
    Plain identity.orgID := by
  cases verified with
  | operator form found matching =>
      obtain ⟨present, _⟩ := MemoryStore.getOperatorToken_eq_some.mp found
      exact accounted.token _ _ present
  | keyed form found matching =>
      exact (accounted.stored (.inl ⟨_, _, found, rfl, rfl, rfl⟩)).1
  | legacy form found matching =>
      exact (accounted.stored (keeps_of_agentCredentialHashes found)).1

/-- Every state of a run is reachable, and its log accounts for the store. -/
theorem Runs.reachable (runs : Runs check config site log) :
    Reachable check config site ∧ site.Accounted log := by
  induction runs with
  | start new =>
      refine ⟨.start new, ?_⟩
      unfold Site.Accounted
      rw [new]
      constructor <;> simp [MemoryStore.directory, MemoryStore.new]
  | tended _ setsUp inductionHypothesis =>
      rename_i chore env
      obtain ⟨reached, accounted⟩ := inductionHypothesis
      refine ⟨reached.tended ?_, accounted.tended setsUp⟩
      cases chore with
      | createAgent => exact setsUp.2
      | storeCredential => exact setsUp.elim
      | _ => trivial
  | @received site _ _ _ idle incoming env secret _ _ authentic
      inductionHypothesis =>
      obtain ⟨reached, accounted⟩ := inductionHypothesis
      have verified := Api.verified_of_authenticate check authentic
      let chore : Chore := .authenticate secret incoming.headerOrg
      have noted : Reachable check config (site.tended check chore env) :=
        reached.tended trivial
      exact ⟨noted.admitted idle (accounted.plain_of_verified verified),
        accounted.authenticate env secret incoming.headerOrg⟩
  | advanced _ running generates drawn undrawn inductionHypothesis =>
      obtain ⟨reached, accounted⟩ := inductionHypothesis
      obtain ⟨known, sound⟩ := reached.sound
      exact ⟨reached.advanced running generates undrawn,
        accounted.advanced sound running drawn⟩

/-- In every state of every run of the handlers, a secret is verified for an
operator only if it matches a valid operator token, and for an agent only if it
matches a hash that has been stored, and is still kept, for that agent in that
organization.  The secrets of a revoked key are refused. -/
theorem verified_as_stored (runs : Runs check config site log) (env : Env)
    (secret headerOrg : String) :
    let store := site.world.store
    let verdict := (Api.authenticate check store env secret headerOrg).1
    (∀ identity, verdict = some identity → identity.operator = true →
      ∃ keyID rest token, secret = "sto_" ++ keyID ++ "_" ++ rest ∧
        store.opTokens.get? keyID = some token ∧ token.revoked = false ∧
        check secret token.hash = true ∧ identity.orgID = token.orgID) ∧
    (∀ identity, verdict = some identity → identity.operator = false →
      ∃ rest hash, secret = "st_" ++ rest ∧ check secret hash = true ∧
        store.Keeps identity.orgID identity.agentID hash ∧
        .stored identity.orgID identity.agentID hash ∈ log) ∧
    ∀ keyID rest, .revoked keyID ∈ log →
      secret = "st_" ++ keyID ++ "_" ++ rest → verdict = none := by
  intro store verdict
  obtain ⟨_, accounted⟩ := runs.reachable
  refine ⟨?_, ?_, ?_⟩
  · intro identity authentic operator
    cases Api.verified_of_authenticate check authentic with
    | operator form found matching =>
        obtain ⟨present, valid⟩ := MemoryStore.getOperatorToken_eq_some.mp found
        exact ⟨_, _, _, form, present, valid, matching, rfl⟩
    | keyed => cases operator
    | legacy => cases operator
  · intro identity authentic agent
    have kept : ∃ rest hash, secret = "st_" ++ rest ∧
        check secret hash = true ∧
        store.Keeps identity.orgID identity.agentID hash := by
      cases Api.verified_of_authenticate check authentic with
      | operator => cases agent
      | keyed form found matching =>
          rw [String.append_assoc, String.append_assoc] at form
          exact ⟨_, _, form, matching, .inl ⟨_, _, found, rfl, rfl, rfl⟩⟩
      | legacy form found matching =>
          exact ⟨_, _, form, matching, keeps_of_agentCredentialHashes found⟩
    obtain ⟨rest, hash, form, matching, keeps⟩ := kept
    exact ⟨rest, hash, form, matching, keeps, (accounted.stored keeps).2⟩
  · rintro keyID rest noted rfl
    obtain ⟨ref, present, revoked⟩ := accounted.revoked keyID noted
    obtain ⟨plain, _⟩ := accounted.ref keyID ref present
    refine Api.authenticate_of_unknown check plain ?_ env rest headerOrg
    have found : store.credByKey.get? keyID = some ref := present
    rw [MemoryStore.getCredential, found]
    exact if_pos revoked

/-- What a thread's next call adds to the log. -/
def Site.notes (config : Config) (site : Site) (thread : Nat) (env : Env) :
    List CredentialEvent :=
  match site.running thread with
  | some (_, .call request _) =>
      request.notes (exec config request env site.world).1
  | _ => []

/-- A run goes on with the next call of a thread, if it has one. -/
theorem Runs.step (runs : Runs check config site log) (thread : Nat)
    {env : Env} (generates : Generates site.world env)
    (drawn : ∀ issued, env.agentSecret = some issued →
      issued.Drawn ∧ issued.keyID ∉ site.drawn) :
    Runs check config (site.step config thread env)
      (site.notes config thread env ++ log) := by
  unfold Site.step Site.notes
  cases running : site.running thread with
  | none => exact runs
  | some job =>
      obtain ⟨orgID, program⟩ := job
      cases program with
      | ret value => exact runs
      | call request next =>
          refine runs.advanced running generates
            (fun issued found => (drawn issued found).1) ?_
          intro keyID member
          obtain ⟨issued, found, rfl⟩ := agentSecret_of_issues member
          exact (drawn issued found).2

namespace Sample

/-- A secret of an agent, which is stored as it is. -/
def issuedSecret : AgentSecret :=
  newAgentSecret (List.replicate 6 7) (List.replicate 24 7)
    ("st_070707070707_" ++ hexEncode (List.replicate 24 7))

/-- The environment of a call that draws this secret. -/
def drawing : Env :=
  { env 10 with agentSecret := some issuedSecret }

/-- An organization with its operator. -/
def seeded : Site :=
  (started.tended compare (.seedOrg "owner" "Acme" 0) (env 1)).tended compare
    (.createOperatorToken "id1" "ops" "k0" "sto_k0_a") (env 2)

def officer : Api.Identity where
  orgID := "id1"
  agentID := ""
  operator := true
  name := "ops"

/-- A request of the operator. -/
def ordering (route : Api.Route) : Api.Incoming where
  secret := some "sto_k0_a"
  headerOrg := ""
  traceID := ""
  route := route

/-- The operator registers an agent. -/
def enrolling : Site :=
  seeded.received compare Sample.config 0
    (ordering (.registerAgent
      { failed := false
        value :=
          { principalID := "owner", name := "bot", environment := ""
            groups := [] } }))
    (env 3) "sto_k0_a" officer

def enrolled : Site :=
  (((enrolling.step Sample.config 0 drawing).step Sample.config 0
    (env 11)).step Sample.config 0 (env 12)).step Sample.config 0 (env 13)

/-- The operator revokes the agent's credential. -/
def revoking : Site :=
  enrolled.received compare Sample.config 1
    (ordering (.revokeCredential "070707070707")) (env 20) "sto_k0_a" officer

def withdrawn : Site :=
  (revoking.step Sample.config 1 (env 21)).step Sample.config 1 (env 22)

theorem undrawn (site : Site) (issued : AgentSecret)
    (found : none = some issued) :
    issued.Drawn ∧ issued.keyID ∉ site.drawn := by
  cases found

theorem enrolled_runs : ∃ log, Runs compare Sample.config enrolled log := by
  have seeding : Runs compare Sample.config seeded [] := by
    refine .tended (.tended (.start rfl) ?_) ?_
    · change Plain _
      decide
    · change (Table.get? _ _).isSome = true
      decide +kernel
  have enrolling : Runs compare Sample.config enrolling [] :=
    seeding.received rfl rfl rfl
  have drawn : ∀ issued, drawing.agentSecret = some issued →
      issued.Drawn ∧ issued.keyID ∉ Sample.enrolling.drawn := by
    rintro issued found
    obtain rfl := Option.some.inj found
    exact ⟨⟨_, _, _, rfl, rfl, rfl⟩, by decide +kernel⟩
  refine ⟨_, Runs.step (Runs.step (Runs.step (Runs.step enrolling 0 ?_ drawn)
    0 ?_ (undrawn _)) 0 ?_ (undrawn _)) 0 ?_ (undrawn _)⟩
  all_goals decide +kernel

theorem withdrawn_runs : ∃ log, Runs compare Sample.config withdrawn log ∧
    .revoked "070707070707" ∈ log := by
  obtain ⟨log, enrolled⟩ := enrolled_runs
  have revoking : Runs compare Sample.config revoking log :=
    enrolled.received rfl rfl rfl
  refine ⟨_, Runs.step (Runs.step revoking 1 ?_ (undrawn _)) 1 ?_ (undrawn _),
    ?_⟩
  · decide +kernel
  · decide +kernel
  · exact List.mem_cons_self

end Sample

/-- A secret of the revoked key is refused. -/
theorem verified_as_stored_withdrawn :
    (∃ log, Runs Sample.compare Sample.config Sample.withdrawn log ∧
      .revoked "070707070707" ∈ log) ∧
    (Api.authenticate Sample.compare Sample.withdrawn.world.store
      (Sample.env 30) "st_070707070707_a" "id1").1 = none := by
  obtain ⟨log, runs, noted⟩ := Sample.withdrawn_runs
  have refused := (verified_as_stored runs (Sample.env 30)
    "st_070707070707_a" "id1").2.2
  exact ⟨⟨log, runs, noted⟩, refused "070707070707" "a" noted rfl⟩

end SettleAgent
