import SettleAgent.Api.Auth
import SettleAgent.Tenancy.Programs

/-!
# Reachable states

The gateway as it runs.  It is set up, secrets are checked, operations arrive
at any time, and the programs of those that are under way advance call by call
in any order.  An operation is taken in whether or not a secret was checked for
it, so that no state is missed.

In every reachable state the store is sound, and every operation that is under
way knows only what is true of it.
-/

namespace SettleAgent

open Interaction

variable {check : String → String → Bool} {config : Config}

/-- What happens to the store apart from the calls of operations: the methods
with which a gateway is set up, and the check of a secret. -/
inductive Chore : Type
  | seedOrg (principalUID name : String) (later : Time)
  | createAgent (orgID principalID name environment : String)
      (groups : List String) (secretHash : String)
  | storeCredential (orgID agentID keyID secretHash : String)
  | createOperatorToken (orgID name keyID secretHash : String)
  | setPolicies (orgID : String) (rules : List PolicyRule)
  | setKeyProvider (provider : Option KeyProvider)
  | authenticate (secret headerOrg : String)

def Chore.run (check : String → String → Bool) (env : Env)
    (store : MemoryStore) : Chore → MemoryStore
  | seedOrg principalUID name later =>
      (store.seedOrg env.uid principalUID env.now later name).2
  | createAgent orgID principalID name environment groups secretHash =>
      (store.createAgent env.uid env.now orgID principalID name environment
        groups secretHash).2
  | storeCredential orgID agentID keyID secretHash =>
      store.storeCredential orgID agentID keyID secretHash
  | createOperatorToken orgID name keyID secretHash =>
      store.createOperatorToken orgID name keyID secretHash
  | setPolicies orgID rules => store.setPolicies env.uid env.now orgID rules
  | setKeyProvider provider => store.setKeyProvider provider
  | authenticate secret headerOrg =>
      (Api.authenticate check store env secret headerOrg).2

/-- A running gateway: its world, the operations under way, each with its
organization and the rest of its program, and the key identifiers that have
been drawn so far. -/
structure Site where
  world : World
  running : Nat → Option (String × Gate Outcome)
  drawn : List String

/-- The key identifiers that the reply to a call issues. -/
def Call.issues : (request : Call) → request.Resp → List String
  | .newAgentSecret, some secret => [secret.keyID]
  | _, _ => []

namespace Site

/-- The site after a chore. -/
def tended (check : String → String → Bool) (site : Site) (chore : Chore)
    (env : Env) : Site :=
  { site with
    world := { site.world with store := chore.run check env site.world.store } }

/-- The site after an operation has arrived. -/
def admitted (config : Config) (site : Site) (thread : Nat)
    (operation : Operation) : Site :=
  { site with
    running := Function.update site.running thread
      (some (operation.orgID, operation.program config)) }

/-- The site after an operation's next call. -/
def advanced (config : Config) (site : Site) (thread : Nat) (orgID : String)
    (request : Call) (next : request.Resp → Gate Outcome) (env : Env) : Site :=
  let answer := exec config request env site.world
  { world := answer.2
    running := Function.update site.running thread
      (some (orgID, next answer.1))
    drawn := request.issues answer.1 ++ site.drawn }

end Site

/-- The identifiers that a chore brings in are new. -/
def Chore.Fresh (site : Site) (env : Env) : Chore → Prop
  | createAgent _ _ _ _ _ _ => site.world.store.agents.get? env.uid = none
  | storeCredential _ _ keyID _ =>
      site.world.store.credByKey.get? keyID = none ∧ keyID ∉ site.drawn
  | _ => True

instance (chore : Chore) (site : Site) (env : Env) :
    Decidable (chore.Fresh site env) :=
  match chore with
  | .createAgent _ _ _ _ _ _ => inferInstanceAs (Decidable (_ = none))
  | .storeCredential _ _ _ _ => inferInstanceAs (Decidable (_ ∧ _))
  | .seedOrg _ _ _ | .createOperatorToken _ _ _ _ | .setPolicies _ _
  | .setKeyProvider _ | .authenticate _ _ => inferInstanceAs (Decidable True)

/-- The states of a gateway that starts with a new store.  Generated
identifiers are new and contain no separator. -/
inductive Reachable (check : String → String → Bool) (config : Config) :
    Site → Prop
  | start {world : World} (new : world.store = MemoryStore.new) :
      Reachable check config ⟨world, fun _ => none, []⟩
  | tended {site : Site} (reached : Reachable check config site)
      {chore : Chore} {env : Env} (fresh : chore.Fresh site env) :
      Reachable check config (site.tended check chore env)
  | admitted {site : Site} (reached : Reachable check config site)
      {thread : Nat} (idle : site.running thread = none)
      {operation : Operation} (plain : Plain operation.orgID) :
      Reachable check config (site.admitted config thread operation)
  | advanced {site : Site} (reached : Reachable check config site)
      {thread : Nat} {orgID : String} {request : Call}
      {next : request.Resp → Gate Outcome}
      (running : site.running thread = some (orgID, .call request next))
      {env : Env} (generates : Generates site.world env)
      (undrawn : ∀ keyID ∈ request.issues
        (exec config request env site.world).1, keyID ∉ site.drawn) :
      Reachable check config
        (site.advanced config thread orgID request next env)

/-! ## Chores -/

/-- Checking a secret leaves the store alone or notes the use of a credential
of the organization it returns. -/
theorem authenticate_cases (store : MemoryStore) (env : Env)
    (secret headerOrg : String) :
    let outcome := Api.authenticate check store env secret headerOrg
    outcome.2 = store ∨
      (∃ keyID ref identity, outcome.1 = some identity ∧
        store.credByKey.get? keyID = some ref ∧
        ref.orgID = identity.orgID ∧
        outcome.2 = store.touchCredential env.now keyID) ∨
      ∃ keyID token identity, outcome.1 = some identity ∧
        store.opTokens.get? keyID = some token ∧
        token.orgID = identity.orgID ∧
        outcome.2 = store.touchOperatorToken env.now keyID := by
  simp only [Api.authenticate]
  split
  · split
    · exact .inl rfl
    rename_i keyID _
    cases found : store.getOperatorToken keyID with
    | none => exact .inl rfl
    | some token =>
        simp only
        split
        · have present := (MemoryStore.getOperatorToken_eq_some.mp found).1
          exact .inr (.inr ⟨keyID, token, _, rfl, present, rfl, rfl⟩)
        · exact .inl rfl
  split
  swap
  · exact .inl rfl
  split
  · rename_i keyID _
    cases found : store.getCredential keyID with
    | none => exact .inl rfl
    | some ref =>
        simp only
        split
        · have present := (MemoryStore.getCredential_eq_some.mp found).1
          exact .inr (.inl ⟨keyID, ref, _, rfl, present, rfl, rfl⟩)
        · exact .inl rfl
  · left
    split
    · rfl
    · split <;> rfl

/-- The tables that operations know about are the same after a chore, except
for keyed credentials, and perhaps an agent under a new name. -/
theorem Chore.frame (check : String → String → Bool) (chore : Chore)
    (env : Env) (store : MemoryStore) :
    let after := chore.run check env store
    after.toLedger = store.toLedger ∧ after.mcpServers = store.mcpServers ∧
      (after.agents = store.agents ∨
        ∃ orgID principalID name environment groups secretHash,
          chore = .createAgent orgID principalID name environment groups
            secretHash) := by
  cases chore with
  | createAgent orgID principalID name environment groups secretHash =>
      exact ⟨rfl, rfl, .inr ⟨orgID, principalID, name, environment, groups,
        secretHash, rfl⟩⟩
  | setPolicies orgID rules =>
      simp only [run, MemoryStore.setPolicies, MemoryStore.activatePolicySet]
      split <;> exact ⟨rfl, rfl, .inl rfl⟩
  | authenticate secret headerOrg =>
      rw [run]
      rcases authenticate_cases store env secret headerOrg with same |
        ⟨keyID, ref, identity, _, present, _, touched⟩ |
        ⟨keyID, token, identity, _, present, _, touched⟩
      · rw [same]
        exact ⟨rfl, rfl, .inl rfl⟩
      · rw [touched, MemoryStore.touchCredential, present]
        exact ⟨rfl, rfl, .inl rfl⟩
      · rw [touched, MemoryStore.touchOperatorToken, present]
        exact ⟨rfl, rfl, .inl rfl⟩
  | _ => exact ⟨rfl, rfl, .inl rfl⟩

/-- A keyed credential after a chore: the same, one that has been used, or a
new one. -/
theorem Chore.credential_run (check : String → String → Bool) (chore : Chore)
    (env : Env) (store : MemoryStore) (keyID : String) :
    let before := store.credByKey.get? keyID
    let after := (chore.run check env store).credByKey.get? keyID
    after = before ∨
      (∃ old, before = some old ∧
        after = some { old with lastUsed := env.now }) ∨
      ∃ orgID agentID secretHash,
        chore = .storeCredential orgID agentID keyID secretHash := by
  cases chore with
  | storeCredential orgID agentID stored secretHash =>
      by_cases same : keyID = stored
      · exact .inr (.inr ⟨orgID, agentID, secretHash, same ▸ rfl⟩)
      · exact .inl (Table.get?_set_of_ne _ _ same)
  | setPolicies orgID rules =>
      left
      simp only [run, MemoryStore.setPolicies, MemoryStore.activatePolicySet]
      split <;> rfl
  | authenticate secret headerOrg =>
      simp only [run]
      rcases authenticate_cases store env secret headerOrg with same |
        ⟨used, ref, identity, _, present, _, touched⟩ |
        ⟨used, token, identity, _, present, _, touched⟩
      · exact .inl (by rw [same])
      · rw [touched, MemoryStore.touchCredential, present]
        by_cases same : keyID = used
        · subst same
          exact .inr (.inl ⟨ref, present, Table.get?_set_self _ _ _⟩)
        · exact .inl (Table.get?_set_of_ne _ _ same)
      · rw [touched, MemoryStore.touchOperatorToken, present]
        exact .inl rfl
  | _ => exact .inl rfl

theorem Chore.sound_run (check : String → String → Bool) (chore : Chore)
    (env : Env) {store : MemoryStore} (sound : store.Sound) :
    (chore.run check env store).Sound := by
  obtain ⟨ledger, servers, agents⟩ := chore.frame check env store
  refine ⟨ledger ▸ sound.keyed, ledger ▸ sound.indexed, ?_,
    servers ▸ sound.tidy.server⟩
  rcases agents with
    same | ⟨orgID, principalID, name, environment, groups, secretHash, rfl⟩
  · rw [same]
    exact sound.tidy.agent
  · exact Ledger.keyed_set sound.tidy.agent rfl

/-- What operations know is still true after a chore. -/
theorem Chore.holds_run {territory : Territory} {holdings : Holdings}
    {site : Site} {chore : Chore} {env : Env} (fresh : chore.Fresh site env)
    (drawn : ∀ keyID ∈ holdings.issued, keyID ∈ site.drawn)
    (holds : Holds territory holdings site.world.store) :
    Holds territory holdings (chore.run check env site.world.store) := by
  obtain ⟨ledger, _, agents⟩ := chore.frame check env site.world.store
  constructor
  · rw [ledger]
    exact holds.actions
  · rw [ledger]
    exact holds.receipts
  · intro id member
    obtain ⟨agent, present, owned⟩ := holds.agents id member
    refine ⟨agent, ?_, owned⟩
    rcases agents with
      same | ⟨orgID, principalID, name, environment, groups, secretHash, rfl⟩
    · rw [same]
      exact present
    · refine (Table.get?_set_of_ne _ _ ?_).trans present
      rintro rfl
      rw [show site.world.store.agents.get? env.uid = none from fresh]
        at present
      cases present
  · intro keyID member
    have absent := holds.issued keyID member
    rcases chore.credential_run check env site.world.store keyID with
      same | ⟨old, present, _⟩ | ⟨orgID, agentID, secretHash, rfl⟩
    · rw [same, absent]
    · rw [absent] at present
      cases present
    · exact absurd (drawn keyID member) fresh.2
  · intro keyID member
    obtain ⟨ref, present, owned⟩ := holds.credentials keyID member
    rcases chore.credential_run check env site.world.store keyID with
      same | ⟨old, before, after⟩ | ⟨orgID, agentID, secretHash, rfl⟩
    · exact ⟨ref, same.trans present, owned⟩
    · rw [present, Option.some.injEq] at before
      subst before
      exact ⟨_, after, owned⟩
    · rw [fresh.1] at present
      cases present

/-! ## Reachable states are sound -/

/-- The keys that an operation can store are those it has just been issued and
those it had. -/
theorem issued_learn {territory : Territory} {holdings : Holdings}
    (request : Call) (reply : request.Resp) :
    (territory.learn holdings request reply).issued =
      request.issues reply ++ (holdings.spent request).issued := by
  cases request with
  | newAgentSecret => cases reply <;> rfl
  | getAction orgID id =>
      cases reply with
      | none => rfl
      | some action =>
          simp only [Territory.learn]
          split <;> rfl
  | addAction action =>
      obtain ⟨stored, duplicate⟩ := reply
      cases duplicate <;> rfl
  | getAgent orgID agentID => cases reply <;> rfl
  | getCredential keyID =>
      cases reply with
      | none => rfl
      | some ref =>
          simp only [Territory.learn]
          split <;> rfl
  | _ => rfl

namespace Site

/-- The store of the site is sound, every operation under way goes on in its
organization's territory and knows only what is true, and nobody else has drawn
its keys. -/
structure Sound (site : Site) (known : Nat → Holdings) : Prop where
  store : site.world.store.Sound
  thread : ∀ thread orgID program,
    site.running thread = some (orgID, program) →
      Plain orgID ∧ Within (.whole orgID) (known thread) program ∧
        Holds (.whole orgID) (known thread) site.world.store
  drawn : ∀ thread, ∀ keyID ∈ (known thread).issued, keyID ∈ site.drawn
  apart : ∀ first second, ∀ keyID ∈ (known first).issued,
    keyID ∈ (known second).issued → first = second

namespace Sound

variable {site : Site} {known : Nat → Holdings}

/-- The invariant holds as long as nothing but the store changes, and what is
known stays true. -/
theorem tended (sound : site.Sound known) {chore : Chore} {env : Env}
    (fresh : chore.Fresh site env) :
    (site.tended check chore env).Sound known where
  store := chore.sound_run check env sound.store
  thread := by
    intro thread orgID program running
    obtain ⟨plain, within, holds⟩ := sound.thread thread orgID program running
    exact ⟨plain, within, Chore.holds_run fresh (sound.drawn thread) holds⟩
  drawn := sound.drawn
  apart := sound.apart

/-- An operation arrives without any knowledge. -/
theorem admitted (sound : site.Sound known) {thread : Nat}
    {operation : Operation} (plain : Plain operation.orgID) :
    (site.admitted config thread operation).Sound
      (Function.update known thread {}) where
  store := sound.store
  thread := by
    intro other orgID program running
    by_cases same : other = thread
    · subst same
      simp only [Site.admitted, Function.update_self, Option.some.injEq,
        Prod.mk.injEq] at running
      obtain ⟨rfl, rfl⟩ := running
      rw [Function.update_self]
      exact ⟨plain, operation.within config, Holds.nothing _ _⟩
    · simp only [Site.admitted, Function.update_of_ne same] at running ⊢
      exact sound.thread other orgID program running
  drawn := by
    intro other keyID member
    by_cases same : other = thread
    · simp [same] at member
    · rw [Function.update_of_ne same] at member
      exact sound.drawn other keyID member
  apart := by
    intro first second keyID member shared
    by_cases firstSame : first = thread
    · simp [firstSame] at member
    by_cases secondSame : second = thread
    · simp [secondSame] at shared
    rw [Function.update_of_ne firstSame] at member
    rw [Function.update_of_ne secondSame] at shared
    exact sound.apart first second keyID member shared

section Advance

variable {thread : Nat} {orgID : String} {request : Call}
  {next : request.Resp → Gate Outcome} {env : Env}

/-- The keys that are out after a call: they were out before, or the call has
issued them to its own operation. -/
theorem issued_advanced {reply : request.Resp} {other : Nat} {keyID : String}
    (member : keyID ∈ (Function.update known thread
      ((Territory.whole orgID).learn (known thread) request reply)
        other).issued) :
    keyID ∈ (known other).issued ∨
      (other = thread ∧ keyID ∈ request.issues reply) := by
  by_cases same : other = thread
  · subst same
    rw [Function.update_self, issued_learn] at member
    rcases List.mem_append.mp member with new | old
    · exact .inr ⟨rfl, new⟩
    · left
      cases request with
      | storeCredential => simp [Holdings.spent] at old
      | _ => exact old
  · rw [Function.update_of_ne same] at member
    exact .inl member

/-- A call keeps what its own operation and all others know true. -/
theorem advanced (sound : site.Sound known)
    (running : site.running thread = some (orgID, .call request next))
    (generates : Generates site.world env)
    (undrawn : ∀ keyID ∈ request.issues
      (exec config request env site.world).1, keyID ∉ site.drawn) :
    (site.advanced config thread orgID request next env).Sound
      (Function.update known thread
        ((Territory.whole orgID).learn (known thread) request
          (exec config request env site.world).1)) := by
  obtain ⟨plain, ⟨may, following⟩, holds⟩ := sound.thread _ _ _ running
  obtain ⟨admissible, unused⟩ := generates
  constructor
  · exact sound_exec plain sound.store holds admissible may
  · intro other owner program runs
    by_cases same : other = thread
    · subst same
      simp only [Site.advanced, Function.update_self, Option.some.injEq,
        Prod.mk.injEq] at runs
      obtain ⟨rfl, rfl⟩ := runs
      rw [Function.update_self]
      exact ⟨plain, following _ (fits_exec request sound.store.keyed),
        holds.learn config sound.store admissible unused may⟩
    · simp only [Site.advanced, Function.update_of_ne same] at runs ⊢
      obtain ⟨plainOther, within, kept⟩ := sound.thread other owner program runs
      refine ⟨plainOther, within, holds_exec config sound.store holds admissible
        may (Territory.respects_whole owner) kept ?_⟩
      rintro keyID member _ _ _ rfl
      exact same (sound.apart other thread keyID member may.2.2)
  · intro other keyID member
    rcases issued_advanced member with old | ⟨_, new⟩
    · exact List.mem_append_right _ (sound.drawn other keyID old)
    · exact List.mem_append_left _ new
  · intro first second keyID member shared
    rcases issued_advanced member with old | ⟨rfl, new⟩
    · rcases issued_advanced shared with oldToo | ⟨_, new⟩
      · exact sound.apart first second keyID old oldToo
      · exact absurd (sound.drawn first keyID old) (undrawn keyID new)
    · rcases issued_advanced shared with old | ⟨same, _⟩
      · exact absurd (sound.drawn second keyID old) (undrawn keyID new)
      · exact same.symm

end Advance

end Sound
end Site

theorem MemoryStore.sound_new : MemoryStore.new.Sound where
  keyed := Ledger.wellKeyed_empty
  indexed := by simp [Ledger.Indexed, MemoryStore.new, Ledger.empty]
  tidy := ⟨by simp [MemoryStore.new], by simp [MemoryStore.new]⟩

/-- Every reachable site is sound. -/
theorem Reachable.sound {site : Site} (reached : Reachable check config site) :
    ∃ known, site.Sound known := by
  induction reached with
  | start new =>
      exact ⟨fun _ => {}, new ▸ MemoryStore.sound_new, by simp, by simp, by simp⟩
  | tended _ fresh inductionHypothesis =>
      obtain ⟨known, sound⟩ := inductionHypothesis
      exact ⟨known, sound.tended fresh⟩
  | admitted _ _ plain inductionHypothesis =>
      obtain ⟨known, sound⟩ := inductionHypothesis
      exact ⟨_, sound.admitted plain⟩
  | advanced _ running generates undrawn inductionHypothesis =>
      obtain ⟨known, sound⟩ := inductionHypothesis
      exact ⟨_, sound.advanced running generates undrawn⟩

/-- Whatever else is under way, a call of an operation writes in the territory
of its organization only. -/
theorem Reachable.advanced_confined {site : Site}
    (reached : Reachable check config site) {thread : Nat} {orgID : String}
    {request : Call} {next : request.Resp → Gate Outcome}
    (running : site.running thread = some (orgID, .call request next))
    {env : Env} (generates : Generates site.world env) :
    Confined (.whole orgID) site.world.store
      (site.advanced config thread orgID request next env).world.store := by
  obtain ⟨known, sound⟩ := reached.sound
  obtain ⟨plain, ⟨may, _⟩, holds⟩ := sound.thread _ _ _ running
  exact confined_exec plain sound.store holds generates.1 may

/-- Let a thread make its next call, if it has one. -/
def Site.step (config : Config) (site : Site) (thread : Nat) (env : Env) :
    Site :=
  match site.running thread with
  | some (orgID, .call request next) =>
      site.advanced config thread orgID request next env
  | _ => site

theorem issues_exec {request : Call} {env : Env} {world : World}
    (unissued : env.agentSecret = none) :
    request.issues (exec config request env world).1 = [] := by
  cases request with
  | newAgentSecret =>
      change Call.issues .newAgentSecret env.agentSecret = []
      rw [unissued]
      rfl
  | _ => rfl

theorem Reachable.step {site : Site} (reached : Reachable check config site)
    (thread : Nat) {env : Env} (generates : Generates site.world env)
    (unissued : env.agentSecret = none) :
    Reachable check config (site.step config thread env) := by
  unfold Site.step
  split
  · rename_i orgID request next running
    refine reached.advanced running generates ?_
    simp [issues_exec unissued]
  · exact reached

/-! ## Requests -/

/-- Checking a secret writes in the territory of the organization it is for. -/
theorem authenticate_confined {store : MemoryStore} {env : Env}
    {secret headerOrg : String} {identity : Api.Identity}
    (verified : (Api.authenticate check store env secret headerOrg).1 =
      some identity) :
    Confined (.whole identity.orgID) store
      (Api.authenticate check store env secret headerOrg).2 := by
  rcases authenticate_cases store env secret headerOrg with same |
    ⟨keyID, ref, other, equal, present, owned, touched⟩ |
    ⟨keyID, token, other, equal, present, owned, touched⟩
  · rw [same]
    exact .refl store
  all_goals
    rw [verified, Option.some.injEq] at equal
    subst equal
    rw [touched]
  · exact .touchCredential present owned
  · exact .touchOperatorToken present owned

/-- The identity that an incoming request is served under. -/
def Api.Incoming.identity? (check : String → String → Bool)
    (incoming : Api.Incoming) (env : Env) (store : MemoryStore) :
    Option Api.Identity :=
  incoming.secret.bind fun secret =>
    (Api.authenticate check store env secret incoming.headerOrg).1

/-- Serving a request writes in the territory of the organization that it is
authenticated for. -/
theorem serve_confined {world : World} (sound : world.store.Sound)
    {incoming : Api.Incoming} {env : Env} {identity : Api.Identity}
    (verified : incoming.identity? check env world.store = some identity)
    (plain : Plain identity.orgID) {envs : Nat → Env}
    (fresh : ∀ mark ∈ (Api.serve check config incoming env envs world).2.2,
      Generates mark.before mark.env) :
    Confined (.whole identity.orgID) world.store
      (Api.serve check config incoming env envs world).2.1.store := by
  obtain ⟨secret, headerOrg, traceID, route⟩ := incoming
  cases secret with
  | none => simp [Api.Incoming.identity?] at verified
  | some secret =>
      have authentic : (Api.authenticate check world.store env secret
          headerOrg).1 = some identity := verified
      simp only [Api.serve, authentic] at fresh ⊢
      have noted := authenticate_confined authentic
      have still : (Api.authenticate check world.store env secret
          headerOrg).2.Sound :=
        Chore.sound_run check (.authenticate secret headerOrg) env sound
      have within := handle_within config
        (Api.Incoming.verified ⟨some secret, headerOrg, traceID, route⟩ identity)
      have written := (within.yields plain still (Holds.nothing _ _)).complete
        () envs fresh
      exact noted.trans written.1

namespace Sample

/-- Secrets are stored as they are. -/
def compare (secret hash : String) : Bool := secret = hash

/-- A gateway that has just been started. -/
def started : Site where
  world :=
    { store := MemoryStore.new, tools := Registry.default, network := [] }
  running := fun _ => none
  drawn := []

/-- Two organizations with an agent each, a second agent of the first one, and
its operator. -/
def staffing : List Chore :=
  [.createOperatorToken "acme" "ops" "k0" "sto_k0_a",
    .createAgent "acme" "owner" "bot" "production" [] "",
    .storeCredential "acme" "id1" "k1" "st_k1_b",
    .createAgent "acme" "owner" "clerk" "production" [] "",
    .storeCredential "acme" "id3" "k3" "st_k3_c",
    .createAgent "globex" "owner" "bot" "production" [] "",
    .storeCredential "globex" "id5" "k5" "st_k5_d"]

def staffed : Site :=
  staffing.zipIdx.foldl
    (fun site entry => site.tended compare entry.1 (env entry.2)) started

theorem staffed_reachable : Reachable compare config staffed := by
  have start : Reachable compare config started := .start rfl
  refine .tended (.tended (.tended (.tended (.tended (.tended (.tended start
    ?_) ?_) ?_) ?_) ?_) ?_) ?_
  all_goals decide +kernel

end Sample
end SettleAgent
