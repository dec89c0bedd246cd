import SettleAgent.Api.Handlers
import SettleAgent.Data.Cut
import SettleAgent.Interaction.Session

/-!
# Authentication

A bearer secret names its key: `sto_<key>_<random>` for operators and
`st_<key>_<random>` for agents.  An agent secret without a second underscore is
a legacy one and is compared with all hashes of the organization that the
request's header names.  The hash comparison is `bcrypt`, given as `check`.
-/

namespace SettleAgent

namespace MemoryStore

/-- Let a keyed credential override the hash of its agent, or remove it when it
is revoked. -/
def overrideHash (hashes : Table String) (ref : CredRef) : Table String :=
  if ref.revoked then hashes.erase ref.agentID
  else hashes.set ref.agentID ref.hash

/-- The hashes that legacy secrets of an organization are compared with.  The
keyed credentials are visited in the order of a map iteration. -/
def agentCredentialHashes (store : MemoryStore) (rank : String → Nat)
    (orgID : String) : Table String :=
  let legacy := (store.agents.restrict fun agent =>
    agent.orgID = orgID).foldl (fun hashes entry =>
      match store.credentials.get? entry.1 with
      | some hash => hashes.set entry.1 hash
      | none => hashes) ∅
  (store.credByKey.select rank fun ref => ref.orgID = orgID).foldl
    overrideHash legacy

end MemoryStore

/-! ## Looking up legacy hashes -/

/-- The hash that a keyed credential leaves for its agent. -/
def CredRef.current (ref : CredRef) : Option String :=
  if ref.revoked then none else some ref.hash

theorem CredRef.current_eq_some {ref : CredRef} {hash : String} :
    ref.current = some hash ↔ ref.revoked = false ∧ ref.hash = hash := by
  cases revoked : ref.revoked <;> simp [current, revoked]

/-- Steps that write what was found under a key, or nothing if nothing was
found, leave it there if one of them was for that key. -/
theorem Table.get?_foldl {V W : Type} {write : Table V → W → Table V}
    {key : String} {named : W → Bool} {found : Option V}
    (writes : ∀ table entry, (write table entry).get? key =
      if named entry then found.or (table.get? key) else table.get? key)
    (entries : List W) (table : Table V) :
    (entries.foldl write table).get? key =
      if entries.any named then found.or (table.get? key)
      else table.get? key := by
  induction entries generalizing table with
  | nil => rfl
  | cons entry entries inductionHypothesis =>
      rw [List.foldl_cons, inductionHypothesis, writes, List.any_cons]
      cases named entry <;> cases entries.any named <;> cases found <;> simp

namespace MemoryStore

theorem get?_overrideHash (hashes : Table String) (ref : CredRef)
    (agentID : String) :
    (overrideHash hashes ref).get? agentID =
      if ref.agentID = agentID then ref.current else hashes.get? agentID := by
  unfold overrideHash CredRef.current
  by_cases same : ref.agentID = agentID
  · subst same
    cases ref.revoked <;> simp [Table.get?, Table.set]
  · cases ref.revoked <;>
      simp [Table.get?, Table.set, same, Ne.symm same]

/-- The last credential of an agent that is visited decides. -/
theorem get?_foldl_overrideHash (refs : List CredRef) (hashes : Table String)
    (agentID : String) :
    (refs.foldl overrideHash hashes).get? agentID =
      (refs.filter fun ref => ref.agentID = agentID).getLast?.elim
        (hashes.get? agentID) CredRef.current := by
  induction refs generalizing hashes with
  | nil => rfl
  | cons ref refs inductionHypothesis =>
      rw [List.foldl_cons, inductionHypothesis, get?_overrideHash]
      by_cases same : ref.agentID = agentID
      · rw [if_pos same, List.filter_cons_of_pos (by simpa using same),
          List.getLast?_cons]
        cases (refs.filter fun ref => ref.agentID = agentID).getLast? <;> rfl
      · rw [if_neg same, List.filter_cons_of_neg (by simpa using same)]

/-- An agent's legacy hash is that of its keyed credential that is visited
last.  Without one, it is the hash that is kept with the agent. -/
theorem get?_agentCredentialHashes (store : MemoryStore) (rank : String → Nat)
    (orgID agentID : String) :
    (store.agentCredentialHashes rank orgID).get? agentID =
      ((store.credByKey.select rank fun ref => ref.orgID = orgID).filter
        fun ref => ref.agentID = agentID).getLast?.elim
          ((store.getAgent orgID agentID).bind fun _ =>
            store.credentials.get? agentID)
          CredRef.current := by
  unfold agentCredentialHashes
  rw [get?_foldl_overrideHash]
  congr 1
  refine (@Table.get?_foldl _ _ _ agentID
    (fun entry => decide (entry.1 = agentID)) (store.credentials.get? agentID)
    ?_ _ _).trans ?_
  · intro hashes entry
    by_cases same : entry.1 = agentID
    · subst same
      cases store.credentials.get? entry.1 <;> simp
    · cases store.credentials.get? entry.1 with
      | none => simp [same]
      | some hash =>
          simp only [same, decide_false, Bool.false_eq_true, if_false]
          exact Table.get?_set_of_ne _ _ (Ne.symm same)
  · cases found : store.getAgent orgID agentID with
    | some agent =>
        obtain ⟨present, owned⟩ := getAgent_eq_some.mp found
        have listed : ⟨agentID, agent⟩ ∈
            store.agents.restrict fun agent => agent.orgID = orgID :=
          Table.mem_restrict.mpr ⟨present, decide_eq_true owned⟩
        rw [if_pos (List.any_eq_true.mpr ⟨_, listed, decide_eq_true rfl⟩)]
        exact Option.or_none
    | none =>
        rw [if_neg]
        · rfl
        intro listed
        obtain ⟨entry, member, same⟩ := List.any_eq_true.mp listed
        obtain ⟨present, owned⟩ := Table.mem_restrict.mp member
        rw [of_decide_eq_true same] at present
        have registered := getAgent_eq_some.mpr
          ⟨present, of_decide_eq_true owned⟩
        rw [found] at registered
        cases registered

end MemoryStore

namespace Api

variable (check : String → String → Bool)

/-- The key of a secret that starts with a tag: what comes between the tag and
the next underscore. -/
def keyOfSecret (tag secret : String) : Option String :=
  (cut '_' (String.ofList (secret.toList.drop tag.length))).map Prod.fst

/-- The first agent of an iteration whose hash matches a legacy secret. -/
def legacyAgent (rank : String → Nat) (hashes : Table String)
    (secret : String) : Option String :=
  ((hashes.entries.insertionSort fun left right =>
    rank left.1 ≤ rank right.1).find? fun entry =>
      check secret entry.2).map Sigma.fst

/-- Verify a bearer secret and note its use. -/
def authenticate (store : MemoryStore) (env : Env)
    (secret headerOrg : String) : Option Identity × MemoryStore :=
  if hasPrefix secret "sto_" then
    match keyOfSecret "sto_" secret with
    | none => (none, store)
    | some keyID =>
      match store.getOperatorToken keyID with
      | none => (none, store)
      | some token =>
        if check secret token.hash then
          (some { orgID := token.orgID, agentID := "", operator := true,
                  name := token.name },
            store.touchOperatorToken env.now keyID)
        else (none, store)
  else if hasPrefix secret "st_" then
    match keyOfSecret "st_" secret with
    | some keyID =>
      match store.getCredential keyID with
      | none => (none, store)
      | some ref =>
        if check secret ref.hash then
          (some { orgID := ref.orgID, agentID := ref.agentID,
                  operator := false, name := "" },
            store.touchCredential env.now keyID)
        else (none, store)
    | none =>
      if headerOrg = "" then (none, store)
      else
        let hashes := store.agentCredentialHashes env.rank headerOrg
        match legacyAgent check env.rank hashes secret with
        | some agentID =>
          (some { orgID := headerOrg, agentID := agentID, operator := false,
                  name := "" }, store)
        | none => (none, store)
  else (none, store)

/-! ## What a verified secret is -/

theorem eq_append_of_hasPrefix {text start : String}
    (starts : hasPrefix text start = true) :
    text = start ++ String.ofList (text.toList.drop start.length) := by
  obtain ⟨rest, equal⟩ := List.isPrefixOf_iff_prefix.mp starts
  rw [← equal, ← String.length_toList, List.drop_left, ← String.toList_inj,
    ← equal]
  simp

theorem eq_append_of_keyOfSecret {tag secret keyID : String}
    (starts : hasPrefix secret tag = true)
    (named : keyOfSecret tag secret = some keyID) :
    ∃ rest, secret = tag ++ keyID ++ "_" ++ rest := by
  obtain ⟨⟨front, back⟩, cuts, rfl⟩ := Option.map_eq_some_iff.mp named
  have whole := eq_append_of_hasPrefix starts
  rw [eq_append_of_cut cuts] at whole
  refine ⟨back, whole.trans ?_⟩
  simp only [String.append_assoc]
  rfl

/-- The key of a secret is read back if it has no separator in it. -/
theorem keyOfSecret_append {keyID : String} (plain : '_' ∉ keyID.toList)
    (tag rest : String) :
    keyOfSecret tag (tag ++ keyID ++ "_" ++ rest) = some keyID := by
  have dropped : String.ofList
      ((tag ++ keyID ++ "_" ++ rest).toList.drop tag.length) =
      keyID ++ String.singleton '_' ++ rest := by
    simp only [String.append_assoc, String.toList_append]
    rw [← String.length_toList, List.drop_left, ← String.toList_inj]
    simp
  rw [keyOfSecret, dropped, cut_append plain]
  rfl

/-- The agent of a legacy secret has a hash that the secret matches. -/
theorem get?_of_legacyAgent {rank : String → Nat} {hashes : Table String}
    {secret agentID : String}
    (found : legacyAgent check rank hashes secret = some agentID) :
    ∃ hash, hashes.get? agentID = some hash ∧ check secret hash = true := by
  obtain ⟨entry, first, rfl⟩ := Option.map_eq_some_iff.mp found
  have member := List.mem_of_find?_eq_some first
  rw [List.mem_insertionSort] at member
  have matching := List.find?_some first
  exact ⟨entry.2, AList.mem_lookup_iff.mpr member, matching⟩

/-- The three ways in which a secret is verified, each with the identity it
gives. -/
inductive Verified (store : MemoryStore) (rank : String → Nat)
    (secret headerOrg : String) : Identity → Prop
  | operator {keyID rest : String} {token : OpToken}
      (form : secret = "sto_" ++ keyID ++ "_" ++ rest)
      (found : store.getOperatorToken keyID = some token)
      (matching : check secret token.hash = true) :
      Verified store rank secret headerOrg
        { orgID := token.orgID, agentID := "", operator := true,
          name := token.name }
  | keyed {keyID rest : String} {ref : CredRef}
      (form : secret = "st_" ++ keyID ++ "_" ++ rest)
      (found : store.getCredential keyID = some ref)
      (matching : check secret ref.hash = true) :
      Verified store rank secret headerOrg
        { orgID := ref.orgID, agentID := ref.agentID, operator := false,
          name := "" }
  | legacy {rest agentID hash : String}
      (form : secret = "st_" ++ rest)
      (found : (store.agentCredentialHashes rank headerOrg).get? agentID =
        some hash)
      (matching : check secret hash = true) :
      Verified store rank secret headerOrg
        { orgID := headerOrg, agentID := agentID, operator := false,
          name := "" }

theorem verified_of_authenticate {store : MemoryStore} {env : Env}
    {secret headerOrg : String} {identity : Identity}
    (authentic : (authenticate check store env secret headerOrg).1 =
      some identity) :
    Verified check store env.rank secret headerOrg identity := by
  unfold authenticate at authentic
  split at authentic
  · rename_i starts
    cases named : keyOfSecret "sto_" secret with
    | none => simp [named] at authentic
    | some keyID =>
        obtain ⟨rest, form⟩ := eq_append_of_keyOfSecret starts named
        cases found : store.getOperatorToken keyID with
        | none => simp [named, found] at authentic
        | some token =>
            by_cases matching : check secret token.hash = true
            · simp only [named, found, matching, if_true,
                Option.some.injEq] at authentic
              subst authentic
              exact .operator form found matching
            · simp [named, found, matching] at authentic
  split at authentic
  swap
  · cases authentic
  rename_i starts
  cases named : keyOfSecret "st_" secret with
  | some keyID =>
      obtain ⟨rest, form⟩ := eq_append_of_keyOfSecret starts named
      cases found : store.getCredential keyID with
      | none => simp [named, found] at authentic
      | some ref =>
          by_cases matching : check secret ref.hash = true
          · simp only [named, found, matching, if_true,
              Option.some.injEq] at authentic
            subst authentic
            exact .keyed form found matching
          · simp [named, found, matching] at authentic
  | none =>
      have form := eq_append_of_hasPrefix starts
      by_cases anonymous : headerOrg = ""
      · simp [named, anonymous] at authentic
      cases found : legacyAgent check env.rank
          (store.agentCredentialHashes env.rank headerOrg) secret with
      | none => simp [named, anonymous, found] at authentic
      | some agentID =>
          simp only [named, anonymous, if_false, found,
            Option.some.injEq] at authentic
          subst authentic
          obtain ⟨hash, listed, matching⟩ := get?_of_legacyAgent check found
          exact .legacy form listed matching

/-- A secret whose key is not that of a valid credential is refused. -/
theorem authenticate_of_unknown {store : MemoryStore} {keyID : String}
    (plain : '_' ∉ keyID.toList) (unknown : store.getCredential keyID = none)
    (env : Env) (rest headerOrg : String) :
    (authenticate check store env ("st_" ++ keyID ++ "_" ++ rest)
      headerOrg).1 = none := by
  have agent : hasPrefix ("st_" ++ keyID ++ "_" ++ rest) "sto_" = false := by
    simp [hasPrefix, List.isPrefixOf]
  have starts : hasPrefix ("st_" ++ keyID ++ "_" ++ rest) "st_" = true := by
    simp [hasPrefix]
  simp [authenticate, agent, starts, keyOfSecret_append plain, unknown]

/-- A request as it comes in: the bearer secret of its authorization header,
its organization header, and its route. -/
structure Incoming where
  secret : Option String
  headerOrg : String
  traceID : String
  route : Route

/-- The request that reaches the handlers. -/
def Incoming.verified (incoming : Incoming) (identity : Identity) : Request :=
  { caller := some identity, traceID := incoming.traceID,
    route := incoming.route }

/-- What serving a request returns: the response, the world it leaves, and the
calls of the handler. -/
abbrev Served := Response × World × List (Interaction.Mark Unit Call Env World)

/-- Authenticate a request and carry its handler to its end. -/
def serve (config : Config) (incoming : Incoming) (env : Env)
    (envs : Nat → Env) (world : World) : Served :=
  match incoming.secret with
  | none =>
    (errJSON 401 "missing_credentials"
      "Pass Authorization: Bearer <agent or operator secret>.", world, [])
  | some secret =>
    let verdict :=
      authenticate check world.store env secret incoming.headerOrg
    match verdict.1 with
    | none =>
      (errJSON 401 "invalid_credentials"
        "Unknown, revoked, or mismatched credential.", world, [])
    | some identity =>
      (handle config (incoming.verified identity)).complete (exec config) ()
        envs { world with store := verdict.2 }

end Api
end SettleAgent
