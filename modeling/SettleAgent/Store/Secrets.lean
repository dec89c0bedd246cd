import SettleAgent.Store.Memory
import SettleAgent.Runtime
import Mathlib.Data.List.Induction

/-!
# Stored secrets

The provider that `keys.Load` returns, and the two columns of the memory store
that hold third-party secrets.  A column holds sealed and plain texts side by
side, which only the mark in front of a sealed text tells apart.  Both columns
are keyed by organization and name, joined with a bar.
-/

namespace SettleAgent

/-! ## The local provider -/

/-- AES-256-GCM under one data key, with the key's identifier as additional
data.  Byte slices are texts here, as strings are in Go. -/
structure GCM where
  nonceSize : Nat
  sealText : String → String → String
  openText : String → String → Option String
  opens : ∀ nonce secret, openText nonce (sealText nonce secret) = some secret
  /-- Nothing else is opened. -/
  only : ∀ nonce sealed secret, openText nonce sealed = some secret →
    sealed = sealText nonce secret
  /-- A tag is appended. -/
  longer : ∀ nonce secret, secret.length < (sealText nonce secret).length

/-- `base64.StdEncoding`. -/
structure Base64 where
  encode : String → String
  decode : String → Option String
  decodes : ∀ raw, decode (encode raw) = some raw
  shorter : ∀ text raw, decode text = some raw → raw.length ≤ text.length

/-- `localProvider`.  Its data key has 32 bytes, which `aes.NewCipher` takes. -/
structure LocalKeys where
  id : String
  sign : String → List UInt8
  verify : String → List UInt8 → Bool
  gcm : GCM
  base64 : Base64
  /-- What `io.ReadFull` gets from the random source. -/
  random : String → Option String
  filled : ∀ draw nonce, random draw = some nonce →
    nonce.length = gcm.nonceSize

namespace LocalKeys

variable (keys : LocalKeys)

/-- `localProvider.Seal`. -/
def sealSecret (draw plaintext : String) : Option String :=
  (keys.random draw).map fun nonce =>
    "v1:" ++ keys.base64.encode (nonce ++ keys.gcm.sealText nonce plaintext)

/-- `localProvider.Open`. -/
def openSealed (sealed : String) : Option String :=
  if hasPrefix sealed "v1:" then
    (keys.base64.decode (String.ofList (sealed.toList.drop 3))).bind fun raw =>
      if raw.length < keys.gcm.nonceSize then none
      else keys.gcm.openText
        (String.ofList (raw.toList.take keys.gcm.nonceSize))
        (String.ofList (raw.toList.drop keys.gcm.nonceSize))
  else some sealed

def provider : KeyProvider where
  keyID := keys.id
  sign := keys.sign
  verify := keys.verify
  sealSecret := keys.sealSecret
  openSealed := keys.openSealed

variable {keys} {draw secret text : String}

theorem openSealed_sealSecret (sealed : keys.sealSecret draw secret = some text) :
    keys.openSealed text = some secret := by
  obtain ⟨nonce, drawn, rfl⟩ := Option.map_eq_some_iff.mp sealed
  have size := keys.filled draw nonce drawn
  have marked (rest : String) : hasPrefix ("v1:" ++ rest) "v1:" = true := by
    simp [hasPrefix]
  have unmarked (rest : String) :
      String.ofList (("v1:" ++ rest).toList.drop 3) = rest := by
    simp
  rw [← String.length_toList] at size
  have front (rest : String) : String.ofList
      ((nonce ++ rest).toList.take keys.gcm.nonceSize) = nonce := by
    simp [← size]
  have back (rest : String) : String.ofList
      ((nonce ++ rest).toList.drop keys.gcm.nonceSize) = rest := by
    simp [← size]
  have long (rest : String) :
      ¬ (nonce ++ rest).length < keys.gcm.nonceSize := by
    rw [String.length_append, ← size, String.length_toList]
    omega
  rw [openSealed, if_pos (marked _), unmarked, keys.base64.decodes]
  simp only [Option.bind_some, long, if_false, front, back]
  exact keys.gcm.opens nonce secret

theorem sealSecret_ne_empty (sealed : keys.sealSecret draw secret = some text) :
    text ≠ "" := by
  obtain ⟨nonce, _, rfl⟩ := Option.map_eq_some_iff.mp sealed
  simp

/-- A text without the mark is taken to be plain. -/
theorem openSealed_of_unmarked (unmarked : hasPrefix secret "v1:" = false) :
    keys.openSealed secret = some secret := by
  rw [openSealed, unmarked]
  rfl

/-- A text with the mark is never opened to itself: sealing makes it longer. -/
theorem openSealed_of_marked (marked : hasPrefix secret "v1:" = true) :
    keys.openSealed secret ≠ some secret := by
  rw [openSealed, if_pos marked]
  intro opened
  obtain ⟨raw, decoded, opened⟩ := Option.bind_eq_some_iff.mp opened
  split at opened
  · cases opened
  · have same := keys.gcm.only _ _ _ opened
    have longer := keys.gcm.longer
      (String.ofList (raw.toList.take keys.gcm.nonceSize)) secret
    have shorter := keys.base64.shorter _ _ decoded
    rw [← same] at longer
    simp only [String.length_ofList, List.length_drop,
      String.length_toList] at longer shorter
    omega

end LocalKeys

/-! ## Histories -/

/-- The calls that store secrets, and the one that configures the provider. -/
inductive SecretCall : Type
  | setKeyProvider
  | setIntegrationCredential (draw orgID name secret : String)
  | upsertMCPServer (uid draw : String) (now : Time) (server : MCPServer)
      (authToken : String)

/-- The effect of a call on the store. -/
def SecretCall.run (keys : LocalKeys) (store : MemoryStore) :
    SecretCall → MemoryStore
  | setKeyProvider => store.setKeyProvider (some keys.provider)
  | setIntegrationCredential draw orgID name secret =>
      (store.setIntegrationCredential draw orgID name secret).2
  | upsertMCPServer uid draw now server authToken =>
      (store.upsertMCPServer uid draw now server authToken).2

/-- A secret that was stored, and the text that it was sealed to, unless it was
stored as it is. -/
structure Deposit where
  orgID : String
  name : String
  secret : String
  sealed : Option String

/-- What is in the column. -/
def Deposit.text (deposit : Deposit) : String :=
  deposit.sealed.getD deposit.secret

/-- Whether the provider is configured, and what was stored in both columns, in
order. -/
structure Deposits where
  configured : Bool := false
  credentials : List Deposit := []
  tokens : List Deposit := []

/-- The deposit that a call makes.  No secret is sealed before the provider is
configured, and none if no nonce can be drawn. -/
def Deposits.make (keys : LocalKeys) (deposits : Deposits)
    (draw orgID name secret : String) : Deposit where
  orgID := orgID
  name := name
  secret := secret
  sealed := if deposits.configured ∧ secret ≠ "" then
    keys.sealSecret draw secret else none

def Deposits.next (keys : LocalKeys) (deposits : Deposits) :
    SecretCall → Deposits
  | .setKeyProvider => { deposits with configured := true }
  | .setIntegrationCredential draw orgID name secret =>
      if secret = "" then deposits
      else { deposits with credentials := deposits.credentials ++
        [deposits.make keys draw orgID name secret] }
  | .upsertMCPServer _ draw _ server authToken =>
      { deposits with tokens := deposits.tokens ++
        [deposits.make keys draw server.orgID server.name authToken] }

/-- The store after a history of calls. -/
def storeAfter (keys : LocalKeys) (calls : List SecretCall) : MemoryStore :=
  calls.foldl (SecretCall.run keys) MemoryStore.new

/-- What a history of calls has stored. -/
def depositsOf (keys : LocalKeys) (calls : List SecretCall) : Deposits :=
  calls.foldl (Deposits.next keys) {}

/-- The last deposit whose organization and name are joined to a key. -/
def lastUnder (deposits : List Deposit) (key : String) : Option Deposit :=
  (deposits.filter fun deposit =>
    key = MemoryStore.mcpKey deposit.orgID deposit.name).getLast?

/-- The last secret stored for an organization and a name. -/
def lastSecret (deposits : List Deposit) (orgID name : String) :
    Option String :=
  ((deposits.filter fun deposit =>
    deposit.orgID = orgID ∧ deposit.name = name).getLast?).map Deposit.secret

/-- Joined to the same key are only pairs with the same last secret, and once
the provider is configured no text that is in use and bears the mark was stored
as it is. -/
structure Legible (configured : Bool) (deposits : List Deposit) : Prop where
  unmixed : ∀ orgID name otherOrg otherName,
    MemoryStore.mcpKey orgID name = MemoryStore.mcpKey otherOrg otherName →
      lastSecret deposits orgID name = lastSecret deposits otherOrg otherName
  unmarked : configured = true → ∀ deposit,
    lastUnder deposits (MemoryStore.mcpKey deposit.orgID deposit.name) =
      some deposit → deposit.sealed = none →
        hasPrefix deposit.secret "v1:" = false

theorem getLast?_filter_concat {α : Type} (wanted : α → Bool) (rows : List α)
    (row : α) :
    ((rows ++ [row]).filter wanted).getLast? =
      if wanted row then some row else (rows.filter wanted).getLast? := by
  rw [List.filter_append]
  cases chosen : wanted row with
  | true => simp [chosen]
  | false => simp [chosen]

theorem lastUnder_concat (deposits : List Deposit) (deposit : Deposit)
    (key : String) :
    lastUnder (deposits ++ [deposit]) key =
      if key = MemoryStore.mcpKey deposit.orgID deposit.name then some deposit
      else lastUnder deposits key := by
  rw [lastUnder, getLast?_filter_concat]
  simp only [decide_eq_true_eq]
  rfl

theorem lastSecret_concat (deposits : List Deposit) (deposit : Deposit)
    (orgID name : String) :
    lastSecret (deposits ++ [deposit]) orgID name =
      if deposit.orgID = orgID ∧ deposit.name = name then some deposit.secret
      else lastSecret deposits orgID name := by
  rw [lastSecret, getLast?_filter_concat]
  simp only [decide_eq_true_eq]
  split
  · rfl
  · rfl

/-- The last deposit under a key is the last one for its own organization and
name. -/
theorem lastSecret_of_lastUnder {deposits : List Deposit} {deposit : Deposit}
    {key : String} (last : lastUnder deposits key = some deposit) :
    key = MemoryStore.mcpKey deposit.orgID deposit.name ∧
      lastSecret deposits deposit.orgID deposit.name =
        some deposit.secret := by
  induction deposits using List.reverseRecOn with
  | nil => cases last
  | append_singleton deposits newest inductionHypothesis =>
      rw [lastUnder_concat] at last
      rw [lastSecret_concat]
      split at last
      · rename_i same
        obtain rfl := Option.some.inj last
        exact ⟨same, if_pos ⟨rfl, rfl⟩⟩
      · rename_i different
        obtain ⟨joined, earlier⟩ := inductionHypothesis last
        rw [if_neg]
        · exact ⟨joined, earlier⟩
        · rintro ⟨sameOrg, sameName⟩
          rw [sameOrg, sameName] at different
          exact different joined

/-- Nothing is stored for a pair whose key has no deposit. -/
theorem lastSecret_of_unused {deposits : List Deposit} {orgID name : String}
    (unused : lastUnder deposits (MemoryStore.mcpKey orgID name) = none) :
    lastSecret deposits orgID name = none := by
  rw [lastUnder, List.getLast?_eq_none_iff, List.filter_eq_nil_iff] at unused
  rw [lastSecret, Option.map_eq_none_iff, List.getLast?_eq_none_iff,
    List.filter_eq_nil_iff]
  intro deposit member own
  have pair := of_decide_eq_true own
  apply unused deposit member
  rw [pair.1, pair.2]
  exact decide_eq_true rfl

/-! ## What the store holds -/

/-- A deposit comes from the provider, if it is configured. -/
def Deposit.Made (keys : LocalKeys) (configured : Bool)
    (deposit : Deposit) : Prop :=
  ∀ text ∈ deposit.sealed, configured = true ∧
    ∃ draw, keys.sealSecret draw deposit.secret = some text

/-- The store is the one that the deposits describe. -/
structure Reflects (keys : LocalKeys) (store : MemoryStore)
    (deposits : Deposits) : Prop where
  provider : store.keyProvider =
    if deposits.configured then some keys.provider else none
  credentials : ∀ key, store.integCreds.get? key =
    (lastUnder deposits.credentials key).map Deposit.text
  tokens : ∀ key, (store.mcpServers.get? key).map MCPEntry.token =
    (lastUnder deposits.tokens key).map Deposit.text
  madeCredentials : ∀ deposit ∈ deposits.credentials,
    deposit.Made keys deposits.configured
  madeTokens : ∀ deposit ∈ deposits.tokens,
    deposit.Made keys deposits.configured

variable {keys : LocalKeys} {store : MemoryStore} {deposits : Deposits}

theorem made_make (draw orgID name secret : String) :
    (deposits.make keys draw orgID name secret).Made keys
      deposits.configured := by
  intro text sealed
  simp only [Deposits.make, Option.mem_def, Option.ite_none_right_eq_some]
    at sealed
  exact ⟨sealed.1.1, draw, sealed.2⟩

theorem made_concat {stored : List Deposit}
    (made : ∀ deposit ∈ stored, deposit.Made keys deposits.configured)
    (draw orgID name secret : String) :
    ∀ deposit ∈ stored ++ [deposits.make keys draw orgID name secret],
      deposit.Made keys deposits.configured := by
  intro deposit member
  rcases List.mem_append.mp member with old | new
  · exact made deposit old
  · rw [List.mem_singleton.mp new]
    exact made_make draw orgID name secret

/-- What is written to the column is the text of the deposit. -/
theorem Reflects.sealLocked (holds : Reflects keys store deposits)
    (draw orgID name secret : String) :
    store.sealLocked draw secret =
      (deposits.make keys draw orgID name secret).text := by
  rw [MemoryStore.sealLocked, holds.provider]
  cases given : deposits.configured with
  | false => simp [Deposit.text, Deposits.make, given]
  | true =>
      by_cases empty : secret = ""
      · simp [Deposit.text, Deposits.make, empty]
      · simp [Deposit.text, Deposits.make, given, empty, LocalKeys.provider]

/-- So it is what the column holds under the key of the deposit. -/
theorem Reflects.lastUnder_make (holds : Reflects keys store deposits)
    (stored : List Deposit) (draw orgID name secret key : String) :
    (lastUnder (stored ++ [deposits.make keys draw orgID name secret])
        key).map Deposit.text =
      if key = MemoryStore.mcpKey orgID name then
        some (store.sealLocked draw secret)
      else (lastUnder stored key).map Deposit.text := by
  rw [lastUnder_concat, holds.sealLocked draw orgID name secret, apply_ite
    (Option.map Deposit.text)]
  rfl

theorem Reflects.next (holds : Reflects keys store deposits) (call : SecretCall) :
    Reflects keys (call.run keys store) (deposits.next keys call) := by
  cases call with
  | setKeyProvider =>
      refine ⟨rfl, holds.credentials, holds.tokens, ?_, ?_⟩
      · intro deposit member text sealed
        exact ⟨rfl, (holds.madeCredentials deposit member text sealed).2⟩
      · intro deposit member text sealed
        exact ⟨rfl, (holds.madeTokens deposit member text sealed).2⟩
  | setIntegrationCredential draw orgID name secret =>
      simp only [SecretCall.run, MemoryStore.setIntegrationCredential,
        Deposits.next]
      split
      · exact holds
      · refine ⟨holds.provider, ?_, holds.tokens, ?_, holds.madeTokens⟩
        · intro key
          rw [Table.get?_set, holds.lastUnder_make, holds.credentials]
        · exact made_concat holds.madeCredentials draw orgID name secret
  | upsertMCPServer uid draw now server authToken =>
      refine ⟨holds.provider, holds.credentials, ?_, holds.madeCredentials, ?_⟩
      · intro key
        simp only [SecretCall.run, MemoryStore.upsertMCPServer, Deposits.next]
        rw [Table.get?_set, holds.lastUnder_make, ← holds.tokens,
          apply_ite (Option.map MCPEntry.token)]
        rfl
      · exact made_concat holds.madeTokens draw server.orgID server.name
          authToken

theorem reflects_storeAfter (keys : LocalKeys) (calls : List SecretCall) :
    Reflects keys (storeAfter keys calls) (depositsOf keys calls) := by
  induction calls using List.reverseRecOn with
  | nil => exact ⟨rfl, fun _ => rfl, fun _ => rfl, by simp [depositsOf],
      by simp [depositsOf]⟩
  | append_singleton calls call inductionHypothesis =>
      rw [storeAfter, depositsOf, List.foldl_append, List.foldl_append]
      exact inductionHypothesis.next call

/-- A text is opened to its secret unless the provider takes a plain one to be
sealed. -/
theorem Reflects.openLocked_iff (holds : Reflects keys store deposits)
    {deposit : Deposit} (made : deposit.Made keys deposits.configured) :
    store.openLocked deposit.text = some deposit.secret ↔
      (deposits.configured = true → deposit.sealed = none →
        hasPrefix deposit.secret "v1:" = false) := by
  rw [MemoryStore.openLocked, holds.provider]
  cases sealed : deposit.sealed with
  | some text =>
      obtain ⟨given, draw, done⟩ := made text sealed
      have filled := LocalKeys.sealSecret_ne_empty done
      simp only [Deposit.text, sealed, Option.getD_some, filled, if_false,
        given, if_true, LocalKeys.provider,
        LocalKeys.openSealed_sealSecret done]
      simp
  | none =>
      simp only [Deposit.text, sealed, Option.getD_none]
      by_cases empty : deposit.secret = ""
      · simp [empty, hasPrefix]
      · rw [if_neg empty]
        cases given : deposits.configured with
        | false => simp
        | true =>
            simp only [if_true, LocalKeys.provider, true_imp_iff]
            cases marked : hasPrefix deposit.secret "v1:" with
            | false => simp [LocalKeys.openSealed_of_unmarked marked]
            | true => simp [LocalKeys.openSealed_of_marked marked]

/-- A column gives back the last secrets if and only if it is legible. -/
theorem Reflects.returned_iff (holds : Reflects keys store deposits)
    {stored : List Deposit}
    (made : ∀ deposit ∈ stored, deposit.Made keys deposits.configured) :
    (∀ orgID name, ((lastUnder stored (MemoryStore.mcpKey orgID name)).map
        Deposit.text).bind store.openLocked = lastSecret stored orgID name) ↔
      Legible deposits.configured stored := by
  constructor
  · intro returned
    constructor
    · intro orgID name otherOrg otherName joined
      rw [← returned, ← returned, joined]
    · intro given deposit last
      have opened := returned deposit.orgID deposit.name
      rw [last, (lastSecret_of_lastUnder last).2] at opened
      exact (holds.openLocked_iff (made deposit
        (List.mem_of_mem_filter (List.mem_of_getLast? last)))).mp opened given
  · intro legible orgID name
    cases last : lastUnder stored (MemoryStore.mcpKey orgID name) with
    | none => exact (lastSecret_of_unused last).symm
    | some deposit =>
        obtain ⟨joined, own⟩ := lastSecret_of_lastUnder last
        rw [legible.unmixed orgID name deposit.orgID deposit.name joined, own]
        refine (holds.openLocked_iff (made deposit
          (List.mem_of_mem_filter (List.mem_of_getLast? last)))).mpr ?_
        intro given
        rw [joined] at last
        exact legible.unmarked given deposit last

/-- After every history of calls, with the provider configured at any point or
never, both columns give back the last secret stored for every organization and
name, if and only if they are legible. -/
theorem secrets_returned_iff (keys : LocalKeys) (calls : List SecretCall) :
    let store := storeAfter keys calls
    let deposits := depositsOf keys calls
    ((∀ orgID name, store.getIntegrationCredential orgID name =
        lastSecret deposits.credentials orgID name) ∧
      ∀ orgID name, (store.getMCPServer orgID name).map Prod.snd =
        lastSecret deposits.tokens orgID name) ↔
    Legible deposits.configured deposits.credentials ∧
      Legible deposits.configured deposits.tokens := by
  intro store deposits
  have holds : Reflects keys store deposits := reflects_storeAfter keys calls
  have token (orgID name : String) :
      (store.getMCPServer orgID name).map Prod.snd =
        ((lastUnder deposits.tokens (MemoryStore.mcpKey orgID name)).map
          Deposit.text).bind store.openLocked := by
    rw [← holds.tokens, MemoryStore.getMCPServer]
    cases store.mcpServers.get? (MemoryStore.mcpKey orgID name) with
    | none => rfl
    | some entry =>
        simp only [Option.map_map, Option.map_some, Option.bind_some]
        cases store.openLocked entry.token <;> rfl
  simp only [MemoryStore.getIntegrationCredential, holds.credentials, token]
  exact and_congr (holds.returned_iff holds.madeCredentials)
    (holds.returned_iff holds.madeTokens)

namespace Sample

/-- Text without the tag at its end. -/
def untagged (sealed : String) : Option String :=
  if sealed.toList.getLast? = some '#' then
    some (String.ofList sealed.toList.dropLast)
  else none

theorem untagged_append (secret : String) :
    untagged (secret ++ "#") = some secret := by
  simp [untagged]

theorem eq_of_untagged (sealed secret : String)
    (opened : untagged sealed = some secret) : sealed = secret ++ "#" := by
  unfold untagged at opened
  split at opened
  · rename_i tagged
    rw [← Option.some.inj opened]
    apply String.toList_inj.mp
    simpa using (List.dropLast_append_getLast? '#' tagged).symm
  · cases opened

theorem length_lt_tagged (secret : String) :
    secret.length < (secret ++ "#").length := by
  rw [String.length_append]
  exact Nat.lt_succ_self _

theorem length_le_of_eq (text raw : String) (same : some text = some raw) :
    raw.length ≤ text.length := by
  rw [Option.some.inj same]

/-- A tag is all that sealing adds, and no nonce is needed. -/
def localKeys : LocalKeys where
  id := "key"
  sign := fun _ => []
  verify := fun _ _ => false
  gcm :=
    { nonceSize := 0
      sealText := fun _ secret => secret ++ "#"
      openText := fun _ => untagged
      opens := fun _ => untagged_append
      only := fun _ => eq_of_untagged
      longer := fun _ => length_lt_tagged }
  base64 :=
    { encode := fun raw => raw
      decode := some
      decodes := fun _ => rfl
      shorter := length_le_of_eq }
  random := fun _ => some ""
  filled := fun _ _ drawn =>
    congrArg String.length (Option.some.inj drawn).symm

end Sample

/-- A secret that looks sealed is stored before the provider is configured, and
is not read back afterwards.  Another one is read for an organization and a name
that are joined to the same key, although nothing was stored for them. -/
theorem marked_secret_is_lost :
    let early : List SecretCall :=
      [.setIntegrationCredential "" "acme" "stripe" "v1:live", .setKeyProvider]
    let mixed : List SecretCall :=
      [.setIntegrationCredential "" "acme|eu" "stripe" "live"]
    lastSecret (depositsOf Sample.localKeys early).credentials "acme"
        "stripe" = some "v1:live" ∧
      (storeAfter Sample.localKeys early).getIntegrationCredential "acme"
        "stripe" = none ∧
      lastSecret (depositsOf Sample.localKeys mixed).credentials "acme"
        "eu|stripe" = none ∧
      (storeAfter Sample.localKeys mixed).getIntegrationCredential "acme"
        "eu|stripe" = some "live" := by
  decide +kernel

end SettleAgent
