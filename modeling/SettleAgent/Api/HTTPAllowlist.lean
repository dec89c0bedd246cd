import SettleAgent.Interaction.Session
import SettleAgent.Postgres.Receipts
import SettleAgent.Protocol.Operations

/-!
# The HTTP allowlist, from the operator to the handler

The operator's lists of domains and methods go through a store to the handler of
`http.request`.  The memory store hands back the Go values it was given, so the
lists are slices of strings.  Postgres hands back what was decoded from JSON, so
they are slices of dynamically typed values.  The handler only reads the latter,
and it compares methods as they were written.
-/

namespace SettleAgent

open Interaction Integrations

/-! ## What the operator configures -/

/-- The methods that are configured, by default `GET` and `HEAD`. -/
def Api.HTTPDomainsBody.configured (body : Api.HTTPDomainsBody) :
    List String :=
  if body.methods = [] then ["GET", "HEAD"] else body.methods

/-- The host is the domain or one of its subdomains.  Neither case nor a final
dot matters. -/
def InDomain (runtime : Runtime) (host domain : String) : Prop :=
  let host := runtime.toLower (trimDot host)
  let domain := runtime.toLower (runtime.trimSpace (trimDot domain))
  domain ≠ "" ∧ (host = domain ∨ hasSuffix host ("." ++ domain) = true)

/-- The request is one that the configuration is meant to admit. -/
structure Admitted (runtime : Runtime) (methods domains : List String)
    (action : TxnAction) (host : String) : Prop where
  method : ∃ method ∈ methods,
    runtime.equalFold (requestMethod runtime action) method = true
  domain : ∃ domain ∈ domains, InDomain runtime host domain

theorem domainAllowed_iff {runtime : Runtime} {host : String}
    {domains : List String} :
    domainAllowed runtime host domains = true ↔
      ∃ domain ∈ domains, InDomain runtime host domain := by
  simp [domainAllowed, InDomain]

/-- The settings as the handler of the route writes them. -/
def allowlistOf (clean methods : List String) : List (String × Value) :=
  [("domains", .strings clean), ("methods", .strings methods)]

/-- The route refuses a body without any call, or stores the allowlist. -/
theorem handleSetHTTPDomains_cases (config : Config) (request : Api.Request)
    (body : Api.Decoded Api.HTTPDomainsBody) :
    (∃ response, response.code ≠ 201 ∧
      Api.handleSetHTTPDomains config request body = .ret response) ∨
    ∃ clean event response,
      body.value.domains.mapM (Api.cleanDomain config.runtime) = .ok clean ∧
      Api.handleSetHTTPDomains config request body =
        .call (.setIntegrationConfig request.orgOf "http"
            (allowlistOf clean body.value.configured)) fun _ =>
          .call (.emit event) fun _ => .ret response := by
  unfold Api.handleSetHTTPDomains
  dsimp only
  split
  · exact Or.inl ⟨_, by decide, rfl⟩
  split
  · exact Or.inl ⟨_, by decide, rfl⟩
  cases cleaned : body.value.domains.mapM (Api.cleanDomain config.runtime) with
  | error error => exact Or.inl ⟨_, by simp [Api.errJSON], rfl⟩
  | ok clean =>
      dsimp only
      split
      · exact Or.inl ⟨_, by simp [Api.errJSON], rfl⟩
      · exact Or.inr ⟨clean, _, _, rfl, rfl⟩

/-! ## The two stores -/

/-- `encoding/json`: a value that was encoded and then decoded into `any`.  A
slice of strings comes back as a slice of dynamically typed values. -/
structure JSONCodec where
  decoded : Value → Value
  strings : ∀ items, decoded (.strings items) = .slice (items.map .string)

namespace Postgres

/-- A row of `integration_configs`, as it is read back. -/
structure ConfigRow where
  orgID : String
  name : String
  config : List (String × Value)

/-- Whether the row is the one of this organization and name. -/
def ConfigRow.isFor (canonical : UUIDs) (orgID name : String)
    (row : ConfigRow) : Bool :=
  canonical orgID = some row.orgID && row.name = name

/-- `PGStore.SetIntegrationConfig`, for an organization that exists.  The row
takes the place of the one with its primary key. -/
def setIntegrationConfig (canonical : UUIDs) (codec : JSONCodec)
    (rows : List ConfigRow) (orgID name : String)
    (config : List (String × Value)) : List ConfigRow :=
  match canonical orgID with
  | none => rows
  | some id =>
      { orgID := id, name := name,
        config := config.map fun field => (field.1, codec.decoded field.2) } ::
      rows.filter fun old => !old.isFor canonical orgID name

/-- `PGStore.GetIntegrationConfig`. -/
def getIntegrationConfig (canonical : UUIDs) (rows : List ConfigRow)
    (orgID name : String) : Object :=
  (rows.find? (ConfigRow.isFor canonical orgID name)).map ConfigRow.config

section Rows

variable {canonical : UUIDs} {codec : JSONCodec} {rows : List ConfigRow}
  {orgID other name : String} {config : List (String × Value)}

theorem getIntegrationConfig_set_self (valid : (canonical orgID).isSome) :
    getIntegrationConfig canonical
        (setIntegrationConfig canonical codec rows orgID name config) orgID
        name =
      some (config.map fun field => (field.1, codec.decoded field.2)) := by
  obtain ⟨id, known⟩ := Option.isSome_iff_exists.mp valid
  simp [setIntegrationConfig, known, getIntegrationConfig, ConfigRow.isFor]

theorem getIntegrationConfig_set_of_ne
    (different : canonical other ≠ canonical orgID) :
    getIntegrationConfig canonical
        (setIntegrationConfig canonical codec rows other name config) orgID
        name = getIntegrationConfig canonical rows orgID name := by
  unfold setIntegrationConfig
  split
  · rfl
  rename_i id known
  have elsewhere : ∀ row : ConfigRow, row.isFor canonical orgID name = true →
      row.isFor canonical other name = false := by
    intro row own
    simp only [ConfigRow.isFor, Bool.and_eq_true, decide_eq_true_eq] at own
    simp only [ConfigRow.isFor, Bool.and_eq_false_iff, decide_eq_false_iff_not]
    left
    rw [← own.1]
    exact different
  rw [getIntegrationConfig, List.find?_cons_of_neg, List.find?_filter,
    getIntegrationConfig]
  · congr 2
    funext row
    cases own : row.isFor canonical orgID name with
    | false => simp
    | true => simp [elsewhere row own]
  · intro own
    have apart := elsewhere _ own
    simp [ConfigRow.isFor, known] at apart

end Rows

/-- The calls that the route makes, over the Postgres store.  The replies to all
other calls are arbitrary. -/
def serveConfig (canonical : UUIDs) (codec : JSONCodec)
    (other : (request : Call) → request.Resp) (request : Call)
    (rows : List ConfigRow) : request.Resp × List ConfigRow :=
  match request with
  | .setIntegrationConfig orgID name config =>
      ((), setIntegrationConfig canonical codec rows orgID name config)
  | request => (other request, rows)

end Postgres

/-- The call leaves the HTTP settings of this organization alone. -/
def Call.Spares (own : String → Prop) : Call → Prop
  | .setIntegrationConfig orgID name _ => name = "http" ∧ ¬ own orgID
  | _ => True

/-- A store on which the operator configures the allowlist, with the calls that
come after. -/
inductive Backend : Type
  | memory (world : World) (envs : Nat → Env) (later : List (Call × Env))
  | postgres (canonical : Postgres.UUIDs) (codec : JSONCodec)
      (rows : List Postgres.ConfigRow)
      (other : (request : Call) → request.Resp) (later : List Call)

namespace Backend

variable (config : Config) (request : Api.Request)

/-- The response to the operator, and the settings that are read back later. -/
def serve : Backend → Api.Response × Object
  | .memory world envs later =>
      let served := (Api.handle config request).complete (exec config) request
        envs world
      let last := later.foldl
        (fun world call => (exec config call.1 call.2 world).2) served.2.1
      (served.1, last.store.getIntegrationConfig request.orgOf "http")
  | .postgres canonical codec rows other later =>
      let served := (Api.handle config request).evaluate
        (Postgres.serveConfig canonical codec other) rows
      let last := later.foldl (fun rows call =>
        (Postgres.serveConfig canonical codec other call rows).2) served.2
      (served.1, Postgres.getIntegrationConfig canonical last request.orgOf
        "http")

/-- The organization can be stored, and no later call changes its settings. -/
def Undisturbed (orgID : String) : Backend → Prop
  | .memory _ _ later =>
      ∀ call ∈ later, call.1.Spares fun other => other = orgID
  | .postgres canonical _ _ _ later =>
      (canonical orgID).isSome ∧ ∀ call ∈ later,
        call.Spares fun other => canonical other = canonical orgID

/-- The store is Postgres. -/
def IsPostgres : Backend → Prop
  | .memory _ _ _ => False
  | .postgres _ _ _ _ _ => True

/-- What the lists of the operator are read back as. -/
def readBack (items : List String) : Backend → Value
  | .memory _ _ _ => .strings items
  | .postgres _ _ _ _ _ => .slice (items.map .string)

/-- The settings that a configuration is read back as. -/
def settings (clean methods : List String) (backend : Backend) : Object :=
  some [("domains", backend.readBack clean),
    ("methods", backend.readBack methods)]

end Backend

section Later

variable {config : Config} {world : World} {orgID : String}

theorem getIntegrationConfig_exec {call : Call} (env : Env)
    (spares : call.Spares fun other => other = orgID) :
    (exec config call env world).2.store.getIntegrationConfig orgID "http" =
      world.store.getIntegrationConfig orgID "http" := by
  cases call with
  | setIntegrationConfig other name settings =>
      obtain ⟨rfl, different⟩ := spares
      refine Table.get?_set_of_ne world.store.integConfig settings ?_
      intro same
      refine different ?_
      simpa [MemoryStore.mcpKey] using same.symm
  | revokeGrant owner grantID =>
      change (world.store.revokeGrant env.now owner
        grantID).2.getIntegrationConfig orgID "http" = _
      unfold MemoryStore.revokeGrant
      split
      · split <;> rfl
      · rfl
  | revokeCredential keyID =>
      change (world.store.revokeCredential keyID).2.getIntegrationConfig orgID
        "http" = _
      unfold MemoryStore.revokeCredential
      split <;> rfl
  | activatePolicySet owner version =>
      change (world.store.activatePolicySet owner
        version).2.getIntegrationConfig orgID "http" = _
      simp only [MemoryStore.activatePolicySet]
      split <;> rfl
  | setIntegrationCredential owner name secret =>
      change (world.store.setIntegrationCredential env.nonce owner name
        secret).2.getIntegrationConfig orgID "http" = _
      unfold MemoryStore.setIntegrationCredential
      split <;> rfl
  | _ => rfl

theorem getIntegrationConfig_later {later : List (Call × Env)}
    (spares : ∀ call ∈ later, call.1.Spares fun other => other = orgID) :
    (later.foldl (fun world call => (exec config call.1 call.2 world).2)
        world).store.getIntegrationConfig orgID "http" =
      world.store.getIntegrationConfig orgID "http" := by
  induction later generalizing world with
  | nil => rfl
  | cons call later inductionHypothesis =>
      rw [List.foldl_cons, inductionHypothesis
        fun other member => spares other (List.mem_cons_of_mem _ member)]
      exact getIntegrationConfig_exec call.2 (spares call List.mem_cons_self)

theorem Postgres.getIntegrationConfig_later {canonical : UUIDs}
    {codec : JSONCodec} {rows : List ConfigRow}
    {other : (request : Call) → request.Resp} {later : List Call}
    (spares : ∀ call ∈ later,
      call.Spares fun owner => canonical owner = canonical orgID) :
    getIntegrationConfig canonical (later.foldl (fun rows call =>
        (serveConfig canonical codec other call rows).2) rows) orgID "http" =
      getIntegrationConfig canonical rows orgID "http" := by
  induction later generalizing rows with
  | nil => rfl
  | cons call later inductionHypothesis =>
      rw [List.foldl_cons, inductionHypothesis
        fun other member => spares other (List.mem_cons_of_mem _ member)]
      have spared := spares call List.mem_cons_self
      cases call with
      | setIntegrationConfig owner name settings =>
          obtain ⟨rfl, different⟩ := spared
          exact getIntegrationConfig_set_of_ne different
      | _ => rfl

end Later

/-! ## What the handler reads -/

section Reading

variable {config : Config} {request : Api.Request}
  {body : Api.Decoded Api.HTTPDomainsBody} {backend : Backend}

/-- What a configuration that was accepted is read back as. -/
theorem Backend.settings_eq (route : request.route = .setHTTPDomains body)
    (undisturbed : backend.Undisturbed request.orgOf)
    (accepted : (backend.serve config request).1.code = 201) :
    ∃ clean,
      body.value.domains.mapM (Api.cleanDomain config.runtime) = .ok clean ∧
      (backend.serve config request).2 =
        backend.settings clean body.value.configured := by
  have handled : Api.handle config request =
      Api.handleSetHTTPDomains config request body := by
    rw [Api.handle, route]
  cases backend with
  | memory world envs later =>
      simp only [Backend.serve, handled] at accepted ⊢
      rw [getIntegrationConfig_later undisturbed]
      rcases handleSetHTTPDomains_cases config request body with
        ⟨response, refused, program⟩ | ⟨clean, event, response, cleaned, program⟩
      · rw [program] at accepted
        exact absurd accepted refused
      · rw [program]
        exact ⟨clean, cleaned, Table.get?_set_self _ _ _⟩
  | postgres canonical codec rows other later =>
      obtain ⟨valid, undisturbed⟩ := undisturbed
      simp only [Backend.serve, handled] at accepted ⊢
      rw [Postgres.getIntegrationConfig_later undisturbed]
      rcases handleSetHTTPDomains_cases config request body with
        ⟨response, refused, program⟩ | ⟨clean, event, response, cleaned, program⟩
      · rw [program] at accepted
        exact absurd accepted refused
      · rw [program]
        refine ⟨clean, cleaned,
          (Postgres.getIntegrationConfig_set_self valid).trans ?_⟩
        simp [allowlistOf, codec.strings, Backend.settings, Backend.readBack]

theorem Backend.toStrings_readBack (postgres : backend.IsPostgres)
    (items : List String) : toStrings (backend.readBack items) = items := by
  cases backend with
  | memory world envs later => exact postgres.elim
  | postgres canonical codec rows other later =>
      change (items.map Value.string).filterMap _ = items
      rw [List.filterMap_map]
      exact List.filterMap_some

theorem allowedDomains_readBack (postgres : backend.IsPostgres)
    (clean methods : List String) :
    allowedDomains (backend.settings clean methods) = clean :=
  Backend.toStrings_readBack postgres clean

theorem allowedMethods_readBack (postgres : backend.IsPostgres)
    (clean : List String) (body : Api.HTTPDomainsBody) :
    allowedMethods (backend.settings clean body.configured) =
      body.configured := by
  have given : body.configured ≠ [] := by
    unfold Api.HTTPDomainsBody.configured
    split
    · simp
    · assumption
  have read : toStrings ((backend.settings clean body.configured).get?
      "methods") = body.configured :=
    Backend.toStrings_readBack postgres body.configured
  rw [allowedMethods, read, if_neg given]

/-- The memory store hands back a type that the handler does not read. -/
theorem allowedDomains_of_memory (memory : ¬ backend.IsPostgres)
    (clean methods : List String) :
    allowedDomains (backend.settings clean methods) = [] := by
  cases backend with
  | memory world envs later => rfl
  | postgres canonical codec rows other later => exact absurd trivial memory

/-- Once the operator's lists are accepted, a request passes the checks on method
and domain exactly when the lists admit it, if the settings come from Postgres
and the method is listed in upper case; the memory store admits nothing. -/
theorem allowlist_admits_iff (route : request.route = .setHTTPDomains body)
    (undisturbed : backend.Undisturbed request.orgOf)
    (accepted : (backend.serve config request).1.code = 201)
    {action : TxnAction} {raw : String} {url : ParsedURL}
    (asked : requestURL config.runtime action = .ok (raw, url)) :
    ∃ clean,
      body.value.domains.mapM (Api.cleanDomain config.runtime) = .ok clean ∧
      let admitted := Admitted config.runtime body.value.configured clean
        action url.hostname
      (((∃ checked, checkAllowlist config.runtime
          (backend.serve config request).2 action = .ok checked) ↔ admitted) ↔
        (admitted → backend.IsPostgres ∧
          requestMethod config.runtime action ∈ body.value.configured)) := by
  obtain ⟨clean, cleaned, settings⟩ :=
    Backend.settings_eq route undisturbed accepted
  refine ⟨clean, cleaned, ?_⟩
  intro admitted
  have passes : (∃ checked, checkAllowlist config.runtime
      (backend.serve config request).2 action = .ok checked) ↔
      backend.IsPostgres ∧
        requestMethod config.runtime action ∈ body.value.configured ∧
        ∃ domain ∈ clean, InDomain config.runtime url.hostname domain := by
    rw [settings, ← domainAllowed_iff]
    constructor
    · rintro ⟨⟨text, target⟩, checked⟩
      obtain ⟨listed, same, allowed⟩ := checkAllowlist_eq_ok.mp checked
      rw [asked, Except.ok.injEq, Prod.mk.injEq] at same
      obtain ⟨rfl, rfl⟩ := same
      by_cases postgres : backend.IsPostgres
      · rw [allowedMethods_readBack postgres] at listed
        rw [allowedDomains_readBack postgres] at allowed
        exact ⟨postgres, listed, allowed⟩
      · rw [allowedDomains_of_memory postgres] at allowed
        simp [domainAllowed] at allowed
    · rintro ⟨postgres, listed, allowed⟩
      refine ⟨(raw, url), checkAllowlist_eq_ok.mpr ⟨?_, asked, ?_⟩⟩
      · rw [allowedMethods_readBack postgres]
        exact listed
      · rw [allowedDomains_readBack postgres]
        exact allowed
  rw [passes]
  constructor
  · intro same holds
    obtain ⟨postgres, listed, _⟩ := same.mpr holds
    exact ⟨postgres, listed⟩
  · intro suited
    constructor
    · rintro ⟨_, listed, domain⟩
      refine ⟨⟨_, listed, ?_⟩, domain⟩
      simp [Runtime.equalFold]
    · intro holds
      obtain ⟨postgres, listed⟩ := suited holds
      exact ⟨postgres, listed, holds.domain⟩

end Reading

namespace Sample

/-- The gateway on the web. -/
def webConfig : Config :=
  { config with runtime := web }

/-- The operator lists a domain, with these methods. -/
def exampleListed (methods : List String) : Api.Decoded Api.HTTPDomainsBody where
  failed := false
  value := { domains := ["example.com"], methods := methods }

def configuring (methods : List String) : Api.Request :=
  request (.setHTTPDomains (exampleListed methods))

def onMemory : Backend :=
  .memory world env []

def onPostgres : Backend :=
  .postgres some
    { decoded := fun
        | .strings items => .slice (items.map .string)
        | value => value
      strings := fun _ => rfl }
    [] (fun call => (exec webConfig call (env 0) world).1) []

end Sample

/-- A page of the domain, for which Postgres is asked. -/
theorem allowlist_admits_iff_fetching :
    (Sample.onPostgres.serve Sample.webConfig
        (Sample.configuring [])).1.code = 201 ∧
      ∃ clean, (["example.com"].mapM (Api.cleanDomain Sample.web) : Except String
        (List String)) = .ok clean ∧
      let admitted := Admitted Sample.web ["GET", "HEAD"] clean Sample.fetching
        "example.com"
      (((∃ checked, checkAllowlist Sample.web (Sample.onPostgres.serve
          Sample.webConfig (Sample.configuring [])).2 Sample.fetching =
            .ok checked) ↔ admitted) ↔
        (admitted → Sample.onPostgres.IsPostgres ∧
          requestMethod Sample.web Sample.fetching ∈ ["GET", "HEAD"])) := by
  have accepted : (Sample.onPostgres.serve Sample.webConfig
      (Sample.configuring [])).1.code = 201 := by
    decide +kernel
  refine ⟨accepted, ?_⟩
  exact @allowlist_admits_iff Sample.webConfig _ (Sample.exampleListed [])
    Sample.onPostgres rfl ⟨rfl, by simp⟩ accepted Sample.fetching
    "http://example.com" ⟨"http", "example.com", "example.com"⟩ (by rfl)

/-- The domain is listed and `GET` is a default method, but on the memory store
a page of the domain is refused; on Postgres it is refused if the method was
listed as `get`. -/
theorem listed_request_is_refused :
    let memory := Sample.onMemory.serve Sample.webConfig (Sample.configuring [])
    let postgres := Sample.onPostgres.serve Sample.webConfig
      (Sample.configuring ["get"])
    memory.1.code = 201 ∧
      (checkAllowlist Sample.web memory.2 Sample.fetching).isOk = false ∧
      postgres.1.code = 201 ∧
      (checkAllowlist Sample.web postgres.2 Sample.fetching).isOk = false ∧
      requestMethod Sample.web Sample.fetching = "GET" ∧
      Sample.web.equalFold "GET" "get" = true ∧
      (requestURL Sample.web Sample.fetching).toOption.map
        (fun asked => asked.2.hostname) = some "example.com" := by
  decide +kernel

end SettleAgent
