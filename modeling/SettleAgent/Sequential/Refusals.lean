import SettleAgent.Sequential.Approvals

/-!
# Bodies that do not decode

A decoder that fails leaves a value that was filled in part.  The handlers turn
such a request down before they look at the value and before they make any
call, all but the one that decides approvals: it goes on with whatever there
is.
-/

namespace SettleAgent

open Interaction

/-- The route reads a body, and the decoder has failed on it. -/
def Api.Route.Undecoded : Api.Route → Prop
  | .registerAgent body => body.failed = true
  | .createTxn body => body.failed = true
  | .proposeAction body => body.failed = true
  | .decideApproval _ body => body.failed = true
  | .registerMCPServer body => body.failed = true
  | .mcpCall body => body.failed = true
  | .createGrant body => body.failed = true
  | .verifyReceipt body => body.failed = true
  | .simulatePolicy body => body.failed = true
  | .createPolicySet body => body.failed = true
  | .setIntegrationCredential _ body => body.failed = true
  | .setHTTPDomains body => body.failed = true
  | _ => False

/-- The status code says that the client is at fault. -/
def Api.Response.Refuses (response : Api.Response) : Prop :=
  400 ≤ response.code ∧ response.code < 500

instance (response : Api.Response) : Decidable response.Refuses :=
  inferInstanceAs (Decidable (_ ∧ _))

/-- The stores agree on transactions, actions, approvals, receipts, grants,
policy sets and integration settings. -/
structure MemoryStore.Unaltered (before after : MemoryStore) : Prop where
  txns : after.txns = before.txns
  actions : after.actions = before.actions
  approvals : after.approvals = before.approvals
  receipts : after.receiptsList = before.receiptsList
  grants : after.grants = before.grants
  policySets : after.policySets = before.policySets
  credentials : after.integCreds = before.integCreds
  configs : after.integConfig = before.integConfig
  servers : after.mcpServers = before.mcpServers

theorem MemoryStore.Unaltered.refl (store : MemoryStore) :
    store.Unaltered store :=
  ⟨rfl, rfl, rfl, rfl, rfl, rfl, rfl, rfl, rfl⟩

/-- The request is an operator's decision on an approval that waits for one. -/
def Api.Request.Decides (request : Api.Request) (world : World) : Prop :=
  request.callerIsOperator = true ∧ ∃ id body,
    request.route = .decideApproval [id, "decide"] body ∧
      world.ledger.Waits request.orgOf id

section Handlers

variable {config : Config} {request : Api.Request} {world : World}
  {orgID approvalID decidedBy : String} {approve : Bool}

/-- The program only answers, and the answer is a refusal. -/
def TurnsDown (program : Gate Api.Response) : Prop :=
  ∃ response, program = pure response ∧ response.Refuses

/-- A body that does not decode is turned down on every route but one. -/
theorem handle_turnsDown (undecoded : request.route.Undecoded)
    (other : ∀ parts body, request.route ≠ .decideApproval parts body) :
    TurnsDown (Api.handle config request) := by
  obtain ⟨caller, traceID, route⟩ := request
  have refused (code : Nat) (msg why : String) (low : 400 ≤ code)
      (high : code < 500) : TurnsDown (pure (Api.errJSON code msg why)) :=
    ⟨_, rfl, low, high⟩
  cases route with
  | decideApproval parts body => exact absurd rfl (other parts body)
  | registerAgent body | createTxn body | proposeAction body
  | registerMCPServer body | mcpCall body | createGrant body
  | verifyReceipt body | simulatePolicy body | createPolicySet body
  | setIntegrationCredential name body | setHTTPDomains body =>
      have failed : body.failed = true := undecoded
      simp only [Api.handle, Api.handleRegisterAgent, Api.handleCreateTxn,
        Api.handleProposeAction, Api.handleRegisterMCPServer,
        Api.handleMCPCall, Api.handleCreateGrant, Api.handleVerifyReceipt,
        Api.handleSimulatePolicy, Api.handleCreatePolicySet,
        Api.handleSetIntegrationCredential, Api.handleSetHTTPDomains, failed,
        true_or, if_true]
      repeat' split
      all_goals exact refused _ _ _ (by omega) (by omega)
  | _ => exact undecoded.elim

/-- A decision on an approval that does not wait for one is turned down, and
nothing is changed. -/
theorem decideOn_of_idle (idle : ¬ world.ledger.Waits orgID approvalID) :
    Ends config (Api.decideOn orgID approvalID decidedBy approve)
      (fun response after => response.Refuses ∧ after = world) world := by
  simp only [Api.decideOn, Prog.perform_bind]
  intro env _
  have refused : (world.ledger.decideApproval env.now orgID approvalID decidedBy
      approve).1 = none := Ledger.decideApproval_eq_none.mpr idle
  rw [show (exec config (.decideApproval orgID approvalID decidedBy approve) env
    world).1 = none from refused]
  refine ⟨by decide, ?_⟩
  exact congrArg (fun ledger => { world with
    store := { world.store with toLedger := ledger } })
    (Ledger.decideApproval_of_none refused)

theorem applyGrant_spares (approval : Approval) :
    (Api.applyGrant orgID approval).AllCalls
      fun request => ¬ request.WritesApprovals := by
  unfold Api.applyGrant
  split
  · trivial
  refine ⟨id, fun found => ?_⟩
  cases found with
  | none => trivial
  | some action =>
      refine ⟨id, fun _ => ⟨id, fun txn => ?_⟩⟩
      cases txn with
      | none => trivial
      | some txn => exact ⟨id, fun _ => trivial⟩

theorem applyDenial_spares (approval : Approval) :
    (Api.applyDenial orgID approval).AllCalls
      fun request => ¬ request.WritesApprovals := by
  refine ⟨id, fun txn => ?_⟩
  cases txn with
  | none => trivial
  | some txn => exact ⟨id, fun _ => trivial⟩

/-- A decision on an approval that waits for one is carried out. -/
theorem decideOn_of_waits (waits : world.ledger.Waits orgID approvalID) :
    Ends config (Api.decideOn orgID approvalID decidedBy approve)
      (fun response after => response.code = 200 ∧
        after.ledger.approvals ≠ world.ledger.approvals) world := by
  simp only [Api.decideOn, Prog.perform_bind]
  intro env _
  cases done : (world.ledger.decideApproval env.now orgID approvalID decidedBy
      approve).1 with
  | none => exact absurd waits (Ledger.decideApproval_eq_none.mp done)
  | some approval =>
  rw [show (exec config (.decideApproval orgID approvalID decidedBy approve) env
    world).1 = some approval from done]
  obtain ⟨old, present, _, pending, rfl, written⟩ :=
    Ledger.decideApproval_of_some done
  intro telling _
  -- The approval is no longer pending, whatever is called after the decision.
  let keeps (state : World) : Prop :=
    state.ledger.approvals = world.ledger.approvals.set approvalID
      (Ledger.decided env.now decidedBy approve old)
  have kept (state : World) (request : Call) (env : Env) (holds : keeps state)
      (spares : ¬ request.WritesApprovals) :
      keeps (exec config request env state).2 :=
    (approvals_exec spares).trans holds
  have decided : keeps (exec config (.decideApproval orgID approvalID decidedBy
      approve) env world).2 := congrArg Ledger.approvals written
  have told (event : AuditEvent) := kept _ (.emit event) telling decided id
  have changed (state : World) (holds : keeps state) :
      state.ledger.approvals ≠ world.ledger.approvals := by
    intro same
    have found := Table.get?_set_self world.ledger.approvals approvalID
      (Ledger.decided env.now decidedBy approve old)
    rw [← holds, same, present, Option.some.injEq] at found
    have status := congrArg Approval.status found
    rw [pending] at status
    cases approve <;> cases status
  cases approve with
  | true =>
      exact ((applyGrant_spares _).yields kept (told _)).bind
        fun _ last holds => ⟨rfl, changed last holds⟩
  | false =>
      exact ((applyDenial_spares _).yields kept (told _)).bind
        fun _ last holds => ⟨rfl, changed last holds⟩

/-- A request whose body does not decode changes nothing unless it is a
decision on an approval that waits for one. -/
theorem handle_refuses (undecoded : request.route.Undecoded)
    (idle : ¬ request.Decides world) :
    Ends config (Api.handle config request)
      (fun response after => response.Refuses ∧ after = world) world := by
  by_cases decides : ∃ parts body, request.route = .decideApproval parts body
  swap
  · have other : ∀ parts body, request.route ≠ .decideApproval parts body :=
      fun parts body routed => decides ⟨parts, body, routed⟩
    obtain ⟨response, same, refuses⟩ := handle_turnsDown undecoded other
    rw [same]
    exact ⟨refuses, rfl⟩
  obtain ⟨parts, body, routed⟩ := decides
  simp only [Api.handle, routed, Api.handleDecideApproval]
  split
  · exact ⟨by decide, rfl⟩
  rename_i operator
  rw [Bool.not_eq_true', Bool.not_eq_false] at operator
  split
  · apply decideOn_of_idle
    intro waits
    exact idle ⟨operator, _, body, routed, waits⟩
  · exact ⟨by decide, rfl⟩

theorem handle_decides (decides : request.Decides world) :
    Ends config (Api.handle config request)
      (fun response after => response.code = 200 ∧
        after.ledger.approvals ≠ world.ledger.approvals) world := by
  obtain ⟨operator, id, body, routed, waits⟩ := decides
  simp only [Api.handle, routed, Api.handleDecideApproval, operator,
    Bool.not_true, Bool.false_eq_true, if_false]
  exact decideOn_of_waits waits

/-- A request whose body does not decode is turned down and changes none of the
records, exactly if it is not a decision on an approval that waits for one. -/
theorem undecoded_refused_iff (undecoded : request.route.Undecoded)
    {Tag : Type} (caller : Tag) (envs : Nat → Env) :
    (let outcome := (Api.handle config request).complete (exec config) caller
      envs world
    outcome.1.Refuses ∧ world.store.Unaltered outcome.2.1.store) ↔
      ¬ request.Decides world := by
  constructor
  · rintro ⟨_, unaltered⟩ decides
    obtain ⟨_, changed⟩ := (handle_decides decides).complete caller envs
      fun _ _ => trivial
    exact changed unaltered.approvals
  · intro idle
    obtain ⟨refuses, same⟩ := (handle_refuses undecoded idle).complete caller
      envs fun _ _ => trivial
    refine ⟨refuses, ?_⟩
    rw [same]
    exact MemoryStore.Unaltered.refl world.store

end Handlers

namespace Sample

/-- The operator drafts policies with a body that is no JSON at all. -/
def garbledPolicies : Api.Request :=
  request (.createPolicySet { failed := true, value := [] })

/-- The operator decides on the refund with a body that is no JSON at all, so
that the decoder leaves the zero values. -/
def garbledDecision : Api.Request :=
  request (.decideApproval ["id113", "decide"]
    { failed := true, value := { approve := false, decidedBy := "" } })

/-- A refund that waits for approval. -/
def waitingRefund : List Arrival :=
  inTurn [create, propose "id1" "stripe" "refund" none "k"]

end Sample

/-- No policies are drafted from a body that is no JSON. -/
theorem undecoded_refused_iff_policies :
    let outcome := (Api.handle Sample.config Sample.garbledPolicies).complete
      (exec Sample.config) () (Sample.envs 0) Sample.world
    outcome.1.code = 400 ∧ outcome.1.Refuses ∧
      Sample.world.store.Unaltered outcome.2.1.store := by
  have undecoded : Sample.garbledPolicies.route.Undecoded := rfl
  refine ⟨by decide, ?_⟩
  refine (undecoded_refused_iff undecoded () (Sample.envs 0)).mpr ?_
  rintro ⟨_, _, _, routed, _⟩
  cases routed

/-- A body that is no JSON denies the approval of the refund. -/
theorem garbled_decision_denies :
    let world := (sequential Sample.config Sample.world
      Sample.waitingRefund).state
    let outcome := (Api.handle Sample.config Sample.garbledDecision).complete
      (exec Sample.config) () (Sample.envs 2) world
    FreshRun Sample.config Sample.world Sample.waitingRefund ∧
      Sample.garbledDecision.route.Undecoded ∧
      outcome.1.code = 200 ∧
      (outcome.2.1.ledger.approvals.get? "id113").map Approval.status =
        some .denied ∧
      ¬ (outcome.1.Refuses ∧ world.store.Unaltered outcome.2.1.store) := by
  intro world outcome
  have answered : outcome.1.code = 200 := by decide +kernel
  refine ⟨by decide +kernel, rfl, answered, by decide +kernel, ?_⟩
  rintro ⟨⟨low, _⟩, _⟩
  omega

end SettleAgent
