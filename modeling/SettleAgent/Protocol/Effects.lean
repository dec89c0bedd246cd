import SettleAgent.Protocol.Role

/-!
# Effects of the calls on the ledger

Which calls change the ledger tables, and that every call keeps the records
under their own identifiers.  Fresh identifiers come from a random source that
never repeats one: `Admissible` says so of the environment of a call.
-/

namespace SettleAgent

/-- The identifier is in use nowhere in the store, and it does not contain the
separator of the composite keys. -/
structure MemoryStore.Fresh (store : MemoryStore) (id : String) : Prop where
  txn : store.txns.get? id = none
  action : store.actions.get? id = none
  approval : store.approvals.get? id = none
  receipt : ∀ receipt ∈ store.receiptsList, receipt.id ≠ id
  agent : store.agents.get? id = none
  grant : store.grants.get? id = none
  plain : '|' ∉ id.toList

/-- The environment of a call supplies fresh identifiers. -/
def Admissible (world : World) (env : Env) : Prop :=
  world.store.Fresh env.uid ∧ world.store.Fresh env.eventID

instance (store : MemoryStore) (id : String) : Decidable (store.Fresh id) :=
  decidable_of_iff
    ((store.txns.get? id).isNone ∧ (store.actions.get? id).isNone ∧
      (store.approvals.get? id).isNone ∧
      (∀ receipt ∈ store.receiptsList, receipt.id ≠ id) ∧
      (store.agents.get? id).isNone ∧ (store.grants.get? id).isNone ∧
      '|' ∉ id.toList)
    (by
      simp only [Option.isNone_iff_eq_none]
      exact ⟨fun ⟨txn, action, approval, receipt, agent, grant, plain⟩ =>
          ⟨txn, action, approval, receipt, agent, grant, plain⟩,
        fun ⟨txn, action, approval, receipt, agent, grant, plain⟩ =>
          ⟨txn, action, approval, receipt, agent, grant, plain⟩⟩)

instance (world : World) (env : Env) : Decidable (Admissible world env) :=
  inferInstanceAs (Decidable (_ ∧ _))

/-- Every record is stored under its own identifier. -/
structure Ledger.WellKeyed (ledger : Ledger) : Prop where
  txn : ∀ id txn, ledger.txns.get? id = some txn → txn.id = id
  action : ∀ id action, ledger.actions.get? id = some action → action.id = id
  approval : ∀ id approval, ledger.approvals.get? id = some approval →
    approval.id = id

/-- The calls that may change the ledger tables. -/
def Call.Writes : Call → Prop
  | .createTxn _ | .setTxnStatus _ _ _ | .addAction _ | .updateAction _
  | .setStoredDecision _ _ | .setStoredStatus _ _ | .updateStored _
  | .createApproval _ | .decideApproval _ _ _ _ | .appendReceipt _
  | .setStoredSignature _ _ _ _ | .updateReceipt _ _ _ _ => True
  | _ => False

variable {config : Config} {env : Env} {world : World}

theorem ledger_exec_of_not_writes {request : Call} (reads : ¬ request.Writes) :
    (exec config request env world).2.ledger = world.ledger := by
  cases request with
  | revokeCredential keyID => exact world.store.toLedger_revokeCredential _
  | activatePolicySet orgID version =>
      exact world.store.toLedger_activatePolicySet _ _
  | revokeGrant orgID grantID => exact world.store.toLedger_revokeGrant _ _ _
  | setIntegrationCredential orgID name secret =>
      exact world.store.toLedger_setIntegrationCredential _ _ _ _
  | _ => first | rfl | exact absurd trivial reads

/-! ## Keys -/

namespace Ledger

variable {ledger : Ledger}

theorem wellKeyed_empty : WellKeyed empty :=
  ⟨by simp [empty], by simp [empty], by simp [empty]⟩

/-- A table that keeps its values under their names still does so after one
more value was stored under its name. -/
theorem keyed_set
    {V : Type} {table : Table V} {name : V → String} {key : String} {value : V}
    (keyed : ∀ id stored, table.get? id = some stored → name stored = id)
    (own : name value = key) :
    ∀ id stored, (table.set key value).get? id = some stored →
      name stored = id :=
  Table.forall_get?_set (fun id stored _ => keyed id stored) own

variable (keyed : ledger.WellKeyed)

include keyed

theorem WellKeyed.setTxnStatus (now : Time) (orgID id : String)
    (status : TxnStatus) :
    (ledger.setTxnStatus now orgID id status).2.WellKeyed := by
  unfold Ledger.setTxnStatus
  split
  · rename_i txn found
    exact { keyed with
      txn := keyed_set keyed.txn
        (keyed.txn id txn (getTxn_eq_some.mp found).1) }
  · exact keyed

theorem WellKeyed.addAction (hashing : Hashing) (uid : String) (now : Time)
    (action : TxnAction) :
    (ledger.addAction hashing uid now action).2.WellKeyed := by
  unfold Ledger.addAction
  split
  · exact keyed
  · exact { keyed with action := keyed_set keyed.action rfl }

theorem WellKeyed.updateAction (action : TxnAction) :
    (ledger.updateAction action).WellKeyed := by
  unfold Ledger.updateAction
  split
  · exact { keyed with action := keyed_set keyed.action rfl }
  · exact keyed

theorem WellKeyed.modifyStored (id : String) {change : TxnAction → TxnAction}
    (keeps : ∀ action, (change action).id = action.id) :
    (ledger.modifyStored id change).WellKeyed := by
  unfold Ledger.modifyStored
  split
  · rename_i action present
    exact { keyed with
      action := keyed_set keyed.action
        ((keeps action).trans (keyed.action id action present)) }
  · exact keyed

theorem WellKeyed.updateStored (id : String) :
    (ledger.updateStored id).WellKeyed := by
  unfold Ledger.updateStored
  split
  · exact keyed.updateAction _
  · exact keyed

theorem WellKeyed.decideApproval (now : Time) (orgID id decidedBy : String)
    (approve : Bool) :
    (ledger.decideApproval now orgID id decidedBy approve).2.WellKeyed := by
  unfold Ledger.decideApproval
  split
  · rename_i approval present
    split
    · exact { keyed with
        approval := keyed_set keyed.approval
          (keyed.approval id approval present) }
    · exact keyed
  · exact keyed

/-- Storing a record under its own identifier again changes no lookup. -/
theorem get?_updateStored (id other : String) :
    (ledger.updateStored id).actions.get? other =
      ledger.actions.get? other := by
  cases present : ledger.actions.get? id with
  | none => simp [updateStored, present]
  | some action =>
      rw [updateStored_of_present present (keyed.action id action present)]
      simp only [Table.get?_set]
      split
      · rename_i same
        rw [same, present]
      · rfl

end Ledger

/-- Every call keeps the records under their identifiers. -/
theorem wellKeyed_exec (request : Call) (keyed : world.ledger.WellKeyed) :
    (exec config request env world).2.ledger.WellKeyed := by
  by_cases writes : request.Writes
  swap
  · rw [ledger_exec_of_not_writes writes]
    exact keyed
  cases request with
  | createTxn txn =>
      exact { keyed with txn := Ledger.keyed_set keyed.txn rfl }
  | setTxnStatus orgID id status => exact keyed.setTxnStatus _ _ _ _
  | addAction action => exact keyed.addAction _ _ _ _
  | updateAction action => exact keyed.updateAction _
  | setStoredDecision id decision => exact keyed.modifyStored _ fun _ => rfl
  | setStoredStatus id status => exact keyed.modifyStored _ fun _ => rfl
  | updateStored id => exact keyed.updateStored _
  | createApproval approval =>
      exact { keyed with approval := Ledger.keyed_set keyed.approval rfl }
  | decideApproval orgID id decidedBy approve =>
      exact keyed.decideApproval _ _ _ _ _
  | appendReceipt receipt => exact { keyed with }
  | setStoredSignature orgID id keyID signature => exact { keyed with }
  | updateReceipt orgID id keyID signature => exact { keyed with }
  | _ => exact writes.elim

/-- In a store that keeps its records under their identifiers, every reply
fits its call. -/
theorem fits_exec (request : Call) (keyed : world.ledger.WellKeyed) :
    Fits request (exec config request env world).1 := by
  cases request with
  | getTxn orgID id =>
      change Fits (.getTxn orgID id) (world.ledger.getTxn orgID id)
      cases found : world.ledger.getTxn orgID id with
      | none => trivial
      | some txn =>
          obtain ⟨present, owned⟩ := Ledger.getTxn_eq_some.mp found
          exact ⟨keyed.txn id txn present, owned⟩
  | getAction orgID id =>
      change Fits (.getAction orgID id) (world.ledger.getAction orgID id)
      cases found : world.ledger.getAction orgID id with
      | none => trivial
      | some action =>
          obtain ⟨present, owned⟩ := Ledger.getAction_eq_some.mp found
          exact ⟨keyed.action id action present, owned⟩
  | actionsForTxn orgID txnID =>
      change Fits (.actionsForTxn orgID txnID)
        (world.ledger.actionsForTxn env.rank orgID txnID)
      refine ⟨Table.nodup_map_select _ keyed.action _ _, ?_⟩
      exact fun action present => (Ledger.mem_actionsForTxn.mp present).1
  | decideApproval orgID id decidedBy approve =>
      change Fits (.decideApproval orgID id decidedBy approve)
        (world.ledger.decideApproval env.now orgID id decidedBy approve).1
      cases found : (world.ledger.decideApproval env.now orgID id decidedBy
          approve).1 with
      | none => trivial
      | some approval =>
          obtain ⟨old, present, owned, _, rfl, _⟩ :=
            Ledger.decideApproval_of_some found
          exact ⟨keyed.approval id old present, owned, rfl⟩
  | appendReceipt receipt => rfl
  | _ => trivial

/-! ## Frames

What a call leaves as it is. -/

namespace Ledger

theorem setTxnStatus_frame
    (ledger : Ledger) (now : Time) (orgID id : String) (status : TxnStatus) :
    let after := (ledger.setTxnStatus now orgID id status).2
    after.actions = ledger.actions ∧ after.approvals = ledger.approvals ∧
      after.receiptsList = ledger.receiptsList ∧
      after.byIdem = ledger.byIdem := by
  unfold setTxnStatus
  split <;> simp

theorem addAction_frame
    (ledger : Ledger) (hashing : Hashing) (uid : String) (now : Time)
    (action : TxnAction) :
    let after := (ledger.addAction hashing uid now action).2
    after.txns = ledger.txns ∧ after.approvals = ledger.approvals ∧
      after.receiptsList = ledger.receiptsList := by
  unfold addAction
  split <;> simp

theorem updateAction_frame (ledger : Ledger) (action : TxnAction) :
    let after := ledger.updateAction action
    after.txns = ledger.txns ∧ after.approvals = ledger.approvals ∧
      after.receiptsList = ledger.receiptsList := by
  unfold updateAction
  split <;> simp

theorem modifyStored_frame
    (ledger : Ledger) (id : String) (change : TxnAction → TxnAction) :
    let after := ledger.modifyStored id change
    after.txns = ledger.txns ∧ after.approvals = ledger.approvals ∧
      after.receiptsList = ledger.receiptsList := by
  unfold modifyStored
  split <;> simp

theorem updateStored_frame (ledger : Ledger) (id : String) :
    let after := ledger.updateStored id
    after.txns = ledger.txns ∧ after.approvals = ledger.approvals ∧
      after.receiptsList = ledger.receiptsList := by
  unfold updateStored
  split
  · exact ledger.updateAction_frame _
  · simp

theorem decideApproval_frame
    (ledger : Ledger) (now : Time) (orgID id decidedBy : String)
    (approve : Bool) :
    let after := (ledger.decideApproval now orgID id decidedBy approve).2
    after.txns = ledger.txns ∧ after.actions = ledger.actions ∧
      after.receiptsList = ledger.receiptsList ∧
      after.byIdem = ledger.byIdem := by
  unfold decideApproval
  split
  · split <;> simp
  · simp

end Ledger

/-- The calls that may change the transactions. -/
def Call.WritesTxns : Call → Prop
  | .createTxn _ | .setTxnStatus _ _ _ => True
  | _ => False

/-- The calls that may change the actions. -/
def Call.WritesActions : Call → Prop
  | .addAction _ | .updateAction _ | .setStoredDecision _ _
  | .setStoredStatus _ _ | .updateStored _ => True
  | _ => False

/-- The calls that may change the approvals. -/
def Call.WritesApprovals : Call → Prop
  | .createApproval _ | .decideApproval _ _ _ _ => True
  | _ => False

/-- The calls that may change the receipts. -/
def Call.WritesReceipts : Call → Prop
  | .appendReceipt _ | .setStoredSignature _ _ _ _
  | .updateReceipt _ _ _ _ => True
  | _ => False

/-- A call changes only the tables that it may write. -/
structure Call.Frames (request : Call) (before after : Ledger) : Prop where
  txns : ¬ request.WritesTxns → after.txns = before.txns
  actions : ¬ request.WritesActions →
    after.actions = before.actions ∧ after.byIdem = before.byIdem
  approvals : ¬ request.WritesApprovals → after.approvals = before.approvals
  receipts : ¬ request.WritesReceipts →
    after.receiptsList = before.receiptsList

section Frames

variable {request : Call}

theorem Call.Frames.of_actions {before after : Ledger}
    (writes : request.WritesActions)
    (frame : after.txns = before.txns ∧ after.approvals = before.approvals ∧
      after.receiptsList = before.receiptsList) :
    request.Frames before after where
  txns _ := frame.1
  actions untouched := absurd writes untouched
  approvals _ := frame.2.1
  receipts _ := frame.2.2

theorem frames_exec :
    request.Frames world.ledger (exec config request env world).2.ledger := by
  by_cases writes : request.Writes
  swap
  · rw [ledger_exec_of_not_writes writes]
    exact ⟨fun _ => rfl, fun _ => ⟨rfl, rfl⟩, fun _ => rfl, fun _ => rfl⟩
  cases request with
  | createTxn txn =>
      exact ⟨absurd trivial, fun _ => ⟨rfl, rfl⟩, fun _ => rfl, fun _ => rfl⟩
  | setTxnStatus orgID id status =>
      obtain ⟨actions, approvals, receipts, byIdem⟩ :=
        world.ledger.setTxnStatus_frame env.now orgID id status
      exact ⟨absurd trivial, fun _ => ⟨actions, byIdem⟩, fun _ => approvals,
        fun _ => receipts⟩
  | addAction action =>
      exact .of_actions trivial (world.ledger.addAction_frame _ _ _ action)
  | updateAction action =>
      exact .of_actions trivial (world.ledger.updateAction_frame action)
  | setStoredDecision id decision =>
      exact .of_actions trivial (world.ledger.modifyStored_frame id _)
  | setStoredStatus id status =>
      exact .of_actions trivial (world.ledger.modifyStored_frame id _)
  | updateStored id =>
      exact .of_actions trivial (world.ledger.updateStored_frame id)
  | createApproval approval =>
      exact ⟨fun _ => rfl, fun _ => ⟨rfl, rfl⟩, absurd trivial, fun _ => rfl⟩
  | decideApproval orgID id decidedBy approve =>
      obtain ⟨txns, actions, receipts, byIdem⟩ :=
        world.ledger.decideApproval_frame env.now orgID id decidedBy approve
      exact ⟨fun _ => txns, fun _ => ⟨actions, byIdem⟩, absurd trivial,
        fun _ => receipts⟩
  | _ =>
      first
      | exact ⟨fun _ => rfl, fun _ => ⟨rfl, rfl⟩, fun _ => rfl, absurd trivial⟩
      | exact writes.elim

theorem txns_exec (untouched : ¬ request.WritesTxns) :
    (exec config request env world).2.ledger.txns = world.ledger.txns :=
  frames_exec.txns untouched

theorem actions_exec (untouched : ¬ request.WritesActions) :
    (exec config request env world).2.ledger.actions = world.ledger.actions :=
  (frames_exec.actions untouched).1

theorem byIdem_exec (untouched : ¬ request.WritesActions) :
    (exec config request env world).2.ledger.byIdem = world.ledger.byIdem :=
  (frames_exec.actions untouched).2

theorem approvals_exec (untouched : ¬ request.WritesApprovals) :
    (exec config request env world).2.ledger.approvals =
      world.ledger.approvals :=
  frames_exec.approvals untouched

theorem receiptsList_exec (untouched : ¬ request.WritesReceipts) :
    (exec config request env world).2.ledger.receiptsList =
      world.ledger.receiptsList :=
  frames_exec.receipts untouched

end Frames

/-! ## What a permitted call writes

One inductive type for each table says everything that a permitted call can do
to an entry of it. -/

/-- What a permitted call does to the transaction with this identifier. -/
inductive TxnWrite (intent : Intent) (view : View) (env : Env) (id : String)
    (before after : Option Transaction) : Prop
  | kept (same : after = before)
  | created (txn : Transaction) (planned : Bool)
      (creates : intent = .create planned)
      (status : planned = true → txn.status = .planning)
      (named : env.uid = id) (absent : before = none)
      (written : after = some { txn with
        id := env.uid, createdAt := env.now, updatedAt := env.now,
        status := if txn.status = .unset then .created else txn.status })
  | moved (txn stored : Transaction) (status : TxnStatus)
      (read : view.txn = some txn) (named : txn.id = id)
      (present : before = some stored) (sameOrg : stored.orgID = txn.orgID)
      (moves : Moves intent view txn status)
      (written : after =
        some { stored with status := status, updatedAt := env.now })

/-- What a permitted call does to the action with this identifier. -/
inductive ActionWrite (hashing : Hashing) (intent : Intent) (view : View)
    (env : Env) (id : String) (before after : Option TxnAction) : Prop
  | kept (same : after = before)
  | added (action : TxnAction) (may : May intent view (.addAction action))
      (named : env.uid = id) (absent : before = none)
      (written : after =
        some (Ledger.newAction hashing env.uid env.now action))
  | decided (draft : Draft) (old : TxnAction) (decision : PolicyDecision)
      (drafted : view.draft = some draft) (named : draft.id = id)
      (undecided : draft.status = none) (present : before = some old)
      (written : after = some { old with decision := some decision })
  | placed (draft : Draft) (old : TxnAction) (decision : PolicyDecision)
      (drafted : view.draft = some draft) (named : draft.id = id)
      (undecided : draft.status = none) (known : draft.decision = some decision)
      (present : before = some old)
      (written : after =
        some { old with status := initialStatus decision.effect })
  | rewritten (held : Held) (old action : TxnAction)
      (holding : view.held = some held) (unstored : held.stored = none)
      (rewrites : Rewrites intent view held action) (named : action.id = id)
      (present : before = some old) (written : after = some action)

/-- What a permitted call does to the approval with this identifier. -/
inductive ApprovalWrite (intent : Intent) (view : View) (env : Env)
    (id : String) (before after : Option Approval) : Prop
  | kept (same : after = before)
  | created (approval : Approval)
      (may : May intent view (.createApproval approval))
      (named : env.uid = id) (absent : before = none)
      (written : after = some { approval with
        id := env.uid, createdAt := env.now, status := .pending })
  | decided (old : Approval) (orgID decidedBy : String) (approve : Bool)
      (decides : intent = .decide orgID id approve)
      (present : before = some old) (sameOrg : old.orgID = orgID)
      (pending : old.status = .pending)
      (written : after = some (Ledger.decided env.now decidedBy approve old))

/-- What a permitted call does to the list of receipts. -/
inductive ReceiptWrite (hashing : Hashing) (intent : Intent) (view : View)
    (env : Env) (before after : Ledger) : Prop
  | kept (same : after.receiptsList = before.receiptsList)
  | appended (receipt : Receipt)
      (may : May intent view (.appendReceipt receipt))
      (written : after = (before.appendReceipt hashing env.uid receipt).2)
  | signed (receipt : Receipt) (keyID signature : String)
      (signing : view.receipt = some receipt)
      (written : after =
        before.updateReceipt receipt.orgID receipt.id keyID signature)

section Writes

variable (config) {intent : Intent} {view : View} {request : Call}
  (keyed : world.ledger.WellKeyed) (admissible : Admissible world env)
  (may : May intent view request)

include admissible may in
theorem txnWrite (id : String) :
    TxnWrite intent view env id (world.ledger.txns.get? id)
      ((exec config request env world).2.ledger.txns.get? id) := by
  by_cases writes : request.WritesTxns
  swap
  · exact .kept (by rw [txns_exec writes])
  cases request with
  | createTxn txn =>
      obtain ⟨planned, creates, status⟩ := may
      by_cases named : env.uid = id
      · exact .created txn planned creates status named
          (named ▸ admissible.1.txn)
          (named ▸ Table.get?_set_self world.ledger.txns _ _)
      · exact .kept (Table.get?_set_of_ne world.ledger.txns _ (Ne.symm named))
  | setTxnStatus orgID key status =>
      obtain ⟨txn, read, rfl, rfl, moves⟩ := may
      change TxnWrite intent view env id _ ((world.ledger.setTxnStatus env.now
        txn.orgID txn.id status).2.txns.get? id)
      cases found : world.ledger.getTxn txn.orgID txn.id with
      | none =>
          rw [Ledger.setTxnStatus, found]
          exact .kept rfl
      | some stored =>
          obtain ⟨present, owned⟩ := Ledger.getTxn_eq_some.mp found
          rw [Ledger.setTxnStatus_of_found env.now status found]
          by_cases named : txn.id = id
          · exact .moved txn stored status read named (named ▸ present) owned
              moves (named ▸ Table.get?_set_self world.ledger.txns _ _)
          · exact .kept
              (Table.get?_set_of_ne world.ledger.txns _ (Ne.symm named))
  | _ => exact writes.elim

/-- Where a record is changed through its pointer, and where it is not. -/
theorem Ledger.modifyStored_cases (ledger : Ledger) (key : String)
    (change : TxnAction → TxnAction) (id : String) :
    (ledger.modifyStored key change).actions.get? id =
        ledger.actions.get? id ∨
      ∃ old, key = id ∧ ledger.actions.get? id = some old ∧
        (ledger.modifyStored key change).actions.get? id =
          some (change old) := by
  cases found : ledger.actions.get? key with
  | none =>
      left
      rw [modifyStored, found]
  | some old =>
      rw [modifyStored_of_present _ found]
      by_cases named : key = id
      · subst named
        exact Or.inr ⟨old, rfl, found, Table.get?_set_self ledger.actions _ _⟩
      · exact Or.inl
          (Table.get?_set_of_ne ledger.actions _ (Ne.symm named))

include keyed admissible may in
theorem actionWrite (id : String) :
    ActionWrite config.runtime.hashing intent view env id
      (world.ledger.actions.get? id)
      ((exec config request env world).2.ledger.actions.get? id) := by
  by_cases writes : request.WritesActions
  swap
  · exact .kept (by rw [actions_exec writes])
  cases request with
  | addAction action =>
      change ActionWrite _ intent view env id _
        ((world.ledger.addAction config.runtime.hashing env.uid env.now
          action).2.actions.get? id)
      cases found : world.ledger.byIdem? (Ledger.keyOf action) with
      | some previous =>
          rw [Ledger.addAction_of_duplicate env.uid env.now found]
          exact .kept rfl
      | none =>
          rw [Ledger.addAction_of_new env.uid env.now found]
          by_cases named : env.uid = id
          · exact .added action may named (named ▸ admissible.1.action)
              (named ▸ Table.get?_set_self world.ledger.actions _ _)
          · exact .kept
              (Table.get?_set_of_ne world.ledger.actions _ (Ne.symm named))
  | updateAction action =>
      obtain ⟨held, holding, unstored, rewrites⟩ := may
      change ActionWrite _ intent view env id _
        ((world.ledger.updateAction action).actions.get? id)
      cases found : world.ledger.actions.get? action.id with
      | none =>
          rw [Ledger.updateAction, found]
          exact .kept rfl
      | some old =>
          rw [Ledger.updateAction_of_present found]
          by_cases named : action.id = id
          · exact .rewritten held old action holding unstored rewrites named
              (named ▸ found)
              (named ▸ Table.get?_set_self world.ledger.actions _ _)
          · exact .kept
              (Table.get?_set_of_ne world.ledger.actions _ (Ne.symm named))
  | setStoredDecision key decision =>
      obtain ⟨draft, drafted, rfl, undecided⟩ := may
      rcases world.ledger.modifyStored_cases draft.id _ id with
        same | ⟨old, named, found, written⟩
      · exact .kept same
      · exact .decided draft old decision drafted named undecided found
          written
  | setStoredStatus key status =>
      obtain ⟨draft, decision, drafted, rfl, undecided, known, rfl⟩ := may
      rcases world.ledger.modifyStored_cases draft.id _ id with
        same | ⟨old, named, found, written⟩
      · exact .kept same
      · exact .placed draft old decision drafted named undecided known found
          written
  | updateStored key => exact .kept (Ledger.get?_updateStored keyed key id)
  | _ => exact writes.elim

include admissible may in
theorem approvalWrite (id : String) :
    ApprovalWrite intent view env id (world.ledger.approvals.get? id)
      ((exec config request env world).2.ledger.approvals.get? id) := by
  by_cases writes : request.WritesApprovals
  swap
  · exact .kept (by rw [approvals_exec writes])
  cases request with
  | createApproval approval =>
      by_cases named : env.uid = id
      · exact .created approval may named (named ▸ admissible.1.approval)
          (named ▸ Table.get?_set_self world.ledger.approvals _ _)
      · exact .kept
          (Table.get?_set_of_ne world.ledger.approvals _ (Ne.symm named))
  | decideApproval orgID key decidedBy approve =>
      change ApprovalWrite intent view env id _ ((world.ledger.decideApproval
        env.now orgID key decidedBy approve).2.approvals.get? id)
      cases found : (world.ledger.decideApproval env.now orgID key decidedBy
          approve).1 with
      | none =>
          rw [Ledger.decideApproval_of_none found]
          exact .kept rfl
      | some approval =>
          obtain ⟨old, present, owned, pending, rfl, written⟩ :=
            Ledger.decideApproval_of_some found
          rw [written]
          by_cases named : key = id
          · subst named
            exact .decided old orgID decidedBy approve may.1 present owned
              pending (Table.get?_set_self world.ledger.approvals _ _)
          · exact .kept
              (Table.get?_set_of_ne world.ledger.approvals _ (Ne.symm named))
  | _ => exact writes.elim

theorem receiptWrite
    (config : Config) (env : Env) (world : World) (may : May intent view request) :
    ReceiptWrite config.runtime.hashing intent view env world.ledger
      (exec config request env world).2.ledger := by
  by_cases writes : request.WritesReceipts
  swap
  · exact .kept (receiptsList_exec writes)
  cases request with
  | appendReceipt receipt => exact .appended receipt may rfl
  | setStoredSignature orgID key keyID signature =>
      obtain ⟨receipt, signing, rfl, rfl⟩ := may
      exact .signed receipt keyID signature signing rfl
  | updateReceipt orgID key keyID signature =>
      obtain ⟨receipt, signing, rfl, rfl⟩ := may
      exact .signed receipt keyID signature signing rfl
  | _ => exact writes.elim

/-! ### Transactions stay

What an operation has read of a transaction, and what an action says of its
transaction, remains true of the one that is stored. -/

/-- The organization has a transaction under this identifier. -/
def Ledger.Homes (ledger : Ledger) (txnID orgID : String) : Prop :=
  ∃ stored, ledger.txns.get? txnID = some stored ∧ stored.orgID = orgID

include admissible may in
theorem homes_exec {txnID orgID : String}
    (homes : world.ledger.Homes txnID orgID) :
    (exec config request env world).2.ledger.Homes txnID orgID := by
  obtain ⟨txn, present, owner⟩ := homes
  have write := txnWrite config admissible may txnID
  rw [present] at write
  cases write with
  | kept same => exact ⟨txn, same, owner⟩
  | created _ _ _ _ _ absent => simp at absent
  | moved read stored status _ _ found _ _ written =>
      cases found
      exact ⟨_, written, owner⟩

include keyed admissible may in
theorem homes_learn
    (homes : ∀ txn, view.txn = some txn →
      world.ledger.Homes txn.id txn.orgID) (txn : Transaction)
    (read : (view.learn request (exec config request env world).1).txn =
      some txn) :
    (exec config request env world).2.ledger.Homes txn.id txn.orgID := by
  apply homes_exec config admissible may
  rcases View.txn_learn read with ⟨old, oldRead, id, org, _⟩ | ⟨orgID, id, rfl⟩
  · rw [id, org]
    exact homes old oldRead
  · have found : world.ledger.getTxn orgID id = some txn := read
    obtain ⟨present, _⟩ := Ledger.getTxn_eq_some.mp found
    rw [keyed.txn id txn present]
    exact ⟨txn, present, rfl⟩

include keyed admissible may in
/-- The operation that adds an action has read its transaction. -/
theorem homes_added
    (homes : ∀ txn, view.txn = some txn →
      world.ledger.Homes txn.id txn.orgID) {id : String} {action : TxnAction}
    (absent : world.ledger.actions.get? id = none)
    (present : (exec config request env world).2.ledger.actions.get? id =
      some action) :
    (exec config request env world).2.ledger.Homes action.transactionID
      action.orgID := by
  apply homes_exec config admissible may
  have write := actionWrite config keyed admissible may id
  rw [absent, present] at write
  cases write with
  | kept same => simp at same
  | added new added named _ written =>
      cases written
      obtain ⟨_, _, _, _, _, _, _, txn, read, sameID, sameOrg, _⟩ := added
      change world.ledger.Homes new.transactionID new.orgID
      rw [← sameID, ← sameOrg]
      exact homes txn read
  | decided _ _ _ _ _ _ found => simp at found
  | placed _ _ _ _ _ _ _ found => simp at found
  | rewritten _ _ _ _ _ _ _ found => simp at found

end Writes

end SettleAgent
