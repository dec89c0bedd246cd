import SettleAgent.Interaction.Role
import SettleAgent.Protocol.Operations

/-!
# The role of an operation

What an operation knows of the ledger at any point of its run, and which calls
it may make from there.  The view holds copies: whether they are still what
the ledger stores depends on the other operations.
-/

namespace SettleAgent

open Interaction

/-- A new action that an operation is deciding through its pointer. -/
structure Draft where
  id : String
  proposal : TxnAction
  decision : Option PolicyDecision := none
  status : Option ActionStatus := none
  asked : Bool := false

/-- A copy of an action record, and what the operation has done with it. -/
structure Held where
  record : TxnAction
  outcome : Option (Except ToolError Object) := none
  answer : Option (Option Object) := none
  stored : Option TxnAction := none
  attested : Bool := false

/-- The actions that a scan of a transaction listed, without those that the
operation has written back since; `whole` as long as there are none of
these. -/
structure Scan where
  orgID : String
  txnID : String
  actions : List TxnAction
  whole : Bool := true

/-- The scan after the action with this identifier was written back. -/
def Scan.without (id : String) (scan : Scan) : Scan :=
  { scan with
    actions := scan.actions.filter fun listed => listed.id ≠ id
    whole := false }

structure View where
  txn : Option Transaction := none
  scan : Option Scan := none
  draft : Option Draft := none
  held : Option Held := none
  decided : Option Approval := none
  receipt : Option Receipt := none

namespace View

/-- Fold a call and its reply into the view. -/
def learn (view : View) : (request : Call) → request.Resp → View
  | .getTxn _ _, found => { view with txn := found }
  | .setTxnStatus _ _ status, _ =>
      { view with txn := view.txn.map fun txn => { txn with status := status } }
  | .addAction action, reply =>
      if reply.2 then view
      else { view with
        scan := none
        draft := some { id := reply.1.id, proposal := action } }
  | .setStoredDecision _ decision, _ =>
      { view with
        scan := none
        draft := view.draft.map fun draft =>
          { draft with decision := some decision } }
  | .setStoredStatus _ status, _ =>
      { view with
        scan := none
        draft := view.draft.map fun draft =>
          { draft with status := some status } }
  | .getAction _ _, found =>
      { view with held := found.map fun record => { record := record } }
  | .updateAction action, _ =>
      { view with
        scan := view.scan.map (Scan.without action.id)
        held := view.held.map fun held => { held with stored := some action } }
  | .actionsForTxn orgID txnID, actions =>
      { view with scan := some ⟨orgID, txnID, actions, true⟩ }
  | .createApproval _, _ =>
      { view with draft := view.draft.map fun draft =>
          { draft with asked := true } }
  | .decideApproval _ _ _ _, found => { view with decided := found }
  | .appendReceipt _, receipt =>
      { view with
        held := view.held.map fun held => { held with attested := true }
        receipt := some receipt }
  | .execute _, outcome =>
      { view with held := view.held.map fun held =>
          { held with outcome := some outcome } }
  | .reconcile _ _, .ok answer =>
      { view with held := view.held.map fun held =>
          { held with answer := some answer } }
  | _, _ => view

/-- The operation has stored the action as executed and has yet to append the
receipt. -/
def Owes (view : View) (id : String) : Prop :=
  ∃ held action, view.held = some held ∧ held.stored = some action ∧
    action.id = id ∧ action.status = .executed ∧ held.attested = false

/-- No receipt is owed, and what came of a dispatch is stored. -/
def Clear (view : View) : Prop :=
  (∀ id, ¬ view.Owes id) ∧
    ∀ held, view.held = some held → held.outcome ≠ none → held.stored ≠ none

/-- Nothing is left half done: a new action has its status, and the copy in
hand is dealt with. -/
def Settled (view : View) : Prop :=
  (∀ draft, view.draft = some draft → draft.status ≠ none) ∧ view.Clear

end View

/-- The status of a new action, by the effect of its decision. -/
def initialStatus : PolicyEffect → ActionStatus
  | .deny => .denied
  | .requireApproval => .awaitingApproval
  | _ => .allowed

/-- An action copy that the execution path accepts: decided `ALLOW` and not
yet run, or approved. -/
def Runnable (action : TxnAction) : Prop :=
  (action.status = .allowed ∧ Gateway.decisionPermits action = true) ∨
    action.status = .approved

/-- The second record is the first with a new status and outcome. -/
def Revises (old new : TxnAction) : Prop :=
  new = { old with
    status := new.status, result := new.result, error := new.error,
    latencyMS := new.latencyMS }

/-- The two records are about the same proposal: only decision, status and
outcome differ. -/
structure Alike (old new : TxnAction) : Prop where
  id : new.id = old.id
  orgID : new.orgID = old.orgID
  transactionID : new.transactionID = old.transactionID
  tool : new.tool = old.tool
  action : new.action = old.action
  arguments : new.arguments = old.arguments
  argumentsHash : new.argumentsHash = old.argumentsHash
  amountCents : new.amountCents = old.amountCents

theorem Alike.refl (action : TxnAction) : Alike action action :=
  ⟨rfl, rfl, rfl, rfl, rfl, rfl, rfl, rfl⟩

theorem Alike.trans {first second third : TxnAction}
    (left : Alike first second) (right : Alike second third) :
    Alike first third where
  id := right.id.trans left.id
  orgID := right.orgID.trans left.orgID
  transactionID := right.transactionID.trans left.transactionID
  tool := right.tool.trans left.tool
  action := right.action.trans left.action
  arguments := right.arguments.trans left.arguments
  argumentsHash := right.argumentsHash.trans left.argumentsHash
  amountCents := right.amountCents.trans left.amountCents

theorem Revises.alike {old new : TxnAction} (revises : Revises old new) :
    Alike old new := by
  unfold Revises at revises
  rw [revises]
  exact ⟨rfl, rfl, rfl, rfl, rfl, rfl, rfl, rfl⟩

theorem Revises.decision {old new : TxnAction} (revises : Revises old new) :
    new.decision = old.decision := by
  unfold Revises at revises
  rw [revises]

/-- The receipt is about the action. -/
def Attests (receipt : Receipt) (action : TxnAction) : Prop :=
  receipt.actionID = action.id ∧ receipt.orgID = action.orgID ∧
    receipt.transactionID = action.transactionID ∧
    receipt.tool = action.tool ∧ receipt.action = action.action ∧
    receipt.argumentsHash = action.argumentsHash

theorem Attests.of_alike {receipt : Receipt} {old new : TxnAction}
    (attests : Attests receipt old) (alike : Alike old new) :
    Attests receipt new := by
  obtain ⟨id, orgID, txnID, tool, action, hash⟩ := attests
  exact ⟨id.trans alike.id.symm, orgID.trans alike.orgID.symm,
    txnID.trans alike.transactionID.symm, tool.trans alike.tool.symm,
    action.trans alike.action.symm, hash.trans alike.argumentsHash.symm⟩

/-- The status that the outcome of a handler leads to. -/
def statusOf : Except ToolError Object → ActionStatus
  | .ok _ => .executed
  | .error (.uncertain _) => .unknown
  | .error (.plain _) => .failed

/-- The status that a reconciler's answer leads to. -/
def settledStatus : Option Object → ActionStatus
  | some _ => .executed
  | none => .failed

/-- The status an operation may write to the transaction it has read. -/
inductive Moves (intent : Intent) (view : View) (txn : Transaction) :
    TxnStatus → Prop
  | pause (draft : Draft)
      (drafted : view.draft = some draft) (asked : draft.asked = true)
      (same : txn.id = draft.proposal.transactionID) :
      Moves intent view txn (statusAfter txn .awaitingApproval)
  | resume (approval : Approval)
      (decided : view.decided = some approval)
      (granted : approval.status = .approved)
      (same : txn.id = approval.transactionID) :
      Moves intent view txn (statusAfter txn .executing)
  | abort (approval : Approval)
      (decided : view.decided = some approval)
      (denied : approval.status = .denied)
      (same : txn.id = approval.transactionID) :
      Moves intent view txn (statusAfter txn .aborting)
  | begin (held : Held) (orgID actionID : String)
      (executes : intent = .execute orgID actionID)
      (holding : view.held = some held) (unstored : held.stored = none)
      (runnable : Runnable held.record)
      (same : txn.id = held.record.transactionID)
      (early : txn.status = .created ∨ txn.status = .planning ∨
        txn.status = .awaitingApproval) :
      Moves intent view txn .executing
  | close (actions : List TxnAction)
      (commits : intent = .commit txn.orgID txn.id)
      (scanned : view.scan = some ⟨txn.orgID, txn.id, actions, true⟩)
      (unheld : view.held = none) (unattested : view.receipt = none)
      (resolved : ∀ action ∈ actions, Gateway.blocksCommit action = none)
      (unclosed : txn.status.terminal = false)
      (legal : canTransition txn.status .committed = true) :
      Moves intent view txn .committed
  | compensate (status : TxnStatus)
      (compensates : intent = .compensate txn.orgID txn.id)
      (written : status = .compensating ∨ status = .rolledBack ∨
        status = .partiallyCompensated) :
      Moves intent view txn status

/-- The record an operation may write back for the copy it holds. -/
inductive Rewrites (intent : Intent) (view : View) (held : Held) :
    TxnAction → Prop
  | ran (orgID actionID : String) (outcome : Except ToolError Object)
      (action : TxnAction)
      (executes : intent = .execute orgID actionID)
      (runnable : Runnable held.record)
      (dispatched : held.outcome = some outcome)
      (revises : Revises held.record action)
      (status : action.status = statusOf outcome) :
      Rewrites intent view held action
  | settled (orgID actionID : String) (answer : Option Object)
      (action : TxnAction)
      (reconciles : intent = .reconcile orgID actionID)
      (uncertain : held.record.status = .unknown)
      (answered : held.answer = some answer)
      (revises : Revises held.record action)
      (status : action.status = settledStatus answer) :
      Rewrites intent view held action
  | granted (orgID approvalID : String) (approval : Approval)
      (decides : intent = .decide orgID approvalID true)
      (decided : view.decided = some approval)
      (granted : approval.status = .approved)
      (about : approval.actionID = some held.record.id) :
      Rewrites intent view held { held.record with status := .approved }
  | undone (orgID txnID : String) (txn : Transaction) (scan : Scan)
      (listed : TxnAction) (status : ActionStatus)
      (compensates : intent = .compensate orgID txnID)
      (read : view.txn = some txn) (begun : txn.status = .compensating)
      (scanned : view.scan = some scan) (member : listed ∈ scan.actions)
      (same : listed.id = held.record.id)
      (sameTxn : txn.id = listed.transactionID)
      (executed : listed.status = .executed)
      (written : status = .compensated ∨ status = .compensationFailed) :
      Rewrites intent view held { held.record with status := status }

/-- Whether an operation with this intent may make the call in this view. -/
def May (intent : Intent) (view : View) : Call → Prop
  | .createTxn txn =>
      ∃ planned, intent = .create planned ∧
        (planned = true → txn.status = .planning)
  | .setTxnStatus orgID id status =>
      ∃ txn, view.txn = some txn ∧ txn.id = id ∧ txn.orgID = orgID ∧
        Moves intent view txn status
  | .addAction action =>
      intent = .propose action.orgID action.transactionID
        action.idempotencyKey ∧
      view.draft = none ∧ view.held = none ∧ view.decided = none ∧
      action.status = .proposed ∧ action.decision = none ∧
      action.amountCents = Gateway.extractCents action.arguments ∧
      ∃ txn, view.txn = some txn ∧ txn.id = action.transactionID ∧
        txn.orgID = action.orgID ∧ txn.status.terminal = false
  | .setStoredDecision id _ =>
      ∃ draft, view.draft = some draft ∧ draft.id = id ∧ draft.status = none
  | .setStoredStatus id status =>
      ∃ draft decision, view.draft = some draft ∧ draft.id = id ∧
        draft.status = none ∧ draft.decision = some decision ∧
        status = initialStatus decision.effect
  | .updateStored id =>
      ∃ draft, view.draft = some draft ∧ draft.id = id
  | .getAction _ _ =>
      view.draft = none ∧ view.Clear ∧
        (view.decided = none ∨ view.held = none)
  | .updateAction action =>
      ∃ held, view.held = some held ∧ held.stored = none ∧
        Rewrites intent view held action
  | .createApproval approval =>
      ∃ draft, view.draft = some draft ∧
        approval.actionID = some draft.id ∧
        approval.orgID = draft.proposal.orgID ∧
        approval.transactionID = draft.proposal.transactionID ∧
        draft.status = some .awaitingApproval ∧ draft.asked = false
  | .decideApproval orgID id _ approve =>
      intent = .decide orgID id approve ∧ view.decided = none ∧
        view.held = none ∧ view.draft = none
  | .appendReceipt receipt =>
      ∃ held action, view.held = some held ∧ held.stored = some action ∧
        action.status = .executed ∧ held.attested = false ∧
        Attests receipt action
  | .setStoredSignature orgID id _ _ =>
      ∃ receipt, view.receipt = some receipt ∧ receipt.id = id ∧
        receipt.orgID = orgID
  | .updateReceipt orgID id _ _ =>
      ∃ receipt, view.receipt = some receipt ∧ receipt.id = id ∧
        receipt.orgID = orgID
  | .execute action =>
      (∃ orgID actionID, intent = .execute orgID actionID) ∧
      ∃ held, view.held = some held ∧ held.record = action ∧
        held.outcome = none ∧ held.stored = none ∧ Runnable action
  | .register tool _ _ _ => ∃ name, tool = Integrations.toolName name
  | _ => True

/-- What every reply to a call satisfies, whatever happened before. -/
def Fits : (request : Call) → request.Resp → Prop
  | .getTxn orgID id, some txn => txn.id = id ∧ txn.orgID = orgID
  | .getAction orgID id, some action => action.id = id ∧ action.orgID = orgID
  | .actionsForTxn orgID txnID, actions =>
      (actions.map TxnAction.id).Nodup ∧
        ∀ action ∈ actions, action.orgID = orgID ∧
          action.transactionID = txnID
  | .decideApproval orgID id _ approve, some approval =>
      approval.id = id ∧ approval.orgID = orgID ∧
        approval.status = if approve then .approved else .denied
  | .appendReceipt receipt, stored => stored.orgID = receipt.orgID
  | _, _ => True

/-- A view with a draft is one of a proposal, and a view with a decided
approval one of that decision. -/
structure View.Purposeful (intent : Intent) (view : View) : Prop where
  draft : ∀ draft, view.draft = some draft → ∃ key,
    intent = .propose draft.proposal.orgID draft.proposal.transactionID key
  decided : ∀ approval, view.decided = some approval → ∃ approve,
    intent = .decide approval.orgID approval.id approve ∧
      approval.status = if approve then .approved else .denied

/-- The role of an operation. -/
def roleOf (intent : Intent) : Role Call Call.Resp View where
  learn := View.learn
  may := May intent
  fits := Fits

@[simp] theorem roleOf_learn (intent : Intent) :
    (roleOf intent).learn = View.learn := rfl

@[simp] theorem roleOf_may (intent : Intent) :
    (roleOf intent).may = May intent := rfl

@[simp] theorem roleOf_fits (intent : Intent) :
    (roleOf intent).fits = Fits := rfl

/-! ## What a call adds to the view -/

variable {view : View} {request : Call} {reply : request.Resp}

/-- What an operation has read of a transaction after a call: what it had read
before, perhaps with the status it has written, or what it has just read. -/
theorem View.txn_learn
    {txn : Transaction}
    (read : (view.learn request reply).txn = some txn) :
    (∃ old, view.txn = some old ∧ txn.id = old.id ∧ txn.orgID = old.orgID ∧
      (txn.status = old.status ∨
        ∃ orgID id, request = .setTxnStatus orgID id txn.status)) ∨
      ∃ orgID id, request = .getTxn orgID id := by
  cases request with
  | getTxn orgID id => exact Or.inr ⟨orgID, id, rfl⟩
  | setTxnStatus orgID id status =>
      obtain ⟨old, oldRead, rfl⟩ := Option.map_eq_some_iff.mp read
      exact Or.inl ⟨old, oldRead, rfl, rfl, Or.inr ⟨orgID, id, rfl⟩⟩
  | addAction action =>
      simp only [View.learn] at read
      split at read <;> exact Or.inl ⟨txn, read, rfl, rfl, Or.inl rfl⟩
  | reconcile reconciler action =>
      cases reply <;> exact Or.inl ⟨txn, read, rfl, rfl, Or.inl rfl⟩
  | _ => exact Or.inl ⟨txn, read, rfl, rfl, Or.inl rfl⟩

/-- The copy in hand after a call is the copy before, perhaps with more known
about it, or the record that the call has read. -/
theorem View.held_learn
    {held : Held}
    (holding : (view.learn request reply).held = some held) :
    (∃ old, view.held = some old ∧ held.record = old.record) ∨
      ∃ orgID id, request = .getAction orgID id := by
  have mapped {note : Held → Held}
      (edited : view.held.map note = some held)
      (kept : ∀ held, (note held).record = held.record) :
      ∃ old, view.held = some old ∧ held.record = old.record := by
    obtain ⟨old, oldHolding, rfl⟩ := Option.map_eq_some_iff.mp edited
    exact ⟨old, oldHolding, kept old⟩
  cases request with
  | getAction orgID id => exact Or.inr ⟨orgID, id, rfl⟩
  | updateAction action => exact Or.inl (mapped holding fun _ => rfl)
  | appendReceipt receipt => exact Or.inl (mapped holding fun _ => rfl)
  | execute action => exact Or.inl (mapped holding fun _ => rfl)
  | addAction action =>
      simp only [View.learn] at holding
      split at holding <;> exact Or.inl ⟨held, holding, rfl⟩
  | reconcile reconciler action =>
      cases reply with
      | ok answer => exact Or.inl (mapped holding fun _ => rfl)
      | error error => exact Or.inl ⟨held, holding, rfl⟩
  | _ => exact Or.inl ⟨held, holding, rfl⟩

/-- What was stored for the copy in hand after a call was stored before, or is
what the call stores. -/
theorem View.stored_learn
    {held : Held}
    {action : TxnAction}
    (holding : (view.learn request reply).held = some held)
    (stored : held.stored = some action) :
    (∃ old, view.held = some old ∧ old.stored = some action) ∨
      request = .updateAction action := by
  have mapped {note : Held → Held}
      (edited : view.held.map note = some held)
      (kept : ∀ held, (note held).stored = held.stored) :
      ∃ old, view.held = some old ∧ old.stored = some action := by
    obtain ⟨old, oldHolding, rfl⟩ := Option.map_eq_some_iff.mp edited
    exact ⟨old, oldHolding, (kept old).symm.trans stored⟩
  cases request with
  | getAction orgID id =>
      obtain ⟨record, _, rfl⟩ := Option.map_eq_some_iff.mp holding
      cases stored
  | updateAction written =>
      obtain ⟨old, _, rfl⟩ := Option.map_eq_some_iff.mp holding
      exact Or.inr (congrArg Call.updateAction (Option.some.inj stored))
  | appendReceipt receipt => exact Or.inl (mapped holding fun _ => rfl)
  | execute action => exact Or.inl (mapped holding fun _ => rfl)
  | addAction action =>
      simp only [View.learn] at holding
      split at holding <;> exact Or.inl ⟨held, holding, stored⟩
  | reconcile reconciler action =>
      cases reply with
      | ok answer => exact Or.inl (mapped holding fun _ => rfl)
      | error error => exact Or.inl ⟨held, holding, stored⟩
  | _ => exact Or.inl ⟨held, holding, stored⟩

/-- The scan after a call is the scan before, perhaps without the record that
was written back, or the one that the call has made. -/
theorem View.scan_learn
    {scan : Scan}
    (scanned : (view.learn request reply).scan = some scan) :
    (∃ old, view.scan = some old ∧ scan.txnID = old.txnID ∧
      (scan = old ∨ ∃ action, request = .updateAction action)) ∨
      ∃ orgID txnID, request = .actionsForTxn orgID txnID := by
  cases request with
  | actionsForTxn orgID txnID => exact Or.inr ⟨orgID, txnID, rfl⟩
  | updateAction action =>
      obtain ⟨old, oldScanned, rfl⟩ := Option.map_eq_some_iff.mp scanned
      exact Or.inl ⟨old, oldScanned, rfl, Or.inr ⟨action, rfl⟩⟩
  | addAction action =>
      simp only [View.learn] at scanned
      split at scanned
      · exact Or.inl ⟨scan, scanned, rfl, Or.inl rfl⟩
      · simp at scanned
  | setStoredDecision id decision => simp [View.learn] at scanned
  | setStoredStatus id status => simp [View.learn] at scanned
  | reconcile reconciler action =>
      cases reply <;> exact Or.inl ⟨scan, scanned, rfl, Or.inl rfl⟩
  | _ => exact Or.inl ⟨scan, scanned, rfl, Or.inl rfl⟩

/-- Only the call that decides an approval changes the decided one. -/
theorem View.decided_learn
    (decides : ∀ orgID id decidedBy approve,
      request ≠ .decideApproval orgID id decidedBy approve) :
    (view.learn request reply).decided = view.decided := by
  cases request with
  | decideApproval orgID id decidedBy approve =>
      exact absurd rfl (decides orgID id decidedBy approve)
  | addAction action =>
      simp only [View.learn]
      split <;> rfl
  | reconcile reconciler action => cases reply <;> rfl
  | _ => rfl

/-- The draft of a view after a call is the draft before, perhaps with more
known about it, or the action that the call has added. -/
theorem View.draft_learn
    {draft : Draft}
    (drafting : (view.learn request reply).draft = some draft) :
    (∃ old, view.draft = some old ∧ draft.id = old.id ∧
        draft.proposal = old.proposal) ∨
      request = .addAction draft.proposal := by
  have mapped {note : Draft → Draft}
      (edited : view.draft.map note = some draft)
      (kept : ∀ draft, (note draft).id = draft.id ∧
        (note draft).proposal = draft.proposal) :
      ∃ old, view.draft = some old ∧ draft.id = old.id ∧
        draft.proposal = old.proposal := by
    obtain ⟨old, oldDrafting, rfl⟩ := Option.map_eq_some_iff.mp edited
    exact ⟨old, oldDrafting, kept old⟩
  cases request with
  | addAction action =>
      simp only [View.learn] at drafting
      split at drafting
      · exact Or.inl ⟨draft, drafting, rfl, rfl⟩
      · cases drafting
        exact Or.inr rfl
  | setStoredDecision id decision =>
      exact Or.inl (mapped drafting fun _ => ⟨rfl, rfl⟩)
  | setStoredStatus id status =>
      exact Or.inl (mapped drafting fun _ => ⟨rfl, rfl⟩)
  | createApproval approval =>
      exact Or.inl (mapped drafting fun _ => ⟨rfl, rfl⟩)
  | reconcile reconciler action =>
      cases reply <;> exact Or.inl ⟨draft, drafting, rfl, rfl⟩
  | _ => exact Or.inl ⟨draft, drafting, rfl, rfl⟩

/-- Every permitted call keeps the view to its purpose. -/
theorem View.Purposeful.learn
    {intent : Intent}
    (purposeful : view.Purposeful intent) (may : May intent view request)
    (fits : Fits request reply) :
    (view.learn request reply).Purposeful intent := by
  have mapped {note : Draft → Draft}
      (kept : ∀ draft, (note draft).proposal = draft.proposal) :
      ∀ draft, view.draft.map note = some draft → ∃ key,
        intent =
          .propose draft.proposal.orgID draft.proposal.transactionID key := by
    intro draft drafted
    obtain ⟨old, oldDrafted, rfl⟩ := Option.map_eq_some_iff.mp drafted
    rw [kept]
    exact purposeful.draft old oldDrafted
  cases request with
  | addAction action =>
      simp only [View.learn]
      split
      · exact purposeful
      · refine ⟨fun draft drafted => ?_, purposeful.decided⟩
        cases drafted
        exact ⟨_, may.1⟩
  | setStoredDecision id decision =>
      exact ⟨mapped fun _ => rfl, purposeful.decided⟩
  | setStoredStatus id status => exact ⟨mapped fun _ => rfl, purposeful.decided⟩
  | createApproval approval => exact ⟨mapped fun _ => rfl, purposeful.decided⟩
  | decideApproval orgID id decidedBy approve =>
      refine ⟨purposeful.draft, fun approval decided => ?_⟩
      change reply = some approval at decided
      subst decided
      obtain ⟨rfl, rfl, status⟩ := fits
      exact ⟨approve, may.1, status⟩
  | reconcile reconciler action =>
      cases reply with
      | ok answer => exact ⟨purposeful.draft, purposeful.decided⟩
      | error error => exact purposeful
  | _ => exact ⟨purposeful.draft, purposeful.decided⟩

end SettleAgent
