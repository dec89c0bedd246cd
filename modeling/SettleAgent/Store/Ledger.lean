import SettleAgent.Data.Table
import SettleAgent.Domain

/-!
# The ledger tables of the memory store

Transactions, actions, approvals and receipts, with the store methods that read
and write them.  Every method runs under the store's mutex, so each one is a
single atomic step.  Fresh identifiers and clock readings are arguments.

The idempotency index holds pointers to the stored action records, so it maps
a key to the identifier of a record in `actions` and never to a copy.
-/

namespace SettleAgent

/-- What a receipt's chain hash covers. -/
structure ChainPayload where
  txn : String
  action : String
  tool : String
  argsHash : String
  resultHash : String
  decision : PolicyEffect
  started : Time
  completed : Time

/-- The hash functions of the receipts package: SHA-256 over the JSON encoding
of a value, and over a previous hash and a payload. -/
structure Hashing where
  canonical : Object → String
  chainHash : String → ChainPayload → String

structure Ledger where
  txns : Table Transaction
  actions : Table TxnAction
  byIdem : Table String
  approvals : Table Approval
  receiptsList : List Receipt
  lastHash : Table String

namespace Ledger

/-- The ledger of a new store. -/
def empty : Ledger where
  txns := ∅
  actions := ∅
  byIdem := ∅
  approvals := ∅
  receiptsList := []
  lastHash := ∅

/-- The status of the action with this identifier. -/
def status? (ledger : Ledger) (id : String) : Option ActionStatus :=
  (ledger.actions.get? id).map TxnAction.status

/-! ## Transactions -/

def createTxn (ledger : Ledger) (uid : String) (now : Time)
    (txn : Transaction) : Transaction × Ledger :=
  let stored := { txn with
    id := uid
    createdAt := now
    updatedAt := now
    status := if txn.status = .unset then .created else txn.status }
  (stored, { ledger with txns := ledger.txns.set uid stored })

def getTxn (ledger : Ledger) (orgID id : String) : Option Transaction :=
  match ledger.txns.get? id with
  | some txn => if txn.orgID = orgID then some txn else none
  | none => none

variable {ledger : Ledger} {orgID id : String}

theorem getTxn_eq_some {txn : Transaction} :
    ledger.getTxn orgID id = some txn ↔
      ledger.txns.get? id = some txn ∧ txn.orgID = orgID := by
  unfold getTxn
  cases ledger.txns.get? id with
  | none => simp
  | some stored =>
      exact Table.kept_eq_some (Transaction.orgID · = orgID)

def setTxnStatus (ledger : Ledger) (now : Time) (orgID id : String)
    (status : TxnStatus) : Except String Unit × Ledger :=
  match ledger.getTxn orgID id with
  | some txn =>
      (.ok (), { ledger with
        txns := ledger.txns.set id
          { txn with status := status, updatedAt := now } })
  | none => (.error "transaction not found", ledger)

theorem setTxnStatus_of_found
    {txn : Transaction} (now : Time) (status : TxnStatus)
    (found : ledger.getTxn orgID id = some txn) :
    (ledger.setTxnStatus now orgID id status).2 =
      { ledger with
        txns := ledger.txns.set id
          { txn with status := status, updatedAt := now } } := by
  simp [setTxnStatus, found]

def listTxns (ledger : Ledger) (rank : String → Nat) (orgID : String) :
    List Transaction :=
  ledger.txns.select rank fun txn => txn.orgID = orgID

/-! ## Actions -/

/-- Key of the idempotency index. -/
def idemKey (orgID transactionID idempotencyKey : String) : String :=
  orgID ++ "|" ++ transactionID ++ "|" ++ idempotencyKey

/-- The index key of an action. -/
def keyOf (action : TxnAction) : String :=
  idemKey action.orgID action.transactionID action.idempotencyKey

/-- The record an index entry points to. -/
def byIdem? (ledger : Ledger) (key : String) : Option TxnAction :=
  (ledger.byIdem.get? key).bind fun id => ledger.actions.get? id

/-- The record of a newly added action. -/
def newAction (hashing : Hashing) (uid : String) (now : Time)
    (action : TxnAction) : TxnAction :=
  { action with
    id := uid
    createdAt := now
    status := if action.status = .unset then .proposed else action.status
    argumentsHash := hashing.canonical action.arguments }

/-- Store a new action, or find the one already stored under its idempotency
key.  The flag reports a duplicate. -/
def addAction (hashing : Hashing) (ledger : Ledger) (uid : String)
    (now : Time) (action : TxnAction) : (TxnAction × Bool) × Ledger :=
  match ledger.byIdem? (keyOf action) with
  | some previous => ((previous, true), ledger)
  | none =>
      let stored := newAction hashing uid now action
      ((stored, false), { ledger with
        actions := ledger.actions.set uid stored
        byIdem := ledger.byIdem.set (keyOf action) uid })

theorem addAction_of_duplicate {hashing : Hashing}
    {action previous : TxnAction} (uid : String) (now : Time)
    (found : ledger.byIdem? (keyOf action) = some previous) :
    addAction hashing ledger uid now action = ((previous, true), ledger) := by
  simp [addAction, found]

variable {action : TxnAction}

theorem addAction_of_new {hashing : Hashing} (uid : String) (now : Time)
    (absent : ledger.byIdem? (keyOf action) = none) :
    addAction hashing ledger uid now action =
      ((newAction hashing uid now action, false), { ledger with
        actions := ledger.actions.set uid (newAction hashing uid now action)
        byIdem := ledger.byIdem.set (keyOf action) uid }) := by
  simp [addAction, absent]

def getAction (ledger : Ledger) (orgID id : String) : Option TxnAction :=
  match ledger.actions.get? id with
  | some action => if action.orgID = orgID then some action else none
  | none => none

theorem getAction_eq_some :
    ledger.getAction orgID id = some action ↔
      ledger.actions.get? id = some action ∧ action.orgID = orgID := by
  unfold getAction
  cases ledger.actions.get? id with
  | none => simp
  | some stored =>
      exact Table.kept_eq_some (TxnAction.orgID · = orgID)

def updateAction (ledger : Ledger) (action : TxnAction) : Ledger :=
  match ledger.actions.get? action.id with
  | some _ => { ledger with
      actions := ledger.actions.set action.id action
      byIdem := ledger.byIdem.set (keyOf action) action.id }
  | none => ledger

theorem updateAction_of_present {action old : TxnAction}
    (present : ledger.actions.get? action.id = some old) :
    ledger.updateAction action =
      { ledger with
        actions := ledger.actions.set action.id action
        byIdem := ledger.byIdem.set (keyOf action) action.id } := by
  simp [updateAction, present]

/-- A write through the pointer that `addAction` hands out for a new action:
it changes the stored record in place, outside the mutex. -/
def modifyStored (ledger : Ledger) (id : String)
    (change : TxnAction → TxnAction) : Ledger :=
  match ledger.actions.get? id with
  | some action =>
      { ledger with actions := ledger.actions.set id (change action) }
  | none => ledger

theorem modifyStored_of_present {id : String} (change : TxnAction → TxnAction)
    (present : ledger.actions.get? id = some action) :
    ledger.modifyStored id change =
      { ledger with actions := ledger.actions.set id (change action) } := by
  simp [modifyStored, present]

/-- `updateAction` on that same pointer: the record is overwritten with
itself. -/
def updateStored (ledger : Ledger) (id : String) : Ledger :=
  match ledger.actions.get? id with
  | some action => ledger.updateAction action
  | none => ledger

theorem updateStored_of_present {id : String}
    (present : ledger.actions.get? id = some action) (keyed : action.id = id) :
    ledger.updateStored id =
      { ledger with
        actions := ledger.actions.set id action
        byIdem := ledger.byIdem.set (keyOf action) id } := by
  subst keyed
  simp [updateStored, present, updateAction]

def actionsForTxn (ledger : Ledger) (rank : String → Nat)
    (orgID txnID : String) : List TxnAction :=
  ledger.actions.select rank fun action =>
    action.orgID = orgID ∧ action.transactionID = txnID

theorem mem_actionsForTxn {rank : String → Nat} {orgID txnID : String} :
    action ∈ ledger.actionsForTxn rank orgID txnID ↔
      (action.orgID = orgID ∧ action.transactionID = txnID) ∧
        ∃ id, ledger.actions.get? id = some action := by
  simp [actionsForTxn, Table.mem_select]

/-! ## Approvals -/

def createApproval (ledger : Ledger) (uid : String) (now : Time)
    (approval : Approval) : Approval × Ledger :=
  let stored := { approval with
    id := uid
    createdAt := now
    status := .pending }
  (stored, { ledger with approvals := ledger.approvals.set uid stored })

def getApproval (ledger : Ledger) (orgID id : String) : Option Approval :=
  match ledger.approvals.get? id with
  | some approval => if approval.orgID = orgID then some approval else none
  | none => none

theorem getApproval_eq_some {approval : Approval} :
    ledger.getApproval orgID id = some approval ↔
      ledger.approvals.get? id = some approval ∧ approval.orgID = orgID := by
  unfold getApproval
  cases ledger.approvals.get? id with
  | none => simp
  | some stored =>
      exact Table.kept_eq_some (Approval.orgID · = orgID)

/-- The approval after it was decided. -/
def decided (now : Time) (decidedBy : String) (approve : Bool)
    (approval : Approval) : Approval :=
  { approval with
    status := if approve then .approved else .denied
    decidedBy := decidedBy
    decidedAt := some now }

def decideApproval (ledger : Ledger) (now : Time)
    (orgID id decidedBy : String) (approve : Bool) :
    Option Approval × Ledger :=
  match ledger.approvals.get? id with
  | some approval =>
      if approval.orgID = orgID ∧ approval.status = .pending then
        let outcome := decided now decidedBy approve approval
        (some outcome, { ledger with
          approvals := ledger.approvals.set id outcome })
      else (none, ledger)
  | none => (none, ledger)

theorem decideApproval_of_none {now : Time}
    {orgID id decidedBy : String} {approve : Bool}
    (refused : (ledger.decideApproval now orgID id decidedBy approve).1 = none) :
    (ledger.decideApproval now orgID id decidedBy approve).2 = ledger := by
  unfold decideApproval at refused ⊢
  split at refused
  · split at refused
    · simp at refused
    · simp [*]
  · simp [*]

theorem decideApproval_of_some {now : Time}
    {orgID id decidedBy : String} {approve : Bool} {approval : Approval}
    (done : (ledger.decideApproval now orgID id decidedBy approve).1 =
      some approval) :
    ∃ old, ledger.approvals.get? id = some old ∧ old.orgID = orgID ∧
      old.status = .pending ∧ approval = decided now decidedBy approve old ∧
      (ledger.decideApproval now orgID id decidedBy approve).2 =
        { ledger with approvals := ledger.approvals.set id approval } := by
  unfold decideApproval at done ⊢
  split at done
  · rename_i old present
    split at done
    · rename_i pending
      simp only [Option.some.injEq] at done
      subst done
      exact ⟨old, present, pending.1, pending.2, rfl, by simp [pending]⟩
    · simp at done
  · simp at done

def pendingApprovals (ledger : Ledger) (rank : String → Nat)
    (orgID : String) : List Approval :=
  ledger.approvals.select rank fun approval =>
    approval.orgID = orgID ∧ approval.status = .pending

/-! ## Receipts -/

/-- The part of a receipt that its chain hash covers. -/
def payload (receipt : Receipt) : ChainPayload where
  txn := receipt.transactionID
  action := receipt.actionID
  tool := receipt.tool
  argsHash := receipt.argumentsHash
  resultHash := receipt.resultHash
  decision := receipt.decision
  started := receipt.startedAt
  completed := receipt.completedAt

def appendReceipt (hashing : Hashing) (ledger : Ledger) (uid : String)
    (receipt : Receipt) : Receipt × Ledger :=
  let prevHash := (ledger.lastHash.get? receipt.orgID).getD ""
  let stored := { receipt with
    id := uid
    prevHash := prevHash
    hash := hashing.chainHash prevHash (payload receipt) }
  (stored, { ledger with
    receiptsList := ledger.receiptsList ++ [stored]
    lastHash := ledger.lastHash.set receipt.orgID stored.hash })

def receiptsForTxn (ledger : Ledger) (orgID txnID : String) : List Receipt :=
  ledger.receiptsList.filter fun receipt =>
    receipt.orgID = orgID ∧ receipt.transactionID = txnID

/-- Store the signature fields of a receipt.  The same function is the write
through the pointer that `appendReceipt` hands out. -/
def updateReceipt (ledger : Ledger)
    (orgID id keyID signature : String) : Ledger :=
  { ledger with
    receiptsList := ledger.receiptsList.map fun current =>
      if current.id = id ∧ current.orgID = orgID then
        { current with keyID := keyID, signature := signature }
      else current }

/-- Walk the receipts of an organization from a position and a previous hash;
the first broken position, or `-1`. -/
def verifyFrom (hashing : Hashing) (orgID : String) :
    List Receipt → Int → String → Int
  | [], _, _ => -1
  | receipt :: receipts, index, prev =>
      if receipt.orgID ≠ orgID then
        verifyFrom hashing orgID receipts (index + 1) prev
      else if receipt.prevHash ≠ prev ∨
          receipt.hash ≠ hashing.chainHash prev (payload receipt) then index
      else verifyFrom hashing orgID receipts (index + 1) receipt.hash

def verifyChain (hashing : Hashing) (ledger : Ledger) (orgID : String) : Int :=
  verifyFrom hashing orgID ledger.receiptsList 0 ""

end Ledger
end SettleAgent
