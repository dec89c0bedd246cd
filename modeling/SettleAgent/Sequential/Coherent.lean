import SettleAgent.Protocol.Effects

/-!
# Coherence of the ledger in a sequential run

What holds of the ledger at every step of an operation that runs alone.  The
clauses speak about the ledger and about the view of the running operation:
between two operations nothing is half done, and inside one the exceptions are
exactly what its view says is still to be done.
-/

namespace SettleAgent

/-- The statuses of actions that were executed. -/
def ActionStatus.attested : ActionStatus → Bool
  | .executed | .compensated | .compensationFailed => true
  | _ => false

/-- A record that an execution or a reconciliation may take up. -/
def Live (action : TxnAction) : Prop :=
  Runnable action ∨ action.status = .unknown

namespace Ledger

/-- The receipts about an action. -/
def receiptsOf (ledger : Ledger) (id : String) : List Receipt :=
  ledger.receiptsList.filter fun receipt => receipt.actionID = id

/-- The transaction is stored as committed. -/
def Committed (ledger : Ledger) (txnID : String) : Prop :=
  ∃ txn, ledger.txns.get? txnID = some txn ∧ txn.status = .committed

end Ledger

structure Coherent (view : View) (ledger : Ledger) : Prop where
  keyed : ledger.WellKeyed
  owned : ∀ id action, ledger.actions.get? id = some action →
    ∃ txn, ledger.txns.get? action.transactionID = some txn ∧
      txn.orgID = action.orgID
  /-- Only the running operation's draft is undecided. -/
  drafting : ∀ id action, ledger.actions.get? id = some action →
    action.status = .proposed →
      ∃ draft, view.draft = some draft ∧ draft.id = id ∧ draft.status = none
  requested : ∀ key approval, ledger.approvals.get? key = some approval →
    ∃ id action, approval.actionID = some id ∧
      ledger.actions.get? id = some action ∧
      action.orgID = approval.orgID ∧
      action.transactionID = approval.transactionID ∧
      (approval.status = .pending → action.status = .awaitingApproval)
  /-- An action has at most one approval. -/
  once : ∀ key approval other another,
    ledger.approvals.get? key = some approval →
      ledger.approvals.get? other = some another →
        approval.actionID = another.actionID → key = other
  receipts : ∀ receipt ∈ ledger.receiptsList, ∃ action,
    ledger.actions.get? receipt.actionID = some action ∧
      Attests receipt action
  /-- Executed actions have one receipt, and all others none. -/
  attested : ∀ id action, ledger.actions.get? id = some action →
    action.status.attested = true → ¬ view.Owes id →
      (ledger.receiptsOf id).length = 1
  unattested : ∀ id action, ledger.actions.get? id = some action →
    action.status.attested = false ∨ view.Owes id →
      ledger.receiptsOf id = []
  committed : ∀ id action, ledger.actions.get? id = some action →
    ledger.Committed action.transactionID → action.status.resolved = true
  /-- An operation that drafts an action works on no other record. -/
  exclusive : view.draft = none ∨ view.held = none ∧ view.decided = none
  txn : ∀ txn, view.txn = some txn → ∃ stored,
    ledger.txns.get? txn.id = some stored ∧ stored.orgID = txn.orgID ∧
      stored.status = txn.status
  scan : ∀ scan, view.scan = some scan → ∀ listed ∈ scan.actions,
    ledger.actions.get? listed.id = some listed
  whole : ∀ scan, view.scan = some scan → scan.whole = true →
    ∀ id action, ledger.actions.get? id = some action →
      action.orgID = scan.orgID → action.transactionID = scan.txnID →
        action ∈ scan.actions
  draft : ∀ draft, view.draft = some draft → ∃ action,
    ledger.actions.get? draft.id = some action ∧
      action.status = draft.status.getD .proposed ∧
      action.orgID = draft.proposal.orgID ∧
      action.transactionID = draft.proposal.transactionID
  unasked : ∀ draft, view.draft = some draft → draft.asked = false →
    ∀ key approval, ledger.approvals.get? key = some approval →
      approval.actionID ≠ some draft.id
  held : ∀ held, view.held = some held →
    ledger.actions.get? held.record.id =
      some (held.stored.getD held.record)
  untouched : ∀ held, view.held = some held → held.stored = none →
    held.attested = false
  stored : ∀ held action, view.held = some held → held.stored = some action →
    Revises held.record action ∧
      (action.status = .executed → Live held.record)
  live : ∀ held, view.held = some held → Live held.record →
    ¬ ledger.Committed held.record.transactionID
  decided : ∀ approval, view.decided = some approval →
    ledger.approvals.get? approval.id = some approval ∧
      approval.status ≠ .pending
  waiting : ∀ approval, view.decided = some approval →
    (∀ held, view.held = some held → held.stored = none) →
      ∃ id action, approval.actionID = some id ∧
        ledger.actions.get? id = some action ∧
        action.status = .awaitingApproval
  signing : ∀ receipt, view.receipt = some receipt →
    ∀ stored ∈ ledger.receiptsList, stored.id = receipt.id →
      ∃ action, ledger.actions.get? stored.actionID = some action ∧
        ¬ ledger.Committed action.transactionID

/-! ## Facts about statuses -/

variable {action : TxnAction}

theorem Live.unresolved (live : Live action) :
    action.status.resolved = false := by
  rcases live with (⟨status, _⟩ | status) | status <;>
    simp [status, ActionStatus.resolved]

theorem Live.not_attested (live : Live action) :
    action.status.attested = false := by
  rcases live with (⟨status, _⟩ | status) | status <;>
    simp [status, ActionStatus.attested]

theorem Live.not_waiting (live : Live action) :
    action.status ≠ .awaitingApproval := by
  rcases live with (⟨status, _⟩ | status) | status <;> simp [status]

/-- A new action is unresolved or denied, and was never executed. -/
theorem initialStatus_not_attested (effect : PolicyEffect) :
    (initialStatus effect).attested = false := by
  cases effect <;> rfl

theorem initialStatus_ne_proposed (effect : PolicyEffect) :
    initialStatus effect ≠ .proposed := by
  cases effect <;> simp [initialStatus]

theorem statusAfter_eq (txn : Transaction) (target : TxnStatus) :
    statusAfter txn target = target ∨ statusAfter txn target = txn.status := by
  unfold statusAfter
  split
  · rename_i moved accepted
    rw [(mustTransition_eq_ok accepted).2]
    exact Or.inl rfl
  · exact Or.inr rfl

variable {intent : Intent} {txn : Transaction}

/-- Only `commit` writes `COMMITTED`, when its scan has found every action
resolved. -/
theorem Moves.committed {view : View} {status : TxnStatus}
    (moves : Moves intent view txn status) (closing : status = .committed) :
    txn.status = .committed ∨
      ∃ actions, intent = .commit txn.orgID txn.id ∧
        view.scan = some ⟨txn.orgID, txn.id, actions, true⟩ ∧
        view.held = none ∧ view.receipt = none ∧
        ∀ action ∈ actions, action.status.resolved = true := by
  have kept {target : TxnStatus} (written : statusAfter txn target = .committed)
      (other : target ≠ .committed) : txn.status = .committed := by
    rcases statusAfter_eq txn target with equal | equal
    · exact absurd (equal.symm.trans written) other
    · exact equal.symm.trans written
  cases moves with
  | pause => exact Or.inl (kept closing (by simp))
  | resume => exact Or.inl (kept closing (by simp))
  | abort => exact Or.inl (kept closing (by simp))
  | begin => simp at closing
  | close actions commits scanned unheld unattested resolved =>
      exact Or.inr ⟨actions, commits, scanned, unheld, unattested,
        fun action present => blocksCommit_eq_none.mp (resolved action present)⟩
  | compensate status compensates written =>
      rcases written with written | written | written <;>
        simp [written] at closing

/-- What happens to the record behind a copy that is up to date when an
operation writes it back. -/
inductive Rewritten (intent : Intent) (view : View) (ledger : Ledger)
    (held : Held) (new : TxnAction) : Prop
  | ran (orgID actionID : String) (executes : intent = .execute orgID actionID)
      (runnable : Runnable held.record)
      (written : new.status = .executed ∨ new.status = .failed ∨
        new.status = .unknown)
  | settled (orgID actionID : String)
      (reconciles : intent = .reconcile orgID actionID)
      (uncertain : held.record.status = .unknown)
      (answered : held.answer ≠ none)
      (written : new.status = .executed ∨ new.status = .failed)
  | granted (orgID approvalID : String) (approval : Approval)
      (decides : intent = .decide orgID approvalID true)
      (decided : view.decided = some approval)
      (granted : approval.status = .approved)
      (about : approval.actionID = some held.record.id)
      (waiting : held.record.status = .awaitingApproval)
      (written : new.status = .approved)
  | undone (orgID txnID : String)
      (compensates : intent = .compensate orgID txnID)
      (executed : held.record.status = .executed)
      (uncommitted : ¬ ledger.Committed held.record.transactionID)
      (written : new.status = .compensated ∨
        new.status = .compensationFailed)

variable {held : Held}

/-- The same with what the receipts depend on. -/
theorem Rewritten.cases {view : View} {ledger : Ledger}
    {new : TxnAction} (rewritten : Rewritten intent view ledger held new) :
    (Live held.record ∧ (new.status = .executed ∨ new.status = .failed ∨
        new.status = .unknown)) ∨
      (held.record.status = .awaitingApproval ∧ new.status = .approved ∧
        ∃ approval, view.decided = some approval ∧
          approval.actionID = some held.record.id) ∨
      (held.record.status = .executed ∧
        (new.status = .compensated ∨ new.status = .compensationFailed) ∧
        ¬ ledger.Committed held.record.transactionID) := by
  cases rewritten with
  | ran orgID actionID executes runnable written =>
      exact Or.inl ⟨Or.inl runnable, written⟩
  | settled orgID actionID reconciles uncertain answered written =>
      exact Or.inl ⟨Or.inr uncertain, written.imp_right Or.inl⟩
  | granted orgID approvalID approval decides decided granted about waiting
      written =>
      exact Or.inr (Or.inl ⟨waiting, written, approval, decided, about⟩)
  | undone orgID txnID compensates executed uncommitted written =>
      exact Or.inr (Or.inr ⟨executed, written, uncommitted⟩)

/-! ## Steps that write transactions -/

namespace Coherent

variable {view : View} {ledger : Ledger} (coherent : Coherent view ledger)

include coherent

/-- The record behind a held copy is still of the same transaction. -/
theorem held_present (holding : view.held = some held) :
    ∃ action, ledger.actions.get? held.record.id = some action ∧
      action.transactionID = held.record.transactionID := by
  refine ⟨_, coherent.held held holding, ?_⟩
  cases stored : held.stored with
  | none => rfl
  | some action =>
      exact (coherent.stored held action holding stored).1.alike.transactionID

/-- Storing a transaction keeps coherence, if what is new about committed
transactions is only about those whose actions are all resolved. -/
theorem storeTxn {id : String} {read : Option Transaction}
    (own : txn.id = id)
    (owner : ∀ stored, ledger.txns.get? id = some stored →
      txn.orgID = stored.orgID)
    (agrees : ∀ seen, read = some seen → ∃ stored,
      (ledger.txns.set id txn).get? seen.id = some stored ∧
        stored.orgID = seen.orgID ∧ stored.status = seen.status)
    (closing : txn.status = .committed →
      (∃ action key, ledger.actions.get? key = some action ∧
        action.transactionID = id) →
      ledger.Committed id ∨
        ((∀ key action, ledger.actions.get? key = some action →
          action.transactionID = id → action.status.resolved = true) ∧
        view.held = none ∧ view.receipt = none)) :
    Coherent { view with txn := read }
      { ledger with txns := ledger.txns.set id txn } := by
  -- A transaction is committed afterwards only if it was so before, or if it
  -- is the one that was stored.
  have before {key : String} {action : TxnAction}
      (present : ledger.actions.get? key = some action)
      (committed : { ledger with txns := ledger.txns.set id txn }.Committed
        action.transactionID) :
      ledger.Committed action.transactionID ∨
        (action.transactionID = id ∧
          (∀ key action, ledger.actions.get? key = some action →
            action.transactionID = id → action.status.resolved = true) ∧
          view.held = none ∧ view.receipt = none) := by
    obtain ⟨stored, found, status⟩ := committed
    simp only [Table.get?_set] at found
    by_cases same : action.transactionID = id
    · simp only [same, if_true, Option.some.injEq] at found
      subst found
      rcases closing status ⟨action, key, present, same⟩ with old | new
      · exact Or.inl (same ▸ old)
      · exact Or.inr ⟨same, new⟩
    · simp only [same, if_false] at found
      exact Or.inl ⟨stored, found, status⟩
  refine { coherent with
    keyed := { coherent.keyed with
      txn := Ledger.keyed_set coherent.keyed.txn own }
    owned := ?_, committed := ?_, txn := agrees, live := ?_, signing := ?_ }
  · intro key action present
    obtain ⟨stored, found, owned⟩ := coherent.owned key action present
    simp only [Table.get?_set]
    by_cases same : action.transactionID = id
    · rw [same] at found
      exact ⟨txn, by simp [same], (owner stored found).trans owned⟩
    · exact ⟨stored, by simp [same, found], owned⟩
  · intro key action present committed
    rcases before present committed with old | ⟨same, resolved, _⟩
    · exact coherent.committed key action present old
    · exact resolved key action present same
  · intro held holding live committed
    obtain ⟨action, present, same⟩ := coherent.held_present holding
    rw [← same] at committed
    rcases before present committed with old | ⟨_, _, unheld, _⟩
    · exact coherent.live held holding live (same ▸ old)
    · simp [unheld] at holding
  · intro receipt signing stored member equal
    obtain ⟨action, present, uncommitted⟩ :=
      coherent.signing receipt signing stored member equal
    refine ⟨action, present, fun committed => ?_⟩
    rcases before present committed with old | ⟨_, _, _, unattested⟩
    · exact uncommitted old
    · simp [unattested] at signing

theorem createTxn {uid : String}
    (fresh : ledger.txns.get? uid = none) (now : Time) (txn : Transaction) :
    Coherent view (ledger.createTxn uid now txn).2 := by
  refine coherent.storeTxn rfl (by simp [fresh]) ?_ ?_
  · intro seen read
    obtain ⟨stored, found, facts⟩ := coherent.txn seen read
    refine ⟨stored, ?_, facts⟩
    rw [Table.get?_set_of_ne _ _ fun same => by simp [same, fresh] at found]
    exact found
  · rintro _ ⟨action, key, present, rfl⟩
    obtain ⟨stored, found, _⟩ := coherent.owned key action present
    simp [fresh] at found

theorem setTxnStatus {status : TxnStatus} (now : Time)
    (read : view.txn = some txn) (moves : Moves intent view txn status) :
    Coherent
      { view with txn := view.txn.map fun txn => { txn with status := status } }
      (ledger.setTxnStatus now txn.orgID txn.id status).2 := by
  obtain ⟨stored, found, sameOrg, sameStatus⟩ := coherent.txn txn read
  rw [Ledger.setTxnStatus_of_found now status
    (Ledger.getTxn_eq_some.mpr ⟨found, sameOrg⟩)]
  refine coherent.storeTxn (coherent.keyed.txn _ stored found) ?_ ?_ ?_
  · intro other present
    rw [found, Option.some.injEq] at present
    rw [present]
  · intro seen equal
    simp only [read, Option.map_some, Option.some.injEq] at equal
    subst equal
    exact ⟨_, Table.get?_set_self _ _ _, sameOrg, rfl⟩
  · intro closing _
    rcases moves.committed closing with old | ⟨actions, _, scanned, rest⟩
    · exact Or.inl ⟨stored, found, sameStatus.trans old⟩
    · refine Or.inr ⟨?_, rest.1, rest.2.1⟩
      intro key action present same
      obtain ⟨owner, ownerFound, owned⟩ := coherent.owned key action present
      rw [same, found, Option.some.injEq] at ownerFound
      subst ownerFound
      exact rest.2.2 action (coherent.whole _ scanned rfl key action present
        (owned.symm.trans sameOrg) same)

/-! ## Steps that write actions -/

section StoreAction

variable {id : String} {new : TxnAction}

theorem owned_set
    (owned : ∃ txn, ledger.txns.get? new.transactionID = some txn ∧
      txn.orgID = new.orgID) :
    ∀ key action, (ledger.actions.set id new).get? key = some action →
      ∃ txn, ledger.txns.get? action.transactionID = some txn ∧
        txn.orgID = action.orgID :=
  Table.forall_get?_set
    (fun key action _ => coherent.owned key action) owned

variable (alike : ∀ old, ledger.actions.get? id = some old → Alike old new)

include alike

omit coherent in
/-- The entry for a record that exists already, or for another key. -/
theorem get?_set_of_present {key : String}
    (present : ledger.actions.get? key = some action) :
    ∃ current, (ledger.actions.set id new).get? key = some current ∧
      Alike action current ∧ (key ≠ id → current = action) ∧
      (key = id → current = new) := by
  rw [Table.get?_set]
  by_cases same : key = id
  · subst same
    exact ⟨new, by simp, alike action present, by simp, by simp⟩
  · exact ⟨action, by simp [same, present], Alike.refl action,
      fun _ => rfl, fun equal => absurd equal same⟩

theorem requested_set
    (pending : ∀ key approval, ledger.approvals.get? key = some approval →
      approval.actionID = some id → approval.status = .pending →
        new.status = .awaitingApproval) :
    ∀ key approval, ledger.approvals.get? key = some approval →
      ∃ other action, approval.actionID = some other ∧
        (ledger.actions.set id new).get? other = some action ∧
        action.orgID = approval.orgID ∧
        action.transactionID = approval.transactionID ∧
        (approval.status = .pending → action.status = .awaitingApproval) := by
  intro key approval stored
  obtain ⟨other, action, about, present, sameOrg, sameTxn, waiting⟩ :=
    coherent.requested key approval stored
  obtain ⟨current, found, similar, apart, own⟩ :=
    get?_set_of_present alike present
  refine ⟨other, current, about, found, similar.orgID.trans sameOrg,
    similar.transactionID.trans sameTxn, fun undecided => ?_⟩
  by_cases same : other = id
  · rw [own same]
    exact pending key approval stored (same ▸ about) undecided
  · rw [apart same]
    exact waiting undecided

theorem receipts_set:
    ∀ receipt ∈ ledger.receiptsList, ∃ action,
      (ledger.actions.set id new).get? receipt.actionID = some action ∧
        Attests receipt action := by
  intro receipt member
  obtain ⟨action, present, attests⟩ := coherent.receipts receipt member
  obtain ⟨current, found, similar, _⟩ := get?_set_of_present alike present
  exact ⟨current, found, attests.of_alike similar⟩

theorem signing_set:
    ∀ receipt, view.receipt = some receipt →
      ∀ stored ∈ ledger.receiptsList, stored.id = receipt.id →
        ∃ action, (ledger.actions.set id new).get? stored.actionID =
            some action ∧
          ¬ ledger.Committed action.transactionID := by
  intro receipt signing stored member equal
  obtain ⟨action, present, uncommitted⟩ :=
    coherent.signing receipt signing stored member equal
  obtain ⟨current, found, similar, _⟩ := get?_set_of_present alike present
  exact ⟨current, found, similar.transactionID ▸ uncommitted⟩

end StoreAction

/-- No receipt is about an action that does not exist. -/
theorem receiptsOf_absent {id : String}
    (absent : ledger.actions.get? id = none) : ledger.receiptsOf id = [] := by
  refine List.filter_eq_nil_iff.mpr fun receipt member equal => ?_
  obtain ⟨action, present, _⟩ := coherent.receipts receipt member
  simp only [decide_eq_true_eq] at equal
  simp [equal, absent] at present

theorem addAction {hashing : Hashing} {uid : String}
    (fresh : ledger.actions.get? uid = none) (now : Time)
    (undrafted : view.draft = none) (unheld : view.held = none)
    (undecided : view.decided = none)
    (proposed : action.status = .proposed)
    (read : view.txn = some txn) (sameTxn : txn.id = action.transactionID)
    (sameOrg : txn.orgID = action.orgID)
    (unclosed : txn.status.terminal = false) :
    Coherent
      { view with
        scan := none
        draft := some { id := uid, proposal := action } }
      { ledger with
        actions := ledger.actions.set uid
          (Ledger.newAction hashing uid now action)
        byIdem := ledger.byIdem.set (Ledger.keyOf action) uid } := by
  have alike : ∀ old, ledger.actions.get? uid = some old →
      Alike old (Ledger.newAction hashing uid now action) := by
    simp [fresh]
  have status : (Ledger.newAction hashing uid now action).status =
      .proposed := by
    simp [Ledger.newAction, proposed]
  obtain ⟨stored, found, storedOrg, storedStatus⟩ := coherent.txn txn read
  rw [sameTxn] at found
  have uncommitted : ¬ ledger.Committed action.transactionID := by
    rintro ⟨other, present, committed⟩
    rw [found, Option.some.injEq] at present
    rw [← storedStatus, present, committed] at unclosed
    simp [TxnStatus.terminal] at unclosed
  refine { coherent with
    keyed := { coherent.keyed with
      action := Ledger.keyed_set coherent.keyed.action rfl }
    owned := coherent.owned_set ⟨stored, found, storedOrg.trans sameOrg⟩
    drafting := ?_
    requested := coherent.requested_set alike ?_
    receipts := coherent.receipts_set alike
    signing := coherent.signing_set alike
    attested := ?_, unattested := ?_, committed := ?_
    exclusive := Or.inr ⟨unheld, undecided⟩
    scan := by simp, whole := by simp
    draft := ?_, unasked := ?_
    held := by simp [unheld]
    waiting := by simp [undecided] }
  · refine Table.forall_get?_set ?_ fun _ => ⟨_, rfl, rfl, rfl⟩
    intro key other _ present draft
    obtain ⟨_, drafted, _⟩ := coherent.drafting key other present draft
    simp [undrafted] at drafted
  · intro key approval present about _
    obtain ⟨id, other, aboutOther, otherPresent, _⟩ :=
      coherent.requested key approval present
    rw [about, Option.some.injEq] at aboutOther
    simp [← aboutOther, fresh] at otherPresent
  · refine Table.forall_get?_set (fun key other _ => coherent.attested key other)
      ?_
    simp [status, ActionStatus.attested]
  · refine Table.forall_get?_set
      (fun key other _ => coherent.unattested key other) ?_
    exact fun _ => coherent.receiptsOf_absent fresh
  · refine Table.forall_get?_set
      (fun key other _ => coherent.committed key other) ?_
    exact fun committed => absurd committed uncommitted
  · intro draft drafted
    simp only [Option.some.injEq] at drafted
    subst drafted
    exact ⟨_, Table.get?_set_self _ _ _, status, rfl, rfl⟩
  · intro draft drafted _ key approval present about
    simp only [Option.some.injEq] at drafted
    subst drafted
    obtain ⟨id, other, aboutOther, otherPresent, _⟩ :=
      coherent.requested key approval present
    rw [about, Option.some.injEq] at aboutOther
    simp [← aboutOther, fresh] at otherPresent

/-- A write through the pointer to the draft. -/
theorem modifyDraft {draft next : Draft} {old new : TxnAction}
    (drafted : view.draft = some draft) (undecided : draft.status = none)
    (sameID : next.id = draft.id) (sameProposal : next.proposal = draft.proposal)
    (sameAsked : next.asked = draft.asked)
    (present : ledger.actions.get? draft.id = some old)
    (alike : Alike old new)
    (status : new.status = next.status.getD .proposed)
    (named : next.status ≠ some .proposed)
    (unattested : new.status.attested = false) :
    Coherent { view with scan := none, draft := some next }
      { ledger with actions := ledger.actions.set draft.id new } := by
  have apart : view.held = none ∧ view.decided = none := by
    simpa [drafted] using coherent.exclusive
  obtain ⟨_, found, proposed, ownOrg, ownTxn⟩ := coherent.draft draft drafted
  rw [present, Option.some.injEq] at found
  subst found
  rw [undecided, Option.getD_none] at proposed
  have similar : ∀ stored, ledger.actions.get? draft.id = some stored →
      Alike stored new := by
    intro stored same
    rw [present, Option.some.injEq] at same
    exact same ▸ alike
  refine { coherent with
    keyed := { coherent.keyed with
      action := Ledger.keyed_set coherent.keyed.action
        (alike.id.trans (coherent.keyed.action _ _ present)) }
    owned := coherent.owned_set ?_
    drafting := ?_
    requested := coherent.requested_set similar ?_
    receipts := coherent.receipts_set similar
    signing := coherent.signing_set similar
    attested := ?_, unattested := ?_, committed := ?_
    exclusive := Or.inr apart
    scan := by simp, whole := by simp
    draft := ?_, unasked := ?_
    held := by simp [apart.1]
    waiting := by simp [apart.2] }
  · rw [alike.transactionID, alike.orgID]
    exact coherent.owned draft.id old present
  · refine Table.forall_get?_set ?_ ?_
    · intro key other different otherPresent otherProposed
      obtain ⟨mine, sameDraft, sameKey, _⟩ :=
        coherent.drafting key other otherPresent otherProposed
      rw [drafted, Option.some.injEq] at sameDraft
      subst sameDraft
      exact absurd sameKey.symm different
    · intro stillProposed
      refine ⟨next, rfl, sameID, ?_⟩
      cases written : next.status with
      | none => rfl
      | some value =>
          rw [written, Option.getD_some] at status
          exact absurd (by rw [written, ← status, stillProposed]) named
  · intro key approval stored about pending
    obtain ⟨other, action, aboutOther, otherPresent, _, _, waiting⟩ :=
      coherent.requested key approval stored
    rw [about, Option.some.injEq] at aboutOther
    rw [← aboutOther, present, Option.some.injEq] at otherPresent
    have awaited := waiting pending
    simp [← otherPresent, proposed] at awaited
  · refine Table.forall_get?_set (fun key other _ => coherent.attested key other)
      ?_
    simp [unattested]
  · refine Table.forall_get?_set
      (fun key other _ => coherent.unattested key other) ?_
    exact fun _ => coherent.unattested draft.id old present
      (Or.inl (by simp [proposed, ActionStatus.attested]))
  · refine Table.forall_get?_set
      (fun key other _ => coherent.committed key other) ?_
    intro committed
    rw [alike.transactionID] at committed
    have resolved := coherent.committed draft.id old present committed
    simp [proposed, ActionStatus.resolved] at resolved
  · intro mine equal
    simp only [Option.some.injEq] at equal
    subst equal
    refine ⟨new, ?_, status, ?_, ?_⟩
    · rw [sameID]
      exact Table.get?_set_self _ _ _
    · rw [alike.orgID, ownOrg, sameProposal]
    · rw [alike.transactionID, ownTxn, sameProposal]
  · intro mine equal
    simp only [Option.some.injEq] at equal
    subst equal
    rw [sameAsked, sameID]
    exact coherent.unasked draft drafted

theorem updateStored (id : String) :
    Coherent view (ledger.updateStored id) := by
  cases present : ledger.actions.get? id with
  | none =>
      simpa [Ledger.updateStored, present] using coherent
  | some action =>
      have keyed := coherent.keyed.action id action present
      have same : ∀ other, (ledger.actions.set id action).get? other =
          ledger.actions.get? other := by
        intro other
        rw [Table.get?_set]
        split
        · rename_i equal
          rw [equal, present]
        · rfl
      rw [Ledger.updateStored_of_present present keyed]
      refine { coherent with
        keyed := { coherent.keyed with
          action := by simpa only [same] using coherent.keyed.action }
        owned := by simpa only [same] using coherent.owned
        drafting := by simpa only [same] using coherent.drafting
        requested := by simpa only [same] using coherent.requested
        receipts := by simpa only [same] using coherent.receipts
        attested := fun key other found =>
          coherent.attested key other (same key ▸ found)
        unattested := fun key other found =>
          coherent.unattested key other (same key ▸ found)
        committed := fun key other found =>
          coherent.committed key other (same key ▸ found)
        scan := by simpa only [same] using coherent.scan
        whole := by simpa only [same] using coherent.whole
        draft := by simpa only [same] using coherent.draft
        held := by simpa only [same] using coherent.held
        waiting := by simpa only [same] using coherent.waiting
        signing := fun receipt signing stored member equal => by
          obtain ⟨current, found, uncommitted⟩ :=
            coherent.signing receipt signing stored member equal
          exact ⟨current, (same _).trans found, uncommitted⟩ }

/-- In a sequential run the record that an operation rewrites is the copy it
holds, so that the guards it checked on the copy hold of the record. -/
theorem rewritten
    (holding : view.held = some held) (unstored : held.stored = none)
    (rewrites : Rewrites intent view held action) :
    Revises held.record action ∧
      ledger.actions.get? action.id = some held.record ∧
      Rewritten intent view ledger held action := by
  have present := coherent.held held holding
  rw [unstored, Option.getD_none] at present
  cases rewrites with
  | ran orgID actionID outcome action executes runnable dispatched revises
      status =>
      refine ⟨revises, revises.alike.id ▸ present,
        .ran orgID actionID executes runnable ?_⟩
      rw [status]
      cases outcome with
      | ok result => simp [statusOf]
      | error error => cases error <;> simp [statusOf]
  | settled orgID actionID answer action reconciles uncertain answered revises
      status =>
      refine ⟨revises, revises.alike.id ▸ present,
        .settled orgID actionID reconciles uncertain (by simp [answered]) ?_⟩
      rw [status]
      cases answer <;> simp [settledStatus]
  | granted orgID approvalID approval decides decided granted about =>
      refine ⟨rfl, present, .granted orgID approvalID approval decides decided
        granted about ?_ rfl⟩
      obtain ⟨id, current, aboutCurrent, found, waiting⟩ :=
        coherent.waiting approval decided fun other otherHolding => by
          rw [holding, Option.some.injEq] at otherHolding
          exact otherHolding ▸ unstored
      rw [about, Option.some.injEq] at aboutCurrent
      rw [← aboutCurrent, present, Option.some.injEq] at found
      rw [found]
      exact waiting
  | undone orgID txnID txn scan listed status compensates read begun scanned
      member same sameTxn executed written =>
      have found := coherent.scan scan scanned listed member
      rw [same, present, Option.some.injEq] at found
      refine ⟨rfl, present, .undone orgID txnID compensates (found ▸ executed)
        ?_ written⟩
      rintro ⟨stored, storedFound, committed⟩
      obtain ⟨current, currentFound, _, currentStatus⟩ := coherent.txn txn read
      rw [sameTxn, ← found, storedFound, Option.some.injEq] at currentFound
      rw [← currentFound, committed, begun] at currentStatus
      simp at currentStatus

theorem updateAction
    (holding : view.held = some held) (unstored : held.stored = none)
    (rewrites : Rewrites intent view held action) :
    Coherent
      { view with
        scan := view.scan.map (Scan.without action.id)
        held := view.held.map fun held => { held with stored := some action } }
      (ledger.updateAction action) := by
  obtain ⟨revises, present, rewritten⟩ :=
    coherent.rewritten holding unstored rewrites
  have change := rewritten.cases
  have sameID : action.id = held.record.id := revises.alike.id
  rw [sameID] at present
  have undrafted : view.draft = none := by
    simpa [holding] using coherent.exclusive
  have alike : ∀ old, ledger.actions.get? action.id = some old →
      Alike old action := by
    intro old found
    rw [sameID, present, Option.some.injEq] at found
    exact found ▸ revises.alike
  have owedNothing : ∀ id, ¬ view.Owes id := by
    simp [View.Owes, holding, unstored]
  have owes : ∀ id, View.Owes
      { view with
        scan := view.scan.map (Scan.without action.id)
        held := view.held.map fun held => { held with stored := some action } }
      id ↔ action.id = id ∧ action.status = .executed := by
    simp [View.Owes, holding, coherent.untouched held holding unstored]
  rw [Ledger.updateAction_of_present (by rw [sameID]; exact present)]
  refine { coherent with
    keyed := { coherent.keyed with
      action := Ledger.keyed_set coherent.keyed.action rfl }
    owned := coherent.owned_set ?_
    drafting := ?_
    requested := coherent.requested_set alike ?_
    receipts := coherent.receipts_set alike
    signing := coherent.signing_set alike
    attested := ?_, unattested := ?_, committed := ?_
    exclusive := Or.inl undrafted
    scan := ?_, whole := ?_
    draft := by simp [undrafted]
    held := ?_, untouched := ?_, stored := ?_, live := ?_, waiting := ?_ }
  · rw [revises.alike.transactionID, revises.alike.orgID]
    exact coherent.owned _ _ present
  · refine Table.forall_get?_set (fun key other _ => coherent.drafting key other)
      fun proposed => ?_
    rcases change with ⟨_, status | status | status⟩ | ⟨_, status, _⟩ |
      ⟨_, status | status, _⟩ <;> simp [status] at proposed
  · intro key approval stored about pending
    obtain ⟨id, current, aboutCurrent, found, _, _, waiting⟩ :=
      coherent.requested key approval stored
    rw [about, Option.some.injEq] at aboutCurrent
    rw [← aboutCurrent, sameID, present, Option.some.injEq] at found
    have awaited := found ▸ waiting pending
    rcases change with ⟨live, _⟩ | ⟨_, _, decision, decided, aboutSame⟩ |
      ⟨executed, _⟩
    · exact absurd awaited live.not_waiting
    · -- The decided approval is the only one of the action.
      obtain ⟨decisionStored, undecided⟩ := coherent.decided decision decided
      have same := coherent.once key approval decision.id decision stored
        decisionStored (by rw [about, aboutSame, sameID])
      rw [same, decisionStored, Option.some.injEq] at stored
      exact absurd (stored ▸ pending) undecided
    · simp [executed] at awaited
  · refine Table.forall_get?_set
      (fun key other _ found attested _ =>
        coherent.attested key other found attested (owedNothing key)) ?_
    intro attested notOwed
    rw [owes] at notOwed
    rcases change with ⟨_, status | status | status⟩ | ⟨_, status, _⟩ |
      ⟨executed, _⟩
    · exact absurd ⟨rfl, status⟩ notOwed
    · simp [status, ActionStatus.attested] at attested
    · simp [status, ActionStatus.attested] at attested
    · simp [status, ActionStatus.attested] at attested
    · rw [sameID]
      exact coherent.attested _ _ present
        (by simp [executed, ActionStatus.attested]) (owedNothing _)
  · refine Table.forall_get?_set ?_ ?_
    · intro key other different found unattested
      refine coherent.unattested key other found (unattested.imp_right ?_)
      rw [owes]
      exact fun owed => absurd owed.1.symm different
    · rw [owes]
      intro unattested
      rw [sameID]
      refine coherent.unattested _ _ present (Or.inl ?_)
      rcases change with ⟨live, _⟩ | ⟨awaiting, _⟩ |
        ⟨_, status | status, _⟩
      · exact live.not_attested
      · simp [awaiting, ActionStatus.attested]
      · simp [status, ActionStatus.attested] at unattested
      · simp [status, ActionStatus.attested] at unattested
  · refine Table.forall_get?_set
      (fun key other _ => coherent.committed key other) ?_
    intro committed
    rw [revises.alike.transactionID] at committed
    rcases change with ⟨live, _⟩ | ⟨awaiting, _⟩ | ⟨_, _, uncommitted⟩
    · exact absurd committed (coherent.live held holding live)
    · have resolved := coherent.committed _ _ present committed
      simp [awaiting, ActionStatus.resolved] at resolved
    · exact absurd committed uncommitted
  · intro scan scanned listed member
    obtain ⟨before, scannedBefore, rfl⟩ := Option.map_eq_some_iff.mp scanned
    obtain ⟨member, different⟩ := List.mem_filter.mp member
    rw [Table.get?_set_of_ne _ _ (by simpa using different)]
    exact coherent.scan before scannedBefore listed member
  · intro scan scanned whole
    obtain ⟨before, _, rfl⟩ := Option.map_eq_some_iff.mp scanned
    simp [Scan.without] at whole
  · intro mine mineHolding
    simp only [holding, Option.map_some, Option.some.injEq] at mineHolding
    subst mineHolding
    rw [← sameID]
    exact Table.get?_set_self _ _ _
  · intro mine mineHolding mineUnstored
    simp only [holding, Option.map_some, Option.some.injEq] at mineHolding
    subst mineHolding
    simp at mineUnstored
  · intro mine written mineHolding mineStored
    simp only [holding, Option.map_some, Option.some.injEq] at mineHolding
    subst mineHolding
    simp only [Option.some.injEq] at mineStored
    subst mineStored
    refine ⟨revises, fun executed => ?_⟩
    rcases change with ⟨live, _⟩ | ⟨_, status, _⟩ | ⟨_, status | status, _⟩
    · exact live
    · simp [status] at executed
    · simp [status] at executed
    · simp [status] at executed
  · intro mine mineHolding live
    simp only [holding, Option.map_some, Option.some.injEq] at mineHolding
    subst mineHolding
    exact coherent.live held holding live
  · intro approval _ unwritten
    have impossible := unwritten { held with stored := some action }
      (by simp [holding])
    simp at impossible

/-! ## Steps that write approvals -/

theorem createApproval {uid : String} {draft : Draft} {approval : Approval}
    (now : Time)
    (drafted : view.draft = some draft)
    (about : approval.actionID = some draft.id)
    (sameOrg : approval.orgID = draft.proposal.orgID)
    (sameTxn : approval.transactionID = draft.proposal.transactionID)
    (waits : draft.status = some .awaitingApproval)
    (unasked : draft.asked = false) :
    Coherent
      { view with draft := view.draft.map fun draft =>
          { draft with asked := true } }
      (ledger.createApproval uid now approval).2 := by
  have apart : view.held = none ∧ view.decided = none := by
    simpa [drafted] using coherent.exclusive
  obtain ⟨action, present, status, ownOrg, ownTxn⟩ :=
    coherent.draft draft drafted
  rw [waits, Option.getD_some] at status
  have first := coherent.unasked draft drafted unasked
  refine { coherent with
    keyed := { coherent.keyed with
      approval := Ledger.keyed_set coherent.keyed.approval rfl }
    drafting := ?_
    requested := Table.forall_get?_set
      (fun key other _ => coherent.requested key other)
      ⟨draft.id, action, about, present, ownOrg.trans sameOrg.symm,
        ownTxn.trans sameTxn.symm, fun _ => status⟩
    once := ?_
    exclusive := Or.inr apart
    draft := ?_
    unasked := by simp [drafted]
    decided := by simp [apart.2] }
  · intro id other found proposed
    obtain ⟨mine, mineDrafted, facts⟩ :=
      coherent.drafting id other found proposed
    exact ⟨{ mine with asked := true }, by simp [mineDrafted], facts⟩
  · intro key old other another found anotherFound same
    simp only [Ledger.createApproval, Table.get?_set] at found anotherFound
    by_cases new : key = uid <;> by_cases otherNew : other = uid
    · exact new.trans otherNew.symm
    · simp only [new, otherNew, if_true, if_false, Option.some.injEq]
        at found anotherFound
      exact absurd (same.symm.trans (found ▸ about))
        (first other another anotherFound)
    · simp only [new, otherNew, if_true, if_false, Option.some.injEq]
        at found anotherFound
      exact absurd (same.trans (anotherFound ▸ about)) (first key old found)
    · simp only [new, otherNew, if_false] at found anotherFound
      exact coherent.once key old other another found anotherFound same
  · intro mine mineDrafted
    simp only [drafted, Option.map_some, Option.some.injEq] at mineDrafted
    subst mineDrafted
    exact coherent.draft draft drafted

theorem decideApproval {now : Time} {id decidedBy : String}
    {approve : Bool} {approval : Approval}
    (found : ledger.approvals.get? id = some approval)
    (pending : approval.status = .pending) (undrafted : view.draft = none) :
    Coherent
      { view with
        decided := some (Ledger.decided now decidedBy approve approval) }
      { ledger with
        approvals := ledger.approvals.set id
          (Ledger.decided now decidedBy approve approval) } := by
  have keyed := coherent.keyed.approval id approval found
  have settled : (Ledger.decided now decidedBy approve approval).status ≠
      .pending := by
    cases approve <;> simp [Ledger.decided]
  obtain ⟨actionID, action, about, present, sameOrg, sameTxn, waiting⟩ :=
    coherent.requested id approval found
  refine { coherent with
    keyed := { coherent.keyed with
      approval := Ledger.keyed_set coherent.keyed.approval keyed }
    requested := Table.forall_get?_set
      (fun key other _ => coherent.requested key other)
      ⟨actionID, action, about, present, sameOrg, sameTxn,
        fun undecided => absurd undecided settled⟩
    once := ?_
    exclusive := Or.inl undrafted
    unasked := by simp [undrafted]
    decided := ?_, waiting := ?_ }
  · -- The decided approval is about the action it was about before.
    have before : ∀ key other, (ledger.approvals.set id
        (Ledger.decided now decidedBy approve approval)).get? key =
          some other → ∃ old, ledger.approvals.get? key = some old ∧
            old.actionID = other.actionID :=
      Table.forall_get?_set (fun key other _ stored => ⟨other, stored, rfl⟩)
        ⟨approval, found, rfl⟩
    intro key first other second firstFound secondFound same
    obtain ⟨oldFirst, storedFirst, sameFirst⟩ := before key first firstFound
    obtain ⟨oldSecond, storedSecond, sameSecond⟩ :=
      before other second secondFound
    exact coherent.once key oldFirst other oldSecond storedFirst storedSecond
      (sameFirst.trans (same.trans sameSecond.symm))
  · intro mine equal
    cases equal
    refine ⟨?_, settled⟩
    rw [show (Ledger.decided now decidedBy approve approval).id = id from keyed]
    exact Table.get?_set_self _ _ _
  · intro mine equal _
    cases equal
    exact ⟨actionID, action, about, present, waiting pending⟩

/-! ## Steps that write receipts -/

theorem appendReceipt {hashing : Hashing} {uid : String}
    {receipt : Receipt}
    (fresh : ∀ old ∈ ledger.receiptsList, old.id ≠ uid)
    (holding : view.held = some held) (stored : held.stored = some action)
    (executed : action.status = .executed) (unattested : held.attested = false)
    (attests : Attests receipt action) :
    Coherent
      { view with
        held := view.held.map fun held => { held with attested := true }
        receipt := some (ledger.appendReceipt hashing uid receipt).1 }
      (ledger.appendReceipt hashing uid receipt).2 := by
  obtain ⟨revises, live⟩ := coherent.stored held action holding stored
  have present := coherent.held held holding
  rw [stored, Option.getD_some, ← revises.alike.id] at present
  have attestedPresent : ledger.actions.get? receipt.actionID = some action :=
    attests.1 ▸ present
  have uncommitted : ¬ ledger.Committed action.transactionID := by
    rw [revises.alike.transactionID]
    exact coherent.live held holding (live executed)
  have owed : ∀ id, view.Owes id ↔ action.id = id := by
    simp [View.Owes, holding, stored, executed, unattested]
  have owes : ∀ id, ¬ View.Owes
      { view with
        held := view.held.map fun held => { held with attested := true }
        receipt := some (ledger.appendReceipt hashing uid receipt).1 } id := by
    simp [View.Owes, holding]
  have about : ∀ id, (ledger.appendReceipt hashing uid receipt).2.receiptsOf
      id = ledger.receiptsOf id ++
        if action.id = id then [(ledger.appendReceipt hashing uid receipt).1]
        else [] := by
    intro id
    simp only [Ledger.receiptsOf, Ledger.appendReceipt, List.filter_append,
      List.filter_singleton, attests.1, Bool.cond_decide]
  refine { coherent with
    keyed := { coherent.keyed with }
    receipts := ?_, attested := ?_, unattested := ?_
    exclusive := Or.inl (by simpa [holding] using coherent.exclusive)
    held := ?_, untouched := ?_, stored := ?_, live := ?_, waiting := ?_
    signing := ?_ }
  · intro old member
    rcases List.mem_append.mp member with member | member
    · exact coherent.receipts old member
    · rw [List.mem_singleton.mp member]
      exact ⟨action, attestedPresent, attests⟩
  · intro id other found attested _
    rw [about]
    by_cases same : action.id = id
    · rw [coherent.unattested id other found (Or.inr ((owed id).mpr same))]
      simp [same]
    · simp only [same, if_false, List.append_nil]
      exact coherent.attested id other found attested (by rwa [owed])
  · intro id other found none
    have unexecuted := none.resolve_right (owes id)
    have different : action.id ≠ id := by
      rintro rfl
      have same := Option.some.inj (present.symm.trans found)
      simp [← same, executed, ActionStatus.attested] at unexecuted
    rw [about, if_neg different, List.append_nil]
    exact coherent.unattested id other found (Or.inl unexecuted)
  · intro mine mineHolding
    simp only [holding, Option.map_some, Option.some.injEq] at mineHolding
    subst mineHolding
    exact coherent.held held holding
  · intro mine mineHolding mineUnstored
    simp only [holding, Option.map_some, Option.some.injEq] at mineHolding
    subst mineHolding
    simp [stored] at mineUnstored
  · intro mine written mineHolding mineStored
    simp only [holding, Option.map_some, Option.some.injEq] at mineHolding
    subst mineHolding
    exact coherent.stored held written holding mineStored
  · intro mine mineHolding mineLive
    simp only [holding, Option.map_some, Option.some.injEq] at mineHolding
    subst mineHolding
    exact coherent.live held holding mineLive
  · intro approval decided unwritten
    refine coherent.waiting approval decided fun mine mineHolding => ?_
    exact unwritten { mine with attested := true } (by simp [mineHolding])
  · intro mine equal old member same
    cases equal
    rcases List.mem_append.mp member with member | member
    · exact absurd same (fresh old member)
    · rw [List.mem_singleton.mp member]
      exact ⟨action, attestedPresent, uncommitted⟩

/-- Signing a receipt changes nothing that a receipt says about its
action. -/
theorem updateReceipt (orgID id keyID signature : String) :
    Coherent view (ledger.updateReceipt orgID id keyID signature) := by
  have about : ∀ actionID, ((ledger.updateReceipt orgID id keyID
      signature).receiptsOf actionID).length =
        (ledger.receiptsOf actionID).length := by
    intro actionID
    simp only [Ledger.receiptsOf, Ledger.updateReceipt, List.filter_map,
      List.length_map]
    congr 2
    funext receipt
    simp only [Function.comp]
    split <;> rfl
  refine { coherent with
    keyed := { coherent.keyed with }
    receipts := ?_, attested := ?_, unattested := ?_, signing := ?_ }
  · intro receipt member
    obtain ⟨old, oldMember, rfl⟩ := List.mem_map.mp member
    split
    · exact coherent.receipts old oldMember
    · exact coherent.receipts old oldMember
  · intro key action present attested unowed
    rw [about]
    exact coherent.attested key action present attested unowed
  · intro key action present unattested
    rw [← List.length_eq_zero_iff, about]
    exact List.length_eq_zero_iff.mpr
      (coherent.unattested key action present unattested)
  · intro receipt signing stored member
    obtain ⟨old, oldMember, rfl⟩ := List.mem_map.mp member
    have kept := coherent.signing receipt signing old oldMember
    split
    · exact kept
    · exact kept

/-! ## Steps that only read -/

theorem getTxn (orgID id : String) :
    Coherent { view with txn := ledger.getTxn orgID id } ledger := by
  refine { coherent with txn := fun txn read => ?_ }
  obtain ⟨present, _⟩ := Ledger.getTxn_eq_some.mp read
  exact ⟨txn, by rwa [coherent.keyed.txn id txn present], rfl, rfl⟩

theorem getAction (orgID id : String)
    (undrafted : view.draft = none) (owesNothing : ∀ id, ¬ view.Owes id)
    (once : view.decided = none ∨ view.held = none) :
    Coherent
      { view with
        held := (ledger.getAction orgID id).map fun record =>
          { record := record } }
      ledger := by
  have copied : ∀ held : Held, (ledger.getAction orgID id).map
      (fun record => ({ record := record } : Held)) = some held →
        held = { record := held.record } ∧
          ledger.actions.get? held.record.id = some held.record := by
    intro held holding
    obtain ⟨record, found, rfl⟩ := Option.map_eq_some_iff.mp holding
    obtain ⟨present, _⟩ := Ledger.getAction_eq_some.mp found
    exact ⟨rfl, by rwa [coherent.keyed.action id record present]⟩
  have owes : ∀ id', ¬ View.Owes
      { view with held := (ledger.getAction orgID id).map fun record =>
          { record := record } } id' := by
    rintro id' ⟨held, action, holding, stored, _⟩
    rw [(copied held holding).1] at stored
    simp at stored
  refine { coherent with
    attested := fun key action present attested _ =>
      coherent.attested key action present attested (owesNothing key)
    unattested := fun key action present unattested =>
      coherent.unattested key action present
        (Or.inl (unattested.resolve_right (owes key)))
    exclusive := Or.inl undrafted
    held := ?_, untouched := ?_, stored := ?_, live := ?_, waiting := ?_ }
  · intro held holding
    obtain ⟨plain, present⟩ := copied held holding
    rw [plain]
    exact present
  · intro held holding _
    rw [(copied held holding).1]
  · intro held action holding stored
    rw [(copied held holding).1] at stored
    simp at stored
  · intro held holding live committed
    have resolved := coherent.committed _ _ (copied held holding).2 committed
    rw [live.unresolved] at resolved
    simp at resolved
  · intro approval decided _
    refine coherent.waiting approval decided fun held holding => ?_
    rcases once with undecided | unheld
    · simp [undecided] at decided
    · simp [unheld] at holding

theorem actionsForTxn (rank : String → Nat) (orgID txnID : String) :
    Coherent
      { view with
        scan :=
          some ⟨orgID, txnID, ledger.actionsForTxn rank orgID txnID, true⟩ }
      ledger := by
  refine { coherent with scan := ?_, whole := ?_ }
  · intro scan scanned listed member
    cases scanned
    obtain ⟨_, key, present⟩ := Ledger.mem_actionsForTxn.mp member
    rwa [coherent.keyed.action key listed present]
  · intro scan scanned _ id action present sameOrg sameTxn
    cases scanned
    exact Ledger.mem_actionsForTxn.mpr ⟨⟨sameOrg, sameTxn⟩, id, present⟩

/-- What the operation notes about the outside world beside its copy. -/
theorem annotate {note : Held → Held}
    (record : ∀ held, (note held).record = held.record)
    (stored : ∀ held, (note held).stored = held.stored)
    (attested : ∀ held, (note held).attested = held.attested) :
    Coherent { view with held := view.held.map note } ledger := by
  have owes : ∀ id, View.Owes { view with held := view.held.map note } id ↔
      view.Owes id := by
    intro id
    cases holding : view.held <;>
      simp [View.Owes, holding, stored, attested]
  refine { coherent with
    attested := fun id action present => by
      rw [owes]
      exact coherent.attested id action present
    unattested := fun id action present => by
      rw [owes]
      exact coherent.unattested id action present
    exclusive := by simpa using coherent.exclusive
    held := ?_, untouched := ?_, stored := ?_, live := ?_, waiting := ?_ }
  · intro held holding
    obtain ⟨old, oldHolding, rfl⟩ := Option.map_eq_some_iff.mp holding
    rw [record, stored]
    exact coherent.held old oldHolding
  · intro held holding
    obtain ⟨old, oldHolding, rfl⟩ := Option.map_eq_some_iff.mp holding
    rw [stored, attested]
    exact coherent.untouched old oldHolding
  · intro held action holding
    obtain ⟨old, oldHolding, rfl⟩ := Option.map_eq_some_iff.mp holding
    rw [stored, record]
    exact coherent.stored old action oldHolding
  · intro held holding
    obtain ⟨old, oldHolding, rfl⟩ := Option.map_eq_some_iff.mp holding
    rw [record]
    exact coherent.live old oldHolding
  · intro approval decided unwritten
    refine coherent.waiting approval decided fun held holding => ?_
    rw [← stored]
    exact unwritten (note held) (by simp [holding])

/-! ## All steps -/

omit coherent in
/-- A permitted step keeps coherence. -/
theorem step {config : Config} {env : Env} {world : World} {request : Call}
    (coherent : Coherent view world.ledger) (admissible : Admissible world env)
    (may : May intent view request) :
    Coherent (view.learn request (exec config request env world).1)
      (exec config request env world).2.ledger := by
  obtain ⟨fresh, _⟩ := admissible
  by_cases writes : request.Writes
  swap
  · rw [ledger_exec_of_not_writes writes]
    cases request with
    | getTxn orgID id => exact coherent.getTxn orgID id
    | getAction orgID id =>
        exact coherent.getAction orgID id may.1 may.2.1.1 may.2.2
    | actionsForTxn orgID txnID => exact coherent.actionsForTxn env.rank _ _
    | execute action =>
        exact coherent.annotate (fun _ => rfl) (fun _ => rfl) fun _ => rfl
    | reconcile reconciler action =>
        generalize (exec config (.reconcile reconciler action) env world).1 =
          reply
        cases reply with
        | ok answer =>
            exact coherent.annotate (fun _ => rfl) (fun _ => rfl) fun _ => rfl
        | error error => exact coherent
    | _ => first | exact coherent | exact absurd trivial writes
  cases request with
  | createTxn txn => exact coherent.createTxn fresh.txn env.now txn
  | setTxnStatus orgID id status =>
      obtain ⟨txn, read, rfl, rfl, moves⟩ := may
      exact coherent.setTxnStatus env.now read moves
  | addAction action =>
      obtain ⟨_, undrafted, unheld, undecided, proposed, _, _, txn, read,
        sameTxn, sameOrg, unclosed⟩ := may
      change Coherent (view.learn (.addAction action)
        (world.ledger.addAction _ env.uid env.now action).1)
        (world.ledger.addAction _ env.uid env.now action).2
      cases found : world.ledger.byIdem? (Ledger.keyOf action) with
      | some previous =>
          rw [Ledger.addAction_of_duplicate env.uid env.now found]
          exact coherent
      | none =>
          rw [Ledger.addAction_of_new env.uid env.now found]
          exact coherent.addAction fresh.action env.now undrafted unheld
            undecided proposed read sameTxn sameOrg unclosed
  | updateAction action =>
      obtain ⟨held, holding, unstored, rewrites⟩ := may
      exact coherent.updateAction holding unstored rewrites
  | setStoredDecision id decision =>
      obtain ⟨draft, drafted, rfl, undecided⟩ := may
      obtain ⟨old, present, proposed, _⟩ := coherent.draft draft drafted
      rw [undecided, Option.getD_none] at proposed
      change Coherent
        { view with
          scan := none
          draft := view.draft.map fun draft =>
            { draft with decision := some decision } }
        (world.ledger.modifyStored draft.id _)
      rw [Ledger.modifyStored_of_present _ present, drafted, Option.map_some]
      refine coherent.modifyDraft drafted undecided rfl rfl rfl present ?_ ?_ ?_
        ?_
      · exact ⟨rfl, rfl, rfl, rfl, rfl, rfl, rfl, rfl⟩
      · simp [proposed, undecided]
      · simp [undecided]
      · simp [proposed, ActionStatus.attested]
  | setStoredStatus id status =>
      obtain ⟨draft, decision, drafted, rfl, undecided, _, rfl⟩ := may
      obtain ⟨old, present, _⟩ := coherent.draft draft drafted
      change Coherent
        { view with
          scan := none
          draft := view.draft.map fun draft =>
            { draft with status := some (initialStatus decision.effect) } }
        (world.ledger.modifyStored draft.id _)
      rw [Ledger.modifyStored_of_present _ present, drafted, Option.map_some]
      refine coherent.modifyDraft drafted undecided rfl rfl rfl present ?_ rfl
        ?_ (initialStatus_not_attested _)
      · exact ⟨rfl, rfl, rfl, rfl, rfl, rfl, rfl, rfl⟩
      · exact fun equal =>
          initialStatus_ne_proposed _ (Option.some.inj equal)
  | updateStored id => exact coherent.updateStored id
  | createApproval approval =>
      obtain ⟨draft, drafted, about, sameOrg, sameTxn, waits, unasked⟩ := may
      exact coherent.createApproval env.now drafted about sameOrg sameTxn waits
        unasked
  | decideApproval orgID id decidedBy approve =>
      obtain ⟨_, undecided, unheld, undrafted⟩ := may
      change Coherent
        { view with decided := (world.ledger.decideApproval env.now orgID id
            decidedBy approve).1 }
        (world.ledger.decideApproval env.now orgID id decidedBy approve).2
      cases found : (world.ledger.decideApproval env.now orgID id decidedBy
          approve).1 with
      | none =>
          rw [Ledger.decideApproval_of_none found, ← undecided]
          exact coherent
      | some approval =>
          obtain ⟨old, present, _, pending, rfl, written⟩ :=
            Ledger.decideApproval_of_some found
          rw [written]
          exact coherent.decideApproval present pending undrafted
  | appendReceipt receipt =>
      obtain ⟨held, action, holding, stored, executed, unattested, attests⟩ :=
        may
      exact coherent.appendReceipt fresh.receipt holding stored executed
        unattested attests
  | setStoredSignature orgID id keyID signature =>
      exact coherent.updateReceipt _ _ _ _
  | updateReceipt orgID id keyID signature =>
      exact coherent.updateReceipt _ _ _ _
  | _ => exact writes.elim

end Coherent
end SettleAgent
