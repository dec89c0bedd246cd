import SettleAgent.Sequential.Runs

/-!
# Transactions from opening to closing

The status of a transaction in a sequential run of HTTP requests: its
transitions are those of the state machine, although not every writer goes
through `MustTransition`, and a committed transaction is frozen.
-/

namespace SettleAgent

open Interaction

variable {config : Config} {env : Env} {world : World} {intent : Intent}
  {view : View} {request : Call}

/-! ## Transitions -/

/-- What an HTTP request may write to a transaction that was opened as
planned. -/
theorem Moves.legal {txn : Transaction} {status : TxnStatus}
    (moves : Moves intent view txn status) (forward : intent.Forward)
    (opened : txn.status ≠ .created) :
    canTransition txn.status status = true := by
  cases moves with
  | pause | resume | abort => exact canTransition_statusAfter txn _
  | begin held orgID actionID executes holding unstored runnable same early =>
      rcases early with early | early | early
      · exact absurd early opened
      · simp [early, canTransition, TxnStatus.terminal, allowedTransitions]
      · simp [early, canTransition, TxnStatus.terminal, allowedTransitions]
  | close actions commits scanned unheld unattested resolved unclosed legal =>
      exact legal
  | compensate status compensates =>
      exact absurd compensates (forward.uncompensated _ _)

theorem Moves.ne_created {txn : Transaction} {status : TxnStatus}
    (moves : Moves intent view txn status) (opened : txn.status ≠ .created) :
    status ≠ .created := by
  have kept {target : TxnStatus} (other : target ≠ .created) :
      statusAfter txn target ≠ .created := by
    rcases statusAfter_eq txn target with equal | equal
    · rwa [equal]
    · rwa [equal]
  cases moves with
  | pause | resume | abort => exact kept (by simp)
  | begin | close => simp
  | compensate status compensates written =>
      rcases written with rfl | rfl | rfl <;> simp

/-- No transaction is stored with the status `CREATED`. -/
def Opened (world : World) : Prop :=
  ∀ id txn, world.ledger.txns.get? id = some txn → txn.status ≠ .created

variable (coherent : Coherent view world.ledger)
  (admissible : Admissible world env) (may : May intent view request)
  (forward : intent.Forward) (opened : Opened world)

include coherent admissible may forward opened in
/-- A step of an HTTP request moves a transaction along the state machine. -/
theorem Coherent.legal_step {id : String} {txn : Transaction}
    (present : world.ledger.txns.get? id = some txn) :
    ∃ next, (exec config request env world).2.ledger.txns.get? id = some next ∧
      canTransition txn.status next.status = true := by
  cases txnWrite config admissible may id with
  | kept same => exact ⟨txn, same.trans present, canTransition_self _⟩
  | created new planned creates status named absent written =>
      simp [absent] at present
  | moved read stored status seen named found sameOrg moves written =>
      rw [found, Option.some.injEq] at present
      subst present
      obtain ⟨current, currentFound, _, sameStatus⟩ := coherent.txn read seen
      rw [named, found, Option.some.injEq] at currentFound
      subst currentFound
      refine ⟨_, written, ?_⟩
      rw [sameStatus]
      exact moves.legal forward (sameStatus ▸ opened id stored found)

include coherent admissible may forward opened in
theorem Coherent.opened_step :
    Opened (exec config request env world).2 := by
  intro id txn present
  cases txnWrite config admissible may id with
  | kept same => exact opened id txn (same ▸ present)
  | created new planned creates status named absent written =>
      rw [written, Option.some.injEq] at present
      subst present
      cases planned with
      | true => simp [status rfl]
      | false => exact absurd creates forward.planned
  | moved read stored status seen named found sameOrg moves written =>
      rw [written, Option.some.injEq] at present
      subst present
      obtain ⟨current, currentFound, _, sameStatus⟩ := coherent.txn read seen
      rw [named, found, Option.some.injEq] at currentFound
      subst currentFound
      exact moves.ne_created (sameStatus ▸ opened id stored found)

/-! ## A committed transaction is frozen -/

/-- The transaction is committed in the later ledger, and its actions,
approvals and receipts are those of the earlier one. -/
structure Frozen (id : String) (earlier later : Ledger) : Prop where
  committed : later.Committed id
  actions : ∀ key action, action.transactionID = id →
    (later.actions.get? key = some action ↔
      earlier.actions.get? key = some action)
  approvals : ∀ key approval, approval.transactionID = id →
    (later.approvals.get? key = some approval ↔
      earlier.approvals.get? key = some approval)
  receipts : later.receiptsList.filter (fun receipt =>
      receipt.transactionID = id) =
    earlier.receiptsList.filter fun receipt => receipt.transactionID = id

namespace Frozen

variable {id : String} {first second third : Ledger}

theorem refl (committed : first.Committed id) : Frozen id first first :=
  ⟨committed, by simp, by simp, rfl⟩

theorem trans (left : Frozen id first second) (right : Frozen id second third) :
    Frozen id first third where
  committed := right.committed
  actions := fun key action same =>
    (right.actions key action same).trans (left.actions key action same)
  approvals := fun key approval same =>
    (right.approvals key approval same).trans (left.approvals key approval same)
  receipts := right.receipts.trans left.receipts

end Frozen

/-- An entry that is not of the transaction, before or after, does not count. -/
theorem entry_iff
    {V : Type} {name : V → String} {id : String} {before after : Option V}
    (old : ∀ value, before = some value → name value ≠ id)
    (new : ∀ value, after = some value → name value ≠ id) :
    ∀ value, name value = id → (after = some value ↔ before = some value) :=
  fun value same => ⟨fun found => absurd same (new value found),
    fun found => absurd same (old value found)⟩

namespace Coherent

variable {id : String}

/-- An action that is not resolved is of no committed transaction. -/
theorem apart_of_unresolved {ledger : Ledger} (coherent : Coherent view ledger)
    (committed : ledger.Committed id) {key : String} {action : TxnAction}
    (present : ledger.actions.get? key = some action)
    (unresolved : action.status.resolved = false) :
    action.transactionID ≠ id := by
  rintro rfl
  simp [coherent.committed key action present committed] at unresolved

include coherent admissible may in
theorem frozen_actions (committed : world.ledger.Committed id) (key : String) :
    ∀ action : TxnAction, action.transactionID = id →
      ((exec config request env world).2.ledger.actions.get? key =
          some action ↔ world.ledger.actions.get? key = some action) := by
  -- A draft that has no status yet is of no committed transaction.
  have drafts {draft : Draft} {old : TxnAction}
      (drafted : view.draft = some draft) (named : draft.id = key)
      (undecided : draft.status = none)
      (present : world.ledger.actions.get? key = some old) :
      old.transactionID ≠ id := by
    obtain ⟨stored, found, status, _⟩ := coherent.draft draft drafted
    rw [named, present, Option.some.injEq] at found
    subst found
    refine coherent.apart_of_unresolved committed present ?_
    simp [status, undecided, ActionStatus.resolved]
  cases actionWrite config coherent.keyed admissible may key with
  | kept same => simp [same]
  | added action mayAdd named absent written =>
      obtain ⟨_, _, _, _, _, _, _, txn, read, sameTxn, _, unclosed⟩ := mayAdd
      refine entry_iff (by simp [absent]) ?_
      rw [written]
      rintro _ ⟨rfl⟩ rfl
      obtain ⟨stored, found, closed⟩ := committed
      obtain ⟨current, currentFound, _, sameStatus⟩ := coherent.txn txn read
      rw [sameTxn] at currentFound
      cases found.symm.trans currentFound
      simp [← sameStatus, closed, TxnStatus.terminal] at unclosed
  | decided draft old decision drafted named undecided present written =>
      have apart := drafts drafted named undecided present
      exact entry_iff (by simpa [present] using apart)
        (by simpa [written] using apart)
  | placed draft old decision drafted named undecided known present written =>
      have apart := drafts drafted named undecided present
      exact entry_iff (by simpa [present] using apart)
        (by simpa [written] using apart)
  | rewritten held old action holding unstored rewrites named present written =>
      obtain ⟨revises, found, change⟩ :=
        coherent.rewritten holding unstored rewrites
      rw [named, present, Option.some.injEq] at found
      subst found
      have apart : held.record.transactionID ≠ id := by
        rcases change.cases with ⟨live, _⟩ | ⟨waiting, _⟩ | ⟨_, _, uncommitted⟩
        · rintro rfl
          exact coherent.live held holding live committed
        · exact coherent.apart_of_unresolved committed present
            (by simp [waiting, ActionStatus.resolved])
        · rintro rfl
          exact uncommitted committed
      exact entry_iff (by simpa [present] using apart)
        (by simpa [written, revises.alike.transactionID] using apart)

include coherent admissible may in
theorem frozen_approvals (committed : world.ledger.Committed id)
    (key : String) :
    ∀ approval : Approval, approval.transactionID = id →
      ((exec config request env world).2.ledger.approvals.get? key =
          some approval ↔ world.ledger.approvals.get? key = some approval) := by
  cases approvalWrite config admissible may key with
  | kept same => simp [same]
  | created approval mayAsk named absent written =>
      obtain ⟨draft, drafted, _, _, sameTxn, waits, _⟩ := mayAsk
      obtain ⟨action, present, status, _, ownTxn⟩ :=
        coherent.draft draft drafted
      have apart : action.transactionID ≠ id :=
        coherent.apart_of_unresolved committed present
          (by simp [status, waits, ActionStatus.resolved])
      refine entry_iff (by simp [absent]) ?_
      simpa [written, sameTxn, ← ownTxn] using apart
  | decided old orgID decidedBy approve decides present sameOrg pending
      written =>
      obtain ⟨actionID, action, about, found, _, sameTxn, waiting⟩ :=
        coherent.requested key old present
      have apart : action.transactionID ≠ id :=
        coherent.apart_of_unresolved committed found
          (by simp [waiting pending, ActionStatus.resolved])
      rw [sameTxn] at apart
      exact entry_iff (by simpa [present] using apart)
        (by simpa [written, Ledger.decided] using apart)

theorem frozen_receipts (coherent : Coherent view world.ledger)
    (may : May intent view request) (committed : world.ledger.Committed id) :
    (exec config request env world).2.ledger.receiptsList.filter
        (fun receipt => receipt.transactionID = id) =
      world.ledger.receiptsList.filter
        fun receipt => receipt.transactionID = id := by
  cases receiptWrite config env world may with
  | kept same => rw [same]
  | appended receipt mayAttest written =>
      obtain ⟨held, action, holding, stored, executed, _, attests⟩ := mayAttest
      obtain ⟨revises, live⟩ := coherent.stored held action holding stored
      have apart : receipt.transactionID ≠ id := by
        rw [attests.2.2.1, revises.alike.transactionID]
        rintro rfl
        exact coherent.live held holding (live executed) committed
      simp [written, Ledger.appendReceipt, List.filter_append, apart]
  | signed receipt keyID signature signing written =>
      have apart : ∀ stored ∈ world.ledger.receiptsList,
          stored.id = receipt.id → stored.transactionID ≠ id := by
        rintro stored member equal rfl
        obtain ⟨action, present, uncommitted⟩ :=
          coherent.signing receipt signing stored member equal
        obtain ⟨other, found, attests⟩ := coherent.receipts stored member
        rw [present, Option.some.injEq] at found
        subst found
        exact uncommitted (attests.2.2.1 ▸ committed)
      -- The signature goes to a receipt that the filter leaves out.
      rw [written, Ledger.updateReceipt, List.filter_map]
      have same : world.ledger.receiptsList.filter
          ((fun receipt => decide (receipt.transactionID = id)) ∘ fun current =>
            if current.id = receipt.id ∧ current.orgID = receipt.orgID then
              { current with keyID := keyID, signature := signature }
            else current) =
          world.ledger.receiptsList.filter fun receipt =>
            receipt.transactionID = id := by
        refine List.filter_congr fun current _ => ?_
        simp only [Function.comp]
        split <;> rfl
      rw [same]
      refine (List.map_congr_left fun current member => ?_).trans
        (List.map_id _)
      obtain ⟨stored, own⟩ := List.mem_filter.mp member
      refine if_neg fun signed => apart current stored signed.1 ?_
      simpa using own

include coherent admissible may forward opened in
/-- A step of an HTTP request leaves a committed transaction as it is. -/
theorem frozen_step (committed : world.ledger.Committed id) :
    Frozen id world.ledger (exec config request env world).2.ledger where
  committed := by
    obtain ⟨txn, present, status⟩ := committed
    obtain ⟨next, written, legal⟩ :=
      coherent.legal_step admissible may forward opened present
    have terminal : txn.status.terminal = true := by
      simp [status, TxnStatus.terminal]
    exact ⟨next, written,
      (eq_of_canTransition_terminal terminal legal).trans status⟩
  actions := coherent.frozen_actions admissible may committed
  approvals := coherent.frozen_approvals admissible may committed
  receipts := coherent.frozen_receipts may committed

end Coherent

/-! ## Commit -/

/-- Whether the call has stored the transaction as committed. -/
def closes (txnID : String) : (request : Call) → request.Resp → Bool
  | .setTxnStatus _ id .committed, .ok _ => id = txnID
  | _, _ => false

/-- The role of a request that notes whether it has committed the transaction,
and writes no transaction any more once it has. -/
def closing (txnID : String) : Role Call Call.Resp Bool where
  learn closed request reply := closed || closes txnID request reply
  may closed request := closed = true → ¬ request.WritesTxns
  fits _ _ := True

theorem commit_closing (traceID orgID txnID : String) :
    (Gateway.commit traceID orgID txnID).Obeys (closing txnID)
      (fun out closed => ∀ txn, out = .ok txn → closed = true) false := by
  simp only [Gateway.commit, Prog.perform_bind, Prog.obeys_call]
  refine ⟨by simp [closing], fun found _ => ?_⟩
  cases found with
  | none => simp
  | some txn =>
      simp only
      split
      · simp
      refine (Prog.obeys_call _ _ _ _ _).mpr
        ⟨by simp [closing, closes], fun actions _ => ?_⟩
      split
      · simp
      split
      · simp
      refine (Prog.obeys_call _ _ _ _ _).mpr
        ⟨by simp [closing, closes], fun written _ => ?_⟩
      cases written with
      | error error => simp
      | ok done =>
          have closed : closes txnID (.setTxnStatus orgID txnID .committed)
              (.ok done) = true := by
            simp [closes]
          refine ⟨fun _ writes => writes, fun _ _ =>
            ⟨fun _ writes => writes, fun out _ => ?_⟩⟩
          cases out <;> simp [closing, closed]

/-- A request to commit that is answered with success has stored the
transaction as committed. -/
theorem commitTxn_closing {request : Api.Request} {txnID : String}
    (route : request.route = .commitTxn txnID) :
    ((Operation.http request).program config).Obeys (closing txnID)
      (fun outcome closed => outcome.code? = some 200 → closed = true)
      false := by
  simp only [Operation.program, Api.handle, route, Api.handleCommitTxn,
    Prog.perform_bind, Prog.call_bind]
  refine (Prog.obeys_call _ _ _ _ _).mpr
    ⟨by simp [closing], fun found _ => ?_⟩
  cases found with
  | none => simp [Api.errJSON, Outcome.code?]
  | some txn =>
      simp only
      split
      · simp [Api.agentMismatch, Api.errJSON, Outcome.code?]
      · refine Prog.Obeys.bind (Prog.Obeys.bind (commit_closing _ _ txnID)
          fun out closed done => ?_) fun _ _ done => done
        cases out with
        | error error => simp [Api.answer, Api.errJSON, Outcome.code?]
        | ok txn => exact fun _ => done txn rfl

theorem closing_step {txnID : String} {closed : Bool}
    (holds : closed = true → world.ledger.Committed txnID)
    (may : (closing txnID).may closed request) :
    (closing txnID).learn closed request (exec config request env world).1 =
        true →
      (exec config request env world).2.ledger.Committed txnID := by
  intro noted
  cases closed with
  | true =>
      rw [Ledger.Committed, txns_exec (may rfl)]
      exact holds rfl
  | false =>
      simp only [closing, Bool.false_or] at noted
      cases request with
      | setTxnStatus orgID id status =>
          change closes txnID (.setTxnStatus orgID id status)
            (world.ledger.setTxnStatus env.now orgID id status).1 = true
            at noted
          change (world.ledger.setTxnStatus env.now orgID id
            status).2.Committed txnID
          cases status with
          | committed =>
              cases found : world.ledger.getTxn orgID id with
              | none => simp [Ledger.setTxnStatus, found, closes] at noted
              | some txn =>
                  simp only [Ledger.setTxnStatus, found, closes,
                    decide_eq_true_eq] at noted ⊢
                  subst noted
                  exact ⟨_, Table.get?_set_self _ _ _, rfl⟩
          | _ => simp [closes] at noted
      | _ => simp [closes] at noted

section Runs

variable {arrivals : List Arrival}

/-- Every call of a run of HTTP requests finds a coherent ledger and is made
on behalf of a forward intent. -/
theorem http_step (http : ∀ arrival ∈ arrivals, arrival.operation.IsHTTP)
    (initial : world.Initial) (fresh : FreshRun config world arrivals)
    {mark : Mark Operation Call Env World}
    (made : mark ∈ (sequential config world arrivals).marks) :
    mark.caller.intent.Forward ∧ ∃ view, Coherent view mark.before.ledger ∧
      May mark.caller.intent view mark.request := by
  obtain ⟨arrival, member, equal⟩ := exists_arrival made
  rw [equal]
  exact ⟨(http arrival member).forward,
    equal ▸ (sequential_coherent initial fresh).2 mark made⟩

/-- In a run of HTTP requests every transaction was opened as planned. -/
theorem opened_before (http : ∀ arrival ∈ arrivals, arrival.operation.IsHTTP)
    (initial : world.Initial) (fresh : FreshRun config world arrivals)
    {mark : Mark Operation Call Env World}
    (made : mark ∈ (sequential config world arrivals).marks) :
    Opened mark.before := by
  have start : Opened world := by
    intro id txn present
    rw [show world.ledger = Ledger.empty from initial] at present
    simp [Ledger.empty] at present
  have run := Session.run_stepwise (exec config) Opened (Session.start world)
    (arrivals.map (Arrival.job config)) start fun mark made opened => by
      obtain ⟨forward, view, coherent, may⟩ :=
        http_step http initial fresh made
      exact coherent.opened_step (fresh mark made) may forward opened
  exact (run.2 mark made).resolve_left (by simp [Session.start])

/-- In every sequential run of HTTP requests the status of a transaction only
makes legal transitions, so that a terminal status is never left. -/
theorem transitions_legal
    (http : ∀ arrival ∈ arrivals, arrival.operation.IsHTTP)
    (initial : world.Initial) (fresh : FreshRun config world arrivals) :
    (∀ mark ∈ (sequential config world arrivals).marks, ∀ id txn,
      mark.before.ledger.txns.get? id = some txn →
        ∃ next, (mark.after (exec config)).ledger.txns.get? id = some next ∧
          canTransition txn.status next.status = true) ∧
    ∀ earlier later, arrivals = earlier ++ later → ∀ id txn,
      (sequential config world earlier).state.ledger.txns.get? id = some txn →
        txn.status.terminal = true →
          ∃ last, (sequential config world arrivals).state.ledger.txns.get? id =
            some last ∧ last.status = txn.status := by
  have legal {mark : Mark Operation Call Env World}
      (made : mark ∈ (sequential config world arrivals).marks)
      {id : String} {txn : Transaction}
      (present : mark.before.ledger.txns.get? id = some txn) :
      ∃ next, (mark.after (exec config)).ledger.txns.get? id = some next ∧
        canTransition txn.status next.status = true := by
    obtain ⟨forward, view, coherent, may⟩ := http_step http initial fresh made
    exact coherent.legal_step (fresh mark made) may forward
      (opened_before http initial fresh made) present
  refine ⟨fun mark made id txn present => legal made present, ?_⟩
  rintro earlier later rfl id txn present terminal
  rw [sequential_append] at legal ⊢
  refine (Session.run_stepwise (exec config)
    (fun world => ∃ last, world.ledger.txns.get? id = some last ∧
      last.status = txn.status)
    (sequential config world earlier) (later.map (Arrival.job config))
    ⟨txn, present, rfl⟩ ?_).1
  rintro mark made ⟨current, found, same⟩
  obtain ⟨next, written, moved⟩ := legal made found
  exact ⟨next, written,
    (eq_of_canTransition_terminal (same ▸ terminal) moved).trans same⟩

/-- Executing the lookup moves its transaction to `EXECUTING`. -/
theorem transitions_legal_lookup :
    ((sequential Sample.config Sample.world
        Sample.lookup).state.ledger.txns.get? "id1").map Transaction.status =
      some .executing ∧
    ∀ mark ∈ (sequential Sample.config Sample.world Sample.lookup).marks,
      ∀ id txn, mark.before.ledger.txns.get? id = some txn →
        ∃ next, (mark.after (exec Sample.config)).ledger.txns.get? id =
            some next ∧
          canTransition txn.status next.status = true :=
  ⟨by decide +kernel, (transitions_legal (by decide +kernel) Sample.initial
    (by decide +kernel)).1⟩

/-- Once a request to commit has succeeded, the actions of the transaction are
resolved, none of its approvals is pending, and all that comes later leaves
its actions, approvals and receipts exactly as they were. -/
theorem committed_is_frozen
    {before after : List Arrival} {request : Api.Request} {txnID : String}
    {envs : Nat → Env}
    (http : ∀ arrival ∈ before ++ ⟨.http request, envs⟩ :: after,
      arrival.operation.IsHTTP)
    (initial : world.Initial)
    (fresh : FreshRun config world (before ++ ⟨.http request, envs⟩ :: after))
    (route : request.route = .commitTxn txnID)
    (succeeded : (Arrival.complete config ⟨.http request, envs⟩
      (sequential config world before).state).1.code? = some 200) :
    let closed := (sequential config world
      (before ++ [⟨.http request, envs⟩])).state.ledger
    (∀ key action, closed.actions.get? key = some action →
      action.transactionID = txnID →
        action.status = .executed ∨ action.status = .denied ∨
          action.status = .compensated) ∧
    (∀ key approval, closed.approvals.get? key = some approval →
      approval.transactionID = txnID → approval.status ≠ .pending) ∧
    Frozen txnID closed (sequential config world
      (before ++ ⟨.http request, envs⟩ :: after)).state.ledger := by
  intro closed
  have split : before ++ ⟨.http request, envs⟩ :: after =
      before ++ [⟨.http request, envs⟩] ++ after := by simp
  have coherent : Coherent View.first closed :=
    (sequential_coherent initial (FreshRun.earlier (split ▸ fresh))).1
  have committed : closed.Committed txnID := by
    obtain ⟨⟨last, ended, holds⟩, _⟩ := Prog.complete_of_obeys (exec config)
      (fun _ _ _ _ _ (_ : True) => trivial)
      (fun _ _ _ _ holds _ may => closing_step holds may)
      (commitTxn_closing route) (by simp) (Operation.http request) envs
      fun _ _ => trivial
    have state : (sequential config world
        (before ++ [⟨.http request, envs⟩])).state =
          (Arrival.complete config ⟨.http request, envs⟩
            (sequential config world before).state).2.1 := by
      rw [sequential_append]
      rfl
    rw [show closed = _ from congrArg World.ledger state]
    exact holds (ended succeeded)
  refine ⟨?_, ?_, ?_⟩
  · rintro key action present rfl
    have resolved := coherent.committed key action present committed
    revert resolved
    cases action.status <;> simp [ActionStatus.resolved]
  · rintro key approval present rfl pending
    obtain ⟨id, action, _, found, _, sameTxn, waiting⟩ :=
      coherent.requested key approval present
    exact coherent.apart_of_unresolved committed found
      (by simp [waiting pending, ActionStatus.resolved]) sameTxn
  · rw [split] at http fresh ⊢
    rw [sequential_append]
    refine (Session.run_stepwise (exec config)
      (fun world => Frozen txnID closed world.ledger) _
      (after.map (Arrival.job config)) (.refl committed) ?_).1
    intro mark made frozen
    rw [← sequential_append] at made
    obtain ⟨forward, view, current, may⟩ := http_step http initial fresh made
    exact frozen.trans (current.frozen_step (fresh mark made) may forward
      (opened_before http initial fresh made) frozen.committed)

/-- The lookup is committed, and a second attempt to execute it changes
nothing. -/
theorem committed_is_frozen_lookup :
    Frozen "id1"
      (sequential Sample.config Sample.world (Sample.lookup ++
        [⟨Sample.commit "id1", Sample.envs 3⟩])).state.ledger
      (sequential Sample.config Sample.world (Sample.lookup ++
        [⟨Sample.commit "id1", Sample.envs 3⟩,
          ⟨Sample.execute "id103", Sample.envs 4⟩])).state.ledger :=
  (committed_is_frozen (by decide +kernel) Sample.initial (by decide +kernel)
    rfl (by decide +kernel)).2.2

end Runs

end SettleAgent
