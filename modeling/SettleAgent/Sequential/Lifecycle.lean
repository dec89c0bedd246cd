import SettleAgent.Sequential.Runs

/-!
# The life of an action

The successive statuses of an action in a sequential run, and the receipts
that attest it.
-/

namespace SettleAgent

open Interaction

/-- How one step of an operation may change the status of an action. -/
inductive Follows (intent : Intent) (ledger : Ledger) (id : String) :
    Option ActionStatus → Option ActionStatus → Prop
  | stays (status : Option ActionStatus) : Follows intent ledger id status status
  | proposed : Follows intent ledger id none (some .proposed)
  | decided (status : ActionStatus)
      (written : status = .allowed ∨ status = .awaitingApproval ∨
        status = .denied) :
      Follows intent ledger id (some .proposed) (some status)
  | granted (orgID approvalID : String) (approval : Approval)
      (decides : intent = .decide orgID approvalID true)
      (stored : ledger.approvals.get? approval.id = some approval)
      (granted : approval.status = .approved)
      (about : approval.actionID = some id) :
      Follows intent ledger id (some .awaitingApproval) (some .approved)
  | ran (orgID actionID : String) (status next : ActionStatus)
      (executes : intent = .execute orgID actionID)
      (ready : status = .allowed ∨ status = .approved)
      (written : next = .executed ∨ next = .failed ∨ next = .unknown) :
      Follows intent ledger id (some status) (some next)
  | settled (orgID actionID : String) (next : ActionStatus)
      (reconciles : intent = .reconcile orgID actionID)
      (written : next = .executed ∨ next = .failed) :
      Follows intent ledger id (some .unknown) (some next)
  | undone (orgID txnID : String) (next : ActionStatus)
      (compensates : intent = .compensate orgID txnID)
      (written : next = .compensated ∨ next = .compensationFailed) :
      Follows intent ledger id (some .executed) (some next)

variable {config : Config} {env : Env} {world : World} {intent : Intent}
  {view : View} {request : Call}

/-- The status of an action follows the graph in a permitted step. -/
theorem Coherent.follows
    (coherent : Coherent view world.ledger) (admissible : Admissible world env)
    (may : May intent view request) (id : String) :
    Follows intent world.ledger id (world.ledger.status? id)
      ((exec config request env world).2.ledger.status? id) := by
  unfold Ledger.status?
  have write := actionWrite config coherent.keyed admissible may id
  generalize (exec config request env world).2.ledger.actions.get? id = after
    at write ⊢
  cases write with
  | kept same =>
      rw [same]
      exact .stays _
  | added action mayAdd named absent written =>
      obtain ⟨_, _, _, _, proposed, _⟩ := mayAdd
      rw [absent, written]
      simpa [Ledger.newAction, proposed] using Follows.proposed
  | decided draft old decision drafted named undecided present written =>
      rw [present, written]
      exact .stays _
  | placed draft old decision drafted named undecided known present written =>
      obtain ⟨stored, found, status, _⟩ := coherent.draft draft drafted
      rw [named, present, Option.some.injEq] at found
      rw [← found, undecided, Option.getD_none] at status
      rw [present, written, Option.map_some, Option.map_some, status]
      refine .decided _ ?_
      cases decision.effect <;> simp [initialStatus]
  | rewritten held old action holding unstored rewrites named present written =>
      obtain ⟨_, found, change⟩ := coherent.rewritten holding unstored rewrites
      rw [named, present, Option.some.injEq] at found
      rw [present, written, Option.map_some, Option.map_some, found]
      cases change with
      | ran orgID actionID executes runnable result =>
          exact .ran orgID actionID _ _ executes (runnable.imp_left And.left)
            result
      | settled orgID actionID reconciles uncertain answered result =>
          rw [uncertain]
          exact .settled orgID actionID _ reconciles result
      | granted orgID approvalID approval decides decided granted about waiting
          result =>
          rw [waiting, result]
          refine .granted orgID approvalID approval decides
            (coherent.decided approval decided).1 granted ?_
          rw [about, ← found, coherent.keyed.action id old present]
      | undone orgID txnID compensates executed uncommitted result =>
          rw [executed]
          exact .undone orgID txnID _ compensates result

/-- The operation has no answer from a reconciler. -/
def View.Blank (view : View) : Prop :=
  ∀ held, view.held = some held → held.answer = none

/-- The call gets no answer from a reconciler. -/
def Unanswered (config : Config) (world : World) (request : Call) (env : Env) :
    Prop :=
  ∀ reconciler action, request = .reconcile reconciler action →
    ∃ error, (exec config (.reconcile reconciler action) env world).1 =
      .error error

/-- An action whose outcome is unknown keeps that status in every permitted
step of an operation that has no answer from a reconciler. -/
theorem Coherent.stays_unknown
    (coherent : Coherent view world.ledger) (admissible : Admissible world env)
    (may : May intent view request)
    (blank : view.Blank)
    {id : String} (uncertain : world.ledger.status? id = some .unknown) :
    (exec config request env world).2.ledger.status? id = some .unknown := by
  unfold Ledger.status? at uncertain ⊢
  have write := actionWrite config coherent.keyed admissible may id
  generalize (exec config request env world).2.ledger.actions.get? id = after
    at write ⊢
  cases write with
  | kept same => rw [same, uncertain]
  | added action mayAdd named absent written => simp [absent] at uncertain
  | decided draft old decision drafted named undecided present written =>
      rw [present] at uncertain
      rw [written]
      exact uncertain
  | placed draft old decision drafted named undecided known present written =>
      obtain ⟨stored, found, status, _⟩ := coherent.draft draft drafted
      rw [named, present, Option.some.injEq] at found
      simp [present, found, status, undecided] at uncertain
  | rewritten held old action holding unstored rewrites named present written =>
      obtain ⟨_, found, change⟩ := coherent.rewritten holding unstored rewrites
      rw [named, present, Option.some.injEq] at found
      rw [present, found, Option.map_some, Option.some.injEq] at uncertain
      cases change with
      | ran orgID actionID executes runnable result =>
          have unready := runnable.imp_left And.left
          simp [uncertain] at unready
      | settled orgID actionID reconciles uncertain answered result =>
          exact absurd (blank held holding) answered
      | granted orgID approvalID approval decides decided granted about waiting
          result => simp [uncertain] at waiting
      | undone orgID txnID compensates executed uncommitted result =>
          simp [uncertain] at executed

theorem View.Blank.learn
    (blank : view.Blank) (unanswered : Unanswered config world request env) :
    (view.learn request (exec config request env world).1).Blank := by
  have mapped {note : Held → Held}
      (kept : ∀ held, (note held).answer = held.answer) :
      View.Blank { view with held := view.held.map note } := by
    intro held holding
    obtain ⟨old, oldHolding, rfl⟩ := Option.map_eq_some_iff.mp holding
    rw [kept, blank old oldHolding]
  cases request with
  | getAction orgID id =>
      intro held holding
      obtain ⟨record, _, rfl⟩ := Option.map_eq_some_iff.mp holding
      rfl
  | updateAction action => exact mapped fun _ => rfl
  | appendReceipt receipt => exact mapped fun _ => rfl
  | execute action => exact mapped fun _ => rfl
  | reconcile reconciler action =>
      obtain ⟨error, replied⟩ := unanswered reconciler action rfl
      rw [replied]
      exact blank
  | addAction action =>
      simp only [View.learn]
      split <;> exact blank
  | _ => exact blank

/-! ## Runs -/

/-- In every sequential run the statuses of every action follow the graph.  An
operation that gets no answer from a reconciler, because there is none or
because it fails, leaves every action of unknown outcome as it is. -/
theorem statuses_follow_graph
    {arrivals : List Arrival} (initial : world.Initial)
    (fresh : FreshRun config world arrivals) :
    (∀ mark ∈ (sequential config world arrivals).marks, ∀ id,
      Follows mark.caller.intent mark.before.ledger id
        (mark.before.ledger.status? id)
        ((mark.after (exec config)).ledger.status? id)) ∧
    ∀ earlier arrival later, arrivals = earlier ++ arrival :: later →
      (∀ mark ∈ (arrival.complete config
        (sequential config world earlier).state).2.2,
        Unanswered config mark.before mark.request mark.env) →
      ∀ mark ∈ (arrival.complete config
        (sequential config world earlier).state).2.2, ∀ id,
        mark.before.ledger.status? id = some .unknown →
          (mark.after (exec config)).ledger.status? id = some .unknown := by
  constructor
  · intro mark made id
    obtain ⟨view, coherent, may⟩ :=
      (sequential_coherent initial fresh).2 mark made
    exact coherent.follows (fresh mark made) may id
  · rintro earlier arrival later rfl unanswered mark made id uncertain
    have start := (sequential_coherent initial fresh.earlier).1
    have fits : ∀ (view : View) (world : World) (request : Call) (env : Env),
        Coherent view world.ledger ∧ view.Blank → Admissible world env ∧
          Unanswered config world request env →
            (roleOf arrival.operation.intent).fits request
              (exec config request env world).1 :=
      fun _ _ request _ holds _ => fits_exec request holds.1.keyed
    obtain ⟨_, marked⟩ := Prog.complete_of_obeys (exec config) fits
      (fun _ _ _ _ holds met may =>
        ⟨holds.1.step met.1 may, holds.2.learn met.2⟩)
      (arrival.operation.obeys config) ⟨start, by simp [View.Blank]⟩
      arrival.operation arrival.envs fun mark made =>
        ⟨fresh mark (marks_complete_subset made), unanswered mark made⟩
    obtain ⟨_, view, ⟨coherent, blank⟩, may⟩ := marked mark made
    exact coherent.stays_unknown (fresh mark (marks_complete_subset made)) may
      blank uncertain

/-- The lookup ends as executed. -/
theorem statuses_follow_graph_lookup :
    (sequential Sample.config Sample.world Sample.lookup).state.ledger.status?
        "id103" = some .executed ∧
      ∀ mark ∈ (sequential Sample.config Sample.world Sample.lookup).marks,
        ∀ id, Follows mark.caller.intent mark.before.ledger id
          (mark.before.ledger.status? id)
          ((mark.after (exec Sample.config)).ledger.status? id) :=
  ⟨by decide +kernel,
    (statuses_follow_graph Sample.initial (by decide +kernel)).1⟩

/-- In every state that a sequential run reaches, an action has one receipt if
it was executed and none otherwise, and every receipt is about an action of
its organization. -/
theorem receipts_match_statuses
    {arrivals : List Arrival} (initial : world.Initial)
    (fresh : FreshRun config world arrivals) :
    let ledger := (sequential config world arrivals).state.ledger
    (∀ id action, ledger.actions.get? id = some action →
      (ledger.receiptsOf action.id).length =
        if action.status = .executed ∨ action.status = .compensated ∨
          action.status = .compensationFailed then 1 else 0) ∧
    ∀ receipt ∈ ledger.receiptsList, ∃ action,
      ledger.actions.get? receipt.actionID = some action ∧
        receipt.actionID = action.id ∧ receipt.orgID = action.orgID ∧
        receipt.transactionID = action.transactionID ∧
        receipt.tool = action.tool ∧
        receipt.argumentsHash = action.argumentsHash := by
  intro ledger
  have coherent : Coherent View.first ledger :=
    (sequential_coherent initial fresh).1
  constructor
  · intro id action present
    rw [coherent.keyed.action id action present]
    have owes : ¬ View.first.Owes id := (View.clear_of_unheld rfl).1 id
    by_cases attested : action.status.attested = true
    · rw [coherent.attested id action present attested owes, if_pos]
      revert attested
      cases action.status <;> simp [ActionStatus.attested]
    · rw [coherent.unattested id action present
        (Or.inl (by simpa using attested)), if_neg]
      · rfl
      · revert attested
        cases action.status <;> simp [ActionStatus.attested]
  · intro receipt member
    obtain ⟨action, present, id, orgID, txnID, tool, _, hash⟩ :=
      coherent.receipts receipt member
    exact ⟨action, present, id, orgID, txnID, tool, hash⟩

/-- The lookup leaves one receipt. -/
theorem receipts_match_statuses_lookup :
    let ledger :=
      (sequential Sample.config Sample.world Sample.lookup).state.ledger
    ledger.receiptsList.length = 1 ∧
      ∀ id action, ledger.actions.get? id = some action →
        (ledger.receiptsOf action.id).length =
          if action.status = .executed ∨ action.status = .compensated ∨
            action.status = .compensationFailed then 1 else 0 :=
  ⟨by decide +kernel, (receipts_match_statuses Sample.initial (by decide +kernel)).1⟩

end SettleAgent
