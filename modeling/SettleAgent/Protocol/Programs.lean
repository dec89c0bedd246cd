import SettleAgent.Protocol.Role

/-!
# The operations obey their roles

One lemma for every program of the service and for every handler, in the order
in which they call each other.  Each is about the calls the program makes and
the replies it gets, and about nothing else.
-/

namespace SettleAgent

open Interaction Gateway

variable {config : Config} {intent : Intent} {view : View}

/-! ## Views -/

theorem View.Settled.of_undrafted
    (undrafted : view.draft = none) (clear : view.Clear) : view.Settled :=
  ⟨by simp [undrafted], clear⟩

theorem View.clear_of_unheld (unheld : view.held = none) : view.Clear := by
  simp [View.Clear, View.Owes, unheld]

theorem View.Settled.of_idle (undrafted : view.draft = none)
    (unheld : view.held = none) : view.Settled :=
  .of_undrafted undrafted (View.clear_of_unheld unheld)

variable {action : TxnAction}

/-- The program keeps to its role and leaves nothing unfinished. -/
abbrev Settles {α : Type} (program : Gate α) (intent : Intent) (view : View) :
    Prop :=
  program.Obeys (roleOf intent) (fun _ after => after.Settled) view

/-- A copy with which nothing was done yet. -/
theorem View.clear_of_copy (holding : view.held = some { record := action }) :
    view.Clear := by
  simp [View.Clear, View.Owes, holding]

/-- A program that begins with reading an action and stops if there is none. -/
theorem readAction_obeys {α : Type} {orgID actionID : String}
    {next : Option TxnAction → Gate α} (undrafted : view.draft = none)
    (clear : view.Clear) (undecided : view.decided = none)
    (missing : ∃ value, next none = .ret value)
    (found : ∀ action, action.orgID = orgID →
      let seen := view.learn (.getAction orgID actionID) (some action)
      seen.Settled → Settles (next (some action)) intent seen) :
    Settles (Prog.call (.getAction orgID actionID) next) intent view := by
  refine ⟨⟨undrafted, clear, Or.inl undecided⟩, fun reply fits => ?_⟩
  cases reply with
  | none =>
      obtain ⟨value, stops⟩ := missing
      rw [stops]
      exact View.Settled.of_idle undrafted rfl
  | some action =>
      exact found action fits.2
        (.of_undrafted undrafted (View.clear_of_copy rfl))

/-! ## Execution -/

theorem attest_obeys {orgID : String} (held : Held)
    (result : Object) (compensation : Compensation) (started completed : Time)
    (undrafted : view.draft = none) (holding : view.held = some held)
    (stored : held.stored = some action) (executed : action.status = .executed)
    (unattested : held.attested = false) (owner : action.orgID = orgID) :
    Settles (attest config orgID action result compensation started completed)
      intent view := by
  unfold attest signReceipt
  simp only [Prog.perform_bind, Prog.obeys_call]
  refine ⟨⟨held, action, holding, stored, executed, unattested, ?_⟩, ?_⟩
  · subst owner
    exact ⟨rfl, rfl, rfl, rfl, rfl, rfl⟩
  intro receipt fits
  have owned : receipt.orgID = orgID := fits
  split <;>
    simp [View.learn, May, owned, View.Settled, View.Clear, View.Owes,
      undrafted, holding, stored]

section Execution

variable {traceID orgID actionID : String} {held : Held}
  (executes : intent = .execute orgID actionID)
  (undrafted : view.draft = none)

include executes undrafted

theorem recordFailure_obeys {error : ToolError} (latency : Int)
    (holding : view.held = some held) (same : held.record = action)
    (unstored : held.stored = none) (runnable : Runnable action)
    (dispatched : held.outcome = some (.error error)) :
    Settles (recordFailure traceID orgID action latency error) intent view := by
  subst same
  cases error
  all_goals
    simp only [recordFailure, Prog.perform_bind, Prog.obeys_call]
    refine ⟨⟨held, holding, unstored, .ran orgID actionID _ _ executes
      runnable dispatched rfl rfl⟩, ?_⟩
    simp [View.learn, May, View.Settled, View.Clear, View.Owes, undrafted,
      holding]

theorem recordSuccess_obeys {result : Object} (latency : Int) (started : Time)
    (holding : view.held = some held) (same : held.record = action)
    (unstored : held.stored = none) (unattested : held.attested = false)
    (runnable : Runnable action) (dispatched : held.outcome = some (.ok result))
    (owner : action.orgID = orgID) :
    Settles (recordSuccess config traceID orgID action latency started result)
      intent view := by
  subst same
  simp only [recordSuccess, Prog.perform_bind, Prog.obeys_call]
  refine ⟨⟨held, holding, unstored, .ran orgID actionID _ _ executes
    runnable dispatched rfl rfl⟩, ?_⟩
  intro _ _
  refine ⟨trivial, fun completed _ => ?_⟩
  refine Prog.Obeys.bind (attest_obeys { held with stored := some _ } result
    .none started completed (by simpa [View.learn] using undrafted)
    (by simp [View.learn, holding]) rfl rfl unattested owner) ?_
  intro receipt after settled
  simpa [View.learn, May, Fits] using settled

theorem dispatch_obeys (holding : view.held = some held)
    (same : held = { record := action }) (runnable : Runnable action)
    (owner : action.orgID = orgID) :
    Settles (dispatch config traceID orgID action) intent view := by
  subst same
  simp only [dispatch, Prog.perform_bind, Prog.obeys_call]
  refine ⟨trivial, fun started _ => ⟨trivial, fun _ _ => ⟨?_, ?_⟩⟩⟩
  · exact ⟨⟨orgID, actionID, executes⟩, _, holding, rfl, rfl, rfl, runnable⟩
  intro outcome _
  refine ⟨trivial, fun ended _ => ?_⟩
  cases outcome with
  | error error =>
      exact recordFailure_obeys executes
        (by simpa [View.learn] using undrafted) _
        (by simp [View.learn, holding]; rfl) rfl rfl runnable rfl
  | ok result =>
      exact recordSuccess_obeys executes
        (by simpa [View.learn] using undrafted) _ _
        (by simp [View.learn, holding]; rfl) rfl rfl rfl runnable rfl owner

theorem run_obeys (holding : view.held = some { record := action })
    (runnable : Runnable action) (owner : action.orgID = orgID) :
    Settles (run config traceID orgID action) intent view := by
  simp only [run, Prog.perform_bind, Prog.obeys_call]
  refine ⟨trivial, fun found fits => ?_⟩
  cases found with
  | none => exact dispatch_obeys executes undrafted holding rfl runnable owner
  | some txn =>
      by_cases early : txn.status = .created ∨ txn.status = .planning ∨
          txn.status = .awaitingApproval
      · simp only [early, if_true, Prog.obeys_call]
        refine ⟨⟨txn, rfl, rfl, fits.2, ?_⟩, fun _ _ => ?_⟩
        · exact .begin _ orgID actionID executes holding rfl runnable fits.1
            early
        · exact dispatch_obeys executes undrafted holding rfl runnable owner
      · simp only [early, if_false]
        exact dispatch_obeys executes undrafted holding rfl runnable owner

theorem executeAllowed_obeys
    (clear : view.Clear) (undecided : view.decided = none) :
    Settles (executeAllowed config traceID orgID actionID) intent view := by
  simp only [executeAllowed, Prog.perform_bind]
  refine readAction_obeys undrafted clear undecided ⟨_, rfl⟩ ?_
  intro action owner seen settled
  by_cases executed : action.status = .executed
  · simpa [executed] using settled
  by_cases uncertain : action.status = .unknown
  · simpa [uncertain] using settled
  by_cases permitted : decisionPermits action = true
  · by_cases waiting : action.status = .allowed ∨ action.status = .approved
    · simp only [executed, uncertain, permitted, ne_eq, ← not_or, waiting,
        if_false, Bool.not_true, Bool.false_eq_true, not_true]
      exact run_obeys executes undrafted rfl
        (waiting.imp (fun allowed => ⟨allowed, permitted⟩) id) owner
    · simpa [executed, uncertain, permitted, ← not_or, waiting]
        using settled
  · simpa [executed, uncertain, permitted] using settled

theorem runApproved_obeys
    (clear : view.Clear) (undecided : view.decided = none) :
    Settles (runApproved config traceID orgID actionID) intent view := by
  simp only [runApproved, Prog.perform_bind]
  refine readAction_obeys undrafted clear undecided ⟨_, rfl⟩ ?_
  intro action owner seen settled
  by_cases executed : action.status = .executed
  · simpa [executed] using settled
  by_cases approved : action.status = .approved
  · simp only [approved, reduceCtorEq, ne_eq, not_true, if_false]
    exact run_obeys executes undrafted rfl (Or.inr approved) owner
  · simpa [executed, approved] using settled

end Execution

/-! ## Reconciliation -/

theorem settle_obeys {traceID orgID actionID : String} {answer : Option Object}
    (reconciles : intent = .reconcile orgID actionID)
    (undrafted : view.draft = none)
    (holding : view.held =
      some { record := action, answer := some answer })
    (uncertain : action.status = .unknown)
    (owner : action.orgID = orgID) :
    Settles (settle config traceID orgID action answer) intent view := by
  cases answer with
  | none =>
      simp only [settle, Prog.perform_bind, Prog.obeys_call]
      refine ⟨⟨_, holding, rfl, .settled orgID actionID none _ reconciles
        uncertain rfl rfl rfl⟩, ?_⟩
      simp [View.learn, May, View.Settled, View.Clear, View.Owes, undrafted,
        holding]
  | some result =>
      simp only [settle, Prog.perform_bind, Prog.obeys_call]
      refine ⟨trivial, fun now _ => ⟨⟨_, holding, rfl, .settled orgID actionID
        (some result) _ reconciles uncertain rfl rfl rfl⟩, fun _ _ => ?_⟩⟩
      refine Prog.Obeys.bind (attest_obeys
        { record := action, answer := some (some result), stored := some _ }
        result .reconciled action.createdAt now
        (by simpa [View.learn] using undrafted)
        (by simp [View.learn, holding]) rfl rfl rfl owner) ?_
      intro receipt after settled
      simpa [View.learn, May, Fits] using settled

theorem reconcile_obeys {traceID orgID actionID : String}
    (reconciles : intent = .reconcile orgID actionID)
    (undrafted : view.draft = none)
    (clear : view.Clear) (undecided : view.decided = none) :
    Settles (reconcile config traceID orgID actionID) intent view := by
  simp only [reconcile, Prog.perform_bind]
  refine readAction_obeys undrafted clear undecided ⟨_, rfl⟩ ?_
  intro action owner seen settled
  by_cases uncertain : action.status = .unknown
  · simp only [uncertain, ne_eq, not_true, if_false, Prog.obeys_call]
    refine ⟨trivial, fun reconciler _ => ?_⟩
    cases reconciler with
    | none => exact ⟨trivial, fun _ _ => settled⟩
    | some reconciler =>
        refine ⟨trivial, fun reply _ => ?_⟩
        cases reply with
        | error error => exact ⟨trivial, fun _ _ => settled⟩
        | ok answer =>
            exact settle_obeys reconciles undrafted rfl uncertain owner
  · simpa [uncertain] using settled

/-! ## Commit -/

theorem commit_obeys {traceID orgID txnID : String}
    (commits : intent = .commit orgID txnID)
    (undrafted : view.draft = none)
    (unheld : view.held = none) (unattested : view.receipt = none) :
    Settles (commit traceID orgID txnID) intent view := by
  simp only [commit, Prog.perform_bind, Prog.obeys_call]
  refine ⟨trivial, fun found fits => ?_⟩
  cases found with
  | none => exact .of_idle undrafted unheld
  | some txn =>
      obtain ⟨sameID, sameOrg⟩ := fits
      by_cases closed : txn.status.terminal = true
      · simp only [closed, if_true]
        exact .of_idle undrafted unheld
      simp only [closed, Bool.false_eq_true, if_false, Prog.obeys_call]
      refine ⟨trivial, fun actions _ => ?_⟩
      cases blocking : actions.findSome? blocksCommit with
      | some reason => exact .of_idle undrafted unheld
      | none =>
          cases moved : mustTransition txn .committed with
          | error error => exact .of_idle undrafted unheld
          | ok next =>
              refine ⟨⟨txn, rfl, sameID, sameOrg, ?_⟩, fun written _ => ?_⟩
              · exact .close actions (by rw [sameID, sameOrg]; exact commits)
                  (by simp [View.learn, sameID, sameOrg]) unheld unattested
                  (List.findSome?_eq_none_iff.mp blocking)
                  (by simpa using closed) (mustTransition_eq_ok moved).1
              · cases written with
                | error error => exact .of_idle undrafted unheld
                | ok _ =>
                    refine ⟨trivial, fun _ _ => ⟨trivial, fun out _ => ?_⟩⟩
                    cases out <;> exact .of_idle undrafted unheld

/-! ## Compensation -/

theorem recordCompensation_obeys {orgID txnID : String} {txn : Transaction}
    {status : ActionStatus} {scan : Scan}
    (compensates : intent = .compensate orgID txnID)
    (undrafted : view.draft = none)
    (clear : view.Clear) (undecided : view.decided = none)
    (read : view.txn = some txn) (begun : txn.status = .compensating)
    (scanned : view.scan = some scan) (member : action ∈ scan.actions)
    (sameTxn : txn.id = action.transactionID)
    (executed : action.status = .executed)
    (written : status = .compensated ∨ status = .compensationFailed) :
    (recordCompensation orgID action status).Obeys (roleOf intent)
      (fun _ after => after.txn = view.txn ∧ after.draft = none ∧
        after.Clear ∧ after.decided = none ∧ ∃ rest, after.scan = some rest ∧
          ∀ other ∈ scan.actions, other.id ≠ action.id →
            other ∈ rest.actions) view := by
  simp only [recordCompensation, Prog.perform_bind, Prog.obeys_call]
  refine ⟨⟨undrafted, clear, Or.inl undecided⟩, fun found fits => ?_⟩
  cases found with
  | none =>
      exact ⟨rfl, undrafted, View.clear_of_unheld rfl, undecided, scan, scanned,
        fun other present _ => present⟩
  | some current =>
      refine ⟨⟨_, rfl, rfl, .undone orgID txnID txn scan action status
        compensates read begun scanned member fits.1.symm sameTxn executed
        written⟩, fun _ _ => ?_⟩
      refine ⟨rfl, undrafted, ?_, undecided, scan.without current.id,
        by simp [View.learn, scanned], ?_⟩
      · rcases written with written | written <;>
          simp [View.learn, View.Clear, View.Owes, written]
      · intro other present different
        simp [Scan.without, present, fits.1, different]

theorem compensateAll_obeys
    {orgID txnID : String} {txn : Transaction} {actions : List TxnAction}
    (compensates : intent = .compensate orgID txnID)
    (failed : Bool) {scan : Scan}
    (undrafted : view.draft = none)
    (clear : view.Clear) (undecided : view.decided = none)
    (read : view.txn = some txn) (begun : txn.status = .compensating)
    (scanned : view.scan = some scan)
    (listed : ∀ action ∈ actions, action ∈ scan.actions)
    (sameTxn : ∀ action ∈ actions, txn.id = action.transactionID)
    (distinct : (actions.map TxnAction.id).Nodup) :
    (compensateAll orgID txnID actions failed).Obeys (roleOf intent)
      (fun _ after => after.txn = some txn ∧ after.draft = none ∧
        after.Clear) view := by
  -- Every action written back leaves the scan, and the rest of the list has
  -- other identifiers, so it stays in.
  induction actions generalizing view failed scan with
  | nil => exact ⟨read, undrafted, clear⟩
  | cons action actions inductionHypothesis =>
      simp only [List.mem_cons, forall_eq_or_imp] at listed sameTxn
      simp only [List.map_cons, List.nodup_cons] at distinct
      obtain ⟨member, listed⟩ := listed
      obtain ⟨ownTxn, sameTxn⟩ := sameTxn
      unfold compensateAll
      by_cases executed : action.status = .executed
      · simp only [executed, ne_eq, not_true, if_false]
        split
        · exact ⟨trivial, fun _ _ => inductionHypothesis true undrafted
            clear undecided read scanned listed sameTxn distinct.2⟩
        · refine ⟨trivial, fun reply _ => ?_⟩
          have continues (status : ActionStatus) (outcome : Bool)
              (written : status = .compensated ∨
                status = .compensationFailed)
              (event : AuditEvent) :
              (recordCompensation orgID action status >>= fun _ =>
                perform (.emit event) >>= fun _ =>
                  compensateAll orgID txnID actions outcome).Obeys
                (roleOf intent) (fun _ after => after.txn = some txn ∧
                  after.draft = none ∧ after.Clear) view := by
            refine (recordCompensation_obeys compensates undrafted clear
              undecided read begun scanned member ownTxn executed written).bind ?_
            rintro _ after ⟨afterTxn, afterDraft, afterClear, afterDecided, rest, scannedRest,
              kept⟩
            refine ⟨trivial, fun _ _ => ?_⟩
            refine inductionHypothesis outcome afterDraft afterClear afterDecided
              (afterTxn.trans read) scannedRest ?_ sameTxn distinct.2
            intro other present
            refine kept other (listed other present) fun same => ?_
            exact distinct.1 (same ▸ List.mem_map_of_mem present)
          cases reply with
          | some error => exact continues _ _ (Or.inr rfl) _
          | none => exact continues _ _ (Or.inl rfl) _
      · simp only [executed, ne_eq, not_false_eq_true, if_true]
        exact inductionHypothesis failed undrafted clear undecided read
          scanned listed sameTxn distinct.2

theorem compensateTransaction_obeys {orgID txnID : String}
    (compensates : intent = .compensate orgID txnID)
    (undrafted : view.draft = none)
    (unheld : view.held = none) (undecided : view.decided = none) :
    Settles (compensateTransaction orgID txnID) intent view := by
  simp only [compensateTransaction, Prog.perform_bind, Prog.obeys_call]
  refine ⟨trivial, fun found fits => ?_⟩
  cases found with
  | none => exact .of_idle undrafted unheld
  | some txn =>
      obtain ⟨rfl, rfl⟩ := fits
      refine ⟨trivial, fun actions fits => ?_⟩
      refine ⟨⟨txn, rfl, rfl, rfl, .compensate _ compensates (by simp)⟩,
        fun _ _ => ⟨trivial, fun _ _ => ?_⟩⟩
      refine Prog.Obeys.bind (compensateAll_obeys compensates false undrafted
        (View.clear_of_unheld unheld) undecided rfl rfl rfl (by simp) ?_
        (by simpa using fits.1)) ?_
      · intro action present
        exact (fits.2 action (List.mem_reverse.mp present)).2.symm
      rintro failed after ⟨sameTxn, draft, clear⟩
      refine ⟨⟨_, sameTxn, rfl, rfl, .compensate _ compensates ?_⟩,
        fun _ _ => .of_undrafted draft clear⟩
      cases failed <;> simp

/-! ## Proposal -/

theorem denyUncovered_obeys
    {orgID txnID agentID why : String} {stored : TxnAction} {draft : Draft}
    (unheld : view.held = none)
    (drafted : view.draft = some draft) (same : draft.id = stored.id)
    (undecided : draft.status = none) :
    Settles (denyUncovered orgID txnID agentID stored why) intent view := by
  simp [denyUncovered, May, View.learn, drafted, same, undecided,
    authorityExceeded, initialStatus, View.Settled, View.Clear, View.Owes,
    unheld]

/-- The risk screen reads, and learns nothing about transaction, draft or held
record. -/
theorem jevScreenRisk_obeys
    {orgID txnID : String} {agent : Agent} {stored : TxnAction} :
    (jevScreenRisk config orgID txnID agent stored).Obeys (roleOf intent)
      (fun _ after => after.txn = view.txn ∧ after.draft = view.draft ∧
        after.held = view.held) view := by
  unfold jevScreenRisk
  split
  · exact ⟨trivial, fun _ _ => ⟨trivial, fun _ _ => ⟨rfl, rfl, rfl⟩⟩⟩
  · exact ⟨rfl, rfl, rfl⟩

theorem screened_obeys
    {orgID txnID : String} {agent : Agent} {stored : TxnAction}
    {decision : PolicyDecision} (draft : Draft)
    (drafted : view.draft = some draft) (same : draft.id = stored.id)
    (undecided : draft.status = none)
    (decided : draft.decision = some decision) :
    (screened config orgID txnID agent stored decision).Obeys (roleOf intent)
      (fun final after => after.txn = view.txn ∧ after.held = view.held ∧
        after.draft = some { draft with decision := some final }) view := by
  have unchanged : draft = { draft with decision := some decision } := by
    rw [← decided]
  unfold screened
  split
  · refine Prog.Obeys.bind jevScreenRisk_obeys ?_
    rintro verdict after ⟨sameTxn, sameDraft, sameHeld⟩
    cases verdict with
    | some why =>
        refine ⟨⟨draft, sameDraft.trans drafted, same, undecided⟩,
          fun _ _ => ⟨sameTxn, sameHeld, ?_⟩⟩
        simp [View.learn, sameDraft, drafted]
    | none =>
        exact ⟨sameTxn, sameHeld,
          (sameDraft.trans drafted).trans (congrArg some unchanged)⟩
  · exact ⟨rfl, rfl, drafted.trans (congrArg some unchanged)⟩

section Decision

variable {txn : Transaction} {agent : Agent}
  {orgID txnID agentID traceID : String} {stored : TxnAction}
  {amount : Option Int} {draft : Draft}
  (unheld : view.held = none)
  (read : view.txn = some txn)
  (sameTxn : txn.id = txnID) (sameOrg : txn.orgID = orgID)
  (drafted : view.draft = some draft) (same : draft.id = stored.id)
  (undecided : draft.status = none)
  (unasked : draft.asked = false)
  (proposedOrg : draft.proposal.orgID = orgID)
  (proposedTxn : draft.proposal.transactionID = txnID)

include unheld read sameTxn sameOrg drafted same undecided unasked proposedOrg
  proposedTxn

theorem recordDecision_obeys {decision : PolicyDecision}
    (decided : draft.decision = some decision) :
    Settles (recordDecision txn orgID txnID agentID stored amount decision)
      intent view := by
  unfold recordDecision
  split
  · rename_i effect
    simp [May, View.learn, drafted, same, undecided, decided, effect,
      initialStatus, View.Settled, View.Clear, View.Owes, unheld]
  · rename_i effect
    let waiting : Draft := { draft with status := some .awaitingApproval }
    refine ⟨⟨draft, decision, drafted, same, undecided, decided, by
      rw [effect]; rfl⟩, fun _ _ => ⟨⟨waiting, by simp [View.learn, drafted,
      waiting], same⟩, fun _ _ => ⟨trivial, fun _ _ => ⟨?_, fun _ _ =>
      ⟨trivial, fun _ _ => ⟨?_, fun _ _ => ?_⟩⟩⟩⟩⟩⟩
    · exact ⟨waiting, by simp [View.learn, drafted, waiting],
        by rw [← same], proposedOrg.symm, proposedTxn.symm, rfl, unasked⟩
    · refine ⟨txn, read, sameTxn, sameOrg, ?_⟩
      exact .pause { waiting with asked := true }
        (by simp [View.learn, drafted, waiting]) rfl
        (sameTxn.trans proposedTxn.symm)
    · change View.Settled _
      simp [View.learn, View.Settled, View.Clear, View.Owes, drafted, unheld]
  · rename_i notDeny notApproval
    have allowed : initialStatus decision.effect = .allowed := by
      unfold initialStatus
      split
      · exact absurd ‹_› notDeny
      · exact absurd ‹_› notApproval
      · rfl
    simp [May, View.learn, drafted, same, undecided, decided, allowed,
      View.Settled, View.Clear, View.Owes, unheld]

theorem judge_obeys :
    Settles (judge config txn agent orgID txnID agentID stored amount)
      intent view := by
  simp only [judge, Prog.perform_bind, Prog.obeys_call]
  refine ⟨trivial, fun legacy _ => ⟨trivial, fun active _ =>
    ⟨trivial, fun now _ => ⟨⟨draft, drafted, same, undecided⟩, fun _ _ => ?_⟩⟩⟩⟩
  refine Prog.Obeys.bind (screened_obeys { draft with decision := some _ } ?_
    same undecided rfl) ?_
  · simp [View.learn, drafted]
  rintro final after ⟨afterTxn, afterHeld, afterDraft⟩
  exact recordDecision_obeys (afterHeld.trans unheld) (afterTxn.trans read)
    sameTxn sameOrg afterDraft same undecided unasked proposedOrg proposedTxn
    rfl

theorem authorize_obeys :
    Settles (authorize config traceID txn agent orgID txnID agentID stored
      amount) intent view := by
  have judged : Settles (judge config txn agent orgID txnID agentID stored
      amount) intent view :=
    judge_obeys unheld read sameTxn sameOrg drafted same undecided unasked
      proposedOrg proposedTxn
  simp only [authorize, Prog.perform_bind, Prog.obeys_call]
  refine ⟨trivial, fun grants _ => ⟨trivial, fun now _ => ?_⟩⟩
  split
  · refine ⟨trivial, fun _ _ => ?_⟩
    split
    · exact judged
    · exact denyUncovered_obeys unheld drafted same undecided
  · exact judged

end Decision

theorem proposeAction_obeys
    {traceID orgID txnID agentID tool action idemKey : String}
    {arguments : Object}
    (proposes : intent = .propose orgID txnID idemKey)
    (undrafted : view.draft = none) (unheld : view.held = none)
    (undecided : view.decided = none) :
    Settles (proposeAction config traceID orgID txnID agentID tool action
      arguments idemKey) intent view := by
  simp only [proposeAction, Prog.perform_bind, Prog.obeys_call]
  refine ⟨trivial, fun found fits => ?_⟩
  cases found with
  | none => exact .of_idle undrafted unheld
  | some txn =>
      obtain ⟨sameID, sameOrg⟩ := fits
      by_cases closed : txn.status.terminal = true
      · simp only [closed, if_true]
        exact .of_idle undrafted unheld
      simp only [closed, Bool.false_eq_true, if_false]
      refine ⟨trivial, fun agent _ => ?_⟩
      cases agent with
      | none => exact .of_idle undrafted unheld
      | some agent =>
          refine ⟨trivial, fun classes _ => ⟨⟨proposes, undrafted, unheld,
            undecided, rfl, rfl, rfl, txn, rfl, sameID, sameOrg, by simpa using closed⟩, ?_⟩⟩
          rintro ⟨stored, duplicate⟩ _
          cases duplicate with
          | true => exact ⟨trivial, fun _ _ => .of_idle undrafted unheld⟩
          | false =>
              refine Prog.Obeys.bind (authorize_obeys unheld rfl sameID sameOrg
                rfl rfl rfl rfl rfl rfl) ?_
              intro decided after done
              exact done

/-! ## Quiet programs -/

/-- A call that any operation may make at any time and that teaches it nothing
about the actions it works on. -/
def Quiet : Call → Prop
  | .createTxn _ | .setTxnStatus _ _ _ | .addAction _ | .getAction _ _
  | .updateAction _ | .setStoredDecision _ _ | .setStoredStatus _ _
  | .updateStored _ | .createApproval _ | .decideApproval _ _ _ _
  | .appendReceipt _ | .setStoredSignature _ _ _ _ | .updateReceipt _ _ _ _
  | .execute _ | .reconcile _ _ => False
  | .register tool _ _ _ => ∃ name, tool = Integrations.toolName name
  | _ => True

theorem obeys_of_quiet {α : Type} {program : Gate α}
    (quiet : program.AllCalls Quiet)
    (undrafted : view.draft = none) (unheld : view.held = none) :
    Settles program intent view := by
  have obeys : program.Obeys (roleOf intent)
      (fun _ after => after.draft = none ∧ after.held = none) view :=
    Prog.obeys_of_allCalls quiet
    (fun current request _ calm => by
      cases request <;> first | exact trivial | exact calm | exact calm.elim)
    (fun current request reply kept calm => by
      cases request <;> first | exact kept | exact calm.elim)
    ⟨undrafted, unheld⟩
  exact obeys.mono fun _ after kept =>
    .of_undrafted kept.1 (View.clear_of_unheld kept.2)

theorem simulate_quiet
    (orgID agentID tool action : String) (arguments : Object) :
    (simulate config orgID agentID tool action arguments).AllCalls Quiet := by
  simp only [simulate, Prog.perform_bind, Prog.allCalls_call]
  refine ⟨trivial, fun agent => ?_⟩
  cases agent with
  | none => trivial
  | some agent =>
      refine ⟨trivial, fun _ => ⟨trivial, fun _ =>
        (Prog.allCalls_call _ _ _).mpr ⟨trivial, fun _ => ?_⟩⟩⟩
      split
      · trivial
      · exact ⟨trivial, fun _ => ⟨trivial, fun _ => ⟨trivial, fun _ =>
          trivial⟩⟩⟩

theorem registerTools_quiet
    (name url token : String) (classes : List (String × List ActionClass))
    (tools : List MCPTool) :
    (Api.registerTools name url token classes tools).AllCalls Quiet := by
  induction tools with
  | nil => trivial
  | cons tool tools inductionHypothesis =>
      exact ⟨⟨name, rfl⟩, fun _ => inductionHypothesis⟩

/-- The handlers of all routes whose intent is none of the named ones make
quiet calls only. -/
theorem handle_quiet {request : Api.Request} (other : request.intent = .other) :
    (Api.handle config request).AllCalls Quiet := by
  obtain ⟨caller, traceID, route⟩ := request
  cases route <;> simp [Api.Request.intent] at other
  case simulatePolicy body =>
    simp only [Api.handle, Api.handleSimulatePolicy]
    split
    · trivial
    split
    · trivial
    · exact (simulate_quiet _ _ _ _ _).bind fun _ => trivial
  case actionSub parts =>
    simp only [Api.handle, Api.handleActionSub]
    split
    · simp at other
    · trivial
  case decideApproval parts body =>
    simp only [Api.handle, Api.handleDecideApproval]
    split
    · trivial
    split
    · simp at other
    · trivial
  case registerMCPServer body =>
    simp only [Api.handle, Api.handleRegisterMCPServer, Prog.perform_bind]
    repeat' first
      | exact trivial
      | exact (registerTools_quiet _ _ _ _ _).bind fun _ =>
          ⟨trivial, fun _ => trivial⟩
      | refine Prog.AllCalls.call trivial fun _ => ?_
      | split
  all_goals
    simp only [Api.handle, Api.handleRegisterAgent, Api.handleListTxns,
      Api.handleGetTxn, Api.handleListApprovals, Api.handleListReceipts,
      Api.handleAudit, Api.handleListPolicies, Api.handleListMCPServers,
      Api.handleListMCPTools, Api.handleCreateGrant, Api.handleListGrants,
      Api.handleRevokeGrant, Api.handleRotateCredential,
      Api.handleRevokeCredential, Api.handleVerifyReceipts,
      Api.handleVerifyReceipt, Api.handleCreatePolicySet,
      Api.handleListPolicySets, Api.handleActivatePolicySet,
      Api.handleListIntegrations, Api.handleSetIntegrationCredential,
      Api.handleSetHTTPDomains, Prog.perform_bind]
    repeat' first
      | exact trivial
      | refine Prog.AllCalls.call trivial fun _ => ?_
      | split

/-! ## Decisions on approvals -/

theorem applyGrant_obeys {orgID approvalID : String} {approval : Approval}
    (decides : intent = .decide orgID approvalID true)
    (undrafted : view.draft = none) (unheld : view.held = none)
    (decided : view.decided = some approval)
    (granted : approval.status = .approved) :
    Settles (Api.applyGrant orgID approval) intent view := by
  unfold Api.applyGrant
  split
  · exact .of_idle undrafted unheld
  rename_i actionID about
  simp only [Prog.perform_bind, Prog.obeys_call]
  refine ⟨⟨undrafted, View.clear_of_unheld unheld, Or.inr unheld⟩,
    fun found fits => ?_⟩
  cases found with
  | none => exact .of_idle undrafted rfl
  | some action =>
      refine ⟨⟨_, rfl, rfl, .granted orgID approvalID approval decides decided
        granted (by rw [about, fits.1])⟩, fun _ _ => ⟨trivial, fun txn read => ?_⟩⟩
      have clear (after : View) (held : Held)
          (holding : after.held = some held) (stored : held.stored =
            some { action with status := .approved }) :
          after.Clear := by
        simp [View.Clear, View.Owes, holding, stored]
      cases txn with
      | none => exact .of_undrafted undrafted (clear _ _ rfl rfl)
      | some txn =>
          refine ⟨⟨txn, rfl, rfl, read.2, .resume approval decided granted
            read.1⟩, fun _ _ => ?_⟩
          exact View.Settled.of_undrafted undrafted (clear _ _ rfl rfl)

theorem applyDenial_obeys {orgID : String} {approval : Approval}
    (undrafted : view.draft = none) (unheld : view.held = none)
    (decided : view.decided = some approval)
    (denied : approval.status = .denied) :
    Settles (Api.applyDenial orgID approval) intent view := by
  simp only [Api.applyDenial, Prog.perform_bind, Prog.obeys_call]
  refine ⟨trivial, fun found read => ?_⟩
  cases found with
  | none => exact .of_idle undrafted unheld
  | some txn =>
      refine ⟨⟨txn, rfl, rfl, read.2, .abort approval decided denied read.1⟩,
        fun _ _ => ?_⟩
      exact View.Settled.of_idle undrafted unheld

theorem decideOn_obeys {orgID id decidedBy : String} {approve : Bool}
    (decides : intent = .decide orgID id approve)
    (undrafted : view.draft = none) (unheld : view.held = none)
    (undecided : view.decided = none) :
    Settles (Api.decideOn orgID id decidedBy approve) intent view := by
  simp only [Api.decideOn, Prog.perform_bind, Prog.obeys_call]
  refine ⟨⟨decides, undecided, unheld, undrafted⟩, fun found fits => ?_⟩
  cases found with
  | none => exact .of_idle undrafted unheld
  | some approval =>
      refine ⟨trivial, fun _ _ => ?_⟩
      cases approve with
      | true =>
          exact Prog.Obeys.bind (applyGrant_obeys decides undrafted unheld rfl
            (by simpa using fits.2.2)) fun _ _ settled => settled
      | false =>
          exact Prog.Obeys.bind (applyDenial_obeys undrafted unheld rfl
            (by simpa using fits.2.2)) fun _ _ settled => settled

/-! ## All operations -/

/-- The view with which every operation starts. -/
abbrev View.first : View := {}

theorem handle_obeys (request : Api.Request) :
    (Api.handle config request).Obeys (roleOf request.intent)
      (fun _ after => after.Settled) View.first := by
  have settled : View.first.Settled :=
    .of_undrafted rfl (View.clear_of_unheld rfl)
  have clear : View.first.Clear := View.clear_of_unheld rfl
  by_cases other : request.intent = .other
  · exact obeys_of_quiet (handle_quiet other) rfl rfl
  obtain ⟨caller, traceID, route⟩ := request
  cases route with
  | createTxn body =>
      simp only [Api.handle, Api.handleCreateTxn, Prog.perform_bind]
      split
      · exact settled
      refine (Prog.obeys_call _ _ _ _ _).mpr ⟨trivial, fun agent _ => ?_⟩
      cases agent with
      | none => exact settled
      | some agent =>
          simp only
          split
          · exact settled
          · exact ⟨⟨true, rfl, fun _ => rfl⟩, fun _ _ => settled⟩
  | proposeAction body =>
      simp only [Api.handle, Api.handleProposeAction]
      split
      · exact settled
      split
      · exact settled
      split
      · exact settled
      exact Prog.Obeys.bind (proposeAction_obeys rfl rfl rfl rfl)
        fun _ _ done => done
  | mcpCall body =>
      simp only [Api.handle, Api.handleMCPCall, Prog.perform_bind]
      split
      · exact settled
      split
      · exact settled
      split
      · exact settled
      refine (Prog.obeys_call _ _ _ _ _).mpr ⟨trivial, fun found _ => ?_⟩
      cases found with
      | none => exact settled
      | some found =>
          simp only
          split
          · exact settled
          refine ⟨⟨_, rfl⟩, fun _ _ => ?_⟩
          exact Prog.Obeys.bind (proposeAction_obeys rfl rfl rfl rfl)
            fun _ _ done => done
  | actionSub parts =>
      simp only [Api.handle, Api.handleActionSub, Prog.perform_bind]
      split
      · rename_i id
        refine (Prog.obeys_call _ _ _ _ _).mpr
          ⟨⟨rfl, clear, Or.inl rfl⟩, fun found _ => ?_⟩
        have copied : (View.first.learn (.getAction _ id) found).Clear := by
          cases found with
          | none => exact View.clear_of_unheld rfl
          | some action => exact View.clear_of_copy rfl
        split
        · exact Prog.Obeys.bind (runApproved_obeys rfl rfl copied rfl)
            fun _ _ done => done
        · exact Prog.Obeys.bind (executeAllowed_obeys rfl rfl copied rfl)
            fun _ _ done => done
      · exact settled
  | decideApproval parts body =>
      simp only [Api.handle, Api.handleDecideApproval]
      split
      · exact settled
      split
      · exact decideOn_obeys rfl rfl rfl rfl
      · exact settled
  | reconcile id =>
      simp only [Api.handle, Api.handleReconcile]
      split
      · exact settled
      · exact Prog.Obeys.bind (reconcile_obeys rfl rfl clear rfl)
          fun _ _ done => done
  | commitTxn id =>
      simp only [Api.handle, Api.handleCommitTxn, Prog.perform_bind]
      refine (Prog.obeys_call _ _ _ _ _).mpr ⟨trivial, fun found _ => ?_⟩
      cases found with
      | none => exact settled
      | some txn =>
          simp only
          split
          · exact .of_undrafted rfl (View.clear_of_unheld rfl)
          · exact Prog.Obeys.bind (commit_obeys rfl rfl rfl rfl)
              fun _ _ done => done
  | _ => exact absurd rfl other

/-- Every operation obeys the role of its intent and leaves nothing half
done. -/
theorem Operation.obeys (config : Config) (operation : Operation) :
    (operation.program config).Obeys (roleOf operation.intent)
      (fun _ after => after.Settled) View.first := by
  have clear : View.first.Clear := View.clear_of_unheld rfl
  cases operation with
  | http request =>
      exact Prog.Obeys.bind (handle_obeys request) fun _ _ done => done
  | createTxn txn =>
      exact ⟨⟨false, rfl, by simp⟩, fun _ _ => .of_undrafted rfl clear⟩
  | proposeAction traceID orgID txnID agentID tool action arguments idemKey =>
      exact Prog.Obeys.bind (proposeAction_obeys rfl rfl rfl rfl)
        fun _ _ done => done
  | executeAllowed traceID orgID actionID =>
      exact Prog.Obeys.bind (executeAllowed_obeys rfl rfl clear rfl)
        fun _ _ done => done
  | runApproved traceID orgID actionID =>
      exact Prog.Obeys.bind (runApproved_obeys rfl rfl clear rfl)
        fun _ _ done => done
  | commit traceID orgID txnID =>
      exact Prog.Obeys.bind (commit_obeys rfl rfl rfl rfl) fun _ _ done => done
  | reconcile traceID orgID actionID =>
      exact Prog.Obeys.bind (reconcile_obeys rfl rfl clear rfl)
        fun _ _ done => done
  | compensateTransaction orgID txnID =>
      exact Prog.Obeys.bind (compensateTransaction_obeys rfl rfl rfl rfl)
        fun _ _ done => done
  | simulate orgID agentID tool action arguments =>
      exact Prog.Obeys.bind (obeys_of_quiet (simulate_quiet _ _ _ _ _) rfl rfl)
        fun _ _ done => done

end SettleAgent
