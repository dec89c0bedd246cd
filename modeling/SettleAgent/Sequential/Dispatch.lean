import SettleAgent.Sequential.Runs

/-!
# Dispatch and the status of the transaction

The execution path looks at the action record only, while a denial and a
compensation change the transaction record only.  So an action that is still
allowed or approved when its transaction is aborted or rolled back can be
dispatched afterwards.  This module gives such a run, and the conditions under
which no transaction dies with actions left to run.
-/

namespace SettleAgent

open Interaction

/-- The statuses of a transaction whose work is over or is being undone. -/
def TxnStatus.dead : TxnStatus → Bool
  | .aborting | .compensating | .rolledBack | .partiallyCompensated
  | .committed | .failed => true
  | _ => false

namespace Ledger

def Dead (ledger : Ledger) (txnID : String) : Prop :=
  ∃ txn, ledger.txns.get? txnID = some txn ∧ txn.status.dead = true

instance (ledger : Ledger) (txnID : String) : Decidable (ledger.Dead txnID) :=
  decidable_of_iff
    (((ledger.txns.get? txnID).any fun txn => txn.status.dead) = true)
    (by simp [Dead, Option.any_eq_true])

/-- The transaction has no action left to run. -/
def Idle (ledger : Ledger) (txnID : String) : Prop :=
  ∀ id action, ledger.actions.get? id = some action →
    action.transactionID = txnID → ¬ Runnable action

/-- No action of a dead transaction is left to run. -/
def Quiescent (ledger : Ledger) : Prop :=
  ∀ txnID, ledger.Dead txnID → ledger.Idle txnID

end Ledger

/-- The condition on an operation in the ledger it arrives at.  A denial and a
compensation come when nothing of the transaction is left to run, approval is
not granted in a dead transaction, and nothing new is proposed in one that is
aborting or compensating. -/
def Careful (ledger : Ledger) : Intent → Prop
  | .propose orgID txnID key =>
      ∀ txn, ledger.txns.get? txnID = some txn → txn.orgID = orgID →
        txn.status = .aborting ∨ txn.status = .compensating →
          ledger.byIdem? (Ledger.idemKey orgID txnID key) ≠ none
  | .decide orgID id approve =>
      ∀ approval, ledger.approvals.get? id = some approval →
        approval.orgID = orgID → approval.status = .pending →
          if approve then ¬ ledger.Dead approval.transactionID
          else ledger.Idle approval.transactionID
  | .compensate orgID txnID =>
      ∀ txn, ledger.txns.get? txnID = some txn → txn.orgID = orgID →
        ledger.Idle txnID
  | _ => True

/-- What is left of the condition while the operation runs. -/
def Guarded (intent : Intent) (view : View) (ledger : Ledger) : Prop :=
  match intent with
  | .propose _ txnID _ =>
      (view.draft = none → Careful ledger intent) ∧
        (view.draft ≠ none → ¬ ledger.Dead txnID)
  | .decide _ _ approve =>
      (view.decided = none → Careful ledger intent) ∧
        ∀ approval, view.decided = some approval →
          if approve then ¬ ledger.Dead approval.transactionID
          else ledger.Idle approval.transactionID
  | .compensate _ _ => Careful ledger intent
  | _ => True

variable {config : Config} {env : Env} {world : World} {intent : Intent}
  {view : View} {request : Call} {txnID : String}

variable (coherent : Coherent view world.ledger)
  (admissible : Admissible world env) (may : May intent view request)

namespace Coherent

include coherent admissible may in
/-- Whose doing it is when a transaction is dead after a step. -/
theorem dead_step (planned : intent ≠ .create false)
    (dead : (exec config request env world).2.ledger.Dead txnID) :
    world.ledger.Dead txnID ∨
      (∃ approval, view.decided = some approval ∧
        approval.status = .denied ∧ approval.transactionID = txnID) ∨
      (∃ orgID, intent = .commit orgID txnID ∧
        (exec config request env world).2.ledger.Committed txnID) ∨
      ∃ txn, world.ledger.txns.get? txnID = some txn ∧
        intent = .compensate txn.orgID txnID := by
  obtain ⟨next, found, dies⟩ := dead
  cases txnWrite config admissible may txnID with
  | kept same => exact Or.inl ⟨next, same ▸ found, dies⟩
  | created new opens creates status named absent written =>
      cases opens with
      | false => exact absurd creates planned
      | true =>
          rw [written, Option.some.injEq] at found
          simp [← found, status rfl, TxnStatus.dead] at dies
  | moved read stored status seen named present sameOrg moves written =>
      have result := found
      rw [written, Option.some.injEq] at found
      subst found
      obtain ⟨current, currentFound, _, sameStatus⟩ := coherent.txn read seen
      rw [named, present, Option.some.injEq] at currentFound
      subst currentFound
      have stale {target : TxnStatus} (alive : target.dead = false)
          (dies : (statusAfter read target).dead = true) :
          world.ledger.Dead txnID := by
        rcases statusAfter_eq read target with equal | equal
        · simp [equal, alive] at dies
        · exact ⟨stored, present, by rw [sameStatus, ← equal, dies]⟩
      cases moves with
      | pause => exact Or.inl (stale rfl dies)
      | resume => exact Or.inl (stale rfl dies)
      | abort approval decided denied same =>
          exact Or.inr (Or.inl ⟨approval, decided, denied, same ▸ named⟩)
      | begin => simp [TxnStatus.dead] at dies
      | close actions commits =>
          exact Or.inr (Or.inr (Or.inl ⟨read.orgID, named ▸ commits,
            ⟨_, result, rfl⟩⟩))
      | compensate status compensates =>
          exact Or.inr (Or.inr (Or.inr ⟨stored, present, by
            rw [compensates, sameOrg, named]⟩))

include coherent admissible may in
/-- Whose doing it is when an action is left to run after a step. -/
theorem idle_step (idle : world.ledger.Idle txnID)
    (undrafted : ∀ draft, view.draft = some draft →
      draft.proposal.transactionID ≠ txnID)
    (ungranted : ∀ approval, view.decided = some approval →
      approval.status = .approved → approval.transactionID ≠ txnID) :
    (exec config request env world).2.ledger.Idle txnID := by
  intro id action present sameTxn runnable
  have ready := runnable.imp_left And.left
  cases actionWrite config coherent.keyed admissible may id with
  | kept same => exact idle id action (same ▸ present) sameTxn runnable
  | added new mayAdd named absent written =>
      rw [written, Option.some.injEq] at present
      simp [← present, Ledger.newAction, mayAdd.2.2.2.2.1] at ready
  | decided draft old decision drafted named undecided found written =>
      obtain ⟨stored, storedFound, status, _⟩ := coherent.draft draft drafted
      rw [named, found, Option.some.injEq] at storedFound
      rw [written, Option.some.injEq] at present
      simp [← present, storedFound, status, undecided] at ready
  | placed draft old decision drafted named undecided known found written =>
      obtain ⟨stored, storedFound, _, _, ownTxn⟩ := coherent.draft draft drafted
      rw [named, found, Option.some.injEq] at storedFound
      rw [written, Option.some.injEq] at present
      refine undrafted draft drafted ?_
      rw [← ownTxn, ← storedFound, ← sameTxn, ← present]
  | rewritten held old new holding unstored rewrites named found written =>
      obtain ⟨revises, same, change⟩ :=
        coherent.rewritten holding unstored rewrites
      rw [written, Option.some.injEq] at present
      subst present
      cases change with
      | ran orgID actionID executes runnable result =>
          rcases result with result | result | result <;>
            simp [result] at ready
      | settled orgID actionID reconciles uncertain answered result =>
          rcases result with result | result <;> simp [result] at ready
      | granted orgID approvalID approval decides decided granted about waiting
          result =>
          refine ungranted approval decided granted ?_
          obtain ⟨actionID, current, aboutCurrent, currentFound, _, ownTxn, _⟩ :=
            coherent.requested _ approval (coherent.decided approval decided).1
          rw [about, Option.some.injEq] at aboutCurrent
          rw [← aboutCurrent, ← revises.alike.id, same, Option.some.injEq]
            at currentFound
          rw [← ownTxn, ← currentFound, ← revises.alike.transactionID, sameTxn]
      | undone orgID txnID compensates executed uncommitted result =>
          rcases result with result | result <;> simp [result] at ready

include coherent admissible may in
/-- A step of an operation that is guarded leaves no action of a dead
transaction to run. -/
theorem quiescent_step (planned : intent ≠ .create false)
    (purposeful : view.Purposeful intent)
    (guarded : Guarded intent view world.ledger)
    (quiescent : world.ledger.Quiescent) :
    (exec config request env world).2.ledger.Quiescent := by
  intro txnID dead
  rcases coherent.dead_step admissible may planned dead with
    dead | ⟨approval, decided, denied, rfl⟩ | ⟨orgID, _, committed⟩ |
      ⟨txn, present, rfl⟩
  · refine coherent.idle_step admissible may (quiescent txnID dead) ?_ ?_
    · rintro draft drafted rfl
      obtain ⟨key, rfl⟩ := purposeful.draft draft drafted
      exact guarded.2 (by simp [drafted]) dead
    · rintro approval decided granted rfl
      obtain ⟨approve, rfl, status⟩ := purposeful.decided approval decided
      have alive := guarded.2 approval decided
      cases approve with
      | true => exact alive dead
      | false => simp [granted] at status
  · obtain ⟨approve, rfl, status⟩ := purposeful.decided approval decided
    have idle := guarded.2 approval decided
    cases approve with
    | true => simp [denied] at status
    | false =>
        refine coherent.idle_step admissible may idle ?_ ?_
        · intro draft drafted
          simpa using purposeful.draft draft drafted
        · intro other otherDecided granted
          rw [decided, Option.some.injEq] at otherDecided
          simp [← otherDecided, denied] at granted
  · intro id action present sameTxn runnable
    have after : Coherent _ (exec config request env world).2.ledger :=
      coherent.step admissible may
    have resolved := after.committed id action present (sameTxn ▸ committed)
    simp [Live.unresolved (Or.inl runnable)] at resolved
  · refine coherent.idle_step admissible may (guarded txn present rfl) ?_ ?_
    · intro draft drafted
      simpa using purposeful.draft draft drafted
    · intro approval decided
      simpa using purposeful.decided approval decided

end Coherent

/-! ## The condition while the operation runs -/

/-- Two ledgers that differ in their receipts only. -/
structure SameRecords (first second : Ledger) : Prop where
  txns : second.txns = first.txns
  actions : second.actions = first.actions
  byIdem : second.byIdem = first.byIdem
  approvals : second.approvals = first.approvals

theorem Careful.congr {first second : Ledger} (same : SameRecords first second)
    (careful : Careful first intent) : Careful second intent := by
  obtain ⟨_, _, _, _, _, _⟩ := first
  obtain ⟨_, _, _, _, _, _⟩ := second
  obtain ⟨rfl, rfl, rfl, rfl⟩ := same
  cases intent <;> exact careful

/-- A proposal writes nothing but receipts before it has added its action, and
a decision nothing before it has decided its approval. -/
theorem sameRecords_exec (may : May intent view request)
    (purpose : (∃ orgID txnID key, intent = .propose orgID txnID key) ∨
      ∃ orgID id approve, intent = .decide orgID id approve)
    (undrafted : view.draft = none) (undecided : view.decided = none)
    (adds : ∀ action, request ≠ .addAction action)
    (decides : ∀ orgID id decidedBy approve,
      request ≠ .decideApproval orgID id decidedBy approve) :
    SameRecords world.ledger (exec config request env world).2.ledger := by
  by_cases writes : request.Writes
  swap
  · rw [ledger_exec_of_not_writes writes]
    exact ⟨rfl, rfl, rfl, rfl⟩
  cases request with
  | createTxn txn =>
      obtain ⟨planned, rfl, _⟩ := may
      simp at purpose
  | setTxnStatus orgID id status =>
      obtain ⟨txn, _, _, _, moves⟩ := may
      cases moves with
      | pause draft drafted => simp [undrafted] at drafted
      | resume approval decided => simp [undecided] at decided
      | abort approval decided => simp [undecided] at decided
      | begin held orgID actionID executes => simp [executes] at purpose
      | close actions commits => simp [commits] at purpose
      | compensate status compensates => simp [compensates] at purpose
  | addAction action => exact absurd rfl (adds action)
  | updateAction action =>
      obtain ⟨held, _, _, rewrites⟩ := may
      cases rewrites with
      | ran orgID actionID outcome action executes =>
          simp [executes] at purpose
      | settled orgID actionID answer action reconciles =>
          simp [reconciles] at purpose
      | granted orgID approvalID approval decides decided =>
          simp [undecided] at decided
      | undone orgID txnID txn scan listed status compensates =>
          simp [compensates] at purpose
  | setStoredDecision id decision =>
      obtain ⟨draft, drafted, _⟩ := may
      simp [undrafted] at drafted
  | setStoredStatus id status =>
      obtain ⟨draft, _, drafted, _⟩ := may
      simp [undrafted] at drafted
  | updateStored id =>
      obtain ⟨draft, drafted, _⟩ := may
      simp [undrafted] at drafted
  | createApproval approval =>
      obtain ⟨draft, drafted, _⟩ := may
      simp [undrafted] at drafted
  | decideApproval orgID id decidedBy approve =>
      exact absurd rfl (decides orgID id decidedBy approve)
  | appendReceipt receipt => exact ⟨rfl, rfl, rfl, rfl⟩
  | setStoredSignature orgID id keyID signature => exact ⟨rfl, rfl, rfl, rfl⟩
  | updateReceipt orgID id keyID signature => exact ⟨rfl, rfl, rfl, rfl⟩
  | _ => exact writes.elim

/-- A draft is never dropped. -/
theorem View.undrafted_of_learn {reply : request.Resp}
    (undrafted : (view.learn request reply).draft = none) :
    view.draft = none := by
  cases request with
  | addAction action =>
      simp only [View.learn] at undrafted
      split at undrafted
      · exact undrafted
      · simp at undrafted
  | reconcile reconciler action => cases reply <;> exact undrafted
  | _ => simpa [View.learn] using undrafted

namespace Coherent

/-- A new action is never added to a transaction that is dead. -/
theorem alive_of_adds
    (coherent : Coherent view world.ledger) {action : TxnAction}
    (may : May intent view (.addAction action))
    (careful : Careful world.ledger intent)
    (absent : world.ledger.byIdem? (Ledger.keyOf action) = none) :
    ¬ world.ledger.Dead action.transactionID := by
  rintro ⟨stored, found, dead⟩
  obtain ⟨rfl, _, _, _, _, _, _, txn, read, sameTxn, sameOrg, unclosed⟩ := may
  obtain ⟨current, currentFound, ownOrg, sameStatus⟩ := coherent.txn txn read
  rw [sameTxn, found, Option.some.injEq] at currentFound
  subst currentFound
  refine careful stored found (ownOrg.trans sameOrg) ?_ absent
  rw [← sameStatus] at unclosed
  revert dead unclosed
  cases stored.status <;> simp [TxnStatus.dead, TxnStatus.terminal]

include coherent admissible in
theorem guarded_step_propose {orgID key : String}
    (may : May (.propose orgID txnID key) view request)
    (purposeful : view.Purposeful (.propose orgID txnID key))
    (guarded : Guarded (.propose orgID txnID key) view world.ledger) :
    Guarded (.propose orgID txnID key)
      (view.learn request (exec config request env world).1)
      (exec config request env world).2.ledger := by
  have undecided : view.decided = none := by
    cases decided : view.decided with
    | none => rfl
    | some approval => simpa using purposeful.decided approval decided
  -- An action under a used key is not added, and one under a new key is.
  have replied {action : TxnAction} (adds : request = .addAction action)
      (undrafted : view.draft = none) :
      ((view.learn request (exec config request env world).1).draft = none ∧
        (exec config request env world).2.ledger = world.ledger) ∨
      ((view.learn request (exec config request env world).1).draft ≠ none ∧
        world.ledger.byIdem? (Ledger.keyOf action) = none) := by
    subst adds
    change ((view.learn (.addAction action)
        (world.ledger.addAction config.runtime.hashing env.uid env.now
          action).1).draft = none ∧
        (world.ledger.addAction config.runtime.hashing env.uid env.now
          action).2 = world.ledger) ∨
      ((view.learn (.addAction action)
        (world.ledger.addAction config.runtime.hashing env.uid env.now
          action).1).draft ≠ none ∧ _)
    cases found : world.ledger.byIdem? (Ledger.keyOf action) with
    | some previous =>
        rw [Ledger.addAction_of_duplicate env.uid env.now found]
        exact Or.inl ⟨by simpa [View.learn] using undrafted, rfl⟩
    | none =>
        rw [Ledger.addAction_of_new env.uid env.now found]
        exact Or.inr ⟨by simp [View.learn], rfl⟩
  constructor
  · intro undraftedAfter
    have undrafted := View.undrafted_of_learn undraftedAfter
    have careful := guarded.1 undrafted
    by_cases adds : ∃ action, request = .addAction action
    · obtain ⟨action, adds⟩ := adds
      rcases replied adds undrafted with ⟨_, same⟩ | ⟨drafts, _⟩
      · rw [same]
        exact careful
      · exact absurd undraftedAfter drafts
    · refine careful.congr (sameRecords_exec may (Or.inl ⟨_, _, _, rfl⟩)
        undrafted undecided (fun action adds' => adds ⟨action, adds'⟩) ?_)
      rintro orgID id decidedBy approve rfl
      simpa using may.1
  · intro drafts dead
    by_cases undrafted : view.draft = none
    · obtain ⟨draft, drafting⟩ := Option.ne_none_iff_exists'.mp drafts
      obtain ⟨action, rfl⟩ : ∃ action, request = .addAction action :=
        ⟨draft.proposal, (View.draft_learn drafting).resolve_left
          (by simp [undrafted])⟩
      rcases replied rfl undrafted with ⟨undraftedAfter, _⟩ | ⟨_, absent⟩
      · exact drafts undraftedAfter
      · have same : (exec config (.addAction action) env world).2.ledger.txns =
            world.ledger.txns := txns_exec fun writes => writes
        rw [Ledger.Dead, same] at dead
        obtain ⟨rfl, rfl, rfl⟩ := Intent.propose.inj may.1
        exact coherent.alive_of_adds may (guarded.1 undrafted) absent dead
    · rcases coherent.dead_step admissible may (by simp) dead with
        dead | ⟨approval, decided, _⟩ | ⟨orgID, commits, _⟩ |
          ⟨txn, _, compensates⟩
      · exact guarded.2 undrafted dead
      · simp [undecided] at decided
      · simp at commits
      · simp at compensates

include coherent admissible in
theorem guarded_step_decide {orgID id : String} {approve : Bool}
    (may : May (.decide orgID id approve) view request)
    (purposeful : view.Purposeful (.decide orgID id approve))
    (guarded : Guarded (.decide orgID id approve) view world.ledger) :
    Guarded (.decide orgID id approve)
      (view.learn request (exec config request env world).1)
      (exec config request env world).2.ledger := by
  have undrafted : view.draft = none := by
    cases drafted : view.draft with
    | none => rfl
    | some draft => simpa using purposeful.draft draft drafted
  by_cases decides : ∃ orgID id decidedBy approve,
      request = .decideApproval orgID id decidedBy approve
  · obtain ⟨ownOrg, key, decidedBy, ownApprove, rfl⟩ := decides
    obtain ⟨own, undecided, _⟩ := may
    obtain ⟨rfl, rfl, rfl⟩ := Intent.decide.inj own
    have careful := guarded.1 undecided
    change Guarded (.decide orgID id approve)
      { view with decided := (world.ledger.decideApproval env.now orgID id
          decidedBy approve).1 }
      (world.ledger.decideApproval env.now orgID id decidedBy approve).2
    cases found : (world.ledger.decideApproval env.now orgID id decidedBy
        approve).1 with
    | none =>
        rw [Ledger.decideApproval_of_none found]
        exact ⟨fun _ => careful, by simp⟩
    | some outcome =>
        obtain ⟨old, present, owned, pending, rfl, written⟩ :=
          Ledger.decideApproval_of_some found
        rw [written]
        refine ⟨by simp, fun approval equal => ?_⟩
        cases equal
        exact careful old present owned pending
  · have same : (view.learn request
        (exec config request env world).1).decided = view.decided :=
      View.decided_learn fun _ _ _ _ equal => decides ⟨_, _, _, _, equal⟩
    simp only [Guarded, same]
    refine ⟨fun undecided => ?_, fun approval decided => ?_⟩
    · refine (guarded.1 undecided).congr (sameRecords_exec may
        (Or.inr ⟨_, _, _, rfl⟩) undrafted undecided ?_
        fun _ _ _ _ equal => decides ⟨_, _, _, _, equal⟩)
      rintro action rfl
      simpa using may.1
    · obtain ⟨_, own, status⟩ := purposeful.decided approval decided
      obtain ⟨_, _, rfl⟩ := Intent.decide.inj own
      have holds := guarded.2 approval decided
      cases approve with
      | true =>
          intro dead
          rcases coherent.dead_step admissible may (by simp) dead with
            dead | ⟨other, otherDecided, denied, _⟩ | ⟨orgID, commits, _⟩ |
              ⟨txn, _, compensates⟩
          · exact holds dead
          · rw [decided, Option.some.injEq] at otherDecided
            simp [← otherDecided, status] at denied
          · simp at commits
          · simp at compensates
      | false =>
          refine coherent.idle_step admissible may holds (by simp [undrafted])
            ?_
          intro other otherDecided granted
          rw [decided, Option.some.injEq] at otherDecided
          simp [← otherDecided, status] at granted

include coherent admissible in
theorem guarded_step_compensate {orgID : String}
    (may : May (.compensate orgID txnID) view request)
    (purposeful : view.Purposeful (.compensate orgID txnID))
    (careful : Careful world.ledger (.compensate orgID txnID)) :
    Careful (exec config request env world).2.ledger
      (.compensate orgID txnID) := by
  intro txn present owned
  have idle : world.ledger.Idle txnID := by
    cases txnWrite config admissible may txnID with
    | kept same => exact careful txn (same ▸ present) owned
    | created new planned creates => simp at creates
    | moved read stored status seen named found sameOrg moves written =>
        rw [written, Option.some.injEq] at present
        exact careful stored found (by rw [← owned, ← present])
  refine coherent.idle_step admissible may idle ?_ ?_
  · intro draft drafted
    simpa using purposeful.draft draft drafted
  · intro approval decided
    simpa using purposeful.decided approval decided

include coherent admissible may in
/-- A step keeps what is left of the condition. -/
theorem guarded_step (purposeful : view.Purposeful intent)
    (guarded : Guarded intent view world.ledger) :
    Guarded intent (view.learn request (exec config request env world).1)
      (exec config request env world).2.ledger := by
  cases intent with
  | propose orgID txnID key =>
      exact coherent.guarded_step_propose admissible may purposeful guarded
  | decide orgID id approve =>
      exact coherent.guarded_step_decide admissible may purposeful guarded
  | compensate orgID txnID =>
      exact coherent.guarded_step_compensate admissible may purposeful guarded
  | _ => trivial

end Coherent

/-! ## Runs -/

/-- What holds at every step of a run whose operations meet the condition. -/
structure Watched (intent : Intent) (view : View) (world : World) : Prop where
  planned : intent ≠ .create false
  coherent : Coherent view world.ledger
  purposeful : view.Purposeful intent
  guarded : Guarded intent view world.ledger
  quiescent : world.ledger.Quiescent

namespace Watched

theorem step
    (watched : Watched intent view world) (admissible : Admissible world env)
    (may : May intent view request) :
    Watched intent (view.learn request (exec config request env world).1)
      (exec config request env world).2 where
  planned := watched.planned
  coherent := watched.coherent.step admissible may
  purposeful := watched.purposeful.learn may
    (fits_exec request watched.coherent.keyed)
  guarded := watched.coherent.guarded_step admissible may watched.purposeful
    watched.guarded
  quiescent := watched.coherent.quiescent_step admissible may watched.planned
    watched.purposeful watched.guarded watched.quiescent

theorem enter (planned : intent ≠ .create false)
    (coherent : Coherent View.first world.ledger)
    (quiescent : world.ledger.Quiescent)
    (careful : Careful world.ledger intent) :
    Watched intent View.first world where
  planned := planned
  coherent := coherent
  purposeful := ⟨by simp, by simp⟩
  guarded := by
    cases intent with
    | propose => exact ⟨fun _ => careful, by simp⟩
    | decide => exact ⟨fun _ => careful, by simp⟩
    | compensate => exact careful
    | _ => trivial
  quiescent := quiescent

end Watched

/-- The step dispatches an action whose transaction is dead at that moment. -/
def DispatchesDead (mark : Mark Operation Call Env World) : Prop :=
  ∃ action ∈ mark.request.dispatched,
    mark.before.ledger.Dead action.transactionID

instance (mark : Mark Operation Call Env World) :
    Decidable (DispatchesDead mark) :=
  inferInstanceAs (Decidable (∃ _ ∈ _, _))

namespace Sample

/-- A refund awaits approval and a lookup is allowed.  The refund is denied,
which aborts the transaction, and then the lookup is executed. -/
def abandoned : List Arrival :=
  inTurn
    [create,
      propose "id1" "stripe" "refund" (some [("amount_cents", .int 500)]) "k1",
      propose "id1" "crm" "lookup_customer" none "k2",
      decideApproval "id113" false, execute "id203"]

end Sample

/-- A handler is dispatched for an action of an aborting transaction. -/
theorem abandoned_dispatches_dead :
    (∀ arrival ∈ Sample.abandoned, arrival.operation.IsHTTP) ∧
      Sample.world.Initial ∧
      FreshRun Sample.config Sample.world Sample.abandoned ∧
      ¬ ∀ mark ∈ (sequential Sample.config Sample.world Sample.abandoned).marks,
        ¬ DispatchesDead mark :=
  ⟨by decide +kernel, Sample.initial, by decide +kernel, by decide +kernel⟩

/-- No handler is dispatched for an action of a dead transaction, in every run
of HTTP requests and compensations in which each operation meets the condition
in the ledger it arrives at. -/
theorem careful_run_dispatches_alive
    {arrivals : List Arrival}
    (served : ∀ arrival ∈ arrivals, arrival.operation.IsHTTP ∨
      ∃ orgID txnID, arrival.operation = .compensateTransaction orgID txnID)
    (initial : world.Initial) (fresh : FreshRun config world arrivals)
    (careful : ∀ earlier arrival later,
      arrivals = earlier ++ arrival :: later →
        Careful (sequential config world earlier).state.ledger
          arrival.operation.intent) :
    ∀ mark ∈ (sequential config world arrivals).marks,
      ¬ DispatchesDead mark := by
  have start : Coherent View.first world.ledger ∧ world.ledger.Quiescent := by
    rw [show world.ledger = Ledger.empty from initial]
    exact ⟨Coherent.empty, by simp [Ledger.Quiescent, Ledger.Dead, Ledger.empty]⟩
  have run := sequential_invariant Watched
    (fun world => Coherent View.first world.ledger ∧ world.ledger.Quiescent)
    (fun operation world => operation.intent ≠ .create false ∧
      Careful world.ledger operation.intent)
    (fun _ _ _ watched => watched.coherent.keyed)
    (fun _ _ _ _ _ watched admissible may => watched.step admissible may)
    (fun _ _ between met => .enter met.1 between.1 between.2 met.2)
    (fun _ _ _ settled watched =>
      ⟨watched.coherent.leave settled, watched.quiescent⟩) start fresh
    (fun earlier arrival later split => by
      refine ⟨?_, careful earlier arrival later split⟩
      rcases served arrival (by simp [split]) with http | ⟨orgID, txnID, equal⟩
      · exact http.forward.planned
      · simp [equal, Operation.intent])
  rintro mark made ⟨action, dispatched, dead⟩
  obtain ⟨view, watched, may⟩ := run.2 mark made
  have executes : mark.request = .execute action := by
    exact Call.dispatched_eq_some.mp dispatched
  rw [executes] at may
  obtain ⟨_, held, holding, rfl, _, unstored, runnable⟩ := may
  have present := watched.coherent.held held holding
  rw [unstored, Option.getD_none] at present
  exact watched.quiescent _ dead _ _ present rfl runnable

/-- The lookup alone meets the condition: it is proposed in a transaction that
is being planned. -/
theorem careful_run_dispatches_alive_lookup :
    FreshRun Sample.config Sample.world Sample.lookup ∧
      ∀ mark ∈ (sequential Sample.config Sample.world Sample.lookup).marks,
        ¬ DispatchesDead mark := by
  refine ⟨by decide +kernel, careful_run_dispatches_alive
    (fun arrival member => Or.inl
      ((by decide +kernel : ∀ arrival ∈ Sample.lookup,
        arrival.operation.IsHTTP) arrival member))
    Sample.initial (by decide +kernel) ?_⟩
  intro earlier arrival later split
  simp only [Sample.lookup, Sample.inTurn, List.zipIdx_cons, List.zipIdx_nil,
    List.map_cons, List.map_nil] at split
  rcases earlier with _ | ⟨first, _ | ⟨second, _ | ⟨third, rest⟩⟩⟩
  · cases split
    trivial
  · cases split
    intro txn present _ status
    have planning : ((sequential Sample.config Sample.world
        [⟨Sample.create, Sample.envs 0⟩]).state.ledger.txns.get? "id1").map
          Transaction.status = some .planning := by
      decide +kernel
    rw [present, Option.map_some, Option.some.injEq] at planning
    simp [planning] at status
  · cases split
    trivial
  · simp at split

end SettleAgent
