import SettleAgent.Concurrent.Linked

/-!
# Commit among other requests

A request to commit scans the actions of the transaction and writes
`COMMITTED` in two steps, and the other requests on the transaction write what
they have read earlier.  An action that is added after the scan, or a status
that was read before the write, breaks the committed transaction.  Neither
happens in runs in which no other request works on a transaction between the
scan and the write.
-/

namespace SettleAgent

open Interaction

/-! ## Records stay with their transactions -/

structure Homed (scene : Scene) : Prop extends Housed scene where
  draft : ∀ thread draft, (scene.views thread).draft = some draft →
    ∃ action, scene.world.ledger.actions.get? draft.id = some action ∧
      action.transactionID = draft.proposal.transactionID
  asked : ∀ key approval id action,
    scene.world.ledger.approvals.get? key = some approval →
      approval.actionID = some id →
      scene.world.ledger.actions.get? id = some action →
        action.transactionID = approval.transactionID

namespace Homed

variable {config : Config} {scene : Scene} {intent : Intent} {thread : Nat}
  {request : Call} {env : Env}

theorem start {world : World} (initial : world.Initial) :
    Homed (Scene.start world) := by
  have empty : world.ledger = Ledger.empty := initial
  refine ⟨Housed.start (congrArg Ledger.actions empty), ?_, ?_⟩ <;>
    simp [Scene.start, empty, Ledger.empty]

theorem asked_next (homed : Homed scene) (linked : Linked config scene)
    (admissible : Admissible scene.world env) (forward : intent.Forward)
    (may : May intent (scene.views thread) request)
    (key : String) (approval : Approval) (id : String) (action : TxnAction)
    (approvalAt : (exec config request env scene.world).2.ledger.approvals.get?
      key = some approval)
    (about : approval.actionID = some id)
    (present : (exec config request env scene.world).2.ledger.actions.get?
      id = some action) :
    action.transactionID = approval.transactionID := by
  have evolves := linked.evolves admissible forward may
  -- The action was stored before, in the same transaction.
  have kept {old : TxnAction}
      (before : scene.world.ledger.actions.get? id = some old) :
      action.transactionID = old.transactionID := by
    obtain ⟨new, found, alike, _⟩ := evolves.action id old before
    cases present.symm.trans found
    exact alike.transactionID
  have asked {old : Approval}
      (oldAt : scene.world.ledger.approvals.get? key = some old)
      (same : approval.actionID = old.actionID) :
      action.transactionID = old.transactionID := by
    obtain ⟨named, stored, oldAbout, before, _⟩ := linked.requested key old oldAt
    cases (same.symm.trans about).symm.trans oldAbout
    exact (kept before).trans (homed.asked key old id stored oldAt oldAbout
      before)
  have write := approvalWrite config admissible may key
  rw [approvalAt] at write
  cases write with
  | kept same => exact asked same.symm rfl
  | created new created named absent written =>
      cases written
      obtain ⟨draft, drafting, draftAbout, _, home, _⟩ := created
      cases about.symm.trans draftAbout
      obtain ⟨stored, before, same⟩ := homed.draft thread draft drafting
      exact (kept before).trans (same.trans home.symm)
  | decided old orgID decidedBy approve decides found sameOrg pending
      written =>
      cases written
      have home : action.transactionID = old.transactionID := asked found rfl
      exact home

theorem step (homed : Homed scene) (linked : Linked config scene)
    (admissible : Admissible scene.world env) (forward : intent.Forward)
    (may : May intent (scene.views thread) request) :
    Homed (scene.next config thread request env) := by
  refine ⟨homed.toHoused.step linked.keyed admissible may ?_, ?_, ?_⟩
  · intro id old before
    obtain ⟨new, found, alike, _⟩ :=
      (linked.evolves admissible forward may).action id old before
    exact ⟨new, found, alike.transactionID, alike.orgID⟩
  · intro other draft drafting
    have kept {id txnID : String}
        (before : ∃ action, scene.world.ledger.actions.get? id = some action ∧
          action.transactionID = txnID) : ∃ action,
          (scene.next config thread request env).world.ledger.actions.get?
            id = some action ∧ action.transactionID = txnID := by
      obtain ⟨action, present, home⟩ := before
      obtain ⟨new, found, alike, _⟩ :=
        (linked.evolves admissible forward may).action id action present
      exact ⟨new, found, alike.transactionID.trans home⟩
    by_cases same : other = thread
    · subst same
      rw [Scene.views_next_self] at drafting
      rcases View.draft_learn drafting with
        ⟨old, oldDrafting, id, proposal⟩ | adds
      · rw [id, proposal]
        exact kept (homed.draft other old oldDrafting)
      · obtain ⟨action, rfl⟩ : ∃ action, request = .addAction action :=
          ⟨draft.proposal, adds⟩
        change (View.learn _ (.addAction action)
          (scene.world.ledger.addAction config.runtime.hashing env.uid env.now
            action).1).draft = _ at drafting
        change ∃ stored, (scene.world.ledger.addAction config.runtime.hashing
          env.uid env.now action).2.actions.get? draft.id = some stored ∧ _
        cases found : scene.world.ledger.byIdem? (Ledger.keyOf action) with
        | some previous =>
            rw [Ledger.addAction_of_duplicate env.uid env.now found]
              at drafting ⊢
            exact homed.draft other draft drafting
        | none =>
            rw [Ledger.addAction_of_new env.uid env.now found] at drafting ⊢
            cases drafting
            exact ⟨_, Table.get?_set_self _ _ _, rfl⟩
    · rw [scene.views_next_of_ne config request env same] at drafting
      exact kept (homed.draft other draft drafting)
  · exact homed.asked_next linked admissible forward may

/-- A draft is for the transaction of the action that it describes. -/
theorem home_of_draft (homed : Homed scene) {draft : Draft} {id : String}
    {action : TxnAction}
    (drafting : (scene.views thread).draft = some draft)
    (named : draft.id = id)
    (found : scene.world.ledger.actions.get? id = some action) :
    draft.proposal.transactionID = action.transactionID := by
  obtain ⟨stored, storedAt, proposed⟩ := homed.draft thread draft drafting
  rw [named, found, Option.some.injEq] at storedAt
  exact storedAt ▸ proposed.symm

end Homed

/-! ## What a request has to do with a transaction -/

/-- The operation works with no copy of the transaction, of its actions or of
its approvals, and adds no action to it. -/
structure View.Idle (view : View) (txnID : String) : Prop where
  txn : ∀ txn ∈ view.txn, txn.id ≠ txnID
  draft : ∀ draft ∈ view.draft, draft.proposal.transactionID ≠ txnID
  held : ∀ held ∈ view.held, held.record.transactionID ≠ txnID
  decided : ∀ approval ∈ view.decided, approval.transactionID ≠ txnID

/-- Nothing that the operation may still write changes the transaction once it
is committed. -/
structure View.Harmless (view : View) (txnID : String) : Prop where
  txn : ∀ txn ∈ view.txn, txn.id = txnID → txn.status = .committed
  draft : ∀ draft ∈ view.draft, draft.proposal.transactionID ≠ txnID
  held : ∀ held ∈ view.held, held.record.transactionID = txnID →
    held.record.status.resolved = true
  decided : ∀ approval ∈ view.decided, approval.transactionID ≠ txnID

theorem View.Idle.harmless {view : View} {txnID : String}
    (idle : view.Idle txnID) : view.Harmless txnID :=
  { idle with
    txn := fun txn read same => absurd same (idle.txn txn read)
    held := fun held holding same => absurd same (idle.held held holding) }

/-- The transaction that an operation is asked to commit. -/
def Intent.closes : Intent → Option String
  | .commit _ txnID => some txnID
  | _ => none

/-- The transaction that the call scans. -/
def Call.scanned : Call → Option String
  | .actionsForTxn _ txnID => some txnID
  | _ => none

/-- The transaction that the caller begins to work with. -/
def Call.touched (ledger : Ledger) : Call → Option String
  | .getTxn _ id => some id
  | .getAction _ id =>
      (ledger.actions.get? id).map TxnAction.transactionID
  | .decideApproval _ id _ _ =>
      (ledger.approvals.get? id).map Approval.transactionID
  | _ => none

/-- The thread has scanned the transaction in order to commit it, and has
neither done so nor given up. -/
structure Closing (operations : Nat → Operation) (scene : Scene)
    (thread : Nat) (txnID : String) : Prop where
  active : scene.retired thread = false
  commits : (operations thread).intent.closes = some txnID
  scanned : ∃ scan ∈ (scene.views thread).scan, scan.txnID = txnID
  uncommitted : ¬ scene.world.ledger.Committed txnID

/-- A transaction is scanned for a commit only while no other request works
with it, and no request begins to work with a transaction that another one is
closing. -/
structure Undisturbed (operations : Nat → Operation) (scene : Scene)
    (thread : Nat) (request : Call) : Prop where
  scan : ∀ txnID ∈ request.scanned,
    (operations thread).intent.closes = some txnID →
      ∀ other, other ≠ thread → scene.retired other = false →
        (scene.views other).Idle txnID
  touch : ∀ txnID ∈ request.touched scene.world.ledger,
    ∀ other, other ≠ thread → ¬ Closing operations scene other txnID

/-- What holds of committed transactions, and of those that are about to be,
at every point of such a run. -/
structure Sealed (operations : Nat → Operation) (scene : Scene) : Prop where
  read : ∀ thread txn, (scene.views thread).txn = some txn →
    txn.status = .committed → scene.world.ledger.Committed txn.id
  resolved : ∀ id action, scene.world.ledger.actions.get? id = some action →
    scene.world.ledger.Committed action.transactionID →
      action.status.resolved = true
  harmless : ∀ txnID thread, scene.world.ledger.Committed txnID →
    scene.retired thread = false → (scene.views thread).Harmless txnID
  alone : ∀ txnID thread other, Closing operations scene thread txnID →
    other ≠ thread → scene.retired other = false →
      (scene.views other).Idle txnID
  whole : ∀ txnID thread scan, Closing operations scene thread txnID →
    (scene.views thread).scan = some scan →
      ∀ id action, scene.world.ledger.actions.get? id = some action →
        action.orgID = scan.orgID → action.transactionID = scan.txnID →
          action ∈ scan.actions
  stays : ∀ mark ∈ scene.marks, ∀ txnID,
    mark.before.ledger.Committed txnID →
      scene.world.ledger.Committed txnID

/-- An approval that is pending is about an action that waits for it. -/
theorem Linked.waiting
    {config : Config} {scene : Scene} (linked : Linked config scene)
    {key : String} {approval : Approval}
    (present : scene.world.ledger.approvals.get? key = some approval)
    (pending : approval.status = .pending) :
    ∃ id action, approval.actionID = some id ∧
      scene.world.ledger.actions.get? id = some action ∧
      action.status = .awaitingApproval := by
  obtain ⟨id, action, about, stored, set, effect⟩ :=
    linked.requested key approval present
  refine ⟨id, action, about, stored, ?_⟩
  by_contra other
  -- Any other status was granted, by an approval that is not pending.
  have granted := (linked.cleared id action stored).passed set other effect
  rw [linked.keyed.action id action stored] at granted
  obtain ⟨grantedKey, another, grantedAt, grantedAbout, approved⟩ :=
    linked.granted id granted
  have same := linked.once key approval grantedKey another present grantedAt
    (about.trans grantedAbout.symm)
  rw [← same, present, Option.some.injEq] at grantedAt
  rw [← grantedAt, pending] at approved
  simp at approved

/-- From a committed transaction, a request over HTTP can only write that it is
committed. -/
theorem Moves.of_committed
    {intent : Intent} {view : View} {txn : Transaction} {status : TxnStatus}
    (moves : Moves intent view txn status) (forward : intent.Forward)
    (committed : txn.status = .committed) : status = .committed := by
  have terminal : txn.status.terminal = true := by
    rw [committed]
    rfl
  cases moves with
  | pause => rw [statusAfter_of_terminal _ terminal, committed]
  | resume => rw [statusAfter_of_terminal _ terminal, committed]
  | abort => rw [statusAfter_of_terminal _ terminal, committed]
  | begin _ _ _ _ _ _ _ _ early => simp [committed] at early
  | close => rfl
  | compensate status compensates =>
      exact absurd compensates (forward.uncompensated _ _)

/-- Everything that holds in a run of undisturbed commits. -/
structure Orderly (config : Config) (operations : Nat → Operation)
    (scene : Scene) : Prop where
  linked : Linked config scene
  homed : Homed scene
  purposeful : ∀ thread,
    (scene.views thread).Purposeful (operations thread).intent
  closed : Sealed operations scene

namespace Orderly

variable {config : Config} {operations : Nat → Operation} {scene : Scene}
  {thread : Nat} {request : Call} {env : Env} {txnID : String}

/-- A request to commit drafts nothing and decides nothing. -/
theorem of_closes (orderly : Orderly config operations scene)
    (closes : (operations thread).intent.closes = some txnID) :
    (scene.views thread).draft = none ∧
      (scene.views thread).decided = none := by
  constructor
  · cases drafting : (scene.views thread).draft with
    | none => rfl
    | some draft =>
        obtain ⟨_, proposes⟩ :=
          (orderly.purposeful thread).draft draft drafting
        simp [proposes, Intent.closes] at closes
  · cases decided : (scene.views thread).decided with
    | none => rfl
    | some approval =>
        obtain ⟨_, decides, _⟩ :=
          (orderly.purposeful thread).decided approval decided
        simp [decides, Intent.closes] at closes

/-- The status that an operation writes is the one the ledger has
afterwards. -/
theorem status_written
    (orderly : Orderly config operations scene) {orgID key : String}
    {status : TxnStatus} {txn : Transaction}
    (may : May (operations thread).intent (scene.views thread)
      (.setTxnStatus orgID key status))
    (read : ((scene.views thread).learn (.setTxnStatus orgID key status)
      (exec config (.setTxnStatus orgID key status) env
        scene.world).1).txn = some txn) :
    ∃ stored, (exec config (.setTxnStatus orgID key status) env
        scene.world).2.ledger.txns.get? txn.id = some stored ∧
      stored.status = txn.status := by
  obtain ⟨old, oldRead, rfl⟩ := Option.map_eq_some_iff.mp read
  obtain ⟨seen, seenRead, rfl, rfl, _⟩ := may
  cases seenRead.symm.trans oldRead
  obtain ⟨stored, storedAt, owner⟩ := orderly.homed.read thread old oldRead
  have found := Ledger.getTxn_eq_some.mpr ⟨storedAt, owner⟩
  change ∃ stored, (scene.world.ledger.setTxnStatus env.now old.orgID old.id
    status).2.txns.get? old.id = some stored ∧ _
  rw [Ledger.setTxnStatus_of_found env.now status found]
  exact ⟨_, Table.get?_set_self _ _ _, rfl⟩

/-- The call that makes a transaction committed is the one that writes its
status. -/
theorem commits_by_writing
    (may : May (operations thread).intent (scene.views thread) request)
    (closes : (operations thread).intent.closes = some txnID)
    (uncommitted : ¬ scene.world.ledger.Committed txnID)
    (committed : (exec config request env scene.world).2.ledger.Committed
      txnID) :
    ∃ orgID key status, request = .setTxnStatus orgID key status := by
  by_cases writes : request.WritesTxns
  swap
  · rw [Ledger.Committed, txns_exec writes] at committed
    exact absurd committed uncommitted
  cases request with
  | setTxnStatus orgID key status => exact ⟨orgID, key, status, rfl⟩
  | createTxn txn =>
      obtain ⟨planned, creates, _⟩ := may
      simp [creates, Intent.closes] at closes
  | _ => exact writes.elim

section Steps

variable (orderly : Orderly config operations scene)
  (admissible : Admissible scene.world env)
  (forward : (operations thread).intent.Forward)
  (active : scene.retired thread = false)
  (may : May (operations thread).intent (scene.views thread) request)

include orderly admissible forward active may

/-! ### Transactions -/

/-- A committed transaction stays committed. -/
theorem committed_next (committed : scene.world.ledger.Committed txnID) :
    (exec config request env scene.world).2.ledger.Committed txnID := by
  have harmless := orderly.closed.harmless txnID thread committed active
  obtain ⟨stored, present, status⟩ := committed
  have write := txnWrite config admissible may txnID
  rw [present] at write
  cases write with
  | kept same => exact ⟨stored, same, status⟩
  | created _ _ _ _ _ absent => simp at absent
  | moved txn old new read named found sameOrg moves written =>
      have closed := harmless.txn txn read named
      exact ⟨_, written, moves.of_committed forward closed⟩

/-- A transaction becomes committed only by a request that was closing it. -/
theorem committing
    (committed :
      (exec config request env scene.world).2.ledger.Committed txnID) :
    scene.world.ledger.Committed txnID ∨
      Closing operations scene thread txnID ∧
        (scene.views thread).held = none ∧
        ∃ txn actions, (scene.views thread).txn = some txn ∧
          txn.id = txnID ∧ (scene.views thread).scan =
            some ⟨txn.orgID, txnID, actions, true⟩ ∧
          ∀ action ∈ actions, action.status.resolved = true := by
  obtain ⟨stored, present, status⟩ := committed
  have write := txnWrite config admissible may txnID
  rw [present] at write
  cases write with
  | kept same => exact Or.inl ⟨stored, same.symm, status⟩
  | created txn planned creates planning named absent written =>
      cases written
      cases planned with
      | false => exact absurd creates forward.planned
      | true => simp [planning rfl] at status
  | moved txn old new read named found sameOrg moves written =>
      cases written
      by_cases before : scene.world.ledger.Committed txnID
      · exact Or.inl before
      rcases moves.committed status with
        already | ⟨actions, commits, scanned, unheld, _, resolved⟩
      · exact Or.inl (named ▸ orderly.closed.read thread txn read already)
      · subst named
        refine Or.inr ⟨⟨active, ?_, ⟨_, scanned, rfl⟩, before⟩, unheld, txn,
          actions, read, rfl, scanned, resolved⟩
        rw [commits]
        rfl

/-! ### Records -/

omit active in
/-- A request that does not work with a transaction leaves its actions
alone. -/
theorem records_of_idle (idle : (scene.views thread).Idle txnID) {id : String}
    {action : TxnAction}
    (present : (exec config request env scene.world).2.ledger.actions.get?
      id = some action) (home : action.transactionID = txnID) :
    scene.world.ledger.actions.get? id = some action := by
  have write := actionWrite config orderly.linked.keyed admissible may id
  rw [present] at write
  cases write with
  | kept same => exact same.symm
  | added new added named absent written =>
      cases written
      obtain ⟨_, _, _, _, _, _, _, txn, read, sameID, _⟩ := added
      exact absurd (sameID.trans home) (idle.txn txn read)
  | decided draft old decision drafting named undecided found written =>
      cases written
      have drafted := orderly.homed.home_of_draft drafting named found
      exact absurd (drafted.trans home) (idle.draft draft drafting)
  | placed draft old decision drafting named undecided known found written =>
      cases written
      have drafted := orderly.homed.home_of_draft drafting named found
      exact absurd (drafted.trans home) (idle.draft draft drafting)
  | rewritten held old new holding unstored rewrites named found written =>
      cases written
      have revises :=
        ((orderly.linked.seen thread).rewrites forward holding rewrites).1
      exact absurd (revises.alike.transactionID.symm.trans home)
        (idle.held held holding)

omit forward active in
/-- A request to commit changes no action. -/
theorem records_of_closes
    (closes : (operations thread).intent.closes = some txnID) (id : String) :
    (exec config request env scene.world).2.ledger.actions.get? id =
      scene.world.ledger.actions.get? id := by
  obtain ⟨undrafted, _⟩ := orderly.of_closes closes
  cases actionWrite config orderly.linked.keyed admissible may id with
  | kept same => exact same
  | added new added =>
      rw [added.1] at closes
      simp [Intent.closes] at closes
  | decided draft old decision drafting => simp [undrafted] at drafting
  | placed draft old decision drafting => simp [undrafted] at drafting
  | rewritten held old new holding unstored rewrites =>
      cases rewrites <;> simp_all [Intent.closes]

/-- The actions of committed transactions are resolved after a call. -/
theorem resolved_next (id : String) (action : TxnAction)
    (present : (exec config request env scene.world).2.ledger.actions.get?
      id = some action)
    (committed : (exec config request env scene.world).2.ledger.Committed
      action.transactionID) : action.status.resolved = true := by
  rcases orderly.committing admissible forward active may committed with
    before | ⟨closing, _, txn, actions, read, named, scanned, resolved⟩
  swap
  · -- The commit's scan has listed the action.
    rw [orderly.records_of_closes admissible may closing.commits] at present
    apply resolved action
    apply orderly.closed.whole _ thread _ closing scanned id action present
    · obtain ⟨stored, storedAt, owner⟩ :=
        orderly.homed.owned id action present
      obtain ⟨readAt, found, readOwner⟩ := orderly.homed.read thread txn read
      rw [named, storedAt, Option.some.injEq] at found
      exact owner.symm.trans (found ▸ readOwner)
    · rfl
  have harmless := orderly.closed.harmless _ thread before active
  have write := actionWrite config orderly.linked.keyed admissible may id
  rw [present] at write
  cases write with
  | kept same => exact orderly.closed.resolved id action same.symm before
  | added new added named absent written =>
      cases written
      obtain ⟨_, _, _, _, _, _, _, txn, read, sameID, _, running⟩ := added
      have closed := harmless.txn txn read sameID
      simp [closed, TxnStatus.terminal] at running
  | decided draft old decision drafting named undecided found written =>
      cases written
      exact absurd (orderly.homed.home_of_draft drafting named found)
        (harmless.draft draft drafting)
  | placed draft old decision drafting named undecided known found written =>
      cases written
      exact absurd (orderly.homed.home_of_draft drafting named found)
        (harmless.draft draft drafting)
  | rewritten held old new holding unstored rewrites named found written =>
      cases written
      have seen := orderly.linked.seen thread
      have revises := (seen.rewrites forward holding rewrites).1
      have settled := harmless.held held holding
        revises.alike.transactionID.symm
      cases rewrites with
      | ran orgID actionID outcome action executes runnable =>
          have live : Live held.record := Or.inl runnable
          simp [live.unresolved] at settled
      | settled orgID actionID answer action reconciles uncertain =>
          have live : Live held.record := Or.inr uncertain
          simp [live.unresolved] at settled
      | granted orgID approvalID approval decides decided granted about =>
          -- The approval that was decided is one of the transaction.
          obtain ⟨stored, storedAt, alike, _⟩ := seen.record held holding
          have home := orderly.homed.asked approval.id approval _ stored
            (seen.decided approval decided).1 about storedAt
          exact absurd (home.symm.trans alike.transactionID)
            (harmless.decided approval decided)
      | undone orgID txnID txn scan listed status compensates =>
          exact absurd compensates (forward.uncompensated orgID txnID)

/-! ### Views -/

omit admissible in
/-- A request that is harmless to a committed transaction stays so. -/
theorem harmless_learn (committed : scene.world.ledger.Committed txnID) :
    ((scene.views thread).learn request
      (exec config request env scene.world).1).Harmless txnID := by
  have harmless := orderly.closed.harmless txnID thread committed active
  constructor
  · intro txn read same
    rcases View.txn_learn read with
      ⟨old, oldRead, id, _, kept | ⟨orgID, key, rfl⟩⟩ | ⟨orgID, key, rfl⟩
    · exact kept.trans (harmless.txn old oldRead (id.symm.trans same))
    · obtain ⟨seen, seenRead, _, _, moves⟩ := may
      cases seenRead.symm.trans oldRead
      exact moves.of_committed forward
        (harmless.txn old oldRead (id.symm.trans same))
    · have found : scene.world.ledger.getTxn orgID key = some txn := read
      obtain ⟨present, _⟩ := Ledger.getTxn_eq_some.mp found
      have own := orderly.linked.keyed.txn key txn present
      obtain ⟨stored, storedAt, status⟩ := committed
      rw [← same, own, present, Option.some.injEq] at storedAt
      exact storedAt ▸ status
  · intro draft drafting same
    rcases View.draft_learn drafting with
      ⟨old, oldDrafting, _, proposal⟩ | rfl
    · exact harmless.draft old oldDrafting (proposal ▸ same)
    · obtain ⟨_, _, _, _, _, _, _, txn, read, sameID, _, running⟩ := may
      have closed := harmless.txn txn read (sameID.trans same)
      simp [closed, TxnStatus.terminal] at running
  · intro held holding same
    rcases View.held_learn holding with
      ⟨old, oldHolding, record⟩ | ⟨orgID, id, rfl⟩
    · rw [record] at same ⊢
      exact harmless.held old oldHolding same
    · obtain ⟨record, found, rfl⟩ := Option.map_eq_some_iff.mp holding
      have present := (Ledger.getAction_eq_some.mp found).1
      exact orderly.closed.resolved id record present (same ▸ committed)
  · intro approval decided same
    by_cases decides : ∃ orgID id decidedBy approve,
        request = .decideApproval orgID id decidedBy approve
    · obtain ⟨orgID, id, decidedBy, approve, rfl⟩ := decides
      -- A pending approval would be about an action that is not resolved.
      obtain ⟨old, present, _, pending, rfl, _⟩ :=
        Ledger.decideApproval_of_some decided
      obtain ⟨actionID, action, about, stored, waiting⟩ :=
        orderly.linked.waiting present pending
      have home := orderly.homed.asked id old actionID action present about
        stored
      have resolved := orderly.closed.resolved actionID action stored
        (home.trans same ▸ committed)
      simp [waiting, ActionStatus.resolved] at resolved
    · rw [Option.mem_def, View.decided_learn fun _ _ _ _ equal =>
        decides ⟨_, _, _, _, equal⟩] at decided
      exact harmless.decided approval decided same

omit admissible forward active in
/-- A request begins to work with a transaction only by touching it. -/
theorem idle_learn (idle : (scene.views thread).Idle txnID)
    (untouched : request.touched scene.world.ledger ≠ some txnID) :
    ((scene.views thread).learn request
      (exec config request env scene.world).1).Idle txnID := by
  constructor
  · intro txn read same
    rcases View.txn_learn read with
      ⟨old, oldRead, id, _⟩ | ⟨orgID, key, rfl⟩
    · exact idle.txn old oldRead (id.symm.trans same)
    · have found : scene.world.ledger.getTxn orgID key = some txn := read
      obtain ⟨present, _⟩ := Ledger.getTxn_eq_some.mp found
      have own := orderly.linked.keyed.txn key txn present
      exact untouched (congrArg some (own.symm.trans same))
  · intro draft drafting same
    rcases View.draft_learn drafting with
      ⟨old, oldDrafting, _, proposal⟩ | rfl
    · exact idle.draft old oldDrafting (proposal ▸ same)
    · obtain ⟨_, _, _, _, _, _, _, txn, read, sameID, _⟩ := may
      exact idle.txn txn read (sameID.trans same)
  · intro held holding same
    rcases View.held_learn holding with
      ⟨old, oldHolding, record⟩ | ⟨orgID, id, rfl⟩
    · exact idle.held old oldHolding (record ▸ same)
    · obtain ⟨record, found, rfl⟩ := Option.map_eq_some_iff.mp holding
      have present := (Ledger.getAction_eq_some.mp found).1
      apply untouched
      rw [Call.touched, present, Option.map_some]
      exact congrArg some same
  · intro approval decided same
    by_cases decides : ∃ orgID id decidedBy approve,
        request = .decideApproval orgID id decidedBy approve
    · obtain ⟨orgID, id, decidedBy, approve, rfl⟩ := decides
      obtain ⟨old, present, _, _, rfl, _⟩ :=
        Ledger.decideApproval_of_some decided
      apply untouched
      rw [Call.touched, present, Option.map_some]
      exact congrArg some same
    · rw [Option.mem_def, View.decided_learn fun _ _ _ _ equal =>
        decides ⟨_, _, _, _, equal⟩] at decided
      exact idle.decided approval decided same

/-! ### Steps -/

/-- A request that is closing a transaction after a call was closing it before,
or has just scanned it. -/
theorem closing_next {closer : Nat}
    (closing : Closing operations (scene.next config thread request env)
      closer txnID) :
    Closing operations scene closer txnID ∨
      closer = thread ∧ request.scanned = some txnID := by
  have uncommitted : ¬ scene.world.ledger.Committed txnID :=
    fun committed => closing.uncommitted
      (orderly.committed_next admissible forward active may committed)
  obtain ⟨scan, scanned, home⟩ := closing.scanned
  by_cases same : closer = thread
  · subst same
    rw [Option.mem_def, Scene.views_next_self] at scanned
    rcases View.scan_learn scanned with
      ⟨old, oldScanned, kept, _⟩ | ⟨orgID, key, rfl⟩
    · exact Or.inl ⟨active, closing.commits,
        ⟨old, oldScanned, kept.symm.trans home⟩, uncommitted⟩
    · cases scanned
      exact Or.inr ⟨rfl, congrArg some home⟩
  · rw [Option.mem_def,
      scene.views_next_of_ne config request env same] at scanned
    exact Or.inl ⟨closing.active, closing.commits, ⟨scan, scanned, home⟩,
      uncommitted⟩

/-- An operation that has read or written `COMMITTED` has it from the
ledger. -/
theorem read_next {txn : Transaction}
    (read : ((scene.views thread).learn request
      (exec config request env scene.world).1).txn = some txn)
    (status : txn.status = .committed) :
    (exec config request env scene.world).2.ledger.Committed txn.id := by
  rcases View.txn_learn read with
    ⟨old, oldRead, id, _, kept | ⟨orgID, key, rfl⟩⟩ | ⟨orgID, key, rfl⟩
  · rw [id]
    exact orderly.committed_next admissible forward active may
      (orderly.closed.read thread old oldRead (kept.symm.trans status))
  · obtain ⟨stored, storedAt, same⟩ := orderly.status_written may read
    exact ⟨stored, storedAt, same.trans status⟩
  · have found : scene.world.ledger.getTxn orgID key = some txn := read
    obtain ⟨present, _⟩ := Ledger.getTxn_eq_some.mp found
    have own := orderly.linked.keyed.txn key txn present
    exact ⟨txn, own ▸ present, status⟩

theorem harmless_next {other : Nat}
    (committed : (exec config request env scene.world).2.ledger.Committed
      txnID) (otherActive : scene.retired other = false) :
    ((scene.next config thread request env).views other).Harmless txnID := by
  rcases orderly.committing admissible forward active may committed with
    before | ⟨closing, unheld, _⟩
  · by_cases same : other = thread
    · subst same
      rw [Scene.views_next_self]
      exact orderly.harmless_learn forward active may before
    · rw [scene.views_next_of_ne config request env same]
      exact orderly.closed.harmless txnID other before otherActive
  by_cases same : other = thread
  swap
  · rw [scene.views_next_of_ne config request env same]
    exact (orderly.closed.alone txnID thread other closing same
      otherActive).harmless
  -- The closing request itself holds nothing but the transaction.
  subst same
  rw [Scene.views_next_self]
  obtain ⟨orgID, key, status, rfl⟩ :=
    commits_by_writing may closing.commits closing.uncommitted committed
  obtain ⟨undrafted, undecided⟩ := orderly.of_closes closing.commits
  constructor
  · intro txn read named
    obtain ⟨stored, storedAt, same⟩ := orderly.status_written may read
    obtain ⟨found, foundAt, closed⟩ := committed
    rw [← named, storedAt, Option.some.injEq] at foundAt
    exact same.symm.trans (foundAt ▸ closed)
  · simp [View.learn, undrafted]
  · simp [View.learn, unheld]
  · simp [View.learn, undecided]

theorem alone_next (undisturbed : Undisturbed operations scene thread request)
    {closer other : Nat}
    (closing : Closing operations (scene.next config thread request env)
      closer txnID)
    (different : other ≠ closer) (otherActive : scene.retired other = false) :
    ((scene.next config thread request env).views other).Idle txnID := by
  rcases orderly.closing_next admissible forward active may closing with
    before | ⟨rfl, scans⟩
  · have idle := orderly.closed.alone txnID closer other before different
      otherActive
    by_cases same : other = thread
    · subst same
      rw [Scene.views_next_self]
      refine orderly.idle_learn may idle fun touched => ?_
      exact undisturbed.touch txnID touched closer different.symm before
    · rw [scene.views_next_of_ne config request env same]
      exact idle
  · rw [scene.views_next_of_ne config request env different]
    exact undisturbed.scan txnID scans closing.commits other different
      otherActive

theorem whole_next {closer : Nat} {scan : Scan}
    (closing : Closing operations (scene.next config thread request env)
      closer txnID)
    (scanned : ((scene.next config thread request env).views closer).scan =
      some scan) (id : String) (action : TxnAction)
    (present : (exec config request env scene.world).2.ledger.actions.get?
      id = some action) (org : action.orgID = scan.orgID)
    (home : action.transactionID = scan.txnID) : action ∈ scan.actions := by
  by_cases same : closer = thread
  · subst same
    rw [orderly.records_of_closes admissible may closing.commits] at present
    rw [Scene.views_next_self] at scanned
    have listed {orgID key : String}
        (scans : request = .actionsForTxn orgID key) :
        action ∈ scan.actions := by
      subst scans
      cases scanned
      exact Ledger.mem_actionsForTxn.mpr ⟨⟨org, home⟩, id, present⟩
    rcases orderly.closing_next admissible forward active may closing with
      before | ⟨_, scans⟩
    · rcases View.scan_learn scanned with
        ⟨old, oldScanned, _, rfl | ⟨written, rfl⟩⟩ | ⟨orgID, key, scans⟩
      · exact orderly.closed.whole txnID closer scan before oldScanned id
          action present org home
      · obtain ⟨held, _, _, rewrites⟩ := may
        have closes := closing.commits
        cases rewrites <;> simp_all [Intent.closes]
      · exact listed scans
    · cases request <;> simp [Call.scanned] at scans
      exact listed rfl
  · rw [scene.views_next_of_ne config request env same] at scanned
    rcases orderly.closing_next admissible forward active may closing with
      before | ⟨equal, _⟩
    · obtain ⟨listed, listedAt, named⟩ := before.scanned
      cases scanned.symm.trans listedAt
      have idle := orderly.closed.alone txnID closer thread before
        (Ne.symm same) active
      exact orderly.closed.whole txnID closer scan before scanned id action
        (orderly.records_of_idle admissible forward may idle present
          (home.trans named)) org home
    · exact absurd equal same

theorem step (undisturbed : Undisturbed operations scene thread request) :
    Orderly config operations (scene.next config thread request env) where
  linked := orderly.linked.step admissible forward may
  homed := orderly.homed.step orderly.linked admissible forward may
  purposeful := by
    intro other
    by_cases same : other = thread
    · subst same
      rw [Scene.views_next_self]
      exact (orderly.purposeful other).learn may
        (fits_exec request orderly.linked.keyed)
    · rw [scene.views_next_of_ne config request env same]
      exact orderly.purposeful other
  closed := by
    have kept (txnID : String) (committed :
        scene.world.ledger.Committed txnID) :=
      orderly.committed_next admissible forward active may committed
    constructor
    · intro other txn read status
      by_cases same : other = thread
      · subst same
        rw [Scene.views_next_self] at read
        exact orderly.read_next admissible forward active may read status
      · rw [scene.views_next_of_ne config request env same] at read
        exact kept txn.id (orderly.closed.read other txn read status)
    · exact orderly.resolved_next admissible forward active may
    · exact fun _ _ committed => orderly.harmless_next admissible forward
        active may committed
    · exact fun _ _ _ closing => orderly.alone_next admissible forward active
        may undisturbed closing
    · exact fun _ _ _ closing => orderly.whole_next admissible forward active
        may closing
    · intro mark made txnID committed
      rcases List.mem_append.mp made with earlier | new
      · exact kept txnID (orderly.closed.stays mark earlier txnID committed)
      · rw [List.mem_singleton.mp new] at committed
        exact kept txnID committed

end Steps

theorem start {world : World} (initial : world.Initial) :
    Orderly config operations (Scene.start world) where
  linked := Linked.start initial
  homed := Homed.start initial
  purposeful _ := ⟨by simp [Scene.start], by simp [Scene.start]⟩
  closed := by
    have empty : world.ledger = Ledger.empty := initial
    have uncommitted (txnID : String) : ¬ world.ledger.Committed txnID := by
      simp [empty, Ledger.empty, Ledger.Committed]
    constructor
    · simp [Scene.start]
    · simp [Scene.start, empty, Ledger.empty]
    · exact fun txnID _ committed => absurd committed (uncommitted txnID)
    · intro txnID thread other closing
      obtain ⟨scan, scanned, _⟩ := closing.scanned
      simp [Scene.start] at scanned
    · intro txnID thread scan closing scanned
      simp [Scene.start] at scanned
    · simp [Scene.start]

/-- A thread that retires takes nothing with it. -/
theorem leave (orderly : Orderly config operations scene) (thread : Nat) :
    Orderly config operations (scene.retire thread) := by
  have still {other : Nat} (active : (scene.retire thread).retired other =
      false) : scene.retired other = false := by
    by_cases same : other = thread
    · simp [Scene.retire, same] at active
    · simpa [Scene.retire, same] using active
  have before {other : Nat} {txnID : String}
      (closing : Closing operations (scene.retire thread) other txnID) :
      Closing operations scene other txnID :=
    { closing with active := still closing.active }
  exact {
    linked := { orderly.linked with }
    homed := { orderly.homed with }
    purposeful := orderly.purposeful
    closed := { orderly.closed with
      harmless := fun txnID other committed active =>
        orderly.closed.harmless txnID other committed (still active)
      alone := fun txnID closer other closing different active =>
        orderly.closed.alone txnID closer other (before closing) different
          (still active)
      whole := fun txnID closer scan closing =>
        orderly.closed.whole txnID closer scan (before closing) } }

end Orderly

/-! ## Runs with undisturbed commits -/

instance (ledger : Ledger) (txnID : String) :
    Decidable (ledger.Committed txnID) :=
  inferInstanceAs (Decidable (∃ txn, _ = some txn ∧ _))

instance (view : View) (txnID : String) : Decidable (view.Idle txnID) :=
  decidable_of_iff
    ((∀ txn ∈ view.txn, txn.id ≠ txnID) ∧
      (∀ draft ∈ view.draft, draft.proposal.transactionID ≠ txnID) ∧
      (∀ held ∈ view.held, held.record.transactionID ≠ txnID) ∧
      ∀ approval ∈ view.decided, approval.transactionID ≠ txnID)
    ⟨fun ⟨txn, draft, held, decided⟩ => ⟨txn, draft, held, decided⟩,
      fun ⟨txn, draft, held, decided⟩ => ⟨txn, draft, held, decided⟩⟩

instance (operations : Nat → Operation) (scene : Scene) (thread : Nat)
    (txnID : String) : Decidable (Closing operations scene thread txnID) :=
  decidable_of_iff
    (scene.retired thread = false ∧
      (operations thread).intent.closes = some txnID ∧
      (∃ scan ∈ (scene.views thread).scan, scan.txnID = txnID) ∧
      ¬ scene.world.ledger.Committed txnID)
    ⟨fun ⟨active, commits, scanned, uncommitted⟩ =>
        ⟨active, commits, scanned, uncommitted⟩,
      fun ⟨active, commits, scanned, uncommitted⟩ =>
        ⟨active, commits, scanned, uncommitted⟩⟩

instance (config : Config) (operations : Nat → Operation)
    (history : History Call Env World) (thread : Nat) (request : Call) :
    Decidable (Undisturbed operations (sceneOf config operations history)
      thread request) :=
  have (txnID : String) : Decidable (∀ other, other ≠ thread →
      history.retired other = false →
        ((sceneOf config operations history).views other).Idle txnID) :=
    decidable_of_iff' _ (forall_thread_iff fun other unused _ _ => by
      rw [unused]
      constructor <;> simp)
  have (txnID : String) : Decidable (∀ other, other ≠ thread →
      ¬ Closing operations (sceneOf config operations history) other
        txnID) :=
    decidable_of_iff' _ (forall_thread_iff fun other unused _ closing => by
      obtain ⟨scan, scanned, _⟩ := closing.scanned
      rw [unused] at scanned
      simp at scanned)
  decidable_of_iff
    ((∀ txnID ∈ request.scanned,
        (operations thread).intent.closes = some txnID →
          ∀ other, other ≠ thread → history.retired other = false →
            ((sceneOf config operations history).views other).Idle txnID) ∧
      ∀ txnID ∈ request.touched history.state.ledger, ∀ other,
        other ≠ thread → ¬ Closing operations
          (sceneOf config operations history) other txnID)
    ⟨fun ⟨scan, touch⟩ => ⟨scan, touch⟩, fun ⟨scan, touch⟩ => ⟨scan, touch⟩⟩

/-- Every call is answered with fresh identifiers, and the commits go
undisturbed. -/
def UndisturbedSchedule (config : Config) (world : World)
    (operations : Nat → Operation) (schedule : List (Nat × Env)) : Prop :=
  Scheduled config world operations
    (fun scene thread request env => Admissible scene.world env ∧
      Undisturbed operations scene thread request) schedule

instance (config : Config) (world : World) (operations : Nat → Operation)
    (schedule : List (Nat × Env)) :
    Decidable (UndisturbedSchedule config world operations schedule) :=
  inferInstanceAs (Decidable (Pool.Valid (exec config)
    (fun history thread request env => Admissible history.state env ∧
      Undisturbed operations (sceneOf config operations history) thread
        request) _ schedule))

/-- In every interleaving of HTTP requests in which the commits go undisturbed,
a transaction that is committed at some point is so at every later one, and
all its actions are then executed, denied or compensated. -/
theorem undisturbed_commit_is_final
    {config : Config} {world : World} {operations : Nat → Operation}
    {first rest : List (Nat × Env)} {txnID : String}
    (http : ∀ thread, (operations thread).IsHTTP) (initial : world.Initial)
    (undisturbed : UndisturbedSchedule config world operations
      (first ++ rest))
    (committed : (interleaved config world operations
      first).history.state.ledger.Committed txnID) :
    let after := (interleaved config world operations
      (first ++ rest)).history.state.ledger
    after.Committed txnID ∧
      ∀ id action, after.actions.get? id = some action →
        action.transactionID = txnID → action.status.resolved = true := by
  obtain ⟨orderly, _⟩ := interleaved_invariant
    (Orderly config operations) _ (fun _ orderly => orderly.linked.keyed)
    (fun _ thread _ _ orderly active met may =>
      orderly.step met.1 (http thread).forward active may met.2)
    (fun _ thread orderly _ _ => orderly.leave thread)
    (Orderly.start initial) undisturbed
  have stays : (interleaved config world operations
      (first ++ rest)).history.state.ledger.Committed txnID := by
    have split : interleaved config world operations (first ++ rest) =
        (interleaved config world operations first).run (exec config) rest :=
      Pool.run_append (exec config) _ first rest
    rcases (Pool.marks_run (exec config)
      (interleaved config world operations first) rest).2 with
      same | ⟨mark, made, before⟩
    · rw [split, same]
      exact committed
    · rw [← split] at made
      exact orderly.closed.stays mark made txnID (before ▸ committed)
  exact ⟨stays, fun id action present home =>
    orderly.closed.resolved id action present (home ▸ stays)⟩

namespace Sample

/-- A lookup is proposed and executed in a transaction, a refund is proposed,
and the transaction is committed. -/
def late : Nat → Operation :=
  threads [create, propose "id1" "crm" "lookup_customer" none "k1",
    execute "id7",
    propose "id1" "stripe" "refund" (some [("amount_cents", .int 500)]) "k2",
    commit "id1"]

/-- The lookup has been executed. -/
def executed : List Nat :=
  List.replicate 4 0 ++ List.replicate 14 1 ++ List.replicate 14 2

/-- The schedule in which the commit comes before the proposal. -/
def orderly : List Nat :=
  executed ++ List.replicate 8 4

/-- The schedule in which the proposal has read the transaction before the
commit, and goes on after it. -/
def overtaken : List Nat :=
  executed ++ [3, 3] ++ List.replicate 8 4

end Sample

/-- The proposal that comes after the commit is refused. -/
theorem undisturbed_commit_is_final_late :
    (interleaved Sample.config Sample.world Sample.late
      (Sample.turns 0 Sample.orderly ++
        Sample.turns 40 [3, 3, 3])).history.state.ledger.Committed "id1" :=
  (undisturbed_commit_is_final (Sample.isHTTP_threads (by decide))
    Sample.initial (by decide +kernel) (by decide +kernel)).1

/-- The proposal that has read the transaction before the commit adds its
action afterwards, and writes `AWAITING_APPROVAL` over `COMMITTED`. -/
theorem late_proposal_reopens :
    (∀ thread, (Sample.late thread).IsHTTP) ∧ Sample.world.Initial ∧
    FreshSchedule Sample.config Sample.world Sample.late
      (Sample.turns 0 Sample.overtaken ++
        Sample.turns 42 (List.replicate 20 3)) ∧
    (interleaved Sample.config Sample.world Sample.late
      (Sample.turns 0 Sample.overtaken)).history.state.ledger.Committed
        "id1" ∧
    ¬ (interleaved Sample.config Sample.world Sample.late
      (Sample.turns 0 Sample.overtaken ++
        Sample.turns 42 (List.replicate 20 3))).history.state.ledger.Committed
          "id1" ∧
    ∃ id action, (interleaved Sample.config Sample.world Sample.late
      (Sample.turns 0 Sample.overtaken ++ Sample.turns 42
        (List.replicate 20 3))).history.state.ledger.actions.get? id =
          some action ∧
      action.transactionID = "id1" ∧ action.status = .awaitingApproval :=
  ⟨Sample.isHTTP_threads (by decide), Sample.initial, by decide +kernel,
    by decide +kernel, by decide +kernel, "id43", by decide +kernel⟩

end SettleAgent
