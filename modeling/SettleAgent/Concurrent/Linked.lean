import SettleAgent.Concurrent.Scenes
import SettleAgent.Sequential.Runs

/-!
# Decisions and approvals behind a dispatch

Requests interleave freely, and five of them write action records from copies
that may be out of date.  A stale copy still agrees with the stored record on
everything but status and outcome, because an operation changes a decision
only before the action gets its first status.  So what a status says about the
decision and the approval of an action holds of the copies as well as of the
records.
-/

namespace SettleAgent

open Interaction

/-- The effect that was decided for an action. -/
def TxnAction.effect? (action : TxnAction) : Option PolicyEffect :=
  action.decision.map PolicyDecision.effect

/-- The call approves the action with this identifier. -/
def Grants (config : Config) (request : Call) (env : Env) (world : World)
    (id : String) : Prop :=
  ∃ orgID key decidedBy approval,
    request = .decideApproval orgID key decidedBy true ∧
      (exec config (.decideApproval orgID key decidedBy true) env world).1 =
        some approval ∧
      approval.actionID = some id

/-- One of the calls approved the action with this identifier. -/
def Granted (config : Config) (marks : List (Mark Nat Call Env World))
    (id : String) : Prop :=
  ∃ mark ∈ marks, Grants config mark.request mark.env mark.before id

theorem granted_append {config : Config} {id : String}
    {marks : List (Mark Nat Call Env World)} {mark : Mark Nat Call Env World} :
    Granted config (marks ++ [mark]) id ↔
      Granted config marks id ∨
        Grants config mark.request mark.env mark.before id := by
  simp only [Granted, List.mem_append, List.mem_singleton]
  constructor
  · rintro ⟨made, earlier | rfl, grants⟩
    · exact Or.inl ⟨made, earlier, grants⟩
    · exact Or.inr grants
  · rintro (⟨made, earlier, grants⟩ | grants)
    · exact ⟨made, Or.inl earlier, grants⟩
    · exact ⟨mark, Or.inr rfl, grants⟩

/-- What the status of an action says about its decision and its approval. -/
structure Cleared (granted : String → Prop) (action : TxnAction) : Prop where
  denied : action.status = .denied → action.effect? = some .deny
  approved : action.status = .approved →
    action.effect? = some .requireApproval
  passed : action.status ≠ .proposed → action.status ≠ .awaitingApproval →
    action.effect? = some .requireApproval → granted action.id

/-- What holds of the action that an operation is drafting. -/
structure Drafted (ledger : Ledger) (view : View) : Prop where
  record : ∀ draft, view.draft = some draft → ∃ action,
    ledger.actions.get? draft.id = some action ∧
      action.decision = draft.decision ∧
      (action.status = .proposed ↔ draft.status = none)
  placed : ∀ draft status, view.draft = some draft →
    draft.status = some status → ∃ decision,
      draft.decision = some decision ∧ status = initialStatus decision.effect
  unasked : ∀ draft, view.draft = some draft → draft.asked = false →
    ∀ key approval, ledger.approvals.get? key = some approval →
      approval.actionID ≠ some draft.id

/-- What holds of the copies that an operation has read. -/
structure Seen (granted : String → Prop) (ledger : Ledger) (view : View) :
    Prop where
  exclusive : view.draft = none ∨ view.held = none ∧ view.decided = none
  cleared : ∀ held, view.held = some held → Cleared granted held.record
  record : ∀ held, view.held = some held → ∃ action,
    ledger.actions.get? held.record.id = some action ∧
      Alike held.record action ∧
      (held.record.status ≠ .proposed →
        action.status ≠ .proposed ∧ action.decision = held.record.decision)
  decided : ∀ approval, view.decided = some approval →
    ledger.approvals.get? approval.id = some approval ∧
      approval.status ≠ .pending
  granted : ∀ approval id, view.decided = some approval →
    approval.status = .approved → approval.actionID = some id → granted id
  /-- A copy that was read after its approval had been decided. -/
  deciding : ∀ approval held, view.decided = some approval →
    view.held = some held → approval.actionID = some held.record.id →
      held.record.status ≠ .proposed ∧
        held.record.effect? = some .requireApproval

structure Linked (config : Config) (scene : Scene) : Prop where
  keyed : scene.world.ledger.WellKeyed
  cleared : ∀ id action, scene.world.ledger.actions.get? id = some action →
    Cleared (Granted config scene.marks) action
  requested : ∀ key approval,
    scene.world.ledger.approvals.get? key = some approval →
      ∃ id action, approval.actionID = some id ∧
        scene.world.ledger.actions.get? id = some action ∧
        action.status ≠ .proposed ∧
        action.effect? = some .requireApproval
  /-- An action has at most one approval. -/
  once : ∀ key approval other another,
    scene.world.ledger.approvals.get? key = some approval →
      scene.world.ledger.approvals.get? other = some another →
        approval.actionID = another.actionID → key = other
  granted : ∀ id, Granted config scene.marks id → ∃ key approval,
    scene.world.ledger.approvals.get? key = some approval ∧
      approval.actionID = some id ∧ approval.status = .approved
  drafted : ∀ thread, Drafted scene.world.ledger (scene.views thread)
  seen : ∀ thread, Seen (Granted config scene.marks) scene.world.ledger
    (scene.views thread)
  /-- No two operations draft the same action. -/
  apart : ∀ thread other draft another,
    (scene.views thread).draft = some draft →
      (scene.views other).draft = some another →
        draft.id = another.id → thread = other

/-! ## What a step of another operation may change -/

/-- How the ledger evolves under a call of an operation that drafts the
actions in `mine`. -/
structure Evolves (mine : String → Prop) (before after : Ledger) : Prop where
  action : ∀ id action, before.actions.get? id = some action → ∃ new,
    after.actions.get? id = some new ∧ Alike action new ∧
      (action.status ≠ .proposed →
        new.status ≠ .proposed ∧ new.decision = action.decision)
  undecided : ∀ id action, before.actions.get? id = some action →
    action.status = .proposed → ¬ mine id →
      after.actions.get? id = some action
  approval : ∀ key approval, before.approvals.get? key = some approval →
    approval.status ≠ .pending → after.approvals.get? key = some approval
  asked : ∀ key approval, after.approvals.get? key = some approval →
    (∃ id, approval.actionID = some id ∧ mine id) ∨
      ∃ old, before.approvals.get? key = some old ∧
        approval.actionID = old.actionID

theorem Alike.symm {old new : TxnAction} (alike : Alike old new) :
    Alike new old :=
  ⟨alike.id.symm, alike.orgID.symm, alike.transactionID.symm,
    alike.tool.symm, alike.action.symm, alike.arguments.symm,
    alike.argumentsHash.symm, alike.amountCents.symm⟩

variable {action : TxnAction}

section Stability

variable {granted wider : String → Prop} {mine : String → Prop}
  {before after : Ledger} {view : View}

theorem Cleared.mono (cleared : Cleared granted action)
    (grows : ∀ id, granted id → wider id) : Cleared wider action :=
  { cleared with
    passed := fun decided waited effect =>
      grows _ (cleared.passed decided waited effect) }

theorem Drafted.stable (drafted : Drafted before view)
    (evolves : Evolves mine before after)
    (foreign : ∀ draft, view.draft = some draft → ¬ mine draft.id) :
    Drafted after view where
  record := by
    intro draft drafting
    obtain ⟨action, present, decision, agrees⟩ :=
      drafted.record draft drafting
    by_cases undecided : action.status = .proposed
    · exact ⟨action, evolves.undecided _ action present undecided
        (foreign draft drafting), decision, agrees⟩
    · obtain ⟨new, found, _, kept⟩ := evolves.action _ action present
      obtain ⟨still, same⟩ := kept undecided
      exact ⟨new, found, same.trans decision,
        iff_of_false still fun unset => undecided (agrees.mpr unset)⟩
  placed := drafted.placed
  unasked := by
    intro draft drafting unasked key approval stored about
    rcases evolves.asked key approval stored with
      ⟨id, named, own⟩ | ⟨old, present, same⟩
    · rw [about, Option.some.injEq] at named
      exact foreign draft drafting (named ▸ own)
    · exact drafted.unasked draft drafting unasked key old present
        (same.symm.trans about)

theorem Seen.stable (seen : Seen granted before view)
    (evolves : Evolves mine before after)
    (grows : ∀ id, granted id → wider id) : Seen wider after view where
  exclusive := seen.exclusive
  cleared held holding := (seen.cleared held holding).mono grows
  record := by
    intro held holding
    obtain ⟨action, present, alike, decided⟩ := seen.record held holding
    obtain ⟨new, found, newAlike, kept⟩ := evolves.action _ action present
    refine ⟨new, found, alike.trans newAlike, fun status => ?_⟩
    obtain ⟨still, decision⟩ := decided status
    obtain ⟨newStill, newDecision⟩ := kept still
    exact ⟨newStill, newDecision.trans decision⟩
  decided := by
    intro approval decided
    obtain ⟨present, done⟩ := seen.decided approval decided
    exact ⟨evolves.approval _ approval present done, done⟩
  granted approval id decided approved about :=
    grows id (seen.granted approval id decided approved about)
  deciding := seen.deciding

end Stability

/-! ## What a permitted call does -/

section Steps

variable {config : Config} {granted mine : String → Prop} {intent : Intent}
  {view : View} {request : Call} {env : Env} {world : World}

/-- What an operation writes back keeps the decision of its copy, and the
status it writes is cleared. -/
theorem Seen.rewrites {ledger : Ledger} (seen : Seen granted ledger view)
    (forward : intent.Forward) {held : Held}
    (holding : view.held = some held)
    (rewrites : Rewrites intent view held action) :
    Revises held.record action ∧ held.record.status ≠ .proposed ∧
      action.status ≠ .proposed ∧ Cleared granted action := by
  have cleared := seen.cleared held holding
  -- A run or a reconciliation starts from a status that was cleared already.
  have ended (revises : Revises held.record action) (live : Live held.record)
      (written : action.status = .executed ∨ action.status = .failed ∨
        action.status = .unknown) :
      Revises held.record action ∧ held.record.status ≠ .proposed ∧
        action.status ≠ .proposed ∧ Cleared granted action := by
    have decided : held.record.status ≠ .proposed := by
      rcases live with (⟨status, _⟩ | status) | status <;> simp [status]
    refine ⟨revises, decided, ?_, ?_, ?_, ?_⟩
    · rcases written with status | status | status <;> simp [status]
    · rcases written with status | status | status <;> simp [status]
    · rcases written with status | status | status <;> simp [status]
    · intro _ _ effect
      rw [TxnAction.effect?, revises.decision] at effect
      rw [revises.alike.id]
      exact cleared.passed decided live.not_waiting effect
  cases rewrites with
  | ran orgID actionID outcome action executes runnable dispatched revises
      status =>
      refine ended revises (Or.inl runnable) ?_
      rw [status]
      rcases outcome with (reason | reason) | result <;> simp [statusOf]
  | settled orgID actionID answer action reconciles uncertain answered revises
      status =>
      refine ended revises (Or.inr uncertain) ?_
      rw [status]
      cases answer <;> simp [settledStatus]
  | granted orgID approvalID approval decides decided approved about =>
      obtain ⟨proposed, effect⟩ :=
        seen.deciding approval held decided holding about
      have permitted := seen.granted approval _ decided approved about
      exact ⟨rfl, proposed, by simp, by simp, fun _ => effect,
        fun _ _ _ => permitted⟩
  | undone orgID txnID txn scan listed status compensates =>
      exact absurd compensates (forward.uncompensated orgID txnID)

/-- The first status of an action is cleared by its decision. -/
theorem Cleared.placed {decision : PolicyDecision}
    (decided : action.decision = some decision) :
    Cleared granted
      { action with status := initialStatus decision.effect } := by
  constructor <;>
    cases effect : decision.effect <;>
    simp [TxnAction.effect?, initialStatus, decided, effect]

/-- How a permitted call makes the ledger evolve. -/
theorem evolves_exec
    (keyed : world.ledger.WellKeyed) (admissible : Admissible world env)
    (forward : intent.Forward) (may : May intent view request)
    (drafted : Drafted world.ledger view)
    (seen : Seen granted world.ledger view) :
    Evolves (fun id => ∃ draft, view.draft = some draft ∧ draft.id = id)
      world.ledger (exec config request env world).2.ledger where
  action := by
    intro id action present
    have write := actionWrite config keyed admissible may id
    rw [present] at write
    cases write with
    | kept same => exact ⟨action, same, Alike.refl action, fun set => ⟨set, rfl⟩⟩
    | added _ _ _ absent => simp at absent
    | decided draft old decision drafting named undecided found written =>
        cases found
        obtain ⟨stored, storedAt, _, agrees⟩ := drafted.record draft drafting
        rw [named, present, Option.some.injEq] at storedAt
        subst storedAt
        exact ⟨_, written, ⟨rfl, rfl, rfl, rfl, rfl, rfl, rfl, rfl⟩,
          fun set => absurd (agrees.mpr undecided) set⟩
    | placed draft old decision drafting named undecided known found written =>
        cases found
        exact ⟨_, written, ⟨rfl, rfl, rfl, rfl, rfl, rfl, rfl, rfl⟩,
          fun _ => ⟨initialStatus_ne_proposed _, rfl⟩⟩
    | rewritten held old new holding unstored rewrites named found written =>
        cases found
        obtain ⟨revises, decided, still, _⟩ :=
          seen.rewrites forward holding rewrites
        obtain ⟨stored, storedAt, alike, kept⟩ := seen.record held holding
        rw [← revises.alike.id, named, present, Option.some.injEq] at storedAt
        subst storedAt
        exact ⟨new, written, alike.symm.trans revises.alike,
          fun _ => ⟨still, revises.decision.trans (kept decided).2.symm⟩⟩
  undecided := by
    intro id action present proposed foreign
    have write := actionWrite config keyed admissible may id
    rw [present] at write
    cases write with
    | kept same => exact same
    | added _ _ _ absent => simp at absent
    | decided draft old decision drafting named =>
        exact absurd ⟨draft, drafting, named⟩ foreign
    | placed draft old decision drafting named =>
        exact absurd ⟨draft, drafting, named⟩ foreign
    | rewritten held old new holding unstored rewrites named found =>
        cases found
        obtain ⟨revises, decided, _, _⟩ :=
          seen.rewrites forward holding rewrites
        obtain ⟨stored, storedAt, _, kept⟩ := seen.record held holding
        rw [← revises.alike.id, named, present, Option.some.injEq] at storedAt
        subst storedAt
        exact absurd proposed (kept decided).1
  approval := by
    intro key approval present done
    have write := approvalWrite config admissible may key
    rw [present] at write
    cases write with
    | kept same => exact same
    | created _ _ _ absent => simp at absent
    | decided old orgID decidedBy approve decides found sameOrg pending =>
        cases found
        exact absurd pending done
  asked := by
    intro key approval stored
    have write := approvalWrite config admissible may key
    rw [stored] at write
    cases write with
    | kept same => exact Or.inr ⟨approval, same.symm, rfl⟩
    | created new created named absent written =>
        cases written
        obtain ⟨draft, drafting, about, _⟩ := created
        exact Or.inl ⟨draft.id, about, draft, drafting, rfl⟩
    | decided old orgID decidedBy approve decides found sameOrg pending
        written =>
        cases written
        exact Or.inr ⟨old, found, rfl⟩

/-- What holds of the one draft of a view holds of its drafts. -/
theorem Drafted.of_draft {ledger : Ledger} {draft : Draft}
    (drafting : view.draft = some draft)
    (record : ∃ action, ledger.actions.get? draft.id = some action ∧
      action.decision = draft.decision ∧
      (action.status = .proposed ↔ draft.status = none))
    (placed : ∀ status, draft.status = some status → ∃ decision,
      draft.decision = some decision ∧ status = initialStatus decision.effect)
    (unasked : draft.asked = false → ∀ key approval,
      ledger.approvals.get? key = some approval →
        approval.actionID ≠ some draft.id) :
    Drafted ledger view := by
  constructor
  · intro other equal
    cases drafting.symm.trans equal
    exact record
  · intro other status equal
    cases drafting.symm.trans equal
    exact placed status
  · intro other equal
    cases drafting.symm.trans equal
    exact unasked

/-- A call keeps what holds of the operation's own draft. -/
theorem Drafted.learn
    (keyed : world.ledger.WellKeyed) (admissible : Admissible world env)
    (may : May intent view request) (drafted : Drafted world.ledger view)
    (exclusive : view.draft = none ∨ view.held = none ∧ view.decided = none)
    (known : ∀ key approval id,
      world.ledger.approvals.get? key = some approval →
        approval.actionID = some id → world.ledger.actions.get? id ≠ none) :
    Drafted (exec config request env world).2.ledger
      (view.learn request (exec config request env world).1) := by
  have unchanged {next : View} {ledger : Ledger}
      (same : next.draft = view.draft)
      (actions : ∀ id, ledger.actions.get? id = world.ledger.actions.get? id)
      (approvals : ledger.approvals = world.ledger.approvals) :
      Drafted ledger next := by
    constructor
    · intro draft drafting
      rw [actions]
      exact drafted.record draft (same.symm.trans drafting)
    · intro draft status drafting
      exact drafted.placed draft status (same.symm.trans drafting)
    · intro draft drafting
      rw [approvals]
      exact drafted.unasked draft (same.symm.trans drafting)
  have undrafted {next : View} {ledger : Ledger} (none : next.draft = none) :
      Drafted ledger next := by
    constructor <;> simp [none]
  cases request with
  | addAction action =>
      change Drafted (world.ledger.addAction config.runtime.hashing env.uid
        env.now action).2 (view.learn (.addAction action)
          (world.ledger.addAction config.runtime.hashing env.uid env.now
            action).1)
      cases found : world.ledger.byIdem? (Ledger.keyOf action) with
      | some previous =>
          rw [Ledger.addAction_of_duplicate env.uid env.now found]
          exact drafted
      | none =>
          rw [Ledger.addAction_of_new env.uid env.now found]
          obtain ⟨_, _, _, _, proposed, undecided, _⟩ := may
          refine Drafted.of_draft rfl ⟨_, Table.get?_set_self _ _ _, undecided,
            by simp [Ledger.newAction, proposed]⟩ (by simp) ?_
          -- An approval about the new action would be about a stored one.
          intro _ key approval present about
          exact known key approval _ present about admissible.1.action
  | setStoredDecision id decision =>
      obtain ⟨draft, drafting, rfl, undecided⟩ := may
      obtain ⟨action, present, _, agrees⟩ := drafted.record draft drafting
      change Drafted (world.ledger.modifyStored draft.id _) _
      rw [Ledger.modifyStored_of_present _ present]
      refine Drafted.of_draft (congrArg (Option.map _) drafting)
        ⟨_, Table.get?_set_self _ _ _, rfl, agrees⟩ (by simp [undecided])
        (drafted.unasked draft drafting)
  | setStoredStatus id status =>
      obtain ⟨draft, decision, drafting, rfl, undecided, decided, rfl⟩ := may
      obtain ⟨action, present, same, _⟩ := drafted.record draft drafting
      change Drafted (world.ledger.modifyStored draft.id _) _
      rw [Ledger.modifyStored_of_present _ present]
      refine Drafted.of_draft (congrArg (Option.map _) drafting)
        ⟨_, Table.get?_set_self _ _ _, same,
          iff_of_false (initialStatus_ne_proposed _) (by simp)⟩ ?_
        (drafted.unasked draft drafting)
      intro status set
      cases set
      exact ⟨decision, decided, rfl⟩
  | createApproval approval =>
      obtain ⟨draft, drafting, _⟩ := may
      exact Drafted.of_draft (congrArg (Option.map _) drafting)
        (drafted.record draft drafting)
        (fun status => drafted.placed draft status drafting) (by simp)
  | updateAction action =>
      obtain ⟨held, holding, _⟩ := may
      refine undrafted (exclusive.resolve_right fun alone => ?_)
      simp [alone.1] at holding
  | updateStored id =>
      exact unchanged rfl (Ledger.get?_updateStored keyed id)
        (world.ledger.updateStored_frame id).2.1
  | getAction orgID id => exact undrafted may.1
  | decideApproval orgID id decidedBy approve => exact undrafted may.2.2.2
  | reconcile reconciler action =>
      refine unchanged ?_ (fun _ => rfl) rfl
      generalize (exec config (.reconcile reconciler action) env world).1 =
        reply
      cases reply <;> rfl
  | _ =>
      refine unchanged rfl (fun id => ?_)
        (approvals_exec (by simp [Call.WritesApprovals]))
      rw [actions_exec (by simp [Call.WritesActions])]

/-- Notes on the copy in hand change nothing of what holds of it. -/
theorem Seen.noted {ledger : Ledger} {next : View}
    (seen : Seen granted ledger view) (note : Held → Held)
    (same : ∀ held, (note held).record = held.record)
    (draft : next.draft = none ↔ view.draft = none)
    (held : next.held = view.held.map note)
    (decided : next.decided = view.decided) : Seen granted ledger next := by
  -- Whatever the next view holds is a copy of the view before.
  have earlier {copy : Held} (holding : next.held = some copy) :
      ∃ old, view.held = some old ∧ copy.record = old.record := by
    rw [held, Option.map_eq_some_iff] at holding
    obtain ⟨old, oldHolding, rfl⟩ := holding
    exact ⟨old, oldHolding, same old⟩
  constructor
  · rw [draft, held, decided, Option.map_eq_none_iff]
    exact seen.exclusive
  · intro copy holding
    obtain ⟨old, oldHolding, equal⟩ := earlier holding
    exact equal ▸ seen.cleared old oldHolding
  · intro copy holding
    obtain ⟨old, oldHolding, equal⟩ := earlier holding
    exact equal ▸ seen.record old oldHolding
  · rw [decided]
    exact seen.decided
  · rw [decided]
    exact seen.granted
  · intro approval copy decided' holding
    obtain ⟨old, oldHolding, equal⟩ := earlier holding
    exact equal ▸ seen.deciding approval old (decided ▸ decided') oldHolding

/-- A call keeps what holds of the operation's own copies. -/
theorem Seen.learn (keyed : world.ledger.WellKeyed)
    (cleared : ∀ id action, world.ledger.actions.get? id = some action →
      Cleared granted action)
    (requested : ∀ key approval,
      world.ledger.approvals.get? key = some approval → ∃ id action,
        approval.actionID = some id ∧
          world.ledger.actions.get? id = some action ∧
          action.status ≠ .proposed ∧
          action.effect? = some .requireApproval)
    (may : May intent view request) (seen : Seen granted world.ledger view)
    (evolves : Evolves mine world.ledger
      (exec config request env world).2.ledger) :
    Seen (fun id => granted id ∨ Grants config request env world id)
      (exec config request env world).2.ledger
      (view.learn request (exec config request env world).1) := by
  have later : Seen (fun id => granted id ∨
      Grants config request env world id)
      (exec config request env world).2.ledger view :=
    seen.stable evolves fun _ => Or.inl
  cases request with
  | getAction orgID id =>
      change Seen _ world.ledger { view with
        held := (world.ledger.getAction orgID id).map fun record =>
          { record := record } }
      cases found : world.ledger.getAction orgID id with
      | none =>
          exact { later with
            exclusive := Or.inl may.1
            cleared := by simp, record := by simp, deciding := by simp }
      | some action =>
          have present := (Ledger.getAction_eq_some.mp found).1
          have own := keyed.action id action present
          refine { later with
            exclusive := Or.inl may.1, cleared := ?_, record := ?_
            deciding := ?_ }
          · rintro held holding
            cases holding
            exact (cleared id action present).mono fun _ => Or.inl
          · rintro held holding
            cases holding
            exact ⟨action, own ▸ present, Alike.refl action,
              fun set => ⟨set, rfl⟩⟩
          · rintro approval held decided holding about
            cases holding
            obtain ⟨named, stored, about', storedAt, set, effect⟩ :=
              requested _ approval (seen.decided approval decided).1
            rw [about, Option.some.injEq] at about'
            rw [← about', own, present, Option.some.injEq] at storedAt
            exact storedAt ▸ ⟨set, effect⟩
  | decideApproval orgID id decidedBy approve =>
      obtain ⟨_, _, unheld, undrafted⟩ := may
      change Seen _ (world.ledger.decideApproval env.now orgID id decidedBy
        approve).2 { view with decided := (world.ledger.decideApproval env.now
          orgID id decidedBy approve).1 }
      cases found : (world.ledger.decideApproval env.now orgID id decidedBy
          approve).1 with
      | none =>
          exact { later with
            exclusive := Or.inl undrafted
            decided := by simp, granted := by simp, deciding := by simp }
      | some approval =>
          obtain ⟨old, present, _, _, rfl, written⟩ :=
            Ledger.decideApproval_of_some found
          refine { later with
            exclusive := Or.inl undrafted, decided := ?_, granted := ?_
            deciding := by simp [unheld] }
          · rintro approval decided
            cases decided
            have own : old.id = id := keyed.approval id old present
            rw [written]
            refine ⟨own ▸ Table.get?_set_self world.ledger.approvals _ _, ?_⟩
            cases approve <;> simp [Ledger.decided]
          · rintro approval actionID decided approved about
            cases decided
            cases approve with
            | false => simp [Ledger.decided] at approved
            | true =>
                exact Or.inr ⟨orgID, id, decidedBy, _, rfl, found, about⟩
  | addAction action =>
      obtain ⟨_, _, unheld, undecided, _⟩ := may
      simp only [View.learn]
      split
      · exact later
      · exact { later with exclusive := Or.inr ⟨unheld, undecided⟩ }
  | reconcile reconciler action =>
      generalize (exec config (.reconcile reconciler action) env world).1 =
        reply
      cases reply with
      | error error => exact later
      | ok answer =>
          exact later.noted (fun held => { held with answer := some answer })
            (fun _ => rfl) Iff.rfl rfl rfl
  | updateAction action =>
      exact later.noted (fun held => { held with stored := some action })
        (fun _ => rfl) Iff.rfl rfl rfl
  | appendReceipt receipt =>
      exact later.noted (fun held => { held with attested := true })
        (fun _ => rfl) Iff.rfl rfl rfl
  | execute action =>
      exact later.noted (fun held => { held with outcome := some _ })
        (fun _ => rfl) Iff.rfl rfl rfl
  | _ =>
      exact later.noted id (fun _ => rfl) (by simp [View.learn])
        (by simp [View.learn]) rfl

end Steps

/-! ## Interleaved runs keep the link -/

/-- No action has been proposed yet. -/
structure World.Unproposed (world : World) : Prop where
  keyed : world.ledger.WellKeyed
  actions : world.ledger.actions = ∅
  byIdem : world.ledger.byIdem = ∅
  approvals : world.ledger.approvals = ∅

theorem World.Unproposed.of_initial {world : World}
    (initial : world.Initial) : world.Unproposed := by
  have empty : world.ledger = Ledger.empty := initial
  constructor
  · rw [empty]
    exact Ledger.wellKeyed_empty
  all_goals
    rw [empty]
    rfl

/-- Every action has its transaction, and so has what the operations have read
of one. -/
structure Housed (scene : Scene) : Prop where
  owned : ∀ id action, scene.world.ledger.actions.get? id = some action →
    scene.world.ledger.Homes action.transactionID action.orgID
  read : ∀ thread txn, (scene.views thread).txn = some txn →
    scene.world.ledger.Homes txn.id txn.orgID

namespace Housed

theorem start {world : World} (unproposed : world.ledger.actions = ∅) :
    Housed (Scene.start world) := by
  constructor <;> simp [Scene.start, unproposed]

theorem step {config : Config} {scene : Scene} {intent : Intent} {thread : Nat}
    {request : Call} {env : Env} (housed : Housed scene)
    (keyed : scene.world.ledger.WellKeyed)
    (admissible : Admissible scene.world env)
    (may : May intent (scene.views thread) request)
    (kept : ∀ id old, scene.world.ledger.actions.get? id = some old →
      ∃ new, (exec config request env scene.world).2.ledger.actions.get? id =
          some new ∧
        new.transactionID = old.transactionID ∧ new.orgID = old.orgID) :
    Housed (scene.next config thread request env) := by
  constructor
  · intro id action present
    cases before : scene.world.ledger.actions.get? id with
    | none =>
        exact homes_added config keyed admissible may (housed.read thread)
          before present
    | some old =>
        obtain ⟨new, found, txnID, orgID⟩ := kept id old before
        obtain rfl := Option.some.inj (found.symm.trans present)
        rw [txnID, orgID]
        exact homes_exec config admissible may (housed.owned id old before)
  · intro other txn read
    by_cases same : other = thread
    · subst same
      rw [Scene.views_next_self] at read
      exact homes_learn config keyed admissible may (housed.read other) txn read
    · rw [scene.views_next_of_ne config request env same] at read
      exact homes_exec config admissible may (housed.read other txn read)

end Housed

namespace Linked

variable {config : Config} {scene : Scene} {intent : Intent}
  {mine : String → Prop}
  {thread : Nat} {request : Call} {env : Env}

theorem start_unproposed {world : World} (unproposed : world.Unproposed) :
    Linked config (Scene.start world) := by
  obtain ⟨keyed, actions, _, approvals⟩ := unproposed
  constructor
  case keyed => exact keyed
  case drafted => intro thread; constructor <;> simp [Scene.start]
  case seen => intro thread; constructor <;> simp [Scene.start]
  case granted => rintro id ⟨mark, made, _⟩; simp [Scene.start] at made
  all_goals simp [Scene.start, actions, approvals]

theorem start {world : World} (initial : world.Initial) :
    Linked config (Scene.start world) :=
  start_unproposed (.of_initial initial)

section Next

variable (linked : Linked config scene)
  (admissible : Admissible scene.world env) (forward : intent.Forward)
  (may : May intent (scene.views thread) request)

include linked admissible forward may

theorem evolves :
    Evolves (fun id => ∃ draft,
        (scene.views thread).draft = some draft ∧ draft.id = id)
      scene.world.ledger (exec config request env scene.world).2.ledger :=
  evolves_exec linked.keyed admissible forward may (linked.drafted thread)
    (linked.seen thread)

/-- The records of the ledger are cleared after a permitted call. -/
theorem cleared_next (id : String) (action : TxnAction)
    (present : (exec config request env scene.world).2.ledger.actions.get?
      id = some action) :
    Cleared (Granted config scene.marks) action := by
  have write := actionWrite config linked.keyed admissible may id
  rw [present] at write
  cases write with
  | kept same => exact linked.cleared id action same.symm
  | added new added named absent written =>
      cases written
      obtain ⟨_, _, _, _, proposed, _⟩ := added
      constructor <;> simp [Ledger.newAction, proposed]
  | decided draft old decision drafting named undecided found written =>
      cases written
      obtain ⟨stored, storedAt, _, agrees⟩ :=
        (linked.drafted thread).record draft drafting
      rw [named, found, Option.some.injEq] at storedAt
      subst storedAt
      have proposed := agrees.mpr undecided
      constructor <;> simp [proposed]
  | placed draft old decision drafting named undecided known found written =>
      cases written
      obtain ⟨stored, storedAt, same, _⟩ :=
        (linked.drafted thread).record draft drafting
      rw [named, found, Option.some.injEq] at storedAt
      subst storedAt
      exact Cleared.placed (same.trans known)
  | rewritten held old new holding unstored rewrites named found written =>
      cases written
      exact ((linked.seen thread).rewrites forward holding rewrites).2.2.2

omit admissible forward may in
/-- A new approval is about an action that waits for one. -/
theorem asks {approval : Approval}
    (may : May intent (scene.views thread) (.createApproval approval)) :
    ∃ draft action, (scene.views thread).draft = some draft ∧
      draft.asked = false ∧ approval.actionID = some draft.id ∧
      scene.world.ledger.actions.get? draft.id = some action ∧
      action.status ≠ .proposed ∧
      action.effect? = some .requireApproval := by
  obtain ⟨draft, drafting, about, _, _, waiting, unasked⟩ := may
  obtain ⟨action, present, same, agrees⟩ :=
    (linked.drafted thread).record draft drafting
  obtain ⟨decision, decided, placed⟩ :=
    (linked.drafted thread).placed draft _ drafting waiting
  refine ⟨draft, action, drafting, unasked, about, present, ?_, ?_⟩
  · rw [Ne, agrees, waiting]
    simp
  · rw [TxnAction.effect?, same, decided]
    cases effect : decision.effect <;>
      simp [effect, initialStatus] at placed ⊢

omit forward in
theorem requested_next
    (evolves : Evolves mine scene.world.ledger
      (exec config request env scene.world).2.ledger)
    (key : String) (approval : Approval)
    (present : (exec config request env scene.world).2.ledger.approvals.get?
      key = some approval) :
    ∃ id action, approval.actionID = some id ∧
      (exec config request env scene.world).2.ledger.actions.get? id =
        some action ∧
      action.status ≠ .proposed ∧
      action.effect? = some .requireApproval := by
  -- The action is stored before the call, and the call keeps its decision.
  have kept {id : String} {action : TxnAction}
      (stored : scene.world.ledger.actions.get? id = some action)
      (set : action.status ≠ .proposed)
      (effect : action.effect? = some .requireApproval) :
      ∃ new, (exec config request env scene.world).2.ledger.actions.get? id =
          some new ∧
        new.status ≠ .proposed ∧ new.effect? = some .requireApproval := by
    obtain ⟨new, found, _, same⟩ := evolves.action id action stored
    obtain ⟨still, decision⟩ := same set
    refine ⟨new, found, still, ?_⟩
    rw [TxnAction.effect?, decision]
    exact effect
  have write := approvalWrite config admissible may key
  rw [present] at write
  cases write with
  | kept same =>
      obtain ⟨id, action, about, stored, set, effect⟩ :=
        linked.requested key approval same.symm
      exact ⟨id, _, about, (kept stored set effect).choose_spec⟩
  | created new created named absent written =>
      cases written
      obtain ⟨draft, action, _, _, about, stored, set, effect⟩ :=
        linked.asks created
      exact ⟨draft.id, _, about, (kept stored set effect).choose_spec⟩
  | decided old orgID decidedBy approve decides found sameOrg pending
      written =>
      cases written
      obtain ⟨id, action, about, stored, set, effect⟩ :=
        linked.requested key old found
      exact ⟨id, _, about, (kept stored set effect).choose_spec⟩

omit forward in
/-- Where an approval comes from: it was stored before, about the same
action, or it is the new one about a draft that nobody has asked for. -/
theorem origin {key : String} {approval : Approval}
    (present : (exec config request env scene.world).2.ledger.approvals.get?
      key = some approval) :
    (∃ old, scene.world.ledger.approvals.get? key = some old ∧
        approval.actionID = old.actionID) ∨
      key = env.uid ∧ ∀ other another,
        scene.world.ledger.approvals.get? other = some another →
          another.actionID ≠ approval.actionID := by
  have write := approvalWrite config admissible may key
  rw [present] at write
  cases write with
  | kept same => exact Or.inl ⟨approval, same.symm, rfl⟩
  | created new created named absent written =>
      cases written
      obtain ⟨draft, action, drafting, unasked, about, _⟩ :=
        linked.asks created
      refine Or.inr ⟨named.symm, fun other another stored => ?_⟩
      rw [about]
      exact (linked.drafted thread).unasked draft drafting unasked other
        another stored
  | decided old orgID decidedBy approve decides found sameOrg pending
      written =>
      cases written
      exact Or.inl ⟨old, found, rfl⟩

omit forward in
theorem once_next
    (key : String) (approval : Approval) (other : String) (another : Approval)
    (left : (exec config request env scene.world).2.ledger.approvals.get?
      key = some approval)
    (right : (exec config request env scene.world).2.ledger.approvals.get?
      other = some another)
    (about : approval.actionID = another.actionID) : key = other := by
  rcases linked.origin admissible may left with
    ⟨old, present, same⟩ | ⟨named, new⟩
  · rcases linked.origin admissible may right with
      ⟨older, present', same'⟩ | ⟨_, new'⟩
    · exact linked.once key old other older present present'
        (same.symm.trans (about.trans same'))
    · exact absurd (same.symm.trans about) (new' key old present)
  · rcases linked.origin admissible may right with
      ⟨older, present', same'⟩ | ⟨named', _⟩
    · exact absurd (same'.symm.trans about.symm) (new other older present')
    · exact named.trans named'.symm

omit admissible forward may in
/-- A granted approval stays granted, and a call that grants one stores
it. -/
theorem granted_next
    (evolves : Evolves mine scene.world.ledger
      (exec config request env scene.world).2.ledger) (id : String)
    (granted : Granted config scene.marks id ∨
      Grants config request env scene.world id) :
    ∃ key approval,
      (exec config request env scene.world).2.ledger.approvals.get? key =
        some approval ∧
      approval.actionID = some id ∧ approval.status = .approved := by
  rcases granted with earlier | ⟨orgID, key, decidedBy, approval, rfl, done,
    about⟩
  · obtain ⟨key, approval, present, about, approved⟩ :=
      linked.granted id earlier
    exact ⟨key, approval,
      evolves.approval key approval present (by simp [approved]), about,
      approved⟩
  · obtain ⟨old, present, _, _, rfl, written⟩ :=
      Ledger.decideApproval_of_some done
    refine ⟨key, _, ?_, about, rfl⟩
    change (scene.world.ledger.decideApproval env.now orgID key decidedBy
      true).2.approvals.get? key = _
    rw [written]
    exact Table.get?_set_self _ _ _

omit forward may in
/-- No other operation drafts the action that this one drafts after the
call. -/
theorem apart_learn {other : Nat} {draft another : Draft}
    (drafting : ((scene.views thread).learn request
      (exec config request env scene.world).1).draft = some draft)
    (theirs : (scene.views other).draft = some another)
    (same : draft.id = another.id) : thread = other := by
  rcases View.draft_learn drafting with
    ⟨old, oldDrafting, named, _⟩ | adds
  · exact linked.apart thread other old another oldDrafting theirs
      (named.symm.trans same)
  · obtain ⟨stored, present, _⟩ :=
      (linked.drafted other).record another theirs
    obtain ⟨action, rfl⟩ : ∃ action, request = .addAction action :=
      ⟨draft.proposal, adds⟩
    change (View.learn _ (.addAction action)
      (scene.world.ledger.addAction config.runtime.hashing env.uid env.now
        action).1).draft = _ at drafting
    cases found : scene.world.ledger.byIdem? (Ledger.keyOf action) with
    | some previous =>
        rw [Ledger.addAction_of_duplicate env.uid env.now found] at drafting
        exact linked.apart thread other draft another drafting theirs same
    | none =>
        -- The new identifier is fresh, and the other draft is stored.
        rw [Ledger.addAction_of_new env.uid env.now found] at drafting
        cases drafting
        rw [← same] at present
        exact absurd present (by
          simp only [Ledger.newAction]
          rw [admissible.1.action]
          simp)

theorem step :
    Linked config (scene.next config thread request env) := by
  have evolves := linked.evolves admissible forward may
  have grantedNext : Granted config
      (scene.next config thread request env).marks = fun id =>
        Granted config scene.marks id ∨
          Grants config request env scene.world id :=
    funext fun _ => propext granted_append
  constructor
  · exact wellKeyed_exec request linked.keyed
  · intro id action present
    rw [grantedNext]
    exact (linked.cleared_next admissible forward may id action present).mono
      fun _ => Or.inl
  · exact linked.requested_next admissible may evolves
  · exact linked.once_next admissible may
  · intro id granted
    rw [grantedNext] at granted
    exact linked.granted_next evolves id granted
  · intro other
    by_cases same : other = thread
    · subst same
      simp only [Scene.next, Function.update_self]
      refine (linked.drafted other).learn linked.keyed admissible may
        (linked.seen other).exclusive ?_
      intro key approval id present about absent
      obtain ⟨named, action, about', stored, _⟩ :=
        linked.requested key approval present
      rw [about, Option.some.injEq] at about'
      rw [← about', absent] at stored
      simp at stored
    · simp only [Scene.next, Function.update_of_ne same]
      refine (linked.drafted other).stable evolves ?_
      rintro draft drafting ⟨mine, drafting', named⟩
      exact same (linked.apart other thread draft mine drafting drafting'
        named.symm)
  · intro other
    rw [grantedNext]
    by_cases same : other = thread
    · subst same
      simp only [Scene.next, Function.update_self]
      exact (linked.seen other).learn linked.keyed linked.cleared
        linked.requested may evolves
    · simp only [Scene.next, Function.update_of_ne same]
      exact (linked.seen other).stable evolves fun _ => Or.inl
  · intro left right draft another drafting drafting' named
    by_cases first : left = thread
    · subst first
      by_cases second : right = left
      · exact second.symm
      · simp only [Scene.next, Function.update_self,
          Function.update_of_ne second] at drafting drafting'
        exact linked.apart_learn admissible drafting drafting' named
    · by_cases second : right = thread
      · subst second
        simp only [Scene.next, Function.update_self,
          Function.update_of_ne first] at drafting drafting'
        exact (linked.apart_learn admissible drafting' drafting
          named.symm).symm
      · simp only [Scene.next, Function.update_of_ne first,
          Function.update_of_ne second] at drafting drafting'
        exact linked.apart left right draft another drafting drafting' named

end Next

/-- A copy that an operation may run was allowed, or it was granted; and its
record has the same decision. -/
theorem runnable (linked : Linked config scene) {held : Held}
    (holding : (scene.views thread).held = some held)
    (runnable : Runnable held.record) :
    (∃ decision, held.record.decision = some decision ∧
      (decision.effect = .allow ∨ decision.effect = .allowWithConstraints ∨
        decision.effect = .requireApproval ∧
          Granted config scene.marks held.record.id)) ∧
    ∃ stored, scene.world.ledger.actions.get? held.record.id = some stored ∧
      stored.decision = held.record.decision := by
  have set : held.record.status ≠ .proposed := by
    rcases runnable with ⟨status, _⟩ | status <;> simp [status]
  constructor
  · rcases runnable with ⟨_, permitted⟩ | approved
    · cases decided : held.record.decision with
      | none => simp [Gateway.decisionPermits, decided] at permitted
      | some decision =>
          refine ⟨decision, rfl, ?_⟩
          simp only [Gateway.decisionPermits, decided,
            Option.any_some] at permitted
          cases effect : decision.effect <;>
            simp [effect, Gateway.permits] at permitted ⊢
    · have cleared := (linked.seen thread).cleared held holding
      have effect := cleared.approved approved
      have granted := cleared.passed set (by simp [approved]) effect
      obtain ⟨decision, decided, equal⟩ := Option.map_eq_some_iff.mp effect
      exact ⟨decision, decided, Or.inr (Or.inr ⟨equal, granted⟩)⟩
  · obtain ⟨stored, present, _, kept⟩ := (linked.seen thread).record held holding
    exact ⟨stored, present, (kept set).2⟩

/-- All approvals of an action that was allowed or granted are approved. -/
theorem approvals_approved
    (linked : Linked config scene) {id : String} {stored : TxnAction}
    {decision : PolicyDecision}
    (present : scene.world.ledger.actions.get? id = some stored)
    (decided : stored.decision = some decision)
    (cleared : decision.effect = .requireApproval →
      Granted config scene.marks id) {key : String} {approval : Approval}
    (approvalAt : scene.world.ledger.approvals.get? key = some approval)
    (about : approval.actionID = some id) : approval.status = .approved := by
  obtain ⟨named, action, about', found, _, effect⟩ :=
    linked.requested key approval approvalAt
  rw [about, Option.some.injEq] at about'
  rw [← about', present, Option.some.injEq] at found
  subst found
  simp only [TxnAction.effect?, decided, Option.map_some,
    Option.some.injEq] at effect
  obtain ⟨grantedKey, granted, grantedAt, grantedAbout, approved⟩ :=
    linked.granted id (cleared effect)
  have same := linked.once key approval grantedKey granted approvalAt grantedAt
    (about.trans grantedAbout.symm)
  rw [← same, approvalAt, Option.some.injEq] at grantedAt
  exact grantedAt ▸ approved

end Linked

section Interleaved

variable {config : Config} {world : World} {operations : Nat → Operation}
  {schedule : List (Nat × Env)}

/-- Interleaved runs keep records and copies linked. -/
theorem linked_interleaved
    (forward : ∀ thread, (operations thread).intent.Forward)
    (unproposed : world.Unproposed)
    (fresh : FreshSchedule config world operations schedule) :
    Linked config (lastScene config world operations schedule) ∧
      ∀ thread request following,
        (interleaved config world operations schedule).threads thread =
            .call request following →
          (lastScene config world operations schedule).retired thread =
              false ∧
            May (operations thread).intent
              ((lastScene config world operations schedule).views thread)
              request :=
  interleaved_invariant (Linked config) _ (fun _ linked => linked.keyed)
    (fun _ thread _ _ linked _ admissible may =>
      linked.step admissible (forward thread) may)
    (fun _ _ linked _ _ => { linked with })
    (Linked.start_unproposed unproposed) fresh

/-- The action that a thread is about to dispatch is a copy that may be run. -/
theorem runnable_of_dispatch
    (forward : ∀ thread, (operations thread).intent.Forward)
    (unproposed : world.Unproposed)
    (fresh : FreshSchedule config world operations schedule)
    {thread : Nat}
    (dispatches : ((interleaved config world operations schedule).threads
      thread).request? = some (.execute action)) :
    ∃ held, ((lastScene config world operations schedule).views thread).held =
        some held ∧ held.record = action ∧ Runnable action := by
  obtain ⟨following, calls⟩ := Prog.request?_eq_some.mp dispatches
  obtain ⟨_, permitted⟩ := linked_interleaved forward unproposed fresh
  obtain ⟨_, _, held, holding, named, _, _, runnable⟩ :=
    permitted thread _ following calls
  exact ⟨held, holding, named, runnable⟩

end Interleaved

/-- In every interleaving of HTTP requests, an action whose handler is about
to be dispatched was decided `ALLOW` or `ALLOW_WITH_CONSTRAINTS`, or it was
decided `REQUIRE_APPROVAL` and an earlier call approved it.  The stored record
has that same decision, and none of the action's approvals is pending or
denied. -/
theorem dispatched_was_cleared
    {config : Config} {world : World} {operations : Nat → Operation}
    {schedule : List (Nat × Env)} {thread : Nat} {action : TxnAction}
    (http : ∀ thread, (operations thread).IsHTTP) (initial : world.Initial)
    (fresh : FreshSchedule config world operations schedule)
    (dispatches : ((interleaved config world operations schedule).threads
      thread).request? = some (.execute action)) :
    let history := (interleaved config world operations schedule).history
    (∃ decision, action.decision = some decision ∧
      (decision.effect = .allow ∨ decision.effect = .allowWithConstraints ∨
        decision.effect = .requireApproval ∧
          Granted config history.marks action.id)) ∧
    (∃ stored, history.state.ledger.actions.get? action.id = some stored ∧
      stored.decision = action.decision) ∧
    ∀ key approval, history.state.ledger.approvals.get? key = some approval →
      approval.actionID = some action.id → approval.status = .approved := by
  have forward : ∀ thread, (operations thread).intent.Forward :=
    fun thread => (http thread).forward
  have linked := (linked_interleaved forward (.of_initial initial) fresh).1
  obtain ⟨held, holding, rfl, runnable⟩ :=
    runnable_of_dispatch forward (.of_initial initial) fresh dispatches
  obtain ⟨⟨decision, decided, effect⟩, stored, present, same⟩ :=
    linked.runnable holding runnable
  refine ⟨⟨decision, decided, effect⟩, ⟨stored, present, same⟩, ?_⟩
  intro key approval approvalAt about
  refine linked.approvals_approved present (same.trans decided) ?_ approvalAt
    about
  intro asks
  rcases effect with allow | allow | ⟨_, granted⟩
  · simp [allow] at asks
  · simp [allow] at asks
  · exact granted

namespace Sample

/-- A transaction, a lookup in it, and two requests to execute it. -/
def rivals : Nat → Operation :=
  threads [create, propose "id1" "crm" "lookup_customer" none "k",
    execute "id7", execute "id7"]

/-- The lookup has been proposed, and both requests have read it. -/
def poised : List Nat :=
  List.replicate 4 0 ++ List.replicate 14 1 ++
    [2, 3, 2, 3, 2, 3, 2, 3, 2, 3, 2, 3]

theorem isHTTP_threads {operations : List Operation}
    (http : ∀ operation ∈ operations, operation.IsHTTP) (thread : Nat) :
    (threads operations thread).IsHTTP := by
  unfold threads
  rw [List.getD_eq_getElem?_getD]
  cases found : operations[thread]? with
  | none => exact trivial
  | some operation => exact http operation (List.mem_of_getElem? found)

end Sample

/-- Both requests are about to dispatch the lookup, which was allowed. -/
theorem dispatched_was_cleared_rivals :
    ∃ action, ((interleaved Sample.config Sample.world Sample.rivals
        (Sample.turns 0 Sample.poised)).threads 3).request? =
          some (.execute action) ∧
      ∃ decision, action.decision = some decision ∧
        (decision.effect = .allow ∨
          decision.effect = .allowWithConstraints ∨
          decision.effect = .requireApproval ∧
            Granted Sample.config (interleaved Sample.config Sample.world
              Sample.rivals (Sample.turns 0 Sample.poised)).history.marks
              action.id) := by
  have dispatching : (((interleaved Sample.config Sample.world Sample.rivals
      (Sample.turns 0 Sample.poised)).threads 3).request?.bind
        Call.dispatched).isSome = true := by
    decide +kernel
  obtain ⟨action, equal⟩ := Option.isSome_iff_exists.mp dispatching
  obtain ⟨request, dispatches, dispatched⟩ := Option.bind_eq_some_iff.mp equal
  rw [Call.dispatched_eq_some.mp dispatched] at dispatches
  exact ⟨action, dispatches, (dispatched_was_cleared
    (Sample.isHTTP_threads (by decide)) Sample.initial (by decide +kernel)
    dispatches).1⟩

end SettleAgent
