import SettleAgent.Concurrent.Scenes
import SettleAgent.Sequential.Runs

/-!
# Dispatch and attest once

Requests to execute or reconcile an action read its record, call the handler
or the reconciler, and write the outcome back, in separate steps.  Two of them
that read the record before either writes it both go ahead, so the handler runs
twice and two receipts are appended.  This does not happen in runs in which an
action is dispatched and written back only while its record still waits for
that.
-/

namespace SettleAgent

open Interaction

/-- The operations that execute or reconcile an action. -/
def Intent.Takes : Intent → Prop
  | .execute _ _ | .reconcile _ _ => True
  | _ => False

/-- The receipt that the call appends. -/
def Call.appended : Call → Option Receipt
  | .appendReceipt receipt => some receipt
  | _ => none

/-- The record that the call writes back. -/
def Call.writtenBack : Call → Option TxnAction
  | .updateAction action => some action
  | _ => none

/-- How often the handler was dispatched for the action. -/
def dispatches (marks : List (Mark Nat Call Env World)) (id : String) : Nat :=
  marks.countP fun mark =>
    mark.request.dispatched.any fun action => action.id = id

/-- How many receipts about the action were appended. -/
def attestations (marks : List (Mark Nat Call Env World)) (id : String) : Nat :=
  marks.countP fun mark =>
    mark.request.appended.any fun receipt => receipt.actionID = id

/-- The operation has dispatched the action and has yet to write back what
came of it. -/
def View.InFlight (view : View) (id : String) : Prop :=
  ∃ held, view.held = some held ∧ held.record.id = id ∧
    held.outcome ≠ none ∧ held.stored = none

namespace View

variable {view : View} {held : Held} {id : String}

theorem inFlight_of_held (holding : view.held = some held) :
    view.InFlight id ↔ held.record.id = id ∧ held.outcome ≠ none ∧
      held.stored = none := by
  simp [InFlight, holding]

theorem owes_of_held (holding : view.held = some held) :
    view.Owes id ↔ held.attested = false ∧ ∃ action,
      held.stored = some action ∧ action.id = id ∧
        action.status = .executed := by
  simp only [Owes, holding, Option.some.injEq]
  constructor
  · rintro ⟨_, action, rfl, stored, named, executed, unattested⟩
    exact ⟨unattested, action, stored, named, executed⟩
  · rintro ⟨unattested, action, stored, named, executed⟩
    exact ⟨held, action, rfl, stored, named, executed, unattested⟩

end View

/-- An action is dispatched only while its record is runnable and no other
operation has it in flight, and it is written back only while its record is
live. -/
structure Unchallenged (scene : Scene) (thread : Nat) (request : Call) :
    Prop where
  dispatch : ∀ action ∈ request.dispatched,
    (∃ stored ∈ scene.world.ledger.actions.get? action.id, Runnable stored) ∧
      ∀ other, other ≠ thread → ¬ (scene.views other).InFlight action.id
  writeBack : ∀ action ∈ request.writtenBack,
    ∃ stored ∈ scene.world.ledger.actions.get? action.id, Live stored

/-- What holds of an action at every point of such a run. -/
structure Single (scene : Scene) (id : String) : Prop where
  dispatched : dispatches scene.marks id ≤ 1
  attested : attestations scene.marks id ≤ 1
  /-- The record of an action in flight is still runnable. -/
  flight : ∀ thread, (scene.views thread).InFlight id → ∃ stored,
    scene.world.ledger.actions.get? id = some stored ∧ Runnable stored
  alone : ∀ thread other, (scene.views thread).InFlight id →
    (scene.views other).InFlight id → thread = other
  undispatched : ∀ stored,
    scene.world.ledger.actions.get? id = some stored → Runnable stored →
      (∀ thread, ¬ (scene.views thread).InFlight id) →
        dispatches scene.marks id = 0
  /-- An action that is still live has no receipt, and none is owed. -/
  live : ∀ stored, scene.world.ledger.actions.get? id = some stored →
    Live stored → attestations scene.marks id = 0 ∧
      ∀ thread, ¬ (scene.views thread).Owes id
  owing : ∀ thread other, (scene.views thread).Owes id →
    attestations scene.marks id = 0 ∧
      ((scene.views other).Owes id → thread = other)
  /-- An uncertain action never becomes runnable again. -/
  uncertain : ∀ thread held, (scene.views thread).held = some held →
    held.record.id = id → held.record.status = .unknown →
      ∀ stored, scene.world.ledger.actions.get? id = some stored →
        ¬ Runnable stored

namespace Single

variable {config : Config} {scene : Scene} {intent : Intent} {thread : Nat}
  {request : Call} {env : Env} {id : String}

theorem start (world : World) (id : String) :
    Single (Scene.start world) id := by
  constructor <;>
    simp [Scene.start, dispatches, attestations, View.InFlight, View.Owes]

theorem dispatches_append
    (marks : List (Mark Nat Call Env World)) (mark : Mark Nat Call Env World)
    (id : String) :
    dispatches (marks ++ [mark]) id = dispatches marks id +
      if mark.request.dispatched.any (fun action => action.id = id)
        then 1 else 0 := by
  simp [dispatches, List.countP_append, List.countP_singleton]

theorem attestations_append
    (marks : List (Mark Nat Call Env World)) (mark : Mark Nat Call Env World)
    (id : String) :
    attestations (marks ++ [mark]) id = attestations marks id +
      if mark.request.appended.any (fun receipt => receipt.actionID = id)
        then 1 else 0 := by
  simp [attestations, List.countP_append, List.countP_singleton]

/-- A call that neither dispatches, writes back nor attests the action. -/
theorem quiet (single : Single scene id)
    (dispatched : request.dispatched.any (fun action => action.id = id) =
      false)
    (attested : request.appended.any (fun receipt => receipt.actionID = id) =
      false)
    (record : (exec config request env scene.world).2.ledger.actions.get? id =
      scene.world.ledger.actions.get? id)
    (flight : ((scene.views thread).learn request
        (exec config request env scene.world).1).InFlight id ↔
      (scene.views thread).InFlight id)
    (owes : ((scene.views thread).learn request
        (exec config request env scene.world).1).Owes id ↔
      (scene.views thread).Owes id)
    (uncertain : ∀ held, ((scene.views thread).learn request
        (exec config request env scene.world).1).held = some held →
      held.record.id = id → held.record.status = .unknown →
        ∀ stored, scene.world.ledger.actions.get? id = some stored →
          ¬ Runnable stored) :
    Single (scene.next config thread request env) id := by
  have dispatchesNext :
      dispatches (scene.next config thread request env).marks id =
        dispatches scene.marks id := by
    simp [Scene.next, dispatches_append, dispatched]
  have attestationsNext :
      attestations (scene.next config thread request env).marks id =
        attestations scene.marks id := by
    simp [Scene.next, attestations_append, attested]
  have flightNext (other : Nat) :
      ((scene.next config thread request env).views other).InFlight id ↔
        (scene.views other).InFlight id := by
    by_cases same : other = thread
    · subst same
      simpa using flight
    · rw [scene.views_next_of_ne config request env same]
  have owesNext (other : Nat) :
      ((scene.next config thread request env).views other).Owes id ↔
        (scene.views other).Owes id := by
    by_cases same : other = thread
    · subst same
      simpa using owes
    · rw [scene.views_next_of_ne config request env same]
  have recordNext :
      (scene.next config thread request env).world.ledger.actions.get? id =
        scene.world.ledger.actions.get? id := record
  constructor
  case uncertain =>
    intro other held holding
    rw [recordNext]
    by_cases same : other = thread
    · subst same
      rw [Scene.views_next_self] at holding
      exact uncertain held holding
    · rw [scene.views_next_of_ne config request env same] at holding
      exact single.uncertain other held holding
  all_goals
    simp only [dispatchesNext, attestationsNext, flightNext, owesNext,
      recordNext]
  · exact single.dispatched
  · exact single.attested
  · exact single.flight
  · exact single.alone
  · exact single.undispatched
  · exact single.live
  · exact single.owing

/-- The step that dispatches the action. -/
theorem dispatch {action : TxnAction} (single : Single scene action.id)
    (may : May intent (scene.views thread) (.execute action))
    (unchallenged : Unchallenged scene thread (.execute action)) :
    Single (scene.next config thread (.execute action) env) action.id := by
  obtain ⟨_, held, holding, rfl, undispatched, unstored, runnable⟩ := may
  obtain ⟨⟨stored, present, storedRunnable⟩, others⟩ :=
    unchallenged.dispatch held.record rfl
  have grounded (other : Nat) :
      ¬ (scene.views other).InFlight held.record.id := by
    by_cases same : other = thread
    · rw [same, View.inFlight_of_held holding]
      simp [undispatched]
    · exact others other same
  have none := single.undispatched stored present storedRunnable grounded
  obtain ⟨unattested, unowed⟩ :=
    single.live stored present (Or.inl storedRunnable)
  have holdingNext : ((scene.next config thread (.execute held.record)
      env).views thread).held = some { held with
        outcome := some (exec config (.execute held.record) env
          scene.world).1 } := by
    rw [Scene.views_next_self]
    exact congrArg (Option.map _) holding
  have flying : ((scene.next config thread (.execute held.record) env).views
      thread).InFlight held.record.id := by
    rw [View.inFlight_of_held holdingNext]
    simp [unstored]
  have only (other : Nat) (flight : ((scene.next config thread
      (.execute held.record) env).views other).InFlight held.record.id) :
      other = thread := by
    by_contra different
    rw [scene.views_next_of_ne config _ env different] at flight
    exact grounded other flight
  have unowedNext (other : Nat) : ¬ ((scene.next config thread
      (.execute held.record) env).views other).Owes held.record.id := by
    by_cases same : other = thread
    · rw [same, View.owes_of_held holdingNext]
      simp [unstored]
    · rw [scene.views_next_of_ne config _ env same]
      exact unowed other
  have attestationsNext : attestations (scene.next config thread
      (.execute held.record) env).marks held.record.id = 0 := by
    simp [Scene.next, attestations_append, unattested, Call.appended]
  constructor
  · simp [Scene.next, dispatches_append, none, Call.dispatched]
  · simp [attestationsNext]
  · exact fun _ _ => ⟨stored, present, storedRunnable⟩
  · exact fun left right first second =>
      (only left first).trans (only right second).symm
  · exact fun _ _ _ landed => absurd flying (landed thread)
  · exact fun _ _ _ => ⟨attestationsNext, unowedNext⟩
  · exact fun left _ owes => absurd owes (unowedNext left)
  · intro other copy copyHolding named status
    by_cases same : other = thread
    · subst same
      cases copyHolding.symm.trans holdingNext
      rcases runnable with ⟨allowed, _⟩ | approved <;> simp_all
    · rw [scene.views_next_of_ne config _ env same] at copyHolding
      exact single.uncertain other copy copyHolding named status

/-- What an execution or a reconciliation writes back. -/
theorem outcome_of_rewrites
    {view : View} {held : Held} {action : TxnAction} (takes : intent.Takes)
    (rewrites : Rewrites intent view held action) :
    action.id = held.record.id ∧
      (action.status = .executed ∨ action.status = .failed ∨
        action.status = .unknown) ∧
      (held.outcome ≠ none ∨ held.record.status = .unknown) := by
  cases rewrites with
  | ran orgID actionID outcome action executes runnable dispatched revises
      status =>
      refine ⟨revises.alike.id, ?_, Or.inl (by simp [dispatched])⟩
      rw [status]
      rcases outcome with (reason | reason) | result <;> simp [statusOf]
  | settled orgID actionID answer action reconciles uncertain answered revises
      status =>
      refine ⟨revises.alike.id, ?_, Or.inr uncertain⟩
      rw [status]
      cases answer <;> simp [settledStatus]
  | granted orgID approvalID approval decides =>
      rw [decides] at takes
      exact takes.elim
  | undone orgID txnID txn scan listed status compensates =>
      rw [compensates] at takes
      exact takes.elim

/-- The step that writes back what came of the action. -/
theorem writeBack {action : TxnAction} (single : Single scene action.id)
    (takes : intent.Takes)
    (may : May intent (scene.views thread) (.updateAction action))
    (unchallenged : Unchallenged scene thread (.updateAction action)) :
    Single (scene.next config thread (.updateAction action) env)
      action.id := by
  obtain ⟨held, holding, unstored, rewrites⟩ := may
  obtain ⟨stored, present, live⟩ := unchallenged.writeBack action rfl
  obtain ⟨named, written, origin⟩ := outcome_of_rewrites takes rewrites
  obtain ⟨unattested, unowed⟩ := single.live stored present live
  -- Only this operation can have the action in flight, and it no longer has.
  have landed (other : Nat) (flight : (scene.views other).InFlight action.id) :
      other = thread := by
    rcases origin with dispatched | uncertain
    · apply single.alone other thread flight
      rw [View.inFlight_of_held holding]
      exact ⟨named.symm, dispatched, unstored⟩
    · obtain ⟨record, recordAt, runnable⟩ := single.flight other flight
      exact absurd runnable (single.uncertain thread held holding named.symm
        uncertain record recordAt)
  have holdingNext : ((scene.next config thread (.updateAction action)
      env).views thread).held = some { held with stored := some action } := by
    rw [Scene.views_next_self]
    exact congrArg (Option.map _) holding
  have groundedNext (other : Nat) : ¬ ((scene.next config thread
      (.updateAction action) env).views other).InFlight action.id := by
    by_cases same : other = thread
    · rw [same, View.inFlight_of_held holdingNext]
      simp
    · rw [scene.views_next_of_ne config _ env same]
      exact fun flight => same (landed other flight)
  have owesNext (other : Nat) (owes : ((scene.next config thread
      (.updateAction action) env).views other).Owes action.id) :
      other = thread ∧ action.status = .executed := by
    by_cases same : other = thread
    · rw [same, View.owes_of_held holdingNext] at owes
      obtain ⟨_, _, equal, _, executed⟩ := owes
      cases equal
      exact ⟨same, executed⟩
    · rw [scene.views_next_of_ne config _ env same] at owes
      exact absurd owes (unowed other)
  have recordNext : (scene.next config thread (.updateAction action)
      env).world.ledger.actions.get? action.id = some action := by
    change (scene.world.ledger.updateAction action).actions.get? action.id = _
    rw [Ledger.updateAction_of_present present]
    exact Table.get?_set_self _ _ _
  have unrunnable : ¬ Runnable action := by
    rintro (⟨allowed, _⟩ | approved) <;>
      rcases written with status | status | status <;> simp_all
  have attestationsNext : attestations (scene.next config thread
      (.updateAction action) env).marks action.id = 0 := by
    simp [Scene.next, attestations_append, unattested, Call.appended]
  constructor
  · simpa [Scene.next, dispatches_append, Call.dispatched] using
      single.dispatched
  · simp [attestationsNext]
  · exact fun other flight => absurd flight (groundedNext other)
  · exact fun left _ flight => absurd flight (groundedNext left)
  · intro record recordAt runnable
    cases recordNext.symm.trans recordAt
    exact absurd runnable unrunnable
  · intro record recordAt recordLive
    cases recordNext.symm.trans recordAt
    refine ⟨attestationsNext, fun other owes => ?_⟩
    rcases recordLive with runnable | uncertain
    · exact unrunnable runnable
    · simp [(owesNext other owes).2] at uncertain
  · exact fun left right first => ⟨attestationsNext, fun second =>
      (owesNext left first).1.trans (owesNext right second).1.symm⟩
  · intro _ _ _ _ _ record recordAt
    cases recordNext.symm.trans recordAt
    exact unrunnable

/-- The step that appends the receipt about the action. -/
theorem attest {receipt : Receipt} (single : Single scene receipt.actionID)
    (may : May intent (scene.views thread) (.appendReceipt receipt)) :
    Single (scene.next config thread (.appendReceipt receipt) env)
      receipt.actionID := by
  obtain ⟨held, action, holding, stored, executed, unattested, attests⟩ := may
  have owed : (scene.views thread).Owes receipt.actionID := by
    rw [View.owes_of_held holding]
    exact ⟨unattested, action, stored, attests.1.symm, executed⟩
  have none := (single.owing thread thread owed).1
  -- The action is no longer live: a live one would be owed nothing.
  have dead (record : TxnAction) (present :
      scene.world.ledger.actions.get? receipt.actionID = some record) :
      ¬ Live record :=
    fun live => (single.live record present live).2 thread owed
  have grounded (other : Nat) :
      ¬ (scene.views other).InFlight receipt.actionID := by
    intro flight
    obtain ⟨record, present, runnable⟩ := single.flight other flight
    exact dead record present (Or.inl runnable)
  have holdingNext : ((scene.next config thread (.appendReceipt receipt)
      env).views thread).held = some { held with attested := true } := by
    rw [Scene.views_next_self]
    exact congrArg (Option.map _) holding
  have groundedNext (other : Nat) : ¬ ((scene.next config thread
      (.appendReceipt receipt) env).views other).InFlight
        receipt.actionID := by
    by_cases same : other = thread
    · rw [same, View.inFlight_of_held holdingNext]
      simp [stored]
    · rw [scene.views_next_of_ne config _ env same]
      exact grounded other
  have unowedNext (other : Nat) : ¬ ((scene.next config thread
      (.appendReceipt receipt) env).views other).Owes receipt.actionID := by
    by_cases same : other = thread
    · rw [same, View.owes_of_held holdingNext]
      simp
    · rw [scene.views_next_of_ne config _ env same]
      exact fun owes => same ((single.owing thread other owed).2 owes).symm
  constructor
  · simpa [Scene.next, dispatches_append, Call.dispatched] using
      single.dispatched
  · simp [Scene.next, attestations_append, none, Call.appended]
  · exact fun other flight => absurd flight (groundedNext other)
  · exact fun left _ flight => absurd flight (groundedNext left)
  · intro record present runnable
    exact absurd (Or.inl runnable) (dead record present)
  · intro record present live
    exact absurd live (dead record present)
  · exact fun left _ owes => absurd owes (unowedNext left)
  · intro _ _ _ _ _ record present runnable
    exact dead record present (Or.inl runnable)

/-- Every permitted call of an execution or a reconciliation that goes
unchallenged keeps what holds of the action. -/
theorem step
    (single : ∀ id, Single scene id) (keyed : scene.world.ledger.WellKeyed)
    (takes : intent.Takes)
    (purposeful : (scene.views thread).Purposeful intent)
    (may : May intent (scene.views thread) request)
    (unchallenged : Unchallenged scene thread request) (id : String) :
    Single (scene.next config thread request env) id := by
  have undrafted : (scene.views thread).draft = none := by
    cases drafting : (scene.views thread).draft with
    | none => rfl
    | some draft =>
        obtain ⟨_, proposes⟩ := purposeful.draft draft drafting
        rw [proposes] at takes
        exact takes.elim
  cases request with
  | execute action =>
      by_cases same : action.id = id
      · subst same
        exact (single action.id).dispatch may unchallenged
      · obtain ⟨_, held, holding, rfl, _, unstored, _⟩ := may
        have holdingNext : ((scene.views thread).learn (.execute held.record)
            (exec config (.execute held.record) env scene.world).1).held =
              some { held with
                outcome := some (exec config (.execute held.record) env
                  scene.world).1 } :=
          congrArg (Option.map _) holding
        refine (single id).quiet (by simp [Call.dispatched, same]) rfl rfl ?_
          ?_ ?_
        · rw [View.inFlight_of_held holding, View.inFlight_of_held holdingNext]
          simp [same]
        · rw [View.owes_of_held holding, View.owes_of_held holdingNext]
        · intro copy copyHolding named
          cases holdingNext.symm.trans copyHolding
          exact absurd named same
  | updateAction action =>
      by_cases same : action.id = id
      · subst same
        exact (single action.id).writeBack takes may unchallenged
      · obtain ⟨held, holding, unstored, rewrites⟩ := may
        obtain ⟨stored, present, _⟩ := unchallenged.writeBack action rfl
        have named := (outcome_of_rewrites takes rewrites).1
        have holdingNext : ((scene.views thread).learn (.updateAction action)
            (exec config (.updateAction action) env scene.world).1).held =
              some { held with stored := some action } :=
          congrArg (Option.map _) holding
        refine (single id).quiet rfl rfl ?_ ?_ ?_ ?_
        · change (scene.world.ledger.updateAction action).actions.get? id = _
          rw [Ledger.updateAction_of_present present]
          exact Table.get?_set_of_ne scene.world.ledger.actions _
            (Ne.symm same)
        · rw [View.inFlight_of_held holding, View.inFlight_of_held holdingNext]
          simp [← named, same]
        · rw [View.owes_of_held holding, View.owes_of_held holdingNext]
          simp [unstored, same]
        · intro copy copyHolding equal
          cases holdingNext.symm.trans copyHolding
          exact absurd (named.trans equal) same
  | appendReceipt receipt =>
      by_cases same : receipt.actionID = id
      · subst same
        exact (single receipt.actionID).attest may
      · obtain ⟨held, action, holding, stored, _, _, attests⟩ := may
        have holdingNext : ((scene.views thread).learn
            (.appendReceipt receipt)
            (exec config (.appendReceipt receipt) env scene.world).1).held =
              some { held with attested := true } :=
          congrArg (Option.map _) holding
        refine (single id).quiet rfl (by simp [Call.appended, same]) rfl ?_ ?_
          ?_
        · rw [View.inFlight_of_held holding, View.inFlight_of_held holdingNext]
        · rw [View.owes_of_held holding, View.owes_of_held holdingNext]
          simp [stored, ← attests.1, same]
        · intro copy copyHolding
          cases holdingNext.symm.trans copyHolding
          exact (single id).uncertain thread held holding
  | getAction orgID key =>
      -- The copy that is replaced was dealt with.
      obtain ⟨_, ⟨unowed, landed⟩, _⟩ := may
      have grounded : ¬ (scene.views thread).InFlight id := by
        rintro ⟨held, holding, _, dispatched, unstored⟩
        exact landed held holding dispatched unstored
      change Single (scene.next config thread (.getAction orgID key) env) id
      refine (single id).quiet rfl rfl rfl (iff_of_false ?_ grounded)
        (iff_of_false ?_ (unowed id)) ?_
      · rintro ⟨held, holding, _, dispatched, _⟩
        obtain ⟨record, _, rfl⟩ := Option.map_eq_some_iff.mp holding
        exact dispatched rfl
      · rintro ⟨held, action, holding, stored, _⟩
        obtain ⟨record, _, rfl⟩ := Option.map_eq_some_iff.mp holding
        simp at stored
      · intro held holding named status stored present runnable
        obtain ⟨record, found, rfl⟩ := Option.map_eq_some_iff.mp holding
        have recordAt := (Ledger.getAction_eq_some.mp found).1
        have own := keyed.action key record recordAt
        rw [← own, named, present, Option.some.injEq] at recordAt
        subst recordAt
        rcases runnable with ⟨allowed, _⟩ | approved <;> simp_all
  | addAction action =>
      rw [may.1] at takes
      exact takes.elim
  | setStoredDecision key decision =>
      obtain ⟨draft, drafting, _⟩ := may
      simp [undrafted] at drafting
  | setStoredStatus key status =>
      obtain ⟨draft, _, drafting, _⟩ := may
      simp [undrafted] at drafting
  | updateStored key =>
      obtain ⟨draft, drafting, _⟩ := may
      simp [undrafted] at drafting
  | reconcile reconciler action =>
      -- An answer is noted beside the copy, which stays as it was.
      have noted : ∃ answer : Option (Option Object) → Option (Option Object),
          ((scene.views thread).learn (.reconcile reconciler action)
            (exec config (.reconcile reconciler action) env
              scene.world).1).held =
            (scene.views thread).held.map fun held =>
              { held with answer := answer held.answer } := by
        generalize (exec config (.reconcile reconciler action) env
          scene.world).1 = reply
        cases reply with
        | error error => exact ⟨fun answer => answer, Option.map_id'.symm⟩
        | ok answer => exact ⟨fun _ => some answer, rfl⟩
      obtain ⟨answer, heldNext⟩ := noted
      cases holding : (scene.views thread).held with
      | none =>
          rw [holding, Option.map_none] at heldNext
          exact (single id).quiet rfl rfl rfl
            (by simp [View.InFlight, holding, heldNext])
            (by simp [View.Owes, holding, heldNext]) (by simp [heldNext])
      | some held =>
          rw [holding, Option.map_some] at heldNext
          refine (single id).quiet rfl rfl rfl ?_ ?_ ?_
          · rw [View.inFlight_of_held holding, View.inFlight_of_held heldNext]
          · rw [View.owes_of_held holding, View.owes_of_held heldNext]
          · intro copy copyHolding
            cases heldNext.symm.trans copyHolding
            exact (single id).uncertain thread held holding
  | _ =>
      refine (single id).quiet rfl rfl ?_ Iff.rfl Iff.rfl
        ((single id).uncertain thread)
      rw [actions_exec (by simp [Call.WritesActions])]

end Single

/-! ## Runs of executions and reconciliations -/

instance (action : TxnAction) : Decidable (Runnable action) :=
  inferInstanceAs (Decidable ((_ ∧ _) ∨ _))

instance (action : TxnAction) : Decidable (Live action) :=
  inferInstanceAs (Decidable (_ ∨ _))

instance (view : View) (id : String) : Decidable (view.InFlight id) :=
  decidable_of_iff (∃ held ∈ view.held, held.record.id = id ∧
    held.outcome.isSome ∧ held.stored.isNone) (by
      simp [View.InFlight, Option.isSome_iff_ne_none])

instance (config : Config) (operations : Nat → Operation)
    (history : History Call Env World) (thread : Nat) (request : Call) :
    Decidable (Unchallenged (sceneOf config operations history) thread
      request) :=
  have (id : String) : Decidable (∀ other, other ≠ thread →
      ¬ ((sceneOf config operations history).views other).InFlight id) :=
    decidable_of_iff' _ (forall_thread_iff fun other idle _ => by
      rw [idle]
      simp [View.InFlight])
  decidable_of_iff
    ((∀ action ∈ request.dispatched,
      (∃ stored ∈ history.state.ledger.actions.get? action.id,
        Runnable stored) ∧
      ∀ other, other ≠ thread →
        ¬ ((sceneOf config operations history).views other).InFlight
          action.id) ∧
      ∀ action ∈ request.writtenBack,
        ∃ stored ∈ history.state.ledger.actions.get? action.id, Live stored)
    ⟨fun ⟨dispatch, writeBack⟩ => ⟨dispatch, writeBack⟩,
      fun ⟨dispatch, writeBack⟩ => ⟨dispatch, writeBack⟩⟩

/-- Every step of the schedule goes unchallenged. -/
def UnchallengedSchedule (config : Config) (world : World)
    (operations : Nat → Operation) (schedule : List (Nat × Env)) : Prop :=
  Scheduled config world operations
    (fun scene thread request _ => Unchallenged scene thread request) schedule

instance (config : Config) (world : World) (operations : Nat → Operation)
    (schedule : List (Nat × Env)) :
    Decidable (UnchallengedSchedule config world operations schedule) :=
  inferInstanceAs (Decidable (Pool.Valid (exec config)
    (fun history thread request _ =>
      Unchallenged (sceneOf config operations history) thread request) _
    schedule))

/-- In every interleaving of executions and reconciliations in which every
step goes unchallenged, the handler is dispatched at most once for each action
and at most one receipt about it is appended. -/
theorem unchallenged_run_dispatches_once
    {config : Config} {world : World} {operations : Nat → Operation}
    {schedule : List (Nat × Env)}
    (takes : ∀ thread, (operations thread).intent.Takes)
    (keyed : world.ledger.WellKeyed)
    (unchallenged : UnchallengedSchedule config world operations schedule)
    (id : String) :
    dispatches (interleaved config world operations schedule).history.marks
        id ≤ 1 ∧
      attestations (interleaved config world operations schedule).history.marks
        id ≤ 1 := by
  obtain ⟨⟨_, _, single⟩, _⟩ := interleaved_invariant
    (fun scene => scene.world.ledger.WellKeyed ∧
      (∀ thread, (scene.views thread).Purposeful
        (operations thread).intent) ∧
      ∀ id, Single scene id) _
    (fun _ holds => holds.1)
    (by
      rintro scene thread request env ⟨keyed, purposeful, single⟩ _ met may
      refine ⟨wellKeyed_exec request keyed, fun other => ?_,
        Single.step single keyed (takes thread) (purposeful thread) may met⟩
      by_cases same : other = thread
      · subst same
        rw [Scene.views_next_self]
        exact (purposeful other).learn may (fits_exec request keyed)
      · rw [scene.views_next_of_ne config request env same]
        exact purposeful other)
    (fun _ _ holds _ _ => ⟨holds.1, holds.2.1, fun id =>
      { holds.2.2 id with }⟩)
    ⟨keyed, fun _ => ⟨by simp [Scene.start], by simp [Scene.start]⟩,
      Single.start world⟩ unchallenged
  exact ⟨(single id).dispatched, (single id).attested⟩

namespace Sample

/-- The store with a lookup that was allowed. -/
def allowed : World :=
  (sequential config Sample.world (inTurn
    [create, propose "id1" "crm" "lookup_customer" none "k"])).state

/-- Every thread executes the lookup. -/
def rush (_ : Nat) : Operation :=
  execute "id103"

theorem keyed_allowed : allowed.ledger.WellKeyed :=
  wellKeyed_sequential initial

theorem takes_rush (thread : Nat) : (rush thread).intent.Takes :=
  trivial

end Sample

/-- The second request reads the lookup both before and after the first one
has executed it, and then refuses. -/
theorem unchallenged_run_dispatches_once_lookup :
    dispatches (interleaved Sample.config Sample.allowed Sample.rush
        (Sample.turns 200 ([0, 1] ++ List.replicate 14 0 ++ [1, 1, 1]))
          ).history.marks "id103" ≤ 1 ∧
      attestations (interleaved Sample.config Sample.allowed Sample.rush
        (Sample.turns 200 ([0, 1] ++ List.replicate 14 0 ++ [1, 1, 1]))
          ).history.marks "id103" ≤ 1 :=
  unchallenged_run_dispatches_once Sample.takes_rush Sample.keyed_allowed
    (by decide +kernel) "id103"

/-- Two requests that take turns both dispatch the lookup, and each appends a
receipt. -/
theorem rush_dispatches_twice :
    (∀ thread, (Sample.rush thread).IsHTTP ∧
      (Sample.rush thread).intent = .execute "acme" "id103") ∧
    FreshSchedule Sample.config Sample.allowed Sample.rush
      (Sample.turns 200 ((List.replicate 13 [0, 1]).flatten)) ∧
    ¬ dispatches (interleaved Sample.config Sample.allowed Sample.rush
      (Sample.turns 200 ((List.replicate 13 [0, 1]).flatten))).history.marks
        "id103" ≤ 1 ∧
    ¬ attestations (interleaved Sample.config Sample.allowed Sample.rush
      (Sample.turns 200 ((List.replicate 13 [0, 1]).flatten))).history.marks
        "id103" ≤ 1 :=
  ⟨fun _ => ⟨trivial, rfl⟩, by decide +kernel, by decide +kernel,
    by decide +kernel⟩

end SettleAgent
