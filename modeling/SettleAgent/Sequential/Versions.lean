import Mathlib.Data.List.Induction
import SettleAgent.Sequential.Proposals

/-!
# Policy versions on receipts

A receipt carries the policy version of its action's decision, and that
decision is never changed once the proposal is over.  But a decision only names
the active version if one of its rules matched: the defaults for actions that
no rule matches name none.
-/

namespace SettleAgent

open Interaction Gateway

/-- The policy version that a receipt about the action carries. -/
def TxnAction.policyVersion (action : TxnAction) : Int :=
  match action.decision with
  | some decision => decision.policyVersion
  | none => 0

/-! ## What receipts are stamped with -/

/-- The intents under which receipts are appended. -/
def Intent.attests : Intent → Bool
  | .execute _ _ | .reconcile _ _ => true
  | _ => false

/-- The role of an operation that keeps in mind the record it has just written
back, and stamps receipts with the version in that record. -/
def stamping (intent : Intent) : Role Call Call.Resp (Option TxnAction) where
  learn view request _ :=
    match request with
    | .updateAction action => some action
    | .timeNow => view
    | _ => none
  may view request :=
    match request with
    | .appendReceipt receipt => intent.attests = true → ∃ action,
        view = some action ∧ receipt.actionID = action.id ∧
          receipt.policyVersion = action.policyVersion
    | _ => True
  fits _ _ := True

section Programs

variable {config : Config} {intent : Intent} {view : Option TxnAction}
  {traceID orgID : String} {action : TxnAction}

/-- The program stamps its receipts. -/
abbrev Stamps {α : Type} (program : Gate α) (intent : Intent)
    (view : Option TxnAction) : Prop :=
  program.Obeys (stamping intent) (fun _ _ => True) view

theorem attest_stamps (result : Object) (compensation : Compensation)
    (started completed : Time) :
    Stamps (attest config orgID action result compensation started completed)
      intent (some action) := by
  simp only [attest, signReceipt, Prog.perform_bind]
  refine ⟨fun _ => ⟨action, rfl, rfl, rfl⟩, fun receipt _ => ?_⟩
  split
  · exact ⟨trivial, fun _ _ => trivial⟩
  · exact ⟨trivial, fun _ _ => ⟨trivial, fun _ _ => trivial⟩⟩

theorem dispatch_stamps :
    Stamps (dispatch config traceID orgID action) intent view := by
  simp only [dispatch, Prog.perform_bind]
  refine ⟨trivial, fun started _ => ⟨trivial, fun _ _ => ⟨trivial,
    fun outcome _ => ⟨trivial, fun ended _ => ?_⟩⟩⟩⟩
  cases outcome with
  | error error =>
      cases error <;>
        exact ⟨trivial, fun _ _ => ⟨trivial, fun _ _ => trivial⟩⟩
  | ok result =>
      refine ⟨trivial, fun _ _ => ⟨trivial, fun completed _ => ?_⟩⟩
      exact (attest_stamps _ _ _ _).bind fun _ _ _ =>
        ⟨trivial, fun _ _ => trivial⟩

theorem run_stamps : Stamps (run config traceID orgID action) intent view := by
  simp only [run, Prog.perform_bind]
  refine ⟨trivial, fun found _ => ?_⟩
  cases found with
  | none => exact dispatch_stamps
  | some txn =>
      dsimp only
      split
      · exact ⟨trivial, fun _ _ => dispatch_stamps⟩
      · exact dispatch_stamps

theorem executeAllowed_stamps (actionID : String) :
    Stamps (executeAllowed config traceID orgID actionID) intent view := by
  simp only [executeAllowed, Prog.perform_bind]
  refine ⟨trivial, fun found _ => ?_⟩
  cases found with
  | none => trivial
  | some action =>
      dsimp only
      repeat' split
      all_goals first | trivial | exact run_stamps

theorem runApproved_stamps (actionID : String) :
    Stamps (runApproved config traceID orgID actionID) intent view := by
  simp only [runApproved, Prog.perform_bind]
  refine ⟨trivial, fun found _ => ?_⟩
  cases found with
  | none => trivial
  | some action =>
      dsimp only
      repeat' split
      all_goals first | trivial | exact run_stamps

theorem reconcile_stamps (actionID : String) :
    Stamps (reconcile config traceID orgID actionID) intent view := by
  simp only [reconcile, Prog.perform_bind]
  refine ⟨trivial, fun found _ => ?_⟩
  cases found with
  | none => trivial
  | some action =>
  dsimp only
  split
  · trivial
  refine ⟨trivial, fun reconciler _ => ?_⟩
  cases reconciler with
  | none => exact ⟨trivial, fun _ _ => trivial⟩
  | some reconciler =>
  refine ⟨trivial, fun answer _ => ?_⟩
  cases answer with
  | error error => exact ⟨trivial, fun _ _ => trivial⟩
  | ok result =>
  cases result with
  | none => exact ⟨trivial, fun _ _ => ⟨trivial, fun _ _ => trivial⟩⟩
  | some result =>
      refine ⟨trivial, fun now _ => ⟨trivial, fun _ _ => ?_⟩⟩
      exact (attest_stamps _ _ _ _).bind fun _ _ _ =>
        ⟨trivial, fun _ _ => trivial⟩

/-- Operations that append no receipts have nothing to stamp. -/
theorem stamps_of_not_attests {α : Type} {program : Gate α}
    (unattesting : intent.attests = false) : Stamps program intent view := by
  refine Prog.obeys_of_forall program ?_ (fun _ _ => trivial) view
  intro view request
  cases request with
  | appendReceipt receipt =>
      intro attests
      rw [unattesting] at attests
      cases attests
  | _ => trivial

theorem Operation.stamps (config : Config) (operation : Operation) :
    Stamps (operation.program config) operation.intent none := by
  cases operation with
  | executeAllowed traceID orgID actionID =>
      exact (executeAllowed_stamps actionID).bind fun _ _ _ => trivial
  | runApproved traceID orgID actionID =>
      exact (runApproved_stamps actionID).bind fun _ _ _ => trivial
  | reconcile traceID orgID actionID =>
      exact (reconcile_stamps actionID).bind fun _ _ _ => trivial
  | http request =>
      obtain ⟨caller, traceID, route⟩ := request
      have handled : Stamps (Api.handle config ⟨caller, traceID, route⟩)
          (Operation.http ⟨caller, traceID, route⟩).intent none := by
        cases route with
        | actionSub parts =>
            simp only [Api.handle, Api.handleActionSub, Prog.perform_bind]
            split
            · refine ⟨trivial, fun found _ => ?_⟩
              dsimp only
              split
              · exact (runApproved_stamps _).bind fun _ _ _ => trivial
              · exact (executeAllowed_stamps _).bind fun _ _ _ => trivial
            · trivial
        | reconcile id =>
            simp only [Api.handle, Api.handleReconcile]
            split
            · trivial
            · exact (reconcile_stamps id).bind fun _ _ _ => trivial
        | decideApproval parts body =>
            refine stamps_of_not_attests ?_
            simp only [Operation.intent, Api.Request.intent]
            split <;> first | rfl | simp_all
        | _ => exact stamps_of_not_attests rfl
      exact handled.bind fun _ _ _ => trivial
  | _ => exact stamps_of_not_attests rfl

end Programs

section Runs

variable {config : Config} {world : World} {arrivals : List Arrival}

/-- In every run, a receipt is appended with the version that is in the stored
record of its action. -/
theorem receipt_stamped {mark : Mark Operation Call Env World}
    (made : mark ∈ (sequential config world arrivals).marks)
    {receipt : Receipt} (appends : mark.request = .appendReceipt receipt)
    (attests : mark.caller.intent.attests = true) {stored : TxnAction}
    (present : mark.before.ledger.actions.get? receipt.actionID =
      some stored) :
    receipt.policyVersion = stored.policyVersion := by
  -- The record in mind is the stored one, as long as it is kept in mind.
  let minds (_ : Operation) (view : Option TxnAction) (world : World) : Prop :=
    ∀ action stored, view = some action →
      world.ledger.actions.get? action.id = some stored → stored = action
  have step : ∀ operation view world request env,
      minds operation view world → True →
        (stamping operation.intent).may view request →
          minds operation ((stamping operation.intent).learn view request
            (exec config request env world).1)
            (exec config request env world).2 := by
    intro operation view world request env minded _ _ action stored
    cases request with
    | updateAction written =>
        rintro same present
        obtain rfl := Option.some.inj same
        change (world.ledger.updateAction written).actions.get? _ = _ at present
        cases found : world.ledger.actions.get? written.id with
        | none =>
            rw [Ledger.updateAction, found] at present
            rw [found] at present
            cases present
        | some old =>
            rw [Ledger.updateAction_of_present found] at present
            exact (Option.some.inj ((Table.get?_set_self _ _ _).symm.trans
              present)).symm
    | timeNow => exact minded action stored
    | _ =>
        intro forgotten
        cases forgotten
  have stamps : ∀ job ∈ arrivals.map (Arrival.job config),
      Stamps job.program job.tag.intent none := by
    intro job member
    obtain ⟨arrival, _, rfl⟩ := List.mem_map.mp member
    exact arrival.operation.stamps config
  have enter : ∀ operation world, minds operation none world := by
    intro operation world action stored absent
    cases absent
  obtain ⟨view, minded, may⟩ := Session.run_agreed (exec config) _
    (fun _ _ _ _ _ => trivial) world stamps (fun _ _ => trivial) step enter
    mark made
  rw [appends] at may
  obtain ⟨action, rfl, about, version⟩ := may attests
  rw [about] at present
  rw [version, minded action stored rfl present]

/-- Only executions and reconciliations write a record as executed. -/
theorem Rewrites.attests {intent : Intent} {view : View} {held : Held}
    {action : TxnAction} (rewrites : Rewrites intent view held action)
    (executed : action.status = .executed) : intent.attests = true := by
  cases rewrites with
  | ran orgID actionID outcome action executes => rw [executes]; rfl
  | settled orgID actionID answer action reconciles => rw [reconciles]; rfl
  | granted => cases executed
  | undone _ _ _ _ _ status _ _ _ _ _ _ _ _ written =>
      rcases written with rfl | rfl <;> cases executed

/-- A receipt is only appended by an execution or a reconciliation. -/
theorem attests_of_appends (initial : world.Initial)
    (fresh : FreshRun config world arrivals)
    {mark : Mark Operation Call Env World}
    (made : mark ∈ (sequential config world arrivals).marks)
    {receipt : Receipt} (appends : mark.request = .appendReceipt receipt) :
    mark.caller.intent.attests = true := by
  let inv (intent : Intent) (view : View) (world : World) : Prop :=
    Coherent view world.ledger ∧ ∀ held action, view.held = some held →
      held.stored = some action → action.status = .executed →
        intent.attests = true
  have marked := (sequential_invariant inv
    (fun world => Coherent View.first world.ledger) (fun _ _ => True)
    (fun _ _ _ holds => holds.1.keyed) ?_
    (fun _ _ coherent _ => ⟨coherent, by simp⟩)
    (fun _ _ _ settled holds => holds.1.leave settled) ?_ fresh
    fun _ _ _ _ => trivial).2 mark made
  · obtain ⟨view, holds, may⟩ := marked
    rw [appends] at may
    obtain ⟨held, action, holding, stored, executed, _⟩ := may
    exact holds.2 held action holding stored executed
  · intro intent view world request env holds admissible may
    refine ⟨holds.1.step admissible may, ?_⟩
    intro held action holding stored executed
    rcases View.stored_learn holding stored with ⟨old, held, was⟩ | rfl
    · exact holds.2 old action held was executed
    · obtain ⟨held, _, _, rewrites⟩ := may
      exact rewrites.attests executed
  · rw [show world.ledger = Ledger.empty from initial]
    exact Coherent.empty

/-- A decision that was made stays as it is, and a denied action stays
denied. -/
theorem Coherent.decided_step {view : View} {intent : Intent} {request : Call}
    {env : Env} (coherent : Coherent view world.ledger)
    (admissible : Admissible world env) (may : May intent view request)
    {id : String} {action : TxnAction}
    (present : world.ledger.actions.get? id = some action)
    (decided : action.status ≠ .proposed) :
    ∃ later, (exec config request env world).2.ledger.actions.get? id =
        some later ∧ later.status ≠ .proposed ∧
      later.orgID = action.orgID ∧ later.decision = action.decision ∧
      (action.status = .denied → later.status = .denied) := by
  have undrafted : ∀ draft, view.draft = some draft → draft.id = id →
      draft.status ≠ none := by
    intro draft drafted named undecided
    obtain ⟨stored, found, status, _⟩ := coherent.draft draft drafted
    rw [named, present, Option.some.injEq] at found
    rw [undecided, Option.getD_none, ← found] at status
    exact decided status
  cases actionWrite config coherent.keyed admissible may id with
  | kept same =>
      exact ⟨action, same.trans present, decided, rfl, rfl, fun same => same⟩
  | added _ _ _ absent _ =>
      rw [present] at absent
      cases absent
  | decided draft old decision drafted named undecided _ _ =>
      exact absurd undecided (undrafted draft drafted named)
  | placed draft old decision drafted named undecided _ _ _ =>
      exact absurd undecided (undrafted draft drafted named)
  | rewritten held old new holding unstored rewrites named was written =>
      obtain ⟨revises, found, rewritten⟩ :=
        coherent.rewritten holding unstored rewrites
      rw [named, present, Option.some.injEq] at found
      subst found
      refine ⟨new, written, ?_, revises.alike.orgID, revises.decision, ?_⟩
      · rcases rewritten.cases with ⟨_, status | status | status⟩ |
          ⟨_, status, _⟩ | ⟨_, status | status, _⟩ <;> simp [status]
      · -- No record that is written back was denied.
        intro denied
        rcases rewritten.cases with ⟨live, _⟩ | ⟨waiting, _⟩ | ⟨executed, _⟩
        · have unresolved := live.unresolved
          simp [denied, ActionStatus.resolved] at unresolved
        · simp [denied] at waiting
        · simp [denied] at executed

/-- The action was decided with this policy version, its receipts carry the
version, and it stays denied if it was. -/
def Stamped (id orgID : String) (version : Int) (denied : Prop)
    (world : World) : Prop :=
  (∃ action, world.ledger.actions.get? id = some action ∧
    action.status ≠ .proposed ∧ action.orgID = orgID ∧
    action.policyVersion = version ∧ (denied → action.status = .denied)) ∧
  ∀ receipt ∈ world.ledger.receiptsList, receipt.actionID = id →
    receipt.policyVersion = version

theorem stamped_step (initial : world.Initial)
    (fresh : FreshRun config world arrivals)
    {mark : Mark Operation Call Env World}
    (made : mark ∈ (sequential config world arrivals).marks)
    {id orgID : String} {version : Int} {denied : Prop}
    (stamped : Stamped id orgID version denied mark.before) :
    Stamped id orgID version denied (mark.after (exec config)) := by
  obtain ⟨⟨action, present, decided, org, named, stays⟩, receipts⟩ := stamped
  obtain ⟨view, coherent, may⟩ := (sequential_coherent initial fresh).2 mark made
  refine ⟨?_, ?_⟩
  · obtain ⟨later, found, undecided, sameOrg, same, keeps⟩ :=
      coherent.decided_step (fresh mark made) may present decided
    refine ⟨later, found, undecided, sameOrg.trans org, ?_,
      fun refused => keeps (stays refused)⟩
    rw [← named, TxnAction.policyVersion, TxnAction.policyVersion, same]
  · have stamps := @receipt_stamped config world arrivals mark made
    have attests := @attests_of_appends config world arrivals initial fresh mark
      made
    obtain ⟨caller, before, request, env⟩ := mark
    have signed (orgID receiptID keyID signature : String) :
        ∀ receipt ∈ (before.ledger.updateReceipt orgID receiptID keyID
          signature).receiptsList, receipt.actionID = id →
            receipt.policyVersion = version := by
      intro receipt member
      obtain ⟨old, listed, rfl⟩ := List.mem_map.mp member
      split <;> exact receipts old listed
    by_cases writes : request.WritesReceipts
    swap
    · rw [Mark.after, receiptsList_exec writes]
      exact receipts
    cases request with
    | appendReceipt receipt =>
        intro listed member about
        rcases List.mem_append.mp member with member | member
        · exact receipts listed member about
        obtain rfl := List.mem_singleton.mp member
        have found : before.ledger.actions.get? receipt.actionID =
          some action := about ▸ present
        exact (stamps rfl (attests rfl) found).trans named
    | setStoredSignature orgID id keyID signature =>
        exact signed orgID id keyID signature
    | updateReceipt orgID id keyID signature =>
        exact signed orgID id keyID signature
    | _ => exact writes.elim

end Runs

/-! ## Which version a decision names -/

theorem evaluate_version (runtime : Runtime) (clock : Clock)
    (rules : List PolicyRule) (version : Int) (agent : Agent)
    (action : TxnAction) :
    ((∃ rule ∈ rules,
        Policies.ruleMatches runtime clock rule agent action = true) ∧
      (Policies.evaluate runtime clock rules version agent action).policyVersion =
        version) ∨
    (¬ (∃ rule ∈ rules,
        Policies.ruleMatches runtime clock rule agent action = true) ∧
      (Policies.evaluate runtime clock rules version agent action).policyVersion =
        0) := by
  have member (rule : PolicyRule) := (runtime.sortRules.perm rules).mem_iff
    (a := rule)
  unfold Policies.evaluate
  split
  · rename_i rule found
    left
    have matched := List.find?_some found
    have listed := (member rule).mp (List.mem_of_find?_eq_some found)
    exact ⟨⟨rule, listed, matched⟩, rfl⟩
  · rename_i unmatched
    right
    constructor
    · rintro ⟨rule, listed, matched⟩
      exact List.find?_eq_none.mp unmatched rule ((member rule).mpr listed)
        matched
    · unfold Policies.defaultDecision
      split <;> rfl

/-- The number names the version of the active set, and is `0` only if there is
none. -/
def NamesVersion (version : Int) (active : Option PolicySet) : Prop :=
  version = versionOf active ∧ (version = 0 → active = none)

instance (version : Int) (active : Option PolicySet) :
    Decidable (NamesVersion version active) :=
  inferInstanceAs (Decidable (_ ∧ _))

/-- A decision of the policies names the active version if there is none, or if
one of its rules matches. -/
theorem policyDecision_namesVersion {runtime : Runtime} {clock : Clock}
    {legacy : List PolicyRule} {active : Option PolicySet} {agent : Agent}
    {action : TxnAction} :
    NamesVersion (policyDecision runtime clock legacy active agent
        action).policyVersion active ↔
      ∀ set, active = some set → set.version ≠ 0 ∧ ∃ rule ∈ set.rules,
        Policies.ruleMatches runtime clock rule agent action = true := by
  cases active with
  | none =>
      have zero : (policyDecision runtime clock legacy none agent
          action).policyVersion = 0 := by
        rcases evaluate_version runtime clock legacy 0 agent action with
          ⟨_, zero⟩ | ⟨_, zero⟩
        · exact zero
        · exact zero
      simp [NamesVersion, zero, versionOf]
  | some set =>
      rw [NamesVersion]
      rcases evaluate_version runtime clock set.rules set.version agent action with
        ⟨matched, version⟩ | ⟨unmatched, version⟩
      · have named : (policyDecision runtime clock legacy (some set) agent
          action).policyVersion = set.version := version
        simp [named, versionOf, matched]
      · have named : (policyDecision runtime clock legacy (some set) agent
          action).policyVersion = 0 := version
        rw [named]
        constructor
        · rintro ⟨_, none⟩
          cases none rfl
        · intro ruled
          exact absurd (ruled set rfl).2 unmatched

/-! ## Over runs -/

section Runs

variable {config : Config} {world : World}

/-- The action with this identifier is recorded by the arrival. -/
def RecordedBy (config : Config) (world : World) (earlier : List Arrival)
    (arrival : Arrival) (id : String) : Prop :=
  (sequential config world earlier).state.ledger.actions.get? id = none ∧
    (sequential config world (earlier ++ [arrival])).state.ledger.actions.get?
      id ≠ none

instance (config : Config) (world : World) (earlier : List Arrival)
    (arrival : Arrival) (id : String) :
    Decidable (RecordedBy config world earlier arrival id) :=
  inferInstanceAs (Decidable (_ ∧ _))

/-- Whatever a run leaves behind was recorded by one of its arrivals. -/
theorem exists_recordedBy {id : String}
    (new : world.ledger.actions.get? id = none) (arrivals : List Arrival)
    (present : (sequential config world arrivals).state.ledger.actions.get? id ≠
      none) :
    ∃ earlier arrival later, arrivals = earlier ++ arrival :: later ∧
      RecordedBy config world earlier arrival id := by
  induction arrivals using List.reverseRecOn with
  | nil => exact absurd new present
  | append_singleton earlier arrival inductionHypothesis =>
      by_cases before : (sequential config world
          earlier).state.ledger.actions.get? id = none
      · exact ⟨earlier, arrival, [], rfl, before, present⟩
      · obtain ⟨first, found, later, rfl, recorded⟩ :=
          inductionHypothesis before
        exact ⟨first, found, later ++ [arrival], by simp, recorded⟩

/-- An arrival that records an action makes a proposal. -/
theorem RecordedBy.exists_proposal (initial : world.Initial)
    {earlier later : List Arrival} {arrival : Arrival} {id : String}
    (fresh : FreshRun config world (earlier ++ arrival :: later))
    (recorded : RecordedBy config world earlier arrival id) :
    ∃ proposal, arrival.operation.proposal = some proposal := by
  by_contra silent
  refine recorded.2 ?_
  rw [state_concat]
  refine (Prog.complete_stepwise (exec config)
    (fun world => world.ledger.actions.get? id = none) _ _ _ _ recorded.1
      ?_).1
  intro mark made absent
  have marked : mark ∈ (sequential config world
    (earlier ++ arrival :: later)).marks := marks_complete_subset made
  obtain ⟨view, coherent, may⟩ :=
    (sequential_coherent initial fresh).2 mark marked
  have caller : mark.caller = arrival.operation :=
    Prog.caller_of_mem_complete (exec config) _ _ _ _ mark made
  have written := actionWrite config coherent.keyed (fresh mark marked) may id
  rw [absent] at written
  cases written with
  | kept same => exact same
  | added action may _ _ _ =>
      rw [caller] at may
      exact absurd (Operation.exists_proposal may.1) silent
  | decided _ _ _ _ _ _ present _ => cases present
  | placed _ _ _ _ _ _ _ present _ => cases present
  | rewritten _ _ _ _ _ _ _ present _ => cases present

/-- The receipts of an action that was never executed. -/
theorem Coherent.no_receipt {view : View} {ledger : Ledger} {id : String}
    {action : TxnAction} (coherent : Coherent view ledger)
    (present : ledger.actions.get? id = some action)
    (unexecuted : action.status.attested = false) {receipt : Receipt}
    (stored : receipt ∈ ledger.receiptsList) : receipt.actionID ≠ id := by
  have none := coherent.unattested id action present (Or.inl unexecuted)
  rw [Ledger.receiptsOf, List.filter_eq_nil_iff] at none
  simpa using none receipt stored

/-- A receipt carries the version of the decision on the proposal that recorded
its action, and the action was not denied then. -/
theorem stamped_of_recordedBy (initial : world.Initial)
    {earlier later : List Arrival} {arrival : Arrival} {receipt : Receipt}
    {last : TxnAction} {proposal : Proposal}
    (fresh : FreshRun config world (earlier ++ arrival :: later))
    (recorded : RecordedBy config world earlier arrival receipt.actionID)
    (proposes : arrival.operation.proposal = some proposal)
    (stored : receipt ∈ (sequential config world
      (earlier ++ arrival :: later)).state.ledger.receiptsList)
    (present : (sequential config world
      (earlier ++ arrival :: later)).state.ledger.actions.get?
        receipt.actionID = some last) :
    let before := (sequential config world earlier).state
    ∃ agent rank decision,
      before.store.getAgent proposal.orgID proposal.agentID = some agent ∧
      Weighed config before.store rank
        (clocksOf (arrival.complete config before).2.2) agent proposal.orgID
        proposal.agentID (proposal.record (arrival.operation.registry before))
        decision ∧
      receipt.policyVersion = decision.policyVersion ∧
      last.orgID = proposal.orgID ∧ decision.effect ≠ .deny := by
  intro before
  have regrouped : earlier ++ arrival :: later =
      (earlier ++ [arrival]) ++ later := by simp
  rw [regrouped] at fresh stored present
  have coherent := (sequential_coherent initial fresh).1
  have coherentThen := (sequential_coherent initial fresh.earlier).1
  obtain ⟨new, added⟩ := recorded
  have written := @Operation.recorded config before Operation arrival.operation
    arrival.envs arrival.operation proposal proposes
  rcases written with unchanged | ⟨agent, rank, decision, id, action, known,
    weighed, org, decided, status, written⟩
  · rw [state_concat, Arrival.complete, unchanged] at added
    exact absurd new added
  have table : (sequential config world
      (earlier ++ [arrival])).state.ledger.actions =
        before.ledger.actions.set id action := by
    rw [state_concat]
    exact written
  obtain rfl : receipt.actionID = id := by
    by_contra other
    rw [table, Table.get?_set_of_ne _ _ other] at added
    exact added new
  have found := Table.get?_set_self before.ledger.actions receipt.actionID action
  rw [← table] at found
  have stamped : Stamped receipt.actionID proposal.orgID decision.policyVersion
      (decision.effect = .deny)
      (sequential config world (earlier ++ [arrival])).state := by
    refine ⟨⟨action, found, ?_, org, ?_, ?_⟩, ?_⟩
    · rw [status]
      exact initialStatus_ne_proposed _
    · rw [TxnAction.policyVersion, decided]
    · intro denied
      rw [status, denied]
      rfl
    · intro old listed about
      refine absurd about (coherentThen.no_receipt found ?_ listed)
      rw [status]
      exact initialStatus_not_attested _
  have kept := (Session.run_stepwise (exec config) (Stamped receipt.actionID
    proposal.orgID decision.policyVersion (decision.effect = .deny))
    (sequential config world (earlier ++ [arrival]))
    (later.map (Arrival.job config)) stamped fun mark made =>
      stamped_step initial fresh (by rwa [sequential_append])).1
  rw [← sequential_append] at kept
  obtain ⟨⟨final, found, _, finalOrg, _, stays⟩, receipts⟩ := kept
  obtain rfl := Option.some.inj (found.symm.trans present)
  refine ⟨agent, rank, decision, known, weighed, receipts receipt stored rfl,
    finalOrg, ?_⟩
  intro denied
  refine coherent.no_receipt present ?_ stored rfl
  rw [stays denied]
  rfl

/-- When the proposal of the arrival is judged, there is no active policy set,
or one of the rules of the active set matches. -/
def Ruled (config : Config) (before : World) (arrival : Arrival) : Prop :=
  ∀ proposal agent first clock rest set,
    arrival.operation.proposal = some proposal →
    before.store.getAgent proposal.orgID proposal.agentID = some agent →
    clocksOf (arrival.complete config before).2.2 = first :: clock :: rest →
    before.store.activePolicySet proposal.orgID = some set →
      set.version ≠ 0 ∧ ∃ rule ∈ set.rules,
        Policies.ruleMatches config.runtime clock rule agent
          (proposal.record (arrival.operation.registry before)) = true

/-- The receipt of an action names the policy version that was active when the
action was proposed exactly if that version had a rule for it, or there was no
active version; what happens after the proposal does not matter. -/
theorem receipt_names_version_iff
    {arrivals : List Arrival} (initial : world.Initial)
    (fresh : FreshRun config world arrivals) {receipt : Receipt}
    (stored : receipt ∈
      (sequential config world arrivals).state.ledger.receiptsList) :
    (∃ earlier arrival later, arrivals = earlier ++ arrival :: later ∧
      RecordedBy config world earlier arrival receipt.actionID) ∧
    ∀ earlier arrival later, arrivals = earlier ++ arrival :: later →
      RecordedBy config world earlier arrival receipt.actionID →
      let before := (sequential config world earlier).state
      (NamesVersion receipt.policyVersion
          (before.store.activePolicySet receipt.orgID) ↔
        Ruled config before arrival) := by
  have coherent := (sequential_coherent initial fresh).1
  obtain ⟨last, present, attests⟩ := coherent.receipts receipt stored
  constructor
  · apply exists_recordedBy
    · rw [show world.ledger = Ledger.empty from initial]
      rfl
    · simp [present]
  intro earlier arrival later split recorded before
  subst split
  obtain ⟨proposal, proposes⟩ := recorded.exists_proposal initial fresh
  obtain ⟨agent, rank, decision, known, weighed, version, org, undenied⟩ :=
    stamped_of_recordedBy initial fresh recorded proposes stored present
  obtain ⟨first, clock, rest, clocks, screened⟩ := weighed.judged undenied
  rw [version, screened.policyVersion, attests.2.1, org,
    policyDecision_namesVersion]
  constructor
  · intro names other actor early late more set made acts read active
    obtain rfl := Option.some.inj (proposes.symm.trans made)
    obtain rfl := Option.some.inj (known.symm.trans acts)
    obtain ⟨_, same⟩ := List.cons.inj (clocks.symm.trans read)
    obtain ⟨rfl, _⟩ := List.cons.inj same
    exact names set active
  · intro ruled set active
    exact ruled proposal agent first clock rest set proposes known clocks active

end Runs

namespace Sample

/-- A rule that allows the actions of a tool. -/
def allowing (tool : String) : PolicyRule where
  id := tool
  name := tool
  priority := 0
  ruleMatch := { tool := tool }
  effect := .allow
  explanation := ""

/-- A policy set for this tool is activated before a lookup is proposed, allowed
and executed. -/
def ruledRun (tool : String) : List Arrival :=
  inTurn [ask (.createPolicySet { failed := false, value := [allowing tool] }),
    ask (.activatePolicySet (some 1)), create,
    propose "id201" "crm" "lookup_customer" none "k", execute "id303"]

/-- The proposal among these. -/
def ruledLookup : Arrival where
  operation := propose "id201" "crm" "lookup_customer" none "k"
  envs := envs 3

end Sample

/-- The active set has a rule for the lookup, and the receipt names it. -/
theorem receipt_names_version_iff_governed :
    let before := (sequential Sample.config Sample.world
      ((Sample.ruledRun "crm").take 3)).state
    Ruled Sample.config before Sample.ruledLookup ∧
      ∃ receipt ∈ (sequential Sample.config Sample.world
          (Sample.ruledRun "crm")).state.ledger.receiptsList,
        NamesVersion receipt.policyVersion
          (before.store.activePolicySet receipt.orgID) := by
  intro before
  have appended : ∃ receipt ∈ (sequential Sample.config Sample.world
      (Sample.ruledRun "crm")).state.ledger.receiptsList,
        RecordedBy Sample.config Sample.world ((Sample.ruledRun "crm").take 3)
          Sample.ruledLookup receipt.actionID ∧
        NamesVersion receipt.policyVersion
          (before.store.activePolicySet receipt.orgID) := by
    decide +kernel
  obtain ⟨receipt, stored, recorded, names⟩ := appended
  have fresh : FreshRun Sample.config Sample.world (Sample.ruledRun "crm") := by
    decide +kernel
  exact ⟨((receipt_names_version_iff Sample.initial fresh stored).2 _ _ _ rfl
    recorded).mp names, receipt, stored, names⟩

/-- The active set has no rule for the lookup, which is allowed by default; its
receipt does not name the active version. -/
theorem receipt_of_default_names_no_version :
    FreshRun Sample.config Sample.world (Sample.ruledRun "stripe") ∧
    ∃ receipt ∈ (sequential Sample.config Sample.world
        (Sample.ruledRun "stripe")).state.ledger.receiptsList,
      RecordedBy Sample.config Sample.world
        ((Sample.ruledRun "stripe").take 3) Sample.ruledLookup
        receipt.actionID ∧
      ¬ NamesVersion receipt.policyVersion ((sequential Sample.config
        Sample.world ((Sample.ruledRun "stripe").take
          3)).state.store.activePolicySet receipt.orgID) := by
  decide +kernel

end SettleAgent
