import Mathlib.Data.List.Induction
import SettleAgent.Sequential.Proposals

/-!
# Approvals and the actions they are about

An action that waits for approval has one approval that waits for a decision:
the proposal that leaves it waiting asks for it, and the decision that grants
it moves the action on.  A decision that denies it does not.
-/

namespace SettleAgent

open Interaction Gateway

namespace Ledger

/-- Some approval for the action was not granted. -/
def Asked (ledger : Ledger) (id : String) : Prop :=
  ∃ key approval, ledger.approvals.get? key = some approval ∧
    approval.actionID = some id ∧ approval.status ≠ .approved

/-- Some approval was denied. -/
def Denied (ledger : Ledger) : Prop :=
  ∃ key approval, ledger.approvals.get? key = some approval ∧
    approval.status = .denied

/-- The organization's approval waits for a decision. -/
def Waits (ledger : Ledger) (orgID id : String) : Prop :=
  ∃ approval, ledger.approvals.get? id = some approval ∧
    approval.orgID = orgID ∧ approval.status = .pending

theorem decideApproval_eq_none {ledger : Ledger} {now : Time}
    {orgID id decidedBy : String} {approve : Bool} :
    (ledger.decideApproval now orgID id decidedBy approve).1 = none ↔
      ¬ ledger.Waits orgID id := by
  constructor
  · rintro refused ⟨old, present, sameOrg, pending⟩
    simp [decideApproval, present, sameOrg, pending] at refused
  · intro idle
    cases done : (ledger.decideApproval now orgID id decidedBy approve).1 with
    | none => rfl
    | some approval =>
        obtain ⟨old, present, sameOrg, pending, _⟩ := decideApproval_of_some done
        exact absurd ⟨old, present, sameOrg, pending⟩ idle

/-- Exactly the actions that wait for approval have one approval that waits for
a decision, and an action whose approval was denied is denied. -/
def ApprovalsMatch (ledger : Ledger) : Prop :=
  (∀ id action, ledger.actions.get? id = some action →
    (action.status = .awaitingApproval ↔ ∃! key, ∃ approval,
      ledger.approvals.get? key = some approval ∧
        approval.actionID = some id ∧ approval.status = .pending)) ∧
  ∀ key approval id action, ledger.approvals.get? key = some approval →
    approval.actionID = some id → ledger.actions.get? id = some action →
      approval.status = .denied → action.status = .denied

end Ledger

/-- The operation is an operator's decision against an approval that waits for
one. -/
def Operation.Denies (operation : Operation) (world : World) : Prop :=
  ∃ request id body, operation = .http request ∧
    request.callerIsOperator = true ∧
    request.route = .decideApproval [id, "decide"] body ∧
    body.value.approve = false ∧ world.ledger.Waits request.orgOf id

/-! ## A proposal asks for the approval it needs -/

/-- If the draft is left to wait, its approval was asked for. -/
def View.Asked (view : View) : Prop :=
  ∀ draft, view.draft = some draft →
    draft.status = some .awaitingApproval → draft.asked = true

section Asking

variable {config : Config} {intent : Intent} {view : View}
  {traceID orgID txnID agentID : String} {stored : TxnAction}

theorem View.asked_placed {status : ActionStatus} {scan : Option Scan}
    (placed : status ≠ .awaitingApproval) :
    View.Asked { view with
      scan := scan
      draft := view.draft.map fun draft =>
        { draft with status := some status } } := by
  intro draft drafted waits
  obtain ⟨old, _, rfl⟩ := Option.map_eq_some_iff.mp drafted
  exact absurd (Option.some.inj waits) placed

theorem View.asked_requested :
    View.Asked { view with draft := view.draft.map fun draft =>
      { draft with asked := true } } := by
  intro draft drafted _
  obtain ⟨old, _, rfl⟩ := Option.map_eq_some_iff.mp drafted
  rfl

/-- The program asks for the approval that its action needs. -/
abbrev Asks {α : Type} (intent : Intent) (program : Gate α) (view : View) :
    Prop :=
  program.Obeys (roleOf intent).watching (fun _ after => after.Asked) view

theorem denyUncovered_asks (why : String) :
    Asks intent (denyUncovered orgID txnID agentID stored why) view := by
  simp only [denyUncovered, Prog.perform_bind]
  refine ⟨trivial, fun _ _ => ⟨trivial, fun _ _ => ⟨trivial, fun _ _ =>
    ⟨trivial, fun _ _ => ?_⟩⟩⟩⟩
  exact View.asked_placed (by simp)

theorem recordDecision_asks (txn : Transaction) (amount : Option Int)
    (decision : PolicyDecision) :
    Asks intent (recordDecision txn orgID txnID agentID stored amount decision)
      view := by
  unfold recordDecision
  split
  · refine ⟨trivial, fun _ _ => ⟨trivial, fun _ _ => ⟨trivial, fun _ _ =>
      ⟨trivial, fun _ _ => ?_⟩⟩⟩⟩
    exact View.asked_placed (by simp)
  · refine ⟨trivial, fun _ _ => ⟨trivial, fun _ _ => ⟨trivial, fun _ _ =>
      ⟨trivial, fun _ _ => ⟨trivial, fun _ _ => ⟨trivial, fun _ _ => ?_⟩⟩⟩⟩⟩⟩
    exact View.asked_requested
  · refine ⟨trivial, fun _ _ => ⟨trivial, fun _ _ => ⟨trivial, fun _ _ => ?_⟩⟩⟩
    exact View.asked_placed (by simp)

theorem judge_asks (txn : Transaction) (agent : Agent) (amount : Option Int) :
    Asks intent (judge config txn agent orgID txnID agentID stored amount)
      view := by
  simp only [judge, Prog.perform_bind]
  refine ⟨trivial, fun _ _ => ⟨trivial, fun _ _ => ⟨trivial, fun _ _ =>
    ⟨trivial, fun _ _ => ?_⟩⟩⟩⟩
  have anywhere : ∀ (_ : PolicyDecision) (_ : View), True :=
    fun _ _ => trivial
  exact (Prog.obeys_of_forall _ (fun _ _ => trivial) anywhere _).bind
    fun decision _ _ => recordDecision_asks txn amount decision

theorem authorize_asks (txn : Transaction) (agent : Agent)
    (amount : Option Int) :
    Asks intent (authorize config traceID txn agent orgID txnID agentID stored
      amount) view := by
  simp only [authorize, Prog.perform_bind]
  refine ⟨trivial, fun _ _ => ⟨trivial, fun _ _ => ?_⟩⟩
  dsimp only
  split
  · refine ⟨trivial, fun _ _ => ?_⟩
    split
    · exact judge_asks txn agent amount
    · exact denyUncovered_asks _
  · exact judge_asks txn agent amount

theorem proposeAction_asks (tool action idemKey : String) (arguments : Object)
    (undrafted : view.draft = none) :
    Asks intent (proposeAction config traceID orgID txnID agentID tool action
      arguments idemKey) view := by
  have asked (after : View) (none : after.draft = none) : after.Asked := by
    intro draft drafted
    rw [none] at drafted
    cases drafted
  simp only [proposeAction, Prog.perform_bind]
  refine ⟨trivial, fun found _ => ?_⟩
  cases found with
  | none => exact asked _ undrafted
  | some txn =>
  dsimp only
  split
  · exact asked _ undrafted
  refine ⟨trivial, fun agent _ => ?_⟩
  cases agent with
  | none => exact asked _ undrafted
  | some agent =>
  refine ⟨trivial, fun classes _ => ⟨trivial, ?_⟩⟩
  rintro ⟨stored, duplicate⟩ _
  cases duplicate with
  | true => exact ⟨trivial, fun _ _ => asked _ undrafted⟩
  | false => exact (authorize_asks txn agent _).bind fun _ _ done => done

/-- Every operation that makes a proposal asks for the approval it needs. -/
theorem Operation.asks (config : Config) {operation : Operation}
    {proposal : Proposal} (proposes : operation.proposal = some proposal) :
    Asks operation.intent (operation.program config) View.first := by
  have asked : View.first.Asked := by
    intro draft drafted
    cases drafted
  cases operation with
  | proposeAction traceID orgID txnID agentID tool action arguments idemKey =>
      exact (proposeAction_asks tool action idemKey arguments rfl).bind
        fun _ _ done => done
  | http request =>
      obtain ⟨caller, traceID, route⟩ := request
      have handled : Asks (Operation.http ⟨caller, traceID, route⟩).intent
          (Api.handle config ⟨caller, traceID, route⟩) View.first := by
        cases route with
        | proposeAction body =>
            simp only [Api.handle, Api.handleProposeAction]
            split
            · exact asked
            split
            · exact asked
            split
            · exact asked
            exact (proposeAction_asks _ _ _ _ rfl).bind fun _ _ done => done
        | mcpCall body =>
            simp only [Api.handle, Api.handleMCPCall, Prog.perform_bind]
            split
            · exact asked
            split
            · exact asked
            split
            · exact asked
            refine ⟨trivial, fun found _ => ?_⟩
            cases found with
            | none => exact asked
            | some server =>
            dsimp only
            split
            · exact asked
            · exact ⟨trivial, fun _ _ => (proposeAction_asks _ _ _ _ rfl).bind
                fun _ _ done => done⟩
        | _ => cases proposes
      exact handled.bind fun _ _ done => done
  | _ => cases proposes

end Asking

/-! ## What holds at every step -/

/-- What the ledger and the running operation say about approvals. -/
structure Pledged (view : View) (ledger : Ledger) : Prop where
  /-- Only the running operation's draft waits without an approval. -/
  asked : ∀ id action, ledger.actions.get? id = some action →
    action.status = .awaitingApproval →
      (∃ draft, view.draft = some draft ∧ draft.id = id) ∨ ledger.Asked id
  drafted : ∀ draft, view.draft = some draft → draft.asked = true →
    ledger.Asked draft.id
  matched : ∀ key approval, ledger.approvals.get? key = some approval →
    ∀ id action, approval.actionID = some id →
      ledger.actions.get? id = some action → approval.status ≠ .approved →
        action.status = .awaitingApproval
  ruled : ∀ key approval, ledger.approvals.get? key = some approval →
    approval.status ≠ .unset

/-- The operation is not about an approval. -/
def Intent.Undeciding (intent : Intent) : Prop :=
  ∀ orgID id approve, intent ≠ .decide orgID id approve

section Steps

variable {config : Config} {env : Env} {world : World} {intent : Intent}
  {view : View} {request : Call}

/-- A draft stays the operation's draft. -/
theorem View.draft_stays {draft : Draft} (drafted : view.draft = some draft)
    (may : May intent view request) (reply : request.Resp) :
    ∃ later, (view.learn request reply).draft = some later ∧
      later.id = draft.id := by
  have mapped (note : Draft → Draft) (kept : ∀ old, (note old).id = old.id) :
      ∃ later, view.draft.map note = some later ∧ later.id = draft.id := by
    rw [drafted]
    exact ⟨note draft, rfl, kept draft⟩
  cases request with
  | addAction action =>
      obtain ⟨_, undrafted, _⟩ := may
      rw [undrafted] at drafted
      cases drafted
  | setStoredDecision id decision => exact mapped _ fun _ => rfl
  | setStoredStatus id status => exact mapped _ fun _ => rfl
  | createApproval approval => exact mapped _ fun _ => rfl
  | reconcile reconciler action => cases reply <;> exact ⟨draft, drafted, rfl⟩
  | _ => exact ⟨draft, drafted, rfl⟩

/-- What was asked for after a call was asked for before, or by the call. -/
theorem View.asked_learn {reply : request.Resp} {draft : Draft}
    (drafted : (view.learn request reply).draft = some draft)
    (asked : draft.asked = true) :
    (∃ old, view.draft = some old ∧ old.id = draft.id ∧ old.asked = true) ∨
      ∃ approval, request = .createApproval approval := by
  have mapped {note : Draft → Draft}
      (edited : view.draft.map note = some draft)
      (kept : ∀ old, (note old).id = old.id ∧ (note old).asked = old.asked) :
      ∃ old, view.draft = some old ∧ old.id = draft.id ∧
        old.asked = true := by
    obtain ⟨old, oldDrafted, rfl⟩ := Option.map_eq_some_iff.mp edited
    exact ⟨old, oldDrafted, (kept old).1.symm, (kept old).2.symm.trans asked⟩
  cases request with
  | createApproval approval => exact Or.inr ⟨approval, rfl⟩
  | addAction action =>
      simp only [View.learn] at drafted
      split at drafted
      · exact Or.inl ⟨draft, drafted, rfl, asked⟩
      · obtain rfl := Option.some.inj drafted
        cases asked
  | setStoredDecision id decision =>
      exact Or.inl (mapped drafted fun _ => ⟨rfl, rfl⟩)
  | setStoredStatus id status =>
      exact Or.inl (mapped drafted fun _ => ⟨rfl, rfl⟩)
  | reconcile reconciler action =>
      cases reply <;> exact Or.inl ⟨draft, drafted, rfl, asked⟩
  | _ => exact Or.inl ⟨draft, drafted, rfl, asked⟩

variable (pledged : Pledged view world.ledger)
  (coherent : Coherent view world.ledger) (undeciding : intent.Undeciding)
  (admissible : Admissible world env) (may : May intent view request)

include undeciding admissible may in
/-- An operation that is not about an approval keeps what is stored of every
approval, and what it adds is yet to be decided. -/
theorem approvals_undeciding {key : String} {approval : Approval} :
    (world.ledger.approvals.get? key = some approval →
      (exec config request env world).2.ledger.approvals.get? key =
        some approval) ∧
    ((exec config request env world).2.ledger.approvals.get? key =
        some approval →
      world.ledger.approvals.get? key = some approval ∨
        approval.status = .pending) := by
  cases approvalWrite config admissible may key with
  | kept same =>
      rw [same]
      exact ⟨id, Or.inl⟩
  | created asked may named absent written =>
      constructor
      · intro present
        rw [absent] at present
        cases present
      · intro present
        obtain rfl := Option.some.inj (written.symm.trans present)
        exact Or.inr rfl
  | decided old orgID decidedBy approve decides =>
      exact absurd decides (undeciding _ _ _)

include undeciding admissible may in
theorem asked_undeciding {id : String} (asked : world.ledger.Asked id) :
    (exec config request env world).2.ledger.Asked id := by
  obtain ⟨key, approval, present, about, waiting⟩ := asked
  exact ⟨key, approval,
    (approvals_undeciding undeciding admissible may).1 present, about, waiting⟩

include undeciding admissible may in
theorem denied_undeciding :
    (exec config request env world).2.ledger.Denied ↔ world.ledger.Denied := by
  constructor
  · rintro ⟨key, approval, present, denied⟩
    rcases (approvals_undeciding undeciding admissible may).2 present with
      before | pending
    · exact ⟨key, approval, before, denied⟩
    · rw [pending] at denied
      cases denied
  · rintro ⟨key, approval, present, denied⟩
    exact ⟨key, approval,
      (approvals_undeciding undeciding admissible may).1 present, denied⟩

include coherent undeciding admissible may in
/-- An action that waits for approval is not written by an operation that is
not about an approval. -/
theorem Coherent.waits_undeciding {id : String} {action : TxnAction}
    (present : world.ledger.actions.get? id = some action)
    (waits : action.status = .awaitingApproval) :
    (exec config request env world).2.ledger.actions.get? id = some action := by
  have placed {draft : Draft} (drafted : view.draft = some draft)
      (named : draft.id = id) : draft.status ≠ none := by
    intro undecided
    obtain ⟨stored, found, status, _⟩ := coherent.draft draft drafted
    rw [named, present, Option.some.injEq] at found
    subst found
    simp [undecided, waits] at status
  cases actionWrite config coherent.keyed admissible may id with
  | kept same => exact same.trans present
  | added _ _ _ absent _ =>
      rw [present] at absent
      cases absent
  | decided draft _ _ drafted named undecided _ _ =>
      exact absurd undecided (placed drafted named)
  | placed draft _ _ drafted named undecided _ _ _ =>
      exact absurd undecided (placed drafted named)
  | rewritten held old new holding unstored rewrites named was written =>
      obtain ⟨_, found, change⟩ := coherent.rewritten holding unstored rewrites
      rw [named, present, Option.some.injEq] at found
      subst found
      cases change with
      | ran _ _ _ runnable _ =>
          exact absurd waits (Live.not_waiting (Or.inl runnable))
      | settled _ _ _ uncertain _ _ =>
          rw [waits] at uncertain
          cases uncertain
      | granted _ _ _ decides => exact absurd decides (undeciding _ _ _)
      | undone _ _ _ executed _ _ =>
          rw [waits] at executed
          cases executed

include coherent admissible may in
/-- Whatever waits for approval after a call waited before, or is the draft of
the operation. -/
theorem Coherent.waited {id : String} {action : TxnAction}
    (present : (exec config request env world).2.ledger.actions.get? id =
      some action) (waits : action.status = .awaitingApproval) :
    world.ledger.actions.get? id = some action ∨
      ∃ draft, view.draft = some draft ∧ draft.id = id := by
  cases actionWrite config coherent.keyed admissible may id with
  | kept same => exact Or.inl (same.symm.trans present)
  | added added mayAdd named absent written =>
      obtain ⟨_, _, _, _, proposed, _⟩ := mayAdd
      obtain rfl := Option.some.inj (written.symm.trans present)
      simp [Ledger.newAction, proposed] at waits
  | decided draft _ _ drafted named => exact Or.inr ⟨draft, drafted, named⟩
  | placed draft _ _ drafted named => exact Or.inr ⟨draft, drafted, named⟩
  | rewritten held old new holding unstored rewrites named was written =>
      obtain ⟨_, _, change⟩ := coherent.rewritten holding unstored rewrites
      obtain rfl := Option.some.inj (written.symm.trans present)
      rcases change.cases with ⟨_, status | status | status⟩ |
        ⟨_, status, _⟩ | ⟨_, status | status, _⟩ <;>
        · rw [waits] at status
          cases status

include pledged coherent undeciding admissible may in
/-- Every call of an operation that is not about an approval keeps what is said
about approvals. -/
theorem Pledged.step :
    Pledged (view.learn request (exec config request env world).1)
      (exec config request env world).2.ledger := by
  constructor
  case asked =>
      intro id action present waits
      have stays : (∃ draft, view.draft = some draft ∧ draft.id = id) →
          ∃ later, (view.learn request (exec config request env
            world).1).draft = some later ∧ later.id = id := by
        rintro ⟨draft, drafted, named⟩
        obtain ⟨later, drafting, same⟩ := View.draft_stays drafted may _
        exact ⟨later, drafting, same.trans named⟩
      rcases coherent.waited admissible may present waits with before | draft
      · exact (pledged.asked id action before waits).imp stays
          (asked_undeciding undeciding admissible may)
      · exact Or.inl (stays draft)
  case drafted =>
      intro draft drafted asked
      rcases View.asked_learn drafted asked with
        ⟨old, oldDrafted, named, before⟩ | ⟨approval, rfl⟩
      · rw [← named]
        exact asked_undeciding undeciding admissible may
          (pledged.drafted old oldDrafted before)
      · obtain ⟨old, oldDrafted, about, _⟩ := may
        obtain ⟨same, known, rfl⟩ := Option.map_eq_some_iff.mp drafted
        obtain rfl := Option.some.inj (oldDrafted.symm.trans known)
        exact ⟨env.uid, _, Table.get?_set_self _ _ _, about, by simp⟩
  case matched =>
      intro key approval stored id action about present ungranted
      rcases (approvals_undeciding undeciding admissible may).2 stored with
        before | pending
      · obtain ⟨named, old, aboutOld, was, _⟩ :=
          coherent.requested key approval before
        obtain rfl := Option.some.inj (aboutOld.symm.trans about)
        have waits := pledged.matched key approval before _ old about was
          ungranted
        have stays : (exec config request env world).2.ledger.actions.get? _ =
            some old :=
          coherent.waits_undeciding undeciding admissible may was waits
        obtain rfl := Option.some.inj (stays.symm.trans present)
        exact waits
      · obtain ⟨named, new, aboutNew, found, _, _, waits⟩ :=
          (coherent.step admissible may).requested key approval stored
        obtain rfl := Option.some.inj (aboutNew.symm.trans about)
        obtain rfl := Option.some.inj (found.symm.trans present)
        exact waits pending
  case ruled =>
      intro key approval stored unset
      rcases (approvals_undeciding undeciding admissible may).2 stored with
        before | pending
      · exact pledged.ruled key approval before unset
      · rw [pending] at unset
        cases unset

end Steps

/-- An operation that has asked for the approval it needs leaves no action
without one. -/
theorem Pledged.leave {view : View} {ledger : Ledger}
    (pledged : Pledged view ledger) (coherent : Coherent view ledger)
    (asked : view.Asked) : Pledged View.first ledger := by
  refine { pledged with asked := ?_, drafted := by simp }
  intro id action present waits
  right
  rcases pledged.asked id action present waits with
    ⟨draft, drafted, named⟩ | done
  · obtain ⟨stored, found, status, _⟩ := coherent.draft draft drafted
    rw [named, present, Option.some.injEq] at found
    rw [← found, waits] at status
    have placed : draft.status = some .awaitingApproval := by
      cases written : draft.status with
      | none => simp [written] at status
      | some placed =>
          rw [written, Option.getD_some] at status
          rw [status]
    rw [← named]
    exact pledged.drafted draft drafted (asked draft drafted placed)
  · exact done

/-! ## Decisions -/

section Decisions

variable {config : Config} {world : World} {ledger after : Ledger}
  {orgID approvalID decidedBy actionID : String} {now : Time} {old : Approval}
  {action : TxnAction}

/-- A denial leaves the action waiting, with its approval denied. -/
theorem Pledged.denied (pledged : Pledged View.first ledger)
    (present : ledger.approvals.get? approvalID = some old)
    (pending : old.status = .pending)
    (actions : after.actions = ledger.actions)
    (approvals : after.approvals =
      ledger.approvals.set approvalID (Ledger.decided now decidedBy false old)) :
    Pledged View.first after := by
  constructor
  · intro other action found waits
    rw [actions] at found
    right
    rcases pledged.asked other action found waits with
      ⟨_, drafted, _⟩ | ⟨key, approval, stored, about, ungranted⟩
    · cases drafted
    by_cases same : key = approvalID
    · subst same
      obtain rfl := Option.some.inj (present.symm.trans stored)
      refine ⟨key, Ledger.decided now decidedBy false old, ?_, about,
        by simp [Ledger.decided]⟩
      rw [approvals]
      exact Table.get?_set_self _ _ _
    · refine ⟨key, approval, ?_, about, ungranted⟩
      rw [approvals, Table.get?_set_of_ne _ _ same]
      exact stored
  · intro draft drafted
    cases drafted
  · rw [actions, approvals]
    refine Table.forall_get?_set ?_ ?_
    · intro key approval _
      exact pledged.matched key approval
    · intro other action about found _
      exact pledged.matched approvalID old present other action about found
        (by simp [pending])
  · rw [approvals]
    refine Table.forall_get?_set ?_ ?_
    · intro key approval _
      exact pledged.ruled key approval
    · simp [Ledger.decided]

/-- A grant moves the action on. -/
theorem Pledged.granted (pledged : Pledged View.first ledger)
    (coherent : Coherent View.first ledger)
    (present : ledger.approvals.get? approvalID = some old)
    (about : old.actionID = some actionID)
    (status : action.status = .approved)
    (actions : after.actions = ledger.actions.set actionID action)
    (approvals : after.approvals =
      ledger.approvals.set approvalID (Ledger.decided now decidedBy true old)) :
    Pledged View.first after := by
  -- No other approval is about the action.
  have apart {key other : String} {approval : Approval}
      (distinct : key ≠ approvalID)
      (stored : ledger.approvals.get? key = some approval)
      (named : approval.actionID = some other) : other ≠ actionID := by
    rintro rfl
    exact distinct (coherent.once key approval approvalID old stored present
      (named.trans about.symm))
  constructor
  · intro other waiting found waits
    rw [actions, Table.get?_set] at found
    split at found
    · obtain rfl := Option.some.inj found
      rw [status] at waits
      cases waits
    · rename_i different
      right
      rcases pledged.asked other waiting found waits with
        ⟨_, drafted, _⟩ | ⟨key, approval, stored, named, ungranted⟩
      · cases drafted
      refine ⟨key, approval, ?_, named, ungranted⟩
      rw [approvals, Table.get?_set_of_ne]
      · exact stored
      · rintro rfl
        obtain rfl := Option.some.inj (present.symm.trans stored)
        exact different (Option.some.inj (named.symm.trans about))
  · intro draft drafted
    cases drafted
  · rw [approvals]
    refine Table.forall_get?_set ?_ ?_
    · intro key approval distinct stored other waiting named found
      rw [actions, Table.get?_set_of_ne _ _ (apart distinct stored named)]
        at found
      exact pledged.matched key approval stored other waiting named found
    · intro other waiting _ _ ungranted
      exact absurd rfl ungranted
  · rw [approvals]
    refine Table.forall_get?_set ?_ ?_
    · intro key approval _
      exact pledged.ruled key approval
    · simp [Ledger.decided]

/-- Deciding an approval that waits adds a denied one exactly if it is
denied. -/
theorem Ledger.denied_decided {approve : Bool}
    (present : ledger.approvals.get? approvalID = some old)
    (pending : old.status = .pending)
    (approvals : after.approvals =
      ledger.approvals.set approvalID (Ledger.decided now decidedBy approve old)) :
    after.Denied ↔ ledger.Denied ∨ approve = false := by
  rw [Ledger.Denied, approvals]
  constructor
  · rintro ⟨key, approval, stored, denied⟩
    rw [Table.get?_set] at stored
    split at stored
    · obtain rfl := Option.some.inj stored
      right
      cases approve with
      | true => cases denied
      | false => rfl
    · exact Or.inl ⟨key, approval, stored, denied⟩
  · rintro (⟨key, approval, stored, denied⟩ | rfl)
    · refine ⟨key, approval, ?_, denied⟩
      rw [Table.get?_set_of_ne]
      · exact stored
      · rintro rfl
        rw [present, Option.some.injEq] at stored
        rw [← stored, pending] at denied
        cases denied
    · exact ⟨approvalID, _, Table.get?_set_self _ _ _, rfl⟩

/-- The grant of an approval marks its action and no other. -/
theorem applyGrant_ends {approval : Approval}
    (about : approval.actionID = some actionID)
    (found : world.ledger.getAction orgID actionID = some action)
    (named : action.id = actionID) :
    Ends config (Api.applyGrant orgID approval)
      (fun _ last => last.ledger.approvals = world.ledger.approvals ∧
        last.ledger.actions = world.ledger.actions.set actionID
          { action with status := .approved }) world := by
  subst named
  have marked : ∀ env, (exec config (.updateAction { action with
      status := .approved }) env world).2.ledger.actions =
        world.ledger.actions.set action.id
          { action with status := .approved } := by
    intro env
    have stored : world.ledger.actions.get?
        { action with status := .approved }.id = some action :=
      (Ledger.getAction_eq_some.mp found).1
    exact congrArg Ledger.actions (Ledger.updateAction_of_present stored)
  simp only [Api.applyGrant, about, Prog.perform_bind]
  intro reading _
  rw [show (exec config (.getAction orgID action.id) reading world).1 =
    some action from found]
  intro writing _ loading _
  have kept : (exec config (.updateAction { action with
      status := .approved }) writing world).2.ledger.approvals =
        world.ledger.approvals := approvals_exec id
  dsimp only
  split
  · exact ⟨kept, marked writing⟩
  · intro moving _
    exact ⟨(approvals_exec id).trans kept,
      (actions_exec id).trans (marked writing)⟩

/-- The denial of an approval leaves every action as it is. -/
theorem applyDenial_ends (approval : Approval) :
    Ends config (Api.applyDenial orgID approval)
      (fun _ last => last.ledger.approvals = world.ledger.approvals ∧
        last.ledger.actions = world.ledger.actions) world := by
  simp only [Api.applyDenial, Prog.perform_bind]
  intro loading _
  dsimp only
  split
  · exact ⟨rfl, rfl⟩
  · intro moving _
    exact ⟨approvals_exec id, actions_exec id⟩

/-- A decision on an approval keeps what is said about approvals.  It adds a
denied one exactly if it denies one that waits. -/
theorem decideOn_ends (coherent : Coherent View.first world.ledger)
    (pledged : Pledged View.first world.ledger) (approve : Bool) :
    Ends config (Api.decideOn orgID approvalID decidedBy approve)
      (fun _ last => Pledged View.first last.ledger ∧
        (last.ledger.Denied ↔ world.ledger.Denied ∨
          approve = false ∧ world.ledger.Waits orgID approvalID)) world := by
  simp only [Api.decideOn, Prog.perform_bind]
  intro env _
  cases done : (world.ledger.decideApproval env.now orgID approvalID decidedBy
      approve).1 with
  | none =>
      rw [show (exec config (.decideApproval orgID approvalID decidedBy approve)
        env world).1 = none from done]
      have same : (exec config (.decideApproval orgID approvalID decidedBy
          approve) env world).2.ledger = world.ledger :=
        Ledger.decideApproval_of_none done
      have idle := Ledger.decideApproval_eq_none.mp done
      refine ⟨same ▸ pledged, ?_⟩
      rw [same]
      simp [idle]
  | some approval =>
      rw [show (exec config (.decideApproval orgID approvalID decidedBy approve)
        env world).1 = some approval from done]
      obtain ⟨old, present, sameOrg, pending, rfl, written⟩ :=
        Ledger.decideApproval_of_some done
      have waits : world.ledger.Waits orgID approvalID :=
        ⟨old, present, sameOrg, pending⟩
      simp only [waits, and_true]
      obtain ⟨actionID, action, about, found, owned, _⟩ :=
        coherent.requested approvalID old present
      have named := coherent.keyed.action actionID action found
      intro telling _
      have decided : (exec config (.decideApproval orgID approvalID decidedBy
          approve) env world).2.ledger = { world.ledger with
            approvals := world.ledger.approvals.set approvalID
              (Ledger.decided env.now decidedBy approve old) } := written
      generalize (exec config (.decideApproval orgID approvalID decidedBy
        approve) env world).2 = ruled at decided ⊢
      have told (event : AuditEvent) :
          (exec config (.emit event) telling ruled).2.ledger = _ :=
        (ledger_exec_of_not_writes id).trans decided
      cases approve with
      | true =>
          have known (event : AuditEvent) : (exec config (.emit event) telling
              ruled).2.ledger.getAction orgID actionID = some action := by
            rw [told, Ledger.getAction_eq_some]
            exact ⟨found, owned.trans sameOrg⟩
          have aboutSame : (Ledger.decided env.now decidedBy true
            old).actionID = some actionID := about
          refine (applyGrant_ends aboutSame (known _) named).bind ?_
          rintro _ last ⟨kept, marked⟩
          rw [told] at kept marked
          exact ⟨pledged.granted coherent present about rfl marked kept,
            Ledger.denied_decided present pending kept⟩
      | false =>
          refine (applyDenial_ends _).bind ?_
          rintro _ last ⟨kept, unmarked⟩
          rw [told] at kept unmarked
          exact ⟨pledged.denied present pending unmarked kept,
            Ledger.denied_decided present pending kept⟩

theorem Operation.denies_decideApproval {request : Api.Request}
    {parts : List String} {body : Api.Decoded Api.DecideBody}
    (routed : request.route = .decideApproval parts body) :
    (Operation.http request).Denies world ↔
      request.callerIsOperator = true ∧ body.value.approve = false ∧
        ∃ id, parts = [id, "decide"] ∧ world.ledger.Waits request.orgOf id := by
  constructor
  · rintro ⟨_, id, _, same, operator, asked, refused, waits⟩
    obtain rfl := Operation.http.inj same
    cases routed.symm.trans asked
    exact ⟨operator, refused, id, rfl, waits⟩
  · rintro ⟨operator, refused, id, rfl, waits⟩
    exact ⟨request, id, body, rfl, operator, routed, refused, waits⟩

/-- The same for every operation that is about an approval. -/
theorem Operation.decide_ends {operation : Operation} {approve : Bool}
    (decides : operation.intent = .decide orgID approvalID approve)
    (coherent : Coherent View.first world.ledger)
    (pledged : Pledged View.first world.ledger) :
    Ends config (operation.program config)
      (fun _ last => Pledged View.first last.ledger ∧
        (last.ledger.Denied ↔
          world.ledger.Denied ∨ operation.Denies world)) world := by
  cases operation with
  | http request =>
      obtain ⟨caller, traceID, route⟩ := request
      cases route with
      | decideApproval parts body =>
          rw [Operation.denies_decideApproval rfl]
          refine Prog.Yields.bind ?_ fun _ _ done => done
          simp only [Api.handle, Api.handleDecideApproval]
          split
          · rename_i agent
            refine ⟨pledged, ?_⟩
            rw [Bool.not_eq_true'] at agent
            simp [agent]
          rename_i operator
          rw [Bool.not_eq_true', Bool.not_eq_false] at operator
          split
          · refine (decideOn_ends coherent pledged _).mono ?_
            rintro _ last ⟨kept, denied⟩
            refine ⟨kept, denied.trans (or_congr_right ?_)⟩
            simp [operator]
          · rename_i unrouted
            refine ⟨pledged, (or_iff_left ?_).symm⟩
            rintro ⟨_, _, id, same, _⟩
            exact unrouted id same
      | _ =>
          simp only [Operation.intent, Api.Request.intent] at decides
          first | cases decides | (split at decides <;> simp_all)
  | _ => cases decides

/-- Only operations that are about an approval deny one. -/
theorem Intent.Undeciding.not_denies {operation : Operation}
    (undeciding : operation.intent.Undeciding) : ¬ operation.Denies world := by
  rintro ⟨request, id, body, rfl, _, routed, _⟩
  refine undeciding request.orgOf id body.value.approve ?_
  simp only [Operation.intent, Api.Request.intent, routed]

end Decisions

/-! ## Runs -/

section Runs

variable {config : Config} {world : World} {arrivals : List Arrival}

/-- Carrying an operation to its end keeps what is said about approvals.  It
adds a denied one exactly if it denies one that waits. -/
theorem Pledged.complete {arrival : Arrival}
    (pledged : Pledged View.first world.ledger)
    (coherent : Coherent View.first world.ledger)
    (fresh : ∀ mark ∈ (arrival.complete config world).2.2,
      Admissible mark.before mark.env) :
    Pledged View.first (arrival.complete config world).2.1.ledger ∧
      ((arrival.complete config world).2.1.ledger.Denied ↔
        world.ledger.Denied ∨ arrival.operation.Denies world) := by
  by_cases undeciding : arrival.operation.intent.Undeciding
  swap
  · simp only [Intent.Undeciding, not_forall, not_not] at undeciding
    obtain ⟨orgID, id, approve, decides⟩ := undeciding
    exact (Operation.decide_ends decides coherent pledged).complete
      arrival.operation arrival.envs fun _ _ => trivial
  simp only [undeciding.not_denies, or_false]
  let inv (view : View) (state : World) : Prop :=
    Coherent view state.ledger ∧ view.Purposeful arrival.operation.intent ∧
      Pledged view state.ledger ∧ (state.ledger.Denied ↔ world.ledger.Denied)
  let post (_ : Outcome) (view : View) : Prop := view.Settled ∧
    (arrival.operation.proposal ≠ none → view.Asked)
  have obeys : (arrival.operation.program config).Obeys
      (roleOf arrival.operation.intent) post View.first := by
    refine (arrival.operation.obeys config).and ?_
    cases proposes : arrival.operation.proposal with
    | none => exact Prog.obeys_of_forall _ (fun _ _ => trivial) (by simp) _
    | some proposal =>
        exact (arrival.operation.asks config proposes).mono
          fun _ _ asked _ => asked
  have fits : ∀ (view : View) (state : World) (request : Call) (env : Env),
      inv view state → Admissible state env →
        (roleOf arrival.operation.intent).fits request
          (exec config request env state).1 :=
    fun _ _ request _ holds _ => fits_exec request holds.1.keyed
  have step : ∀ (view : View) (state : World) (request : Call) (env : Env),
      inv view state → Admissible state env →
        May arrival.operation.intent view request →
          inv (view.learn request (exec config request env state).1)
            (exec config request env state).2 := by
    rintro view state request env ⟨coherent, purposeful, pledged, denied⟩
      admissible may
    exact ⟨coherent.step admissible may,
      purposeful.learn may (fits_exec request coherent.keyed),
      pledged.step coherent undeciding admissible may,
      (denied_undeciding undeciding admissible may).trans denied⟩
  obtain ⟨⟨last, ⟨_, asks⟩, left, purposeful, kept, denied⟩, _⟩ :=
    Prog.complete_of_obeys (exec config) fits step obeys
      ⟨coherent, ⟨by simp, by simp⟩, pledged, Iff.rfl⟩ arrival.operation
      arrival.envs fresh
  have asked : last.Asked := by
    intro draft drafted
    obtain ⟨key, proposes⟩ := purposeful.draft draft drafted
    obtain ⟨proposal, proposed⟩ := Operation.exists_proposal proposes
    exact asks (by simp [proposed]) draft drafted
  exact ⟨kept.leave left asked, denied⟩

/-- The run has a denial before its last arrival or by it. -/
theorem exists_split_concat {property : List Arrival → Arrival → Prop}
    {earlier : List Arrival} {last : Arrival} :
    (∃ first arrival later, earlier ++ [last] = first ++ arrival :: later ∧
        property first arrival) ↔
      (∃ first arrival later, earlier = first ++ arrival :: later ∧
        property first arrival) ∨ property earlier last := by
  constructor
  · rintro ⟨first, arrival, later, split, holds⟩
    rcases List.eq_nil_or_concat' later with rfl | ⟨later, final, rfl⟩
    · obtain ⟨rfl, same⟩ := List.append_inj' split rfl
      obtain rfl := List.singleton_inj.mp same
      exact Or.inr holds
    · rw [← List.cons_append, ← List.append_assoc] at split
      exact Or.inl ⟨first, arrival, later, (List.append_inj' split rfl).1,
        holds⟩
  · rintro (⟨first, arrival, later, rfl, holds⟩ | holds)
    · exact ⟨first, arrival, later ++ [last], by simp, holds⟩
    · exact ⟨earlier, last, [], rfl, holds⟩

theorem pledged_sequential (initial : world.Initial)
    (fresh : FreshRun config world arrivals) :
    Pledged View.first (sequential config world arrivals).state.ledger ∧
      ((sequential config world arrivals).state.ledger.Denied ↔
        ∃ earlier arrival later, arrivals = earlier ++ arrival :: later ∧
          arrival.operation.Denies (sequential config world earlier).state) := by
  induction arrivals using List.reverseRecOn with
  | nil =>
      have empty : (sequential config world []).state.ledger = Ledger.empty :=
        initial
      rw [empty]
      constructor
      · constructor <;> simp [Ledger.empty]
      · simp [Ledger.Denied, Ledger.empty]
  | append_singleton earlier arrival inductionHypothesis =>
      obtain ⟨pledged, denied⟩ := inductionHypothesis fresh.earlier
      obtain ⟨kept, more⟩ := pledged.complete
        (sequential_coherent initial fresh.earlier).1
        fun mark made => fresh mark (marks_complete_subset made)
      rw [state_concat, exists_split_concat, more, denied]
      exact ⟨kept, Iff.rfl⟩

/-- Where no operation is running, approvals and actions match as long as no
approval was denied. -/
theorem Pledged.approvalsMatch_iff {ledger : Ledger}
    (pledged : Pledged View.first ledger)
    (coherent : Coherent View.first ledger) :
    ledger.ApprovalsMatch ↔ ¬ ledger.Denied := by
  constructor
  · rintro ⟨_, matched⟩ ⟨key, approval, stored, denied⟩
    obtain ⟨id, action, about, present, _⟩ :=
      coherent.requested key approval stored
    have waits := pledged.matched key approval stored id action about present
      (by simp [denied])
    have refused := matched key approval id action stored about present denied
    rw [waits] at refused
    cases refused
  · intro undenied
    have pending {key : String} {approval : Approval}
        (stored : ledger.approvals.get? key = some approval)
        (ungranted : approval.status ≠ .approved) :
        approval.status = .pending := by
      have ruled := pledged.ruled key approval stored
      cases status : approval.status with
      | unset => exact absurd status ruled
      | pending => rfl
      | approved => exact absurd status ungranted
      | denied => exact absurd ⟨key, approval, stored, status⟩ undenied
    refine ⟨fun id action present => ⟨fun waits => ?_, ?_⟩, ?_⟩
    · rcases pledged.asked id action present waits with
        ⟨_, drafted, _⟩ | ⟨key, approval, stored, about, ungranted⟩
      · cases drafted
      refine ⟨key, ⟨approval, stored, about, pending stored ungranted⟩, ?_⟩
      rintro other ⟨another, found, named, _⟩
      exact coherent.once other another key approval found stored
        (named.trans about.symm)
    · rintro ⟨key, ⟨approval, stored, about, waiting⟩, _⟩
      exact pledged.matched key approval stored id action about present
        (by simp [waiting])
    · intro key approval id action stored _ _ denied
      exact absurd ⟨key, approval, stored, denied⟩ undenied

/-- In a sequential run approvals and actions match in the state that is
reached exactly if no operation of the run denies an approval that waits. -/
theorem approvals_match_iff (initial : world.Initial)
    (fresh : FreshRun config world arrivals) :
    (sequential config world arrivals).state.ledger.ApprovalsMatch ↔
      ∀ earlier arrival later, arrivals = earlier ++ arrival :: later →
        ¬ arrival.operation.Denies (sequential config world earlier).state := by
  obtain ⟨pledged, denied⟩ := pledged_sequential initial fresh
  rw [pledged.approvalsMatch_iff (sequential_coherent initial fresh).1, denied]
  constructor
  · intro undenied earlier arrival later split denies
    exact undenied ⟨earlier, arrival, later, split, denies⟩
  · rintro none ⟨earlier, arrival, later, split, denies⟩
    exact none earlier arrival later split denies

end Runs

/-- A refund is proposed, and the operator decides on its approval. -/
def Sample.ruledRefund (approve : Bool) : List Arrival :=
  inTurn [create, propose "id1" "stripe" "refund" none "k",
    decideApproval "id113" approve]

/-- The refund is approved with its approval. -/
theorem approvals_match_iff_granted :
    let ledger := (sequential Sample.config Sample.world
      (Sample.ruledRefund true)).state.ledger
    (ledger.actions.get? "id103").map TxnAction.status = some .approved ∧
      (ledger.approvals.get? "id113").map Approval.status = some .approved ∧
      ledger.ApprovalsMatch := by
  refine ⟨by decide +kernel, by decide +kernel, ?_⟩
  refine (approvals_match_iff Sample.initial (by decide +kernel)).mpr ?_
  intro earlier arrival later split
  have arrived : arrival ∈ Sample.ruledRefund true := by simp [split]
  rintro ⟨request, id, body, asked, _, routed, refused, _⟩
  simp only [Sample.ruledRefund, Sample.inTurn, List.zipIdx_cons,
    List.zipIdx_nil, List.map_cons, List.map_nil, List.mem_cons,
    List.not_mem_nil, or_false] at arrived
  rcases arrived with rfl | rfl | rfl <;>
    · obtain rfl := Operation.http.inj asked
      cases routed <;> cases refused

/-- A denied refund still waits for approval, and no approval waits for a
decision on it. -/
theorem denied_refund_waits :
    let arrivals := Sample.ruledRefund false
    (∀ arrival ∈ arrivals, arrival.operation.IsHTTP) ∧
      FreshRun Sample.config Sample.world arrivals ∧
      ¬ (sequential Sample.config Sample.world
        arrivals).state.ledger.ApprovalsMatch := by
  refine ⟨by decide +kernel, by decide +kernel, ?_⟩
  rintro ⟨_, matched⟩
  have denied : ((sequential Sample.config Sample.world
      (Sample.ruledRefund false)).state.ledger.approvals.get? "id113").map
        (fun approval => (approval.actionID, approval.status)) =
      some (some "id103", .denied) := by decide +kernel
  have waits : ((sequential Sample.config Sample.world
      (Sample.ruledRefund false)).state.ledger.actions.get? "id103").map
        TxnAction.status = some .awaitingApproval := by decide +kernel
  obtain ⟨approval, stored, ruled⟩ := Option.map_eq_some_iff.mp denied
  obtain ⟨about, status⟩ := Prod.mk.inj ruled
  obtain ⟨action, present, waiting⟩ := Option.map_eq_some_iff.mp waits
  have refused := matched "id113" approval "id103" action stored about present
    status
  rw [waiting] at refused
  cases refused

end SettleAgent
