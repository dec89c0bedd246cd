import SettleAgent.Concurrent.Linked
import SettleAgent.Tenancy.Role

/-!
# Idempotent proposals

Requests interleave freely, and each of them may be delivered any number of
times.  The index by organization, transaction and idempotency key is a
bijection with the action records throughout: an entry is only ever set for a
key that has none, or again to what it is.  So all proposals with one key are
answered with one action, whichever of them came first.
-/

namespace SettleAgent

open Interaction Gateway

/-! ## The index -/

/-- The two actions were proposed with the same key, in the same transaction
and organization. -/
structure SameKey (first second : TxnAction) : Prop where
  orgID : first.orgID = second.orgID
  transactionID : first.transactionID = second.transactionID
  idempotencyKey : first.idempotencyKey = second.idempotencyKey

namespace SameKey

variable {first second third : TxnAction}

theorem refl (action : TxnAction) : SameKey action action :=
  ⟨rfl, rfl, rfl⟩

theorem symm (same : SameKey first second) : SameKey second first :=
  ⟨same.orgID.symm, same.transactionID.symm, same.idempotencyKey.symm⟩

theorem trans (left : SameKey first second) (right : SameKey second third) :
    SameKey first third :=
  ⟨left.orgID.trans right.orgID,
    left.transactionID.trans right.transactionID,
    left.idempotencyKey.trans right.idempotencyKey⟩

theorem keyOf_eq (same : SameKey first second) :
    Ledger.keyOf first = Ledger.keyOf second := by
  rw [Ledger.keyOf, Ledger.keyOf, same.orgID, same.transactionID,
    same.idempotencyKey]

end SameKey

/-- What an operation writes back has the key of its copy. -/
theorem Rewrites.sameKey {intent : Intent} {view : View} {held : Held}
    {action : TxnAction} (rewrites : Rewrites intent view held action) :
    action.id = held.record.id ∧ SameKey held.record action := by
  cases rewrites with
  | ran orgID actionID outcome action executes runnable dispatched revises =>
      rw [show action = _ from revises]
      exact ⟨rfl, rfl, rfl, rfl⟩
  | settled orgID actionID answer action reconciles uncertain answered
      revises =>
      rw [show action = _ from revises]
      exact ⟨rfl, rfl, rfl, rfl⟩
  | granted => exact ⟨rfl, rfl, rfl, rfl⟩
  | undone => exact ⟨rfl, rfl, rfl, rfl⟩

namespace Ledger

/-- The idempotency index lists exactly the action records. -/
structure Catalogued (ledger : Ledger) : Prop where
  indexed : ledger.Indexed
  listed : ∀ id action, ledger.actions.get? id = some action →
    ledger.byIdem.get? (keyOf action) = some id

/-- The records are still there with their keys, and so are the index
entries. -/
structure KeepsKeys (before after : Ledger) : Prop where
  record : ∀ id old, before.actions.get? id = some old →
    ∃ new, after.actions.get? id = some new ∧ SameKey old new
  entry : ∀ key id, before.byIdem.get? key = some id →
    after.byIdem.get? key = some id

theorem KeepsKeys.refl (ledger : Ledger) : KeepsKeys ledger ledger :=
  ⟨fun _ old present => ⟨old, present, .refl old⟩, fun _ _ entry => entry⟩

namespace Catalogued

variable {ledger : Ledger} {id : String} {action old : TxnAction}

variable (catalogued : ledger.Catalogued)

include catalogued

theorem of_same {after : Ledger} (actions : after.actions = ledger.actions)
    (byIdem : after.byIdem = ledger.byIdem) :
    after.Catalogued ∧ KeepsKeys ledger after := by
  refine ⟨⟨?_, ?_⟩, ?_, ?_⟩
  · rw [Indexed, actions, byIdem]
    exact catalogued.indexed
  · rw [actions, byIdem]
    exact catalogued.listed
  · rw [actions]
    exact fun _ record present => ⟨record, present, .refl record⟩
  · rw [byIdem]
    exact fun _ _ entry => entry

/-- Writing a record in the place of one with the same key, or in an empty
place, together with its entry. -/
theorem write {byIdem : Table String}
    (kept : ∀ old, ledger.actions.get? id = some old → SameKey old action)
    (index : ∀ key target, byIdem.get? key = some target ↔
      ledger.byIdem.get? key = some target ∨
        (key = keyOf action ∧ target = id)) :
    let after : Ledger := { ledger with
      actions := ledger.actions.set id action
      byIdem := byIdem }
    after.Catalogued ∧ KeepsKeys ledger after := by
  have written : (ledger.actions.set id action).get? id = some action :=
    Table.get?_set_self _ _ _
  refine ⟨⟨?_, ?_⟩, ?_, ?_⟩
  · exact catalogued.indexed.of_action
      (fun old present => (kept old present).keyOf_eq)
      fun key target => (index key target).mp
  · apply Table.forall_get?_set
    · intro other record different present
      apply (index _ _).mpr
      exact Or.inl (catalogued.listed other record present)
    · exact (index _ _).mpr (Or.inr ⟨rfl, rfl⟩)
  · intro other record present
    by_cases same : other = id
    · subst same
      exact ⟨action, written, kept record present⟩
    · exact ⟨record, (Table.get?_set_of_ne _ _ same).trans present,
        .refl record⟩
  · intro key target entry
    exact (index key target).mpr (Or.inl entry)

/-- One key, one record. -/
theorem unique {other : String} {another : TxnAction}
    (present : ledger.actions.get? id = some action)
    (present' : ledger.actions.get? other = some another)
    (same : SameKey action another) : id = other := by
  have entry := catalogued.listed _ _ present
  rw [same.keyOf_eq, catalogued.listed _ _ present'] at entry
  exact (Option.some.inj entry).symm

theorem updateAction (present : ledger.actions.get? action.id = some old)
    (kept : SameKey old action) :
    (ledger.updateAction action).Catalogued ∧
      KeepsKeys ledger (ledger.updateAction action) := by
  rw [updateAction_of_present present]
  have entry : ledger.byIdem.get? (keyOf action) = some action.id := by
    rw [← kept.keyOf_eq]
    exact catalogued.listed _ _ present
  apply catalogued.write
  · intro record stored
    rw [present, Option.some.injEq] at stored
    rwa [← stored]
  · intro key target
    constructor
    · exact index_set key target
    · rintro (held | ⟨rfl, rfl⟩)
      · rw [Table.get?_set]
        split
        · rename_i same
          rw [same, entry] at held
          exact held
        · exact held
      · exact Table.get?_set_self _ _ _

theorem modifyStored {change : TxnAction → TxnAction}
    (kept : ∀ action, SameKey action (change action)) :
    (ledger.modifyStored id change).Catalogued ∧
      KeepsKeys ledger (ledger.modifyStored id change) := by
  cases found : ledger.actions.get? id with
  | none =>
      rw [Ledger.modifyStored, found]
      exact ⟨catalogued, .refl ledger⟩
  | some record =>
      rw [modifyStored_of_present change found]
      apply catalogued.write
      · intro stored present
        rw [found, Option.some.injEq] at present
        rw [← present]
        exact kept record
      · intro key target
        constructor
        · exact Or.inl
        · rintro (held | ⟨rfl, rfl⟩)
          · exact held
          · rw [← (kept record).keyOf_eq]
            exact catalogued.listed _ _ found

theorem updateStored (keyed : ledger.WellKeyed) :
    (ledger.updateStored id).Catalogued ∧
      KeepsKeys ledger (ledger.updateStored id) := by
  cases found : ledger.actions.get? id with
  | none =>
      rw [Ledger.updateStored, found]
      exact ⟨catalogued, .refl ledger⟩
  | some record =>
      rw [Ledger.updateStored, found]
      have own := keyed.action _ _ found
      exact catalogued.updateAction (own.symm ▸ found) (.refl record)

/-- Adding an action, or finding the one that is there, leaves the entry of its
key pointing to what the call returns. -/
theorem addAction {hashing : Hashing} {uid : String} (keyed : ledger.WellKeyed)
    (fresh : ledger.actions.get? uid = none) (now : Time) :
    let added := ledger.addAction hashing uid now action
    added.2.Catalogued ∧ KeepsKeys ledger added.2 ∧
      added.2.byIdem.get? (keyOf action) = some added.1.1.id := by
  cases found : ledger.byIdem? (keyOf action) with
  | some previous =>
      rw [addAction_of_duplicate _ _ found]
      obtain ⟨id, entry, present⟩ := Option.bind_eq_some_iff.mp found
      refine ⟨catalogued, .refl ledger, ?_⟩
      rw [keyed.action _ _ present]
      exact entry
  | none =>
      rw [addAction_of_new _ _ found]
      have free : ledger.byIdem.get? (keyOf action) = none := by
        by_contra occupied
        obtain ⟨id, entry⟩ := Option.ne_none_iff_exists'.mp occupied
        obtain ⟨record, present, _⟩ := catalogued.indexed _ _ entry
        rw [byIdem?, entry, Option.bind_some, present] at found
        cases found
      refine and_assoc.mp ⟨catalogued.write ?_ ?_, Table.get?_set_self _ _ _⟩
      · intro old present
        rw [fresh] at present
        cases present
      · intro key target
        constructor
        · exact index_set key target
        · rintro (held | ⟨rfl, rfl⟩)
          · rw [Table.get?_set_of_ne]
            · exact held
            · rintro rfl
              rw [free] at held
              cases held
          · exact Table.get?_set_self _ _ _

end Catalogued
end Ledger

/-! ## Steps -/

section Steps

variable {config : Config} {intent : Intent} {view : View} {request : Call}
  {env : Env} {world : World}

/-- The copy in hand is of a record that is stored with the same key. -/
def Recalls (view : View) (ledger : Ledger) : Prop :=
  ∀ held, view.held = some held → ∃ stored,
    ledger.actions.get? held.record.id = some stored ∧
      SameKey held.record stored

theorem Recalls.kept {before after : Ledger} (recalls : Recalls view before)
    (keeps : before.KeepsKeys after) : Recalls view after := by
  intro held holding
  obtain ⟨stored, present, same⟩ := recalls held holding
  obtain ⟨later, kept, same'⟩ := keeps.record _ _ present
  exact ⟨later, kept, same.trans same'⟩

theorem catalogued_exec
    (catalogued : world.ledger.Catalogued) (keyed : world.ledger.WellKeyed)
    (admissible : Admissible world env) (recalls : Recalls view world.ledger)
    (may : May intent view request) :
    let after := (exec config request env world).2.ledger
    after.Catalogued ∧ world.ledger.KeepsKeys after := by
  by_cases writes : request.WritesActions
  swap
  · exact catalogued.of_same (actions_exec writes) (byIdem_exec writes)
  cases request with
  | addAction action =>
      obtain ⟨after, keeps, _⟩ := catalogued.addAction keyed
        admissible.1.action env.now
      exact ⟨after, keeps⟩
  | updateAction action =>
      obtain ⟨held, holding, _, rewrites⟩ := may
      obtain ⟨named, same⟩ := rewrites.sameKey
      obtain ⟨stored, present, same'⟩ := recalls held holding
      rw [← named] at present
      exact catalogued.updateAction present (same'.symm.trans same)
  | setStoredDecision id decision =>
      exact catalogued.modifyStored fun _ => ⟨rfl, rfl, rfl⟩
  | setStoredStatus id status =>
      exact catalogued.modifyStored fun _ => ⟨rfl, rfl, rfl⟩
  | updateStored id => exact catalogued.updateStored keyed
  | _ => exact writes.elim

/-- A copy that is read is of the record that is stored. -/
theorem recalls_learn
    (keyed : world.ledger.WellKeyed) (recalls : Recalls view world.ledger)
    (keeps : world.ledger.KeepsKeys (exec config request env world).2.ledger) :
    Recalls (view.learn request (exec config request env world).1)
      (exec config request env world).2.ledger := by
  intro held holding
  rcases View.held_learn holding with
    ⟨old, oldHolding, same⟩ | ⟨orgID, id, rfl⟩
  · rw [same]
    exact recalls.kept keeps old oldHolding
  · obtain ⟨record, found, rfl⟩ := Option.map_eq_some_iff.mp holding
    have present := (Ledger.getAction_eq_some.mp found).1
    refine ⟨record, ?_, .refl record⟩
    rw [keyed.action _ _ present]
    exact present

end Steps

/-! ## What proposals are told -/

/-- The key under which an action was added last, and the action that the call
returned. -/
def heardFrom (heard : Option (String × String)) :
    (request : Call) → request.Resp → Option (String × String)
  | .addAction action, (stored, _) => some (Ledger.keyOf action, stored.id)
  | _, _ => heard

/-- What was heard is what the index says. -/
theorem heardFrom_indexed {config : Config} {request : Call} {env : Env}
    {world : World} {heard : Option (String × String)}
    (catalogued : world.ledger.Catalogued) (keyed : world.ledger.WellKeyed)
    (admissible : Admissible world env)
    (keeps : world.ledger.KeepsKeys (exec config request env world).2.ledger)
    (before : ∀ key id, heard = some (key, id) →
      world.ledger.byIdem.get? key = some id) :
    ∀ key id, heardFrom heard request (exec config request env world).1 =
        some (key, id) →
      (exec config request env world).2.ledger.byIdem.get? key = some id := by
  intro key id after
  cases request with
  | addAction action =>
      obtain ⟨_, _, entry⟩ := catalogued.addAction keyed
        admissible.1.action env.now
      obtain ⟨rfl, rfl⟩ := Prod.mk.inj (Option.some.inj after)
      exact entry
  | _ => exact keeps.entry key id (before key id after)

/-- The role that only listens. -/
def listener : Role Call Call.Resp (Option (String × String)) where
  learn := heardFrom
  may := fun _ _ => True
  fits := fun _ _ => True

/-- The action in a response. -/
def Api.Response.action? (response : Api.Response) : Option TxnAction :=
  match response.body with
  | .action action => some action
  | _ => none

/-- The action that an operation returns if it succeeds. -/
def Outcome.action? : Outcome → Option TxnAction
  | .response answer => answer.action?
  | .action result => result.toOption
  | _ => none

/-- A returned action is the one that was heard of under the key. -/
def Told (key : String) (returned : Option TxnAction)
    (heard : Option (String × String)) : Prop :=
  ∀ action, returned = some action → heard = some (key, action.id)

theorem Told.nothing (key : String) (heard : Option (String × String)) :
    Told key none heard := by
  rintro action ⟨⟩

section Proposals

variable {config : Config} {traceID orgID txnID agentID : String}
  {txn : Transaction} {agent : Agent} {stored : TxnAction}
  {amount : Option Int} {decision : PolicyDecision}
  {heard : Option (String × String)}

theorem recordDecision_heard :
    (recordDecision txn orgID txnID agentID stored amount decision).Obeys
      listener (fun action after => action.id = stored.id ∧ after = heard)
      heard := by
  unfold recordDecision
  split
  · exact ⟨trivial, fun _ _ => ⟨trivial, fun _ _ => ⟨trivial, fun _ _ =>
      ⟨trivial, fun _ _ => ⟨rfl, rfl⟩⟩⟩⟩⟩
  · exact ⟨trivial, fun _ _ => ⟨trivial, fun _ _ => ⟨trivial, fun _ _ =>
      ⟨trivial, fun _ _ => ⟨trivial, fun _ _ => ⟨trivial, fun _ _ =>
        ⟨rfl, rfl⟩⟩⟩⟩⟩⟩⟩
  · exact ⟨trivial, fun _ _ => ⟨trivial, fun _ _ => ⟨trivial, fun _ _ =>
      ⟨rfl, rfl⟩⟩⟩⟩

theorem screened_heard :
    (screened config orgID txnID agent stored decision).Obeys listener
      (fun _ after => after = heard) heard := by
  have risk : (jevScreenRisk config orgID txnID agent stored).Obeys listener
      (fun _ after => after = heard) heard := by
    unfold jevScreenRisk
    split
    · exact ⟨trivial, fun _ _ => ⟨trivial, fun _ _ => rfl⟩⟩
    · rfl
  unfold screened
  split
  · refine risk.bind ?_
    rintro (_ | why) after rfl
    · rfl
    · exact ⟨trivial, fun _ _ => rfl⟩
  · rfl

theorem authorize_heard :
    (authorize config traceID txn agent orgID txnID agentID stored
      amount).Obeys listener
        (fun action after => action.id = stored.id ∧ after = heard) heard := by
  have judged : (judge config txn agent orgID txnID agentID stored
      amount).Obeys listener
        (fun action after => action.id = stored.id ∧ after = heard) heard := by
    refine ⟨trivial, fun _ _ => ⟨trivial, fun _ _ => ⟨trivial, fun _ _ =>
      ⟨trivial, fun _ _ => ?_⟩⟩⟩⟩
    refine screened_heard.bind ?_
    rintro final after rfl
    exact recordDecision_heard
  simp only [authorize, Prog.perform_bind]
  refine ⟨trivial, fun _ _ => ⟨trivial, fun _ _ => ?_⟩⟩
  dsimp only
  split
  · refine ⟨trivial, fun _ _ => ?_⟩
    split
    · exact judged
    · exact ⟨trivial, fun _ _ => ⟨trivial, fun _ _ => ⟨trivial, fun _ _ =>
        ⟨trivial, fun _ _ => ⟨rfl, rfl⟩⟩⟩⟩⟩
  · exact judged

theorem proposeAction_told {tool action idemKey : String} {arguments : Object} :
    (proposeAction config traceID orgID txnID agentID tool action arguments
      idemKey).Obeys listener
        (fun out after =>
          Told (Ledger.idemKey orgID txnID idemKey) out.toOption after)
        heard := by
  simp only [proposeAction, Prog.perform_bind]
  refine ⟨trivial, ?_⟩
  rintro (_ | txn) _
  · exact Told.nothing _ _
  dsimp only
  split
  · exact Told.nothing _ _
  refine ⟨trivial, ?_⟩
  rintro (_ | agent) _
  · exact Told.nothing _ _
  refine ⟨trivial, fun classes _ => ⟨trivial, ?_⟩⟩
  rintro ⟨stored, duplicate⟩ _
  dsimp only
  split
  · refine ⟨trivial, fun _ _ => ?_⟩
    rintro returned ⟨⟩
    rfl
  · refine authorize_heard.bind ?_
    rintro decided after ⟨named, rfl⟩ returned ⟨⟩
    rw [named]
    rfl

/-- What is told of a proposal's result is told of the response. -/
theorem Told.answer {key failure : String} {out : Except String TxnAction}
    (told : Told key out.toOption heard) :
    Told key (Api.answer 201 .action failure out).action? heard := by
  cases out with
  | error message => exact Told.nothing _ _
  | ok action => exact told

theorem handleProposeAction_told {request : Api.Request}
    {body : Api.Decoded Api.ProposeBody} :
    (Api.handleProposeAction config request body).Obeys listener
      (fun response after => Told (Ledger.idemKey request.orgOf
        body.value.transactionID body.value.idempotencyKey) response.action?
          after) heard := by
  simp only [Api.handleProposeAction]
  split
  · exact Told.nothing _ _
  split
  · exact Told.nothing _ _
  split
  · exact Told.nothing _ _
  exact proposeAction_told.bind fun _ _ told => told.answer

theorem handleMCPCall_told {request : Api.Request}
    {body : Api.Decoded Api.MCPCallBody} :
    (Api.handleMCPCall config request body).Obeys listener
      (fun response after => Told (Ledger.idemKey request.orgOf
        body.value.transactionID body.value.idempotencyKey) response.action?
          after) heard := by
  simp only [Api.handleMCPCall, Prog.perform_bind]
  split
  · exact Told.nothing _ _
  split
  · exact Told.nothing _ _
  split
  · exact Told.nothing _ _
  refine ⟨trivial, ?_⟩
  rintro (_ | ⟨server, token⟩) _
  · exact Told.nothing _ _
  dsimp only
  split
  · exact Told.nothing _ _
  refine ⟨trivial, fun _ _ => ?_⟩
  exact proposeAction_told.bind fun _ _ told => told.answer

/-- A proposal that succeeds returns the action that it heard of under its
key. -/
theorem Operation.told (operation : Operation) :
    (operation.program config).Obeys listener
      (fun outcome after => ∀ orgID txnID key,
        operation.intent = .propose orgID txnID key →
          Told (Ledger.idemKey orgID txnID key) outcome.action? after)
      none := by
  -- Other operations may return what they like.
  have other {program : Gate Outcome} {intent : Intent}
      (other : ∀ orgID txnID key, intent ≠ .propose orgID txnID key) :
      program.Obeys listener (fun outcome after => ∀ orgID txnID key,
        intent = .propose orgID txnID key →
          Told (Ledger.idemKey orgID txnID key) outcome.action? after)
        none := by
    apply Prog.obeys_of_forall
    · exact fun _ _ => trivial
    · intro outcome after orgID txnID key same
      exact absurd same (other orgID txnID key)
  cases operation with
  | proposeAction traceID orgID txnID agentID tool action arguments idemKey =>
      refine proposeAction_told.bind ?_
      rintro out after told orgID txnID key ⟨⟩
      exact told
  | http request =>
      obtain ⟨identity, traceID, route⟩ := request
      cases route with
      | proposeAction body =>
          refine handleProposeAction_told.bind ?_
          rintro response after told orgID txnID key ⟨⟩
          exact told
      | mcpCall body =>
          refine handleMCPCall_told.bind ?_
          rintro response after told orgID txnID key ⟨⟩
          exact told
      | actionSub parts =>
          apply other
          intro orgID txnID key
          simp only [Operation.intent, Api.Request.intent]
          split <;> simp_all
      | decideApproval parts body =>
          apply other
          intro orgID txnID key
          simp only [Operation.intent, Api.Request.intent]
          split <;> simp_all
      | _ => exact other (by simp [Operation.intent, Api.Request.intent])
  | _ => exact other (by simp [Operation.intent])

end Proposals

/-! ## Runs -/

/-- What an interleaved run maintains of the index: it lists the records, the
operations hold copies with the keys of the records, and what they heard is
what the index says. -/
structure Idempotent (config : Config) (operations : Nat → Operation)
    (history : History Call Env World) : Prop where
  keyed : history.state.ledger.WellKeyed
  catalogued : history.state.ledger.Catalogued
  recalls : ∀ thread, Recalls (history.view (exec config)
    (roleOf (operations thread).intent) View.first thread)
      history.state.ledger
  heard : ∀ thread key id,
    history.view (exec config) listener none thread = some (key, id) →
      history.state.ledger.byIdem.get? key = some id
  /-- What was dispatched is stored with the same key. -/
  dispatched : ∀ mark ∈ history.marks, ∀ action,
    mark.request = .execute action → ∃ stored,
      history.state.ledger.actions.get? action.id = some stored ∧
        SameKey action stored

namespace Idempotent

variable {config : Config} {operations : Nat → Operation}
  {history : History Call Env World} {world : World}

theorem start (unproposed : world.Unproposed) :
    Idempotent config operations (History.start world) where
  keyed := unproposed.keyed
  catalogued := by
    constructor
    · simp [Ledger.Indexed, History.start, unproposed.byIdem]
    · simp [History.start, unproposed.actions]
  recalls := by
    intro thread held holding
    cases holding
  heard := by
    intro thread key id heard
    cases heard
  dispatched := by
    intro mark made
    cases made

theorem next {thread : Nat} {request : Call} {env : Env}
    (idempotent : Idempotent config operations history)
    (admissible : Admissible history.state env)
    (may : May (operations thread).intent (history.view (exec config)
      (roleOf (operations thread).intent) View.first thread) request) :
    Idempotent config operations
      (history.next (exec config) thread request env) := by
  obtain ⟨catalogued, keeps⟩ := catalogued_exec idempotent.catalogued
    idempotent.keyed admissible (idempotent.recalls thread) may
  constructor
  · exact wellKeyed_exec request idempotent.keyed
  · exact catalogued
  · intro other
    by_cases same : other = thread
    · subst same
      rw [History.view_next_self]
      exact recalls_learn idempotent.keyed (idempotent.recalls other) keeps
    · rw [History.view_next_of_ne _ _ _ _ _ same]
      exact (idempotent.recalls other).kept keeps
  · intro other
    by_cases same : other = thread
    · subst same
      rw [History.view_next_self]
      exact heardFrom_indexed idempotent.catalogued idempotent.keyed
        admissible keeps (idempotent.heard other)
    · rw [History.view_next_of_ne _ _ _ _ _ same]
      exact fun key id heard =>
        keeps.entry key id (idempotent.heard other key id heard)
  · intro mark made action executes
    have before : ∃ stored,
        history.state.ledger.actions.get? action.id = some stored ∧
          SameKey action stored := by
      rcases List.mem_append.mp made with earlier | now
      · exact idempotent.dispatched mark earlier action executes
      · obtain rfl := List.mem_singleton.mp now
        obtain rfl : request = .execute action := executes
        obtain ⟨_, held, holding, rfl, _⟩ := may
        exact idempotent.recalls thread held holding
    obtain ⟨stored, present, same⟩ := before
    obtain ⟨later, kept, same'⟩ := keeps.record _ _ present
    exact ⟨later, kept, same.trans same'⟩

/-- Every interleaved run maintains the index. -/
theorem of_interleaved {schedule : List (Nat × Env)}
    (unproposed : world.Unproposed)
    (fresh : FreshSchedule config world operations schedule) :
    Idempotent config operations
      (interleaved config world operations schedule).history :=
  (interleaved_sound (Idempotent config operations)
    (fun _ idempotent => idempotent.keyed)
    (fun _ _ _ _ idempotent _ => idempotent.next)
    (fun _ _ idempotent _ _ => { idempotent with }) (start unproposed) fresh).1

end Idempotent

/-- A proposal that has returned an action heard of it under its key. -/
theorem told_of_returned {config : Config} {world : World}
    {operations : Nat → Operation} {schedule : List (Nat × Env)}
    {thread : Nat} {outcome : Outcome} {orgID txnID key : String}
    (proposes : (operations thread).intent = .propose orgID txnID key)
    (returns : (interleaved config world operations schedule).threads thread =
      .ret outcome) :
    Told (Ledger.idemKey orgID txnID key) outcome.action?
      ((interleaved config world operations schedule).history.view
        (exec config) listener none thread) := by
  let post (thread : Nat) (outcome : Outcome)
      (heard : Option (String × String)) : Prop :=
    ∀ orgID txnID key, (operations thread).intent = .propose orgID txnID key →
      Told (Ledger.idemKey orgID txnID key) outcome.action? heard
  have start (thread : Nat) : ((operations thread).program config).Obeys
      listener (post thread) none := (operations thread).told
  have obeys := Pool.run_obeys (exec config) (fun _ _ _ => trivial)
    (Pool.start world fun thread => (operations thread).program config) start
    schedule thread
  change Prog.Obeys listener
    ((interleaved config world operations schedule).threads thread) _ _ at obeys
  rw [returns] at obeys
  exact obeys orgID txnID key proposes

/-- In every interleaving of requests, an organization, a transaction and an
idempotency key have at most one action, and the index leads to its current
record; the proposals with that key that have succeeded returned that one
action; and every action has at most one approval, and only if it was decided
`REQUIRE_APPROVAL`. -/
theorem proposals_are_idempotent
    {config : Config} {world : World} {operations : Nat → Operation}
    {schedule : List (Nat × Env)}
    (forward : ∀ thread, (operations thread).intent.Forward)
    (unproposed : world.Unproposed)
    (fresh : FreshSchedule config world operations schedule) :
    let pool := interleaved config world operations schedule
    let ledger := pool.history.state.ledger
    (∀ id other action another, ledger.actions.get? id = some action →
      ledger.actions.get? other = some another →
      action.orgID = another.orgID →
      action.transactionID = another.transactionID →
      action.idempotencyKey = another.idempotencyKey → id = other) ∧
    (∀ id action, ledger.actions.get? id = some action →
      ledger.byIdem? (Ledger.idemKey action.orgID action.transactionID
        action.idempotencyKey) = some action) ∧
    (∀ orgID txnID key thread other action another,
      (operations thread).intent = .propose orgID txnID key →
      (operations other).intent = .propose orgID txnID key →
      (pool.threads thread).result?.bind Outcome.action? = some action →
      (pool.threads other).result?.bind Outcome.action? = some another →
        action.id = another.id) ∧
    (∀ key other approval another,
      ledger.approvals.get? key = some approval →
      ledger.approvals.get? other = some another →
      approval.actionID = another.actionID → key = other) ∧
    ∀ key approval, ledger.approvals.get? key = some approval →
      ∃ id action decision, approval.actionID = some id ∧
        ledger.actions.get? id = some action ∧
        action.decision = some decision ∧
        decision.effect = .requireApproval := by
  intro pool ledger
  have idempotent : Idempotent config operations pool.history :=
    .of_interleaved unproposed fresh
  have linked := (linked_interleaved forward unproposed fresh).1
  refine ⟨?_, ?_, ?_, ?_, ?_⟩
  · intro id other action another present present' org txn key
    exact idempotent.catalogued.unique present present' ⟨org, txn, key⟩
  · intro id action present
    have entry := idempotent.catalogued.listed _ _ present
    exact Option.bind_eq_some_iff.mpr ⟨id, entry, present⟩
  · intro orgID txnID key thread other action another proposes proposes'
      returned returned'
    have told (thread : Nat) (action : TxnAction)
        (proposes : (operations thread).intent = .propose orgID txnID key)
        (returned : (pool.threads thread).result?.bind Outcome.action? =
          some action) :
        ledger.byIdem.get? (Ledger.idemKey orgID txnID key) =
          some action.id := by
      obtain ⟨outcome, returns, acts⟩ := Option.bind_eq_some_iff.mp returned
      have told := told_of_returned proposes
        (Prog.result?_eq_some.mp returns)
      exact idempotent.heard thread _ _ (told action acts)
    have first := told thread action proposes returned
    rw [told other another proposes' returned'] at first
    exact (Option.some.inj first).symm
  · intro key other approval another present present' same
    exact linked.once key approval other another present present' same
  · intro key approval present
    obtain ⟨id, action, about, stored, _, effect⟩ :=
      linked.requested key approval present
    obtain ⟨decision, decided, effect⟩ := Option.map_eq_some_iff.mp effect
    exact ⟨id, action, decision, about, stored, decided, effect⟩

namespace Sample

/-- A transaction, and the same refund proposed in it twice. -/
def retried : Nat → Operation :=
  threads [create, propose "id1" "stripe" "refund" none "k",
    propose "id1" "stripe" "refund" none "k"]

/-- The second proposal arrives while the first one is being judged. -/
def overlapping : List Nat :=
  List.replicate 4 0 ++ [1, 2, 1, 2, 1, 2, 1, 2, 1, 2, 1, 2] ++
    List.replicate 14 1

end Sample

/-- Both proposals have succeeded, and returned one action. -/
theorem proposals_are_idempotent_retried :
    ∃ action another, ((interleaved Sample.config Sample.world Sample.retried
        (Sample.turns 0 Sample.overlapping)).threads 1).result?.bind
          Outcome.action? = some action ∧
      ((interleaved Sample.config Sample.world Sample.retried
        (Sample.turns 0 Sample.overlapping)).threads 2).result?.bind
          Outcome.action? = some another ∧
      action.id = another.id := by
  have first : (((interleaved Sample.config Sample.world Sample.retried
      (Sample.turns 0 Sample.overlapping)).threads 1).result?.bind
        Outcome.action?).isSome = true := by
    decide +kernel
  have second : (((interleaved Sample.config Sample.world Sample.retried
      (Sample.turns 0 Sample.overlapping)).threads 2).result?.bind
        Outcome.action?).isSome = true := by
    decide +kernel
  obtain ⟨action, returned⟩ := Option.isSome_iff_exists.mp first
  obtain ⟨another, returned'⟩ := Option.isSome_iff_exists.mp second
  have forward (thread : Nat) : (Sample.retried thread).intent.Forward :=
    (Sample.isHTTP_threads (by decide) thread).forward
  exact ⟨action, another, returned, returned',
    (proposals_are_idempotent forward (.of_initial Sample.initial)
      (by decide +kernel)).2.2.1 _ _ _ 1 2 action another rfl rfl returned
        returned'⟩

end SettleAgent
