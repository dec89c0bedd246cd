import SettleAgent.Postgres.Decisions
import SettleAgent.Concurrent.Idempotency

/-!
# Replayed proposals over Postgres

`PGStore.AddAction` learns from its `INSERT` only whether a row came back.  When
none did, it looks for the action that holds the idempotency key and reports a
duplicate, found or not.  `Added` lists the outcomes of the two statements, and
both what `AddAction` reports and what `ProposeAction` then returns are read off
from it.
-/

namespace SettleAgent
namespace Postgres

open Interaction Gateway

/-! ## Actions by their identifier -/

/-- `PGStore.GetAction`, when its query succeeds. -/
def Tables.getAction (setting : Setting) (tables : Tables)
    (orgID id : String) : Option TxnAction :=
  tables.actions.find? fun row =>
    named setting orgID row.orgID && named setting id row.id

/-- The identifiers in the table are of type `UUID`, and the next one to be
drawn is not among them. -/
structure Tables.Keyed (setting : Setting) (tables : Tables) : Prop where
  typed : ∀ row ∈ tables.actions, setting.canonical row.id = some row.id
  fresh : ∀ row ∈ tables.actions, row.id ≠ setting.uid

section Lookup

variable {config : Config} {setting : Setting} {reads : Reads} {state : State}
  {tables : Tables} {row : TxnAction} {orgID id : String}

theorem getAction_isSome_of_mem (member : row ∈ tables.actions)
    (sameOrg : setting.canonical orgID = some row.orgID)
    (sameID : setting.canonical id = some row.id) :
    (tables.getAction setting orgID id).isSome = true := by
  rw [Tables.getAction, List.find?_isSome]
  refine ⟨row, member, ?_⟩
  simp only [Tables.named, sameOrg, sameID, decide_true, Bool.and_self]

theorem getAction_uid (keyed : tables.Keyed setting) :
    tables.getAction setting orgID setting.uid = none := by
  rw [Tables.getAction, List.find?_eq_none]
  intro row member found
  simp only [Tables.named, setting.drawn, Bool.and_eq_true,
    decide_eq_true_eq, Option.some.injEq] at found
  exact keyed.fresh row member found.2.symm

theorem getAction_insertAction
    (found : (tables.getAction setting orgID id).isSome = true) :
    ((tables.insertAction row).getAction setting orgID id).isSome = true := by
  rw [Tables.getAction, List.find?_isSome] at found ⊢
  obtain ⟨other, member, same⟩ := found
  exact ⟨other, List.mem_append_left _ member, same⟩

theorem getAction_updateAction (action : TxnAction)
    (found : (tables.getAction setting orgID id).isSome = true) :
    ((tables.updateAction setting action).getAction setting orgID
      id).isSome = true := by
  unfold Tables.updateAction
  split
  · split
    · rw [Tables.getAction, find?_map_ite (by intro row; rfl),
        Option.isSome_map]
      exact found
    · exact found
  · exact found

/-- No call takes an action out of the table. -/
theorem getAction_serve (request : Call)
    (found : (state.tables.getAction setting orgID id).isSome = true) :
    ((serve config setting request reads state).2.tables.getAction setting
      orgID id).isSome = true := by
  cases request with
  | setTxnStatus =>
      rw [serve_setTxnStatus]
      dsimp only [Tables.setTxnStatus]
      split
      · exact found
      split
      · exact found
      · exact found
  | addAction action =>
      rw [serve_addAction]
      dsimp only [addAction]
      split
      · exact getAction_insertAction found
      · dsimp only
        split
        · split
          · exact getAction_insertAction found
          · exact found
        · exact found
  | updateStored =>
      dsimp only [serve]
      split
      · split
        · exact getAction_updateAction _ found
        · exact found
      · exact found
  | updateAction action => exact getAction_updateAction action found
  | _ => exact found

/-- The key of an action that was just inserted is held by it. -/
theorem actionByKey_insertAction {made : TxnAction}
    (free : tables.actionByKey setting made.orgID made.transactionID
      made.idempotencyKey = none)
    (stored : setting.rowOf made = some row) :
    (tables.insertAction row).actionByKey setting made.orgID
      made.transactionID made.idempotencyKey = some row := by
  simp only [Setting.rowOf, Option.bind_eq_bind, Option.bind_eq_some_iff,
    Option.pure_def, Option.some.injEq] at stored
  obtain ⟨_, sameOrg, _, sameTxn, _, _, rfl⟩ := stored
  rw [Tables.actionByKey] at free ⊢
  rw [Tables.insertAction, List.find?_append, free, Option.none_or]
  apply List.find?_cons_of_pos
  simp only [Tables.named, sameOrg, sameTxn, decide_true, Bool.and_self]

end Lookup

/-! ## The outcomes of `AddAction` -/

section Outcomes

variable (setting : Setting) (tables : Tables) (access : Access)
  (made : TxnAction)

/-- What `AddAction` replies for the action that it made, and the tables that it
leaves, by how its statements turn out. -/
inductive Added : TxnAction × Bool → Tables → Prop
  | conflict {existing : TxnAction}
      (held : tables.actionByKey setting made.orgID made.transactionID
        made.idempotencyKey = some existing) :
      Added (if access.again then existing else made, true) tables
  | rejected
      (free : tables.actionByKey setting made.orgID made.transactionID
        made.idempotencyKey = none)
      (unstorable : setting.rowOf made = none) :
      Added (made, true) tables
  | returned {row : TxnAction}
      (free : tables.actionByKey setting made.orgID made.transactionID
        made.idempotencyKey = none)
      (stored : setting.rowOf made = some row)
      (arrived : access.row = true) :
      Added (row, false) (tables.insertAction row)
  | unreturned {row : TxnAction}
      (free : tables.actionByKey setting made.orgID made.transactionID
        made.idempotencyKey = none)
      (stored : setting.rowOf made = some row)
      (lost : access.row = false) (applied : access.applied = true) :
      Added (if access.again then row else made, true)
        (tables.insertAction row)
  | failed {row : TxnAction}
      (free : tables.actionByKey setting made.orgID made.transactionID
        made.idempotencyKey = none)
      (stored : setting.rowOf made = some row)
      (lost : access.row = false) (unapplied : access.applied = false) :
      Added (made, true) tables

/-- The action that `AddAction` returns is in the table: the key is held and the
holder is read, or the row is written and read back.  If neither statement that
would read it back succeeds, it depends on the record that the caller is left
with. -/
def Backed (leftWith : Prop) : Prop :=
  (tables.actionByKey setting made.orgID made.transactionID
      made.idempotencyKey).isSome = true ∧ access.again = true ∨
    (setting.insertable tables made).isSome = true ∧
      (access.row = true ∨
        access.applied = true ∧ (access.again = true ∨ leftWith))

end Outcomes

section AddAction

variable {config : Config} {setting : Setting} {state : State}
  {tables after : Tables} {access : Access} {action made : TxnAction}
  {reply : TxnAction × Bool}

theorem addAction_added :
    Added setting state.tables access (setting.made config state action)
      (addAction config setting access action state).1
      (addAction config setting access action state).2.tables := by
  generalize named : setting.made config state action = made
  have readBack (row : TxnAction) :
      (if access.again then some row else none).getD made =
        if access.again then row else made := by
    cases access.again <;> rfl
  cases held : state.tables.actionByKey setting made.orgID made.transactionID
      made.idempotencyKey with
  | some existing =>
      have unwritten : setting.insertable state.tables made = none := by
        simp only [Setting.insertable, held, Option.isSome_some, if_true]
      simp only [addAction, named, unwritten, Access.one, ite_self, held,
        readBack]
      exact .conflict held
  | none =>
      have written : setting.insertable state.tables made =
          setting.rowOf made := by
        simp only [Setting.insertable, held, Option.isSome_none,
          Bool.false_eq_true, if_false]
      simp only [addAction, named, written, Access.one]
      cases stored : setting.rowOf made with
      | none =>
          simp only [ite_self, held, Option.getD_none]
          exact .rejected held stored
      | some row =>
          cases arrived : access.row with
          | true => exact .returned held stored arrived
          | false =>
              cases applied : access.applied with
              | true =>
                  simp only [Bool.false_eq_true, if_false, if_true,
                    actionByKey_insertAction held stored, readBack]
                  exact .unreturned held stored arrived applied
              | false =>
                  simp only [Bool.false_eq_true, if_false, held, ite_self,
                    Option.getD_none]
                  exact .failed held stored arrived applied

/-- A duplicate is the action that holds the key, if and only if it is backed by
the table. -/
theorem Added.duplicate_iff (keyed : tables.Keyed setting)
    (drawn : made.id = setting.uid)
    (added : Added setting tables access made reply after) :
    (reply.2 = true → after.actionByKey setting made.orgID made.transactionID
      made.idempotencyKey = some reply.1) ↔
    Backed setting tables access made (setting.rowOf made = some made) := by
  unfold Backed Setting.insertable
  cases added with
  | conflict held =>
      rename_i existing
      have other : existing ≠ made := by
        rintro rfl
        exact keyed.fresh existing (List.mem_of_find?_eq_some held) drawn
      cases again : access.again <;> simp [held, other]
  | rejected free unstorable => simp [free, unstorable]
  | returned free stored arrived => simp [free, stored, arrived]
  | unreturned free stored lost applied =>
      rw [actionByKey_insertAction free stored]
      cases again : access.again <;> simp [free, stored, lost, applied]
  | failed free stored lost unapplied => simp [free, stored, lost, unapplied]

theorem Added.backed_of_inserted (leftWith : Prop)
    (added : Added setting tables access made reply after)
    (inserted : reply.2 = false) :
    Backed setting tables access made leftWith := by
  cases added with
  | returned free stored arrived =>
      exact .inr ⟨by simp [Setting.insertable, free, stored], .inl arrived⟩
  | _ => cases inserted

/-- What `AddAction` returns is found by its identifier, if and only if it is
backed by the table. -/
theorem Added.found_iff (keyed : tables.Keyed setting)
    (drawn : made.id = setting.uid)
    (added : Added setting tables access made reply after) :
    (after.getAction setting made.orgID reply.1.id).isSome = true ↔
      Backed setting tables access made True := by
  have written {row : TxnAction} (stored : setting.rowOf made = some row) :
      row.id = made.id ∧ ((tables.insertAction row).getAction setting
        made.orgID made.id).isSome = true := by
    simp only [Setting.rowOf, Option.bind_eq_bind, Option.bind_eq_some_iff,
      Option.pure_def, Option.some.injEq] at stored
    obtain ⟨_, sameOrg, _, _, _, _, rfl⟩ := stored
    refine ⟨rfl, getAction_isSome_of_mem
      (List.mem_append_right _ (List.mem_singleton_self _)) sameOrg ?_⟩
    rw [drawn]
    exact setting.drawn
  have unwritten : tables.getAction setting made.orgID made.id = none := by
    rw [drawn]
    exact getAction_uid keyed
  unfold Backed Setting.insertable
  cases added with
  | conflict held =>
      rename_i existing
      have member := List.mem_of_find?_eq_some held
      have found : (tables.getAction setting made.orgID
          existing.id).isSome = true := by
        have same := List.find?_some held
        simp only [Tables.named, Bool.and_eq_true, decide_eq_true_eq] at same
        exact getAction_isSome_of_mem member same.1.1 (keyed.typed _ member)
      cases again : access.again with
      | true => simp [held, found]
      | false => simp [held, unwritten]
  | rejected free unstorable => simp [free, unstorable, unwritten]
  | returned free stored arrived =>
      simp [free, stored, arrived, written stored]
  | unreturned free stored lost applied =>
      cases again : access.again <;>
        simp [free, stored, applied, written stored]
  | failed free stored lost unapplied =>
      simp [free, stored, lost, unapplied, unwritten]

end AddAction

/-! ## Proposals -/

section Proposals

variable {config : Config} {setting : Setting} {reads : Reads} {state : State}
  {draft : Draft} {txn : Transaction} {agent : Agent} {traceID : String}

/-- Whether the action that a proposal returns is found is decided by
`AddAction`: what follows neither takes it out of the table nor renames it. -/
theorem propose_found_iff (keyed : state.tables.Keyed setting)
    (opens : draft.Opens setting reads state txn agent) :
    let done := (draft.propose config traceID).evaluate
      (answer config setting reads) state
    (∀ action, done.1 = .ok action → (done.2.tables.getAction setting
        draft.orgID action.id).isSome = true) ↔
      Backed setting state.tables (reads (.addAction (draft.record setting)))
        (setting.made config state (draft.record setting)) True := by
  intro done
  have reached : done = _ := propose_of_opens opens
  have added := @addAction_added config setting state
    (reads (.addAction (draft.record setting))) (draft.record setting)
  generalize addAction config setting
    (reads (.addAction (draft.record setting))) (draft.record setting) state =
      reply at added reached
  obtain ⟨⟨stored, duplicate⟩, after⟩ := reply
  have found_iff := added.found_iff keyed rfl
  rw [reached]
  cases duplicate with
  | true =>
      simp only [if_true, Except.ok.injEq, forall_eq']
      exact found_iff
  | false =>
      have backed := added.backed_of_inserted True rfl
      have kept := Prog.Obeys.evaluate
        (@authorize_heard config traceID draft.orgID draft.txnID draft.agentID
          txn agent stored (extractCents draft.arguments) none)
        (fun _ _ => trivial)
        (fun request state => @getAction_serve config setting reads state
          draft.orgID stored.id request) (found_iff.mpr backed)
      obtain ⟨⟨_, named, _⟩, later⟩ := kept
      simp only [Bool.false_eq_true, if_false, Except.ok.injEq, forall_eq',
        named]
      exact iff_of_true later backed

/-- In every state of the database, for every action and every outcome of the
statements: a duplicate that `AddAction` reports is the action stored under the
key, and what `ProposeAction` returns is found by its identifier, if and only if
the table backs it. -/
theorem replays_stored_iff (keyed : state.tables.Keyed setting) :
    (∀ access action,
      let made := setting.made config state action
      let done := addAction config setting access action state
      (done.1.2 = true → done.2.tables.actionByKey setting action.orgID
        action.transactionID action.idempotencyKey = some done.1.1) ↔
      Backed setting state.tables access made
        (setting.rowOf made = some made)) ∧
    ∀ (reads : Reads) (draft : Draft) (traceID : String),
      let done := (draft.propose config traceID).evaluate
        (answer config setting reads) state
      (∀ action, done.1 = .ok action → (done.2.tables.getAction setting
        draft.orgID action.id).isSome = true) ↔
      ∀ txn agent, draft.Opens setting reads state txn agent →
        Backed setting state.tables
          (reads (.addAction (draft.record setting)))
          (setting.made config state (draft.record setting)) True := by
  constructor
  · intro access action made done
    exact Added.duplicate_iff keyed rfl addAction_added
  · intro reads draft traceID done
    constructor
    · intro found txn agent opens
      exact (propose_found_iff keyed opens).mp found
    · intro backed action returned
      by_cases reaches : ∃ txn agent, draft.Opens setting reads state txn agent
      · obtain ⟨txn, agent, opens⟩ := reaches
        exact (propose_found_iff keyed opens).mpr (backed txn agent opens)
          action returned
      · obtain ⟨message, refused⟩ := @propose_of_not_opens config setting reads
          state draft traceID fun txn agent opens => reaches ⟨txn, agent, opens⟩
        have refused : done = (.error message, state) := refused
        rw [refused] at returned
        cases returned

end Proposals

end Postgres

namespace Sample

/-- An object with a NUL character in one of its strings. -/
def unprintable (fields : Object) : Bool :=
  (fields.getD []).any fun field =>
    match field.2 with
    | .string text => '\x00' ∈ text.toList
    | _ => false

/-- `jsonb` takes no NUL characters, and leaves everything else as it is. -/
def printable (fields : Object) : Option Object :=
  if unprintable fields then none else some fields

theorem printable_steady (fields read : Object)
    (accepted : printable fields = some read) :
    printable read = some read := by
  have same := accepted
  unfold printable at same
  split at same
  · cases same
  · rw [← Option.some.inj same] at accepted ⊢
    exact accepted

def strictSetting : Postgres.Setting :=
  { setting with jsonb := printable, steady := printable_steady }

/-- A refund with a NUL character in its note. -/
def garbledDraft : Postgres.Draft :=
  { refundDraft with arguments := some [("note", .string "\x00")] }

end Sample

open Postgres in
/-- A refund is inserted, and found. -/
theorem replays_stored_iff_refund :
    Sample.governed.tables.Keyed Sample.strictSetting ∧
      let done := (Sample.refundDraft.propose Sample.config "").evaluate
        (answer Sample.config Sample.strictSetting Reads.healthy)
        Sample.governed
      ∀ action, done.1 = .ok action → (done.2.tables.getAction
        Sample.strictSetting "acme" action.id).isSome = true := by
  have keyed : Sample.governed.tables.Keyed Sample.strictSetting :=
    ⟨fun row member => absurd member List.not_mem_nil,
      fun row member => absurd member List.not_mem_nil⟩
  refine ⟨keyed, ((replays_stored_iff keyed).2 Reads.healthy Sample.refundDraft
    "").mpr ?_⟩
  intro txn agent opens
  exact .inr ⟨by decide +kernel, .inl rfl⟩

open Postgres in
/-- No statement fails but the `INSERT`, whose arguments `jsonb` rejects.
`AddAction` reports a duplicate although the table is empty, and `ProposeAction`
returns an action that nobody finds. -/
theorem garbled_proposal_is_lost :
    let action := Sample.garbledDraft.record Sample.strictSetting
    let added := addAction Sample.config Sample.strictSetting
      (Reads.healthy (.addAction action)) action Sample.governed
    let done := (Sample.garbledDraft.propose Sample.config "").evaluate
      (answer Sample.config Sample.strictSetting Reads.healthy) Sample.governed
    Sample.governed.tables.Keyed Sample.strictSetting ∧
      added.1.2 = true ∧ added.2.tables.actions = [] ∧
      ∃ action, done.1 = .ok action ∧
        done.2.tables.getAction Sample.strictSetting "acme" action.id =
          none := by
  refine ⟨⟨fun row member => absurd member List.not_mem_nil,
    fun row member => absurd member List.not_mem_nil⟩, ?_⟩
  exact ⟨rfl, rfl, _, rfl, rfl⟩

end SettleAgent
