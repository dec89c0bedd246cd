import SettleAgent.Interaction.Ensures
import SettleAgent.Postgres.Store

/-!
# Commit over Postgres

`Commit` refuses a transaction that has an unresolved action, as far as it sees
the actions.  `PGStore.ActionsForTxn` leaves out what it cannot read, so an
unresolved action may be missing from the list, and the transaction is committed
over it.
-/

namespace SettleAgent
namespace Postgres

open Interaction

/-- The transaction has this status. -/
def Tables.HasStatus (setting : Setting) (tables : Tables)
    (orgID txnID : String) (status : TxnStatus) : Prop :=
  ∃ txn ∈ tables.getTxn setting orgID txnID, txn.status = status

instance (setting : Setting) (tables : Tables) (orgID txnID : String)
    (status : TxnStatus) :
    Decidable (tables.HasStatus setting orgID txnID status) :=
  inferInstanceAs (Decidable (∃ _ ∈ tables.getTxn setting orgID txnID, _))

/-- Every action of the transaction is resolved. -/
def Tables.AllResolved (setting : Setting) (tables : Tables)
    (orgID txnID : String) : Prop :=
  ∀ action ∈ tables.actionsForTxn setting orgID txnID,
    action.status.resolved = true

variable {config : Config} {setting : Setting} {tables : Tables}
  {state : State} {orgID txnID : String}

/-- A transaction that is there gets the status. -/
theorem getTxn_setTxnStatus {txn : Transaction} (now : Time)
    {status : TxnStatus} (given : status ≠ .unset)
    (found : tables.getTxn setting orgID txnID = some txn) :
    (tables.setTxnStatus setting orgID now txnID status).1 = .ok () ∧
      (tables.setTxnStatus setting orgID now txnID status).2.getTxn setting
        orgID txnID = some { txn with status := status, updatedAt := now } := by
  unfold Tables.setTxnStatus
  rw [if_neg given, if_pos (by rw [found]; rfl)]
  refine ⟨rfl, ?_⟩
  have chosen := List.find?_some found
  simp only [Tables.getTxn] at found ⊢
  refine (find?_map_ite (by intro row; rfl)).trans ?_
  rw [found, Option.map_some, if_pos chosen]

/-- Only a transaction that is being executed may be committed. -/
theorem canTransition_committed_iff {status : TxnStatus}
    (unfinished : status.terminal = false) :
    canTransition status .committed = true ↔ status = .executing := by
  cases status <;> simp_all [canTransition, allowedTransitions,
    TxnStatus.terminal]

/-- `Commit` sets the status if and only if it reads a transaction that is being
executed, and no action that it reads is unresolved. -/
theorem commit_sets_iff {Tag : Type} (traceID : String) (caller : Tag)
    (envs : Nat → Reads) :
    (¬ state.tables.HasStatus setting orgID txnID .committed ∧
      ((Gateway.commit traceID orgID txnID).complete (serve config setting)
        caller envs state).2.1.tables.HasStatus setting orgID txnID
          .committed) ↔
    (envs 0 (.getTxn orgID txnID)).row = true ∧
      state.tables.HasStatus setting orgID txnID .executing ∧
      ∀ action ∈ (envs 1 (.actionsForTxn orgID txnID)).list
        (state.tables.actionsForTxn setting orgID txnID),
          action.status.resolved = true := by
  simp only [Gateway.commit, Prog.perform_bind, Prog.complete, serve_getTxn]
  cases read : (envs 0 (.getTxn orgID txnID)).one
      (state.tables.getTxn setting orgID txnID) with
  | none =>
      simp only [Prog.pure_eq, Prog.complete, not_and_self, false_iff]
      rintro ⟨row, ⟨txn, found, _⟩, _⟩
      rw [Access.one_eq_some.mpr ⟨row, found⟩] at read
      cases read
  | some txn =>
      obtain ⟨row, found⟩ := Access.one_eq_some.mp read
      have status (status : TxnStatus) :
          state.tables.HasStatus setting orgID txnID status ↔
            txn.status = status := by
        simp [Tables.HasStatus, found]
      simp only [row, true_and]
      by_cases terminal : txn.status.terminal = true
      · rw [if_pos terminal]
        simp only [Prog.pure_eq, Prog.complete, not_and_self, false_iff]
        rintro ⟨executing, _⟩
        rw [(status _).mp executing] at terminal
        cases terminal
      rw [if_neg terminal]
      simp only [Prog.complete, serve_actionsForTxn]
      cases blocked : ((envs 1 (.actionsForTxn orgID txnID)).list
          (state.tables.actionsForTxn setting orgID txnID)).findSome?
            Gateway.blocksCommit with
      | some reason =>
          simp only [Prog.pure_eq, Prog.complete, not_and_self, false_iff]
          rintro ⟨_, resolved⟩
          obtain ⟨action, listed, blocks⟩ :=
            List.exists_of_findSome?_eq_some blocked
          rw [blocksCommit_eq_none.mpr (resolved action listed)] at blocks
          cases blocks
      | none =>
          have resolved : ∀ action ∈ (envs 1 (.actionsForTxn orgID txnID)).list
              (state.tables.actionsForTxn setting orgID txnID),
                action.status.resolved = true := by
            intro action listed
            exact blocksCommit_eq_none.mp
              (List.findSome?_eq_none_iff.mp blocked action listed)
          simp only [mustTransition]
          by_cases executing : txn.status = .executing
          · have given : TxnStatus.committed ≠ .unset := by decide
            obtain ⟨done, committed⟩ :=
              getTxn_setTxnStatus (setting.clock state.ticks) given found
            rw [if_pos ((canTransition_committed_iff
              (by simpa using terminal)).mpr executing)]
            simp only [Prog.complete, serve_setTxnStatus, done, serve_emit,
              serve_getTxn]
            -- Whether the transaction can be read once more does not matter.
            refine ⟨fun _ => ⟨(status _).mpr executing, resolved⟩,
              fun _ => ⟨?_, ?_⟩⟩
            · rw [status, executing]
              decide
            · split <;> exact ⟨_, committed, rfl⟩
          · rw [if_neg (fun legal => executing ((canTransition_committed_iff
              (by simpa using terminal)).mp legal))]
            simp [Prog.complete, status, executing]

/-- `Commit` sets the status only when every action of the transaction is
resolved, if and only if, whenever it reads a transaction that is being executed
and has an unresolved action, it reads an unresolved action too. -/
theorem commit_only_resolved_iff {Tag : Type} (traceID : String) (caller : Tag)
    (envs : Nat → Reads) :
    (¬ state.tables.HasStatus setting orgID txnID .committed →
      ((Gateway.commit traceID orgID txnID).complete (serve config setting)
        caller envs state).2.1.tables.HasStatus setting orgID txnID
          .committed →
      state.tables.AllResolved setting orgID txnID) ↔
    ((envs 0 (.getTxn orgID txnID)).row = true →
      state.tables.HasStatus setting orgID txnID .executing →
      ¬ state.tables.AllResolved setting orgID txnID →
      ∃ action ∈ (envs 1 (.actionsForTxn orgID txnID)).list
        (state.tables.actionsForTxn setting orgID txnID),
          action.status.resolved = false) := by
  have missed : (∃ action ∈ (envs 1 (.actionsForTxn orgID txnID)).list
      (state.tables.actionsForTxn setting orgID txnID),
        action.status.resolved = false) ↔
      ¬ ∀ action ∈ (envs 1 (.actionsForTxn orgID txnID)).list
        (state.tables.actionsForTxn setting orgID txnID),
          action.status.resolved = true := by
    simp
  rw [← and_imp, commit_sets_iff, missed]
  tauto

end Postgres

namespace Sample

/-- The transaction has one action, which failed. -/
def withFailed : Postgres.State where
  tables := { tables with
    actions :=
      [{ id := "id2", orgID := "acme", transactionID := "id1", tool := "crm"
         action := "update_record", arguments := none, classes := []
         amountCents := none, idempotencyKey := "k", status := .failed }] }
  stored := none
  ticks := 0

end Sample

/-- The query for the actions fails, and the transaction is committed with a
failed action. -/
theorem failed_action_is_committed :
    ¬ Sample.withFailed.tables.HasStatus Sample.setting "acme" "id1"
        .committed ∧
      ((Gateway.commit "" "acme" "id1").complete
        (Postgres.serve Sample.config Sample.setting) ()
        (fun _ => Sample.unread fun _ => true)
        Sample.withFailed).2.1.tables.HasStatus Sample.setting "acme" "id1"
          .committed ∧
      ∃ action ∈ Sample.withFailed.tables.actionsForTxn Sample.setting "acme"
        "id1", action.status = .failed := by
  decide +kernel

end SettleAgent
