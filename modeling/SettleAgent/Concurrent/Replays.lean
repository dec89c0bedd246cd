import SettleAgent.Concurrent.Idempotency
import SettleAgent.Sequential.Proposals

/-!
# Retried proposals

A proposal under a key that is taken is answered with the action that has the
key, and leaves nothing but an entry in the audit log.  The transaction is
looked at before the key, so this ends as soon as the transaction is terminal:
a retry that arrives later is refused.
-/

namespace SettleAgent

open Interaction Gateway

/-! ## One retry -/

/-- In a terminal transaction every proposal is refused. -/
theorem proposeAction_of_terminal {config : Config} {world : World}
    {txn : Transaction} {orgID txnID agentID idemKey : String}
    {Tag : Type} {caller : Tag} {envs : Nat → Env}
    (traceID tool action : String) (arguments : Object)
    (found : world.ledger.getTxn orgID txnID = some txn)
    (closed : txn.status.terminal = true) :
    let outcome := (proposeAction config traceID orgID txnID agentID tool action
      arguments idemKey).complete (exec config) caller envs world
    ∃ error, outcome.1 = .error error := by
  simp only [proposeAction, Prog.perform_bind, Prog.complete, exec]
  rw [found]
  simp only [closed, if_true]
  exact ⟨_, rfl⟩

/-! ## Runs -/

namespace Housed

variable {config : Config} {world : World} {operations : Nat → Operation}

theorem next {history : History Call Env World} {thread : Nat}
    {request : Call} {env : Env}
    (housed : Housed (sceneOf config operations history))
    (idempotent : Idempotent config operations history)
    (admissible : Admissible history.state env)
    (may : May (operations thread).intent
      ((sceneOf config operations history).views thread) request) :
    Housed (sceneOf config operations
      (history.next (exec config) thread request env)) := by
  rw [sceneOf_next]
  obtain ⟨_, keeps⟩ := catalogued_exec idempotent.catalogued
    idempotent.keyed admissible (idempotent.recalls thread) may
  refine housed.step idempotent.keyed admissible may ?_
  intro id old before
  obtain ⟨new, found, same⟩ := keeps.record id old before
  exact ⟨new, found, same.transactionID.symm, same.orgID.symm⟩

/-- In every interleaved run the index lists the actions, and these have their
transactions. -/
theorem of_interleaved {schedule : List (Nat × Env)}
    (unproposed : world.Unproposed)
    (fresh : FreshSchedule config world operations schedule) :
    let history := (interleaved config world operations schedule).history
    Idempotent config operations history ∧
      Housed (sceneOf config operations history) :=
  (interleaved_sound (fun history => Idempotent config operations history ∧
      Housed (sceneOf config operations history))
    (fun _ holds => holds.1.keyed)
    (fun _ _ _ _ holds _ admissible may =>
      ⟨holds.1.next admissible may, holds.2.next holds.1 admissible may⟩)
    (fun _ _ holds _ _ => ⟨{ holds.1 with }, { holds.2 with }⟩)
    ⟨Idempotent.start unproposed, start unproposed.actions⟩ fresh).1

end Housed

/-- In every state that an interleaving of requests reaches, a proposal under
the key of a stored action is answered with that action and changes nothing but
the audit log, exactly when the transaction is not terminal. -/
theorem replay_returns_stored_iff
    {config : Config} {world : World} {operations : Nat → Operation}
    {schedule : List (Nat × Env)}
    (unproposed : world.Unproposed)
    (fresh : FreshSchedule config world operations schedule)
    (caller : Operation) (envs : Nat → Env) :
    let state := (interleaved config world operations schedule).history.state
    ∀ (id : String) (stored : TxnAction) (agent : Agent)
      (traceID agentID tool action : String) (arguments : Object),
      state.ledger.actions.get? id = some stored →
      state.store.getAgent stored.orgID agentID = some agent →
      let replayed := (proposeAction config traceID stored.orgID
        stored.transactionID agentID tool action arguments
        stored.idempotencyKey).complete (exec config) caller envs state
      ∃ txn, state.ledger.getTxn stored.orgID stored.transactionID = some txn ∧
        (replayed.1 = .ok stored ∧ Audited state replayed.2.1 ↔
          txn.status.terminal = false) := by
  intro state id stored agent traceID agentID tool action arguments present
    known replayed
  obtain ⟨idempotent, housed⟩ := Housed.of_interleaved unproposed fresh
  obtain ⟨txn, txnAt, owner⟩ := housed.owned id stored present
  have found := Ledger.getTxn_eq_some.mpr ⟨txnAt, owner⟩
  refine ⟨txn, found, ?_⟩
  have indexed : state.ledger.byIdem? (Ledger.idemKey stored.orgID
      stored.transactionID stored.idempotencyKey) = some stored :=
    Option.bind_eq_some_iff.mpr
      ⟨id, idempotent.catalogued.listed id stored present, present⟩
  constructor
  · rintro ⟨returned, _⟩
    by_contra terminal
    obtain ⟨error, refused⟩ := @proposeAction_of_terminal config state txn
      stored.orgID stored.transactionID agentID stored.idempotencyKey Operation
      caller envs traceID tool action arguments found
      (Bool.eq_true_of_not_eq_false terminal)
    cases refused.symm.trans returned
  · intro unclosed
    exact proposeAction_replays traceID tool action arguments found unclosed
      known indexed

namespace Sample

/-- A lookup is proposed, executed and committed. -/
def lookedUp : Nat → Operation :=
  threads [create, propose "id1" "crm" "lookup_customer" none "k",
    execute "id17", commit "id1"]

/-- The first of the requests come one after the other. -/
def requestByRequest (requests : Nat) : List (Nat × Env) :=
  turns 0 ((List.range requests).flatMap (List.replicate 14))

def afterFirst (requests : Nat) : World :=
  (interleaved config world lookedUp (requestByRequest requests)).history.state

/-- The proposal comes once more. -/
def retriedIn (state : World) : Except String TxnAction :=
  ((proposeAction config "" "acme" "id1" "bot" "crm" "lookup_customer" none
    "k").complete (exec config) create (envs 1) state).1

def refusal : Except String TxnAction → Option String
  | .ok _ => none
  | .error why => some why

end Sample

/-- As long as nothing is committed, the stored action is returned. -/
theorem replay_returns_stored_iff_lookup :
    ∃ stored, (Sample.afterFirst 2).ledger.actions.get? "id17" = some stored ∧
      Sample.retriedIn (Sample.afterFirst 2) = .ok stored := by
  have names : (((Sample.afterFirst 2).ledger.actions.get? "id17").map
      fun stored => (stored.orgID, stored.transactionID,
        stored.idempotencyKey)) = some ("acme", "id1", "k") := by
    decide +kernel
  have running : ((Sample.afterFirst 2).ledger.getTxn "acme" "id1").map
      (fun txn => txn.status.terminal) = some false := by
    decide +kernel
  have isKnown : ((Sample.afterFirst 2).store.getAgent "acme" "bot").isSome =
      true := by decide +kernel
  obtain ⟨stored, present, names⟩ := Option.map_eq_some_iff.mp names
  obtain ⟨org, txnID, key⟩ : stored.orgID = "acme" ∧
      stored.transactionID = "id1" ∧ stored.idempotencyKey = "k" := by
    simpa using names
  obtain ⟨agent, known⟩ := Option.isSome_iff_exists.mp isKnown
  obtain ⟨txn, found, replays⟩ := @replay_returns_stored_iff Sample.config
    Sample.world Sample.lookedUp _ (.of_initial Sample.initial)
    (by decide +kernel) Sample.create (Sample.envs 1) "id17" stored agent ""
    "bot" "crm" "lookup_customer" none present (org ▸ known)
  rw [org, txnID] at found
  have unclosed : txn.status.terminal = false := by
    have found : (Sample.afterFirst 2).ledger.getTxn "acme" "id1" =
      some txn := found
    rw [found] at running
    exact Option.some.inj running
  rw [org, txnID, key] at replays
  exact ⟨stored, present, (replays.mpr unclosed).1⟩

/-- After the commit the same proposal is refused, although its action is
stored. -/
theorem committed_proposal_is_not_replayed :
    let state := Sample.afterFirst 4
    FreshSchedule Sample.config Sample.world Sample.lookedUp
        (Sample.requestByRequest 4) ∧
      ((state.ledger.byIdem? (Ledger.idemKey "acme" "id1" "k")).map
        fun stored => (stored.id, stored.status)) = some ("id17", .executed) ∧
      (state.store.getAgent "acme" "bot").isSome = true ∧
      Sample.refusal (Sample.retriedIn state) =
        some "transaction is terminal (COMMITTED)" := by
  decide +kernel

end SettleAgent
