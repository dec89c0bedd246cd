import SettleAgent.Concurrent.Sealed

/-!
# References between records

However HTTP requests interleave, every record finds the records it refers to.
-/

namespace SettleAgent

/-- However HTTP requests interleave, every action has its transaction, and
every approval is about an action of its transaction that was decided
`REQUIRE_APPROVAL`.  No two approvals are about the same action, and while one
is pending its action waits for it. -/
theorem references_resolve {config : Config} {world : World}
    {operations : Nat → Operation} {schedule : List (Nat × Env)}
    (http : ∀ thread, (operations thread).IsHTTP) (initial : world.Initial)
    (fresh : FreshSchedule config world operations schedule) :
    let ledger :=
      (interleaved config world operations schedule).history.state.ledger
    (∀ id action, ledger.actions.get? id = some action →
      ∃ txn, ledger.txns.get? action.transactionID = some txn ∧
        txn.orgID = action.orgID) ∧
    (∀ key approval, ledger.approvals.get? key = some approval →
      ∃ id action, approval.actionID = some id ∧
        ledger.actions.get? id = some action ∧
        action.transactionID = approval.transactionID ∧
        action.effect? = some .requireApproval ∧
        (approval.status = .pending → action.status = .awaitingApproval)) ∧
    ∀ key approval other another,
      ledger.approvals.get? key = some approval →
        ledger.approvals.get? other = some another →
          approval.actionID = another.actionID → key = other := by
  obtain ⟨⟨linked, homed⟩, _⟩ := interleaved_invariant
    (fun scene => Linked config scene ∧ Homed scene) _
    (fun _ holds => holds.1.keyed)
    (fun _ thread _ _ holds _ admissible may =>
      have forward := (http thread).forward
      ⟨holds.1.step admissible forward may,
        holds.2.step holds.1 admissible forward may⟩)
    (fun _ _ holds _ _ => ⟨{ holds.1 with }, { holds.2 with }⟩)
    ⟨Linked.start initial, Homed.start initial⟩ fresh
  refine ⟨homed.owned, ?_, linked.once⟩
  intro key approval present
  obtain ⟨id, action, about, stored, _, effect⟩ :=
    linked.requested key approval present
  refine ⟨id, action, about, stored,
    homed.asked key approval id action present about stored, effect, ?_⟩
  intro pending
  obtain ⟨other, waiting, named, found, status⟩ :=
    linked.waiting present pending
  cases about.symm.trans named
  cases stored.symm.trans found
  exact status

/-- The refund waits for its approval. -/
theorem references_resolve_refund :
    let ledger := (interleaved Sample.config Sample.world Sample.late
      (Sample.turns 0 (Sample.executed ++
        List.replicate 17 3))).history.state.ledger
    (ledger.approvals.get? "id45").map Approval.status = some .pending ∧
      ∀ approval, ledger.approvals.get? "id45" = some approval →
        ∃ id action, approval.actionID = some id ∧
          ledger.actions.get? id = some action ∧
          (approval.status = .pending →
            action.status = .awaitingApproval) := by
  refine ⟨by decide +kernel, fun approval present => ?_⟩
  obtain ⟨id, action, about, stored, _, _, waits⟩ :=
    (references_resolve (Sample.isHTTP_threads (by decide +kernel))
      Sample.initial (by decide +kernel)).2.1 "id45" approval present
  exact ⟨id, action, about, stored, waits⟩

end SettleAgent
