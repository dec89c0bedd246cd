import SettleAgent.Domain

/-!
# The transaction state machine

The transition table of a transaction's status, and the guarded update that
most writers of the status go through.
-/

namespace SettleAgent

/-- The table of transitions. -/
def allowedTransitions : TxnStatus → List TxnStatus
  | .created => [.planning, .aborting, .failed]
  | .planning => [.executing, .awaitingApproval, .aborting, .failed]
  | .awaitingApproval => [.executing, .aborting, .failed]
  | .executing =>
      [.committed, .awaitingApproval, .aborting, .compensating, .failed]
  | .aborting => [.compensating, .rolledBack, .failed]
  | .compensating => [.rolledBack, .partiallyCompensated, .failed]
  | _ => []

/-- The statuses that are never left. -/
def TxnStatus.terminal : TxnStatus → Bool
  | .committed | .rolledBack | .partiallyCompensated | .failed => true
  | _ => false

/-- The statuses that let a transaction be committed. -/
def ActionStatus.resolved : ActionStatus → Bool
  | .executed | .denied | .compensated => true
  | _ => false

def canTransition (source target : TxnStatus) : Bool :=
  if source = target then true
  else if source.terminal then false
  else decide (target ∈ allowedTransitions source)

/-- The transaction with its status moved to the target, or the error. -/
def mustTransition (txn : Transaction) (target : TxnStatus) :
    Except String Transaction :=
  if canTransition txn.status target then
    .ok { txn with status := target }
  else
    .error ("illegal transaction transition " ++ txn.status.text ++
      " -> " ++ target.text)

/-- The status a writer stores that ignores the error of `mustTransition`: the
target if the transition is legal and the status as read otherwise. -/
def statusAfter (txn : Transaction) (target : TxnStatus) : TxnStatus :=
  match mustTransition txn target with
  | .ok moved => moved.status
  | .error _ => txn.status

@[simp] theorem canTransition_self (status : TxnStatus) :
    canTransition status status = true := by
  simp [canTransition]

theorem mustTransition_eq_ok {txn moved : Transaction} {target : TxnStatus}
    (accepted : mustTransition txn target = .ok moved) :
    canTransition txn.status target = true ∧
      moved = { txn with status := target } := by
  unfold mustTransition at accepted
  split at accepted
  · rename_i legal
    simp only [Except.ok.injEq] at accepted
    exact ⟨legal, accepted.symm⟩
  · simp at accepted

/-- A writer that ignores the error of `mustTransition` still only makes legal
transitions. -/
theorem canTransition_statusAfter (txn : Transaction) (target : TxnStatus) :
    canTransition txn.status (statusAfter txn target) = true := by
  unfold statusAfter
  split
  · rename_i moved accepted
    obtain ⟨legal, equal⟩ := mustTransition_eq_ok accepted
    subst equal
    exact legal
  · exact canTransition_self txn.status

/-- Terminal statuses have no outgoing transition. -/
theorem eq_of_canTransition_terminal {source target : TxnStatus}
    (terminal : source.terminal = true)
    (legal : canTransition source target = true) :
    target = source := by
  unfold canTransition at legal
  by_cases same : source = target
  · exact same.symm
  · simp [same, terminal] at legal

theorem statusAfter_of_terminal {txn : Transaction} (target : TxnStatus)
    (terminal : txn.status.terminal = true) :
    statusAfter txn target = txn.status :=
  eq_of_canTransition_terminal terminal (canTransition_statusAfter txn target)

end SettleAgent
