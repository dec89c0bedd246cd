import SettleAgent.Concurrent.Idempotency
import SettleAgent.Sequential.Refunds

/-!
# Idempotency keys of refunds

Stripe remembers a request by its `Idempotency-Key` header, across the whole
account.  The gateway sends the client's key there, which is unique in one
transaction only.  So two refunds are told apart unless a client used one key
in two transactions.
-/

namespace SettleAgent

open Interaction Integrations

/-- The refund requests that the step sends to Stripe, with their actions. -/
def refundsOf (config : Config) (mark : Mark Nat Call Env World) :
    List (TxnAction × Outgoing) :=
  match mark.request.dispatched with
  | some action =>
      if action.tool = "stripe" ∧ action.action = "refund" then
        (mark.before.tools.execute config.runtime mark.before.store
          mark.env.outside action).sent.map (Prod.mk action)
      else []
  | none => []

/-- The refund requests that the steps send to Stripe. -/
def refundsSent (config : Config) (marks : List (Mark Nat Call Env World)) :
    List (TxnAction × Outgoing) :=
  marks.flatMap (refundsOf config)

/-- A refund carries the client's key. -/
theorem idempotencyKey_of_mem_sent
    {credential : Option String} {action : TxnAction} {reply : Reply Object}
    {outgoing : Outgoing}
    (sent : outgoing ∈ (stripeRefundHandler credential action reply).sent) :
    outgoing.idempotencyKey = action.idempotencyKey := by
  obtain ⟨key, charge, calls⟩ :=
    stripeRefundHandler_of_sends (List.ne_nil_of_mem sent)
  rw [calls] at sent
  rw [eq_of_mem_sent sent]

section Runs

variable {config : Config} {world : World} {operations : Nat → Operation}
  {schedule : List (Nat × Env)}

/-- Throughout the run the live handler serves refunds. -/
theorem refundsLive_of_interleaved
    (keyed : world.ledger.WellKeyed) (live : world.tools.RefundsLive)
    (fresh : FreshSchedule config world operations schedule) :
    ∀ mark ∈ (interleaved config world operations schedule).history.marks,
      mark.before.tools.RefundsLive := by
  refine (interleaved_invariant
    (fun scene => scene.world.ledger.WellKeyed ∧
      scene.world.tools.RefundsLive ∧
      ∀ mark ∈ scene.marks, mark.before.tools.RefundsLive) _
    (fun _ holds => holds.1) ?_ (fun _ _ holds _ _ => holds)
    ⟨keyed, live, by simp [Scene.start]⟩ fresh).1.2.2
  rintro scene thread request env ⟨keyed, live, marked⟩ _ _ may
  refine ⟨wellKeyed_exec request keyed, live.exec may, ?_⟩
  intro mark made
  rcases List.mem_append.mp made with earlier | now
  · exact marked mark earlier
  · obtain rfl := List.mem_singleton.mp now
    exact live

/-- A refund that was sent was dispatched, and carries the client's key. -/
theorem of_mem_refundsOf {mark : Mark Nat Call Env World}
    {refund : TxnAction × Outgoing} (sent : refund ∈ refundsOf config mark)
    (live : mark.before.tools.RefundsLive) :
    mark.request = .execute refund.1 ∧
      refund.2.idempotencyKey = refund.1.idempotencyKey := by
  unfold refundsOf at sent
  split at sent
  swap
  · cases sent
  rename_i action dispatched
  split at sent
  swap
  · cases sent
  rename_i named
  obtain ⟨outgoing, member, rfl⟩ := List.mem_map.mp sent
  rw [Registry.execute, named.1, named.2, live] at member
  exact ⟨Call.dispatched_eq_some.mp dispatched,
    idempotencyKey_of_mem_sent member⟩

/-- The refunds of an organization that are sent in a run carry distinct
`Idempotency-Key` headers if and only if no two of them are in different
transactions and were proposed with the same key. -/
theorem refund_keys_distinct_iff
    (unproposed : world.Unproposed) (live : world.tools.RefundsLive)
    (fresh : FreshSchedule config world operations schedule)
    (orgID : String) :
    let sent := refundsSent config
      (interleaved config world operations schedule).history.marks
    (∀ first ∈ sent, ∀ second ∈ sent,
      first.1.orgID = orgID → second.1.orgID = orgID →
      first.1.id ≠ second.1.id →
        first.2.idempotencyKey ≠ second.2.idempotencyKey) ↔
    ∀ first ∈ sent, ∀ second ∈ sent,
      first.1.orgID = orgID → second.1.orgID = orgID →
      first.1.transactionID ≠ second.1.transactionID →
        first.1.idempotencyKey ≠ second.1.idempotencyKey := by
  intro sent
  have idempotent := Idempotent.of_interleaved unproposed fresh
  have served := refundsLive_of_interleaved unproposed.keyed live fresh
  have stored : ∀ refund ∈ sent,
      refund.2.idempotencyKey = refund.1.idempotencyKey ∧ ∃ stored,
        (interleaved config world operations
          schedule).history.state.ledger.actions.get? refund.1.id =
            some stored ∧ SameKey refund.1 stored := by
    intro refund member
    obtain ⟨mark, made, sends⟩ := List.mem_flatMap.mp member
    obtain ⟨executes, header⟩ := of_mem_refundsOf sends (served mark made)
    exact ⟨header, idempotent.dispatched mark made refund.1 executes⟩
  constructor
  · intro distinct first member second member' org org' elsewhere
    obtain ⟨header, record, present, same⟩ := stored first member
    obtain ⟨header', other, present', same'⟩ := stored second member'
    rw [← header, ← header']
    refine distinct first member second member' org org' ?_
    intro named
    rw [named, present', Option.some.injEq] at present
    subst present
    exact elsewhere (same.transactionID.trans same'.transactionID.symm)
  · intro unshared first member second member' org org' different
    obtain ⟨header, record, present, same⟩ := stored first member
    obtain ⟨header', other, present', same'⟩ := stored second member'
    rw [header, header']
    by_cases inside : first.1.transactionID = second.1.transactionID
    · intro key
      have one : SameKey first.1 second.1 :=
        ⟨org.trans org'.symm, inside, key⟩
      exact different (idempotent.catalogued.unique present present'
        (same.symm.trans (one.trans same')))
    · exact unshared first member second member' org org' inside

end Runs

namespace Sample

/-- Two transactions with a refund in each, both approved and executed; the
client chose the second key. -/
def refunds (key : String) : Nat → Operation :=
  threads [create, create,
    propose "id1" "stripe" "refund" (some [("charge", .string "ch_1")]) "k",
    propose "id5" "stripe" "refund" (some [("charge", .string "ch_2")]) key,
    decideApproval "id21" true, decideApproval "id38" true,
    execute "id11", execute "id28"]

/-- One operation after the other. -/
def oneByOne : List (Nat × Env) :=
  turns 0 (List.replicate 4 0 ++ List.replicate 4 1 ++ List.replicate 17 2 ++
    List.replicate 17 3 ++ List.replicate 8 4 ++ List.replicate 8 5 ++
    List.replicate 14 6 ++ List.replicate 14 7)

theorem unproposed_stripe : stripe.Unproposed :=
  .of_initial initial_stripe

end Sample

/-- The client uses another key in the second transaction. -/
theorem refund_keys_distinct_iff_fresh_key :
    let sent := refundsSent Sample.config (interleaved Sample.config
      Sample.stripe (Sample.refunds "l") Sample.oneByOne).history.marks
    sent.length = 2 ∧ ∀ first ∈ sent, ∀ second ∈ sent,
      first.1.orgID = "acme" → second.1.orgID = "acme" →
      first.1.id ≠ second.1.id →
        first.2.idempotencyKey ≠ second.2.idempotencyKey :=
  ⟨by decide +kernel, (refund_keys_distinct_iff Sample.unproposed_stripe
    (Registry.refundsLive_registerReal _) (by decide +kernel) "acme").mpr
    (by decide +kernel)⟩

/-- The client uses one key in both transactions, and the two refunds are sent
under the same `Idempotency-Key`. -/
theorem reused_key_is_sent_twice :
    Sample.stripe.Unproposed ∧ Sample.stripe.tools.RefundsLive ∧
      FreshSchedule Sample.config Sample.stripe (Sample.refunds "k")
        Sample.oneByOne ∧
      let sent := refundsSent Sample.config (interleaved Sample.config
        Sample.stripe (Sample.refunds "k") Sample.oneByOne).history.marks
      ¬ ∀ first ∈ sent, ∀ second ∈ sent,
        first.1.orgID = "acme" → second.1.orgID = "acme" →
        first.1.id ≠ second.1.id →
          first.2.idempotencyKey ≠ second.2.idempotencyKey :=
  ⟨Sample.unproposed_stripe, Registry.refundsLive_registerReal _,
    by decide +kernel, by decide +kernel⟩

end SettleAgent
