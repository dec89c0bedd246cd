import SettleAgent.Protocol.Outcomes
import SettleAgent.Sequential.Refunds

/-!
# Reconciling against Stripe's refunds

Stripe keeps the refunds of every charge, newest first, with the idempotency
key of the request that created each.  A listing shows the charge and the
amounts, and not the keys.  The reconciler takes any listed refund of the right
amount for the action's own.
-/

namespace SettleAgent

open Interaction Gateway

namespace Integrations

/-- A refund as Stripe keeps it: the amount that a listing shows, and the key of
the request that created it. -/
structure StripeRefund where
  amount : Float64
  key : String

/-- The refunds of each charge, newest first. -/
structure StripeLedger where
  refunds : Table (List StripeRefund)

/-- A refund in a listing. -/
def StripeRefund.listed (charge : String) (refund : StripeRefund) : Value :=
  .object [("object", .string "refund"), ("charge", .string charge),
    ("amount", .float64 refund.amount)]

namespace StripeLedger

variable (ledger : StripeLedger)

def refundsOf (charge : String) : List StripeRefund :=
  (ledger.refunds.get? charge).getD []

/-- The answer to a request for the newest refunds of a charge. -/
def listing (charge : String) (limit : Nat) : Object :=
  some [("object", .string "list"),
    ("data", .slice (((ledger.refundsOf charge).take limit).map
      (StripeRefund.listed charge)))]

/-- There is a refund that was created under the key. -/
def Holds (key : String) : Prop :=
  ∃ refunds ∈ ledger.refunds.values, ∃ refund ∈ refunds, refund.key = key

instance (key : String) : Decidable (ledger.Holds key) :=
  inferInstanceAs (Decidable (∃ _ ∈ _, ∃ _ ∈ _, _))

/-- Among the ten newest refunds of the charge there is one of the wanted
amount.  Any amount will do if none is wanted. -/
def Shows (charge : String) (wanted : Int) : Prop :=
  ∃ refund ∈ (ledger.refundsOf charge).take 10,
    wanted = 0 ∨ refund.amount.toInt64 = wanted

instance (charge : String) (wanted : Int) :
    Decidable (ledger.Shows charge wanted) :=
  inferInstanceAs (Decidable (∃ _ ∈ _, _))

end StripeLedger

/-- The reconciler takes the first refund of the wanted amount. -/
theorem matchRefund_listed (charge : String) (wanted : Int)
    (refunds : List StripeRefund) :
    (matchRefund wanted (refunds.map (StripeRefund.listed charge))).isSome ↔
      ∃ refund ∈ refunds, wanted = 0 ∨ refund.amount.toInt64 = wanted := by
  induction refunds with
  | nil => simp [matchRefund]
  | cons refund refunds inductionHypothesis =>
      simp only [List.map_cons, List.exists_mem_cons_iff]
      rw [← inductionHypothesis]
      change (if wanted = 0 ∨ refund.amount.toInt64 = wanted then _
        else matchRefund wanted _ : Option _).isSome ↔ _
      split
      · rename_i taken
        simp [taken]
      · rename_i passed
        simp [passed]

end Integrations

open Integrations

/-- An uncertain refund that can be reconciled: its organization has a Stripe
key, and it names its charge. -/
structure Reconcilable (world : World) (action : TxnAction) (charge : String) :
    Prop where
  present : world.ledger.actions.get? action.id = some action
  uncertain : action.status = .unknown
  tool : action.tool = "stripe"
  name : action.action = "refund"
  live : world.tools.reconcilerFor "stripe" "refund" = some .stripeRefund
  configured : ∃ secret key,
    world.store.getIntegrationCredential action.orgID "stripe" =
      some secret ∧ stripeKey secret = .ok key
  charged : strArg action.arguments ["charge", "charge_id"] = some charge

/-- Stripe responds, and the body of a success, if it can be decoded, lists the
newest refunds of the charge. -/
structure Answers (ledger : StripeLedger) (charge : String) (status : Nat)
    (decoded : Except String Object) (outside : Outside) : Prop where
  responds : ∃ raw, outside.provider = .response status raw decoded
  lists : status < 300 → ∀ out, decoded = .ok out →
    out = ledger.listing charge 10

section Reconciled

variable {config : Config} {world : World} {action : TxnAction}
  {charge : String} {ledger : StripeLedger} {status : Nat}
  {decoded : Except String Object} {outside : Outside}

/-- The reconciler has an answer if the response is a success with a body that
can be decoded.  It then finds an execution if the listing shows one. -/
theorem reconciledStatus_stripe
    (reconcilable : Reconcilable world action charge)
    (answers : Answers ledger charge status decoded outside) :
    reconciledStatus (Registry.reconcile world.store outside .stripeRefund
        action).result =
      if status < 300 ∧ decoded.isOk then
        if ledger.Shows charge
            ((numArg action.arguments ["amount_cents"]).getD 0)
          then .executed else .failed
      else .unknown := by
  obtain ⟨secret, key, configured, accepted⟩ := reconcilable.configured
  obtain ⟨raw, provided⟩ := answers.responds
  simp only [Registry.reconcile, stripeRefundReconciler, configured, accepted,
    reconcilable.charged, provided, doJSON]
  by_cases success : status < 300
  · rw [if_neg (Nat.not_le.mpr success)]
    cases decoded with
    | error error =>
        rw [if_neg (fun both => Bool.noConfusion both.2)]
        rfl
    | ok out =>
        obtain rfl := answers.lists success out rfl
        rw [if_pos ⟨success, rfl⟩]
        have shown := matchRefund_listed charge
          ((numArg action.arguments ["amount_cents"]).getD 0)
          ((ledger.refundsOf charge).take 10)
        change settledStatus ((matchRefund _ _).map some) = _
        split
        · rename_i shows
          obtain ⟨refund, found⟩ := Option.isSome_iff_exists.mp (shown.mpr shows)
          rw [found]
          rfl
        · rename_i hidden
          rw [Option.not_isSome_iff_eq_none.mp (mt shown.mp hidden)]
          rfl
  · rw [if_pos (Nat.not_lt.mp success), if_neg (fun both => success both.1)]
    rfl

/-- Reconciling a refund marks it executed if Stripe holds a refund that the
action's own key created, and failed otherwise, if and only if the response is a
success with a body that can be decoded, and the listing shows a refund of the
action's amount exactly when there is such a refund. -/
theorem reconciled_by_own_refund_iff (traceID : String) (caller : Operation)
    (envs : Nat → Env)
    (reconcilable : Reconcilable world action charge)
    (answers : Answers ledger charge status decoded outside)
    (behaves : ∀ n, (envs n).outside = outside) :
    ((reconcile config traceID action.orgID action.id).complete (exec config)
        caller envs world).2.1.ledger.status? action.id =
      some (if ledger.Holds action.idempotencyKey
        then .executed else .failed) ↔
    status < 300 ∧ decoded.isOk ∧
      (ledger.Shows charge
        ((numArg action.arguments ["amount_cents"]).getD 0) ↔
          ledger.Holds action.idempotencyKey) := by
  have registered : world.tools.reconcilerFor action.tool action.action =
      some .stripeRefund := by
    rw [reconcilable.tool, reconcilable.name]
    exact reconcilable.live
  rw [(reconcile_endsIn reconcilable.present reconcilable.uncertain
    registered).complete caller envs behaves,
    reconciledStatus_stripe reconcilable answers, ← and_assoc]
  by_cases answered : status < 300 ∧ decoded.isOk
  · rw [if_pos answered, and_iff_right answered]
    split <;> split <;> simp_all
  · rw [if_neg answered]
    refine iff_of_false ?_ (fun both => answered both.1)
    split <;> simp

end Reconciled

namespace Sample

/-- The state after a refund of eighty dollars got no response. -/
def unanswered : World :=
  (sequential Sample.config Sample.stripe Sample.inCents).state

/-- The refund that got no response. -/
def pending : TxnAction :=
  (unanswered.ledger.actions.get? "id103").get (by decide +kernel)

theorem fits_eightyDollars : Int.natAbs 8000 < 2 ^ 53 := by
  decide

/-- One refund of eighty dollars on the charge, created under this key. -/
def oneRefund (key : String) : StripeLedger where
  refunds := (∅ : Table (List StripeRefund)).set "ch_1"
    [{ amount := ⟨8000, 0, fits_eightyDollars⟩, key := key }]

/-- Stripe answers every request with this ledger's refunds of the charge. -/
def listed (ledger : StripeLedger) (number : Nat) : Env :=
  { env number with
    outside := { (env number).outside with
      provider := .response 200 "" (.ok (ledger.listing "ch_1" 10)) } }

theorem reconcilable_pending : Reconcilable unanswered pending "ch_1" where
  present := by
    have named : pending.id = "id103" := by decide +kernel
    rw [named]
    exact (Option.some_get _).symm
  uncertain := by decide +kernel
  tool := by decide +kernel
  name := by decide +kernel
  live := by decide +kernel
  configured := ⟨"sk_test_1", "sk_test_1", by rfl, by rfl⟩
  charged := by decide +kernel

theorem answers_listed (ledger : StripeLedger) (number : Nat) :
    Answers ledger "ch_1" 200 (.ok (ledger.listing "ch_1" 10))
      (listed ledger number).outside where
  responds := ⟨"", rfl⟩
  lists := fun _ _ same => (Except.ok.inj same).symm

end Sample

/-- Stripe holds the refund of the action itself. -/
theorem reconciled_by_own_refund_iff_alone :
    ((reconcile Sample.config "" Sample.pending.orgID
      Sample.pending.id).complete (exec Sample.config)
        (Sample.ask (.reconcile "id103"))
        (Sample.listed (Sample.oneRefund "k"))
        Sample.unanswered).2.1.ledger.status? Sample.pending.id =
      some (if (Sample.oneRefund "k").Holds Sample.pending.idempotencyKey
        then .executed else .failed) :=
  (reconciled_by_own_refund_iff "" (Sample.ask (.reconcile "id103"))
    (Sample.listed (Sample.oneRefund "k")) Sample.reconcilable_pending
    (Sample.answers_listed (Sample.oneRefund "k") 0) (fun _ => rfl)).mpr
    ⟨by decide, rfl, by decide +kernel⟩

/-- The request of the action never reached Stripe, and the refund of another
action on the same charge is taken for its own. -/
theorem refund_of_another_is_adopted :
    Reconcilable Sample.unanswered Sample.pending "ch_1" ∧
      Sample.pending.idempotencyKey = "k" ∧
      ¬ (Sample.oneRefund "other").Holds "k" ∧
      ((reconcile Sample.config "" Sample.pending.orgID
        Sample.pending.id).complete (exec Sample.config)
          (Sample.ask (.reconcile "id103"))
          (Sample.listed (Sample.oneRefund "other"))
          Sample.unanswered).2.1.ledger.status? Sample.pending.id =
        some .executed :=
  ⟨Sample.reconcilable_pending, by decide +kernel, by decide +kernel,
    by decide +kernel⟩

end SettleAgent
