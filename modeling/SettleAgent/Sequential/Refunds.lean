import SettleAgent.Sequential.Runs

/-!
# The amount of a refund

`ProposeAction` extracts an amount in cents from the arguments, and the grant
limits and the policy rules see that amount.  The Stripe handler reads the
arguments again, and only the key `amount_cents`.  A refund that is proposed in
dollars, or under the other key, is judged by its amount and sent without any.
-/

namespace SettleAgent

open Interaction Integrations

/-- The value of a form field of an outgoing request. -/
def Integrations.Outgoing.field (outgoing : Outgoing) (name : String) :
    Option String :=
  match outgoing.body with
  | .form fields => fields.lookup name
  | _ => none

/-- The requests that left the gateway during the step. -/
def sentDuring (config : Config) (mark : Mark Operation Call Env World) :
    List Outgoing :=
  (mark.after (exec config)).network.drop mark.before.network.length

/-- The arguments give `amount_cents` as a number. -/
def GivesCents (arguments : Object) : Prop :=
  ∃ value ∈ arguments.get? "amount_cents", value.int64?.isSome = true

/-- The request names the amount that was extracted from the arguments when
the action was proposed, and that the rules were evaluated on. -/
def CarriesJudgedAmount (outgoing : Outgoing) (action : TxnAction) : Prop :=
  ∃ cents, outgoing.field "amount" = some (toString cents) ∧
    Gateway.extractCents action.arguments = some cents ∧
    action.amountCents = some cents ∧ Policies.amountOf action = cents

/-- The live handler serves refunds. -/
def Registry.RefundsLive (registry : Registry) : Prop :=
  registry.handlers.get? (Registry.key "stripe" "refund") = some .stripeRefund

/-- Every action carries the amount that its arguments give. -/
def Ledger.Priced (ledger : Ledger) : Prop :=
  ∀ id action, ledger.actions.get? id = some action →
    action.amountCents = Gateway.extractCents action.arguments

variable {config : Config} {env : Env} {world : World}

/-! ## The registry -/

/-- The tools of an MCP server never take the key of refunds. -/
theorem key_toolName_ne_refund (name action : String) :
    Registry.key (toolName name) action ≠ Registry.key "stripe" "refund" := by
  intro same
  have chars := congrArg String.toList same
  simp [Registry.key, toolName] at chars

theorem Registry.RefundsLive.register
    {registry : Registry} (live : registry.RefundsLive)
    (name action : String) (classes : List ActionClass)
    (handler : ToolHandler) :
    (registry.register (toolName name) action classes (some handler)
      none).RefundsLive := by
  unfold Registry.RefundsLive Registry.register
  rw [Table.get?_set_of_ne _ _ (key_toolName_ne_refund name action).symm]
  exact live

theorem Registry.refundsLive_registerReal (registry : Registry) :
    (registry.registerReal false).RefundsLive := by
  simp [Registry.RefundsLive, Registry.registerReal, Registry.liveHandlers,
    Registry.register, Registry.registerReconciler, Registry.key,
    Table.get?_set]

/-- Refunds stay with the live handler. -/
theorem Registry.RefundsLive.exec
    {intent : Intent} {view : View} {request : Call}
    (live : world.tools.RefundsLive) (may : May intent view request) :
    (SettleAgent.exec config request env world).2.tools.RefundsLive := by
  by_cases registers : ∃ tool action classes handler,
      request = .register tool action classes handler
  · obtain ⟨tool, action, classes, handler, rfl⟩ := registers
    obtain ⟨name, rfl⟩ := may
    exact live.register name action classes handler
  · rw [tools_exec fun tool action classes handler equal =>
      registers ⟨tool, action, classes, handler, equal⟩]
    exact live

/-! ## Amounts -/

/-- Every permitted call keeps the actions at the amounts their arguments
give. -/
theorem Coherent.priced_exec {intent : Intent} {view : View} {request : Call}
    (coherent : Coherent view world.ledger) (priced : world.ledger.Priced)
    (admissible : Admissible world env) (may : May intent view request) :
    (exec config request env world).2.ledger.Priced := by
  intro id action present
  have write := actionWrite config coherent.keyed admissible may id
  rw [present] at write
  cases write with
  | kept same => exact priced id action same.symm
  | added new added named absent written =>
      cases written
      obtain ⟨_, _, _, _, _, _, extracted, _⟩ := added
      exact extracted
  | decided draft old decision drafted named undecided found written =>
      cases written
      exact priced id old found
  | placed draft old decision drafted named undecided known found written =>
      cases written
      exact priced id old found
  | rewritten held old new holding unstored rewrites named found written =>
      cases written
      obtain ⟨revises, stored, _⟩ :=
        coherent.rewritten holding unstored rewrites
      rw [revises.alike.amountCents, revises.alike.arguments]
      exact priced _ held.record stored

/-- The handler names an amount exactly if the arguments give it in cents. -/
theorem field_refundForm (charge : String) (arguments : Object) :
    (refundForm charge arguments).lookup "amount" =
      (numArg arguments ["amount_cents"]).map toString := by
  unfold refundForm
  cases numArg arguments ["amount_cents"] with
  | some cents => simp [List.lookup_cons]
  | none => cases strArg arguments ["reason"] <;> simp [List.lookup_cons]

/-- What the live handler sends for a refund. -/
theorem field_of_mem_sent
    {credential : Option String} {action : TxnAction} {reply : Reply Object}
    {outgoing : Outgoing}
    (sent : outgoing ∈ (stripeRefundHandler credential action reply).sent) :
    outgoing.field "amount" =
      (numArg action.arguments ["amount_cents"]).map toString := by
  obtain ⟨key, charge, calls⟩ :=
    stripeRefundHandler_of_sends (List.ne_nil_of_mem sent)
  rw [calls] at sent
  rw [eq_of_mem_sent sent]
  exact field_refundForm charge action.arguments

theorem numArg_cents (arguments : Object) :
    numArg arguments ["amount_cents"] =
      (arguments.get? "amount_cents").bind Value.int64? := by
  cases found : (arguments.get? "amount_cents").bind Value.int64? <;>
    simp [numArg, found]

theorem givesCents_iff (arguments : Object) :
    GivesCents arguments ↔
      ∃ cents, numArg arguments ["amount_cents"] = some cents := by
  simp only [GivesCents, numArg_cents, Option.mem_def, Option.isSome_iff_exists,
    Option.bind_eq_some_iff]
  constructor
  · rintro ⟨value, given, cents, number⟩
    exact ⟨cents, value, given, number⟩
  · rintro ⟨cents, value, given, number⟩
    exact ⟨value, given, cents, number⟩

/-- An amount in cents is the first that `ProposeAction` looks for. -/
theorem extractCents_of_numArg {arguments : Object} {cents : Int}
    (given : numArg arguments ["amount_cents"] = some cents) :
    Gateway.extractCents arguments = some cents := by
  rw [numArg_cents] at given
  simp [Gateway.extractCents, given]

/-- In every sequential run with the live handler, a refund that is sent
carries the amount that was judged exactly if its arguments give that amount
in cents. -/
theorem refund_carries_judged_amount_iff
    {arrivals : List Arrival} {registry : Registry}
    (initial : world.Initial)
    (live : world.tools = registry.registerReal false)
    (fresh : FreshRun config world arrivals)
    {mark : Mark Operation Call Env World} {action : TxnAction}
    {outgoing : Outgoing}
    (made : mark ∈ (sequential config world arrivals).marks)
    (executes : mark.request = .execute action)
    (tool : action.tool = "stripe") (name : action.action = "refund")
    (sent : outgoing ∈ sentDuring config mark) :
    CarriesJudgedAmount outgoing action ↔ GivesCents action.arguments := by
  obtain ⟨_, called⟩ := sequential_invariant
    (fun _ view world => Coherent view world.ledger ∧ world.ledger.Priced ∧
      world.tools.RefundsLive)
    (fun world => Coherent View.first world.ledger ∧ world.ledger.Priced ∧
      world.tools.RefundsLive) (fun _ _ => True)
    (fun _ _ _ holds => holds.1.keyed)
    (fun _ _ _ _ _ ⟨coherent, priced, served⟩ admissible may =>
      ⟨coherent.step admissible may,
        coherent.priced_exec priced admissible may, served.exec may⟩)
    (fun _ _ holds _ => holds)
    (fun _ _ _ settled ⟨coherent, rest⟩ => ⟨coherent.leave settled, rest⟩)
    (by
      have empty : world.ledger = Ledger.empty := initial
      rw [empty, live]
      exact ⟨Coherent.empty, by simp [Ledger.Priced, Ledger.empty],
        registry.refundsLive_registerReal⟩)
    fresh fun _ _ _ _ => trivial
  obtain ⟨view, ⟨coherent, priced, served⟩, may⟩ := called mark made
  rw [executes] at may
  obtain ⟨_, held, holding, rfl, _, unstored, _⟩ := may
  have present := coherent.held held holding
  rw [unstored, Option.getD_none] at present
  have judged := priced _ held.record present
  have field : outgoing.field "amount" =
      (numArg held.record.arguments ["amount_cents"]).map toString := by
    apply field_of_mem_sent
    have network := sent
    simp only [sentDuring, Mark.after] at network
    rw [executes] at network
    simp only [exec, World.withSent, List.drop_left, Registry.execute, tool,
      name] at network
    rw [served] at network
    exact network
  rw [givesCents_iff]
  constructor
  · rintro ⟨cents, named, _⟩
    rw [field, Option.map_eq_some_iff] at named
    obtain ⟨given, equal, _⟩ := named
    exact ⟨given, equal⟩
  · rintro ⟨cents, given⟩
    have extracted := extractCents_of_numArg given
    have amount := judged.trans extracted
    refine ⟨cents, ?_, extracted, amount, ?_⟩
    · rw [field, given, Option.map_some]
    · simp [Policies.amountOf, amount]

namespace Sample

/-- The sample store with a Stripe key, and the live handlers. -/
def stripe : World where
  store := { Sample.world.store with
    integCreds := (∅ : Table String).set "acme|stripe" "sk_test_1" }
  tools := Registry.default.registerReal false
  network := []

theorem initial_stripe : stripe.Initial := rfl

/-- A refund of eighty dollars is proposed with these arguments, approved and
executed. -/
def refund (arguments : List (String × Value)) : List Arrival :=
  inTurn
    [create,
      propose "id1" "stripe" "refund"
        (some (("charge", .string "ch_1") :: arguments)) "k",
      decideApproval "id113" true, execute "id103"]

def inCents : List Arrival :=
  refund [("amount_cents", .float64 ⟨8000, 0, by decide⟩)]

def inDollars : List Arrival :=
  refund [("amount", .float64 ⟨80, 0, by decide⟩)]

end Sample

/-- A refund in cents is sent with the amount that was judged. -/
theorem refund_carries_judged_amount_iff_cents :
    ∃ mark ∈ (sequential Sample.config Sample.stripe Sample.inCents).marks,
      ∃ action ∈ mark.request.dispatched,
        ∃ outgoing ∈ sentDuring Sample.config mark,
          CarriesJudgedAmount outgoing action := by
  have found : ∃ mark ∈
      (sequential Sample.config Sample.stripe Sample.inCents).marks,
      ∃ action ∈ mark.request.dispatched,
        ∃ outgoing ∈ sentDuring Sample.config mark,
          action.tool = "stripe" ∧ action.action = "refund" ∧
            ((action.arguments.get? "amount_cents").bind
              Value.int64?).isSome = true := by
    decide +kernel
  obtain ⟨mark, made, action, dispatched, outgoing, sent, tool, name, given⟩ :=
    found
  refine ⟨mark, made, action, dispatched, outgoing, sent, ?_⟩
  refine (refund_carries_judged_amount_iff Sample.initial_stripe rfl
    (by decide +kernel) made (Call.dispatched_eq_some.mp dispatched) tool name
    sent).mpr ?_
  rw [givesCents_iff, numArg_cents]
  exact Option.isSome_iff_exists.mp given

/-- A refund of eighty dollars is judged as 8000 cents, and sent without an
amount. -/
theorem refund_in_dollars_is_sent_without_amount :
    Sample.stripe.Initial ∧
      FreshRun Sample.config Sample.stripe Sample.inDollars ∧
      ∃ mark ∈ (sequential Sample.config Sample.stripe Sample.inDollars).marks,
        ∃ action ∈ mark.request.dispatched,
          ∃ outgoing ∈ sentDuring Sample.config mark,
            action.tool = "stripe" ∧ action.action = "refund" ∧
              action.amountCents = some 8000 ∧
              ¬ CarriesJudgedAmount outgoing action := by
  have found : ∃ mark ∈
      (sequential Sample.config Sample.stripe Sample.inDollars).marks,
      ∃ action ∈ mark.request.dispatched,
        ∃ outgoing ∈ sentDuring Sample.config mark,
          action.tool = "stripe" ∧ action.action = "refund" ∧
            action.amountCents = some 8000 ∧
            outgoing.field "amount" = none := by
    decide +kernel
  obtain ⟨mark, made, action, dispatched, outgoing, sent, tool, name, amount,
    absent⟩ := found
  refine ⟨Sample.initial_stripe, by decide +kernel, mark, made, action,
    dispatched, outgoing, sent, tool, name, amount, ?_⟩
  rintro ⟨cents, named, _⟩
  simp [absent] at named

end SettleAgent
