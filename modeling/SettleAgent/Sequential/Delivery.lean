import SettleAgent.Protocol.Outcomes
import SettleAgent.Sequential.Refunds

/-!
# Responses that arrive in part

A provider may apply a request and the gateway may still learn little of it:
the connection is lost before the response, or in the middle of its body.  The
handlers take a call without a response for uncertain, but a body that cannot be
decoded for a failure, whatever the status before it said.
-/

namespace SettleAgent

open Interaction Gateway

namespace Integrations

/-- A response on its way: the whole body that the provider sent, and how many
bytes of it arrive before the connection is closed. -/
structure Response where
  status : Nat
  body : List UInt8
  arrived : Nat

/-- What becomes of a request: whether the provider applied it, and its response
or the error that the gateway gets in its place. -/
structure Delivery where
  applied : Bool
  response : Except String Response

/-- How received bytes are read: as text, and as the JSON values that the
integrations decode. -/
structure Codec where
  text : List UInt8 → String
  object : List UInt8 → Except String Object
  rpc : List UInt8 → Except String RPCResponse

/-- The part of the body that arrives. -/
def Response.received (response : Response) : List UInt8 :=
  response.body.take response.arrived

/-- The part of the body that `doJSON` and `doJSONRaw` decode.  They read up to
one mebibyte, and do not look at the error that ends the reading. -/
def Response.raw (response : Response) : List UInt8 :=
  response.received.take (2 ^ 20)

namespace Delivery

variable (codec : Codec) (delivery : Delivery)

def provider : Reply Object :=
  match delivery.response with
  | .error error => .noResponse error
  | .ok response =>
      .response response.status (codec.text response.raw)
        (codec.object response.raw)

def upstream : Reply RPCResponse :=
  match delivery.response with
  | .error error => .noResponse error
  | .ok response =>
      .response response.status (codec.text response.received)
        (codec.rpc response.received)

/-- The outside world, where every request is delivered like this. -/
def outside (rest : Outside) : Outside :=
  { rest with
    provider := delivery.provider codec
    upstream := delivery.upstream codec }

/-- The provider applied the request of this call. -/
def Applied {δ : Type} (call : Sent δ) : Prop :=
  delivery.applied = true ∧ call.sent ≠ []

/-- The gateway gets no response, or one that reports success. -/
def Unrefused : Prop :=
  ∀ response, delivery.response = .ok response →
    200 ≤ response.status ∧ response.status < 300

end Delivery

/-- The upstream server gives a result and reports no error. -/
def RPCResponse.Succeeds (response : RPCResponse) : Prop :=
  response.error = none ∧
    ∃ raw decoded, response.result = some (raw, decoded) ∧
      ∀ result, decoded = some result →
        result.get? "isError" ≠ some (.bool true)

end Integrations

open Integrations

/-- The handlers whose calls have side effects at the provider. -/
def ToolHandler.SideEffecting : ToolHandler → Prop
  | .stripeRefund | .mcp _ _ _ => True
  | .github method _ => method = "POST" ∨ method = "PUT"
  | _ => False

/-- The handler can read what arrives of the response. -/
def ToolHandler.Reads (codec : Codec) (response : Response) :
    ToolHandler → Prop
  | .mcp _ _ _ =>
      ∃ decoded, codec.rpc response.received = .ok decoded ∧ decoded.Succeeds
  | _ => ∃ out, codec.object response.raw = .ok out

/-- The outcome does not make the action fail. -/
def Unfailed (outcome : Except ToolError Object) : Prop :=
  statusOf outcome = .executed ∨ statusOf outcome = .unknown

section Outcomes

variable {codec : Codec} {delivery : Delivery}

@[simp]
theorem unfailed_ok (out : Object) : Unfailed (.ok out) :=
  .inl rfl

@[simp]
theorem unfailed_uncertain (text : String) :
    Unfailed (.error (.uncertain text)) :=
  .inr rfl

@[simp]
theorem not_unfailed_plain (text : String) :
    ¬ Unfailed (.error (.plain text)) := by
  simp [Unfailed, statusOf]

/-- Stripe and GitHub calls. -/
theorem unfailed_doJSON_iff (unrefused : delivery.Unrefused)
    (request : Outgoing) :
    Unfailed (doJSON request (delivery.provider codec)).result ↔
      ∀ response, delivery.response = .ok response →
        ∃ out, codec.object response.raw = .ok out := by
  cases answered : delivery.response with
  | error error => simp [Delivery.provider, answered, doJSON]
  | ok response =>
      have success := (unrefused response answered).2
      simp only [Delivery.provider, answered, doJSON,
        if_neg (Nat.not_le.mpr success), Except.ok.injEq, forall_eq']
      cases codec.object response.raw with
      | ok out => simp
      | error error => simp

theorem unfailed_rpcResult_iff (format : Value → String)
    (response : RPCResponse) :
    Unfailed ((rpcResult response).bind fun result =>
      toolResult format result.1 result.2) ↔ response.Succeeds := by
  obtain ⟨error, result⟩ := response
  cases error with
  | some reported => simp [rpcResult, Except.bind, RPCResponse.Succeeds]
  | none =>
      cases result with
      | none => simp [rpcResult, Except.bind, RPCResponse.Succeeds]
      | some result =>
          obtain ⟨raw, decoded⟩ := result
          cases decoded with
          | none =>
              simp [rpcResult, Except.bind, toolResult, RPCResponse.Succeeds]
          | some result =>
              simp only [rpcResult, Except.bind, toolResult,
                RPCResponse.Succeeds]
              split
              · simp_all
              · simp_all

/-- Calls of a tool of an MCP server. -/
theorem unfailed_handlerFor_iff (unrefused : delivery.Unrefused)
    (format : Value → String) (serverURL token tool : String)
    (action : TxnAction) :
    Unfailed (handlerFor format serverURL token tool action
        (delivery.upstream codec)).result ↔
      ∀ response, delivery.response = .ok response →
        ∃ decoded, codec.rpc response.received = .ok decoded ∧
          decoded.Succeeds := by
  cases answered : delivery.response with
  | error error =>
      simp [Delivery.upstream, answered, handlerFor, callUpstream, Except.bind]
  | ok response =>
      have success := (unrefused response answered).2
      simp only [Delivery.upstream, answered, handlerFor, callUpstream,
        if_neg (Nat.not_le.mpr success), Except.ok.injEq, forall_eq']
      cases codec.rpc response.received with
      | ok decoded => simp [unfailed_rpcResult_iff]
      | error error => simp [Except.bind]

/-- An applied call does not fail if and only if there is no response or the
handler can read it. -/
theorem unfailed_run_iff {handler : ToolHandler} {runtime : Runtime}
    {store : MemoryStore} {rest : Outside} {action : TxnAction}
    (effects : handler.SideEffecting)
    (applied : delivery.Applied
      (handler.run runtime store (delivery.outside codec rest) action))
    (unrefused : delivery.Unrefused) :
    Unfailed (handler.run runtime store (delivery.outside codec rest)
        action).result ↔
      ∀ response, delivery.response = .ok response →
        handler.Reads codec response := by
  cases handler with
  | stripeRefund =>
      obtain ⟨key, charge, calls⟩ := stripeRefundHandler_of_sends applied.2
      simp only [ToolHandler.run]
      rw [calls]
      exact unfailed_doJSON_iff unrefused _
  | github method pathTmpl =>
      obtain ⟨request, calls⟩ := githubHandler_of_sends applied.2
      simp only [ToolHandler.run]
      rw [calls]
      exact unfailed_doJSON_iff unrefused request
  | mcp serverURL token tool =>
      exact unfailed_handlerFor_iff unrefused runtime.format serverURL token tool
        action
  | _ => exact effects.elim

end Outcomes

/-- When the provider applied the request and the gateway gets no response or
one that reports success, the action ends executed or unknown if and only if
there is no response or the handler can read what arrives of it. -/
theorem applied_action_unfailed_iff {config : Config} {world : World}
    {traceID : String} {action old : TxnAction} {handler : ToolHandler}
    {codec : Codec} {delivery : Delivery} {rest : Outside}
    (caller : Operation) (envs : Nat → Env)
    (present : world.ledger.actions.get? action.id = some old)
    (registered : world.tools.handlers.get?
      (Registry.key action.tool action.action) = some handler)
    (effects : handler.SideEffecting)
    (behaves : ∀ n, (envs n).outside = delivery.outside codec rest)
    (applied : delivery.Applied (handler.run config.runtime world.store
      (delivery.outside codec rest) action))
    (unrefused : delivery.Unrefused) :
    let after := ((run config traceID action.orgID action).complete
      (exec config) caller envs world).2.1.ledger.status? action.id
    (after = some .executed ∨ after = some .unknown) ↔
      ∀ response, delivery.response = .ok response →
        handler.Reads codec response := by
  intro after
  have ends : after = some (statusOf (world.handled config
      (delivery.outside codec rest) action)) :=
    (run_endsIn present).complete caller envs behaves
  have handled : world.handled config (delivery.outside codec rest) action =
      (handler.run config.runtime world.store
        (delivery.outside codec rest) action).result := by
    simp only [World.handled, Registry.execute, registered]
  rw [ends, handled, Option.some.injEq, Option.some.injEq]
  exact unfailed_run_iff effects applied unrefused

namespace Sample

/-- The state in which a refund of eighty dollars was approved. -/
def beforeRefund : World :=
  (sequential Sample.config Sample.stripe (Sample.inCents.take 3)).state

/-- The approved refund. -/
def approvedRefund : TxnAction :=
  (beforeRefund.ledger.actions.get? "id103").get (by decide +kernel)

/-- Nothing cannot be decoded, and anything else is a refund. -/
def codec : Codec where
  text := fun _ => ""
  object := fun bytes =>
    if bytes = [] then .error "unexpected end of JSON input"
    else .ok (some [("object", .string "refund")])
  rpc := fun _ => .error "unexpected EOF"

/-- Stripe refunds and reports success in two bytes, of which some arrive. -/
def refunded (arrived : Nat) : Delivery where
  applied := true
  response := .ok { status := 200, body := [123, 125], arrived := arrived }

def delivered (arrived number : Nat) : Env :=
  { env number with
    outside := (refunded arrived).outside codec (env 0).outside }

theorem present_approvedRefund :
    beforeRefund.ledger.actions.get? approvedRefund.id =
      some approvedRefund := by
  have named : approvedRefund.id = "id103" := by decide +kernel
  rw [named]
  exact (Option.some_get _).symm

theorem served_approvedRefund :
    beforeRefund.tools.handlers.get? (Registry.key approvedRefund.tool
      approvedRefund.action) = some .stripeRefund := by
  rfl

end Sample

/-- The whole response arrives. -/
theorem applied_action_unfailed_iff_whole :
    let after := ((run Sample.config "" Sample.approvedRefund.orgID
      Sample.approvedRefund).complete (exec Sample.config)
        (Sample.execute "id103") (Sample.delivered 2)
        Sample.beforeRefund).2.1.ledger.status? Sample.approvedRefund.id
    after = some .executed ∨ after = some .unknown :=
  (applied_action_unfailed_iff (Sample.execute "id103") (Sample.delivered 2)
    Sample.present_approvedRefund Sample.served_approvedRefund trivial
    (fun _ => rfl)
    ⟨rfl, by decide +kernel⟩
    (by
      intro response answered
      cases answered
      exact ⟨by decide, by decide⟩)).mpr
    (by
      intro response answered
      cases answered
      exact ⟨_, rfl⟩)

/-- Stripe refunds and reports success, the connection is lost before the body,
and the action is marked failed. -/
theorem applied_refund_is_marked_failed :
    Sample.approvedRefund.tool = "stripe" ∧
      Sample.approvedRefund.action = "refund" ∧
      (Sample.refunded 0).Applied (Sample.beforeRefund.tools.execute
        Sample.config.runtime Sample.beforeRefund.store
        ((Sample.refunded 0).outside Sample.codec (Sample.env 0).outside)
        Sample.approvedRefund) ∧
      ((run Sample.config "" Sample.approvedRefund.orgID
        Sample.approvedRefund).complete (exec Sample.config)
          (Sample.execute "id103") (Sample.delivered 0)
          Sample.beforeRefund).2.1.ledger.status? Sample.approvedRefund.id =
        some .failed :=
  ⟨by decide +kernel, by decide +kernel, ⟨rfl, by decide +kernel⟩,
    by decide +kernel⟩

end SettleAgent
