import SettleAgent.Integrations.Provider
import SettleAgent.Policies

/-!
# The Stripe integration

The live handlers and the refund reconciler.  The credential of the action's
organization is an argument; it is `none` when none is configured.
-/

namespace SettleAgent
namespace Integrations

def stripeBaseURL : String := "https://api.stripe.com"

/-- Upper-case hexadecimal digit. -/
def hexDigit (value : Nat) : Char :=
  if value < 10 then Char.ofNat (48 + value) else Char.ofNat (55 + value)

def unreserved (byte : Nat) : Bool :=
  (97 ≤ byte && byte ≤ 122) || (65 ≤ byte && byte ≤ 90) ||
    (48 ≤ byte && byte ≤ 57) || byte = 45 || byte = 95 || byte = 46 ||
    byte = 126

def urlEncode (text : String) : String :=
  String.ofList (text.toUTF8.toList.flatMap fun byte =>
    if unreserved byte.toNat then [Char.ofNat byte.toNat]
    else ['%', hexDigit (byte.toNat / 16), hexDigit (byte.toNat % 16)])

/-- The first of the keys under which a number is given. -/
def numArg (arguments : Object) (keys : List String) : Option Int :=
  keys.findSome? fun key => (arguments.get? key).bind Value.int64?

/-- Live keys are refused outright. -/
def stripeKey (secret : String) : Except String String :=
  if hasPrefix secret "sk_live" then
    .error "live Stripe keys are never accepted; use a test-mode key"
  else if !hasPrefix secret "sk_test_" then
    .error "not a Stripe test-mode key (must start sk_test_)"
  else .ok secret

/-- The form fields of a refund request. -/
def refundForm (charge : String) (arguments : Object) :
    List (String × String) :=
  [("charge", charge)] ++
    (match numArg arguments ["amount_cents"] with
      | some amount => [("amount", toString amount)]
      | none => []) ++
    (match strArg arguments ["reason"] with
      | some reason => [("reason", reason)]
      | none => [])

def stripeRefundHandler (credential : Option String) (action : TxnAction)
    (reply : Reply Object) : Sent Object :=
  match credential with
  | none => Sent.refuse
      "stripe integration not configured for this org (register a test-mode key first)"
  | some secret =>
      match stripeKey secret with
      | .error error => Sent.refuse error
      | .ok key =>
          match strArg action.arguments ["charge", "charge_id"] with
          | none => Sent.refuse "stripe.refund needs a charge id"
          | some charge => doJSON
              { method := "POST"
                url := stripeBaseURL ++ "/v1/refunds"
                token := key
                idempotencyKey := action.idempotencyKey
                body := .form (refundForm charge action.arguments) } reply

/-- A handler that sends anything makes the one call. -/
theorem stripeRefundHandler_of_sends {credential : Option String}
    {action : TxnAction} {reply : Reply Object}
    (sends : (stripeRefundHandler credential action reply).sent ≠ []) :
    ∃ key charge, stripeRefundHandler credential action reply = doJSON
      { method := "POST"
        url := stripeBaseURL ++ "/v1/refunds"
        token := key
        idempotencyKey := action.idempotencyKey
        body := .form (refundForm charge action.arguments) } reply := by
  simp only [stripeRefundHandler] at sends ⊢
  split
  · exact absurd rfl sends
  split
  · simp_all [Sent.refuse]
  split
  · simp_all [Sent.refuse]
  · exact ⟨_, _, rfl⟩

def stripeReadCustomerHandler (credential : Option String)
    (action : TxnAction) (reply : Reply Object) : Sent Object :=
  match credential with
  | none => Sent.refuse "stripe integration not configured for this org"
  | some secret =>
      match stripeKey secret with
      | .error error => Sent.refuse error
      | .ok key =>
          match strArg action.arguments ["customer", "customer_id"] with
          | none => Sent.refuse "stripe.read_customer needs a customer id"
          | some id => doJSON
              { method := "GET"
                url := stripeBaseURL ++ "/v1/customers/" ++ urlEncode id
                token := key
                body := .empty } reply

/-- The listed refund that the reconciler takes for the action's own. -/
def matchRefund (wanted : Int) : List Value → Option (List (String × Value))
  | [] => none
  | .object fields :: items =>
      match fields.lookup "amount" with
      | some (.float64 amount) =>
          if wanted = 0 ∨ amount.toInt64 = wanted then some fields
          else matchRefund wanted items
      | _ => matchRefund wanted items
  | _ :: items => matchRefund wanted items

/-- `none` says that the provider shows no execution. -/
def stripeRefundReconciler (credential : Option String) (action : TxnAction)
    (reply : Reply Object) : Sent (Option Object) :=
  match credential with
  | none => Sent.refuse "stripe integration not configured"
  | some secret =>
      match stripeKey secret with
      | .error error => Sent.refuse error
      | .ok key =>
          match strArg action.arguments ["charge", "charge_id"] with
          | none => Sent.refuse "no charge id to reconcile against"
          | some charge =>
              let call := doJSON
                { method := "GET"
                  url := stripeBaseURL ++ "/v1/refunds?charge=" ++
                    urlEncode charge ++ "&limit=10"
                  token := key
                  body := .empty } reply
              let wanted := (numArg action.arguments ["amount_cents"]).getD 0
              { sent := call.sent
                result := call.result.map fun out =>
                  match out.get? "data" with
                  | some (.slice items) =>
                      (matchRefund wanted items).map some
                  | _ => none }

end Integrations
end SettleAgent
