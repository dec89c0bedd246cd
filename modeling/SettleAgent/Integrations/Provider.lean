import SettleAgent.Runtime

/-!
# Calls to providers

How the integrations talk to remote services: the request that goes out, the
reply that comes back or does not, and the classification of the outcome.  An
error is uncertain when the side effect may have happened all the same.
-/

namespace SettleAgent

/-- An error of a tool handler.  `uncertain` is an `UncertainError`. -/
inductive ToolError : Type
  | plain (text : String)
  | uncertain (text : String)
  deriving DecidableEq

/-- The method `Error`. -/
def ToolError.text : ToolError → String
  | .plain text => text
  | .uncertain text => "execution uncertain: " ++ text

namespace Integrations

/-- Body of an outgoing request. -/
inductive Body : Type
  | empty
  | form (fields : List (String × String))
  | json (value : Object)
  | rpc (method : String) (name : String) (arguments : Object)

/-- A request that leaves the gateway. -/
structure Outgoing where
  method : String
  url : String
  token : String
  idempotencyKey : String := ""
  extraHeaders : List (String × String) := []
  body : Body

/-- What comes back.  `unsendable` is a request that could not be built, so
that nothing was sent; `decoded` is the result of decoding the body. -/
inductive Reply (δ : Type) : Type
  | unsendable (error : String)
  | noResponse (error : String)
  | response (status : Nat) (raw : String) (decoded : Except String δ)

/-- The requests sent by one call, and its outcome. -/
structure Sent (δ : Type) where
  sent : List Outgoing
  result : Except ToolError δ

/-- A failure before anything was sent. -/
def Sent.refuse {δ : Type} (text : String) : Sent δ where
  sent := []
  result := .error (.plain text)

/-- `truncate`, which keeps the start of a long error body. -/
def truncateText (text : String) (limit : Nat) : String :=
  takeBytes text limit

/-- `doJSON`: a transport failure is uncertain, any definitive response is
decoded or fails definitively. -/
def doJSON (request : Outgoing) : Reply Object → Sent Object
  | .unsendable error => Sent.refuse error
  | .noResponse error =>
      { sent := [request]
        result := .error (.uncertain ("no response from provider: " ++ error)) }
  | .response status raw decoded =>
      { sent := [request]
        result :=
          if 300 ≤ status then
            .error (.plain ("provider status " ++ toString status ++ ": " ++
              truncateText raw 300))
          else match decoded with
            | .ok out => .ok out
            | .error error =>
                .error (.plain ("provider returned malformed JSON: " ++ error)) }

/-- Nothing but the request is sent. -/
theorem eq_of_mem_sent {request outgoing : Outgoing} {reply : Reply Object}
    (sent : outgoing ∈ (doJSON request reply).sent) : outgoing = request := by
  cases reply with
  | unsendable error => cases sent
  | noResponse error => exact List.mem_singleton.mp sent
  | response status raw decoded => exact List.mem_singleton.mp sent

/-- `doJSONRaw`, for requests whose body is JSON.  It reads the response as
`doJSON` does. -/
def doJSONRaw (request : Outgoing) (reply : Reply Object) : Sent Object :=
  doJSON request reply

/-- The first of the keys under which a non-empty text is given. -/
def strArg (arguments : Object) (keys : List String) : Option String :=
  keys.findSome? fun key =>
    match arguments.get? key with
    | some (.string text) => if text = "" then none else some text
    | _ => none

end Integrations
end SettleAgent
