import SettleAgent.Integrations.Provider

/-!
# The MCP proxy

Calls to upstream MCP servers, and the tool handler that proxies one upstream
tool.
-/

namespace SettleAgent
namespace Integrations

/-- A decoded JSON-RPC response: its error, and its result as raw text with
the object it decodes to, if it does. -/
structure RPCResponse where
  error : Option (Int × String)
  result : Option (String × Option Object)

/-- The scheme guard on upstream targets. -/
def validateURL (runtime : Runtime) (raw : String) : Except String Unit :=
  match runtime.parseURL raw with
  | some url =>
      if url.scheme ≠ "http" ∧ url.scheme ≠ "https" then
        .error "upstream must be an http(s) URL"
      else if url.host = "" then .error "upstream URL needs a host"
      else .ok ()
  | none => .error "upstream must be an http(s) URL"

/-- The outcome of a JSON-RPC call once the response was decoded. -/
def rpcResult (response : RPCResponse) :
    Except ToolError (String × Option Object) :=
  match response.error, response.result with
  | some (code, message), _ =>
      .error (.plain ("upstream error " ++ toString code ++ ": " ++ message))
  | none, none => .error (.plain "upstream returned empty result")
  | none, some result => .ok result

def callUpstream (serverURL token : String) (body : Body) :
    Reply RPCResponse → Sent (String × Option Object)
  | .unsendable error => Sent.refuse error
  | .noResponse error =>
      { sent := [request]
        result := .error (.uncertain ("upstream unreachable: " ++ error)) }
  | .response status _ decoded =>
      { sent := [request]
        result :=
          if 300 ≤ status then
            .error (.plain ("upstream status " ++ toString status))
          else match decoded with
            | .ok response => rpcResult response
            | .error error => .error (.plain
                ("upstream returned malformed response: " ++ error)) }
where
  /-- The request as it is sent. -/
  request : Outgoing :=
    { method := "POST", url := serverURL, token := token, body := body }

/-- The tool catalog of an upstream server.  `catalog` is the result of
decoding the raw reply. -/
def listTools (serverURL token : String)
    (catalog : Except String (List MCPTool)) (reply : Reply RPCResponse) :
    Sent (List MCPTool) :=
  let call := callUpstream serverURL token (.rpc "tools/list" "" none) reply
  { sent := call.sent
    result := call.result.bind fun _ =>
      match catalog with
      | .ok tools => .ok tools
      | .error error =>
          .error (.plain ("upstream tools/list malformed: " ++ error)) }

/-- The engine's tool namespace of an MCP server. -/
def toolName (server : String) : String := "mcp:" ++ server

/-- What a decoded tool result amounts to. -/
def toolResult (format : Value → String) (raw : String) :
    Option Object → Except ToolError Object
  | none => .ok (some [("raw", .string raw)])
  | some result =>
      match result.get? "isError" with
      | some (.bool true) => .error (.plain
          ("upstream tool reported error: " ++
            format ((result.get? "content").getD .null)))
      | _ => .ok result

/-- The handler that proxies one upstream tool. -/
def handlerFor (format : Value → String) (serverURL token tool : String)
    (action : TxnAction) (reply : Reply RPCResponse) : Sent Object :=
  let call := callUpstream serverURL token
    (.rpc "tools/call" tool action.arguments) reply
  { sent := call.sent
    result := call.result.bind fun result =>
      toolResult format result.1 result.2 }

/-- Position of the first occurrence of a pattern. -/
def indexOf (needle : List Char) : List Char → Option Nat
  | [] => if needle = [] then some 0 else none
  | char :: rest =>
      if needle.isPrefixOf (char :: rest) then some 0
      else (indexOf needle rest).map (· + 1)

/-- Strip the user information before a URL is logged. -/
def redactURL (raw : String) : String :=
  let chars := raw.toList
  match indexOf ['@'] chars, indexOf [':', '/', '/'] chars with
  | some i, some j =>
      if j < i then
        String.ofList (chars.take (j + 3)) ++ "***@" ++
          String.ofList (chars.drop (i + 1))
      else raw
  | _, _ => raw

end Integrations
end SettleAgent
