import SettleAgent.Integrations.Stripe

/-!
# The GitHub integration

One handler serves every GitHub action: the method and the path template are
its arguments.
-/

namespace SettleAgent
namespace Integrations

def githubBaseURL : String := "https://api.github.com"

/-- `strings.ReplaceAll` for a pattern that is not empty.  `skip` characters of
an occurrence are still to be dropped. -/
def replaceChars (old new : List Char) (skip : Nat) : List Char → List Char
  | [] => []
  | char :: rest =>
      if 0 < skip then replaceChars old new (skip - 1) rest
      else if old.isPrefixOf (char :: rest) then
        new ++ replaceChars old new (old.length - 1) rest
      else char :: replaceChars old new 0 rest

def replaceAll (text old new : String) : String :=
  String.ofList (replaceChars old.toList new.toList 0 text.toList)

example : replaceAll "/a/\x7bb\x7d/\x7bb\x7d" "\x7bb\x7d" "c" = "/a/c/c" := by
  decide +kernel

/-- The path of a request: the template with its parameters filled in.  Without
a number the parameter for it stays. -/
def githubPath (pathTmpl owner repo : String) (number : Option String) :
    String :=
  let path := replaceAll
    (replaceAll pathTmpl "\x7bowner\x7d" (urlEncode owner))
    "\x7brepo\x7d" (urlEncode repo)
  match number with
  | some number => replaceAll path "\x7bnumber\x7d" (urlEncode number)
  | none => path

def githubHeaders : List (String × String) :=
  [("Accept", "application/vnd.github+json"),
    ("X-GitHub-Api-Version", "2022-11-28")]

def githubHandler (credential : Option String) (method pathTmpl : String)
    (action : TxnAction) (reply : Reply Object) : Sent Object :=
  match credential with
  | none => Sent.refuse "github integration not configured for this org"
  | some token =>
      match strArg action.arguments ["owner"] with
      | none => Sent.refuse "github action needs an owner"
      | some owner =>
          match strArg action.arguments ["repo"] with
          | none => Sent.refuse "github action needs a repo"
          | some repo =>
              let url := githubBaseURL ++ githubPath pathTmpl owner repo
                (strArg action.arguments ["number", "issue", "pr"])
              if method = "GET" then doJSON
                { method := "GET"
                  url := url
                  token := token
                  extraHeaders := githubHeaders
                  body := .empty } reply
              else doJSONRaw
                { method := method
                  url := url
                  token := token
                  extraHeaders := githubHeaders
                  body := .json action.arguments } reply

/-- A handler that sends anything makes one call. -/
theorem githubHandler_of_sends {credential : Option String}
    {method pathTmpl : String} {action : TxnAction} {reply : Reply Object}
    (sends : (githubHandler credential method pathTmpl action reply).sent ≠
      []) :
    ∃ request, githubHandler credential method pathTmpl action reply =
      doJSON request reply := by
  simp only [githubHandler] at sends ⊢
  split
  · exact absurd rfl sends
  split
  · simp_all [Sent.refuse]
  split
  · simp_all [Sent.refuse]
  split
  · exact ⟨_, rfl⟩
  · exact ⟨_, rfl⟩

end Integrations
end SettleAgent
