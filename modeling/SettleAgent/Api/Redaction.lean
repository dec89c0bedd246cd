import Mathlib.Data.List.TakeWhile
import SettleAgent.Api.Handlers
import SettleAgent.Data.Cut

/-!
# Credentials in the URLs of MCP servers

The audit event of a registration shows the server's URL with its user
information replaced.  The parser ends the user information at the last `@` of
the authority, `RedactURL` at the first `@` of the URL.  What stands between
the two is shown.
-/

namespace SettleAgent
namespace Api

open Interaction Integrations Gateway

/-! ## The parts of a URL -/

/-- A URL with user information: the scheme, the user information, and
everything behind the `@` that ends it. -/
structure UserURL where
  scheme : List Char
  userinfo : List Char
  behind : List Char
  deriving DecidableEq

namespace UserURL

/-- The characters of a scheme. -/
def schemeChar (char : Char) : Bool :=
  char.isAlphanum || char = '+' || char = '-' || char = '.'

/-- Whether the authority goes on with this character.  A path, a query or a
fragment ends it. -/
def inAuthority (char : Char) : Bool :=
  char ≠ '/' && char ≠ '?' && char ≠ '#'

/-- How `net/url` finds the user information. -/
def read (raw : String) : Option UserURL :=
  let scheme := raw.toList.takeWhile schemeChar
  match raw.toList.dropWhile schemeChar with
  | ':' :: '/' :: '/' :: rest =>
      (cutLast '@' (rest.takeWhile inAuthority)).map fun cut =>
        { scheme := scheme
          userinfo := cut.1
          behind := cut.2 ++ rest.dropWhile inAuthority }
  | _ => none

/-- The URL as it is written. -/
def text (url : UserURL) : List Char :=
  url.scheme ++ ':' :: '/' :: '/' :: (url.userinfo ++ '@' :: url.behind)

/-- What the user information holds from its first `@` on. -/
def shown (url : UserURL) : List Char :=
  url.userinfo.dropWhile (· ≠ '@')

theorem text_of_read {raw : String} {url : UserURL}
    (parsed : read raw = some url) :
    raw.toList = url.text ∧ ∀ char ∈ url.scheme, schemeChar char = true := by
  unfold read at parsed
  dsimp only at parsed
  split at parsed
  · rename_i rest after
    obtain ⟨⟨userinfo, host⟩, cuts, rfl⟩ := Option.map_eq_some_iff.mp parsed
    refine ⟨?_, fun char member => List.mem_takeWhile_imp member⟩
    have authority := eq_append_of_cutLast cuts
    have whole : raw.toList.takeWhile schemeChar ++
        raw.toList.dropWhile schemeChar = raw.toList :=
      List.takeWhile_append_dropWhile
    have tail : rest.takeWhile inAuthority ++ rest.dropWhile inAuthority =
        rest := List.takeWhile_append_dropWhile
    rw [authority] at tail
    rw [after, ← tail] at whole
    refine whole.symm.trans ?_
    simp [text]
  · cases parsed

end UserURL

/-! ## Redaction -/

section Redaction

variable {first : Char} {more before rest : List Char}

/-- A pattern is found behind characters that it does not start with. -/
theorem indexOf_append (absent : first ∉ before) :
    indexOf (first :: more) (before ++ rest) =
      (indexOf (first :: more) rest).map (before.length + ·) := by
  induction before with
  | nil => simp
  | cons char before inductionHypothesis =>
      rw [List.mem_cons, not_or] at absent
      have differs : (first :: more).isPrefixOf (char :: (before ++ rest)) =
          false := by
        simp [List.isPrefixOf, absent.1]
      rw [List.cons_append, indexOf, differs, if_neg Bool.false_ne_true,
        inductionHypothesis absent.2, Option.map_map]
      apply congrArg fun shift => (indexOf (first :: more) rest).map shift
      funext position
      simp only [Function.comp, List.length_cons]
      omega

theorem indexOf_start :
    indexOf (first :: more) (first :: more ++ rest) = some 0 := by
  have starts : (first :: more).isPrefixOf (first :: (more ++ rest)) =
      true := by
    rw [List.isPrefixOf_iff_prefix]
    exact List.prefix_append (first :: more) rest
  rw [List.cons_append, indexOf, if_pos starts]

/-- The text between the first `://` and the first `@` behind it is
replaced. -/
theorem toList_redactURL {raw : String} {scheme hidden after : List Char}
    (whole : raw.toList =
      scheme ++ ':' :: '/' :: '/' :: (hidden ++ '@' :: after))
    (noColon : ':' ∉ scheme) (noAt : '@' ∉ scheme) (unmarked : '@' ∉ hidden) :
    (redactURL raw).toList =
      scheme ++ ':' :: '/' :: '/' :: '*' :: '*' :: '*' :: '@' :: after := by
  have colon : indexOf [':', '/', '/'] raw.toList = some scheme.length := by
    rw [whole, indexOf_append noColon]
    exact congrArg (Option.map (scheme.length + ·)) indexOf_start
  have front : raw.toList =
      (scheme ++ [':', '/', '/'] ++ hidden) ++ '@' :: after := by
    rw [whole]
    simp
  have marked : indexOf ['@'] raw.toList =
      some (scheme ++ [':', '/', '/'] ++ hidden).length := by
    rw [front, indexOf_append (by simp [noAt, unmarked])]
    exact congrArg (Option.map ((scheme ++ [':', '/', '/'] ++
      hidden).length + ·)) indexOf_start
  have kept : raw.toList.take (scheme.length + 3) =
      scheme ++ [':', '/', '/'] := by
    have shape : raw.toList = (scheme ++ [':', '/', '/']) ++
        (hidden ++ '@' :: after) := by
      rw [whole]
      simp
    rw [shape]
    exact List.take_left' (by simp)
  have rest : raw.toList.drop
      ((scheme ++ [':', '/', '/'] ++ hidden).length + 1) = after := by
    rw [front, List.drop_append]
    simp
  have inside : scheme.length <
      (scheme ++ [':', '/', '/'] ++ hidden).length := by
    simp only [List.length_append, List.length_cons, List.length_nil]
    omega
  simp only [redactURL, marked, colon, inside, if_true, kept, rest]
  simp

namespace UserURL

variable {url : UserURL}

theorem notMem_scheme (scheme : ∀ char ∈ url.scheme, schemeChar char = true) :
    ':' ∉ url.scheme ∧ '@' ∉ url.scheme := by
  constructor
  · intro member
    exact absurd (scheme ':' member) (by decide)
  · intro member
    exact absurd (scheme '@' member) (by decide)

/-- What is shown starts with the first `@`. -/
theorem exists_shown (url : UserURL) :
    ∃ after, url.shown ++ '@' :: url.behind = '@' :: after := by
  unfold shown
  cases left : url.userinfo.dropWhile (· ≠ '@') with
  | nil => exact ⟨url.behind, rfl⟩
  | cons char rest =>
      have head := List.head?_dropWhile_not (· ≠ '@') url.userinfo
      rw [left] at head
      have marked : char = '@' := by
        simpa using head
      rw [marked]
      exact ⟨rest ++ '@' :: url.behind, rfl⟩

/-- The user information is replaced up to its first `@`. -/
theorem toList_redactURL {raw : String} (parsed : read raw = some url) :
    (redactURL raw).toList = url.scheme ++ ':' :: '/' :: '/' :: '*' :: '*' ::
      '*' :: (url.shown ++ '@' :: url.behind) := by
  obtain ⟨whole, scheme⟩ := text_of_read parsed
  obtain ⟨noColon, noAt⟩ := notMem_scheme scheme
  obtain ⟨after, starts⟩ := url.exists_shown
  have split : url.userinfo ++ '@' :: url.behind =
      url.userinfo.takeWhile (· ≠ '@') ++ '@' :: after := by
    rw [← starts, ← List.append_assoc]
    exact congrArg (· ++ '@' :: url.behind)
      List.takeWhile_append_dropWhile.symm
  rw [text, split] at whole
  rw [starts]
  refine Api.toList_redactURL whole noColon noAt ?_
  intro member
  simpa using List.mem_takeWhile_imp member

end UserURL

end Redaction

/-! ## The audit event -/

/-- The audit event of a registration, with the URL as it is shown. -/
def serverRegistered (request : Request) (name shown : String) (tools : Nat) :
    AuditEvent :=
  { orgID := request.orgOf, actorType := .human,
    actorID := request.operatorName, type := .mcpServerRegistered,
    payload := [("server", .string name), ("url", .string shown),
      ("tools", .int tools)] }

/-- The call emits nothing but such an event. -/
def EmitsOnly (request : Request) (name shown : String) (call : Call) : Prop :=
  ∀ event, call = .emit event → ∃ tools,
    event = serverRegistered request name shown tools

theorem registerTools_emits {allowed : Call → Prop}
    (silent : ∀ tool action classes handler,
      allowed (.register tool action classes handler))
    (name url token : String) (classes : List (String × List ActionClass))
    (tools : List MCPTool) :
    (registerTools name url token classes tools).AllCalls allowed := by
  induction tools with
  | nil => trivial
  | cons tool tools inductionHypothesis =>
      exact ⟨silent _ _ _ _, fun _ => inductionHypothesis⟩

/-- Registering a server emits one kind of event, and it shows the redacted
URL. -/
theorem handleRegisterMCPServer_emits (config : Config) (request : Request)
    (body : Decoded RegisterMCPServerBody) :
    (handleRegisterMCPServer config request body).AllCalls
      (EmitsOnly request body.value.name (redactURL body.value.url)) := by
  have silent (call : Call) (quiet : ∀ event, call ≠ .emit event) :
      EmitsOnly request body.value.name (redactURL body.value.url) call :=
    fun event emits => absurd emits (quiet event)
  unfold handleRegisterMCPServer
  dsimp only
  split
  · trivial
  split
  · trivial
  split
  · trivial
  split
  · trivial
  split
  · trivial
  rename_i classes _
  refine ⟨silent _ (by simp), fun listed => ?_⟩
  cases listed with
  | error error => trivial
  | ok tools =>
      refine ⟨silent _ (by simp), fun server => ?_⟩
      have registers := registerTools_emits
        (fun tool action classes handler =>
          silent (.register tool action classes handler) (by simp))
        body.value.name body.value.url body.value.authToken classes tools
      refine registers.bind fun _ => ⟨?_, fun _ => trivial⟩
      intro event emits
      obtain rfl := Call.emit.inj emits
      exact ⟨tools.length, rfl⟩

/-! ## What is shown of the user information -/

/-- Two URLs that are accepted and differ only in their user information. -/
structure AlikeButUserinfo (runtime : Runtime) (raw other : String)
    (url otherURL : UserURL) : Prop where
  accepted : validateURL runtime raw = .ok ()
  acceptedOther : validateURL runtime other = .ok ()
  parsed : UserURL.read raw = some url
  parsedOther : UserURL.read other = some otherURL
  given : url.userinfo ≠ []
  givenOther : otherURL.userinfo ≠ []
  sameScheme : url.scheme = otherURL.scheme
  sameBehind : url.behind = otherURL.behind

/-- Two accepted URLs that differ only in their user information are redacted
to the same text exactly if the user information is the same from the first
`@` in it on.  The audit event of a registration shows the URL only as it is
redacted. -/
theorem redacted_alike_iff (config : Config) {raw other : String}
    {url otherURL : UserURL}
    (alike : AlikeButUserinfo config.runtime raw other url otherURL) :
    (redactURL raw = redactURL other ↔ url.shown = otherURL.shown) ∧
    ∀ (request : Request) (body : Decoded RegisterMCPServerBody),
      (handleRegisterMCPServer config request body).AllCalls
        (EmitsOnly request body.value.name (redactURL body.value.url)) := by
  refine ⟨?_, handleRegisterMCPServer_emits config⟩
  rw [← String.toList_inj, UserURL.toList_redactURL alike.parsed,
    UserURL.toList_redactURL alike.parsedOther, alike.sameScheme,
    alike.sameBehind]
  simp

end Api

namespace Sample

open Api

/-- The characters that `net/url` accepts in user information. -/
def validUserinfo (userinfo : List Char) : Bool :=
  userinfo.all fun char =>
    char.isAlphanum || "-._:~!$&'()*+,;=%@".toList.contains char

/-- A configuration whose runtime parses URLs with user information. -/
def parsing : Config where
  runtime := { runtime with
    parseURL := fun raw => (UserURL.read raw).bind fun url =>
      let host := String.ofList (url.behind.takeWhile UserURL.inAuthority)
      if validUserinfo url.userinfo then
        some ⟨String.ofList (url.scheme.map Char.toLower), host, host⟩
      else none }
  signer := none
  jevEnabled := false
  jevLimit := none
  jevKey := "key"

/-- The URL of a server with these credentials. -/
def upstreamURL (userinfo : String) : String :=
  "https://" ++ userinfo ++ "@mcp.example.com/rpc?v=1"

/-- The parts of the URL. -/
def upstreamParts (userinfo : String) : UserURL where
  scheme := "https".toList
  userinfo := userinfo.toList
  behind := "mcp.example.com/rpc?v=1".toList

end Sample

namespace Api

open Integrations

/-- Passwords without an `@` are not told apart. -/
theorem redacted_alike_iff_plain :
    AlikeButUserinfo Sample.parsing.runtime (Sample.upstreamURL "bot:first")
        (Sample.upstreamURL "bot:second") (Sample.upstreamParts "bot:first")
        (Sample.upstreamParts "bot:second") ∧
      redactURL (Sample.upstreamURL "bot:first") =
        redactURL (Sample.upstreamURL "bot:second") := by
  have alike : AlikeButUserinfo Sample.parsing.runtime
      (Sample.upstreamURL "bot:first") (Sample.upstreamURL "bot:second")
      (Sample.upstreamParts "bot:first")
      (Sample.upstreamParts "bot:second") := by
    constructor <;> decide +kernel
  exact ⟨alike, (redacted_alike_iff Sample.parsing alike).1.mpr
    (by decide +kernel)⟩

/-- Of a password with an `@` the end is shown. -/
theorem password_end_is_shown :
    AlikeButUserinfo Sample.parsing.runtime
        (Sample.upstreamURL "bot:p@ssw0rd") (Sample.upstreamURL "bot:p@lace")
        (Sample.upstreamParts "bot:p@ssw0rd")
        (Sample.upstreamParts "bot:p@lace") ∧
      redactURL (Sample.upstreamURL "bot:p@ssw0rd") =
        "https://***@ssw0rd@mcp.example.com/rpc?v=1" ∧
      redactURL (Sample.upstreamURL "bot:p@lace") =
        "https://***@lace@mcp.example.com/rpc?v=1" := by
  refine ⟨?_, by decide +kernel, by decide +kernel⟩
  constructor <;> decide +kernel

end Api
end SettleAgent
