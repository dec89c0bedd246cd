import SettleAgent.Data.Cut
import SettleAgent.Integrations.Provider

/-!
# The HTTP integration

`http.request` proxies requests to the domains on the organization's allowlist.
Method, domain and address are checked once, for the URL that the agent
supplied.  The client then follows redirects to wherever the remote servers
send it, and nothing is checked again.
-/

namespace SettleAgent
namespace Integrations

/-! ## The checks -/

/-- `strings.TrimSuffix` with a dot. -/
def trimDot (text : String) : String :=
  if text.toList.getLast? = some '.' then String.ofList text.toList.dropLast
  else text

/-- `strings.HasSuffix`. -/
def hasSuffix (text ending : String) : Bool :=
  ending.toList.isSuffixOf text.toList

def domainAllowed (runtime : Runtime) (host : String) (allow : List String) :
    Bool :=
  let host := runtime.toLower (trimDot host)
  allow.any fun entry =>
    let domain := runtime.toLower (runtime.trimSpace (trimDot entry))
    domain ≠ "" && (host = domain || hasSuffix host ("." ++ domain))

/-- What `net.IP` tells about an address. -/
structure Address where
  isLoopback : Bool := false
  isPrivate : Bool := false
  isLinkLocalUnicast : Bool := false
  isLinkLocalMulticast : Bool := false
  isMulticast : Bool := false
  isUnspecified : Bool := false

def Address.nonPublic (address : Address) : Bool :=
  address.isLoopback || address.isPrivate || address.isLinkLocalUnicast ||
    address.isLinkLocalMulticast || address.isMulticast ||
    address.isUnspecified

/-- The answer to one request of the client.  A redirect comes with its
location, resolved against the URL that was requested, and with whether it asks
for the same method again; of a body there is what was read, at most a
mebibyte. -/
inductive HTTPReply : Type
  | noResponse (error : String)
  | redirect (sameMethod : Bool) (location : String)
  | response (status : Nat) (body : String)

/-- What a call of the handler meets outside: the variable
`AG_ALLOW_LOOPBACK`, the resolver, an error in building the request, the
answers to the requests it sends, one after the other, and the client's error
when it does not follow a redirect. -/
structure Egress where
  allowLoopback : Bool := false
  lookup : String → Except String (List Address)
  unbuildable : Option String := none
  replies : Nat → HTTPReply
  unfollowed : String

def publicIP (egress : Egress) (host : String) : Except String Unit :=
  if egress.allowLoopback then .ok ()
  else match egress.lookup host with
  | .error _ | .ok [] => .error ("cannot resolve " ++ host)
  | .ok addresses =>
      if addresses.any Address.nonPublic then
        .error ("destination " ++ host ++ " resolves to non-public address")
      else .ok ()

/-! ## The allowlist -/

/-- The texts in a slice of dynamically typed values.  A slice of strings has
another type and gives none. -/
def toStrings : Option Value → List String
  | some (.slice items) => items.filterMap fun
      | .string text => some text
      | _ => none
  | _ => []

/-- The domains of an organization's settings for the integration. -/
def allowedDomains (settings : Object) : List String :=
  toStrings (settings.get? "domains")

/-- The methods of the settings, or the default ones. -/
def allowedMethods (settings : Object) : List String :=
  let methods := toStrings (settings.get? "methods")
  if methods = [] then ["GET", "HEAD"] else methods

/-! ## The handler -/

variable (runtime : Runtime) (egress : Egress)

/-- The method that is asked for, in upper case. -/
def requestMethod (action : TxnAction) : String :=
  match strArg action.arguments ["method"] with
  | some method => runtime.toUpper method
  | none => "GET"

/-- The URL that is asked for, as given and parsed, if it can be requested. -/
def requestURL (action : TxnAction) : Except String (String × ParsedURL) :=
  match strArg action.arguments ["url"] with
  | none => .error "http.request needs a url"
  | some raw =>
      match runtime.parseURL raw with
      | none => .error "http.request needs an http(s) url"
      | some url =>
          if (url.scheme ≠ "http" ∧ url.scheme ≠ "https") ∨ url.host = "" then
            .error "http.request needs an http(s) url"
          else .ok (raw, url)

/-- The checks on method and domain. -/
def checkAllowlist (settings : Object) (action : TxnAction) :
    Except String (String × ParsedURL) :=
  let method := requestMethod runtime action
  let methods := allowedMethods settings
  if method ∉ methods then
    .error ("http.request: method " ++ method ++ " not in org allowlist " ++
      formatStrings methods)
  else do
    let (raw, url) ← requestURL runtime action
    if !domainAllowed runtime url.hostname (allowedDomains settings) then
      .error ("http.request: host " ++ url.hostname ++
        " not in org allowlist (request access first)")
    else .ok (raw, url)

/-- The number of redirects that the client follows before it stops, after ten
requests. -/
def redirectLimit : Nat := 9

/-- Where a redirect leads.  The client sends nothing to URLs of other schemes
or without a host. -/
def redirectTarget (location : String) : Option ParsedURL :=
  (runtime.parseURL location).filter fun url =>
    (url.scheme = "http" || url.scheme = "https") && url.host ≠ ""

/-- The request that follows a redirect. -/
def Outgoing.redirected (request : Outgoing) (sameMethod : Bool)
    (location : String) : Outgoing :=
  { request with
    method :=
      if sameMethod ∨ request.method = "HEAD" then request.method else "GET"
    url := location }

/-- Send a request and follow redirects from there: the requests that were
sent, and the response that is returned. -/
def follow : (limit sent : Nat) → Outgoing →
    List Outgoing × Except String (Nat × String)
  | limit, sent, request =>
      match egress.replies sent with
      | .noResponse error => ([request], .error error)
      | .response status body => ([request], .ok (status, body))
      | .redirect sameMethod location =>
          match redirectTarget runtime location, limit with
          | some _, limit + 1 =>
              let rest := follow limit (sent + 1)
                (request.redirected sameMethod location)
              (request :: rest.1, rest.2)
          | _, _ => ([request], .error egress.unfollowed)

/-- What came of a call, with the hosts that `publicIP` accepted. -/
structure HTTPRun extends Sent Object where
  accepted : List String

/-- What the handler makes of a response. -/
def httpResult (method : String) (status : Nat) (body : String) : Object :=
  let out := [("status", Value.int status), ("body", .string body)]
  if method ≠ "GET" ∧ method ≠ "HEAD" then
    some (out ++ [("warning", .string
      "non-idempotent method: side effects unknown, treat as EXTERNAL_COMMUNICATION")])
  else some out

def httpRequestHandler (settings : Object) (action : TxnAction) : HTTPRun :=
  match checkAllowlist runtime settings action with
  | .error error => { Sent.refuse error with accepted := [] }
  | .ok (raw, url) =>
      match publicIP egress url.hostname with
      | .error error =>
          { Sent.refuse ("http.request refused: " ++ error) with
            accepted := [] }
      | .ok _ =>
          match egress.unbuildable with
          | some error =>
              { Sent.refuse error with accepted := [url.hostname] }
          | none =>
              let method := requestMethod runtime action
              let done := follow runtime egress redirectLimit 0
                { method := method, url := raw, token := "", body := .empty }
              { sent := done.1
                result := match done.2 with
                  | .error error => .error (.uncertain ("no response from " ++
                      url.hostname ++ ": " ++ error))
                  | .ok (status, body) => .ok (httpResult method status body)
                accepted := [url.hostname] }

/-! ## Where requests go -/

/-- The locations to which the client follows a redirect. -/
def followed : (limit sent : Nat) → List (String × ParsedURL)
  | 0, _ => []
  | limit + 1, sent =>
      match egress.replies sent with
      | .redirect _ location =>
          match redirectTarget runtime location with
          | some url => (location, url) :: followed limit (sent + 1)
          | none => []
      | _ => []

/-- One request goes out at first, and one to every location that is
followed. -/
theorem urls_follow (limit sent : Nat) (request : Outgoing) :
    (follow runtime egress limit sent request).1.map Outgoing.url =
      request.url :: (followed runtime egress limit sent).map Prod.fst := by
  induction limit generalizing sent request with
  | zero =>
      unfold follow followed
      cases egress.replies sent with
      | redirect sameMethod location =>
          dsimp only
          cases redirectTarget runtime location <;> rfl
      | _ => rfl
  | succ limit inductionHypothesis =>
      unfold follow followed
      cases egress.replies sent with
      | redirect sameMethod location =>
          dsimp only
          cases redirectTarget runtime location with
          | none => rfl
          | some url =>
              simp only [List.map_cons, inductionHypothesis]
              rfl
      | _ => rfl

theorem parseURL_of_followed {limit sent : Nat} {location : String × ParsedURL}
    (member : location ∈ followed runtime egress limit sent) :
    runtime.parseURL location.1 = some location.2 := by
  induction limit generalizing sent with
  | zero => cases member
  | succ limit inductionHypothesis =>
      unfold followed at member
      split at member
      · split at member
        · rename_i parsed
          rcases List.mem_cons.mp member with rfl | later
          · exact (Option.filter_eq_some_iff.mp parsed).1
          · exact inductionHypothesis later
        · cases member
      · cases member

variable {runtime egress} {settings : Object} {action : TxnAction}
  {raw : String} {url : ParsedURL}

/-- What it takes to pass the checks on method and domain. -/
theorem checkAllowlist_eq_ok :
    checkAllowlist runtime settings action = .ok (raw, url) ↔
      requestMethod runtime action ∈ allowedMethods settings ∧
        requestURL runtime action = .ok (raw, url) ∧
        domainAllowed runtime url.hostname (allowedDomains settings) = true := by
  simp only [checkAllowlist]
  by_cases listed : requestMethod runtime action ∈ allowedMethods settings
  swap
  · simp [listed]
  simp only [listed, not_true, if_false, true_and]
  cases requestURL runtime action with
  | error error => simp [bind, Except.bind]
  | ok given =>
      obtain ⟨text, target⟩ := given
      simp only [bind, Except.bind, Except.ok.injEq, Prod.mk.injEq]
      by_cases allowed : domainAllowed runtime target.hostname
          (allowedDomains settings) = true
      · simp only [allowed, Bool.not_true, Bool.false_eq_true, if_false,
          Except.ok.injEq, Prod.mk.injEq]
        constructor
        · rintro ⟨rfl, rfl⟩
          exact ⟨⟨rfl, rfl⟩, allowed⟩
        · exact And.left
      · simp only [allowed, Bool.not_false, if_true, reduceCtorEq, false_iff]
        rintro ⟨⟨rfl, rfl⟩, admitted⟩
        exact allowed admitted

theorem parseURL_of_requested
    (asked : requestURL runtime action = .ok (raw, url)) :
    runtime.parseURL raw = some url := by
  unfold requestURL at asked
  split at asked
  · cases asked
  rename_i given _
  cases parsed : runtime.parseURL given with
  | none => simp [parsed] at asked
  | some found =>
      simp only [parsed] at asked
      split at asked
      · cases asked
      · obtain ⟨rfl, rfl⟩ := Prod.mk.inj (Except.ok.inj asked)
        exact parsed

/-- The handler gets as far as sending a request to the URL. -/
structure Sends (runtime : Runtime) (egress : Egress) (settings : Object)
    (action : TxnAction) (raw : String) (url : ParsedURL) : Prop where
  checked : checkAllowlist runtime settings action = .ok (raw, url)
  accepted : publicIP egress url.hostname = .ok ()
  built : egress.unbuildable = none

theorem Sends.accepted_eq
    (sends : Sends runtime egress settings action raw url) :
    (httpRequestHandler runtime egress settings action).accepted =
      [url.hostname] := by
  simp only [httpRequestHandler, sends.checked, sends.accepted, sends.built]

theorem Sends.urls_eq (sends : Sends runtime egress settings action raw url) :
    (httpRequestHandler runtime egress settings action).sent.map Outgoing.url =
      raw :: (followed runtime egress redirectLimit 0).map Prod.fst := by
  simp only [httpRequestHandler, sends.checked, sends.accepted, sends.built]
  exact urls_follow _ _ _ _ _

theorem sent_eq_nil
    (unsent : ¬ ∃ raw url, Sends runtime egress settings action raw url) :
    (httpRequestHandler runtime egress settings action).sent = [] := by
  unfold httpRequestHandler
  split
  · rfl
  rename_i raw url checked
  split
  · rfl
  rename_i accepted
  split
  · rfl
  rename_i built
  exact absurd ⟨raw, url, checked, accepted, built⟩ unsent

/-- The requests go to the URL that was checked, and to the locations that are
followed. -/
theorem Sends.mem_urls (sends : Sends runtime egress settings action raw url)
    {text : String} :
    text ∈ (httpRequestHandler runtime egress settings action).sent.map
        Outgoing.url ↔
      text = raw ∨ ∃ location ∈ followed runtime egress redirectLimit 0,
        location.1 = text := by
  rw [sends.urls_eq, List.mem_cons, List.mem_map]

/-- Every host that is sent a request is on the allowlist and was accepted by
`publicIP`, exactly if all redirects that are followed lead to the host of the
URL that was checked. -/
theorem contacted_hosts_vetted_iff (runtime : Runtime) (egress : Egress)
    (settings : Object) (action : TxnAction) :
    let run := httpRequestHandler runtime egress settings action
    (∀ request ∈ run.sent, ∃ target,
        runtime.parseURL request.url = some target ∧
          domainAllowed runtime target.hostname (allowedDomains settings) =
            true ∧
          target.hostname ∈ run.accepted) ↔
      ∀ raw url, Sends runtime egress settings action raw url →
        ∀ location ∈ followed runtime egress redirectLimit 0,
          location.2.hostname = url.hostname := by
  intro run
  constructor
  · intro vetted raw url sends location member
    obtain ⟨request, sent, same⟩ := List.mem_map.mp
      (sends.mem_urls.mpr (Or.inr ⟨location, member, rfl⟩))
    obtain ⟨target, parsed, _, accepted⟩ := vetted request sent
    rw [same, parseURL_of_followed _ _ member, Option.some.injEq] at parsed
    rw [sends.accepted_eq, ← parsed] at accepted
    exact List.mem_singleton.mp accepted
  · intro stays request sent
    by_cases sends : ∃ raw url, Sends runtime egress settings action raw url
    swap
    · rw [sent_eq_nil sends] at sent
      cases sent
    obtain ⟨raw, url, sends⟩ := sends
    obtain ⟨_, asked, allowed⟩ := checkAllowlist_eq_ok.mp sends.checked
    rw [sends.accepted_eq]
    rcases sends.mem_urls.mp (List.mem_map_of_mem sent) with
      same | ⟨location, member, same⟩
    · rw [same]
      exact ⟨url, parseURL_of_requested asked, allowed,
        List.mem_singleton_self _⟩
    · refine ⟨location.2, same ▸ parseURL_of_followed _ _ member, ?_⟩
      rw [stays raw url sends location member]
      exact ⟨allowed, List.mem_singleton_self _⟩

/-! ## Domains and their labels -/

/-- The labels of a domain name. -/
def labels (name : String) : List (List Char) :=
  name.toList.splitOn '.'

/-- A host as it is compared. -/
def normalHost (runtime : Runtime) (host : String) : String :=
  runtime.toLower (trimDot host)

/-- An entry of the allowlist as it is compared. -/
def normalEntry (runtime : Runtime) (entry : String) : String :=
  runtime.toLower (runtime.trimSpace (trimDot entry))

/-- The test on characters compares whole labels. -/
theorem labels_suffix_iff {host domain : String} :
    labels domain <:+ labels host ↔
      host = domain ∨ hasSuffix host ("." ++ domain) = true := by
  have dotted : ("." ++ domain).toList = '.' :: domain.toList := by
    simp
  rw [labels, labels, splitOn_suffix_iff, String.toList_inj, hasSuffix, dotted,
    List.isSuffixOf_iff_suffix]

theorem domainAllowed_iff_labels (runtime : Runtime) (host : String)
    (allow : List String) :
    domainAllowed runtime host allow = true ↔
      ∃ entry ∈ allow, normalEntry runtime entry ≠ "" ∧
        labels (normalEntry runtime entry) <:+
          labels (normalHost runtime host) := by
  simp only [domainAllowed, List.any_eq_true, Bool.and_eq_true,
    Bool.or_eq_true, decide_eq_true_eq]
  refine exists_congr fun entry => and_congr_right fun _ =>
    and_congr_right fun _ => ?_
  exact labels_suffix_iff.symm

/-- A name that ends with the characters of another one, but not behind a dot,
does not end with its labels. -/
theorem not_labels_suffix {front host domain : String}
    (ends : host = front ++ domain) (longer : front ≠ "")
    (inside : front.toList.getLast? ≠ some '.') :
    ¬ labels domain <:+ labels host := by
  rw [labels, labels, splitOn_suffix_iff, ends, String.toList_append]
  rintro (same | ⟨before, split⟩)
  · apply longer
    rw [← String.toList_eq_nil_iff]
    exact List.append_left_eq_self.mp same
  · apply inside
    have cut : (before ++ ['.']) ++ domain.toList =
        front.toList ++ domain.toList := by
      rw [← split, List.append_assoc]
      rfl
    rw [← List.append_cancel_right cut]
    exact List.getLast?_concat

/-- A host is allowed exactly if the labels of some entry that is not empty are
the last labels of the host.  A host that ends with the same characters without
a dot before them is not. -/
theorem domain_allowed_by_labels (runtime : Runtime) (host : String) :
    (∀ allow, domainAllowed runtime host allow = true ↔
      ∃ entry ∈ allow, normalEntry runtime entry ≠ "" ∧
        labels (normalEntry runtime entry) <:+
          labels (normalHost runtime host)) ∧
    ∀ entry front, normalHost runtime host =
        front ++ normalEntry runtime entry → front ≠ "" →
      front.toList.getLast? ≠ some '.' →
        domainAllowed runtime host [entry] = false := by
  refine ⟨domainAllowed_iff_labels runtime host, ?_⟩
  intro entry front ends longer inside
  rw [← Bool.not_eq_true, domainAllowed_iff_labels]
  rintro ⟨other, member, _, suffix⟩
  obtain rfl := List.mem_singleton.mp member
  exact not_labels_suffix ends longer inside suffix

end Integrations

namespace Sample

open Integrations

/-- A runtime that knows letter case and the URLs of hosts. -/
def web : Runtime :=
  { runtime with
    caseFold := Char.toLower
    toLower := fun text => String.ofList (text.toList.map Char.toLower)
    toUpper := fun text => String.ofList (text.toList.map Char.toUpper)
    parseURL := fun text =>
      [("http", "http://"), ("https", "https://")].findSome? fun scheme =>
        if hasPrefix text scheme.2 then
          let host := String.ofList (text.toList.drop scheme.2.length)
          some ⟨scheme.1, host, host⟩
        else none }

/-- An allowlist with one domain. -/
def exampleOnly : Object :=
  some [("domains", .slice [.string "example.com"])]

/-- A request for a page of the domain. -/
def fetching : TxnAction where
  orgID := "acme"
  transactionID := "txn"
  tool := "http"
  action := "request"
  arguments := some [("url", .string "http://example.com")]
  classes := [.readOnly, .externalCommunication]
  amountCents := none
  idempotencyKey := "k"
  status := .allowed

/-- The domain has a public address, the metadata service a link-local one, and
the server of the domain redirects to the metadata service. -/
def redirecting : Egress where
  lookup host :=
    if host = "example.com" then .ok [{}]
    else .ok [{ isLinkLocalUnicast := true }]
  replies sent :=
    if sent = 0 then .redirect false "http://169.254.169.254"
    else .response 200 "credentials"
  unfollowed := "stopped after 10 redirects"

end Sample

/-- A redirect takes the request to the metadata service. -/
theorem redirect_reaches_unvetted_host :
    let run := Integrations.httpRequestHandler Sample.web Sample.redirecting
      Sample.exampleOnly Sample.fetching
    (∃ request ∈ run.sent, request.url = "http://169.254.169.254") ∧
      (Sample.web.parseURL "http://169.254.169.254").map ParsedURL.hostname =
        some "169.254.169.254" ∧
      Integrations.domainAllowed Sample.web "169.254.169.254"
        (Integrations.allowedDomains Sample.exampleOnly) = false ∧
      "169.254.169.254" ∉ run.accepted ∧
      (Integrations.publicIP Sample.redirecting "169.254.169.254").isOk =
        false := by
  decide +kernel

end SettleAgent
