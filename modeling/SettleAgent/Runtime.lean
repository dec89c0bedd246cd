import SettleAgent.Store.Ledger
import Mathlib.Data.List.Sort

/-!
# Library functions

What the gateway uses of Go's standard library and of third-party packages and
does not define itself.  `Runtime` collects the functions whose result the
model does not compute: hashes, Unicode case folding, URL and UUID parsing, and
the sorting algorithm, of which only its documented contract is known.
-/

namespace SettleAgent

/-- `sort.Slice` by priority: some permutation of the rules in ascending order
of priority, not necessarily a stable one. -/
structure PrioritySort where
  sort : List PolicyRule → List PolicyRule
  perm : ∀ rules, (sort rules).Perm rules
  ascending : ∀ rules, (sort rules).Pairwise fun earlier later =>
    earlier.priority ≤ later.priority

/-- Insertion sort meets the contract. -/
def PrioritySort.insertion : PrioritySort where
  sort := List.insertionSort fun earlier later =>
    earlier.priority ≤ later.priority
  perm := List.perm_insertionSort _
  ascending := by
    intro rules
    have trans : IsTrans PolicyRule fun earlier later =>
        earlier.priority ≤ later.priority := ⟨fun _ _ _ => le_trans⟩
    have total : Std.Total fun earlier later : PolicyRule =>
        earlier.priority ≤ later.priority := ⟨fun _ _ => le_total _ _⟩
    exact List.pairwise_insertionSort _ rules

/-- The parts of a parsed URL that are looked at. -/
structure ParsedURL where
  scheme : String
  host : String
  hostname : String

structure Runtime where
  hashing : Hashing
  sortRules : PrioritySort
  /-- Representative of a character under simple Unicode case folding. -/
  caseFold : Char → Char
  /-- `fmt`'s `%q`. -/
  quote : String → String
  /-- `fmt`'s `%v` of a dynamically typed value. -/
  format : Value → String
  /-- `strings.ToLower`, `strings.ToUpper` and `strings.TrimSpace`. -/
  toLower : String → String
  toUpper : String → String
  trimSpace : String → String
  /-- Whether `uuid.Parse` accepts the text. -/
  uuidParses : String → Bool
  /-- `url.Parse`. -/
  parseURL : String → Option ParsedURL

/-- `strings.EqualFold`. -/
def Runtime.equalFold (runtime : Runtime) (left right : String) : Bool :=
  left.toList.map runtime.caseFold = right.toList.map runtime.caseFold

/-- `strings.HasPrefix`. -/
def hasPrefix (text start : String) : Bool :=
  start.toList.isPrefixOf text.toList

/-- The first `limit` bytes of a text.  The bytes of a character that is cut are
read as replacement characters. -/
def takeBytes (text : String) (limit : Nat) : String :=
  String.ofList (take limit text.toList)
where
  take : Nat → List Char → List Char
    | _, [] => []
    | limit, char :: rest =>
        if char.utf8Size ≤ limit then char :: take (limit - char.utf8Size) rest
        else List.replicate limit '\ufffd'

/-- `fmt`'s `%v` of a string slice. -/
def formatStrings (items : List String) : String :=
  "[" ++ String.intercalate " " items ++ "]"

/-- The readings of the clock during one check.  `GrantCovers` and `ruleMatches`
read it anew for every grant and every rule. -/
structure Clock where
  grant : AuthorityGrant → Time
  rule : PolicyRule → Time

/-- A clock that stands still. -/
def Clock.still (now : Time) : Clock :=
  ⟨fun _ => now, fun _ => now⟩

/-- Day of the week in UTC, counted from Sunday. -/
def weekday (now : Time) : Int :=
  (now / 86400000000000 + 4) % 7

/-- Hour of the day in UTC. -/
def hour (now : Time) : Int :=
  now % 86400000000000 / 3600000000000

/-! ## Sample values

The least runtime and an agent, on which the model can be evaluated. -/

namespace Sample

def runtime : Runtime where
  hashing :=
    { canonical := fun _ => "sum"
      chainHash := fun previous _ => previous ++ "." }
  sortRules := .insertion
  caseFold := id
  quote := id
  format := fun _ => ""
  toLower := id
  toUpper := id
  trimSpace := id
  uuidParses := fun _ => true
  parseURL := fun url => some ⟨"https", url, url⟩

def agent : Agent where
  id := "bot"
  orgID := "acme"
  principalID := "owner"
  name := "bot"
  groups := []
  environment := "production"
  status := "active"
  createdAt := 0

end Sample
end SettleAgent
