import SettleAgent.Actions
import SettleAgent.Data.Cut
import SettleAgent.Integrations.Forms

/-!
# Paths of GitHub requests

The handler fills the placeholders of a path template one after the other, by
replacing text that already holds earlier arguments.  Encoded arguments have
neither braces nor slashes, so every argument ends up in the segment that its
placeholder had, and in no other.  The number is optional for the handler but
not for the templates: without one its placeholder is sent as it stands.
-/

namespace SettleAgent
namespace Integrations

/-! ## Replacing whole segments -/

section Replacing

variable {old new chars rest : List Char}

/-- The rest of an occurrence is dropped. -/
theorem replaceChars_skip (old new chars rest : List Char) :
    replaceChars old new chars.length (chars ++ rest) =
      replaceChars old new 0 rest := by
  induction chars with
  | nil => rfl
  | cons char chars inductionHypothesis =>
      rw [List.length_cons, List.cons_append, replaceChars,
        if_pos (Nat.succ_pos _), Nat.add_sub_cancel]
      exact inductionHypothesis

/-- An occurrence at the start is replaced. -/
theorem replaceChars_occurrence (nonempty : old ≠ []) :
    replaceChars old new 0 (old ++ rest) =
      new ++ replaceChars old new 0 rest := by
  obtain ⟨first, tail, rfl⟩ := List.exists_cons_of_ne_nil nonempty
  have starts : (first :: tail).isPrefixOf (first :: (tail ++ rest)) =
      true := by
    rw [List.isPrefixOf_iff_prefix]
    exact List.prefix_append (first :: tail) rest
  rw [List.cons_append, replaceChars, if_neg (Nat.lt_irrefl 0), if_pos starts,
    List.length_cons, Nat.add_sub_cancel, replaceChars_skip]

/-- No occurrence of a text starts within these characters. -/
def Passes (old chars : List Char) : Prop :=
  ∀ new rest, replaceChars old new 0 (chars ++ rest) =
    chars ++ replaceChars old new 0 rest

theorem passes_of_notMem {first : Char} {tail : List Char}
    (absent : first ∉ chars) : Passes (first :: tail) chars := by
  intro new rest
  induction chars with
  | nil => rfl
  | cons char chars inductionHypothesis =>
      rw [List.mem_cons, not_or] at absent
      obtain ⟨other, absent⟩ := absent
      have differs : (first :: tail).isPrefixOf (char :: (chars ++ rest)) =
          false := by
        simp [List.isPrefixOf, other]
      rw [List.cons_append, replaceChars, if_neg (Nat.lt_irrefl 0), differs,
        if_neg Bool.false_ne_true, inductionHypothesis absent]
      rfl

/-- Another text that begins with the same character only. -/
theorem passes_of_ne {first second other : Char} {tail more : List Char}
    (differs : second ≠ other) (absent : first ∉ other :: more) :
    Passes (first :: second :: tail) (first :: other :: more) := by
  intro new rest
  have unlike : (first :: second :: tail).isPrefixOf
      (first :: (other :: more ++ rest)) = false := by
    simp [List.isPrefixOf, differs]
  rw [List.cons_append, replaceChars, if_neg (Nat.lt_irrefl 0), unlike,
    if_neg Bool.false_ne_true, passes_of_notMem absent]
  rfl

/-- Where a text occurs as whole segments only, these segments are
replaced. -/
theorem replaceChars_segments {segments : List (List Char)}
    (nonempty : old ≠ []) (slash : Passes old ['/'])
    (whole : ∀ segment ∈ segments, segment = old ∨ Passes old segment) :
    replaceChars old new 0 (['/'].intercalate segments) =
      ['/'].intercalate (segments.map fun segment =>
        if segment = old then new else segment) := by
  have one (segment : List Char) (member : segment ∈ segments)
      (rest : List Char) :
      replaceChars old new 0 (segment ++ rest) =
        (if segment = old then new else segment) ++
          replaceChars old new 0 rest := by
    by_cases same : segment = old
    · rw [if_pos same, same, replaceChars_occurrence nonempty]
    · rw [if_neg same]
      exact (whole segment member).resolve_left same new rest
  induction segments with
  | nil => rfl
  | cons segment segments inductionHypothesis =>
      have own := one segment List.mem_cons_self
      by_cases last : segments = []
      · subst last
        have alone := own []
        simpa [replaceChars] using alone
      · have behind := inductionHypothesis
          (fun other member => whole other (List.mem_cons_of_mem _ member))
          (fun other member => one other (List.mem_cons_of_mem _ member))
        have more : segments.map (fun segment =>
            if segment = old then new else segment) ≠ [] := by
          simpa using last
        rw [List.map_cons, List.intercalate_cons_of_ne_nil last,
          List.intercalate_cons_of_ne_nil more, List.append_assoc, own, slash,
          behind, List.append_assoc]

end Replacing

/-! ## Templates -/

/-- The segments of a path. -/
def segments (path : String) : List (List Char) :=
  path.toList.splitOn '/'

def ownerPlaceholder : List Char :=
  ['{', 'o', 'w', 'n', 'e', 'r', '}']

def repoPlaceholder : List Char :=
  ['{', 'r', 'e', 'p', 'o', '}']

def numberPlaceholder : List Char :=
  ['{', 'n', 'u', 'm', 'b', 'e', 'r', '}']

def placeholders : List (List Char) :=
  [ownerPlaceholder, repoPlaceholder, numberPlaceholder]

/-- The arguments that may fill a placeholder. -/
def placeholderKeys (segment : List Char) : Option (List String) :=
  if segment = ownerPlaceholder then some ["owner"]
  else if segment = repoPlaceholder then some ["repo"]
  else if segment = numberPlaceholder then some ["number", "issue", "pr"]
  else none

/-- A segment of a template with its placeholder filled in, if the arguments
hold a value for it. -/
def filledSegment (arguments : Object) (segment : List Char) :
    Option (List Char) :=
  match placeholderKeys segment with
  | none => some segment
  | some keys =>
      (strArg arguments keys).map fun value => (urlEncode value).toList

/-- A segment is a placeholder or has no braces. -/
def Clean (segment : List Char) : Prop :=
  segment ∈ placeholders ∨ '{' ∉ segment

instance (segment : List Char) : Decidable (Clean segment) :=
  inferInstanceAs (Decidable (_ ∨ _))

/-- The segment, or the encoded value where it is the placeholder. -/
def put (placeholder : List Char) (value : String) (segment : List Char) :
    List Char :=
  if segment = placeholder then (urlEncode value).toList else segment

theorem brace_notMem_urlEncode (value : String) :
    '{' ∉ (urlEncode value).toList :=
  notMem_urlEncode (by decide +kernel) value

theorem slash_notMem_urlEncode (value : String) :
    '/' ∉ (urlEncode value).toList :=
  notMem_urlEncode (by decide +kernel) value

theorem Clean.put {placeholder segment : List Char} (clean : Clean segment)
    (value : String) : Clean (put placeholder value segment) := by
  unfold Integrations.put
  split
  · exact Or.inr (brace_notMem_urlEncode value)
  · exact clean

theorem slash_notMem_put (placeholder : List Char) {segment : List Char}
    (absent : '/' ∉ segment) (value : String) :
    '/' ∉ put placeholder value segment := by
  unfold put
  split
  · exact slash_notMem_urlEncode value
  · exact absent

/-- A placeholder occurs in clean segments only as a whole one. -/
theorem Clean.whole {placeholder segment : List Char} (clean : Clean segment)
    (known : placeholder ∈ placeholders) :
    segment = placeholder ∨ Passes placeholder segment := by
  simp only [placeholders, List.mem_cons, List.not_mem_nil, or_false] at known
  rcases clean with other | plain
  · simp only [placeholders, List.mem_cons, List.not_mem_nil, or_false]
      at other
    rcases known with rfl | rfl | rfl <;> rcases other with rfl | rfl | rfl <;>
      first
      | exact Or.inl rfl
      | exact Or.inr (passes_of_ne (by decide) (by decide))
  · right
    rcases known with rfl | rfl | rfl <;> exact passes_of_notMem plain

/-- Filling a placeholder in a text with clean segments. -/
theorem toList_replaceAll {text : String} {parts : List (List Char)}
    (joined : text.toList = ['/'].intercalate parts)
    (clean : ∀ part ∈ parts, Clean part) {placeholder : List Char}
    (known : placeholder ∈ placeholders) (value : String) :
    (replaceAll text (String.ofList placeholder) (urlEncode value)).toList =
      ['/'].intercalate (parts.map (put placeholder value)) := by
  have nonempty : placeholder ≠ [] := by
    rintro rfl
    exact absurd known (by decide)
  have slash : Passes placeholder ['/'] := by
    simp only [placeholders, List.mem_cons, List.not_mem_nil, or_false]
      at known
    rcases known with rfl | rfl | rfl <;> exact passes_of_notMem (by decide)
  rw [replaceAll, String.toList_ofList, String.toList_ofList, joined]
  exact replaceChars_segments nonempty slash
    fun part member => (clean part member).whole known

/-- A segment after the placeholders for owner, repository and number, in this
order, have been filled. -/
def substituted (owner repo : String) (number : Option String)
    (segment : List Char) : List Char :=
  let named := put repoPlaceholder repo (put ownerPlaceholder owner segment)
  number.elim named fun number => put numberPlaceholder number named

/-- The parts after a placeholder has been filled are clean again. -/
theorem clean_map_put {parts : List (List Char)}
    (clean : ∀ part ∈ parts, Clean part) (placeholder : List Char)
    (value : String) : ∀ part ∈ parts.map (put placeholder value),
      Clean part := by
  intro part member
  obtain ⟨segment, present, rfl⟩ := List.mem_map.mp member
  exact (clean segment present).put value

theorem slash_notMem_substituted {segment : List Char}
    (absent : '/' ∉ segment) (owner repo : String) (number : Option String) :
    '/' ∉ substituted owner repo number segment := by
  have named := slash_notMem_put repoPlaceholder
    (slash_notMem_put ownerPlaceholder absent owner) repo
  cases number with
  | none => exact named
  | some number => exact slash_notMem_put numberPlaceholder named number

theorem toList_githubPath {pathTmpl : String}
    (clean : ∀ segment ∈ segments pathTmpl, Clean segment)
    (owner repo : String) (number : Option String) :
    (githubPath pathTmpl owner repo number).toList =
      ['/'].intercalate
        ((segments pathTmpl).map (substituted owner repo number)) := by
  have ownerText : "\x7bowner\x7d" = String.ofList ownerPlaceholder := by
    decide
  have repoText : "\x7brepo\x7d" = String.ofList repoPlaceholder := by
    decide
  have numberText : "\x7bnumber\x7d" = String.ofList numberPlaceholder := by
    decide
  have joined : pathTmpl.toList = ['/'].intercalate (segments pathTmpl) :=
    (List.intercalate_splitOn '/').symm
  have owned := toList_replaceAll joined clean
    (show ownerPlaceholder ∈ placeholders by decide) owner
  have cleanOwned := clean_map_put clean ownerPlaceholder owner
  have named := toList_replaceAll owned cleanOwned
    (show repoPlaceholder ∈ placeholders by decide) repo
  have cleanNamed := clean_map_put cleanOwned repoPlaceholder repo
  simp only [githubPath, ownerText, repoText, numberText]
  cases number with
  | none =>
      rw [List.map_map] at named
      exact named
  | some number =>
      have numbered := toList_replaceAll named cleanNamed
        (show numberPlaceholder ∈ placeholders by decide) number
      rw [List.map_map, List.map_map] at numbered
      exact numbered

/-- The path of a request, segment by segment. -/
theorem segments_githubPath {pathTmpl : String}
    (clean : ∀ segment ∈ segments pathTmpl, Clean segment)
    (owner repo : String) (number : Option String) :
    segments (githubPath pathTmpl owner repo number) =
      (segments pathTmpl).map (substituted owner repo number) := by
  rw [segments, toList_githubPath clean]
  refine List.splitOn_intercalate '/' ?_ ?_
  · intro part member
    obtain ⟨segment, present, rfl⟩ := List.mem_map.mp member
    exact slash_notMem_substituted (notMem_of_mem_splitOn present) _ _ _
  · rw [Ne, List.map_eq_nil_iff]
    exact List.splitOn_ne_nil '/' pathTmpl.toList

/-! ## Filled and unfilled segments -/

section Filling

variable {arguments : Object} {owner repo value : String}
  {number : Option String} {placeholder segment : List Char}

theorem put_self : put placeholder value placeholder =
    (urlEncode value).toList := by
  rw [put, if_pos rfl]

theorem put_of_ne (other : segment ≠ placeholder) :
    put placeholder value segment = segment := by
  rw [put, if_neg other]

/-- An encoded value is no placeholder. -/
theorem urlEncode_ne (known : placeholder ∈ placeholders) (value : String) :
    (urlEncode value).toList ≠ placeholder := by
  rintro rfl
  have braced : ∀ placeholder ∈ placeholders, '{' ∈ placeholder := by
    decide
  exact brace_notMem_urlEncode value (braced _ known)

/-- A value that has been filled in stays. -/
theorem substituted_of_filled (named : put repoPlaceholder repo
      (put ownerPlaceholder owner segment) = (urlEncode value).toList) :
    substituted owner repo number segment = (urlEncode value).toList := by
  cases number with
  | none => exact named
  | some number =>
      rw [substituted, named]
      exact put_of_ne (urlEncode_ne (by decide) value)

theorem substituted_owner :
    substituted owner repo number ownerPlaceholder =
      (urlEncode owner).toList := by
  apply substituted_of_filled
  rw [put_self]
  exact put_of_ne (urlEncode_ne (by decide) owner)

theorem substituted_repo :
    substituted owner repo number repoPlaceholder =
      (urlEncode repo).toList := by
  apply substituted_of_filled
  have kept : put ownerPlaceholder owner repoPlaceholder = repoPlaceholder :=
    put_of_ne (by decide)
  rw [kept]
  exact put_self

/-- Segments without a placeholder for owner or repository are left to the
number. -/
theorem substituted_of_ne (notOwner : segment ≠ ownerPlaceholder)
    (notRepo : segment ≠ repoPlaceholder) :
    substituted owner repo number segment =
      number.elim segment fun number =>
        put numberPlaceholder number segment := by
  rw [substituted, put_of_ne notOwner, put_of_ne notRepo]

theorem substituted_of_notMem (literal : segment ∉ placeholders) :
    substituted owner repo number segment = segment := by
  simp only [placeholders, List.mem_cons, List.not_mem_nil, or_false, not_or]
    at literal
  obtain ⟨notOwner, notRepo, notNumber⟩ := literal
  rw [substituted_of_ne notOwner notRepo]
  cases number with
  | none => rfl
  | some number => exact put_of_ne notNumber

theorem placeholderKeys_of_notMem (literal : segment ∉ placeholders) :
    placeholderKeys segment = none := by
  simp only [placeholders, List.mem_cons, List.not_mem_nil, or_false, not_or]
    at literal
  obtain ⟨notOwner, notRepo, notNumber⟩ := literal
  rw [placeholderKeys, if_neg notOwner, if_neg notRepo, if_neg notNumber]

/-- No placeholder is left where there is a value for it. -/
theorem substituted_notMem
    (numbered : segment = numberPlaceholder → number.isSome = true) :
    substituted owner repo number segment ∉ placeholders := by
  have encoded (value : String) : (urlEncode value).toList ∉ placeholders :=
    fun known => urlEncode_ne known value rfl
  by_cases literal : segment ∉ placeholders
  · rw [substituted_of_notMem literal]
    exact literal
  simp only [placeholders, List.mem_cons, List.not_mem_nil, or_false,
    not_not] at literal
  rcases literal with rfl | rfl | rfl
  · rw [substituted_owner]
    exact encoded owner
  · rw [substituted_repo]
    exact encoded repo
  · obtain ⟨value, rfl⟩ := Option.isSome_iff_exists.mp (numbered rfl)
    rw [substituted_of_ne (by decide) (by decide), Option.elim_some, put_self]
    exact encoded value

/-- A segment is filled as the template asks for, unless it is the placeholder
of a number that is missing. -/
theorem filledSegment_eq (owned : strArg arguments ["owner"] = some owner)
    (named : strArg arguments ["repo"] = some repo)
    (numbered : segment = numberPlaceholder →
      (strArg arguments ["number", "issue", "pr"]).isSome = true) :
    filledSegment arguments segment = some (substituted owner repo
      (strArg arguments ["number", "issue", "pr"]) segment) := by
  by_cases literal : segment ∉ placeholders
  · rw [substituted_of_notMem literal, filledSegment,
      placeholderKeys_of_notMem literal]
  simp only [placeholders, List.mem_cons, List.not_mem_nil, or_false,
    not_not] at literal
  rcases literal with rfl | rfl | rfl
  · rw [substituted_owner]
    change (strArg arguments ["owner"]).map _ = _
    rw [owned]
    rfl
  · rw [substituted_repo]
    change (strArg arguments ["repo"]).map _ = _
    rw [named]
    rfl
  · obtain ⟨number, given⟩ := Option.isSome_iff_exists.mp (numbered rfl)
    rw [substituted_of_ne (by decide) (by decide)]
    change (strArg arguments ["number", "issue", "pr"]).map _ = _
    rw [given]
    simp only [Option.elim_some, put_self, Option.map_some]

end Filling

/-! ## Requests -/

/-- What is known of a request that the handler sends. -/
theorem url_githubHandler {credential : Option String}
    {method pathTmpl : String} {action : TxnAction} {reply : Reply Object}
    {request : Outgoing}
    (sent : request ∈
      (githubHandler credential method pathTmpl action reply).sent) :
    ∃ owner repo, strArg action.arguments ["owner"] = some owner ∧
      strArg action.arguments ["repo"] = some repo ∧
      request.url = githubBaseURL ++ githubPath pathTmpl owner repo
        (strArg action.arguments ["number", "issue", "pr"]) := by
  unfold githubHandler at sent
  split at sent
  · cases sent
  split at sent
  · cases sent
  rename_i owner owned
  split at sent
  · cases sent
  rename_i repo named
  refine ⟨owner, repo, owned, named, ?_⟩
  dsimp only at sent
  split at sent
  · rw [eq_of_mem_sent sent]
  · rw [eq_of_mem_sent sent]

/-- The templates that `RegisterReal` registers have clean segments. -/
theorem clean_registered :
    ∀ entry ∈ Registry.liveHandlers, ∀ method pathTmpl,
      entry.2.2.2 = .github method pathTmpl →
        ∀ segment ∈ segments pathTmpl, Clean segment := by
  intro entry member method pathTmpl handler
  simp only [Registry.liveHandlers, List.mem_cons, List.not_mem_nil, or_false]
    at member
  rcases member with rfl | rfl | rfl | rfl | rfl | rfl | rfl | rfl | rfl | rfl
  all_goals cases handler
  all_goals decide +kernel

/-- The path of every request that is sent has as many segments as its
template, whatever the arguments.  The placeholders of the template are filled
with the encoded arguments, and none of them is left, exactly if there is a
number wherever the template asks for one. -/
theorem github_path_filled_iff {entry : String × String × List ActionClass ×
      ToolHandler} {method pathTmpl : String}
    (registered : entry ∈ Registry.liveHandlers)
    (handler : entry.2.2.2 = .github method pathTmpl)
    {credential : Option String} {action : TxnAction} {reply : Reply Object}
    {request : Outgoing}
    (sent : request ∈
      (githubHandler credential method pathTmpl action reply).sent) :
    ∃ path, request.url = githubBaseURL ++ path ∧
      (segments path).length = (segments pathTmpl).length ∧
      ((segments path).map some =
          (segments pathTmpl).map (filledSegment action.arguments) ↔
        (numberPlaceholder ∈ segments pathTmpl →
          (strArg action.arguments ["number", "issue", "pr"]).isSome =
            true)) ∧
      ((∀ segment ∈ segments path, segment ∉ placeholders) ↔
        (numberPlaceholder ∈ segments pathTmpl →
          (strArg action.arguments ["number", "issue", "pr"]).isSome =
            true)) := by
  obtain ⟨owner, repo, owned, named, url⟩ := url_githubHandler sent
  have parts := segments_githubPath
    (clean_registered entry registered method pathTmpl handler) owner repo
    (strArg action.arguments ["number", "issue", "pr"])
  refine ⟨_, url, ?_, ⟨?_, ?_⟩, ?_, ?_⟩
  · rw [parts, List.length_map]
  · intro filled asked
    have present : filledSegment action.arguments numberPlaceholder ∈
        (segments pathTmpl).map (filledSegment action.arguments) :=
      List.mem_map_of_mem asked
    rw [← filled] at present
    obtain ⟨segment, _, value⟩ := List.mem_map.mp present
    change some segment =
      (strArg action.arguments ["number", "issue", "pr"]).map _ at value
    obtain ⟨number, given, _⟩ := Option.map_eq_some_iff.mp value.symm
    rw [given]
    rfl
  · intro numbered
    rw [parts, List.map_map]
    apply List.map_congr_left
    intro segment present
    exact (filledSegment_eq owned named
      fun same => numbered (same ▸ present)).symm
  · intro none asked
    by_contra unnumbered
    rw [Option.not_isSome_iff_eq_none] at unnumbered
    apply none numberPlaceholder _ (by decide)
    rw [parts, List.mem_map]
    refine ⟨numberPlaceholder, asked, ?_⟩
    rw [substituted_of_ne (by decide) (by decide), unnumbered]
    rfl
  · intro numbered segment present
    rw [parts, List.mem_map] at present
    obtain ⟨original, listed, rfl⟩ := present
    exact substituted_notMem fun same => numbered (same ▸ listed)

end Integrations

namespace Sample

/-- A call on an issue whose number is given as a number. -/
def commenting : TxnAction where
  orgID := "acme"
  transactionID := "txn"
  tool := "github"
  action := "comment"
  arguments := some
    [("owner", .string "acme"), ("repo", .string "shop"),
      ("number", .float64 ⟨7, 0, by decide⟩)]
  classes := [.externalCommunication]
  amountCents := none
  idempotencyKey := "k"
  status := .approved

end Sample

namespace Integrations

/-- An owner that looks like a path ends up in one segment. -/
theorem github_path_filled_iff_owner :
    let action := { Sample.commenting with
      arguments := some [("owner", .string "a/\x7brepo\x7d"),
        ("repo", .string "shop")] }
    let run := githubHandler (some "token") "GET"
      "/repos/\x7bowner\x7d/\x7brepo\x7d" action (.noResponse "timeout")
    ∃ request ∈ run.sent, ∃ path, request.url = githubBaseURL ++ path ∧
      (segments path).map some =
        (segments "/repos/\x7bowner\x7d/\x7brepo\x7d").map
          (filledSegment action.arguments) := by
  intro action run
  have sent : run.sent.head? ≠ none := by
    decide
  obtain ⟨request, first⟩ := Option.ne_none_iff_exists'.mp sent
  have member := List.mem_of_head? first
  obtain ⟨path, url, _, filled, _⟩ := @github_path_filled_iff
    ("github", "read_repo", [.readOnly],
      .github "GET" "/repos/\x7bowner\x7d/\x7brepo\x7d") _ _
    (by simp [Registry.liveHandlers]) rfl _ _ _ _ member
  exact ⟨request, member, path, url, filled.mpr (by decide +kernel)⟩

/-- A comment on issue seven, given as a number, goes to the placeholder. -/
theorem issue_number_is_unfilled :
    let pathTmpl :=
      "/repos/\x7bowner\x7d/\x7brepo\x7d/issues/\x7bnumber\x7d/comments"
    let run := githubHandler (some "token") "POST" pathTmpl Sample.commenting
      (.noResponse "timeout")
    ("github", "comment", [.externalCommunication],
        .github "POST" pathTmpl) ∈ Registry.liveHandlers ∧
      run.sent.map Outgoing.url = [githubBaseURL ++
        "/repos/acme/shop/issues/\x7bnumber\x7d/comments"] ∧
      numberPlaceholder ∈
        segments "/repos/acme/shop/issues/\x7bnumber\x7d/comments" := by
  exact ⟨by simp [Registry.liveHandlers], by decide +kernel,
    by decide +kernel⟩

end Integrations
end SettleAgent
