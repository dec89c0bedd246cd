import SettleAgent.Postgres.Receipts
import SettleAgent.Store.PolicySets

/-!
# Drafting policies in Postgres

`PGStore.CreatePolicySet` is one `INSERT` whose version is one more than the
highest that a subquery finds.  Under `READ COMMITTED` the subquery sees the
rows that were committed when the statement began, and the unique index is
checked when the row is written: other calls may commit in between.  A call that
loses such a race gets an error, and returns a set that was made up.
-/

namespace SettleAgent
namespace Postgres

open Interaction

/-- The arguments of `CreatePolicySet`. -/
structure PolicyDraft where
  orgID : String
  rules : List PolicyRule
  createdBy : String

/-- What a call does: it draws identifiers for its rules, and its insert begins
and writes its row. -/
inductive PolicyStatement : Type
  | newString
  | selectMax (orgID : String)
  | insertPolicySet (orgID : String) (version : Int) (rules : List PolicyRule)
      (createdBy : String)

/-- The reply to a statement.  The insert returns its row unless it fails. -/
@[reducible] def PolicyStatement.Resp : PolicyStatement → Type
  | newString => String
  | selectMax _ => Int
  | insertPolicySet _ _ _ _ => Option PolicySet

/-- What the answer to a statement depends on besides the rows: the drawn
identifier, the time, and whether the insert fails for a reason other than its
keys. -/
structure PolicyDraw where
  uuid : String
  now : Time
  rejected : Bool

/-- The sets of an organization. -/
def setsOf (canonical : UUIDs) (rows : List PolicySet) (orgID : String) :
    List PolicySet :=
  rows.filter fun row => canonical orgID = some row.orgID

/-- `COALESCE(MAX(version), 0)`. -/
def highestVersion (sets : List PolicySet) : Int :=
  (sets.map PolicySet.version).max?.getD 0

/-- The row has a primary key or a version that is taken. -/
def Conflicts (rows : List PolicySet) (row : PolicySet) : Prop :=
  ∃ other ∈ rows, other.id = row.id ∨
    other.orgID = row.orgID ∧ other.version = row.version

instance (rows : List PolicySet) (row : PolicySet) :
    Decidable (Conflicts rows row) :=
  inferInstanceAs (Decidable (∃ other ∈ rows, _))

/-- The row of a draft. -/
def rowOfDraft (draw : PolicyDraw) (orgID : String) (version : Int)
    (rules : List PolicyRule) (createdBy : String) : PolicySet :=
  { id := draw.uuid, orgID := orgID, version := version, rules := rules,
    status := .draft, createdBy := createdBy, createdAt := draw.now }

/-- A statement on the rows of `policy_sets`. -/
def policyExec (canonical : UUIDs) :
    (statement : PolicyStatement) → PolicyDraw → List PolicySet →
      statement.Resp × List PolicySet
  | .newString, draw, rows => (draw.uuid, rows)
  | .selectMax orgID, _, rows =>
      (highestVersion (setsOf canonical rows orgID), rows)
  | .insertPolicySet orgID version rules createdBy, draw, rows =>
      match canonical orgID with
      | none => (none, rows)
      | some owner =>
          let row := rowOfDraft draw owner version rules createdBy
          if draw.rejected ∨ Conflicts rows row then (none, rows)
          else (some row, rows ++ [row])

/-- Send one statement. -/
abbrev submit (statement : PolicyStatement) :
    Prog PolicyStatement PolicyStatement.Resp statement.Resp :=
  Prog.perform statement

/-- The rules of a draft, each with an identifier. -/
def withIDs : List PolicyRule →
    Prog PolicyStatement PolicyStatement.Resp (List PolicyRule)
  | [] => return []
  | rule :: rules =>
    if rule.id = "" then do
      let id ← submit .newString
      let rest ← withIDs rules
      return { rule with id := id } :: rest
    else do
      let rest ← withIDs rules
      return rule :: rest

/-- `PGStore.CreatePolicySet`. -/
def createPolicySet (draft : PolicyDraft) :
    Prog PolicyStatement PolicyStatement.Resp PolicySet := do
  let rules ← withIDs draft.rules
  let highest ← submit (.selectMax draft.orgID)
  match ← submit (.insertPolicySet draft.orgID (highest + 1) rules
      draft.createdBy) with
  | some set => return set
  | none =>
    return { id := "", orgID := draft.orgID, version := 0, rules := rules,
             status := .draft, createdBy := "", createdAt := 0 }

/-- One call of `CreatePolicySet` in every thread. -/
def draftings (drafts : Nat → PolicyDraft) :
    Pool PolicyStatement PolicyStatement.Resp PolicyDraw (List PolicySet)
      PolicySet :=
  Pool.start [] fun thread => createPolicySet (drafts thread)

/-- The calls, interleaved by a schedule. -/
def drafted (canonical : UUIDs) (drafts : Nat → PolicyDraft)
    (schedule : List (Nat × PolicyDraw)) :
    Pool PolicyStatement PolicyStatement.Resp PolicyDraw (List PolicySet)
      PolicySet :=
  (draftings drafts).run (policyExec canonical) schedule

/-- The rules with identifiers filled in where there were none. -/
def Fills (given stored : List PolicyRule) : Prop :=
  List.Forall₂ (fun rule kept => ∃ id, kept = { rule with id := id } ∧
    (rule.id ≠ "" → id = rule.id)) given stored

/-- The set is the stored one of the draft, under a version that no other set of
the organization has. -/
structure Keeps (canonical : UUIDs) (rows : List PolicySet)
    (draft : PolicyDraft) (set : PolicySet) : Prop where
  stored : set ∈ rows
  owner : canonical draft.orgID = some set.orgID
  rules : Fills draft.rules set.rules
  createdBy : set.createdBy = draft.createdBy
  unique : ∀ row ∈ rows, row.orgID = set.orgID → row.version = set.version →
    row = set

/-! ## When an insert succeeds -/

/-- The organization for which a statement inserts. -/
def PolicyStatement.inserts : PolicyStatement → Option String
  | .insertPolicySet orgID _ _ _ => some orgID
  | _ => none

/-- The organization whose highest version a statement reads. -/
def PolicyStatement.reads : PolicyStatement → Option String
  | .selectMax orgID => some orgID
  | _ => none

abbrev PolicyHistory := History PolicyStatement PolicyDraw (List PolicySet)

/-- An insert is for an organization, with a new identifier, and no set of the
organization was inserted since it began. -/
def Unhindered (canonical : UUIDs) (history : PolicyHistory) (thread : Nat)
    (statement : PolicyStatement) (draw : PolicyDraw) : Prop :=
  ∀ orgID ∈ statement.inserts, draw.rejected = false ∧
    (canonical orgID).isSome = true ∧
    (∀ row ∈ history.state, row.id ≠ draw.uuid) ∧
    ∀ mark ∈ history.marks, mark.caller = thread →
      mark.request.reads = some orgID →
        (setsOf canonical mark.before orgID).length =
          (setsOf canonical history.state orgID).length

instance (canonical : UUIDs) (history : PolicyHistory) (thread : Nat)
    (statement : PolicyStatement) (draw : PolicyDraw) :
    Decidable (Unhindered canonical history thread statement draw) :=
  inferInstanceAs (Decidable (∀ orgID ∈ statement.inserts, _))

/-- The answer to an insert. -/
def answerOf : (statement : PolicyStatement) → statement.Resp →
    Option (Option PolicySet)
  | .insertPolicySet _ _ _ _, reply => some reply
  | _, _ => none

variable {canonical : UUIDs}

theorem setsOf_concat (rows : List PolicySet) (row : PolicySet)
    (orgID : String) :
    setsOf canonical (rows ++ [row]) orgID = setsOf canonical rows orgID ++
      if canonical orgID = some row.orgID then [row] else [] := by
  rw [setsOf, List.filter_append]
  by_cases owned : canonical orgID = some row.orgID
  · simp [setsOf, owned]
  · simp [setsOf, owned]

theorem highestVersion_eq {sets : List PolicySet}
    (versioned : Versioned sets) : highestVersion sets = sets.length := by
  cases sets with
  | nil => rfl
  | cons set sets =>
      have highest : (((set :: sets).map PolicySet.version).max?) =
          some ((set :: sets).length : Int) := by
        rw [List.max?_eq_some_iff]
        refine ⟨versioned.mem_versions.mpr ⟨?_, le_rfl⟩, ?_⟩
        · rw [List.length_cons]
          omega
        · exact fun version there => (versioned.mem_versions.mp there).2
      rw [highestVersion, highest, Option.getD_some]

/-- An insert fails and changes nothing, or adds its row. -/
theorem insert_cases (orgID : String) (version : Int)
    (rules : List PolicyRule) (createdBy : String) (draw : PolicyDraw)
    (rows : List PolicySet) :
    let outcome := policyExec canonical
      (.insertPolicySet orgID version rules createdBy) draw rows
    (outcome = (none, rows) ∧ (draw.rejected = true ∨ canonical orgID = none ∨
      ∃ owner, canonical orgID = some owner ∧
        Conflicts rows (rowOfDraft draw owner version rules createdBy))) ∨
    ∃ owner, canonical orgID = some owner ∧ draw.rejected = false ∧
      ¬ Conflicts rows (rowOfDraft draw owner version rules createdBy) ∧
      outcome = (some (rowOfDraft draw owner version rules createdBy),
        rows ++ [rowOfDraft draw owner version rules createdBy]) := by
  simp only [policyExec]
  cases owned : canonical orgID with
  | none => exact Or.inl ⟨rfl, Or.inr (Or.inl rfl)⟩
  | some owner =>
      dsimp only
      split
      · rename_i refused
        refine Or.inl ⟨rfl, refused.imp_right fun conflicts => ?_⟩
        exact Or.inr ⟨owner, rfl, conflicts⟩
      · rename_i accepted
        rw [not_or, Bool.not_eq_true] at accepted
        exact Or.inr ⟨owner, rfl, accepted.1, accepted.2, rfl⟩

/-! ## The role of a call -/

/-- How far a call has come: the highest version that it has read, and the
answer to its insert. -/
structure Progress where
  highest : Option Int := none
  answer : Option (Option PolicySet) := none

def Progress.learn (progress : Progress) :
    (statement : PolicyStatement) → statement.Resp → Progress
  | .newString, _ => progress
  | .selectMax _, highest => { progress with highest := some highest }
  | .insertPolicySet _ _ _ _, reply => { progress with answer := some reply }

/-- A call reads the highest version of its organization once, and then inserts
its rules under the next. -/
def MayDraft (draft : PolicyDraft) (progress : Progress) :
    PolicyStatement → Prop
  | .newString => progress.answer = none
  | .selectMax orgID => progress.answer = none ∧ progress.highest = none ∧
      orgID = draft.orgID
  | .insertPolicySet orgID version rules createdBy =>
      progress.answer = none ∧ orgID = draft.orgID ∧
        createdBy = draft.createdBy ∧ Fills draft.rules rules ∧
        ∃ highest, progress.highest = some highest ∧ version = highest + 1

def drafting (draft : PolicyDraft) :
    Role PolicyStatement PolicyStatement.Resp Progress where
  learn := Progress.learn
  may := MayDraft draft
  fits := fun _ _ => True

/-- What a call returns: the row of its insert, or a set without version. -/
def Returns (set : PolicySet) (progress : Progress) : Prop :=
  ∃ reply, progress.answer = some reply ∧
    (∀ row, reply = some row → set = row) ∧ (reply = none → set.version = 0)

theorem withIDs_obeys (draft : PolicyDraft) {progress : Progress}
    (unanswered : progress.answer = none) (rules : List PolicyRule) :
    (withIDs rules).Obeys (drafting draft)
      (fun stored after => after = progress ∧ Fills rules stored)
      progress := by
  induction rules with
  | nil => exact ⟨rfl, List.Forall₂.nil⟩
  | cons rule rules inductionHypothesis =>
      unfold withIDs
      split
      · rename_i blank
        refine ⟨unanswered, fun id _ => inductionHypothesis.bind ?_⟩
        rintro stored after ⟨same, filled⟩
        exact ⟨same, .cons ⟨id, rfl, fun named => absurd blank named⟩ filled⟩
      · refine inductionHypothesis.bind ?_
        rintro stored after ⟨same, filled⟩
        exact ⟨same, .cons ⟨rule.id, rfl, fun _ => rfl⟩ filled⟩

theorem createPolicySet_obeys (draft : PolicyDraft) :
    (createPolicySet draft).Obeys (drafting draft) Returns {} := by
  refine (withIDs_obeys draft rfl draft.rules).bind ?_
  rintro rules progress ⟨rfl, filled⟩
  refine ⟨⟨rfl, rfl, rfl⟩, fun highest _ => ?_⟩
  refine ⟨⟨rfl, rfl, rfl, filled, highest, rfl, rfl⟩, fun reply _ => ?_⟩
  cases reply with
  | none => exact ⟨none, rfl, by simp, fun _ => rfl⟩
  | some row => exact ⟨some row, rfl, by simp, by simp⟩

/-! ## Runs -/

section Runs

variable {drafts : Nat → PolicyDraft} {history : PolicyHistory}

/-- How far the call of a thread has come. -/
abbrev progressOf (canonical : UUIDs) (drafts : Nat → PolicyDraft)
    (history : PolicyHistory) (thread : Nat) : Progress :=
  history.view (policyExec canonical) (drafting (drafts thread)) {} thread

/-- The answer that a mark records, if its call was an insert. -/
abbrev markedAnswer (canonical : UUIDs)
    (mark : Mark Nat PolicyStatement PolicyDraw (List PolicySet)) :
    Option (Option PolicySet) :=
  answerOf mark.request (mark.reply (policyExec canonical))

/-- What holds of the rows and of the calls at every moment. -/
structure Ordered (canonical : UUIDs) (drafts : Nat → PolicyDraft)
    (history : PolicyHistory) : Prop where
  /-- The versions of every organization are `1, …, n`. -/
  versioned : ∀ orgID, Versioned (setsOf canonical history.state orgID)
  grown : ∀ mark ∈ history.marks, ∀ orgID,
    (setsOf canonical mark.before orgID).length ≤
      (setsOf canonical history.state orgID).length
  begun : ∀ mark ∈ history.marks, ∀ orgID, mark.request.reads = some orgID →
    (progressOf canonical drafts history mark.caller).highest =
      some ((setsOf canonical mark.before orgID).length : Int)
  read : ∀ thread highest,
    (progressOf canonical drafts history thread).highest = some highest →
      ∃ mark ∈ history.marks, mark.caller = thread ∧
        mark.request.reads = some (drafts thread).orgID
  answered : ∀ mark ∈ history.marks, ∀ reply,
    markedAnswer canonical mark = some reply →
      (progressOf canonical drafts history mark.caller).answer = some reply
  asked : ∀ thread reply,
    (progressOf canonical drafts history thread).answer = some reply →
      ∃ mark ∈ history.marks, mark.caller = thread ∧
        markedAnswer canonical mark = some reply
  stored : ∀ thread row,
    (progressOf canonical drafts history thread).answer = some (some row) →
      row ∈ history.state ∧
        canonical (drafts thread).orgID = some row.orgID ∧
        Fills (drafts thread).rules row.rules ∧
        row.createdBy = (drafts thread).createdBy

theorem ordered_start : Ordered canonical drafts (History.start []) where
  versioned := fun _ => ⟨rfl, by simp [setsOf, activeCount, History.start]⟩
  grown := by simp [History.start]
  begun := by simp [History.start]
  read := by simp
  answered := by simp [History.start]
  asked := by simp
  stored := by simp

variable {highest : Int}

/-- A version that is read and still free is the next one. -/
theorem Ordered.highest_eq (ordered : Ordered canonical drafts history)
    {thread : Nat}
    (known : (progressOf canonical drafts history thread).highest =
      some highest) :
    let sets := setsOf canonical history.state (drafts thread).orgID
    0 ≤ highest ∧ highest ≤ sets.length ∧
      (highest + 1 ∉ sets.map PolicySet.version ↔ highest = sets.length) := by
  dsimp only
  obtain ⟨mark, made, rfl, reads⟩ := ordered.read thread highest known
  have same := ordered.begun mark made _ reads
  rw [known, Option.some.injEq] at same
  have bound := ordered.grown mark made (drafts mark.caller).orgID
  rw [(ordered.versioned _).mem_versions]
  omega

/-- The row of an insert that succeeds continues the versions. -/
theorem Ordered.versioned_concat (ordered : Ordered canonical drafts history)
    {thread : Nat}
    (known : (progressOf canonical drafts history thread).highest =
      some highest)
    {owner : String} (owned : canonical (drafts thread).orgID = some owner)
    {draw : PolicyDraw} {rules : List PolicyRule} {createdBy : String}
    (free : ¬ Conflicts history.state
      (rowOfDraft draw owner (highest + 1) rules createdBy))
    (orgID : String) :
    Versioned (setsOf canonical (history.state ++
      [rowOfDraft draw owner (highest + 1) rules createdBy]) orgID) := by
  rw [setsOf_concat]
  split
  · rename_i same
    change canonical orgID = some owner at same
    have sets : setsOf canonical history.state orgID =
        setsOf canonical history.state (drafts thread).orgID := by
      rw [setsOf, setsOf, same, owned]
    have untaken : highest + 1 ∉ (setsOf canonical history.state
        (drafts thread).orgID).map PolicySet.version := by
      intro taken
      obtain ⟨row, member, version⟩ := List.mem_map.mp taken
      rw [setsOf, List.mem_filter, owned, decide_eq_true_eq,
        Option.some.injEq] at member
      exact free ⟨row, member.1, Or.inr ⟨member.2.symm, version⟩⟩
    have next := (ordered.highest_eq known).2.2.mp untaken
    have versioned := ordered.versioned (drafts thread).orgID
    rw [sets, next, ← versioned.latestVersion]
    exact versioned.concat draw.uuid draw.now owner rules createdBy
  · rw [List.append_nil]
    exact ordered.versioned orgID

/-- Rows are only ever added. -/
theorem policyExec_rows (statement : PolicyStatement) (draw : PolicyDraw)
    (rows : List PolicySet) :
    rows.Sublist (policyExec canonical statement draw rows).2 := by
  cases statement with
  | insertPolicySet orgID version rules createdBy =>
      rcases insert_cases orgID version rules createdBy draw rows with
        ⟨same, _⟩ | ⟨owner, _, _, _, same⟩
      · rw [same]
      · rw [same]
        exact List.sublist_append_left _ _
  | _ => exact List.Sublist.refl _

theorem MayDraft.unanswered {draft : PolicyDraft} {progress : Progress}
    {statement : PolicyStatement} (may : MayDraft draft progress statement) :
    progress.answer = none := by
  cases statement with
  | newString => exact may
  | selectMax orgID => exact may.1
  | insertPolicySet orgID version rules createdBy => exact may.1

theorem progressOf_next (thread other : Nat) (statement : PolicyStatement)
    (draw : PolicyDraw) :
    progressOf canonical drafts
        (history.next (policyExec canonical) thread statement draw) other =
      if other = thread then
        (progressOf canonical drafts history thread).learn statement
          (policyExec canonical statement draw history.state).1
      else progressOf canonical drafts history other := by
  split
  · rename_i same
    subst same
    exact History.view_next_self _ _ _ _ _ _
  · rename_i different
    exact History.view_next_of_ne _ _ _ _ _ different

section Step

variable {thread : Nat} {statement : PolicyStatement} {draw : PolicyDraw}

variable (ordered : Ordered canonical drafts history)
  (may : MayDraft (drafts thread) (progressOf canonical drafts history thread)
    statement)

include ordered may

theorem Ordered.versioned_next (orgID : String) :
    Versioned (setsOf canonical
      (policyExec canonical statement draw history.state).2 orgID) := by
  cases statement with
  | insertPolicySet named version rules createdBy =>
      obtain ⟨_, rfl, rfl, _, highest, known, rfl⟩ := may
      rcases insert_cases (drafts thread).orgID (highest + 1) rules
        (drafts thread).createdBy draw history.state with
        ⟨same, _⟩ | ⟨owner, owned, _, free, same⟩
      · rw [same]
        exact ordered.versioned orgID
      · rw [same]
        exact ordered.versioned_concat known owned free orgID
  | _ => exact ordered.versioned orgID

/-- What was read stays read, and what is read is marked. -/
theorem Ordered.highest_next {other : Nat} :
    (progressOf canonical drafts
        (history.next (policyExec canonical) thread statement draw)
        other).highest = some highest ↔
      (progressOf canonical drafts history other).highest = some highest ∨
        other = thread ∧ statement = .selectMax (drafts thread).orgID ∧
          highest = ((setsOf canonical history.state
            (drafts thread).orgID).length : Int) := by
  rw [progressOf_next]
  split
  · rename_i same
    subst same
    cases statement with
    | selectMax orgID =>
        obtain ⟨_, unread, rfl⟩ := may
        have length := highestVersion_eq
          (ordered.versioned (drafts other).orgID)
        simp only [Progress.learn, policyExec, unread, length, Option.some.injEq,
          reduceCtorEq, false_or, true_and]
        exact eq_comm
    | newString => simp [Progress.learn]
    | insertPolicySet orgID version rules createdBy => simp [Progress.learn]
  · rename_i different
    simp [different]

omit ordered in
theorem Ordered.answer_next {other : Nat} {reply : Option PolicySet} :
    (progressOf canonical drafts
        (history.next (policyExec canonical) thread statement draw)
        other).answer = some reply ↔
      (progressOf canonical drafts history other).answer = some reply ∨
        other = thread ∧ answerOf statement
          (policyExec canonical statement draw history.state).1 =
            some reply := by
  rw [progressOf_next]
  split
  · rename_i same
    subst same
    cases statement with
    | insertPolicySet orgID version rules createdBy =>
        simp [Progress.learn, answerOf, may.unanswered]
    | newString => simp [Progress.learn, answerOf]
    | selectMax orgID => simp [Progress.learn, answerOf]
  · rename_i different
    simp [different]

/-- Every permitted step keeps what holds of the rows and of the calls. -/
theorem Ordered.next :
    Ordered canonical drafts
      (history.next (policyExec canonical) thread statement draw) := by
  have rows := @policyExec_rows canonical statement draw history.state
  have longer (orgID : String) : (setsOf canonical history.state orgID).length ≤
      (setsOf canonical (policyExec canonical statement draw
        history.state).2 orgID).length := (rows.filter _).length_le
  constructor
  case versioned => exact fun orgID => ordered.versioned_next may orgID
  case grown =>
      intro mark made orgID
      rcases List.mem_append.mp made with earlier | now
      · exact (ordered.grown mark earlier orgID).trans (longer orgID)
      · obtain rfl := List.mem_singleton.mp now
        exact longer orgID
  case begun =>
      intro mark made orgID reads
      rw [ordered.highest_next may]
      rcases List.mem_append.mp made with earlier | now
      · exact Or.inl (ordered.begun mark earlier orgID reads)
      · obtain rfl := List.mem_singleton.mp now
        right
        cases statement with
        | selectMax named =>
            obtain rfl := Option.some.inj reads
            obtain ⟨_, _, rfl⟩ := may
            exact ⟨rfl, rfl, rfl⟩
        | newString => cases reads
        | insertPolicySet named version rules createdBy => cases reads
  case read =>
      intro other highest known
      rcases (ordered.highest_next may).mp known with
        before | ⟨rfl, rfl, _⟩
      · obtain ⟨mark, made, told⟩ := ordered.read other highest before
        exact ⟨mark, List.mem_append_left _ made, told⟩
      · exact ⟨_, List.mem_append_right _ (List.mem_singleton_self _), rfl,
          rfl⟩
  case answered =>
      intro mark made reply answer
      rw [Ordered.answer_next may]
      rcases List.mem_append.mp made with earlier | now
      · exact Or.inl (ordered.answered mark earlier reply answer)
      · obtain rfl := List.mem_singleton.mp now
        exact Or.inr ⟨rfl, answer⟩
  case asked =>
      intro other reply known
      rcases (Ordered.answer_next may).mp known with before | ⟨rfl, answer⟩
      · obtain ⟨mark, made, told⟩ := ordered.asked other reply before
        exact ⟨mark, List.mem_append_left _ made, told⟩
      · exact ⟨_, List.mem_append_right _ (List.mem_singleton_self _), rfl,
          answer⟩
  case stored =>
      intro other row known
      rcases (Ordered.answer_next may).mp known with before | ⟨rfl, answer⟩
      · obtain ⟨member, told⟩ := ordered.stored other row before
        exact ⟨rows.subset member, told⟩
      · cases statement with
        | insertPolicySet named version rules createdBy =>
            obtain ⟨_, rfl, rfl, filled, highest, _, rfl⟩ := may
            have written := Option.some.inj answer
            rcases insert_cases (drafts other).orgID (highest + 1) rules
              (drafts other).createdBy draw history.state with
              ⟨same, _⟩ | ⟨owner, owned, _, _, same⟩
            · rw [same] at written
              cases written
            · rw [same] at written
              obtain rfl := Option.some.inj written
              refine ⟨?_, owned, filled, rfl⟩
              change _ ∈ (policyExec canonical _ draw history.state).2
              rw [same]
              exact List.mem_append_right _ (List.mem_singleton_self _)
        | newString => cases answer
        | selectMax named => cases answer

omit may in
/-- The version that a call is to insert is free exactly if its organization has
no more sets than when the call began. -/
theorem Ordered.free_iff
    (known : (progressOf canonical drafts history thread).highest =
      some highest)
    {owner : String} (owned : canonical (drafts thread).orgID = some owner) :
    (∀ mark ∈ history.marks, mark.caller = thread →
        mark.request.reads = some (drafts thread).orgID →
          (setsOf canonical mark.before (drafts thread).orgID).length =
            (setsOf canonical history.state (drafts thread).orgID).length) ↔
      ∀ row ∈ history.state, row.orgID = owner → row.version ≠ highest + 1 := by
  have next := (ordered.highest_eq known).2.2
  have listed : (highest + 1 ∉ (setsOf canonical history.state
      (drafts thread).orgID).map PolicySet.version) ↔
      ∀ row ∈ history.state, row.orgID = owner → row.version ≠ highest + 1 := by
    simp [setsOf, owned, eq_comm]
  rw [← listed, next]
  constructor
  · intro still
    obtain ⟨mark, made, rfl, reads⟩ := ordered.read thread highest known
    have same := ordered.begun mark made _ reads
    rw [known, Option.some.injEq] at same
    rw [same, still mark made rfl reads]
  · rintro same mark made rfl reads
    have read := ordered.begun mark made _ reads
    rw [known, Option.some.injEq] at read
    omega

/-- An insert succeeds exactly if nothing hinders it. -/
theorem Ordered.unhindered_iff :
    Unhindered canonical history thread statement draw ↔
      answerOf statement (policyExec canonical statement draw
        history.state).1 ≠ some none := by
  cases statement with
  | newString => simp [Unhindered, PolicyStatement.inserts, answerOf]
  | selectMax orgID => simp [Unhindered, PolicyStatement.inserts, answerOf]
  | insertPolicySet named version rules createdBy =>
      obtain ⟨_, rfl, rfl, _, highest, known, rfl⟩ := may
      simp only [Unhindered, PolicyStatement.inserts, Option.mem_def,
        Option.some.injEq, forall_eq', answerOf, ne_eq]
      rcases insert_cases (drafts thread).orgID (highest + 1) rules
        (drafts thread).createdBy draw history.state with
        ⟨same, hindered⟩ | ⟨owner, owned, accepted, free, same⟩
      · rw [same]
        simp only [not_true_eq_false, iff_false]
        rintro ⟨accepted, parses, new, still⟩
        rcases hindered with rejected | unparsed | ⟨owner, owned, conflicts⟩
        · rw [accepted] at rejected
          cases rejected
        · rw [unparsed] at parses
          cases parses
        · obtain ⟨row, member, taken | ⟨sameOrg, version⟩⟩ := conflicts
          · exact new row member taken
          · exact (ordered.free_iff known owned).mp still row member sameOrg
              version
      · rw [same]
        refine ⟨fun _ written => (by cases written), fun _ => ?_⟩
        refine ⟨accepted, by rw [owned]; rfl, ?_, ?_⟩
        · exact fun row member taken => free ⟨row, member, Or.inl taken⟩
        · refine (ordered.free_iff known owned).mpr ?_
          exact fun row member sameOrg version =>
            free ⟨row, member, Or.inr ⟨sameOrg, version⟩⟩

end Step

/-- Nothing hinders any insert of the schedule. -/
def UnhinderedSchedule (canonical : UUIDs) (drafts : Nat → PolicyDraft)
    (schedule : List (Nat × PolicyDraw)) : Prop :=
  (draftings drafts).Valid (policyExec canonical) (Unhindered canonical)
    schedule

instance (schedule : List (Nat × PolicyDraw)) :
    Decidable (UnhinderedSchedule canonical drafts schedule) :=
  inferInstanceAs (Decidable (Pool.Valid _ _ _ schedule))

theorem sound_draftings : (draftings drafts).Sound (policyExec canonical)
    (fun thread => drafting (drafts thread)) {} (fun _ => Returns)
    (Ordered canonical drafts) :=
  Pool.sound_start _ ordered_start fun thread =>
    createPolicySet_obeys (drafts thread)

theorem Ordered.retire (ordered : Ordered canonical drafts history)
    (thread : Nat) : Ordered canonical drafts (history.retire thread) :=
  ⟨ordered.versioned, ordered.grown, ordered.begun, ordered.read,
    ordered.answered, ordered.asked, ordered.stored⟩

/-- The calls have made progress in order after every schedule. -/
theorem ordered_drafted (schedule : List (Nat × PolicyDraw)) :
    Ordered canonical drafts (drafted canonical drafts schedule).history :=
  (Pool.run_sound (policyExec canonical) (fun _ _ _ _ _ => trivial)
    (fun _ _ _ _ ordered may => ordered.next may)
    (fun _ thread ordered => ordered.retire thread) sound_draftings schedule).1

/-- What a call still does, and what it returns, is what its role says. -/
theorem drafted_obeys (schedule : List (Nat × PolicyDraw)) (thread : Nat) :
    ((drafted canonical drafts schedule).threads thread).Obeys
      (drafting (drafts thread)) Returns (progressOf canonical drafts
        (drafted canonical drafts schedule).history thread) := by
  let post (_ : Nat) : PolicySet → Progress → Prop := Returns
  have obeys : ∀ thread, ((draftings drafts).threads thread).Obeys
      (drafting (drafts thread)) (post thread) ((draftings drafts).history.view
        (policyExec canonical) (drafting (drafts thread)) {} thread) :=
    fun thread => createPolicySet_obeys (drafts thread)
  exact Pool.run_obeys (policyExec canonical) (fun _ _ _ => trivial) _ obeys
    schedule thread

/-- Two sets of an organization have different versions. -/
theorem Ordered.unique (ordered : Ordered canonical drafts history)
    {orgID : String} {row set : PolicySet}
    (owner : canonical orgID = some set.orgID) (stored : set ∈ history.state)
    (member : row ∈ history.state) (sameOrg : row.orgID = set.orgID)
    (version : row.version = set.version) : row = set := by
  refine List.inj_on_of_nodup_map (ordered.versioned orgID).nodup ?_ ?_ version
  · rw [setsOf, List.mem_filter, owner, sameOrg]
    exact ⟨member, decide_eq_true rfl⟩
  · rw [setsOf, List.mem_filter, owner]
    exact ⟨stored, decide_eq_true rfl⟩

/-- Every call that returns has stored its rules under a version of its own and
returns the stored set, exactly if nothing hinders any insert. -/
theorem drafts_kept_iff (canonical : UUIDs) (drafts : Nat → PolicyDraft)
    (schedule : List (Nat × PolicyDraw)) :
    (∀ thread set,
      (drafted canonical drafts schedule).threads thread = .ret set →
        Keeps canonical (drafted canonical drafts schedule).history.state
          (drafts thread) set) ↔
      UnhinderedSchedule canonical drafts schedule := by
  have ordered := @ordered_drafted canonical drafts schedule
  have obeys := @drafted_obeys canonical drafts schedule
  have accepted : UnhinderedSchedule canonical drafts schedule ↔
      ∀ mark ∈ (drafted canonical drafts schedule).history.marks,
        markedAnswer canonical mark ≠ some none :=
    Pool.valid_iff_marks (policyExec canonical) (fun _ _ _ _ _ => trivial)
      (fun _ _ _ _ ordered may => ordered.next may)
      (fun _ thread ordered => ordered.retire thread)
      (fun _ _ _ _ ordered may => ordered.unhindered_iff may) sound_draftings
      (by simp [draftings, Pool.start, History.start]) schedule
  rw [accepted]
  constructor
  · intro kept mark made refused
    have answer := ordered.answered mark made none refused
    have done := obeys mark.caller
    cases program : (drafted canonical drafts schedule).threads mark.caller with
    | call request next =>
        rw [program] at done
        have unanswered := MayDraft.unanswered done.1
        rw [unanswered] at answer
        cases answer
    | ret set =>
        rw [program] at done
        obtain ⟨reply, replied, _, madeUp⟩ := done
        rw [answer, Option.some.injEq] at replied
        have keeps := kept mark.caller set program
        have listed : set ∈ setsOf canonical
            (drafted canonical drafts schedule).history.state
            (drafts mark.caller).orgID := by
          rw [setsOf, List.mem_filter, keeps.owner]
          exact ⟨keeps.stored, decide_eq_true rfl⟩
        have positive := ((ordered.versioned _).mem_versions.mp
          (List.mem_map_of_mem listed)).1
        have zero := madeUp replied.symm
        omega
  · intro good thread set returned
    have done := obeys thread
    rw [returned] at done
    obtain ⟨reply, replied, same, _⟩ := done
    cases reply with
    | none =>
        obtain ⟨mark, made, _, refused⟩ := ordered.asked thread none replied
        exact absurd refused (good mark made)
    | some row =>
        obtain rfl := same row rfl
        obtain ⟨stored, owner, rules, createdBy⟩ :=
          ordered.stored thread set replied
        exact ⟨stored, owner, rules, createdBy,
          fun other member => ordered.unique owner stored member⟩

end Runs

namespace Sample

/-- Two operators of an organization draft policies. -/
def twoDrafts (thread : Nat) : PolicyDraft where
  orgID := "acme"
  rules := []
  createdBy := if thread = 0 then "first" else "second"

/-- The threads take their turns in this order, with fresh identifiers. -/
def draftTurns (threads : List Nat) : List (Nat × PolicyDraw) :=
  threads.map fun thread => (thread, ⟨toString thread, 0, false⟩)

end Sample

/-- One call after the other, both sets are kept. -/
example : UnhinderedSchedule some Sample.twoDrafts
    (Sample.draftTurns [0, 0, 1, 1]) := by
  decide +kernel

/-- Both inserts begin before one of them is written.  The second call returns a
set under version `0` that is stored nowhere. -/
theorem raced_draft_is_lost :
    let after := drafted some Sample.twoDrafts
      (Sample.draftTurns [0, 1, 0, 1])
    after.history.state.length = 1 ∧
      ((after.threads 1).result?.map PolicySet.version = some 0) ∧
      ¬ ∀ thread set, after.threads thread = .ret set →
        Keeps some after.history.state (Sample.twoDrafts thread) set := by
  intro after
  have one : after.history.state.map PolicySet.version = [1] := by
    decide +kernel
  have zero : (after.threads 1).result?.map PolicySet.version = some 0 := by
    decide +kernel
  refine ⟨by decide +kernel, zero, fun kept => ?_⟩
  obtain ⟨set, returned, version⟩ := Option.map_eq_some_iff.mp zero
  have keeps := kept 1 set (Prog.result?_eq_some.mp returned)
  have listed : set.version ∈ after.history.state.map PolicySet.version :=
    List.mem_map_of_mem keeps.stored
  rw [one, version] at listed
  simp at listed

end Postgres
end SettleAgent
