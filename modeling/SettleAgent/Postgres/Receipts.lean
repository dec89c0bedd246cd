import SettleAgent.Interaction.Pool
import SettleAgent.Store.Chain

/-!
# Receipts in Postgres

`PGStore.AppendReceipt` takes an advisory lock, reads the head of the chain and
inserts the new receipt, each in a statement of its own.  A lock of this kind
ends with its transaction, and a statement outside a transaction block is one,
so the lock is gone before the head is read.  Two calls may then read the same
head and fork the chain.  The chain stays whole in runs in which no receipt of
the organization is inserted between the read and the insert of one call.
-/

namespace SettleAgent
namespace Postgres

open HashChain Interaction

/-- The rows of the receipts table in the order of `created_at`, and the keys of
the advisory locks that the open transaction holds. -/
structure Database where
  receipts : List Receipt
  advisory : List String

/-- What the calls of the store send to the database, and the identifiers they
draw. -/
inductive Statement : Type
  | advisoryXactLock (key : String)
  | selectHead (orgID : String)
  | newString
  | insertReceipt (receipt : Receipt)

/-- Type of the reply to a statement. -/
@[reducible] def Statement.Resp : Statement → Type
  | advisoryXactLock _ => Unit
  | selectHead _ => Option String
  | newString => String
  | insertReceipt _ => Unit

/-- The receipt that a statement inserts. -/
def Statement.inserted : Statement → Option Receipt
  | .insertReceipt receipt => some receipt
  | _ => none

/-- The organization whose head a statement reads. -/
def Statement.headed : Statement → Option String
  | .selectHead orgID => some orgID
  | _ => none

/-- What the answer to a statement depends on besides the database: the drawn
identifier, and whether some constraint rejects the row. -/
structure Draw where
  uuid : String
  rejected : Bool

/-- The canonical text of an identifier that `uuid.Parse` accepts. -/
abbrev UUIDs := String → Option String

/-- `optUUID`, as read back: an identifier that does not parse is stored as
null and read as empty. -/
def optUUID (canonical : UUIDs) (id : String) : String :=
  if id = "" then "" else (canonical id).getD ""

/-- The row that an insert adds, as it is read back.  The signature columns
start empty. -/
def rowOf (canonical : UUIDs) (receipt : Receipt) : Option Receipt := do
  let id ← canonical receipt.id
  let orgID ← canonical receipt.orgID
  let transactionID ← canonical receipt.transactionID
  return { receipt with
    id := id
    orgID := orgID
    transactionID := transactionID
    actionID := optUUID canonical receipt.actionID
    keyID := ""
    signature := "" }

namespace Database

def empty : Database where
  receipts := []
  advisory := []

/-- The rows of an organization.  A query for a text that is no identifier
fails, and its error is dropped. -/
def receiptsOf (canonical : UUIDs) (db : Database) (orgID : String) :
    List Receipt :=
  db.receipts.filter fun row => canonical orgID = some row.orgID

/-- The hash of the newest row of an organization. -/
def headOf (canonical : UUIDs) (db : Database) (orgID : String) :
    Option String :=
  (db.receiptsOf canonical orgID).getLast?.map Receipt.hash

/-- A statement inside its transaction. -/
def execute (canonical : UUIDs) :
    (statement : Statement) → Draw → Database → statement.Resp × Database
  | .advisoryXactLock key, _, db =>
      ((), { db with advisory := key :: db.advisory })
  | .selectHead orgID, _, db => (db.headOf canonical orgID, db)
  | .newString, draw, db => (draw.uuid, db)
  | .insertReceipt receipt, draw, db =>
      if draw.rejected then ((), db)
      else match rowOf canonical receipt with
        | some row => ((), { db with receipts := db.receipts ++ [row] })
        | none => ((), db)

/-- A statement as a transaction of its own: its locks are released when it
ends. -/
def autoCommit (canonical : UUIDs) (statement : Statement) (draw : Draw)
    (db : Database) : statement.Resp × Database :=
  let done := db.execute canonical statement draw
  (done.1, { done.2 with advisory := [] })

end Database

/-- Send one statement. -/
abbrev send (statement : Statement) :
    Prog Statement Statement.Resp statement.Resp :=
  Prog.perform statement

/-- `Truncate(time.Microsecond)`. -/
def truncate (time : Time) : Time := time - time % 1000

/-- The receipt that `AppendReceipt` hashes and inserts. -/
def chainedReceipt (hashing : Hashing) (id prev : String) (receipt : Receipt) :
    Receipt :=
  let made := { receipt with
    id := id
    prevHash := prev
    startedAt := truncate receipt.startedAt
    completedAt := truncate receipt.completedAt }
  { made with hash := hashing.chainHash prev (Ledger.payload made) }

/-- `PGStore.AppendReceipt`. -/
def appendReceipt (hashing : Hashing) (receipt : Receipt) :
    Prog Statement Statement.Resp Receipt := do
  let _ ← send (.advisoryXactLock receipt.orgID)
  let head ← send (.selectHead receipt.orgID)
  let id ← send .newString
  let chained := chainedReceipt hashing id (head.getD "") receipt
  let _ ← send (.insertReceipt chained)
  return chained

/-- Walk the rows from a position and a previous hash. -/
def verifyRows (hashing : Hashing) : List Receipt → Int → String → Int
  | [], _, _ => -1
  | row :: rows, index, prev =>
      if row.prevHash ≠ prev ∨
          row.hash ≠ hashing.chainHash prev (Ledger.payload row) then index
      else verifyRows hashing rows (index + 1) row.hash

/-- `PGStore.VerifyChain`. -/
def verifyChain (hashing : Hashing) (canonical : UUIDs) (db : Database)
    (orgID : String) : Int :=
  verifyRows hashing (db.receiptsOf canonical orgID) 0 ""

/-- One call of `AppendReceipt` in every thread. -/
def calls (hashing : Hashing) (receipts : Nat → Receipt) :
    Pool Statement Statement.Resp Draw Database Receipt :=
  Pool.start Database.empty fun thread =>
    appendReceipt hashing (receipts thread)

/-- The calls, interleaved by a schedule. -/
def appends (hashing : Hashing) (canonical : UUIDs) (receipts : Nat → Receipt)
    (schedule : List (Nat × Draw)) :
    Pool Statement Statement.Resp Draw Database Receipt :=
  (calls hashing receipts).run (Database.autoCommit canonical) schedule

/-! ## Rows and links -/

variable {hashing : Hashing} {canonical : UUIDs}

theorem verifyRows_eq_neg_one_iff
    (rows : List Receipt) {index : Int} (prev : String)
    (position : 0 ≤ index) :
    verifyRows hashing rows index prev = -1 ↔
      Chained hashing.chainHash prev (rows.map Ledger.link) := by
  induction rows generalizing index prev with
  | nil => simp [verifyRows, Chained]
  | cons row rest inductionHypothesis =>
      have following : 0 ≤ index + 1 := by omega
      exact chained_step_iff (Ledger.link row) position
        (inductionHypothesis row.hash following)

/-- The head that a call reads is the head of the links. -/
theorem headOf_getD (db : Database) (orgID : String) :
    (db.headOf canonical orgID).getD "" =
      head "" ((db.receiptsOf canonical orgID).map Ledger.link) := by
  rw [head_eq_getLast?, List.getLast?_map, Option.map_map]
  rfl

/-- An insert adds its row or nothing. -/
theorem receipts_autoCommit_insert
    (receipt : Receipt) (draw : Draw) (db : Database) :
    (db.autoCommit canonical (.insertReceipt receipt) draw).2.receipts =
        db.receipts ∨
      draw.rejected = false ∧ ∃ row, rowOf canonical receipt = some row ∧
        (db.autoCommit canonical (.insertReceipt receipt) draw).2.receipts =
          db.receipts ++ [row] := by
  simp only [Database.autoCommit, Database.execute]
  cases rejected : draw.rejected with
  | true => exact .inl rfl
  | false =>
      cases inserted : rowOf canonical receipt with
      | none => exact .inl rfl
      | some row => exact .inr ⟨rfl, row, rfl, rfl⟩

/-- The identifiers that the chain hash covers are read back as they were
written. -/
structure Spelled (canonical : UUIDs) (receipt : Receipt) : Prop where
  txn : ∀ text, canonical receipt.transactionID = some text →
    text = receipt.transactionID
  action : optUUID canonical receipt.actionID = receipt.actionID

theorem link_rowOf {receipt row : Receipt} (spelled : Spelled canonical receipt)
    (inserted : rowOf canonical receipt = some row) :
    canonical receipt.orgID = some row.orgID ∧
      Ledger.link row = Ledger.link receipt := by
  simp only [rowOf, Option.bind_eq_bind, Option.bind_eq_some_iff,
    Option.pure_def, Option.some.injEq] at inserted
  obtain ⟨id, _, orgID, owner, transactionID, txn, rfl⟩ := inserted
  refine ⟨owner, ?_⟩
  simp only [Ledger.link, Ledger.payload, spelled.action,
    spelled.txn transactionID txn]

/-! ## The role of a call -/

/-- What a call has read so far: the head, once it has asked for it. -/
def learn : Option String → (statement : Statement) → statement.Resp →
    Option String
  | _, .selectHead _, head => some (head.getD "")
  | read, _, _ => read

/-- A call asks for the head of its organization, and what it inserts continues
the head that it has read. -/
def may (hashing : Hashing) (receipt : Receipt) (read : Option String) :
    Statement → Prop
  | .selectHead orgID => orgID = receipt.orgID
  | .insertReceipt made => ∃ id prev, read = some prev ∧
      made = chainedReceipt hashing id prev receipt
  | _ => True

/-- The role of the call that appends a receipt. -/
def roleOf (hashing : Hashing) (receipt : Receipt) :
    Role Statement Statement.Resp (Option String) where
  learn := learn
  may := may hashing receipt
  fits := fun _ _ => True

theorem appendReceipt_obeys (receipt : Receipt) :
    (appendReceipt hashing receipt).Obeys (roleOf hashing receipt)
      (fun _ _ => True) none := by
  refine ⟨trivial, fun _ _ => ⟨rfl, fun head _ => ⟨trivial, fun id _ => ?_⟩⟩⟩
  exact ⟨⟨id, head.getD "", rfl, rfl⟩, fun _ _ => trivial⟩

/-! ## Runs -/

/-- If a row is inserted, then the organization has the same receipts as when
the call read the head. -/
def Unraced (canonical : UUIDs) (history : History Statement Draw Database)
    (thread : Nat) (statement : Statement) (draw : Draw) : Prop :=
  ∀ receipt ∈ statement.inserted, draw.rejected = false →
    ∀ mark ∈ history.marks, mark.caller = thread →
      mark.request.headed = some receipt.orgID →
        mark.before.receiptsOf canonical receipt.orgID =
          history.state.receiptsOf canonical receipt.orgID

instance (history : History Statement Draw Database)
    (thread : Nat) (statement : Statement) (draw : Draw) :
    Decidable (Unraced canonical history thread statement draw) :=
  inferInstanceAs (Decidable (∀ receipt ∈ statement.inserted, _))

/-- No receipt of the organization is inserted between the read and the insert
of a call. -/
def UnracedSchedule (hashing : Hashing) (canonical : UUIDs)
    (receipts : Nat → Receipt) (schedule : List (Nat × Draw)) : Prop :=
  (calls hashing receipts).Valid (Database.autoCommit canonical)
    (Unraced canonical) schedule

instance (receipts : Nat → Receipt) (schedule : List (Nat × Draw)) :
    Decidable (UnracedSchedule hashing canonical receipts schedule) :=
  inferInstanceAs (Decidable (Pool.Valid _ _ _ schedule))

/-- Every chain is whole, and what a call has read was the head when it
asked. -/
structure Whole (hashing : Hashing) (canonical : UUIDs)
    (receipts : Nat → Receipt) (history : History Statement Draw Database) :
    Prop where
  chained : ∀ orgID, Chained hashing.chainHash ""
    ((history.state.receiptsOf canonical orgID).map Ledger.link)
  read : ∀ thread prev,
    history.view (Database.autoCommit canonical)
      (roleOf hashing (receipts thread)) none thread = some prev →
    ∃ mark ∈ history.marks, mark.caller = thread ∧
      mark.request = .selectHead (receipts thread).orgID ∧
      prev = (mark.before.headOf canonical (receipts thread).orgID).getD ""

variable {receipts : Nat → Receipt} {history : History Statement Draw Database}

theorem whole_start : Whole hashing canonical receipts
    (History.start Database.empty) where
  chained := fun _ => trivial
  read := fun _ _ read => nomatch read

/-- A head that was read is remembered by a mark after the next step, too. -/
theorem Whole.read_next (whole : Whole hashing canonical receipts history)
    {thread : Nat} {statement : Statement} {draw : Draw}
    (allowed : may hashing (receipts thread)
      (history.view (Database.autoCommit canonical)
        (roleOf hashing (receipts thread)) none thread) statement)
    {other : Nat} {prev : String}
    (view : (history.next (Database.autoCommit canonical) thread statement
      draw).view (Database.autoCommit canonical)
        (roleOf hashing (receipts other)) none other = some prev) :
    ∃ mark ∈ (history.next (Database.autoCommit canonical) thread statement
        draw).marks, mark.caller = other ∧
      mark.request = .selectHead (receipts other).orgID ∧
      prev =
        (mark.before.headOf canonical (receipts other).orgID).getD "" := by
  have earlier : history.view (Database.autoCommit canonical)
      (roleOf hashing (receipts other)) none other = some prev →
      ∃ mark ∈ (history.next (Database.autoCommit canonical) thread statement
          draw).marks, mark.caller = other ∧
        mark.request = .selectHead (receipts other).orgID ∧
        prev =
          (mark.before.headOf canonical (receipts other).orgID).getD "" := by
    intro known
    obtain ⟨mark, made, told⟩ := whole.read other prev known
    exact ⟨mark, List.mem_append_left _ made, told⟩
  by_cases same : other = thread
  · subst same
    rw [History.view_next_self] at view
    cases statement with
    | selectHead orgID =>
        have named : orgID = (receipts other).orgID := allowed
        subst named
        refine ⟨_, List.mem_append_right _ (List.mem_singleton_self _), rfl,
          rfl, ?_⟩
        exact (Option.some.inj view).symm
    | _ => exact earlier view
  · rw [History.view_next_of_ne _ _ _ _ _ same] at view
    exact earlier view

/-- A row that continues the head of its organization keeps all chains. -/
theorem Whole.chained_concat (whole : Whole hashing canonical receipts history)
    {receipt row : Receipt} {prev : String}
    (owner : canonical receipt.orgID = some row.orgID)
    (linked : Ledger.link row = Ledger.link receipt)
    (named : receipt.prevHash = prev)
    (digested : receipt.hash = hashing.chainHash prev (Ledger.payload receipt))
    (current : prev = head "" ((history.state.receiptsOf canonical
      receipt.orgID).map Ledger.link))
    (orgID : String) :
    Chained hashing.chainHash ""
      (((history.state.receipts ++ [row]).filter fun other =>
        canonical orgID = some other.orgID).map Ledger.link) := by
  rw [List.filter_append, List.map_append]
  by_cases owned : canonical orgID = some row.orgID
  · have rows : (history.state.receipts.filter fun other =>
        canonical orgID = some other.orgID) =
        history.state.receiptsOf canonical receipt.orgID := by
      rw [Database.receiptsOf, owner, owned]
    have whole := whole.chained receipt.orgID
    rw [rows]
    simp only [owned, List.filter_cons, decide_true, if_true, List.filter_nil,
      List.map_cons, List.map_nil, linked]
    apply whole.concat
    · exact named.trans current
    · change receipt.hash = hashing.chainHash receipt.prevHash _
      rw [named]
      exact digested
  · simpa [owned, Database.receiptsOf] using whole.chained orgID

theorem Whole.next (whole : Whole hashing canonical receipts history)
    (spelled : ∀ thread, Spelled canonical (receipts thread))
    {thread : Nat} {statement : Statement} {draw : Draw}
    (unraced : Unraced canonical history thread statement draw)
    (allowed : may hashing (receipts thread)
      (history.view (Database.autoCommit canonical)
        (roleOf hashing (receipts thread)) none thread) statement) :
    Whole hashing canonical receipts
      (history.next (Database.autoCommit canonical) thread statement draw) := by
  refine ⟨?_, fun other prev view => whole.read_next allowed view⟩
  intro orgID
  have unchanged : (history.state.autoCommit canonical statement
      draw).2.receipts = history.state.receipts →
      Chained hashing.chainHash "" (((history.next
        (Database.autoCommit canonical) thread statement draw).state.receiptsOf
          canonical orgID).map Ledger.link) := by
    intro same
    simp only [History.next, Database.receiptsOf, same]
    exact whole.chained orgID
  cases statement with
  | insertReceipt made =>
      rcases receipts_autoCommit_insert made draw history.state with
        same | ⟨accepted, row, inserted, added⟩
      · exact unchanged same
      · obtain ⟨id, prev, known, rfl⟩ := allowed
        obtain ⟨mark, made, caller, asked, told⟩ :=
          whole.read thread prev known
        have current := unraced _ rfl accepted mark made caller
          (by rw [asked]; rfl)
        have spelledToo : Spelled canonical
            (chainedReceipt hashing id prev (receipts thread)) :=
          ⟨(spelled thread).txn, (spelled thread).action⟩
        have links := link_rowOf spelledToo inserted
        simp only [History.next, Database.receiptsOf, added]
        apply whole.chained_concat links.1 links.2 rfl rfl
        rw [told, headOf_getD]
        exact congrArg (fun rows => head "" (rows.map Ledger.link)) current
  | _ => exact unchanged rfl

/-- In every run in which no receipt of an organization is inserted between the
read and the insert of a call, all chains verify at every moment. -/
theorem unraced_appends_verify
    (hashing : Hashing) (canonical : UUIDs) (receipts : Nat → Receipt)
    (schedule : List (Nat × Draw))
    (spelled : ∀ thread, Spelled canonical (receipts thread))
    (unraced : UnracedSchedule hashing canonical receipts schedule)
    (orgID : String) :
    verifyChain hashing canonical
      (appends hashing canonical receipts schedule).history.state orgID =
        -1 := by
  have start : (calls hashing receipts).Sound (Database.autoCommit canonical)
      (fun thread => roleOf hashing (receipts thread)) none (fun _ _ _ => True)
      (Whole hashing canonical receipts) :=
    Pool.sound_start _ whole_start fun thread =>
      appendReceipt_obeys (receipts thread)
  have sound := Pool.run_invariant _ (fun _ _ _ _ _ _ => trivial)
    (fun _ _ _ _ whole _ met allowed => whole.next spelled met allowed)
    (fun _ _ _ whole _ _ => ⟨whole.chained, whole.read⟩) start schedule unraced
  exact (verifyRows_eq_neg_one_iff _ "" le_rfl).mpr (sound.1.chained orgID)

namespace Sample

/-- A receipt for an action of an organization, all identifiers canonical. -/
def receipt (actionID : String) : Receipt where
  orgID := "acme"
  transactionID := "txn"
  actionID := actionID
  tool := "stripe"
  action := "refund"
  argumentsHash := "args"
  decision := .allow
  resultHash := "result"
  financialCents := none
  compensation := .none
  policyVersion := 1
  startedAt := 0
  completedAt := 0

/-- The receipts of two calls. -/
def pair (thread : Nat) : Receipt :=
  receipt (if thread = 0 then "first" else "second")

/-- The threads take their turns in this order. -/
def turns (threads : List Nat) : List (Nat × Draw) :=
  threads.map fun thread => (thread, ⟨toString thread, false⟩)

/-- Each call has four statements; one follows the other here. -/
def inTurn : List (Nat × Draw) :=
  turns [0, 0, 0, 0, 1, 1, 1, 1]

/-- The second call reads the head before the first one has inserted its
receipt. -/
def raced : List (Nat × Draw) :=
  turns [0, 0, 1, 1, 0, 0, 1, 1]

theorem spelled_pair (thread : Nat) :
    Spelled some (pair thread) where
  txn := fun _ same => (Option.some.inj same).symm
  action := by
    by_cases first : thread = 0
    · simp [pair, receipt, optUUID, first]
    · simp [pair, receipt, optUUID, first]

end Sample

open SettleAgent.Sample (runtime)

/-- Two calls one after the other leave a chain that verifies. -/
theorem unraced_appends_verify_inTurn :
    (appends runtime.hashing some Sample.pair
        Sample.inTurn).history.state.receipts.length = 2 ∧
      verifyChain runtime.hashing some (appends runtime.hashing some
        Sample.pair Sample.inTurn).history.state "acme" = -1 :=
  ⟨by decide +kernel,
    unraced_appends_verify runtime.hashing some Sample.pair Sample.inTurn
      Sample.spelled_pair (by decide +kernel) "acme"⟩

/-- Both calls have finished, and the second receipt does not continue the
first one. -/
theorem raced_appends_fork :
    ((appends runtime.hashing some Sample.pair Sample.raced).threads
        0).request?.isNone ∧
      ((appends runtime.hashing some Sample.pair Sample.raced).threads
        1).request?.isNone ∧
      verifyChain runtime.hashing some (appends runtime.hashing some
        Sample.pair Sample.raced).history.state "acme" = 1 := by
  decide +kernel

/-! ## Verification over a query that fails -/

/-- How the query of `VerifyChain` turns out. -/
structure Cursor where
  /-- `Query` returns no error. -/
  starts : Bool
  /-- `rows.Next` reports false after this many rows, if there are as many. -/
  breaksAfter : Option Nat
  /-- Whether `scanReceipt` succeeds on the row at a position. -/
  scans : Nat → Bool

namespace Cursor

variable (hashing : Hashing) (cursor : Cursor)

/-- The rows at which `rows.Next` reports true. -/
def arrived (rows : List Receipt) : List Receipt :=
  if cursor.starts then
    match cursor.breaksAfter with
    | some count => rows.take count
    | none => rows
  else []

/-- The loop of `VerifyChain` over the rows that arrive. -/
def verifyRows : List Receipt → Nat → String → Int
  | [], _, _ => -1
  | row :: rows, index, prev =>
      if cursor.scans index = false then index
      else if row.prevHash ≠ prev ∨
          row.hash ≠ hashing.chainHash prev (Ledger.payload row) then index
      else verifyRows rows (index + 1) row.hash

/-- `PGStore.VerifyChain`, by the outcome of its query. -/
def verifyChain (canonical : UUIDs) (db : Database) (orgID : String) : Int :=
  if cursor.starts then
    cursor.verifyRows hashing (cursor.arrived (db.receiptsOf canonical orgID))
      0 ""
  else -1

/-- All of the rows arrive and scan. -/
def ReadsAll (rows : List Receipt) : Prop :=
  cursor.arrived rows = rows ∧
    ∀ position < rows.length, cursor.scans position = true

/-- None of the rows stops the loop. -/
def Passes (rows : List Receipt) : Prop :=
  (∀ position < rows.length, cursor.scans position = true) ∧
    Chained hashing.chainHash "" (rows.map Ledger.link)

end Cursor

/-- The loop passes all rows exactly if they scan and the loop that loses none
passes them. -/
theorem Cursor.verifyRows_eq_neg_one_iff (cursor : Cursor)
    (rows : List Receipt) (index : Nat) (prev : String) :
    cursor.verifyRows hashing rows index prev = -1 ↔
      (∀ position < rows.length, cursor.scans (index + position) = true) ∧
        Postgres.verifyRows hashing rows index prev = -1 := by
  induction rows generalizing index prev with
  | nil => simp [Cursor.verifyRows, Postgres.verifyRows]
  | cons row rest inductionHypothesis =>
      have scansAll : (∀ position < (row :: rest).length,
            cursor.scans (index + position) = true) ↔
          cursor.scans index = true ∧ ∀ position < rest.length,
            cursor.scans (index + 1 + position) = true := by
        rw [List.length_cons, Nat.forall_lt_succ_left]
        simp only [Nat.add_zero, Nat.add_right_comm index 1, Nat.add_assoc]
      have stops : (index : Int) ≠ -1 := by omega
      rw [Cursor.verifyRows, Postgres.verifyRows, scansAll]
      cases scans : cursor.scans index with
      | false => simp [stops]
      | true =>
          simp only [Bool.true_eq_false, if_false, true_and]
          split
          · exact iff_of_false stops fun both => stops both.2
          · exact inductionHypothesis (index + 1) row.hash

/-- A query that fails at once verifies like one without rows. -/
theorem Cursor.verifyChain_eq_neg_one_iff (cursor : Cursor) (db : Database)
    (orgID : String) :
    cursor.verifyChain hashing canonical db orgID = -1 ↔
      cursor.Passes hashing
        (cursor.arrived (db.receiptsOf canonical orgID)) := by
  unfold Cursor.verifyChain
  split
  · rw [Cursor.verifyRows_eq_neg_one_iff,
      Postgres.verifyRows_eq_neg_one_iff _ "" (Int.natCast_nonneg 0)]
    simp only [Nat.zero_add]
    exact Iff.rfl
  · rename_i failed
    simp [Cursor.Passes, Cursor.arrived, failed, Chained]

/-- If nothing fails, both definitions agree. -/
theorem Cursor.verifyChain_of_healthy (db : Database) (orgID : String) :
    Cursor.verifyChain hashing ⟨true, none, fun _ => true⟩ canonical db orgID =
      Postgres.verifyChain hashing canonical db orgID := by
  have loops (rows : List Receipt) (index : Nat) (prev : String) :
      Cursor.verifyRows hashing ⟨true, none, fun _ => true⟩ rows index prev =
        Postgres.verifyRows hashing rows index prev := by
    induction rows generalizing index prev with
    | nil => rfl
    | cons row rest inductionHypothesis =>
        simp only [Cursor.verifyRows, Postgres.verifyRows, Bool.true_eq_false,
          if_false, inductionHypothesis, Nat.cast_add, Nat.cast_one]
  exact loops _ 0 ""

/-- For every table and every outcome of the query, the result -1 says that
every receipt of the organization was read and continues the chain, if and only
if all of them arrive or one that arrives stops the loop. -/
theorem verified_is_read_iff (cursor : Cursor) (db : Database)
    (orgID : String) :
    let rows := db.receiptsOf canonical orgID
    (cursor.verifyChain hashing canonical db orgID = -1 →
      cursor.ReadsAll rows ∧
        Chained hashing.chainHash "" (rows.map Ledger.link)) ↔
    (cursor.arrived rows = rows ∨
      ¬ cursor.Passes hashing (cursor.arrived rows)) := by
  intro rows
  rw [Cursor.verifyChain_eq_neg_one_iff]
  constructor
  · intro sound
    by_cases passes : cursor.Passes hashing (cursor.arrived rows)
    · exact .inl (sound passes).1.1
    · exact .inr passes
  · rintro (complete | stopped) passes
    · change cursor.Passes hashing (cursor.arrived rows) at passes
      rw [complete] at passes
      exact ⟨⟨complete, passes.1⟩, passes.2⟩
    · exact absurd passes stopped

/-- The forked chain of the race is broken at its second row.  It verifies if
the query fails, and if it breaks off after the first row. -/
theorem forked_chain_verifies_unread :
    let db := (appends runtime.hashing some Sample.pair
      Sample.raced).history.state
    let unstarted : Cursor := ⟨false, none, fun _ => true⟩
    let brokenOff : Cursor := ⟨true, some 1, fun _ => true⟩
    verifyChain runtime.hashing some db "acme" = 1 ∧
      unstarted.verifyChain runtime.hashing some db "acme" = -1 ∧
      brokenOff.verifyChain runtime.hashing some db "acme" = -1 ∧
      unstarted.arrived (db.receiptsOf some "acme") = [] ∧
      (brokenOff.arrived (db.receiptsOf some "acme")).length = 1 := by
  decide +kernel

end Postgres
end SettleAgent
