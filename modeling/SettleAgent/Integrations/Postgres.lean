import SettleAgent.Integrations.Provider

/-!
# The Postgres integration

`postgres.query` runs one read-only statement and returns at most a hundred
rows.  The loop over the rows asks for the next row before it looks at the
limit, and the transaction is committed while the rows may still be open.
-/

namespace SettleAgent
namespace Integrations

/-! ## The statement -/

/-- How an accepted statement begins, in upper case. -/
def readOnlyStarts : List String :=
  ["SELECT", "WITH", "VALUES", "TABLE", "EXPLAIN"]

/-- `strings.TrimRight` with semicolons and white space. -/
def trimStatement (text : String) : String :=
  String.ofList (text.toList.reverse.dropWhile fun char =>
    char = ';' || char = ' ' || char = '\t' || char = '\n').reverse

/-- The checks before anything is sent: the statement that will be. -/
def checkQuery (runtime : Runtime) (credential : Option String)
    (action : TxnAction) : Except String String :=
  match credential with
  | none => .error "postgres integration not configured for this org"
  | some _ =>
      match strArg action.arguments ["sql", "query"] with
      | none => .error "postgres.query needs a sql string"
      | some sql =>
          let body := runtime.trimSpace sql
          let upper := runtime.toUpper body
          if !readOnlyStarts.any (hasPrefix upper) then
            .error ("postgres.query executes read-only statements (SELECT/WITH/VALUES/TABLE/EXPLAIN); got " ++
              truncateText body 20)
          else
            let trimmed := trimStatement body
            if trimmed.toList.contains ';' then
              .error "postgres.query rejects multi-statement input"
            else .ok trimmed

/-! ## The rows -/

/-- Where the rows have been left: closed after the last one, or open at some
row with this many behind it. -/
inductive RowCursor : Type
  | closed
  | opened (unread : Nat)

/-- The rows of a query, each with its values or with the error in decoding
them, and the error that ends the iteration, if one does. -/
structure ResultSet where
  columns : List String
  rows : List (Except String (List Value))
  fault : Option String

/-- What a call of the handler meets at the database: the errors of connecting,
of opening the transaction and of setting the timeout, the result of the query,
and the error of the commit, which may depend on the rows still being open. -/
structure Database where
  unreachable : Option String
  unopened : Option String
  unguarded : Option String
  queried : Except String ResultSet
  uncommitted : RowCursor → Option String

/-- The entry of a map is replaced or added. -/
def assign (fields : List (String × Value)) (entry : String × Value) :
    List (String × Value) :=
  fields.filter (fun field => field.1 ≠ entry.1) ++ [entry]

/-- A row as a map from columns to values. -/
def rowObject (columns : List String) (values : List Value) : Value :=
  .object ((columns.zip values).foldl assign [])

theorem foldl_assign {fields entries : List (String × Value)}
    (distinct : ((fields ++ entries).map Prod.fst).Nodup) :
    entries.foldl assign fields = fields ++ entries := by
  induction entries generalizing fields with
  | nil => simp
  | cons entry rest inductionHypothesis =>
      have new : ∀ field ∈ fields, field.1 ≠ entry.1 := by
        intro field member same
        rw [List.map_append, List.nodup_append] at distinct
        exact distinct.2.2 _ (List.mem_map_of_mem member) _
          (List.mem_cons_self ..) same
      have kept : fields.filter (fun field => field.1 ≠ entry.1) = fields := by
        simpa [List.filter_eq_self] using new
      have split : fields ++ entry :: rest = (fields ++ [entry]) ++ rest := by
        simp
      rw [List.foldl_cons, assign, kept, split]
      exact inductionHypothesis (split ▸ distinct)

/-- Where no two columns have one name, a row holds every value. -/
theorem rowObject_of_nodup {columns : List String} {values : List Value}
    (distinct : columns.Nodup) (width : columns.length ≤ values.length) :
    rowObject columns values = .object (columns.zip values) := by
  rw [rowObject, foldl_assign, List.nil_append]
  rwa [List.nil_append, List.map_fst_zip width]

/-- The number of rows that are returned. -/
def rowLimit : Nat := 100

/-- The loop over the rows: what it has collected, and where it leaves them. -/
def collectRows (columns : List String) :
    List (Except String (List Value)) → List Value →
      Except String (List Value × RowCursor)
  | [], out => .ok (out, .closed)
  | row :: rest, out =>
      -- `Next` has read the row by the time the limit is tested.
      if out.length < rowLimit then
        match row with
        | .error error => .error error
        | .ok values =>
            collectRows columns rest (out ++ [rowObject columns values])
      else .ok (out, .opened rest.length)

/-- The error of the iteration, as `rows.Err` reports it. -/
def ResultSet.err (result : ResultSet) : RowCursor → Option String
  | .closed => result.fault
  | .opened _ => none

/-- What the handler returns. -/
def queryResult (columns : List String) (rows : List Value)
    (truncated : Bool) : Object :=
  some [("columns", .strings columns), ("rows", .slice rows),
    ("truncated", .bool truncated)]

/-- From the rows to the result. -/
def readResult (database : Database) (result : ResultSet) :
    Except ToolError Object :=
  match collectRows result.columns result.rows [] with
  | .error error =>
      .error (.plain ("postgres row decode failed: " ++ error))
  | .ok (out, cursor) =>
      match result.err cursor with
      | some error => .error (.plain ("postgres rows failed: " ++ error))
      | none =>
          match database.uncommitted cursor with
          | some error => .error (.plain ("postgres commit failed: " ++ error))
          | none => .ok (queryResult result.columns out
              (decide (out.length = rowLimit)))

def postgresQueryHandler (runtime : Runtime) (database : Database)
    (credential : Option String) (action : TxnAction) :
    Except ToolError Object :=
  match checkQuery runtime credential action with
  | .error error => .error (.plain error)
  | .ok _ =>
      match database.unreachable with
      | some error => .error (.uncertain
          ("postgres unreachable (may be transient): " ++ error))
      | none =>
          match database.unopened with
          | some error => .error (.plain ("postgres begin failed: " ++ error))
          | none =>
              match database.unguarded with
              | some error =>
                  .error (.plain ("postgres guard failed: " ++ error))
              | none =>
                  match database.queried with
                  | .error error =>
                      .error (.plain ("postgres query failed: " ++ error))
                  | .ok result => readResult database result

/-! ## What is returned -/

/-- The rows up to the limit are collected.  If there are no more, the last
`Next` closes them; otherwise one more has been read. -/
theorem collectRows_ok (columns : List String) (rows : List (List Value))
    {out : List Value} (within : out.length ≤ rowLimit) :
    collectRows columns (rows.map .ok) out = .ok
      (out ++ (rows.take (rowLimit - out.length)).map (rowObject columns),
        if out.length + rows.length ≤ rowLimit then .closed
        else .opened (out.length + rows.length - rowLimit - 1)) := by
  induction rows generalizing out with
  | nil => simp [collectRows, within]
  | cons row rest inductionHypothesis =>
      rw [List.map_cons, collectRows]
      by_cases room : out.length < rowLimit
      · have more : (out ++ [rowObject columns row]).length ≤ rowLimit := by
          simp only [List.length_append, List.length_singleton]
          omega
        have count : (out ++ [rowObject columns row]).length + rest.length =
            out.length + (row :: rest).length := by
          simp only [List.length_append, List.length_cons, List.length_nil]
          omega
        have left : rowLimit - out.length =
            rowLimit - (out ++ [rowObject columns row]).length + 1 := by
          simp only [List.length_append, List.length_singleton]
          omega
        rw [if_pos room, inductionHypothesis more, count, left,
          List.take_succ_cons, List.map_cons, List.append_assoc]
        rfl
      · have full : out.length = rowLimit := by
          omega
        have beyond : ¬ out.length + (row :: rest).length ≤ rowLimit := by
          rw [List.length_cons]
          omega
        have unread : out.length + (row :: rest).length - rowLimit - 1 =
            rest.length := by
          rw [List.length_cons]
          omega
        rw [if_neg room, if_neg beyond, unread, full, Nat.sub_self]
        simp

/-- A query that is accepted, and whose rows are all delivered.  The commit
fails while rows are open with unread ones among them, and succeeds once they
are closed. -/
structure Delivers (runtime : Runtime) (database : Database)
    (credential : Option String) (action : TxnAction) (columns : List String)
    (rows : List (List Value)) : Prop where
  accepted : (checkQuery runtime credential action).isOk = true
  reachable : database.unreachable = none
  begun : database.unopened = none
  guarded : database.unguarded = none
  queried : database.queried = .ok ⟨columns, rows.map .ok, none⟩
  blocked : ∀ unread, 0 < unread →
    (database.uncommitted (.opened unread)).isSome = true
  settled : database.uncommitted .closed = none

theorem Delivers.handler {runtime : Runtime} {database : Database}
    {credential : Option String} {action : TxnAction} {columns : List String}
    {rows : List (List Value)}
    (delivers : Delivers runtime database credential action columns rows) :
    postgresQueryHandler runtime database credential action =
      readResult database ⟨columns, rows.map .ok, none⟩ := by
  have accepted := delivers.accepted
  unfold postgresQueryHandler
  cases checked : checkQuery runtime credential action with
  | error error =>
      rw [checked] at accepted
      cases accepted
  | ok statement =>
      simp only [delivers.reachable, delivers.begun, delivers.guarded,
        delivers.queried]

/-- Up to the limit everything is read and the rows are closed. -/
theorem readResult_of_le {database : Database} {columns : List String}
    {rows : List (List Value)} (few : rows.length ≤ rowLimit)
    (settled : database.uncommitted .closed = none) :
    readResult database ⟨columns, rows.map .ok, none⟩ =
      .ok (queryResult columns (rows.map (rowObject columns))
        (decide (rows.length = rowLimit))) := by
  have collected := @collectRows_ok columns rows [] (Nat.zero_le _)
  have all : rows.take rowLimit = rows := List.take_of_length_le few
  rw [List.length_nil, Nat.zero_add, if_pos few, Nat.sub_zero,
    List.nil_append, all] at collected
  simp only [readResult, collected, ResultSet.err, settled, List.length_map]

/-- Beyond the limit one more row is read, and the rows stay open. -/
theorem collectRows_of_lt {columns : List String} {rows : List (List Value)}
    (many : rowLimit < rows.length) :
    collectRows columns (rows.map .ok) [] =
      .ok ((rows.take rowLimit).map (rowObject columns),
        .opened (rows.length - rowLimit - 1)) := by
  have collected := @collectRows_ok columns rows [] (Nat.zero_le _)
  rwa [List.length_nil, Nat.zero_add, if_neg (by omega), Nat.sub_zero,
    List.nil_append] at collected

theorem readResult_of_committed {database : Database} {columns : List String}
    {rows : List (List Value)} (many : rowLimit < rows.length)
    (committed : database.uncommitted
      (.opened (rows.length - rowLimit - 1)) = none) :
    readResult database ⟨columns, rows.map .ok, none⟩ =
      .ok (queryResult columns
        ((rows.take rowLimit).map (rowObject columns)) true) := by
  have count : ((rows.take rowLimit).map (rowObject columns)).length =
      rowLimit := by
    rw [List.length_map, List.length_take_of_le many.le]
  simp only [readResult, collectRows_of_lt many, ResultSet.err, committed,
    count, decide_true]

theorem readResult_of_uncommitted {database : Database}
    {columns : List String} {rows : List (List Value)} {error : String}
    (many : rowLimit < rows.length)
    (fails : database.uncommitted
      (.opened (rows.length - rowLimit - 1)) = some error) :
    readResult database ⟨columns, rows.map .ok, none⟩ =
      .error (.plain ("postgres commit failed: " ++ error)) := by
  simp only [readResult, collectRows_of_lt many, ResultSet.err, fails]

/-- Two results that are the same say the same about missing rows. -/
theorem queryResult_inj {columns : List String} {rows : List Value}
    {left right : Bool} :
    (Except.ok (queryResult columns rows left) : Except ToolError Object) =
        .ok (queryResult columns rows right) ↔ left = right := by
  constructor
  · intro same
    simpa [queryResult] using same
  · rintro rfl
    rfl

section Capped

variable {database : Database} {columns : List String}
  {rows : List (List Value)}

/-- Up to the limit all rows are returned, and only a full hundred looks like
more. -/
theorem capped_iff_of_le (few : rows.length ≤ 100)
    (settled : database.uncommitted .closed = none) :
    readResult database ⟨columns, rows.map .ok, none⟩ =
        .ok (queryResult columns ((rows.take 100).map (rowObject columns))
          (decide (100 < rows.length))) ↔ rows.length < 100 := by
  have all : rows.take 100 = rows := List.take_of_length_le few
  rw [readResult_of_le few settled, all, queryResult_inj, decide_eq_decide]
  constructor
  · intro same
    have notFull : rows.length ≠ 100 := fun full => by
      have more := same.mp full
      omega
    omega
  · intro fewer
    constructor
    · intro full
      exact absurd full fewer.ne
    · intro more
      omega

/-- Beyond the limit the result is right exactly if the commit succeeds with
the rows open.  It does not with unread rows, so none is left then. -/
theorem capped_iff_of_lt (many : 100 < rows.length)
    (blocked : ∀ unread, 0 < unread →
      (database.uncommitted (.opened unread)).isSome = true) :
    readResult database ⟨columns, rows.map .ok, none⟩ =
        .ok (queryResult columns ((rows.take 100).map (rowObject columns))
          true) ↔
      rows.length = 101 ∧ database.uncommitted (.opened 0) = none := by
  cases commits : database.uncommitted
      (.opened (rows.length - rowLimit - 1)) with
  | none =>
      have last : rows.length = 101 := by
        by_contra further
        have unread : 0 < rows.length - rowLimit - 1 := by
          have limit : rowLimit = 100 := rfl
          omega
        have fails := blocked _ unread
        rw [commits] at fails
        cases fails
      have committed := commits
      rw [last] at committed
      exact iff_of_true (readResult_of_committed many commits)
        ⟨last, committed⟩
  | some error =>
      rw [readResult_of_uncommitted many commits]
      constructor
      · intro fails
        cases fails
      · rintro ⟨last, committed⟩
        rw [last] at commits
        exact absurd (committed.symm.trans commits) (by simp)

end Capped

/-- The handler returns the first hundred rows, and says that there are more
exactly when there are, if there are fewer than a hundred.  With a hundred and
one it does so if the commit succeeds while the last row is being read.  With
any other number it does not. -/
theorem query_capped_iff {runtime : Runtime} {database : Database}
    {credential : Option String} {action : TxnAction} {columns : List String}
    {rows : List (List Value)}
    (delivers : Delivers runtime database credential action columns rows) :
    postgresQueryHandler runtime database credential action =
        .ok (queryResult columns ((rows.take 100).map (rowObject columns))
          (decide (100 < rows.length))) ↔
      rows.length < 100 ∨
        rows.length = 101 ∧ database.uncommitted (.opened 0) = none := by
  rw [delivers.handler]
  by_cases few : rows.length ≤ 100
  · rw [capped_iff_of_le few delivers.settled]
    constructor
    · exact Or.inl
    · rintro (fewer | ⟨more, _⟩)
      · exact fewer
      · omega
  · have many : 100 < rows.length := Nat.not_le.mp few
    rw [decide_eq_true many, capped_iff_of_lt many delivers.blocked]
    constructor
    · exact Or.inr
    · rintro (fewer | last)
      · omega
      · exact last

end Integrations

namespace Sample

open Integrations

/-- A query for all orders. -/
def selecting : TxnAction where
  orgID := "acme"
  transactionID := "txn"
  tool := "postgres"
  action := "query"
  arguments := some [("sql", .string "SELECT id FROM orders;")]
  classes := [.readOnly]
  amountCents := none
  idempotencyKey := "k"
  status := .allowed

/-- Rows with one number each. -/
def orders (count : Nat) : List (List Value) :=
  List.replicate count [.int 1]

/-- A database with this many orders, whose connection is busy while rows are
open. -/
def ordersDatabase (count : Nat) : Database where
  unreachable := none
  unopened := none
  unguarded := none
  queried := .ok ⟨["id"], (orders count).map .ok, none⟩
  uncommitted
    | .closed => none
    | .opened _ => some "conn busy"

theorem delivers_orders (count : Nat) :
    Delivers runtime (ordersDatabase count) (some "dsn") selecting ["id"]
      (orders count) where
  accepted := by decide +kernel
  reachable := rfl
  begun := rfl
  guarded := rfl
  queried := rfl
  blocked := fun _ _ => rfl
  settled := rfl

end Sample

namespace Integrations

/-- Three rows are returned as they are. -/
theorem query_capped_iff_three :
    postgresQueryHandler Sample.runtime (Sample.ordersDatabase 3) (some "dsn")
        Sample.selecting =
      .ok (queryResult ["id"] (((Sample.orders 3).take 100).map
        (rowObject ["id"])) (decide (100 < (Sample.orders 3).length))) :=
  (query_capped_iff (Sample.delivers_orders 3)).mpr (Or.inl (by decide))

/-- A hundred rows, which are all there are, are said to be truncated, and a
query with more rows fails. -/
theorem full_page_is_truncated :
    postgresQueryHandler Sample.runtime (Sample.ordersDatabase 100)
        (some "dsn") Sample.selecting =
      .ok (queryResult ["id"] ((Sample.orders 100).map (rowObject ["id"]))
        true) ∧
    postgresQueryHandler Sample.runtime (Sample.ordersDatabase 150)
        (some "dsn") Sample.selecting =
      .error (.plain "postgres commit failed: conn busy") := by
  rw [(Sample.delivers_orders 100).handler,
    (Sample.delivers_orders 150).handler]
  constructor
  · exact readResult_of_le (by simp [Sample.orders, rowLimit]) rfl
  · exact @readResult_of_uncommitted _ _ (Sample.orders 150) "conn busy"
      (by simp [Sample.orders, rowLimit]) rfl

end Integrations
end SettleAgent
