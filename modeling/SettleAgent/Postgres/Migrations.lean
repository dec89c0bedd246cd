import SettleAgent.Interaction.Pool
import Mathlib.Data.List.Sort
import Mathlib.Data.String.Basic

/-!
# Migrations

`Migrate` runs at every boot of every process.  For each file in the order of
the names it asks whether the file was applied, and if not applies it and
records its name, in one transaction.  What a transaction has written is seen by
nobody else until it commits, so its commit is the one step that changes the
schema, and the primary key of `schema_migrations` is what may prevent it.
Every statement may fail, and a process may stop between any two of them.
-/

namespace SettleAgent
namespace Postgres

open Interaction

/-! ## Statements -/

/-- The rows of `schema_migrations`, once the table exists, and the files whose
statements have taken effect, in this order. -/
structure Schema where
  versions : Option (List String)
  effects : List String

namespace Schema

def empty : Schema where
  versions := none
  effects := []

/-- The names in `schema_migrations`. -/
def recorded (schema : Schema) : List String := schema.versions.getD []

end Schema

/-- What `Migrate` sends to the database. -/
inductive MigrateStatement : Type
  | createTable
  | selectApplied (name : String)
  | beginTx
  | execFile (name : String)
  | insertVersion (name : String)
  | rollback
  /-- Commit a transaction that has executed a file and inserted a name. -/
  | commit (file name : String)

/-- Type of the reply: whether the statement succeeds, or whether the row was
found. -/
@[reducible] def MigrateStatement.Resp : MigrateStatement → Type
  | rollback => Unit
  | _ => Bool

/-- Whether a statement fails, and if so, whether it took effect all the
same. -/
structure Fault where
  fails : Bool
  applied : Bool

/-- The meaning of the statements.  A transaction commits all that it has
written or nothing, and nothing if its name is recorded already.  An insert that
would have to wait for another transaction is let through and checked then. -/
def Schema.perform : (statement : MigrateStatement) → Fault → Schema →
    statement.Resp × Schema
  | .createTable, fault, schema =>
      (!fault.fails,
        if fault.fails ∧ !fault.applied then schema
        else { schema with versions := some schema.recorded })
  | .selectApplied name, fault, schema =>
      (!fault.fails && decide (name ∈ schema.recorded), schema)
  | .beginTx, fault, schema => (!fault.fails, schema)
  | .execFile _, fault, schema => (!fault.fails, schema)
  | .insertVersion name, fault, schema =>
      (!fault.fails && schema.versions.isSome &&
        decide (name ∉ schema.recorded), schema)
  | .rollback, _, schema => ((), schema)
  | .commit file name, fault, schema =>
      if name ∈ schema.recorded ∨ fault.fails ∧ !fault.applied then
        (false, schema)
      else
        (!fault.fails,
          { versions := schema.versions.map fun names => names ++ [name]
            effects := schema.effects ++ [file] })

/-! ## The program -/

/-- The error that `Migrate` returns. -/
inductive MigrateError : Type
  | schemaMigrations
  | beginTx
  | migration (name : String)
  | insertVersion (name : String)
  | commit (name : String)

/-- Send one statement. -/
abbrev issue (statement : MigrateStatement) :
    Prog MigrateStatement MigrateStatement.Resp statement.Resp :=
  Prog.perform statement

/-- The loop over the sorted names. -/
def applyAll : List String →
    Prog MigrateStatement MigrateStatement.Resp (Except MigrateError Unit)
  | [] => return .ok ()
  | name :: names => do
      if ← issue (.selectApplied name) then applyAll names
      else if ← issue .beginTx then
        if ← issue (.execFile name) then
          if ← issue (.insertVersion name) then
            if ← issue (.commit name name) then applyAll names
            else return .error (.commit name)
          else do
            issue .rollback
            return .error (.insertVersion name)
        else do
          issue .rollback
          return .error (.migration name)
      else return .error .beginTx

/-- An entry of the directory of migrations. -/
structure DirEntry where
  name : String
  isDir : Bool

/-- The files in the order of their names. -/
def migrationNames (entries : List DirEntry) : List String :=
  ((entries.filter fun entry => !entry.isDir).map DirEntry.name).insertionSort
    fun first second => first ≤ second

/-- `Migrate`. -/
def migrate (entries : List DirEntry) :
    Prog MigrateStatement MigrateStatement.Resp (Except MigrateError Unit) := do
  if ← issue .createTable then applyAll (migrationNames entries)
  else return .error .schemaMigrations

/-- A run of `Migrate` in every thread, interleaved by a schedule, from an empty
database on. -/
def boots (entries : List DirEntry) (schedule : List (Nat × Fault)) :
    Pool MigrateStatement MigrateStatement.Resp Fault Schema
      (Except MigrateError Unit) :=
  (Pool.start Schema.empty fun _ => migrate entries).run Schema.perform schedule

/-! ## The role of a run -/

/-- What a run knows: that the table exists, and which names are recorded. -/
structure Known where
  tracked : Bool := false
  names : List String := []

def Known.learn (known : Known) :
    (statement : MigrateStatement) → statement.Resp → Known
  | .createTable, done => { known with tracked := known.tracked || done }
  | .selectApplied name, found =>
      if found then { known with names := known.names ++ [name] } else known
  | .commit _ name, done =>
      if done then { known with names := known.names ++ [name] } else known
  | .beginTx, _ | .execFile _, _ | .insertVersion _, _ | .rollback, _ => known

/-- A run commits a file under its own name, and only when it knows that all
files before it are recorded. -/
def Known.May (order : List String) (known : Known) : MigrateStatement → Prop
  | .commit file name => file = name ∧ known.tracked = true ∧
      ∃ front back, order = front ++ name :: back ∧
        ∀ earlier ∈ front, earlier ∈ known.names
  | _ => True

def migrating (order : List String) :
    Role MigrateStatement MigrateStatement.Resp Known where
  learn := Known.learn
  may := Known.May order
  fits := fun _ _ => True

/-- A run that succeeds knows that everything is recorded. -/
def Finished (order : List String) (result : Except MigrateError Unit)
    (known : Known) : Prop :=
  result = .ok () → ∀ name ∈ order, name ∈ known.names

theorem Finished.error {order : List String} (failure : MigrateError)
    (known : Known) : Finished order (.error failure) known := by
  rintro ⟨⟩

theorem applyAll_obeys (front names : List String) {known : Known}
    (tracked : known.tracked = true)
    (recorded : ∀ name ∈ front, name ∈ known.names) :
    (applyAll names).Obeys (migrating (front ++ names))
      (Finished (front ++ names)) known := by
  induction names generalizing front known with
  | nil =>
      intro _ name member
      rw [List.append_nil] at member
      exact recorded name member
  | cons name names inductionHypothesis =>
      -- Once the name is known, the rest of the loop continues its front.
      have rest : (applyAll names).Obeys (migrating (front ++ name :: names))
          (Finished (front ++ name :: names))
          { known with names := known.names ++ [name] } := by
        rw [List.append_cons]
        refine inductionHypothesis (front ++ [name]) tracked ?_
        intro earlier member
        rcases List.mem_append.mp member with before | last
        · exact List.mem_append_left _ (recorded earlier before)
        · exact List.mem_append_right _ last
      refine ⟨trivial, ?_⟩
      rintro (_ | _) _
      · refine ⟨trivial, ?_⟩
        rintro (_ | _) _
        · exact Finished.error _ _
        refine ⟨trivial, ?_⟩
        rintro (_ | _) _
        · exact ⟨trivial, fun _ _ => Finished.error _ _⟩
        refine ⟨trivial, ?_⟩
        rintro (_ | _) _
        · exact ⟨trivial, fun _ _ => Finished.error _ _⟩
        refine ⟨⟨rfl, tracked, front, names, rfl, recorded⟩, ?_⟩
        rintro (_ | _) _
        · exact Finished.error _ _
        · exact rest
      · exact rest

theorem migrate_obeys (entries : List DirEntry) :
    (migrate entries).Obeys (migrating (migrationNames entries))
      (Finished (migrationNames entries)) {} := by
  refine ⟨trivial, ?_⟩
  rintro (_ | _) _
  · exact Finished.error _ _
  · exact applyAll_obeys [] (migrationNames entries) rfl
      fun name member => absurd member List.not_mem_nil

/-! ## Runs -/

/-- Only a commit changes what is recorded and what has taken effect, and only
for a name that is not recorded. -/
theorem perform_cases (statement : MigrateStatement) (fault : Fault)
    (schema : Schema) :
    let after := (schema.perform statement fault).2
    (after.recorded = schema.recorded ∧ after.effects = schema.effects ∧
      (schema.versions.isSome = true → after.versions.isSome = true)) ∨
    ∃ file name, statement = .commit file name ∧ name ∉ schema.recorded ∧
      after = { versions := schema.versions.map fun names => names ++ [name]
                effects := schema.effects ++ [file] } := by
  cases statement with
  | createTable =>
      refine .inl ?_
      simp only [Schema.perform]
      split
      · exact ⟨rfl, rfl, id⟩
      · exact ⟨rfl, rfl, fun _ => rfl⟩
  | commit file name =>
      simp only [Schema.perform]
      split
      · exact .inl ⟨rfl, rfl, id⟩
      · rename_i passes
        exact .inr ⟨file, name, rfl, fun present => passes (.inl present), rfl⟩
  | _ => exact .inl ⟨rfl, rfl, id⟩

/-- What is known is true of the schema. -/
structure Known.Holds (known : Known) (schema : Schema) : Prop where
  table : known.tracked = true → schema.versions.isSome = true
  recorded : ∀ name ∈ known.names, name ∈ schema.recorded

variable {order : List String} {known : Known} {schema : Schema}
  {statement : MigrateStatement} {fault : Fault}

theorem recorded_map (name : String) (table : schema.versions.isSome = true) :
    ({ versions := schema.versions.map fun names => names ++ [name]
       effects := effects } : Schema).recorded = schema.recorded ++ [name] := by
  obtain ⟨rows, present⟩ := Option.isSome_iff_exists.mp table
  simp [Schema.recorded, present]

/-- What is recorded stays recorded. -/
theorem recorded_perform (name : String) (present : name ∈ schema.recorded) :
    name ∈ (schema.perform statement fault).2.recorded := by
  have table : schema.versions.isSome = true := by
    cases versions : schema.versions with
    | none => simp [Schema.recorded, versions] at present
    | some rows => rfl
  rcases perform_cases statement fault schema with
    ⟨same, _⟩ | ⟨_, _, _, _, done⟩
  · rw [same]
    exact present
  · rw [done, recorded_map _ table]
    exact List.mem_append_left _ present

theorem Known.Holds.perform (holds : known.Holds schema) :
    known.Holds (schema.perform statement fault).2 := by
  refine ⟨fun tracked => ?_, fun name member =>
    recorded_perform name (holds.recorded name member)⟩
  have table := holds.table tracked
  rcases perform_cases statement fault schema with
    ⟨_, _, kept⟩ | ⟨_, _, _, _, done⟩
  · exact kept table
  · rw [done, Option.isSome_map]
    exact table

theorem Known.Holds.add (holds : known.Holds schema) {name : String}
    (present : name ∈ schema.recorded) :
    ({ known with names := known.names ++ [name] } : Known).Holds schema := by
  refine ⟨holds.table, ?_⟩
  intro other member
  rcases List.mem_append.mp member with old | new
  · exact holds.recorded other old
  · rw [List.mem_singleton.mp new]
    exact present

/-- What is learned from a reply is true afterwards. -/
theorem Known.Holds.learn (holds : known.Holds schema)
    (may : known.May order statement) :
    (known.learn statement (schema.perform statement fault).1).Holds
      (schema.perform statement fault).2 := by
  have kept : known.Holds (schema.perform statement fault).2 := holds.perform
  cases statement with
  | createTable =>
      refine ⟨?_, kept.recorded⟩
      intro tracked
      cases fails : fault.fails with
      | false => simp [Schema.perform, fails]
      | true =>
          apply kept.table
          simpa [Known.learn, Schema.perform, fails] using tracked
  | selectApplied name =>
      simp only [Known.learn]
      split
      · rename_i found
        simp only [Schema.perform, Bool.and_eq_true, decide_eq_true_eq] at found
        exact kept.add found.2
      · exact kept
  | commit file name =>
      simp only [Known.learn]
      split
      · rename_i done
        apply kept.add
        simp only [Schema.perform] at done ⊢
        split
        · rename_i refused
          rw [if_pos refused] at done
          cases done
        · rw [recorded_map name (holds.table may.2.1)]
          exact List.mem_append_right _ (List.mem_singleton_self name)
      · exact kept
  | _ => exact kept

/-- The names that have taken effect are those of the first files, and a commit
of the next one after known names keeps it so. -/
theorem exists_take_concat {order applied front back : List String}
    {name : String}
    (cut : ∃ count, ∀ other, other ∈ applied ↔ other ∈ order.take count)
    (split : order = front ++ name :: back)
    (before : ∀ earlier ∈ front, earlier ∈ applied)
    (unapplied : name ∉ applied) :
    ∃ count, ∀ other, other ∈ applied ++ [name] ↔
      other ∈ order.take count := by
  obtain ⟨count, taken⟩ := cut
  -- The cut is not behind the name, so it holds nothing but the front.
  have short : count ≤ front.length := by
    by_contra long
    apply unapplied
    rw [taken, split, List.take_append]
    apply List.mem_append_right
    obtain ⟨more, same⟩ := Nat.exists_eq_add_of_lt (Nat.lt_of_not_le long)
    rw [show count - front.length = more + 1 by omega, List.take_succ_cons]
    exact List.mem_cons_self
  have within : ∀ other ∈ applied, other ∈ front := by
    intro other member
    rw [taken, split, List.take_append_of_le_length short] at member
    exact List.mem_of_mem_take member
  refine ⟨front.length + 1, fun other => ?_⟩
  rw [split, List.take_length_add_append, List.take_succ_cons, List.take_zero,
    List.mem_append, List.mem_append]
  constructor
  · rintro (old | new)
    · exact .inl (within other old)
    · exact .inr new
  · rintro (old | new)
    · exact .inl (before other old)
    · exact .inr new

/-- What holds after every step: every file that has taken effect is recorded,
has done so once, and comes before all that have not, and what the runs know is
true. -/
structure Migrated (order : List String)
    (history : History MigrateStatement Fault Schema) : Prop where
  recorded : history.state.recorded = history.state.effects
  once : history.state.effects.Nodup
  ordered : ∃ count, ∀ name, name ∈ history.state.effects ↔
    name ∈ order.take count
  known : ∀ thread, (history.view Schema.perform (migrating order) {}
    thread).Holds history.state

theorem Migrated.start (order : List String) :
    Migrated order (History.start Schema.empty) where
  recorded := rfl
  once := List.nodup_nil
  ordered := ⟨0, fun _ => Iff.rfl⟩
  known := fun _ => ⟨fun tracked => absurd tracked Bool.false_ne_true,
    fun _ member => absurd member List.not_mem_nil⟩

theorem Migrated.next {history : History MigrateStatement Fault Schema}
    {thread : Nat} (migrated : Migrated order history)
    (may : (history.view Schema.perform (migrating order) {} thread).May order
      statement) (fault : Fault) :
    Migrated order (history.next Schema.perform thread statement fault) := by
  have knows : ∀ other, ((history.next Schema.perform thread statement
      fault).view Schema.perform (migrating order) {} other).Holds
        (history.next Schema.perform thread statement fault).state := by
    intro other
    by_cases same : other = thread
    · rw [same, History.view_next_self]
      exact (migrated.known thread).learn may
    · rw [History.view_next_of_ne _ _ _ _ _ same]
      exact (migrated.known other).perform
  rcases perform_cases statement fault history.state with
    ⟨rows, effects, _⟩ | ⟨file, name, rfl, unrecorded, done⟩
  · refine ⟨?_, ?_, ?_, knows⟩
    · exact rows.trans (migrated.recorded.trans effects.symm)
    · simp only [History.next, effects]
      exact migrated.once
    · simp only [History.next, effects]
      exact migrated.ordered
  · obtain ⟨rfl, tracked, front, back, split, before⟩ := may
    have own := migrated.known thread
    have unapplied : file ∉ history.state.effects := by
      rw [← migrated.recorded]
      exact unrecorded
    refine ⟨?_, ?_, ?_, knows⟩
    · simp only [History.next, done]
      rw [recorded_map file (own.table tracked), migrated.recorded]
    · simp only [History.next, done]
      rw [← List.concat_eq_append]
      exact migrated.once.concat unapplied
    · simp only [History.next, done]
      apply exists_take_concat migrated.ordered split ?_ unapplied
      intro earlier member
      rw [← migrated.recorded]
      exact own.recorded earlier (before earlier member)

/-- Any number of runs of `Migrate`, interleaved in any order and with any
statement failing at any point: the files that have taken effect are the first
ones in the order of their names, each has done so once and is recorded, and
when a run has returned without an error, all of them have. -/
theorem migrations_applied (entries : List DirEntry)
    (schedule : List (Nat × Fault)) :
    let pool := boots entries schedule
    let schema := pool.history.state
    (∃ count, ∀ name, name ∈ schema.effects ↔
        name ∈ (migrationNames entries).take count) ∧
      schema.effects.Nodup ∧ schema.recorded = schema.effects ∧
      ∀ thread, pool.threads thread = .ret (.ok ()) →
        ∀ name ∈ migrationNames entries, name ∈ schema.effects := by
  intro pool schema
  have migrated : Migrated (migrationNames entries) pool.history :=
    (Pool.run_sound Schema.perform (fun _ _ _ _ _ => trivial)
      (fun _ _ _ fault migrated may => migrated.next may fault)
      (fun _ _ migrated =>
        ⟨migrated.recorded, migrated.once, migrated.ordered, migrated.known⟩)
      (Pool.sound_start Schema.perform (Migrated.start _)
        fun _ => migrate_obeys entries) schedule).1
  refine ⟨migrated.ordered, migrated.once, migrated.recorded, ?_⟩
  intro thread returned name member
  have ends := Pool.run_obeys Schema.perform (fun _ _ _ => trivial)
    (Pool.start Schema.empty fun _ => migrate entries)
    (fun _ => migrate_obeys entries) schedule thread
  change (pool.threads thread).Obeys _ _ _ at ends
  rw [returned] at ends
  rw [← migrated.recorded]
  exact (migrated.known thread).recorded name (ends rfl name member)

/-- Two processes boot side by side.  The second one finds the first file not
recorded, loses the race for it and stops; the first one goes on. -/
example :
    let healthy : Fault := ⟨false, false⟩
    let turns := [0, 1, 0, 1, 0, 1, 0, 1, 0, 0, 1, 1, 0, 0, 0, 0, 0, 0]
    (boots [⟨"002_domain.sql", false⟩, ⟨"001_init.sql", false⟩]
      (turns.map fun thread => (thread, healthy))).history.state.effects =
        ["001_init.sql", "002_domain.sql"] := by
  decide +kernel

end Postgres
end SettleAgent
