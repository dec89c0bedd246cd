import SettleAgent.Actions
import SettleAgent.Data.Cut

/-!
# Histories of registrations

A registry is what a sequence of `Register` calls has made of the default one.
Every part of an entry (classes, handler, compensator) comes from the latest
call for its key that gave that part, so the parts of one entry may come from
different calls.  The key is the tool and the action joined by a dot.
-/

namespace SettleAgent

/-- The arguments of a `Register` call. -/
structure Registration where
  tool : String
  action : String
  classes : List ActionClass
  handler : Option ToolHandler
  compensator : Option Compensator

variable (calls : List Registration)

namespace Registration

def key (call : Registration) : String :=
  Registry.key call.tool call.action

/-- The classes that the call stores. -/
def storedClasses (call : Registration) : List ActionClass :=
  if call.classes = [] then [.unknown] else call.classes

/-- All the classes that the call stores are read-only.  A call without
classes stores an unknown one. -/
def readsOnly (call : Registration) : Bool :=
  call.storedClasses.all fun risk => risk = .readOnly

/-- What the latest of the calls for a key that gives a part gives. -/
def latest {β : Type} (part : Registration → Option β) (key : String) :
    List Registration → Option β
  | [] => none
  | call :: rest =>
      (latest part key rest).or (if call.key = key then part call else none)

variable {β : Type} {part : Registration → Option β} {key : String}

theorem latest_append (first second : List Registration) :
    latest part key (first ++ second) =
      (latest part key second).or (latest part key first) := by
  induction first with
  | nil => simp [latest]
  | cons call rest inductionHypothesis =>
      rw [List.cons_append, latest, inductionHypothesis, latest,
        Option.or_assoc]

theorem latest_eq_none {calls : List Registration} :
    latest part key calls = none ↔
      ∀ call ∈ calls, call.key = key → part call = none := by
  induction calls with
  | nil => simp [latest]
  | cons call rest inductionHypothesis =>
      simp [latest, Option.or_eq_none_iff, inductionHypothesis, and_comm]

theorem key_of_latest {calls : List Registration} {value : β}
    (found : latest part key calls = some value) :
    ∃ call ∈ calls, call.key = key ∧ part call = some value := by
  induction calls with
  | nil => simp [latest] at found
  | cons call rest inductionHypothesis =>
      rw [latest, Option.or_eq_some_iff] at found
      rcases found with later | ⟨_, own⟩
      · obtain ⟨other, member, same, given⟩ := inductionHypothesis later
        exact ⟨other, List.mem_cons_of_mem call member, same, given⟩
      · by_cases same : call.key = key
        · rw [if_pos same] at own
          exact ⟨call, List.mem_cons_self, same, own⟩
        · simp [same] at own

/-- The latest of the calls for a key that gives a part. -/
def provider (part : Registration → Option β) (key : String)
    (calls : List Registration) : Option Registration :=
  latest (fun call => (part call).map fun _ => call) key calls

theorem provider_cons (call : Registration) (rest : List Registration) :
    provider part key (call :: rest) = (provider part key rest).or
      (if call.key = key then (part call).map fun _ => call else none) := rfl

theorem provider_eq_none {calls : List Registration} :
    provider part key calls = none ↔
      ∀ call ∈ calls, call.key = key → part call = none := by
  simp [provider, latest_eq_none]

theorem latest_eq_bind_provider :
    latest part key calls = (provider part key calls).bind part := by
  induction calls with
  | nil => rfl
  | cons call rest inductionHypothesis =>
      rw [latest, inductionHypothesis, provider_cons]
      cases later : provider part key rest with
      | none =>
          by_cases same : call.key = key
          · cases given : part call <;> simp [same, given]
          · simp [same]
      | some other =>
          obtain ⟨source, _, _, given⟩ := key_of_latest later
          obtain ⟨value, stored, rfl⟩ := Option.map_eq_some_iff.mp given
          simp [stored]

theorem provider_eq_some {calls : List Registration} {call : Registration} :
    provider part key calls = some call ↔
      call.key = key ∧ part call ≠ none ∧ ∃ before after,
        calls = before ++ call :: after ∧
          ∀ later ∈ after, later.key = key → part later = none := by
  constructor
  · intro found
    induction calls with
    | nil => simp [provider, latest] at found
    | cons head rest inductionHypothesis =>
        rw [provider_cons, Option.or_eq_some_iff] at found
        rcases found with later | ⟨noneLater, own⟩
        · obtain ⟨same, given, before, after, split, last⟩ :=
            inductionHypothesis later
          exact ⟨same, given, head :: before, after, by rw [split]; rfl, last⟩
        · by_cases same : head.key = key
          · rw [if_pos same] at own
            obtain ⟨value, stored, rfl⟩ := Option.map_eq_some_iff.mp own
            refine ⟨same, by simp [stored], [], rest, rfl, ?_⟩
            exact provider_eq_none.mp noneLater
          · simp [same] at own
  · rintro ⟨same, given, before, after, rfl, last⟩
    have noneLater := provider_eq_none.mpr last
    obtain ⟨value, stored⟩ := Option.ne_none_iff_exists'.mp given
    rw [provider, latest_append, ← provider, provider_cons, noneLater]
    simp [same, stored]

end Registration

namespace Registry

open Registration

/-- Make a sequence of `Register` calls. -/
def registerAll (registry : Registry) (calls : List Registration) : Registry :=
  calls.foldl (fun current call =>
    current.register call.tool call.action call.classes call.handler
      call.compensator) registry

variable {registry : Registry} {key : String}

/-- The registry before any call. -/
def blank : Registry :=
  { handlers := ∅, compensators := ∅, reconcilers := ∅, classMeta := ∅ }

theorem get?_set_given {V : Type} (table : Table V) (own : String) (given : V) :
    (table.set own given).get? key =
      (if own = key then some given else none).or (table.get? key) := by
  rw [Table.get?_set]
  by_cases same : key = own
  · simp [same]
  · simp [same, Ne.symm same]

/-- A table into which every call writes its part, if it gives one, ends up with
the latest part. -/
theorem get?_registerAll
    {V : Type} {table : Registry → Table V} {part : Registration → Option V}
    (writes : ∀ (registry : Registry) (call : Registration),
      (table (registry.register call.tool call.action call.classes call.handler
        call.compensator)).get? key =
      (if call.key = key then part call else none).or
        ((table registry).get? key))
    (calls : List Registration) :
    (table (registry.registerAll calls)).get? key =
      (latest part key calls).or ((table registry).get? key) := by
  induction calls generalizing registry with
  | nil => rfl
  | cons call rest inductionHypothesis =>
      rw [registerAll, List.foldl_cons, ← registerAll, inductionHypothesis,
        latest, Option.or_assoc, writes]

theorem handlers_registerAll :
    (registry.registerAll calls).handlers.get? key =
      (latest Registration.handler key calls).or
        (registry.handlers.get? key) := by
  refine get?_registerAll ?_ calls
  intro current call
  cases given : call.handler with
  | none => simp [register]
  | some handler => exact get?_set_given current.handlers call.key handler

theorem compensators_registerAll :
    (registry.registerAll calls).compensators.get? key =
      (latest Registration.compensator key calls).or
        (registry.compensators.get? key) := by
  refine get?_registerAll ?_ calls
  intro current call
  cases given : call.compensator with
  | none => simp [register]
  | some compensator =>
      exact get?_set_given current.compensators call.key compensator

theorem classMeta_registerAll :
    (registry.registerAll calls).classMeta.get? key =
      (latest (fun call => some call.storedClasses) key calls).or
        (registry.classMeta.get? key) := by
  refine get?_registerAll ?_ calls
  intro current call
  exact get?_set_given current.classMeta call.key call.storedClasses

/-! ## The default entries as calls -/

/-- Calls that would fill the default registry. -/
def defaultCalls : List Registration :=
  [⟨"crm", "lookup_customer", [.readOnly], some (.mock (some
      [("customer", .string "cust_9182"), ("tier", .string "pro")])), none⟩,
    ⟨"crm", "update_record", [.reversible],
      some (.mock (some [("updated", .bool true)])), some .mock⟩,
    ⟨"stripe", "refund", [.financial, .compensable], some .mockRefund,
      some .mock⟩,
    ⟨"email", "send", [.externalCommunication, .irreversible],
      some (.mock (some [("sent", .bool true)])), none⟩,
    ⟨"fs", "read", [.readOnly],
      some (.mock (some [("content", .string "(mock file)")])), none⟩,
    ⟨"fs", "write", [.reversible],
      some (.mock (some [("written", .bool true)])), some .mock⟩,
    ⟨"http", "fetch", [.readOnly],
      some (.mock (some [("status", .int 200)])), none⟩,
    ⟨"github", "create_issue", [.reversible],
      some (.mock (some [("issue", .int 1)])), some .mock⟩,
    ⟨"shell", "exec", [.privileged, .destructive], some (.refuse
      "shell.exec requires explicit approval and is disabled in sandbox demo"),
      none⟩,
    ⟨"postgres", "delete_database", [.destructive, .privileged, .irreversible],
      some (.refuse
      "refusing to execute destructive db delete in demo without approval path"),
      none⟩,
    ⟨"deploy", "deploy", [.privileged, .compensable],
      some (.mock (some [("deployed", .bool true)])), some .mock⟩,
    ⟨"iam", "grant", [.privileged, .destructive],
      some (.refuse "iam.grant is never executed by policy"), none⟩]

theorem default_handlers :
    default.handlers = (blank.registerAll defaultCalls).handlers := rfl

theorem default_compensators :
    default.compensators.get? key =
      (blank.registerAll defaultCalls).compensators.get? key := by
  apply AList.perm_lookup
  decide +kernel

theorem default_classMeta :
    default.classMeta.get? key =
      (blank.registerAll defaultCalls).classMeta.get? key := by
  apply AList.perm_lookup
  decide +kernel

theorem handlers_eq_latest :
    (default.registerAll calls).handlers.get? key =
      latest Registration.handler key (defaultCalls ++ calls) := by
  rw [handlers_registerAll, default_handlers, handlers_registerAll,
    latest_append]
  simp [blank]

theorem compensators_eq_latest :
    (default.registerAll calls).compensators.get? key =
      latest Registration.compensator key (defaultCalls ++ calls) := by
  rw [compensators_registerAll, default_compensators,
    compensators_registerAll, latest_append]
  simp [blank]

theorem classMeta_eq_latest :
    (default.registerAll calls).classMeta.get? key =
      latest (fun call => some call.storedClasses) key
        (defaultCalls ++ calls) := by
  rw [classMeta_registerAll, default_classMeta, classMeta_registerAll,
    latest_append]
  simp [blank]

/-! ## The parts of one entry -/

/-- The call whose handler `Execute` runs after the calls. -/
def executed (calls : List Registration) (tool action : String) :
    Option Registration :=
  provider Registration.handler (Registry.key tool action)
    (defaultCalls ++ calls)

/-- The call whose classes `Classes` returns after the calls. -/
def classified (calls : List Registration) (tool action : String) :
    Option Registration :=
  provider (fun call => some call.storedClasses) (Registry.key tool action)
    (defaultCalls ++ calls)

variable (tool action : String)

theorem handlers_eq_executed :
    (default.registerAll calls).handlers.get? (Registry.key tool action) =
      (executed calls tool action).bind Registration.handler := by
  rw [handlers_eq_latest, latest_eq_bind_provider, executed]

theorem classes_eq_classified :
    (default.registerAll calls).classes tool action =
      ((classified calls tool action).map Registration.storedClasses).getD
        [.unknown] := by
  rw [classes, classMeta_eq_latest, latest_eq_bind_provider, classified]
  cases provider _ _ _ <;> rfl

/-- `Execute` and `Compensate` run the parts of one call.  Without a
compensator in that call, `Compensate` fails. -/
structure RunsOneCall (registry : Registry) (tool action : String)
    (call : Registration) : Prop where
  executes : registry.handlers.get? (Registry.key tool action) = call.handler
  compensates :
    registry.compensators.get? (Registry.key tool action) = call.compensator
  refuses : call.compensator = none →
    ∀ (outside : Outside) (taken : TxnAction),
      taken.tool = tool → taken.action = action →
        registry.compensate outside taken =
          some ("no compensation defined for " ++ tool ++ "." ++ action ++
            " (treated as irreversible)")

/-- Around the last call for a key that gives a handler, no other call for the
key changes its compensator: a later one gives the same, and if it gives none,
then no earlier one gives any. -/
def Unmixed (key : String) (calls : List Registration) : Prop :=
  ∀ before call after, calls = before ++ call :: after →
    call.key = key → call.handler ≠ none →
    (∀ later ∈ after, later.key = key → later.handler = none) →
      (∀ compensator, latest Registration.compensator key after =
        some compensator → call.compensator = some compensator) ∧
      (call.compensator = none → ∀ earlier ∈ before, earlier.key = key →
        earlier.compensator = none)

/-- The compensator of a split history is that of the call at the split exactly
when the calls around it leave it alone. -/
theorem latest_compensator_iff
    {key : String} {before after : List Registration} {call : Registration}
    (own : call.key = key) :
    latest Registration.compensator key (before ++ call :: after) =
        call.compensator ↔
      (∀ compensator, latest Registration.compensator key after =
        some compensator → call.compensator = some compensator) ∧
      (call.compensator = none → ∀ earlier ∈ before, earlier.key = key →
        earlier.compensator = none) := by
  rw [← latest_eq_none, latest_append, latest, if_pos own]
  cases latest Registration.compensator key after with
  | some later =>
      constructor
      · intro same
        have same : some later = call.compensator := same
        rw [← same]
        exact ⟨fun _ found => found, nofun⟩
      · rintro ⟨agrees, _⟩
        exact (agrees later rfl).symm
  | none =>
      cases call.compensator with
      | some own => simp
      | none => simp

theorem executed_runs_one_call_iff
    (calls : List Registration) (tool action : String) :
    (∀ call, executed calls tool action = some call →
        RunsOneCall (default.registerAll calls) tool action call) ↔
      Unmixed (Registry.key tool action) (defaultCalls ++ calls) := by
  constructor
  · intro runs before call after split own given last
    have found : executed calls tool action = some call :=
      provider_eq_some.mpr ⟨own, given, before, after, split, last⟩
    have compensates := (runs call found).compensates
    rw [compensators_eq_latest, split] at compensates
    exact (latest_compensator_iff own).mp compensates
  · intro unmixed call found
    obtain ⟨own, given, before, after, split, last⟩ :=
      provider_eq_some.mp found
    have compensates : (default.registerAll calls).compensators.get?
        (Registry.key tool action) = call.compensator := by
      rw [compensators_eq_latest, split]
      apply (latest_compensator_iff own).mpr
      exact unmixed before call after split own given last
    refine ⟨by rw [handlers_eq_executed, found]; rfl, compensates, ?_⟩
    intro missing outside taken sameTool sameAction
    subst sameTool sameAction
    rw [compensate, compensates, missing]

/-- The calls of `RegisterReal`. -/
def liveCalls : List Registration :=
  liveHandlers.map fun entry =>
    ⟨entry.1, entry.2.1, entry.2.2.1, some entry.2.2.2, none⟩

theorem registerReal_eq_registerAll (registry : Registry) :
    registry.registerReal false =
      (registry.registerAll liveCalls).registerReconciler "stripe" "refund"
        .stripeRefund := by
  rw [registerAll, liveCalls, List.foldl_map]
  rfl

/-- `RegisterReal` gives the live refund no compensator, but the mock one of
the default registry still runs for it. -/
theorem live_refund_is_compensated_by_mock :
    (default.registerReal false).handlers.get?
        (Registry.key "stripe" "refund") = some .stripeRefund ∧
      (executed liveCalls "stripe" "refund").map Registration.compensator =
        some none ∧
      (default.registerReal false).compensators.get?
        (Registry.key "stripe" "refund") = some .mock ∧
      ¬ ∀ call, executed liveCalls "stripe" "refund" = some call →
        RunsOneCall (default.registerAll liveCalls) "stripe" "refund" call := by
  have provided : (executed liveCalls "stripe" "refund").map
      Registration.compensator = some none := by decide +kernel
  have kept : (default.registerReal false).compensators.get?
      (Registry.key "stripe" "refund") = some .mock := by decide +kernel
  refine ⟨rfl, provided, kept, ?_⟩
  intro runs
  obtain ⟨call, found, without⟩ := Option.map_eq_some_iff.mp provided
  have compensates := (runs call found).compensates
  rw [registerReal_eq_registerAll] at kept
  rw [without] at compensates
  exact nomatch kept.symm.trans compensates

/-! ## The spelling of a key -/

theorem toList_key :
    (Registry.key tool action).toList =
      tool.toList ++ '.' :: action.toList := by
  simp [Registry.key]

/-- A key with no dot in the tool and none in the action has no second
spelling, and any other key has one. -/
theorem unique_spelling_iff :
    (∀ otherTool otherAction,
        Registry.key otherTool otherAction = Registry.key tool action →
          otherTool = tool ∧ otherAction = action) ↔
      '.' ∉ tool.toList ∧ '.' ∉ action.toList := by
  rw [← unique_cut_iff]
  constructor
  · intro unique front back equal
    have same : Registry.key (String.ofList front) (String.ofList back) =
        Registry.key tool action := by
      apply String.toList_inj.mp
      simpa [toList_key] using equal
    obtain ⟨rfl, rfl⟩ := unique _ _ same
    simp
  · intro unique otherTool otherAction same
    have equal := congrArg String.toList same
    rw [toList_key, toList_key] at equal
    obtain ⟨sameTool, sameAction⟩ := unique _ _ equal
    exact ⟨String.toList_inj.mp sameTool, String.toList_inj.mp sameAction⟩

theorem dotless_defaultCalls :
    ∀ call ∈ defaultCalls,
      '.' ∉ call.tool.toList ∧ '.' ∉ call.action.toList := by
  decide +kernel

/-- Every pair that `Execute` or `Classes` resolves is the one that was
registered, exactly when no registered name holds a dot. -/
theorem resolved_as_registered_iff (calls : List Registration) :
    (∀ tool action call,
        executed calls tool action = some call ∨
          classified calls tool action = some call →
        tool = call.tool ∧ action = call.action) ↔
      ∀ call ∈ calls, '.' ∉ call.tool.toList ∧ '.' ∉ call.action.toList := by
  constructor
  · intro resolved call member
    -- the classes under the key of the call come from some call with that key
    cases found : classified calls call.tool call.action with
    | none =>
        have missing := provider_eq_none.mp found call
          (List.mem_append_right defaultCalls member) rfl
        cases missing
    | some entry =>
        have own : entry.key = call.key := (provider_eq_some.mp found).1
        obtain ⟨sameTool, sameAction⟩ :=
          resolved call.tool call.action entry (.inr found)
        rw [sameTool, sameAction]
        apply (unique_spelling_iff entry.tool entry.action).mp
        intro tool action same
        apply resolved tool action entry
        right
        rw [classified, same, ← found, classified]
        exact congrArg (fun key => provider _ key _) own
  · intro dotless tool action call found
    have entry : call.key = Registry.key tool action ∧
        call ∈ defaultCalls ++ calls := by
      rcases found with found | found
      · obtain ⟨own, _, before, after, split, _⟩ := provider_eq_some.mp found
        exact ⟨own, by simp [split]⟩
      · obtain ⟨own, _, before, after, split, _⟩ := provider_eq_some.mp found
        exact ⟨own, by simp [split]⟩
    have names : '.' ∉ call.tool.toList ∧ '.' ∉ call.action.toList := by
      rcases List.mem_append.mp entry.2 with filled | registered
      · exact dotless_defaultCalls call filled
      · exact dotless call registered
    exact (unique_spelling_iff call.tool call.action).mpr names tool action
      entry.1.symm

/-! ## Read-only tools -/

/-- The latest call for this very tool and action. -/
def registered (calls : List Registration) (tool action : String) :
    Option Registration :=
  (defaultCalls ++ calls).reverse.find? fun call =>
    call.tool = tool && call.action = action

/-- The classes under a key are all read-only exactly if the call that stored
them says so; a key without classes has an unknown one. -/
theorem all_readOnly_classes :
    (((default.registerAll calls).classes tool action).all fun risk =>
        risk = .readOnly) =
      (classified calls tool action).any Registration.readsOnly := by
  rw [classes_eq_classified]
  cases classified calls tool action with
  | none => rfl
  | some call => rfl

namespace Sample

/-- The call for a tool of an upstream MCP server whose name holds a dot. -/
def readFiles : Registration :=
  ⟨"mcp:srv", "files.read", [.readOnly],
    some (.mcp "https://srv.example/mcp" "" "files.read"), none⟩

end Sample

/-- The tool is reached by another spelling, which no rule and no scope that
names the registered pair matches. -/
theorem dotted_tool_has_second_spelling :
    (default.registerAll [Sample.readFiles]).handlers.get?
        (Registry.key "mcp:srv.files" "read") = Sample.readFiles.handler ∧
      executed [Sample.readFiles] "mcp:srv.files" "read" =
        some Sample.readFiles ∧
      classified [Sample.readFiles] "mcp:srv.files" "read" =
        some Sample.readFiles ∧
      "mcp:srv.files" ≠ Sample.readFiles.tool ∧
      "read" ≠ Sample.readFiles.action :=
  ⟨rfl, rfl, rfl, by decide, by decide⟩

end Registry
end SettleAgent
