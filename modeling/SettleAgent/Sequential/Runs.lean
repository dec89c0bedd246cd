import SettleAgent.Interaction.Session
import SettleAgent.Protocol.Programs
import SettleAgent.Sequential.Coherent

/-!
# Sequential runs of the gateway

Operations arrive one after the other, each carried to its end before the next
one starts.  The run begins with an empty ledger; agents, policies, grants,
integrations and the tool registry are arbitrary.
-/

namespace SettleAgent

open Interaction

/-- An operation that arrives at the gateway, with the environments that its
calls will meet. -/
structure Arrival where
  operation : Operation
  envs : Nat → Env

/-- The operation comes in over HTTP. -/
def Operation.IsHTTP : Operation → Prop
  | .http _ => True
  | _ => False

instance (operation : Operation) : Decidable operation.IsHTTP :=
  match operation with
  | .http _ => inferInstanceAs (Decidable True)
  | .createTxn _ | .proposeAction _ _ _ _ _ _ _ _ | .executeAllowed _ _ _
  | .runApproved _ _ _ | .commit _ _ _ | .reconcile _ _ _
  | .compensateTransaction _ _ | .simulate _ _ _ _ _ =>
      inferInstanceAs (Decidable False)

/-- The operations that come in over HTTP open transactions as planned and
never compensate. -/
structure Intent.Forward (intent : Intent) : Prop where
  planned : intent ≠ .create false
  uncompensated : ∀ orgID txnID, intent ≠ .compensate orgID txnID

theorem Operation.IsHTTP.forward {operation : Operation}
    (http : operation.IsHTTP) : operation.intent.Forward := by
  cases operation with
  | http request =>
      obtain ⟨caller, traceID, route⟩ := request
      constructor <;> intros <;> simp only [intent, Api.Request.intent] <;>
        split <;> simp
  | _ => exact http.elim

namespace Arrival

/-- The program of the arrival's operation, ready to run. -/
def job (config : Config) (arrival : Arrival) :
    Job Operation Call Call.Resp Env Outcome where
  tag := arrival.operation
  program := arrival.operation.program config
  envs := arrival.envs

/-- Carry the arrival's operation to its end: what it returns, the world it
leaves, and the calls it made. -/
def complete (config : Config) (arrival : Arrival) (world : World) :
    Outcome × World × List (Mark Operation Call Env World) :=
  (arrival.operation.program config).complete (exec config)
    arrival.operation arrival.envs world

end Arrival

/-- The sequential run of a list of arrivals. -/
def sequential (config : Config) (world : World) (arrivals : List Arrival) :
    Session Operation Call Env World Outcome :=
  (Session.start world).run (exec config) (arrivals.map (Arrival.job config))

/-- Nothing has been recorded yet. -/
def World.Initial (world : World) : Prop :=
  world.ledger = Ledger.empty

/-- Every call of the run was answered with fresh identifiers. -/
def FreshRun (config : Config) (world : World) (arrivals : List Arrival) :
    Prop :=
  ∀ mark ∈ (sequential config world arrivals).marks,
    Admissible mark.before mark.env

instance (config : Config) (world : World) (arrivals : List Arrival) :
    Decidable (FreshRun config world arrivals) :=
  inferInstanceAs (Decidable (∀ _ ∈ _, _))

variable {config : Config} {world : World} {arrivals : List Arrival}

theorem sequential_append (earlier later : List Arrival) :
    sequential config world (earlier ++ later) =
      (sequential config world earlier).run (exec config)
        (later.map (Arrival.job config)) := by
  rw [sequential, List.map_append, Session.run_append]
  rfl

theorem state_concat (earlier : List Arrival) (arrival : Arrival) :
    (sequential config world (earlier ++ [arrival])).state =
      (arrival.complete config (sequential config world earlier).state).2.1 := by
  rw [sequential_append]
  rfl

/-- The calls of an arrival are calls of the run. -/
theorem marks_complete_subset {earlier later : List Arrival} {arrival : Arrival}
    {mark : Mark Operation Call Env World}
    (made : mark ∈ (arrival.complete config
      (sequential config world earlier).state).2.2) :
    mark ∈ (sequential config world (earlier ++ arrival :: later)).marks := by
  rw [sequential_append, List.map_cons, Session.run_cons]
  obtain ⟨rest, equal⟩ := Session.marks_run (exec config)
    ((sequential config world earlier).advance (exec config)
      (arrival.job config)) (later.map (Arrival.job config))
  rw [equal]
  exact List.mem_append_left _ (List.mem_append_right _ made)

/-- Every call of the run was made by one of the arrivals. -/
theorem exists_arrival {mark : Mark Operation Call Env World}
    (made : mark ∈ (sequential config world arrivals).marks) :
    ∃ arrival ∈ arrivals, mark.caller = arrival.operation := by
  rcases Session.exists_job_of_mem_marks (exec config) (Session.start world)
    _ mark made with earlier | ⟨job, member, equal⟩
  · simp [Session.start] at earlier
  · obtain ⟨arrival, arrived, rfl⟩ := List.mem_map.mp member
    exact ⟨arrival, arrived, equal⟩

theorem FreshRun.earlier {earlier later : List Arrival}
    (fresh : FreshRun config world (earlier ++ later)) :
    FreshRun config world earlier := by
  intro mark made
  obtain ⟨rest, equal⟩ := Session.marks_run (exec config)
    (sequential config world earlier) (later.map (Arrival.job config))
  refine fresh mark ?_
  rw [sequential_append, equal]
  exact List.mem_append_left _ made

/-- A run keeps the records under their identifiers. -/
theorem wellKeyed_sequential (initial : world.Initial) :
    (sequential config world arrivals).state.ledger.WellKeyed := by
  have start : world.ledger.WellKeyed := by
    rw [show world.ledger = Ledger.empty from initial]
    exact Ledger.wellKeyed_empty
  exact (Session.run_stepwise (exec config)
    (fun reached => reached.ledger.WellKeyed) (Session.start world) _ start
    fun mark _ keyed => wellKeyed_exec mark.request keyed).1

namespace Coherent

theorem empty : Coherent View.first Ledger.empty := by
  constructor
  case keyed => exact Ledger.wellKeyed_empty
  all_goals simp [Ledger.empty, Ledger.receiptsOf]

/-- An operation that has settled leaves a ledger to which nothing is
owed. -/
theorem leave {view : View} {ledger : Ledger}
    (coherent : Coherent view ledger) (settled : view.Settled) :
    Coherent View.first ledger := by
  have owes : ∀ id, ¬ View.first.Owes id := (View.clear_of_unheld rfl).1
  refine { coherent with
    drafting := ?_
    attested := fun id action present attested _ =>
      coherent.attested id action present attested (settled.2.1 id)
    unattested := fun id action present unattested =>
      coherent.unattested id action present
        (Or.inl (unattested.resolve_right (owes id)))
    exclusive := Or.inl rfl
    txn := by simp, scan := by simp, whole := by simp, draft := by simp
    unasked := by simp, held := by simp, untouched := by simp
    stored := by simp, live := by simp, decided := by simp
    waiting := by simp, signing := by simp }
  intro id action present proposed
  obtain ⟨draft, drafted, _, undecided⟩ :=
    coherent.drafting id action present proposed
  exact absurd undecided (settled.1 draft drafted)

end Coherent

/-- The invariant rule for sequential runs of the gateway.  The condition is
met by every operation in the world it arrives at. -/
theorem sequential_invariant
    (inv : Intent → View → World → Prop) (between : World → Prop)
    (cond : Operation → World → Prop)
    (keyed : ∀ intent view world, inv intent view world →
      world.ledger.WellKeyed)
    (step : ∀ intent view world request env, inv intent view world →
      Admissible world env → May intent view request →
        inv intent (view.learn request (exec config request env world).1)
          (exec config request env world).2)
    (enter : ∀ operation world, between world → cond operation world →
      inv operation.intent View.first world)
    (leave : ∀ intent view world, view.Settled → inv intent view world →
      between world)
    (start : between world) (fresh : FreshRun config world arrivals)
    (met : ∀ earlier arrival later, arrivals = earlier ++ arrival :: later →
      cond arrival.operation (sequential config world earlier).state) :
    between (sequential config world arrivals).state ∧
      ∀ mark ∈ (sequential config world arrivals).marks, ∃ view,
        inv mark.caller.intent view mark.before ∧
          May mark.caller.intent view mark.request := by
  have fits : ∀ (operation : Operation) (view : View) (world : World)
      (request : Call) (env : Env), inv operation.intent view world →
        Admissible world env → (roleOf operation.intent).fits request
          (exec config request env world).1 :=
    fun _ _ _ request _ holds _ => fits_exec request (keyed _ _ _ holds)
  refine Session.run_invariant (exec config) fits
    (fun _ _ _ _ _ holds admissible may => step _ _ _ _ _ holds admissible may)
    enter (fun _ _ _ _ settled holds => leave _ _ _ settled holds)
    (Session.start world) _ ?_ start (by simp [Session.start]) ?_ fresh
  · intro job member
    obtain ⟨arrival, _, rfl⟩ := List.mem_map.mp member
    exact arrival.operation.obeys config
  · refine Session.meets_of_split (exec config) _ _ ?_
    intro earlier job later split
    obtain ⟨first, second, rfl, rfl, equal⟩ := List.map_eq_append_iff.mp split
    obtain ⟨arrival, rest, rfl, rfl, rfl⟩ := List.map_eq_cons_iff.mp equal
    exact met first arrival rest rfl

/-- A sequential run keeps the ledger coherent, and makes every call in a view
in which the operation may make it. -/
theorem sequential_coherent
    (initial : world.Initial) (fresh : FreshRun config world arrivals) :
    Coherent View.first (sequential config world arrivals).state.ledger ∧
      ∀ mark ∈ (sequential config world arrivals).marks, ∃ view,
        Coherent view mark.before.ledger ∧
          May mark.caller.intent view mark.request := by
  refine sequential_invariant (fun _ view world => Coherent view world.ledger)
    (fun world => Coherent View.first world.ledger) (fun _ _ => True)
    (fun _ _ _ coherent => coherent.keyed)
    (fun _ _ _ _ _ coherent admissible may => coherent.step admissible may)
    (fun _ _ coherent _ => coherent)
    (fun _ _ _ settled coherent => coherent.leave settled) ?_ fresh
    fun _ _ _ _ => trivial
  rw [show world.ledger = Ledger.empty from initial]
  exact Coherent.empty

namespace Sample

theorem initial : Sample.world.Initial := rfl

/-- The operations in this order. -/
def inTurn (operations : List Operation) : List Arrival :=
  operations.zipIdx.map fun entry =>
    { operation := entry.1, envs := envs entry.2 }

/-- A lookup is proposed, allowed and executed. -/
def lookup : List Arrival :=
  inTurn [create, propose "id1" "crm" "lookup_customer" none "k",
    execute "id103"]

end Sample
end SettleAgent
