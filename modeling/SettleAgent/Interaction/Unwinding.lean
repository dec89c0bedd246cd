import SettleAgent.Interaction.Pool

/-!
# Two runs with the same turns of some threads

Two interleaved runs are compared that differ in the turns of the threads that
nobody watches.  A relation between their pools that every turn of such a
thread keeps, on either side, and that a common turn of a watched thread keeps,
holds at the end of both runs if it holds at the start.

`Throughout` states a property of every mark of a run and the marks before it.
-/

namespace SettleAgent
namespace Interaction

variable {Call : Type} {Resp : Call → Type} {Env S α : Type}

namespace Pool

variable (exec : (request : Call) → Env → S → Resp request × S)
  {adm : History Call Env S → Nat → Call → Env → Prop}

/-- The next turn of a thread meets the side condition. -/
def Admits (adm : History Call Env S → Nat → Call → Env → Prop)
    (pool : Pool Call Resp Env S α) (turn : Nat × Env) : Prop :=
  ∀ request following, pool.threads turn.1 = .call request following →
    adm pool.history turn.1 request turn.2

variable {pool : Pool Call Resp Env S α}

theorem valid_append
    {first second : List (Nat × Env)} :
    pool.Valid exec adm (first ++ second) ↔
      pool.Valid exec adm first ∧
        (pool.run exec first).Valid exec adm second := by
  induction first generalizing pool with
  | nil => simp [Valid]
  | cons turn first inductionHypothesis =>
      simp only [List.cons_append, Valid, run_cons, inductionHypothesis,
        and_assoc]

/-- Two conditions at once. -/
theorem Valid.and {other : History Call Env S → Nat → Call → Env → Prop}
    {schedule : List (Nat × Env)}
    (valid : pool.Valid exec adm schedule)
    (validToo : pool.Valid exec other schedule) :
    pool.Valid exec (fun history thread request env =>
      adm history thread request env ∧ other history thread request env)
      schedule := by
  induction schedule generalizing pool with
  | nil => trivial
  | cons turn schedule inductionHypothesis =>
      exact ⟨fun request following calls =>
        ⟨valid.1 request following calls, validToo.1 request following calls⟩,
        inductionHypothesis valid.2 validToo.2⟩

/-- A property that every turn of the schedule keeps. -/
theorem run_keeps (property : Pool Call Resp Env S α → Prop)
    {schedule : List (Nat × Env)}
    (kept : ∀ pool, ∀ turn ∈ schedule, property pool →
      pool.Admits adm turn → property (pool.step exec turn.1 turn.2))
    (start : property pool)
    (valid : pool.Valid exec adm schedule) :
    property (pool.run exec schedule) := by
  induction schedule generalizing pool with
  | nil => exact start
  | cons turn schedule inductionHypothesis =>
      obtain ⟨admits, validRest⟩ := valid
      refine inductionHypothesis ?_
        (kept pool turn List.mem_cons_self start admits) validRest
      exact fun later turn member =>
        kept later turn (List.mem_cons_of_mem _ member)

variable {secondAdm : History Call Env S → Nat → Call → Env → Prop}
  (watched : Nat → Bool)
  {related : Pool Call Resp Env S α → Pool Call Resp Env S α → Prop}
  (left : ∀ first second turn, related first second →
    watched turn.1 = false → first.Admits adm turn →
      related (first.step exec turn.1 turn.2) second)
  (right : ∀ first second turn, related first second →
    watched turn.1 = false → second.Admits secondAdm turn →
      related first (second.step exec turn.1 turn.2))
  (both : ∀ first second turn, related first second →
    watched turn.1 = true → first.Admits adm turn →
      second.Admits secondAdm turn →
        related (first.step exec turn.1 turn.2)
          (second.step exec turn.1 turn.2))

include left right both

/-- The rule for two runs with the same turns of the watched threads. -/
theorem run_unwinding {first second : Pool Call Resp Env S α}
    {firstSchedule secondSchedule : List (Nat × Env)}
    (same : (firstSchedule.filter fun turn => watched turn.1) =
      secondSchedule.filter fun turn => watched turn.1)
    (firstValid : first.Valid exec adm firstSchedule)
    (secondValid : second.Valid exec secondAdm secondSchedule)
    (start : related first second) :
    related (first.run exec firstSchedule) (second.run exec secondSchedule) := by
  -- the induction is on the common turns
  generalize common : (secondSchedule.filter fun turn => watched turn.1) =
    turns at same
  have skipLeft : ∀ {schedule : List (Nat × Env)}
      {first second : Pool Call Resp Env S α},
      (∀ turn ∈ schedule, ¬ watched turn.1 = true) → related first second →
        first.Valid exec adm schedule →
          related (first.run exec schedule) second := by
    intro schedule first second unseen start valid
    refine run_keeps exec (fun pool => related pool second) ?_ start valid
    exact fun pool turn member holds admits => left pool second turn holds
      (Bool.eq_false_iff.mpr (unseen turn member)) admits
  have skipRight : ∀ {schedule : List (Nat × Env)}
      {first second : Pool Call Resp Env S α},
      (∀ turn ∈ schedule, ¬ watched turn.1 = true) → related first second →
        second.Valid exec secondAdm schedule →
          related first (second.run exec schedule) := by
    intro schedule first second unseen start valid
    refine run_keeps exec (fun pool => related first pool) ?_ start valid
    exact fun pool turn member holds admits => right first pool turn holds
      (Bool.eq_false_iff.mpr (unseen turn member)) admits
  induction turns generalizing first second firstSchedule secondSchedule with
  | nil =>
      rw [List.filter_eq_nil_iff] at same common
      exact skipRight common (skipLeft same start firstValid) secondValid
  | cons turn turns inductionHypothesis =>
      rw [List.filter_eq_cons_iff] at same common
      obtain ⟨idle, rest, rfl, unseen, seen, later⟩ := same
      obtain ⟨otherIdle, otherRest, rfl, otherUnseen, _, otherLater⟩ := common
      rw [valid_append] at firstValid secondValid
      obtain ⟨idleValid, admits, restValid⟩ := firstValid
      obtain ⟨otherIdleValid, otherAdmits, otherRestValid⟩ := secondValid
      have met := skipRight otherUnseen (skipLeft unseen start idleValid)
        otherIdleValid
      rw [run_append, run_append, run_cons, run_cons]
      exact inductionHypothesis restValid otherRestValid
        (both _ _ turn met seen admits otherAdmits) otherLater later

end Pool

/-- Every mark of a list is in a relation to the marks before it. -/
def Throughout {M : Type} (holds : List M → M → Prop) (marks : List M) : Prop :=
  ∀ earlier mark later, marks = earlier ++ mark :: later → holds earlier mark

theorem throughout_nil {M : Type} {holds : List M → M → Prop} :
    Throughout holds [] := by
  intro earlier mark later split
  simp at split

theorem throughout_concat {M : Type} {holds : List M → M → Prop}
    {marks : List M} {last : M} :
    Throughout holds (marks ++ [last]) ↔
      Throughout holds marks ∧ holds marks last := by
  constructor
  · intro all
    refine ⟨fun earlier mark later split => ?_, all marks last [] rfl⟩
    exact all earlier mark (later ++ [last]) (by simp [split])
  · rintro ⟨before, own⟩ earlier mark later split
    rcases List.eq_nil_or_concat later with rfl | ⟨rest, final, rfl⟩
    · obtain ⟨rfl, same⟩ := List.append_inj' split rfl
      rw [List.singleton_inj] at same
      exact same ▸ own
    · rw [List.concat_eq_append, ← List.cons_append, ← List.append_assoc]
        at split
      exact before earlier mark rest (List.append_inj' split rfl).1

end Interaction
end SettleAgent
