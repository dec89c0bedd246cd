import SettleAgent.Data.FixedWindow
import SettleAgent.Data.Table
import SettleAgent.Domain

/-!
# The rate limiter

`Middleware` asks the limiter before it authenticates a request.  The limiter
counts the calls of each key in windows of their own.
-/

namespace SettleAgent
namespace Api

open FixedWindow

/-- The fields of a `Limiter`. -/
structure Limiter where
  hits : Table Bucket
  max : Nat
  window : Int

namespace Limiter

/-- `NewLimiter`. -/
def new (max : Nat) (window : Int) : Limiter where
  hits := ∅
  max := max
  window := window

/-- Whether a call at this time is admitted.  `Time.Sub` saturates, but at a
bound that no window exceeds. -/
def allow (limiter : Limiter) (now : Time) (key : String) : Bool × Limiter :=
  let opened : Limiter :=
    { limiter with hits := limiter.hits.set key ⟨1, now⟩ }
  match limiter.hits.get? key with
  | none => (true, opened)
  | some bucket =>
      if limiter.window ≤ now - bucket.start then (true, opened)
      else if limiter.max ≤ bucket.count then (false, limiter)
      else (true, { limiter with
        hits := limiter.hits.set key ⟨bucket.count + 1, bucket.start⟩ })

/-- A call of `Allow`, with its time. -/
structure Attempt where
  time : Time
  key : String

/-- A call that has been answered. -/
structure Answered extends Attempt where
  admitted : Bool

/-- Answer calls one after the other. -/
def serve : Limiter → List Attempt → List Answered
  | _, [] => []
  | limiter, attempt :: attempts =>
      let answer := limiter.allow attempt.time attempt.key
      ⟨attempt, answer.1⟩ :: answer.2.serve attempts

/-! ## One key at a time -/

variable {limiter : Limiter} {key : String}

/-- A call is answered by the window of its key. -/
theorem allow_fst (limiter : Limiter) (now : Time) (key : String) :
    (limiter.allow now key).1 =
      (respond limiter.max limiter.window now (limiter.hits.get? key)).1 := by
  unfold allow respond
  cases limiter.hits.get? key with
  | none => rfl
  | some bucket =>
      dsimp only
      split
      · rfl
      split <;> rfl

theorem get?_allow_self (limiter : Limiter) (now : Time) (key : String) :
    (limiter.allow now key).2.hits.get? key =
      some (respond limiter.max limiter.window now
        (limiter.hits.get? key)).2 := by
  unfold allow respond
  cases found : limiter.hits.get? key with
  | none => exact Table.get?_set_self _ _ _
  | some bucket =>
      dsimp only
      split
      · exact Table.get?_set_self _ _ _
      split
      · exact found
      · exact Table.get?_set_self _ _ _

/-- The windows of other keys stay. -/
theorem get?_allow_of_ne {other : String} (differs : key ≠ other) (now : Time) :
    (limiter.allow now key).2.hits.get? other = limiter.hits.get? other := by
  have kept (bucket : Bucket) :
      (limiter.hits.set key bucket).get? other = limiter.hits.get? other :=
    Table.get?_set_of_ne _ _ differs.symm
  unfold allow
  dsimp only
  split
  · exact kept _
  split
  · exact kept _
  split
  · rfl
  · exact kept _

theorem limits_allow (limiter : Limiter) (now : Time) (key : String) :
    (limiter.allow now key).2.max = limiter.max ∧
      (limiter.allow now key).2.window = limiter.window := by
  unfold allow
  dsimp only
  split
  · exact ⟨rfl, rfl⟩
  split
  · exact ⟨rfl, rfl⟩
  split <;> exact ⟨rfl, rfl⟩

/-- The calls of a key. -/
def of (key : String) (attempts : List Attempt) : List Attempt :=
  attempts.filter fun attempt => attempt.key == key

/-- The answers to the calls of a key. -/
def answersOf (key : String) (answers : List Answered) : List Answered :=
  answers.filter fun answer => answer.key == key

/-- The calls of a key are answered as one window alone would answer them. -/
theorem answersOf_serve (limiter : Limiter) (attempts : List Attempt)
    (key : String) :
    answersOf key (limiter.serve attempts) =
      (run limiter.max limiter.window (limiter.hits.get? key)
        ((of key attempts).map Attempt.time)).map
          fun call => ⟨⟨call.1, key⟩, call.2⟩ := by
  induction attempts generalizing limiter with
  | nil => rfl
  | cons attempt attempts inductionHypothesis =>
      obtain ⟨time, name⟩ := attempt
      obtain ⟨sameMax, sameWindow⟩ := limits_allow limiter time name
      have rest := inductionHypothesis (limiter.allow time name).2
      rw [sameMax, sameWindow] at rest
      by_cases own : name = key
      · subst own
        rw [get?_allow_self] at rest
        simp only [answersOf, of, serve, List.filter_cons, beq_self_eq_true,
          if_true, List.map_cons, run, allow_fst] at rest ⊢
        rw [rest]
      · rw [get?_allow_of_ne own] at rest
        have skipped : (name == key) = false := beq_false_of_ne own
        simp only [answersOf, of, serve, List.filter_cons, skipped,
          Bool.false_eq_true, if_false] at rest ⊢
        exact rest

/-- The number of calls of a key that are admitted from one time on and before
another. -/
def admittedOf (key : String) (low high : Time) (answers : List Answered) :
    Nat :=
  (answersOf key answers).countP fun answer =>
    answer.admitted && decide (low ≤ answer.time ∧ answer.time < high)

theorem admittedOf_eq {answers : List Answered} {served : List (Int × Bool)}
    (alike : answersOf key answers =
      served.map fun call => ⟨⟨call.1, key⟩, call.2⟩) (low high : Time) :
    admittedOf key low high answers = FixedWindow.admitted low high served := by
  rw [admittedOf, alike, List.countP_map]
  rfl

/-! ## Whole runs -/

theorem ordered_of {attempts : List Attempt}
    (ordered : attempts.Pairwise (·.time ≤ ·.time)) (key : String) :
    ((of key attempts).map Attempt.time).Pairwise (· ≤ ·) :=
  List.pairwise_map.mpr (ordered.filter _)

/-- A call is rejected only in a window of its key that holds it and as many
admitted calls as the limit. -/
theorem window_of_refused {max : Nat} {window : Int} {attempts : List Attempt}
    (nonzero : 1 ≤ max) (ordered : attempts.Pairwise (·.time ≤ ·.time))
    {before later : List Answered} {now : Time}
    (served : (new max window).serve attempts =
      before ++ ⟨⟨now, key⟩, false⟩ :: later) :
    ∃ start, ⟨⟨start, key⟩, true⟩ ∈ before ∧
      start ≤ now ∧ now < start + window ∧
      admittedOf key start (start + window) before = max := by
  have own := answersOf_serve (new max window) attempts key
  have parts : answersOf key ((new max window).serve attempts) =
      answersOf key before ++ ⟨⟨now, key⟩, false⟩ :: answersOf key later := by
    rw [served]
    simp [answersOf, List.filter_append]
  rw [parts] at own
  obtain ⟨earlier, rest, split, mapped, others⟩ :=
    List.map_eq_append_iff.mp own.symm
  obtain ⟨call, last, rfl, same, _⟩ := List.map_eq_cons_iff.mp others
  obtain ⟨time, outcome⟩ := call
  simp only [Answered.mk.injEq, Attempt.mk.injEq, and_true] at same
  obtain ⟨rfl, rfl⟩ := same
  obtain ⟨start, opened, late, early, full⟩ :=
    window_of_rejected nonzero (ordered_of ordered key) split
  refine ⟨start, ?_, late, early, ?_⟩
  · have member : (⟨⟨start, key⟩, true⟩ : Answered) ∈ answersOf key before := by
      rw [← mapped]
      exact List.mem_map.mpr ⟨(start, true), opened, rfl⟩
    exact List.mem_of_mem_filter member
  · rw [admittedOf_eq mapped.symm]
    exact full

/-- Every call is answered, in order. -/
theorem map_toAttempt_serve (limiter : Limiter) (attempts : List Attempt) :
    (limiter.serve attempts).map Answered.toAttempt = attempts := by
  induction attempts generalizing limiter with
  | nil => rfl
  | cons attempt attempts inductionHypothesis =>
      rw [serve, List.map_cons, inductionHypothesis]

/-- Calls of other keys change no answer. -/
theorem answersOf_serve_eq (limiter : Limiter) (attempts : List Attempt)
    (key : String) :
    answersOf key (limiter.serve attempts) =
      limiter.serve (of key attempts) := by
  have alone : answersOf key (limiter.serve (of key attempts)) =
      limiter.serve (of key attempts) := by
    apply List.filter_eq_self.mpr
    intro answer member
    have asked : answer.toAttempt ∈ of key attempts := by
      rw [← map_toAttempt_serve limiter (of key attempts)]
      exact List.mem_map_of_mem member
    exact (List.mem_filter.mp asked).2
  rw [← alone, answersOf_serve, answersOf_serve]
  simp [of]

/-- Any interval of the window's length holds at most twice the limit of
admitted calls of a key.  A call is rejected only in a window that holds it and
as many admitted calls of its key as the limit.  Calls of other keys change no
answer. -/
theorem limiter_counts_each_key
    {max : Nat} (window : Int) {attempts : List Attempt} (nonzero : 1 ≤ max)
    (ordered : attempts.Pairwise (·.time ≤ ·.time)) (key : String) :
    let answers := (new max window).serve attempts
    (∀ low, admittedOf key low (low + window) answers ≤ 2 * max) ∧
      (∀ before now later,
        answers = before ++ ⟨⟨now, key⟩, false⟩ :: later →
          ∃ start, ⟨⟨start, key⟩, true⟩ ∈ before ∧
            start ≤ now ∧ now < start + window ∧
            admittedOf key start (start + window) before = max) ∧
      answersOf key answers = (new max window).serve (of key attempts) := by
  refine ⟨?_, ?_, answersOf_serve_eq _ _ _⟩
  · intro low
    rw [admittedOf_eq (answersOf_serve _ _ key)]
    exact admitted_run_le nonzero (ordered_of ordered key) low
  · intro before now later served
    exact window_of_refused nonzero ordered served

end Limiter
end Api

namespace Sample

/-- Calls of one key around the end of its window, and one of another key. -/
def attempts : List Api.Limiter.Attempt :=
  [⟨0, "sa_1"⟩, ⟨59, "sa_1"⟩, ⟨59, "op_1"⟩, ⟨59, "sa_1"⟩, ⟨60, "sa_1"⟩]

end Sample

namespace Api
namespace Limiter

/-- With two calls a minute the third call of a key is rejected, and the call
of the other key is not. -/
theorem limiter_counts_each_key_twice :
    let answers := (new 2 60).serve Sample.attempts
    answers.map (·.admitted) = [true, true, true, false, true] ∧
      admittedOf "sa_1" 59 (59 + 60) answers ≤ 4 ∧
      ∃ start, start ≤ 59 ∧ 59 < start + 60 ∧
        admittedOf "sa_1" start (start + 60) (answers.take 3) = 2 := by
  have counts := limiter_counts_each_key 60 (by decide : 1 ≤ 2)
    (by decide : Sample.attempts.Pairwise (·.time ≤ ·.time)) "sa_1"
  obtain ⟨start, _, late, early, full⟩ := counts.2.1 _ 59 _
    (List.take_append_drop 3 _).symm
  exact ⟨by decide +kernel, counts.1 59, start, late, early, full⟩

end Limiter
end Api
end SettleAgent
