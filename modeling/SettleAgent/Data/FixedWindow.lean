import Mathlib.Data.List.Basic
import Mathlib.Data.List.Induction

/-!
# Fixed-window counting

A counter admits a limited number of calls per window.  A window starts with
the first call that finds none in progress, so windows start at arbitrary times
and at least their length apart.  Any interval of that length meets at most two
of them.
-/

namespace SettleAgent
namespace FixedWindow

/-- A window in progress: the calls admitted in it, and its start. -/
structure Bucket where
  count : Nat
  start : Int

/-- Whether a call is admitted, and the window afterwards. -/
def respond (limit : Nat) (window now : Int) : Option Bucket → Bool × Bucket
  | none => (true, ⟨1, now⟩)
  | some bucket =>
      if window ≤ now - bucket.start then (true, ⟨1, now⟩)
      else if limit ≤ bucket.count then (false, bucket)
      else (true, ⟨bucket.count + 1, bucket.start⟩)

/-- The calls at these times, each with whether it is admitted. -/
def run (limit : Nat) (window : Int) : Option Bucket → List Int →
    List (Int × Bool)
  | _, [] => []
  | bucket, now :: times =>
      (now, (respond limit window now bucket).1) ::
        run limit window (some (respond limit window now bucket).2) times

/-- The window in progress after calls at these times. -/
def after (limit : Nat) (window : Int) (bucket : Option Bucket)
    (times : List Int) : Option Bucket :=
  times.foldl (fun bucket now => some (respond limit window now bucket).2) bucket

/-- The number of calls admitted from one time on and before another. -/
def admitted (low high : Int) (served : List (Int × Bool)) : Nat :=
  served.countP fun call => call.2 && decide (low ≤ call.1 ∧ call.1 < high)

section Counting

variable {low high : Int} {served : List (Int × Bool)}

theorem admitted_concat (served : List (Int × Bool)) (now : Int) (low high : Int)
    (outcome : Bool) :
    admitted low high (served ++ [(now, outcome)]) = admitted low high served +
      if outcome = true ∧ low ≤ now ∧ now < high then 1 else 0 := by
  simp [admitted, List.countP_append, List.countP_singleton]

theorem admitted_eq_zero (outside : ∀ call ∈ served, call.2 = true →
      call.1 < low ∨ high ≤ call.1) : admitted low high served = 0 := by
  rw [admitted, List.countP_eq_zero]
  intro call member counted
  simp only [Bool.and_eq_true, decide_eq_true_eq] at counted
  have apart := outside call member counted.1
  omega

/-- A part of an interval holds no more calls than the interval. -/
theorem admitted_le {wideLow wideHigh : Int}
    (inside : ∀ call ∈ served, call.2 = true → low ≤ call.1 → call.1 < high →
      wideLow ≤ call.1 ∧ call.1 < wideHigh) :
    admitted low high served ≤ admitted wideLow wideHigh served := by
  apply List.countP_mono_left
  intro call member counted
  simp only [Bool.and_eq_true, decide_eq_true_eq] at counted ⊢
  exact ⟨counted.1, inside call member counted.1 counted.2.1 counted.2.2⟩

/-- An interval holds the calls of its two parts. -/
theorem admitted_split (low middle high : Int) (served : List (Int × Bool)) :
    admitted low high served ≤
      admitted low middle served + admitted middle high served := by
  induction served with
  | nil => simp [admitted]
  | cons call served inductionHypothesis =>
      simp only [admitted, List.countP_cons, Bool.and_eq_true,
        decide_eq_true_eq] at inductionHypothesis ⊢
      split
      · rename_i counted
        by_cases early : call.1 < middle
        · rw [if_pos ⟨counted.1, counted.2.1, early⟩]
          omega
        · have late : call.2 = true ∧ middle ≤ call.1 ∧ call.1 < high :=
            ⟨counted.1, by omega, counted.2.2⟩
          rw [if_pos late]
          omega
      · omega

end Counting

section Runs

variable {limit : Nat} {window : Int}

theorem run_append (bucket : Option Bucket) (earlier later : List Int) :
    run limit window bucket (earlier ++ later) =
      run limit window bucket earlier ++
        run limit window (after limit window bucket earlier) later := by
  induction earlier generalizing bucket with
  | nil => rfl
  | cons now earlier inductionHypothesis =>
      rw [List.cons_append, run, inductionHypothesis]
      rfl

theorem map_fst_run (bucket : Option Bucket) (times : List Int) :
    (run limit window bucket times).map Prod.fst = times := by
  induction times generalizing bucket with
  | nil => rfl
  | cons now times inductionHypothesis =>
      rw [run, List.map_cons, inductionHypothesis]

theorem after_concat (bucket : Option Bucket) (times : List Int) (now : Int) :
    after limit window bucket (times ++ [now]) =
      some (respond limit window now (after limit window bucket times)).2 := by
  rw [after, List.foldl_concat]
  rfl

/-- A call leaves a window in progress. -/
theorem eq_nil_of_after {times : List Int}
    (idle : after limit window none times = none) : times = [] := by
  induction times using List.reverseRecOn with
  | nil => rfl
  | append_singleton times now _ =>
      rw [after_concat] at idle
      cases idle

theorem run_concat (bucket : Option Bucket) (times : List Int) (now : Int) :
    run limit window bucket (times ++ [now]) =
      run limit window bucket times ++
        [(now, (respond limit window now
          (after limit window bucket times)).1)] :=
  run_append bucket times [now]

end Runs

/-! ## What every call preserves -/

/-- What the calls served so far say about the window in progress.  It holds
the calls counted in it, and all admitted calls come before its end.  Less than
a window before its start, there is only the window before it. -/
structure Paced (limit : Nat) (window : Int) (served : List (Int × Bool))
    (bucket : Bucket) : Prop where
  started : (bucket.start, true) ∈ served
  within : bucket.count ≤ limit
  current : admitted bucket.start (bucket.start + window) served = bucket.count
  ended : ∀ call ∈ served, call.2 = true → call.1 < bucket.start + window
  previous : admitted (bucket.start - window + 1) bucket.start served ≤ limit
  bound : ∀ low, admitted low (low + window) served ≤ 2 * limit

section Steps

variable {limit : Nat} {window now : Int} {served : List (Int × Bool)}
  {bucket : Bucket}

theorem Paced.first (nonzero : 1 ≤ limit) (positive : 0 < window) (now : Int) :
    Paced limit window [(now, true)] ⟨1, now⟩ := by
  have count (low high : Int) : admitted low high [(now, true)] =
      if low ≤ now ∧ now < high then 1 else 0 := by
    simp [admitted]
  constructor
  · exact List.mem_singleton_self _
  · exact nonzero
  · rw [count, if_pos (by constructor <;> dsimp only <;> omega)]
  · intro call member _
    rw [List.mem_singleton.mp member]
    dsimp only
    omega
  · rw [count]
    split <;> omega
  · intro low
    rw [count]
    split <;> omega

/-- A rejected call changes nothing. -/
theorem Paced.rejected (paced : Paced limit window served bucket) (now : Int) :
    Paced limit window (served ++ [(now, false)]) bucket := by
  have count (low high : Int) : admitted low high (served ++ [(now, false)]) =
      admitted low high served := by
    simp [admitted_concat]
  constructor
  · exact List.mem_append_left _ paced.started
  · exact paced.within
  · rw [count]
    exact paced.current
  · intro call member admits
    rcases List.mem_append.mp member with earlier | last
    · exact paced.ended call earlier admits
    · rw [List.mem_singleton.mp last] at admits
      cases admits
  · rw [count]
    exact paced.previous
  · intro low
    rw [count]
    exact paced.bound low

/-- One more call in the window in progress. -/
theorem Paced.admitted (paced : Paced limit window served bucket)
    (room : bucket.count < limit) (late : bucket.start ≤ now)
    (early : now < bucket.start + window) :
    Paced limit window (served ++ [(now, true)])
      ⟨bucket.count + 1, bucket.start⟩ := by
  constructor
  · exact List.mem_append_left _ paced.started
  · exact room
  · rw [admitted_concat, if_pos ⟨rfl, late, early⟩, paced.current]
  · intro call member admits
    rcases List.mem_append.mp member with earlier | last
    · exact paced.ended call earlier admits
    · rw [List.mem_singleton.mp last]
      exact early
  · rw [admitted_concat, if_neg (by dsimp only; omega)]
    exact paced.previous
  · intro low
    rw [admitted_concat]
    split
    · -- the interval starts less than a window before the bucket
      rename_i counted
      have split := admitted_split low bucket.start (low + window) served
      have before : FixedWindow.admitted low bucket.start served ≤
          FixedWindow.admitted (bucket.start - window + 1) bucket.start
            served := by
        apply admitted_le
        intro call _ _ lower upper
        omega
      have behind : FixedWindow.admitted bucket.start (low + window) served ≤
          FixedWindow.admitted bucket.start (bucket.start + window) served := by
        apply admitted_le
        intro call member admits lower _
        exact ⟨lower, paced.ended call member admits⟩
      have previous := paced.previous
      rw [paced.current] at behind
      omega
    · exact paced.bound low

/-- A call that starts a new window. -/
theorem Paced.restarted (paced : Paced limit window served bucket)
    (nonzero : 1 ≤ limit) (positive : 0 < window)
    (elapsed : window ≤ now - bucket.start) :
    Paced limit window (served ++ [(now, true)]) ⟨1, now⟩ := by
  have old : ∀ call ∈ served, call.2 = true → call.1 < now := by
    intro call member admits
    have ended := paced.ended call member admits
    omega
  have within := paced.within
  -- what was admitted less than a window ago was counted in the old bucket
  have recent (low : Int) (near : now - window < low) (high : Int) :
      FixedWindow.admitted low high served ≤ limit := by
    have counted : FixedWindow.admitted low high served ≤
        FixedWindow.admitted bucket.start (bucket.start + window) served := by
      apply admitted_le
      intro call member admits lower _
      exact ⟨by omega, paced.ended call member admits⟩
    rw [paced.current] at counted
    omega
  constructor
  · exact List.mem_append_right _ (List.mem_singleton_self _)
  · exact nonzero
  · have none : FixedWindow.admitted now (now + window) served = 0 := by
      apply admitted_eq_zero
      intro call member admits
      exact Or.inl (old call member admits)
    change FixedWindow.admitted now (now + window) _ = 1
    rw [admitted_concat, none, if_pos ⟨rfl, Int.le_refl now, by omega⟩]
  · intro call member admits
    rcases List.mem_append.mp member with earlier | last
    · have before := old call earlier admits
      dsimp only
      omega
    · rw [List.mem_singleton.mp last]
      dsimp only
      omega
  · rw [admitted_concat, if_neg (by dsimp only; omega)]
    exact recent _ (by dsimp only; omega) _
  · intro low
    rw [admitted_concat]
    split
    · rename_i counted
      have few := recent low (by omega) (low + window)
      omega
    · exact paced.bound low

/-- Every call keeps the counts. -/
theorem Paced.step (paced : Paced limit window served bucket)
    (nonzero : 1 ≤ limit) (positive : 0 < window)
    (latest : ∀ call ∈ served, call.1 ≤ now) :
    let answer := respond limit window now (some bucket)
    Paced limit window (served ++ [(now, answer.1)]) answer.2 := by
  have late : bucket.start ≤ now := latest _ paced.started
  simp only [respond]
  split
  · rename_i elapsed
    exact paced.restarted nonzero positive elapsed
  split
  · exact paced.rejected now
  · exact paced.admitted (by omega) late (by omega)

end Steps

/-! ## Whole runs -/

section Runs

variable {limit : Nat} {window now : Int} {times : List Int}

/-- A window starts with a call that is admitted. -/
theorem started_run {bucket : Bucket}
    (reached : after limit window none times = some bucket) :
    (bucket.start, true) ∈ run limit window none times := by
  induction times using List.reverseRecOn generalizing bucket with
  | nil => cases reached
  | append_singleton times now inductionHypothesis =>
      rw [after_concat, Option.some.injEq] at reached
      rw [run_concat, List.mem_append, List.mem_singleton, ← reached]
      cases last : after limit window none times with
      | none => exact Or.inr rfl
      | some previous =>
          have started := inductionHypothesis last
          simp only [respond]
          split
          · exact Or.inr rfl
          split
          · exact Or.inl started
          · exact Or.inl started

theorem latest_run (ordered : (times ++ [now]).Pairwise (· ≤ ·)) :
    ∀ call ∈ run limit window none times, call.1 ≤ now := by
  intro call member
  have time : call.1 ∈ times := by
    rw [← @map_fst_run limit window none times]
    exact List.mem_map_of_mem member
  exact (List.pairwise_append.mp ordered).2.2 call.1 time now
    (List.mem_singleton_self now)

/-- After any calls in the order of time the counts are right. -/
theorem paced_run (nonzero : 1 ≤ limit) (positive : 0 < window)
    (ordered : times.Pairwise (· ≤ ·)) {bucket : Bucket}
    (reached : after limit window none times = some bucket) :
    Paced limit window (run limit window none times) bucket := by
  induction times using List.reverseRecOn generalizing bucket with
  | nil => cases reached
  | append_singleton times now inductionHypothesis =>
      rw [after_concat, Option.some.injEq] at reached
      rw [run_concat, ← reached]
      cases last : after limit window none times with
      | none =>
          rw [eq_nil_of_after last]
          exact Paced.first nonzero positive now
      | some previous =>
          exact (inductionHypothesis (List.pairwise_append.mp ordered).1
            last).step nonzero positive (latest_run ordered)

/-- An interval of the window's length holds at most twice the limit. -/
theorem admitted_run_le (nonzero : 1 ≤ limit)
    (ordered : times.Pairwise (· ≤ ·)) (low : Int) :
    admitted low (low + window) (run limit window none times) ≤
      2 * limit := by
  by_cases positive : 0 < window
  · cases last : after limit window none times with
    | none =>
        rw [eq_nil_of_after last]
        exact Nat.zero_le _
    | some bucket =>
        exact (paced_run nonzero positive ordered last).bound low
  · have empty : admitted low (low + window) (run limit window none times) =
        0 := by
      apply admitted_eq_zero
      intro call _ _
      omega
    omega

/-- A call of a run is answered by the window that the calls before it leave. -/
theorem run_eq_append {before later : List (Int × Bool)} {outcome : Bool}
    (served : run limit window none times =
      before ++ (now, outcome) :: later) :
    times = before.map Prod.fst ++ now :: later.map Prod.fst ∧
      run limit window none (before.map Prod.fst) = before ∧
      (respond limit window now
        (after limit window none (before.map Prod.fst))).1 = outcome := by
  have split : times = before.map Prod.fst ++ now :: later.map Prod.fst := by
    rw [← @map_fst_run limit window none times, served]
    simp
  rw [split, run_append] at served
  have lengths : (run limit window none (before.map Prod.fst)).length =
      before.length := by
    have mapped := congrArg List.length
      (@map_fst_run limit window none (before.map Prod.fst))
    simpa using mapped
  obtain ⟨earlier, own⟩ := List.append_inj served lengths
  exact ⟨split, earlier, congrArg Prod.snd (List.head_eq_of_cons_eq own)⟩

/-- A call is refused in a window that is in progress and full. -/
theorem full_of_refused {bucket : Option Bucket}
    (refused : (respond limit window now bucket).1 = false) :
    ∃ current, bucket = some current ∧ now < current.start + window ∧
      limit ≤ current.count := by
  cases bucket with
  | none => cases refused
  | some current =>
      simp only [respond] at refused
      split at refused
      · cases refused
      rename_i inside
      split at refused
      · rename_i full
        exact ⟨current, rfl, by omega, full⟩
      · cases refused

/-- A call is rejected only in a window that holds it and as many admitted
calls as the limit. -/
theorem window_of_rejected (nonzero : 1 ≤ limit)
    {before later : List (Int × Bool)}
    (ordered : times.Pairwise (· ≤ ·))
    (served : run limit window none times = before ++ (now, false) :: later) :
    ∃ start, (start, true) ∈ before ∧ start ≤ now ∧ now < start + window ∧
      admitted start (start + window) before = limit := by
  obtain ⟨split, earlier, refused⟩ := run_eq_append served
  obtain ⟨bucket, last, early, full⟩ := full_of_refused refused
  have sorted : (before.map Prod.fst ++ [now]).Pairwise (· ≤ ·) := by
    rw [split] at ordered
    refine ordered.sublist ?_
    simp
  have started := started_run last
  have late := latest_run sorted _ started
  have positive : 0 < window := by
    dsimp only at late
    omega
  have paced := paced_run nonzero positive (List.pairwise_append.mp sorted).1
    last
  rw [earlier] at started paced
  have within := paced.within
  refine ⟨bucket.start, started, late, early, ?_⟩
  rw [paced.current]
  omega

end Runs

end FixedWindow
end SettleAgent
