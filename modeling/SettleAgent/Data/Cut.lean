import Mathlib.Data.List.Basic

/-!
# Cutting texts at a separator

Keys of several parts are joined with a separator.  A part that does not
contain the separator can be read back from the joined text.  A text split at
every separator is the list of its parts.
-/

namespace SettleAgent

/-- What comes before and after the first separator, if there is one. -/
def cut (separator : Char) (text : String) : Option (String × String) :=
  match text.toList.dropWhile (· ≠ separator) with
  | [] => none
  | _ :: back =>
      some (String.ofList (text.toList.takeWhile (· ≠ separator)),
        String.ofList back)

/-- The first part of a joined text is read back. -/
theorem cut_append
    {separator : Char} {front : String} (absent : separator ∉ front.toList)
    (back : String) :
    cut separator (front ++ String.singleton separator ++ back) =
      some (front, back) := by
  have before : ∀ char ∈ front.toList, decide (char ≠ separator) = true := by
    intro char member
    simp only [ne_eq, decide_not, Bool.not_eq_eq_eq_not, Bool.not_true,
      decide_eq_false_iff_not]
    rintro rfl
    exact absent member
  have parts : (front ++ String.singleton separator ++ back).toList =
      front.toList ++ separator :: back.toList := by
    simp
  rw [cut, parts, List.dropWhile_append_of_pos before,
    List.takeWhile_append_of_pos before]
  simp

theorem eq_append_of_cut {separator : Char} {text front back : String}
    (cuts : cut separator text = some (front, back)) :
    text = front ++ String.singleton separator ++ back := by
  have whole : text.toList.takeWhile (· ≠ separator) ++
      text.toList.dropWhile (· ≠ separator) = text.toList :=
    List.takeWhile_append_dropWhile
  unfold cut at cuts
  split at cuts
  · cases cuts
  · rename_i char rest after
    have first : char = separator := by
      have head := List.head?_dropWhile_not (· ≠ separator) text.toList
      rw [after] at head
      simpa using head
    rw [Option.some.injEq, Prod.mk.injEq] at cuts
    obtain ⟨rfl, rfl⟩ := cuts
    rw [after, first] at whole
    apply String.toList_inj.mp
    refine whole.symm.trans ?_
    simp

/-- Texts joined from different first parts are different. -/
theorem joined_inj {separator : Char} {first second : String}
    (absentFirst : separator ∉ first.toList)
    (absentSecond : separator ∉ second.toList) {left right : String}
    (equal : first ++ String.singleton separator ++ left =
      second ++ String.singleton separator ++ right) :
    first = second ∧ left = right := by
  have cuts := congrArg (cut separator) equal
  rw [cut_append absentFirst, cut_append absentSecond] at cuts
  simpa using cuts

/-- A list is cut in one way only at a separator that neither side holds. -/
theorem unique_cut_iff {α : Type} {separator : α} {left right : List α} :
    (∀ front back, front ++ separator :: back = left ++ separator :: right →
        front = left ∧ back = right) ↔
      separator ∉ left ∧ separator ∉ right := by
  constructor
  · intro unique
    constructor
    · intro held
      obtain ⟨front, back, rfl⟩ := List.append_of_mem held
      have same := (unique front (back ++ separator :: right) (by simp)).1
      simp at same
    · intro held
      obtain ⟨front, back, rfl⟩ := List.append_of_mem held
      have same := (unique (left ++ separator :: front) back (by simp)).1
      simp at same
  · rintro ⟨noneLeft, noneRight⟩ front back equal
    have parts :=
      (List.append_cons_inj_of_notMem noneLeft noneRight).mp equal.symm
    exact ⟨parts.1.symm, parts.2.2.symm⟩

/-! ## The last separator -/

/-- What comes before and after the last separator, if there is one. -/
def cutLast {α : Type} [DecidableEq α] (separator : α) (text : List α) :
    Option (List α × List α) :=
  match text.reverse.dropWhile (· ≠ separator) with
  | [] => none
  | _ :: front =>
      some (front.reverse, (text.reverse.takeWhile (· ≠ separator)).reverse)

theorem eq_append_of_cutLast {α : Type} [DecidableEq α] {separator : α}
    {text front back : List α}
    (cuts : cutLast separator text = some (front, back)) :
    text = front ++ separator :: back := by
  have whole : text.reverse.takeWhile (· ≠ separator) ++
      text.reverse.dropWhile (· ≠ separator) = text.reverse :=
    List.takeWhile_append_dropWhile
  unfold cutLast at cuts
  split at cuts
  · cases cuts
  · rename_i first rest after
    have last : first = separator := by
      have head := List.head?_dropWhile_not (· ≠ separator) text.reverse
      rw [after] at head
      simpa using head
    rw [Option.some.injEq, Prod.mk.injEq] at cuts
    obtain ⟨rfl, rfl⟩ := cuts
    rw [after, last] at whole
    have turned := congrArg List.reverse whole
    rw [List.reverse_reverse, List.reverse_append, List.reverse_cons] at turned
    rw [List.append_assoc] at turned
    exact turned.symm

/-! ## All parts -/

section Splitting
variable {α : Type} {separator : α}

theorem intercalate_append {front back : List (List α)} (some : front ≠ [])
    (others : back ≠ []) :
    [separator].intercalate (front ++ back) =
      [separator].intercalate front ++
        separator :: [separator].intercalate back := by
  induction front with
  | nil => exact absurd rfl some
  | cons part rest inductionHypothesis =>
      rw [List.cons_append, List.intercalate_cons_of_ne_nil (by simp [others])]
      by_cases last : rest = []
      · subst last
        simp
      · rw [inductionHypothesis last, List.intercalate_cons_of_ne_nil last]
        simp

/-- The parts do not contain the separator. -/
theorem notMem_of_mem_splitOn [BEq α] [LawfulBEq α] {text part : List α}
    (member : part ∈ text.splitOn separator) : separator ∉ part := by
  induction text generalizing part with
  | nil =>
      rw [List.splitOn_nil, List.mem_singleton] at member
      rw [member]
      exact List.not_mem_nil
  | cons first rest inductionHypothesis =>
      rw [List.splitOn_cons_eq_if_modifyHead] at member
      split at member
      · rcases List.mem_cons.mp member with rfl | later
        · exact List.not_mem_nil
        · exact inductionHypothesis later
      · rename_i other
        obtain ⟨head, parts, split⟩ :=
          List.exists_cons_of_ne_nil (List.splitOn_ne_nil separator rest)
        rw [split] at inductionHypothesis member
        rcases List.mem_cons.mp member with rfl | later
        · rw [List.mem_cons, not_or]
          refine ⟨?_, inductionHypothesis List.mem_cons_self⟩
          rintro rfl
          exact other (beq_self_eq_true _)
        · exact inductionHypothesis (List.mem_cons_of_mem head later)

/-- Part by part, a text ends with another one exactly if it is the same text,
or ends with it behind a separator. -/
theorem splitOn_suffix_iff [BEq α] [LawfulBEq α] {text ending : List α} :
    ending.splitOn separator <:+ text.splitOn separator ↔
      text = ending ∨ separator :: ending <:+ text := by
  constructor
  · rintro ⟨front, split⟩
    have whole := congrArg [separator].intercalate split
    rw [List.intercalate_splitOn] at whole
    by_cases first : front = []
    · left
      rw [first, List.nil_append, List.intercalate_splitOn] at whole
      exact whole.symm
    · right
      rw [intercalate_append first (List.splitOn_ne_nil _ _),
        List.intercalate_splitOn] at whole
      exact ⟨_, whole⟩
  · rintro (rfl | ⟨front, rfl⟩)
    · exact List.suffix_rfl
    · rw [List.splitOn_append_cons_self]
      exact List.suffix_append _ _

end Splitting

end SettleAgent
