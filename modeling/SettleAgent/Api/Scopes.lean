import SettleAgent.Actions.Registrations
import SettleAgent.Api.Requests
import SettleAgent.Data.Cut

/-!
# Scopes of grants

The authority check compares the entries of a scope with texts that it joins
from the tool and the action of a proposal, which may be any strings.  The
pattern that a new scope has to match leaves one dot in each entry, so an entry
can be read in one way only.
-/

namespace SettleAgent
namespace Api

open Gateway

/-- The entry is the tool and the action around a dot, and it is not joined
from any other two texts. -/
structure Names (entry tool action : String) : Prop where
  whole : entry = tool ++ "." ++ action
  unique : ∀ otherTool otherAction,
    entry = otherTool ++ "." ++ otherAction →
      otherTool = tool ∧ otherAction = action

theorem names_of_dotless {tool action : String}
    (dotlessTool : '.' ∉ tool.toList) (dotlessAction : '.' ∉ action.toList) :
    Names (tool ++ "." ++ action) tool action := by
  refine ⟨rfl, ?_⟩
  intro otherTool otherAction same
  exact (Registry.unique_spelling_iff tool action).mpr
    ⟨dotlessTool, dotlessAction⟩ otherTool otherAction same.symm

/-- An entry that matches the pattern names a tool and an action. -/
theorem scopeEntry_names {entry : String} (accepted : scopeEntry entry = true) :
    ∃ tool action, Names entry tool action := by
  have undotted : ∀ char, scopeChar char = true → char ≠ '.' := by
    rintro char accepted rfl
    revert accepted
    decide
  unfold scopeEntry at accepted
  dsimp only at accepted
  split at accepted
  · cases accepted
  · rename_i first back after
    simp only [Bool.and_eq_true, List.all_eq_true, Bool.or_eq_true,
      beq_iff_eq] at accepted
    obtain ⟨⟨⟨_, frontChars⟩, _⟩, backChars⟩ := accepted
    have cuts : cut '.' entry = some (String.ofList (entry.toList.takeWhile
        (· ≠ '.')), String.ofList back) := by
      rw [cut, after]
    have whole := eq_append_of_cut cuts
    refine ⟨_, _, whole ▸ names_of_dotless ?_ ?_⟩
    · rw [String.toList_ofList]
      exact fun held => undotted '.' (frontChars '.' held) rfl
    · rw [String.toList_ofList]
      intro held
      rcases backChars '.' held with char | star
      · exact undotted '.' char rfl
      · revert star
        decide

/-- The star for all tools is no joined text. -/
theorem Names.ne_star {entry tool action : String}
    (names : Names entry tool action) : entry ≠ "*" := by
  intro star
  have dot : '.' ∈ entry.toList := by simp [names.whole]
  rw [star] at dot
  revert dot
  decide

/-- An entry covers the operations of its tool, all of them if its action is the
star and otherwise the one that it names. -/
theorem Names.covers_iff {entry tool action : String}
    (names : Names entry tool action) (proposedTool proposed : String) :
    (entry = "*" ∨ entry = proposedTool ++ ".*" ∨
        entry = proposedTool ++ "." ++ proposed) ↔
      tool = proposedTool ∧ (action = "*" ∨ action = proposed) := by
  have joined : proposedTool ++ ".*" = proposedTool ++ "." ++ "*" := by
    rw [String.append_assoc]
    rfl
  rw [joined, or_iff_right names.ne_star]
  constructor
  · rintro (all | one)
    · obtain ⟨rfl, rfl⟩ := names.unique _ _ all
      exact ⟨rfl, Or.inl rfl⟩
    · obtain ⟨rfl, rfl⟩ := names.unique _ _ one
      exact ⟨rfl, Or.inr rfl⟩
  · rintro ⟨rfl, rfl | rfl⟩
    · exact Or.inl names.whole
    · exact Or.inr names.whole

/-- In a scope that was accepted every entry but the star names one tool and
one action, and the scope covers exactly the operations of the tools that its
entries name, with that action or with any if the action is the star. -/
theorem scope_covers_as_named
    (scope : List String) (valid : validScope scope = true) :
    (∀ entry ∈ scope, entry = "*" ∨
      ∃ tool action, Names entry tool action) ∧
    (∀ tool action, scopeCovers scope tool action = true ↔
      "*" ∈ scope ∨ ∃ entry ∈ scope, ∃ named operation,
        Names entry named operation ∧ named = tool ∧
          (operation = "*" ∨ operation = action)) ∧
    ∀ entry ∈ scope, ∀ named operation, Names entry named operation →
      ∀ tool action, scopeCovers [entry] tool action = true →
        tool = named ∧ (operation ≠ "*" → action = operation) := by
  simp only [validScope, Bool.and_eq_true, List.all_eq_true, Bool.or_eq_true,
    beq_iff_eq] at valid
  have read : ∀ entry ∈ scope, entry = "*" ∨
      ∃ tool action, Names entry tool action := by
    intro entry member
    exact (valid.2 entry member).imp id scopeEntry_names
  refine ⟨read, ?_, ?_⟩
  · intro tool action
    simp only [scopeCovers, List.any_eq_true, Bool.or_eq_true,
      decide_eq_true_eq, or_assoc]
    constructor
    · rintro ⟨entry, member, covers⟩
      rcases read entry member with rfl | ⟨named, operation, names⟩
      · exact Or.inl member
      · exact Or.inr ⟨entry, member, named, operation, names,
          (names.covers_iff tool action).mp covers⟩
    · rintro (star | ⟨entry, member, named, operation, names, covers⟩)
      · exact ⟨"*", star, Or.inl rfl⟩
      · exact ⟨entry, member, (names.covers_iff tool action).mpr covers⟩
  · intro entry _ named operation names tool action covers
    simp only [scopeCovers, List.any_cons, List.any_nil, Bool.or_false,
      Bool.or_eq_true, decide_eq_true_eq, or_assoc] at covers
    obtain ⟨same, action⟩ := (names.covers_iff tool action).mp covers
    exact ⟨same.symm, fun other => (action.resolve_left other).symm⟩

namespace Sample

/-- Refunds, everything of the CRM, and an action whose name ends in a star. -/
def scope : List String := ["stripe.refund", "crm.*", "mail.send*"]

end Sample

/-- What the scope covers, by its three entries. -/
theorem scope_covers_as_named_sample :
    validScope Sample.scope = true ∧
      ∀ tool action, scopeCovers Sample.scope tool action = true ↔
        "*" ∈ Sample.scope ∨ ∃ entry ∈ Sample.scope, ∃ named operation,
          Names entry named operation ∧ named = tool ∧
            (operation = "*" ∨ operation = action) := by
  have valid : validScope Sample.scope = true := by decide +kernel
  exact ⟨valid, (scope_covers_as_named Sample.scope valid).2.1⟩

example : scopeCovers Sample.scope "mail" "send_all" = false := by
  decide +kernel

end Api
end SettleAgent
