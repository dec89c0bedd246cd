import SettleAgent.Runtime

/-!
# Delegated authority

An operation must be covered by one of the agent's grants, unless the agent
never had any.
-/

namespace SettleAgent
namespace Gateway

def scopeCovers (scope : List String) (tool action : String) : Bool :=
  scope.any fun entry =>
    entry = "*" || entry = tool ++ ".*" || entry = tool ++ "." ++ action

/-- Whether one grant covers the operation, with the first dimension it does
not cover. -/
def grantCovers (runtime : Runtime) (clock : Clock) (grant : AuthorityGrant)
    (tool action : String) (amount : Option Int) (environment : String) :
    Bool × String :=
  if grant.revokedAt ≠ none then (false, "grant revoked")
  else if grant.expiresAt.any fun expiry => expiry < clock.grant grant then
    (false, "grant expired")
  else if !scopeCovers grant.scope tool action then
    (false, "scope does not cover " ++ tool ++ "." ++ action)
  else match grant.constraints.maxAmountCents, amount with
  | some limit, some cents =>
      if cents > limit then
        (false, "amount " ++ toString cents ++ " exceeds grant limit " ++
          toString limit ++ " (cents)")
      else coversEnvironment runtime grant environment
  | _, _ => coversEnvironment runtime grant environment
where
  /-- The checks on the agent's environment, which come last. -/
  coversEnvironment (runtime : Runtime) (grant : AuthorityGrant)
      (environment : String) : Bool × String :=
    let granted := grant.constraints.environments
    if granted ≠ [] ∧
        !granted.any fun entry => runtime.equalFold entry environment then
      (false, "environment " ++ runtime.quote environment ++
        " outside granted " ++ formatStrings granted)
    else if grant.environment ≠ "" ∧
        !runtime.equalFold grant.environment environment then
      (false, "grant is for environment " ++ runtime.quote grant.environment)
    else (true, "")

/-- What it takes for a grant to cover an operation. -/
structure Admits (runtime : Runtime) (clock : Clock) (grant : AuthorityGrant)
    (tool action : String) (amount : Option Int) (environment : String) :
    Prop where
  unrevoked : grant.revokedAt = none
  unexpired : ∀ expiry, grant.expiresAt = some expiry →
    clock.grant grant ≤ expiry
  scope : scopeCovers grant.scope tool action = true
  amount : ∀ limit cents, grant.constraints.maxAmountCents = some limit →
    amount = some cents → cents ≤ limit
  environments : grant.constraints.environments = [] ∨
    ∃ entry ∈ grant.constraints.environments,
      runtime.equalFold entry environment = true
  environment : grant.environment = "" ∨
    runtime.equalFold grant.environment environment = true

variable {grant : AuthorityGrant}

theorem coversEnvironment_eq_true {runtime : Runtime}
    {environment : String} :
    (grantCovers.coversEnvironment runtime grant environment).1 = true ↔
      (grant.constraints.environments = [] ∨
        ∃ entry ∈ grant.constraints.environments,
          runtime.equalFold entry environment = true) ∧
      (grant.environment = "" ∨
        runtime.equalFold grant.environment environment = true) := by
  simp only [grantCovers.coversEnvironment]
  split
  · rename_i outside
    simp only [Bool.false_eq_true, false_iff, not_and_or]
    left
    simpa using outside
  · rename_i inside
    split
    · rename_i elsewhere
      simp only [Bool.false_eq_true, false_iff, not_and_or]
      right
      simpa using elsewhere
    · rename_i here
      simp only [true_iff]
      constructor
      · by_contra outside
        exact inside (by simpa using outside)
      · by_contra elsewhere
        exact here (by simpa using elsewhere)

theorem grantCovers_eq_true {runtime : Runtime} {clock : Clock}
    {tool action : String} {amount : Option Int}
    {environment : String} :
    (grantCovers runtime clock grant tool action amount environment).1 = true ↔
      Admits runtime clock grant tool action amount environment := by
  simp only [grantCovers]
  split
  · rename_i revoked
    simp only [Bool.false_eq_true, false_iff]
    exact fun admits => revoked admits.unrevoked
  rename_i unrevoked
  split
  · rename_i expired
    obtain ⟨expiry, given, past⟩ := (Option.any_eq_true _ _).mp expired
    simp only [Bool.false_eq_true, false_iff]
    intro admits
    exact absurd (of_decide_eq_true past)
      (not_lt.mpr (admits.unexpired expiry given))
  rename_i unexpired
  split
  · rename_i uncovered
    simp only [Bool.false_eq_true, false_iff]
    intro admits
    simp [admits.scope] at uncovered
  rename_i covered
  -- The checks that are left are those on the amount and on the environment.
  have reached : (∀ limit cents,
      grant.constraints.maxAmountCents = some limit → amount = some cents →
        cents ≤ limit) →
      ((grantCovers.coversEnvironment runtime grant environment).1 = true ↔
        Admits runtime clock grant tool action amount environment) := by
    intro within
    rw [coversEnvironment_eq_true]
    constructor
    · rintro ⟨listed, here⟩
      refine ⟨by simpa using unrevoked, ?_, by simpa using covered, within,
        listed, here⟩
      intro expiry given
      simpa [given] using unexpired
    · intro admits
      exact ⟨admits.environments, admits.environment⟩
  split
  · rename_i limit cents limited
    split
    · rename_i above
      simp only [Bool.false_eq_true, false_iff]
      intro admits
      have := admits.amount limit cents limited rfl
      omega
    · rename_i below
      apply reached
      intro other sum equal same
      rw [limited, Option.some.injEq] at equal
      rw [Option.some.injEq] at same
      omega
  · rename_i unlimited
    apply reached
    intro limit cents limited given
    exact (unlimited limit cents limited given).elim

/-- Result of the authority check: whether the operation is covered, whether
the agent has grants at all, and why. -/
structure Authority where
  covered : Bool
  hasGrants : Bool
  why : String

def checkAuthority (runtime : Runtime) (clock : Clock)
    (grants : List AuthorityGrant) (agent : Agent) (tool action : String)
    (amount : Option Int) : Authority :=
  if grants = [] then
    { covered := true, hasGrants := false,
      why := "no authority grants configured; policy-only mode" }
  else
    let verdict := fun grant =>
      grantCovers runtime clock grant tool action amount agent.environment
    match grants.find? fun grant => (verdict grant).1 with
    | some grant =>
        { covered := true, hasGrants := true,
          why := "covered by grant " ++ grant.id }
    | none =>
        let reasons := (grants.map fun grant => (verdict grant).2).filter
          fun reason => reason ≠ ""
        let detail := String.intercalate "; " reasons
        { covered := false, hasGrants := true,
          why := "Agent " ++ agent.name ++ " is not authorized for " ++
            tool ++ "." ++ action ++ ": " ++
            (if detail = "" then "no grant covers this operation"
              else detail) ++ "." }

variable {grants : List AuthorityGrant}

theorem checkAuthority_hasGrants {runtime : Runtime} {clock : Clock}
    {agent : Agent} {tool action : String}
    {amount : Option Int} (some : grants ≠ []) :
    (checkAuthority runtime clock grants agent tool action amount).hasGrants =
      true := by
  simp only [checkAuthority, if_neg some]
  split <;> rfl

/-- An operation is covered if there are no grants, or one of them admits it. -/
theorem checkAuthority_covered {runtime : Runtime} {clock : Clock}
    {agent : Agent} {tool action : String}
    {amount : Option Int} :
    (checkAuthority runtime clock grants agent tool action amount).covered =
        true ↔
      grants = [] ∨ ∃ grant ∈ grants,
        Admits runtime clock grant tool action amount agent.environment := by
  by_cases none : grants = []
  · simp [checkAuthority, none]
  simp only [checkAuthority, none, if_false, false_or, ← grantCovers_eq_true]
  cases found : grants.find? fun grant => (grantCovers runtime clock grant tool
      action amount agent.environment).1 with
  | none =>
      simp only [Bool.false_eq_true, false_iff, not_exists, not_and]
      exact List.find?_eq_none.mp found
  | some grant =>
      have covers := List.find?_some found
      simp only [true_iff]
      exact ⟨grant, List.mem_of_find?_eq_some found, covers⟩

/-- An agent that has grants, none of which covers the operation, is known to
have some and is not covered. -/
theorem checkAuthority_of_uncovered {runtime : Runtime} {clock : Clock}
    {agent : Agent} {tool action : String}
    {amount : Option Int} (some : grants ≠ [])
    (uncovered : ∀ grant ∈ grants,
      ¬ Admits runtime clock grant tool action amount agent.environment) :
    let authority :=
      checkAuthority runtime clock grants agent tool action amount
    authority.hasGrants = true ∧ authority.covered = false := by
  refine ⟨checkAuthority_hasGrants some, ?_⟩
  rw [← Bool.not_eq_true, checkAuthority_covered]
  rintro (none | ⟨grant, member, admits⟩)
  · exact some none
  · exact uncovered grant member admits

/-! ## Grants that change -/

section Changes

variable {runtime : Runtime} {clock : Clock} {agent : Agent}
  {tool action : String} {amount : Option Int} {environment : String}

/-- One change that takes authority from a grant.  A scope is narrowed if it
covers no operation that it did not cover before. -/
inductive Tightened (grant : AuthorityGrant) : AuthorityGrant → Prop
  | revoked (time : Time) :
      Tightened grant { grant with revokedAt := some time }
  | expired (expiry : Time)
      (earlier : ∀ old, grant.expiresAt = some old → expiry ≤ old) :
      Tightened grant { grant with expiresAt := some expiry }
  | narrowed (scope : List String)
      (within : ∀ tool action, scopeCovers scope tool action = true →
        scopeCovers grant.scope tool action = true) :
      Tightened grant { grant with scope := scope }
  | capped (limit : Int)
      (lower : ∀ old, grant.constraints.maxAmountCents = some old →
        limit ≤ old) :
      Tightened grant { grant with constraints :=
        { grant.constraints with maxAmountCents := some limit } }

/-- What a tightened grant admits, the grant admits that is looked at no
later. -/
theorem Tightened.admits {grant tightened : AuthorityGrant}
    (tightens : Tightened grant tightened)
    (later : clock.grant grant ≤ clock.grant tightened)
    (admits : Admits runtime clock tightened tool action amount environment) :
    Admits runtime clock grant tool action amount environment := by
  cases tightens with
  | revoked time => cases admits.unrevoked
  | expired expiry earlier =>
      refine { admits with unexpired := ?_ }
      intro old given
      exact later.trans ((admits.unexpired expiry rfl).trans
        (earlier old given))
  | narrowed scope within =>
      refine { admits with
        unexpired := ?_, scope := within tool action admits.scope }
      exact fun expiry given => later.trans (admits.unexpired expiry given)
  | capped limit lower =>
      refine { admits with unexpired := ?_, amount := ?_ }
      · exact fun expiry given => later.trans (admits.unexpired expiry given)
      · intro old cents given asked
        exact le_trans (admits.amount limit cents rfl asked) (lower old given)

theorem Admits.of_le {cents smaller : Int}
    (admits : Admits runtime clock grant tool action (some cents) environment)
    (le : smaller ≤ cents) :
    Admits runtime clock grant tool action (some smaller) environment := by
  refine { admits with amount := ?_ }
  intro limit asked given same
  obtain rfl := Option.some.inj same
  exact le_trans le (admits.amount limit cents given rfl)

/-- Coverage carries over to other grants if what one of the first admits, one
of the others admits too. -/
theorem checkAuthority_covered_of_admits {grants others : List AuthorityGrant}
    {asked : Option Int} (none : grants = [] → others = [])
    (carries : ∀ grant ∈ grants,
      Admits runtime clock grant tool action amount agent.environment →
        ∃ other ∈ others,
          Admits runtime clock other tool action asked agent.environment)
    (covered : (checkAuthority runtime clock grants agent tool action
      amount).covered = true) :
    (checkAuthority runtime clock others agent tool action asked).covered =
      true := by
  rw [checkAuthority_covered] at covered ⊢
  rcases covered with empty | ⟨grant, member, admits⟩
  · exact Or.inl (none empty)
  · exact Or.inr (carries grant member admits)

theorem checkAuthority_hasGrants_eq (grants : List AuthorityGrant) :
    (checkAuthority runtime clock grants agent tool action amount).hasGrants =
      !grants.isEmpty := by
  cases grants with
  | nil => rfl
  | cons grant rest => exact checkAuthority_hasGrants (List.cons_ne_nil _ _)

end Changes

/-- Neither coverage nor the presence of grants depends on the order of the
grants.  One more grant never takes coverage from an agent that has some, a
grant that is revoked, made to expire earlier, narrowed in its scope or given a
lower cap never adds coverage if it is looked at no earlier, and with an amount
all smaller ones are covered. -/
theorem checkAuthority_monotone
    (runtime : Runtime) (clock : Clock) (grants : List AuthorityGrant)
    (agent : Agent) (tool action : String) (amount : Option Int) :
    let check := fun grants amount =>
      checkAuthority runtime clock grants agent tool action amount
    (∀ others, others.Perm grants →
      (check others amount).covered = (check grants amount).covered ∧
        (check others amount).hasGrants = (check grants amount).hasGrants) ∧
    (∀ before after added, grants = before ++ after → grants ≠ [] →
      (check grants amount).covered = true →
        (check (before ++ added :: after) amount).covered = true) ∧
    (∀ before after grant tightened, grants = before ++ grant :: after →
      Tightened grant tightened →
      clock.grant grant ≤ clock.grant tightened →
      (check (before ++ tightened :: after) amount).covered = true →
        (check grants amount).covered = true) ∧
    ∀ cents smaller, smaller ≤ cents →
      (check grants (some cents)).covered = true →
        (check grants (some smaller)).covered = true := by
  intro check
  have covered_of_perm : ∀ first second : List AuthorityGrant,
      first.Perm second → (check first amount).covered = true →
        (check second amount).covered = true := by
    intro first second perm
    apply checkAuthority_covered_of_admits
    · rintro rfl
      exact perm.nil_eq.symm
    · intro grant member admits
      exact ⟨grant, perm.mem_iff.mp member, admits⟩
  refine ⟨?_, ?_, ?_, ?_⟩
  · intro others perm
    constructor
    · rw [Bool.eq_iff_iff]
      exact ⟨covered_of_perm _ _ perm, covered_of_perm _ _ perm.symm⟩
    · simp only [check, checkAuthority_hasGrants_eq, perm.isEmpty_eq]
  · rintro before after added rfl some
    apply checkAuthority_covered_of_admits
    · exact fun none => absurd none some
    · intro grant member admits
      refine ⟨grant, ?_, admits⟩
      rw [List.mem_append, List.mem_cons, or_left_comm]
      exact Or.inr (List.mem_append.mp member)
  · rintro before after grant tightened rfl tightens later
    apply checkAuthority_covered_of_admits
    · simp
    · intro other member admits
      rw [List.mem_append, List.mem_cons, or_left_comm] at member
      rcases member with rfl | listed
      · exact ⟨grant, by simp, tightens.admits later admits⟩
      · refine ⟨other, ?_, admits⟩
        rw [List.mem_append, List.mem_cons, or_left_comm]
        exact Or.inr listed
  · intro cents smaller le
    apply checkAuthority_covered_of_admits id
    intro grant member admits
    exact ⟨grant, member, admits.of_le le⟩

end Gateway
end SettleAgent
