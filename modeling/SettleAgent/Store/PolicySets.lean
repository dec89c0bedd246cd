import SettleAgent.Store.Memory
import Mathlib.Logic.Relation

/-!
# Versions of policies

The policy sets of an organization over any sequence of `CreatePolicySet`,
`ActivatePolicySet` and `SetPolicies`.  Sets are only ever appended, under the
next version, and nothing of a set changes but its status.  An activation that
succeeds leaves exactly one set active.
-/

namespace SettleAgent

/-- A call that writes policy sets, with the identifier and the time that it
draws. -/
inductive PolicyCall : Type
  | createPolicySet (uid : String) (now : Time) (orgID : String)
      (rules : List PolicyRule) (createdBy : String)
  | activatePolicySet (orgID : String) (version : Int)
  | setPolicies (uid : String) (now : Time) (orgID : String)
      (rules : List PolicyRule)

namespace PolicyCall

/-- The organization of a call. -/
def orgID : PolicyCall → String
  | .createPolicySet _ _ orgID _ _ => orgID
  | .activatePolicySet orgID _ => orgID
  | .setPolicies _ _ orgID _ => orgID

def apply (store : MemoryStore) : PolicyCall → MemoryStore
  | .createPolicySet uid now orgID rules createdBy =>
      (store.createPolicySet uid now orgID rules createdBy).2
  | .activatePolicySet orgID version =>
      (store.activatePolicySet orgID version).2
  | .setPolicies uid now orgID rules => store.setPolicies uid now orgID rules

/-- The call activates a set.  `SetPolicies` always does. -/
def Activates (store : MemoryStore) : PolicyCall → Prop
  | .createPolicySet _ _ _ _ _ => False
  | .activatePolicySet orgID version =>
      (store.activatePolicySet orgID version).1 = true
  | .setPolicies _ _ _ _ => True

/-- The calls one after the other. -/
def run (store : MemoryStore) (calls : List PolicyCall) : MemoryStore :=
  calls.foldl apply store

end PolicyCall

/-- What of a policy set must never change. -/
def PolicySet.face (set : PolicySet) :
    Int × String × List PolicyRule × String :=
  (set.version, set.id, set.rules, set.createdBy)

/-- The number of active sets. -/
def activeCount (sets : List PolicySet) : Nat :=
  sets.countP fun set => set.status = .active

/-- The versions are `1, …, n` in order of creation, and at most one of them is
active. -/
structure Versioned (sets : List PolicySet) : Prop where
  versions : sets.map PolicySet.version =
    (List.range sets.length).map fun position : Nat => (position : Int) + 1
  active : activeCount sets ≤ 1

/-! ## The two changes of a list of sets -/

/-- The new draft of `CreatePolicySet`. -/
def draftOf (uid : String) (now : Time) (orgID : String)
    (rules : List PolicyRule) (createdBy : String) (sets : List PolicySet) :
    PolicySet :=
  { id := uid, orgID := orgID, version := MemoryStore.latestVersion sets + 1,
    rules := rules, status := .draft, createdBy := createdBy,
    createdAt := now }

/-- The loop of `ActivatePolicySet` on one set. -/
def PolicySet.marked (version : Int) (set : PolicySet) : PolicySet :=
  if set.version = version then { set with status := .active }
  else if set.status = .active then { set with status := .disabled }
  else set

theorem face_marked (version : Int) (set : PolicySet) :
    (set.marked version).face = set.face := by
  unfold PolicySet.marked
  split
  · rfl
  split <;> rfl

theorem marked_active (version : Int) (set : PolicySet) :
    (set.marked version).status = .active ↔ set.version = version := by
  unfold PolicySet.marked
  split
  · simp_all
  split <;> simp_all

theorem map_face_marked (version : Int) (sets : List PolicySet) :
    (sets.map (PolicySet.marked version)).map PolicySet.face =
      sets.map PolicySet.face := by
  rw [List.map_map]
  exact List.map_congr_left fun set _ => face_marked version set

/-- Equal faces have equal versions. -/
theorem versions_of_faces {first second : List PolicySet}
    (same : first.map PolicySet.face = second.map PolicySet.face) :
    first.map PolicySet.version = second.map PolicySet.version := by
  have versions := congrArg (List.map Prod.fst) same
  rw [List.map_map, List.map_map] at versions
  exact versions

variable {sets : List PolicySet}

/-- The highest of the versions `1, …, n`. -/
theorem Versioned.latestVersion (versioned : Versioned sets) :
    MemoryStore.latestVersion sets = sets.length := by
  have highest (count : Nat) :
      ((List.range count).map fun position : Nat =>
        (position : Int) + 1).foldl max 0 = count := by
    induction count with
    | zero => rfl
    | succ count inductionHypothesis =>
        rw [List.range_succ, List.map_append, List.foldl_append,
          inductionHypothesis]
        simp only [List.map_cons, List.map_nil, List.foldl_cons,
          List.foldl_nil]
        omega
  rw [← highest, ← versioned.versions, List.foldl_map]
  rfl

theorem Versioned.nodup (versioned : Versioned sets) :
    (sets.map PolicySet.version).Nodup := by
  rw [versioned.versions]
  refine List.nodup_range.map ?_
  intro first second equal
  simpa using equal

variable {version : Int}

theorem Versioned.mem_versions (versioned : Versioned sets) :
    version ∈ sets.map PolicySet.version ↔
      1 ≤ version ∧ version ≤ sets.length := by
  rw [versioned.versions, List.mem_map]
  constructor
  · rintro ⟨position, member, rfl⟩
    have bound := List.mem_range.mp member
    omega
  · rintro ⟨positive, bound⟩
    refine ⟨(version - 1).toNat, List.mem_range.mpr ?_, ?_⟩ <;> omega

theorem Versioned.concat (versioned : Versioned sets)
    (uid : String) (now : Time) (orgID : String) (rules : List PolicyRule)
    (createdBy : String) :
    Versioned (sets ++ [draftOf uid now orgID rules createdBy sets]) where
  versions := by
    rw [List.map_append, versioned.versions, List.length_append,
      List.length_singleton, List.range_succ, List.map_append]
    simp [draftOf, versioned.latestVersion]
  active := by
    rw [activeCount, List.countP_append]
    simpa [draftOf, activeCount] using versioned.active

/-- A version that exists is the only active one after its activation. -/
theorem Versioned.activeCount_marked
    (versioned : Versioned sets)
    (there : version ∈ sets.map PolicySet.version) :
    activeCount (sets.map (PolicySet.marked version)) = 1 := by
  have counted : activeCount (sets.map (PolicySet.marked version)) =
      (sets.map PolicySet.version).count version := by
    rw [activeCount, List.countP_map, List.count, List.countP_map]
    refine List.countP_congr fun set _ => ?_
    simp [marked_active]
  rw [counted]
  exact List.count_eq_one_of_mem versioned.nodup there

theorem Versioned.marked (versioned : Versioned sets)
    (there : version ∈ sets.map PolicySet.version) :
    Versioned (sets.map (PolicySet.marked version)) where
  versions := by
    rw [versions_of_faces (map_face_marked version sets), versioned.versions,
      List.length_map]
  active := (versioned.activeCount_marked there).le

/-- One change of the sets of an organization: a new draft, or the activation of
a version that exists. -/
inductive Amends : List PolicySet → List PolicySet → Prop
  | draft (uid : String) (now : Time) (orgID : String)
      (rules : List PolicyRule) (createdBy : String) (sets : List PolicySet) :
      Amends sets (sets ++ [draftOf uid now orgID rules createdBy sets])
  | mark (version : Int) (sets : List PolicySet)
      (there : version ∈ sets.map PolicySet.version) :
      Amends sets (sets.map (PolicySet.marked version))

section Evolution

variable {before after : List PolicySet}

theorem Amends.versioned (amends : Amends before after)
    (versioned : Versioned before) : Versioned after := by
  cases amends with
  | draft uid now orgID rules createdBy =>
      exact versioned.concat uid now orgID rules createdBy
  | mark version _ there => exact versioned.marked there

/-- An organization that has an active set keeps having one. -/
theorem Amends.activeCount (amends : Amends before after)
    (versioned : Versioned before) (one : activeCount before = 1) :
    SettleAgent.activeCount after = 1 := by
  cases amends with
  | draft uid now orgID rules createdBy =>
      rw [SettleAgent.activeCount, List.countP_append]
      simpa [draftOf, SettleAgent.activeCount] using one
  | mark version _ there => exact versioned.activeCount_marked there

theorem Amends.faces (amends : Amends before after) :
    before.map PolicySet.face <+: after.map PolicySet.face := by
  cases amends with
  | draft uid now orgID rules createdBy =>
      rw [List.map_append]
      exact List.prefix_append _ _
  | mark version _ there =>
      exact ⟨[], by rw [map_face_marked, List.append_nil]⟩

open Relation

theorem versioned_of_amended (amended : ReflTransGen Amends before after)
    (versioned : Versioned before) : Versioned after := by
  induction amended with
  | refl => exact versioned
  | tail _ amends inductionHypothesis =>
      exact amends.versioned inductionHypothesis

theorem activeCount_of_amended (amended : ReflTransGen Amends before after)
    (versioned : Versioned before) (one : activeCount before = 1) :
    activeCount after = 1 := by
  induction amended with
  | refl => exact one
  | tail earlier amends inductionHypothesis =>
      exact amends.activeCount (versioned_of_amended earlier versioned)
        inductionHypothesis

theorem faces_of_amended (amended : ReflTransGen Amends before after) :
    before.map PolicySet.face <+: after.map PolicySet.face := by
  induction amended with
  | refl => exact List.prefix_rfl
  | tail _ amends inductionHypothesis =>
      exact inductionHypothesis.trans amends.faces

end Evolution

/-! ## Calls -/

section Calls

variable {store : MemoryStore}

theorem policySetsOf_set (sets : List PolicySet) (orgID other : String) :
    MemoryStore.policySetsOf
        { store with policySets := store.policySets.set orgID sets } other =
      if other = orgID then sets else store.policySetsOf other := by
  unfold MemoryStore.policySetsOf
  simp only [Table.get?_set]
  split <;> rfl

theorem activatePolicySet_iff (orgID : String) (version : Int) :
    (store.activatePolicySet orgID version).1 = true ↔
      version ∈ (store.policySetsOf orgID).map PolicySet.version := by
  simp only [MemoryStore.activatePolicySet, List.mem_map]
  split <;> simp_all

variable {orgID : String}

/-- An activation that fails changes nothing. -/
theorem activatePolicySet_of_failed
    (failed : (store.activatePolicySet orgID version).1 = false) :
    (store.activatePolicySet orgID version).2 = store := by
  simp only [MemoryStore.activatePolicySet] at failed ⊢
  split at failed
  · cases failed
  · rw [if_neg (by assumption)]

theorem policySetsOf_createPolicySet (uid : String) (now : Time)
    (orgID : String) (rules : List PolicyRule) (createdBy other : String) :
    (store.createPolicySet uid now orgID rules createdBy).2.policySetsOf
        other =
      if other = orgID then store.policySetsOf orgID ++
        [draftOf uid now orgID rules createdBy (store.policySetsOf orgID)]
      else store.policySetsOf other :=
  policySetsOf_set _ orgID other

theorem policySetsOf_activatePolicySet
    (there : version ∈ (store.policySetsOf orgID).map PolicySet.version)
    (other : String) :
    (store.activatePolicySet orgID version).2.policySetsOf other =
      if other = orgID then
        (store.policySetsOf orgID).map (PolicySet.marked version)
      else store.policySetsOf other := by
  have found : ((store.policySetsOf orgID).any fun set =>
      set.version = version) = true := by
    simpa using there
  simp only [MemoryStore.activatePolicySet, if_pos found]
  exact policySetsOf_set _ orgID other

/-- `SetPolicies` activates the draft that it creates. -/
theorem latestVersion_created
    (versioned : Versioned (store.policySetsOf orgID)) (uid : String)
    (now : Time) (rules : List PolicyRule) (createdBy : String) :
    let created := (store.createPolicySet uid now orgID rules createdBy).2
    MemoryStore.latestVersion (created.policySetsOf orgID) ∈
      (created.policySetsOf orgID).map PolicySet.version := by
  intro created
  have sets : created.policySetsOf orgID = store.policySetsOf orgID ++
      [draftOf uid now orgID rules createdBy (store.policySetsOf orgID)] := by
    rw [policySetsOf_createPolicySet, if_pos rfl]
  have latest :=
    (versioned.concat uid now orgID rules createdBy).latestVersion
  rw [sets, latest, List.map_append, List.mem_append, List.map_singleton,
    List.mem_singleton]
  right
  simp [draftOf, versioned.latestVersion]

theorem amended_createPolicySet (uid : String) (now : Time) (orgID : String)
    (rules : List PolicyRule) (createdBy other : String) :
    Relation.ReflTransGen Amends (store.policySetsOf other)
      ((store.createPolicySet uid now orgID rules createdBy).2.policySetsOf
        other) := by
  rw [policySetsOf_createPolicySet]
  by_cases same : other = orgID
  · rw [if_pos same, same]
    exact .single (.draft uid now orgID rules createdBy _)
  · rw [if_neg same]

theorem amended_activatePolicySet (orgID : String) (version : Int)
    (other : String) :
    Relation.ReflTransGen Amends (store.policySetsOf other)
      ((store.activatePolicySet orgID version).2.policySetsOf other) := by
  cases activated : (store.activatePolicySet orgID version).1 with
  | false => rw [activatePolicySet_of_failed activated]
  | true =>
      have there := (activatePolicySet_iff orgID version).mp activated
      rw [policySetsOf_activatePolicySet there]
      by_cases same : other = orgID
      · rw [if_pos same, same]
        exact .single (.mark version _ there)
      · rw [if_neg same]

/-- Every call changes the sets of an organization step by step. -/
theorem PolicyCall.amended (call : PolicyCall) (orgID : String) :
    Relation.ReflTransGen Amends (store.policySetsOf orgID)
      ((call.apply store).policySetsOf orgID) := by
  cases call with
  | createPolicySet uid now org rules createdBy =>
      exact amended_createPolicySet uid now org rules createdBy orgID
  | activatePolicySet org version =>
      exact amended_activatePolicySet org version orgID
  | setPolicies uid now org rules =>
      exact (amended_createPolicySet uid now org rules "system" orgID).trans
        (amended_activatePolicySet org _ orgID)

theorem PolicyCall.amended_run (calls : List PolicyCall) (orgID : String) :
    Relation.ReflTransGen Amends (store.policySetsOf orgID)
      ((run store calls).policySetsOf orgID) := by
  induction calls generalizing store with
  | nil => exact .refl
  | cons call calls inductionHypothesis =>
      exact (call.amended orgID).trans inductionHypothesis

/-- A call leaves the sets of other organizations alone. -/
theorem PolicyCall.policySetsOf_apply_of_ne {call : PolicyCall}
    (other : orgID ≠ call.orgID) :
    (call.apply store).policySetsOf orgID = store.policySetsOf orgID := by
  have activating (store : MemoryStore) (org : String) (version : Int)
      (other : orgID ≠ org) :
      (store.activatePolicySet org version).2.policySetsOf orgID =
        store.policySetsOf orgID := by
    cases activated : (store.activatePolicySet org version).1 with
    | false => rw [activatePolicySet_of_failed activated]
    | true =>
        rw [policySetsOf_activatePolicySet
          ((activatePolicySet_iff org version).mp activated), if_neg other]
  cases call with
  | createPolicySet uid now org rules createdBy =>
      exact (policySetsOf_createPolicySet uid now org rules createdBy
        orgID).trans (if_neg other)
  | activatePolicySet org version => exact activating store org version other
  | setPolicies uid now org rules =>
      refine (activating _ org _ other).trans ?_
      exact (policySetsOf_createPolicySet uid now org rules "system"
        orgID).trans (if_neg other)

theorem activeCount_activatePolicySet
    (versioned : Versioned (store.policySetsOf orgID))
    (there : version ∈ (store.policySetsOf orgID).map PolicySet.version) :
    activeCount ((store.activatePolicySet orgID version).2.policySetsOf
      orgID) = 1 := by
  rw [policySetsOf_activatePolicySet there, if_pos rfl]
  exact versioned.activeCount_marked there

/-- A call that activates a set leaves one active. -/
theorem PolicyCall.activeCount_of_activates {call : PolicyCall}
    (versioned : Versioned (store.policySetsOf call.orgID))
    (activates : call.Activates store) :
    activeCount ((call.apply store).policySetsOf call.orgID) = 1 := by
  cases call with
  | createPolicySet uid now org rules createdBy => exact activates.elim
  | activatePolicySet org version =>
      exact activeCount_activatePolicySet versioned
        ((activatePolicySet_iff org version).mp activates)
  | setPolicies uid now org rules =>
      apply activeCount_activatePolicySet
      · exact versioned_of_amended
          (amended_createPolicySet uid now org rules "system" org) versioned
      · exact latestVersion_created versioned uid now rules "system"

end Calls

/-- After every sequence of calls on a new store, the versions of an organization
are `1, …, n` in order of creation and at most one is active.  Whatever calls
follow, once a set was activated exactly one is active, and the version,
identifier, rules and author of a set stay as they are.  An activation that
fails changes nothing, the policies are the rules of the active set if there is
one, which is when exactly one is active, and a call leaves the sets of other
organizations alone. -/
theorem policy_sets_of_run {start : MemoryStore} (new : start.policySets = ∅)
    (calls more : List PolicyCall) (call : PolicyCall) (orgID : String) :
    let store := PolicyCall.run start calls
    let sets := store.policySetsOf orgID
    sets.map PolicySet.version =
        (List.range sets.length).map (fun position : Nat =>
          (position : Int) + 1) ∧
      activeCount sets ≤ 1 ∧
      (call.Activates store → activeCount ((PolicyCall.run start
        (calls ++ call :: more)).policySetsOf call.orgID) = 1) ∧
      sets.map PolicySet.face <+: ((PolicyCall.run start
        (calls ++ more)).policySetsOf orgID).map PolicySet.face ∧
      (∀ version, (store.activatePolicySet orgID version).1 = false →
        (store.activatePolicySet orgID version).2 = store) ∧
      (∀ set, store.activePolicySet orgID = some set →
        store.policiesOf orgID = set.rules) ∧
      (activeCount sets = 1 ↔ (store.activePolicySet orgID).isSome = true) ∧
      (orgID ≠ call.orgID →
        (call.apply store).policySetsOf orgID = sets) := by
  intro store sets
  have versioned (orgID : String) : Versioned (store.policySetsOf orgID) := by
    apply versioned_of_amended (PolicyCall.amended_run calls orgID)
    rw [MemoryStore.policySetsOf, new]
    exact ⟨rfl, Nat.zero_le 1⟩
  refine ⟨(versioned orgID).versions, (versioned orgID).active, ?_, ?_, ?_, ?_,
    ?_, PolicyCall.policySetsOf_apply_of_ne⟩
  · intro activates
    have one := PolicyCall.activeCount_of_activates (versioned call.orgID)
      activates
    rw [PolicyCall.run, List.foldl_append, List.foldl_cons]
    exact activeCount_of_amended (PolicyCall.amended_run more call.orgID)
      (versioned_of_amended (call.amended call.orgID) (versioned call.orgID))
      one
  · rw [PolicyCall.run, List.foldl_append]
    exact faces_of_amended (PolicyCall.amended_run more orgID)
  · exact fun version => activatePolicySet_of_failed
  · intro set active
    rw [MemoryStore.policiesOf_eq, active, Option.elim_some]
  · have some : 0 < activeCount sets ↔
        (store.activePolicySet orgID).isSome = true :=
      List.countP_pos_iff.trans List.find?_isSome.symm
    rw [← some]
    have atMost : activeCount sets ≤ 1 := (versioned orgID).active
    omega

/-- Two drafts, the first of which is activated. -/
theorem policy_sets_of_run_activated :
    let draft := PolicyCall.createPolicySet "id1" 0 "acme" [] "ops"
    let activate := PolicyCall.activatePolicySet "acme" 1
    activate.Activates (PolicyCall.run MemoryStore.new [draft, draft]) ∧
      activeCount ((PolicyCall.run MemoryStore.new
        [draft, draft, activate]).policySetsOf "acme") = 1 := by
  intro draft activate
  have activates : activate.Activates
      (PolicyCall.run MemoryStore.new [draft, draft]) := rfl
  refine ⟨activates, ?_⟩
  exact (@policy_sets_of_run MemoryStore.new rfl [draft, draft] [] activate
    "acme").2.2.1 activates

end SettleAgent
