import Mathlib.Data.List.AList
import Mathlib.Data.List.Sort

/-!
# String-keyed tables

Tables stand for maps keyed by strings.  They are Mathlib's association lists
without duplicate keys.  A map may be iterated in any order: `Table.select`
visits the entries by the rank of their keys, and every order of a map's
entries comes from some ranking of its keys.
-/

namespace SettleAgent

/-- A finite map from strings to values. -/
abbrev Table (V : Type) := AList fun _ : String => V

namespace Table

variable {V : Type}

/-- The value stored under a key. -/
def get? (table : Table V) (key : String) : Option V :=
  table.lookup key

/-- Store a value under a key, replacing what was there. -/
def set (table : Table V) (key : String) (value : V) : Table V :=
  table.insert key value

/-- The stored values, in no particular order. -/
def values (table : Table V) : List V :=
  table.entries.map Sigma.snd

/-- The stored values that satisfy a predicate, in the iteration order given
by a ranking of the keys. -/
def select (table : Table V) (rank : String → Nat) (keep : V → Bool) :
    List V :=
  ((table.entries.filter fun entry => keep entry.2).insertionSort
    fun left right => rank left.1 ≤ rank right.1).map Sigma.snd

@[simp] theorem get?_empty (key : String) :
    (∅ : Table V).get? key = none := rfl

@[simp] theorem values_empty : (∅ : Table V).values = [] := rfl

@[simp] theorem get?_set_self (table : Table V) (key : String) (value : V) :
    (table.set key value).get? key = some value :=
  AList.lookup_insert table

theorem get?_set_of_ne (table : Table V) {key other : String} (value : V)
    (different : other ≠ key) :
    (table.set key value).get? other = table.get? other :=
  AList.lookup_insert_ne different

theorem get?_set (table : Table V) (key other : String) (value : V) :
    (table.set key value).get? other =
      if other = key then some value else table.get? other := by
  by_cases same : other = key
  · subst same
    simp
  · rw [get?_set_of_ne table value same, if_neg same]

variable {table : Table V} {key : String} {value : V}

/-- What holds of the entries of a table and of a new one holds of the entries
after storing it. -/
theorem forall_get?_set {property : String → V → Prop}
    (others : ∀ other stored, other ≠ key → table.get? other = some stored →
      property other stored)
    (own : property key value) :
    ∀ other stored, (table.set key value).get? other = some stored →
      property other stored := by
  intro other stored present
  rw [get?_set] at present
  by_cases same : other = key
  · simp only [same, if_true, Option.some.injEq] at present
    rw [same, ← present]
    exact own
  · simp only [same, if_false] at present
    exact others other stored same present

theorem mem_values :
    value ∈ table.values ↔ ∃ key, table.get? key = some value := by
  simp only [values, List.mem_map, get?]
  constructor
  · rintro ⟨⟨key, stored⟩, present, equal⟩
    exact ⟨key, by
      rw [← equal]
      exact AList.mem_lookup_iff.mpr present⟩
  · rintro ⟨key, found⟩
    exact ⟨⟨key, value⟩, AList.mem_lookup_iff.mp found, rfl⟩

theorem mem_select {rank : String → Nat} {keep : V → Bool} :
    value ∈ table.select rank keep ↔
      keep value = true ∧ ∃ key, table.get? key = some value := by
  rw [← mem_values]
  simp only [select, values, List.mem_map, List.mem_insertionSort,
    List.mem_filter]
  constructor
  · rintro ⟨entry, ⟨present, kept⟩, equal⟩
    subst equal
    exact ⟨kept, entry, present, rfl⟩
  · rintro ⟨kept, entry, present, equal⟩
    subst equal
    exact ⟨entry, ⟨present, kept⟩, rfl⟩

/-- A selection lists the values that satisfy the predicate. -/
theorem perm_select (table : Table V) (rank : String → Nat) (keep : V → Bool) :
    (table.select rank keep).Perm (table.values.filter keep) := by
  rw [select, values, List.filter_map]
  apply List.Perm.map
  exact List.perm_insertionSort _ _

/-- Values that know their own key are stored once. -/
theorem nodup_map_values (name : V → String)
    (keyed : ∀ key value, table.get? key = some value → name value = key) :
    (table.values.map name).Nodup := by
  have names : table.values.map name = table.keys := by
    rw [values, List.map_map]
    refine List.map_congr_left fun entry present => ?_
    exact keyed entry.1 entry.2 (AList.mem_lookup_iff.mpr present)
  rw [names]
  exact table.nodupKeys

/-- Values that know their own key are selected at most once. -/
theorem nodup_map_select (name : V → String)
    (keyed : ∀ key value, table.get? key = some value → name value = key)
    (rank : String → Nat) (keep : V → Bool) :
    ((table.select rank keep).map name).Nodup := by
  have listed := (table.perm_select rank keep).map name
  rw [listed.nodup_iff]
  exact (nodup_map_values name keyed).sublist (List.filter_sublist.map name)

theorem pairwise_rank (rank : String → Nat) (entries : List (Σ _ : String, V)) :
    (entries.insertionSort fun left right =>
      rank left.1 ≤ rank right.1).Pairwise fun left right =>
        rank left.1 ≤ rank right.1 := by
  have trans : IsTrans (Σ _ : String, V) fun left right =>
      rank left.1 ≤ rank right.1 := ⟨fun _ _ _ => le_trans⟩
  have total : Std.Total fun left right : Σ _ : String, V =>
      rank left.1 ≤ rank right.1 := ⟨fun _ _ => le_total _ _⟩
  exact List.pairwise_insertionSort _ entries

/-- Values that know their own key are selected by ascending rank. -/
theorem pairwise_select (name : V → String)
    (keyed : ∀ key value, table.get? key = some value → name value = key)
    (rank : String → Nat) (keep : V → Bool) :
    (table.select rank keep).Pairwise fun first second =>
      rank (name first) ≤ rank (name second) := by
  have sorted := pairwise_rank rank
    (table.entries.filter fun entry => keep entry.2)
  rw [select, List.pairwise_map]
  refine sorted.imp_of_mem ?_
  intro left right leftMember rightMember ordered
  have named : ∀ entry ∈ (table.entries.filter fun entry =>
      keep entry.2).insertionSort (fun left right => rank left.1 ≤ rank right.1),
      name entry.2 = entry.1 := by
    intro entry present
    have stored : entry ∈ table.entries :=
      List.mem_of_mem_filter ((List.mem_insertionSort _).mp present)
    exact keyed entry.1 entry.2 (AList.mem_lookup_iff.mpr stored)
  rwa [named left leftMember, named right rightMember]

/-- The value whose key has the highest rank is selected last. -/
theorem getLast?_select (present : table.get? key = some value)
    {keep : V → Bool} (kept : keep value = true)
    {rank : String → Nat} (highest : ∀ other ≠ key, rank other < rank key) :
    (table.select rank keep).getLast? = some value := by
  have sorted := pairwise_rank rank
    (table.entries.filter fun entry => keep entry.2)
  have listed : ⟨key, value⟩ ∈ (table.entries.filter fun entry =>
      keep entry.2).insertionSort fun left right => rank left.1 ≤ rank right.1 := by
    rw [List.mem_insertionSort, List.mem_filter]
    exact ⟨AList.mem_lookup_iff.mp present, kept⟩
  rw [select, List.getLast?_map]
  rcases List.eq_nil_or_concat' ((table.entries.filter fun entry =>
      keep entry.2).insertionSort fun left right =>
        rank left.1 ≤ rank right.1) with empty | ⟨before, last, whole⟩
  · rw [empty] at listed
    cases listed
  rw [whole] at sorted listed ⊢
  have stored : last ∈ table.entries := by
    have member : last ∈ before ++ [last] := by simp
    rw [← whole, List.mem_insertionSort] at member
    exact List.mem_of_mem_filter member
  have bounded : rank key ≤ rank last.1 := by
    rcases List.mem_append.mp listed with earlier | final
    · exact (List.pairwise_append.mp sorted).2.2 _ earlier last (by simp)
    · rw [← List.mem_singleton.mp final]
  have same : last.1 = key := by
    by_contra different
    exact absurd (highest last.1 different) (by omega)
  have found : table.get? last.1 = some last.2 :=
    AList.mem_lookup_iff.mpr stored
  rw [same, present, Option.some.injEq] at found
  simp [← found]

/-- Storing a value under another key leaves the chosen keys alone. -/
theorem filter_keys_set (table : Table V) {keep : String → Bool} (value : V)
    (other : keep key = false) :
    (table.set key value).keys.filter keep = table.keys.filter keep := by
  have absent : key ∉ table.keys.filter keep := by
    simp [other]
  rw [set, AList.keys_insert, List.filter_cons_of_neg (by simp [other]),
    ← List.erase_filter, List.erase_of_not_mem absent]

/-- Storing under the same key in two tables that have the same chosen keys. -/
theorem filter_keys_set_congr {first second : Table V} {keep : String → Bool}
    (same : first.keys.filter keep = second.keys.filter keep)
    (key : String) (value : V) :
    (first.set key value).keys.filter keep =
      (second.set key value).keys.filter keep := by
  rw [set, set, AList.keys_insert, AList.keys_insert, List.filter_cons,
    List.filter_cons, ← List.erase_filter, ← List.erase_filter, same]

theorem get?_eq_none_of_notMem
    (absent : key ∉ table.keys) : table.get? key = none :=
  AList.lookup_eq_none.mpr absent

/-! ## Agreement on some of the values -/

/-- The entries whose values satisfy a predicate. -/
def restrict (table : Table V) (keep : V → Bool) : List (Σ _ : String, V) :=
  table.entries.filter fun entry => keep entry.2

/-- Two tables have the same entries among those that satisfy a predicate. -/
def Agree (keep : V → Bool) (first second : Table V) : Prop :=
  first.restrict keep = second.restrict keep

/-- Erasing a key and dropping entries commute. -/
theorem filter_kerase (keep : (Σ _ : String, V) → Bool) (key : String)
    {entries : List (Σ _ : String, V)} (distinct : entries.NodupKeys) :
    (entries.kerase key).filter keep = (entries.filter keep).kerase key := by
  induction entries with
  | nil => rfl
  | cons entry rest inductionHypothesis =>
      obtain ⟨absent, distinctRest⟩ := List.nodupKeys_cons.mp distinct
      by_cases same : key = entry.1
      · have absentKept : key ∉ (rest.filter keep).keys := by
          intro member
          rw [same] at member
          exact absent ((List.filter_sublist.map Sigma.fst).subset member)
        rw [List.kerase_cons_eq same]
        cases kept : keep entry with
        | true => rw [List.filter_cons_of_pos kept, List.kerase_cons_eq same]
        | false =>
            rw [List.filter_cons_of_neg (by simp [kept]),
              List.kerase_of_notMem_keys absentKept]
      · rw [List.kerase_cons_ne same]
        cases kept : keep entry with
        | true =>
            rw [List.filter_cons_of_pos kept, List.filter_cons_of_pos kept,
              List.kerase_cons_ne same, inductionHypothesis distinctRest]
        | false =>
            rw [List.filter_cons_of_neg (by simp [kept]),
              List.filter_cons_of_neg (by simp [kept]),
              inductionHypothesis distinctRest]

theorem restrict_set
    (table : Table V) (keep : V → Bool) (key : String) (value : V) :
    (table.set key value).restrict keep =
      [⟨key, value⟩].filter (fun entry => keep entry.2) ++
        (table.restrict keep).kerase key := by
  rw [restrict, set, AList.entries_insert, restrict,
    ← filter_kerase _ key table.nodupKeys, ← List.filter_append]
  rfl

theorem mem_restrict {keep : V → Bool} :
    ⟨key, value⟩ ∈ table.restrict keep ↔
      table.get? key = some value ∧ keep value = true := by
  rw [restrict, List.mem_filter, get?]
  exact and_congr_left' AList.mem_lookup_iff.symm

namespace Agree

variable {keep : V → Bool} {first second third : Table V}

theorem refl (table : Table V) : Agree keep table table := rfl

section

variable (agree : Agree keep first second)

include agree

theorem symm : Agree keep second first :=
  Eq.symm agree

theorem trans
    (following : Agree keep second third) : Agree keep first third :=
  Eq.trans agree following

/-- Agreement on more values. -/
theorem mono {weaker : V → Bool}
    (implies : ∀ value, weaker value = true → keep value = true) :
    Agree weaker first second := by
  have both : ∀ table : Table V, table.restrict weaker =
      (table.restrict keep).filter fun entry => weaker entry.2 := by
    intro table
    rw [restrict, restrict, List.filter_filter]
    refine List.filter_congr fun entry _ => ?_
    cases held : weaker entry.2 with
    | true => simp [implies _ held]
    | false => rfl
  rw [Agree, both first, both second, agree]

theorem get?
    (kept : keep value = true) :
    first.get? key = some value ↔ second.get? key = some value := by
  have same : ⟨key, value⟩ ∈ first.restrict keep ↔
      ⟨key, value⟩ ∈ second.restrict keep := by
    rw [show first.restrict keep = second.restrict keep from agree]
  simpa only [mem_restrict, kept, and_true] using same

/-- A lookup of the values on which the tables agree. -/
theorem filter_get? (key : String) :
    (first.get? key).filter keep = (second.get? key).filter keep := by
  refine Option.ext fun value => ?_
  rw [Option.filter_eq_some_iff, Option.filter_eq_some_iff]
  exact and_congr_left fun kept => agree.get? kept

/-- What is selected of the values on which the tables agree. -/
theorem select (rank : String → Nat) :
    first.select rank keep = second.select rank keep := by
  have same : first.entries.filter (fun entry => keep entry.2) =
      second.entries.filter fun entry => keep entry.2 := agree
  rw [Table.select, Table.select, same]

/-- Store the same value in both. -/
theorem set (key : String) (value : V) :
    Agree keep (first.set key value) (second.set key value) := by
  rw [Agree, restrict_set, restrict_set, agree]

end

/-- Storing a value that is none of these in the place of another such one, or
in a new place. -/
theorem set_other (other : keep value = false)
    (replaced : ∀ old, table.get? key = some old → keep old = false) :
    Agree keep table (table.set key value) := by
  have absent : key ∉ (table.restrict keep).keys := by
    intro member
    obtain ⟨old, present⟩ := List.exists_of_mem_keys member
    obtain ⟨stored, kept⟩ := mem_restrict.mp present
    simp [replaced old stored] at kept
  rw [Agree, restrict_set, List.kerase_of_notMem_keys absent]
  simp [other]

end Agree
/-- What reading a stored value under a condition returns: the value, when it
satisfies the condition. -/
theorem kept_eq_some (kept : V → Prop) [DecidablePred kept] {stored value : V} :
    (if kept stored then some stored else none) = some value ↔
      some stored = some value ∧ kept value := by
  rw [Option.ite_none_right_eq_some, and_comm]
  refine and_congr_right fun same => ?_
  rw [Option.some.inj same]

/-- Reading a stored value unless it is marked returns it when it is not. -/
theorem unmarked_eq_some (marked : V → Bool) {stored value : V} :
    (if marked stored then none else some stored) = some value ↔
      some stored = some value ∧ marked value = false := by
  rw [Option.ite_none_left_eq_some, and_comm, Bool.not_eq_true]
  refine and_congr_right fun same => ?_
  rw [Option.some.inj same]

end Table
end SettleAgent
