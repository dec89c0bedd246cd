import Mathlib.Data.List.Induction

/-!
# Hash chains

A chain is a list of links.  Every link names the hash of the link before it
and carries the digest of that hash and of its own payload.  `head` is the hash
that the next link has to name.

If the digest binds what it is computed from, a chain is determined by its
head, and a link can only be replaced unnoticed at the end of the chain.
-/

namespace SettleAgent
namespace HashChain

variable {H P : Type}

structure Link (H P : Type) where
  prev : H
  hash : H
  payload : P

/-- The hash of the last link, or the given one if there is none. -/
def head (start : H) : List (Link H P) → H
  | [] => start
  | link :: rest => head link.hash rest

/-- Every link continues the one before it, the first one the given hash. -/
def Chained (digest : H → P → H) (start : H) : List (Link H P) → Prop
  | [] => True
  | link :: rest =>
      link.prev = start ∧ link.hash = digest start link.payload ∧
        Chained digest link.hash rest

theorem head_append (start : H) (first second : List (Link H P)) :
    head start (first ++ second) = head (head start first) second := by
  induction first generalizing start with
  | nil => rfl
  | cons link rest inductionHypothesis => exact inductionHypothesis link.hash

theorem head_eq_getLast? (start : H) (links : List (Link H P)) :
    head start links = (links.getLast?.map Link.hash).getD start := by
  induction links generalizing start with
  | nil => rfl
  | cons link rest inductionHypothesis =>
      rw [head, inductionHypothesis, List.getLast?_cons]
      cases rest.getLast? <;> rfl

variable {digest : H → P → H} {start : H}

theorem chained_append {first second : List (Link H P)} :
    Chained digest start (first ++ second) ↔
      Chained digest start first ∧
        Chained digest (head start first) second := by
  induction first generalizing start with
  | nil => simp [Chained, head]
  | cons link rest inductionHypothesis =>
      simp only [List.cons_append, Chained, head, inductionHypothesis,
        and_assoc]

variable {links : List (Link H P)} {link : Link H P}

/-- A link that names the head and carries its digest continues the chain. -/
theorem Chained.concat (chained : Chained digest start links)
    (continues : link.prev = head start links)
    (digested : link.hash = digest link.prev link.payload) :
    Chained digest start (links ++ [link]) := by
  rw [chained_append]
  refine ⟨chained, continues, ?_, trivial⟩
  rw [digested, continues]

/-- A walk along a chain returns the position of the first link that does not
continue it.  One step of it comes to -1 exactly if the link continues the chain
and the rest of the walk comes to -1. -/
theorem chained_step_iff (link : Link H P) [DecidableEq H] {index rest : Int}
    (position : 0 ≤ index)
    (walks : rest = -1 ↔ Chained digest link.hash links) :
    (if link.prev ≠ start ∨ link.hash ≠ digest start link.payload then index
      else rest) = -1 ↔ Chained digest start (link :: links) := by
  rw [Chained, ← walks]
  split
  · rename_i broken
    constructor
    · omega
    · rintro ⟨named, digested, _⟩
      rcases broken with other | other
      · exact absurd named other
      · exact absurd digested other
  · rename_i continues
    rw [not_or, not_not, not_not] at continues
    exact ⟨fun passes => ⟨continues.1, continues.2, passes⟩,
      fun passes => passes.2.2⟩

/-! ## Links with other payloads -/

/-- The link with its payload translated. -/
def Link.map {Q : Type} (translate : P → Q) (link : Link H P) : Link H Q where
  prev := link.prev
  hash := link.hash
  payload := translate link.payload

/-- A digest of translated payloads chains the translated links. -/
theorem chained_map {Q : Type} (digest : H → Q → H) (translate : P → Q)
    (start : H) (links : List (Link H P)) :
    Chained digest start (links.map (Link.map translate)) ↔
      Chained (fun prev payload => digest prev (translate payload)) start
        links := by
  induction links generalizing start with
  | nil => rfl
  | cons link rest inductionHypothesis =>
      simp only [List.map_cons, Chained, inductionHypothesis]
      rfl

/-! ## Replacing a link -/

/-- What follows a link continues another hash only if there is none. -/
theorem chained_of_chained {start other : H}
    (chained : Chained digest start links) :
    Chained digest other links ↔ links = [] ∨ other = start := by
  cases links with
  | nil => simp [Chained]
  | cons link rest =>
      constructor
      · intro elsewhere
        exact .inr (elsewhere.1.symm.trans chained.1)
      · rintro (empty | rfl)
        · cases empty
        · exact chained

/-- A link of a chain replaced by another one. -/
theorem chained_replace_iff
    {before after : List (Link H P)} {original altered : Link H P}
    (chained : Chained digest start (before ++ original :: after)) :
    Chained digest start (before ++ altered :: after) ↔
      altered.prev = original.prev ∧
        altered.hash = digest altered.prev altered.payload ∧
          (after = [] ∨ altered.hash = original.hash) := by
  obtain ⟨earlier, named, digested, later⟩ := chained_append.mp chained
  rw [chained_append, Chained, chained_of_chained later, ← named]
  constructor
  · rintro ⟨_, same, hashed, rest⟩
    exact ⟨same, by rw [hashed, same], rest⟩
  · rintro ⟨same, hashed, rest⟩
    exact ⟨earlier, same, by rw [hashed, same], rest⟩

/-- Where the digest binds the payload, the replacement goes unnoticed only if
it changes nothing or if it is a new end of the chain. -/
theorem chained_replace_iff_of_injective
    (binds : ∀ prev, Function.Injective (digest prev))
    {before after : List (Link H P)} {original altered : Link H P}
    (chained : Chained digest start (before ++ original :: after)) :
    Chained digest start (before ++ altered :: after) ↔
      altered = original ∨
        after = [] ∧ altered.prev = original.prev ∧
          altered.hash = digest altered.prev altered.payload ∧
            altered.hash ≠ original.hash := by
  rw [chained_replace_iff chained]
  constructor
  · rintro ⟨same, hashed, rest⟩
    by_cases equal : altered.hash = original.hash
    · obtain ⟨_, named, digested, _⟩ := chained_append.mp chained
      rw [← named] at digested
      rw [equal, digested, same] at hashed
      obtain ⟨prev, hash, payload⟩ := altered
      obtain ⟨prev', hash', payload'⟩ := original
      obtain rfl := binds _ hashed
      obtain rfl : prev = prev' := same
      obtain rfl : hash = hash' := equal
      exact .inl rfl
    · exact .inr ⟨rest.resolve_right equal, same, hashed, equal⟩
  · rintro (rfl | ⟨last, same, hashed, _⟩)
    · exact (chained_replace_iff chained).mp chained
    · exact ⟨same, hashed, .inl last⟩

/-! ## What the head determines -/

/-- The hashes that a link of a chain can name: its start, and digests of
hashes that can be named. -/
inductive Nameable (digest : H → P → H) (start : H) : H → Prop
  | start : Nameable digest start start
  | digest (prev : H) (payload : P) :
      Nameable digest start prev → Nameable digest start (digest prev payload)

/-- No digest is the start, and a digest determines what it was computed
from. -/
structure Binding (digest : H → P → H) (start : H) : Prop where
  ne_start : ∀ prev payload, digest prev payload ≠ start
  injective : ∀ {prev other payload content},
    Nameable digest start prev → Nameable digest start other →
      digest prev payload = digest other content →
        prev = other ∧ payload = content

theorem Chained.nameable_head {start origin : H}
    (chained : Chained digest start links)
    (begins : Nameable digest origin start) :
    Nameable digest origin (head start links) := by
  induction links generalizing start with
  | nil => exact begins
  | cons link rest inductionHypothesis =>
      obtain ⟨_, digested, later⟩ := chained
      apply inductionHypothesis later
      rw [digested]
      exact .digest _ _ begins

/-- Every link of a chain names a hash that can be named, and carries its
digest. -/
theorem Chained.mem {start origin : H} (chained : Chained digest start links)
    (begins : Nameable digest origin start)
    (member : link ∈ links) :
    Nameable digest origin link.prev ∧
      link.hash = digest link.prev link.payload := by
  induction links generalizing start with
  | nil => cases member
  | cons first rest inductionHypothesis =>
      obtain ⟨named, digested, later⟩ := chained
      rcases List.mem_cons.mp member with rfl | behind
      · rw [named]
        exact ⟨begins, digested⟩
      · apply inductionHypothesis later ?_ behind
        rw [digested]
        exact .digest _ _ begins

theorem Chained.concat_inv (chained : Chained digest start (links ++ [link])) :
    Chained digest start links ∧ link.prev = head start links ∧
      link.hash = digest (head start links) link.payload := by
  obtain ⟨earlier, named, digested, _⟩ := chained_append.mp chained
  exact ⟨earlier, named, digested⟩

theorem head_concat (start : H) (links : List (Link H P)) (link : Link H P) :
    head start (links ++ [link]) = link.hash := by
  rw [head_append]
  rfl

/-- A chain that is not empty does not end in its start. -/
theorem Binding.head_concat_ne (binding : Binding digest start)
    (chained : Chained digest start (links ++ [link])) :
    head start (links ++ [link]) ≠ start := by
  rw [head_concat, chained.concat_inv.2.2]
  exact binding.ne_start _ _

/-- Chains with the same head are the same. -/
theorem Binding.eq_of_head_eq
    (binding : Binding digest start) {first second : List (Link H P)}
    (chainedFirst : Chained digest start first)
    (chainedSecond : Chained digest start second)
    (ends : head start first = head start second) :
    first = second := by
  -- From the last links on: equal hashes have equal previous hashes, which are
  -- the heads of what comes before.
  induction first using List.reverseRecOn generalizing second with
  | nil =>
      cases second using List.reverseRecOn with
      | nil => rfl
      | append_singleton rest link =>
          exact absurd ends.symm (binding.head_concat_ne chainedSecond)
  | append_singleton front last inductionHypothesis =>
      cases second using List.reverseRecOn with
      | nil => exact absurd ends (binding.head_concat_ne chainedFirst)
      | append_singleton rest link =>
          obtain ⟨earlier, named, digested⟩ := chainedFirst.concat_inv
          obtain ⟨earlier', named', digested'⟩ := chainedSecond.concat_inv
          rw [head_concat, head_concat] at ends
          have bound := binding.injective (earlier.nameable_head .start)
            (earlier'.nameable_head .start)
            (digested.symm.trans (ends.trans digested'))
          have fronts := inductionHypothesis earlier earlier' bound.1
          have lasts : last = link := by
            obtain ⟨prev, hash, payload⟩ := last
            obtain ⟨prev', hash', payload'⟩ := link
            obtain rfl : hash = hash' := ends
            obtain rfl : payload = payload' := bound.2
            obtain rfl : prev = prev' :=
              named.trans (bound.1.trans named'.symm)
            rfl
          rw [fronts, lasts]

end HashChain
end SettleAgent
